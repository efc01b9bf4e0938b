import Kennel.Json.Decoder

/-!
# Replies of the container engine

The engine answers in JSON. A list comes as one document. Measurements come as a stream of
documents, each ended by a line break; of these only the first is of interest.
-/

namespace Kennel.Engine

open Json

/-- A reply: its status and its body. -/
structure Reply where
  status : Nat
  body : String
  deriving DecidableEq, Inhabited

namespace Reply

/-- The reply to a request for something that is not there. -/
def missing : Reply := ⟨404, ""⟩

/-- Whether the request succeeded. -/
def isSuccess (r : Reply) : Bool := 200 ≤ r.status && r.status < 300

/-- The body as it arrives: a reply without content has none. -/
def content (r : Reply) : String := if r.status = 204 then "" else r.body

/-- What a whole reply holds, if it can be taken. -/
def whole? {α : Type} (d : Decoder α) (r : Reply) : Option α :=
  if r.isSuccess then (decodeText d r.content).toOption else none

/-- The text up to the first line break and the text after it, or all of it if there is none. -/
def splitLine (s : List Char) : List Char × Option (List Char) :=
  match s.span (· != '\n') with
  | (line, _ :: rest) => (line, some rest)
  | (line, []) => (line, none)

/-- What a line holds: `none` within, if there is nothing in it yet. -/
def takeLine {α : Type} (d : Decoder α) (line : List Char) : Except Fault (Option α) :=
  match decodeText (.option d) (String.ofList line) with
  | .error .truncated => .ok none
  | taken => taken

/-- The first document of a stream, if it can be taken. Where a line holds no document, its line
break may stand within one, so it is taken out and what is then the first line is tried, once. -/
def firstDocument? {α : Type} (d : Decoder α) (r : Reply) : Option α :=
  if r.isSuccess then
    let (line, rest?) := splitLine r.content.toList
    match takeLine d line, rest? with
    | .ok (some a), _ => some a
    | .ok none, some rest => ((takeLine d (splitLine (line ++ rest)).1).toOption).join
    | _, _ => none
  else none

end Reply

end Kennel.Engine
