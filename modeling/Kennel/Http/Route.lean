import Kennel.Json.Reading

/-!
# Routes

What a client can ask for by its target: the path, of which the segment with an ID may be written
with percent escapes. A route is served for one method; where that is GET, HEAD is served too.
-/

namespace Kennel.Http

open Json

/-- What is done on a request. -/
inductive Method where
  | get
  | head
  | post
  | options
  /-- Another method; no route is served for it. -/
  | other
  deriving DecidableEq, Inhabited

def Method.ofName : String → Method
  | "GET" => .get
  | "HEAD" => .head
  | "POST" => .post
  | "OPTIONS" => .options
  | _ => .other

/-- What a client can ask of one pup. -/
inductive PupPage where
  | record
  | dependencies
  | canStart
  /-- Renders the configuration of the pup and applies it. -/
  | applyConfig
  deriving DecidableEq, Inhabited

/-- What a client can ask for. -/
inductive Route where
  | greeting
  | version
  | pups
  /-- A page of the pup whose ID stands, with its escapes, in this segment. -/
  | pup (segment : String) (page : PupPage)
  | stats
  | noticeSocket
  | statsSocket
  deriving DecidableEq, Inhabited

/-- The path of a target: what stands before the query. -/
def pathOf (target : String) : String :=
  String.ofList (target.toList.takeWhile fun c => c != '?' && c != '#')

namespace Route

/-- The page of a pup that these segments after its own lead to. -/
def page? : List String → Option PupPage
  | [] => some .record
  | ["dependencies"] => some .dependencies
  | ["can-start"] => some .canStart
  | ["apply-config"] => some .applyConfig
  | _ => none

/-- The route of a target, if there is one. -/
def ofTarget? (target : String) : Option Route :=
  match (pathOf target).splitOn "/" with
  | ["", ""] => some .greeting
  | ["", "version"] => some .version
  | ["", "api", "pups"] => some .pups
  | ["", "api", "stats"] => some .stats
  | ["", "ws", "pupdates"] => some .noticeSocket
  | ["", "ws", "stats"] => some .statsSocket
  | "" :: "api" :: "pups" :: segment :: rest =>
    if segment.isEmpty then none else (page? rest).map (.pup segment)
  | _ => none

/-- Whether the route changes something, so that it is served for POST alone. -/
def isAction : Route → Bool
  | pup _ .applyConfig => true
  | _ => false

def serves (r : Route) (m : Method) : Bool :=
  if r.isAction then m == .post else m == .get || m == .head

def allow (r : Route) : String := if r.isAction then "POST" else "GET,HEAD"

end Route

/-- The bytes of a segment, each percent sign with two hexadecimal digits after it replaced by the
byte that they denote. Other percent signs stand for themselves. -/
def unescape : List Char → ByteArray :=
  go ByteArray.empty
where
  /-- Goes on after the bytes that are known. -/
  go (done : ByteArray) : List Char → ByteArray
    | [] => done
    | '%' :: high :: low :: rest =>
      match hexValue? high, hexValue? low with
      | some h, some l => go (done.push (16 * h + l).toUInt8) rest
      | _, _ => go (done.push 37) (high :: low :: rest)
    | c :: rest => go (done ++ (String.singleton c).toUTF8) rest
  termination_by l => l.length

/-- The text of a segment, if its bytes are one. -/
def segmentText? (segment : String) : Option String := String.fromUTF8? (unescape segment.toList)

end Kennel.Http
