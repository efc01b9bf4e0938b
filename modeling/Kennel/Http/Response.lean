import Kennel.Json.Value
import Kennel.Manager.Error

/-!
# Responses

A response has a status, a body, and the headers that say what the body is and, where a method is
not served, which methods are. Every response may be read by pages of any origin.
-/

namespace Kennel.Http

open Json

structure Response where
  status : Nat
  contentType : Option String := none
  allow : Option String := none
  body : String := ""
  deriving DecidableEq, Inhabited

/-- The origins whose pages may read a response. -/
def allowedOrigin : String := "*"

namespace Response

def text (status : Nat) (body : String) : Response :=
  { status, contentType := some "text/plain; charset=utf-8", body }

def json (status : Nat) (body : Value) : Response :=
  { status, contentType := some "application/json", body := body.compact }

def statusOf : ManagerError → Nat
  | .patch (.finalized _) => 409
  | e =>
    match e.kind with
    | .notFound => 404
    | .alreadyExists => 409
    | .validation => 400
    | .resourceExhausted => 507
    | .io => 500
    | .patch => 500

/-- The response to a request that failed. -/
def ofError (e : ManagerError) : Response :=
  json (statusOf e) (.object [("error", .string e.message)])

def ofExcept {α : Type} (encode : α → Value) : Except ManagerError α → Response
  | .ok a => json 200 (encode a)
  | .error e => ofError e

def withoutBody (r : Response) : Response := { r with body := "" }

end Response

end Kennel.Http
