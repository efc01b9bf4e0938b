import Kennel.Json.Value

/-!
# The log of actions

Long actions report their progress: the steps they come to, messages, errors, and how much is
done. Each event carries the ID of its action. Handed on to the daemon's log, an event becomes a
record of a level and named fields.
-/

namespace Kennel

open Json

inductive ActionEvent where
  | step (name : String)
  | log (message : String)
  | error (message : String)
  | progress (percent : Nat)
  deriving DecidableEq, Inhabited

structure LoggedEvent where
  action : String
  event : ActionEvent
  deriving DecidableEq, Inhabited

namespace LoggedEvent

/-- The level under which the daemon logs the event. -/
def level (e : LoggedEvent) : String :=
  match e.event with
  | .error _ => "ERROR"
  | _ => "INFO"

/-- The fields that the daemon logs. -/
def fields (e : LoggedEvent) : List (String × Value) :=
  let action := ("action_id", Value.string e.action)
  match e.event with
  | .step name => [("message", .string "action step"), action, ("step", .string name)]
  | .log message => [("message", .string message), action]
  | .error message => [("message", .string message), action]
  | .progress percent => [("message", .string "action progress"), action, ("percent", .nat percent)]

/-- The JSON shape of what the daemon logs. -/
def toJson (e : LoggedEvent) : Value :=
  .object [("level", .string e.level), ("fields", .object e.fields)]

/-- The event as one line: the action, the kind of event, and what it says. -/
def line (e : LoggedEvent) : String :=
  e.action ++ "|" ++
    match e.event with
    | .step name => "step:" ++ name
    | .log message => "log:" ++ message
    | .error message => "error:" ++ message
    | .progress percent => "progress:" ++ toString percent

end LoggedEvent

end Kennel
