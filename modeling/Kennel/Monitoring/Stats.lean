import Kennel.Data.Rolling
import Kennel.Record.Wire

/-!
# What is known of a running pup

For each installed pup there is its status, the rolling series of its measurements and of the
metrics its manifest declares, and the interfaces whose selected provider is installed and does
not run. None of this is stored; it starts afresh with every start of the daemon.
-/

namespace Kennel

open Json

/-- Whether a pup runs, and whether it should. -/
inductive Status where
  | stopped
  | starting
  | running
  | stopping
  deriving DecidableEq, Inhabited

namespace Status

/-- What the owner wants and what was observed, as one status. -/
def derive (enabled running : Bool) : Status :=
  match enabled, running with
  | true, true => .running
  | false, true => .stopping
  | true, false => .starting
  | false, false => .stopped

def names : List (String × Status) :=
  [("stopped", .stopped), ("starting", .starting), ("running", .running), ("stopping", .stopping)]

def name : Status → String
  | stopped => "stopped"
  | starting => "starting"
  | running => "running"
  | stopping => "stopping"

end Status

def Rolling.toJson (r : Rolling Float) : Value := .object
  [("capacity", .nat r.capacity), ("values", .list .real r.values)]

def Rolling.fields : Fields (Rolling Float) :=
  Rolling.mk <$> .required "capacity" (.natural (Nat.pow 2 64)) <*> .required "values" (.list .real)

/-- The status, the measurements and the issues of one pup. -/
structure Stats where
  id : String
  status : Status
  cpuPercent : Rolling Float
  memMb : Rolling Float
  memPercent : Rolling Float
  diskMb : Rolling Float
  /-- The metrics that the manifest declares, by name. -/
  metrics : Dict (Rolling Float)
  /-- The interfaces whose selected provider is installed but does not run. -/
  depsNotRunning : List String
  deriving Inhabited

namespace Stats

/-- The stats of a pup of which nothing was observed yet; each series has room for `capacity`
values. -/
def start (id : String) (manifest : Manifest) (capacity : Nat) : Stats where
  id := id
  status := .stopped
  cpuPercent := .ofCapacity capacity
  memMb := .ofCapacity capacity
  memPercent := .ofCapacity capacity
  diskMb := .ofCapacity capacity
  metrics := Dict.ofList (manifest.metrics.map fun m => (m.name, .ofCapacity capacity))
  depsNotRunning := []

def toJson (s : Stats) : Value := .object
  [("id", .string s.id), ("status", .string s.status.name),
    ("cpuPercent", s.cpuPercent.toJson), ("memMb", s.memMb.toJson),
    ("memPercent", s.memPercent.toJson), ("diskMb", s.diskMb.toJson),
    ("metrics", s.metrics.toJson Rolling.toJson),
    ("issues", .object [("depsNotRunning", .list .string s.depsNotRunning)])]

def fields : Fields Stats :=
  Stats.mk <$> .required "id" .text <*> .required "status" (.variant Status.names)
    <*> .required "cpuPercent" Rolling.fields.decoder
    <*> .required "memMb" Rolling.fields.decoder
    <*> .required "memPercent" Rolling.fields.decoder
    <*> .required "diskMb" Rolling.fields.decoder
    <*> .required "metrics" (.dict Rolling.fields.decoder)
    <*> .required "issues" (Fields.required "depsNotRunning" (.list .text)).decoder

def decoder : Decoder Stats := fields.decoder

end Stats

end Kennel
