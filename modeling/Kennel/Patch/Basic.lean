import Kennel.ActionLog
import Kennel.Disk.Copy
import Kennel.Nix.Fragment
import Kennel.Text.Quoted

/-!
# Patches of the configuration

A patch collects changes of the host's configuration directory. It is pending until it is applied
or cancelled, and after that it takes no part in anything any more. Each change sets or removes
one file of the directory.
-/

namespace Kennel

/-- How far a patch has come. -/
inductive PatchState where
  | pending
  | applying
  | applied
  | cancelled
  | rollingBack
  | errored
  deriving DecidableEq, Inhabited

def PatchState.name : PatchState → String
  | pending => "pending"
  | applying => "applying"
  | applied => "applied"
  | cancelled => "cancelled"
  | rollingBack => "rolling_back"
  | errored => "errored"

def PatchState.debugName : PatchState → String
  | pending => "Pending"
  | applying => "Applying"
  | applied => "Applied"
  | cancelled => "Cancelled"
  | rollingBack => "RollingBack"
  | errored => "Errored"

/-- A change of one file. -/
inductive PatchOp where
  | writePup (id contents : String)
  | removePup (id : String)
  | writeNetwork (contents : String)
  | writeFirewall (contents : String)
  | writeContainers (contents : String)
  deriving DecidableEq, Inhabited

namespace PatchOp

/-- The change as it is named in errors. -/
def name : PatchOp → String
  | writePup id _ => "write pup file " ++ id
  | removePup id => "remove pup file " ++ id
  | writeNetwork _ => "update network"
  | writeFirewall _ => "update firewall"
  | writeContainers _ => "update system containers"

/-- The name of the file that the change is about. -/
def fileName : PatchOp → String
  | writePup id _ => Nix.pupFileName id
  | removePup id => Nix.pupFileName id
  | writeNetwork _ => "network.nix"
  | writeFirewall _ => "firewall.nix"
  | writeContainers _ => "system_container.nix"

/-- What the file holds after the change; nothing if it is removed. -/
def contents? : PatchOp → Option String
  | writePup _ contents => some contents
  | removePup _ => none
  | writeNetwork contents => some contents
  | writeFirewall contents => some contents
  | writeContainers contents => some contents

/-- Makes the change in a directory. -/
def perform (op : PatchOp) (dir : String) (faults : Disk.Faults := {}) : DiskM Unit :=
  let path := Path.join dir op.fileName
  match op.contents? with
  | some contents => Disk.writeAtomic path contents faults
  | none => Disk.removeIfExists path faults

/-- The changes after which the files of a pup, of the firewall and of the container list are in
line with the records. -/
def forPup (records : List Record) (id : String) : List PatchOp :=
  let peers := Nix.peerIndex records
  ((peers.get? id).map fun r => writePup id (Nix.pupConfig r peers)).toList
  ++ [writeFirewall (Nix.firewallRules records), writeContainers (Nix.systemContainers records)]

/-- The changes after which nothing is left of a pup that is not among the records any more. -/
def withoutPup (remaining : List Record) (id : String) : List PatchOp :=
  [removePup id, writeFirewall (Nix.firewallRules remaining),
    writeContainers (Nix.systemContainers remaining)]

end PatchOp

/-- Why a patch failed, or would not do what it was asked. -/
inductive PatchError where
  /-- The patch is not pending any more. -/
  | finalized (state : PatchState)
  /-- The live directory could not be copied; nothing was touched. -/
  | snapshot (e : DiskError)
  /-- A change could not be made. -/
  | operation (index : Nat) (name : String) (e : DiskError)
  /-- The host could not be rebuilt. -/
  | rebuild (message : String)
  /-- After the cause, the live directory could not be restored. -/
  | rollback (cause : String) (e : DiskError)
  deriving DecidableEq, Inhabited

namespace PatchError

def message : PatchError → String
  | finalized s => "patch already finalized (state: " ++ s.name ++ ")"
  | snapshot e => "snapshot failed: " ++ e.message
  | operation index name e =>
    "operation " ++ toString index ++ " (" ++ name ++ ") failed: " ++ e.message
  | rebuild message => "rebuild failed: " ++ message
  | rollback cause e => "rollback failed after '" ++ cause ++ "': " ++ e.message

/-- Whether the configuration of the host may be inconsistent. -/
def isFatal : PatchError → Bool
  | rollback _ _ => true
  | _ => false

end PatchError

/-- The directories that patches work on. -/
structure PatchSite where
  configDir : String
  snapshotDir : String
  deriving DecidableEq, Inhabited

/-- Makes the directories of a site if they are missing. -/
def PatchSite.prepare (s : PatchSite) : DiskM Unit := do
  Disk.makeDirs s.configDir
  Disk.makeDirs s.snapshotDir

/-- A patch: its changes and what became of it. -/
structure Patch where
  /-- The action that the patch belongs to. -/
  action : String
  ops : List PatchOp := []
  state : PatchState := .pending
  /-- The copy of the live directory, once it is complete. -/
  snapshotPath : Option String := none
  lastError : Option String := none
  deriving DecidableEq, Inhabited

namespace Patch

/-- Adds a change. -/
def stage (p : Patch) (op : PatchOp) : Except PatchError Patch :=
  if p.state = .pending then .ok { p with ops := p.ops ++ [op] } else .error (.finalized p.state)

/-- Adds changes one after another. -/
def stageAll (p : Patch) (ops : List PatchOp) : Except PatchError Patch := ops.foldlM stage p

/-- Gives the patch up: the patch after it, and what is reported. -/
def cancel (p : Patch) : Except PatchError (Patch × List LoggedEvent) :=
  if p.state = .pending then
    .ok ({ p with ops := [], state := .cancelled }, [⟨p.action, .log "patch cancelled"⟩])
  else .error (.finalized p.state)

def debugText (p : Patch) : String :=
  let shown : Option String → String
    | none => "None"
    | some s => "Some(" ++ quotedText s ++ ")"
  "ConfigPatch \x7b action_id: " ++ quotedText p.action ++ ", state: " ++ p.state.debugName
    ++ ", ops: " ++ toString p.ops.length ++ ", snapshot_path: " ++ shown p.snapshotPath
    ++ ", last_error: " ++ shown p.lastError ++ " \x7d"

end Patch

end Kennel
