import Kennel.Patch.Basic

/-!
# Applying a patch

A patch is applied in steps: the live directory is copied to a snapshot, the changes are made in
order, and the host is rebuilt. If the copy fails nothing was touched. If a change or the rebuild
fails, a further step puts the snapshot back in place of the live directory.

A `Run` is a patch on its way through these steps. Each step has the disk for itself; between the
steps of one run others may use the disk. What the device refuses at each step is given with the run
(`Hazards`). `Patch.apply` takes all steps at once.
-/

namespace Kennel

/-- A rebuild of the host: what is wrong if it fails, and the disk after it. -/
abbrev Rebuild := Disk → Option String × Disk

/-- What the device refuses while a patch is applied: when the live directory is copied, when the change
of an index is made, and when the snapshot is put back. -/
structure Hazards where
  snapshot : Disk.Faults := {}
  change : Nat → Disk.Faults := fun _ => {}
  rollback : Disk.Faults := {}

/-- The step that a run takes next. -/
inductive RunStage where
  | snapshot
  | write
  | rebuild
  /-- The snapshot is put back after this error. -/
  | rollback (cause : PatchError)
  /-- The run is over. -/
  | finished (error : Option PatchError)
  deriving DecidableEq, Inhabited

/-- A patch that is being applied. -/
structure Run where
  patch : Patch
  stage : RunStage
  /-- Where the snapshot goes. -/
  snapshot : String
  log : List LoggedEvent
  /-- How often the host was rebuilt. -/
  rebuilds : Nat := 0
  deriving Inhabited

namespace Run

/-- The run with these events at the end of its log. -/
def report (r : Run) (events : List ActionEvent) : Run :=
  { r with log := r.log ++ events.map fun e => ⟨r.patch.action, e⟩ }

/-- The run at another stage, its patch in another state. -/
def enter (r : Run) (state : PatchState) (stage : RunStage) : Run :=
  { r with patch := { r.patch with state }, stage }

/-- The run that ended with an error, under the text that is kept of it. -/
def fail (r : Run) (e : PatchError) : Run :=
  { r with patch := { r.patch with state := .errored, lastError := some e.message }
           stage := .finished (some e) }

/-- Begins to apply a pending patch; the snapshot will have this name. -/
def begin (p : Patch) (site : PatchSite) (snapshotName : String) : Except PatchError Run :=
  if p.state = .pending then
    let r : Run := ⟨p, .snapshot, Path.join site.snapshotDir snapshotName, [], 0⟩
    .ok ((r.enter .applying .snapshot).report [.step "snapshot"])
  else .error (.finalized p.state)

/-- Copies the live directory. -/
def takeSnapshot (r : Run) (site : PatchSite) (hazards : Hazards) (d : Disk) : Run × Disk :=
  match Disk.run (Disk.copyDir site.configDir r.snapshot hazards.snapshot) d with
  | (.error e, d) => ((r.fail (.snapshot e)).report [.error "snapshot failed"], d)
  | (.ok (), d) =>
    let r := { r with patch := { r.patch with snapshotPath := some r.snapshot } }
    (({ r with stage := .write }).report [.progress 20, .step "write"], d)

/-- Makes changes in order, the first of which has this index. -/
def performAll (hazards : Hazards) (dir : String) (index : Nat) (d : Disk) :
    List PatchOp → Except PatchError Unit × Disk
  | [] => (.ok (), d)
  | op :: rest =>
    match Disk.run (op.perform dir (hazards.change index)) d with
    | (.ok (), d) => performAll hazards dir (index + 1) d rest
    | (.error e, d) => (.error (.operation index op.name e), d)

/-- Turns to putting the snapshot back. -/
def giveUp (r : Run) (cause : PatchError) : Run :=
  (r.enter .rollingBack (.rollback cause)).report [.step "rollback"]

/-- Makes the changes. -/
def write (r : Run) (site : PatchSite) (hazards : Hazards) (d : Disk) : Run × Disk :=
  match performAll hazards site.configDir 0 d r.patch.ops with
  | (.ok (), d) => (({ r with stage := .rebuild }).report [.progress 50, .step "rebuild"], d)
  | (.error e, d) => (r.giveUp e, d)

def rebuildHost (r : Run) (rebuild : Rebuild) (d : Disk) : Run × Disk :=
  let r := { r with rebuilds := r.rebuilds + 1 }
  match rebuild d with
  | (none, d) => ((r.enter .applied (.finished none)).report [.progress 100], d)
  | (some message, d) => (r.giveUp (.rebuild message), d)

/-- Puts the snapshot back. -/
def rollBack (r : Run) (site : PatchSite) (hazards : Hazards) (cause : PatchError) (d : Disk) :
    Run × Disk :=
  let (error, d) := match Disk.run (Disk.restoreDir r.snapshot site.configDir hazards.rollback) d with
    | (.ok (), d) => (cause, d)
    | (.error e, d) => (PatchError.rollback cause.message e, d)
  ((r.fail error).report [.error error.message], d)

/-- Takes the next step. -/
def step (site : PatchSite) (rebuild : Rebuild) (hazards : Hazards) (state : Run × Disk) : Run × Disk :=
  let (r, d) := state
  match r.stage with
  | .snapshot => r.takeSnapshot site hazards d
  | .write => r.write site hazards d
  | .rebuild => r.rebuildHost rebuild d
  | .rollback cause => r.rollBack site hazards cause d
  | .finished _ => (r, d)

/-- Takes all steps: there are at most four. -/
def complete (site : PatchSite) (rebuild : Rebuild) (hazards : Hazards) (state : Run × Disk) :
    Run × Disk :=
  let next := step site rebuild hazards
  next (next (next (next state)))

def error? (r : Run) : Option PatchError :=
  match r.stage with
  | .finished e => e
  | _ => none

end Run

/-- Applies a pending patch: the run when it is over, and the disk after it. -/
def Patch.apply (p : Patch) (site : PatchSite) (snapshotName : String) (rebuild : Rebuild)
    (d : Disk) (hazards : Hazards := {}) : Except PatchError (Run × Disk) :=
  (Run.begin p site snapshotName).map fun r => Run.complete site rebuild hazards (r, d)

end Kennel
