import Kennel.Proofs.Patch.Move
import Kennel.Proofs.Patch.Rollback

/-!
# Two patches at once

Nothing keeps two patches of one site from being applied at once, and a rollback puts the whole live
directory back as it was when its run began. So what one patch wrote can be undone by the rollback of
another one that failed. It is undone exactly if it was written between the snapshot and the rollback of
the other; if not, the live directory ends as if the patch that failed had not been there
(`overlap_outcome`). Where the path of the live directory leads through a link, a rollback puts a
directory in the place of the link, and that is what the path leads to from then on.

The proof follows what the other run would leave if it were to fail: a copy of its snapshot once that is
made, and the live directory before that and after the end (`Overlap.Keeps`). Only one step changes that:
the changes of the patch that ends well, made while there is no snapshot to put back.
-/

namespace Kennel

open Node Disk Path

namespace RunStage

/-- There is a snapshot that the run may put back. -/
def isOpen : RunStage → Bool
  | write | rebuild | rollback _ => true
  | snapshot | finished _ => false

/-- The changes are not made yet. -/
def isUnwritten : RunStage → Bool
  | snapshot | write => true
  | rebuild | rollback _ | finished _ => false

/-- The run may end with an error after which the live directory is known. -/
def mayRecover : RunStage → Bool
  | finished none => false
  | finished (some e) => !e.isFatal
  | snapshot | write | rebuild | rollback _ => true

/-- The run may end without an error. -/
def mayApply : RunStage → Bool
  | rollback _ | finished (some _) => false
  | snapshot | write | rebuild | finished none => true

end RunStage

/-- Two runs on one disk. -/
structure Overlap where
  a : Run
  b : Run
  disk : Disk

namespace Overlap

/-- Which of two runs takes the next step. -/
inductive Turn where
  | a
  | b
  deriving DecidableEq

/-- One of the runs takes its next step. -/
def step (site : PatchSite) (rebuild : Turn → Rebuild) (hazards : Turn → Hazards) (s : Overlap) :
    Turn → Overlap
  | .a =>
    let (a, disk) := Run.step site (rebuild .a) (hazards .a) (s.a, s.disk)
    { s with a, disk }
  | .b =>
    let (b, disk) := Run.step site (rebuild .b) (hazards .b) (s.b, s.disk)
    { s with b, disk }

/-- The runs take their steps in turns. -/
def run (site : PatchSite) (rebuild : Turn → Rebuild) (hazards : Turn → Hazards) (s : Overlap)
    (turns : List Turn) : Overlap :=
  turns.foldl (step site rebuild hazards) s

/-- At one of the turns the second run makes its changes while the first may put its snapshot back. -/
def WritesInside (site : PatchSite) (rebuild : Turn → Rebuild) (hazards : Turn → Hazards) (s : Overlap)
    (turns : List Turn) : Prop :=
  ∃ before after, turns = before ++ .b :: after ∧
    (run site rebuild hazards s before).b.stage = .write ∧
    (run site rebuild hazards s before).a.stage.isOpen = true

end Overlap

/-! ## Stages in order -/

namespace Run

variable {site : PatchSite} {rebuild : Rebuild} {hazards : Hazards} {r : Run} {d : Disk}

/-- A run that puts its snapshot back ends with an error. -/
theorem step_of_rollback {cause : PatchError} (stage : r.stage = .rollback cause) :
    (step site rebuild hazards (r, d)).1.stage.mayApply = false := by
  simp only [step, stage, rollBack]
  rfl

/-- Once the changes were made, or the run gave up, it makes none any more. -/
theorem step_written (written : r.stage.isUnwritten = false) :
    (step site rebuild hazards (r, d)).1.stage.isUnwritten = false := by
  cases stage : r.stage with
  | snapshot | write =>
    rw [stage] at written
    cases written
  | rebuild =>
    simp only [step, stage, rebuildHost]
    split <;> rfl
  | rollback cause =>
    simp only [step, stage, rollBack]
    rfl
  | finished error => rw [step_finished stage, stage]; rfl

/-- A step that makes the changes is the last before them. -/
theorem step_write (stage : r.stage = .write) :
    (step site rebuild hazards (r, d)).1.stage.isUnwritten = false := by
  simp only [step, stage, write]
  split <;> rfl

/-- A copy of the live directory is followed by the changes, or it ends the run. -/
theorem step_snapshot (site : PatchSite) (rebuild : Rebuild) (hazards : Hazards) (d : Disk)
    (stage : r.stage = .snapshot) :
    (step site rebuild hazards (r, d)).1.stage = .write ∨
      ∃ e, (step site rebuild hazards (r, d)).1.stage = .finished (some e) := by
  simp only [step, stage, takeSnapshot]
  split
  · exact .inr ⟨_, rfl⟩
  · exact .inl rfl

/-- A run that may recover after a step could do so before. -/
theorem mayRecover_of_step (h : (step site rebuild hazards (r, d)).1.stage.mayRecover = true) :
    r.stage.mayRecover = true := by
  cases stage : r.stage with
  | finished error =>
    rw [step_finished stage, stage] at h
    exact h
  | _ => rfl

/-- A run that may end well after a step could do so before. -/
theorem mayApply_of_step (h : (step site rebuild hazards (r, d)).1.stage.mayApply = true) :
    r.stage.mayApply = true := by
  cases stage : r.stage with
  | rollback cause =>
    rw [step_of_rollback stage] at h
    cases h
  | finished error =>
    rw [step_finished stage, stage] at h
    exact h
  | _ => rfl

end Run

namespace Overlap

variable {site : PatchSite} {rebuild : Turn → Rebuild} {hazards : Turn → Hazards}
  {place live root l l' : Location} {name : Turn → String} {ops : List PatchOp} {kept : Node} {s : Overlap}

/-- A run that is over stays as it is through all turns. -/
theorem run_finished {error : Option PatchError} (ended : s.b.stage = .finished error)
    (turns : List Turn) : (run site rebuild hazards s turns).b = s.b := by
  induction turns generalizing s with
  | nil => rfl
  | cons t turns ih =>
    have same : (step site rebuild hazards s t).b = s.b := by
      cases t with
      | a => rfl
      | b => exact congrArg Prod.fst (Run.step_finished ended)
    exact (ih (s := step site rebuild hazards s t) (by rw [same, ended])).trans same

theorem run_written (written : s.b.stage.isUnwritten = false) (turns : List Turn) :
    (run site rebuild hazards s turns).b.stage.isUnwritten = false := by
  induction turns generalizing s with
  | nil => exact written
  | cons t turns ih =>
    refine ih (s := step site rebuild hazards s t) ?_
    cases t with
    | a => exact written
    | b => exact Run.step_written written

/-- A run that ends well made its changes at one of the turns. -/
theorem exists_write (unwritten : s.b.stage.isUnwritten = true) {turns : List Turn}
    (applied : (run site rebuild hazards s turns).b.stage = .finished none) :
    ∃ before after, turns = before ++ .b :: after ∧
      (run site rebuild hazards s before).b.stage = .write := by
  induction turns generalizing s with
  | nil =>
    rw [show (run site rebuild hazards s []).b = s.b from rfl] at applied
    rw [applied] at unwritten
    cases unwritten
  | cons t turns ih =>
    have later (h : (step site rebuild hazards s t).b.stage.isUnwritten = true) :
        ∃ before after, t :: turns = before ++ .b :: after ∧
          (run site rebuild hazards s before).b.stage = .write := by
      obtain ⟨before, after, rfl, stage⟩ := ih h applied
      exact ⟨t :: before, after, rfl, stage⟩
    cases t with
    | a => exact later unwritten
    | b =>
      cases stage : s.b.stage with
      | write => exact ⟨[], turns, rfl, stage⟩
      | snapshot =>
        rcases Run.step_snapshot site (rebuild .b) (hazards .b) s.disk stage with next | ⟨e, next⟩
        · refine later ?_
          rw [show (step site rebuild hazards s .b).b.stage = .write from next]
          rfl
        · have ended : (run site rebuild hazards s (.b :: turns)).b =
              (step site rebuild hazards s .b).b := run_finished next turns
          rw [ended] at applied
          cases next.symm.trans applied
      | _ => rw [stage] at unwritten; cases unwritten

/-! ## What the first run would leave -/

/-- What two runs on one site need: their snapshots have names of their own, and their rebuilds leave the
site alone. -/
structure Setting (site : PatchSite) (place live root : Location) (name : Turn → String)
    (rebuild : Turn → Rebuild) : Prop where
  plain : ∀ t, Plain (name t)
  distinct : name .a ≠ name .b
  apart : ∀ t, PatchSite.Beside place live root (name t)
  spares : ∀ t, site.Spares place live root (rebuild t)

/-- What the error of the first run would leave if it were to fail at this stage: its snapshot is a copy of
that if it has one, and else it is there. -/
structure Keeps (site : PatchSite) (place live root l : Location) (name : Turn → String) (kept : Node)
    (a b : RunStage) (d : Disk) : Prop where
  stands : site.Stands place live root l d
  directory : ∃ mode entries, kept = .dir mode entries
  freshA : a = .snapshot → d.get? (root ++ [name .a]) = none
  freshB : b = .snapshot → d.get? (root ++ [name .b]) = none
  here : a = .snapshot → d.get? l = some kept
  snapshot : a.isOpen = true → d.get? (root ++ [name .a]) = some kept.copied
  undone : ∀ cause, a = .rollback cause → cause.isUndone = true
  left : ∀ cause, a = .finished (some cause) → d.get? l = some (cause.leaves kept)

namespace Keeps

variable {opsA opsB : List PatchOp} {a a' b b' : RunStage} {d e : Disk}

/-- **A step of the first run changes nothing in what it would leave.** -/
theorem moveA (set : Setting site place live root name rebuild)
    (h : Keeps site place live root l name kept a b d)
    (move : Run.Move site place live root l (name .a) opsA d a a' l' e) (recovers : a'.mayRecover = true) :
    Keeps site place live root l' name kept a' b e := by
  have freshB := fun hb => (move.snapshots h.stands.toHolds (set.apart .b) fun _ => set.distinct).trans
    (h.freshB hb)
  have kept' := move.snapshots h.stands.toHolds (set.apart .a)
  cases move with
  | copied stands beside copy =>
    refine ⟨stands, h.directory, (nomatch ·), freshB, (nomatch ·), fun _ => ?_, nofun, nofun⟩
    rw [copy, h.here rfl, Option.map_some]
  | uncopied holds beside err =>
    obtain ⟨apart, apart'⟩ := set.apart .a l holds.among
    have same := beside.elsewhere l apart' apart
    refine ⟨⟨holds, same ▸ h.stands.directory⟩, h.directory, (nomatch ·), freshB, (nomatch ·),
      (nomatch ·), nofun, fun cause ended => ?_⟩
    cases ended
    exact same.trans (h.here rfl)
  | changed stands =>
    exact ⟨stands, h.directory, (nomatch ·), freshB, (nomatch ·),
      fun _ => (kept' nofun).trans (h.snapshot rfl), nofun, nofun⟩
  | unchanged stands _ cause undone =>
    refine ⟨stands, h.directory, (nomatch ·), freshB, (nomatch ·),
      fun _ => (kept' nofun).trans (h.snapshot rfl), fun cause' same => ?_, nofun⟩
    cases same
    exact undone
  | unbuilt stands _ _ _ message =>
    refine ⟨stands, h.directory, (nomatch ·), freshB, (nomatch ·),
      fun _ => (kept' nofun).trans (h.snapshot rfl), fun cause same => ?_, nofun⟩
    cases same
    rfl
  | restored holds _ cause back =>
    have back : e.get? l' = some (cause.leaves kept) := by
      rw [back, h.snapshot rfl, Option.map_some, copied_copied, PatchError.leaves_undone (h.undone _ rfl)]
    obtain ⟨mode, entries, rfl⟩ := h.directory
    have directory := cause.leaves_dir mode entries
    rw [Option.map_some, ← back] at directory
    refine ⟨⟨holds, directory⟩, h.directory, (nomatch ·), freshB, (nomatch ·), (nomatch ·), nofun,
      fun cause' same => ?_⟩
    cases same
    exact back
  | rebuilt | unrestored => cases recovers
  | idle => exact h

/-- A step after which the live directory and the snapshot of the first run are what they were. -/
theorem frame (h : Keeps site place live root l name kept a b d)
    (stands : site.Stands place live root l e) (same : e.get? l = d.get? l)
    (snapshot : e.get? (root ++ [name .a]) = d.get? (root ++ [name .a])) (begun : b' ≠ .snapshot) :
    Keeps site place live root l name kept a b' e :=
  ⟨stands, h.directory, fun ha => snapshot.trans (h.freshA ha), fun hb => absurd hb begun,
    fun ha => same.trans (h.here ha), fun ha => snapshot.trans (h.snapshot ha), h.undone,
    fun cause ended => same.trans (h.left cause ended)⟩

/-- **A step of the second run changes what the first would leave only by its changes**, made while the
first has no snapshot. -/
theorem moveB (set : Setting site place live root name rebuild)
    (h : Keeps site place live root l name kept a b d)
    (move : Run.Move site place live root l (name .b) opsB d b b' l' e) (applies : b'.mayApply = true) :
    Keeps site place live root l' name
      (if b = .write ∧ a.isOpen = false then PatchOp.editAll opsB kept else kept) a b' e := by
  have snapshot := move.snapshots h.stands.toHolds (set.apart .a) fun _ => set.distinct.symm
  cases move with
  | copied stands beside copy =>
    obtain ⟨apart, apart'⟩ := set.apart .b l stands.among
    exact h.frame stands (beside.elsewhere l apart' apart) snapshot nofun
  | changed stands beside edited =>
    cases isOpen : a.isOpen with
    | true =>
      -- What is there now is not what the first run would leave.
      rw [if_neg (by simp)]
      refine ⟨stands, h.directory, fun ha => snapshot.trans (h.freshA ha), nofun, fun ha => ?_,
        fun ha => snapshot.trans (h.snapshot ha), h.undone, fun cause ended => ?_⟩
      · rw [ha] at isOpen
        cases isOpen
      · rw [ended] at isOpen
        cases isOpen
    | false =>
      rw [if_pos ⟨rfl, rfl⟩]
      obtain ⟨mode, entries, rfl⟩ := h.directory
      obtain ⟨entries', there⟩ := PatchOp.editAll_dir opsB mode entries
      refine ⟨stands, ⟨mode, entries', there⟩, fun ha => snapshot.trans (h.freshA ha), nofun, fun ha => ?_,
        fun ha => ?_, h.undone, fun cause ended => ?_⟩
      · rw [edited, h.here ha, Option.map_some]
      · cases ha.symm.trans isOpen
      · rw [edited, h.left cause ended, Option.map_some, cause.editAll_leaves]
  | rebuilt stands same => exact h.frame stands same snapshot nofun
  | idle error =>
    rw [if_neg (by simp)]
    exact h
  | _ => cases applies

end Keeps

/-- As long as the first run may recover and the second one may end well, the first one keeps that. -/
structure Tracked (site : PatchSite) (place live root : Location) (name : Turn → String)
    (ops : List PatchOp) (kept : Node) (s : Overlap) : Prop where
  pathA : s.a.snapshot = join site.snapshotDir (name .a)
  pathB : s.b.snapshot = join site.snapshotDir (name .b)
  namedA : ∀ op ∈ s.a.patch.ops, Plain op.fileName
  namedB : ∀ op ∈ ops, Plain op.fileName
  opsB : s.b.patch.ops = ops
  keeps : s.a.stage.mayRecover = true → s.b.stage.mayApply = true →
    ∃ l, Keeps site place live root l name kept s.a.stage s.b.stage s.disk

namespace Tracked

theorem turnA (set : Setting site place live root name rebuild)
    (h : Tracked site place live root name ops kept s) :
    Tracked site place live root name ops kept (step site rebuild hazards s .a) := by
  obtain ⟨path, changes⟩ := Run.step_same site (rebuild .a) (hazards .a) s.a s.disk
  refine ⟨path.trans h.pathA, h.pathB, fun op hop => h.namedA op (changes ▸ hop), h.namedB, h.opsB,
    fun recovers applies => ?_⟩
  obtain ⟨l, keeps⟩ := h.keeps (Run.mayRecover_of_step recovers) applies
  obtain ⟨mode, entries, directory⟩ := keeps.directory
  obtain ⟨l', move⟩ := Run.move (hazards .a) keeps.stands.toHolds (fun _ => keeps.stands) (set.spares .a)
    (set.plain .a) (set.apart .a) h.pathA h.namedA keeps.freshA fun cause stage =>
      ⟨mode, copiedAll entries, by rw [keeps.snapshot (by rw [stage]; rfl), directory, copied]⟩
  exact ⟨l', keeps.moveA set move recovers⟩

theorem turnB (hazards : Turn → Hazards) (set : Setting site place live root name rebuild)
    (h : Tracked site place live root name ops kept s) :
    Tracked site place live root name ops
      (if s.b.stage = .write ∧ s.a.stage.isOpen = false then PatchOp.editAll ops kept else kept)
      (step site rebuild hazards s .b) := by
  obtain ⟨path, changes⟩ := Run.step_same site (rebuild .b) (hazards .b) s.b s.disk
  refine ⟨h.pathA, path.trans h.pathB, h.namedA, h.namedB, changes.trans h.opsB,
    fun recovers applies => ?_⟩
  have before := Run.mayApply_of_step applies
  obtain ⟨l, keeps⟩ := h.keeps recovers before
  obtain ⟨l', move⟩ := Run.move (hazards .b) keeps.stands.toHolds (fun _ => keeps.stands) (set.spares .b)
    (set.plain .b) (set.apart .b) h.pathB (by rw [h.opsB]; exact h.namedB) keeps.freshB
    fun cause stage => by
      rw [stage] at before
      cases before
  rw [h.opsB] at move
  exact ⟨l', keeps.moveB set move applies⟩

/-- Turns of which none makes the changes of the second run. -/
theorem run_idle (set : Setting site place live root name rebuild)
    (h : Tracked site place live root name ops kept s) (turns : List Turn)
    (idle : (run site rebuild hazards s turns).b.stage.isUnwritten = true ∨
      s.b.stage.isUnwritten = false) :
    Tracked site place live root name ops kept (run site rebuild hazards s turns) := by
  induction turns generalizing s with
  | nil => exact h
  | cons t turns ih =>
    cases t with
    | a => exact ih (h.turnA set) idle
    | b =>
      have next := h.turnB hazards set
      by_cases writes : s.b.stage = .write
      · -- After the changes they are made, and before them they are not.
        rcases idle with last | written
        · have written : (run site rebuild hazards s (.b :: turns)).b.stage.isUnwritten = false :=
            run_written (Run.step_write writes) turns
          cases last.symm.trans written
        · rw [writes] at written
          cases written
      · rw [if_neg fun h => writes h.1] at next
        exact ih next (idle.imp_right Run.step_written)

/-- The turns up to the changes of the second run, the changes, and the turns after them. -/
theorem run_writing (set : Setting site place live root name rebuild)
    (h : Tracked site place live root name ops kept s) {before after : List Turn}
    (writes : (run site rebuild hazards s before).b.stage = .write) :
    Tracked site place live root name ops
      (if (run site rebuild hazards s before).a.stage.isOpen = false then PatchOp.editAll ops kept
        else kept)
      (run site rebuild hazards s (before ++ .b :: after)) := by
  have first := h.run_idle set before (.inl (by rw [writes]; rfl))
  have changes := first.turnB hazards set
  simp only [writes, true_and] at changes
  have parts : run site rebuild hazards s (before ++ .b :: after) =
      run site rebuild hazards (step site rebuild hazards (run site rebuild hazards s before) .b)
        after := by
    simp only [run, List.foldl_append, List.foldl_cons]
  rw [parts]
  exact changes.run_idle set after (.inr (Run.step_write writes))

end Tracked

end Overlap

/-- **What is left of a patch when another one fails beside it.** The path of the live directory leads to
it, directly or through a link. Two patches of the site are applied at once, their steps in any order, and
their rebuilds leave the site alone. If the second one ends well, and the first one ends with an error
other than a failed rollback, what the path leads to in the end is what the error leaves of the live
directory as it was, with the changes of the second one made in it, and nothing else; unless these were
made between the snapshot and the rollback of the first one: then they are lost. -/
theorem overlap_outcome {site : PatchSite} {d : Disk} {place live root : Location} (sorted : d.Sorted)
    (found : site.Found d place live root) {a b : Patch} {name : Overlap.Turn → String}
    (plain : ∀ t, Plain (name t)) (distinct : name .a ≠ name .b)
    (fresh : ∀ t, d.get? (root ++ [name t]) = none)
    (idsA : ∀ op ∈ a.ops, ∀ id, op.pupId? = some id → '/' ∉ id.toList)
    (idsB : ∀ op ∈ b.ops, ∀ id, op.pupId? = some id → '/' ∉ id.toList)
    {rebuild : Overlap.Turn → Rebuild} {hazards : Overlap.Turn → Hazards}
    (spares : ∀ t, site.Spares place live root (rebuild t)) {runA runB : Run}
    (beginA : Run.begin a site (name .a) = .ok runA) (beginB : Run.begin b site (name .b) = .ok runB)
    (turns : List Overlap.Turn) {s : Overlap}
    (ran : Overlap.run site rebuild hazards ⟨runA, runB, d⟩ turns = s)
    (applied : s.b.stage = .finished none) {cause : PatchError}
    (errored : s.a.stage = .finished (some cause)) (notFatal : cause.isFatal = false) :
    ∃ l, (l = place ∨ l = live) ∧ site.tree s.disk = s.disk.get? l ∧
      (¬ Overlap.WritesInside site rebuild hazards ⟨runA, runB, d⟩ turns →
        s.disk.get? l = (d.get? live).map fun n => PatchOp.editAll b.ops (cause.leaves n)) ∧
      (Overlap.WritesInside site rebuild hazards ⟨runA, runB, d⟩ turns →
        s.disk.get? l = (d.get? live).map cause.leaves) := by
  obtain ⟨stageA, -, pathA, opsA⟩ := Run.begin_ok beginA
  obtain ⟨stageB, -, pathB, opsB⟩ := Run.begin_ok beginB
  have stands := found.stands sorted
  obtain ⟨mode, entries, there⟩ := stands.directory
  have set : Overlap.Setting site place live root name rebuild :=
    ⟨plain, distinct, fun t => found.apart (fresh t), spares⟩
  have keeps : Overlap.Keeps site place live root live name (.dir mode entries) runA.stage runB.stage
      d := by
    rw [stageA, stageB]
    exact ⟨stands, ⟨mode, entries, rfl⟩, fun _ => fresh .a, fun _ => fresh .b, fun _ => there, nofun,
      nofun, nofun⟩
  have start : Overlap.Tracked site place live root name b.ops (.dir mode entries) ⟨runA, runB, d⟩ :=
    ⟨pathA, pathB, fun op hop => PatchOp.plain_fileName (idsA op (opsA ▸ hop)),
      fun op hop => PatchOp.plain_fileName (idsB op hop), opsB, fun _ _ => ⟨live, keeps⟩⟩
  -- What the error of the first run leaves is there.
  have left : ∀ {kept}, Overlap.Tracked site place live root name b.ops kept s →
      ∃ l, (l = place ∨ l = live) ∧ site.tree s.disk = s.disk.get? l ∧
        s.disk.get? l = some (cause.leaves kept) := by
    intro kept tracked
    obtain ⟨l, keeps⟩ := tracked.keeps (by rw [errored]; simp [RunStage.mayRecover, notFatal])
      (by rw [applied]; rfl)
    exact ⟨l, keeps.stands.among, keeps.stands.tree_eq, keeps.left cause errored⟩
  subst ran
  by_cases inside : Overlap.WritesInside site rebuild hazards ⟨runA, runB, d⟩ turns
  · have tracked := inside
    obtain ⟨before, after, rfl, writes, isOpen⟩ := tracked
    obtain ⟨l, among, found, last⟩ := left (start.run_writing set writes)
    rw [if_neg (by rw [isOpen]; decide)] at last
    exact ⟨l, among, found, fun outside => absurd inside outside, fun _ => by rw [last, there]; rfl⟩
  · obtain ⟨before, after, rfl, writes⟩ := Overlap.exists_write (by rw [stageB]; rfl) applied
    have closed : (Overlap.run site rebuild hazards ⟨runA, runB, d⟩ before).a.stage.isOpen = false := by
      rw [← Bool.not_eq_true]
      exact fun isOpen => inside ⟨before, after, rfl, writes, isOpen⟩
    obtain ⟨l, among, found, last⟩ := left (start.run_writing set writes)
    rw [if_pos closed] at last
    refine ⟨l, among, found, fun _ => ?_, fun inside' => absurd inside' inside⟩
    rw [last, there, Option.map_some, cause.editAll_leaves]

/-- A host with one file in its live directory. -/
def sharedHost : Disk :=
  .dir 0o755 [("kept", .emptyDir), ("live", .dir 0o700 [("a.nix", .file ⟨#[49]⟩ 0o600)])]

theorem sorted_sharedHost : sharedHost.Sorted :=
  sorted_dir (by decide) (by
    simp [sorted_emptyDir, show (Node.dir 0o700 [("a.nix", .file ⟨#[49]⟩ 0o600)]).Sorted from
      sorted_dir (by decide) (by simp [sorted_file])])

/-- A patch whose rebuild is refused and a patch whose rebuild ends well, on this host. -/
def sharedRuns : Overlap where
  a := ⟨⟨"a", [.writePup "x" "1"], .applying, none, none⟩, .snapshot, join smallSite.snapshotDir "s",
    [⟨"a", .step "snapshot"⟩], 0⟩
  b := ⟨⟨"b", [.writePup "y" "2"], .applying, none, none⟩, .snapshot, join smallSite.snapshotDir "t",
    [⟨"b", .step "snapshot"⟩], 0⟩
  disk := sharedHost

/-- The first rebuild is refused, and the second one ends well. -/
def sharedRebuild : Overlap.Turn → Rebuild
  | .a => refuse
  | .b => accept

/-- The steps of the two patches in these turns. -/
def shared (turns : List Overlap.Turn) : Overlap :=
  Overlap.run smallSite sharedRebuild (fun _ => {}) sharedRuns turns

/-- The names of their snapshots. -/
def sharedName : Overlap.Turn → String
  | .a => "s"
  | .b => "t"

/-- If the second patch begins after the end of the first, its file is in the live directory; if it is
applied between the snapshot and the rollback of the first, the live directory is what it was. -/
theorem overlap_outcome_shared :
    smallSite.Laid sharedHost ["live"] ["kept"] ∧
      (shared [.a, .a, .a, .a, .b, .b, .b]).disk.get? ["live"] =
        (sharedHost.get? ["live"]).map (PatchOp.editAll [.writePup "y" "2"]) ∧
      (shared [.a, .b, .b, .b, .a, .a, .a]).disk.get? ["live"] = sharedHost.get? ["live"] := by
  have laid : smallSite.Laid sharedHost ["live"] ["kept"] :=
    laid_smallSite ⟨_, _, rfl⟩ ⟨_, _, rfl⟩
  have plain : ∀ t, Plain (sharedName t) := by
    rintro (_ | _) <;> exact ⟨by decide, by decide, by decide, by decide⟩
  have spares : ∀ t, smallSite.Spares ["live"] ["live"] ["kept"] (sharedRebuild t) := by
    rintro (_ | _) <;> exact smallSite.spares_answer _ _ _ _
  have outcome := fun (turns : List Overlap.Turn)
      (applied : (shared turns).b.stage = .finished none)
      (errored : (shared turns).a.stage = .finished (some (.rebuild "refused"))) =>
    overlap_outcome (a := ⟨"a", [.writePup "x" "1"], .pending, none, none⟩)
      (b := ⟨"b", [.writePup "y" "2"], .pending, none, none⟩) sorted_sharedHost (.inl ⟨rfl, laid⟩) plain
      (by decide) (by rintro (_ | _) <;> rfl) (by decide) (by decide) spares rfl rfl turns rfl applied
      errored rfl
  obtain ⟨l, at_, -, outside, -⟩ :=
    outcome [.a, .a, .a, .a, .b, .b, .b] (by decide +kernel) (by decide +kernel)
  obtain ⟨l', at_', -, -, inside⟩ :=
    outcome [.a, .b, .b, .b, .a, .a, .a] (by decide +kernel) (by decide +kernel)
  obtain rfl : l = ["live"] := at_.elim id id
  obtain rfl : l' = ["live"] := at_'.elim id id
  -- No file of this host runs in another name, so an error leaves the live directory as it was.
  refine ⟨laid, outside ?_, inside ⟨[.a, .b], [.b, .a, .a, .a], rfl, by decide +kernel, by decide +kernel⟩⟩
  -- Whenever the second patch has its turn, the first one is over.
  rintro ⟨before, after, same, -, isOpen⟩
  have ended : ∀ n < 7, ([.a, .a, .a, .a, .b, .b, .b] : List Overlap.Turn)[n]? = some .b →
      (shared (([.a, .a, .a, .a, .b, .b, .b] : List Overlap.Turn).take n)).a.stage.isOpen = false := by
    decide +kernel
  have short : before.length < 7 := by
    have := congrArg List.length same
    simp only [List.length_append, List.length_cons] at this
    simp only [List.length_nil] at this
    omega
  have last := ended before.length short (by rw [same]; simp)
  rw [same, List.take_left] at last
  cases last.symm.trans isOpen

/-- **A rollback undoes the patch that was applied meanwhile.** -/
theorem rollback_undoes_other_patch :
    (shared [.a, .b, .b, .b, .a, .a, .a]).b.stage = .finished none ∧
      (shared [.a, .b, .b, .b, .a, .a, .a]).a.stage = .finished (some (.rebuild "refused")) ∧
      (PatchError.rebuild "refused").isFatal = false ∧
      (shared [.a, .b, .b, .b, .a, .a, .a]).disk.get? ["live"] ≠
        (sharedHost.get? ["live"]).map (PatchOp.editAll [.writePup "y" "2"]) := by
  refine ⟨by decide +kernel, by decide +kernel, rfl, fun same => ?_⟩
  have gone : (((shared [.a, .b, .b, .b, .a, .a, .a]).disk.get? ["live"]).bind
      (·.get? ["pup_y.nix"])).isNone = true := by decide +kernel
  rw [same] at gone
  revert gone
  decide +kernel

end Kennel
