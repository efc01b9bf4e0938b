import Mathlib.Logic.Function.Iterate
import Kennel.Patch.Run

/-!
# How an application goes

While a patch is applied others can change the disk before each step (`Patch.applyAmid`), and the device
may refuse what it likes. How that can go is said once (`Run.Course`): the run breaks off at the copy, at
a change or at the rebuild, or it gets through. Everything about one application follows by these cases:
that it ends, and what it reports then (`Run.Course.ended`); that the host is rebuilt only when all before
it was done (`Run.Course.rebuilt_iff`); and that **an error that names a change names the first that
failed** (`Run.Course.stopped`).
-/

namespace Kennel

open Disk Path

/-! ## Changes in order -/

/-- These changes are made one after another, the first under this index, and none of them fails, from one
disk to another. -/
inductive PatchOp.MadeInOrder (hazards : Hazards) (dir : String) :
    Nat → List PatchOp → Disk → Disk → Prop where
  | none (index : Nat) (d : Disk) : MadeInOrder hazards dir index [] d d
  | next {index : Nat} {op : PatchOp} {ops : List PatchOp} {d d₁ d₂ : Disk}
      (made : Disk.run (op.perform dir (hazards.change index)) d = (.ok (), d₁))
      (rest : MadeInOrder hazards dir (index + 1) ops d₁ d₂) :
      MadeInOrder hazards dir index (op :: ops) d d₂

namespace Run

/-- Making changes ends well exactly if all of them are made in order. -/
theorem performAll_ok_iff {hazards : Hazards} {dir : String} {index : Nat} {d d' : Disk}
    {ops : List PatchOp} :
    performAll hazards dir index d ops = (.ok (), d') ↔
      PatchOp.MadeInOrder hazards dir index ops d d' := by
  induction ops generalizing index d with
  | nil =>
    constructor
    · intro h
      obtain rfl : d = d' := congrArg Prod.snd h
      exact .none index d
    · rintro ⟨⟩
      rfl
  | cons op ops ih =>
    rw [performAll]
    rcases made : Disk.run (op.perform dir (hazards.change index)) d with ⟨e | ⟨⟩, d₁⟩
    · constructor
      · intro h
        cases h
      · rintro ⟨⟩
        next made' _ => cases made.symm.trans made'
    · constructor
      · exact fun h => .next made (ih.1 h)
      · rintro ⟨⟩
        next made' rest =>
          cases made.symm.trans made'
          exact ih.2 rest

/-- **The change that an error names is the first that failed**: those before it were made in order,
and those after it were not made. -/
theorem performAll_stops {hazards : Hazards} {dir : String} {index : Nat} {d d' : Disk}
    {ops : List PatchOp} {cause : PatchError}
    (h : performAll hazards dir index d ops = (.error cause, d')) :
    ∃ before op later d₁ e, ops = before ++ op :: later ∧
      PatchOp.MadeInOrder hazards dir index before d d₁ ∧
      Disk.run (op.perform dir (hazards.change (index + before.length))) d₁ = (.error e, d') ∧
      cause = .operation (index + before.length) op.name e := by
  induction ops generalizing index d with
  | nil => cases h
  | cons op ops ih =>
    rw [performAll] at h
    rcases made : Disk.run (op.perform dir (hazards.change index)) d with ⟨e | ⟨⟩, d₁⟩ <;> rw [made] at h
    · obtain ⟨rfl, rfl⟩ : .operation index op.name e = cause ∧ d₁ = d' := by simpa using h
      exact ⟨[], op, ops, d, e, rfl, .none index d, made, rfl⟩
    · obtain ⟨before, failed, later, d₂, e, rfl, inOrder, stopped, rfl⟩ := ih h
      have count : index + 1 + before.length = index + (op :: before).length := by
        rw [List.length_cons]
        omega
      rw [count] at stopped ⊢
      exact ⟨op :: before, failed, later, d₂, e, rfl, .next made inOrder, stopped, rfl⟩

/-! ## Steps -/

/-- A run begins with the copy of the live directory. -/
theorem begin_ok {p : Patch} {site : PatchSite} {name : String} {r : Run}
    (h : begin p site name = .ok r) :
    r.stage = .snapshot ∧ r.patch.state = .applying ∧ r.snapshot = join site.snapshotDir name ∧
      r.patch.ops = p.ops := by
  unfold begin at h
  split at h
  · cases h
    exact ⟨rfl, rfl, rfl, rfl⟩
  · cases h

/-- A run keeps the path of its snapshot and its changes. -/
theorem step_same (site : PatchSite) (rebuild : Rebuild) (hazards : Hazards) (r : Run) (d : Disk) :
    (step site rebuild hazards (r, d)).1.snapshot = r.snapshot ∧
      (step site rebuild hazards (r, d)).1.patch.ops = r.patch.ops := by
  unfold step
  simp only
  split
  · unfold takeSnapshot
    split <;> exact ⟨rfl, rfl⟩
  · unfold write
    split <;> exact ⟨rfl, rfl⟩
  · unfold rebuildHost
    simp only
    split <;> exact ⟨rfl, rfl⟩
  · exact ⟨rfl, rfl⟩
  · exact ⟨rfl, rfl⟩

/-- A run that is over stays as it is. -/
theorem step_finished {site : PatchSite} {rebuild : Rebuild} {hazards : Hazards} {r : Run} {d : Disk}
    {error : Option PatchError} (ended : r.stage = .finished error) :
    step site rebuild hazards (r, d) = (r, d) := by
  simp only [step, ended]

/-- No step leads back to the first one. -/
theorem stage_step_ne_snapshot (site : PatchSite) (rebuild : Rebuild) (hazards : Hazards)
    (state : Run × Disk) : (step site rebuild hazards state).1.stage ≠ .snapshot := by
  obtain ⟨r, d⟩ := state
  unfold step
  simp only
  split
  · unfold takeSnapshot
    split <;> simp [report, fail]
  · unfold write
    split <;> simp [report, giveUp, enter]
  · unfold rebuildHost
    simp only
    split <;> simp [report, giveUp, enter]
  · simp [rollBack, report, fail]
  · next stage => simp [stage]

/-- The first step makes a snapshot, or the patch keeps none of it. -/
theorem snapshotPath_begun {site : PatchSite} (rebuild : Rebuild) (hazards : Hazards) {r : Run} (d : Disk)
    (stage : r.stage = .snapshot) :
    ((step site rebuild hazards (r, d)).1.stage = .write ∧
        (step site rebuild hazards (r, d)).1.patch.snapshotPath = some r.snapshot) ∨
      (step site rebuild hazards (r, d)).1.patch.snapshotPath = r.patch.snapshotPath := by
  simp only [step, stage, takeSnapshot]
  split
  · exact .inr rfl
  · exact .inl ⟨rfl, rfl⟩

/-- Only the first step makes a snapshot. -/
theorem snapshotPath_step {site : PatchSite} {rebuild : Rebuild} {hazards : Hazards} {state : Run × Disk}
    (begun : state.1.stage ≠ .snapshot) :
    (step site rebuild hazards state).1.patch.snapshotPath = state.1.patch.snapshotPath := by
  obtain ⟨r, d⟩ := state
  unfold step
  simp only
  split
  · next stage => exact absurd stage begun
  · unfold write
    split <;> rfl
  · unfold rebuildHost
    simp only
    split <;> rfl
  · rfl
  · rfl

/-! ## One application -/

/-- Takes steps until the run is over, at most this many, and others change the disk before each: the
stages at which a step was taken, and the run and the disk after it. -/
def takeSteps (site : PatchSite) (rebuild : Rebuild) (hazards : Hazards)
    (others : RunStage → Disk → Disk) : Nat → Run → Disk → List RunStage × Run × Disk
  | 0, r, d => ([], r, d)
  | n + 1, r, d =>
    match r.stage with
    | .finished _ => ([], r, d)
    | stage =>
      let (r, d) := step site rebuild hazards (r, others stage d)
      let (stages, state) := takeSteps site rebuild hazards others n r d
      (stage :: stages, state)

/-- Undisturbed steps are the steps of a run. -/
theorem takeSteps_alone (site : PatchSite) (rebuild : Rebuild) (hazards : Hazards) (n : Nat) (r : Run)
    (d : Disk) :
    (takeSteps site rebuild hazards (fun _ d => d) n r d).2 = (step site rebuild hazards)^[n] (r, d) := by
  induction n generalizing r d with
  | zero => rfl
  | succ n ih =>
    rw [Function.iterate_succ_apply, takeSteps]
    split
    next error ended =>
      rw [step_finished ended]
      exact (Function.iterate_fixed (step_finished ended) n).symm
    next => exact ih _ _

end Run

/-- Applies a pending patch while others use the disk. -/
def Patch.applyAmid (p : Patch) (site : PatchSite) (snapshotName : String) (rebuild : Rebuild)
    (hazards : Hazards) (others : RunStage → Disk → Disk) (d : Disk) :
    Except PatchError (List RunStage × Run × Disk) :=
  (Run.begin p site snapshotName).map fun r => Run.takeSteps site rebuild hazards others 4 r d

/-- When nobody else uses the disk, that is the application of the patch. -/
theorem Patch.applyAmid_alone (p : Patch) (site : PatchSite) (snapshotName : String)
    (rebuild : Rebuild) (hazards : Hazards) (d : Disk) :
    (p.applyAmid site snapshotName rebuild hazards (fun _ d => d) d).map (·.2) =
      p.apply site snapshotName rebuild d hazards := by
  unfold applyAmid apply
  cases Run.begin p site snapshotName with
  | error e => rfl
  | ok r => exact congrArg Except.ok (Run.takeSteps_alone site rebuild hazards 4 r d)

/-- How much an event reports to be done. -/
def ActionEvent.percent? : ActionEvent → Option Nat
  | progress percent => some percent
  | _ => none

/-- How much was reported to be done, in the order of the log. -/
def percents (log : List LoggedEvent) : List Nat := log.filterMap (·.event.percent?)

namespace Run

/-- The run after its copy of the live directory was made. -/
def snapped (r : Run) : Run :=
  ({ r with patch := { r.patch with snapshotPath := some r.snapshot }, stage := .write } : Run).report
    [.progress 20, .step "write"]

/-- The run after its changes were made. -/
def written (r : Run) : Run :=
  ({ r.snapped with stage := .rebuild } : Run).report [.progress 50, .step "rebuild"]

/-- The run after the host was rebuilt, for better or worse. -/
def built (r : Run) : Run := { r.written with rebuilds := r.rebuilds + 1 }

/-- How a run can go that begins on the disk `d`: the stages at which it took steps, and the run and
the disk in the end. -/
inductive Course (site : PatchSite) (rebuild : Rebuild) (hazards : Hazards)
    (others : RunStage → Disk → Disk) (r : Run) (d : Disk) : List RunStage × Run × Disk → Prop where
  | uncopied {e : DiskError} {d₁ : Disk}
      (copy : Disk.run (copyDir site.configDir r.snapshot hazards.snapshot) (others .snapshot d) =
        (.error e, d₁)) :
      Course site rebuild hazards others r d
        ([.snapshot], (r.fail (.snapshot e)).report [.error "snapshot failed"], d₁)
  | unmade {d₁ d₂ : Disk} {cause : PatchError}
      (copy : Disk.run (copyDir site.configDir r.snapshot hazards.snapshot) (others .snapshot d) =
        (.ok (), d₁))
      (changes : performAll hazards site.configDir 0 (others .write d₁) r.patch.ops = (.error cause, d₂)) :
      Course site rebuild hazards others r d ([.snapshot, .write, .rollback cause],
        (r.snapped.giveUp cause).rollBack site hazards cause (others (.rollback cause) d₂))
  | unbuilt {d₁ d₂ d₃ : Disk} {message : String}
      (copy : Disk.run (copyDir site.configDir r.snapshot hazards.snapshot) (others .snapshot d) =
        (.ok (), d₁))
      (changes : performAll hazards site.configDir 0 (others .write d₁) r.patch.ops = (.ok (), d₂))
      (answer : rebuild (others .rebuild d₂) = (some message, d₃)) :
      Course site rebuild hazards others r d ([.snapshot, .write, .rebuild, .rollback (.rebuild message)],
        (r.built.giveUp (.rebuild message)).rollBack site hazards (.rebuild message)
          (others (.rollback (.rebuild message)) d₃))
  | applied {d₁ d₂ d₃ : Disk}
      (copy : Disk.run (copyDir site.configDir r.snapshot hazards.snapshot) (others .snapshot d) =
        (.ok (), d₁))
      (changes : performAll hazards site.configDir 0 (others .write d₁) r.patch.ops = (.ok (), d₂))
      (answer : rebuild (others .rebuild d₂) = (none, d₃)) :
      Course site rebuild hazards others r d ([.snapshot, .write, .rebuild],
        (r.built.enter .applied (.finished none)).report [.progress 100], d₃)

/-- A step that is taken, and the steps after it. -/
theorem takeSteps_succ {site : PatchSite} {rebuild : Rebuild} {hazards : Hazards}
    {others : RunStage → Disk → Disk} {r r' : Run} {d d' : Disk} (n : Nat)
    (going : ∀ error, r.stage ≠ .finished error)
    (took : step site rebuild hazards (r, others r.stage d) = (r', d')) :
    takeSteps site rebuild hazards others (n + 1) r d =
      (r.stage :: (takeSteps site rebuild hazards others n r' d').1,
        (takeSteps site rebuild hazards others n r' d').2) := by
  rw [takeSteps]
  split
  next error ended => exact absurd ended (going error)
  next => rw [took]

/-- **Every run goes in one of these ways**, within four steps. -/
theorem course (site : PatchSite) (rebuild : Rebuild) (hazards : Hazards)
    (others : RunStage → Disk → Disk) {r : Run} (d : Disk) (stage : r.stage = .snapshot) :
    Course site rebuild hazards others r d (takeSteps site rebuild hazards others 4 r d) := by
  have begins : ∀ error, r.stage ≠ .finished error := by simp [stage]
  rcases copy : Disk.run (copyDir site.configDir r.snapshot hazards.snapshot) (others .snapshot d) with
    ⟨e | ⟨⟩, d₁⟩
  · have first : step site rebuild hazards (r, others r.stage d) =
        ((r.fail (.snapshot e)).report [.error "snapshot failed"], d₁) := by
      simp only [step, stage, takeSnapshot, copy]
    rw [takeSteps_succ 3 begins first, stage]
    exact .uncopied copy
  have first : step site rebuild hazards (r, others r.stage d) = (r.snapped, d₁) := by
    simp only [step, stage, takeSnapshot, copy]
    rfl
  rw [takeSteps_succ 3 begins first, stage]
  rcases changes : performAll hazards site.configDir 0 (others .write d₁) r.patch.ops with ⟨cause | ⟨⟩, d₂⟩
  · have second : step site rebuild hazards (r.snapped, others .write d₁) =
        (r.snapped.giveUp cause, d₂) := by
      show r.snapped.write site hazards (others .write d₁) = _
      rw [write, show r.snapped.patch.ops = r.patch.ops from rfl, changes]
    rw [takeSteps_succ 2 (by simp [snapped, report]) second]
    exact .unmade copy changes
  have second : step site rebuild hazards (r.snapped, others .write d₁) = (r.written, d₂) := by
    show r.snapped.write site hazards (others .write d₁) = _
    rw [write, show r.snapped.patch.ops = r.patch.ops from rfl, changes]
    rfl
  rw [takeSteps_succ 2 (by simp [snapped, report]) second]
  rcases answer : rebuild (others .rebuild d₂) with ⟨_ | message, d₃⟩
  · have third : step site rebuild hazards (r.written, others .rebuild d₂) =
        ((r.built.enter .applied (.finished none)).report [.progress 100], d₃) := by
      show r.written.rebuildHost rebuild (others .rebuild d₂) = _
      simp only [rebuildHost, answer]
      rfl
    rw [takeSteps_succ 1 (by simp [written, report]) third]
    exact .applied copy changes answer
  · have third : step site rebuild hazards (r.written, others .rebuild d₂) =
        (r.built.giveUp (.rebuild message), d₃) := by
      show r.written.rebuildHost rebuild (others .rebuild d₂) = _
      simp only [rebuildHost, answer]
      rfl
    rw [takeSteps_succ 1 (by simp [written, report]) third]
    exact .unbuilt copy changes answer

/-- Putting the snapshot back ends a run with the cause, or with the failure to put it back. -/
theorem rollBack_eq (r : Run) (site : PatchSite) (hazards : Hazards) (cause : PatchError) (d : Disk) :
    ∃ error, r.rollBack site hazards cause d = ((r.fail error).report [.error error.message],
        (Disk.run (restoreDir r.snapshot site.configDir hazards.rollback) d).2) ∧
      (error = cause ∨ ∃ e, error = .rollback cause.message e) := by
  unfold rollBack
  rcases restore : Disk.run (restoreDir r.snapshot site.configDir hazards.rollback) d with ⟨e | ⟨⟩, d'⟩
  · exact ⟨_, rfl, .inr ⟨e, rfl⟩⟩
  · exact ⟨_, rfl, .inl rfl⟩

theorem percents_report (r : Run) (events : List ActionEvent) :
    percents (r.report events).log = percents r.log ++ events.filterMap ActionEvent.percent? := by
  simp only [percents, report, List.filterMap_append, List.filterMap_map]
  rfl

/-- What a run that took steps at these stages has come to. -/
structure Ended (r : Run) (stages : List RunStage) (r' : Run) : Prop where
  outcome : (r'.stage = .finished none ∧ r'.patch.state = .applied ∧
      r'.patch.lastError = r.patch.lastError ∧ percents r'.log = percents r.log ++ [20, 50, 100]) ∨
    ∃ e n, r'.stage = .finished (some e) ∧ r'.patch.state = .errored ∧
      r'.patch.lastError = some e.message ∧ percents r'.log = percents r.log ++ [20, 50].take n
  snapshot : r'.patch.snapshotPath =
    if .write ∈ stages then some r.snapshot else r.patch.snapshotPath
  copies : stages.count .snapshot = 1
  rebuilds : r'.rebuilds = r.rebuilds + stages.count .rebuild
  rebuiltOnce : stages.count .rebuild ≤ 1

/-- **However it goes, a run ends**, and what it reports is in line with that. -/
theorem Course.ended {site : PatchSite} {rebuild : Rebuild} {hazards : Hazards}
    {others : RunStage → Disk → Disk} {r r' : Run} {d d' : Disk} {stages : List RunStage}
    (course : Course site rebuild hazards others r d (stages, r', d')) : Ended r stages r' := by
  generalize whole : (stages, r', d') = result at course
  cases course with
  | uncopied copy =>
    cases whole
    refine ⟨.inr ⟨_, 0, rfl, rfl, rfl, ?_⟩, rfl, rfl, rfl, Nat.zero_le _⟩
    exact percents_report _ _
  | @unmade d₁ d₂ cause copy changes =>
    obtain ⟨error, back, -⟩ := (r.snapped.giveUp cause).rollBack_eq site hazards cause
      (others (.rollback cause) d₂)
    rw [back] at whole
    cases whole
    refine ⟨.inr ⟨_, 1, rfl, rfl, rfl, ?_⟩, by simp; rfl, by simp, by simp; rfl, by simp⟩
    simp only [percents_report, giveUp, snapped, fail, enter, List.append_assoc]
    rfl
  | @unbuilt d₁ d₂ d₃ message copy changes answer =>
    obtain ⟨error, back, -⟩ := (r.built.giveUp (.rebuild message)).rollBack_eq site hazards
      (.rebuild message) (others (.rollback (.rebuild message)) d₃)
    rw [back] at whole
    cases whole
    refine ⟨.inr ⟨_, 2, rfl, rfl, rfl, ?_⟩, by simp; rfl, by simp, by simp; rfl, by simp⟩
    simp only [percents_report, giveUp, built, written, snapped, fail, enter, List.append_assoc]
    rfl
  | applied copy changes answer =>
    cases whole
    refine ⟨.inl ⟨rfl, rfl, rfl, ?_⟩, by simp; rfl, by simp, by simp; rfl, by simp⟩
    simp only [percents_report, built, written, snapped, enter, List.append_assoc]
    rfl

/-- **A run that has the disk for itself ends within four steps.** -/
theorem ends (site : PatchSite) (rebuild : Rebuild) (hazards : Hazards) {r : Run} (d : Disk)
    (stage : r.stage = .snapshot) :
    (((step site rebuild hazards)^[4] (r, d)).1.stage = .finished none ∧
        ((step site rebuild hazards)^[4] (r, d)).1.patch.state = .applied) ∨
      ∃ e, ((step site rebuild hazards)^[4] (r, d)).1.stage = .finished (some e) ∧
        ((step site rebuild hazards)^[4] (r, d)).1.patch.state = .errored := by
  have alone := takeSteps_alone site rebuild hazards 4 r d
  have course := course site rebuild hazards (fun _ d => d) d stage
  rcases takeSteps site rebuild hazards (fun _ d => d) 4 r d with ⟨stages, r', d'⟩
  rw [← alone]
  rcases course.ended.outcome with ⟨ended, state, -⟩ | ⟨e, -, ended, state, -⟩
  · exact .inl ⟨ended, state⟩
  · exact .inr ⟨e, ended, state⟩

section

variable {site : PatchSite} {rebuild : Rebuild} {hazards : Hazards} {others : RunStage → Disk → Disk}
  {r r' : Run} {d d' : Disk} {stages : List RunStage}

/-- The changes are begun exactly if the copy was completed. -/
theorem Course.copied (course : Course site rebuild hazards others r d (stages, r', d')) :
    (.write ∈ stages ∧ ∃ d₁,
      Disk.run (copyDir site.configDir r.snapshot hazards.snapshot) (others .snapshot d) = (.ok (), d₁)) ∨
    (.write ∉ stages ∧ ∃ e d₁,
      Disk.run (copyDir site.configDir r.snapshot hazards.snapshot) (others .snapshot d) =
        (.error e, d₁)) := by
  cases course with
  | uncopied copy => exact .inr ⟨by simp, _, _, copy⟩
  | unmade copy | unbuilt copy | applied copy => exact .inl ⟨by simp, _, copy⟩

/-- The host is rebuilt exactly if the copy was completed and all changes were made in order. -/
theorem Course.rebuilt_iff (course : Course site rebuild hazards others r d (stages, r', d')) :
    stages.count .rebuild = 1 ↔ ∃ d₁ d₂,
      Disk.run (copyDir site.configDir r.snapshot hazards.snapshot) (others .snapshot d) = (.ok (), d₁) ∧
      PatchOp.MadeInOrder hazards site.configDir 0 r.patch.ops (others .write d₁) d₂ := by
  cases course with
  | uncopied copy =>
    refine iff_of_false (by simp) ?_
    rintro ⟨d₁, d₂, copy', -⟩
    cases copy.symm.trans copy'
  | unmade copy changes =>
    refine iff_of_false (by simp) ?_
    rintro ⟨d₁, d₂, copy', made⟩
    cases copy.symm.trans copy'
    cases changes.symm.trans (performAll_ok_iff.2 made)
  | unbuilt copy changes | applied copy changes =>
    exact iff_of_true (by simp) ⟨_, _, copy, performAll_ok_iff.1 changes⟩

/-- **An error that names a change names the first that failed**; after it the snapshot was put back, and
nothing else was done. -/
theorem Course.stopped (course : Course site rebuild hazards others r d (stages, r', d')) {index : Nat}
    {what : String} {e : DiskError} (ends : r'.stage = .finished (some (.operation index what e))) :
    ∃ d₁ d₂ d₃ before op later,
      Disk.run (copyDir site.configDir r.snapshot hazards.snapshot) (others .snapshot d) = (.ok (), d₁) ∧
      r.patch.ops = before ++ op :: later ∧ index = before.length ∧ what = op.name ∧
      PatchOp.MadeInOrder hazards site.configDir 0 before (others .write d₁) d₂ ∧
      Disk.run (op.perform site.configDir (hazards.change index)) d₂ = (.error e, d₃) ∧
      d' = (Disk.run (restoreDir r.snapshot site.configDir hazards.rollback)
        (others (.rollback (.operation index what e)) d₃)).2 := by
  generalize whole : (stages, r', d') = result at course
  cases course with
  | uncopied copy =>
    cases whole
    cases ends
  | @unmade d₁ d₃ cause copy changes =>
    obtain ⟨error, back, same⟩ := (r.snapped.giveUp cause).rollBack_eq site hazards cause
      (others (.rollback cause) d₃)
    rw [back] at whole
    cases whole
    cases ends
    obtain rfl : _ = cause := by
      rcases same with same | ⟨_, same⟩
      · exact same
      · cases same
    obtain ⟨before, op, later, d₂, e', split, made, failed, named⟩ := performAll_stops changes
    cases named
    exact ⟨d₁, d₂, d₃, before, op, later, copy, split, Nat.zero_add _, rfl, made, failed, rfl⟩
  | @unbuilt d₁ d₂ d₃ message copy changes answer =>
    obtain ⟨error, back, same⟩ := (r.built.giveUp (.rebuild message)).rollBack_eq site hazards
      (.rebuild message) (others (.rollback (.rebuild message)) d₃)
    rw [back] at whole
    cases whole
    cases ends
    rcases same with same | ⟨_, same⟩ <;> cases same
  | applied copy changes answer =>
    cases whole
    cases ends

end

/-- What is answered when the run is over. -/
def answer (r : Run) : Except PatchError Unit := r.error?.elim (.ok ()) .error

end Run

end Kennel
