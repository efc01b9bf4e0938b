import Kennel.Proofs.Patch.Course
import Kennel.Proofs.Patch.Rollback

/-!
# The life of a patch

A patch is staged, cancelled and applied, in any order and as often as somebody likes, each time on any
disk (`PatchLife.after`). **It is settled at most once**: what is asked of it afterwards is refused and
changes nothing. So over the whole life at most one snapshot is taken and the host is rebuilt at most
once, and what the patch says of itself, its log included, agrees with what was done
(`PatchLife.Orderly`). What one application comes to is known from how a run can go
(`PatchLife.Applied`).
-/

namespace Kennel

open Disk Path

/-- What can be asked of a patch. An application says which name its snapshot gets, how the host is
rebuilt, what the device refuses, and what others do to the disk before each step. -/
inductive PatchCall where
  | stage (op : PatchOp)
  | cancel
  | apply (snapshotName : String) (rebuild : Rebuild) (hazards : Hazards)
      (others : RunStage → Disk → Disk)

/-- A patch, and what was done for it so far. -/
structure PatchLife where
  patch : Patch
  log : List LoggedEvent := []
  /-- The stages at which steps were taken to apply it. -/
  stages : List RunStage := []
  /-- How often the host was rebuilt. -/
  rebuilds : Nat := 0

/-- Makes a call: the answer, the patch and what was done for it after the call, and the disk. -/
def PatchCall.make (site : PatchSite) (l : PatchLife) (d : Disk) :
    PatchCall → Except PatchError Unit × PatchLife × Disk
  | stage op =>
    match l.patch.stage op with
    | .error e => (.error e, l, d)
    | .ok patch => (.ok (), { l with patch }, d)
  | cancel =>
    match l.patch.cancel with
    | .error e => (.error e, l, d)
    | .ok (patch, events) => (.ok (), { l with patch, log := l.log ++ events }, d)
  | apply snapshotName rebuild hazards others =>
    match l.patch.applyAmid site snapshotName rebuild hazards others d with
    | .error e => (.error e, l, d)
    | .ok (stages, r, d) =>
      (r.answer,
        { patch := r.patch, log := l.log ++ r.log, stages := l.stages ++ stages
          rebuilds := l.rebuilds + r.rebuilds }, d)

/-- A new patch. -/
def PatchLife.new (action : String) : PatchLife where
  patch := { action }

/-- A patch after calls, each of them made on some disk. -/
def PatchLife.after (site : PatchSite) (l : PatchLife) (calls : List (PatchCall × Disk)) : PatchLife :=
  calls.foldl (fun l c => (c.1.make site l c.2).2.1) l

namespace PatchLife

/-- **What a patch says of itself agrees with what was done for it.** -/
structure Orderly (l : PatchLife) : Prop where
  /-- Between calls a patch is not on its way. -/
  settled : l.patch.state = .pending ∨ l.patch.state = .applied ∨ l.patch.state = .cancelled ∨
    l.patch.state = .errored
  error : l.patch.lastError.isSome ↔ l.patch.state = .errored
  /-- Changes were begun exactly if the snapshot is complete. -/
  snapshot : l.patch.snapshotPath.isSome ↔ .write ∈ l.stages
  copiedOnce : l.stages.count .snapshot ≤ 1
  rebuiltOnce : l.rebuilds ≤ 1
  ascending : (percents l.log).Pairwise (· < ·)
  complete : 100 ∈ percents l.log ↔ l.patch.state = .applied
  /-- Nothing was done for a patch that is pending or cancelled. -/
  untouched : l.patch.state = .pending ∨ l.patch.state = .cancelled →
    l.stages = [] ∧ l.rebuilds = 0 ∧ percents l.log = []

/-- What one application of a pending patch comes to. -/
structure Applied (site : PatchSite) (snapshotName : String) (hazards : Hazards)
    (others : RunStage → Disk → Disk) (l : PatchLife) (d : Disk) (answer : Except PatchError Unit)
    (l' : PatchLife) (d' : Disk) : Prop where
  /-- It is applied or it failed, and says why. -/
  ends : (answer = .ok () ∧ l'.patch.state = .applied) ∨
    ∃ e, answer = .error e ∧ l'.patch.state = .errored ∧ l'.patch.lastError = some e.message
  /-- The snapshot is kept exactly if its copy was completed. -/
  snapshot : l'.patch.snapshotPath = some (join site.snapshotDir snapshotName) ∧
      (∃ d₁, Disk.run (copyDir site.configDir (join site.snapshotDir snapshotName) hazards.snapshot)
        (others .snapshot d) = (.ok (), d₁)) ∨
    l'.patch.snapshotPath = none ∧
      ∃ e d₁, Disk.run (copyDir site.configDir (join site.snapshotDir snapshotName) hazards.snapshot)
        (others .snapshot d) = (.error e, d₁)
  /-- The host is rebuilt exactly if the copy was completed and all changes were made in order. -/
  rebuilt : l'.rebuilds = 1 ↔ ∃ d₁ d₂,
    Disk.run (copyDir site.configDir (join site.snapshotDir snapshotName) hazards.snapshot)
      (others .snapshot d) = (.ok (), d₁) ∧
    PatchOp.MadeInOrder hazards site.configDir 0 l.patch.ops (others .write d₁) d₂
  /-- A change that is named in an error is the first that failed; what was done after it is that the
  snapshot was put back. -/
  stopped : ∀ index what e, answer = .error (.operation index what e) →
    ∃ d₁ d₂ d₃ before op later,
      Disk.run (copyDir site.configDir (join site.snapshotDir snapshotName) hazards.snapshot)
        (others .snapshot d) = (.ok (), d₁) ∧
      l.patch.ops = before ++ op :: later ∧ index = before.length ∧ what = op.name ∧
      PatchOp.MadeInOrder hazards site.configDir 0 before (others .write d₁) d₂ ∧
      Disk.run (op.perform site.configDir (hazards.change index)) d₂ = (.error e, d₃) ∧
      d' = (Disk.run (restoreDir (join site.snapshotDir snapshotName) site.configDir hazards.rollback)
        (others (.rollback (.operation index what e)) d₃)).2

variable {site : PatchSite} {l : PatchLife}

/-- **A patch that is settled refuses every call**, and the call changes nothing. -/
theorem make_settled (settled : l.patch.state ≠ .pending) (c : PatchCall) (d : Disk) :
    c.make site l d = (.error (.finalized l.patch.state), l, d) := by
  cases c with
  | stage op => simp only [PatchCall.make, Patch.stage, if_neg settled]
  | cancel => simp only [PatchCall.make, Patch.cancel, if_neg settled]
  | apply name rebuild hazards others =>
    simp only [PatchCall.make, Patch.applyAmid, Run.begin, if_neg settled]
    rfl

/-- The run with which the application of a patch begins. -/
def firstRun (l : PatchLife) (site : PatchSite) (snapshotName : String) : Run where
  patch := { l.patch with state := .applying }
  stage := .snapshot
  snapshot := join site.snapshotDir snapshotName
  log := [⟨l.patch.action, .step "snapshot"⟩]

/-- A patch that is pending is applied by a run. -/
theorem make_apply (site : PatchSite) (pending : l.patch.state = .pending) (snapshotName : String)
    (rebuild : Rebuild) (hazards : Hazards) (others : RunStage → Disk → Disk) (d : Disk) :
    ∃ stages r d',
      Run.Course site rebuild hazards others (l.firstRun site snapshotName) d (stages, r, d') ∧
      (PatchCall.apply snapshotName rebuild hazards others).make site l d =
        (r.answer,
          ⟨r.patch, l.log ++ r.log, l.stages ++ stages, l.rebuilds + r.rebuilds⟩, d') := by
  have begun : Run.begin l.patch site snapshotName = .ok (l.firstRun site snapshotName) := by
    rw [Run.begin, if_pos pending]
    rfl
  have course : Run.Course site rebuild hazards others (l.firstRun site snapshotName) d _ :=
    Run.course site rebuild hazards others d rfl
  rcases ran : Run.takeSteps site rebuild hazards others 4 (l.firstRun site snapshotName) d with
    ⟨stages, r, d'⟩
  rw [ran] at course
  refine ⟨stages, r, d', course, ?_⟩
  simp only [PatchCall.make, Patch.applyAmid, begun, Except.map, ran]

/-- A new patch is orderly. -/
theorem orderly_new (action : String) : (new action).Orderly where
  settled := .inl rfl
  error := by simp [new]
  snapshot := by simp [new]
  copiedOnce := Nat.zero_le _
  rebuiltOnce := Nat.zero_le _
  ascending := .nil
  complete := by simp [new, percents]
  untouched _ := ⟨rfl, rfl, rfl⟩

/-- **Every call leaves an orderly patch orderly.** -/
theorem Orderly.make (h : l.Orderly) (c : PatchCall) (d : Disk) : (c.make site l d).2.1.Orderly := by
  by_cases pending : l.patch.state = .pending
  case neg =>
    rw [make_settled pending]
    exact h
  obtain ⟨stages, rebuilds, done⟩ := h.untouched (.inl pending)
  have noError : l.patch.lastError = none := by simpa [pending] using h.error
  have noSnapshot : l.patch.snapshotPath = none := by simpa [stages] using h.snapshot
  cases c with
  | stage op =>
    simp only [PatchCall.make, Patch.stage, if_pos pending]
    exact ⟨h.settled, h.error, h.snapshot, h.copiedOnce, h.rebuiltOnce, h.ascending, h.complete,
      h.untouched⟩
  | cancel =>
    have log : percents (l.log ++ [⟨l.patch.action, .log "patch cancelled"⟩]) = percents l.log := by
      rw [percents, List.filterMap_append]
      exact List.append_nil _
    simp only [PatchCall.make, Patch.cancel, if_pos pending]
    refine ⟨.inr (.inr (.inl rfl)), ?_, h.snapshot, h.copiedOnce, h.rebuiltOnce, ?_, ?_, fun _ => ?_⟩
    · simp [noError]
    · exact log ▸ h.ascending
    · simp [log, done]
    · exact ⟨stages, rebuilds, log.trans done⟩
  | apply name rebuild hazards others =>
    obtain ⟨taken, r, d', course, made⟩ := make_apply site pending name rebuild hazards others d
    have ended := course.ended
    have log : percents (l.log ++ r.log) = percents r.log := by
      rw [percents, List.filterMap_append]
      exact congrArg (· ++ _) done
    have fresh : percents (l.firstRun site name).log = [] := rfl
    have path : r.patch.snapshotPath.isSome ↔ .write ∈ taken := by
      rw [ended.snapshot]
      split
      · next written => simp [written]
      · next unwritten => simp [unwritten, firstRun, noSnapshot]
    rw [made, stages, List.nil_append, rebuilds, Nat.zero_add]
    have built : r.rebuilds ≤ 1 := by
      rw [ended.rebuilds]
      exact (Nat.zero_add _).le.trans ended.rebuiltOnce
    rcases ended.outcome with ⟨-, state, noError', percents⟩ | ⟨e, n, -, state, error, percents⟩
    · rw [fresh, List.nil_append] at percents
      refine ⟨.inr (.inl state), ?_, path, ended.copies.le, built, ?_, ?_, ?_⟩
      · simp [noError', firstRun, noError, state]
      · rw [log, percents]
        decide
      · simp [log, percents, state]
      · simp [state]
    · rw [fresh, List.nil_append] at percents
      refine ⟨.inr (.inr (.inr state)), ?_, path, ended.copies.le, built, ?_, ?_, ?_⟩
      · simp [error, state]
      · rw [log, percents]
        exact List.Pairwise.sublist (List.take_sublist n _) (by decide)
      · have below : 100 ∉ [20, 50].take n := fun h => by simpa using List.mem_of_mem_take h
        simp [log, percents, state, below]
      · simp [state]

/-- **What one application of a pending patch comes to.** -/
theorem Orderly.applied (h : l.Orderly) (site : PatchSite) (pending : l.patch.state = .pending)
    (snapshotName : String) (rebuild : Rebuild) (hazards : Hazards) (others : RunStage → Disk → Disk)
    (d : Disk) :
    l.Applied site snapshotName hazards others d
      ((PatchCall.apply snapshotName rebuild hazards others).make site l d).1
      ((PatchCall.apply snapshotName rebuild hazards others).make site l d).2.1
      ((PatchCall.apply snapshotName rebuild hazards others).make site l d).2.2 := by
  obtain ⟨noStages, noRebuilds, -⟩ := h.untouched (.inl pending)
  have noSnapshot : l.patch.snapshotPath = none := by simpa [noStages] using h.snapshot
  obtain ⟨stages, r, d', course, made⟩ := make_apply site pending snapshotName rebuild hazards others d
  have ended := course.ended
  have built : l.rebuilds + r.rebuilds = stages.count .rebuild := by
    rw [noRebuilds, Nat.zero_add, ended.rebuilds]
    exact Nat.zero_add _
  rw [made]
  refine ⟨?_, ?_, built ▸ course.rebuilt_iff, fun index what e failed => course.stopped ?_⟩
  · rcases ended.outcome with ⟨stage, state, -⟩ | ⟨e, n, stage, state, error, -⟩
    · exact .inl ⟨by simp [Run.answer, Run.error?, stage], state⟩
    · exact .inr ⟨e, by simp [Run.answer, Run.error?, stage], state, error⟩
  · have path := ended.snapshot
    rcases course.copied with ⟨begun, copied⟩ | ⟨unbegun, uncopied⟩
    · rw [if_pos begun] at path
      exact .inl ⟨path, copied⟩
    · rw [if_neg unbegun] at path
      exact .inr ⟨path.trans noSnapshot, uncopied⟩
  · rcases ended.outcome with ⟨stage, -⟩ | ⟨e', n, stage, -⟩
    · simp [Run.answer, Run.error?, stage] at failed
    · obtain rfl : e' = _ := by simpa [Run.answer, Run.error?, stage] using failed
      exact stage

/-- Every sequence of calls leaves an orderly patch orderly. -/
theorem Orderly.after (h : l.Orderly) (site : PatchSite) (calls : List (PatchCall × Disk)) :
    (l.after site calls).Orderly := by
  induction calls generalizing l with
  | nil => exact h
  | cons c calls ih => exact ih (h.make c.1 c.2)

end PatchLife

/-- **A patch is settled at most once.** Whatever is called on a new patch, on whatever disk and with
whatever rebuilds, and whatever the device refuses and others do to the disk meanwhile, what the patch
says of itself agrees with what was done for it. Once it is not pending, every call is refused with its
state and changes neither the patch, nor the log, nor the disk. As long as it is pending, an application
of it comes to what `PatchLife.Applied` says. -/
theorem settled_once (site : PatchSite) (action : String) (calls : List (PatchCall × Disk)) :
    ((PatchLife.new action).after site calls).Orderly ∧
      (((PatchLife.new action).after site calls).patch.state ≠ .pending →
        ∀ (c : PatchCall) d, c.make site ((PatchLife.new action).after site calls) d =
          (.error (.finalized ((PatchLife.new action).after site calls).patch.state),
            (PatchLife.new action).after site calls, d)) ∧
      (((PatchLife.new action).after site calls).patch.state = .pending →
        ∀ snapshotName rebuild hazards others d answer l' d',
          (PatchCall.apply snapshotName rebuild hazards others).make site
              ((PatchLife.new action).after site calls) d = (answer, l', d') →
          ((PatchLife.new action).after site calls).Applied site snapshotName hazards others d answer l'
            d') := by
  have orderly := (PatchLife.orderly_new action).after site calls
  generalize (PatchLife.new action).after site calls = l at orderly
  refine ⟨orderly, fun settled c d => PatchLife.make_settled settled c d,
    fun pending snapshotName rebuild hazards others d answer l' d' made => ?_⟩
  have applied := orderly.applied site pending snapshotName rebuild hazards others d
  rw [made] at applied
  exact applied

/-- A host with a directory in the place of a file. -/
def blockedHost : Disk :=
  .dir 0o755 [("kept", .emptyDir),
    ("live", .dir 0o755 [("pup_b.nix", .dir 0o755 [("inner", .emptyDir)])])]

/-- Two changes, of which the second is about that file. -/
def blockedCalls : List (PatchCall × Disk) :=
  [(.stage (.writeNetwork "n"), blockedHost), (.stage (.writePup "b" "b"), blockedHost)]

/-- The application stops at the second change: the first one was made, and the host is not rebuilt. -/
theorem settled_once_blocked :
    ∃ d₁ d₂ d₃,
      Disk.run (copyDir "live" "kept/s") blockedHost = (.ok (), d₁) ∧
      PatchOp.MadeInOrder {} "live" 0 [.writeNetwork "n"] d₁ d₂ ∧
      Disk.run ((PatchOp.writePup "b" "b").perform "live") d₂ =
        (.error (.system .isADirectory), d₃) ∧
      ((PatchCall.apply "s" accept {} fun _ d => d).make smallSite
        ((PatchLife.new "a").after smallSite blockedCalls) blockedHost).2.1.rebuilds = 0 := by
  have pending : ((PatchLife.new "a").after smallSite blockedCalls).patch.state = .pending := by
    decide +kernel
  have failed : ((PatchCall.apply "s" accept {} fun _ d => d).make smallSite
      ((PatchLife.new "a").after smallSite blockedCalls) blockedHost).1 =
        .error (.operation 1 "write pup file b" (.system .isADirectory)) := by decide +kernel
  have unbuilt : ((PatchCall.apply "s" accept {} fun _ d => d).make smallSite
      ((PatchLife.new "a").after smallSite blockedCalls) blockedHost).2.1.rebuilds = 0 := by
    decide +kernel
  have applied := (settled_once smallSite "a" blockedCalls).2.2 pending "s" accept {} (fun _ d => d)
    blockedHost _ _ _ rfl
  obtain ⟨d₁, d₂, d₃, before, op, later, copy, split, index, -, made, stopped, -⟩ :=
    applied.stopped _ _ _ failed
  obtain ⟨rfl, rfl, -⟩ :
      [PatchOp.writeNetwork "n"] = before ∧ PatchOp.writePup "b" "b" = op ∧ later = [] := by
    have split : [.writeNetwork "n", .writePup "b" "b"] = before ++ op :: later := split
    rcases before with _ | ⟨first, _ | ⟨second, before⟩⟩
    · cases index
    · simpa using split
    · cases index
  have path : join "kept" "s" = "kept/s" := by decide +kernel
  refine ⟨d₁, d₂, d₃, ?_, made, stopped, unbuilt⟩
  rw [← path]
  exact copy

end Kennel
