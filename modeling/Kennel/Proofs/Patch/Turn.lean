import Kennel.Proofs.Patch.Move
import Kennel.Proofs.Patch.Rollback

/-!
# A patch in its turn

A patch finds the site as the patches before it have left it, and has the disk for itself while it is
applied. Then each step of its run keeps `Run.InTurn`, one clause for each stage: what was made of the live
directory so far, and that the snapshot is a copy of what it was. So the patch has one of two ends
(`Patch.apply_alone`): **it is applied and its changes are what the live directory is edited by, or it ends
with an error**, after which the live directory is what the error leaves of it, unless the error is that the
rollback failed.

For a live directory behind a link this says what a rollback does to it
(`PatchSite.Linked.rollback_replaces_link`).
-/

namespace Kennel

open Node Disk Path

/-! ## The steps of a run -/

namespace Run

variable {site : PatchSite} {place live root l l' : Location} {name : String} {ops : List PatchOp}
  {d e e' : Disk} {rebuild : Rebuild} {hazards : Hazards} {r : Run} {a b : RunStage}

/-- A run is under way that began on the disk `d`: its snapshot is a copy of the live directory, and these
changes were made since. -/
structure Underway (site : PatchSite) (place live root l : Location) (name : String) (d e : Disk)
    (made : List PatchOp) : Prop where
  stands : site.Stands place live root l e
  directory : ∃ mode entries, d.get? l = some (.dir mode entries)
  copied : e.get? (root ++ [name]) = (d.get? l).map Node.copied
  edited : e.get? l = (d.get? l).map (PatchOp.editAll made)
  linked : site.Linked d place live root → site.Linked e place live root

/-- What holds of the disk at a stage of a run that began on the disk `d`, with the live directory at `l`.
-/
def InTurnAt (site : PatchSite) (place live root l : Location) (name : String) (ops : List PatchOp)
    (d e : Disk) : RunStage → Prop
  | .snapshot => e = d
  | .write => Underway site place live root l name d e []
  | .rebuild => Underway site place live root l name d e ops
  | .rollback cause => Underway site place live root l name d e (cause.made ops) ∧ cause.isUndone = true
  | .finished none => Underway site place live root l name d e ops
  | .finished (some cause) =>
    (∃ l', site.Holds place live root l' e ∧
      (cause.isFatal = false → e.get? l' = (d.get? l).map cause.leaves)) ∧
      (cause.isFatal = false → site.Linked d place live root →
        e.get? live = (d.get? live).map (PatchOp.editAll (cause.made ops)) ∧
          e.get? place = if cause.isUndone then (d.get? live).map Node.copied else d.get? place)

/-- The changes of a run that is under way touch the live directory only. -/
theorem Underway.beside {made made' : List PatchOp} (h : Underway site place live root l name d e made)
    (apart : PatchSite.Beside place live root name) (stands : site.Stands place live root l e')
    (beside : SameBeside l e e') (edited : e'.get? l = (d.get? l).map (PatchOp.editAll made')) :
    Underway site place live root l name d e' made' := by
  have apart := apart l h.stands.among
  refine ⟨stands, h.directory, ?_, edited, fun linked => ?_⟩
  · rw [beside.elsewhere _ apart.1 apart.2, h.copied]
  · have linked := h.linked linked
    obtain rfl := h.stands.eq_live linked
    exact linked.beside h.stands.sorted stands.sorted beside stands.directory

/-- **A step of a run that is in order.** -/
theorem InTurnAt.move (holds : site.Holds place live root l d)
    (apart : PatchSite.Beside place live root name) (fresh : d.get? (root ++ [name]) = none) (h : InTurnAt site place live root l name ops d e a)
    (move : Move site place live root l name ops e a b l' e') :
    InTurnAt site place live root l name ops d e' b := by
  have elsewhere := apart l holds.among
  cases move with
  | copied stands beside copy =>
    obtain rfl : e = d := h
    have same := beside.elsewhere l elsewhere.2 elsewhere.1
    exact ⟨stands, same ▸ stands.directory, copy, same.trans (PatchOp.map_editAll_nil _).symm,
      fun linked => linked.snapshot fresh beside⟩
  | uncopied holds' beside err =>
    obtain rfl : e = d := h
    have same := beside.elsewhere l elsewhere.2 elsewhere.1
    refine ⟨⟨l, holds', fun _ => same.trans (PatchError.map_leaves_untouched rfl _).symm⟩,
      fun _ linked => ?_⟩
    obtain rfl := holds.eq_live linked
    exact ⟨same.trans (PatchOp.map_editAll_nil _).symm,
      beside.elsewhere place (apart place (.inl rfl)).2 (apart place (.inl rfl)).1⟩
  | changed stands beside edited =>
    have under : Underway site place live root l name d e [] := h
    have here : e.get? l = d.get? l := under.edited.trans (PatchOp.map_editAll_nil _)
    exact under.beside apart stands beside (here ▸ edited)
  | unchanged stands beside cause undone edited =>
    have under : Underway site place live root l name d e [] := h
    have here : e.get? l = d.get? l := under.edited.trans (PatchOp.map_editAll_nil _)
    exact ⟨under.beside apart stands beside (here ▸ edited), undone⟩
  | rebuilt stands same snapshots linked =>
    have under : Underway site place live root l name d e ops := h
    exact ⟨stands, under.directory, (snapshots name).trans under.copied, same.trans under.edited,
      fun behind => linked (under.linked behind)⟩
  | unbuilt stands same snapshots linked message =>
    have under : Underway site place live root l name d e ops := h
    exact ⟨⟨stands, under.directory, (snapshots name).trans under.copied, same.trans under.edited,
      fun behind => linked (under.linked behind)⟩, rfl⟩
  | restored holds' beside cause back unlinked =>
    obtain ⟨under, undone⟩ : Underway site place live root l name d e (cause.made ops) ∧
      cause.isUndone = true := h
    have back : e'.get? l' = (d.get? l).map cause.leaves := by
      rw [back, under.copied, PatchError.map_leaves_copied undone]
    refine ⟨⟨l', holds', fun _ => back⟩, fun _ linked => ?_⟩
    have behind := under.linked linked
    obtain rfl := under.stands.eq_live behind
    obtain rfl := unlinked behind
    refine ⟨?_, by rw [back, if_pos undone, PatchError.leaves_undone undone]⟩
    rw [beside.elsewhere l linked.not_place_prefix linked.not_live_prefix, under.edited]
  | unrestored holds' beside cause err =>
    exact ⟨⟨l', holds', fun notFatal => nomatch notFatal⟩, fun notFatal => nomatch notFatal⟩
  | idle => exact h

/-- A run on a site in the course of patches. -/
structure InTurn (site : PatchSite) (place live root l : Location) (name : String) (ops : List PatchOp)
    (d : Disk) (state : Run × Disk) : Prop where
  path : state.1.snapshot = join site.snapshotDir name
  changes : state.1.patch.ops = ops
  untaken : state.1.stage = .snapshot → state.1.patch.snapshotPath = none
  /-- A snapshot that the patch has is a copy of what the live directory was. -/
  taken : ∀ path, state.1.patch.snapshotPath = some path → path = join site.snapshotDir name ∧
    (∃ mode entries, d.get? l = some (.dir mode entries)) ∧
    state.2.get? (root ++ [name]) = (d.get? l).map Node.copied
  /-- The other snapshots stay. -/
  others : ∀ other, name ≠ other → PatchSite.Beside place live root other →
    state.2.get? (root ++ [other]) = d.get? (root ++ [other])
  stage : InTurnAt site place live root l name ops d state.2 state.1.stage

/-- A step that is such a move keeps a run in order. -/
theorem InTurn.move (holds : site.Holds place live root l d)
    (apart : PatchSite.Beside place live root name) (fresh : d.get? (root ++ [name]) = none) (h : InTurn site place live root l name ops d (r, e))
    (now : site.Holds place live root l e)
    (move : Move site place live root l name ops e r.stage (Run.step site rebuild hazards (r, e)).1.stage
      l' (Run.step site rebuild hazards (r, e)).2) :
    InTurn site place live root l name ops d (Run.step site rebuild hazards (r, e)) := by
  obtain ⟨path, changes⟩ := step_same site rebuild hazards r e
  have next := h.stage.move holds apart fresh move
  refine ⟨path.trans h.path, changes.trans h.changes,
    fun again => absurd again (stage_step_ne_snapshot site rebuild hazards _), fun path taken => ?_,
    fun other hne beside => (move.snapshots now beside fun _ => hne).trans (h.others other hne beside),
    next⟩
  by_cases begun : r.stage = .snapshot
  · rcases snapshotPath_begun rebuild hazards e begun with ⟨written, made⟩ | untaken
    · rw [written] at next
      have under : Underway site place live root l name d _ [] := next
      exact ⟨(Option.some.inj (made.symm.trans taken)).symm.trans h.path, under.directory, under.copied⟩
    · cases ((untaken.trans (h.untaken begun)).symm.trans taken)
  · rw [snapshotPath_step begun] at taken
    obtain ⟨named, directory, copied⟩ := h.taken path taken
    exact ⟨named, directory, (move.snapshots now apart fun first => absurd first begun).trans copied⟩

/-- **Every step of a run keeps the site in order.** -/
theorem InTurn.step (holds : site.Holds place live root l d) (plain : Plain name)
    (fresh : d.get? (root ++ [name]) = none) (apart : PatchSite.Beside place live root name)
    (named : ∀ op ∈ ops, Plain op.fileName) (spares : site.Spares place live root rebuild)
    {state : Run × Disk} (h : InTurn site place live root l name ops d state) :
    InTurn site place live root l name ops d (Run.step site rebuild hazards state) := by
  obtain ⟨r, e⟩ := state
  have now := h.stage
  have moved : site.Holds place live root l e →
      (r.stage ≠ .snapshot → site.Stands place live root l e) → (r.stage = .snapshot → e = d) →
      (∀ cause, r.stage = .rollback cause →
        ∃ mode entries, e.get? (root ++ [name]) = some (.dir mode entries)) →
      InTurn site place live root l name ops d (Run.step site rebuild hazards (r, e)) := by
    intro holds' stands first kept
    obtain ⟨l', move⟩ := Run.move hazards holds' stands spares plain apart h.path
      (by rw [h.changes]; exact named) (fun begun => by rw [first begun, fresh]) kept
    rw [h.changes] at move
    exact h.move holds apart fresh holds' move
  cases stage : r.stage with
  | snapshot =>
    rw [stage] at now
    obtain rfl : e = d := now
    exact moved holds (fun begun => absurd stage begun) (fun _ => rfl) (by simp [stage])
  | write | rebuild =>
    rw [stage] at now
    have stands := Underway.stands now
    exact moved stands.toHolds (fun _ => stands) (by simp [stage]) (by simp [stage])
  | rollback cause =>
    rw [stage] at now
    obtain ⟨mode, entries, hd⟩ := now.1.directory
    exact moved now.1.stands.toHolds (fun _ => now.1.stands) (by simp [stage]) fun _ _ =>
      ⟨mode, copiedAll entries, by rw [now.1.copied, hd, Option.map_some, copied]⟩
  | finished error =>
    rw [step_finished stage]
    exact h

theorem InTurn.iterate (hazards : Hazards) (holds : site.Holds place live root l d) (plain : Plain name)
    (fresh : d.get? (root ++ [name]) = none) (apart : PatchSite.Beside place live root name)
    (named : ∀ op ∈ ops, Plain op.fileName) (spares : site.Spares place live root rebuild)
    {state : Run × Disk} (h : InTurn site place live root l name ops d state) (n : Nat) :
    InTurn site place live root l name ops d ((Run.step site rebuild hazards)^[n] state) := by
  induction n with
  | zero => exact h
  | succ n ih =>
    rw [Function.iterate_succ_apply']
    exact ih.step holds plain fresh apart named spares

/-- Whatever has become of the run, the site is in order. -/
theorem InTurnAt.holds (holds : site.Holds place live root l d) {stage : RunStage}
    (h : InTurnAt site place live root l name ops d e stage) : ∃ l', site.Holds place live root l' e := by
  cases stage with
  | snapshot =>
    obtain rfl : e = d := h
    exact ⟨l, holds⟩
  | write | rebuild => exact ⟨l, (Underway.stands h).toHolds⟩
  | rollback cause => exact ⟨l, h.1.stands.toHolds⟩
  | finished error =>
    cases error with
    | none => exact ⟨l, (Underway.stands h).toHolds⟩
    | some cause =>
      obtain ⟨l', holds', -⟩ := h.1
      exact ⟨l', holds'⟩

/-- A run begins in order. -/
theorem InTurn.begin {p : Patch} {start : Run} (new : p.snapshotPath = none)
    (begun : Run.begin p site name = .ok start) :
    InTurn site place live root l name p.ops d (start, d) := by
  obtain ⟨stage, -, path, changes⟩ := begin_ok begun
  have untaken : start.patch.snapshotPath = none := by
    unfold Run.begin at begun
    split at begun
    · cases begun
      exact new
    · cases begun
  refine ⟨path, changes, fun _ => untaken, fun _ taken => ?_, fun _ _ _ => rfl, ?_⟩
  · cases untaken.symm.trans taken
  · rw [stage]
    rfl

end Run

/-! ## How a patch ends -/

/-- **A patch that has the disk for itself** is applied, and the live directory is edited by its changes,
or it ends with an error, after which the live directory is what the error leaves of it, unless the error
is that the rollback failed. -/
theorem Patch.apply_alone {site : PatchSite} {d : Disk} {place live root l : Location} {p : Patch}
    {name : String} {rebuild : Rebuild} (hazards : Hazards) (pending : p.state = .pending)
    (new : p.snapshotPath = none) (stands : site.Stands place live root l d)
    (spares : site.Spares place live root rebuild) (plain : Plain name)
    (fresh : d.get? (root ++ [name]) = none) (apart : PatchSite.Beside place live root name)
    (named : ∀ op ∈ p.ops, Plain op.fileName) :
    ∃ r e, p.apply site name rebuild d hazards = .ok (r, e) ∧
      ((r.patch.state = .applied ∧ r.error? = none ∧ site.Stands place live root l e ∧
          e.get? l = (d.get? l).map (PatchOp.editAll p.ops)) ∨
        ∃ cause, r.patch.state ≠ .applied ∧ r.error? = some cause ∧
          (cause.isFatal = false → ∃ l', site.Stands place live root l' e ∧
            e.get? l' = (d.get? l).map cause.leaves)) := by
  obtain ⟨start, begun⟩ : ∃ start, Run.begin p site name = .ok start := ⟨_, if_pos pending⟩
  have begins : Run.InTurn site place live root l name p.ops d (start, d) := .begin new begun
  have last := (begins.iterate hazards stands.toHolds plain fresh apart named spares 4).stage
  refine ⟨((Run.step site rebuild hazards)^[4] (start, d)).1,
    ((Run.step site rebuild hazards)^[4] (start, d)).2, by rw [Patch.apply, begun]; rfl, ?_⟩
  rcases Run.ends site rebuild hazards d (Run.begin_ok begun).1 with
    ⟨ended, state⟩ | ⟨cause, ended, state⟩ <;> rw [ended] at last
  · exact .inl ⟨state, by rw [Run.error?, ended], Run.Underway.stands last, Run.Underway.edited last⟩
  · obtain ⟨⟨l', holds, left⟩, -⟩ := last
    obtain ⟨mode, entries, hd⟩ := stands.directory
    refine .inr ⟨cause, by rw [state]; decide, by rw [Run.error?, ended], fun notFatal =>
      ⟨l', ⟨holds, ?_⟩, left notFatal⟩⟩
    rw [left notFatal, hd]
    exact cause.leaves_dir mode entries

/-- What becomes of a patch whose application begins: its run takes four steps. -/
theorem Patch.outcome_begun {p : Patch} {site : PatchSite} {name : String} {start : Run}
    (begun : Run.begin p site name = .ok start) (rebuild : Rebuild) (hazards : Hazards) (d : Disk) :
    p.outcome site name rebuild d hazards = (((Run.step site rebuild hazards)^[4] (start, d)).1.error?,
      ((Run.step site rebuild hazards)^[4] (start, d)).2) := by
  unfold outcome apply
  rw [begun]
  rfl

theorem Run.finished_of_error? {r : Run} {cause : PatchError} (h : r.error? = some cause) :
    r.stage = .finished (some cause) := by
  unfold Run.error? at h
  split at h
  · next error ended => rw [ended, h]
  · cases h

namespace PatchSite.Linked

variable {site : PatchSite} {d e : Disk} {place live root : Location} {name : String}

/-- **A rollback does not restore a live directory that lies behind a link.** A patch is applied to such a
site and ends with an error, but not with the one that its rollback failed. If the snapshot was put back,
a copy of the live directory is where the link was, and the directory behind it keeps the changes that
were made; if there was none, nothing of the two was touched. -/
theorem rollback_replaces_link {p : Patch} {rebuild : Rebuild} {hazards : Hazards}
    (new : p.snapshotPath = none) (sorted : d.Sorted) (linked : site.Linked d place live root)
    (plain : Plain name) (fresh : d.get? (root ++ [name]) = none)
    (ids : ∀ op ∈ p.ops, ∀ id, op.pupId? = some id → '/' ∉ id.toList)
    (spares : site.Spares place live root rebuild) {cause : PatchError}
    (failed : (p.outcome site name rebuild d hazards).1 = some cause) (notFatal : cause.isFatal = false) :
    (p.outcome site name rebuild d hazards).2.get? live =
        (d.get? live).map (PatchOp.editAll (cause.made p.ops)) ∧
      (p.outcome site name rebuild d hazards).2.get? place =
        if cause.isUndone then (d.get? live).map copied else d.get? place := by
  cases begun : Run.begin p site name with
  | error refused =>
    have same : p.outcome site name rebuild d hazards = (some refused, d) := by
      rw [Patch.outcome, Patch.apply, begun]
      rfl
    rw [same] at failed ⊢
    unfold Run.begin at begun
    split at begun
    · cases begun
    · cases begun
      cases failed
      exact ⟨(PatchOp.map_editAll_nil _).symm, rfl⟩
  | ok start =>
    have begins : Run.InTurn site place live root live name p.ops d (start, d) := .begin new begun
    have last := begins.iterate hazards (linked.stands sorted).toHolds plain fresh
      (linked.apart fresh) (fun op hop => PatchOp.plain_fileName (ids op hop)) spares 4
    rw [Patch.outcome_begun begun] at failed ⊢
    have stage := last.stage
    rw [Run.finished_of_error? failed] at stage
    exact stage.2 notFatal linked

end PatchSite.Linked

/-- A host whose live directory lies behind a link. -/
def linkedHost : Disk :=
  .dir 0o755 [("config", .link "real"), ("kept", .emptyDir),
    ("real", .dir 0o700 [("a.nix", .file ⟨#[49]⟩ 0o600)])]

def linkedSite : PatchSite := ⟨"config", "kept"⟩

theorem sorted_linkedHost : linkedHost.Sorted := by
  have real : (Node.dir 0o700 [("a.nix", .file ⟨#[49]⟩ 0o600)]).Sorted :=
    sorted_dir (by decide) (by simp [sorted_file])
  exact sorted_dir (by decide) (by simp [sorted_link, sorted_emptyDir, real])

theorem linked_linkedHost : linkedSite.Linked linkedHost ["config"] ["real"] ["kept"] := by
  have config : steps (withoutEndSlashes linkedSite.configDir) = ["config"] := by decide +kernel
  have real : steps "real" = ["real"] := by decide +kernel
  have kept : steps linkedSite.snapshotDir = ["kept"] := by decide +kernel
  have passed : Passed (withoutEndSlashes linkedSite.configDir) :=
    ⟨by decide +kernel, by decide +kernel, by decide +kernel⟩
  have isConfig : IsName "config" := ⟨by decide, by decide, by decide⟩
  have isReal : IsName "real" := ⟨by decide, by decide, by decide⟩
  have top : Passable (linkedHost.erase ["real"]) [] := ⟨_, _, rfl, by decide⟩
  have top' : Passable ((linkedHost.erase ["real"]).erase ["config"]) [] := ⟨_, _, rfl, by decide⟩
  refine ⟨⟨_, rfl⟩, ⟨_, _, rfl⟩, finds_iff.2 ⟨passed, ?_, rfl⟩, finds_iff.2 ⟨passed, ?_, rfl⟩,
    ⟨_, _, finds_iff.2 ⟨⟨by decide +kernel, by decide +kernel, by decide +kernel⟩, ?_, rfl⟩⟩⟩
  · rw [config]
    refine .through top isConfig rfl (.inr rfl) ?_
    rw [real, List.append_nil, if_neg (by decide +kernel)]
    exact .absent top isReal rfl
  · rw [config]
    exact .absent top' isConfig rfl
  · rw [kept]
    exact .into top' ⟨by decide, by decide, by decide⟩ rfl (by simp [emptyDir]) .stop

/-- After a rebuild that fails there is a directory where the link was, with the file as it was, and the
directory behind the link keeps the new one. -/
theorem rollback_replaces_link_refused :
    (Patch.outcome ⟨"a", [.writeNetwork "new"], .pending, none, none⟩ linkedSite "s" refuse
        linkedHost).1 = some (.rebuild "refused") ∧
      (Patch.outcome ⟨"a", [.writeNetwork "new"], .pending, none, none⟩ linkedSite "s" refuse
        linkedHost).2.get? ["config"] = linkedHost.get? ["real"] ∧
      (Patch.outcome ⟨"a", [.writeNetwork "new"], .pending, none, none⟩ linkedSite "s" refuse
        linkedHost).2.get? ["real"] =
          (linkedHost.get? ["real"]).map (PatchOp.editAll [.writeNetwork "new"]) := by
  have failed : (Patch.outcome ⟨"a", [.writeNetwork "new"], .pending, none, none⟩ linkedSite "s" refuse
      linkedHost).1 = some (.rebuild "refused") := by decide +kernel
  obtain ⟨behind, there⟩ := PatchSite.Linked.rollback_replaces_link rfl sorted_linkedHost
    linked_linkedHost ⟨by decide, by decide, by decide, by decide⟩ rfl (by decide)
    (PatchSite.spares_answer _ _ _ _ fun _ => some "refused") failed rfl
  exact ⟨failed, there, behind⟩

/-- Neither the link nor the directory behind it is what it was. -/
theorem linked_host_not_restored :
    (Patch.outcome ⟨"a", [.writeNetwork "new"], .pending, none, none⟩ linkedSite "s" refuse
        linkedHost).1.map PatchError.isFatal = some false ∧
      (linkedHost.get? ["config"]).map Node.isDir = some false ∧
      ((Patch.outcome ⟨"a", [.writeNetwork "new"], .pending, none, none⟩ linkedSite "s" refuse
        linkedHost).2.get? ["config"]).map Node.isDir = some true ∧
      (linkedHost.get? ["real", "network.nix"]).isSome = false ∧
      ((Patch.outcome ⟨"a", [.writeNetwork "new"], .pending, none, none⟩ linkedSite "s" refuse
        linkedHost).2.get? ["real", "network.nix"]).isSome = true := by
  decide +kernel

end Kennel
