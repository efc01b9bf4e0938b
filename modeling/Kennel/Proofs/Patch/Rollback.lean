import Kennel.Proofs.Patch.Changes
import Kennel.Proofs.Patch.Course
import Kennel.Proofs.Patch.Snapshot

/-!
# A patch is applied whole or not at all

A run changes the live directory step by step, and any step can fail: the copy to the snapshot, any
one of the changes, and the rebuild, which may have done anything to the live directory before, and to the
rest of the disk what leaves the snapshot where it is. **Unless the run ends with the error that its
rollback failed, an error leaves the live directory as it was** (`apply_all_or_nothing`): names, bytes,
link targets and permissions, except that a file which is put back does not run in the name of its owner or
group any more (`set_user_file_not_restored`).

The proof is an invariant of the run, one clause for each stage (`Run.Safe`). Up to the rollback the
disk keeps a snapshot that is a copy of the live directory, outside of it; so the rollback, if it ends
well, leaves the copy of the copy there. The second half says when the rollback fails: when the removal of
the live directory, or the copy of the snapshot back, was refused.
-/

namespace Kennel

open Node Disk Path

/-- A rebuild that leaves the snapshot of this name alone, and the paths of the site where they lead. It
may do anything to the live directory, or remove it, and to the rest of the disk; only where the path of
the directory ends with a slash, and so would lead through a link, it puts no link in its place. -/
structure PatchSite.Confines (site : PatchSite) (live root : Location) (name : String)
    (rebuild : Rebuild) : Prop where
  placed : ∀ e, e.Sorted → site.Laid e live root → site.Placed false (rebuild e).2 live root
  snapshot : ∀ e, e.Sorted → site.Laid e live root →
    (rebuild e).2.get? (root ++ [name]) = e.get? (root ++ [name])
  noLink : site.configDir.endsWith "/" = true → ∀ e, e.Sorted → site.Laid e live root →
    ∀ target, (rebuild e).2.get? live ≠ some (.link target)

/-- The paths of a site lead where they led whatever is done to the live directory. -/
theorem PatchSite.Laid.placed_beside {site : PatchSite} {live root : Location} {d e : Disk}
    (laid : site.Laid d live root) (beside : SameBeside live d e) : site.Placed false e live root := by
  have gone := laid.placed.erase_get?
  have beside := ((sameBeside_erase d live).symm.trans beside).trans (sameBeside_erase e live)
  obtain ⟨mode, entries, found⟩ := laid.outside
  obtain ⟨entries', found⟩ := found.directory_beside beside gone laid.placed.not_prefix_root
  exact ⟨laid.reaches.vacant_beside beside gone (get?_erase_self e laid.placed.below_top) (by simp),
    mode, entries', found⟩

/-- A disk on which the snapshot is complete: it is a copy of the live directory of `d`, outside of it, and
the path of the live directory leads where it led. -/
structure PatchSite.Keeps (site : PatchSite) (live root : Location) (name : String) (d e : Disk) :
    Prop where
  placed : site.Placed false e live root
  copied : e.get? (root ++ [name]) = (d.get? live).map copied

namespace Run

variable {site : PatchSite} {live root : Location} {name : String} {d e : Disk} {r : Run}
  {rebuild : Rebuild} {hazards : Hazards}

/-- What holds of a run that began on the disk `d`, at a stage and with a disk. -/
def SafeAt (site : PatchSite) (live root : Location) (name : String) (d e : Disk) : RunStage → Prop
  | .snapshot => e = d
  | .write | .rebuild => e.Sorted ∧ site.Laid e live root ∧
      e.get? (root ++ [name]) = (d.get? live).map copied
  | .rollback cause => site.Keeps live root name d e ∧ cause.isUndone = true ∧
      (site.configDir.endsWith "/" = true → ∀ target, e.get? live ≠ some (.link target))
  | .finished error => ∀ cause, error = some cause → cause.isFatal = false →
      e.get? live = (d.get? live).map cause.leaves

/-- What holds of a run that began on the disk `d`, before its next step. -/
structure Safe (site : PatchSite) (live root : Location) (name : String) (d : Disk)
    (state : Run × Disk) : Prop where
  path : state.1.snapshot = join site.snapshotDir name
  named : ∀ op ∈ state.1.patch.ops, Plain op.fileName
  stage : SafeAt site live root name d state.2 state.1.stage

theorem Safe.takeSnapshot (laid : site.Laid d live root) (sorted : d.Sorted) (plain : Plain name)
    (fresh : d.get? (root ++ [name]) = none) (safe : Safe site live root name d (r, d)) :
    Safe site live root name d (r.takeSnapshot site hazards d) := by
  obtain ⟨apart, apart'⟩ := laid.apart fresh
  obtain ⟨result, after, h, beside, complete⟩ :=
    laid.placed.copy_to_snapshot sorted laid.directory plain fresh hazards.snapshot
  have path : r.snapshot = join site.snapshotDir name := safe.path
  unfold Run.takeSnapshot
  rw [path, h]
  cases result with
  | error e =>
    refine ⟨safe.path, safe.named, fun cause same _ => ?_⟩
    cases same
    rw [PatchError.map_leaves_untouched rfl, beside.elsewhere live apart' apart]
  | ok u =>
    obtain ⟨sorted', copied⟩ := complete rfl
    exact ⟨rfl, safe.named, sorted', laid.snapshot fresh beside, copied⟩

theorem Safe.write (laid : site.Laid d live root)
    (fresh : d.get? (root ++ [name]) = none) (stage : r.stage = .write)
    (safe : Safe site live root name d (r, e)) :
    Safe site live root name d (r.write site hazards e) := by
  have now := safe.stage
  rw [stage] at now
  obtain ⟨sorted, laid', copied⟩ := now
  have apart := laid.apart fresh
  have begin : PatchSite.Working live e e := ⟨.refl live e, sorted, laid'.directory⟩
  have work := (begin.performAll laid'.placed hazards 0 safe.named).1
  unfold Run.write
  rcases h : performAll hazards site.configDir 0 e r.patch.ops with ⟨err | u, after⟩ <;> rw [h] at work
  all_goals
    have laid'' := laid'.beside sorted work.sorted work.beside work.directory
    have copied' : after.get? (root ++ [name]) = (d.get? live).map Node.copied := by
      rw [work.beside.elsewhere _ apart.1 apart.2, copied]
  · obtain ⟨mode, entries, hd⟩ := work.directory
    obtain ⟨before, op, later, d₁, failure, -, -, -, rfl⟩ := performAll_stops h
    exact ⟨safe.path, safe.named, ⟨laid''.placed, copied'⟩, rfl, fun _ target => by simp [hd]⟩
  · exact ⟨safe.path, safe.named, work.sorted, laid'', copied'⟩

theorem Safe.rebuildHost (confined : site.Confines live root name rebuild) (stage : r.stage = .rebuild)
    (safe : Safe site live root name d (r, e)) :
    Safe site live root name d (r.rebuildHost rebuild e) := by
  have now := safe.stage
  rw [stage] at now
  obtain ⟨sorted, laid, copied⟩ := now
  have placed := confined.placed e sorted laid
  have copied' := (confined.snapshot e sorted laid).trans copied
  have noLink := fun ends => confined.noLink ends e sorted laid
  unfold Run.rebuildHost
  simp only
  rcases h : rebuild e with ⟨message | _, after⟩ <;> rw [h] at placed copied' noLink
  · exact ⟨safe.path, safe.named, fun _ h => by cases h⟩
  · exact ⟨safe.path, safe.named, ⟨placed, copied'⟩, rfl, noLink⟩

theorem Safe.rollBack {cause : PatchError} (sorted : d.Sorted) (plain : Plain name)
    (laid : site.Laid d live root) (fresh : d.get? (root ++ [name]) = none)
    (stage : r.stage = .rollback cause) (safe : Safe site live root name d (r, e)) :
    Safe site live root name d (r.rollBack site hazards cause e) := by
  have now := safe.stage
  rw [stage] at now
  obtain ⟨⟨placed, copied⟩, undone, noLink⟩ := now
  obtain ⟨mode, entries, hd⟩ := laid.directory
  have path : r.snapshot = join site.snapshotDir name := safe.path
  rw [hd, Option.map_some, Node.copied] at copied
  obtain ⟨result, after, h, -, restored, -⟩ := placed.restore plain (laid.apart fresh)
    (sorted.get? hd).copied copied noLink hazards.rollback
  unfold Run.rollBack
  rw [path, h]
  cases result with
  | error err => exact ⟨safe.path, safe.named, fun c hc notFatal => by cases hc; cases notFatal⟩
  | ok u =>
    refine ⟨safe.path, safe.named, fun c hc _ => ?_⟩
    cases hc
    rw [restored rfl, ← PatchError.map_leaves_copied undone, hd]
    rfl

/-- **Every step keeps a run safe.** -/
theorem Safe.step (laid : site.Laid d live root) (sorted : d.Sorted) (plain : Plain name)
    (fresh : d.get? (root ++ [name]) = none) (confined : site.Confines live root name rebuild)
    {state : Run × Disk} (safe : Safe site live root name d state) :
    Safe site live root name d (Run.step site rebuild hazards state) := by
  obtain ⟨r, e⟩ := state
  unfold Run.step
  simp only
  cases stage : r.stage with
  | snapshot =>
    have now := safe.stage
    rw [stage] at now
    obtain rfl : e = d := now
    exact safe.takeSnapshot laid sorted plain fresh
  | write => exact safe.write laid fresh stage
  | rebuild => exact safe.rebuildHost confined stage
  | rollback cause => exact safe.rollBack sorted plain laid fresh stage
  | finished error => exact safe

/-- A run stays safe however many steps it takes. -/
theorem Safe.iterate (hazards : Hazards) (laid : site.Laid d live root) (sorted : d.Sorted)
    (plain : Plain name) (fresh : d.get? (root ++ [name]) = none)
    (confined : site.Confines live root name rebuild) {state : Run × Disk}
    (safe : Safe site live root name d state) (n : Nat) :
    Safe site live root name d ((Run.step site rebuild hazards)^[n] state) := by
  induction n with
  | zero => exact safe
  | succ n ih =>
    rw [Function.iterate_succ_apply']
    exact ih.step laid sorted plain fresh confined

/-- A step that ends a run with a failed rollback is a rollback that was refused. -/
theorem step_rollback {state : Run × Disk} {cause : String} {e : DiskError}
    (safe : Safe site live root name d state)
    (ends : (Run.step site rebuild hazards state).1.stage = .finished (some (.rollback cause e)))
    (before : state.1.stage ≠ .finished (some (.rollback cause e))) :
    (∃ c, state.1.stage = .rollback c) ∧
      site.RefusesRestore (join site.snapshotDir name) hazards.rollback state.2 e := by
  obtain ⟨r, d'⟩ := state
  have path : r.snapshot = join site.snapshotDir name := safe.path
  unfold Run.step at ends
  simp only at ends before ⊢
  cases stage : r.stage with
  | snapshot =>
    simp only [stage, Run.takeSnapshot] at ends
    split at ends <;> simp [Run.report, Run.fail] at ends
  | write =>
    simp only [stage, Run.write] at ends
    split at ends <;> simp [Run.report, Run.giveUp, Run.enter] at ends
  | rebuild =>
    simp only [stage, Run.rebuildHost] at ends
    split at ends <;> simp [Run.report, Run.giveUp, Run.enter] at ends
  | rollback c =>
    refine ⟨⟨c, rfl⟩, ?_⟩
    have now := safe.stage
    rw [stage] at now
    simp only [stage, Run.rollBack, path] at ends
    rcases hr : run (restoreDir (join site.snapshotDir name) site.configDir hazards.rollback) d' with
      ⟨e' | u, after⟩ <;> rw [hr] at ends
    · rcases restoreDir_cases site (join site.snapshotDir name) hazards.rollback d' with
        ok | ⟨e'', refused, h⟩
      · rw [hr] at ok
        cases ok
      · rw [hr] at h
        simp [Run.report, Run.fail] at ends
        cases h
        exact ends.2 ▸ refused
    · -- The run ended with its cause, which is not that a rollback failed.
      simp [Run.report, Run.fail] at ends
      have undone : c.isUndone = true := now.2.1
      rw [ends] at undone
      cases undone
  | finished error => exact absurd (by simpa [stage] using ends) before

/-- A run that ended with a failed rollback took a step that was refused. -/
theorem iterate_rollback {state : Run × Disk} {cause : String} {e : DiskError}
    (safe : ∀ n, Safe site live root name d ((Run.step site rebuild hazards)^[n] state)) (n : Nat)
    (ends : ((Run.step site rebuild hazards)^[n] state).1.stage = .finished (some (.rollback cause e)))
    (begins : state.1.stage ≠ .finished (some (.rollback cause e))) :
    ∃ k < n, (∃ c, ((Run.step site rebuild hazards)^[k] state).1.stage = .rollback c) ∧
      site.RefusesRestore (join site.snapshotDir name) hazards.rollback
        ((Run.step site rebuild hazards)^[k] state).2 e := by
  induction n with
  | zero => exact absurd ends begins
  | succ n ih =>
    by_cases already : ((Run.step site rebuild hazards)^[n] state).1.stage =
        .finished (some (.rollback cause e))
    · obtain ⟨k, hk, h⟩ := ih already
      exact ⟨k, Nat.lt_succ_of_lt hk, h⟩
    · rw [Function.iterate_succ_apply'] at ends
      exact ⟨n, Nat.lt_succ_self n, step_rollback (safe n) ends already⟩

end Run

/-- A run begins safe, or the patch is not pending. -/
theorem Run.begin_cases (p : Patch) (site : PatchSite) (name : String) (live root : Location)
    (d : Disk) (plain : ∀ op ∈ p.ops, Plain op.fileName) :
    (∃ start, Run.begin p site name = .ok start ∧ start.stage = .snapshot ∧
        Run.Safe site live root name d (start, d)) ∨
      ∃ state, Run.begin p site name = .error (.finalized state) := by
  unfold Run.begin
  split
  · exact .inl ⟨_, rfl, rfl, rfl, plain, rfl⟩
  · exact .inr ⟨_, rfl⟩

/-- What becomes of a patch that is applied: the error, if there is one, and the disk. -/
def Patch.outcome (p : Patch) (site : PatchSite) (snapshotName : String) (rebuild : Rebuild)
    (d : Disk) (hazards : Hazards := {}) : Option PatchError × Disk :=
  match p.apply site snapshotName rebuild d hazards with
  | .error e => (some e, d)
  | .ok (r, after) => (r.error?, after)

/-- **All or nothing.** A patch is applied to a site whose live directory is a directory and whose
snapshots lie outside of it; its changes are about files of the live directory, and the rebuild leaves the
snapshot alone and the paths where they lead. The device may refuse whatever it likes. If that ends with
an error, the live directory is what it was, apart from what the error takes from files that run in
another name (`PatchError.leaves`), unless the error is that the rollback failed; and then there was a
step of the run at which putting the snapshot back was refused. -/
theorem apply_all_or_nothing {p : Patch} {site : PatchSite} {name : String} {rebuild : Rebuild}
    {hazards : Hazards} {d : Disk} {live root : Location} (sorted : d.Sorted)
    (laid : site.Laid d live root) (plain : Plain name) (fresh : d.get? (root ++ [name]) = none)
    (ids : ∀ op ∈ p.ops, ∀ id, op.pupId? = some id → '/' ∉ id.toList)
    (confined : site.Confines live root name rebuild) {error : PatchError}
    (failed : (p.outcome site name rebuild d hazards).1 = some error) :
    (error.isFatal = false →
        (p.outcome site name rebuild d hazards).2.get? live = (d.get? live).map error.leaves) ∧
      ∀ cause e, error = .rollback cause e → ∃ start, Run.begin p site name = .ok start ∧ ∃ k < 4,
        (∃ c, ((Run.step site rebuild hazards)^[k] (start, d)).1.stage = .rollback c) ∧
        site.RefusesRestore (join site.snapshotDir name) hazards.rollback
          ((Run.step site rebuild hazards)^[k] (start, d)).2 e := by
  unfold Patch.outcome Patch.apply at *
  rcases Run.begin_cases p site name live root d fun op hop => PatchOp.plain_fileName (ids op hop) with
    ⟨start, hb, stage, safe⟩ | ⟨state, hb⟩
  · rw [hb] at failed ⊢
    have safe := safe.iterate hazards laid sorted plain fresh confined
    -- The run takes four steps.
    have four : Run.complete site rebuild hazards (start, d) =
        (Run.step site rebuild hazards)^[4] (start, d) := rfl
    simp only [Except.map, four] at failed ⊢
    have ended : ((Run.step site rebuild hazards)^[4] (start, d)).1.stage =
        .finished (some error) := by
      unfold Run.error? at failed
      split at failed
      · next e h => rw [h, failed]
      · cases failed
    refine ⟨fun notFatal => ?_, ?_⟩
    · have last := (safe 4).stage
      rw [ended] at last
      exact last error rfl notFatal
    · rintro cause e rfl
      exact ⟨start, rfl, Run.iterate_rollback safe 4 ended (by simp [stage])⟩
  · rw [hb] at failed ⊢
    cases failed
    exact ⟨fun _ => (PatchError.map_leaves_untouched rfl _).symm, fun _ _ h => by cases h⟩

/-- A host with one file and one directory that may not be written in its live directory. -/
def smallHost : Disk :=
  .dir 0o755 [("kept", .emptyDir),
    ("live", .dir 0o700 [("a.nix", .file ⟨#[49]⟩ 0o600), ("sub", .dir 0o500 [("up", .link "../a.nix")])])]

/-- The site of the small host. -/
def smallSite : PatchSite := ⟨"live", "kept"⟩

/-- The small site is laid on every disk that has its two directories at the top. -/
theorem laid_smallSite {entries : List (String × Node)}
    (live : ∃ mode es, entries.lookup "live" = some (.dir mode es))
    (kept : ∃ mode es, entries.lookup "kept" = some (.dir mode es)) :
    smallSite.Laid (.dir 0o755 entries) ["live"] ["kept"] := by
  obtain ⟨mode, es, hlive⟩ := live
  obtain ⟨mode', es', hkept⟩ := kept
  have toLive : steps (withoutEndSlashes smallSite.configDir) = ["live"] := by decide +kernel
  have toKept : steps smallSite.snapshotDir = ["kept"] := by decide +kernel
  have top : Passable ((Node.dir 0o755 entries).erase ["live"]) [] := ⟨_, _, rfl, by decide⟩
  have absent : (dropEntry "live" entries).lookup "live" = none := by
    rw [lookup_dropEntry, if_pos rfl]
  have there : (dropEntry "live" entries).lookup "kept" = some (.dir mode' es') := by
    rw [lookup_dropEntry, if_neg (by decide), hkept]
  refine ⟨⟨mode, es, by rw [get?_dir_cons, hlive]; exact get?_nil _⟩, finds_iff.2 ⟨?_, ?_, ?_⟩,
    ⟨mode', es', finds_iff.2 ⟨?_, ?_, ?_⟩⟩⟩
  · exact ⟨by decide +kernel, by decide +kernel, by decide +kernel⟩
  · rw [toLive]
    exact .absent top ⟨by decide, by decide, by decide⟩ (by
      rw [erase, List.nil_append, get?_dir_cons, absent]
      rfl)
  · rw [erase, get?_dir_cons, absent]
    rfl
  · exact ⟨by decide +kernel, by decide +kernel, by decide +kernel⟩
  · rw [toKept]
    have found : ((Node.dir 0o755 entries).erase ["live"]).get? ([] ++ ["kept"]) =
        some (.dir mode' es') := by
      rw [erase, List.nil_append, get?_dir_cons, there]
      exact get?_nil _
    exact .into top ⟨by decide, by decide, by decide⟩ found (by simp) .stop
  · rw [erase, get?_dir_cons, there]
    exact (get?_nil _).symm

/-- A rebuild that deletes everything in the live directory, begins a log elsewhere and fails. -/
def wipe : Rebuild := fun e =>
  let wiped := e.set ["live"] .emptyDir
  (some "wiped", if (e.get? ["log"]).isNone then wiped.set ["log"] (.file ⟨#[33]⟩ 0o644) else wiped)

/-- That touches neither the snapshot nor the paths. -/
theorem confines_wipe : smallSite.Confines ["live"] ["kept"] "s" wipe := by
  have wiped (e : Disk) : SameBeside ["live"] e (e.set ["live"] .emptyDir) := sameBeside_set e _ _
  have apart {a b : String} (h : a ≠ b) (l : Location) : ¬ [a] <+: b :: l := fun h' =>
    h (List.cons_prefix_cons.1 h').1
  refine ⟨fun e _ laid => ?_, fun e _ _ => ?_, fun ends => absurd ends (by decide +kernel)⟩
  · have placed := laid.placed_beside (wiped e)
    unfold wipe
    simp only
    split
    · next absent =>
      refine placed.elsewhere (f := ["log"]) ?_ (apart (by decide) []) (apart (by decide) [])
        (sameBeside_set _ _ _)
      rw [(wiped e).elsewhere _ (apart (by decide) []) (apart (by decide) [])]
      simpa using absent
    · exact placed
  · have kept : (e.set ["live"] .emptyDir).get? ["kept", "s"] = e.get? ["kept", "s"] :=
      (wiped e).elsewhere _ (apart (by decide) _) (fun h => by simp at h)
    unfold wipe
    simp only
    split
    · exact ((sameBeside_set _ ["log"] _).elsewhere _ (apart (by decide) _)
        (fun h => by simp at h)).trans kept
    · exact kept

/-- After a rebuild that wipes the live directory and fails, the live directory of the small host is
what it was. -/
theorem apply_all_or_nothing_wiped :
    smallSite.Laid smallHost ["live"] ["kept"] ∧
      (Patch.outcome ⟨"a", [.writePup "x" "1"], .pending, none, none⟩ smallSite "s" wipe smallHost).1 =
        some (.rebuild "wiped") ∧
      (Patch.outcome ⟨"a", [.writePup "x" "1"], .pending, none, none⟩ smallSite "s" wipe
        smallHost).2.get? ["live"] = smallHost.get? ["live"] := by
  have laid : smallSite.Laid smallHost ["live"] ["kept"] := laid_smallSite ⟨_, _, rfl⟩ ⟨_, _, rfl⟩
  have sub_sorted : (Node.dir 0o500 [("up", .link "../a.nix")]).Sorted :=
    sorted_dir (by decide) (by simp [sorted_link])
  have live_sorted : (Node.dir 0o700 [("a.nix", .file ⟨#[49]⟩ 0o600),
      ("sub", .dir 0o500 [("up", .link "../a.nix")])]).Sorted :=
    sorted_dir (by decide) (by simp [sorted_file, sub_sorted])
  have sorted : smallHost.Sorted :=
    sorted_dir (by decide) (by simp [sorted_emptyDir, live_sorted])
  have failed : (Patch.outcome ⟨"a", [.writePup "x" "1"], .pending, none, none⟩ smallSite "s" wipe
      smallHost).1 = some (.rebuild "wiped") := by decide +kernel
  refine ⟨laid, failed, ((apply_all_or_nothing sorted laid ⟨by decide, by decide, by decide, by decide⟩
    rfl (by decide) confines_wipe failed).1 rfl).trans ?_⟩
  -- No file of this host runs in another name.
  rfl

/-- The rebuild that fails, and the one that ends well, without a change of the disk. -/
def refuse : Rebuild := fun d => (some "refused", d)

def accept : Rebuild := fun d => (none, d)

/-- A host with a program in its live directory that runs in the name of its owner. -/
def toolHost : Disk :=
  .dir 0o755 [("kept", .emptyDir), ("live", .dir 0o755 [("run", .file ⟨#[120]⟩ 0o4755)])]

/-- **A file that is put back does not run in the name of its owner any more.** -/
theorem set_user_file_not_restored :
    smallSite.Laid toolHost ["live"] ["kept"] ∧
      (Patch.outcome ⟨"a", [.writePup "x" "1"], .pending, none, none⟩ smallSite "s" refuse
        toolHost).1 = some (.rebuild "refused") ∧
      (PatchError.rebuild "refused").isFatal = false ∧
      (Patch.outcome ⟨"a", [.writePup "x" "1"], .pending, none, none⟩ smallSite "s" refuse
        toolHost).2.get? ["live"] ≠ toolHost.get? ["live"] := by
  refine ⟨laid_smallSite ⟨_, _, rfl⟩ ⟨_, _, rfl⟩, by decide +kernel, rfl, fun same => ?_⟩
  have left : (((Patch.outcome ⟨"a", [.writePup "x" "1"], .pending, none, none⟩ smallSite "s" refuse
      toolHost).2.get? ["live"]).bind (·.get? ["run"])).map Node.mode =
        some 0o755 := by decide +kernel
  rw [same] at left
  revert left
  decide +kernel

end Kennel
