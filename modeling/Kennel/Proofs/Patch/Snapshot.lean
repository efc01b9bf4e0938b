import Kennel.Proofs.Disk.Copy
import Kennel.Proofs.Patch.Site

/-!
# Snapshots of the live directory

The live directory is copied to a snapshot, and a snapshot is put back in its place. **Either changes one
place only**, the snapshot or the live directory, whatever the device refuses; and if it ends well, the
copy is there. Putting a snapshot back is a removal and a copy, so it is refused when one of the two is
(`PatchSite.RefusesRestore`).
-/

namespace Kennel

open Node Disk Path

namespace PatchSite.Placed

variable {site : PatchSite} {follow : Bool} {d e : Disk} {live root : Location} {name : String}

/-- Where a snapshot goes a new directory is made first, or nothing is changed. -/
theorem makeDirs_snapshot (placed : site.Placed follow d live root) (plain : Plain name)
    (fresh : d.get? (root ++ [name]) = none) (faults : Faults) :
    (Vacant d (join site.snapshotDir name) (root ++ [name]) ∧
        run (makeDirs (join site.snapshotDir name) faults) d =
          (.ok (), d.set (root ++ [name]) (newDir d (root ++ [name])))) ∨
      ∃ e, run (makeDirs (join site.snapshotDir name) faults) d = (.error e, d) := by
  have refl := SameBeside.refl live d
  obtain ⟨mode, entries, hd⟩ := placed.root_eq_dir refl
  exact makeDirs_entry (placed.reaches_root refl) placed.snapshotDir_ne_empty plain hd fresh faults

/-- **The snapshot is a copy of the live directory, or nothing was touched** but what was to become of
it. -/
theorem copy_to_snapshot (placed : site.Placed follow d live root) (sorted : d.Sorted)
    (directory : ∃ mode entries, d.get? live = some (.dir mode entries)) (plain : Plain name)
    (fresh : d.get? (root ++ [name]) = none) (faults : Faults) :
    ∃ r after, run (copyDir site.configDir (join site.snapshotDir name) faults) d = (r, after) ∧
      SameBeside (root ++ [name]) d after ∧
      (r = .ok () → after.Sorted ∧ after.get? (root ++ [name]) = (d.get? live).map copied) := by
  obtain ⟨mode, entries, hd⟩ := directory
  obtain ⟨apart, apart'⟩ := placed.apart fresh (by simp [hd])
  have source : Original d site.configDir live (.dir mode entries) :=
    ⟨placed.configDir_ne_empty, placed.reaches_following (.refl _ _) (by simp [hd]), hd⟩
  have live_sorted := sorted.get? hd
  rcases copyDir_cases live_sorted ⟨apart, apart'⟩ (fun _ _ _ => source)
    (placed.makeDirs_snapshot plain fresh faults) with ⟨vacant, h⟩ | ⟨e, after, changed, -, h⟩
  · refine ⟨_, _, h, sameBeside_set _ _ _, fun _ => ⟨sorted.set live_sorted.copied _, ?_⟩⟩
    rw [vacant.get?_set, hd, Option.map_some]
  · exact ⟨_, after, h, changed, fun e => by cases e⟩

end PatchSite.Placed

/-! ## Putting a snapshot back -/

/-- Putting a snapshot back is refused: the removal of the live directory ends with the error, or,
after a removal that ended well or found nothing, the copy does. -/
def PatchSite.RefusesRestore (site : PatchSite) (snapshot : String) (faults : Faults) (d : Disk)
    (e : DiskError) : Prop :=
  ((run (removeDirs site.configDir faults) d).1 = .error e ∧ e ≠ .system .notFound) ∨
    ∃ r after, run (removeDirs site.configDir faults) d = (r, after) ∧
      (r = .ok () ∨ r = .error (.system .notFound)) ∧
      (run (copyDir snapshot site.configDir faults) after).1 = .error e

/-- A removal that ends well or finds nothing is followed by the copy; any other one is the end. -/
theorem run_restoreDir (snapshot live : String) (faults : Faults) (d : Disk) :
    (((run (removeDirs live faults) d).1 = .ok () ∨
          (run (removeDirs live faults) d).1 = .error (.system .notFound)) ∧
        run (restoreDir snapshot live faults) d =
          run (copyDir snapshot live faults) (run (removeDirs live faults) d).2) ∨
      ∃ e, (run (removeDirs live faults) d).1 = .error e ∧ e ≠ .system .notFound ∧
        run (restoreDir snapshot live faults) d = (.error e, (run (removeDirs live faults) d).2) := by
  unfold restoreDir
  rw [run_bind, run_get]
  simp only
  rcases run (removeDirs live faults) d with ⟨e | ⟨⟩, after⟩
  · by_cases gone : e = .system .notFound
    · subst gone
      exact .inl ⟨.inr rfl, by simp only [run_bind, run_set]⟩
    · exact .inr ⟨e, rfl, gone, by simp only [run_bind, run_set, run_throw]⟩
  · exact .inl ⟨.inl rfl, by simp only [run_bind, run_set]⟩

/-- Putting a snapshot back ends well, or it is refused. -/
theorem restoreDir_cases (site : PatchSite) (snapshot : String) (faults : Faults) (d : Disk) :
    (run (restoreDir snapshot site.configDir faults) d).1 = .ok () ∨
      ∃ e, site.RefusesRestore snapshot faults d e ∧
        (run (restoreDir snapshot site.configDir faults) d).1 = .error e := by
  rcases run_restoreDir snapshot site.configDir faults d with ⟨removed, whole⟩ | ⟨e, refused, other, h⟩
  · rw [whole]
    rcases hc : (run (copyDir snapshot site.configDir faults)
      (run (removeDirs site.configDir faults) d).2).1 with e | ⟨⟩
    · exact .inr ⟨e, .inr ⟨_, _, rfl, removed, hc⟩, rfl⟩
    · exact .inl rfl
  · exact .inr ⟨e, .inl ⟨refused, other⟩, by rw [h]⟩

namespace PatchSite.Placed

variable {site : PatchSite} {d e : Disk} {place root : Location} {name : String}

/-- A snapshot whose path is found, whatever is at the place, lies where its name says. -/
theorem source_snapshot {follow : Bool} (placed : site.Placed follow d place root)
    (beside : SameBeside place d e) (plain : Plain name) (apart : Apart place root name) {mode : Mode}
    {entries : List (String × Node)} (kept : d.get? (root ++ [name]) = some (.dir mode entries))
    {new : Node} {j : Location} {x : Option Node}
    (found : Finds (e.set place new) true (join site.snapshotDir name) j x) :
    Original e (join site.snapshotDir name) (root ++ [name]) (.dir mode entries) := by
  have beside' := beside.trans (sameBeside_set e place new)
  obtain ⟨m, es, around⟩ := placed.root_eq_dir beside
  obtain ⟨es', around'⟩ := (sameBeside_set e place new).get?_eq_dir placed.not_prefix_root around
  have there : e.get? (root ++ [name]) = some (.dir mode entries) := by
    rw [beside.elsewhere _ apart.1 apart.2, kept]
  have there' : (e.set place new).get? (root ++ [name]) = some (.dir mode entries) := by
    rw [beside'.elsewhere _ apart.1 apart.2, kept]
  obtain ⟨search, short, -, -⟩ := (placed.reaches_root beside').finds_join placed.snapshotDir_ne_empty
    plain around' (fun _ => by simp [there']) found
  exact ⟨join_ne_empty placed.snapshotDir_ne_empty plain,
    (placed.reaches_root beside).join placed.snapshotDir_ne_empty plain around (by simp [there]) search
      short, there⟩

/-- **Putting a snapshot back changes one place only**, whatever had become of it. If it ends well, a
copy of the snapshot is there, and no other end leaves a part of something else there. -/
theorem restore (placed : site.Placed false d place root) (plain : Plain name)
    (apart : Apart place root name) {mode : Mode} {entries : List (String × Node)}
    (sorted : (dir mode entries).Sorted) (kept : d.get? (root ++ [name]) = some (.dir mode entries))
    (noLink : site.configDir.endsWith "/" = true → ∀ target, d.get? place ≠ some (.link target))
    (faults : Faults) :
    ∃ r after, run (restoreDir (join site.snapshotDir name) site.configDir faults) d = (r, after) ∧
      SameBeside place d after ∧ (r = .ok () → after.get? place = some (dir mode entries).copied) ∧
      (after = d ∨ Cleared after place) := by
  have reaches := placed.reaches_place (.refl place d) (fun h => by cases h)
  obtain ⟨taken, gone, left⟩ := removeDirs_cases placed.below_top
    (fun j x h => reaches.eq_of_finds noLink h)
    (reaches.get?_eq_none placed.configDir_ne_empty noLink) faults
  rcases run_restoreDir (join site.snapshotDir name) site.configDir faults d with
    ⟨found, whole⟩ | ⟨err, -, -, h⟩
  · generalize (run (removeDirs site.configDir faults) d).2 = after at *
    have gone : after.get? place = none := gone found
    -- Nothing is left at the place, and the path still leads there.
    have made := makeDirs_vacant placed.configDir_ne_empty (d := after) (l := place)
      (.inl (by
        rw [steps_withoutEndSlashes placed.parts_ne_nil, ← gone]
        exact (placed.reaches_place taken (fun h => by cases h)).walk_eq))
      (by
        rw [Bool.eq_false_iff]
        intro h
        obtain ⟨l, n, found'⟩ := finds_of_isDir h
        have hl := (placed.reaches_following taken (by simp [gone])).eq_of_finds
          (fun _ => by simp [gone]) found'
        have := (finds_iff.1 found').2.2
        rw [hl, gone] at this
        cases this) faults
    rcases copyDir_cases sorted ⟨apart.2, apart.1⟩
      (fun _ _ found => placed.source_snapshot taken plain apart kept found) made with
      ⟨vacant, h⟩ | ⟨err, after', changed, shape, h⟩
    · exact ⟨_, _, whole.trans h, taken.trans (sameBeside_set _ _ _),
        fun _ => vacant.get?_set _, .inr (.set placed.below_top rfl)⟩
    · refine ⟨_, _, whole.trans h, taken.trans changed, (by cases ·), .inr ?_⟩
      rcases shape with rfl | cleared
      · intro n there
        rw [gone] at there
        cases there
      · exact cleared
  · exact ⟨_, _, h, taken, (by cases ·), left⟩

end PatchSite.Placed

/-! ## What an error leaves -/

namespace PatchError

/-- Whether the snapshot is put back after the error. -/
def isUndone : PatchError → Bool
  | operation _ _ _ => true
  | rebuild _ => true
  | _ => false

/-- What an error leaves of the live directory when the patch is over: the copy of the copy if the snapshot
was put back. -/
def leaves (cause : PatchError) (n : Node) : Node := if cause.isUndone then n.copied else n

/-- A directory of which no file runs in another name is left exactly as it was. -/
theorem leaves_of_ownName (cause : PatchError) {n : Node} (own : n.OwnName) : cause.leaves n = n := by
  unfold leaves
  split
  · exact copied_of_ownName own
  · rfl

theorem leaves_undone {cause : PatchError} (undone : cause.isUndone = true) : cause.leaves = copied :=
  funext fun _ => if_pos undone

/-- A directory is left a directory. -/
theorem leaves_dir (cause : PatchError) (mode : Mode) (entries : List (String × Node)) :
    ∃ mode' entries', (some (dir mode entries)).map cause.leaves = some (dir mode' entries') := by
  rw [Option.map_some, leaves]
  split
  · exact ⟨mode, copiedAll entries, by rw [copied]⟩
  · exact ⟨mode, entries, rfl⟩

/-- What was put back once is what is put back again. -/
theorem map_leaves_copied {cause : PatchError} (undone : cause.isUndone = true) (x : Option Node) :
    (x.map copied).map copied = x.map cause.leaves := by
  rw [leaves_undone undone]
  cases x with
  | none => rfl
  | some n => exact congrArg some (copied_copied n)

theorem map_leaves_untouched {cause : PatchError} (untouched : cause.isUndone = false)
    (x : Option Node) : x.map cause.leaves = x := by
  cases x with
  | none => rfl
  | some n => rw [Option.map_some, leaves, if_neg (by simp [untouched])]

end PatchError

end Kennel
