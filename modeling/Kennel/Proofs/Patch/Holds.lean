import Kennel.Proofs.Disk.Sorted
import Kennel.Proofs.Patch.Changes
import Kennel.Proofs.Patch.Course
import Kennel.Proofs.Patch.Linked

/-!
# A site in the course of patches

A patch finds the site as others have left it. A rollback may have put a directory in the place of a link,
and one that failed may have left nothing where the live directory was. What is true of the site all the
same is `PatchSite.Holds`: **the path of the live directory leads to a place that is known, and there is a
directory or nothing**; where the directory is there, the site stands (`PatchSite.Stands`). The copy to
the snapshot, the changes, the rebuild and the rollback keep that, each by its own lemma, and each says
which one place it may change.
-/

namespace Kennel

open Node Disk Path

/-! ## Where the live tree is -/

/-- What the path of the live directory leads to. -/
def PatchSite.tree (site : PatchSite) (d : Disk) : Option Node :=
  match (run (place true (withoutEndSlashes site.configDir)) d).1 with
  | .ok (_, x) => x
  | .error _ => none

/-- A path that leads to a place finds what is there. -/
theorem PatchSite.Placed.tree_eq {site : PatchSite} {follow : Bool} {d : Disk} {l root : Location}
    (placed : site.Placed follow d l root) (noLink : ∀ target, d.get? l ≠ some (.link target)) :
    site.tree d = d.get? l := by
  have reaches := placed.reaches_following (.refl l d) noLink
  rw [Reaches, ← steps_withoutEndSlashes placed.parts_ne_nil] at reaches
  have found : Finds d true (withoutEndSlashes site.configDir) l (d.get? l) :=
    finds_iff.2 ⟨(finds_iff.1 placed.reaches).1, reaches, rfl⟩
  unfold tree
  rw [show (run (place true (withoutEndSlashes site.configDir)) d).1 = .ok (l, d.get? l) from found]

/-- No snapshot is made of a directory that is not there. -/
theorem PatchSite.Placed.copy_missing {site : PatchSite} {follow : Bool} {d e : Disk}
    {l root : Location} {name : String} (placed : site.Placed follow d l root)
    (missing : d.get? l = none) (plain : Plain name) (fresh : d.get? (root ++ [name]) = none)
    (apart : Apart l root name) {faults : Faults} {r : Except DiskError Unit}
    (ran : run (copyDir site.configDir (join site.snapshotDir name) faults) d = (r, e)) :
    SameBeside (root ++ [name]) d e ∧ r ≠ .ok () := by
  unfold copyDir at ran
  rw [run_bind] at ran
  rcases placed.makeDirs_snapshot plain fresh faults with ⟨-, made⟩ | ⟨err, refused⟩
  · generalize newDir d (root ++ [name]) = new at made
    have beside := sameBeside_set d (root ++ [name]) new
    have placed' := placed.snapshot fresh apart beside
    have missing' : (d.set (root ++ [name]) new).get? l = none :=
      (beside.elsewhere l apart.2 apart.1).trans missing
    rw [made] at ran
    simp only [run_bind] at ran
    rcases look_cases site.configDir (d.set (root ++ [name]) new) with
      ⟨j, n, found, -⟩ | ⟨err, refused⟩
    · obtain rfl := (placed'.reaches_following (.refl _ _) (by simp [missing'])).eq_of_finds
        (fun _ => by simp [missing']) found
      have there := (finds_iff.1 found).2.2
      rw [missing'] at there
      cases there
    · rw [refused] at ran
      cases ran
      exact ⟨beside, by simp⟩
  · rw [refused] at ran
    cases ran
    exact ⟨.refl _ _, by simp⟩

/-- A site in the course of patches. The path of the live directory leads to a place, and there is a
directory, or nothing. The place is where a link leads that has not been touched, or where the path leads
without following the last link; only where nothing is any more it is left open which of the two. -/
structure PatchSite.Holds (site : PatchSite) (place live root l : Location) (d : Disk) : Prop where
  sorted : d.Sorted
  among : l = place ∨ l = live
  following : site.Placed true d l root
  cleared : Cleared d l
  kind : site.Placed false d l root ∨ (l = live ∧ site.Linked d place live root) ∨ d.get? l = none

/-- A site in order: the live directory is there. -/
structure PatchSite.Stands (site : PatchSite) (place live root l : Location) (d : Disk) : Prop
    extends site.Holds place live root l d where
  directory : ∃ mode entries, d.get? l = some (.dir mode entries)

/-- The path of the live directory leads to it, directly or through a link. -/
def PatchSite.Found (site : PatchSite) (d : Disk) (place live root : Location) : Prop :=
  (place = live ∧ site.Laid d live root) ∨ site.Linked d place live root

/-- A snapshot of this name lies beside everything that patches may change. -/
def PatchSite.Beside (place live root : Location) (name : String) : Prop :=
  ∀ l, l = place ∨ l = live → Apart l root name

/-- A rebuild that leaves a site alone which is in order: the paths lead where they led, and what is in the
live directory and in the snapshots is the same. -/
structure PatchSite.Spares (site : PatchSite) (place live root : Location) (rebuild : Rebuild) : Prop where
  stands : ∀ d l, site.Stands place live root l d → site.Stands place live root l (rebuild d).2
  linked : ∀ d, d.Sorted → site.Linked d place live root → site.Linked (rebuild d).2 place live root
  same : ∀ d l, site.Stands place live root l d → (rebuild d).2.get? l = d.get? l
  snapshots : ∀ d l name, site.Stands place live root l d →
    (rebuild d).2.get? (root ++ [name]) = d.get? (root ++ [name])

/-- A rebuild that only answers leaves every site alone. -/
theorem PatchSite.spares_answer (site : PatchSite) (place live root : Location)
    (answer : Disk → Option String) : site.Spares place live root fun d => (answer d, d) :=
  ⟨fun _ _ stands => stands, fun _ _ linked => linked, fun _ _ _ => rfl, fun _ _ _ _ => rfl⟩

/-- The changes that were made before an error put an end to a run. -/
def PatchError.made (ops : List PatchOp) : PatchError → List PatchOp
  | operation index _ _ => ops.take index
  | rebuild _ => ops
  | _ => []

/-- Changes that are made in what an error leaves might as well have been made before. -/
theorem PatchError.editAll_leaves (cause : PatchError) (ops : List PatchOp) (n : Node) :
    PatchOp.editAll ops (cause.leaves n) = cause.leaves (PatchOp.editAll ops n) := by
  unfold leaves
  split
  · exact PatchOp.editAll_copied ops n
  · rfl

/-- Another snapshot is elsewhere. -/
theorem PatchSite.snapshot_elsewhere {d e : Disk} {root : Location} {name other : String}
    (hne : name ≠ other) (beside : SameBeside (root ++ [name]) d e) :
    e.get? (root ++ [other]) = d.get? (root ++ [other]) := by
  refine beside.elsewhere _ (fun h => hne ?_) (fun h => hne ?_)
  · have := h.eq_of_length (by simp)
    simpa using this
  · have := h.eq_of_length (by simp)
    simpa using this.symm

/-! ## How a site comes to be in order -/

theorem PatchSite.Laid.stands {site : PatchSite} {d : Disk} {live root : Location}
    (laid : site.Laid d live root) (sorted : d.Sorted) : site.Stands live live root live d :=
  let ⟨_, _, hd⟩ := laid.directory
  ⟨⟨sorted, .inl rfl, laid.placed.following, .of_dir hd, .inl laid.placed⟩, laid.directory⟩

namespace PatchSite.Linked

variable {site : PatchSite} {place live root l : Location} {d e : Disk} {name : String}

theorem stands (linked : site.Linked d place live root) (sorted : d.Sorted) :
    site.Stands place live root live d :=
  let ⟨_, _, hd⟩ := linked.directory
  ⟨⟨sorted, .inr rfl, linked.following, .of_dir hd, .inr (.inl ⟨rfl, linked⟩)⟩, linked.directory⟩

/-- The site is in order when the link or the live directory made way for a directory, or for nothing. -/
theorem holds_of_cleared (linked : site.Linked d place live root) (sorted : d.Sorted)
    (sorted' : e.Sorted) (at_ : l = place ∨ l = live) (beside : SameBeside l d e)
    (cleared : Cleared e l) : site.Holds place live root l e := by
  rcases at_ with rfl | rfl
  · have placed := linked.placed.beside sorted sorted' beside
    exact ⟨sorted', .inl rfl, placed.following, cleared, .inl placed⟩
  · refine ⟨sorted', .inr rfl, linked.following.beside sorted sorted' beside, cleared, ?_⟩
    rcases cleared.cases with directory | gone
    · exact .inr (.inl ⟨rfl, linked.beside sorted sorted' beside directory⟩)
    · exact .inr (.inr gone)

/-- What is not there yet lies beside the link and the live directory. -/
theorem apart (linked : site.Linked d place live root) (fresh : d.get? (root ++ [name]) = none) :
    Beside place live root name := by
  obtain ⟨target, link⟩ := linked.link
  obtain ⟨mode, entries, directory⟩ := linked.directory
  rintro l (rfl | rfl)
  · exact linked.placed.apart fresh (by simp [link])
  · exact linked.following.apart fresh (by simp [directory])

end PatchSite.Linked

namespace PatchSite.Found

variable {site : PatchSite} {place live root : Location} {d : Disk} {name : String}

theorem stands (found : site.Found d place live root) (sorted : d.Sorted) :
    site.Stands place live root live d := by
  rcases found with ⟨rfl, laid⟩ | linked
  · exact laid.stands sorted
  · exact linked.stands sorted

theorem apart (found : site.Found d place live root) (fresh : d.get? (root ++ [name]) = none) :
    Beside place live root name := by
  rcases found with ⟨rfl, laid⟩ | linked
  · exact fun l at_ => at_.elim id id ▸ laid.apart fresh
  · exact linked.apart fresh

end PatchSite.Found

/-! ## What keeps a site in order -/

namespace PatchSite.Holds

variable {site : PatchSite} {place live root l : Location} {d e : Disk} {name : String}

theorem noLink (h : site.Holds place live root l d) (target : String) : d.get? l ≠ some (.link target) :=
  fun there => by cases h.cleared _ there

theorem tree_eq (h : site.Holds place live root l d) : site.tree d = d.get? l :=
  h.following.tree_eq h.noLink

/-- The directory is not where the link is. -/
theorem eq_live (h : site.Holds place live root l d) (linked : site.Linked d place live root) : l = live :=
  h.among.resolve_left fun at_ => by
    obtain ⟨target, link⟩ := linked.link
    exact h.noLink target (at_ ▸ link)

/-- Making a snapshot leaves the site as it is. -/
theorem snapshot (h : site.Holds place live root l d) (sorted : e.Sorted)
    (fresh : d.get? (root ++ [name]) = none) (apart : Beside place live root name)
    (beside : SameBeside (root ++ [name]) d e) :
    site.Holds place live root l e ∧ e.get? l = d.get? l := by
  have apart := apart l h.among
  have same := beside.elsewhere l apart.2 apart.1
  refine ⟨⟨sorted, h.among, h.following.snapshot fresh apart beside,
    fun n there => h.cleared n (same ▸ there), ?_⟩, same⟩
  rcases h.kind with placed | ⟨at_, linked⟩ | gone
  · exact .inl (placed.snapshot fresh apart beside)
  · exact .inr (.inl ⟨at_, linked.snapshot fresh beside⟩)
  · exact .inr (.inr (same.trans gone))

/-- The snapshot is a copy of the live directory, or none can be made; either way nothing else is
touched. -/
theorem copy (h : site.Holds place live root l d) (plain : Plain name)
    (fresh : d.get? (root ++ [name]) = none) (apart : Beside place live root name) {faults : Faults}
    {r : Except DiskError Unit}
    (ran : run (copyDir site.configDir (join site.snapshotDir name) faults) d = (r, e)) :
    SameBeside (root ++ [name]) d e ∧ site.Holds place live root l e ∧ e.get? l = d.get? l ∧
      (r = .ok () → site.Stands place live root l e ∧
        e.get? (root ++ [name]) = (d.get? l).map copied) := by
  have sorted := sorted_copyDir site.configDir (join site.snapshotDir name) faults d h.sorted
  rw [ran] at sorted
  suffices copied : SameBeside (root ++ [name]) d e ∧
      (r = .ok () → (∃ mode entries, d.get? l = some (.dir mode entries)) ∧
        e.get? (root ++ [name]) = (d.get? l).map copied) by
    obtain ⟨holds, same⟩ := h.snapshot sorted fresh apart copied.1
    refine ⟨copied.1, holds, same, fun ended => ?_⟩
    obtain ⟨directory, complete⟩ := copied.2 ended
    exact ⟨⟨holds, same ▸ directory⟩, complete⟩
  rcases h.cleared.cases with directory | missing
  · obtain ⟨r', e', ran', beside, complete⟩ :=
      h.following.copy_to_snapshot h.sorted directory plain fresh faults
    rw [ran] at ran'
    cases ran'
    exact ⟨beside, fun ended => ⟨directory, (complete ended).2⟩⟩
  · obtain ⟨beside, refused⟩ := h.following.copy_missing missing plain fresh (apart l h.among) ran
    exact ⟨beside, fun ended => absurd ended refused⟩

end PatchSite.Holds

namespace PatchSite.Stands

variable {site : PatchSite} {place live root l : Location} {d e : Disk} {name : String}

/-- Without a link the site is laid. -/
theorem laid (h : site.Stands live live root l d) : l = live ∧ site.Laid d live root := by
  obtain rfl : l = live := h.among.elim id id
  refine ⟨rfl, ?_⟩
  obtain ⟨mode, entries, hd⟩ := h.directory
  rcases h.kind with placed | ⟨-, linked⟩ | gone
  · exact ⟨h.directory, placed.reaches, placed.outside⟩
  · obtain ⟨target, link⟩ := linked.link
    cases hd.symm.trans link
  · cases hd.symm.trans gone

/-- Changing the live directory leaves the site in order. -/
theorem beside (h : site.Stands place live root l d) (sorted : e.Sorted) (beside : SameBeside l d e)
    (directory : ∃ mode entries, e.get? l = some (.dir mode entries)) :
    site.Stands place live root l e := by
  obtain ⟨mode, entries, hd⟩ := directory
  refine ⟨⟨sorted, h.among, h.following.beside h.sorted sorted beside, .of_dir hd, ?_⟩,
    mode, entries, hd⟩
  rcases h.kind with placed | ⟨rfl, linked⟩ | gone
  · exact .inl (placed.beside h.sorted sorted beside)
  · exact .inr (.inl ⟨rfl, linked.beside h.sorted sorted beside ⟨mode, entries, hd⟩⟩)
  · obtain ⟨_, _, there⟩ := h.directory
    cases gone.symm.trans there

/-- Changes touch the live directory only. If all are made, it is edited by them, and else by those before
the one that failed. -/
theorem performAll (h : site.Stands place live root l d) {hazards : Hazards} {ops : List PatchOp}
    (plain : ∀ op ∈ ops, Plain op.fileName) {r : Except PatchError Unit}
    (ran : Run.performAll hazards site.configDir 0 d ops = (r, e)) :
    site.Stands place live root l e ∧ SameBeside l d e ∧
      (r = .ok () → e.get? l = (d.get? l).map (PatchOp.editAll ops)) ∧
      ∀ cause, r = .error cause → cause.isUndone = true ∧
        e.get? l = (d.get? l).map (PatchOp.editAll (cause.made ops)) := by
  have begin : Working l d d := ⟨.refl l d, h.sorted, h.directory⟩
  obtain ⟨work, edited⟩ := begin.performAll h.following hazards 0 plain
  rw [ran] at work edited
  refine ⟨h.beside work.sorted work.beside work.directory, work.beside, edited, ?_⟩
  rintro cause rfl
  obtain ⟨before, op, later, d₁, err, rfl, inOrder, stopped, rfl⟩ := Run.performAll_stops ran
  obtain ⟨work', edited'⟩ := begin.performAll h.following hazards 0 fun op hop =>
    plain op (List.mem_append_left _ hop)
  rw [Run.performAll_ok_iff.2 inOrder] at work' edited'
  -- The change that failed has changed nothing.
  rcases work'.perform_cases h.following (plain op (by simp)) (hazards.change (0 + before.length)) with
    ⟨e', made, -, -⟩ | ⟨err', refused⟩
  · cases stopped.symm.trans made
  · cases stopped.symm.trans refused
    exact ⟨rfl, by simpa [PatchError.made] using edited' rfl⟩

/-- Putting the snapshot back changes one place, and the site holds there. If it ends well, a copy of the
snapshot is the live directory, in the place of the link if there was one. -/
theorem restore (h : site.Stands place live root l d) (plain : Plain name)
    (apart : Beside place live root name) {mode : Mode} {entries : List (String × Node)}
    (kept : d.get? (root ++ [name]) = some (.dir mode entries)) {faults : Faults}
    {r : Except DiskError Unit}
    (ran : run (restoreDir (join site.snapshotDir name) site.configDir faults) d = (r, e)) :
    ∃ l', site.Holds place live root l' e ∧ SameBeside l' d e ∧
      (r = .ok () → e.get? l' = some (dir mode entries).copied ∧
        (site.Linked d place live root → l' = place)) := by
  obtain ⟨m, es, hd⟩ := h.directory
  have sorted := sorted_restoreDir (join site.snapshotDir name) site.configDir faults d h.sorted
  rw [ran] at sorted
  by_cases linked : site.Linked d place live root
  · obtain rfl := h.eq_live linked
    rcases linked.restore h.sorted plain (apart place (.inl rfl)) kept ran with
      ⟨-, beside, restored⟩ | ⟨err, rfl, rfl | ⟨changed, at_, beside, cleared⟩⟩
    · have cleared : Cleared e place := .of_dir (restored.trans (by rw [copied]))
      exact ⟨place, linked.holds_of_cleared h.sorted sorted (.inl rfl) beside cleared, beside,
        fun _ => ⟨restored, fun _ => rfl⟩⟩
    · exact ⟨l, h.toHolds, .refl l _, (by cases ·)⟩
    · exact ⟨changed, linked.holds_of_cleared h.sorted sorted at_ beside cleared, beside, (by cases ·)⟩
  · have placed : site.Placed false d l root := by
      rcases h.kind with placed | ⟨-, linked'⟩ | gone
      · exact placed
      · exact absurd linked' linked
      · cases hd.symm.trans gone
    obtain ⟨r', e', ran', beside, restored, left⟩ := placed.restore plain (apart l h.among)
      (h.sorted.get? kept) kept (fun _ => h.noLink) faults
    rw [ran] at ran'
    cases ran'
    have placed' := placed.beside h.sorted sorted beside
    exact ⟨l, ⟨sorted, h.among, placed'.following, left.elim (· ▸ h.cleared) id, .inl placed'⟩, beside,
      fun ended => ⟨restored ended, fun linked' => absurd linked' linked⟩⟩

end PatchSite.Stands

end Kennel
