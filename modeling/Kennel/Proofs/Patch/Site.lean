import Kennel.Patch.Basic
import Kennel.Proofs.Disk.Directory

/-!
# Where a site is on a disk

`PatchSite.Laid` says what the disk of a site has to be like: the live directory is there, its path
leads to it without going through it, and the directory of the snapshots lies outside. What the paths
of a site lead to does not depend on what is there, so it is said apart (`PatchSite.Placed`), and of a
path whose last link is followed as well. Everything else that is used of the paths of a site
follows, for the disk itself and for every disk that differs from it at that place only.
-/

namespace Kennel

open Node Disk Path

/-- The live directory of a site is at one location of a disk, and its snapshots go to another.

That a path does not go through the live directory is said by taking the directory away: the path
still leads to where it was. -/
structure PatchSite.Laid (site : PatchSite) (d : Disk) (live root : Location) : Prop where
  directory : ∃ mode entries, d.get? live = some (.dir mode entries)
  reaches : Finds (d.erase live) false (withoutEndSlashes site.configDir) live none
  outside : ∃ mode entries, Finds (d.erase live) true site.snapshotDir root (some (.dir mode entries))

/-- The path of the live directory leads to a place without going through it, and the directory of the
snapshots lies outside. What is at the place is left open; the last link of the path is followed or
not. -/
structure PatchSite.Placed (site : PatchSite) (follow : Bool) (d : Disk) (place root : Location) :
    Prop where
  reaches : Finds (d.erase place) follow (withoutEndSlashes site.configDir) place none
  outside : ∃ mode entries, Finds (d.erase place) true site.snapshotDir root (some (.dir mode entries))

/-- The snapshot of this name lies beside the live directory. -/
def PatchSite.Apart (live root : Location) (name : String) : Prop :=
  ¬ live <+: root ++ [name] ∧ ¬ root ++ [name] <+: live

namespace PatchSite.Placed

variable {site : PatchSite} {follow : Bool} {d e : Disk} {place root : Location}

theorem below_top (placed : site.Placed follow d place root) : place ≠ [] := by
  rintro rfl
  have h := (finds_iff.1 placed.reaches).2.2
  rw [get?_nil] at h
  cases h

theorem parts_ne_nil (placed : site.Placed follow d place root) : parts site.configDir ≠ [] := by
  intro h
  have leads := (finds_iff.1 placed.reaches).2.1
  rw [steps_eq, parts_withoutEndSlashes, h] at leads
  refine placed.below_top ?_
  split at leads
  · exact eq_of_leads_dot leads
  · cases leads
    rfl

theorem configDir_ne_empty (placed : site.Placed follow d place root) : site.configDir ≠ "" := fun h =>
  placed.parts_ne_nil (by rw [h]; rfl)

theorem snapshotDir_ne_empty (placed : site.Placed follow d place root) : site.snapshotDir ≠ "" :=
  let ⟨_, _, found⟩ := placed.outside
  (finds_iff.1 found).1.nonempty

theorem erase_get? (placed : site.Placed follow d place root) : (d.erase place).get? place = none :=
  get?_erase_self d placed.below_top

/-- Where nothing is, it does not matter whether a link would be followed. -/
theorem following (placed : site.Placed false d place root) : site.Placed true d place root := by
  obtain ⟨passed, leads, gone⟩ := finds_iff.1 placed.reaches
  exact ⟨finds_iff.2 ⟨passed, leads.following (by simp [← gone]), gone⟩, placed.outside⟩

/-- The directory of the snapshots is not at the place. -/
theorem not_prefix_root (placed : site.Placed follow d place root) : ¬ place <+: root := fun below => by
  obtain ⟨mode, entries, found⟩ := placed.outside
  have h := (finds_iff.1 found).2.2
  rw [get?_eq_none_below placed.erase_get? below] at h
  cases h

/-- The directory of the snapshots is there whatever is at the place. -/
theorem root_eq_dir (placed : site.Placed follow d place root) (beside : SameBeside place d e) :
    ∃ mode entries, e.get? root = some (.dir mode entries) := by
  obtain ⟨mode, entries, found⟩ := placed.outside
  obtain ⟨entries', h⟩ := ((sameBeside_erase d place).symm.trans beside).get?_eq_dir
    placed.not_prefix_root (finds_iff.1 found).2.2.symm
  exact ⟨mode, entries', h⟩

/-- The path of the live directory leads to the place whatever is there, unless that is a link which is
followed. -/
theorem reaches_place (placed : site.Placed follow d place root) (beside : SameBeside place d e)
    (noLink : follow = true → ∀ target, e.get? place ≠ some (.link target)) :
    Reaches e follow site.configDir place := by
  have leads := (finds_iff.1 placed.reaches).2.1
  rw [steps_withoutEndSlashes placed.parts_ne_nil] at leads
  exact leads.frame_of_noLink ((sameBeside_erase d place).symm.trans beside)
    (by simp [placed.erase_get?]) (by simp [placed.erase_get?]) fun follows _ => noLink follows

/-- Links followed, the path leads to the place unless there is one. -/
theorem reaches_following (placed : site.Placed follow d place root) (beside : SameBeside place d e)
    (noLink : ∀ target, e.get? place ≠ some (.link target)) : Reaches e true site.configDir place := by
  cases follow with
  | true => exact placed.reaches_place beside fun _ => noLink
  | false => exact placed.following.reaches_place beside fun _ => noLink

/-- The path of the snapshots leads to their directory whatever is at the place. -/
theorem reaches_root (placed : site.Placed follow d place root) (beside : SameBeside place d e) :
    Reaches e true site.snapshotDir root := by
  obtain ⟨mode, entries, found⟩ := placed.outside
  have leads := (finds_iff.1 found).2.1
  exact reaches_of_leads (leads.frame ((sameBeside_erase d place).symm.trans beside)
    (by simp [placed.erase_get?]) (by simp [placed.erase_get?]) (fun _ => placed.not_prefix_root))

/-- A snapshot that is not there yet lies beside a place at which there is something. -/
theorem apart (placed : site.Placed follow d place root) {name : String}
    (fresh : d.get? (root ++ [name]) = none) (there : d.get? place ≠ none) :
    Apart place root name := by
  constructor
  · intro h
    rcases List.prefix_concat_iff.1 h with h | h
    · rw [h] at there
      exact there fresh
    · exact placed.not_prefix_root h
  · exact fun h => there (get?_eq_none_below fresh h)

/-- Changing the place leaves it where it is. -/
theorem beside (placed : site.Placed follow d place root) (sorted : d.Sorted) (sorted' : e.Sorted)
    (beside : SameBeside place d e) : site.Placed follow e place root := by
  have same := erase_eq_erase sorted sorted' placed.below_top beside
  exact ⟨same ▸ placed.reaches, same ▸ placed.outside⟩

/-- Making something where nothing was, apart from the place, leaves it where it is. -/
theorem elsewhere (placed : site.Placed follow d place root) {f : Location} (absent : d.get? f = none)
    (notBelow : ¬ place <+: f) (notAbove : ¬ f <+: place) (beside : SameBeside f d e) :
    site.Placed follow e place root := by
  obtain ⟨mode, entries, found⟩ := placed.outside
  have beside' := beside.erase notAbove notBelow
  have absent' : (d.erase place).get? f = none := by
    rw [(sameBeside_erase d place).elsewhere _ notBelow notAbove, absent]
  have outside : ¬ f <+: root := fun above => by
    have there := (finds_iff.1 found).2.2
    rw [get?_eq_none_below absent' above] at there
    cases there
  obtain ⟨entries', found⟩ := found.directory_beside beside' absent' outside
  exact ⟨placed.reaches.vacant_beside beside' absent' (get?_erase_self e placed.below_top)
    fun _ => notAbove, mode, entries', found⟩

/-- Making a snapshot leaves the place where it is. -/
theorem snapshot (placed : site.Placed follow d place root) {name : String}
    (fresh : d.get? (root ++ [name]) = none) (apart : Apart place root name)
    (beside : SameBeside (root ++ [name]) d e) : site.Placed follow e place root :=
  placed.elsewhere fresh apart.1 apart.2 beside

end PatchSite.Placed

namespace PatchSite.Laid

variable {site : PatchSite} {d e : Disk} {live root : Location}

theorem placed (laid : site.Laid d live root) : site.Placed false d live root :=
  ⟨laid.reaches, laid.outside⟩

/-- A snapshot that is not there yet lies beside the live directory. -/
theorem apart (laid : site.Laid d live root) {name : String} (fresh : d.get? (root ++ [name]) = none) :
    Apart live root name := by
  obtain ⟨mode, entries, there⟩ := laid.directory
  exact laid.placed.apart fresh (by simp [there])

/-- The site is laid as it was when only the live directory changed, and still is one. -/
theorem beside (laid : site.Laid d live root) (sorted : d.Sorted) (sorted' : e.Sorted)
    (beside : SameBeside live d e) (directory : ∃ mode entries, e.get? live = some (.dir mode entries)) :
    site.Laid e live root :=
  let placed := laid.placed.beside sorted sorted' beside
  ⟨directory, placed.reaches, placed.outside⟩

/-- Making a snapshot leaves the site where it is. -/
theorem snapshot (laid : site.Laid d live root) {name : String}
    (fresh : d.get? (root ++ [name]) = none) (beside : SameBeside (root ++ [name]) d e) :
    site.Laid e live root := by
  have apart := laid.apart fresh
  have placed := laid.placed.snapshot fresh apart beside
  refine ⟨?_, placed.reaches, placed.outside⟩
  rw [beside.elsewhere live apart.2 apart.1]
  exact laid.directory

end PatchSite.Laid

end Kennel
