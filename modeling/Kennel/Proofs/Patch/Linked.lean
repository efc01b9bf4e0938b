import Kennel.Proofs.Patch.Snapshot

/-!
# A live directory behind a link

The path of the live directory can lead to a link, and the link to the directory. A copy of the live
directory follows the link, and so do the changes, but a removal does not: it removes the link. So a
rollback that ends well does not restore the directory behind the link. **It puts a directory with the
copy in the place of the link**, and the directory behind it stays as the patch has left it
(`PatchSite.Linked.rollback_replaces_link`).

A path that ends with a slash leads on behind the link, whatever is asked. Then the directory is removed,
and the rollback fails, since nothing can be made where the link is.
-/

namespace Kennel

open Node Disk Path

/-- The path of the live directory leads to a link, which leads to the live directory, and snapshots go
to another directory.

That the paths do not go through the live directory is said by taking it away, and the link with it: the
paths still lead to where they led. -/
structure PatchSite.Linked (site : PatchSite) (d : Disk) (place live root : Location) : Prop where
  link : ∃ target, d.get? place = some (.link target)
  directory : ∃ mode entries, d.get? live = some (.dir mode entries)
  leads : Finds (d.erase live) true (withoutEndSlashes site.configDir) live none
  reaches : Finds ((d.erase live).erase place) false (withoutEndSlashes site.configDir) place none
  outside : ∃ mode entries,
    Finds ((d.erase live).erase place) true site.snapshotDir root (some (.dir mode entries))

namespace PatchSite.Linked

variable {site : PatchSite} {d e : Disk} {place live root : Location} {name : String}

theorem live_below_top (linked : site.Linked d place live root) : live ≠ [] := by
  rintro rfl
  have h := (finds_iff.1 linked.leads).2.2
  rw [get?_nil] at h
  cases h

theorem place_below_top (linked : site.Linked d place live root) : place ≠ [] := by
  rintro rfl
  have h := (finds_iff.1 linked.reaches).2.2
  rw [get?_nil] at h
  cases h

/-- The live directory is not behind the link as a part of it would be. -/
theorem not_place_prefix (linked : site.Linked d place live root) : ¬ place <+: live := by
  obtain ⟨target, link⟩ := linked.link
  obtain ⟨mode, entries, hd⟩ := linked.directory
  exact not_prefix_of_get?_eq_dir hd (by simp [link])

/-- The link is not in the live directory, or the path would go through it. -/
theorem not_live_prefix (linked : site.Linked d place live root) : ¬ live <+: place := by
  intro below
  obtain ⟨passed, leads, gone⟩ := finds_iff.1 linked.reaches
  obtain ⟨mode, entries, around, -⟩ := leads.passable_around (by rw [get?_nil]; simp) gone.symm
  have apart := linked.not_place_prefix
  obtain ⟨front, name, rfl⟩ := (List.eq_nil_or_concat place).resolve_left linked.place_below_top
  rw [List.concat_eq_append] at *
  rw [List.dropLast_concat] at around
  obtain ⟨entries', around⟩ := (sameBeside_erase (d.erase live) (front ++ [name])).symm.get?_eq_dir
    (entry_not_above front name) around
  rcases List.prefix_concat_iff.1 below with same | below
  · exact apart (same ▸ List.prefix_rfl)
  · rw [get?_eq_none_below (get?_erase_self d linked.live_below_top) below] at around
    cases around

/-- The disk without the link is the one without both, but for the live directory. -/
theorem sameBeside_live (linked : site.Linked d place live root) :
    SameBeside live ((d.erase live).erase place) (d.erase place) :=
  (sameBeside_erase d live).symm.erase linked.not_live_prefix linked.not_place_prefix

theorem gone_place (linked : site.Linked d place live root) :
    ((d.erase live).erase place).get? place = none :=
  get?_erase_self _ linked.place_below_top

theorem gone_live (linked : site.Linked d place live root) :
    ((d.erase live).erase place).get? live = none := by
  rw [(sameBeside_erase (d.erase live) place).elsewhere live linked.not_place_prefix
    linked.not_live_prefix, get?_erase_self d linked.live_below_top]

/-- The directory of the snapshots lies outside of both. -/
theorem outside_of (linked : site.Linked d place live root) {f : Location}
    (gone : ((d.erase live).erase place).get? f = none) : ¬ f <+: root := by
  intro below
  obtain ⟨mode, entries, found⟩ := linked.outside
  have h := (finds_iff.1 found).2.2
  rw [get?_eq_none_below gone below] at h
  cases h

/-- The snapshots are found without the other tree as well. -/
theorem outside_beside (linked : site.Linked d place live root) {f : Location}
    (gone : ((d.erase live).erase place).get? f = none)
    (beside : SameBeside f ((d.erase live).erase place) e) :
    ∃ mode entries, Finds e true site.snapshotDir root (some (.dir mode entries)) := by
  obtain ⟨mode, entries, found⟩ := linked.outside
  obtain ⟨entries', found⟩ := found.directory_beside beside gone (linked.outside_of gone)
  exact ⟨mode, entries', found⟩

/-- Links followed, the path leads to the live directory. -/
theorem following (linked : site.Linked d place live root) : site.Placed true d live root :=
  ⟨linked.leads, linked.outside_beside linked.gone_place (sameBeside_erase _ _).symm⟩

/-- The last link not followed, it leads to the link, whatever is in the live directory. -/
theorem placed_beside (linked : site.Linked d place live root) (beside : SameBeside live d e) :
    site.Placed false e place root := by
  have beside' := linked.sameBeside_live.trans
    (beside.erase linked.not_live_prefix linked.not_place_prefix)
  exact ⟨linked.reaches.vacant_beside beside' linked.gone_live
    (get?_erase_self e linked.place_below_top) (by simp), linked.outside_beside linked.gone_live beside'⟩

theorem placed (linked : site.Linked d place live root) : site.Placed false d place root :=
  linked.placed_beside (.refl live d)

/-- Changing the live directory leaves the site as it is. -/
theorem beside (linked : site.Linked d place live root) (sorted : d.Sorted) (sorted' : e.Sorted)
    (beside : SameBeside live d e) (directory : ∃ mode entries, e.get? live = some (.dir mode entries)) :
    site.Linked e place live root := by
  have same := erase_eq_erase sorted sorted' linked.live_below_top beside
  refine ⟨?_, directory, same ▸ linked.leads, same ▸ linked.reaches, same ▸ linked.outside⟩
  rw [beside.elsewhere place linked.not_live_prefix linked.not_place_prefix]
  exact linked.link

/-- Making a snapshot leaves the site as it is. -/
theorem snapshot (linked : site.Linked d place live root) (fresh : d.get? (root ++ [name]) = none)
    (beside : SameBeside (root ++ [name]) d e) : site.Linked e place live root := by
  obtain ⟨target, link⟩ := linked.link
  obtain ⟨mode, entries, directory⟩ := linked.directory
  have apart := linked.placed.apart fresh (by simp [link])
  have apart' := linked.following.apart fresh (by simp [directory])
  have placed := linked.following.snapshot fresh apart' beside
  have beside' := (beside.erase apart'.2 apart'.1).erase apart.2 apart.1
  have absent : ((d.erase live).erase place).get? (root ++ [name]) = none := by
    rw [(sameBeside_erase (d.erase live) place).elsewhere _ apart.1 apart.2,
      (sameBeside_erase d live).elsewhere _ apart'.1 apart'.2, fresh]
  refine ⟨?_, ?_, placed.reaches, ?_, ?_⟩
  · rw [beside.elsewhere place apart.2 apart.1]
    exact linked.link
  · rw [beside.elsewhere live apart'.2 apart'.1]
    exact linked.directory
  · exact linked.reaches.vacant_beside beside' absent (get?_erase_self _ linked.place_below_top) (by simp)
  · obtain ⟨mode, entries, found⟩ := linked.outside
    obtain ⟨entries', found⟩ := found.directory_beside beside' absent (entry_not_above root name)
    exact ⟨mode, entries', found⟩

/-! ## The rollback -/

/-- **Where the path ends with a slash, no snapshot is put back**: the directory behind the link is
removed, if it can be, and nothing can be made in its place. -/
theorem restore_slash (linked : site.Linked d place live root) (ends : site.configDir.endsWith "/" = true)
    (snapshot : String) (faults : Faults) :
    ∃ err e, run (restoreDir snapshot site.configDir faults) d = (.error err, e) ∧
      SameBeside live d e ∧ (e = d ∨ Cleared e live) := by
  obtain ⟨mode, entries, hd⟩ := linked.directory
  have named := linked.placed.configDir_ne_empty
  have reaches := linked.following.reaches_place (.refl live d) (by simp [hd])
  obtain ⟨taken, gone, left⟩ := removeDirs_cases linked.live_below_top
    (fun j x found => reaches.eq_of_finds_slash ends found)
    (fun missing => reaches.get?_eq_none_slash named ends missing) faults
  rcases run_restoreDir snapshot site.configDir faults d with ⟨found, whole⟩ | ⟨err, -, -, h⟩
  · have gone := gone found
    generalize (run (removeDirs site.configDir faults) d).2 = e at *
    obtain ⟨target, link⟩ := linked.link
    have placed := linked.placed_beside taken
    have leads := placed.reaches_place (.refl place e) (by simp)
    rw [Reaches, ← steps_withoutEndSlashes placed.parts_ne_nil] at leads
    have there : e.get? place = some (.link target) := by
      rw [taken.elsewhere place linked.not_live_prefix linked.not_place_prefix, link]
    have noDir : isDir e site.configDir = false := by
      rw [Bool.eq_false_iff]
      intro h
      obtain ⟨l, n, found⟩ := finds_of_isDir h
      have same := (linked.following.reaches_place taken (by simp [gone])).eq_of_finds_slash ends found
      have := (finds_iff.1 found).2.2
      rw [same, gone] at this
      cases this
    obtain ⟨err, refused⟩ := makeDirs_refused named leads (by simp [there]) noDir faults
    exact ⟨err, e, by rw [whole, copyDir, run_bind, refused], taken, left⟩
  · exact ⟨err, _, h, taken, left⟩

/-- **A snapshot that is put back takes the place of the link**, and the live directory stays behind it as
it is. A rollback that fails leaves the link as it is, or at most a directory in its place or where the
live directory was. -/
theorem restore (linked : site.Linked d place live root) (sorted : d.Sorted) (plain : Plain name)
    (apart : Apart place root name) {mode : Mode} {entries : List (String × Node)}
    (kept : d.get? (root ++ [name]) = some (.dir mode entries)) {faults : Faults}
    {r : Except DiskError Unit}
    (ran : run (restoreDir (join site.snapshotDir name) site.configDir faults) d = (r, e)) :
    (r = .ok () ∧ SameBeside place d e ∧ e.get? place = some (dir mode entries).copied) ∨
      ∃ err, r = .error err ∧
        (e = d ∨ ∃ l, (l = place ∨ l = live) ∧ SameBeside l d e ∧ Cleared e l) := by
  cases ends : site.configDir.endsWith "/" with
  | false =>
    obtain ⟨r', e', ran', beside, restored, left⟩ := linked.placed.restore plain apart
      (sorted.get? kept) kept (by simp [ends]) faults
    rw [ran] at ran'
    cases ran'
    cases r with
    | ok u => exact .inl ⟨rfl, beside, restored rfl⟩
    | error err => exact .inr ⟨err, rfl, left.imp_right fun cleared => ⟨place, .inl rfl, beside, cleared⟩⟩
  | true =>
    obtain ⟨err, e', ran', beside, left⟩ := linked.restore_slash ends (join site.snapshotDir name) faults
    rw [ran] at ran'
    cases ran'
    exact .inr ⟨err, rfl, left.imp_right fun cleared => ⟨live, .inr rfl, beside, cleared⟩⟩

end PatchSite.Linked

end Kennel
