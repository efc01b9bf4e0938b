import Kennel.Proofs.Disk.Place

/-!
# Files

What the operations on files can end with: the disk they leave in either case, and where the path had
to lead for that (`removeFile_cases`, `removeIfExists_cases`, `replaceFile_cases`).

**A file is replaced whole or not at all.** The replacement goes through a temporary file in a
directory of the caller's choice, and the system can break it off at any point. On a sorted disk it
leaves the new file at the path and nothing else changed, or it leaves the disk as it was.
-/

namespace Kennel.Disk

open Node Path

/-- There is a directory around the location. -/
def Housed (d : Disk) (l : Location) : Prop :=
  ∃ mode entries, d.get? l.dropLast = some (.dir mode entries)

/-- The directory around the location lets its owner change entries. -/
def Writable (d : Disk) (l : Location) : Prop :=
  ∃ mode entries, d.get? l.dropLast = some (.dir mode entries) ∧
    (mode.canWrite && mode.canSearch) = true

theorem Writable.housed {d : Disk} {l : Location} (h : Writable d l) : Housed d l :=
  let ⟨mode, entries, hd, _⟩ := h
  ⟨mode, entries, hd⟩

theorem run_checkWritable {d : Disk} {l : Location} (h : Writable d l) :
    run (checkWritable l) d = (.ok (), d) := by
  obtain ⟨mode, entries, hd, bits⟩ := h
  unfold checkWritable
  rw [run_bind, run_get]
  simp only [hd, bits, if_true]
  rfl

/-- The check is passed only inside a directory, and it fails for want of permission or of one. -/
theorem checkWritable_cases (l : Location) (d : Disk) :
    (Writable d l ∧ run (checkWritable l) d = (.ok (), d)) ∨
      ∃ e, e ≠ .notFound ∧ run (checkWritable l) d = (.error (.system e), d) := by
  unfold checkWritable
  rw [run_bind, run_get]
  simp only
  split
  · next mode entries hd =>
    rw [run_ite]
    split
    · next bits => exact .inl ⟨⟨mode, entries, hd, bits⟩, rfl⟩
    · exact .inr ⟨.permissionDenied, by decide, rfl⟩
  · exact .inr ⟨.notADirectory, by decide, rfl⟩

/-- The node that was set in a directory is found there. -/
theorem Housed.get?_set {d : Disk} {l : Location} (h : Housed d l) (hl : l ≠ []) (new : Node) :
    (d.set l new).get? l = some new := by
  obtain ⟨mode, entries, hd⟩ := h
  obtain ⟨front, name, rfl⟩ := (List.eq_nil_or_concat l).resolve_left hl
  rw [List.concat_eq_append, List.dropLast_concat] at hd
  rw [List.concat_eq_append]
  exact get?_set_self hd name new

theorem Housed.set {d : Disk} {l : Location} (h : Housed d l) (hl : l ≠ []) (new : Node) :
    Housed (d.set l new) l := by
  obtain ⟨mode, entries, hd⟩ := h
  have apart : ¬ l <+: l.dropLast := fun hp => by
    have := hp.length_le
    have := List.length_pos_iff.2 hl
    rw [List.length_dropLast] at *
    omega
  obtain ⟨entries', h⟩ := (sameBeside_set d l new).get?_eq_dir apart hd
  exact ⟨mode, entries', h⟩

/-! ## Removing a file -/

/-- Nothing is found at the place of a path. -/
def Missing (d : Disk) (path : String) : Prop :=
  (run (place false path) d).1 = .error (.system .notFound) ∨ ∃ l, Finds d false path l none

/-- Removing a file erases what its path leads to, or changes nothing. -/
theorem removeFile_cases (path : String) (d : Disk) (faults : Faults := {}) :
    (∃ l n, Finds d false path l (some n) ∧ n.isDir = false ∧ Writable d l ∧
        run (removeFile path faults) d = (.ok (), d.erase l)) ∨
      ∃ e, (e = .system .notFound → Missing d path) ∧
        run (removeFile path faults) d = (.error e, d) := by
  unfold removeFile
  rw [run_bind, run_place_eq]
  cases h : (run (place false path) d).1 with
  | error e => exact .inr ⟨e, fun he => .inl (he ▸ h), rfl⟩
  | ok p =>
    obtain ⟨l, x⟩ := p
    cases x with
    | none => exact .inr ⟨.system .notFound, fun _ => .inr ⟨l, h⟩, rfl⟩
    | some n =>
      simp only [run_bind]
      rcases checkWritable_cases l d with ⟨writable, hc⟩ | ⟨e, he, hc⟩
      · simp only [hc]
        cases hn : n.isDir with
        | true => exact .inr ⟨.system .isADirectory, fun e => by simp at e, rfl⟩
        | false =>
          simp only [Bool.false_eq_true, if_false, run_bind]
          rcases pass_cases faults (.remove path) d with hp | ⟨e, he, hp⟩ <;> rw [hp]
          · exact .inl ⟨l, n, h, hn, writable, rfl⟩
          · exact .inr ⟨.system e, fun e' => absurd (DiskError.system.inj e') he, rfl⟩
      · simp only [hc]
        exact .inr ⟨.system e, fun e' => absurd (DiskError.system.inj e') he, rfl⟩

/-- What a path leads to is removed if it is no directory and its entry may be changed. -/
theorem run_removeFile {d : Disk} {path : String} {l : Location} {n : Node}
    (found : Finds d false path l (some n)) (file : n.isDir = false) (writable : Writable d l) :
    run (removeFile path) d = (.ok (), d.erase l) := by
  unfold removeFile
  rw [run_bind, run_place_eq, show (run (place false path) d).1 = .ok (l, some n) from found]
  simp only [run_bind, run_checkWritable writable, file]
  rfl

/-- Removing a file that may be missing erases it, or changes nothing; it ends well without a change
only if nothing was there. -/
theorem removeIfExists_cases (path : String) (d : Disk) (faults : Faults := {}) :
    (∃ l n, Finds d false path l (some n) ∧ n.isDir = false ∧ Writable d l ∧
        run (removeIfExists path faults) d = (.ok (), d.erase l)) ∨
      (Missing d path ∧ run (removeIfExists path faults) d = (.ok (), d)) ∨
      ∃ e, run (removeIfExists path faults) d = (.error e, d) := by
  unfold removeIfExists
  rw [run_bind, run_get]
  simp only
  rcases removeFile_cases path d faults with ⟨l, n, found, hn, writable, h⟩ | ⟨e, he, h⟩
  · exact .inl ⟨l, n, found, hn, writable, by simp only [h, run_set]⟩
  · by_cases missing : e = .system .notFound
    · subst missing
      exact .inr (.inl ⟨he rfl, by simp only [h, run_pure]⟩)
    · exact .inr (.inr ⟨e, by simp only [h]; rfl⟩)

/-- What a path leads to is removed by a removal that would bear its absence as well. -/
theorem run_removeIfExists {d : Disk} {path : String} {l : Location} {n : Node}
    (found : Finds d false path l (some n)) (file : n.isDir = false) (writable : Writable d l) :
    run (removeIfExists path) d = (.ok (), d.erase l) := by
  unfold removeIfExists
  rw [run_bind, run_get]
  simp only [run_removeFile found file writable, run_set]

/-! ## Replacing a file -/

/-- The name of a temporary file is new. -/
theorem temporaryName_notMem (used : List String) : temporaryName used ∉ used := by
  intro h
  have longer : (temporaryName used).length = 4 + (used.flatMap String.toList).length := by
    simp only [temporaryName, String.length_append, String.length_ofList, List.length_replicate]
    rfl
  generalize temporaryName used = name at *
  obtain ⟨before, later, rfl⟩ := List.append_of_mem h
  rw [List.flatMap_append, List.flatMap_cons, List.length_append, List.length_append,
    String.length_toList] at longer
  omega

/-- A temporary file is made under a new name in the directory, or nothing is changed. -/
theorem makeTemporary_cases (dir : String) (d : Disk) :
    (∃ l mode entries, Finds d true dir l (some (.dir mode entries)) ∧
        run (makeTemporary dir) d =
          (.ok (l ++ [temporaryName (entries.map (·.1))]),
            d.set (l ++ [temporaryName (entries.map (·.1))]) (.file .empty Mode.privateFile))) ∨
      ∃ e, run (makeTemporary dir) d = (.error e, d) := by
  have check : (run (checkTemporary dir) d).2 = d := by
    unfold checkTemporary
    simp only [run_bind, run_get, run_ite, run_throw]
    split
    · rfl
    · simp
      split <;> first | rfl | (split <;> rfl)
  unfold makeTemporary
  rw [run_bind]
  rcases hc : run (checkTemporary dir) d with ⟨e | ⟨⟩, d'⟩ <;> rw [hc] at check <;>
    obtain rfl : d' = d := check
  · exact .inr ⟨e, rfl⟩
  · simp only [run_bind]
    rw [run_place_eq]
    cases h : (run (place true dir) d').1 with
    | error e => exact .inr ⟨e, rfl⟩
    | ok p =>
      obtain ⟨l, x⟩ := p
      rcases x with _ | n
      · exact .inr ⟨_, rfl⟩
      · cases n with
        | dir mode entries => exact .inl ⟨l, mode, entries, h, rfl⟩
        | file _ _ => exact .inr ⟨_, rfl⟩
        | link _ => exact .inr ⟨_, rfl⟩

/-- Filling a temporary file changes that file; it holds everything if that ends well. -/
theorem fillTemporary_cases (file : Location) (bytes : ByteArray) (breakdown : Option Breakdown)
    (d : Disk) :
    run (fillTemporary file bytes breakdown) d =
        (.ok (), d.set file (.file bytes Mode.privateFile)) ∨
      ∃ e written, run (fillTemporary file bytes breakdown) d =
        (.error e, d.set file (.file written Mode.privateFile)) := by
  unfold fillTemporary
  split
  · next count e => exact .inr ⟨_, bytes.extract 0 count, rfl⟩
  · next e => exact .inr ⟨_, bytes, rfl⟩
  · exact .inl rfl

/-- Renaming a temporary file moves it to what the path leads to, or changes nothing. -/
theorem renameTemporary_cases (file : Location) (path : String) (breakdown : Option Breakdown)
    (d : Disk) :
    (∃ l old, Finds d false path l old ∧ (∀ n, old = some n → n.isDir = false) ∧ Writable d l ∧
        run (renameTemporary file path breakdown) d =
          (.ok (), (d.get? file).elim d ((d.erase file).set l))) ∨
      ∃ e, run (renameTemporary file path breakdown) d = (.error e, d) := by
  unfold renameTemporary
  cases hz : hasZero path with
  | true => exact .inr ⟨_, rfl⟩
  | false =>
    simp only [Bool.false_eq_true, if_false, run_bind]
    rw [run_place_eq]
    cases h : (run (place false path) d).1 with
    | error e => exact .inr ⟨e, rfl⟩
    | ok p =>
      obtain ⟨l, old⟩ := p
      simp only
      rcases checkWritable_cases l d with ⟨writable, hc⟩ | ⟨e, -, hc⟩
      · simp only [hc]
        cases hold : old.any Node.isDir with
        | true => exact .inr ⟨_, rfl⟩
        | false =>
          simp only [Bool.false_eq_true, if_false]
          split
          · exact .inr ⟨_, rfl⟩
          · refine .inl ⟨l, old, h, fun n hn => ?_, writable, rfl⟩
            simpa [hn] using hold
      · simp only [hc]
        exact .inr ⟨_, rfl⟩

/-- An operation that is discarded leaves what it did, without the file if it failed. -/
theorem run_orDiscard (file : Location) (op : DiskM Unit) (d : Disk) :
    run (orDiscard file op) d =
      match run op d with
      | (.ok (), after) => (.ok (), after)
      | (.error e, after) => (.error e, after.erase file) := by
  unfold orDiscard
  rw [run_bind, run_get]
  simp only
  rcases run op d with ⟨e | ⟨⟩, after⟩ <;> rfl

/-- Whatever is done to a file that was not there before is undone by erasing it. -/
theorem erase_eq_of_sameBeside {d after : Disk} {file : Location} (sorted : d.Sorted)
    (sorted' : after.Sorted) (absent : d.get? file = none) (beside : SameBeside file d after) :
    after.erase file = d := by
  have below_top : file ≠ [] := by
    rintro rfl
    rw [get?_nil] at absent
    cases absent
  refine eq_of_sameBeside sorted (sorted'.erase file) (beside.trans (sameBeside_erase after file)) ?_
  rw [get?_erase_self after below_top, absent]

/-- A writable place is one beside a change of a file. -/
theorem Writable.beside {d d' : Disk} {l file : Location} (h : Writable d l)
    (beside : SameBeside file d d') (noDir : ∀ mode entries, d.get? file ≠ some (.dir mode entries)) :
    Writable d' l := by
  obtain ⟨mode, entries, hd, bits⟩ := h
  obtain ⟨entries', hd'⟩ := beside.get?_eq_dir (not_prefix_of_get?_eq_dir hd noDir) hd
  exact ⟨mode, entries', hd', bits⟩

/-- What is found is a directory or not whether there is one more file or not. -/
theorem isDir_beside {d d' : Disk} {l file : Location} {n : Node} (absent : d.get? file = none)
    (beside : SameBeside file d d') (hn : d.get? l = some n) :
    ∃ o, d'.get? l = some o ∧ o.isDir = n.isDir := by
  by_cases below : file <+: l
  · rw [get?_eq_none_below absent below] at hn
    cases hn
  · have same := beside.map_shell below
    rw [hn] at same
    obtain ⟨o, ho, hs⟩ := Option.map_eq_some_iff.1 same
    exact ⟨o, ho, by rw [← isDir_shell o, hs, isDir_shell]⟩

/-- **A file is replaced whole or not at all.** On a sorted disk the replacement leaves the new file
where the path leads, and nothing else changed, or it leaves the disk as it was. -/
theorem replaceFile_cases {d : Disk} (sorted : d.Sorted) (dir path : String) (bytes : ByteArray)
    (breakdown : Option Breakdown) :
    (∃ l old, Finds d false path l old ∧ (∀ n, old = some n → n.isDir = false) ∧ Writable d l ∧
        run (replaceFile dir path bytes breakdown) d =
          (.ok (), d.set l (.file bytes Mode.privateFile))) ∨
      ∃ e, run (replaceFile dir path bytes breakdown) d = (.error e, d) := by
  unfold replaceFile
  split
  · exact .inr ⟨_, rfl⟩
  rw [run_bind]
  rcases makeTemporary_cases dir d with ⟨around, mode, entries, found, hm⟩ | ⟨e, hm⟩
  · rw [hm]
    simp only
    generalize hfile : around ++ [temporaryName (entries.map (·.1))] = file
    obtain ⟨-, -, hd⟩ := finds_iff.1 found
    have absent : d.get? file = none := by
      rw [← hfile, get?_append_singleton hd.symm]
      exact Dict.lookup_eq_none_of_forall fun e he h =>
        temporaryName_notMem _ (List.mem_map.2 ⟨e, he, h⟩)
    have hne : file ≠ [] := by simp [← hfile]
    have housed : Housed d file := ⟨mode, entries, by rw [← hfile, List.dropLast_concat, ← hd]⟩
    -- Between the making and the renaming the disk differs from the old one in the file only.
    have beside (written : ByteArray) : SameBeside file d
        ((d.set file (.file .empty Mode.privateFile)).set file (.file written Mode.privateFile)) :=
      (sameBeside_set d file _).trans (sameBeside_set _ file _)
    have undone (written : ByteArray) :
        ((d.set file (.file .empty Mode.privateFile)).set file
          (.file written Mode.privateFile)).erase file = d :=
      erase_eq_of_sameBeside sorted
        ((sorted.set (sorted_file _ _) file).set (sorted_file _ _) file) absent (beside written)
    have there := (housed.set hne (.file .empty Mode.privateFile)).get?_set hne
      (.file bytes Mode.privateFile)
    rw [run_orDiscard, run_bind]
    rcases fillTemporary_cases file bytes breakdown
      (d.set file (.file .empty Mode.privateFile)) with hf | ⟨e, written, hf⟩
    · rw [hf]
      simp only
      rcases renameTemporary_cases file path breakdown _ with
        ⟨l, old, found', notDir, writable, hr⟩ | ⟨e, hr⟩
      · obtain ⟨passed, leads, hold⟩ := finds_iff.1 found'
        have leads' := leads.frame (beside bytes).symm (by simp [there]) (by simp [there])
          (fun h => by cases h)
        refine .inl ⟨l, d.get? l, finds_iff.2 ⟨passed, leads', rfl⟩, ?_, ?_, ?_⟩
        · intro n hn
          obtain ⟨o, ho, same⟩ := isDir_beside absent (beside bytes) hn
          rw [← same, notDir o (hold.trans ho)]
        · exact writable.beside (beside bytes).symm (by simp [there])
        · rw [hr, there, Option.elim_some, undone]
      · rw [hr]
        exact .inr ⟨e, by simp only [undone]⟩
    · rw [hf]
      exact .inr ⟨e, by simp only [undone]⟩
  · exact .inr ⟨e, by rw [hm]⟩

end Kennel.Disk
