import Kennel.Nix.Fragment

/-!
# What the container list imports

The list of containers is a text, and what it imports is read from it line by line (`importedFiles`).
**The container list imports the files of exactly the pups it was made from**, in ascending order of
their IDs, if no ID is broken into lines (`importedFiles_systemContainers`).
-/

namespace Kennel.Nix

/-! ## The file of a pup -/

theorem toList_pupFileName (id : String) :
    (pupFileName id).toList = ['p', 'u', 'p', '_'] ++ id.toList ++ ['.', 'n', 'i', 'x'] := by
  simp [pupFileName, String.toList_append]

/-- The name of a file says the ID. -/
theorem pupFileName_injective {id id' : String} (h : pupFileName id = pupFileName id') : id = id' := by
  have h := congrArg String.toList h
  rw [toList_pupFileName, toList_pupFileName] at h
  exact String.toList_inj.1 (List.append_cancel_left (List.append_cancel_right h))

/-- A file whose name begins in another way is of no pup. -/
theorem pupFileName_ne {name : String} (other : name.toList.head? ≠ some 'p') (id : String) :
    pupFileName id ≠ name := by
  rintro rfl
  rw [toList_pupFileName] at other
  exact other rfl

/-! ## Imports -/

/-- What stands before a file that is imported. -/
def importMark : List Char := "    ./".toList

/-- The file that a line imports, if it imports one. -/
def importedFile? (line : List Char) : Option String :=
  if importMark <+: line then some (String.ofList (line.drop importMark.length)) else none

/-- The files that a configuration imports, each on a line of its own. -/
def importedFiles (text : String) : List String :=
  (text.toList.splitOn '\n').filterMap importedFile?

/-- Lines that are put together are found again, with nothing after the last one's end. -/
theorem splitOn_lines {l : List String} (h : ∀ s ∈ l, '\n' ∉ s.toList) :
    (lines l).toList.splitOn '\n' = l.map String.toList ++ [[]] := by
  have text : (lines l).toList = ['\n'].intercalate (l.map String.toList ++ [[]]) := by
    induction l with
    | nil => rfl
    | cons s l ih =>
      have rest := ih fun s hs => h s (List.mem_cons_of_mem _ hs)
      have first : (lines (s :: l)).toList = s.toList ++ '\n' :: (lines l).toList := by
        simp [lines, String.join_cons]
      rw [first, rest]
      cases l <;> simp [List.intercalate]
  rw [text]
  refine List.splitOn_intercalate '\n' (fun line hline => ?_) (by simp)
  rcases List.mem_append.1 hline with hline | hline
  · obtain ⟨s, hs, rfl⟩ := List.mem_map.1 hline
    exact h s hs
  · rw [List.mem_singleton.1 hline]
    simp

/-- **The container list imports the file of every pup.** -/
theorem importedFiles_systemContainers {records : List Record}
    (unbroken : ∀ r ∈ records, '\n' ∉ r.id.toList) :
    importedFiles (systemContainers records) = (sortedIds records).map pupFileName := by
  have ids : ∀ id ∈ sortedIds records, '\n' ∉ id.toList := by
    intro id hid
    obtain ⟨r, hr, rfl⟩ := List.mem_map.1 (List.mem_mergeSort.1 hid)
    exact unbroken r hr
  have file : ∀ id : String, importedFile? ("    ./" ++ pupFileName id).toList =
      some (pupFileName id) := by
    intro id
    have marked : ("    ./" ++ pupFileName id).toList = importMark ++ (pupFileName id).toList :=
      String.toList_append
    rw [importedFile?, marked, if_pos (List.prefix_append _ _), List.drop_left, String.ofList_toList]
  unfold importedFiles systemContainers
  rw [splitOn_lines]
  · have front : (["\x7b ... \x7d:", "\x7b", "  imports = ["].map String.toList).filterMap
        importedFile? = [] := by decide
    have back : (["  ];", "\x7d"].map String.toList ++ [[]]).filterMap importedFile? = [] := by decide
    rw [List.map_append, List.map_append, List.append_assoc, List.append_assoc,
      List.filterMap_append, List.filterMap_append, front, back, List.nil_append, List.append_nil,
      List.map_map, List.filterMap_map]
    rw [← List.filterMap_eq_map]
    exact congrArg (List.filterMap · _) (funext file)
  · have front : ∀ s ∈ ["\x7b ... \x7d:", "\x7b", "  imports = ["], '\n' ∉ s.toList := by decide
    have back : ∀ s ∈ ["  ];", "\x7d"], '\n' ∉ s.toList := by decide
    intro s hs
    rcases List.mem_append.1 hs with hs | hs
    · rcases List.mem_append.1 hs with hs | hs
      · exact front s hs
      · obtain ⟨id, hid, rfl⟩ := List.mem_map.1 hs
        have := ids id hid
        simp [toList_pupFileName, String.toList_append, this]
    · exact back s hs

end Kennel.Nix
