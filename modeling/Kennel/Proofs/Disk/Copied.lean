import Kennel.Proofs.Disk.Tree

/-!
# Copies of trees

`Node.copied` is what a complete copy of a node is, as a function of the node: the same names, bytes,
link targets and permissions, but a file that something was written to does not run in the name of its
owner or group any more. A tree without such files is copied exactly (`copied_of_ownName`), and a copy
is copied exactly (`copied_copied`): what was taken from a file once cannot be taken from it again.
-/

namespace Kennel

namespace Mode

theorem testBit_without (m bits : Mode) (i : Nat) :
    (m.without bits).testBit i = (m.testBit i && !bits.testBit i) := by
  rw [without, Nat.testBit_xor, Nat.testBit_and]
  cases m.testBit i <;> cases bits.testBit i <;> rfl

/-- Who may do what with a file stays when something is written to it. -/
theorem testBit_written {m : Mode} {i : Nat} (low : i < 10) : m.written.testBit i = m.testBit i := by
  have apart : ∀ i < 10, setUser.testBit i = false ∧ setGroup.testBit i = false := by decide
  obtain ⟨user, group⟩ := apart i low
  rw [written, testBit_without]
  split
  · rw [Nat.testBit_or, user, group]
    simp
  · rw [user]
    simp

/-- Writing to a file a second time takes nothing more from it. -/
theorem written_written (m : Mode) : m.written.written = m.written := by
  have same : m.written.testBit 3 = m.testBit 3 := testBit_written (by decide)
  refine Nat.eq_of_testBit_eq fun i => ?_
  conv => lhs; rw [written, same, testBit_without, written, testBit_without]
  conv => rhs; rw [written, testBit_without]
  rw [Bool.and_assoc, Bool.and_self]

theorem afterWriting_afterWriting (m : Mode) (bytes : ByteArray) :
    (m.afterWriting bytes).afterWriting bytes = m.afterWriting bytes := by
  unfold afterWriting
  split
  · rfl
  · exact written_written m

theorem afterWriting_privateFile (bytes : ByteArray) : privateFile.afterWriting bytes = privateFile := by
  unfold afterWriting
  split
  · rfl
  · decide

/-- The owner of a new directory may pass through it. -/
theorem canSearch_newDirIn (around : Mode) : (newDirIn around).canSearch = true := by
  rw [canSearch, newDirIn, Nat.testBit_or, show newDir.testBit 6 = true by decide, Bool.true_or]

end Mode

namespace Node

mutual

/-- The copy of a node: a file that is not empty was written to. -/
def copied : Node → Node
  | file bytes mode => file bytes (mode.afterWriting bytes)
  | link target => link target
  | dir mode entries => dir mode (copiedAll entries)
termination_by structural n => n

def copiedAll : List (String × Node) → List (String × Node)
  | [] => []
  | (name, n) :: rest => (name, n.copied) :: copiedAll rest
termination_by structural l => l

end

theorem copiedAll_eq_map (entries : List (String × Node)) :
    copiedAll entries = entries.map fun e => (e.1, e.2.copied) := by
  induction entries with
  | nil => rfl
  | cons e rest ih => rw [copiedAll, ih, List.map_cons]

@[simp] theorem names_copiedAll (entries : List (String × Node)) :
    (copiedAll entries).map Prod.fst = entries.map Prod.fst := by
  rw [copiedAll_eq_map, List.map_map]
  rfl

theorem lookup_copiedAll (entries : List (String × Node)) (name : String) :
    (copiedAll entries).lookup name = (entries.lookup name).map copied := by
  induction entries with
  | nil => rfl
  | cons e rest ih =>
    rw [copiedAll, List.lookup_cons, List.lookup_cons, ih]
    cases name == e.1 <;> rfl

@[simp] theorem isDir_copied (n : Node) : n.copied.isDir = n.isDir := by
  cases n <;> rfl

@[simp] theorem isFile_copied (n : Node) : n.copied.isFile = n.isFile := by
  cases n <;> rfl

/-- What a copy holds is the copy of what is there. -/
theorem get?_copied (n : Node) (l : Location) : n.copied.get? l = (n.get? l).map copied := by
  induction l generalizing n with
  | nil => rw [get?_nil, get?_nil, Option.map_some]
  | cons name l ih =>
    cases n with
    | file _ _ => rfl
    | link _ => rfl
    | dir mode entries =>
      rw [copied, get?_dir_cons, get?_dir_cons, lookup_copiedAll]
      cases entries.lookup name with
      | none => rfl
      | some child => exact ih child

/-- A copy of a sorted tree is sorted. -/
theorem Sorted.copied {n : Node} (h : n.Sorted) : n.copied.Sorted := by
  intro l mode entries there
  rw [get?_copied] at there
  obtain ⟨x, hx, same⟩ := Option.map_eq_some_iff.1 there
  cases x with
  | file _ _ => cases same
  | link _ => cases same
  | dir mode' entries' =>
    cases same
    rw [copiedAll_eq_map, List.pairwise_map]
    exact h l mode entries' hx

mutual

/-- **A copy is copied exactly.** -/
theorem copied_copied : ∀ n : Node, n.copied.copied = n.copied
  | file bytes mode => by rw [copied, copied, Mode.afterWriting_afterWriting]
  | link _ => rfl
  | dir mode entries => by rw [copied, copied, copiedAll_copiedAll entries]

theorem copiedAll_copiedAll : ∀ entries : List (String × Node),
    copiedAll (copiedAll entries) = copiedAll entries
  | [] => rfl
  | (name, n) :: rest => by rw [copiedAll, copiedAll, copied_copied n, copiedAll_copiedAll rest]

end

mutual

/-- No file of a tree would lose anything if it were written to. -/
def OwnName : Node → Prop
  | file bytes mode => mode.afterWriting bytes = mode
  | link _ => True
  | dir _ entries => OwnNameAll entries
termination_by structural n => n

def OwnNameAll : List (String × Node) → Prop
  | [] => True
  | (_, n) :: rest => n.OwnName ∧ OwnNameAll rest
termination_by structural l => l

end

mutual

/-- **A tree of which no file runs in another name is copied exactly.** -/
theorem copied_of_ownName : ∀ {n : Node}, n.OwnName → n.copied = n
  | file bytes mode, h => by rw [copied, show mode.afterWriting bytes = mode from h]
  | link _, _ => rfl
  | dir mode entries, h => by rw [copied, copiedAll_of_ownName h]

theorem copiedAll_of_ownName : ∀ {entries : List (String × Node)}, OwnNameAll entries →
    copiedAll entries = entries
  | [], _ => rfl
  | (name, n) :: rest, h => by rw [copiedAll, copied_of_ownName h.1, copiedAll_of_ownName h.2]

end

/-! ## Changes of a copy -/

theorem putEntry_copiedAll (name : String) (x : Node) (entries : List (String × Node)) :
    putEntry name x.copied (copiedAll entries) = copiedAll (putEntry name x entries) := by
  simp only [putEntry, copiedAll_eq_map, List.map_append, List.map_cons, List.filter_map]
  rfl

theorem dropEntry_copiedAll (name : String) (entries : List (String × Node)) :
    dropEntry name (copiedAll entries) = copiedAll (dropEntry name entries) := by
  simp only [dropEntry, copiedAll_eq_map, List.filter_map]
  rfl

/-- An entry is put into a copy as into what was copied. -/
theorem set_copied (n : Node) (name : String) (x : Node) :
    n.copied.set [name] x.copied = (n.set [name] x).copied := by
  cases n with
  | file _ _ => simp [copied, set]
  | link _ => simp [copied, set]
  | dir mode entries =>
    rw [copied, set_singleton, set_singleton, copied, putEntry_copiedAll]

/-- An entry is taken out of a copy as out of what was copied. -/
theorem erase_copied (n : Node) (name : String) :
    n.copied.erase [name] = (n.erase [name]).copied := by
  cases n with
  | file _ _ => rfl
  | link _ => rfl
  | dir mode entries => rw [copied, erase, erase, copied, dropEntry_copiedAll]

end Node

end Kennel
