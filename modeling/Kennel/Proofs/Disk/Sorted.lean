import Kennel.Proofs.Disk.Copy

/-!
# Sorted disks stay sorted

Making, copying and removing directories leaves the entries of every directory in order, whether it
ends well or breaks off. A copy sets one node after the other, so each of its operations is looked at by
itself (`KeepsSorted`); what is left of a removal that broke off is in order as well
(`Node.sorted_clear`).
-/

namespace Kennel

namespace Node

/-- Entries in strictly ascending order, each of them sorted. -/
def EntriesSorted (entries : List (String × Node)) : Prop :=
  (entries.Pairwise fun a b => a.1 < b.1) ∧ ∀ e ∈ entries, e.2.Sorted

theorem sorted_dir_of_entries {mode : Mode} {entries : List (String × Node)}
    (h : EntriesSorted entries) : (dir mode entries).Sorted :=
  sorted_dir h.1 h.2

/-- The entries of a sorted directory are sorted. -/
theorem Sorted.entries {mode : Mode} {entries : List (String × Node)}
    (h : (dir mode entries).Sorted) : EntriesSorted entries := by
  obtain ⟨ascending, children⟩ := sorted_dir_iff.1 h
  refine ⟨ascending, fun e he => children e.1 e.2 ?_⟩
  exact (Dict.get?_eq_some_iff (d := ⟨entries, ascending⟩)).2 he

namespace EntriesSorted

variable {entries rest : List (String × Node)} {name : String} {n n' : Node}

theorem nil : EntriesSorted [] := ⟨.nil, fun _ h => nomatch h⟩

theorem head (h : EntriesSorted ((name, n) :: rest)) : n.Sorted := h.2 _ List.mem_cons_self

theorem tail (h : EntriesSorted ((name, n) :: rest)) : EntriesSorted rest :=
  ⟨(List.pairwise_cons.1 h.1).2, fun e he => h.2 e (List.mem_cons_of_mem _ he)⟩

/-- Entries stay sorted if the first of them becomes another sorted node. -/
theorem replace (h : EntriesSorted ((name, n) :: rest)) (hn : n'.Sorted) :
    EntriesSorted ((name, n') :: rest) :=
  ⟨List.pairwise_cons.2 (List.pairwise_cons.1 h.1), fun e he => by
    rcases List.mem_cons.1 he with rfl | he
    · exact hn
    · exact h.2 e (List.mem_cons_of_mem _ he)⟩

end EntriesSorted

mutual

/-- What is left of a sorted node when its removal broke off is sorted. -/
theorem sorted_clear {faults : Disk.Faults} : ∀ {path : String} {n left : Node} {e : SystemError},
    n.Sorted → n.clear faults path = some (e, left) → left.Sorted
  | _, file _ _, _, _, _, h => by cases h
  | _, link _, _, _, _, h => by cases h
  | path, dir mode entries, left, e, sorted, h => by
    rw [clear] at h
    split at h
    · cases h
      exact sorted
    · split at h
      · cases h
        exact sorted
      · obtain ⟨⟨e', left'⟩, hc, he⟩ := Option.map_eq_some_iff.1 h
        cases he
        exact sorted_dir_of_entries (sorted_clearAll sorted.entries hc)

/-- What is left of sorted entries when their removal broke off is sorted. -/
theorem sorted_clearAll {faults : Disk.Faults} {path : String} {writable searchable : Bool} :
    ∀ {entries left : List (String × Node)} {e : SystemError}, EntriesSorted entries →
      clearAll faults path writable searchable entries = some (e, left) → EntriesSorted left
  | [], _, _, _, h => by cases h
  | (name, n) :: rest, left, e, sorted, h => by
    unfold clearAll at h
    simp only at h
    split at h
    · cases h
      exact sorted
    · split at h
      · next hn =>
        cases h
        exact sorted.replace (sorted_clear sorted.head hn)
      · split at h
        · exact sorted_clearAll sorted.tail h
        · cases h
          refine sorted.replace ?_
          split
          · exact sorted_dir .nil (fun _ h => nomatch h)
          · exact sorted.head

end

end Node

namespace Disk

open Node

variable {d : Disk}

/-- An operation leaves sorted disks sorted. -/
def KeepsSorted {α : Type} (op : DiskM α) : Prop := ∀ d : Disk, d.Sorted → (run op d).2.Sorted

theorem KeepsSorted.bind {α β : Type} {op : DiskM α} {next : α → DiskM β} (h : KeepsSorted op)
    (hn : ∀ a, KeepsSorted (next a)) : KeepsSorted (op >>= next) := by
  intro d sorted
  have after := h d sorted
  rw [run_bind]
  rcases hr : run op d with ⟨e | a, d'⟩ <;> rw [hr] at after
  · exact after
  · exact hn a d' after

theorem sorted_refuse {α : Type} (e : SystemError) : KeepsSorted (refuse e : DiskM α) :=
  fun _ sorted => sorted

theorem sorted_throw {α : Type} (e : DiskError) : KeepsSorted (throw e : DiskM α) :=
  fun _ sorted => sorted

theorem KeepsSorted.ite {α : Type} {p : Prop} [Decidable p] {op other : DiskM α} (h : KeepsSorted op)
    (h' : KeepsSorted other) : KeepsSorted (if p then op else other) := by
  split
  · exact h
  · exact h'

theorem sorted_pure {α : Type} (a : α) : KeepsSorted (pure a : DiskM α) :=
  fun _ sorted => sorted

/-- An operation that changes nothing leaves sorted disks sorted. -/
theorem KeepsSorted.of_reads {α : Type} {op : DiskM α} (reads : ∀ d, (run op d).2 = d) :
    KeepsSorted op := fun d sorted => by rwa [reads d]

theorem sorted_set {new : Node} (l : Location) (h : new.Sorted) :
    KeepsSorted (modify fun d : Disk => d.set l new) :=
  fun _ sorted => sorted.set h l

theorem sorted_place (follow : Bool) (path : String) : KeepsSorted (place follow path) :=
  .of_reads fun d => by rw [run_place_eq]

theorem sorted_look (path : String) : KeepsSorted (look path) := .of_reads fun d => by
  rcases look_cases path d with ⟨_, _, -, h⟩ | ⟨_, h⟩ <;> rw [h]

theorem sorted_checkWritable (l : Location) : KeepsSorted (checkWritable l) := .of_reads fun d => by
  rcases checkWritable_cases l d with ⟨-, h⟩ | ⟨_, -, h⟩ <;> rw [h]

theorem sorted_pass (faults : Faults) (a : Access) : KeepsSorted (pass faults a) := .of_reads fun d => by
  rcases pass_cases faults a d with h | ⟨_, -, h⟩ <;> rw [h]

theorem sorted_onWalk {α : Type} {op : DiskM α} (path : String) (known : Bool) (h : KeepsSorted op) :
    KeepsSorted (onWalk path known op) := h

/-! ## Making and copying -/

theorem sorted_newDir (d : Disk) (l : Location) : (newDir d l).Sorted :=
  sorted_dir .nil fun _ h => by cases h

theorem sorted_ensureDir (path : String) (faults : Faults) : KeepsSorted (ensureDir path faults) := by
  intro d sorted
  rw [run_ensureDir]
  rcases makeDir_cases path faults d with ⟨l, -, -, h⟩ | ⟨e, -, h⟩
  · rw [h]
    exact sorted.set (sorted_newDir d l) l
  · rw [h]
    exact sorted

theorem sorted_makeDirAfter {around : DiskM Unit} (h : KeepsSorted around) (path : String)
    (faults : Faults) : KeepsSorted (makeDirAfter faults around path) := by
  intro d sorted
  unfold makeDirAfter
  rw [run_ite]
  split
  · exact sorted
  · simp only [run_bind, run_get, run_ite]
    split
    · rw [← run_bind]
      exact (h.bind fun _ => sorted_ensureDir path faults) d sorted
    · exact sorted_ensureDir path faults d sorted

theorem sorted_makeDirs (path : String) (faults : Faults) : KeepsSorted (makeDirs path faults) := by
  have key : ∀ fuel path, KeepsSorted (makeDirsFrom faults fuel path) := by
    intro fuel
    induction fuel with
    | zero => exact fun path => sorted_makeDirAfter (sorted_refuse _) path faults
    | succ fuel ih =>
      intro path
      refine sorted_makeDirAfter ?_ path faults
      cases Path.parent? path with
      | none => exact sorted_refuse _
      | some around => exact ih around
  exact key _ _

theorem sorted_makeLink (target path : String) (faults : Faults) :
    KeepsSorted (makeLink target path faults) := by
  refine (sorted_place false path).bind fun found => ?_
  rcases found with ⟨l, _ | n⟩
  · exact (sorted_checkWritable l).bind fun _ => (sorted_pass faults _).bind fun _ =>
      sorted_set l (sorted_link target)
  · exact sorted_refuse _

theorem sorted_readLink (path : String) (faults : Faults) : KeepsSorted (readLink path faults) :=
  .of_reads fun d => by
    rcases readLink_cases path faults d with ⟨_, _, -, h⟩ | ⟨_, h⟩ <;> rw [h]

theorem sorted_modeAt (path : String) (faults : Faults) : KeepsSorted (modeAt path faults) :=
  .of_reads fun d => by
    rcases modeAt_cases path faults d with ⟨_, _, -, h⟩ | ⟨_, h⟩ <;> rw [h]

theorem sorted_listDir (path : String) (faults : Faults) : KeepsSorted (listDir path faults) :=
  .of_reads fun d => by
    rcases listDir_cases path faults d with ⟨_, _, _, -, -, h⟩ | ⟨_, h⟩ <;> rw [h]

theorem sorted_createFile (mode : Mode) (path : String) (faults : Faults) :
    KeepsSorted (createFile mode path faults) := by
  have made (l : Location) (mode : Mode) : KeepsSorted (do
      pass faults (.create path)
      modify fun d => d.set l (.file .empty mode)
      return (l, mode)) :=
    (sorted_pass faults _).bind fun _ => (sorted_set l (sorted_file _ _)).bind fun _ => sorted_pure _
  refine (sorted_place true path).bind fun found => ?_
  rcases found with ⟨l, _ | (⟨bytes, old⟩ | target | ⟨_, _⟩)⟩
  · exact (sorted_checkWritable l).bind fun _ => made l mode
  · exact .ite ((sorted_refuse _).bind fun _ => made l _) (made l _)
  · exact (sorted_checkWritable l).bind fun _ => made l mode
  · exact sorted_refuse _

theorem sorted_writeCopy (bytes : ByteArray) (mode : Mode) (dst : String) (faults : Faults) :
    KeepsSorted (writeCopy bytes mode dst faults) := by
  refine (sorted_createFile _ dst faults).bind fun made => (sorted_pass faults _).bind fun _ => ?_
  split
  · exact sorted_set _ (sorted_file _ _)
  · exact (sorted_set _ (sorted_file _ _)).bind fun _ => sorted_refuse _

theorem sorted_copyFile (src dst : String) (faults : Faults) :
    KeepsSorted (copyFile src dst faults) := by
  refine (sorted_look src).bind fun n => ?_
  cases n with
  | link _ => exact sorted_refuse _
  | dir _ _ => exact sorted_refuse _
  | file bytes mode =>
    have copied := (sorted_pass faults (.read src)).bind fun _ => sorted_writeCopy bytes mode dst faults
    exact .ite ((sorted_refuse _).bind fun _ => copied) copied

theorem sorted_copyNode {within : String → String → DiskM (List (String × Mode))}
    (h : ∀ src dst, KeepsSorted (within src dst)) (src dst : String) (n : Node) (faults : Faults) :
    KeepsSorted (copyNode faults within src dst n) := by
  cases n with
  | file _ _ => exact (sorted_copyFile src dst faults).bind fun _ => sorted_pure _
  | link _ =>
    exact (sorted_readLink src faults).bind fun _ => (sorted_makeLink _ dst faults).bind fun _ =>
      sorted_pure _
  | dir _ _ =>
    exact (sorted_makeDirs dst faults).bind fun _ =>
      (sorted_onWalk src true (sorted_modeAt src faults)).bind fun _ => (h src dst).bind fun _ =>
        sorted_pure _

theorem sorted_copyEntries {within : String → String → DiskM (List (String × Mode))}
    (h : ∀ src dst, KeepsSorted (within src dst)) (src dst : String) (entries : List (String × Node))
    (faults : Faults) : KeepsSorted (copyEntries faults within src dst entries) := by
  induction entries with
  | nil => exact sorted_pure _
  | cons e rest ih =>
    exact (sorted_copyNode h _ _ e.2 faults).bind fun _ => ih.bind fun _ => sorted_pure _

theorem sorted_copyWithin (faults : Faults) (fuel : Nat) (src dst : String) :
    KeepsSorted (copyWithin faults fuel src dst) := by
  induction fuel generalizing src dst with
  | zero => exact sorted_throw _
  | succ fuel ih =>
    exact (sorted_onWalk src false (sorted_listDir src faults)).bind fun entries =>
      sorted_copyEntries ih src dst entries faults

theorem sorted_chmod (mode : Mode) (path : String) (faults : Faults) :
    KeepsSorted (chmod mode path faults) := by
  intro d sorted
  rcases chmod_cases mode path faults d with ⟨l, n, found, h⟩ | ⟨e, h⟩
  · rw [h]
    refine sorted.set ?_ l
    have there := (finds_iff.1 found).2.2
    cases n with
    | file bytes _ => exact sorted_file bytes mode
    | link target => exact sorted_link target
    | dir _ entries => exact sorted_dir_of_entries (sorted.get? there.symm).entries
  · rw [h]
    exact sorted

theorem sorted_setModes (faults : Faults) (modes : List (String × Mode)) :
    KeepsSorted (setModes faults modes) := by
  induction modes with
  | nil => exact sorted_pure _
  | cons e rest ih => exact (sorted_chmod e.2 e.1 faults).bind fun _ => ih

/-- **A copy leaves a sorted disk sorted**, even one that breaks off. -/
theorem sorted_copyDir (src dst : String) (faults : Faults) : KeepsSorted (copyDir src dst faults) := by
  refine (sorted_makeDirs dst faults).bind fun _ => (sorted_look src).bind fun top => ?_
  exact .ite ((sorted_copyWithin faults maxPath src dst).bind fun _ => sorted_setModes faults _)
    ((sorted_pure _).bind fun _ => sorted_setModes faults _)

/-! ## Removing -/

/-- **A removal leaves a sorted disk sorted**, even one that breaks off. -/
theorem sorted_removeDirs (path : String) (faults : Faults) : KeepsSorted (removeDirs path faults) := by
  intro d sorted
  unfold removeDirs
  rw [run_bind, run_place_eq]
  cases h : (run (place false path) d).1 with
  | error e => exact sorted
  | ok p =>
    obtain ⟨l, x⟩ := p
    have checked : ∀ d : Disk, d.Sorted →
        (run (do checkWritable l; pass faults (.remove path); modify fun d => d.erase l) d).2.Sorted := by
      intro d sorted
      rcases erase_cases l faults (.remove path) d with h | ⟨e, -, h⟩
      · rw [h]
        exact sorted.erase l
      · rw [h]
        exact sorted
    cases x with
    | none => exact sorted
    | some n =>
      have there := (finds_iff.1 h).2.2
      cases n with
      | file _ _ => exact sorted
      | link _ => exact checked d sorted
      | dir mode entries =>
        simp only
        split
        · next e left hc => exact sorted.set (sorted_clear (sorted.get? there.symm) hc) l
        · exact checked _ (sorted.set (sorted_dir .nil fun _ h => nomatch h) l)

/-- Putting a snapshot back leaves a sorted disk sorted, whatever it ends with. -/
theorem sorted_restoreDir (snapshot live : String) (faults : Faults) :
    KeepsSorted (restoreDir snapshot live faults) := by
  intro d sorted
  have after := sorted_removeDirs live faults d sorted
  unfold restoreDir
  simp only [run_bind, run_get]
  rcases h : run (removeDirs live faults) d with ⟨e | ⟨⟩, d'⟩ <;> rw [h] at after
  · by_cases gone : e = .system .notFound
    · subst gone
      exact sorted_copyDir snapshot live faults d' after
    · simp only [run_bind, run_set, run_throw]
      exact after
  · exact sorted_copyDir snapshot live faults d' after

end Disk

end Kennel
