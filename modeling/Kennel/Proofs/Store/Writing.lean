import Kennel.Proofs.Store.Contents

/-!
# A store that can be written

A record can be saved if its file fits into the directory of the store and no directory stands in the
place of the file (`Lodged.canSave`). What stands in the way of a save is on the disk, unless the
system breaks off.
-/

namespace Kennel

namespace Disk

variable {d : Disk}

/-- In a directory that may be changed a temporary file can be made. -/
theorem run_makeTemporary {dir : String} {l : Location} {mode : Mode}
    {entries : List (String × Node)} (found : Finds d true dir l (some (.dir mode entries)))
    (writable : (mode.canWrite && mode.canSearch) = true) :
    run (makeTemporary dir) d =
      (.ok (l ++ [temporaryName (entries.map (·.1))]),
        d.set (l ++ [temporaryName (entries.map (·.1))]) (.file .empty Mode.privateFile)) := by
  have located : run (place true dir) d = (.ok (l, some (.dir mode entries)), d) := by
    rw [run_place_eq, show (run (place true dir) d).1 = _ from found]
  have checked : run (checkTemporary dir) d = (.ok (), d) := by
    have placed := congrArg Prod.fst located
    rw [run_place] at placed
    cases zero : hasZero dir with
    | true => simp [zero] at placed
    | false =>
      simp only [zero, Bool.false_eq_true, if_false] at placed
      cases resolved : resolve d true dir with
      | error e => rw [resolved] at placed; cases placed
      | ok p =>
        rw [resolved] at placed
        obtain rfl := Except.ok.inj placed
        unfold checkTemporary
        simp [zero, resolved, Bool.and_eq_true_iff.1 writable]
  unfold makeTemporary
  rw [run_bind, checked]
  simp only [run_bind, located]
  rfl

/-- A temporary file takes the place of what is no directory and may be changed. -/
theorem run_renameTemporary {file l : Location} {path : String} {old : Option Node}
    (found : Finds d false path l old) (notDir : ∀ n, old = some n → n.isDir = false)
    (writable : Writable d l) :
    run (renameTemporary file path none) d =
      (.ok (), (d.get? file).elim d ((d.erase file).set l)) := by
  have noZero := (finds_iff.1 found).1.noZero
  have other : old.any Node.isDir = false := by
    cases old with
    | none => rfl
    | some n => exact notDir n rfl
  unfold renameTemporary
  rw [noZero]
  simp only [Bool.false_eq_true, if_false, run_bind]
  rw [run_place_eq, show (run (place false path) d).1 = .ok (l, old) from found]
  simp only [run_checkWritable writable, other, Bool.false_eq_true, if_false]
  rfl

end Disk

namespace Store

open Disk Node

/-- Every record of this ID can be saved. -/
def CanSave (s : Store) (d : Disk) (id : String) : Prop :=
  ∀ r : Record, r.id = id → ∃ d', run (s.save r) d = (.ok (), d')

/-- On a disk that a temporary file in the directory of the store was put on, the file can take the
place of that of a record. The temporary file leaves the directory where it is, so the path of the
record leads to the same entry as before. -/
theorem Lodged.run_renameTemporary {s : Store} {d filled : Disk} {l : Location} {mode : Mode}
    {id name : String} (h : s.Lodged d l mode) (fits : s.Fits mode id)
    (noDir : ∀ n, d.get? (l ++ [fileName id]) = some n → n.isDir = false)
    (absent : d.get? (l ++ [name]) = none) (beside : SameBeside (l ++ [name]) d filled)
    (sorted : filled.Sorted) (file : ∀ n, filled.get? (l ++ [name]) = some n → n.isDir = false) :
    ∃ e, run (renameTemporary (l ++ [name]) (s.path id) none) filled = (.ok (), e) := by
  have lodged : s.Lodged filled l mode :=
    h.beside (fun n there => by rw [absent] at there; cases there) beside sorted
  have notDir : ∀ n, filled.get? (l ++ [fileName id]) = some n → n.isDir = false := by
    intro n there
    by_cases same : fileName id = name
    · exact file n (same ▸ there)
    · exact noDir n ((beside.other_entry same).symm.trans there)
  exact ⟨_, Disk.run_renameTemporary (lodged.finds fits fun e => by cases e) notDir
    (lodged.writable fits)⟩

/-- **A record can be saved where its file fits.** -/
theorem Lodged.canSave {s : Store} {d : Disk} {l : Location} {mode : Mode} (h : s.Lodged d l mode)
    {id : String} (fits : s.Fits mode id)
    (noDir : ∀ n, d.get? (l ++ [fileName id]) = some n → n.isDir = false) : s.CanSave d id := by
  rintro r rfl
  obtain ⟨entries, hd⟩ := h.directory
  have found : Finds d true s.dir l (some (.dir mode entries)) :=
    finds_iff.2 ⟨h.passed, h.leads, hd.symm⟩
  have made := run_makeTemporary found fits.writable
  have absent : d.get? (l ++ [temporaryName (entries.map (·.1))]) = none := by
    rw [get?_append_singleton hd]
    exact Dict.lookup_eq_none_of_forall fun e he same =>
      temporaryName_notMem _ (List.mem_map.2 ⟨e, he, same⟩)
  generalize temporaryName (entries.map (·.1)) = name at made absent
  have filling : run (fillTemporary (l ++ [name]) r.storedText.toUTF8 none)
      (d.set (l ++ [name]) (.file .empty Mode.privateFile)) =
        (.ok (), (d.set (l ++ [name]) (.file .empty Mode.privateFile)).set (l ++ [name])
          (.file r.storedText.toUTF8 Mode.privateFile)) := rfl
  have file : ∀ n, ((d.set (l ++ [name]) (.file .empty Mode.privateFile)).set (l ++ [name])
      (.file r.storedText.toUTF8 Mode.privateFile)).get? (l ++ [name]) = some n →
        n.isDir = false := by
    intro n there
    have housed : Housed d (l ++ [name]) := ⟨mode, entries, by rw [List.dropLast_concat, hd]⟩
    rw [(housed.set (by simp) _).get?_set (by simp)] at there
    obtain rfl := Option.some.inj there
    rfl
  obtain ⟨saved, renamed⟩ := h.run_renameTemporary fits noDir absent
    ((sameBeside_set d _ _).trans (sameBeside_set _ _ _))
    ((h.sorted.set (sorted_file _ _) _).set (sorted_file _ _) _) file
  refine ⟨saved, ?_⟩
  unfold Store.save replaceFile
  simp only [run_bind, made, run_orDiscard, filling, renamed]

end Store

end Kennel
