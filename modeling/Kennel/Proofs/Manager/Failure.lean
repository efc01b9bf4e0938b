import Kennel.Proofs.Disk.File
import Kennel.Proofs.Manager.Calls

/-!
# Failed changes leave no trace

An adoption, an update or a purge that fails leaves the manager and the disk as they were: the
records, the stats, the mark of the allocator, the subscribers and what is queued for them, what the
monitor was asked, and the files. That holds wherever the failure comes from: a plan that is refused
changes nothing, a record that cannot be stored leaves the disk as it was at whichever point the
system broke off, and nothing is committed before the record is stored.

So **a failed change can be left out of a sequence of calls**: the calls after it are answered as if
it had not been made (`failed_change_leaves_no_trace`).
-/

namespace Kennel

namespace Store

variable {d d' : Disk}

/-- What storing a record ends with on a sorted disk: the file at the path of the record, or the disk
as it was. -/
theorem save_cases (sorted : d.Sorted) (s : Store) (r : Record) (breakdown : Option Disk.Breakdown) :
    (∃ l old, Disk.Finds d false (s.path r.id) l old ∧ (∀ n, old = some n → n.isDir = false) ∧
        Disk.Writable d l ∧ Disk.run (s.save r breakdown) d =
          (.ok (), d.set l (.file r.storedText.toUTF8 Mode.privateFile))) ∨
      ∃ e, Disk.run (s.save r breakdown) d = (.error e, d) :=
  Disk.replaceFile_cases sorted s.dir (s.path r.id) r.storedText.toUTF8 breakdown

/-- A record that could not be stored leaves the disk as it was. -/
theorem eq_of_save_error (sorted : d.Sorted) {s : Store} {r : Record}
    {breakdown : Option Disk.Breakdown} {e : DiskError}
    (h : Disk.run (s.save r breakdown) d = (.error e, d')) : d' = d := by
  rcases s.save_cases sorted r breakdown with ⟨l, old, -, -, -, hs⟩ | ⟨e', hs⟩
  · rw [hs] at h
    cases h
  · rw [hs] at h
    exact (congrArg Prod.snd h).symm

/-- Storing a record leaves a sorted disk sorted. -/
theorem sorted_of_save (sorted : d.Sorted) {s : Store} {r : Record}
    {breakdown : Option Disk.Breakdown} {reply : Except DiskError Unit}
    (h : Disk.run (s.save r breakdown) d = (reply, d')) : d'.Sorted := by
  rcases s.save_cases sorted r breakdown with ⟨l, old, -, -, -, hs⟩ | ⟨e', hs⟩
  · rw [hs] at h
    obtain rfl : _ = d' := congrArg Prod.snd h
    exact sorted.set (Node.sorted_file _ _) l
  · rw [hs] at h
    obtain rfl : _ = d' := congrArg Prod.snd h
    exact sorted

end Store

namespace Call

variable {m m' : Manager} {d d' : Disk} {c : Call} {answer : Except ManagerError Answer}

/-- **One failed call** leaves the manager and the disk as they were. -/
theorem Outcome.eq_of_failed {e : ManagerError} (h : Outcome m d c (.error e) m' d')
    (sorted : d.Sorted) : m' = m ∧ d' = d := by
  cases h with
  | refused => exact ⟨rfl, rfl⟩
  | unsaved _ _ stopped => exact ⟨rfl, Store.eq_of_save_error sorted stopped⟩

/-- Every call leaves a sorted disk sorted. -/
theorem Outcome.sorted (h : Outcome m d c answer m' d') (sorted : d.Sorted) : d'.Sorted := by
  cases h with
  | unsaved _ _ stopped => exact Store.sorted_of_save sorted stopped
  | adopted planned saved => exact Store.sorted_of_save sorted saved
  | updated planned saved => exact Store.sorted_of_save sorted saved
  | _ => exact sorted

/-! ## Sequences on one disk -/

/-- Makes calls one after another: their answers, and the manager and the disk in the end. -/
def runAll (m : Manager) (d : Disk) :
    List Call → List (Except ManagerError Answer) × Manager × Disk
  | [] => ([], m, d)
  | c :: calls =>
    let (answer, m, d) := c.run m d
    let (answers, m, d) := runAll m d calls
    (answer :: answers, m, d)

theorem length_runAll (m : Manager) (d : Disk) (calls : List Call) :
    (runAll m d calls).1.length = calls.length := by
  induction calls generalizing m d with
  | nil => rfl
  | cons c calls ih => simp only [runAll, List.length_cons, ih]

/-- Calls in two parts. -/
theorem runAll_append (m : Manager) (d : Disk) (before later : List Call) :
    runAll m d (before ++ later) =
      ((runAll m d before).1 ++
        (runAll (runAll m d before).2.1 (runAll m d before).2.2 later).1,
        (runAll (runAll m d before).2.1 (runAll m d before).2.2 later).2) := by
  induction before generalizing m d with
  | nil => rfl
  | cons c before ih =>
    simp only [List.cons_append, runAll]
    rw [ih]

/-- Calls leave a sorted disk sorted. -/
theorem sorted_runAll (m : Manager) (sorted : d.Sorted) (calls : List Call) :
    (runAll m d calls).2.2.Sorted := by
  induction calls generalizing m d with
  | nil => exact sorted
  | cons c calls ih => exact ih _ ((c.outcome m d).sorted sorted)

end Call

/-- **A failed call leaves no trace.** When an adoption, an update or a purge fails after any calls, or
any other call does, the manager and the disk are the same before and after it; and every sequence of
later calls ends the same, and is answered the same, as if the failed one had not been made. -/
theorem failed_change_leaves_no_trace (m : Manager) {d : Disk} (sorted : d.Sorted)
    (before : List Call) (c : Call) {e : ManagerError}
    (failed : (c.run (Call.runAll m d before).2.1 (Call.runAll m d before).2.2).1 = .error e) :
    (Call.runAll m d (before ++ [c])).2 = (Call.runAll m d before).2 ∧
      ∀ later,
        (Call.runAll m d (before ++ c :: later)).2 = (Call.runAll m d (before ++ later)).2 ∧
          (Call.runAll m d (before ++ c :: later)).1.eraseIdx before.length =
            (Call.runAll m d (before ++ later)).1 := by
  have outcome := c.outcome (Call.runAll m d before).2.1 (Call.runAll m d before).2.2
  rw [failed] at outcome
  obtain ⟨manager, disk⟩ := outcome.eq_of_failed (Call.sorted_runAll m sorted before)
  refine ⟨?_, fun later => ⟨?_, ?_⟩⟩
  · simp only [Call.runAll_append, Call.runAll, manager, disk]
  · simp only [Call.runAll_append, Call.runAll, manager, disk]
  · have place := Call.length_runAll m d before
    simp only [Call.runAll_append, Call.runAll, manager, disk]
    rw [List.eraseIdx_append_of_length_le place.le, place, Nat.sub_self, List.eraseIdx_cons_zero]

/-- A disk with an empty directory of records. -/
def bareDisk : Disk := .dir 0o755 [("records", .emptyDir)]

theorem sorted_bareDisk : bareDisk.Sorted :=
  Node.sorted_dir (by decide) (by simp [Node.sorted_emptyDir])

/-- A manager without pups whose records are kept in that directory. -/
def bareManager : Manager where
  settings := { bufferSize := 4, subscriberCapacity := 2 }
  store := ⟨"records"⟩
  catalogs := default
  monitor := some {}
  registry := .ofRecords {} 4 []
  noticeFeed := { capacity := 2 }
  statsFeed := { capacity := 2 }

/-- An adoption in which the record is written and cannot be put in its place. -/
def haltedAdoption : Call :=
  .adopt (.numbersFrom 0) { identity := ⟨"node", "1.0.0", ""⟩ } ⟨"main", "/srv"⟩
    (some ⟨.rename, .permissionDenied⟩)

/-- The halted adoption leaves no trace for the subscriber that came before it. -/
theorem haltedAdoption_leaves_no_trace :
    (haltedAdoption.run (Call.runAll bareManager bareDisk [.subscribe]).2.1
        (Call.runAll bareManager bareDisk [.subscribe]).2.2).1 =
      .error (.disk (.system .permissionDenied)) ∧
    (Call.runAll bareManager bareDisk ([.subscribe] ++ [haltedAdoption])).2 =
      (Call.runAll bareManager bareDisk [.subscribe]).2 := by
  have refused : ((Call.runAll bareManager bareDisk [.subscribe]).2.1.adopt (.numbersFrom 0)
      { identity := ⟨"node", "1.0.0", ""⟩ } ⟨"main", "/srv"⟩ bareDisk
        (some ⟨.rename, .permissionDenied⟩)).1 = .error (.disk (.system .permissionDenied)) := by
    decide +kernel
  have failed : (haltedAdoption.run (Call.runAll bareManager bareDisk [.subscribe]).2.1
      (Call.runAll bareManager bareDisk [.subscribe]).2.2).1 =
        .error (.disk (.system .permissionDenied)) :=
    congrArg (Except.map Answer.record) refused
  exact ⟨failed,
    (failed_change_leaves_no_trace bareManager sorted_bareDisk [.subscribe] haltedAdoption failed).1⟩

end Kennel
