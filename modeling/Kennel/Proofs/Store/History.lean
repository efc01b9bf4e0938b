import Mathlib.Data.List.Induction
import Kennel.Proofs.Allocation.Fresh
import Kennel.Proofs.Store.Contents

/-!
# What a store holds after any saves and deletions

A store is a map from IDs to the records saved last, whatever else is in its directory: foreign
files, files of records that cannot be read or parsed, directories and links under the names of
records. `Change.last` says what a history of saves and deletions leaves under an ID: those that
failed count for nothing, and of the others the last one decides.

**After any changes the directory holds exactly what the history says** (`Follows`): one step keeps
it (`Traced.step`), by the cases of what a change ends with (`Change.outcome`), and so does a whole
run (`traced_runAll`). **Loading then gives, in the order of their addresses, the records of exactly
those files that bear the name of a record and can be read and parsed** (`Lodged.loads`).

The directory has to stay where it is. A link in it under the name of a record is replaced by the
save of that record, so the path of the store may not lead through such a link (`withoutLinks`).
-/

namespace Kennel.Store

open Disk Path Node

/-! ## Loading a directory with anything in it -/

/-- The file of that name in the directory of the store can be read, and is parsed as the record. -/
def Gives (s : Store) (d : Disk) (name : String) (r : Record) : Prop :=
  ∃ bytes, (run (readBytes (join s.dir name)) d).1 = .ok bytes ∧
    Json.decodeBytes Record.decoder bytes = .ok r

/-- The records loaded from the directory at `l` are in the order of their addresses, and they are
those of the files that bear the name of a record and give one. -/
structure Loads (s : Store) (d : Disk) (l : Location) (loaded : List Record) : Prop where
  ascending : loaded.Pairwise fun a b => a.address ≤ b.address
  files : ∃ files : List (String × Record), loaded.Perm (files.map (·.2)) ∧
    (files.map (·.1)).Nodup ∧ ∀ name r, (name, r) ∈ files ↔
      (∃ id, name = fileName id) ∧ (d.get? (l ++ [name])).isSome ∧ s.Gives d name r

theorem loadFile_eq_some_iff {s : Store} {d : Disk} {name : String} {r : Record} :
    loadFile d (join s.dir name) = some r ↔ s.Gives d name r := by
  unfold loadFile Gives
  cases (run (readBytes (join s.dir name)) d).1 with
  | error e => simp
  | ok bytes =>
    simp only [Except.ok.injEq, exists_eq_left']
    cases Json.decodeBytes Record.decoder bytes <;> simp [Except.toOption]

/-- **Loading passes over everything that is no file of a record**, and over nothing else. -/
theorem Lodged.loads {s : Store} {d : Disk} {l : Location} {mode : Mode} (h : s.Lodged d l mode) :
    ∃ loaded, (run s.loadAll d).1 = .ok loaded ∧ s.Loads d l loaded := by
  obtain ⟨entries, hd⟩ := h.directory
  let named : Dict Node := ⟨entries, h.sorted l mode entries hd⟩
  let files := ((entries.map (·.1)).filter isRecordName).filterMap fun name =>
    (Store.loadFile d (join s.dir name)).map (name, ·)
  refine ⟨_, h.run_loadAll hd, Record.pairwise_sortByAddress _, files, ?_, ?_, fun name r => ?_⟩
  · refine (List.mergeSort_perm _ _).trans (.of_eq ?_)
    rw [List.map_filterMap]
    refine List.filterMap_congr fun name _ => ?_
    rw [Option.map_map]
    exact Option.map_id'.symm
  · rw [List.map_filterMap]
    refine List.Nodup.filterMap (fun a b name ha hb => ?_) (named.nodup_keys.filter _)
    simp only [Option.mem_def, Option.map_map, Option.map_eq_some_iff, Function.comp_apply,
      exists_and_right] at ha hb
    exact ha.2.trans hb.2.symm
  · simp only [files, List.mem_filterMap, List.mem_filter, h.mem_names_iff hd,
      Option.map_eq_some_iff, Prod.mk.injEq, isRecordName_iff, loadFile_eq_some_iff]
    constructor
    · rintro ⟨name', ⟨there, isName⟩, r', gives, rfl, rfl⟩
      exact ⟨isName, there, gives⟩
    · rintro ⟨isName, there, gives⟩
      exact ⟨name, ⟨there, isName⟩, r, gives, rfl, rfl⟩

/-! ## Links under the names of records -/

/-- The disk without what is at the location, if that is a link. -/
def withoutLink (d : Disk) (k : Location) : Disk :=
  match d.get? k with
  | some (.link _) => d.erase k
  | _ => d

/-- The disk without the links in the directory at `l` that bear the names of the records of these
IDs. -/
def withoutLinks (d : Disk) (l : Location) : List String → Disk
  | [] => d
  | id :: ids => withoutLinks (withoutLink d (l ++ [fileName id])) l ids

section Links

variable {d d' : Disk} {l : Location}

theorem sameBeside_withoutLink (d : Disk) (k : Location) : SameBeside k d (withoutLink d k) := by
  unfold withoutLink
  split
  · exact sameBeside_erase d k
  · exact .refl k d

/-- What is found without the links was there with them, and is no link under one of the names. -/
theorem get?_withoutLinks {ids : List String} {name : String} {n : Node}
    (there : (withoutLinks d l ids).get? (l ++ [name]) = some n) :
    d.get? (l ++ [name]) = some n ∧
      ∀ id ∈ ids, fileName id = name → ∀ target, n ≠ .link target := by
  induction ids generalizing d with
  | nil => exact ⟨there, fun _ member => by cases member⟩
  | cons id ids ih =>
    obtain ⟨kept, noLink⟩ := ih there
    by_cases same : fileName id = name
    · subst same
      unfold withoutLink at kept
      split at kept
      · rw [get?_erase_self d (by simp)] at kept
        cases kept
      · next isNoLink =>
        exact ⟨kept, fun _ _ _ target e => isNoLink target (kept.trans (congrArg some e))⟩
    · rw [(sameBeside_withoutLink d (l ++ [fileName id])).other_entry (Ne.symm same)] at kept
      refine ⟨kept, fun id' member sameName => ?_⟩
      rcases List.mem_cons.1 member with rfl | member
      · exact absurd sameName same
      · exact noLink id' member sameName

/-- Disks that differ at one entry of the directory at most still do without the links. -/
theorem sameBeside_withoutLinks {name : String} (beside : SameBeside (l ++ [name]) d d')
    (ids : List String) :
    SameBeside (l ++ [name]) (withoutLinks d l ids) (withoutLinks d' l ids) := by
  induction ids generalizing d d' with
  | nil => exact beside
  | cons id ids ih =>
    refine ih ?_
    by_cases same : fileName id = name
    · subst same
      exact (sameBeside_withoutLink d _).symm.trans (beside.trans (sameBeside_withoutLink d' _))
    · unfold withoutLink
      rw [beside.other_entry same]
      split
      · exact beside.erase (entries_apart l (Ne.symm same)) (entries_apart l same)
      · exact beside

/-- A path that leads to the directory without the links leads there with them. -/
theorem leads_of_withoutLinks {ids : List String} {links : Nat} {todo : List String}
    (h : Leads (withoutLinks d l ids) true links [] todo l) : Leads d true links [] todo l := by
  induction ids generalizing d with
  | nil => exact h
  | cons id ids ih =>
    have h := ih h
    unfold withoutLink at h
    split at h
    · have gone := get?_erase_self d (l := l ++ [fileName id]) (by simp)
      exact h.frame (sameBeside_erase d _).symm (by simp [gone]) (by simp [gone])
        fun _ => entry_not_above l _
    · exact h

end Links

/-! ## One change -/

/-- A change of a store; the system can break off a save at any point of it. -/
inductive Change where
  | save (r : Record) (breakdown : Option Breakdown := none)
  | delete (id : String)

namespace Change

def id : Change → String
  | save r _ => r.id
  | delete id => id

/-- The record that a change leaves under its ID. -/
def kept : Change → Option Record
  | save r _ => some r
  | delete _ => none

def run (s : Store) : Change → DiskM Unit
  | save r breakdown => s.save r breakdown
  | delete id => s.delete id

/-- Changes, each with its answer. -/
abbrev History := List (Change × Except DiskError Unit)

/-- What the last change of this ID that did not fail left under it, if there was one. -/
def last (id : String) (history : History) : Option (Option Record) :=
  ((history.filter fun e => e.1.id == id && e.2.isOk).getLast?).map (·.1.kept)

/-- Makes changes one after another: the history of them, and the disk in the end. -/
def runAll (s : Store) (d : Disk) (changes : List Change) : History × Disk :=
  changes.foldl (fun (history, d) c =>
    let (answer, d') := Disk.run (c.run s) d
    (history ++ [(c, answer)], d')) ([], d)

theorem last_append (id : String) (history : History) (c : Change)
    (answer : Except DiskError Unit) :
    last id (history ++ [(c, answer)]) =
      if c.id = id ∧ answer.isOk then some c.kept else last id history := by
  unfold last
  rw [List.filter_append, List.filter_singleton]
  split
  · next h => simp [h]
  · next h =>
    have passed : (c.id == id && answer.isOk) = false := by simpa using h
    simp [passed]

theorem runAll_append (s : Store) (d : Disk) (changes : List Change) (c : Change) :
    runAll s d (changes ++ [c]) =
      ((runAll s d changes).1 ++ [(c, (Disk.run (c.run s) (runAll s d changes).2).1)],
        (Disk.run (c.run s) (runAll s d changes).2).2) := by
  rw [runAll, List.foldl_append]
  rfl

/-- What a change ends with: the disk as it was, or another entry under the name of the record. -/
inductive Outcome (s : Store) (d : Disk) (l : Location) (mode : Mode) (c : Change) :
    Except DiskError Unit → Disk → Prop
  | failed (e : DiskError) : Outcome s d l mode c (.error e) d
  | made {d' : Disk} (sorted : d'.Sorted) (beside : SameBeside (l ++ [fileName c.id]) d d')
      (noDir : ∀ mode entries, d.get? (l ++ [fileName c.id]) ≠ some (.dir mode entries))
      (entry : d'.get? (l ++ [fileName c.id]) = c.kept.map fileOf)
      (fits : ∀ r, c.kept = some r → s.Fits mode c.id) : Outcome s d l mode c (.ok ()) d'

/-- **A change replaces or removes the file of its record, or it leaves everything as it was.** -/
theorem outcome {s : Store} {d : Disk} {l : Location} {mode : Mode} (h : s.Lodged d l mode)
    (c : Change) (noSlash : '/' ∉ c.id.toList) :
    Outcome s d l mode c (Disk.run (c.run s) d).1 (Disk.run (c.run s) d).2 := by
  cases c with
  | save r breakdown =>
    simp only [run]
    rcases s.save_cases h.sorted r breakdown with
      ⟨k, old, found, noDir, writable, saved⟩ | ⟨e, stopped⟩
    · obtain ⟨rfl, fits⟩ := h.fits noSlash found writable
      rw [saved]
      refine .made (h.sorted.set (sorted_file _ _) _) (sameBeside_set d _ _) (fun m es there => ?_)
        (writable.housed.get?_set (by simp) _) fun _ _ => fits
      obtain ⟨-, -, rfl⟩ := finds_iff.1 found
      exact absurd (noDir _ there) (by simp [Node.isDir])
    · rw [stopped]
      exact .failed e
  | delete id =>
    simp only [run]
    rcases removeIfExists_cases (s.path id) d with
      ⟨k, n, found, noDir, writable, removed⟩ | ⟨missing, unchanged⟩ | ⟨e, stopped⟩
    · obtain ⟨rfl, -⟩ := h.fits noSlash found writable
      rw [show Disk.run (s.delete id) d = _ from removed]
      refine .made (h.sorted.erase _) (sameBeside_erase d _) (fun m es there => ?_)
        (get?_erase_self d (by simp)) fun r e => by cases e
      obtain ⟨-, -, hn⟩ := finds_iff.1 found
      obtain rfl := Option.some.inj (hn.trans there)
      cases noDir
    · have absent := h.get?_eq_none noSlash missing
      rw [show Disk.run (s.delete id) d = _ from unchanged]
      refine .made h.sorted (.refl _ d) (fun m es there => ?_) absent fun r e => by cases e
      exact absurd (absent.symm.trans there) fun e => by cases e
    · rw [show Disk.run (s.delete id) d = _ from stopped]
      exact .failed e

end Change

/-! ## Any changes -/

/-- The directory at `l` is as it was on `d₀`, but for what the history says. -/
structure Follows (s : Store) (d₀ : Disk) (l : Location) (history : Change.History) (d : Disk) :
    Prop where
  saved : ∀ id r, Change.last id history = some (some r) →
    d.get? (l ++ [fileName id]) = some (fileOf r) ∧ ∀ r', s.Gives d (fileName id) r' ↔ r' = r
  deleted : ∀ id, Change.last id history = some none → d.get? (l ++ [fileName id]) = none
  others : ∀ name, (∀ id, fileName id = name → Change.last id history = none) →
    d.get? (l ++ [name]) = d₀.get? (l ++ [name])
  outside : SameBeside l d₀ d

/-- After changes of these IDs the store is where it was, and the directory is as the history
says. -/
structure Traced (s : Store) (d₀ : Disk) (l : Location) (mode : Mode) (ids : List String)
    (history : Change.History) (d : Disk) : Prop extends s.Lodged d l mode where
  apart : Leads (withoutLinks d l ids) true maxLinks [] (steps s.dir) l
  entry : ∀ id kept, Change.last id history = some kept →
    d.get? (l ++ [fileName id]) = kept.map fileOf ∧ ∀ r, kept = some r → s.Fits mode id
  others : ∀ name, (∀ id, fileName id = name → Change.last id history = none) →
    d.get? (l ++ [name]) = d₀.get? (l ++ [name])
  outside : SameBeside l d₀ d

namespace Traced

variable {s : Store} {d₀ d : Disk} {l : Location} {mode : Mode} {ids : List String}
  {history : Change.History}

/-- **One change keeps the directory as the history says**, and the store where it was. -/
theorem step (h : s.Traced d₀ l mode ids history d) {c : Change} (noSlash : '/' ∉ c.id.toList)
    (member : c.id ∈ ids) :
    s.Traced d₀ l mode ids (history ++ [(c, (Disk.run (c.run s) d).1)])
      (Disk.run (c.run s) d).2 := by
  have outcome := c.outcome h.toLodged noSlash
  generalize (Disk.run (c.run s) d).1 = answer, (Disk.run (c.run s) d).2 = d' at outcome ⊢
  cases outcome with
  | failed e =>
    have same (id : String) :
        Change.last id (history ++ [(c, .error e)]) = Change.last id history := by
      rw [Change.last_append]
      simp [Except.isOk, Except.toBool]
    exact ⟨h.toLodged, h.apart, fun id kept last => h.entry id kept (same id ▸ last),
      fun name untouched => h.others name fun id hid => same id ▸ untouched id hid, h.outside⟩
  | made sorted beside noDir entry fits =>
    have above := entry_not_above l (fileName c.id)
    have last (id : String) : Change.last id (history ++ [(c, .ok ())]) =
        if c.id = id then some c.kept else Change.last id history := by
      rw [Change.last_append]
      simp [Except.isOk, Except.toBool]
    -- The path does not pass through the entry, so it leads where it led.
    have apart : Leads (withoutLinks d' l ids) true maxLinks [] (steps s.dir) l := by
      refine h.apart.frame (sameBeside_withoutLinks beside ids) (fun m es there => ?_)
        (fun target there => ?_) fun _ => above
      · exact noDir m es (get?_withoutLinks there).1
      · exact (get?_withoutLinks there).2 c.id member rfl target rfl
    refine ⟨⟨sorted, h.passed, leads_of_withoutLinks apart, ?_, h.readable⟩, apart,
      fun id kept hlast => ?_, fun name untouched => ?_, h.outside.trans beside.widen⟩
    · obtain ⟨entries, hd⟩ := h.directory
      exact beside.get?_eq_dir above hd
    · rw [last] at hlast
      split at hlast
      · next same =>
        subst same
        obtain rfl := Option.some.inj hlast
        exact ⟨entry, fits⟩
      · next other =>
        obtain ⟨there, fits'⟩ := h.entry id kept hlast
        have ne : fileName id ≠ fileName c.id := fun e => other (fileName_injective e).symm
        exact ⟨(beside.other_entry ne).trans there, fits'⟩
    · by_cases same : name = fileName c.id
      · have := untouched c.id same.symm
        rw [last, if_pos rfl] at this
        cases this
      · refine (beside.other_entry same).trans (h.others name fun id hid => ?_)
        have := untouched id hid
        rwa [last, if_neg fun e => same (hid ▸ congrArg fileName e.symm)] at this

theorem follows (h : s.Traced d₀ l mode ids history d) : s.Follows d₀ l history d where
  saved id r last := by
    obtain ⟨there, fits⟩ := h.entry id (some r) last
    have found := h.toLodged.loadFile (fits r rfl) there
    refine ⟨there, fun r' => ?_⟩
    rw [← loadFile_eq_some_iff, show join s.dir (fileName id) = s.path id from rfl, found]
    exact ⟨fun e => (Option.some.inj e).symm, fun e => congrArg some e.symm⟩
  deleted id last := (h.entry id none last).1
  others := h.others
  outside := h.outside

end Traced

/-- **After any changes of these IDs the directory is as the history says.** -/
theorem traced_runAll {s : Store} {d : Disk} {l : Location} {mode : Mode}
    (lodged : s.Lodged d l mode) {ids : List String}
    (apart : Leads (withoutLinks d l ids) true maxLinks [] (steps s.dir) l)
    {changes : List Change} (known : ∀ c ∈ changes, c.id ∈ ids ∧ '/' ∉ c.id.toList) :
    s.Traced d l mode ids (Change.runAll s d changes).1 (Change.runAll s d changes).2 := by
  induction changes using List.reverseRecOn with
  | nil =>
    exact ⟨lodged, apart, fun _ _ last => (nomatch last), fun _ _ => rfl, .refl l d⟩
  | append_singleton changes c ih =>
    rw [Change.runAll_append]
    obtain ⟨member, noSlash⟩ := known c (by simp)
    exact (ih fun c' member' => known c' (by simp [member'])).step noSlash member

/-- **A store is a map from IDs to the records saved last**, whatever is in its directory. After any
saves and deletions loading succeeds and gives the records of the files that bear the name of a
record and give one. The file of an ID is that of the record saved last under it, or it is gone
after a deletion; every other entry is what it was, and so is everything outside the directory; and
a change that failed has changed nothing. The path of the store leads to its directory also without
the links that stand there under the names of the records in question. -/
theorem loads_last_saved {s : Store} {d : Disk} {l : Location} {mode : Mode}
    (lodged : s.Lodged d l mode) (changes : List Change)
    (noSlash : ∀ c ∈ changes, '/' ∉ c.id.toList)
    (apart : Leads (withoutLinks d l (changes.map Change.id)) true maxLinks [] (steps s.dir) l) :
    (∃ loaded, (run s.loadAll (Change.runAll s d changes).2).1 = .ok loaded ∧
      s.Loads (Change.runAll s d changes).2 l loaded) ∧
    s.Follows d l (Change.runAll s d changes).1 (Change.runAll s d changes).2 ∧
    ∀ before c, before ++ [c] <+: changes →
      ∀ e, (run (c.run s) (Change.runAll s d before).2).1 = .error e →
        (run (c.run s) (Change.runAll s d before).2).2 = (Change.runAll s d before).2 := by
  have known : ∀ c ∈ changes, c.id ∈ changes.map Change.id ∧ '/' ∉ c.id.toList :=
    fun c member => ⟨List.mem_map_of_mem member, noSlash c member⟩
  have traced := traced_runAll lodged apart known
  refine ⟨traced.toLodged.loads, traced.follows, fun before c part e failed => ?_⟩
  have earlier : s.Traced d l mode (changes.map Change.id) (Change.runAll s d before).1
      (Change.runAll s d before).2 :=
    traced_runAll lodged apart fun c' member =>
      known c' (part.subset (List.mem_append_left _ member))
  have outcome := c.outcome earlier.toLodged (noSlash c (part.subset (by simp)))
  rw [failed] at outcome
  generalize (run (c.run s) (Change.runAll s d before).2).2 = d' at outcome ⊢
  cases outcome
  rfl

def pupA : Record := { (default : Record) with id := "a" }

/-- A directory with a file, a directory, a broken record and a link. -/
def mixedDisk : Disk :=
  .dir 0o755 [("records", .dir 0o755 [("notes.txt", .file .empty 0o644),
    ("pup_b.json", .emptyDir), ("pup_c.json", .file ⟨#[0xff]⟩ 0o644),
    ("pup_d.json", .link "notes.txt")])]

def mixedStore : Store := ⟨"records"⟩

theorem lodged_mixedStore : mixedStore.Lodged mixedDisk ["records"] 0o755 where
  sorted := by
    refine sorted_dir (by decide) ?_
    rintro e (_ | ⟨_, ⟨⟩⟩)
    exact sorted_dir (by decide) (by simp [sorted_file, sorted_link, sorted_emptyDir])
  passed := ⟨by decide +kernel, by decide, by decide +kernel⟩
  leads := leads_of_map_walk (by decide +kernel)
  directory := ⟨_, rfl⟩
  readable := by decide +kernel

/-- A save, one that meets a directory, the deletion of a link, and a save that breaks off. -/
def mixedChanges : List Change :=
  [.save pupA, .save { pupA with id := "b" }, .delete "d",
    .save { pupA with enabled := true } (some ⟨.rename, .permissionDenied⟩)]

/-- The first save and the deletion are what the mixed directory shows in the end. -/
theorem loads_last_saved_mixed :
    (Change.runAll mixedStore mixedDisk mixedChanges).1.map (·.2) =
      [.ok (), .error (.system .isADirectory), .ok (), .error (.system .permissionDenied)] ∧
    (∃ loaded, (run mixedStore.loadAll (Change.runAll mixedStore mixedDisk mixedChanges).2).1 =
        .ok loaded ∧
      mixedStore.Loads (Change.runAll mixedStore mixedDisk mixedChanges).2 ["records"] loaded) ∧
    mixedStore.Follows mixedDisk ["records"] (Change.runAll mixedStore mixedDisk mixedChanges).1
      (Change.runAll mixedStore mixedDisk mixedChanges).2 := by
  have apart : Leads (withoutLinks mixedDisk ["records"] (mixedChanges.map Change.id)) true
      maxLinks [] (steps mixedStore.dir) ["records"] := leads_of_map_walk (by decide +kernel)
  obtain ⟨loads, follows, -⟩ :=
    loads_last_saved lodged_mixedStore mixedChanges (by decide +kernel) apart
  exact ⟨by decide +kernel, loads, follows⟩

/-- A directory that is reached through a link in it, under the name of a record. -/
def loopedDisk : Disk := .dir 0o755 [("records", .dir 0o755 [("pup_a.json", .link ".")])]

def loopedStore : Store := ⟨"records/pup_a.json"⟩

/-- A store loses its directory to the save that replaces the link through which it was opened. -/
theorem looped_store_is_lost :
    (run (openAt "records/pup_a.json") loopedDisk).1 = .ok loopedStore ∧
    loopedStore.Lodged loopedDisk ["records"] 0o755 ∧
    (run loopedStore.loadAll loopedDisk).1 = .ok [] ∧
    (Change.runAll loopedStore loopedDisk [.save pupA]).1.map (·.2) = [.ok ()] ∧
    (run loopedStore.loadAll (Change.runAll loopedStore loopedDisk [.save pupA]).2).1 =
      .error (.system .notADirectory) := by
  have sorted : loopedDisk.Sorted := by
    refine sorted_dir (by decide) ?_
    rintro e (_ | ⟨_, ⟨⟩⟩)
    exact sorted_dir (by decide) (by simp [sorted_link])
  have lodged : loopedStore.Lodged loopedDisk ["records"] 0o755 :=
    ⟨sorted, ⟨by decide +kernel, by decide, by decide +kernel⟩,
      leads_of_map_walk (by decide +kernel),
      ⟨_, rfl⟩, by decide +kernel⟩
  exact ⟨by decide +kernel, lodged, by decide +kernel, by decide +kernel, by decide +kernel⟩

end Kennel.Store
