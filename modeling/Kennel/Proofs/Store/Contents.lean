import Kennel.Proofs.Manager.Failure
import Kennel.Proofs.Manager.Health
import Kennel.Proofs.Record.Stored

/-!
# What a store holds

A store holds a set of records when its directory has one file for each of them, under the name made
from the ID, and no other file that would be taken for a record (`Store.Holds`). The flags of health
may differ between a record and its file.

**Storing a record and deleting one do to the files what `insert` and `erase` do to the set**
(`Holds.save`, `Holds.delete`), and **loading gives the set back**, up to the flags (`Holds.loadAll`).
-/

namespace Kennel.Store

open Disk Path Node

/-! ## Names of files -/

theorem toList_fileName (id : String) :
    (fileName id).toList = ['p', 'u', 'p', '_'] ++ id.toList ++ ['.', 'j', 's', 'o', 'n'] := by
  simp [fileName, String.toList_append]

/-- The name of a file says the ID. -/
theorem fileName_injective {id id' : String} (h : fileName id = fileName id') : id = id' := by
  have h := congrArg String.toList h
  rw [toList_fileName, toList_fileName] at h
  exact String.toList_inj.1 (List.append_cancel_left (List.append_cancel_right h))

/-- The file of a record is taken for one. -/
theorem isRecordName_fileName (id : String) : isRecordName (fileName id) = true := by
  have start : (fileName id).startsWith "pup_" = true := by
    rw [String.startsWith_string_iff, toList_fileName, List.append_assoc]
    exact List.prefix_append _ _
  have extension : extension? (fileName id) = some "json" := by
    have reversed : (fileName id).toList.reverse =
        ['n', 'o', 's', 'j'] ++ '.' :: (id.toList.reverse ++ ['_', 'p', 'u', 'p']) := by
      simp [toList_fileName]
    have rest : (['n', 'o', 's', 'j'] ++ '.' :: (id.toList.reverse ++ ['_', 'p', 'u', 'p'])).dropWhile
        (· ≠ '.') = '.' :: (id.toList.reverse ++ ['_', 'p', 'u', 'p']) := rfl
    have front : (['n', 'o', 's', 'j'] ++ '.' :: (id.toList.reverse ++ ['_', 'p', 'u', 'p'])).takeWhile
        (· ≠ '.') = ['n', 'o', 's', 'j'] := rfl
    unfold extension?
    rw [reversed]
    simp only [rest, front]
    cases id.toList.reverse <;> rfl
  rw [isRecordName, start, extension]
  rfl

/-- A name with an extension ends with a dot and the extension. -/
theorem toList_of_extension {name extension : String} (h : extension? name = some extension) :
    ∃ front, name.toList = front ++ '.' :: extension.toList := by
  have cut := List.takeWhile_append_dropWhile (p := (· ≠ '.')) (l := name.toList.reverse)
  rw [extension?] at h
  split at h
  · cases h
  · cases h
  · next notNil _ =>
    have last := congrArg String.toList (Option.some.inj h)
    rw [String.toList_ofList, List.reverse_eq_iff] at last
    cases hd : name.toList.reverse.dropWhile (· ≠ '.') with
    | nil => exact absurd hd notNil
    | cons dot front =>
      have stop := List.head?_dropWhile_not (· ≠ '.') name.toList.reverse
      rw [hd] at stop
      obtain rfl : dot = '.' := by simpa using stop
      rw [hd, last] at cut
      refine ⟨front.reverse, ?_⟩
      rw [← name.toList.reverse_reverse, ← cut]
      simp

/-- A file is taken for a record if it bears the name of one. -/
theorem isRecordName_iff {name : String} :
    isRecordName name = true ↔ ∃ id, name = fileName id := by
  constructor
  · intro h
    rw [isRecordName, Bool.and_eq_true, String.startsWith_string_iff, beq_iff_eq] at h
    obtain ⟨start, extension⟩ := h
    obtain ⟨front, whole⟩ := toList_of_extension extension
    rw [List.append_cons] at whole
    -- There is no dot in the first part of the name, so the two parts do not overlap.
    have noDot : '.' ∉ "pup_".toList := by decide
    rcases List.prefix_or_prefix_of_prefix start ⟨_, whole.symm⟩ with h | h
    · rcases List.prefix_concat_iff.1 h with h | ⟨id, h⟩
      · exact absurd (h ▸ by simp) noDot
      · refine ⟨String.ofList id, String.toList_inj.1 ?_⟩
        rw [whole, toList_fileName, String.toList_ofList, String.toList_ofList, ← h,
          List.append_assoc]
        rfl
    · exact absurd (h.subset (by simp)) noDot
  · rintro ⟨id, rfl⟩
    exact isRecordName_fileName id

/-- The file of a record lies in the directory itself, if there is no slash in the ID. -/
theorem plain_fileName {id : String} (noSlash : '/' ∉ id.toList) : Plain (fileName id) := by
  have first : ∀ s : String, s.toList.head? ≠ some 'p' → fileName id ≠ s := by
    rintro s h rfl
    rw [toList_fileName] at h
    exact h rfl
  refine ⟨first _ (by decide), ?_, first _ (by decide), first _ (by decide)⟩
  rw [toList_fileName]
  simp [noSlash]

/-! ## The directory -/

/-- The directory of the store is at `l`, and its owner can read it. -/
structure Lodged (s : Store) (d : Disk) (l : Location) (mode : Mode) : Prop where
  sorted : d.Sorted
  passed : Passed s.dir
  leads : Leads d true maxLinks [] (steps s.dir) l
  directory : ∃ entries, d.get? l = some (.dir mode entries)
  readable : mode.canRead = true

/-- The file of a record of this ID can be made in the directory. -/
structure Fits (s : Store) (mode : Mode) (id : String) : Prop where
  noSlash : '/' ∉ id.toList
  passed : Passed (s.path id)
  short : (fileName id).utf8ByteSize ≤ maxName
  writable : (mode.canWrite && mode.canSearch) = true

namespace Lodged

variable {s : Store} {d d' : Disk} {l : Location} {mode : Mode}

/-- Changing a file in the directory leaves the directory where it is. -/
theorem beside (h : s.Lodged d l mode) {name : String}
    (file : ∀ n, d.get? (l ++ [name]) = some n → n.isFile = true)
    (beside : SameBeside (l ++ [name]) d d') (sorted : d'.Sorted) : s.Lodged d' l mode := by
  obtain ⟨entries, hd⟩ := h.directory
  have longer := entry_not_above l name
  obtain ⟨entries', hd'⟩ := beside.get?_eq_dir longer hd
  refine ⟨sorted, h.passed, h.leads.frame beside ?_ ?_ fun _ => longer, ⟨entries', hd'⟩, h.readable⟩
  · intro m es e
    exact absurd (file _ e) (by simp [Node.isFile])
  · intro target e
    exact absurd (file _ e) (by simp [Node.isFile])

/-- Where the path of a record leads: to the entry of that name, if it can be passed. -/
theorem walk_path (h : s.Lodged d l mode) {id : String} (noSlash : '/' ∉ id.toList) {follow : Bool}
    (stay : follow = true → ∀ target, d.get? (l ++ [fileName id]) ≠ some (.link target)) :
    walk d follow maxLinks [] (steps (s.path id)) =
      if !mode.canSearch then .error .permissionDenied
      else if maxName < (fileName id).utf8ByteSize then .error .nameTooLong
      else .ok (l ++ [fileName id], d.get? (l ++ [fileName id])) := by
  obtain ⟨entries, hd⟩ := h.directory
  exact walk_join (reaches_of_leads h.leads) h.passed.nonempty (plain_fileName noSlash) hd stay

/-- Nothing is in the directory under the name of a record that is missing. -/
theorem get?_eq_none (h : s.Lodged d l mode) {id : String} (noSlash : '/' ∉ id.toList)
    (missing : Missing d (s.path id)) : d.get? (l ++ [fileName id]) = none := by
  have walked : walk d false maxLinks [] (steps (s.path id)) = _ :=
    h.walk_path noSlash fun e => by cases e
  rcases missing with failed | ⟨k, found⟩
  · rcases place_error failed (join_ne_empty h.passed.nonempty (plain_fileName noSlash)) with
      e | e | ⟨e, he, stopped⟩
    · cases e
    · cases e
    · cases he
      rw [walked] at stopped
      split at stopped
      · cases stopped
      split at stopped <;> cases stopped
  · obtain ⟨-, leads, absent⟩ := finds_iff.1 found
    rw [leads.walk_eq] at walked
    split at walked
    · cases walked
    split at walked
    · cases walked
    · obtain rfl : k = _ := congrArg Prod.fst (Except.ok.inj walked)
      exact absent.symm

/-- A record whose path leads to a writable place has its file in the directory. -/
theorem fits (h : s.Lodged d l mode) {id : String} (noSlash : '/' ∉ id.toList) {k : Location}
    {x : Option Node} (found : Finds d false (s.path id) k x) (writable : Writable d k) :
    k = l ++ [fileName id] ∧ s.Fits mode id := by
  obtain ⟨passed, leads, -⟩ := finds_iff.1 found
  have walked := leads.walk_eq
  rw [h.walk_path noSlash (fun e => by cases e)] at walked
  split at walked
  · cases walked
  split at walked
  · cases walked
  · next short =>
    have hk : k = l ++ [fileName id] := (congrArg Prod.fst (Except.ok.inj walked)).symm
    refine ⟨hk, noSlash, passed, Nat.not_lt.1 short, ?_⟩
    obtain ⟨mode', entries', hd', bits⟩ := writable
    obtain ⟨entries, hd⟩ := h.directory
    rw [hk, List.dropLast_concat, hd] at hd'
    cases hd'
    exact bits

/-- The path of a record that fits leads to the entry of its name. -/
theorem finds (h : s.Lodged d l mode) {id : String} (fits : s.Fits mode id) {follow : Bool}
    (stay : follow = true → ∀ target, d.get? (l ++ [fileName id]) ≠ some (.link target)) :
    Finds d follow (s.path id) (l ++ [fileName id]) (d.get? (l ++ [fileName id])) := by
  have walked := h.walk_path fits.noSlash stay
  have search : mode.canSearch = true := (Bool.and_eq_true_iff.1 fits.writable).2
  rw [search, Bool.not_true, if_neg (by decide), if_neg (Nat.not_lt.2 fits.short)] at walked
  exact finds_iff.2 ⟨fits.passed, (walk_eq_ok_iff.1 walked).1, rfl⟩

theorem writable (h : s.Lodged d l mode) {id : String} (fits : s.Fits mode id) :
    Writable d (l ++ [fileName id]) := by
  obtain ⟨entries, hd⟩ := h.directory
  exact ⟨mode, entries, by rw [List.dropLast_concat, hd], fits.writable⟩

/-- The directory can be listed. -/
theorem run_readDir (h : s.Lodged d l mode) {entries : List (String × Node)}
    (hd : d.get? l = some (.dir mode entries)) : run (readDir s.dir) d = (.ok entries, d) := by
  have found : Finds d true s.dir l (some (.dir mode entries)) :=
    finds_iff.2 ⟨h.passed, h.leads, hd.symm⟩
  unfold readDir
  rw [run_bind, run_look found]
  simp only [h.readable, if_true]
  rfl

theorem mem_names_iff (h : s.Lodged d l mode) {entries : List (String × Node)}
    (hd : d.get? l = some (.dir mode entries)) {name : String} :
    name ∈ entries.map (·.1) ↔ (d.get? (l ++ [name])).isSome := by
  rw [get?_append_singleton hd]
  exact Dict.mem_keys_iff (d := ⟨entries, h.sorted l mode entries hd⟩)

/-- Loading reads the files that are taken for records. -/
theorem run_loadAll (h : s.Lodged d l mode) {entries : List (String × Node)}
    (hd : d.get? l = some (.dir mode entries)) :
    (run s.loadAll d).1 = .ok (Record.sortByAddress (((entries.map (·.1)).filter isRecordName).filterMap
      fun name => Store.loadFile d (join s.dir name))) := by
  unfold Store.loadAll
  rw [run_bind, h.run_readDir hd]
  rfl

/-- A record is loaded if it is in a file that is taken for one. -/
theorem mem_loadAll (h : s.Lodged d l mode) :
    ∃ loaded, (run s.loadAll d).1 = .ok loaded ∧
      ∀ r, r ∈ loaded ↔ ∃ name, (d.get? (l ++ [name])).isSome ∧ isRecordName name = true ∧
        Store.loadFile d (join s.dir name) = some r := by
  obtain ⟨entries, hd⟩ := h.directory
  refine ⟨_, h.run_loadAll hd, fun r => ?_⟩
  rw [Record.sortByAddress, List.mem_mergeSort, List.mem_filterMap]
  simp only [List.mem_filter, h.mem_names_iff hd, and_assoc]

end Lodged

/-- A directory that can be listed is the directory of its store. -/
theorem lodged_of_readDir {s : Store} {d : Disk} (sorted : d.Sorted)
    {entries : List (String × Node)} (listed : (run (readDir s.dir) d).1 = .ok entries) :
    ∃ l mode, s.Lodged d l mode ∧ d.get? l = some (.dir mode entries) := by
  unfold readDir at listed
  rw [run_bind] at listed
  rcases look_cases s.dir d with ⟨l, n, found, h⟩ | ⟨e, h⟩
  · rw [h] at listed
    obtain ⟨passed, leads, hn⟩ := finds_iff.1 found
    cases n with
    | dir mode es =>
      simp only [run_ite] at listed
      split at listed
      · next readable =>
        obtain rfl : es = entries := Except.ok.inj listed
        exact ⟨l, mode, ⟨sorted, passed, leads, ⟨es, hn.symm⟩, readable⟩, hn.symm⟩
      · cases listed
    | file bytes mode => cases listed
    | link target => cases listed
  · rw [h] at listed
    cases listed

/-! ## IDs with slashes

A slash in an ID makes its path lead on from an entry of the directory. As long as only files bear
names like that of a record, there is nowhere to go on to. -/

/-- The steps of a path to a record whose ID holds a slash: at least two of them, the first of which
begins like the name of a record. -/
theorem steps_path_of_slash {s : Store} (named : s.dir ≠ "") {id : String}
    (slash : '/' ∈ id.toList) : ∃ first next rest, first.startsWith "pup_" = true ∧
      steps (s.path id) = (parts s.dir).map String.ofList ++ first :: next :: rest := by
  obtain ⟨a, b, hid, noSlash⟩ := List.eq_append_cons_of_mem slash
  have toList : (fileName id).toList =
      (['p', 'u', 'p', '_'] ++ a) ++ '/' :: (b ++ ['.', 'j', 's', 'o', 'n']) := by
    rw [toList_fileName, hid]
    simp
  have relative : (fileName id).toList.head? ≠ some '/' := by
    rw [toList]
    simp
  have ends : (s.path id).endsWith "/" = false := by
    rw [Bool.eq_false_iff]
    intro ends
    obtain ⟨front, he⟩ := (endsWith_slash_iff _).1 ends
    obtain ⟨front', hj, -⟩ := toList_join_relative named relative
    have last := congrArg List.getLast? (hj.symm.trans he)
    rw [toList] at last
    simp [List.getLast?_append, List.getLast?_cons] at last
  have last : 'n' ∈ b ++ ['.', 'j', 's', 'o', 'n'] := by simp
  obtain ⟨p, hp, member⟩ := exists_mem_split last (by decide)
  have more : p ∈ (split (b ++ ['.', 'j', 's', 'o', 'n'])).filter (· ≠ []) :=
    List.mem_filter.2 ⟨hp, by simpa using List.ne_nil_of_mem member⟩
  obtain ⟨next, rest, hrest⟩ := List.exists_cons_of_ne_nil (List.ne_nil_of_mem more)
  refine ⟨String.ofList (['p', 'u', 'p', '_'] ++ a), String.ofList next, rest.map String.ofList,
    ?_, ?_⟩
  · rw [String.startsWith_string_iff, String.toList_ofList, String.toList_ofList]
    exact List.prefix_append _ a
  · have first : split (['p', 'u', 'p', '_'] ++ a) = [['p', 'u', 'p', '_'] ++ a] :=
      split_of_noSlash (by simp [noSlash])
    have apart : parts (fileName id) = (['p', 'u', 'p', '_'] ++ a) :: next :: rest := by
      rw [parts, toList, split_append_slash, first, List.filter_append, hrest]
      rfl
    rw [steps_eq, ends, show parts (s.path id) = _ from parts_join_relative named relative, apart]
    simp

/-- What bears a name that begins like that of a record is a file. -/
def OnlyFiles (d : Disk) (l : Location) : Prop :=
  ∀ name n, name.startsWith "pup_" = true → d.get? (l ++ [name]) = some n → n.isFile = true

section Slashes

variable {s : Store} {d : Disk} {l : Location} {mode : Mode}

/-- The path of a record whose ID holds a slash leads nowhere. -/
theorem Lodged.not_finds_of_slash (h : s.Lodged d l mode) (files : OnlyFiles d l) {id : String}
    (slash : '/' ∈ id.toList) (k : Location) (x : Option Node) :
    ¬ Finds d false (s.path id) k x := by
  intro found
  obtain ⟨entries, hd⟩ := h.directory
  obtain ⟨-, leads, -⟩ := finds_iff.1 found
  obtain ⟨first, next, rest, start, steps_eq⟩ := steps_path_of_slash h.passed.nonempty slash
  have walked := leads.walk_eq
  obtain ⟨links, on⟩ := Leads.walk_append (reaches_of_leads h.leads) false
    (List.cons_ne_nil first (next :: rest))
  have name : first ≠ "." ∧ first ≠ ".." :=
    ⟨fun e => by simp [e] at start, fun e => by simp [e] at start⟩
  rw [steps_eq, on, walk_cons, hd] at walked
  simp only [name.1, name.2, if_false] at walked
  split at walked
  · cases walked
  split at walked
  · cases walked
  · rw [← get?_append_singleton hd] at walked
    cases there : d.get? (l ++ [first]) with
    | none =>
      rw [there] at walked
      simp at walked
    | some n =>
      have isFile := files first n start there
      cases n with
      | file bytes mode =>
        rw [there] at walked
        simp only [walk_cons, there] at walked
        cases walked
      | dir | link => cases isFile

/-- A record that was stored has no slash in its ID. -/
theorem Lodged.noSlash_of_saved (h : s.Lodged d l mode) (files : OnlyFiles d l) {r : Record}
    {breakdown : Option Breakdown} {d' : Disk}
    (saved : run (s.save r breakdown) d = (.ok (), d')) : '/' ∉ r.id.toList := by
  intro slash
  rcases s.save_cases h.sorted r breakdown with ⟨k, old, found, -⟩ | ⟨e, stopped⟩
  · exact h.not_finds_of_slash files slash k old found
  · rw [stopped] at saved
    cases saved

/-- A deletion under an ID that holds a slash changes nothing. -/
theorem Lodged.delete_of_slash (h : s.Lodged d l mode) (files : OnlyFiles d l) {id : String}
    (slash : '/' ∈ id.toList) : (run (s.delete id) d).2 = d := by
  rcases removeIfExists_cases (s.path id) d with ⟨k, n, found, -⟩ | ⟨-, unchanged⟩ | ⟨e, stopped⟩
  · exact absurd found (h.not_finds_of_slash files slash k (some n))
  · exact congrArg Prod.snd unchanged
  · exact congrArg Prod.snd stopped

end Slashes

/-! ## The records -/

/-- The file of a record. -/
def fileOf (r : Record) : Node := .file r.storedText.toUTF8 Mode.privateFile

/-- The file says the record. -/
theorem fileOf_injective {r r' : Record} (h : fileOf r = fileOf r') : r = r' := by
  have bytes : r.storedText.toUTF8 = r'.storedText.toUTF8 := (Node.file.inj h).1
  have decoded := r.decode_storedText
  rw [bytes, r'.decode_storedText] at decoded
  exact (Except.ok.inj decoded).symm

/-- The file of a record gives the record. -/
theorem Lodged.loadFile {s : Store} {d : Disk} {l : Location} {mode : Mode}
    (h : s.Lodged d l mode) {id : String} {r : Record}
    (fits : s.Fits mode id) (there : d.get? (l ++ [fileName id]) = some (fileOf r)) :
    Store.loadFile d (s.path id) = some r := by
  have noLink : ∀ target, d.get? (l ++ [fileName id]) ≠ some (.link target) := by
    rw [there]
    exact fun target e => by cases e
  have found : Finds d true (s.path id) _ _ := h.finds fits fun _ => noLink
  rw [there] at found
  have read : (run (readBytes (s.path id)) d).1 = .ok r.storedText.toUTF8 := by
    unfold readBytes
    rw [run_bind, run_look found]
    rfl
  unfold Store.loadFile
  rw [read]
  simp only [r.decode_storedText]
  rfl

/-- **A directory of records is loaded as these records**, in the order of their addresses. -/
theorem Lodged.loadAll_files {s : Store} {d : Disk} {l : Location} {mode : Mode}
    (h : s.Lodged d l mode) {records : List Record}
    (hd : d.get? l = some (.dir mode (records.map fun r => (fileName r.id, fileOf r))))
    (single : (records.map (·.id)).Nodup) (fits : ∀ r ∈ records, s.Fits mode r.id) :
    (run s.loadAll d).1 = .ok (Record.sortByAddress records) := by
  have found : ∀ r ∈ records, Store.loadFile d (join s.dir (fileName r.id)) = some r := by
    intro r member
    refine h.loadFile (fits r member) ?_
    rw [get?_append_singleton hd, List.lookup_eq_some_iff]
    obtain ⟨before, later, rfl⟩ := List.append_of_mem member
    refine ⟨_, _, by rw [List.map_append, List.map_cons], fun p hp => ?_⟩
    obtain ⟨a, ha, rfl⟩ := List.mem_map.1 hp
    rw [bne_iff_ne]
    intro same
    rw [List.map_append, List.map_cons, List.nodup_append] at single
    exact single.2.2 a.id (List.mem_map_of_mem ha) r.id List.mem_cons_self
      (fileName_injective same).symm
  have names : ((records.map fun r => (fileName r.id, fileOf r)).map (·.1)).filter isRecordName =
      records.map fun r => fileName r.id := by
    rw [List.map_map, List.filter_eq_self.2]
    · rfl
    · intro name hname
      obtain ⟨r, -, rfl⟩ := List.mem_map.1 hname
      exact isRecordName_fileName r.id
  have loaded : (records.filterMap fun r => Store.loadFile d (join s.dir (fileName r.id))) =
      records := (List.filterMap_congr found).trans List.filterMap_some
  rw [h.run_loadAll hd, names, List.filterMap_map]
  exact congrArg (fun l => Except.ok (Record.sortByAddress l)) loaded

/-- The store holds these records, up to their flags, and no other ones. -/
structure Holds (s : Store) (d : Disk) (l : Location) (mode : Mode) (records : Dict Record) : Prop
    extends s.Lodged d l mode where
  stored : ∀ id r, records.get? id = some r → s.Fits mode id ∧
    ∃ r', r'.bare = r.bare ∧ d.get? (l ++ [fileName id]) = some (fileOf r')
  known : ∀ name n, isRecordName name = true → d.get? (l ++ [name]) = some n →
    ∃ id, name = fileName id ∧ (records.get? id).isSome

/-- A directory in which nothing would be taken for a record holds none. -/
theorem holds_empty {s : Store} {d : Disk} (sorted : d.Sorted) {entries : List (String × Node)}
    (listed : (run (readDir s.dir) d).1 = .ok entries)
    (unnamed : ∀ e ∈ entries, isRecordName e.1 = false) : ∃ l mode, s.Holds d l mode ∅ := by
  obtain ⟨l, mode, lodged, hd⟩ := lodged_of_readDir sorted listed
  refine ⟨l, mode, lodged, fun id r found => (nomatch found), fun name n isName there => ?_⟩
  rw [get?_append_singleton hd] at there
  obtain ⟨before, later, rfl, -⟩ := List.lookup_eq_some_iff.1 there
  have noName := unnamed (name, n) (by simp)
  rw [isName] at noName
  cases noName

namespace Holds

variable {s : Store} {d d' : Disk} {l : Location} {mode : Mode} {records : Dict Record}

/-- What a store holds does not depend on the flags. -/
theorem congr {records' : Dict Record} (h : s.Holds d l mode records)
    (same : ∀ k, (records'.get? k).map Record.bare = (records.get? k).map Record.bare) :
    s.Holds d l mode records' := by
  refine ⟨h.toLodged, fun id r' found => ?_, fun name n isName there => ?_⟩
  · have bare := same id
    rw [found] at bare
    obtain ⟨r, hr, bare⟩ := Option.map_eq_some_iff.1 bare.symm
    obtain ⟨fits, file, bare', there⟩ := h.stored id r hr
    exact ⟨fits, file, bare'.trans bare, there⟩
  · obtain ⟨id, hname, installed⟩ := h.known name n isName there
    refine ⟨id, hname, ?_⟩
    have bare := congrArg Option.isSome (same id)
    rwa [Option.isSome_map, Option.isSome_map, installed] at bare

/-- What would be taken for a record is a file. -/
theorem isFile (h : s.Holds d l mode records) {id : String} {n : Node}
    (there : d.get? (l ++ [fileName id]) = some n) : n.isFile = true := by
  obtain ⟨id', hname, installed⟩ := h.known _ n (isRecordName_fileName id) there
  obtain ⟨r, hr⟩ := Option.isSome_iff_exists.1 installed
  obtain ⟨-, r', -, there'⟩ := h.stored id' r hr
  rw [hname, there'] at there
  obtain rfl := Option.some.inj there
  rfl

/-- **Storing a record puts it into the set.** -/
theorem save (h : s.Holds d l mode records) {r : Record} (noSlash : '/' ∉ r.id.toList)
    {breakdown : Option Breakdown} (saved : run (s.save r breakdown) d = (.ok (), d')) :
    s.Holds d' l mode (records.insert r.id r) := by
  rcases s.save_cases h.sorted r breakdown with ⟨k, old, found, -, writable, hs⟩ | ⟨e, hs⟩
  · obtain ⟨rfl, fits⟩ := h.fits noSlash found writable
    obtain rfl : _ = d' := congrArg Prod.snd (hs.symm.trans saved)
    have beside := sameBeside_set d (l ++ [fileName r.id]) (fileOf r)
    have there := (writable.housed).get?_set (by simp) (fileOf r)
    refine ⟨h.toLodged.beside (fun n => h.isFile) beside (h.sorted.set (sorted_file _ _) _),
      fun id s' found' => ?_, fun name n isName there' => ?_⟩
    · rw [Dict.get?_insert] at found'
      by_cases same : id = r.id
      · subst same
        rw [if_pos rfl] at found'
        obtain rfl := Option.some.inj found'
        exact ⟨fits, r, rfl, there⟩
      · rw [if_neg same] at found'
        obtain ⟨fits', file, bare, there'⟩ := h.stored id s' found'
        refine ⟨fits', file, bare, ?_⟩
        exact (beside.other_entry fun e => same (fileName_injective e)).trans there'
    · by_cases same : name = fileName r.id
      · exact ⟨r.id, same, by rw [Dict.get?_insert, if_pos rfl]; rfl⟩
      · have there' := (beside.other_entry same).symm.trans there'
        obtain ⟨id, rfl, installed⟩ := h.known name n isName there'
        refine ⟨id, rfl, ?_⟩
        rw [Dict.get?_insert, if_neg fun e => same (congrArg fileName e)]
        exact installed
  · rw [hs] at saved
    cases saved

/-- **Deleting a record takes it out of the set.** -/
theorem delete (h : s.Holds d l mode records) {id : String}
    (installed : (records.get? id).isSome) :
    ∃ d', run (s.delete id) d = (.ok (), d') ∧ s.Holds d' l mode (records.erase id) := by
  obtain ⟨r, hr⟩ := Option.isSome_iff_exists.1 installed
  obtain ⟨fits, r', -, there⟩ := h.stored id r hr
  have found : Finds d false (s.path id) _ _ := h.finds fits fun e => by cases e
  rw [there] at found
  refine ⟨_, run_removeIfExists found rfl (h.writable fits), ?_⟩
  have beside := sameBeside_erase d (l ++ [fileName id])
  have gone : (d.erase (l ++ [fileName id])).get? (l ++ [fileName id]) = none :=
    get?_erase_self d (by simp)
  refine ⟨h.toLodged.beside (fun n => h.isFile) beside (h.sorted.erase _),
    fun id' s' found' => ?_, fun name n isName there' => ?_⟩
  · rw [Dict.get?_erase] at found'
    split at found'
    · cases found'
    · next other =>
      obtain ⟨fits', file, bare, there'⟩ := h.stored id' s' found'
      refine ⟨fits', file, bare, ?_⟩
      exact (beside.other_entry fun e => other (fileName_injective e)).trans there'
  · by_cases same : name = fileName id
    · subst same
      rw [gone] at there'
      cases there'
    · have there' := (beside.other_entry same).symm.trans there'
      obtain ⟨id', rfl, installed'⟩ := h.known name n isName there'
      refine ⟨id', rfl, ?_⟩
      rw [Dict.get?_erase, if_neg fun e => same (congrArg fileName e)]
      exact installed'

/-! ## Loading -/

/-- **Loading gives the records back**, up to their flags, and no two under one ID. -/
theorem loadAll (h : s.Holds d l mode records)
    (keyed : ∀ k r, records.get? k = some r → r.id = k) :
    ∃ loaded, (run s.loadAll d).1 = .ok loaded ∧
      (∀ a ∈ loaded, ∀ b ∈ loaded, a.id = b.id → a = b) ∧
      (∀ id r, records.get? id = some r → ∃ r' ∈ loaded, r'.bare = r.bare) ∧
      ∀ r' ∈ loaded, ∃ r, records.get? r'.id = some r ∧ r'.bare = r.bare := by
  obtain ⟨loaded, all, mem⟩ := h.toLodged.mem_loadAll
  have origin : ∀ r' ∈ loaded, ∃ r, records.get? r'.id = some r ∧ r'.bare = r.bare ∧
      d.get? (l ++ [fileName r'.id]) = some (fileOf r') := by
    intro r' member
    obtain ⟨name, present, isName, file⟩ := (mem r').1 member
    obtain ⟨n, there⟩ := Option.isSome_iff_exists.1 present
    obtain ⟨id, rfl, installed⟩ := h.known name n isName there
    obtain ⟨r, hr⟩ := Option.isSome_iff_exists.1 installed
    obtain ⟨fits, r'', bare, there'⟩ := h.stored id r hr
    obtain rfl : r'' = r' := Option.some.inj ((h.toLodged.loadFile fits there').symm.trans file)
    have sameId : r''.id = id := (congrArg Record.id bare).trans (keyed id r hr)
    exact ⟨r, sameId ▸ hr, bare, sameId ▸ there'⟩
  refine ⟨loaded, all, fun a ha b hb same => ?_, fun id r hr => ?_, fun r' member => ?_⟩
  · obtain ⟨-, -, -, fileA⟩ := origin a ha
    obtain ⟨-, -, -, fileB⟩ := origin b hb
    rw [same, fileB] at fileA
    exact (fileOf_injective (Option.some.inj fileA)).symm
  · obtain ⟨fits, r', bare, there⟩ := h.stored id r hr
    exact ⟨r', (mem r').2 ⟨fileName id, by rw [there]; rfl, isRecordName_fileName id,
      h.toLodged.loadFile fits there⟩, bare⟩
  · obtain ⟨r, hr, bare, -⟩ := origin r' member
    exact ⟨r, hr, bare⟩

end Holds

end Kennel.Store
