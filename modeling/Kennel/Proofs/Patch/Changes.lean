import Kennel.Patch.Run
import Kennel.Proofs.Disk.Copied
import Kennel.Proofs.Patch.Site

/-!
# Changes of the live directory

A change puts one file in a directory whole, or removes it (`PatchOp.edit`), and of changes in order the
last one about a file counts (`PatchOp.get?_editAll`). **Made on a disk, a change edits the live directory
and touches nothing else, or it is refused and changes nothing** (`PatchSite.Working.perform_cases`),
whatever the device refuses.
-/

namespace Kennel

open Node Disk Path

/-- The ID of the pup whose file a change is about. -/
def PatchOp.pupId? : PatchOp → Option String
  | writePup id _ => some id
  | removePup id => some id
  | _ => none

/-- A change is about a file of the directory, if the ID of the pup has no slash. -/
theorem PatchOp.plain_fileName {op : PatchOp} (noSlash : ∀ id, op.pupId? = some id → '/' ∉ id.toList) :
    Plain op.fileName := by
  have pup (id : String) (h : '/' ∉ id.toList) : Plain (Nix.pupFileName id) := by
    have text : (Nix.pupFileName id).toList = 'p' :: 'u' :: 'p' :: '_' :: id.toList ++ ".nix".toList := by
      simp [Nix.pupFileName]
    refine ⟨?_, ?_, ?_, ?_⟩
    · intro e
      simp [e] at text
    · rw [text]
      simp [h]
    · intro e
      simp [e] at text
    · intro e
      simp [e] at text
  cases op with
  | writePup id contents => exact pup id (noSlash id rfl)
  | removePup id => exact pup id (noSlash id rfl)
  | writeNetwork _ =>
    exact (⟨by decide, by decide, by decide, by decide⟩ : Plain "network.nix")
  | writeFirewall _ =>
    exact (⟨by decide, by decide, by decide, by decide⟩ : Plain "firewall.nix")
  | writeContainers _ =>
    exact (⟨by decide, by decide, by decide, by decide⟩ : Plain "system_container.nix")

/-! ## Changes -/

/-- What a change makes of a directory: one file of it is put there whole, or it is removed. -/
def PatchOp.edit (op : PatchOp) (n : Node) : Node :=
  match op.contents? with
  | some contents => n.set [op.fileName] (.file contents.toUTF8 Mode.privateFile)
  | none => n.erase [op.fileName]

/-- What changes in order make of a directory. -/
def PatchOp.editAll (ops : List PatchOp) (n : Node) : Node := ops.foldl (fun n op => op.edit n) n

namespace PatchOp

/-- A directory stays one when it is edited. -/
theorem isDir_edit (op : PatchOp) {n : Node} (directory : n.isDir = true) : (op.edit n).isDir = true := by
  cases n with
  | file | link => cases directory
  | dir mode entries =>
    unfold edit
    cases op.contents? <;> rfl

/-- **A change is about one entry**: it is the file that the change makes, and every other entry is
what it was. -/
theorem get?_edit (op : PatchOp) {n : Node} (directory : n.isDir = true) (name : String) :
    (op.edit n).get? [name] =
      if name = op.fileName then op.contents?.map fun c => .file c.toUTF8 Mode.privateFile
      else n.get? [name] := by
  cases n with
  | file | link => cases directory
  | dir mode entries =>
    have entry : ∀ es : List (String × Node), (dir mode es).get? [name] = es.lookup name := fun es =>
      get?_append_singleton (get?_nil (dir mode es)) name
    unfold edit
    cases op.contents? with
    | some contents =>
      exact (entry _).trans ((lookup_putEntry _ _ _ _).trans (by rw [entry]; rfl))
    | none =>
      exact (entry _).trans ((lookup_dropEntry _ _ _).trans (by rw [entry]; rfl))

/-- No changes leave everything as it is. -/
theorem map_editAll_nil (x : Option Node) : x.map (editAll []) = x := congrFun Option.map_id x

/-- **The last change of a file wins**, and every entry that no change is about is what it was. -/
theorem get?_editAll (ops : List PatchOp) {n : Node} (directory : n.isDir = true) (name : String) :
    (editAll ops n).get? [name] =
      match (ops.filter fun op => op.fileName = name).getLast? with
      | some op => op.contents?.map fun c => .file c.toUTF8 Mode.privateFile
      | none => n.get? [name] := by
  induction ops generalizing n with
  | nil => rfl
  | cons op ops ih =>
    refine (ih (op.isDir_edit directory)).trans ?_
    rw [op.get?_edit directory]
    by_cases about : op.fileName = name
    · rw [List.filter_cons_of_pos (by simpa using about), List.getLast?_cons, if_pos about.symm]
      cases (ops.filter fun op => op.fileName = name).getLast? <;> rfl
    · rw [List.filter_cons_of_neg (by simpa using about), if_neg fun same => about same.symm]

/-- A directory that is edited by changes in order stays one, with its permissions. -/
theorem editAll_dir (ops : List PatchOp) (mode : Mode) (entries : List (String × Node)) :
    ∃ entries', editAll ops (dir mode entries) = dir mode entries' := by
  induction ops generalizing entries with
  | nil => exact ⟨entries, rfl⟩
  | cons op ops ih =>
    show ∃ entries', editAll ops (op.edit (dir mode entries)) = dir mode entries'
    unfold edit
    cases op.contents? <;> exact ih _

/-- A change makes of a copy a copy of what it makes of the directory. -/
theorem edit_copied (op : PatchOp) (n : Node) : op.edit n.copied = (op.edit n).copied := by
  unfold edit
  cases op.contents? with
  | some contents =>
    have same : (Node.file contents.toUTF8 Mode.privateFile).copied =
        .file contents.toUTF8 Mode.privateFile := by
      rw [copied, Mode.afterWriting_privateFile]
    have h := set_copied n op.fileName (.file contents.toUTF8 Mode.privateFile)
    rwa [same] at h
  | none => exact erase_copied n op.fileName

theorem editAll_copied (ops : List PatchOp) (n : Node) :
    editAll ops n.copied = (editAll ops n).copied := by
  induction ops generalizing n with
  | nil => rfl
  | cons op ops ih =>
    show editAll ops (op.edit n.copied) = _
    rw [edit_copied, ih]
    rfl

end PatchOp

/-! ## Changes on a disk -/

/-- A disk on which changes are made: only the live directory differs from the disk at hand when the
snapshot was complete. -/
structure PatchSite.Working (live : Location) (d e : Disk) : Prop where
  beside : SameBeside live d e
  sorted : e.Sorted
  directory : ∃ mode entries, e.get? live = some (.dir mode entries)

namespace PatchSite.Working

variable {site : PatchSite} {follow : Bool} {d e : Disk} {live root : Location}

/-- A change of one entry of the live directory. -/
theorem entry {e' : Disk} (work : Working live d e) {name : String}
    (change : SameBeside (live ++ [name]) e e') (sorted : e'.Sorted) : Working live d e' := by
  obtain ⟨mode, entries, hd⟩ := work.directory
  obtain ⟨entries', h⟩ := change.get?_eq_dir (entry_not_above live name) hd
  exact ⟨work.beside.trans change.widen, sorted, mode, entries', h⟩

/-- A path into the live directory leads to its entry. -/
theorem eq_of_finds (work : Working live d e) (placed : site.Placed follow d live root) {name : String}
    (plain : Plain name) {l : Location} {x : Option Node}
    (found : Finds e false (join site.configDir name) l x) : l = live ++ [name] := by
  obtain ⟨mode, entries, hd⟩ := work.directory
  exact ((placed.reaches_following work.beside (by simp [hd])).finds_join placed.configDir_ne_empty
    plain hd (fun h => by cases h) found).2.2.1

/-- The directories around a file of the live directory are there already. -/
theorem makeDirs_around (work : Working live d e) (placed : site.Placed follow d live root) {name : String}
    (plain : Plain name) (faults : Faults) :
    (run (makeDirs ((parent? (join site.configDir name)).getD ".") faults) e).2 = e := by
  obtain ⟨mode, entries, hd⟩ := work.directory
  rw [parent?_join placed.configDir_ne_empty plain, Option.getD_some]
  obtain ⟨dotless, same⟩ := around_eq placed.parts_ne_nil
  have leads := Leads.dotless (placed.reaches_following work.beside (by simp [hd])) dotless
  obtain ⟨l, leads', present⟩ := leads.unfollowing (by simp [hd])
  exact makeDirs_present (by rw [same]; exact leads') present faults

/-- Where nothing is found by a path into the live directory, there is no entry. -/
theorem entry_absent (work : Working live d e) (placed : site.Placed follow d live root) {name : String}
    (plain : Plain name) (missing : Missing e (join site.configDir name)) :
    e.get? (live ++ [name]) = none := by
  obtain ⟨mode, entries, hd⟩ := work.directory
  rcases missing with refused | ⟨l, found⟩
  · have walked := walk_join (placed.reaches_following work.beside (by simp [hd]))
      placed.configDir_ne_empty plain hd fun (h : false = true) => by cases h
    rcases place_error refused (join_ne_empty placed.configDir_ne_empty plain) with
      h | h | ⟨s, h, walked'⟩
    · cases h
    · cases h
    · cases h
      rw [walked] at walked'
      split at walked'
      · cases walked'
      · split at walked' <;> cases walked'
  · have here := (finds_iff.1 found).2.2
    rw [work.eq_of_finds placed plain found] at here
    exact here.symm

/-- **A change is made in the live directory alone, or nothing is changed.** -/
theorem perform_cases (work : Working live d e) (placed : site.Placed follow d live root) {op : PatchOp}
    (plain : Plain op.fileName) (faults : Faults) :
    (∃ e', run (op.perform site.configDir faults) e = (.ok (), e') ∧ Working live d e' ∧
        e'.get? live = (e.get? live).map op.edit) ∨
      ∃ err, run (op.perform site.configDir faults) e = (.error err, e) := by
  have named : [op.fileName] ≠ [] := List.cons_ne_nil _ _
  unfold PatchOp.perform
  cases wanted : op.contents? with
  | some contents =>
    have edit : op.edit = fun n => n.set [op.fileName] (.file contents.toUTF8 Mode.privateFile) := by
      funext n
      rw [PatchOp.edit, wanted]
    rw [edit]
    unfold writeAtomic
    simp only [run_bind]
    have around := work.makeDirs_around placed plain faults
    rcases h : run (makeDirs ((parent? (join site.configDir op.fileName)).getD ".") faults) e with
      ⟨err | _, after⟩ <;> rw [h] at around <;> obtain rfl : after = e := around
    · exact .inr ⟨err, rfl⟩
    · simp only
      rcases replaceFile_cases work.sorted ((parent? (join site.configDir op.fileName)).getD ".")
        (join site.configDir op.fileName) contents.toUTF8
        (faults.breakdown (join site.configDir op.fileName)) with ⟨l, old, found, -, -, h⟩ | ⟨err, h⟩
      · obtain rfl := work.eq_of_finds placed plain found
        exact .inl ⟨_, h, work.entry (sameBeside_set _ _ _) (work.sorted.set (sorted_file _ _) _),
          get?_set_append _ _ named _⟩
      · exact .inr ⟨err, h⟩
  | none =>
    have edit : op.edit = fun n => n.erase [op.fileName] := by
      funext n
      rw [PatchOp.edit, wanted]
    rw [edit]
    rcases removeIfExists_cases (join site.configDir op.fileName) e faults with
      ⟨l, n, found, -, -, h⟩ | ⟨missing, h⟩ | ⟨err, h⟩
    · obtain rfl := work.eq_of_finds placed plain found
      exact .inl ⟨_, h, work.entry (sameBeside_erase _ _) (work.sorted.erase _),
        get?_erase_append _ _ named⟩
    · refine .inl ⟨_, h, work, ?_⟩
      obtain ⟨mode, entries, hd⟩ := work.directory
      have absent := work.entry_absent placed plain missing
      rw [get?_append, hd, Option.bind_some] at absent
      rw [hd, Option.map_some, erase_absent absent]
    · exact .inr ⟨err, h⟩

/-- **All changes stay in the live directory, up to one that fails**, and when none fails they are
made in order. -/
theorem performAll (work : Working live d e) (placed : site.Placed follow d live root) (hazards : Hazards)
    (index : Nat) {ops : List PatchOp} (plain : ∀ op ∈ ops, Plain op.fileName) :
    Working live d (Run.performAll hazards site.configDir index e ops).2 ∧
      ((Run.performAll hazards site.configDir index e ops).1 = .ok () →
        (Run.performAll hazards site.configDir index e ops).2.get? live =
          (e.get? live).map (PatchOp.editAll ops)) := by
  induction ops generalizing e index with
  | nil => exact ⟨work, fun _ => (congrFun Option.map_id _).symm⟩
  | cons op ops ih =>
    unfold Run.performAll
    rcases work.perform_cases placed (plain op List.mem_cons_self) (hazards.change index) with
      ⟨e', h, next, edited⟩ | ⟨err, h⟩
    · rw [h]
      obtain ⟨last, all⟩ := ih next (index + 1) fun op hop => plain op (List.mem_cons_of_mem _ hop)
      refine ⟨last, fun done => ?_⟩
      rw [all done, edited, Option.map_map]
      rfl
    · rw [h]
      exact ⟨work, fun done => by cases done⟩

end PatchSite.Working

end Kennel
