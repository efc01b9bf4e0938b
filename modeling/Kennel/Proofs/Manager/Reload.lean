import Kennel.Proofs.Manager.Failure
import Kennel.Proofs.Manager.Health
import Kennel.Proofs.Store.Contents

/-!
# Reloading

A manager that starts on the directory of another one lists the same pups as that one does. This
needs no record to be written when only its flags change: the flags are found anew when records are
loaded, and they follow from the rest.

The invariant between two steps (`Manager.Backed`) is that the store holds the records of the
registry up to their flags, and that each record in the registry bears its verdict. **Every step
keeps it** (`Manager.Backed.step`), and whoever loads in such a state finds the same records
(`Manager.Backed.reload`).

A purge leaves the stored record behind, so a step that purges a pup deletes its record as well.
-/

namespace Kennel

namespace Call

/-- A new pup gets an ID without a slash, as one of hexadecimal digits is, whatever IDs are in use. -/
def PicksNoSlash : Call → Prop
  | adopt ids _ _ _ => ∀ used, '/' ∉ (ids.pick used).toList
  | _ => True

/-- The disk after the stored record of a purged pup was deleted. -/
def cleanUp (store : Store) : Call → Except ManagerError Answer → Disk → Disk
  | purge id, .ok _, d => (Disk.run (store.delete id) d).2
  | _, _, d => d

/-- Makes a call and cleans up after it. -/
def runStored (m : Manager) (d : Disk) (c : Call) : Manager × Disk :=
  ((c.run m d).2.1, c.cleanUp m.store (c.run m d).1 (c.run m d).2.2)

/-- Takes steps one after another. -/
def runAllStored (m : Manager) (d : Disk) (calls : List Call) : Manager × Disk :=
  calls.foldl (fun s c => c.runStored s.1 s.2) (m, d)

/-- There is nothing to clean up after a call that failed. -/
theorem cleanUp_error (store : Store) (c : Call) (e : ManagerError) (d : Disk) :
    c.cleanUp store (.error e) d = d := by
  cases c <;> rfl

theorem cleanUp_idle (store : Store) {c : Call} (idle : c.isChange = false)
    (answer : Except ManagerError Answer) (d : Disk) : c.cleanUp store answer d = d := by
  cases c with
  | adopt | update | purge => cases idle
  | _ => rfl

end Call

/-- **Who loads finds the records that the store holds**, up to their flags. -/
theorem Store.Holds.load {s : Store} {d : Disk} {l : Location} {mode : Mode} {records : Dict Record}
    (h : s.Holds d l mode records) (keyed : ∀ k r, records.get? k = some r → r.id = k)
    (settings : ManagerSettings) (catalogs : CatalogSource) (monitor : Option Monitor) :
    ∃ m, Manager.load settings s catalogs monitor d = .ok m ∧ m.settings = settings ∧ m.store = s ∧
      m.registry.Indexed ∧ m.registry.Fresh ∧
      ∀ k, (m.registry.records.get? k).map Record.bare = (records.get? k).map Record.bare := by
  obtain ⟨loaded, all, single, complete, sound⟩ := h.loadAll keyed
  refine ⟨_, by rw [Manager.load, all], rfl, rfl, Registry.indexed_ofRecords _ _ _,
    Registry.fresh_refreshHealth _, fun k => ?_⟩
  have found := Registry.get?_ofList_ids single fun r => r
  refine (Registry.bare_refreshHealth _ k).trans ?_
  refine Option.ext fun b => ?_
  simp only [Option.map_eq_some_iff]
  constructor
  · rintro ⟨r', hr', rfl⟩
    obtain ⟨r', member, rfl, rfl⟩ := (found k r').1 hr'
    obtain ⟨r, hr, bare⟩ := sound r' member
    exact ⟨r, hr, bare.symm⟩
  · rintro ⟨r, hr, rfl⟩
    obtain ⟨r', member, bare⟩ := complete k r hr
    have sameId : r'.id = k := (congrArg Record.id bare).trans (keyed k r hr)
    exact ⟨r', (found k r').2 ⟨r', member, sameId, rfl⟩, bare⟩

namespace Manager

/-- The store, whose directory is at `l`, holds what the registry does, and every record of the
registry bears its verdict. -/
structure Backed (m : Manager) (d : Disk) (l : Location) (mode : Mode) : Prop where
  indexed : m.registry.Indexed
  fresh : m.registry.Fresh
  holds : m.store.Holds d l mode m.registry.records

namespace Backed

variable {m : Manager} {d : Disk} {l : Location} {mode : Mode}

/-- An adoption stores the record that it puts in. -/
theorem adopt (h : m.Backed d l mode) {ids : IdSource} {manifest : Manifest} {source : Source}
    {breakdown : Option Disk.Breakdown} (picks : ∀ used, '/' ∉ (ids.pick used).toList) {r : Record}
    {d' : Disk} (planned : m.registry.planAdoption ids manifest source = .ok r)
    (saved : Disk.run (m.store.save r breakdown) d = (.ok (), d')) (bufferSize : Nat) :
    m.store.Holds d' l mode (m.registry.commitAdoption bufferSize r).records := by
  obtain ⟨-, -, address, ports, -, -, rfl⟩ := Registry.planAdoption_ok planned
  exact (h.holds.save (picks m.registry.records.keys) saved).congr (Registry.bare_refreshHealth _)

/-- An update stores the record that it puts in, where the old one was. -/
theorem update (h : m.Backed d l mode) {id : String} {updates : List Update}
    {kinds : List NoticeKind} {breakdown : Option Disk.Breakdown} {r : Record} {d' : Disk}
    (planned : m.registry.planUpdate id updates = .ok (r, kinds))
    (saved : Disk.run (m.store.save r breakdown) d = (.ok (), d')) :
    m.store.Holds d' l mode (m.registry.commitUpdate r).records := by
  obtain ⟨old, found, kept⟩ := Registry.kept_planUpdate planned
  obtain ⟨fits, -⟩ := h.holds.stored id old found
  have sameId : r.id = id := kept.id.trans (h.indexed.keyed id old found)
  have noSlash : '/' ∉ r.id.toList := sameId ▸ fits.noSlash
  exact (h.holds.save noSlash saved).congr (Registry.bare_refreshHealth _)

/-- **Every step keeps the manager backed by its store.** -/
theorem step (h : m.Backed d l mode) {c : Call} (picks : c.PicksNoSlash)
    {answer : Except ManagerError Answer} {m' : Manager} {d' : Disk}
    (outcome : Call.Outcome m d c answer m' d') :
    m'.Backed (c.cleanUp m.store answer d') l mode := by
  have indexed := outcome.effect.indexed h.indexed
  have fresh := h.fresh.step outcome.effect
  refine ⟨indexed, fresh, ?_⟩
  rw [outcome.settings.2]
  cases outcome with
  | refused c e =>
    rw [Call.cleanUp_error]
    exact h.holds
  | unsaved c e stopped =>
    rw [Call.cleanUp_error, Store.eq_of_save_error h.holds.sorted stopped]
    exact h.holds
  | adopted planned saved => exact h.adopt picks planned saved m.settings.bufferSize
  | updated planned saved =>
    rw [Manager.registry_announceKinds]
    exact h.update planned saved
  | @purged id g purged =>
    obtain ⟨installed, rfl⟩ := Registry.purge_ok purged
    obtain ⟨d', deleted, holds⟩ := h.holds.delete installed
    show m.store.Holds (Disk.run (m.store.delete id) d).2 l mode _
    rw [deleted]
    exact holds.congr (Registry.bare_refreshHealth _)
  | ingested sample slow =>
    obtain ⟨seen, seenEq, records, -⟩ := Registry.ingest_eq m.registry sample slow
    show m.store.Holds d l mode (m.registry.ingest sample slow).records
    rw [seenEq]
    exact h.holds.congr fun k => by rw [Registry.bare_refreshHealth, records]
  | recorded recorded =>
    show m.store.Holds d l mode _
    rw [(Registry.recordMetrics_ok recorded).1]
    exact h.holds
  | attended idle =>
    rw [Call.cleanUp_idle _ idle]
    exact h.holds

/-- **Who loads finds the records of the running manager**, with their flags. -/
theorem reload (h : m.Backed d l mode) (catalogs : CatalogSource) (monitor : Option Monitor) :
    ∃ m', Manager.load m.settings m.store catalogs monitor d = .ok m' ∧
      m'.registry.records = m.registry.records := by
  obtain ⟨m', loaded, -, -, indexed, fresh, same⟩ :=
    h.holds.load h.indexed.keyed m.settings catalogs monitor
  exact ⟨m', loaded, Registry.records_eq_of_bare indexed h.indexed fresh h.fresh same⟩

/-- A manager that starts on a directory without records is backed by it. -/
theorem start (settings : ManagerSettings) {store : Store} {d : Disk}
    (holds : store.Holds d l mode ∅) (catalogs : CatalogSource) (monitor : Option Monitor) :
    ∃ m, Manager.load settings store catalogs monitor d = .ok m ∧ m.settings = settings ∧
      m.store = store ∧ m.Backed d l mode := by
  obtain ⟨m, loaded, hs, rfl, indexed, fresh, same⟩ :=
    holds.load (fun k r found => by cases found) settings catalogs monitor
  exact ⟨m, loaded, hs, rfl, indexed, fresh, holds.congr same⟩

/-- **Every sequence of steps keeps the manager backed by its store.** -/
theorem steps (h : m.Backed d l mode) (calls : List Call) (picks : ∀ c ∈ calls, c.PicksNoSlash) :
    (Call.runAllStored m d calls).1.Backed (Call.runAllStored m d calls).2 l mode ∧
      (Call.runAllStored m d calls).1.settings = m.settings ∧
      (Call.runAllStored m d calls).1.store = m.store := by
  induction calls generalizing m d with
  | nil => exact ⟨h, rfl, rfl⟩
  | cons c calls ih =>
    have next := h.step (picks c List.mem_cons_self) (c.outcome m d)
    obtain ⟨backed, settings, store⟩ := ih next fun c hc => picks c (List.mem_cons_of_mem _ hc)
    have same := (c.outcome m d).settings
    exact ⟨backed, settings.trans same.1, store.trans same.2⟩

end Backed

end Manager

/-- **Nothing is lost between two steps.** A manager that starts on a directory without records can
take any steps, of which any can fail; whoever loads from the same directory afterwards, with the same
settings, lists the same pups as the running manager does, down to the flags of each record. -/
theorem reload_after_steps (settings : ManagerSettings) (store : Store) (catalogs : CatalogSource)
    (monitor : Option Monitor) {d : Disk} (sorted : d.Sorted) {entries : List (String × Disk)}
    (listed : (Disk.run (Disk.readDir store.dir) d).1 = .ok entries)
    (unnamed : ∀ e ∈ entries, Store.isRecordName e.1 = false) :
    ∃ m, Manager.load settings store catalogs monitor d = .ok m ∧
      ∀ calls : List Call, (∀ c ∈ calls, c.PicksNoSlash) →
        ∀ (catalogs' : CatalogSource) (monitor' : Option Monitor), ∃ m',
          Manager.load settings store catalogs' monitor' (Call.runAllStored m d calls).2 = .ok m' ∧
            m'.registry.list = (Call.runAllStored m d calls).1.registry.list := by
  obtain ⟨l, mode, holds⟩ := Store.holds_empty sorted listed unnamed
  obtain ⟨m, started, rfl, rfl, backed⟩ :=
    Manager.Backed.start settings holds catalogs monitor
  refine ⟨m, started, fun calls picks catalogs' monitor' => ?_⟩
  obtain ⟨backed, settings, store⟩ := backed.steps calls picks
  obtain ⟨m', loaded, records⟩ := backed.reload catalogs' monitor'
  rw [settings, store] at loaded
  exact ⟨m', loaded, by rw [Registry.list, records, Registry.list]⟩

/-- The draws that count upwards are numbers. -/
theorem IdSource.isDigit_numbersFrom {start : Nat} {used : List String} {c : Char}
    (h : c ∈ ((numbersFrom start).pick used).toList) : c.isDigit = true := by
  change c ∈ (firstUnused (fun i => toString (start + i)) used).toList at h
  unfold firstUnused at h
  cases found : ((List.range (used.length + 1)).map fun i => toString (start + i)).find?
      (!used.contains ·) with
  | none =>
    rw [found] at h
    cases h
  | some id =>
    obtain ⟨i, -, rfl⟩ := List.mem_map.1 (List.mem_of_find?_eq_some found)
    rw [found, Option.getD_some, Nat.toString_eq_ofList_toDigits, String.toList_ofList] at h
    exact Nat.isDigit_of_mem_toDigits (by decide) (by decide) h

theorem IdSource.noSlash_numbersFrom (start : Nat) (used : List String) :
    '/' ∉ ((numbersFrom start).pick used).toList := fun slash => by
  cases isDigit_numbersFrom slash

/-- A pup gets a provider, and the provider is purged. -/
def lostProvider : List Call :=
  [.adopt (.numbersFrom 0) { identity := ⟨"node", "1.0.0", ""⟩ } ⟨"main", "/srv"⟩ none,
    .adopt (.numbersFrom 0)
      { identity := ⟨"wallet", "1.0.0", ""⟩, dependencies := [⟨"rpc", "*", false, none⟩] }
      ⟨"main", "/srv"⟩ none,
    .update "1" [.setProvider "rpc" "0"] none,
    .purge "0"]

theorem load_bareDisk :
    Manager.load bareManager.settings bareManager.store default bareManager.monitor bareDisk =
      .ok bareManager.rewatch := by
  have none : (Disk.run bareManager.store.loadAll bareDisk).1 = .ok [] := by decide +kernel
  rw [Manager.load, none]
  rfl

theorem readDir_bareDisk : (Disk.run (Disk.readDir bareManager.store.dir) bareDisk).1 = .ok [] := by
  have size : (Disk.run (Disk.readDir bareManager.store.dir) bareDisk).1.map List.length =
      .ok 0 := by decide +kernel
  cases found : (Disk.run (Disk.readDir bareManager.store.dir) bareDisk).1 with
  | error e =>
    rw [found] at size
    cases size
  | ok entries =>
    rw [found] at size
    rw [List.eq_nil_of_length_eq_zero (Except.ok.inj size)]

/-- The flag that goes up with the purge is on no disk, and it is up when the record is loaded. -/
theorem reload_after_lostProvider :
    Manager.load bareManager.settings bareManager.store default bareManager.monitor bareDisk =
        .ok bareManager.rewatch ∧
      ∃ m', Manager.load bareManager.settings bareManager.store default none
          (Call.runAllStored bareManager.rewatch bareDisk lostProvider).2 = .ok m' ∧
        m'.registry.list.map (fun r => (r.id, r.needsDeps)) = [("1", true)] := by
  obtain ⟨m, loaded, after⟩ := reload_after_steps bareManager.settings bareManager.store default
    bareManager.monitor sorted_bareDisk readDir_bareDisk (by simp)
  obtain rfl : bareManager.rewatch = m := Except.ok.inj (load_bareDisk.symm.trans loaded)
  have picks : ∀ c ∈ lostProvider, c.PicksNoSlash := by
    simp [lostProvider, Call.PicksNoSlash, IdSource.noSlash_numbersFrom]
  obtain ⟨m', reloaded, same⟩ := after lostProvider picks default Option.none
  refine ⟨load_bareDisk, m', reloaded, ?_⟩
  rw [same]
  decide +kernel

end Kennel
