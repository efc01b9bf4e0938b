import Kennel.Proofs.Allocation.Fresh
import Kennel.Proofs.Manager.Reload
import Kennel.Proofs.Store.History

/-!
# Installations

An installation is a manager with its disk. It lives through calls, deletions of stored records and
restarts, in any order: a record can be deleted while its pup is installed, and a restart brings
back a pup that was purged and whose record was not deleted.

So the records that are stored are a second registry beside that of the manager. What a step can do
to the two is said once (`Step.Effect`). **Every step has such an effect** as long as the store
holds the stored records (`Installation.Sound.step`), whatever the IDs are and wherever the system
breaks off.
-/

namespace Kennel

/-- The record that a call adopts, by its answer. -/
def Call.adoptee : Call → Except ManagerError Answer → Option Record
  | .adopt _ _ _ _, .ok (.record r) => some r
  | _, _ => none

theorem Call.adoptee_error (c : Call) (e : ManagerError) : c.adoptee (.error e) = none := by
  cases c <;> rfl

theorem Call.adoptee_idle {c : Call} (idle : c.isChange = false)
    (answer : Except ManagerError Answer) : c.adoptee answer = none := by
  cases c with
  | adopt => cases idle
  | _ => rfl

/-- What a restart brings with it; the range of addresses and ports stays. -/
structure Restart where
  bufferSize : Nat
  subscriberCapacity : Nat
  catalogs : CatalogSource
  monitor : Option Monitor

/-- A step in the life of an installation. -/
inductive Step where
  | call (c : Call)
  /-- A stored record is deleted, whether its pup is installed or not. -/
  | delete (id : String)
  /-- The manager is loaded anew. -/
  | restart (anew : Restart)

/-- A manager, and the disk with its store. -/
structure Installation where
  manager : Manager
  disk : Disk

namespace Installation

abbrev registry (i : Installation) : Registry := i.manager.registry

/-- The settings after a restart. -/
def settingsAfter (i : Installation) (anew : Restart) : ManagerSettings :=
  { i.manager.settings with
    bufferSize := anew.bufferSize, subscriberCapacity := anew.subscriberCapacity }

/-- Takes a step. A manager that cannot be loaded anew goes on as it was. -/
def step (i : Installation) : Step → Installation
  | .call c => ⟨(c.run i.manager i.disk).2.1, (c.run i.manager i.disk).2.2⟩
  | .delete id => { i with disk := (Disk.run (i.manager.store.delete id) i.disk).2 }
  | .restart anew =>
    match Manager.load (i.settingsAfter anew) i.manager.store anew.catalogs anew.monitor i.disk with
    | .ok m => { i with manager := m }
    | .error _ => i

/-- The record that a step adopts. -/
def adopted (i : Installation) : Step → Option Record
  | .call c => c.adoptee (c.run i.manager i.disk).1
  | _ => none

/-- Takes steps one after another. -/
def after (i : Installation) (steps : List Step) : Installation := steps.foldl step i

theorem after_append (i : Installation) (before later : List Step) :
    i.after (before ++ later) = (i.after before).after later :=
  List.foldl_append

/-- The records that steps adopt, in their order. -/
def adoptions (i : Installation) : List Step → List Record
  | [] => []
  | s :: steps => (i.adopted s).toList ++ (i.step s).adoptions steps

end Installation

/-! ## What a step does -/

/-- What a step can do to the registry and to the stored records, and what it adopts. -/
inductive Step.Effect (g : Registry) (stored : Dict Record) :
    Step → Option Record → Registry → Dict Record → Prop
  | idle (s : Step) : Effect g stored s none g stored
  | adopted {ids : IdSource} {manifest : Manifest} {source : Source}
      {breakdown : Option Disk.Breakdown} (bufferSize : Nat) {r : Record}
      (planned : g.planAdoption ids manifest source = .ok r) :
      Effect g stored (.call (.adopt ids manifest source breakdown)) (some r)
        (g.commitAdoption bufferSize r) (stored.insert r.id r)
  | updated {id : String} {updates : List Update} {breakdown : Option Disk.Breakdown} {r : Record}
      {kinds : List NoticeKind} (planned : g.planUpdate id updates = .ok (r, kinds)) :
      Effect g stored (.call (.update id updates breakdown)) none (g.commitUpdate r)
        (stored.insert r.id r)
  | purged {id : String} {after : Registry} (purged : g.purge id = .ok after) :
      Effect g stored (.call (.purge id)) none after stored
  | observed {c : Call} {after : Registry}
      (same : ∀ k, (after.records.get? k).map Record.bare = (g.records.get? k).map Record.bare)
      (allocator : after.allocator = g.allocator) : Effect g stored (.call c) none after stored
  | deleted (id : String) : Effect g stored (.delete id) none g (stored.erase id)
  | restarted {anew : Restart} {after : Registry}
      (same : ∀ k, (after.records.get? k).map Record.bare = (stored.get? k).map Record.bare)
      (range : after.allocator.range = g.allocator.range)
      (base : g.allocator.range.base ≤ after.allocator.mark)
      (below : ∀ k r, after.records.get? k = some r → r.address ≤ after.allocator.mark) :
      Effect g stored (.restart anew) none after stored

/-- The mark of a registry of records lies above all of their addresses. -/
theorem Registry.le_mark_ofRecords (range : AllocationRange) (bufferSize : Nat)
    {records : List Record} {k : String} {r : Record}
    (found : (ofRecords range bufferSize records).records.get? k = some r) :
    r.address ≤ (ofRecords range bufferSize records).allocator.mark := by
  rw [ofRecords, get?_refreshHealth, Option.map_eq_some_iff] at found
  obtain ⟨r, found, rfl⟩ := found
  obtain ⟨r', member, same⟩ := List.mem_map.1 ((Dict.ofList_sound _ k).2 r found)
  obtain ⟨-, rfl⟩ := Prod.mk.inj same
  have below := Allocator.le_mark_ofRecords range member
  exact below

/-- The mark of a manager that was loaded lies above the base and all addresses. -/
theorem Manager.le_mark_of_load {settings : ManagerSettings} {store : Store}
    {catalogs : CatalogSource} {monitor : Option Monitor} {d : Disk} {m : Manager}
    (h : load settings store catalogs monitor d = .ok m) :
    m.registry.allocator.range = settings.range ∧
      settings.range.base ≤ m.registry.allocator.mark ∧
      ∀ k r, m.registry.records.get? k = some r → r.address ≤ m.registry.allocator.mark := by
  unfold load at h
  split at h
  · cases h
  · next records _ =>
    cases h
    exact ⟨rfl, Allocator.base_le_mark_ofRecords settings.range records,
      fun k r found => Registry.le_mark_ofRecords _ _ found⟩

namespace Store

open Disk

variable {s : Store} {d d' : Disk} {l : Location} {mode : Mode} {stored : Dict Record}

/-- A change leaves only files under names like that of a record. -/
theorem Change.Outcome.onlyFiles {c : Change} {answer : Except DiskError Unit}
    (h : Change.Outcome s d l mode c answer d') (files : OnlyFiles d l) : OnlyFiles d' l := by
  cases h with
  | failed => exact files
  | made sorted beside noDir entry fits =>
    intro name n start there
    by_cases same : name = fileName c.id
    · subst same
      rw [entry] at there
      obtain ⟨r, -, rfl⟩ := Option.map_eq_some_iff.1 there
      rfl
    · rw [beside.other_entry same] at there
      exact files name n start there

/-- A deletion takes the record out of the set, or there was none to delete. -/
theorem Holds.deleted (h : s.Holds d l mode stored) (files : OnlyFiles d l) (id : String) :
    (run (s.delete id) d).2 = d ∨
      s.Holds (run (s.delete id) d).2 l mode (stored.erase id) ∧
        OnlyFiles (run (s.delete id) d).2 l := by
  by_cases slash : '/' ∈ id.toList
  · exact .inl (h.delete_of_slash files slash)
  rcases removeIfExists_cases (s.path id) d with
    ⟨k, n, found, -, writable, removed⟩ | ⟨-, unchanged⟩ | ⟨e, stopped⟩
  · obtain ⟨rfl, -⟩ := h.fits slash found writable
    obtain ⟨-, -, there⟩ := finds_iff.1 found
    obtain ⟨id', same, installed⟩ := h.known _ n (isRecordName_fileName id) there.symm
    obtain rfl := fileName_injective same
    obtain ⟨d', deleted, holds⟩ := h.delete installed
    have outcome := (Change.delete id).outcome h.toLodged slash
    rw [show run (Change.run s (.delete id)) d = _ from deleted] at outcome
    rw [deleted]
    exact .inr ⟨holds, outcome.onlyFiles files⟩
  · exact .inl (congrArg Prod.snd unchanged)
  · exact .inl (congrArg Prod.snd stopped)

end Store

namespace Installation

/-- The store, whose directory is at `l`, holds the stored records, and there are no other entries
with names like theirs. -/
structure Sound (i : Installation) (range : AllocationRange) (l : Location) (mode : Mode)
    (stored : Dict Record) : Prop where
  indexed : i.registry.Indexed
  holds : i.manager.store.Holds i.disk l mode stored
  keyed : ∀ k r, stored.get? k = some r → r.id = k
  files : Store.OnlyFiles i.disk l
  settings : i.manager.settings.range = range
  allocator : i.registry.allocator.range = range

namespace Sound

variable {i : Installation} {range : AllocationRange} {l : Location} {mode : Mode}
  {stored : Dict Record}

/-- A record that was saved is stored under its ID. -/
theorem save (h : i.Sound range l mode stored) {r : Record} {breakdown : Option Disk.Breakdown}
    {d' : Disk} (saved : Disk.run (i.manager.store.save r breakdown) i.disk = (.ok (), d')) :
    i.manager.store.Holds d' l mode (stored.insert r.id r) ∧ Store.OnlyFiles d' l ∧
      ∀ k s, (stored.insert r.id r).get? k = some s → s.id = k := by
  have noSlash := h.holds.noSlash_of_saved h.files saved
  refine ⟨h.holds.save noSlash saved, ?_, fun k s found => ?_⟩
  · have outcome := (Store.Change.save r breakdown).outcome h.holds.toLodged noSlash
    rw [show Disk.run (Store.Change.run _ (.save r breakdown)) i.disk = _ from saved] at outcome
    exact outcome.onlyFiles h.files
  · rw [Dict.get?_insert] at found
    split at found
    · next same => exact (congrArg Record.id (Option.some.inj found)).symm.trans same.symm
    · exact h.keyed k s found

/-- A call has an effect by its outcome. -/
theorem call {m m' : Manager} {d d' : Disk} {c : Call} {answer : Except ManagerError Answer}
    (h : Sound ⟨m, d⟩ range l mode stored) (outcome : Call.Outcome m d c answer m' d') :
    ∃ stored', (Step.call c).Effect m.registry stored (c.adoptee answer) m'.registry stored' ∧
      Sound ⟨m', d'⟩ range l mode stored' := by
  have indexed := outcome.effect.indexed h.indexed
  obtain ⟨settings, store⟩ := outcome.settings
  cases outcome with
  | refused c e =>
    rw [Call.adoptee_error]
    exact ⟨stored, .idle _, h⟩
  | unsaved c e stopped =>
    rw [Call.adoptee_error, Store.eq_of_save_error h.holds.sorted stopped]
    exact ⟨stored, .idle _, h⟩
  | adopted planned saved =>
    obtain ⟨holds, files, keyed⟩ := h.save saved
    exact ⟨_, .adopted m.settings.bufferSize planned,
      indexed, holds, keyed, files, h.settings, h.allocator⟩
  | @updated _ _ _ r kinds d' planned saved =>
    obtain ⟨holds, files, keyed⟩ := h.save saved
    have after : ((m.commitUpdate r kinds).announceKinds r.id kinds).registry =
        m.registry.commitUpdate r := Manager.registry_announceKinds _ _ _
    refine ⟨_, after ▸ .updated planned, indexed, store ▸ holds, keyed, files,
      settings ▸ h.settings, ?_⟩
    exact (congrArg (·.allocator.range) after).trans h.allocator
  | purged purged =>
    refine ⟨stored, .purged purged, indexed, h.holds, h.keyed, h.files, h.settings, ?_⟩
    obtain ⟨-, rfl⟩ := Registry.purge_ok purged
    exact h.allocator
  | ingested sample slow =>
    obtain ⟨seen, seenEq, records, allocator, -⟩ := Registry.ingest_eq m.registry sample slow
    have after : (m.ingest sample slow).registry = seen.refreshHealth := seenEq
    refine ⟨stored, .observed (fun k => ?_) ?_, indexed, h.holds, h.keyed, h.files, h.settings, ?_⟩
    · rw [after, Registry.bare_refreshHealth, records]
    · rw [after]
      exact allocator
    · exact (congrArg (·.allocator.range) after).trans
        ((congrArg Allocator.range allocator).trans h.allocator)
  | recorded recorded =>
    obtain ⟨records, allocator, -⟩ := Registry.recordMetrics_ok recorded
    exact ⟨stored, .observed (fun k => by rw [records]) allocator, indexed, h.holds, h.keyed,
      h.files, h.settings, (congrArg Allocator.range allocator).trans h.allocator⟩
  | attended idle answer =>
    rw [Call.adoptee_idle idle]
    exact ⟨stored, .idle _, indexed, h.holds, h.keyed, h.files, h.settings, h.allocator⟩

/-- A deletion takes a stored record away, or does nothing. -/
theorem delete (h : i.Sound range l mode stored) (id : String) :
    ∃ stored', (Step.delete id).Effect i.registry stored none i.registry stored' ∧
      (i.step (.delete id)).Sound range l mode stored' := by
  rcases h.holds.deleted h.files id with unchanged | ⟨holds, files⟩
  · have same : i.step (.delete id) = i := congrArg (Installation.mk i.manager) unchanged
    refine ⟨stored, .idle _, ?_⟩
    rw [same]
    exact h
  · refine ⟨stored.erase id, .deleted id, h.indexed, holds, fun k r found => ?_, files,
      h.settings, h.allocator⟩
    rw [Dict.get?_erase] at found
    split at found
    · cases found
    · exact h.keyed k r found

/-- **A restart finds the stored records.** -/
theorem restart (h : i.Sound range l mode stored) (anew : Restart) :
    ∃ m, i.step (.restart anew) = ⟨m, i.disk⟩ ∧
      (Step.restart anew).Effect i.registry stored none m.registry stored ∧
      Sound ⟨m, i.disk⟩ range l mode stored := by
  obtain ⟨m, loaded, settings, store, indexed, -, same⟩ :=
    h.holds.load h.keyed (i.settingsAfter anew) anew.catalogs anew.monitor
  obtain ⟨range', base, below⟩ := Manager.le_mark_of_load loaded
  have range : i.registry.allocator.range = i.manager.settings.range :=
    h.allocator.trans h.settings.symm
  refine ⟨m, by simp only [Installation.step, loaded],
    .restarted same (range'.trans range.symm) (range ▸ base) below, indexed, store ▸ h.holds,
    h.keyed, h.files, settings ▸ h.settings, range'.trans h.settings⟩

/-- **Every step has one of the effects**, and the store goes on to hold what is stored. -/
theorem step (h : i.Sound range l mode stored) (s : Step) :
    ∃ stored', s.Effect i.registry stored (i.adopted s) (i.step s).registry stored' ∧
      (i.step s).Sound range l mode stored' := by
  cases s with
  | call c => exact h.call (c.outcome i.manager i.disk)
  | delete id => exact h.delete id
  | restart anew =>
    obtain ⟨m, after, effect, sound⟩ := h.restart anew
    rw [after]
    exact ⟨stored, effect, sound⟩

end Sound

end Installation

end Kennel
