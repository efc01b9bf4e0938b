import Kennel.Manager.Registry
import Kennel.Proofs.Data.Dict

/-!
# The registry by its look-ups

What each operation on the registry can end with, as look-ups in its records and stats. An operation
that plans gives what the plan was made from (`planAdoption_ok`, `planUpdate_ok`); one that commits or
observes gives the registry after it.

**What a record is given at adoption it keeps**: ID, address, ports, manifest and source. Updates
and marks of health leave them alone, so they are the same for as long as the pup is installed
(`Record.Kept`).
-/

namespace Kennel

/-! ## What a record keeps -/

/-- Two records agree in all that is settled at adoption. -/
structure Record.Kept (old new : Record) : Prop where
  id : new.id = old.id
  address : new.address = old.address
  webUis : new.webUis = old.webUis
  manifest : new.manifest = old.manifest
  source : new.source = old.source

namespace Record.Kept

variable {a b c : Record}

theorem refl (r : Record) : r.Kept r := ⟨rfl, rfl, rfl, rfl, rfl⟩

theorem trans (hab : a.Kept b) (hbc : b.Kept c) : a.Kept c :=
  ⟨hbc.id.trans hab.id, hbc.address.trans hab.address, hbc.webUis.trans hab.webUis,
    hbc.manifest.trans hab.manifest, hbc.source.trans hab.source⟩

theorem symm (h : a.Kept b) : b.Kept a :=
  ⟨h.id.symm, h.address.symm, h.webUis.symm, h.manifest.symm, h.source.symm⟩

/-- A record keeps its ports. -/
theorem boundHostPorts (h : a.Kept b) : b.boundHostPorts = a.boundHostPorts := by
  rw [Record.boundHostPorts, Record.boundHostPorts, h.webUis, h.manifest]

/-- A record stays of its package. -/
theorem isSamePackage (h : a.Kept b) (manifest : Manifest) (source : Source) :
    b.isSamePackage manifest source = a.isSamePackage manifest source := by
  simp only [Record.isSamePackage, Record.name, Record.version, h.manifest, h.source]

/-- A mark of health leaves alone what was settled at adoption. -/
theorem mark (health : Health) (r : Record) : r.Kept (health.mark r) := ⟨rfl, rfl, rfl, rfl, rfl⟩

/-- An update leaves alone what was settled at adoption. -/
theorem applyTo (u : Update) (r : Record) : r.Kept (u.applyTo r) := by
  cases u <;> exact ⟨rfl, rfl, rfl, rfl, rfl⟩

/-- Updates leave alone what was settled at adoption. -/
theorem applyAll (updates : List Update) (r : Record) : r.Kept (Update.applyAll updates r).1 := by
  have key : ∀ (updates : List Update) (state : Record × List NoticeKind), r.Kept state.1 →
      r.Kept (updates.foldl (fun state u => u.apply state) state).1 := by
    intro updates
    induction updates with
    | nil => exact fun state h => h
    | cons u updates ih => exact fun state h => ih _ (h.trans (applyTo u state.1))
  exact key updates (r, []) (.refl r)

end Record.Kept

namespace Registry

variable {g g' : Registry} {r : Record}

/-! ## Health -/

theorem get?_refreshHealth (g : Registry) (k : String) :
    g.refreshHealth.records.get? k = (g.records.get? k).map g.marked :=
  Dict.get?_mapWithKey (fun _ r => g.marked r) g.records k

theorem isSome_stats_refreshHealth (g : Registry) (k : String) :
    (g.refreshHealth.stats.get? k).isSome = (g.stats.get? k).isSome := by
  rw [refreshHealth, Dict.get?_mapWithKey, Option.isSome_map]

theorem isSome_records_refreshHealth (g : Registry) (k : String) :
    (g.refreshHealth.records.get? k).isSome = (g.records.get? k).isSome := by
  rw [get?_refreshHealth, Option.isSome_map]

/-! ## Plans -/

/-- The look-up of a pup finds its record. -/
theorem get_eq_ok_iff {id : String} : g.get id = .ok r ↔ g.records.get? id = some r := by
  unfold get
  cases g.records.get? id with
  | none => simp
  | some s => simp

theorem toOption_get (g : Registry) (id : String) :
    (g.get id).toOption = g.records.get? id := by
  unfold get
  cases g.records.get? id <;> rfl

/-- No pup is installed under an ID that is picked for a new one. -/
theorem get?_pick (g : Registry) (ids : IdSource) :
    g.records.get? (ids.pick g.records.keys) = none := by
  have unused := ids.pick_notMem g.records.keys
  rwa [Dict.mem_keys_iff, Option.not_isSome_iff_eq_none] at unused

/-- What an adoption is planned with: the package is not installed, the ports that the manifest binds
are free, and the address and the ports for web interfaces were handed out. -/
theorem planAdoption_ok {ids : IdSource} {manifest : Manifest} {source : Source}
    (h : g.planAdoption ids manifest source = .ok r) :
    (∀ s ∈ g.records.values, s.isSamePackage manifest source = false) ∧
      checkHostPorts manifest g.records.values = .ok () ∧
      ∃ address ports, g.allocator.nextAddress = .ok address ∧
        allocatePorts g.allocator.range manifest.webUis.length manifest g.records.values = .ok ports ∧
        r = g.marked ⟨ids.pick g.records.keys, .installing, false, ∅, address,
          bindWebUis manifest.webUis ports, ∅, manifest, source, false, false⟩ := by
  unfold planAdoption at h
  simp only at h
  split at h
  · cases h
  · next unknown =>
    refine ⟨fun s hs => by simpa using List.find?_eq_none.1 unknown s hs, ?_⟩
    cases free : checkHostPorts manifest g.records.values with
    | error e => rw [free] at h; cases h
    | ok =>
      rw [free] at h
      refine ⟨rfl, ?_⟩
      cases next : g.allocator.nextAddress with
      | error e => rw [next] at h; cases h
      | ok address =>
        rw [next] at h
        cases handed : allocatePorts g.allocator.range manifest.webUis.length manifest
            g.records.values with
        | error e => rw [handed] at h; cases h
        | ok ports =>
          rw [handed] at h
          exact ⟨address, ports, rfl, rfl, (Except.ok.inj h).symm⟩

/-- What an update is planned with: the pup is installed, and the updates make the record and the kinds
of change. -/
theorem planUpdate_eq_ok {id : String} {updates : List Update} {kinds : List NoticeKind}
    (h : g.planUpdate id updates = .ok (r, kinds)) :
    ∃ old, g.records.get? id = some old ∧ r = g.marked (Update.applyAll updates old).1 ∧
      kinds = (Update.applyAll updates old).2 := by
  unfold planUpdate at h
  cases found : g.get id with
  | error e => rw [found] at h; cases h
  | ok old =>
    rw [found] at h
    refine ⟨old, get_eq_ok_iff.1 found, ?_⟩
    simp only [bind, Except.bind] at h
    split at h
    · cases h
    · have same := Except.ok.inj h
      exact ⟨(congrArg Prod.fst same).symm, (congrArg Prod.snd same).symm⟩

/-- An update is planned for a pup that is installed. -/
theorem planUpdate_ok {id : String} {updates : List Update} {kinds : List NoticeKind}
    (h : g.planUpdate id updates = .ok (r, kinds)) :
    ∃ old, g.records.get? id = some old ∧ r = g.marked (Update.applyAll updates old).1 := by
  obtain ⟨old, found, record, -⟩ := planUpdate_eq_ok h
  exact ⟨old, found, record⟩

/-- The record of an update keeps what the old one was given. -/
theorem kept_planUpdate {id : String} {updates : List Update} {kinds : List NoticeKind}
    (h : g.planUpdate id updates = .ok (r, kinds)) :
    ∃ old, g.records.get? id = some old ∧ old.Kept r := by
  obtain ⟨old, found, rfl⟩ := planUpdate_ok h
  exact ⟨old, found, (Record.Kept.applyAll updates old).trans (.mark _ _)⟩

/-! ## Changes and observations -/

/-- What a purge ends with: the pup was installed, and it is gone. -/
theorem purge_ok {id : String} (h : g.purge id = .ok g') :
    (g.records.get? id).isSome ∧
      g' = refreshHealth { g with records := g.records.erase id, stats := g.stats.erase id } := by
  unfold purge at h
  cases found : g.get id with
  | error e => rw [found] at h; cases h
  | ok old =>
    rw [found] at h
    exact ⟨by rw [get_eq_ok_iff.1 found]; rfl, (Except.ok.inj h).symm⟩

/-- Values of metrics change stats only, and of no other set of pups. -/
theorem recordMetrics_ok {id : String} {values : Dict Float} (h : g.recordMetrics id values = .ok g') :
    g'.records = g.records ∧ g'.allocator = g.allocator ∧
      ∀ k, (g'.stats.get? k).isSome = (g.stats.get? k).isSome := by
  unfold recordMetrics at h
  cases found : g.getStats id with
  | error e => rw [found] at h; cases h
  | ok s =>
    rw [found] at h
    obtain rfl := Except.ok.inj h
    exact ⟨rfl, rfl, fun k => by rw [Dict.get?_modify, Option.isSome_map]⟩

/-- The observation of a service changes stats only, and of no other set of pups. -/
theorem observe_eq (slow : Bool) (g : Registry) (o : MonitoredService × Vitals) :
    (g.observe slow o).records = g.records ∧ (g.observe slow o).allocator = g.allocator ∧
      ∀ k, ((g.observe slow o).stats.get? k).isSome = (g.stats.get? k).isSome := by
  unfold observe
  split
  · exact ⟨rfl, rfl, fun _ => rfl⟩
  · exact ⟨rfl, rfl, fun k => by rw [Dict.get?_modify, Option.isSome_map]⟩

/-- The observations of a sample change stats only, and of no other set of pups. -/
theorem foldl_observe_eq (slow : Bool) (g : Registry) (sample : Sample) :
    (sample.foldl (observe slow) g).records = g.records ∧
      (sample.foldl (observe slow) g).allocator = g.allocator ∧
      ∀ k, ((sample.foldl (observe slow) g).stats.get? k).isSome = (g.stats.get? k).isSome := by
  induction sample generalizing g with
  | nil => exact ⟨rfl, rfl, fun _ => rfl⟩
  | cons o sample ih =>
    obtain ⟨records, allocator, stats⟩ := observe_eq slow g o
    obtain ⟨records', allocator', stats'⟩ := ih (g.observe slow o)
    exact ⟨records'.trans records, allocator'.trans allocator,
      fun k => (stats' k).trans (stats k)⟩

/-- A sample is taken in by changes of stats, of no other set of pups, and a look at the health. -/
theorem ingest_eq (g : Registry) (sample : Sample) (slow : Bool) :
    ∃ seen : Registry, g.ingest sample slow = seen.refreshHealth ∧ seen.records = g.records ∧
      seen.allocator = g.allocator ∧ ∀ k, (seen.stats.get? k).isSome = (g.stats.get? k).isSome :=
  ⟨sample.foldl (observe slow) g, rfl, foldl_observe_eq slow g sample⟩

/-! ## The index -/

/-- A look-up in a map by ID finds what was made of one of the records, if no two of them have one
ID. -/
theorem get?_ofList_ids {α : Type} {records : List Record}
    (single : ∀ a ∈ records, ∀ b ∈ records, a.id = b.id → a = b) (f : Record → α) (k : String)
    (v : α) : (Dict.ofList (records.map fun r => (r.id, f r))).get? k = some v ↔
      ∃ r ∈ records, r.id = k ∧ f r = v := by
  rw [Dict.get?_ofList_eq_some_iff, List.mem_map]
  · simp only [Prod.mk.injEq]
  · intro x hx y hy same
    obtain ⟨a, ha, rfl⟩ := List.mem_map.1 hx
    obtain ⟨b, hb, rfl⟩ := List.mem_map.1 hy
    rw [single a ha b hb same]

/-- A record under the keys of a registry with one more record is the new one or an old one. -/
theorem get?_insert_cases {k : String} {s : Record}
    (found : (g.records.insert r.id r).get? k = some s) :
    (k = r.id ∧ s = r) ∨ (k ≠ r.id ∧ g.records.get? k = some s) := by
  rw [Dict.get?_insert] at found
  by_cases hk : k = r.id
  · rw [if_pos hk] at found
    exact .inl ⟨hk, (Option.some.inj found).symm⟩
  · rw [if_neg hk] at found
    exact .inr ⟨hk, found⟩

/-- The records stand under their own IDs, and there are stats of the same pups. -/
structure Indexed (g : Registry) : Prop where
  keyed : ∀ k r, g.records.get? k = some r → r.id = k
  tracked : ∀ k, (g.stats.get? k).isSome = (g.records.get? k).isSome

namespace Indexed

theorem refreshHealth (h : g.Indexed) : g.refreshHealth.Indexed where
  keyed k r found := by
    rw [get?_refreshHealth, Option.map_eq_some_iff] at found
    obtain ⟨r, found, rfl⟩ := found
    exact h.keyed k r found
  tracked k := by
    rw [isSome_stats_refreshHealth, get?_refreshHealth, Option.isSome_map]
    exact h.tracked k

/-- A record that is put in with its stats stands under its ID. -/
theorem insert (h : g.Indexed) (r : Record) (s : Stats) (a : Allocator) :
    Indexed ⟨g.records.insert r.id r, g.stats.insert r.id s, a⟩ := by
  refine ⟨fun k s hs => ?_, fun k => ?_⟩
  · rcases get?_insert_cases hs with ⟨rfl, rfl⟩ | ⟨-, hs⟩
    · rfl
    · exact h.keyed k s hs
  · simp only [Dict.get?_insert]
    by_cases hk : k = r.id
    · simp [hk]
    · simpa [hk] using h.tracked k

theorem commitUpdate (h : g.Indexed) (installed : (g.records.get? r.id).isSome) :
    (g.commitUpdate r).Indexed := by
  refine refreshHealth ⟨fun k s hs => ?_, fun k => ?_⟩
  · rcases get?_insert_cases hs with ⟨rfl, rfl⟩ | ⟨-, hs⟩
    · rfl
    · exact h.keyed k s hs
  · simp only [Dict.get?_insert]
    by_cases hk : k = r.id
    · rw [hk, h.tracked, installed]
      simp
    · simpa [hk] using h.tracked k

theorem erase (h : g.Indexed) (id : String) :
    (Registry.refreshHealth
      { g with records := g.records.erase id, stats := g.stats.erase id }).Indexed := by
  refine refreshHealth ⟨fun k s hs => ?_, fun k => ?_⟩
  · rw [Dict.get?_erase] at hs
    split at hs
    · cases hs
    · exact h.keyed k s hs
  · simp only [Dict.get?_erase]
    split
    · rfl
    · exact h.tracked k

/-- The records that are listed are those under their IDs. -/
theorem mem_list_iff (h : g.Indexed) : r ∈ g.list ↔ g.records.get? r.id = some r := by
  rw [list, Record.sortByAddress, List.mem_mergeSort, Dict.mem_values_iff]
  exact ⟨fun ⟨k, found⟩ => h.keyed k r found ▸ found, fun found => ⟨_, found⟩⟩

/-- No two listed records have one ID. -/
theorem eq_of_mem_list (h : g.Indexed) {a b : Record} (ha : a ∈ g.list) (hb : b ∈ g.list)
    (same : a.id = b.id) : a = b := by
  have found := h.mem_list_iff.1 ha
  rw [same, h.mem_list_iff.1 hb] at found
  exact (Option.some.inj found).symm

theorem observed (h : g.Indexed) (records : g'.records = g.records)
    (stats : ∀ k, (g'.stats.get? k).isSome = (g.stats.get? k).isSome) : g'.Indexed := by
  refine ⟨fun k s hs => h.keyed k s (records ▸ hs), fun k => ?_⟩
  rw [records, stats, h.tracked k]

end Indexed

/-- The registry of any records is indexed; of records of one ID it holds the last. -/
theorem indexed_ofRecords (range : AllocationRange) (bufferSize : Nat) (records : List Record) :
    (ofRecords range bufferSize records).Indexed := by
  refine Indexed.refreshHealth ⟨fun k r found => ?_, fun k => ?_⟩
  · obtain ⟨r, -, same⟩ := List.mem_map.1 ((Dict.ofList_sound _ k).2 r found)
    obtain ⟨rfl, rfl⟩ := Prod.mk.inj same
    rfl
  · simp only [(Dict.ofList_sound _ k).1, List.any_map]
    rfl

end Registry

end Kennel
