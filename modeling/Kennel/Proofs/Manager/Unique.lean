import Mathlib.Data.List.Pairwise
import Kennel.Proofs.Allocation.Fresh
import Kennel.Proofs.Manager.Calls
import Kennel.Proofs.Manager.Registry
import Kennel.Proofs.Store.Contents

/-!
# Nothing is held twice

Each installed pup has its ID, its address, its ports of the host and its package to itself. The
registry keeps this because a record gets what no other record has when it is planned, and because
nothing of it changes afterwards.

The invariant that carries the proof (`Registry.Separate`) speaks of look-ups and of pairs of records
under different keys, and it bounds every address by the mark of the allocator. **Every operation on
the registry keeps it** (`Registry.Separate.step`), and it gives what is said of the lists
(`Registry.Separate.unique`).
-/

namespace Kennel

/-- Records none of which holds what another one holds. Ports are counted as often as they are
bound, so no record binds one twice. -/
structure Record.Distinct (records : List Record) : Prop where
  ids : (records.map (·.id)).Nodup
  addresses : (records.map (·.address)).Nodup
  ports : (records.flatMap Record.boundHostPorts).Nodup
  packages : records.Pairwise fun a b => a.isSamePackage b.manifest b.source = false

/-- The records stand under their own IDs, the stats are those of the same pups, and the records are
distinct. -/
structure Registry.Unique (g : Registry) : Prop where
  keyed : ∀ k r, g.records.get? k = some r → r.id = k
  tracked : g.records.keys = g.stats.keys
  distinct : Record.Distinct g.records.values

/-! ## Two records -/

/-- Two records share nothing that a pup has to itself. -/
structure Record.Apart (a b : Record) : Prop where
  address : a.address ≠ b.address
  ports : a.boundHostPorts.Disjoint b.boundHostPorts
  package : a.isSamePackage b.manifest b.source = false

namespace Record

/-- Being of the same package is symmetric. -/
theorem isSamePackage_comm (a b : Record) :
    a.isSamePackage b.manifest b.source = b.isSamePackage a.manifest a.source := by
  unfold isSamePackage name version
  simp only [Bool.beq_comm]

namespace Apart

variable {a b a' b' : Record}

theorem symm (h : a.Apart b) : b.Apart a :=
  ⟨h.address.symm, List.disjoint_symm h.ports, by rw [isSamePackage_comm]; exact h.package⟩

/-- Records stay apart while they keep what they were given. -/
theorem kept (h : a.Apart b) (ha : a.Kept a') (hb : b.Kept b') : a'.Apart b' where
  address := by rw [ha.address, hb.address]; exact h.address
  ports := by rw [ha.boundHostPorts, hb.boundHostPorts]; exact h.ports
  package := by rw [ha.isSamePackage, hb.manifest, hb.source]; exact h.package

end Apart

/-- Distinct records are apart from each other. -/
theorem Distinct.apart {records : List Record} (h : Distinct records) {a b : Record}
    (ha : a ∈ records) (hb : b ∈ records) (hne : a ≠ b) : a.Apart b := by
  have addresses := List.pairwise_map.1 h.addresses
  have ports := (List.nodup_flatMap.1 h.ports).2
  have all : records.Pairwise Apart := by
    refine ((addresses.and ports).and h.packages).imp ?_
    rintro a b ⟨⟨address, ports⟩, package⟩
    exact ⟨address, ports, package⟩
  have : Std.Symm Apart := ⟨fun _ _ => Apart.symm⟩
  exact all.forall ha hb hne

/-- Distinct records are distinct in whatever order they come. -/
theorem Distinct.of_perm {records records' : List Record} (h : Distinct records)
    (order : records.Perm records') : Distinct records' where
  ids := (order.map _).nodup h.ids
  addresses := (order.map _).nodup h.addresses
  ports := (order.flatMap_right _).nodup h.ports
  packages := (order.pairwise_iff fun {a b} hab => by rw [isSamePackage_comm]; exact hab).1 h.packages

end Record

/-! ## The invariant -/

namespace Registry

variable {g g' : Registry} {r : Record}

/-- Records under different keys are apart, and all addresses are at most the mark. -/
structure Separate (g : Registry) : Prop extends g.Indexed where
  apart : ∀ k j a b, g.records.get? k = some a → g.records.get? j = some b → k ≠ j → a.Apart b
  ports : ∀ k r, g.records.get? k = some r → r.boundHostPorts.Nodup
  marked : ∀ k r, g.records.get? k = some r → r.address ≤ g.allocator.mark

/-- The records of a registry are found in another one, with what they were given. -/
def Continues (g g' : Registry) : Prop :=
  ∀ k r', g'.records.get? k = some r' → ∃ r, g.records.get? k = some r ∧ r.Kept r'

theorem continues_refreshHealth (g : Registry) : g.Continues g.refreshHealth := by
  intro k r' h
  rw [get?_refreshHealth, Option.map_eq_some_iff] at h
  obtain ⟨r, found, rfl⟩ := h
  exact ⟨r, found, .mark _ r⟩

theorem Continues.trans {g'' : Registry} (h : g.Continues g') (h' : g'.Continues g'') :
    g.Continues g'' := by
  intro k r'' found
  obtain ⟨r', found, kept'⟩ := h' k r'' found
  obtain ⟨r, found, kept⟩ := h k r' found
  exact ⟨r, found, kept.trans kept'⟩

/-- What is dropped, or keeps what it was given, leaves the rest apart. -/
theorem Separate.continued (h : g.Separate) (indexed : g'.Indexed) (goes : g.Continues g')
    (mark : g'.allocator = g.allocator) : g'.Separate where
  toIndexed := indexed
  apart k j a' b' ha hb hne := by
    obtain ⟨a, ha, keptA⟩ := goes k a' ha
    obtain ⟨b, hb, keptB⟩ := goes j b' hb
    exact (h.apart k j a b ha hb hne).kept keptA keptB
  ports k r' found := by
    obtain ⟨r, found, kept⟩ := goes k r' found
    rw [kept.boundHostPorts]
    exact h.ports k r found
  marked k r' found := by
    obtain ⟨r, found, kept⟩ := goes k r' found
    rw [kept.address, mark]
    exact h.marked k r found

/-! ## Adoption -/

/-- A record that shares nothing with the records of the registry and has a place above the mark. -/
structure Admits (g : Registry) (r : Record) : Prop where
  id : g.records.get? r.id = none
  address : g.allocator.mark < r.address
  ports : r.boundHostPorts.Nodup
  free : ∀ k s, g.records.get? k = some s → s.boundHostPorts.Disjoint r.boundHostPorts
  package : ∀ k s, g.records.get? k = some s → s.isSamePackage r.manifest r.source = false

/-- Each port is bound to one web interface. -/
theorem hostPorts_bindWebUis {exposes : List Manifest.Expose} {ports : List Port}
    (h : ports.length = exposes.length) : (bindWebUis exposes ports).map (·.hostPort) = ports := by
  unfold bindWebUis
  induction exposes generalizing ports with
  | nil => simpa using (List.length_eq_zero_iff.1 h).symm
  | cons e exposes ih =>
    cases ports with
    | nil => cases h
    | cons p ports => simpa using ih (by simpa using h)

/-- **The record that is planned for an adoption shares nothing with an installed one**, and it binds
no port twice: the ports for its web interfaces are none of those that the manifest binds itself. -/
theorem admits_of_planAdoption {ids : IdSource} {manifest : Manifest} {source : Source}
    (h : g.planAdoption ids manifest source = .ok r) : g.Admits r := by
  obtain ⟨unknown, checked, address, ports, next, handed, rfl⟩ := planAdoption_ok h
  obtain ⟨own, unbound⟩ := checkHostPorts_ok checked
  obtain ⟨length, nodup, fresh⟩ := allocatePorts_ok handed
  have bound : ∀ r : Record, r.webUis = bindWebUis manifest.webUis ports → r.manifest = manifest →
      r.boundHostPorts = ports ++ manifest.hostPorts := by
    intro r hw hm
    rw [Record.boundHostPorts, hw, hm, hostPorts_bindWebUis length]
  have bound := bound (g.marked ⟨ids.pick g.records.keys, .installing, false, ∅, address,
    bindWebUis manifest.webUis ports, ∅, manifest, source, false, false⟩) rfl rfl
  refine ⟨g.get?_pick ids, Allocator.lt_of_nextAddress next, ?_, fun k s hs => ?_, fun k s hs => ?_⟩
  · rw [bound]
    refine nodup.append own fun p hp hm => fresh p hp ?_
    exact List.mem_append_right _ hm
  · rw [bound]
    have member := Dict.mem_values_iff.2 ⟨k, hs⟩
    intro p hp
    rw [List.mem_append]
    rintro (hq | hq)
    · exact fresh p hq (List.mem_append_left _ (List.mem_flatMap.2 ⟨s, member, hp⟩))
    · exact unbound s member hp hq
  · exact unknown s (Dict.mem_values_iff.2 ⟨k, hs⟩)

/-- The new record is apart from the old ones. -/
theorem Admits.apart (new : g.Admits r) (h : g.Separate) {k : String} {s : Record}
    (hs : g.records.get? k = some s) : s.Apart r :=
  ⟨Address.ne_of_le_of_lt (h.marked k s hs) new.address, new.free k s hs, new.package k s hs⟩

namespace Separate

/-- A look at the health keeps records apart. -/
theorem refreshHealth (h : g.Separate) : g.refreshHealth.Separate :=
  h.continued h.toIndexed.refreshHealth (continues_refreshHealth g) rfl

/-- An adoption keeps records apart. -/
theorem commitAdoption (h : g.Separate) (new : g.Admits r) (bufferSize : Nat) :
    (g.commitAdoption bufferSize r).Separate := by
  refine refreshHealth ⟨h.toIndexed.insert _ _ _, fun k j a b ha hb hne => ?_, fun k s hs => ?_,
    fun k s hs => ?_⟩
  · rcases get?_insert_cases ha with ⟨rfl, rfl⟩ | ⟨-, oldA⟩ <;>
      rcases get?_insert_cases hb with ⟨rfl, rfl⟩ | ⟨-, oldB⟩
    · exact absurd rfl hne
    · exact (new.apart h oldB).symm
    · exact new.apart h oldA
    · exact h.apart k j a b oldA oldB hne
  · rcases get?_insert_cases hs with ⟨rfl, rfl⟩ | ⟨-, hs⟩
    · exact new.ports
    · exact h.ports k s hs
  · rcases get?_insert_cases hs with ⟨rfl, rfl⟩ | ⟨-, hs⟩
    · exact Address.le_max_right _ _
    · exact Address.le_trans (h.marked k s hs) (Address.le_max_left _ _)

/-- **Every operation on the registry keeps records apart.** -/
theorem step (h : g.Separate) (effect : Call.Effect g g') : g'.Separate := by
  have indexed := effect.indexed h.toIndexed
  cases effect with
  | none => exact h
  | adopt bufferSize planned => exact h.commitAdoption (admits_of_planAdoption planned) bufferSize
  | update planned =>
    obtain ⟨old, found, kept⟩ := kept_planUpdate planned
    refine h.continued indexed (Continues.trans (fun k s hs => ?_) (continues_refreshHealth _)) rfl
    rcases get?_insert_cases hs with ⟨rfl, rfl⟩ | ⟨-, hs⟩
    · rw [← h.keyed _ old found, ← kept.id] at found
      exact ⟨old, found, kept⟩
    · exact ⟨s, hs, .refl s⟩
  | purge purged =>
    obtain ⟨-, rfl⟩ := purge_ok purged
    refine h.continued indexed (Continues.trans (fun k s hs => ?_) (continues_refreshHealth _)) rfl
    rw [Dict.get?_erase] at hs
    split at hs
    · cases hs
    · exact ⟨s, hs, .refl s⟩
  | ingest sample slow =>
    obtain ⟨seen, seenEq, records, allocator, -⟩ := ingest_eq g sample slow
    rw [seenEq] at indexed ⊢
    refine h.continued indexed (Continues.trans (fun k s hs => ?_) (continues_refreshHealth _))
      allocator
    exact ⟨s, records ▸ hs, .refl s⟩
  | recordMetrics recorded =>
    obtain ⟨records, allocator, -⟩ := recordMetrics_ok recorded
    exact h.continued indexed (fun k s hs => ⟨s, records ▸ hs, .refl s⟩) allocator

/-- Records that are apart from each other share nothing as a list. -/
theorem unique (h : g.Separate) : g.Unique := by
  refine ⟨h.keyed, Dict.keys_eq_of_isSome_eq fun k => (h.tracked k).symm, ?_, ?_, ?_, ?_⟩
  · refine List.pairwise_map.2 (Dict.pairwise_values fun k j a b ha hb hne => ?_)
    rwa [h.keyed k a ha, h.keyed j b hb]
  · exact List.pairwise_map.2 (Dict.pairwise_values fun k j a b ha hb hne =>
      (h.apart k j a b ha hb hne).address)
  · refine List.nodup_flatMap.2 ⟨fun r hr => ?_, ?_⟩
    · obtain ⟨k, found⟩ := Dict.mem_values_iff.1 hr
      exact h.ports k r found
    · exact Dict.pairwise_values fun k j a b ha hb hne => (h.apart k j a b ha hb hne).ports
  · exact Dict.pairwise_values fun k j a b ha hb hne => (h.apart k j a b ha hb hne).package

end Separate

/-! ## Loading -/

/-- The registry of distinct records keeps them apart. -/
theorem separate_ofRecords {records : List Record} (distinct : Record.Distinct records)
    (range : AllocationRange) (bufferSize : Nat) : (ofRecords range bufferSize records).Separate := by
  have single := List.inj_on_of_nodup_map distinct.ids
  have listed : ∀ k r', (ofRecords range bufferSize records).records.get? k = some r' →
      ∃ r ∈ records, r.id = k ∧ r.Kept r' := by
    intro k r' h
    obtain ⟨r, found, kept⟩ := continues_refreshHealth _ k r' h
    obtain ⟨r, member, rfl, rfl⟩ := (get?_ofList_ids single (fun r => r) k r).1 found
    exact ⟨r, member, rfl, kept⟩
  refine ⟨indexed_ofRecords range bufferSize records, fun k j a' b' ha hb hne => ?_,
    fun k r' hr => ?_, fun k r' hr => ?_⟩
  · obtain ⟨a, memberA, rfl, keptA⟩ := listed k a' ha
    obtain ⟨b, memberB, rfl, keptB⟩ := listed j b' hb
    exact (distinct.apart memberA memberB fun e => hne (congrArg _ e)).kept keptA keptB
  · obtain ⟨r, member, -, kept⟩ := listed k r' hr
    rw [kept.boundHostPorts]
    exact (List.nodup_flatMap.1 distinct.ports).1 r member
  · obtain ⟨r, member, -, kept⟩ := listed k r' hr
    rw [kept.address]
    exact Allocator.le_mark_ofRecords range member

end Registry

/-- **Nothing is held twice.** A store whose records are distinct can be loaded; and whatever is called
afterwards, on whatever disk, the records stand under their IDs, the stats are those of the same
pups, and no address, no port of the host and no package is held twice. -/
theorem unique_after_calls (settings : ManagerSettings) (store : Store) (catalogs : CatalogSource)
    (monitor : Option Monitor) (d : Disk) (records : List Record)
    (loaded : (Disk.run store.loadAll d).1 = .ok records) (distinct : Record.Distinct records) :
    ∃ m, Manager.load settings store catalogs monitor d = .ok m ∧
      ∀ calls : List (Call × Disk), (m.after calls).registry.Unique := by
  refine ⟨_, by rw [Manager.load, loaded], fun calls => ?_⟩
  refine (Manager.registry_after (fun _ _ => Registry.Separate.step) _ ?_ calls).unique
  exact Registry.separate_ofRecords distinct settings.range settings.bufferSize

/-- What is stored of a pup with a web interface on this port of the host. -/
def storedPup (id : String) (last : UInt8) (port : Port) : Record where
  id
  phase := .ready
  enabled := true
  config := ∅
  address := .ofOctets 10 69 0 last
  webUis := [⟨"ui", 80, port⟩]
  providers := ∅
  manifest := { identity := ⟨id, "1.0.0", ""⟩ }
  source := ⟨"main", "/srv"⟩
  needsConf := false
  needsDeps := false

/-- The stored records of two pups. -/
def storedPair : List Record := [storedPup "node" 2 9000, storedPup "wallet" 3 9001]

/-- A disk with a directory of these records. -/
def stockedDisk : Disk :=
  .dir 0o755 [("records", .dir 0o755 (storedPair.map fun r => (Store.fileName r.id, Store.fileOf r)))]

theorem lodged_stockedDisk : Store.Lodged ⟨"records"⟩ stockedDisk ["records"] 0o755 where
  sorted := by
    have names : Store.fileName "node" < Store.fileName "wallet" := by decide
    refine Node.sorted_dir (List.pairwise_singleton _ _) ?_
    simp only [List.mem_singleton, forall_eq]
    refine Node.sorted_dir (List.pairwise_pair.2 names) ?_
    simp [Store.fileOf, Node.sorted_file]
  passed := ⟨by decide +kernel, by decide, by decide +kernel⟩
  leads := by
    have steps : Disk.steps "records" = ["records"] := by decide +kernel
    rw [steps]
    exact .into ⟨_, _, rfl, by decide⟩ ⟨by decide, by decide, by decide⟩ rfl (by simp) .stop
  directory := ⟨_, rfl⟩
  readable := by decide

theorem loadAll_stockedDisk :
    (Disk.run (Store.loadAll ⟨"records"⟩) stockedDisk).1 = .ok storedPair := by
  have fits : ∀ r ∈ storedPair, Store.Fits ⟨"records"⟩ 0o755 r.id := by
    have node : Store.Fits ⟨"records"⟩ 0o755 "node" :=
      ⟨by decide, ⟨by decide +kernel, by decide +kernel, by decide +kernel⟩, by decide, by decide⟩
    have wallet : Store.Fits ⟨"records"⟩ 0o755 "wallet" :=
      ⟨by decide, ⟨by decide +kernel, by decide +kernel, by decide +kernel⟩, by decide, by decide⟩
    exact List.forall_mem_cons.2 ⟨node, List.forall_mem_singleton.2 wallet⟩
  have sorted : Record.sortByAddress storedPair = storedPair :=
    List.mergeSort_of_pairwise (by decide)
  rw [lodged_stockedDisk.loadAll_files rfl (by decide) fits, sorted]

/-- Nothing is held twice after the two pups were loaded. -/
theorem unique_after_calls_stocked :
    Record.Distinct storedPair ∧
      ∃ m, Manager.load { bufferSize := 4, subscriberCapacity := 2 } ⟨"records"⟩ default none
          stockedDisk = .ok m ∧
        ∀ calls : List (Call × Disk), (m.after calls).registry.Unique := by
  have distinct : Record.Distinct storedPair :=
    ⟨by decide, by decide +kernel, by decide +kernel, by decide +kernel⟩
  exact ⟨distinct, unique_after_calls _ ⟨"records"⟩ default none stockedDisk storedPair
    loadAll_stockedDisk distinct⟩

end Kennel
