import Kennel.Proofs.Manager.Current

/-!
# What a change of one pup does to the others

Every change looks at the health of all pups and writes the flags of all records anew. All the same
**a change of one pup leaves the records of the others as they are** (`others_undisturbed`): their
flags were their verdicts already, and a verdict looks at other pups only to see which of the selected
providers are installed (`Registry.marked_eq_of_providers`). An update, a sample or values of metrics
do not change which pups are installed, and an adoption installs one that nobody has selected.

A purge takes a provider away. That raises one flag, of the pups that rely on it, and does nothing else
(`Registry.marked_erase`).
-/

namespace Kennel

/-- The pup is the selected provider of a dependency that the record's pup cannot do without. -/
def Record.reliesOn (r : Record) (id : String) : Bool :=
  r.manifest.dependencies.any fun d => !d.isOptional && r.providers.get? d.interface == some id

/-- A flag that is raised where the pup relies on another one makes another record exactly if it was
down there. -/
theorem Record.raised_ne_iff (r : Record) (id : String) :
    { r with needsDeps := r.needsDeps || r.reliesOn id } ≠ r ↔
      r.reliesOn id = true ∧ r.needsDeps = false := by
  constructor
  · intro raised
    by_contra kept
    refine raised ?_
    have same : (r.needsDeps || r.reliesOn id) = r.needsDeps := by
      cases h : r.needsDeps <;> simp_all
    rw [same]
  · intro ⟨relies, down⟩ same
    have flag := congrArg Record.needsDeps same
    simp [relies, down] at flag

namespace Registry

variable {g g' : Registry} {r : Record}

/-- **Without a pup, those that rely on it lack a provider**, and every other mark is what it was. -/
theorem marked_erase (g : Registry) (id : String) (r : Record) :
    marked { g with records := g.records.erase id, stats := g.stats.erase id } r =
      { g.marked r with needsDeps := (g.marked r).needsDeps || r.reliesOn id } := by
  have gone : ∀ interface,
      (Health.providerStatus r (statusOf { g with
          records := g.records.erase id, stats := g.stats.erase id }) interface).isNone =
        ((Health.providerStatus r g.statusOf interface).isNone ||
          r.providers.get? interface == some id) := by
    intro interface
    unfold Health.providerStatus
    cases r.providers.get? interface with
    | none => rfl
    | some provider =>
      simp only [Option.bind_some, statusOf, Dict.get?_erase]
      by_cases same : provider = id
      · simp [same]
      · simp [same]
  have lacks : ∀ {p q : Manifest.Dependency → Bool} (deps : List Manifest.Dependency),
      (deps.any fun d => !d.isOptional && (p d || q d)) =
        ((deps.any fun d => !d.isOptional && p d) || deps.any fun d => !d.isOptional && q d) := by
    intro p q deps
    simp only [Bool.and_or_distrib_left]
    induction deps with
    | nil => rfl
    | cons d deps ih =>
      simp only [List.any_cons, ih]
      ac_rfl
  simp only [marked, evaluate, Health.evaluate, Health.mark, Record.reliesOn, gone, lacks]

/-- A look at the health leaves a record as it is that bears its verdict, if none of its providers came
or went. -/
theorem Fresh.get?_refreshHealth (fresh : g.Fresh) {k : String}
    (kept : g'.records.get? k = g.records.get? k)
    (providers : ∀ r, g.records.get? k = some r → ∀ interface id,
      r.providers.get? interface = some id →
        (g'.stats.get? id).isSome = (g.stats.get? id).isSome) :
    g'.refreshHealth.records.get? k = g.records.get? k := by
  rw [Registry.get?_refreshHealth, kept]
  cases found : g.records.get? k with
  | none => rfl
  | some r =>
    rw [Option.map_some, marked_eq_of_providers (providers r found), fresh k r found]

/-- **An adoption leaves the records of the others as they are**, if none of them has selected the new
pup. -/
theorem Fresh.commitAdoption (fresh : g.Fresh) (bufferSize : Nat)
    (unselected : ∀ s ∈ g.records.values, r.id ∉ s.providers.values) {k : String} (other : k ≠ r.id) :
    (g.commitAdoption bufferSize r).records.get? k = g.records.get? k := by
  refine fresh.get?_refreshHealth ?_ fun s found interface id selected => ?_
  · rw [Dict.get?_insert, if_neg other]
  · have new : id ≠ r.id := fun same => unselected s (Dict.mem_values_iff.2 ⟨k, found⟩)
      (Dict.mem_values_iff.2 ⟨interface, same ▸ selected⟩)
    rw [Dict.get?_insert, if_neg new]

/-- **An update leaves the records of the others as they are.** -/
theorem Fresh.commitUpdate (fresh : g.Fresh) (r : Record) {k : String} (other : k ≠ r.id) :
    (g.commitUpdate r).records.get? k = g.records.get? k :=
  fresh.get?_refreshHealth (by rw [Dict.get?_insert, if_neg other]) fun _ _ _ _ _ => rfl

/-- **A purge raises one flag** of those that rely on the pup. -/
theorem Fresh.purge (fresh : g.Fresh) {id : String} (purged : g.purge id = .ok g') {k : String}
    (other : k ≠ id) :
    g'.records.get? k = (g.records.get? k).map fun r =>
      { r with needsDeps := r.needsDeps || r.reliesOn id } := by
  obtain ⟨-, rfl⟩ := purge_ok purged
  rw [Registry.get?_refreshHealth, Dict.get?_erase, if_neg other]
  cases found : g.records.get? k with
  | none => rfl
  | some r => rw [Option.map_some, marked_erase, fresh k r found, Option.map_some]

/-- **A sample leaves all records as they are.** -/
theorem Fresh.ingest (fresh : g.Fresh) (sample : Sample) (slow : Bool) :
    (g.ingest sample slow).records = g.records := by
  obtain ⟨seen, seenEq, records, -, stats⟩ := ingest_eq g sample slow
  rw [seenEq]
  exact Dict.ext_get? fun k => fresh.get?_refreshHealth (by rw [records]) fun _ _ _ id _ => stats id

end Registry

namespace Manager

variable {m m' : Manager} {d d' : Disk} {breakdown : Option Disk.Breakdown} {r : Record}

/-- What an adoption that succeeds was planned with, and what it makes of the registry. -/
theorem adopt_ok {ids : IdSource} {manifest : Manifest} {source : Source}
    (h : m.adopt ids manifest source d breakdown = (.ok r, m', d')) :
    m.registry.planAdoption ids manifest source = .ok r ∧
      m'.registry = m.registry.commitAdoption m.settings.bufferSize r := by
  unfold adopt at h
  split at h
  · cases h
  · next planned =>
    split at h
    · cases h
    · cases h
      exact ⟨planned, rfl⟩

/-- What an update that succeeds was planned with, and the manager after it. -/
theorem update_eq_ok {id : String} {updates : List Update}
    (h : m.update id updates d breakdown = (.ok r, m', d')) :
    ∃ kinds, m.registry.planUpdate id updates = .ok (r, kinds) ∧
      m' = (m.commitUpdate r kinds).announceKinds r.id kinds := by
  unfold update at h
  split at h
  · cases h
  · next kinds planned =>
    split at h
    · cases h
    · cases h
      exact ⟨kinds, planned, rfl⟩

/-- What an update that succeeds was planned with, and what it makes of the registry. -/
theorem update_ok {id : String} {updates : List Update}
    (h : m.update id updates d breakdown = (.ok r, m', d')) :
    ∃ kinds, m.registry.planUpdate id updates = .ok (r, kinds) ∧
      m'.registry = m.registry.commitUpdate r := by
  obtain ⟨kinds, planned, rfl⟩ := update_eq_ok h
  exact ⟨kinds, planned, registry_announceKinds _ _ _⟩

/-- A purge that succeeds is one of the registry. -/
theorem registry_purge {id : String} (h : m.purge id = (.ok (), m')) :
    m.registry.purge id = .ok m'.registry := by
  unfold purge at h
  split at h
  · cases h
  · next purged =>
    cases h
    exact purged

end Manager

/-- **A change of one pup leaves the others alone.** A manager is loaded from any store, and anything is
called on it, on any disks. Then, as things stand,

* a pup that is adopted gets an ID of its own, and if no pup has selected that ID as a provider, the
  records of the others stay;
* an update changes no record but that of its pup;
* a purge raises the flag for lacking providers of those that rely on the pup, where it was down, and
  changes nothing else in the records of the others;
* a sample changes no record, and neither do values of metrics. -/
theorem others_undisturbed {settings : ManagerSettings} {store : Store} {catalogs : CatalogSource}
    {monitor : Option Monitor} {d : Disk} {m : Manager}
    (loaded : Manager.load settings store catalogs monitor d = .ok m) (calls : List (Call × Disk)) :
    (∀ ids manifest source d breakdown r m' d',
      (m.after calls).adopt ids manifest source d breakdown = (.ok r, m', d') →
        (m.after calls).registry.records.get? r.id = none ∧
        ((∀ s ∈ (m.after calls).registry.records.values, r.id ∉ s.providers.values) →
          ∀ k, k ≠ r.id →
            m'.registry.records.get? k = (m.after calls).registry.records.get? k)) ∧
    (∀ id updates d breakdown r m' d',
      (m.after calls).update id updates d breakdown = (.ok r, m', d') →
        ∀ k, k ≠ id → m'.registry.records.get? k = (m.after calls).registry.records.get? k) ∧
    (∀ id m', (m.after calls).purge id = (.ok (), m') → ∀ k, k ≠ id →
      (m'.registry.records.get? k = ((m.after calls).registry.records.get? k).map fun s =>
        { s with needsDeps := s.needsDeps || s.reliesOn id }) ∧
      (m'.registry.records.get? k ≠ (m.after calls).registry.records.get? k ↔
        ∃ s, (m.after calls).registry.records.get? k = some s ∧
          s.reliesOn id = true ∧ s.needsDeps = false)) ∧
    (∀ sample slow,
      ((m.after calls).ingest sample slow).registry.records = (m.after calls).registry.records) ∧
    ∀ id values,
      ((m.after calls).recordMetrics id values).2.registry.records =
        (m.after calls).registry.records := by
  obtain ⟨indexed, current⟩ := Manager.registry_after (P := fun g => g.Indexed ∧ g.Current)
    (fun _ _ h effect => ⟨effect.indexed h.1, h.2.step h.1 effect⟩) m (Manager.current_load loaded) calls
  generalize m.after calls = m at indexed current
  have fresh := current.fresh
  refine ⟨fun ids manifest source d breakdown r m' d' adopted => ?_,
    fun id updates d breakdown r m' d' updated k other => ?_, fun id m' purged k other => ?_,
    fun sample slow => fresh.ingest sample slow, fun id values => ?_⟩
  · obtain ⟨planned, same⟩ := Manager.adopt_ok adopted
    refine ⟨?_, fun unselected k other => ?_⟩
    · obtain ⟨-, -, address, ports, -, -, rfl⟩ := Registry.planAdoption_ok planned
      have unused := ids.pick_notMem m.registry.records.keys
      rwa [Dict.mem_keys_iff, Option.not_isSome_iff_eq_none] at unused
    · rw [same]
      exact fresh.commitAdoption _ unselected other
  · obtain ⟨kinds, planned, same⟩ := Manager.update_ok updated
    obtain ⟨old, found, kept⟩ := Registry.kept_planUpdate planned
    rw [same]
    exact fresh.commitUpdate r (by rwa [kept.id, indexed.keyed id old found])
  · have raised := fresh.purge (Manager.registry_purge purged) other
    refine ⟨raised, ?_⟩
    rw [raised]
    cases found : m.registry.records.get? k with
    | none => simp
    | some s => simp [Record.raised_ne_iff]
  · unfold Manager.recordMetrics
    cases recorded : m.registry.recordMetrics id values with
    | error e => rfl
    | ok g => exact (Registry.recordMetrics_ok recorded).1

/-- A wallet relies on a node. A third pup is adopted under an ID that nobody has selected, and the
record of the wallet stays. The node is purged, and the flag of the wallet goes up. -/
theorem others_undisturbed_wallet :
    Manager.load bareManager.settings bareManager.store default bareManager.monitor bareDisk =
        .ok bareManager.rewatch ∧
      (∃ r m' d', (bareManager.rewatch.after wronglyFlagged).adopt (.numbersFrom 0)
          { identity := ⟨"stats", "1.0.0", ""⟩ } ⟨"main", "/srv"⟩ bareDisk = (.ok r, m', d') ∧
        m'.registry.records.get? "1" =
          (bareManager.rewatch.after wronglyFlagged).registry.records.get? "1") ∧
      ∃ m', (bareManager.rewatch.after wronglyFlagged).purge "0" = (.ok (), m') ∧
        m'.registry.records.get? "1" ≠
          (bareManager.rewatch.after wronglyFlagged).registry.records.get? "1" := by
  obtain ⟨adopted, -, purged, -⟩ := others_undisturbed load_bareDisk wronglyFlagged
  refine ⟨load_bareDisk, ?_, ?_⟩
  · have id : ((bareManager.rewatch.after wronglyFlagged).adopt (.numbersFrom 0)
        { identity := ⟨"stats", "1.0.0", ""⟩ } ⟨"main", "/srv"⟩ bareDisk).1.map (·.id) = .ok "2" := by
      decide +kernel
    have unselected : ∀ s ∈ (bareManager.rewatch.after wronglyFlagged).registry.records.values,
        "2" ∉ s.providers.values := by decide +kernel
    rcases ran : (bareManager.rewatch.after wronglyFlagged).adopt (.numbersFrom 0)
        { identity := ⟨"stats", "1.0.0", ""⟩ } ⟨"main", "/srv"⟩ bareDisk with ⟨e | r, m', d'⟩
    · rw [ran] at id
      cases id
    · rw [ran] at id
      have id : r.id = "2" := Except.ok.inj id
      refine ⟨r, m', d', rfl, (adopted _ _ _ _ _ _ _ _ ran).2 ?_ "1" ?_⟩
      · rwa [id]
      · rw [id]
        decide
  · have relies : ((bareManager.rewatch.after wronglyFlagged).registry.records.get? "1").map
        (fun s => (s.reliesOn "0", s.needsDeps)) = some (true, false) := by decide +kernel
    obtain ⟨s, found, both⟩ := Option.map_eq_some_iff.1 relies
    obtain ⟨relies, down⟩ := Prod.mk.inj both
    have done : ((bareManager.rewatch.after wronglyFlagged).purge "0").1 = .ok () := by
      decide +kernel
    exact ⟨_, Prod.ext done rfl, (purged "0" _ (Prod.ext done rfl) "1" (by decide)).2.2
      ⟨s, found, relies, down⟩⟩

end Kennel
