import Kennel.Proofs.Manager.Reload

/-!
# The verdicts that are kept

Whether a pup may start is asked often, so the verdict on each pup is kept: its flags in the record,
and in its stats the note which selected providers do not run. What is kept is never behind
(`Registry.Current`): whatever was called, it is the verdict that a fresh look at the pup would give.

A look at the health reads only the records, apart from their flags, and the statuses of pups; and it
writes only flags and notes. So a second look sees what the first one saw
(`Registry.evaluate_refreshHealth`), and it does not matter in which order the pups are looked at.

Whether a pup may start follows from its configuration and from which of the providers that it cannot
do without are installed, and from nothing else (`Record.SameDemands`).
-/

namespace Kennel

namespace Registry

variable {g g' : Registry}

/-- A look at the health changes no status. -/
theorem statusOf_refreshHealth (g : Registry) : g.refreshHealth.statusOf = g.statusOf := by
  funext k
  rw [statusOf, refreshHealth, Dict.get?_mapWithKey, Option.map_map]
  refine congrArg (Option.map · (g.stats.get? k)) (funext fun s => ?_)
  cases g.records.get? k <;> rfl

/-- **A second look at a pup gives the same verdict.** -/
theorem evaluate_refreshHealth (g : Registry) (r : Record) :
    g.refreshHealth.evaluate (g.marked r) = g.evaluate r := by
  rw [evaluate, statusOf_refreshHealth]
  rfl

/-- What is kept of the health of each pup is the verdict on it. -/
def Current (g : Registry) : Prop :=
  ∀ id r, g.records.get? id = some r → ∃ s, g.stats.get? id = some s ∧
    g.evaluate r = ⟨r.needsConf, r.needsDeps, s.depsNotRunning⟩

/-- Where the verdicts that are kept are current, every record bears its own. -/
theorem Current.fresh (h : g.Current) : g.Fresh := by
  intro k r found
  obtain ⟨s, -, verdict⟩ := h k r found
  rw [marked, verdict]
  rfl

/-- After a look at the health all verdicts are kept. -/
theorem current_refreshHealth (indexed : g.refreshHealth.Indexed) : g.refreshHealth.Current := by
  intro id r' found
  have tracked := indexed.tracked id
  rw [found] at tracked
  obtain ⟨s', stats⟩ := Option.isSome_iff_exists.1 tracked
  refine ⟨s', stats, ?_⟩
  rw [get?_refreshHealth, Option.map_eq_some_iff] at found
  obtain ⟨r, found, rfl⟩ := found
  rw [refreshHealth, Dict.get?_mapWithKey, Option.map_eq_some_iff] at stats
  obtain ⟨s, -, rfl⟩ := stats
  rw [evaluate_refreshHealth, found]
  rfl

/-- Values of metrics change no status and no note. -/
theorem get?_recordMetrics {id : String} {values : Dict Float} (h : g.recordMetrics id values = .ok g')
    (k : String) :
    (g'.stats.get? k).map (fun s => (s.status, s.depsNotRunning)) =
      (g.stats.get? k).map fun s => (s.status, s.depsNotRunning) := by
  unfold recordMetrics at h
  cases found : g.getStats id with
  | error e => rw [found] at h; cases h
  | ok s =>
    rw [found] at h
    obtain rfl := Except.ok.inj h
    rw [Dict.get?_modify, Option.map_map]
    refine congrArg (Option.map · (g.stats.get? k)) (funext fun s => ?_)
    simp only [Function.comp]
    split <;> rfl

/-- **Every operation on the registry leaves the verdicts that are kept current.** -/
theorem Current.step (h : g.Current) (indexed : g.Indexed) (effect : Call.Effect g g') :
    g'.Current := by
  have indexed' := effect.indexed indexed
  cases effect with
  | none => exact h
  | adopt bufferSize planned => exact current_refreshHealth indexed'
  | update planned => exact current_refreshHealth indexed'
  | purge purged =>
    obtain ⟨-, rfl⟩ := purge_ok purged
    exact current_refreshHealth indexed'
  | ingest sample slow =>
    obtain ⟨seen, seenEq, -⟩ := ingest_eq g sample slow
    rw [seenEq] at indexed' ⊢
    exact current_refreshHealth indexed'
  | recordMetrics recorded =>
    have kept := get?_recordMetrics recorded
    have statuses : g'.statusOf = g.statusOf := by
      funext k
      have same := congrArg (Option.map Prod.fst) (kept k)
      rwa [Option.map_map, Option.map_map] at same
    intro id r found
    rw [(recordMetrics_ok recorded).1] at found
    obtain ⟨s, stats, verdict⟩ := h id r found
    have same := kept id
    rw [stats] at same
    obtain ⟨s', stats', same⟩ := Option.map_eq_some_iff.1 same
    have note : s'.depsNotRunning = s.depsNotRunning := congrArg Prod.snd same
    refine ⟨s', stats', ?_⟩
    rw [evaluate, statuses, note]
    exact verdict

end Registry

/-- Whatever a manager is loaded from, its registry is indexed and its verdicts are current. -/
theorem Manager.current_load {settings : ManagerSettings} {store : Store} {catalogs : CatalogSource}
    {monitor : Option Monitor} {d : Disk} {m : Manager}
    (loaded : Manager.load settings store catalogs monitor d = .ok m) :
    m.registry.Indexed ∧ m.registry.Current := by
  unfold Manager.load at loaded
  split at loaded
  · cases loaded
  · next records _ =>
    cases loaded
    have indexed := Registry.indexed_ofRecords settings.range settings.bufferSize records
    exact ⟨indexed, Registry.current_refreshHealth indexed⟩

/-- Two records ask for the same before their pups may start: they have the same required fields and
the same configuration, and the same dependencies that are not optional, with the same providers. -/
structure Record.SameDemands (r r' : Record) : Prop where
  fields : r'.manifest.config = r.manifest.config
  config : r'.config = r.config
  required : r'.manifest.dependencies.filter (!·.isOptional) =
    r.manifest.dependencies.filter (!·.isOptional)
  providers : ∀ d ∈ r.manifest.dependencies, d.isOptional = false →
    r'.providers.get? d.interface = r.providers.get? d.interface

/-- **Neither a status nor an optional dependency has a part in whether a pup may start.** -/
theorem Health.canStart_eq {r r' : Record} (same : r.SameDemands r')
    {statusOf statusOf' : String → Option Status}
    (installed : ∀ k, (statusOf' k).isSome = (statusOf k).isSome) :
    (Health.evaluate r' statusOf').canStart = (Health.evaluate r statusOf).canStart := by
  have unmet : ∀ (r : Record) (statusOf : String → Option Status),
      (Health.evaluate r statusOf).needsDeps =
        (r.manifest.dependencies.filter (!·.isOptional)).any fun d =>
          (Health.providerStatus r statusOf d.interface).isNone := by
    intro r statusOf
    rw [List.any_filter]
    rfl
  have conf : r'.lacksConfig = r.lacksConfig := by
    simp only [Record.lacksConfig, same.fields, same.config]
  have deps : (Health.evaluate r' statusOf').needsDeps = (Health.evaluate r statusOf).needsDeps := by
    rw [unmet, unmet, same.required, Bool.eq_iff_iff, List.any_eq_true, List.any_eq_true]
    refine exists_congr fun d => and_congr_right fun member => ?_
    obtain ⟨member, needed⟩ := List.mem_filter.1 member
    have selected := same.providers d member (by simpa using needed)
    simp only [Health.providerStatus, selected]
    cases r.providers.get? d.interface with
    | none => rfl
    | some id =>
      have there := installed id
      cases h : statusOf id <;> cases h' : statusOf' id <;> simp_all
  simp only [Health.canStart, deps]
  simp only [Health.evaluate, conf]

/-- **The health that is kept is never behind.** A manager is loaded from any store, and anything is
called on it, on any disk. Then the flags of every installed pup and the note in its stats are the
verdict that is found on it anew; so a pup may start exactly when both flags of the record that is
shown of it are down. And another manager in which the same pups are installed, whatever their
statuses are, and whose record of the pup asks for the same, lets the pup start in the same cases. -/
theorem health_never_behind {settings : ManagerSettings} {store : Store} {catalogs : CatalogSource}
    {monitor : Option Monitor} {d : Disk} {m : Manager}
    (loaded : Manager.load settings store catalogs monitor d = .ok m) (calls : List (Call × Disk)) :
    (m.after calls).registry.Current ∧
      (∀ id, (m.after calls).canStart id =
        ((m.after calls).registry.get id).map fun r => !r.needsConf && !r.needsDeps) ∧
      ∀ (other : Manager) (id : String) (r r' : Record),
        (∀ k, (other.registry.stats.get? k).isSome = ((m.after calls).registry.stats.get? k).isSome) →
        (m.after calls).registry.get id = .ok r → other.registry.get id = .ok r' →
        r.SameDemands r' → other.canStart id = (m.after calls).canStart id := by
  have start := Manager.current_load loaded
  obtain ⟨-, current⟩ := Manager.registry_after (P := fun g => g.Indexed ∧ g.Current)
    (fun _ _ h effect => ⟨effect.indexed h.1, h.2.step h.1 effect⟩) m start calls
  generalize m.after calls = m at current
  refine ⟨current, fun id => ?_, fun other id r r' installed found found' same => ?_⟩
  · unfold Manager.canStart Manager.health
    cases found : m.registry.get id with
    | error e => rfl
    | ok r =>
      obtain ⟨s, -, verdict⟩ := current id r (Registry.get_eq_ok_iff.1 found)
      simp only [Except.map, verdict, Health.canStart]
  · unfold Manager.canStart Manager.health
    rw [found, found']
    have installed : ∀ k, (other.registry.statusOf k).isSome = (m.registry.statusOf k).isSome :=
      fun k => by rw [Registry.statusOf, Registry.statusOf, Option.isSome_map, Option.isSome_map,
        installed k]
    exact congrArg Except.ok (Health.canStart_eq same installed)

/-- A pup needs a setting and a provider, and could do with another provider; it gets what it needs,
and then its owner says that it lacks both. -/
def wronglyFlagged : List (Call × Disk) :=
  [(.adopt (.numbersFrom 0) { identity := ⟨"node", "1.0.0", ""⟩ } ⟨"main", "/srv"⟩ none, bareDisk),
    (.adopt (.numbersFrom 0)
      { identity := ⟨"wallet", "1.0.0", ""⟩
        dependencies := [⟨"rpc", "*", false, none⟩, ⟨"stats", "*", true, none⟩]
        config := [⟨"password", "", "password", true⟩] } ⟨"main", "/srv"⟩ none, bareDisk),
    (.update "1" [.setProvider "rpc" "0", .mergeConfig (Dict.ofList [("password", "x")]),
      .setNeedsConf true, .setNeedsDeps true] none, bareDisk)]

/-- The flags of the pup are down all the same, so it may start, and its stats say that its provider
does not run. -/
theorem health_never_behind_wronglyFlagged :
    Manager.load bareManager.settings bareManager.store default bareManager.monitor bareDisk =
        .ok bareManager.rewatch ∧
      (bareManager.rewatch.after wronglyFlagged).canStart "1" = .ok true ∧
      ∃ r s, (bareManager.rewatch.after wronglyFlagged).registry.records.get? "1" = some r ∧
        (bareManager.rewatch.after wronglyFlagged).registry.stats.get? "1" = some s ∧
        r.needsDeps = false ∧ s.depsNotRunning = ["rpc"] ∧
        (bareManager.rewatch.after wronglyFlagged).registry.evaluate r =
          ⟨r.needsConf, r.needsDeps, s.depsNotRunning⟩ := by
  obtain ⟨current, allowed, -⟩ := health_never_behind load_bareDisk wronglyFlagged
  have flags : ((bareManager.rewatch.after wronglyFlagged).registry.records.get? "1").map
      (fun r => (r.needsConf, r.needsDeps)) = some (false, false) := by decide +kernel
  have notes : ((bareManager.rewatch.after wronglyFlagged).registry.stats.get? "1").map
      (·.depsNotRunning) = some ["rpc"] := by decide +kernel
  obtain ⟨r, found, down⟩ := Option.map_eq_some_iff.1 flags
  obtain ⟨conf, deps⟩ := Prod.mk.inj down
  obtain ⟨s, stats, verdict⟩ := current "1" r found
  rw [stats] at notes
  refine ⟨load_bareDisk, ?_, r, s, found, stats, deps, Option.some.inj notes, verdict⟩
  rw [allowed, Registry.get_eq_ok_iff.2 found]
  simp only [Except.map, conf, deps]
  rfl

end Kennel
