import Kennel.Proofs.Manager.Current
import Kennel.Proofs.Manager.Installation
import Kennel.Proofs.Monitoring.Series

/-!
# What was seen of the installed pups

The stats of an installed pup are what was seen of it since the manager was loaded or the pup was
adopted (`stats_show_history`), whatever else happened in between: who was adopted, changed and purged,
and what was seen of others.

What a call lets be seen of a pup is `Call.sightings`: the entries of a sample that are about the pup,
each with what its owner wanted at that time, in the order of the sample; or the values of its metrics.
An adoption under the ID of the pup is where its history starts anew (`Manager.history`). One call keeps
that the stats show the history (`Call.shown`), and so every sequence of calls does.
-/

namespace Kennel

namespace Registry

variable {g g' : Registry} {r : Record} {size : Nat} {k : String} {seen : List Sighting}

/-- If the pup is installed, its stats show what was seen of it. -/
def Shown (g : Registry) (size : Nat) (k : String) (seen : List Sighting) : Prop :=
  ∀ r, g.records.get? k = some r → ∃ s, g.stats.get? k = some s ∧ s.Shows r.manifest size seen

namespace Shown

/-- A look at the health writes flags and notes only. -/
theorem refreshHealth (h : g.Shown size k seen) : g.refreshHealth.Shown size k seen := by
  intro r found
  rw [get?_refreshHealth, Option.map_eq_some_iff] at found
  obtain ⟨r, found, rfl⟩ := found
  obtain ⟨s, stats, shows⟩ := h r found
  rw [Registry.refreshHealth, Dict.get?_mapWithKey, stats]
  rw [found]
  exact ⟨_, rfl, ⟨shows.status, shows.cpuPercent, shows.memMb, shows.memPercent, shows.diskMb,
    shows.metrics⟩⟩

/-- A pup that is adopted starts with nothing seen; of the others the same was seen as before. -/
theorem commitAdoption (h : g.Shown size k seen) (r : Record) :
    (g.commitAdoption size r).Shown size k (if r.id = k then [] else seen) := by
  refine refreshHealth fun s found => ?_
  rw [Dict.get?_insert] at found
  rw [Dict.get?_insert]
  by_cases same : k = r.id
  · rw [if_pos same] at found
    obtain rfl := Option.some.inj found
    rw [if_pos same, if_pos same.symm]
    exact ⟨_, rfl, .start _ _ _⟩
  · rw [if_neg same] at found
    rw [if_neg same, if_neg (Ne.symm same)]
    exact h s found

/-- An update keeps the manifest and leaves the stats alone. -/
theorem commitUpdate (h : g.Shown size k seen)
    (kept : ∃ old, g.records.get? r.id = some old ∧ old.Kept r) :
    (g.commitUpdate r).Shown size k seen := by
  refine refreshHealth fun s found => ?_
  rw [Dict.get?_insert] at found
  split at found
  · next same =>
    obtain rfl := Option.some.inj found
    obtain ⟨old, installed, kept⟩ := kept
    rw [← same] at installed
    rw [kept.manifest]
    exact h old installed
  · exact h s found

/-- Of the pups that a purge leaves the same was seen as before. -/
theorem erase (h : g.Shown size k seen) (id : String) :
    (Registry.refreshHealth
      { g with records := g.records.erase id, stats := g.stats.erase id }).Shown size k seen := by
  refine refreshHealth fun s found => ?_
  rw [Dict.get?_erase] at found
  rw [Dict.get?_erase]
  split at found
  · cases found
  · next other =>
    rw [if_neg other]
    exact h s found

end Shown

/-- **The stats of a pup take in the entries of a sample that are about it**, in their order. -/
theorem stats_foldl_observe (found : g.records.get? k = some r) (slow : Bool) (sample : Sample) :
    (sample.foldl (observe slow) g).stats.get? k = (g.stats.get? k).map fun s =>
      (sample.filter (·.1.pup == k)).foldl (fun s o => s.observe r.enabled slow o.2) s := by
  induction sample generalizing g with
  | nil => simp
  | cons o sample ih =>
    rw [List.foldl_cons, ih (by rw [(observe_eq slow g o).1, found])]
    by_cases same : o.1.pup = k
    · rw [observe, same, found, List.filter_cons_of_pos (by simp [same]), Dict.get?_modify,
        Option.map_map]
      simp only [Function.comp_def, if_pos, List.foldl_cons]
    · rw [List.filter_cons_of_neg (by simp [same]), observe]
      split
      · rfl
      · rw [Dict.get?_modify, Option.map_map]
        simp only [Function.comp_def, if_neg (Ne.symm same)]


end Registry

/-- What a call lets be seen of a pup. -/
def Call.sightings (g : Registry) (k : String) : Call → List Sighting
  | .ingest sample slow => (g.records.get? k).elim [] fun r =>
    (sample.filter (·.1.pup == k)).map fun o => .sampled r.enabled slow o.2
  | .recordMetrics id values => if id = k then [.metered values] else []
  | _ => []

/-- What was seen of a pup after one call more: nothing if the call adopted it. -/
def Call.seenAfter (m : Manager) (d : Disk) (k : String) (seen : List Sighting) (c : Call) :
    List Sighting :=
  if (c.adoptee (c.run m d).1).any (·.id == k) then [] else seen ++ c.sightings m.registry k

/-- What is seen of a pup from the last adoption under its ID on, or from the beginning. -/
def Manager.history (k : String) (m : Manager) (seen : List Sighting) :
    List (Call × Disk) → List Sighting
  | [] => seen
  | c :: calls => (c.1.run m c.2).2.1.history k (c.1.seenAfter m c.2 k seen) calls

theorem Manager.history_append (k : String) (m : Manager) (seen : List Sighting)
    (before later : List (Call × Disk)) :
    m.history k seen (before ++ later) =
      (m.after before).history k (m.history k seen before) later := by
  induction before generalizing m seen with
  | nil => rfl
  | cons c before ih => exact ih _ _

namespace Registry.Shown

variable {g : Registry} {size : Nat} {k : String} {seen : List Sighting}

/-- **A sample joins what was seen of each pup that it is about.** -/
theorem ingest (h : g.Shown size k seen) (sample : Sample) (slow : Bool) :
    (g.ingest sample slow).Shown size k (seen ++ (Call.ingest sample slow).sightings g k) := by
  refine refreshHealth fun r found => ?_
  rw [(foldl_observe_eq slow g sample).1] at found
  obtain ⟨s, stats, shows⟩ := h r found
  refine ⟨_, by rw [stats_foldl_observe found, stats, Option.map_some], ?_⟩
  rw [Call.sightings, found]
  exact shows.foldl_observe r.enabled slow _

/-- **Values of metrics join what was seen of their pup.** -/
theorem recordMetrics (h : g.Shown size k seen) {id : String} {values : Dict Float} {g' : Registry}
    (recorded : g.recordMetrics id values = .ok g') :
    g'.Shown size k (seen ++ (Call.recordMetrics id values).sightings g k) := by
  unfold Registry.recordMetrics at recorded
  cases tracked : g.getStats id with
  | error e => rw [tracked] at recorded; cases recorded
  | ok =>
    rw [tracked] at recorded
    obtain rfl := Except.ok.inj recorded
    intro r found
    obtain ⟨s, stats, shows⟩ := h r found
    rw [Dict.get?_modify, stats, Option.map_some, Call.sightings]
    refine ⟨_, rfl, ?_⟩
    by_cases same : k = id
    · rw [if_pos same, if_pos same.symm]
      exact shows.recordMetrics values
    · rw [if_neg same, if_neg (Ne.symm same), List.append_nil]
      exact shows

/-- Values of metrics are refused for a pup that is not installed. -/
theorem recordMetrics_error (h : g.Shown size k seen) {id : String} {values : Dict Float}
    {e : ManagerError} (refused : g.recordMetrics id values = .error e) :
    g.Shown size k (seen ++ (Call.recordMetrics id values).sightings g k) := by
  by_cases same : id = k
  · intro r found
    obtain ⟨s, stats, -⟩ := h r found
    rw [Registry.recordMetrics, getStats, same, stats] at refused
    cases refused
  · rw [Call.sightings, if_neg same, List.append_nil]
    exact h

/-- Of pups that were loaded nothing was seen yet. -/
theorem ofRecords (range : AllocationRange) (size : Nat) (records : List Record) (k : String) :
    (Registry.ofRecords range size records).Shown size k [] := by
  refine refreshHealth fun r found => ?_
  have started := Dict.get?_ofList_map (fun r => Stats.start r.id r.manifest size)
    (records.map fun r => (r.id, r)) k
  rw [List.map_map, found] at started
  exact ⟨_, started, .start _ _ _⟩

end Registry.Shown

/-- A call by which nothing is seen of a pup leaves what its stats show, unless it adopts the pup. -/
theorem Call.Outcome.shown {m m' : Manager} {d d' : Disk} {c : Call}
    {answer : Except ManagerError Answer} {k : String} {seen : List Sighting}
    (h : Call.Outcome m d c answer m' d') (indexed : m.registry.Indexed)
    (shown : m.registry.Shown m.settings.bufferSize k seen)
    (notSample : ∀ sample slow, c ≠ .ingest sample slow)
    (notMetrics : ∀ id values, c ≠ .recordMetrics id values) :
    m'.registry.Shown m.settings.bufferSize k
      (if (c.adoptee answer).any (·.id == k) then [] else seen) := by
  cases h with
  | refused | unsaved =>
    rw [Call.adoptee_error]
    exact shown
  | attended idle answer notices stats =>
    rw [Call.adoptee_idle idle]
    exact shown
  | @adopted _ _ _ _ r _ planned saved =>
    simp only [Call.adoptee, Option.any_some, beq_iff_eq]
    exact shown.commitAdoption r
  | updated planned saved =>
    obtain ⟨old, found, kept⟩ := Registry.kept_planUpdate planned
    rw [Manager.registry_announceKinds]
    refine shown.commitUpdate ⟨old, ?_, kept⟩
    rw [kept.id, indexed.keyed _ old found, found]
  | purged purged =>
    obtain ⟨-, rfl⟩ := Registry.purge_ok purged
    exact shown.erase _
  | ingested sample slow => exact absurd rfl (notSample sample slow)
  | recorded => exact absurd rfl (notMetrics _ _)

/-- **One call keeps that the stats show what was seen.** -/
theorem Call.shown {m : Manager} (indexed : m.registry.Indexed) {k : String} {seen : List Sighting}
    (shown : m.registry.Shown m.settings.bufferSize k seen) (c : Call) (d : Disk) :
    (c.run m d).2.1.registry.Shown m.settings.bufferSize k (c.seenAfter m d k seen) := by
  cases c with
  | ingest sample slow => exact shown.ingest sample slow
  | recordMetrics id values =>
    simp only [Call.seenAfter, Call.run, Manager.recordMetrics]
    cases recorded : m.registry.recordMetrics id values with
    | error e => exact shown.recordMetrics_error recorded
    | ok g => exact shown.recordMetrics recorded
  | _ =>
    simp only [Call.seenAfter, Call.sightings, List.append_nil]
    exact (Call.outcome _ m d).shown indexed shown (by simp) (by simp)

/-- Every sequence of calls keeps that the stats show what was seen. -/
theorem Manager.shown_after {m : Manager} (indexed : m.registry.Indexed) {k : String}
    {seen : List Sighting} (shown : m.registry.Shown m.settings.bufferSize k seen)
    (calls : List (Call × Disk)) :
    (m.after calls).registry.Shown m.settings.bufferSize k (m.history k seen calls) := by
  induction calls generalizing m seen with
  | nil => exact shown
  | cons c calls ih =>
    have outcome := c.1.outcome m c.2
    have next := ih (outcome.effect.indexed indexed)
      (by rw [outcome.settings.1]; exact c.1.shown indexed shown c.2)
    rwa [outcome.settings.1] at next

/-! ## What leaves the series alone -/

/-- All series of the stats. -/
def Stats.series (s : Stats) :
    Rolling Float × Rolling Float × Rolling Float × Rolling Float × Dict (Rolling Float) :=
  (s.cpuPercent, s.memMb, s.memPercent, s.diskMb, s.metrics)

namespace Registry

variable {g g' : Registry}

theorem series_refreshHealth (g : Registry) (k : String) :
    (g.refreshHealth.stats.get? k).map Stats.series = (g.stats.get? k).map Stats.series := by
  rw [refreshHealth, Dict.get?_mapWithKey, Option.map_map]
  refine congrArg (Option.map · (g.stats.get? k)) (funext fun s => ?_)
  cases g.records.get? k <;> rfl

/-- A sample of the fast kind puts nothing into the series, and a sample puts nothing into those of a
pup that it is not about. -/
theorem series_ingest (g : Registry) (sample : Sample) (slow : Bool) (k : String)
    (quiet : slow = false ∨ ∀ o ∈ sample, o.1.pup ≠ k) :
    ((g.ingest sample slow).stats.get? k).map Stats.series =
      (g.stats.get? k).map Stats.series := by
  rw [ingest, series_refreshHealth]
  induction sample generalizing g with
  | nil => rfl
  | cons o sample ih =>
    rw [List.foldl_cons, ih _ (quiet.imp_right fun h o member => h o (List.mem_cons_of_mem _ member))]
    unfold observe
    split
    · rfl
    · rw [Dict.get?_modify, Option.map_map]
      refine congrArg (Option.map · (g.stats.get? k)) (funext fun s => ?_)
      simp only [Function.comp_apply]
      split
      · next same =>
        rw [quiet.resolve_right fun h => h o List.mem_cons_self same.symm]
        rfl
      · rfl

/-- Values of metrics join no series of another pup, and none if no name among them is declared. -/
theorem series_recordMetrics {id : String} {values : Dict Float}
    (recorded : g.recordMetrics id values = .ok g') (k : String)
    (quiet : k ≠ id ∨ ∀ s name, g.stats.get? k = some s → (values.get? name).isSome →
      s.metrics.get? name = none) :
    (g'.stats.get? k).map Stats.series = (g.stats.get? k).map Stats.series := by
  unfold recordMetrics at recorded
  cases tracked : g.getStats id with
  | error e => rw [tracked] at recorded; cases recorded
  | ok =>
    rw [tracked] at recorded
    obtain rfl := Except.ok.inj recorded
    rw [Dict.get?_modify, Option.map_map]
    cases stats : g.stats.get? k with
    | none => rfl
    | some s =>
      simp only [Option.map_some, Function.comp_apply, Option.some.injEq]
      split
      · next same =>
        have undeclared := fun name => quiet.resolve_left (· same) s name stats
        have kept : (s.recordMetrics values).metrics = s.metrics := by
          refine Dict.ext_get? fun name => ?_
          rw [Stats.recordMetrics, Dict.get?_mapWithKey]
          cases value : values.get? name with
          | none => simp
          | some v => rw [undeclared name (by rw [value]; rfl), Option.map_none]
        exact congrArg (fun metrics =>
          (s.cpuPercent, s.memMb, s.memPercent, s.diskMb, metrics)) kept
      · rfl

end Registry

/-- **The stats are the history of what was seen.** A manager is loaded from any store, and anything is
called on it, on any disks. Then, as things stand, the stats of every installed pup show exactly what was
seen of it since it was loaded or adopted: its status follows from the last entry of a sample that was
about it and from what its owner wanted when that sample came, each series of measurements holds the last
values of the samples of the slow kind, and each metric that its manifest declares the last values that
were given for it. Of several services of one pup in one sample each counts, in the order of the sample.

Samples of the fast kind and those that are not about a pup leave all its series as they are, and so do
values for another pup and values of metrics that are not declared. -/
theorem stats_show_history {settings : ManagerSettings} {store : Store} {catalogs : CatalogSource}
    {monitor : Option Monitor} {d : Disk} {m : Manager}
    (loaded : Manager.load settings store catalogs monitor d = .ok m) (calls : List (Call × Disk)) :
    (∀ k r, (m.after calls).registry.records.get? k = some r →
      ∃ s, (m.after calls).registry.stats.get? k = some s ∧
        s.Shows r.manifest settings.bufferSize (m.history k [] calls)) ∧
    (∀ sample slow k, slow = false ∨ (∀ o ∈ sample, o.1.pup ≠ k) →
      (((m.after calls).ingest sample slow).registry.stats.get? k).map Stats.series =
        ((m.after calls).registry.stats.get? k).map Stats.series) ∧
    ∀ id values k, k ≠ id ∨ (∀ r name, (m.after calls).registry.records.get? k = some r →
        (values.get? name).isSome → name ∉ r.manifest.metrics.map (·.name)) →
      (((m.after calls).recordMetrics id values).2.registry.stats.get? k).map Stats.series =
        ((m.after calls).registry.stats.get? k).map Stats.series := by
  have indexed := (Manager.current_load loaded).1
  have shown : ∀ k, (m.after calls).registry.Shown settings.bufferSize k (m.history k [] calls) := by
    intro k
    unfold Manager.load at loaded
    split at loaded
    · cases loaded
    · next records _ =>
      cases loaded
      exact Manager.shown_after indexed (.ofRecords settings.range settings.bufferSize records k) calls
  have indexed := Manager.registry_after (fun _ _ h effect => effect.indexed h) m indexed calls
  generalize m.after calls = m' at indexed shown
  refine ⟨shown, fun sample slow k quiet => Registry.series_ingest _ sample slow k quiet,
    fun id values k quiet => ?_⟩
  unfold Manager.recordMetrics
  cases recorded : m'.registry.recordMetrics id values with
  | error e => rfl
  | ok g =>
    refine Registry.series_recordMetrics recorded k (quiet.imp_right fun undeclared s name stats given => ?_)
    have installed := indexed.tracked k
    rw [stats] at installed
    obtain ⟨r, found⟩ := Option.isSome_iff_exists.1 installed.symm
    obtain ⟨s', stats', shows⟩ := shown k r found
    obtain rfl := Option.some.inj (stats.symm.trans stats')
    rw [shows.metrics name, if_neg (undeclared r name found given)]

/-- A pup that declares one metric is adopted and enabled. -/
def enabledPup : List (Call × Disk) :=
  [(.adopt (.numbersFrom 0)
      { identity := ⟨"node", "1.0.0", ""⟩, metrics := [{ name := "blocks" }] } ⟨"main", "/srv"⟩ none,
      bareDisk),
    (.update "0" [.setEnabled true] none, bareDisk)]

/-- The pup is measured while it runs, and looked at when it does not; it gives two metrics. -/
def measurements : List (Call × Disk) :=
  [(.ingest [(.container "0", { cpuPercent := 1.5, running := true })] true, bareDisk),
    (.ingest [(.container "0", { cpuPercent := 2.5 })] false, bareDisk),
    (.recordMetrics "0" (Dict.ofList [("blocks", 7), ("peers", 3)]), bareDisk)]

/-- The pup should run and does not, one measurement was taken in, and the metric that it declares has
its value. -/
theorem stats_show_history_measurements :
    Manager.load bareManager.settings bareManager.store default bareManager.monitor bareDisk =
        .ok bareManager.rewatch ∧
      ∃ s, (bareManager.rewatch.after (enabledPup ++ measurements)).registry.stats.get? "0" = some s ∧
        s.status = .starting ∧ s.cpuPercent.values = [1.5] ∧
        (s.metrics.get? "blocks").map (·.values) = some [7] ∧ (s.metrics.get? "peers").isNone := by
  obtain ⟨shown, -⟩ := stats_show_history load_bareDisk (enabledPup ++ measurements)
  have installed : ((bareManager.rewatch.after (enabledPup ++ measurements)).registry.records.get?
      "0").map (·.manifest.metrics) = some [{ name := "blocks" }] := by decide +kernel
  obtain ⟨r, found, declared⟩ := Option.map_eq_some_iff.1 installed
  obtain ⟨s, stats, shows⟩ := shown "0" r found
  have seen : bareManager.rewatch.history "0" [] (enabledPup ++ measurements) =
      [.sampled true true { cpuPercent := 1.5, running := true },
        .sampled true false { cpuPercent := 2.5 },
        .metered (Dict.ofList [("blocks", 7), ("peers", 3)])] := by
    have begun : bareManager.rewatch.history "0" [] enabledPup = [] :=
      List.isEmpty_iff.1 (by decide +kernel)
    have enabled : ((bareManager.rewatch.after enabledPup).registry.records.get? "0").map
        (·.enabled) = some true := by decide +kernel
    have still : (((bareManager.rewatch.after enabledPup).ingest
        [(.container "0", { cpuPercent := 1.5, running := true })] true).registry.records.get? "0").map
        (·.enabled) = some true := by decide +kernel
    rw [Manager.history_append, begun]
    generalize bareManager.rewatch.after enabledPup = m at enabled still
    obtain ⟨r₁, found₁, enabled₁⟩ := Option.map_eq_some_iff.1 enabled
    obtain ⟨r₂, found₂, enabled₂⟩ := Option.map_eq_some_iff.1 still
    have pup : (MonitoredService.container "0").pup = "0" := rfl
    simp [measurements, Manager.history, Call.seenAfter, Call.adoptee, Call.sightings, Call.run,
      found₁, found₂, enabled₁, enabled₂, pup]
  rw [seen] at shows
  refine ⟨load_bareDisk, s, stats, shows.status, ?_, ?_, ?_⟩
  · rw [shows.cpuPercent]
    rfl
  · rw [shows.metrics, declared]
    rfl
  · rw [shows.metrics, declared]
    rfl

end Kennel
