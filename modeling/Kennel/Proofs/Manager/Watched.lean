import Kennel.Proofs.Manager.Delivery

/-!
# Who is watched and whose stats are listed

Which pups are installed is known in three places: in the records, in the stats, and to the monitor,
which goes by the list that it was given last. Each operation writes them one by one. **After every
call the three agree** (`watched_and_listed`), whether the call failed or not, and so they do after
every loading, whatever records were found.

That the records and the stats are of the same pups is an invariant already (`Registry.Indexed`). Two
more belong to it here: the stats of a pup bear its ID (`Registry.Labelled`), by which they are listed;
and the monitor was given the installed pups last (`Manager.Announced`). An update gives the monitor no
list, and needs to give none, since it installs nobody.

While a change is under way, the monitor is behind from the commit until it is told, and at no other
time.
-/

namespace Kennel

open Traffic

/-! ## The stats bear their IDs -/

namespace Stats

theorem id_observe (enabled slow : Bool) (v : Vitals) (s : Stats) :
    (s.observe enabled slow v).id = s.id := by
  unfold observe
  split <;> rfl

end Stats

namespace Registry

variable {g g' : Registry}

/-- The stats of each pup bear its ID. -/
def Labelled (g : Registry) : Prop := ∀ k s, g.stats.get? k = some s → s.id = k

namespace Labelled

/-- Stats that are changed and keep the ID that they bear are labelled still. -/
theorem of_map (h : g.Labelled) {f : String → Stats → Stats} (id : ∀ k s, (f k s).id = s.id)
    (stats : ∀ k, g'.stats.get? k = (g.stats.get? k).map (f k)) : g'.Labelled := by
  intro k s' found
  rw [stats, Option.map_eq_some_iff] at found
  obtain ⟨s, found, rfl⟩ := found
  exact (id k s).trans (h k s found)

theorem refreshHealth (h : g.Labelled) : g.refreshHealth.Labelled :=
  h.of_map (fun k s => by cases g.records.get? k <;> rfl) (Dict.get?_mapWithKey _ g.stats)

/-- The stats that a pup starts with bear its ID. -/
theorem insert (h : g.Labelled) (records : Dict Record) (r : Record) (size : Nat) (a : Allocator) :
    Labelled ⟨records, g.stats.insert r.id (Stats.start r.id r.manifest size), a⟩ := by
  intro k s found
  rw [Dict.get?_insert] at found
  split at found
  · next same => exact (congrArg Stats.id (Option.some.inj found)).symm.trans same.symm
  · exact h k s found

theorem erase (h : g.Labelled) (records : Dict Record) (id : String) (a : Allocator) :
    Labelled ⟨records, g.stats.erase id, a⟩ := by
  intro k s found
  rw [Dict.get?_erase] at found
  split at found
  · cases found
  · exact h k s found

theorem observe (h : g.Labelled) (slow : Bool) (o : MonitoredService × Vitals) :
    (g.observe slow o).Labelled := by
  unfold Registry.observe
  split
  · exact h
  · next r _ =>
    refine h.of_map (f := fun k s => if k = o.1.pup then s.observe r.enabled slow o.2 else s)
      (fun k s => ?_) (Dict.get?_modify _ _ _)
    split
    · exact Stats.id_observe _ _ _ _
    · rfl

theorem foldl_observe (h : g.Labelled) (slow : Bool) (sample : Sample) :
    (sample.foldl (Registry.observe slow) g).Labelled := by
  induction sample generalizing g with
  | nil => exact h
  | cons o sample ih => exact ih (h.observe slow o)

theorem recordMetrics (h : g.Labelled) {id : String} {values : Dict Float}
    (recorded : g.recordMetrics id values = .ok g') : g'.Labelled := by
  unfold Registry.recordMetrics at recorded
  cases found : g.getStats id with
  | error e => rw [found] at recorded; cases recorded
  | ok s =>
    rw [found] at recorded
    obtain rfl := Except.ok.inj recorded
    refine h.of_map (f := fun k s => if k = id then s.recordMetrics values else s) (fun k s => ?_)
      (Dict.get?_modify _ _ _)
    split <;> rfl

/-- **Every operation on the registry leaves the stats labelled.** -/
theorem step (h : g.Labelled) (effect : Call.Effect g g') : g'.Labelled := by
  cases effect with
  | none => exact h
  | adopt bufferSize planned => exact (h.insert _ _ _ _).refreshHealth
  | update planned => exact refreshHealth (fun k s found => h k s found)
  | purge purged =>
    obtain ⟨-, rfl⟩ := purge_ok purged
    exact (h.erase _ _ _).refreshHealth
  | ingest sample slow => exact (h.foldl_observe slow sample).refreshHealth
  | recordMetrics recorded => exact h.recordMetrics recorded

/-- The listed stats bear the IDs under which stats are kept, in their order. -/
theorem map_id_statsList (h : g.Labelled) : g.statsList.map (·.id) = g.stats.keys := by
  rw [statsList, Dict.values, Dict.keys, List.map_map]
  exact List.map_congr_left fun e member => h e.1 e.2 (Dict.get?_eq_some_iff.2 member)

end Labelled

/-- The stats of any records are labelled. -/
theorem labelled_ofRecords (range : AllocationRange) (bufferSize : Nat) (records : List Record) :
    (ofRecords range bufferSize records).Labelled := by
  refine Labelled.refreshHealth fun k s found => ?_
  obtain ⟨r, -, same⟩ := List.mem_map.1 ((Dict.ofList_sound _ k).2 s found)
  obtain ⟨rfl, rfl⟩ := Prod.mk.inj same
  rfl

/-! ## The lists of pups and stats -/

/-- The pups and the stats that are listed are those of the installed pups. -/
structure Accounted (g : Registry) : Prop where
  installed : ∀ id, id ∈ g.list.map (·.id) ↔ ∃ r, g.get id = .ok r
  /-- No pup is listed twice. -/
  once : (g.list.map (·.id)).Nodup
  tracked : ∀ id, id ∈ g.statsList.map (·.id) ↔ id ∈ g.list.map (·.id)
  /-- The stats are listed in ascending order of their IDs, so those of each pup once. -/
  ascending : (g.statsList.map (·.id)).Pairwise fun a b => a < b

/-- The IDs of the listed pups are the keys of the records. -/
theorem Indexed.perm_ids (h : g.Indexed) : (g.list.map (·.id)).Perm g.records.keys := by
  have keys : g.records.values.map (·.id) = g.records.keys := by
    rw [Dict.values, Dict.keys, List.map_map]
    exact List.map_congr_left fun e member => h.keyed e.1 e.2 (Dict.get?_eq_some_iff.2 member)
  rw [← keys]
  exact (List.mergeSort_perm g.records.values _).map _

/-- **Where the stats are those of the records, and labelled, all pups are accounted for.** -/
theorem Indexed.accounted (h : g.Indexed) (labelled : g.Labelled) : g.Accounted where
  installed id := by
    rw [h.perm_ids.mem_iff, Dict.mem_keys_iff, Option.isSome_iff_exists]
    exact exists_congr fun r => get_eq_ok_iff.symm
  once := h.perm_ids.nodup_iff.2 g.records.nodup_keys
  tracked id := by
    rw [labelled.map_id_statsList, h.perm_ids.mem_iff, Dict.mem_keys_iff, Dict.mem_keys_iff,
      h.tracked]
  ascending := by
    rw [labelled.map_id_statsList]
    exact g.stats.pairwise_keys

end Registry

/-! ## The monitor was told -/

namespace Monitor

theorem watchLists_watch (w : Monitor) (services : List MonitoredService) :
    (w.watch services).watchLists = w.watchLists ++ [services] := by
  simp [watchLists, watch]

theorem watchLists_burst (w : Monitor) (service : MonitoredService) :
    (w.burst service).watchLists = w.watchLists := by
  simp [watchLists, burst]

end Monitor

namespace Manager

variable {m m' : Manager}

/-- The monitor, if there is one, was given the installed pups last. -/
def Announced (m : Manager) : Prop :=
  ∀ w, m.monitor = some w →
    w.watchLists.getLast? = some (m.registry.records.keys.map MonitoredService.container)

theorem announced_rewatch (m : Manager) : m.rewatch.Announced := by
  intro w told
  obtain ⟨w, -, rfl⟩ := Option.map_eq_some_iff.1 told
  rw [Monitor.watchLists_watch, List.getLast?_append]
  rfl

/-- Where no pup comes or goes, the monitor needs no other list. -/
theorem Announced.of_keys (h : m.Announced)
    (lists : m'.monitor.map Monitor.watchLists = m.monitor.map Monitor.watchLists)
    (pups : ∀ k, (m'.registry.records.get? k).isSome = (m.registry.records.get? k).isSome) :
    m'.Announced := by
  intro w' told
  rw [told, Option.map_some] at lists
  obtain ⟨w, before, same⟩ := Option.map_eq_some_iff.1 lists.symm
  rw [← same, h w before, Dict.keys_eq_of_isSome_eq pups]

theorem watchLists_announceKinds (m : Manager) (id : String) (kinds : List NoticeKind) :
    (m.announceKinds id kinds).monitor.map Monitor.watchLists = m.monitor.map Monitor.watchLists := by
  unfold announceKinds
  split
  · rw [Option.map_map]
    exact congrArg (Option.map · m.monitor) (funext fun w => w.watchLists_burst _)
  · rfl

/-- Records and stats are of the same pups, the stats are labelled, and the monitor was told. -/
structure Attended (m : Manager) : Prop where
  indexed : m.registry.Indexed
  labelled : m.registry.Labelled
  announced : m.Announced

/-- **Every call leaves the monitor told.** -/
theorem Attended.call (h : m.Attended) {d d' : Disk} {c : Call} {answer : Except ManagerError Answer}
    (outcome : Call.Outcome m d c answer m' d') : m'.Attended := by
  refine ⟨outcome.effect.indexed h.indexed, h.labelled.step outcome.effect, ?_⟩
  cases outcome with
  | refused | unsaved => exact h.announced
  | attended => exact h.announced
  | adopted | purged => exact announced_rewatch _
  | updated planned saved =>
    refine h.announced.of_keys (watchLists_announceKinds _ _ _) fun k => ?_
    obtain ⟨old, found, kept⟩ := Registry.kept_planUpdate planned
    rw [registry_announceKinds]
    refine (Registry.isSome_records_refreshHealth _ k).trans ?_
    rw [Dict.get?_insert]
    split
    · next same => rw [same, kept.id, h.indexed.keyed _ old found, found]; rfl
    · rfl
  | ingested sample slow =>
    obtain ⟨seen, seenEq, records, -⟩ := Registry.ingest_eq m.registry sample slow
    refine h.announced.of_keys rfl fun k => ?_
    rw [show (m.ingest sample slow).registry = seen.refreshHealth from seenEq,
      Registry.isSome_records_refreshHealth, records]
  | recorded recorded =>
    exact h.announced.of_keys rfl fun k => by
      rw [show _ = m.registry.records from (Registry.recordMetrics_ok recorded).1]

/-- **Every loading leaves the monitor told.** -/
theorem attended_load {settings : ManagerSettings} {store : Store} {catalogs : CatalogSource}
    {monitor : Option Monitor} {d : Disk} (loaded : load settings store catalogs monitor d = .ok m) :
    m.Attended := by
  unfold load at loaded
  split at loaded
  · cases loaded
  · cases loaded
    exact ⟨Registry.indexed_ofRecords _ _ _, Registry.labelled_ofRecords _ _ _, announced_rewatch _⟩

/-- Something that happens to the manager in service. -/
inductive Event where
  | call (c : Call)
  /-- A manager is loaded from a store, to go on with the same monitor. -/
  | load (settings : ManagerSettings) (store : Store) (catalogs : CatalogSource)

/-- The manager in service after an event; one that cannot be loaded does not take its place. -/
def meet (m : Manager) (d : Disk) : Event → Manager
  | .call c => (c.run m d).2.1
  | .load settings store catalogs =>
    match load settings store catalogs m.monitor d with
    | .ok m => m
    | .error _ => m

/-- The manager in service after events, each of which meets some disk. -/
def meetAll (m : Manager) (events : List (Event × Disk)) : Manager :=
  events.foldl (fun m e => m.meet e.2 e.1) m

theorem Attended.meet (h : m.Attended) (d : Disk) (e : Event) : (m.meet d e).Attended := by
  cases e with
  | call c => exact h.call (c.outcome m d)
  | load settings store catalogs =>
    simp only [Manager.meet]
    split
    · next loaded => exact attended_load loaded
    · exact h

theorem Attended.meetAll (h : m.Attended) (events : List (Event × Disk)) :
    (m.meetAll events).Attended := by
  induction events generalizing m with
  | nil => exact h
  | cons e events ih => exact ih (h.meet e.2 e.1)

/-- The lists account for the installed pups, and the monitor was last told to watch the container of
each of them, once, and nothing else. -/
structure InStep (m : Manager) : Prop where
  accounted : m.registry.Accounted
  watched : ∀ w, m.monitor = some w → ∃ services, w.watchLists.getLast? = some services ∧
    services.Nodup ∧ ∀ s, s ∈ services ↔ ∃ r ∈ m.registry.list, s = .container r.id

theorem Attended.inStep (h : m.Attended) : m.InStep where
  accounted := h.indexed.accounted h.labelled
  watched w told := by
    refine ⟨_, h.announced w told, ?_, fun s => ?_⟩
    · exact List.pairwise_map.2 (m.registry.records.nodup_keys.imp fun differ same =>
        differ (congrArg MonitoredService.pup same))
    · have ids (id : String) := (h.indexed.perm_ids.mem_iff (a := id)).symm
      simp only [List.mem_map, ids, exists_exists_and_eq_and, eq_comm (a := s)]

end Manager

/-! ## Many at once -/

/-- Requests in a row leave the monitor told. -/
theorem Traffic.Request.attended_runAll {m : Manager} (h : m.Attended) (d : Disk)
    (requests : List Request) : (runAll m d requests).2.1.Attended := by
  induction requests generalizing m d with
  | nil => exact h
  | cons request requests ih =>
    refine ih ?_ _
    cases request with
    | call c => exact h.call (c.outcome m d)
    | query q => exact h

/-- **The lists and the monitor know the same pups.** A manager is loaded from any store. Anything is
called on it, and managers are loaded in its place, on any disks; any of this may fail. Then each time
the pups that are listed are those that are installed, each once; the stats are listed in ascending order
of their IDs, those of each listed pup once and no others; and the monitor was last given a list with the
container of each installed pup, once, and nothing else.

When many ask at once, the lists are right at every moment, and so is what the monitor was given, unless
a change is committed that it is still to be told of. -/
theorem watched_and_listed {settings : ManagerSettings} {store : Store} {catalogs : CatalogSource}
    {monitor : Option Monitor} {d : Disk} {m : Manager}
    (loaded : Manager.load settings store catalogs monitor d = .ok m) :
    (∀ events : List (Manager.Event × Disk), (m.meetAll events).InStep) ∧
    ∀ (requests : Nat → Request) (schedule : List Nat) (s : Traffic),
      Traffic.run requests { manager := m, disk := d } schedule = s →
        s.manager.registry.Accounted ∧
          ((∀ t tidings, s.writer ≠ some (t, .committed tidings)) → s.manager.InStep) := by
  have start := Manager.attended_load loaded
  refine ⟨fun events => (start.meetAll events).inStep, fun requests schedule s ran => ?_⟩
  have serial := ran ▸ (Serial.start loaded requests).run schedule
  obtain ⟨m', d', before, here⟩ := serial.serial
  have attended := Request.attended_runAll start d (s.log.map fun e => requests e.1)
  rw [before] at attended
  cases here with
  | free | planned | stored => exact ⟨attended.inStep.accounted, fun _ => attended.inStep⟩
  | @committed t tidings writer =>
    have same := tidings.registry_tell s.manager
    exact ⟨same ▸ attended.inStep.accounted, fun told => absurd writer (told t tidings)⟩

/-- Two pups are adopted, no manager can be loaded from a store that is not there, one of the pups is
purged, and it cannot be adopted again since its record cannot be put in its place. -/
def halfMoved : List (Manager.Event × Disk) :=
  [(.call (.adopt (.numbersFrom 0) { identity := ⟨"node", "1.0.0", ""⟩ } ⟨"main", "/srv"⟩ none),
      bareDisk),
    (.call (.adopt (.numbersFrom 0) { identity := ⟨"wallet", "1.0.0", ""⟩ } ⟨"main", "/srv"⟩ none),
      bareDisk),
    (.load bareManager.settings ⟨"nowhere"⟩ default, bareDisk),
    (.call (.purge "0"), bareDisk),
    (.call haltedAdoption, bareDisk)]

/-- The other pup is watched and listed. -/
theorem watched_and_listed_halfMoved :
    Manager.load bareManager.settings bareManager.store default bareManager.monitor bareDisk =
        .ok bareManager.rewatch ∧
      (bareManager.rewatch.meetAll halfMoved).InStep ∧
      (bareManager.rewatch.meetAll halfMoved).monitor.map Monitor.watched =
        some [.container "1"] ∧
      (bareManager.rewatch.meetAll halfMoved).registry.statsList.map (·.id) = ["1"] :=
  ⟨load_bareDisk, (watched_and_listed load_bareDisk).1 halfMoved, by decide +kernel,
    by decide +kernel⟩

end Kennel
