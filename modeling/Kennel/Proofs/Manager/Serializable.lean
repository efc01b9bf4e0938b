import Kennel.Proofs.Manager.Reload
import Kennel.Proofs.Manager.Traffic

/-!
# Requests at once are requests in a row

However the steps of many requests fall between each other, the manager ends as if the requests had
been served one after another in the order of the log, and each has the reply that it has then
(`serializable`).

A change is committed as it was planned, though samples can come in between. That is right since a step
that needs no write lock leaves everything a plan is made from as it is (`Manager.Alike`): it changes
stats, and the flags of a record follow from the rest of it and from which pups there are, not from
their stats. And such a step does not ask for the monitor or the disk (`Request.run_heard`), so that it
comes to the same whether the change before it is all done or not.

The invariant (`Traffic.Serial`) compares the state with the one that the requests of the log come to
in a row. They differ only while a request holds the write lock: by a record that is stored and not
committed, or by what the monitor is not told yet (`Traffic.Matches`).
-/

namespace Kennel

open Traffic

/-! ## Steps that need no write lock -/

/-- Two managers agree in all that a plan is made from, and in what the monitor was asked. -/
structure Manager.Alike (m m' : Manager) : Prop where
  records : m'.registry.records = m.registry.records
  allocator : m'.registry.allocator = m.registry.allocator
  pups : ∀ k, (m'.registry.stats.get? k).isSome = (m.registry.stats.get? k).isSome
  store : m'.store = m.store
  monitor : m'.monitor = m.monitor

namespace Manager.Alike

variable {m m' : Manager}

theorem refl (m : Manager) : m.Alike m := ⟨rfl, rfl, fun _ => rfl, rfl, rfl⟩

/-- **A plan stays what it is.** -/
theorem plan? (h : m.Alike m') (c : Call) : c.plan? m'.registry = c.plan? m.registry := by
  have marked : ∀ r, m'.registry.marked r = m.registry.marked r := fun r =>
    Registry.marked_eq h.pups rfl
  cases c with
  | adopt ids manifest source breakdown =>
    simp only [Call.plan?, Registry.planAdoption, h.records, h.allocator, marked]
  | update id updates breakdown =>
    simp only [Call.plan?, Registry.planUpdate, Registry.get, Registry.missingProvider?, h.records,
      marked]
  | _ => rfl

/-- **A request that needs no write lock** leaves everything that a plan is made from. -/
theorem run (fresh : m.registry.Fresh) {request : Request} (idle : request.isChange = false)
    (d : Disk) : m.Alike (request.run m d).2.1 := by
  cases request with
  | query q => exact .refl m
  | call c =>
    have outcome := c.outcome m d
    simp only [Request.run]
    generalize (c.run m d).2.1 = m', (c.run m d).1 = answer, (c.run m d).2.2 = d' at outcome ⊢
    cases outcome with
    | refused | unsaved => exact .refl m
    | adopted | updated | purged => cases idle
    | attended => exact ⟨rfl, rfl, fun _ => rfl, rfl, rfl⟩
    | recorded recorded =>
      obtain ⟨records, allocator, pups⟩ := Registry.recordMetrics_ok recorded
      exact ⟨records, allocator, pups, rfl, rfl⟩
    | ingested sample slow =>
      obtain ⟨seen, seenEq, records, allocator, pups⟩ := Registry.ingest_eq m.registry sample slow
      have same : (m.ingest sample slow).registry = seen.refreshHealth := seenEq
      refine ⟨Dict.ext_get? fun k => ?_, by rw [same]; exact allocator, fun k => ?_, rfl, rfl⟩
      · -- The flags are found anew, and they are what they were.
        rw [same, Registry.get?_refreshHealth, records]
        cases found : m.registry.records.get? k with
        | none => rfl
        | some r => exact congrArg some ((Registry.marked_eq pups rfl).trans (fresh k r found))
      · rw [same, Registry.isSome_stats_refreshHealth, pups]

/-- With the same pups every record still bears its verdict. -/
theorem fresh (h : m.Alike m') (fresh : m.registry.Fresh) : m'.registry.Fresh := by
  intro k r found
  rw [h.records] at found
  exact (Registry.marked_eq h.pups rfl).trans (fresh k r found)

end Manager.Alike

/-- A record that is put in is found with the verdict on it. -/
theorem Registry.get?_refreshHealth_insert (records : Dict Record) (stats : Dict Stats)
    (allocator : Allocator) (r : Record) :
    (refreshHealth ⟨records.insert r.id r, stats, allocator⟩).records.get? r.id =
      some (marked ⟨records.insert r.id r, stats, allocator⟩ r) := by
  rw [get?_refreshHealth, Dict.get?_insert, if_pos rfl]
  rfl

namespace Traffic

variable {m : Manager} {request : Request}

/-- **A request that needs no write lock** is served the same whatever the monitor was told and
whatever is on the disk. -/
theorem Request.run_heard (idle : request.isChange = false) (m : Manager) (heard : Option Monitor)
    (d d' : Disk) :
    request.run { m with monitor := heard } d' =
      ((request.run m d).1, { (request.run m d).2.1 with monitor := heard }, d') := by
  cases request with
  | query q => cases q <;> rfl
  | call c =>
    cases c with
    | adopt | update | purge => cases idle
    | recordMetrics id values =>
      simp only [Request.run, Call.run, Manager.recordMetrics]
      cases m.registry.recordMetrics id values <;> rfl
    | _ => rfl

/-- It comes to the same whether the monitor is told before it or after it. -/
theorem Request.run_tell (fresh : m.registry.Fresh) (idle : request.isChange = false)
    (tidings : Tidings) (d : Disk) :
    request.run (tidings.tell m) d =
      ((request.run m d).1, tidings.tell (request.run m d).2.1, d) := by
  have alike := Manager.Alike.run fresh idle d
  cases tidings with
  | pups =>
    refine (run_heard idle m _ d d).trans ?_
    simp only [Tidings.tell, Manager.rewatch, alike.records, alike.monitor]
  | kinds id changes =>
    simp only [Tidings.tell, Manager.announceKinds]
    split
    · refine (run_heard idle m _ d d).trans ?_
      simp only [alike.monitor]
    · refine (run_heard idle m m.monitor d d).trans ?_
      simp only [← alike.monitor]

theorem Tidings.registry_tell (tidings : Tidings) (m : Manager) :
    (tidings.tell m).registry = m.registry := by
  cases tidings with
  | pups => rfl
  | kinds id changes => exact Manager.registry_announceKinds m id changes

/-! ## Commits -/

/-- After a commit every record bears its verdict. -/
theorem Plan.fresh_commit (plan : Plan) (m : Manager) : (plan.commit m).registry.Fresh := by
  cases plan <;> exact Registry.fresh_refreshHealth _

/-- After the drop of a pup every record bears its verdict. -/
theorem fresh_drop {m' : Manager} {id : String} (dropped : m.drop id = .ok m') :
    m'.registry.Fresh := by
  unfold Manager.drop at dropped
  cases purged : m.registry.purge id with
  | error e =>
    rw [purged] at dropped
    cases dropped
  | ok g =>
    rw [purged] at dropped
    cases dropped
    obtain ⟨-, rfl⟩ := Registry.purge_ok purged
    exact Registry.fresh_refreshHealth _

/-- The flags of a record without providers follow from the record alone. -/
theorem marked_of_no_providers (g g' : Registry) {r : Record} (none : r.providers = ∅) :
    g'.marked r = g.marked r := by
  have nothing : ∀ (statusOf : String → Option Status) interface,
      Health.providerStatus r statusOf interface = .none := by
    intro statusOf interface
    rw [Health.providerStatus, none]
    rfl
  simp only [Registry.marked, Registry.evaluate, Health.evaluate, Health.mark, nothing]

/-- **What is committed is what was planned**, flags and all. -/
theorem Plan.get?_commit {c : Call} {plan : Plan}
    (planned : c.plan? m.registry = some (.ok plan)) :
    (plan.commit m).registry.records.get? plan.record.id = some plan.record := by
  cases c with
  | adopt ids manifest source breakdown =>
    cases adopted : m.registry.planAdoption ids manifest source with
    | error e =>
      rw [Call.plan?, adopted] at planned
      cases planned
    | ok r =>
      rw [Call.plan?, adopted] at planned
      cases planned
      obtain ⟨-, -, address, ports, -, -, rfl⟩ := Registry.planAdoption_ok adopted
      exact (Registry.get?_refreshHealth_insert _ _ _ _).trans
        (congrArg some (marked_of_no_providers m.registry _ rfl))
  | update id updates breakdown =>
    cases updated : m.registry.planUpdate id updates with
    | error e =>
      rw [Call.plan?, updated] at planned
      cases planned
    | ok p =>
      rw [Call.plan?, updated] at planned
      cases planned
      obtain ⟨r, kinds⟩ := p
      obtain ⟨old, -, rfl⟩ := Registry.planUpdate_ok updated
      exact (Registry.get?_refreshHealth_insert _ _ _ _).trans
        (congrArg some (Registry.marked_eq (fun _ => rfl) rfl))
  | _ => cases planned

/-! ## The state against the requests in a row -/

/-- The requests of the log, one after another, have come to this manager and this disk. They can be
behind the state by a record that is stored and not committed, and ahead of it by what the monitor is
told. -/
inductive Matches (requests : Nat → Request) (s : Traffic) : Manager → Disk → Prop where
  | free (writer : s.writer = none) : Matches requests s s.manager s.disk
  | planned {t : Nat} {c : Call} {plan : Plan} (writer : s.writer = some (t, .planned plan))
      (new : s.isLogged t = false) (change : requests t = .call c)
      (planned : c.plan? s.manager.registry = some (.ok plan)) :
      Matches requests s s.manager s.disk
  | stored {t : Nat} {c : Call} {plan : Plan} {d : Disk} (writer : s.writer = some (t, .stored plan))
      (new : s.isLogged t = false) (change : requests t = .call c)
      (planned : c.plan? s.manager.registry = some (.ok plan))
      (saved : Disk.run (s.manager.store.save plan.record c.breakdown) d = (.ok (), s.disk)) :
      Matches requests s s.manager d
  | committed {t : Nat} {tidings : Tidings} (writer : s.writer = some (t, .committed tidings)) :
      Matches requests s (tidings.tell s.manager) s.disk

/-- The state is the one that the requests of the log come to in a row. -/
structure Serial (requests : Nat → Request) (m₀ : Manager) (d₀ : Disk) (s : Traffic) : Prop where
  fresh : s.manager.registry.Fresh
  /-- No request took effect twice. -/
  once : (s.log.map Prod.fst).Nodup
  serial : ∃ m d, Request.runAll m₀ d₀ (s.log.map fun e => requests e.1) =
    (s.log.map Prod.snd, m, d) ∧ Matches requests s m d

theorem isLogged_eq_false_iff {s : Traffic} {t : Nat} :
    s.isLogged t = false ↔ t ∉ s.log.map Prod.fst := by
  rw [isLogged, List.any_eq_false, List.mem_map, not_exists]
  simp only [beq_iff_eq, not_and]

/-- Another request in the log is not this one. -/
theorem isLogged_concat {s s' : Traffic} {t t' : Nat} {reply : Except ManagerError Reply}
    (other : t ≠ t') (new : s.isLogged t = false)
    (logged : s'.log = s.log ++ [(t', reply)]) : s'.isLogged t = false := by
  simp only [isLogged, logged, List.any_append, List.any_cons, List.any_nil, Bool.or_false] at new ⊢
  rw [new, Bool.false_or]
  simpa using fun h => other h.symm

namespace Serial

variable {requests : Nat → Request} {m₀ : Manager} {d₀ : Disk} {s : Traffic} {t : Nat}

/-- A request that takes effect is entered in the log with the reply that it has in a row. -/
theorem log (h : s.Serial requests m₀ d₀) {m m' : Manager} {d d' : Disk}
    {reply : Except ManagerError Reply} {s' : Traffic} (new : s.isLogged t = false)
    (before : Request.runAll m₀ d₀ (s.log.map fun e => requests e.1) = (s.log.map Prod.snd, m, d))
    (run : (requests t).run m d = (reply, m', d')) (logged : s'.log = s.log ++ [(t, reply)])
    (fresh : s'.manager.registry.Fresh) (after : s'.Matches requests m' d') :
    s'.Serial requests m₀ d₀ := by
  refine ⟨fresh, ?_, m', d', ?_, after⟩
  · rw [logged, List.map_append]
    refine List.nodup_append.2 ⟨h.once, by simp, fun a ha b hb same => ?_⟩
    obtain rfl : b = t := by simpa using hb
    exact isLogged_eq_false_iff.1 new (same ▸ ha)
  · rw [logged, List.map_append, List.map_append, List.map_singleton, List.map_singleton,
      Request.runAll_concat before, run]

/-- **A request that needs no write lock** is served where a change stands still. -/
theorem serve (h : s.Serial requests m₀ d₀) (new : s.isLogged t = false)
    (idle : (requests t).isChange = false) (other : ∀ p, s.writer ≠ some (t, p)) :
    (s.serve t (requests t)).Serial requests m₀ d₀ := by
  obtain ⟨m, d, before, here⟩ := h.serial
  -- The disk has no part in it.
  obtain ⟨reply, m', ran⟩ : ∃ reply m', ∀ d, (requests t).run s.manager d = (reply, m', d) :=
    ⟨_, _, Request.run_heard idle s.manager s.manager.monitor s.disk⟩
  have alike : s.manager.Alike m' := by
    have alike := Manager.Alike.run h.fresh idle s.disk
    rwa [ran] at alike
  have fresh := alike.fresh h.fresh
  have served : s.serve t (requests t) =
      { s with manager := m', log := s.log ++ [(t, reply)] } := by
    simp only [Traffic.serve, ran]
  rw [served]
  cases here with
  | free writer => exact h.log new before (ran _) rfl fresh (.free writer)
  | @planned holder c plan writer newer change planned =>
    have apart : holder ≠ t := fun same => other _ (same ▸ writer)
    exact h.log new before (ran _) rfl fresh
      (.planned writer (isLogged_concat apart newer rfl) change ((alike.plan? c).trans planned))
  | @stored holder c plan d writer newer change planned saved =>
    have apart : holder ≠ t := fun same => other _ (same ▸ writer)
    rw [← alike.store] at saved
    exact h.log new before (ran _) rfl fresh
      (.stored writer (isLogged_concat apart newer rfl) change ((alike.plan? c).trans planned) saved)
  | @committed holder tidings writer =>
    have told := Request.run_tell h.fresh idle tidings s.disk
    rw [ran] at told
    exact h.log new before told rfl fresh (.committed writer)

/-- **A change takes the write lock**, and a purge takes effect with that. -/
theorem begin (h : s.Serial requests m₀ d₀) (new : s.isLogged t = false) (writer : s.writer = none) :
    (s.begin t (requests t)).Serial requests m₀ d₀ := by
  obtain ⟨m, d, before, here⟩ := h.serial
  obtain ⟨rfl, rfl⟩ : m = s.manager ∧ d = s.disk := by
    cases here with
    | free => exact ⟨rfl, rfl⟩
    | _ holds => cases writer.symm.trans holds
  cases change : requests t with
  | query q => exact h
  | call c =>
    simp only [Traffic.begin]
    split
    next e refused =>
      exact h.log new before (Request.run_eq change (run_refused refused _)) rfl h.fresh (.free rfl)
    next plan planned => exact ⟨h.fresh, h.once, _, _, before, .planned rfl new change planned⟩
    next id _ =>
      split
      next e undropped =>
        exact h.log new before (Request.run_eq change (run_undropped undropped _)) rfl h.fresh
          (.free rfl)
      next m' dropped =>
        exact h.log new before (Request.run_eq change (run_dropped dropped _)) rfl
          (fresh_drop dropped) (.committed rfl)
    next => exact h

/-- **A change goes on**: its record is stored, it is committed, or the monitor is told. -/
theorem proceed (h : s.Serial requests m₀ d₀) {progress : Progress}
    (writer : s.writer = some (t, progress)) :
    (s.proceed t (requests t).breakdown progress).Serial requests m₀ d₀ := by
  obtain ⟨m, d, before, here⟩ := h.serial
  cases here with
  | free free => cases free.symm.trans writer
  | planned holds new change planned =>
    cases holds.symm.trans writer
    have breakdown : (requests t).breakdown = _ := congrArg Request.breakdown change
    rw [breakdown]
    simp only [Traffic.proceed]
    split
    next e disk stopped =>
      exact h.log new before (Request.run_eq change (run_unsaved planned stopped)) rfl h.fresh
        (.free rfl)
    next disk saved =>
      exact ⟨h.fresh, h.once, _, _, before, .stored rfl new change planned saved⟩
  | stored holds new change planned saved =>
    cases holds.symm.trans writer
    exact h.log new before (Request.run_eq change (run_saved planned saved)) rfl
      (Plan.fresh_commit _ _) (.committed rfl)
  | @committed _ tidings holds =>
    cases holds.symm.trans writer
    have fresh : (tidings.tell s.manager).registry.Fresh := by
      rw [Tidings.registry_tell]
      exact h.fresh
    exact ⟨fresh, h.once, _, _, before, .free rfl⟩

/-- **Every step of every request** leaves the state as it is in a row. -/
theorem step (h : s.Serial requests m₀ d₀) (t : Nat) :
    (s.step requests t).Serial requests m₀ d₀ := by
  unfold Traffic.step
  split
  next holder progress writer =>
    split
    next same => exact h.proceed (same ▸ writer)
    next other =>
      split
      next => exact h
      next free =>
        rw [Bool.not_eq_true, Bool.or_eq_false_iff] at free
        exact h.serve free.1 free.2 fun p holds => other (by cases holds.symm.trans writer; rfl)
  next writer =>
    split
    next => exact h
    next new =>
      rw [Bool.not_eq_true] at new
      split
      next => exact h.begin new writer
      next idle =>
        rw [Bool.not_eq_true] at idle
        exact h.serve new idle (by simp [writer])

/-- **Every schedule** leaves the state as it is in a row. -/
theorem run (h : s.Serial requests m₀ d₀) (schedule : List Nat) :
    (s.run requests schedule).Serial requests m₀ d₀ := by
  induction schedule generalizing s with
  | nil => exact h
  | cons t schedule ih => exact ih (h.step t)

/-- What the requests in a row come to, at every moment: all but the monitor, whom a change may still
have to tell, and the disk, on which a record may be that is not committed. -/
theorem in_a_row (h : s.Serial requests m₀ d₀) :
    ∃ m d, Request.runAll m₀ d₀ (s.log.map fun e => requests e.1) = (s.log.map Prod.snd, m, d) ∧
      { m with monitor := s.manager.monitor } = s.manager ∧
      (s.writer = none → m = s.manager ∧ d = s.disk) := by
  obtain ⟨m, d, before, here⟩ := h.serial
  refine ⟨m, d, before, ?_⟩
  cases here with
  | free => exact ⟨rfl, fun _ => ⟨rfl, rfl⟩⟩
  | planned writer | stored writer => exact ⟨rfl, fun free => nomatch free.symm.trans writer⟩
  | @committed t tidings writer =>
    refine ⟨?_, fun free => nomatch free.symm.trans writer⟩
    cases tidings with
    | pups => rfl
    | kinds id changes =>
      simp only [Tidings.tell, Manager.announceKinds]
      split <;> rfl

/-- **A change that is answered with a record has just put it into the registry.** -/
theorem committed (h : s.Serial requests m₀ d₀) (change : (requests t).isChange = true) {r : Record}
    (logged : (s.step requests t).log = s.log ++ [(t, .ok (.answer (.record r)))]) :
    (s.step requests t).manager.registry.records.get? r.id = some r := by
  have idle : s.log ≠ s.log ++ [(t, .ok (.answer (.record r)))] := by simp
  have same : ∀ {reply}, s.log ++ [(t, reply)] = s.log ++ [(t, .ok (.answer (.record r)))] →
      reply = .ok (.answer (.record r)) := fun logged => by simpa using logged
  obtain ⟨m, d, -, here⟩ := h.serial
  unfold Traffic.step at logged ⊢
  split at logged
  next holder progress writer =>
    split at logged
    next holds =>
      subst holds
      rw [if_pos rfl]
      cases progress with
      | planned plan =>
        simp only [Traffic.proceed] at logged
        split at logged
        next => cases same logged
        next => exact absurd logged idle
      | stored plan =>
        cases here with
        | stored holds new change planned saved =>
          cases holds.symm.trans writer
          obtain rfl : _ = r := by simpa using same logged
          exact Plan.get?_commit planned
        | _ holds => cases holds.symm.trans writer
      | committed tidings => exact absurd logged idle
    next =>
      rw [change, Bool.or_true, if_pos rfl] at logged
      exact absurd logged idle
  next =>
    split at logged
    next => exact absurd logged idle
    next =>
      cases call : requests t with
      | query q => rw [call] at change; cases change
      | call c =>
        rw [call] at logged
        simp only [Traffic.begin] at logged
        split at logged
        next => cases same logged
        next => exact absurd logged idle
        next =>
          split at logged
          next => cases same logged
          next => cases same logged
        next => exact absurd logged idle

end Serial

end Traffic

/-- **Requests at once are requests in a row.** A manager that was loaded is asked by many, and their
steps fall between each other as they may. Each request takes effect once at most, and the replies are
those of the requests served one after another in the order in which they took effect. What these come
to is the manager as it is, except that the monitor may still have to be told of a change; when nobody
holds the write lock, it is the manager and the disk as they are. And the record that a change is
answered with is the one that it puts into the registry. -/
theorem serializable {settings : ManagerSettings} {store : Store} {catalogs : CatalogSource}
    {monitor : Option Monitor} {m : Manager} {d : Disk}
    (loaded : Manager.load settings store catalogs monitor d = .ok m) (requests : Nat → Request)
    (schedule : List Nat) {s : Traffic}
    (ran : Traffic.run requests { manager := m, disk := d } schedule = s) :
    (s.log.map Prod.fst).Nodup ∧
      (∃ m' d', Request.runAll m d (s.log.map fun e => requests e.1) =
          (s.log.map Prod.snd, m', d') ∧
        { m' with monitor := s.manager.monitor } = s.manager ∧
        (s.writer = none → m' = s.manager ∧ d' = s.disk)) ∧
      ∀ t r, (requests t).isChange = true →
        (s.step requests t).log = s.log ++ [(t, .ok (.answer (.record r)))] →
        (s.step requests t).manager.registry.records.get? r.id = some r := by
  have start : Traffic.Serial requests m d { manager := m, disk := d } := by
    refine ⟨?_, List.nodup_nil, m, d, rfl, .free rfl⟩
    unfold Manager.load at loaded
    split at loaded
    · cases loaded
    · cases loaded
      exact Registry.fresh_refreshHealth _
  have last := ran ▸ start.run schedule
  exact ⟨last.once, last.in_a_row, fun t r change logged => last.committed change logged⟩

/-- A pup is adopted and enabled, it is seen running and measured, and the pups are listed. -/
def overlapping : Nat → Request
  | 0 => .call .subscribe
  | 1 => .call (.adopt (.numbersFrom 0) { identity := ⟨"node", "1.0.0", ""⟩ } ⟨"main", "/srv"⟩ none)
  | 2 => .call (.update "0" [.setEnabled true] none)
  | 3 => .call (.ingest [(.container "0", { running := true })] true)
  | _ => .call .list

/-- The manager when the update is stored and the sample and the list were served meanwhile. -/
def storedUpdate : Traffic :=
  .run overlapping { manager := bareManager.rewatch, disk := bareDisk } [0, 1, 1, 1, 1, 2, 3, 2, 4]

/-- The sample and the list fall between the steps of the update, and it takes effect after them with the
record that it is answered with. In the end the pup is enabled, its measurements are in its series, and
its status is that of the sample, which came before. -/
theorem serializable_overlapping :
    Manager.load bareManager.settings bareManager.store default bareManager.monitor bareDisk =
        .ok bareManager.rewatch ∧
      (∃ r, (storedUpdate.step overlapping 2).log =
          storedUpdate.log ++ [(2, .ok (.answer (.record r)))] ∧ r.enabled = true ∧
        (storedUpdate.step overlapping 2).manager.registry.records.get? r.id = some r) ∧
      ∃ s, Traffic.run overlapping { manager := bareManager.rewatch, disk := bareDisk }
          [0, 1, 1, 1, 1, 2, 3, 2, 4, 2, 2] = s ∧ s.log.map Prod.fst = [0, 1, 3, 4, 2] ∧
        (s.manager.registry.records.get? "0").map (·.enabled) = some true ∧
        (s.manager.registry.stats.get? "0").map (fun stats =>
          (stats.status, stats.memMb.values.length)) = some (.stopping, 1) ∧
        Request.runAll bareManager.rewatch bareDisk ([0, 1, 3, 4, 2].map overlapping) =
          (s.log.map Prod.snd, s.manager, s.disk) := by
  have stored : (storedUpdate.writer.any fun
      | (2, .stored plan) => plan.record.enabled
      | _ => false) = true := by decide +kernel
  have order : (Traffic.run overlapping { manager := bareManager.rewatch, disk := bareDisk }
      [0, 1, 1, 1, 1, 2, 3, 2, 4, 2, 2]).log.map Prod.fst = [0, 1, 3, 4, 2] := by decide +kernel
  have free : (Traffic.run overlapping { manager := bareManager.rewatch, disk := bareDisk }
      [0, 1, 1, 1, 1, 2, 3, 2, 4, 2, 2]).writer.isNone = true := by decide +kernel
  refine ⟨load_bareDisk, ?_, _, rfl, order, by decide +kernel, by decide +kernel, ?_⟩
  · obtain ⟨w, writer, plan⟩ := (Option.any_eq_true _ _).1 stored
    split at plan
    next plan' =>
      have logged : (storedUpdate.step overlapping 2).log =
          storedUpdate.log ++ [(2, .ok (.answer (.record plan'.record)))] := by
        simp only [Traffic.step, writer, if_pos, Traffic.proceed, Traffic.enter]
      exact ⟨plan'.record, logged, plan,
        (serializable load_bareDisk overlapping [0, 1, 1, 1, 1, 2, 3, 2, 4] rfl).2.2 2 _ rfl logged⟩
    next => cases plan
  · obtain ⟨-, ⟨m, d, run, -, done⟩, -⟩ := serializable load_bareDisk overlapping
      [0, 1, 1, 1, 1, 2, 3, 2, 4, 2, 2] rfl
    obtain ⟨rfl, rfl⟩ := done (Option.isNone_iff_eq_none.1 free)
    rw [← order, List.map_map]
    exact run

end Kennel
