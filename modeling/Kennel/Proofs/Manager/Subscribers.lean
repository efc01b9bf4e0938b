import Kennel.Proofs.Manager.Delivery

/-!
# Subscribers among each other

What is emitted at the feeds follows from the pups, and what a subscriber is served follows from what is
emitted and from what it does itself. So subscribers have no part in each other's feeds.

The first half is a comparison of two managers that are asked by many: when requests that only look at
pups or are made by subscribers are exchanged for others of their kind (`Traffic.Exchanged`), the two go
on abreast, as the same requests take effect in the same order and do the same to the pups
(`Traffic.Abreast.run`). Then the same items are emitted (`Channel.Detached.emitted_history`).

The second half is what is known of every feed (`Feed.gapless`), put to the history that a feed has while
the manager is asked by many. Together: **feeds have no gaps** (`feeds_without_gaps`).
-/

namespace Kennel

open Traffic

/-! ## What subscribers have no part in -/

/-- The call looks at pups, or a subscriber acts with it. -/
def Call.isPassive : Call → Bool
  | list => true
  | subscribe | takeNotices _ _ | leave _ => true
  | subscribeStats | takeStats _ _ | leaveStats _ => true
  | _ => false

/-- The request asks something, or a subscriber acts with it. -/
def Traffic.Request.isPassive : Request → Bool
  | .call c => c.isPassive
  | .query _ => true

/-- A passive request needs no write lock, and nothing breaks off in it. -/
theorem Traffic.Request.of_passive {request : Request} (passive : request.isPassive = true) :
    request.isChange = false ∧ request.breakdown = none := by
  cases request with
  | query q => exact ⟨rfl, rfl⟩
  | call c => cases c <;> first | exact ⟨rfl, rfl⟩ | cases passive

/-- The managers differ in their subscribers only. -/
def Manager.Abreast (m m' : Manager) : Prop :=
  ∃ notices stats, m' = { m with noticeFeed := notices, statsFeed := stats }

/-- The requests agree, apart from passive ones, which are exchanged for other passive ones. -/
def Traffic.Exchanged (requests requests' : Nat → Request) : Prop :=
  ∀ t, requests' t = requests t ∨ (requests t).isPassive = true ∧ (requests' t).isPassive = true

namespace Manager.Abreast

variable {m m' : Manager} {d : Disk}

theorem refl (m : Manager) : m.Abreast m := ⟨_, _, rfl⟩

theorem symm (h : m.Abreast m') : m'.Abreast m := by
  obtain ⟨notices, stats, rfl⟩ := h
  exact ⟨_, _, rfl⟩

theorem trans {m'' : Manager} (h : m.Abreast m') (h' : m'.Abreast m'') : m.Abreast m'' := by
  obtain ⟨notices, stats, rfl⟩ := h
  obtain ⟨notices', stats', rfl⟩ := h'
  exact ⟨_, _, rfl⟩

theorem registry (h : m.Abreast m') : m'.registry = m.registry := by
  obtain ⟨notices, stats, rfl⟩ := h
  rfl

theorem store (h : m.Abreast m') : m'.store = m.store := by
  obtain ⟨notices, stats, rfl⟩ := h
  rfl

theorem commit (h : m.Abreast m') (plan : Plan) : (plan.commit m).Abreast (plan.commit m') := by
  obtain ⟨notices, stats, rfl⟩ := h
  cases plan <;> exact ⟨_, _, rfl⟩

theorem tell (h : m.Abreast m') (tidings : Tidings) :
    (tidings.tell m).Abreast (tidings.tell m') := by
  obtain ⟨notices, stats, rfl⟩ := h
  cases tidings with
  | pups => exact ⟨_, _, rfl⟩
  | kinds id changes =>
    simp only [Tidings.tell, Manager.announceKinds]
    split <;> exact ⟨_, _, rfl⟩

theorem drop (h : m.Abreast m') (id : String) :
    (∃ e, m.drop id = .error e ∧ m'.drop id = .error e) ∨
      ∃ less less', m.drop id = .ok less ∧ m'.drop id = .ok less' ∧ less.Abreast less' := by
  obtain ⟨notices, stats, rfl⟩ := h
  simp only [Manager.drop]
  cases m.registry.purge id with
  | error e => exact .inl ⟨e, rfl, rfl⟩
  | ok g => exact .inr ⟨_, _, rfl, rfl, _, _, rfl⟩

/-- A call that is planned ends the same. -/
theorem planned (h : m.Abreast m') {c : Call} {outcome : Except ManagerError Plan}
    (planned : c.plan? m.registry = some outcome) (d : Disk) :
    ∃ after, (c.run m d).2.1.Abreast after ∧ c.run m' d = ((c.run m d).1, after, (c.run m d).2.2) := by
  rw [run_of_planned d planned, run_of_planned d (h.registry ▸ planned), h.store]
  cases outcome with
  | error e => exact ⟨m', h, rfl⟩
  | ok plan =>
    simp only
    rcases Disk.run (m.store.save plan.record c.breakdown) d with ⟨e | ⟨⟩, d'⟩
    · exact ⟨m', h, rfl⟩
    · exact ⟨_, (h.commit plan).tell _, rfl⟩

/-- **A call that is no subscriber's** ends the same. -/
theorem call (h : m.Abreast m') {c : Call} (active : c.isPassive = false) (d : Disk) :
    ∃ after, (c.run m d).2.1.Abreast after ∧ c.run m' d = ((c.run m d).1, after, (c.run m d).2.2) := by
  cases c with
  | adopt ids manifest source breakdown => exact h.planned rfl d
  | update id updates breakdown => exact h.planned rfl d
  | purge id =>
    rw [run_purge, run_purge]
    rcases h.drop id with ⟨e, dropped, dropped'⟩ | ⟨less, less', dropped, dropped', abreast⟩
    · rw [dropped, dropped']
      exact ⟨m', h, rfl⟩
    · rw [dropped, dropped']
      exact ⟨_, abreast.tell .pups, rfl⟩
  | ingest sample slow =>
    obtain ⟨notices, stats, rfl⟩ := h
    exact ⟨_, ⟨_, _, rfl⟩, rfl⟩
  | recordMetrics id values =>
    obtain ⟨notices, stats, rfl⟩ := h
    simp only [Call.run, Manager.recordMetrics]
    cases m.registry.recordMetrics id values <;> exact ⟨_, ⟨_, _, rfl⟩, rfl⟩
  | _ => cases active

/-- **Requests that agree or are subscribers'** leave managers as they are abreast of each other. -/
theorem run (h : m.Abreast m') {request request' : Request}
    (exchanged : request' = request ∨ request.isPassive = true ∧ request'.isPassive = true) (d : Disk) :
    (request.run m d).2.1.Abreast (request'.run m' d).2.1 ∧
      (request'.run m' d).2.2 = (request.run m d).2.2 := by
  have passive (request : Request) (passive : request.isPassive = true) (m : Manager) :
      m.Abreast (request.run m d).2.1 ∧ (request.run m d).2.2 = d := by
    cases request with
    | query q => exact ⟨⟨_, _, rfl⟩, rfl⟩
    | call c =>
      cases c with
      | adopt | update | purge | ingest | recordMetrics => cases passive
      | _ => exact ⟨⟨_, _, rfl⟩, rfl⟩
  have both (request request' : Request) (quiet : request.isPassive = true)
      (quiet' : request'.isPassive = true) :
      (request.run m d).2.1.Abreast (request'.run m' d).2.1 ∧
        (request'.run m' d).2.2 = (request.run m d).2.2 := by
    obtain ⟨before, disk⟩ := passive request quiet m
    obtain ⟨after, disk'⟩ := passive request' quiet' m'
    exact ⟨(before.symm.trans h).trans after, disk'.trans disk.symm⟩
  rcases exchanged with rfl | ⟨quiet, quiet'⟩
  · cases request' with
    | query q => exact both _ _ rfl rfl
    | call c =>
      cases active : c.isPassive with
      | true => exact both (.call c) (.call c) active active
      | false =>
        obtain ⟨after, abreast, same⟩ := h.call active d
        rw [Request.run, Request.run, same]
        exact ⟨abreast, rfl⟩
  · exact both _ _ quiet quiet'

end Manager.Abreast

namespace Traffic

/-- Two managers that are asked by many are as far as each other, and differ in their subscribers
only. -/
structure Abreast (s s' : Traffic) : Prop where
  manager : s.manager.Abreast s'.manager
  disk : s'.disk = s.disk
  writer : s'.writer = s.writer
  served : s'.log.map Prod.fst = s.log.map Prod.fst

namespace Abreast

variable {requests requests' : Nat → Request} {s s' : Traffic}

theorem isLogged (h : s.Abreast s') (t : Nat) : s'.isLogged t = s.isLogged t := by
  rw [Bool.eq_iff_iff, ← not_iff_not, Bool.not_eq_true, Bool.not_eq_true, isLogged_eq_false_iff,
    isLogged_eq_false_iff, h.served]

theorem exchanged_eq (exchanged : Exchanged requests requests') (t : Nat) :
    (requests' t).isChange = (requests t).isChange ∧
      (requests' t).breakdown = (requests t).breakdown := by
  rcases exchanged t with same | ⟨passive, passive'⟩
  · rw [same]
    exact ⟨rfl, rfl⟩
  · obtain ⟨change, breakdown⟩ := Request.of_passive passive
    obtain ⟨change', breakdown'⟩ := Request.of_passive passive'
    exact ⟨change'.trans change.symm, breakdown'.trans breakdown.symm⟩

theorem fail (h : s.Abreast s') (t : Nat) (e : ManagerError) :
    (s.fail t e).Abreast (s'.fail t e) :=
  ⟨h.manager, h.disk, rfl, by simp [Traffic.fail, h.served]⟩

theorem enter (h : s.Abreast s') {m m' : Manager} (abreast : m.Abreast m') (t : Nat)
    (tidings : Tidings) (answer : Answer) :
    (s.enter t m tidings answer).Abreast (s'.enter t m' tidings answer) :=
  ⟨abreast, h.disk, rfl, by simp [Traffic.enter, h.served]⟩

theorem begin (h : s.Abreast s') (t : Nat) (request : Request) :
    (s.begin t request).Abreast (s'.begin t request) := by
  cases request with
  | query q => exact h
  | call c =>
    simp only [Traffic.begin, h.manager.registry]
    split
    next e _ => exact h.fail t e
    next plan _ => exact ⟨h.manager, h.disk, rfl, h.served⟩
    next id _ =>
      rcases h.manager.drop id with ⟨e, dropped, dropped'⟩ | ⟨less, less', dropped, dropped', abreast⟩
      · rw [dropped, dropped']
        exact h.fail t e
      · rw [dropped, dropped']
        exact h.enter abreast t _ _
    next => exact h

theorem proceed (h : s.Abreast s') (t : Nat) (breakdown : Option Disk.Breakdown)
    (progress : Progress) :
    (s.proceed t breakdown progress).Abreast (s'.proceed t breakdown progress) := by
  cases progress with
  | planned plan =>
    simp only [Traffic.proceed, h.manager.store, h.disk]
    split
    next e disk _ =>
      have next : Abreast { s with disk } { s' with disk } := ⟨h.manager, rfl, h.writer, h.served⟩
      exact next.fail t _
    next disk _ => exact ⟨h.manager, rfl, rfl, h.served⟩
  | stored plan => exact h.enter (h.manager.commit plan) t _ _
  | committed tidings => exact ⟨h.manager.tell tidings, h.disk, rfl, h.served⟩

theorem serve (h : s.Abreast s') (exchanged : Exchanged requests requests') (t : Nat) :
    (s.serve t (requests t)).Abreast (s'.serve t (requests' t)) := by
  obtain ⟨abreast, disk⟩ := h.manager.run (exchanged t) s.disk
  rw [← h.disk] at abreast disk
  refine ⟨?_, ?_, h.writer, by simp [Traffic.serve, h.served]⟩
  · simpa only [Traffic.serve, h.disk] using abreast
  · simpa only [Traffic.serve, h.disk] using disk

/-- **Each step** of requests that are exchanged for others keeps two managers abreast. -/
theorem step (h : s.Abreast s') (exchanged : Exchanged requests requests') (t : Nat) :
    (s.step requests t).Abreast (s'.step requests' t) := by
  have same (change : (requests t).isChange = true) : requests' t = requests t := by
    rcases exchanged t with same | ⟨passive, -⟩
    · exact same
    · cases change.symm.trans (Request.of_passive passive).1
  obtain ⟨isChange, breakdown⟩ := exchanged_eq exchanged t
  cases writer : s.writer with
  | some holds =>
    simp only [Traffic.step, h.writer, writer, h.isLogged, isChange, breakdown]
    split
    · exact h.proceed t _ _
    · split
      · exact h
      · exact h.serve exchanged t
  | none =>
    simp only [Traffic.step, h.writer, writer, h.isLogged, isChange]
    split
    · exact h
    · split
      next change =>
        rw [same change]
        exact h.begin t (requests t)
      next => exact h.serve exchanged t

/-- **Requests of subscribers change nothing for anyone else**, however the steps of all of them fall
between each other. -/
theorem run (h : s.Abreast s') (exchanged : Exchanged requests requests') (schedule : List Nat) :
    (s.run requests schedule).Abreast (s'.run requests' schedule) := by
  induction schedule generalizing s s' with
  | nil => exact h
  | cons t schedule ih => exact ih (h.step exchanged t)

end Abreast

end Traffic

/-! ## What is emitted -/

namespace Channel

variable {α : Type}

/-- Subscribers emit nothing, and what is emitted does not follow from who they are. -/
structure Detached (ch : Channel α) : Prop where
  act : ∀ c e, ch.act c = some e → c.isPassive = true ∧ e.item? = none
  passive : ∀ m answer c, c.isPassive = true → ch.emits m answer c = []
  abreast : ∀ m m' answer c, m.Abreast m' → ch.emits m' answer c = ch.emits m answer c

theorem detached_notices : notices.Detached where
  act c e acts := by
    cases c with
    | subscribe | takeNotices | leave =>
      cases acts
      exact ⟨rfl, rfl⟩
    | _ => cases acts
  passive m answer c passive := by cases c <;> first | rfl | cases passive
  abreast m m' answer c h := by
    obtain ⟨notices, stats, rfl⟩ := h
    rfl

theorem detached_stats : stats.Detached where
  act c e acts := by
    cases c with
    | subscribeStats | takeStats | leaveStats =>
      cases acts
      exact ⟨rfl, rfl⟩
    | _ => cases acts
  passive m answer c passive := by cases c <;> first | rfl | cases passive
  abreast m m' answer c h := by
    obtain ⟨notices, stats, rfl⟩ := h
    rfl

theorem emitted_emit (items : List α) : Feed.emitted (items.map .emit) = items := by
  induction items with
  | nil => rfl
  | cons item items ih => exact congrArg (item :: ·) ih

namespace Detached

variable {ch : Channel α} {m m' : Manager} {d d' : Disk} {requests requests' : Nat → Request}

/-- What is emitted at the events of a call is what the call emits. -/
theorem emitted_events (h : ch.Detached) (m : Manager) (d : Disk) (c : Call) :
    Feed.emitted (ch.events m d (.call c)) = ch.emits m (c.run m d).1 c := by
  rw [events]
  cases acts : ch.act c with
  | none => exact emitted_emit _
  | some e =>
    obtain ⟨passive, nothing⟩ := h.act c e acts
    rw [h.passive _ _ _ passive, Option.elim_some, Feed.emitted, List.filterMap_cons, nothing]
    rfl

theorem emitted_passive (h : ch.Detached) (m : Manager) (d : Disk) {request : Request}
    (passive : request.isPassive = true) : Feed.emitted (ch.events m d request) = [] := by
  cases request with
  | query q => rfl
  | call c => rw [h.emitted_events, h.passive _ _ _ passive]

/-- Where managers are abreast, a request emits the same. -/
theorem emitted_abreast (h : ch.Detached) (abreast : m.Abreast m') (request : Request) :
    Feed.emitted (ch.events m' d request) = Feed.emitted (ch.events m d request) := by
  cases request with
  | query q => rfl
  | call c =>
    rw [h.emitted_events, h.emitted_events, h.abreast m m' _ c abreast]
    cases active : c.isPassive with
    | true => rw [h.passive _ _ _ active, h.passive _ _ _ active]
    | false =>
      obtain ⟨after, -, same⟩ := abreast.call active d
      rw [same]

/-- **What requests emit is the same** when those of subscribers are exchanged for others. -/
theorem emitted_history (h : ch.Detached) (abreast : m.Abreast m')
    (exchanged : Exchanged requests requests') (numbers : List Nat) :
    Feed.emitted (ch.history m' d (numbers.map requests')) =
      Feed.emitted (ch.history m d (numbers.map requests)) := by
  induction numbers generalizing m m' d with
  | nil => rfl
  | cons t numbers ih =>
    obtain ⟨after, disk⟩ := abreast.run (exchanged t) d
    have here : Feed.emitted (ch.events m' d (requests' t)) =
        Feed.emitted (ch.events m d (requests t)) := by
      rcases exchanged t with same | ⟨passive, passive'⟩
      · rw [same]
        exact h.emitted_abreast abreast _
      · rw [h.emitted_passive m d passive, h.emitted_passive m' d passive']
    simp only [List.map_cons, history]
    rw [Feed.emitted_append, Feed.emitted_append, here, disk, ih after]

end Detached

end Channel

/-! ## Feeds have no gaps -/

/-- What a feed is to its subscribers while a manager is asked by many. What happens at it by the
requests that took effect is its history. -/
structure Channel.Gapless {α : Type} (ch : Channel α) (capacity : Nat) (m : Manager) (d : Disk)
    (requests : Nat → Request) (s : Traffic) : Prop where
  start : ch.feed m = { capacity }
  feed : ch.feed s.manager = (ch.feed m).play (ch.history m d (s.served requests))
  /-- A subscriber has been answered with what it receives, -/
  answered : ∀ place, s.answered ch requests place =
    (ch.feed m).received place (ch.history m d (s.served requests))
  /-- at the place that it was told when it joined. -/
  joined : ∀ before t reply after c, s.log = before ++ (t, reply) :: after → requests t = .call c →
    ch.act c = some .join → ∃ earlier events,
      ch.history m d (s.served requests) = earlier ++ .join :: events ∧
      earlier = ch.history m d (before.map fun e => requests e.1) ∧
      reply = .ok (.answer (.place ((ch.feed m).play earlier).boxes.length))
  /-- However subscribers act between the items that are emitted, each gets the first of them since it
  joined, without a gap. -/
  gapless : ∀ earlier events, Feed.emitted (earlier ++ .join :: events) =
      Feed.emitted (ch.history m d (s.served requests)) → (ch.feed m).Gapless earlier events
  /-- And it gets the same, whatever others do meanwhile. -/
  alone : ∀ earlier events earlier' events',
    Feed.view ((ch.feed m).play earlier').boxes.length events' =
        Feed.view ((ch.feed m).play earlier).boxes.length events →
      (ch.feed m).received ((ch.feed m).play earlier').boxes.length (earlier' ++ .join :: events') =
        (ch.feed m).received ((ch.feed m).play earlier).boxes.length (earlier ++ .join :: events)

/-- What a feed is to its subscribers follows from where it starts. -/
theorem Traffic.Serial.gapless {α : Type} {ch : Channel α} (law : ch.Lawful) {capacity : Nat}
    {m : Manager} {d : Disk} {requests : Nat → Request} {s : Traffic} (h : s.Serial requests m d)
    (start : ch.feed m = { capacity }) : ch.Gapless capacity m d requests s where
  start := start
  feed := (h.channel law).1
  answered := (h.channel law).2
  joined before t reply after c log request acts := by
    obtain ⟨m₁, d₁, m₂, d₂, -, -, first, now, -⟩ := h.split log
    obtain ⟨history, told⟩ := Serial.joined_at law log request acts first now
    exact ⟨_, _, history, rfl, told⟩
  gapless earlier events _ := Feed.gapless _ earlier events
  alone earlier events earlier' events' same := by
    rw [(Feed.gapless _ earlier' events').taken, (Feed.gapless _ earlier events).taken, same]

/-- **Feeds have no gaps.** A manager that was loaded is asked by many, and their steps fall between
each other as they may; subscribers of either feed join, take items and leave when they like. Each gets
the first `k` of the items that are emitted since it joined, in their order. It is dropped with the first
item that finds it gone or its queue full, and then it gets what is queued and the feed ends for it. What
others do changes nothing for it: neither what it gets of the items, nor which items are emitted. -/
theorem feeds_without_gaps {settings : ManagerSettings} {store : Store} {catalogs : CatalogSource}
    {monitor : Option Monitor} {m : Manager} {d : Disk}
    (loaded : Manager.load settings store catalogs monitor d = .ok m) (requests : Nat → Request)
    (schedule : List Nat) {s : Traffic}
    (ran : Traffic.run requests { manager := m, disk := d } schedule = s) :
    Channel.notices.Gapless settings.subscriberCapacity m d requests s ∧
      Channel.stats.Gapless settings.subscriberCapacity m d requests s ∧
      ∀ requests', Exchanged requests requests' →
        ∀ s', Traffic.run requests' { manager := m, disk := d } schedule = s' →
          Feed.emitted (Channel.notices.history m d (s'.served requests')) =
              Feed.emitted (Channel.notices.history m d (s.served requests)) ∧
            Feed.emitted (Channel.stats.history m d (s'.served requests')) =
              Feed.emitted (Channel.stats.history m d (s.served requests)) := by
  have serial := ran ▸ (Serial.start loaded requests).run schedule
  obtain ⟨notices, stats⟩ : m.noticeFeed = { capacity := settings.subscriberCapacity } ∧
      m.statsFeed = { capacity := settings.subscriberCapacity } := by
    unfold Manager.load at loaded
    split at loaded
    · cases loaded
    · cases loaded
      exact ⟨rfl, rfl⟩
  refine ⟨serial.gapless Channel.lawful_notices notices, serial.gapless Channel.lawful_stats stats,
    fun requests' exchanged s' ran' => ?_⟩
  have here : Abreast { manager := m, disk := d } { manager := m, disk := d } :=
    ⟨.refl m, rfl, rfl, rfl⟩
  have abreast := here.run exchanged schedule
  rw [ran, ran'] at abreast
  have served (requests : Nat → Request) (s : Traffic) :
      s.served requests = (s.log.map Prod.fst).map requests := (List.map_map ..).symm
  rw [served, served, abreast.served]
  exact ⟨Channel.detached_notices.emitted_history (.refl m) exchanged _,
    Channel.detached_stats.emitted_history (.refl m) exchanged _⟩

/-- A pup is adopted and changed in two ways, while one subscriber takes nothing until the end. -/
def slowSubscriber : Nat → Request
  | 0 => .call .subscribe
  | 1 => .call (.adopt (.numbersFrom 0) { identity := ⟨"node", "1.0.0", ""⟩ } ⟨"main", "/srv"⟩ none)
  | 2 => .call (.update "0" [.setEnabled true, .mergeConfig ∅] none)
  | _ => .call (.takeNotices 0 none)

/-- Three notices are emitted, and the third finds the queue full. -/
theorem feeds_without_gaps_slowSubscriber :
    Manager.load bareManager.settings bareManager.store default bareManager.monitor bareDisk =
        .ok bareManager.rewatch ∧
      ∃ s, Traffic.run slowSubscriber { manager := bareManager.rewatch, disk := bareDisk }
          [0, 1, 1, 1, 1, 2, 2, 2, 2, 3] = s ∧
        Channel.notices.Gapless 2 bareManager.rewatch bareDisk slowSubscriber s ∧
        (Feed.emitted (Channel.notices.history bareManager.rewatch bareDisk
          (s.served slowSubscriber))).map Notice.kind = [.adopted, .enabledChanged, .configChanged] ∧
        (s.answered Channel.notices slowSubscriber 0).map Notice.kind = [.adopted, .enabledChanged] ∧
        s.manager.noticeFeed.hasEnded 0 = true :=
  ⟨load_bareDisk, _, rfl, (feeds_without_gaps load_bareDisk slowSubscriber _ rfl).1,
    by decide +kernel, by decide +kernel, by decide +kernel⟩

end Kennel
