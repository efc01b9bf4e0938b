import Kennel.Proofs.Manager.Current
import Kennel.Proofs.Manager.Feed
import Kennel.Proofs.Manager.Serializable

/-!
# The feeds of a manager

A manager has two feeds, one of changes and one of stats (`Channel`). Of each it is said what the
requests emit in it and what its subscribers do with theirs. **The feed is what becomes of it by the
events of the requests**, in the order in which these take effect (`Channel.Lawful.runAll`), and a
subscriber is answered with what it receives in them.

Requests at once are requests in a row, so what holds of these is known of every traffic
(`Traffic.Serial.channel`).
-/

namespace Kennel

open Traffic

/-! ## What a call emits -/

/-- The notices of a call that is answered like this, which tell subscribers what changed. A call that
fails has none. -/
def Call.notices (m : Manager) (answer : Except ManagerError Answer) (c : Call) : List Notice :=
  match c, answer with
  | adopt _ _ _ _, .ok (.record r) => [.ofRecord .adopted r]
  | update id updates _, .ok (.record r) =>
    ((m.registry.records.get? id).elim [] fun old => (Update.applyAll updates old).2).map
      (Notice.ofRecord · r)
  | purge id, .ok _ => [.purged id]
  | _, _ => []

theorem Call.notices_error (m : Manager) (c : Call) (e : ManagerError) :
    c.notices m (.error e) = [] := by
  cases c <;> rfl

theorem Call.notices_idle {c : Call} (idle : c.isChange = false) (m : Manager)
    (answer : Except ManagerError Answer) : c.notices m answer = [] := by
  cases c with
  | adopt | update | purge => cases idle
  | _ => rfl

/-- The stats of all pups, published with each sample. -/
def Call.published (m : Manager) : Call → List (List Stats)
  | ingest sample slow => [(m.registry.ingest sample slow).statsList]
  | _ => []

/-- A feed of the manager. -/
structure Channel (α : Type) where
  feed : Manager → Feed α
  /-- What a subscriber does with a request. -/
  act : Call → Option (Feed.Event α)
  /-- What a call emits that is answered like this. -/
  emits : Manager → Except ManagerError Answer → Call → List α
  /-- What a subscriber who takes items is answered with. -/
  items : Answer → List α

namespace Channel

def notices : Channel Notice where
  feed m := m.noticeFeed
  act
    | .subscribe => some .join
    | .takeNotices place limit => some (.take place limit)
    | .leave place => some (.leave place)
    | _ => none
  emits := Call.notices
  items
    | .notices l => l
    | _ => []

def stats : Channel (List Stats) where
  feed m := m.statsFeed
  act
    | .subscribeStats => some .join
    | .takeStats place limit => some (.take place limit)
    | .leaveStats place => some (.leave place)
    | _ => none
  emits m _ c := c.published m
  items
    | .stats l => l
    | _ => []

variable {α : Type}

/-- What happens at the feed when a request is served. -/
def events (ch : Channel α) (m : Manager) (d : Disk) : Request → List (Feed.Event α)
  | .call c => (ch.act c).elim ((ch.emits m (c.run m d).1 c).map .emit) fun e => [e]
  | .query _ => []

/-- What happens at the feed when requests are served one after another. -/
def history (ch : Channel α) : Manager → Disk → List Request → List (Feed.Event α)
  | _, _, [] => []
  | m, d, request :: requests =>
    ch.events m d request ++ history ch (request.run m d).2.1 (request.run m d).2.2 requests

theorem history_append (ch : Channel α) (m : Manager) (d : Disk) (before later : List Request) :
    ch.history m d (before ++ later) = ch.history m d before ++
      ch.history (Request.runAll m d before).2.1 (Request.runAll m d before).2.2 later := by
  induction before generalizing m d with
  | nil => rfl
  | cons request before ih => simp only [List.cons_append, history, Request.runAll, ih, List.append_assoc]

/-- What happens at the feed when a request is served in the middle of others. -/
theorem history_split (ch : Channel α) {m m₁ m₂ : Manager} {d d₁ d₂ : Disk}
    {before later : List Request} {request : Request} {replies : List (Except ManagerError Reply)}
    {reply : Except ManagerError Reply} (first : Request.runAll m d before = (replies, m₁, d₁))
    (here : request.run m₁ d₁ = (reply, m₂, d₂)) :
    ch.history m d (before ++ request :: later) =
      ch.history m d before ++ (ch.events m₁ d₁ request ++ ch.history m₂ d₂ later) := by
  rw [history_append, first, history, here]

/-- With this call the subscriber at this place takes items. -/
def takes (ch : Channel α) (place : Nat) (c : Call) : Bool :=
  match ch.act c with
  | some (.take p _) => p == place
  | _ => false

/-- What the subscriber at this place gets with the reply to a request. -/
def taken (ch : Channel α) (place : Nat) : Request → Except ManagerError Reply → List α
  | .call c, .ok (.answer a) => if ch.takes place c then ch.items a else []
  | _, _ => []

/-- A call does at the feed what is said of it: a subscriber acts, or items are emitted. -/
structure Lawful (ch : Channel α) : Prop where
  feed_heard : ∀ (m : Manager) heard, ch.feed { m with monitor := heard } = ch.feed m
  emit_run : ∀ m d c, ch.act c = none →
    ch.feed (c.run m d).2.1 = (ch.feed m).emitAll (ch.emits m (c.run m d).1 c)
  act_run : ∀ m d c e, ch.act c = some e → ch.feed (c.run m d).2.1 = (ch.feed m).step e
  join_run : ∀ m d c, ch.act c = some .join →
    (c.run m d).1 = .ok (.place (ch.feed m).boxes.length)
  take_run : ∀ m d c place limit, ch.act c = some (.take place limit) →
    ∃ a, (c.run m d).1 = .ok a ∧ ch.items a = ((ch.feed m).take place limit).1

theorem emitAll_eq (f : Feed α) (items : List α) : f.emitAll items = f.play (items.map .emit) := by
  rw [Feed.emitAll, Feed.play, List.foldl_map]
  rfl

/-- Nobody takes anything while items are emitted. -/
theorem received_emit (f : Feed α) (place : Nat) (items : List α) :
    f.received place (items.map .emit) = [] := by
  induction items generalizing f with
  | nil => rfl
  | cons item items ih => exact ih _

end Channel

section

variable {m m' : Manager} {d d' : Disk} {c : Call} {answer : Except ManagerError Answer}

/-- **Notices are emitted by changes**, when they are committed. -/
theorem Call.Outcome.noticeFeed (h : Call.Outcome m d c answer m' d') (change : c.isChange = true) :
    m'.noticeFeed = m.noticeFeed.emitAll (c.notices m answer) := by
  cases h with
  | refused | unsaved => cases c <;> rfl
  | adopted | purged => rfl
  | updated planned =>
    obtain ⟨old, found, -, rfl⟩ := Registry.planUpdate_eq_ok planned
    rw [Call.notices, found]
    unfold Manager.announceKinds
    split <;> rfl
  | ingested | recorded => cases change
  | attended idle => cases idle.symm.trans change

/-- Changes leave the feed of stats alone. -/
theorem Call.Outcome.statsFeed (h : Call.Outcome m d c answer m' d') (change : c.isChange = true) :
    m'.statsFeed = m.statsFeed := by
  cases h with
  | updated =>
    unfold Manager.announceKinds
    split <;> rfl
  | ingested | recorded => cases change
  | attended idle => cases idle.symm.trans change
  | _ => rfl

theorem Manager.feeds_recordMetrics (m : Manager) (id : String) (values : Dict Float) :
    (m.recordMetrics id values).2.noticeFeed = m.noticeFeed ∧
      (m.recordMetrics id values).2.statsFeed = m.statsFeed := by
  unfold recordMetrics
  split <;> exact ⟨rfl, rfl⟩

end

namespace Channel

theorem lawful_notices : notices.Lawful where
  feed_heard _ _ := rfl
  emit_run m d c other := by
    cases c with
    | adopt ids manifest source breakdown => exact (Call.outcome _ m d).noticeFeed rfl
    | update id updates breakdown => exact (Call.outcome _ m d).noticeFeed rfl
    | purge id => exact (Call.outcome _ m d).noticeFeed rfl
    | recordMetrics id values => exact (m.feeds_recordMetrics id values).1
    | ingest | list | subscribeStats | takeStats | leaveStats => rfl
    | subscribe | takeNotices | leave => cases other
  act_run m d c e acts := by
    cases c with
    | subscribe | takeNotices | leave =>
      cases acts
      rfl
    | _ => cases acts
  join_run m d c acts := by
    cases c with
    | subscribe => rfl
    | _ => cases acts
  take_run m d c place limit acts := by
    cases c with
    | takeNotices =>
      cases acts
      exact ⟨_, rfl, rfl⟩
    | _ => cases acts

theorem lawful_stats : stats.Lawful where
  feed_heard _ _ := rfl
  emit_run m d c other := by
    cases c with
    | adopt ids manifest source breakdown => exact (Call.outcome _ m d).statsFeed rfl
    | update id updates breakdown => exact (Call.outcome _ m d).statsFeed rfl
    | purge id => exact (Call.outcome _ m d).statsFeed rfl
    | recordMetrics id values => exact (m.feeds_recordMetrics id values).2
    | ingest | list | subscribe | takeNotices | leave => rfl
    | subscribeStats | takeStats | leaveStats => cases other
  act_run m d c e acts := by
    cases c with
    | subscribeStats | takeStats | leaveStats =>
      cases acts
      rfl
    | _ => cases acts
  join_run m d c acts := by
    cases c with
    | subscribeStats => rfl
    | _ => cases acts
  take_run m d c place limit acts := by
    cases c with
    | takeStats =>
      cases acts
      exact ⟨_, rfl, rfl⟩
    | _ => cases acts

namespace Lawful

variable {α : Type} {ch : Channel α} {m m' : Manager} {d d' : Disk}

/-- **The feed after a request** is what becomes of it by the events of the request. -/
theorem feed_run (h : ch.Lawful) (m : Manager) (d : Disk) (request : Request) :
    ch.feed (request.run m d).2.1 = (ch.feed m).play (ch.events m d request) := by
  cases request with
  | query q => rfl
  | call c =>
    cases acts : ch.act c with
    | none =>
      rw [events, acts, Option.elim_none, ← emitAll_eq]
      exact h.emit_run m d c acts
    | some e =>
      rw [events, acts, Option.elim_some]
      exact h.act_run m d c e acts

/-- **A subscriber is answered with what it receives.** -/
theorem taken_run (h : ch.Lawful) (place : Nat) (m : Manager) (d : Disk) (request : Request) :
    ch.taken place request (request.run m d).1 =
      (ch.feed m).received place (ch.events m d request) := by
  cases request with
  | query q => cases q.ask m <;> rfl
  | call c =>
    have reply : (Request.run m d (.call c)).1 = (c.run m d).1.map .answer := rfl
    rw [reply]
    cases answer : (c.run m d).1 with
    | error e =>
      have takes : ∀ p limit, ch.act c ≠ some (.take p limit) := fun p limit acts => by
        obtain ⟨a, ok, -⟩ := h.take_run m d c p limit acts
        cases answer.symm.trans ok
      rw [events]
      cases acts : ch.act c with
      | none => exact (received_emit _ _ _).symm
      | some e =>
        cases e with
        | take p limit => exact absurd acts (takes p limit)
        | _ => rfl
    | ok a =>
      have here : ch.taken place (.call c) (.ok (.answer a)) =
          if ch.takes place c then ch.items a else [] := rfl
      rw [Except.map, here, events, takes]
      cases acts : ch.act c with
      | none => exact (received_emit _ _ _).symm
      | some e =>
        cases e with
        | take p limit =>
          obtain ⟨a', ok, items⟩ := h.take_run m d c p limit acts
          cases answer.symm.trans ok
          simp [Feed.received, Feed.taken, items]
        | _ => rfl

/-- **The feed after requests in a row** is what becomes of it by their history, and each subscriber is
answered with what it receives in it. -/
theorem runAll (h : ch.Lawful) {requests : List Request} {replies : List (Except ManagerError Reply)}
    (ran : Request.runAll m d requests = (replies, m', d')) :
    ch.feed m' = (ch.feed m).play (ch.history m d requests) ∧
      ∀ place, (List.zipWith (ch.taken place) requests replies).flatten =
        (ch.feed m).received place (ch.history m d requests) := by
  induction requests generalizing m d replies with
  | nil =>
    obtain ⟨rfl, rfl, rfl⟩ : [] = replies ∧ m = m' ∧ d = d' := by simpa [Request.runAll] using ran
    exact ⟨rfl, fun _ => rfl⟩
  | cons request requests ih =>
    simp only [Request.runAll, Prod.mk.injEq] at ran
    obtain ⟨rfl, rfl, rfl⟩ := ran
    obtain ⟨feed, taken⟩ := ih rfl
    refine ⟨?_, fun place => ?_⟩
    · rw [feed, history, Feed.play_append, h.feed_run]
    · rw [List.zipWith_cons_cons, List.flatten_cons, taken, h.taken_run, h.feed_run, history,
        Feed.received_append]

end Lawful

end Channel

/-! ## Requests at once -/

namespace Traffic

/-- The requests that took effect, in that order. -/
def served (requests : Nat → Request) (s : Traffic) : List Request :=
  s.log.map fun e => requests e.1

/-- What the subscriber at this place has been answered with. -/
def answered {α : Type} (ch : Channel α) (requests : Nat → Request) (place : Nat) (s : Traffic) :
    List α :=
  s.log.flatMap fun e => ch.taken place (requests e.1) e.2

namespace Serial

variable {requests : Nat → Request} {m : Manager} {d : Disk} {s : Traffic}

/-- A manager that was loaded is at the start of requests in a row. -/
theorem start {settings : ManagerSettings} {store : Store} {catalogs : CatalogSource}
    {monitor : Option Monitor} (loaded : Manager.load settings store catalogs monitor d = .ok m)
    (requests : Nat → Request) :
    Serial requests m d { manager := m, disk := d } :=
  ⟨(Manager.current_load loaded).2.fresh, List.nodup_nil, m, d, rfl, .free rfl⟩

/-- **The feed of a manager that is asked by many** is what becomes of it by the requests that took
effect, and each subscriber has been answered with what it receives in them. -/
theorem channel {α : Type} {ch : Channel α} (law : ch.Lawful) (h : s.Serial requests m d) :
    ch.feed s.manager = (ch.feed m).play (ch.history m d (s.served requests)) ∧
      ∀ place, s.answered ch requests place =
        (ch.feed m).received place (ch.history m d (s.served requests)) := by
  obtain ⟨m', d', ran, here, -⟩ := h.in_a_row
  obtain ⟨feed, taken⟩ := law.runAll ran
  refine ⟨?_, fun place => ?_⟩
  · rw [← here, law.feed_heard]
    exact feed
  · rw [served, ← taken place, answered, List.zipWith_map, List.zipWith_self, List.flatMap_def]

/-- **A request in the log** took effect where those before it had come to. -/
theorem split (h : s.Serial requests m d) {before after : List (Nat × Except ManagerError Reply)}
    {t : Nat} {reply : Except ManagerError Reply} (log : s.log = before ++ (t, reply) :: after) :
    ∃ m₁ d₁ m₂ d₂ m' d',
      Request.runAll m d (before.map fun e => requests e.1) = (before.map Prod.snd, m₁, d₁) ∧
        (requests t).run m₁ d₁ = (reply, m₂, d₂) ∧
        Request.runAll m₂ d₂ (after.map fun e => requests e.1) = (after.map Prod.snd, m', d') ∧
        m'.registry = s.manager.registry := by
  obtain ⟨m', d', all, here, -⟩ := h.in_a_row
  rw [log, List.map_append, List.map_append, List.map_cons, List.map_cons] at all
  obtain ⟨m₁, d₁, m₂, d₂, first, now, later⟩ := Request.runAll_split all (by simp)
  exact ⟨m₁, d₁, m₂, d₂, m', d', first, now, later, by rw [← here]⟩

variable {α : Type} {ch : Channel α} {before after : List (Nat × Except ManagerError Reply)}
  {t : Nat} {reply : Except ManagerError Reply} {c : Call} {m₁ m₂ : Manager} {d₁ d₂ : Disk}

/-- **A subscriber joins where its request takes effect**, and is told its place. -/
theorem joined_at (law : ch.Lawful) (log : s.log = before ++ (t, reply) :: after)
    (request : requests t = .call c) (acts : ch.act c = some .join)
    (first : Request.runAll m d (before.map fun e => requests e.1) = (before.map Prod.snd, m₁, d₁))
    (now : (requests t).run m₁ d₁ = (reply, m₂, d₂)) :
    ch.history m d (s.served requests) = ch.history m d (before.map fun e => requests e.1) ++
        .join :: ch.history m₂ d₂ (after.map fun e => requests e.1) ∧
      reply = .ok (.answer (.place
        ((ch.feed m).play (ch.history m d (before.map fun e => requests e.1))).boxes.length)) := by
  refine ⟨?_, ?_⟩
  · rw [served, log, List.map_append, List.map_cons, Channel.history_split ch first now, request,
      Channel.events, acts]
    rfl
  · have told : (c.run m₁ d₁).1.map .answer = reply := by
      rw [request] at now
      exact congrArg Prod.fst now
    rw [← told, law.join_run m₁ d₁ c acts, (law.runAll first).1]
    rfl

end Serial

end Traffic

end Kennel
