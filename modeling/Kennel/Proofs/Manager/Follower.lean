import Kennel.Proofs.Manager.Subscribers

/-!
# Clients that follow the changes

A client subscribes to the changes, asks for the list of pups, and then follows the notices: one with a
record puts it in the place of what the client held of that pup, and one without drops the pup
(`Notice.followAll`). Once it has read all notices, **it holds what the manager holds**
(`followers_converge`), though notices from before the list are followed on top of the newer list.

Of each pup the last notice counts (`Notice.last_counts`), so it does no harm to follow notices again
that a list accounts for already (`Dict.Agrees.replay`). And every call leads from the records before it
to the records after it by its notices (`Call.Outcome.followed`): a notice carries the whole record
after the change, and an update without notices changes nothing. Only whether a provider is missing is
known to the manager alone, since it can change with another pup (`Record.known`).
-/

namespace Kennel

open Traffic

/-- The record as clients can know it. -/
def Record.known (r : Record) : Record := { r with needsDeps := false }

/-- What is held of each pup is the same, as far as clients can know it. -/
def Dict.Agrees (held held' : Dict Record) : Prop :=
  ∀ id, (held.get? id).map Record.known = (held'.get? id).map Record.known

/-! ## Following -/

namespace Notice

/-- What a client holds after a notice. -/
def follow (held : Dict Record) (n : Notice) : Dict Record :=
  match n.record with
  | some r => held.insert n.id r
  | none => held.erase n.id

/-- What a client holds after notices. -/
def followAll (held : Dict Record) (notices : List Notice) : Dict Record := notices.foldl follow held

theorem get?_follow (held : Dict Record) (n : Notice) (id : String) :
    (follow held n).get? id = if id = n.id then n.record else held.get? id := by
  unfold follow
  cases n.record with
  | some r => exact Dict.get?_insert held n.id r id
  | none => exact Dict.get?_erase held n.id id

theorem followAll_append (held : Dict Record) (notices later : List Notice) :
    followAll held (notices ++ later) = followAll (followAll held notices) later :=
  List.foldl_append

/-- **Of each pup the last notice counts**: none of the notices is about it, or what is held of it
after them is the same whatever was held before. -/
theorem last_counts (notices : List Notice) (id : String) :
    (∀ held, (followAll held notices).get? id = held.get? id) ∨
      ∃ last, ∀ held, (followAll held notices).get? id = last := by
  induction notices with
  | nil => exact .inl fun _ => rfl
  | cons n notices ih =>
    rcases ih with silent | ⟨last, counts⟩
    · have first (held : Dict Record) : (followAll held (n :: notices)).get? id =
          if id = n.id then n.record else held.get? id :=
        (silent (follow held n)).trans (get?_follow held n id)
      by_cases about : id = n.id
      · exact .inr ⟨n.record, fun held => by rw [first, if_pos about]⟩
      · exact .inl fun held => by rw [first, if_neg about]
    · exact .inr ⟨last, fun held => counts (follow held n)⟩

/-- Notices of one record leave it in its place. -/
theorem get?_followAll_ofRecord (held : Dict Record) (r : Record) (kind : NoticeKind)
    (kinds : List NoticeKind) (id : String) :
    (followAll held ((kind :: kinds).map (ofRecord · r))).get? id =
      if id = r.id then some r else held.get? id := by
  induction kinds generalizing held kind with
  | nil => exact get?_follow held (ofRecord kind r) id
  | cons next kinds ih =>
    refine (ih (follow held (ofRecord kind r)) next).trans ?_
    rw [get?_follow]
    split
    next => rfl
    next other => exact if_neg other

end Notice

namespace Dict.Agrees

variable {held held' held'' : Dict Record}

theorem trans (h : held.Agrees held') (h' : held'.Agrees held'') : held.Agrees held'' :=
  fun id => (h id).trans (h' id)

/-- Who holds the same and follows the same notices holds the same. -/
theorem followAll (h : held.Agrees held') (notices : List Notice) :
    (Notice.followAll held notices).Agrees (Notice.followAll held' notices) := by
  intro id
  rcases Notice.last_counts notices id with silent | ⟨last, counts⟩
  · rw [silent, silent, h id]
  · rw [counts, counts]

/-- **Notices that led to what is held can be followed again.** -/
theorem replay {notices : List Notice} (h : (Notice.followAll held notices).Agrees held') :
    (Notice.followAll held' notices).Agrees held' := by
  intro id
  rcases Notice.last_counts notices id with silent | ⟨last, counts⟩
  · rw [silent]
  · rw [counts, ← counts held, h id]

/-- Who holds the same lists the same. -/
theorem sortByAddress (h : held.Agrees held') :
    (Record.sortByAddress held.values).map Record.known =
      (Record.sortByAddress held'.values).map Record.known := by
  have values (held : Dict Record) :
      (held.mapWithKey fun _ r => r.known).values = held.values.map Record.known := by
    simp [Dict.values, Dict.mapWithKey]
  have sorted (l : List Record) : (Record.sortByAddress l).map Record.known =
      Record.sortByAddress (l.map Record.known) :=
    List.map_mergeSort fun _ _ _ _ => rfl
  rw [sorted, sorted, ← values, ← values]
  refine congrArg (fun d : Dict Record => Record.sortByAddress d.values) (Dict.ext_get? fun id => ?_)
  rw [Dict.get?_mapWithKey, Dict.get?_mapWithKey]
  exact h id

end Dict.Agrees

/-! ## Calls and their notices -/

namespace Update

/-- The kinds of change that are in a queue stay there. -/
theorem enqueued (updates : List Update) {state : Record × List NoticeKind} (waiting : state.2 ≠ []) :
    (updates.foldl (fun state u => u.apply state) state).2 ≠ [] := by
  induction updates generalizing state with
  | nil => exact waiting
  | cons u updates ih =>
    refine ih ?_
    change enqueue state.2 (u.kind? state.1) ≠ []
    unfold enqueue
    split
    · exact waiting
    · split
      · exact waiting
      · simp

/-- An update that makes no change to tell of changes nothing but flags. -/
theorem bare_applyTo {u : Update} {r : Record} (silent : u.kind? r = none) :
    (u.applyTo r).bare = r.bare := by
  cases u with
  | setPhase phase =>
    simp only [kind?, ite_eq_left_iff, reduceCtorEq, imp_false, not_not] at silent
    rw [applyTo, ← silent]
  | setEnabled enabled =>
    simp only [kind?, ite_eq_left_iff, reduceCtorEq, imp_false, not_not] at silent
    rw [applyTo, ← silent]
  | setNeedsConf | setNeedsDeps => rfl
  | mergeConfig | setProvider | setProviders => cases silent

/-- **Updates without a notice change nothing** but flags. -/
theorem bare_applyAll {updates : List Update} {r : Record} (silent : (applyAll updates r).2 = []) :
    (applyAll updates r).1.bare = r.bare := by
  unfold applyAll at silent ⊢
  induction updates generalizing r with
  | nil => rfl
  | cons u updates ih =>
    rw [List.foldl_cons, apply] at silent ⊢
    cases kind : u.kind? r with
    | some k =>
      rw [kind] at silent
      exact absurd silent (enqueued updates (by simp [enqueue]))
    | none =>
      rw [kind] at silent
      exact (ih silent).trans (bare_applyTo kind)

end Update

namespace Registry

variable {g : Registry}

/-- A record that was marked once has the same marks at a second look. -/
theorem marked_marked (g : Registry) (r : Record) : g.marked (g.marked r) = g.marked r :=
  marked_eq (fun _ => rfl) rfl

/-- **A look at the health shows clients nothing new** of records that were marked before. -/
theorem agrees_refreshHealth {held : Dict Record} (same : ∀ id, held.get? id = g.records.get? id)
    (marked : ∀ id r, g.records.get? id = some r → ∃ before : Registry, before.marked r = r) :
    held.Agrees g.refreshHealth.records := by
  intro id
  rw [same, get?_refreshHealth, Option.map_map]
  cases found : g.records.get? id with
  | none => rfl
  | some r =>
    obtain ⟨before, twice⟩ := marked id r found
    -- The one flag that clients know follows from the record alone.
    have known : (before.marked r).known = (g.marked r).known := rfl
    rw [twice] at known
    exact congrArg some known

/-- The records by their IDs, from a list of them. -/
theorem ofList_list (indexed : g.Indexed) :
    Dict.ofList (g.list.map fun r => (r.id, r)) = g.records := by
  refine Dict.ext_get? fun k => Option.ext fun r => ?_
  rw [get?_ofList_ids fun a ha b hb => indexed.eq_of_mem_list ha hb]
  constructor
  · rintro ⟨r, listed, rfl, rfl⟩
    exact indexed.mem_list_iff.1 listed
  · intro found
    have keyed := indexed.keyed k r found
    exact ⟨r, indexed.mem_list_iff.2 (keyed ▸ found), keyed, rfl⟩

end Registry

/-- **Every call leads by its notices from the records before it to the records after it.** -/
theorem Call.Outcome.followed {m m' : Manager} {d d' : Disk} {c : Call}
    {answer : Except ManagerError Answer} (h : Call.Outcome m d c answer m' d')
    (indexed : m.registry.Indexed) (fresh : m.registry.Fresh) :
    (Notice.followAll m.registry.records (c.notices m answer)).Agrees m'.registry.records := by
  cases h with
  | refused | unsaved => cases c <;> exact fun _ => rfl
  | adopted planned saved =>
    obtain ⟨-, -, address, ports, -, -, rfl⟩ := Registry.planAdoption_ok planned
    refine Registry.agrees_refreshHealth (fun _ => rfl) fun id r found => ⟨m.registry, ?_⟩
    rcases Registry.get?_insert_cases found with ⟨-, rfl⟩ | ⟨-, found⟩
    · exact Registry.marked_marked _ _
    · exact fresh id r found
  | @updated id updates breakdown r kinds d' planned saved =>
    obtain ⟨old, found, rfl, rfl⟩ := Registry.planUpdate_eq_ok planned
    have keyed : (m.registry.marked (Update.applyAll updates old).1).id = id :=
      (Record.Kept.applyAll updates old).id.trans (indexed.keyed id old found)
    rw [Manager.registry_announceKinds]
    refine Registry.agrees_refreshHealth (fun k => ?_) fun k r found => ⟨m.registry, ?_⟩
    · rw [notices, found, Option.elim_some, Dict.get?_insert]
      cases kinds : (Update.applyAll updates old).2 with
      | nil =>
        -- Without notices the record is the old one.
        have same : m.registry.marked (Update.applyAll updates old).1 = old :=
          (Registry.marked_eq (fun _ => rfl) (Update.bare_applyAll kinds)).trans (fresh id old found)
        rw [keyed]
        split
        next here => rw [here, same]; exact found
        next => rfl
      | cons kind kinds => exact Notice.get?_followAll_ofRecord _ _ _ _ _
    · rcases Registry.get?_insert_cases found with ⟨-, rfl⟩ | ⟨-, found⟩
      · exact Registry.marked_marked _ _
      · exact fresh k r found
  | purged purged =>
    obtain ⟨-, rfl⟩ := Registry.purge_ok purged
    refine Registry.agrees_refreshHealth (fun _ => rfl) fun id r found => ⟨m.registry, fresh id r ?_⟩
    rw [Dict.get?_erase] at found
    split at found
    · cases found
    · exact found
  | ingested sample slow =>
    obtain ⟨seen, seenEq, records, -⟩ := Registry.ingest_eq m.registry sample slow
    have same : (m.ingest sample slow).registry = seen.refreshHealth := seenEq
    rw [same]
    refine Registry.agrees_refreshHealth (fun id => ?_) fun id r found =>
      ⟨m.registry, fresh id r (records ▸ found)⟩
    rw [records]
    rfl
  | recorded recorded =>
    rw [show _ = m.registry.records from (Registry.recordMetrics_ok recorded).1]
    exact fun _ => rfl
  | attended idle =>
    cases c <;> first | exact fun _ => rfl | cases idle

/-! ## Requests in a row -/

/-- What holds of a registry between requests. -/
structure Registry.Settled (g : Registry) : Prop where
  indexed : g.Indexed
  fresh : g.Fresh

/-- Every request leaves the records settled, and leads to them by its notices. -/
theorem Traffic.Request.followed {m : Manager} (settled : m.registry.Settled) (d : Disk)
    (request : Request) :
    (request.run m d).2.1.registry.Settled ∧
      (Notice.followAll m.registry.records
        (Feed.emitted (Channel.notices.events m d request))).Agrees
          (request.run m d).2.1.registry.records := by
  cases request with
  | query q => exact ⟨settled, fun _ => rfl⟩
  | call c =>
    have outcome := c.outcome m d
    rw [Channel.detached_notices.emitted_events]
    exact ⟨⟨outcome.effect.indexed settled.indexed, settled.fresh.step outcome.effect⟩,
      outcome.followed settled.indexed settled.fresh⟩

/-- **Requests in a row lead by their notices to the records after them.** -/
theorem Traffic.Request.followed_runAll {m m' : Manager} {d d' : Disk} {requests : List Request}
    {replies : List (Except ManagerError Reply)} (settled : m.registry.Settled)
    (ran : runAll m d requests = (replies, m', d')) :
    m'.registry.Settled ∧
      (Notice.followAll m.registry.records
        (Feed.emitted (Channel.notices.history m d requests))).Agrees m'.registry.records := by
  induction requests generalizing m d replies with
  | nil =>
    obtain ⟨rfl, rfl, rfl⟩ : [] = replies ∧ m = m' ∧ d = d' := by simpa [runAll] using ran
    exact ⟨settled, fun _ => rfl⟩
  | cons request requests ih =>
    simp only [runAll, Prod.mk.injEq] at ran
    obtain ⟨rfl, rfl, rfl⟩ := ran
    obtain ⟨next, first⟩ := request.followed settled d
    obtain ⟨last, rest⟩ := ih next rfl
    refine ⟨last, ?_⟩
    rw [Channel.history, Feed.emitted_append, Notice.followAll_append]
    exact (first.followAll _).trans rest

/-! ## Clients -/

/-- What a client has heard that subscribed after the requests in `before` took effect, was not dropped
and has taken all notices. It and other subscribers can act at any points between the notices. -/
inductive Traffic.Heard (requests : Nat → Request) (m : Manager) (d : Disk) (s : Traffic)
    (before : List (Nat × Except ManagerError Reply)) : List Notice → Prop where
  | all {earlier events : List (Feed.Event Notice)} {queue : Mailbox Notice}
    (joins : Feed.emitted earlier =
      Feed.emitted (Channel.notices.history m d (before.map fun e => requests e.1)))
    (emits : Feed.emitted (earlier ++ .join :: events) =
      Feed.emitted (Channel.notices.history m d (s.served requests)))
    (there : (m.noticeFeed.play (earlier ++ .join :: events)).boxes[
      (m.noticeFeed.play earlier).boxes.length]? = some queue)
    (fed : queue.isFed = true) (read : queue.queued = []) :
    Heard requests m d s before
      (m.noticeFeed.received (m.noticeFeed.play earlier).boxes.length (earlier ++ .join :: events))

namespace Traffic.Serial

variable {requests : Nat → Request} {m m₁ m₂ : Manager} {d d₁ d₂ : Disk} {s : Traffic} {t : Nat}
  {reply : Except ManagerError Reply} {before after : List (Nat × Except ManagerError Reply)}

/-- **Such a client has heard all notices since it subscribed.** -/
theorem heard_all (log : s.log = before ++ (t, reply) :: after)
    (subscribes : requests t = .call .subscribe)
    (first : Request.runAll m d (before.map fun e => requests e.1) = (before.map Prod.snd, m₁, d₁))
    (now : (requests t).run m₁ d₁ = (reply, m₂, d₂)) {heard : List Notice}
    (hears : s.Heard requests m d before heard) :
    heard = Feed.emitted (Channel.notices.history m₂ d₂ (after.map fun e => requests e.1)) := by
  obtain ⟨history, -⟩ := joined_at Channel.lawful_notices log subscribes rfl first now
  cases hears with
  | all joins emits there fed read =>
    rw [history, Feed.emitted_append, Feed.emitted_append, joins] at emits
    exact ((Feed.gapless _ _ _).received_all there fed read).trans (List.append_cancel_left emits)

/-- A client that is answered by the manager hears what it is answered with. -/
theorem heard_answered (h : s.Serial requests m d) {place : Nat} {queue : Mailbox Notice}
    (log : s.log = before ++ (t, .ok (.answer (.place place))) :: after)
    (subscribes : requests t = .call .subscribe)
    (there : s.manager.noticeFeed.boxes[place]? = some queue) (fed : queue.isFed = true)
    (read : queue.queued = []) :
    s.Heard requests m d before (s.answered Channel.notices requests place) := by
  obtain ⟨m₁, d₁, m₂, d₂, -, -, first, now, -⟩ := h.split log
  obtain ⟨feed, answered⟩ := h.channel Channel.lawful_notices
  obtain ⟨history, told⟩ := joined_at Channel.lawful_notices log subscribes rfl first now
  obtain rfl : place = _ := by simpa using told
  have last : s.manager.noticeFeed = _ := feed
  rw [last, history] at there
  rw [answered, history]
  exact .all rfl (congrArg Feed.emitted history.symm) there fed read

end Traffic.Serial

/-- Who starts with this list and follows these notices holds the records of the registry, and lists
them like the registry does, as far as clients can know them. -/
structure Registry.HeldBy (g : Registry) (welcome : List Record) (heard : List Notice) : Prop where
  agrees : (Notice.followAll (Dict.ofList (welcome.map fun r => (r.id, r))) heard).Agrees g.records
  lists : (Record.sortByAddress (Notice.followAll (Dict.ofList (welcome.map fun r => (r.id, r)))
    heard).values).map Record.known = g.list.map Record.known

/-- **Clients that follow the changes converge to what the manager holds.** A manager that was loaded is
asked by many, and their steps fall between each other as they may. A client subscribes and later asks
for the list of pups; it starts with that list and follows the notices that it hears. When it was not
dropped and has taken all notices, it holds the records of the installed pups, and lists them like the
manager does, in all but the flag that clients cannot know. A client that takes its notices by requests
is one of these. -/
theorem followers_converge {settings : ManagerSettings} {store : Store} {catalogs : CatalogSource}
    {monitor : Option Monitor} {m : Manager} {d : Disk}
    (loaded : Manager.load settings store catalogs monitor d = .ok m) (requests : Nat → Request)
    (schedule : List Nat) {s : Traffic}
    (ran : Traffic.run requests { manager := m, disk := d } schedule = s)
    {before between after : List (Nat × Except ManagerError Reply)} {a b place : Nat}
    {welcome : List Record}
    (log : s.log = before ++ (a, .ok (.answer (.place place))) ::
      (between ++ (b, .ok (.answer (.records welcome))) :: after))
    (subscribes : requests a = .call .subscribe) (lists : requests b = .call .list) :
    (∀ heard, s.Heard requests m d before heard → s.manager.registry.HeldBy welcome heard) ∧
      ∀ queue, s.manager.noticeFeed.boxes[place]? = some queue → queue.isFed = true →
        queue.queued = [] →
          s.Heard requests m d before (s.answered Channel.notices requests place) := by
  have serial := ran ▸ (Serial.start loaded requests).run schedule
  refine ⟨fun heard hears => ?_, fun queue there fed read =>
    serial.heard_answered log subscribes there fed read⟩
  obtain ⟨m₁, d₁, m₂, d₂, m', d', first, joins, rest, last⟩ := serial.split log
  rw [List.map_append, List.map_append, List.map_cons, List.map_cons] at rest
  obtain ⟨m₃, d₃, m₄, d₄, second, asks, third⟩ := Request.runAll_split rest (by simp)
  have all := Serial.heard_all log subscribes first joins hears
  -- Neither of the two requests changes a record.
  rw [subscribes] at joins
  rw [lists] at asks
  have same : m₂.registry = m₁.registry := by
    cases joins
    rfl
  obtain ⟨rfl, rfl, rfl⟩ : m₃.registry.list = welcome ∧ m₃ = m₄ ∧ d₃ = d₄ := by
    cases asks
    exact ⟨rfl, rfl, rfl⟩
  rw [List.map_append, List.map_cons, lists, Channel.history_split _ second asks, Feed.emitted_append]
    at all
  -- The records when the client joins, when it is given the list, and in the end.
  obtain ⟨indexed, current⟩ := Manager.current_load loaded
  obtain ⟨settled₁, -⟩ := Request.followed_runAll ⟨indexed, current.fresh⟩ first
  obtain ⟨settled₃, meanwhile⟩ := Request.followed_runAll (same ▸ settled₁) second
  obtain ⟨-, later⟩ := Request.followed_runAll settled₃ third
  have agrees : (Notice.followAll (Dict.ofList (m₃.registry.list.map fun r => (r.id, r))) heard).Agrees
      s.manager.registry.records := by
    rw [Registry.ofList_list settled₃.indexed, all, Notice.followAll_append, ← last]
    exact (meanwhile.replay.followAll _).trans later
  exact ⟨agrees, agrees.sortByAddress⟩

/-- A pup is adopted while a client connects, and it is enabled afterwards. -/
def connecting : Nat → Request
  | 0 => .call .subscribe
  | 1 => .call (.adopt (.numbersFrom 0) { identity := ⟨"node", "1.0.0", ""⟩ } ⟨"main", "/srv"⟩ none)
  | 2 => .call .list
  | 3 => .call (.update "0" [.setEnabled true] none)
  | _ => .call (.takeNotices 0 none)

/-- The client is told of the adoption twice, and it holds the one pup that is listed in the end. -/
theorem followers_converge_connecting :
    Manager.load bareManager.settings bareManager.store default bareManager.monitor bareDisk =
        .ok bareManager.rewatch ∧
      ∃ s welcome adopted updated taken queue,
        Traffic.run connecting { manager := bareManager.rewatch, disk := bareDisk }
          [0, 1, 1, 1, 1, 2, 3, 3, 3, 3, 4] = s ∧
        s.log = [] ++ (0, .ok (.answer (.place 0))) ::
          ([adopted] ++ (2, .ok (.answer (.records welcome))) :: [updated, taken]) ∧
        s.manager.noticeFeed.boxes[0]? = some queue ∧ queue.isFed = true ∧ queue.queued = [] ∧
        s.Heard connecting bareManager.rewatch bareDisk []
          (s.answered Channel.notices connecting 0) ∧
        (s.answered Channel.notices connecting 0).map Notice.kind = [.adopted, .enabledChanged] ∧
        s.manager.registry.HeldBy welcome (s.answered Channel.notices connecting 0) ∧
        s.manager.registry.list.length = 1 := by
  refine ⟨load_bareDisk, ?_⟩
  have heard : ((Traffic.run connecting { manager := bareManager.rewatch, disk := bareDisk }
      [0, 1, 1, 1, 1, 2, 3, 3, 3, 3, 4]).answered Channel.notices connecting 0).map Notice.kind =
        [.adopted, .enabledChanged] := by decide +kernel
  have order : (Traffic.run connecting { manager := bareManager.rewatch, disk := bareDisk }
      [0, 1, 1, 1, 1, 2, 3, 3, 3, 3, 4]).log.map Prod.fst = [0, 1, 2, 3, 4] := by decide +kernel
  have box : ((Traffic.run connecting { manager := bareManager.rewatch, disk := bareDisk }
      [0, 1, 1, 1, 1, 2, 3, 3, 3, 3, 4]).manager.noticeFeed.boxes[0]?.any
        fun queue => queue.isFed && queue.queued.isEmpty) = true := by decide +kernel
  have one : (Traffic.run connecting { manager := bareManager.rewatch, disk := bareDisk }
      [0, 1, 1, 1, 1, 2, 3, 3, 3, 3, 4]).manager.registry.list.length = 1 := by decide +kernel
  have serial := (Serial.start load_bareDisk connecting).run [0, 1, 1, 1, 1, 2, 3, 3, 3, 3, 4]
  obtain ⟨s, ran⟩ : ∃ s, Traffic.run connecting { manager := bareManager.rewatch, disk := bareDisk }
      [0, 1, 1, 1, 1, 2, 3, 3, 3, 3, 4] = s := ⟨_, rfl⟩
  rw [ran] at heard order box one serial
  obtain ⟨queue, there, attended⟩ := (Option.any_eq_true _ _).1 box
  rw [Bool.and_eq_true, List.isEmpty_iff] at attended
  -- The replies in the log are those of the requests in a row.
  obtain ⟨m, d, inRow, -⟩ := serial.in_a_row
  have numbered : s.log.map (fun e => connecting e.1) = [0, 1, 2, 3, 4].map connecting := by
    rw [← order, List.map_map]
    rfl
  rw [numbered] at inRow
  have replies : (Request.runAll _ _ _).1 = s.log.map Prod.snd := congrArg Prod.fst inRow
  have zipped : s.log = (s.log.map Prod.fst).zip (s.log.map Prod.snd) := by
    rw [List.zip_map', List.map_id']
  rw [order, ← replies] at zipped
  have log : s.log = [] ++ (0, .ok (.answer (.place 0))) ::
      ([_] ++ (2, .ok (.answer (.records _))) :: [_, _]) := zipped
  obtain ⟨converges, hears⟩ := followers_converge load_bareDisk connecting _ ran log rfl rfl
  have hears := hears queue there attended.1 attended.2
  exact ⟨s, _, _, _, _, queue, ran, log, there, attended.1, attended.2, hears, heard,
    converges _ hears, one⟩

end Kennel
