import Kennel.Manager.Basic
import Kennel.Proofs.Manager.Registry

/-!
# Sequences of calls

What clients can ask of a manager, as data, so that statements can be made about every sequence of
calls. A call that stores a record says at which point the system breaks off, if it does. The disk can
be another one at each call.

What a call can end with is said once (`Call.Outcome`), and what it can make of the registry follows
(`Call.Effect`).
-/

namespace Kennel

/-- A call of the manager. -/
inductive Call where
  | adopt (ids : IdSource) (manifest : Manifest) (source : Source)
      (breakdown : Option Disk.Breakdown)
  | update (id : String) (updates : List Update) (breakdown : Option Disk.Breakdown)
  | purge (id : String)
  | ingest (sample : Sample) (slow : Bool)
  | recordMetrics (id : String) (values : Dict Float)
  | list
  | subscribe
  | takeNotices (place : Nat) (limit : Option Nat)
  | leave (place : Nat)
  | subscribeStats
  | takeStats (place : Nat) (limit : Option Nat)
  | leaveStats (place : Nat)

/-- What a call that did not fail is answered with. -/
inductive Answer where
  | done
  | record (r : Record)
  | records (l : List Record)
  | place (n : Nat)
  | notices (l : List Notice)
  | stats (l : List (List Stats))

namespace Call

/-- The call changes which pups are installed, or what is kept of one. -/
def isChange : Call → Bool
  | adopt _ _ _ _ => true
  | update _ _ _ => true
  | purge _ => true
  | _ => false

/-- Makes a call: the answer, and the manager and the disk after it. -/
def run (m : Manager) (d : Disk) : Call → Except ManagerError Answer × Manager × Disk
  | adopt ids manifest source breakdown =>
    let (reply, m, d) := m.adopt ids manifest source d breakdown
    (reply.map .record, m, d)
  | update id updates breakdown =>
    let (reply, m, d) := m.update id updates d breakdown
    (reply.map .record, m, d)
  | purge id =>
    let (reply, m) := m.purge id
    (reply.map fun _ => .done, m, d)
  | ingest sample slow => (.ok .done, m.ingest sample slow, d)
  | recordMetrics id values =>
    let (reply, m) := m.recordMetrics id values
    (reply.map fun _ => .done, m, d)
  | list => (.ok (.records m.registry.list), m, d)
  | subscribe =>
    let (feed, place) := m.noticeFeed.subscribe
    (.ok (.place place), { m with noticeFeed := feed }, d)
  | takeNotices place limit =>
    let (items, feed) := m.noticeFeed.take place limit
    (.ok (.notices items), { m with noticeFeed := feed }, d)
  | leave place => (.ok .done, { m with noticeFeed := m.noticeFeed.leave place }, d)
  | subscribeStats =>
    let (feed, place) := m.statsFeed.subscribe
    (.ok (.place place), { m with statsFeed := feed }, d)
  | takeStats place limit =>
    let (items, feed) := m.statsFeed.take place limit
    (.ok (.stats items), { m with statsFeed := feed }, d)
  | leaveStats place => (.ok .done, { m with statsFeed := m.statsFeed.leave place }, d)

end Call

/-! ## What a call ends with -/

/-- What a call ends with: an answer, a manager and a disk. A call that fails was refused, or its
record could not be stored; a call that only lists pups or attends to subscribers changes nothing
but their queues. -/
inductive Call.Outcome (m : Manager) (d : Disk) :
    Call → Except ManagerError Answer → Manager → Disk → Prop where
  | refused (c : Call) (e : ManagerError) : Outcome m d c (.error e) m d
  | unsaved (c : Call) (e : ManagerError) {r : Record} {breakdown : Option Disk.Breakdown}
      {e' : DiskError} {d' : Disk}
      (stopped : Disk.run (m.store.save r breakdown) d = (.error e', d')) :
      Outcome m d c (.error e) m d'
  | adopted {ids : IdSource} {manifest : Manifest} {source : Source}
      {breakdown : Option Disk.Breakdown} {r : Record} {d' : Disk}
      (planned : m.registry.planAdoption ids manifest source = .ok r)
      (saved : Disk.run (m.store.save r breakdown) d = (.ok (), d')) :
      Outcome m d (.adopt ids manifest source breakdown) (.ok (.record r))
        (m.commitAdoption r).rewatch d'
  | updated {id : String} {updates : List Update} {breakdown : Option Disk.Breakdown} {r : Record}
      {kinds : List NoticeKind} {d' : Disk}
      (planned : m.registry.planUpdate id updates = .ok (r, kinds))
      (saved : Disk.run (m.store.save r breakdown) d = (.ok (), d')) :
      Outcome m d (.update id updates breakdown) (.ok (.record r))
        ((m.commitUpdate r kinds).announceKinds r.id kinds) d'
  | purged {id : String} {g : Registry} (purged : m.registry.purge id = .ok g) :
      Outcome m d (.purge id) (.ok .done)
        { m with registry := g, noticeFeed := m.noticeFeed.emit (.purged id) }.rewatch d
  | ingested (sample : Sample) (slow : Bool) :
      Outcome m d (.ingest sample slow) (.ok .done) (m.ingest sample slow) d
  | recorded {id : String} {values : Dict Float} {g : Registry}
      (recorded : m.registry.recordMetrics id values = .ok g) :
      Outcome m d (.recordMetrics id values) (.ok .done) { m with registry := g } d
  | attended {c : Call} (idle : c.isChange = false) (answer : Answer) (notices : Feed Notice)
      (stats : Feed (List Stats)) :
      Outcome m d c (.ok answer) { m with noticeFeed := notices, statsFeed := stats } d

/-- **Every call has one of these outcomes.** -/
theorem Call.outcome (c : Call) (m : Manager) (d : Disk) :
    Call.Outcome m d c (c.run m d).1 (c.run m d).2.1 (c.run m d).2.2 := by
  cases c with
  | adopt ids manifest source breakdown =>
    simp only [run, Manager.adopt]
    cases planned : m.registry.planAdoption ids manifest source with
    | error e => exact .refused _ e
    | ok r =>
      rcases saved : Disk.run (m.store.save r breakdown) d with ⟨e | ⟨⟩, d'⟩
      · simp only [saved]
        exact .unsaved _ _ saved
      · simp only [saved]
        exact .adopted planned saved
  | update id updates breakdown =>
    simp only [run, Manager.update]
    cases planned : m.registry.planUpdate id updates with
    | error e => exact .refused _ e
    | ok plan =>
      rcases saved : Disk.run (m.store.save plan.1 breakdown) d with ⟨e | ⟨⟩, d'⟩
      · simp only [saved]
        exact .unsaved _ _ saved
      · simp only [saved]
        exact .updated planned saved
  | purge id =>
    simp only [run, Manager.purge]
    cases purged : m.registry.purge id with
    | error e => exact .refused _ e
    | ok g => exact .purged purged
  | ingest sample slow => exact .ingested sample slow
  | recordMetrics id values =>
    simp only [run, Manager.recordMetrics]
    cases recorded : m.registry.recordMetrics id values with
    | error e => exact .refused _ e
    | ok g => exact .recorded recorded
  | list => exact .attended rfl _ m.noticeFeed m.statsFeed
  | subscribe | takeNotices | leave => exact .attended rfl _ _ m.statsFeed
  | subscribeStats | takeStats | leaveStats => exact .attended rfl _ m.noticeFeed _

/-- No call changes the settings or the store. -/
theorem Call.Outcome.settings {m m' : Manager} {d d' : Disk} {c : Call}
    {answer : Except ManagerError Answer} (h : Call.Outcome m d c answer m' d') :
    m'.settings = m.settings ∧ m'.store = m.store := by
  cases h with
  | updated planned saved =>
    unfold Manager.announceKinds
    split <;> exact ⟨rfl, rfl⟩
  | _ => exact ⟨rfl, rfl⟩

/-- No call asks for the catalogs. -/
theorem Call.Outcome.catalogs {m m' : Manager} {d d' : Disk} {c : Call}
    {answer : Except ManagerError Answer} (h : Call.Outcome m d c answer m' d') :
    m'.catalogs = m.catalogs := by
  cases h with
  | updated planned saved =>
    unfold Manager.announceKinds
    split <;> rfl
  | _ => rfl

/-! ## What calls do to the registry -/

theorem Manager.registry_announceKinds (m : Manager) (id : String) (kinds : List NoticeKind) :
    (m.announceKinds id kinds).registry = m.registry := by
  unfold announceKinds
  split <;> rfl

/-- What a call can make of the registry: nothing, or what the operation of its kind commits. -/
inductive Call.Effect (g : Registry) : Registry → Prop where
  | none : Effect g g
  | adopt (bufferSize : Nat) {ids : IdSource} {manifest : Manifest} {source : Source} {r : Record}
      (planned : g.planAdoption ids manifest source = .ok r) :
      Effect g (g.commitAdoption bufferSize r)
  | update {id : String} {updates : List Update} {r : Record} {kinds : List NoticeKind}
      (planned : g.planUpdate id updates = .ok (r, kinds)) : Effect g (g.commitUpdate r)
  | purge {id : String} {after : Registry} (purged : g.purge id = .ok after) : Effect g after
  | ingest (sample : Sample) (slow : Bool) : Effect g (g.ingest sample slow)
  | recordMetrics {id : String} {values : Dict Float} {after : Registry}
      (recorded : g.recordMetrics id values = .ok after) : Effect g after

/-- Whatever is called on whatever disk, the registry is changed by one operation or not at all. -/
theorem Call.Outcome.effect {m m' : Manager} {d d' : Disk} {c : Call}
    {answer : Except ManagerError Answer} (h : Call.Outcome m d c answer m' d') :
    Call.Effect m.registry m'.registry := by
  cases h with
  | refused | unsaved | attended => exact .none
  | adopted planned saved => exact .adopt m.settings.bufferSize planned
  | updated planned saved =>
    rw [Manager.registry_announceKinds]
    exact .update planned
  | purged purged => exact .purge purged
  | ingested sample slow => exact .ingest sample slow
  | recorded recorded => exact .recordMetrics recorded

/-- **Every operation on the registry keeps the records under their IDs**, and stats of the same
pups. -/
theorem Call.Effect.indexed {g g' : Registry} (effect : Call.Effect g g') (h : g.Indexed) :
    g'.Indexed := by
  cases effect with
  | none => exact h
  | adopt bufferSize planned => exact (h.insert _ _ _).refreshHealth
  | update planned =>
    obtain ⟨old, found, kept⟩ := Registry.kept_planUpdate planned
    rw [← h.keyed _ old found, ← kept.id] at found
    exact h.commitUpdate (by rw [found]; rfl)
  | purge purged =>
    obtain ⟨-, rfl⟩ := Registry.purge_ok purged
    exact h.erase _
  | ingest sample slow =>
    obtain ⟨seen, seenEq, records, -, stats⟩ := Registry.ingest_eq g sample slow
    rw [seenEq]
    exact (h.observed records stats).refreshHealth
  | recordMetrics recorded =>
    obtain ⟨records, -, stats⟩ := Registry.recordMetrics_ok recorded
    exact h.observed records stats

/-- **A pup that is installed after a call was installed before it**, or the call adopted it under an
ID that was drawn for it. -/
theorem Call.Outcome.installed {m m' : Manager} {d d' : Disk} {c : Call}
    {answer : Except ManagerError Answer} (h : Call.Outcome m d c answer m' d')
    (indexed : m.registry.Indexed) {k : String} (after : (m'.registry.records.get? k).isSome) :
    (m.registry.records.get? k).isSome ∨ ∃ ids manifest source breakdown,
      c = .adopt ids manifest source breakdown ∧ k = ids.pick m.registry.records.keys := by
  have refreshed : ∀ g : Registry, (g.refreshHealth.records.get? k).isSome = (g.records.get? k).isSome :=
    fun g => by rw [Registry.get?_refreshHealth, Option.isSome_map]
  cases h with
  | refused | unsaved | attended => exact .inl after
  | adopted planned saved =>
    obtain ⟨-, -, address, ports, -, -, rfl⟩ := Registry.planAdoption_ok planned
    have after := (refreshed _).symm.trans after
    rw [Dict.get?_insert] at after
    split at after
    · next drawn => exact .inr ⟨_, _, _, _, rfl, drawn⟩
    · exact .inl after
  | updated planned saved =>
    rw [Manager.registry_announceKinds] at after
    obtain ⟨old, found, kept⟩ := Registry.kept_planUpdate planned
    have after := (refreshed _).symm.trans after
    rw [Dict.get?_insert] at after
    split at after
    · next same =>
      rw [same, kept.id, indexed.keyed _ old found, found]
      exact .inl rfl
    · exact .inl after
  | purged purged =>
    obtain ⟨-, rfl⟩ := Registry.purge_ok purged
    have after := (refreshed _).symm.trans after
    rw [Dict.get?_erase] at after
    split at after
    · cases after
    · exact .inl after
  | ingested sample slow =>
    obtain ⟨seen, seenEq, records, -⟩ := Registry.ingest_eq m.registry sample slow
    have same : (m.ingest sample slow).registry = seen.refreshHealth := seenEq
    rw [same, refreshed, records] at after
    exact .inl after
  | recorded recorded =>
    rw [show _ = m.registry.records from (Registry.recordMetrics_ok recorded).1] at after
    exact .inl after

/-- The manager after calls, each of them made on some disk. -/
def Manager.after (m : Manager) (calls : List (Call × Disk)) : Manager :=
  calls.foldl (fun m c => (c.1.run m c.2).2.1) m

/-- What every operation on the registry keeps is kept by every sequence of calls. -/
theorem Manager.registry_after {P : Registry → Prop}
    (step : ∀ g g', P g → Call.Effect g g' → P g') (m : Manager) (h : P m.registry)
    (calls : List (Call × Disk)) : P (m.after calls).registry := by
  induction calls generalizing m with
  | nil => exact h
  | cons c calls ih => exact ih _ (step _ _ h (c.1.outcome m c.2).effect)

end Kennel
