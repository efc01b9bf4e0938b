import Kennel.Proofs.Manager.Failure

/-!
# Requests at once

The manager is asked by many at once, and two locks order what they do. The **state lock** is held for one
look at the registry or one change of it, never while a file is written; so what happens under it is one
step here. The **write lock** is held by an adoption, an update or a purge from its plan until the monitor
was told, across the steps of others.

An adoption or an update takes four steps: its record is planned, it is stored, it is committed, and the
monitor is told. A purge is committed at once, and then the monitor is told. Every other request is one
step, which can fall between the steps of a change. Which requests there are, and who takes the next step,
is arbitrary (`Traffic.run`).

A request is entered in the log with its reply when it takes effect: a change when it is committed, one
that fails when it fails, and any other request at its only step. In a row, the steps of a change are the
operation of the manager (`Traffic.run_of_planned`, `Traffic.run_purge`). The write lock always gets free
again, so that every request can be served (`Traffic.can_be_served`).
-/

namespace Kennel

namespace Traffic

/-! ## Requests -/

/-- A question about pups that is answered from the registry. -/
inductive Query where
  | record (id : String)
  | stats (id : String)
  | allStats
  | health (id : String)
  | canStart (id : String)
  /-- The catalogs are asked without a lock, so what they answer is part of the question. -/
  | dependencies (id : String) (catalogs : Except String (List Catalog))

/-- What a request that did not fail is answered with. -/
inductive Reply where
  | answer (a : Answer)
  | stats (s : Stats)
  | allStats (l : List Stats)
  | health (h : Health)
  | canStart (b : Bool)
  | reports (l : List DependencyReport)

/-- The answer to a question. -/
def Query.ask (m : Manager) : Query → Except ManagerError Reply
  | record id => (m.registry.get id).map fun r => .answer (.record r)
  | stats id => (m.registry.getStats id).map .stats
  | allStats => .ok (.allStats m.registry.statsList)
  | health id => (m.health id).map .health
  | canStart id => (m.canStart id).map .canStart
  | dependencies id catalogs => (m.registry.get id).map fun r =>
      .reports (resolveDependencies r m.registry.records.values catalogs)

/-- What a client can ask for. -/
inductive Request where
  | call (c : Call)
  | query (q : Query)

namespace Request

/-- The request needs the write lock. -/
def isChange : Request → Bool
  | call c => c.isChange
  | query _ => false

/-- Serves a request that nobody interrupts: the reply, and the manager and the disk after it. -/
def run (m : Manager) (d : Disk) : Request → Except ManagerError Reply × Manager × Disk
  | call c =>
    let (answer, m, d) := c.run m d
    (answer.map .answer, m, d)
  | query q => (q.ask m, m, d)

/-- Serves requests one after another: their replies, and the manager and the disk in the end. -/
def runAll (m : Manager) (d : Disk) :
    List Request → List (Except ManagerError Reply) × Manager × Disk
  | [] => ([], m, d)
  | request :: requests =>
    let (reply, m, d) := request.run m d
    let (replies, m, d) := runAll m d requests
    (reply :: replies, m, d)

theorem length_runAll (m : Manager) (d : Disk) (requests : List Request) :
    (runAll m d requests).1.length = requests.length := by
  induction requests generalizing m d with
  | nil => rfl
  | cons request requests ih => simp only [runAll, List.length_cons, ih]

/-- Requests in two parts. -/
theorem runAll_append (m : Manager) (d : Disk) (before later : List Request) :
    runAll m d (before ++ later) =
      ((runAll m d before).1 ++ (runAll (runAll m d before).2.1 (runAll m d before).2.2 later).1,
        (runAll (runAll m d before).2.1 (runAll m d before).2.2 later).2) := by
  induction before generalizing m d with
  | nil => rfl
  | cons request before ih =>
    simp only [List.cons_append, runAll]
    rw [ih]

/-- **A request in the middle of others** is served where those before it have come to. -/
theorem runAll_split {m m' : Manager} {d d' : Disk} {request : Request} {before later : List Request}
    {reply : Except ManagerError Reply} {replies laterReplies : List (Except ManagerError Reply)}
    (ran : runAll m d (before ++ request :: later) = (replies ++ reply :: laterReplies, m', d'))
    (same : replies.length = before.length) :
    ∃ m₁ d₁ m₂ d₂, runAll m d before = (replies, m₁, d₁) ∧ request.run m₁ d₁ = (reply, m₂, d₂) ∧
      runAll m₂ d₂ later = (laterReplies, m', d') := by
  rw [runAll_append] at ran
  obtain ⟨all, rest⟩ := Prod.mk.inj ran
  obtain ⟨first, others⟩ := List.append_inj all ((length_runAll m d before).trans same.symm)
  obtain ⟨here, later⟩ := List.cons.inj others
  exact ⟨_, _, _, _, Prod.ext first rfl, Prod.ext here rfl, Prod.ext later rest⟩

/-- One more request. -/
theorem runAll_concat {m m' : Manager} {d d' : Disk} {requests : List Request}
    {replies : List (Except ManagerError Reply)} (before : runAll m d requests = (replies, m', d'))
    (request : Request) :
    runAll m d (requests ++ [request]) =
      (replies ++ [(request.run m' d').1], (request.run m' d').2) := by
  rw [runAll_append, before]
  rfl

end Request

/-! ## The steps of a change -/

/-- What the monitor is told after a change. -/
inductive Tidings where
  /-- Which pups there are. -/
  | pups
  /-- Which kinds of change an update made. -/
  | kinds (id : String) (kinds : List NoticeKind)

def Tidings.tell (m : Manager) : Tidings → Manager
  | pups => m.rewatch
  | kinds id changes => m.announceKinds id changes

/-- A change that is planned, and not committed. -/
inductive Plan where
  | adoption (r : Record)
  | update (r : Record) (kinds : List NoticeKind)

namespace Plan

/-- The record that is to be stored. -/
def record : Plan → Record
  | adoption r => r
  | update r _ => r

/-- Puts the record into the registry and tells subscribers. -/
def commit (m : Manager) : Plan → Manager
  | adoption r => m.commitAdoption r
  | update r kinds => m.commitUpdate r kinds

def tidings : Plan → Tidings
  | adoption _ => .pups
  | update r kinds => .kinds r.id kinds

end Plan

end Traffic

open Traffic

namespace Call

/-- The plan of a call that stores a record, made on the registry as it stands. -/
def plan? (g : Registry) : Call → Option (Except ManagerError Plan)
  | adopt ids manifest source _ => some ((g.planAdoption ids manifest source).map .adoption)
  | update id updates _ => some ((g.planUpdate id updates).map fun p => .update p.1 p.2)
  | _ => none

/-- At which point the system breaks off while the record is stored, if it does. -/
def breakdown : Call → Option Disk.Breakdown
  | adopt _ _ _ breakdown => breakdown
  | update _ _ breakdown => breakdown
  | _ => none

end Call

/-- The point at which the system breaks off in a request. -/
def Traffic.Request.breakdown : Request → Option Disk.Breakdown
  | call c => c.breakdown
  | query _ => none

/-- The manager without a pup, before the monitor is told. -/
def Manager.drop (m : Manager) (id : String) : Except ManagerError Manager :=
  (m.registry.purge id).map fun registry =>
    { m with registry, noticeFeed := m.noticeFeed.emit (.purged id) }

namespace Traffic

/-- **The steps of an adoption or an update in a row are the call**: a plan is made, the record is
stored, it is committed, and the monitor is told. Where one of them fails, the call does. -/
theorem run_of_planned {m : Manager} {c : Call} {outcome : Except ManagerError Plan} (d : Disk) :
    c.plan? m.registry = some outcome → c.run m d =
      match outcome with
      | .error e => (.error e, m, d)
      | .ok plan =>
        match Disk.run (m.store.save plan.record c.breakdown) d with
        | (.error e, d) => (.error (.disk e), m, d)
        | (.ok (), d) => (.ok (.record plan.record), plan.tidings.tell (plan.commit m), d) := by
  intro planned
  cases c with
  | adopt ids manifest source breakdown =>
    obtain rfl := Option.some.inj planned
    simp only [Call.run, Manager.adopt, Call.breakdown]
    cases m.registry.planAdoption ids manifest source with
    | error e => rfl
    | ok r =>
      rcases saved : Disk.run (m.store.save r breakdown) d with ⟨e | ⟨⟩, d'⟩
      · simp only [Except.map, Plan.record, saved]
      · simp only [Except.map, Plan.record, saved]
        rfl
  | update id updates breakdown =>
    obtain rfl := Option.some.inj planned
    simp only [Call.run, Manager.update, Call.breakdown]
    cases m.registry.planUpdate id updates with
    | error e => rfl
    | ok p =>
      rcases saved : Disk.run (m.store.save p.1 breakdown) d with ⟨e | ⟨⟩, d'⟩
      · simp only [Except.map, Plan.record, saved]
      · simp only [Except.map, Plan.record, saved]
        rfl
  | _ => cases planned

/-- **The steps of a purge in a row are the call.** -/
theorem run_purge (m : Manager) (id : String) (d : Disk) :
    (Call.purge id).run m d =
      match m.drop id with
      | .error e => (.error e, m, d)
      | .ok m => (.ok .done, Tidings.pups.tell m, d) := by
  simp only [Call.run, Manager.purge, Manager.drop]
  cases m.registry.purge id <;> rfl

section

variable {m m' : Manager} {d d' : Disk} {c : Call} {plan : Plan} {id : String}

/-- A call whose plan is refused fails with that. -/
theorem run_refused {e : ManagerError} (refused : c.plan? m.registry = some (.error e)) (d : Disk) :
    c.run m d = (.error e, m, d) :=
  run_of_planned d refused

/-- A call whose record cannot be stored fails with that. -/
theorem run_unsaved {e : DiskError} (planned : c.plan? m.registry = some (.ok plan))
    (stopped : Disk.run (m.store.save plan.record c.breakdown) d = (.error e, d')) :
    c.run m d = (.error (.disk e), m, d') := by
  simp only [run_of_planned d planned, stopped]

/-- A call whose record is stored is committed, and the monitor is told. -/
theorem run_saved (planned : c.plan? m.registry = some (.ok plan))
    (saved : Disk.run (m.store.save plan.record c.breakdown) d = (.ok (), d')) :
    c.run m d = (.ok (.record plan.record), plan.tidings.tell (plan.commit m), d') := by
  simp only [run_of_planned d planned, saved]

/-- The purge of a pup that is not installed fails with that. -/
theorem run_undropped {e : ManagerError} (undropped : m.drop id = .error e) (d : Disk) :
    (Call.purge id).run m d = (.error e, m, d) := by
  rw [run_purge, undropped]

/-- A pup that is dropped is gone once the monitor is told. -/
theorem run_dropped (dropped : m.drop id = .ok m') (d : Disk) :
    (Call.purge id).run m d = (.ok .done, Tidings.pups.tell m', d) := by
  rw [run_purge, dropped]

/-- A request that is a call is answered like the call. -/
theorem Request.run_eq {request : Request} (call : request = .call c)
    {answer : Except ManagerError Answer} (run : c.run m d = (answer, m', d')) :
    request.run m d = (answer.map .answer, m', d') := by
  rw [call, Request.run, run]

end

/-! ## Many requests -/

/-- How far the change is that holds the write lock. -/
inductive Progress where
  | planned (plan : Plan)
  | stored (plan : Plan)
  | committed (tidings : Tidings)

end Traffic

/-- The manager while it is asked by many. A request goes by its number. -/
structure Traffic where
  manager : Manager
  disk : Disk
  /-- The request that holds the write lock, and how far it is. -/
  writer : Option (Nat × Progress) := none
  /-- The requests that took effect, with their replies, the latest last. -/
  log : List (Nat × Except ManagerError Reply) := []

namespace Traffic

/-- The request took effect already. -/
def isLogged (s : Traffic) (t : Nat) : Bool := s.log.any (·.1 == t)

/-- A change that fails gives the write lock back. -/
def fail (s : Traffic) (t : Nat) (e : ManagerError) : Traffic :=
  { s with writer := none, log := s.log ++ [(t, .error e)] }

/-- A change is in the registry; the monitor is still to be told. -/
def enter (s : Traffic) (t : Nat) (m : Manager) (tidings : Tidings) (answer : Answer) : Traffic :=
  { s with
    manager := m, writer := some (t, .committed tidings), log := s.log ++ [(t, .ok (.answer answer))] }

/-- A change takes the write lock and makes its first step: it is planned, or a pup is dropped. -/
def begin (s : Traffic) (t : Nat) : Request → Traffic
  | .query _ => s
  | .call c =>
    match c.plan? s.manager.registry, c with
    | some (.error e), _ => s.fail t e
    | some (.ok plan), _ => { s with writer := some (t, .planned plan) }
    | none, .purge id =>
      match s.manager.drop id with
      | .error e => s.fail t e
      | .ok m => s.enter t m .pups .done
    | none, _ => s

/-- The change that holds the write lock makes its next step. -/
def proceed (s : Traffic) (t : Nat) (breakdown : Option Disk.Breakdown) : Progress → Traffic
  | .planned plan =>
    match Disk.run (s.manager.store.save plan.record breakdown) s.disk with
    | (.error e, disk) => { s with disk }.fail t (.disk e)
    | (.ok (), disk) => { s with disk, writer := some (t, .stored plan) }
  | .stored plan => s.enter t (plan.commit s.manager) plan.tidings (.record plan.record)
  | .committed tidings => { s with manager := tidings.tell s.manager, writer := none }

/-- A request that needs no write lock is served. -/
def serve (s : Traffic) (t : Nat) (request : Request) : Traffic :=
  let (reply, manager, disk) := request.run s.manager s.disk
  { s with manager, disk, log := s.log ++ [(t, reply)] }

/-- A request takes its next step. One that has to wait for the write lock takes none, and neither does
one that took effect and has nothing left to do. -/
def step (requests : Nat → Request) (s : Traffic) (t : Nat) : Traffic :=
  match s.writer, requests t with
  | some (holder, progress), request =>
    if t = holder then s.proceed t request.breakdown progress
    else if s.isLogged t || request.isChange then s
    else s.serve t request
  | none, request =>
    if s.isLogged t then s
    else if request.isChange then s.begin t request
    else s.serve t request

/-- The steps of a schedule, which names who is next. -/
def run (requests : Nat → Request) (s : Traffic) (schedule : List Nat) : Traffic :=
  schedule.foldl (step requests) s

/-- A step enters its request in the log, or nothing. -/
theorem log_step (requests : Nat → Request) (s : Traffic) (t : Nat) :
    (s.step requests t).log = s.log ∨
      ∃ reply, (s.step requests t).log = s.log ++ [(t, reply)] := by
  unfold Traffic.step
  split
  next holder progress writer =>
    split
    next same =>
      subst same
      cases progress with
      | planned plan =>
        simp only [proceed]
        split
        next => exact .inr ⟨_, rfl⟩
        next => exact .inl rfl
      | stored plan => exact .inr ⟨_, rfl⟩
      | committed tidings => exact .inl rfl
    next =>
      split
      next => exact .inl rfl
      next => exact .inr ⟨_, rfl⟩
  next =>
    split
    next => exact .inl rfl
    next =>
      split
      next change =>
        cases requests t with
        | query q => exact .inl rfl
        | call c =>
          simp only [begin]
          split
          next => exact .inr ⟨_, rfl⟩
          next => exact .inl rfl
          next =>
            split
            next => exact .inr ⟨_, rfl⟩
            next => exact .inr ⟨_, rfl⟩
          next => exact .inl rfl
      next => exact .inr ⟨_, rfl⟩

/-! ## Nobody waits in vain -/

/-- How many steps a change takes at most until it gives the write lock back. -/
def Progress.remaining : Progress → Nat
  | planned _ => 3
  | stored _ => 2
  | committed _ => 1

variable {requests : Nat → Request} {s : Traffic} {t : Nat}

/-- The holder of the write lock goes on when it is its turn. -/
theorem step_holder {progress : Progress} (writer : s.writer = some (t, progress)) :
    s.step requests t = s.proceed t (requests t).breakdown progress := by
  simp only [step, writer, if_true]

/-- **With each of its steps the holder comes closer to giving the write lock back.** -/
theorem proceed_closer (s : Traffic) (t : Nat) (breakdown : Option Disk.Breakdown)
    (progress : Progress) : (s.proceed t breakdown progress).writer = none ∨
      ∃ next, (s.proceed t breakdown progress).writer = some (t, next) ∧
        next.remaining < progress.remaining := by
  cases progress with
  | planned plan =>
    simp only [proceed]
    split
    · exact .inl rfl
    · exact .inr ⟨.stored plan, rfl, Nat.lt_succ_self 2⟩
  | stored plan => exact .inr ⟨.committed plan.tidings, rfl, Nat.lt_succ_self 1⟩
  | committed tidings => exact .inl rfl

/-- **The write lock gets free** if its holder is let go on. -/
theorem released (requests : Nat → Request) (s : Traffic) :
    ∃ schedule, (s.run requests schedule).writer = none := by
  have key : ∀ n (s : Traffic) t progress, s.writer = some (t, progress) → progress.remaining ≤ n →
      ∃ schedule, (s.run requests schedule).writer = none := by
    intro n
    induction n with
    | zero =>
      intro s t progress writer few
      cases progress <;> simp [Progress.remaining] at few
    | succ n ih =>
      intro s t progress writer few
      rcases proceed_closer s t (requests t).breakdown progress with free | ⟨next, held, closer⟩
      · exact ⟨[t], by rw [run, List.foldl_cons, step_holder writer]; exact free⟩
      · rw [← step_holder writer] at held
        obtain ⟨schedule, free⟩ := ih _ t next held (by omega)
        exact ⟨t :: schedule, free⟩
  cases writer : s.writer with
  | none => exact ⟨[], writer⟩
  | some holder => exact key _ s holder.1 holder.2 writer (Nat.le_refl _)

theorem isLogged_of_log {s' : Traffic} {reply : Except ManagerError Reply}
    (log : s'.log = s.log ++ [(t, reply)]) : s'.isLogged t = true := by
  simp [isLogged, log]

/-- A change that takes the write lock takes effect with that, or its record is to be stored. -/
theorem begin_cases (s : Traffic) (t : Nat) {request : Request} (change : request.isChange = true) :
    (s.begin t request).isLogged t = true ∨
      ∃ plan, (s.begin t request).writer = some (t, .planned plan) := by
  cases request with
  | query q => cases change
  | call c =>
    cases c with
    | purge id =>
      simp only [begin, Call.plan?]
      split <;> exact .inl (isLogged_of_log rfl)
    | adopt ids manifest source breakdown =>
      simp only [begin, Call.plan?]
      cases s.manager.registry.planAdoption ids manifest source with
      | error e => exact .inl (isLogged_of_log rfl)
      | ok r => exact .inr ⟨_, rfl⟩
    | update id updates breakdown =>
      simp only [begin, Call.plan?]
      cases s.manager.registry.planUpdate id updates with
      | error e => exact .inl (isLogged_of_log rfl)
      | ok p => exact .inr ⟨_, rfl⟩
    | _ => cases change

/-- A change that is planned takes effect within two steps. -/
theorem planned_served (requests : Nat → Request) {plan : Plan}
    (writer : s.writer = some (t, .planned plan)) :
    ∃ schedule, (s.run requests schedule).isLogged t = true := by
  have first : s.step requests t = s.proceed t (requests t).breakdown (.planned plan) :=
    step_holder writer
  rcases saved : Disk.run (s.manager.store.save plan.record (requests t).breakdown) s.disk with
    ⟨e | ⟨⟩, d⟩
  · refine ⟨[t], ?_⟩
    rw [run, List.foldl_cons, List.foldl_nil, first]
    simp only [proceed, saved]
    exact isLogged_of_log rfl
  · refine ⟨[t, t], ?_⟩
    have stored : (s.step requests t).writer = some (t, .stored plan) := by
      rw [first]
      simp only [proceed, saved]
    rw [run, List.foldl_cons, List.foldl_cons, List.foldl_nil, step_holder stored]
    exact isLogged_of_log rfl

/-- **Whatever happened before, any request can be served**: nobody keeps the write lock for ever. -/
theorem can_be_served (requests : Nat → Request) (s : Traffic) (t : Nat) :
    ∃ schedule, (s.run requests schedule).isLogged t = true := by
  obtain ⟨before, free⟩ := released requests s
  have later : ∀ after, s.run requests (before ++ after) = (s.run requests before).run requests after :=
    fun after => List.foldl_append
  generalize s.run requests before = s' at free later
  cases logged : s'.isLogged t with
  | true => exact ⟨before, by rw [← List.append_nil before, later]; exact logged⟩
  | false =>
    suffices ∃ after, (s'.run requests after).isLogged t = true by
      obtain ⟨after, served⟩ := this
      exact ⟨before ++ after, by rw [later]; exact served⟩
    cases change : (requests t).isChange with
    | false =>
      have served : s'.step requests t = s'.serve t (requests t) := by
        simp [step, free, logged, change]
      exact ⟨[t], by rw [run, List.foldl_cons, List.foldl_nil, served]; exact isLogged_of_log rfl⟩
    | true =>
      have begun : s'.step requests t = s'.begin t (requests t) := by
        simp [step, free, logged, change]
      rcases begin_cases s' t change with served | ⟨plan, planned⟩
      · exact ⟨[t], by rw [run, List.foldl_cons, List.foldl_nil, begun]; exact served⟩
      · rw [← begun] at planned
        obtain ⟨after, served⟩ := planned_served requests planned
        exact ⟨t :: after, served⟩

end Traffic

end Kennel
