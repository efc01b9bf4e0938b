import Mathlib.Data.List.Induction
import Kennel.Manager.Feed

/-!
# Feeds have no gaps

What can happen at a feed: an item is emitted, a subscriber joins, takes items or leaves. These come in
any order (`Feed.Event`), so a subscriber can act between any two items.

**A subscriber is alone with the feed** (`Feed.play_at`): its queue and what it takes out of it follow
from the items and from what it does itself. So what is to be known of a feed is known of one queue.

**It gets the first items since it joined, without a gap** (`Mailbox.Served`), and the number `k` of
them is told by the queue: the first item that finds the queue full, or the subscriber gone, is the first
that is not delivered, and the subscriber is dropped with it. From then on nothing is queued, so it takes
what is left and then the feed has ended (`Mailbox.Served.ends`).
-/

namespace Kennel

variable {α : Type}

/-! ## One queue -/

namespace Mailbox

/-- What happens to the queue of a subscriber. -/
inductive Event (α : Type) where
  | offer (item : α)
  | take (limit : Option Nat)
  | leave

/-- What is taken out of the queue, and the queue after it. -/
def step (capacity : Nat) (b : Mailbox α) : Event α → List α × Mailbox α
  | .offer item => ([], b.offer capacity item)
  | .take limit => b.take limit
  | .leave => ([], { b with isTaken := false })

/-- The queue after all of it. -/
def after (capacity : Nat) (b : Mailbox α) (events : List (Event α)) : Mailbox α :=
  events.foldl (fun b e => (b.step capacity e).2) b

/-- What is taken out of the queue, all told. -/
def received (capacity : Nat) : Mailbox α → List (Event α) → List α
  | _, [] => []
  | b, e :: events => (b.step capacity e).1 ++ received capacity (b.step capacity e).2 events

def Event.item? : Event α → Option α
  | .offer item => some item
  | _ => none

/-- The items that are offered. -/
def offered (events : List (Event α)) : List α := events.filterMap Event.item?

section

variable {c : Nat} {b : Mailbox α} {e : Event α} {events later : List (Event α)} {item : α}

theorem after_cons : b.after c (e :: events) = (b.step c e).2.after c events := rfl

theorem after_append : b.after c (events ++ later) = (b.after c events).after c later :=
  List.foldl_append

theorem after_concat : b.after c (events ++ [e]) = ((b.after c events).step c e).2 := after_append

theorem received_append :
    b.received c (events ++ later) = b.received c events ++ (b.after c events).received c later := by
  induction events generalizing b with
  | nil => rfl
  | cons e events ih =>
    rw [List.cons_append, received, ih, ← List.append_assoc]
    rfl

theorem received_concat :
    b.received c (events ++ [e]) = b.received c events ++ ((b.after c events).step c e).1 := by
  rw [received_append, received, received, List.append_nil]

theorem offered_append : offered (events ++ later) = offered events ++ offered later :=
  List.filterMap_append

/-- A subscriber is there until it leaves. -/
theorem isTaken_after : (b.after c events).isTaken = false ↔ b.isTaken = false ∨ .leave ∈ events := by
  induction events generalizing b with
  | nil => simp [after]
  | cons e events ih =>
    rw [after_cons, ih, List.mem_cons]
    cases e with
    | offer item =>
      have same : (b.offer c item).isTaken = b.isTaken := by
        unfold offer
        split
        · rfl
        · split <;> rfl
      simp [step, same]
    | take limit => simp [step, take]
    | leave => simp [step]

/-- The queue never holds more than it has room for. -/
theorem length_queued_after (few : b.queued.length ≤ c) :
    (b.after c events).queued.length ≤ c := by
  induction events generalizing b with
  | nil => exact few
  | cons e events ih =>
    refine ih ?_
    cases e with
    | offer item =>
      simp only [step, offer]
      split
      · exact few
      · split
        next room =>
          rw [Bool.and_eq_true, decide_eq_true_eq] at room
          rw [List.length_append]
          exact room.2
        next => exact few
    | take limit =>
      simp only [step, take, List.length_drop]
      omega
    | leave => exact few

/-- What the subscriber does itself leaves it fed or not, and what it takes was in the queue. -/
theorem step_own (own : e.item? = none) :
    (b.step c e).2.isFed = b.isFed ∧ (b.step c e).1 ++ (b.step c e).2.queued = b.queued := by
  cases e with
  | offer item => cases own
  | take limit => exact ⟨rfl, List.take_append_drop _ _⟩
  | leave => exact ⟨rfl, rfl⟩

/-- **Nothing comes to a subscriber who was dropped**: what it takes was in the queue. -/
theorem received_of_dropped (events : List (Event α)) (dropped : b.isFed = false) :
    (b.after c events).isFed = false ∧
      b.received c events ++ (b.after c events).queued = b.queued := by
  induction events generalizing b with
  | nil => exact ⟨dropped, rfl⟩
  | cons e events ih =>
    have key : (b.step c e).2.isFed = b.isFed ∧ (b.step c e).1 ++ (b.step c e).2.queued = b.queued := by
      cases e with
      | offer item => simp [step, offer, dropped]
      | take limit => exact step_own rfl
      | leave => exact step_own rfl
    obtain ⟨still, rest⟩ := ih (key.1.trans dropped)
    refine ⟨still, ?_⟩
    rw [received, List.append_assoc, after_cons, rest, key.2]

end

/-! ## The items that a subscriber gets -/

/-- An item is put into the queue of a subscriber who came before all this. -/
structure Kept (capacity : Nat) (before : List (Event α)) (item : α) : Prop where
  there : .leave ∉ before
  room : (after capacity {} before).queued.length < capacity
  fed : (after capacity {} before).isFed = true
  queued : after capacity {} (before ++ [.offer item]) =
    { after capacity {} before with queued := (after capacity {} before).queued ++ [item] }

/-- A subscriber is dropped with an item: it left, or its queue is full. -/
structure Dropped (capacity : Nat) (before : List (Event α)) (item : α) : Prop where
  cause : .leave ∈ before ∨ (after capacity {} before).queued.length = capacity
  fed : (after capacity {} before).isFed = true
  removed : after capacity {} (before ++ [.offer item]) = { after capacity {} before with isFed := false }

/-- **An item that is offered to a subscriber is put into its queue, or the subscriber is dropped.** -/
theorem kept_or_dropped {c : Nat} {events : List (Event α)} (fed : (after c {} events).isFed = true)
    (item : α) : Kept c events item ∨ Dropped c events item := by
  have gone : (after c {} events).isTaken = false ↔ .leave ∈ events := by
    rw [isTaken_after]
    simp
  have offered : after c {} (events ++ [.offer item]) =
      if (after c {} events).isTaken && (after c {} events).queued.length < c then
        { after c {} events with queued := (after c {} events).queued ++ [item] }
      else { after c {} events with isFed := false } :=
    after_concat.trans (if_neg (by rw [fed]; decide))
  split at offered
  next room =>
    rw [Bool.and_eq_true, decide_eq_true_eq] at room
    refine .inl ⟨fun left => ?_, room.2, fed, offered⟩
    rw [gone.2 left] at room
    cases room.1
  next full =>
    refine .inr ⟨?_, fed, offered⟩
    rw [Bool.and_eq_true, decide_eq_true_eq, not_and, Nat.not_lt] at full
    cases there : (after c {} events).isTaken with
    | false => exact .inl (gone.1 there)
    | true => exact .inr (Nat.le_antisymm (length_queued_after (Nat.zero_le c)) (full there))

/-- A subscriber came to an empty queue, and of the items that were offered since it got the first `k`. -/
structure Served (capacity : Nat) (events : List (Event α)) (k : Nat) : Prop where
  within : k ≤ (offered events).length
  /-- What it took and what is queued are these items in their order. -/
  delivered : received capacity {} events ++ (after capacity {} events).queued = (offered events).take k
  /-- Each of them was put into its queue. -/
  kept : ∀ before item, before ++ [.offer item] <+: events → (offered before).length < k →
    Kept capacity before item
  /-- It was dropped with the next one. -/
  dropped : ∀ before item, before ++ [.offer item] <+: events → (offered before).length = k →
    Dropped capacity before item
  /-- It is fed for as long as it got all of them. -/
  fed : (after capacity {} events).isFed = true ↔ k = (offered events).length

/-- Whatever comes later, nothing is added to the first `k` items; with the last of them that is queued
the feed has ended for the subscriber. -/
def Ends (capacity : Nat) (events : List (Event α)) (k : Nat) : Prop :=
  ∀ later,
    (after capacity {} (events ++ later)).isFed = false ∧
      received capacity {} (events ++ later) ++ (after capacity {} (events ++ later)).queued =
        (offered events).take k ∧
      received capacity {} (events ++ later ++ [.take none]) = (offered events).take k ∧
      (after capacity {} (events ++ later ++ [.take none])).hasEnded = true

namespace Served

variable {c k : Nat} {events : List (Event α)} {item : α}

theorem offered_concat : offered (events ++ [.offer item]) = offered events ++ [item] := offered_append

theorem length_offered_concat :
    (offered (events ++ [.offer item])).length = (offered events).length + 1 := by
  rw [offered_concat, List.length_append, List.length_singleton]

theorem received_offer : received c {} (events ++ [.offer item]) = received c {} events :=
  received_concat.trans (List.append_nil _)

/-- Before an item is offered there were fewer. -/
theorem length_offered_lt {before : List (Event α)} (offers : before ++ [.offer item] <+: events) :
    (offered before).length < (offered events).length := by
  obtain ⟨rest, rfl⟩ := offers
  rw [offered_append, List.length_append, length_offered_concat]
  omega

/-- An item among those with one more at the end is one of them, or that one. -/
theorem offers_concat {before : List (Event α)} {e : Event α}
    (offers : before ++ [.offer item] <+: events ++ [e]) :
    (before = events ∧ e = .offer item) ∨ before ++ [.offer item] <+: events := by
  rcases List.prefix_concat_iff.1 offers with same | found
  · obtain ⟨rfl, last⟩ := List.append_inj' same rfl
    exact .inl ⟨rfl, by simpa using last.symm⟩
  · exact .inr found

/-- What the subscriber does itself does not change which items it gets. -/
theorem attend (h : Served c events k) {e : Event α} (own : e.item? = none) :
    Served c (events ++ [e]) k := by
  have offered_eq : offered (events ++ [e]) = offered events := by
    rw [offered_append, offered, offered, List.filterMap_cons, own, List.filterMap_nil, List.append_nil]
  have earlier : ∀ {before item}, before ++ [.offer item] <+: events ++ [e] →
      before ++ [.offer item] <+: events := by
    intro before item offers
    rcases offers_concat offers with ⟨-, rfl⟩ | found
    · cases own
    · exact found
  exact {
    within := offered_eq ▸ h.within
    delivered := by
      rw [received_concat, after_concat, List.append_assoc, (step_own own).2, h.delivered, offered_eq]
    kept := fun before item offers => h.kept before item (earlier offers)
    dropped := fun before item offers => h.dropped before item (earlier offers)
    fed := by rw [after_concat, (step_own own).1, offered_eq, h.fed] }

/-- A subscriber who got all items so far gets one more. -/
theorem keep (h : Served c events k) (kept : Kept c events item) :
    Served c (events ++ [.offer item]) (k + 1) := by
  have all := h.fed.1 kept.fed
  refine ⟨?_, ?_, fun before item' offers few => ?_, fun before item' offers here => ?_, ?_⟩
  · exact Nat.le_of_eq (by rw [length_offered_concat, all])
  · rw [received_offer, kept.queued, ← List.append_assoc, h.delivered, all, offered_concat,
      List.take_length]
    exact (List.take_of_length_le (by simp)).symm
  · rcases offers_concat offers with ⟨rfl, last⟩ | found
    · cases last
      exact kept
    · exact h.kept before item' found (all ▸ length_offered_lt found)
  · rcases offers_concat offers with ⟨rfl, -⟩ | found
    · omega
    · have := length_offered_lt found
      omega
  · rw [kept.queued, length_offered_concat, all]
    exact ⟨fun _ => rfl, fun _ => kept.fed⟩

/-- A subscriber who is not fed after an item got no more with it. -/
theorem stay (h : Served c events k)
    (queued : (after c {} (events ++ [.offer item])).queued = (after c {} events).queued)
    (unfed : (after c {} (events ++ [.offer item])).isFed = false)
    (dropped : (offered events).length = k → Dropped c events item) :
    Served c (events ++ [.offer item]) k := by
  have within := h.within
  refine ⟨?_, ?_, fun before item' offers few => ?_, fun before item' offers here => ?_, ?_⟩
  · rw [length_offered_concat]
    omega
  · rw [received_offer, queued, offered_concat, List.take_append_of_le_length within]
    exact h.delivered
  · rcases offers_concat offers with ⟨rfl, -⟩ | found
    · omega
    · exact h.kept before item' found few
  · rcases offers_concat offers with ⟨rfl, last⟩ | found
    · cases last
      exact dropped here
    · exact h.dropped before item' found here
  · rw [unfed, length_offered_concat]
    simp only [Bool.false_eq_true, false_iff]
    omega

/-- A subscriber who was dropped gets no more. -/
theorem pass (h : Served c events k) (unfed : (after c {} events).isFed = false) :
    Served c (events ++ [.offer item]) k := by
  have same : after c {} (events ++ [.offer item]) = after c {} events := by
    rw [after_concat, step, offer, unfed]
    rfl
  refine h.stay (by rw [same]) (by rw [same, unfed]) fun all => ?_
  rw [h.fed.2 all.symm] at unfed
  cases unfed

/-- **Every event** leaves a subscriber with the first items. -/
theorem step (h : Served c events k) (e : Event α) : ∃ k', Served c (events ++ [e]) k' := by
  cases e with
  | offer item =>
    cases fed : (after c {} events).isFed with
    | false => exact ⟨k, h.pass fed⟩
    | true =>
      rcases kept_or_dropped fed item with kept | dropped
      · exact ⟨k + 1, h.keep kept⟩
      · exact ⟨k, h.stay (by rw [dropped.removed]) (by rw [dropped.removed]) fun _ => dropped⟩
  | take limit => exact ⟨k, h.attend rfl⟩
  | leave => exact ⟨k, h.attend rfl⟩

/-- **A subscriber who was dropped gets what is queued for it, and then the feed has ended.** -/
theorem ends (h : Served c events k) (dropped : k < (offered events).length) : Ends c events k := by
  intro later
  have unfed : (after c {} events).isFed = false := by
    rw [← Bool.not_eq_true, h.fed]
    omega
  obtain ⟨still, rest⟩ := received_of_dropped (c := c) later unfed
  have all : received c {} (events ++ later) ++ (after c {} (events ++ later)).queued =
      (offered events).take k := by
    rw [received_append, after_append, List.append_assoc, rest, h.delivered]
  rw [← after_append] at still
  refine ⟨still, all, ?_, ?_⟩
  · rw [received_concat, Mailbox.step, take, Option.getD_none, List.take_length]
    exact all
  · rw [after_concat, Mailbox.step, take, Option.getD_none, List.drop_length, hasEnded, still]
    rfl

end Served

/-- **Whatever happens, a subscriber gets the first items**, as many as found room. -/
theorem served (c : Nat) (events : List (Event α)) : ∃ k, Served c events k := by
  induction events using List.reverseRecOn with
  | nil =>
    refine ⟨0, Nat.le_refl 0, rfl, ?_, ?_, ⟨fun _ => rfl, fun _ => rfl⟩⟩
    all_goals
      intro before item offers
      simp at offers
  | append_singleton events e ih =>
    obtain ⟨k, h⟩ := ih
    exact h.step e

end Mailbox

/-! ## Many subscribers -/

namespace Feed

/-- What happens at a feed. -/
inductive Event (α : Type) where
  | emit (item : α)
  | join
  | take (place : Nat) (limit : Option Nat)
  | leave (place : Nat)

def step (f : Feed α) : Event α → Feed α
  | .emit item => f.emit item
  | .join => f.subscribe.1
  | .take place limit => (f.take place limit).2
  | .leave place => f.leave place

/-- The feed after all of it. -/
def play (f : Feed α) (events : List (Event α)) : Feed α := events.foldl step f

/-- What the subscriber at this place takes. -/
def taken (f : Feed α) (place : Nat) : Event α → List α
  | .take p limit => if p = place then (f.take p limit).1 else []
  | _ => []

/-- What the subscriber at this place takes, all told. -/
def received (place : Nat) : Feed α → List (Event α) → List α
  | _, [] => []
  | f, e :: events => f.taken place e ++ received place (f.step e) events

def Event.item? : Event α → Option α
  | .emit item => some item
  | _ => none

/-- The items that are emitted. -/
def emitted (events : List (Event α)) : List α := events.filterMap Event.item?

theorem emitted_append (events later : List (Event α)) :
    emitted (events ++ later) = emitted events ++ emitted later :=
  List.filterMap_append

/-- What the subscriber at this place notices of it: the items, and what it does itself. -/
def Event.noticed (place : Nat) : Event α → Option (Mailbox.Event α)
  | .emit item => some (.offer item)
  | .join => none
  | .take p limit => if p = place then some (.take limit) else none
  | .leave p => if p = place then some .leave else none

/-- All that the subscriber at this place notices. -/
def view (place : Nat) (events : List (Event α)) : List (Mailbox.Event α) :=
  events.filterMap (Event.noticed place)

variable {f : Feed α} {place : Nat} {b : Mailbox α}

theorem play_append (f : Feed α) (events later : List (Event α)) :
    f.play (events ++ later) = (f.play events).play later :=
  List.foldl_append

theorem received_append (f : Feed α) (place : Nat) (events later : List (Event α)) :
    f.received place (events ++ later) =
      f.received place events ++ (f.play events).received place later := by
  induction events generalizing f with
  | nil => rfl
  | cons e events ih =>
    rw [List.cons_append, received, ih, ← List.append_assoc]
    rfl

theorem capacity_step (f : Feed α) (e : Event α) : (f.step e).capacity = f.capacity := by
  cases e with
  | take place limit =>
    simp only [step, take]
    split <;> rfl
  | _ => rfl

/-- Nobody gives a place back. -/
theorem length_boxes_step (f : Feed α) (e : Event α) :
    f.boxes.length ≤ (f.step e).boxes.length := by
  cases e with
  | emit item => exact Nat.le_of_eq (List.length_map _).symm
  | join => simp [step, subscribe]
  | take place limit =>
    simp only [step, take]
    split <;> simp
  | leave place => simp [step, leave]

/-- **One event at the feed** is for the queue at a place what its subscriber notices of it. -/
theorem step_at (found : f.boxes[place]? = some b) (e : Event α) :
    (f.step e).boxes[place]? =
        some (((e.noticed place).elim ([], b) fun e => b.step f.capacity e).2) ∧
      f.taken place e = ((e.noticed place).elim ([], b) fun e => b.step f.capacity e).1 := by
  have there := (List.getElem?_eq_some_iff.1 found).1
  cases e with
  | emit item =>
    refine ⟨?_, rfl⟩
    rw [step, emit, List.getElem?_map, found]
    rfl
  | join =>
    refine ⟨?_, rfl⟩
    rw [step, subscribe, List.getElem?_append_left there]
    exact found
  | take p limit =>
    by_cases own : p = place
    · subst own
      have stays : f.boxes[p] = b := (List.getElem?_eq_some_iff.1 found).2
      simp [step, taken, Event.noticed, take, Mailbox.step, there, stays]
    · refine ⟨?_, by simp [taken, Event.noticed, own]⟩
      simp only [step, take, Event.noticed, own, if_false]
      split
      · exact found
      · rw [List.getElem?_set_ne own]
        exact found
  | leave p =>
    by_cases own : p = place
    · simp [step, leave, taken, Event.noticed, Mailbox.step, found, own]
    · simp [step, leave, taken, Event.noticed, own, found]

/-- **A subscriber is alone with the feed**: its queue and what it takes follow from what it notices. -/
theorem play_at (found : f.boxes[place]? = some b) (events : List (Event α)) :
    (f.play events).boxes[place]? = some (b.after f.capacity (view place events)) ∧
      f.received place events = b.received f.capacity (view place events) := by
  induction events generalizing f b with
  | nil => exact ⟨found, rfl⟩
  | cons e events ih =>
    obtain ⟨next, taken⟩ := step_at found e
    obtain ⟨last, rest⟩ := ih next
    rw [capacity_step] at last rest
    rw [received, taken, rest]
    refine ⟨last.trans ?_, ?_⟩
    all_goals
      rw [view, view, List.filterMap_cons]
      cases e.noticed place <;> rfl

/-- Where nobody is yet, nobody takes anything. -/
theorem received_before (events : List (Event α)) (nobody : (f.play events).boxes.length ≤ place) :
    f.received place events = [] := by
  induction events using List.reverseRecOn with
  | nil => rfl
  | append_singleton events e ih =>
    rw [play_append] at nobody
    have before := Nat.le_trans (length_boxes_step (f.play events) e) nobody
    rw [received_append, ih before, received, received, List.append_nil, List.nil_append]
    cases e with
    | take p limit =>
      simp only [taken]
      split
      next own => rw [own, take, List.getElem?_eq_none before]
      next => rfl
    | _ => rfl

theorem capacity_play (f : Feed α) (events : List (Event α)) :
    (f.play events).capacity = f.capacity := by
  induction events generalizing f with
  | nil => rfl
  | cons e events ih => exact (ih _).trans (capacity_step f e)

/-- The items are offered to everyone. -/
theorem offered_view (place : Nat) (events : List (Event α)) :
    Mailbox.offered (view place events) = emitted events := by
  rw [Mailbox.offered, view, List.filterMap_filterMap, emitted]
  congr 1
  funext e
  cases e with
  | emit item => rfl
  | join => rfl
  | take p limit | leave p =>
    simp only [Event.noticed, Event.item?]
    split <;> rfl

/-- What a feed with these events is to a subscriber who joins after the `earlier` ones. -/
structure Gapless (f : Feed α) (earlier events : List (Event α)) : Prop where
  /-- Its queue follows from what it notices since, so nobody else has a part in it, -/
  queue : (f.play (earlier ++ .join :: events)).boxes[(f.play earlier).boxes.length]? =
    some (Mailbox.after f.capacity {} (view (f.play earlier).boxes.length events))
  /-- and so does what it takes. -/
  taken : f.received (f.play earlier).boxes.length (earlier ++ .join :: events) =
    Mailbox.received f.capacity {} (view (f.play earlier).boxes.length events)
  /-- It notices every item that is emitted since. -/
  offered : Mailbox.offered (view (f.play earlier).boxes.length events) = emitted events
  /-- It gets the first of them without a gap; then, if it is dropped, the feed ends for it. -/
  served : ∃ k, Mailbox.Served f.capacity (view (f.play earlier).boxes.length events) k ∧
    (k < (emitted events).length → Mailbox.Ends f.capacity (view (f.play earlier).boxes.length events) k)

/-- **Feeds have no gaps.** -/
theorem gapless (f : Feed α) (earlier events : List (Event α)) : f.Gapless earlier events := by
  have joined : ((f.play earlier).step .join).boxes[(f.play earlier).boxes.length]? = some {} := by
    simp [step, subscribe]
  obtain ⟨queue, taken⟩ := play_at joined events
  rw [capacity_step, capacity_play] at queue taken
  obtain ⟨k, served⟩ := Mailbox.served f.capacity (view (f.play earlier).boxes.length events)
  refine ⟨?_, ?_, offered_view _ _, k, served, fun dropped => served.ends ?_⟩
  · rw [play_append]
    exact queue
  · rw [received_append, received_before earlier (Nat.le_refl _), List.nil_append, received, taken]
    rfl
  · rw [offered_view]
    exact dropped

/-- A subscriber who is fed still and has taken all there is has received all items since it joined. -/
theorem Gapless.received_all {earlier events : List (Event α)} (h : f.Gapless earlier events)
    (queue : (f.play (earlier ++ .join :: events)).boxes[(f.play earlier).boxes.length]? = some b)
    (fed : b.isFed = true) (read : b.queued = []) :
    f.received (f.play earlier).boxes.length (earlier ++ .join :: events) = emitted events := by
  obtain rfl : _ = b := Option.some.inj (h.queue.symm.trans queue)
  obtain ⟨k, served, -⟩ := h.served
  have delivered := served.delivered
  rw [read, List.append_nil, served.fed.1 fed, List.take_length, h.offered] at delivered
  rw [h.taken, delivered]

end Feed

end Kennel
