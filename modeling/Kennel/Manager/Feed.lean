/-!
# Feeds

A feed delivers items to subscribers, each of which has a queue of its own with room for a fixed
number of items. Nobody waits for a slow subscriber: one whose queue is full when an item comes,
or who has left, is dropped. A dropped subscriber can still take what is in its queue; then the
feed has ended for it. What one subscriber does shows in no other queue.
-/

namespace Kennel

/-- The queue between a feed and one subscriber. -/
structure Mailbox (α : Type) where
  /-- What was delivered and not taken yet, the oldest first. -/
  queued : List α := []
  /-- The feed still delivers to the subscriber. -/
  isFed : Bool := true
  /-- The subscriber has not left. -/
  isTaken : Bool := true
  deriving Inhabited

namespace Mailbox

variable {α : Type}

/-- Delivers an item; a subscriber that cannot take it is dropped. -/
def offer (capacity : Nat) (item : α) (b : Mailbox α) : Mailbox α :=
  if !b.isFed then b
  else if b.isTaken && b.queued.length < capacity then { b with queued := b.queued ++ [item] }
  else { b with isFed := false }

/-- Takes items from the queue, at most `limit` of them if there is a limit. -/
def take (limit : Option Nat) (b : Mailbox α) : List α × Mailbox α :=
  let n := limit.getD b.queued.length
  (b.queued.take n, { b with queued := b.queued.drop n })

def hasEnded (b : Mailbox α) : Bool := b.queued.isEmpty && !b.isFed

end Mailbox

/-- The subscribers of a feed, in the order in which they came, and the room in each queue. -/
structure Feed (α : Type) where
  capacity : Nat
  boxes : List (Mailbox α) := []
  deriving Inhabited

namespace Feed

variable {α : Type}

/-- Delivers an item to every subscriber. -/
def emit (f : Feed α) (item : α) : Feed α :=
  { f with boxes := f.boxes.map (Mailbox.offer f.capacity item) }

/-- Delivers items one after another. -/
def emitAll (f : Feed α) (items : List α) : Feed α := items.foldl emit f

/-- Adds a subscriber: the feed with it, and its place. -/
def subscribe (f : Feed α) : Feed α × Nat := ({ f with boxes := f.boxes ++ [{}] }, f.boxes.length)

/-- The subscriber at this place takes items. -/
def take (f : Feed α) (place : Nat) (limit : Option Nat) : List α × Feed α :=
  match f.boxes[place]? with
  | none => ([], f)
  | some b =>
    let (items, b) := b.take limit
    (items, { f with boxes := f.boxes.set place b })

def hasEnded (f : Feed α) (place : Nat) : Bool := f.boxes[place]?.all Mailbox.hasEnded

def leave (f : Feed α) (place : Nat) : Feed α :=
  { f with boxes := f.boxes.modify place fun b => { b with isTaken := false } }

/-- Ends the feed for all subscribers. -/
def close (f : Feed α) : Feed α :=
  { f with boxes := f.boxes.map fun b => { b with isFed := false } }

end Feed

end Kennel
