import Kennel.Http.Server
import Kennel.Monitoring.SampleLoop

/-!
# The daemon at work

The daemon has a manager in service, subscribers and socket clients that listen to its feeds, and
a loop that takes samples in. A new manager can take the place of the one in service. The old one
is kept as long as a client is connected to it or a loop works for it; then its feeds end.

What reaches a client is written at once to its socket as one text for each item.
-/

namespace Kennel

open Json

inductive FeedKind where
  | notices
  | stats
  deriving DecidableEq, Inhabited

/-- A subscriber's place: the number of the manager, the feed, and the place in it. -/
structure Subscription where
  manager : Nat
  kind : FeedKind
  place : Nat
  deriving DecidableEq, Inhabited

structure Client where
  subscription : Subscription
  /-- What was written to the socket and not read yet. -/
  unread : List String
  isConnected : Bool := true
  deriving DecidableEq, Inhabited

/-- The managers, the last of which is in service, and all who hold on to them. -/
structure Daemon where
  managers : List Manager
  subscribers : List Subscription := []
  clients : List Client := []
  /-- The loop, and the number of the manager that it works for. -/
  loop : Option (Nat × SampleLoop) := none
  deriving Inhabited

namespace Manager

/-- Adds a subscriber to a feed: its place. -/
def subscribe (m : Manager) : FeedKind → Manager × Nat
  | .notices =>
    let (feed, place) := m.noticeFeed.subscribe
    ({ m with noticeFeed := feed }, place)
  | .stats =>
    let (feed, place) := m.statsFeed.subscribe
    ({ m with statsFeed := feed }, place)

/-- The subscriber at a place takes items, in the shape in which they are sent. -/
def take (m : Manager) (kind : FeedKind) (place : Nat) (limit : Option Nat) :
    List Value × Manager :=
  match kind with
  | .notices =>
    let (items, feed) := m.noticeFeed.take place limit
    (items.map Notice.toJson, { m with noticeFeed := feed })
  | .stats =>
    let (items, feed) := m.statsFeed.take place limit
    (items.map (.list Stats.toJson), { m with statsFeed := feed })

def hasEnded (m : Manager) (kind : FeedKind) (place : Nat) : Bool :=
  match kind with
  | .notices => m.noticeFeed.hasEnded place
  | .stats => m.statsFeed.hasEnded place

def leave (m : Manager) (kind : FeedKind) (place : Nat) : Manager :=
  match kind with
  | .notices => { m with noticeFeed := m.noticeFeed.leave place }
  | .stats => { m with statsFeed := m.statsFeed.leave place }

/-- Ends both feeds. -/
def closeFeeds (m : Manager) : Manager :=
  { m with noticeFeed := m.noticeFeed.close, statsFeed := m.statsFeed.close }

/-- What a client of the notices is told first: all records. -/
def welcome (m : Manager) : Value := .object
  [("type", .string "state"), ("pups", .list Record.toJson m.registry.list)]

end Manager

namespace Daemon

/-- The number of the manager in service. -/
def current (k : Daemon) : Nat := k.managers.length - 1

def manager (k : Daemon) : Manager := k.managers.getLast?.getD default

def setManager (k : Daemon) (number : Nat) (m : Manager) : Daemon :=
  { k with managers := k.managers.set number m }

/-- The daemon with the manager in service after a change of it. -/
def setCurrent (k : Daemon) (m : Manager) : Daemon := k.setManager k.current m

def replaceManager (k : Daemon) (m : Manager) : Daemon := { k with managers := k.managers ++ [m] }

/-! ## Subscribers -/

/-- Adds a subscriber to the manager in service: its number. -/
def subscribe (k : Daemon) (kind : FeedKind) : Daemon × Nat :=
  let (m, place) := k.manager.subscribe kind
  let k := k.setCurrent m
  ({ k with subscribers := k.subscribers ++ [⟨k.current, kind, place⟩] }, k.subscribers.length)

/-- A subscriber takes items: what it got, and whether it met the end of its feed. It does so only
when it looks for one more item than there is, and not when it got as many as it wanted. -/
def drain (k : Daemon) (number : Nat) (limit : Option Nat) : List Value × Bool × Daemon :=
  match k.subscribers[number]? with
  | none => ([], true, k)
  | some s =>
    match k.managers[s.manager]? with
    | none => ([], true, k)
    | some m =>
      let (items, m) := m.take s.kind s.place limit
      let looksOn := limit.all (items.length < ·)
      (items, looksOn && m.hasEnded s.kind s.place, k.setManager s.manager m)

/-- A subscriber leaves. -/
def unsubscribe (k : Daemon) (number : Nat) : Daemon :=
  match k.subscribers[number]? with
  | none => k
  | some s =>
    match k.managers[s.manager]? with
    | none => k
    | some m => k.setManager s.manager (m.leave s.kind s.place)

/-! ## Clients -/

/-- Connects a client to a feed of the manager in service: its number. The client subscribes
before it is told the records, so that it misses no change. -/
def connect (k : Daemon) (kind : FeedKind) : Daemon × Nat :=
  let (m, place) := k.manager.subscribe kind
  let k := k.setCurrent m
  let first := match kind with
    | .notices => [m.welcome.compact]
    | .stats => []
  ({ k with clients := k.clients ++ [⟨⟨k.current, kind, place⟩, first, true⟩] }, k.clients.length)

/-- Writes what has come for a client to its socket. -/
def deliver (managers : List Manager) (c : Client) : List Manager × Client :=
  match managers[c.subscription.manager]? with
  | none => (managers, c)
  | some m =>
    let (items, m) := m.take c.subscription.kind c.subscription.place none
    (managers.set c.subscription.manager m,
      { c with unread := c.unread ++ items.map Value.compact })

/-- Writes what has come for all clients. -/
def deliverAll (managers : List Manager) : List Client → List Manager × List Client
  | [] => (managers, [])
  | c :: rest =>
    let (managers, c) := deliver managers c
    let (managers, rest) := deliverAll managers rest
    (managers, c :: rest)

/-- A client reads its socket: the texts on it, and whether it is closed after them. -/
def read (k : Daemon) (number : Nat) : List String × Bool × Daemon :=
  match k.clients[number]? with
  | none => ([], true, k)
  | some c =>
    let ended := k.managers[c.subscription.manager]?.all
      (·.hasEnded c.subscription.kind c.subscription.place)
    (c.unread, !c.isConnected || ended,
      { k with clients := k.clients.set number { c with unread := [] } })

/-- A client goes away. -/
def disconnect (k : Daemon) (number : Nat) : Daemon :=
  match k.clients[number]? with
  | none => k
  | some c =>
    let k := { k with clients := k.clients.set number { c with unread := [], isConnected := false } }
    match k.managers[c.subscription.manager]? with
    | none => k
    | some m =>
      k.setManager c.subscription.manager (m.leave c.subscription.kind c.subscription.place)

/-! ## The loop -/

def startLoop (k : Daemon) : Daemon := { k with loop := some (k.current, {}) }

/-- Sends a sample to the loop: whether it was taken. -/
def send (k : Daemon) (slow : Bool) (sample : Sample) : Bool × Daemon :=
  match k.loop with
  | none => (false, k)
  | some (number, l) =>
    if l.accepts slow then
      match k.managers[number]? with
      | none => (false, k)
      | some m => (true, k.setManager number (m.ingest sample slow))
    else (false, k)

/-- Changes the loop: whether it has ended then. -/
def changeLoop (k : Daemon) (change : SampleLoop → SampleLoop) : Bool × Daemon :=
  match k.loop with
  | none => (true, k)
  | some (number, l) => ((change l).hasEnded, { k with loop := some (number, change l) })

/-! ## Rest -/

/-- Whether somebody holds on to a manager. -/
def isHeld (k : Daemon) (number : Nat) : Bool :=
  number == k.current
    || k.clients.any (fun c => c.isConnected && c.subscription.manager == number)
    || k.loop.any fun (worksFor, l) => worksFor == number && !l.hasEnded

/-- The daemon after everything that was under way is done: clients have what came for them, and
the feeds of managers that nobody holds on to have ended. -/
def settle (k : Daemon) : Daemon :=
  let (managers, clients) := deliverAll k.managers k.clients
  let k := { k with managers, clients }
  { k with managers := k.managers.mapIdx fun number m => if k.isHeld number then m else m.closeFeeds }

/-- Answers a request to the server. -/
def answer (k : Daemon) (site : Option PatchSite) (method : Http.Method) (target : String)
    (snapshotName : String) (rebuild : Rebuild) (d : Disk) : Http.Outcome :=
  Http.Server.answer ⟨k.manager, site⟩ method target snapshotName rebuild d

end Daemon

end Kennel
