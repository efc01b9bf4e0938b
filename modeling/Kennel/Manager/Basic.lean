import Kennel.Catalog.Source
import Kennel.Dependency.Resolution
import Kennel.Manager.Feed
import Kennel.Manager.Registry
import Kennel.Monitoring.Monitor
import Kennel.Store

/-!
# The manager

The manager answers for the installed pups. A change goes through phases: it is planned on the
registry, the record is stored, and only when that succeeded it is put into the registry,
subscribers are told, and the monitor is. So a change that fails leaves everything as it was.

Each operation gives its result and the manager after it, and takes and gives the disk if it
writes records.
-/

namespace Kennel

/-- What an installation lays down for its manager. -/
structure ManagerSettings where
  range : AllocationRange := {}
  /-- The room in each series of measurements. -/
  bufferSize : Nat
  /-- The room in the queue of each subscriber. -/
  subscriberCapacity : Nat
  deriving DecidableEq, Inhabited

/-- The manager of the installed pups. -/
structure Manager where
  settings : ManagerSettings
  store : Store
  catalogs : CatalogSource
  monitor : Option Monitor
  registry : Registry
  noticeFeed : Feed Notice
  statsFeed : Feed (List Stats)
  deriving Inhabited

namespace Manager

/-- Tells the monitor which pups there are. -/
def rewatch (m : Manager) : Manager :=
  let services := m.registry.records.keys.map MonitoredService.container
  { m with monitor := m.monitor.map (·.watch services) }

def load (settings : ManagerSettings) (store : Store) (catalogs : CatalogSource)
    (monitor : Option Monitor) (d : Disk) : Except ManagerError Manager :=
  match (Disk.run store.loadAll d).1 with
  | .error e => .error (.disk e)
  | .ok records =>
    .ok (rewatch
      { settings, store, catalogs, monitor
        registry := .ofRecords settings.range settings.bufferSize records
        noticeFeed := { capacity := settings.subscriberCapacity }
        statsFeed := { capacity := settings.subscriberCapacity } })

/-! ## Changes -/

/-- Puts an adopted pup into the registry and tells subscribers. -/
def commitAdoption (m : Manager) (r : Record) : Manager :=
  { m with registry := m.registry.commitAdoption m.settings.bufferSize r
           noticeFeed := m.noticeFeed.emit (.ofRecord .adopted r) }

/-- Adopts a pup: the record that it got. The system can break off while the record is stored. -/
def adopt (m : Manager) (ids : IdSource) (manifest : Manifest) (source : Source) (d : Disk)
    (breakdown : Option Disk.Breakdown := none) : Except ManagerError Record × Manager × Disk :=
  match m.registry.planAdoption ids manifest source with
  | .error e => (.error e, m, d)
  | .ok r =>
    match Disk.run (m.store.save r breakdown) d with
    | (.error e, d) => (.error (.disk e), m, d)
    | (.ok (), d) => (.ok r, (m.commitAdoption r).rewatch, d)

/-- Puts an updated record into the registry and tells subscribers of each kind of change. -/
def commitUpdate (m : Manager) (r : Record) (kinds : List NoticeKind) : Manager :=
  { m with registry := m.registry.commitUpdate r
           noticeFeed := m.noticeFeed.emitAll (kinds.map (Notice.ofRecord · r)) }

/-- Asks for a burst of measurements of a pup that was enabled or disabled. -/
def announceKinds (m : Manager) (id : String) (kinds : List NoticeKind) : Manager :=
  if kinds.contains .enabledChanged then
    { m with monitor := m.monitor.map (·.burst (.container id)) }
  else m

/-- Applies updates to a pup as one change: the record after it. The system can break off while
the record is stored. -/
def update (m : Manager) (id : String) (updates : List Update) (d : Disk)
    (breakdown : Option Disk.Breakdown := none) : Except ManagerError Record × Manager × Disk :=
  match m.registry.planUpdate id updates with
  | .error e => (.error e, m, d)
  | .ok (r, kinds) =>
    match Disk.run (m.store.save r breakdown) d with
    | (.error e, d) => (.error (.disk e), m, d)
    | (.ok (), d) => (.ok r, (m.commitUpdate r kinds).announceKinds r.id kinds, d)

/-- Drops a pup. Its stored record stays. -/
def purge (m : Manager) (id : String) : Except ManagerError Unit × Manager :=
  match m.registry.purge id with
  | .error e => (.error e, m)
  | .ok registry =>
    (.ok (), rewatch { m with registry, noticeFeed := m.noticeFeed.emit (.purged id) })

/-! ## Observations -/

/-- Takes a sample in and publishes the stats. -/
def ingest (m : Manager) (sample : Sample) (slow : Bool) : Manager :=
  let registry := m.registry.ingest sample slow
  { m with registry, statsFeed := m.statsFeed.emit registry.statsList }

def recordMetrics (m : Manager) (id : String) (values : Dict Float) :
    Except ManagerError Unit × Manager :=
  match m.registry.recordMetrics id values with
  | .error e => (.error e, m)
  | .ok registry => (.ok (), { m with registry })

/-! ## Questions -/

/-- The verdict on a pup. -/
def health (m : Manager) (id : String) : Except ManagerError Health :=
  (m.registry.get id).map m.registry.evaluate

/-- Whether a pup may start. -/
def canStart (m : Manager) (id : String) : Except ManagerError Bool :=
  (m.health id).map Health.canStart

/-- The reports on the dependencies of a pup. -/
def dependencyReports (m : Manager) (id : String) (d : Disk) :
    Except ManagerError (List DependencyReport) × Manager :=
  match m.registry.get id with
  | .error e => (.error e, m)
  | .ok r =>
    let (answer, catalogs) := m.catalogs.list d
    (.ok (resolveDependencies r m.registry.records.values answer), { m with catalogs })

end Manager

end Kennel
