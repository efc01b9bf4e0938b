import Kennel.Manager.Error
import Kennel.Manager.Health
import Kennel.Manager.IdSource
import Kennel.Monitoring.Observation
import Kennel.Record.Update

/-!
# The registry of installed pups

What is known of the installed pups while the daemon runs: their records, their stats, and the
mark up to which addresses were handed out. A change of a pup is planned on the registry as it
stands and put into it afterwards, so that the record can be stored in between; a plan changes
nothing.

After each change the health of every pup is found anew: the flags in its record and the note in
its stats which selected providers do not run.
-/

namespace Kennel

/-- The records and stats of the installed pups, by ID, and the allocator. -/
structure Registry where
  records : Dict Record
  stats : Dict Stats
  allocator : Allocator
  deriving Inhabited

namespace Registry

/-- The status of each installed pup. -/
def statusOf (g : Registry) (id : String) : Option Status := (g.stats.get? id).map (·.status)

/-- The verdict on a record as things stand. -/
def evaluate (g : Registry) (r : Record) : Health := Health.evaluate r g.statusOf

/-- The record with the flags of the verdict on it. -/
def marked (g : Registry) (r : Record) : Record := (g.evaluate r).mark r

/-- The registry with the health of every pup found anew. -/
def refreshHealth (g : Registry) : Registry where
  records := g.records.mapWithKey fun _ r => g.marked r
  stats := g.stats.mapWithKey fun id s =>
    (g.records.get? id).elim s fun r => { s with depsNotRunning := (g.evaluate r).depsNotRunning }
  allocator := g.allocator

/-- The registry of stored records; the stats start afresh. -/
def ofRecords (range : AllocationRange) (bufferSize : Nat) (records : List Record) : Registry :=
  let start (r : Record) := (r.id, Stats.start r.id r.manifest bufferSize)
  refreshHealth
    { records := Dict.ofList (records.map fun r => (r.id, r))
      stats := Dict.ofList (records.map start)
      allocator := Allocator.ofRecords range records }

/-- The records in ascending order of their addresses. -/
def list (g : Registry) : List Record := Record.sortByAddress g.records.values

/-- The stats in ascending order of the IDs. -/
def statsList (g : Registry) : List Stats := g.stats.values

def get (g : Registry) (id : String) : Except ManagerError Record :=
  (g.records.get? id).elim (.error (.notFound id)) .ok

def getStats (g : Registry) (id : String) : Except ManagerError Stats :=
  (g.stats.get? id).elim (.error (.notFound id)) .ok

/-! ## Adoption -/

/-- Web interfaces with the ports of the host that lead to them. -/
def bindWebUis (exposes : List Manifest.Expose) (ports : List Port) : List WebUi :=
  exposes.zipWith (fun e port => ⟨e.name, e.port, port⟩) ports

/-- The record of a pup that is to be adopted: it has a new ID, the next address and the lowest
free ports. Nothing is reserved. -/
def planAdoption (g : Registry) (ids : IdSource) (manifest : Manifest) (source : Source) :
    Except ManagerError Record := do
  let installed := g.records.values
  match installed.find? (·.isSamePackage manifest source) with
  | some existing => .error (.alreadyExists existing.id)
  | none =>
    let exposes := manifest.webUis
    (checkHostPorts manifest installed).mapError .allocation
    let address ← g.allocator.nextAddress.mapError .allocation
    let ports ← (allocatePorts g.allocator.range exposes.length manifest installed).mapError
      .allocation
    return g.marked
      { id := ids.pick g.records.keys
        phase := .installing
        enabled := false
        config := ∅
        address
        webUis := bindWebUis exposes ports
        providers := ∅
        manifest
        source
        needsConf := false
        needsDeps := false }

/-- The registry with an adopted pup in it. -/
def commitAdoption (g : Registry) (bufferSize : Nat) (r : Record) : Registry :=
  refreshHealth
    { records := g.records.insert r.id r
      stats := g.stats.insert r.id (Stats.start r.id r.manifest bufferSize)
      allocator := g.allocator.commit r.address }

/-! ## Update and purge -/

/-- The first provider that the updates select and that is not installed. -/
def missingProvider? (g : Registry) (updates : List Update) : Option String :=
  updates.findSome? fun u => u.providers.find? (!g.records.contains ·)

/-- The record of a pup after updates, and the kinds of change that they make. -/
def planUpdate (g : Registry) (id : String) (updates : List Update) :
    Except ManagerError (Record × List NoticeKind) := do
  let r ← g.get id
  match g.missingProvider? updates with
  | some provider => .error (.unknownProvider provider)
  | none =>
    let (r, kinds) := Update.applyAll updates r
    return (g.marked r, kinds)

def commitUpdate (g : Registry) (r : Record) : Registry :=
  refreshHealth { g with records := g.records.insert r.id r }

/-- The registry without a pup. -/
def purge (g : Registry) (id : String) : Except ManagerError Registry := do
  discard (g.get id)
  return refreshHealth { g with records := g.records.erase id, stats := g.stats.erase id }

/-! ## Observations -/

/-- The registry after one service was observed; a pup that is not installed is passed over. -/
def observe (slow : Bool) (g : Registry) (observation : MonitoredService × Vitals) : Registry :=
  match g.records.get? observation.1.pup with
  | none => g
  | some r =>
    { g with stats := g.stats.modify observation.1.pup (Stats.observe r.enabled slow observation.2) }

/-- The registry after a sample was taken in. -/
def ingest (g : Registry) (sample : Sample) (slow : Bool) : Registry :=
  refreshHealth (sample.foldl (observe slow) g)

def recordMetrics (g : Registry) (id : String) (values : Dict Float) :
    Except ManagerError Registry := do
  discard (g.getStats id)
  return { g with stats := g.stats.modify id (Stats.recordMetrics values) }

end Registry

end Kennel
