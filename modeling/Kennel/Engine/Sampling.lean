import Kennel.Disk.Copy
import Kennel.Engine.Reply
import Kennel.Engine.Usage
import Kennel.Monitoring.Observation

/-!
# Samples from the container engine

A sample asks the engine which containers run, and then for the measurements of each watched
service whose container is among them. A running container whose measurements cannot be had is
still reported as running. If not even the list can be had there is no telling what runs, and the
sample is empty.

The slow kind of sample also measures the storage of each pup, if it is known where that is.
-/

namespace Kennel.Engine

open Json

/-- A connection to the engine, by what it answers: to the request for the list of running containers, and
to the one for the measurements of the container with an ID. -/
structure Connection where
  containers : Reply
  usage : String → Reply

/-- The fields of a container in the list: its ID and names. -/
def containerFields : Fields (Option String × Option (List String)) :=
  Prod.mk <$> .nullable "Id" .text <*> .nullable "Names" (.list .text)

/-- A name of a container as it is compared; the engine puts slashes in front of it. -/
def bareName (name : String) : String := String.ofList (name.toList.dropWhile (· == '/'))

/-- The ID of each running container by its names, if the list can be had. -/
def Connection.running? (e : Connection) : Option (Dict String) :=
  (e.containers.whole? (.list containerFields.decoder)).map fun containers =>
    Dict.ofList (containers.flatMap fun (id, names) =>
      (names.getD []).map fun name => (bareName name, id.getD ""))

/-- The measurements of a running container. -/
def Connection.vitals (e : Connection) (id : String) : Vitals :=
  (((e.usage id).firstDocument? Usage.fields.decoder).bind Usage.vitals?).getD { running := true }

def storageMb (d : Disk) (dataDir pup : String) : Float :=
  megabytes (Disk.usage d (Path.join dataDir pup)).toUInt64

/-- The measurements of a service, where these containers run. -/
def Connection.measure (e : Connection) (running : Dict String) (d : Disk) (dataDir? : Option String)
    (s : MonitoredService) : Vitals :=
  let v := (running.get? s.containerName).elim {} e.vitals
  match dataDir? with
  | none => v
  | some dataDir => { v with diskMb := some (storageMb d dataDir s.pup) }

/-- A sample of these services. -/
def Connection.sample (e : Connection) (d : Disk) (dataDir? : Option String)
    (services : List MonitoredService) : Sample :=
  match e.running? with
  | none => []
  | some running => Sample.ofList (services.map fun s => (s, e.measure running d dataDir? s))

/-- The samples of the slow kind while these services are watched, `count` of them; there are none
as long as nothing is watched. -/
def Connection.slowSamples (e : Connection) (d : Disk) (dataDir? : Option String) (count : Nat)
    (services : List MonitoredService) : List Sample :=
  if services.isEmpty then [] else List.replicate count (e.sample d dataDir? services)

def Connection.burst (e : Connection) (d : Disk) (count : Nat) (s : MonitoredService) : List Sample :=
  List.replicate count (e.sample d none [s])

end Kennel.Engine
