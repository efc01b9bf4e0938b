import Kennel.Record.Wire

/-!
# Samples of the monitor

The monitor watches services of pups and delivers samples: for each watched service what was
measured of it. The main service of a pup is its container, which the host runs under the name
`pup-` and the pup's ID.
-/

namespace Kennel

open Json

def containerNameStart : String := "pup-"

/-- A service of a pup, as the monitor knows it. -/
structure MonitoredService where
  pup : String
  service : String
  deriving DecidableEq, Inhabited

namespace MonitoredService

def container (pup : String) : MonitoredService := ⟨pup, "container"⟩

def containerName (s : MonitoredService) : String := containerNameStart ++ s.pup

/-- The service as it is shown. -/
def display (s : MonitoredService) : String := s.pup ++ "/" ++ s.service

def toJson (s : MonitoredService) : Value := .object
  [("pupId", .string s.pup), ("service", .string s.service)]

def fields : Fields MonitoredService :=
  MonitoredService.mk <$> .required "pupId" .text <*> .required "service" .text

def decoder : Decoder MonitoredService := fields.decoder

end MonitoredService

/-- What was measured of a service. -/
structure Vitals where
  cpuPercent : Float := 0.0
  memPercent : Float := 0.0
  memMb : Float := 0.0
  running : Bool := false
  /-- The size of the pup's storage, if it was measured. -/
  diskMb : Option Float := none
  deriving Inhabited

namespace Vitals

/-- The JSON shape of the measurements. -/
def toJson (v : Vitals) : Value := .object
  [("cpuPercent", .real v.cpuPercent), ("memPercent", .real v.memPercent),
    ("memMb", .real v.memMb), ("running", .bool v.running), ("diskMb", .option .real v.diskMb)]

def fields : Fields Vitals :=
  Vitals.mk <$> .required "cpuPercent" .real <*> .required "memPercent" .real
    <*> .required "memMb" .real <*> .required "running" .flag
    <*> .optional "diskMb" (.option .real) none

/-- Takes measurements. -/
def decoder : Decoder Vitals := fields.decoder

end Vitals

/-- The order of services: by pup, then by name. -/
def MonitoredService.precedes (a b : MonitoredService) : Bool :=
  a.pup < b.pup || a.pup == b.pup && a.service ≤ b.service

/-- The measurements of several services, each service at most once. -/
abbrev Sample := List (MonitoredService × Vitals)

namespace Sample

/-- The sample with these measurements; of two for one service the later counts. -/
def ofList (l : List (MonitoredService × Vitals)) : Sample :=
  l.foldl (fun sample e => sample.filter (·.1 != e.1) ++ [e]) []

/-- The JSON shape of a sample, in the order of the services. -/
def toJson (sample : Sample) : Value :=
  .list (fun (s, v) => .object
      [("id", s.toJson), ("display", .string s.display), ("status", v.toJson)])
    (sample.mergeSort fun a b => a.1.precedes b.1)

end Sample

end Kennel
