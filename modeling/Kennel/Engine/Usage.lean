import Kennel.Json.Decoder
import Kennel.Monitoring.Sample

/-!
# What a container uses

The engine counts the time that a container had on the processors and that all processors ran, at
two moments, and the memory it has and may have. Counters are words of 64 bits; the difference of
two is taken as of signed words, so a counter that fell back gives a negative share.
-/

namespace Kennel

def bytesPerMb : Float := 1048576.0

def megabytes (bytes : UInt64) : Float := bytes.toFloat / bytesPerMb

namespace Engine

open Json

/-- The counters of the processors at one moment. -/
structure CpuCounters where
  /-- The time of the container, of which the total may be missing. -/
  container : Option (Option UInt64)
  /-- The time of all processors. -/
  system : Option UInt64
  online : Option UInt32
  deriving DecidableEq, Inhabited

structure Memory where
  used : Option UInt64
  limit : Option UInt64
  deriving DecidableEq, Inhabited

/-- What the engine reports of a container. -/
structure Usage where
  cpu : Option CpuCounters
  earlier : Option CpuCounters
  memory : Option Memory
  deriving DecidableEq, Inhabited

def counter : Decoder UInt64 := fun r => (Decoder.natural (Nat.pow 2 64) r).map (·.toUInt64)

/-- A number of processors or processes. -/
def quantity : Decoder UInt32 := fun r => (Decoder.natural (Nat.pow 2 32) r).map (·.toUInt32)

def containerTimeFields : Fields (Option UInt64) :=
  (fun total _ _ _ => total) <$> .nullable "total_usage" counter
    <*> .nullable "percpu_usage" (.list counter)
    <*> .nullable "usage_in_kernelmode" counter <*> .nullable "usage_in_usermode" counter

/-- The fields of the times for which a container was held back. -/
def throttlingFields : Fields Unit :=
  (fun _ _ _ => ()) <$> .nullable "periods" counter <*> .nullable "throttled_periods" counter
    <*> .nullable "throttled_time" counter

def CpuCounters.fields : Fields CpuCounters :=
  (fun container system online _ => ⟨container, system, online⟩)
    <$> .nullable "cpu_usage" containerTimeFields.decoder
    <*> .nullable "system_cpu_usage" counter <*> .nullable "online_cpus" quantity
    <*> .nullable "throttling_data" throttlingFields.decoder

def Memory.fields : Fields Memory :=
  (fun used _ _ _ limit _ _ _ => ⟨used, limit⟩) <$> .nullable "usage" counter
    <*> .nullable "max_usage" counter <*> .nullable "stats" (.dict counter)
    <*> .nullable "failcnt" counter <*> .nullable "limit" counter
    <*> .nullable "commitbytes" counter <*> .nullable "commitpeakbytes" counter
    <*> .nullable "privateworkingset" counter

def Usage.fields : Fields Usage :=
  (fun _ _ _ cpu earlier memory => ⟨cpu, earlier, memory⟩) <$> .nullable "name" .text
    <*> .nullable "id" .text <*> .nullable "num_procs" quantity
    <*> .nullable "cpu_stats" CpuCounters.fields.decoder
    <*> .nullable "precpu_stats" CpuCounters.fields.decoder
    <*> .nullable "memory_stats" Memory.fields.decoder

/-- The growth of a counter, as a signed word. -/
def growth (now earlier : Option UInt64) : Int64 :=
  (now.getD 0).toInt64 - (earlier.getD 0).toInt64

/-- The share of the processors that the container had between two moments, in percent of one
processor. -/
def cpuPercent (container system : Int64) (online : Float) : Float :=
  if 0 < system && online > 0.0 then (container.toFloat / system.toFloat) * online * 100.0 else 0.0

/-- The share of its limit that the container uses of the memory, in percent. -/
def memPercent (used limit : UInt64) : Float :=
  if 0 < limit then used.toFloat / limit.toFloat * 100.0 else 0.0

/-- What a report says of a running container, if it says how long it had the processors. -/
def Usage.vitals? (u : Usage) : Option Vitals := do
  let now ← u.cpu
  let earlier ← u.earlier
  let total ← now.container
  let earlierTotal ← earlier.container
  let used := (u.memory.bind (·.used)).getD 0
  let limit := (u.memory.bind (·.limit)).getD 0
  some
    { cpuPercent := cpuPercent (growth total earlierTotal) (growth now.system earlier.system)
        (now.online.getD 1).toFloat
      memPercent := memPercent used limit
      memMb := megabytes used
      running := true }

end Engine

end Kennel
