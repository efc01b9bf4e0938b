import Kennel.Monitoring.Sample
import Kennel.Monitoring.Stats

/-!
# Observations

A sample is taken into the stats of the pups it is about. Its status follows from what the owner
wants and from what was observed. Of a sample of the slow kind the measurements go into the series
too; one of the fast kind is only looked at for the status.
-/

namespace Kennel

namespace Stats

/-- The stats after the measurements of a service were put into the series. -/
def measure (s : Stats) (v : Vitals) : Stats :=
  { s with
    cpuPercent := s.cpuPercent.push v.cpuPercent
    memMb := s.memMb.push v.memMb
    memPercent := s.memPercent.push v.memPercent
    diskMb := v.diskMb.elim s.diskMb s.diskMb.push }

/-- The stats of a pup after a service of it was observed. -/
def observe (enabled slow : Bool) (v : Vitals) (s : Stats) : Stats :=
  let s := { s with status := .derive enabled v.running }
  if slow then s.measure v else s

/-- The stats with values added to declared metrics; names that are not declared are ignored. -/
def recordMetrics (values : Dict Float) (s : Stats) : Stats :=
  { s with metrics := s.metrics.mapWithKey fun name series =>
      (values.get? name).elim series series.push }

end Stats

end Kennel
