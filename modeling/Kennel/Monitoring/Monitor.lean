import Kennel.Monitoring.Sample

/-!
# The monitor

The monitor watches the services it is told to, each list of them in place of the one before, and
measures a service in a quick burst when one is expected to change. What it was asked so far is
all that is known of it here.
-/

namespace Kennel

inductive MonitorCall where
  | watch (services : List MonitoredService)
  | burst (service : MonitoredService)
  deriving DecidableEq, Inhabited

/-- A monitor, by what it was asked, the latest last. -/
structure Monitor where
  calls : List MonitorCall := []
  deriving DecidableEq, Inhabited

namespace Monitor

def watch (m : Monitor) (services : List MonitoredService) : Monitor :=
  ⟨m.calls ++ [.watch services]⟩

/-- Asks for a burst of measurements. -/
def burst (m : Monitor) (service : MonitoredService) : Monitor := ⟨m.calls ++ [.burst service]⟩

/-- Every list of services that was to be watched, in order. -/
def watchLists (m : Monitor) : List (List MonitoredService) :=
  m.calls.filterMap fun
    | .watch services => some services
    | .burst _ => none

def watched (m : Monitor) : List MonitoredService := m.watchLists.getLast?.getD []

/-- The services that were measured in bursts, in order. -/
def bursts (m : Monitor) : List MonitoredService :=
  m.calls.filterMap fun
    | .burst service => some service
    | .watch _ => none

end Monitor

end Kennel
