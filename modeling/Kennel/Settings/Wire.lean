import Kennel.Json.Value
import Kennel.Settings.Basic

/-!
# The JSON shape of settings

Settings are shown in the sections in which they are written, with every value filled in.
-/

namespace Kennel.Settings

open Json

/-- The JSON shape of where the daemon listens. -/
def Server.toJson (s : Server) : Value :=
  .object [("port", .nat s.port.toNat), ("host", .string s.host)]

/-- The JSON shape of where files are. -/
def Storage.toJson (s : Storage) : Value := .object
  [("pups_dir", .string s.pupsDir), ("config_dir", .string s.configDir),
    ("snapshot_dir", .string s.snapshotDir), ("data_dir", .option .string s.dataDir)]

/-- The JSON shape of what is allocated from. -/
def rangeToJson (r : AllocationRange) : Value := .object
  [("ip_base", .string r.base.toText), ("ip_ceiling", .string r.ceiling.toText),
    ("port_start", .nat r.portStart.toNat)]

/-- The JSON shape of how pups are monitored. -/
def Monitoring.toJson (m : Monitoring) : Value := .object
  [("slow_interval_ms", .nat m.slowIntervalMs), ("fast_interval_ms", .nat m.fastIntervalMs),
    ("fast_poll_count", .nat m.fastPollCount), ("metric_buffer_size", .nat m.metricBufferSize),
    ("stats_log_interval_secs", .nat m.statsLogIntervalSecs)]

def CatalogDir.toJson (c : CatalogDir) : Value :=
  .object [("id", .string c.id), ("path", .string c.path)]

def toJson (s : Settings) : Value := .object
  [("server", s.server.toJson), ("storage", s.storage.toJson),
    ("allocation", rangeToJson s.allocation), ("monitoring", s.monitoring.toJson),
    ("publishing", .object [("subscriber_capacity", .nat s.subscriberCapacity)]),
    ("rebuild", .object [("command", .list .string s.rebuildCommand)]),
    ("sources", .list CatalogDir.toJson s.catalogs)]

end Kennel.Settings
