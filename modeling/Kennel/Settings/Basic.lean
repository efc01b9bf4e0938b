import Kennel.Allocation.Basic
import Kennel.Disk.Path

/-!
# Settings

The settings of the daemon: where it listens, where its files are, what it allocates from, how it
monitors, how far subscribers may fall behind, the command that rebuilds the host, and the
catalogs. Settings that could not work are refused, and the first rule that they break is named.
-/

namespace Kennel

namespace Settings

/-- Where the daemon listens. -/
structure Server where
  port : Port
  host : String
  deriving DecidableEq, Inhabited

structure Storage where
  pupsDir : String
  /-- The live configuration of the host. -/
  configDir : String
  /-- The copies made before each change of the configuration. -/
  snapshotDir : String
  /-- The storage of the pups, measured if it is given. -/
  dataDir : Option String := none
  deriving DecidableEq, Inhabited

/-- How pups are monitored. -/
structure Monitoring where
  slowIntervalMs : Nat
  fastIntervalMs : Nat
  /-- The samples of one burst. -/
  fastPollCount : Nat := 10
  /-- The values kept of each series. -/
  metricBufferSize : Nat
  statsLogIntervalSecs : Nat := 300
  deriving DecidableEq, Inhabited

/-- A directory that is read as a catalog. -/
structure CatalogDir where
  id : String
  path : String
  deriving DecidableEq, Inhabited

end Settings

structure Settings where
  server : Settings.Server
  storage : Settings.Storage
  allocation : AllocationRange := {}
  monitoring : Settings.Monitoring
  /-- How many items a subscriber may fall behind. -/
  subscriberCapacity : Nat
  rebuildCommand : List String
  catalogs : List Settings.CatalogDir := []
  deriving DecidableEq, Inhabited

namespace Settings

/-- A rule that settings can break. -/
inductive Problem where
  | serverPort
  | emptyPupsDir
  | emptyConfigDir
  | emptySnapshotDir
  | snapshotInsideConfig
  | addressRange (base ceiling : Address)
  | portStart
  | slowInterval
  | fastInterval
  | metricBuffer
  | statsLogInterval
  | subscriberCapacity
  | emptyRebuildCommand
  | emptyCatalogId
  deriving DecidableEq

def Problem.message : Problem → String
  | serverPort => "server.port must be between 1 and 65535, got 0"
  | emptyPupsDir => "storage.pups_dir must be non-empty"
  | emptyConfigDir => "storage.config_dir must be non-empty"
  | emptySnapshotDir => "storage.snapshot_dir must be non-empty"
  | snapshotInsideConfig => "storage.snapshot_dir must not be inside storage.config_dir"
  | addressRange base ceiling =>
    "allocation.ip_base (" ++ base.toText ++ ") must be below allocation.ip_ceiling ("
      ++ ceiling.toText ++ ")"
  | portStart => "allocation.port_start must be > 0"
  | slowInterval => "monitoring.slow_interval_ms must be > 0, got 0"
  | fastInterval => "monitoring.fast_interval_ms must be > 0, got 0"
  | metricBuffer => "monitoring.metric_buffer_size must be > 0, got 0"
  | statsLogInterval => "monitoring.stats_log_interval_secs must be > 0, got 0"
  | subscriberCapacity => "publishing.subscriber_capacity must be > 0, got 0"
  | emptyRebuildCommand => "rebuild.command must name a program"
  | emptyCatalogId => "sources[].id must be non-empty"

/-- The rules in the order in which they are checked, each with whether the settings keep it. -/
def rules (s : Settings) : List (Problem × Bool) :=
  [(.serverPort, s.server.port ≠ 0),
    (.emptyPupsDir, s.storage.pupsDir ≠ ""),
    (.emptyConfigDir, s.storage.configDir ≠ ""),
    (.emptySnapshotDir, s.storage.snapshotDir ≠ ""),
    (.snapshotInsideConfig, !Path.isWithin s.storage.snapshotDir s.storage.configDir),
    (.addressRange s.allocation.base s.allocation.ceiling,
      s.allocation.base < s.allocation.ceiling),
    (.portStart, s.allocation.portStart ≠ 0),
    (.slowInterval, s.monitoring.slowIntervalMs ≠ 0),
    (.fastInterval, s.monitoring.fastIntervalMs ≠ 0),
    (.metricBuffer, s.monitoring.metricBufferSize ≠ 0),
    (.statsLogInterval, s.monitoring.statsLogIntervalSecs ≠ 0),
    (.subscriberCapacity, s.subscriberCapacity ≠ 0),
    (.emptyRebuildCommand, s.rebuildCommand ≠ []),
    (.emptyCatalogId, s.catalogs.all (·.id ≠ ""))]

def problem? (s : Settings) : Option Problem := (s.rules.find? (!·.2)).map (·.1)

end Settings

end Kennel
