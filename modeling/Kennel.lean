import Kennel.About
import Kennel.ActionLog
import Kennel.Allocation.Basic
import Kennel.Catalog.Basic
import Kennel.Catalog.Disk
import Kennel.Catalog.Source
import Kennel.Catalog.Wire
import Kennel.Daemon
import Kennel.Data.Dict
import Kennel.Data.Rolling
import Kennel.Decimal.Shortest
import Kennel.Dependency.Report
import Kennel.Dependency.Resolution
import Kennel.Disk.Basic
import Kennel.Disk.Copy
import Kennel.Disk.Entry
import Kennel.Disk.Error
import Kennel.Disk.Faults
import Kennel.Disk.Listing
import Kennel.Disk.Node
import Kennel.Disk.Path
import Kennel.Engine.Reply
import Kennel.Engine.Sampling
import Kennel.Engine.Usage
import Kennel.Http.Response
import Kennel.Http.Route
import Kennel.Http.Server
import Kennel.Json.Decoder
import Kennel.Json.Number
import Kennel.Json.Reading
import Kennel.Json.Value
import Kennel.Manager.Basic
import Kennel.Manager.Error
import Kennel.Manager.Feed
import Kennel.Manager.Health
import Kennel.Manager.IdSource
import Kennel.Manager.Registry
import Kennel.Manifest.Basic
import Kennel.Manifest.Wire
import Kennel.Monitoring.Monitor
import Kennel.Monitoring.Observation
import Kennel.Monitoring.Sample
import Kennel.Monitoring.SampleLoop
import Kennel.Monitoring.Stats
import Kennel.Net.Address
import Kennel.Net.PortSet
import Kennel.Nix.Fragment
import Kennel.Nix.Literal
import Kennel.Patch.Basic
import Kennel.Patch.Run
import Kennel.Rebuild.Command
import Kennel.Record.Basic
import Kennel.Record.Notice
import Kennel.Record.Update
import Kennel.Record.Wire
import Kennel.Settings.Basic
import Kennel.Settings.Read
import Kennel.Settings.Wire
import Kennel.Shell.Basic
import Kennel.Shell.Exit
import Kennel.Shell.Program
import Kennel.Shell.Read
import Kennel.Shell.Run
import Kennel.Shell.Sum
import Kennel.Store
import Kennel.Text.Glyph
import Kennel.Text.Hex
import Kennel.Text.Invisible
import Kennel.Text.Quoted
import Kennel.Toml.Document
import Kennel.Toml.Scalar
import Kennel.Toml.Value
import Kennel.Version.Basic
import Kennel.Version.Error
import Kennel.Version.Range
import Kennel.Version.Read
import Kennel.Proofs.Disk.Tree
import Kennel.Proofs.Disk.Walk
import Kennel.Proofs.Disk.Steps
import Kennel.Proofs.Disk.File
import Kennel.Proofs.Disk.Directory
import Kennel.Proofs.Disk.Copied
import Kennel.Proofs.Disk.Fills
import Kennel.Proofs.Disk.Copy
import Kennel.Proofs.Disk.Sorted
import Kennel.Proofs.Patch.Site
import Kennel.Proofs.Patch.Changes
import Kennel.Proofs.Patch.Snapshot
import Kennel.Proofs.Patch.Course
import Kennel.Proofs.Patch.Rollback
import Kennel.Proofs.Patch.Lifecycle
import Kennel.Proofs.Patch.Linked
import Kennel.Proofs.Patch.Holds
import Kennel.Proofs.Patch.Move
import Kennel.Proofs.Patch.Overlap
import Kennel.Proofs.Patch.Turn
import Kennel.Proofs.Patch.Sequence
import Kennel.Proofs.Nix.Imports
import Kennel.Proofs.Nix.Literal
import Kennel.Proofs.Nix.Container
import Kennel.Proofs.Net.Address
import Kennel.Proofs.Net.Successor
import Kennel.Proofs.Allocation.Scan
import Kennel.Proofs.Allocation.Fresh
import Kennel.Proofs.Allocation.Lowest
import Kennel.Proofs.Allocation.Upwards
import Kennel.Proofs.Data.Dict
import Kennel.Proofs.Manager.Registry
import Kennel.Proofs.Manager.Calls
import Kennel.Proofs.Manager.Unique
import Kennel.Proofs.Manager.Failure
import Kennel.Proofs.Json.Printed
import Kennel.Proofs.Json.Taken
import Kennel.Proofs.Record.Stored
import Kennel.Proofs.Record.Updates
import Kennel.Proofs.Manager.Health
import Kennel.Proofs.Store.Contents
import Kennel.Proofs.Store.History
import Kennel.Proofs.Store.Writing
import Kennel.Proofs.Manager.Acceptance
import Kennel.Proofs.Manager.Installation
import Kennel.Proofs.Manager.Addresses
import Kennel.Proofs.Manager.Reload
import Kennel.Proofs.Manager.Restart
import Kennel.Proofs.Manager.Traffic
import Kennel.Proofs.Manager.Serializable
import Kennel.Proofs.Manager.Current
import Kennel.Proofs.Manager.Bystanders
import Kennel.Proofs.Dependency.Resolution
import Kennel.Proofs.Dependency.Candidate
import Kennel.Proofs.Dependency.Installable
import Kennel.Proofs.Monitoring.Series
import Kennel.Proofs.Manager.Observed
import Kennel.Proofs.Manager.SampleOrder
import Kennel.Proofs.Manager.Announced
import Kennel.Proofs.Manager.Feed
import Kennel.Proofs.Manager.Delivery
import Kennel.Proofs.Manager.Subscribers
import Kennel.Proofs.Manager.Follower
import Kennel.Proofs.Manager.Chronicle
import Kennel.Proofs.Manager.Watched
import Kennel.Proofs.Manager.Providers
import Kennel.Proofs.Monitoring.Room
import Kennel.Proofs.Http.Deployed
import Kennel.Proofs.Nix.Firewall
import Kennel.Proofs.Settings.Containment
