import FleetOperator.SortedMap
import FleetOperator.Json.Printer
import FleetOperator.Json.Parser
import FleetOperator.Json.Record
import FleetOperator.Json.MergePatch
import FleetOperator.Json.Pointer
import FleetOperator.Text.Blank
import FleetOperator.Text.Utf8
import FleetOperator.Text.Hex
import FleetOperator.Text.Base64
import FleetOperator.Hash
import FleetOperator.Error
import FleetOperator.Dialogue
import FleetOperator.Object.Timestamp
import FleetOperator.Object.Header
import FleetOperator.Object.Scheduling
import FleetOperator.Fleet.Basic
import FleetOperator.Fleet.Codec
import FleetOperator.Workload.Basic
import FleetOperator.Workload.Codec
import FleetOperator.Capability.Error
import FleetOperator.Capability.Configuration
import FleetOperator.Capability.Template
import FleetOperator.Capability.Descriptor
import FleetOperator.Capability.Compose
import FleetOperator.Capability.Legacy
import FleetOperator.Gateway.Desired
import FleetOperator.Secret
import FleetOperator.Gateway.CustomProperties
import FleetOperator.Gateway.Error
import FleetOperator.Gateway.Cycle
import FleetOperator.Gateway.Controller
import FleetOperator.Object.Key
import FleetOperator.Gateway.Adjustment
import FleetOperator.Gateway.Simulation
import FleetOperator.Disk.Path
import FleetOperator.Disk.Tree
import FleetOperator.Disk.Linked
import FleetOperator.Disk.Interface
import FleetOperator.Disk.Memory
import FleetOperator.Sweep.Collect
import FleetOperator.Text.Punycode
import FleetOperator.Text.RunTable
import FleetOperator.Text.Category
import FleetOperator.Text.Alphanumeric
import FleetOperator.Text.Visible
import FleetOperator.Text.Composition
import FleetOperator.Text.Direction
import FleetOperator.Text.Joining
import FleetOperator.Text.Percent
import FleetOperator.Distribution.Address
import FleetOperator.Distribution.HostName.Mapping
import FleetOperator.Distribution.HostName
import FleetOperator.Distribution.Host
import FleetOperator.Distribution.Url
import FleetOperator.Distribution.Proxy
import FleetOperator.Distribution.Client
import FleetOperator.Sweep.Error
import FleetOperator.Sweep.Controller
import FleetOperator.Sweep.Simulation
import FleetOperator.Cluster.Resource
import FleetOperator.Cluster.Request
import FleetOperator.Cluster.Document
import FleetOperator.Cluster.Api
import FleetOperator.Cluster.Store
import FleetOperator.Cluster.Script
import FleetOperator.Sweep.Node
import FleetOperator.Sweep.Script
import FleetOperator.Schedule
import FleetOperator.Json.Yaml
import FleetOperator.Fleet.Schema
import FleetOperator.Fleet.Manifest
import FleetOperator.Command.Arguments
import FleetOperator.Command.Log
import FleetOperator.Command.Log.Pattern
import FleetOperator.Command.Log.Filter
import FleetOperator.Command.Report
import FleetOperator.Main
import FleetOperator.Proofs.Dialogue
import FleetOperator.Proofs.Disk.Path
import FleetOperator.Proofs.Disk.Memory
import FleetOperator.Proofs.Disk.Subtrees
import FleetOperator.Proofs.Disk.Listing
import FleetOperator.Proofs.Disk.Placing
import FleetOperator.Proofs.Sweep.Retry
import FleetOperator.Proofs.Sweep.Swept
import FleetOperator.Proofs.Sweep.Effect
import FleetOperator.Proofs.Sweep.Interleaving
import FleetOperator.Proofs.Sweep.Race
import FleetOperator.Proofs.Sweep.Inquiry
import FleetOperator.Proofs.Sweep.Containment
import FleetOperator.Proofs.Hash
import FleetOperator.Proofs.SortedMap
import FleetOperator.Proofs.Text.Cut
import FleetOperator.Proofs.Text.Utf8
import FleetOperator.Proofs.Json.Text
import FleetOperator.Proofs.Json.Record
import FleetOperator.Proofs.Json.Reading
import FleetOperator.Proofs.Json.Layout
import FleetOperator.Proofs.Workload.Codec
import FleetOperator.Proofs.Workload.Layout
import FleetOperator.Proofs.Workload.Document
import FleetOperator.Proofs.Fleet.Codec
import FleetOperator.Proofs.Gateway.Faults
import FleetOperator.Proofs.Gateway.Cycle
import FleetOperator.Proofs.Gateway.Slots
import FleetOperator.Proofs.Gateway.Identity
import FleetOperator.Proofs.Gateway.Convergence
import FleetOperator.Proofs.Gateway.VersionProbe
import FleetOperator.Proofs.Gateway.Reachable
import FleetOperator.Proofs.Gateway.Unchanged
import FleetOperator.Proofs.Gateway.Rollout
import FleetOperator.Proofs.Gateway.OwnSecret
import FleetOperator.Proofs.Gateway.PropertiesSecret
import FleetOperator.Proofs.Gateway.Calls
import FleetOperator.Proofs.Gateway.Ownership
import FleetOperator.Proofs.Gateway.Tracking
import FleetOperator.Proofs.Gateway.Clients
import FleetOperator.Proofs.Gateway.LookFirst
import FleetOperator.Proofs.Gateway.Inspected
import FleetOperator.Proofs.Gateway.VersionBlind
import FleetOperator.Proofs.Gateway.SideBySide
import FleetOperator.Proofs.Gateway.Neighbours
import FleetOperator.Proofs.Capability.Legacy
import FleetOperator.Proofs.Capability.Merging
import FleetOperator.Proofs.Capability.Composition
import FleetOperator.Proofs.Gateway.IrrelevantEdits
import FleetOperator.Proofs.Gateway.Moments
import FleetOperator.Proofs.Gateway.ImmutableFields
import FleetOperator.Proofs.Gateway.MountedSecret
import FleetOperator.Proofs.Gateway.Mounts
import FleetOperator.Proofs.Gateway.TemplateHash
import FleetOperator.Proofs.Capability.FirstError
import FleetOperator.Proofs.Gateway.ClusterVersion
import FleetOperator.Proofs.Gateway.MountSummary
import FleetOperator.Proofs.OneApart
import FleetOperator.Proofs.Workload.OneDigit
import FleetOperator.Proofs.Gateway.OneByte
import FleetOperator.Proofs.Gateway.ImageHost
