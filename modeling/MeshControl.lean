import MeshControl.Api.Client
import MeshControl.Api.Lease
import MeshControl.Api.Response
import MeshControl.Api.Rest
import MeshControl.Api.Server
import MeshControl.Charts
import MeshControl.Cli.Args
import MeshControl.Cli.Crd
import MeshControl.Cli.LogFilter
import MeshControl.Cli.Operator
import MeshControl.Cluster.Store
import MeshControl.Decimal.Grisu
import MeshControl.Decimal.Shortest
import MeshControl.Decode
import MeshControl.Engine.Component
import MeshControl.Engine.ControlPlane
import MeshControl.Engine.Hooks
import MeshControl.Engine.Objects
import MeshControl.Engine.Retry
import MeshControl.Engine.World
import MeshControl.Error
import MeshControl.Json.Basic
import MeshControl.Json.Located
import MeshControl.Json.Merge
import MeshControl.Json.Parse
import MeshControl.Json.Print
import MeshControl.Main
import MeshControl.Manifest
import MeshControl.Metrics
import MeshControl.Operator.Loop
import MeshControl.Operator.Watcher
import MeshControl.Patch
import MeshControl.Proofs.Api.Discovery
import MeshControl.Proofs.Api.Election
import MeshControl.Proofs.Cluster.Calls
import MeshControl.Proofs.Cluster.Client
import MeshControl.Proofs.Cluster.Keyed
import MeshControl.Proofs.Cluster.Versions
import MeshControl.Proofs.Engine.Agreement
import MeshControl.Proofs.Engine.Apply
import MeshControl.Proofs.Engine.Bookkeeping
import MeshControl.Proofs.Engine.Contention
import MeshControl.Proofs.Engine.Deletion
import MeshControl.Proofs.Engine.Failures
import MeshControl.Proofs.Engine.Finalizer
import MeshControl.Proofs.Engine.Flatten
import MeshControl.Proofs.Engine.Frame
import MeshControl.Proofs.Engine.Grants
import MeshControl.Proofs.Engine.Hooks
import MeshControl.Proofs.Engine.Idempotence
import MeshControl.Proofs.Engine.Installed
import MeshControl.Proofs.Engine.Isolation
import MeshControl.Proofs.Engine.Kiali
import MeshControl.Proofs.Engine.Leaves
import MeshControl.Proofs.Engine.Loops
import MeshControl.Proofs.Engine.Order
import MeshControl.Proofs.Engine.Persist
import MeshControl.Proofs.Engine.Prepared
import MeshControl.Proofs.Engine.Presence
import MeshControl.Proofs.Engine.Removal
import MeshControl.Proofs.Engine.Rerun
import MeshControl.Proofs.Engine.Settle
import MeshControl.Proofs.Engine.Shared
import MeshControl.Proofs.Engine.Teardown
import MeshControl.Proofs.Engine.Tracking
import MeshControl.Proofs.Engine.Transitions
import MeshControl.Proofs.Error.Aggregate
import MeshControl.Proofs.Json.Canonical
import MeshControl.Proofs.Json.Fields
import MeshControl.Proofs.Json.Yaml
import MeshControl.Proofs.Manifest.Charts
import MeshControl.Proofs.Manifest.Documents
import MeshControl.Proofs.Patch.Convergence
import MeshControl.Proofs.Patch.Coverage
import MeshControl.Proofs.Patch.Drift
import MeshControl.Proofs.Patch.Frame
import MeshControl.Proofs.Patch.Stamped
import MeshControl.Proofs.Resource.Decode
import MeshControl.Proofs.Resource.Key
import MeshControl.Proofs.Resource.Merged
import MeshControl.Proofs.Resource.Objects
import MeshControl.Proofs.Resource.Records
import MeshControl.Proofs.Status.Codec
import MeshControl.Proofs.Status.Conditions
import MeshControl.Proofs.Status.Store
import MeshControl.Proofs.Status.Times
import MeshControl.Proofs.Steps
import MeshControl.Request.Answer
import MeshControl.Request.Api
import MeshControl.Request.Basic
import MeshControl.Request.Cli
import MeshControl.Request.Cluster
import MeshControl.Request.Controller
import MeshControl.Request.Core
import MeshControl.Request.Engine
import MeshControl.Request.Files
import MeshControl.Resource.ControlPlane
import MeshControl.Resource.Key
import MeshControl.Resource.Meta
import MeshControl.Resource.Object
import MeshControl.Resource.Time
import MeshControl.Status.Condition
import MeshControl.Status.Tree
import MeshControl.Text.Quoted
import MeshControl.Yaml.Basic
import MeshControl.Yaml.Emit
import MeshControl.Yaml.Error
import MeshControl.Yaml.Event
import MeshControl.Yaml.Load
import MeshControl.Yaml.Resolve
import MeshControl.Yaml.Scan
