import KubeCell.Admission
import KubeCell.Api
import KubeCell.Baseline
import KubeCell.Bundle
import KubeCell.CellReconcile
import KubeCell.CellRound
import KubeCell.ChildObserver
import KubeCell.Commands
import KubeCell.Content
import KubeCell.Core
import KubeCell.Digest
import KubeCell.Evaluator
import KubeCell.Helpers
import KubeCell.Highlight
import KubeCell.Host
import KubeCell.HostBaseline
import KubeCell.Installer
import KubeCell.Inventory
import KubeCell.Lemmas.Anchored
import KubeCell.Lemmas.CellRuns
import KubeCell.Lemmas.CellWalk
import KubeCell.Lemmas.Content
import KubeCell.Lemmas.Effects
import KubeCell.Lemmas.Environment
import KubeCell.Lemmas.Evaluator
import KubeCell.Lemmas.Gate
import KubeCell.Lemmas.Inventory
import KubeCell.Lemmas.Mirror
import KubeCell.Lemmas.Names
import KubeCell.Lemmas.Owned
import KubeCell.Lemmas.Provision
import KubeCell.Lemmas.Publish
import KubeCell.Lemmas.Resolution
import KubeCell.Lemmas.Round
import KubeCell.Lemmas.Stages
import KubeCell.Lemmas.Transitions
import KubeCell.Lemmas.Undisturbed
import KubeCell.Lemmas.Walk
import KubeCell.Lib.Attempts
import KubeCell.Lib.Checks
import KubeCell.Lib.Flags
import KubeCell.Lib.Ip
import KubeCell.Lib.Issued
import KubeCell.Lib.Loops
import KubeCell.Lib.Placeholders
import KubeCell.Lib.Pool
import KubeCell.Lib.Prog
import KubeCell.Lib.Progress
import KubeCell.Lib.Quantity
import KubeCell.Lib.Regex
import KubeCell.Lib.Rounds
import KubeCell.Lib.Store
import KubeCell.Lib.Text
import KubeCell.Lib.Utf8
import KubeCell.Lib.Versions
import KubeCell.Ocm
import KubeCell.PlanReconcile
import KubeCell.Platform
import KubeCell.Reconcile
import KubeCell.Render
import KubeCell.Resolution
import KubeCell.Round
import KubeCell.Runtime
import KubeCell.Semantics
import KubeCell.Slices
import KubeCell.Suffix
import KubeCell.System
import KubeCell.Theorems.Accelerators
import KubeCell.Theorems.Accounting
import KubeCell.Theorems.Admission
import KubeCell.Theorems.Aggregate
import KubeCell.Theorems.Apart
import KubeCell.Theorems.Applied
import KubeCell.Theorems.Baseline
import KubeCell.Theorems.CellDraft
import KubeCell.Theorems.CellStatus
import KubeCell.Theorems.ClassDraft
import KubeCell.Theorems.Confinement
import KubeCell.Theorems.Confirmed
import KubeCell.Theorems.Converges
import KubeCell.Theorems.Dated
import KubeCell.Theorems.DerivedNames
import KubeCell.Theorems.Digest
import KubeCell.Theorems.Drift
import KubeCell.Theorems.Egress
import KubeCell.Theorems.Endpoints
import KubeCell.Theorems.EntryIp
import KubeCell.Theorems.Evaluation
import KubeCell.Theorems.Highlight
import KubeCell.Theorems.Hostnames
import KubeCell.Theorems.Identity
import KubeCell.Theorems.Isolation
import KubeCell.Theorems.Labels
import KubeCell.Theorems.Lost
import KubeCell.Theorems.Mirror
import KubeCell.Theorems.MirrorNames
import KubeCell.Theorems.NodePorts
import KubeCell.Theorems.Ordering
import KubeCell.Theorems.Orphans
import KubeCell.Theorems.OwnUsage
import KubeCell.Theorems.Ownership
import KubeCell.Theorems.Panics
import KubeCell.Theorems.Paths
import KubeCell.Theorems.Plan
import KubeCell.Theorems.PodLevel
import KubeCell.Theorems.Policy
import KubeCell.Theorems.Probed
import KubeCell.Theorems.Published
import KubeCell.Theorems.Ready
import KubeCell.Theorems.References
import KubeCell.Theorems.Released
import KubeCell.Theorems.Replaced
import KubeCell.Theorems.Reservation
import KubeCell.Theorems.Routes
import KubeCell.Theorems.Settled
import KubeCell.Theorems.Snapshot
import KubeCell.Theorems.Storage
import KubeCell.Theorems.Suffix
import KubeCell.Theorems.Tenants
import KubeCell.Theorems.Transitions
import KubeCell.Theorems.Usable
import KubeCell.Theorems.Versions
import KubeCell.Theorems.Vouched
import KubeCell.Theorems.Wakes
import KubeCell.Theorems.Woken
import KubeCell.Theorems.WorkloadPath
import KubeCell.Validation
import KubeCell.World
