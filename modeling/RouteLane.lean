import RouteLane.Lib.Fallible
import RouteLane.Lib.Orders
import RouteLane.Lib.Records
import RouteLane.Lib.Places
import RouteLane.Lib.FirstMatch
import RouteLane.Lib.OrderedMap
import RouteLane.Lib.Chains
import RouteLane.Lib.Steps
import RouteLane.Lib.Faults
import RouteLane.Lib.Watch
import RouteLane.Lib.Views
import RouteLane.Lib.Completion
import RouteLane.Lib.Tasks
import RouteLane.Lib.Calls
import RouteLane.Lib.Closure
import RouteLane.Lib.Streams
import RouteLane.Lib.Walks
import RouteLane.Lib.Backoff
import RouteLane.Lib.ReadOnly
import RouteLane.Net.Address
import RouteLane.Net.Topology
import RouteLane.Domain.Profile
import RouteLane.Domain.Validation
import RouteLane.Application.Process
import RouteLane.Policy.Plan
import RouteLane.Policy.Planner
import RouteLane.Policy.PlannerSemantics
import RouteLane.Policy.Fallbacks
import RouteLane.Policy.PrimarySelector
import RouteLane.Net.Json
import RouteLane.Net.Derived
import RouteLane.Net.NetworkText
import RouteLane.Net.ParseTopology
import RouteLane.Net.FillFamily
import RouteLane.Net.Interfaces
import RouteLane.Net.SystemDefault
import RouteLane.Net.Reordering
import RouteLane.Nft.Ifindex
import RouteLane.Nft.Encoding
import RouteLane.Nft.Normalization
import RouteLane.Nft.Seal
import RouteLane.Nft.Syntax
import RouteLane.Nft.Document
import RouteLane.Nft.Eval
import RouteLane.Nft.Blocks
import RouteLane.Nft.Output
import RouteLane.Nft.NewFlows
import RouteLane.Nft.MarkedFlows
import RouteLane.Nft.Egress
import RouteLane.Nft.Flows
import RouteLane.Kernel.RoutingSteps
import RouteLane.Kernel.Ownership
import RouteLane.Kernel.Transition
import RouteLane.Kernel.CrashModel
import RouteLane.Kernel.CrashStates
import RouteLane.Kernel.Phases
import RouteLane.Kernel.Runner
import RouteLane.Kernel.RunnerSpec
import RouteLane.Kernel.Acceptance
import RouteLane.Kernel.CrashSafety
import RouteLane.Kernel.Recovery
import RouteLane.Kernel.FailClosed
import RouteLane.Kernel.Exactness
import RouteLane.Policy.SelectorSafety
import RouteLane.Policy.Failback
import RouteLane.Policy.Deadline
import RouteLane.Policy.Readiness
import RouteLane.Runtime.Authority
import RouteLane.Runtime.Resumption
import RouteLane.Runtime.Monitor
import RouteLane.Backend.Journal
import RouteLane.Backend.JournalSchema
import RouteLane.Kernel.Checks
import RouteLane.Kernel.Snapshot
import RouteLane.Kernel.Conflicts
import RouteLane.Kernel.LiveRouting
import RouteLane.Kernel.Readers
import RouteLane.Kernel.LostRoutes
import RouteLane.Kernel.Transaction
import RouteLane.Backend.System
import RouteLane.Backend.Backend
import RouteLane.Backend.Legacy
import RouteLane.Backend.Operations
import RouteLane.Backend.Spec
import RouteLane.Backend.Progress
import RouteLane.Backend.OrphanRecovery
import RouteLane.Backend.Transitions
import RouteLane.Backend.Reconciliation
import RouteLane.Backend.Preservation
import RouteLane.Backend.Refresh
import RouteLane.Backend.FailedRefresh
import RouteLane.Backend.RuntimeRecords
import RouteLane.Backend.GrantConfinement
import RouteLane.Backend.OrphanDocument
import RouteLane.Backend.RecoveryHold
import RouteLane.Backend.RestartReads
import RouteLane.Backend.Generations
import RouteLane.Backend.CommittedCleanup
import RouteLane.Backend.ResumedSelector
import RouteLane.Health.Report
import RouteLane.Health.Probes
import RouteLane.Health.Completeness
import RouteLane.Ipc.Protocol
import RouteLane.Ipc.Framing
import RouteLane.Ui.RuleEditor
import RouteLane.Ui.RuleOrder
import RouteLane.Ui.RuleTarget
import RouteLane.Ui.Session
import RouteLane.Ui.Pending
import RouteLane.Ui.Unlocking
import RouteLane.Ui.Connections
import RouteLane.Ui.MutationGate
import RouteLane.Backend.CompiledPlans
import RouteLane.Backend.OwnResources
import RouteLane.Daemon.State
import RouteLane.Daemon.Service
import RouteLane.Daemon.Operations
import RouteLane.Daemon.Order
import RouteLane.Daemon.Convergence
import RouteLane.Daemon.Generation
import RouteLane.Daemon.Verified
import RouteLane.Daemon.Atomicity
import RouteLane.Config.Schema
import RouteLane.Config.Migration
import RouteLane.Config.Repository
import RouteLane.Lib.Histories
import RouteLane.Ui.Controller
import RouteLane.Ui.RecoveryConsent
import RouteLane.Lib.Checks
import RouteLane.Lib.Files
import RouteLane.Lib.Sessions
import RouteLane.Lib.UserFiles
import RouteLane.Backend.StateFile
import RouteLane.Config.ConfigFiles
import RouteLane.Daemon.DesiredFile
import RouteLane.Lib.Channels
import RouteLane.Ipc.Client
import RouteLane.Ipc.Serving
import RouteLane.Ui.Bridge
import RouteLane.Ui.Desktop
import RouteLane.Helper.Authorized
import RouteLane.Helper.Warrant
import RouteLane.Lib.Upholding
import RouteLane.Lib.Heeding
import RouteLane.Helper.Requests
import RouteLane.Helper.Cgroups
import RouteLane.Helper.Service
import RouteLane.Helper.Lives
