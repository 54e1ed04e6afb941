import AtlasTestOps.Lib.Walk
import AtlasTestOps.Lib.Levels
import AtlasTestOps.Lib.Worklist
import AtlasTestOps.Lib.Transaction
import AtlasTestOps.Lib.Rows
import AtlasTestOps.Lib.Table
import AtlasTestOps.Lib.Json
import AtlasTestOps.Core.Wire
import AtlasTestOps.Core.Text
import AtlasTestOps.Result.Models
import AtlasTestOps.Task.Models
import AtlasTestOps.Task.Manifest
import AtlasTestOps.Result.Projections
import AtlasTestOps.Result.Classification
import AtlasTestOps.Store.Db
import AtlasTestOps.Store.Transitions
import AtlasTestOps.Identity.Models
import AtlasTestOps.Lib.Guarded
import AtlasTestOps.Fixture.Models
import AtlasTestOps.Fixture.Guards
import AtlasTestOps.Store.Leases
import AtlasTestOps.Store.Fixtures
import AtlasTestOps.Service.Projection
import AtlasTestOps.Service.Leases
import AtlasTestOps.Service.Fixtures
import AtlasTestOps.Service.FixtureSystem
import AtlasTestOps.Service.Worker
import AtlasTestOps.Service.Attempts
import AtlasTestOps.Service.Settlement
import AtlasTestOps.Service.FinishRun
import AtlasTestOps.Service.Finalization
import AtlasTestOps.Service.Reevaluation
import AtlasTestOps.Service.Classification
import AtlasTestOps.Proofs.SnapshotWrites
import AtlasTestOps.Proofs.SnapshotChain
import AtlasTestOps.Proofs.ResolutionWrites
import AtlasTestOps.Proofs.GateSoundness
import AtlasTestOps.Proofs.Triage
import AtlasTestOps.Proofs.ManifestHash
import AtlasTestOps.Result.Gate
import AtlasTestOps.Workflow.WellFormed
import AtlasTestOps.Proofs.LeaseFencing
import AtlasTestOps.Proofs.LeakQuarantine
import AtlasTestOps.Proofs.FixtureWrites
import AtlasTestOps.Proofs.NodeMoves
import AtlasTestOps.Proofs.NodeInvariant
import AtlasTestOps.Proofs.CleanReport
import AtlasTestOps.Lib.Idempotency
import AtlasTestOps.Task.Schedules
import AtlasTestOps.Store.Schedules
import AtlasTestOps.Service.Schedules
import AtlasTestOps.Orchestration.ScheduleSync
import AtlasTestOps.Proofs.ScheduleWrites
import AtlasTestOps.Proofs.ScheduleRows
import AtlasTestOps.Proofs.PausedFires
import AtlasTestOps.Proofs.ScheduleConvergence
import AtlasTestOps.Lib.JsonTree
import AtlasTestOps.Core.CanonicalDigest
import AtlasTestOps.Proofs.DigestAgreement
import AtlasTestOps.Lib.Slots
import AtlasTestOps.Store.Materialization
import AtlasTestOps.Proofs.Materialization
import AtlasTestOps.Proofs.MaterializationSessions
import AtlasTestOps.Lib.Paging
import AtlasTestOps.Orchestration.TaskRoot
import AtlasTestOps.Service.DispatchPlan
import AtlasTestOps.Proofs.DispatchPages
import AtlasTestOps.Proofs.SealedRows
import AtlasTestOps.Proofs.RootPages
import AtlasTestOps.Orchestration.RootLoop
import AtlasTestOps.Proofs.RootLoop
import AtlasTestOps.Runtime.Control
import AtlasTestOps.Store.LiveControl
import AtlasTestOps.Service.LiveControl
import AtlasTestOps.Proofs.LiveMoves
import AtlasTestOps.Proofs.LiveInvariant
import AtlasTestOps.Proofs.LiveFencing
import AtlasTestOps.Proofs.LiveRecovery
import AtlasTestOps.Proofs.LivePages
import AtlasTestOps.Runtime.Browser
import AtlasTestOps.Store.BrowserReports
import AtlasTestOps.Service.BrowserReports
import AtlasTestOps.Proofs.ReportChain
import AtlasTestOps.Service.BrowserWorker
import AtlasTestOps.Proofs.LostReply
import AtlasTestOps.Service.FinalizeEvidence
import AtlasTestOps.Proofs.Verdict
import AtlasTestOps.Lib.Raises
import AtlasTestOps.Proofs.RetryBackoff
import AtlasTestOps.Proofs.RetryDeadline
import AtlasTestOps.Lib.Dict
import AtlasTestOps.Workflow.Patches
import AtlasTestOps.Proofs.PatchComposition
import AtlasTestOps.Runtime.BrowserSession
import AtlasTestOps.Proofs.PageFreshness
import AtlasTestOps.Lib.Rounds
import AtlasTestOps.Orchestration.AttemptActivity
import AtlasTestOps.Proofs.ClosurePersistence
import AtlasTestOps.Fixture.Compiler
import AtlasTestOps.Proofs.BlueprintCompiler
import AtlasTestOps.Store.GateGuard
import AtlasTestOps.Service.TaskGates
import AtlasTestOps.Proofs.GateAgreement
import AtlasTestOps.Proofs.HeartbeatPace
import AtlasTestOps.Task.SensitiveKeys
import AtlasTestOps.Proofs.SensitiveKeys
import AtlasTestOps.Lib.JsonPointer
import AtlasTestOps.Fixture.Pointer
import AtlasTestOps.Proofs.PointerValue
import AtlasTestOps.Store.PartitionChecks
import AtlasTestOps.Proofs.PartitionClaims
import AtlasTestOps.Lib.Gregorian
import AtlasTestOps.Task.FireTimes
import AtlasTestOps.Proofs.FireTimes
import AtlasTestOps.Service.FailureRecords
import AtlasTestOps.Proofs.FailureRecords
import AtlasTestOps.Orchestration.NodeLoop
import AtlasTestOps.Proofs.NodeLoop
import AtlasTestOps.Service.ParentRefs
import AtlasTestOps.Proofs.ChildrenFirst
import AtlasTestOps.Lib.Growth
import AtlasTestOps.Service.RunControl
import AtlasTestOps.Service.PartitionedFinish
import AtlasTestOps.Proofs.RunWrites
import AtlasTestOps.Proofs.RunMoves
import AtlasTestOps.Proofs.RunSteps
import AtlasTestOps.Proofs.RunSystem
import AtlasTestOps.Proofs.RunHistory
import AtlasTestOps.Proofs.RetryChain
import AtlasTestOps.Proofs.KeepsRun
import AtlasTestOps.Proofs.ControlProtocol
import AtlasTestOps.Proofs.ClosedRun
