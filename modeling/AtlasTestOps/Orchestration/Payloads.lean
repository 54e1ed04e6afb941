import AtlasTestOps.Task.Models

/-! What the Task Workflows and the database authority hand to each other. Identities and
times arrive parsed; every producer writes them in their canonical form. -/

namespace Atlas.Orchestration

open Atlas Atlas.Task

structure TaskRunWorkflowInput where
  tenantId : Uuid
  projectId : Uuid
  taskRunId : Uuid
  requestDigest : Digest
  manifestHash : Digest
  dispatchAfterOrdinal : ℕ
  continuationCancelRequested : Bool
deriving DecidableEq, Repr

structure UnitAttemptWorkflowInput where
  tenantId : Uuid
  projectId : Uuid
  taskRunId : Uuid
  requestDigest : Digest
  manifestHash : Digest
  ordinal : ℕ
  executionUnitId : Uuid
  unitAttemptId : Uuid
  executionDeadline : Instant
  activityTimeoutSeconds : ℕ
deriving DecidableEq, Repr

/-- One Attempt that the database lets the Root start as a child. -/
structure TaskUnitDispatchPayload where
  ordinal : ℕ
  executionUnitId : Uuid
  unitAttemptId : Uuid
  unitAttemptWorkflowId : WorkflowId
  notBefore : Instant
  executionDeadline : Instant
  activityTimeoutSeconds : ℕ
deriving DecidableEq, Repr

inductive TaskAttemptBeginStatus
  | ready | canceled | rejected
deriving DecidableEq, Repr

structure TaskAttemptBeginPayload where
  status : TaskAttemptBeginStatus
  errorCode : Option String
deriving DecidableEq, Repr

inductive TaskAttemptExecutionStatus
  | resultFinalized | executedUnsealed | failed | infraError | inconclusive | canceled
deriving DecidableEq, Repr

structure TaskAttemptExecutionPayload where
  status : TaskAttemptExecutionStatus
  errorCode : Option String
  retryAfterSeconds : Option ℕ
  resultRefId : Option Uuid
  sealContentHash : Option Digest
deriving DecidableEq, Repr

structure TaskAttemptFinishInput where
  attempt : UnitAttemptWorkflowInput
  execution : TaskAttemptExecutionPayload
deriving DecidableEq, Repr

/-- The outcome of one child. -/
structure TaskAttemptWorkflowPayload where
  executionUnitId : Uuid
  unitAttemptId : Uuid
  ordinal : ℕ
  status : AttemptStatus
  errorCode : Option String
  retryAfterSeconds : Option ℕ
  resultRefId : Option Uuid
  sealContentHash : Option Digest
deriving DecidableEq, Repr

structure TaskAttemptBatchSettleInput where
  request : TaskRunWorkflowInput
  outcomes : List TaskAttemptWorkflowPayload
  cancelRequested : Bool
deriving DecidableEq, Repr

inductive TaskAttemptBatchSettleState
  | settled | pauseRequested | cancelRequested
deriving DecidableEq, Repr

structure TaskAttemptBatchSettlePayload where
  state : TaskAttemptBatchSettleState
  retryAttempts : List TaskUnitDispatchPayload
  finalOutcomes : List TaskAttemptWorkflowPayload
deriving DecidableEq, Repr

structure TaskRunCommandSignal where
  commandId : Uuid
  tenantId : Uuid
  projectId : Uuid
  taskRunId : Uuid
  commandType : TaskRunCommandType
  commandDigest : Digest
  acceptedRunRevision : ℕ
  schemaVersion : String
deriving DecidableEq, Repr

structure TaskRunFinishInput where
  request : TaskRunWorkflowInput
  outcomes : List TaskAttemptWorkflowPayload
  cancelRequested : Bool
  skippedUnits : ℕ
  commands : List TaskRunCommandSignal
deriving DecidableEq, Repr

def taskRunCommandSignalLegacySchema : String := "atlas.task-run-command-signal/0.1"

def taskRunCommandSignalSchema : String := "atlas.task-run-command-signal/0.2"

def taskRunMaximumUnits : ℕ := 100000

def taskRunDispatchPageSize : ℕ := 64

def taskRunChildBatchSize : ℕ := 8

end Atlas.Orchestration
