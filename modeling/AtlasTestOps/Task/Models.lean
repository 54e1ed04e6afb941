import AtlasTestOps.Core.Contracts

/-! The Task contracts: a TaskRun with its frozen Manifest, the ExecutionUnits of the
Manifest, the UnitAttempts of each Unit, and the event ledger. Run, Unit and Attempt
share the three state axes and their milestone times. -/

namespace Atlas.Task

open Atlas

inductive TaskMaterializationState
  | materializing | sealed
deriving DecidableEq, Repr

inductive ExecutionLifecycle
  | queued | running | pauseRequested | paused | canceling | finalizing | closed
deriving DecidableEq, Repr

inductive ExecutionQuality
  | pending | passed | failed | blocked | inconclusive | infraError | canceled
deriving DecidableEq, Repr

inductive ExecutionHygiene
  | notRequired | pending | running | cleaned | cleanupFailed | leaked
deriving DecidableEq, Repr

/-- The three state axes with their milestone times. -/
structure ExecutionAxes where
  lifecycle : ExecutionLifecycle
  quality : ExecutionQuality
  hygiene : ExecutionHygiene
  startedAt : Option Instant
  finalizedAt : Option Instant
  cleanupResolvedAt : Option Instant
  closedAt : Option Instant
deriving DecidableEq, Repr

/-- The state columns that Run, Unit and Attempt share. -/
structure ExecutionState extends ExecutionAxes where
  revision : ℕ
  updatedAt : Instant
deriving DecidableEq, Repr

/-- A Temporal Workflow identity, derived from the tenant and the row it runs. -/
inductive WorkflowId
  | run (tenantId taskRunId : Uuid)
  | attempt (tenantId unitAttemptId : Uuid)
deriving DecidableEq, Repr

def taskRunWorkflowId (tenantId taskRunId : Uuid) : WorkflowId := .run tenantId taskRunId

def unitAttemptWorkflowId (tenantId unitAttemptId : Uuid) : WorkflowId :=
  .attempt tenantId unitAttemptId

/-- The references one Manifest cell freezes, with its ordinal. -/
structure UnitPins where
  ordinal : ℕ
  caseVersionId : Uuid
  executionProfileVersionId : Uuid
  fixtureBlueprintVersionId : Uuid
  identityProfileVersionId : Uuid
  environmentId : Uuid
  browserProfileVersionId : Uuid
  dataProfileVersionId : Uuid
  parameterDigest : Digest
  dependencyDigest : Digest
deriving DecidableEq, Repr

structure ExecutionUnitManifest extends UnitPins where
  unitKey : Digest
deriving DecidableEq, Repr

structure TaskRetryPolicyContent where
  infraRetryAttempts : ℕ
  maxTotalInfraRetries : ℕ
  initialBackoffSeconds : ℕ
  maximumBackoffSeconds : ℕ
  jitterPercent : ℕ
deriving DecidableEq, Repr

/-- The field bounds and `validate_policy`. -/
def TaskRetryPolicyContent.violation (p : TaskRetryPolicyContent) : Option String :=
  firstViolation
    [(4 < p.infraRetryAttempts, "infraRetryAttempts"),
     (256 < p.maxTotalInfraRetries, "maxTotalInfraRetries"),
     (p.initialBackoffSeconds < 1 ∨ 300 < p.initialBackoffSeconds, "initialBackoffSeconds"),
     (p.maximumBackoffSeconds < 1 ∨ 3600 < p.maximumBackoffSeconds, "maximumBackoffSeconds"),
     (50 < p.jitterPercent, "jitterPercent"),
     (p.maximumBackoffSeconds < p.initialBackoffSeconds,
       "maximumBackoffSeconds cannot be below initialBackoffSeconds")]

structure TaskRetryPolicy extends TaskRetryPolicyContent where
  valid : toTaskRetryPolicyContent.violation = none
deriving DecidableEq, Repr

structure TaskRunManifest extends RunScope where
  units : List ExecutionUnitManifest
  policyDigests : List (String × Digest)
  retryPolicy : Option TaskRetryPolicy
deriving DecidableEq, Repr

structure TaskRun extends RunScope, ExecutionState where
  requestDigest : Option Digest
  materializationState : TaskMaterializationState
  materializedUnitCount : Option ℕ
  materializedFirstAttemptCount : Option ℕ
  temporalNamespace : Option String
  temporalWorkflowId : Option WorkflowId
  queuedAt : Instant
  createdAt : Instant
deriving DecidableEq, Repr

structure ExecutionUnit extends UnitScope, UnitPins, ExecutionState where
  createdAt : Instant
deriving DecidableEq, Repr

structure UnitAttempt extends UnitScope, ExecutionState where
  id : Uuid
  caseVersionId : Uuid
  attemptNumber : ℕ
  temporalNamespace : Option String
  temporalWorkflowId : Option WorkflowId
  queuedAt : Instant
  executionDeadline : Instant
  createdAt : Instant
deriving DecidableEq, Repr

/-- The id of a row is the last part of its scope. -/
def TaskRun.id (r : TaskRun) : Uuid := r.taskRunId

def ExecutionUnit.id (u : ExecutionUnit) : Uuid := u.executionUnitId

/-- The frozen authority an Attempt runs under. The digest over its own content and the
digest of the runtime it names are kept beside it. -/
structure TaskUnitExecutionTicket extends UnitScope where
  id : Uuid
  unitAttemptId : Uuid
  requestDigest : Digest
  ordinal : ℕ
  caseVersionId : Uuid
  attemptNumber : ℕ
  executionProfileVersionId : Uuid
  identityProfileVersionId : Uuid
  browserProfileVersionId : Uuid
  dataProfileVersionId : Uuid
  fixtureBlueprintVersionId : Uuid
  environmentId : Uuid
  executionDeadline : Instant
  ticketDigest : Digest
  contentDigest : Digest
  runtimeDigest : Digest
deriving DecidableEq, Repr

inductive TaskRunCommandType
  | cancel | pause | resume
deriving DecidableEq, Repr

/-- The public states with the two that the dispatcher's lease adds in the database. -/
inductive TaskRunCommandStatus
  | pending | claimed | retryWait | delivered | applied | failed | superseded
deriving DecidableEq, Repr

structure TaskRunCommandIntent where
  id : Uuid
  commandType : TaskRunCommandType
  status : TaskRunCommandStatus
  commandDigest : Digest
  acceptedRunRevision : ℕ
  createdAt : Instant
deriving DecidableEq, Repr

/-- How one physical Attempt ended, as its Workflow reports it. -/
inductive AttemptStatus
  | passed | finishedUnsealed | failed | infraError | inconclusive | canceled
deriving DecidableEq, Repr

inductive RunStatus
  | passed | finishedUnsealed | failed | inconclusive | canceled
deriving DecidableEq, Repr

inductive EventType
  | runRequested | runRerunRequested
  | runStarted | runPaused | runResumed | runFinalized | runClosed
  | unitStarted | unitFinalized | unitClosed
  | attemptStarted | attemptFinalized | attemptClosed | attemptSealAccepted
  | attemptRetryScheduled
deriving DecidableEq, Repr

/-- The payload written by `_attempt_result_payload`. -/
structure AttemptResultPayload where
  status : AttemptStatus
  errorCode : Option String
  retryAfterSeconds : Option ℕ
  resultRefId : Option Uuid
  sealContentHash : Option Digest
deriving DecidableEq, Repr

/-- `TaskRunWorkflowPayload`, which is also the payload of a finalized Run event. -/
structure RunResult where
  taskRunId : Uuid
  status : RunStatus
  completedUnits : ℕ
  failedUnits : ℕ
  inconclusiveUnits : ℕ
  canceledUnits : ℕ
  skippedUnits : ℕ
deriving DecidableEq, Repr

inductive EventPayload
  | empty
  | requested (unitCount : ℕ) (requestDigest : Digest)
  | attemptResult (result : AttemptResultPayload)
  | runResult (result : RunResult)
  | control (commandId : Uuid) (commandType : TaskRunCommandType) (commandDigest : Digest)
      (acceptedRunRevision : ℕ)
  | sealAccepted (resultRefId sealId : Uuid) (contentHash : Digest)
  | sealClosed (resultRefId : Uuid)
  | retryScheduled (unitAttemptId previousUnitAttemptId : Uuid) (attemptNumber : ℕ)
      (notBefore : Instant) (errorCode : Option String)
deriving DecidableEq, Repr

structure TaskExecutionEvent where
  id : Uuid
  tenantId : Uuid
  projectId : Uuid
  taskRunId : Uuid
  executionUnitId : Option Uuid
  unitAttemptId : Option Uuid
  seq : ℕ
  eventType : EventType
  lifecycle : ExecutionLifecycle
  quality : ExecutionQuality
  hygiene : ExecutionHygiene
  payload : EventPayload
  occurredAt : Instant
deriving DecidableEq, Repr

end Atlas.Task
