import AtlasTestOps.Store.Transitions
import AtlasTestOps.Service.Projection
import AtlasTestOps.Orchestration.Payloads

/-! What the entry points of the Task worker share: the exact-identity checks, the state
transitions with their events, and the payload a finished Attempt leaves in the ledger. -/

namespace Atlas.Service

open Atlas Atlas.Task Atlas.Result Atlas.Store Atlas.Orchestration Txn

/-- The revision that `project_unit` appends for a Unit, or the error it raises. The fixture
tables it reads are not modelled. -/
abbrev HygieneProjection :=
  Db → ExecutionUnit → Instant → Except String (Option UnitHygieneResolutionRevision)

variable (H : ResultHashes) (P : HygieneProjection) (unitRetryAttemptId : Uuid → ℕ → Uuid)

/-! Exact identities. -/

def requireExactRoot (request : TaskRunWorkflowInput) (found : Option TaskRun)
    (manifestHash : Option Digest) : Op TaskRun := do
  let run ← demand found (.worker "TASK_ROOT_IDENTITY_MISMATCH")
  raiseIf (run.id ≠ request.taskRunId ∨ run.tenantId ≠ request.tenantId ∨
      run.projectId ≠ request.projectId ∨ run.requestDigest ≠ some request.requestDigest ∨
      run.manifestHash ≠ request.manifestHash ∨ manifestHash ≠ some request.manifestHash ∨
      run.temporalWorkflowId ≠ some (taskRunWorkflowId request.tenantId request.taskRunId))
    (.worker "TASK_ROOT_IDENTITY_MISMATCH")
  pure run

def exactAttempt (request : TaskRunWorkflowInput) (unit : ExecutionUnit) (attempt : UnitAttempt)
    (expectedOrdinal : ℕ) : Bool :=
  unit.ordinal = expectedOrdinal ∧ unit.tenantId = request.tenantId ∧
    unit.projectId = request.projectId ∧ unit.taskRunId = request.taskRunId ∧
    unit.manifestHash = request.manifestHash ∧ attempt.tenantId = request.tenantId ∧
    attempt.projectId = request.projectId ∧ attempt.taskRunId = request.taskRunId ∧
    attempt.executionUnitId = unit.id ∧ attempt.manifestHash = request.manifestHash ∧
    attempt.unitKey = unit.unitKey ∧ attempt.caseVersionId = unit.caseVersionId ∧
    1 ≤ attempt.attemptNumber ∧
    (1 < attempt.attemptNumber → attempt.id = unitRetryAttemptId unit.id attempt.attemptNumber) ∧
    attempt.temporalNamespace ≠ none ∧
    attempt.temporalWorkflowId = some (unitAttemptWorkflowId request.tenantId attempt.id)

def requireExactAttempt (request : TaskRunWorkflowInput) (unit : ExecutionUnit)
    (attempt : UnitAttempt) (expectedOrdinal : ℕ) : Op Unit :=
  raiseIf (!exactAttempt unitRetryAttemptId request unit attempt expectedOrdinal)
    (.worker "TASK_ATTEMPT_IDENTITY_MISMATCH")

/-- The root identity that a child request repeats. -/
def rootInput (request : UnitAttemptWorkflowInput) : TaskRunWorkflowInput where
  tenantId := request.tenantId
  projectId := request.projectId
  taskRunId := request.taskRunId
  requestDigest := request.requestDigest
  manifestHash := request.manifestHash
  dispatchAfterOrdinal := 0
  continuationCancelRequested := false

def requireExactAttemptRequest (request : UnitAttemptWorkflowInput) (run : TaskRun)
    (unit : ExecutionUnit) (attempt : UnitAttempt) : Op Unit := do
  let _ ← requireExactRoot (rootInput request) (some run) (some request.manifestHash)
  requireExactAttempt unitRetryAttemptId (rootInput request) unit attempt request.ordinal
  raiseIf (unit.id ≠ request.executionUnitId ∨ attempt.id ≠ request.unitAttemptId ∨
      attempt.temporalNamespace ≠ run.temporalNamespace ∨
      attempt.executionDeadline ≠ request.executionDeadline)
    (.worker "TASK_ATTEMPT_REQUEST_MISMATCH")

/-- `_lock_attempt_chain` -/
def lockAttemptChain (taskRunId unitId attemptId : Uuid) :
    Op (TaskRun × ExecutionUnit × UnitAttempt) := do
  let foundRun ← read fun db => db.getRun taskRunId
  let foundUnit ← read fun db => db.getUnit unitId
  let foundAttempt ← read fun db => db.getAttempt attemptId
  let run ← demand foundRun (.worker "TASK_ATTEMPT_SCOPE_MISSING")
  let unit ← demand foundUnit (.worker "TASK_ATTEMPT_SCOPE_MISSING")
  let attempt ← demand foundAttempt (.worker "TASK_ATTEMPT_SCOPE_MISSING")
  pure (run, unit, attempt)

/-! Transitions with their events. -/

/-- The columns that a transition of the worker names; it keeps the hygiene axis. -/
structure Progress where
  lifecycle : ExecutionLifecycle
  quality : ExecutionQuality
  startedAt : Option Instant
  finalizedAt : Option Instant
  closedAt : Option Instant

def Progress.of (p : Progress) (state : ExecutionState) : ExecutionAxes where
  lifecycle := p.lifecycle
  quality := p.quality
  hygiene := state.hygiene
  startedAt := p.startedAt
  finalizedAt := p.finalizedAt
  cleanupResolvedAt := state.cleanupResolvedAt
  closedAt := p.closedAt

/-- `_append_event` -/
def recordEvent (run : TaskRun) (projection : ExecutionState) (eventType : EventType)
    (executionUnitId unitAttemptId : Option Uuid) (payload : EventPayload) : Op Unit := do
  let seq ← read Db.nextTaskExecutionEventSeq
  let id ← newEntityId
  appendEvent
    { id := id
      tenantId := run.tenantId
      projectId := run.projectId
      taskRunId := run.id
      executionUnitId := executionUnitId
      unitAttemptId := unitAttemptId
      seq := seq
      eventType := eventType
      lifecycle := projection.lifecycle
      quality := projection.quality
      hygiene := projection.hygiene
      payload := payload
      occurredAt := projection.updatedAt }

def transitionRun (run : TaskRun) (progress : Progress) (eventType : EventType)
    (payload : EventPayload) (clock : Instant) : Op TaskRun := do
  let updated ← transitionTaskRunState run.id run.revision (progress.of run.toExecutionState) clock
  recordEvent updated updated.toExecutionState eventType none none payload
  pure updated

/-- A Unit that is already there stays as it is. -/
def transitionUnit (run : TaskRun) (unit : ExecutionUnit) (progress : Progress)
    (eventType : EventType) (payload : EventPayload) (clock : Instant) : Op ExecutionUnit :=
  if unit.lifecycle = progress.lifecycle ∧ unit.quality = progress.quality then pure unit
  else do
    let updated ← transitionExecutionUnitState run.id unit.id unit.revision
      (progress.of unit.toExecutionState) clock
    recordEvent run updated.toExecutionState eventType (some unit.id) none payload
    pure updated

def transitionAttempt (run : TaskRun) (unit : ExecutionUnit) (attempt : UnitAttempt)
    (progress : Progress) (eventType : EventType) (payload : EventPayload) (clock : Instant) :
    Op UnitAttempt :=
  if attempt.lifecycle = progress.lifecycle ∧ attempt.quality = progress.quality then pure attempt
  else do
    let updated ← transitionUnitAttemptState run.id unit.id attempt.id attempt.revision
      (progress.of attempt.toExecutionState) clock
    recordEvent run updated.toExecutionState eventType (some unit.id) (some attempt.id) payload
    pure updated

/-! Results. -/

/-- `[A-Z][A-Z0-9_]{0,63}` -/
def safeErrorCode (code : String) : Bool := matchesCode 0 63 code

def safeErrorCodeDefault : String := "TASK_ATTEMPT_RESULT_UNSEALED"

/-- The code itself, when it is a safe one. -/
def safeCode (errorCode : Option String) : Option String := errorCode.filter safeErrorCode

/-- Between one second and one hour, when it is given. -/
def retryAfterValid (retryAfterSeconds : Option ℕ) : Bool :=
  ∀ r ∈ retryAfterSeconds, 1 ≤ r ∧ r ≤ 3600

def closureSourceStatus : AttemptStatus → Option AttemptClosureSourceStatus
  | .finishedUnsealed => some .finishedUnsealed
  | .failed => some .failed
  | .infraError => some .infraError
  | .inconclusive => some .inconclusive
  | .canceled => some .canceled
  | .passed => none

/-- A projection error becomes a worker error. -/
def projectionToWorker : Fault → Fault
  | .projection code => .worker code
  | fault => fault

/-- `_close_attempt_result_without_seal` -/
def closeAttemptResultWithoutSeal (unit : ExecutionUnit) (attempt : UnitAttempt)
    (sourceStatus : AttemptStatus) (closureReason : String) (createdAt : Instant) : Op Unit := do
  let status ← demand (closureSourceStatus sourceStatus) (.worker "RESULT_CLOSURE_STATUS_INVALID")
  let _ ← rethrow projectionToWorker
    (closeWithoutSeal H unit attempt status closureReason createdAt)
  pure ()

/-- `project_unit` of the hygiene projection -/
def projectUnit (unit : ExecutionUnit) (createdAt : Instant) : Op Unit := do
  let projected ← read fun db => P db unit createdAt
  match projected with
  | .error code => raise (.projection code)
  | .ok none => pure ()
  | .ok (some revision) =>
    update fun db => { db with hygieneResolutions := db.hygieneResolutions ++ [revision] }

/-- `_resolve_unit_result` -/
def resolveUnitResult (unit : ExecutionUnit) (createdAt : Instant) : Op Unit :=
  rethrow projectionToWorker do
    let _ ← resolveUnit H unit createdAt
    projectUnit P unit createdAt

/-- `_attempt_result_payload` -/
def attemptResultPayload (status : AttemptStatus) (errorCode : Option String)
    (retryAfterSeconds : Option ℕ) (resultRefId : Option Uuid) (sealContentHash : Option Digest) :
    Op EventPayload := do
  raiseIf (∃ code ∈ errorCode, !safeErrorCode code) (.worker "TASK_ATTEMPT_ERROR_CODE_INVALID")
  raiseIf (!retryAfterValid retryAfterSeconds) (.worker "TASK_ATTEMPT_RETRY_AFTER_INVALID")
  raiseIf (status = .passed ∧ resultRefId = none ∧ sealContentHash = none)
    (.worker "TASK_RESULT_REF_MISSING")
  raiseIf (¬ (resultRefId = none ↔ sealContentHash = none)) (.worker "TASK_RESULT_REF_INVALID")
  pure (.attemptResult ⟨status, errorCode, retryAfterSeconds, resultRefId, sealContentHash⟩)

/-- `_attempt_result_events` -/
def attemptResultEvents (events : List TaskExecutionEvent) (unit : ExecutionUnit)
    (attempt : UnitAttempt) : List TaskExecutionEvent :=
  events.filter fun e => e.eventType = .attemptFinalized ∧ e.taskRunId = attempt.taskRunId ∧
    e.executionUnitId = some unit.id ∧ e.unitAttemptId = some attempt.id

/-- A stored result is one that `attemptResultPayload` writes for an Attempt without a Seal. -/
def storedResultValid (event : TaskExecutionEvent) (attempt : UnitAttempt)
    (result : AttemptResultPayload) : Bool :=
  event.tenantId = attempt.tenantId ∧ event.projectId = attempt.projectId ∧
    event.lifecycle = .finalizing ∧ result.status ≠ .passed ∧
    retryAfterValid result.retryAfterSeconds ∧ (∀ code ∈ result.errorCode, safeErrorCode code) ∧
    result.resultRefId = none ∧ result.sealContentHash = none

/-- `_stored_attempt_result_event` -/
def storedAttemptResultEvent (events : List TaskExecutionEvent) (unit : ExecutionUnit)
    (attempt : UnitAttempt) : Op (ExecutionQuality × AttemptResultPayload) :=
  match attemptResultEvents events unit attempt with
  | [event] =>
    match event.payload with
    | .attemptResult result => do
      raiseIf (!storedResultValid event attempt result) (.worker "TASK_ATTEMPT_RESULT_CONFLICT")
      pure (event.quality, result)
    | _ => raise (.worker "TASK_ATTEMPT_RESULT_CONFLICT")
  | _ => raise (.worker "TASK_ATTEMPT_RESULT_CONFLICT")

/-- `_require_exact_attempt_result_event` -/
def requireExactAttemptResultEvent (events : List TaskExecutionEvent) (unit : ExecutionUnit)
    (attempt : UnitAttempt) (quality : ExecutionQuality) (status : AttemptStatus)
    (errorCode : Option String) (retryAfterSeconds : Option ℕ) : Op Unit := do
  let (storedQuality, stored) ← storedAttemptResultEvent events unit attempt
  raiseIf (storedQuality ≠ quality ∨ stored.status ≠ status ∨ stored.errorCode ≠ errorCode ∨
      stored.retryAfterSeconds ≠ retryAfterSeconds)
    (.worker "TASK_ATTEMPT_RESULT_CONFLICT")

/-- `_outcome_quality` -/
def outcomeQuality : AttemptStatus → ExecutionQuality
  | .passed => .passed
  | .failed => .failed
  | .canceled => .canceled
  | .infraError => .infraError
  | .finishedUnsealed => .inconclusive
  | .inconclusive => .inconclusive

/-- `_safe_outcome_error_code` -/
def safeOutcomeErrorCode (outcome : TaskAttemptWorkflowPayload) : Option String :=
  (safeCode outcome.errorCode).or <| match outcome.status with
    | .failed => some "TASK_ATTEMPT_WORKFLOW_FAILED"
    | .canceled => some "TASK_ATTEMPT_WORKFLOW_CANCELED"
    | .infraError => some "TASK_INFRA_ERROR"
    | .finishedUnsealed => some safeErrorCodeDefault
    | .passed => none
    | .inconclusive => some "TASK_ATTEMPT_WORKFLOW_INCONCLUSIVE"

/-! Sealed results. -/

/-- `_sealed_workflow_status` -/
def sealedWorkflowStatus : Verdict → AttemptStatus
  | .passed => .passed
  | .failed => .failed
  | .pending | .inconclusive | .notEvaluated => .inconclusive

/-- `_sealed_quality` -/
def sealedQuality (verdict : Verdict) : ExecutionQuality :=
  outcomeQuality (sealedWorkflowStatus verdict)

/-- `_sealed_error_code` -/
def sealedErrorCode (fact : AttemptSeal) : Option String :=
  if fact.oracleVerdict = .passed then none
  else if safeErrorCode fact.closureReason then some fact.closureReason
  else some "TASK_SEALED_OUTCOME"

/-- `_require_exact_sealed_attempt`; the supplied reference is compared when `required`. -/
def requireExactSealedAttempt (attempt : UnitAttempt) (fact : AttemptSeal) (ref : ResultRef)
    (suppliedResultRefId : Option Uuid) (suppliedContentHash : Option Digest) (required : Bool) :
    Op Unit := do
  raiseIf (attempt.lifecycle ≠ .closed ∨ attempt.quality ≠ sealedQuality fact.oracleVerdict ∨
      fact.toUnitScope ≠ attempt.toUnitScope ∨ fact.unitAttemptId ≠ attempt.id ∨
      ref.tenantId ≠ fact.tenantId ∨ ref.projectId ≠ fact.projectId ∨
      ref.taskRunId ≠ fact.taskRunId ∨ ref.executionUnitId ≠ fact.executionUnitId ∨
      ref.unitAttemptId ≠ fact.unitAttemptId ∨ ref.sealId ≠ fact.sealId ∨
      ref.sealContentHash ≠ fact.contentHash)
    (.worker "TASK_SEALED_RESULT_CONFLICT")
  raiseIf (required ∧
      (suppliedResultRefId ≠ some ref.id ∨ suppliedContentHash ≠ some fact.contentHash))
    (.worker "TASK_RESULT_REF_CONFLICT")

/-- `_load_exact_sealed_outcome` -/
def loadExactSealedOutcome (attempt : UnitAttempt) (status : AttemptStatus)
    (errorCode : Option String) (retryAfterSeconds : Option ℕ) (resultRefId : Option Uuid)
    (sealContentHash : Option Digest) : Op (Option (AttemptSeal × ResultRef)) := do
  let found ← read fun db => db.getSealByAttempt attempt.id
  match found with
  | none => do
    raiseIf (resultRefId ≠ none ∨ sealContentHash ≠ none ∨ status = .passed)
      (.worker "TASK_RESULT_REF_MISSING")
    pure none
  | some fact => do
    let foundRef ← read fun db => db.getRefByAttempt attempt.id
    let ref ← demand foundRef (.worker "TASK_RESULT_REF_MISSING")
    requireExactSealedAttempt attempt fact ref resultRefId sealContentHash true
    raiseIf (status ≠ sealedWorkflowStatus fact.oracleVerdict ∨
        errorCode ≠ sealedErrorCode fact ∨ retryAfterSeconds ≠ none)
      (.worker "TASK_SEALED_RESULT_CONFLICT")
    pure (some (fact, ref))

end Atlas.Service
