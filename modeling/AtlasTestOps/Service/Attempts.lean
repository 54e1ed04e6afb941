import AtlasTestOps.Service.Worker

/-! Starting and finishing one physical Attempt. -/

namespace Atlas.Service

open Atlas Atlas.Task Atlas.Result Atlas.Store Atlas.Orchestration Txn

variable (H : ResultHashes) (P : HygieneProjection) (unitRetryAttemptId : Uuid → ℕ → Uuid)

/-- What `admit_loaded_unit_in_transaction` decides from the tables of the dependencies. -/
inductive Admission
  | admitted
  | unsatisfied
  | raised (fault : Fault)
deriving DecidableEq, Repr

/-- `_require_dispatchable_attempt`: true for an exact infrastructure retry. -/
def dispatchableAttempt (db : Db) (unit : ExecutionUnit) (attempt : UnitAttempt) :
    Except String Bool :=
  if attempt.attemptNumber = 1 then
    if unit.lifecycle ≠ .queued then .error "TASK_ATTEMPT_NOT_QUEUED" else .ok false
  else if unit.lifecycle ≠ .running then .error "TASK_RETRY_UNIT_NOT_RUNNING"
  else if !(db.getAttemptByNumber unit.id (attempt.attemptNumber - 1)).any fun p =>
      p.lifecycle = .closed ∧ p.quality = .infraError then
    .error "TASK_RETRY_PREVIOUS_ATTEMPT_INVALID"
  else if !(db.listAttempts unit.id).getLast?.any fun latest => latest.id = attempt.id then
    .error "TASK_RETRY_ATTEMPT_NOT_LATEST"
  else .ok true

/-- `_require_exact_execution_ticket` -/
def requireExactExecutionTicket (request : UnitAttemptWorkflowInput) (run : TaskRun)
    (unit : ExecutionUnit) (attempt : UnitAttempt) (ticket : TaskUnitExecutionTicket) : Op Unit :=
  raiseIf (ticket.ticketDigest ≠ ticket.contentDigest ∨ ticket.tenantId ≠ run.tenantId ∨
      ticket.projectId ≠ run.projectId ∨ ticket.taskRunId ≠ run.id ∨
      ticket.executionUnitId ≠ unit.id ∨ ticket.unitAttemptId ≠ attempt.id ∨
      ticket.requestDigest ≠ request.requestDigest ∨ ticket.manifestHash ≠ run.manifestHash ∨
      ticket.ordinal ≠ unit.ordinal ∨ ticket.unitKey ≠ unit.unitKey ∨
      ticket.caseVersionId ≠ unit.caseVersionId ∨ ticket.attemptNumber ≠ attempt.attemptNumber ∨
      ticket.executionProfileVersionId ≠ unit.executionProfileVersionId ∨
      ticket.identityProfileVersionId ≠ unit.identityProfileVersionId ∨
      ticket.browserProfileVersionId ≠ unit.browserProfileVersionId ∨
      ticket.dataProfileVersionId ≠ unit.dataProfileVersionId ∨
      ticket.fixtureBlueprintVersionId ≠ unit.fixtureBlueprintVersionId ∨
      ticket.environmentId ≠ unit.environmentId ∨
      ticket.executionDeadline ≠ attempt.executionDeadline)
    (.worker "TASK_EXECUTION_TICKET_IDENTITY_MISMATCH")

/-- A Pause lets an Attempt through that already holds its ticket. -/
def pauseAuthorized (request : UnitAttemptWorkflowInput) (run : TaskRun) (unit : ExecutionUnit)
    (attempt : UnitAttempt) : Op Bool :=
  if run.lifecycle ≠ .pauseRequested then pure false
  else do
    let ticket ← read fun db => db.getTicketByAttempt attempt.id
    match ticket with
    | none => pure false
    | some ticket => do
      requireExactExecutionTicket request run unit attempt ticket
      pure true

/-- The reply of `start_attempt` for an Attempt that is closed. -/
def beginClosed (unit : ExecutionUnit) (attempt : UnitAttempt) : Op TaskAttemptBeginPayload :=
  if attempt.quality = .canceled then do
    let events ← read Db.events
    let (storedQuality, stored) ← storedAttemptResultEvent events unit attempt
    raiseIf (storedQuality ≠ .canceled ∨ stored.status ≠ .canceled)
      (.worker "TASK_ATTEMPT_RESULT_CONFLICT")
    pure ⟨.canceled, stored.errorCode⟩
  else pure ⟨.rejected, some "TASK_ATTEMPT_ALREADY_CLOSED"⟩

def startedNow (state : ExecutionState) (now : Instant) : Progress where
  lifecycle := .running
  quality := state.quality
  startedAt := some now
  finalizedAt := state.finalizedAt
  closedAt := state.closedAt

/-- The writes of `start_attempt`: the Run and the Unit start with their first Attempt. -/
def startChain (run : TaskRun) (unit : ExecutionUnit) (attempt : UnitAttempt) (retry : Bool)
    (now clock : Instant) : Op TaskAttemptBeginPayload := do
  let run ← if run.lifecycle = .queued then
      transitionRun run (startedNow run.toExecutionState now) .runStarted .empty clock
    else pure run
  let unit ← if retry then pure unit
    else transitionUnit run unit (startedNow unit.toExecutionState now) .unitStarted .empty clock
  let _ ← transitionAttempt run unit attempt (startedNow attempt.toExecutionState now)
    .attemptStarted .empty clock
  pure ⟨.ready, none⟩

/-- `start_attempt` -/
def startAttempt (request : UnitAttemptWorkflowInput) (admission : Admission)
    (now clock : Instant) : Op TaskAttemptBeginPayload := do
  let (run, unit, attempt) ←
    lockAttemptChain request.taskRunId request.executionUnitId request.unitAttemptId
  requireExactAttemptRequest unitRetryAttemptId request run unit attempt
  if attempt.lifecycle = .closed then beginClosed unit attempt
  else if attempt.lifecycle = .running then pure ⟨.ready, none⟩
  else if attempt.lifecycle = .finalizing then
    pure ⟨.rejected, some "TASK_ATTEMPT_ALREADY_FINALIZING"⟩
  else do
    let authorized ← pauseAuthorized request run unit attempt
    if !authorized && !dispatchable run.lifecycle then
      pure ⟨.canceled, some "TASK_RUN_NOT_DISPATCHABLE"⟩
    else do
      let retry ← read fun db => dispatchableAttempt db unit attempt
      match retry with
      | .error _ => pure ⟨.rejected, some "TASK_ATTEMPT_NOT_QUEUED"⟩
      | .ok retry =>
        if attempt.lifecycle ≠ .queued then pure ⟨.rejected, some "TASK_ATTEMPT_NOT_QUEUED"⟩
        else if attempt.executionDeadline ≤ now then
          pure ⟨.canceled, some "TASK_ATTEMPT_DEADLINE_EXPIRED"⟩
        else if authorized then startChain run unit attempt retry now clock
        else match admission with
          | .admitted => startChain run unit attempt retry now clock
          | .unsatisfied => pure ⟨.rejected, some "TASK_ADMISSION_REJECTED"⟩
          | .raised fault => raise fault

/-! Finishing. -/

/-- `_execution_outcome`: the quality, the status and the safe code of one execution. -/
def executionOutcome (execution : TaskAttemptExecutionPayload) :
    Op (ExecutionQuality × AttemptStatus × String) :=
  if execution.status = .resultFinalized then do
    raiseIf (execution.errorCode ≠ none ∨ execution.retryAfterSeconds ≠ none ∨
        execution.resultRefId = none ∨ execution.sealContentHash = none)
      (.worker "TASK_RESULT_REF_INVALID")
    pure (.inconclusive, .inconclusive, "TASK_RESULT_REF_MISSING")
  else do
    raiseIf (execution.resultRefId ≠ none ∨ execution.sealContentHash ≠ none)
      (.worker "TASK_RESULT_REF_UNEXPECTED")
    raiseIf (execution.retryAfterSeconds ≠ none ∧
        (execution.status ≠ .infraError ∨ !retryAfterValid execution.retryAfterSeconds))
      (.worker "TASK_ATTEMPT_RETRY_AFTER_INVALID")
    let code := safeCode execution.errorCode
    match execution.status with
    | .executedUnsealed =>
      pure (.inconclusive, .finishedUnsealed, code.getD safeErrorCodeDefault)
    | .failed => pure (.failed, .failed, code.getD "TASK_ATTEMPT_FAILED")
    | .infraError => pure (.infraError, .infraError, code.getD "TASK_INFRA_ERROR")
    | .inconclusive =>
      pure (.inconclusive, .inconclusive, code.getD "TASK_ATTEMPT_INCONCLUSIVE")
    | .canceled => pure (.canceled, .canceled, code.getD "TASK_ATTEMPT_CANCELED")
    | .resultFinalized => raise (.worker "TASK_ATTEMPT_RESULT_INVALID")

/-- `_attempt_payload` -/
def attemptPayload (request : UnitAttemptWorkflowInput) (status : AttemptStatus)
    (errorCode : Option String) (retryAfterSeconds : Option ℕ) (resultRefId : Option Uuid)
    (sealContentHash : Option Digest) : TaskAttemptWorkflowPayload where
  executionUnitId := request.executionUnitId
  unitAttemptId := request.unitAttemptId
  ordinal := request.ordinal
  status := status
  errorCode := errorCode
  retryAfterSeconds := retryAfterSeconds
  resultRefId := resultRefId
  sealContentHash := sealContentHash

/-- `_sealed_attempt_payload` -/
def sealedAttemptPayload (request : UnitAttemptWorkflowInput) (fact : AttemptSeal)
    (ref : ResultRef) : TaskAttemptWorkflowPayload :=
  attemptPayload request (sealedWorkflowStatus fact.oracleVerdict) (sealedErrorCode fact) none
    (some ref.id) (some fact.contentHash)

/-- A sealed Attempt answers its Seal, whatever the execution reported. -/
def finishSealed (request : TaskAttemptFinishInput) (unit : ExecutionUnit)
    (attempt : UnitAttempt) (fact : AttemptSeal) (now : Instant) :
    Op TaskAttemptWorkflowPayload := do
  let foundRef ← read fun db => db.getRefByAttempt attempt.id
  let ref ← demand foundRef (.worker "TASK_RESULT_REF_MISSING")
  requireExactSealedAttempt attempt fact ref request.execution.resultRefId
    request.execution.sealContentHash (request.execution.status = .resultFinalized)
  resolveUnitResult H P unit now
  pure (sealedAttemptPayload request.attempt fact ref)

def finalizedNow (state : ExecutionState) (quality : ExecutionQuality) (at' : Instant) :
    Progress where
  lifecycle := .finalizing
  quality := quality
  startedAt := state.startedAt
  finalizedAt := some at'
  closedAt := none

def closedNow (state : ExecutionState) (quality : ExecutionQuality) (at' : Instant) :
    Progress where
  lifecycle := .closed
  quality := quality
  startedAt := state.startedAt
  finalizedAt := state.finalizedAt
  closedAt := some at'

/-- The Attempt on its way to close: it is finalized once, with the payload of its result. -/
def finalizeAttempt (run : TaskRun) (unit : ExecutionUnit) (attempt : UnitAttempt)
    (quality : ExecutionQuality) (status : AttemptStatus) (code : String)
    (retryAfterSeconds : Option ℕ) (now clock : Instant) : Op UnitAttempt :=
  let finalize (at' : Instant) : Op UnitAttempt := do
    let payload ← attemptResultPayload status (some code) retryAfterSeconds none none
    transitionAttempt run unit attempt (finalizedNow attempt.toExecutionState quality at')
      .attemptFinalized payload clock
  if attempt.lifecycle = .finalizing then do
    raiseIf (attempt.quality ≠ .pending ∧ attempt.quality ≠ quality)
      (.worker "TASK_ATTEMPT_RESULT_CONFLICT")
    let events ← read Db.events
    if attemptResultEvents events unit attempt ≠ [] then do
      requireExactAttemptResultEvent events unit attempt quality status (some code)
        retryAfterSeconds
      pure attempt
    else finalize (attempt.finalizedAt.getD now)
  else finalize now

/-- `finish_attempt` -/
def finishAttempt (request : TaskAttemptFinishInput) (now clock : Instant) :
    Op TaskAttemptWorkflowPayload := do
  let (run, unit, attempt) ← lockAttemptChain request.attempt.taskRunId
    request.attempt.executionUnitId request.attempt.unitAttemptId
  requireExactAttemptRequest unitRetryAttemptId request.attempt run unit attempt
  let accepted ← read fun db => db.getSealByAttempt attempt.id
  match accepted with
  | some fact => finishSealed H P request unit attempt fact now
  | none => do
    let (quality, status, code) ← executionOutcome request.execution
    let retryAfter := request.execution.retryAfterSeconds
    if attempt.lifecycle = .closed then do
      raiseIf (attempt.quality ≠ quality) (.worker "TASK_ATTEMPT_RESULT_CONFLICT")
      let events ← read Db.events
      requireExactAttemptResultEvent events unit attempt quality status (some code) retryAfter
      closeAttemptResultWithoutSeal H unit attempt status code now
    else do
      let attempt ← finalizeAttempt run unit attempt quality status code retryAfter now clock
      let closed ← transitionAttempt run unit attempt
        (closedNow attempt.toExecutionState quality now) .attemptClosed .empty clock
      closeAttemptResultWithoutSeal H unit closed status code now
    pure (attemptPayload request.attempt status (some code) retryAfter none none)

end Atlas.Service
