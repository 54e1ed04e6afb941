import AtlasTestOps.Service.Attempts

/-! Settling a batch of finished Attempts: each Unit is closed, or gets an exact
infrastructure retry within the frozen policy of the Run. -/

namespace Atlas.Service

open Atlas Atlas.Task Atlas.Result Atlas.Store Atlas.Orchestration Txn

variable (H : ResultHashes) (unitRetryAttemptId : Uuid → ℕ → Uuid)

/-- The result that the Root reports for one child, as the database compares it. -/
structure ChildResult where
  quality : ExecutionQuality
  status : AttemptStatus
  errorCode : Option String
  retryAfterSeconds : Option ℕ
  resultRefId : Option Uuid
  sealContentHash : Option Digest
deriving DecidableEq, Repr

def childResult (outcome : TaskAttemptWorkflowPayload) : ChildResult where
  quality := outcomeQuality outcome.status
  status := outcome.status
  errorCode := safeOutcomeErrorCode outcome
  retryAfterSeconds := outcome.retryAfterSeconds
  resultRefId := outcome.resultRefId
  sealContentHash := outcome.sealContentHash

/-! A missing child acknowledgement. -/

/-- `_RECONCILABLE_LIFECYCLES` -/
def reconcilable : ExecutionLifecycle → Bool
  | .queued | .running | .pauseRequested | .paused | .canceling | .finalizing => true
  | .closed => false

/-- The sealed outcome of a closed Attempt. -/
def sealedOutcome (attempt : UnitAttempt) (r : ChildResult) :
    Op (Option (AttemptSeal × ResultRef)) :=
  if attempt.lifecycle = .closed then
    loadExactSealedOutcome attempt r.status r.errorCode r.retryAfterSeconds r.resultRefId
      r.sealContentHash
  else pure none

/-- A closed Attempt without a Seal has the reported result and its closure notice. -/
def requireUnsealedResult (unit : ExecutionUnit) (attempt : UnitAttempt) (r : ChildResult)
    (events : List TaskExecutionEvent) (now : Instant) : Op Unit := do
  requireExactAttemptResultEvent events unit attempt r.quality r.status r.errorCode
    r.retryAfterSeconds
  closeAttemptResultWithoutSeal H unit attempt r.status (r.errorCode.getD safeErrorCodeDefault) now

/-- The open Attempt is finalized once with the payload, then closed without a Seal. -/
def reconcileOpenAttempt (run : TaskRun) (unit : ExecutionUnit) (attempt : UnitAttempt)
    (r : ChildResult) (payload : EventPayload) (events : List TaskExecutionEvent)
    (now clock : Instant) : Op Unit := do
  let attempt ←
    if attempt.lifecycle = .finalizing ∧ attemptResultEvents events unit attempt ≠ [] then do
      requireExactAttemptResultEvent events unit attempt r.quality r.status r.errorCode
        r.retryAfterSeconds
      pure attempt
    else
      transitionAttempt run unit attempt
        (finalizedNow attempt.toExecutionState r.quality (attempt.finalizedAt.getD now))
        .attemptFinalized payload clock
  let attempt ← transitionAttempt run unit attempt
    (closedNow attempt.toExecutionState r.quality (attempt.closedAt.getD now))
    .attemptClosed .empty clock
  closeAttemptResultWithoutSeal H unit attempt r.status (r.errorCode.getD safeErrorCodeDefault) now

/-- The Unit is finalized once with the payload, then closed. A Unit that was finalized
without a time closes with the time in `missing`, if there is one. -/
def closeUnit (run : TaskRun) (unit : ExecutionUnit) (quality : ExecutionQuality)
    (payload : EventPayload) (finalizedAt : Instant) (missing : Option Instant)
    (now clock : Instant) : Op Unit := do
  raiseIf (unit.lifecycle = .finalizing ∧ unit.quality ≠ .pending ∧ unit.quality ≠ quality)
    (.worker "TASK_ATTEMPT_RESULT_CONFLICT")
  let unit ←
    if unit.lifecycle = .finalizing then pure unit
    else
      transitionUnit run unit (finalizedNow unit.toExecutionState quality finalizedAt)
        .unitFinalized payload clock
  let closed := { closedNow unit.toExecutionState quality (unit.closedAt.getD now) with
    finalizedAt := unit.finalizedAt.or missing }
  let _ ← transitionUnit run unit closed .unitClosed .empty clock
  pure ()

/-- `_reconcile_attempt_chain` -/
def reconcileAttemptChain (run : TaskRun) (unit : ExecutionUnit) (attempt : UnitAttempt)
    (r : ChildResult) (events : List TaskExecutionEvent) (now clock : Instant) : Op Unit := do
  let fact ← sealedOutcome attempt r
  raiseIf (r.quality = .pending ∨ (r.quality = .passed ∧ fact = none))
    (.worker "TASK_ATTEMPT_RESULT_INVALID")
  if attempt.lifecycle = .closed ∧ fact = none then
    requireUnsealedResult H unit attempt r events now
  else pure ()
  if unit.lifecycle = .closed then
    raiseIf (attempt.lifecycle ≠ .closed ∨ unit.quality ≠ r.quality ∨ attempt.quality ≠ r.quality)
      (.worker "TASK_ATTEMPT_RESULT_CONFLICT")
  else do
    raiseIf ((unit.quality ≠ .pending ∧ unit.quality ≠ r.quality) ∨
        (attempt.quality ≠ .pending ∧ attempt.quality ≠ r.quality))
      (.worker "TASK_ATTEMPT_RESULT_CONFLICT")
    raiseIf (!reconcilable unit.lifecycle ∨
        (!reconcilable attempt.lifecycle ∧ attempt.lifecycle ≠ .closed))
      (.worker "TASK_ATTEMPT_RESULT_CONFLICT")
    let payload ← attemptResultPayload r.status r.errorCode r.retryAfterSeconds r.resultRefId
      r.sealContentHash
    if attempt.lifecycle ≠ .closed then
      reconcileOpenAttempt H run unit attempt r payload events now clock
    else raiseIf (attempt.quality ≠ r.quality) (.worker "TASK_ATTEMPT_RESULT_CONFLICT")
    closeUnit run unit r.quality payload (unit.finalizedAt.getD now) none now clock

/-! Retries. -/

/-- `_can_retry_attempt` -/
def canRetryAttempt (outcome : TaskAttemptWorkflowPayload) (attempt : UnitAttempt)
    (policy : TaskRetryPolicy) (retryCount : ℕ) (now : Instant) : Bool :=
  outcome.status = .infraError ∧ attempt.attemptNumber ≤ policy.infraRetryAttempts ∧
    retryCount < policy.maxTotalInfraRetries ∧ now < attempt.executionDeadline

/-- The quotient by 100, rounded to the nearest integer and to the even one of two. -/
def roundPercent (n : ℕ) : ℕ :=
  if n % 100 < 50 then n / 100
  else if 50 < n % 100 then n / 100 + 1
  else n / 100 + n / 100 % 2

/-- `_retry_delay_seconds` -/
def retryDelaySeconds (unit : ExecutionUnit) (attempt : UnitAttempt) (policy : TaskRetryPolicy)
    (retryAfterSeconds : Option ℕ) : ℕ :=
  let base := min policy.maximumBackoffSeconds
    (policy.initialBackoffSeconds * 2 ^ (attempt.attemptNumber - 1))
  let jitter := policy.jitterPercent
  let base := if jitter = 0 then base
    else
      let stableSeed := unitRetryAttemptId unit.id (attempt.attemptNumber + 1)
      -- One hundred percent and the offset, which lies between the jitter and its negative.
      max 1 (roundPercent (base * (100 + stableSeed % (2 * jitter + 1) - jitter)))
  min 3600 (max base (retryAfterSeconds.getD 0))

/-- `_retry_dispatch_payload` -/
def retryDispatchPayload (tenantId : Uuid) (unit : ExecutionUnit) (attempt : UnitAttempt)
    (now : Instant) : Op TaskUnitDispatchPayload := do
  raiseIf (attempt.attemptNumber ≤ 1 ∨
      attempt.temporalWorkflowId ≠ some (unitAttemptWorkflowId tenantId attempt.id) ∨
      attempt.lifecycle ≠ .queued ∨ attempt.quality ≠ .pending ∨
      attempt.executionUnitId ≠ unit.id)
    (.worker "TASK_RETRY_ATTEMPT_INVALID")
  let remainingSeconds := (attempt.executionDeadline - max now attempt.queuedAt) / 1000000
  raiseIf (remainingSeconds = 0) (.worker "TASK_RETRY_DEADLINE_EXPIRED")
  pure
    { ordinal := unit.ordinal
      executionUnitId := attempt.executionUnitId
      unitAttemptId := attempt.id
      unitAttemptWorkflowId := unitAttemptWorkflowId tenantId attempt.id
      notBefore := attempt.queuedAt
      executionDeadline := attempt.executionDeadline
      activityTimeoutSeconds := min 3600 (max 1 remainingSeconds) }

/-- The next Attempt of the Unit, queued until its backoff has passed. -/
def retryAttempt (tenantId : Uuid) (unit : ExecutionUnit) (attempt : UnitAttempt)
    (notBefore now : Instant) : UnitAttempt :=
  let nextNumber := attempt.attemptNumber + 1
  let nextId := unitRetryAttemptId unit.id nextNumber
  { attempt.toUnitScope with
    id := nextId
    caseVersionId := attempt.caseVersionId
    attemptNumber := nextNumber
    lifecycle := .queued
    quality := .pending
    hygiene := .notRequired
    startedAt := none
    finalizedAt := none
    cleanupResolvedAt := none
    closedAt := none
    temporalNamespace := attempt.temporalNamespace
    temporalWorkflowId := some (unitAttemptWorkflowId tenantId nextId)
    queuedAt := notBefore
    executionDeadline := attempt.executionDeadline
    revision := 1
    createdAt := now
    updatedAt := now }

def scheduleRetry (tenantId : Uuid) (run : TaskRun) (unit : ExecutionUnit) (attempt : UnitAttempt)
    (errorCode : Option String) (notBefore now : Instant) : Op TaskUnitDispatchPayload := do
  let retry ← createAttempt (retryAttempt unitRetryAttemptId tenantId unit attempt notBefore now)
  -- The event is about the Unit, and carries the time of the Unit's own last change.
  recordEvent run unit.toExecutionState .attemptRetryScheduled (some unit.id) none
    (.retryScheduled retry.id attempt.id retry.attemptNumber retry.queuedAt errorCode)
  retryDispatchPayload tenantId unit retry now

/-! The batch. -/

/-- What became of one outcome: the Unit is final, or a retry is to be dispatched. -/
inductive Settled
  | final
  | retry (payload : TaskUnitDispatchPayload) (created : Bool)
deriving DecidableEq, Repr

/-- `_close_unit_after_attempt` -/
def closeUnitAfterAttempt (run : TaskRun) (unit : ExecutionUnit)
    (outcome : TaskAttemptWorkflowPayload) (now clock : Instant) : Op Settled := do
  let r := childResult outcome
  let payload ← attemptResultPayload r.status r.errorCode r.retryAfterSeconds r.resultRefId
    r.sealContentHash
  closeUnit run unit r.quality payload now (some now) now clock
  pure .final

/-- The Unit of a closed Attempt has no retry yet: schedule one, or close the Unit. -/
def retryOrClose (request : TaskAttemptBatchSettleInput) (run : TaskRun)
    (policy : Option TaskRetryPolicy) (retryCount : ℕ) (unit : ExecutionUnit)
    (attempt : UnitAttempt) (outcome : TaskAttemptWorkflowPayload) (now clock : Instant) :
    Op Settled :=
  match policy with
  | none => closeUnitAfterAttempt run unit outcome now clock
  | some policy =>
    let notBefore := now + seconds
      (retryDelaySeconds unitRetryAttemptId unit attempt policy outcome.retryAfterSeconds)
    if !request.cancelRequested && canRetryAttempt outcome attempt policy retryCount now &&
        decide (notBefore < attempt.executionDeadline) then do
      let payload ← scheduleRetry unitRetryAttemptId request.request.tenantId run unit attempt
        (safeOutcomeErrorCode outcome) notBefore now
      pure (.retry payload true)
    else closeUnitAfterAttempt run unit outcome now clock

/-- An Attempt that is already closed has exactly the reported result. -/
def requireClosedResult (unit : ExecutionUnit) (attempt : UnitAttempt) (r : ChildResult)
    (events : List TaskExecutionEvent) : Op Unit := do
  raiseIf (attempt.quality ≠ r.quality) (.worker "TASK_ATTEMPT_RESULT_CONFLICT")
  let fact ← loadExactSealedOutcome attempt r.status r.errorCode r.retryAfterSeconds r.resultRefId
    r.sealContentHash
  if fact = none then
    requireExactAttemptResultEvent events unit attempt r.quality r.status r.errorCode
      r.retryAfterSeconds
  else pure ()

/-- The body of the loop over the outcomes. -/
def settleOutcome (request : TaskAttemptBatchSettleInput) (run : TaskRun)
    (policy : Option TaskRetryPolicy) (events : List TaskExecutionEvent) (now clock : Instant)
    (retryCount : ℕ) (outcome : TaskAttemptWorkflowPayload) : Op Settled := do
  let foundUnit ← read fun db => db.getUnit outcome.executionUnitId
  let foundAttempt ← read fun db => db.getAttempt outcome.unitAttemptId
  let unit ← demand foundUnit (.worker "TASK_ATTEMPT_SCOPE_MISSING")
  let attempt ← demand foundAttempt (.worker "TASK_ATTEMPT_SCOPE_MISSING")
  requireExactAttempt unitRetryAttemptId request.request unit attempt outcome.ordinal
  raiseIf (attempt.id ≠ outcome.unitAttemptId ∨ unit.id ≠ outcome.executionUnitId)
    (.worker "TASK_ATTEMPT_BATCH_IDENTITY_INVALID")
  let r := childResult outcome
  if attempt.lifecycle ≠ .closed then do
    raiseIf (outcome.status ∉ [.inconclusive, .canceled]) (.worker "TASK_ATTEMPT_NOT_CLOSED")
    reconcileAttemptChain H run unit attempt r events now clock
    pure .final
  else do
    requireClosedResult unit attempt r events
    if unit.lifecycle = .closed then do
      raiseIf (unit.quality ≠ r.quality) (.worker "TASK_ATTEMPT_RESULT_CONFLICT")
      pure .final
    else do
      let existing ← read fun db => db.getAttemptByNumber unit.id (attempt.attemptNumber + 1)
      match existing with
      | some retry => do
        raiseIf (outcome.status ≠ .infraError) (.worker "TASK_RETRY_RESULT_CONFLICT")
        let payload ← retryDispatchPayload request.request.tenantId unit retry now
        pure (.retry payload false)
      | none =>
        retryOrClose unitRetryAttemptId request run policy retryCount unit attempt outcome now clock

/-- The loop over the outcomes, with the number of retries the Run has so far. -/
def settleOutcomes (request : TaskAttemptBatchSettleInput) (run : TaskRun)
    (policy : Option TaskRetryPolicy) (events : List TaskExecutionEvent) (now clock : Instant) :
    ℕ → List TaskAttemptWorkflowPayload →
      Op (List TaskUnitDispatchPayload × List TaskAttemptWorkflowPayload)
  | _, [] => pure ([], [])
  | retryCount, outcome :: outcomes => do
    let settled ←
      settleOutcome H unitRetryAttemptId request run policy events now clock retryCount outcome
    match settled with
    | .final => do
      let rest ← settleOutcomes request run policy events now clock retryCount outcomes
      pure (rest.1, outcome :: rest.2)
    | .retry payload created => do
      let rest ← settleOutcomes request run policy events now clock
        (if created then retryCount + 1 else retryCount) outcomes
      pure (payload :: rest.1, rest.2)

/-- The reply of a call that settles nothing. -/
def unsettled (state : TaskAttemptBatchSettleState) : TaskAttemptBatchSettlePayload :=
  ⟨state, [], []⟩

def settleable (lifecycle : ExecutionLifecycle) (cancelRequested : Bool) : Bool :=
  dispatchable lifecycle ||
    (cancelRequested && lifecycle ∈ [ExecutionLifecycle.pauseRequested, .paused, .canceling])

/-- `settle_attempt_batch` -/
def settleAttemptBatch (request : TaskAttemptBatchSettleInput) (now clock : Instant) :
    Op TaskAttemptBatchSettlePayload := do
  raiseIf (request.outcomes.length < 1 ∨ taskRunChildBatchSize < request.outcomes.length)
    (.worker "TASK_ATTEMPT_BATCH_SIZE_INVALID")
  raiseIf (¬ (request.outcomes.map fun o => o.ordinal).Nodup)
    (.worker "TASK_ATTEMPT_BATCH_DUPLICATE")
  let foundRun ← read fun db => db.getRun request.request.taskRunId
  let foundManifest ← read fun db => db.getManifest request.request.taskRunId
  let run ← requireExactRoot request.request foundRun (foundManifest.map fun m => m.manifestHash)
  if run.lifecycle ∈ [.pauseRequested, .paused] ∧ !request.cancelRequested then
    pure (unsettled .pauseRequested)
  else if run.lifecycle = .canceling ∧ !request.cancelRequested then
    pure (unsettled .cancelRequested)
  else do
    raiseIf (!settleable run.lifecycle request.cancelRequested)
      (.worker "TASK_RUN_NOT_DISPATCHABLE")
    let manifest ← demand foundManifest (.worker "TASK_RUN_MANIFEST_MISSING")
    let events ← read Db.events
    let retryCount ← read Db.countRetryAttempts
    let outcomes := request.outcomes.insertionSort fun a b => a.ordinal ≤ b.ordinal
    let settled ← settleOutcomes H unitRetryAttemptId request run manifest.retryPolicy events now
      clock retryCount outcomes
    pure ⟨.settled, settled.1, settled.2⟩

end Atlas.Service
