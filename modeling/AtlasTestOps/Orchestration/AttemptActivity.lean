import AtlasTestOps.Core.Contracts
import AtlasTestOps.Orchestration.Payloads

/-! What the child Workflow of one Attempt accepts at its Activity boundary: the outcome of an execution,
and the result that the database answers for it. -/

namespace Atlas.Orchestration

open Atlas Atlas.Task

/-- `_is_safe_error_code` -/
def isSafeErrorCode (value : Option String) : Bool := value.all (matchesCode 0 63)

/-- Nothing, or between one second and one hour for an infrastructure error. -/
def isRetryAfter (infraError : Bool) (retryAfterSeconds : Option ℕ) : Bool :=
  retryAfterSeconds.all fun r => infraError ∧ 1 ≤ r ∧ r ≤ 3600

/-- `_validate_execution_payload` -/
def validExecutionPayload (payload : TaskAttemptExecutionPayload) : Bool :=
  isSafeErrorCode payload.errorCode ∧
    isRetryAfter (payload.status = .infraError) payload.retryAfterSeconds ∧
    (if payload.status = .resultFinalized then
      payload.errorCode = none ∧ payload.retryAfterSeconds = none ∧ payload.resultRefId ≠ none ∧
        payload.sealContentHash ≠ none
    else payload.resultRefId = none ∧ payload.sealContentHash = none)

/-- `_validate_attempt_result_identity` -/
def validAttemptResultIdentity (request : UnitAttemptWorkflowInput) (result : TaskAttemptWorkflowPayload) :
    Bool :=
  result.executionUnitId = request.executionUnitId ∧ result.unitAttemptId = request.unitAttemptId ∧
    result.ordinal = request.ordinal ∧ isSafeErrorCode result.errorCode ∧
    (result.resultRefId = none ↔ result.sealContentHash = none) ∧
    isRetryAfter (result.status = .infraError) result.retryAfterSeconds

/-- The status that the database must answer for an execution without a Seal. -/
def expectedStatus : TaskAttemptExecutionStatus → Option AttemptStatus
  | .executedUnsealed => some .finishedUnsealed
  | .failed => some .failed
  | .infraError => some .infraError
  | .inconclusive => some .inconclusive
  | .canceled => some .canceled
  | .resultFinalized => none

/-- `_validate_attempt_result` -/
def validAttemptResult (request : UnitAttemptWorkflowInput) (result : TaskAttemptWorkflowPayload)
    (execution : TaskAttemptExecutionPayload) : Bool :=
  validAttemptResultIdentity request result ∧
    if result.resultRefId ≠ none then
      result.status ∈ [.passed, .failed, .inconclusive] ∧ result.sealContentHash ≠ none ∧
        result.retryAfterSeconds = none ∧
        (execution.status = .resultFinalized →
          result.resultRefId = execution.resultRefId ∧ result.sealContentHash = execution.sealContentHash)
    else
      expectedStatus execution.status = some result.status ∧
        result.retryAfterSeconds = execution.retryAfterSeconds

end Atlas.Orchestration
