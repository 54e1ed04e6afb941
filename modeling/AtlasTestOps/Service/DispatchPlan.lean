import AtlasTestOps.Lib.Paging
import AtlasTestOps.Orchestration.TaskRoot
import AtlasTestOps.Service.Worker

/-! `load_dispatch_plan`: one page of Units with their first Attempts, as the Root asks for it. -/

namespace Atlas.Store

open Atlas Atlas.Task

namespace Db

variable (db : Db)

/-- `list_units_page` -/
def listUnitsPage (taskRunId : Uuid) (afterOrdinal limit : ℕ) : List ExecutionUnit :=
  Paging.page (fun u v => toLex (u.ordinal, u.id) ≤ toLex (v.ordinal, v.id)) (·.ordinal)
    afterOrdinal limit (db.units.filter fun u => u.taskRunId = taskRunId)

/-- The first Attempts of the Run, each with the Unit it joins. -/
def firstAttempts (taskRunId : Uuid) : List (ExecutionUnit × UnitAttempt) :=
  (db.attempts.filter fun a => a.taskRunId = taskRunId ∧ a.attemptNumber = 1).flatMap fun a =>
    (db.units.filter fun u => u.id = a.executionUnitId ∧ u.taskRunId = a.taskRunId ∧
      u.tenantId = a.tenantId ∧ u.projectId = a.projectId).map fun u => (u, a)

/-- `list_first_attempts_page` -/
def listFirstAttemptsPage (taskRunId : Uuid) (afterOrdinal limit : ℕ) : List UnitAttempt :=
  (Paging.page (fun p q => toLex (p.1.ordinal, p.2.id) ≤ toLex (q.1.ordinal, q.2.id))
    (·.1.ordinal) afterOrdinal limit (db.firstAttempts taskRunId)).map (·.2)

end Db

end Atlas.Store

namespace Atlas.Service

open Atlas Atlas.Task Atlas.Store Atlas.Orchestration Txn

variable (unitRetryAttemptId : Uuid → ℕ → Uuid)

def dispatchPlanLifecycles : List ExecutionLifecycle :=
  [.queued, .running, .pauseRequested, .paused, .canceling]

/-- The whole seconds from `now` to the deadline, within the limits of an Activity. -/
def activityTimeoutSeconds (deadline now : Instant) : ℕ :=
  min taskActivityMaximumSeconds (max 1 ((deadline - now) / 1000000))

def unitDispatch (request : TaskRunWorkflowInput) (unit : ExecutionUnit) (attempt : UnitAttempt)
    (now : Instant) : TaskUnitDispatchPayload where
  ordinal := unit.ordinal
  executionUnitId := unit.id
  unitAttemptId := attempt.id
  unitAttemptWorkflowId := unitAttemptWorkflowId request.tenantId attempt.id
  notBefore := attempt.queuedAt
  executionDeadline := attempt.executionDeadline
  activityTimeoutSeconds := activityTimeoutSeconds attempt.executionDeadline now

/-- The loop over the Units of the page; `attempt_by_unit` has one Attempt for each. -/
def unitDispatches (request : TaskRunWorkflowInput) (run : TaskRun) (attempts : List UnitAttempt)
    (now : Instant) : ℕ → List ExecutionUnit → Op (List TaskUnitDispatchPayload)
  | _, [] => pure []
  | expectedOrdinal, unit :: units => do
    let attempt ← demand (attempts.find? fun a => a.executionUnitId = unit.id)
      (.worker "TASK_FIRST_ATTEMPT_MISSING")
    requireExactAttempt unitRetryAttemptId request unit attempt expectedOrdinal
    raiseIf (attempt.temporalNamespace ≠ run.temporalNamespace)
      (.worker "TASK_ATTEMPT_NAMESPACE_MISMATCH")
    let dispatches ← unitDispatches request run attempts now (expectedOrdinal + 1) units
    pure (unitDispatch request unit attempt now :: dispatches)

/-- `load_dispatch_plan` -/
def loadDispatchPlan (request : TaskRunWorkflowInput) (now : Instant) :
    Op TaskDispatchPlanPayload := do
  let foundRun ← read fun db => db.getRun request.taskRunId
  let foundManifest ← read fun db => db.getManifest request.taskRunId
  let run ← requireExactRoot request foundRun (foundManifest.map (·.manifestHash))
  raiseIf (run.materializationState ≠ .sealed) (.worker "TASK_RUN_NOT_SEALED")
  raiseIf (run.lifecycle ∉ dispatchPlanLifecycles) (.worker "TASK_RUN_NOT_DISPATCHABLE")
  let totalUnits ← demand run.materializedUnitCount (.worker "TASK_MATERIALIZATION_INCOMPLETE")
  raiseIf (¬ (1 ≤ totalUnits ∧ totalUnits ≤ taskRunMaximumUnits) ∨
      run.materializedFirstAttemptCount ≠ some totalUnits ∨
      ¬ request.dispatchAfterOrdinal < totalUnits)
    (.worker "TASK_MATERIALIZATION_INCOMPLETE")
  let expectedPageSize := min taskRunDispatchPageSize (totalUnits - request.dispatchAfterOrdinal)
  let units ← read fun db =>
    db.listUnitsPage request.taskRunId request.dispatchAfterOrdinal taskRunDispatchPageSize
  let attempts ← read fun db =>
    db.listFirstAttemptsPage request.taskRunId request.dispatchAfterOrdinal
      taskRunDispatchPageSize
  raiseIf (units.length ≠ expectedPageSize ∨ attempts.length ≠ expectedPageSize)
    (.worker "TASK_MATERIALIZATION_INCOMPLETE")
  raiseIf (¬ (attempts.map (·.executionUnitId)).Nodup) (.worker "TASK_FIRST_ATTEMPT_DUPLICATE")
  let dispatches ← unitDispatches unitRetryAttemptId request run attempts now
    (request.dispatchAfterOrdinal + 1) units
  pure
    { tenantId := request.tenantId
      projectId := request.projectId
      taskRunId := request.taskRunId
      requestDigest := request.requestDigest
      manifestHash := request.manifestHash
      units := dispatches
      cancelRequested := run.lifecycle = .canceling
      afterOrdinal := request.dispatchAfterOrdinal
      totalUnits := some totalUnits
      hasMore := units.getLast?.any fun u => u.ordinal < totalUnits }

end Atlas.Service
