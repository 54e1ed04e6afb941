import AtlasTestOps.Service.FinishRun

/-! Closing a Run of more than 64 Units from the counts that the database projects. -/

namespace Atlas.Service

open Atlas Atlas.Task Atlas.Result Atlas.Store Atlas.Orchestration Txn

variable (H : ResultHashes)

structure TaskRunProjectedFinishInput where
  request : TaskRunWorkflowInput
  cancelRequested : Bool
  commands : List TaskRunCommandSignal
deriving DecidableEq, Repr

structure TaskRunCompletionProjection where
  totalUnits : ℕ
  closedUnits : ℕ
  totalAttempts : ℕ
  closedAttempts : ℕ
  finalizedEventCount : ℕ
  finalizedUnitCount : ℕ
  completedUnits : ℕ
  unsealedUnits : ℕ
  failedUnits : ℕ
  inconclusiveUnits : ℕ
  canceledUnits : ℕ
  skippedUnits : ℕ
  invalidEvents : ℕ
deriving DecidableEq, Repr

/-- The result in the payload of an `execution_unit.finalized` event. -/
def finalizedResult (event : TaskExecutionEvent) : Option AttemptResultPayload :=
  match event.payload with
  | .attemptResult result => some result
  | _ => none

def finalizedAs (event : TaskExecutionEvent) (statuses : List AttemptStatus) : Bool :=
  (finalizedResult event).any fun r => r.status ∈ statuses

/-- A Unit that was canceled before it was dispatched. -/
def finalizedSkipped (event : TaskExecutionEvent) : Bool :=
  (finalizedResult event).any fun r =>
    r.status = .canceled ∧ r.errorCode = some "TASK_RUN_CANCELED_BEFORE_DISPATCH"

def finalizedInvalid (event : TaskExecutionEvent) : Bool :=
  event.executionUnitId = none ||
    !(finalizedResult event).any fun r => event.quality = outcomeQuality r.status

/-- `get_completion_projection` -/
def getCompletionProjection (db : Db) (taskRunId : Uuid) : TaskRunCompletionProjection :=
  let units := db.units.filter fun u => u.taskRunId = taskRunId
  let attempts := db.attempts.filter fun a => a.taskRunId = taskRunId
  let finalized := db.events.filter fun e =>
    e.taskRunId = taskRunId ∧ e.eventType = .unitFinalized
  let count (p : TaskExecutionEvent → Bool) : ℕ := finalized.countP p
  { totalUnits := units.length
    closedUnits := units.countP fun u => u.lifecycle = .closed
    totalAttempts := attempts.length
    closedAttempts := attempts.countP fun a => a.lifecycle = .closed
    finalizedEventCount := finalized.length
    finalizedUnitCount := (finalized.filterMap fun e => e.executionUnitId).dedup.length
    completedUnits := count fun e => finalizedAs e [.passed, .finishedUnsealed]
    unsealedUnits := count fun e => finalizedAs e [.finishedUnsealed]
    failedUnits := count fun e => finalizedAs e [.failed]
    inconclusiveUnits := count fun e => finalizedAs e [.inconclusive, .infraError]
    canceledUnits := count fun e => finalizedAs e [.canceled] && !finalizedSkipped e
    skippedUnits := count finalizedSkipped
    invalidEvents := count finalizedInvalid }

/-- `_require_complete_projection` -/
def requireCompleteProjection (run : TaskRun) (projection : TaskRunCompletionProjection) :
    Op Unit :=
  let total := projection.totalUnits
  let classified := projection.completedUnits + projection.failedUnits +
    projection.inconclusiveUnits + projection.canceledUnits + projection.skippedUnits
  raiseIf (run.materializationState ≠ .sealed ∨ run.materializedUnitCount ≠ some total ∨
      run.materializedFirstAttemptCount ≠ some total ∨
      ¬ (maximumUnits < total ∧ total ≤ taskRunMaximumUnits) ∨
      projection.closedUnits ≠ total ∨ projection.totalAttempts < total ∨
      projection.closedAttempts ≠ projection.totalAttempts ∨
      projection.finalizedEventCount ≠ total ∨ projection.finalizedUnitCount ≠ total ∨
      projection.invalidEvents ≠ 0 ∨ projection.completedUnits < projection.unsealedUnits ∨
      classified ≠ total)
    (.worker "TASK_RUN_COMPLETION_PROJECTION_INCOMPLETE")

/-- `_projected_run_result` -/
def projectedRunResult (taskRunId : Uuid) (cancelRequested : Bool)
    (projection : TaskRunCompletionProjection) : RunResult where
  taskRunId := taskRunId
  status :=
    if cancelRequested ∨ projection.canceledUnits ≠ 0 ∨ projection.skippedUnits ≠ 0 then .canceled
    else if projection.failedUnits ≠ 0 then .failed
    else if projection.inconclusiveUnits ≠ 0 then .inconclusive
    else if projection.unsealedUnits ≠ 0 then .finishedUnsealed
    else .passed
  completedUnits := projection.completedUnits
  failedUnits := projection.failedUnits
  inconclusiveUnits := projection.inconclusiveUnits
  canceledUnits := projection.canceledUnits
  skippedUnits := projection.skippedUnits

/-- The states from which a large Run is finalized, or has been. -/
def projectedFinalizable (lifecycle : ExecutionLifecycle) : Bool :=
  lifecycle ∈ [.queued, .running, .canceling, .paused, .finalizing, .closed]

/-- `finish_partitioned_run` -/
def finishPartitionedRun (request : TaskRunProjectedFinishInput) (now clock : Instant) :
    Op RunResult := do
  let foundRun ← read fun db => db.getRun request.request.taskRunId
  let foundManifest ← read fun db => db.getManifest request.request.taskRunId
  let run ← requireExactRoot request.request foundRun (foundManifest.map fun m => m.manifestHash)
  let manifest ← demand foundManifest (.worker "TASK_ROOT_IDENTITY_MISMATCH")
  raiseIf (¬ ∃ n ∈ run.materializedUnitCount, maximumUnits < n)
    (.worker "TASK_PARTITIONED_RUN_REQUIRED")
  let run ← settleControlBeforeFinish run clock
  let cancelRequested := request.cancelRequested || run.lifecycle = .canceling
  let projection ← read fun db => getCompletionProjection db request.request.taskRunId
  requireCompleteProjection run projection
  let result := projectedRunResult request.request.taskRunId cancelRequested projection
  let ledger ← read Db.events
  let events := if run.lifecycle ∈ [.finalizing, .closed] then ledger else []
  raiseIf (!projectedFinalizable run.lifecycle) (.worker "TASK_RUN_NOT_FINALIZABLE")
  let run ← closeRun run events result now clock
  snapshotTaskResult H run manifest now
  applyFinishCommands true request.request request.commands cancelRequested result
  pure result

end Atlas.Service
