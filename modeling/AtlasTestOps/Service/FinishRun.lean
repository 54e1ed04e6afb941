import AtlasTestOps.Service.Settlement

/-! Closing a Run of at most 64 Units from the outcomes that its Root submits. -/

namespace Atlas.Service

open Atlas Atlas.Task Atlas.Result Atlas.Store Atlas.Orchestration Txn

variable (H : ResultHashes) (unitRetryAttemptId : Uuid → ℕ → Uuid)

def maximumUnits : ℕ := 64

/-! Control commands. -/

/-- A command that the dispatcher may still deliver. -/
def openCommand : TaskRunCommandStatus → Bool
  | .pending | .claimed | .retryWait | .delivered => true
  | .applied | .failed | .superseded => false

/-- `order by accepted_run_revision desc, created_at desc, id desc` -/
def newerCommand (c d : TaskRunCommandIntent) : Bool :=
  d.acceptedRunRevision < c.acceptedRunRevision ∨
    (c.acceptedRunRevision = d.acceptedRunRevision ∧
      (d.createdAt < c.createdAt ∨ (c.createdAt = d.createdAt ∧ d.id ≤ c.id)))

/-- `get_open_for_run` -/
def getOpenCommand (db : Db) : Option TaskRunCommandIntent :=
  ((db.commands.filter fun c => c.commandType ∈ [.pause, .resume] ∧ openCommand c.status).insertionSort
    fun c d => newerCommand c d = true).head?

/-- `get_pending_cancel_for_run` -/
def getPendingCancel (db : Db) : Option TaskRunCommandIntent :=
  ((db.commands.filter fun c => c.commandType = .cancel ∧ openCommand c.status).insertionSort
    fun c d => newerCommand c d = true).head?

/-- The statuses from which the database applies a command. -/
def applicable : TaskRunCommandType → TaskRunCommandStatus → Bool
  | .cancel, status => status ∈ [.claimed, .delivered]
  | .pause, status | .resume, status => openCommand status

/-- The Run state in which the database applies a command. -/
def appliesIn : TaskRunCommandType → ExecutionLifecycle × ExecutionQuality
  | .cancel => (.closed, .canceled)
  | .pause => (.paused, .pending)
  | .resume => (.running, .pending)

/-- The errors of the three apply functions: of the identity, of the status, of the Run. -/
def applyErrors : TaskRunCommandType → String × String × String
  | .cancel => ("Task command apply identity mismatch", "Task command is not deliverable",
      "Task command can apply only after canceled Run closure")
  | .pause => ("Task pause command identity mismatch", "Task pause command is not applicable",
      "Task pause command requires a paused Run")
  | .resume => ("Task resume command identity mismatch", "Task resume command is not applicable",
      "Task resume command requires a running Run")

/-- `apply_task_run_cancel_command` and its siblings for Pause and Resume -/
def applyCommand (commandType : TaskRunCommandType) (intentId : Uuid) (commandDigest : Digest) :
    Op Unit := do
  let found ← read fun db => db.commands.find? fun c => c.id = intentId
  let command ← demand found (.constraint "Task command is missing from the current tenant")
  raiseIf (command.commandType ≠ commandType ∨ command.commandDigest ≠ commandDigest)
    (.constraint (applyErrors commandType).1)
  if command.status = .applied then pure ()
  else do
    raiseIf (!applicable commandType command.status)
      (.constraint (applyErrors commandType).2.1)
    let run ← read Db.run
    raiseIf ((run.lifecycle, run.quality) ≠ appliesIn commandType)
      (.constraint (applyErrors commandType).2.2)
    update fun db => { db with
      commands := Table.modify (fun c => c.id) intentId (fun c => { c with status := .applied })
        db.commands }

/-- `_require_control_command` -/
def requireControlCommand (found : Option TaskRunCommandIntent)
    (commandType : TaskRunCommandType) : Op TaskRunCommandIntent := do
  let command ← demand found (.worker "TASK_CONTROL_COMMAND_STATE_CONFLICT")
  raiseIf (command.commandType ≠ commandType) (.worker "TASK_CONTROL_COMMAND_STATE_CONFLICT")
  pure command

def controlPayload (command : TaskRunCommandIntent) : EventPayload :=
  .control command.id command.commandType command.commandDigest command.acceptedRunRevision

/-- Move the Run to the state that a control command asks for and apply the command. -/
def settleControl (run : TaskRun) (command : TaskRunCommandIntent)
    (lifecycle : ExecutionLifecycle) (eventType : EventType) (clock : Instant) : Op TaskRun := do
  let run ← transitionRun run
    { lifecycle := lifecycle
      quality := run.quality
      startedAt := run.startedAt
      finalizedAt := run.finalizedAt
      closedAt := run.closedAt }
    eventType (controlPayload command) clock
  applyCommand command.commandType command.id command.commandDigest
  pure run

/-- `_settle_control_before_finish` -/
def settleControlBeforeFinish (run : TaskRun) (clock : Instant) : Op TaskRun :=
  if run.lifecycle ∉ [.pauseRequested, .paused] then pure run
  else do
    let run ←
      if run.lifecycle = .pauseRequested then do
        let found ← read getOpenCommand
        let command ← requireControlCommand found .pause
        settleControl run command .paused .runPaused clock
      else pure run
    let found ← read getOpenCommand
    match found with
    | none => pure run
    | some command => do
      let command ← requireControlCommand (some command) .resume
      settleControl run command .running .runResumed clock

/-- `_require_exact_finish_command` -/
def requireExactFinishCommand (request : TaskRunWorkflowInput) (command : TaskRunCommandSignal) :
    Op Unit :=
  raiseIf (command.schemaVersion ∉ [taskRunCommandSignalLegacySchema, taskRunCommandSignalSchema] ∨
      command.commandType ≠ .cancel ∨ command.acceptedRunRevision < 2 ∨
      command.tenantId ≠ request.tenantId ∨ command.projectId ≠ request.projectId ∨
      command.taskRunId ≠ request.taskRunId)
    (.worker "TASK_RUN_COMMAND_IDENTITY_INVALID")

/-- `_apply_finish_commands`. A projected finish, whose Root may have lost the Cancel over its
continuations, applies the one that is still open. -/
def applyFinishCommands (projected : Bool) (request : TaskRunWorkflowInput)
    (commands : List TaskRunCommandSignal) (cancelRequested : Bool) (result : RunResult) : Op Unit :=
  match commands with
  | [] =>
    if !projected ∨ result.status ≠ .canceled ∨ !cancelRequested then pure ()
    else do
      let pending ← read getPendingCancel
      match pending with
      | none => pure ()
      | some found => do
        let command ← requireControlCommand (some found) .cancel
        applyCommand .cancel command.id command.commandDigest
  | command :: rest => do
    raiseIf (result.status ≠ .canceled ∨ !cancelRequested)
      (.worker "TASK_RUN_COMMAND_RESULT_CONFLICT")
    raiseIf (rest ≠ []) (.worker "TASK_RUN_COMMAND_COUNT_INVALID")
    requireExactFinishCommand request command
    applyCommand .cancel command.commandId command.commandDigest

/-! The children. -/

/-- `list_attempts_for_run` of one Unit, by number -/
def attemptsOf (attempts : List UnitAttempt) (unit : ExecutionUnit) : List UnitAttempt :=
  (attempts.filter fun a => a.executionUnitId = unit.id).insertionSort fun a b =>
    a.attemptNumber ≤ b.attemptNumber

/-- The result of a Unit that the Root never dispatched. -/
def skippedResult : ChildResult where
  quality := .canceled
  status := .canceled
  errorCode := some "TASK_RUN_CANCELED_BEFORE_DISPATCH"
  retryAfterSeconds := none
  resultRefId := none
  sealContentHash := none

/-- A Unit that the Root reports, with its latest Attempt and the submitted result. The
result of a skipped Unit is none of the outcomes. -/
structure PlannedChild where
  unit : ExecutionUnit
  attempt : UnitAttempt
  result : ChildResult
  skipped : Bool
deriving DecidableEq, Repr

/-- Every Attempt of the Unit is exact and runs in the namespace of its Run. -/
def requireExactHistory (request : TaskRunWorkflowInput) (run : TaskRun) (unit : ExecutionUnit)
    (ordinal : ℕ) : List UnitAttempt → Op Unit
  | [] => pure ()
  | attempt :: attempts => do
    requireExactAttempt unitRetryAttemptId request unit attempt ordinal
    raiseIf (attempt.temporalNamespace ≠ run.temporalNamespace)
      (.worker "TASK_ATTEMPT_NAMESPACE_MISMATCH")
    requireExactHistory request run unit ordinal attempts

/-- The history of the Unit is gapless, exact and closed up to its latest Attempt. -/
def requireHistory (request : TaskRunWorkflowInput) (run : TaskRun) (unit : ExecutionUnit)
    (unitAttempts : List UnitAttempt) (ordinal : ℕ) : Op UnitAttempt := do
  let attempt ← demand unitAttempts.getLast? (.worker "TASK_FIRST_ATTEMPT_MISSING")
  raiseIf ((unitAttempts.map fun a => a.attemptNumber) ≠ List.range' 1 unitAttempts.length)
    (.worker "TASK_ATTEMPT_SEQUENCE_INVALID")
  requireExactHistory unitRetryAttemptId request run unit ordinal unitAttempts
  raiseIf (∃ a ∈ unitAttempts.dropLast, a.lifecycle ≠ .closed) (.worker "TASK_ATTEMPT_HISTORY_OPEN")
  pure attempt

/-- The submitted outcome names the Unit and its latest Attempt. -/
def namesChild (outcome : TaskAttemptWorkflowPayload) (unit : ExecutionUnit)
    (attempt : UnitAttempt) (ordinal : ℕ) : Bool :=
  outcome.ordinal = ordinal ∧ outcome.executionUnitId = unit.id ∧
    outcome.unitAttemptId = attempt.id

/-- The plan of one Unit; a Unit after the last outcome was skipped. -/
def planChild (request : TaskRunFinishInput) (run : TaskRun) (attempts : List UnitAttempt)
    (unit : ExecutionUnit) (ordinal : ℕ) : Op PlannedChild := do
  let unitAttempts := attemptsOf attempts unit
  let attempt ← requireHistory unitRetryAttemptId request.request run unit unitAttempts ordinal
  match request.outcomes[ordinal - 1]? with
  | some outcome => do
    raiseIf (!namesChild outcome unit attempt ordinal) (.worker "TASK_RUN_CHILD_IDENTITY_MISMATCH")
    pure ⟨unit, attempt, childResult outcome, false⟩
  | none => do
    raiseIf (unitAttempts.length ≠ 1) (.worker "TASK_RUN_SKIPPED_CHILD_CONFLICT")
    pure ⟨unit, attempt, skippedResult, true⟩

def planChildren (request : TaskRunFinishInput) (run : TaskRun) (attempts : List UnitAttempt) :
    ℕ → List ExecutionUnit → Op (List PlannedChild)
  | _, [] => pure []
  | ordinal, unit :: units => do
    let child ← planChild unitRetryAttemptId request run attempts unit ordinal
    let children ← planChildren request run attempts (ordinal + 1) units
    pure (child :: children)

/-- `_is_queued_or_closed_canceled` -/
def queuedOrClosedCanceled (unit : ExecutionUnit) (attempt : UnitAttempt) : Bool :=
  (unit.lifecycle = .queued ∧ attempt.lifecycle = .queued ∧ unit.quality = .pending ∧
      attempt.quality = .pending) ||
    (unit.lifecycle = .closed ∧ attempt.lifecycle = .closed ∧ unit.quality = .canceled ∧
      attempt.quality = .canceled)

def reconcileChild (request : TaskRunFinishInput) (run : TaskRun)
    (events : List TaskExecutionEvent) (now clock : Instant) (child : PlannedChild)
    (ordinal : ℕ) : Op Unit := do
  let foundUnit ← read fun db => db.getUnit child.unit.id
  let foundAttempt ← read fun db => db.getAttempt child.attempt.id
  let unit ← demand foundUnit (.worker "TASK_ATTEMPT_SCOPE_MISSING")
  let attempt ← demand foundAttempt (.worker "TASK_ATTEMPT_SCOPE_MISSING")
  requireExactAttempt unitRetryAttemptId request.request unit attempt ordinal
  raiseIf (attempt.temporalNamespace ≠ run.temporalNamespace)
    (.worker "TASK_ATTEMPT_NAMESPACE_MISMATCH")
  raiseIf (child.skipped ∧ !queuedOrClosedCanceled unit attempt)
    (.worker "TASK_RUN_SKIPPED_CHILD_CONFLICT")
  raiseIf (run.lifecycle = .closed ∧ (unit.lifecycle ≠ .closed ∨ attempt.lifecycle ≠ .closed))
    (.worker "TASK_RUN_CLOSED_WITH_OPEN_CHILD")
  reconcileAttemptChain H run unit attempt child.result events now clock

def reconcileChildren (request : TaskRunFinishInput) (run : TaskRun)
    (events : List TaskExecutionEvent) (now clock : Instant) : ℕ → List PlannedChild → Op Unit
  | _, [] => pure ()
  | ordinal, child :: children => do
    reconcileChild H unitRetryAttemptId request run events now clock child ordinal
    reconcileChildren request run events now clock (ordinal + 1) children

/-- `_reconcile_run_children` -/
def reconcileRunChildren (request : TaskRunFinishInput) (cancelRequested : Bool) (run : TaskRun)
    (units : List ExecutionUnit) (attempts : List UnitAttempt) (events : List TaskExecutionEvent)
    (now clock : Instant) : Op Unit := do
  raiseIf (run.materializationState ≠ .sealed ∨ units.length < 1 ∨ maximumUnits < units.length ∨
      attempts.length < units.length ∨ run.materializedUnitCount ≠ some units.length ∨
      run.materializedFirstAttemptCount ≠ some units.length ∨
      request.outcomes.length + request.skippedUnits ≠ units.length)
    (.worker "TASK_RUN_OUTCOME_COUNT_MISMATCH")
  raiseIf (request.skippedUnits ≠ 0 ∧ !cancelRequested)
    (.worker "TASK_RUN_UNITS_SKIPPED_WITHOUT_CANCEL")
  let planned ← planChildren unitRetryAttemptId request run attempts 1 units
  reconcileChildren H unitRetryAttemptId request run events now clock 1 planned

/-! The Run. -/

def countStatus (outcomes : List TaskAttemptWorkflowPayload) (status : AttemptStatus) : ℕ :=
  outcomes.countP fun o => o.status = status

/-- `_run_result` -/
def runResult (request : TaskRunFinishInput) (cancelRequested : Bool) : RunResult :=
  let passed := countStatus request.outcomes .passed
  let unsealed := countStatus request.outcomes .finishedUnsealed
  let failed := countStatus request.outcomes .failed
  let inconclusive := countStatus request.outcomes .inconclusive +
    countStatus request.outcomes .infraError
  let canceled := countStatus request.outcomes .canceled
  { taskRunId := request.request.taskRunId
    status :=
      if cancelRequested ∨ request.skippedUnits ≠ 0 ∨ canceled ≠ 0 then .canceled
      else if failed ≠ 0 then .failed
      else if inconclusive ≠ 0 then .inconclusive
      else if unsealed ≠ 0 then .finishedUnsealed
      else .passed
    completedUnits := passed + unsealed
    failedUnits := failed
    inconclusiveUnits := inconclusive
    canceledUnits := canceled
    skippedUnits := request.skippedUnits }

/-- `_run_quality` -/
def runQuality : RunStatus → ExecutionQuality
  | .passed => .passed
  | .failed => .failed
  | .canceled => .canceled
  | .finishedUnsealed | .inconclusive => .inconclusive

/-- `_run_result_events` -/
def runResultEvents (events : List TaskExecutionEvent) (run : TaskRun) : List TaskExecutionEvent :=
  events.filter fun e => e.eventType = .runFinalized ∧ e.taskRunId = run.id ∧
    e.executionUnitId = none ∧ e.unitAttemptId = none

/-- `_require_exact_run_result_event` -/
def requireExactRunResultEvent (events : List TaskExecutionEvent) (run : TaskRun)
    (result : RunResult) : Op Unit :=
  match runResultEvents events run with
  | [event] =>
    raiseIf (event.tenantId ≠ run.tenantId ∨ event.projectId ≠ run.projectId ∨
        event.lifecycle ≠ .finalizing ∨ event.quality ≠ runQuality result.status ∨
        event.payload ≠ .runResult result)
      (.worker "TASK_RUN_RESULT_CONFLICT")
  | _ => raise (.worker "TASK_RUN_RESULT_CONFLICT")

/-- `_snapshot_task_result` -/
def snapshotTaskResult (run : TaskRun) (manifest : TaskRunManifest) (createdAt : Instant) :
    Op Unit :=
  rethrow projectionToWorker do
    let _ ← snapshotTask H run manifest createdAt
    let _ ← snapshotTaskFullyResolved H run manifest createdAt
    pure ()

/-- The Run on its way to close: it is finalized once, with the payload of its result. -/
def finalizeRun (run : TaskRun) (events : List TaskExecutionEvent) (result : RunResult)
    (now clock : Instant) : Op TaskRun :=
  let finalize (at' : Instant) : Op TaskRun :=
    transitionRun run (finalizedNow run.toExecutionState (runQuality result.status) at')
      .runFinalized (.runResult result) clock
  if run.lifecycle = .finalizing then
    if runResultEvents events run ≠ [] then do
      requireExactRunResultEvent events run result
      pure run
    else finalize (run.finalizedAt.getD now)
  else finalize now

/-- The part of `finish_run` after the children: the Run closes, or has closed so before. -/
def closeRun (run : TaskRun) (events : List TaskExecutionEvent) (result : RunResult)
    (now clock : Instant) : Op TaskRun :=
  if run.lifecycle = .closed then do
    raiseIf (run.quality ≠ runQuality result.status) (.worker "TASK_RUN_RESULT_CONFLICT")
    requireExactRunResultEvent events run result
    pure run
  else do
    raiseIf (run.quality ≠ .pending ∧ run.quality ≠ runQuality result.status)
      (.worker "TASK_RUN_RESULT_CONFLICT")
    let run ← finalizeRun run events result now clock
    transitionRun run (closedNow run.toExecutionState (runQuality result.status) now) .runClosed
      .empty clock

/-- The ledger is read only once something has been finalized. -/
def finishEvents (run : TaskRun) (units : List ExecutionUnit) (attempts : List UnitAttempt)
    (events : List TaskExecutionEvent) : List TaskExecutionEvent :=
  let ended (lifecycle : ExecutionLifecycle) : Bool := lifecycle ∈ [.finalizing, .closed]
  if ended run.lifecycle || units.any (fun u => ended u.lifecycle) ||
      attempts.any (fun a => ended a.lifecycle) then events
  else []

/-- `finish_run` -/
def finishRun (request : TaskRunFinishInput) (now clock : Instant) : Op RunResult := do
  let foundRun ← read fun db => db.getRun request.request.taskRunId
  let foundManifest ← read fun db => db.getManifest request.request.taskRunId
  let run ← requireExactRoot request.request foundRun (foundManifest.map fun m => m.manifestHash)
  let manifest ← demand foundManifest (.worker "TASK_ROOT_IDENTITY_MISMATCH")
  let run ← settleControlBeforeFinish run clock
  let cancelRequested := request.cancelRequested || run.lifecycle = .canceling
  let units ← read Db.listUnits
  let attempts ← read Db.attempts
  let ledger ← read Db.events
  let events := finishEvents run units attempts ledger
  reconcileRunChildren H unitRetryAttemptId request cancelRequested run units attempts events now
    clock
  let result := runResult request cancelRequested
  let run ← closeRun run events result now clock
  snapshotTaskResult H run manifest now
  applyFinishCommands false request.request request.commands cancelRequested result
  pure result

end Atlas.Service
