import AtlasTestOps.Core.Access
import AtlasTestOps.Orchestration.TaskRoot
import AtlasTestOps.Service.FinishRun

/-! Control of a Run: the API accepts a Cancel, Pause or Resume, the dispatcher signals it to
the Root, and the Root applies it at its dispatch boundaries, where it also authorizes each
batch of children. -/

namespace Atlas.Service

open Atlas Atlas.Task Atlas.Result Atlas.Store Atlas.Orchestration Txn

variable (unitRetryAttemptId : Uuid → ℕ → Uuid)

/-! Authorizing a batch. -/

structure TaskBatchPrepareInput where
  request : TaskRunWorkflowInput
  attempts : List UnitAttemptWorkflowInput
deriving DecidableEq, Repr

/-- What the ticket takes from the admission snapshot beside the columns of the Unit: the
origins of the environment and the two digests. -/
structure TicketSnapshot where
  allowedOrigins : List String
  ticketDigest : Digest
  runtimeDigest : Digest
deriving DecidableEq, Repr

/-- What `admit_loaded_unit_in_transaction` answers for one Unit of the batch. -/
inductive BatchAdmission
  | admitted (snapshot : TicketSnapshot)
  | unsatisfied
  | raised (fault : Fault)
deriving DecidableEq, Repr

/-- `_build_execution_ticket` -/
def buildExecutionTicket (request : UnitAttemptWorkflowInput) (run : TaskRun)
    (unit : ExecutionUnit) (attempt : UnitAttempt) (snapshot : TicketSnapshot) :
    Op TaskUnitExecutionTicket := do
  raiseIf (snapshot.allowedOrigins = []) (.worker "TASK_ENVIRONMENT_ORIGIN_BOUNDARY_MISSING")
  let id ← newEntityId
  pure
    { tenantId := run.tenantId
      projectId := run.projectId
      taskRunId := run.id
      manifestHash := run.manifestHash
      executionUnitId := unit.id
      unitKey := unit.unitKey
      id := id
      unitAttemptId := attempt.id
      requestDigest := request.requestDigest
      ordinal := unit.ordinal
      caseVersionId := unit.caseVersionId
      attemptNumber := attempt.attemptNumber
      executionProfileVersionId := unit.executionProfileVersionId
      identityProfileVersionId := unit.identityProfileVersionId
      browserProfileVersionId := unit.browserProfileVersionId
      dataProfileVersionId := unit.dataProfileVersionId
      fixtureBlueprintVersionId := unit.fixtureBlueprintVersionId
      environmentId := unit.environmentId
      executionDeadline := attempt.executionDeadline
      ticketDigest := snapshot.ticketDigest
      contentDigest := snapshot.ticketDigest
      runtimeDigest := snapshot.runtimeDigest }

/-- The dispatch rows that `guard_task_unit_execution_ticket_insert` joins. -/
def ticketAdmissible (db : Db) (ticket : TaskUnitExecutionTicket) (now : Instant) : Bool :=
  dispatchable db.run.lifecycle && db.run.materializationState = .sealed &&
    (db.getUnit ticket.executionUnitId).any fun u =>
      (db.getAttempt ticket.unitAttemptId).any fun a =>
        decide (a.executionUnitId = u.id) && decide (a.lifecycle = .queued) &&
          decide (a.queuedAt ≤ now) && decide (now < a.executionDeadline) &&
          if a.attemptNumber = 1 then decide (u.lifecycle = .queued)
          else decide (u.lifecycle = .running) &&
            (db.getAttemptByNumber u.id (a.attemptNumber - 1)).any fun p =>
              p.lifecycle = .closed ∧ p.quality = .infraError

/-- `create` of an execution ticket whose Attempt has none yet -/
def insertTicket (ticket : TaskUnitExecutionTicket) (now : Instant) : Op Unit := do
  let tickets ← read Db.tickets
  raiseIf (∃ t ∈ tickets, t.id = ticket.id ∨ t.unitAttemptId = ticket.unitAttemptId)
    (.constraint "execution ticket conflict did not resolve to a stored row")
  let admissible ← read fun db => ticketAdmissible db ticket now
  raiseIf (!admissible)
    (.constraint "execution ticket requires one currently admissible exact attempt")
  update fun db => { db with tickets := db.tickets ++ [ticket] }

/-- The ticket of an Attempt that has none. -/
def issueTicket (request : UnitAttemptWorkflowInput) (run : TaskRun) (unit : ExecutionUnit)
    (attempt : UnitAttempt) (admission : BatchAdmission) (now : Instant) : Op Unit := do
  let retry ← read fun db => dispatchableAttempt db unit attempt
  match retry with
  | .error code => raise (.worker code)
  | .ok _ => do
    raiseIf (attempt.lifecycle ≠ .queued) (.worker "TASK_ATTEMPT_NOT_QUEUED")
    raiseIf (now < attempt.queuedAt) (.worker "TASK_ATTEMPT_NOT_READY")
    raiseIf (attempt.executionDeadline ≤ now) (.worker "TASK_ATTEMPT_DEADLINE_EXPIRED")
    match admission with
    | .raised fault => raise fault
    | .unsatisfied => raise (.worker "TASK_ADMISSION_REJECTED")
    | .admitted snapshot => do
      let ticket ← buildExecutionTicket request run unit attempt snapshot
      insertTicket ticket now
      requireExactExecutionTicket request run unit attempt ticket

/-- The body of the loop over the batch. -/
def prepareAttempt (request : UnitAttemptWorkflowInput) (run : TaskRun)
    (admission : BatchAdmission) (now : Instant) : Op Unit := do
  let foundUnit ← read fun db => db.getUnit request.executionUnitId
  let foundAttempt ← read fun db => db.getAttempt request.unitAttemptId
  let unit ← demand foundUnit (.worker "TASK_ATTEMPT_SCOPE_MISSING")
  let attempt ← demand foundAttempt (.worker "TASK_ATTEMPT_SCOPE_MISSING")
  requireExactAttemptRequest unitRetryAttemptId request run unit attempt
  let existing ← read fun db => db.getTicketByAttempt attempt.id
  match existing with
  | some ticket => requireExactExecutionTicket request run unit attempt ticket
  | none => issueTicket request run unit attempt admission now

def prepareAttempts (root : TaskRunWorkflowInput) (run : TaskRun)
    (admission : Uuid → BatchAdmission) (now : Instant) :
    List Uuid → List UnitAttemptWorkflowInput → Op Unit
  | _, [] => pure ()
  | seen, request :: requests => do
    raiseIf (request.tenantId ≠ root.tenantId ∨ request.taskRunId ≠ root.taskRunId ∨
        request.unitAttemptId ∈ seen)
      (.worker "TASK_ROOT_BATCH_IDENTITY_INVALID")
    prepareAttempt unitRetryAttemptId request run (admission request.executionUnitId) now
    prepareAttempts root run admission now (request.unitAttemptId :: seen) requests

/-- `prepare_batch` -/
def prepareBatch (request : TaskBatchPrepareInput) (admission : Uuid → BatchAdmission)
    (now : Instant) : Op TaskBatchPrepareStatus := do
  raiseIf (request.attempts.length < 1 ∨ taskRunChildBatchSize < request.attempts.length)
    (.worker "TASK_ROOT_BATCH_SIZE_INVALID")
  let foundRun ← read fun db => db.getRun request.request.taskRunId
  let foundManifest ← read fun db => db.getManifest request.request.taskRunId
  let run ← requireExactRoot request.request foundRun (foundManifest.map fun m => m.manifestHash)
  if run.lifecycle ∈ [.pauseRequested, .paused] then pure .pauseRequested
  else if run.lifecycle = .canceling then pure .cancelRequested
  else do
    raiseIf (!dispatchable run.lifecycle) (.worker "TASK_RUN_NOT_DISPATCHABLE")
    prepareAttempts unitRetryAttemptId request.request run admission now [] request.attempts
    pure .authorized

/-! The checkpoint of the Root. -/

/-- `checkpoint_control` -/
def checkpointControl (request : TaskRunWorkflowInput) (clock : Instant) :
    Op TaskRunControlState := do
  let foundRun ← read fun db => db.getRun request.taskRunId
  let foundManifest ← read fun db => db.getManifest request.taskRunId
  let run ← requireExactRoot request foundRun (foundManifest.map fun m => m.manifestHash)
  let command ← read getOpenCommand
  match run.lifecycle with
  | .canceling => pure .canceling
  | .finalizing | .closed => pure .closed
  | .pauseRequested => do
    let command ← requireControlCommand command .pause
    let _ ← settleControl run command .paused .runPaused clock
    pure .paused
  | .paused =>
    match command with
    | none => pure .paused
    | some command => do
      let command ← requireControlCommand (some command) .resume
      let _ ← settleControl run command .running .runResumed clock
      pure .dispatchable
  | .queued | .running => do
    raiseIf (command ≠ none) (.worker "TASK_CONTROL_COMMAND_STATE_CONFLICT")
    pure .dispatchable

/-! Accepting a command. -/

def commandConflict (detail : String) : Fault := .application "CONFLICT" detail

/-- `_target_lifecycle` -/
def targetLifecycle (commandType : TaskRunCommandType) (current : ExecutionLifecycle) :
    Except String ExecutionLifecycle :=
  match commandType with
  | .cancel =>
    if current ∈ [.queued, .running, .pauseRequested, .paused] then .ok .canceling
    else .error "TaskRun 当前状态不接受新的 Cancel 命令。"
  | .pause =>
    if current = .running then .ok .pauseRequested
    else .error "只有 RUNNING TaskRun 可以暂停派发。"
  | .resume =>
    if current = .paused then .ok .paused else .error "只有 PAUSED TaskRun 可以继续派发。"

/-- `_require_operable_run` -/
def TaskCommandService.requireOperableRun (actor : ActorContext) (found : Option TaskRun) : Op TaskRun := do
  let run ← demand (found.filter fun r => actor.canReadProject r.projectId)
    (.application "NOT_FOUND" "TaskRun 不存在或不可见。")
  raiseIf (!actor.canOperateProject run.projectId)
    (.application "FORBIDDEN" "当前身份不能操作该 Project 的 TaskRun。")
  raiseIf (run.materializationState ≠ .sealed)
    (commandConflict "TaskRun 尚未完成 materialization seal。")
  pure run

/-- A Pause or Resume that nothing has settled yet. -/
def openControl (command : TaskRunCommandIntent) : Bool :=
  command.commandType ∈ [.pause, .resume] && openCommand command.status

/-- `create` of a command, with `guard_task_run_command_insert` -/
def insertCommand (command : TaskRunCommandIntent) : Op Unit := do
  let commands ← read Db.commands
  raiseIf ((∃ c ∈ commands, c.id = command.id ∨ c.commandDigest = command.commandDigest) ∨
      (openControl command ∧ ∃ c ∈ commands, openControl c))
    (.constraint "Task command conflict did not resolve to a stored row")
  let run ← read Db.run
  let expected : ExecutionLifecycle := match command.commandType with
    | .cancel => .canceling
    | .pause => .pauseRequested
    | .resume => .paused
  raiseIf (run.lifecycle ≠ expected ∨ run.quality ≠ .pending ∨
      run.revision ≠ command.acceptedRunRevision)
    (.constraint "Task command does not match the exact controlled TaskRun")
  update fun db => { db with commands := db.commands ++ [command] }

/-- `supersede_task_run_commands` -/
def supersedeForCancel : Op Unit :=
  update fun db => { db with
    commands := db.commands.map fun c =>
      if openControl c then { c with status := .superseded } else c }

/-- `_accept_in_transaction`: `existing` is the command that already has the mutation id, and
`commandEvent` the type and payload that `_append_execution_event` gives its event. -/
def acceptCommand (commandEvent : TaskRunCommandIntent → EventType × EventPayload)
    (actor : ActorContext) (taskRunId : Uuid) (commandType : TaskRunCommandType)
    (expectedRevision : ℕ) (commandDigest : Digest) (existing : Option TaskRunCommandIntent)
    (now clock : Instant) : Op TaskRunCommandIntent := do
  let foundRun ← read fun db => db.getRun taskRunId
  let run ← TaskCommandService.requireOperableRun actor foundRun
  match existing with
  | some stored => do
    raiseIf (stored.acceptedRunRevision ≠ expectedRevision + 1 ∨ stored.commandType ≠ commandType)
      (commandConflict "clientMutationId 已绑定到不同的 TaskRun Revision。")
    pure stored
  | none => do
    raiseIf (run.revision ≠ expectedRevision)
      (.application "PRECONDITION_FAILED" "请刷新 TaskRun 后使用最新 ETag 重试。")
    match targetLifecycle commandType run.lifecycle with
    | .error detail => raise (commandConflict detail)
    | .ok target => do
      raiseIf (run.quality ≠ .pending)
        (commandConflict "已经终结结果的 TaskRun 不能接受控制命令。")
      let openRow ← read getOpenCommand
      raiseIf (commandType ∈ [.pause, .resume] ∧ openRow ≠ none)
        (commandConflict "TaskRun 已有尚未收口的 Pause/Resume 命令。")
      let updated ← transitionTaskRunState run.id run.revision
        { run.toExecutionAxes with lifecycle := target } clock
      let id ← newEntityId
      let command : TaskRunCommandIntent :=
        { id := id
          commandType := commandType
          status := .pending
          commandDigest := commandDigest
          acceptedRunRevision := updated.revision
          createdAt := now }
      insertCommand command
      if commandType = .cancel then supersedeForCancel else pure ()
      recordEvent updated updated.toExecutionState (commandEvent command).1 none none
        (commandEvent command).2
      pure command

/-! Delivering a command to the Root. -/

inductive CommandDelivery
  | claim | markDelivered | retry | fail
deriving DecidableEq, Repr

/-- The status that the statement of the dispatcher writes, where its `where` clause lets it. -/
def deliveredStatus (run : TaskRun) (delivery : CommandDelivery) (status : TaskRunCommandStatus) :
    Option TaskRunCommandStatus :=
  match delivery, status with
  | .claim, .pending | .claim, .retryWait | .claim, .claimed => some .claimed
  | .markDelivered, .claimed => some .delivered
  | .retry, .claimed => some .retryWait
  | .fail, .claimed =>
    if run.lifecycle = .closed ∧ run.quality = .canceled then some .applied else some .failed
  | _, _ => none

/-- One statement of the dispatcher about one command. `held` says whether its times, token and
revision match the row. -/
def deliverCommand (delivery : CommandDelivery) (intentId : Uuid) (held : Bool) : Op Unit :=
  update fun db => { db with
    commands := db.commands.map fun c =>
      if c.id = intentId ∧ held then
        match deliveredStatus db.run delivery c.status with
        | none => c
        | some status => { c with status := status }
      else c }

end Atlas.Service
