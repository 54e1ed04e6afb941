import AtlasTestOps.Core.Access
import AtlasTestOps.Store.Schedules

/-! `TaskScheduleService`, `TaskScheduleFireService` and the part of `TaskPlanLaunchService`
that gives every trigger one TaskRun. -/

namespace Atlas.Service

open Atlas Atlas.Task Atlas.Store Txn

/-! ### Commands -/

def scheduleInvalid (detail : String) : Fault := .application "INVALID_REQUEST" detail

def scheduleNotFound : Fault :=
  .application "NOT_FOUND" "未找到可访问的 Task Schedule 或 TaskPlanVersion。"

def scheduleForbidden : Fault :=
  .application "FORBIDDEN" "当前角色不能管理该 Project 的 Task Schedule。"

def scheduleConflict (detail : String) : Fault := .application "CONFLICT" detail

def schedulePreconditionFailed : Fault :=
  .application "PRECONDITION_FAILED" "请刷新 Schedule 状态并使用最新 ETag 重试。"

def taskScheduleIdempotencyTtl : ℕ := seconds (24 * 3600)

def scheduleCommands : IdempotencyTable ScheduleDb Fault (Uuid × ScheduleCommandScope × String)
    ScheduleRequest TaskSchedule where
  records := ScheduleDb.commandKeys
  store db rows := { db with commandKeys := rows }
  records_store _ _ := rfl
  otherRequest := scheduleConflict "同一个 Idempotency-Key 已用于不同请求。"
  unfinished := scheduleConflict "同一个 Idempotency-Key 对应的命令尚未完成。"

/-- A database gate that refuses a command is reported as a conflict. -/
def gateAsConflict (detail : String) : Fault → Fault
  | .constraint _ => scheduleConflict detail
  | fault => fault

def requireScheduleOperator (actor : ActorContext) (projectId : Uuid) : ScheduleOp Uuid := do
  let actorId ← demand actor.actorId scheduleForbidden
  raiseIf (!actor.canOperateProject projectId) scheduleForbidden
  pure actorId

/-- The deployment of the service, with the digest of a definition and the calendar. -/
structure ScheduleService where
  temporalNamespace : String
  contentDigest : Uuid → PlanVersion → CreateTaskSchedule → Digest
  nextFireTimes : TaskScheduleCalendar → String → Instant → Except String (List Instant)

variable (service : ScheduleService)

/-- The definition that a create command asks for. -/
def ScheduleService.definition (version : PlanVersion) (command : CreateTaskSchedule) (id : Uuid)
    (createdBy : Uuid) : TaskScheduleDefinition where
  tenantId := version.tenantId
  projectId := version.projectId
  taskPlanVersionId := version.id
  scheduleKey := command.scheduleKey
  calendar := command.calendar
  timeZoneName := command.timeZoneName
  overlapPolicy := command.overlapPolicy
  catchupPolicy := command.catchupPolicy
  catchupWindowSeconds := command.catchupWindowSeconds
  jitterSeconds := command.jitterSeconds
  iterationId := command.iterationId
  retryPolicy := command.retryPolicy
  temporalNamespace := service.temporalNamespace
  contentDigest := service.contentDigest id version command
  createdBy := createdBy

def createTaskSchedule (actor : ActorContext) (taskPlanVersionId : Uuid)
    (command : CreateTaskSchedule) (idempotencyKey : String) (now : Instant) :
    ScheduleOp (TaskSchedule × Bool) :=
  rethrow (gateAsConflict "Schedule Key、TaskPlanVersion、Environment 或策略未通过数据库门禁。") do
    raiseIf (idempotencyKey ≠ command.clientMutationId)
      (scheduleInvalid "Idempotency-Key 必须与 clientMutationId 完全一致。")
    let found ← read fun db => db.getVersion taskPlanVersionId
    let version ← demand found scheduleNotFound
    raiseIf (version.tenantId ≠ actor.tenantId ∨ !actor.canReadProject version.projectId)
      scheduleNotFound
    let operatorId ← requireScheduleOperator actor version.projectId
    scheduleCommands.once (actor.tenantId, .create taskPlanVersionId, idempotencyKey)
      (.create taskPlanVersionId command) now taskScheduleIdempotencyTtl do
        match service.nextFireTimes command.calendar command.timeZoneName now with
        | .error message => raise (scheduleInvalid message)
        | .ok nextFires => do
          let id ← newScheduleId
          let schedule : TaskSchedule :=
            { service.definition version command id operatorId with
              id := id, temporalScheduleId := taskScheduleTemporalId version.tenantId id
              status := .active, pauseReason := none, syncStatus := .pending
              syncedRevision := none, lastSyncErrorCode := none, nextFireTimesUtc := nextFires
              updatedBy := some operatorId, revision := 1, updatedAt := now }
          insertSchedule schedule
          insertSyncIntent schedule .create now
          pure (schedule, false)

/-- `_transition` -/
def transitionSchedule (actor : ActorContext) (scheduleId : Uuid) (command : RequestTaskSchedulePause)
    (expectedRevision : ℕ) (idempotencyKey : String) (oldStatus newStatus : TaskScheduleStatus)
    (action : TaskScheduleAction) (pauseReason : Option String) (actionName statusName : String)
    (now : Instant) : ScheduleOp (TaskSchedule × Bool) :=
  rethrow (gateAsConflict "Schedule desired-state command 未通过数据库门禁。") do
    raiseIf (idempotencyKey ≠ command.clientMutationId)
      (scheduleInvalid "Idempotency-Key 必须与 clientMutationId 完全一致。")
    let found ← read fun db => db.getSchedule scheduleId
    let current ← demand found scheduleNotFound
    raiseIf (current.tenantId ≠ actor.tenantId ∨ !actor.canReadProject current.projectId)
      scheduleNotFound
    let operatorId ← requireScheduleOperator actor current.projectId
    scheduleCommands.once (actor.tenantId, .commands scheduleId, idempotencyKey)
      (.transition scheduleId expectedRevision action command) now
      taskScheduleIdempotencyTtl do
        raiseIf (current.revision ≠ expectedRevision) schedulePreconditionFailed
        raiseIf (current.status ≠ oldStatus)
          (scheduleConflict s!"Schedule 只有处于 {statusName} 时才能执行 {actionName}。")
        let updated ← transitionStatus scheduleId expectedRevision oldStatus newStatus pauseReason
          operatorId now
        let schedule ← demand updated schedulePreconditionFailed
        insertSyncIntent schedule action now
        pure (schedule, false)

def pauseSchedule (actor : ActorContext) (scheduleId : Uuid) (command : RequestTaskSchedulePause)
    (expectedRevision : ℕ) (idempotencyKey : String) (now : Instant) :
    ScheduleOp (TaskSchedule × Bool) :=
  transitionSchedule actor scheduleId command expectedRevision idempotencyKey .active .paused .pause
    (some command.reason) "PAUSE" "ACTIVE" now

def resumeSchedule (actor : ActorContext) (scheduleId : Uuid) (command : RequestTaskSchedulePause)
    (expectedRevision : ℕ) (idempotencyKey : String) (now : Instant) :
    ScheduleOp (TaskSchedule × Bool) :=
  transitionSchedule actor scheduleId command expectedRevision idempotencyKey .paused .active .resume
    none "RESUME" "PAUSED" now

/-! ### Triggers -/

def taskLaunchIdempotencyTtl : ℕ := seconds (24 * 3600)

def launchForbidden : Fault :=
  .application "FORBIDDEN" "当前身份不能运行该 Project，或缺少可审计 Actor。"

def launchNotFound : Fault := .application "NOT_FOUND" "TaskPlanVersion 不存在或不可见。"

def launches : IdempotencyTable ScheduleDb Fault LaunchKey TriggerTaskPlanVersionRun
    TriggeredRun where
  records := ScheduleDb.launchKeys
  store db rows := { db with launchKeys := rows }
  records_store _ _ := rfl
  otherRequest := scheduleConflict "同一个 Idempotency-Key 已用于不同请求。"
  unfinished := scheduleConflict "同一个 Idempotency-Key 对应的命令尚未完成。"

/-- `create_run` and `create_partitioned_run` on the trigger's unique key: the new run, or
the stored one when it has the same logical input. -/
def createTriggeredRun (version : PlanVersion) (trigger : TaskRunTrigger) (requestDigest : Digest) :
    ScheduleOp (TriggeredRun × Bool) := do
  let fingerprint := taskRunTriggerFingerprint trigger
  let existing ← read fun db => db.runs.find? fun r =>
    r.tenantId = version.tenantId ∧ r.triggerFingerprint = fingerprint
  match existing with
  | some run => do
    raiseIf (run.requestDigest ≠ requestDigest)
      (scheduleConflict s!"{trigger.source.value} Trigger 已绑定到不同的不可变 Run 输入。")
    pure (run, true)
  | none => do
    let id ← newScheduleId
    let run : TriggeredRun := ⟨id, version.tenantId, version.projectId, version.id, fingerprint,
      requestDigest⟩
    update fun db => { db with runs := db.runs ++ [run] }
    pure (run, false)

/-- `trigger`. The admission is what the gates of Project, TaskPlan, Profile, Fixture and
Environment answer, with the request digest of the Manifest they compile. -/
def triggerRun (actor : ActorContext) (command : TriggerTaskPlanVersionRun)
    (idempotencyKey : ClientMutationId) (admission : Except Fault Digest) (now : Instant) :
    ScheduleOp (TriggeredRun × Bool) := do
  raiseIf (idempotencyKey ≠ command.clientMutationId)
    (scheduleInvalid "Idempotency-Key 必须与 clientMutationId 完全一致。")
  let found ← read fun db => db.getVersion command.taskPlanVersionId
  let version ← demand found launchNotFound
  raiseIf (version.tenantId ≠ actor.tenantId ∨ !actor.canReadProject version.projectId)
    launchNotFound
  raiseIf (!actor.canOperateProject version.projectId ∨ actor.actorId = none) launchForbidden
  launches.once ⟨actor.tenantId, version.id, command.trigger.source, idempotencyKey⟩ command now
    taskLaunchIdempotencyTtl do
      match admission with
      | .error fault => raise fault
      | .ok requestDigest => do
        raiseIf (version.infraRetry ≠ some command.retryPolicy)
          (scheduleConflict
            "retryPolicy 必须与已发布 TaskPlanVersion 的 infra-retry 策略摘要完全一致。")
        createTriggeredRun version command.trigger requestDigest

/-! ### Fires -/

inductive TaskScheduleFireStatus
  | created | replayed | skippedPaused
deriving DecidableEq, Repr

structure TaskScheduleFireRequest where
  tenantId : Uuid
  projectId : Uuid
  taskScheduleId : Uuid
  contentDigest : Digest
  scheduledFireTimeUtc : Instant
  workflowStartedAtUtc : Instant
deriving DecidableEq, Repr

structure ScheduleLaunch where
  actor : ActorContext
  command : TriggerTaskPlanVersionRun
deriving DecidableEq, Repr

inductive FireDecision
  | skippedPaused
  | launch (launch : ScheduleLaunch)
deriving DecidableEq, Repr

/-- The permanent identity of a fire as a trigger of its schedule. -/
def fireLaunch (schedule : TaskSchedule) (fireTime : Instant) : ScheduleLaunch where
  actor :=
    { tenantId := schedule.tenantId, actorId := some schedule.createdBy
      grants := [⟨.runOperator, some schedule.projectId⟩], developmentOverride := false }
  command :=
    { taskPlanVersionId := schedule.taskPlanVersionId
      clientMutationId := .scheduleFire schedule.id fireTime
      trigger := .schedule schedule.id fireTime
      iterationId := schedule.iterationId
      retryPolicy := schedule.retryPolicy }

/-- The first transaction of `fire`: database authority is read again. -/
def fireDecision (request : TaskScheduleFireRequest) : ScheduleOp FireDecision := do
  let mismatch := Fault.worker "Schedule fire identity does not match database authority"
  let found ← read fun db => db.getSchedule request.taskScheduleId
  let schedule ← demand found mismatch
  raiseIf (schedule.tenantId ≠ request.tenantId ∨ schedule.projectId ≠ request.projectId ∨
    schedule.contentDigest ≠ request.contentDigest) mismatch
  if schedule.status = .paused ∧ schedule.updatedAt < request.workflowStartedAtUtc then
    pure .skippedPaused
  else pure (.launch (fireLaunch schedule request.scheduledFireTimeUtc))

/-- The second transaction of `fire`. -/
def runLaunch (launch : ScheduleLaunch) (admission : Except Fault Digest) (now : Instant) :
    ScheduleOp (TaskScheduleFireStatus × TriggeredRun) := do
  let (run, replayed) ← triggerRun launch.actor launch.command launch.command.clientMutationId
    admission now
  pure (if replayed then .replayed else .created, run)

end Atlas.Service
