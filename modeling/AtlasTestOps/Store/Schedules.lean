import AtlasTestOps.Lib.Idempotency
import AtlasTestOps.Core.Contracts
import AtlasTestOps.Task.Schedules

/-! `TaskScheduleRepository` and the functions of the Task Schedule catalog: the desired
state of each schedule, its sync intents, and the TaskRuns that fires create. -/

namespace Atlas.Store

open Atlas Atlas.Identity Atlas.Task Txn

/-- A published TaskPlanVersion, as far as schedules and triggers read it. -/
structure PlanVersion where
  id : Uuid
  tenantId : Uuid
  projectId : Uuid
  environmentIds : List Uuid
  infraRetry : Option Digest
  scopeActive : Bool
deriving DecidableEq, Repr

structure ScopedEnvironment where
  id : Uuid
  tenantId : Uuid
  projectId : Uuid
  kind : EnvironmentKind
deriving DecidableEq, Repr

/-- A TaskRun by the columns that tie it to its trigger. -/
structure TriggeredRun where
  id : Uuid
  tenantId : Uuid
  projectId : Uuid
  taskPlanVersionId : Uuid
  triggerFingerprint : TriggerFingerprint
  requestDigest : Digest
deriving DecidableEq, Repr

/-- The request of a schedule command; equal hashes are equal requests. -/
inductive ScheduleRequest
  | create (taskPlanVersionId : Uuid) (command : CreateTaskSchedule)
  | transition (taskScheduleId : Uuid) (expectedRevision : ℕ) (action : TaskScheduleAction)
      (command : RequestTaskSchedulePause)
deriving DecidableEq, Repr

inductive ScheduleCommandScope
  | create (taskPlanVersionId : Uuid)
  | commands (taskScheduleId : Uuid)
deriving DecidableEq, Repr

structure LaunchKey where
  tenantId : Uuid
  taskPlanVersionId : Uuid
  source : TaskTriggerSource
  key : ClientMutationId
deriving DecidableEq, Repr

structure ScheduleDb where
  versions : List PlanVersion
  environments : List ScopedEnvironment
  schedules : List TaskSchedule
  intents : List TaskScheduleSyncIntent
  runs : List TriggeredRun
  commandKeys : List (Txn.IdempotencyRecord (Uuid × ScheduleCommandScope × String) ScheduleRequest
    TaskSchedule)
  launchKeys : List (Txn.IdempotencyRecord LaunchKey TriggerTaskPlanVersionRun TriggeredRun)
  nextId : Uuid
deriving DecidableEq, Repr

abbrev ScheduleOp (α : Type) := Tx ScheduleDb Fault α

namespace ScheduleDb

variable (db : ScheduleDb)

def getVersion (id : Uuid) : Option PlanVersion := db.versions.find? fun v => v.id = id

def getSchedule (id : Uuid) : Option TaskSchedule := db.schedules.find? fun s => s.id = id

def getIntent (id : Uuid) : Option TaskScheduleSyncIntent := db.intents.find? fun i => i.id = id

/-- Some environment of the matrix is a production one. -/
def targetsProduction (version : PlanVersion) : Bool :=
  db.environments.any fun e => e.id ∈ version.environmentIds ∧ e.tenantId = version.tenantId ∧
    e.projectId = version.projectId ∧ e.kind = .production

end ScheduleDb

def newScheduleId : ScheduleOp Uuid := do
  let id ← read ScheduleDb.nextId
  update fun db => { db with nextId := id + 1 }
  pure id

@[simp] theorem commits_newScheduleId {db db' : ScheduleDb} {id : Uuid} :
    Commits newScheduleId db id db' ↔ id = db.nextId ∧ db' = { db with nextId := db.nextId + 1 } := by
  have hrun : newScheduleId db = .ok (db.nextId, { db with nextId := db.nextId + 1 }) := rfl
  simp only [Commits, hrun, Except.ok.injEq, Prod.mk.injEq]
  exact and_congr eq_comm eq_comm

/-! ### Desired state -/

/-- `guard_task_schedule_insert` -/
def guardTaskScheduleInsert (db : ScheduleDb) (new : TaskSchedule) : Option Fault :=
  match db.getVersion new.taskPlanVersionId with
  | none => some (.constraint "Task Schedule requires an active exact TaskPlanVersion scope")
  | some version =>
    if version.tenantId ≠ new.tenantId ∨ version.projectId ≠ new.projectId ∨
        version.scopeActive = false then
      some (.constraint "Task Schedule requires an active exact TaskPlanVersion scope")
    else if db.targetsProduction version then
      some (.constraint "Task Schedule cannot target a production environment")
    else if version.infraRetry ≠ some new.retryPolicy then
      some (.constraint "Task Schedule retry policy does not match Plan Version")
    else if new.status ≠ .active ∨ new.pauseReason ≠ none ∨ new.syncStatus ≠ .pending ∨
        new.syncedRevision ≠ none ∨ new.lastSyncErrorCode ≠ none ∨ new.revision ≠ 1 then
      some (.constraint "Task Schedule initial fact is not canonical")
    else none

/-- `guard_task_schedule_update` -/
def guardTaskScheduleUpdate (db : ScheduleDb) (old new : TaskSchedule) : Option Fault :=
  if new.toTaskScheduleDefinition ≠ old.toTaskScheduleDefinition ∨ new.id ≠ old.id ∨
      new.temporalScheduleId ≠ old.temporalScheduleId ∨ new.status = old.status ∨
      new.revision ≠ old.revision + 1 ∨ new.syncStatus ≠ .pending ∨
      new.syncedRevision ≠ old.syncedRevision ∨ new.lastSyncErrorCode ≠ none ∨
      new.nextFireTimesUtc ≠ old.nextFireTimesUtc ∨ new.updatedAt < old.updatedAt ∨
      (new.status = .active ∧ (db.getVersion new.taskPlanVersionId).any db.targetsProduction) then
    some (.constraint "Task Schedule mutation is outside the pause/resume state machine")
  else none

def insertSchedule (schedule : TaskSchedule) : ScheduleOp Unit := do
  let refused ← read fun db => guardTaskScheduleInsert db schedule
  let duplicate ← read fun db => db.schedules.any fun s => s.id = schedule.id ∨
    (s.tenantId = schedule.tenantId ∧ s.projectId = schedule.projectId ∧
      s.scheduleKey = schedule.scheduleKey)
  match refused with
  | some fault => raise fault
  | none => do
    raiseIf duplicate (.constraint "task_schedule_project_key_unique")
    update fun db => { db with schedules := db.schedules ++ [schedule] }

/-- `insert_sync_intent` with its trigger and the unique desired revision. -/
def insertSyncIntent (schedule : TaskSchedule) (action : TaskScheduleAction) (createdAt : Instant) :
    ScheduleOp Unit := do
  let id ← newScheduleId
  let stored ← read fun db => db.getSchedule schedule.id
  raiseIf (stored.all fun s => s.revision ≠ schedule.revision ∨ s.status ≠ action.expectedStatus)
    (.constraint "Task Schedule sync intent is not bound to desired state")
  let duplicate ← read fun db => db.intents.any fun i =>
    i.tenantId = schedule.tenantId ∧ i.taskScheduleId = schedule.id ∧
      i.scheduleRevision = schedule.revision
  raiseIf duplicate (.constraint "task_schedule_sync_revision_unique")
  update fun db => { db with intents := db.intents ++ [pendingIntent id schedule action createdAt] }

/-- The row of the compare-and-set on revision and status. -/
def transitionRow (scheduleId : Uuid) (expectedRevision : ℕ) (oldStatus newStatus : TaskScheduleStatus)
    (pauseReason : Option String) (updatedBy : Uuid) (updatedAt : Instant)
    (schedule : TaskSchedule) : TaskSchedule :=
  if schedule.id = scheduleId ∧ schedule.revision = expectedRevision ∧
      schedule.status = oldStatus then
    schedule.transitioned newStatus pauseReason (some updatedBy) updatedAt
  else schedule

/-- `transition_status` -/
def transitionStatus (scheduleId : Uuid) (expectedRevision : ℕ)
    (oldStatus newStatus : TaskScheduleStatus) (pauseReason : Option String) (updatedBy : Uuid)
    (updatedAt : Instant) : ScheduleOp (Option TaskSchedule) := do
  let found ← read fun db => db.schedules.find? fun s =>
    s.id = scheduleId ∧ s.revision = expectedRevision ∧ s.status = oldStatus
  match found with
  | none => pure none
  | some schedule => do
    let new := schedule.transitioned newStatus pauseReason (some updatedBy) updatedAt
    let refused ← read fun db => guardTaskScheduleUpdate db schedule new
    match refused with
    | some fault => raise fault
    | none => do
      update fun db => { db with
        schedules := db.schedules.map (transitionRow scheduleId expectedRevision oldStatus newStatus
          pauseReason updatedBy updatedAt) }
      pure (some new)

/-- The schedule is one that the environment, once it is a production one, pauses. -/
def ScheduleDb.affected (db : ScheduleDb) (environment : ScopedEnvironment)
    (schedule : TaskSchedule) : Bool :=
  schedule.tenantId = environment.tenantId ∧ schedule.projectId = environment.projectId ∧
    schedule.status = .active ∧
    (db.getVersion schedule.taskPlanVersionId).any fun v => environment.id ∈ v.environmentIds

def ScheduleDb.autoPauseRow (db : ScheduleDb) (environment : ScopedEnvironment)
    (updatedBy : Option Uuid) (observedAt : Instant) (schedule : TaskSchedule) : TaskSchedule :=
  if db.affected environment schedule then schedule.autoPaused updatedBy observedAt else schedule

def insertAutoPauseIntents (observedAt : Instant) : List TaskSchedule → ScheduleOp Unit
  | [] => pure ()
  | schedule :: schedules => do
    let id ← newScheduleId
    update fun db => { db with
      intents := db.intents ++ [pendingIntent id schedule .autoPause observedAt] }
    insertAutoPauseIntents observedAt schedules

/-- `auto_pause_task_schedules_for_production_environment` -/
def autoPause (environment : ScopedEnvironment) (updatedBy : Option Uuid) (observedAt : Instant) :
    ScheduleOp Unit := do
  let affected ← read fun db => db.schedules.filter (db.affected environment)
  update fun db => { db with
    schedules := db.schedules.map (db.autoPauseRow environment updatedBy observedAt) }
  insertAutoPauseIntents observedAt (affected.map fun s => s.autoPaused updatedBy observedAt)

/-- `update environment set kind = 'PRODUCTION'` -/
def reclassifyAsProduction (environmentId : Uuid) (updatedBy : Option Uuid) (observedAt : Instant) :
    ScheduleOp Unit := do
  let found ← read fun db => db.environments.find? fun e => e.id = environmentId
  let environment ← demand found (.application "NOT_FOUND" "Environment")
  update fun db => { db with environments := db.environments.map fun e =>
    if e.id = environmentId then { e with kind := .production } else e }
  if environment.kind = .production then pure ()
  else autoPause environment updatedBy observedAt

/-! ### Delivery -/

/-- The schedule has moved past the revision of the intent. -/
def ScheduleDb.isStale (db : ScheduleDb) (intent : TaskScheduleSyncIntent) : Bool :=
  db.schedules.any fun s => s.id = intent.taskScheduleId ∧ intent.scheduleRevision < s.revision

/-- The row after stale deliveries are superseded. -/
def ScheduleDb.supersede (db : ScheduleDb) (observedAt : Instant) (intent : TaskScheduleSyncIntent) :
    TaskScheduleSyncIntent :=
  if db.isStale intent ∧ intent.status ∈ [.pending, .claimed, .retryWait] then
    intent.superseded observedAt
  else intent

def supersedeStale (observedAt : Instant) : ScheduleOp Unit :=
  update fun db => { db with intents := db.intents.map (db.supersede observedAt) }

/-- The rows after the candidates are claimed, each under a token of its own. -/
def claimCandidates (claimedBy : String) (leaseSeconds : ℕ) (observedAt : Instant)
    (candidates : List Uuid) (first : Uuid) (intent : TaskScheduleSyncIntent) :
    TaskScheduleSyncIntent :=
  if intent.id ∈ candidates then
    intent.claim claimedBy leaseSeconds observedAt (first + candidates.idxOf intent.id)
  else intent

/-- The intent joined with the schedule at its revision. -/
def ScheduleDb.claimedIntent (db : ScheduleDb) (intentId : Uuid) :
    Option ClaimedTaskScheduleSyncIntent := do
  let intent ← db.getIntent intentId
  let claimToken ← intent.claimToken
  let claimExpiresAt ← intent.claimExpiresAt
  let schedule ← db.schedules.find? fun s => s.id = intent.taskScheduleId ∧
    s.tenantId = intent.tenantId ∧ s.projectId = intent.projectId ∧
    s.revision = intent.scheduleRevision
  some
    { id := intent.id, taskScheduleId := intent.taskScheduleId
      scheduleRevision := intent.scheduleRevision, action := intent.action
      temporalScheduleId := intent.temporalScheduleId, claimToken := claimToken
      dispatchRevision := intent.dispatchRevision, dispatchAttempts := intent.dispatchAttempts
      claimExpiresAt := claimExpiresAt, desiredStatus := schedule.status
      definition := schedule.toTaskScheduleDefinition }

/-- `claim_task_schedule_sync_intents` -/
def claimTaskScheduleSyncIntents (claimedBy temporalNamespace : String) (limit leaseSeconds : ℕ)
    (observedAt : Instant) : ScheduleOp (List ClaimedTaskScheduleSyncIntent) := do
  raiseIf (¬ (1 ≤ limit ∧ limit ≤ 100) ∨ ¬ (5 ≤ leaseSeconds ∧ leaseSeconds ≤ 300))
    (.constraint "Task Schedule sync claim parameters are invalid")
  supersedeStale observedAt
  let candidates ← read fun db =>
    (((db.intents.filter (·.claimable temporalNamespace observedAt)).insertionSort fun a b =>
      toLex (a.availableAt, toLex (a.createdAt, a.id)) ≤
        toLex (b.availableAt, toLex (b.createdAt, b.id))).take limit).map (·.id)
  let first ← read ScheduleDb.nextId
  update fun db => { db with
    nextId := first + candidates.length
    intents := db.intents.map
      (claimCandidates claimedBy leaseSeconds observedAt candidates first) }
  read fun db => candidates.filterMap db.claimedIntent

def rewriteIntent (id : Uuid) (f : TaskScheduleSyncIntent → TaskScheduleSyncIntent) :
    ScheduleOp Unit :=
  update fun db => { db with intents := db.intents.map fun i => if i.id = id then f i else i }

/-- What a sync outcome writes into the schedule, if it is still at the intent's revision. -/
def recordRow (intent : TaskScheduleSyncIntent) (observedAt : Instant)
    (f : TaskSchedule → TaskSchedule) (schedule : TaskSchedule) : TaskSchedule :=
  if schedule.id = intent.taskScheduleId ∧ schedule.revision = intent.scheduleRevision then
    { f schedule with updatedAt := max schedule.updatedAt observedAt }
  else schedule

def recordSync (intent : TaskScheduleSyncIntent) (observedAt : Instant)
    (f : TaskSchedule → TaskSchedule) : ScheduleOp Unit :=
  update fun db => { db with schedules := db.schedules.map (recordRow intent observedAt f) }

def syncedRow (nextFireTimes : List Instant) (schedule : TaskSchedule) : TaskSchedule :=
  { schedule with
    syncStatus := .synced
    syncedRevision := some schedule.revision
    lastSyncErrorCode := none
    nextFireTimesUtc := nextFireTimes }

def unsyncedRow (syncStatus : TaskScheduleSyncStatus) (errorCode : String)
    (schedule : TaskSchedule) : TaskSchedule :=
  { schedule with syncStatus := syncStatus, lastSyncErrorCode := some errorCode }

/-- `mark_task_schedule_sync_applied` -/
def markTaskScheduleSyncApplied (intentId claimToken : Uuid) (dispatchRevision : ℕ)
    (nextFireTimes : List Instant) (observedAt : Instant) : ScheduleOp Bool := do
  raiseIf (5 < nextFireTimes.length) (.constraint "Task Schedule next-fire projection is invalid")
  match ← read fun db => db.getIntent intentId with
  | none => pure false
  | some intent =>
    if intent.heldBy claimToken dispatchRevision observedAt = false then pure false
    else do
      let current ← read fun db => db.schedules.any fun s =>
        s.id = intent.taskScheduleId ∧ s.revision = intent.scheduleRevision
      if current = false then do
        rewriteIntent intent.id fun i => i.superseded observedAt
        pure false
      else do
        rewriteIntent intent.id fun i => { i.unclaimed .applied with appliedAt := some observedAt }
        recordSync intent observedAt (syncedRow nextFireTimes)
        pure true

/-- The end of a claim whose synchronization did not succeed. -/
def recordSyncError (intentId claimToken : Uuid) (dispatchRevision : ℕ) (errorCode : String)
    (syncStatus : TaskScheduleSyncStatus) (f : TaskScheduleSyncIntent → TaskScheduleSyncIntent)
    (observedAt : Instant) : ScheduleOp Bool := do
  match ← read fun db => db.getIntent intentId with
  | none => pure false
  | some intent =>
    if intent.heldBy claimToken dispatchRevision observedAt = false then pure false
    else do
      rewriteIntent intent.id fun i =>
        { f i with lastErrorCode := some errorCode, lastErrorAt := some observedAt }
      recordSync intent observedAt (unsyncedRow syncStatus errorCode)
      pure true

/-- `retry_task_schedule_sync_intent` -/
def retryTaskScheduleSyncIntent (intentId claimToken : Uuid) (dispatchRevision : ℕ)
    (errorCode : String) (retryDelayMs : ℕ) (observedAt : Instant) : ScheduleOp Bool := do
  raiseIf (¬ (100 ≤ retryDelayMs ∧ retryDelayMs ≤ 3600000))
    (.constraint "Task Schedule retry parameters are invalid")
  recordSyncError intentId claimToken dispatchRevision errorCode .retryWait
    (fun i => { i.unclaimed .retryWait with availableAt := observedAt + retryDelayMs * 1000 })
    observedAt

/-- `fail_task_schedule_sync_intent` -/
def failTaskScheduleSyncIntent (intentId claimToken : Uuid) (dispatchRevision : ℕ)
    (errorCode : String) (observedAt : Instant) : ScheduleOp Bool :=
  recordSyncError intentId claimToken dispatchRevision errorCode .failed
    (fun i => { i.unclaimed .failed with failedAt := some observedAt }) observedAt

end Atlas.Store
