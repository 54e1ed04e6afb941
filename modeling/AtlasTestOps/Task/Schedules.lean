import AtlasTestOps.Identity.Models
import AtlasTestOps.Task.Manifest

/-! The contracts of Task Schedules: the stored desired state, the intents that carry each
desired revision to Temporal, and the triggers of TaskRuns. A Temporal Schedule's identity is
derived from the tenant and the schedule, so it is that pair. -/

namespace Atlas.Task

open Atlas

inductive TaskScheduleStatus
  | active | paused
deriving DecidableEq, Repr

inductive TaskScheduleSyncStatus
  | pending | synced | retryWait | failed
deriving DecidableEq, Repr

inductive TaskScheduleOverlapPolicy
  | queueOne | skip
deriving DecidableEq, Repr

inductive TaskScheduleCatchupPolicy
  | runOnce | skip
deriving DecidableEq, Repr

structure TaskScheduleCalendar where
  minutes : List ℕ
  hours : List ℕ
  daysOfMonth : List ℕ
  months : List ℕ
  isoDaysOfWeek : List ℕ
deriving DecidableEq, Repr

structure TemporalScheduleId where
  tenantId : Uuid
  scheduleId : Uuid
deriving DecidableEq, Repr

def taskScheduleTemporalId (tenantId scheduleId : Uuid) : TemporalScheduleId :=
  ⟨tenantId, scheduleId⟩

/-- What never changes about a schedule. -/
structure TaskScheduleDefinition where
  tenantId : Uuid
  projectId : Uuid
  taskPlanVersionId : Uuid
  scheduleKey : String
  calendar : TaskScheduleCalendar
  timeZoneName : String
  overlapPolicy : TaskScheduleOverlapPolicy
  catchupPolicy : TaskScheduleCatchupPolicy
  catchupWindowSeconds : ℕ
  jitterSeconds : ℕ
  iterationId : Option String
  retryPolicy : Digest
  temporalNamespace : String
  contentDigest : Digest
  createdBy : Uuid
deriving DecidableEq, Repr

structure TaskSchedule extends TaskScheduleDefinition where
  id : Uuid
  temporalScheduleId : TemporalScheduleId
  status : TaskScheduleStatus
  pauseReason : Option String
  syncStatus : TaskScheduleSyncStatus
  syncedRevision : Option ℕ
  lastSyncErrorCode : Option String
  nextFireTimesUtc : List Instant
  updatedBy : Option Uuid
  revision : ℕ
  updatedAt : Instant
deriving DecidableEq, Repr

structure CreateTaskSchedule where
  scheduleKey : String
  calendar : TaskScheduleCalendar
  timeZoneName : String
  overlapPolicy : TaskScheduleOverlapPolicy
  catchupPolicy : TaskScheduleCatchupPolicy
  catchupWindowSeconds : ℕ
  jitterSeconds : ℕ
  iterationId : Option String
  retryPolicy : Digest
  clientMutationId : String
deriving DecidableEq, Repr

/-- A pause or resume request. -/
structure RequestTaskSchedulePause where
  reason : String
  clientMutationId : String
deriving DecidableEq, Repr

inductive TaskScheduleAction
  | create | pause | resume | autoPause
deriving DecidableEq, Repr

/-- The status an action asks for. -/
def TaskScheduleAction.expectedStatus : TaskScheduleAction → TaskScheduleStatus
  | .create | .resume => .active
  | .pause | .autoPause => .paused

inductive TaskScheduleSyncIntentStatus
  | pending | claimed | retryWait | applied | failed | superseded
deriving DecidableEq, Repr

structure TaskScheduleSyncIntent where
  id : Uuid
  tenantId : Uuid
  projectId : Uuid
  taskScheduleId : Uuid
  scheduleRevision : ℕ
  action : TaskScheduleAction
  contentDigest : Digest
  temporalNamespace : String
  temporalScheduleId : TemporalScheduleId
  status : TaskScheduleSyncIntentStatus
  availableAt : Instant
  claimToken : Option Uuid
  claimedBy : Option String
  claimedAt : Option Instant
  claimExpiresAt : Option Instant
  dispatchAttempts : ℕ
  dispatchRevision : ℕ
  lastErrorCode : Option String
  lastErrorAt : Option Instant
  appliedAt : Option Instant
  failedAt : Option Instant
  supersededAt : Option Instant
  createdAt : Instant
deriving DecidableEq, Repr

/-! ### The rows that commands and dispatchers write -/

/-- The row that a pause or resume command writes. -/
def TaskSchedule.transitioned (schedule : TaskSchedule) (status : TaskScheduleStatus)
    (pauseReason : Option String) (updatedBy : Option Uuid) (updatedAt : Instant) : TaskSchedule :=
  { schedule with
    status := status
    pauseReason := pauseReason
    syncStatus := .pending
    lastSyncErrorCode := none
    updatedBy := updatedBy
    revision := schedule.revision + 1
    updatedAt := updatedAt }

def TaskSchedule.autoPaused (schedule : TaskSchedule) (updatedBy : Option Uuid)
    (observedAt : Instant) : TaskSchedule :=
  schedule.transitioned .paused (some "ENVIRONMENT_RECLASSIFIED_AS_PRODUCTION") updatedBy
    (max schedule.updatedAt observedAt)

/-- The desired revision of the schedule, not yet delivered. -/
def pendingIntent (id : Uuid) (schedule : TaskSchedule) (action : TaskScheduleAction)
    (createdAt : Instant) : TaskScheduleSyncIntent where
  id := id
  tenantId := schedule.tenantId
  projectId := schedule.projectId
  taskScheduleId := schedule.id
  scheduleRevision := schedule.revision
  action := action
  contentDigest := schedule.contentDigest
  temporalNamespace := schedule.temporalNamespace
  temporalScheduleId := schedule.temporalScheduleId
  status := .pending
  availableAt := createdAt
  claimToken := none
  claimedBy := none
  claimedAt := none
  claimExpiresAt := none
  dispatchAttempts := 0
  dispatchRevision := 0
  lastErrorCode := none
  lastErrorAt := none
  appliedAt := none
  failedAt := none
  supersededAt := none
  createdAt := createdAt

def TaskScheduleSyncIntent.unclaimed (intent : TaskScheduleSyncIntent)
    (status : TaskScheduleSyncIntentStatus) : TaskScheduleSyncIntent :=
  { intent with
    status := status
    claimToken := none
    claimedBy := none
    claimedAt := none
    claimExpiresAt := none
    dispatchRevision := intent.dispatchRevision + 1 }

def TaskScheduleSyncIntent.superseded (intent : TaskScheduleSyncIntent) (observedAt : Instant) :
    TaskScheduleSyncIntent :=
  { intent.unclaimed .superseded with supersededAt := some observedAt }

/-- Due, or claimed by a dispatcher whose lease is over. -/
def TaskScheduleSyncIntent.claimable (intent : TaskScheduleSyncIntent)
    (temporalNamespace : String) (observedAt : Instant) : Bool :=
  intent.temporalNamespace = temporalNamespace ∧
    ((intent.status ∈ [.pending, .retryWait] ∧ intent.availableAt ≤ observedAt) ∨
      (intent.status = .claimed ∧ intent.claimExpiresAt.any (· ≤ observedAt)))

def TaskScheduleSyncIntent.claim (intent : TaskScheduleSyncIntent) (claimedBy : String)
    (leaseSeconds : ℕ) (observedAt : Instant) (claimToken : Uuid) : TaskScheduleSyncIntent :=
  { intent with
    status := .claimed
    availableAt := max intent.availableAt observedAt
    claimToken := some claimToken
    claimedBy := some claimedBy
    claimedAt := some observedAt
    claimExpiresAt := some (observedAt + seconds leaseSeconds)
    dispatchAttempts := intent.dispatchAttempts + 1
    dispatchRevision := intent.dispatchRevision + 1
    lastErrorCode := none
    lastErrorAt := none }

/-- The claim is still the one that the dispatcher holds. -/
def TaskScheduleSyncIntent.heldBy (intent : TaskScheduleSyncIntent) (claimToken : Uuid)
    (dispatchRevision : ℕ) (observedAt : Instant) : Bool :=
  intent.status = .claimed ∧ intent.claimToken = some claimToken ∧
    intent.dispatchRevision = dispatchRevision ∧ intent.claimExpiresAt.any (observedAt < ·)

/-- One desired revision as a dispatcher claimed it. -/
structure ClaimedTaskScheduleSyncIntent where
  id : Uuid
  taskScheduleId : Uuid
  scheduleRevision : ℕ
  action : TaskScheduleAction
  temporalScheduleId : TemporalScheduleId
  claimToken : Uuid
  dispatchRevision : ℕ
  dispatchAttempts : ℕ
  claimExpiresAt : Instant
  desiredStatus : TaskScheduleStatus
  definition : TaskScheduleDefinition
deriving DecidableEq, Repr

/-- The trigger of a TaskRun by its permanent identity; what a source adds about the event
is in `metadata`. -/
inductive TaskRunTrigger
  | schedule (scheduleId : Uuid) (scheduledFireTimeUtc : Instant)
  | ci (provider pipelineRunId jobId : String) (rerunIndex : ℕ) (metadata : List (String × String))
  | webhook (sourceKey deliveryId : String) (metadata : List (String × String))
deriving DecidableEq, Repr

def TaskRunTrigger.source : TaskRunTrigger → TaskTriggerSource
  | .schedule .. => .schedule
  | .ci .. => .ci
  | .webhook .. => .webhook

/-- What the fingerprint of a trigger is a digest of. -/
inductive TriggerFingerprint
  | schedule (scheduleId : Uuid) (scheduledFireTimeUtc : Instant)
  | ci (provider pipelineRunId jobId : String) (rerunIndex : ℕ)
  | webhook (sourceKey deliveryId : String)
deriving DecidableEq, Repr

def taskRunTriggerFingerprint : TaskRunTrigger → TriggerFingerprint
  | .schedule scheduleId fireTime => .schedule scheduleId fireTime
  | .ci provider pipelineRunId jobId rerunIndex _ => .ci provider pipelineRunId jobId rerunIndex
  | .webhook sourceKey deliveryId _ => .webhook sourceKey deliveryId

/-- The clientMutationId of a trigger: a schedule fire derives its own. -/
inductive ClientMutationId
  | scheduleFire (scheduleId : Uuid) (fireTimeMicros : ℕ)
  | chosen (text : String)
deriving DecidableEq, Repr

structure TriggerTaskPlanVersionRun where
  taskPlanVersionId : Uuid
  clientMutationId : ClientMutationId
  trigger : TaskRunTrigger
  iterationId : Option String
  retryPolicy : Digest
deriving DecidableEq, Repr

end Atlas.Task
