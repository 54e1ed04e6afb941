import AtlasTestOps.Service.Schedules

/-! `TemporalTaskScheduleSynchronizer` call by call, `TaskScheduleSyncConsumer` around it, and
the system of one database, the Temporal Schedules, any dispatchers and any fires. A call that
a dispatcher has sent stays in flight until Temporal executes it, whatever became of the
dispatcher in the meantime. -/

namespace Atlas.Orchestration

open Atlas Atlas.Task Atlas.Store Atlas.Service Txn

/-! ### Temporal Schedules -/

/-- The identity that memo and action of a Temporal Schedule carry. -/
structure ScheduleIdentity where
  tenantId : Uuid
  projectId : Uuid
  taskScheduleId : Uuid
  contentDigest : Digest
  temporalNamespace : String
  temporalScheduleId : TemporalScheduleId
deriving DecidableEq, Repr

inductive ScheduleOverlapPolicy
  | bufferOne | skip
deriving DecidableEq, Repr

/-- The Schedule that is installed: memo and action, spec and policy. -/
structure InstalledSchedule where
  identity : ScheduleIdentity
  calendar : TaskScheduleCalendar
  jitterSeconds : ℕ
  timeZoneName : String
  overlap : ScheduleOverlapPolicy
  catchupWindowSeconds : ℕ
  pauseOnFailure : Bool
deriving DecidableEq, Repr

structure TemporalSchedule where
  id : TemporalScheduleId
  installed : InstalledSchedule
  paused : Bool
deriving DecidableEq, Repr

/-- `_build_schedule` -/
def buildSchedule (intent : ClaimedTaskScheduleSyncIntent) : InstalledSchedule where
  identity :=
    ⟨intent.definition.tenantId, intent.definition.projectId, intent.taskScheduleId,
      intent.definition.contentDigest, intent.definition.temporalNamespace,
      intent.temporalScheduleId⟩
  calendar := intent.definition.calendar
  jitterSeconds := intent.definition.jitterSeconds
  timeZoneName := intent.definition.timeZoneName
  overlap := if intent.definition.overlapPolicy = .queueOne then .bufferOne else .skip
  catchupWindowSeconds :=
    if intent.definition.catchupPolicy = .runOnce then intent.definition.catchupWindowSeconds
    else 60
  pauseOnFailure := true

/-- `_validate_sync_intent` -/
def validSyncIntent (clientNamespace : String) (intent : ClaimedTaskScheduleSyncIntent) : Bool :=
  intent.desiredStatus = intent.action.expectedStatus ∧
    intent.definition.temporalNamespace = clientNamespace ∧
    intent.temporalScheduleId =
      taskScheduleTemporalId intent.definition.tenantId intent.taskScheduleId ∧
    1 ≤ intent.scheduleRevision ∧ 1 ≤ intent.dispatchRevision ∧ 1 ≤ intent.dispatchAttempts ∧
    intent.definition.jitterSeconds < intent.definition.catchupWindowSeconds

/-- `_verify_schedule_description` -/
def verifyDescription (expected : InstalledSchedule) (actual : TemporalSchedule) : Option String :=
  if actual.id ≠ expected.identity.temporalScheduleId then
    some "TEMPORAL_SCHEDULE_IDENTITY_MISMATCH"
  else if actual.installed.identity ≠ expected.identity then some "TEMPORAL_SCHEDULE_MEMO_MISMATCH"
  else if actual.installed ≠ expected then some "TEMPORAL_SCHEDULE_DEFINITION_MISMATCH"
  else none

inductive RPCStatusCode
  | cancelled | unknown | invalidArgument | deadlineExceeded | notFound | alreadyExists
  | permissionDenied | resourceExhausted | failedPrecondition | aborted | outOfRange
  | unimplemented | internal | unavailable | dataLoss | unauthenticated
deriving DecidableEq, Repr

/-- `_PERMANENT_RPC_ERROR_CODES` -/
def permanentRpcErrorCode : RPCStatusCode → Option String
  | .invalidArgument => some "TEMPORAL_SCHEDULE_INVALID_ARGUMENT"
  | .permissionDenied => some "TEMPORAL_SCHEDULE_PERMISSION_DENIED"
  | .unauthenticated => some "TEMPORAL_SCHEDULE_UNAUTHENTICATED"
  | .notFound => some "TEMPORAL_SCHEDULE_NOT_FOUND"
  | .failedPrecondition => some "TEMPORAL_SCHEDULE_FAILED_PRECONDITION"
  | .outOfRange => some "TEMPORAL_SCHEDULE_OUT_OF_RANGE"
  | .unimplemented => some "TEMPORAL_SCHEDULE_UNIMPLEMENTED"
  | .dataLoss => some "TEMPORAL_SCHEDULE_DATA_LOSS"
  | _ => none

/-- `_TRANSIENT_RPC_STATUSES` -/
def transientRpcStatuses : List RPCStatusCode :=
  [.cancelled, .unknown, .deadlineExceeded, .resourceExhausted, .aborted, .internal, .unavailable]

/-- `_normalize_next_fire_times` of the times that a description lists. -/
def normalizeNextFireTimes (values : List Instant) : Except String (List Instant) :=
  let normalized := (values.insertionSort (· ≤ ·)).dedup
  if normalized.length < 5 then .error "TEMPORAL_SCHEDULE_NEXT_FIRES_INVALID"
  else .ok (normalized.take 5)

/-! ### One synchronization -/

/-- Where `apply` stands. A phase with a call id waits for the answer of that call. -/
inductive SyncPhase
  | starting
  | creating (callId : ℕ)
  | holding
  | described (paused : Bool) (nextActionTimes : List Instant)
  | setting (callId : ℕ) (nextActionTimes : List Instant)
  | applied (nextFireTimes : List Instant)
  | invariantError (errorCode : String)
  | transientError (errorCode : String)
  | unexpected
deriving DecidableEq, Repr

/-- `apply` has returned or raised. -/
def SyncPhase.ended : SyncPhase → Bool
  | .applied _ | .invariantError _ | .transientError _ | .unexpected => true
  | _ => false

structure TaskIntentRetryPolicy where
  maxAttempts : ℕ
  initialBackoffMs : ℕ
  maximumBackoffMs : ℕ
  multiplier : ℚ
deriving DecidableEq, Repr

/-- `delay_after`, in whole milliseconds. -/
def TaskIntentRetryPolicy.delayAfter (policy : TaskIntentRetryPolicy) (dispatchAttempts : ℕ) : ℕ :=
  let next (delay : ℚ) : ℚ := min policy.maximumBackoffMs (delay * policy.multiplier)
  (Rat.ceil (next^[dispatchAttempts - 1] policy.initialBackoffMs)).toNat

/-- The settings of a consumer and of its synchronizer. -/
structure SyncConsumer where
  dispatcherId : String
  temporalNamespace : String
  batchSize : ℕ
  leaseSeconds : ℕ
  retryPolicy : TaskIntentRetryPolicy
  rpcAttempts : ℕ
deriving DecidableEq, Repr

/-- A dispatcher at work on one claimed intent. -/
structure SyncWorker where
  consumer : SyncConsumer
  claim : ClaimedTaskScheduleSyncIntent
  attempt : ℕ
  phase : SyncPhase
deriving DecidableEq, Repr

inductive TemporalOp
  | create (schedule : TemporalSchedule)
  | setPaused (paused : Bool)
deriving DecidableEq, Repr

structure TemporalCall where
  id : ℕ
  claim : ClaimedTaskScheduleSyncIntent
  op : TemporalOp
deriving DecidableEq, Repr

def desiredPaused (claim : ClaimedTaskScheduleSyncIntent) : Bool := claim.desiredStatus = .paused

/-- The call that `_create_or_get` sends. -/
def createCall (callId : ℕ) (claim : ClaimedTaskScheduleSyncIntent) : TemporalCall :=
  ⟨callId, claim, .create ⟨claim.temporalScheduleId, buildSchedule claim, desiredPaused claim⟩⟩

def pauseCall (callId : ℕ) (claim : ClaimedTaskScheduleSyncIntent) : TemporalCall :=
  ⟨callId, claim, .setPaused (desiredPaused claim)⟩

/-- What Temporal does with a call: an existing Schedule is not created again. -/
def TemporalCall.execute (call : TemporalCall) (schedules : List TemporalSchedule) :
    List TemporalSchedule :=
  match call.op with
  | .create schedule =>
    if schedules.any fun t => t.id = schedule.id then schedules else schedules ++ [schedule]
  | .setPaused paused =>
    schedules.map fun t =>
      if t.id = call.claim.temporalScheduleId then { t with paused := paused } else t

/-- After the description is read. -/
def SyncWorker.afterDescribe (worker : SyncWorker) (schedules : List TemporalSchedule)
    (nextActionTimes : List Instant) : SyncPhase :=
  match schedules.find? fun t => t.id = worker.claim.temporalScheduleId with
  | none => .invariantError "TEMPORAL_SCHEDULE_NOT_FOUND"
  | some actual =>
    match verifyDescription (buildSchedule worker.claim) actual with
    | some errorCode => .invariantError errorCode
    | none => .described actual.paused nextActionTimes

def returned (nextActionTimes : List Instant) : SyncPhase :=
  match normalizeNextFireTimes nextActionTimes with
  | .ok nextFireTimes => .applied nextFireTimes
  | .error errorCode => .invariantError errorCode

/-- After an RPC error: another attempt, or the end of `apply`. -/
def SyncWorker.afterRpcError (worker : SyncWorker) (status : RPCStatusCode) : SyncWorker :=
  match permanentRpcErrorCode status with
  | some errorCode => { worker with phase := .invariantError errorCode }
  | none =>
    if status ∉ transientRpcStatuses then
      { worker with phase := .invariantError "TEMPORAL_SCHEDULE_RPC_PROTOCOL_ERROR" }
    else if worker.attempt + 1 < worker.consumer.rpcAttempts then
      { worker with attempt := worker.attempt + 1, phase := .starting }
    else { worker with phase := .transientError "TEMPORAL_SCHEDULE_RPC_UNAVAILABLE" }

/-- `_retry`, or `_fail` once the attempts are used up. -/
def retryOrFail (worker : SyncWorker) (errorCode exhaustedCode : String) (now : Instant) :
    ScheduleOp Bool :=
  let claim := worker.claim
  if worker.consumer.retryPolicy.maxAttempts ≤ claim.dispatchAttempts then
    failTaskScheduleSyncIntent claim.id claim.claimToken claim.dispatchRevision exhaustedCode now
  else
    retryTaskScheduleSyncIntent claim.id claim.claimToken claim.dispatchRevision errorCode
      (worker.consumer.retryPolicy.delayAfter claim.dispatchAttempts) now

/-- The transaction at the end of the consumer's `_apply`; false is a lost lease. -/
def settleSync (worker : SyncWorker) (now : Instant) : ScheduleOp Bool :=
  let claim := worker.claim
  match worker.phase with
  | .applied nextFireTimes =>
    markTaskScheduleSyncApplied claim.id claim.claimToken claim.dispatchRevision
      (nextFireTimes.take 5) now
  | .invariantError errorCode =>
    failTaskScheduleSyncIntent claim.id claim.claimToken claim.dispatchRevision errorCode now
  | .transientError errorCode =>
    retryOrFail worker errorCode "TEMPORAL_SCHEDULE_RETRY_EXHAUSTED" now
  | _ => retryOrFail worker "SCHEDULE_SYNC_UNEXPECTED" "SCHEDULE_SYNC_RETRY_EXHAUSTED" now

/-! ### The system -/

structure ScheduleSystem where
  db : ScheduleDb
  temporal : List TemporalSchedule
  workers : List SyncWorker
  calls : List TemporalCall
  /-- Fires that have passed their first transaction. -/
  fires : List ScheduleLaunch
  nextCall : ℕ
  /-- The latest time that a transaction so far has begun. -/
  clock : Instant
deriving DecidableEq, Repr

/-- A transaction happens when it commits, and `now` is when it began, which may lie before the `now`
of one that has committed earlier. The pause that Temporal itself makes when a Workflow fails is no
event. -/
inductive ScheduleEvent
  | create (service : ScheduleService) (actor : ActorContext) (taskPlanVersionId : Uuid)
      (command : CreateTaskSchedule) (idempotencyKey : String) (now : Instant)
  | pause (actor : ActorContext) (scheduleId : Uuid) (command : RequestTaskSchedulePause)
      (expectedRevision : ℕ) (idempotencyKey : String) (now : Instant)
  | resume (actor : ActorContext) (scheduleId : Uuid) (command : RequestTaskSchedulePause)
      (expectedRevision : ℕ) (idempotencyKey : String) (now : Instant)
  | reclassify (environmentId : Uuid) (updatedBy : Option Uuid) (now : Instant)
  | trigger (actor : ActorContext) (command : TriggerTaskPlanVersionRun)
      (idempotencyKey : ClientMutationId) (admission : Except Fault Digest) (now : Instant)
  | claim (consumer : SyncConsumer) (now : Instant)
  | sendCreate (worker : SyncWorker)
  | describe (worker : SyncWorker) (nextActionTimes : List Instant)
  | compare (worker : SyncWorker)
  | answered (worker : SyncWorker)
  | rpcError (worker : SyncWorker) (status : RPCStatusCode)
  | raised (worker : SyncWorker)
  | execute (call : TemporalCall)
  | settle (worker : SyncWorker) (now : Instant)
  | crash (worker : SyncWorker)
  | fire (request : TaskScheduleFireRequest) (now : Instant)
  | launch (pending : ScheduleLaunch) (admission : Except Fault Digest) (now : Instant)

/-- The transaction of an event; calls and answers of Temporal have none. -/
def ScheduleEvent.transaction : ScheduleEvent → ScheduleOp Unit
  | .create service actor taskPlanVersionId command idempotencyKey now =>
    discard (createTaskSchedule service actor taskPlanVersionId command idempotencyKey now)
  | .pause actor scheduleId command expectedRevision idempotencyKey now =>
    discard (pauseSchedule actor scheduleId command expectedRevision idempotencyKey now)
  | .resume actor scheduleId command expectedRevision idempotencyKey now =>
    discard (resumeSchedule actor scheduleId command expectedRevision idempotencyKey now)
  | .reclassify environmentId updatedBy now => reclassifyAsProduction environmentId updatedBy now
  | .trigger actor command idempotencyKey admission now =>
    discard (triggerRun actor command idempotencyKey admission now)
  | .claim consumer now =>
    discard (claimTaskScheduleSyncIntents consumer.dispatcherId consumer.temporalNamespace
      consumer.batchSize consumer.leaseSeconds now)
  | .settle worker now => discard (settleSync worker now)
  | .fire request _ => discard (fireDecision request)
  | .launch pending admission now => discard (runLaunch pending admission now)
  | _ => pure ()

/-- The time an event reads from the database clock: `transaction_timestamp()`. -/
def ScheduleEvent.time : ScheduleEvent → Option Instant
  | .create _ _ _ _ _ now | .pause _ _ _ _ _ now | .resume _ _ _ _ _ now | .reclassify _ _ now
  | .trigger _ _ _ _ now | .claim _ now | .settle _ now | .fire _ now | .launch _ _ now => some now
  | _ => none

/-- When an event can happen. -/
def ScheduleEvent.Enabled (s : ScheduleSystem) (e : ScheduleEvent) : Prop :=
  match e with
  | .sendCreate worker => worker ∈ s.workers ∧ worker.phase = .starting
  | .describe worker _ => worker ∈ s.workers ∧ worker.phase = .holding
  | .compare worker => worker ∈ s.workers ∧ ∃ paused next, worker.phase = .described paused next
  | .answered worker => worker ∈ s.workers ∧
    ((∃ callId, worker.phase = .creating callId ∧ ∀ call ∈ s.calls, call.id ≠ callId) ∨
      ∃ callId next, worker.phase = .setting callId next ∧ ∀ call ∈ s.calls, call.id ≠ callId)
  | .rpcError worker _ => worker ∈ s.workers ∧
    ((∃ callId, worker.phase = .creating callId) ∨ worker.phase = .holding ∨
      ∃ callId next, worker.phase = .setting callId next)
  | .raised worker => worker ∈ s.workers ∧ worker.phase.ended = false
  | .settle worker _ => worker ∈ s.workers ∧ worker.phase.ended = true
  | .crash worker => worker ∈ s.workers
  | .execute call => call ∈ s.calls
  | .launch pending _ _ => pending ∈ s.fires
  | _ => True

instance (phase : SyncPhase) : Decidable (∃ paused next, phase = .described paused next) :=
  match phase with
  | .described paused next => isTrue ⟨paused, next, rfl⟩
  | .starting | .creating _ | .holding | .setting _ _ | .applied _ | .invariantError _
  | .transientError _ | .unexpected => isFalse fun ⟨_, _, h⟩ => nomatch h

section Waiting

variable (phase : SyncPhase) (p : ℕ → Prop) [DecidablePred p]

instance : Decidable (∃ callId, phase = .creating callId ∧ p callId) :=
  match phase with
  | .creating callId => decidable_of_iff (p callId)
      ⟨fun h => ⟨callId, rfl, h⟩, fun ⟨_, h, hp⟩ => SyncPhase.creating.inj h ▸ hp⟩
  | .starting | .holding | .described _ _ | .setting _ _ | .applied _ | .invariantError _
  | .transientError _ | .unexpected => isFalse fun ⟨_, h, _⟩ => nomatch h

instance : Decidable (∃ callId next, phase = .setting callId next ∧ p callId) :=
  match phase with
  | .setting callId next => decidable_of_iff (p callId)
      ⟨fun h => ⟨callId, next, rfl, h⟩, fun ⟨_, _, h, hp⟩ => (SyncPhase.setting.inj h).1 ▸ hp⟩
  | .starting | .creating _ | .holding | .described _ _ | .applied _ | .invariantError _
  | .transientError _ | .unexpected => isFalse fun ⟨_, _, h, _⟩ => nomatch h

end Waiting

/-- Whether a call is on its way for the worker, or a description. -/
instance (phase : SyncPhase) : Decidable ((∃ callId, phase = .creating callId) ∨ phase = .holding ∨
    ∃ callId next, phase = .setting callId next) :=
  match phase with
  | .creating callId => isTrue (Or.inl ⟨callId, rfl⟩)
  | .holding => isTrue (Or.inr (Or.inl rfl))
  | .setting callId next => isTrue (Or.inr (Or.inr ⟨callId, next, rfl⟩))
  | .starting | .described _ _ | .applied _ | .invariantError _ | .transientError _
  | .unexpected => isFalse (by simp)

instance (s : ScheduleSystem) (e : ScheduleEvent) : Decidable (e.Enabled s) :=
  match e with
  | .sendCreate _ | .describe _ _ | .compare _ | .answered _ | .rpcError _ _ | .raised _
  | .settle _ _ => inferInstanceAs (Decidable (_ ∧ _))
  | .crash _ | .execute _ | .launch _ _ _ => inferInstanceAs (Decidable (_ ∈ _))
  | .create _ _ _ _ _ _ | .pause _ _ _ _ _ _ | .resume _ _ _ _ _ _ | .reclassify _ _ _
  | .trigger _ _ _ _ _ | .claim _ _ | .fire _ _ => inferInstanceAs (Decidable True)

/-- The worker goes on as `worker'`. -/
def ScheduleSystem.continue (s : ScheduleSystem) (worker worker' : SyncWorker) : ScheduleSystem :=
  { s with workers := s.workers.map fun w =>
      if w.claim.claimToken = worker.claim.claimToken then worker' else w }

/-- A call is sent under the next identity. -/
def ScheduleSystem.sent (s : ScheduleSystem) (call : TemporalCall) : ScheduleSystem :=
  { s with calls := s.calls ++ [call], nextCall := s.nextCall + 1 }

/-- The worker's dispatcher is done with its claim. -/
def ScheduleSystem.dismiss (s : ScheduleSystem) (worker : SyncWorker) : ScheduleSystem :=
  { s with workers := s.workers.filter fun w => w.claim.claimToken ≠ worker.claim.claimToken }

/-- What an event does outside the database. -/
def ScheduleEvent.outside (e : ScheduleEvent) (s : ScheduleSystem) : ScheduleSystem :=
  match e with
  | .claim consumer now =>
    match claimTaskScheduleSyncIntents consumer.dispatcherId consumer.temporalNamespace
        consumer.batchSize consumer.leaseSeconds now s.db with
    | .ok (claims, _) =>
      { s with workers := s.workers ++ claims.map fun claim => ⟨consumer, claim, 0, .starting⟩ }
    | .error _ => s
  | .sendCreate worker =>
    if validSyncIntent worker.consumer.temporalNamespace worker.claim = false then
      s.continue worker { worker with phase := .invariantError "TASK_SCHEDULE_SYNC_CONTRACT_MISMATCH" }
    else
      (s.sent (createCall s.nextCall worker.claim)).continue worker
        { worker with phase := .creating s.nextCall }
  | .describe worker nextActionTimes =>
    s.continue worker { worker with phase := worker.afterDescribe s.temporal nextActionTimes }
  | .compare worker =>
    match worker.phase with
    | .described paused next =>
      if paused ≠ desiredPaused worker.claim then
        (s.sent (pauseCall s.nextCall worker.claim)).continue worker
          { worker with phase := .setting s.nextCall next }
      else s.continue worker { worker with phase := returned next }
    | _ => s
  | .answered worker =>
    match worker.phase with
    | .creating _ => s.continue worker { worker with phase := .holding }
    | .setting _ next => s.continue worker { worker with phase := returned next }
    | _ => s
  | .rpcError worker status => s.continue worker (worker.afterRpcError status)
  | .raised worker => s.continue worker { worker with phase := .unexpected }
  | .execute call =>
    { s with
      temporal := call.execute s.temporal
      calls := s.calls.filter fun c => c.id ≠ call.id }
  | .settle worker _ => s.dismiss worker
  | .crash worker => s.dismiss worker
  | .fire request _ =>
    match fireDecision request s.db with
    | .ok (.launch pending, _) => { s with fires := pending :: s.fires }
    | _ => s
  | _ => s

def ScheduleEvent.apply (e : ScheduleEvent) (s : ScheduleSystem) : ScheduleSystem :=
  { e.outside s with
    db := after e.transaction s.db
    clock := max s.clock (e.time.getD 0) }

/-- The events of a run in their order. -/
inductive ScheduleRun : ScheduleSystem → List ScheduleEvent → ScheduleSystem → Prop
  | refl (s : ScheduleSystem) : ScheduleRun s [] s
  | head {s s' : ScheduleSystem} {e : ScheduleEvent} {events : List ScheduleEvent} :
      e.Enabled s → ScheduleRun (e.apply s) events s' → ScheduleRun s (e :: events) s'

/-- What every event of a run keeps holds at its end. -/
theorem ScheduleRun.keeps {I : ScheduleSystem → Prop} {s s' : ScheduleSystem}
    {events : List ScheduleEvent} (hrun : ScheduleRun s events s')
    (hstep : ∀ e s, e ∈ events → ScheduleEvent.Enabled s e → I s → I (e.apply s)) (h : I s) :
    I s' := by
  induction hrun with
  | refl => exact h
  | head henabled _ ih =>
    exact ih (fun e s he => hstep e s (List.mem_cons_of_mem _ he))
      (hstep _ _ List.mem_cons_self henabled h)

theorem ScheduleRun.append {s s' s'' : ScheduleSystem} {events events' : List ScheduleEvent}
    (h : ScheduleRun s events s') (h' : ScheduleRun s' events' s'') :
    ScheduleRun s (events ++ events') s'' := by
  induction h with
  | refl => exact h'
  | head henabled _ ih => exact .head henabled (ih h')

/-- Every event of a run meets the condition in the state it happens in. -/
def Along (ok : ScheduleEvent → ScheduleSystem → Prop) :
    List ScheduleEvent → ScheduleSystem → Prop
  | [], _ => True
  | e :: events, s => ok e s ∧ Along ok events (e.apply s)

instance Along.decidable (ok : ScheduleEvent → ScheduleSystem → Prop) [∀ e s, Decidable (ok e s)] :
    (events : List ScheduleEvent) → (s : ScheduleSystem) → Decidable (Along ok events s)
  | [], _ => isTrue trivial
  | e :: events, s => @instDecidableAnd _ _ _ (Along.decidable ok events (e.apply s))

def runAll (events : List ScheduleEvent) (s : ScheduleSystem) : ScheduleSystem :=
  events.foldl (fun s e => e.apply s) s

/-- Events that are enabled one after the other make a run. -/
theorem ScheduleRun.of_enabled {events : List ScheduleEvent} {s : ScheduleSystem}
    (h : Along (fun e s => e.Enabled s) events s) : ScheduleRun s events (runAll events s) := by
  induction events generalizing s with
  | nil => exact .refl s
  | cons e events ih => exact .head h.1 (ih h.2)

/-- A platform before its first schedule. -/
structure ScheduleSystem.Fresh (s : ScheduleSystem) : Prop where
  schedules : s.db.schedules = []
  intents : s.db.intents = []
  runs : s.db.runs = []
  launchKeys : s.db.launchKeys = []
  temporal : s.temporal = []
  workers : s.workers = []
  calls : s.calls = []
  fires : s.fires = []

@[simp] theorem ScheduleEvent.apply_db (e : ScheduleEvent) (s : ScheduleSystem) :
    (e.apply s).db = after e.transaction s.db := rfl

end Atlas.Orchestration
