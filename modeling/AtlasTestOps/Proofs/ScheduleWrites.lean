import AtlasTestOps.Orchestration.ScheduleSync

/-! What each schedule transaction writes: the tables by relations that hold of the single
writes, the schedule rows one by one. -/

namespace Atlas.Proofs.Schedules

open Atlas Atlas.Task Atlas.Store Atlas.Service Atlas.Orchestration Txn

/-- The intent is of the same schedule and revision. -/
def SameTarget (i i' : TaskScheduleSyncIntent) : Prop :=
  i'.id = i.id ∧ i'.taskScheduleId = i.taskScheduleId ∧ i'.scheduleRevision = i.scheduleRevision

/-- `R` holds of every single write to intents, commands, environments and identities. -/
structure OnIntents (R : ScheduleDb → ScheduleDb → Prop) : Prop where
  nextId : ∀ (db : ScheduleDb) n, db.nextId ≤ n → R db { db with nextId := n }
  rewritten : ∀ (db : ScheduleDb) f, (∀ i, SameTarget i (f i)) →
    R db { db with intents := db.intents.map f }
  inserted : ∀ (db : ScheduleDb) i, R db { db with intents := db.intents ++ [i] }
  commandKeys : ∀ (db : ScheduleDb) rows, R db { db with commandKeys := rows }
  environments : ∀ (db : ScheduleDb) rows, R db { db with environments := rows }

/-- `R` holds of every write to the schedules. -/
def OnSchedules (R : ScheduleDb → ScheduleDb → Prop) : Prop :=
  ∀ (db : ScheduleDb) rows, R db { db with schedules := rows }

/-- `R` holds of every write to the runs and to the keys of launches. -/
structure OnLaunches (R : ScheduleDb → ScheduleDb → Prop) : Prop where
  runs : ∀ (db : ScheduleDb) rows, R db { db with runs := rows }
  launchKeys : ∀ (db : ScheduleDb) rows, R db { db with launchKeys := rows }

section Within

variable {R : ScheduleDb → ScheduleDb → Prop} [Std.Refl R] [IsTrans ScheduleDb R]

omit [Std.Refl R] [IsTrans ScheduleDb R] in
theorem within_newScheduleId (hi : OnIntents R) : Within R newScheduleId := by
  intro db id db' h
  obtain ⟨-, rfl⟩ := commits_newScheduleId.1 h
  exact hi.nextId db _ (Nat.le_succ _)

theorem within_insertSyncIntent (hi : OnIntents R) (schedule : TaskSchedule)
    (action : TaskScheduleAction) (now : Instant) :
    Within R (insertSyncIntent schedule action now) := by
  refine Within.bind (within_newScheduleId hi) fun _ => Within.bind (Within.read _) fun _ => ?_
  refine Within.bind (Within.raiseIf _ _) fun _ => Within.bind (Within.read _) fun _ => ?_
  exact Within.bind (Within.raiseIf _ _) fun _ => Within.update fun db => hi.inserted db _

theorem within_insertAutoPauseIntents (hi : OnIntents R) (now : Instant) :
    ∀ schedules, Within R (insertAutoPauseIntents now schedules)
  | [] => Within.pure _
  | _ :: schedules =>
    Within.bind (within_newScheduleId hi) fun _ =>
      Within.bind (Within.update fun db => hi.inserted db _) fun _ =>
        within_insertAutoPauseIntents hi now schedules

theorem within_reclassify (hi : OnIntents R) (hs : OnSchedules R) (environmentId : Uuid)
    (updatedBy : Option Uuid) (now : Instant) :
    Within R (reclassifyAsProduction environmentId updatedBy now) := by
  refine Within.bind (Within.read _) fun _ => Within.bind (Within.demand _ _) fun environment => ?_
  refine Within.bind (Within.update fun db => hi.environments db _) fun _ => ?_
  refine Within.ite (Within.pure _) ?_
  refine Within.bind (Within.read _) fun _ => Within.bind (Within.update fun db => hs db _) fun _ => ?_
  exact within_insertAutoPauseIntents hi now _

theorem within_insertSchedule (hs : OnSchedules R) (schedule : TaskSchedule) :
    Within R (insertSchedule schedule) := by
  refine Within.bind (Within.read _) fun refused => Within.bind (Within.read _) fun _ => ?_
  cases refused with
  | some fault => exact Within.raise _
  | none => exact Within.bind (Within.raiseIf _ _) fun _ => Within.update fun db => hs db _

theorem within_requireOperator (actor : ActorContext) (projectId : Uuid) :
    Within R (requireScheduleOperator actor projectId) :=
  Within.bind (Within.demand _ _) fun _ => Within.bind (Within.raiseIf _ _) fun _ => Within.pure _

theorem within_create (hi : OnIntents R) (hs : OnSchedules R) (service : ScheduleService)
    (actor : ActorContext) (versionId : Uuid) (command : CreateTaskSchedule) (key : String)
    (now : Instant) : Within R (createTaskSchedule service actor versionId command key now) := by
  refine Within.rethrow (Within.bind (Within.raiseIf _ _) fun _ => Within.bind (Within.read _) ?_)
  refine fun _ => Within.bind (Within.demand _ _) fun _ => Within.bind (Within.raiseIf _ _) ?_
  refine fun _ => Within.bind (within_requireOperator _ _) fun _ => ?_
  refine IdempotencyTable.within_once (fun db => hi.commandKeys db) ?_
  split
  · exact Within.raise _
  · refine Within.bind (within_newScheduleId hi) fun _ => ?_
    refine Within.bind (within_insertSchedule hs _) fun _ => ?_
    exact Within.bind (within_insertSyncIntent hi _ _ _) fun _ => Within.pure _

theorem within_transitionStatus (hs : OnSchedules R) (scheduleId : Uuid) (revision : ℕ)
    (oldStatus newStatus : TaskScheduleStatus) (reason : Option String) (updatedBy : Uuid)
    (now : Instant) :
    Within R (transitionStatus scheduleId revision oldStatus newStatus reason updatedBy now) := by
  refine Within.bind (Within.read _) fun found => ?_
  cases found with
  | none => exact Within.pure _
  | some schedule =>
    refine Within.bind (Within.read _) fun refused => ?_
    cases refused with
    | some fault => exact Within.raise _
    | none => exact Within.bind (Within.update fun db => hs db _) fun _ => Within.pure _

theorem within_transition (hi : OnIntents R) (hs : OnSchedules R) (actor : ActorContext)
    (scheduleId : Uuid) (command : RequestTaskSchedulePause) (revision : ℕ) (key : String)
    (oldStatus newStatus : TaskScheduleStatus) (action : TaskScheduleAction) (reason : Option String)
    (actionName statusName : String) (now : Instant) :
    Within R (transitionSchedule actor scheduleId command revision key oldStatus newStatus action
      reason actionName statusName now) := by
  refine Within.rethrow (Within.bind (Within.raiseIf _ _) fun _ => Within.bind (Within.read _) ?_)
  refine fun _ => Within.bind (Within.demand _ _) fun _ => Within.bind (Within.raiseIf _ _) ?_
  refine fun _ => Within.bind (within_requireOperator _ _) fun _ => ?_
  refine IdempotencyTable.within_once (fun db => hi.commandKeys db) ?_
  refine Within.bind (Within.raiseIf _ _) fun _ => Within.bind (Within.raiseIf _ _) fun _ => ?_
  refine Within.bind (within_transitionStatus hs _ _ _ _ _ _ _) fun _ => ?_
  refine Within.bind (Within.demand _ _) fun _ => ?_
  exact Within.bind (within_insertSyncIntent hi _ _ _) fun _ => Within.pure _

theorem within_trigger (hi : OnIntents R) (hl : OnLaunches R) (actor : ActorContext)
    (command : TriggerTaskPlanVersionRun) (key : ClientMutationId)
    (admission : Except Fault Digest) (now : Instant) :
    Within R (triggerRun actor command key admission now) := by
  refine Within.bind (Within.raiseIf _ _) fun _ => Within.bind (Within.read _) fun _ => ?_
  refine Within.bind (Within.demand _ _) fun _ => Within.bind (Within.raiseIf _ _) fun _ => ?_
  refine Within.bind (Within.raiseIf _ _) fun _ => ?_
  refine IdempotencyTable.within_once (fun db => hl.launchKeys db) ?_
  cases admission with
  | error fault => exact Within.raise _
  | ok digest =>
    refine Within.bind (Within.raiseIf _ _) fun _ => Within.bind (Within.read _) fun existing => ?_
    cases existing with
    | some run => exact Within.bind (Within.raiseIf _ _) fun _ => Within.pure _
    | none =>
      refine Within.bind (within_newScheduleId hi) fun _ => ?_
      exact Within.bind (Within.update fun db => hl.runs db _) fun _ => Within.pure _

theorem within_fireDecision (request : TaskScheduleFireRequest) :
    Within R (fireDecision request) := by
  refine Within.bind (Within.read _) fun _ => Within.bind (Within.demand _ _) fun _ => ?_
  refine Within.bind (Within.raiseIf _ _) fun _ => ?_
  exact Within.ite (Within.pure _) (Within.pure _)

theorem within_claim (hi : OnIntents R) (claimedBy temporalNamespace : String)
    (limit leaseSeconds : ℕ) (now : Instant) :
    Within R (claimTaskScheduleSyncIntents claimedBy temporalNamespace limit leaseSeconds now) := by
  refine Within.bind (Within.raiseIf _ _) fun _ => Within.bind (Within.update fun db => ?_) fun _ => ?_
  · refine hi.rewritten db _ fun i => ?_
    unfold ScheduleDb.supersede
    split <;> exact ⟨rfl, rfl, rfl⟩
  intro db claims db' h
  rw [commits_read_bind, commits_read_bind] at h
  obtain ⟨_, m, hm, hread⟩ := commits_bind.1 h
  obtain rfl := commits_update.1 hm
  obtain ⟨-, rfl⟩ := commits_read.1 hread
  refine IsTrans.trans _ _ _ (hi.nextId db _ (Nat.le_add_right _ _)) (hi.rewritten _ _ fun i => ?_)
  unfold claimCandidates
  split <;> exact ⟨rfl, rfl, rfl⟩

omit [Std.Refl R] [IsTrans ScheduleDb R] in
theorem within_rewriteIntent (hi : OnIntents R) (id : Uuid)
    {f : TaskScheduleSyncIntent → TaskScheduleSyncIntent} (hf : ∀ i, SameTarget i (f i)) :
    Within R (rewriteIntent id f) := by
  refine Within.update fun db => hi.rewritten db _ fun i => ?_
  split
  · exact hf i
  · exact ⟨rfl, rfl, rfl⟩

theorem within_markApplied (hi : OnIntents R) (hs : OnSchedules R) (id token : Uuid)
    (revision : ℕ) (next : List Instant) (now : Instant) :
    Within R (markTaskScheduleSyncApplied id token revision next now) := by
  refine Within.bind (Within.raiseIf _ _) fun _ => Within.bind (Within.read _) fun found => ?_
  cases found with
  | none => exact Within.pure _
  | some intent =>
    refine Within.ite (Within.pure _) (Within.bind (Within.read _) fun _ => Within.ite ?_ ?_)
    · exact Within.bind (within_rewriteIntent hi _ fun _ => ⟨rfl, rfl, rfl⟩) fun _ => Within.pure _
    · refine Within.bind (within_rewriteIntent hi _ fun _ => ⟨rfl, rfl, rfl⟩) fun _ => ?_
      exact Within.bind (Within.update fun db => hs db _) fun _ => Within.pure _

theorem within_recordSyncError (hi : OnIntents R) (hs : OnSchedules R) (id token : Uuid)
    (revision : ℕ) (code : String) (status : TaskScheduleSyncStatus)
    {f : TaskScheduleSyncIntent → TaskScheduleSyncIntent} (hf : ∀ i, SameTarget i (f i))
    (now : Instant) : Within R (recordSyncError id token revision code status f now) := by
  refine Within.bind (Within.read _) fun found => ?_
  cases found with
  | none => exact Within.pure _
  | some intent =>
    refine Within.ite (Within.pure _) (Within.bind (within_rewriteIntent hi _ fun i => hf i) fun _ => ?_)
    exact Within.bind (Within.update fun db => hs db _) fun _ => Within.pure _

theorem within_fail (hi : OnIntents R) (hs : OnSchedules R) (id token : Uuid) (revision : ℕ)
    (code : String) (now : Instant) :
    Within R (failTaskScheduleSyncIntent id token revision code now) := by
  unfold failTaskScheduleSyncIntent
  apply within_recordSyncError hi hs
  exact fun _ => ⟨rfl, rfl, rfl⟩

theorem within_retry (hi : OnIntents R) (hs : OnSchedules R) (id token : Uuid) (revision : ℕ)
    (code : String) (delay : ℕ) (now : Instant) :
    Within R (retryTaskScheduleSyncIntent id token revision code delay now) := by
  unfold retryTaskScheduleSyncIntent
  refine Within.bind (Within.raiseIf _ _) fun _ => ?_
  apply within_recordSyncError hi hs
  exact fun _ => ⟨rfl, rfl, rfl⟩

theorem within_retryOrFail (hi : OnIntents R) (hs : OnSchedules R) (worker : SyncWorker)
    (code exhausted : String) (now : Instant) : Within R (retryOrFail worker code exhausted now) := by
  unfold retryOrFail
  exact Within.ite (within_fail hi hs _ _ _ _ _) (within_retry hi hs _ _ _ _ _ _)

theorem within_settle (hi : OnIntents R) (hs : OnSchedules R) (worker : SyncWorker)
    (now : Instant) : Within R (settleSync worker now) := by
  unfold settleSync
  split
  · exact within_markApplied hi hs _ _ _ _ _
  · exact within_fail hi hs _ _ _ _ _
  · exact within_retryOrFail hi hs _ _ _ _
  · exact within_retryOrFail hi hs _ _ _ _

/-- The events that write schedules. -/
def WritesSchedules : ScheduleEvent → Prop
  | .create .. | .pause .. | .resume .. | .reclassify .. | .settle .. => True
  | _ => False

/-- The events that write runs and the keys of launches. -/
def Launches : ScheduleEvent → Prop
  | .trigger .. | .launch .. => True
  | _ => False

theorem within_event (e : ScheduleEvent) (hi : OnIntents R) (hs : WritesSchedules e → OnSchedules R)
    (hl : Launches e → OnLaunches R) : Within R e.transaction := by
  cases e with
  | create => exact Within.discard (within_create hi (hs trivial) _ _ _ _ _ _)
  | pause => exact Within.discard (within_transition hi (hs trivial) _ _ _ _ _ _ _ _ _ _ _ _)
  | resume => exact Within.discard (within_transition hi (hs trivial) _ _ _ _ _ _ _ _ _ _ _ _)
  | reclassify => exact within_reclassify hi (hs trivial) _ _ _
  | trigger => exact Within.discard (within_trigger hi (hl trivial) _ _ _ _ _)
  | claim => exact Within.discard (within_claim hi _ _ _ _ _)
  | settle => exact Within.discard (within_settle hi (hs trivial) _ _)
  | fire => exact Within.discard (within_fireDecision _)
  | launch =>
    exact Within.discard (Within.bind (within_trigger hi (hl trivial) _ _ _ _ _) fun _ => Within.pure _)
  | sendCreate | describe | compare | answered | rpcError | raised | execute | crash =>
    exact Within.pure _

end Within

end Atlas.Proofs.Schedules
