import AtlasTestOps.Proofs.ScheduleWrites

/-! The row of a schedule from one event to the next. It changes in three ways: a command
moves it to its next revision, a sync outcome is recorded at its revision, or it is created. -/

namespace Atlas.Proofs.Schedules

open Atlas Atlas.Task Atlas.Store Atlas.Service Atlas.Orchestration Txn

/-! ### What all events keep -/

/-- Intents keep their targets, and identities only grow. -/
structure IntentsKept (db db' : ScheduleDb) : Prop where
  intents : ∀ id i, db.getIntent id = some i → ∃ i', db'.getIntent id = some i' ∧ SameTarget i i'
  nextId : db.nextId ≤ db'.nextId

theorem SameTarget.trans {i j k : TaskScheduleSyncIntent} (h : SameTarget i j)
    (h' : SameTarget j k) : SameTarget i k :=
  ⟨h'.1.trans h.1, h'.2.1.trans h.2.1, h'.2.2.trans h.2.2⟩

instance : Std.Refl IntentsKept := ⟨fun _ => ⟨fun _ i h => ⟨i, h, rfl, rfl, rfl⟩, Nat.le_refl _⟩⟩

instance : IsTrans ScheduleDb IntentsKept where
  trans := by
    intro a b c hab hbc
    refine ⟨fun id i h => ?_, Nat.le_trans hab.nextId hbc.nextId⟩
    obtain ⟨j, hj, hij⟩ := hab.intents id i h
    obtain ⟨k, hk, hjk⟩ := hbc.intents id j hj
    exact ⟨k, hk, hij.trans hjk⟩

theorem IntentsKept.of_same {db db' : ScheduleDb} (h : db'.intents = db.intents)
    (hnext : db.nextId ≤ db'.nextId) : IntentsKept db db' :=
  ⟨fun _ i hi => ⟨i, by rwa [ScheduleDb.getIntent, h], rfl, rfl, rfl⟩, hnext⟩

theorem intentsKept_onIntents : OnIntents IntentsKept where
  nextId _ _ h := .of_same rfl h
  commandKeys _ _ := .of_same rfl (Nat.le_refl _)
  environments _ _ := .of_same rfl (Nat.le_refl _)
  inserted db i := by
    refine ⟨fun id j hj => ⟨j, ?_, rfl, rfl, rfl⟩, Nat.le_refl _⟩
    unfold ScheduleDb.getIntent at hj ⊢
    rw [List.find?_append, hj]
    rfl
  rewritten db f hf := by
    refine ⟨fun id i hi => ⟨f i, ?_, hf i⟩, Nat.le_refl _⟩
    have hid : ∀ i, (decide ((f i).id = id)) = decide (i.id = id) := fun i => by rw [(hf i).1]
    simp only [ScheduleDb.getIntent, List.find?_map, Function.comp_def, hid]
    rw [show db.intents.find? (fun i => decide (i.id = id)) = some i from hi]
    rfl

theorem intentsKept_event {e : ScheduleEvent} {db db' : ScheduleDb}
    (h : Commits e.transaction db () db') : IntentsKept db db' := by
  refine within_event e intentsKept_onIntents (fun _ _ _ => .of_same rfl (Nat.le_refl _)) ?_ _ _ _ h
  exact fun _ => ⟨fun _ _ => .of_same rfl (Nat.le_refl _), fun _ _ => .of_same rfl (Nat.le_refl _)⟩

def SameSchedules (db db' : ScheduleDb) : Prop := db'.schedules = db.schedules

instance : Std.Refl SameSchedules := ⟨fun _ => rfl⟩

instance : IsTrans ScheduleDb SameSchedules := ⟨fun _ _ _ h h' => Eq.trans h' h⟩

theorem sameSchedules_onIntents : OnIntents SameSchedules :=
  ⟨fun _ _ _ => rfl, fun _ _ _ => rfl, fun _ _ => rfl, fun _ _ => rfl, fun _ _ => rfl⟩

theorem sameSchedules_event {e : ScheduleEvent} {db db' : ScheduleDb} (he : ¬ WritesSchedules e)
    (h : Commits e.transaction db () db') : db'.schedules = db.schedules :=
  within_event e sameSchedules_onIntents (fun hw => absurd hw he)
    (fun _ => ⟨fun _ _ => rfl, fun _ _ => rfl⟩) _ _ _ h

/-! ### The events that write schedules -/

/-- The row of a create command. -/
structure FreshRow (db : ScheduleDb) (now : Instant) (new : TaskSchedule) : Prop where
  id : new.id = db.nextId
  temporalScheduleId : new.temporalScheduleId = ⟨new.tenantId, new.id⟩
  syncStatus : new.syncStatus = .pending
  updatedAt : new.updatedAt = now

theorem commits_insertSchedule {schedule : TaskSchedule} {db db' : ScheduleDb}
    (h : Commits (insertSchedule schedule) db () db') :
    db' = { db with schedules := db.schedules ++ [schedule] } := by
  unfold insertSchedule at h
  rw [commits_read_bind, commits_read_bind] at h
  cases hguard : guardTaskScheduleInsert db schedule with
  | some fault => simp [hguard] at h
  | none =>
    simp only [hguard] at h
    exact commits_update.1 (commits_raiseIf_bind.1 h).2

theorem commits_requireOperator {actor : ActorContext} {projectId operatorId : Uuid}
    {db db' : ScheduleDb}
    (h : Commits (requireScheduleOperator actor projectId) db operatorId db') : db' = db := by
  obtain ⟨actorId, -, hoperator⟩ := commits_demand_bind.1 h
  exact (commits_pure.1 (commits_raiseIf_bind.1 hoperator).2).2

theorem create_rows {service : ScheduleService} {actor : ActorContext} {versionId : Uuid}
    {command : CreateTaskSchedule} {key : String} {now : Instant} {db db' : ScheduleDb}
    {answer : TaskSchedule × Bool}
    (h : Commits (createTaskSchedule service actor versionId command key now) db answer db') :
    db'.schedules = db.schedules ∨
      ∃ new, db'.schedules = db.schedules ++ [new] ∧ FreshRow db now new ∧ db.nextId < db'.nextId := by
  have hchecked := (commits_raiseIf_bind.1 (commits_rethrow.1 h)).2
  rw [commits_read_bind] at hchecked
  obtain ⟨version, -, hvisible⟩ := commits_demand_bind.1 hchecked
  obtain ⟨operatorId, m, hop, honce⟩ := commits_bind.1 (commits_raiseIf_bind.1 hvisible).2
  obtain rfl := commits_requireOperator hop
  rcases IdempotencyTable.commits_once honce with ⟨-, rfl, -⟩ | ⟨-, m', hbody, rfl⟩
  · exact Or.inl rfl
  · right
    split at hbody
    · exact absurd hbody commits_raise
    · obtain ⟨id, m₁, hid, hbody⟩ := commits_bind.1 hbody
      obtain ⟨rfl, rfl⟩ := commits_newScheduleId.1 hid
      obtain ⟨_, m₂, hinsert, hbody⟩ := commits_bind.1 hbody
      obtain rfl := commits_insertSchedule hinsert
      obtain ⟨_, m₃, hintent, hbody⟩ := commits_bind.1 hbody
      obtain ⟨rfl, rfl⟩ := commits_pure.1 hbody
      have hsame := within_insertSyncIntent sameSchedules_onIntents _ _ _ _ _ _ hintent
      have hnext := (within_insertSyncIntent intentsKept_onIntents _ _ _ _ _ _ hintent).nextId
      exact ⟨_, hsame, ⟨rfl, rfl, rfl, rfl⟩, Nat.lt_of_succ_le hnext⟩

theorem transitionStatus_rows {id : Uuid} {revision : ℕ} {oldStatus newStatus : TaskScheduleStatus}
    {reason : Option String} {updatedBy : Uuid} {now : Instant} {db db' : ScheduleDb}
    {answer : Option TaskSchedule}
    (h : Commits (transitionStatus id revision oldStatus newStatus reason updatedBy now) db answer db') :
    db'.schedules = db.schedules ∨ db'.schedules =
      db.schedules.map (transitionRow id revision oldStatus newStatus reason updatedBy now) := by
  unfold transitionStatus at h
  rw [commits_read_bind] at h
  cases hfind : db.schedules.find? fun s => s.id = id ∧ s.revision = revision ∧ s.status = oldStatus with
  | none =>
    simp only [hfind] at h
    obtain ⟨-, rfl⟩ := commits_pure.1 h
    exact Or.inl rfl
  | some schedule =>
    simp only [hfind, commits_read_bind] at h
    split at h
    · exact absurd h commits_raise
    · obtain ⟨_, m, hm, h⟩ := commits_bind.1 h
      obtain rfl := commits_update.1 hm
      obtain ⟨-, rfl⟩ := commits_pure.1 h
      exact Or.inr rfl

theorem transition_rows {actor : ActorContext} {id : Uuid} {command : RequestTaskSchedulePause}
    {revision : ℕ} {key : String} {oldStatus newStatus : TaskScheduleStatus}
    {action : TaskScheduleAction} {reason : Option String} {actionName statusName : String}
    {now : Instant} {db db' : ScheduleDb} {answer : TaskSchedule × Bool}
    (h : Commits (transitionSchedule actor id command revision key oldStatus newStatus action reason
      actionName statusName now) db answer db') :
    db'.schedules = db.schedules ∨ ∃ updatedBy, db'.schedules =
      db.schedules.map (transitionRow id revision oldStatus newStatus reason updatedBy now) := by
  have hchecked := (commits_raiseIf_bind.1 (commits_rethrow.1 h)).2
  rw [commits_read_bind] at hchecked
  obtain ⟨current, -, hvisible⟩ := commits_demand_bind.1 hchecked
  obtain ⟨operatorId, m, hop, honce⟩ := commits_bind.1 (commits_raiseIf_bind.1 hvisible).2
  obtain rfl := commits_requireOperator hop
  rcases IdempotencyTable.commits_once honce with ⟨-, rfl, -⟩ | ⟨-, m', hbody, rfl⟩
  · exact Or.inl rfl
  · have hbody := (commits_raiseIf_bind.1 (commits_raiseIf_bind.1 hbody).2).2
    obtain ⟨updated, m₁, hstatus, hbody⟩ := commits_bind.1 hbody
    obtain ⟨schedule, -, hbody⟩ := commits_demand_bind.1 hbody
    obtain ⟨_, m₂, hintent, hbody⟩ := commits_bind.1 hbody
    obtain ⟨-, rfl⟩ := commits_pure.1 hbody
    have hsame := within_insertSyncIntent sameSchedules_onIntents _ _ _ _ _ _ hintent
    rcases transitionStatus_rows hstatus with hrows | hrows
    · exact Or.inl (Eq.trans hsame hrows)
    · exact Or.inr ⟨_, Eq.trans hsame hrows⟩

theorem reclassify_rows {environmentId : Uuid} {updatedBy : Option Uuid} {now : Instant}
    {db db' : ScheduleDb}
    (h : Commits (reclassifyAsProduction environmentId updatedBy now) db () db') :
    db'.schedules = db.schedules ∨ ∃ environment, db'.schedules =
      db.schedules.map (db.autoPauseRow environment updatedBy now) := by
  unfold reclassifyAsProduction at h
  rw [commits_read_bind] at h
  obtain ⟨environment, -, h⟩ := commits_demand_bind.1 h
  obtain ⟨_, m, hm, h⟩ := commits_bind.1 h
  obtain rfl := commits_update.1 hm
  rcases commits_ite.1 h with ⟨-, h⟩ | ⟨-, h⟩
  · obtain ⟨-, rfl⟩ := commits_pure.1 h
    exact Or.inl rfl
  · unfold autoPause at h
    rw [commits_read_bind] at h
    obtain ⟨_, m, hm, h⟩ := commits_bind.1 h
    obtain rfl := commits_update.1 hm
    exact Or.inr ⟨environment, within_insertAutoPauseIntents sameSchedules_onIntents _ _ _ _ _ h⟩

/-- What a worker may record: that its desired revision is applied, or an error. -/
inductive Records (worker : SyncWorker) : (TaskSchedule → TaskSchedule) → Prop
  | synced (next times : List Instant) (h : worker.phase = .applied times) :
      Records worker (syncedRow next)
  | unsynced (status : TaskScheduleSyncStatus) (code : String) (h : status ≠ .synced) :
      Records worker (unsyncedRow status code)

/-- A settled claim: nothing is recorded, or the outcome at the revision of its intent. -/
def SettledRows (worker : SyncWorker) (now : Instant) (db : ScheduleDb) (stored : Bool)
    (db' : ScheduleDb) : Prop :=
  (stored = false ∧ db'.schedules = db.schedules) ∨
    (stored = true ∧ ∃ intent f, db.getIntent worker.claim.id = some intent ∧ Records worker f ∧
      db'.schedules = db.schedules.map (recordRow intent now f))

theorem recordSyncError_rows {worker : SyncWorker} {token : Uuid} {revision : ℕ} {code : String}
    {status : TaskScheduleSyncStatus} {f : TaskScheduleSyncIntent → TaskScheduleSyncIntent}
    {now : Instant} {db db' : ScheduleDb} {stored : Bool} (hstatus : status ≠ .synced)
    (h : Commits (recordSyncError worker.claim.id token revision code status f now) db stored db') :
    SettledRows worker now db stored db' := by
  unfold recordSyncError at h
  rw [commits_read_bind] at h
  cases hfind : db.getIntent worker.claim.id with
  | none =>
    simp only [hfind] at h
    obtain ⟨rfl, rfl⟩ := commits_pure.1 h
    exact Or.inl ⟨rfl, rfl⟩
  | some intent =>
    simp only [hfind] at h
    rcases commits_ite.1 h with ⟨-, h⟩ | ⟨-, h⟩
    · obtain ⟨rfl, rfl⟩ := commits_pure.1 h
      exact Or.inl ⟨rfl, rfl⟩
    · obtain ⟨_, m, hm, h⟩ := commits_bind.1 h
      obtain rfl := commits_update.1 hm
      obtain ⟨_, m, hm, h⟩ := commits_bind.1 h
      obtain rfl := commits_update.1 hm
      obtain ⟨rfl, rfl⟩ := commits_pure.1 h
      exact Or.inr ⟨rfl, intent, _, hfind, .unsynced status code hstatus, rfl⟩

theorem markApplied_rows {worker : SyncWorker} {token : Uuid} {revision : ℕ}
    {next times : List Instant} {now : Instant} {db db' : ScheduleDb} {stored : Bool}
    (hphase : worker.phase = .applied times)
    (h : Commits (markTaskScheduleSyncApplied worker.claim.id token revision next now) db stored db') :
    SettledRows worker now db stored db' := by
  unfold markTaskScheduleSyncApplied at h
  have h := (commits_raiseIf_bind.1 h).2
  rw [commits_read_bind] at h
  cases hfind : db.getIntent worker.claim.id with
  | none =>
    simp only [hfind] at h
    obtain ⟨rfl, rfl⟩ := commits_pure.1 h
    exact Or.inl ⟨rfl, rfl⟩
  | some intent =>
    simp only [hfind] at h
    rcases commits_ite.1 h with ⟨-, h⟩ | ⟨-, h⟩
    · obtain ⟨rfl, rfl⟩ := commits_pure.1 h
      exact Or.inl ⟨rfl, rfl⟩
    · rw [commits_read_bind] at h
      rcases commits_ite.1 h with ⟨-, h⟩ | ⟨-, h⟩
      · obtain ⟨_, m, hm, h⟩ := commits_bind.1 h
        obtain rfl := commits_update.1 hm
        obtain ⟨rfl, rfl⟩ := commits_pure.1 h
        exact Or.inl ⟨rfl, rfl⟩
      · obtain ⟨_, m, hm, h⟩ := commits_bind.1 h
        obtain rfl := commits_update.1 hm
        obtain ⟨_, m, hm, h⟩ := commits_bind.1 h
        obtain rfl := commits_update.1 hm
        obtain ⟨rfl, rfl⟩ := commits_pure.1 h
        exact Or.inr ⟨rfl, intent, _, hfind, .synced next times hphase, rfl⟩

theorem retryOrFail_rows {worker : SyncWorker} {code exhausted : String} {now : Instant}
    {db db' : ScheduleDb} {stored : Bool}
    (h : Commits (retryOrFail worker code exhausted now) db stored db') :
    SettledRows worker now db stored db' := by
  rcases commits_ite.1 h with ⟨-, h⟩ | ⟨-, h⟩
  · exact recordSyncError_rows (by simp) h
  · exact recordSyncError_rows (by simp) (commits_raiseIf_bind.1 h).2

theorem settle_rows {worker : SyncWorker} {now : Instant} {db db' : ScheduleDb} {stored : Bool}
    (h : Commits (settleSync worker now) db stored db') : SettledRows worker now db stored db' := by
  unfold settleSync at h
  split at h
  · exact markApplied_rows (by assumption) h
  · exact recordSyncError_rows (by simp) h
  · exact retryOrFail_rows h
  · exact retryOrFail_rows h

/-! ### One row -/

/-- The event stores a sync outcome at the revision of the row. -/
def storesOutcome (e : ScheduleEvent) (db : ScheduleDb) (r : TaskSchedule) : Bool :=
  match e with
  | .settle worker now =>
    match settleSync worker now db with
    | .ok (true, _) => (db.getIntent worker.claim.id).any fun i =>
        r.id = i.taskScheduleId ∧ r.revision = i.scheduleRevision
    | _ => false
  | _ => false

/-- The row before and after an event. -/
inductive RowMove (e : ScheduleEvent) (db : ScheduleDb) (r : TaskSchedule) : TaskSchedule → Prop
  | kept (h : storesOutcome e db r = false) : RowMove e db r r
  | moved (status : TaskScheduleStatus) (reason : Option String) (updatedBy : Option Uuid)
      (time : Instant) (hstatus : r.status ≠ status)
      (htime : time = e.time.getD 0 ∨ time = max r.updatedAt (e.time.getD 0)) :
      RowMove e db r (r.transitioned status reason updatedBy time)
  | recorded (h : storesOutcome e db r = true) (worker : SyncWorker) (now : Instant)
      (f : TaskSchedule → TaskSchedule) (he : e = .settle worker now) (hf : Records worker f) :
      RowMove e db r { f r with updatedAt := max r.updatedAt now }

theorem RowMove.id {e : ScheduleEvent} {db : ScheduleDb} {r r' : TaskSchedule}
    (h : RowMove e db r r') : r'.id = r.id ∧ r'.temporalScheduleId = r.temporalScheduleId ∧
      r'.toTaskScheduleDefinition = r.toTaskScheduleDefinition := by
  cases h with
  | kept => exact ⟨rfl, rfl, rfl⟩
  | moved => exact ⟨rfl, rfl, rfl⟩
  | recorded h worker now f he hf => cases hf <;> exact ⟨rfl, rfl, rfl⟩

/-- The rows after an event: the old ones moved, and at most one new one. -/
def RowsAfter (e : ScheduleEvent) (db db' : ScheduleDb) : Prop :=
  ∃ rows added, db'.schedules = rows ++ added ∧ List.Forall₂ (RowMove e db) db.schedules rows ∧
    (added = [] ∨ ∃ new, added = [new] ∧ FreshRow db (e.time.getD 0) new ∧ db.nextId < db'.nextId)

theorem rowsAfter_of_same {e : ScheduleEvent} {db db' : ScheduleDb}
    (he : ∀ r, storesOutcome e db r = false) (h : db'.schedules = db.schedules) :
    RowsAfter e db db' :=
  ⟨db.schedules, [], by simpa using h, List.forall₂_same.2 fun r _ => .kept (he r), Or.inl rfl⟩

theorem rowsAfter_of_map {e : ScheduleEvent} {db db' : ScheduleDb} {f : TaskSchedule → TaskSchedule}
    (hf : ∀ r, RowMove e db r (f r)) (h : db'.schedules = db.schedules.map f) :
    RowsAfter e db db' :=
  ⟨db.schedules.map f, [], by simpa using h,
    List.forall₂_map_right_iff.2 (List.forall₂_same.2 fun r _ => hf r), Or.inl rfl⟩

theorem transitionRow_move {e : ScheduleEvent} {db : ScheduleDb} (he : ∀ r, storesOutcome e db r = false)
    {id : Uuid} {revision : ℕ} {oldStatus newStatus : TaskScheduleStatus} (hne : oldStatus ≠ newStatus)
    {reason : Option String} {updatedBy : Uuid} {now : Instant} (hnow : e.time = some now)
    (r : TaskSchedule) :
    RowMove e db r (transitionRow id revision oldStatus newStatus reason updatedBy now r) := by
  unfold transitionRow
  split
  · rename_i hrow
    refine .moved _ _ _ _ ?_ (Or.inl (by rw [hnow]; rfl))
    rw [hrow.2.2]
    exact hne
  · exact .kept (he r)

theorem rows_event {e : ScheduleEvent} {db db' : ScheduleDb}
    (h : Commits e.transaction db () db') : RowsAfter e db db' := by
  cases e with
  | create service actor versionId command key now =>
    obtain ⟨answer, hc⟩ := commits_discard.1 h
    rcases create_rows hc with hrows | ⟨new, hrows, hnew, hnext⟩
    · exact rowsAfter_of_same (fun _ => rfl) hrows
    · exact ⟨db.schedules, [new], hrows, List.forall₂_same.2 fun r _ => .kept rfl,
        Or.inr ⟨new, rfl, hnew, hnext⟩⟩
  | pause actor id command revision key now =>
    obtain ⟨answer, hc⟩ := commits_discard.1 h
    rcases transition_rows hc with hrows | ⟨updatedBy, hrows⟩
    · exact rowsAfter_of_same (fun _ => rfl) hrows
    · exact rowsAfter_of_map (transitionRow_move (fun _ => rfl) (by simp) rfl) hrows
  | resume actor id command revision key now =>
    obtain ⟨answer, hc⟩ := commits_discard.1 h
    rcases transition_rows hc with hrows | ⟨updatedBy, hrows⟩
    · exact rowsAfter_of_same (fun _ => rfl) hrows
    · exact rowsAfter_of_map (transitionRow_move (fun _ => rfl) (by simp) rfl) hrows
  | reclassify environmentId updatedBy now =>
    rcases reclassify_rows h with hrows | ⟨environment, hrows⟩
    · exact rowsAfter_of_same (fun _ => rfl) hrows
    · refine rowsAfter_of_map (fun r => ?_) hrows
      unfold ScheduleDb.autoPauseRow
      split
      · rename_i haffected
        refine .moved _ _ _ _ ?_ (Or.inr rfl)
        simp only [ScheduleDb.affected, decide_eq_true_eq] at haffected
        rw [haffected.2.2.1]
        simp
      · exact .kept rfl
  | settle worker now =>
    obtain ⟨stored, hc⟩ := commits_discard.1 h
    rcases settle_rows hc with ⟨rfl, hrows⟩ | ⟨rfl, intent, f, hintent, hf, hrows⟩
    · refine rowsAfter_of_same (fun r => ?_) hrows
      simp only [storesOutcome, show settleSync worker now db = .ok (false, db') from hc]
    · refine rowsAfter_of_map (fun r => ?_) hrows
      have hstores : storesOutcome (.settle worker now) db r =
          decide (r.id = intent.taskScheduleId ∧ r.revision = intent.scheduleRevision) := by
        simp only [storesOutcome, show settleSync worker now db = .ok (true, db') from hc, hintent,
          Option.any_some]
      unfold recordRow
      split
      · rename_i hrow
        exact .recorded (by simpa [hstores] using hrow) worker now f rfl hf
      · rename_i hrow
        exact .kept (by simpa [hstores] using hrow)
  | trigger | claim | fire | launch =>
    exact rowsAfter_of_same (fun _ => rfl) (sameSchedules_event (by simp [WritesSchedules]) h)
  | sendCreate | describe | compare | answered | rpcError | raised | execute | crash =>
    exact rowsAfter_of_same (fun _ => rfl) (sameSchedules_event (by simp [WritesSchedules]) h)

end Atlas.Proofs.Schedules
