import AtlasTestOps.Proofs.PausedFires

/-! Whether Temporal Schedules follow the desired state. The database accepts an outcome only
of the current revision, but nothing fences the calls themselves: the invariant below holds as
long as no pause call is executed after its claim's revision has been left. -/

namespace Atlas.Proofs.Schedules

open Atlas Atlas.Task Atlas.Store Atlas.Service Atlas.Orchestration Txn

/-! ### The paused flag -/

/-- The paused flag of a Temporal Schedule, if there is one. -/
def flag (schedules : List TemporalSchedule) (id : TemporalScheduleId) : Option Bool :=
  (schedules.find? fun t => t.id = id).map TemporalSchedule.paused

theorem flag_setPaused {schedules : List TemporalSchedule} {id k : TemporalScheduleId} {b : Bool} :
    flag (schedules.map fun t => if t.id = k then { t with paused := b } else t) id =
      if id = k then (flag schedules id).map fun _ => b else flag schedules id := by
  unfold flag
  have hids : ∀ t : TemporalSchedule,
      decide ((if t.id = k then { t with paused := b } else t).id = id) = decide (t.id = id) := by
    intro t
    split <;> rfl
  rw [List.find?_map, show ((fun t : TemporalSchedule => decide (t.id = id)) ∘ fun t =>
    if t.id = k then { t with paused := b } else t) = fun t => decide (t.id = id) from funext hids]
  cases hfind : schedules.find? fun t => decide (t.id = id) with
  | none => simp
  | some t =>
    have hid : t.id = id := by simpa using List.find?_some hfind
    by_cases h : id = k <;> simp [hid, h]

theorem flag_append {schedules : List TemporalSchedule} {t : TemporalSchedule}
    {id : TemporalScheduleId} :
    flag (schedules ++ [t]) id =
      (flag schedules id).or (if t.id = id then some t.paused else none) := by
  unfold flag
  rw [List.find?_append]
  cases schedules.find? fun t => t.id = id with
  | none => by_cases h : t.id = id <;> simp [h]
  | some t => rfl

theorem flag_isSome {schedules : List TemporalSchedule} {id : TemporalScheduleId} :
    (flag schedules id).isSome = schedules.any fun t => t.id = id := by
  rw [Bool.eq_iff_iff]
  simp [flag, List.find?_isSome]

/-- A create call leaves every existing Schedule as it is. -/
theorem flag_create {call : TemporalCall} {t : TemporalSchedule} (hop : call.op = .create t)
    {schedules : List TemporalSchedule} {id : TemporalScheduleId} :
    (∀ b, flag schedules id = some b → flag (call.execute schedules) id = some b) ∧
      (t.id = id → (flag (call.execute schedules) id).isSome) := by
  simp only [TemporalCall.execute, hop]
  split
  · rename_i hexists
    refine ⟨fun _ h => h, fun hid => ?_⟩
    rw [flag_isSome, ← hid]
    exact hexists
  · rw [flag_append]
    refine ⟨fun b hb => by rw [hb]; rfl, fun hid => ?_⟩
    rw [if_pos hid]
    cases flag schedules id <;> rfl

/-! ### The invariant -/

/-- A claim is of a stored intent, and of a schedule that has not gone back since. -/
structure ClaimOk (claim : ClaimedTaskScheduleSyncIntent) (db : ScheduleDb) : Prop where
  below : claim.taskScheduleId < db.nextId
  intent : ∃ i, db.getIntent claim.id = some i ∧ i.taskScheduleId = claim.taskScheduleId ∧
    i.scheduleRevision = claim.scheduleRevision
  rows : ∀ r ∈ db.schedules, r.id = claim.taskScheduleId →
    r.tenantId = claim.definition.tenantId ∧ claim.scheduleRevision ≤ r.revision ∧
      (claim.scheduleRevision = r.revision → claim.desiredStatus = r.status)

/-- The claim names its Temporal Schedule as `_validate_sync_intent` demands. -/
def Valid (claim : ClaimedTaskScheduleSyncIntent) : Prop :=
  claim.temporalScheduleId = taskScheduleTemporalId claim.definition.tenantId claim.taskScheduleId

/-- What a phase knows of Temporal, while its claim's revision is the current one. -/
def PhaseOk (s : ScheduleSystem) (w : SyncWorker) : Prop :=
  let now := flag s.temporal w.claim.temporalScheduleId
  match w.phase with
  | .creating callId => (∃ call ∈ s.calls, call.id = callId) ∨ now.isSome
  | .holding => now.isSome
  | .described paused _ =>
    now.isSome ∧ (paused = desiredPaused w.claim → now = some (desiredPaused w.claim))
  | .setting callId _ =>
    now.isSome ∧ ((∃ call ∈ s.calls, call.id = callId) ∨ now = some (desiredPaused w.claim))
  | .applied _ => now = some (desiredPaused w.claim)
  | _ => True

/-- The call that a phase waits for. -/
def awaitedCall (w : SyncWorker) : Option TemporalCall :=
  match w.phase with
  | .creating callId => some (createCall callId w.claim)
  | .setting callId _ => some (pauseCall callId w.claim)
  | _ => none

/-- Past the check of its claim. -/
def started : SyncPhase → Prop
  | .creating _ | .holding | .described _ _ | .setting _ _ | .applied _ => True
  | _ => False

structure SyncInv (s : ScheduleSystem) : Prop where
  identity : ∀ r ∈ s.db.schedules, r.temporalScheduleId = ⟨r.tenantId, r.id⟩
  workers : ∀ w ∈ s.workers, ClaimOk w.claim s.db
  valid : ∀ w ∈ s.workers, started w.phase → Valid w.claim
  calls : ∀ call ∈ s.calls, call.id < s.nextCall ∧ ClaimOk call.claim s.db ∧ Valid call.claim ∧
    (call = createCall call.id call.claim ∨ call = pauseCall call.id call.claim)
  awaited : ∀ w ∈ s.workers, ∀ call, awaitedCall w = some call → call.id < s.nextCall ∧
    ∀ c ∈ s.calls, c.id = call.id → c = call
  phases : ∀ w ∈ s.workers, ∀ r ∈ s.db.schedules, r.id = w.claim.taskScheduleId →
    w.claim.scheduleRevision = r.revision → PhaseOk s w
  synced : ∀ r ∈ s.db.schedules, r.syncStatus = .synced →
    flag s.temporal r.temporalScheduleId = some (decide (r.status = .paused))

/-- While the revision is the claim's, what the claim desires is what the schedule is. -/
theorem ClaimOk.desired {claim : ClaimedTaskScheduleSyncIntent} {db : ScheduleDb}
    (h : ClaimOk claim db) {r : TaskSchedule} (hr : r ∈ db.schedules)
    (hid : r.id = claim.taskScheduleId) (hrev : claim.scheduleRevision = r.revision) :
    desiredPaused claim = decide (r.status = .paused) := by
  unfold desiredPaused
  rw [(h.rows r hr hid).2.2 hrev]

theorem Valid.same_iff {claim : ClaimedTaskScheduleSyncIntent} {db : ScheduleDb} (hv : Valid claim)
    (h : ClaimOk claim db) {r : TaskSchedule} (hr : r ∈ db.schedules)
    (hident : r.temporalScheduleId = ⟨r.tenantId, r.id⟩) :
    claim.temporalScheduleId = r.temporalScheduleId ↔ r.id = claim.taskScheduleId := by
  rw [hv, hident]
  constructor
  · intro heq
    exact (congrArg TemporalScheduleId.scheduleId heq).symm
  · intro hid
    unfold taskScheduleTemporalId
    rw [(h.rows r hr hid).1, hid]

/-! ### Steps of the database -/

/-- A row after an event is one that moved, or a new one. -/
theorem RowsAfter.mem {e : ScheduleEvent} {db db' : ScheduleDb} (h : RowsAfter e db db')
    {r' : TaskSchedule} (hr' : r' ∈ db'.schedules) :
    (∃ r ∈ db.schedules, RowMove e db r r') ∨ FreshRow db (e.time.getD 0) r' := by
  obtain ⟨rows, added, hrows, hmoves, hadded⟩ := h
  rw [hrows] at hr'
  rcases List.mem_append.1 hr' with hold | hnew
  · exact Or.inl (Table.exists_left_of_forall₂ hmoves hold)
  · rcases hadded with rfl | ⟨new, rfl, hfresh, -⟩
    · cases hnew
    · rw [List.mem_singleton.1 hnew]
      exact Or.inr hfresh

/-- Either the revision is left behind, or revision and status are as they were. -/
theorem RowMove.revision {e : ScheduleEvent} {db : ScheduleDb} {r r' : TaskSchedule}
    (h : RowMove e db r r') :
    (r'.revision = r.revision + 1 ∧ r'.syncStatus = .pending) ∨
      (r'.revision = r.revision ∧ r'.status = r.status) := by
  cases h with
  | kept => exact Or.inr ⟨rfl, rfl⟩
  | moved => exact Or.inl ⟨rfl, rfl⟩
  | recorded h worker now f he hf => cases hf <;> exact Or.inr ⟨rfl, rfl⟩

section Db

variable {e : ScheduleEvent} {db db' : ScheduleDb} {claim : ClaimedTaskScheduleSyncIntent}

theorem ClaimOk.moved (h : ClaimOk claim db) (hafter : RowsAfter e db db')
    (hkept : IntentsKept db db') : ClaimOk claim db' := by
  refine ⟨Nat.lt_of_lt_of_le h.below hkept.nextId, ?_, fun r' hr' hid => ?_⟩
  · obtain ⟨i, hi, htask, hrev⟩ := h.intent
    obtain ⟨i', hi', -, htask', hrev'⟩ := hkept.intents _ i hi
    exact ⟨i', hi', htask'.trans htask, hrev'.trans hrev⟩
  · rcases hafter.mem hr' with ⟨r, hr, hmove⟩ | hfresh
    · obtain ⟨hrid, -, hdef⟩ := hmove.id
      obtain ⟨htenant, hle, hstatus⟩ := h.rows r hr (hrid.symm.trans hid)
      have htenant' : r'.tenantId = claim.definition.tenantId :=
        (congrArg TaskScheduleDefinition.tenantId hdef).trans htenant
      rcases hmove.revision with ⟨hrev, -⟩ | ⟨hrev, hsame⟩
      · exact ⟨htenant', by omega, fun heq => absurd heq (by omega)⟩
      · exact ⟨htenant', by omega, fun heq => (hstatus (heq.trans hrev)).trans hsame.symm⟩
    · exact absurd (hfresh.id ▸ hid) (Nat.ne_of_gt h.below)

/-- At the claim's revision a row was there before the event, at that revision. -/
theorem ClaimOk.row_before (h : ClaimOk claim db) (hafter : RowsAfter e db db') {r' : TaskSchedule}
    (hr' : r' ∈ db'.schedules) (hid : r'.id = claim.taskScheduleId)
    (hrev : claim.scheduleRevision = r'.revision) :
    ∃ r ∈ db.schedules, r.id = claim.taskScheduleId ∧ claim.scheduleRevision = r.revision := by
  rcases hafter.mem hr' with ⟨r, hr, hmove⟩ | hfresh
  · have hrid := hmove.id.1.symm.trans hid
    refine ⟨r, hr, hrid, ?_⟩
    have hle := (h.rows r hr hrid).2.1
    rcases hmove.revision with ⟨hmoved, -⟩ | ⟨hsame, -⟩
    · omega
    · omega
  · exact absurd (hfresh.id ▸ hid) (Nat.ne_of_gt h.below)

end Db

/-- A database step: rows move to a revision no worker has, or record what a worker knows. -/
theorem SyncInv.db_step {s : ScheduleSystem} (hi : SyncInv s) {e : ScheduleEvent}
    (henabled : e.Enabled s) {db' : ScheduleDb} (hafter : RowsAfter e s.db db')
    (hkept : IntentsKept s.db db') : SyncInv { s with db := db' } := by
  refine ⟨fun r' hr' => ?_, fun w hw => (hi.workers w hw).moved hafter hkept, hi.valid,
    fun call hcall => ?_, hi.awaited, fun w hw r' hr' hid hrev => ?_, fun r' hr' hsync => ?_⟩
  · rcases hafter.mem hr' with ⟨r, hr, hmove⟩ | hfresh
    · obtain ⟨hid, htemporal, hdef⟩ := hmove.id
      rw [htemporal, hi.identity r hr, hid,
        show r'.tenantId = r.tenantId from congrArg TaskScheduleDefinition.tenantId hdef]
    · exact hfresh.temporalScheduleId
  · obtain ⟨hlt, hclaim, hvalid⟩ := hi.calls call hcall
    exact ⟨hlt, hclaim.moved hafter hkept, hvalid⟩
  · obtain ⟨r, hr, hrid, hrrev⟩ := (hi.workers w hw).row_before hafter hr' hid hrev
    exact hi.phases w hw r hr hrid hrrev
  · rcases hafter.mem hr' with ⟨r, hr, hmove⟩ | hfresh
    · cases hmove with
      | kept => exact hi.synced r' hr hsync
      | moved => cases hsync
      | recorded hstores worker now f he hf =>
        subst he
        cases hf with
        | unsynced status code hne => exact absurd hsync hne
        | synced next times hphase =>
          have hw : worker ∈ s.workers := henabled.1
          have hclaim := hi.workers worker hw
          obtain ⟨i, hfound, htask, hirev⟩ := hclaim.intent
          have htarget : r.id = i.taskScheduleId ∧ r.revision = i.scheduleRevision := by
            simp only [storesOutcome] at hstores
            split at hstores
            · simpa [hfound] using hstores
            · cases hstores
          have hid : r.id = worker.claim.taskScheduleId := htarget.1.trans htask
          have hrev : worker.claim.scheduleRevision = r.revision := (htarget.2.trans hirev).symm
          have hok := hi.phases worker hw r hr hid hrev
          simp only [PhaseOk, hphase] at hok
          have hvalid := hi.valid worker hw (by rw [hphase]; trivial)
          have hsame := (hvalid.same_iff hclaim hr (hi.identity r hr)).2 hid
          rw [hsame, hclaim.desired hr hid hrev] at hok
          exact hok
    · exact absurd hsync (by rw [hfresh.syncStatus]; simp)

/-! ### Steps of the dispatchers -/

theorem mem_continue {s : ScheduleSystem} {worker worker' w : SyncWorker}
    (h : w ∈ (s.continue worker worker').workers) : w ∈ s.workers ∨ w = worker' := by
  obtain ⟨w', hw', rfl⟩ := List.mem_map.1 h
  split
  · exact Or.inr rfl
  · exact Or.inl hw'

/-- A worker goes on with its claim, in a phase that fits. -/
theorem SyncInv.continue {s : ScheduleSystem} (hi : SyncInv s) {worker worker' : SyncWorker}
    (hw : worker ∈ s.workers) (hclaim : worker'.claim = worker.claim)
    (hvalid : started worker'.phase → Valid worker.claim)
    (hawaited : ∀ call, awaitedCall worker' = some call → call.id < s.nextCall ∧
      ∀ c ∈ s.calls, c.id = call.id → c = call)
    (hphase : ∀ r ∈ s.db.schedules, r.id = worker.claim.taskScheduleId →
      worker.claim.scheduleRevision = r.revision → PhaseOk s worker') :
    SyncInv (s.continue worker worker') := by
  refine ⟨hi.identity, fun w hmem => ?_, fun w hmem => ?_, hi.calls, fun w hmem => ?_,
    fun w hmem => ?_, hi.synced⟩
  all_goals rcases mem_continue hmem with hold | rfl
  · exact hi.workers w hold
  · rw [hclaim]
    exact hi.workers worker hw
  · exact hi.valid w hold
  · rw [hclaim]
    exact hvalid
  · exact hi.awaited w hold
  · exact hawaited
  · exact hi.phases w hold
  · rw [hclaim]
    exact hphase

/-- A worker ends its work on the claim, or starts it over. -/
theorem SyncInv.leave {s : ScheduleSystem} (hi : SyncInv s) {worker : SyncWorker}
    (hw : worker ∈ s.workers) {attempt : ℕ} {phase : SyncPhase}
    (hphase : phase = .starting ∨ (∃ code, phase = .invariantError code) ∨
      (∃ code, phase = .transientError code) ∨ phase = .unexpected) :
    SyncInv (s.continue worker { worker with attempt := attempt, phase := phase }) := by
  have hclaim : ({ worker with attempt := attempt, phase := phase } : SyncWorker).claim =
    worker.claim := rfl
  refine hi.continue hw hclaim ?_ ?_ ?_
  · rcases hphase with rfl | ⟨code, rfl⟩ | ⟨code, rfl⟩ | rfl <;> exact fun h => h.elim
  · rcases hphase with rfl | ⟨code, rfl⟩ | ⟨code, rfl⟩ | rfl <;> exact fun _ h => nomatch h
  · rcases hphase with rfl | ⟨code, rfl⟩ | ⟨code, rfl⟩ | rfl <;> exact fun _ _ _ _ => trivial

theorem PhaseOk.sent {s : ScheduleSystem} {call : TemporalCall} {w : SyncWorker}
    (h : PhaseOk s w) : PhaseOk (s.sent call) w := by
  unfold PhaseOk at h ⊢
  split
  all_goals rename_i hphase
  all_goals simp only [hphase] at h
  · exact h.imp_left fun ⟨c, hc, hid⟩ => ⟨c, List.mem_append_left _ hc, hid⟩
  · exact h
  · exact h
  · exact ⟨h.1, h.2.imp_left fun ⟨c, hc, hid⟩ => ⟨c, List.mem_append_left _ hc, hid⟩⟩
  · exact h
  · trivial

theorem SyncInv.sent {s : ScheduleSystem} (hi : SyncInv s) {call : TemporalCall}
    (hid : call.id = s.nextCall) (hclaim : ClaimOk call.claim s.db) (hvalid : Valid call.claim)
    (hform : call = createCall call.id call.claim ∨ call = pauseCall call.id call.claim) :
    SyncInv (s.sent call) := by
  refine ⟨hi.identity, hi.workers, hi.valid, fun c hc => ?_, fun w hw c hc => ?_,
    fun w hw r hr h₁ h₂ => (hi.phases w hw r hr h₁ h₂).sent, hi.synced⟩
  · rcases List.mem_append.1 hc with hold | hnew
    · obtain ⟨hlt, hrest⟩ := hi.calls c hold
      exact ⟨Nat.lt_succ_of_lt hlt, hrest⟩
    · obtain rfl := List.mem_singleton.1 hnew
      exact ⟨hid ▸ Nat.lt_succ_self _, hclaim, hvalid, hform⟩
  · obtain ⟨hlt, honly⟩ := hi.awaited w hw c hc
    refine ⟨Nat.lt_succ_of_lt hlt, fun c' hc' heq => ?_⟩
    rcases List.mem_append.1 hc' with hold | hnew
    · exact honly c' hold heq
    · rw [List.mem_singleton.1 hnew] at heq
      exact absurd (hid ▸ heq) (Nat.ne_of_gt hlt)

/-- A worker sends the call that its next phase waits for. -/
theorem SyncInv.send {s : ScheduleSystem} (hi : SyncInv s) {worker worker' : SyncWorker}
    {call : TemporalCall} (hw : worker ∈ s.workers) (hclaim : worker'.claim = worker.claim)
    (hcall : call.claim = worker.claim) (hid : call.id = s.nextCall) (hvalid : Valid worker.claim)
    (hform : call = createCall call.id call.claim ∨ call = pauseCall call.id call.claim)
    (hawaits : awaitedCall worker' = some call)
    (hphase : ∀ r ∈ s.db.schedules, r.id = worker.claim.taskScheduleId →
      worker.claim.scheduleRevision = r.revision → PhaseOk (s.sent call) worker') :
    SyncInv ((s.sent call).continue worker worker') := by
  have hsent := hi.sent hid (hcall ▸ hi.workers worker hw) (hcall ▸ hvalid) hform
  refine hsent.continue hw hclaim (fun _ => hvalid) (fun c hc => ?_) hphase
  obtain rfl := Option.some.inj (hawaits.symm.trans hc)
  refine ⟨hid ▸ Nat.lt_succ_self _, fun c' hc' heq => ?_⟩
  rcases List.mem_append.1 hc' with hold | hnew
  · exact absurd (heq.trans hid) (Nat.ne_of_lt (hi.calls c' hold).1)
  · exact List.mem_singleton.1 hnew

theorem SyncInv.dismiss {s : ScheduleSystem} (hi : SyncInv s) (worker : SyncWorker) :
    SyncInv (s.dismiss worker) := by
  have hsub : ∀ w ∈ (s.dismiss worker).workers, w ∈ s.workers := fun w hw =>
    List.mem_of_mem_filter hw
  exact ⟨hi.identity, fun w hw => hi.workers w (hsub w hw), fun w hw => hi.valid w (hsub w hw),
    hi.calls, fun w hw => hi.awaited w (hsub w hw), fun w hw => hi.phases w (hsub w hw), hi.synced⟩

/-! ### Steps of Temporal -/

def ScheduleSystem.executed (s : ScheduleSystem) (call : TemporalCall) : ScheduleSystem :=
  { s with
    temporal := call.execute s.temporal
    calls := s.calls.filter fun c => c.id ≠ call.id }

/-- What a phase knows stays known when an executed call keeps the flag it desires, and does
what the phase waits for. -/
theorem PhaseOk.executed {s : ScheduleSystem} {call : TemporalCall} {w : SyncWorker}
    (h : PhaseOk s w)
    (hsome : (flag s.temporal w.claim.temporalScheduleId).isSome →
      (flag (call.execute s.temporal) w.claim.temporalScheduleId).isSome)
    (hdesired : flag s.temporal w.claim.temporalScheduleId = some (desiredPaused w.claim) →
      flag (call.execute s.temporal) w.claim.temporalScheduleId = some (desiredPaused w.claim))
    (hcreated : ∀ n, w.phase = .creating n → n = call.id →
      (flag (call.execute s.temporal) w.claim.temporalScheduleId).isSome)
    (hset : ∀ n next, w.phase = .setting n next → n = call.id →
      flag (call.execute s.temporal) w.claim.temporalScheduleId = some (desiredPaused w.claim)) :
    PhaseOk (ScheduleSystem.executed s call) w := by
  have hcalls : ∀ n, n ≠ call.id → (∃ c ∈ s.calls, c.id = n) →
      ∃ c ∈ (ScheduleSystem.executed s call).calls, c.id = n := by
    rintro n hne ⟨c, hc, rfl⟩
    exact ⟨c, List.mem_filter.2 ⟨hc, by simpa using hne⟩, rfl⟩
  unfold PhaseOk at h ⊢
  cases hphase : w.phase with
  | creating n =>
    simp only [hphase] at h ⊢
    by_cases hn : n = call.id
    · exact Or.inr (hcreated n hphase hn)
    · exact h.imp (hcalls n hn) hsome
  | holding =>
    simp only [hphase] at h ⊢
    exact hsome h
  | described paused next =>
    simp only [hphase] at h ⊢
    exact ⟨hsome h.1, fun hp => hdesired (h.2 hp)⟩
  | setting n next =>
    simp only [hphase] at h ⊢
    refine ⟨hsome h.1, ?_⟩
    by_cases hn : n = call.id
    · exact Or.inr (hset n next hphase hn)
    · exact h.2.imp (hcalls n hn) hdesired
  | applied next =>
    simp only [hphase] at h ⊢
    exact hdesired h
  | starting | invariantError | transientError | unexpected => trivial

theorem PhaseOk.of_not_started {s : ScheduleSystem} {w : SyncWorker} (h : ¬ started w.phase) :
    PhaseOk s w := by
  unfold PhaseOk
  cases hphase : w.phase with
  | starting | invariantError | transientError | unexpected => trivial
  | creating | holding | described | setting | applied => exact absurd (by rw [hphase]; trivial) h

/-- A pause call is executed only while the schedule is at the revision of its claim. -/
def Fenced (e : ScheduleEvent) (s : ScheduleSystem) : Prop :=
  match e with
  | .execute call => call.op = .setPaused (desiredPaused call.claim) →
    ∀ r ∈ s.db.schedules, r.id = call.claim.taskScheduleId →
      r.revision = call.claim.scheduleRevision
  | _ => True

instance (e : ScheduleEvent) (s : ScheduleSystem) : Decidable (Fenced e s) :=
  match e with
  | .execute _ => inferInstanceAs (Decidable (_ → _))
  | .create _ _ _ _ _ _ | .pause _ _ _ _ _ _ | .resume _ _ _ _ _ _ | .reclassify _ _ _
  | .trigger _ _ _ _ _ | .claim _ _ | .sendCreate _ | .describe _ _ | .compare _ | .answered _
  | .rpcError _ _ | .raised _ | .settle _ _ | .crash _ | .fire _ _ | .launch _ _ _ => isTrue trivial

theorem SyncInv.executed_create {s : ScheduleSystem} (hi : SyncInv s) {call : TemporalCall}
    (hcall : call ∈ s.calls) (hform : call = createCall call.id call.claim) :
    SyncInv (ScheduleSystem.executed s call) := by
  have hop : call.op = .create ⟨call.claim.temporalScheduleId, buildSchedule call.claim,
    desiredPaused call.claim⟩ := congrArg TemporalCall.op hform
  have hkept := fun id b => (@flag_create call _ hop s.temporal id).1 b
  have hsub : ∀ c ∈ (ScheduleSystem.executed s call).calls, c ∈ s.calls := fun c hc =>
    List.mem_of_mem_filter hc
  refine ⟨hi.identity, hi.workers, hi.valid, fun c hc => hi.calls c (hsub c hc),
    fun w hw c hc => ?_, fun w hw r hr hid hrev => ?_, fun r hr hsync => hkept _ _ (hi.synced r hr hsync)⟩
  · obtain ⟨hlt, honly⟩ := hi.awaited w hw c hc
    exact ⟨hlt, fun c' hc' => honly c' (hsub c' hc')⟩
  · refine (hi.phases w hw r hr hid hrev).executed (fun h => ?_) (hkept _ _) (fun n hphase hn => ?_)
      (fun n next hphase hn => ?_)
    · obtain ⟨b, hb⟩ := Option.isSome_iff_exists.1 h
      rw [hkept _ b hb]
      rfl
    · have hawaits : awaitedCall w = some (createCall n w.claim) := by simp only [awaitedCall, hphase]
      have hsame := (hi.awaited w hw _ hawaits).2 call hcall hn.symm
      exact (flag_create hop).2 (congrArg (fun c => c.claim.temporalScheduleId) hsame)
    · have hawaits : awaitedCall w = some (pauseCall n w.claim) := by simp only [awaitedCall, hphase]
      have hsame := (hi.awaited w hw _ hawaits).2 call hcall hn.symm
      rw [congrArg TemporalCall.op hsame] at hop
      cases hop

theorem SyncInv.executed_pause {s : ScheduleSystem} (hi : SyncInv s) {call : TemporalCall}
    (hcall : call ∈ s.calls) (hform : call = pauseCall call.id call.claim)
    (hfenced : ∀ r ∈ s.db.schedules, r.id = call.claim.taskScheduleId →
      r.revision = call.claim.scheduleRevision) :
    SyncInv (ScheduleSystem.executed s call) := by
  have hop : call.op = .setPaused (desiredPaused call.claim) := congrArg TemporalCall.op hform
  obtain ⟨-, hclaim, hvalid, -⟩ := hi.calls call hcall
  have hflag : ∀ id, flag (call.execute s.temporal) id =
      if id = call.claim.temporalScheduleId then
        (flag s.temporal id).map fun _ => desiredPaused call.claim
      else flag s.temporal id := fun id => by
    simp only [TemporalCall.execute, hop]
    exact flag_setPaused
  -- the call sets what the schedule of its claim is now
  have hcurrent : ∀ r ∈ s.db.schedules, r.temporalScheduleId = call.claim.temporalScheduleId →
      desiredPaused call.claim = decide (r.status = .paused) := fun r hr hsame => by
    have hid := (hvalid.same_iff hclaim hr (hi.identity r hr)).1 hsame.symm
    exact hclaim.desired hr hid (hfenced r hr hid).symm
  have hsub : ∀ c ∈ (ScheduleSystem.executed s call).calls, c ∈ s.calls := fun c hc =>
    List.mem_of_mem_filter hc
  refine ⟨hi.identity, hi.workers, hi.valid, fun c hc => hi.calls c (hsub c hc),
    fun w hw c hc => ?_, fun w hw r hr hid hrev => ?_, fun r hr hsync => ?_⟩
  · obtain ⟨hlt, honly⟩ := hi.awaited w hw c hc
    exact ⟨hlt, fun c' hc' => honly c' (hsub c' hc')⟩
  · by_cases hstarted : started w.phase
    · have hok := hi.workers w hw
      have hw' := ((hi.valid w hw hstarted).same_iff hok hr (hi.identity r hr)).2 hid
      have hdesired := hok.desired hr hid hrev
      have hagree : w.claim.temporalScheduleId = call.claim.temporalScheduleId →
          desiredPaused call.claim = desiredPaused w.claim := fun hsame => by
        rw [hcurrent r hr (hw'.symm.trans hsame), hdesired]
      refine (hi.phases w hw r hr hid hrev).executed (fun h => ?_) (fun h => ?_)
        (fun n hphase hn => ?_) (fun n next hphase hn => ?_)
      · rw [hflag]
        split
        · rwa [Option.isSome_map]
        · exact h
      · rw [hflag]
        split
        · rename_i hsame
          rw [h, hagree hsame]
          rfl
        · exact h
      · have hawaits : awaitedCall w = some (createCall n w.claim) := by simp only [awaitedCall, hphase]
        have hsame := (hi.awaited w hw _ hawaits).2 call hcall hn.symm
        rw [congrArg TemporalCall.op hsame] at hop
        cases hop
      · have hawaits : awaitedCall w = some (pauseCall n w.claim) := by simp only [awaitedCall, hphase]
        have hsame : call.claim = w.claim :=
          congrArg TemporalCall.claim ((hi.awaited w hw _ hawaits).2 call hcall hn.symm)
        have hsome := hi.phases w hw r hr hid hrev
        simp only [PhaseOk, hphase] at hsome
        obtain ⟨b, hb⟩ := Option.isSome_iff_exists.1 hsome.1
        rw [hflag, hsame, if_pos rfl, hb]
        rfl
    · exact PhaseOk.of_not_started hstarted
  · rw [show (ScheduleSystem.executed s call).temporal = call.execute s.temporal from rfl, hflag]
    split
    · rename_i hsame
      rw [hi.synced r hr hsync, hcurrent r hr hsame]
      rfl
    · exact hi.synced r hr hsync

/-! ### Every step -/

/-- A claim joins its intent with the schedule at the intent's revision. -/
theorem claimedIntent_ok {db : ScheduleDb} (hids : (db.schedules.map TaskSchedule.id).Nodup)
    (hbelow : ∀ r ∈ db.schedules, r.id < db.nextId) {id : Uuid}
    {claim : ClaimedTaskScheduleSyncIntent} (h : db.claimedIntent id = some claim) :
    ClaimOk claim db := by
  simp only [ScheduleDb.claimedIntent, Option.bind_eq_bind, Option.bind_eq_some_iff,
    Option.some.injEq] at h
  obtain ⟨intent, hintent, token, -, expires, -, schedule, hfind, rfl⟩ := h
  have hmem := List.mem_of_find?_eq_some hfind
  have hjoin := List.find?_some hfind
  simp only [decide_eq_true_eq] at hjoin
  have hid : intent.id = id := by simpa using List.find?_some hintent
  refine ⟨hjoin.1 ▸ hbelow schedule hmem, ⟨intent, hid.symm ▸ hintent, rfl, rfl⟩, fun r hr hrid => ?_⟩
  obtain rfl := Table.eq_of_key hids hr hmem (hrid.trans hjoin.1.symm)
  exact ⟨rfl, hjoin.2.2.2.ge, fun _ => rfl⟩

theorem claims_ok {consumer : SyncConsumer} {now : Instant} {db db' : ScheduleDb}
    {claims : List ClaimedTaskScheduleSyncIntent}
    (h : Commits (claimTaskScheduleSyncIntents consumer.dispatcherId consumer.temporalNamespace
      consumer.batchSize consumer.leaseSeconds now) db claims db') :
    ∀ claim ∈ claims, ∃ id, db'.claimedIntent id = some claim := by
  unfold claimTaskScheduleSyncIntents supersedeStale at h
  obtain ⟨_, m, hm, hrest⟩ := commits_bind.1 (commits_raiseIf_bind.1 h).2
  obtain rfl := commits_update.1 hm
  rw [commits_read_bind, commits_read_bind] at hrest
  obtain ⟨_, m', hm', hread⟩ := commits_bind.1 hrest
  obtain rfl := commits_update.1 hm'
  obtain ⟨rfl, rfl⟩ := commits_read.1 hread
  intro claim hclaim
  obtain ⟨id, -, hid⟩ := List.mem_filterMap.1 hclaim
  exact ⟨id, hid⟩

/-- New workers start on claims that are good. -/
theorem SyncInv.hired {s : ScheduleSystem} (hi : SyncInv s) {hired : List SyncWorker}
    (h : ∀ w ∈ hired, ClaimOk w.claim s.db ∧ w.phase = .starting) :
    SyncInv { s with workers := s.workers ++ hired } := by
  have hnew : ∀ w ∈ hired, ¬ started w.phase := fun w hw => by
    rw [(h w hw).2]
    exact fun hstarted => hstarted
  refine ⟨hi.identity, fun w hw => ?_, fun w hw hstarted => ?_, hi.calls, fun w hw call hcall => ?_,
    fun w hw => ?_, hi.synced⟩
  all_goals rcases List.mem_append.1 hw with hold | hjoined
  · exact hi.workers w hold
  · exact (h w hjoined).1
  · exact hi.valid w hold hstarted
  · exact absurd hstarted (hnew w hjoined)
  · exact hi.awaited w hold call hcall
  · rw [awaitedCall, (h w hjoined).2] at hcall
    cases hcall
  · exact hi.phases w hold
  · exact fun _ _ _ _ => PhaseOk.of_not_started (hnew w hjoined)

theorem validSyncIntent_valid {clientNamespace : String} {claim : ClaimedTaskScheduleSyncIntent}
    (h : ¬ validSyncIntent clientNamespace claim = false) : Valid claim := by
  simp only [Bool.not_eq_false, validSyncIntent, decide_eq_true_eq] at h
  exact h.2.2.1

theorem awaitedCall_returned {worker : SyncWorker} {next : List Instant} :
    awaitedCall { worker with phase := returned next } = none := by
  unfold awaitedCall returned
  cases normalizeNextFireTimes next <;> rfl

theorem phaseOk_returned {s : ScheduleSystem} {worker : SyncWorker} {next : List Instant}
    (h : flag s.temporal worker.claim.temporalScheduleId = some (desiredPaused worker.claim)) :
    PhaseOk s { worker with phase := returned next } := by
  unfold returned
  cases normalizeNextFireTimes next with
  | ok times => exact h
  | error code => trivial

section Step

variable {s : ScheduleSystem} (hi : SyncInv s) {worker : SyncWorker} (hw : worker ∈ s.workers)

include hi hw

theorem SyncInv.sendCreate :
    SyncInv ((ScheduleEvent.sendCreate worker).outside s) := by
  unfold ScheduleEvent.outside
  dsimp only
  split
  · exact hi.leave hw (Or.inr (Or.inl ⟨_, rfl⟩))
  · rename_i hvalid
    exact hi.send hw rfl rfl rfl (validSyncIntent_valid hvalid) (Or.inl rfl) rfl
      fun r hr hid hrev => Or.inl ⟨_, List.mem_append_right _ (List.mem_singleton_self _), rfl⟩

theorem SyncInv.describe (hphase : worker.phase = .holding) (nextActionTimes : List Instant) :
    SyncInv ((ScheduleEvent.describe worker nextActionTimes).outside s) := by
  have hvalid := hi.valid worker hw (by rw [hphase]; trivial)
  unfold ScheduleEvent.outside
  dsimp only
  unfold SyncWorker.afterDescribe
  split
  · exact hi.leave hw (Or.inr (Or.inl ⟨_, rfl⟩))
  · rename_i actual hactual
    have hflag : flag s.temporal worker.claim.temporalScheduleId = some actual.paused := by
      rw [flag, hactual]
      rfl
    split
    · exact hi.leave hw (Or.inr (Or.inl ⟨_, rfl⟩))
    · exact hi.continue hw rfl (fun _ => hvalid) (fun _ h => nomatch h) fun r hr hid hrev =>
        ⟨by rw [hflag]; rfl, fun hsame => by rw [hflag, hsame]⟩

theorem SyncInv.compare {paused : Bool} {next : List Instant}
    (hphase : worker.phase = .described paused next) :
    SyncInv ((ScheduleEvent.compare worker).outside s) := by
  have hvalid := hi.valid worker hw (by rw [hphase]; trivial)
  simp only [ScheduleEvent.outside, hphase]
  split
  · refine hi.send hw rfl rfl rfl hvalid (Or.inr rfl) rfl fun r hr hid hrev => ?_
    have hok := hi.phases worker hw r hr hid hrev
    simp only [PhaseOk, hphase] at hok
    exact ⟨hok.1, Or.inl ⟨_, List.mem_append_right _ (List.mem_singleton_self _), rfl⟩⟩
  · rename_i hsame
    refine hi.continue hw rfl (fun _ => hvalid) (fun call h => ?_) fun r hr hid hrev => ?_
    · rw [awaitedCall_returned] at h
      cases h
    · have hok := hi.phases worker hw r hr hid hrev
      simp only [PhaseOk, hphase] at hok
      exact phaseOk_returned (hok.2 (not_not.1 hsame))

theorem SyncInv.answered_create {callId : ℕ} (hphase : worker.phase = .creating callId)
    (hdone : ∀ call ∈ s.calls, call.id ≠ callId) :
    SyncInv ((ScheduleEvent.answered worker).outside s) := by
  have hvalid := hi.valid worker hw (by rw [hphase]; trivial)
  simp only [ScheduleEvent.outside, hphase]
  refine hi.continue hw rfl (fun _ => hvalid) (fun call h => ?_) fun r hr hid hrev => ?_
  · cases h
  · have hok := hi.phases worker hw r hr hid hrev
    simp only [PhaseOk, hphase] at hok
    apply hok.resolve_left
    rintro ⟨call, hcall, heq⟩
    exact hdone call hcall heq

theorem SyncInv.answered_pause {callId : ℕ} {next : List Instant}
    (hphase : worker.phase = .setting callId next) (hdone : ∀ call ∈ s.calls, call.id ≠ callId) :
    SyncInv ((ScheduleEvent.answered worker).outside s) := by
  have hvalid := hi.valid worker hw (by rw [hphase]; trivial)
  simp only [ScheduleEvent.outside, hphase]
  refine hi.continue hw rfl (fun _ => hvalid) (fun call h => ?_) fun r hr hid hrev => ?_
  · rw [awaitedCall_returned] at h
    cases h
  · have hok := hi.phases worker hw r hr hid hrev
    simp only [PhaseOk, hphase] at hok
    apply phaseOk_returned
    apply hok.2.resolve_left
    rintro ⟨call, hcall, heq⟩
    exact hdone call hcall heq

theorem SyncInv.rpcError (status : RPCStatusCode) :
    SyncInv ((ScheduleEvent.rpcError worker status).outside s) := by
  unfold ScheduleEvent.outside
  dsimp only
  unfold SyncWorker.afterRpcError
  split
  · exact hi.leave hw (Or.inr (Or.inl ⟨_, rfl⟩))
  · split
    · exact hi.leave hw (Or.inr (Or.inl ⟨_, rfl⟩))
    · split
      · exact hi.leave hw (Or.inl rfl)
      · exact hi.leave hw (Or.inr (Or.inr (Or.inl ⟨_, rfl⟩)))

end Step

theorem SyncInv.execute {s : ScheduleSystem} (hi : SyncInv s) {call : TemporalCall}
    (hcall : call ∈ s.calls) (hfenced : Fenced (.execute call) s) :
    SyncInv (ScheduleSystem.executed s call) := by
  obtain ⟨-, -, -, hform⟩ := hi.calls call hcall
  rcases hform with hcreate | hpause
  · exact hi.executed_create hcall hcreate
  · exact hi.executed_pause hcall hpause (hfenced (congrArg TemporalCall.op hpause))

/-- An event without a transaction works on workers, calls and Temporal only. -/
theorem SyncInv.outside {s : ScheduleSystem} (hi : SyncInv s) {e : ScheduleEvent}
    (henabled : e.Enabled s) (hfenced : Fenced e s) (htime : e.time = none) :
    SyncInv (e.outside s) := by
  cases e with
  | sendCreate worker => exact hi.sendCreate henabled.1
  | describe worker next => exact hi.describe henabled.1 henabled.2 next
  | compare worker =>
    obtain ⟨hw, paused, next, hphase⟩ := henabled
    exact hi.compare hw hphase
  | answered worker =>
    obtain ⟨hw, ⟨n, hphase, hdone⟩ | ⟨n, next, hphase, hdone⟩⟩ := henabled
    · exact hi.answered_create hw hphase hdone
    · exact hi.answered_pause hw hphase hdone
  | rpcError worker status => exact hi.rpcError henabled.1 status
  | raised worker => exact hi.leave henabled.1 (Or.inr (Or.inr (Or.inr rfl)))
  | execute call => exact hi.execute henabled hfenced
  | crash worker => exact hi.dismiss worker
  | create | pause | resume | reclassify | trigger | claim | settle | fire | launch => cases htime

/-- The invariant says nothing of fires and the clock. -/
theorem SyncInv.congr {s s' : ScheduleSystem} (hi : SyncInv s) (hdb : s'.db = s.db)
    (htemporal : s'.temporal = s.temporal) (hworkers : s'.workers = s.workers)
    (hcalls : s'.calls = s.calls) (hnext : s'.nextCall = s.nextCall) : SyncInv s' := by
  obtain ⟨db, temporal, workers, calls, fires, nextCall, clock⟩ := s'
  obtain rfl : db = s.db := hdb
  obtain rfl : temporal = s.temporal := htemporal
  obtain rfl : workers = s.workers := hworkers
  obtain rfl : calls = s.calls := hcalls
  obtain rfl : nextCall = s.nextCall := hnext
  exact ⟨hi.identity, hi.workers, hi.valid, hi.calls, hi.awaited, hi.phases, hi.synced⟩

theorem outside_db (e : ScheduleEvent) (s : ScheduleSystem) : (e.outside s).db = s.db := by
  cases e with
  | compare worker =>
    unfold ScheduleEvent.outside
    dsimp only
    split
    · split <;> rfl
    · rfl
  | claim | sendCreate | answered | fire =>
    unfold ScheduleEvent.outside
    dsimp only
    split <;> rfl
  | _ => rfl

theorem SyncInv.step {s : ScheduleSystem} (hi : SyncInv s) (hrows : ScheduleRowsInv s)
    {e : ScheduleEvent} (henabled : e.Enabled s) (hfenced : Fenced e s) : SyncInv (e.apply s) := by
  obtain ⟨hafter, hkept⟩ := rowsAfter_apply e s
  have hdb := hi.db_step henabled hafter hkept
  cases e with
  | create | pause | resume | reclassify | trigger | launch =>
    exact hdb.congr rfl rfl rfl rfl rfl
  | fire request now =>
    have hout : ∀ a : ScheduleSystem, a = (ScheduleEvent.fire request now).outside s →
        a.temporal = s.temporal ∧ a.workers = s.workers ∧ a.calls = s.calls ∧
          a.nextCall = s.nextCall := by
      rintro a rfl
      unfold ScheduleEvent.outside
      dsimp only
      split <;> exact ⟨rfl, rfl, rfl, rfl⟩
    obtain ⟨h₁, h₂, h₃, h₄⟩ := hout _ rfl
    exact hdb.congr rfl h₁ h₂ h₃ h₄
  | claim consumer now =>
    have hrows' := hrows.step (.claim consumer now)
    cases hclaim : claimTaskScheduleSyncIntents consumer.dispatcherId consumer.temporalNamespace
        consumer.batchSize consumer.leaseSeconds now s.db with
    | error fault =>
      refine hdb.congr rfl ?_ ?_ ?_ ?_
      all_goals simp [ScheduleEvent.apply, ScheduleEvent.outside, hclaim]
    | ok answer =>
      obtain ⟨claims, db'⟩ := answer
      have hc : Commits (ScheduleEvent.claim consumer now).transaction s.db () db' :=
        commits_discard.2 ⟨claims, hclaim⟩
      have hdb' : ((ScheduleEvent.claim consumer now).apply s).db = db' := after_of_commits hc
      have hgood := claims_ok hclaim
      have hhired : ∀ w ∈ claims.map fun claim => (⟨consumer, claim, 0, .starting⟩ : SyncWorker),
          ClaimOk w.claim ((ScheduleEvent.claim consumer now).apply s).db ∧ w.phase = .starting := by
        intro w hw
        obtain ⟨claim, hmem, rfl⟩ := List.mem_map.1 hw
        obtain ⟨id, hid⟩ := hgood claim hmem
        exact ⟨claimedIntent_ok hrows'.ids hrows'.below (hdb'.symm ▸ hid), rfl⟩
      refine (hdb.hired hhired).congr rfl ?_ ?_ ?_ ?_
      all_goals simp [ScheduleEvent.apply, ScheduleEvent.outside, hclaim]
  | settle worker now => exact (hdb.dismiss worker).congr rfl rfl rfl rfl rfl
  | sendCreate | describe | compare | answered | rpcError | raised | execute | crash =>
    have hout := hi.outside henabled hfenced rfl
    exact hout.congr (outside_db _ s).symm rfl rfl rfl rfl

/-! ### Every run -/

theorem syncInv_of_fresh {s : ScheduleSystem} (h : s.Fresh) : SyncInv s := by
  constructor <;> simp [h.schedules, h.workers, h.calls]

theorem syncInv_run {s s' : ScheduleSystem} {events : List ScheduleEvent}
    (hrun : ScheduleRun s events s') (hi : SyncInv s) (hrows : ScheduleRowsInv s)
    (hfenced : Along Fenced events s) : SyncInv s' := by
  induction hrun with
  | refl => exact hi
  | head henabled _ ih => exact ih (hi.step hrows henabled hfenced.1) (hrows.step _) hfenced.2

/-- No call of a claim of an earlier revision is on its way. -/
def Quiet (s : ScheduleSystem) (r : TaskSchedule) : Prop :=
  ∀ call ∈ s.calls, call.claim.taskScheduleId = r.id → r.revision ≤ call.claim.scheduleRevision

instance (s : ScheduleSystem) (r : TaskSchedule) : Decidable (Quiet s r) :=
  inferInstanceAs (Decidable (∀ call ∈ s.calls, _ → _))

/-- The Temporal Schedule of every synchronized schedule exists and is paused as desired. -/
def Converged (s : ScheduleSystem) : Prop :=
  ∀ r ∈ s.db.schedules, r.syncStatus = .synced → Quiet s r →
    ∃ t, (s.temporal.find? fun t => t.id = r.temporalScheduleId) = some t ∧
      t.paused = decide (r.status = .paused)

theorem fenced_converges {s₀ s : ScheduleSystem} {events : List ScheduleEvent} (hfresh : s₀.Fresh)
    (hrun : ScheduleRun s₀ events s) (hfenced : Along Fenced events s₀) : Converged s := by
  have hi := syncInv_run hrun (syncInv_of_fresh hfresh) (scheduleRowsInv_of_fresh hfresh) hfenced
  intro r hr hsync _
  exact Option.map_eq_some_iff.1 (hi.synced r hr hsync)

/-! ### A late call -/

/-- A worker that takes its claim from start to end, after one describe call. -/
def deliver (w : SyncWorker) (callId : ℕ) (paused : Bool) : List ScheduleEvent :=
  let within (phase : SyncPhase) : SyncWorker := { w with phase := phase }
  [.sendCreate w, .execute (createCall callId w.claim), .answered (within (.creating callId)),
    .describe (within .holding) nightlyFires, .compare (within (.described paused nightlyFires))]

def finished (w : SyncWorker) (now : Instant) : ScheduleEvent :=
  .settle { w with phase := .applied nightlyFires } now

/-- The first worker creates the Temporal Schedule. -/
def nightlyFirst : SyncWorker :=
  { consumer := nightlyDispatcher
    claim := (((ScheduleEvent.claim nightlyDispatcher 5).apply nightlyCreated).db.claimedIntent 101).get
      (by decide)
    attempt := 0, phase := .starting }

def deliverFirst : List ScheduleEvent :=
  [.claim nightlyDispatcher 5] ++ deliver nightlyFirst 0 false ++ [finished nightlyFirst 8]

def nightlySynced : ScheduleSystem := runAll deliverFirst nightlyCreated

/-- The second worker has found the Schedule running and sends the pause. -/
def nightlySecond : SyncWorker :=
  { consumer := nightlyDispatcher
    claim := ((runAll [pauseNightly, .claim nightlyDispatcher 20] nightlySynced).db.claimedIntent 103).get
      (by decide)
    attempt := 0, phase := .starting }

def slowPause : List ScheduleEvent :=
  [pauseNightly, .claim nightlyDispatcher 20] ++ deliver nightlySecond 1 false

def resumeNightly : ScheduleEvent := .resume nightlyOperator 100 ⟨"over", "resume"⟩ 2 "resume" 30

def nightlyResumed : ScheduleSystem := runAll (slowPause ++ [resumeNightly]) nightlySynced

/-- The third worker finds it still running and is done. -/
def nightlyThird : SyncWorker :=
  { consumer := nightlyDispatcher
    claim := (((ScheduleEvent.claim nightlyDispatcher 40).apply nightlyResumed).db.claimedIntent 105).get
      (by decide)
    attempt := 0, phase := .starting }

def deliverResume : List ScheduleEvent :=
  [.claim nightlyDispatcher 40] ++ deliver nightlyThird 3 false ++ [finished nightlyThird 50]

/-- The pause of the second revision is executed after the third is synchronized. -/
def lateCall : List ScheduleEvent := [.execute (pauseCall 2 nightlySecond.claim)]

def nightlyHistory : List ScheduleEvent := createNightly :: (deliverFirst ++ slowPause ++ [resumeNightly])

def nightlyDead : ScheduleSystem := runAll (nightlyHistory ++ (deliverResume ++ lateCall)) noSchedules

theorem nightlyDead_some : (nightlyDead.db.getSchedule 100).isSome := by decide

/-- The schedule is active and synchronized, no call is left, and Temporal has it paused. -/
theorem late_call_undoes_resume : ∃ s₀ events s, s₀.Fresh ∧ ScheduleRun s₀ events s ∧
    s.calls = [] ∧ ¬ Converged s := by
  have hmem : nightlyRow nightlyDead nightlyDead_some ∈ nightlyDead.db.schedules :=
    List.mem_of_find?_eq_some (Option.some_get nightlyDead_some).symm
  refine ⟨noSchedules, _, nightlyDead, noSchedules_fresh, .of_enabled (by decide),
    by decide, fun hconverged => ?_⟩
  obtain ⟨t, hfind, hpaused⟩ := hconverged _ hmem (by decide) (by decide)
  have hflag : flag nightlyDead.temporal
      (nightlyRow nightlyDead nightlyDead_some).temporalScheduleId = some true := by decide
  have hactive : (nightlyRow nightlyDead nightlyDead_some).status = .active := by decide
  rw [flag, hfind, Option.map_some, hpaused, hactive] at hflag
  cases hflag

/-- The same pause, executed and settled before the resume. -/
def promptPause : List ScheduleEvent :=
  lateCall ++ [.answered { nightlySecond with phase := .setting 2 nightlyFires },
    finished nightlySecond 25]

theorem prompt_pause_converges :
    Converged (runAll (createNightly :: (deliverFirst ++ slowPause ++ promptPause)) noSchedules) :=
  fenced_converges noSchedules_fresh (.of_enabled (by decide)) (by decide)

end Atlas.Proofs.Schedules
