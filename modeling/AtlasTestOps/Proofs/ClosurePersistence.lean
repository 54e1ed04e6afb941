import AtlasTestOps.Orchestration.AttemptActivity
import AtlasTestOps.Proofs.ResolutionWrites
import AtlasTestOps.Proofs.RetryDeadline
import AtlasTestOps.Service.Attempts

/-! Whether an execution that the Activity boundary accepts can be stored: the closure notice of its
Attempt asks for a reason of two characters, and the boundary for a code of one. -/

namespace Atlas.Proofs

open Atlas Atlas.Task Atlas.Result Atlas.Store Atlas.Orchestration Atlas.Service Txn

variable {H : ResultHashes} {P : HygieneProjection} {unitRetryAttemptId : Uuid → ℕ → Uuid}

/-! ### Outcomes and their codes -/

/-- The code that is stored for an execution without one. -/
def defaultCode : TaskAttemptExecutionStatus → String
  | .executedUnsealed => safeErrorCodeDefault
  | .failed => "TASK_ATTEMPT_FAILED"
  | .infraError => "TASK_INFRA_ERROR"
  | .inconclusive => "TASK_ATTEMPT_INCONCLUSIVE"
  | .canceled => "TASK_ATTEMPT_CANCELED"
  | .resultFinalized => "TASK_RESULT_REF_MISSING"

def outcomeCode (execution : TaskAttemptExecutionPayload) : String :=
  execution.errorCode.getD (defaultCode execution.status)

/-- The error code is a single letter. -/
def SingleLetter (execution : TaskAttemptExecutionPayload) : Prop :=
  ∃ code ∈ execution.errorCode, code.length = 1

instance (execution : TaskAttemptExecutionPayload) : Decidable (SingleLetter execution) :=
  inferInstanceAs (Decidable (∃ code ∈ execution.errorCode, code.length = 1))

/-- A safe code is a safe reason unless it is one letter. -/
theorem safeReason_iff {code : String} (h : safeErrorCode code = true) :
    safeReason code = true ↔ code.length ≠ 1 := by
  unfold safeErrorCode matchesCode at h
  unfold safeReason matchesCode
  rw [← String.length_toList]
  cases hcs : code.toList with
  | nil => simp [hcs] at h
  | cons c cs =>
    simp only [hcs, Bool.and_eq_true, decide_eq_true_eq] at h
    obtain ⟨⟨hupper, -, hmost⟩, hall⟩ := h
    simp only [hupper, hall, Bool.true_and, Bool.and_true, Bool.and_eq_true, decide_eq_true_eq,
      List.length_cons]
    omega

theorem safeErrorCode_outcomeCode {execution : TaskAttemptExecutionPayload}
    (h : isSafeErrorCode execution.errorCode = true) : safeErrorCode (outcomeCode execution) = true := by
  unfold outcomeCode
  cases hcode : execution.errorCode with
  | none =>
    rw [Option.getD_none]
    cases execution.status <;> decide
  | some code => simpa [isSafeErrorCode, safeErrorCode, hcode] using h

theorem safeReason_outcomeCode_iff {execution : TaskAttemptExecutionPayload}
    (h : isSafeErrorCode execution.errorCode = true) :
    safeReason (outcomeCode execution) = true ↔ ¬ SingleLetter execution := by
  rw [safeReason_iff (safeErrorCode_outcomeCode h)]
  unfold outcomeCode SingleLetter
  cases hcode : execution.errorCode with
  | none =>
    simp only [Option.getD_none, Option.mem_def, reduceCtorEq, false_and, exists_false, not_false_eq_true,
      iff_true]
    cases execution.status <;> decide
  | some code => simp

/-- The quality that an Attempt closes with. -/
def closingQuality : TaskAttemptExecutionStatus → ExecutionQuality
  | .executedUnsealed | .inconclusive | .resultFinalized => .inconclusive
  | .failed => .failed
  | .infraError => .infraError
  | .canceled => .canceled

/-- An accepted execution without a Seal has an outcome, under its own code. -/
theorem executionOutcome_commits {execution : TaskAttemptExecutionPayload} {status : AttemptStatus}
    (hvalid : validExecutionPayload execution = true)
    (hstatus : expectedStatus execution.status = some status) (db : Db) :
    Commits (executionOutcome execution) db
      (closingQuality execution.status, status, outcomeCode execution) db := by
  simp only [validExecutionPayload, Bool.decide_and, Bool.and_eq_true, decide_eq_true_eq] at hvalid
  obtain ⟨hcode, hretry, href⟩ := hvalid
  have hsafe : safeCode execution.errorCode = execution.errorCode := by
    unfold safeCode
    cases hc : execution.errorCode with
    | none => rfl
    | some code =>
      have hm : safeErrorCode code = true := by simpa [isSafeErrorCode, safeErrorCode, hc] using hcode
      simp [hm]
  have hafter : ¬ (execution.retryAfterSeconds ≠ none ∧
      (execution.status ≠ .infraError ∨ !retryAfterValid execution.retryAfterSeconds)) := by
    cases hr : execution.retryAfterSeconds with
    | none => simp
    | some r =>
      simp only [isRetryAfter, hr, Option.all_some, decide_eq_true_eq] at hretry
      simp [hretry, retryAfterValid]
  cases hs : execution.status with
  | resultFinalized => simp [hs, expectedStatus] at hstatus
  | _ =>
    simp only [hs, expectedStatus, Option.some.injEq] at hstatus
    subst hstatus
    simp only [hs, reduceCtorEq, if_false] at href
    simp only [executionOutcome, hs, reduceCtorEq, if_false, commits_bind, commits_raiseIf, commits_pure,
      hsafe, href, ne_eq, not_true_eq_false, or_self, not_false_eq_true, outcomeCode, defaultCode,
      closingQuality]
    simp only [hs] at hafter
    exact ⟨(), db, ⟨trivial, rfl⟩, (), db, ⟨by simpa using hafter, rfl⟩, trivial, rfl⟩

/-! ### Moving an Attempt -/

/-- The row of an Attempt after a transition. -/
def movedState (attempt : UnitAttempt) (progress : Progress) (clock : Instant) : ExecutionState :=
  ⟨progress.of attempt.toExecutionState, attempt.revision + 1, clock⟩

def moved (attempt : UnitAttempt) (progress : Progress) (clock : Instant) : UnitAttempt :=
  { attempt with toExecutionState := movedState attempt progress clock }

/-- The rows that a transition of the Attempt reads. -/
structure OnRows (run : TaskRun) (unit : ExecutionUnit) (attempt : UnitAttempt) (db : Db) : Prop where
  storedRun : db.getRun run.id = some run
  storedUnit : db.getUnit unit.id = some unit
  stored : db.getAttempt attempt.id = some attempt
  isSealed : run.materializationState = .sealed
  ofRun : unit.taskRunId = run.id ∧ attempt.taskRunId = run.id
  ofUnit : attempt.executionUnitId = unit.id
  fresh : ∀ e ∈ db.events, e.id < db.nextId

/-- The checks of the table and of the ledger on the new state. -/
structure Allowed (attempt : UnitAttempt) (new : ExecutionState) : Prop where
  guard : updateGuard "unit attempt" attempt.toExecutionState new = none
  shape : taskExecutionStateValid new attempt.createdAt = true
  queued : ∀ t ∈ new.startedAt, attempt.queuedAt ≤ t
  floor : occurredFloor new attempt.queuedAt ≤ new.updatedAt

def writeState (attempt : UnitAttempt) (new : ExecutionState) (db : Db) : Db :=
  { db with
    attempts := Table.modify (fun a => a.id) attempt.id (fun a => { a with toExecutionState := new }) db.attempts }

def afterMove (attempt : UnitAttempt) (new : ExecutionState) (event : TaskExecutionEvent) (db : Db) : Db :=
  { writeState attempt new db with
    events := db.events ++ [event]
    nextId := db.nextId + 1 }

theorem getAttempt_writeState {attempt : UnitAttempt} {db : Db} (h : db.getAttempt attempt.id = some attempt)
    (new : ExecutionState) :
    (writeState attempt new db).getAttempt attempt.id = some { attempt with toExecutionState := new } := by
  refine (Table.find?_modify ?_).trans (congrArg (Option.map _) h)
  exact fun _ => rfl

theorem lt_nextSeq {db : Db} {e : TaskExecutionEvent} (he : e ∈ db.events) :
    e.seq < db.nextTaskExecutionEventSeq := by
  have hmem : e.seq ∈ db.events.map fun e => e.seq := List.mem_map_of_mem he
  cases hmax : (db.events.map fun e => e.seq).max? with
  | none => simp [List.max?_eq_none_iff.1 hmax] at hmem
  | some top =>
    have hle : e.seq ≤ top := (List.max?_eq_some_iff.1 hmax).2 e.seq hmem
    simp only [Db.nextTaskExecutionEventSeq, hmax, Option.getD_some]
    omega

/-- A transition to an allowed state commits it, with one event. -/
theorem transitionAttempt_total {run : TaskRun} {unit : ExecutionUnit} {attempt : UnitAttempt}
    {progress : Progress} {clock : Instant} {db : Db} (hrows : OnRows run unit attempt db)
    (hmoves : attempt.lifecycle ≠ progress.lifecycle)
    (hallowed : Allowed attempt (movedState attempt progress clock)) (eventType : EventType)
    (payload : EventPayload) :
    ∃ event, event.id = db.nextId ∧
      Commits (transitionAttempt run unit attempt progress eventType payload clock) db
        (moved attempt progress clock) (afterMove attempt (movedState attempt progress clock) event db) := by
  have hrow : Commits (transitionUnitAttemptState run.id unit.id attempt.id attempt.revision
      (progress.of attempt.toExecutionState) clock) db (moved attempt progress clock)
      (writeState attempt (movedState attempt progress clock) db) := by
    have hunit : (db.getUnit unit.id).filter (fun u => u.taskRunId = run.id) = some unit := by
      simp [hrows.storedUnit, hrows.ofRun.1]
    have hattempt : (db.getAttempt attempt.id).filter
        (fun a => a.executionUnitId = unit.id ∧ a.taskRunId = run.id) = some attempt := by
      simp [hrows.stored, hrows.ofUnit, hrows.ofRun.2]
    have hqueued : ¬ ∃ q ∈ some attempt.queuedAt, ∃ t ∈ (movedState attempt progress clock).startedAt, t < q := by
      rintro ⟨q, hq, t, ht, hlt⟩
      obtain rfl := Option.some.inj hq
      exact absurd (hallowed.queued t ht) (Nat.not_le.2 hlt)
    have hnext : Commits (nextState "unit attempt" attempt.revision (progress.of attempt.toExecutionState)
        attempt.toExecutionState attempt.createdAt (some attempt.queuedAt) clock) db
        (movedState attempt progress clock) db := by
      simp only [nextState, commits_raiseIf_bind, commits_pure]
      refine ⟨not_not.2 rfl, not_not.2 hallowed.guard, ?_, hqueued, rfl, trivial⟩
      change ¬ (!taskExecutionStateValid (movedState attempt progress clock) attempt.createdAt) = true
      simp [hallowed.shape]
    simp only [transitionUnitAttemptState, sealedRun, commits_bind, commits_read, commits_demand,
      commits_raiseIf, commits_update, commits_pure]
    exact ⟨run, db, ⟨_, db, ⟨rfl, rfl⟩, run, db, ⟨hrows.storedRun, rfl⟩, (), db, ⟨by simp [hrows.isSealed], rfl⟩,
      rfl, rfl⟩, _, db, ⟨rfl, rfl⟩, (), db, ⟨by simp [hunit], rfl⟩, _, db, ⟨rfl, rfl⟩, attempt, db,
      ⟨hattempt, rfl⟩, _, db, hnext, (), _, rfl, rfl, rfl⟩
  let event : TaskExecutionEvent :=
    { id := db.nextId
      tenantId := run.tenantId
      projectId := run.projectId
      taskRunId := run.id
      executionUnitId := some unit.id
      unitAttemptId := some attempt.id
      seq := db.nextTaskExecutionEventSeq
      eventType := eventType
      lifecycle := progress.lifecycle
      quality := progress.quality
      hygiene := attempt.hygiene
      payload := payload
      occurredAt := clock }
  refine ⟨event, rfl, ?_⟩
  have hevent : Commits (recordEvent run (moved attempt progress clock).toExecutionState eventType (some unit.id)
      (some attempt.id) payload) (writeState attempt (movedState attempt progress clock) db) ()
      (afterMove attempt (movedState attempt progress clock) event db) := by
    have hnew : ¬ ∃ e ∈ db.events, e.id = db.nextId ∨ e.seq = db.nextTaskExecutionEventSeq := by
      rintro ⟨e, he, hid | hseq⟩
      · exact absurd hid (Nat.ne_of_lt (hrows.fresh e he))
      · exact absurd hseq (Nat.ne_of_lt (lt_nextSeq he))
    have htarget : (writeState attempt (movedState attempt progress clock) db).eventTarget event =
        some (movedState attempt progress clock, attempt.queuedAt) := by
      have hfound : (writeState attempt (movedState attempt progress clock) db).getAttempt attempt.id =
          some (moved attempt progress clock) := getAttempt_writeState hrows.stored _
      have hof : (moved attempt progress clock).executionUnitId = unit.id := hrows.ofUnit
      simp only [Db.eventTarget, event, hfound, Option.filter_some, hof, decide_true, if_true, Option.map_some]
      rfl
    simp only [recordEvent, appendEvent, commits_bind, commits_read, commits_newEntityId, commits_demand,
      commits_raiseIf, commits_update]
    refine ⟨_, _, ⟨rfl, rfl⟩, _, _, ⟨rfl, rfl⟩, _, _, ⟨rfl, rfl⟩, (), _, ⟨hnew, rfl⟩, _, _, ⟨rfl, rfl⟩, _, _,
      ⟨htarget, rfl⟩, (), _, ⟨?_, rfl⟩, _, _, ⟨rfl, rfl⟩, (), _, ⟨?_, rfl⟩, (), _, ⟨?_, rfl⟩, rfl⟩
    · simp [moved, movedState, Progress.of]
    · exact not_not.2 rfl
    · exact Nat.not_lt.2 hallowed.floor
  rw [transitionAttempt, if_neg fun h => hmoves h.1]
  simp only [commits_bind, commits_pure]
  exact ⟨_, _, hrow, (), _, hevent, rfl, rfl⟩

theorem occurredFloor_le {state : ExecutionState} {start bound : Instant} (hstart : start ≤ bound)
    (hstarted : ∀ t ∈ state.startedAt, t ≤ bound) (hfinalized : ∀ t ∈ state.finalizedAt, t ≤ bound)
    (hclosed : ∀ t ∈ state.closedAt, t ≤ bound) (hcleaned : ∀ t ∈ state.cleanupResolvedAt, t ≤ bound) :
    occurredFloor state start ≤ bound := by
  have hstep : ∀ floor ≤ bound, ∀ milestone : Option Instant, (∀ t ∈ milestone, t ≤ bound) →
      max floor (milestone.getD floor) ≤ bound := by
    intro floor hfloor milestone hmilestone
    refine max_le hfloor ?_
    cases milestone with
    | none => exact hfloor
    | some t => exact hmilestone t rfl
  exact hstep _ (hstep _ (hstep _ (hstep _ hstart _ hstarted) _ hfinalized) _ hclosed) _ hcleaned

/-- A running Attempt, at the two clocks of the call that finishes it. -/
structure Running (attempt : UnitAttempt) (now clock : Instant) : Prop where
  lifecycle : attempt.lifecycle = .running
  shape : taskExecutionStateValid attempt.toExecutionState attempt.createdAt = true
  queued : attempt.createdAt ≤ attempt.queuedAt
  started : ∀ t ∈ attempt.startedAt, attempt.queuedAt ≤ t ∧ t ≤ now
  cleaned : ∀ t ∈ attempt.cleanupResolvedAt, t ≤ clock
  ordered : now ≤ clock

/-- What the columns of a running Attempt say. -/
theorem Running.columns {attempt : UnitAttempt} {now clock : Instant} (h : Running attempt now clock) :
    attempt.quality = .pending ∧ attempt.finalizedAt = none ∧ attempt.closedAt = none ∧
      ∃ t, attempt.startedAt = some t := by
  have hshape := h.shape
  simp only [taskExecutionStateValid, decide_eq_true_eq, h.lifecycle] at hshape
  obtain ⟨-, -, -, -, -, -, -, hstarted, hpending, hquality, -, -, hclosed, -⟩ := hshape
  have hq : attempt.quality = .pending := by simpa using hquality
  refine ⟨hq, hpending.1 hq, by simpa using hclosed, ?_⟩
  exact Option.ne_none_iff_exists'.1 (hstarted (by simp))

theorem Running.allowed_finalizing {attempt : UnitAttempt} {now clock : Instant}
    (h : Running attempt now clock) {quality : ExecutionQuality} (hquality : quality ≠ .pending) :
    Allowed attempt (movedState attempt (finalizedNow attempt.toExecutionState quality now) clock) := by
  obtain ⟨hpending, hfinalized, hclosed, t, ht⟩ := h.columns
  obtain ⟨hqueued, hnow⟩ := h.started t ht
  have hcreated := h.queued
  have hordered := h.ordered
  have hshape := h.shape
  simp only [taskExecutionStateValid, decide_eq_true_eq] at hshape
  refine ⟨?_, ?_, ?_, ?_⟩
  · simp [updateGuard, movedState, Progress.of, finalizedNow, h.lifecycle, hpending, hfinalized, hclosed,
      taskLifecycleTransitionValid, taskHygieneTransitionValid, writtenOnce]
  · simp only [taskExecutionStateValid, movedState, Progress.of, finalizedNow, decide_eq_true_eq, ht]
    refine ⟨hcreated.trans (hqueued.trans (hnow.trans hordered)), ?_, ?_, hshape.2.2.2.1, by simp, ?_, by simp,
      by simp, by simp [hquality], by simp, hshape.2.2.2.2.2.2.2.2.2.2.1, by simp, by simp, by simp⟩
    · simpa using hcreated.trans hqueued
    · simpa using hcreated.trans (hqueued.trans hnow)
    · simpa using hnow
  · simpa [movedState, Progress.of, finalizedNow, ht] using hqueued
  · refine occurredFloor_le (hqueued.trans (hnow.trans hordered)) ?_ ?_ ?_ h.cleaned
    · simpa [movedState, Progress.of, finalizedNow, ht] using hnow.trans hordered
    · simpa [movedState, Progress.of, finalizedNow] using hordered
    · simp [movedState, Progress.of, finalizedNow]

theorem Running.allowed_closed {attempt : UnitAttempt} {now clock : Instant}
    (h : Running attempt now clock) {quality : ExecutionQuality} (hquality : quality ≠ .pending) :
    Allowed (moved attempt (finalizedNow attempt.toExecutionState quality now) clock)
      (movedState (moved attempt (finalizedNow attempt.toExecutionState quality now) clock)
        (closedNow (movedState attempt (finalizedNow attempt.toExecutionState quality now) clock) quality now)
        clock) := by
  obtain ⟨hpending, hfinalized, hclosed, t, ht⟩ := h.columns
  obtain ⟨hqueued, hnow⟩ := h.started t ht
  have hcreated := h.queued
  have hordered := h.ordered
  have hshape := h.shape
  simp only [taskExecutionStateValid, decide_eq_true_eq] at hshape
  refine ⟨?_, ?_, ?_, ?_⟩
  · simp [updateGuard, moved, movedState, Progress.of, finalizedNow, closedNow,
      taskLifecycleTransitionValid, taskHygieneTransitionValid, writtenOnce]
  · simp only [taskExecutionStateValid, moved, movedState, Progress.of, finalizedNow, closedNow,
      decide_eq_true_eq, ht]
    refine ⟨hcreated.trans (hqueued.trans (hnow.trans hordered)), ?_, ?_, hshape.2.2.2.1, ?_, ?_, by simp,
      by simp, by simp [hquality], by simp, hshape.2.2.2.2.2.2.2.2.2.2.1, by simp [hquality], by simp, by simp⟩
    · simpa using hcreated.trans hqueued
    · simpa using hcreated.trans (hqueued.trans hnow)
    · simpa using hcreated.trans (hqueued.trans hnow)
    · simpa using hnow
  · simpa [moved, movedState, Progress.of, finalizedNow, closedNow, ht] using hqueued
  · refine occurredFloor_le (hqueued.trans (hnow.trans hordered)) ?_ ?_ ?_ h.cleaned
    · simpa [moved, movedState, Progress.of, finalizedNow, closedNow, ht] using hnow.trans hordered
    · simpa [moved, movedState, Progress.of, finalizedNow, closedNow] using hordered
    · simpa [moved, movedState, Progress.of, finalizedNow, closedNow] using hordered

/-! ### Resolving the Unit -/

/-- The closed Attempt has exactly one terminal fact, which is its own. -/
inductive Terminal (seals : List AttemptSeal) (closures : List AttemptClosureNotice) (attempt : UnitAttempt) : Prop
  | attemptSeal (fact : AttemptSeal) (found : seals.find? (fun s => s.unitAttemptId = attempt.id) = some fact)
      (alone : closures.find? (fun n => n.unitAttemptId = attempt.id) = none)
      (scope : fact.toUnitScope = attempt.toUnitScope)
  | closureNotice (notice : AttemptClosureNotice)
      (found : closures.find? (fun n => n.unitAttemptId = attempt.id) = some notice)
      (alone : seals.find? (fun s => s.unitAttemptId = attempt.id) = none)
      (scope : notice.toUnitScope = attempt.toUnitScope) (number : notice.attemptNumber = attempt.attemptNumber)
      (status : notice.sourceStatus ∈ closureSources attempt.quality)
      (closedAt : some notice.closedAt = attempt.closedAt)
      (hygiene : notice.dataHygiene = resultHygiene attempt.hygiene)

theorem terminalSource_total {seals : List AttemptSeal} {closures : List AttemptClosureNotice}
    {attempt : UnitAttempt} (h : Terminal seals closures attempt) (db : Db) :
    ∃ source, Commits (terminalSource seals closures attempt) db source db := by
  cases h with
  | attemptSeal fact found alone scope =>
    have hnames : fact.unitAttemptId = attempt.id := by simpa using List.find?_some found
    simp only [terminalSource, found, alone, sourceFromSeal, commits_raiseIf_bind, commits_pure]
    exact ⟨_, by simp [scope, hnames], rfl, trivial⟩
  | closureNotice notice found alone scope number status closedAt hygiene =>
    have hnames : notice.unitAttemptId = attempt.id := by simpa using List.find?_some found
    simp only [terminalSource, found, alone, sourceFromClosure, requireExactClosure, requireClosureSource,
      commits_bind, commits_raiseIf, commits_pure]
    exact ⟨_, (), db, ⟨(), db, ⟨not_not.2 status, rfl⟩, by simp [scope, hnames, number, closedAt, hygiene], rfl⟩,
      rfl, rfl⟩

/-- The Attempts of a Unit can be collected when every closed one has its fact. -/
theorem collectSources_total {unit : ExecutionUnit} {seals : List AttemptSeal}
    {closures : List AttemptClosureNotice} {attempts : List UnitAttempt}
    (h : ∀ a ∈ attempts, a.toUnitScope = unit.toUnitScope ∧ (a.lifecycle = .closed → Terminal seals closures a))
    (db : Db) : ∃ sources, Commits (collectSources unit seals closures attempts) db sources db := by
  induction attempts with
  | nil => exact ⟨[], commits_pure.2 ⟨rfl, rfl⟩⟩
  | cons a attempts ih =>
    obtain ⟨rest, hrest⟩ := ih fun b hb => h b (List.mem_cons_of_mem _ hb)
    obtain ⟨hscope, hterminal⟩ := h a List.mem_cons_self
    by_cases hclosed : a.lifecycle = .closed
    · obtain ⟨source, hsource⟩ := terminalSource_total (hterminal hclosed) db
      refine ⟨source :: rest, ?_⟩
      simp only [collectSources, requireAttemptScope, hclosed, ne_eq, not_true_eq_false, if_false, commits_bind,
        commits_raiseIf, commits_pure]
      exact ⟨(), db, ⟨not_not.2 hscope, rfl⟩, source, db, hsource, rest, db, hrest, rfl, rfl⟩
    · refine ⟨rest, ?_⟩
      simp only [collectSources, requireAttemptScope, commits_raiseIf_bind, ne_eq, hclosed, not_false_eq_true,
        if_true]
      exact ⟨not_not.2 hscope, hrest⟩

/-- The tables that the resolution of a Unit reads; no resolution has `attempt` among its inputs yet. -/
structure Resolvable (H : ResultHashes) (unit : ExecutionUnit) (attempt : UnitAttempt) (db : Db) : Prop where
  terminal : ∀ a ∈ db.attempts, a.executionUnitId = unit.id → a.toUnitScope = unit.toUnitScope ∧
    1 ≤ a.attemptNumber ∧
    (a.lifecycle = .closed → Terminal (db.listSealsForUnit unit.id) (db.listClosuresForUnit unit.id) a)
  attemptIds : (db.attempts.map fun a => a.id).Nodup
  sealIds : (db.seals.map fun s => s.sealId).Nodup
  closureIds : (db.closures.map fun n => n.id).Nodup
  bounded : (db.attempts.filter fun a => a.executionUnitId = unit.id).length ≤ 100
  freshClosures : ∀ n ∈ db.closures, n.id < db.nextId
  freshResolutions : ∀ r ∈ db.resolutions, r.id < db.nextId
  unresolved : ∀ r ∈ db.resolutions, r.executionUnitId = unit.id → ∀ inputs : List ResolutionInput,
    (∃ i ∈ inputs, i.unitAttemptId = attempt.id) →
      r.inputSetHash ≠ H.unitResolutionInputSet unit.id unit.manifestHash unit.unitKey inputs

theorem mem_listAttempts {db : Db} {unitId : Uuid} {a : UnitAttempt} :
    a ∈ db.listAttempts unitId ↔ a ∈ db.attempts ∧ a.executionUnitId = unitId := by
  simp [Db.listAttempts]

theorem FactOf.safe {seals : List AttemptSeal} {closures : List AttemptClosureNotice} {source : ResolutionSource}
    (h : FactOf seals closures source) :
    safeReason source.closureReason = true ∧ source.effectiveVerdict ≠ .pending ∧
      (source.effectiveVerdict = .passed →
        source.evidenceCompleteness = .complete ∧ source.evidenceIntegrity = .verified) := by
  cases h with
  | attemptSeal fact stored scope names kind id axes verdict =>
    have hvalid := fact.valid
    simp only [AttemptSealContent.violation, firstViolation_cons, decide_eq_false_iff_not] at hvalid
    obtain ⟨hreason, -, hpending, -⟩ := hvalid
    have hcr : source.closureReason = fact.closureReason := congrArg ResultAxes.closureReason axes
    have hec : source.evidenceCompleteness = fact.evidenceCompleteness :=
      congrArg ResultAxes.evidenceCompleteness axes
    have hei : source.evidenceIntegrity = fact.evidenceIntegrity := congrArg ResultAxes.evidenceIntegrity axes
    rw [hcr, hec, hei, verdict]
    refine ⟨by simpa using hreason, ?_, ?_⟩
    · unfold effectiveVerdict
      split
      · simp
      · exact hpending
    · intro hpassed
      unfold effectiveVerdict at hpassed
      split at hpassed
      · simp at hpassed
      · exact fact.evidence_of_passed hpassed
  | closureNotice notice stored scope names kind id axes verdict =>
    have hvalid := notice.valid
    simp only [AttemptClosureNoticeContent.violation, firstViolation_cons, decide_eq_false_iff_not] at hvalid
    obtain ⟨-, hreason, hverdict, -⟩ := hvalid
    have hcr : source.closureReason = notice.closureReason := congrArg ResultAxes.closureReason axes
    rw [hcr, verdict]
    refine ⟨by simpa using hreason, ?_, fun h => absurd h notice.verdict_ne_passed⟩
    rintro hpending
    exact hverdict ⟨by simp [hpending], by simp [hpending]⟩

section Resolve

variable {unit : ExecutionUnit} {attempt : UnitAttempt} {db : Db} {sources : List ResolutionSource}

/-- Sources of distinct Attempts are distinct. -/
theorem UnitSources.nodup (h : UnitSources unit db sources) (hids : (db.attempts.map fun a => a.id).Nodup) :
    (sources.map fun s => s.attempt.id).Nodup := by
  have hlist : ((db.listAttempts unit.id).map fun a => a.id).Nodup :=
    ((List.perm_insertionSort _ _).map _).nodup_iff.2 (hids.sublist (List.filter_sublist.map _))
  have hmap : (sources.map fun s => s.attempt.id) =
      ((db.listAttempts unit.id).filter fun a => a.lifecycle = .closed).map fun a => a.id := by
    rw [← h.attempts, List.map_map]
    rfl
  rw [hmap]
  exact hlist.sublist (List.filter_sublist.map _)

theorem UnitSources.length_le (h : UnitSources unit db sources) :
    sources.length ≤ (db.attempts.filter fun a => a.executionUnitId = unit.id).length := by
  have hmap := congrArg List.length h.attempts
  rw [List.length_map] at hmap
  rw [hmap]
  exact (List.length_filter_le _ _).trans (List.length_insertionSort _ _).le

/-- The facts of one kind have distinct identities, because each names its own Attempt. -/
theorem UnitSources.factIds_nodup (h : UnitSources unit db sources)
    (hids : (db.attempts.map fun a => a.id).Nodup) (hseals : (db.seals.map fun s => s.sealId).Nodup)
    (hclosures : (db.closures.map fun n => n.id).Nodup) (kind : FactKind) :
    ((sources.filter fun s => s.factKind = kind).map fun s => s.factId).Nodup := by
  have hsources : (sources.filter fun s => s.factKind = kind).Nodup := (List.Nodup.of_map _ (h.nodup hids)).filter _
  refine List.Nodup.map_on ?_ hsources
  intro s hs t ht hid
  obtain ⟨hs, hsk⟩ := List.mem_filter.1 hs
  obtain ⟨ht, htk⟩ := List.mem_filter.1 ht
  simp only [decide_eq_true_eq] at hsk htk
  have hsame : s.attempt.id = t.attempt.id := by
    cases (h.facts s hs).1 with
    | attemptSeal fact stored scope names hkind hfact axes verdict =>
      cases (h.facts t ht).1 with
      | attemptSeal fact' stored' scope' names' hkind' hfact' axes' verdict' =>
        have heq : fact = fact' := Table.eq_of_key hseals stored stored' (hfact ▸ hfact' ▸ hid)
        rw [← names, ← names', heq]
      | closureNotice notice' stored' scope' names' hkind' hfact' axes' verdict' =>
        exact absurd (hkind.symm.trans (hsk.trans (htk.symm.trans hkind'))) (by decide)
    | closureNotice notice stored scope names hkind hfact axes verdict =>
      cases (h.facts t ht).1 with
      | attemptSeal fact' stored' scope' names' hkind' hfact' axes' verdict' =>
        exact absurd (hkind.symm.trans (hsk.trans (htk.symm.trans hkind'))) (by decide)
      | closureNotice notice' stored' scope' names' hkind' hfact' axes' verdict' =>
        have heq : notice = notice' := Table.eq_of_key hclosures stored stored' (hfact ▸ hfact' ▸ hid)
        rw [← names, ← names', heq]
  exact List.inj_on_of_nodup_map (h.nodup hids) hs ht hsame

/-- The content of the next resolution is valid. -/
theorem Resolvable.content_valid {H : ResultHashes} (hdb : Resolvable H unit attempt db)
    (h : UnitSources unit db sources) {decisive : ResolutionSource} (hlast : sources.getLast? = some decisive)
    (id resolutionId : Uuid) (createdAt : Instant) :
    (resolutionContent H unit (db.getLatestResolution unit.id) sources decisive id resolutionId
      createdAt).violation = none := by
  have hmem : decisive ∈ sources := List.mem_of_getLast? hlast
  obtain ⟨hfact, -⟩ := h.facts decisive hmem
  obtain ⟨hreason, hpending, hpassed⟩ := hfact.safe
  have hattempt : decisive.attempt ∈ db.listAttempts unit.id := by
    have hin : decisive.attempt ∈ sources.map fun s => s.attempt := List.mem_map_of_mem hmem
    rw [h.attempts] at hin
    exact (List.mem_filter.1 hin).1
  obtain ⟨hstored, hof⟩ := mem_listAttempts.1 hattempt
  have hnumber := (hdb.terminal _ hstored hof).2.1
  have hlength := h.length_le.trans hdb.bounded
  have hseals := (List.length_filter_le (fun s : ResolutionSource => s.factKind = .attemptSeal) sources).trans hlength
  have hclosures :=
    (List.length_filter_le (fun s : ResolutionSource => s.factKind = .closureNotice) sources).trans hlength
  have hrevision : ∀ latest, db.getLatestResolution unit.id = some latest → 1 ≤ latest.revision := by
    intro latest _
    have hvalid := latest.valid
    simp only [UnitResolutionRevisionContent.violation, firstViolation_cons, decide_eq_false_iff_not] at hvalid
    omega
  have hkinds : ¬ ((sources.filter fun s => s.factKind = .attemptSeal) = [] ∧
      (sources.filter fun s => s.factKind = .closureNotice) = []) := by
    rintro ⟨hnoSeal, hnoNotice⟩
    have h₁ := List.filter_eq_nil_iff.1 hnoSeal decisive hmem
    have h₂ := List.filter_eq_nil_iff.1 hnoNotice decisive hmem
    cases hk : decisive.factKind <;> simp [hk] at h₁ h₂
  have hsealIds := h.factIds_nodup hdb.attemptIds hdb.sealIds hdb.closureIds .attemptSeal
  have hnoticeIds := h.factIds_nodup hdb.attemptIds hdb.sealIds hdb.closureIds .closureNotice
  simp only [UnitResolutionRevisionContent.violation, firstViolation_cons, decide_eq_false_iff_not,
    firstViolation_nil]
  simp only [resolutionContent, List.length_map, List.map_eq_nil_iff, not_not, not_true_eq_false, ne_eq]
  refine ⟨?_, by omega, by omega, by simpa using hreason, by omega, hpending, hkinds, hsealIds, hnoticeIds, ?_, ?_,
    not_false, ?_, trivial⟩
  · cases hlatest : db.getLatestResolution unit.id <;> simp
  · rintro ⟨hfirst, hpredecessor⟩
    cases hlatest : db.getLatestResolution unit.id with
    | none => simp [hlatest] at hpredecessor
    | some latest =>
      have hle := hrevision latest hlatest
      simp only [hlatest] at hfirst
      omega
  · rintro ⟨hlater, hnone⟩
    cases hlatest : db.getLatestResolution unit.id with
    | none => simp [hlatest] at hlater
    | some latest => simp [hlatest] at hnone
  · rintro ⟨hverdict, hevidence⟩
    obtain ⟨hcomplete, hverified⟩ := hpassed hverdict
    rcases hevidence with hne | hne
    · exact hne hcomplete
    · exact hne hverified

/-- The Unit of an Attempt that has just been closed can be resolved. -/
theorem Resolvable.resolveUnit_total {H : ResultHashes} (hdb : Resolvable H unit attempt db)
    (hstored : attempt ∈ db.attempts) (hof : attempt.executionUnitId = unit.id) (hclosed : attempt.lifecycle = .closed)
    (createdAt : Instant) :
    ∃ r db', Commits (resolveUnit H unit createdAt) db r db' := by
  obtain ⟨sources, hcollect⟩ := collectSources_total (fun a ha => by
    obtain ⟨ha, haunit⟩ := mem_listAttempts.1 ha
    obtain ⟨hscope, -, hterminal⟩ := hdb.terminal a ha haunit
    exact ⟨hscope, hterminal⟩) db
  obtain ⟨hattempts, hfacts, -⟩ := collectSources_commits hcollect
  have hsources : UnitSources unit db sources := by
    refine ⟨hattempts, fun s hs => ⟨(hfacts s hs).1.mono ?_ ?_, (hfacts s hs).2⟩⟩
    · exact List.filter_subset_self _
    · exact List.filter_subset_self _
  -- The closed Attempt is one of the sources, so the inputs name it.
  have hclosing : ∃ s ∈ sources, s.attempt = attempt := by
    have hin : attempt ∈ sources.map fun s => s.attempt := by
      rw [hattempts]
      exact List.mem_filter.2 ⟨mem_listAttempts.2 ⟨hstored, hof⟩, by simpa using hclosed⟩
    simpa using hin
  obtain ⟨s, hs, hsattempt⟩ := hclosing
  obtain ⟨decisive, hlast⟩ := Option.isSome_iff_exists.1 (List.getLast?_isSome.2 (List.ne_nil_of_mem hs))
  have hnew : ∀ r ∈ db.resolutions, r.executionUnitId = unit.id → r.inputSetHash ≠ inputSetHash H unit sources := by
    intro r hr hrunit
    refine hdb.unresolved r hr hrunit _ ⟨_, List.mem_map_of_mem hs, ?_⟩
    rw [hsattempt]
  have happend : ∃ r db', Commits (appendResolution H unit (db.getLatestResolution unit.id) sources decisive
      createdAt) db r db' := by
    have hchain : ∃ resolutionId nextId, Commits (resolutionChainId (db.getLatestResolution unit.id))
        { db with nextId := db.nextId + 1 } resolutionId { db with nextId := nextId } := by
      cases db.getLatestResolution unit.id with
      | none => exact ⟨_, _, commits_newEntityId.2 ⟨rfl, rfl⟩⟩
      | some latest => exact ⟨_, _, commits_pure.2 ⟨rfl, rfl⟩⟩
    obtain ⟨resolutionId, nextId, hchain⟩ := hchain
    have hvalid := hdb.content_valid hsources hlast db.nextId resolutionId createdAt
    have hid : ¬ ∃ r ∈ db.resolutions, r.id = db.nextId := by
      rintro ⟨r, hr, hid⟩
      exact absurd hid (Nat.ne_of_lt (hdb.freshResolutions r hr))
    have hrevision : ¬ ∃ r ∈ db.resolutions, r.executionUnitId = unit.id ∧
        r.revision = (resolutionContent H unit (db.getLatestResolution unit.id) sources decisive db.nextId
          resolutionId createdAt).revision := by
      rintro ⟨r, hr, hrunit, hrevision⟩
      have hin : r ∈ db.resolutions.filter fun r => r.executionUnitId = unit.id :=
        List.mem_filter.2 ⟨hr, by simpa using hrunit⟩
      cases hlatest : db.getLatestResolution unit.id with
      | none =>
        rw [Db.getLatestResolution, Rows.newest_eq_none] at hlatest
        simp [hlatest] at hin
      | some latest =>
        have hle := Rows.newest_ge hlatest r hin
        simp only [resolutionContent, hlatest] at hrevision
        omega
    have hinput : ¬ ∃ r ∈ db.resolutions, r.executionUnitId = unit.id ∧
        r.inputSetHash = inputSetHash H unit sources ∧ r.resolutionPolicyDigest = unitResolutionPolicyDigest := by
      rintro ⟨r, hr, hrunit, hsame, -⟩
      exact hnew r hr hrunit hsame
    refine ⟨⟨_, hvalid⟩, { db with resolutions := db.resolutions ++ [⟨_, hvalid⟩], nextId := nextId }, ?_⟩
    simp only [appendResolution, commits_bind, commits_newEntityId, commits_validated, commits_insertResolution,
      commits_pure]
    exact ⟨_, _, ⟨rfl, rfl⟩, resolutionId, _, hchain, ⟨hvalid⟩, _, rfl, (), _, ⟨hid, hrevision, hinput, rfl⟩, rfl, rfl⟩
  obtain ⟨r, db', hcommits⟩ := happend
  refine ⟨r, db', ?_⟩
  simp only [resolveUnit, commits_bind, commits_read, commits_demand]
  refine ⟨_, db, ⟨rfl, rfl⟩, _, db, ⟨rfl, rfl⟩, _, db, ⟨rfl, rfl⟩, sources, db, hcollect, decisive, db,
    ⟨hlast, rfl⟩, _, db, ⟨rfl, rfl⟩, ?_⟩
  cases hlatest : db.getLatestResolution unit.id with
  | none => rwa [hlatest] at hcommits
  | some latest =>
    have hmem := List.mem_filter.1 (Rows.newest_mem hlatest)
    rw [hlatest] at hcommits
    have hdiffers : ¬ (latest.inputSetHash = inputSetHash H unit sources ∧
        latest.resolutionPolicyDigest = unitResolutionPolicyDigest) :=
      fun h => hnew latest hmem.1 (by simpa using hmem.2) h.1
    simp only [hdiffers, if_false]
    exact hcommits

end Resolve

/-! ### Closing the Attempt -/

/-- The notice of a closed Attempt. -/
structure NoticeOf (attempt : UnitAttempt) (notice : AttemptClosureNotice) : Prop where
  scope : notice.toUnitScope = attempt.toUnitScope
  names : notice.unitAttemptId = attempt.id
  number : notice.attemptNumber = attempt.attemptNumber
  status : notice.sourceStatus ∈ closureSources attempt.quality
  closedAt : some notice.closedAt = attempt.closedAt
  hygiene : notice.dataHygiene = resultHygiene attempt.hygiene

/-- The tables after the Attempt is closed and its notice is stored. -/
theorem Resolvable.close {H : ResultHashes} {unit : ExecutionUnit} {attempt : UnitAttempt} {db m : Db}
    {new : ExecutionState} {notice : AttemptClosureNotice} (h : Resolvable H unit attempt db)
    (hstored : attempt ∈ db.attempts) (hof : attempt.executionUnitId = unit.id)
    (hunsealed : db.getSealByAttempt attempt.id = none) (hopen : db.getClosureByAttempt attempt.id = none)
    (hnotice : NoticeOf { attempt with toExecutionState := new } notice) (hid : db.nextId ≤ notice.id ∧ notice.id < m.nextId)
    (hattempts : m.attempts =
      Table.modify (fun a => a.id) attempt.id (fun a => { a with toExecutionState := new }) db.attempts)
    (hseals : m.seals = db.seals) (hclosures : m.closures = db.closures ++ [notice])
    (hresolutions : m.resolutions = db.resolutions) :
    Resolvable H unit { attempt with toExecutionState := new } m := by
  have hmem : ∀ a, a ∈ m.attempts ↔ a = { attempt with toExecutionState := new } ∨ (a ∈ db.attempts ∧ a.id ≠ attempt.id) := by
    intro a
    rw [hattempts]
    exact Table.mem_modify_keyed h.attemptIds hstored
  obtain ⟨hscope, hnumber, -⟩ := h.terminal attempt hstored hof
  have hnext : db.nextId < m.nextId := Nat.lt_of_le_of_lt hid.1 hid.2
  have hnoticeUnit : notice.executionUnitId = unit.id :=
    (congrArg UnitScope.executionUnitId hnotice.scope).trans hof
  have hclosuresUnit : m.listClosuresForUnit unit.id = db.listClosuresForUnit unit.id ++ [notice] := by
    simp [Db.listClosuresForUnit, hclosures, List.filter_append, hnoticeUnit]
  have hsealsUnit : m.listSealsForUnit unit.id = db.listSealsForUnit unit.id := by
    rw [Db.listSealsForUnit, hseals, Db.listSealsForUnit]
  have hnoSeal : (db.listSealsForUnit unit.id).find? (fun s => s.unitAttemptId = attempt.id) = none :=
    List.find?_eq_none.2 fun s hs => List.find?_eq_none.1 hunsealed s (List.mem_filter.1 hs).1
  have hnoNotice : (db.listClosuresForUnit unit.id).find? (fun n => n.unitAttemptId = attempt.id) = none :=
    List.find?_eq_none.2 fun n hn => List.find?_eq_none.1 hopen n (List.mem_filter.1 hn).1
  have hnames : notice.unitAttemptId = attempt.id := hnotice.names
  refine ⟨?_, ?_, hseals ▸ h.sealIds, ?_, ?_, ?_, ?_, ?_⟩
  · intro a ha haunit
    rcases (hmem a).1 ha with rfl | ⟨ha, hne⟩
    · refine ⟨hscope, hnumber, fun _ => ?_⟩
      rw [hclosuresUnit, hsealsUnit]
      refine .closureNotice notice ?_ hnoSeal hnotice.scope hnotice.number hnotice.status hnotice.closedAt
        hnotice.hygiene
      rw [List.find?_append]
      simp [hnoNotice, hnames]
    · obtain ⟨hascope, hanumber, hterminal⟩ := h.terminal a ha haunit
      refine ⟨hascope, hanumber, fun hclosed => ?_⟩
      rw [hclosuresUnit, hsealsUnit]
      cases hterminal hclosed with
      | attemptSeal fact found alone scope =>
        refine .attemptSeal fact found ?_ scope
        rw [List.find?_append, alone]
        simp [hnames, Ne.symm hne]
      | closureNotice stored found alone scope number status closedAt hygiene =>
        refine .closureNotice stored ?_ alone scope number status closedAt hygiene
        rw [List.find?_append, found, Option.some_or]
  · rw [hattempts, Table.map_modify]
    · exact h.attemptIds
    · exact fun _ => rfl
  · rw [hclosures, List.map_append]
    refine List.nodup_append.2 ⟨h.closureIds, List.nodup_singleton _, ?_⟩
    intro id hold id' hnew hsame
    obtain ⟨n, hn, rfl⟩ := List.mem_map.1 hold
    have hlt := h.freshClosures n hn
    simp only [List.map_cons, List.map_nil, List.mem_singleton] at hnew
    have hle := hid.1
    rw [← hnew, ← hsame] at hle
    exact absurd hlt (Nat.not_lt.2 hle)
  · rw [hattempts, Table.filter_modify, Table.length_modify]
    · exact h.bounded
    · exact fun _ => rfl
  · intro n hn
    rw [hclosures] at hn
    rcases List.mem_append.1 hn with hn | hn
    · exact Nat.lt_trans (h.freshClosures n hn) hnext
    · rw [List.mem_singleton.1 hn]
      exact hid.2
  · intro r hr
    exact Nat.lt_trans (h.freshResolutions r (hresolutions ▸ hr)) hnext
  · intro r hr
    exact h.unresolved r (hresolutions ▸ hr)

theorem buildClosureNotice_total (H : ResultHashes) {attempt : UnitAttempt} {status : AttemptClosureSourceStatus}
    {code : String} {createdAt closedAt : Instant} (hcode : safeReason code = true)
    (hnumber : 1 ≤ attempt.attemptNumber) (hstatus : status ∈ closureSources attempt.quality)
    (hclosedAt : attempt.closedAt = some closedAt) (hle : closedAt ≤ createdAt) (db : Db) :
    ∃ notice, Commits (buildClosureNotice H attempt status code createdAt) db notice
        { db with nextId := db.nextId + 1 } ∧
      NoticeOf attempt notice ∧ notice.id = db.nextId ∧ notice.sourceStatus = status := by
  simp only [buildClosureNotice, hclosedAt, commits_bind, commits_demand, commits_newEntityId, commits_validated,
    commits_pure]
  refine ⟨⟨_, _, ?_⟩, ⟨closedAt, db, ⟨rfl, rfl⟩, db.nextId, _, ⟨rfl, rfl⟩, ⟨?_⟩, _, rfl, rfl, rfl⟩,
    ⟨rfl, rfl, rfl, hstatus, hclosedAt.symm, rfl⟩, rfl, rfl⟩
  all_goals
    have hverdict : (closureVerdict attempt status = .notEvaluated ∧ status = .canceled) ∨
        closureVerdict attempt status = .inconclusive := by
      unfold closureVerdict
      split
      case isTrue h => exact .inl ⟨rfl, h.1⟩
      case isFalse => exact .inr rfl
    simp only [AttemptClosureNoticeContent.violation, firstViolation_cons, decide_eq_false_iff_not,
      firstViolation_nil]
    refine ⟨by omega, by simpa using hcode, ?_, by simp, by simp, by simp, by simp, ?_, ?_,
      Nat.not_lt.2 hle, trivial⟩
    · rcases hverdict with ⟨hv, -⟩ | hv <;> simp [hv]
    · rcases hverdict with ⟨hv, hs⟩ | hv <;> simp [*]
    · rcases hverdict with ⟨hv, hs⟩ | hv <;> simp [*]

/-- A notice that is written for the first time carries a safe reason. -/
theorem closeWithoutSeal_safe {H : ResultHashes} {unit : ExecutionUnit} {attempt : UnitAttempt}
    {status : AttemptClosureSourceStatus} {code : String} {createdAt : Instant} {r : UnitResolutionRevision}
    {db db' : Db} (hopen : db.getClosureByAttempt attempt.id = none)
    (h : Commits (closeWithoutSeal H unit attempt status code createdAt) db r db') : safeReason code = true := by
  simp only [closeWithoutSeal, requireAttemptScope, requireClosureSource, commits_bind, commits_raiseIf,
    commits_read] at h
  obtain ⟨_, _, ⟨-, rfl⟩, _, _, ⟨-, rfl⟩, _, _, ⟨-, rfl⟩, _, _, ⟨rfl, rfl⟩, _, _, ⟨-, rfl⟩, _, _, ⟨rfl, rfl⟩, _, _,
    hrecord, -⟩ := h
  simp only [hopen, recordClosure, buildClosureNotice, commits_bind, commits_demand, commits_newEntityId,
    commits_validated, commits_pure] at hrecord
  obtain ⟨_, _, ⟨_, _, -, _, _, -, ⟨hvalid⟩, -⟩, -⟩ := hrecord
  simp only [AttemptClosureNoticeContent.violation, firstViolation_cons] at hvalid
  simpa using hvalid.2.1

/-- A closed Attempt without a fact gets its notice, when its Unit can be resolved with it. -/
theorem closeWithoutSeal_total {H : ResultHashes} {unit : ExecutionUnit} {attempt : UnitAttempt}
    {status : AttemptClosureSourceStatus} {code : String} {createdAt closedAt : Instant} {db : Db}
    (hscope : attempt.toUnitScope = unit.toUnitScope) (hclosed : attempt.lifecycle = .closed)
    (hclosedAt : attempt.closedAt = some closedAt) (hle : closedAt ≤ createdAt)
    (hstatus : status ∈ closureSources attempt.quality) (hnumber : 1 ≤ attempt.attemptNumber)
    (hunsealed : db.getSealByAttempt attempt.id = none) (hopen : db.getClosureByAttempt attempt.id = none)
    (hfresh : ∀ n ∈ db.closures, n.id < db.nextId) (hcode : safeReason code = true)
    (hresolve : ∀ notice, NoticeOf attempt notice → notice.id = db.nextId → ∃ r db', Commits (resolveUnit H unit createdAt)
      { db with closures := db.closures ++ [notice], nextId := db.nextId + 1 } r db') :
    ∃ r db' notice, Commits (closeWithoutSeal H unit attempt status code createdAt) db r db' ∧
      db'.closures = db.closures ++ [notice] ∧ db'.attempts = db.attempts ∧ NoticeOf attempt notice ∧
      notice.sourceStatus = status := by
  obtain ⟨notice, hbuild, hnotice, hid, hsource⟩ :=
    buildClosureNotice_total H hcode hnumber hstatus hclosedAt hle db
  obtain ⟨r, db', hcommits⟩ := hresolve notice hnotice hid
  have hkept : db'.closures = db.closures ++ [notice] ∧ db'.attempts = db.attempts := by
    rcases resolveUnit_commits hcommits with ⟨-, rfl⟩ | happended
    · exact ⟨rfl, rfl⟩
    · obtain ⟨nextId, rfl⟩ := happended.state
      exact ⟨rfl, rfl⟩
  refine ⟨r, db', notice, ?_, hkept.1, hkept.2, hnotice, hsource⟩
  have hnewId : ¬ ∃ n ∈ db.closures, n.id = notice.id := by
    rintro ⟨n, hn, hsame⟩
    exact absurd (hsame.trans hid) (Nat.ne_of_lt (hfresh n hn))
  have hnewAttempt : ¬ ∃ n ∈ db.closures, n.unitAttemptId = notice.unitAttemptId := by
    rintro ⟨n, hn, hsame⟩
    exact List.find?_eq_none.1 hopen n hn (by simpa using hsame.trans hnotice.names)
  simp only [closeWithoutSeal, requireAttemptScope, requireClosureSource, commits_bind, commits_raiseIf,
    commits_read]
  refine ⟨(), db, ⟨not_not.2 hscope, rfl⟩, (), db, ⟨by simp [hclosed, hclosedAt], rfl⟩, (), db,
    ⟨not_not.2 hstatus, rfl⟩, _, db, ⟨rfl, rfl⟩, (), db, ⟨not_not.2 hunsealed, rfl⟩, _, db, ⟨rfl, rfl⟩, (), _, ?_,
    hcommits⟩
  simp only [hopen, recordClosure, commits_bind, commits_insertClosure]
  exact ⟨notice, _, hbuild, hnewId, hnewAttempt, rfl⟩

/-! ### The claim about one call -/

/-- A running Attempt without a Seal, in tables that keep the invariants of the store. -/
structure Finishable (H : ResultHashes) (unitRetryAttemptId : Uuid → ℕ → Uuid) (request : UnitAttemptWorkflowInput)
    (run : TaskRun) (unit : ExecutionUnit) (attempt : UnitAttempt) (now clock : Instant) (db : Db) : Prop where
  names : run.id = request.taskRunId ∧ unit.id = request.executionUnitId ∧ attempt.id = request.unitAttemptId
  exact : Commits (requireExactAttemptRequest unitRetryAttemptId request run unit attempt) db () db
  rows : OnRows run unit attempt db
  running : Running attempt now clock
  noSeal : db.getSealByAttempt attempt.id = none
  noNotice : db.getClosureByAttempt attempt.id = none
  tables : Resolvable H unit attempt db

/-- The call closes the Attempt, appends one notice of it, and answers what the Workflow accepts. -/
def Persisted (H : ResultHashes) (P : HygieneProjection) (unitRetryAttemptId : Uuid → ℕ → Uuid)
    (request : TaskAttemptFinishInput) (now clock : Instant) (db : Db) : Prop :=
  ∃ result db' closed notice, Commits (finishAttempt H P unitRetryAttemptId request now clock) db result db' ∧
    db'.getAttempt request.attempt.unitAttemptId = some closed ∧ closed.lifecycle = .closed ∧
    db'.closures = db.closures ++ [notice] ∧ notice.unitAttemptId = request.attempt.unitAttemptId ∧
    closureSourceStatus result.status = some notice.sourceStatus ∧
    validAttemptResult request.attempt result request.execution = true

theorem closingQuality_ne_pending (status : TaskAttemptExecutionStatus) : closingQuality status ≠ .pending := by
  cases status <;> decide

theorem closureSource_of_expected {execution : TaskAttemptExecutionStatus} {status : AttemptStatus}
    (h : expectedStatus execution = some status) :
    status ≠ .passed ∧ ∃ source, closureSourceStatus status = some source ∧
      source ∈ closureSources (closingQuality execution) := by
  cases execution <;> simp only [expectedStatus, Option.some.injEq, reduceCtorEq] at h <;> subst h <;>
    exact ⟨by decide, _, rfl, by decide⟩

theorem validAttemptResult_attemptPayload {request : UnitAttemptWorkflowInput} {execution : TaskAttemptExecutionPayload}
    {status : AttemptStatus} (hvalid : validExecutionPayload execution = true)
    (hstatus : expectedStatus execution.status = some status) :
    validAttemptResult request
      (attemptPayload request status (some (outcomeCode execution)) execution.retryAfterSeconds none none)
      execution = true := by
  simp only [validExecutionPayload, Bool.decide_and, Bool.and_eq_true, decide_eq_true_eq] at hvalid
  obtain ⟨hcode, hretry, -⟩ := hvalid
  have hsafe : isSafeErrorCode (some (outcomeCode execution)) = true := by
    simpa [isSafeErrorCode, safeErrorCode] using safeErrorCode_outcomeCode hcode
  have hinfra : (status = .infraError) ↔ execution.status = .infraError := by
    cases hs : execution.status <;> simp only [hs, expectedStatus, Option.some.injEq, reduceCtorEq] at hstatus <;>
      subst hstatus <;> decide
  simp only [validAttemptResult, validAttemptResultIdentity, attemptPayload, hsafe, hstatus, hinfra]
  simpa using hretry

theorem executionStatus_of_unsealed {execution : TaskAttemptExecutionPayload}
    (h : execution.status ≠ .resultFinalized) : ∃ status, expectedStatus execution.status = some status := by
  cases hs : execution.status
  case resultFinalized => exact absurd hs h
  all_goals exact ⟨_, rfl⟩

/-- The state of the Attempt once it is closed. -/
def closedState (attempt : UnitAttempt) (quality : ExecutionQuality) (now clock : Instant) : ExecutionState :=
  movedState (moved attempt (finalizedNow attempt.toExecutionState quality now) clock)
    (closedNow (movedState attempt (finalizedNow attempt.toExecutionState quality now) clock) quality now) clock

/-- The tables after the two transitions of a closing Attempt. -/
structure ClosedRows (attempt : UnitAttempt) (new : ExecutionState) (db m : Db) : Prop where
  attempts : m.attempts =
    Table.modify (fun a => a.id) attempt.id (fun a => { a with toExecutionState := new }) db.attempts
  seals : m.seals = db.seals
  closures : m.closures = db.closures
  resolutions : m.resolutions = db.resolutions
  nextId : m.nextId = db.nextId + 2

theorem attemptResultPayload_total {execution : TaskAttemptExecutionPayload} {status : AttemptStatus}
    (hvalid : validExecutionPayload execution = true) (hstatus : expectedStatus execution.status = some status)
    (db : Db) :
    Commits (attemptResultPayload status (some (outcomeCode execution)) execution.retryAfterSeconds none none) db
      (.attemptResult ⟨status, some (outcomeCode execution), execution.retryAfterSeconds, none, none⟩) db := by
  simp only [validExecutionPayload, Bool.decide_and, Bool.and_eq_true, decide_eq_true_eq] at hvalid
  obtain ⟨hcode, hretry, -⟩ := hvalid
  have hsafe := safeErrorCode_outcomeCode hcode
  have hafter : retryAfterValid execution.retryAfterSeconds = true := by
    cases hr : execution.retryAfterSeconds with
    | none => simp [retryAfterValid]
    | some r =>
      simp only [isRetryAfter, hr, Option.all_some, decide_eq_true_eq] at hretry
      simp [retryAfterValid, hretry]
  simp only [attemptResultPayload, commits_raiseIf_bind, commits_pure]
  exact ⟨by simp [hsafe], by simp [hafter], by simp [(closureSource_of_expected hstatus).1], by simp, trivial, trivial⟩

/-- Until its notice is due, a call on a running Attempt always goes the same way. -/
theorem finishAttempt_iff {request : TaskAttemptFinishInput} {run : TaskRun} {attempt : UnitAttempt}
    {unit : ExecutionUnit} {now clock : Instant} {db : Db} {status : AttemptStatus}
    (h : Finishable H unitRetryAttemptId request.attempt run unit attempt now clock db)
    (hvalid : validExecutionPayload request.execution = true)
    (hstatus : expectedStatus request.execution.status = some status) :
    ∃ m, ClosedRows attempt (closedState attempt (closingQuality request.execution.status) now clock) db m ∧
      ∀ result db', Commits (finishAttempt H P unitRetryAttemptId request now clock) db result db' ↔
        Commits (closeAttemptResultWithoutSeal H unit
          { attempt with
            toExecutionState := closedState attempt (closingQuality request.execution.status) now clock }
          status (outcomeCode request.execution) now) m () db' ∧
        result = attemptPayload request.attempt status (some (outcomeCode request.execution))
          request.execution.retryAfterSeconds none none := by
  have hquality := closingQuality_ne_pending request.execution.status
  have hrunning := h.running.lifecycle
  have hpayload := attemptResultPayload_total hvalid hstatus
  obtain ⟨finalized, hfinalizedId, hfinalize⟩ := transitionAttempt_total h.rows
    (by simp [hrunning, finalizedNow]) (h.running.allowed_finalizing hquality) .attemptFinalized
    (.attemptResult ⟨status, some (outcomeCode request.execution), request.execution.retryAfterSeconds, none, none⟩)
  have hrows : OnRows run unit
      (moved attempt (finalizedNow attempt.toExecutionState (closingQuality request.execution.status) now) clock)
      (afterMove attempt (movedState attempt
        (finalizedNow attempt.toExecutionState (closingQuality request.execution.status) now) clock) finalized db) := by
    refine ⟨h.rows.storedRun, h.rows.storedUnit, getAttempt_writeState h.rows.stored _, h.rows.isSealed,
      h.rows.ofRun, h.rows.ofUnit, ?_⟩
    intro e he
    rcases List.mem_append.1 he with he | he
    · exact (h.rows.fresh e he).trans (Nat.lt_succ_self _)
    · rw [List.mem_singleton.1 he, hfinalizedId]
      exact Nat.lt_succ_self _
  obtain ⟨closed, -, hclose⟩ := transitionAttempt_total hrows
    (by simp [moved, movedState, Progress.of, finalizedNow, closedNow]) (h.running.allowed_closed hquality)
    .attemptClosed .empty
  refine ⟨afterMove (moved attempt (finalizedNow attempt.toExecutionState (closingQuality request.execution.status) now)
      clock) (closedState attempt (closingQuality request.execution.status) now clock) closed
    (afterMove attempt (movedState attempt (finalizedNow attempt.toExecutionState
      (closingQuality request.execution.status) now) clock) finalized db), ⟨?_, rfl, rfl, rfl, rfl⟩, fun result db' => ?_⟩
  · exact Table.modify_modify (fun _ => rfl) fun _ => rfl
  · have hlock : Commits (lockAttemptChain request.attempt.taskRunId request.attempt.executionUnitId
        request.attempt.unitAttemptId) db (run, unit, attempt) db := by
      obtain ⟨hrun, hunit, hattempt⟩ := h.names
      simp only [lockAttemptChain, commits_read_bind, commits_demand_bind, commits_pure]
      exact ⟨run, hrun ▸ h.rows.storedRun, unit, hunit ▸ h.rows.storedUnit, attempt, hattempt ▸ h.rows.stored, rfl, trivial⟩
    have hfinalizing : Commits (finalizeAttempt run unit attempt (closingQuality request.execution.status) status
        (outcomeCode request.execution) request.execution.retryAfterSeconds now clock) db
        (moved attempt (finalizedNow attempt.toExecutionState (closingQuality request.execution.status) now) clock)
        (afterMove attempt (movedState attempt (finalizedNow attempt.toExecutionState
          (closingQuality request.execution.status) now) clock) finalized db) := by
      rw [finalizeAttempt, if_neg (by simp [hrunning]), Commits.bind_iff (hpayload db)]
      exact hfinalize
    have hread : db.getSealByAttempt attempt.id = none := h.noSeal
    have hout := executionOutcome_commits hvalid hstatus db
    rw [finishAttempt, Commits.bind_iff hlock]
    dsimp only
    rw [Commits.bind_iff h.exact, commits_read_bind]
    simp only [hread]
    rw [Commits.bind_iff hout]
    simp only [hrunning, reduceCtorEq, if_false]
    refine (Commits.bind_iff hfinalizing).trans ((Commits.bind_iff hclose).trans ?_)
    rw [commits_bind]
    constructor
    · rintro ⟨_, _, hclosed, hresult⟩
      obtain ⟨rfl, rfl⟩ := commits_pure.1 hresult
      exact ⟨hclosed, rfl⟩
    · rintro ⟨hclosed, rfl⟩
      exact ⟨(), db', hclosed, commits_pure.2 ⟨rfl, rfl⟩⟩

/-- An accepted execution without a Seal is persisted exactly when its code is not a single letter. -/
theorem finish_persists_iff (H : ResultHashes) (P : HygieneProjection) (unitRetryAttemptId : Uuid → ℕ → Uuid)
    {request : TaskAttemptFinishInput} {run : TaskRun} {unit : ExecutionUnit} {attempt : UnitAttempt}
    {now clock : Instant} {db : Db}
    (h : Finishable H unitRetryAttemptId request.attempt run unit attempt now clock db)
    (hvalid : validExecutionPayload request.execution = true) (hunsealed : request.execution.status ≠ .resultFinalized) :
    Persisted H P unitRetryAttemptId request now clock db ↔ ¬ SingleLetter request.execution := by
  obtain ⟨status, hstatus⟩ := executionStatus_of_unsealed hunsealed
  obtain ⟨-, source, hsource, hmem⟩ := closureSource_of_expected hstatus
  obtain ⟨m, hm, hcall⟩ := finishAttempt_iff (P := P) h hvalid hstatus
  have hcode : isSafeErrorCode request.execution.errorCode = true := by
    simp only [validExecutionPayload, Bool.decide_and, Bool.and_eq_true, decide_eq_true_eq] at hvalid
    exact hvalid.1
  have hopen : m.getClosureByAttempt attempt.id = none := by
    rw [Db.getClosureByAttempt, hm.closures]
    exact h.noNotice
  have hseal : m.getSealByAttempt attempt.id = none := by
    rw [Db.getSealByAttempt, hm.seals]
    exact h.noSeal
  rw [← safeReason_outcomeCode_iff hcode]
  constructor
  · rintro ⟨result, db', -, -, hcommits, -⟩
    obtain ⟨hclose, -⟩ := (hcall result db').1 hcommits
    simp only [closeAttemptResultWithoutSeal, hsource, commits_bind, commits_demand, commits_rethrow] at hclose
    obtain ⟨_, _, ⟨-, rfl⟩, r, m', hclose, -⟩ := hclose
    refine closeWithoutSeal_safe ?_ hclose
    exact hopen
  · intro hsafe
    have hstored : attempt ∈ db.attempts := List.mem_of_find?_eq_some h.rows.stored
    obtain ⟨hscope, hnumber, -⟩ := h.tables.terminal attempt hstored h.rows.ofUnit
    have hfresh : ∀ n ∈ m.closures, n.id < m.nextId := by
      intro n hn
      rw [hm.nextId]
      exact Nat.lt_add_right 2 (h.tables.freshClosures n (hm.closures ▸ hn))
    have hresolve : ∀ notice,
        NoticeOf { attempt with
          toExecutionState := closedState attempt (closingQuality request.execution.status) now clock } notice →
        notice.id = m.nextId → ∃ r db', Commits (resolveUnit H unit now)
          { m with closures := m.closures ++ [notice], nextId := m.nextId + 1 } r db' := by
      intro notice hnotice hid
      have hresolvable : Resolvable H unit { attempt with
          toExecutionState := closedState attempt (closingQuality request.execution.status) now clock }
          { m with closures := m.closures ++ [notice], nextId := m.nextId + 1 } := by
        refine h.tables.close hstored h.rows.ofUnit h.noSeal h.noNotice hnotice ?_ hm.attempts hm.seals ?_
          hm.resolutions
        · rw [hid, hm.nextId]
          exact ⟨Nat.le_add_right _ _, Nat.lt_succ_self _⟩
        · rw [hm.closures]
      refine hresolvable.resolveUnit_total ?_ h.rows.ofUnit rfl now
      change _ ∈ m.attempts
      rw [hm.attempts]
      exact (Table.mem_modify_keyed h.tables.attemptIds hstored).2 (.inl rfl)
    have hclose : ∃ r db' notice, Commits (closeWithoutSeal H unit { attempt with
          toExecutionState := closedState attempt (closingQuality request.execution.status) now clock } source
          (outcomeCode request.execution) now) m r db' ∧
        db'.closures = m.closures ++ [notice] ∧ db'.attempts = m.attempts ∧
        NoticeOf { attempt with
          toExecutionState := closedState attempt (closingQuality request.execution.status) now clock } notice ∧
        notice.sourceStatus = source := by
      refine closeWithoutSeal_total hscope rfl rfl (le_refl now) hmem hnumber hseal hopen hfresh hsafe hresolve
    obtain ⟨r, db', notice, hclose, hclosures, hattempts, hnotice, hnoticeSource⟩ := hclose
    have hnames := h.names.2.2
    refine ⟨_, db', { attempt with
      toExecutionState := closedState attempt (closingQuality request.execution.status) now clock }, notice,
      (hcall _ db').2 ⟨?_, rfl⟩, ?_, rfl, hm.closures ▸ hclosures, hnotice.names.trans hnames, ?_,
      validAttemptResult_attemptPayload hvalid hstatus⟩
    · simp only [closeAttemptResultWithoutSeal, hsource, commits_bind, commits_demand, commits_rethrow]
      exact ⟨source, m, ⟨rfl, rfl⟩, r, db', hclose, commits_pure.2 ⟨rfl, rfl⟩⟩
    · rw [Db.getAttempt, hattempts, hm.attempts, ← hnames]
      exact getAttempt_writeState h.rows.stored _
    · exact hsource.trans (congrArg some hnoticeSource.symm)

namespace OneLetter

def attempt : UnitAttempt :=
  { ShortDeadline.attempt 100 with
    lifecycle := .running, quality := .pending, finalizedAt := none, closedAt := none, revision := 2 }

def start : Db := { ShortDeadline.start 100 with attempts := [attempt], events := [] }

/-- The execution of the one Attempt ended in an infrastructure error with this code. -/
def request (code : String) : TaskAttemptFinishInput where
  attempt := ⟨1, 2, 3, 0, 0, 1, 41, 12, 100, 60⟩
  execution := ⟨.infraError, some code, some 5, none, none⟩

def finish (code : String) : Op TaskAttemptWorkflowPayload :=
  finishAttempt LateCleanup.hashes (fun _ _ _ => .ok none) ShortDeadline.retryId (request code) 20 20

theorem finishable (code : String) : Finishable LateCleanup.hashes ShortDeadline.retryId (request code).attempt start.run
    ShortDeadline.unit attempt 20 20 start where
  names := ⟨rfl, rfl, rfl⟩
  exact := rfl
  rows := ⟨rfl, rfl, rfl, rfl, ⟨rfl, rfl⟩, rfl, by simp [start]⟩
  running := ⟨rfl, by decide, by decide, by decide, by decide, by decide⟩
  noSeal := rfl
  noNotice := rfl
  tables := by
    refine ⟨?_, by decide, by decide, by decide, by decide, by decide, by decide, ?_⟩
    · intro a ha _
      obtain rfl := List.mem_singleton.1 ha
      exact ⟨rfl, by decide, fun hclosed => absurd hclosed (by decide)⟩
    · simp [start, ShortDeadline.start]

end OneLetter

open OneLetter in
theorem two_letters_persisted :
    Persisted LateCleanup.hashes (fun _ _ _ => .ok none) ShortDeadline.retryId (request "E1") 20 20 start :=
  (finish_persists_iff LateCleanup.hashes (fun _ _ _ => .ok none) ShortDeadline.retryId (finishable "E1") (by decide)
    (by decide)).2 (by decide)

open OneLetter in
/-- A code of one letter passes the boundary, and the call raises. -/
theorem one_letter_not_persisted :
    validExecutionPayload (request "E").execution = true ∧
      ¬ Persisted LateCleanup.hashes (fun _ _ _ => .ok none) ShortDeadline.retryId (request "E") 20 20 start := by
  have hraises : Raises (finish "E") start (.validation "closureReason") := by decide +kernel
  refine ⟨by decide, ?_⟩
  rintro ⟨result, db', -, -, hcommits, -⟩
  exact not_commits_of_raises hraises hcommits

end Atlas.Proofs
