import AtlasTestOps.Lib.Raises
import AtlasTestOps.Proofs.SnapshotChain
import AtlasTestOps.Service.Settlement

/-! Settling a finished Attempt against the clock: when the settlement has no time left for the
retry that it scheduled itself. -/

namespace Atlas.Proofs

open Atlas Atlas.Task Atlas.Result Atlas.Store Atlas.Orchestration Atlas.Service Txn

variable {H : ResultHashes} {unitRetryAttemptId : Uuid → ℕ → Uuid}

/-- The error that the Root does not retry. -/
abbrev retryExpired : Fault := .worker "TASK_RETRY_DEADLINE_EXPIRED"

/-- Neither the worker nor a projection, which the worker passes on, runs out of time here. -/
abbrev NeverExpires {α : Type} (t : Op α) : Prop :=
  ∀ db, ¬ Raises t db (.worker "TASK_RETRY_DEADLINE_EXPIRED") ∧
    ¬ Raises t db (.projection "TASK_RETRY_DEADLINE_EXPIRED")

/-! ### What never expires -/

theorem never_nextState (row : String) (revision : ℕ) (axes : ExecutionAxes) (old : ExecutionState)
    (createdAt : Instant) (queuedAt : Option Instant) (clock : Instant) :
    NeverExpires (nextState row revision axes old createdAt queuedAt clock) := by
  intro db
  simp [nextState]

theorem never_newEntityId : NeverExpires newEntityId := by
  intro db
  simp [Raises, newEntityId]

theorem never_recordEvent (run : TaskRun) (projection : ExecutionState) (eventType : EventType)
    (executionUnitId unitAttemptId : Option Uuid) (payload : EventPayload) :
    NeverExpires (recordEvent run projection eventType executionUnitId unitAttemptId payload) := by
  intro db
  simp [recordEvent, appendEvent, never_newEntityId]

theorem never_transitionUnit (run : TaskRun) (unit : ExecutionUnit) (progress : Progress)
    (eventType : EventType) (payload : EventPayload) (clock : Instant) :
    NeverExpires (transitionUnit run unit progress eventType payload clock) := by
  intro db
  simp [transitionUnit, transitionExecutionUnitState, sealedRun, never_nextState, never_recordEvent]

theorem never_transitionAttempt (run : TaskRun) (unit : ExecutionUnit) (attempt : UnitAttempt)
    (progress : Progress) (eventType : EventType) (payload : EventPayload) (clock : Instant) :
    NeverExpires (transitionAttempt run unit attempt progress eventType payload clock) := by
  intro db
  simp [transitionAttempt, transitionUnitAttemptState, sealedRun, never_nextState, never_recordEvent]

theorem never_attemptResultPayload (status : AttemptStatus) (errorCode : Option String)
    (retryAfterSeconds : Option ℕ) (resultRefId : Option Uuid) (sealContentHash : Option Digest) :
    NeverExpires (attemptResultPayload status errorCode retryAfterSeconds resultRefId sealContentHash) := by
  intro db
  simp [attemptResultPayload]

theorem never_requireExactAttemptResultEvent (events : List TaskExecutionEvent) (unit : ExecutionUnit)
    (attempt : UnitAttempt) (quality : ExecutionQuality) (status : AttemptStatus)
    (errorCode : Option String) (retryAfterSeconds : Option ℕ) :
    NeverExpires (requireExactAttemptResultEvent events unit attempt quality status errorCode
      retryAfterSeconds) := by
  have hstored : NeverExpires (storedAttemptResultEvent events unit attempt) := by
    intro db
    unfold storedAttemptResultEvent
    split
    · split <;> simp
    · simp
  intro db
  simp [requireExactAttemptResultEvent, hstored]

theorem never_loadExactSealedOutcome (attempt : UnitAttempt) (status : AttemptStatus)
    (errorCode : Option String) (retryAfterSeconds : Option ℕ) (resultRefId : Option Uuid)
    (sealContentHash : Option Digest) : NeverExpires (loadExactSealedOutcome attempt status errorCode
      retryAfterSeconds resultRefId sealContentHash) := by
  intro db
  simp only [loadExactSealedOutcome, raises_bind, raises_read, commits_read, false_or]
  cases db.getSealByAttempt attempt.id <;> simp [requireExactSealedAttempt]

theorem never_validated (violation : Option String) : NeverExpires (validated violation) := by
  intro db
  cases violation <;> simp [Raises, validated]

theorem never_requireExactClosure (notice : AttemptClosureNotice) (attempt : UnitAttempt)
    (status : AttemptClosureSourceStatus) (reason : String) :
    NeverExpires (requireExactClosure notice attempt status reason) := by
  intro db
  simp [requireExactClosure, requireClosureSource]

theorem never_collectSources (unit : ExecutionUnit) (seals : List AttemptSeal)
    (closures : List AttemptClosureNotice) (attempts : List UnitAttempt) :
    NeverExpires (collectSources unit seals closures attempts) := by
  induction attempts with
  | nil =>
    intro db
    simp [collectSources]
  | cons attempt attempts ih =>
    have hsource : NeverExpires (terminalSource seals closures attempt) := by
      intro db
      unfold terminalSource
      split <;> simp [sourceFromSeal, sourceFromClosure, never_requireExactClosure]
    intro db
    simp [collectSources, requireAttemptScope, hsource, ih]

theorem never_resolveUnit (unit : ExecutionUnit) (createdAt : Instant) :
    NeverExpires (resolveUnit H unit createdAt) := by
  have happend : ∀ latest sources decisive,
      NeverExpires (appendResolution H unit latest sources decisive createdAt) := by
    intro latest sources decisive db
    cases latest <;>
      simp [appendResolution, resolutionChainId, insertResolution, never_newEntityId, never_validated]
  intro db
  constructor
  all_goals
    simp only [resolveUnit, raises_bind, raises_read, raises_demand, commits_read, commits_demand,
      never_collectSources, false_or]
    rintro ⟨_, _, ⟨rfl, rfl⟩, _, _, ⟨rfl, rfl⟩, _, _, ⟨rfl, rfl⟩, _, _, -, ⟨-, h⟩ | ⟨_, _, -, latest, _, ⟨rfl, rfl⟩, h⟩⟩
    · simp at h
    · split at h <;> simp [happend] at h

theorem never_closeAttemptResultWithoutSeal (unit : ExecutionUnit) (attempt : UnitAttempt)
    (status : AttemptStatus) (reason : String) (createdAt : Instant) :
    NeverExpires (closeAttemptResultWithoutSeal H unit attempt status reason createdAt) := by
  have hrecord : ∀ source existing,
      NeverExpires (recordClosure H attempt source reason createdAt existing) := by
    intro source existing db
    cases existing <;> simp [recordClosure, buildClosureNotice, insertClosure, never_newEntityId,
      never_validated, never_requireExactClosure]
  have hclose : ∀ source, NeverExpires (closeWithoutSeal H unit attempt source reason createdAt) := by
    intro source db
    simp [closeWithoutSeal, requireAttemptScope, requireClosureSource, hrecord, never_resolveUnit]
  have hpassed : ∀ source db code, code = "TASK_RETRY_DEADLINE_EXPIRED" → ∀ e,
      Raises (closeWithoutSeal H unit attempt source reason createdAt) db e →
        projectionToWorker e ≠ .worker code ∧ projectionToWorker e ≠ .projection code := by
    rintro source db code rfl e hraises
    cases e <;> simp [projectionToWorker]
    · rintro rfl
      exact (hclose source db).2 hraises
    · rintro rfl
      exact (hclose source db).1 hraises
  intro db
  simp only [closeAttemptResultWithoutSeal, raises_bind, raises_demand, raises_rethrow, raises_pure]
  constructor
  · rintro (⟨-, h⟩ | ⟨source, m, -, ⟨e, hraises, h⟩ | ⟨_, _, -, h⟩⟩)
    · simp at h
    · exact (hpassed source m _ rfl e hraises).1 h
    · exact h
  · rintro (⟨-, h⟩ | ⟨source, m, -, ⟨e, hraises, h⟩ | ⟨_, _, -, h⟩⟩)
    · simp at h
    · exact (hpassed source m _ rfl e hraises).2 h
    · exact h

theorem never_closeUnit (run : TaskRun) (unit : ExecutionUnit) (quality : ExecutionQuality)
    (payload : EventPayload) (finalizedAt : Instant) (missing : Option Instant) (now clock : Instant) :
    NeverExpires (closeUnit run unit quality payload finalizedAt missing now clock) := by
  intro db
  simp [closeUnit, never_transitionUnit]

theorem never_reconcileAttemptChain (run : TaskRun) (unit : ExecutionUnit) (attempt : UnitAttempt)
    (r : ChildResult) (events : List TaskExecutionEvent) (now clock : Instant) :
    NeverExpires (reconcileAttemptChain H run unit attempt r events now clock) := by
  intro db
  simp [reconcileAttemptChain, sealedOutcome, requireUnsealedResult, reconcileOpenAttempt,
    never_loadExactSealedOutcome, never_requireExactAttemptResultEvent, never_transitionAttempt,
    never_closeAttemptResultWithoutSeal, never_attemptResultPayload, never_closeUnit]

theorem never_closeUnitAfterAttempt (run : TaskRun) (unit : ExecutionUnit)
    (outcome : TaskAttemptWorkflowPayload) (now clock : Instant) :
    NeverExpires (closeUnitAfterAttempt run unit outcome now clock) := by
  intro db
  simp [closeUnitAfterAttempt, never_attemptResultPayload, never_closeUnit]

theorem never_requireClosedResult (unit : ExecutionUnit) (attempt : UnitAttempt) (r : ChildResult)
    (events : List TaskExecutionEvent) : NeverExpires (requireClosedResult unit attempt r events) := by
  intro db
  simp [requireClosedResult, never_loadExactSealedOutcome, never_requireExactAttemptResultEvent]

theorem never_createAttempt (attempt : UnitAttempt) : NeverExpires (createAttempt attempt) := by
  intro db
  simp only [createAttempt, raises_bind, raises_raiseIf, raises_read, commits_read, commits_raiseIf]
  cases hstored : db.getAttemptByNumber attempt.executionUnitId attempt.attemptNumber <;>
    simp [hstored, resolveAttemptReplay, requireRetryPrerequisites, insertAttempt]

/-! ### A settlement that runs out of time -/

/-- The outcome of a closed Attempt whose Unit is still open. -/
structure Awaiting (unitRetryAttemptId : Uuid → ℕ → Uuid) (request : TaskAttemptBatchSettleInput)
    (events : List TaskExecutionEvent) (outcome : TaskAttemptWorkflowPayload) (unit : ExecutionUnit)
    (attempt : UnitAttempt) (db : Db) : Prop where
  unitRow : db.getUnit outcome.executionUnitId = some unit
  attemptRow : db.getAttempt outcome.unitAttemptId = some attempt
  exact : exactAttempt unitRetryAttemptId request.request unit attempt outcome.ordinal = true
  closed : attempt.lifecycle = .closed
  result : Commits (requireClosedResult unit attempt (childResult outcome) events) db () db
  unsettled : unit.lifecycle ≠ .closed

/-- A stored retry that could be dispatched, were there a second left. -/
structure Dispatchable (tenantId : Uuid) (unit : ExecutionUnit) (retry : UnitAttempt) : Prop where
  number : 1 < retry.attemptNumber
  workflow : retry.temporalWorkflowId = some (unitAttemptWorkflowId tenantId retry.id)
  queued : retry.lifecycle = .queued
  pending : retry.quality = .pending
  scope : retry.executionUnitId = unit.id

/-- Less than a second lies between the retry, or the clock, and the deadline. -/
def Late (now : Instant) (retry : UnitAttempt) : Prop :=
  retry.executionDeadline < max now retry.queuedAt + seconds 1

/-- The retry that the settlement may still schedule. -/
structure Schedulable (unitRetryAttemptId : Uuid → ℕ → Uuid) (request : TaskAttemptBatchSettleInput)
    (run : TaskRun) (policy : Option TaskRetryPolicy) (retryCount : ℕ)
    (outcome : TaskAttemptWorkflowPayload) (unit : ExecutionUnit) (attempt : UnitAttempt) (now : Instant)
    (notBefore : Instant) (db : Db) : Prop where
  wanted : request.cancelRequested = false
  allowed : ∃ p, policy = some p ∧ canRetryAttempt outcome attempt p retryCount now = true ∧
    notBefore = now + seconds (retryDelaySeconds unitRetryAttemptId unit attempt p outcome.retryAfterSeconds)
  before : notBefore < attempt.executionDeadline
  stored : ∃ retry m m', Commits (createAttempt (retryAttempt unitRetryAttemptId request.request.tenantId
      unit attempt notBefore now)) db retry m ∧
    Commits (recordEvent run unit.toExecutionState .attemptRetryScheduled (some unit.id) none
      (.retryScheduled retry.id attempt.id retry.attemptNumber retry.queuedAt (safeOutcomeErrorCode outcome)))
      m () m'

/-- The state before the turn of an outcome leaves it no time: its retry is stored and late, or it may
be scheduled and is late as soon as it is. -/
def OutOfTime (unitRetryAttemptId : Uuid → ℕ → Uuid) (request : TaskAttemptBatchSettleInput)
    (run : TaskRun) (policy : Option TaskRetryPolicy) (events : List TaskExecutionEvent) (now : Instant)
    (retryCount : ℕ) (outcome : TaskAttemptWorkflowPayload) (db : Db) : Prop :=
  ∃ unit attempt, Awaiting unitRetryAttemptId request events outcome unit attempt db ∧
    ((∃ retry, db.getAttemptByNumber unit.id (attempt.attemptNumber + 1) = some retry ∧
        outcome.status = .infraError ∧ Dispatchable request.request.tenantId unit retry ∧ Late now retry) ∨
      db.getAttemptByNumber unit.id (attempt.attemptNumber + 1) = none ∧
        ∃ notBefore, Schedulable unitRetryAttemptId request run policy retryCount outcome unit attempt now
            notBefore db ∧
          attempt.executionDeadline < notBefore + seconds 1)

theorem no_second_left (deadline start : ℕ) :
    (deadline - start) / 1000000 = 0 ↔ deadline < start + seconds 1 := by
  unfold seconds
  omega

theorem retryDispatchPayload_expires_iff {tenantId : Uuid} {unit : ExecutionUnit} {retry : UnitAttempt}
    {now : Instant} {db : Db} :
    Raises (retryDispatchPayload tenantId unit retry now) db retryExpired ↔
      Dispatchable tenantId unit retry ∧ Late now retry := by
  have hlate : (retry.executionDeadline - max now retry.queuedAt) / 1000000 = 0 ↔ Late now retry :=
    no_second_left retry.executionDeadline (max now retry.queuedAt)
  simp only [retryDispatchPayload, retryExpired, raises_bind, raises_raiseIf, commits_raiseIf, raises_pure,
    hlate, not_or, not_not, not_le]
  constructor
  · rintro (⟨-, h⟩ | ⟨_, _, ⟨⟨hn, hw, hq, hp, hu⟩, rfl⟩, ⟨hl, -⟩ | ⟨_, _, -, h⟩⟩)
    · simp at h
    · exact ⟨⟨hn, hw, hq, hp, hu⟩, hl⟩
    · exact h.elim
  · rintro ⟨⟨hn, hw, hq, hp, hu⟩, hl⟩
    exact Or.inr ⟨(), db, ⟨⟨hn, hw, hq, hp, hu⟩, rfl⟩, Or.inl ⟨hl, trivial⟩⟩

/-- A new retry is returned as it was asked for. -/
theorem created_of_commits {attempt retry : UnitAttempt} {db db' : Db}
    (hnone : db.getAttemptByNumber attempt.executionUnitId attempt.attemptNumber = none)
    (h : Commits (createAttempt attempt) db retry db') : retry = attempt := by
  simp only [createAttempt, commits_bind, commits_raiseIf, commits_read] at h
  obtain ⟨_, _, ⟨-, rfl⟩, _, _, ⟨rfl, rfl⟩, h⟩ := h
  rw [hnone] at h
  simp only [commits_bind, commits_raiseIf, commits_pure] at h
  obtain ⟨_, _, -, _, _, -, _, _, -, rfl, -⟩ := h
  rfl

theorem within_requireClosedResult (unit : ExecutionUnit) (attempt : UnitAttempt) (r : ChildResult)
    (events : List TaskExecutionEvent) : Within (· = ·) (requireClosedResult unit attempt r events) := by
  have hstored : Within (· = ·) (storedAttemptResultEvent events unit attempt) := by
    unfold storedAttemptResultEvent
    split
    · split
      · exact .bind (.raiseIf _ _) fun _ => .pure _
      · exact .raise _
    · exact .raise _
  have hevent : Within (· = ·) (requireExactAttemptResultEvent events unit attempt r.quality r.status
      r.errorCode r.retryAfterSeconds) := .bind hstored fun _ => .raiseIf _ _
  have hloaded : Within (· = ·) (loadExactSealedOutcome attempt r.status r.errorCode r.retryAfterSeconds
      r.resultRefId r.sealContentHash) := by
    refine .bind (.read _) fun found => ?_
    cases found with
    | none => exact .bind (.raiseIf _ _) fun _ => .pure _
    | some fact =>
      exact .bind (.read _) fun _ => .bind (.demand _ _) fun _ =>
        .bind (.bind (.raiseIf _ _) fun _ => .raiseIf _ _) fun _ => .bind (.raiseIf _ _) fun _ => .pure _
  exact .bind (.raiseIf _ _) fun _ => .bind hloaded fun _ => .ite hevent (.pure _)

theorem scheduleRetry_expires_iff {tenantId : Uuid} {run : TaskRun} {unit : ExecutionUnit}
    {attempt : UnitAttempt} {errorCode : Option String} {notBefore now : Instant} {db : Db}
    (hunit : attempt.executionUnitId = unit.id) (hnumber : 1 ≤ attempt.attemptNumber)
    (hnone : db.getAttemptByNumber unit.id (attempt.attemptNumber + 1) = none) :
    Raises (scheduleRetry unitRetryAttemptId tenantId run unit attempt errorCode notBefore now) db
        retryExpired ↔
      (∃ retry m m', Commits (createAttempt (retryAttempt unitRetryAttemptId tenantId unit attempt
          notBefore now)) db retry m ∧
        Commits (recordEvent run unit.toExecutionState .attemptRetryScheduled (some unit.id) none
          (.retryScheduled retry.id attempt.id retry.attemptNumber retry.queuedAt errorCode)) m () m') ∧
      attempt.executionDeadline < max now notBefore + seconds 1 := by
  have hcreated : ∀ retry m, Commits (createAttempt (retryAttempt unitRetryAttemptId tenantId unit attempt
      notBefore now)) db retry m → Dispatchable tenantId unit retry ∧
        (Late now retry ↔ attempt.executionDeadline < max now notBefore + seconds 1) := by
    intro retry m hc
    obtain rfl := created_of_commits (by simpa [retryAttempt, hunit] using hnone) hc
    exact ⟨⟨by simpa [retryAttempt, Nat.lt_iff_add_one_le] using hnumber, rfl, rfl, rfl, hunit⟩, Iff.rfl⟩
  rw [scheduleRetry, raises_bind, or_iff_right (never_createAttempt _ db).1]
  constructor
  · rintro ⟨retry, m, hc, h⟩
    rw [raises_bind, or_iff_right (never_recordEvent _ _ _ _ _ _ m).1] at h
    obtain ⟨⟨⟩, m', he, h⟩ := h
    exact ⟨⟨retry, m, m', hc, he⟩, (hcreated retry m hc).2.1 (retryDispatchPayload_expires_iff.1 h).2⟩
  · rintro ⟨⟨retry, m, m', hc, he⟩, hl⟩
    have hlate : Raises (retryDispatchPayload tenantId unit retry now) m' retryExpired :=
      retryDispatchPayload_expires_iff.2 ⟨(hcreated retry m hc).1, (hcreated retry m hc).2.2 hl⟩
    exact ⟨retry, m, hc, raises_bind.2 (Or.inr ⟨(), m', he, hlate⟩)⟩

theorem retryOrClose_expires_iff {request : TaskAttemptBatchSettleInput} {run : TaskRun}
    {policy : Option TaskRetryPolicy} {n : ℕ} {unit : ExecutionUnit} {attempt : UnitAttempt}
    {outcome : TaskAttemptWorkflowPayload} {now clock : Instant} {db : Db}
    (hunit : attempt.executionUnitId = unit.id) (hnumber : 1 ≤ attempt.attemptNumber)
    (hnone : db.getAttemptByNumber unit.id (attempt.attemptNumber + 1) = none) :
    Raises (retryOrClose unitRetryAttemptId request run policy n unit attempt outcome now clock) db
        retryExpired ↔
      ∃ notBefore, Schedulable unitRetryAttemptId request run policy n outcome unit attempt now notBefore
          db ∧
        attempt.executionDeadline < notBefore + seconds 1 := by
  have hclose : ¬ Raises (closeUnitAfterAttempt run unit outcome now clock) db retryExpired :=
    (never_closeUnitAfterAttempt run unit outcome now clock db).1
  cases policy with
  | none =>
    simp only [retryOrClose, hclose, false_iff, not_exists, not_and]
    intro notBefore hs
    obtain ⟨p, hp, -⟩ := hs.allowed
    cases hp
  | some p =>
    simp only [retryOrClose, raises_ite, hclose, and_false, or_false, raises_bind, raises_pure,
      exists_false, Bool.and_eq_true, Bool.not_eq_true', decide_eq_true_eq,
      scheduleRetry_expires_iff hunit hnumber hnone]
    generalize hstart : now + seconds (retryDelaySeconds unitRetryAttemptId unit attempt p
      outcome.retryAfterSeconds) = start
    have hmax : max now start = start := max_eq_right (hstart ▸ Nat.le_add_right now _)
    rw [hmax]
    constructor
    · rintro ⟨⟨⟨hwanted, hallowed⟩, hbefore⟩, hstored, hlate⟩
      exact ⟨start, ⟨hwanted, ⟨p, rfl, hallowed, hstart.symm⟩, hbefore, hstored⟩, hlate⟩
    · rintro ⟨notBefore, ⟨hwanted, ⟨_, ⟨⟩, hallowed, hnb⟩, hbefore, hstored⟩, hlate⟩
      obtain rfl := hnb.trans hstart
      exact ⟨⟨⟨hwanted, hallowed⟩, hbefore⟩, hstored, hlate⟩

theorem exactAttempt_scope {request : TaskRunWorkflowInput} {unit : ExecutionUnit} {attempt : UnitAttempt}
    {ordinal : ℕ} (h : exactAttempt unitRetryAttemptId request unit attempt ordinal = true) :
    attempt.executionUnitId = unit.id ∧ 1 ≤ attempt.attemptNumber := by
  simp only [exactAttempt, decide_eq_true_eq] at h
  obtain ⟨-, -, -, -, -, -, -, -, hunit, -, -, -, hnumber, -⟩ := h
  exact ⟨hunit, hnumber⟩

/-- The turn of one outcome runs out of time exactly in the states that leave it none. -/
theorem settleOutcome_expires_iff {request : TaskAttemptBatchSettleInput} {run : TaskRun}
    {policy : Option TaskRetryPolicy} {events : List TaskExecutionEvent} {now clock : Instant} {n : ℕ}
    {outcome : TaskAttemptWorkflowPayload} {db : Db} :
    Raises (settleOutcome H unitRetryAttemptId request run policy events now clock n outcome) db
        retryExpired ↔
      OutOfTime unitRetryAttemptId request run policy events now n outcome db := by
  have hreconcile : ∀ unit attempt, ¬ Raises (reconcileAttemptChain H run unit attempt
      (childResult outcome) events now clock) db retryExpired :=
    fun unit attempt => (never_reconcileAttemptChain run unit attempt _ events now clock db).1
  have hresult : ∀ unit attempt, ¬ Raises (requireClosedResult unit attempt (childResult outcome) events)
      db retryExpired :=
    fun unit attempt => (never_requireClosedResult unit attempt _ events db).1
  rw [settleOutcome, raises_read_bind, raises_read_bind, raises_demand_bind (by decide)]
  simp only [requireExactAttempt, raises_demand_bind, raises_raiseIf_bind, ne_eq, Fault.worker.injEq,
    String.reduceEq, not_false_eq_true]
  constructor
  · rintro ⟨unit, hunit, attempt, hattempt, hexact, -, h⟩
    have hexact : exactAttempt unitRetryAttemptId request.request unit attempt outcome.ordinal = true := by
      simpa using hexact
    by_cases hclosed : attempt.lifecycle = .closed
    · rw [if_neg (not_not.2 hclosed), raises_within_bind (within_requireClosedResult _ _ _ _)
        (hresult unit attempt)] at h
      obtain ⟨hstored, h⟩ := h
      by_cases hopen : unit.lifecycle = .closed
      · simp [hopen] at h
      rw [if_neg hopen, raises_read_bind] at h
      refine ⟨unit, attempt, ⟨hunit, hattempt, hexact, hclosed, hstored, hopen⟩, ?_⟩
      cases hretry : db.getAttemptByNumber unit.id (attempt.attemptNumber + 1) with
      | some retry =>
        rw [hretry] at h
        simp only [raises_bind, raises_raiseIf, commits_raiseIf, raises_pure, and_false, exists_false,
          or_false] at h
        obtain ⟨-, h⟩ | ⟨_, _, ⟨hstatus, rfl⟩, h⟩ := h
        · simp at h
        obtain ⟨hdispatchable, hlate⟩ := retryDispatchPayload_expires_iff.1 h
        exact Or.inl ⟨retry, rfl, not_not.1 hstatus, hdispatchable, hlate⟩
      | none =>
        rw [hretry] at h
        have hscope := exactAttempt_scope hexact
        exact Or.inr ⟨rfl, (retryOrClose_expires_iff hscope.1 hscope.2 hretry).1 h⟩
    · simp [hclosed, hreconcile] at h
  · rintro ⟨unit, attempt, ⟨hunit, hattempt, hexact, hclosed, hstored, hopen⟩, h⟩
    have hids : ¬ (attempt.id ≠ outcome.unitAttemptId ∨ unit.id ≠ outcome.executionUnitId) := by
      simp only [not_or, not_not]
      exact ⟨by simpa using List.find?_some hattempt, by simpa using List.find?_some hunit⟩
    refine ⟨unit, hunit, attempt, hattempt, by simpa using hexact, hids, ?_⟩
    rw [if_neg (not_not.2 hclosed), raises_within_bind (within_requireClosedResult _ _ _ _)
      (hresult unit attempt), if_neg hopen, raises_read_bind]
    refine ⟨hstored, ?_⟩
    obtain ⟨retry, hretry, hstatus, hlate⟩ | ⟨hretry, hlate⟩ := h
    · rw [hretry, raises_raiseIf_bind (by decide), raises_bind]
      exact ⟨not_not.2 hstatus, Or.inl (retryDispatchPayload_expires_iff.2 hlate)⟩
    · rw [hretry]
      have hscope := exactAttempt_scope hexact
      exact (retryOrClose_expires_iff hscope.1 hscope.2 hretry).2 hlate

/-! ### What a turn that commits leaves behind -/

/-- The Units are as they were. -/
def SameUnits (db db' : Db) : Prop := db'.units = db.units

instance : Std.Refl SameUnits := ⟨fun _ => rfl⟩

instance : IsTrans Db SameUnits := ⟨fun _ _ _ h h' => h'.trans h⟩

theorem within_recordEvent (run : TaskRun) (projection : ExecutionState) (eventType : EventType)
    (executionUnitId unitAttemptId : Option Uuid) (payload : EventPayload) :
    Within SameUnits (recordEvent run projection eventType executionUnitId unitAttemptId payload) := by
  have hid : Within SameUnits newEntityId := by
    intro db id db' h
    cases h
    rfl
  have happend : ∀ event, Within SameUnits (appendEvent event) := fun event =>
    .bind (.read _) fun _ => .bind (.raiseIf _ _) fun _ => .bind (.read _) fun _ =>
      .bind (.demand _ _) fun _ => .bind (.raiseIf _ _) fun _ => .bind (.read _) fun _ =>
        .bind (.raiseIf _ _) fun _ => .bind (.raiseIf _ _) fun _ => .update fun _ => rfl
  exact .bind (.read _) fun _ => .bind hid fun _ => happend _

/-- A Unit that is moved has the state it moves to. -/
theorem getUnit_transitionUnit {run : TaskRun} {unit unit' : ExecutionUnit} {progress : Progress}
    {eventType : EventType} {payload : EventPayload} {clock : Instant} {db db' : Db}
    (hmoves : unit.lifecycle ≠ progress.lifecycle)
    (h : Commits (transitionUnit run unit progress eventType payload clock) db unit' db') :
    db'.getUnit unit.id = some unit' ∧ unit'.id = unit.id ∧ unit'.lifecycle = progress.lifecycle := by
  rw [transitionUnit, if_neg fun h => hmoves h.1, commits_bind] at h
  obtain ⟨updated, m, hrow, h⟩ := h
  rw [commits_bind] at h
  obtain ⟨_, m', hevent, h⟩ := h
  obtain ⟨rfl, rfl⟩ := commits_pure.1 h
  have hunits : db'.units = m.units := within_recordEvent _ _ _ _ _ _ m _ db' hevent
  simp only [transitionExecutionUnitState, sealedRun, nextState, commits_bind, commits_read,
    commits_demand, commits_raiseIf, commits_update, commits_pure] at hrow
  obtain ⟨_, _, ⟨_, _, ⟨rfl, rfl⟩, _, _, ⟨-, rfl⟩, _, _, ⟨-, rfl⟩, rfl, rfl⟩, found, _, ⟨rfl, rfl⟩, stored,
    _, ⟨hfound, rfl⟩, next, _, ⟨_, _, ⟨-, rfl⟩, _, _, ⟨-, rfl⟩, _, _, ⟨-, rfl⟩, _, _, ⟨-, rfl⟩, rfl,
    rfl⟩, _, _, rfl, rfl, rfl⟩ := hrow
  obtain ⟨hstored, -⟩ := Option.filter_eq_some_iff.1 hfound
  have hid : stored.id = unit.id := by simpa using List.find?_some hstored
  refine ⟨?_, hid, rfl⟩
  rw [Db.getUnit, hunits]
  refine (Table.find?_modify ?_).trans (congrArg (Option.map _) hstored)
  exact fun _ => rfl

/-- An open Unit that is closed has a closed row. -/
theorem closed_of_closeUnit {run : TaskRun} {unit : ExecutionUnit} {quality : ExecutionQuality}
    {payload : EventPayload} {finalizedAt now clock : Instant} {missing : Option Instant} {db db' : Db}
    (hopen : unit.lifecycle ≠ .closed)
    (h : Commits (closeUnit run unit quality payload finalizedAt missing now clock) db () db') :
    ∃ closed, db'.getUnit unit.id = some closed ∧ closed.lifecycle = .closed := by
  have hlast : ∀ {unit' unit'' m}, unit'.lifecycle ≠ .closed → unit'.id = unit.id →
      Commits (transitionUnit run unit' { closedNow unit'.toExecutionState quality (unit'.closedAt.getD now)
        with finalizedAt := unit'.finalizedAt.or missing } .unitClosed .empty clock) m unit'' db' →
      ∃ closed, db'.getUnit unit.id = some closed ∧ closed.lifecycle = .closed := by
    intro unit' unit'' m hopen hid hc
    obtain ⟨hrow, -, hclosed⟩ := getUnit_transitionUnit hopen hc
    exact ⟨unit'', hid ▸ hrow, hclosed⟩
  rw [closeUnit, commits_raiseIf_bind] at h
  obtain ⟨-, h⟩ := h
  by_cases hfinalizing : unit.lifecycle = .finalizing
  · simp only [hfinalizing, if_true, commits_bind, commits_pure] at h
    obtain ⟨_, _, ⟨rfl, rfl⟩, _, _, hclose, -, rfl⟩ := h
    exact hlast hopen rfl hclose
  · simp only [hfinalizing, if_false, commits_bind, commits_pure] at h
    obtain ⟨unit', _, hfinal, _, _, hclose, -, rfl⟩ := h
    obtain ⟨-, hid, hmoved⟩ := getUnit_transitionUnit hfinalizing hfinal
    have hopen' : unit'.lifecycle ≠ .closed := by simp [hmoved, finalizedNow]
    exact hlast hopen' hid hclose

/-- The Unit of an outcome is closed, or a retry of it is to be dispatched. -/
def ClosedOrRetried (unit : ExecutionUnit) (settled : Settled) (db : Db) : Prop :=
  (∃ payload created, settled = .retry payload created) ∨
    settled = .final ∧ ∃ closed, db.getUnit unit.id = some closed ∧ closed.lifecycle = .closed

theorem settleOutcome_settles {request : TaskAttemptBatchSettleInput} {run : TaskRun}
    {policy : Option TaskRetryPolicy} {events : List TaskExecutionEvent} {now clock : Instant} {n : ℕ}
    {outcome : TaskAttemptWorkflowPayload} {unit : ExecutionUnit} {attempt : UnitAttempt}
    {settled : Settled} {db db' : Db}
    (hawaiting : Awaiting unitRetryAttemptId request events outcome unit attempt db)
    (h : Commits (settleOutcome H unitRetryAttemptId request run policy events now clock n outcome) db
      settled db') : ClosedOrRetried unit settled db' := by
  have hclose : ∀ m, Commits (closeUnitAfterAttempt run unit outcome now clock) m settled db' →
      ClosedOrRetried unit settled db' := by
    intro m hc
    simp only [closeUnitAfterAttempt, commits_bind, commits_pure] at hc
    obtain ⟨_, _, -, _, _, hc, rfl, rfl⟩ := hc
    exact Or.inr ⟨rfl, closed_of_closeUnit hawaiting.unsettled hc⟩
  rw [settleOutcome, commits_read_bind, commits_read_bind, hawaiting.unitRow, hawaiting.attemptRow] at h
  simp only [commits_bind, commits_demand, requireExactAttempt, commits_raiseIf, Option.some.injEq] at h
  obtain ⟨_, _, ⟨rfl, rfl⟩, _, _, ⟨rfl, rfl⟩, _, _, ⟨-, rfl⟩, _, _, ⟨-, rfl⟩, h⟩ := h
  rw [if_neg (not_not.2 hawaiting.closed), commits_bind] at h
  obtain ⟨_, m, -, h⟩ := h
  rw [if_neg hawaiting.unsettled, commits_read_bind] at h
  split at h
  · simp only [commits_bind, commits_pure] at h
    obtain ⟨_, _, -, payload, _, -, rfl, -⟩ := h
    exact Or.inl ⟨payload, false, rfl⟩
  · unfold retryOrClose at h
    cases policy with
    | none => exact hclose m h
    | some p =>
      dsimp only at h
      split at h
      · simp only [commits_bind, commits_pure] at h
        obtain ⟨payload, _, -, rfl, -⟩ := h
        exact Or.inl ⟨payload, true, rfl⟩
      · exact hclose m h

/-! ### The whole batch -/

section Batch

variable (H : ResultHashes) (unitRetryAttemptId : Uuid → ℕ → Uuid) (request : TaskAttemptBatchSettleInput)
  (run : TaskRun) (policy : Option TaskRetryPolicy) (events : List TaskExecutionEvent) (now clock : Instant)

/-- The retries of the Run after a turn. -/
def countAfter (n : ℕ) : Settled → ℕ
  | .retry _ true => n + 1
  | _ => n

/-- The loop reaches the turn of an outcome, with a count of retries and a state. -/
inductive Turn : ℕ → List TaskAttemptWorkflowPayload → Db → ℕ → TaskAttemptWorkflowPayload → Db → Prop
  | here {n : ℕ} {outcome : TaskAttemptWorkflowPayload} {outcomes : List TaskAttemptWorkflowPayload}
      {db : Db} : Turn n (outcome :: outcomes) db n outcome db
  | later {n n' : ℕ} {first outcome : TaskAttemptWorkflowPayload}
      {outcomes : List TaskAttemptWorkflowPayload} {settled : Settled} {db m db' : Db}
      (settles : Commits (settleOutcome H unitRetryAttemptId request run policy events now clock n first) db
        settled m)
      (rest : Turn (countAfter n settled) outcomes m n' outcome db') :
      Turn n (first :: outcomes) db n' outcome db'

variable {H unitRetryAttemptId request run policy events now clock}

theorem settleOutcomes_expires_iff {n : ℕ} {outcomes : List TaskAttemptWorkflowPayload} {db : Db} :
    Raises (settleOutcomes H unitRetryAttemptId request run policy events now clock n outcomes) db
        retryExpired ↔
      ∃ n' outcome db', Turn H unitRetryAttemptId request run policy events now clock n outcomes db n'
          outcome db' ∧
        OutOfTime unitRetryAttemptId request run policy events now n' outcome db' := by
  induction outcomes generalizing n db with
  | nil =>
    simp only [settleOutcomes, raises_pure, false_iff, not_exists, not_and]
    rintro n' outcome db' ⟨⟩
  | cons first outcomes ih =>
    rw [settleOutcomes, raises_bind, settleOutcome_expires_iff]
    constructor
    · rintro (h | ⟨settled, m, hc, h⟩)
      · exact ⟨n, first, db, .here, h⟩
      · have hrest : Raises (settleOutcomes H unitRetryAttemptId request run policy events now clock
            (countAfter n settled) outcomes) m retryExpired := by
          cases settled with
          | final => simpa [countAfter] using h
          | retry payload created => cases created <;> simpa [countAfter] using h
        obtain ⟨n', outcome, db', hturn, h⟩ := ih.1 hrest
        exact ⟨n', outcome, db', .later hc hturn, h⟩
    · rintro ⟨n', outcome, db', hturn, h⟩
      cases hturn with
      | here => exact Or.inl h
      | @later _ _ _ _ _ settled _ m _ hc hturn =>
        refine Or.inr ⟨settled, m, hc, ?_⟩
        have hrest := ih.2 ⟨n', outcome, db', hturn, h⟩
        cases settled with
        | final => simpa [countAfter] using hrest
        | retry payload created => cases created <;> simpa [countAfter] using hrest

end Batch

/-- The batch passes every check before its loop. -/
structure Settling (request : TaskAttemptBatchSettleInput) (run : TaskRun) (manifest : TaskRunManifest)
    (db : Db) : Prop where
  size : ¬ (request.outcomes.length < 1 ∨ taskRunChildBatchSize < request.outcomes.length)
  distinct : (request.outcomes.map fun o => o.ordinal).Nodup
  runRow : db.getRun request.request.taskRunId = some run
  manifestRow : db.getManifest request.request.taskRunId = some manifest
  root : Commits (requireExactRoot request.request (some run) (some manifest.manifestHash)) db run db
  goesOn : ¬ (run.lifecycle ∈ [.pauseRequested, .paused] ∧ !request.cancelRequested)
  wanted : ¬ (run.lifecycle = .canceling ∧ !request.cancelRequested)
  open' : settleable run.lifecycle request.cancelRequested = true

/-- The turns of the batch, by ordinal, on the events and the retries the Run has at its start. -/
abbrev BatchTurn (H : ResultHashes) (unitRetryAttemptId : Uuid → ℕ → Uuid)
    (request : TaskAttemptBatchSettleInput) (run : TaskRun) (manifest : TaskRunManifest)
    (now clock : Instant) (db : Db) : ℕ → TaskAttemptWorkflowPayload → Db → Prop :=
  Turn H unitRetryAttemptId request run manifest.retryPolicy db.events now clock db.countRetryAttempts
    (request.outcomes.insertionSort fun a b => a.ordinal ≤ b.ordinal) db

theorem requireExactRoot_found {request : TaskRunWorkflowInput} {found : Option TaskRun}
    {manifestHash : Option Digest} {db db' : Db} {run : TaskRun}
    (h : Commits (requireExactRoot request found manifestHash) db run db') :
    found = some run ∧ db = db' := by
  simp only [requireExactRoot, commits_bind, commits_demand, commits_raiseIf, commits_pure] at h
  obtain ⟨_, _, ⟨rfl, rfl⟩, _, _, ⟨-, rfl⟩, rfl, rfl⟩ := h
  exact ⟨rfl, rfl⟩

theorem settleAttemptBatch_expires_iff {request : TaskAttemptBatchSettleInput} {now clock : Instant}
    {db : Db} :
    Raises (settleAttemptBatch H unitRetryAttemptId request now clock) db retryExpired ↔
      ∃ run manifest, Settling request run manifest db ∧ ∃ n outcome m,
        BatchTurn H unitRetryAttemptId request run manifest now clock db n outcome m ∧
          OutOfTime unitRetryAttemptId request run manifest.retryPolicy db.events now n outcome m := by
  rw [settleAttemptBatch, raises_raiseIf_bind (by decide), raises_raiseIf_bind (by decide),
    raises_read_bind, raises_read_bind]
  constructor
  · rintro ⟨hsize, hdistinct, h⟩
    rw [raises_bind] at h
    obtain h | ⟨run, m, hroot, h⟩ := h
    · simp [requireExactRoot] at h
    obtain ⟨hrun, rfl⟩ := requireExactRoot_found hroot
    by_cases hon : run.lifecycle ∈ [ExecutionLifecycle.pauseRequested, .paused] ∧ !request.cancelRequested
    · simp [hon] at h
    by_cases hwanted : run.lifecycle = .canceling ∧ !request.cancelRequested
    · simp [hwanted] at h
    rw [if_neg hon, if_neg hwanted, raises_raiseIf_bind (by decide), raises_demand_bind (by decide)] at h
    obtain ⟨hopen, manifest, hmanifest, h⟩ := h
    rw [raises_read_bind, raises_read_bind, raises_bind] at h
    rw [hrun, hmanifest] at hroot
    have hsettling : Settling request run manifest db :=
      ⟨hsize, not_not.1 hdistinct, hrun, hmanifest, hroot, hon, hwanted, by simpa using hopen⟩
    obtain h | ⟨_, _, -, h⟩ := h
    · exact ⟨run, manifest, hsettling, settleOutcomes_expires_iff.1 h⟩
    · exact absurd h raises_pure
  · rintro ⟨run, manifest, ⟨hsize, hdistinct, hrun, hmanifest, hroot, hon, hwanted, hopen⟩, hturn⟩
    refine ⟨hsize, not_not.2 hdistinct, ?_⟩
    rw [hrun, hmanifest]
    refine raises_bind.2 (Or.inr ⟨run, db, hroot, ?_⟩)
    rw [if_neg hon, if_neg hwanted, raises_raiseIf_bind (by decide), raises_demand_bind (by decide)]
    refine ⟨by simpa using hopen, manifest, rfl, ?_⟩
    rw [raises_read_bind, raises_read_bind, raises_bind]
    exact Or.inl (settleOutcomes_expires_iff.2 hturn)

/-- The batch does not fail for time, and an infrastructure error of a closed Attempt leads to a retry
or to a closed Unit. -/
structure SettlesInTime (H : ResultHashes) (unitRetryAttemptId : Uuid → ℕ → Uuid)
    (request : TaskAttemptBatchSettleInput) (now clock : Instant) (db : Db) : Prop where
  inTime : ¬ Raises (settleAttemptBatch H unitRetryAttemptId request now clock) db retryExpired
  settles : ∀ run manifest, Settling request run manifest db → ∀ n outcome m,
    BatchTurn H unitRetryAttemptId request run manifest now clock db n outcome m → ∀ unit attempt,
      Awaiting unitRetryAttemptId request db.events outcome unit attempt m → outcome.status = .infraError →
        ∀ settled m', Commits (settleOutcome H unitRetryAttemptId request run manifest.retryPolicy db.events
          now clock n outcome) m settled m' → ClosedOrRetried unit settled m'

/-- A batch settles in time, at its first call and at every replay, exactly when it comes to no turn in a
state that leaves the retry less than a second. -/
theorem batch_settles_in_time_iff (H : ResultHashes) (unitRetryAttemptId : Uuid → ℕ → Uuid)
    (request : TaskAttemptBatchSettleInput) (now clock : Instant) (db : Db) :
    SettlesInTime H unitRetryAttemptId request now clock db ↔
      ∀ run manifest, Settling request run manifest db → ∀ n outcome m,
        BatchTurn H unitRetryAttemptId request run manifest now clock db n outcome m →
          ¬ OutOfTime unitRetryAttemptId request run manifest.retryPolicy db.events now n outcome m := by
  constructor
  · intro h run manifest hsettling n outcome m hturn hout
    exact h.inTime (settleAttemptBatch_expires_iff.2 ⟨run, manifest, hsettling, n, outcome, m, hturn, hout⟩)
  · intro h
    refine ⟨fun hraises => ?_, ?_⟩
    · obtain ⟨run, manifest, hsettling, n, outcome, m, hturn, hout⟩ :=
        settleAttemptBatch_expires_iff.1 hraises
      exact h run manifest hsettling n outcome m hturn hout
    · intro run manifest _ n outcome m _ unit attempt hawaiting _ settled m' hc
      exact settleOutcome_settles hawaiting hc

/-! Two settlements of one infrastructure error: one half a second too short for the retry it schedules,
and one that is replayed after the deadline. -/

namespace ShortDeadline

def retryId (_ : Uuid) (attemptNumber : ℕ) : Uuid := 60 + attemptNumber

def policy : TaskRetryPolicy := ⟨⟨1, 8, 1, 1, 0⟩, by decide⟩

def unit : ExecutionUnit :=
  { tenantId := 1, projectId := 2, taskRunId := 3, manifestHash := 0, executionUnitId := 41, ordinal := 1
    unitKey := 0, caseVersionId := 5, executionProfileVersionId := 6, identityProfileVersionId := 7
    browserProfileVersionId := 8, dataProfileVersionId := 9, fixtureBlueprintVersionId := 10
    environmentId := 11, parameterDigest := 0, dependencyDigest := 0, lifecycle := .running, quality := .pending
    hygiene := .notRequired, startedAt := some 1, finalizedAt := none, cleanupResolvedAt := none
    closedAt := none, revision := 2, updatedAt := 1, createdAt := 0 }

def attempt (executionDeadline : Instant) : UnitAttempt :=
  { unit.toUnitScope with
    id := 12, caseVersionId := 5, attemptNumber := 1, lifecycle := .closed, quality := .infraError
    hygiene := .notRequired, startedAt := some 1, finalizedAt := some 2, cleanupResolvedAt := none
    closedAt := some 2, revision := 4, updatedAt := 2, temporalNamespace := some "atlas"
    temporalWorkflowId := some (unitAttemptWorkflowId 1 12), queuedAt := 0
    executionDeadline := executionDeadline, createdAt := 0 }

def finalized : TaskExecutionEvent where
  id := 50
  tenantId := 1
  projectId := 2
  taskRunId := 3
  executionUnitId := some 41
  unitAttemptId := some 12
  seq := 1
  eventType := .attemptFinalized
  lifecycle := .finalizing
  quality := .infraError
  hygiene := .notRequired
  payload := .attemptResult ⟨.infraError, some "WORKER_LOST", none, none, none⟩
  occurredAt := 2

def start (executionDeadline : Instant) : Db where
  run :=
    { unit.toRunScope, unit.toExecutionState with
      requestDigest := some 0
      materializationState := .sealed
      materializedUnitCount := some 1
      materializedFirstAttemptCount := some 1
      temporalNamespace := some "atlas"
      temporalWorkflowId := some (taskRunWorkflowId 1 3)
      queuedAt := 0
      createdAt := 0 }
  manifest :=
    { unit.toRunScope with
      units := [{ unit.toUnitPins with unitKey := 0 }], policyDigests := [], retryPolicy := some policy }
  units := [unit]
  attempts := [attempt executionDeadline]
  events := [finalized]
  commands := []
  tickets := []
  seals := []
  refs := []
  closures := []
  incidents := []
  resolutions := []
  hygieneResolutions := []
  snapshots := []
  reevaluationCommands := []
  idempotency := []
  clusters := []
  classifications := []
  nextId := 100

def request : TaskAttemptBatchSettleInput where
  request := ⟨1, 2, 3, 0, 0, 0, false⟩
  outcomes := [⟨41, 12, 1, .infraError, some "WORKER_LOST", none, none, none⟩]
  cancelRequested := false

/-- The settlement ten seconds into the Run, and its replay fifteen seconds later. -/
def settle (now : Instant) : Op TaskAttemptBatchSettlePayload :=
  settleAttemptBatch LateCleanup.hashes retryId request now now

end ShortDeadline

open ShortDeadline in
theorem short_deadline_expires :
    ¬ SettlesInTime LateCleanup.hashes retryId request (seconds 10) (seconds 10) (start (seconds 11 + 500000)) ∧
      (after (settle (seconds 10)) (start (seconds 20))).attempts.length = 2 ∧
      ¬ SettlesInTime LateCleanup.hashes retryId request (seconds 25) (seconds 25)
        (after (settle (seconds 10)) (start (seconds 20))) := by
  have hfirst : Raises (settle (seconds 10)) (start (seconds 11 + 500000)) retryExpired := by
    decide
  have hcreated : (after (settle (seconds 10)) (start (seconds 20))).attempts.length = 2 := by
    decide
  have hreplay : Raises (settle (seconds 25)) (after (settle (seconds 10)) (start (seconds 20)))
      retryExpired := by
    decide
  exact ⟨fun h => h.inTime hfirst, hcreated, fun h => h.inTime hreplay⟩

end Atlas.Proofs
