import AtlasTestOps.Proofs.RunMoves

/-! The operations on a TaskRun, one by one: each moves the rows along `Moves`. -/

namespace Atlas.Proofs

open Atlas Atlas.Task Atlas.Result Atlas.Store Atlas.Orchestration Atlas.Service Txn
open Relation (ReflTransGen)

variable {H : ResultHashes} {P : HygieneProjection} {unitRetryAttemptId : Uuid → ℕ → Uuid}
  {commandEvent : TaskRunCommandIntent → EventType × EventPayload}
  {db db' : Db} {run : TaskRun} {unit : ExecutionUnit} {attempt : UnitAttempt}
  {now clock createdAt : Instant}

/-! ### What only reads -/

abbrev Reads {α : Type} (t : Op α) : Prop := Within (· = ·) t

theorem Reads.same {α : Type} {t : Op α} {a : α} (h : Reads t) (hc : Commits t db a db') : db' = db :=
  (h _ _ _ hc).symm

theorem Reads.within {α : Type} {R : Db → Db → Prop} [Std.Refl R] {t : Op α} (h : Reads t) :
    Within R t := by
  intro db a db' hc
  obtain rfl := h.same hc
  exact Std.Refl.refl _

theorem reads_requireExactRoot {request : TaskRunWorkflowInput} {found : Option TaskRun}
    {manifestHash : Option Digest} : Reads (requireExactRoot request found manifestHash) :=
  .bind (.demand _ _) fun _ => .bind (.raiseIf _ _) fun _ => .pure _

theorem reads_requireExactAttemptRequest {request : UnitAttemptWorkflowInput} :
    Reads (requireExactAttemptRequest unitRetryAttemptId request run unit attempt) :=
  .bind reads_requireExactRoot fun _ => .bind (.raiseIf _ _) fun _ => .raiseIf _ _

theorem reads_storedAttemptResultEvent {events : List TaskExecutionEvent} :
    Reads (storedAttemptResultEvent events unit attempt) := by
  unfold storedAttemptResultEvent
  split
  · split
    · exact .bind (.raiseIf _ _) fun _ => .pure _
    · exact .raise _
  · exact .raise _

theorem reads_requireExactAttemptResultEvent {events : List TaskExecutionEvent}
    {quality : ExecutionQuality} {status : AttemptStatus} {errorCode : Option String}
    {retryAfterSeconds : Option ℕ} :
    Reads (requireExactAttemptResultEvent events unit attempt quality status errorCode
      retryAfterSeconds) :=
  .bind reads_storedAttemptResultEvent fun _ => .raiseIf _ _

theorem reads_requireExactSealedAttempt {fact : AttemptSeal} {ref : ResultRef}
    {suppliedResultRefId : Option Uuid} {suppliedContentHash : Option Digest} {required : Bool} :
    Reads (requireExactSealedAttempt attempt fact ref suppliedResultRefId suppliedContentHash
      required) :=
  .bind (.raiseIf _ _) fun _ => .raiseIf _ _

theorem reads_loadExactSealedOutcome {status : AttemptStatus} {errorCode : Option String}
    {retryAfterSeconds : Option ℕ} {resultRefId : Option Uuid} {sealContentHash : Option Digest} :
    Reads (loadExactSealedOutcome attempt status errorCode retryAfterSeconds resultRefId
      sealContentHash) := by
  refine .bind (.read _) fun found => ?_
  cases found with
  | none => exact .bind (.raiseIf _ _) fun _ => .pure _
  | some fact =>
    exact .bind (.read _) fun _ => .bind (.demand _ _) fun _ =>
      .bind reads_requireExactSealedAttempt fun _ => .bind (.raiseIf _ _) fun _ => .pure _

theorem reads_attemptResultPayload {status : AttemptStatus} {errorCode : Option String}
    {retryAfterSeconds : Option ℕ} {resultRefId : Option Uuid} {sealContentHash : Option Digest} :
    Reads (attemptResultPayload status errorCode retryAfterSeconds resultRefId sealContentHash) :=
  .bind (.raiseIf _ _) fun _ => .bind (.raiseIf _ _) fun _ => .bind (.raiseIf _ _) fun _ =>
    .bind (.raiseIf _ _) fun _ => .pure _

theorem reads_executionOutcome {execution : TaskAttemptExecutionPayload} :
    Reads (executionOutcome execution) := by
  unfold executionOutcome
  refine .ite (.bind (.raiseIf _ _) fun _ => .pure _)
    (.bind (.raiseIf _ _) fun _ => .bind (.raiseIf _ _) fun _ => ?_)
  cases execution.status with
  | resultFinalized => exact .raise _
  | executedUnsealed | failed | infraError | inconclusive | canceled => exact .pure _

theorem reads_retryDispatchPayload {tenantId : Uuid} :
    Reads (retryDispatchPayload tenantId unit attempt now) :=
  .bind (.raiseIf _ _) fun _ => .bind (.raiseIf _ _) fun _ => .pure _

theorem reads_requireExactExecutionTicket {request : UnitAttemptWorkflowInput}
    {ticket : TaskUnitExecutionTicket} :
    Reads (requireExactExecutionTicket request run unit attempt ticket) := .raiseIf _ _

theorem reads_pauseAuthorized {request : UnitAttemptWorkflowInput} :
    Reads (pauseAuthorized request run unit attempt) := by
  refine .ite (.pure _) (.bind (.read _) fun ticket => ?_)
  cases ticket with
  | none => exact .pure _
  | some ticket => exact .bind reads_requireExactExecutionTicket fun _ => .pure _

theorem reads_beginClosed : Reads (beginClosed unit attempt) := by
  unfold beginClosed
  refine .ite (.bind (.read _) fun _ => .bind reads_storedAttemptResultEvent fun _ =>
    .bind (.raiseIf _ _) fun _ => .pure _) (.pure _)

theorem lockAttemptChain_commits {taskRunId unitId attemptId : Uuid}
    {chain : TaskRun × ExecutionUnit × UnitAttempt}
    (h : Commits (lockAttemptChain taskRunId unitId attemptId) db chain db') :
    db.getAttempt chain.2.2.id = some chain.2.2 ∧ db' = db := by
  simp only [lockAttemptChain, commits_bind, commits_read, commits_demand, commits_pure] at h
  obtain ⟨_, _, ⟨rfl, rfl⟩, _, _, ⟨rfl, rfl⟩, _, _, ⟨rfl, rfl⟩, _, _, ⟨-, rfl⟩, _, _, ⟨-, rfl⟩, a, _,
    ⟨hattempt, rfl⟩, rfl, rfl⟩ := h
  refine ⟨?_, rfl⟩
  rw [show a.id = attemptId from getAttempt_id hattempt]
  exact hattempt

/-! ### Starting and finishing an Attempt -/

theorem startChain_moves {retry : Bool} :
    Within (Moves unitRetryAttemptId) (startChain run unit attempt retry now clock) := by
  have hattempt : ∀ run unit, Within (Moves unitRetryAttemptId) (do
      let _ ← transitionAttempt run unit attempt (startedNow attempt.toExecutionState now)
        .attemptStarted .empty clock
      pure ⟨TaskAttemptBeginStatus.ready, none⟩ : Op TaskAttemptBeginPayload) := fun run unit =>
    .bind (transitionAttempt_moves (by simp [startedNow])) fun _ => .pure _
  have hunit : ∀ run, Within (Moves unitRetryAttemptId) (if retry = true then do
        let unit ← pure unit
        let _ ← transitionAttempt run unit attempt (startedNow attempt.toExecutionState now)
          .attemptStarted .empty clock
        pure ⟨TaskAttemptBeginStatus.ready, none⟩
      else do
        let unit ← transitionUnit run unit (startedNow unit.toExecutionState now) .unitStarted .empty clock
        let _ ← transitionAttempt run unit attempt (startedNow attempt.toExecutionState now)
          .attemptStarted .empty clock
        pure ⟨TaskAttemptBeginStatus.ready, none⟩ : Op TaskAttemptBeginPayload) := fun run =>
    .ite (.bind (.pure _) fun _ => hattempt run _) (.bind transitionUnit_moves fun _ => hattempt run _)
  exact .ite (.bind transitionRun_moves fun _ => hunit _) (.bind (.pure _) fun _ => hunit _)

theorem startAttempt_moves {request : UnitAttemptWorkflowInput} {admission : Admission} :
    Within (Moves unitRetryAttemptId) (startAttempt unitRetryAttemptId request admission now clock) := by
  unfold startAttempt
  refine .bind (fun _ _ _ h => ?_) fun chain => .bind reads_requireExactAttemptRequest.within fun _ =>
    .ite reads_beginClosed.within <| .ite (.pure _) <| .ite (.pure _) <|
    .bind reads_pauseAuthorized.within fun authorized => .ite (.pure _) <| .bind (.read _) fun retry => ?_
  · obtain ⟨-, rfl⟩ := lockAttemptChain_commits h
    exact Std.Refl.refl _
  · cases retry with
    | error code => exact .pure _
    | ok retry =>
      refine .ite (.pure _) <| .ite (.pure _) <| .ite startChain_moves ?_
      cases admission with
      | admitted => exact startChain_moves
      | unsatisfied => exact .pure _
      | raised fault => exact .raise _

/-- A transition answers the row as it is afterwards. -/
theorem transitionAttempt_row {progress : Progress} {eventType : EventType} {payload : EventPayload}
    {b : UnitAttempt} (hget : db.getAttempt attempt.id = some attempt)
    (h : Commits (transitionAttempt run unit attempt progress eventType payload clock) db b db') :
    db'.getAttempt b.id = some b ∧ b.lifecycle = progress.lifecycle ∧
      b.executionUnitId = attempt.executionUnitId ∧ b.id = attempt.id := by
  rw [transitionAttempt, commits_ite] at h
  rcases h with ⟨hsame, h⟩ | ⟨-, h⟩
  · obtain ⟨rfl, rfl⟩ := commits_pure.1 h
    exact ⟨hget, hsame.1, rfl, rfl⟩
  · simp only [commits_bind, commits_pure] at h
    obtain ⟨_, m, hstate, _, m', hevent, rfl, rfl⟩ := h
    obtain ⟨a, next, hfound, -, -, haxes, rfl, rfl⟩ := transitionUnitAttemptState_commits hstate
    obtain rfl := Option.some.inj (hget.symm.trans hfound)
    obtain ⟨_, _, rfl⟩ := (recordEvent_commits hevent).rows
    refine ⟨?_, congrArg (fun x => x.lifecycle) haxes, rfl, rfl⟩
    refine (getAttempt_setAttempt db).trans ?_
    simp [hget]

theorem resolveUnitResult_moves :
    Within (Moves unitRetryAttemptId) (resolveUnitResult H P unit createdAt) :=
  .rethrow (.bind resolveUnit_moves fun _ => projectUnit_moves)

theorem finishSealed_moves {request : TaskAttemptFinishInput} {fact : AttemptSeal} :
    Within (Moves unitRetryAttemptId) (finishSealed H P request unit attempt fact now) :=
  .bind (.read _) fun _ => .bind (.demand _ _) fun _ => .bind reads_requireExactSealedAttempt.within
    fun _ => .bind resolveUnitResult_moves fun _ => .pure _

/-- An open Attempt on its way to close stays open, and is answered as it is stored. -/
theorem finalizeAttempt_commits {quality : ExecutionQuality} {status : AttemptStatus} {code : String}
    {retryAfterSeconds : Option ℕ} {b : UnitAttempt} (hget : db.getAttempt attempt.id = some attempt)
    (h : Commits (finalizeAttempt run unit attempt quality status code retryAfterSeconds now clock)
      db b db') :
    Moves unitRetryAttemptId db db' ∧ db'.getAttempt b.id = some b ∧ b.lifecycle = .finalizing := by
  have hfinalize : ∀ at', Commits (do
      let payload ← attemptResultPayload status (some code) retryAfterSeconds none none
      transitionAttempt run unit attempt (finalizedNow attempt.toExecutionState quality at')
        .attemptFinalized payload clock : Op UnitAttempt) db b db' →
      Moves unitRetryAttemptId db db' ∧ db'.getAttempt b.id = some b ∧ b.lifecycle = .finalizing := by
    intro at' hc
    obtain ⟨payload, m, hpayload, htransition⟩ := commits_bind.1 hc
    obtain rfl := reads_attemptResultPayload.same hpayload
    obtain ⟨hrow, hlifecycle, -⟩ := transitionAttempt_row hget htransition
    exact ⟨transitionAttempt_moves (by simp [finalizedNow]) _ _ _ htransition, hrow, hlifecycle⟩
  unfold finalizeAttempt at h
  dsimp only at h
  split at h
  · rename_i hfinalizing
    rw [commits_raiseIf_bind, commits_read_bind] at h
    obtain ⟨-, h⟩ := h
    split at h
    · simp only [commits_bind, commits_pure] at h
      obtain ⟨_, m, hexact, rfl, rfl⟩ := h
      obtain rfl := reads_requireExactAttemptResultEvent.same hexact
      exact ⟨Std.Refl.refl _, hget, hfinalizing⟩
    · exact hfinalize _ h
  · exact hfinalize _ h

theorem finishAttempt_moves {request : TaskAttemptFinishInput} :
    Within (Moves unitRetryAttemptId) (finishAttempt H P unitRetryAttemptId request now clock) := by
  intro db payload db' h
  simp only [finishAttempt, commits_bind] at h
  obtain ⟨⟨run, unit, attempt⟩, _, hlock, h⟩ := h
  obtain ⟨hget, rfl⟩ := lockAttemptChain_commits hlock
  simp only [commits_read] at h
  obtain ⟨_, _, hrequest, accepted, _, ⟨rfl, rfl⟩, h⟩ := h
  obtain rfl := reads_requireExactAttemptRequest.same hrequest
  split at h
  · exact finishSealed_moves _ _ _ h
  · obtain ⟨⟨quality, status, code⟩, _, houtcome, hfinish⟩ := commits_bind.1 h
    clear h
    obtain rfl := reads_executionOutcome.same houtcome
    split at hfinish
    · simp only [commits_bind, commits_raiseIf, commits_read, commits_pure] at hfinish
      obtain ⟨_, _, ⟨-, rfl⟩, _, _, ⟨rfl, rfl⟩, _, _, hexact, _, _, hclose, -, rfl⟩ := hfinish
      obtain rfl := reads_requireExactAttemptResultEvent.same hexact
      exact closedAgain_moves hget hclose
    · simp only [commits_bind, commits_pure] at hfinish
      obtain ⟨b, m, hfinalize, closed, m', htransition, _, _, hclose, -, rfl⟩ := hfinish
      obtain ⟨hmoves, hrow, hfinalizing⟩ := finalizeAttempt_commits hget hfinalize
      have hopen : b.lifecycle ≠ .closed := by simp [hfinalizing]
      exact IsTrans.trans _ _ _ hmoves
        (closeAttempt_moves hopen rfl ⟨b, hrow, hopen⟩ htransition hclose)

/-! ### Reconciling a child -/

theorem reconcileOpenAttempt_moves {r : ChildResult} {payload : EventPayload}
    {events : List TaskExecutionEvent} {u : Unit} (hget : db.getAttempt attempt.id = some attempt)
    (hopen : attempt.lifecycle ≠ .closed)
    (h : Commits (reconcileOpenAttempt H run unit attempt r payload events now clock) db u db') :
    Moves unitRetryAttemptId db db' := by
  unfold reconcileOpenAttempt at h
  dsimp only at h
  split at h
  · simp only [commits_bind, commits_pure] at h
    obtain ⟨_, _, hexact, b, _, ⟨rfl, rfl⟩, closed, m', htransition, hclose⟩ := h
    obtain rfl := reads_requireExactAttemptResultEvent.same hexact
    exact closeAttempt_moves hopen rfl ⟨_, hget, hopen⟩ htransition hclose
  · simp only [commits_bind] at h
    obtain ⟨b, m, hfinalize, closed, m', htransition, hclose⟩ := h
    obtain ⟨hrow, hlifecycle, -⟩ := transitionAttempt_row hget hfinalize
    have hopen' : b.lifecycle ≠ .closed := by simp [hlifecycle, finalizedNow]
    exact IsTrans.trans _ _ _ (transitionAttempt_moves (by simp [finalizedNow]) _ _ _ hfinalize)
      (closeAttempt_moves hopen' rfl ⟨b, hrow, hopen'⟩ htransition hclose)

theorem within_closeUnit {R : Db → Db → Prop} [Std.Refl R] [IsTrans Db R] {quality : ExecutionQuality}
    {payload : EventPayload} {finalizedAt : Instant} {missing : Option Instant}
    (hunit : ∀ unit progress eventType payload,
      Within R (transitionUnit run unit progress eventType payload clock)) :
    Within R (closeUnit run unit quality payload finalizedAt missing now clock) := by
  unfold closeUnit
  refine .bind (.raiseIf _ _) fun _ => ?_
  dsimp only
  exact .ite (.bind (.pure _) fun _ => .bind (hunit _ _ _ _) fun _ => .pure _)
    (.bind (hunit _ _ _ _) fun _ => .bind (hunit _ _ _ _) fun _ => .pure _)

theorem closeUnit_moves {quality : ExecutionQuality} {payload : EventPayload} {finalizedAt : Instant}
    {missing : Option Instant} :
    Within (Moves unitRetryAttemptId)
      (closeUnit run unit quality payload finalizedAt missing now clock) :=
  within_closeUnit fun _ _ _ _ => transitionUnit_moves

theorem reads_sealedOutcome {r : ChildResult} : Reads (sealedOutcome attempt r) :=
  .ite reads_loadExactSealedOutcome (.pure _)

/-- A reconciled chain: a closed Attempt without a Seal has its notice checked, and an open Unit
is closed over a closed Attempt, or over an open one that is closed first. -/
theorem reconcileAttemptChain_commits {r : ChildResult} {events : List TaskExecutionEvent} {u : Unit}
    (h : Commits (reconcileAttemptChain H run unit attempt r events now clock) db u db') :
    ∃ m, (m = db ∨ attempt.lifecycle = .closed ∧ ∃ reason,
        Commits (closeAttemptResultWithoutSeal H unit attempt r.status reason now) db () m) ∧
      (unit.lifecycle = .closed ∧ attempt.lifecycle = .closed ∧ db' = m ∨
        unit.lifecycle ≠ .closed ∧ ∃ payload m',
          Commits (closeUnit run unit r.quality payload (unit.finalizedAt.getD now) none now clock)
            m' u db' ∧
          (attempt.lifecycle = .closed ∧ m' = m ∨ attempt.lifecycle ≠ .closed ∧
            Commits (reconcileOpenAttempt H run unit attempt r payload events now clock) db () m')) := by
  -- What follows the check of a closed Attempt.
  have hrest : ∀ m, (attempt.lifecycle ≠ .closed → m = db) →
      Commits (if unit.lifecycle = .closed then
        raiseIf (attempt.lifecycle ≠ .closed ∨ unit.quality ≠ r.quality ∨ attempt.quality ≠ r.quality)
          (.worker "TASK_ATTEMPT_RESULT_CONFLICT")
      else do
        raiseIf ((unit.quality ≠ .pending ∧ unit.quality ≠ r.quality) ∨
            (attempt.quality ≠ .pending ∧ attempt.quality ≠ r.quality))
          (.worker "TASK_ATTEMPT_RESULT_CONFLICT")
        raiseIf (!reconcilable unit.lifecycle ∨
            (!reconcilable attempt.lifecycle ∧ attempt.lifecycle ≠ .closed))
          (.worker "TASK_ATTEMPT_RESULT_CONFLICT")
        let payload ← attemptResultPayload r.status r.errorCode r.retryAfterSeconds r.resultRefId
          r.sealContentHash
        if attempt.lifecycle ≠ .closed then
          reconcileOpenAttempt H run unit attempt r payload events now clock
        else raiseIf (attempt.quality ≠ r.quality) (.worker "TASK_ATTEMPT_RESULT_CONFLICT")
        closeUnit run unit r.quality payload (unit.finalizedAt.getD now) none now clock :
          Op Unit) m u db' →
      unit.lifecycle = .closed ∧ attempt.lifecycle = .closed ∧ db' = m ∨
        unit.lifecycle ≠ .closed ∧ ∃ payload m',
          Commits (closeUnit run unit r.quality payload (unit.finalizedAt.getD now) none now clock)
            m' u db' ∧
          (attempt.lifecycle = .closed ∧ m' = m ∨ attempt.lifecycle ≠ .closed ∧
            Commits (reconcileOpenAttempt H run unit attempt r payload events now clock) db () m') := by
    intro m hsame hc
    split at hc
    · rename_i hclosed
      obtain ⟨hagree, rfl⟩ := commits_raiseIf.1 hc
      exact .inl ⟨hclosed, not_not.1 fun hopen => hagree (.inl hopen), rfl⟩
    · rename_i hunit
      rw [commits_raiseIf_bind, commits_raiseIf_bind] at hc
      obtain ⟨-, -, hc⟩ := hc
      obtain ⟨payload, _, hpayload, hchain⟩ := commits_bind.1 hc
      clear hc
      obtain rfl := reads_attemptResultPayload.same hpayload
      dsimp only at hchain
      split at hchain
      · rename_i hopen
        obtain rfl := hsame hopen
        obtain ⟨_, m', hreconcile, hclose⟩ := commits_bind.1 hchain
        exact .inr ⟨hunit, payload, m', hclose, .inr ⟨hopen, hreconcile⟩⟩
      · rename_i hclosed
        rw [commits_raiseIf_bind] at hchain
        exact .inr ⟨hunit, payload, _, hchain.2, .inl ⟨not_not.1 hclosed, rfl⟩⟩
  obtain ⟨fact, _, hfact, hchain⟩ := commits_bind.1 h
  clear h
  obtain rfl := reads_sealedOutcome.same hfact
  rw [commits_raiseIf_bind] at hchain
  obtain ⟨-, hchain⟩ := hchain
  dsimp only at hchain
  split at hchain
  · rename_i hunsealed
    obtain ⟨_, m, hchecked, h⟩ := commits_bind.1 hchain
    obtain ⟨_, m', hexact, hclose⟩ := commits_bind.1 hchecked
    obtain rfl := reads_requireExactAttemptResultEvent.same hexact
    exact ⟨m, .inr ⟨hunsealed.1, _, hclose⟩, hrest m (fun hopen => absurd hunsealed.1 hopen) h⟩
  · exact ⟨_, .inl rfl, hrest _ (fun _ => rfl) hchain⟩

theorem reconcileAttemptChain_moves {r : ChildResult} {events : List TaskExecutionEvent} {u : Unit}
    (hget : db.getAttempt attempt.id = some attempt)
    (h : Commits (reconcileAttemptChain H run unit attempt r events now clock) db u db') :
    Moves unitRetryAttemptId db db' := by
  obtain ⟨m, hchecked, hrest⟩ := reconcileAttemptChain_commits h
  have hm : Moves unitRetryAttemptId db m := by
    rcases hchecked with rfl | ⟨-, _, hnotice⟩
    · exact Std.Refl.refl _
    · exact closedAgain_moves hget hnotice
  rcases hrest with ⟨-, -, rfl⟩ | ⟨-, payload, m', hclose, ⟨-, rfl⟩ | ⟨hopen, hreconcile⟩⟩
  · exact hm
  · exact IsTrans.trans _ _ _ hm (closeUnit_moves _ _ _ hclose)
  · exact IsTrans.trans _ _ _ (reconcileOpenAttempt_moves hget hopen hreconcile)
      (closeUnit_moves _ _ _ hclose)

/-- What the transitions and the notice keep, a reconciliation keeps. -/
theorem within_reconcileAttemptChain {R : Db → Db → Prop} [Std.Refl R] [IsTrans Db R] {r : ChildResult}
    {events : List TaskExecutionEvent}
    (hunit : ∀ unit progress eventType payload,
      Within R (transitionUnit run unit progress eventType payload clock))
    (hattempt : ∀ attempt progress eventType payload,
      Within R (transitionAttempt run unit attempt progress eventType payload clock))
    (hnotice : ∀ attempt status reason,
      Within R (closeAttemptResultWithoutSeal H unit attempt status reason now)) :
    Within R (reconcileAttemptChain H run unit attempt r events now clock) := by
  have hopen : ∀ payload, Within R
      (reconcileOpenAttempt H run unit attempt r payload events now clock) := fun payload =>
    .ite (.bind reads_requireExactAttemptResultEvent.within fun _ => .bind (.pure _) fun _ =>
        .bind (hattempt _ _ _ _) fun _ => hnotice _ _ _)
      (.bind (hattempt _ _ _ _) fun _ => .bind (hattempt _ _ _ _) fun _ => hnotice _ _ _)
  intro db u db' h
  obtain ⟨m, hchecked, hrest⟩ := reconcileAttemptChain_commits h
  have hm : R db m := by
    rcases hchecked with rfl | ⟨-, _, hclosed⟩
    · exact Std.Refl.refl _
    · exact hnotice _ _ _ _ _ _ hclosed
  rcases hrest with ⟨-, -, rfl⟩ | ⟨-, payload, m', hclose, ⟨-, rfl⟩ | ⟨-, hreconcile⟩⟩
  · exact hm
  · exact IsTrans.trans _ _ _ hm (within_closeUnit hunit _ _ _ hclose)
  · exact IsTrans.trans _ _ _ (hopen _ _ _ _ hreconcile) (within_closeUnit hunit _ _ _ hclose)

/-! ### Settling a batch -/

/-- The Attempts keep their numbers, so the Run has as many retries as before. -/
def SameNumbers (db db' : Db) : Prop :=
  (db'.attempts.map fun a => a.attemptNumber) = db.attempts.map fun a => a.attemptNumber

instance : Std.Refl SameNumbers := ⟨fun _ => rfl⟩

instance : IsTrans Db SameNumbers := ⟨fun _ _ _ h h' => Eq.trans h' h⟩

theorem countRetryAttempts_eq (db : Db) :
    db.countRetryAttempts = (db.attempts.map fun a => a.attemptNumber).countP fun n => 1 < n := by
  rw [List.countP_map]
  rfl

theorem SameNumbers.count (h : SameNumbers db db') :
    db'.countRetryAttempts = db.countRetryAttempts := by
  rw [countRetryAttempts_eq, countRetryAttempts_eq, show _ = _ from h]

theorem sameNumbers_recordEvent {projection : ExecutionState} {eventType : EventType}
    {unitId attemptId : Option Uuid} {payload : EventPayload} :
    Within SameNumbers (recordEvent run projection eventType unitId attemptId payload) := by
  intro db u db' h
  obtain ⟨_, _, rfl⟩ := (recordEvent_commits h).rows
  exact rfl

theorem sameNumbers_transitionUnit {progress : Progress} {eventType : EventType}
    {payload : EventPayload} :
    Within SameNumbers (transitionUnit run unit progress eventType payload clock) := by
  refine .ite (.pure _) (.bind (fun _ _ _ h => ?_) fun _ => .bind sameNumbers_recordEvent fun _ =>
    .pure _)
  obtain ⟨_, _, -, -, -, -, rfl⟩ := transitionExecutionUnitState_commits h
  exact rfl

theorem sameNumbers_transitionAttempt {progress : Progress} {eventType : EventType}
    {payload : EventPayload} :
    Within SameNumbers (transitionAttempt run unit attempt progress eventType payload clock) := by
  refine .ite (.pure _) (.bind (fun _ _ _ h => ?_) fun _ => .bind sameNumbers_recordEvent fun _ =>
    .pure _)
  obtain ⟨_, _, -, -, -, -, -, rfl⟩ := transitionUnitAttemptState_commits h
  exact Table.map_modify fun _ => rfl

theorem sameNumbers_closeAttemptResultWithoutSeal {status : AttemptStatus} {reason : String} :
    Within SameNumbers (closeAttemptResultWithoutSeal H unit attempt status reason createdAt) := by
  intro db u db' h
  obtain ⟨-, -, -, -, hattempts⟩ :=
    closeAttemptResultWithoutSeal_commits (fun _ _ => 0) h
  rw [SameNumbers, hattempts]

theorem sameNumbers_closeUnit {quality : ExecutionQuality} {payload : EventPayload}
    {finalizedAt : Instant} {missing : Option Instant} :
    Within SameNumbers (closeUnit run unit quality payload finalizedAt missing now clock) :=
  within_closeUnit fun _ _ _ _ => sameNumbers_transitionUnit

theorem sameNumbers_reconcileAttemptChain {r : ChildResult} {events : List TaskExecutionEvent} :
    Within SameNumbers (reconcileAttemptChain H run unit attempt r events now clock) :=
  within_reconcileAttemptChain (fun _ _ _ _ => sameNumbers_transitionUnit)
    (fun _ _ _ _ => sameNumbers_transitionAttempt) fun _ _ _ => sameNumbers_closeAttemptResultWithoutSeal

theorem closeUnitAfterAttempt_commits {outcome : TaskAttemptWorkflowPayload} {settled : Settled}
    (h : Commits (closeUnitAfterAttempt run unit outcome now clock) db settled db') :
    settled = .final ∧ Moves unitRetryAttemptId db db' ∧ SameNumbers db db' := by
  simp only [closeUnitAfterAttempt, commits_bind, commits_pure] at h
  obtain ⟨payload, _, hpayload, _, _, hclose, rfl, rfl⟩ := h
  obtain rfl := reads_attemptResultPayload.same hpayload
  exact ⟨rfl, closeUnit_moves _ _ _ hclose, sameNumbers_closeUnit _ _ _ hclose⟩

/-- The retry that a settlement schedules is one that the Manifest allows. -/
theorem scheduleRetry_commits {tenantId : Uuid} {policy : TaskRetryPolicy}
    {errorCode : Option String} {notBefore : Instant} {payload : TaskUnitDispatchPayload}
    (hget : db.getAttempt attempt.id = some attempt) (hunit : attempt.executionUnitId = unit.id)
    (hclosed : attempt.lifecycle = .closed) (hquality : attempt.quality = .infraError)
    (hnone : db.getAttemptByNumber unit.id (attempt.attemptNumber + 1) = none)
    (hpolicy : db.manifest.retryPolicy = some policy)
    (hnumber : attempt.attemptNumber ≤ policy.infraRetryAttempts)
    (hbudget : db.countRetryAttempts < policy.maxTotalInfraRetries)
    (hbefore : notBefore < attempt.executionDeadline) (hfirst : 1 ≤ attempt.attemptNumber)
    (h : Commits (scheduleRetry unitRetryAttemptId tenantId run unit attempt errorCode notBefore now)
      db payload db') :
    Moves unitRetryAttemptId db db' ∧ db'.countRetryAttempts = db.countRetryAttempts + 1 := by
  obtain ⟨retry, m, hcreate, hrecord⟩ := commits_bind.1 h
  clear h
  obtain ⟨_, m', hevent, hdispatch⟩ := commits_bind.1 hrecord
  clear hrecord
  obtain rfl := reads_retryDispatchPayload.same hdispatch
  obtain ⟨hfresh, hlast, hruns, hscope, -, rfl⟩ :=
    createAttempt_commits (by simpa [retryAttempt, hunit] using hnone) hcreate
  have hretry : Retry unitRetryAttemptId db
      (retryAttempt unitRetryAttemptId tenantId unit attempt notBefore now) := by
    refine ⟨hfresh, hlast, ?_, ⟨rfl, rfl⟩, hbefore, hruns, ⟨attempt, List.mem_of_find?_eq_some hget,
      rfl, rfl, hclosed, hquality, rfl⟩, hscope, policy, hpolicy, ?_, hbudget⟩
    · simp [retryAttempt, hunit]
    · simpa [retryAttempt] using hnumber
  refine ⟨IsTrans.trans _ _ _ (retry_moves hretry) (recordEvent_moves _ _ _ hevent), ?_⟩
  rw [(sameNumbers_recordEvent _ _ _ hevent).count]
  simp [Db.countRetryAttempts, retryAttempt]
  omega

/-- One outcome: a retry that it creates is counted, and nothing else is one. -/
theorem settleOutcome_moves {request : TaskAttemptBatchSettleInput} {events : List TaskExecutionEvent}
    {outcome : TaskAttemptWorkflowPayload} {settled : Settled} {n : ℕ}
    (hcount : n = db.countRetryAttempts)
    (h : Commits (settleOutcome H unitRetryAttemptId request run db.manifest.retryPolicy events now
      clock n outcome) db settled db') :
    Moves unitRetryAttemptId db db' ∧ countAfter n settled = db'.countRetryAttempts := by
  rw [settleOutcome, commits_read_bind, commits_read_bind] at h
  simp only [commits_demand_bind, requireExactAttempt, commits_raiseIf_bind] at h
  obtain ⟨unit, hunit, attempt, hattempt, hexact, -, h⟩ := h
  obtain ⟨hscope, hfirst⟩ := exactAttempt_scope (by simpa using hexact)
  have hget : db.getAttempt attempt.id = some attempt := by
    rw [getAttempt_id hattempt]
    exact hattempt
  split at h
  · rw [commits_raiseIf_bind] at h
    obtain ⟨_, m, hreconcile, hpure⟩ := commits_bind.1 h.2
    obtain ⟨rfl, rfl⟩ := commits_pure.1 hpure
    refine ⟨reconcileAttemptChain_moves hget hreconcile, ?_⟩
    rw [(sameNumbers_reconcileAttemptChain _ _ _ hreconcile).count]
    exact hcount
  · rename_i hclosed
    obtain ⟨_, m, hresult, hsettle⟩ := commits_bind.1 h
    clear h
    have hquality : attempt.quality = outcomeQuality outcome.status := by
      rw [requireClosedResult, commits_raiseIf_bind] at hresult
      exact not_not.1 hresult.1
    have hsame : m = db := Reads.same (within_requireClosedResult _ _ _ _) hresult
    subst m
    split at hsettle
    · rw [commits_raiseIf_bind] at hsettle
      obtain ⟨rfl, rfl⟩ := commits_pure.1 hsettle.2
      exact ⟨Std.Refl.refl _, hcount⟩
    · rw [commits_read_bind] at hsettle
      split at hsettle
      · rw [commits_raiseIf_bind] at hsettle
        obtain ⟨_, m, hdispatch, hpure⟩ := commits_bind.1 hsettle.2
        obtain ⟨rfl, rfl⟩ := commits_pure.1 hpure
        obtain rfl := reads_retryDispatchPayload.same hdispatch
        exact ⟨Std.Refl.refl _, hcount⟩
      · rename_i hnone
        unfold retryOrClose at hsettle
        have hfinal : Commits (closeUnitAfterAttempt run unit outcome now clock) db settled db' →
            Moves unitRetryAttemptId db db' ∧ countAfter n settled = db'.countRetryAttempts := by
          intro hclose
          obtain ⟨rfl, hmoves, hsame⟩ := closeUnitAfterAttempt_commits hclose
          exact ⟨hmoves, hcount.trans hsame.count.symm⟩
        split at hsettle
        · exact hfinal hsettle
        · rename_i policy hpolicy
          dsimp only at hsettle
          split at hsettle
          · rename_i hallowed
            simp only [canRetryAttempt, Bool.and_eq_true, decide_eq_true_eq] at hallowed
            obtain ⟨⟨-, hinfra, hnumber, hbudget, -⟩, hbefore⟩ := hallowed
            simp only [commits_bind, commits_pure] at hsettle
            obtain ⟨payload, m, hschedule, rfl, rfl⟩ := hsettle
            obtain ⟨hmoves, hafter⟩ := scheduleRetry_commits hget hscope (not_not.1 hclosed)
              (by rw [hquality, hinfra]; rfl) hnone hpolicy hnumber (hcount ▸ hbudget) hbefore hfirst
              hschedule
            exact ⟨hmoves, by rw [countAfter, hafter, hcount]⟩
          · exact hfinal hsettle

theorem Write.manifest (h : Write unitRetryAttemptId db db') : db'.manifest = db.manifest := by
  cases h with
  | aside _ h => exact h.manifest
  | event | run | unit | attempt | retry | sealed | notice => rfl

theorem Moves.manifest (h : Moves unitRetryAttemptId db db') : db'.manifest = db.manifest := by
  have hwrites := h.writes
  clear h
  induction hwrites with
  | refl => rfl
  | tail _ hwrite ih => exact hwrite.manifest.trans ih

/-- The loop counts the retries of the Run as the database would. -/
theorem settleOutcomes_moves {request : TaskAttemptBatchSettleInput}
    {events : List TaskExecutionEvent} {outcomes : List TaskAttemptWorkflowPayload} {n : ℕ}
    {policy : Option TaskRetryPolicy}
    {settled : List TaskUnitDispatchPayload × List TaskAttemptWorkflowPayload}
    (hpolicy : policy = db.manifest.retryPolicy) (hcount : n = db.countRetryAttempts)
    (h : Commits (settleOutcomes H unitRetryAttemptId request run policy events now clock n outcomes)
      db settled db') : Moves unitRetryAttemptId db db' := by
  induction outcomes generalizing n db settled with
  | nil =>
    obtain ⟨-, rfl⟩ := commits_pure.1 h
    exact Std.Refl.refl _
  | cons outcome outcomes ih =>
    obtain ⟨s, m, hfirst, hrest⟩ := commits_bind.1 h
    subst hpolicy
    obtain ⟨hmoves, hafter⟩ := settleOutcome_moves hcount hfirst
    have hkept : db.manifest.retryPolicy = m.manifest.retryPolicy := by rw [hmoves.manifest]
    cases s with
    | final =>
      obtain ⟨rest, m', hrest, hpure⟩ := commits_bind.1 hrest
      obtain ⟨-, rfl⟩ := commits_pure.1 hpure
      exact IsTrans.trans _ _ _ hmoves (ih hkept hafter hrest)
    | retry payload created =>
      obtain ⟨rest, m', hrest, hpure⟩ := commits_bind.1 hrest
      obtain ⟨-, rfl⟩ := commits_pure.1 hpure
      refine IsTrans.trans _ _ _ hmoves (ih hkept ?_ hrest)
      cases created <;> simpa [countAfter] using hafter

theorem settleAttemptBatch_moves {request : TaskAttemptBatchSettleInput} :
    Within (Moves unitRetryAttemptId)
      (settleAttemptBatch H unitRetryAttemptId request now clock) := by
  intro db answer db' h
  rw [settleAttemptBatch, commits_raiseIf_bind, commits_raiseIf_bind, commits_read_bind,
    commits_read_bind] at h
  obtain ⟨run, m, hroot, hbatch⟩ := commits_bind.1 h.2.2
  clear h
  obtain ⟨-, rfl⟩ := requireExactRoot_found hroot
  split at hbatch
  · obtain ⟨-, rfl⟩ := commits_pure.1 hbatch
    exact Std.Refl.refl _
  split at hbatch
  · obtain ⟨-, rfl⟩ := commits_pure.1 hbatch
    exact Std.Refl.refl _
  rw [commits_raiseIf_bind, commits_demand_bind] at hbatch
  obtain ⟨-, manifest, hmanifest, hbatch⟩ := hbatch
  rw [commits_read_bind, commits_read_bind] at hbatch
  obtain ⟨settled, m, hloop, hpure⟩ := commits_bind.1 hbatch
  obtain ⟨-, rfl⟩ := commits_pure.1 hpure
  refine settleOutcomes_moves ?_ rfl hloop
  unfold Db.getManifest at hmanifest
  split at hmanifest
  · rw [Option.some.inj hmanifest]
  · cases hmanifest

end Atlas.Proofs
