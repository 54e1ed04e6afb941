import AtlasTestOps.Proofs.RunSteps

/-! One TaskRun under the API, the dispatcher and the worker: any of their calls, with any
arguments, at any time and in any order. -/

namespace Atlas.Proofs

open Atlas Atlas.Task Atlas.Result Atlas.Store Atlas.Orchestration Atlas.Service Txn
open Relation (ReflTransGen)
open Growth (Extends)

variable {H : ResultHashes} {P : HygieneProjection} {unitRetryAttemptId : Uuid → ℕ → Uuid}
  {commandEvent : TaskRunCommandIntent → EventType × EventPayload} {deliveries : CommandDelivery → Prop}
  {db db' : Db} {run : TaskRun} {unit : ExecutionUnit} {attempt : UnitAttempt}
  {now clock createdAt : Instant}

/-! ### Commands -/

theorem aside_commands {commands : List TaskRunCommandIntent}
    (h : Extends CommandLater db.commands commands) : Aside db { db with commands := commands } :=
  { Aside.refl db with commands := h }

theorem extends_map {f : TaskRunCommandIntent → TaskRunCommandIntent} (h : ∀ c, CommandLater c (f c))
    (commands : List TaskRunCommandIntent) : Extends CommandLater commands (commands.map f) :=
  .of_forall₂ (List.forall₂_map_right_iff.2 (List.forall₂_same.2 fun c _ => h c))

theorem applyCommand_moves {commandType : TaskRunCommandType} {intentId : Uuid}
    {commandDigest : Digest} :
    Within (Moves unitRetryAttemptId) (Service.applyCommand commandType intentId commandDigest) := by
  refine .bind (.read _) fun _ => .bind (.demand _ _) fun _ => .bind (.raiseIf _ _) fun _ =>
    .ite (.pure _) <| .bind (.raiseIf _ _) fun _ => .bind (.read _) fun _ => .bind (.raiseIf _ _)
    fun _ => .update fun db => (aside_commands (extends_map (fun c => ?_) _)).moves
  split <;> exact rfl

theorem requireControlCommand_commits {found : Option TaskRunCommandIntent}
    {commandType : TaskRunCommandType} {command : TaskRunCommandIntent}
    (h : Commits (requireControlCommand found commandType) db command db') :
    found = some command ∧ command.commandType = commandType ∧ db' = db := by
  simp only [requireControlCommand, commits_bind, commits_demand, commits_raiseIf, commits_pure,
    not_not] at h
  obtain ⟨_, _, ⟨rfl, rfl⟩, _, _, ⟨htype, rfl⟩, rfl, rfl⟩ := h
  exact ⟨rfl, htype, rfl⟩

theorem reads_requireControlCommand {found : Option TaskRunCommandIntent}
    {commandType : TaskRunCommandType} : Reads (requireControlCommand found commandType) :=
  fun _ _ _ h => (requireControlCommand_commits h).2.2.symm

theorem settleControl_moves {command : TaskRunCommandIntent} {lifecycle : ExecutionLifecycle}
    {eventType : EventType} :
    Within (Moves unitRetryAttemptId) (settleControl run command lifecycle eventType clock) :=
  .bind transitionRun_moves fun _ => .bind applyCommand_moves fun _ => .pure _

theorem settleControlBeforeFinish_moves :
    Within (Moves unitRetryAttemptId) (settleControlBeforeFinish run clock) := by
  refine .ite (.pure _) (.ite (.bind (.read _) fun _ => .bind reads_requireControlCommand.within fun _ =>
    .bind settleControl_moves fun _ => .bind (.read _) fun found => ?_)
    (.bind (.pure _) fun _ => .bind (.read _) fun found => ?_))
  all_goals
    cases found with
    | none => exact .pure _
    | some command => exact .bind reads_requireControlCommand.within fun _ => settleControl_moves

theorem checkpointControl_moves {request : TaskRunWorkflowInput} :
    Within (Moves unitRetryAttemptId) (checkpointControl request clock) := by
  refine .bind (.read _) fun _ => .bind (.read _) fun _ => .bind reads_requireExactRoot.within fun run =>
    .bind (.read _) fun command => ?_
  cases run.lifecycle with
  | canceling | finalizing | closed => exact .pure _
  | pauseRequested =>
    exact .bind reads_requireControlCommand.within fun _ => .bind settleControl_moves fun _ => .pure _
  | paused =>
    cases command with
    | none => exact .pure _
    | some command =>
      exact .bind reads_requireControlCommand.within fun _ => .bind settleControl_moves fun _ => .pure _
  | queued | running => exact .bind (.raiseIf _ _) fun _ => .pure _

theorem deliverCommand_moves {delivery : CommandDelivery} {intentId : Uuid} {held : Bool} :
    Within (Moves unitRetryAttemptId) (deliverCommand delivery intentId held) := by
  refine .update fun db => (aside_commands (extends_map (fun c => ?_) _)).moves
  split
  · split <;> exact rfl
  · exact rfl

/-- The API moves the Run and records its event; in between only the commands change. -/
theorem acceptCommand_moves {actor : ActorContext} {taskRunId : Uuid}
    {commandType : TaskRunCommandType} {expectedRevision : ℕ} {commandDigest : Digest}
    {existing : Option TaskRunCommandIntent} :
    Within (Moves unitRetryAttemptId) (acceptCommand commandEvent actor taskRunId commandType
      expectedRevision commandDigest existing now clock) := by
  refine .bind (.read _) fun _ => .bind ?_ fun run => ?_
  · exact .bind (.demand _ _) fun _ => .bind (.raiseIf _ _) fun _ => .bind (.raiseIf _ _) fun _ =>
      .pure _
  cases existing with
  | some stored => exact .bind (.raiseIf _ _) fun _ => .pure _
  | none =>
    refine .bind (.raiseIf _ _) fun _ => ?_
    dsimp only
    cases targetLifecycle commandType run.lifecycle with
    | error detail => exact .raise _
    | ok target =>
      refine .bind (.raiseIf _ _) fun _ => .bind (.read _) fun _ => .bind (.raiseIf _ _) fun _ => ?_
      intro db command db' h
      obtain ⟨updated, m, hstate, hrest⟩ := commits_bind.1 h
      clear h
      obtain ⟨next, hadvance, -, rfl, rfl⟩ := transitionTaskRunState_commits hstate
      obtain ⟨id, m, hid, hrest⟩ := commits_bind.1 hrest
      obtain ⟨-, hm⟩ := commits_newEntityId.1 hid
      obtain ⟨_, m₁, hinsert, hrest⟩ := commits_bind.1 hrest
      obtain ⟨commands, nextId, m₂, hrows, hcommands, hrecord⟩ : ∃ commands nextId m₂,
          m₂ = { db with
            run := { db.run with toExecutionState := next }
            commands := commands
            nextId := nextId } ∧
          Extends CommandLater db.commands commands ∧
          Recorded none none m₂ db' := by
        obtain ⟨c, hm₁⟩ : ∃ c, m₁ = { m with commands := m.commands ++ [c] } := by
          simp only [insertCommand, commits_bind, commits_read, commits_raiseIf, commits_update] at hinsert
          obtain ⟨_, _, ⟨rfl, rfl⟩, _, _, ⟨-, rfl⟩, _, _, ⟨rfl, rfl⟩, _, _, ⟨-, rfl⟩, rfl⟩ := hinsert
          exact ⟨_, rfl⟩
        dsimp only at hrest
        split at hrest
        · obtain ⟨_, m₂, hsupersede, hrest⟩ := commits_bind.1 hrest
          obtain ⟨_, m₃, hrecord, hpure⟩ := commits_bind.1 hrest
          obtain ⟨-, rfl⟩ := commits_pure.1 hpure
          rw [supersedeForCancel, commits_update] at hsupersede
          subst hm₁ hm
          refine ⟨_, _, m₂, hsupersede, ⟨_, _, List.map_append, ?_⟩, recordEvent_commits hrecord⟩
          refine List.forall₂_map_right_iff.2 (List.forall₂_same.2 fun c _ => ?_)
          split <;> exact rfl
        · obtain ⟨_, m₃, hrecord, hpure⟩ := commits_bind.1 hrest
          obtain ⟨-, rfl⟩ := commits_pure.1 hpure
          subst hm
          exact ⟨_, _, m₁, hm₁, .append .refl _ _, recordEvent_commits hrecord⟩
      have hrun : ReflTransGen (Write unitRetryAttemptId) db m₂ := by
        refine .tail (.single (.run next hadvance)) (.aside m₂ ?_)
        subst hrows
        exact { Aside.refl _ with commands := hcommands }
      refine ⟨hrun.trans hrecord.writes, fun id hb => ?_, fun ht => hrecord.told ?_⟩
      · obtain ⟨_, _, rfl⟩ := hrecord.rows
        exact balanced_of_same (by rw [hrows]) (by rw [hrows]) (by rw [hrows]) hb
      · exact ht.setRun.of_rows (by rw [hrows]) (by rw [hrows]) (by rw [hrows]) (by rw [hrows])

/-! ### Finishing a Run -/

theorem reads_requireExactHistory {request : TaskRunWorkflowInput} {ordinal : ℕ}
    {attempts : List UnitAttempt} :
    Reads (requireExactHistory unitRetryAttemptId request run unit ordinal attempts) := by
  induction attempts with
  | nil => exact .pure _
  | cons attempt attempts ih =>
    exact .bind (.raiseIf _ _) fun _ => .bind (.raiseIf _ _) fun _ => ih

theorem reads_planChildren {request : TaskRunFinishInput} {attempts : List UnitAttempt}
    {units : List ExecutionUnit} {ordinal : ℕ} :
    Reads (planChildren unitRetryAttemptId request run attempts ordinal units) := by
  induction units generalizing ordinal with
  | nil => exact .pure _
  | cons unit units ih =>
    refine .bind (.bind (.bind (.demand _ _) fun _ => .bind (.raiseIf _ _) fun _ =>
      .bind reads_requireExactHistory fun _ => .bind (.raiseIf _ _) fun _ => .pure _) fun _ => ?_)
      fun _ => .bind ih fun _ => .pure _
    cases request.outcomes[ordinal - 1]? with
    | some outcome => exact .bind (.raiseIf _ _) fun _ => .pure _
    | none => exact .bind (.raiseIf _ _) fun _ => .pure _

theorem reconcileChild_moves {request : TaskRunFinishInput} {events : List TaskExecutionEvent}
    {child : PlannedChild} {ordinal : ℕ} :
    Within (Moves unitRetryAttemptId)
      (reconcileChild H unitRetryAttemptId request run events now clock child ordinal) := by
  intro db u db' h
  rw [reconcileChild, commits_read_bind, commits_read_bind, commits_demand_bind] at h
  obtain ⟨unit, -, h⟩ := h
  rw [commits_demand_bind] at h
  obtain ⟨attempt, hattempt, h⟩ := h
  simp only [requireExactAttempt, commits_raiseIf_bind] at h
  refine reconcileAttemptChain_moves ?_ h.2.2.2.2
  rw [getAttempt_id hattempt]
  exact hattempt

theorem reconcileChildren_moves {request : TaskRunFinishInput} {events : List TaskExecutionEvent}
    {children : List PlannedChild} {ordinal : ℕ} :
    Within (Moves unitRetryAttemptId)
      (reconcileChildren H unitRetryAttemptId request run events now clock ordinal children) := by
  induction children generalizing ordinal with
  | nil => exact .pure _
  | cons child children ih => exact .bind reconcileChild_moves fun _ => ih

theorem reconcileRunChildren_moves {request : TaskRunFinishInput} {cancelRequested : Bool}
    {units : List ExecutionUnit} {attempts : List UnitAttempt} {events : List TaskExecutionEvent} :
    Within (Moves unitRetryAttemptId) (reconcileRunChildren H unitRetryAttemptId request
      cancelRequested run units attempts events now clock) :=
  .bind (.raiseIf _ _) fun _ => .bind (.raiseIf _ _) fun _ => .bind reads_planChildren.within fun _ =>
    reconcileChildren_moves

theorem reads_requireExactRunResultEvent {events : List TaskExecutionEvent} {result : RunResult} :
    Reads (requireExactRunResultEvent events run result) := by
  unfold requireExactRunResultEvent
  split
  · exact .raiseIf _ _
  · exact .raise _

theorem closeRun_moves {events : List TaskExecutionEvent} {result : RunResult} :
    Within (Moves unitRetryAttemptId) (closeRun run events result now clock) := by
  have hfinalize : Within (Moves unitRetryAttemptId) (finalizeRun run events result now clock) :=
    .ite (.ite (.bind reads_requireExactRunResultEvent.within fun _ => .pure _) transitionRun_moves)
      transitionRun_moves
  exact .ite (.bind (.raiseIf _ _) fun _ => .bind reads_requireExactRunResultEvent.within fun _ =>
    .pure _) (.bind (.raiseIf _ _) fun _ => .bind hfinalize fun _ => transitionRun_moves)

theorem applyFinishCommands_moves {projected : Bool} {request : TaskRunWorkflowInput}
    {commands : List TaskRunCommandSignal} {cancelRequested : Bool} {result : RunResult} :
    Within (Moves unitRetryAttemptId)
      (applyFinishCommands projected request commands cancelRequested result) := by
  unfold applyFinishCommands
  cases commands with
  | nil =>
    refine .ite (.pure _) (.bind (.read _) fun pending => ?_)
    cases pending with
    | none => exact .pure _
    | some found => exact .bind reads_requireControlCommand.within fun _ => applyCommand_moves
  | cons command rest =>
    exact .bind (.raiseIf _ _) fun _ => .bind (.raiseIf _ _) fun _ => .bind (.raiseIf _ _) fun _ =>
      applyCommand_moves

theorem finishRun_moves {request : TaskRunFinishInput} :
    Within (Moves unitRetryAttemptId) (finishRun H unitRetryAttemptId request now clock) :=
  .bind (.read _) fun _ => .bind (.read _) fun _ => .bind reads_requireExactRoot.within fun _ =>
    .bind (.demand _ _) fun _ => .bind settleControlBeforeFinish_moves fun _ => .bind (.read _) fun _ =>
    .bind (.read _) fun _ => .bind (.read _) fun _ => .bind reconcileRunChildren_moves fun _ =>
    .bind closeRun_moves fun _ => .bind snapshotTaskResult_moves fun _ =>
    .bind applyFinishCommands_moves fun _ => .pure _

theorem finishPartitionedRun_moves {request : TaskRunProjectedFinishInput} :
    Within (Moves unitRetryAttemptId) (finishPartitionedRun H request now clock) :=
  .bind (.read _) fun _ => .bind (.read _) fun _ => .bind reads_requireExactRoot.within fun _ =>
    .bind (.demand _ _) fun _ => .bind (.raiseIf _ _) fun _ =>
    .bind settleControlBeforeFinish_moves fun _ => .bind (.read _) fun _ => .bind (.raiseIf _ _) fun _ =>
    .bind (.read _) fun _ => .bind (.raiseIf _ _) fun _ => .bind closeRun_moves fun _ =>
    .bind snapshotTaskResult_moves fun _ => .bind applyFinishCommands_moves fun _ => .pure _

/-! ### Seals and tickets -/

theorem resolveSealedUnit_moves :
    Within (Moves unitRetryAttemptId) (resolveSealedUnit H P unit createdAt) :=
  .rethrow (.bind resolveUnit_moves fun _ => projectUnit_moves)

theorem finalize_moves {verify : AttemptSeal → Bool} {tenantId : Uuid} {fact : AttemptSeal} :
    Within (Moves unitRetryAttemptId) (finalize H P verify tenantId fact now clock) := by
  intro db answer db' h
  rw [finalize, commits_raiseIf_bind, commits_raiseIf_bind] at h
  obtain ⟨⟨run, unit, attempt⟩, m, hscope, hfinal⟩ := commits_bind.1 h.2.2
  clear h
  obtain ⟨hget, hnames, hsame⟩ : db.getAttempt attempt.id = some attempt ∧
      fact.unitAttemptId = attempt.id ∧ m = db := by
    simp only [requireExactScope, commits_bind, commits_read, commits_demand, commits_raiseIf,
      commits_pure, Prod.mk.injEq] at hscope
    obtain ⟨_, _, ⟨rfl, rfl⟩, _, _, ⟨rfl, rfl⟩, _, _, ⟨rfl, rfl⟩, _, _, ⟨rfl, rfl⟩, _, _, ⟨rfl, rfl⟩,
      _, _, ⟨-, rfl⟩, _, _, ⟨-, rfl⟩, _, _, ⟨-, rfl⟩, _, _, ⟨hattempt, rfl⟩, _, _, ⟨-, rfl⟩, _, _,
      ⟨-, rfl⟩, _, _, ⟨-, rfl⟩, ⟨-, -, rfl⟩, rfl⟩ := hscope
    have hid := getAttempt_id hattempt
    exact ⟨by rw [hid]; exact hattempt, hid.symm, rfl⟩
  subst m
  rw [commits_read_bind] at hfinal
  split at hfinal
  · rename_i accepted _
    have hkept : Within (Moves unitRetryAttemptId) (do
        let foundRef ← read fun db => db.getRefByAttempt fact.unitAttemptId
        let ref ← demand foundRef (.finalization "ATTEMPT_RESULT_REF_MISSING")
        if accepted.contentHash = fact.contentHash then do
          requireExactRef ref accepted
          resolveSealedUnit H P unit now
          pure (some ref)
        else do
          requireSealTime fact attempt now
          recordIntegrityIncident accepted fact now
          pure none : Op (Option ResultRef)) :=
      .bind (.read _) fun _ => .bind (.demand _ _) fun _ =>
        .ite (.bind (.raiseIf _ _) fun _ => .bind resolveSealedUnit_moves fun _ => .pure _)
          (.bind (.raiseIf _ _) fun _ => .bind recordIntegrityIncident_moves fun _ => .pure _)
    exact hkept _ _ _ hfinal
  · simp only [requireSealTime, commits_raiseIf_bind, not_not] at hfinal
    obtain ⟨hrunning, -, -, hfinal⟩ := hfinal
    obtain ⟨ref, m, haccept, hpure⟩ := commits_bind.1 hfinal
    obtain ⟨-, rfl⟩ := commits_pure.1 hpure
    obtain ⟨_, m', hseal, hresolve⟩ := commits_bind.1 haccept
    have hresolved : Within (Moves unitRetryAttemptId) (do
        resolveSealedUnit H P unit now
        pure ref : Op ResultRef) := .bind resolveSealedUnit_moves fun _ => .pure _
    refine IsTrans.trans _ _ _ (recordSeal_moves hget (by simp [hrunning]) hnames hseal) ?_
    obtain ⟨_, m'', hunit, hpure⟩ := commits_bind.1 hresolve
    obtain ⟨-, rfl⟩ := commits_pure.1 hpure
    exact resolveSealedUnit_moves _ _ _ hunit

theorem prepareAttempt_moves {request : UnitAttemptWorkflowInput} {admission : BatchAdmission} :
    Within (Moves unitRetryAttemptId)
      (prepareAttempt unitRetryAttemptId request run admission now) := by
  refine .bind (.read _) fun _ => .bind (.read _) fun _ => .bind (.demand _ _) fun unit =>
    .bind (.demand _ _) fun attempt => .bind reads_requireExactAttemptRequest.within fun _ =>
    .bind (.read _) fun existing => ?_
  cases existing with
  | some ticket => exact reads_requireExactExecutionTicket.within
  | none =>
    refine .bind (.read _) fun retry => ?_
    cases retry with
    | error code => exact .raise _
    | ok _ =>
      refine .bind (.raiseIf _ _) fun _ => .bind (.raiseIf _ _) fun _ => .bind (.raiseIf _ _) fun _ => ?_
      cases admission with
      | raised fault => exact .raise _
      | unsatisfied => exact .raise _
      | admitted snapshot =>
        refine .bind (.bind (.raiseIf _ _) fun _ => .bind newEntityId_moves fun _ => .pure _)
          fun ticket => .bind ?_ fun _ => reads_requireExactExecutionTicket.within
        exact .bind (.read _) fun _ => .bind (.raiseIf _ _) fun _ => .bind (.read _) fun _ =>
          .bind (.raiseIf _ _) fun _ => .update fun db =>
            Aside.moves { Aside.refl db with tickets := List.prefix_append _ _ }

theorem prepareBatch_moves {request : TaskBatchPrepareInput} {admission : Uuid → BatchAdmission} :
    Within (Moves unitRetryAttemptId) (prepareBatch unitRetryAttemptId request admission now) := by
  have hloop : ∀ run requests seen, Within (Moves unitRetryAttemptId)
      (prepareAttempts unitRetryAttemptId request.request run admission now seen requests) := by
    intro run requests
    induction requests with
    | nil => exact fun _ => .pure _
    | cons attempt requests ih =>
      exact fun seen => .bind (.raiseIf _ _) fun _ => .bind prepareAttempt_moves fun _ => ih _
  exact .bind (.raiseIf _ _) fun _ => .bind (.read _) fun _ => .bind (.read _) fun _ =>
    .bind reads_requireExactRoot.within fun _ => .ite (.pure _) <| .ite (.pure _) <|
    .bind (.raiseIf _ _) fun _ => .bind (hloop _ _ _) fun _ => .pure _

/-! ### The system -/

section System

variable (H : ResultHashes) (P : HygieneProjection) (unitRetryAttemptId : Uuid → ℕ → Uuid)
  (commandEvent : TaskRunCommandIntent → EventType × EventPayload)
  (deliveries : CommandDelivery → Prop)

/-- One call. A call that raises leaves the rows as they were. The dispatcher makes the
`deliveries` only. -/
inductive TaskStep (db : Db) : Db → Prop
  | prepareBatch (request : TaskBatchPrepareInput) (admission : Uuid → BatchAdmission)
      (now : Instant) :
      TaskStep db (after (prepareBatch unitRetryAttemptId request admission now) db)
  | checkpointControl (request : TaskRunWorkflowInput) (clock : Instant) :
      TaskStep db (after (checkpointControl request clock) db)
  | startAttempt (request : UnitAttemptWorkflowInput) (admission : Admission) (now clock : Instant) :
      TaskStep db (after (startAttempt unitRetryAttemptId request admission now clock) db)
  | finishAttempt (request : TaskAttemptFinishInput) (now clock : Instant) :
      TaskStep db (after (finishAttempt H P unitRetryAttemptId request now clock) db)
  | finalize (verify : AttemptSeal → Bool) (tenantId : Uuid) (fact : AttemptSeal)
      (now clock : Instant) : TaskStep db (after (finalize H P verify tenantId fact now clock) db)
  | settleAttemptBatch (request : TaskAttemptBatchSettleInput) (now clock : Instant) :
      TaskStep db (after (settleAttemptBatch H unitRetryAttemptId request now clock) db)
  | finishRun (request : TaskRunFinishInput) (now clock : Instant) :
      TaskStep db (after (finishRun H unitRetryAttemptId request now clock) db)
  | finishPartitionedRun (request : TaskRunProjectedFinishInput) (now clock : Instant) :
      TaskStep db (after (finishPartitionedRun H request now clock) db)
  | acceptCommand (actor : ActorContext) (taskRunId : Uuid) (commandType : TaskRunCommandType)
      (expectedRevision : ℕ) (commandDigest : Digest) (existing : Option TaskRunCommandIntent)
      (now clock : Instant) :
      TaskStep db (after (acceptCommand commandEvent actor taskRunId commandType expectedRevision
        commandDigest existing now clock) db)
  | deliverCommand (delivery : CommandDelivery) (intentId : Uuid) (held : Bool)
      (made : deliveries delivery) :
      TaskStep db (after (deliverCommand delivery intentId held) db)

/-- Any number of calls, one after the other. -/
abbrev Runs : Db → Db → Prop :=
  ReflTransGen (TaskStep H P unitRetryAttemptId commandEvent deliveries)

end System

theorem moves_after {α : Type} {t : Op α} (h : Within (Moves unitRetryAttemptId) t) (db : Db) :
    Moves unitRetryAttemptId db (after t db) := by
  rcases after_eq t db with hsame | ⟨a, hcommits⟩
  · rw [hsame]
    exact Std.Refl.refl _
  · exact h db a _ hcommits

theorem TaskStep.moves (h : TaskStep H P unitRetryAttemptId commandEvent deliveries db db') :
    Moves unitRetryAttemptId db db' := by
  cases h with
  | prepareBatch => exact moves_after prepareBatch_moves db
  | checkpointControl => exact moves_after checkpointControl_moves db
  | startAttempt => exact moves_after startAttempt_moves db
  | finishAttempt => exact moves_after finishAttempt_moves db
  | finalize => exact moves_after finalize_moves db
  | settleAttemptBatch => exact moves_after settleAttemptBatch_moves db
  | finishRun => exact moves_after finishRun_moves db
  | finishPartitionedRun => exact moves_after finishPartitionedRun_moves db
  | acceptCommand => exact moves_after acceptCommand_moves db
  | deliverCommand => exact moves_after deliverCommand_moves db

theorem Runs.moves (h : Runs H P unitRetryAttemptId commandEvent deliveries db db') :
    Moves unitRetryAttemptId db db' := by
  induction h with
  | refl => exact Std.Refl.refl _
  | tail _ hstep ih => exact IsTrans.trans _ _ _ ih hstep.moves

end Atlas.Proofs
