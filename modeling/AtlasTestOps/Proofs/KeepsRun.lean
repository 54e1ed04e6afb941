import AtlasTestOps.Proofs.RunHistory

/-! The operations that leave the Run row and its commands alone: they move Units and Attempts,
and write facts, tickets and events. -/

namespace Atlas.Proofs

open Atlas Atlas.Task Atlas.Result Atlas.Store Atlas.Orchestration Atlas.Service Txn

variable {H : ResultHashes} {P : HygieneProjection} {unitRetryAttemptId : Uuid → ℕ → Uuid}
  {db db' : Db} {run : TaskRun} {unit : ExecutionUnit} {attempt : UnitAttempt}
  {now clock createdAt : Instant}

structure KeepsRun (db db' : Db) : Prop where
  run : db'.run = db.run
  commands : db'.commands = db.commands

instance : Std.Refl KeepsRun := ⟨fun _ => ⟨rfl, rfl⟩⟩

instance : IsTrans Db KeepsRun :=
  ⟨fun _ _ _ h h' => ⟨h'.run.trans h.run, h'.commands.trans h.commands⟩⟩

theorem newEntityId_keepsRun : Within KeepsRun newEntityId := by
  intro db id db' h
  obtain ⟨-, rfl⟩ := commits_newEntityId.1 h
  exact ⟨rfl, rfl⟩

theorem recordEvent_keepsRun {projection : ExecutionState} {eventType : EventType}
    {unitId attemptId : Option Uuid} {payload : EventPayload} :
    Within KeepsRun (recordEvent run projection eventType unitId attemptId payload) := by
  intro db u db' h
  obtain ⟨_, _, rfl⟩ := (recordEvent_commits h).rows
  exact ⟨rfl, rfl⟩

theorem transitionUnit_keepsRun {progress : Progress} {eventType : EventType} {payload : EventPayload} :
    Within KeepsRun (transitionUnit run unit progress eventType payload clock) := by
  refine .ite (.pure _) (.bind (fun _ _ _ h => ?_) fun _ => .bind recordEvent_keepsRun fun _ => .pure _)
  obtain ⟨_, _, -, -, -, -, rfl⟩ := transitionExecutionUnitState_commits h
  exact ⟨rfl, rfl⟩

theorem transitionUnitAttemptState_keepsRun {taskRunId unitId attemptId : Uuid}
    {expectedRevision : ℕ} {axes : ExecutionAxes} : Within KeepsRun
      (transitionUnitAttemptState taskRunId unitId attemptId expectedRevision axes clock) := by
  intro db b db' h
  obtain ⟨_, _, -, -, -, -, -, rfl⟩ := transitionUnitAttemptState_commits h
  exact ⟨rfl, rfl⟩

theorem transitionAttempt_keepsRun {progress : Progress} {eventType : EventType}
    {payload : EventPayload} :
    Within KeepsRun (transitionAttempt run unit attempt progress eventType payload clock) :=
  .ite (.pure _) (.bind transitionUnitAttemptState_keepsRun fun _ => .bind recordEvent_keepsRun
    fun _ => .pure _)

theorem resolveUnit_keepsRun : Within KeepsRun (resolveUnit H unit createdAt) := by
  intro db r db' h
  rcases resolveUnit_commits h with ⟨-, rfl⟩ | happended
  · exact ⟨rfl, rfl⟩
  · obtain ⟨_, rfl⟩ := happended.state
    exact ⟨rfl, rfl⟩

theorem projectUnit_keepsRun : Within KeepsRun (projectUnit P unit createdAt) := by
  refine .bind (.read _) fun projected => ?_
  cases projected with
  | error code => exact .raise _
  | ok revision =>
    cases revision with
    | none => exact .pure _
    | some revision => exact .update fun _ => ⟨rfl, rfl⟩

theorem snapshotTaskResult_keepsRun {manifest : TaskRunManifest} :
    Within KeepsRun (snapshotTaskResult H run manifest createdAt) := by
  have hquality : Within KeepsRun (snapshotTask H run manifest createdAt) := by
    intro db s db' h
    obtain ⟨-, -, ⟨-, rfl⟩ | happended⟩ := snapshotTask_commits h
    · exact ⟨rfl, rfl⟩
    · obtain ⟨_, rfl⟩ := happended.state
      exact ⟨rfl, rfl⟩
  refine .rethrow <| .bind hquality fun _ => .bind ?_ fun _ => .pure _
  intro db answer db' h
  rcases snapshotTaskFullyResolved_commits h with ⟨-, rfl⟩ | ⟨quality, m, hsnapshot, houtcome⟩
  · exact ⟨rfl, rfl⟩
  have hm := hquality _ _ _ hsnapshot
  cases houtcome with
  | waiting => exact hm
  | replayed latest => exact hm
  | appended write =>
    obtain ⟨_, rfl⟩ := write.state
    exact ⟨hm.run, hm.commands⟩

theorem closeAttemptResultWithoutSeal_keepsRun {status : AttemptStatus} {reason : String} :
    Within KeepsRun (closeAttemptResultWithoutSeal H unit attempt status reason createdAt) := by
  refine .bind (.demand _ _) fun source => .bind (.rethrow ?_) fun _ => .pure _
  intro db r db' h
  obtain ⟨-, -, -, -, m, hplace, hresolve⟩ := closeWithoutSeal_commits h
  have hresolved := resolveUnit_keepsRun _ _ _ hresolve
  cases hplace with
  | stored => exact hresolved
  | written => exact ⟨hresolved.run, hresolved.commands⟩

theorem finishAttempt_keepsRun {request : TaskAttemptFinishInput} :
    Within KeepsRun (finishAttempt H P unitRetryAttemptId request now clock) := by
  have hlock : Within KeepsRun (lockAttemptChain request.attempt.taskRunId
      request.attempt.executionUnitId request.attempt.unitAttemptId) := by
    intro db chain db' h
    obtain ⟨-, rfl⟩ := lockAttemptChain_commits h
    exact ⟨rfl, rfl⟩
  have hfinalize : ∀ run unit attempt quality status code retryAfterSeconds, Within KeepsRun
      (finalizeAttempt run unit attempt quality status code retryAfterSeconds now clock) := by
    intro run unit attempt quality status code retryAfterSeconds
    have hmove : ∀ at', Within KeepsRun (do
        let payload ← attemptResultPayload status (some code) retryAfterSeconds none none
        transitionAttempt run unit attempt (finalizedNow attempt.toExecutionState quality at')
          .attemptFinalized payload clock : Op UnitAttempt) := fun at' =>
      .bind reads_attemptResultPayload.within fun _ => transitionAttempt_keepsRun
    exact .ite (.bind (.raiseIf _ _) fun _ => .bind (.read _) fun _ =>
      .ite (.bind reads_requireExactAttemptResultEvent.within fun _ => .pure _) (hmove _)) (hmove _)
  refine .bind hlock fun chain => .bind reads_requireExactAttemptRequest.within fun _ =>
    .bind (.read _) fun accepted => ?_
  cases accepted with
  | some fact =>
    exact .bind (.read _) fun _ => .bind (.demand _ _) fun _ =>
      .bind reads_requireExactSealedAttempt.within fun _ =>
      .bind (.rethrow (.bind resolveUnit_keepsRun fun _ => projectUnit_keepsRun)) fun _ => .pure _
  | none =>
    refine .bind reads_executionOutcome.within fun outcome => ?_
    exact .ite (.bind (.raiseIf _ _) fun _ => .bind (.read _) fun _ =>
        .bind reads_requireExactAttemptResultEvent.within fun _ =>
        .bind closeAttemptResultWithoutSeal_keepsRun fun _ => .pure _)
      (.bind (hfinalize _ _ _ _ _ _ _) fun _ => .bind transitionAttempt_keepsRun fun _ =>
        .bind closeAttemptResultWithoutSeal_keepsRun fun _ => .pure _)

theorem closeUnit_keepsRun {quality : ExecutionQuality} {payload : EventPayload}
    {finalizedAt : Instant} {missing : Option Instant} :
    Within KeepsRun (closeUnit run unit quality payload finalizedAt missing now clock) :=
  within_closeUnit fun _ _ _ _ => transitionUnit_keepsRun

theorem reconcileAttemptChain_keepsRun {r : ChildResult} {events : List TaskExecutionEvent} :
    Within KeepsRun (reconcileAttemptChain H run unit attempt r events now clock) :=
  within_reconcileAttemptChain (fun _ _ _ _ => transitionUnit_keepsRun)
    (fun _ _ _ _ => transitionAttempt_keepsRun) fun _ _ _ => closeAttemptResultWithoutSeal_keepsRun

theorem createAttempt_keepsRun {a : UnitAttempt} : Within KeepsRun (createAttempt a) := by
  refine .bind (.raiseIf _ _) fun _ => .bind (.read _) fun existing => ?_
  cases existing with
  | some stored => exact .bind (.raiseIf _ _) fun _ => .pure _
  | none =>
    have hprerequisites : Within KeepsRun (requireRetryPrerequisites a) :=
      .bind (.read _) fun _ => .bind (.demand _ _) fun _ => .bind (.raiseIf _ _) fun _ =>
        .bind (.raiseIf _ _) fun _ => .bind (.raiseIf _ _) fun _ => .bind (.read _) fun _ =>
        .bind (.demand _ _) fun _ => .bind (.raiseIf _ _) fun _ => .bind (.read _) fun _ =>
        .raiseIf _ _
    have hinsert : Within KeepsRun (insertAttempt a) :=
      .bind (.read _) fun _ => .bind (.raiseIf _ _) fun _ => .bind (.read _) fun _ =>
        .bind (.raiseIf _ _) fun _ => .bind (.read _) fun _ => .bind (.raiseIf _ _) fun _ =>
        .bind (.raiseIf _ _) fun _ => .bind (.raiseIf _ _) fun _ => .bind (.raiseIf _ _) fun _ =>
        .update fun _ => ⟨rfl, rfl⟩
    exact .bind (.raiseIf _ _) fun _ => .bind hprerequisites fun _ => .bind hinsert fun _ => .pure _

theorem settleOutcome_keepsRun {request : TaskAttemptBatchSettleInput}
    {policy : Option TaskRetryPolicy} {events : List TaskExecutionEvent} {n : ℕ}
    {outcome : TaskAttemptWorkflowPayload} :
    Within KeepsRun
      (settleOutcome H unitRetryAttemptId request run policy events now clock n outcome) := by
  have hclose : ∀ unit, Within KeepsRun (closeUnitAfterAttempt run unit outcome now clock) := fun unit =>
    .bind reads_attemptResultPayload.within fun _ => .bind closeUnit_keepsRun fun _ => .pure _
  refine .bind (.read _) fun _ => .bind (.read _) fun _ => .bind (.demand _ _) fun unit =>
    .bind (.demand _ _) fun attempt => .bind (.raiseIf _ _) fun _ => .bind (.raiseIf _ _) fun _ =>
    .ite (.bind (.raiseIf _ _) fun _ => .bind reconcileAttemptChain_keepsRun fun _ => .pure _) <|
    .bind (Reads.within (within_requireClosedResult _ _ _ _)) fun _ =>
    .ite (.bind (.raiseIf _ _) fun _ => .pure _) <| .bind (.read _) fun existing => ?_
  cases existing with
  | some retry =>
    exact .bind (.raiseIf _ _) fun _ => .bind reads_retryDispatchPayload.within fun _ => .pure _
  | none =>
    cases policy with
    | none => exact hclose _
    | some policy =>
      exact .ite (.bind (.bind createAttempt_keepsRun fun _ => .bind recordEvent_keepsRun fun _ =>
        reads_retryDispatchPayload.within) fun _ => .pure _) (hclose _)

theorem settleAttemptBatch_keepsRun {request : TaskAttemptBatchSettleInput} :
    Within KeepsRun (settleAttemptBatch H unitRetryAttemptId request now clock) := by
  have hloop : ∀ run policy events outcomes n, Within KeepsRun
      (settleOutcomes H unitRetryAttemptId request run policy events now clock n outcomes) := by
    intro run policy events outcomes
    induction outcomes with
    | nil => exact fun _ => .pure _
    | cons outcome outcomes ih =>
      refine fun n => .bind settleOutcome_keepsRun fun settled => ?_
      cases settled with
      | final => exact .bind (ih _) fun _ => .pure _
      | retry payload created => exact .bind (ih _) fun _ => .pure _
  exact .bind (.raiseIf _ _) fun _ => .bind (.raiseIf _ _) fun _ => .bind (.read _) fun _ =>
    .bind (.read _) fun _ => .bind reads_requireExactRoot.within fun _ => .ite (.pure _) <|
    .ite (.pure _) <| .bind (.raiseIf _ _) fun _ => .bind (.demand _ _) fun _ => .bind (.read _) fun _ =>
    .bind (.read _) fun _ => .bind (hloop _ _ _ _ _) fun _ => .pure _

theorem finalize_keepsRun {verify : AttemptSeal → Bool} {tenantId : Uuid} {fact : AttemptSeal} :
    Within KeepsRun (finalize H P verify tenantId fact now clock) := by
  have hscope : Within KeepsRun (requireExactScope fact) :=
    .bind (.read _) fun _ => .bind (.read _) fun _ => .bind (.read _) fun _ => .bind (.read _) fun _ =>
      .bind (.read _) fun _ => .bind (.demand _ _) fun _ => .bind (.demand _ _) fun _ =>
      .bind (.demand _ _) fun _ => .bind (.demand _ _) fun _ => .bind (.demand _ _) fun _ =>
      .bind (.raiseIf _ _) fun _ => .bind (.raiseIf _ _) fun _ => .pure _
  have hresolve : ∀ unit, Within KeepsRun (resolveSealedUnit H P unit now) := fun unit =>
    .rethrow (.bind resolveUnit_keepsRun fun _ => projectUnit_keepsRun)
  have hevent : ∀ attempt eventType payload, Within KeepsRun
      (appendTaskEvent attempt eventType payload now) := by
    intro attempt eventType payload db u db' h
    obtain ⟨_, _, rfl⟩ := (appendTaskEvent_commits h).rows
    exact ⟨rfl, rfl⟩
  have hfact : Within KeepsRun (insertFact fact) := .bind (.read _) fun _ => .bind (.raiseIf _ _)
    fun _ => .bind (.raiseIf _ _) fun _ => .update fun _ => ⟨rfl, rfl⟩
  have href : ∀ ref, Within KeepsRun (insertRef ref) := fun ref => .bind (.read _) fun _ =>
    .bind (.raiseIf _ _) fun _ => .bind (.raiseIf _ _) fun _ => .update fun _ => ⟨rfl, rfl⟩
  have hincident : ∀ accepted, Within KeepsRun (recordIntegrityIncident accepted fact now) := by
    refine fun accepted => .bind newEntityId_keepsRun fun _ => .update fun _ => ?_
    split <;> exact ⟨rfl, rfl⟩
  refine .bind (.raiseIf _ _) fun _ => .bind (.raiseIf _ _) fun _ => .bind hscope fun chain =>
    .bind (.read _) fun existing => ?_
  cases existing with
  | some accepted =>
    exact .bind (.read _) fun _ => .bind (.demand _ _) fun _ =>
      .ite (.bind (.raiseIf _ _) fun _ => .bind (hresolve _) fun _ => .pure _)
        (.bind (.raiseIf _ _) fun _ => .bind (hincident _) fun _ => .pure _)
  | none =>
    exact .bind (.raiseIf _ _) fun _ => .bind (.raiseIf _ _) fun _ => .bind (.raiseIf _ _) fun _ =>
      .bind (.bind (.bind hfact fun _ => .bind newEntityId_keepsRun fun _ => .bind (href _) fun _ =>
        .bind transitionUnitAttemptState_keepsRun fun _ => .bind (hevent _ _ _) fun _ =>
        .bind transitionUnitAttemptState_keepsRun fun _ => .bind (hevent _ _ _) fun _ => .pure _)
        fun _ => .bind (hresolve _) fun _ => .pure _) fun _ => .pure _

theorem prepareBatch_keepsRun {request : TaskBatchPrepareInput} {admission : Uuid → BatchAdmission} :
    Within KeepsRun (prepareBatch unitRetryAttemptId request admission now) := by
  have hissue : ∀ request run unit attempt admission, Within KeepsRun
      (issueTicket request run unit attempt admission now) := by
    intro request run unit attempt admission
    refine .bind (.read _) fun retry => ?_
    cases retry with
    | error code => exact .raise _
    | ok _ =>
      refine .bind (.raiseIf _ _) fun _ => .bind (.raiseIf _ _) fun _ => .bind (.raiseIf _ _) fun _ => ?_
      cases admission with
      | raised fault => exact .raise _
      | unsatisfied => exact .raise _
      | admitted snapshot =>
        exact .bind (.bind (.raiseIf _ _) fun _ => .bind newEntityId_keepsRun fun _ => .pure _)
          fun _ => .bind (.bind (.read _) fun _ => .bind (.raiseIf _ _) fun _ => .bind (.read _) fun _ =>
            .bind (.raiseIf _ _) fun _ => .update fun _ => ⟨rfl, rfl⟩) fun _ => .raiseIf _ _
  have hloop : ∀ run requests seen, Within KeepsRun
      (prepareAttempts unitRetryAttemptId request.request run admission now seen requests) := by
    intro run requests
    induction requests with
    | nil => exact fun _ => .pure _
    | cons attempt requests ih =>
      refine fun seen => .bind (.raiseIf _ _) fun _ => .bind (.bind (.read _) fun _ =>
        .bind (.read _) fun _ => .bind (.demand _ _) fun _ => .bind (.demand _ _) fun _ =>
        .bind reads_requireExactAttemptRequest.within fun _ => .bind (.read _) fun existing => ?_)
        fun _ => ih _
      cases existing with
      | some ticket => exact .raiseIf _ _
      | none => exact hissue _ _ _ _ _
  exact .bind (.raiseIf _ _) fun _ => .bind (.read _) fun _ => .bind (.read _) fun _ =>
    .bind reads_requireExactRoot.within fun _ => .ite (.pure _) <| .ite (.pure _) <|
    .bind (.raiseIf _ _) fun _ => .bind (hloop _ _ _) fun _ => .pure _

end Atlas.Proofs
