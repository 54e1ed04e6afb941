import AtlasTestOps.Service.FixtureSystem

/-! The tables that each fixture transaction writes. A relation that holds of the single
writes holds of every transaction made of them. -/

namespace Atlas.Proofs

open Atlas Atlas.Identity Atlas.Fixture Atlas.Store Atlas.Service Txn

/-- The states in which a run is still updated. -/
def liveRun : List FixtureRunStatus := [.requested, .running, .ready, .cleaning]

/-- The states in which a run is still being prepared or used. -/
def preparing : List FixtureRunStatus := [.requested, .running, .ready]

/-- An update of a run that does not end it: the row before and after. -/
inductive RunMove (r : FixtureRun) : FixtureRun → Prop
  | started (now : Instant) (h : r.status = .requested) : RunMove r
      { r with status := .running, startedAt := some now, revision := r.revision + 1
               updatedAt := now }
  | ready (now : Instant) (h : r.status = .running) : RunMove r
      { r with status := .ready, readyAt := some now, finishedAt := some now
               revision := r.revision + 1, updatedAt := now }
  | cleaning (intent : FixtureRunTerminalIntent) (now : Instant) (failure : Option FixtureFailure)
      (startedAt : Option Instant) (h : r.status ∈ preparing) : RunMove r
      { startCleanup intent now r with failure := failure, startedAt := startedAt }
  | canceled (requestedBy : Uuid) (now : Instant) (h : r.status ∈ preparing) : RunMove r
      { r with cancelRequestedAt := some (r.cancelRequestedAt.getD now)
               cancelRequestedBy := some (r.cancelRequestedBy.getD requestedBy)
               revision := r.revision + 1, updatedAt := now }
  | waiting (now : Instant) (h : r.status = .cleaning) : RunMove r
      { r with cleanupState := .pending, revision := r.revision + 1, updatedAt := now }
  | retried (now : Instant) (h : r.status = .cleaning) : RunMove r
      { r with cleanupState := FixtureCleanupState.started r.cleanupState
               cleanupGeneration := r.cleanupGeneration + 1, revision := r.revision + 1
               updatedAt := now }

theorem RunMove.id {r r' : FixtureRun} (h : RunMove r r') : r'.id = r.id := by
  cases h <;> rfl

theorem RunMove.live {r r' : FixtureRun} (h : RunMove r r') :
    r.status ∈ liveRun ∧ r'.status ∈ liveRun := by
  have hprep : ∀ s ∈ preparing, s ∈ liveRun := by decide
  cases h with
  | started _ h => exact ⟨by rw [h]; decide, by simp [liveRun]⟩
  | ready _ h => exact ⟨by rw [h]; decide, by simp [liveRun]⟩
  | cleaning _ _ _ _ h => exact ⟨hprep _ h, by simp [startCleanup, liveRun]⟩
  | canceled _ _ h => exact ⟨hprep _ h, hprep _ h⟩
  | waiting _ h => exact ⟨by rw [h]; decide, by dsimp only; rw [h]; decide⟩
  | retried _ h => exact ⟨by rw [h]; decide, by dsimp only; rw [h]; decide⟩

/-- `R` holds of every single write outside the node tables. New runs, new resources and the
end of a run are left to the events that make them. -/
structure OutsideNodes (R : FixtureDb → FixtureDb → Prop) : Prop where
  runs : ∀ p f, (∀ r, p r = true → RunMove r (f r)) → Within R (runTable.update p f)
  resources : ∀ p f, Within R (resourceTable.update p f)
  cleanupAttempts : ∀ f : List ResourceCleanupAttempt → List ResourceCleanupAttempt,
    Within R (update fun db => { db with cleanupAttempts := f db.cleanupAttempts } : FixtureOp Unit)
  leases : ∀ leaseDb, Within R (update fun db => { db with leaseDb := leaseDb } : FixtureOp Unit)
  newId : Within R newFixtureId

/-- `R` holds of every single write to the node tables. -/
structure OnNodes (R : FixtureDb → FixtureDb → Prop) : Prop where
  nodes : ∀ p f, Within R (nodeTable.update p f)
  attempts : ∀ f : List DataNodeAttempt → List DataNodeAttempt,
    Within R (update fun db => { db with attempts := f db.attempts } : FixtureOp Unit)
  reconcileAttempts : ∀ f : List DataNodeReconcileAttempt → List DataNodeReconcileAttempt,
    Within R (update fun db => { db with reconcileAttempts := f db.reconcileAttempts } :
      FixtureOp Unit)

section Outside

variable {R : FixtureDb → FixtureDb → Prop}

theorem runAt_status {run row : FixtureRun} {statuses : List FixtureRunStatus}
    (h : runAt run statuses row = true) : row.status ∈ statuses := by
  unfold runAt at h
  simp only [Bool.and_eq_true, decide_eq_true_eq] at h
  exact h.2

theorem OutsideNodes.onLeases (ho : OutsideNodes R) (t : LeaseOp Unit) : Within R (onLeases t) := by
  intro db u db' h
  obtain ⟨leaseDb, -, rfl⟩ := commits_onPart.1 h
  exact ho.leases leaseDb db () _ (commits_update.2 rfl)

theorem within_startRun [Std.Refl R] (ho : OutsideNodes R) (run : FixtureRun) (now : Instant) :
    Within R (startRun run now) := by
  apply Within.ite
  · apply ho.runs
    intro r hr
    simp only [Bool.and_eq_true, decide_eq_true_eq] at hr
    exact .started now hr.1.2
  · exact Within.pure _

variable [Std.Refl R] [IsTrans FixtureDb R]

theorem within_finalizeReady (ho : OutsideNodes R) (run : FixtureRun) (now : Instant) :
    Within R (finalizeReady run now) := by
  refine Within.bind (Within.read _) fun _ => Within.ite (Within.pure _) ?_
  refine Within.bind (ho.runs _ _ fun r hr => ?_) fun _ => Within.pure _
  exact .ready now (List.mem_singleton.1 (runAt_status hr))

theorem within_queueActive (ho : OutsideNodes R) (runId : Uuid) (now : Instant) :
    Within R (queueActiveResources runId now) :=
  Within.bind (ho.resources _ _) fun _ => Within.pure _

theorem within_beginRelease (ho : OutsideNodes R) (run : FixtureRun) (now : Instant) :
    Within R (beginRelease run now) := by
  refine Within.bind (within_queueActive ho _ _) fun _ => ?_
  refine Within.bind (ho.runs _ _ fun r hr => ?_) fun _ => Within.pure _
  have hstatus : ∀ s ∈ [FixtureRunStatus.ready], s ∈ preparing := by decide
  exact .cleaning .released now r.failure r.startedAt (hstatus _ (runAt_status hr))

theorem within_beginFailedCleanup (ho : OutsideNodes R) (run : FixtureRun)
    (failure : FixtureFailure) (now : Instant) : Within R (beginFailedCleanup run failure now) := by
  refine Within.bind (within_queueActive ho _ _) fun _ => ?_
  refine Within.bind (ho.runs _ _ fun r hr => ?_) fun _ => Within.pure _
  have hstatus : ∀ s ∈ [FixtureRunStatus.requested, .running], s ∈ preparing := by decide
  exact .cleaning .failed now _ _ (hstatus _ (runAt_status hr))

theorem within_beginCanceledCleanup (ho : OutsideNodes R) (run : FixtureRun) (now : Instant) :
    Within R (beginCanceledCleanup run now) := by
  refine Within.bind (within_queueActive ho _ _) fun _ => ?_
  refine Within.bind (ho.runs _ _ fun r hr => ?_) fun _ => Within.pure _
  exact .cleaning .canceled now r.failure _ (runAt_status hr)

theorem within_requestCancellation (ho : OutsideNodes R) (run : FixtureRun) (actorId : Uuid)
    (now : Instant) : Within R (requestCancellation run actorId now) :=
  Within.bind (ho.runs _ _ fun _ hr => .canceled actorId now (runAt_status hr)) fun _ =>
    Within.pure _

theorem within_prepareCleanupRetry (ho : OutsideNodes R) (run : FixtureRun) (now : Instant) :
    Within R (prepareCleanupRetry run now) := by
  refine Within.bind (ho.resources _ _) fun _ => Within.bind (ho.runs _ _ ?_) fun _ => Within.pure _
  intro r hr
  simp only [Bool.and_eq_true] at hr
  exact .retried now (List.mem_singleton.1 (runAt_status hr.1))

theorem within_releaseBound (ho : OutsideNodes R) (runId : Uuid) (reason : LeaseReleaseReason)
    (now : Instant) : Within R (releaseBoundLeases runId reason now) :=
  Within.bind (Within.read _) fun _ => ho.onLeases _

theorem within_finalizeRelease (ho : OutsideNodes R) (run : FixtureRun) (now : Instant)
    (hfinish : ∀ intent leaked,
      Within R (runTable.update (runAt run [.cleaning]) (finishCleanup intent leaked run now))) :
    Within R (finalizeRelease run now) := by
  refine Within.bind (Within.read _) fun _ => Within.ite ?_ ?_
  · refine Within.bind (ho.runs _ _ fun r hr => ?_) fun _ => Within.pure _
    exact .waiting now (List.mem_singleton.1 (runAt_status hr))
  · refine Within.bind (Within.demand _ _) fun _ => Within.bind (within_releaseBound ho _ _ _) ?_
    exact fun _ => Within.bind (hfinish _ _) fun _ => Within.pure _

/-! ### Resources -/

theorem within_claimResourceCleanup (ho : OutsideNodes R) (resourceId : Uuid) (revision : ℕ)
    (attemptId : Uuid) (workerIdentity : String) (now retryAt : Instant) :
    Within R (claimResourceCleanup resourceId revision attemptId workerIdentity now retryAt) := by
  refine Within.bind (Within.read _) fun _ => Within.bind (ho.resources _ _) fun _ => ?_
  refine Within.ite (Within.pure _) (Within.bind (ho.resources _ _) fun rows => ?_)
  cases rows with
  | nil => exact Within.pure _
  | cons resource rows => exact Within.bind (ho.cleanupAttempts (· ++ [_])) fun _ => Within.pure _

theorem within_completeResourceCleanup (ho : OutsideNodes R) (resource : ResourceRecord)
    (attemptId : Uuid) (providerRequestId : Option String) (now : Instant) :
    Within R (completeResourceCleanup resource attemptId providerRequestId now) :=
  Within.bind (ho.cleanupAttempts (List.map _)) fun _ =>
    Within.bind (ho.resources _ _) fun _ => Within.pure _

theorem within_failResourceCleanup (ho : OutsideNodes R) (resource : ResourceRecord)
    (attemptId : Uuid) (status : ResourceCleanupAttemptStatus) (failure : FixtureFailure)
    (providerRequestId : Option String) (now : Instant) (retryAt : Option Instant) :
    Within R (failResourceCleanup resource attemptId status failure providerRequestId now retryAt) :=
  Within.bind (ho.cleanupAttempts (List.map _)) fun _ =>
    Within.bind (ho.resources _ _) fun _ => Within.pure _

theorem within_queueExpired (ho : OutsideNodes R) (now : Instant) (limit : ℕ) :
    Within R (queueExpiredResources now limit) :=
  Within.bind (Within.read _) fun _ => Within.bind (ho.resources _ _) fun _ => Within.pure _

theorem within_recoverStaleCleanup (ho : OutsideNodes R) (staleBefore retryAt : Instant)
    (maxAttempts limit : ℕ) :
    Within R (recoverStaleCleanupClaims staleBefore retryAt maxAttempts limit) :=
  Within.bind (Within.read _) fun _ => Within.bind (ho.cleanupAttempts (List.map _)) fun _ =>
    Within.bind (ho.resources _ _) fun _ => Within.pure _

/-! ### Services -/

theorem within_getRunForUpdate (runId : Uuid) : Within R (getRunForUpdate runId) :=
  Within.bind (Within.read _) fun _ => Within.demand _ _

theorem within_finalizeReadyRun (ho : OutsideNodes R) (runId : Uuid) (now : Instant) :
    Within R (finalizeReadyRun runId now) := by
  refine Within.bind (within_getRunForUpdate _) fun run => Within.ite (Within.pure _) ?_
  exact Within.bind (within_finalizeReady ho run now) fun _ => Within.demand _ _

theorem within_beginReleaseRun (ho : OutsideNodes R) (runId : Uuid) (now : Instant) :
    Within R (beginReleaseRun runId now) := by
  refine Within.bind (within_getRunForUpdate _) fun run => Within.ite (Within.pure _) ?_
  exact Within.bind (within_beginRelease ho run now) fun _ => Within.demand _ _

theorem within_beginFailedCleanupRun (ho : OutsideNodes R) (runId : Uuid)
    (category : FixtureFailureCategory) (code : String) (now : Instant) :
    Within R (beginFailedCleanupRun runId category code now) := by
  refine Within.bind (within_getRunForUpdate _) fun run => Within.ite (Within.pure _) ?_
  exact Within.bind (within_beginFailedCleanup ho run _ now) fun _ => Within.demand _ _

theorem within_beginCanceledCleanupRun (ho : OutsideNodes R) (runId : Uuid) (now : Instant) :
    Within R (beginCanceledCleanupRun runId now) := by
  refine Within.bind (within_getRunForUpdate _) fun run => Within.ite (Within.pure _) ?_
  exact Within.bind (within_beginCanceledCleanup ho run now) fun _ => Within.demand _ _

theorem within_finalizeReleaseRun (ho : OutsideNodes R) (runId : Uuid) (now : Instant)
    (hfinish : ∀ run intent leaked,
      Within R (runTable.update (runAt run [.cleaning]) (finishCleanup intent leaked run now))) :
    Within R (finalizeReleaseRun runId now) := by
  refine Within.bind (within_getRunForUpdate _) fun run => Within.ite (Within.pure _) ?_
  exact Within.bind (within_finalizeRelease ho run now (hfinish run)) fun _ => Within.demand _ _

theorem within_claimCleanup (ho : OutsideNodes R) (worker : FixtureWorker)
    (candidate : ResourceRecord) (workerIdentity : String) (now : Instant) :
    Within R (claimCleanup worker candidate workerIdentity now) := by
  refine Within.bind ho.newId fun attemptId =>
    Within.bind (within_claimResourceCleanup ho _ _ _ _ _ _) fun claimed => ?_
  cases claimed with
  | none => exact Within.pure _
  | some claim =>
    refine Within.bind (Within.read _) fun _ => Within.bind (Within.demand _ _) fun _ => ?_
    refine Within.bind (Within.read _) fun obstacle => ?_
    cases obstacle with
    | none => exact Within.pure _
    | some failure =>
      exact Within.bind (within_failResourceCleanup ho _ _ _ _ _ _ _) fun _ => Within.pure _

theorem within_completeCleanup (ho : OutsideNodes R) (claim : CleanupClaim)
    (providerRequestId : Option String) (now : Instant) :
    Within R (completeCleanup claim providerRequestId now) :=
  Within.bind (within_completeResourceCleanup ho _ _ _ _) fun _ => Within.demand _ _

theorem within_finishCleanupFailure (ho : OutsideNodes R) (worker : FixtureWorker)
    (claim : CleanupClaim) (status : ResourceCleanupAttemptStatus) (failure : FixtureFailure)
    (providerRequestId : Option String) (retryable : Bool) (retryAfter : Option ℕ) (now : Instant) :
    Within R (finishCleanupFailure worker claim status failure providerRequestId retryable retryAfter
      now) :=
  Within.bind (within_failResourceCleanup ho _ _ _ _ _ _ _) fun _ => Within.demand _ _

theorem within_queueDueResources (ho : OutsideNodes R) (now : Instant) (limit : ℕ) :
    Within R (queueDueResources now limit) :=
  Within.bind (within_queueExpired ho _ _) fun _ => Within.read _

theorem within_cancelFixture (ho : OutsideNodes R) (actor : ActorContext) (runId : Uuid)
    (now : Instant) : Within R (cancelFixture actor runId now) := by
  refine Within.bind (Within.read _) fun _ => Within.bind (Within.demand _ _) fun run => ?_
  refine Within.bind (Within.raiseIf _ _) fun _ => Within.ite (Within.pure _) ?_
  refine Within.bind (Within.raiseIf _ _) fun _ => Within.bind (Within.demand _ _) fun actorId => ?_
  refine Within.ite (Within.pure _) (Within.bind ?_ fun _ => Within.demand _ _)
  exact within_requestCancellation ho _ _ _

theorem within_retryFixtureCleanup (ho : OutsideNodes R) (actor : ActorContext) (runId : Uuid)
    (now : Instant) : Within R (retryFixtureCleanup actor runId now) := by
  refine Within.bind (Within.read _) fun _ => Within.bind (Within.demand _ _) fun run => ?_
  refine Within.bind (Within.raiseIf _ _) fun _ => Within.bind (Within.raiseIf _ _) fun _ => ?_
  refine Within.bind (Within.raiseIf _ _) fun _ => Within.bind ?_ fun _ => Within.demand _ _
  exact within_prepareCleanupRetry ho _ _

end Outside

/-! ### Nodes -/

section Nodes

variable {R : FixtureDb → FixtureDb → Prop} [Std.Refl R] [IsTrans FixtureDb R]

theorem within_startNodeAttempt (ho : OutsideNodes R) (hn : OnNodes R) (run : FixtureRun)
    (node : DataNodeRun) (attemptId : Uuid) (inputs : PortValues) (now : Instant) :
    Within R (startNodeAttempt run node attemptId inputs now) := by
  refine Within.bind (within_startRun ho _ _) fun _ => Within.bind (hn.nodes _ _) fun rows => ?_
  cases rows with
  | nil => exact Within.pure _
  | cons updated rows => exact Within.bind (hn.attempts (· ++ [_])) fun _ => Within.pure _

theorem within_completeNodeSuccess (hn : OnNodes R) (node : DataNodeRun) (attemptId : Uuid)
    (providerRequestId : Option String) (now : Instant) :
    Within R (completeNodeSuccess node attemptId providerRequestId now) :=
  Within.bind (hn.attempts (List.map _)) fun _ => Within.bind (hn.nodes _ _) fun _ => Within.pure _

theorem within_completeNodeFailure (hn : OnNodes R) (node : DataNodeRun) (attemptId : Uuid)
    (uncertain : Bool) (failure : FixtureFailure) (providerRequestId : Option String)
    (now : Instant) :
    Within R (completeNodeFailure node attemptId uncertain failure providerRequestId now) :=
  Within.bind (hn.attempts (List.map _)) fun _ => Within.bind (hn.nodes _ _) fun _ => Within.pure _

theorem within_startReconcileAttempt (hn : OnNodes R) (node : DataNodeRun) (attemptId : Uuid)
    (now : Instant) : Within R (startReconcileAttempt node attemptId now) := by
  refine Within.bind (hn.nodes _ _) fun rows => ?_
  cases rows with
  | nil => exact Within.pure _
  | cons updated rows => exact Within.bind (hn.reconcileAttempts (· ++ [_])) fun _ => Within.pure _

/-- The three answers of a lookup: the attempt is closed and the node rewritten. -/
theorem within_finishLookup (hn : OnNodes R)
    (g : DataNodeReconcileAttempt → DataNodeReconcileAttempt) (p : DataNodeRun → Bool)
    (f : DataNodeRun → DataNodeRun) :
    Within R (do
      update fun db => { db with reconcileAttempts := db.reconcileAttempts.map g }
      let rows ← nodeTable.update p f
      pure rows.head? : FixtureOp (Option DataNodeRun)) :=
  Within.bind (hn.reconcileAttempts (List.map g)) fun _ =>
    Within.bind (hn.nodes _ _) fun _ => Within.pure _

theorem within_recoverStaleReconcile (hn : OnNodes R) (staleBefore retryAt : Instant)
    (maxAttempts limit : ℕ) :
    Within R (recoverStaleReconcileClaims staleBefore retryAt maxAttempts limit) :=
  Within.bind (Within.read _) fun _ => Within.bind (hn.reconcileAttempts (List.map _)) fun _ =>
    Within.bind (hn.nodes _ _) fun _ => Within.pure _

theorem within_claimNode (ho : OutsideNodes R) (hn : OnNodes R) (worker : FixtureWorker)
    (runId : Uuid) (nodeId : String) (now : Instant) :
    Within R (claimNode worker runId nodeId now) := by
  refine Within.bind (Within.read _) fun found => ?_
  split
  case h_2 => exact Within.pure _
  case h_1 run node =>
    refine Within.ite (Within.pure _) (Within.bind (Within.read _) fun context => ?_)
    cases context with
    | error failure => exact Within.pure _
    | ok context =>
      obtain ⟨atom, binding⟩ := context
      refine Within.bind (Within.raiseIf _ _) fun _ => Within.ite ?_ (Within.ite ?_ ?_)
      · refine Within.bind (Within.read _) fun _ => Within.bind (Within.demand _ _) fun _ => ?_
        refine Within.bind (Within.demand _ _) fun _ => Within.bind (Within.demand _ _) fun _ => ?_
        exact Within.pure _
      · refine Within.bind (Within.read _) fun _ => Within.bind (Within.demand _ _) fun _ => ?_
        refine Within.bind (within_completeNodeFailure hn _ _ _ _ _ _) fun _ => ?_
        exact Within.bind (Within.demand _ _) fun _ => Within.pure _
      · refine Within.bind (Within.read _) fun inputs => ?_
        cases inputs with
        | error failure => exact Within.pure _
        | ok inputs =>
          refine Within.bind ho.newId fun _ =>
            Within.bind (within_startNodeAttempt ho hn _ _ _ _ _) fun _ => ?_
          exact Within.bind (Within.demand _ _) fun _ => Within.pure _

theorem within_failClaim (hn : OnNodes R) (claim : NodeExecutionClaim) (uncertain : Bool)
    (failure : FixtureFailure) (providerRequestId : Option String) (now : Instant) :
    Within R (failClaim claim uncertain failure providerRequestId now) := by
  refine Within.bind (Within.read _) fun _ => Within.bind (Within.demand _ _) fun _ => ?_
  refine Within.ite (Within.pure _) (Within.bind (Within.read _) fun _ => ?_)
  refine Within.bind (Within.demand _ _) fun _ =>
    Within.bind (within_completeNodeFailure hn _ _ _ _ _ _) fun _ => ?_
  exact Within.bind (Within.demand _ _) fun _ => Within.pure _

theorem within_failUnclaimedNode (hn : OnNodes R) (runId : Uuid) (nodeId : String)
    (failure : FixtureFailure) (now : Instant) :
    Within R (failUnclaimedNode runId nodeId failure now) := by
  refine Within.bind (Within.read _) fun found => ?_
  cases found with
  | none => exact Within.pure _
  | some node =>
    refine Within.ite (Within.pure _) (Within.bind (Within.bind (hn.nodes _ _) fun _ => ?_) ?_)
    · exact Within.pure _
    · exact fun _ => Within.bind (Within.demand _ _) fun _ => Within.pure _

theorem within_completeNode (hn : OnNodes R) (runId : Uuid) (nodeId : String)
    (providerRequestId : Option String) (now : Instant) :
    Within R (completeNode runId nodeId providerRequestId now) := by
  refine Within.bind (Within.read _) fun _ => Within.bind (Within.demand _ _) fun _ => ?_
  refine Within.ite (Within.pure _) (Within.bind (Within.read _) fun _ => ?_)
  refine Within.bind (Within.demand _ _) fun _ =>
    Within.bind (within_completeNodeSuccess hn _ _ _ _) fun _ => ?_
  exact Within.bind (Within.demand _ _) fun _ => Within.pure _

theorem within_claimReconcile (ho : OutsideNodes R) (hn : OnNodes R) (worker : FixtureWorker)
    (runId : Uuid) (nodeId : String) (now : Instant) :
    Within R (claimReconcile worker runId nodeId now) := by
  refine Within.bind (Within.read _) fun found => ?_
  split
  case h_2 => exact Within.pure _
  case h_1 run node =>
    refine Within.ite (Within.pure _) (Within.bind (Within.read _) fun context => ?_)
    split
    · exact Within.pure _
    · split
      · exact Within.pure _
      · refine Within.bind (Within.raiseIf _ _) fun _ => Within.bind ho.newId fun _ => ?_
        refine Within.bind (within_startReconcileAttempt hn _ _ _) fun started => ?_
        cases started with
        | none => exact Within.pure _
        | some started => exact Within.pure _
    · exact Within.pure _

theorem within_finishReconcileAbsent (hn : OnNodes R) (claim : NodeReconcileClaim)
    (providerRequestId : Option String) (now : Instant) :
    Within R (finishReconcileAbsent claim providerRequestId now) := by
  refine Within.bind (Within.read _) fun _ => Within.bind (Within.demand _ _) fun _ => ?_
  refine Within.bind (Within.read _) fun _ => Within.bind (Within.demand _ _) fun _ => ?_
  refine Within.ite (Within.pure _) (Within.bind (within_finishLookup hn _ _ _) fun _ => ?_)
  exact Within.bind (Within.demand _ _) fun _ => Within.pure _

theorem within_finishReconcileInconclusive (hn : OnNodes R) (worker : FixtureWorker)
    (claim : NodeReconcileClaim) (status : DataNodeReconcileAttemptStatus) (failure : FixtureFailure)
    (providerRequestId : Option String) (retryable : Bool) (retryAfter : Option ℕ) (now : Instant) :
    Within R (finishReconcileInconclusive worker claim status failure providerRequestId retryable
      retryAfter now) := by
  refine Within.bind (Within.read _) fun _ => Within.bind (Within.demand _ _) fun _ => ?_
  refine Within.ite (Within.pure _) (Within.bind (within_finishLookup hn _ _ _) fun _ => ?_)
  exact Within.bind (Within.demand _ _) fun _ => Within.pure _

theorem within_failReconciledClaim (hn : OnNodes R) (claim : NodeReconcileClaim)
    (failure : FixtureFailure) (now : Instant) :
    Within R (failReconciledClaim claim failure now) := by
  refine Within.bind (Within.read _) fun _ => Within.bind (Within.demand _ _) fun _ => ?_
  refine Within.ite (Within.pure _) (Within.bind (Within.bind (hn.nodes _ _) fun _ => ?_) ?_)
  · exact Within.pure _
  · exact fun _ => Within.bind (Within.demand _ _) fun _ => Within.pure _

theorem within_completeReconciled (hn : OnNodes R) (claim : NodeReconcileClaim)
    (providerRequestId : Option String) (now : Instant) :
    Within R (completeReconciled claim providerRequestId now) := by
  refine Within.bind (Within.read _) fun _ => Within.bind (Within.demand _ _) fun _ => ?_
  refine Within.ite (Within.pure _) (Within.bind (within_completeNodeSuccess hn _ _ _ _) fun _ => ?_)
  exact Within.bind (Within.demand _ _) fun _ => Within.pure _

theorem within_recoverClaims (ho : OutsideNodes R) (hn : OnNodes R) (worker : FixtureWorker)
    (now : Instant) (limit : ℕ) : Within R (recoverClaims worker now limit) :=
  Within.bind (within_recoverStaleReconcile hn _ _ _ _) fun _ =>
    Within.bind (within_recoverStaleCleanup ho _ _ _ _) fun _ => Within.read _

/-! ### New resources -/

theorem within_resolveParents (runId : Uuid) (inputs : PortValues) (ports : List String) :
    Within R (resolveParents runId inputs ports) := by
  induction ports with
  | nil => exact Within.pure _
  | cons port ports ih =>
    refine Within.bind (Within.demand _ _) fun _ => Within.bind (Within.read _) fun _ => ?_
    exact Within.bind (Within.demand _ _) fun _ => Within.bind ih fun _ => Within.pure _

theorem within_recordOutput (ho : OutsideNodes R)
    (hrecord : ∀ resource parentIds, Within R (recordResource resource parentIds))
    (runId nodeRunId attemptId connectorId : Uuid) (atom : DataAtomVersion) (policy : ResourcePolicy)
    (status : ResourceRecordStatus) (inputs outputs : PortValues) (now : Instant) :
    Within R (recordOutput runId nodeRunId attemptId connectorId atom policy status inputs outputs
      now) :=
  Within.bind (Within.demand _ _) fun _ => Within.bind (within_resolveParents _ _ _) fun _ =>
    Within.bind ho.newId fun _ => hrecord _ _

theorem within_recordProviderOutcome (ho : OutsideNodes R) (hn : OnNodes R)
    (hrecord : ∀ resource parentIds, Within R (recordResource resource parentIds))
    (claim : NodeExecutionClaim) (result : FixtureOperationResult) (now : Instant) :
    Within R (recordProviderOutcome claim result now) := by
  refine Within.bind (Within.read _) fun _ => Within.bind (Within.demand _ _) fun _ => ?_
  refine Within.bind (Within.read _) fun _ => Within.bind (Within.demand _ _) fun _ => ?_
  refine Within.bind (Within.bind (hn.nodes _ _) fun _ => Within.pure _) fun _ => ?_
  refine Within.bind (Within.demand _ _) fun _ => ?_
  cases claim.atom.contract.resourcePolicy with
  | none => exact Within.bind (Within.pure _) fun _ => Within.pure _
  | some policy =>
    exact Within.bind (within_recordOutput ho hrecord _ _ _ _ _ _ _ _ _ _) fun _ => Within.pure _

theorem within_recordReconcileFound (ho : OutsideNodes R) (hn : OnNodes R)
    (hrecord : ∀ resource parentIds, Within R (recordResource resource parentIds))
    (claim : NodeReconcileClaim) (outputs : PortValues) (providerRequestId : Option String)
    (now : Instant) : Within R (recordReconcileFound claim outputs providerRequestId now) := by
  refine Within.bind (Within.read _) fun _ => Within.bind (Within.demand _ _) fun _ => ?_
  refine Within.bind (Within.read _) fun _ => Within.bind (Within.demand _ _) fun _ => ?_
  refine Within.bind (within_finishLookup hn _ _ _) fun _ => Within.bind (Within.demand _ _) ?_
  refine fun _ => Within.bind (Within.demand _ _) fun _ => Within.bind (Within.raiseIf _ _) fun _ => ?_
  refine Within.bind ?_ fun _ => Within.pure _
  exact within_recordOutput ho hrecord _ _ _ _ _ _ _ _ _ _

/-- The events that may enter a resource in the ledger. -/
def recordsResource : FixtureEvent → Bool
  | .recordOutcome _ _ _ => true
  | .reconcileFound _ _ _ _ => true
  | _ => false

/-- What holds of every single write holds of every event. -/
theorem within_event {e : FixtureEvent} (worker : FixtureWorker) (ho : OutsideNodes R)
    (hn : OnNodes R)
    (hrecord : recordsResource e = true →
      ∀ resource parentIds, Within R (recordResource resource parentIds))
    (hcreate : ∀ start now, e = .create start now → Within R (createRun start now))
    (hfinal : ∀ runId now, e = .finalizeRelease runId now → Within R (finalizeReleaseRun runId now)) :
    Within R (e.transaction worker) := by
  cases e with
  | create start now => exact hcreate start now rfl
  | leases leaseDb => exact ho.leases leaseDb
  | claimNode => exact (within_claimNode ho hn _ _ _ _).discard
  | failUnclaimed => exact within_failUnclaimedNode hn _ _ _ _
  | send => exact Within.pure _
  | answer => exact Within.pure _
  | recordOutcome => exact (within_recordProviderOutcome ho hn (hrecord rfl) _ _ _).discard
  | failClaim => exact (within_failClaim hn _ _ _ _ _).discard
  | completeNode => exact (within_completeNode hn _ _ _ _).discard
  | claimReconcile => exact (within_claimReconcile ho hn _ _ _ _).discard
  | lookup => exact Within.pure _
  | reconcileAbsent => exact (within_finishReconcileAbsent hn _ _ _).discard
  | reconcileInconclusive => exact (within_finishReconcileInconclusive hn _ _ _ _ _ _ _ _).discard
  | reconcileFound => exact (within_recordReconcileFound ho hn (hrecord rfl) _ _ _ _).discard
  | failReconciled => exact (within_failReconciledClaim hn _ _ _).discard
  | completeReconciled => exact (within_completeReconciled hn _ _ _).discard
  | finalizeReady => exact (within_finalizeReadyRun ho _ _).discard
  | beginRelease => exact (within_beginReleaseRun ho _ _).discard
  | beginFailedCleanup => exact (within_beginFailedCleanupRun ho _ _ _ _).discard
  | beginCanceledCleanup => exact (within_beginCanceledCleanupRun ho _ _).discard
  | finalizeRelease runId now => exact (hfinal runId now rfl).discard
  | claimCleanup => exact (within_claimCleanup ho _ _ _ _).discard
  | completeCleanup => exact (within_completeCleanup ho _ _ _).discard
  | failCleanup => exact (within_finishCleanupFailure ho _ _ _ _ _ _ _ _).discard
  | recoverClaims => exact (within_recoverClaims ho hn _ _ _).discard
  | queueDue => exact (within_queueDueResources ho _ _).discard
  | cancel => exact (within_cancelFixture ho _ _ _).discard
  | retryCleanup => exact (within_retryFixtureCleanup ho _ _ _).discard

end Nodes

end Atlas.Proofs
