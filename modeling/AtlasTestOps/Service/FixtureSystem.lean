import AtlasTestOps.Service.Fixtures
import AtlasTestOps.Service.Leases

/-! Fixture runs under any interleaving: workers that execute, look up and verify nodes,
the sweeper, the API, and providers whose answers come late or never. A worker may stop
after any of its transactions. -/

namespace Atlas.Service

open Atlas Atlas.Identity Atlas.Fixture Atlas.Store Txn

/-! ### The start of a run -/

/-- A node of the compiled plan as `create_run` inserts it. -/
structure PlannedNode where
  nodeId : String
  atomVersionId : Uuid
  actorSlot : String
  logicalIdempotencyKey : String
deriving DecidableEq, Repr

structure PlannedBinding where
  actorSlot : String
  accountLeaseId : Uuid
  fencingToken : ℕ
  connectorInstallationId : Uuid
deriving DecidableEq, Repr

structure FixtureStart where
  projectId : Uuid
  runKind : FixtureRunKind
  compiledPlan : CompiledFixturePlan
  executionDeadline : Instant
  bindings : List PlannedBinding
  nodes : List PlannedNode
deriving DecidableEq, Repr

def pendingNode (id runId : Uuid) (planned : PlannedNode) : DataNodeRun where
  id := id
  fixtureRunId := runId
  nodeId := planned.nodeId
  atomVersionId := planned.atomVersionId
  actorSlot := planned.actorSlot
  status := .pending
  attemptCount := 0
  reconcileState := .notRequired
  reconcileAttemptCount := 0
  nextReconcileAt := none
  failure := none
  startedAt := none
  finishedAt := none
  revision := 1
  logicalIdempotencyKey := planned.logicalIdempotencyKey
  inputs := none
  outputs := none

def insertNodes (runId : Uuid) : List PlannedNode → FixtureOp Unit
  | [] => pure ()
  | planned :: nodes => do
    let id ← newFixtureId
    update fun db => { db with nodes := db.nodes ++ [pendingNode id runId planned] }
    insertNodes runId nodes

/-- Some atom of the plan creates resources. -/
def cleanupRequired (db : FixtureDb) (start : FixtureStart) : Bool :=
  start.nodes.any fun n => (db.getAtomVersion n.atomVersionId).any fun a =>
    a.contract.resourcePolicy.any fun p => p.ownership = .created

/-- `create_run` -/
def createRun (start : FixtureStart) (requestedAt : Instant) : FixtureOp Unit := do
  let runId ← newFixtureId
  let required ← read fun db => cleanupRequired db start
  let run : FixtureRun :=
    { id := runId, projectId := start.projectId, runKind := start.runKind
      compiledPlan := start.compiledPlan, status := .requested
      cleanupState := if required then .pending else .notRequired
      terminalIntent := none, failure := none, executionDeadline := start.executionDeadline
      requestedAt := requestedAt, cancelRequestedAt := none, cancelRequestedBy := none
      cleanupGeneration := 0, startedAt := none, readyAt := none, finishedAt := none
      releasedAt := none, revision := 1, updatedAt := requestedAt }
  let bindings := start.bindings.map fun b =>
    (⟨runId, b.actorSlot, b.accountLeaseId, b.fencingToken, b.connectorInstallationId⟩ :
      FixtureActorBinding)
  update fun db => { db with runs := db.runs ++ [run], bindings := db.bindings ++ bindings }
  insertNodes runId start.nodes

/-! ### Providers -/

inductive CallAnswer
  | applied | notApplied
deriving DecidableEq, Repr

/-- An execution that was sent to a provider. Its answer may be late or missing; `absent`
says that a lookup has since answered ABSENT. -/
structure ProviderCall where
  nodeRunId : Uuid
  attemptId : Uuid
  idempotencyKey : String
  answer : Option CallAnswer
  absent : Bool
deriving DecidableEq, Repr

/-- What the provider did is known: nothing. -/
def ProviderCall.settled (call : ProviderCall) : Bool :=
  call.absent || call.answer = some .notApplied

/-! ### The system -/

structure FixtureSystem where
  db : FixtureDb
  executions : List NodeExecutionClaim
  lookups : List NodeReconcileClaim
  cleanups : List CleanupClaim
  calls : List ProviderCall
  answers : List (Uuid × FixtureReconcileDisposition)
  /-- The lookups whose FOUND has been recorded. -/
  recorded : List Uuid
deriving DecidableEq, Repr

inductive FixtureEvent
  | create (start : FixtureStart) (now : Instant)
  | leases (leaseDb : LeaseDb)
  | claimNode (runId : Uuid) (nodeId : String) (now : Instant)
  | failUnclaimed (runId : Uuid) (nodeId : String) (failure : FixtureFailure) (now : Instant)
  | send (claim : NodeExecutionClaim)
  | answer (attemptId : Uuid) (answer : CallAnswer)
  | recordOutcome (claim : NodeExecutionClaim) (result : FixtureOperationResult) (now : Instant)
  | failClaim (claim : NodeExecutionClaim) (uncertain : Bool) (failure : FixtureFailure)
      (providerRequestId : Option String) (now : Instant)
  | completeNode (claim : NodeExecutionClaim) (providerRequestId : Option String) (now : Instant)
  | claimReconcile (runId : Uuid) (nodeId : String) (now : Instant)
  | lookup (claim : NodeReconcileClaim) (disposition : FixtureReconcileDisposition)
  | reconcileAbsent (claim : NodeReconcileClaim) (providerRequestId : Option String) (now : Instant)
  | reconcileInconclusive (claim : NodeReconcileClaim)
      (status : DataNodeReconcileAttemptStatus) (failure : FixtureFailure)
      (providerRequestId : Option String) (retryable : Bool) (retryAfter : Option ℕ) (now : Instant)
  | reconcileFound (claim : NodeReconcileClaim) (outputs : PortValues)
      (providerRequestId : Option String) (now : Instant)
  | failReconciled (claim : NodeReconcileClaim) (failure : FixtureFailure) (now : Instant)
  | completeReconciled (claim : NodeReconcileClaim) (providerRequestId : Option String) (now : Instant)
  | finalizeReady (runId : Uuid) (now : Instant)
  | beginRelease (runId : Uuid) (now : Instant)
  | beginFailedCleanup (runId : Uuid) (category : FixtureFailureCategory) (code : String)
      (now : Instant)
  | beginCanceledCleanup (runId : Uuid) (now : Instant)
  | finalizeRelease (runId : Uuid) (now : Instant)
  | claimCleanup (candidate : ResourceRecord) (workerIdentity : String) (now : Instant)
  | completeCleanup (claim : CleanupClaim) (providerRequestId : Option String) (now : Instant)
  | failCleanup (claim : CleanupClaim) (status : ResourceCleanupAttemptStatus)
      (failure : FixtureFailure) (providerRequestId : Option String) (retryable : Bool)
      (retryAfter : Option ℕ) (now : Instant)
  | recoverClaims (now : Instant) (limit : ℕ)
  | queueDue (now : Instant) (limit : ℕ)
  | cancel (actor : ActorContext) (runId : Uuid) (now : Instant)
  | retryCleanup (actor : ActorContext) (runId : Uuid) (now : Instant)

/-- The transaction of an event; providers and leases have none here. -/
def FixtureEvent.transaction (worker : FixtureWorker) : FixtureEvent → FixtureOp Unit
  | .create start now => createRun start now
  | .leases leaseDb => update fun db => { db with leaseDb := leaseDb }
  | .claimNode runId nodeId now => discard (Service.claimNode worker runId nodeId now)
  | .failUnclaimed runId nodeId failure now => failUnclaimedNode runId nodeId failure now
  | .send _ => pure ()
  | .answer _ _ => pure ()
  | .recordOutcome claim result now => discard (recordProviderOutcome claim result now)
  | .failClaim claim uncertain failure providerRequestId now =>
    discard (Service.failClaim claim uncertain failure providerRequestId now)
  | .completeNode claim providerRequestId now =>
    discard (Service.completeNode claim.run.id claim.node.nodeId providerRequestId now)
  | .claimReconcile runId nodeId now => discard (Service.claimReconcile worker runId nodeId now)
  | .lookup _ _ => pure ()
  | .reconcileAbsent claim providerRequestId now =>
    discard (finishReconcileAbsent claim providerRequestId now)
  | .reconcileInconclusive claim status failure providerRequestId retryable retryAfter now =>
    discard (finishReconcileInconclusive worker claim status failure providerRequestId retryable
      retryAfter now)
  | .reconcileFound claim outputs providerRequestId now =>
    discard (recordReconcileFound claim outputs providerRequestId now)
  | .failReconciled claim failure now => discard (failReconciledClaim claim failure now)
  | .completeReconciled claim providerRequestId now =>
    discard (Service.completeReconciled claim providerRequestId now)
  | .finalizeReady runId now => discard (finalizeReadyRun runId now)
  | .beginRelease runId now => discard (beginReleaseRun runId now)
  | .beginFailedCleanup runId category code now =>
    discard (beginFailedCleanupRun runId category code now)
  | .beginCanceledCleanup runId now => discard (beginCanceledCleanupRun runId now)
  | .finalizeRelease runId now => discard (finalizeReleaseRun runId now)
  | .claimCleanup candidate workerIdentity now =>
    discard (Service.claimCleanup worker candidate workerIdentity now)
  | .completeCleanup claim providerRequestId now =>
    discard (Service.completeCleanup claim providerRequestId now)
  | .failCleanup claim status failure providerRequestId retryable retryAfter now =>
    discard (finishCleanupFailure worker claim status failure providerRequestId retryable retryAfter
      now)
  | .recoverClaims now limit => discard (Service.recoverClaims worker now limit)
  | .queueDue now limit => discard (queueDueResources now limit)
  | .cancel actor runId now => discard (cancelFixture actor runId now)
  | .retryCleanup actor runId now => discard (retryFixtureCleanup actor runId now)

/-- When an event can happen: a worker acts on a claim it was given, sends its call once,
and reports only what its provider answered; a call is answered once. -/
def FixtureEvent.Enabled (s : FixtureSystem) : FixtureEvent → Prop
  | .leases leaseDb => LeaseStep s.db.leaseDb leaseDb
  | .send claim => claim ∈ s.executions ∧ claim.phase = .execute ∧
    ∀ call ∈ s.calls, call.attemptId ≠ claim.attempt.id
  | .recordOutcome claim _ _ => claim ∈ s.executions ∧ claim.phase = .execute ∧
    ∃ call ∈ s.calls, call.attemptId = claim.attempt.id ∧ call.answer = some .applied
  | .answer attemptId _ => ∀ call ∈ s.calls, call.attemptId = attemptId → call.answer = none
  | .failClaim claim _ _ _ _ => claim ∈ s.executions
  | .completeNode claim _ _ => claim ∈ s.executions ∧ claim.phase = .verify
  | .lookup claim _ => claim ∈ s.lookups
  | .reconcileAbsent claim _ _ =>
    claim ∈ s.lookups ∧ (claim.reconcileAttempt.id, .absent) ∈ s.answers
  | .reconcileInconclusive claim _ _ _ _ _ _ => claim ∈ s.lookups
  | .reconcileFound claim _ _ _ =>
    claim ∈ s.lookups ∧ (claim.reconcileAttempt.id, .found) ∈ s.answers
  | .failReconciled claim _ _ => claim ∈ s.lookups ∧ claim.reconcileAttempt.id ∈ s.recorded
  | .completeReconciled claim _ _ => claim ∈ s.lookups ∧ claim.reconcileAttempt.id ∈ s.recorded
  | .completeCleanup claim _ _ => claim ∈ s.cleanups
  | .failCleanup claim _ _ _ _ _ _ => claim ∈ s.cleanups
  | _ => True

/-- The claims that a transaction hands to its worker. -/
def FixtureEvent.claims (worker : FixtureWorker) (s : FixtureSystem) :
    FixtureEvent → FixtureSystem → FixtureSystem
  | .claimNode runId nodeId now, next =>
    match Service.claimNode worker runId nodeId now s.db with
    | .ok (.claimed claim, _) => { next with executions := claim :: next.executions }
    | _ => next
  | .recordOutcome claim result now, next =>
    match recordProviderOutcome claim result now s.db with
    | .ok (verifying, _) => { next with executions := verifying :: next.executions }
    | _ => next
  | .claimReconcile runId nodeId now, next =>
    match Service.claimReconcile worker runId nodeId now s.db with
    | .ok (.claimed claim, _) => { next with lookups := claim :: next.lookups }
    | _ => next
  | .reconcileFound claim outputs providerRequestId now, next =>
    match recordReconcileFound claim outputs providerRequestId now s.db with
    | .ok _ => { next with recorded := claim.reconcileAttempt.id :: next.recorded }
    | _ => next
  | .claimCleanup candidate workerIdentity now, next =>
    match Service.claimCleanup worker candidate workerIdentity now s.db with
    | .ok (some claim, _) => { next with cleanups := claim :: next.cleanups }
    | _ => next
  | _, next => next

/-- What an event does outside the database. -/
def FixtureEvent.outside (e : FixtureEvent) (s : FixtureSystem) : FixtureSystem :=
  match e with
  | .send claim =>
    { s with calls := s.calls ++
        [⟨claim.node.id, claim.attempt.id, claim.node.logicalIdempotencyKey, none, false⟩] }
  | .answer attemptId received =>
    { s with calls := s.calls.map fun c =>
        if c.attemptId = attemptId then { c with answer := some received } else c }
  | .lookup claim disposition =>
    { s with
      answers := (claim.reconcileAttempt.id, disposition) :: s.answers
      calls := s.calls.map fun c =>
        if disposition = .absent ∧ c.nodeRunId = claim.node.id then { c with absent := true } else c }
  | _ => s

def FixtureEvent.apply (worker : FixtureWorker) (e : FixtureEvent) (s : FixtureSystem) :
    FixtureSystem :=
  e.claims worker s (e.outside { s with db := after (e.transaction worker) s.db })

/-- One event whose step meets `ok`. -/
def FixtureStep (worker : FixtureWorker) (ok : FixtureEvent → FixtureSystem → Prop)
    (s s' : FixtureSystem) : Prop :=
  ∃ e : FixtureEvent, e.Enabled s ∧ ok e s ∧ s' = e.apply worker s

def FixtureSystemRun (worker : FixtureWorker) (ok : FixtureEvent → FixtureSystem → Prop) :
    FixtureSystem → FixtureSystem → Prop :=
  Relation.ReflTransGen (FixtureStep worker ok)

/-- A platform before its first fixture run. -/
structure FixtureSystem.Fresh (s : FixtureSystem) : Prop where
  runs : s.db.runs = []
  bindings : s.db.bindings = []
  nodes : s.db.nodes = []
  attempts : s.db.attempts = []
  reconcileAttempts : s.db.reconcileAttempts = []
  resources : s.db.resources = []
  dependencies : s.db.dependencies = []
  cleanupAttempts : s.db.cleanupAttempts = []
  executions : s.executions = []
  lookups : s.lookups = []
  cleanups : s.cleanups = []
  calls : s.calls = []
  answers : s.answers = []
  recorded : s.recorded = []

@[simp] theorem FixtureEvent.apply_db (worker : FixtureWorker) (e : FixtureEvent)
    (s : FixtureSystem) : (e.apply worker s).db = after (e.transaction worker) s.db := by
  have hclaims : ∀ next : FixtureSystem, (e.claims worker s next).db = next.db := by
    intro next
    cases e <;> simp only [FixtureEvent.claims] <;> split <;> rfl
  unfold FixtureEvent.apply
  rw [hclaims]
  cases e <;> simp only [FixtureEvent.outside]

/-- Every step keeps what the transactions of its events keep. -/
theorem db_run_keeps {worker : FixtureWorker} {ok : FixtureEvent → FixtureSystem → Prop}
    {I : FixtureDb → Prop}
    (hstep : ∀ e s a db', ok e s → I s.db → Commits (FixtureEvent.transaction worker e) s.db a db' →
      I db')
    {s s' : FixtureSystem} (hrun : FixtureSystemRun worker ok s s') (h : I s.db) : I s'.db := by
  refine run_keeps (I := fun t => I t.db) ?_ hrun h
  rintro t t' ⟨e, -, hok, rfl⟩ ht
  rw [FixtureEvent.apply_db]
  rcases after_eq (e.transaction worker) t.db with heq | ⟨a, hc⟩
  · rwa [heq]
  · exact hstep e t a _ hok ht hc

end Atlas.Service
