import AtlasTestOps.Lib.Guarded
import AtlasTestOps.Store.Leases
import AtlasTestOps.Fixture.Guards

/-! `FixtureRunRepository`: the fixture tables and the statements on them. Every update of
a run, a node or a resource passes its trigger. -/

namespace Atlas.Store

open Atlas Atlas.Identity Atlas.Fixture Txn

structure FixtureDb where
  leaseDb : LeaseDb
  atoms : List DataAtomVersion
  runs : List FixtureRun
  bindings : List FixtureActorBinding
  nodes : List DataNodeRun
  attempts : List DataNodeAttempt
  reconcileAttempts : List DataNodeReconcileAttempt
  resources : List ResourceRecord
  dependencies : List ResourceDependency
  cleanupAttempts : List ResourceCleanupAttempt
  nextId : Uuid
deriving DecidableEq, Repr

abbrev FixtureOp (α : Type) := Tx FixtureDb Fault α

def runTable : GuardedTable FixtureDb Fault FixtureRun where
  rows := FixtureDb.runs
  store db rows := { db with runs := rows }
  guard old new := (guardFixtureRunUpdate old new).map Fault.constraint

def nodeTable : GuardedTable FixtureDb Fault DataNodeRun where
  rows := FixtureDb.nodes
  store db rows := { db with nodes := rows }
  guard old new := (guardDataNodeRunUpdate old new).map Fault.constraint

def resourceTable : GuardedTable FixtureDb Fault ResourceRecord where
  rows := FixtureDb.resources
  store db rows := { db with resources := rows }
  guard old new := (guardResourceRecordUpdate old new).map Fault.constraint

/-- A statement of the lease repository in the same transaction. -/
def onLeases {α : Type} (t : LeaseOp α) : FixtureOp α :=
  onPart FixtureDb.leaseDb (fun db leaseDb => { db with leaseDb := leaseDb }) t

/-- `new_entity_id` -/
def newFixtureId : FixtureOp Uuid := do
  let id ← read FixtureDb.nextId
  update fun db => { db with nextId := id + 1 }
  pure id

/-- The binding of an actor slot with its lease and connector. -/
structure FixtureActorBindingRecord where
  binding : FixtureActorBinding
  leaseStatus : AccountLeaseStatus
  leaseExpiresAt : Instant
  connectorStatus : EnabledStatus
deriving DecidableEq, Repr

namespace FixtureDb

variable (db : FixtureDb)

def getRunRecord (id : Uuid) : Option FixtureRun := db.runs.find? fun r => r.id = id

def getNodeRecord (runId : Uuid) (nodeId : String) : Option DataNodeRun :=
  db.nodes.find? fun n => n.fixtureRunId = runId ∧ n.nodeId = nodeId

def getNodeRecordById (id : Uuid) : Option DataNodeRun := db.nodes.find? fun n => n.id = id

def getAtomVersion (id : Uuid) : Option DataAtomVersion := db.atoms.find? fun a => a.id = id

def getBindingRecord (runId : Uuid) (actorSlot : String) : Option FixtureActorBindingRecord := do
  let binding ← db.bindings.find? fun b => b.fixtureRunId = runId ∧ b.actorSlot = actorSlot
  let lease ← db.leaseDb.getLease binding.accountLeaseId
  let connector ← db.leaseDb.connectors.find? fun c => c.id = binding.connectorInstallationId
  pure ⟨binding, lease.status, lease.expiresAt, connector.status⟩

def attemptsOf (nodeRunId : Uuid) : List DataNodeAttempt :=
  db.attempts.filter fun a => a.dataNodeRunId = nodeRunId

/-- `order by attempt_number desc limit 1` over the RUNNING attempts of a node. -/
def getRunningAttempt (nodeRunId : Uuid) : Option DataNodeAttempt :=
  ((db.attemptsOf nodeRunId).filter fun a => a.status = .running).argmax
    DataNodeAttempt.attemptNumber

def getLatestAttempt (nodeRunId : Uuid) : Option DataNodeAttempt :=
  (db.attemptsOf nodeRunId).argmax DataNodeAttempt.attemptNumber

def resourcesOf (runId : Uuid) : List ResourceRecord :=
  db.resources.filter fun r => r.fixtureRunId = runId

def nodesOf (runId : Uuid) : List DataNodeRun := db.nodes.filter fun n => n.fixtureRunId = runId

def getResourceByOpaqueRef (runId : Uuid) (opaqueRef : String) : Option ResourceRecord :=
  db.resources.find? fun r => r.fixtureRunId = runId ∧ r.opaqueRef = opaqueRef

/-- Some child of the resource is not CLEANED. -/
def hasLiveChild (resourceId : Uuid) : Bool :=
  db.dependencies.any fun d => d.parentResourceId = resourceId &&
    db.resources.any fun child => child.id = d.childResourceId && child.status ≠ .cleaned

end FixtureDb

theorem mem_of_getRunningAttempt {db : FixtureDb} {nodeRunId : Uuid} {a : DataNodeAttempt}
    (h : db.getRunningAttempt nodeRunId = some a) :
    a ∈ db.attempts ∧ a.dataNodeRunId = nodeRunId ∧ a.status = .running := by
  unfold FixtureDb.getRunningAttempt FixtureDb.attemptsOf at h
  have hmem := List.argmax_mem (Option.mem_def.2 h)
  simp only [List.mem_filter, decide_eq_true_eq] at hmem
  exact ⟨hmem.1.1, hmem.1.2, hmem.2⟩

/-! ### Nodes and attempts -/

/-- `where id = %s and status = 'RUNNING'` -/
def closedAttempt (attemptId : Uuid) (status : DataNodeAttemptStatus)
    (failure : Option FixtureFailure) (providerRequestId : Option String) (finishedAt : Instant)
    (a : DataNodeAttempt) : DataNodeAttempt :=
  if a.id = attemptId ∧ a.status = .running then
    { a with status := status, failure := failure, providerRequestId := providerRequestId
             finishedAt := some finishedAt }
  else a

def closeAttempt (attemptId : Uuid) (status : DataNodeAttemptStatus)
    (failure : Option FixtureFailure) (providerRequestId : Option String) (finishedAt : Instant) :
    FixtureOp Unit :=
  update fun db => { db with
    attempts := db.attempts.map
      (closedAttempt attemptId status failure providerRequestId finishedAt) }

/-- `where id = %s and status = 'RUNNING'` -/
def closedReconcileAttempt (attemptId : Uuid) (status : DataNodeReconcileAttemptStatus)
    (failure : Option FixtureFailure) (providerRequestId : Option String) (finishedAt : Instant)
    (a : DataNodeReconcileAttempt) : DataNodeReconcileAttempt :=
  if a.id = attemptId ∧ a.status = .running then
    { a with status := status, failure := failure, providerRequestId := providerRequestId
             finishedAt := some finishedAt }
  else a

def closeReconcileAttempt (attemptId : Uuid) (status : DataNodeReconcileAttemptStatus)
    (failure : Option FixtureFailure) (providerRequestId : Option String) (finishedAt : Instant) :
    FixtureOp Unit :=
  update fun db => { db with
    reconcileAttempts := db.reconcileAttempts.map
      (closedReconcileAttempt attemptId status failure providerRequestId finishedAt) }

/-- `where id = %s and revision = %s and status in …` -/
def nodeAt (node : DataNodeRun) (statuses : List DataNodeRunStatus) (row : DataNodeRun) : Bool :=
  row.id = node.id && row.revision = node.revision && row.status ∈ statuses

def reconcilingAt (node : DataNodeRun) (row : DataNodeRun) : Bool :=
  nodeAt node [.outcomeUncertain] row && row.reconcileState = .running

/-- The first attempt of a run starts the run. -/
def startRun (run : FixtureRun) (startedAt : Instant) : FixtureOp (List FixtureRun) :=
  if run.status = .requested then
    runTable.update
      (fun r => r.id = run.id && r.status = .requested && r.revision = run.revision)
      fun r => { r with status := .running, startedAt := some startedAt, revision := r.revision + 1
                        updatedAt := startedAt }
  else pure []

/-- The columns of a node whose attempt starts. -/
def startNode (inputs : PortValues) (startedAt : Instant) (n : DataNodeRun) : DataNodeRun :=
  { n with status := .running, inputs := some inputs, attemptCount := n.attemptCount + 1
           startedAt := some (n.startedAt.getD startedAt), revision := n.revision + 1 }

def runningAttempt (attemptId nodeRunId : Uuid) (attemptNumber : ℕ) (startedAt : Instant) :
    DataNodeAttempt where
  id := attemptId
  dataNodeRunId := nodeRunId
  attemptNumber := attemptNumber
  status := .running
  failure := none
  providerRequestId := none
  startedAt := startedAt
  finishedAt := none

def startNodeAttempt (run : FixtureRun) (node : DataNodeRun) (attemptId : Uuid)
    (inputs : PortValues) (startedAt : Instant) :
    FixtureOp (Option (DataNodeRun × DataNodeAttempt)) := do
  let _ ← startRun run startedAt
  let rows ← nodeTable.update (nodeAt node [.pending, .ready]) (startNode inputs startedAt)
  match rows with
  | [] => pure none
  | updated :: _ => do
    let attempt := runningAttempt attemptId node.id updated.attemptCount startedAt
    update fun db => { db with attempts := db.attempts ++ [attempt] }
    pure (some (updated, attempt))

def verifyNode (outputs : PortValues) (n : DataNodeRun) : DataNodeRun :=
  { n with status := .verifying, outputs := some outputs, revision := n.revision + 1 }

def markNodeVerifying (node : DataNodeRun) (outputs : PortValues) :
    FixtureOp (Option DataNodeRun) := do
  let rows ← nodeTable.update (nodeAt node [.running]) (verifyNode outputs)
  pure rows.head?

def succeedNode (finishedAt : Instant) (n : DataNodeRun) : DataNodeRun :=
  { n with status := .succeeded, finishedAt := some finishedAt, revision := n.revision + 1 }

def completeNodeSuccess (node : DataNodeRun) (attemptId : Uuid) (providerRequestId : Option String)
    (finishedAt : Instant) : FixtureOp (Option DataNodeRun) := do
  closeAttempt attemptId .succeeded none providerRequestId finishedAt
  let rows ← nodeTable.update (nodeAt node [.verifying]) (succeedNode finishedAt)
  pure rows.head?

/-- A failed node, and an uncertain one that waits to be reconciled. -/
def failNode (uncertain : Bool) (failure : FixtureFailure) (finishedAt : Instant)
    (n : DataNodeRun) : DataNodeRun :=
  { n with
    status := if uncertain then .outcomeUncertain else .failed
    failure := some failure
    finishedAt := some finishedAt
    reconcileState := if uncertain then .pending else n.reconcileState
    nextReconcileAt := if uncertain then some finishedAt else n.nextReconcileAt
    revision := n.revision + 1 }

def completeNodeFailure (node : DataNodeRun) (attemptId : Uuid) (uncertain : Bool)
    (failure : FixtureFailure) (providerRequestId : Option String) (finishedAt : Instant) :
    FixtureOp (Option DataNodeRun) := do
  closeAttempt attemptId (if uncertain then .outcomeUncertain else .failed) (some failure)
    providerRequestId finishedAt
  let rows ← nodeTable.update (nodeAt node [.running, .verifying])
    (failNode uncertain failure finishedAt)
  pure rows.head?

/-- A node that fails before its first attempt or between two of them. -/
def failIdleNode (failure : FixtureFailure) (finishedAt : Instant) (n : DataNodeRun) : DataNodeRun :=
  { n with status := .failed, failure := some failure
           startedAt := some (n.startedAt.getD finishedAt), finishedAt := some finishedAt
           revision := n.revision + 1 }

def failNodeWithoutAttempt (node : DataNodeRun) (failure : FixtureFailure) (finishedAt : Instant) :
    FixtureOp (Option DataNodeRun) := do
  let rows ← nodeTable.update (nodeAt node [.pending, .ready]) (failIdleNode failure finishedAt)
  pure rows.head?

/-! ### Reconcile -/

/-- A node whose uncertain outcome may be looked up now. -/
def reconcileDue (now : Instant) (n : DataNodeRun) : Bool :=
  n.status = .outcomeUncertain && n.reconcileState ∈ [.pending, .inconclusive] &&
    n.nextReconcileAt.any fun t => t ≤ now

/-- `order by next_…_at, fixture_run_id, id` -/
def dueKey (next : Option Instant) (runId id : Uuid) : ℕ ×ₗ ℕ ×ₗ ℕ :=
  toLex (next.getD 0, toLex (runId, id))

def startLookup (n : DataNodeRun) : DataNodeRun :=
  { n with reconcileState := .running, reconcileAttemptCount := n.reconcileAttemptCount + 1
           nextReconcileAt := none, revision := n.revision + 1 }

def runningReconcileAttempt (attemptId nodeRunId : Uuid) (attemptNumber : ℕ) (startedAt : Instant) :
    DataNodeReconcileAttempt where
  id := attemptId
  dataNodeRunId := nodeRunId
  attemptNumber := attemptNumber
  status := .running
  failure := none
  providerRequestId := none
  startedAt := startedAt
  finishedAt := none

def startReconcileAttempt (node : DataNodeRun) (attemptId : Uuid) (startedAt : Instant) :
    FixtureOp (Option (DataNodeRun × DataNodeReconcileAttempt)) := do
  let rows ← nodeTable.update
    (fun n => n.id = node.id && n.revision = node.revision && reconcileDue startedAt n &&
      n.reconcileAttemptCount < 32) startLookup
  match rows with
  | [] => pure none
  | updated :: _ => do
    let attempt := runningReconcileAttempt attemptId node.id updated.reconcileAttemptCount startedAt
    update fun db => { db with reconcileAttempts := db.reconcileAttempts ++ [attempt] }
    pure (some (updated, attempt))

def findOutputs (outputs : PortValues) (n : DataNodeRun) : DataNodeRun :=
  { n with status := .verifying, reconcileState := .found, outputs := some outputs
           failure := none, finishedAt := none, revision := n.revision + 1 }

def completeReconcileFound (node : DataNodeRun) (attemptId : Uuid) (outputs : PortValues)
    (providerRequestId : Option String) (finishedAt : Instant) :
    FixtureOp (Option DataNodeRun) := do
  closeReconcileAttempt attemptId .found none providerRequestId finishedAt
  let rows ← nodeTable.update (reconcilingAt node) (findOutputs outputs)
  pure rows.head?

def reconcileAbsentRetryExhausted : FixtureFailure where
  category := .uncertain
  code := "RECONCILE_ABSENT_RETRY_EXHAUSTED"
  detail := "Reconcile proved the resource absent after the create retry budget."

/-- The create may be repeated, or its budget is spent. -/
def proveAbsent (finishedAt : Instant) (retryCreate : Bool) (n : DataNodeRun) : DataNodeRun :=
  { n with
    status := if retryCreate then .ready else .failed
    reconcileState := if retryCreate then .absent else .exhausted
    nextReconcileAt := none
    failure := if retryCreate then none else some reconcileAbsentRetryExhausted
    finishedAt := if retryCreate then none else some finishedAt
    revision := n.revision + 1 }

def completeReconcileAbsent (node : DataNodeRun) (attemptId : Uuid)
    (providerRequestId : Option String) (finishedAt : Instant) (retryCreate : Bool) :
    FixtureOp (Option DataNodeRun) := do
  closeReconcileAttempt attemptId .absent none providerRequestId finishedAt
  let rows ← nodeTable.update (reconcilingAt node) (proveAbsent finishedAt retryCreate)
  pure rows.head?

def leaveUncertain (failure : FixtureFailure) (retryAt : Option Instant) (n : DataNodeRun) :
    DataNodeRun :=
  { n with
    reconcileState := if retryAt.isSome then .inconclusive else .exhausted
    nextReconcileAt := retryAt
    failure := some failure
    revision := n.revision + 1 }

def completeReconcileInconclusive (node : DataNodeRun) (attemptId : Uuid)
    (attemptStatus : DataNodeReconcileAttemptStatus) (failure : FixtureFailure)
    (providerRequestId : Option String) (finishedAt : Instant) (retryAt : Option Instant) :
    FixtureOp (Option DataNodeRun) := do
  closeReconcileAttempt attemptId attemptStatus (some failure) providerRequestId finishedAt
  let rows ← nodeTable.update (reconcilingAt node) (leaveUncertain failure retryAt)
  pure rows.head?

def failFoundNode (failure : FixtureFailure) (finishedAt : Instant) (n : DataNodeRun) : DataNodeRun :=
  { n with status := .failed, failure := some failure, finishedAt := some finishedAt
           revision := n.revision + 1 }

def failReconciledNode (node : DataNodeRun) (failure : FixtureFailure) (finishedAt : Instant) :
    FixtureOp (Option DataNodeRun) := do
  let rows ← nodeTable.update
    (fun n => nodeAt node [.verifying] n && n.reconcileState = .found)
    (failFoundNode failure finishedAt)
  pure rows.head?

def reconcileClaimExpired : FixtureFailure where
  category := .uncertain
  code := "RECONCILE_CLAIM_EXPIRED"
  detail := "The prior reconcile claim expired without a durable outcome."

/-- The RUNNING reconcile attempts that were started too long ago. -/
def staleReconcileAttempts (db : FixtureDb) (staleBefore : Instant) (limit : ℕ) :
    List DataNodeReconcileAttempt :=
  ((db.reconcileAttempts.filter fun a => a.status = .running && a.startedAt ≤ staleBefore &&
    db.nodes.any fun n => n.id = a.dataNodeRunId && n.status = .outcomeUncertain &&
      n.reconcileState = .running).insertionSort fun a b =>
        toLex (a.startedAt, a.id) ≤ toLex (b.startedAt, b.id)).take limit

def expireReconcileAttempt (expired : List Uuid) (finishedAt : Instant)
    (a : DataNodeReconcileAttempt) : DataNodeReconcileAttempt :=
  if a.id ∈ expired then
    { a with status := .inconclusive, failure := some reconcileClaimExpired
             finishedAt := some finishedAt }
  else a

def expireReconcileClaim (maxAttempts : ℕ) (retryAt : Instant) (n : DataNodeRun) : DataNodeRun :=
  { n with
    reconcileState := if maxAttempts ≤ n.reconcileAttemptCount then .exhausted else .inconclusive
    nextReconcileAt := if maxAttempts ≤ n.reconcileAttemptCount then none else some retryAt
    failure := some reconcileClaimExpired
    revision := n.revision + 1 }

def recoverStaleReconcileClaims (staleBefore retryAt : Instant) (maxAttempts limit : ℕ) :
    FixtureOp (ℕ × ℕ) := do
  let candidates ← read fun db => staleReconcileAttempts db staleBefore limit
  let expired := candidates.map DataNodeReconcileAttempt.id
  update fun db => { db with
    reconcileAttempts := db.reconcileAttempts.map (expireReconcileAttempt expired retryAt) }
  let rows ← nodeTable.update
    (fun n => n.id ∈ candidates.map DataNodeReconcileAttempt.dataNodeRunId &&
      n.status = .outcomeUncertain && n.reconcileState = .running)
    (expireReconcileClaim maxAttempts retryAt)
  let exhausted := rows.countP fun n => n.reconcileState = .exhausted
  pure (rows.length - exhausted, exhausted)

/-! ### Runs -/

/-- `where id = %s and revision = %s and status in …` -/
def runAt (run : FixtureRun) (statuses : List FixtureRunStatus) (row : FixtureRun) : Bool :=
  row.id = run.id && row.revision = run.revision && row.status ∈ statuses

/-- Every node of the run succeeded. The manifest and the validation evidence are written
in the same transaction. -/
def finalizeReady (run : FixtureRun) (observedAt : Instant) : FixtureOp (Option FixtureRun) := do
  let unfinished ← read fun db => (db.nodesOf run.id).any fun n => n.status ≠ .succeeded
  if unfinished then
    pure none
  else do
    let rows ← runTable.update (runAt run [.running]) fun r =>
      { r with status := .ready, readyAt := some observedAt, finishedAt := some observedAt
               revision := r.revision + 1, updatedAt := observedAt }
    pure rows.head?

/-- The resources that a run starts to clean. -/
def queueActiveResources (runId : Uuid) (clock : Instant) : FixtureOp Unit := do
  let _ ← resourceTable.update
    (fun r => r.fixtureRunId = runId && r.ownership = .created && r.status = .active)
    fun r => { r with status := .cleanupPending, nextCleanupAt := some clock
                      revision := r.revision + 1 }

def FixtureCleanupState.started (state : FixtureCleanupState) : FixtureCleanupState :=
  if state = .notRequired then .notRequired else .running

def startCleanup (intent : FixtureRunTerminalIntent) (clock : Instant) (r : FixtureRun) : FixtureRun :=
  { r with
    status := .cleaning
    terminalIntent := some intent
    cleanupState := FixtureCleanupState.started r.cleanupState
    cleanupGeneration := r.cleanupGeneration + 1
    revision := r.revision + 1
    updatedAt := clock }

def beginRelease (run : FixtureRun) (clock : Instant) : FixtureOp (Option FixtureRun) := do
  queueActiveResources run.id clock
  let rows ← runTable.update (runAt run [.ready]) (startCleanup .released clock)
  pure rows.head?

def beginFailedCleanup (run : FixtureRun) (failure : FixtureFailure) (clock : Instant) :
    FixtureOp (Option FixtureRun) := do
  queueActiveResources run.id clock
  let rows ← runTable.update (runAt run [.requested, .running]) fun r =>
    { startCleanup .failed clock r with
      failure := some failure, startedAt := some (r.startedAt.getD r.requestedAt) }
  pure rows.head?

def requestCancellation (run : FixtureRun) (requestedBy : Uuid) (requestedAt : Instant) :
    FixtureOp (Option FixtureRun) := do
  let rows ← runTable.update (runAt run [.requested, .running, .ready]) fun r =>
    { r with cancelRequestedAt := some (r.cancelRequestedAt.getD requestedAt)
             cancelRequestedBy := some (r.cancelRequestedBy.getD requestedBy)
             revision := r.revision + 1, updatedAt := requestedAt }
  pure rows.head?

def cancelDue (r : FixtureRun) : Bool :=
  r.cancelRequestedAt.isSome && r.status ∈ [.requested, .running, .ready]

def listCancelRequestedRunIds (limit : ℕ) : FixtureOp (List Uuid) :=
  read fun db => (((db.runs.filter cancelDue).insertionSort fun a b =>
    toLex (a.cancelRequestedAt.getD 0, a.id) ≤ toLex (b.cancelRequestedAt.getD 0, b.id)).take
      limit).map FixtureRun.id

def beginCanceledCleanup (run : FixtureRun) (clock : Instant) : FixtureOp (Option FixtureRun) := do
  queueActiveResources run.id clock
  let rows ← runTable.update (runAt run [.requested, .running, .ready]) fun r =>
    { startCleanup .canceled clock r with startedAt := some (r.startedAt.getD r.requestedAt) }
  pure rows.head?

/-! ### Resources -/

/-- The states in which a resource carries the time of its next cleanup. -/
def scheduled : List ResourceRecordStatus := [.cleanupPending, .blockedByChild, .orphanSuspected]

def addDependencies (childId : Uuid) (parentIds : List Uuid) (db : FixtureDb) : FixtureDb :=
  { db with dependencies := db.dependencies ++ parentIds.map fun p => ⟨childId, p⟩ }

def recordResource (resource : ResourceRecord) (parentIds : List Uuid) : FixtureOp Unit := do
  let taken ← read fun db => db.resources.any fun r => r.resourceHandle = resource.resourceHandle
  raiseIf taken (.worker "fixture resource handle already exists")
  update fun db => addDependencies resource.id parentIds
    { db with resources := db.resources ++ [resource] }

/-- Claim a resource for cleanup; a resource with a live child is set aside instead. -/
def claimResourceCleanup (resourceId : Uuid) (expectedRevision : ℕ) (attemptId : Uuid)
    (workerIdentity : String) (startedAt blockedRetryAt : Instant) :
    FixtureOp (Option (ResourceRecord × ResourceCleanupAttempt)) := do
  let blocked ← read fun db => db.hasLiveChild resourceId
  let setAside ← resourceTable.update
    (fun r => r.id = resourceId && r.revision = expectedRevision &&
      r.status ∈ [.cleanupPending, .orphanSuspected, .blockedByChild] && blocked)
    fun r => { r with status := .blockedByChild, nextCleanupAt := some blockedRetryAt
                      revision := r.revision + 1 }
  if setAside ≠ [] then
    pure none
  else do
    let rows ← resourceTable.update
      (fun r => r.id = resourceId && r.revision = expectedRevision &&
        r.status ∈ [.cleanupPending, .orphanSuspected] &&
        r.nextCleanupAt.all (fun t => t ≤ startedAt) && !blocked)
      fun r => { r with status := .cleaning, cleanupGeneration := r.cleanupGeneration + 1
                        nextCleanupAt := none, revision := r.revision + 1 }
    match rows with
    | [] => pure none
    | resource :: _ => do
      let attempt : ResourceCleanupAttempt :=
        { id := attemptId, resourceRecordId := resource.id
          cleanupGeneration := resource.cleanupGeneration, status := .running
          workerIdentity := workerIdentity, failure := none, providerRequestId := none
          startedAt := startedAt, finishedAt := none }
      update fun db => { db with cleanupAttempts := db.cleanupAttempts ++ [attempt] }
      pure (some (resource, attempt))

def closeCleanupAttempt (attemptId : Uuid) (status : ResourceCleanupAttemptStatus)
    (failure : Option FixtureFailure) (providerRequestId : Option String) (finishedAt : Instant) :
    FixtureOp Unit :=
  update fun db => { db with cleanupAttempts := db.cleanupAttempts.map fun a =>
    if a.id = attemptId ∧ a.status = .running then
      { a with status := status, failure := failure, providerRequestId := providerRequestId
               finishedAt := some finishedAt }
    else a }

/-- `where id = %s and revision = %s and status = 'CLEANING'` -/
def cleaningAt (resource row : ResourceRecord) : Bool :=
  row.id = resource.id && row.revision = resource.revision && row.status = .cleaning

def completeResourceCleanup (resource : ResourceRecord) (attemptId : Uuid)
    (providerRequestId : Option String) (cleanedAt : Instant) :
    FixtureOp (Option ResourceRecord) := do
  closeCleanupAttempt attemptId .succeeded none providerRequestId cleanedAt
  let rows ← resourceTable.update (cleaningAt resource) fun r =>
    { r with status := .cleaned, cleanedAt := some cleanedAt, revision := r.revision + 1 }
  pure rows.head?

def failResourceCleanup (resource : ResourceRecord) (attemptId : Uuid)
    (status : ResourceCleanupAttemptStatus) (failure : FixtureFailure)
    (providerRequestId : Option String) (finishedAt : Instant) (retryAt : Option Instant) :
    FixtureOp (Option ResourceRecord) := do
  closeCleanupAttempt attemptId status (some failure) providerRequestId finishedAt
  let rows ← resourceTable.update (cleaningAt resource) fun r =>
    { r with status := (if retryAt.isSome then .cleanupPending else .leaked)
             nextCleanupAt := retryAt, revision := r.revision + 1 }
  pure rows.head?

def prepareCleanupRetry (run : FixtureRun) (requestedAt : Instant) :
    FixtureOp (Option FixtureRun) := do
  let _ ← resourceTable.update
    (fun r => r.fixtureRunId = run.id && r.ownership = .created &&
      r.status ∈ [.leaked, .blockedByChild, .orphanSuspected, .cleanupPending])
    fun r => { r with status := .cleanupPending, nextCleanupAt := some requestedAt
                      revision := r.revision + 1 }
  let rows ← runTable.update (fun r => runAt run [.cleaning] r && r.terminalIntent.isSome) fun r =>
    { r with cleanupState := FixtureCleanupState.started r.cleanupState
             cleanupGeneration := r.cleanupGeneration + 1, revision := r.revision + 1
             updatedAt := requestedAt }
  pure rows.head?

def expiredResources (db : FixtureDb) (now : Instant) (limit : ℕ) : List ResourceRecord :=
  ((db.resources.filter fun r => r.ownership = .created && r.status = .active &&
    r.expiresAt ≤ now).insertionSort fun a b =>
      dueKey (some a.expiresAt) a.fixtureRunId a.id ≤
        dueKey (some b.expiresAt) b.fixtureRunId b.id).take limit

def queueExpiredResources (now : Instant) (limit : ℕ) : FixtureOp ℕ := do
  let candidates ← read fun db => expiredResources db now limit
  let rows ← resourceTable.update (fun r => r.id ∈ candidates.map ResourceRecord.id) fun r =>
    { r with status := .orphanSuspected, nextCleanupAt := some now, revision := r.revision + 1 }
  pure rows.length

def cleanupResourceDue (now : Instant) (r : ResourceRecord) : Bool :=
  r.ownership = .created && r.status ∈ scheduled && r.nextCleanupAt.any fun t => t ≤ now

def dueCleanupResources (db : FixtureDb) (now : Instant) (limit : ℕ) : List ResourceRecord :=
  ((db.resources.filter (cleanupResourceDue now)).insertionSort fun a b =>
    dueKey a.nextCleanupAt a.fixtureRunId a.id ≤ dueKey b.nextCleanupAt b.fixtureRunId b.id).take limit

def listDueCleanupResources (now : Instant) (limit : ℕ) : FixtureOp (List ResourceRecord) :=
  read fun db => dueCleanupResources db now limit

def cleanupClaimExpired : FixtureFailure where
  category := .uncertain
  code := "CLEANUP_CLAIM_EXPIRED"
  detail := "The prior cleanup claim expired without a durable outcome."

def staleCleanupAttempts (db : FixtureDb) (staleBefore : Instant) (limit : ℕ) :
    List ResourceCleanupAttempt :=
  ((db.cleanupAttempts.filter fun a => a.status = .running && a.startedAt ≤ staleBefore &&
    db.resources.any fun r => r.id = a.resourceRecordId && r.status = .cleaning).insertionSort
      fun a b => toLex (a.startedAt, a.id) ≤ toLex (b.startedAt, b.id)).take limit

def expireCleanupAttempt (expired : List Uuid) (finishedAt : Instant)
    (a : ResourceCleanupAttempt) : ResourceCleanupAttempt :=
  if a.id ∈ expired then
    { a with status := .outcomeUncertain, failure := some cleanupClaimExpired
             finishedAt := some finishedAt }
  else a

def expireCleanupClaim (maxAttempts : ℕ) (retryAt : Instant) (r : ResourceRecord) : ResourceRecord :=
  { r with
    status := if maxAttempts ≤ r.cleanupGeneration then .leaked else .cleanupPending
    nextCleanupAt := if maxAttempts ≤ r.cleanupGeneration then none else some retryAt
    revision := r.revision + 1 }

def recoverStaleCleanupClaims (staleBefore retryAt : Instant) (maxAttempts limit : ℕ) :
    FixtureOp (ℕ × ℕ) := do
  let candidates ← read fun db => staleCleanupAttempts db staleBefore limit
  let expired := candidates.map ResourceCleanupAttempt.id
  update fun db => { db with
    cleanupAttempts := db.cleanupAttempts.map (expireCleanupAttempt expired retryAt) }
  let rows ← resourceTable.update
    (fun r => r.id ∈ candidates.map ResourceCleanupAttempt.resourceRecordId && r.status = .cleaning)
    (expireCleanupClaim maxAttempts retryAt)
  let leaked := rows.countP fun r => r.status = .leaked
  pure (rows.length - leaked, leaked)

/-! ### The end of a run -/

/-- What still keeps a run from its end, and what it has lost. -/
structure CleanupCounts where
  retryable : ℕ
  leaked : ℕ
deriving DecidableEq, Repr

def resourceRetryable (r : ResourceRecord) : Bool :=
  r.status ∈ [.active, .cleanupPending, .cleaning, .blockedByChild, .orphanSuspected]

def FixtureDb.cleanupCounts (db : FixtureDb) (runId : Uuid) : CleanupCounts :=
  let created := (db.resourcesOf runId).filter fun r => r.ownership = .created
  let uncertain := (db.nodesOf runId).filter fun n => n.status = .outcomeUncertain
  { retryable := created.countP resourceRetryable +
      uncertain.countP fun n => n.reconcileState ∈ [.pending, .running, .inconclusive]
    leaked := created.countP (fun r => r.status = .leaked) +
      uncertain.countP fun n => n.reconcileState = .exhausted }

/-- Release each lease, whatever the answer. -/
def releaseEach (reason : LeaseReleaseReason) (releasedAt : Instant) :
    List FixtureActorBinding → LeaseOp Unit
  | [] => pure ()
  | binding :: bindings => do
    let _ ← release binding.accountLeaseId ⟨binding.fencingToken, reason⟩ releasedAt
    releaseEach reason releasedAt bindings

/-- `order by account_lease_id` -/
def FixtureDb.bindingsOf (db : FixtureDb) (runId : Uuid) : List FixtureActorBinding :=
  (db.bindings.filter fun b => b.fixtureRunId = runId).insertionSort fun a b =>
    a.accountLeaseId ≤ b.accountLeaseId

def releaseBoundLeases (runId : Uuid) (reason : LeaseReleaseReason) (releasedAt : Instant) :
    FixtureOp Unit := do
  let bindings ← read fun db => db.bindingsOf runId
  onLeases (releaseEach reason releasedAt bindings)

def FixtureRunTerminalIntent.status : FixtureRunTerminalIntent → FixtureRunStatus
  | .released => .released
  | .failed => .failed
  | .canceled => .canceled

def finalStatus (intent : FixtureRunTerminalIntent) (leaked : ℕ) : FixtureRunStatus :=
  if leaked ≠ 0 ∧ intent = .released then .cleanupFailed
  else FixtureRunTerminalIntent.status intent

def finalCleanupState (leaked : ℕ) (state : FixtureCleanupState) : FixtureCleanupState :=
  if leaked ≠ 0 then .leaked else if state = .notRequired then .notRequired else .cleaned

def cleanupIncomplete : FixtureFailure where
  category := .cleanup
  code := "FIXTURE_CLEANUP_INCOMPLETE"
  detail := "One or more fixture resources could not be cleaned."

def finalFailure (intent : FixtureRunTerminalIntent) (leaked : ℕ)
    (failure : Option FixtureFailure) : Option FixtureFailure :=
  if finalStatus intent leaked = .cleanupFailed then some cleanupIncomplete
  else if intent = .released then none
  else failure

/-- The columns of the last update of a run. -/
def finishCleanup (intent : FixtureRunTerminalIntent) (leaked : ℕ) (run : FixtureRun)
    (finishedAt : Instant) (r : FixtureRun) : FixtureRun :=
  { r with
    status := finalStatus intent leaked
    cleanupState := finalCleanupState leaked run.cleanupState
    finishedAt := some (r.finishedAt.getD finishedAt)
    releasedAt := if finalStatus intent leaked = .released then some finishedAt else none
    failure := finalFailure intent leaked run.failure
    revision := r.revision + 1
    updatedAt := finishedAt }

def finalizeRelease (run : FixtureRun) (finishedAt : Instant) : FixtureOp (Option FixtureRun) := do
  let counts ← read fun db => db.cleanupCounts run.id
  if 0 < counts.retryable then do
    let rows ← runTable.update (runAt run [.cleaning]) fun r =>
      { r with cleanupState := .pending, revision := r.revision + 1, updatedAt := finishedAt }
    pure rows.head?
  else do
    let intent ← demand run.terminalIntent (.worker "cleaning fixture run has no terminal intent")
    releaseBoundLeases run.id (if counts.leaked ≠ 0 then .cleanupFailed else .completed) finishedAt
    let rows ← runTable.update (runAt run [.cleaning])
      (finishCleanup intent counts.leaked run finishedAt)
    pure rows.head?

end Atlas.Store
