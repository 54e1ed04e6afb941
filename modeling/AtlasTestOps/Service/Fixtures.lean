import AtlasTestOps.Core.Access
import AtlasTestOps.Core.Text
import AtlasTestOps.Store.Fixtures

/-! `FixtureWorkerService`: the short transactions around the provider calls of a node, of
a lookup and of a cleanup. What a worker keeps between two transactions is its claim. -/

namespace Atlas.Service

open Atlas Atlas.Identity Atlas.Fixture Atlas.Store Txn

/-- Settings of the service and the parts of it that only read: the operations deployed
for a connector, the inputs that the frozen bindings of a node resolve to, and the port
schemas. -/
structure FixtureWorker where
  cleanupGrace : ℕ
  cleanupMaxAttempts : ℕ
  reconcileMaxAttempts : ℕ
  recoveryClaimTtl : ℕ
  retryInitial : ℕ
  retryMaximum : ℕ
  registered : Uuid → ConnectorOperationRef → Bool
  resolveInputs : FixtureDb → FixtureRun → DataNodeRun → Except FixtureFailure PortValues
  inputsValid : DataAtomContract → PortValues → Bool
  cleanupAttempts : 1 ≤ cleanupMaxAttempts ∧ cleanupMaxAttempts ≤ 32
  reconcileAttempts : 1 ≤ reconcileMaxAttempts ∧ reconcileMaxAttempts ≤ 32
  retryBounds : 0 < retryInitial ∧ retryInitial ≤ retryMaximum

inductive NodeClaimPhase
  | execute | verify
deriving DecidableEq, Repr

/-- `_NodeExecutionClaim` -/
structure NodeExecutionClaim where
  phase : NodeClaimPhase
  run : FixtureRun
  node : DataNodeRun
  atom : DataAtomVersion
  binding : FixtureActorBindingRecord
  attempt : DataNodeAttempt
  inputs : PortValues
  outputs : Option PortValues
deriving DecidableEq, Repr

/-- `_NodeReconcileClaim` -/
structure NodeReconcileClaim where
  run : FixtureRun
  node : DataNodeRun
  atom : DataAtomVersion
  binding : FixtureActorBindingRecord
  createAttempt : DataNodeAttempt
  reconcileAttempt : DataNodeReconcileAttempt
  inputs : PortValues
deriving DecidableEq, Repr

/-- What a claim answers: a result, a claim, or a failed validation. -/
inductive ClaimOutcome (Claim : Type)
  | result (answer : FixtureNodeActivityResult)
  | claimed (claim : Claim)
  | invalid (failure : FixtureFailure)
deriving DecidableEq, Repr

def validationFailure (code detail : String) : FixtureFailure := ⟨.validation, code, detail⟩

def nodeNotFound : FixtureFailure :=
  validationFailure "FIXTURE_NODE_NOT_FOUND" "The fixture node does not exist in the frozen run."

def validateRuntimeBinding (worker : FixtureWorker) (binding : FixtureActorBindingRecord)
    (run : FixtureRun) (now : Instant) : Option FixtureFailure :=
  if binding.leaseStatus ≠ .active ∨ binding.leaseExpiresAt ≤ now then
    some ⟨.auth, "ACCOUNT_LEASE_INACTIVE", "The bound account lease is inactive or expired."⟩
  else if binding.leaseExpiresAt < run.executionDeadline + worker.cleanupGrace then
    some ⟨.auth, "ACCOUNT_LEASE_TOO_SHORT",
      "The bound account lease no longer covers execution and cleanup."⟩
  else if binding.connectorStatus ≠ .active then
    some ⟨.infrastructure, "CONNECTOR_INACTIVE", "The bound connector is not active."⟩
  else none

/-- The frozen node, its atom version, unless either has changed since the plan was frozen. -/
def frozenAtom (db : FixtureDb) (run : FixtureRun) (node : DataNodeRun) :
    Except FixtureFailure DataAtomVersion :=
  match run.compiledPlan.nodes.find? fun n => n.nodeId = node.nodeId with
  | none => .error (validationFailure "FIXTURE_NODE_NOT_FROZEN"
      "The fixture node is absent from the frozen plan.")
  | some compiled =>
    match db.getAtomVersion node.atomVersionId with
    | none => .error (validationFailure "ATOM_VERSION_CHANGED"
        "The atom version changed after the fixture plan was frozen.")
    | some atom =>
      if atom.contentDigest = compiled.atomDigest then .ok atom
      else .error (validationFailure "ATOM_VERSION_CHANGED"
        "The atom version changed after the fixture plan was frozen.")

def boundActor (worker : FixtureWorker) (db : FixtureDb) (run : FixtureRun) (node : DataNodeRun)
    (now : Instant) : Except FixtureFailure FixtureActorBindingRecord :=
  match db.getBindingRecord run.id node.actorSlot with
  | none => .error (validationFailure "ACTOR_BINDING_MISSING"
      "The fixture actor binding is unavailable.")
  | some binding =>
    match validateRuntimeBinding worker binding run now with
    | some failure => .error failure
    | none => .ok binding

def nodeContext (worker : FixtureWorker) (db : FixtureDb) (run : FixtureRun) (node : DataNodeRun)
    (now : Instant) : Except FixtureFailure (DataAtomVersion × FixtureActorBindingRecord) := do
  let atom ← frozenAtom db run node
  let binding ← boundActor worker db run node now
  pure (atom, binding)

/-- `_resolve_inputs`, with the idempotency marker and the check of the input ports. -/
def claimInputs (worker : FixtureWorker) (db : FixtureDb) (run : FixtureRun) (node : DataNodeRun)
    (atom : DataAtomVersion) : Except FixtureFailure PortValues := do
  let resolved ← worker.resolveInputs db run node
  let inputs := match atom.contract.markerInput with
    | none => resolved
    | some marker => (marker, some node.logicalIdempotencyKey) :: resolved
  if worker.inputsValid atom.contract inputs then pure inputs
  else .error (validationFailure "ATOM_INPUT_INVALID"
    "The resolved atom inputs did not match the reviewed contract.")

def replayUncertain : FixtureFailure where
  category := .uncertain
  code := "ACTIVITY_REPLAY_OUTCOME_UNCERTAIN"
  detail := "The prior provider attempt has no durable completion record."

/-- A node found VERIFYING is taken up where its provider call left it. -/
def resumeVerifying (run : FixtureRun) (node : DataNodeRun) (atom : DataAtomVersion)
    (binding : FixtureActorBindingRecord) : FixtureOp (ClaimOutcome NodeExecutionClaim) := do
  let running ← read (·.getRunningAttempt node.id)
  let attempt ← demand running (.worker "verifying fixture node is missing durable state")
  let inputs ← demand node.inputs (.worker "verifying fixture node is missing durable state")
  let outputs ← demand node.outputs (.worker "verifying fixture node is missing durable state")
  pure (.claimed ⟨.verify, run, node, atom, binding, attempt, inputs, some outputs⟩)

/-- A node found RUNNING has lost its worker: nobody knows what the provider did. -/
def abandonRunning (node : DataNodeRun) (now : Instant) :
    FixtureOp (ClaimOutcome NodeExecutionClaim) := do
  let running ← read (·.getRunningAttempt node.id)
  let attempt ← demand running (.worker "running fixture node is missing its attempt")
  let failed ← completeNodeFailure node attempt.id true replayUncertain none now
  let uncertain ← demand failed (.worker "fixture uncertain outcome could not be recorded")
  pure (.result uncertain.activityResult)

def startExecution (worker : FixtureWorker) (run : FixtureRun) (node : DataNodeRun)
    (atom : DataAtomVersion) (binding : FixtureActorBindingRecord) (now : Instant) :
    FixtureOp (ClaimOutcome NodeExecutionClaim) := do
  match ← read fun db => claimInputs worker db run node atom with
  | .error failure => pure (.invalid failure)
  | .ok inputs => do
    let attemptId ← newFixtureId
    let started ← startNodeAttempt run node attemptId inputs now
    let (updated, attempt) ← demand started (.worker "fixture node attempt lost its revision race")
    pure (.claimed ⟨.execute, run, updated, atom, binding, attempt, inputs, none⟩)

/-- `_claim_node` -/
def claimNode (worker : FixtureWorker) (runId : Uuid) (nodeId : String) (now : Instant) :
    FixtureOp (ClaimOutcome NodeExecutionClaim) := do
  match ← read fun db => (db.getRunRecord runId, db.getNodeRecord runId nodeId) with
  | (some run, some node) =>
    if node.status ∈ [.succeeded, .failed, .outcomeUncertain] then
      pure (.result node.activityResult)
    else do
      match ← read fun db => nodeContext worker db run node now with
      | .error failure => pure (.invalid failure)
      | .ok (atom, binding) => do
        raiseIf (!worker.registered binding.binding.connectorInstallationId atom.contract.operation)
          (.worker "fixture operation is not registered")
        if node.status = .verifying then resumeVerifying run node atom binding
        else if node.status = .running then abandonRunning node now
        else startExecution worker run node atom binding now
  | _ => pure (.invalid nodeNotFound)

/-- `_resolve_parent_resource_ids` -/
def resolveParents (runId : Uuid) (inputs : PortValues) : List String → FixtureOp (List Uuid)
  | [] => pure []
  | port :: ports => do
    let parentRef ← demand (textAt inputs port)
      (.worker "parent resource input must be a string reference")
    let found ← read (·.getResourceByOpaqueRef runId parentRef)
    let parent ← demand found (.worker "parent resource is absent from the fixture ledger")
    let parents ← resolveParents runId inputs ports
    pure (parent.id :: parents)

/-- The ledger entry of a resource that a provider reported. -/
def recordOutput (runId : Uuid) (nodeRunId attemptId connectorId : Uuid) (atom : DataAtomVersion)
    (policy : ResourcePolicy) (status : ResourceRecordStatus) (inputs outputs : PortValues)
    (recordedAt : Instant) : FixtureOp Unit := do
  let opaqueRef ← demand ((textAt outputs policy.resourceRefOutput).filter fun t => !Text.isBlank t)
    (.worker "resource reference output must be a non-blank string")
  let parentIds ← resolveParents runId inputs policy.parentRefInputs
  let resourceId ← newFixtureId
  let cleanup := atom.contract.cleanupContract.map CleanupContract.operation
  recordResource
    { id := resourceId, fixtureRunId := runId, dataNodeRunId := nodeRunId
      dataNodeAttemptId := attemptId, connectorInstallationId := connectorId
      resourceHandle := s!"fr_{resourceId}", resourceType := policy.resourceType
      ownership := policy.ownership, opaqueRef := opaqueRef, status := status
      expiresAt := recordedAt + seconds policy.ttlSeconds
      cleanupOperationKey := cleanup.map ConnectorOperationRef.operationKey
      cleanupOperationVersion := cleanup.map ConnectorOperationRef.operationVersion
      cleanupGeneration := 0
      nextCleanupAt := if status ∈ scheduled then some recordedAt else none
      createdAt := recordedAt, cleanedAt := none, revision := 1 }
    parentIds

/-- `_record_provider_outcome` -/
def recordProviderOutcome (claim : NodeExecutionClaim) (result : FixtureOperationResult)
    (recordedAt : Instant) : FixtureOp NodeExecutionClaim := do
  let found ← read (·.getNodeRecord claim.run.id claim.node.nodeId)
  let node ← demand found (.worker "fixture node disappeared after provider execution")
  let running ← read (·.getRunningAttempt node.id)
  let attempt ← demand running (.worker "fixture provider outcome has no running attempt")
  let marked ← markNodeVerifying node result.outputs
  let verifying ← demand marked (.worker "fixture provider outcome lost its revision race")
  match claim.atom.contract.resourcePolicy with
  | none => pure ()
  | some policy =>
    recordOutput claim.run.id verifying.id attempt.id claim.binding.binding.connectorInstallationId
      claim.atom policy .active claim.inputs result.outputs recordedAt
  pure { claim with phase := .verify, node := verifying, attempt := attempt
                    outputs := some result.outputs }

/-- `_fail_claim` -/
def failClaim (claim : NodeExecutionClaim) (uncertain : Bool) (failure : FixtureFailure)
    (providerRequestId : Option String) (finishedAt : Instant) :
    FixtureOp FixtureNodeActivityResult := do
  let found ← read (·.getNodeRecord claim.run.id claim.node.nodeId)
  let node ← demand found (.worker "fixture node disappeared before failure recording")
  if node.status ∈ [.failed, .outcomeUncertain] then pure node.activityResult
  else do
    let running ← read (·.getRunningAttempt node.id)
    let attempt ← demand running (.worker "fixture node failure has no running attempt")
    let updated ← completeNodeFailure node attempt.id uncertain failure providerRequestId finishedAt
    let failed ← demand updated (.worker "fixture node failure lost its revision race")
    pure failed.activityResult

/-- `_fail_unclaimed_node` -/
def failUnclaimedNode (runId : Uuid) (nodeId : String) (failure : FixtureFailure)
    (finishedAt : Instant) : FixtureOp Unit := do
  match ← read (·.getNodeRecord runId nodeId) with
  | none => pure ()
  | some node =>
    if node.status ∈ [.failed, .outcomeUncertain] then pure ()
    else do
      let updated ← failNodeWithoutAttempt node failure finishedAt
      let _ ← demand updated (.worker "fixture node validation failure lost its revision race")

/-- The last transaction of `execute_node`. -/
def completeNode (runId : Uuid) (nodeId : String) (providerRequestId : Option String)
    (finishedAt : Instant) : FixtureOp FixtureNodeActivityResult := do
  let found ← read (·.getNodeRecord runId nodeId)
  let node ← demand found (.worker "fixture node disappeared before completion")
  if node.status = .succeeded then pure node.activityResult
  else do
    let running ← read (·.getRunningAttempt node.id)
    let attempt ← demand running (.worker "fixture node has no running attempt")
    let updated ← completeNodeSuccess node attempt.id providerRequestId finishedAt
    let succeeded ← demand updated (.worker "fixture node completion lost its revision race")
    pure succeeded.activityResult

/-! ### Reconcile -/

def reconcileContextMissing : FixtureFailure :=
  validationFailure "RECONCILE_CONTEXT_MISSING"
    "The durable create context required for reconciliation is missing."

/-- The operation that a lookup of the node needs. -/
def lookupOperation (contract : DataAtomContract) : ConnectorOperationRef :=
  (contract.reconcileContract.map ReconcileContract.operation).getD contract.operation

/-- A node whose lookup runs, is exhausted, or is not due. -/
def reconcileNotDue (node : DataNodeRun) (now : Instant) : Bool :=
  node.reconcileState ∈ [.running, .exhausted] || node.nextReconcileAt.any fun t => now < t

/-- `_claim_reconcile` -/
def claimReconcile (worker : FixtureWorker) (runId : Uuid) (nodeId : String) (now : Instant) :
    FixtureOp (ClaimOutcome NodeReconcileClaim) := do
  match ← read fun db => (db.getRunRecord runId, db.getNodeRecord runId nodeId) with
  | (some run, some node) =>
    if node.status ≠ .outcomeUncertain ∨ reconcileNotDue node now then
      pure (.result node.activityResult)
    else do
      match ← read fun db => (frozenAtom db run node, db.getBindingRecord run.id node.actorSlot,
          db.getLatestAttempt node.id, node.inputs) with
      | (.error failure, _) => pure (.invalid failure)
      | (.ok atom, some binding, some createAttempt, some inputs) =>
        match validateRuntimeBinding worker binding run now with
        | some failure => pure (.invalid failure)
        | none => do
          raiseIf (!worker.registered binding.binding.connectorInstallationId
            (lookupOperation atom.contract)) (.worker "fixture operation is not registered")
          let attemptId ← newFixtureId
          match ← startReconcileAttempt node attemptId now with
          | none => pure (.result node.activityResult)
          | some (updated, attempt) =>
            pure (.claimed ⟨run, updated, atom, binding, createAttempt, attempt, inputs⟩)
      | _ => pure (.invalid reconcileContextMissing)
  | _ => pure (.invalid nodeNotFound)

/-- `_finish_reconcile_absent` -/
def finishReconcileAbsent (claim : NodeReconcileClaim) (providerRequestId : Option String)
    (finishedAt : Instant) : FixtureOp FixtureNodeActivityResult := do
  let foundRun ← read (·.getRunRecord claim.run.id)
  let run ← demand foundRun (.worker "fixture reconcile context disappeared")
  let foundNode ← read (·.getNodeRecord claim.run.id claim.node.nodeId)
  let node ← demand foundNode (.worker "fixture reconcile context disappeared")
  if node.reconcileState ≠ .running then pure node.activityResult
  else do
    let retryCreate := run.status ∈ [.requested, .running] && run.cancelRequestedAt.isNone &&
      node.attemptCount < claim.atom.contract.maxAttempts
    let updated ← completeReconcileAbsent node claim.reconcileAttempt.id providerRequestId finishedAt
      retryCreate
    let answered ← demand updated (.worker "fixture reconcile ABSENT result lost its revision race")
    pure answered.activityResult

def retryDelay (worker : FixtureWorker) (attemptNumber : ℕ) (retryAfter : Option ℕ) : ℕ :=
  let delay := min worker.retryMaximum (worker.retryInitial * 2 ^ (attemptNumber - 1))
  match retryAfter with
  | none => delay
  | some wait => min worker.retryMaximum (max delay wait)

def reconcileExhausted (category : FixtureFailureCategory) : FixtureFailure where
  category := category
  code := "RECONCILE_EXHAUSTED"
  detail := "Reconcile could not prove the provider outcome within its bounded budget."

/-- When the lookup is to be repeated, if it is. -/
def nextLookup (worker : FixtureWorker) (attemptNumber : ℕ) (retryable : Bool)
    (retryAfter : Option ℕ) (finishedAt : Instant) : Option Instant :=
  if retryable ∧ attemptNumber < worker.reconcileMaxAttempts then
    some (finishedAt + retryDelay worker attemptNumber retryAfter)
  else none

/-- `_finish_reconcile_inconclusive` -/
def finishReconcileInconclusive (worker : FixtureWorker) (claim : NodeReconcileClaim)
    (attemptStatus : DataNodeReconcileAttemptStatus) (failure : FixtureFailure)
    (providerRequestId : Option String) (retryable : Bool) (retryAfter : Option ℕ)
    (finishedAt : Instant) : FixtureOp FixtureNodeActivityResult := do
  let retryAt :=
    nextLookup worker claim.reconcileAttempt.attemptNumber retryable retryAfter finishedAt
  let found ← read (·.getNodeRecord claim.run.id claim.node.nodeId)
  let node ← demand found (.worker "fixture reconcile node disappeared")
  if node.reconcileState ≠ .running then pure node.activityResult
  else do
    let updated ← completeReconcileInconclusive node claim.reconcileAttempt.id attemptStatus
      (if retryAt.isSome then failure else reconcileExhausted failure.category) providerRequestId
      finishedAt retryAt
    let answered ← demand updated (.worker "fixture reconcile result lost its revision race")
    pure answered.activityResult

/-- A resource found after its run stopped preparing is suspected to be an orphan. -/
def foundStatus (run : FixtureRun) (policy : ResourcePolicy) : ResourceRecordStatus :=
  if (run.cancelRequestedAt.isSome ∨ run.status ∉ [.requested, .running]) ∧
      policy.ownership = .created then
    .orphanSuspected
  else .active

/-- `_record_reconcile_found` -/
def recordReconcileFound (claim : NodeReconcileClaim) (outputs : PortValues)
    (providerRequestId : Option String) (recordedAt : Instant) : FixtureOp DataNodeRun := do
  let foundRun ← read (·.getRunRecord claim.run.id)
  let run ← demand foundRun (.worker "fixture reconcile context disappeared")
  let foundNode ← read (·.getNodeRecord claim.run.id claim.node.nodeId)
  let node ← demand foundNode (.worker "fixture reconcile context disappeared")
  let updated ← completeReconcileFound node claim.reconcileAttempt.id outputs providerRequestId
    recordedAt
  let verifying ← demand updated (.worker "fixture reconcile FOUND result lost its revision race")
  let policy ← demand claim.atom.contract.resourcePolicy
    (.worker "reconciled create atom has no resource cleanup policy")
  raiseIf claim.atom.contract.cleanupContract.isNone
    (.worker "reconciled create atom has no resource cleanup policy")
  recordOutput run.id verifying.id claim.createAttempt.id
    claim.binding.binding.connectorInstallationId claim.atom policy (foundStatus run policy)
    claim.inputs outputs recordedAt
  pure verifying

/-- `_fail_reconciled_claim` -/
def failReconciledClaim (claim : NodeReconcileClaim) (failure : FixtureFailure)
    (finishedAt : Instant) : FixtureOp FixtureNodeActivityResult := do
  let found ← read (·.getNodeRecord claim.run.id claim.node.nodeId)
  let node ← demand found (.worker "reconciled fixture node disappeared")
  if node.status = .failed then pure node.activityResult
  else do
    let updated ← failReconciledNode node failure finishedAt
    let failed ← demand updated (.worker "reconciled fixture failure lost its revision race")
    pure failed.activityResult

/-- The last transaction of `reconcile_node`. -/
def completeReconciled (claim : NodeReconcileClaim) (providerRequestId : Option String)
    (finishedAt : Instant) : FixtureOp FixtureNodeActivityResult := do
  let found ← read (·.getNodeRecord claim.run.id claim.node.nodeId)
  let node ← demand found (.worker "reconciled fixture node disappeared before completion")
  if node.status = .succeeded then pure node.activityResult
  else do
    let updated ← completeNodeSuccess node claim.createAttempt.id providerRequestId finishedAt
    let succeeded ← demand updated
      (.worker "reconciled fixture node completion lost its revision race")
    pure succeeded.activityResult

/-! ### The course of a run -/

def getRunForUpdate (runId : Uuid) : FixtureOp FixtureRun := do
  let found ← read (·.getRunRecord runId)
  demand found (.worker "fixture run is not visible to the worker")

def finalizeReadyRun (runId : Uuid) (observedAt : Instant) : FixtureOp FixtureRun := do
  let run ← getRunForUpdate runId
  if run.status = .ready then pure run
  else do
    let ready ← finalizeReady run observedAt
    demand ready (.worker "fixture run is not ready to finalize")

def beginReleaseRun (runId : Uuid) (clock : Instant) : FixtureOp FixtureRun := do
  let run ← getRunForUpdate runId
  if run.status ∈ [.cleaning, .released, .cleanupFailed] then pure run
  else do
    let started ← beginRelease run clock
    demand started (.worker "fixture run cannot begin release")

def preparationStopped (category : FixtureFailureCategory) (code : String) : FixtureFailure where
  category := category
  code := code
  detail := "Fixture preparation stopped because a node did not succeed."

def beginFailedCleanupRun (runId : Uuid) (category : FixtureFailureCategory) (code : String)
    (clock : Instant) : FixtureOp FixtureRun := do
  let run ← getRunForUpdate runId
  if run.status ∈ [.cleaning, .failed, .canceled, .cleanupFailed] then pure run
  else do
    let started ← beginFailedCleanup run (preparationStopped category code) clock
    demand started (.worker "fixture run cannot begin failure cleanup")

def beginCanceledCleanupRun (runId : Uuid) (clock : Instant) : FixtureOp FixtureRun := do
  let run ← getRunForUpdate runId
  if run.status ∉ [.requested, .running, .ready] then pure run
  else do
    let started ← beginCanceledCleanup run clock
    demand started (.worker "fixture run cannot begin canceled cleanup")

def finalizeReleaseRun (runId : Uuid) (finishedAt : Instant) : FixtureOp FixtureRun := do
  let run ← getRunForUpdate runId
  if run.status ∈ [.released, .cleanupFailed, .failed, .canceled] then pure run
  else do
    let final ← finalizeRelease run finishedAt
    demand final (.worker "fixture release could not be finalized")

/-! ### Cleanup of one resource -/

/-- What the worker holds during the provider call of a cleanup. -/
structure CleanupClaim where
  resource : ResourceRecord
  attempt : ResourceCleanupAttempt
deriving DecidableEq, Repr

def cleanupContextMissing : FixtureFailure :=
  validationFailure "CLEANUP_CONTEXT_MISSING" "The frozen cleanup context is missing."

/-- Why a claimed resource cannot be handed to its provider. -/
def cleanupObstacle (worker : FixtureWorker) (db : FixtureDb) (resource : ResourceRecord)
    (startedAt : Instant) : Option FixtureFailure :=
  match db.getNodeRecordById resource.dataNodeRunId with
  | none => some cleanupContextMissing
  | some node =>
    match (db.getAtomVersion node.atomVersionId).bind fun a => a.contract.cleanupContract,
        db.getBindingRecord resource.fixtureRunId node.actorSlot with
    | some cleanup, some binding =>
      if binding.leaseStatus ≠ .active ∨ binding.leaseExpiresAt ≤ startedAt ∨
          binding.connectorStatus ≠ .active then
        some ⟨.auth, "CLEANUP_FENCE_INVALID",
          "The bound lease or connector is no longer valid for cleanup."⟩
      else if some cleanup.operation.operationKey ≠ resource.cleanupOperationKey ∨
          some cleanup.operation.operationVersion ≠ resource.cleanupOperationVersion then
        some (validationFailure "CLEANUP_OPERATION_CHANGED"
          "The frozen cleanup operation no longer matches the ledger.")
      else if !worker.registered binding.binding.connectorInstallationId cleanup.operation ||
          cleanup.verifyOperation.any fun verify =>
            !worker.registered binding.binding.connectorInstallationId verify then
        some ⟨.infrastructure, "CLEANUP_OPERATION_UNAVAILABLE",
          "The exact frozen cleanup operation is unavailable."⟩
      else none
    | _, _ => some cleanupContextMissing

/-- The first transaction of `_cleanup_resource`: the claim, unless there is nothing to
claim or the claimed resource is lost at once. -/
def claimCleanup (worker : FixtureWorker) (candidate : ResourceRecord) (workerIdentity : String)
    (startedAt : Instant) : FixtureOp (Option CleanupClaim) := do
  let attemptId ← newFixtureId
  match ← claimResourceCleanup candidate.id candidate.revision attemptId workerIdentity startedAt
      (startedAt + worker.retryInitial) with
  | none => pure none
  | some (resource, attempt) => do
    let foundRun ← read (·.getRunRecord resource.fixtureRunId)
    let _ ← demand foundRun (.worker "fixture cleanup run is missing")
    match ← read fun db => cleanupObstacle worker db resource startedAt with
    | some failure => do
      let _ ← failResourceCleanup resource attempt.id .failed failure none startedAt none
      pure none
    | none => pure (some ⟨resource, attempt⟩)

def completeCleanup (claim : CleanupClaim) (providerRequestId : Option String)
    (cleanedAt : Instant) : FixtureOp ResourceRecord := do
  let completed ← completeResourceCleanup claim.resource claim.attempt.id providerRequestId cleanedAt
  demand completed (.worker "fixture resource cleanup lost its revision race")

/-- When the cleanup is to be repeated, if it is. -/
def nextCleanup (worker : FixtureWorker) (generation : ℕ) (retryable : Bool)
    (retryAfter : Option ℕ) (finishedAt : Instant) : Option Instant :=
  if retryable ∧ generation < worker.cleanupMaxAttempts then
    some (finishedAt + retryDelay worker generation retryAfter)
  else none

/-- `_finish_cleanup_failure` -/
def finishCleanupFailure (worker : FixtureWorker) (claim : CleanupClaim)
    (status : ResourceCleanupAttemptStatus) (failure : FixtureFailure)
    (providerRequestId : Option String) (retryable : Bool) (retryAfter : Option ℕ)
    (finishedAt : Instant) : FixtureOp ResourceRecord := do
  let failed ← failResourceCleanup claim.resource claim.attempt.id status failure providerRequestId
    finishedAt
    (nextCleanup worker claim.attempt.cleanupGeneration retryable retryAfter finishedAt)
  demand failed (.worker "fixture cleanup failure lost its revision race")

/-! ### The sweeper's own transactions -/

/-- Stale claims are given back and the canceled runs are listed. -/
def recoverClaims (worker : FixtureWorker) (observedAt : Instant) (limit : ℕ) :
    FixtureOp (List Uuid) := do
  let staleBefore := observedAt - worker.recoveryClaimTtl
  let _ ← recoverStaleReconcileClaims staleBefore observedAt worker.reconcileMaxAttempts limit
  let _ ← recoverStaleCleanupClaims staleBefore observedAt worker.cleanupMaxAttempts limit
  listCancelRequestedRunIds limit

def queueDueResources (now : Instant) (limit : ℕ) : FixtureOp (List ResourceRecord) := do
  let _ ← queueExpiredResources now limit
  listDueCleanupResources now limit

/-! ### API commands -/

def fixtureNotFound : Fault := .application "NOT_FOUND" "FixtureRun 不存在或不可见。"

def fixtureForbidden (detail : String) : Fault := .application "FORBIDDEN" detail

def fixtureConflict (detail : String) : Fault := .application "CONFLICT" detail

def cancelFixture (actor : ActorContext) (runId : Uuid) (now : Instant) : FixtureOp FixtureRun := do
  let found ← read (·.getRunRecord runId)
  let run ← demand found fixtureNotFound
  raiseIf (!actor.canOperateProject run.projectId)
    (fixtureForbidden "当前身份无权取消该 FixtureRun。")
  if run.status = .canceled ∨ (run.status = .cleaning ∧ run.terminalIntent = some .canceled) then
    pure run
  else do
    raiseIf (run.status ∉ [.requested, .running, .ready])
      (fixtureConflict "当前 FixtureRun 已不能取消。")
    let actorId ← demand actor.actorId
      (fixtureForbidden "取消 FixtureRun 需要可审计的 Actor 身份。")
    if run.cancelRequestedAt.isSome then pure run
    else do
      let requested ← requestCancellation run actorId now
      demand requested (fixtureConflict "FixtureRun 取消请求发生并发冲突，请重试。")

def retryFixtureCleanup (actor : ActorContext) (runId : Uuid) (now : Instant) :
    FixtureOp FixtureRun := do
  let found ← read (·.getRunRecord runId)
  let run ← demand found fixtureNotFound
  raiseIf (!actor.canOperateProject run.projectId)
    (fixtureForbidden "当前身份无权重试 Fixture Cleanup。")
  raiseIf (run.status ≠ .cleaning)
    (fixtureConflict "只有仍持有有效 Fence 的清理中 FixtureRun 可以重试 Cleanup。")
  raiseIf (run.cleanupState ∉ [.pending, .running, .leaked])
    (fixtureConflict "Fixture Cleanup 已完成或无需执行，不能重复重试。")
  let retried ← prepareCleanupRetry run now
  demand retried (fixtureConflict "Fixture Cleanup 重试发生并发冲突，请重试。")

end Atlas.Service
