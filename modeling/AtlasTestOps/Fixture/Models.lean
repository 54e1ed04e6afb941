import AtlasTestOps.Core.Contracts

/-! Runtime contracts for durable fixture execution and resource accounting. Scope columns
that are only copied from row to row are left out. -/

namespace Atlas.Fixture

open Atlas

inductive FixtureRunKind
  | validation | execution
deriving DecidableEq, Repr

inductive FixtureRunStatus
  | requested | running | ready | failed | canceled | cleaning | released | cleanupFailed
deriving DecidableEq, Repr

inductive FixtureRunTerminalIntent
  | released | failed | canceled
deriving DecidableEq, Repr

inductive FixtureCleanupState
  | notRequired | pending | running | cleaned | leaked
deriving DecidableEq, Repr

inductive DataNodeRunStatus
  | pending | ready | running | verifying | succeeded | failed | outcomeUncertain
deriving DecidableEq, Repr

inductive DataNodeAttemptStatus
  | running | succeeded | failed | outcomeUncertain
deriving DecidableEq, Repr

inductive FixtureReconcileState
  | notRequired | pending | running | found | absent | inconclusive | exhausted
deriving DecidableEq, Repr

inductive DataNodeReconcileAttemptStatus
  | running | found | absent | inconclusive | failed
deriving DecidableEq, Repr

inductive ResourceRecordStatus
  | active | cleanupPending | cleaning | cleaned | leaked | blockedByChild | orphanSuspected
deriving DecidableEq, Repr

inductive ResourceCleanupAttemptStatus
  | running | succeeded | failed | outcomeUncertain
deriving DecidableEq, Repr

inductive FixtureFailureCategory
  | validation | policy | auth | rateLimit | transient | uncertain | cleanup | infrastructure
deriving DecidableEq, Repr

/-- The failure columns of a row: all present or all absent. -/
structure FixtureFailure where
  category : FixtureFailureCategory
  code : String
  detail : String
deriving DecidableEq, Repr

/-! Data atoms. -/

inductive AtomEffect
  | read | create | update | delete | wait
deriving DecidableEq, Repr

inductive ResourceOwnership
  | created | adopted | leased | shared
deriving DecidableEq, Repr

structure ConnectorOperationRef where
  operationKey : String
  operationVersion : String
deriving DecidableEq, Repr

structure ResourcePolicy where
  resourceType : String
  ownership : ResourceOwnership
  resourceRefOutput : String
  parentRefInputs : List String
  ttlSeconds : ℕ
deriving DecidableEq, Repr

structure CleanupContract where
  operation : ConnectorOperationRef
  resourceRefInput : String
  verifyOperation : Option ConnectorOperationRef
deriving DecidableEq, Repr

structure ReconcileContract where
  operation : ConnectorOperationRef
  markerInput : String
  resourceRefOutput : String
deriving DecidableEq, Repr

/-- What `validate_atom_invariants` asks of the parts that a created resource rests on. -/
def atomShape (effect : AtomEffect) (resourcePolicy : Option ResourcePolicy)
    (cleanupContract : Option CleanupContract) (reconcileContract : Option ReconcileContract) : Bool :=
  (effect ≠ .create || (resourcePolicy.any (fun p => p.ownership = .created) &&
    cleanupContract.isSome && reconcileContract.isSome)) &&
  resourcePolicy.all fun p => p.ownership ≠ .created || cleanupContract.isSome

structure DataAtomContract where
  effect : AtomEffect
  operation : ConnectorOperationRef
  maxAttempts : ℕ
  markerInput : Option String
  resourcePolicy : Option ResourcePolicy
  cleanupContract : Option CleanupContract
  reconcileContract : Option ReconcileContract
  attempts : 1 ≤ maxAttempts ∧ maxAttempts ≤ 6
  shape : atomShape effect resourcePolicy cleanupContract reconcileContract = true
deriving DecidableEq, Repr

structure DataAtomVersion where
  id : Uuid
  contract : DataAtomContract
  contentDigest : Digest
deriving DecidableEq, Repr

/-! Runs, nodes and attempts. -/

structure CompiledNode where
  nodeId : String
  atomVersionId : Uuid
  atomDigest : Digest
deriving DecidableEq, Repr

structure CompiledFixturePlan where
  nodes : List CompiledNode
  executionLevels : List (List String)
  cleanupOrder : List String
deriving DecidableEq, Repr

structure FixtureRun where
  id : Uuid
  projectId : Uuid
  runKind : FixtureRunKind
  compiledPlan : CompiledFixturePlan
  status : FixtureRunStatus
  cleanupState : FixtureCleanupState
  terminalIntent : Option FixtureRunTerminalIntent
  failure : Option FixtureFailure
  executionDeadline : Instant
  requestedAt : Instant
  cancelRequestedAt : Option Instant
  cancelRequestedBy : Option Uuid
  cleanupGeneration : ℕ
  startedAt : Option Instant
  readyAt : Option Instant
  finishedAt : Option Instant
  releasedAt : Option Instant
  revision : ℕ
  updatedAt : Instant
deriving DecidableEq, Repr

structure FixtureActorBinding where
  fixtureRunId : Uuid
  actorSlot : String
  accountLeaseId : Uuid
  fencingToken : ℕ
  connectorInstallationId : Uuid
deriving DecidableEq, Repr

/-- Port values. The runtime reads texts only; another JSON value is `none`. -/
abbrev PortValues := List (String × Option String)

/-- The text under a port, when there is one. -/
def textAt (values : PortValues) (port : String) : Option String := (values.lookup port).join

structure DataNodeRun where
  id : Uuid
  fixtureRunId : Uuid
  nodeId : String
  atomVersionId : Uuid
  actorSlot : String
  status : DataNodeRunStatus
  attemptCount : ℕ
  reconcileState : FixtureReconcileState
  reconcileAttemptCount : ℕ
  nextReconcileAt : Option Instant
  failure : Option FixtureFailure
  startedAt : Option Instant
  finishedAt : Option Instant
  revision : ℕ
  logicalIdempotencyKey : String
  inputs : Option PortValues
  outputs : Option PortValues
deriving DecidableEq, Repr

/-- One real connector invocation attempt. -/
structure DataNodeAttempt where
  id : Uuid
  dataNodeRunId : Uuid
  attemptNumber : ℕ
  status : DataNodeAttemptStatus
  failure : Option FixtureFailure
  providerRequestId : Option String
  startedAt : Instant
  finishedAt : Option Instant
deriving DecidableEq, Repr

structure DataNodeReconcileAttempt where
  id : Uuid
  dataNodeRunId : Uuid
  attemptNumber : ℕ
  status : DataNodeReconcileAttemptStatus
  failure : Option FixtureFailure
  providerRequestId : Option String
  startedAt : Instant
  finishedAt : Option Instant
deriving DecidableEq, Repr

/-! Resources. -/

structure ResourceRecord where
  id : Uuid
  fixtureRunId : Uuid
  dataNodeRunId : Uuid
  dataNodeAttemptId : Uuid
  connectorInstallationId : Uuid
  resourceHandle : String
  resourceType : String
  ownership : ResourceOwnership
  opaqueRef : String
  status : ResourceRecordStatus
  expiresAt : Instant
  cleanupOperationKey : Option String
  cleanupOperationVersion : Option String
  cleanupGeneration : ℕ
  nextCleanupAt : Option Instant
  createdAt : Instant
  cleanedAt : Option Instant
  revision : ℕ
deriving DecidableEq, Repr

structure ResourceDependency where
  childResourceId : Uuid
  parentResourceId : Uuid
deriving DecidableEq, Repr

structure ResourceCleanupAttempt where
  id : Uuid
  resourceRecordId : Uuid
  cleanupGeneration : ℕ
  status : ResourceCleanupAttemptStatus
  workerIdentity : String
  failure : Option FixtureFailure
  providerRequestId : Option String
  startedAt : Instant
  finishedAt : Option Instant
deriving DecidableEq, Repr

/-! Answers of activities. -/

structure FixtureNodeActivityResult where
  nodeId : String
  status : DataNodeRunStatus
  failureCategory : Option FixtureFailureCategory
  failureCode : Option String
deriving DecidableEq, Repr

def DataNodeRun.activityResult (node : DataNodeRun) : FixtureNodeActivityResult where
  nodeId := node.nodeId
  status := node.status
  failureCategory := node.failure.map FixtureFailure.category
  failureCode := node.failure.map FixtureFailure.code

structure FixtureOperationResult where
  outputs : PortValues
  providerRequestId : Option String
deriving DecidableEq, Repr

inductive FixtureReconcileDisposition
  | found | absent | inconclusive
deriving DecidableEq, Repr

end Atlas.Fixture
