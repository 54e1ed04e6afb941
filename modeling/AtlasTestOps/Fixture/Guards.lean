import AtlasTestOps.Fixture.Models

/-! The update triggers of the fixture tables: the columns that never change, and which
state may follow which. -/

namespace Atlas.Fixture

open Atlas

def FixtureRunStatus.mayBecome : FixtureRunStatus → List FixtureRunStatus
  | .requested => [.requested, .running, .cleaning, .failed, .canceled]
  | .running => [.running, .ready, .cleaning, .failed, .canceled]
  | .ready => [.ready, .cleaning]
  | .cleaning => [.cleaning, .released, .failed, .canceled, .cleanupFailed]
  | .cleanupFailed => [.cleanupFailed, .cleaning, .released]
  | .failed => [.failed, .cleaning]
  | .canceled => [.canceled, .cleaning]
  | .released => []

def FixtureCleanupState.mayBecome : FixtureCleanupState → List FixtureCleanupState
  | .notRequired => [.notRequired]
  | .pending => [.pending, .running, .cleaned, .leaked]
  | .running => [.pending, .running, .cleaned, .leaked]
  | .leaked => [.leaked, .pending, .running, .cleaned]
  | .cleaned => [.cleaned]

def DataNodeRunStatus.mayBecome : DataNodeRunStatus → List DataNodeRunStatus
  | .pending => [.pending, .ready, .running, .failed]
  | .ready => [.ready, .running, .failed]
  | .running => [.running, .verifying, .failed, .outcomeUncertain]
  | .verifying => [.verifying, .succeeded, .failed, .outcomeUncertain]
  | .outcomeUncertain => [.outcomeUncertain, .ready, .verifying, .failed]
  | .succeeded => []
  | .failed => []

def FixtureReconcileState.mayBecome : FixtureReconcileState → List FixtureReconcileState
  | .notRequired => [.notRequired, .pending]
  | .pending => [.pending, .running, .inconclusive, .absent, .exhausted]
  | .inconclusive => [.pending, .running, .inconclusive, .absent, .exhausted]
  | .absent => [.pending, .running, .inconclusive, .absent, .exhausted]
  | .running => [.running, .found, .absent, .inconclusive, .exhausted]
  | .found => [.found]
  | .exhausted => [.exhausted]

def ResourceRecordStatus.mayBecome : ResourceRecordStatus → List ResourceRecordStatus
  | .active => [.active, .cleanupPending, .orphanSuspected]
  | .cleanupPending => [.cleanupPending, .cleaning, .blockedByChild, .leaked]
  | .cleaning => [.cleaning, .cleanupPending, .cleaned, .leaked]
  | .blockedByChild => [.blockedByChild, .cleanupPending, .leaked]
  | .leaked => [.leaked, .cleanupPending, .cleaning]
  | .orphanSuspected => [.orphanSuspected, .cleanupPending, .cleaning, .leaked]
  | .cleaned => []

/-- A counter that a row carries from update to update. -/
def stepsBackOrJumps (old new : ℕ) : Bool := new < old || old + 1 < new

/-! The columns that no update writes. -/

def FixtureRun.scope (run : FixtureRun) :
    Uuid × Uuid × FixtureRunKind × CompiledFixturePlan × Instant × Instant :=
  (run.id, run.projectId, run.runKind, run.compiledPlan, run.executionDeadline, run.requestedAt)

def DataNodeRun.identity (node : DataNodeRun) : Uuid × Uuid × String × Uuid × String × String :=
  (node.id, node.fixtureRunId, node.nodeId, node.atomVersionId, node.actorSlot,
    node.logicalIdempotencyKey)

def ResourceRecord.identity (resource : ResourceRecord) :
    Uuid × Uuid × Uuid × Uuid × Uuid × String :=
  (resource.id, resource.fixtureRunId, resource.dataNodeRunId, resource.dataNodeAttemptId,
    resource.connectorInstallationId, resource.resourceHandle)

def ResourceRecord.locator (resource : ResourceRecord) :
    String × ResourceOwnership × String × Instant × Instant :=
  (resource.resourceType, resource.ownership, resource.opaqueRef, resource.expiresAt,
    resource.createdAt)

def ResourceRecord.cleanupOperation (resource : ResourceRecord) : Option String × Option String :=
  (resource.cleanupOperationKey, resource.cleanupOperationVersion)

def guardFixtureRunUpdate (old new : FixtureRun) : Option String :=
  firstViolation
    [(decide (new.scope ≠ old.scope), "fixture run scope and frozen inputs are immutable"),
    (decide (old.cancelRequestedAt.isSome ∧ (new.cancelRequestedAt, new.cancelRequestedBy) ≠
        (old.cancelRequestedAt, old.cancelRequestedBy)),
      "fixture cancellation request is immutable"),
    (decide (old.terminalIntent.isSome ∧ new.terminalIntent ≠ old.terminalIntent),
      "fixture terminal intent is immutable"),
    (decide (new.status ∉ old.status.mayBecome), "invalid fixture run lifecycle transition"),
    (decide (old.status = .released), "released fixture run is immutable"),
    (decide (new.cleanupState ∉ old.cleanupState.mayBecome),
      "invalid fixture cleanup state transition"),
    (stepsBackOrJumps old.cleanupGeneration new.cleanupGeneration,
      "fixture cleanup generation must increase monotonically"),
    (decide (new.revision ≠ old.revision + 1), "fixture run revision must increase by one")]

def guardDataNodeRunUpdate (old new : DataNodeRun) : Option String :=
  firstViolation
    [(decide (new.identity ≠ old.identity), "data node run identity is immutable"),
    (decide (old.status = .succeeded ∨ old.status = .failed),
      "terminal data node run is immutable"),
    (decide (new.status ∉ old.status.mayBecome), "invalid data node run lifecycle transition"),
    (decide (new.reconcileState ∉ old.reconcileState.mayBecome),
      "invalid data node reconcile transition"),
    (stepsBackOrJumps old.attemptCount new.attemptCount,
      "data node attempt count must increase monotonically"),
    (stepsBackOrJumps old.reconcileAttemptCount new.reconcileAttemptCount,
      "reconcile attempt count must increase monotonically"),
    (decide (new.revision ≠ old.revision + 1), "data node run revision must increase by one")]

def guardResourceRecordUpdate (old new : ResourceRecord) : Option String :=
  firstViolation
    [(decide (new.identity ≠ old.identity ∨ new.locator ≠ old.locator ∨
        new.cleanupOperation ≠ old.cleanupOperation),
      "resource record identity and locator are immutable"),
    (decide (old.status = .cleaned), "cleaned resource record is immutable"),
    (decide (new.status ∉ old.status.mayBecome), "invalid resource record lifecycle transition"),
    (stepsBackOrJumps old.cleanupGeneration new.cleanupGeneration,
      "resource cleanup generation must increase monotonically"),
    (decide (new.revision ≠ old.revision + 1), "resource record revision must increase by one")]

end Atlas.Fixture
