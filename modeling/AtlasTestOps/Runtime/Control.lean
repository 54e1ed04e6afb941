import AtlasTestOps.Core.Contracts

/-! The live-control contracts of one UnitAttempt: the LiveSession, the leases of its
controllers, the commands that move it and the grants for single browser actions. -/

namespace Atlas.Runtime

open Atlas

inductive LiveControllerType
  | agent | human
deriving DecidableEq, Repr

inductive LiveSessionState
  | agentControlled | quiescing | paused | resumeRequested | humanControlled | reconciling
  | noController | closed
deriving DecidableEq, Repr

def LiveSessionState.value : LiveSessionState → String
  | .agentControlled => "AGENT_CONTROLLED"
  | .quiescing => "QUIESCING"
  | .paused => "PAUSED"
  | .resumeRequested => "RESUME_REQUESTED"
  | .humanControlled => "HUMAN_CONTROLLED"
  | .reconciling => "RECONCILING"
  | .noController => "NO_CONTROLLER"
  | .closed => "CLOSED"

inductive ControlLeaseState
  | active | revoking | expired | released
deriving DecidableEq, Repr

inductive LiveControlCommandType
  | pause | resume | takeover | return
deriving DecidableEq, Repr

def LiveControlCommandType.value : LiveControlCommandType → String
  | .pause => "PAUSE"
  | .resume => "RESUME"
  | .takeover => "TAKEOVER"
  | .return => "RETURN"

inductive LiveControlCommandStatus
  | pending | applied | rejected
deriving DecidableEq, Repr

inductive LiveActionGrantState
  | issued | consumed | completed | revoked
deriving DecidableEq, Repr

inductive LiveActionExecutionStatus
  | succeeded | failed | outcomeUnknown
deriving DecidableEq, Repr

structure LiveSession where
  id : Uuid
  projectId : Uuid
  browserSessionId : String
  state : LiveSessionState
  controlEpoch : ℕ
  fencingToken : ℕ
  browserRevision : ℕ
  humanInfluenced : Bool
  revision : ℕ
deriving DecidableEq, Repr

structure ControlLease where
  id : Uuid
  ownerType : LiveControllerType
  ownerId : String
  controlEpoch : ℕ
  fencingToken : ℕ
  state : ControlLeaseState
  expiresAt : Instant
deriving DecidableEq, Repr

/-- A lease of the one-current index. -/
def ControlLease.isCurrent (lease : ControlLease) : Bool :=
  lease.state = .active || lease.state = .revoking

structure LiveControlCommand where
  id : Uuid
  commandType : LiveControlCommandType
  clientMutationId : String
  reason : String
  requestedTtlSec : Option ℕ
  expectedControlEpoch : ℕ
  acceptedSessionRevision : ℕ
  status : LiveControlCommandStatus
  requestedBy : Option Uuid
  resultingControlEpoch : Option ℕ
  resultingFencingToken : Option ℕ
  checkpointDigest : Option Digest
deriving DecidableEq, Repr

structure LiveActionGrant where
  grantId : Uuid
  controlLeaseId : Uuid
  actionId : Uuid
  proposalDigest : Digest
  browserSessionId : String
  pageId : String
  pageRevision : ℕ
  controlEpoch : ℕ
  fencingToken : ℕ
  ownerType : LiveControllerType
  ownerId : String
  allowedAdapter : String
  expiresAt : Instant
  policyDigest : Digest
  state : LiveActionGrantState
  receiptId : Option Uuid
  executionStatus : Option LiveActionExecutionStatus
  resultingPageRevision : Option ℕ
deriving DecidableEq, Repr

structure LiveControlEvent where
  seq : ℕ
  eventType : String
  controlEpoch : ℕ
  fencingToken : ℕ
  occurredAt : Instant
deriving DecidableEq, Repr

/-! The requests. -/

structure RequestLiveControl where
  reason : String
  requestedTtlSec : Option ℕ
deriving DecidableEq, Repr

structure InitializeLiveSession where
  browserSessionId : String
  ownerId : String
  browserRevision : ℕ
  requestedTtlSec : ℕ
deriving DecidableEq, Repr

structure HeartbeatLiveControl where
  controlEpoch : ℕ
  fencingToken : ℕ
  requestedTtlSec : ℕ
deriving DecidableEq, Repr

structure AcknowledgeLiveControl where
  commandId : Uuid
  expectedControlEpoch : ℕ
  expectedFencingToken : ℕ
  browserRevision : ℕ
  checkpointDigest : Digest
  agentOwnerId : String
deriving DecidableEq, Repr

structure RequestLiveActionGrant where
  actionId : Uuid
  proposalDigest : Digest
  pageId : String
  pageRevision : ℕ
  controlEpoch : ℕ
  fencingToken : ℕ
  allowedAdapter : String
  policyDigest : Digest
  requestedTtlSec : ℕ
deriving DecidableEq, Repr

structure ConsumeLiveActionGrant where
  controlEpoch : ℕ
  fencingToken : ℕ
  proposalDigest : Digest
deriving DecidableEq, Repr

structure CompleteLiveActionGrant where
  controlEpoch : ℕ
  fencingToken : ℕ
  receiptId : Uuid
  executionStatus : LiveActionExecutionStatus
  resultingPageRevision : ℕ
deriving DecidableEq, Repr

/-! The triggers. -/

/-- The transition table of `guard_live_session_update`; a state may also stay. -/
def liveSessionMoves : LiveSessionState → List LiveSessionState
  | .agentControlled => [.quiescing, .noController, .closed]
  | .quiescing => [.paused, .humanControlled, .noController, .closed]
  | .paused => [.resumeRequested, .closed]
  | .noController => [.resumeRequested, .closed]
  | .resumeRequested => [.agentControlled, .noController, .closed]
  | .humanControlled => [.reconciling, .noController, .closed]
  | .reconciling => [.agentControlled, .noController, .closed]
  | .closed => []

/-- `guard_live_session_update` -/
def guardLiveSessionUpdate (old new : LiveSession) : Option String :=
  firstViolation [
    ((old.id, old.projectId, old.browserSessionId) ≠ (new.id, new.projectId, new.browserSessionId),
      "LiveSession immutable scope cannot change"),
    (old.state = .closed, "CLOSED LiveSession is immutable"),
    (new.revision ≠ old.revision + 1 ∨ new.browserRevision < old.browserRevision ∨
        (old.humanInfluenced = true ∧ new.humanInfluenced = false),
      "LiveSession revision, browser revision, or influence is invalid"),
    (¬ ((new.controlEpoch = old.controlEpoch ∧ new.fencingToken = old.fencingToken) ∨
        (new.controlEpoch = old.controlEpoch + 1 ∧ new.fencingToken = old.fencingToken + 1)),
      "LiveSession epoch and fence must advance together by one"),
    (¬ (new.state = old.state ∨ new.state ∈ liveSessionMoves old.state),
      "LiveSession state transition is invalid")]

/-- `guard_control_lease_update` -/
def guardControlLeaseUpdate (old new : ControlLease) : Option String :=
  firstViolation [
    ((old.id, old.ownerType, old.ownerId, old.controlEpoch, old.fencingToken) ≠
        (new.id, new.ownerType, new.ownerId, new.controlEpoch, new.fencingToken),
      "ControlLease immutable authority cannot change"),
    (old.state = .active ∧ new.state = .active ∧ new.expiresAt ≤ old.expiresAt,
      "ControlLease heartbeat must only extend expiry"),
    (¬ (old.state = .active ∧ new.state = .active) ∧
        ¬ ((old.state = .active ∧ new.state ∈ [.revoking, .expired, .released]) ∨
          (old.state = .revoking ∧ new.state ∈ [.expired, .released])),
      "ControlLease transition is invalid"),
    (¬ (old.state = .active ∧ new.state = .active) ∧ new.expiresAt ≠ old.expiresAt,
      "ControlLease transition cannot change expiry")]

/-- `guard_live_control_command_update` -/
def guardLiveControlCommandUpdate (old new : LiveControlCommand) : Option String :=
  firstViolation [
    ({ new with status := old.status, resultingControlEpoch := old.resultingControlEpoch
                resultingFencingToken := old.resultingFencingToken
                checkpointDigest := old.checkpointDigest } ≠ old ∨
        old.status ≠ .pending ∨ (new.status ≠ .applied ∧ new.status ≠ .rejected),
      "LiveControlCommand transition is invalid")]

/-- `guard_live_action_grant_update` -/
def guardLiveActionGrantUpdate (old new : LiveActionGrant) : Option String :=
  firstViolation [
    ({ new with state := old.state, receiptId := old.receiptId
                executionStatus := old.executionStatus
                resultingPageRevision := old.resultingPageRevision } ≠ old ∨
        ¬ ((old.state = .issued ∧ new.state ∈ [.consumed, .revoked]) ∨
          (old.state = .consumed ∧ new.state = .completed)),
      "LiveActionGrant transition is invalid")]

end Atlas.Runtime
