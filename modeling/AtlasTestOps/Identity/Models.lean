import AtlasTestOps.Core.Contracts

/-! The identity contracts that account leases rest on: pools of accounts with slots and
credentials, and the lease itself with its fencing token. -/

namespace Atlas.Identity

open Atlas

inductive EnabledStatus
  | active | disabled
deriving DecidableEq, Repr

inductive EnvironmentKind
  | production | nonProduction
deriving DecidableEq, Repr

structure Environment where
  id : Uuid
  projectId : Uuid
  kind : EnvironmentKind
  status : EnabledStatus
deriving DecidableEq, Repr

structure TestRole where
  id : Uuid
  projectId : Uuid
  roleKey : String
  capabilities : List String
  status : EnabledStatus
deriving DecidableEq, Repr

structure AccountPool where
  id : Uuid
  roleId : Uuid
  environmentId : Uuid
  status : EnabledStatus
  exclusive : Bool
  defaultTtlSeconds : ℕ
  cooldownSeconds : ℕ
deriving DecidableEq, Repr

structure ConnectorInstallation where
  id : Uuid
  environmentId : Uuid
  status : EnabledStatus
deriving DecidableEq, Repr

inductive AccountLifecycle
  | draft | provisioning | active | suspended | retiring | retired
deriving DecidableEq, Repr

inductive AccountHealth
  | unknown | healthy | degraded | quarantined
deriving DecidableEq, Repr

inductive AccountOperational
  | verifying | ready | cooldown | cleanupFailed
deriving DecidableEq, Repr

inductive AccountSync
  | notApplicable | inSync | conflict | tombstoned
deriving DecidableEq, Repr

structure TestAccount where
  id : Uuid
  environmentId : Uuid
  poolId : Uuid
  connectorInstallationId : Uuid
  lifecycleStatus : AccountLifecycle
  healthStatus : AccountHealth
  operationalStatus : AccountOperational
  syncStatus : AccountSync
  cooldownUntil : Option Instant
  leaseEpoch : ℕ
  labels : List (String × String)
  lastLeasedAt : Option Instant
  revision : ℕ
deriving DecidableEq, Repr

structure AccountSlot where
  id : Uuid
  accountId : Uuid
  slotIndex : ℕ
  status : EnabledStatus
deriving DecidableEq, Repr

inductive CredentialStatus
  | active | expired | revoked
deriving DecidableEq, Repr

structure CredentialBinding where
  accountId : Uuid
  authMethod : String
  status : CredentialStatus
  expiresAt : Option Instant
deriving DecidableEq, Repr

inductive AccountLeaseStatus
  | active | released | expired | revoked
deriving DecidableEq, Repr

inductive LeaseReleaseReason
  | completed | cancelled | workerShutdown | authFailed | cleanupFailed | manual | ttlExpired
  | accountQuarantined | accountSuspended | accountRetired | poolDisabled | roleDisabled
  | environmentDisabled | connectorDisabled | connectorRebound
deriving DecidableEq, Repr

structure AccountLease where
  id : Uuid
  projectId : Uuid
  environmentId : Uuid
  poolId : Uuid
  accountId : Uuid
  slotId : Uuid
  executionId : String
  workerId : String
  accountHandle : String
  fencingToken : ℕ
  ttlSeconds : ℕ
  status : AccountLeaseStatus
  acquiredAt : Instant
  heartbeatAt : Instant
  expiresAt : Instant
  maxExpiresAt : Instant
  releasedAt : Option Instant
  releaseReason : Option LeaseReleaseReason
  revision : ℕ
deriving DecidableEq, Repr

structure LeaseRequirements where
  tags : List (String × String)
  authMethods : List String
  capabilities : List String
deriving DecidableEq, Repr

structure AcquireAccountLease where
  executionId : String
  workerId : String
  environmentId : Uuid
  roleKey : String
  requirements : LeaseRequirements
  ttlSeconds : Option ℕ
  executionDeadline : Instant
deriving DecidableEq, Repr

structure HeartbeatAccountLease where
  fencingToken : ℕ
  ttlSeconds : Option ℕ
deriving DecidableEq, Repr

structure ReleaseAccountLease where
  fencingToken : ℕ
  reason : LeaseReleaseReason
deriving DecidableEq, Repr

/-- What a Worker sees of a lease. -/
structure AccountLeaseHandle where
  leaseId : Uuid
  accountHandle : String
  fencingToken : ℕ
  status : AccountLeaseStatus
  heartbeatAfterSeconds : ℕ
  expiresAt : Instant
deriving DecidableEq, Repr

def AccountLease.toHandle (lease : AccountLease) : AccountLeaseHandle where
  leaseId := lease.id
  accountHandle := lease.accountHandle
  fencingToken := lease.fencingToken
  status := lease.status
  heartbeatAfterSeconds := max 60 (lease.ttlSeconds / 3)
  expiresAt := lease.expiresAt

def leaseIsExpired (lease : AccountLease) (now : Instant) : Bool :=
  lease.status = .active && (lease.expiresAt ≤ now || lease.maxExpiresAt ≤ now)

def leaseFenceMatches (lease : AccountLease) (token accountEpoch : ℕ) : Bool :=
  lease.fencingToken = token && token = accountEpoch

end Atlas.Identity
