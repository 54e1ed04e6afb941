import AtlasTestOps.Lib.Table
import AtlasTestOps.Lib.Transaction
import AtlasTestOps.Identity.Models

/-! `LeaseRepository`: the account and lease rows and the statements on them. A row that
a statement locks stays locked to the end of its transaction, so a transaction runs alone
on the rows it reads for update. -/

namespace Atlas.Store

open Atlas Atlas.Identity Txn

/-- A row of the idempotency table for an acquire request. -/
structure AcquireReservation where
  key : String × String
  requestHash : Digest
  expiresAt : Instant
  response : Option AccountLeaseHandle
deriving DecidableEq, Repr

structure LeaseDb where
  environments : List Environment
  roles : List TestRole
  pools : List AccountPool
  connectors : List ConnectorInstallation
  credentials : List CredentialBinding
  slots : List AccountSlot
  accounts : List TestAccount
  leases : List AccountLease
  idempotency : List AcquireReservation
  nextId : Uuid
deriving DecidableEq, Repr

abbrev LeaseOp (α : Type) := Tx LeaseDb Fault α

inductive LeaseMutationKind
  | authorized | updated | terminal | expired | fenced | notFound
deriving DecidableEq, Repr

structure LeaseMutationResult where
  kind : LeaseMutationKind
  lease : Option AccountLease
deriving DecidableEq, Repr

namespace LeaseDb

variable (db : LeaseDb)

def getLease (id : Uuid) : Option AccountLease := db.leases.find? fun l => l.id = id

def getAccount (id : Uuid) : Option TestAccount := db.accounts.find? fun a => a.id = id

/-- `_get_account_epoch`, with no epoch for a missing account. -/
def accountEpoch (id : Uuid) : Option ℕ := (db.getAccount id).map TestAccount.leaseEpoch

def getRoleByKey (projectId : Uuid) (roleKey : String) : Option TestRole :=
  db.roles.find? fun r => r.projectId = projectId ∧ r.roleKey = roleKey

def slotLeased (slotId : Uuid) : Bool :=
  db.leases.any fun l => l.slotId = slotId && l.status = .active

/-- `update account_lease … where id = %s and status = 'ACTIVE'` -/
def modifyActiveLease (id : Uuid) (f : AccountLease → AccountLease) : LeaseDb :=
  { db with leases := db.leases.map fun l => if l.id = id ∧ l.status = .active then f l else l }

/-- `update test_account … where id = %s and lease_epoch = %s` -/
def modifyAccountAt (id : Uuid) (epoch : ℕ) (f : TestAccount → TestAccount) : LeaseDb :=
  { db with accounts := db.accounts.map fun a =>
      if a.id = id ∧ a.leaseEpoch = epoch then f a else a }

end LeaseDb

/-- `new_entity_id` -/
def newLeaseId : LeaseOp Uuid := do
  let id ← read LeaseDb.nextId
  update fun db => { db with nextId := id + 1 }
  pure id

/-! The account follows its lease as long as no newer lease has raised the epoch. -/

def markAccountForReverification (lease : AccountLease) : LeaseOp Unit :=
  update fun db => db.modifyAccountAt lease.accountId lease.fencingToken fun a =>
    { a with healthStatus := .degraded, operationalStatus := .verifying, cooldownUntil := none
             revision := a.revision + 1 }

def applyReleaseAccountState (lease : AccountLease) (reason : LeaseReleaseReason) (now : Instant) :
    LeaseOp Unit := do
  if reason = .cleanupFailed then
    update fun db => db.modifyAccountAt lease.accountId lease.fencingToken fun a =>
      { a with healthStatus := .quarantined, operationalStatus := .cleanupFailed
               cooldownUntil := none, revision := a.revision + 1 }
  else do
    let pool ← read fun db => db.pools.find? fun p => p.id = lease.poolId
    let cooldownSeconds := (pool.map AccountPool.cooldownSeconds).getD 0
    if 0 < cooldownSeconds then
      update fun db => db.modifyAccountAt lease.accountId lease.fencingToken fun a =>
        { a with operationalStatus := .cooldown, cooldownUntil := some (now + seconds cooldownSeconds)
                 revision := a.revision + 1 }
    else
      update fun db => db.modifyAccountAt lease.accountId lease.fencingToken fun a =>
        { a with operationalStatus := .ready, cooldownUntil := none, revision := a.revision + 1 }

/-- The columns that every terminal update of a lease writes. -/
def endLease (status : AccountLeaseStatus) (reason : LeaseReleaseReason) (now : Instant)
    (lease : AccountLease) : AccountLease :=
  { lease with status := status, releasedAt := some now, releaseReason := some reason
               revision := lease.revision + 1 }

def expireLocked (lease : AccountLease) (now : Instant) : LeaseOp AccountLease := do
  update fun db => db.modifyActiveLease lease.id (endLease .expired .ttlExpired now)
  let expired := endLease .expired .ttlExpired now lease
  markAccountForReverification expired
  pure expired

/-- The checks that heartbeat, release and sensitive use share. The continuation runs on
an ACTIVE lease whose token is the latest epoch of its account. -/
def withCurrentLease (leaseId : Uuid) (fencingToken : ℕ) (now : Instant)
    (use : AccountLease → LeaseOp LeaseMutationResult) : LeaseOp LeaseMutationResult := do
  match ← read (·.getLease leaseId) with
  | none => pure ⟨.notFound, none⟩
  | some lease =>
    if lease.fencingToken ≠ fencingToken then
      pure ⟨.fenced, some lease⟩
    else if lease.status ≠ .active then
      pure ⟨.terminal, some lease⟩
    else if leaseIsExpired lease now then do
      let expired ← expireLocked lease now
      pure ⟨.expired, some expired⟩
    else do
      let epoch ← read (·.accountEpoch lease.accountId)
      if !epoch.any fun e => leaseFenceMatches lease fencingToken e then
        pure ⟨.fenced, some lease⟩
      else
        use lease

def authorizeSensitiveUse (leaseId : Uuid) (fencingToken : ℕ) (now : Instant) :
    LeaseOp LeaseMutationResult :=
  withCurrentLease leaseId fencingToken now fun lease => pure ⟨.authorized, some lease⟩

def extendLease (now expiresAt : Instant) (lease : AccountLease) : AccountLease :=
  { lease with heartbeatAt := now, expiresAt := expiresAt, revision := lease.revision + 1 }

def heartbeat (leaseId : Uuid) (command : HeartbeatAccountLease) (now : Instant) :
    LeaseOp LeaseMutationResult :=
  withCurrentLease leaseId command.fencingToken now fun lease => do
    let ttlSeconds := command.ttlSeconds.getD lease.ttlSeconds
    let expiresAt := min (now + seconds ttlSeconds) lease.maxExpiresAt
    if expiresAt ≤ now then do
      let expired ← expireLocked lease now
      pure ⟨.expired, some expired⟩
    else do
      update fun db => db.modifyActiveLease lease.id (extendLease now expiresAt)
      pure ⟨.updated, some (extendLease now expiresAt lease)⟩

def release (leaseId : Uuid) (command : ReleaseAccountLease) (now : Instant) :
    LeaseOp LeaseMutationResult :=
  withCurrentLease leaseId command.fencingToken now fun lease => do
    update fun db => db.modifyActiveLease lease.id (endLease .released command.reason now)
    let released := endLease .released command.reason now lease
    applyReleaseAccountState released command.reason now
    pure ⟨.updated, some released⟩

def restoreElapsedCooldowns (now : Instant) (environmentId : Option Uuid) : LeaseOp Unit :=
  update fun db => { db with accounts := db.accounts.map fun a =>
    if a.operationalStatus = .cooldown ∧ a.cooldownUntil.any (fun t => t ≤ now) ∧
        a.lifecycleStatus = .active ∧ a.healthStatus = .healthy ∧
        a.syncStatus ∉ [.conflict, .tombstoned] ∧ environmentId.all (fun e => a.environmentId = e) then
      { a with operationalStatus := .ready, cooldownUntil := none, revision := a.revision + 1 }
    else a }

/-- End each of the leases and let its account follow. -/
def endEach (finish : AccountLease → LeaseOp Unit) : List AccountLease → LeaseOp Unit
  | [] => pure ()
  | lease :: leases => do
    finish lease
    endEach finish leases

def reapExpired (now : Instant) (limit : ℕ) (environmentId : Option Uuid) :
    LeaseOp (List AccountLease) := do
  let due ← read fun db => db.leases.filter fun l =>
    leaseIsExpired l now && environmentId.all (fun e => l.environmentId = e)
  let candidates :=
    (due.insertionSort fun a b =>
      a.expiresAt < b.expiresAt ∨ (a.expiresAt = b.expiresAt ∧ a.id ≤ b.id)).take limit
  endEach (fun lease => do
    let _ ← expireLocked lease now) candidates
  pure (candidates.map (endLease .expired .ttlExpired now))

/-- The one scope that a revocation names. -/
inductive RevocationScope
  | account (id : Uuid)
  | pool (id : Uuid)
  | role (id : Uuid)
  | environment (id : Uuid)
  | connectorInstallation (id : Uuid)
deriving DecidableEq, Repr

def RevocationScope.covers (scope : RevocationScope) (db : LeaseDb) (lease : AccountLease) : Bool :=
  match scope with
  | .account id => lease.accountId = id
  | .pool id => lease.poolId = id
  | .role id => db.pools.any fun p => p.roleId = id && lease.poolId = p.id
  | .environment id => lease.environmentId = id
  | .connectorInstallation id =>
    db.accounts.any fun a => a.connectorInstallationId = id && lease.accountId = a.id

def revokeActive (scope : RevocationScope) (reason : LeaseReleaseReason) (now : Instant) :
    LeaseOp (List AccountLease) := do
  let active ← read fun db =>
    (db.leases.filter fun l => l.status = .active && scope.covers db l).insertionSort fun a b =>
      a.id ≤ b.id
  endEach (fun lease => do
    update fun db => db.modifyActiveLease lease.id (endLease .revoked reason now)
    update fun db => db.modifyAccountAt lease.accountId lease.fencingToken fun a =>
      { a with leaseEpoch := a.leaseEpoch + 1, operationalStatus := .verifying
               cooldownUntil := none, revision := a.revision + 1 }) active
  pure (active.map (endLease .revoked reason now))

/-! Acquire. -/

/-- An active credential of the account that has not run out. -/
def LeaseDb.usableCredential (db : LeaseDb) (accountId : Uuid) (now : Instant)
    (wanted : CredentialBinding → Bool) : Bool :=
  db.credentials.any fun c => c.accountId = accountId && c.status = .active &&
    c.expiresAt.all (fun t => now < t) && wanted c

/-- The `where` clause of the candidate query. -/
def LeaseDb.eligible (db : LeaseDb) (command : AcquireAccountLease) (role : TestRole)
    (now : Instant) (slot : AccountSlot) (account : TestAccount) (pool : AccountPool) : Bool :=
  slot.accountId = account.id && pool.id = account.poolId && pool.roleId = role.id &&
  pool.environmentId = command.environmentId &&
  db.environments.any (fun e => e.id = command.environmentId && e.status = .active) &&
  db.roles.any (fun r => r.id = role.id && r.status = .active) &&
  pool.status = .active && pool.exclusive &&
  db.connectors.any (fun c => c.id = account.connectorInstallationId && c.status = .active) &&
  slot.status = .active && account.lifecycleStatus = .active && account.healthStatus = .healthy &&
  account.operationalStatus = .ready && account.syncStatus ∉ [.conflict, .tombstoned] &&
  account.cooldownUntil.all (fun t => t ≤ now) &&
  command.requirements.tags.all (fun tag => tag ∈ account.labels) &&
  db.usableCredential account.id now (fun _ => true) &&
  command.requirements.authMethods.all (fun method =>
    db.usableCredential account.id now fun c => c.authMethod = method) &&
  !db.slotLeased slot.id

/-- `order by last_leased_at nulls first, account id, slot_index` -/
def candidateBefore (x y : AccountSlot × TestAccount × AccountPool) : Bool :=
  let key := fun t : TestAccount => (t.lastLeasedAt.map (· + 1)).getD 0
  decide (key x.2.1 < key y.2.1 ∨ (key x.2.1 = key y.2.1 ∧
    (x.2.1.id < y.2.1.id ∨ (x.2.1.id = y.2.1.id ∧ x.1.slotIndex ≤ y.1.slotIndex))))

def LeaseDb.candidates (db : LeaseDb) (command : AcquireAccountLease) (role : TestRole)
    (now : Instant) : List (AccountSlot × TestAccount × AccountPool) :=
  let rows := db.slots.flatMap fun s => db.accounts.flatMap fun a => db.pools.map fun p => (s, a, p)
  (rows.filter fun row => db.eligible command role now row.1 row.2.1 row.2.2).insertionSort
    fun x y => candidateBefore x y

def raiseEpoch (now : Instant) (account : TestAccount) : TestAccount :=
  { account with leaseEpoch := account.leaseEpoch + 1, lastLeasedAt := some now
                 revision := account.revision + 1 }

def acquire (leaseId : Uuid) (accountHandle : String) (role : TestRole)
    (command : AcquireAccountLease) (now : Instant) : LeaseOp (Option AccountLease) := do
  let connected ← read fun db => db.connectors.any fun c =>
    c.environmentId = command.environmentId && c.status = .active
  let candidates ← read fun db => db.candidates command role now
  match candidates with
  | [] => pure none
  | (slot, account, pool) :: _ =>
    if !connected then
      pure none
    else do
      let leased ← read (·.slotLeased slot.id)
      if leased then
        pure none
      else do
        let ttlSeconds := command.ttlSeconds.getD pool.defaultTtlSeconds
        let lease : AccountLease :=
          { id := leaseId, projectId := role.projectId, environmentId := command.environmentId
            poolId := account.poolId, accountId := account.id, slotId := slot.id
            executionId := command.executionId, workerId := command.workerId
            accountHandle := accountHandle, fencingToken := account.leaseEpoch + 1
            ttlSeconds := ttlSeconds, status := .active, acquiredAt := now, heartbeatAt := now
            expiresAt := min (now + seconds ttlSeconds) command.executionDeadline
            maxExpiresAt := command.executionDeadline, releasedAt := none, releaseReason := none
            revision := 1 }
        update fun db =>
          { db with accounts := Table.modify TestAccount.id account.id (raiseEpoch now) db.accounts }
        let taken ← read fun db => db.leases.any fun l => l.id = leaseId
        raiseIf taken (.constraint "account_lease_pkey")
        update fun db => { db with leases := db.leases ++ [lease] }
        pure (some lease)

end Atlas.Store
