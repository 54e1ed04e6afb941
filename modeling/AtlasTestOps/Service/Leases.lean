import AtlasTestOps.Core.Access
import AtlasTestOps.Store.Leases

/-! `LeaseService`: permission, idempotency and the transaction around each lease command,
and the runs of the leases of one tenant under any clients. A transaction that ends with a
lease it had to expire commits before the error is raised. -/

namespace Atlas.Service

open Atlas Atlas.Identity Atlas.Store Txn

def leaseConflict (detail : String) : Fault := .application "CONFLICT" detail

def leaseNotFound (detail : String) : Fault := .application "NOT_FOUND" detail

def leaseForbidden (detail : String) : Fault := .application "FORBIDDEN" detail

def constraintUnsatisfied (detail : String) : Fault :=
  .application "CONSTRAINT_UNSATISFIED" detail

def leaseFenced : Fault :=
  .application "LEASE_FENCED" "leaseId 或 fencingToken 不是账号当前可接受的活动租约。"

def leaseIdempotencyTtl : ℕ := seconds (24 * 3600)

/-- `reserve`: the cached response, or none when the request may be handled now. -/
def reserveAcquire (key : String × String) (requestHash : Digest) (now : Instant) :
    LeaseOp (Option AccountLeaseHandle) := do
  update fun db =>
    { db with idempotency := db.idempotency.filter fun r => ¬ (r.key = key ∧ r.expiresAt ≤ now) }
  match ← read fun db => db.idempotency.find? fun r => r.key = key with
  | none => do
    update fun db => { db with idempotency :=
      db.idempotency ++ [⟨key, requestHash, now + leaseIdempotencyTtl, none⟩] }
    pure none
  | some record => do
    raiseIf (record.requestHash ≠ requestHash)
      (leaseConflict "同一个 Idempotency-Key 已用于不同请求。")
    let response ← demand record.response
      (leaseConflict "同一个 Idempotency-Key 对应的命令尚未完成。")
    pure (some response)

def completeAcquire (key : String × String) (response : AccountLeaseHandle) : LeaseOp Unit :=
  update fun db => { db with idempotency := db.idempotency.map fun r =>
    if r.key = key then { r with response := some response } else r }

def cancelAcquire (key : String × String) : LeaseOp Unit :=
  update fun db => { db with idempotency := db.idempotency.filter fun r => r.key ≠ key }

/-- The Environment the actor may operate leases in. -/
def requireEnvironment (actor : ActorContext) (environmentId : Uuid) : LeaseOp Environment := do
  let found ← read fun db => db.environments.find? fun e => e.id = environmentId
  let environment ← demand found (leaseNotFound "Environment 或目标 TestRole 不存在。")
  raiseIf (!actor.canReadProject environment.projectId)
    (leaseNotFound "Environment 或目标 TestRole 不存在。")
  raiseIf (!actor.canOperateProject environment.projectId)
    (leaseForbidden "当前 PlatformRole 不能操作该 Project 的测试账号租约。")
  raiseIf (environment.status ≠ .active)
    (constraintUnsatisfied "Environment 已禁用，不能申请新租约。")
  pure environment

/-- The transaction of an acquire request; none when no slot is free, and the caller raises once it is
committed. -/
def acquireLease (actor : ActorContext) (command : AcquireAccountLease) (idempotencyKey : String)
    (requestHash : Digest) (now : Instant) : LeaseOp (Option (AccountLeaseHandle × Bool)) := do
  raiseIf (command.executionDeadline ≤ now)
    (.application "INVALID_REQUEST" "executionDeadline 必须晚于服务端当前时间。")
  let environment ← requireEnvironment actor command.environmentId
  let key := (command.executionId, idempotencyKey)
  let cached ← reserveAcquire key requestHash now
  match cached with
  | some handle => pure (some (handle, true))
  | none => do
    raiseIf (environment.kind = .production)
      (leaseForbidden "生产 Environment 需要独立策略、审批和网络允许列表。")
    let found ← read (·.getRoleByKey environment.projectId command.roleKey)
    let role ← demand found (constraintUnsatisfied "当前 Project 没有可调度的目标 TestRole。")
    raiseIf (role.status ≠ .active)
      (constraintUnsatisfied "当前 Project 没有可调度的目标 TestRole。")
    raiseIf (!command.requirements.capabilities.all (· ∈ role.capabilities))
      (constraintUnsatisfied "TestRole 不满足请求的全部 capability。")
    restoreElapsedCooldowns now (some environment.id)
    let _ ← reapExpired now 100 (some environment.id)
    let leaseId ← newLeaseId
    let handleId ← newLeaseId
    let lease ← acquire leaseId s!"ah_{handleId}" role command now
    match lease with
    | none => do
      cancelAcquire key
      pure none
    | some lease => do
      completeAcquire key lease.toHandle
      pure (some (lease.toHandle, false))

def requireLeaseAccess (actor : ActorContext) (leaseId : Uuid) : LeaseOp Unit := do
  let found ← read (·.getLease leaseId)
  let lease ← demand found (leaseNotFound "AccountLease 不存在。")
  raiseIf (!actor.canOperateProject lease.projectId) (leaseNotFound "AccountLease 不存在。")

def heartbeatLease (actor : ActorContext) (leaseId : Uuid) (command : HeartbeatAccountLease)
    (now : Instant) : LeaseOp LeaseMutationResult := do
  requireLeaseAccess actor leaseId
  let outcome ← heartbeat leaseId command now
  raiseIf (outcome.kind = .fenced ∨ outcome.kind = .terminal) leaseFenced
  raiseIf (outcome.kind = .notFound) (leaseNotFound "AccountLease 不存在。")
  pure outcome

/-- A terminal lease is replayed when it was released, and reported when it expired. -/
def releaseLease (actor : ActorContext) (leaseId : Uuid) (command : ReleaseAccountLease)
    (now : Instant) : LeaseOp LeaseMutationResult := do
  requireLeaseAccess actor leaseId
  let outcome ← release leaseId command now
  raiseIf (outcome.kind = .terminal ∧
    outcome.lease.all (fun l => l.status ≠ .released ∧ l.status ≠ .expired)) leaseFenced
  raiseIf (outcome.kind = .fenced) leaseFenced
  raiseIf (outcome.kind = .notFound) (leaseNotFound "AccountLease 不存在。")
  pure outcome

def reapLeases (actor : ActorContext) (limit : ℕ) (now : Instant) :
    LeaseOp (List AccountLease) := do
  raiseIf (!actor.isOrganizationAdmin)
    (leaseForbidden "只有组织管理员或内部 Reconciler 可以执行租约回收。")
  restoreElapsedCooldowns now none
  reapExpired now limit none

/-! Runs. -/

/-- What the rest of the platform may do between two lease commands: administer roles,
pools, slots, credentials and the state of accounts, but no lease and no epoch. -/
structure Administered (db db' : LeaseDb) : Prop where
  leases : db'.leases = db.leases
  nextId : db'.nextId = db.nextId
  accounts : List.Forall₂ (fun a b => b.id = a.id ∧ b.leaseEpoch = a.leaseEpoch) db.accounts db'.accounts

/-- One command of any client, at any reading of its clock, or one change around the leases. -/
inductive LeaseStep : LeaseDb → LeaseDb → Prop
  | acquire (db : LeaseDb) (actor : ActorContext) (command : AcquireAccountLease)
      (key : String) (requestHash : Digest) (now : Instant) :
      LeaseStep db (after (acquireLease actor command key requestHash now) db)
  | heartbeat (db : LeaseDb) (actor : ActorContext) (leaseId : Uuid)
      (command : HeartbeatAccountLease) (now : Instant) :
      LeaseStep db (after (heartbeatLease actor leaseId command now) db)
  | release (db : LeaseDb) (actor : ActorContext) (leaseId : Uuid)
      (command : ReleaseAccountLease) (now : Instant) :
      LeaseStep db (after (releaseLease actor leaseId command now) db)
  | releaseBound (db : LeaseDb) (leaseId : Uuid) (command : ReleaseAccountLease) (now : Instant) :
      LeaseStep db (after (Store.release leaseId command now) db)
  | reap (db : LeaseDb) (actor : ActorContext) (limit : ℕ) (now : Instant) :
      LeaseStep db (after (reapLeases actor limit now) db)
  | revoke (db : LeaseDb) (scope : RevocationScope) (reason : LeaseReleaseReason) (now : Instant) :
      LeaseStep db (after (revokeActive scope reason now) db)
  | authorize (db : LeaseDb) (leaseId : Uuid) (fencingToken : ℕ) (now : Instant) :
      LeaseStep db (after (authorizeSensitiveUse leaseId fencingToken now) db)
  | register (db : LeaseDb) (account : TestAccount) (h : ∀ a ∈ db.accounts, a.id ≠ account.id) :
      LeaseStep db { db with accounts := db.accounts ++ [account] }
  | administer (db db' : LeaseDb) (h : Administered db db') : LeaseStep db db'

def LeaseRun : LeaseDb → LeaseDb → Prop := Relation.ReflTransGen LeaseStep

end Atlas.Service
