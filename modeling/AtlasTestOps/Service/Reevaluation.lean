import AtlasTestOps.Core.Access
import AtlasTestOps.Service.Projection

/-! The explicit re-evaluation of one FULLY_RESOLVED snapshot: an idempotent command that
appends a REEVALUATED snapshot with the frozen inputs of its source. -/

namespace Atlas.Service

open Atlas Atlas.Task Atlas.Result Atlas.Store Txn

variable (H : ResultHashes)

def invalidRequest (detail : String) : Fault := .application "INVALID_REQUEST" detail
def notFound (detail : String) : Fault := .application "NOT_FOUND" detail
def forbidden (detail : String) : Fault := .application "FORBIDDEN" detail
def conflict (detail : String) : Fault := .application "CONFLICT" detail

structure RequestTaskResultReevaluation where
  sourceSnapshotId : Uuid
  clientMutationId : String
deriving DecidableEq, Repr

structure CommandResult where
  value : TaskResultSnapshot
  statusCode : ℕ
  replayed : Bool
deriving DecidableEq, Repr

/-! The idempotency table. -/

def reservationTtl : ℕ := seconds (24 * 3600)

/-- `reserve`: the cached response, or none when the request may be handled now. -/
def reserve (key : String) (requestHash : Digest) (now : Instant) :
    Op (Option (ℕ × TaskResultSnapshot)) := do
  update fun db =>
    { db with idempotency :=
        db.idempotency.filter fun r => ¬ (r.key = key ∧ r.expiresAt ≤ now) }
  let found ← read fun db => db.idempotency.find? fun r => r.key = key
  match found with
  | none => do
    update fun db =>
      { db with idempotency := db.idempotency ++ [⟨key, requestHash, now + reservationTtl, none⟩] }
    pure none
  | some record => do
    raiseIf (record.requestHash ≠ requestHash) (conflict "同一个 Idempotency-Key 已用于不同请求。")
    let response ← demand record.response (conflict "同一个 Idempotency-Key 对应的命令尚未完成。")
    pure (some response)

def openReservation (key : String) (requestHash : Digest) (record : IdempotencyRecord) : Bool :=
  record.key = key ∧ record.requestHash = requestHash ∧ record.response = none

def complete (key : String) (requestHash : Digest) (response : ℕ × TaskResultSnapshot) :
    Op Unit := do
  let records ← read Db.idempotency
  raiseIf (¬ ∃ r ∈ records, openReservation key requestHash r)
    (.application "PRECONDITION_FAILED" "命令没有活动的 Idempotency Reservation。")
  update fun db =>
    { db with idempotency := db.idempotency.map fun r =>
        if openReservation key requestHash r then { r with response := some response } else r }

/-! The command. -/

def reevaluationNotFound : Fault := notFound "未找到可访问的 TaskRun 或结果快照。"

/-- Row level security hides the rows of other tenants. -/
def visibleRun (db : Db) (actor : ActorContext) (taskRunId : Uuid) : Option TaskRun :=
  (db.getRun taskRunId).filter fun run => run.tenantId = actor.tenantId

def requireRun (actor : ActorContext) (run : Option TaskRun) : Op TaskRun := do
  let run ← demand run reevaluationNotFound
  raiseIf (!actor.canReadProject run.projectId) reevaluationNotFound
  raiseIf (!actor.canOperateProject run.projectId) (forbidden "当前角色不能对该 Project 的结果执行重评。")
  raiseIf (run.lifecycle ≠ .closed ∨ run.materializationState ≠ .sealed)
    (conflict "只有已关闭并封存物化的 TaskRun 可以重评结果。")
  pure run

def requireSource (run : TaskRun) (source : Option TaskResultSnapshot) : Op TaskResultSnapshot := do
  let source ← demand source reevaluationNotFound
  raiseIf (source.tenantId ≠ run.tenantId ∨ source.projectId ≠ run.projectId ∨
      source.taskRunId ≠ run.id) reevaluationNotFound
  raiseIf (source.finality ≠ .fullyResolved ∨ source.manifestHash ≠ run.manifestHash)
    (conflict "重评来源必须是该 TaskRun 的 FULLY_RESOLVED Snapshot。")
  pure source

/-- The content over the frozen inputs of the source, above the latest snapshot. -/
def reevaluatedContent (source latest : TaskResultSnapshot) (id commandId : Uuid)
    (now : Instant) : TaskResultSnapshotContent :=
  { source.toTaskResultSnapshotContent with
    schemaVersion := snapshotSchemaVersion .reevaluated
    id := id
    revision := latest.revision + 1
    finality := .reevaluated
    reevaluationSourceSnapshotId := some source.id
    reevaluationCommandId := some commandId
    aggregationPolicyVersion := snapshotPolicyVersion .reevaluated
    aggregationPolicyDigest := snapshotPolicyDigest .reevaluated
    supersedesSnapshotId := some latest.id
    createdAt := now }

/-- The part of `reevaluate` that appends the command and its snapshot. -/
def appendReevaluated (actor : ActorContext) (run : TaskRun) (source : TaskResultSnapshot)
    (clientMutationId : String) (now : Instant) : Op TaskResultSnapshot := do
  let found ← read Db.getLatestSnapshot
  let latest ← demand found (conflict "TaskRun 尚未形成可重评的结果 Revision。")
  let commandId ← newEntityId
  insertReevaluationCommand
    { id := commandId
      tenantId := run.tenantId
      projectId := run.projectId
      taskRunId := run.id
      sourceSnapshotId := source.id
      targetPolicyDigest := taskResultSnapshotReevaluatedPolicyDigest
      clientMutationId := clientMutationId
      requestedBy := actor.actorId
      requestedAt := now }
  let id ← newEntityId
  appendSnapshot H (reevaluatedContent source latest id commandId now)

/-- `reevaluate`; `requestHash` is the hash of the request document. -/
def reevaluate (actor : ActorContext) (taskRunId : Uuid)
    (request : RequestTaskResultReevaluation) (idempotencyKey : String) (requestHash : Digest)
    (now : Instant) : Op CommandResult := do
  raiseIf (idempotencyKey ≠ request.clientMutationId)
    (invalidRequest "Idempotency-Key 必须与 clientMutationId 完全一致。")
  let cached ← reserve idempotencyKey requestHash now
  match cached with
  | some (statusCode, snapshot) => pure ⟨snapshot, statusCode, true⟩
  | none => do
    let visible ← read fun db => visibleRun db actor taskRunId
    let run ← requireRun actor visible
    let found ← read fun db => db.getSnapshotById request.sourceSnapshotId
    let source ← requireSource run found
    let existing ← read fun db =>
      db.getReevaluatedSnapshot source.id taskResultSnapshotReevaluatedPolicyDigest
    match existing with
    | some snapshot => do
      complete idempotencyKey requestHash (200, snapshot)
      pure ⟨snapshot, 200, true⟩
    | none => do
      let snapshot ← appendReevaluated H actor run source request.clientMutationId now
      complete idempotencyKey requestHash (201, snapshot)
      pure ⟨snapshot, 201, false⟩

end Atlas.Service
