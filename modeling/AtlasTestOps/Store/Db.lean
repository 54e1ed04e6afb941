import AtlasTestOps.Lib.Rows
import AtlasTestOps.Result.Classification

/-! The rows of one TaskRun and the repository operations on them. A query returns what
the SQL statement selects; an insert raises when a key or a unique index is taken, so the
whole transaction is lost with it. Every id a service draws is new. -/

namespace Atlas.Store

open Atlas Atlas.Task Atlas.Result Txn

/-- A row of the idempotency table for the re-evaluation of the Run. -/
structure IdempotencyRecord where
  key : String
  requestHash : Digest
  expiresAt : Instant
  response : Option (ℕ × TaskResultSnapshot)
deriving DecidableEq, Repr

structure Db where
  run : TaskRun
  manifest : TaskRunManifest
  units : List ExecutionUnit
  attempts : List UnitAttempt
  events : List TaskExecutionEvent
  commands : List TaskRunCommandIntent
  tickets : List TaskUnitExecutionTicket
  seals : List AttemptSeal
  refs : List ResultRef
  closures : List AttemptClosureNotice
  incidents : List ResultIntegrityIncident
  resolutions : List UnitResolutionRevision
  hygieneResolutions : List UnitHygieneResolutionRevision
  snapshots : List TaskResultSnapshot
  reevaluationCommands : List TaskResultReevaluationCommand
  idempotency : List IdempotencyRecord
  clusters : List FailureClusterRevision
  classifications : List FailureClassificationRevision
  nextId : Uuid
deriving DecidableEq, Repr

abbrev Op (α : Type) := Tx Db Fault α

namespace Db

variable (db : Db)

/-! Queries over Task rows. -/

def getRun (taskRunId : Uuid) : Option TaskRun :=
  if db.run.id = taskRunId then some db.run else none

def getManifest (taskRunId : Uuid) : Option TaskRunManifest :=
  if db.manifest.taskRunId = taskRunId then some db.manifest else none

def getUnit (id : Uuid) : Option ExecutionUnit := db.units.find? fun u => u.id = id

def getAttempt (id : Uuid) : Option UnitAttempt := db.attempts.find? fun a => a.id = id

/-- `order by ordinal, id` -/
def listUnits : List ExecutionUnit :=
  db.units.insertionSort fun u v => u.ordinal < v.ordinal ∨ (u.ordinal = v.ordinal ∧ u.id ≤ v.id)

/-- `order by attempt_number, id` -/
def listAttempts (executionUnitId : Uuid) : List UnitAttempt :=
  (db.attempts.filter fun a => a.executionUnitId = executionUnitId).insertionSort fun a b =>
    a.attemptNumber < b.attemptNumber ∨ (a.attemptNumber = b.attemptNumber ∧ a.id ≤ b.id)

def getAttemptByNumber (executionUnitId : Uuid) (attemptNumber : ℕ) : Option UnitAttempt :=
  db.attempts.find? fun a =>
    a.executionUnitId = executionUnitId ∧ a.attemptNumber = attemptNumber

def countRetryAttempts : ℕ := db.attempts.countP fun a => 1 < a.attemptNumber

def getTicketByAttempt (unitAttemptId : Uuid) : Option TaskUnitExecutionTicket :=
  db.tickets.find? fun t => t.unitAttemptId = unitAttemptId

/-! Queries over Result rows. -/

def getSealByAttempt (unitAttemptId : Uuid) : Option AttemptSeal :=
  db.seals.find? fun s => s.unitAttemptId = unitAttemptId

def getRefByAttempt (unitAttemptId : Uuid) : Option ResultRef :=
  db.refs.find? fun r => r.unitAttemptId = unitAttemptId

def getClosureByAttempt (unitAttemptId : Uuid) : Option AttemptClosureNotice :=
  db.closures.find? fun n => n.unitAttemptId = unitAttemptId

def listSealsForUnit (executionUnitId : Uuid) : List AttemptSeal :=
  db.seals.filter fun s => s.executionUnitId = executionUnitId

def listClosuresForUnit (executionUnitId : Uuid) : List AttemptClosureNotice :=
  db.closures.filter fun n => n.executionUnitId = executionUnitId

def getLatestResolution (executionUnitId : Uuid) : Option UnitResolutionRevision :=
  Rows.newest (fun r => r.revision) (db.resolutions.filter fun r => r.executionUnitId = executionUnitId)

def getLatestHygieneResolution (executionUnitId : Uuid) : Option UnitHygieneResolutionRevision :=
  Rows.newest (fun h => h.revision)
    (db.hygieneResolutions.filter fun h => h.executionUnitId = executionUnitId)

/-- The latest resolution of each Unit that has one, in the order of the Units. -/
def listLatestResolutions : List UnitResolutionRevision :=
  db.listUnits.filterMap fun u =>
    (db.getLatestResolution u.id).filter fun r =>
      r.taskRunId = u.taskRunId ∧ r.tenantId = u.tenantId ∧ r.projectId = u.projectId

def listLatestHygieneResolutions : List UnitHygieneResolutionRevision :=
  db.listUnits.filterMap fun u =>
    (db.getLatestHygieneResolution u.id).filter fun h =>
      h.taskRunId = u.taskRunId ∧ h.tenantId = u.tenantId ∧ h.projectId = u.projectId

def listResolutionsByIds (ids : List Uuid) : List UnitResolutionRevision :=
  ids.filterMap fun id => db.resolutions.find? fun r => r.id = id

def listHygieneResolutionsByIds (ids : List Uuid) : List UnitHygieneResolutionRevision :=
  ids.filterMap fun id => db.hygieneResolutions.find? fun h => h.id = id

def getSnapshotById (id : Uuid) : Option TaskResultSnapshot :=
  db.snapshots.find? fun s => s.id = id

def getLatestSnapshot : Option TaskResultSnapshot :=
  Rows.newest (fun s => s.revision) db.snapshots

def getLatestSnapshotForFinality (finality : TaskResultSnapshotFinality) :
    Option TaskResultSnapshot :=
  Rows.newest (fun s => s.revision) (db.snapshots.filter fun s => s.finality = finality)

def getReevaluatedSnapshot (sourceSnapshotId : Uuid) (policyDigest : Digest) :
    Option TaskResultSnapshot :=
  Rows.newest (fun s => s.revision) (db.snapshots.filter fun s =>
    s.finality = .reevaluated ∧ s.reevaluationSourceSnapshotId = some sourceSnapshotId ∧
      s.aggregationPolicyDigest = policyDigest)

def getFailureCluster (resultSnapshotId : Uuid) (fingerprint policyDigest : Digest) :
    Option FailureClusterRevision :=
  Rows.newest (fun c => c.revision) (db.clusters.filter fun c =>
    c.resultSnapshotId = resultSnapshotId ∧ c.fingerprint = fingerprint ∧
      c.fingerprintPolicyDigest = policyDigest)

def getLatestClassificationForCluster (clusterRevisionId : Uuid) :
    Option FailureClassificationRevision :=
  Rows.newest (fun c => c.revision) (db.classifications.filter fun c =>
    c.failureClusterRevisionId = clusterRevisionId)

end Db

/-! Writes. -/

/-- `new_entity_id` -/
def newEntityId : Op Uuid := fun db => .ok (db.nextId, { db with nextId := db.nextId + 1 })

/-- Build a contract value whose validator must accept the content. -/
def validated (violation : Option String) : Op (PLift (violation = none)) := fun db =>
  match violation with
  | none => .ok (⟨rfl⟩, db)
  | some message => .error (.validation message)

def insertFact (fact : AttemptSeal) : Op Unit := do
  let seals ← read Db.seals
  raiseIf (∃ s ∈ seals, s.sealId = fact.sealId) (.constraint "unit_attempt_result_fact_pkey")
  raiseIf (∃ s ∈ seals, s.unitAttemptId = fact.unitAttemptId)
    (.constraint "unit_attempt_result_fact_attempt_unique")
  update fun db => { db with seals := db.seals ++ [fact] }

def insertRef (ref : ResultRef) : Op Unit := do
  let refs ← read Db.refs
  raiseIf (∃ r ∈ refs, r.id = ref.id) (.constraint "result_ref_pkey")
  raiseIf (∃ r ∈ refs, r.unitAttemptId = ref.unitAttemptId)
    (.constraint "result_ref_attempt_unique")
  update fun db => { db with refs := db.refs ++ [ref] }

def insertClosure (notice : AttemptClosureNotice) : Op Unit := do
  let closures ← read Db.closures
  raiseIf (∃ n ∈ closures, n.id = notice.id) (.constraint "attempt_closure_notice_pkey")
  raiseIf (∃ n ∈ closures, n.unitAttemptId = notice.unitAttemptId)
    (.constraint "attempt_closure_notice_attempt_unique")
  update fun db => { db with closures := db.closures ++ [notice] }

def insertResolution (resolution : UnitResolutionRevision) : Op Unit := do
  let resolutions ← read Db.resolutions
  raiseIf (∃ r ∈ resolutions, r.id = resolution.id) (.constraint "unit_resolution_revision_pkey")
  raiseIf (∃ r ∈ resolutions,
      r.executionUnitId = resolution.executionUnitId ∧ r.revision = resolution.revision)
    (.constraint "unit_resolution_revision_unique")
  raiseIf (∃ r ∈ resolutions, r.executionUnitId = resolution.executionUnitId ∧
      r.inputSetHash = resolution.inputSetHash ∧
      r.resolutionPolicyDigest = resolution.resolutionPolicyDigest)
    (.constraint "unit_resolution_input_unique")
  update fun db => { db with resolutions := db.resolutions ++ [resolution] }

/-- Two snapshots that the unique index of their finality does not admit side by side. -/
def sameSnapshotInput (s t : TaskResultSnapshot) : Bool :=
  s.finality = t.finality && s.aggregationPolicyDigest = t.aggregationPolicyDigest &&
  match t.finality with
  | .qualityFinal => s.inputResolutionSetHash = t.inputResolutionSetHash
  | .fullyResolved =>
    s.inputResolutionSetHash = t.inputResolutionSetHash &&
      s.inputHygieneResolutionSetHash = t.inputHygieneResolutionSetHash
  | .reevaluated => s.reevaluationSourceSnapshotId = t.reevaluationSourceSnapshotId

def insertSnapshot (snapshot : TaskResultSnapshot) : Op Unit := do
  let snapshots ← read Db.snapshots
  raiseIf (∃ s ∈ snapshots, s.id = snapshot.id) (.constraint "task_result_snapshot_pkey")
  raiseIf (∃ s ∈ snapshots, s.revision = snapshot.revision)
    (.constraint "task_result_snapshot_revision_unique")
  raiseIf (∃ s ∈ snapshots, sameSnapshotInput s snapshot)
    (.constraint (match snapshot.finality with
      | .qualityFinal => "task_result_snapshot_quality_input_unique"
      | .fullyResolved => "task_result_snapshot_fully_resolved_input_unique"
      | .reevaluated => "task_result_snapshot_reevaluated_input_unique"))
  update fun db => { db with snapshots := db.snapshots ++ [snapshot] }

def insertReevaluationCommand (command : TaskResultReevaluationCommand) : Op Unit := do
  let commands ← read Db.reevaluationCommands
  raiseIf (∃ c ∈ commands, c.id = command.id)
    (.constraint "task_result_reevaluation_command_pkey")
  raiseIf (∃ c ∈ commands, c.clientMutationId = command.clientMutationId)
    (.constraint "task_result_reevaluation_command_mutation_unique")
  update fun db => { db with reevaluationCommands := db.reevaluationCommands ++ [command] }

def insertFailureCluster (cluster : FailureClusterRevision) : Op Unit := do
  let clusters ← read Db.clusters
  raiseIf (∃ c ∈ clusters, c.id = cluster.id) (.constraint "failure_cluster_revision_pkey")
  raiseIf (∃ c ∈ clusters,
      c.failureClusterId = cluster.failureClusterId ∧ c.revision = cluster.revision)
    (.constraint "failure_cluster_revision_chain_unique")
  raiseIf (cluster.revision = 1 ∧ ∃ c ∈ clusters, c.revision = 1 ∧
      c.resultSnapshotId = cluster.resultSnapshotId ∧ c.fingerprint = cluster.fingerprint ∧
      c.fingerprintPolicyDigest = cluster.fingerprintPolicyDigest)
    (.constraint "failure_cluster_revision_initial_input_unique")
  update fun db => { db with clusters := db.clusters ++ [cluster] }

def insertFailureClassification (classification : FailureClassificationRevision) : Op Unit := do
  let classifications ← read Db.classifications
  raiseIf (∃ c ∈ classifications, c.id = classification.id)
    (.constraint "failure_classification_revision_pkey")
  raiseIf (∃ c ∈ classifications,
      c.failureClassificationId = classification.failureClassificationId ∧
        c.revision = classification.revision)
    (.constraint "failure_classification_revision_chain_unique")
  raiseIf (classification.revision = 1 ∧ ∃ c ∈ classifications, c.revision = 1 ∧
      c.failureClusterRevisionId = classification.failureClusterRevisionId)
    (.constraint "failure_classification_revision_cluster_initial_unique")
  update fun db => { db with classifications := db.classifications ++ [classification] }

/-! What each write commits. -/

section Spec

variable {db db' : Db}

@[simp] theorem commits_newEntityId {id : Uuid} :
    Commits newEntityId db id db' ↔ id = db.nextId ∧ db' = { db with nextId := db.nextId + 1 } := by
  simp only [Commits, newEntityId, Except.ok.injEq, Prod.mk.injEq]
  exact and_congr eq_comm eq_comm

@[simp] theorem commits_validated {violation : Option String} {h : PLift (violation = none)} :
    Commits (validated violation) db h db' ↔ db' = db := by
  obtain ⟨rfl⟩ := h
  simp [Commits, validated, eq_comm]

@[simp] theorem commits_insertFact {fact : AttemptSeal} {u : Unit} :
    Commits (insertFact fact) db u db' ↔
      (¬ ∃ s ∈ db.seals, s.sealId = fact.sealId) ∧
      (¬ ∃ s ∈ db.seals, s.unitAttemptId = fact.unitAttemptId) ∧
      db' = { db with seals := db.seals ++ [fact] } := by
  simp [insertFact, and_assoc]

@[simp] theorem commits_insertRef {ref : ResultRef} {u : Unit} :
    Commits (insertRef ref) db u db' ↔
      (¬ ∃ r ∈ db.refs, r.id = ref.id) ∧
      (¬ ∃ r ∈ db.refs, r.unitAttemptId = ref.unitAttemptId) ∧
      db' = { db with refs := db.refs ++ [ref] } := by
  simp [insertRef, and_assoc]

@[simp] theorem commits_insertClosure {notice : AttemptClosureNotice} {u : Unit} :
    Commits (insertClosure notice) db u db' ↔
      (¬ ∃ n ∈ db.closures, n.id = notice.id) ∧
      (¬ ∃ n ∈ db.closures, n.unitAttemptId = notice.unitAttemptId) ∧
      db' = { db with closures := db.closures ++ [notice] } := by
  simp [insertClosure, and_assoc]

@[simp] theorem commits_insertResolution {resolution : UnitResolutionRevision} {u : Unit} :
    Commits (insertResolution resolution) db u db' ↔
      (¬ ∃ r ∈ db.resolutions, r.id = resolution.id) ∧
      (¬ ∃ r ∈ db.resolutions,
        r.executionUnitId = resolution.executionUnitId ∧ r.revision = resolution.revision) ∧
      (¬ ∃ r ∈ db.resolutions, r.executionUnitId = resolution.executionUnitId ∧
        r.inputSetHash = resolution.inputSetHash ∧
        r.resolutionPolicyDigest = resolution.resolutionPolicyDigest) ∧
      db' = { db with resolutions := db.resolutions ++ [resolution] } := by
  simp [insertResolution, and_assoc]

@[simp] theorem commits_insertSnapshot {snapshot : TaskResultSnapshot} {u : Unit} :
    Commits (insertSnapshot snapshot) db u db' ↔
      (¬ ∃ s ∈ db.snapshots, s.id = snapshot.id) ∧
      (¬ ∃ s ∈ db.snapshots, s.revision = snapshot.revision) ∧
      (¬ ∃ s ∈ db.snapshots, sameSnapshotInput s snapshot) ∧
      db' = { db with snapshots := db.snapshots ++ [snapshot] } := by
  simp [insertSnapshot, and_assoc]

@[simp] theorem commits_insertReevaluationCommand {command : TaskResultReevaluationCommand}
    {u : Unit} :
    Commits (insertReevaluationCommand command) db u db' ↔
      (¬ ∃ c ∈ db.reevaluationCommands, c.id = command.id) ∧
      (¬ ∃ c ∈ db.reevaluationCommands, c.clientMutationId = command.clientMutationId) ∧
      db' = { db with reevaluationCommands := db.reevaluationCommands ++ [command] } := by
  simp [insertReevaluationCommand, and_assoc]

@[simp] theorem commits_insertFailureCluster {cluster : FailureClusterRevision} {u : Unit} :
    Commits (insertFailureCluster cluster) db u db' ↔
      (¬ ∃ c ∈ db.clusters, c.id = cluster.id) ∧
      (¬ ∃ c ∈ db.clusters,
        c.failureClusterId = cluster.failureClusterId ∧ c.revision = cluster.revision) ∧
      (¬ (cluster.revision = 1 ∧ ∃ c ∈ db.clusters, c.revision = 1 ∧
        c.resultSnapshotId = cluster.resultSnapshotId ∧ c.fingerprint = cluster.fingerprint ∧
        c.fingerprintPolicyDigest = cluster.fingerprintPolicyDigest)) ∧
      db' = { db with clusters := db.clusters ++ [cluster] } := by
  simp [insertFailureCluster, and_assoc]

@[simp] theorem commits_insertFailureClassification
    {classification : FailureClassificationRevision} {u : Unit} :
    Commits (insertFailureClassification classification) db u db' ↔
      (¬ ∃ c ∈ db.classifications, c.id = classification.id) ∧
      (¬ ∃ c ∈ db.classifications,
        c.failureClassificationId = classification.failureClassificationId ∧
          c.revision = classification.revision) ∧
      (¬ (classification.revision = 1 ∧ ∃ c ∈ db.classifications, c.revision = 1 ∧
        c.failureClusterRevisionId = classification.failureClusterRevisionId)) ∧
      db' = { db with classifications := db.classifications ++ [classification] } := by
  simp [insertFailureClassification, and_assoc]

end Spec

end Atlas.Store
