import AtlasTestOps.Lib.Dict
import AtlasTestOps.Result.Gate
import AtlasTestOps.Store.Db

/-! The Task Gate at the database: the current judgments that a decision consumes, and the guard
of its insert, which derives the decision a second time. -/

namespace Atlas.Store

open Atlas Atlas.Task Atlas.Result

/-- The wire name of a code, which orders the reasons. -/
def reasonText : TaskGateReasonCode → String
  | .classificationNotGateReady => "CLASSIFICATION_NOT_GATE_READY"
  | .dataHygieneUnresolved => "DATA_HYGIENE_UNRESOLVED"
  | .dataLeak => "DATA_LEAK"
  | .evidenceIncomplete => "EVIDENCE_INCOMPLETE"
  | .evidenceInvalidOrUnverified => "EVIDENCE_INVALID_OR_UNVERIFIED"
  | .failedUnits => "FAILED_UNITS"
  | .inconclusiveUnits => "INCONCLUSIVE_UNITS"
  | .manualInfluence => "MANUAL_INFLUENCE"
  | .notEvaluatedUnits => "NOT_EVALUATED_UNITS"
  | .snapshotNotFullyResolved => "SNAPSHOT_NOT_FULLY_RESOLVED"
  | .unstableExecution => "UNSTABLE_EXECUTION"

structure TaskGateClassificationInput where
  ordinal : ℕ
  failureClusterRevisionId : Uuid
  clusterHash : Digest
  failureClassificationRevisionId : Uuid
  classificationRevision : ℕ
  classificationHash : Digest
deriving DecidableEq, Repr

structure TaskGateDecision where
  id : Uuid
  taskGateId : Uuid
  tenantId : Uuid
  projectId : Uuid
  taskRunId : Uuid
  resultSnapshotId : Uuid
  resultSnapshotHash : Digest
  revision : ℕ
  failureClassificationRevisionIds : List Uuid
  classificationSetHash : Digest
  gatePolicyVersion : String
  gatePolicyDigest : Digest
  decision : TaskGateVerdict
  reasons : List TaskGateReason
  evaluatedBy : Uuid
  supersedesGateDecisionId : Option Uuid
  evaluatedAt : Instant
deriving DecidableEq, Repr

/-- SHA-256 over the canonical JSON of the classification set of a snapshot. -/
abbrev ClassificationSetHash := Uuid → List TaskGateClassificationInput → Digest

/-! Current judgments. -/

/-- A cluster with its latest judgment. -/
abbrev GatePair := FailureClusterRevision × Option FailureClassificationRevision

/-- `order by fingerprint, failure_cluster_id, id` -/
def gateOrder (c d : FailureClusterRevision) : Bool :=
  c.fingerprint < d.fingerprint ∨ (c.fingerprint = d.fingerprint ∧
    (c.failureClusterId < d.failureClusterId ∨ (c.failureClusterId = d.failureClusterId ∧ c.id ≤ d.id)))

namespace Db

variable (db : Db)

/-- `latest_clusters`: the newest revision of each cluster of the snapshot. -/
def latestClusters (resultSnapshotId : Uuid) : List FailureClusterRevision :=
  let rows := db.clusters.filter fun c => c.resultSnapshotId = resultSnapshotId
  (rows.map fun c => c.failureClusterId).dedup.filterMap fun id =>
    Rows.newest (fun c => c.revision) (rows.filter fun c => c.failureClusterId = id)

/-- `list_current_gate_classifications`, which the guard repeats as `ranked_pairs` -/
def currentPairs (resultSnapshotId : Uuid) : List GatePair :=
  ((db.latestClusters resultSnapshotId).mergeSort gateOrder).map fun c =>
    (c, db.getLatestClassificationForCluster c.id)

end Db

/-! What the guard derives. -/

/-- The two branches under which a judgment counts as ready. -/
def guardReady (c : FailureClassificationRevision) : Bool :=
  (c.authorKind = .systemRule ∧ c.judgmentState = .ruleProposed ∧
      c.failureDomain ∈ [.cleanup, .evidence, .policySecurity] ∧ 9500 ≤ c.confidence ∧
      c.evidenceGapCodes.length = 0) ∨
    (c.authorKind = .human ∧ c.judgmentState ∈ [.humanConfirmed, .humanRevised] ∧
      c.failureDomain ≠ .unknown ∧ 7000 ≤ c.confidence ∧ c.evidenceGapCodes.length = 0)

/-- `not_ready_classification_count` -/
def notReadyClassificationCount (pairs : List GatePair) : ℕ :=
  pairs.countP fun p => p.2.any fun c => !guardReady c

/-- The condition of `expected_diagnostic_ids`. -/
def guardDiagnostic (resolution : UnitResolutionRevision) (hygiene : Option UnitHygieneResolutionRevision) : Bool :=
  let dataHygiene := (hygiene.map fun h => h.dataHygiene).getD resolution.dataHygiene
  resolution.effectiveVerdict ≠ .passed ∨ resolution.stability ≠ .stable ∨
    dataHygiene ∈ [.cleanupFailed, .leaked] ∨ resolution.evidenceIntegrity ≠ .verified ∨
    resolution.evidenceCompleteness ∈ [.missing, .partialEvidence]

/-- The hygiene row at the position of the resolution, when it is of the same Unit. -/
def joinedHygiene (db : Db) (snapshot : TaskResultSnapshot) (index : ℕ) (resolution : UnitResolutionRevision) :
    Option UnitHygieneResolutionRevision := do
  let ids ← snapshot.unitHygieneResolutionRevisionIds
  let id ← ids[index]?
  db.hygieneResolutions.find? fun h => h.id = id ∧ h.executionUnitId = resolution.executionUnitId

def joinedResolution (db : Db) (snapshot : TaskResultSnapshot) (id : Uuid) : Option UnitResolutionRevision :=
  (db.resolutions.find? fun r => r.id = id).filter fun r =>
    r.taskRunId = snapshot.taskRunId ∧ r.tenantId = snapshot.tenantId ∧ r.projectId = snapshot.projectId

/-- The Units that the guard counts as diagnostic, in the order of the snapshot. -/
def diagnosticRows (db : Db) (snapshot : TaskResultSnapshot) : List Uuid :=
  snapshot.unitResolutionRevisionIds.zipIdx.filterMap fun p =>
    (joinedResolution db snapshot p.1).bind fun r =>
      if guardDiagnostic r (joinedHygiene db snapshot p.2 r) then some r.id else none

/-- `expected_diagnostic_ids` -/
def expectedDiagnosticIds (db : Db) (snapshot : TaskResultSnapshot) : List Uuid :=
  Dict.sortBy (fun id => id) (diagnosticRows db snapshot)

def affectedIds (db : Db) (snapshot : TaskResultSnapshot) : List Uuid :=
  (db.latestClusters snapshot.id).flatMap fun c => c.affectedUnitResolutionRevisionIds

/-- The clusters cover every diagnostic Unit and no Unit twice. -/
def clusterCoverage (db : Db) (snapshot : TaskResultSnapshot) : Bool :=
  Dict.sortBy (fun id => id) (affectedIds db snapshot).dedup = expectedDiagnosticIds db snapshot ∧
    (affectedIds db snapshot).length = (affectedIds db snapshot).dedup.length

/-- `expected_classification_inputs` -/
def expectedInputs (pairs : List GatePair) : List TaskGateClassificationInput :=
  (pairs.zipIdx 1).filterMap fun p => p.1.2.map fun c =>
    ⟨p.2, p.1.1.id, p.1.1.clusterHash, c.id, c.revision, c.classificationHash⟩

/-- `expected_reasons`, as they are appended and then sorted. -/
def expectedReasons (snapshot : TaskResultSnapshot) (notReady : ℕ) : List TaskGateReason :=
  let axes := snapshot.axisDistributions
  let appended : List TaskGateReason :=
    [⟨.snapshotNotFullyResolved, if snapshot.finality = .qualityFinal then 1 else 0⟩,
     ⟨.inconclusiveUnits, snapshot.verdictCounts.inconclusive⟩,
     ⟨.notEvaluatedUnits, snapshot.verdictCounts.notEvaluated⟩,
     ⟨.dataHygieneUnresolved, axes.dataHygiene.pending + axes.dataHygiene.cleanupFailed⟩,
     ⟨.evidenceIncomplete, axes.evidenceCompleteness.pending +
       axes.evidenceCompleteness.partialEvidence + axes.evidenceCompleteness.missing⟩,
     ⟨.evidenceInvalidOrUnverified, axes.evidenceIntegrity.unverified + axes.evidenceIntegrity.invalid⟩,
     ⟨.manualInfluence, axes.executionInfluence.manualAssisted + axes.executionInfluence.manualOnly⟩,
     ⟨.unstableExecution, axes.stability.unknown + axes.stability.infraRecovered +
       axes.stability.flakySuspect + axes.stability.flakyConfirmed⟩,
     ⟨.classificationNotGateReady, notReady⟩,
     ⟨.failedUnits, snapshot.verdictCounts.failed⟩,
     ⟨.dataLeak, axes.dataHygiene.leaked⟩]
  Dict.sortBy (fun r => reasonText r.code) (appended.filter fun r => 0 < r.count)

/-- `expected_decision` -/
def expectedDecision (reasons : List TaskGateReason) : TaskGateVerdict :=
  if ∃ r ∈ reasons, r.code ∈ [.classificationNotGateReady, .dataHygieneUnresolved, .evidenceIncomplete,
      .evidenceInvalidOrUnverified, .inconclusiveUnits, .manualInfluence, .notEvaluatedUnits,
      .snapshotNotFullyResolved, .unstableExecution] then .inconclusive
  else if ∃ r ∈ reasons, r.code ∈ [.failedUnits, .dataLeak] then .rejected
  else .accepted

/-- A later decision supersedes the newest one of its Run. -/
def gateChainValid (gates : List TaskGateDecision) (new : TaskGateDecision) : Bool :=
  if new.revision = 1 then new.supersedesGateDecisionId = none
  else (Rows.newest (fun g => g.revision) (gates.filter fun g => g.taskRunId = new.taskRunId)).any fun previous =>
    new.revision = previous.revision + 1 ∧ new.taskGateId = previous.taskGateId ∧
      new.supersedesGateDecisionId = some previous.id ∧ new.tenantId = previous.tenantId ∧
      new.projectId = previous.projectId

def taskGatePolicyVersion : String := "0.1.0"

/-- The Run is closed and sealed, and it is the one that the snapshot was taken of. -/
def gateRunValid (db : Db) (snapshot : TaskResultSnapshot) : Bool :=
  db.run.id = snapshot.taskRunId ∧ db.run.tenantId = snapshot.tenantId ∧ db.run.projectId = snapshot.projectId ∧
    db.run.lifecycle = .closed ∧ db.run.materializationState = .sealed ∧
    db.run.manifestHash = snapshot.manifestHash

section Guard

variable (setHash : ClassificationSetHash) (policyDigest : Digest)

/-- The checks of the guard against the snapshot that the decision names. -/
def gateSnapshotViolation (db : Db) (gates : List TaskGateDecision) (now : Instant) (new : TaskGateDecision)
    (snapshot : TaskResultSnapshot) : Option String :=
  let pairs := db.currentPairs snapshot.id
  let reasons := expectedReasons snapshot (notReadyClassificationCount pairs)
  firstViolation
    [(!gateRunValid db snapshot || new.resultSnapshotHash ≠ snapshot.snapshotHash || new.evaluatedAt ≠ now ||
        new.gatePolicyVersion ≠ taskGatePolicyVersion || new.gatePolicyDigest ≠ policyDigest,
       "TaskGateDecision requires an exact closed Snapshot and frozen Policy"),
     (!clusterCoverage db snapshot, "TaskGateDecision requires complete non-overlapping Cluster coverage"),
     (pairs.length ≠ pairs.countP (fun p => p.2.isSome) ||
        new.failureClassificationRevisionIds ≠ pairs.filterMap fun p => p.2.map fun c => c.id,
       "TaskGateDecision requires the complete latest Classification set"),
     (new.classificationSetHash ≠ setHash snapshot.id (expectedInputs pairs),
       "TaskGateDecision Classification set hash does not match exact inputs"),
     (new.decision ≠ expectedDecision reasons || new.reasons ≠ reasons,
       "TaskGateDecision verdict and reasons do not match frozen Policy"),
     (!gateChainValid gates new, "TaskGateDecision revision chain is invalid")]

/-- `guard_task_gate_decision_insert` under the context of a tenant and an actor. -/
def guardTaskGateDecision (db : Db) (gates : List TaskGateDecision) (tenantId actorId : Uuid) (now : Instant)
    (new : TaskGateDecision) : Option String :=
  if new.tenantId ≠ tenantId ∨ new.evaluatedBy ≠ actorId then
    some "TaskGateDecision insertion requires exact tenant and actor context"
  else
    match (db.getSnapshotById new.resultSnapshotId).filter fun s =>
        s.taskRunId = new.taskRunId ∧ s.tenantId = new.tenantId ∧ s.projectId = new.projectId with
    | none => some "TaskGateDecision requires an exact closed Snapshot and frozen Policy"
    | some snapshot => gateSnapshotViolation setHash policyDigest db gates now new snapshot

end Guard

end Atlas.Store
