import AtlasTestOps.Service.Reevaluation
import AtlasTestOps.Store.GateGuard

/-! The evaluation of the Task Gate over one snapshot, up to the insert of its decision. -/

namespace Atlas.Service

open Atlas Atlas.Task Atlas.Result Atlas.Store

/-- `_require_complete_pairs` -/
def requireCompletePairs :
    List GatePair → Except Fault (List (FailureClusterRevision × FailureClassificationRevision))
  | [] => .ok []
  | (_, none) :: _ => .error (conflict "Snapshot 的完整 FailureCluster 集合尚未全部生成 Classification。")
  | (cluster, some classification) :: pairs => do
    let rest ← requireCompletePairs pairs
    pure ((cluster, classification) :: rest)

/-- `task_gate_classification_inputs`, with the ordinals that the set hash counts. -/
def taskGateClassificationInputs (pairs : List (FailureClusterRevision × FailureClassificationRevision)) :
    List TaskGateClassificationInput :=
  (pairs.zipIdx 1).map fun p => ⟨p.2, p.1.1.id, p.1.1.clusterHash, p.1.2.id, p.1.2.revision, p.1.2.classificationHash⟩

/-- The validators of the decision that depend on the inputs. -/
def gateContentViolation (decision : TaskGateDecision) : Option String :=
  firstViolation
    [(10000 < decision.failureClassificationRevisionIds.length, "failureClassificationRevisionIds"),
     (¬ decision.failureClassificationRevisionIds.Nodup, "failureClassificationRevisionIds must be unique"),
     (¬ (decision.reasons.map fun r => r.code).Nodup, "Task Gate reason codes must be unique"),
     (decision.decision = .accepted ∧ decision.reasons ≠ [],
       "ACCEPTED TaskGateDecision cannot contain blocking reasons"),
     (decision.decision ≠ .accepted ∧ decision.reasons = [],
       "non-accepted TaskGateDecision requires at least one reason")]

/-- The decision that `evaluate` writes for the snapshot, under the two identities it draws. -/
def evaluateSnapshot (setHash : ClassificationSetHash) (policyDigest : Digest) (db : Db)
    (gates : List TaskGateDecision) (snapshot : TaskResultSnapshot) (id taskGateId actorId : Uuid) (now : Instant) :
    Except Fault TaskGateDecision := do
  let pairs ← requireCompletePairs (db.currentPairs snapshot.id)
  let (verdict, reasons) ← evaluateTaskGate snapshot (pairs.map fun p => p.2)
  let previous := Rows.newest (fun g => g.revision) (gates.filter fun g => g.taskRunId = snapshot.taskRunId)
  let decision : TaskGateDecision :=
    { id := id
      taskGateId := (previous.map fun g => g.taskGateId).getD taskGateId
      tenantId := snapshot.tenantId
      projectId := snapshot.projectId
      taskRunId := snapshot.taskRunId
      resultSnapshotId := snapshot.id
      resultSnapshotHash := snapshot.snapshotHash
      revision := (previous.map fun g => g.revision + 1).getD 1
      failureClassificationRevisionIds := pairs.map fun p => p.2.id
      classificationSetHash := setHash snapshot.id (taskGateClassificationInputs pairs)
      gatePolicyVersion := taskGatePolicyVersion
      gatePolicyDigest := policyDigest
      decision := verdict
      reasons := reasons
      evaluatedBy := actorId
      supersedesGateDecisionId := previous.map fun g => g.id
      evaluatedAt := now }
  match gateContentViolation decision with
  | none => pure decision
  | some message => .error (.validation message)

end Atlas.Service
