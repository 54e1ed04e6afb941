import AtlasTestOps.Lib.Grouping
import AtlasTestOps.Service.Reevaluation

/-! The failure triage of one snapshot: its diagnostic Units are grouped by the
fingerprint of their signal, and every group gets a cluster and a first judgment unless
it has them already. -/

namespace Atlas.Service

open Atlas Atlas.Task Atlas.Result Atlas.Store Txn

variable (C : ClassificationHashes)

/-- One Unit of the snapshot, in Manifest order. -/
structure ClusterInput where
  resolution : UnitResolutionRevision
  hygiene : Option UnitHygieneResolutionRevision
deriving DecidableEq, Repr

namespace ClusterInput

def diagnostic (x : ClusterInput) : Bool := isDiagnosticFailure x.resolution x.hygiene

def signal (x : ClusterInput) : FailureSignal := failureSignalFor x.resolution x.hygiene

end ClusterInput

structure FailureClassificationBatch where
  resultSnapshotId : Uuid
  clusters : List FailureClusterRevision
  classifications : List FailureClassificationRevision
deriving DecidableEq, Repr

def triageNotFound : Fault := notFound "未找到可访问的 Snapshot、Cluster 或 Classification。"

/-- Row level security hides the snapshots of other tenants. -/
def visibleSnapshot (db : Db) (actor : ActorContext) (id : Uuid) : Option TaskResultSnapshot :=
  (db.getSnapshotById id).filter fun s => s.tenantId = actor.tenantId

def requireOperableRun (actor : ActorContext) (run : Option TaskRun)
    (snapshot : TaskResultSnapshot) : Op Unit := do
  let run ← demand run triageNotFound
  raiseIf (run.id ≠ snapshot.taskRunId ∨ run.tenantId ≠ snapshot.tenantId ∨
      run.projectId ≠ snapshot.projectId ∨ ¬ actor.canReadProject snapshot.projectId)
    triageNotFound
  raiseIf (¬ (actor.canOperateProject snapshot.projectId ∨
      actor.canReviewResults snapshot.projectId))
    (forbidden "当前角色不能为该 Project 生成失败归因。")
  raiseIf (run.lifecycle ≠ .closed ∨ run.materializationState ≠ .sealed ∨
      run.manifestHash ≠ snapshot.manifestHash)
    (conflict "只有已关闭并封存的 TaskRun Snapshot 可以生成失败归因。")

/-! `_load_snapshot_inputs` -/

/-- The hygiene row of a Unit; of several rows the last one counts. -/
def hygieneByUnit (hygiene : List UnitHygieneResolutionRevision) (executionUnitId : Uuid) :
    Option UnitHygieneResolutionRevision :=
  hygiene.reverse.find? fun h => h.executionUnitId = executionUnitId

def clusterInputs (snapshot : TaskResultSnapshot) (hygiene : List UnitHygieneResolutionRevision) :
    List UnitResolutionRevision → Op (List ClusterInput)
  | [] => pure []
  | resolution :: resolutions => do
    raiseIf (resolution.toRunScope ≠ snapshot.toRunScope)
      (conflict "Snapshot 与 UnitResolution scope 不一致。")
    let row := hygieneByUnit hygiene resolution.executionUnitId
    raiseIf (∃ h ∈ row, h.toRunScope ≠ snapshot.toRunScope)
      (conflict "Snapshot 与 Hygiene Resolution scope 不一致。")
    let inputs ← clusterInputs snapshot hygiene resolutions
    pure (⟨resolution, row⟩ :: inputs)

def loadHygiene (snapshot : TaskResultSnapshot) : Op (List UnitHygieneResolutionRevision) :=
  match snapshot.unitHygieneResolutionRevisionIds with
  | none => pure []
  | some ids => do
    let hygiene ← read fun db => db.listHygieneResolutionsByIds ids
    raiseIf (hygiene.length ≠ snapshot.manifestCount ∨ (hygiene.map fun h => h.id) ≠ ids)
      (conflict "Snapshot 绑定的 Hygiene Resolution 集合不完整。")
    pure hygiene

def loadSnapshotInputs (snapshot : TaskResultSnapshot) : Op (List ClusterInput) := do
  let resolutions ← read fun db => db.listResolutionsByIds snapshot.unitResolutionRevisionIds
  raiseIf (resolutions.length ≠ snapshot.manifestCount ∨
      (resolutions.map fun r => r.id) ≠ snapshot.unitResolutionRevisionIds)
    (conflict "Snapshot 绑定的 UnitResolution 集合不完整。")
  let hygiene ← loadHygiene snapshot
  clusterInputs snapshot hygiene resolutions

/-! Clusters and judgments. -/

/-- The diagnostic Units by the fingerprint of their signal. -/
abbrev SignalGroup := Grouping.Group Digest FailureSignal ClusterInput

def signalGroups (inputs : List ClusterInput) : List SignalGroup :=
  Grouping.collect (fun x => C.fingerprint x.signal) (fun x => x.signal)
    (inputs.filter fun x => x.diagnostic)

def clusterContent (snapshot : TaskResultSnapshot) (group : SignalGroup)
    (representative id clusterId : Uuid) (createdAt : Instant) : FailureClusterRevisionContent :=
  { id := id
    failureClusterId := clusterId
    tenantId := snapshot.tenantId
    projectId := snapshot.projectId
    taskRunId := snapshot.taskRunId
    resultSnapshotId := snapshot.id
    revision := 1
    fingerprintPolicyDigest := failureClusterPolicyDigest
    fingerprint := group.key
    signal := group.tag
    affectedUnitResolutionRevisionIds := group.members.map fun x => x.resolution.id
    affectedCount := group.members.length
    representativeUnitResolutionRevisionId := representative
    supersedesClusterRevisionId := none
    projectionWatermark := snapshot.projectionWatermark
    createdAt := createdAt }

/-- `_get_or_create_cluster` after the lookup -/
def createCluster (snapshot : TaskResultSnapshot) (group : SignalGroup) (createdAt : Instant) :
    Op FailureClusterRevision := do
  let id ← newEntityId
  let clusterId ← newEntityId
  let first ← demand group.members.head? (.validation "tuple index out of range")
  let content := clusterContent snapshot group first.resolution.id id clusterId createdAt
  let valid ← validated content.violation
  let cluster : FailureClusterRevision := ⟨content, C.cluster content, valid.down⟩
  insertFailureCluster cluster
  pure cluster

def getOrCreateCluster (snapshot : TaskResultSnapshot) (group : SignalGroup)
    (createdAt : Instant) : Op FailureClusterRevision := do
  let existing ← read fun db =>
    db.getFailureCluster snapshot.id group.key failureClusterPolicyDigest
  match existing with
  | some cluster => pure cluster
  | none => createCluster C snapshot group createdAt

/-- The evidence for the judgment over a cluster, in its canonical order. -/
def supportingEvidence (signal : FailureSignal) (representative : ClusterInput) :
    List FailureEvidenceRef :=
  let resolution : FailureEvidenceRef :=
    ⟨.unitResolution, representative.resolution.id, representative.resolution.inputSetHash⟩
  let evidence := match representative.hygiene with
    | some hygiene =>
      if signal.failureDomain = FailureDomain.cleanup then
        [resolution, ⟨.unitHygieneResolution, hygiene.id, hygiene.resolutionHash⟩]
      else [resolution]
    | none => [resolution]
  evidence.insertionSort fun a b => a.precedes b

def classificationContent (snapshot : TaskResultSnapshot) (cluster : FailureClusterRevision)
    (rule : String × String × ℕ × List String) (evidence : List FailureEvidenceRef)
    (id classificationId : Uuid) (createdAt : Instant) : FailureClassificationRevisionContent :=
  { id := id
    failureClassificationId := classificationId
    tenantId := snapshot.tenantId
    projectId := snapshot.projectId
    taskRunId := snapshot.taskRunId
    resultSnapshotId := snapshot.id
    failureClusterRevisionId := cluster.id
    revision := 1
    failureDomain := cluster.signal.failureDomain
    hypothesisCode := rule.1
    hypothesis := rule.2.1
    confidence := rule.2.2.1
    supportingEvidenceRefs := evidence
    contradictingEvidenceRefs := []
    evidenceGapCodes := rule.2.2.2
    judgmentState := .ruleProposed
    authorKind := .systemRule
    authoredBy := none
    modelVersionRef := none
    classificationPolicyDigest := failureClassificationPolicyDigest
    clientMutationId := .rule cluster.id
    supersedesRevisionId := none
    createdAt := createdAt }

/-- `_get_or_create_rule_classification` after the lookup -/
def createRuleClassification (snapshot : TaskResultSnapshot) (cluster : FailureClusterRevision)
    (affected : List ClusterInput) (createdAt : Instant) : Op FailureClassificationRevision := do
  let rule ← demand (ruleClassificationForSignal cluster.signal) (.validation "KeyError")
  let representative ← demand
    (affected.find? fun x => x.resolution.id = cluster.representativeUnitResolutionRevisionId)
    (.validation "StopIteration")
  let classificationId ← newEntityId
  let id ← newEntityId
  let content := classificationContent snapshot cluster rule
    (supportingEvidence cluster.signal representative) id classificationId createdAt
  let valid ← validated content.violation
  let classification : FailureClassificationRevision :=
    ⟨content, C.classification content, valid.down⟩
  insertFailureClassification classification
  pure classification

def getOrCreateRuleClassification (snapshot : TaskResultSnapshot)
    (cluster : FailureClusterRevision) (affected : List ClusterInput) (createdAt : Instant) :
    Op FailureClassificationRevision := do
  let existing ← read fun db => db.getLatestClassificationForCluster cluster.id
  match existing with
  | some classification => pure classification
  | none => createRuleClassification C snapshot cluster affected createdAt

def classifyGroups (snapshot : TaskResultSnapshot) (createdAt : Instant) :
    List SignalGroup → Op (List (FailureClusterRevision × FailureClassificationRevision))
  | [] => pure []
  | group :: groups => do
    let cluster ← getOrCreateCluster C snapshot group createdAt
    let classification ←
      getOrCreateRuleClassification C snapshot cluster group.members createdAt
    let rest ← classifyGroups snapshot createdAt groups
    pure ((cluster, classification) :: rest)

/-- `classify_snapshot` at the transaction time `now`. -/
def classifySnapshot (actor : ActorContext) (resultSnapshotId : Uuid) (now : Instant) :
    Op FailureClassificationBatch := do
  let found ← read fun db => visibleSnapshot db actor resultSnapshotId
  let snapshot ← demand found triageNotFound
  let run ← read fun db => visibleRun db actor snapshot.taskRunId
  requireOperableRun actor run snapshot
  let inputs ← loadSnapshotInputs snapshot
  let classified ← classifyGroups C snapshot now (signalGroups C inputs)
  pure
    { resultSnapshotId := snapshot.id
      clusters := classified.map fun pair => pair.1
      classifications := classified.map fun pair => pair.2 }

end Atlas.Service
