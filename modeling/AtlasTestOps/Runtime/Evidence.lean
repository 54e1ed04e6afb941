import Mathlib.Data.List.Sort
import Mathlib.Data.String.Basic
import AtlasTestOps.Core.Wire
import AtlasTestOps.Runtime.Browser

/-! The evidence of a DebugRun: the results a Worker submits for the assertions of a Test IR, and
the manifest that the verdict is read from. -/

namespace Atlas.Runtime

open Atlas

inductive OracleStrength
  | hard | soft | diagnostic
deriving DecidableEq, Repr

inductive OracleOutcome
  | passed | failed | inconclusive
deriving DecidableEq, Repr

inductive EvidenceCompleteness
  | complete | partial_ | missing
deriving DecidableEq, Repr

structure AssertionSpec where
  assertionId : String
  nodeId : String
  evaluatorVersionRef : String
  strength : OracleStrength
deriving DecidableEq, Repr

/-- The assertions and the parameters of the nodes. The compiler names an assertion after its
node, and a valid graph has every node id once. -/
structure TestIr where
  assertions : List AssertionSpec
  nodeParams : List (String × String)
  unique : (assertions.map AssertionSpec.assertionId).Nodup
deriving DecidableEq, Repr

structure AssertionResultInput where
  assertionId : String
  status : AssertionStatus
  expectedDigest : Digest
  actualSafeSummary : String
  evaluatorVersionRef : String
  evidenceRefs : List Uuid
  observedAt : Instant
  durationMs : ℕ
deriving DecidableEq, Repr

structure EvidenceArtifact where
  id : Uuid
  kind : EvidenceArtifactKind
  contentDigest : Digest
  sizeBytes : ℕ
  mimeType : String
  redactionPolicyDigest : Digest
  integrity : ArtifactIntegrity
  required : Bool
  capturedAt : Instant
deriving DecidableEq, Repr

structure EvidenceArtifactInput extends EvidenceArtifact where
  objectRef : String
deriving DecidableEq, Repr

/-- A command as its validators leave it: results and artifacts in order, each once. -/
structure FinalizeDebugEvidence where
  executionContractId : Uuid
  executionContractDigest : Digest
  assertionResults : List AssertionResultInput
  artifacts : List EvidenceArtifactInput
  eventChainHeadDigest : Digest
  eventCount : ℕ
  finalizedAt : Instant
  resultsSorted : (assertionResults.map AssertionResultInput.assertionId).Pairwise (· < ·)
  artifactsSorted : (artifacts.map fun a => uuidText a.id).Pairwise (· < ·)
deriving DecidableEq, Repr

structure AssertionResultBody where
  id : Uuid
  assertionId : String
  nodeId : String
  strength : OracleStrength
  status : AssertionStatus
  expectedDigest : Digest
  actualSafeSummary : String
  evaluatorVersionRef : String
  evidenceRefs : List Uuid
  observedAt : Instant
  durationMs : ℕ
deriving DecidableEq, Repr

structure AssertionResult extends AssertionResultBody where
  resultDigest : Digest
deriving DecidableEq, Repr

structure EvidenceManifestBody where
  id : Uuid
  debugRunId : Uuid
  executionContractId : Uuid
  executionContractDigest : Digest
  outcome : OracleOutcome
  completeness : EvidenceCompleteness
  integrity : ArtifactIntegrity
  assertionResults : List AssertionResult
  missingAssertionIds : List String
  artifacts : List EvidenceArtifact
  oracleResultsDigest : Digest
  artifactManifestDigest : Digest
  eventChainHeadDigest : Digest
  eventCount : ℕ
  passedAssertions : ℕ
  failedAssertions : ℕ
  inconclusiveAssertions : ℕ
  finalizedAt : Instant
deriving DecidableEq, Repr

structure EvidenceManifest extends EvidenceManifestBody where
  contentDigest : Digest
deriving DecidableEq, Repr

/-- `canonical_digest` on what finalization hashes; the first two are written into reports. -/
structure EvidenceDigests where
  resultInput : AssertionResultInput → String
  artifactInput : EvidenceArtifactInput → String
  command : FinalizeDebugEvidence → Digest
  expected : AssertionSpec → String → Digest
  result : AssertionResultBody → Digest
  oracleResults : List AssertionResult → List String → Digest
  artifacts : List EvidenceArtifact → Digest
  manifest : EvidenceManifestBody → Digest

variable (D : EvidenceDigests)

/-- `validate_manifest_shape` -/
def EvidenceManifest.violation (m : EvidenceManifest) : Option String :=
  firstViolation [
    (¬ (m.assertionResults.map (·.assertionId)).Pairwise (· ≤ ·) ∨
        ¬ (m.assertionResults.map (·.assertionId)).Nodup,
      "assertionResults must be sorted and unique"),
    (¬ (m.artifacts.map fun a => uuidText a.id).Pairwise (· ≤ ·) ∨
        ¬ (m.artifacts.map EvidenceArtifact.id).Nodup, "artifacts must be sorted and unique"),
    (m.assertionResults.countP (·.status = .passed) ≠ m.passedAssertions ∨
        m.assertionResults.countP (·.status = .failed) ≠ m.failedAssertions ∨
        m.assertionResults.countP (·.status = .inconclusive) ≠ m.inconclusiveAssertions,
      "assertion counts must match assertionResults"),
    (m.oracleResultsDigest ≠ D.oracleResults m.assertionResults m.missingAssertionIds,
      "oracleResultsDigest must match assertion results"),
    (m.artifactManifestDigest ≠ D.artifacts m.artifacts, "artifactManifestDigest must match artifacts"),
    (m.contentDigest ≠ D.manifest m.toEvidenceManifestBody, "contentDigest must match the evidence manifest"),
    (m.outcome = .passed ∧ (m.completeness ≠ .complete ∨ m.integrity ≠ .verified ∨
        m.missingAssertionIds ≠ []), "PASSED evidence must be complete and verified")]

/-! The oracle. -/

def TestIr.get (ir : TestIr) (assertionId : String) : Option AssertionSpec :=
  ir.assertions.find? fun a => a.assertionId = assertionId

def expectedAssertionDigest (ir : TestIr) (assertionId : String) : Except String Digest :=
  match ir.get assertionId with
  | none => .error "assertion is not part of the frozen Test IR"
  | some assertion =>
    match ir.nodeParams.lookup assertion.nodeId with
    | none => .error "assertion node is missing from the frozen Test IR"
    | some params => .ok (D.expected assertion params)

def buildAssertionResult (ir : TestIr) (newId : String → Uuid) (value : AssertionResultInput) :
    Except String AssertionResult :=
  match ir.get value.assertionId with
  | none => .error "assertion result is not declared by the frozen Test IR"
  | some specification => do
    let expectedDigest ← expectedAssertionDigest D ir value.assertionId
    if value.expectedDigest ≠ expectedDigest then
      .error "assertion expectedDigest does not match the frozen program"
    else if value.evaluatorVersionRef ≠ specification.evaluatorVersionRef then
      .error "assertion evaluator version does not match the frozen program"
    else
      let body : AssertionResultBody :=
        { id := newId value.assertionId, assertionId := value.assertionId
          nodeId := specification.nodeId, strength := specification.strength, status := value.status
          expectedDigest := value.expectedDigest, actualSafeSummary := value.actualSafeSummary
          evaluatorVersionRef := value.evaluatorVersionRef, evidenceRefs := value.evidenceRefs
          observedAt := value.observedAt, durationMs := value.durationMs }
      .ok { body with resultDigest := D.result body }

def buildAssertionResults (ir : TestIr) (newId : String → Uuid) :
    List AssertionResultInput → Except String (List AssertionResult)
  | [] => .ok []
  | value :: values => do
    let result ← buildAssertionResult D ir newId value
    let results ← buildAssertionResults ir newId values
    pure (result :: results)

/-- `sorted(set(declared).difference(present))` -/
def missingAssertions (ir : TestIr) (results : List AssertionResult) : List AssertionSpec :=
  ir.assertions.filter fun a => ∀ r ∈ results, r.assertionId ≠ a.assertionId

def evidenceCompleteness (missing : List AssertionSpec) (results : List AssertionResult) :
    EvidenceCompleteness :=
  if missing.any (fun a => a.strength = .hard) ||
      results.any (fun r => r.strength = .hard && r.evidenceRefs = []) then .missing
  else if missing ≠ [] || results.any (fun r => r.evidenceRefs = []) then .partial_
  else .complete

def evidenceIntegrity (artifacts : List EvidenceArtifactInput) : ArtifactIntegrity :=
  if artifacts.any fun a => a.integrity = .invalid then .invalid else .verified

def oracleOutcome (hardResults : List AssertionResult) (completeness : EvidenceCompleteness)
    (integrity : ArtifactIntegrity) : OracleOutcome :=
  if hardResults.any fun r => r.status = .failed then .failed
  else if hardResults = [] || hardResults.any (fun r => r.status = .inconclusive) ||
      completeness ≠ .complete || integrity ≠ .verified then .inconclusive
  else .passed

/-- The manifest before its own validator. -/
def assembleManifest (manifestId runId : Uuid) (ir : TestIr) (contract : ExecutionContract)
    (command : FinalizeDebugEvidence) (results : List AssertionResult) : EvidenceManifest :=
  let missing := missingAssertions ir results
  let missingIds := (missing.map AssertionSpec.assertionId).insertionSort (· ≤ ·)
  let completeness := evidenceCompleteness missing results
  let integrity := evidenceIntegrity command.artifacts
  let artifacts := command.artifacts.map EvidenceArtifactInput.toEvidenceArtifact
  let body : EvidenceManifestBody :=
    { id := manifestId, debugRunId := runId, executionContractId := contract.id
      executionContractDigest := contract.contentDigest
      outcome := oracleOutcome (results.filter fun r => r.strength = .hard) completeness integrity
      completeness := completeness, integrity := integrity, assertionResults := results
      missingAssertionIds := missingIds, artifacts := artifacts
      oracleResultsDigest := D.oracleResults results missingIds
      artifactManifestDigest := D.artifacts artifacts
      eventChainHeadDigest := command.eventChainHeadDigest, eventCount := command.eventCount
      passedAssertions := results.countP (·.status = .passed)
      failedAssertions := results.countP (·.status = .failed)
      inconclusiveAssertions := results.countP (·.status = .inconclusive)
      finalizedAt := command.finalizedAt }
  { body with contentDigest := D.manifest body }

def buildEvidenceManifest (manifestId : Uuid) (newId : String → Uuid) (runId : Uuid) (ir : TestIr)
    (contract : ExecutionContract) (command : FinalizeDebugEvidence) : Except String EvidenceManifest :=
  if command.executionContractId ≠ contract.id then
    .error "finalization references a different execution contract"
  else if command.executionContractDigest ≠ contract.contentDigest then
    .error "finalization execution contract digest is stale"
  else if command.finalizedAt < contract.createdAt then
    .error "evidence finalization cannot predate the execution contract"
  else if contract.executionDeadline < command.finalizedAt then
    .error "evidence finalization cannot exceed the execution deadline"
  else if command.assertionResults.any fun r =>
      r.observedAt < contract.createdAt || command.finalizedAt < r.observedAt then
    .error "assertion observation is outside the execution window"
  else if command.artifacts.any fun a =>
      a.capturedAt < contract.createdAt || command.finalizedAt < a.capturedAt then
    .error "evidence capture is outside the execution window"
  else do
    let results ← buildAssertionResults D ir newId command.assertionResults
    if results.any fun r => r.evidenceRefs.any fun ref => command.artifacts.all fun a => a.id ≠ ref then
      .error "assertion result references an unknown evidence artifact"
    else
      let manifest := assembleManifest D manifestId runId ir contract command results
      match manifest.violation D with
      | some message => .error message
      | none => .ok manifest

/-! The run. -/

structure DebugRun where
  id : Uuid
  tenantId : Uuid
  projectId : Uuid
  environmentId : Uuid
  lifecycle : DebugRunLifecycle
  cancelRequestedAt : Option Instant
  testIr : TestIr
  executionDeadline : Instant
  outcome : Option OracleOutcome
  evidenceManifestId : Option Uuid
deriving DecidableEq, Repr

def DebugRun.finish (run : DebugRun) (manifest : EvidenceManifest) : DebugRun :=
  { run with
    lifecycle := .terminated, outcome := some manifest.outcome, evidenceManifestId := some manifest.id }

end Atlas.Runtime
