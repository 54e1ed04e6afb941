import Mathlib.Data.List.Sort
import AtlasTestOps.Result.Projections

/-! Failure triage of one snapshot: which Units need it, the signal a Unit shows, the
cluster of the Units that show one signal, and the judgment the rules propose for a
cluster. -/

namespace Atlas.Result

open Atlas

inductive FailureDomain
  | product | testSpec | testData | identity | environment | infrastructure
  | externalDependency | agentAutomation | policySecurity | evidence | cleanup | unknown
deriving DecidableEq, Repr

inductive ClassificationJudgmentState
  | ruleProposed | aiProposed | humanConfirmed | humanRejected | humanRevised
deriving DecidableEq, Repr

inductive ClassificationAuthorKind
  | systemRule | aiModel | human
deriving DecidableEq, Repr

inductive FailureEvidenceKind
  | attemptClosureNotice | attemptSeal | unitHygieneResolution | unitResolution
deriving DecidableEq, Repr

def failureClusterPolicyDigest : Digest :=
  0xf9f6251050af03121ea114ee124b9cf70cb29dbec8768703ef6615ac7a6048a4#256

def failureClassificationPolicyDigest : Digest :=
  0x7f9d3eff8dfe688cf771a5d232302ee3492b892947eb8e39d1cd016dedc0193b#256

structure FailureEvidenceRef where
  kind : FailureEvidenceKind
  refId : Uuid
  contentDigest : Digest
deriving DecidableEq, Repr

/-- The position of the kind in the order of its wire names. -/
def FailureEvidenceKind.rank : FailureEvidenceKind → ℕ
  | .attemptClosureNotice => 0
  | .attemptSeal => 1
  | .unitHygieneResolution => 2
  | .unitResolution => 3

/-- `sort_key` -/
def FailureEvidenceRef.precedes (a b : FailureEvidenceRef) : Bool :=
  a.kind.rank < b.kind.rank ||
    (a.kind.rank = b.kind.rank &&
      (a.refId < b.refId ||
        (a.refId = b.refId && a.contentDigest.toNat ≤ b.contentDigest.toNat)))

structure FailureSignal where
  failureDomain : FailureDomain
  signalCode : String
  effectiveVerdict : Verdict
  outcomeClass : OutcomeClass
  closureReason : String
  dataHygiene : DataHygiene
  evidenceCompleteness : EvidenceCompleteness
  evidenceIntegrity : EvidenceIntegrity
  stability : Stability
deriving DecidableEq, Repr

/-! The cluster. -/

structure FailureClusterRevisionContent where
  id : Uuid
  failureClusterId : Uuid
  tenantId : Uuid
  projectId : Uuid
  taskRunId : Uuid
  resultSnapshotId : Uuid
  revision : ℕ
  fingerprintPolicyDigest : Digest
  fingerprint : Digest
  signal : FailureSignal
  affectedUnitResolutionRevisionIds : List Uuid
  affectedCount : ℕ
  representativeUnitResolutionRevisionId : Uuid
  supersedesClusterRevisionId : Option Uuid
  projectionWatermark : Instant
  createdAt : Instant
deriving DecidableEq, Repr

/-- The most Units one cluster may hold. -/
def clusterLimit : ℕ := 10000

/-- The field bounds and `validate_cluster_content`; the fingerprint is recomputed by
whoever builds the content. -/
def FailureClusterRevisionContent.violation (c : FailureClusterRevisionContent) :
    Option String :=
  firstViolation
    [(c.revision < 1, "revision"),
     (!safeReason c.signal.signalCode, "signalCode"),
     (!safeReason c.signal.closureReason, "closureReason"),
     (c.affectedUnitResolutionRevisionIds.length < 1 ∨
        clusterLimit < c.affectedUnitResolutionRevisionIds.length,
       "affectedUnitResolutionRevisionIds"),
     (c.affectedCount < 1 ∨ clusterLimit < c.affectedCount, "affectedCount"),
     (¬ c.affectedUnitResolutionRevisionIds.Nodup,
       "affected UnitResolution revision IDs must be unique"),
     (c.affectedCount ≠ c.affectedUnitResolutionRevisionIds.length,
       "affectedCount must match the exact affected revision set"),
     (c.representativeUnitResolutionRevisionId ∉ c.affectedUnitResolutionRevisionIds,
       "representative UnitResolution must belong to the cluster"),
     (c.fingerprintPolicyDigest ≠ failureClusterPolicyDigest,
       "fingerprintPolicyDigest must match the frozen Cluster Policy"),
     (c.revision = 1 ∧ c.supersedesClusterRevisionId ≠ none,
       "first FailureCluster revision cannot supersede another"),
     (1 < c.revision ∧ c.supersedesClusterRevisionId = none,
       "later FailureCluster revision requires its predecessor"),
     (c.createdAt < c.projectionWatermark,
       "FailureCluster createdAt cannot predate its source watermark")]

structure FailureClusterRevision extends FailureClusterRevisionContent where
  clusterHash : Digest
  valid : toFailureClusterRevisionContent.violation = none
deriving DecidableEq, Repr

/-! The judgment over a cluster. -/

/-- A mutation identity: the one a rule derives from its cluster, or a client's own. -/
inductive ClientMutationId
  | rule (clusterRevisionId : Uuid)
  | client (value : String)
deriving DecidableEq, Repr

structure FailureClassificationRevisionContent where
  id : Uuid
  failureClassificationId : Uuid
  tenantId : Uuid
  projectId : Uuid
  taskRunId : Uuid
  resultSnapshotId : Uuid
  failureClusterRevisionId : Uuid
  revision : ℕ
  failureDomain : FailureDomain
  hypothesisCode : String
  hypothesis : String
  confidence : ℕ
  supportingEvidenceRefs : List FailureEvidenceRef
  contradictingEvidenceRefs : List FailureEvidenceRef
  evidenceGapCodes : List String
  judgmentState : ClassificationJudgmentState
  authorKind : ClassificationAuthorKind
  authoredBy : Option Uuid
  modelVersionRef : Option String
  classificationPolicyDigest : Digest
  clientMutationId : ClientMutationId
  supersedesRevisionId : Option Uuid
  createdAt : Instant
deriving DecidableEq, Repr

def isMutationChar (c : Char) : Bool :=
  c.isAlphanum || c == '.' || c == '_' || c == ':' || c == '-'

/-- `CLASSIFICATION_MUTATION_PATTERN`, between 8 and 200 characters. -/
def ClientMutationId.wellFormed : ClientMutationId → Bool
  | .rule _ => true
  | .client s =>
    match s.toList with
    | [] => false
    | c :: cs => c.isAlphanum && cs.all isMutationChar && 7 ≤ cs.length && cs.length ≤ 199

/-- `SAFE_HYPOTHESIS_PATTERN` -/
def safeHypothesis (s : String) : Bool :=
  1 ≤ s.toList.length && s.toList.length ≤ 500 &&
    s.toList.all fun c => 0x20 ≤ c.toNat && c.toNat ≠ 0x7f

/-- The rule that `require_canonical_gap_codes` applies to one code. -/
def safeGapCode (s : String) : Bool :=
  let word := s.toList.filter (· ≠ '_')
  2 ≤ s.toList.length && s.toList.length ≤ 96 && s.toList.all (fun c => c.toUpper = c) &&
    word ≠ [] && word.all Char.isAlphanum

def canonicalEvidence (refs : List FailureEvidenceRef) : Bool :=
  refs.Nodup && refs.insertionSort (fun a b => a.precedes b) = refs

def canonicalGapCodes (codes : List String) : Bool :=
  codes.all safeGapCode && codes.Nodup && codes.insertionSort (· ≤ ·) = codes

namespace FailureClassificationRevisionContent

variable (c : FailureClassificationRevisionContent)

/-- The author and the judgment state fit each other. -/
def authorityMatches : Bool :=
  match c.authorKind with
  | .systemRule =>
    c.judgmentState = .ruleProposed && c.authoredBy.isNone && c.modelVersionRef.isNone
  | .aiModel =>
    c.judgmentState = .aiProposed && c.authoredBy.isNone && c.modelVersionRef.isSome
  | .human =>
    (c.judgmentState = .humanConfirmed || c.judgmentState = .humanRejected ||
      c.judgmentState = .humanRevised) && c.authoredBy.isSome && c.modelVersionRef.isNone

def authorityMessage : String :=
  match c.authorKind with
  | .systemRule => "SYSTEM_RULE requires an unauthored RULE_PROPOSED judgment"
  | .aiModel => "AI_MODEL requires an AI_PROPOSED judgment and modelVersionRef"
  | .human => "HUMAN judgment requires an actor and no modelVersionRef"

/-- The field validators and `validate_classification_content`. -/
def violation : Option String :=
  firstViolation
    [(c.revision < 1, "revision"),
     (!safeReason c.hypothesisCode, "hypothesisCode"),
     (!safeHypothesis c.hypothesis, "hypothesis"),
     (10000 < c.confidence, "confidence"),
     (c.supportingEvidenceRefs.length < 1 ∨ 256 < c.supportingEvidenceRefs.length,
       "supportingEvidenceRefs"),
     (256 < c.contradictingEvidenceRefs.length, "contradictingEvidenceRefs"),
     (32 < c.evidenceGapCodes.length, "evidenceGapCodes"),
     (!c.clientMutationId.wellFormed, "clientMutationId"),
     (!canonicalEvidence c.supportingEvidenceRefs,
       "classification evidence references must be canonically ordered"),
     (!canonicalEvidence c.contradictingEvidenceRefs,
       "classification evidence references must be canonically ordered"),
     (!canonicalGapCodes c.evidenceGapCodes, "evidenceGapCodes must be unique and sorted"),
     (c.supportingEvidenceRefs.any (· ∈ c.contradictingEvidenceRefs),
       "supporting and contradicting evidence cannot overlap"),
     (c.classificationPolicyDigest ≠ failureClassificationPolicyDigest,
       "classificationPolicyDigest must match the frozen Policy"),
     (c.revision = 1 ∧ c.supersedesRevisionId ≠ none,
       "first Classification revision cannot supersede another"),
     (1 < c.revision ∧ c.supersedesRevisionId = none,
       "later Classification revision requires its predecessor"),
     (!c.authorityMatches, c.authorityMessage),
     (c.judgmentState = .humanRejected ∧
        (c.failureDomain ≠ .unknown ∨ c.confidence ≠ 0 ∨ c.contradictingEvidenceRefs = []),
       "HUMAN_REJECTED requires UNKNOWN, zero confidence, and contradiction evidence")]

end FailureClassificationRevisionContent

structure FailureClassificationRevision extends FailureClassificationRevisionContent where
  classificationHash : Digest
  valid : toFailureClassificationRevisionContent.violation = none
deriving DecidableEq, Repr

/-- SHA-256 over the canonical JSON of each triage document. -/
structure ClassificationHashes where
  fingerprint : FailureSignal → Digest
  cluster : FailureClusterRevisionContent → Digest
  classification : FailureClassificationRevisionContent → Digest

/-! Which Units need triage, and the signal each one shows. -/

def effectiveHygiene (resolution : UnitResolutionRevision)
    (hygiene : Option UnitHygieneResolutionRevision) : DataHygiene :=
  match hygiene with
  | some h => h.dataHygiene
  | none => resolution.dataHygiene

def isDiagnosticFailure (resolution : UnitResolutionRevision)
    (hygiene : Option UnitHygieneResolutionRevision) : Bool :=
  resolution.effectiveVerdict ≠ .passed ||
    resolution.stability ≠ .stable ||
    (effectiveHygiene resolution hygiene = .cleanupFailed ||
      effectiveHygiene resolution hygiene = .leaked) ||
    resolution.evidenceIntegrity ≠ .verified ||
    (resolution.evidenceCompleteness = .missing ||
      resolution.evidenceCompleteness = .partialEvidence)

/-- The first rule of the taxonomy that fits. -/
def signalRule (resolution : UnitResolutionRevision) (hygiene : DataHygiene) :
    FailureDomain × String :=
  if hygiene = .leaked then (.cleanup, "CLEANUP_LEAKED")
  else if hygiene = .cleanupFailed then (.cleanup, "CLEANUP_FAILED")
  else if resolution.evidenceIntegrity = .invalid then (.evidence, "EVIDENCE_INTEGRITY_INVALID")
  else if resolution.evidenceCompleteness = .missing then
    (.evidence, "EVIDENCE_REQUIRED_MISSING")
  else if resolution.evidenceCompleteness = .partialEvidence then
    (.evidence, "EVIDENCE_REQUIRED_PARTIAL")
  else if resolution.evidenceIntegrity = .unverified then
    (.evidence, "EVIDENCE_INTEGRITY_UNVERIFIED")
  else if resolution.outcomeClass = .policy then (.policySecurity, "POLICY_REJECTED")
  else if resolution.outcomeClass = .dependency then (.externalDependency, "DEPENDENCY_FAILURE")
  else if resolution.outcomeClass = .platform ∨ resolution.stability = .infraRecovered then
    (.infrastructure, "INFRASTRUCTURE_FAILURE")
  else if resolution.stability = .flakySuspect ∨ resolution.stability = .flakyConfirmed then
    (.unknown, "FLAKY_SIGNAL")
  else if resolution.outcomeClass = .automation then (.unknown, "AUTOMATION_CAUSE_UNRESOLVED")
  else if resolution.outcomeClass = .business then (.unknown, "PRODUCT_OR_SPEC_UNRESOLVED")
  else if resolution.outcomeClass = .user then (.unknown, "USER_OUTCOME_UNRESOLVED")
  else (.unknown, "CAUSE_UNKNOWN")

def failureSignalFor (resolution : UnitResolutionRevision)
    (hygiene : Option UnitHygieneResolutionRevision) : FailureSignal :=
  let rule := signalRule resolution (effectiveHygiene resolution hygiene)
  { failureDomain := rule.1
    signalCode := rule.2
    effectiveVerdict := resolution.effectiveVerdict
    outcomeClass := resolution.outcomeClass
    closureReason := resolution.closureReason
    dataHygiene := effectiveHygiene resolution hygiene
    evidenceCompleteness := resolution.evidenceCompleteness
    evidenceIntegrity := resolution.evidenceIntegrity
    stability := resolution.stability }

/-- The frozen hypothesis, confidence and evidence gaps of each signal code. -/
def hypotheses : List (String × String × ℕ × List String) :=
  [("CLEANUP_LEAKED", "Cleanup truth contains an explicitly leaked resource.", 10000, []),
   ("CLEANUP_FAILED", "Cleanup truth did not reach a terminal successful state.", 10000, []),
   ("EVIDENCE_INTEGRITY_INVALID",
     "Trusted result evidence failed integrity verification.", 10000, []),
   ("EVIDENCE_REQUIRED_MISSING",
     "Required evidence is missing from the trusted result.", 10000, []),
   ("EVIDENCE_REQUIRED_PARTIAL",
     "Required result evidence is only partially complete.", 10000, []),
   ("EVIDENCE_INTEGRITY_UNVERIFIED",
     "Result evidence has not completed integrity verification.", 10000, []),
   ("POLICY_REJECTED",
     "A frozen runtime or security policy rejected the execution.", 9500, []),
   ("DEPENDENCY_FAILURE",
     "The trusted result attributes the outcome to an external dependency.", 9000,
     ["DEPENDENCY_DETAIL_MISSING"]),
   ("INFRASTRUCTURE_FAILURE",
     "The trusted result indicates an infrastructure failure or recovery.", 9000,
     ["INFRASTRUCTURE_COMPONENT_MISSING"]),
   ("FLAKY_SIGNAL",
     "Comparable attempts produced an unstable result sequence.", 7500,
     ["ROOT_CAUSE_EVIDENCE_MISSING"]),
   ("AUTOMATION_CAUSE_UNRESOLVED",
     "Automation-related execution failed without enough evidence for a narrower cause.", 2500,
     ["AUTOMATION_DETAIL_MISSING"]),
   ("PRODUCT_OR_SPEC_UNRESOLVED",
     "The business assertion failed, but product and test-spec causes remain unresolved.", 2500,
     ["PRODUCT_VS_TEST_SPEC_UNRESOLVED"]),
   ("USER_OUTCOME_UNRESOLVED",
     "A user-originated outcome prevented a conclusive failure attribution.", 2500,
     ["USER_OUTCOME_DETAIL_MISSING"]),
   ("CAUSE_UNKNOWN",
     "Available trusted facts are insufficient for a narrower failure attribution.", 0,
     ["ROOT_CAUSE_EVIDENCE_MISSING"])]

/-- `rule_classification_for_signal`: none when the table has no entry for the code. -/
def ruleClassificationForSignal (signal : FailureSignal) :
    Option (String × String × ℕ × List String) :=
  (hypotheses.find? fun entry => entry.1 = signal.signalCode).map fun entry =>
    (signal.signalCode, entry.2.1, entry.2.2.1, entry.2.2.2.insertionSort (· ≤ ·))

/-- The outcomes of the taxonomy. -/
def signalRules : List (FailureDomain × String) :=
  [(.cleanup, "CLEANUP_LEAKED"), (.cleanup, "CLEANUP_FAILED"),
   (.evidence, "EVIDENCE_INTEGRITY_INVALID"), (.evidence, "EVIDENCE_REQUIRED_MISSING"),
   (.evidence, "EVIDENCE_REQUIRED_PARTIAL"), (.evidence, "EVIDENCE_INTEGRITY_UNVERIFIED"),
   (.policySecurity, "POLICY_REJECTED"), (.externalDependency, "DEPENDENCY_FAILURE"),
   (.infrastructure, "INFRASTRUCTURE_FAILURE"), (.unknown, "FLAKY_SIGNAL"),
   (.unknown, "AUTOMATION_CAUSE_UNRESOLVED"), (.unknown, "PRODUCT_OR_SPEC_UNRESOLVED"),
   (.unknown, "USER_OUTCOME_UNRESOLVED"), (.unknown, "CAUSE_UNKNOWN")]

private theorem of_ite {α : Type} {P : α → Prop} {c : Prop} [Decidable c] {a b : α} (ha : P a)
    (hb : P b) : P (if c then a else b) := by
  by_cases hc : c
  · rwa [if_pos hc]
  · rwa [if_neg hc]

/-- What holds of every outcome holds of the rule that fits. -/
theorem signalRule_induction {P : FailureDomain × String → Prop} (h : ∀ rule ∈ signalRules, P rule)
    (resolution : UnitResolutionRevision) (hygiene : DataHygiene) :
    P (signalRule resolution hygiene) := by
  unfold signalRule
  repeat' refine of_ite (h _ (by decide)) ?_
  exact h _ (by decide)

/-- Every entry of the table passes the validators of a judgment. -/
theorem hypotheses_valid : ∀ entry ∈ hypotheses, safeReason entry.1 ∧ safeHypothesis entry.2.1 ∧
    entry.2.2.1 ≤ 10000 ∧ entry.2.2.2.length ≤ 32 ∧
    canonicalGapCodes (entry.2.2.2.insertionSort (· ≤ ·)) := by
  decide +kernel

/-- Every signal the taxonomy derives has an entry. -/
theorem ruleClassification_isSome (resolution : UnitResolutionRevision) (hygiene : DataHygiene) :
    (hypotheses.find? fun e => e.1 = (signalRule resolution hygiene).2).isSome :=
  signalRule_induction (P := fun rule => (hypotheses.find? fun e => e.1 = rule.2).isSome)
    (by decide) resolution hygiene

end Atlas.Result
