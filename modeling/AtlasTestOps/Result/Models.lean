import AtlasTestOps.Core.Contracts

/-! The Result truth contracts: the axes a result is judged on, the signed
AttemptSeal, and the reference handed out for an accepted Seal. -/

namespace Atlas.Result

open Atlas

inductive Verdict
  | pending | passed | failed | inconclusive | notEvaluated
deriving DecidableEq, Repr

inductive OutcomeClass
  | business | dependency | platform | user | automation | policy | unknown
deriving DecidableEq, Repr

inductive DataHygiene
  | pending | cleaned | cleanupFailed | leaked | notApplicable
deriving DecidableEq, Repr

inductive EvidenceCompleteness
  | pending | complete | partialEvidence | missing | notApplicable
deriving DecidableEq, Repr

inductive EvidenceIntegrity
  | unverified | verified | invalid
deriving DecidableEq, Repr

inductive ExecutionInfluence
  | autonomous | manualAssisted | manualOnly
deriving DecidableEq, Repr

inductive Stability
  | unknown | stable | infraRecovered | flakySuspect | flakyConfirmed
deriving DecidableEq, Repr

/-- The result axes that a terminal fact freezes. -/
structure ResultAxes where
  outcomeClass : OutcomeClass
  closureReason : String
  dataHygiene : DataHygiene
  evidenceCompleteness : EvidenceCompleteness
  evidenceIntegrity : EvidenceIntegrity
  executionInfluence : ExecutionInfluence
deriving DecidableEq, Repr

structure AttemptSealContent extends UnitScope, ResultAxes where
  sealId : Uuid
  unitAttemptId : Uuid
  manifestId : Uuid
  executionTicketId : Uuid
  executionTicketDigest : Digest
  oracleVerdict : Verdict
  oracleResultsHash : Digest
  evidencePolicyDigest : Digest
  runtimeDigest : Digest
  sealedAt : Instant
  signatureKid : String
deriving DecidableEq, Repr

/-- `validate_terminal_truth`, after the field patterns. -/
def AttemptSealContent.violation (c : AttemptSealContent) : Option String :=
  firstViolation
    [(!safeReason c.closureReason, "closureReason"),
     (c.manifestId ≠ c.taskRunId,
       "manifestId must equal the TaskRun-backed manifest identity"),
     (c.oracleVerdict = .pending,
       "AttemptSeal cannot contain a provisional PENDING Verdict"),
     (c.oracleVerdict = .passed ∧
        (c.evidenceCompleteness ≠ .complete ∨ c.evidenceIntegrity ≠ .verified),
       "PASSED AttemptSeal requires complete and verified evidence"),
     (c.oracleVerdict = .notEvaluated ∧ c.evidenceCompleteness = .complete,
       "NOT_EVALUATED AttemptSeal cannot claim complete evidence")]

structure AttemptSeal extends AttemptSealContent where
  contentHash : Digest
  valid : toAttemptSealContent.violation = none
deriving DecidableEq, Repr

/-- A Seal that says PASSED has complete and verified evidence. -/
theorem AttemptSeal.evidence_of_passed (s : AttemptSeal) (h : s.oracleVerdict = .passed) :
    s.evidenceCompleteness = .complete ∧ s.evidenceIntegrity = .verified := by
  have hv := s.valid
  simp only [AttemptSealContent.violation, firstViolation_cons, decide_eq_false_iff_not] at hv
  obtain ⟨-, -, -, hp, -⟩ := hv
  by_contra hne
  exact hp ⟨h, by tauto⟩

structure ResultRef where
  id : Uuid
  tenantId : Uuid
  projectId : Uuid
  taskRunId : Uuid
  executionUnitId : Uuid
  unitAttemptId : Uuid
  sealId : Uuid
  sealContentHash : Digest
  createdAt : Instant
deriving DecidableEq, Repr

structure ResultIntegrityIncident where
  id : Uuid
  tenantId : Uuid
  projectId : Uuid
  taskRunId : Uuid
  executionUnitId : Uuid
  unitAttemptId : Uuid
  acceptedSealId : Uuid
  acceptedContentHash : Digest
  conflictingSealId : Uuid
  conflictingContentHash : Digest
  signatureKid : String
  observedAt : Instant
deriving DecidableEq, Repr

end Atlas.Result
