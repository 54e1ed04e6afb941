import Mathlib.Data.List.Nodup
import AtlasTestOps.Result.Models
import AtlasTestOps.Task.Models

/-! The append-only projections over terminal Attempt facts: the closure notice of
an Attempt without a Seal, the resolution of a Unit, the hygiene resolution of a Unit,
the Task snapshot and the re-evaluation command. A value of each type has passed the
validator of its contract. -/

namespace Atlas.Result

open Atlas Atlas.Task

inductive AttemptClosureSourceStatus
  | finishedUnsealed | failed | infraError | inconclusive | canceled
deriving DecidableEq, Repr

/-- The finalities a snapshot may have, in their order. -/
inductive TaskResultSnapshotFinality
  | qualityFinal | fullyResolved | reevaluated
deriving DecidableEq, Repr

/-! The frozen policies of the projections. -/

def unitResolutionPolicyDigest : Digest :=
  0x54bd8eb8d8dd0d24c925a36b4800f5fa69977b4b3153b46e55573e3e1286be26#256

def taskResultSnapshotPolicyDigest : Digest :=
  0xf047f7c9925cce522ccf743a0dcaf69d89f9a5d60a6856ab7654de971be8951e#256

def taskResultSnapshotFullyResolvedPolicyDigest : Digest :=
  0xe4a7985c6a76073cc78179e57330f373d7baa6eb25246c8932ee3fac71dcf759#256

def taskResultSnapshotReevaluatedPolicyDigest : Digest :=
  0x45fb0eabd4c8bfe01b76871e4803b08dab7eda8924ea98912dd9907270fcb219#256

/-! The closure notice. -/

structure AttemptClosureNoticeContent extends UnitScope, ResultAxes where
  id : Uuid
  unitAttemptId : Uuid
  attemptNumber : ℕ
  sourceStatus : AttemptClosureSourceStatus
  verdict : Verdict
  closedAt : Instant
  createdAt : Instant
deriving DecidableEq, Repr

def closureOutcomeClass : AttemptClosureSourceStatus → OutcomeClass
  | .canceled => .user
  | .infraError => .platform
  | .finishedUnsealed => .automation
  | .failed => .automation
  | .inconclusive => .unknown

/-- `validate_terminal_closure`, after the field patterns. -/
def AttemptClosureNoticeContent.violation (c : AttemptClosureNoticeContent) : Option String :=
  firstViolation
    [(c.attemptNumber < 1, "attemptNumber"),
     (!safeReason c.closureReason, "closureReason"),
     (c.verdict ≠ .inconclusive ∧ c.verdict ≠ .notEvaluated,
       "AttemptClosureNotice can only be INCONCLUSIVE or NOT_EVALUATED"),
     (c.evidenceIntegrity ≠ .unverified,
       "AttemptClosureNotice evidence must remain UNVERIFIED"),
     (c.evidenceCompleteness ≠
        (if c.verdict = .notEvaluated then .notApplicable else .missing),
       "AttemptClosureNotice evidence completeness must match its Verdict"),
     (c.executionInfluence ≠ .autonomous,
       "AttemptClosureNotice cannot infer manual execution influence"),
     (c.outcomeClass ≠ closureOutcomeClass c.sourceStatus,
       "AttemptClosureNotice OutcomeClass must match sourceStatus"),
     (c.sourceStatus = .infraError ∧ c.verdict ≠ .inconclusive,
       "INFRA_ERROR closure must be INCONCLUSIVE"),
     (c.sourceStatus ≠ .canceled ∧ c.verdict ≠ .inconclusive,
       "only CANCELED closure can be NOT_EVALUATED"),
     (c.createdAt < c.closedAt, "AttemptClosureNotice createdAt cannot predate closedAt")]

structure AttemptClosureNotice extends AttemptClosureNoticeContent where
  noticeHash : Digest
  valid : toAttemptClosureNoticeContent.violation = none
deriving DecidableEq, Repr

/-- A notice never carries a business judgment. -/
theorem AttemptClosureNotice.verdict_ne_passed (n : AttemptClosureNotice) :
    n.verdict ≠ .passed := by
  have hv := n.valid
  simp only [AttemptClosureNoticeContent.violation, firstViolation_cons,
    decide_eq_false_iff_not] at hv
  obtain ⟨-, -, hverdict, -⟩ := hv
  intro h
  exact hverdict ⟨by rw [h]; decide, by rw [h]; decide⟩

/-! The resolution of a Unit. -/

structure UnitResolutionRevisionContent extends UnitScope, ResultAxes where
  id : Uuid
  unitResolutionId : Uuid
  revision : ℕ
  inputSealIds : List Uuid
  inputClosureNoticeIds : List Uuid
  inputSetHash : Digest
  effectiveVerdict : Verdict
  stability : Stability
  decisiveUnitAttemptId : Uuid
  decisiveAttemptNumber : ℕ
  resolutionPolicyDigest : Digest
  supersedesRevisionId : Option Uuid
  createdAt : Instant
deriving DecidableEq, Repr

/-- `validate_revision_chain`, after the field bounds. -/
def UnitResolutionRevisionContent.violation (c : UnitResolutionRevisionContent) : Option String :=
  firstViolation
    [(c.revision < 1, "revision"),
     (100 < c.inputSealIds.length, "inputSealIds"),
     (100 < c.inputClosureNoticeIds.length, "inputClosureNoticeIds"),
     (!safeReason c.closureReason, "closureReason"),
     (c.decisiveAttemptNumber < 1, "decisiveAttemptNumber"),
     (c.effectiveVerdict = .pending, "UnitResolutionRevision cannot contain PENDING"),
     (c.inputSealIds = [] ∧ c.inputClosureNoticeIds = [],
       "UnitResolutionRevision requires at least one input fact"),
     (¬ c.inputSealIds.Nodup, "inputSealIds must be unique"),
     (¬ c.inputClosureNoticeIds.Nodup, "inputClosureNoticeIds must be unique"),
     (c.revision = 1 ∧ c.supersedesRevisionId ≠ none,
       "first UnitResolutionRevision cannot supersede another"),
     (1 < c.revision ∧ c.supersedesRevisionId = none,
       "later UnitResolutionRevision requires its predecessor"),
     (c.resolutionPolicyDigest ≠ unitResolutionPolicyDigest,
       "resolutionPolicyDigest must match the frozen Resolution Policy"),
     (c.effectiveVerdict = .passed ∧
        (c.evidenceCompleteness ≠ .complete ∨ c.evidenceIntegrity ≠ .verified),
       "PASSED UnitResolutionRevision requires complete verified evidence")]

structure UnitResolutionRevision extends UnitResolutionRevisionContent where
  valid : toUnitResolutionRevisionContent.violation = none
deriving DecidableEq, Repr

/-- The hygiene resolution of a Unit, as far as a snapshot reads it. -/
structure UnitHygieneResolutionRevision extends UnitScope where
  id : Uuid
  revision : ℕ
  inputSetHash : Digest
  dataHygiene : DataHygiene
  resolutionPolicyDigest : Digest
  resolutionHash : Digest
  createdAt : Instant
deriving DecidableEq, Repr

/-! The Task snapshot. -/

structure ResultPassRate where
  numerator : ℕ
  denominator : ℕ
deriving DecidableEq, Repr

structure TaskVerdictCounts where
  passed : ℕ
  failed : ℕ
  inconclusive : ℕ
  notEvaluated : ℕ
deriving DecidableEq, Repr

structure TaskDataHygieneCounts where
  pending : ℕ
  cleaned : ℕ
  cleanupFailed : ℕ
  leaked : ℕ
  notApplicable : ℕ
deriving DecidableEq, Repr

structure TaskEvidenceCompletenessCounts where
  pending : ℕ
  complete : ℕ
  partialEvidence : ℕ
  missing : ℕ
  notApplicable : ℕ
deriving DecidableEq, Repr

structure TaskEvidenceIntegrityCounts where
  unverified : ℕ
  verified : ℕ
  invalid : ℕ
deriving DecidableEq, Repr

structure TaskExecutionInfluenceCounts where
  autonomous : ℕ
  manualAssisted : ℕ
  manualOnly : ℕ
deriving DecidableEq, Repr

structure TaskStabilityCounts where
  unknown : ℕ
  stable : ℕ
  infraRecovered : ℕ
  flakySuspect : ℕ
  flakyConfirmed : ℕ
deriving DecidableEq, Repr

structure TaskOutcomeClassCounts where
  business : ℕ
  dependency : ℕ
  platform : ℕ
  user : ℕ
  automation : ℕ
  policy : ℕ
  unknown : ℕ
deriving DecidableEq, Repr

structure TaskResultAxisDistributions where
  dataHygiene : TaskDataHygieneCounts
  evidenceCompleteness : TaskEvidenceCompletenessCounts
  evidenceIntegrity : TaskEvidenceIntegrityCounts
  executionInfluence : TaskExecutionInfluenceCounts
  stability : TaskStabilityCounts
  outcomeClass : TaskOutcomeClassCounts
deriving DecidableEq, Repr

def TaskVerdictCounts.total (c : TaskVerdictCounts) : ℕ :=
  c.passed + c.failed + c.inconclusive + c.notEvaluated

/-- The total of each axis, in the validation order. -/
def TaskResultAxisDistributions.totals (d : TaskResultAxisDistributions) : List ℕ :=
  [d.dataHygiene.pending + d.dataHygiene.cleaned + d.dataHygiene.cleanupFailed +
     d.dataHygiene.leaked + d.dataHygiene.notApplicable,
   d.evidenceCompleteness.pending + d.evidenceCompleteness.complete +
     d.evidenceCompleteness.partialEvidence + d.evidenceCompleteness.missing +
     d.evidenceCompleteness.notApplicable,
   d.evidenceIntegrity.unverified + d.evidenceIntegrity.verified + d.evidenceIntegrity.invalid,
   d.executionInfluence.autonomous + d.executionInfluence.manualAssisted +
     d.executionInfluence.manualOnly,
   d.stability.unknown + d.stability.stable + d.stability.infraRecovered +
     d.stability.flakySuspect + d.stability.flakyConfirmed,
   d.outcomeClass.business + d.outcomeClass.dependency + d.outcomeClass.platform +
     d.outcomeClass.user + d.outcomeClass.automation + d.outcomeClass.policy +
     d.outcomeClass.unknown]

structure TaskResultSnapshotContent extends RunScope where
  schemaVersion : String
  id : Uuid
  revision : ℕ
  finality : TaskResultSnapshotFinality
  unitResolutionRevisionIds : List Uuid
  inputResolutionSetHash : Digest
  unitHygieneResolutionRevisionIds : Option (List Uuid)
  inputHygieneResolutionSetHash : Option Digest
  reevaluationSourceSnapshotId : Option Uuid
  reevaluationCommandId : Option Uuid
  aggregationPolicyVersion : String
  aggregationPolicyDigest : Digest
  projectionWatermark : Instant
  manifestCount : ℕ
  verdictCounts : TaskVerdictCounts
  axisDistributions : TaskResultAxisDistributions
  rawPassRate : ResultPassRate
  trustedPassRate : ResultPassRate
  autonomousPassRate : ResultPassRate
  decisivePassRate : ResultPassRate
  supersedesSnapshotId : Option Uuid
  createdAt : Instant
deriving DecidableEq, Repr

def snapshotSchemaVersion : TaskResultSnapshotFinality → String
  | .qualityFinal => "atlas.task-result-snapshot/0.1"
  | .fullyResolved => "atlas.task-result-snapshot/0.2"
  | .reevaluated => "atlas.task-result-snapshot/0.3"

def snapshotPolicyVersion : TaskResultSnapshotFinality → String
  | .qualityFinal => "0.1.0"
  | .fullyResolved => "0.2.0"
  | .reevaluated => "0.3.0"

def snapshotPolicyDigest : TaskResultSnapshotFinality → Digest
  | .qualityFinal => taskResultSnapshotPolicyDigest
  | .fullyResolved => taskResultSnapshotFullyResolvedPolicyDigest
  | .reevaluated => taskResultSnapshotReevaluatedPolicyDigest

namespace TaskResultSnapshotContent

variable (c : TaskResultSnapshotContent)

def versionsMatch : Bool :=
  c.schemaVersion = snapshotSchemaVersion c.finality ∧
    c.aggregationPolicyVersion = snapshotPolicyVersion c.finality

/-- The optional inputs that each finality requires or forbids. -/
def shapeMatches : Bool :=
  c.versionsMatch &&
  match c.finality with
  | .qualityFinal =>
    decide (c.unitHygieneResolutionRevisionIds = none ∧ c.inputHygieneResolutionSetHash = none ∧
      c.reevaluationSourceSnapshotId = none ∧ c.reevaluationCommandId = none)
  | .fullyResolved =>
    decide (c.unitHygieneResolutionRevisionIds ≠ none ∧ c.inputHygieneResolutionSetHash ≠ none ∧
      c.reevaluationSourceSnapshotId = none ∧ c.reevaluationCommandId = none)
  | .reevaluated =>
    decide (c.unitHygieneResolutionRevisionIds ≠ none ∧ c.inputHygieneResolutionSetHash ≠ none ∧
      c.reevaluationSourceSnapshotId ≠ none ∧ c.reevaluationCommandId ≠ none)

def shapeMessage : String :=
  match c.finality with
  | .qualityFinal => "QUALITY_FINAL must preserve the 0.1 Snapshot shape"
  | .fullyResolved => "FULLY_RESOLVED requires the complete 0.2 Hygiene input shape"
  | .reevaluated => "REEVALUATED requires the complete 0.3 command-bound input shape"

def hygieneIds : List Uuid := c.unitHygieneResolutionRevisionIds.getD []

/-- The pass rates of the contract, whose own numerators cannot exceed the denominators. -/
def expectedRates : List ResultPassRate :=
  [⟨c.verdictCounts.passed, c.manifestCount⟩,
   ⟨c.trustedPassRate.numerator, c.manifestCount⟩,
   ⟨c.autonomousPassRate.numerator, c.manifestCount⟩,
   ⟨c.verdictCounts.passed, c.verdictCounts.passed + c.verdictCounts.failed⟩]

def actualRates : List ResultPassRate :=
  [c.rawPassRate, c.trustedPassRate, c.autonomousPassRate, c.decisivePassRate]

/-- `validate_snapshot_content`, after the field bounds. -/
def violation : Option String :=
  firstViolation
    [(c.revision < 1, "revision"),
     (c.unitResolutionRevisionIds.length < 1 ∨ 100000 < c.unitResolutionRevisionIds.length,
       "unitResolutionRevisionIds"),
     (c.manifestCount < 1 ∨ 100000 < c.manifestCount, "manifestCount"),
     (c.actualRates.any fun rate => decide (rate.denominator < rate.numerator),
       "pass rate numerator cannot exceed denominator"),
     (c.unitResolutionRevisionIds.length ≠ c.manifestCount,
       "unitResolutionRevisionIds must exactly cover manifestCount"),
     (¬ c.unitResolutionRevisionIds.Nodup, "unitResolutionRevisionIds must be unique"),
     (c.verdictCounts.total ≠ c.manifestCount, "Verdict counts must conserve manifestCount"),
     (c.axisDistributions.totals.any fun total => total ≠ c.manifestCount,
       "every axis distribution must conserve manifestCount"),
     (c.revision = 1 ∧ c.supersedesSnapshotId ≠ none,
       "first TaskResultSnapshot cannot supersede another"),
     (1 < c.revision ∧ c.supersedesSnapshotId = none,
       "later TaskResultSnapshot requires its predecessor"),
     (c.aggregationPolicyDigest ≠ snapshotPolicyDigest c.finality,
       "aggregationPolicyDigest must match the frozen Snapshot Policy"),
     (!c.shapeMatches, c.shapeMessage),
     (c.finality ≠ .qualityFinal ∧ c.hygieneIds.length ≠ c.manifestCount,
       "unitHygieneResolutionRevisionIds must exactly cover manifestCount"),
     (c.finality ≠ .qualityFinal ∧ ¬ c.hygieneIds.Nodup,
       "unitHygieneResolutionRevisionIds must be unique"),
     (c.finality ≠ .qualityFinal ∧
        (c.axisDistributions.dataHygiene.pending ≠ 0 ∨
          c.axisDistributions.dataHygiene.cleanupFailed ≠ 0),
       "FULLY_RESOLVED cannot contain unresolved Hygiene"),
     (c.actualRates ≠ c.expectedRates, "pass rates must match the frozen Snapshot Policy"),
     (c.verdictCounts.passed < c.trustedPassRate.numerator ∨
        c.verdictCounts.passed < c.autonomousPassRate.numerator,
       "qualified pass counts cannot exceed passed Verdicts"),
     (c.createdAt < c.projectionWatermark, "createdAt cannot predate projectionWatermark")]

end TaskResultSnapshotContent

/-- What the snapshot hash covers: not the identity of the row and not its write time. -/
def TaskResultSnapshotContent.semantics (c : TaskResultSnapshotContent) :
    TaskResultSnapshotContent :=
  { c with
    id := 0
    revision := 0
    supersedesSnapshotId := none
    reevaluationCommandId := none
    createdAt := 0 }

structure TaskResultSnapshot extends TaskResultSnapshotContent where
  snapshotHash : Digest
  valid : toTaskResultSnapshotContent.violation = none
deriving DecidableEq, Repr

structure TaskResultReevaluationCommand where
  id : Uuid
  tenantId : Uuid
  projectId : Uuid
  taskRunId : Uuid
  sourceSnapshotId : Uuid
  targetPolicyDigest : Digest
  clientMutationId : String
  requestedBy : Option Uuid
  requestedAt : Instant
deriving DecidableEq, Repr

/-! The documents that the projections hash. -/

inductive FactKind
  | attemptSeal | closureNotice
deriving DecidableEq, Repr

structure ResolutionInput where
  attemptNumber : ℕ
  unitAttemptId : Uuid
  kind : FactKind
  factId : Uuid
  factHash : Digest
deriving DecidableEq, Repr

structure ResolutionRoot where
  ordinal : ℕ
  executionUnitId : Uuid
  unitResolutionRevisionId : Uuid
  revision : ℕ
  inputSetHash : Digest
deriving DecidableEq, Repr

structure HygieneRoot where
  ordinal : ℕ
  executionUnitId : Uuid
  unitHygieneResolutionRevisionId : Uuid
  revision : ℕ
  inputSetHash : Digest
  dataHygiene : DataHygiene
  resolutionPolicyDigest : Digest
  resolutionHash : Digest
deriving DecidableEq, Repr

/-- SHA-256 over the canonical JSON of each document. -/
structure ResultHashes where
  closureNotice : AttemptClosureNoticeContent → Digest
  unitResolutionInputSet : Uuid → Digest → Digest → List ResolutionInput → Digest
  resolutionSet : Uuid → Digest → List ResolutionRoot → Digest
  hygieneResolutionSet : Uuid → Digest → List HygieneRoot → Digest
  snapshot : TaskResultSnapshotContent → Digest

end Atlas.Result
