import AtlasTestOps.Result.Classification

/-! The strict Task Gate: a three-valued release decision over one snapshot and the
latest judgments of its clusters. -/

namespace Atlas.Result

open Atlas

inductive TaskGateVerdict
  | accepted | rejected | inconclusive
deriving DecidableEq, Repr

/-- The reason codes, in the order of their wire names. -/
inductive TaskGateReasonCode
  | classificationNotGateReady | dataHygieneUnresolved | dataLeak | evidenceIncomplete
  | evidenceInvalidOrUnverified | failedUnits | inconclusiveUnits | manualInfluence
  | notEvaluatedUnits | snapshotNotFullyResolved | unstableExecution
deriving DecidableEq, Repr

structure TaskGateReason where
  code : TaskGateReasonCode
  count : ℕ
deriving DecidableEq, Repr

def taskGateRuleConfidenceMinimum : ℕ := 9500

def taskGateHumanConfidenceMinimum : ℕ := 7000

def taskGateClassificationIsReady (c : FailureClassificationRevision) : Bool :=
  if c.failureDomain = .unknown then false
  else if c.evidenceGapCodes ≠ [] then false
  else if c.authorKind = .systemRule ∧ c.judgmentState = .ruleProposed then
    (c.failureDomain = .cleanup ∨ c.failureDomain = .evidence ∨
      c.failureDomain = .policySecurity) ∧ taskGateRuleConfidenceMinimum ≤ c.confidence
  else
    c.authorKind = .human ∧
      (c.judgmentState = .humanConfirmed ∨ c.judgmentState = .humanRevised) ∧
      taskGateHumanConfidenceMinimum ≤ c.confidence

/-- How often each reason applies, in the canonical order of the codes. -/
def taskGateCounts (snapshot : TaskResultSnapshot)
    (classifications : List FailureClassificationRevision) : List TaskGateReason :=
  let axes := snapshot.axisDistributions
  [⟨.classificationNotGateReady,
     classifications.countP fun c => !taskGateClassificationIsReady c⟩,
   ⟨.dataHygieneUnresolved, axes.dataHygiene.pending + axes.dataHygiene.cleanupFailed⟩,
   ⟨.dataLeak, axes.dataHygiene.leaked⟩,
   ⟨.evidenceIncomplete, axes.evidenceCompleteness.pending +
     axes.evidenceCompleteness.partialEvidence + axes.evidenceCompleteness.missing⟩,
   ⟨.evidenceInvalidOrUnverified,
     axes.evidenceIntegrity.unverified + axes.evidenceIntegrity.invalid⟩,
   ⟨.failedUnits, snapshot.verdictCounts.failed⟩,
   ⟨.inconclusiveUnits, snapshot.verdictCounts.inconclusive⟩,
   ⟨.manualInfluence,
     axes.executionInfluence.manualAssisted + axes.executionInfluence.manualOnly⟩,
   ⟨.notEvaluatedUnits, snapshot.verdictCounts.notEvaluated⟩,
   ⟨.snapshotNotFullyResolved, if snapshot.finality = .qualityFinal then 1 else 0⟩,
   ⟨.unstableExecution, axes.stability.unknown + axes.stability.infraRecovered +
     axes.stability.flakySuspect + axes.stability.flakyConfirmed⟩]

def blocksByUncertainty : TaskGateReasonCode → Bool
  | .failedUnits | .dataLeak => false
  | _ => true

def taskGateReasons (snapshot : TaskResultSnapshot)
    (classifications : List FailureClassificationRevision) : List TaskGateReason :=
  (taskGateCounts snapshot classifications).filter fun r => 0 < r.count

def taskGateVerdict (reasons : List TaskGateReason) : TaskGateVerdict :=
  if ∃ r ∈ reasons, blocksByUncertainty r.code then .inconclusive
  else if ∃ r ∈ reasons, !blocksByUncertainty r.code then .rejected
  else .accepted

/-- `evaluate_task_gate` -/
def evaluateTaskGate (snapshot : TaskResultSnapshot)
    (classifications : List FailureClassificationRevision) :
    Except Fault (TaskGateVerdict × List TaskGateReason) :=
  if ¬ (classifications.map fun c => c.id).Nodup then
    .error (.validation "Task Gate classifications must be unique")
  else if ∃ c ∈ classifications, c.resultSnapshotId ≠ snapshot.id then
    .error (.validation "Task Gate classifications must bind the exact Snapshot")
  else
    .ok (taskGateVerdict (taskGateReasons snapshot classifications),
      taskGateReasons snapshot classifications)

theorem taskGateVerdict_accepted {reasons : List TaskGateReason} :
    taskGateVerdict reasons = .accepted ↔ reasons = [] := by
  constructor
  · intro h
    unfold taskGateVerdict at h
    split_ifs at h with huncertain hreject
    refine List.eq_nil_iff_forall_not_mem.2 fun r hr => ?_
    cases hblock : blocksByUncertainty r.code with
    | false => exact hreject ⟨r, hr, by simp [hblock]⟩
    | true => exact huncertain ⟨r, hr, hblock⟩
  · rintro rfl
    rfl

/-- Acceptance means that no reason applies at all. -/
theorem counts_zero_of_accepted {snapshot : TaskResultSnapshot}
    {classifications : List FailureClassificationRevision} {reasons : List TaskGateReason}
    (h : evaluateTaskGate snapshot classifications = .ok (.accepted, reasons)) :
    ∀ r ∈ taskGateCounts snapshot classifications, r.count = 0 := by
  unfold evaluateTaskGate at h
  split_ifs at h with hdup hbind
  simp only [Except.ok.injEq, Prod.mk.injEq, taskGateVerdict_accepted] at h
  intro r hr
  have hnone := List.filter_eq_nil_iff.1 h.1 r hr
  simpa using hnone

end Atlas.Result
