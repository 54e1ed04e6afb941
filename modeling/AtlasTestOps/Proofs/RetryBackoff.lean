import AtlasTestOps.Service.Settlement

/-! The delay of an infrastructure retry and the policy it was computed from. -/

namespace Atlas.Proofs

open Atlas Atlas.Task Atlas.Service

/-! ### Rounding to a percentage -/

theorem roundPercent_mono {m n : ℕ} (h : m ≤ n) : roundPercent m ≤ roundPercent n := by
  unfold roundPercent
  have hdiv := Nat.div_le_div_right (c := 100) h
  split_ifs <;> omega

theorem roundPercent_mul_hundred (n : ℕ) : roundPercent (n * 100) = n := by
  simp [roundPercent]

/-- A half is rounded to the even side, so it stays below an even bound only. -/
theorem roundPercent_le_iff {m n : ℕ} :
    roundPercent n ≤ m ↔ n < 100 * m + 50 ∨ n = 100 * m + 50 ∧ m % 2 = 0 := by
  unfold roundPercent
  split_ifs <;> omega

/-! ### The delay -/

/-- The bounds of a policy that its validator has accepted. -/
structure PolicyBounds (p : TaskRetryPolicy) : Prop where
  initial : 1 ≤ p.initialBackoffSeconds
  maximum : 1 ≤ p.maximumBackoffSeconds ∧ p.maximumBackoffSeconds ≤ 3600
  jitter : p.jitterPercent ≤ 50

theorem policyBounds (p : TaskRetryPolicy) : PolicyBounds p := by
  have h := p.valid
  simp only [TaskRetryPolicyContent.violation, firstViolation_cons, firstViolation_nil,
    decide_eq_false_iff_not, not_or, not_lt, and_true] at h
  exact ⟨h.2.2.1.1, h.2.2.2.1, h.2.2.2.2.1⟩

/-- The exponential backoff of a policy after an Attempt, before any jitter. -/
def exponentialBackoff (p : TaskRetryPolicy) (attemptNumber : ℕ) : ℕ :=
  min p.maximumBackoffSeconds (p.initialBackoffSeconds * 2 ^ (attemptNumber - 1))

/-- What a policy promises of the delay after an Attempt. -/
structure InsidePolicy (p : TaskRetryPolicy) (attemptNumber : ℕ) (retryAfterSeconds : Option ℕ) (delay : ℕ) :
    Prop where
  positive : 1 ≤ delay
  bounded : delay ≤ 3600
  requested : ∀ s, retryAfterSeconds = some s → s ≤ delay
  ceiling : retryAfterSeconds = none → delay ≤ p.maximumBackoffSeconds
  floor : retryAfterSeconds = none →
    roundPercent (exponentialBackoff p attemptNumber * (100 - p.jitterPercent)) ≤ delay

/-- The jittered backoff, in hundredths of a second, still rounds to the ceiling of the policy. -/
def JitterFits (p : TaskRetryPolicy) (attemptNumber retryId : ℕ) : Prop :=
  let jittered := exponentialBackoff p attemptNumber *
    (100 + retryId % (2 * p.jitterPercent + 1) - p.jitterPercent)
  p.jitterPercent = 0 ∨ p.maximumBackoffSeconds = 3600 ∨
    jittered < 100 * p.maximumBackoffSeconds + 50 ∨
    jittered = 100 * p.maximumBackoffSeconds + 50 ∧ p.maximumBackoffSeconds % 2 = 0

theorem exponentialBackoff_pos (p : TaskRetryPolicy) (attemptNumber : ℕ) :
    1 ≤ exponentialBackoff p attemptNumber := by
  have h := policyBounds p
  exact le_min h.maximum.1 (Nat.mul_pos h.initial (Nat.two_pow_pos _))

theorem exponentialBackoff_le (p : TaskRetryPolicy) (attemptNumber : ℕ) :
    exponentialBackoff p attemptNumber ≤ p.maximumBackoffSeconds :=
  min_le_left _ _

/-- The backoff with its jitter, before the retry-after and the last cap. -/
def jitteredBackoff (p : TaskRetryPolicy) (attemptNumber retryId : ℕ) : ℕ :=
  if p.jitterPercent = 0 then exponentialBackoff p attemptNumber
  else max 1 (roundPercent (exponentialBackoff p attemptNumber *
    (100 + retryId % (2 * p.jitterPercent + 1) - p.jitterPercent)))

theorem retryDelaySeconds_eq (unitRetryAttemptId : Uuid → ℕ → Uuid) (unit : ExecutionUnit)
    (attempt : UnitAttempt) (p : TaskRetryPolicy) (retryAfterSeconds : Option ℕ) :
    retryDelaySeconds unitRetryAttemptId unit attempt p retryAfterSeconds =
      min 3600 (max (jitteredBackoff p attempt.attemptNumber
        (unitRetryAttemptId unit.id (attempt.attemptNumber + 1))) (retryAfterSeconds.getD 0)) := rfl

theorem jitteredBackoff_pos (p : TaskRetryPolicy) (attemptNumber retryId : ℕ) :
    1 ≤ jitteredBackoff p attemptNumber retryId := by
  unfold jitteredBackoff
  split_ifs
  · exact exponentialBackoff_pos p attemptNumber
  · exact le_max_left _ _

/-- The jitter takes at most its own percentage away. -/
theorem le_jitteredBackoff (p : TaskRetryPolicy) (attemptNumber retryId : ℕ) :
    roundPercent (exponentialBackoff p attemptNumber * (100 - p.jitterPercent)) ≤
      jitteredBackoff p attemptNumber retryId := by
  unfold jitteredBackoff
  split_ifs with hj
  · rw [hj, Nat.sub_zero, roundPercent_mul_hundred]
  · refine (roundPercent_mono (Nat.mul_le_mul_left _ ?_)).trans (le_max_right _ _)
    omega

theorem jitteredBackoff_fits (p : TaskRetryPolicy) (attemptNumber retryId : ℕ) :
    min 3600 (jitteredBackoff p attemptNumber retryId) ≤ p.maximumBackoffSeconds ↔
      JitterFits p attemptNumber retryId := by
  have h := policyBounds p
  have hle := exponentialBackoff_le p attemptNumber
  unfold jitteredBackoff JitterFits
  split_ifs with hj
  · simp only [hj, true_or, iff_true]
    omega
  · simp only [hj, false_or, min_le_iff, max_le_iff, h.maximum.1, true_and, roundPercent_le_iff]
    have hcap : 3600 ≤ p.maximumBackoffSeconds ↔ p.maximumBackoffSeconds = 3600 := by
      have := h.maximum.2
      omega
    rw [hcap]

/-- The delay keeps every promise of the policy, whatever the Unit and the Attempt, exactly when a
retry-after is given or the jittered backoff still rounds to the ceiling. -/
theorem retry_delay_inside_policy_iff (unitRetryAttemptId : Uuid → ℕ → Uuid) (unit : ExecutionUnit)
    (attempt : UnitAttempt) (p : TaskRetryPolicy) (retryAfterSeconds : Option ℕ)
    (hretry : ∀ s, retryAfterSeconds = some s → 1 ≤ s ∧ s ≤ 3600) :
    InsidePolicy p attempt.attemptNumber retryAfterSeconds
        (retryDelaySeconds unitRetryAttemptId unit attempt p retryAfterSeconds) ↔
      retryAfterSeconds ≠ none ∨
        JitterFits p attempt.attemptNumber (unitRetryAttemptId unit.id (attempt.attemptNumber + 1)) := by
  rw [retryDelaySeconds_eq]
  generalize unitRetryAttemptId unit.id (attempt.attemptNumber + 1) = retryId
  have hpos := jitteredBackoff_pos p attempt.attemptNumber retryId
  have hfloor := le_jitteredBackoff p attempt.attemptNumber retryId
  have hfits := jitteredBackoff_fits p attempt.attemptNumber retryId
  cases retryAfterSeconds with
  | some s =>
    obtain ⟨-, hs⟩ := hretry s rfl
    simp only [Option.getD_some, ne_eq, reduceCtorEq, not_false_eq_true, true_or, iff_true]
    refine ⟨by omega, by omega, fun s' hs' => ?_, by simp, by simp⟩
    obtain rfl := Option.some.inj hs'
    omega
  | none =>
    have hbase : roundPercent (exponentialBackoff p attempt.attemptNumber * (100 - p.jitterPercent)) ≤ 3600 := by
      have h := policyBounds p
      have hle := exponentialBackoff_le p attempt.attemptNumber
      calc roundPercent (exponentialBackoff p attempt.attemptNumber * (100 - p.jitterPercent))
          ≤ roundPercent (exponentialBackoff p attempt.attemptNumber * 100) :=
            roundPercent_mono (Nat.mul_le_mul_left _ (Nat.sub_le _ _))
        _ = exponentialBackoff p attempt.attemptNumber := roundPercent_mul_hundred _
        _ ≤ 3600 := hle.trans h.maximum.2
    simp only [Option.getD_none, ne_eq, not_true_eq_false, false_or, Nat.max_zero]
    rw [← hfits]
    constructor
    · exact fun h => h.ceiling rfl
    · intro hceiling
      exact ⟨by omega, by omega, by simp, fun _ => hceiling, fun _ => by omega⟩

/-! A policy whose initial backoff is its ceiling, and the Unit whose retry draws the full jitter. -/

def steepPolicy : TaskRetryPolicy := ⟨⟨4, 256, 100, 100, 50⟩, by decide⟩

def steepUnit : ExecutionUnit :=
  { tenantId := 1, projectId := 2, taskRunId := 3, manifestHash := 0, executionUnitId := 41, ordinal := 1
    unitKey := 0, caseVersionId := 5, executionProfileVersionId := 6, identityProfileVersionId := 7
    browserProfileVersionId := 8, dataProfileVersionId := 9, fixtureBlueprintVersionId := 10
    environmentId := 11, parameterDigest := 0, dependencyDigest := 0, lifecycle := .running, quality := .pending, hygiene := .notRequired
    startedAt := some 1, finalizedAt := none, cleanupResolvedAt := none, closedAt := none, revision := 2
    updatedAt := 1, createdAt := 0 }

/-- The first Attempt of the Unit. -/
def steepAttempt : UnitAttempt :=
  { steepUnit.toUnitScope with
    id := 12, caseVersionId := 5, attemptNumber := 1, lifecycle := .closed, quality := .infraError
    hygiene := .notRequired, startedAt := some 1, finalizedAt := some 2, cleanupResolvedAt := none
    closedAt := some 2, revision := 4, updatedAt := 2, temporalNamespace := some "atlas"
    temporalWorkflowId := some (unitAttemptWorkflowId 1 12), queuedAt := 0, executionDeadline := 3600000000
    createdAt := 0 }

/-- The name-based identity of its first retry. -/
def steepRetryId (_ : Uuid) (_ : ℕ) : Uuid := 259182931610490900819735007782328985224

/-- The delay is one and a half times the ceiling of its policy. -/
theorem retry_delay_above_ceiling :
    retryDelaySeconds steepRetryId steepUnit steepAttempt steepPolicy none = 150 ∧
      ¬ InsidePolicy steepPolicy 1 none
        (retryDelaySeconds steepRetryId steepUnit steepAttempt steepPolicy none) := by
  have hdelay : retryDelaySeconds steepRetryId steepUnit steepAttempt steepPolicy none = 150 := by decide
  refine ⟨hdelay, fun h => ?_⟩
  have hceiling := h.ceiling rfl
  rw [hdelay] at hceiling
  exact absurd hceiling (by decide)

/-- Another Unit of the same policy, with the name-based identity of its first retry: the jitter of that
retry is 35 percent below the backoff. -/
def mildUnit : ExecutionUnit := { steepUnit with executionUnitId := 2 }

def mildAttempt : UnitAttempt := { steepAttempt with executionUnitId := 2 }

def mildRetryId (_ : Uuid) (_ : ℕ) : Uuid := 284578492565751259931723974203945107793

/-- With a retry-after of five minutes the steep retry waits for five minutes; without one the mild retry
waits for less than the ceiling. -/
theorem retry_delay_requested :
    InsidePolicy steepPolicy 1 (some 300)
        (retryDelaySeconds steepRetryId steepUnit steepAttempt steepPolicy (some 300)) ∧
      retryDelaySeconds mildRetryId mildUnit mildAttempt steepPolicy none = 65 ∧
      InsidePolicy steepPolicy 1 none (retryDelaySeconds mildRetryId mildUnit mildAttempt steepPolicy none) := by
  refine ⟨?_, by decide, ?_⟩
  · exact (retry_delay_inside_policy_iff steepRetryId steepUnit steepAttempt steepPolicy (some 300)
      (fun s hs => by obtain rfl := Option.some.inj hs; decide)).2 (Or.inl (by simp))
  · have hfits : JitterFits steepPolicy 1 (mildRetryId mildUnit.id 2) := by
      unfold JitterFits
      decide
    exact (retry_delay_inside_policy_iff mildRetryId mildUnit mildAttempt steepPolicy none
      (fun _ hs => by cases hs)).2 (Or.inr hfits)

end Atlas.Proofs
