import AtlasTestOps.Task.Manifest

/-! The hash of a Run Manifest pins every field of it. Equal hashes give equal bodies; the
checks of the contract then give back what the body leaves out: the order of the Units,
and the retry policy through the entry of the policy digests that names it. -/

namespace Atlas.Proofs

open Atlas Atlas.Task

variable {sha256 : String → Digest}

theorem wireUuid_inj {a b : Uuid} (h : Json.normalize (wireUuid a) = Json.normalize (wireUuid b)) :
    a = b := by
  simp only [wireUuid, Json.normalize_str, Json.str.injEq] at h
  exact uuidText_injective h

theorem wireDigest_inj {a b : Digest}
    (h : Json.normalize (wireDigest a) = Json.normalize (wireDigest b)) : a = b := by
  simp only [wireDigest, Json.normalize_str, Json.str.injEq] at h
  exact digestText_injective h

theorem option_str_inj {a b : Option String}
    (h : Json.normalize (Json.option .str a) = Json.normalize (Json.option .str b)) : a = b := by
  cases a <;> cases b <;> simp_all [Json.option]

theorem schemaVersion_value_injective : Function.Injective TaskRunManifestSchemaVersion.value := by
  intro a b h
  cases a <;> cases b <;> first | rfl | exact absurd h (by decide)

theorem triggerSource_value_injective : Function.Injective TaskTriggerSource.value := by
  intro a b h
  cases a <;> cases b <;> first | rfl | exact absurd h (by decide)

theorem unit_toJson_inj {a b : ExecutionUnitManifest}
    (h : Json.normalize a.toJson = Json.normalize b.toJson) : a = b := by
  unfold ExecutionUnitManifest.toJson at h
  replace h := (Json.normalize_obj_eq_iff (by simp) (by rfl)).mp h
  simp only [Json.normalizeFields, List.cons.injEq, Prod.mk.injEq, true_and, and_true,
    Json.normalize_scalar, Json.scalar.injEq, Scalar.int.injEq, Nat.cast_inj] at h
  obtain ⟨hordinal, hkey, hcase, hprofile, hfixture, hidentity, henvironment, hbrowser, hdata,
    hparameter, hdependency⟩ := h
  obtain ⟨⟨_, _, _, _, _, _, _, _, _, _⟩, _⟩ := a
  obtain ⟨⟨_, _, _, _, _, _, _, _, _, _⟩, _⟩ := b
  simp only at hordinal
  cases hordinal
  cases wireDigest_inj hkey
  cases wireUuid_inj hcase
  cases wireUuid_inj hprofile
  cases wireUuid_inj hfixture
  cases wireUuid_inj hidentity
  cases wireUuid_inj henvironment
  cases wireUuid_inj hbrowser
  cases wireUuid_inj hdata
  cases wireDigest_inj hparameter
  cases wireDigest_inj hdependency
  rfl

theorem retryPolicy_toJson_inj {a b : TaskRetryPolicyContent}
    (h : Json.normalize a.toJson = Json.normalize b.toJson) : a = b := by
  unfold TaskRetryPolicyContent.toJson at h
  replace h := (Json.normalize_obj_eq_iff (by simp) (by rfl)).mp h
  simp only [Json.normalizeFields, List.cons.injEq, Prod.mk.injEq, true_and, and_true,
    Json.normalize_scalar, Json.scalar.injEq, Scalar.int.injEq, Nat.cast_inj] at h
  obtain ⟨hattempts, htotal, hinitial, hmaximum, hjitter⟩ := h
  obtain ⟨_, _, _, _, _⟩ := a
  simp_all

theorem map_inj_of_inj {α β : Type} {f : α → β} (hf : ∀ {a b}, f a = f b → a = b)
    {xs ys : List α} (h : xs.map f = ys.map f) : xs = ys :=
  (List.map_injective_iff.mpr (fun _ _ => hf)) h

theorem units_toJson_inj {xs ys : List ExecutionUnitManifest}
    (h : Json.normalize (.arr (xs.map ExecutionUnitManifest.toJson)) =
      Json.normalize (.arr (ys.map ExecutionUnitManifest.toJson))) : xs = ys := by
  rw [Json.normalize_arr_eq_iff, List.map_map, List.map_map] at h
  exact map_inj_of_inj unit_toJson_inj h

/-- Two dictionaries in key order with one JSON text are equal. -/
theorem digests_toJson_inj {xs ys : List (String × Digest)}
    (hxs : xs.Pairwise (fun a b => a.1 < b.1)) (hys : ys.Pairwise (fun a b => a.1 < b.1))
    (h : Json.normalize (.obj (xs.map fun p => (p.1, wireDigest p.2))) =
      Json.normalize (.obj (ys.map fun p => (p.1, wireDigest p.2)))) : xs = ys := by
  have hkeys : ((xs.map fun p => (p.1, wireDigest p.2)).map Prod.fst).Nodup := by
    rw [List.map_map]
    exact (List.pairwise_map.mpr hxs).imp fun hlt => ne_of_lt hlt
  rw [Json.normalize_obj_eq_iff_perm hkeys, Json.normalizeFields_eq_map,
    Json.normalizeFields_eq_map, List.map_map, List.map_map] at h
  have hperm : xs.Perm ys := by
    refine (List.map_perm_map_iff fun p q hpq => ?_).mp h
    simp only [Function.comp_apply, Prod.mk.injEq] at hpq
    exact Prod.ext hpq.1 (wireDigest_inj hpq.2)
  exact hperm.eq_of_pairwise (fun a b _ _ hab hba => absurd hba (not_lt_of_gt hab)) hxs hys

/-- What the checks of an accepted Manifest leave. -/
structure Accepted (sha256 : String → Digest) (m : ManifestContent) : Prop where
  policyValid : ∀ policy ∈ m.retryPolicy,
    policy.contentDigest = taskRetryPolicyDigest sha256 policy.toTaskRetryPolicyContent
  unitsSorted : sortUnits m.units = m.units
  legacyPolicy : m.schemaVersion = .legacy → m.retryPolicy = none
  currentPolicy : m.schemaVersion = .current → ∃ policy ∈ m.retryPolicy,
    m.policyDigest taskRetryPolicyDigestKey = some policy.contentDigest
  hash : taskRunManifestHash sha256 m = .ok m.manifestHash

theorem policy_digest_of_valid {policy : SignedRetryPolicy}
    (h : policy.violation sha256 = none) :
    policy.contentDigest = taskRetryPolicyDigest sha256 policy.toTaskRetryPolicyContent := by
  unfold SignedRetryPolicy.violation at h
  split at h
  · simp at h
  · simpa only [firstViolation_cons, decide_eq_false_iff_not, ne_eq, not_not, firstViolation_nil,
      and_true] using h

theorem accepted_of_valid (m : RunManifest sha256) : Accepted sha256 m.toManifestContent := by
  have hvalid := m.valid
  simp only [ManifestContent.violation, firstViolation_cons, decide_eq_false_iff_not,
    not_and, not_not, ne_eq, firstViolation_nil, and_true] at hvalid
  obtain ⟨-, -, -, -, -, -, hpolicy, -, hnodup, hsorted, -, hlegacy, hcurrent, hhash⟩ := hvalid
  refine ⟨?_, ?_, ?_, ?_, hhash⟩
  · intro policy hmem
    rw [Option.mem_def] at hmem
    simp only [hmem, Option.any_some, Option.isSome_eq_false_iff, Option.isNone_iff_eq_none]
      at hpolicy
    exact policy_digest_of_valid hpolicy
  · exact (Json.eq_of_perm_of_map_eq hnodup hsorted (List.perm_insertionSort _ _).symm).symm
  · intro hversion
    simpa using hlegacy hversion
  · intro hversion
    have hmatch := hcurrent (by simp [hversion])
    push Not at hmatch
    exact hmatch

theorem hash_eq_of_accepted {m : ManifestContent} (h : Accepted sha256 m) :
    m.manifestHash = canonicalDigest sha256 m.body := by
  have hhash := h.hash
  unfold taskRunManifestHash at hhash
  split at hhash <;> split at hhash <;> simp_all

/-- One body, one Manifest, up to the retry policy and the hash. -/
theorem body_inj {m₁ m₂ : ManifestContent} (hunits₁ : sortUnits m₁.units = m₁.units)
    (hunits₂ : sortUnits m₂.units = m₂.units)
    (hsorted₁ : m₁.policyDigests.Pairwise (fun a b => a.1 < b.1))
    (hsorted₂ : m₂.policyDigests.Pairwise (fun a b => a.1 < b.1))
    (h : Json.normalize m₁.body = Json.normalize m₂.body) :
    m₁ = { m₂ with retryPolicy := m₁.retryPolicy, manifestHash := m₁.manifestHash } := by
  unfold ManifestContent.body at h
  replace h := (Json.normalize_obj_eq_iff (by simp) (by rfl)).mp h
  simp only [Json.normalizeFields, List.cons.injEq, Prod.mk.injEq, true_and, and_true,
    Json.normalize_str, Json.str.injEq] at h
  obtain ⟨hversion, hrun, hplan, hsource, hfingerprint, htenant, hproject, hiteration, hunits,
    hdigests, hcompiler⟩ := h
  rw [hunits₁, hunits₂] at hunits
  have hkey₁ : sortDigests m₁.policyDigests = m₁.policyDigests :=
    (hsorted₁.imp fun hlt => le_of_lt hlt).insertionSort_eq
  have hkey₂ : sortDigests m₂.policyDigests = m₂.policyDigests :=
    (hsorted₂.imp fun hlt => le_of_lt hlt).insertionSort_eq
  rw [hkey₁, hkey₂] at hdigests
  cases m₁
  simp only [ManifestContent.mk.injEq, and_true, true_and]
  exact ⟨schemaVersion_value_injective hversion, wireUuid_inj hrun, wireUuid_inj hplan,
    triggerSource_value_injective hsource, hfingerprint, wireUuid_inj htenant,
    wireUuid_inj hproject, option_str_inj hiteration, units_toJson_inj hunits,
    digests_toJson_inj hsorted₁ hsorted₂ hdigests, hcompiler⟩

/-- The texts that are hashed for a Manifest: its body and its retry policy. -/
def hashedTexts (m : ManifestContent) : List String :=
  m.body.canonicalText :: m.retryPolicy.toList.map fun p => p.toJson.canonicalText

/-- The policy digest of a current Manifest ties its retry policy in. -/
theorem retryPolicy_eq {m₁ m₂ : ManifestContent} (h₁ : Accepted sha256 m₁)
    (h₂ : Accepted sha256 m₂) (hcollision : CollisionFree sha256 (hashedTexts m₁ ++ hashedTexts m₂))
    (hversion : m₁.schemaVersion = m₂.schemaVersion)
    (hdigests : m₁.policyDigests = m₂.policyDigests) : m₁.retryPolicy = m₂.retryPolicy := by
  cases hschema : m₁.schemaVersion with
  | legacy => rw [h₁.legacyPolicy hschema, h₂.legacyPolicy (hversion.symm.trans hschema)]
  | current =>
    obtain ⟨p, hp, hpdigest⟩ := h₁.currentPolicy hschema
    obtain ⟨q, hq, hqdigest⟩ := h₂.currentPolicy (hversion.symm.trans hschema)
    have hdigest : p.contentDigest = q.contentDigest := by
      unfold ManifestContent.policyDigest at hpdigest hqdigest
      rw [hdigests] at hpdigest
      exact Option.some_injective _ (hpdigest.symm.trans hqdigest)
    have htext : p.toJson.canonicalText = q.toJson.canonicalText := by
      apply hcollision
      · simp [hashedTexts, Option.mem_def.mp hp]
      · simp [hashedTexts, Option.mem_def.mp hq]
      · have hdigest' := hdigest
        rw [h₁.policyValid p hp, h₂.policyValid q hq] at hdigest'
        exact hdigest'
    have hcontent := retryPolicy_toJson_inj (Json.canonicalText_eq_iff.mp htext)
    obtain ⟨content, digest⟩ := p
    obtain ⟨content', digest'⟩ := q
    simp only at hcontent hdigest
    subst hcontent hdigest
    rw [Option.mem_def.mp hp, Option.mem_def.mp hq]

/-- The stored hash is the recomputed one, and two accepted Manifests with one hash are the
same Manifest. -/
theorem manifest_hash_pins_manifest (sha256 : String → Digest) :
    (∀ m : RunManifest sha256, m.recomputeManifestHash = .ok m.manifestHash) ∧
    ∀ m₁ m₂ : RunManifest sha256,
      CollisionFree sha256
        (hashedTexts m₁.toManifestContent ++ hashedTexts m₂.toManifestContent) →
      m₁.manifestHash = m₂.manifestHash → m₁ = m₂ := by
  refine ⟨fun m => (accepted_of_valid m).hash, ?_⟩
  intro m₁ m₂ hcollision hhash
  have h₁ := accepted_of_valid m₁
  have h₂ := accepted_of_valid m₂
  have htext : m₁.body.canonicalText = m₂.body.canonicalText := by
    apply hcollision
    · simp [hashedTexts]
    · simp [hashedTexts]
    · have hhash' := hhash
      rw [hash_eq_of_accepted h₁, hash_eq_of_accepted h₂] at hhash'
      exact hhash'
  have hbody := body_inj h₁.unitsSorted h₂.unitsSorted m₁.sorted m₂.sorted
    (Json.canonicalText_eq_iff.mp htext)
  have hpolicy := retryPolicy_eq h₁ h₂ hcollision (by rw [hbody]) (by rw [hbody])
  rw [hpolicy, hhash] at hbody
  obtain ⟨content₁, _, _⟩ := m₁
  obtain ⟨content₂, _, _⟩ := m₂
  obtain rfl : content₁ = content₂ := hbody
  rfl

/-! A Manifest with one Unit and a retry policy, and the digests SHA-256 gives for it. -/

def smokeUnit : ExecutionUnitManifest where
  ordinal := 1
  caseVersionId := 1
  executionProfileVersionId := 2
  fixtureBlueprintVersionId := 3
  identityProfileVersionId := 4
  environmentId := 5
  browserProfileVersionId := 6
  dataProfileVersionId := 7
  parameterDigest := 8
  dependencyDigest := 0x41bec0d3997fdca123cc453c64eae62d3f04c0b3f69dd2055060eb0e5b7aa80b
  unitKey := 0x0f7fdde0387d12a3a492846a293a9251aebde9494a5333c7caef50ff08d40eae

def smokePolicy : SignedRetryPolicy where
  infraRetryAttempts := 2
  maxTotalInfraRetries := 8
  initialBackoffSeconds := 5
  maximumBackoffSeconds := 60
  jitterPercent := 10
  contentDigest := 0x618eaf7c2226470670ad854920773cb68530c3b64a73cb6fb786609780b13b37

def smokeContent : ManifestContent where
  schemaVersion := .current
  taskRunId := 11
  taskPlanVersionId := 12
  triggerSource := .manual
  triggerFingerprint := "manual:1"
  tenantId := 13
  projectId := 14
  iterationId := none
  units := [smokeUnit]
  policyDigests := [("evidence", 9), ("infra-retry", smokePolicy.contentDigest)]
  retryPolicy := some smokePolicy
  compilerVersion := "0.1.0"
  manifestHash := 0xa2a6dc75f5ad2184b5012c2eb28773ffd7ba8ba96e5703bd50446723c3ee0c48

/-- The four texts of the Manifest that are hashed, told apart by their JSON values. -/
def smokeSha256 (text : String) : Digest :=
  if text = smokeContent.body.canonicalText then smokeContent.manifestHash
  else if text = smokePolicy.toJson.canonicalText then smokePolicy.contentDigest
  else if text = (smokeUnit.keyJson).canonicalText then smokeUnit.unitKey
  else smokeUnit.dependencyDigest

theorem text_ne_of_key {fields others : List (String × Json)} (key : String)
    (hmem : key ∈ fields.map Prod.fst) (hnot : key ∉ others.map Prod.fst) :
    (Json.obj fields).canonicalText ≠ (Json.obj others).canonicalText :=
  fun h => hnot ((Json.keys_perm_of_canonicalText_eq h).mem_iff.mp hmem)

theorem smoke_hash : canonicalDigest smokeSha256 smokeContent.body = smokeContent.manifestHash := by
  unfold canonicalDigest smokeSha256
  rw [if_pos rfl]

theorem smoke_policy_digest :
    canonicalDigest smokeSha256 smokePolicy.toJson = smokePolicy.contentDigest := by
  have hbody : smokePolicy.toJson.canonicalText ≠ smokeContent.body.canonicalText :=
    text_ne_of_key "jitterPercent" (by decide) (by decide)
  simp only [canonicalDigest, smokeSha256, if_neg hbody, if_true]

theorem smoke_unit_key : executionUnitKey smokeSha256 smokeUnit = smokeUnit.unitKey := by
  have hbody : smokeUnit.keyJson.canonicalText ≠ smokeContent.body.canonicalText :=
    text_ne_of_key "caseVersionId" (by decide) (by decide)
  have hpolicy : smokeUnit.keyJson.canonicalText ≠ smokePolicy.toJson.canonicalText :=
    text_ne_of_key "caseVersionId" (by decide) (by decide)
  simp only [executionUnitKey, canonicalDigest, smokeSha256, if_neg hbody, if_neg hpolicy, if_true]

theorem smoke_dependency_digest :
    executionUnitDependencyDigest smokeSha256 smokeUnit = smokeUnit.dependencyDigest := by
  have hbody : smokeUnit.dependencyJson.canonicalText ≠ smokeContent.body.canonicalText :=
    text_ne_of_key "caseVersionId" (by decide) (by decide)
  have hpolicy : smokeUnit.dependencyJson.canonicalText ≠ smokePolicy.toJson.canonicalText :=
    text_ne_of_key "caseVersionId" (by decide) (by decide)
  have hkey : smokeUnit.dependencyJson.canonicalText ≠ smokeUnit.keyJson.canonicalText :=
    text_ne_of_key "executionProfileVersionId" (by decide) (by decide)
  simp only [executionUnitDependencyDigest, canonicalDigest, smokeSha256, if_neg hbody,
    if_neg hpolicy, if_neg hkey]

theorem smoke_valid : smokeContent.violation smokeSha256 = none := by
  have hunit : smokeUnit.violation smokeSha256 = none := by
    unfold ExecutionUnitManifest.violation
    rw [smoke_unit_key, smoke_dependency_digest]
    decide
  have hpolicy : smokePolicy.violation smokeSha256 = none := by
    unfold SignedRetryPolicy.violation taskRetryPolicyDigest
    rw [smoke_policy_digest]
    decide
  have hhash : taskRunManifestHash smokeSha256 smokeContent = .ok smokeContent.manifestHash := by
    unfold taskRunManifestHash
    rw [smoke_hash]
    rfl
  have hunits : (smokeContent.units.any fun unit => (unit.violation smokeSha256).isSome) =
      false := by
    rw [show smokeContent.units = [smokeUnit] from rfl, List.any_cons, hunit]
    rfl
  have hpolicies : (smokeContent.retryPolicy.any fun policy =>
      (policy.violation smokeSha256).isSome) = false := by
    rw [show smokeContent.retryPolicy = some smokePolicy from rfl, Option.any_some, hpolicy]
    rfl
  unfold ManifestContent.violation
  rw [hhash, hunits, hpolicies]
  simp only [firstViolation_cons, firstViolation_nil]
  exact ⟨by decide, by decide, by decide, trivial, by decide, by decide, trivial, by decide,
    by decide, by decide, by decide, by decide, by decide, by decide, trivial⟩

def smokeManifest : RunManifest smokeSha256 :=
  { smokeContent with sorted := by decide, valid := smoke_valid }

/-- The policies of the same Manifest, listed in the other order. -/
theorem smoke_digests_sorted :
    sortDigests [("infra-retry", smokePolicy.contentDigest), ("evidence", 9)] =
      smokeContent.policyDigests := by
  decide

def smokeReordered : RunManifest smokeSha256 :=
  { smokeContent with
    policyDigests := sortDigests [("infra-retry", smokePolicy.contentDigest), ("evidence", 9)]
    sorted := by rw [smoke_digests_sorted]; decide
    valid := by rw [smoke_digests_sorted]; exact smoke_valid }

theorem smoke_reordered_content : smokeReordered.toManifestContent = smokeContent := by
  unfold smokeReordered
  simp only [smoke_digests_sorted]

theorem smoke_collision_free :
    CollisionFree smokeSha256 (hashedTexts smokeContent ++ hashedTexts smokeContent) := by
  have hhash : smokeSha256 smokeContent.body.canonicalText ≠
      smokeSha256 smokePolicy.toJson.canonicalText := by
    have hbody := smoke_hash
    have hpolicy := smoke_policy_digest
    unfold canonicalDigest at hbody hpolicy
    rw [hbody, hpolicy]
    decide
  have htexts : ∀ s ∈ hashedTexts smokeContent ++ hashedTexts smokeContent,
      s = smokeContent.body.canonicalText ∨ s = smokePolicy.toJson.canonicalText := by
    intro s hs
    simp only [hashedTexts, show smokeContent.retryPolicy = some smokePolicy from rfl,
      Option.toList_some, List.map_cons, List.map_nil, List.mem_append, List.mem_cons,
      List.not_mem_nil, or_false] at hs
    rcases hs with (hs | hs) | hs | hs
    · exact Or.inl hs
    · exact Or.inr hs
    · exact Or.inl hs
    · exact Or.inr hs
  intro s hs t ht hst
  rcases htexts s hs with rfl | rfl <;> rcases htexts t ht with rfl | rfl
  · rfl
  · exact absurd hst hhash
  · exact absurd hst.symm hhash
  · rfl

theorem smoke_manifest_pinned :
    smokeManifest.recomputeManifestHash = .ok smokeManifest.manifestHash ∧
      smokeManifest = smokeReordered := by
  refine ⟨(manifest_hash_pins_manifest smokeSha256).1 smokeManifest, ?_⟩
  refine (manifest_hash_pins_manifest smokeSha256).2 smokeManifest smokeReordered ?_ ?_
  · rw [smoke_reordered_content]
    exact smoke_collision_free
  · rw [smoke_reordered_content]
    rfl

end Atlas.Proofs
