import Mathlib.Data.List.Pairwise
import AtlasTestOps.Proofs.SnapshotWrites

/-! The snapshots of a Run form one chain. Its three writers each look up a latest
snapshot of their own, so the invariant records how those are related: every
FULLY_RESOLVED snapshot has the quality inputs of the latest QUALITY_FINAL one, and every
REEVALUATED snapshot the inputs of a FULLY_RESOLVED one before it. -/

namespace Atlas.Proofs

open Atlas Atlas.Task Atlas.Result Atlas.Store Atlas.Service Txn Relation

/-- QUALITY_FINAL < FULLY_RESOLVED < REEVALUATED -/
def finalityRank : TaskResultSnapshotFinality → ℕ
  | .qualityFinal => 0
  | .fullyResolved => 1
  | .reevaluated => 2

/-- The latest snapshot of one finality. -/
def latestOf (finality : TaskResultSnapshotFinality) (snapshots : List TaskResultSnapshot) :
    Option TaskResultSnapshot :=
  Rows.newest (fun s => s.revision) (snapshots.filter fun s => s.finality = finality)

structure SnapshotChain (snapshots : List TaskResultSnapshot) : Prop where
  revisions : Rows.Gapless (fun s => s.revision) snapshots
  ids : snapshots.Pairwise fun s t => s.id ≠ t.id
  predecessors :
    Rows.LinkedFrom (fun s => s.id) (fun s => s.supersedesSnapshotId) none snapshots
  finality : snapshots.Pairwise fun s t => finalityRank s.finality ≤ finalityRank t.finality

/-! The calls that write snapshots. -/

inductive SnapshotCall
  | quality (createdAt : Instant)
  | fullyResolved (createdAt : Instant)
  | reevaluate (actor : ActorContext) (taskRunId : Uuid)
      (request : RequestTaskResultReevaluation) (idempotencyKey : String) (requestHash : Digest)
      (now : Instant)

namespace SnapshotCall

def finality : SnapshotCall → TaskResultSnapshotFinality
  | quality _ => .qualityFinal
  | fullyResolved _ => .fullyResolved
  | reevaluate .. => .reevaluated

/-- The call as one transaction over the stored Run and Manifest. -/
def op (H : ResultHashes) : SnapshotCall → Op (Option TaskResultSnapshot)
  | quality createdAt => do
    let db ← read id
    some <$> snapshotTask H db.run db.manifest createdAt
  | fullyResolved createdAt => do
    let db ← read id
    snapshotTaskFullyResolved H db.run db.manifest createdAt
  | reevaluate actor taskRunId request idempotencyKey requestHash now =>
    (fun answer => some answer.value) <$>
      Service.reevaluate H actor taskRunId request idempotencyKey requestHash now

end SnapshotCall

/-- What a snapshot is computed from: the two input roots and the policy. -/
structure SnapshotInputs where
  resolutionSetHash : Digest
  hygieneSetHash : Option Digest
  policyDigest : Digest
deriving DecidableEq, Repr

def inputsOf (s : TaskResultSnapshot) : SnapshotInputs :=
  ⟨s.inputResolutionSetHash, s.inputHygieneResolutionSetHash, s.aggregationPolicyDigest⟩

/-- The inputs that a call finds; none when it names no snapshot. -/
def SnapshotCall.inputs (H : ResultHashes) (db : Db) : SnapshotCall → Option SnapshotInputs
  | quality _ =>
    some ⟨resolutionSetHash H db.run db.listLatestResolutions, none,
      snapshotPolicyDigest .qualityFinal⟩
  | fullyResolved _ =>
    some ⟨resolutionSetHash H db.run db.listLatestResolutions,
      some (hygieneResolutionSetHash H db.run db.listLatestHygieneResolutions),
      snapshotPolicyDigest .fullyResolved⟩
  | reevaluate _ _ request _ _ _ =>
    (db.getSnapshotById request.sourceSnapshotId).map fun source =>
      ⟨source.inputResolutionSetHash, source.inputHygieneResolutionSetHash,
        snapshotPolicyDigest .reevaluated⟩

/-- One call, or any change to the rest of the Run. -/
inductive SnapshotStep (H : ResultHashes) (db : Db) : Db → Prop
  | call (c : SnapshotCall) : SnapshotStep H db (after (c.op H) db)
  | evolve {db' : Db} (same : db'.snapshots = db.snapshots) : SnapshotStep H db db'

/-! The invariant. -/

theorem policyDigest_eq (s : TaskResultSnapshot) :
    s.aggregationPolicyDigest = snapshotPolicyDigest s.finality := by
  have hv := s.valid
  simp only [TaskResultSnapshotContent.violation, firstViolation_cons,
    decide_eq_false_iff_not, not_not] at hv
  exact hv.2.2.2.2.2.2.2.2.2.2.1

theorem sameSnapshotInput_symm {s t : TaskResultSnapshot} (hts : sameSnapshotInput t s = true) :
    sameSnapshotInput s t = true := by
  simp only [sameSnapshotInput, Bool.and_eq_true, decide_eq_true_eq] at hts ⊢
  obtain ⟨⟨hfin, hdigest⟩, hinput⟩ := hts
  refine ⟨⟨hfin.symm, hdigest.symm⟩, ?_⟩
  rw [hfin]
  cases hs : s.finality <;> simp_all

/-- The facts of `s` are as recent as those of `t`: the same roots and watermark. -/
structure SameFacts (s t : TaskResultSnapshot) : Prop where
  resolutions : s.inputResolutionSetHash = t.inputResolutionSetHash
  hygiene : s.inputHygieneResolutionSetHash = t.inputHygieneResolutionSetHash
  watermark : s.projectionWatermark = t.projectionWatermark

structure ChainInv (snapshots : List TaskResultSnapshot) : Prop extends
    SnapshotChain snapshots where
  distinct : snapshots.Pairwise fun s t => sameSnapshotInput s t = false
  fullInputs : ∀ s ∈ snapshots, s.finality = .fullyResolved →
    ∃ q, latestOf .qualityFinal snapshots = some q ∧
      q.inputResolutionSetHash = s.inputResolutionSetHash
  sources : ∀ s ∈ snapshots, s.finality = .reevaluated →
    ∃ f ∈ snapshots, f.finality = .fullyResolved ∧
      s.reevaluationSourceSnapshotId = some f.id ∧ SameFacts s f

/-- `s` continues the chain: it names the latest snapshot and does not go back in finality. -/
structure Follows (snapshots : List TaskResultSnapshot) (s : TaskResultSnapshot) : Prop where
  fresh : ∀ t ∈ snapshots, t.id ≠ s.id
  distinct : ∀ t ∈ snapshots, sameSnapshotInput t s = false
  revision : s.revision =
    ((Rows.newest (fun t => t.revision) snapshots).map fun t => t.revision).getD 0 + 1
  supersedes : s.supersedesSnapshotId =
    (Rows.newest (fun t => t.revision) snapshots).map fun t => t.id
  finality : ∀ latest ∈ Rows.newest (fun t => t.revision) snapshots,
    finalityRank latest.finality ≤ finalityRank s.finality

section Append

variable {snapshots : List TaskResultSnapshot} {s : TaskResultSnapshot}

/-- No snapshot is ahead of the latest one. -/
theorem SnapshotChain.rank_le_latest (h : SnapshotChain snapshots) {latest : TaskResultSnapshot}
    (hlatest : Rows.newest (fun t => t.revision) snapshots = some latest) :
    ∀ t ∈ snapshots, finalityRank t.finality ≤ finalityRank latest.finality := by
  intro t ht
  have : Std.Refl fun t u : TaskResultSnapshot =>
    finalityRank t.finality ≤ finalityRank u.finality := ⟨fun _ => le_rfl⟩
  rw [h.revisions.newest_eq_getLast?] at hlatest
  rw [← List.getLast_of_getLast?_eq_some hlatest]
  exact h.finality.rel_getLast ht

theorem SnapshotChain.rank_le (h : SnapshotChain snapshots) (hs : Follows snapshots s) :
    ∀ t ∈ snapshots, finalityRank t.finality ≤ finalityRank s.finality := by
  intro t ht
  cases hlatest : Rows.newest (fun t : TaskResultSnapshot => t.revision) snapshots with
  | none =>
    rw [Rows.newest_eq_none.1 hlatest] at ht
    simp at ht
  | some latest => exact (h.rank_le_latest hlatest t ht).trans (hs.finality latest hlatest)

theorem SnapshotChain.append (h : SnapshotChain snapshots) (hs : Follows snapshots s) :
    SnapshotChain (snapshots ++ [s]) where
  revisions := Rows.gapless_append.2 ⟨h.revisions, by rw [hs.revision, h.revisions.length_eq]⟩
  ids := List.pairwise_append.2
    ⟨h.ids, List.pairwise_singleton _ _, fun t ht u hu => by
      rw [List.mem_singleton.1 hu]
      exact hs.fresh t ht⟩
  predecessors := by
    refine Rows.linkedFrom_append.2 ⟨h.predecessors, ?_⟩
    rw [hs.supersedes, h.revisions.newest_eq_getLast?, Option.or_none]
  finality := List.pairwise_append.2
    ⟨h.finality, List.pairwise_singleton _ _, fun t ht u hu => by
      rw [List.mem_singleton.1 hu]
      exact h.rank_le hs t ht⟩

theorem latestOf_append (h : SnapshotChain (snapshots ++ [s]))
    (finality : TaskResultSnapshotFinality) :
    latestOf finality (snapshots ++ [s]) =
      if s.finality = finality then some s else latestOf finality snapshots := by
  rw [latestOf, h.revisions.newest_filter_append]
  simp [latestOf]

/-- The invariant after one more snapshot, by the finality of that snapshot. -/
theorem ChainInv.append (h : ChainInv snapshots) (hs : Follows snapshots s)
    (hfull : s.finality = .fullyResolved → ∃ q, latestOf .qualityFinal snapshots = some q ∧
      q.inputResolutionSetHash = s.inputResolutionSetHash)
    (hsource : s.finality = .reevaluated → ∃ f ∈ snapshots, f.finality = .fullyResolved ∧
      s.reevaluationSourceSnapshotId = some f.id ∧ SameFacts s f) :
    ChainInv (snapshots ++ [s]) := by
  have hchain := h.toSnapshotChain.append hs
  refine { hchain with distinct := ?_, fullInputs := ?_, sources := ?_ }
  · refine List.pairwise_append.2 ⟨h.distinct, List.pairwise_singleton _ _, fun t ht u hu => ?_⟩
    rw [List.mem_singleton.1 hu]
    exact hs.distinct t ht
  · intro t ht htfull
    have hrank : finalityRank t.finality ≤ finalityRank s.finality := by
      rcases List.mem_append.1 ht with ht | ht
      · exact h.rank_le hs t ht
      · rw [List.mem_singleton.1 ht]
    -- A QUALITY_FINAL snapshot is never written over a FULLY_RESOLVED one.
    have hne : s.finality ≠ .qualityFinal := by
      intro hq
      rw [htfull, hq] at hrank
      simp [finalityRank] at hrank
    rw [latestOf_append hchain, if_neg hne]
    rcases List.mem_append.1 ht with ht | ht
    · exact h.fullInputs t ht htfull
    · rw [List.mem_singleton.1 ht] at htfull ⊢
      exact hfull htfull
  · intro t ht htre
    rcases List.mem_append.1 ht with ht | ht
    · obtain ⟨f, hf, hrest⟩ := h.sources t ht htre
      exact ⟨f, List.mem_append_left _ hf, hrest⟩
    · rw [List.mem_singleton.1 ht] at htre ⊢
      obtain ⟨f, hf, hrest⟩ := hsource htre
      exact ⟨f, List.mem_append_left _ hf, hrest⟩

end Append

/-! What each writer appends continues the chain. -/

section Steps

variable {H : ResultHashes} {db db' : Db} {run : TaskRun} {manifest : TaskRunManifest}
  {createdAt : Instant} {s : TaskResultSnapshot}

theorem nextRevision (latest : Option TaskResultSnapshot) :
    (match latest with
      | some snapshot => snapshot.revision + 1
      | none => 1) = (latest.map fun t => t.revision).getD 0 + 1 := by
  cases latest <;> rfl

theorem QualityAppended.follows (h : QualityAppended H run manifest db s db') :
    s.finality = .qualityFinal ∧ Follows db.snapshots s := by
  obtain ⟨counts, watermark, id, createdAt, -, hcontent⟩ := h.content
  have hfin : s.finality = .qualityFinal := by rw [hcontent]; rfl
  refine ⟨hfin, h.inserted.fresh, h.inserted.distinct, ?_, by rw [hcontent]; rfl, ?_⟩
  · rw [hcontent]
    exact nextRevision _
  · intro latest hlatest
    rw [h.order latest hlatest, hfin]

theorem FullAppended.follows {quality : TaskResultSnapshot}
    (h : FullAppended H run manifest quality db s db') :
    s.finality = .fullyResolved ∧ s.inputResolutionSetHash = quality.inputResolutionSetHash ∧
      Follows db.snapshots s := by
  obtain ⟨counts, watermark, id, createdAt, -, hcontent⟩ := h.content
  have hfin : s.finality = .fullyResolved := by rw [hcontent]; rfl
  refine ⟨hfin, by rw [hcontent]; rfl, h.inserted.fresh, h.inserted.distinct, ?_,
    by rw [hcontent]; rfl, ?_⟩
  · rw [hcontent]
    exact nextRevision _
  · intro latest hlatest
    obtain ⟨l, hl, hne⟩ := h.order
    obtain rfl : l = latest := Option.some.inj (hl.symm.trans hlatest)
    rw [hfin]
    cases hlf : l.finality <;> simp_all [finalityRank]

theorem getSnapshotById_mem {id : Uuid} (h : db.getSnapshotById id = some s) :
    s ∈ db.snapshots ∧ s.id = id := by
  have hid := List.find?_some h
  exact ⟨List.mem_of_find?_eq_some h, by simpa using hid⟩

theorem ReevaluationAppended.follows {sourceId : Uuid} {source latest : TaskResultSnapshot}
    (h : ReevaluationAppended sourceId source latest db s db') :
    s.finality = .reevaluated ∧ Follows db.snapshots s := by
  obtain ⟨id, commandId, now, hcontent⟩ := h.content
  have hfin : s.finality = .reevaluated := by rw [hcontent]; rfl
  have hlatest : Rows.newest (fun t => t.revision) db.snapshots = some latest := h.newestBefore
  refine ⟨hfin, h.inserted.fresh, h.inserted.distinct, ?_, ?_, ?_⟩
  · rw [hcontent, hlatest]
    rfl
  · rw [hcontent, hlatest]
    rfl
  · intro t _
    rw [hfin]
    cases t.finality <;> simp [finalityRank]

theorem QualityAppended.keeps (h : QualityAppended H run manifest db s db')
    (hinv : ChainInv db.snapshots) : ChainInv db'.snapshots := by
  obtain ⟨hfin, hs⟩ := h.follows
  rw [h.inserted.snapshots]
  exact hinv.append hs (by simp [hfin]) (by simp [hfin])

/-- After `snapshot_task` its answer is the latest QUALITY_FINAL snapshot. -/
theorem snapshotTask_keeps (h : Commits (snapshotTask H run manifest createdAt) db s db')
    (hinv : ChainInv db.snapshots) :
    ChainInv db'.snapshots ∧ latestOf .qualityFinal db'.snapshots = some s := by
  obtain ⟨-, -, ⟨hlatest, rfl⟩ | hwrite⟩ := snapshotTask_commits h
  · exact ⟨hinv, hlatest⟩
  · have hkept := hwrite.keeps hinv
    refine ⟨hkept, ?_⟩
    rw [hwrite.inserted.snapshots] at hkept ⊢
    rw [latestOf_append hkept.toSnapshotChain, if_pos hwrite.follows.1]

theorem FullAppended.keeps {quality : TaskResultSnapshot}
    (h : FullAppended H run manifest quality db s db') (hinv : ChainInv db.snapshots)
    (hquality : latestOf .qualityFinal db.snapshots = some quality) : ChainInv db'.snapshots := by
  obtain ⟨hfin, hhash, hs⟩ := h.follows
  rw [h.inserted.snapshots]
  exact hinv.append hs (fun _ => ⟨quality, hquality, hhash.symm⟩) (by simp [hfin])

theorem ReevaluationAppended.keeps {sourceId : Uuid} {source latest : TaskResultSnapshot}
    (h : ReevaluationAppended sourceId source latest db s db') (hinv : ChainInv db.snapshots) :
    ChainInv db'.snapshots := by
  obtain ⟨hfin, hs⟩ := h.follows
  rw [h.inserted.snapshots]
  refine hinv.append hs (by simp [hfin]) fun _ => ?_
  obtain ⟨id, commandId, now, hcontent⟩ := h.content
  refine ⟨source, (getSnapshotById_mem h.found).1, h.finality, ?_⟩
  exact ⟨by rw [hcontent]; rfl, by rw [hcontent]; rfl, by rw [hcontent]; rfl, by rw [hcontent]; rfl⟩

theorem fullyResolved_keeps {answer : Option TaskResultSnapshot}
    (h : Commits (snapshotTaskFullyResolved H run manifest createdAt) db answer db')
    (hinv : ChainInv db.snapshots) : ChainInv db'.snapshots := by
  obtain ⟨-, rfl⟩ | ⟨quality, m, hquality, houtcome⟩ := snapshotTaskFullyResolved_commits h
  · exact hinv
  obtain ⟨hm, hlatest⟩ := snapshotTask_keeps hquality hinv
  cases houtcome with
  | waiting => exact hm
  | replayed => exact hm
  | appended hwrite => exact hwrite.keeps hm hlatest

theorem reevaluate_keeps {actor : ActorContext} {taskRunId : Uuid}
    {request : RequestTaskResultReevaluation} {key : String} {requestHash : Digest}
    {now : Instant} {answer : CommandResult}
    (h : Commits (reevaluate H actor taskRunId request key requestHash now) db answer db')
    (hinv : ChainInv db.snapshots) : ChainInv db'.snapshots := by
  cases reevaluate_commits h with
  | cached => exact hinv
  | existing => exact hinv
  | appended hwrite => exact hwrite.keeps hinv

theorem call_keeps {c : SnapshotCall} {answer : Option TaskResultSnapshot}
    (h : Commits (c.op H) db answer db') (hinv : ChainInv db.snapshots) :
    ChainInv db'.snapshots := by
  cases c with
  | quality createdAt =>
    simp only [SnapshotCall.op, commits_bind, commits_read, commits_map] at h
    obtain ⟨_, _, ⟨rfl, rfl⟩, s, hs, rfl⟩ := h
    exact (snapshotTask_keeps hs hinv).1
  | fullyResolved createdAt =>
    simp only [SnapshotCall.op, commits_bind, commits_read] at h
    obtain ⟨_, _, ⟨rfl, rfl⟩, hs⟩ := h
    exact fullyResolved_keeps hs hinv
  | reevaluate actor taskRunId request key requestHash now =>
    simp only [SnapshotCall.op, commits_map] at h
    obtain ⟨s, hs, rfl⟩ := h
    exact reevaluate_keeps hs hinv

theorem step_keeps (h : SnapshotStep H db db') (hinv : ChainInv db.snapshots) :
    ChainInv db'.snapshots := by
  cases h with
  | call c =>
    rcases after_eq (c.op H) db with hsame | ⟨answer, hc⟩
    · rwa [hsame]
    · exact call_keeps hc hinv
  | evolve hsame => rwa [hsame]

end Steps

/-- Every history of the snapshots of a Run that starts without one. -/
theorem chainInv_of_run {H : ResultHashes} {db₀ db : Db} (hnew : db₀.snapshots = [])
    (hrun : ReflTransGen (SnapshotStep H) db₀ db) : ChainInv db.snapshots := by
  have hinit : ChainInv db₀.snapshots := by
    rw [hnew]
    exact ⟨⟨Rows.gapless_nil, .nil, trivial, .nil⟩, .nil, by simp, by simp⟩
  exact run_keeps (I := fun db => ChainInv db.snapshots) (fun _ _ => step_keeps) hrun hinit

/-! Calls that find the inputs of the latest snapshot of their finality. -/

section Unchanged

variable {H : ResultHashes} {db db' : Db} {run : TaskRun} {manifest : TaskRunManifest}
  {createdAt : Instant} {s t : TaskResultSnapshot}

theorem latestOf_mem {finality : TaskResultSnapshotFinality}
    {snapshots : List TaskResultSnapshot} (h : latestOf finality snapshots = some t) :
    t ∈ snapshots ∧ t.finality = finality := by
  have hmem := Rows.newest_mem h
  simpa using hmem

theorem sameSnapshotInput_of_inputs (hfin : t.finality = s.finality)
    (hne : s.finality ≠ .reevaluated) (h : inputsOf t = inputsOf s) :
    sameSnapshotInput t s = true := by
  simp only [inputsOf, SnapshotInputs.mk.injEq] at h
  obtain ⟨hres, hhyg, hdigest⟩ := h
  cases hs : s.finality <;> simp_all [sameSnapshotInput]

theorem Inserted.inputs_ne (h : Inserted db s db') (ht : t ∈ db.snapshots)
    (hfin : t.finality = s.finality) (hne : s.finality ≠ .reevaluated) :
    inputsOf t ≠ inputsOf s := by
  intro hin
  have hsame := sameSnapshotInput_of_inputs hfin hne hin
  rw [h.distinct t ht] at hsame
  simp at hsame

theorem QualityAppended.inputsOf_eq (h : QualityAppended H run manifest db s db') :
    inputsOf s = ⟨resolutionSetHash H run db.listLatestResolutions, none,
      snapshotPolicyDigest .qualityFinal⟩ := by
  obtain ⟨_, _, _, _, -, hcontent⟩ := h.content
  simp only [inputsOf, hcontent, aggregate, Option.map_none]

theorem FullAppended.inputsOf_eq {quality : TaskResultSnapshot}
    (h : FullAppended H run manifest quality db s db') :
    inputsOf s = ⟨quality.inputResolutionSetHash,
      some (hygieneResolutionSetHash H run db.listLatestHygieneResolutions),
      snapshotPolicyDigest .fullyResolved⟩ := by
  obtain ⟨_, _, _, _, -, hcontent⟩ := h.content
  simp only [inputsOf, hcontent, aggregate, Option.map_some]

/-- Once a snapshot is FULLY_RESOLVED, `snapshot_task` writes nothing. -/
theorem snapshotTask_after_full (hinv : ChainInv db.snapshots) (ht : t ∈ db.snapshots)
    (hfull : t.finality = .fullyResolved)
    (h : Commits (snapshotTask H run manifest createdAt) db s db') : db' = db := by
  obtain ⟨-, -, ⟨-, rfl⟩ | hwrite⟩ := snapshotTask_commits h
  · rfl
  · obtain ⟨hfin, hs⟩ := hwrite.follows
    have hrank := hinv.rank_le hs t ht
    rw [hfull, hfin] at hrank
    simp [finalityRank] at hrank

/-- Two FULLY_RESOLVED snapshots of a chain with the same inputs are one. -/
theorem ChainInv.full_unique (hinv : ChainInv db.snapshots) (hs : s ∈ db.snapshots)
    (ht : t ∈ db.snapshots) (hsfull : s.finality = .fullyResolved)
    (htfull : t.finality = .fullyResolved) (h : inputsOf t = inputsOf s) : t = s := by
  by_contra hne
  have : Std.Symm fun s t => sameSnapshotInput s t = false :=
    ⟨fun _ _ hst => Bool.eq_false_iff.2 fun hts =>
      Bool.eq_false_iff.1 hst (sameSnapshotInput_symm hts)⟩
  have hdistinct := hinv.distinct.forall ht hs hne
  rw [sameSnapshotInput_of_inputs (htfull.trans hsfull.symm) (by simp [hsfull]) h] at hdistinct
  simp at hdistinct

/-- A re-evaluation with the inputs of the latest one names the same source. -/
theorem ReevaluationAppended.inputs_ne {sourceId : Uuid} {source latest : TaskResultSnapshot}
    (h : ReevaluationAppended sourceId source latest db s db') (hinv : ChainInv db.snapshots)
    (ht : latestOf .reevaluated db.snapshots = some t) :
    ¬ (t.inputResolutionSetHash = source.inputResolutionSetHash ∧
      t.inputHygieneResolutionSetHash = source.inputHygieneResolutionSetHash) := by
  rintro ⟨hres, hhyg⟩
  obtain ⟨htmem, htfin⟩ := latestOf_mem ht
  obtain ⟨f, hf, hffull, hfsource, hfacts⟩ := hinv.sources t htmem htfin
  obtain ⟨hsourcemem, -⟩ := getSnapshotById_mem h.found
  have heq : f = source := by
    refine hinv.full_unique hsourcemem hf h.finality hffull ?_
    simp only [inputsOf, policyDigest_eq, hffull, h.finality, ← hres, ← hhyg,
      hfacts.resolutions, hfacts.hygiene]
  have hnone : ¬ t ∈ db.snapshots.filter fun u =>
      u.finality = .reevaluated ∧ u.reevaluationSourceSnapshotId = some source.id ∧
        u.aggregationPolicyDigest = taskResultSnapshotReevaluatedPolicyDigest := by
    rw [Rows.newest_eq_none.1 h.first]
    simp
  apply hnone
  simp [htmem, htfin, hfsource, heq, policyDigest_eq, snapshotPolicyDigest]

theorem snapshots_unchanged (hinv : ChainInv db.snapshots) {c : SnapshotCall}
    (ht : latestOf c.finality db.snapshots = some t) (hin : c.inputs H db = some (inputsOf t)) :
    (after (c.op H) db).snapshots = db.snapshots := by
  rcases after_eq (c.op H) db with hsame | ⟨answer, h⟩
  · rw [hsame]
  obtain ⟨htmem, htfin⟩ := latestOf_mem ht
  generalize after (c.op H) db = db' at h
  cases c with
  | quality createdAt =>
    simp only [SnapshotCall.op, commits_bind, commits_read, commits_map] at h
    obtain ⟨_, _, ⟨rfl, rfl⟩, s, hs, rfl⟩ := h
    obtain ⟨-, -, ⟨-, rfl⟩ | hwrite⟩ := snapshotTask_commits hs
    · rfl
    · refine absurd ?_ (hwrite.inserted.inputs_ne htmem (htfin.trans hwrite.follows.1.symm)
        (by simp [hwrite.follows.1]))
      rw [hwrite.inputsOf_eq]
      exact (Option.some.inj hin).symm
  | fullyResolved createdAt =>
    simp only [SnapshotCall.op, commits_bind, commits_read] at h
    obtain ⟨_, m, ⟨rfl, rfl⟩, hs⟩ := h
    obtain ⟨-, rfl⟩ | ⟨quality, m', hquality, houtcome⟩ := snapshotTaskFullyResolved_commits hs
    · rfl
    obtain rfl := snapshotTask_after_full hinv htmem htfin hquality
    cases houtcome with
    | waiting => rfl
    | replayed => rfl
    | appended hwrite =>
      refine absurd ?_ (hwrite.inserted.inputs_ne htmem (htfin.trans hwrite.follows.1.symm)
        (by simp [hwrite.follows.1]))
      rw [hwrite.inputsOf_eq, (snapshotTask_commits hquality).2.1]
      exact (Option.some.inj hin).symm
  | reevaluate actor taskRunId request key requestHash now =>
    simp only [SnapshotCall.op, commits_map] at h
    obtain ⟨s, hs, rfl⟩ := h
    cases reevaluate_commits hs with
    | cached => rfl
    | existing => rfl
    | appended hwrite =>
      refine absurd ?_ (hwrite.inputs_ne hinv ht)
      simp only [SnapshotCall.inputs, hwrite.found, Option.map_some, Option.some.injEq, inputsOf,
        SnapshotInputs.mk.injEq] at hin
      exact ⟨hin.1.symm, hin.2.1.symm⟩

end Unchanged

/-! A Run of one Unit whose leaked data is cleaned after it was fully resolved. -/

namespace LateCleanup

def hashes : ResultHashes where
  closureNotice content := BitVec.ofNat 256 content.id
  unitResolutionInputSet _ _ _ inputs := BitVec.ofNat 256 (inputs.map fun i => i.factId).sum
  resolutionSet _ _ roots := BitVec.ofNat 256 (roots.map fun r => r.unitResolutionRevisionId).sum
  hygieneResolutionSet _ _ roots :=
    BitVec.ofNat 256 (roots.map fun r => r.unitHygieneResolutionRevisionId).sum
  snapshot content := BitVec.ofNat 256 content.projectionWatermark

def scope : RunScope := ⟨1, 2, 3, 0#256⟩

def closedState : ExecutionState where
  lifecycle := .closed
  quality := .passed
  hygiene := .leaked
  startedAt := some 1
  finalizedAt := some 2
  cleanupResolvedAt := some 3
  closedAt := some 3
  revision := 4
  updatedAt := 3

def pins : UnitPins := ⟨1, 11, 12, 13, 14, 15, 16, 17, 0#256, 0#256⟩

def hygieneRow (id revision createdAt : ℕ) (dataHygiene : DataHygiene) :
    UnitHygieneResolutionRevision :=
  { scope with
    executionUnitId := 4
    unitKey := 0#256
    id := id
    revision := revision
    inputSetHash := BitVec.ofNat 256 id
    dataHygiene := dataHygiene
    resolutionPolicyDigest := 0#256
    resolutionHash := BitVec.ofNat 256 id
    createdAt := createdAt }

def resolution : UnitResolutionRevision where
  toRunScope := scope
  executionUnitId := 4
  unitKey := 0#256
  outcomeClass := .business
  closureReason := "ALL_ORACLES_PASSED"
  dataHygiene := .leaked
  evidenceCompleteness := .complete
  evidenceIntegrity := .verified
  executionInfluence := .autonomous
  id := 21
  unitResolutionId := 22
  revision := 1
  inputSealIds := [23]
  inputClosureNoticeIds := []
  inputSetHash := 23#256
  effectiveVerdict := .passed
  stability := .stable
  decisiveUnitAttemptId := 24
  decisiveAttemptNumber := 1
  resolutionPolicyDigest := unitResolutionPolicyDigest
  supersedesRevisionId := none
  createdAt := 5
  valid := by decide

def start : Db where
  run :=
    { scope, closedState with
      requestDigest := none
      materializationState := .sealed
      materializedUnitCount := some 1
      materializedFirstAttemptCount := some 1
      temporalNamespace := none
      temporalWorkflowId := none
      queuedAt := 0
      createdAt := 0 }
  manifest :=
    { scope with units := [{ pins with unitKey := 0#256 }], policyDigests := [], retryPolicy := none }
  units :=
    [{ scope, pins, closedState with executionUnitId := 4, unitKey := 0#256, createdAt := 0 }]
  attempts := []
  events := []
  commands := []
  tickets := []
  seals := []
  refs := []
  closures := []
  incidents := []
  resolutions := [resolution]
  hygieneResolutions := [hygieneRow 31 1 10 .leaked]
  snapshots := []
  reevaluationCommands := []
  idempotency := []
  clusters := []
  classifications := []
  nextId := 100

def resolved : Db := after ((SnapshotCall.fullyResolved 20).op hashes) start

/-- A later cleanup leaves the Unit leaked, with other leaked resources. -/
def leakedAgain : Db :=
  { resolved with
    hygieneResolutions := resolved.hygieneResolutions ++ [hygieneRow 32 2 30 .leaked] }

def resolvedAgain : Db := after ((SnapshotCall.fullyResolved 40).op hashes) leakedAgain

/-- The operator asks for the re-evaluation of one of the two snapshots. -/
def reevaluateOf (sourceId : Uuid) : Op CommandResult :=
  reevaluate hashes ⟨1, none, [], true⟩ 3 ⟨sourceId, "m"⟩ "m" 7#256 50

theorem history : ReflTransGen (SnapshotStep hashes) start resolvedAgain :=
  ((ReflTransGen.single (.call _)).tail (.evolve rfl)).tail (.call _)

end LateCleanup

/-- In every history the snapshots of a Run form one chain, a call that finds the inputs of
the latest snapshot of its finality appends nothing, and a call that raises changes nothing. -/
theorem snapshots_form_chain {H : ResultHashes} {db₀ db : Db} (hnew : db₀.snapshots = [])
    (hrun : ReflTransGen (SnapshotStep H) db₀ db) :
    SnapshotChain db.snapshots ∧
    (∀ c t, latestOf (SnapshotCall.finality c) db.snapshots = some t →
      c.inputs H db = some (inputsOf t) → (after (c.op H) db).snapshots = db.snapshots) ∧
    (∀ (c : SnapshotCall) (e : Fault), c.op H db = .error e → after (c.op H) db = db) := by
  have hinv := chainInv_of_run hnew hrun
  exact ⟨hinv.toSnapshotChain, fun c t ht hin => snapshots_unchanged hinv ht hin,
    fun c e he => after_of_raises he⟩

theorem late_cleanup_snapshots_form_chain :
    SnapshotChain LateCleanup.resolvedAgain.snapshots ∧
      ∀ t, latestOf .fullyResolved LateCleanup.resolvedAgain.snapshots = some t →
        (SnapshotCall.fullyResolved 60).inputs LateCleanup.hashes LateCleanup.resolvedAgain =
          some (inputsOf t) →
        (after ((SnapshotCall.fullyResolved 60).op LateCleanup.hashes)
          LateCleanup.resolvedAgain).snapshots = LateCleanup.resolvedAgain.snapshots :=
  have h := snapshots_form_chain rfl LateCleanup.history
  ⟨h.1, h.2.1 (.fullyResolved 60)⟩

/-! Which facts a re-evaluation puts on top of the chain. -/

/-- A snapshot at the end of the chain that is not QUALITY_FINAL has the facts of a
FULLY_RESOLVED one. -/
theorem ChainInv.latest_facts {snapshots : List TaskResultSnapshot} (hinv : ChainInv snapshots)
    {latest : TaskResultSnapshot}
    (hlatest : Rows.newest (fun t => t.revision) snapshots = some latest)
    (hfull : ∃ t ∈ snapshots, t.finality = .fullyResolved) :
    ∃ f ∈ snapshots, f.finality = .fullyResolved ∧ SameFacts latest f := by
  obtain ⟨t, ht, htfull⟩ := hfull
  have hrank := hinv.rank_le_latest hlatest t ht
  have hmem := Rows.newest_mem hlatest
  cases hfin : latest.finality with
  | qualityFinal => simp [htfull, hfin, finalityRank] at hrank
  | fullyResolved => exact ⟨latest, hmem, hfin, rfl, rfl, rfl⟩
  | reevaluated =>
    obtain ⟨f, hf, hffull, -, hfacts⟩ := hinv.sources latest hmem hfin
    exact ⟨f, hf, hffull, hfacts⟩

/-- A re-evaluation that appends a snapshot puts the facts of the source it names over those
of some FULLY_RESOLVED snapshot. When it names the latest FULLY_RESOLVED one, it covers the
facts of that or of an earlier one; when no FULLY_RESOLVED watermark is above that of its
source, the watermark does not go back. -/
theorem reevaluation_puts_source_on_top {H : ResultHashes} {db₀ db db' : Db}
    {actor : ActorContext} {taskRunId : Uuid} {request : RequestTaskResultReevaluation}
    {key : String} {requestHash : Digest} {now : Instant} {answer : CommandResult}
    (hnew : db₀.snapshots = []) (hrun : ReflTransGen (SnapshotStep H) db₀ db)
    (h : Commits (reevaluate H actor taskRunId request key requestHash now) db answer db')
    (hwrites : db'.snapshots ≠ db.snapshots) :
    ∃ source latest,
      db.getSnapshotById request.sourceSnapshotId = some source ∧
      source.finality = .fullyResolved ∧ db.getLatestSnapshot = some latest ∧
      db'.snapshots = db.snapshots ++ [answer.value] ∧
      answer.value.finality = .reevaluated ∧
      answer.value.supersedesSnapshotId = some latest.id ∧
      SameFacts answer.value source ∧
      (∃ f ∈ db.snapshots, f.finality = .fullyResolved ∧ SameFacts latest f ∧
        (db.getLatestSnapshotForFinality .fullyResolved = some source →
          f.revision ≤ source.revision)) ∧
      ((∀ f ∈ db.snapshots, f.finality = .fullyResolved →
          f.projectionWatermark ≤ source.projectionWatermark) →
        latest.projectionWatermark ≤ answer.value.projectionWatermark) := by
  have hinv := chainInv_of_run hnew hrun
  cases reevaluate_commits h with
  | cached => exact absurd rfl hwrites
  | existing => exact absurd rfl hwrites
  | appended hwrite =>
    rename_i source latest
    obtain ⟨id, commandId, now, hcontent⟩ := hwrite.content
    have hfacts : SameFacts answer.value source :=
      ⟨by rw [hcontent]; rfl, by rw [hcontent]; rfl, by rw [hcontent]; rfl⟩
    have hsource := (getSnapshotById_mem hwrite.found).1
    obtain ⟨f, hf, hffull, hlatest⟩ :=
      hinv.latest_facts hwrite.newestBefore ⟨source, hsource, hwrite.finality⟩
    refine ⟨source, latest, hwrite.found, hwrite.finality, hwrite.newestBefore, hwrite.inserted.snapshots,
      hwrite.follows.1, by rw [hcontent]; rfl, hfacts, ⟨f, hf, hffull, hlatest, ?_⟩, ?_⟩
    · intro hnewest
      exact Rows.newest_ge hnewest f (by simp [hf, hffull])
    · intro hmax
      rw [hlatest.watermark, hfacts.watermark]
      exact hmax f hf hffull

theorem LateCleanup.reevaluateOf_commits {sourceId : Uuid}
    (h : (after (reevaluateOf sourceId) resolvedAgain).snapshots ≠ resolvedAgain.snapshots) :
    ∃ answer, Commits (reevaluateOf sourceId) resolvedAgain answer
      (after (reevaluateOf sourceId) resolvedAgain) := by
  rcases after_eq (reevaluateOf sourceId) resolvedAgain with hsame | hcommits
  · rw [hsame] at h
    exact absurd rfl h
  · exact hcommits

theorem late_cleanup_reevaluation :
    ∃ (source latest : TaskResultSnapshot) (answer : CommandResult),
      LateCleanup.resolvedAgain.getSnapshotById 102 = some source ∧
      LateCleanup.resolvedAgain.getLatestSnapshot = some latest ∧
      answer.value.supersedesSnapshotId = some latest.id ∧ SameFacts answer.value source := by
  have hwrites : (after (LateCleanup.reevaluateOf 102) LateCleanup.resolvedAgain).snapshots ≠
      LateCleanup.resolvedAgain.snapshots := by decide
  obtain ⟨answer, hanswer⟩ := LateCleanup.reevaluateOf_commits hwrites
  obtain ⟨source, latest, hsource, -, hlatest, -, -, hover, hfacts, -⟩ :=
    reevaluation_puts_source_on_top rfl LateCleanup.history hanswer hwrites
  exact ⟨source, latest, answer, hsource, hlatest, hover, hfacts⟩

/-- Naming the older of two FULLY_RESOLVED snapshots puts its older facts on top. -/
theorem reevaluation_of_older_source_goes_back :
    ∃ (db db' : Db) (answer : CommandResult) (latest s : TaskResultSnapshot),
      ReflTransGen (SnapshotStep LateCleanup.hashes) LateCleanup.start db ∧
      Commits (LateCleanup.reevaluateOf 101) db answer db' ∧
      db.getLatestSnapshot = some latest ∧ latest.finality = .fullyResolved ∧
      db'.getLatestSnapshot = some s ∧ s.finality = .reevaluated ∧
      s.supersedesSnapshotId = some latest.id ∧
      s.projectionWatermark < latest.projectionWatermark ∧
      s.inputHygieneResolutionSetHash ≠ latest.inputHygieneResolutionSetHash := by
  have hwrites : (after (LateCleanup.reevaluateOf 101) LateCleanup.resolvedAgain).snapshots ≠
      LateCleanup.resolvedAgain.snapshots := by decide
  obtain ⟨answer, hanswer⟩ := LateCleanup.reevaluateOf_commits hwrites
  refine ⟨_, _, answer, LateCleanup.resolvedAgain.getLatestSnapshot.get (by decide),
    (after (LateCleanup.reevaluateOf 101) LateCleanup.resolvedAgain).getLatestSnapshot.get
      (by decide), LateCleanup.history, hanswer, ?_⟩
  refine ⟨by simp, ?_, by simp, ?_⟩ <;> decide

end Atlas.Proofs
