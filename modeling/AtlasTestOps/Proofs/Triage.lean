import AtlasTestOps.Proofs.SnapshotChain
import AtlasTestOps.Service.Classification

/-! The triage of a snapshot is a partition of its diagnostic Units by their signals,
exactly when no signal is shown by more Units than one cluster may hold. -/

namespace Atlas.Proofs

open Atlas Atlas.Task Atlas.Result Atlas.Store Atlas.Service Txn Grouping

variable {C : ClassificationHashes} {db db' : Db} {s : TaskResultSnapshot}
  {rs : List UnitResolutionRevision} {hs : List UnitHygieneResolutionRevision}
  {actor : ActorContext} {now : Instant}

/-! What a call starts from. -/

/-- The actor may triage the snapshot, and its Run is closed and sealed. -/
structure Operable (db : Db) (actor : ActorContext) (s : TaskResultSnapshot) : Prop where
  stored : db.getSnapshotById s.id = some s
  run : db.run.toRunScope = s.toRunScope
  closed : db.run.lifecycle = .closed
  sealed : db.run.materializationState = .sealed
  tenant : s.tenantId = actor.tenantId
  reads : actor.canReadProject s.projectId = true
  operates : actor.canOperateProject s.projectId = true ∨ actor.canReviewResults s.projectId = true

/-- The rows that the snapshot was built from are stored and lie in its scope. -/
structure MatchesSnapshot (db : Db) (s : TaskResultSnapshot) (rs : List UnitResolutionRevision)
    (hs : List UnitHygieneResolutionRevision) : Prop where
  resolutions : db.listResolutionsByIds s.unitResolutionRevisionIds = rs
  ids : (rs.map fun r => r.id) = s.unitResolutionRevisionIds
  hygiene : db.listHygieneResolutionsByIds s.hygieneIds = hs
  hygieneIds : (hs.map fun h => h.id) = s.hygieneIds
  scope : ∀ r ∈ rs, r.toRunScope = s.toRunScope
  hygieneScope : ∀ h ∈ hs, h.toRunScope = s.toRunScope

/-- The Units of the snapshot as triage sees them, in Manifest order. -/
def unitInputs (rs : List UnitResolutionRevision) (hs : List UnitHygieneResolutionRevision) :
    List ClusterInput :=
  rs.map fun r => ⟨r, hygieneByUnit hs r.executionUnitId⟩

/-- Ids are drawn in order, so none in a triage table is still to come. -/
structure FreshIds (db : Db) : Prop where
  clusters : ∀ c ∈ db.clusters, c.id < db.nextId ∧ c.failureClusterId < db.nextId
  classifications : ∀ k ∈ db.classifications, k.id < db.nextId ∧
    k.failureClassificationId < db.nextId ∧ k.failureClusterRevisionId < db.nextId

/-! Loading. -/

theorem lengths_of_valid (s : TaskResultSnapshot) :
    s.unitResolutionRevisionIds.length = s.manifestCount ∧ s.unitResolutionRevisionIds.Nodup ∧
      (s.finality ≠ .qualityFinal → s.hygieneIds.length = s.manifestCount) ∧
      s.projectionWatermark ≤ s.createdAt ∧ s.shapeMatches = true := by
  have hv := s.valid
  simp only [TaskResultSnapshotContent.violation, firstViolation_cons,
    decide_eq_false_iff_not, not_not, Bool.not_eq_false', not_and, not_lt] at hv
  obtain ⟨-, -, -, -, hlength, hnodup, -, -, -, -, -, hshape, hhygiene, -, -, -, -, hclock, -⟩ := hv
  exact ⟨hlength, hnodup, hhygiene, hclock, hshape⟩

/-- Only a QUALITY_FINAL snapshot has no hygiene rows. -/
theorem hygieneIds_none_iff (s : TaskResultSnapshot) :
    s.unitHygieneResolutionRevisionIds = none ↔ s.finality = .qualityFinal := by
  have hshape := (lengths_of_valid s).2.2.2.2
  simp only [TaskResultSnapshotContent.shapeMatches, Bool.and_eq_true] at hshape
  cases hfin : s.finality <;> simp_all

theorem hygieneByUnit_mem {id : Uuid} {h : UnitHygieneResolutionRevision}
    (hh : hygieneByUnit hs id = some h) : h ∈ hs :=
  List.mem_reverse.1 (List.mem_of_find?_eq_some hh)

theorem commits_clusterInputs {inputs : List ClusterInput}
    (hscope : ∀ r ∈ rs, r.toRunScope = s.toRunScope)
    (hhygiene : ∀ h ∈ hs, h.toRunScope = s.toRunScope) :
    Commits (clusterInputs s hs rs) db inputs db' ↔ inputs = unitInputs rs hs ∧ db' = db := by
  induction rs generalizing inputs db db' with
  | nil => simp [clusterInputs, unitInputs]
  | cons r rs ih =>
    have hr : r.toRunScope = s.toRunScope := hscope r (by simp)
    have hrow : ¬ ∃ h ∈ hygieneByUnit hs r.executionUnitId, h.toRunScope ≠ s.toRunScope :=
      fun ⟨h, hh, hne⟩ => hne (hhygiene h (hygieneByUnit_mem hh))
    have hrest : ∀ r ∈ rs, r.toRunScope = s.toRunScope := fun r hr => hscope r (by simp [hr])
    simp only [clusterInputs, commits_bind, commits_raiseIf, commits_pure, hr, ne_eq, not_true,
      not_false_iff, true_and, hrow]
    constructor
    · rintro ⟨_, _, rfl, _, _, rfl, _, _, h, rfl, rfl⟩
      obtain ⟨rfl, rfl⟩ := (ih hrest).1 h
      exact ⟨rfl, rfl⟩
    · rintro ⟨rfl, rfl⟩
      exact ⟨(), _, rfl, (), _, rfl, _, _, (ih hrest).2 ⟨rfl, rfl⟩, rfl, rfl⟩

theorem commits_loadSnapshotInputs {inputs : List ClusterInput} (hm : MatchesSnapshot db s rs hs) :
    Commits (loadSnapshotInputs s) db inputs db' ↔ inputs = unitInputs rs hs ∧ db' = db := by
  obtain ⟨hcount, -, hhygieneCount, -, -⟩ := lengths_of_valid s
  have hlength : rs.length = s.manifestCount := by
    rw [← hcount, ← hm.ids, List.length_map]
  have hload {rows : List UnitHygieneResolutionRevision} {m : Db} :
      Commits (loadHygiene s) db rows m ↔ rows = hs ∧ m = db := by
    have hids := hm.hygieneIds
    have hrows := hm.hygiene
    simp only [TaskResultSnapshotContent.hygieneIds] at hids hrows
    cases hnone : s.unitHygieneResolutionRevisionIds with
    | none =>
      rw [hnone, Option.getD_none, List.map_eq_nil_iff] at hids
      simp [loadHygiene, hnone, hids]
    | some ids =>
      have hfin : s.finality ≠ .qualityFinal := fun hq => by
        rw [(hygieneIds_none_iff s).2 hq] at hnone
        simp at hnone
      have hhs := hhygieneCount hfin
      simp only [TaskResultSnapshotContent.hygieneIds] at hhs
      rw [hnone, Option.getD_some] at hids hrows hhs
      rw [← hids, List.length_map] at hhs
      simp only [loadHygiene, hnone, commits_bind, commits_read, commits_raiseIf, commits_pure]
      constructor
      · rintro ⟨_, _, ⟨rfl, rfl⟩, _, _, ⟨-, rfl⟩, rfl, rfl⟩
        exact ⟨hrows, rfl⟩
      · rintro ⟨rfl, rfl⟩
        exact ⟨_, _, ⟨rfl, rfl⟩, (), _, ⟨by simp [hrows, hhs, hids], rfl⟩, hrows.symm, rfl⟩
  simp only [loadSnapshotInputs, commits_bind, commits_read, commits_raiseIf]
  constructor
  · rintro ⟨_, _, ⟨rfl, rfl⟩, _, _, ⟨-, rfl⟩, _, _, hrows, h⟩
    obtain ⟨rfl, rfl⟩ := hload.1 hrows
    rw [hm.resolutions] at h
    exact (commits_clusterInputs hm.scope hm.hygieneScope).1 h
  · rintro ⟨rfl, rfl⟩
    refine ⟨_, _, ⟨rfl, rfl⟩, (), _, ⟨by simp [hm.resolutions, hlength, hm.ids], rfl⟩, _, _,
      hload.2 ⟨rfl, rfl⟩, ?_⟩
    rw [hm.resolutions]
    exact (commits_clusterInputs hm.scope hm.hygieneScope).2 ⟨rfl, rfl⟩

theorem commits_requireOperableRun (hop : Operable db actor s) {u : Unit} :
    Commits (requireOperableRun actor (visibleRun db actor s.taskRunId) s) db u db' ↔ db' = db := by
  have hscope := hop.run
  have htenant : db.run.tenantId = s.tenantId := congrArg RunScope.tenantId hscope
  have hproject : db.run.projectId = s.projectId := congrArg RunScope.projectId hscope
  have hid : db.run.id = s.taskRunId := congrArg RunScope.taskRunId hscope
  have hhash : db.run.manifestHash = s.manifestHash := congrArg RunScope.manifestHash hscope
  have hvisible : visibleRun db actor s.taskRunId = some db.run := by
    simp [visibleRun, Db.getRun, hid, htenant, hop.tenant]
  simp only [requireOperableRun, hvisible, commits_bind, commits_demand, commits_raiseIf]
  constructor
  · rintro ⟨_, _, ⟨-, rfl⟩, _, _, ⟨-, rfl⟩, _, _, ⟨-, rfl⟩, -, rfl⟩
    rfl
  · rintro rfl
    refine ⟨_, _, ⟨rfl, rfl⟩, (), _, ⟨?_, rfl⟩, (), _, ⟨?_, rfl⟩, ?_, rfl⟩
    · simp [hid, htenant, hproject, hop.reads]
    · exact not_not.2 hop.operates
    · simp [hop.closed, hop.sealed, hhash]

/-- Under its preconditions the call is the loop over the signal groups of its Units. -/
theorem commits_classifySnapshot (hop : Operable db actor s) (hm : MatchesSnapshot db s rs hs)
    {batch : FailureClassificationBatch} :
    Commits (classifySnapshot C actor s.id now) db batch db' ↔
      ∃ out, Commits (classifyGroups C s now (signalGroups C (unitInputs rs hs))) db out db' ∧
        batch = ⟨s.id, out.map fun pair => pair.1, out.map fun pair => pair.2⟩ := by
  have hvisible : visibleSnapshot db actor s.id = some s := by
    simp [visibleSnapshot, hop.stored, hop.tenant]
  simp only [classifySnapshot, commits_bind, commits_read, commits_demand, commits_pure]
  constructor
  · rintro ⟨_, _, ⟨rfl, rfl⟩, snapshot, _, ⟨hsnapshot, rfl⟩, _, _, ⟨rfl, rfl⟩, _, _, hrun, inputs, _,
      hinputs, out, _, hout, rfl, rfl⟩
    obtain rfl : snapshot = s := by
      rw [hvisible] at hsnapshot
      exact (Option.some.inj hsnapshot).symm
    obtain rfl := (commits_requireOperableRun hop).1 hrun
    obtain ⟨rfl, rfl⟩ := (commits_loadSnapshotInputs hm).1 hinputs
    exact ⟨out, hout, rfl⟩
  · rintro ⟨out, hout, rfl⟩
    exact ⟨_, _, ⟨rfl, rfl⟩, s, _, ⟨hvisible, rfl⟩, _, _, ⟨rfl, rfl⟩, (), _,
      (commits_requireOperableRun hop).2 rfl, _, _, (commits_loadSnapshotInputs hm).2 ⟨rfl, rfl⟩,
      out, _, hout, rfl, rfl⟩

/-! One group. -/

/-- The cluster of a group: its Units in order, the first one representing them. -/
structure ClusterOf (s : TaskResultSnapshot) (g : SignalGroup) (c : FailureClusterRevision) :
    Prop where
  snapshot : c.resultSnapshotId = s.id
  fingerprint : c.fingerprint = g.key
  policy : c.fingerprintPolicyDigest = failureClusterPolicyDigest
  signal : c.signal = g.tag
  affected : c.affectedUnitResolutionRevisionIds = g.members.map fun x => x.resolution.id
  representative : c.affectedUnitResolutionRevisionIds.head? =
    some c.representativeUnitResolutionRevisionId

/-- The group is one that the Units of a snapshot can form. -/
structure GroupFormed (g : SignalGroup) : Prop where
  nodup : (g.members.map fun x => x.resolution.id).Nodup
  shown : ∃ x ∈ g.members, x.signal = g.tag

theorem safeReason_closure (r : UnitResolutionRevision) : safeReason r.closureReason = true := by
  have hv := r.valid
  simp only [UnitResolutionRevisionContent.violation, firstViolation_cons] at hv
  simpa using hv.2.2.2.1

theorem signalCode_safe (r : UnitResolutionRevision) (h : Option UnitHygieneResolutionRevision) :
    safeReason (failureSignalFor r h).signalCode = true :=
  signalRule_induction (P := fun rule => safeReason rule.2 = true) (by decide) r
    (effectiveHygiene r h)

theorem clusterContent_valid {g : SignalGroup} {x : ClusterInput} {id clusterId : Uuid}
    (hg : GroupFormed g) (hfirst : g.members.head? = some x)
    (hfits : g.members.length ≤ clusterLimit) (hclock : s.projectionWatermark ≤ now) :
    (clusterContent s g x.resolution.id id clusterId now).violation = none := by
  obtain ⟨y, -, hy⟩ := hg.shown
  have hmem : x ∈ g.members := List.mem_of_head? hfirst
  have hpos : 1 ≤ g.members.length := List.length_pos_of_mem hmem
  have hcode : safeReason g.tag.signalCode = true := hy ▸ signalCode_safe _ _
  have hreason : safeReason g.tag.closureReason = true := hy ▸ safeReason_closure y.resolution
  have hrep : x.resolution.id ∈ g.members.map fun x => x.resolution.id :=
    List.mem_map_of_mem hmem
  simp only [FailureClusterRevisionContent.violation, firstViolation_cons, firstViolation_nil,
    decide_eq_false_iff_not]
  simp only [clusterContent, hcode, hreason, List.length_map]
  exact ⟨by omega, rfl, rfl, by omega, by omega, not_not.2 hg.nodup, by simp, not_not.2 hrep,
    by simp, by simp, by simp, Nat.not_lt.2 hclock, trivial⟩

theorem createCluster_commits {g : SignalGroup} {c : FailureClusterRevision}
    (h : Commits (createCluster C s g now) db c db') :
    ClusterOf s g c ∧ g.members.length ≤ clusterLimit ∧ c.id = db.nextId ∧
      c.failureClusterId = db.nextId + 1 ∧
      db' = { db with clusters := db.clusters ++ [c], nextId := db.nextId + 2 } := by
  simp only [createCluster, commits_bind, commits_newEntityId, commits_demand, commits_validated,
    commits_insertFailureCluster, commits_pure] at h
  obtain ⟨_, _, ⟨rfl, rfl⟩, _, _, ⟨rfl, rfl⟩, first, _, ⟨hfirst, rfl⟩, hvalid, _, rfl, _, _,
    ⟨-, -, -, rfl⟩, rfl, rfl⟩ := h
  refine ⟨⟨rfl, rfl, rfl, rfl, rfl, by simp [clusterContent, hfirst]⟩, ?_, rfl, rfl, rfl⟩
  have hv := hvalid.down
  simp only [FailureClusterRevisionContent.violation, firstViolation_cons,
    decide_eq_false_iff_not] at hv
  obtain ⟨-, -, -, hlength, -⟩ := hv
  simp only [clusterContent, List.length_map] at hlength
  omega

theorem exists_createCluster {g : SignalGroup} (hfresh : FreshIds db) (hg : GroupFormed g)
    (hfits : g.members.length ≤ clusterLimit) (hclock : s.projectionWatermark ≤ now)
    (habsent : ∀ c ∈ db.clusters, c.resultSnapshotId = s.id → c.fingerprint ≠ g.key) :
    ∃ c db', Commits (createCluster C s g now) db c db' := by
  obtain ⟨x, hx, -⟩ := hg.shown
  obtain ⟨first, hfirst⟩ : ∃ first, g.members.head? = some first :=
    Option.isSome_iff_exists.1 (List.isSome_head?.2 (List.ne_nil_of_mem hx))
  have hvalid (id clusterId : Uuid) :
      (clusterContent s g first.resolution.id id clusterId now).violation = none :=
    clusterContent_valid hg hfirst hfits hclock
  simp only [createCluster, commits_bind, commits_newEntityId, commits_demand, commits_validated,
    commits_insertFailureCluster, commits_pure]
  refine ⟨_, _, _, _, ⟨rfl, rfl⟩, _, _, ⟨rfl, rfl⟩, first, _, ⟨hfirst, rfl⟩,
    ⟨hvalid _ _⟩, _, rfl, (), _, ⟨?_, ?_, ?_, rfl⟩, rfl, rfl⟩
  · rintro ⟨c, hc, hid⟩
    exact absurd hid (Nat.ne_of_lt (hfresh.clusters c hc).1)
  · rintro ⟨c, hc, hid, -⟩
    exact absurd hid (Nat.ne_of_lt ((hfresh.clusters c hc).2.trans (Nat.lt_succ_self _)))
  · rintro ⟨-, c, hc, -, hsnapshot, hfingerprint, -⟩
    exact habsent c hc hsnapshot hfingerprint

/-! The judgment over one cluster. -/

theorem ruleClassification_valid (r : UnitResolutionRevision)
    (h : Option UnitHygieneResolutionRevision) :
    ∃ rule, ruleClassificationForSignal (failureSignalFor r h) = some rule ∧
      safeReason rule.1 = true ∧ safeHypothesis rule.2.1 = true ∧ rule.2.2.1 ≤ 10000 ∧
      rule.2.2.2.length ≤ 32 ∧ canonicalGapCodes rule.2.2.2 = true := by
  obtain ⟨entry, hentry⟩ :=
    Option.isSome_iff_exists.1 (ruleClassification_isSome r (effectiveHygiene r h))
  obtain ⟨-, hhypothesis, hconfidence, hlength, hgaps⟩ :=
    hypotheses_valid entry (List.mem_of_find?_eq_some hentry)
  have hrule : ruleClassificationForSignal (failureSignalFor r h) =
      some ((failureSignalFor r h).signalCode, entry.2.1, entry.2.2.1,
        entry.2.2.2.insertionSort (· ≤ ·)) := by
    rw [ruleClassificationForSignal,
      show hypotheses.find? (fun e => e.1 = (failureSignalFor r h).signalCode) = some entry from
        hentry, Option.map_some]
  refine ⟨_, hrule, signalCode_safe r h, hhypothesis, hconfidence, ?_, hgaps⟩
  rwa [List.length_insertionSort]

theorem supportingEvidence_canonical (signal : FailureSignal) (x : ClusterInput) :
    canonicalEvidence (supportingEvidence signal x) = true ∧
      1 ≤ (supportingEvidence signal x).length ∧ (supportingEvidence signal x).length ≤ 256 := by
  cases hh : x.hygiene with
  | none => simp [supportingEvidence, hh, canonicalEvidence]
  | some h =>
    by_cases hdomain : signal.failureDomain = FailureDomain.cleanup
    · simp [supportingEvidence, hh, hdomain, canonicalEvidence, FailureEvidenceRef.precedes,
        FailureEvidenceKind.rank, List.insertionSort, List.orderedInsert]
    · simp [supportingEvidence, hh, hdomain, canonicalEvidence]

theorem createRuleClassification_commits {c : FailureClusterRevision}
    {affected : List ClusterInput} {k : FailureClassificationRevision}
    (h : Commits (createRuleClassification C s c affected now) db k db') :
    k.failureClusterRevisionId = c.id ∧ k.id = db.nextId + 1 ∧
      k.failureClassificationId = db.nextId ∧
      db' = { db with classifications := db.classifications ++ [k], nextId := db.nextId + 2 } := by
  simp only [createRuleClassification, commits_bind, commits_newEntityId, commits_demand,
    commits_validated, commits_insertFailureClassification, commits_pure] at h
  obtain ⟨rule, _, ⟨-, rfl⟩, representative, _, ⟨-, rfl⟩, _, _, ⟨rfl, rfl⟩, _, _, ⟨rfl, rfl⟩,
    hvalid, _, rfl, _, _, ⟨-, -, -, rfl⟩, rfl, rfl⟩ := h
  exact ⟨rfl, rfl, rfl, rfl⟩

theorem exists_createRuleClassification {g : SignalGroup} {c : FailureClusterRevision}
    (hfresh : FreshIds db) (hg : GroupFormed g) (hc : ClusterOf s g c)
    (habsent : ∀ k ∈ db.classifications, k.failureClusterRevisionId ≠ c.id) :
    ∃ k db', Commits (createRuleClassification C s c g.members now) db k db' := by
  obtain ⟨x, -, hsignal⟩ := hg.shown
  obtain ⟨rule, hrule, hcode, hhypothesis, hconfidence, hgaps, hcanonical⟩ :=
    ruleClassification_valid x.resolution x.hygiene
  have hrule : ruleClassificationForSignal c.signal = some rule := by
    rw [hc.signal, ← hsignal]
    exact hrule
  have hrep : c.representativeUnitResolutionRevisionId ∈
      g.members.map fun x => x.resolution.id := by
    rw [← hc.affected]
    exact List.mem_of_head? hc.representative
  obtain ⟨representative, hrepresentative⟩ : ∃ y, g.members.find?
      (fun x => x.resolution.id = c.representativeUnitResolutionRevisionId) = some y := by
    obtain ⟨y, hy, hid⟩ := List.mem_map.1 hrep
    exact Option.isSome_iff_exists.1 (List.find?_isSome.2 ⟨y, hy, by simpa using hid⟩)
  obtain ⟨hevidence, hleast, hmost⟩ := supportingEvidence_canonical c.signal representative
  have hvalid (id classificationId : Uuid) : (classificationContent s c rule
      (supportingEvidence c.signal representative) id classificationId now).violation = none := by
    simp only [FailureClassificationRevisionContent.violation, firstViolation_cons,
      firstViolation_nil, decide_eq_false_iff_not]
    have hnone : canonicalEvidence [] = true := rfl
    have hsome : supportingEvidence c.signal representative ≠ [] :=
      List.ne_nil_of_length_pos hleast
    simp [classificationContent, hcode, hhypothesis, hevidence, hnone, hcanonical, hconfidence,
      hgaps, hmost, hsome, ClientMutationId.wellFormed,
      FailureClassificationRevisionContent.authorityMatches]
  simp only [createRuleClassification, commits_bind, commits_newEntityId, commits_demand,
    commits_validated, commits_insertFailureClassification, commits_pure]
  refine ⟨_, _, rule, _, ⟨hrule, rfl⟩, representative, _, ⟨hrepresentative, rfl⟩, _, _,
    ⟨rfl, rfl⟩, _, _, ⟨rfl, rfl⟩, ⟨hvalid _ _⟩, _, rfl, (), _, ⟨?_, ?_, ?_, rfl⟩, rfl, rfl⟩
  · rintro ⟨k, hk, hid⟩
    exact absurd hid (Nat.ne_of_lt ((hfresh.classifications k hk).1.trans (Nat.lt_succ_self _)))
  · rintro ⟨k, hk, hid, -⟩
    exact absurd hid (Nat.ne_of_lt (hfresh.classifications k hk).2.1)
  · rintro ⟨-, k, hk, -, hid⟩
    exact habsent k hk hid

/-! The loop over the groups of a snapshot without clusters. -/

/-- None of the groups has a cluster yet. -/
def Untriaged (s : TaskResultSnapshot) (groups : List SignalGroup) (db : Db) : Prop :=
  ∀ c ∈ db.clusters, c.resultSnapshotId = s.id → ∀ g ∈ groups, c.fingerprint ≠ g.key

theorem FreshIds.cluster (h : FreshIds db) {c : FailureClusterRevision} (hid : c.id = db.nextId)
    (hchain : c.failureClusterId = db.nextId + 1) :
    FreshIds { db with clusters := db.clusters ++ [c], nextId := db.nextId + 2 } where
  clusters := by
    intro c' hc'
    rcases List.mem_append.1 hc' with hc' | hc'
    · exact ⟨(h.clusters c' hc').1.trans_le (Nat.le_add_right _ _),
        (h.clusters c' hc').2.trans_le (Nat.le_add_right _ _)⟩
    · rw [List.mem_singleton.1 hc', hid, hchain]
      exact ⟨Nat.lt_add_of_pos_right (by decide), Nat.add_lt_add_left (by decide) _⟩
  classifications := by
    intro k hk
    obtain ⟨hkid, hkchain, hkcluster⟩ := h.classifications k hk
    exact ⟨hkid.trans_le (Nat.le_add_right _ _), hkchain.trans_le (Nat.le_add_right _ _),
      hkcluster.trans_le (Nat.le_add_right _ _)⟩

theorem FreshIds.classification (h : FreshIds db) {k : FailureClassificationRevision}
    (hid : k.id = db.nextId + 1) (hchain : k.failureClassificationId = db.nextId)
    (hcluster : k.failureClusterRevisionId < db.nextId) :
    FreshIds { db with classifications := db.classifications ++ [k], nextId := db.nextId + 2 } where
  clusters := by
    intro c hc
    exact ⟨(h.clusters c hc).1.trans_le (Nat.le_add_right _ _),
      (h.clusters c hc).2.trans_le (Nat.le_add_right _ _)⟩
  classifications := by
    intro k' hk'
    rcases List.mem_append.1 hk' with hk' | hk'
    · obtain ⟨hkid, hkchain, hkcluster⟩ := h.classifications k' hk'
      exact ⟨hkid.trans_le (Nat.le_add_right _ _), hkchain.trans_le (Nat.le_add_right _ _),
        hkcluster.trans_le (Nat.le_add_right _ _)⟩
    · rw [List.mem_singleton.1 hk', hid, hchain]
      exact ⟨Nat.add_lt_add_left (by decide) _, Nat.lt_add_of_pos_right (by decide),
        hcluster.trans_le (Nat.le_add_right _ _)⟩

theorem commits_cluster_new {groups : List SignalGroup} {g : SignalGroup}
    {c : FailureClusterRevision} (h : Untriaged s groups db) (hg : g ∈ groups) :
    Commits (getOrCreateCluster C s g now) db c db' ↔ Commits (createCluster C s g now) db c db' := by
  have hnone : db.getFailureCluster s.id g.key failureClusterPolicyDigest = none := by
    refine Rows.newest_eq_none.2 (List.filter_eq_nil_iff.2 fun c hc hmatch => ?_)
    simp only [decide_eq_true_eq] at hmatch
    exact h c hc hmatch.1 g hg hmatch.2.1
  rw [getOrCreateCluster, commits_read_bind, hnone]

theorem commits_judgment_new {c : FailureClusterRevision} {affected : List ClusterInput}
    {k : FailureClassificationRevision}
    (h : ∀ k ∈ db.classifications, k.failureClusterRevisionId ≠ c.id) :
    Commits (getOrCreateRuleClassification C s c affected now) db k db' ↔
      Commits (createRuleClassification C s c affected now) db k db' := by
  have hnone : db.getLatestClassificationForCluster c.id = none :=
    Rows.newest_eq_none.2 (List.filter_eq_nil_iff.2 fun k hk hmatch =>
      h k hk (by simpa using hmatch))
  rw [getOrCreateRuleClassification, commits_read_bind, hnone]

/-- The state once a new cluster and its judgment are appended. -/
structure GroupTriaged (s : TaskResultSnapshot) (g : SignalGroup) (db : Db)
    (c : FailureClusterRevision) (k : FailureClassificationRevision) (db' : Db) : Prop where
  cluster : ClusterOf s g c
  judged : k.failureClusterRevisionId = c.id
  fits : g.members.length ≤ clusterLimit
  fresh : c.id = db.nextId
  state : db' =
    { db with
      clusters := db.clusters ++ [c]
      classifications := db.classifications ++ [k]
      nextId := db.nextId + 4 }
  ids : FreshIds db'

section Group

variable {groups : List SignalGroup} {g : SignalGroup} {c : FailureClusterRevision}

theorem judgments_not_of (hfresh : FreshIds db) (hid : c.id = db.nextId) :
    ∀ k ∈ db.classifications, k.failureClusterRevisionId ≠ c.id := by
  intro k hk
  rw [hid]
  exact Nat.ne_of_lt (hfresh.classifications k hk).2.2

theorem group_commits {k : FailureClassificationRevision} {m : Db} (hfresh : FreshIds db)
    (hnew : Untriaged s (g :: groups) db) (hc : Commits (getOrCreateCluster C s g now) db c m)
    (hk : Commits (getOrCreateRuleClassification C s c g.members now) m k db') :
    GroupTriaged s g db c k db' := by
  obtain ⟨hcluster, hfits, hid, hchain, rfl⟩ :=
    createCluster_commits ((commits_cluster_new hnew List.mem_cons_self).1 hc)
  have hnone := judgments_not_of hfresh hid
  rw [commits_judgment_new (by exact hnone)] at hk
  obtain ⟨hjudged, hkid, hkchain, rfl⟩ := createRuleClassification_commits hk
  refine ⟨hcluster, hjudged, hfits, hid, rfl, ?_⟩
  refine (hfresh.cluster hid hchain).classification hkid hkchain ?_
  rw [hjudged, hid]
  exact Nat.lt_add_of_pos_right (by decide)

theorem exists_group (hfresh : FreshIds db) (hnew : Untriaged s (g :: groups) db)
    (hg : GroupFormed g) (hfits : g.members.length ≤ clusterLimit)
    (hclock : s.projectionWatermark ≤ now) :
    ∃ c m k db', Commits (getOrCreateCluster C s g now) db c m ∧
      Commits (getOrCreateRuleClassification C s c g.members now) m k db' := by
  obtain ⟨c, m, hc⟩ := exists_createCluster (C := C) hfresh hg hfits hclock
    fun c hc hsnapshot => hnew c hc hsnapshot g List.mem_cons_self
  have hc' := (commits_cluster_new hnew List.mem_cons_self).2 hc
  obtain ⟨hcluster, -, hid, hchain, rfl⟩ := createCluster_commits hc
  have hnone := judgments_not_of hfresh hid
  obtain ⟨k, db', hk⟩ : ∃ k db', Commits (createRuleClassification C s c g.members now)
      { db with clusters := db.clusters ++ [c], nextId := db.nextId + 2 } k db' :=
    exists_createRuleClassification (hfresh.cluster hid hchain) hg hcluster hnone
  refine ⟨c, _, k, db', hc', ?_⟩
  rw [commits_judgment_new (by exact hnone)]
  exact hk

end Group

/-! All groups. -/

/-- Every group has got its cluster and a judgment, and nothing else has changed. -/
structure GroupsTriaged (s : TaskResultSnapshot) (groups : List SignalGroup) (db : Db)
    (out : List (FailureClusterRevision × FailureClassificationRevision)) (db' : Db) : Prop where
  clusters : List.Forall₂ (fun g pair => ClusterOf s g pair.1) groups out
  judged : ∀ pair ∈ out, pair.2.failureClusterRevisionId = pair.1.id
  fits : ∀ g ∈ groups, g.members.length ≤ clusterLimit
  state : ∃ nextId, db' =
    { db with
      clusters := db.clusters ++ out.map fun pair => pair.1
      classifications := db.classifications ++ out.map fun pair => pair.2
      nextId := nextId }

section Groups

variable {groups : List SignalGroup} {g : SignalGroup}
  {out : List (FailureClusterRevision × FailureClassificationRevision)}

theorem GroupTriaged.untriaged {c : FailureClusterRevision} {k : FailureClassificationRevision}
    (h : GroupTriaged s g db c k db') (hnew : Untriaged s (g :: groups) db)
    (hkeys : g.key ∉ groups.map Group.key) : Untriaged s groups db' := by
  rw [h.state]
  intro c' hc' hsnapshot g' hg'
  rcases List.mem_append.1 hc' with hc' | hc'
  · exact hnew c' hc' hsnapshot g' (List.mem_cons_of_mem _ hg')
  · rw [List.mem_singleton.1 hc', h.cluster.fingerprint]
    intro heq
    exact hkeys (heq ▸ List.mem_map_of_mem hg')

theorem classifyGroups_commits (hfresh : FreshIds db) (hnew : Untriaged s groups db)
    (hkeys : (groups.map Group.key).Nodup)
    (h : Commits (classifyGroups C s now groups) db out db') :
    GroupsTriaged s groups db out db' := by
  induction groups generalizing db out with
  | nil =>
    simp only [classifyGroups, commits_pure] at h
    obtain ⟨rfl, rfl⟩ := h
    exact ⟨.nil, by simp, by simp, db'.nextId, by simp⟩
  | cons g groups ih =>
    rw [List.map_cons, List.nodup_cons] at hkeys
    simp only [classifyGroups, commits_bind, commits_pure] at h
    obtain ⟨c, _, hc, k, m, hk, rest, _, hrest, rfl, rfl⟩ := h
    have hgroup := group_commits hfresh hnew hc hk
    have htail := ih hgroup.ids (hgroup.untriaged hnew hkeys.1) hkeys.2 hrest
    obtain ⟨nextId, hstate⟩ := htail.state
    refine ⟨.cons hgroup.cluster htail.clusters, ?_, ?_, nextId, ?_⟩
    · rintro pair (_ | ⟨_, hpair⟩)
      · exact hgroup.judged
      · exact htail.judged pair hpair
    · rintro g' (_ | ⟨_, hg'⟩)
      · exact hgroup.fits
      · exact htail.fits g' hg'
    · rw [hstate, hgroup.state]
      simp

/-- Each cluster starts a chain of its own. -/
theorem classifyGroups_chains (hfresh : FreshIds db) (hnew : Untriaged s groups db)
    (hkeys : (groups.map Group.key).Nodup) (h : Commits (classifyGroups C s now groups) db out db') :
    (∀ pair ∈ out, db.nextId < pair.1.failureClusterId) ∧ (out.map fun pair => pair.1.failureClusterId).Nodup := by
  induction groups generalizing db out with
  | nil =>
    simp only [classifyGroups, commits_pure] at h
    obtain ⟨rfl, rfl⟩ := h
    simp
  | cons g groups ih =>
    rw [List.map_cons, List.nodup_cons] at hkeys
    simp only [classifyGroups, commits_bind, commits_pure] at h
    obtain ⟨c, _, hc, k, m, hk, rest, _, hrest, rfl, rfl⟩ := h
    have hgroup := group_commits hfresh hnew hc hk
    obtain ⟨-, -, -, hchain, -⟩ := createCluster_commits ((commits_cluster_new hnew List.mem_cons_self).1 hc)
    obtain ⟨hlater, hnodup⟩ := ih hgroup.ids (hgroup.untriaged hnew hkeys.1) hkeys.2 hrest
    have hnext : m.nextId = db.nextId + 4 := by rw [hgroup.state]
    rw [hnext] at hlater
    refine ⟨?_, List.nodup_cons.2 ⟨?_, hnodup⟩⟩
    · rintro pair (_ | ⟨_, hpair⟩)
      · rw [hchain]
        exact Nat.lt_succ_self _
      · exact (Nat.lt_add_of_pos_right (by decide)).trans (hlater pair hpair)
    · intro hmem
      obtain ⟨pair, hpair, heq⟩ := List.mem_map.1 hmem
      have hlt := hlater pair hpair
      rw [show pair.1.failureClusterId = db.nextId + 1 from heq.trans hchain] at hlt
      exact absurd (Nat.lt_of_add_lt_add_left hlt) (by decide)

theorem exists_classifyGroups (hfresh : FreshIds db) (hnew : Untriaged s groups db)
    (hkeys : (groups.map Group.key).Nodup) (hformed : ∀ g ∈ groups, GroupFormed g)
    (hfits : ∀ g ∈ groups, g.members.length ≤ clusterLimit)
    (hclock : s.projectionWatermark ≤ now) :
    ∃ out db', Commits (classifyGroups C s now groups) db out db' := by
  induction groups generalizing db with
  | nil => exact ⟨[], db, by simp [classifyGroups]⟩
  | cons g groups ih =>
    rw [List.map_cons, List.nodup_cons] at hkeys
    obtain ⟨c, m, k, m', hc, hk⟩ := exists_group (C := C) hfresh hnew (hformed g List.mem_cons_self)
      (hfits g List.mem_cons_self) hclock
    have hgroup := group_commits hfresh hnew hc hk
    obtain ⟨rest, db', hrest⟩ := ih hgroup.ids (hgroup.untriaged hnew hkeys.1) hkeys.2
      (fun g' hg' => hformed g' (List.mem_cons_of_mem _ hg'))
      fun g' hg' => hfits g' (List.mem_cons_of_mem _ hg')
    refine ⟨(c, k) :: rest, db', ?_⟩
    simp only [classifyGroups, commits_bind, commits_pure]
    exact ⟨c, m, hc, k, m', hk, rest, db', hrest, rfl, rfl⟩

/-- Where every group has its cluster and a judgment, the loop only reads. -/
theorem classifyGroups_replay
    (h : List.Forall₂ (fun g pair =>
      db.getFailureCluster s.id g.key failureClusterPolicyDigest = some pair.1 ∧
        (db.getLatestClassificationForCluster pair.1.id).isSome) groups out) :
    ∃ out', Commits (classifyGroups C s now groups) db out' db ∧
      (out'.map fun pair => pair.1) = out.map fun pair => pair.1 := by
  induction h with
  | nil => exact ⟨[], by simp [classifyGroups], rfl⟩
  | @cons g pair groups out hg _ ih =>
    obtain ⟨hcluster, hjudged⟩ := hg
    obtain ⟨k, hk⟩ := Option.isSome_iff_exists.1 hjudged
    obtain ⟨rest, hrest, hmap⟩ := ih
    refine ⟨(pair.1, k) :: rest, ?_, by simp only [List.map_cons, hmap]⟩
    simp only [classifyGroups, commits_bind, commits_pure]
    refine ⟨_, db, ?_, k, db, ?_, rest, db, hrest, rfl, rfl⟩
    · rw [getOrCreateCluster, commits_read_bind, hcluster]
      exact commits_pure.2 ⟨rfl, rfl⟩
    · rw [getOrCreateRuleClassification, commits_read_bind, hk]
      exact commits_pure.2 ⟨rfl, rfl⟩

end Groups

/-! The partition. -/

/-- The clusters partition the diagnostic Units by their signals, each in Manifest order. -/
structure Partition (inputs : List ClusterInput) (clusters : List FailureClusterRevision) :
    Prop where
  disjoint : clusters.Pairwise fun c d => List.Disjoint c.affectedUnitResolutionRevisionIds
    d.affectedUnitResolutionRevisionIds
  covers : ∀ id, (∃ c ∈ clusters, id ∈ c.affectedUnitResolutionRevisionIds) ↔
    ∃ x ∈ inputs, x.diagnostic = true ∧ x.resolution.id = id
  together : ∀ x ∈ inputs, ∀ y ∈ inputs, x.diagnostic = true → y.diagnostic = true →
    ((∃ c ∈ clusters, x.resolution.id ∈ c.affectedUnitResolutionRevisionIds ∧
      y.resolution.id ∈ c.affectedUnitResolutionRevisionIds) ↔ x.signal = y.signal)
  ordered : ∀ c ∈ clusters,
    c.affectedUnitResolutionRevisionIds.Sublist (inputs.map fun x => x.resolution.id) ∧
      c.affectedUnitResolutionRevisionIds.head? = some c.representativeUnitResolutionRevisionId

/-- No two signals that the diagnostic Units show have one fingerprint. -/
def Separates (C : ClassificationHashes) (inputs : List ClusterInput) : Prop :=
  ∀ x ∈ inputs, ∀ y ∈ inputs, x.diagnostic = true → y.diagnostic = true →
    C.fingerprint x.signal = C.fingerprint y.signal → x.signal = y.signal

section Partition

variable {inputs : List ClusterInput} {clusters : List FailureClusterRevision}

theorem mem_members {g : SignalGroup} (hg : g ∈ signalGroups C inputs) {x : ClusterInput} :
    x ∈ g.members ↔ x ∈ inputs ∧ x.diagnostic = true ∧ C.fingerprint x.signal = g.key := by
  rw [members_eq hg, List.mem_filter, List.mem_filter, decide_eq_true_eq, and_assoc]

theorem members_sublist {g : SignalGroup} (hg : g ∈ signalGroups C inputs) :
    g.members.Sublist inputs := by
  rw [members_eq hg]
  exact List.filter_sublist.trans List.filter_sublist

theorem groupFormed (hnodup : (inputs.map fun x => x.resolution.id).Nodup) {g : SignalGroup}
    (hg : g ∈ signalGroups C inputs) : GroupFormed g := by
  refine ⟨hnodup.sublist ((members_sublist hg).map _), ?_⟩
  obtain ⟨x, hx, hkey, htag⟩ := tag_eq hg
  obtain ⟨hx, hdiagnostic⟩ := List.mem_filter.1 hx
  exact ⟨x, (mem_members hg).2 ⟨hx, hdiagnostic, hkey⟩, htag⟩

theorem fingerprints_eq {groups : List SignalGroup}
    (h : List.Forall₂ (fun g c => ClusterOf s g c) groups clusters) :
    (clusters.map fun c => c.fingerprint) = groups.map Group.key := by
  induction h with
  | nil => rfl
  | cons hc _ ih => simp only [List.map_cons, hc.fingerprint, ih]

/-- A diagnostic Unit is in the cluster with the fingerprint of its signal and in no other. -/
theorem mem_affected (hnodup : (inputs.map fun x => x.resolution.id).Nodup) {g : SignalGroup}
    {c : FailureClusterRevision} (hg : g ∈ signalGroups C inputs) (hc : ClusterOf s g c)
    {x : ClusterInput} (hx : x ∈ inputs) (hdiagnostic : x.diagnostic = true) :
    x.resolution.id ∈ c.affectedUnitResolutionRevisionIds ↔
      C.fingerprint x.signal = c.fingerprint := by
  rw [hc.affected, hc.fingerprint, List.mem_map]
  constructor
  · rintro ⟨y, hy, hid⟩
    obtain ⟨hy, -, hkey⟩ := (mem_members hg).1 hy
    rwa [← List.inj_on_of_nodup_map hnodup hy hx hid]
  · intro hkey
    exact ⟨x, (mem_members hg).2 ⟨hx, hdiagnostic, hkey⟩, rfl⟩

section Clusters

variable (hnodup : (inputs.map fun x => x.resolution.id).Nodup)
  (h : List.Forall₂ (fun g c => ClusterOf s g c) (signalGroups C inputs) clusters)

include h

theorem exists_group_of_cluster {c : FailureClusterRevision} (hc : c ∈ clusters) :
    ∃ g ∈ signalGroups C inputs, ClusterOf s g c := by
  obtain ⟨i, hi, rfl⟩ := List.mem_iff_getElem.1 hc
  exact ⟨_, List.getElem_mem (h.length_eq ▸ hi), h.get (h.length_eq ▸ hi) hi⟩

theorem exists_cluster_of_unit {x : ClusterInput} (hx : x ∈ inputs) (hdiagnostic : x.diagnostic = true) :
    ∃ g ∈ signalGroups C inputs, ∃ c ∈ clusters, ClusterOf s g c ∧ C.fingerprint x.signal = c.fingerprint := by
  have hkey : C.fingerprint x.signal ∈ (signalGroups C inputs).map Group.key :=
    mem_keys_collect.2 ⟨x, List.mem_filter.2 ⟨hx, hdiagnostic⟩, rfl⟩
  obtain ⟨g, hg, hkey⟩ := List.mem_map.1 hkey
  obtain ⟨i, hi, rfl⟩ := List.mem_iff_getElem.1 hg
  have hc := h.get hi (h.length_eq ▸ hi)
  exact ⟨_, hg, _, List.getElem_mem (h.length_eq ▸ hi), hc, hkey.symm.trans hc.fingerprint.symm⟩

theorem exists_unit_of_affected {c : FailureClusterRevision} (hc : c ∈ clusters) {id : Uuid}
    (hid : id ∈ c.affectedUnitResolutionRevisionIds) : ∃ x ∈ inputs,
      x.diagnostic = true ∧ x.resolution.id = id ∧ C.fingerprint x.signal = c.fingerprint := by
  obtain ⟨g, hg, hof⟩ := exists_group_of_cluster h hc
  rw [hof.affected] at hid
  obtain ⟨x, hx, rfl⟩ := List.mem_map.1 hid
  obtain ⟨hx, hdiagnostic, hkey⟩ := (mem_members hg).1 hx
  exact ⟨x, hx, hdiagnostic, rfl, hof.fingerprint ▸ hkey⟩

include hnodup

theorem disjoint_of_clusters : clusters.Pairwise fun c d =>
    List.Disjoint c.affectedUnitResolutionRevisionIds d.affectedUnitResolutionRevisionIds := by
  have hkeys : clusters.Pairwise fun c d => c.fingerprint ≠ d.fingerprint := by
    refine List.pairwise_map.1 ?_
    rw [fingerprints_eq h]
    exact nodup_keys_collect
  refine hkeys.imp_of_mem fun {c d} hc hd hne id hidc hidd => hne ?_
  obtain ⟨x, hx, hdiagnostic, rfl, hfingerprint⟩ := exists_unit_of_affected h hc hidc
  obtain ⟨g, hg, hof⟩ := exists_group_of_cluster h hd
  rw [← hfingerprint, (mem_affected hnodup hg hof hx hdiagnostic).1 hidd]

theorem covers_of_clusters (id : Uuid) : (∃ c ∈ clusters, id ∈ c.affectedUnitResolutionRevisionIds) ↔
    ∃ x ∈ inputs, x.diagnostic = true ∧ x.resolution.id = id := by
  constructor
  · rintro ⟨c, hc, hid⟩
    obtain ⟨x, hx, hdiagnostic, hid, -⟩ := exists_unit_of_affected h hc hid
    exact ⟨x, hx, hdiagnostic, hid⟩
  · rintro ⟨x, hx, hdiagnostic, rfl⟩
    obtain ⟨g, hg, c, hc, hof, hfingerprint⟩ := exists_cluster_of_unit h hx hdiagnostic
    exact ⟨c, hc, (mem_affected hnodup hg hof hx hdiagnostic).2 hfingerprint⟩

end Clusters

theorem partition_of_clusters (hnodup : (inputs.map fun x => x.resolution.id).Nodup)
    (hsep : Separates C inputs)
    (h : List.Forall₂ (fun g c => ClusterOf s g c) (signalGroups C inputs) clusters) :
    Partition inputs clusters := by
  refine ⟨disjoint_of_clusters hnodup h, covers_of_clusters hnodup h,
    fun x hx y hy hxd hyd => ⟨?_, ?_⟩, ?_⟩
  · rintro ⟨c, hc, hxc, hyc⟩
    obtain ⟨g, hg, hof⟩ := exists_group_of_cluster h hc
    refine hsep x hx y hy hxd hyd ?_
    rw [(mem_affected hnodup hg hof hx hxd).1 hxc, (mem_affected hnodup hg hof hy hyd).1 hyc]
  · intro hsame
    obtain ⟨g, hg, c, hc, hof, hfingerprint⟩ := exists_cluster_of_unit h hx hxd
    exact ⟨c, hc, (mem_affected hnodup hg hof hx hxd).2 hfingerprint,
      (mem_affected hnodup hg hof hy hyd).2 (hsame ▸ hfingerprint)⟩
  · intro c hc
    obtain ⟨g, hg, hof⟩ := exists_group_of_cluster h hc
    exact ⟨hof.affected ▸ (members_sublist hg).map _, hof.representative⟩

end Partition

/-! The whole call. -/

/-- Later states keep the clusters of the snapshot, and judgments are only added. -/
structure TriageKept (s : TaskResultSnapshot) (db db' : Db) : Prop where
  clusters : (db'.clusters.filter fun c => c.resultSnapshotId = s.id) =
    db.clusters.filter fun c => c.resultSnapshotId = s.id
  classifications : db.classifications ⊆ db'.classifications

section Call

variable {out : List (FailureClusterRevision × FailureClassificationRevision)}

theorem length_members {inputs : List ClusterInput} {g : SignalGroup}
    (hg : g ∈ signalGroups C inputs) : g.members.length =
      inputs.countP fun x => x.diagnostic && decide (C.fingerprint x.signal = g.key) := by
  rw [members_eq hg, List.filter_filter, List.countP_eq_length_filter]
  simp only [Bool.and_comm]

/-- The groups fit into clusters exactly when no signal is shown too often. -/
theorem groups_fit_iff {inputs : List ClusterInput} (hsep : Separates C inputs) :
    (∀ g ∈ signalGroups C inputs, g.members.length ≤ clusterLimit) ↔
      ∀ signal, (inputs.countP fun x => x.diagnostic && decide (x.signal = signal)) ≤
        clusterLimit := by
  constructor
  · intro h signal
    by_cases hshown : ∃ x ∈ inputs, x.diagnostic = true ∧ x.signal = signal
    · obtain ⟨x, hx, hdiagnostic, rfl⟩ := hshown
      have hkey : C.fingerprint x.signal ∈ (signalGroups C inputs).map Group.key :=
        mem_keys_collect.2 ⟨x, List.mem_filter.2 ⟨hx, hdiagnostic⟩, rfl⟩
      obtain ⟨g, hg, hkey⟩ := List.mem_map.1 hkey
      refine le_trans ?_ (h g hg)
      rw [length_members hg]
      refine List.countP_mono_left fun y _ hy => ?_
      simp only [Bool.and_eq_true, decide_eq_true_eq] at hy ⊢
      exact ⟨hy.1, by rw [hy.2, hkey]⟩
    · rw [List.countP_eq_zero.2 fun x hx hmatch => hshown ⟨x, hx, by simpa using hmatch⟩]
      exact Nat.zero_le _
  · intro h g hg
    obtain ⟨y, hy, hkey, -⟩ := tag_eq hg
    obtain ⟨hy, hyd⟩ := List.mem_filter.1 hy
    refine le_trans ?_ (h y.signal)
    rw [length_members hg]
    refine List.countP_mono_left fun x hx hmatch => ?_
    simp only [Bool.and_eq_true, decide_eq_true_eq] at hmatch ⊢
    exact ⟨hmatch.1, hsep x hx y hy hmatch.1 hyd (hmatch.2.trans hkey.symm)⟩

theorem unitInputs_ids (hm : MatchesSnapshot db s rs hs) :
    ((unitInputs rs hs).map fun x => x.resolution.id).Nodup := by
  have hids : ((unitInputs rs hs).map fun x => x.resolution.id) = s.unitResolutionRevisionIds := by
    rw [← hm.ids, unitInputs, List.map_map]
    rfl
  rw [hids]
  exact (lengths_of_valid s).2.1

/-- The clusters of the snapshot are those that its first triage has formed. -/
theorem clusters_kept {groups : List SignalGroup} {db₂ : Db} (hnew : ∀ c ∈ db.clusters, c.resultSnapshotId ≠ s.id)
    (h : GroupsTriaged s groups db out db') (hkept : TriageKept s db' db₂) :
    (db₂.clusters.filter fun c => c.resultSnapshotId = s.id) = out.map fun pair => pair.1 := by
  obtain ⟨nextId, hstate⟩ := h.state
  have hclusters : List.Forall₂ (fun g c => ClusterOf s g c) groups
      (out.map fun pair => pair.1) := List.forall₂_map_right_iff.2 h.clusters
  have hold : (db.clusters.filter fun c => c.resultSnapshotId = s.id) = [] :=
    List.filter_eq_nil_iff.2 fun c hc hmatch => hnew c hc (by simpa using hmatch)
  have hout : ((out.map fun pair => pair.1).filter fun c => c.resultSnapshotId = s.id) =
      out.map fun pair => pair.1 := by
    refine List.filter_eq_self.2 fun c hc => ?_
    obtain ⟨i, hi, rfl⟩ := List.mem_iff_getElem.1 hc
    have hof := hclusters.get (hclusters.length_eq ▸ hi) hi
    exact decide_eq_true hof.snapshot
  rw [hkept.clusters, hstate]
  simp only [List.filter_append, hold, hout, List.nil_append]

/-- Where the clusters of the call are kept, every group finds its own again. -/
theorem found_again {groups : List SignalGroup} {db₂ : Db}
    (hnew : ∀ c ∈ db.clusters, c.resultSnapshotId ≠ s.id)
    (hkeys : (groups.map Group.key).Nodup) (h : GroupsTriaged s groups db out db')
    (hkept : TriageKept s db' db₂) :
    List.Forall₂ (fun g pair =>
      db₂.getFailureCluster s.id g.key failureClusterPolicyDigest = some pair.1 ∧
        (db₂.getLatestClassificationForCluster pair.1.id).isSome) groups out := by
  obtain ⟨nextId, hstate⟩ := h.state
  have hclusters : List.Forall₂ (fun g c => ClusterOf s g c) groups
      (out.map fun pair => pair.1) := List.forall₂_map_right_iff.2 h.clusters
  have hmine := clusters_kept hnew h hkept
  have hunique : ((out.map fun pair => pair.1).map fun c => c.fingerprint).Nodup := by
    rw [fingerprints_eq hclusters]
    exact hkeys
  have hpair : ∀ g pair, ClusterOf s g pair.1 → pair ∈ out →
      db₂.getFailureCluster s.id g.key failureClusterPolicyDigest = some pair.1 ∧
        (db₂.getLatestClassificationForCluster pair.1.id).isSome := by
    intro g pair hof hmem
    have hc : pair.1 ∈ db₂.clusters.filter fun c => c.resultSnapshotId = s.id := by
      rw [hmine]
      exact List.mem_map_of_mem hmem
    refine ⟨Rows.newest_of_unique (List.mem_filter.1 hc).1 ?_ ?_, ?_⟩
    · simp [hof.snapshot, hof.fingerprint, hof.policy]
    · intro c hc' hmatch
      simp only [decide_eq_true_eq] at hmatch
      have hc'' : c ∈ out.map fun pair => pair.1 := by
        rw [← hmine]
        exact List.mem_filter.2 ⟨hc', decide_eq_true hmatch.1⟩
      exact List.inj_on_of_nodup_map hunique hc'' (hmine ▸ hc)
        (hmatch.2.1.trans hof.fingerprint.symm)
    · have hk : pair.2 ∈ db₂.classifications := by
        refine hkept.classifications ?_
        rw [hstate]
        exact List.mem_append_right _ (List.mem_map_of_mem hmem)
      by_contra hnone
      rw [Bool.not_eq_true, Option.isSome_eq_false_iff, Option.isNone_iff_eq_none] at hnone
      have hempty := List.filter_eq_nil_iff.1 (Rows.newest_eq_none.1 hnone) pair.2 hk
      simp [h.judged pair hmem] at hempty
  refine List.forall₂_iff_get.2 ⟨h.clusters.length_eq, fun i hi hi' => ?_⟩
  exact hpair _ _ (h.clusters.get hi hi') (List.get_mem _ _)

/-- A call that creates the clusters of a snapshot has found no signal shown too often. -/
theorem fits_of_triaged (hop : Operable db actor s) (hm : MatchesSnapshot db s rs hs)
    (hfresh : FreshIds db) (hnew : ∀ c ∈ db.clusters, c.resultSnapshotId ≠ s.id)
    (hsep : Separates C (unitInputs rs hs)) {batch : FailureClassificationBatch}
    (h : Commits (classifySnapshot C actor s.id now) db batch db') (signal : FailureSignal) :
    ((unitInputs rs hs).countP fun x => x.diagnostic && decide (x.signal = signal)) ≤
      clusterLimit := by
  obtain ⟨out, hout, -⟩ := (commits_classifySnapshot hop hm).1 h
  exact (groups_fit_iff hsep).1 (classifyGroups_commits hfresh
    (fun c hc hsnapshot => absurd hsnapshot (hnew c hc)) nodup_keys_collect hout).fits signal

/-- Triage of a snapshot that has none succeeds and partitions its diagnostic Units, and any
later call answers the same clusters and appends nothing, exactly when no signal is shown by
more Units than one cluster may hold. -/
theorem triage_partitions_iff (hop : Operable db actor s) (hm : MatchesSnapshot db s rs hs)
    (hfresh : FreshIds db) (hnew : ∀ c ∈ db.clusters, c.resultSnapshotId ≠ s.id)
    (hclock : s.createdAt ≤ now) (hsep : Separates C (unitInputs rs hs)) :
    (∃ batch db', Commits (classifySnapshot C actor s.id now) db batch db' ∧
      Partition (unitInputs rs hs) batch.clusters ∧
      ∀ db₂ actor₂ now₂, TriageKept s db' db₂ → Operable db₂ actor₂ s →
        MatchesSnapshot db₂ s rs hs → ∃ batch₂,
          Commits (classifySnapshot C actor₂ s.id now₂) db₂ batch₂ db₂ ∧
            batch₂.clusters = batch.clusters) ↔
      ∀ signal, ((unitInputs rs hs).countP fun x => x.diagnostic && decide (x.signal = signal)) ≤
        clusterLimit := by
  have huntriaged : Untriaged s (signalGroups C (unitInputs rs hs)) db :=
    fun c hc hsnapshot => absurd hsnapshot (hnew c hc)
  have hkeys : ((signalGroups C (unitInputs rs hs)).map Group.key).Nodup := nodup_keys_collect
  constructor
  · rintro ⟨batch, db', hcommits, -⟩
    exact fits_of_triaged hop hm hfresh hnew hsep hcommits
  · intro hsignals
    have hfits := (groups_fit_iff hsep).2 hsignals
    have hwatermark := (lengths_of_valid s).2.2.2.1
    obtain ⟨out, db', hout⟩ := exists_classifyGroups (C := C) hfresh huntriaged hkeys
      (fun g hg => groupFormed (unitInputs_ids hm) hg) hfits (hwatermark.trans hclock)
    have htriaged := classifyGroups_commits hfresh huntriaged hkeys hout
    refine ⟨_, db', (commits_classifySnapshot hop hm).2 ⟨out, hout, rfl⟩, ?_, ?_⟩
    · exact partition_of_clusters (unitInputs_ids hm) hsep
        (List.forall₂_map_right_iff.2 htriaged.clusters)
    · intro db₂ actor₂ now₂ hkept hop₂ hm₂
      obtain ⟨out', hout', hsame⟩ := classifyGroups_replay (C := C) (s := s)
        (found_again hnew hkeys htriaged hkept)
      exact ⟨_, (commits_classifySnapshot hop₂ hm₂).2 ⟨out', hout', rfl⟩, hsame⟩

end Call

/-! A Run in which an outage leaves every Unit with the same signal. -/

namespace Outage

def hashes : ClassificationHashes where
  fingerprint signal := BitVec.ofNat 256 signal.signalCode.length
  cluster content := BitVec.ofNat 256 content.id
  classification content := BitVec.ofNat 256 content.id

def resolution (i : ℕ) : UnitResolutionRevision where
  toRunScope := LateCleanup.scope
  executionUnitId := i
  unitKey := BitVec.ofNat 256 i
  outcomeClass := .platform
  closureReason := "INFRASTRUCTURE_FAILURE"
  dataHygiene := .notApplicable
  evidenceCompleteness := .missing
  evidenceIntegrity := .unverified
  executionInfluence := .autonomous
  id := i
  unitResolutionId := i
  revision := 1
  inputSealIds := []
  inputClosureNoticeIds := [i]
  inputSetHash := BitVec.ofNat 256 i
  effectiveVerdict := .inconclusive
  stability := .unknown
  decisiveUnitAttemptId := i
  decisiveAttemptNumber := 1
  resolutionPolicyDigest := unitResolutionPolicyDigest
  supersedesRevisionId := none
  createdAt := 5
  valid := by
    have hreason : safeReason "INFRASTRUCTURE_FAILURE" = true := by decide
    simp [UnitResolutionRevisionContent.violation, hreason]

def snapshotContent (n : ℕ) : TaskResultSnapshotContent where
  toRunScope := LateCleanup.scope
  schemaVersion := snapshotSchemaVersion .qualityFinal
  id := 0
  revision := 1
  finality := .qualityFinal
  unitResolutionRevisionIds := List.range n
  inputResolutionSetHash := 0#256
  unitHygieneResolutionRevisionIds := none
  inputHygieneResolutionSetHash := none
  reevaluationSourceSnapshotId := none
  reevaluationCommandId := none
  aggregationPolicyVersion := snapshotPolicyVersion .qualityFinal
  aggregationPolicyDigest := snapshotPolicyDigest .qualityFinal
  projectionWatermark := 5
  manifestCount := n
  verdictCounts := ⟨0, 0, n, 0⟩
  axisDistributions :=
    { dataHygiene := ⟨0, 0, 0, 0, n⟩
      evidenceCompleteness := ⟨0, 0, 0, n, 0⟩
      evidenceIntegrity := ⟨n, 0, 0⟩
      executionInfluence := ⟨n, 0, 0⟩
      stability := ⟨n, 0, 0, 0, 0⟩
      outcomeClass := ⟨0, 0, n, 0, 0, 0, 0⟩ }
  rawPassRate := ⟨0, n⟩
  trustedPassRate := ⟨0, n⟩
  autonomousPassRate := ⟨0, n⟩
  decisivePassRate := ⟨0, 0⟩
  supersedesSnapshotId := none
  createdAt := 5

theorem snapshotContent_valid {n : ℕ} (hpos : n ≠ 0) (hmost : n ≤ 100000) :
    (snapshotContent n).violation = none := by
  simp [TaskResultSnapshotContent.violation, snapshotContent, hpos, hmost, List.nodup_range,
    TaskResultSnapshotContent.actualRates, TaskResultSnapshotContent.expectedRates,
    TaskVerdictCounts.total, TaskResultAxisDistributions.totals,
    TaskResultSnapshotContent.shapeMatches, TaskResultSnapshotContent.versionsMatch]

def snapshot (n : ℕ) (hpos : n ≠ 0) (hmost : n ≤ 100000) : TaskResultSnapshot :=
  ⟨snapshotContent n, 0#256, snapshotContent_valid hpos hmost⟩

def closed (n : ℕ) (hpos : n ≠ 0) (hmost : n ≤ 100000) : Db :=
  { LateCleanup.start with
    resolutions := (List.range n).map resolution
    hygieneResolutions := []
    snapshots := [snapshot n hpos hmost] }

def caller : ActorContext := ⟨1, none, [], true⟩

section

variable {n : ℕ} {hpos : n ≠ 0} {hmost : n ≤ 100000}

theorem operable : Operable (closed n hpos hmost) caller (snapshot n hpos hmost) where
  stored := by simp [closed, Db.getSnapshotById]
  run := rfl
  closed := rfl
  sealed := rfl
  tenant := rfl
  reads := rfl
  operates := .inl rfl

theorem matchesSnapshot : MatchesSnapshot (closed n hpos hmost) (snapshot n hpos hmost)
    ((List.range n).map resolution) [] where
  resolutions := by
    have hids : (((List.range n).map resolution).map fun r => r.id) = List.range n := by
      rw [List.map_map]
      exact List.map_id _
    have hlookup := Rows.lookup_keys (hids ▸ List.nodup_range)
    rw [hids] at hlookup
    exact hlookup
  ids := by
    rw [List.map_map]
    exact List.map_id _
  hygiene := rfl
  hygieneIds := rfl
  scope := by
    intro r hr
    obtain ⟨i, -, rfl⟩ := List.mem_map.1 hr
    rfl
  hygieneScope := by simp

theorem freshIds : FreshIds (closed n hpos hmost) :=
  ⟨fun _ hc => absurd hc List.not_mem_nil, fun _ hk => absurd hk List.not_mem_nil⟩

/-- Every Unit is diagnostic and shows the signal of the first one. -/
theorem unit_signal : ∀ x ∈ unitInputs ((List.range n).map resolution) [],
    x.diagnostic = true ∧ x.signal = failureSignalFor (resolution 0) none := by
  intro x hx
  obtain ⟨r, hr, rfl⟩ := List.mem_map.1 hx
  obtain ⟨i, -, rfl⟩ := List.mem_map.1 hr
  exact ⟨rfl, rfl⟩

theorem separates : Separates hashes (unitInputs ((List.range n).map resolution) []) :=
  fun x hx y hy _ _ _ => (unit_signal x hx).2.trans (unit_signal y hy).2.symm

theorem count_signal : ((unitInputs ((List.range n).map resolution) []).countP fun x =>
    x.diagnostic && decide (x.signal = failureSignalFor (resolution 0) none)) = n := by
  rw [List.countP_eq_length.2 fun x hx => by simp [unit_signal x hx]]
  simp [unitInputs]

end

end Outage

theorem outage_of_two_units_triaged :
    ∃ batch db', Commits (classifySnapshot Outage.hashes Outage.caller 0 9)
      (Outage.closed 2 (by decide) (by decide)) batch db' ∧
        Partition (unitInputs ((List.range 2).map Outage.resolution) []) batch.clusters := by
  have hfits : ∀ signal, ((unitInputs ((List.range 2).map Outage.resolution) []).countP fun x =>
      x.diagnostic && decide (x.signal = signal)) ≤ clusterLimit := fun signal =>
    List.countP_le_length.trans (by decide)
  obtain ⟨batch, db', hcommits, hpartition, -⟩ := (triage_partitions_iff Outage.operable
    Outage.matchesSnapshot Outage.freshIds (fun _ hc => absurd hc List.not_mem_nil)
    (show (5 : Instant) ≤ 9 by decide) Outage.separates).2 hfits
  exact ⟨batch, db', hcommits, hpartition⟩

/-- An outage over 10 001 Units gives a valid snapshot that cannot be triaged. -/
theorem outage_of_many_units_not_triaged :
    ¬ ∃ batch db', Commits (classifySnapshot Outage.hashes Outage.caller 0 9)
      (Outage.closed 10001 (by decide) (by decide)) batch db' := by
  rintro ⟨batch, db', hcommits⟩
  have hfits := fits_of_triaged Outage.operable Outage.matchesSnapshot Outage.freshIds
    (fun _ hc => absurd hc List.not_mem_nil) Outage.separates hcommits
    (failureSignalFor (Outage.resolution 0) none)
  rw [Outage.count_signal] at hfits
  exact absurd hfits (by decide)

end Atlas.Proofs
