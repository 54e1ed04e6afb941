import AtlasTestOps.Lib.Table
import AtlasTestOps.Proofs.Triage
import AtlasTestOps.Service.TaskGates

/-! The Task Gate is decided twice, by the service and by the guard of the insert. The two agree on
every input, so the guard refuses a decision only when what it read is no longer current. -/

namespace Atlas.Proofs

open Atlas Atlas.Task Atlas.Result Atlas.Store Atlas.Service Txn Grouping

/-! ### Readiness and reasons -/

/-- The guard and the service call the same judgments ready. -/
theorem guardReady_eq (c : FailureClassificationRevision) : guardReady c = taskGateClassificationIsReady c := by
  unfold guardReady taskGateClassificationIsReady taskGateRuleConfidenceMinimum taskGateHumanConfidenceMinimum
  by_cases hgaps : c.evidenceGapCodes = []
  · cases c.failureDomain <;> cases c.authorKind <;> cases c.judgmentState <;> simp [hgaps]
  · simp [hgaps]

theorem expectedDecision_eq (reasons : List TaskGateReason) : expectedDecision reasons = taskGateVerdict reasons := by
  have hblocks : ∀ code : TaskGateReasonCode, code ∈ [.classificationNotGateReady, .dataHygieneUnresolved,
      .evidenceIncomplete, .evidenceInvalidOrUnverified, .inconclusiveUnits, .manualInfluence, .notEvaluatedUnits,
      .snapshotNotFullyResolved, .unstableExecution] ↔ blocksByUncertainty code = true := by
    intro code
    cases code <;> decide
  have hrejects : ∀ code : TaskGateReasonCode, code ∈ [.failedUnits, .dataLeak] ↔
      (!blocksByUncertainty code) = true := by
    intro code
    cases code <;> decide
  simp only [expectedDecision, taskGateVerdict, hblocks, hrejects]

/-- The reasons are appended in one order and listed in another. -/
theorem perm_appended {α : Type} [DecidableEq α] (a b c d e f g h i j k : α) :
    [j, g, i, b, d, e, h, k, a, f, c].Perm [a, b, c, d, e, f, g, h, i, j, k] := by
  rw [List.perm_iff_count]
  intro x
  simp only [List.count_cons, List.count_nil]
  ring

theorem counts_codes (s : TaskResultSnapshot) (cs : List FailureClassificationRevision) :
    (taskGateCounts s cs).map (fun r => r.code) =
      [.classificationNotGateReady, .dataHygieneUnresolved, .dataLeak, .evidenceIncomplete,
        .evidenceInvalidOrUnverified, .failedUnits, .inconclusiveUnits, .manualInfluence, .notEvaluatedUnits,
        .snapshotNotFullyResolved, .unstableExecution] := rfl

/-- The guard sorts its reasons into the order of the service. -/
theorem expectedReasons_eq (s : TaskResultSnapshot) (cs : List FailureClassificationRevision) :
    expectedReasons s (cs.countP fun c => !taskGateClassificationIsReady c) = taskGateReasons s cs := by
  have hperm : ((taskGateReasons s cs)).Perm (Dict.sortBy (fun r => reasonText r.code) (taskGateReasons s cs)) :=
    (Dict.sortBy_perm _).symm
  have hkeys : ((taskGateReasons s cs).map fun r => reasonText r.code).Nodup := by
    have hall : ((taskGateCounts s cs).map fun r => reasonText r.code).Nodup := by
      have hmap : ((taskGateCounts s cs).map fun r => reasonText r.code) =
          ((taskGateCounts s cs).map fun r => r.code).map reasonText := by rw [List.map_map]; rfl
      rw [hmap, counts_codes]
      decide
    exact hall.sublist (List.filter_sublist.map _)
  have hsorted : (taskGateReasons s cs).Pairwise fun a b => reasonText a.code ≤ reasonText b.code := by
    have hall : ((taskGateCounts s cs).map fun r => r.code).Pairwise fun a b => reasonText a ≤ reasonText b := by
      rw [counts_codes]
      decide
    exact (List.pairwise_map.1 hall).filter _
  have hself : Dict.sortBy (fun r => reasonText r.code) (taskGateReasons s cs) = taskGateReasons s cs := by
    refine (hperm.eq_of_pairwise ?_ hsorted (Dict.sortBy_pairwise _)).symm
    intro a b ha hb hle hge
    exact List.inj_on_of_nodup_map hkeys ha ((Dict.sortBy_perm _).mem_iff.1 hb) (le_antisymm hle hge)
  rw [← hself]
  refine (Dict.sortBy_eq_of_perm hkeys ?_).symm
  exact ((perm_appended _ _ _ _ _ _ _ _ _ _ _).filter _).symm

/-! ### Coverage -/

/-- The hygiene rows of the snapshot stand in the order of its Units. -/
structure Aligned (s : TaskResultSnapshot) (rs : List UnitResolutionRevision)
    (hs : List UnitHygieneResolutionRevision) : Prop where
  units : (rs.map fun r => r.executionUnitId).Nodup
  hygiene : s.unitHygieneResolutionRevisionIds ≠ none →
    (hs.map fun h => h.executionUnitId) = rs.map fun r => r.executionUnitId

variable {db : Db} {s : TaskResultSnapshot} {rs : List UnitResolutionRevision}
  {hs : List UnitHygieneResolutionRevision}

/-- A lookup of keys that loses none finds each row under its own key. -/
theorem map_of_filterMap {α β : Type} {f : β → Option α} {key : α → β} {keys : List β} {rows : List α}
    (hrows : keys.filterMap f = rows) (hkeys : rows.map key = keys) : keys.map f = rows.map some := by
  induction keys generalizing rows with
  | nil =>
    obtain rfl : rows = [] := by simpa using hkeys
    rfl
  | cons k keys ih =>
    cases hf : f k with
    | none =>
      rw [List.filterMap_cons_none hf] at hrows
      have hle := List.length_filterMap_le f keys
      have hlength := congrArg List.length hkeys
      rw [hrows] at hle
      simp only [List.length_map, List.length_cons] at hlength
      omega
    | some a =>
      rw [List.filterMap_cons_some hf] at hrows
      subst hrows
      simp only [List.map_cons, List.cons.injEq] at hkeys ⊢
      exact ⟨hf, ih rfl hkeys.2⟩

theorem find?_and {α : Type} {p q : α → Bool} {rows : List α} {a : α} (h : rows.find? p = some a) (hq : q a = true) :
    rows.find? (fun b => p b && q b) = some a := by
  obtain ⟨hp, as, bs, rfl, has⟩ := List.find?_eq_some_iff_append.1 h
  refine List.find?_eq_some_iff_append.2 ⟨by simp [hp, hq], as, bs, rfl, fun b hb => ?_⟩
  have hb := has b hb
  simp only [Bool.not_eq_true'] at hb
  simp [hb]

theorem guardDiagnostic_eq (r : UnitResolutionRevision) (h : Option UnitHygieneResolutionRevision) :
    guardDiagnostic r h = isDiagnosticFailure r h := by
  have hhygiene : (h.map fun h => h.dataHygiene).getD r.dataHygiene = effectiveHygiene r h := by cases h <;> rfl
  rw [Bool.eq_iff_iff, guardDiagnostic, hhygiene]
  simp [isDiagnosticFailure, or_assoc]

theorem joinedResolution_eq (hm : MatchesSnapshot db s rs hs) {r : UnitResolutionRevision} {i : ℕ}
    (hr : rs[i]? = some r) : joinedResolution db s r.id = some r := by
  have hmap := map_of_filterMap hm.resolutions hm.ids
  have hfind : db.resolutions.find? (fun r' => r'.id = r.id) = some r := by
    have hget := congrArg (fun l => l[i]?) hmap
    rw [← hm.ids] at hget
    simpa [hr] using hget
  obtain ⟨hrun, hscope⟩ : r.taskRunId = s.taskRunId ∧ r.tenantId = s.tenantId ∧ r.projectId = s.projectId := by
    have hscope := hm.scope r (List.mem_of_getElem? hr)
    exact ⟨congrArg RunScope.taskRunId hscope, congrArg RunScope.tenantId hscope,
      congrArg RunScope.projectId hscope⟩
  simp [joinedResolution, hfind, hrun, hscope]

/-- The join by position and the lookup by Unit find the same hygiene row. -/
theorem joinedHygiene_eq (hm : MatchesSnapshot db s rs hs) (ha : Aligned s rs hs) {r : UnitResolutionRevision} {i : ℕ}
    (hr : rs[i]? = some r) : joinedHygiene db s i r = hygieneByUnit hs r.executionUnitId := by
  have hids := hm.hygieneIds
  have hmap := map_of_filterMap hm.hygiene hm.hygieneIds
  cases hnone : s.unitHygieneResolutionRevisionIds with
  | none =>
    simp only [TaskResultSnapshotContent.hygieneIds, hnone, Option.getD_none, List.map_eq_nil_iff] at hids
    simp [joinedHygiene, hnone, hids, hygieneByUnit]
  | some ids =>
    have hunits := ha.hygiene (by simp [hnone])
    simp only [TaskResultSnapshotContent.hygieneIds, hnone, Option.getD_some] at hids hmap
    have hrow : ∃ h, hs[i]? = some h ∧ h.executionUnitId = r.executionUnitId := by
      have hget := congrArg (fun l => l[i]?) hunits
      simp only [List.getElem?_map, hr, Option.map_some, Option.map_eq_some_iff] at hget
      exact hget
    obtain ⟨h, hh, hunit⟩ := hrow
    have hid : ids[i]? = some h.id := by rw [← hids, List.getElem?_map, hh, Option.map_some]
    have hfind : db.hygieneResolutions.find? (fun h' => h'.id = h.id) = some h := by
      have hget := congrArg (fun l => l[i]?) hmap
      simpa [hh, hid] using hget
    have hjoined : joinedHygiene db s i r = some h := by
      have hand := find?_and (q := fun h' => h'.executionUnitId = r.executionUnitId) hfind (by simpa using hunit)
      simp only [joinedHygiene, hnone, hid, Option.bind_eq_bind, Option.bind_some]
      simpa [Bool.decide_and] using hand
    have hnodup : (hs.reverse.map fun h => h.executionUnitId).Nodup := by
      rw [List.map_reverse, List.nodup_reverse, hunits]
      exact ha.units
    rw [hjoined, hygieneByUnit, ← hunit]
    exact (Table.find?_of_mem hnodup (List.mem_reverse.2 (List.mem_of_getElem? hh))).symm

/-- The guard and triage count the same Units as diagnostic. -/
theorem diagnosticRows_eq (hm : MatchesSnapshot db s rs hs) (ha : Aligned s rs hs) :
    diagnosticRows db s =
      ((unitInputs rs hs).filter fun x => x.diagnostic).map fun x => x.resolution.id := by
  have hrow : ∀ p ∈ rs.zipIdx, ((joinedResolution db s p.1.id).bind fun r =>
      if guardDiagnostic r (joinedHygiene db s p.2 r) then some r.id else none) =
        if ClusterInput.diagnostic ⟨p.1, hygieneByUnit hs p.1.executionUnitId⟩ then some p.1.id else none := by
    rintro ⟨r, i⟩ hp
    have hr : rs[i]? = some r := List.mem_zipIdx_iff_getElem?.1 hp
    simp only [joinedResolution_eq hm hr, Option.bind_some, joinedHygiene_eq hm ha hr, guardDiagnostic_eq]
    rfl
  have hzip : s.unitResolutionRevisionIds.zipIdx = rs.zipIdx.map fun p => (p.1.id, p.2) := by
    rw [← hm.ids, List.zipIdx_map]
    rfl
  calc diagnosticRows db s
      = rs.zipIdx.filterMap fun p => (joinedResolution db s p.1.id).bind fun r =>
          if guardDiagnostic r (joinedHygiene db s p.2 r) then some r.id else none := by
        rw [diagnosticRows, hzip, List.filterMap_map]
        rfl
    _ = rs.zipIdx.filterMap fun p =>
          if ClusterInput.diagnostic ⟨p.1, hygieneByUnit hs p.1.executionUnitId⟩ then some p.1.id else none :=
        List.filterMap_congr hrow
    _ = (rs.zipIdx.map fun p => p.1).filterMap fun r =>
          if ClusterInput.diagnostic ⟨r, hygieneByUnit hs r.executionUnitId⟩ then some r.id else none := by
        rw [List.filterMap_map]
        rfl
    _ = rs.filterMap fun r =>
          if ClusterInput.diagnostic ⟨r, hygieneByUnit hs r.executionUnitId⟩ then some r.id else none := by
        rw [List.zipIdx_map_fst]
    _ = ((unitInputs rs hs).filter fun x => x.diagnostic).map fun x => x.resolution.id := by
        rw [unitInputs, ← List.filterMap_eq_map, List.filterMap_filter, List.filterMap_map]
        rfl

/-- The latest clusters name every diagnostic Unit of the snapshot, each once. -/
def Covered (db : Db) (s : TaskResultSnapshot) (inputs : List ClusterInput) : Prop :=
  (affectedIds db s).Nodup ∧
    ∀ id, id ∈ affectedIds db s ↔ ∃ x ∈ inputs, x.diagnostic = true ∧ x.resolution.id = id

theorem mem_expectedDiagnosticIds (hm : MatchesSnapshot db s rs hs) (ha : Aligned s rs hs) {id : Uuid} :
    id ∈ expectedDiagnosticIds db s ↔ ∃ x ∈ unitInputs rs hs, x.diagnostic = true ∧ x.resolution.id = id := by
  rw [expectedDiagnosticIds, (Dict.sortBy_perm _).mem_iff, diagnosticRows_eq hm ha]
  simp [and_assoc]

theorem nodup_diagnosticRows (hm : MatchesSnapshot db s rs hs) (ha : Aligned s rs hs) :
    (diagnosticRows db s).Nodup := by
  have hids : ((unitInputs rs hs).map fun x => x.resolution.id).Nodup := by
    have hmap : ((unitInputs rs hs).map fun x => x.resolution.id) = rs.map fun r => r.id := by
      rw [unitInputs, List.map_map]
      rfl
    rw [hmap, hm.ids]
    exact (lengths_of_valid s).2.1
  rw [diagnosticRows_eq hm ha]
  exact hids.sublist (List.filter_sublist.map _)

/-- The coverage test of the guard. -/
theorem clusterCoverage_iff (hm : MatchesSnapshot db s rs hs) (ha : Aligned s rs hs) :
    clusterCoverage db s = true ↔ Covered db s (unitInputs rs hs) := by
  have hrows := nodup_diagnosticRows hm ha
  simp only [clusterCoverage, decide_eq_true_eq, Covered, ← mem_expectedDiagnosticIds hm ha]
  constructor
  · rintro ⟨hsame, hlength⟩
    have hnodup : (affectedIds db s).Nodup :=
      List.dedup_eq_self.1 ((List.dedup_sublist _).eq_of_length hlength.symm)
    refine ⟨hnodup, fun id => ?_⟩
    rw [← hsame, (Dict.sortBy_perm _).mem_iff, List.mem_dedup]
  · rintro ⟨hnodup, hmem⟩
    rw [hnodup.dedup]
    refine ⟨?_, rfl⟩
    refine Dict.sortBy_eq_of_perm (by simpa using hnodup) ?_
    rw [List.perm_ext_iff_of_nodup hnodup hrows]
    intro id
    rw [hmem, expectedDiagnosticIds, (Dict.sortBy_perm _).mem_iff]

theorem latestClusters_eq {clusters : List FailureClusterRevision}
    (hclusters : (db.clusters.filter fun c => c.resultSnapshotId = s.id) = clusters)
    (hchains : (clusters.map fun c => c.failureClusterId).Nodup) : db.latestClusters s.id = clusters := by
  have hnewest : ∀ c ∈ clusters, Rows.newest (fun c => c.revision)
      (clusters.filter fun c' => c'.failureClusterId = c.failureClusterId) = some c := by
    intro c hc
    refine Rows.newest_of_unique hc (by simp) fun c' hc' hsame => ?_
    exact List.inj_on_of_nodup_map hchains hc' hc (by simpa using hsame)
  simp only [Db.latestClusters, hclusters, hchains.dedup, List.filterMap_map]
  exact (List.filterMap_congr hnewest).trans List.filterMap_some

/-- Triage leaves the coverage that the guard asks for. -/
theorem covered_of_triage {C : ClassificationHashes} {dbBefore dbTriaged : Db} {actor : ActorContext} {triagedAt : Instant}
    {batch : FailureClassificationBatch} (hm : MatchesSnapshot db s rs hs)
    (hop : Operable dbBefore actor s) (hmBefore : MatchesSnapshot dbBefore s rs hs) (hfresh : FreshIds dbBefore)
    (hnew : ∀ c ∈ dbBefore.clusters, c.resultSnapshotId ≠ s.id)
    (htriage : Commits (classifySnapshot C actor s.id triagedAt) dbBefore batch dbTriaged)
    (hkept : TriageKept s dbTriaged db) : Covered db s (unitInputs rs hs) := by
  obtain ⟨out, hout, -⟩ := (commits_classifySnapshot hop hmBefore).1 htriage
  have huntriaged : Untriaged s (signalGroups C (unitInputs rs hs)) dbBefore :=
    fun c hc hsnapshot => absurd hsnapshot (hnew c hc)
  have hformed := classifyGroups_commits hfresh huntriaged nodup_keys_collect hout
  have hchains := (classifyGroups_chains hfresh huntriaged nodup_keys_collect hout).2
  have hlatest : db.latestClusters s.id = out.map fun pair => pair.1 := by
    refine latestClusters_eq (clusters_kept hnew hformed hkept) ?_
    rwa [List.map_map]
  have hclusters := List.forall₂_map_right_iff.2 hformed.clusters
  have hunits := unitInputs_ids hm
  have hdistinct : ∀ c ∈ out.map fun pair => pair.1, c.affectedUnitResolutionRevisionIds.Nodup := by
    intro c hc
    obtain ⟨g, hg, hof⟩ := exists_group_of_cluster hclusters hc
    rw [hof.affected]
    exact hunits.sublist ((members_sublist hg).map _)
  constructor
  · rw [affectedIds, hlatest, List.nodup_flatMap]
    exact ⟨hdistinct, disjoint_of_clusters hunits hclusters⟩
  · intro id
    rw [affectedIds, hlatest, List.mem_flatMap]
    exact covers_of_clusters hunits hclusters id

/-! ### The decision -/

theorem requireCompletePairs_eq_ok {pairs : List GatePair}
    {full : List (FailureClusterRevision × FailureClassificationRevision)} :
    requireCompletePairs pairs = .ok full ↔ pairs = full.map fun p => (p.1, some p.2) := by
  induction pairs generalizing full with
  | nil =>
    simp only [requireCompletePairs, Except.ok.injEq]
    cases full <;> simp
  | cons pair pairs ih =>
    obtain ⟨cluster, judgment⟩ := pair
    cases judgment with
    | none => cases full <;> simp [requireCompletePairs]
    | some classification =>
      simp only [requireCompletePairs]
      cases hrest : requireCompletePairs pairs with
      | error e =>
        have hno : ∀ rest : List (FailureClusterRevision × FailureClassificationRevision),
            ¬ pairs = rest.map fun p => (p.1, some p.2) := fun rest h => by simpa [hrest] using ih.2 h
        cases full with
        | nil => simp [bind, Except.bind]
        | cons p full => simp [bind, Except.bind, hno full]
      | ok rest =>
        obtain rfl := ih.1 hrest
        cases full with
        | nil => simp [bind, Except.bind, pure, Except.pure]
        | cons p full =>
          have hinj : rest.map (fun p : FailureClusterRevision × FailureClassificationRevision => (p.1, some p.2)) =
              full.map (fun p => (p.1, some p.2)) ↔ rest = full := by
            refine List.map_inj_right ?_
            rintro ⟨a, b⟩ ⟨c, d⟩ h
            simpa using h
          simp [bind, Except.bind, pure, Except.pure, hinj, Prod.ext_iff, and_assoc]

/-- Judgments that are complete, and what the guard derives from them. -/
theorem notReady_complete (full : List (FailureClusterRevision × FailureClassificationRevision)) :
    notReadyClassificationCount (full.map fun p => (p.1, some p.2)) =
      (full.map fun p => p.2).countP fun c => !taskGateClassificationIsReady c := by
  rw [notReadyClassificationCount, List.countP_map, List.countP_map]
  congr 1
  funext p
  simp [guardReady_eq]

theorem expectedInputs_complete (full : List (FailureClusterRevision × FailureClassificationRevision)) :
    expectedInputs (full.map fun p => (p.1, some p.2)) = taskGateClassificationInputs full := by
  rw [expectedInputs, taskGateClassificationInputs, List.zipIdx_map, List.filterMap_map, ← List.filterMap_eq_map]
  rfl

/-- The tables of triage: judgments have their own identities and stay with the snapshot of their cluster. -/
structure GateTables (db : Db) : Prop where
  ids : (db.classifications.map fun c => c.id).Nodup
  bound : ∀ k ∈ db.classifications, ∀ c ∈ db.clusters, k.failureClusterRevisionId = c.id →
    k.resultSnapshotId = c.resultSnapshotId
  clusterIds : (db.clusters.map fun c => c.id).Nodup

theorem mem_latestClusters {c : FailureClusterRevision} {snapshotId : Uuid} (h : c ∈ db.latestClusters snapshotId) :
    c ∈ db.clusters ∧ c.resultSnapshotId = snapshotId := by
  simp only [Db.latestClusters, List.mem_filterMap] at h
  obtain ⟨id, -, hnewest⟩ := h
  have hmem := (List.mem_filter.1 (List.mem_filter.1 (Rows.newest_mem hnewest)).1)
  exact ⟨hmem.1, by simpa using hmem.2⟩

theorem nodup_latestClusters (snapshotId : Uuid) : (db.latestClusters snapshotId).Nodup := by
  refine List.Nodup.filterMap ?_ (List.nodup_dedup _)
  intro id id' c hc hc'
  have hid := (List.mem_filter.1 (Rows.newest_mem hc)).2
  have hid' := (List.mem_filter.1 (Rows.newest_mem hc')).2
  simp only [decide_eq_true_eq] at hid hid'
  rw [← hid, ← hid']

/-- The judgments of the current pairs may be evaluated: they are distinct and of this snapshot. -/
theorem GateTables.evaluates (h : GateTables db)
    {full : List (FailureClusterRevision × FailureClassificationRevision)}
    (hpairs : db.currentPairs s.id = full.map fun p => (p.1, some p.2)) :
    evaluateTaskGate s (full.map fun p => p.2) =
      .ok (taskGateVerdict (taskGateReasons s (full.map fun p => p.2)), taskGateReasons s (full.map fun p => p.2)) := by
  have hclusters : full.map (fun p => p.1) = (db.latestClusters s.id).mergeSort gateOrder := by
    have hmap := congrArg (List.map fun p : GatePair => p.1) hpairs
    simpa [Db.currentPairs, Function.comp_def] using hmap.symm
  have hjudged : ∀ p ∈ full, (p.1 ∈ db.clusters ∧ p.1.resultSnapshotId = s.id) ∧ p.2 ∈ db.classifications ∧
      p.2.failureClusterRevisionId = p.1.id := by
    intro p hp
    have hlatest : p.1 ∈ db.latestClusters s.id := by
      rw [← (List.mergeSort_perm (db.latestClusters s.id) gateOrder).mem_iff, ← hclusters]
      exact List.mem_map_of_mem hp
    have hpair : ((p.1, some p.2) : GatePair) ∈ db.currentPairs s.id := by
      rw [hpairs]
      exact List.mem_map_of_mem hp
    simp only [Db.currentPairs, List.mem_map, Prod.mk.injEq] at hpair
    obtain ⟨c, -, rfl, hjudgment⟩ := hpair
    have hmem := List.mem_filter.1 (Rows.newest_mem hjudgment)
    exact ⟨mem_latestClusters hlatest, hmem.1, by simpa using hmem.2⟩
  have hnodup : (full.map fun p => p.1).Nodup := by
    rw [hclusters]
    exact (List.mergeSort_perm _ _).nodup_iff.2 (nodup_latestClusters _)
  have hids : ((full.map fun p => p.2).map fun c => c.id).Nodup := by
    rw [List.map_map]
    refine List.Nodup.map_on ?_ hnodup.of_map
    intro p hp q hq hsame
    obtain ⟨⟨hpc, -⟩, hpk, hpid⟩ := hjudged p hp
    obtain ⟨⟨hqc, -⟩, hqk, hqid⟩ := hjudged q hq
    have hjudgment : p.2 = q.2 := Table.eq_of_key h.ids hpk hqk hsame
    have hcluster : p.1 = q.1 := Table.eq_of_key h.clusterIds hpc hqc (by rw [← hpid, ← hqid, hjudgment])
    exact Prod.ext hcluster hjudgment
  have hbound : ¬ ∃ c ∈ full.map (fun p => p.2), c.resultSnapshotId ≠ s.id := by
    rintro ⟨c, hc, hne⟩
    obtain ⟨p, hp, rfl⟩ := List.mem_map.1 hc
    obtain ⟨⟨hpc, hps⟩, hpk, hpid⟩ := hjudged p hp
    exact hne ((h.bound p.2 hpk p.1 hpc hpid).trans hps)
  rw [evaluateTaskGate, if_neg (not_not.2 hids), if_neg hbound]

section Decide

variable {setHash : ClassificationSetHash} {policyDigest : Digest} {gates : List TaskGateDecision}
  {tenantId actorId id taskGateId : Uuid} {now : Instant} {new : TaskGateDecision}

/-- Judgments that are all there pair with their clusters. -/
theorem complete_of_count {pairs : List GatePair} (h : pairs.length = pairs.countP fun p => p.2.isSome) :
    ∃ full, requireCompletePairs pairs = .ok full := by
  have hall := List.countP_eq_length.1 h.symm
  clear h
  induction pairs with
  | nil => exact ⟨[], rfl⟩
  | cons pair pairs ih =>
    obtain ⟨full, hfull⟩ := ih fun p hp => hall p (List.mem_cons_of_mem _ hp)
    obtain ⟨cluster, judgment⟩ := pair
    obtain ⟨classification, rfl⟩ := Option.isSome_iff_exists.1 (hall _ List.mem_cons_self)
    exact ⟨(cluster, classification) :: full, by simp [requireCompletePairs, hfull, bind, Except.bind, pure, Except.pure]⟩

/-- What the service derives from complete judgments is what the guard derives. -/
theorem GateTables.agrees (h : GateTables db)
    {full : List (FailureClusterRevision × FailureClassificationRevision)}
    (hpairs : db.currentPairs s.id = full.map fun p => (p.1, some p.2)) :
    evaluateTaskGate s (full.map fun p => p.2) =
      .ok (expectedDecision (expectedReasons s (notReadyClassificationCount (db.currentPairs s.id))),
        expectedReasons s (notReadyClassificationCount (db.currentPairs s.id))) := by
  rw [h.evaluates hpairs, hpairs, notReady_complete, expectedReasons_eq, expectedDecision_eq]

/-- A decision that the guard lets through is the one that the service would give now. -/
theorem guard_sound (hstored : db.getSnapshotById s.id = some s) (htables : GateTables db)
    (hnew : new.resultSnapshotId = s.id)
    (h : guardTaskGateDecision setHash policyDigest db gates tenantId actorId now new = none) :
    clusterCoverage db s = true ∧ ∃ full, requireCompletePairs (db.currentPairs s.id) = .ok full ∧
      evaluateTaskGate s (full.map fun p => p.2) = .ok (new.decision, new.reasons) := by
  unfold guardTaskGateDecision at h
  split at h
  · simp at h
  · rw [hnew, hstored] at h
    split at h
    · simp at h
    next snapshot hsnapshot =>
      obtain ⟨hs, -⟩ := Option.filter_eq_some_iff.1 hsnapshot
      obtain rfl : s = snapshot := Option.some.inj hs
      simp only [gateSnapshotViolation, firstViolation_cons] at h
      obtain ⟨-, hcoverage, hcomplete, -, hverdict, -⟩ := h
      simp only [Bool.not_eq_false', Bool.or_eq_false_iff, decide_eq_false_iff_not, not_not] at hcoverage hcomplete hverdict
      obtain ⟨full, hfull⟩ := complete_of_count hcomplete.1
      refine ⟨hcoverage, full, hfull, ?_⟩
      rw [htables.agrees (requireCompletePairs_eq_ok.1 hfull), hverdict.1, hverdict.2]

/-- The decisions of the Run are numbered from one and lie in its scope. -/
def GatesOf (s : TaskResultSnapshot) (gates : List TaskGateDecision) : Prop :=
  ∀ g ∈ gates, g.taskRunId = s.taskRunId → 1 ≤ g.revision ∧ g.tenantId = s.tenantId ∧ g.projectId = s.projectId

theorem gateChainValid_next (hgates : GatesOf s gates) (hrun : new.taskRunId = s.taskRunId)
    (htenant : new.tenantId = s.tenantId) (hproject : new.projectId = s.projectId)
    {previous : Option TaskGateDecision}
    (hprevious : Rows.newest (fun g => g.revision) (gates.filter fun g => g.taskRunId = s.taskRunId) = previous)
    (hchain : new.taskGateId = (previous.map fun g => g.taskGateId).getD taskGateId)
    (hrevision : new.revision = (previous.map fun g => g.revision + 1).getD 1)
    (hsupersedes : new.supersedesGateDecisionId = previous.map fun g => g.id) : gateChainValid gates new = true := by
  cases previous with
  | none =>
    simp only [Option.map_none, Option.getD_none] at hrevision hsupersedes
    simp [gateChainValid, hrevision, hsupersedes]
  | some g =>
    obtain ⟨hmem, hg⟩ := List.mem_filter.1 (Rows.newest_mem hprevious)
    obtain ⟨hone, hgtenant, hgproject⟩ := hgates g hmem (by simpa using hg)
    simp only [Option.map_some, Option.getD_some] at hchain hrevision hsupersedes
    have hlater : g.revision ≠ 0 := Nat.one_le_iff_ne_zero.1 hone
    simp [gateChainValid, hrevision, hlater, hrun, hprevious, hchain, hsupersedes, htenant, hproject, hgtenant,
      hgproject]

/-- The service evaluates the judgments of `db₀`; while they are the current ones, the guard at `db` tests the
coverage and nothing else. -/
theorem guard_of_evaluated {db₀ : Db} (hstored : db.getSnapshotById s.id = some s) (htables : GateTables db)
    (hrun : gateRunValid db s = true) (hgates : GatesOf s gates)
    (hsame : db.currentPairs s.id = db₀.currentPairs s.id)
    (h : evaluateSnapshot setHash policyDigest db₀ gates s id taskGateId actorId now = .ok new) :
    guardTaskGateDecision setHash policyDigest db gates s.tenantId actorId now new = none ↔
      clusterCoverage db s = true := by
  unfold evaluateSnapshot at h
  cases hfull : requireCompletePairs (db₀.currentPairs s.id) with
  | error e => simp [hfull, bind, Except.bind] at h
  | ok full =>
    have hpairs : db.currentPairs s.id = full.map fun p => (p.1, some p.2) :=
      hsame.trans (requireCompletePairs_eq_ok.1 hfull)
    simp only [hfull, htables.agrees hpairs, bind, Except.bind] at h
    split at h
    · have hnew := Except.ok.inj h
      have hgate : new.taskGateId = ((Rows.newest (fun g => g.revision)
          (gates.filter fun g => g.taskRunId = s.taskRunId)).map fun g => g.taskGateId).getD taskGateId := by
        rw [← hnew]
      have hchain : gateChainValid gates new = true :=
        gateChainValid_next hgates (by rw [← hnew]) (by rw [← hnew]) (by rw [← hnew]) rfl hgate (by rw [← hnew])
          (by rw [← hnew])
      have hcount : (db.currentPairs s.id).length = (db.currentPairs s.id).countP fun p => p.2.isSome := by
        rw [hpairs, List.countP_map]
        simp [Function.comp_def]
      have hids : (full.map fun p => p.2.id) = (db.currentPairs s.id).filterMap fun p => p.2.map fun c => c.id := by
        rw [hpairs, List.filterMap_map]
        simp
      have hinputs : taskGateClassificationInputs full = expectedInputs (db.currentPairs s.id) := by
        rw [hpairs, expectedInputs_complete]
      have hfilter : (db.getSnapshotById s.id).filter (fun s' => s'.taskRunId = s.taskRunId ∧
          s'.tenantId = s.tenantId ∧ s'.projectId = s.projectId) = some s := by simp [hstored]
      subst hnew
      unfold guardTaskGateDecision
      rw [if_neg (by simp), hfilter]
      simp only [gateSnapshotViolation, firstViolation_cons, firstViolation_nil, hrun, ← hcount, ← hids, ← hinputs,
        hchain]
      simp
    · simp at h

/-- The guard and the service decide alike: they count the same Units and judgments, the guard lets no decision
through that the service would not give, and once the snapshot is triaged it lets through every decision whose
judgments are still the current ones. -/
theorem guard_agrees_with_service (hstored : db.getSnapshotById s.id = some s) (hm : MatchesSnapshot db s rs hs)
    (ha : Aligned s rs hs) (htables : GateTables db) :
    (∀ c, guardReady c = taskGateClassificationIsReady c) ∧
    (∀ id, id ∈ expectedDiagnosticIds db s ↔
      ∃ r ∈ rs, isDiagnosticFailure r (hygieneByUnit hs r.executionUnitId) = true ∧ r.id = id) ∧
    (∀ full, requireCompletePairs (db.currentPairs s.id) = .ok full →
      evaluateTaskGate s (full.map fun p => p.2) =
        .ok (expectedDecision (expectedReasons s (notReadyClassificationCount (db.currentPairs s.id))),
          expectedReasons s (notReadyClassificationCount (db.currentPairs s.id)))) ∧
    (∀ setHash policyDigest gates tenantId actorId now, ∀ new : TaskGateDecision, new.resultSnapshotId = s.id →
      guardTaskGateDecision setHash policyDigest db gates tenantId actorId now new = none →
      ∃ full, requireCompletePairs (db.currentPairs s.id) = .ok full ∧
        evaluateTaskGate s (full.map fun p => p.2) = .ok (new.decision, new.reasons)) ∧
    ∀ C dbBefore actor triagedAt batch dbTriaged, Operable dbBefore actor s → MatchesSnapshot dbBefore s rs hs →
      FreshIds dbBefore → (∀ c ∈ dbBefore.clusters, c.resultSnapshotId ≠ s.id) →
      Commits (classifySnapshot C actor s.id triagedAt) dbBefore batch dbTriaged → TriageKept s dbTriaged db →
      ∀ setHash policyDigest gates actorId id taskGateId now db₀ new, gateRunValid db s = true → GatesOf s gates →
        evaluateSnapshot setHash policyDigest db₀ gates s id taskGateId actorId now = .ok new →
        db.currentPairs s.id = db₀.currentPairs s.id →
        guardTaskGateDecision setHash policyDigest db gates s.tenantId actorId now new = none := by
  refine ⟨guardReady_eq, fun id => ?_, ?_, ?_, ?_⟩
  · rw [mem_expectedDiagnosticIds hm ha]
    simp only [unitInputs, List.mem_map, exists_exists_and_eq_and]
    rfl
  · intro full hfull
    exact htables.agrees (requireCompletePairs_eq_ok.1 hfull)
  · intro setHash policyDigest gates tenantId actorId now new hnew h
    exact (guard_sound hstored htables hnew h).2
  · intro C dbBefore actor triagedAt batch dbTriaged hop hmBefore hfresh hnew htriage hkept
      setHash policyDigest gates actorId id taskGateId now db₀ new hrun hgates heval hsame
    rw [guard_of_evaluated hstored htables hrun hgates hsame heval, clusterCoverage_iff hm ha]
    exact covered_of_triage hm hop hmBefore hfresh hnew htriage hkept

end Decide

/-! The outage over two Units: triage stores one cluster with the judgment of the rule, the gate is evaluated
on both, and the guard lets the decision through. -/

namespace Outage

def twoUnits : TaskResultSnapshot := snapshot 2 (by decide) (by decide)

def triaged : Db := after (classifySnapshot hashes caller 0 9) (closed 2 (by decide) (by decide))

def setHash : ClassificationSetHash := fun _ inputs => BitVec.ofNat 256 inputs.length

def evaluated : Except Fault TaskGateDecision := evaluateSnapshot setHash 0#256 triaged [] twoUnits 41 42 1 12

theorem triaged_commits : ∃ batch, Commits (classifySnapshot hashes caller 0 9)
    (closed 2 (by decide) (by decide)) batch triaged := by
  rcases after_eq (classifySnapshot hashes caller 0 9) (closed 2 (by decide) (by decide)) with hsame | hcommits
  · exact absurd (congrArg (fun db => db.clusters.length) hsame) (by decide +kernel)
  · exact hcommits

theorem triaged_matches : MatchesSnapshot triaged twoUnits ((List.range 2).map resolution) [] where
  resolutions := by decide +kernel
  ids := by decide
  hygiene := rfl
  hygieneIds := rfl
  scope := matchesSnapshot.scope
  hygieneScope := by simp

theorem triaged_tables : GateTables triaged where
  ids := by decide +kernel
  bound := by decide +kernel
  clusterIds := by decide +kernel

end Outage

theorem outage_guard_agrees :
    (∀ id, id ∈ expectedDiagnosticIds Outage.triaged Outage.twoUnits ↔
      ∃ r ∈ (List.range 2).map Outage.resolution,
        isDiagnosticFailure r (hygieneByUnit [] r.executionUnitId) = true ∧ r.id = id) ∧
    ∃ new full, Outage.evaluated = .ok new ∧
      guardTaskGateDecision Outage.setHash 0#256 Outage.triaged [] 1 1 12 new = none ∧
      requireCompletePairs (Outage.triaged.currentPairs 0) = .ok full ∧ full.length = 1 ∧
      evaluateTaskGate Outage.twoUnits (full.map fun p => p.2) = .ok (new.decision, new.reasons) := by
  have hunits : (((List.range 2).map Outage.resolution).map fun r => r.executionUnitId).Nodup := by decide
  obtain ⟨-, hexpected, -, hsound, hkept⟩ := @guard_agrees_with_service Outage.triaged Outage.twoUnits _ _
    (by decide +kernel) Outage.triaged_matches ⟨hunits, fun h => absurd rfl h⟩ Outage.triaged_tables
  obtain ⟨batch, hcommits⟩ := Outage.triaged_commits
  obtain ⟨new, hnew, hsnapshot⟩ : ∃ new, Outage.evaluated = .ok new ∧ new.resultSnapshotId = 0 := by
    have hid : (Outage.evaluated.toOption.map fun new => new.resultSnapshotId) = some 0 := by decide +kernel
    cases hrun : Outage.evaluated with
    | error e =>
      rw [hrun] at hid
      cases hid
    | ok new =>
      rw [hrun] at hid
      exact ⟨new, rfl, Option.some.inj hid⟩
  have hguard : guardTaskGateDecision Outage.setHash 0#256 Outage.triaged [] 1 1 12 new = none :=
    hkept Outage.hashes _ Outage.caller 9 batch Outage.triaged Outage.operable Outage.matchesSnapshot
      Outage.freshIds (fun _ hc => absurd hc List.not_mem_nil) hcommits ⟨rfl, fun _ hk => hk⟩
      Outage.setHash 0#256 [] 1 41 42 12 Outage.triaged new (by decide +kernel)
      (fun _ hg => absurd hg List.not_mem_nil) hnew rfl
  obtain ⟨full, hfull, hsame⟩ := hsound Outage.setHash 0#256 [] 1 1 12 new hsnapshot hguard
  have hone : full.length = 1 := by
    have hlength := congrArg List.length (requireCompletePairs_eq_ok.1 hfull)
    have hcluster : (Outage.triaged.latestClusters Outage.twoUnits.id).length = 1 := by decide +kernel
    simpa [Db.currentPairs, List.length_mergeSort, hcluster] using hlength.symm
  exact ⟨hexpected, new, full, hnew, hguard, hfull, hone, hsame⟩

end Atlas.Proofs
