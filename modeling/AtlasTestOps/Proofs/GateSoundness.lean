import AtlasTestOps.Proofs.ResolutionWrites
import AtlasTestOps.Proofs.SnapshotChain
import AtlasTestOps.Result.Gate

/-! An accepted Gate is sound end to end. The Gate sees counters only; the invariant ties
every FULLY_RESOLVED or REEVALUATED snapshot to the stored resolutions it counted, and
every resolution to the terminal facts it was resolved from. -/

namespace Atlas.Proofs

open Atlas Atlas.Task Atlas.Result Atlas.Store Atlas.Service Txn Relation

/-! Histories of a Run. -/

/-- What the rest of the system may do: the Manifest is frozen, terminal facts and hygiene
rows are only added, and it writes no resolution and no snapshot. -/
structure Evolves (db db' : Db) : Prop where
  manifest : db'.manifest = db.manifest
  seals : db.seals ⊆ db'.seals
  closures : db.closures ⊆ db'.closures
  hygiene : db.hygieneResolutions ⊆ db'.hygieneResolutions
  resolutions : db'.resolutions = db.resolutions
  snapshots : db'.snapshots = db.snapshots

inductive HistoryStep (H : ResultHashes) (db : Db) : Db → Prop
  | resolve (unit : ExecutionUnit) (createdAt : Instant) :
      HistoryStep H db (after (resolveUnit H unit createdAt) db)
  | close (unit : ExecutionUnit) (attempt : UnitAttempt)
      (sourceStatus : AttemptClosureSourceStatus) (closureReason : String) (createdAt : Instant) :
      HistoryStep H db
        (after (closeWithoutSeal H unit attempt sourceStatus closureReason createdAt) db)
  | snapshot (c : SnapshotCall) : HistoryStep H db (after (c.op H) db)
  | evolve {db' : Db} (rest : Evolves db db') : HistoryStep H db db'

/-! The invariant. -/

/-- The revision was resolved from stored terminal facts of closed Attempts of its Unit. -/
structure ResolvedFrom (db : Db) (r : UnitResolutionRevision) (sources : List ResolutionSource)
    (decisive : ResolutionSource) : Prop where
  facts : ∀ s ∈ sources, FactOf db.seals db.closures s ∧ s.attempt.toUnitScope = r.toUnitScope
  closed : ∀ s ∈ sources, s.attempt.lifecycle = .closed
  last : sources.getLast? = some decisive
  sealIds : r.inputSealIds =
    (sources.filter fun s => s.factKind = .attemptSeal).map fun s => s.factId
  closureIds : r.inputClosureNoticeIds =
    (sources.filter fun s => s.factKind = .closureNotice).map fun s => s.factId
  verdict : r.effectiveVerdict = decisive.effectiveVerdict
  axes : r.toResultAxes = decisive.toResultAxes
  decisiveAttempt : r.decisiveUnitAttemptId = decisive.attempt.id
  stability : r.stability = resolveStability sources

/-- The snapshot counts these resolutions and hygiene rows, one of each for every cell. -/
structure Grounded (db : Db) (s : TaskResultSnapshot) (rs : List UnitResolutionRevision)
    (hs : List UnitHygieneResolutionRevision) : Prop where
  resolutions : rs ⊆ db.resolutions
  hygiene : hs ⊆ db.hygieneResolutions
  ids : s.unitResolutionRevisionIds = rs.map fun r => r.id
  hygieneIds : s.unitHygieneResolutionRevisionIds = some (hs.map fun h => h.id)
  cells : (rs.map fun r => r.unitKey) = db.manifest.units.map fun cell => cell.unitKey
  units : (hs.map fun h => h.executionUnitId) = rs.map fun r => r.executionUnitId
  verdicts : Tallied rs s.verdictCounts
  axes : s.axisDistributions = axisDistributions rs (hs.map fun h => h.dataHygiene)

structure Sound (db : Db) : Prop where
  resolutions : ∀ r ∈ db.resolutions, ∃ sources decisive, ResolvedFrom db r sources decisive
  snapshots : ∀ s ∈ db.snapshots, s.finality ≠ .qualityFinal →
    ∃ rs hs, Grounded db s rs hs

/-- Nothing that a resolution or a snapshot rests on is taken away. -/
structure Grows (db db' : Db) : Prop where
  manifest : db'.manifest = db.manifest
  seals : db.seals ⊆ db'.seals
  closures : db.closures ⊆ db'.closures
  hygiene : db.hygieneResolutions ⊆ db'.hygieneResolutions
  resolutions : db.resolutions ⊆ db'.resolutions

section Keeps

variable {H : ResultHashes} {db db' : Db} {run : TaskRun} {manifest : TaskRunManifest}
  {createdAt : Instant} {s : TaskResultSnapshot}

theorem ResolvedFrom.mono {r : UnitResolutionRevision} {sources : List ResolutionSource}
    {decisive : ResolutionSource} (h : ResolvedFrom db r sources decisive) (hg : Grows db db') :
    ResolvedFrom db' r sources decisive :=
  { h with facts := fun s hs => ⟨(h.facts s hs).1.mono hg.seals hg.closures, (h.facts s hs).2⟩ }

theorem Grounded.mono {rs : List UnitResolutionRevision}
    {hs : List UnitHygieneResolutionRevision} (h : Grounded db s rs hs) (hg : Grows db db') :
    Grounded db' s rs hs :=
  { h with
    resolutions := List.Subset.trans h.resolutions hg.resolutions
    hygiene := List.Subset.trans h.hygiene hg.hygiene
    cells := hg.manifest ▸ h.cells }

/-- The invariant after a step that adds at most one resolution and one snapshot. -/
theorem Sound.step (h : Sound db) (hg : Grows db db')
    (hres : ∀ r ∈ db'.resolutions, r ∈ db.resolutions ∨
      ∃ sources decisive, ResolvedFrom db' r sources decisive)
    (hsnap : ∀ s ∈ db'.snapshots, s ∈ db.snapshots ∨ s.finality = .qualityFinal ∨
      ∃ rs hs, Grounded db' s rs hs) : Sound db' where
  resolutions := by
    intro r hr
    rcases hres r hr with hold | hnew
    · obtain ⟨sources, decisive, hfrom⟩ := h.resolutions r hold
      exact ⟨sources, decisive, hfrom.mono hg⟩
    · exact hnew
  snapshots := by
    intro s hmem hfin
    rcases hsnap s hmem with hold | hquality | hnew
    · obtain ⟨rs, hs, hgrounded⟩ := h.snapshots s hold hfin
      exact ⟨rs, hs, hgrounded.mono hg⟩
    · exact absurd hquality hfin
    · exact hnew

/-! Resolutions. -/

theorem ResolutionAppended.resolvedFrom {unit : ExecutionUnit} {r : UnitResolutionRevision}
    (h : ResolutionAppended H unit db r db') :
    ∃ sources decisive, ResolvedFrom db' r sources decisive := by
  obtain ⟨sources, decisive, id, resolutionId, createdAt, hsources, hlast, hcontent⟩ := h.content
  obtain ⟨nextId, rfl⟩ := h.state
  have hscope : r.toUnitScope = unit.toUnitScope := by rw [hcontent]; rfl
  refine ⟨sources, decisive, ?_⟩
  exact
    { facts := fun s hs => ⟨(hsources.facts s hs).1, by rw [(hsources.facts s hs).2, hscope]⟩
      closed := fun s hs => by
        have hmem : s.attempt ∈ sources.map fun s => s.attempt := List.mem_map_of_mem hs
        rw [hsources.attempts, List.mem_filter] at hmem
        simpa using hmem.2
      last := hlast
      sealIds := by rw [hcontent]; rfl
      closureIds := by rw [hcontent]; rfl
      verdict := by rw [hcontent]; rfl
      axes := by rw [hcontent]; rfl
      decisiveAttempt := by rw [hcontent]; rfl
      stability := by rw [hcontent]; rfl }

theorem resolveUnit_keeps {unit : ExecutionUnit} {r : UnitResolutionRevision}
    (h : Commits (resolveUnit H unit createdAt) db r db') (hsound : Sound db) : Sound db' := by
  rcases resolveUnit_commits h with ⟨-, rfl⟩ | hwrite
  · exact hsound
  have hfrom := hwrite.resolvedFrom
  obtain ⟨nextId, rfl⟩ := hwrite.state
  refine hsound.step ⟨rfl, List.Subset.refl _, List.Subset.refl _, List.Subset.refl _,
    List.subset_append_left _ _⟩ ?_ fun s hs => .inl hs
  intro t ht
  rcases List.mem_append.1 ht with ht | ht
  · exact .inl ht
  · rw [List.mem_singleton.1 ht]
    exact .inr hfrom

theorem closeWithoutSeal_keeps {unit : ExecutionUnit} {attempt : UnitAttempt}
    {sourceStatus : AttemptClosureSourceStatus} {closureReason : String}
    {r : UnitResolutionRevision}
    (h : Commits (closeWithoutSeal H unit attempt sourceStatus closureReason createdAt) db r db')
    (hsound : Sound db) : Sound db' := by
  obtain ⟨-, -, -, -, m, hplace, hresolve⟩ := closeWithoutSeal_commits h
  refine resolveUnit_keeps hresolve ?_
  cases hplace with
  | stored => exact hsound
  | written =>
    exact hsound.step ⟨rfl, List.Subset.refl _, List.subset_append_left _ _, List.Subset.refl _,
      List.Subset.refl _⟩ (fun r hr => .inl hr) fun s hs => .inl hs

/-! Snapshots. -/

theorem unitsCovered_keys {ordinal : ℕ} {cells : List ExecutionUnitManifest}
    {units : List ExecutionUnit} {resolutions : List UnitResolutionRevision}
    (h : unitsCovered run ordinal cells units resolutions = true)
    (hunits : units.length = cells.length) (hres : resolutions.length = cells.length) :
    (resolutions.map fun r => r.unitKey) = (cells.map fun cell => cell.unitKey) ∧
      (resolutions.map fun r => r.executionUnitId) = units.map fun u => u.id := by
  induction cells generalizing ordinal units resolutions with
  | nil =>
    rw [List.length_nil, List.length_eq_zero_iff] at hunits hres
    simp [hunits, hres]
  | cons cell cells ih =>
    cases units with
    | nil => simp at hunits
    | cons unit units =>
      cases resolutions with
      | nil => simp at hres
      | cons resolution resolutions =>
        simp only [unitsCovered, unitCovered, Bool.and_eq_true, decide_eq_true_eq] at h
        obtain ⟨⟨-, -, hcell, -, -, -, hunit, hkey⟩, hrest⟩ := h
        obtain ⟨hkeys, hids⟩ := ih hrest (by simpa using hunits) (by simpa using hres)
        simp only [List.map_cons, hkeys, hids, hunit, hkey, hcell, and_self]

theorem hygieneCovered_ids {units : List ExecutionUnit}
    {hygiene : List UnitHygieneResolutionRevision} (h : hygieneCovered run units hygiene = true)
    (hlength : hygiene.length = units.length) :
    (hygiene.map fun row => row.executionUnitId) = units.map fun u => u.id := by
  induction units generalizing hygiene with
  | nil =>
    rw [List.length_nil, List.length_eq_zero_iff] at hlength
    simp [hlength]
  | cons unit units ih =>
    cases hygiene with
    | nil => simp at hlength
    | cons row hygiene =>
      simp only [hygieneCovered, Bool.and_eq_true, decide_eq_true_eq] at h
      obtain ⟨⟨-, hunit, -⟩, hrest⟩ := h
      simp only [List.map_cons, hunit, ih hrest (by simpa using hlength)]

theorem listLatestResolutions_subset : db.listLatestResolutions ⊆ db.resolutions := by
  intro r hr
  simp only [Db.listLatestResolutions, List.mem_filterMap, Option.filter_eq_some_iff] at hr
  obtain ⟨u, -, hlatest, -⟩ := hr
  exact (List.mem_filter.1 (Rows.newest_mem hlatest)).1

theorem listLatestHygieneResolutions_subset :
    db.listLatestHygieneResolutions ⊆ db.hygieneResolutions := by
  intro h hh
  simp only [Db.listLatestHygieneResolutions, List.mem_filterMap,
    Option.filter_eq_some_iff] at hh
  obtain ⟨u, -, hlatest, -⟩ := hh
  exact (List.mem_filter.1 (Rows.newest_mem hlatest)).1

theorem FullAppended.grounded {quality : TaskResultSnapshot}
    (h : FullAppended H run db.manifest quality db s db') :
    ∃ rs hs, Grounded db' s rs hs := by
  obtain ⟨counts, watermark, id, createdAt, htally, hcontent⟩ := h.content
  obtain ⟨hkeys, hids⟩ :=
    unitsCovered_keys h.inputs.covered h.inputs.units h.inputs.resolutions
  have hhygiene := hygieneCovered_ids h.covered (h.hygiene.trans h.inputs.units.symm)
  obtain ⟨nextId, rfl⟩ := h.state
  refine ⟨db.listLatestResolutions, db.listLatestHygieneResolutions, ?_⟩
  exact
    { resolutions := listLatestResolutions_subset
      hygiene := listLatestHygieneResolutions_subset
      ids := by rw [hcontent]; rfl
      hygieneIds := by rw [hcontent]; rfl
      cells := hkeys
      units := hhygiene.trans hids.symm
      verdicts := by rw [hcontent]; exact htally
      axes := by rw [hcontent]; rfl }

/-- A snapshot is written on top of an otherwise unchanged state. -/
theorem Sound.append_snapshot (h : Sound db) (hg : Grows db db')
    (hres : db'.resolutions = db.resolutions) (hsnap : db'.snapshots = db.snapshots ++ [s])
    (hnew : s.finality = .qualityFinal ∨ ∃ rs hs, Grounded db' s rs hs) :
    Sound db' := by
  refine h.step hg (fun r hr => .inl (hres ▸ hr)) fun t ht => ?_
  rw [hsnap] at ht
  rcases List.mem_append.1 ht with ht | ht
  · exact .inl ht
  · rw [List.mem_singleton.1 ht]
    exact .inr hnew

theorem snapshotTask_sound (h : Commits (snapshotTask H run manifest createdAt) db s db')
    (hsound : Sound db) : Sound db' ∧ db'.manifest = db.manifest := by
  obtain ⟨-, -, ⟨-, rfl⟩ | hwrite⟩ := snapshotTask_commits h
  · exact ⟨hsound, rfl⟩
  · have hfin := hwrite.follows.1
    obtain ⟨nextId, rfl⟩ := hwrite.state
    refine ⟨hsound.append_snapshot (s := s) ⟨rfl, List.Subset.refl _, List.Subset.refl _,
      List.Subset.refl _, List.Subset.refl _⟩ rfl rfl (.inl hfin), rfl⟩

theorem fullyResolved_sound {answer : Option TaskResultSnapshot}
    (h : Commits (snapshotTaskFullyResolved H run db.manifest createdAt) db answer db')
    (hsound : Sound db) : Sound db' := by
  obtain ⟨-, rfl⟩ | ⟨quality, m, hquality, houtcome⟩ := snapshotTaskFullyResolved_commits h
  · exact hsound
  obtain ⟨hm, hmanifest⟩ := snapshotTask_sound hquality hsound
  cases houtcome with
  | waiting => exact hm
  | replayed => exact hm
  | appended hwrite =>
    rw [← hmanifest] at hwrite
    have hgrounded := hwrite.grounded
    obtain ⟨nextId, rfl⟩ := hwrite.state
    exact hm.append_snapshot ⟨rfl, List.Subset.refl _, List.Subset.refl _, List.Subset.refl _,
      List.Subset.refl _⟩ rfl rfl (.inr hgrounded)

/-- A re-evaluation counts what its source counted. -/
theorem ReevaluationAppended.grounded {sourceId : Uuid} {source latest : TaskResultSnapshot}
    (h : ReevaluationAppended sourceId source latest db s db') (hsound : Sound db) :
    ∃ rs hs, Grounded db' s rs hs := by
  obtain ⟨rs, hs, hsource⟩ := hsound.snapshots source
    (getSnapshotById_mem h.found).1 (by simp [h.finality])
  obtain ⟨id, commandId, now, hcontent⟩ := h.content
  obtain ⟨commands, idempotency, nextId, rfl⟩ := h.state
  refine ⟨rs, hs, ?_⟩
  exact
    { resolutions := hsource.resolutions
      hygiene := hsource.hygiene
      ids := by rw [hcontent]; exact hsource.ids
      hygieneIds := by rw [hcontent]; exact hsource.hygieneIds
      cells := hsource.cells
      units := hsource.units
      verdicts := by rw [hcontent]; exact hsource.verdicts
      axes := by rw [hcontent]; exact hsource.axes }

theorem reevaluate_sound {actor : ActorContext} {taskRunId : Uuid}
    {request : RequestTaskResultReevaluation} {key : String} {requestHash : Digest}
    {now : Instant} {answer : CommandResult}
    (h : Commits (reevaluate H actor taskRunId request key requestHash now) db answer db')
    (hsound : Sound db) : Sound db' := by
  have hsame (idempotency : List IdempotencyRecord) :
      Sound { db with idempotency := idempotency } :=
    hsound.step ⟨rfl, List.Subset.refl _, List.Subset.refl _, List.Subset.refl _,
      List.Subset.refl _⟩ (fun r hr => .inl hr) fun s hs => .inl hs
  cases reevaluate_commits h with
  | cached => exact hsame _
  | existing => exact hsame _
  | appended hwrite =>
    have hgrounded := hwrite.grounded hsound
    obtain ⟨commands, idempotency, nextId, rfl⟩ := hwrite.state
    exact hsound.append_snapshot ⟨rfl, List.Subset.refl _, List.Subset.refl _,
      List.Subset.refl _, List.Subset.refl _⟩ rfl rfl (.inr hgrounded)

theorem snapshotCall_sound {c : SnapshotCall} {answer : Option TaskResultSnapshot}
    (h : Commits (c.op H) db answer db') (hsound : Sound db) : Sound db' := by
  cases c with
  | quality createdAt =>
    simp only [SnapshotCall.op, commits_bind, commits_read, commits_map] at h
    obtain ⟨_, _, ⟨rfl, rfl⟩, s, hs, rfl⟩ := h
    exact (snapshotTask_sound hs hsound).1
  | fullyResolved createdAt =>
    simp only [SnapshotCall.op, commits_bind, commits_read] at h
    obtain ⟨_, _, ⟨rfl, rfl⟩, hs⟩ := h
    exact fullyResolved_sound hs hsound
  | reevaluate actor taskRunId request key requestHash now =>
    simp only [SnapshotCall.op, commits_map] at h
    obtain ⟨s, hs, rfl⟩ := h
    exact reevaluate_sound hs hsound

theorem historyStep_sound (h : HistoryStep H db db') (hsound : Sound db) : Sound db' := by
  cases h with
  | resolve unit createdAt =>
    rcases after_eq (resolveUnit H unit createdAt) db with hsame | ⟨r, hc⟩
    · rwa [hsame]
    · exact resolveUnit_keeps hc hsound
  | close unit attempt sourceStatus closureReason createdAt =>
    rcases after_eq (closeWithoutSeal H unit attempt sourceStatus closureReason createdAt) db
      with hsame | ⟨r, hc⟩
    · rwa [hsame]
    · exact closeWithoutSeal_keeps hc hsound
  | snapshot c =>
    rcases after_eq (c.op H) db with hsame | ⟨answer, hc⟩
    · rwa [hsame]
    · exact snapshotCall_sound hc hsound
  | evolve rest =>
    exact hsound.step ⟨rest.manifest, rest.seals, rest.closures, rest.hygiene,
      fun r hr => rest.resolutions ▸ hr⟩ (fun r hr => .inl (rest.resolutions ▸ hr))
      fun s hs => .inl (rest.snapshots ▸ hs)

end Keeps

theorem sound_of_history {H : ResultHashes} {db₀ db : Db} (hres : db₀.resolutions = [])
    (hsnap : db₀.snapshots = []) (hrun : ReflTransGen (HistoryStep H) db₀ db) : Sound db := by
  have hinit : Sound db₀ := ⟨by simp [hres], by simp [hsnap]⟩
  exact run_keeps (I := Sound) (fun _ _ => historyStep_sound) hrun hinit

/-! From the counters of an accepted snapshot back to its Units. -/

/-- No counter that the Gate looks at has counted anything. -/
structure Clear (s : TaskResultSnapshot) : Prop where
  finality : s.finality ≠ .qualityFinal
  failed : s.verdictCounts.failed = 0
  inconclusive : s.verdictCounts.inconclusive = 0
  notEvaluated : s.verdictCounts.notEvaluated = 0
  hygiene : s.axisDistributions.dataHygiene.pending = 0 ∧
    s.axisDistributions.dataHygiene.cleanupFailed = 0 ∧ s.axisDistributions.dataHygiene.leaked = 0
  influence : s.axisDistributions.executionInfluence.manualAssisted = 0 ∧
    s.axisDistributions.executionInfluence.manualOnly = 0
  stability : s.axisDistributions.stability.unknown = 0 ∧
    s.axisDistributions.stability.infraRecovered = 0 ∧
    s.axisDistributions.stability.flakySuspect = 0 ∧
    s.axisDistributions.stability.flakyConfirmed = 0

theorem clear_of_accepted {s : TaskResultSnapshot}
    {classifications : List FailureClassificationRevision} {reasons : List TaskGateReason}
    (h : evaluateTaskGate s classifications = .ok (.accepted, reasons)) : Clear s := by
  have hzero := counts_zero_of_accepted h
  simp only [taskGateCounts, List.forall_mem_cons, Nat.add_eq_zero_iff] at hzero
  obtain ⟨-, ⟨hpending, hcleanup⟩, hleak, -, -, hfailed, hinconclusive, hinfluence,
    hnotEvaluated, hfinality, ⟨⟨⟨hunknown, hinfra⟩, hsuspect⟩, hconfirmed⟩, -⟩ := hzero
  exact
    { finality := fun hq => by simp [hq] at hfinality
      failed := hfailed
      inconclusive := hinconclusive
      notEvaluated := hnotEvaluated
      hygiene := ⟨hpending, hcleanup, hleak⟩
      influence := hinfluence
      stability := ⟨hunknown, hinfra, hsuspect, hconfirmed⟩ }

section Units

variable {db : Db} {s : TaskResultSnapshot} {rs : List UnitResolutionRevision}
  {hs : List UnitHygieneResolutionRevision} {r : UnitResolutionRevision}

private theorem not_counted {α : Type} {p : α → Bool} {rows : List α} (h : rows.countP p = 0)
    {a : α} (ha : a ∈ rows) : p a = false :=
  Bool.eq_false_iff.2 (List.countP_eq_zero.1 h a ha)

theorem Grounded.passed (hg : Grounded db s rs hs) (hc : Clear s) (hr : r ∈ rs) :
    r.effectiveVerdict = .passed := by
  have hpending := not_counted hg.verdicts.pending hr
  have hfailed := not_counted (hg.verdicts.failed ▸ hc.failed) hr
  have hinconclusive := not_counted (hg.verdicts.inconclusive ▸ hc.inconclusive) hr
  have hnotEvaluated := not_counted (hg.verdicts.notEvaluated ▸ hc.notEvaluated) hr
  cases hv : r.effectiveVerdict <;> simp_all

theorem Grounded.stable (hg : Grounded db s rs hs) (hc : Clear s) (hr : r ∈ rs) :
    r.stability = .stable := by
  obtain ⟨hunknown, hinfra, hsuspect, hconfirmed⟩ := hc.stability
  rw [hg.axes] at hunknown hinfra hsuspect hconfirmed
  have hunknown := not_counted hunknown hr
  have hinfra := not_counted hinfra hr
  have hsuspect := not_counted hsuspect hr
  have hconfirmed := not_counted hconfirmed hr
  cases hv : r.stability <;> simp_all

theorem Grounded.autonomous (hg : Grounded db s rs hs) (hc : Clear s) (hr : r ∈ rs) :
    r.executionInfluence = .autonomous := by
  obtain ⟨hassisted, honly⟩ := hc.influence
  rw [hg.axes] at hassisted honly
  have hassisted := not_counted hassisted hr
  have honly := not_counted honly hr
  cases hv : r.executionInfluence <;> simp_all

theorem Grounded.clean (hg : Grounded db s rs hs) (hc : Clear s)
    {h : UnitHygieneResolutionRevision} (hh : h ∈ hs) :
    h.dataHygiene = .cleaned ∨ h.dataHygiene = .notApplicable := by
  obtain ⟨hpending, hcleanup, hleaked⟩ := hc.hygiene
  rw [hg.axes] at hpending hcleanup hleaked
  have hmem : h.dataHygiene ∈ hs.map fun h => h.dataHygiene := List.mem_map_of_mem hh
  have hpending := List.count_eq_zero.1 hpending
  have hcleanup := List.count_eq_zero.1 hcleanup
  have hleaked := List.count_eq_zero.1 hleaked
  cases hv : h.dataHygiene <;> simp_all

/-- A stable resolution of a passed Attempt hides no Attempt that did not pass. -/
theorem all_passed_of_stable {sources : List ResolutionSource} {decisive : ResolutionSource}
    (hlast : sources.getLast? = some decisive) (hpassed : decisive.effectiveVerdict = .passed)
    (hstable : resolveStability sources = .stable) :
    ∀ source ∈ sources, source.effectiveVerdict = .passed := by
  have hverdict : (sources.map fun source => source.effectiveVerdict).getLast? = some .passed := by
    rw [List.getLast?_map, hlast, Option.map_some, hpassed]
  have hmem : Verdict.passed ∈ sources.map fun source => source.effectiveVerdict :=
    List.mem_of_getLast? hverdict
  simp only [resolveStability, hverdict, true_and, true_or, if_true] at hstable
  split_ifs at hstable with hone hflaky hinfra hall hfailed hsame hmixed
  · obtain ⟨source, rfl⟩ := List.length_eq_one_iff.1 hone
    simp only [List.getLast?_singleton, Option.some.injEq] at hlast
    simpa [hlast] using hpassed
  · exact fun source hsource => hall _ (List.mem_map_of_mem hsource)
  · exact absurd (hfailed _ hmem) (by decide)

/-- A source that passed is a Seal with complete and verified evidence. -/
theorem FactOf.passed {seals : List AttemptSeal} {closures : List AttemptClosureNotice}
    {source : ResolutionSource} (h : FactOf seals closures source)
    (hpassed : source.effectiveVerdict = .passed) :
    source.factKind = .attemptSeal ∧ ∃ fact ∈ seals, fact.sealId = source.factId ∧
      fact.unitAttemptId = source.attempt.id ∧ fact.oracleVerdict = .passed ∧
      fact.evidenceCompleteness = .complete ∧ fact.evidenceIntegrity = .verified ∧
      source.toResultAxes = fact.toResultAxes := by
  cases h with
  | attemptSeal fact stored scope names kind id axes verdict =>
    rw [verdict, effectiveVerdict] at hpassed
    split_ifs at hpassed with hevidence
    obtain ⟨hcomplete, hverified⟩ := fact.evidence_of_passed hpassed
    exact ⟨kind, fact, stored, id.symm, names, hpassed, hcomplete, hverified, axes⟩
  | closureNotice notice stored scope names kind id axes verdict =>
    exact absurd (verdict ▸ hpassed) notice.verdict_ne_passed

/-- Every Attempt that the resolution reads was closed and carries an accepted Seal. -/
structure SealedInputs (db : Db) (r : UnitResolutionRevision) (sources : List ResolutionSource)
    (decisive : ResolutionSource) : Prop where
  resolved : ResolvedFrom db r sources decisive
  noClosures : r.inputClosureNoticeIds = []
  seals : ∀ source ∈ sources, ∃ fact ∈ db.seals, fact.sealId = source.factId ∧
    fact.unitAttemptId = source.attempt.id ∧ fact.oracleVerdict = .passed ∧
    fact.evidenceCompleteness = .complete ∧ fact.evidenceIntegrity = .verified ∧
    source.toResultAxes = fact.toResultAxes

theorem ResolvedFrom.sealedInputs {sources : List ResolutionSource} {decisive : ResolutionSource}
    (h : ResolvedFrom db r sources decisive) (hpassed : r.effectiveVerdict = .passed)
    (hstable : r.stability = .stable) : SealedInputs db r sources decisive := by
  have hall := all_passed_of_stable h.last (h.verdict ▸ hpassed) (h.stability ▸ hstable)
  refine ⟨h, ?_, fun source hsource => ((h.facts source hsource).1.passed (hall source hsource)).2⟩
  rw [h.closureIds, List.map_eq_nil_iff, List.filter_eq_nil_iff]
  intro source hsource
  simp [((h.facts source hsource).1.passed (hall source hsource)).1]

/-- What an accepted Gate says about one cell of the Manifest. -/
structure AcceptedUnit (db : Db) (cell : ExecutionUnitManifest) (r : UnitResolutionRevision)
    (h : UnitHygieneResolutionRevision) : Prop where
  cell : r.unitKey = cell.unitKey
  unit : h.executionUnitId = r.executionUnitId
  inputs : ∃ sources decisive, SealedInputs db r sources decisive ∧
    decisive.executionInfluence = .autonomous
  hygiene : h.dataHygiene = .cleaned ∨ h.dataHygiene = .notApplicable
  diagnostic : isDiagnosticFailure r (some h) = false

theorem Grounded.accepted (hg : Grounded db s rs hs) (hc : Clear s) (hsound : Sound db)
    {cell : ExecutionUnitManifest} {h : UnitHygieneResolutionRevision} (hr : r ∈ rs) (hh : h ∈ hs)
    (hcell : r.unitKey = cell.unitKey) (hunit : h.executionUnitId = r.executionUnitId) :
    AcceptedUnit db cell r h := by
  obtain ⟨sources, decisive, hfrom⟩ := hsound.resolutions r (hg.resolutions hr)
  have hpassed := hg.passed hc hr
  have hstable := hg.stable hc hr
  have hinputs := hfrom.sealedInputs hpassed hstable
  obtain ⟨fact, -, -, -, -, hcomplete, hverified, haxes⟩ :=
    hinputs.seals decisive (List.mem_of_getLast? hfrom.last)
  have hraxes : r.toResultAxes = fact.toResultAxes := hfrom.axes.trans haxes
  refine ⟨hcell, hunit, ⟨sources, decisive, hinputs, ?_⟩, hg.clean hc hh, ?_⟩
  · have hautonomous := hg.autonomous hc hr
    rwa [hfrom.axes] at hautonomous
  · have hclean : h.dataHygiene ≠ .cleanupFailed ∧ h.dataHygiene ≠ .leaked := by
      rcases hg.clean hc hh with hh | hh <;> simp [hh]
    simp [isDiagnosticFailure, effectiveHygiene, hpassed, hstable, hclean, hraxes, hcomplete,
      hverified]

end Units

private theorem eq_of_mem_zip {α β γ : Type} {f : α → γ} {g : β → γ} {as : List α} {bs : List β}
    (h : as.map f = bs.map g) {a : α} {b : β} (hmem : (a, b) ∈ as.zip bs) : f a = g b := by
  induction as generalizing bs with
  | nil => simp at hmem
  | cons c as ih =>
    cases bs with
    | nil => simp at hmem
    | cons d bs =>
      simp only [List.map_cons, List.cons.injEq] at h
      rcases List.mem_cons.1 hmem with heq | hmem
      · simp only [Prod.mk.injEq] at heq
        rw [heq.1, heq.2, h.1]
      · exact ih h.2 hmem

/-- Whatever the history, a snapshot that the Gate accepts is final, and every cell of the
Manifest has a resolution over sealed, passed Attempts with complete and verified evidence,
a decisive Attempt that ran on its own, clean data and nothing to triage. -/
theorem gate_acceptance_sound {H : ResultHashes} {db₀ db : Db} (hres : db₀.resolutions = [])
    (hsnap : db₀.snapshots = []) (hrun : ReflTransGen (HistoryStep H) db₀ db)
    {s : TaskResultSnapshot} (hs : s ∈ db.snapshots)
    {classifications : List FailureClassificationRevision} {reasons : List TaskGateReason}
    (haccepted : evaluateTaskGate s classifications = .ok (.accepted, reasons)) :
    (s.finality = .fullyResolved ∨ s.finality = .reevaluated) ∧
    ∃ rs hygiene,
      s.unitResolutionRevisionIds = (rs.map fun r => r.id) ∧
      s.unitHygieneResolutionRevisionIds = some (hygiene.map fun h => h.id) ∧
      rs ⊆ db.resolutions ∧ hygiene ⊆ db.hygieneResolutions ∧
      rs.length = db.manifest.units.length ∧ hygiene.length = db.manifest.units.length ∧
      ∀ cell r h, (cell, r, h) ∈ db.manifest.units.zip (rs.zip hygiene) →
        AcceptedUnit db cell r h := by
  have hsound := sound_of_history hres hsnap hrun
  have hclear := clear_of_accepted haccepted
  refine ⟨?_, ?_⟩
  · cases hfin : s.finality with
    | qualityFinal => exact absurd hfin hclear.finality
    | fullyResolved => exact .inl rfl
    | reevaluated => exact .inr rfl
  obtain ⟨rs, hygiene, hg⟩ := hsound.snapshots s hs hclear.finality
  have hrs : rs.length = db.manifest.units.length := by
    simpa using congrArg List.length hg.cells
  have hhygiene : hygiene.length = rs.length := by simpa using congrArg List.length hg.units
  refine ⟨rs, hygiene, hg.ids, hg.hygieneIds, hg.resolutions, hg.hygiene, hrs,
    hhygiene.trans hrs, fun cell r h hmem => ?_⟩
  have hpair : (r, h) ∈ rs.zip hygiene := (List.of_mem_zip hmem).2
  have hunit : h.executionUnitId = r.executionUnitId :=
    (eq_of_mem_zip hg.units.symm hpair).symm
  have hkeys : (db.manifest.units.map fun cell => cell.unitKey) =
      (rs.zip hygiene).map fun p => p.1.unitKey := by
    have hfst : (rs.zip hygiene).map Prod.fst = rs := List.map_fst_zip hhygiene.ge
    calc (db.manifest.units.map fun cell => cell.unitKey)
        = rs.map fun r => r.unitKey := hg.cells.symm
      _ = ((rs.zip hygiene).map Prod.fst).map fun r => r.unitKey := by rw [hfst]
      _ = (rs.zip hygiene).map fun p => p.1.unitKey := List.map_map
  have hcell : r.unitKey = cell.unitKey := (eq_of_mem_zip hkeys hmem).symm
  exact hg.accepted hclear hsound (List.of_mem_zip hpair).1 (List.of_mem_zip hpair).2 hcell hunit

namespace CleanRun

def attempt : UnitAttempt :=
  { LateCleanup.scope, LateCleanup.closedState with
    executionUnitId := 4
    unitKey := 0#256
    id := 24
    caseVersionId := 11
    attemptNumber := 1
    temporalNamespace := none
    temporalWorkflowId := none
    queuedAt := 0
    executionDeadline := 100
    createdAt := 0 }

def fact : AttemptSeal where
  toUnitScope := attempt.toUnitScope
  outcomeClass := .business
  closureReason := "ALL_ORACLES_PASSED"
  dataHygiene := .cleaned
  evidenceCompleteness := .complete
  evidenceIntegrity := .verified
  executionInfluence := .autonomous
  sealId := 23
  unitAttemptId := 24
  manifestId := 3
  executionTicketId := 25
  executionTicketDigest := 0#256
  oracleVerdict := .passed
  oracleResultsHash := 0#256
  evidencePolicyDigest := 0#256
  runtimeDigest := 0#256
  sealedAt := 2
  signatureKid := "kid"
  contentHash := 23#256
  valid := by decide

def start : Db :=
  { LateCleanup.start with
    attempts := [attempt]
    seals := [fact]
    resolutions := []
    hygieneResolutions := [LateCleanup.hygieneRow 31 1 10 .cleaned] }

def unit : ExecutionUnit := start.units.head (by decide)

def resolved : Db := after (resolveUnit LateCleanup.hashes unit 5) start

def final : Db := after ((SnapshotCall.fullyResolved 20).op LateCleanup.hashes) resolved

theorem history : ReflTransGen (HistoryStep LateCleanup.hashes) start final :=
  (ReflTransGen.single (.resolve unit 5)).tail (.snapshot _)

end CleanRun

theorem clean_run_accepted :
    ∃ s ∈ CleanRun.final.snapshots, evaluateTaskGate s [] = .ok (.accepted, []) ∧
      ∃ cell ∈ CleanRun.final.manifest.units, ∃ r h, AcceptedUnit CleanRun.final cell r h := by
  have hlatest : CleanRun.final.getLatestSnapshot.isSome := by decide
  have hmem := Rows.newest_mem (Option.some_get hlatest).symm
  have haccepted : evaluateTaskGate (CleanRun.final.getLatestSnapshot.get hlatest) [] =
      .ok (.accepted, []) := by decide +revert
  obtain ⟨-, rs, hygiene, -, -, -, -, hrs, hhygiene, hunits⟩ :=
    gate_acceptance_sound rfl rfl CleanRun.history hmem haccepted
  have hcells : CleanRun.final.manifest.units.length = 1 := by decide
  obtain ⟨cell, hcell⟩ := List.length_eq_one_iff.1 hcells
  obtain ⟨r, rfl⟩ := List.length_eq_one_iff.1 (hrs.trans hcells)
  obtain ⟨h, rfl⟩ := List.length_eq_one_iff.1 (hhygiene.trans hcells)
  exact ⟨_, hmem, haccepted, cell, by simp [hcell], r, h, hunits cell r h (by simp [hcell])⟩

end Atlas.Proofs
