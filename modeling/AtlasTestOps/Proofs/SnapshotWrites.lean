import AtlasTestOps.Service.Reevaluation

/-! What a committed call of a snapshot writer has done. Each lemma takes one service
function apart, so the invariants over runs never unfold one again. -/

namespace Atlas.Proofs

open Atlas Atlas.Task Atlas.Result Atlas.Store Atlas.Service Txn

variable {H : ResultHashes} {db db' : Db} {run : TaskRun} {manifest : TaskRunManifest}
  {createdAt : Instant}

/-- What `_load_snapshot_quality_inputs` has checked. -/
structure QualityInputs (run : TaskRun) (manifest : TaskRunManifest) (db : Db) : Prop where
  closed : run.lifecycle = .closed
  scope : manifest.toRunScope = run.toRunScope
  units : db.listUnits.length = manifest.units.length
  resolutions : db.listLatestResolutions.length = manifest.units.length
  covered : unitsCovered run 1 manifest.units db.listUnits db.listLatestResolutions = true

theorem load_commits {p : List ExecutionUnit × List UnitResolutionRevision}
    (h : Commits (loadSnapshotQualityInputs run manifest) db p db') :
    QualityInputs run manifest db ∧ p = (db.listUnits, db.listLatestResolutions) ∧ db' = db := by
  simp only [loadSnapshotQualityInputs, commits_bind, commits_raiseIf, commits_read, commits_pure,
    not_or, not_not] at h
  obtain ⟨_, _, ⟨⟨hclosed, -⟩, rfl⟩, _, _, ⟨⟨-, -, -, hscope⟩, rfl⟩, _, _, ⟨rfl, rfl⟩, _, _,
    ⟨rfl, rfl⟩, _, _, ⟨⟨hunits, hres⟩, rfl⟩, _, _, ⟨hcov, rfl⟩, rfl, rfl⟩ := h
  exact ⟨⟨hclosed, hscope, hunits, hres, by simpa using hcov⟩, rfl, rfl⟩

/-- `s` is appended to the snapshots and breaks none of their keys. -/
structure Inserted (db : Db) (s : TaskResultSnapshot) (db' : Db) : Prop where
  snapshots : db'.snapshots = db.snapshots ++ [s]
  fresh : ∀ t ∈ db.snapshots, t.id ≠ s.id
  distinct : ∀ t ∈ db.snapshots, sameSnapshotInput t s = false

theorem appendSnapshot_commits {content : TaskResultSnapshotContent} {s : TaskResultSnapshot}
    (h : Commits (appendSnapshot H content) db s db') :
    s.toTaskResultSnapshotContent = content ∧ Inserted db s db' ∧
      db' = { db with snapshots := db.snapshots ++ [s] } := by
  simp only [appendSnapshot, commits_bind, commits_validated, commits_insertSnapshot,
    commits_pure] at h
  obtain ⟨hvalid, _, rfl, _, _, ⟨hid, -, hsame, rfl⟩, rfl, rfl⟩ := h
  refine ⟨rfl, ⟨rfl, fun t ht heq => hid ⟨t, ht, heq⟩, fun t ht => ?_⟩, rfl⟩
  exact Bool.eq_false_iff.2 fun heq => hsame ⟨t, ht, heq⟩

theorem watermark_commits {times : List Instant} {watermark : Instant}
    (h : Commits (projectionWatermark times createdAt) db watermark db') :
    times.max? = some watermark ∧ db' = db := by
  simp only [projectionWatermark, commits_bind, commits_demand, commits_raiseIf,
    commits_pure] at h
  obtain ⟨_, _, ⟨hmax, rfl⟩, _, _, ⟨-, rfl⟩, rfl, rfl⟩ := h
  exact ⟨hmax, rfl⟩

/-- The verdict counts of resolutions without a pending one. -/
structure Tallied (resolutions : List UnitResolutionRevision) (counts : TaskVerdictCounts) :
    Prop where
  pending : countVerdict resolutions .pending = 0
  passed : counts.passed = countVerdict resolutions .passed
  failed : counts.failed = countVerdict resolutions .failed
  inconclusive : counts.inconclusive = countVerdict resolutions .inconclusive
  notEvaluated : counts.notEvaluated = countVerdict resolutions .notEvaluated

theorem verdictCounts_commits {resolutions : List UnitResolutionRevision}
    {counts : TaskVerdictCounts} (h : Commits (verdictCounts resolutions) db counts db') :
    Tallied resolutions counts ∧ db' = db := by
  simp only [verdictCounts, commits_bind, commits_raiseIf, commits_pure, not_not] at h
  obtain ⟨_, _, ⟨hpending, rfl⟩, rfl, rfl⟩ := h
  exact ⟨⟨hpending, rfl, rfl, rfl, rfl⟩, rfl⟩

/-- A QUALITY_FINAL snapshot over the latest resolutions, appended after QUALITY_FINAL ones. -/
structure QualityAppended (H : ResultHashes) (run : TaskRun) (manifest : TaskRunManifest)
    (db : Db) (s : TaskResultSnapshot) (db' : Db) : Prop where
  order : ∀ latest ∈ db.getLatestSnapshot, latest.finality = .qualityFinal
  content : ∃ counts watermark id createdAt, Tallied db.listLatestResolutions counts ∧
    s.toTaskResultSnapshotContent = aggregate H run manifest .qualityFinal
      db.listLatestResolutions none counts (resolutionSetHash H run db.listLatestResolutions)
      watermark db.getLatestSnapshot id createdAt
  inserted : Inserted db s db'
  state : ∃ nextId, db' = { db with snapshots := db.snapshots ++ [s], nextId := nextId }

theorem appendQualityFinal_commits {s : TaskResultSnapshot}
    (h : Commits (appendQualityFinal H run manifest db.listLatestResolutions createdAt) db s db') :
    QualityAppended H run manifest db s db' := by
  simp only [appendQualityFinal, commits_bind, commits_read, commits_raiseIf,
    commits_newEntityId] at h
  obtain ⟨_, _, ⟨rfl, rfl⟩, _, _, ⟨horder, rfl⟩, watermark, _, hwatermark, counts, _, hcounts,
    id, _, ⟨-, rfl⟩, happend⟩ := h
  obtain ⟨-, rfl⟩ := watermark_commits hwatermark
  obtain ⟨htally, rfl⟩ := verdictCounts_commits hcounts
  obtain ⟨hcontent, hins, rfl⟩ := appendSnapshot_commits happend
  refine ⟨fun latest hlatest => ?_, ⟨counts, watermark, id, createdAt, htally, hcontent⟩,
    ⟨hins.snapshots, hins.fresh, hins.distinct⟩, ⟨_, rfl⟩⟩
  have hnot : ¬ (latest.finality = .fullyResolved ∨ latest.finality = .reevaluated) :=
    fun hbad => horder ⟨latest, hlatest, hbad⟩
  cases hfin : latest.finality with
  | qualityFinal => rfl
  | fullyResolved => exact absurd (Or.inl hfin) hnot
  | reevaluated => exact absurd (Or.inr hfin) hnot

/-- `snapshot_task` answers the latest QUALITY_FINAL snapshot, or appends one. -/
theorem snapshotTask_commits {s : TaskResultSnapshot}
    (h : Commits (snapshotTask H run manifest createdAt) db s db') :
    QualityInputs run manifest db ∧
    s.inputResolutionSetHash = resolutionSetHash H run db.listLatestResolutions ∧
    ((db.getLatestSnapshotForFinality .qualityFinal = some s ∧ db' = db) ∨
      QualityAppended H run manifest db s db') := by
  simp only [snapshotTask, commits_bind, commits_read] at h
  obtain ⟨p, _, hload, _, m, ⟨rfl, rfl⟩, h⟩ := h
  obtain ⟨hinputs, rfl, rfl⟩ := load_commits hload
  have happended (hc : Commits
      (appendQualityFinal H run manifest m.listLatestResolutions createdAt) m s db') :
      s.inputResolutionSetHash = resolutionSetHash H run m.listLatestResolutions ∧
        QualityAppended H run manifest m s db' := by
    have hq := appendQualityFinal_commits hc
    obtain ⟨_, _, _, _, -, hcontent⟩ := hq.content
    exact ⟨by rw [hcontent]; rfl, hq⟩
  refine ⟨hinputs, ?_⟩
  cases hlatest : m.getLatestSnapshotForFinality .qualityFinal with
  | none =>
    simp only [hlatest] at h
    exact (happended h).imp_right Or.inr
  | some q =>
    simp only [hlatest, commits_ite, commits_pure] at h
    rcases h with ⟨⟨hhash, -⟩, rfl, rfl⟩ | ⟨-, h⟩
    · exact ⟨hhash, Or.inl ⟨rfl, rfl⟩⟩
    · exact (happended h).imp_right Or.inr

/-- A FULLY_RESOLVED snapshot over the latest resolutions and closed hygiene, appended before
any re-evaluation. -/
structure FullAppended (H : ResultHashes) (run : TaskRun) (manifest : TaskRunManifest)
    (quality : TaskResultSnapshot) (db : Db) (s : TaskResultSnapshot) (db' : Db) : Prop where
  inputs : QualityInputs run manifest db
  hygiene : db.listLatestHygieneResolutions.length = manifest.units.length
  covered : hygieneCovered run db.listUnits db.listLatestHygieneResolutions = true
  terminal : ∀ row ∈ db.listLatestHygieneResolutions, terminalHygiene row.dataHygiene = true
  order : ∃ latest, db.getLatestSnapshot = some latest ∧ latest.finality ≠ .reevaluated
  content : ∃ counts watermark id createdAt, Tallied db.listLatestResolutions counts ∧
    s.toTaskResultSnapshotContent = aggregate H run manifest .fullyResolved
      db.listLatestResolutions (some db.listLatestHygieneResolutions) counts
      quality.inputResolutionSetHash watermark db.getLatestSnapshot id createdAt
  inserted : Inserted db s db'
  state : ∃ nextId, db' = { db with snapshots := db.snapshots ++ [s], nextId := nextId }

theorem appendFullyResolved_commits {quality s : TaskResultSnapshot}
    (hinputs : QualityInputs run manifest db)
    (hlength : db.listLatestHygieneResolutions.length = manifest.units.length)
    (hcovered : hygieneCovered run db.listUnits db.listLatestHygieneResolutions = true)
    (hterminal : ∀ row ∈ db.listLatestHygieneResolutions, terminalHygiene row.dataHygiene = true)
    (h : Commits (appendFullyResolved H run manifest quality db.listLatestResolutions
      db.listLatestHygieneResolutions createdAt) db s db') :
    FullAppended H run manifest quality db s db' := by
  simp only [appendFullyResolved, commits_bind, commits_read, commits_demand, commits_raiseIf,
    commits_newEntityId] at h
  obtain ⟨_, _, ⟨rfl, rfl⟩, latest, _, ⟨hlatest, rfl⟩, _, _, ⟨horder, rfl⟩, watermark, _,
    hwatermark, counts, _, hcounts, id, _, ⟨-, rfl⟩, happend⟩ := h
  obtain ⟨-, rfl⟩ := watermark_commits hwatermark
  obtain ⟨htally, rfl⟩ := verdictCounts_commits hcounts
  obtain ⟨hcontent, hins, rfl⟩ := appendSnapshot_commits happend
  exact
    { inputs := hinputs
      hygiene := hlength
      covered := hcovered
      terminal := hterminal
      order := ⟨latest, hlatest, horder⟩
      content := ⟨counts, watermark, id, createdAt, htally, hlatest ▸ hcontent⟩
      inserted := ⟨hins.snapshots, hins.fresh, hins.distinct⟩
      state := ⟨_, rfl⟩ }

/-- What a call of `snapshot_task_fully_resolved` does after its QUALITY_FINAL part. -/
inductive FullOutcome (H : ResultHashes) (run : TaskRun) (manifest : TaskRunManifest)
    (quality : TaskResultSnapshot) (db : Db) : Option TaskResultSnapshot → Db → Prop
  | waiting : FullOutcome H run manifest quality db none db
  | replayed {s} (latest : db.getLatestSnapshotForFinality .fullyResolved = some s) :
      FullOutcome H run manifest quality db (some s) db
  | appended {s db'} (write : FullAppended H run manifest quality db s db') :
      FullOutcome H run manifest quality db (some s) db'

theorem snapshotTaskFullyResolved_commits {answer : Option TaskResultSnapshot}
    (h : Commits (snapshotTaskFullyResolved H run manifest createdAt) db answer db') :
    (answer = none ∧ db' = db) ∨
      ∃ quality m, Commits (snapshotTask H run manifest createdAt) db quality m ∧
        FullOutcome H run manifest quality m answer db' := by
  simp only [snapshotTaskFullyResolved, commits_ite, commits_bind, commits_read, commits_pure] at h
  rcases h with ⟨-, rfl, rfl⟩ | ⟨-, quality, _, hquality, p, _, hload, _, _, ⟨rfl, rfl⟩, h⟩
  · exact Or.inl ⟨rfl, rfl⟩
  obtain ⟨hinputs, rfl, rfl⟩ := load_commits hload
  refine Or.inr ⟨quality, _, hquality, ?_⟩
  simp only [commits_raiseIf] at h
  rcases h with ⟨-, rfl, rfl⟩ | ⟨hlength, -, _, ⟨hcovered, rfl⟩, h⟩
  · exact .waiting
  rcases h with ⟨-, rfl, rfl⟩ | ⟨hterminal, _, m, ⟨rfl, rfl⟩, h⟩
  · exact .waiting
  have happended {s : TaskResultSnapshot} (hc : Commits (appendFullyResolved H run manifest quality
      m.listLatestResolutions m.listLatestHygieneResolutions createdAt) m s db') :
      FullAppended H run manifest quality m s db' :=
    appendFullyResolved_commits hinputs (by simpa using hlength) (by simpa using hcovered)
      (fun row hrow => by simpa using fun hbad => hterminal ⟨row, hrow, hbad⟩) hc
  cases hlatest : m.getLatestSnapshotForFinality .fullyResolved with
  | none =>
    simp only [hlatest, commits_map] at h
    obtain ⟨s, hs, rfl⟩ := h
    exact .appended (happended hs)
  | some t =>
    simp only [hlatest, commits_ite, commits_pure, commits_map] at h
    rcases h with ⟨-, rfl, rfl⟩ | ⟨-, s, hs, rfl⟩
    · exact .replayed hlatest
    · exact .appended (happended hs)

/-! The re-evaluation. -/

theorem reserve_commits {key : String} {requestHash : Digest} {now : Instant}
    {answer : Option (ℕ × TaskResultSnapshot)}
    (h : Commits (reserve key requestHash now) db answer db') :
    ∃ idempotency, db' = { db with idempotency := idempotency } := by
  simp only [reserve, commits_bind, commits_update, commits_read] at h
  obtain ⟨-, _, rfl, _, m, ⟨rfl, rfl⟩, h⟩ := h
  generalize (List.find? _ _) = found at h
  cases found with
  | none =>
    simp only [commits_bind, commits_update, commits_pure] at h
    obtain ⟨-, _, rfl, -, rfl⟩ := h
    exact ⟨_, rfl⟩
  | some record =>
    simp only [commits_bind, commits_raiseIf, commits_demand, commits_pure] at h
    obtain ⟨-, _, ⟨-, rfl⟩, _, _, ⟨-, rfl⟩, -, rfl⟩ := h
    exact ⟨_, rfl⟩

theorem complete_commits {key : String} {requestHash : Digest}
    {response : ℕ × TaskResultSnapshot} {u : Unit}
    (h : Commits (complete key requestHash response) db u db') :
    ∃ idempotency, db' = { db with idempotency := idempotency } := by
  simp only [complete, commits_bind, commits_read, commits_raiseIf, commits_update] at h
  obtain ⟨_, _, ⟨rfl, rfl⟩, -, _, ⟨-, rfl⟩, rfl⟩ := h
  exact ⟨_, rfl⟩

theorem requireSource_commits {found : Option TaskResultSnapshot} {source : TaskResultSnapshot}
    (h : Commits (requireSource run found) db source db') :
    found = some source ∧ source.finality = .fullyResolved ∧ db' = db := by
  simp only [requireSource, commits_bind, commits_demand, commits_raiseIf, commits_pure, not_or,
    not_not] at h
  obtain ⟨_, _, ⟨hfound, rfl⟩, _, _, ⟨-, rfl⟩, _, _, ⟨⟨hfinality, -⟩, rfl⟩, rfl, rfl⟩ := h
  exact ⟨hfound, hfinality, rfl⟩

theorem requireRun_commits {actor : ActorContext} {visible : Option TaskRun}
    (h : Commits (requireRun actor visible) db run db') : visible = some run ∧ db' = db := by
  simp only [requireRun, commits_bind, commits_demand, commits_raiseIf, commits_pure] at h
  obtain ⟨_, _, ⟨hvisible, rfl⟩, _, _, ⟨-, rfl⟩, _, _, ⟨-, rfl⟩, _, _, ⟨-, rfl⟩, rfl, rfl⟩ := h
  exact ⟨hvisible, rfl⟩

/-- A REEVALUATED snapshot with the frozen inputs of its source, appended over the latest. -/
structure ReevaluationAppended (sourceId : Uuid) (source latest : TaskResultSnapshot) (db : Db)
    (s : TaskResultSnapshot) (db' : Db) : Prop where
  found : db.getSnapshotById sourceId = some source
  finality : source.finality = .fullyResolved
  newestBefore : db.getLatestSnapshot = some latest
  first : db.getReevaluatedSnapshot source.id taskResultSnapshotReevaluatedPolicyDigest = none
  content : ∃ id commandId now,
    s.toTaskResultSnapshotContent = reevaluatedContent source latest id commandId now
  inserted : Inserted db s db'
  state : ∃ commands idempotency nextId, db' =
    { db with
      snapshots := db.snapshots ++ [s]
      reevaluationCommands := commands
      idempotency := idempotency
      nextId := nextId }

theorem appendReevaluated_commits {actor : ActorContext} {source s : TaskResultSnapshot}
    {mutationId : String} {now : Instant}
    (h : Commits (appendReevaluated H actor run source mutationId now) db s db') :
    ∃ latest id commandId, db.getLatestSnapshot = some latest ∧
      s.toTaskResultSnapshotContent = reevaluatedContent source latest id commandId now ∧
      Inserted db s db' ∧
      ∃ commands nextId, db' =
        { db with
          snapshots := db.snapshots ++ [s]
          reevaluationCommands := commands
          nextId := nextId } := by
  simp only [appendReevaluated, commits_bind, commits_read, commits_demand, commits_newEntityId,
    commits_insertReevaluationCommand] at h
  obtain ⟨_, _, ⟨rfl, rfl⟩, latest, _, ⟨hlatest, rfl⟩, commandId, _, ⟨-, rfl⟩, _, _,
    ⟨-, -, rfl⟩, id, _, ⟨-, rfl⟩, happend⟩ := h
  obtain ⟨hcontent, hins, rfl⟩ := appendSnapshot_commits happend
  exact ⟨latest, id, commandId, hlatest, hcontent,
    ⟨hins.snapshots, hins.fresh, hins.distinct⟩, _, _, rfl⟩

/-- What a committed call of `reevaluate` has done. -/
inductive ReevaluationOutcome (sourceId : Uuid) (db : Db) : CommandResult → Db → Prop
  | cached {answer idempotency} (replayed : answer.replayed = true) :
      ReevaluationOutcome sourceId db answer { db with idempotency := idempotency }
  | existing {answer idempotency source} (found : db.getSnapshotById sourceId = some source)
      (existing : db.getReevaluatedSnapshot source.id taskResultSnapshotReevaluatedPolicyDigest =
        some answer.value) :
      ReevaluationOutcome sourceId db answer { db with idempotency := idempotency }
  | appended {answer db' source latest}
      (write : ReevaluationAppended sourceId source latest db answer.value db') :
      ReevaluationOutcome sourceId db answer db'

theorem reevaluate_commits {actor : ActorContext} {taskRunId : Uuid}
    {request : RequestTaskResultReevaluation} {key : String} {requestHash : Digest}
    {now : Instant} {answer : CommandResult}
    (h : Commits (reevaluate H actor taskRunId request key requestHash now) db answer db') :
    ReevaluationOutcome request.sourceSnapshotId db answer db' := by
  simp only [reevaluate, commits_bind, commits_raiseIf] at h
  obtain ⟨-, m, ⟨-, rfl⟩, cached, _, hreserve, h⟩ := h
  obtain ⟨idempotency, rfl⟩ := reserve_commits hreserve
  cases cached with
  | some response =>
    obtain ⟨statusCode, snapshot⟩ := response
    obtain ⟨rfl, rfl⟩ := commits_pure.1 h
    exact .cached rfl
  | none =>
    simp only [commits_bind, commits_read] at h
    obtain ⟨_, _, ⟨rfl, rfl⟩, run, _, hrun, _, _, ⟨rfl, rfl⟩, source, _, hsource, _, _,
      ⟨rfl, rfl⟩, h⟩ := h
    obtain ⟨-, rfl⟩ := requireRun_commits hrun
    obtain ⟨hfound, hfinality, rfl⟩ := requireSource_commits hsource
    cases hexisting : Db.getReevaluatedSnapshot { m with idempotency := idempotency } source.id
        taskResultSnapshotReevaluatedPolicyDigest with
    | some snapshot =>
      simp only [hexisting, commits_bind, commits_pure] at h
      obtain ⟨_, _, hcomplete, rfl, rfl⟩ := h
      obtain ⟨_, rfl⟩ := complete_commits hcomplete
      exact .existing hfound hexisting
    | none =>
      simp only [hexisting, commits_bind, commits_pure] at h
      obtain ⟨s, _, happend, _, _, hcomplete, rfl, rfl⟩ := h
      obtain ⟨latest, id, commandId, hlatest, hcontent, hins, commands, nextId, rfl⟩ :=
        appendReevaluated_commits happend
      obtain ⟨_, rfl⟩ := complete_commits hcomplete
      refine .appended (?_ : ReevaluationAppended _ source latest _ _ _)
      exact
        { found := hfound
          finality := hfinality
          newestBefore := hlatest
          first := hexisting
          content := ⟨id, commandId, now, hcontent⟩
          inserted := ⟨hins.snapshots, hins.fresh, hins.distinct⟩
          state := ⟨_, _, _, rfl⟩ }

end Atlas.Proofs
