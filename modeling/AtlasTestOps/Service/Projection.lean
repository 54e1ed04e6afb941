import Mathlib.Data.List.Dedup
import AtlasTestOps.Store.Db

/-! The deterministic projection over terminal Attempt facts: closing an Attempt without
a Seal, resolving a Unit, and the two snapshots of a Task. Every operation runs inside the
transaction of its caller. -/

namespace Atlas.Service

open Atlas Atlas.Task Atlas.Result Atlas.Store Txn

variable (H : ResultHashes)

/-- One terminal fact as the resolution of its Unit sees it. -/
structure ResolutionSource extends ResultAxes where
  attempt : UnitAttempt
  factId : Uuid
  factHash : Digest
  factKind : FactKind
  effectiveVerdict : Verdict
  failureFingerprint : Option (String × Digest)
deriving DecidableEq, Repr

def resultHygiene : ExecutionHygiene → DataHygiene
  | .notRequired => .notApplicable
  | .pending => .pending
  | .running => .pending
  | .cleaned => .cleaned
  | .cleanupFailed => .cleanupFailed
  | .leaked => .leaked

def requireAttemptScope (unit : ExecutionUnit) (attempt : UnitAttempt) : Op Unit :=
  raiseIf (attempt.toUnitScope ≠ unit.toUnitScope) (.projection "RESULT_ATTEMPT_SCOPE_INVALID")

/-- The statuses that may close an Attempt of the given quality. -/
def closureSources : ExecutionQuality → List AttemptClosureSourceStatus
  | .inconclusive => [.finishedUnsealed, .inconclusive]
  | .failed => [.failed]
  | .infraError => [.infraError]
  | .canceled => [.canceled]
  | .pending | .passed | .blocked => []

def requireClosureSource (attempt : UnitAttempt) (sourceStatus : AttemptClosureSourceStatus) :
    Op Unit :=
  raiseIf (sourceStatus ∉ closureSources attempt.quality)
    (.projection "RESULT_CLOSURE_STATUS_CONFLICT")

def requireExactClosure (notice : AttemptClosureNotice) (attempt : UnitAttempt)
    (sourceStatus : AttemptClosureSourceStatus) (closureReason : String) : Op Unit := do
  requireClosureSource attempt sourceStatus
  raiseIf (notice.toUnitScope ≠ attempt.toUnitScope ∨ notice.unitAttemptId ≠ attempt.id ∨
      notice.attemptNumber ≠ attempt.attemptNumber ∨ notice.sourceStatus ≠ sourceStatus ∨
      notice.closureReason ≠ closureReason ∨ some notice.closedAt ≠ attempt.closedAt ∨
      notice.dataHygiene ≠ resultHygiene attempt.hygiene)
    (.projection "RESULT_CLOSURE_REPLAY_CONFLICT")

/-- `_build_closure_notice` -/
def closureVerdict (attempt : UnitAttempt) (sourceStatus : AttemptClosureSourceStatus) : Verdict :=
  if sourceStatus = .canceled ∧ attempt.startedAt = none then .notEvaluated else .inconclusive

def buildClosureNotice (attempt : UnitAttempt) (sourceStatus : AttemptClosureSourceStatus)
    (closureReason : String) (createdAt : Instant) : Op AttemptClosureNotice := do
  let closedAt ← demand attempt.closedAt (.projection "RESULT_CLOSURE_TIME_MISSING")
  let id ← newEntityId
  let verdict := closureVerdict attempt sourceStatus
  let content : AttemptClosureNoticeContent :=
    { attempt.toUnitScope with
      id := id
      unitAttemptId := attempt.id
      attemptNumber := attempt.attemptNumber
      sourceStatus := sourceStatus
      verdict := verdict
      outcomeClass := closureOutcomeClass sourceStatus
      closureReason := closureReason
      dataHygiene := resultHygiene attempt.hygiene
      evidenceCompleteness := if verdict = .notEvaluated then .notApplicable else .missing
      evidenceIntegrity := .unverified
      executionInfluence := .autonomous
      closedAt := closedAt
      createdAt := createdAt }
  let valid ← validated content.violation
  pure ⟨content, H.closureNotice content, valid.down⟩

/-! Sources of a resolution. -/

/-- Evidence that is not verified, or not there, cannot carry a judgment. -/
def effectiveVerdict (fact : AttemptSeal) : Verdict :=
  if fact.evidenceIntegrity ≠ .verified ∨ fact.evidenceCompleteness = .pending ∨
      fact.evidenceCompleteness = .missing then .inconclusive
  else fact.oracleVerdict

def sourceFromSeal (attempt : UnitAttempt) (fact : AttemptSeal) : Op ResolutionSource := do
  raiseIf (fact.toUnitScope ≠ attempt.toUnitScope ∨ fact.unitAttemptId ≠ attempt.id)
    (.projection "RESULT_SEAL_SCOPE_INVALID")
  pure
    { fact.toResultAxes with
      attempt := attempt
      factId := fact.sealId
      factHash := fact.contentHash
      factKind := .attemptSeal
      effectiveVerdict := effectiveVerdict fact
      -- The reason has no colon, so the pair is as good as the joined text.
      failureFingerprint :=
        if effectiveVerdict fact = .failed then some (fact.closureReason, fact.oracleResultsHash)
        else none }

def sourceFromClosure (attempt : UnitAttempt) (notice : AttemptClosureNotice) :
    Op ResolutionSource := do
  requireExactClosure notice attempt notice.sourceStatus notice.closureReason
  pure
    { notice.toResultAxes with
      attempt := attempt
      factId := notice.id
      factHash := notice.noticeHash
      factKind := .closureNotice
      effectiveVerdict := notice.verdict
      failureFingerprint := none }

/-- The source of one closed Attempt, which has exactly one terminal fact. -/
def terminalSource (seals : List AttemptSeal) (closures : List AttemptClosureNotice)
    (attempt : UnitAttempt) : Op ResolutionSource :=
  match seals.find? (fun s => s.unitAttemptId = attempt.id),
      closures.find? (fun n => n.unitAttemptId = attempt.id) with
  | some fact, none => sourceFromSeal attempt fact
  | none, some notice => sourceFromClosure attempt notice
  | some _, some _ => raise (.projection "RESULT_TERMINAL_COVERAGE_INVALID")
  | none, none => raise (.projection "RESULT_TERMINAL_COVERAGE_INVALID")

def collectSources (unit : ExecutionUnit) (seals : List AttemptSeal)
    (closures : List AttemptClosureNotice) : List UnitAttempt → Op (List ResolutionSource)
  | [] => pure []
  | attempt :: attempts => do
    requireAttemptScope unit attempt
    if attempt.lifecycle ≠ .closed then
      collectSources unit seals closures attempts
    else do
      let source ← terminalSource seals closures attempt
      let sources ← collectSources unit seals closures attempts
      pure (source :: sources)

def inputSetHash (unit : ExecutionUnit) (sources : List ResolutionSource) : Digest :=
  H.unitResolutionInputSet unit.id unit.manifestHash unit.unitKey <|
    sources.map fun source =>
      { attemptNumber := source.attempt.attemptNumber
        unitAttemptId := source.attempt.id
        kind := source.factKind
        factId := source.factId
        factHash := source.factHash }

def resolveStability (sources : List ResolutionSource) : Stability :=
  let verdicts := sources.map fun source => source.effectiveVerdict
  let fingerprints := (sources.filterMap fun source => source.failureFingerprint).dedup
  let passedLast := verdicts.getLast? = some .passed
  if sources.length = 1 then
    if passedLast ∨ verdicts.getLast? = some .failed then .stable else .unknown
  else if passedLast ∧ .failed ∈ verdicts.dropLast then .flakySuspect
  else if passedLast ∧ ∃ source ∈ sources.dropLast, source.outcomeClass = .platform then
    .infraRecovered
  else if passedLast ∧ ∀ verdict ∈ verdicts, verdict = .passed then .stable
  else if ∀ verdict ∈ verdicts, verdict = .failed then
    if fingerprints.length = 1 then .stable else .unknown
  else if .passed ∈ verdicts ∧ .failed ∈ verdicts then .flakySuspect
  else .unknown

/-- The content of the next resolution of a Unit over its sources. -/
def resolutionContent (unit : ExecutionUnit) (latest : Option UnitResolutionRevision)
    (sources : List ResolutionSource) (decisive : ResolutionSource) (id resolutionId : Uuid)
    (createdAt : Instant) : UnitResolutionRevisionContent :=
  { unit.toUnitScope, decisive.toResultAxes with
    id := id
    unitResolutionId := resolutionId
    revision := match latest with
      | some resolution => resolution.revision + 1
      | none => 1
    inputSealIds :=
      (sources.filter fun source => source.factKind = .attemptSeal).map fun source => source.factId
    inputClosureNoticeIds :=
      (sources.filter fun source => source.factKind = .closureNotice).map fun source => source.factId
    inputSetHash := inputSetHash H unit sources
    effectiveVerdict := decisive.effectiveVerdict
    stability := resolveStability sources
    decisiveUnitAttemptId := decisive.attempt.id
    decisiveAttemptNumber := decisive.attempt.attemptNumber
    resolutionPolicyDigest := unitResolutionPolicyDigest
    supersedesRevisionId := latest.map fun resolution => resolution.id
    createdAt := createdAt }

/-- The identity of the chain: that of the latest revision, or a new one. -/
def resolutionChainId : Option UnitResolutionRevision → Op Uuid
  | some resolution => pure resolution.unitResolutionId
  | none => newEntityId

def appendResolution (unit : ExecutionUnit) (latest : Option UnitResolutionRevision)
    (sources : List ResolutionSource) (decisive : ResolutionSource) (createdAt : Instant) :
    Op UnitResolutionRevision := do
  let id ← newEntityId
  let resolutionId ← resolutionChainId latest
  let content := resolutionContent H unit latest sources decisive id resolutionId createdAt
  let valid ← validated content.violation
  let resolution : UnitResolutionRevision := ⟨content, valid.down⟩
  insertResolution resolution
  pure resolution

/-- `resolve_unit`: a new revision only when the terminal input set changed. -/
def resolveUnit (unit : ExecutionUnit) (createdAt : Instant) : Op UnitResolutionRevision := do
  let attempts ← read fun db => db.listAttempts unit.id
  let seals ← read fun db => db.listSealsForUnit unit.id
  let closures ← read fun db => db.listClosuresForUnit unit.id
  let sources ← collectSources unit seals closures attempts
  let decisive ← demand sources.getLast? (.projection "RESULT_RESOLUTION_INPUT_MISSING")
  let latest ← read fun db => db.getLatestResolution unit.id
  match latest with
  | some resolution =>
    if resolution.inputSetHash = inputSetHash H unit sources ∧
        resolution.resolutionPolicyDigest = unitResolutionPolicyDigest then
      pure resolution
    else appendResolution H unit (some resolution) sources decisive createdAt
  | none => appendResolution H unit none sources decisive createdAt

/-- The part of `close_without_seal` that records the notice, once. -/
def recordClosure (attempt : UnitAttempt) (sourceStatus : AttemptClosureSourceStatus)
    (closureReason : String) (createdAt : Instant) : Option AttemptClosureNotice → Op Unit
  | none => do
    let notice ← buildClosureNotice H attempt sourceStatus closureReason createdAt
    insertClosure notice
  | some notice => requireExactClosure notice attempt sourceStatus closureReason

/-- `close_without_seal` -/
def closeWithoutSeal (unit : ExecutionUnit) (attempt : UnitAttempt)
    (sourceStatus : AttemptClosureSourceStatus) (closureReason : String) (createdAt : Instant) :
    Op UnitResolutionRevision := do
  requireAttemptScope unit attempt
  raiseIf (attempt.lifecycle ≠ .closed ∨ attempt.closedAt = none)
    (.projection "RESULT_CLOSURE_ATTEMPT_NOT_CLOSED")
  requireClosureSource attempt sourceStatus
  let fact ← read fun db => db.getSealByAttempt attempt.id
  raiseIf (fact ≠ none) (.projection "RESULT_CLOSURE_SEAL_ALREADY_EXISTS")
  let existing ← read fun db => db.getClosureByAttempt attempt.id
  recordClosure H attempt sourceStatus closureReason createdAt existing
  resolveUnit H unit createdAt

/-! Snapshots. -/

/-- The Manifest cell, the Unit and its resolution belong together and are closed. -/
def unitCovered (run : TaskRun) (ordinal : ℕ) (cell : ExecutionUnitManifest)
    (unit : ExecutionUnit) (resolution : UnitResolutionRevision) : Bool :=
  cell.ordinal = ordinal ∧ cell.toUnitPins = unit.toUnitPins ∧ cell.unitKey = unit.unitKey ∧
    unit.lifecycle = .closed ∧ unit.toRunScope = run.toRunScope ∧
    resolution.toRunScope = run.toRunScope ∧ resolution.executionUnitId = unit.id ∧
    resolution.unitKey = unit.unitKey

def unitsCovered (run : TaskRun) :
    ℕ → List ExecutionUnitManifest → List ExecutionUnit → List UnitResolutionRevision → Bool
  | ordinal, cell :: cells, unit :: units, resolution :: resolutions =>
    unitCovered run ordinal cell unit resolution &&
      unitsCovered run (ordinal + 1) cells units resolutions
  | _, _, _, _ => true

/-- `_load_snapshot_quality_inputs` -/
def loadSnapshotQualityInputs (run : TaskRun) (manifest : TaskRunManifest) :
    Op (List ExecutionUnit × List UnitResolutionRevision) := do
  raiseIf (run.lifecycle ≠ .closed ∨ run.closedAt = none)
    (.projection "RESULT_SNAPSHOT_RUN_NOT_CLOSED")
  raiseIf (run.materializationState ≠ .sealed ∨
      run.materializedUnitCount ≠ some manifest.units.length ∨
      run.materializedFirstAttemptCount ≠ some manifest.units.length ∨
      manifest.toRunScope ≠ run.toRunScope)
    (.projection "RESULT_SNAPSHOT_MANIFEST_INVALID")
  let units ← read Db.listUnits
  let resolutions ← read Db.listLatestResolutions
  raiseIf (units.length ≠ manifest.units.length ∨ resolutions.length ≠ manifest.units.length)
    (.projection "RESULT_SNAPSHOT_UNIT_COVERAGE_INVALID")
  raiseIf (!unitsCovered run 1 manifest.units units resolutions)
    (.projection "RESULT_SNAPSHOT_UNIT_COVERAGE_INVALID")
  pure (units, resolutions)

def resolutionSetHash (run : TaskRun) (resolutions : List UnitResolutionRevision) : Digest :=
  H.resolutionSet run.id run.manifestHash <|
    (resolutions.zipIdx 1).map fun (resolution, ordinal) =>
      { ordinal := ordinal
        executionUnitId := resolution.executionUnitId
        unitResolutionRevisionId := resolution.id
        revision := resolution.revision
        inputSetHash := resolution.inputSetHash }

def hygieneResolutionSetHash (run : TaskRun) (hygiene : List UnitHygieneResolutionRevision) :
    Digest :=
  H.hygieneResolutionSet run.id run.manifestHash <|
    (hygiene.zipIdx 1).map fun (resolution, ordinal) =>
      { ordinal := ordinal
        executionUnitId := resolution.executionUnitId
        unitHygieneResolutionRevisionId := resolution.id
        revision := resolution.revision
        inputSetHash := resolution.inputSetHash
        dataHygiene := resolution.dataHygiene
        resolutionPolicyDigest := resolution.resolutionPolicyDigest
        resolutionHash := resolution.resolutionHash }

def countVerdict (resolutions : List UnitResolutionRevision) (verdict : Verdict) : ℕ :=
  resolutions.countP fun resolution => resolution.effectiveVerdict = verdict

def verdictCounts (resolutions : List UnitResolutionRevision) : Op TaskVerdictCounts := do
  raiseIf (countVerdict resolutions .pending ≠ 0) (.projection "RESULT_SNAPSHOT_VERDICT_PENDING")
  pure
    { passed := countVerdict resolutions .passed
      failed := countVerdict resolutions .failed
      inconclusive := countVerdict resolutions .inconclusive
      notEvaluated := countVerdict resolutions .notEvaluated }

/-- The distribution of every axis; `hygiene` lists the values counted for that axis. -/
def axisDistributions (resolutions : List UnitResolutionRevision) (hygiene : List DataHygiene) :
    TaskResultAxisDistributions :=
  let completeness (value : EvidenceCompleteness) : ℕ :=
    resolutions.countP fun r => r.evidenceCompleteness = value
  let integrity (value : EvidenceIntegrity) : ℕ :=
    resolutions.countP fun r => r.evidenceIntegrity = value
  let influence (value : ExecutionInfluence) : ℕ :=
    resolutions.countP fun r => r.executionInfluence = value
  let stability (value : Stability) : ℕ := resolutions.countP fun r => r.stability = value
  let outcome (value : OutcomeClass) : ℕ := resolutions.countP fun r => r.outcomeClass = value
  { dataHygiene :=
      { pending := hygiene.count .pending
        cleaned := hygiene.count .cleaned
        cleanupFailed := hygiene.count .cleanupFailed
        leaked := hygiene.count .leaked
        notApplicable := hygiene.count .notApplicable }
    evidenceCompleteness :=
      { pending := completeness .pending
        complete := completeness .complete
        partialEvidence := completeness .partialEvidence
        missing := completeness .missing
        notApplicable := completeness .notApplicable }
    evidenceIntegrity :=
      { unverified := integrity .unverified
        verified := integrity .verified
        invalid := integrity .invalid }
    executionInfluence :=
      { autonomous := influence .autonomous
        manualAssisted := influence .manualAssisted
        manualOnly := influence .manualOnly }
    stability :=
      { unknown := stability .unknown
        stable := stability .stable
        infraRecovered := stability .infraRecovered
        flakySuspect := stability .flakySuspect
        flakyConfirmed := stability .flakyConfirmed }
    outcomeClass :=
      { business := outcome .business
        dependency := outcome .dependency
        platform := outcome .platform
        user := outcome .user
        automation := outcome .automation
        policy := outcome .policy
        unknown := outcome .unknown } }

/-- What the two snapshots of a Task have in common: the aggregation of the resolutions. -/
def aggregate (run : TaskRun) (manifest : TaskRunManifest)
    (finality : TaskResultSnapshotFinality) (resolutions : List UnitResolutionRevision)
    (hygiene : Option (List UnitHygieneResolutionRevision)) (counts : TaskVerdictCounts)
    (resolutionSet : Digest) (watermark : Instant) (latest : Option TaskResultSnapshot)
    (id : Uuid) (createdAt : Instant) : TaskResultSnapshotContent :=
  let manifestCount := manifest.units.length
  { run.toRunScope with
    schemaVersion := snapshotSchemaVersion finality
    id := id
    revision := match latest with
      | some snapshot => snapshot.revision + 1
      | none => 1
    finality := finality
    unitResolutionRevisionIds := resolutions.map fun resolution => resolution.id
    inputResolutionSetHash := resolutionSet
    unitHygieneResolutionRevisionIds := hygiene.map fun rows => rows.map fun row => row.id
    inputHygieneResolutionSetHash := hygiene.map (hygieneResolutionSetHash H run)
    reevaluationSourceSnapshotId := none
    reevaluationCommandId := none
    aggregationPolicyVersion := snapshotPolicyVersion finality
    aggregationPolicyDigest := snapshotPolicyDigest finality
    projectionWatermark := watermark
    manifestCount := manifestCount
    verdictCounts := counts
    axisDistributions := axisDistributions resolutions <| match hygiene with
      | some rows => rows.map fun row => row.dataHygiene
      | none => resolutions.map fun resolution => resolution.dataHygiene
    rawPassRate := ⟨counts.passed, manifestCount⟩
    trustedPassRate :=
      ⟨resolutions.countP fun r => r.effectiveVerdict = .passed ∧
          r.evidenceCompleteness = .complete ∧ r.evidenceIntegrity = .verified, manifestCount⟩
    autonomousPassRate :=
      ⟨resolutions.countP fun r => r.effectiveVerdict = .passed ∧
          r.executionInfluence = .autonomous, manifestCount⟩
    decisivePassRate := ⟨counts.passed, counts.passed + counts.failed⟩
    supersedesSnapshotId := latest.map fun snapshot => snapshot.id
    createdAt := createdAt }

/-- Validate the content, hash it and append it. -/
def appendSnapshot (content : TaskResultSnapshotContent) : Op TaskResultSnapshot := do
  let valid ← validated content.violation
  let snapshot : TaskResultSnapshot := ⟨content, H.snapshot content.semantics, valid.down⟩
  insertSnapshot snapshot
  pure snapshot

/-- The newest of the given times, which must not lie after `createdAt`. -/
def projectionWatermark (times : List Instant) (createdAt : Instant) : Op Instant := do
  let watermark ← demand times.max? (.validation "max() arg is an empty sequence")
  raiseIf (createdAt < watermark) (.projection "RESULT_SNAPSHOT_WATERMARK_INVALID")
  pure watermark

/-- The part of `snapshot_task` after the replay check. -/
def appendQualityFinal (run : TaskRun) (manifest : TaskRunManifest)
    (resolutions : List UnitResolutionRevision) (createdAt : Instant) :
    Op TaskResultSnapshot := do
  let latest ← read Db.getLatestSnapshot
  raiseIf (∃ snapshot ∈ latest,
      snapshot.finality = .fullyResolved ∨ snapshot.finality = .reevaluated)
    (.projection "RESULT_SNAPSHOT_FINALITY_ORDER_INVALID")
  let watermark ← projectionWatermark (resolutions.map fun r => r.createdAt) createdAt
  let counts ← verdictCounts resolutions
  let id ← newEntityId
  appendSnapshot H <|
    aggregate H run manifest .qualityFinal resolutions none counts
      (resolutionSetHash H run resolutions) watermark latest id createdAt

/-- `snapshot_task` -/
def snapshotTask (run : TaskRun) (manifest : TaskRunManifest) (createdAt : Instant) :
    Op TaskResultSnapshot := do
  let (_, resolutions) ← loadSnapshotQualityInputs run manifest
  let latestQuality ← read fun db => db.getLatestSnapshotForFinality .qualityFinal
  match latestQuality with
  | some snapshot =>
    if snapshot.inputResolutionSetHash = resolutionSetHash H run resolutions ∧
        snapshot.aggregationPolicyDigest = taskResultSnapshotPolicyDigest then
      pure snapshot
    else appendQualityFinal H run manifest resolutions createdAt
  | none => appendQualityFinal H run manifest resolutions createdAt

def terminalHygiene : DataHygiene → Bool
  | .cleaned | .leaked | .notApplicable => true
  | .pending | .cleanupFailed => false

def hygieneCovered (run : TaskRun) :
    List ExecutionUnit → List UnitHygieneResolutionRevision → Bool
  | unit :: units, hygiene :: rows =>
    (hygiene.toRunScope = run.toRunScope ∧ hygiene.executionUnitId = unit.id ∧
      hygiene.unitKey = unit.unitKey) && hygieneCovered run units rows
  | _, _ => true

/-- The part of `snapshot_task_fully_resolved` after the replay check. -/
def appendFullyResolved (run : TaskRun) (manifest : TaskRunManifest)
    (quality : TaskResultSnapshot) (resolutions : List UnitResolutionRevision)
    (hygiene : List UnitHygieneResolutionRevision) (createdAt : Instant) :
    Op TaskResultSnapshot := do
  let found ← read Db.getLatestSnapshot
  let latest ← demand found (.projection "RESULT_SNAPSHOT_QUALITY_FINAL_MISSING")
  raiseIf (latest.finality = .reevaluated)
    (.projection "RESULT_SNAPSHOT_FINALITY_ORDER_INVALID")
  let watermark ← projectionWatermark
    ((resolutions.map fun r => r.createdAt) ++ hygiene.map fun h => h.createdAt) createdAt
  let counts ← verdictCounts resolutions
  let id ← newEntityId
  appendSnapshot H <|
    aggregate H run manifest .fullyResolved resolutions (some hygiene) counts
      quality.inputResolutionSetHash watermark (some latest) id createdAt

/-- `snapshot_task_fully_resolved`; none while a cleanup is still open. -/
def snapshotTaskFullyResolved (run : TaskRun) (manifest : TaskRunManifest)
    (createdAt : Instant) : Op (Option TaskResultSnapshot) :=
  if run.lifecycle ≠ .closed ∨ run.closedAt = none then pure none
  else do
    let quality ← snapshotTask H run manifest createdAt
    let (units, resolutions) ← loadSnapshotQualityInputs run manifest
    let hygiene ← read Db.listLatestHygieneResolutions
    if hygiene.length ≠ manifest.units.length then pure none
    else do
      raiseIf (!hygieneCovered run units hygiene)
        (.projection "RESULT_SNAPSHOT_HYGIENE_COVERAGE_INVALID")
      if ∃ row ∈ hygiene, !terminalHygiene row.dataHygiene then pure none
      else do
        let latestFull ← read fun db => db.getLatestSnapshotForFinality .fullyResolved
        match latestFull with
        | some snapshot =>
          if snapshot.inputResolutionSetHash = quality.inputResolutionSetHash ∧
              snapshot.inputHygieneResolutionSetHash =
                some (hygieneResolutionSetHash H run hygiene) ∧
              snapshot.aggregationPolicyDigest = taskResultSnapshotFullyResolvedPolicyDigest then
            pure (some snapshot)
          else some <$> appendFullyResolved H run manifest quality resolutions hygiene createdAt
        | none => some <$> appendFullyResolved H run manifest quality resolutions hygiene createdAt

end Atlas.Service
