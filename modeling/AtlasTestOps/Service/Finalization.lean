import AtlasTestOps.Service.Worker

/-! Accepting a signed AttemptSeal: the Seal, its ResultRef and the closed Attempt are one
transaction, and a different Seal for a sealed Attempt only leaves an incident. -/

namespace Atlas.Service

open Atlas Atlas.Task Atlas.Result Atlas.Store Txn

variable (H : ResultHashes) (P : HygieneProjection)

/-- `_require_exact_scope`: the Seal is about a stored Attempt of a sealed Run and runs under
the ticket of that Attempt. -/
def sealScopeValid (fact : AttemptSeal) (run : TaskRun) (manifest : TaskRunManifest)
    (unit : ExecutionUnit) (attempt : UnitAttempt) (ticket : TaskUnitExecutionTicket) : Bool :=
  run.toRunScope = fact.toRunScope ∧ run.materializationState = .sealed ∧
    manifest.taskRunId = fact.manifestId ∧ manifest.manifestHash = fact.manifestHash ∧
    unit.toUnitScope = fact.toUnitScope ∧ attempt.toUnitScope = fact.toUnitScope ∧
    attempt.id = fact.unitAttemptId ∧ ticket.id = fact.executionTicketId ∧
    ticket.ticketDigest = fact.executionTicketDigest ∧ ticket.taskRunId = fact.taskRunId ∧
    ticket.executionUnitId = fact.executionUnitId ∧
    ticket.unitAttemptId = fact.unitAttemptId ∧ fact.runtimeDigest = ticket.runtimeDigest

def requireExactScope (fact : AttemptSeal) : Op (TaskRun × ExecutionUnit × UnitAttempt) := do
  let foundRun ← read fun db => db.getRun fact.taskRunId
  let foundManifest ← read fun db => db.getManifest fact.taskRunId
  let foundUnit ← read fun db => db.getUnit fact.executionUnitId
  let foundAttempt ← read fun db => db.getAttempt fact.unitAttemptId
  let foundTicket ← read fun db => db.getTicketByAttempt fact.unitAttemptId
  let run ← demand foundRun (.finalization "ATTEMPT_SEAL_SCOPE_MISSING")
  let manifest ← demand foundManifest (.finalization "ATTEMPT_SEAL_SCOPE_MISSING")
  let unit ← demand foundUnit (.finalization "ATTEMPT_SEAL_SCOPE_MISSING")
  let attempt ← demand foundAttempt (.finalization "ATTEMPT_SEAL_SCOPE_MISSING")
  let ticket ← demand foundTicket (.finalization "ATTEMPT_SEAL_SCOPE_MISSING")
  raiseIf (!sealScopeValid fact run manifest unit attempt ticket)
    (.finalization "ATTEMPT_SEAL_SCOPE_INVALID")
  raiseIf (fact.evidencePolicyDigest ∉ manifest.policyDigests.map fun p => p.2)
    (.finalization "ATTEMPT_SEAL_POLICY_INVALID")
  pure (run, unit, attempt)

/-- `_require_seal_time` -/
def requireSealTime (fact : AttemptSeal) (attempt : UnitAttempt) (acceptedAt : Instant) : Op Unit :=
  raiseIf (attempt.startedAt = none ∨ (∃ t ∈ attempt.startedAt, fact.sealedAt < t) ∨
      attempt.executionDeadline < fact.sealedAt ∨ acceptedAt < fact.sealedAt)
    (.finalization "ATTEMPT_SEAL_TIME_INVALID")

/-- `_require_exact_ref` -/
def requireExactRef (ref : ResultRef) (fact : AttemptSeal) : Op Unit :=
  raiseIf (ref.tenantId ≠ fact.tenantId ∨ ref.projectId ≠ fact.projectId ∨
      ref.taskRunId ≠ fact.taskRunId ∨ ref.executionUnitId ≠ fact.executionUnitId ∨
      ref.unitAttemptId ≠ fact.unitAttemptId ∨ ref.sealId ≠ fact.sealId ∨
      ref.sealContentHash ≠ fact.contentHash)
    (.finalization "ATTEMPT_RESULT_REF_INVALID")

/-- `_quality_for_verdict` -/
def qualityForVerdict : Verdict → ExecutionQuality
  | .passed => .passed
  | .failed => .failed
  | .pending | .inconclusive | .notEvaluated => .inconclusive

/-- A projection error becomes a finalization error. -/
def projectionToFinalization : Fault → Fault
  | .projection code => .finalization code
  | fault => fault

/-- `_resolve_unit` -/
def resolveSealedUnit (unit : ExecutionUnit) (createdAt : Instant) : Op Unit :=
  rethrow projectionToFinalization do
    let _ ← resolveUnit H unit createdAt
    projectUnit P unit createdAt

/-- `_append_task_event` -/
def appendTaskEvent (attempt : UnitAttempt) (eventType : EventType) (payload : EventPayload)
    (occurredAt : Instant) : Op Unit := do
  let seq ← read Db.nextTaskExecutionEventSeq
  let id ← newEntityId
  appendEvent
    { id := id
      tenantId := attempt.tenantId
      projectId := attempt.projectId
      taskRunId := attempt.taskRunId
      executionUnitId := some attempt.executionUnitId
      unitAttemptId := some attempt.id
      seq := seq
      eventType := eventType
      lifecycle := attempt.lifecycle
      quality := attempt.quality
      hygiene := attempt.hygiene
      payload := payload
      occurredAt := occurredAt }

/-- The state of a sealed Attempt while it is finalized and once it is closed. -/
def sealedAxes (attempt : UnitAttempt) (fact : AttemptSeal) (lifecycle : ExecutionLifecycle)
    (closedAt : Option Instant) : ExecutionAxes where
  lifecycle := lifecycle
  quality := qualityForVerdict fact.oracleVerdict
  hygiene := attempt.hygiene
  startedAt := attempt.startedAt
  finalizedAt := some fact.sealedAt
  cleanupResolvedAt := attempt.cleanupResolvedAt
  closedAt := closedAt

def resultRef (fact : AttemptSeal) (id : Uuid) (createdAt : Instant) : ResultRef where
  id := id
  tenantId := fact.tenantId
  projectId := fact.projectId
  taskRunId := fact.taskRunId
  executionUnitId := fact.executionUnitId
  unitAttemptId := fact.unitAttemptId
  sealId := fact.sealId
  sealContentHash := fact.contentHash
  createdAt := createdAt

/-- The writes of `_accept_new_seal` before the Unit is resolved. -/
def recordSeal (run : TaskRun) (unit : ExecutionUnit) (attempt : UnitAttempt) (fact : AttemptSeal)
    (acceptedAt clock : Instant) : Op ResultRef := do
  insertFact fact
  let id ← newEntityId
  let ref := resultRef fact id acceptedAt
  insertRef ref
  let finalizing ← transitionUnitAttemptState run.id unit.id attempt.id attempt.revision
    (sealedAxes attempt fact .finalizing none) clock
  appendTaskEvent finalizing .attemptSealAccepted
    (.sealAccepted ref.id fact.sealId fact.contentHash) acceptedAt
  let closed ← transitionUnitAttemptState run.id unit.id attempt.id finalizing.revision
    (sealedAxes attempt fact .closed (some fact.sealedAt)) clock
  appendTaskEvent closed .attemptClosed (.sealClosed ref.id) acceptedAt
  pure ref

/-- `_accept_new_seal` -/
def acceptNewSeal (run : TaskRun) (unit : ExecutionUnit) (attempt : UnitAttempt)
    (fact : AttemptSeal) (acceptedAt clock : Instant) : Op ResultRef := do
  let ref ← recordSeal run unit attempt fact acceptedAt clock
  resolveSealedUnit H P unit acceptedAt
  pure ref

/-- `_record_integrity_incident`, once for each conflicting content -/
def recordIntegrityIncident (accepted conflicting : AttemptSeal) (observedAt : Instant) :
    Op Unit := do
  let id ← newEntityId
  let incident : ResultIntegrityIncident :=
    { id := id
      tenantId := accepted.tenantId
      projectId := accepted.projectId
      taskRunId := accepted.taskRunId
      executionUnitId := accepted.executionUnitId
      unitAttemptId := accepted.unitAttemptId
      acceptedSealId := accepted.sealId
      acceptedContentHash := accepted.contentHash
      conflictingSealId := conflicting.sealId
      conflictingContentHash := conflicting.contentHash
      signatureKid := conflicting.signatureKid
      observedAt := observedAt }
  update fun db =>
    if ∃ i ∈ db.incidents, i.unitAttemptId = incident.unitAttemptId ∧
        i.conflictingContentHash = incident.conflictingContentHash then db
    else { db with incidents := db.incidents ++ [incident] }

/-- `finalize`, behind the verifier of signatures. No reference is answered for a conflict: its
incident commits, and the caller then gets ATTEMPT_SEAL_CONTENT_CONFLICT. -/
def finalize (verify : AttemptSeal → Bool) (tenantId : Uuid) (fact : AttemptSeal)
    (now clock : Instant) : Op (Option ResultRef) := do
  raiseIf (fact.tenantId ≠ tenantId) (.finalization "ATTEMPT_SEAL_TENANT_MISMATCH")
  raiseIf (!verify fact) (.finalization "ATTEMPT_SEAL_SIGNATURE_INVALID")
  let (run, unit, attempt) ← requireExactScope fact
  let existing ← read fun db => db.getSealByAttempt fact.unitAttemptId
  match existing with
  | some accepted => do
    let foundRef ← read fun db => db.getRefByAttempt fact.unitAttemptId
    let ref ← demand foundRef (.finalization "ATTEMPT_RESULT_REF_MISSING")
    if accepted.contentHash = fact.contentHash then do
      requireExactRef ref accepted
      resolveSealedUnit H P unit now
      pure (some ref)
    else do
      requireSealTime fact attempt now
      recordIntegrityIncident accepted fact now
      pure none
  | none => do
    raiseIf (attempt.lifecycle ≠ .running) (.finalization "ATTEMPT_SEAL_NOT_ACTIVE")
    requireSealTime fact attempt now
    raiseIf (fact.dataHygiene ≠ resultHygiene attempt.hygiene)
      (.finalization "ATTEMPT_SEAL_HYGIENE_INVALID")
    let ref ← acceptNewSeal H P run unit attempt fact now clock
    pure (some ref)

end Atlas.Service
