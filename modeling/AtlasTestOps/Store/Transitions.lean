import AtlasTestOps.Lib.Table
import AtlasTestOps.Store.Db

/-! The state transitions of Run, Unit and Attempt, the retry Attempts and the event ledger,
with the checks that the database itself makes on each write. -/

namespace Atlas.Store

open Atlas Atlas.Task Atlas.Result Txn

/-- `task_execution_state_valid` -/
def taskExecutionStateValid (s : ExecutionState) (createdAt : Instant) : Bool :=
  createdAt ≤ s.updatedAt ∧
    (∀ t ∈ s.startedAt, createdAt ≤ t) ∧ (∀ t ∈ s.finalizedAt, createdAt ≤ t) ∧
    (∀ t ∈ s.cleanupResolvedAt, createdAt ≤ t) ∧ (∀ t ∈ s.closedAt, createdAt ≤ t) ∧
    (∀ t ∈ s.startedAt, ∀ t' ∈ s.finalizedAt, t ≤ t') ∧
    (s.lifecycle = .queued → s.startedAt = none) ∧
    (s.lifecycle ∈ [.running, .pauseRequested, .paused] → s.startedAt ≠ none) ∧
    (s.quality = .pending ↔ s.finalizedAt = none) ∧
    (s.quality = .pending ∨ s.lifecycle ∈ [.finalizing, .closed]) ∧
    (s.hygiene ∈ [.cleaned, .leaked] ↔ s.cleanupResolvedAt ≠ none) ∧
    (s.lifecycle = .closed → s.quality ≠ .pending) ∧
    (s.lifecycle = .closed ↔ s.closedAt ≠ none) ∧
    (∀ t ∈ s.closedAt, ∀ t' ∈ s.finalizedAt, t' ≤ t)

/-- `task_lifecycle_transition_valid` -/
def taskLifecycleTransitionValid (old new : ExecutionLifecycle) : Bool :=
  old = new ∨ new ∈ match old with
    | .queued => [ExecutionLifecycle.running, .canceling, .finalizing]
    | .running => [.pauseRequested, .canceling, .finalizing]
    | .pauseRequested => [.running, .paused, .canceling, .finalizing]
    | .paused => [.running, .canceling, .finalizing]
    | .canceling => [.finalizing]
    | .finalizing => [.closed]
    | .closed => []

/-- `task_hygiene_transition_valid` -/
def taskHygieneTransitionValid (old new : ExecutionHygiene) : Bool :=
  old = new ∨ new ∈ match old with
    | .pending => [ExecutionHygiene.running]
    | .running => [.cleaned, .cleanupFailed, .leaked]
    | .cleanupFailed => [.running, .leaked]
    | .notRequired | .cleaned | .leaked => []

/-- A milestone that is set stays as it is. -/
def writtenOnce (old new : Option Instant) : Bool := old = none ∨ new = old

/-- The update guards of the three tables, which differ only in the `row` they name. -/
def updateGuard (row : String) (old new : ExecutionState) : Option String :=
  firstViolation
    [(!taskLifecycleTransitionValid old.lifecycle new.lifecycle,
       row ++ " lifecycle transition is invalid"),
     (!taskHygieneTransitionValid old.hygiene new.hygiene,
       row ++ " hygiene transition is invalid"),
     (old.lifecycle = .closed ∧ ¬ (new.lifecycle = old.lifecycle ∧ new.quality = old.quality ∧
        new.startedAt = old.startedAt ∧ new.finalizedAt = old.finalizedAt ∧
        new.closedAt = old.closedAt),
       "closed " ++ row ++ " lifecycle, quality, and close milestones are immutable"),
     (old.quality ≠ .pending ∧ new.quality ≠ old.quality,
       "resolved " ++ row ++ " quality is immutable"),
     (!(writtenOnce old.startedAt new.startedAt && writtenOnce old.finalizedAt new.finalizedAt &&
        writtenOnce old.cleanupResolvedAt new.cleanupResolvedAt &&
        writtenOnce old.closedAt new.closedAt),
       row ++ " milestone timestamps are write-once"),
     (new.revision ≠ old.revision + 1, row ++ " revision must increase by one")]

/-- The state after a transition: the revision is compared, then the guard and the checks of
the table run. A row with a queue time cannot start before it. -/
def nextState (row : String) (expectedRevision : ℕ) (axes : ExecutionAxes) (old : ExecutionState)
    (createdAt : Instant) (queuedAt : Option Instant) (clock : Instant) : Op ExecutionState := do
  raiseIf (old.revision ≠ expectedRevision) (.constraint (row ++ " revision conflict"))
  let new : ExecutionState := ⟨axes, old.revision + 1, clock⟩
  let guard := updateGuard row old new
  raiseIf (guard ≠ none) (.constraint (guard.getD ""))
  raiseIf (!taskExecutionStateValid new createdAt) (.constraint (row ++ " state shape"))
  raiseIf (∃ q ∈ queuedAt, ∃ t ∈ new.startedAt, t < q) (.constraint (row ++ " time order"))
  pure new

/-- The Run of a transition, which must be sealed. -/
def sealedRun (taskRunId : Uuid) : Op TaskRun := do
  let found ← read fun db => db.getRun taskRunId
  let run ← demand found (.constraint "task run is missing from the current tenant")
  raiseIf (run.materializationState ≠ .sealed)
    (.constraint "task state transitions require a sealed non-legacy TaskRun")
  pure run

/-- `transition_task_run_state` -/
def transitionTaskRunState (taskRunId : Uuid) (expectedRevision : ℕ) (axes : ExecutionAxes)
    (clock : Instant) : Op TaskRun := do
  let run ← sealedRun taskRunId
  let next ← nextState "task run" expectedRevision axes run.toExecutionState run.createdAt
    (some run.queuedAt) clock
  let updated := { run with toExecutionState := next }
  update fun db => { db with run := updated }
  pure updated

/-- `transition_execution_unit_state` -/
def transitionExecutionUnitState (taskRunId executionUnitId : Uuid) (expectedRevision : ℕ)
    (axes : ExecutionAxes) (clock : Instant) : Op ExecutionUnit := do
  let _ ← sealedRun taskRunId
  let found ← read fun db => (db.getUnit executionUnitId).filter fun u => u.taskRunId = taskRunId
  let unit ← demand found (.constraint "execution unit is missing from the TaskRun")
  let next ← nextState "execution unit" expectedRevision axes unit.toExecutionState
    unit.createdAt none clock
  update fun db => { db with
    units := Table.modify (fun u => u.id) executionUnitId
      (fun u => { u with toExecutionState := next }) db.units }
  pure { unit with toExecutionState := next }

/-- `transition_unit_attempt_state` -/
def transitionUnitAttemptState (taskRunId executionUnitId unitAttemptId : Uuid)
    (expectedRevision : ℕ) (axes : ExecutionAxes) (clock : Instant) : Op UnitAttempt := do
  let _ ← sealedRun taskRunId
  let unit ← read fun db => (db.getUnit executionUnitId).filter fun u => u.taskRunId = taskRunId
  raiseIf (unit = none) (.constraint "execution unit is missing from the TaskRun")
  let found ← read fun db => (db.getAttempt unitAttemptId).filter fun a =>
    a.executionUnitId = executionUnitId ∧ a.taskRunId = taskRunId
  let attempt ← demand found (.constraint "unit attempt is missing from the ExecutionUnit")
  let next ← nextState "unit attempt" expectedRevision axes attempt.toExecutionState
    attempt.createdAt (some attempt.queuedAt) clock
  update fun db => { db with
    attempts := Table.modify (fun a => a.id) unitAttemptId
      (fun a => { a with toExecutionState := next }) db.attempts }
  pure { attempt with toExecutionState := next }

/-! Events. -/

def Db.nextTaskExecutionEventSeq (db : Db) : ℕ :=
  ((db.events.map fun e => e.seq).max?).getD 0 + 1

/-- The narrowest row that an event names, and the earliest time it may carry. -/
def Db.eventTarget (db : Db) (event : TaskExecutionEvent) : Option (ExecutionState × Instant) :=
  match event.executionUnitId, event.unitAttemptId with
  | some unitId, some attemptId =>
    (db.getAttempt attemptId).filter (fun a => a.executionUnitId = unitId) |>.map fun a =>
      (a.toExecutionState, a.queuedAt)
  | some unitId, none => (db.getUnit unitId).map fun u => (u.toExecutionState, u.createdAt)
  | none, none => some (db.run.toExecutionState, db.run.queuedAt)
  | none, some _ => none

def occurredFloor (state : ExecutionState) (start : Instant) : Instant :=
  [state.startedAt, state.finalizedAt, state.closedAt, state.cleanupResolvedAt].foldl
    (fun floor milestone => max floor (milestone.getD floor)) start

/-- `append_event`, with `guard_task_run_event_insert` -/
def appendEvent (event : TaskExecutionEvent) : Op Unit := do
  let events ← read Db.events
  raiseIf (∃ e ∈ events, e.id = event.id ∨ e.seq = event.seq)
    (.constraint "task run event identity already stores different immutable content")
  let found ← read fun db => db.eventTarget event
  let target ← demand found (.constraint "task run event scope is invalid")
  raiseIf (event.lifecycle ≠ target.1.lifecycle ∨ event.quality ≠ target.1.quality ∨
      event.hygiene ≠ target.1.hygiene)
    (.constraint "task run event state must match its narrowest scope")
  let seq ← read Db.nextTaskExecutionEventSeq
  raiseIf (event.seq ≠ seq) (.constraint "task run event sequence must be gapless")
  raiseIf (event.occurredAt < occurredFloor target.1 target.2)
    (.constraint "task run event cannot predate its narrowest scope")
  update fun db => { db with events := db.events ++ [event] }

/-! Retry Attempts. -/

/-- The creation facts of an Attempt, without its progress. -/
structure AttemptCreation extends UnitScope where
  id : Uuid
  caseVersionId : Uuid
  attemptNumber : ℕ
  temporalNamespace : Option String
  temporalWorkflowId : Option WorkflowId
  queuedAt : Instant
  executionDeadline : Instant
  createdAt : Instant
deriving DecidableEq

/-- `_attempt_creation_identity` -/
def attemptCreationIdentity (a : UnitAttempt) : AttemptCreation :=
  { a.toUnitScope with
    id := a.id
    caseVersionId := a.caseVersionId
    attemptNumber := a.attemptNumber
    temporalNamespace := a.temporalNamespace
    temporalWorkflowId := a.temporalWorkflowId
    queuedAt := a.queuedAt
    executionDeadline := a.executionDeadline
    createdAt := a.createdAt }

def resolveAttemptReplay (requested existing : UnitAttempt) : Op UnitAttempt := do
  raiseIf (attemptCreationIdentity existing ≠ attemptCreationIdentity requested)
    (.constraint "unit attempt identity already stores different immutable content")
  pure existing

def dispatchable : ExecutionLifecycle → Bool
  | .queued | .running => true
  | _ => false

def retryableQuality : ExecutionQuality → Bool
  | .failed | .blocked | .inconclusive | .infraError | .canceled => true
  | .pending | .passed => false

/-- `_require_retry_prerequisites` -/
def requireRetryPrerequisites (attempt : UnitAttempt) : Op Unit := do
  let foundRun ← read fun db => (db.getRun attempt.taskRunId).filter fun r =>
    r.tenantId = attempt.tenantId ∧ r.projectId = attempt.projectId
  let run ← demand foundRun (.validation "UnitAttempt retry parent scope is missing")
  raiseIf (run.materializationState ≠ .sealed)
    (.validation "UnitAttempt retry requires a SEALED TaskRun")
  raiseIf (!dispatchable run.lifecycle)
    (.validation "UnitAttempt retry requires a dispatchable TaskRun")
  raiseIf (run.temporalNamespace ≠ attempt.temporalNamespace)
    (.validation "UnitAttempt retry must use the TaskRun Temporal namespace")
  let foundUnit ← read fun db => (db.getUnit attempt.executionUnitId).filter fun u =>
    u.taskRunId = attempt.taskRunId ∧ u.tenantId = attempt.tenantId ∧
      u.projectId = attempt.projectId
  let unit ← demand foundUnit (.validation "UnitAttempt retry ExecutionUnit scope is missing")
  raiseIf (!dispatchable unit.lifecycle)
    (.validation "UnitAttempt retry requires a dispatchable ExecutionUnit")
  let previous ← read fun db =>
    db.getAttemptByNumber attempt.executionUnitId (attempt.attemptNumber - 1)
  raiseIf (¬ ∃ p ∈ previous, p.lifecycle = .closed ∧ retryableQuality p.quality)
    (.validation "UnitAttempt retry requires one closed retryable previous Attempt")

/-- The last number that an Attempt of the Unit has. -/
def Db.lastAttemptNumber (db : Db) (executionUnitId : Uuid) : ℕ :=
  ((Rows.newest (fun a => a.attemptNumber)
    (db.attempts.filter fun a => a.executionUnitId = executionUnitId)).map
      fun a => a.attemptNumber).getD 0

/-- `_insert_attempt`, with what `guard_unit_attempt_v2_insert` asks beyond the prerequisites. -/
def insertAttempt (attempt : UnitAttempt) : Op Unit := do
  let unit ← read fun db => db.getUnit attempt.executionUnitId
  raiseIf (¬ ∃ u ∈ unit, u.toUnitScope = attempt.toUnitScope ∧
      u.caseVersionId = attempt.caseVersionId)
    (.constraint "unit attempt requires its exact execution unit")
  let attempts ← read Db.attempts
  raiseIf (∃ a ∈ attempts, a.id = attempt.id)
    (.constraint "unit attempt conflict did not resolve to a stored row")
  let last ← read fun db => db.lastAttemptNumber attempt.executionUnitId
  raiseIf (attempt.attemptNumber ≠ last + 1) (.constraint "unit attempt number must be gapless")
  raiseIf (attempt.revision ≠ 1 ∨ attempt.lifecycle ≠ .queued ∨ attempt.quality ≠ .pending ∨
      attempt.hygiene ∉ [.pending, .notRequired])
    (.constraint "unit attempt must start queued at revision one with initial hygiene")
  raiseIf (attempt.queuedAt < attempt.createdAt ∨ attempt.executionDeadline ≤ attempt.queuedAt)
    (.constraint "unit_attempt_time_order")
  raiseIf (!taskExecutionStateValid attempt.toExecutionState attempt.createdAt)
    (.constraint "unit_attempt_state_shape")
  update fun db => { db with attempts := db.attempts ++ [attempt] }

/-- `create_attempt` -/
def createAttempt (attempt : UnitAttempt) : Op UnitAttempt := do
  raiseIf (attempt.temporalNamespace = none ∨
      attempt.temporalWorkflowId ≠ some (unitAttemptWorkflowId attempt.tenantId attempt.id))
    (.validation "UnitAttempt requires a deterministic Temporal identity")
  let existing ← read fun db =>
    db.getAttemptByNumber attempt.executionUnitId attempt.attemptNumber
  match existing with
  | some stored => resolveAttemptReplay attempt stored
  | none => do
    raiseIf (attempt.attemptNumber ≤ 1)
      (.validation "create_attempt only appends retry attempts after the first Attempt")
    requireRetryPrerequisites attempt
    insertAttempt attempt
    pure attempt

end Atlas.Store
