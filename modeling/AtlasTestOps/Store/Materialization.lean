import AtlasTestOps.Task.Models
import AtlasTestOps.Lib.Table

/-! Materialization of large Runs: a Run of more than 64 Units is created with one partition
for every 64 ordinals. Dispatchers claim partitions under a lease; the completion of a
partition inserts its Units with their first Attempts, and the last one seals the Run. -/

namespace Atlas.Store

open Atlas Atlas.Task Txn

inductive MaterializationPartitionStatus
  | pending | claimed | retryWait | completed | failed
deriving DecidableEq, Repr

structure MaterializationPartition extends RunScope where
  id : Uuid
  partitionIndex : ℕ
  firstOrdinal : ℕ
  lastOrdinal : ℕ
  status : MaterializationPartitionStatus
  availableAt : Instant
  claimToken : Option Uuid
  claimedBy : Option String
  claimExpiresAt : Option Instant
  materializationAttempts : ℕ
  materializedUnitCount : Option ℕ
  materializedFirstAttemptCount : Option ℕ
  lastErrorCode : Option String
  revision : ℕ
  createdAt : Instant
  updatedAt : Instant
deriving DecidableEq, Repr

/-- The row of the intent that starts the Root of a sealed Run. -/
structure TaskRunStartIntent where
  taskRunId : Uuid
  temporalNamespace : Option String
  workflowId : Option WorkflowId
  requestDigest : Option Digest
  createdAt : Instant
deriving DecidableEq, Repr

/-- What `task_run` is unique by. -/
structure RunTrigger where
  tenantId : Uuid
  source : String
  fingerprint : String
deriving DecidableEq, Repr

structure MaterializationDb where
  runs : List TaskRun
  manifests : List TaskRunManifest
  triggers : List (RunTrigger × Uuid)
  partitions : List MaterializationPartition
  units : List ExecutionUnit
  attempts : List UnitAttempt
  startIntents : List TaskRunStartIntent
  nextId : Uuid
deriving DecidableEq, Repr

abbrev MaterializationOp (α : Type) := Tx MaterializationDb Fault α

/-- `MAX_INITIAL_EXECUTION_UNITS` -/
def maxInitialExecutionUnits : ℕ := 64

/-- `MAX_TASK_RUN_UNITS` -/
def maxTaskRunUnits : ℕ := 100000

/-- `ceil(unit_count / 64)` -/
def partitionCount (unitCount : ℕ) : ℕ := (unitCount + 63) / 64

def firstOrdinalOf (index : ℕ) : ℕ := index * 64 + 1

def lastOrdinalOf (index unitCount : ℕ) : ℕ := min ((index + 1) * 64) unitCount

namespace MaterializationDb

variable (db : MaterializationDb)

def getRun (id : Uuid) : Option TaskRun := db.runs.find? fun r => r.id = id

def getManifest (taskRunId : Uuid) : Option TaskRunManifest :=
  db.manifests.find? fun m => m.taskRunId = taskRunId

def partitionsOf (taskRunId : Uuid) : List MaterializationPartition :=
  db.partitions.filter fun p => p.taskRunId = taskRunId

def unitsOf (taskRunId : Uuid) : List ExecutionUnit :=
  db.units.filter fun u => u.taskRunId = taskRunId

def attemptsOf (taskRunId : Uuid) : List UnitAttempt :=
  db.attempts.filter fun a => a.taskRunId = taskRunId

end MaterializationDb

/-! ### Creation -/

def newPartition (run : TaskRun) (unitCount : ℕ) (firstId : Uuid) (index : ℕ) :
    MaterializationPartition where
  toRunScope := run.toRunScope
  id := firstId + index
  partitionIndex := index
  firstOrdinal := firstOrdinalOf index
  lastOrdinal := lastOrdinalOf index unitCount
  status := .pending
  availableAt := run.createdAt
  claimToken := none
  claimedBy := none
  claimExpiresAt := none
  materializationAttempts := 0
  materializedUnitCount := none
  materializedFirstAttemptCount := none
  lastErrorCode := none
  revision := 1
  createdAt := run.createdAt
  updatedAt := run.createdAt

/-- `create_partitioned_run`. The checks of the digests and of the provenance of the Manifest
are the input `provenance`; false is an existing Run. -/
def createPartitionedRun (run : TaskRun) (manifest : TaskRunManifest) (trigger : RunTrigger)
    (provenance : Except Fault Unit) : MaterializationOp Bool := do
  let unitCount := manifest.units.length
  raiseIf (¬ (maxInitialExecutionUnits < unitCount ∧ unitCount ≤ maxTaskRunUnits))
    (.validation "partitioned TaskRun materialization requires between 65 and 100000 Units")
  raiseIf (manifest.toRunScope ≠ run.toRunScope)
    (.validation "TaskRunManifest must match the partitioned TaskRun root")
  raiseIf (run.materializationState ≠ .materializing)
    (.validation "a new partitioned TaskRun must begin in MATERIALIZING state")
  raiseIf (run.temporalNamespace = none ∨ run.temporalWorkflowId = none)
    (.validation "a new partitioned TaskRun requires a Temporal identity")
  raiseIf (run.temporalWorkflowId ≠ some (taskRunWorkflowId run.tenantId run.id))
    (.validation "TaskRun temporalWorkflowId is not deterministic")
  match provenance with
  | .error fault => raise fault
  | .ok _ => do
    let existing ← read fun db => db.triggers.any fun t => t.1 = trigger
    if existing then pure false
    else do
      let taken ← read fun db => (db.getRun run.id).isSome || (db.getManifest run.id).isSome
      raiseIf taken (.constraint "task_run_pkey")
      update fun db => { db with
        runs := db.runs ++ [run]
        manifests := db.manifests ++ [manifest]
        triggers := db.triggers ++ [(trigger, run.id)]
        partitions := db.partitions ++
          (List.range (partitionCount unitCount)).map (newPartition run unitCount db.nextId)
        nextId := db.nextId + partitionCount unitCount }
      pure true

/-! ### Claims -/

/-- A claim names its partition as it was when it was claimed. -/
structure PartitionClaim where
  partitionId : Uuid
  claimToken : Uuid
  revision : ℕ
  claimedBy : String
deriving DecidableEq, Repr

/-- The partition is under this claim, and the lease has not run out. -/
def MaterializationPartition.heldBy (p : MaterializationPartition) (claim : PartitionClaim)
    (now : Instant) : Bool :=
  p.id = claim.partitionId ∧ p.status = .claimed ∧ p.claimToken = some claim.claimToken ∧
    p.revision = claim.revision ∧ p.claimedBy = some claim.claimedBy ∧
    p.claimExpiresAt.any fun expires => now < expires

def MaterializationPartition.claimable (p : MaterializationPartition) (now : Instant) : Bool :=
  (p.status ∈ [.pending, .retryWait] ∧ p.availableAt ≤ now) ∨
    (p.status = .claimed ∧ p.claimExpiresAt.any fun expires => expires ≤ now)

/-- `order by` of the candidates -/
def MaterializationPartition.before (p q : MaterializationPartition) : Bool :=
  let due (p : MaterializationPartition) : Instant :=
    if p.status = .claimed then p.claimExpiresAt.getD 0 else p.availableAt
  due p < due q ∨ (due p = due q ∧
    (p.createdAt < q.createdAt ∨ (p.createdAt = q.createdAt ∧ p.id ≤ q.id)))

def MaterializationPartition.claim (p : MaterializationPartition) (token : Uuid)
    (claimedBy : String) (leaseSeconds : ℕ) (now : Instant) : MaterializationPartition :=
  { p with
    status := .claimed, claimToken := some token, claimedBy := some claimedBy
    claimExpiresAt := some (now + seconds leaseSeconds)
    materializationAttempts := p.materializationAttempts + 1
    revision := p.revision + 1, updatedAt := now }

/-- The row after its lease is given back. -/
def MaterializationPartition.release (p : MaterializationPartition)
    (status : MaterializationPartitionStatus) (now : Instant) : MaterializationPartition :=
  { p with
    status := status, claimToken := none, claimedBy := none, claimExpiresAt := none
    revision := p.revision + 1, updatedAt := now }

def claimRow (candidates : List Uuid) (firstToken : Uuid) (claimedBy : String) (leaseSeconds : ℕ)
    (now : Instant) (p : MaterializationPartition) : MaterializationPartition :=
  if p.id ∈ candidates then
    p.claim (firstToken + candidates.idxOf p.id) claimedBy leaseSeconds now
  else p

/-- `^[A-Za-z0-9][-A-Za-z0-9._:/]{0,127}$` -/
def matchesClaimant (claimedBy : String) : Bool :=
  match claimedBy.toList with
  | [] => false
  | c :: cs => c.isAlphanum && cs.length ≤ 127 &&
    cs.all fun c => c.isAlphanum || c ∈ ['.', '_', ':', '/', '-']

/-- `claim_task_run_materialization_partitions` -/
def claimPartitions (claimedBy : String) (limit leaseSeconds : ℕ) (now : Instant) :
    MaterializationOp (List MaterializationPartition) := do
  raiseIf (matchesClaimant claimedBy = false ∨ limit < 1 ∨ 100 < limit ∨ leaseSeconds < 1 ∨
    900 < leaseSeconds) (.constraint "materialization partition claim input is invalid")
  let candidates ← read fun db =>
    (((db.partitions.filter fun p => p.claimable now).insertionSort fun p q =>
      p.before q = true).take limit).map MaterializationPartition.id
  update fun db => { db with
    partitions := db.partitions.map (claimRow candidates db.nextId claimedBy leaseSeconds now)
    nextId := db.nextId + candidates.length }
  read fun db => db.partitions.filter fun p => p.id ∈ candidates

def releaseRow (claim : PartitionClaim) (now : Instant)
    (f : MaterializationPartition → MaterializationPartition) (p : MaterializationPartition) :
    MaterializationPartition :=
  if p.heldBy claim now then f p else p

/-- The update of a row that is still under the claim; false when there is none. -/
def releasePartition (claim : PartitionClaim) (now : Instant)
    (f : MaterializationPartition → MaterializationPartition) : MaterializationOp Bool := do
  let held ← read fun db => db.partitions.any fun p => p.heldBy claim now
  update fun db => { db with partitions := db.partitions.map (releaseRow claim now f) }
  pure held

/-- `retry_task_run_materialization_partition` -/
def retryPartition (claim : PartitionClaim) (errorCode : String) (retryDelayMs : ℕ)
    (now : Instant) : MaterializationOp Bool := do
  raiseIf (matchesCode 0 63 errorCode = false ∨ retryDelayMs < 100 ∨ 3600000 < retryDelayMs)
    (.constraint "materialization partition retry input is invalid")
  releasePartition claim now fun p =>
    { p.release .retryWait now with
      availableAt := now + retryDelayMs * 1000, lastErrorCode := some errorCode }

/-- `fail_task_run_materialization_partition` -/
def failPartition (claim : PartitionClaim) (errorCode : String) (now : Instant) :
    MaterializationOp Bool := do
  raiseIf (matchesCode 0 63 errorCode = false)
    (.constraint "materialization partition failure input is invalid")
  releasePartition claim now fun p =>
    { p.release .failed now with lastErrorCode := some errorCode }

/-! ### The seal -/

/-- Some partition of the Run is not the checkpoint that its place demands. -/
def badCheckpoint (unitCount : ℕ) (p : MaterializationPartition) : Bool :=
  p.status ≠ .completed ∨ p.firstOrdinal ≠ firstOrdinalOf p.partitionIndex ∨
    p.lastOrdinal ≠ lastOrdinalOf p.partitionIndex unitCount ∨
    p.materializedUnitCount ≠ some (p.lastOrdinal - p.firstOrdinal + 1) ∨
    p.materializedFirstAttemptCount ≠ p.materializedUnitCount

def materializedRun (run : TaskRun) (unitCount firstAttemptCount : ℕ) (now : Instant) : TaskRun :=
  { run with
    materializationState := .sealed, materializedUnitCount := some unitCount
    materializedFirstAttemptCount := some firstAttemptCount
    revision := run.revision + 1, updatedAt := now }

/-- `seal_task_run_materialization`. The checks of the digests, of the published dependencies, of
the role bindings and of the Workflow registry are the input `dependencies`. -/
def sealTaskRunMaterialization (taskRunId : Uuid) (expectedRevision : ℕ)
    (dependencies : Except Fault Unit) (now : Instant) : MaterializationOp TaskRun := do
  let foundRun ← read fun db => db.getRun taskRunId
  let run ← demand foundRun (.constraint "task run is missing from the current tenant")
  raiseIf (run.revision ≠ expectedRevision) (.constraint "task run revision conflict")
  raiseIf (run.materializationState ≠ .materializing ∨ run.requestDigest = none)
    (.constraint "task run is not eligible for materialization seal")
  let foundManifest ← read fun db => db.getManifest taskRunId
  let manifest ← demand foundManifest (.constraint "task run seal requires one bounded manifest")
  let unitCount := manifest.units.length
  raiseIf (unitCount < 1 ∨ maxTaskRunUnits < unitCount)
    (.constraint "task run seal requires one bounded manifest")
  let partitions ← read fun db => db.partitionsOf taskRunId
  raiseIf (64 < unitCount ∧ (partitions = [] ∨ partitions.any (badCheckpoint unitCount) ∨
      partitions.length ≠ partitionCount unitCount))
    (.constraint "task run seal requires every materialization partition checkpoint")
  let units ← read fun db => db.unitsOf taskRunId
  let attempts ← read fun db => db.attemptsOf taskRunId
  let firstAttempts := attempts.countP fun a => a.attemptNumber = 1
  raiseIf (units.length ≠ unitCount ∨ attempts.length ≠ unitCount ∨ firstAttempts ≠ unitCount)
    (.constraint "task run seal requires every Unit and exactly its first Attempt")
  match dependencies with
  | .error fault => raise fault
  | .ok _ => do
    let started ← read fun db => db.startIntents.any fun i => i.taskRunId = taskRunId
    raiseIf started (.constraint "task_workflow_start_intent_pkey")
    let updated := materializedRun run units.length firstAttempts now
    update fun db => { db with
      runs := Table.modify TaskRun.id taskRunId (fun _ => updated) db.runs
      startIntents := db.startIntents ++
        [⟨taskRunId, run.temporalNamespace, run.temporalWorkflowId, run.requestDigest, now⟩] }
    pure updated

/-! ### Completion -/

/-- The state of a row that nothing has run yet. -/
def queuedState (now : Instant) : ExecutionState where
  lifecycle := .queued
  quality := .pending
  hygiene := .pending
  startedAt := none
  finalizedAt := none
  cleanupResolvedAt := none
  closedAt := none
  revision := 1
  updatedAt := now

/-- The Unit that a Manifest cell becomes; its ordinal is the place in the Manifest. -/
def materializedUnit (run : TaskRun) (id : Uuid) (ordinal : ℕ) (cell : ExecutionUnitManifest)
    (now : Instant) : ExecutionUnit where
  toRunScope := run.toRunScope
  executionUnitId := id
  unitKey := cell.unitKey
  toUnitPins := { cell.toUnitPins with ordinal := ordinal }
  toExecutionState := queuedState now
  createdAt := now

/-- `interval '30 days'` -/
def executionWindow : ℕ := seconds (30 * 24 * 3600)

def materializedAttempt (run : TaskRun) (id unitId : Uuid) (cell : ExecutionUnitManifest)
    (now : Instant) : UnitAttempt where
  toRunScope := run.toRunScope
  executionUnitId := unitId
  unitKey := cell.unitKey
  toExecutionState := queuedState now
  id := id
  caseVersionId := cell.caseVersionId
  attemptNumber := 1
  temporalNamespace := run.temporalNamespace
  temporalWorkflowId := some (unitAttemptWorkflowId run.tenantId id)
  queuedAt := now
  executionDeadline := now + executionWindow
  createdAt := now

/-- Two new ids for every ordinal: the Unit's and its Attempt's. -/
def unitIdAt (nextId : Uuid) (ordinal : ℕ) : Uuid := nextId + 2 * ordinal

def unitRow (run : TaskRun) (manifest : TaskRunManifest) (nextId : Uuid) (now : Instant)
    (ordinal : ℕ) : Option ExecutionUnit :=
  manifest.units[ordinal - 1]?.map fun cell =>
    materializedUnit run (unitIdAt nextId ordinal) ordinal cell now

def attemptRow (run : TaskRun) (manifest : TaskRunManifest) (nextId : Uuid) (now : Instant)
    (ordinal : ℕ) : Option UnitAttempt :=
  manifest.units[ordinal - 1]?.map fun cell =>
    materializedAttempt run (unitIdAt nextId ordinal + 1) (unitIdAt nextId ordinal) cell now

def MaterializationPartition.ordinals (p : MaterializationPartition) : List ℕ :=
  List.range' p.firstOrdinal (p.lastOrdinal - p.firstOrdinal + 1)

def MaterializationPartition.covers (p : MaterializationPartition) (ordinal : ℕ) : Bool :=
  p.firstOrdinal ≤ ordinal ∧ ordinal ≤ p.lastOrdinal

def MaterializationPartition.complete (p : MaterializationPartition) (now : Instant) :
    MaterializationPartition :=
  { p.release .completed now with
    materializedUnitCount := some (p.lastOrdinal - p.firstOrdinal + 1)
    materializedFirstAttemptCount := some (p.lastOrdinal - p.firstOrdinal + 1) }

/-- The Units and first Attempts of the partition, and its own row. -/
def insertPartition (p : MaterializationPartition) (run : TaskRun) (manifest : TaskRunManifest)
    (now : Instant) : MaterializationOp Unit := do
  update fun db => { db with
    units := db.units ++ p.ordinals.filterMap (unitRow run manifest db.nextId now)
    attempts := db.attempts ++ p.ordinals.filterMap (attemptRow run manifest db.nextId now)
    nextId := unitIdAt db.nextId (p.lastOrdinal + 1) }
  let units ← read fun db => (db.unitsOf run.id).filter fun u => p.covers u.ordinal
  raiseIf (units.length ≠ p.lastOrdinal - p.firstOrdinal + 1)
    (.constraint "materialization partition did not create exact Unit coverage")
  update fun db => { db with
    partitions := Table.modify MaterializationPartition.id p.id (fun p => p.complete now)
      db.partitions }

/-- `complete_task_run_materialization_partition`: none when the claim is lost, else whether the
Run was sealed. -/
def completePartition (claim : PartitionClaim) (dependencies : Except Fault Unit) (now : Instant) :
    MaterializationOp (Option Bool) := do
  let found ← read fun db => db.partitions.find? fun p => p.heldBy claim now
  match found with
  | none => pure none
  | some p => do
    let ineligible : Fault := .constraint "materialization partition facts are not eligible"
    let foundRun ← read fun db => db.getRun p.taskRunId
    let run ← demand foundRun ineligible
    let foundManifest ← read fun db => db.getManifest p.taskRunId
    let manifest ← demand foundManifest ineligible
    let present ← read fun db => (db.unitsOf run.id).any fun u => p.covers u.ordinal
    raiseIf (run.materializationState ≠ .materializing ∨ manifest.units.length ≤ 64 ∨
        p.lastOrdinal ≠ lastOrdinalOf p.partitionIndex manifest.units.length ∨ present)
      ineligible
    insertPartition p run manifest now
    let remaining ← read fun db => (db.partitionsOf run.id).any fun p => p.status ≠ .completed
    if remaining then pure (some false)
    else do
      let _ ← sealTaskRunMaterialization run.id run.revision dependencies now
      pure (some true)

/-! ### Runs of the system -/

/-- What callers may do, each call as one step; `MaterializationEvent.statements` has its
statements. -/
inductive MaterializationEvent
  | create (run : TaskRun) (manifest : TaskRunManifest) (trigger : RunTrigger)
      (provenance : Except Fault Unit)
  | claim (claimedBy : String) (limit leaseSeconds : ℕ) (now : Instant)
  | complete (claim : PartitionClaim) (dependencies : Except Fault Unit) (now : Instant)
  | retry (claim : PartitionClaim) (errorCode : String) (retryDelayMs : ℕ) (now : Instant)
  | fail (claim : PartitionClaim) (errorCode : String) (now : Instant)

def MaterializationEvent.transaction : MaterializationEvent → MaterializationOp Unit
  | .create run manifest trigger provenance =>
    discard (createPartitionedRun run manifest trigger provenance)
  | .claim claimedBy limit leaseSeconds now =>
    discard (claimPartitions claimedBy limit leaseSeconds now)
  | .complete c dependencies now => discard (completePartition c dependencies now)
  | .retry c errorCode retryDelayMs now => discard (retryPartition c errorCode retryDelayMs now)
  | .fail c errorCode now => discard (failPartition c errorCode now)

def MaterializationEvent.apply (e : MaterializationEvent) (db : MaterializationDb) :
    MaterializationDb := after e.transaction db

def MaterializationDb.empty : MaterializationDb :=
  { runs := [], manifests := [], triggers := [], partitions := [], units := [], attempts := []
    startIntents := [], nextId := 0 }

/-- Reached from the empty tables. -/
inductive Materialized : MaterializationDb → Prop
  | empty : Materialized .empty
  | step {db : MaterializationDb} (e : MaterializationEvent) : Materialized db →
      Materialized (e.apply db)

end Atlas.Store
