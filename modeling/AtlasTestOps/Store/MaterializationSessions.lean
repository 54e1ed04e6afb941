import AtlasTestOps.Lib.ReadCommitted
import AtlasTestOps.Store.Materialization

/-! The calls of `Store.Materialization` statement by statement, as the sessions of any number of
dispatchers interleave them. A completion locks its partition and then its Run; what it reads of
the Run's other partitions is what is committed at that time. -/

namespace Atlas.Store

open Atlas Atlas.Task ReadCommitted

/-- What is locked: a row, or an entry of the index that a Run's trigger is unique by. -/
inductive MaterializationLock
  | partition (id : Uuid)
  | run (id : Uuid)
  | trigger (trigger : RunTrigger)
deriving DecidableEq, Repr

abbrev MaterializationBody (α : Type) := Body MaterializationDb MaterializationLock Fault α

/-! Every change writes rows as its transaction has read them. The ids of new rows are drawn by
`gen_random_uuid`: nobody can know them before the commit, which is when they are numbered. -/

namespace MaterializationDb

variable (db : MaterializationDb)

/-- The new versions of rows. -/
def putPartitions (rows : List MaterializationPartition) : MaterializationDb :=
  { db with partitions := db.partitions.map fun p => (rows.find? fun row => row.id = p.id).getD p }

def putRun (row : TaskRun) : MaterializationDb :=
  { db with runs := Table.modify TaskRun.id row.id (fun _ => row) db.runs }

end MaterializationDb

/-! ### Creation and claims -/

/-- `create_partitioned_run` -/
def createStatements (run : TaskRun) (manifest : TaskRunManifest) (trigger : RunTrigger)
    (provenance : Except Fault Unit) : MaterializationBody Bool := do
  let unitCount := manifest.units.length
  raiseIf (¬ (maxInitialExecutionUnits < unitCount ∧ unitCount ≤ maxTaskRunUnits))
    (.validation "partitioned TaskRun materialization requires between 65 and 100000 Units")
  raiseIf (manifest.toRunScope ≠ run.toRunScope)
    (.validation "TaskRunManifest must match the partitioned TaskRun root")
  raiseIf (run.materializationState ≠ .materializing)
    (.validation "a new partitioned TaskRun must begin in MATERIALIZING state")
  raiseIf (run.temporalNamespace = none ∨ run.temporalWorkflowId = none)
    (.validation "a new partitioned TaskRun requires a Temporal identity")
  raiseIf (run.temporalWorkflowId ≠ some (taskRunWorkflowId run.tenantId run.id))
    (.validation "TaskRun temporalWorkflowId is not deterministic")
  match provenance with
  | .error fault => Body.raise fault
  | .ok _ => do
    -- who inserts an entry of a unique index waits for a transaction that has inserted it
    let existing ← selectForUpdate (.trigger trigger) fun db =>
      db.triggers.any fun t => t.1 = trigger
    if existing then pure false
    else do
      let taken ← selectForUpdate (.run run.id) fun db =>
        (db.getRun run.id).isSome || (db.getManifest run.id).isSome
      raiseIf taken (.constraint "task_run_pkey")
      change fun db => { db with
        runs := db.runs ++ [run]
        triggers := db.triggers ++ [(trigger, run.id)] }
      change fun db => { db with manifests := db.manifests ++ [manifest] }
      change fun db => { db with
        partitions := db.partitions ++
          (List.range (partitionCount unitCount)).map (newPartition run unitCount db.nextId)
        nextId := db.nextId + partitionCount unitCount }
      pure true

/-- The rows that a claim may take, in their order. -/
def dueRows (now : Instant) (db : MaterializationDb) : List MaterializationPartition :=
  (db.partitions.filter fun p => p.claimable now).insertionSort fun p q => p.before q = true

/-- `claim_task_run_materialization_partitions` -/
def claimStatements (claimedBy : String) (limit leaseSeconds : ℕ) (now : Instant) :
    MaterializationBody (List MaterializationPartition) := do
  raiseIf (matchesClaimant claimedBy = false ∨ limit < 1 ∨ 100 < limit ∨ leaseSeconds < 1 ∨
    900 < leaseSeconds) (.constraint "materialization partition claim input is invalid")
  let candidates ← selectSkipLocked
    (fun db => (dueRows now db).map fun p => MaterializationLock.partition p.id) limit
    fun free db => (dueRows now db).filter fun p => MaterializationLock.partition p.id ∈ free
  let ids := candidates.map MaterializationPartition.id
  change fun db => { db.putPartitions
      (candidates.map (claimRow ids db.nextId claimedBy leaseSeconds now)) with
    nextId := db.nextId + ids.length }
  select fun db => db.partitions.filter fun p => p.id ∈ ids

/-- `update … where`: the row is locked, and its condition is tested on the committed row. -/
def releaseStatements (claim : PartitionClaim) (now : Instant)
    (f : MaterializationPartition → MaterializationPartition) : MaterializationBody Bool := do
  let held ← selectForUpdate (.partition claim.partitionId) fun db =>
    db.partitions.find? fun p => p.heldBy claim now
  match held with
  | none => pure false
  | some p => do
    change fun db => db.putPartitions [f p]
    pure true

/-- `retry_task_run_materialization_partition` -/
def retryStatements (claim : PartitionClaim) (errorCode : String) (retryDelayMs : ℕ)
    (now : Instant) : MaterializationBody Bool := do
  raiseIf (matchesCode 0 63 errorCode = false ∨ retryDelayMs < 100 ∨ 3600000 < retryDelayMs)
    (.constraint "materialization partition retry input is invalid")
  releaseStatements claim now fun p =>
    { p.release .retryWait now with
      availableAt := now + retryDelayMs * 1000, lastErrorCode := some errorCode }

/-- `fail_task_run_materialization_partition` -/
def failStatements (claim : PartitionClaim) (errorCode : String) (now : Instant) :
    MaterializationBody Bool := do
  raiseIf (matchesCode 0 63 errorCode = false)
    (.constraint "materialization partition failure input is invalid")
  releaseStatements claim now fun p =>
    { p.release .failed now with lastErrorCode := some errorCode }

/-! ### Completion -/

/-- `seal_task_run_materialization` -/
def sealStatements (taskRunId : Uuid) (expectedRevision : ℕ) (dependencies : Except Fault Unit)
    (now : Instant) : MaterializationBody TaskRun := do
  let foundRun ← selectForUpdate (.run taskRunId) fun db => db.getRun taskRunId
  let run ← demand foundRun (.constraint "task run is missing from the current tenant")
  raiseIf (run.revision ≠ expectedRevision) (.constraint "task run revision conflict")
  raiseIf (run.materializationState ≠ .materializing ∨ run.requestDigest = none)
    (.constraint "task run is not eligible for materialization seal")
  let foundManifest ← select fun db => db.getManifest taskRunId
  let manifest ← demand foundManifest (.constraint "task run seal requires one bounded manifest")
  let unitCount := manifest.units.length
  raiseIf (unitCount < 1 ∨ maxTaskRunUnits < unitCount)
    (.constraint "task run seal requires one bounded manifest")
  let partitions ← select fun db => db.partitionsOf taskRunId
  raiseIf (64 < unitCount ∧ (partitions = [] ∨ partitions.any (badCheckpoint unitCount) ∨
      partitions.length ≠ partitionCount unitCount))
    (.constraint "task run seal requires every materialization partition checkpoint")
  let units ← select fun db => db.unitsOf taskRunId
  let attempts ← select fun db => db.attemptsOf taskRunId
  let firstAttempts := attempts.countP fun a => a.attemptNumber = 1
  raiseIf (units.length ≠ unitCount ∨ attempts.length ≠ unitCount ∨ firstAttempts ≠ unitCount)
    (.constraint "task run seal requires every Unit and exactly its first Attempt")
  match dependencies with
  | .error fault => Body.raise fault
  | .ok _ => do
    let updated := materializedRun run units.length firstAttempts now
    change fun db => db.putRun updated
    let started ← select fun db => db.startIntents.any fun i => i.taskRunId = taskRunId
    raiseIf started (.constraint "task_workflow_start_intent_pkey")
    change fun db => { db with startIntents := db.startIntents ++
      [⟨taskRunId, run.temporalNamespace, run.temporalWorkflowId, run.requestDigest, now⟩] }
    pure updated

/-- What the loop over the cells of the partition inserts. -/
def insertCells (p : MaterializationPartition) (run : TaskRun) (manifest : TaskRunManifest)
    (now : Instant) (db : MaterializationDb) : MaterializationDb :=
  { db with
    units := db.units ++ p.ordinals.filterMap (unitRow run manifest db.nextId now)
    attempts := db.attempts ++ p.ordinals.filterMap (attemptRow run manifest db.nextId now)
    nextId := unitIdAt db.nextId (p.lastOrdinal + 1) }

/-- `complete_task_run_materialization_partition`; `now` is read before the partition's lock. -/
def completeStatements (claim : PartitionClaim) (dependencies : Except Fault Unit)
    (now : Instant) : MaterializationBody (Option Bool) := do
  let found ← selectForUpdate (.partition claim.partitionId) fun db =>
    db.partitions.find? fun p => p.heldBy claim now
  match found with
  | none => pure none
  | some p => do
    let ineligible : Fault := .constraint "materialization partition facts are not eligible"
    let foundRun ← selectForUpdate (.run p.taskRunId) fun db => db.getRun p.taskRunId
    let run ← demand foundRun ineligible
    let foundManifest ← select fun db => db.getManifest p.taskRunId
    let manifest ← demand foundManifest ineligible
    let present ← select fun db => (db.unitsOf run.id).any fun u => p.covers u.ordinal
    raiseIf (run.materializationState ≠ .materializing ∨ manifest.units.length ≤ 64 ∨
        p.lastOrdinal ≠ lastOrdinalOf p.partitionIndex manifest.units.length ∨ present)
      ineligible
    change (insertCells p run manifest now)
    let inserted ← select fun db => (db.unitsOf run.id).filter fun u => p.covers u.ordinal
    raiseIf (inserted.length ≠ p.lastOrdinal - p.firstOrdinal + 1)
      (.constraint "materialization partition did not create exact Unit coverage")
    change fun db => db.putPartitions [p.complete now]
    let remaining ← select fun db => (db.partitionsOf run.id).any fun p => p.status ≠ .completed
    if remaining then pure (some false)
    else do
      let _ ← sealStatements run.id run.revision dependencies now
      pure (some true)

/-! ### Interleavings -/

/-- The statements of a call, each call in a transaction of its own. -/
def MaterializationEvent.statements : MaterializationEvent → MaterializationBody Unit
  | .create run manifest trigger provenance =>
    discard (createStatements run manifest trigger provenance)
  | .claim claimedBy limit leaseSeconds now =>
    discard (claimStatements claimedBy limit leaseSeconds now)
  | .complete c dependencies now => discard (completeStatements c dependencies now)
  | .retry c errorCode retryDelayMs now => discard (retryStatements c errorCode retryDelayMs now)
  | .fail c errorCode now => discard (failStatements c errorCode now)

abbrev MaterializationSystem :=
  System MaterializationEvent MaterializationDb MaterializationLock Fault Unit

def MaterializationSystem.apply (sys : MaterializationSystem) (e : Event MaterializationEvent) :
    MaterializationSystem := System.apply MaterializationEvent.statements sys e

/-- Reached from the empty tables by any interleaving of any calls. -/
def MaterializationReached (sys : MaterializationSystem) : Prop :=
  Reached MaterializationEvent.statements .empty sys

end Atlas.Store
