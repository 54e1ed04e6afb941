import AtlasTestOps.Store.Materialization

/-! The check constraints of `task_run_materialization_partition`. Every statement that writes a
row is tested against them, and a row that fails one rolls the whole transaction back. -/

namespace Atlas.Store

open Atlas Atlas.Task Txn

namespace MaterializationPartition

variable (p : MaterializationPartition)

/-- `task_run_materialization_partition_range_valid` -/
def rangeValid : Bool :=
  p.partitionIndex ≤ 1562 ∧ p.firstOrdinal = p.partitionIndex * 64 + 1 ∧
    p.firstOrdinal ≤ p.lastOrdinal ∧ p.lastOrdinal ≤ p.firstOrdinal + 63 ∧ p.lastOrdinal ≤ 100000

/-- `task_run_materialization_partition_attempts_valid` -/
def attemptsValid : Bool := p.materializationAttempts ≤ 64 ∧ 0 < p.revision

/-- `task_run_materialization_partition_error_valid` -/
def errorValid : Bool := p.lastErrorCode.all (matchesCode 0 63)

def leaseCleared : Bool := p.claimToken = none ∧ p.claimedBy = none ∧ p.claimExpiresAt = none

def countsCleared : Bool := p.materializedUnitCount = none ∧ p.materializedFirstAttemptCount = none

/-- `task_run_materialization_partition_state_valid`. The column `claimed_at` of a claimed row is
its `updated_at`: the claim writes both. -/
def stateValid : Bool :=
  match p.status with
  | .pending | .retryWait | .failed => p.leaseCleared && p.countsCleared
  | .claimed =>
    p.claimToken.isSome && p.claimedBy.isSome &&
      (p.claimExpiresAt.any fun expires => p.updatedAt < expires) && p.countsCleared
  | .completed =>
    p.leaseCleared && p.materializedUnitCount = some (p.lastOrdinal - p.firstOrdinal + 1) &&
      p.materializedFirstAttemptCount = p.materializedUnitCount

/-- `task_run_materialization_partition_time_valid` -/
def timeValid : Bool := p.createdAt ≤ p.availableAt ∧ p.createdAt ≤ p.updatedAt

def rowValid : Bool :=
  p.rangeValid && p.attemptsValid && p.errorValid && p.stateValid && p.timeValid

end MaterializationPartition

/-- The transaction under the table checks. -/
def withChecks {α : Type} (op : MaterializationOp α) : MaterializationOp α := do
  let answer ← op
  let violated ← read fun db => db.partitions.any fun p => p.rowValid = false
  raiseIf violated (.constraint "task_run_materialization_partition")
  pure answer

/-- A call of `claim_task_run_materialization_partitions`. It runs alone: `skip locked` passes over no row
because another call holds it. -/
structure ClaimCall where
  claimedBy : String
  limit : ℕ
  leaseSeconds : ℕ
  now : Instant
deriving DecidableEq, Repr

namespace ClaimCall

variable (call : ClaimCall)

/-- The input that the function accepts. -/
def Valid : Prop := matchesClaimant call.claimedBy = true ∧ 1 ≤ call.limit ∧ call.limit ≤ 100 ∧
  1 ≤ call.leaseSeconds ∧ call.leaseSeconds ≤ 900

instance : Decidable call.Valid := by unfold Valid; infer_instance

theorem Valid.limit_pos {call : ClaimCall} (h : call.Valid) : 1 ≤ call.limit := h.2.1

theorem Valid.lease_pos {call : ClaimCall} (h : call.Valid) : 1 ≤ call.leaseSeconds := h.2.2.2.1

def transaction : MaterializationOp (List MaterializationPartition) :=
  withChecks (claimPartitions call.claimedBy call.limit call.leaseSeconds call.now)

/-- The rows that the call would claim, in its order. -/
def candidates (db : MaterializationDb) : List MaterializationPartition :=
  ((db.partitions.filter fun p => p.claimable call.now).insertionSort fun p q =>
    p.before q = true).take call.limit

/-- Each row of the batch can be claimed once more. -/
def Unspent (db : MaterializationDb) : Prop :=
  ∀ p ∈ call.candidates db, p.materializationAttempts < 64

instance (db : MaterializationDb) : Decidable (call.Unspent db) := by
  unfold Unspent; infer_instance

end ClaimCall

/-! ### Runs under the checks -/

inductive PartitionEvent
  | create (run : TaskRun) (manifest : TaskRunManifest) (trigger : RunTrigger)
      (provenance : Except Fault Unit)
  | claim (call : ClaimCall)
  | complete (claim : PartitionClaim) (dependencies : Except Fault Unit) (now : Instant)
  | retry (claim : PartitionClaim) (errorCode : String) (retryDelayMs : ℕ) (now : Instant)
  | fail (claim : PartitionClaim) (errorCode : String) (now : Instant)

namespace PartitionEvent

/-- The same call without the checks. -/
def unchecked : PartitionEvent → MaterializationEvent
  | .create run manifest trigger provenance => .create run manifest trigger provenance
  | .claim call => .claim call.claimedBy call.limit call.leaseSeconds call.now
  | .complete c dependencies now => .complete c dependencies now
  | .retry c errorCode retryDelayMs now => .retry c errorCode retryDelayMs now
  | .fail c errorCode now => .fail c errorCode now

def apply (e : PartitionEvent) (db : MaterializationDb) : MaterializationDb :=
  after (withChecks e.unchecked.transaction) db

/-- The time that the event writes. -/
def clock : PartitionEvent → Instant
  | .create run _ _ _ => run.createdAt
  | .claim call => call.now
  | .complete _ _ now => now
  | .retry _ _ _ now => now
  | .fail _ _ now => now

def isValidClaim : PartitionEvent → Bool
  | .claim call => call.Valid
  | _ => false

end PartitionEvent

def runPartitionEvents (db : MaterializationDb) (events : List PartitionEvent) :
    MaterializationDb := events.foldl (fun db e => e.apply db) db

/-- Reached from the empty tables by any history of calls, of crashed workers and of expired
leases. -/
inductive PartitionsReached : MaterializationDb → Prop
  | empty : PartitionsReached .empty
  | step {db : MaterializationDb} (e : PartitionEvent) : PartitionsReached db →
      PartitionsReached (e.apply db)

end Atlas.Store
