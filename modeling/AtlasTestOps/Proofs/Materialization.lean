import AtlasTestOps.Lib.Slots
import AtlasTestOps.Store.Materialization

/-! A large Run is materialized exactly. What a completed partition covers has one Unit with one
first Attempt for every ordinal, what no completed partition covers has none, and the Run is
sealed as soon as, and only when, every partition is completed. -/

namespace Atlas.Proofs.Materialization

open Atlas Atlas.Task Atlas.Store Txn

/-! ### What the invariant speaks of -/

/-- A partition without its lease. -/
structure Checkpoint where
  index : ℕ
  first : ℕ
  last : ℕ
  done : Bool
deriving DecidableEq, Repr

def checkpoint (p : MaterializationPartition) : Checkpoint :=
  ⟨p.partitionIndex, p.firstOrdinal, p.lastOrdinal, p.status = .completed⟩

def Checkpoint.range (c : Checkpoint) : ℕ × ℕ × ℕ := (c.index, c.first, c.last)

def Checkpoint.Covers (c : Checkpoint) (o : ℕ) : Prop := c.first ≤ o ∧ o ≤ c.last

section Views

variable (db : MaterializationDb)

def checkpoints (r : Uuid) : List Checkpoint := (db.partitionsOf r).map checkpoint

def unitsAt (r : Uuid) (o : ℕ) : List ExecutionUnit :=
  (db.unitsOf r).filter fun u => u.ordinal = o

def attemptsAt (unitId : Uuid) : List UnitAttempt :=
  db.attempts.filter fun a => a.executionUnitId = unitId

def intentsAt (r : Uuid) : List TaskRunStartIntent :=
  db.startIntents.filter fun i => i.taskRunId = r

end Views

/-- The Unit and the Attempt are those of the Manifest's cell. -/
structure OfCell (u : ExecutionUnit) (a : UnitAttempt) (cell : ExecutionUnitManifest) (o : ℕ) :
    Prop where
  unitKey : u.unitKey = cell.unitKey
  pins : u.toUnitPins = { cell.toUnitPins with ordinal := o }
  attemptKey : a.unitKey = cell.unitKey
  caseVersionId : a.caseVersionId = cell.caseVersionId
  attemptNumber : a.attemptNumber = 1

/-- The ordinal has exactly one Unit, which has exactly one Attempt. -/
def Placed (db : MaterializationDb) (r : Uuid) (m : TaskRunManifest) (o : ℕ) : Prop :=
  ∃ cell u a, m.units[o - 1]? = some cell ∧ unitsAt db r o = [u] ∧
    attemptsAt db u.executionUnitId = [a] ∧ OfCell u a cell o

/-- The places of the partitions of `n` Units. -/
def expectedRange (n i : ℕ) : ℕ × ℕ × ℕ := (i, firstOrdinalOf i, lastOrdinalOf i n)

structure Cover (db : MaterializationDb) (r : Uuid) (m : TaskRunManifest) : Prop where
  count : 64 < m.units.length ∧ m.units.length ≤ 100000
  ranges : (checkpoints db r).map Checkpoint.range =
    (List.range (partitionCount m.units.length)).map (expectedRange m.units.length)
  placed : ∀ c ∈ checkpoints db r, c.done → ∀ o, c.Covers o → Placed db r m o
  vacant : ∀ o, (∀ c ∈ checkpoints db r, c.Covers o → c.done = false) → unitsAt db r o = []

structure SealInv (db : MaterializationDb) (run : TaskRun) (m : TaskRunManifest) : Prop where
  sealed_iff : run.materializationState = .sealed ↔ ∀ c ∈ checkpoints db run.id, c.done
  counted : run.materializationState = .sealed →
    run.materializedUnitCount = some m.units.length ∧
      run.materializedFirstAttemptCount = some m.units.length
  started : (intentsAt db run.id).length = if run.materializationState = .sealed then 1 else 0

structure MaterializationInv (db : MaterializationDb) : Prop where
  partitionIds : (db.partitions.map MaterializationPartition.id).Nodup
  partitionsBelow : ∀ p ∈ db.partitions, p.id < db.nextId
  runIds : (db.runs.map TaskRun.id).Nodup
  runs : ∀ run ∈ db.runs, ∃ m, db.getManifest run.id = some m ∧ Cover db run.id m ∧
    SealInv db run m
  partitionOwners : ∀ p ∈ db.partitions, p.taskRunId ∈ db.runs.map TaskRun.id
  units : ∀ u ∈ db.units, u.taskRunId ∈ db.runs.map TaskRun.id ∧ u.executionUnitId < db.nextId
  attempts : ∀ a ∈ db.attempts, a.executionUnitId < db.nextId
  intents : ∀ i ∈ db.startIntents, i.taskRunId ∈ db.runs.map TaskRun.id

/-! ### Frames -/

section Frame

variable {db db' : MaterializationDb} {r : Uuid} {m : TaskRunManifest} {run : TaskRun}

/-- What a Run looks like from outside its leases. -/
structure SameRun (db db' : MaterializationDb) (r : Uuid) : Prop where
  checkpoints : checkpoints db' r = checkpoints db r
  units : db'.unitsOf r = db.unitsOf r
  attempts : ∀ u ∈ db.unitsOf r, attemptsAt db' u.executionUnitId = attemptsAt db u.executionUnitId
  intents : intentsAt db' r = intentsAt db r

theorem SameRun.placed (h : SameRun db db' r) {o : ℕ} (hp : Placed db r m o) :
    Placed db' r m o := by
  obtain ⟨cell, u, a, hcell, hu, ha, hof⟩ := hp
  have hmem : u ∈ db.unitsOf r := by
    have : u ∈ unitsAt db r o := by rw [hu]; exact List.mem_singleton_self u
    exact List.mem_of_mem_filter this
  refine ⟨cell, u, a, hcell, ?_, (h.attempts u hmem).trans ha, hof⟩
  rwa [unitsAt, h.units]

theorem Cover.same (h : SameRun db db' r) (hc : Cover db r m) : Cover db' r m where
  count := hc.count
  ranges := by rw [h.checkpoints]; exact hc.ranges
  placed := by
    rw [h.checkpoints]
    exact fun c hmem hdone o ho => h.placed (hc.placed c hmem hdone o ho)
  vacant := by
    rw [h.checkpoints]
    intro o ho
    rw [unitsAt, h.units]
    exact hc.vacant o ho

theorem SealInv.same (h : SameRun db db' run.id) (hs : SealInv db run m) : SealInv db' run m where
  sealed_iff := by rw [h.checkpoints]; exact hs.sealed_iff
  counted := hs.counted
  started := by rw [h.intents]; exact hs.started

end Frame

/-! ### Leases -/

/-- An update that leaves every checkpoint as it is. -/
def KeepsCheckpoint (p q : MaterializationPartition) : Prop :=
  q.id = p.id ∧ q.taskRunId = p.taskRunId ∧ checkpoint q = checkpoint p

theorem partitionsOf_map {γ : Type} {g : MaterializationPartition → γ}
    {ps : List MaterializationPartition} {f : MaterializationPartition → MaterializationPartition}
    (hf : ∀ p ∈ ps, (f p).taskRunId = p.taskRunId ∧ g (f p) = g p) (r : Uuid) :
    ((ps.map f).filter fun p => p.taskRunId = r).map g =
      (ps.filter fun p => p.taskRunId = r).map g := by
  induction ps with
  | nil => rfl
  | cons p ps ih =>
    have hps := ih fun q hq => hf q (List.mem_cons_of_mem _ hq)
    obtain ⟨hrun, hcolumn⟩ := hf p List.mem_cons_self
    simp only [List.map_cons, List.filter_cons, hrun]
    split
    · simp only [List.map_cons, hcolumn, hps]
    · exact hps

/-- Claims, retries and failures move leases only. -/
def Leased (db db' : MaterializationDb) : Prop :=
  ∃ f n, (∀ p ∈ db.partitions, KeepsCheckpoint p (f p)) ∧ db.nextId ≤ n ∧
    db' = { db with partitions := db.partitions.map f, nextId := n }

theorem MaterializationInv.leased {db db' : MaterializationDb} (hi : MaterializationInv db)
    (h : Leased db db') : MaterializationInv db' := by
  obtain ⟨f, n, hf, hn, rfl⟩ := h
  have hids : (db.partitions.map f).map MaterializationPartition.id =
      db.partitions.map MaterializationPartition.id := by
    rw [List.map_map]
    exact List.map_congr_left fun p hp => (hf p hp).1
  have hsame : ∀ r, SameRun db { db with partitions := db.partitions.map f, nextId := n } r :=
    fun r => ⟨partitionsOf_map (fun p hp => (hf p hp).2) r, rfl, fun _ _ => rfl, rfl⟩
  refine ⟨hids ▸ hi.partitionIds, fun p hp => ?_, hi.runIds, fun run hrun => ?_, fun p hp => ?_,
    fun u hu => ?_, fun a ha => Nat.lt_of_lt_of_le (hi.attempts a ha) hn, hi.intents⟩
  · obtain ⟨q, hq, rfl⟩ := List.mem_map.1 hp
    rw [(hf q hq).1]
    exact Nat.lt_of_lt_of_le (hi.partitionsBelow q hq) hn
  · obtain ⟨m, hm, hcover, hseal⟩ := hi.runs run hrun
    exact ⟨m, hm, hcover.same (hsame _), hseal.same (hsame _)⟩
  · obtain ⟨q, hq, rfl⟩ := List.mem_map.1 hp
    rw [(hf q hq).2.1]
    exact hi.partitionOwners q hq
  · obtain ⟨howner, hlt⟩ := hi.units u hu
    exact ⟨howner, Nat.lt_of_lt_of_le hlt hn⟩

/-- A row that can be claimed is open. -/
theorem claim_keepsCheckpoint {p : MaterializationPartition} {token : Uuid} {claimedBy : String}
    {leaseSeconds : ℕ} {now : Instant} (h : p.claimable now = true) :
    KeepsCheckpoint p (p.claim token claimedBy leaseSeconds now) := by
  have hopen : p.status ≠ .completed := by
    intro hdone
    simp [MaterializationPartition.claimable, hdone] at h
  exact ⟨rfl, rfl, by simp [checkpoint, MaterializationPartition.claim, hopen]⟩

theorem MaterializationInv.claim_leased {db db' : MaterializationDb} (hi : MaterializationInv db)
    {claimedBy : String} {limit leaseSeconds : ℕ} {now : Instant}
    {claimed : List MaterializationPartition}
    (h : Commits (claimPartitions claimedBy limit leaseSeconds now) db claimed db') :
    Leased db db' := by
  unfold claimPartitions at h
  obtain ⟨-, h⟩ := commits_raiseIf_bind.1 h
  rw [commits_read_bind] at h
  obtain ⟨_, m, hm, hread⟩ := commits_bind.1 h
  obtain rfl := commits_update.1 hm
  obtain ⟨-, rfl⟩ := commits_read.1 hread
  refine ⟨_, _, fun p hp => ?_, Nat.le_add_right _ _, rfl⟩
  unfold claimRow
  split
  · rename_i hcandidate
    obtain ⟨q, hq, hid⟩ := List.mem_map.1 hcandidate
    have hq := List.mem_filter.1 ((List.mem_insertionSort _).1 (List.mem_of_mem_take hq))
    obtain rfl := Table.eq_of_key hi.partitionIds hq.1 hp hid
    exact claim_keepsCheckpoint hq.2
  · exact ⟨rfl, rfl, rfl⟩

/-- A claimed row that becomes open keeps its checkpoint. -/
theorem release_keepsCheckpoint {p : MaterializationPartition} {now availableAt : Instant}
    {status : MaterializationPartitionStatus} {lastErrorCode : Option String}
    (h : p.status = .claimed) (hopen : status ≠ .completed) :
    KeepsCheckpoint p { p.release status now with
      availableAt := availableAt, lastErrorCode := lastErrorCode } :=
  ⟨rfl, rfl, by simp [checkpoint, MaterializationPartition.release, h, hopen]⟩

theorem retry_keepsCheckpoint {p : MaterializationPartition} {errorCode : String}
    {retryDelayMs : ℕ} {now : Instant} (h : p.status = .claimed) :
    KeepsCheckpoint p { p.release .retryWait now with
      availableAt := now + retryDelayMs * 1000, lastErrorCode := some errorCode } :=
  release_keepsCheckpoint h (by decide)

theorem fail_keepsCheckpoint {p : MaterializationPartition} {errorCode : String} {now : Instant}
    (h : p.status = .claimed) :
    KeepsCheckpoint p { p.release .failed now with lastErrorCode := some errorCode } :=
  @release_keepsCheckpoint p now p.availableAt .failed (some errorCode) h (by decide)

theorem release_leased {db db' : MaterializationDb}
    {claim : PartitionClaim} {now : Instant}
    {f : MaterializationPartition → MaterializationPartition} {held : Bool}
    (hf : ∀ p : MaterializationPartition, p.status = .claimed → KeepsCheckpoint p (f p))
    (h : Commits (releasePartition claim now f) db held db') : Leased db db' := by
  unfold releasePartition at h
  rw [commits_read_bind] at h
  obtain ⟨_, m, hm, hpure⟩ := commits_bind.1 h
  obtain rfl := commits_update.1 hm
  obtain ⟨-, rfl⟩ := commits_pure.1 hpure
  refine ⟨_, _, fun p hp => ?_, Nat.le_refl _, rfl⟩
  unfold releaseRow
  split
  · rename_i hheld
    simp only [MaterializationPartition.heldBy, decide_eq_true_eq] at hheld
    exact hf p hheld.2.1
  · exact ⟨rfl, rfl, rfl⟩

theorem retry_leased {db db' : MaterializationDb} {claim : PartitionClaim} {errorCode : String}
    {retryDelayMs : ℕ} {now : Instant} {held : Bool}
    (h : Commits (retryPartition claim errorCode retryDelayMs now) db held db') :
    Leased db db' := by
  obtain ⟨-, h⟩ := commits_raiseIf_bind.1 h
  exact release_leased (fun _ hp => retry_keepsCheckpoint hp) h

theorem fail_leased {db db' : MaterializationDb} {claim : PartitionClaim} {errorCode : String}
    {now : Instant} {held : Bool}
    (h : Commits (failPartition claim errorCode now) db held db') : Leased db db' := by
  obtain ⟨-, h⟩ := commits_raiseIf_bind.1 h
  exact release_leased (fun _ hp => fail_keepsCheckpoint hp) h

/-! ### Creation -/

section Create

variable {db : MaterializationDb} {run : TaskRun} {m : TaskRunManifest} {trigger : RunTrigger}

/-- The tables with a new Run and its partitions. -/
def createdDb (db : MaterializationDb) (run : TaskRun) (m : TaskRunManifest)
    (trigger : RunTrigger) : MaterializationDb :=
  { db with
    runs := db.runs ++ [run]
    manifests := db.manifests ++ [m]
    triggers := db.triggers ++ [(trigger, run.id)]
    partitions := db.partitions ++
      (List.range (partitionCount m.units.length)).map (newPartition run m.units.length db.nextId)
    nextId := db.nextId + partitionCount m.units.length }

/-- A new Run with its Manifest and partitions. -/
def CreatesRun (run : TaskRun) (m : TaskRunManifest) (trigger : RunTrigger)
    (db db' : MaterializationDb) : Prop :=
  db' = createdDb db run m trigger ∧ 64 < m.units.length ∧
    m.units.length ≤ 100000 ∧ m.toRunScope = run.toRunScope ∧
    run.materializationState = .materializing ∧ db.getRun run.id = none ∧
    db.getManifest run.id = none

def Creates (db db' : MaterializationDb) : Prop := ∃ run m trigger, CreatesRun run m trigger db db'

theorem commits_createPartitionedRun {provenance : Except Fault Unit} {created : Bool}
    {db' : MaterializationDb}
    (h : Commits (createPartitionedRun run m trigger provenance) db created db') :
    db' = db ∨ (db' = createdDb db run m trigger ∧ Creates db db') := by
  unfold createPartitionedRun at h
  obtain ⟨hcount, h⟩ := commits_raiseIf_bind.1 h
  obtain ⟨hscope, h⟩ := commits_raiseIf_bind.1 h
  obtain ⟨hstate, h⟩ := commits_raiseIf_bind.1 h
  obtain ⟨-, h⟩ := commits_raiseIf_bind.1 h
  obtain ⟨-, h⟩ := commits_raiseIf_bind.1 h
  have hcount := not_not.1 hcount
  cases provenance with
  | error fault => exact absurd h commits_raise
  | ok _ =>
    dsimp only at h
    rw [commits_read_bind] at h
    rcases commits_ite.1 h with ⟨-, h⟩ | ⟨-, h⟩
    · exact Or.inl (commits_pure.1 h).2
    · rw [commits_read_bind] at h
      obtain ⟨htaken, h⟩ := commits_raiseIf_bind.1 h
      obtain ⟨_, mid, hmid, hpure⟩ := commits_bind.1 h
      obtain rfl := commits_update.1 hmid
      obtain ⟨-, rfl⟩ := commits_pure.1 hpure
      simp only [Bool.or_eq_true, not_or, Bool.not_eq_true, Option.isSome_eq_false_iff,
        Option.isNone_iff_eq_none] at htaken
      exact Or.inr ⟨rfl, run, m, trigger, rfl, hcount.1, hcount.2, not_not.1 hscope,
        not_not.1 hstate, htaken⟩

/-- Nothing is stored of a Run that is not there. -/
theorem MaterializationInv.absent (hi : MaterializationInv db) {r : Uuid}
    (h : r ∉ db.runs.map TaskRun.id) :
    db.partitionsOf r = [] ∧ db.unitsOf r = [] ∧ intentsAt db r = [] := by
  refine ⟨List.filter_eq_nil_iff.2 fun p hp => ?_, List.filter_eq_nil_iff.2 fun u hu => ?_,
    List.filter_eq_nil_iff.2 fun i hmem => ?_⟩
  · simp only [decide_eq_true_eq]
    exact fun heq => h (heq ▸ hi.partitionOwners p hp)
  · simp only [decide_eq_true_eq]
    exact fun heq => h (heq ▸ (hi.units u hu).1)
  · simp only [decide_eq_true_eq]
    exact fun heq => h (heq ▸ hi.intents i hmem)

theorem createdDb_partitionsOf (r : Uuid) :
    (createdDb db run m trigger).partitionsOf r = db.partitionsOf r ++
      if run.id = r then
        (List.range (partitionCount m.units.length)).map (newPartition run m.units.length db.nextId)
      else [] := by
  unfold createdDb MaterializationDb.partitionsOf
  rw [List.filter_append]
  congr 1
  have howner : ∀ p ∈ (List.range (partitionCount m.units.length)).map
      (newPartition run m.units.length db.nextId), p.taskRunId = run.id := by
    intro p hp
    obtain ⟨i, -, rfl⟩ := List.mem_map.1 hp
    rfl
  split
  · rename_i heq
    exact List.filter_eq_self.2 fun p hp => by simp [howner p hp, heq]
  · rename_i hne
    exact List.filter_eq_nil_iff.2 fun p hp => by simp [howner p hp, hne]

theorem createdDb_cover (hi : MaterializationInv db) (hfresh : run.id ∉ db.runs.map TaskRun.id)
    (hcount : 64 < m.units.length ∧ m.units.length ≤ 100000)
    (hstate : run.materializationState = .materializing) :
    Cover (createdDb db run m trigger) run.id m ∧ SealInv (createdDb db run m trigger) run m := by
  obtain ⟨hpartitions, hunits, hintents⟩ := hi.absent hfresh
  have hcheckpoints : checkpoints (createdDb db run m trigger) run.id =
      (List.range (partitionCount m.units.length)).map fun i =>
        ⟨i, firstOrdinalOf i, lastOrdinalOf i m.units.length, false⟩ := by
    rw [checkpoints, createdDb_partitionsOf, hpartitions, if_pos rfl, List.nil_append, List.map_map]
    rfl
  have hopen : ∀ c ∈ checkpoints (createdDb db run m trigger) run.id, c.done = false := by
    rw [hcheckpoints]
    intro c hc
    obtain ⟨i, -, rfl⟩ := List.mem_map.1 hc
    rfl
  refine ⟨⟨hcount, ?_, fun c hc hdone => ?_, fun o _ => ?_⟩, ⟨?_, fun h => ?_, ?_⟩⟩
  · rw [hcheckpoints, List.map_map]
    rfl
  · rw [hopen c hc] at hdone
    cases hdone
  · rw [unitsAt, show (createdDb db run m trigger).unitsOf run.id = [] from hunits]
    rfl
  · rw [hstate]
    refine ⟨fun h => absurd h (by simp), fun hall => ?_⟩
    have hzero : (⟨0, firstOrdinalOf 0, lastOrdinalOf 0 m.units.length, false⟩ : Checkpoint) ∈
        checkpoints (createdDb db run m trigger) run.id := by
      rw [hcheckpoints]
      refine List.mem_map.2 ⟨0, List.mem_range.2 ?_, rfl⟩
      unfold partitionCount
      omega
    exact absurd (hall _ hzero) (by simp)
  · rw [hstate] at h
    cases h
  · rw [show intentsAt (createdDb db run m trigger) run.id = [] from hintents, hstate]
    rfl

theorem MaterializationInv.create {db' : MaterializationDb} (hi : MaterializationInv db)
    (h : Creates db db') : MaterializationInv db' := by
  obtain ⟨run, m, trigger, rfl, hmin, hmax, hscope, hstate, hrun, hmanifest⟩ := h
  have hfresh : run.id ∉ db.runs.map TaskRun.id := by
    intro hmem
    obtain ⟨r, hr, hid⟩ := List.mem_map.1 hmem
    have := List.find?_eq_none.1 hrun r hr
    simp [hid] at this
  have hsame : ∀ r ∈ db.runs.map TaskRun.id, SameRun db (createdDb db run m trigger) r := by
    intro r hr
    have hne : run.id ≠ r := fun heq => hfresh (heq ▸ hr)
    refine ⟨?_, rfl, fun _ _ => rfl, rfl⟩
    rw [checkpoints, createdDb_partitionsOf, if_neg hne, List.append_nil]
    rfl
  have hids : (createdDb db run m trigger).runs.map TaskRun.id = db.runs.map TaskRun.id ++ [run.id] :=
    List.map_append
  have hmono : ∀ r ∈ db.runs.map TaskRun.id, r ∈ (createdDb db run m trigger).runs.map TaskRun.id :=
    fun r hr => hids ▸ List.mem_append_left _ hr
  have hnewIds : ∀ p ∈ (List.range (partitionCount m.units.length)).map
      (newPartition run m.units.length db.nextId), ∃ i < partitionCount m.units.length,
        p.id = db.nextId + i ∧ p.taskRunId = run.id := by
    intro p hp
    obtain ⟨i, hlt, rfl⟩ := List.mem_map.1 hp
    exact ⟨i, List.mem_range.1 hlt, rfl, rfl⟩
  refine ⟨?_, fun p hp => ?_, ?_, fun run' hrun' => ?_, fun p hp => ?_, fun u hu => ?_,
    fun a ha => Nat.lt_of_lt_of_le (hi.attempts a ha) (Nat.le_add_right _ _),
    fun i hmem => hmono _ (hi.intents i hmem)⟩
  · rw [createdDb, List.map_append, List.map_map, List.nodup_append]
    refine ⟨hi.partitionIds, ?_, fun a ha b hb => ?_⟩
    · exact List.nodup_range.map fun i j heq => Nat.add_left_cancel heq
    · obtain ⟨p, hp, rfl⟩ := List.mem_map.1 ha
      obtain ⟨i, -, rfl⟩ := List.mem_map.1 hb
      have hlt := hi.partitionsBelow p hp
      exact Nat.ne_of_lt (Nat.lt_of_lt_of_le hlt (Nat.le_add_right _ i))
  · rcases List.mem_append.1 hp with hp | hp
    · exact Nat.lt_of_lt_of_le (hi.partitionsBelow p hp) (Nat.le_add_right _ _)
    · obtain ⟨i, hlt, hid, -⟩ := hnewIds p hp
      rw [hid]
      exact Nat.add_lt_add_left hlt _
  · rw [hids, List.nodup_append]
    refine ⟨hi.runIds, List.nodup_singleton _, fun a ha b hb => ?_⟩
    rw [List.mem_singleton.1 hb]
    exact fun heq => hfresh (heq ▸ ha)
  · rcases List.mem_append.1 hrun' with hold | hnew
    · obtain ⟨m', hm', hcover, hseal⟩ := hi.runs run' hold
      have hmem := List.mem_map_of_mem (f := TaskRun.id) hold
      refine ⟨m', ?_, hcover.same (hsame _ hmem), hseal.same (hsame _ hmem)⟩
      unfold MaterializationDb.getManifest at hm' ⊢
      rw [createdDb, List.find?_append, hm']
      rfl
    · rw [List.mem_singleton.1 hnew]
      refine ⟨m, ?_, createdDb_cover hi hfresh ⟨hmin, hmax⟩ hstate⟩
      unfold MaterializationDb.getManifest at hmanifest ⊢
      have hself : m.taskRunId = run.id := congrArg RunScope.taskRunId hscope
      rw [createdDb, List.find?_append, hmanifest]
      simp [hself]
  · rcases List.mem_append.1 hp with hp | hp
    · exact hmono _ (hi.partitionOwners p hp)
    · obtain ⟨-, -, -, howner⟩ := hnewIds p hp
      rw [howner, hids]
      exact List.mem_append_right _ (List.mem_singleton_self _)
  · obtain ⟨howner, hlt⟩ := hi.units u hu
    exact ⟨hmono _ howner, Nat.lt_of_lt_of_le hlt (Nat.le_add_right _ _)⟩

end Create

/-! ### Completion -/

/-- The tables after the rows of a partition are inserted. -/
def insertedDb (db : MaterializationDb) (p : MaterializationPartition) (run : TaskRun)
    (m : TaskRunManifest) (now : Instant) : MaterializationDb :=
  { db with
    units := db.units ++ p.ordinals.filterMap (unitRow run m db.nextId now)
    attempts := db.attempts ++ p.ordinals.filterMap (attemptRow run m db.nextId now)
    partitions := Table.modify MaterializationPartition.id p.id (fun p => p.complete now)
      db.partitions
    nextId := unitIdAt db.nextId (p.lastOrdinal + 1) }

/-- The tables after a Run of `n` Units is sealed. -/
def sealedDb (db : MaterializationDb) (run : TaskRun) (n : ℕ) (intent : TaskRunStartIntent)
    (now : Instant) : MaterializationDb :=
  { db with
    runs := Table.modify TaskRun.id run.id (fun _ => materializedRun run n n now) db.runs
    startIntents := db.startIntents ++ [intent] }

theorem getRun_id {db : MaterializationDb} {r : Uuid} {run : TaskRun} (h : db.getRun r = some run) :
    run.id = r := by
  simpa using List.find?_some h

theorem commits_seal {db db' : MaterializationDb} {r : Uuid} {revision : ℕ}
    {dependencies : Except Fault Unit} {now : Instant} {answer : TaskRun}
    (h : Commits (sealTaskRunMaterialization r revision dependencies now) db answer db') :
    ∃ run m intent, db.getRun r = some run ∧ db.getManifest r = some m ∧
      intent.taskRunId = r ∧ db' = sealedDb db run m.units.length intent now := by
  unfold sealTaskRunMaterialization at h
  rw [commits_read_bind] at h
  obtain ⟨run, hrun, h⟩ := commits_demand_bind.1 h
  obtain ⟨-, h⟩ := commits_raiseIf_bind.1 h
  obtain ⟨-, h⟩ := commits_raiseIf_bind.1 h
  rw [commits_read_bind] at h
  obtain ⟨m, hm, h⟩ := commits_demand_bind.1 h
  obtain ⟨-, h⟩ := commits_raiseIf_bind.1 h
  rw [commits_read_bind] at h
  obtain ⟨-, h⟩ := commits_raiseIf_bind.1 h
  rw [commits_read_bind, commits_read_bind] at h
  obtain ⟨hcounts, h⟩ := commits_raiseIf_bind.1 h
  rw [not_or, not_or, not_not, not_not, not_not] at hcounts
  obtain ⟨hunits, -, hfirst⟩ := hcounts
  cases dependencies with
  | error fault => exact absurd h commits_raise
  | ok _ =>
    dsimp only at h
    rw [commits_read_bind] at h
    obtain ⟨-, h⟩ := commits_raiseIf_bind.1 h
    obtain ⟨_, mid, hmid, hpure⟩ := commits_bind.1 h
    obtain rfl := commits_update.1 hmid
    obtain ⟨-, rfl⟩ := commits_pure.1 hpure
    refine ⟨run, m, ⟨r, run.temporalNamespace, run.temporalWorkflowId, run.requestDigest, now⟩,
      hrun, hm, rfl, ?_⟩
    unfold sealedDb
    rw [hunits, hfirst, getRun_id hrun]

/-- A completion inserts the rows of the partition it holds and, with the last one, seals the Run. -/
def CompletesPartition (p : MaterializationPartition) (run : TaskRun) (m : TaskRunManifest)
    (claim : PartitionClaim) (now : Instant) (db db' : MaterializationDb) : Prop :=
  p ∈ db.partitions ∧ p.heldBy claim now ∧
    db.getRun p.taskRunId = some run ∧ db.getManifest p.taskRunId = some m ∧
    run.materializationState = .materializing ∧
    p.lastOrdinal = lastOrdinalOf p.partitionIndex m.units.length ∧
    (∀ u ∈ db.unitsOf run.id, ¬ p.covers u.ordinal) ∧
    (((∃ q ∈ (insertedDb db p run m now).partitionsOf run.id, q.status ≠ .completed) ∧
        db' = insertedDb db p run m now) ∨
      ((∀ q ∈ (insertedDb db p run m now).partitionsOf run.id, q.status = .completed) ∧
        ∃ intent, intent.taskRunId = run.id ∧
          db' = sealedDb (insertedDb db p run m now) run m.units.length intent now))

def Completes (claim : PartitionClaim) (now : Instant) (db db' : MaterializationDb) : Prop :=
  ∃ p run m, CompletesPartition p run m claim now db db'

theorem commits_completePartition {db db' : MaterializationDb} {claim : PartitionClaim}
    {dependencies : Except Fault Unit} {now : Instant} {answer : Option Bool}
    (h : Commits (completePartition claim dependencies now) db answer db') :
    db' = db ∨ Completes claim now db db' := by
  unfold completePartition at h
  rw [commits_read_bind] at h
  cases hfound : db.partitions.find? fun p => p.heldBy claim now with
  | none =>
    rw [hfound] at h
    exact Or.inl (commits_pure.1 h).2
  | some p =>
    rw [hfound] at h
    dsimp only at h
    rw [commits_read_bind] at h
    obtain ⟨run, hrun, h⟩ := commits_demand_bind.1 h
    rw [commits_read_bind] at h
    obtain ⟨m, hm, h⟩ := commits_demand_bind.1 h
    rw [commits_read_bind] at h
    obtain ⟨hfacts, h⟩ := commits_raiseIf_bind.1 h
    rw [not_or, not_or, not_or, not_not, not_not] at hfacts
    obtain ⟨hstate, -, hlast, hpresent⟩ := hfacts
    obtain ⟨_, db₁, hinsert, h⟩ := commits_bind.1 h
    unfold insertPartition at hinsert
    obtain ⟨_, mid, hmid, hinsert⟩ := commits_bind.1 hinsert
    obtain rfl := commits_update.1 hmid
    rw [commits_read_bind] at hinsert
    obtain ⟨-, hinsert⟩ := commits_raiseIf_bind.1 hinsert
    obtain rfl : db₁ = insertedDb db p run m now := commits_update.1 hinsert
    rw [commits_read_bind] at h
    refine Or.inr ⟨p, run, m, List.mem_of_find?_eq_some hfound, by simpa using List.find?_some hfound,
      hrun, hm, hstate, hlast, by simpa using hpresent, ?_⟩
    rcases commits_ite.1 h with ⟨hremaining, hpure⟩ | ⟨hremaining, hseal⟩
    · obtain ⟨-, rfl⟩ := commits_pure.1 hpure
      exact Or.inl ⟨by simpa using hremaining, rfl⟩
    · obtain ⟨sealed', db₂, hseal, hpure⟩ := commits_bind.1 hseal
      obtain ⟨-, rfl⟩ := commits_pure.1 hpure
      obtain ⟨run', m', intent, hrun', hm', hintent, rfl⟩ := commits_seal hseal
      have hrun₂ : run' = run := by
        have : db.getRun run.id = some run' := hrun'
        rw [getRun_id hrun, hrun] at this
        exact (Option.some.inj this).symm
      have hm₂ : m' = m := by
        have : db.getManifest run.id = some m' := hm'
        rw [getRun_id hrun, hm] at this
        exact (Option.some.inj this).symm
      subst hrun₂ hm₂
      exact Or.inr ⟨by simpa using hremaining, intent, hintent, rfl⟩

theorem unitIdAt_injective (nextId : Uuid) : Function.Injective (unitIdAt nextId) := by
  intro i j h
  have h : nextId + 2 * i = nextId + 2 * j := h
  exact Nat.eq_of_mul_eq_mul_left Nat.two_pos (Nat.add_left_cancel h)

theorem unitRow_some {run : TaskRun} {m : TaskRunManifest} {nextId : Uuid} {now : Instant} {o : ℕ}
    {u : ExecutionUnit} (h : unitRow run m nextId now o = some u) :
    u.taskRunId = run.id ∧ u.ordinal = o ∧ u.executionUnitId = unitIdAt nextId o := by
  obtain ⟨cell, -, rfl⟩ := Option.map_eq_some_iff.1 h
  exact ⟨rfl, rfl, rfl⟩

theorem attemptRow_some {run : TaskRun} {m : TaskRunManifest} {nextId : Uuid} {now : Instant}
    {o : ℕ} {a : UnitAttempt} (h : attemptRow run m nextId now o = some a) :
    a.executionUnitId = unitIdAt nextId o := by
  obtain ⟨cell, -, rfl⟩ := Option.map_eq_some_iff.1 h
  rfl

section Insert

variable {db : MaterializationDb} {p : MaterializationPartition} {run : TaskRun}
  {m : TaskRunManifest} {now : Instant}

theorem mem_newUnits {u : ExecutionUnit}
    (h : u ∈ p.ordinals.filterMap (unitRow run m db.nextId now)) :
    u.taskRunId = run.id ∧ p.firstOrdinal ≤ u.ordinal ∧
      u.ordinal < p.firstOrdinal + (p.lastOrdinal - p.firstOrdinal + 1) ∧
      u.executionUnitId = unitIdAt db.nextId u.ordinal := by
  obtain ⟨o, ho, hrow⟩ := List.mem_filterMap.1 h
  obtain ⟨hrun, rfl, hid⟩ := unitRow_some hrow
  obtain ⟨hle, hlt⟩ := List.mem_range'_1.1 ho
  exact ⟨hrun, hle, hlt, hid⟩

theorem insertedDb_unitsOf (r : Uuid) :
    (insertedDb db p run m now).unitsOf r = db.unitsOf r ++
      if run.id = r then p.ordinals.filterMap (unitRow run m db.nextId now) else [] := by
  unfold insertedDb MaterializationDb.unitsOf
  rw [List.filter_append]
  congr 1
  split
  · rename_i heq
    exact List.filter_eq_self.2 fun u hu => by simp [(mem_newUnits hu).1, heq]
  · rename_i hne
    exact List.filter_eq_nil_iff.2 fun u hu => by simp [(mem_newUnits hu).1, hne]

/-- What the partition does not cover stays as it is; what it covers gets its Manifest's row. -/
theorem insertedDb_unitsAt (hle : p.firstOrdinal ≤ p.lastOrdinal) (o : ℕ) :
    unitsAt (insertedDb db p run m now) run.id o = unitsAt db run.id o ++
      if p.firstOrdinal ≤ o ∧ o ≤ p.lastOrdinal then (unitRow run m db.nextId now o).toList
      else [] := by
  unfold unitsAt
  rw [insertedDb_unitsOf, if_pos rfl, List.filter_append]
  congr 1
  have hslots := Slots.filter_filterMap_range' (unitRow run m db.nextId now) (fun u => u.ordinal) id
    (fun o u h => (unitRow_some h).2.1) Function.injective_id o p.firstOrdinal (p.lastOrdinal - p.firstOrdinal + 1)
  refine hslots.trans (if_congr ?_ rfl rfl)
  omega

theorem insertedDb_attemptsAt_new (hattempts : ∀ a ∈ db.attempts, a.executionUnitId < db.nextId)
    {o : ℕ} (hcovers : p.firstOrdinal ≤ o ∧ o ≤ p.lastOrdinal) :
    attemptsAt (insertedDb db p run m now) (unitIdAt db.nextId o) =
      (attemptRow run m db.nextId now o).toList := by
  unfold attemptsAt insertedDb
  rw [List.filter_append]
  have hold : db.attempts.filter (fun a => a.executionUnitId = unitIdAt db.nextId o) = [] := by
    refine List.filter_eq_nil_iff.2 fun a ha => ?_
    have hlt := hattempts a ha
    have hge : db.nextId ≤ unitIdAt db.nextId o := Nat.le_add_right _ _
    simp only [decide_eq_true_eq]
    exact Nat.ne_of_lt (Nat.lt_of_lt_of_le hlt hge)
  have hslots := Slots.filter_filterMap_range' (attemptRow run m db.nextId now)
    (fun a => a.executionUnitId) (unitIdAt db.nextId) (fun o a h => attemptRow_some h)
    (unitIdAt_injective db.nextId) o p.firstOrdinal (p.lastOrdinal - p.firstOrdinal + 1)
  rw [if_pos (by omega)] at hslots
  rw [hold, List.nil_append]
  exact hslots

theorem insertedDb_attemptsAt_old {unitId : Uuid} (hlt : unitId < db.nextId) :
    attemptsAt (insertedDb db p run m now) unitId = attemptsAt db unitId := by
  unfold attemptsAt insertedDb
  rw [List.filter_append]
  have hnew : (p.ordinals.filterMap (attemptRow run m db.nextId now)).filter
      (fun a => a.executionUnitId = unitId) = [] := by
    refine List.filter_eq_nil_iff.2 fun a ha => ?_
    obtain ⟨o, -, hrow⟩ := List.mem_filterMap.1 ha
    have hge : db.nextId ≤ unitIdAt db.nextId o := Nat.le_add_right _ _
    simp only [decide_eq_true_eq]
    rw [attemptRow_some hrow]
    exact Nat.ne_of_gt (Nat.lt_of_lt_of_le hlt hge)
  rw [hnew, List.append_nil]

theorem insertedDb_partitionsOf (r : Uuid) :
    (insertedDb db p run m now).partitionsOf r =
      Table.modify MaterializationPartition.id p.id (fun q => q.complete now) (db.partitionsOf r) :=
  Table.filter_modify (p := fun q : MaterializationPartition => q.taskRunId = r) fun _ => rfl

/-- A checkpoint after the completion is the completed one or an old one. -/
theorem mem_insertedDb_checkpoints (hi : MaterializationInv db) (hp : p ∈ db.partitions) {r : Uuid}
    {c : Checkpoint} :
    c ∈ checkpoints (insertedDb db p run m now) r ↔
      (p.taskRunId = r ∧ c = { checkpoint p with done := true }) ∨
        ∃ q ∈ db.partitionsOf r, q.id ≠ p.id ∧ c = checkpoint q := by
  unfold checkpoints
  rw [insertedDb_partitionsOf, List.mem_map]
  constructor
  · rintro ⟨q', hq', rfl⟩
    obtain ⟨q, hq, rfl⟩ := Table.mem_modify.1 hq'
    by_cases hid : q.id = p.id
    · obtain ⟨hmem, hrun⟩ := List.mem_filter.1 hq
      obtain rfl := Table.eq_of_key hi.partitionIds hmem hp hid
      rw [if_pos rfl]
      exact Or.inl ⟨by simpa using hrun, rfl⟩
    · rw [if_neg hid]
      exact Or.inr ⟨q, hq, hid, rfl⟩
  · rintro (⟨hrun, rfl⟩ | ⟨q, hq, hid, rfl⟩)
    · refine ⟨p.complete now, Table.mem_modify.2 ⟨p, List.mem_filter.2 ⟨hp, by simpa using hrun⟩, ?_⟩, rfl⟩
      rw [if_pos rfl]
    · exact ⟨q, Table.mem_modify.2 ⟨q, hq, by rw [if_neg hid]⟩, rfl⟩

/-- The places of the partitions do not move. -/
theorem insertedDb_ranges (r : Uuid) :
    (checkpoints (insertedDb db p run m now) r).map Checkpoint.range =
      (checkpoints db r).map Checkpoint.range := by
  unfold checkpoints
  rw [insertedDb_partitionsOf, List.map_map, List.map_map]
  exact Table.map_modify fun _ => rfl

end Insert

/-- The place of a partition in its Run. -/
theorem Cover.place {db : MaterializationDb} {r : Uuid} {m : TaskRunManifest} (h : Cover db r m)
    {c : Checkpoint} (hc : c ∈ checkpoints db r) :
    c.index < partitionCount m.units.length ∧ c.first = firstOrdinalOf c.index ∧
      c.last = lastOrdinalOf c.index m.units.length ∧ 1 ≤ c.first ∧ c.first ≤ c.last ∧
      c.last ≤ m.units.length := by
  have hmem : c.range ∈ (List.range (partitionCount m.units.length)).map
      (expectedRange m.units.length) := h.ranges ▸ List.mem_map_of_mem hc
  obtain ⟨i, hi, heq⟩ := List.mem_map.1 hmem
  have hlt := List.mem_range.1 hi
  obtain ⟨hindex, hfirst, hlast⟩ : i = c.index ∧ firstOrdinalOf i = c.first ∧
      lastOrdinalOf i m.units.length = c.last := by
    simpa [expectedRange, Checkpoint.range] using heq
  subst hindex
  refine ⟨hlt, hfirst.symm, hlast.symm, ?_, ?_, ?_⟩
  all_goals
    unfold partitionCount at hlt
    unfold firstOrdinalOf at hfirst
    unfold lastOrdinalOf at hlast
    omega

theorem insertedDb_cover {db : MaterializationDb} {p : MaterializationPartition} {run : TaskRun}
    {m : TaskRunManifest} (now : Instant) (hi : MaterializationInv db) (hp : p ∈ db.partitions)
    (hrun : p.taskRunId = run.id) (hcover : Cover db run.id m)
    (habsent : ∀ u ∈ db.unitsOf run.id, ¬ p.covers u.ordinal) :
    Cover (insertedDb db p run m now) run.id m := by
  have hcheckpoint : checkpoint p ∈ checkpoints db run.id :=
    List.mem_map_of_mem (List.mem_filter.2 ⟨hp, by simpa using hrun⟩)
  obtain ⟨-, -, -, hone, hle, hbound⟩ := hcover.place hcheckpoint
  -- nothing was there of what the partition covers
  have hempty : ∀ o, p.firstOrdinal ≤ o ∧ o ≤ p.lastOrdinal → unitsAt db run.id o = [] := by
    intro o ho
    refine List.filter_eq_nil_iff.2 fun u hu hord => habsent u hu ?_
    have hord : u.ordinal = o := by simpa using hord
    simpa [MaterializationPartition.covers, hord] using ho
  refine ⟨hcover.count, (insertedDb_ranges _).trans hcover.ranges, fun c hc hdone o ho => ?_,
    fun o ho => ?_⟩
  · rcases (mem_insertedDb_checkpoints hi hp).1 hc with ⟨-, rfl⟩ | ⟨q, hq, hid, rfl⟩
    · replace ho : p.firstOrdinal ≤ o ∧ o ≤ p.lastOrdinal := ho
      have hcell : o - 1 < m.units.length := by
        obtain ⟨hlow, hhigh⟩ := ho
        have hone : 1 ≤ p.firstOrdinal := hone
        have hbound : p.lastOrdinal ≤ m.units.length := hbound
        omega
      have hget : m.units[o - 1]? = some m.units[o - 1] := List.getElem?_eq_getElem hcell
      refine ⟨m.units[o - 1], materializedUnit run (unitIdAt db.nextId o) o m.units[o - 1] now,
        materializedAttempt run (unitIdAt db.nextId o + 1) (unitIdAt db.nextId o) m.units[o - 1] now,
        hget, ?_, ?_, ⟨rfl, rfl, rfl, rfl, rfl⟩⟩
      · rw [insertedDb_unitsAt hle, hempty o ho, if_pos ho, unitRow, hget]
        rfl
      · rw [show (materializedUnit run (unitIdAt db.nextId o) o m.units[o - 1] now).executionUnitId =
          unitIdAt db.nextId o from rfl, insertedDb_attemptsAt_new hi.attempts ho, attemptRow, hget]
        rfl
    · obtain ⟨cell, u, a, hget, hu, ha, hof⟩ :=
        hcover.placed (checkpoint q) (List.mem_map_of_mem hq) hdone o ho
      have hmem : u ∈ db.unitsOf run.id := by
        have : u ∈ unitsAt db run.id o := by rw [hu]; exact List.mem_singleton_self u
        exact List.mem_of_mem_filter this
      have hnot : ¬ (p.firstOrdinal ≤ o ∧ o ≤ p.lastOrdinal) := fun hcovered => by
        rw [hempty o hcovered] at hu
        cases hu
      refine ⟨cell, u, a, hget, ?_, ?_, hof⟩
      · rw [insertedDb_unitsAt hle, hu, if_neg hnot, List.append_nil]
      · rw [insertedDb_attemptsAt_old (hi.units u (List.mem_of_mem_filter hmem)).2, ha]
  · have hnot : ¬ (p.firstOrdinal ≤ o ∧ o ≤ p.lastOrdinal) := fun hcovered => by
      have hopen := ho { checkpoint p with done := true }
        ((mem_insertedDb_checkpoints hi hp).2 (Or.inl ⟨hrun, rfl⟩)) hcovered
      cases hopen
    rw [insertedDb_unitsAt hle, if_neg hnot, List.append_nil]
    apply hcover.vacant
    intro c hc hcovers
    obtain ⟨q, hq, rfl⟩ := List.mem_map.1 hc
    by_cases hid : q.id = p.id
    · obtain rfl := Table.eq_of_key hi.partitionIds (List.mem_of_mem_filter hq) hp hid
      exact absurd hcovers hnot
    · exact ho (checkpoint q) ((mem_insertedDb_checkpoints hi hp).2 (Or.inr ⟨q, hq, hid, rfl⟩)) hcovers

/-- The partitions of another Run stay as they are. -/
theorem insertedDb_partitionsOf_other {db : MaterializationDb} {p : MaterializationPartition}
    {run : TaskRun} (m : TaskRunManifest) (now : Instant) (hi : MaterializationInv db)
    (hp : p ∈ db.partitions) (hrun : p.taskRunId = run.id) {r : Uuid} (hne : run.id ≠ r) :
    (insertedDb db p run m now).partitionsOf r = db.partitionsOf r := by
  rw [insertedDb_partitionsOf]
  refine (List.map_congr_left fun q hq => ?_).trans (List.map_id _)
  obtain ⟨hmem, howner⟩ := List.mem_filter.1 hq
  have hid : q.id ≠ p.id := fun heq => by
    obtain rfl := Table.eq_of_key hi.partitionIds hmem hp heq
    exact hne (hrun.symm.trans (by simpa using howner))
  exact if_neg hid

theorem insertedDb_same {db : MaterializationDb} {p : MaterializationPartition} {run : TaskRun}
    (m : TaskRunManifest) (now : Instant) (hi : MaterializationInv db) (hp : p ∈ db.partitions)
    (hrun : p.taskRunId = run.id) {r : Uuid} (hne : run.id ≠ r) :
    SameRun db (insertedDb db p run m now) r where
  checkpoints := by
    rw [checkpoints, insertedDb_partitionsOf_other m now hi hp hrun hne, checkpoints]
  units := by rw [insertedDb_unitsOf, if_neg hne, List.append_nil]
  attempts := fun u hu => insertedDb_attemptsAt_old (hi.units u (List.mem_of_mem_filter hu)).2
  intents := rfl

/-- The seal of one Run changes no other. -/
theorem sealedDb_same (db : MaterializationDb) {run : TaskRun} (n : ℕ) {intent : TaskRunStartIntent}
    (now : Instant) (hintent : intent.taskRunId = run.id) {r : Uuid} (hne : run.id ≠ r) :
    SameRun db (sealedDb db run n intent now) r where
  checkpoints := rfl
  units := rfl
  attempts := fun _ _ => rfl
  intents := by
    unfold intentsAt sealedDb
    rw [List.filter_append, List.filter_cons_of_neg (by simpa [hintent] using hne),
      List.filter_nil, List.append_nil]

/-- A completed partition keeps its id and its Run. -/
theorem insertedDb_partition {db : MaterializationDb} {p : MaterializationPartition}
    (run : TaskRun) (m : TaskRunManifest) {now : Instant} {q' : MaterializationPartition}
    (hq' : q' ∈ (insertedDb db p run m now).partitions) :
    ∃ q ∈ db.partitions, q'.id = q.id ∧ q'.taskRunId = q.taskRunId := by
  obtain ⟨q, hq, rfl⟩ := Table.mem_modify.1 hq'
  refine ⟨q, hq, ?_⟩
  split <;> exact ⟨rfl, rfl⟩

/-- The new rows belong to the Run and use the ids up to the last ordinal of the partition. -/
theorem insertedDb_rows {db : MaterializationDb} {p : MaterializationPartition} {run : TaskRun}
    (m : TaskRunManifest) (now : Instant) (hi : MaterializationInv db) (hrunMem : run ∈ db.runs)
    (hle : p.firstOrdinal ≤ p.lastOrdinal) :
    (∀ u ∈ (insertedDb db p run m now).units, u.taskRunId ∈ db.runs.map TaskRun.id ∧
      u.executionUnitId < unitIdAt db.nextId (p.lastOrdinal + 1)) ∧
    ∀ a ∈ (insertedDb db p run m now).attempts,
      a.executionUnitId < unitIdAt db.nextId (p.lastOrdinal + 1) := by
  have hgrow : db.nextId ≤ unitIdAt db.nextId (p.lastOrdinal + 1) := Nat.le_add_right _ _
  have hnewId : ∀ o, o < p.firstOrdinal + (p.lastOrdinal - p.firstOrdinal + 1) →
      unitIdAt db.nextId o < unitIdAt db.nextId (p.lastOrdinal + 1) :=
    fun o ho => Nat.add_lt_add_left (by omega) _
  constructor
  · intro u hu
    rcases List.mem_append.1 hu with hold | hnew
    · obtain ⟨howner, hlt⟩ := hi.units u hold
      exact ⟨howner, Nat.lt_of_lt_of_le hlt hgrow⟩
    · obtain ⟨hrun, -, hlt, hid⟩ := mem_newUnits hnew
      rw [hrun, hid]
      exact ⟨List.mem_map_of_mem hrunMem, hnewId _ hlt⟩
  · intro a ha
    rcases List.mem_append.1 ha with hold | hnew
    · exact Nat.lt_of_lt_of_le (hi.attempts a hold) hgrow
    · obtain ⟨o, ho, hrow⟩ := List.mem_filterMap.1 hnew
      rw [attemptRow_some hrow]
      exact hnewId o (List.mem_range'_1.1 ho).2

/-- Sealing a Run writes no id. -/
theorem sealedDb_runIds (db : MaterializationDb) (run : TaskRun) (n : ℕ)
    (intent : TaskRunStartIntent) (now : Instant) :
    (sealedDb db run n intent now).runs.map TaskRun.id = db.runs.map TaskRun.id := by
  refine List.map_map.trans (List.map_congr_left fun run' _ => ?_)
  by_cases heq : run'.id = run.id
  · simp only [Function.comp_apply, if_pos heq]
    exact heq.symm
  · simp only [Function.comp_apply, if_neg heq]

theorem MaterializationInv.complete {db db' : MaterializationDb} (hi : MaterializationInv db)
    {claim : PartitionClaim} {now : Instant} (h : Completes claim now db db') :
    MaterializationInv db' := by
  obtain ⟨p, run, m, hp, -, hfound, hm, hstate, -, habsent, hend⟩ := h
  have hrunId := getRun_id hfound
  have hrunMem : run ∈ db.runs := List.mem_of_find?_eq_some hfound
  have hcover : Cover db run.id m ∧ SealInv db run m := by
    obtain ⟨m', hm', hcover, hseal⟩ := hi.runs run hrunMem
    rw [hrunId, hm] at hm'
    obtain rfl := Option.some.inj hm'
    exact ⟨hcover, hseal⟩
  obtain ⟨hcover, hseal⟩ := hcover
  have hcover₁ := insertedDb_cover now hi hp hrunId.symm hcover habsent
  have hintents : intentsAt db run.id = [] := by
    have := hseal.started
    rw [hstate] at this
    exact List.length_eq_zero_iff.1 this
  -- what holds of the tables whether or not the Run is sealed
  have hids : (insertedDb db p run m now).partitions.map MaterializationPartition.id =
      db.partitions.map MaterializationPartition.id := Table.map_modify fun _ => rfl
  have hbelow : ∀ q' ∈ (insertedDb db p run m now).partitions,
      q'.id < unitIdAt db.nextId (p.lastOrdinal + 1) := by
    intro q' hq'
    obtain ⟨q, hq, hid, -⟩ := insertedDb_partition run m hq'
    rw [hid]
    exact Nat.lt_of_lt_of_le (hi.partitionsBelow q hq) (Nat.le_add_right _ _)
  have howners : ∀ q' ∈ (insertedDb db p run m now).partitions,
      q'.taskRunId ∈ db.runs.map TaskRun.id := by
    intro q' hq'
    obtain ⟨q, hq, -, howner⟩ := insertedDb_partition run m hq'
    rw [howner]
    exact hi.partitionOwners q hq
  have hle : p.firstOrdinal ≤ p.lastOrdinal :=
    (hcover.place (List.mem_map_of_mem (f := checkpoint)
      (List.mem_filter.2 ⟨hp, by simpa using hrunId.symm⟩))).2.2.2.2.1
  obtain ⟨hunits, hattempts⟩ := insertedDb_rows m now hi hrunMem hle
  have hother : ∀ run' ∈ db.runs, run' ≠ run → run.id ≠ run'.id := by
    intro run' hrun' hne heq
    exact hne (Table.eq_of_key hi.runIds hrun' hrunMem heq.symm)
  rcases hend with ⟨⟨q, hq, hopen⟩, rfl⟩ | ⟨hall, intent, hintent, rfl⟩
  · refine ⟨hids ▸ hi.partitionIds, hbelow, hi.runIds, fun run' hrun' => ?_, howners, hunits, hattempts,
      hi.intents⟩
    by_cases heq : run' = run
    · subst heq
      refine ⟨m, hrunId ▸ hm, hcover₁, ?_, fun hsealed => ?_, ?_⟩
      · rw [hstate]
        refine ⟨fun hsealed => absurd hsealed (by simp), fun hdone => ?_⟩
        have := hdone (checkpoint q) (List.mem_map_of_mem hq)
        exact absurd (by simpa [checkpoint] using this) hopen
      · rw [hstate] at hsealed
        cases hsealed
      · rw [show intentsAt (insertedDb db p run' m now) run'.id = [] from hintents, hstate]
        rfl
    · obtain ⟨m', hm', hcover', hseal'⟩ := hi.runs run' hrun'
      have hsame := insertedDb_same m now hi hp hrunId.symm (hother run' hrun' heq)
      exact ⟨m', hm', hcover'.same hsame, hseal'.same hsame⟩
  · have hrunIds := sealedDb_runIds (insertedDb db p run m now) run m.units.length intent now
    refine ⟨hids ▸ hi.partitionIds, hbelow, hrunIds ▸ hi.runIds, fun run' hrun' => ?_,
      hrunIds ▸ howners, hrunIds ▸ hunits, hattempts, fun i hmem => ?_⟩
    · obtain ⟨old, hold, rfl⟩ := Table.mem_modify.1 hrun'
      by_cases heq : old.id = run.id
      · rw [if_pos heq]
        refine ⟨m, hrunId ▸ hm, ⟨hcover₁.count, hcover₁.ranges, hcover₁.placed, hcover₁.vacant⟩,
          ⟨fun _ => ?_, fun _ => rfl⟩, fun _ => ⟨rfl, rfl⟩, ?_⟩
        · intro c hc
          obtain ⟨q, hq, rfl⟩ := List.mem_map.1 hc
          simpa [checkpoint] using hall q hq
        · have hnone : (insertedDb db p run m now).startIntents.filter
              (fun i => i.taskRunId = run.id) = [] := hintents
          show ((_ ++ [intent]).filter _).length = _
          rw [List.filter_append, show (materializedRun run m.units.length m.units.length now).id =
            run.id from rfl, hnone, List.filter_cons_of_pos (by simpa using hintent)]
          rfl
      · rw [if_neg heq]
        obtain ⟨m', hm', hcover', hseal'⟩ := hi.runs old hold
        have hsame := insertedDb_same m now hi hp hrunId.symm (Ne.symm heq)
        have hsame' := sealedDb_same (insertedDb db p run m now) m.units.length now hintent
          (Ne.symm heq)
        exact ⟨m', hm', (hcover'.same hsame).same hsame', (hseal'.same hsame).same hsame'⟩
    · rcases List.mem_append.1 hmem with hold | hnew
      · exact hrunIds ▸ hi.intents i hold
      · rw [List.mem_singleton.1 hnew, hintent]
        exact hrunIds ▸ List.mem_map_of_mem hrunMem

/-! ### Every run -/

/-- What an event does to the tables. -/
theorem MaterializationInv.apply_cases {db : MaterializationDb} (hi : MaterializationInv db)
    (e : MaterializationEvent) :
    e.apply db = db ∨ Leased db (e.apply db) ∨ Creates db (e.apply db) ∨
      ∃ claim dependencies now, e = .complete claim dependencies now ∧
        Completes claim now db (e.apply db) := by
  unfold MaterializationEvent.apply
  rcases after_eq e.transaction db with hsame | ⟨u, hc⟩
  · exact Or.inl hsame
  · generalize after e.transaction db = db' at hc
    cases e with
    | create run m trigger provenance =>
      obtain ⟨_, h⟩ := commits_discard.1 hc
      exact (commits_createPartitionedRun h).imp_right fun h => Or.inr (Or.inl h.2)
    | claim =>
      obtain ⟨_, h⟩ := commits_discard.1 hc
      exact Or.inr (Or.inl (hi.claim_leased h))
    | complete claim dependencies now =>
      obtain ⟨_, h⟩ := commits_discard.1 hc
      exact (commits_completePartition h).imp_right fun h =>
        Or.inr (Or.inr ⟨claim, dependencies, now, rfl, h⟩)
    | retry =>
      obtain ⟨_, h⟩ := commits_discard.1 hc
      exact Or.inr (Or.inl (retry_leased h))
    | fail =>
      obtain ⟨_, h⟩ := commits_discard.1 hc
      exact Or.inr (Or.inl (fail_leased h))

theorem MaterializationInv.step {db : MaterializationDb} (hi : MaterializationInv db)
    (e : MaterializationEvent) : MaterializationInv (e.apply db) := by
  rcases hi.apply_cases e with h | h | h | ⟨_, _, _, -, h⟩
  · rw [h]
    exact hi
  · exact hi.leased h
  · exact hi.create h
  · exact hi.complete h

theorem materializationInv {db : MaterializationDb} (h : Materialized db) : MaterializationInv db := by
  induction h with
  | empty => constructor <;> simp [MaterializationDb.empty]
  | step e _ ih => exact ih.step e

/-- The tables of one Run. -/
structure ExactRun (db : MaterializationDb) (run : TaskRun) (m : TaskRunManifest) : Prop where
  manifest : db.getManifest run.id = some m
  count : 64 < m.units.length ∧ m.units.length ≤ 100000
  /-- The partitions cover the ordinals exactly once. -/
  covered : ∀ o, 1 ≤ o → o ≤ m.units.length → ∃! p, p ∈ db.partitionsOf run.id ∧ p.covers o
  within : ∀ p ∈ db.partitionsOf run.id, ∀ o, p.covers o → 1 ≤ o ∧ o ≤ m.units.length
  placed : ∀ p ∈ db.partitionsOf run.id, p.status = .completed → ∀ o, p.covers o →
    Placed db run.id m o
  vacant : ∀ o, (∀ p ∈ db.partitionsOf run.id, p.covers o → p.status ≠ .completed) →
    unitsAt db run.id o = []
  sealed_iff : run.materializationState = .sealed ↔
    ∀ p ∈ db.partitionsOf run.id, p.status = .completed
  sealed_count : run.materializationState = .sealed →
    run.materializedUnitCount = some m.units.length ∧
      ∀ o, 1 ≤ o → o ≤ m.units.length → Placed db run.id m o
  started : (intentsAt db run.id).length = if run.materializationState = .sealed then 1 else 0

/-- The partition that covers an ordinal is the one at its place. -/
theorem Cover.index_eq {db : MaterializationDb} {r : Uuid} {m : TaskRunManifest} (h : Cover db r m)
    {p : MaterializationPartition} (hp : p ∈ db.partitionsOf r) {o : ℕ} :
    p.covers o ↔ p.partitionIndex = (o - 1) / 64 ∧ 1 ≤ o ∧ o ≤ m.units.length := by
  obtain ⟨hlt, hfirst, hlast, -, -, -⟩ := h.place (List.mem_map_of_mem (f := checkpoint) hp)
  have hfirst : p.firstOrdinal = p.partitionIndex * 64 + 1 := hfirst
  have hlast : p.lastOrdinal = min ((p.partitionIndex + 1) * 64) m.units.length := hlast
  simp only [MaterializationPartition.covers, decide_eq_true_eq]
  omega

theorem Cover.covered {db : MaterializationDb} {r : Uuid} {m : TaskRunManifest} (h : Cover db r m)
    {o : ℕ} (hlow : 1 ≤ o) (hhigh : o ≤ m.units.length) :
    ∃! p, p ∈ db.partitionsOf r ∧ p.covers o := by
  have hindices : (db.partitionsOf r).map MaterializationPartition.partitionIndex =
      List.range (partitionCount m.units.length) := by
    have := congrArg (List.map Prod.fst) h.ranges
    simpa [checkpoints, List.map_map, Function.comp_def, Checkpoint.range, checkpoint,
      expectedRange] using this
  have hmem : (o - 1) / 64 ∈ (db.partitionsOf r).map MaterializationPartition.partitionIndex := by
    rw [hindices, List.mem_range]
    unfold partitionCount
    omega
  obtain ⟨p, hp, hindex⟩ := List.mem_map.1 hmem
  refine ⟨p, ⟨hp, (h.index_eq hp).2 ⟨hindex, hlow, hhigh⟩⟩, fun q ⟨hq, hcovers⟩ => ?_⟩
  have hnodup : ((db.partitionsOf r).map MaterializationPartition.partitionIndex).Nodup := by
    rw [hindices]
    exact List.nodup_range
  exact List.inj_on_of_nodup_map hnodup hq hp (((h.index_eq hq).1 hcovers).1.trans hindex.symm)

theorem checkpoint_covers {p : MaterializationPartition} {o : ℕ} :
    (checkpoint p).Covers o ↔ p.covers o := by
  simp [Checkpoint.Covers, checkpoint, MaterializationPartition.covers]

theorem MaterializationInv.exactRun {db : MaterializationDb} (hi : MaterializationInv db)
    {run : TaskRun} (hrun : run ∈ db.runs) : ∃ m, ExactRun db run m := by
  obtain ⟨m, hm, hcover, hseal⟩ := hi.runs run hrun
  have hplaced : ∀ p ∈ db.partitionsOf run.id, p.status = .completed → ∀ o, p.covers o →
      Placed db run.id m o := by
    intro p hp hdone o ho
    exact hcover.placed (checkpoint p) (List.mem_map_of_mem hp) (by simpa [checkpoint] using hdone) o
      (checkpoint_covers.2 ho)
  have hsealed : run.materializationState = .sealed ↔
      ∀ p ∈ db.partitionsOf run.id, p.status = .completed := by
    rw [hseal.sealed_iff]
    simp [checkpoints, checkpoint]
  refine ⟨m, hm, hcover.count, fun o => hcover.covered, fun p hp o ho => ?_, hplaced, fun o ho => ?_,
    hsealed, fun h => ⟨(hseal.counted h).1, fun o hlow hhigh => ?_⟩, hseal.started⟩
  · exact ((hcover.index_eq hp).1 ho).2
  · apply hcover.vacant
    intro c hc hcovers
    obtain ⟨p, hp, rfl⟩ := List.mem_map.1 hc
    have hopen := ho p hp (checkpoint_covers.1 hcovers)
    simpa [checkpoint] using hopen
  · obtain ⟨p, ⟨hp, hcovers⟩, -⟩ := hcover.covered hlow hhigh
    exact hplaced p hp (hsealed.1 h p hp) o hcovers

/-! ### A Run of 65 Units -/

def largeScope : RunScope := ⟨1, 10, 100, 5⟩

def largeRun : TaskRun where
  toRunScope := largeScope
  toExecutionState := queuedState 0
  requestDigest := some 6
  materializationState := .materializing
  materializedUnitCount := none
  materializedFirstAttemptCount := none
  temporalNamespace := some "atlas"
  temporalWorkflowId := some (taskRunWorkflowId 1 100)
  queuedAt := 0
  createdAt := 0

def largeManifest : TaskRunManifest where
  toRunScope := largeScope
  units := (List.range 65).map fun i => ⟨⟨i + 1, 2, 3, 4, 5, 6, 7, 8, 9, 10⟩, BitVec.ofNat 256 i⟩
  policyDigests := []
  retryPolicy := none

/-- Both partitions are claimed at 10 and completed. -/
def materializeLarge : List MaterializationEvent :=
  [.create largeRun largeManifest ⟨1, "MANUAL", "large"⟩ (.ok ()), .claim "m1" 10 60 10,
    .complete ⟨0, 2, 2, "m1"⟩ (.ok ()) 11, .complete ⟨1, 3, 2, "m1"⟩ (.ok ()) 12]

def largeSealed : MaterializationDb :=
  materializeLarge.foldl (fun db e => e.apply db) .empty

end Atlas.Proofs.Materialization
