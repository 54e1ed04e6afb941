import AtlasTestOps.Store.PartitionChecks
import AtlasTestOps.Proofs.Materialization

/-! Claims of partitions under the table checks. A claim raises as soon as one row of its batch
has used its 64 attempts, since the claim writes the 65th. As long as no batch holds such a row,
a due partition is overtaken by none that was not due before it, and repeated claims reach it. -/

namespace Atlas.Proofs.PartitionClaims

open Atlas Atlas.Task Atlas.Store Atlas.Proofs.Materialization Txn

/-! ### The checks -/

def ChecksHold (db : MaterializationDb) : Prop := ∀ p ∈ db.partitions, p.rowValid = true

theorem commits_withChecks {α : Type} {op : MaterializationOp α} {db db' : MaterializationDb}
    {answer : α} :
    Commits (withChecks op) db answer db' ↔ Commits op db answer db' ∧ ChecksHold db' := by
  unfold withChecks ChecksHold
  rw [commits_bind]
  constructor
  · rintro ⟨a, mid, hop, h⟩
    rw [commits_read_bind] at h
    obtain ⟨hvalid, h⟩ := commits_raiseIf_bind.1 h
    obtain ⟨rfl, rfl⟩ := commits_pure.1 h
    exact ⟨hop, by simpa using hvalid⟩
  · rintro ⟨hop, hvalid⟩
    refine ⟨answer, db', hop, ?_⟩
    rw [commits_read_bind]
    refine commits_raiseIf_bind.2 ⟨by simpa using hvalid, commits_pure.2 ⟨rfl, rfl⟩⟩

theorem apply_cases (e : PartitionEvent) (db : MaterializationDb) :
    e.apply db = db ∨ (Commits e.unchecked.transaction db () (e.apply db) ∧
      ChecksHold (e.apply db)) := by
  unfold PartitionEvent.apply
  rcases after_eq (withChecks e.unchecked.transaction) db with h | ⟨_, h⟩
  · exact Or.inl h
  · exact Or.inr (commits_withChecks.1 h)

theorem apply_checksHold {e : PartitionEvent} {db : MaterializationDb} (h : ChecksHold db) :
    ChecksHold (e.apply db) := by
  rcases apply_cases e db with heq | ⟨-, hvalid⟩
  · rwa [heq]
  · exact hvalid

/-- The checks only refuse: what a checked event does, the unchecked one does too. -/
theorem apply_inv {e : PartitionEvent} {db : MaterializationDb} (hi : MaterializationInv db) :
    MaterializationInv (e.apply db) := by
  rcases apply_cases e db with heq | ⟨h, -⟩
  · rwa [heq]
  · rw [← after_of_commits h]
    exact hi.step e.unchecked

theorem reached {db : MaterializationDb} (h : PartitionsReached db) :
    MaterializationInv db ∧ ChecksHold db := by
  induction h with
  | empty => exact ⟨materializationInv .empty, by simp [ChecksHold, MaterializationDb.empty]⟩
  | step e _ ih => exact ⟨apply_inv ih.1, apply_checksHold ih.2⟩

/-! ### One claim -/

section Claim

variable {db db' : MaterializationDb} {call : ClaimCall} {p : MaterializationPartition}

def candidateIds (call : ClaimCall) (db : MaterializationDb) : List Uuid :=
  (call.candidates db).map MaterializationPartition.id

/-- The tables after the claim. -/
def claimedDb (call : ClaimCall) (db : MaterializationDb) : MaterializationDb :=
  { db with
    partitions := db.partitions.map
      (claimRow (candidateIds call db) db.nextId call.claimedBy call.leaseSeconds call.now)
    nextId := db.nextId + (candidateIds call db).length }

def claimedRows (call : ClaimCall) (db : MaterializationDb) : List MaterializationPartition :=
  (claimedDb call db).partitions.filter fun p => p.id ∈ candidateIds call db

theorem commits_claimPartitions {rows : List MaterializationPartition} :
    Commits (claimPartitions call.claimedBy call.limit call.leaseSeconds call.now) db rows db' ↔
      call.Valid ∧ rows = claimedRows call db ∧ db' = claimedDb call db := by
  unfold claimPartitions
  rw [commits_raiseIf_bind, commits_read_bind]
  have hvalid : ¬ (matchesClaimant call.claimedBy = false ∨ call.limit < 1 ∨ 100 < call.limit ∨
      call.leaseSeconds < 1 ∨ 900 < call.leaseSeconds) ↔ call.Valid := by
    simp only [ClaimCall.Valid, not_or, Bool.not_eq_false, not_lt]
  rw [hvalid]
  refine and_congr_right fun _ => ?_
  constructor
  · intro h
    obtain ⟨_, mid, hmid, hread⟩ := commits_bind.1 h
    obtain rfl := commits_update.1 hmid
    exact commits_read.1 hread
  · rintro ⟨rfl, rfl⟩
    exact commits_bind.2 ⟨(), _, commits_update.2 rfl, commits_read.2 ⟨rfl, rfl⟩⟩

theorem mem_candidates (h : p ∈ call.candidates db) :
    p ∈ db.partitions ∧ p.claimable call.now = true :=
  List.mem_filter.1 ((List.mem_insertionSort _).1 (List.mem_of_mem_take h))

theorem id_mem_candidateIds (h : p ∈ call.candidates db) : p.id ∈ candidateIds call db :=
  List.mem_map_of_mem h

theorem mem_candidateIds (hi : MaterializationInv db) (hp : p ∈ db.partitions) :
    p.id ∈ candidateIds call db ↔ p ∈ call.candidates db := by
  refine ⟨fun h => ?_, id_mem_candidateIds⟩
  obtain ⟨q, hq, hid⟩ := List.mem_map.1 h
  rwa [← Table.eq_of_key hi.partitionIds (mem_candidates hq).1 hp hid]

theorem lt_lease {now : Instant} {leaseSeconds : ℕ} (h : 1 ≤ leaseSeconds) :
    now < now + seconds leaseSeconds := by
  have hpos : 0 < seconds leaseSeconds := by
    unfold seconds
    omega
  exact Nat.lt_add_of_pos_right hpos

theorem stateValid_of_claimed {token : Uuid} {claimedBy : String} {expires : Instant}
    (hstatus : p.status = .claimed) (htoken : p.claimToken = some token)
    (hby : p.claimedBy = some claimedBy) (hexpires : p.claimExpiresAt = some expires)
    (hlater : p.updatedAt < expires) (hcounts : p.countsCleared = true) : p.stateValid = true := by
  simp [MaterializationPartition.stateValid, hstatus, htoken, hby, hexpires, hlater, hcounts]

/-- A due row was created before now, and nothing is counted for it yet. -/
theorem valid_createdAt {now : Instant} (hvalid : p.rowValid = true)
    (hdue : p.claimable now = true) : p.createdAt ≤ now ∧ p.countsCleared = true := by
  simp only [MaterializationPartition.rowValid, Bool.and_eq_true,
    MaterializationPartition.timeValid, decide_eq_true_eq] at hvalid
  obtain ⟨⟨-, hstate⟩, havailable, hupdated⟩ := hvalid
  simp only [MaterializationPartition.claimable, List.mem_cons, List.not_mem_nil, or_false,
    decide_eq_true_eq] at hdue
  unfold MaterializationPartition.stateValid at hstate
  rcases hdue with ⟨hopen, hat⟩ | ⟨hclaimed, hexpired⟩
  · refine ⟨Nat.le_trans havailable hat, ?_⟩
    rcases hopen with h | h <;> rw [h] at hstate <;> exact (Bool.and_eq_true _ _ ▸ hstate).2
  · rw [hclaimed] at hstate
    simp only [Bool.and_eq_true] at hstate
    obtain ⟨⟨-, hlease⟩, hcounts⟩ := hstate
    refine ⟨?_, hcounts⟩
    obtain ⟨expires, hsome, hle⟩ := (Option.any_eq_true _ _).1 hexpired
    rw [hsome, Option.any_some, decide_eq_true_eq] at hlease
    exact Nat.le_trans hupdated (Nat.le_trans (Nat.le_of_lt hlease) (of_decide_eq_true hle))

/-- Claimed once more, a row passes every check but perhaps the one on its attempts. -/
theorem claim_rowValid {now : Instant} {token : Uuid} {claimedBy : String} {leaseSeconds : ℕ}
    (hvalid : p.rowValid = true) (hdue : p.claimable now = true) (hlease : 1 ≤ leaseSeconds) :
    (p.claim token claimedBy leaseSeconds now).rowValid = true ↔
      p.materializationAttempts < 64 := by
  have hcreated : p.createdAt ≤ now := (valid_createdAt hvalid hdue).1
  have hcounts : p.countsCleared = true := (valid_createdAt hvalid hdue).2
  simp only [MaterializationPartition.rowValid, Bool.and_eq_true] at hvalid ⊢
  obtain ⟨⟨⟨⟨hrange, -⟩, herror⟩, -⟩, htime⟩ := hvalid
  have hstate : (p.claim token claimedBy leaseSeconds now).stateValid = true :=
    stateValid_of_claimed rfl rfl rfl rfl (lt_lease hlease) hcounts
  have htime' : (p.claim token claimedBy leaseSeconds now).timeValid = true := by
    simp only [MaterializationPartition.timeValid, decide_eq_true_eq] at htime ⊢
    exact ⟨htime.1, hcreated⟩
  have hattempts : (p.claim token claimedBy leaseSeconds now).attemptsValid = true ↔
      p.materializationAttempts < 64 := by
    unfold MaterializationPartition.attemptsValid
    rw [decide_eq_true_eq]
    exact ⟨fun h => h.1, fun h => ⟨h, Nat.succ_pos _⟩⟩
  rw [hattempts]
  exact ⟨fun h => h.1.1.1.2, fun h => ⟨⟨⟨⟨hrange, h⟩, herror⟩, hstate⟩, htime'⟩⟩

theorem commits_claim_iff (hi : MaterializationInv db) (hchecks : ChecksHold db)
    (hcall : call.Valid) :
    (∃ rows db', Commits call.transaction db rows db') ↔ call.Unspent db := by
  have hrows : ChecksHold (claimedDb call db) ↔ call.Unspent db := by
    constructor
    · intro h p hp
      obtain ⟨hmem, hdue⟩ := mem_candidates hp
      have hrow := h _ (List.mem_map_of_mem hmem)
      rw [claimRow, if_pos ((mem_candidateIds hi hmem).2 hp)] at hrow
      exact (claim_rowValid (hchecks p hmem) hdue hcall.lease_pos).1 hrow
    · intro h q hq
      obtain ⟨p, hmem, rfl⟩ := List.mem_map.1 hq
      unfold claimRow
      split
      · rename_i hid
        have hp := (mem_candidateIds hi hmem).1 hid
        exact (claim_rowValid (hchecks p hmem) (mem_candidates hp).2 hcall.lease_pos).2 (h p hp)
      · exact hchecks p hmem
  unfold ClaimCall.transaction
  simp only [commits_withChecks, commits_claimPartitions]
  constructor
  · rintro ⟨rows, db', ⟨-, -, rfl⟩, h⟩
    exact hrows.1 h
  · exact fun h => ⟨_, _, ⟨hcall, rfl, rfl⟩, hrows.2 h⟩

end Claim

/-! ### Waiting -/

section Waiting

variable {db : MaterializationDb} {p q : MaterializationPartition} {t : Instant}

def dueAt (p : MaterializationPartition) : Instant :=
  if p.status = .claimed then p.claimExpiresAt.getD 0 else p.availableAt

/-- `q` can be claimed some time, and then before `p`. -/
def ahead (p q : MaterializationPartition) : Bool :=
  q.status ∈ [.pending, .claimed, .retryWait] ∧ q.before p = true ∧ q.id ≠ p.id

def rank (p : MaterializationPartition) (db : MaterializationDb) : ℕ :=
  db.partitions.countP (ahead p)

/-- The call answers with the row. -/
def Returned (p : MaterializationPartition) (call : ClaimCall) (db : MaterializationDb) : Prop :=
  ∃ rows db', Commits call.transaction db rows db' ∧ p.id ∈ rows.map MaterializationPartition.id

theorem before_iff : p.before q = true ↔ dueAt p < dueAt q ∨ (dueAt p = dueAt q ∧
    (p.createdAt < q.createdAt ∨ (p.createdAt = q.createdAt ∧ p.id ≤ q.id))) := by
  simp only [MaterializationPartition.before, dueAt, decide_eq_true_eq]

instance : Std.Total fun p q : MaterializationPartition => p.before q = true where
  total p q := by
    rw [before_iff, before_iff]
    rcases Nat.lt_trichotomy (dueAt p) (dueAt q) with h | h | h
    · exact Or.inl (Or.inl h)
    · rcases Nat.lt_trichotomy p.createdAt q.createdAt with hc | hc | hc
      · exact Or.inl (Or.inr ⟨h, Or.inl hc⟩)
      · exact (Nat.le_total p.id q.id).imp (fun hid => Or.inr ⟨h, Or.inr ⟨hc, hid⟩⟩)
          fun hid => Or.inr ⟨h.symm, Or.inr ⟨hc.symm, hid⟩⟩
      · exact Or.inr (Or.inr ⟨h.symm, Or.inl hc⟩)
    · exact Or.inr (Or.inl h)

instance : IsTrans MaterializationPartition fun p q => p.before q = true where
  trans p q r hpq hqr := by
    rw [before_iff] at *
    rcases hpq with hpq | ⟨hpq, hpq'⟩
    · rcases hqr with hqr | ⟨hqr, -⟩
      · exact Or.inl (Nat.lt_trans hpq hqr)
      · exact Or.inl (hqr ▸ hpq)
    · rcases hqr with hqr | ⟨hqr, hqr'⟩
      · exact Or.inl (hpq ▸ hqr)
      · refine Or.inr ⟨hpq.trans hqr, ?_⟩
        rcases hpq' with hpq' | ⟨hpq', hid⟩
        · rcases hqr' with hqr' | ⟨hqr', -⟩
          · exact Or.inl (Nat.lt_trans hpq' hqr')
          · exact Or.inl (hqr' ▸ hpq')
        · rcases hqr' with hqr' | ⟨hqr', hid'⟩
          · exact Or.inl (hpq' ▸ hqr')
          · exact Or.inr ⟨hpq'.trans hqr', Nat.le_trans hid hid'⟩

theorem claimable_dueAt (h : p.claimable t = true) : dueAt p ≤ t := by
  simp only [MaterializationPartition.claimable, List.mem_cons, List.not_mem_nil, or_false,
    decide_eq_true_eq] at h
  unfold dueAt
  rcases h with ⟨hopen, hat⟩ | ⟨hclaimed, hexpired⟩
  · rw [if_neg]
    · exact hat
    · rcases hopen with h | h <;> simp [h]
  · obtain ⟨expires, hsome, hle⟩ := (Option.any_eq_true _ _).1 hexpired
    rw [if_pos hclaimed, hsome]
    exact of_decide_eq_true hle

/-- A due row stays due. -/
theorem claimable_mono {now : Instant} (h : p.claimable t = true) (hle : t ≤ now) :
    p.claimable now = true := by
  simp only [MaterializationPartition.claimable, decide_eq_true_eq] at h ⊢
  refine h.imp (fun h => ⟨h.1, Nat.le_trans h.2 hle⟩) fun h => ⟨h.1, ?_⟩
  obtain ⟨expires, hsome, hexpired⟩ := (Option.any_eq_true _ _).1 h.2
  exact (Option.any_eq_true _ _).2
    ⟨expires, hsome, decide_eq_true (Nat.le_trans (of_decide_eq_true hexpired) hle)⟩

/-- Nobody holds a due row. -/
theorem not_heldBy_of_claimable {now : Instant} {claim : PartitionClaim}
    (h : p.claimable t = true) (hle : t ≤ now) : p.heldBy claim now = false := by
  have hdue := claimable_mono h hle
  by_contra hheld
  simp only [Bool.not_eq_false, MaterializationPartition.heldBy, decide_eq_true_eq] at hheld
  obtain ⟨-, hclaimed, -, -, -, hlease⟩ := hheld
  obtain ⟨expires, hsome, hlt⟩ := (Option.any_eq_true _ _).1 hlease
  simp only [MaterializationPartition.claimable, hclaimed, hsome, Option.any_some,
    decide_eq_true_eq, List.mem_cons, List.not_mem_nil, reduceCtorEq, or_self, false_and,
    true_and, false_or] at hdue
  exact absurd (of_decide_eq_true hlt) (Nat.not_lt.2 hdue)

theorem not_ahead_of_later (hdue : dueAt p < dueAt q) : ahead p q = false := by
  simp only [ahead, decide_eq_false_iff_not, before_iff]
  rintro ⟨-, h | ⟨h, -⟩, -⟩
  · exact absurd h (Nat.not_lt.2 (Nat.le_of_lt hdue))
  · exact absurd h (Nat.ne_of_gt hdue)

theorem countP_lt {α : Type} {l : List α} {P Q : α → Bool} (h : ∀ a ∈ l, Q a → P a)
    {a : α} (ha : a ∈ l) (hP : P a = true) (hQ : Q a = false) : l.countP Q < l.countP P := by
  obtain ⟨xs, ys, rfl⟩ := List.append_of_mem ha
  have hxs := List.countP_mono_left fun x hx => h x (List.mem_append_left _ hx)
  have hys := List.countP_mono_left fun y hy =>
    h y (List.mem_append_right _ (List.mem_cons_of_mem _ hy))
  simp only [List.countP_append, List.countP_cons, hP, hQ, if_true]
  simp only [Bool.false_eq_true, if_false]
  omega

end Waiting

/-! ### One event -/

section Step

variable {db db' : MaterializationDb} {p : MaterializationPartition} {t : Instant}

/-- The row is as it was, and no more rows are ahead of it. -/
structure StillWaits (p : MaterializationPartition) (db db' : MaterializationDb) : Prop where
  mem : p ∈ db'.partitions
  rank_le : rank p db' ≤ rank p db

theorem StillWaits.same (hp : p ∈ db.partitions) (h : db' = db) : StillWaits p db db' := by
  rw [h]
  exact ⟨hp, Nat.le_refl _⟩

theorem StillWaits.map {f : MaterializationPartition → MaterializationPartition}
    (hp : p ∈ db.partitions) (hpartitions : db'.partitions = db.partitions.map f) (hself : f p = p)
    (hf : ∀ q ∈ db.partitions, ahead p (f q) = true → ahead p q = true) : StillWaits p db db' where
  mem := by
    rw [hpartitions]
    exact List.mem_map.2 ⟨p, hp, hself⟩
  rank_le := by
    unfold rank
    rw [hpartitions, List.countP_map]
    exact List.countP_mono_left hf

theorem StillWaits.release {claim : PartitionClaim} {now : Instant} {held : Bool}
    {f : MaterializationPartition → MaterializationPartition} (hp : p ∈ db.partitions)
    (hdue : p.claimable t = true) (hnow : t ≤ now)
    (hf : ∀ q : MaterializationPartition, ahead p (f q) = false)
    (h : Commits (releasePartition claim now f) db held db') : StillWaits p db db' := by
  unfold releasePartition at h
  rw [commits_read_bind] at h
  obtain ⟨_, mid, hmid, hpure⟩ := commits_bind.1 h
  obtain rfl := commits_update.1 hmid
  obtain ⟨-, rfl⟩ := commits_pure.1 hpure
  refine .map hp rfl ?_ fun q _ => ?_
  · rw [releaseRow, not_heldBy_of_claimable hdue hnow]
    exact if_neg Bool.false_ne_true
  · unfold releaseRow
    split
    · rw [hf]
      exact fun h => absurd h Bool.false_ne_true
    · exact id

theorem not_ahead_of_closed {q : MaterializationPartition}
    (h : q.status = .completed ∨ q.status = .failed) : ahead p q = false := by
  simp only [ahead, decide_eq_false_iff_not]
  rintro ⟨hopen, -⟩
  rcases h with h | h <;> simp [h] at hopen

theorem StillWaits.retry {claim : PartitionClaim} {errorCode : String} {retryDelayMs : ℕ}
    {now : Instant} {held : Bool} (hp : p ∈ db.partitions) (hdue : p.claimable t = true)
    (hnow : t ≤ now) (h : Commits (retryPartition claim errorCode retryDelayMs now) db held db') :
    StillWaits p db db' := by
  obtain ⟨hinput, h⟩ := commits_raiseIf_bind.1 h
  refine .release hp hdue hnow (fun q => not_ahead_of_later ?_) h
  have hdelay : 0 < retryDelayMs * 1000 := by omega
  calc dueAt p ≤ now := Nat.le_trans (claimable_dueAt hdue) hnow
    _ < now + retryDelayMs * 1000 := Nat.lt_add_of_pos_right hdelay

theorem StillWaits.fail {claim : PartitionClaim} {errorCode : String} {now : Instant} {held : Bool}
    (hp : p ∈ db.partitions) (hdue : p.claimable t = true) (hnow : t ≤ now)
    (h : Commits (failPartition claim errorCode now) db held db') : StillWaits p db db' := by
  obtain ⟨-, h⟩ := commits_raiseIf_bind.1 h
  exact .release hp hdue hnow (fun q => not_ahead_of_closed (Or.inr rfl)) h

theorem StillWaits.complete {claim : PartitionClaim} {now : Instant} (hi : MaterializationInv db)
    (hp : p ∈ db.partitions) (hdue : p.claimable t = true) (hnow : t ≤ now)
    (h : Completes claim now db db') : StillWaits p db db' := by
  obtain ⟨r, run, m, hr, hheld, -, -, -, -, -, hend⟩ := h
  have hne : p.id ≠ r.id := by
    intro hid
    obtain rfl := Table.eq_of_key hi.partitionIds hp hr hid
    rw [not_heldBy_of_claimable hdue hnow] at hheld
    exact Bool.false_ne_true hheld
  have hpartitions : db'.partitions = Table.modify MaterializationPartition.id r.id
      (fun q => q.complete now) db.partitions := by
    rcases hend with ⟨-, rfl⟩ | ⟨-, intent, -, rfl⟩ <;> rfl
  refine .map hp hpartitions (if_neg hne) fun q _ => ?_
  split
  · rw [not_ahead_of_closed (Or.inl rfl)]
    exact fun h => absurd h Bool.false_ne_true
  · exact id

theorem StillWaits.create {run : TaskRun} {m : TaskRunManifest} {trigger : RunTrigger}
    (hi : MaterializationInv db) (hchecks : ChecksHold db) (hp : p ∈ db.partitions)
    (hdue : p.claimable t = true) (hnow : t ≤ run.createdAt) :
    StillWaits p db (createdDb db run m trigger) where
  mem := List.mem_append_left _ hp
  rank_le := by
    unfold rank createdDb
    rw [List.countP_append]
    refine Nat.le_of_eq (Nat.add_eq_left.2 (List.countP_eq_zero.2 fun q hq => ?_))
    obtain ⟨i, -, rfl⟩ := List.mem_map.1 hq
    rw [Bool.not_eq_true, ahead, decide_eq_false_iff_not, before_iff]
    have hdueAt : dueAt p ≤ run.createdAt := Nat.le_trans (claimable_dueAt hdue) hnow
    have hcreated : p.createdAt ≤ run.createdAt :=
      Nat.le_trans (valid_createdAt (hchecks p hp) hdue).1 hnow
    have hid : p.id < db.nextId := hi.partitionsBelow p hp
    rintro ⟨-, h | ⟨-, h | ⟨-, h⟩⟩, -⟩
    · exact absurd h (Nat.not_lt.2 hdueAt)
    · exact absurd h (Nat.not_lt.2 hcreated)
    · exact absurd (Nat.le_trans (Nat.le_add_right _ _) h) (Nat.not_le.2 hid)

/-- A row that the batch has no room for stands behind the whole batch. -/
theorem ahead_of_candidates {call : ClaimCall} (hi : MaterializationInv db) (hp : p ∈ db.partitions)
    (hdue : p.claimable call.now = true) (hlimit : 1 ≤ call.limit)
    (hout : p ∉ call.candidates db) :
    (∃ q ∈ call.candidates db, ahead p q = true) := by
  obtain ⟨rows, hrows⟩ : ∃ rows, rows = (db.partitions.filter fun p => p.claimable call.now).insertionSort
      fun p q => p.before q = true := ⟨_, rfl⟩
  have hcandidates : call.candidates db = rows.take call.limit := by rw [hrows]; rfl
  have hmem : p ∈ rows := by
    rw [hrows, List.mem_insertionSort]
    exact List.mem_filter.2 ⟨hp, hdue⟩
  have hsorted : rows.Pairwise fun p q => p.before q = true := by
    rw [hrows]
    exact List.pairwise_insertionSort _ _
  rw [← List.take_append_drop call.limit rows] at hmem hsorted
  have hlater : p ∈ rows.drop call.limit :=
    (List.mem_append.1 hmem).resolve_left (hcandidates ▸ hout)
  obtain ⟨q, hq⟩ : ∃ q, q ∈ rows.take call.limit := by
    refine List.exists_mem_of_ne_nil _ fun hnil => ?_
    rcases List.take_eq_nil_iff.1 hnil with h | h
    · omega
    · rw [h] at hlater
      simp at hlater
  refine ⟨q, hcandidates ▸ hq, ?_⟩
  obtain ⟨hqmem, hqdue⟩ := mem_candidates (hcandidates ▸ hq : q ∈ call.candidates db)
  rw [ahead, decide_eq_true_eq]
  refine ⟨?_, (List.pairwise_append.1 hsorted).2.2 q hq p hlater, fun hid => hout ?_⟩
  · simp only [MaterializationPartition.claimable, decide_eq_true_eq] at hqdue
    rcases hqdue with ⟨h, -⟩ | ⟨h, -⟩
    · simp only [List.mem_cons, List.not_mem_nil, or_false] at h ⊢
      exact h.imp_right Or.inr
    · simp [h]
  · rw [← Table.eq_of_key hi.partitionIds hqmem hp hid]
    exact hcandidates ▸ hq

theorem dueAt_of_claimed {q : MaterializationPartition} {expires : Instant}
    (hstatus : q.status = .claimed) (hexpires : q.claimExpiresAt = some expires) :
    dueAt q = expires := by
  rw [dueAt, if_pos hstatus, hexpires, Option.getD_some]

theorem lt_dueAt_claim {q : MaterializationPartition} {token : Uuid} {claimedBy : String}
    {leaseSeconds : ℕ} {now : Instant} (h : 1 ≤ leaseSeconds) :
    now < dueAt (q.claim token claimedBy leaseSeconds now) :=
  Nat.lt_of_lt_of_eq (lt_lease h) (dueAt_of_claimed rfl rfl).symm

/-- A claim that does not answer with a due row takes one from before it. -/
theorem claim_step {call : ClaimCall} (hi : MaterializationInv db) (hp : p ∈ db.partitions)
    (hdue : p.claimable t = true) (hnow : t ≤ call.now) (hcall : call.Valid)
    (hout : p ∉ call.candidates db) :
    StillWaits p db (claimedDb call db) ∧ rank p (claimedDb call db) < rank p db := by
  have hclaimed : ∀ (q : MaterializationPartition) (token : Uuid),
      ahead p (q.claim token call.claimedBy call.leaseSeconds call.now) = false := by
    intro q token
    exact not_ahead_of_later (Nat.lt_of_le_of_lt
      (Nat.le_trans (claimable_dueAt hdue) hnow) (lt_dueAt_claim hcall.lease_pos))
  have hrow : ∀ q ∈ db.partitions, ahead p (claimRow (candidateIds call db) db.nextId
      call.claimedBy call.leaseSeconds call.now q) = true → ahead p q = true := by
    intro q _
    unfold claimRow
    split
    · rw [hclaimed]
      exact fun h => absurd h Bool.false_ne_true
    · exact id
  have hself : claimRow (candidateIds call db) db.nextId call.claimedBy call.leaseSeconds
      call.now p = p := if_neg (mt (mem_candidateIds hi hp).1 hout)
  refine ⟨.map hp rfl hself hrow, ?_⟩
  obtain ⟨q, hq, hahead⟩ := ahead_of_candidates hi hp (claimable_mono hdue hnow) hcall.limit_pos hout
  obtain ⟨hqmem, -⟩ := mem_candidates hq
  unfold rank claimedDb
  rw [List.countP_map]
  refine countP_lt hrow hqmem hahead ?_
  rw [Function.comp_apply, claimRow, if_pos (id_mem_candidateIds hq)]
  exact hclaimed q _

end Step

/-! ### Runs -/

section Runs

variable {db : MaterializationDb} {p : MaterializationPartition} {t : Instant}

/-- The batch of every claim of the run can be claimed. -/
def UnspentRun (db : MaterializationDb) (events : List PartitionEvent) : Prop :=
  ∀ before call later, events = before ++ .claim call :: later →
    call.Unspent (runPartitionEvents db before)

/-- Some claim of the run answers with the row. -/
def ReturnedIn (p : MaterializationPartition) (db : MaterializationDb)
    (events : List PartitionEvent) : Prop :=
  ∃ before call later, events = before ++ .claim call :: later ∧
    Returned p call (runPartitionEvents db before)

theorem unspentRun_nil : UnspentRun db [] :=
  fun before _ _ h => absurd h.symm (List.append_ne_nil_of_right_ne_nil before (List.cons_ne_nil _ _))

theorem unspentRun_cons {e : PartitionEvent} {events : List PartitionEvent} :
    UnspentRun db (e :: events) ↔
      (∀ call, e = .claim call → call.Unspent db) ∧ UnspentRun (e.apply db) events := by
  refine ⟨fun h => ⟨fun call he => h [] call events (he ▸ rfl), fun before call later heq =>
    h (e :: before) call later (heq ▸ rfl)⟩, fun h before call later heq => ?_⟩
  cases before with
  | nil => exact h.1 call (List.cons.inj heq).1
  | cons e' before =>
    obtain ⟨rfl, rfl⟩ := List.cons.inj heq
    exact h.2 before call later rfl

/-- An event that does not answer with the due row leaves it waiting, a claim further ahead. -/
theorem event_step (hi : MaterializationInv db) (hchecks : ChecksHold db) (hp : p ∈ db.partitions)
    (hdue : p.claimable t = true) {e : PartitionEvent} (hnow : t ≤ e.clock)
    (hunspent : ∀ call, e = .claim call → call.Unspent db)
    (hout : ∀ call, e = .claim call → ¬ Returned p call db) :
    StillWaits p db (e.apply db) ∧ (e.isValidClaim = true → rank p (e.apply db) < rank p db) := by
  cases e with
  | claim call =>
    by_cases hcall : call.Valid
    · obtain ⟨rows, db', h⟩ := (commits_claim_iff hi hchecks hcall).2 (hunspent call rfl)
      obtain ⟨hclaim, hchecks'⟩ := commits_withChecks.1 h
      obtain ⟨-, rfl, rfl⟩ := commits_claimPartitions.1 hclaim
      have happly : (PartitionEvent.claim call).apply db = claimedDb call db :=
        after_of_commits (a := ()) (commits_withChecks.2 ⟨commits_discard.2 ⟨_, hclaim⟩, hchecks'⟩)
      rw [happly]
      have hcandidate : p ∉ call.candidates db := by
        intro hmem
        refine hout call rfl ⟨_, _, h, List.mem_map.2 ⟨_, List.mem_filter.2
          ⟨List.mem_map_of_mem hp, ?_⟩, ?_⟩⟩
        · rw [claimRow, if_pos (id_mem_candidateIds hmem)]
          exact decide_eq_true (show p.id ∈ candidateIds call db from id_mem_candidateIds hmem)
        · rw [claimRow, if_pos (id_mem_candidateIds hmem)]
          rfl
      obtain ⟨hwaits, hlt⟩ := claim_step hi hp hdue hnow hcall hcandidate
      exact ⟨hwaits, fun _ => hlt⟩
    · have happly : (PartitionEvent.claim call).apply db = db := by
        rcases apply_cases (.claim call) db with h | ⟨h, -⟩
        · exact h
        · obtain ⟨rows, h⟩ := commits_discard.1 h
          exact absurd (commits_claimPartitions.1 h).1 hcall
      exact ⟨.same hp happly, fun h => absurd (of_decide_eq_true h) hcall⟩
  | create run m trigger provenance =>
    refine ⟨?_, fun h => absurd h Bool.false_ne_true⟩
    rcases apply_cases (.create run m trigger provenance) db with h | ⟨h, -⟩
    · exact .same hp h
    · obtain ⟨_, h⟩ := commits_discard.1 h
      rcases commits_createPartitionedRun h with h | ⟨h, -⟩
      · exact .same hp h
      · exact h ▸ .create hi hchecks hp hdue hnow
  | complete claim dependencies now =>
    refine ⟨?_, fun h => absurd h Bool.false_ne_true⟩
    rcases apply_cases (.complete claim dependencies now) db with h | ⟨h, -⟩
    · exact .same hp h
    · obtain ⟨_, h⟩ := commits_discard.1 h
      rcases commits_completePartition h with h | h
      · exact .same hp h
      · exact .complete hi hp hdue hnow h
  | retry claim errorCode retryDelayMs now =>
    refine ⟨?_, fun h => absurd h Bool.false_ne_true⟩
    rcases apply_cases (.retry claim errorCode retryDelayMs now) db with h | ⟨h, -⟩
    · exact .same hp h
    · obtain ⟨_, h⟩ := commits_discard.1 h
      exact .retry hp hdue hnow h
  | fail claim errorCode now =>
    refine ⟨?_, fun h => absurd h Bool.false_ne_true⟩
    rcases apply_cases (.fail claim errorCode now) db with h | ⟨h, -⟩
    · exact .same hp h
    · obtain ⟨_, h⟩ := commits_discard.1 h
      exact .fail hp hdue hnow h

/-- By induction on the run; each claim that misses the row lowers its rank. -/
theorem returned_of_rank {events : List PartitionEvent} (hi : MaterializationInv db)
    (hchecks : ChecksHold db) (hp : p ∈ db.partitions) (hdue : p.claimable t = true)
    (hnow : ∀ e ∈ events, t ≤ e.clock) (hunspent : UnspentRun db events)
    (hclaims : rank p db < events.countP PartitionEvent.isValidClaim) :
    ReturnedIn p db events := by
  induction events generalizing db with
  | nil => exact absurd hclaims (Nat.not_lt_zero _)
  | cons e events ih =>
    obtain ⟨hunspent, hlater⟩ := unspentRun_cons.1 hunspent
    by_cases hout : ∀ call, e = .claim call → ¬ Returned p call db
    · obtain ⟨hwaits, hlt⟩ := event_step hi hchecks hp hdue (hnow e List.mem_cons_self) hunspent hout
      have hclaims' : rank p (e.apply db) < events.countP PartitionEvent.isValidClaim := by
        rw [List.countP_cons] at hclaims
        have hle := hwaits.rank_le
        split at hclaims
        · rename_i hvalid
          have := hlt hvalid
          omega
        · omega
      obtain ⟨before, call, later, rfl, hreturned⟩ := ih (apply_inv hi) (apply_checksHold hchecks)
        hwaits.mem (fun e' he' => hnow e' (List.mem_cons_of_mem _ he')) hlater hclaims'
      exact ⟨e :: before, call, later, rfl, hreturned⟩
    · simp only [not_forall, not_not] at hout
      obtain ⟨call, rfl, hreturned⟩ := hout
      exact ⟨[], call, events, rfl, hreturned⟩

theorem rank_lt (hp : p ∈ db.partitions) : rank p db < db.partitions.length := by
  refine List.countP_lt_length_iff.2 ⟨p, hp, ?_⟩
  simp [ahead]

theorem reached_run (h : PartitionsReached db) (events : List PartitionEvent) :
    PartitionsReached (runPartitionEvents db events) := by
  induction events generalizing db with
  | nil => exact h
  | cons e events ih => exact ih (.step e h)

theorem unspent_claims_reach_every_partition (h : PartitionsReached db) :
    (∀ call : ClaimCall, call.Valid →
      ((∃ rows db', Commits call.transaction db rows db') ↔ call.Unspent db)) ∧
    ∀ events, UnspentRun db events →
      (∀ before call later, events = before ++ .claim call :: later → call.Valid →
        ∃ rows db', Commits call.transaction (runPartitionEvents db before) rows db') ∧
      ∀ p ∈ db.partitions, ∀ t, p.claimable t = true → (∀ e ∈ events, t ≤ e.clock) →
        db.partitions.length ≤ events.countP PartitionEvent.isValidClaim →
        ReturnedIn p db events := by
  have hcommits : ∀ {db}, PartitionsReached db → ∀ call : ClaimCall, call.Valid →
      ((∃ rows db', Commits call.transaction db rows db') ↔ call.Unspent db) :=
    fun h call hcall => commits_claim_iff (reached h).1 (reached h).2 hcall
  refine ⟨hcommits h, fun events hunspent => ⟨fun before call later heq hcall => ?_,
    fun p hp t hdue hnow hlength => ?_⟩⟩
  · exact (hcommits (reached_run h before) call hcall).2 (hunspent before call later heq)
  · obtain ⟨hi, hchecks⟩ := reached h
    exact returned_of_rank hi hchecks hp hdue hnow hunspent
      (Nat.lt_of_lt_of_le (rank_lt hp) hlength)

end Runs

def createdPartitions : MaterializationDb :=
  runPartitionEvents .empty [.create largeRun largeManifest ⟨1, "MANUAL", "large"⟩ (.ok ())]

/-- Two claims with room for one row each take the two rows of a new Run. -/
theorem new_partitions_claimed :
    createdPartitions.partitions.length = 2 ∧ ∀ p ∈ createdPartitions.partitions,
      ReturnedIn p createdPartitions [.claim ⟨"m1", 1, 60, 5⟩, .claim ⟨"m2", 1, 60, 7⟩] := by
  have hunspent : UnspentRun createdPartitions [.claim ⟨"m1", 1, 60, 5⟩, .claim ⟨"m2", 1, 60, 7⟩] := by
    refine unspentRun_cons.2 ⟨fun call he => ?_, unspentRun_cons.2 ⟨fun call he => ?_, unspentRun_nil⟩⟩
    · obtain rfl := PartitionEvent.claim.inj he
      decide
    · obtain rfl := PartitionEvent.claim.inj he
      decide
  refine ⟨by decide, fun p hp => ?_⟩
  have hdue : p.claimable 5 = true := by
    have : ∀ p ∈ createdPartitions.partitions, p.claimable 5 = true := by decide
    exact this p hp
  exact ((unspent_claims_reach_every_partition (reached_run .empty _)).2 _ hunspent).2 p hp 5 hdue
    (by decide) (by decide)

/-! ### A partition whose workers keep dying -/

def dyingClaim (i : ℕ) : ClaimCall := ⟨"m1", 10, 60, seconds (61 * i)⟩

/-- Every worker dies before it completes, and the next one claims when the lease has run out. -/
def dyingWorkers (n : ℕ) : List PartitionEvent :=
  (List.range n).map fun i => .claim (dyingClaim i)

/-- The rows of the new Run after `n` claims. -/
def dyingDb : ℕ → MaterializationDb
  | 0 => createdPartitions
  | n + 1 =>
    { createdPartitions with
      partitions := createdPartitions.partitions.map fun p =>
        { p.claim (2 + 2 * n + p.id) "m1" 60 (seconds (61 * n)) with
          materializationAttempts := n + 1, revision := n + 2 }
      nextId := 2 + 2 * (n + 1) }

theorem dyingDb_step : ∀ n < 64, (PartitionEvent.claim (dyingClaim n)).apply (dyingDb n) =
    dyingDb (n + 1) := by
  decide +kernel

theorem dyingDb_eq {n : ℕ} (hn : n ≤ 64) :
    runPartitionEvents createdPartitions (dyingWorkers n) = dyingDb n := by
  induction n with
  | zero => rfl
  | succ n ih =>
    have hsplit : dyingWorkers (n + 1) = dyingWorkers n ++ [.claim (dyingClaim n)] := by
      unfold dyingWorkers
      rw [List.range_succ, List.map_append]
      rfl
    rw [hsplit]
    unfold runPartitionEvents at ih ⊢
    rw [List.foldl_append, ih (Nat.le_of_succ_le hn)]
    exact dyingDb_step n hn

def otherRun : TaskRun :=
  { largeRun with
    toRunScope := ⟨2, 20, 200, 5⟩, temporalWorkflowId := some (taskRunWorkflowId 2 200)
    createdAt := 10 }

def otherCreate : PartitionEvent :=
  .create otherRun { largeManifest with toRunScope := ⟨2, 20, 200, 5⟩ } ⟨2, "MANUAL", "other"⟩
    (.ok ())

def poisonedDb : MaterializationDb :=
  otherCreate.apply (runPartitionEvents createdPartitions (dyingWorkers 64))

theorem poisonedDb_eq : poisonedDb = otherCreate.apply (dyingDb 64) := by
  rw [poisonedDb, dyingDb_eq (Nat.le_refl 64)]

/-- Both partitions of the first Run have been claimed 64 times, and the claim that should take
the other tenant's new partitions raises. -/
theorem spent_partition_blocks_claims :
    PartitionsReached poisonedDb ∧ (dyingClaim 64).Valid ∧
      (∃ p ∈ poisonedDb.partitions, p.tenantId = 2 ∧ p.claimable (dyingClaim 64).now = true) ∧
      ¬ ∃ rows db', Commits (dyingClaim 64).transaction poisonedDb rows db' := by
  have hreached : PartitionsReached poisonedDb :=
    .step otherCreate (reached_run (reached_run .empty _) _)
  have hcall : (dyingClaim 64).Valid := by decide
  refine ⟨hreached, hcall, by rw [poisonedDb_eq]; decide, fun h => ?_⟩
  have hunspent : ¬ (dyingClaim 64).Unspent poisonedDb := by
    rw [poisonedDb_eq]
    decide
  exact hunspent ((commits_claim_iff (reached hreached).1 (reached hreached).2 hcall).1 h)

end Atlas.Proofs.PartitionClaims
