import AtlasTestOps.Proofs.Materialization
import AtlasTestOps.Store.MaterializationSessions

/-! Interleaved statements materialize a large Run exactly. While a completion holds the locks of
its partition and of its Run, no other transaction moves a row that it has read; so it commits
what it would have done in one step, and the last completion finds that it is the last. -/

namespace Atlas.Proofs.Materialization

open Atlas Atlas.Task Atlas.Store ReadCommitted

/-! ### What the locks keep -/

def place (p : MaterializationPartition) : Uuid × Checkpoint := (p.id, checkpoint p)

def placesOf (db : MaterializationDb) (r : Uuid) : List (Uuid × Checkpoint) :=
  (db.partitionsOf r).map place

/-- What a transaction with these locks finds as it was. -/
structure KeepsRows (locks : List MaterializationLock) (db db' : MaterializationDb) : Prop where
  partition : ∀ p ∈ db.partitions, .partition p.id ∈ locks → p ∈ db'.partitions
  manifest : ∀ r m, db.getManifest r = some m → db'.getManifest r = some m
  run : ∀ r, .run r ∈ locks → db'.getRun r = db.getRun r ∧ db'.getManifest r = db.getManifest r
  /-- Only leases move in the Run's partitions. -/
  places : ∀ r, .run r ∈ locks → placesOf db' r = placesOf db r
  units : ∀ r, .run r ∈ locks → db'.unitsOf r = db.unitsOf r

theorem KeepsRows.refl (locks : List MaterializationLock) (db : MaterializationDb) :
    KeepsRows locks db db :=
  ⟨fun _ hp _ => hp, fun _ _ hm => hm, fun _ _ => ⟨rfl, rfl⟩, fun _ _ => rfl, fun _ _ => rfl⟩

theorem KeepsRows.trans {locks : List MaterializationLock} {db₁ db₂ db₃ : MaterializationDb}
    (h : KeepsRows locks db₁ db₂) (h' : KeepsRows locks db₂ db₃) : KeepsRows locks db₁ db₃ where
  partition := fun p hp hlock => h'.partition p (h.partition p hp hlock) hlock
  manifest := fun r m hm => h'.manifest r m (h.manifest r m hm)
  run := fun r hlock =>
    ⟨(h'.run r hlock).1.trans (h.run r hlock).1, (h'.run r hlock).2.trans (h.run r hlock).2⟩
  places := fun r hlock => (h'.places r hlock).trans (h.places r hlock)
  units := fun r hlock => (h'.units r hlock).trans (h.units r hlock)

/-- More locks keep more. -/
theorem KeepsRows.of_cons {lock : MaterializationLock} {locks : List MaterializationLock}
    {db db' : MaterializationDb} (h : KeepsRows (lock :: locks) db db') :
    KeepsRows locks db db' where
  partition := fun p hp hlock => h.partition p hp (List.mem_cons_of_mem _ hlock)
  manifest := h.manifest
  run := fun r hlock => h.run r (List.mem_cons_of_mem _ hlock)
  places := fun r hlock => h.places r (List.mem_cons_of_mem _ hlock)
  units := fun r hlock => h.units r (List.mem_cons_of_mem _ hlock)

/-- The tables are materialized exactly, and a row moves under its lock only. -/
def rowLocks : Discipline MaterializationDb MaterializationLock where
  Inv := MaterializationInv
  Keeps := KeepsRows
  refl := KeepsRows.refl
  trans := KeepsRows.trans

/-! ### New versions of rows -/

section Put

variable {db : MaterializationDb}

theorem heldBy_id {p : MaterializationPartition} {claim : PartitionClaim} {now : Instant}
    (h : p.heldBy claim now = true) : p.id = claim.partitionId := by
  simp only [MaterializationPartition.heldBy, decide_eq_true_eq] at h
  exact h.1

theorem claimRow_id (ids : List Uuid) (token : Uuid) (claimedBy : String) (leaseSeconds : ℕ)
    (now : Instant) (p : MaterializationPartition) :
    (claimRow ids token claimedBy leaseSeconds now p).id = p.id := by
  unfold claimRow
  split <;> rfl

/-- The new versions of some rows, where every other row is its own new version. -/
theorem putPartitions_map (hids : (db.partitions.map MaterializationPartition.id).Nodup)
    {f : MaterializationPartition → MaterializationPartition} (hid : ∀ p, (f p).id = p.id)
    {rows : List MaterializationPartition} (hrows : ∀ p ∈ rows, p ∈ db.partitions)
    (hother : ∀ p ∈ db.partitions, p ∉ rows → f p = p) :
    db.putPartitions (rows.map f) = { db with partitions := db.partitions.map f } := by
  unfold MaterializationDb.putPartitions
  congr 1
  refine List.map_congr_left fun p hp => ?_
  cases hfound : (rows.map f).find? fun row => row.id = p.id with
  | none =>
    refine (hother p hp fun hmem => ?_).symm
    have := List.find?_eq_none.1 hfound (f p) (List.mem_map_of_mem hmem)
    simp [hid] at this
  | some row =>
    obtain ⟨q, hq, rfl⟩ := List.mem_map.1 (List.mem_of_find?_eq_some hfound)
    have hsame : (f q).id = p.id := by simpa using List.find?_some hfound
    obtain rfl := Table.eq_of_key hids (hrows q hq) hp ((hid q).symm.trans hsame)
    rfl

end Put

/-! ### What a call commits -/

/-- The rows that a call moves are locked by it. -/
inductive Effect (call : MaterializationEvent) (locks : List MaterializationLock)
    (db : MaterializationDb) : MaterializationDb → Prop
  | same : Effect call locks db db
  | leased (f : MaterializationPartition → MaterializationPartition) (n : Uuid) :
    (∀ p ∈ db.partitions, KeepsCheckpoint p (f p)) →
    (∀ p ∈ db.partitions, .partition p.id ∉ locks → f p = p) → db.nextId ≤ n →
    Effect call locks db { db with partitions := db.partitions.map f, nextId := n }
  | created {run : TaskRun} {m : TaskRunManifest} {trigger : RunTrigger} {db' : MaterializationDb} :
    .run run.id ∈ locks → CreatesRun run m trigger db db' → Effect call locks db db'
  | completed {p : MaterializationPartition} {run : TaskRun} {m : TaskRunManifest}
    {claim : PartitionClaim} {dependencies : Except Fault Unit} {now : Instant}
    {db' : MaterializationDb} : call = .complete claim dependencies now →
    .partition p.id ∈ locks → .run run.id ∈ locks → CompletesPartition p run m claim now db db' →
    Effect call locks db db'

section Effects

variable {call : MaterializationEvent} {locks others : List MaterializationLock}
  {db db' : MaterializationDb}

theorem Effect.inv (hi : MaterializationInv db) (h : Effect call locks db db') :
    MaterializationInv db' := by
  cases h with
  | same => exact hi
  | leased f n hf _ hn => exact hi.leased ⟨f, n, hf, hn, rfl⟩
  | created _ h => exact hi.create ⟨_, _, _, h⟩
  | completed _ _ _ h => exact hi.complete ⟨_, _, _, h⟩

theorem created_keeps {run : TaskRun} {m : TaskRunManifest} {trigger : RunTrigger}
    (hlock : .run run.id ∉ others) (h : CreatesRun run m trigger db db') :
    KeepsRows others db db' := by
  obtain ⟨rfl, -, -, hscope, -⟩ := h
  have hother : ∀ r, .run r ∈ others → run.id ≠ r := fun r hr heq => hlock (heq ▸ hr)
  have hself : m.taskRunId = run.id := congrArg RunScope.taskRunId hscope
  refine ⟨fun p hp _ => List.mem_append_left _ hp, fun r m' hm' => ?_, fun r hr => ⟨?_, ?_⟩,
    fun r hr => ?_, fun r hr => rfl⟩
  · unfold MaterializationDb.getManifest at hm' ⊢
    rw [createdDb, List.find?_append, hm']
    rfl
  · unfold MaterializationDb.getRun
    rw [createdDb, List.find?_append, List.find?_cons_of_neg (by simpa using hother r hr)]
    simp
  · unfold MaterializationDb.getManifest
    rw [createdDb, List.find?_append,
      List.find?_cons_of_neg (by simpa [hself] using hother r hr)]
    simp
  · rw [placesOf, createdDb_partitionsOf, if_neg (hother r hr), List.append_nil, placesOf]

theorem completed_keeps {p : MaterializationPartition} {run : TaskRun} {m : TaskRunManifest}
    {claim : PartitionClaim} {now : Instant} (hi : MaterializationInv db)
    (hpartition : .partition p.id ∉ others) (hrun : .run run.id ∉ others)
    (h : CompletesPartition p run m claim now db db') : KeepsRows others db db' := by
  obtain ⟨hp, -, hfound, -, -, -, -, hend⟩ := h
  have howner : p.taskRunId = run.id := (getRun_id hfound).symm
  have hother : ∀ r, .run r ∈ others → run.id ≠ r := fun r hr heq => hrun (heq ▸ hr)
  have hinserted : KeepsRows others db (insertedDb db p run m now) := by
    refine ⟨fun q hq hlock => ?_, fun _ _ hm => hm, fun _ _ => ⟨rfl, rfl⟩, fun r hr => ?_,
      fun r hr => ?_⟩
    · refine Table.mem_modify.2 ⟨q, hq, (if_neg fun hid => hpartition ?_).symm⟩
      exact hid ▸ hlock
    · rw [placesOf, insertedDb_partitionsOf_other m now hi hp howner (hother r hr), placesOf]
    · rw [insertedDb_unitsOf, if_neg (hother r hr), List.append_nil]
  rcases hend with ⟨-, rfl⟩ | ⟨-, intent, -, rfl⟩
  · exact hinserted
  · refine hinserted.trans ⟨fun _ hq _ => hq, fun _ _ hm => hm, fun r hr => ⟨?_, rfl⟩,
      fun _ _ => rfl, fun _ _ => rfl⟩
    exact Table.find?_modify_other (fun _ _ => rfl) (hother r hr)

theorem Effect.keeps (hi : MaterializationInv db) (h : Effect call locks db db')
    (hothers : ∀ row ∈ others, row ∉ locks) : KeepsRows others db db' := by
  cases h with
  | same => exact .refl others db
  | leased f n hf hmoved _ =>
    refine ⟨fun p hp hlock => ?_, fun _ _ hm => hm, fun _ _ => ⟨rfl, rfl⟩, fun r _ => ?_,
      fun _ _ => rfl⟩
    · exact List.mem_map.2 ⟨p, hp, hmoved p hp (hothers _ hlock)⟩
    · refine partitionsOf_map (fun p hp => ?_) r
      obtain ⟨hid, hrun, hcheckpoint⟩ := hf p hp
      exact ⟨hrun, Prod.ext hid hcheckpoint⟩
  | created hlock h => exact created_keeps (fun hmem => hothers _ hmem hlock) h
  | completed _ hpartition hrun h =>
    exact completed_keeps hi (fun hmem => hothers _ hmem hpartition)
      (fun hmem => hothers _ hmem hrun) h

/-- New versions of locked rows. -/
theorem putPartitions_effect {rows : List MaterializationPartition} {n : Uuid}
    (hi : MaterializationInv db) (hn : db.nextId ≤ n)
    (hrows : ∀ row ∈ rows, ∃ p ∈ db.partitions, KeepsCheckpoint p row ∧ .partition p.id ∈ locks) :
    Effect call locks db { db.putPartitions rows with nextId := n } := by
  have hrow : ∀ p ∈ db.partitions, ∀ row, rows.find? (fun row => row.id = p.id) = some row →
      KeepsCheckpoint p row ∧ .partition p.id ∈ locks := by
    intro p hp row hfound
    obtain ⟨q, hq, hkeeps, hlock⟩ := hrows row (List.mem_of_find?_eq_some hfound)
    have hid : row.id = p.id := by simpa using List.find?_some hfound
    obtain rfl := Table.eq_of_key hi.partitionIds hq hp (hkeeps.1.symm.trans hid)
    exact ⟨hkeeps, hlock⟩
  refine .leased (fun p => (rows.find? fun row => row.id = p.id).getD p) n (fun p hp => ?_)
    (fun p hp hfree => ?_) hn
  all_goals
    cases hfound : rows.find? fun row => row.id = p.id with
    | none => first | exact ⟨rfl, rfl, rfl⟩ | rfl
    | some row =>
      have h := hrow p hp row hfound
      first | exact h.1 | exact absurd h.2 hfree

end Effects

/-! ### Creation and leases -/

section Calls

variable {call : MaterializationEvent} {db : MaterializationDb}

/-- The transaction of a call commits its effect. -/
abbrev SafeCall {α : Type} (call : MaterializationEvent) (body : MaterializationBody α)
    (db : MaterializationDb) : Prop :=
  rowLocks.Safe (fun _ locks changes db => Effect call locks db (view changes db)) body [] [] db

theorem create_safe (run : TaskRun) (m : TaskRunManifest) (trigger : RunTrigger)
    (provenance : Except Fault Unit) :
    SafeCall call (createStatements run m trigger provenance) db := by
  unfold createStatements
  refine Discipline.safe_raiseIf fun hcount => Discipline.safe_raiseIf fun hscope =>
    Discipline.safe_raiseIf fun hstate => Discipline.safe_raiseIf fun _ =>
    Discipline.safe_raiseIf fun _ => ?_
  cases provenance with
  | error => trivial
  | ok _ =>
    refine Discipline.safe_selectForUpdate.2 fun db₁ h₁ => ?_
    split
    · exact fun _ _ => .same
    · refine Discipline.safe_selectForUpdate.2 fun db₂ h₂ =>
        Discipline.safe_raiseIf fun htaken => ?_
      intro db₃ h₃
      have hcount := not_not.1 hcount
      simp only [view_nil, Bool.or_eq_true, not_or, Bool.not_eq_true, Option.isSome_eq_false_iff,
        Option.isNone_iff_eq_none] at htaken
      obtain ⟨hrun, hmanifest⟩ := h₃.1.run run.id List.mem_cons_self
      exact .created List.mem_cons_self ⟨rfl, hcount.1, hcount.2, not_not.1 hscope,
        not_not.1 hstate, hrun.trans htaken.1, hmanifest.trans htaken.2⟩

theorem claim_safe (claimedBy : String) (limit leaseSeconds : ℕ) (now : Instant) :
    SafeCall call (claimStatements claimedBy limit leaseSeconds now) db := by
  unfold claimStatements
  refine Discipline.safe_raiseIf fun _ => Discipline.safe_selectSkipLocked.2 fun db₁ free h₁ _ => ?_
  intro db₂ h₂ db₃ h₃
  have hlater := h₂.trans h₃
  refine putPartitions_effect hlater.2 (Nat.le_add_right _ _) fun row hrow => ?_
  obtain ⟨p, hp, rfl⟩ := List.mem_map.1 hrow
  obtain ⟨hdue, hlock⟩ := List.mem_filter.1 hp
  obtain ⟨hmem, hclaimable⟩ := List.mem_filter.1 ((List.mem_insertionSort _).1 hdue)
  have hlock := List.mem_append_left [] (of_decide_eq_true hlock)
  rw [claimRow, if_pos (List.mem_map_of_mem hp)]
  exact ⟨p, hlater.1.partition p hmem hlock, claim_keepsCheckpoint hclaimable, hlock⟩

/-- A lease that ends. -/
theorem release_safe {claim : PartitionClaim} {now : Instant}
    {f : MaterializationPartition → MaterializationPartition}
    (hf : ∀ p : MaterializationPartition, p.status = .claimed → KeepsCheckpoint p (f p)) :
    SafeCall call (releaseStatements claim now f) db := by
  unfold releaseStatements
  refine Discipline.safe_selectForUpdate.2 fun db₁ h₁ => ?_
  cases hfound : (view [] db₁).partitions.find? fun p => p.heldBy claim now with
  | none => exact fun _ _ => .same
  | some p =>
    intro db₂ h₂
    have hheld : p.heldBy claim now = true := by simpa using List.find?_some hfound
    simp only [MaterializationPartition.heldBy, decide_eq_true_eq] at hheld
    have hlock : .partition p.id ∈ [MaterializationLock.partition claim.partitionId] :=
      List.mem_singleton.2 (congrArg _ hheld.1)
    have hp := h₂.1.partition p (List.mem_of_find?_eq_some hfound) hlock
    refine putPartitions_effect (n := db₂.nextId) h₂.2 (Nat.le_refl _) fun row hrow => ?_
    rw [List.mem_singleton.1 hrow]
    exact ⟨p, hp, hf p hheld.2.1, hlock⟩

end Calls

/-! ### Completion -/

section Complete

variable {p : MaterializationPartition} {run : TaskRun} {m : TaskRunManifest} {now : Instant}
  {locks : List MaterializationLock} {db db' : MaterializationDb}

/-- What a completion has read under its two locks. -/
structure Eligible (p : MaterializationPartition) (run : TaskRun) (m : TaskRunManifest)
    (db : MaterializationDb) : Prop where
  partition : p ∈ db.partitions
  foundRun : db.getRun p.taskRunId = some run
  foundManifest : db.getManifest p.taskRunId = some m
  vacant : ∀ u ∈ db.unitsOf run.id, ¬ p.covers u.ordinal

theorem Eligible.owner (h : Eligible p run m db) : p.taskRunId = run.id :=
  (getRun_id h.foundRun).symm

theorem Eligible.later (h : Eligible p run m db) (hlater : rowLocks.Later locks db db')
    (hpartition : .partition p.id ∈ locks) (hrun : .run run.id ∈ locks) : Eligible p run m db' where
  partition := hlater.1.partition p h.partition hpartition
  foundRun := by
    rw [h.owner, (hlater.1.run run.id hrun).1, ← h.owner]
    exact h.foundRun
  foundManifest := hlater.1.manifest _ _ h.foundManifest
  vacant := by
    rw [hlater.1.units run.id hrun]
    exact h.vacant

/-- The rows of the partition and its own row are the inserted tables. -/
theorem put_complete (hi : MaterializationInv db) (hp : p ∈ db.partitions) :
    (insertCells p run m now db).putPartitions [p.complete now] = insertedDb db p run m now := by
  have hids : ((insertCells p run m now db).partitions.map MaterializationPartition.id).Nodup :=
    hi.partitionIds
  have hrow : [p.complete now] = [p].map fun q => if q.id = p.id then q.complete now else q := by
    rw [List.map_singleton, if_pos rfl]
  rw [hrow, putPartitions_map hids (fun q => by split <;> rfl)
    (fun q hq => List.mem_singleton.1 hq ▸ hp) fun q hq hne => if_neg fun hid =>
      hne (List.mem_singleton.2 (Table.eq_of_key hi.partitionIds hq hp hid))]
  rfl

/-- Whether a partition of the Run remains is told by what no lease moves. -/
theorem remaining_iff (r : Uuid) :
    (∃ q ∈ (insertedDb db p run m now).partitionsOf r, q.status ≠ .completed) ↔
      ∃ x ∈ placesOf db r, x.1 ≠ p.id ∧ x.2.done = false := by
  rw [insertedDb_partitionsOf]
  constructor
  · rintro ⟨q', hq', hopen⟩
    obtain ⟨q, hq, rfl⟩ := Table.mem_modify.1 hq'
    by_cases hid : q.id = p.id
    · rw [if_pos hid] at hopen
      exact absurd rfl hopen
    · rw [if_neg hid] at hopen
      exact ⟨place q, List.mem_map_of_mem hq, hid, decide_eq_false hopen⟩
  · rintro ⟨x, hx, hid, hopen⟩
    obtain ⟨q, hq, rfl⟩ := List.mem_map.1 hx
    refine ⟨q, Table.mem_modify.2 ⟨q, hq, (if_neg hid).symm⟩, of_decide_eq_false hopen⟩

/-- The seal of the Run whose rows are locked. -/
theorem seal_safe {changes : List (MaterializationDb → MaterializationDb)}
    {post : TaskRun → List MaterializationLock → List (MaterializationDb → MaterializationDb) →
      MaterializationDb → Prop} {dependencies : Except Fault Unit} {revision : ℕ}
    (hchanges : changes = [insertCells p run m now, fun db => db.putPartitions [p.complete now]])
    (h : Eligible p run m db) (hpartition : .partition p.id ∈ locks) (hrun : .run run.id ∈ locks)
    (hpost : ∀ answer intent db', intent.taskRunId = run.id →
      rowLocks.Later locks db db' →
      post answer (.run run.id :: locks)
        (changes ++ [fun db => db.putRun (materializedRun run m.units.length m.units.length now)] ++
          [fun db => { db with startIntents := db.startIntents ++ [intent] }]) db') :
    rowLocks.Safe post (sealStatements run.id revision dependencies now) locks changes db := by
  unfold sealStatements
  refine Discipline.safe_selectForUpdate.2 fun db₁ h₁ => Discipline.safe_demand fun run' hrun' =>
    Discipline.safe_raiseIf fun _ => Discipline.safe_raiseIf fun _ =>
    Discipline.safe_select.2 fun db₂ h₂ => Discipline.safe_demand fun m' hm' =>
    Discipline.safe_raiseIf fun _ => Discipline.safe_select.2 fun db₃ h₃ =>
    Discipline.safe_raiseIf fun _ => Discipline.safe_select.2 fun db₄ h₄ =>
    Discipline.safe_select.2 fun db₅ h₅ => Discipline.safe_raiseIf fun hcounts => ?_
  rw [not_or, not_or, not_not, not_not, not_not] at hcounts
  obtain ⟨hunits, -, hfirst⟩ := hcounts
  have he₁ := h.later h₁ hpartition hrun
  have he₂ := he₁.later h₂ (List.mem_cons_of_mem _ hpartition) (List.mem_cons_of_mem _ hrun)
  have hrun₁ : run' = run := by
    have hsame : db₁.getRun run.id = some run' := by rwa [hchanges] at hrun'
    rw [← h.owner, he₁.foundRun] at hsame
    exact (Option.some.inj hsame).symm
  have hm₁ : m' = m := by
    have hsame : db₂.getManifest run.id = some m' := by rwa [hchanges] at hm'
    rw [← h.owner, he₂.foundManifest] at hsame
    exact (Option.some.inj hsame).symm
  subst hrun₁ hm₁
  cases dependencies with
  | error => trivial
  | ok _ =>
    refine Discipline.safe_change.2 (Discipline.safe_select.2 fun db₆ h₆ =>
      Discipline.safe_raiseIf fun _ => Discipline.safe_change.2 fun db₇ h₇ => ?_)
    have hlater := ((((h₂.trans h₃).trans h₄).trans h₅).trans h₆).trans h₇
    rw [hunits, hfirst]
    exact hpost _ _ db₇ rfl (h₁.trans ⟨hlater.1.of_cons, hlater.2⟩)

theorem complete_safe (claim : PartitionClaim) (dependencies : Except Fault Unit) (now : Instant)
    (db : MaterializationDb) :
    SafeCall (.complete claim dependencies now) (completeStatements claim dependencies now) db := by
  unfold completeStatements
  refine Discipline.safe_selectForUpdate.2 fun db₁ h₁ => ?_
  cases hfound : (view [] db₁).partitions.find? fun p => p.heldBy claim now with
  | none => exact fun _ _ => .same
  | some p =>
    have hheld : p.heldBy claim now = true := by simpa using List.find?_some hfound
    have hid := heldBy_id hheld
    refine Discipline.safe_selectForUpdate.2 fun db₂ h₂ => Discipline.safe_demand fun run hrun =>
      Discipline.safe_select.2 fun db₃ h₃ => Discipline.safe_demand fun m hm =>
      Discipline.safe_select.2 fun db₄ h₄ => Discipline.safe_raiseIf fun hfacts => ?_
    rw [← hid] at h₂ h₃ h₄
    rw [not_or, not_or, not_or, not_not, not_not] at hfacts
    obtain ⟨hstate, -, hlast, hpresent⟩ := hfacts
    have howner : p.taskRunId = run.id := (getRun_id hrun).symm
    rw [howner] at h₃ h₄
    have hpartition : .partition p.id ∈ [MaterializationLock.run run.id, .partition p.id] := by simp
    have hlock : .run run.id ∈ [MaterializationLock.run run.id, .partition p.id] := by simp
    have he : Eligible p run m db₄ := by
      have hp := h₂.1.partition p (List.mem_of_find?_eq_some hfound) (List.mem_singleton_self _)
      have hsame := (h₃.trans h₄).1.run run.id hlock
      refine ⟨(h₃.trans h₄).1.partition p hp hpartition, ?_, h₄.1.manifest _ _ hm, ?_⟩
      · rw [howner, hsame.1, ← howner]
        exact hrun
      · simpa using hpresent
    refine Discipline.safe_change.2 (Discipline.safe_select.2 fun db₅ h₅ =>
      Discipline.safe_raiseIf fun _ => Discipline.safe_change.2 (Discipline.safe_select.2
      fun db₆ h₆ => ?_))
    rw [← hid, howner] at h₅ h₆ ⊢
    replace he := (he.later h₅ hpartition hlock).later h₆ hpartition hlock
    have hview : view ([] ++ [insertCells p run m now] ++ [fun db =>
        db.putPartitions [p.complete now]]) db₆ = insertedDb db₆ p run m now :=
      put_complete h₆.2 he.partition
    rw [hview]
    split
    · rename_i hremaining
      intro db₇ h₇
      have he₇ := he.later h₇ hpartition hlock
      refine .completed rfl hpartition hlock ⟨he₇.partition, hheld, he₇.foundRun,
        he₇.foundManifest, hstate, hlast, he₇.vacant, Or.inl ⟨?_, put_complete h₇.2 he₇.partition⟩⟩
      rw [remaining_iff, h₇.1.places run.id hlock, ← remaining_iff]
      simpa using hremaining
    · rename_i hremaining
      refine Discipline.Safe.bind h₆.2 (seal_safe rfl he hpartition hlock
        fun answer intent db₇ hintent h₇ db₈ h₈ => ?_)
      have hlater := h₇.trans ⟨h₈.1.of_cons, h₈.2⟩
      have he₈ := he.later hlater hpartition hlock
      refine .completed rfl (List.mem_cons_of_mem _ hpartition) List.mem_cons_self ⟨he₈.partition,
        hheld, he₈.foundRun, he₈.foundManifest, hstate, hlast, he₈.vacant,
        Or.inr ⟨?_, intent, hintent, ?_⟩⟩
      · have hnone : ¬ ∃ q ∈ (insertedDb db₈ p run m now).partitionsOf run.id,
            q.status ≠ .completed := by
          rw [remaining_iff, hlater.1.places run.id hlock, ← remaining_iff]
          simpa using hremaining
        intro q hq
        by_contra hopen
        exact hnone ⟨q, hq, hopen⟩
      · rw [view_append, view_append]
        change sealedDb ((insertCells p run m now db₈).putPartitions [p.complete now]) run
          m.units.length intent now = _
        rw [put_complete h₈.2 he₈.partition]

end Complete

/-! ### Each call alone -/

section Alone

variable {db : MaterializationDb}

theorem create_alone (run : TaskRun) (m : TaskRunManifest) (trigger : RunTrigger)
    (provenance : Except Fault Unit) :
    (createStatements run m trigger provenance).alone db =
      createPartitionedRun run m trigger provenance db := by
  refine alone_raiseIf fun _ => ?_
  refine alone_raiseIf fun _ => ?_
  refine alone_raiseIf fun _ => ?_
  refine alone_raiseIf fun _ => ?_
  refine alone_raiseIf fun _ => ?_
  cases provenance with
  | error => rfl
  | ok _ =>
    refine alone_selectForUpdate ?_
    refine alone_ite (fun _ => rfl) fun _ => ?_
    refine alone_selectForUpdate ?_
    exact alone_raiseIf fun _ => rfl

theorem seal_alone (r : Uuid) (revision : ℕ) (dependencies : Except Fault Unit) (now : Instant) :
    (sealStatements r revision dependencies now).alone db =
      sealTaskRunMaterialization r revision dependencies now db := by
  refine alone_selectForUpdate ?_
  refine alone_demand fun run hrun => ?_
  refine alone_raiseIf fun _ => ?_
  refine alone_raiseIf fun _ => ?_
  refine alone_select ?_
  refine alone_demand fun m _ => ?_
  refine alone_raiseIf fun _ => ?_
  refine alone_select ?_
  refine alone_raiseIf fun _ => ?_
  refine alone_select ?_
  refine alone_select ?_
  refine alone_raiseIf fun _ => ?_
  cases dependencies with
  | error => rfl
  | ok _ =>
    obtain rfl := getRun_id hrun
    refine alone_change_left ?_
    refine alone_select ?_
    refine alone_raiseIf fun _ => ?_
    rfl

theorem complete_alone (hi : MaterializationInv db) (claim : PartitionClaim)
    (dependencies : Except Fault Unit) (now : Instant) :
    (completeStatements claim dependencies now).alone db =
      completePartition claim dependencies now db := by
  refine alone_selectForUpdate ?_
  cases hfound : db.partitions.find? fun p => p.heldBy claim now with
  | none => rfl
  | some p =>
    refine alone_selectForUpdate ?_
    refine alone_demand fun run _ => ?_
    refine alone_select ?_
    refine alone_demand fun m _ => ?_
    refine alone_select ?_
    refine alone_raiseIf fun _ => ?_
    simp only [insertPartition, bind_assoc]
    refine alone_change ?_
    refine alone_select ?_
    refine alone_raiseIf fun _ => ?_
    refine alone_change ?_
    rw [put_complete hi (List.mem_of_find?_eq_some hfound)]
    refine alone_select ?_
    exact alone_ite (fun _ => rfl) fun _ => alone_bind (seal_alone _ _ _ _) fun _ _ => rfl

theorem release_alone (hi : MaterializationInv db) {claim : PartitionClaim} {now : Instant}
    {f : MaterializationPartition → MaterializationPartition} (hf : ∀ p, (f p).id = p.id) :
    (releaseStatements claim now f).alone db = releasePartition claim now f db := by
  refine alone_selectForUpdate ?_
  cases hfound : db.partitions.find? fun p => p.heldBy claim now with
  | none =>
    have hnone := List.find?_eq_none.1 hfound
    have hmap : db.partitions.map (releaseRow claim now f) = db.partitions :=
      (List.map_congr_left fun p hp => if_neg (hnone p hp)).trans (List.map_id _)
    rw [List.any_eq_false.2 hnone]
    change Except.ok (false, db) = Except.ok (false, { db with partitions := _ })
    rw [hmap]
  | some p =>
    have hp := List.mem_of_find?_eq_some hfound
    have hheld : p.heldBy claim now = true := by simpa using List.find?_some hfound
    have hrow : [f p] = [p].map (releaseRow claim now f) := by
      rw [List.map_singleton, releaseRow, if_pos hheld]
    have hput := putPartitions_map hi.partitionIds (f := releaseRow claim now f)
      (fun q => by unfold releaseRow; split <;> simp [hf])
      (fun q hq => List.mem_singleton.1 hq ▸ hp) fun q hq hne => if_neg fun hheld' => hne
        (List.mem_singleton.2 (Table.eq_of_key hi.partitionIds hq hp
          ((heldBy_id hheld').trans (heldBy_id hheld).symm)))
    rw [List.any_eq_true.2 ⟨p, hp, hheld⟩]
    change Except.ok (true, db.putPartitions [f p]) = Except.ok (true, { db with partitions := _ })
    rw [hrow, hput]

/-- What a claim of these rows commits. -/
def claimOutcome (rows : List MaterializationPartition) (claimedBy : String) (leaseSeconds : ℕ)
    (now : Instant) (db : MaterializationDb) :
    Except Fault (List MaterializationPartition × MaterializationDb) :=
  let ids := rows.map MaterializationPartition.id
  let db' := { db.putPartitions (rows.map (claimRow ids db.nextId claimedBy leaseSeconds now)) with
    nextId := db.nextId + ids.length }
  .ok (db'.partitions.filter fun p => p.id ∈ ids, db')

theorem claim_alone (hi : MaterializationInv db) (claimedBy : String) (limit leaseSeconds : ℕ)
    (now : Instant) :
    (claimStatements claimedBy limit leaseSeconds now).alone db =
      claimPartitions claimedBy limit leaseSeconds now db := by
  refine alone_raiseIf fun _ => ?_
  have hlocks : ((dueRows now db).map fun p => MaterializationLock.partition p.id).Nodup := by
    have hids : ((dueRows now db).map MaterializationPartition.id).Nodup :=
      (((List.perm_insertionSort _ _).map _).nodup_iff).2
        (hi.partitionIds.sublist (List.filter_sublist.map _))
    have hinj : Function.Injective MaterializationLock.partition :=
      fun _ _ heq => MaterializationLock.partition.inj heq
    have := hids.map hinj
    rwa [List.map_map] at this
  have hcandidates := Table.filter_mem_take hlocks limit
  have hmem : ∀ p ∈ (dueRows now db).take limit, p ∈ db.partitions := fun p hp =>
    List.mem_of_mem_filter ((List.mem_insertionSort _).1 (List.mem_of_mem_take hp))
  have hput := putPartitions_map hi.partitionIds (claimRow_id (((dueRows now db).take limit).map
    MaterializationPartition.id) db.nextId claimedBy leaseSeconds now) hmem fun p hp hnot =>
      if_neg fun hid => hnot ?_
  · change claimOutcome ((dueRows now db).filter fun p => MaterializationLock.partition p.id ∈
      ((dueRows now db).map fun p => MaterializationLock.partition p.id).take limit) claimedBy
        leaseSeconds now db = _
    rw [hcandidates]
    dsimp only [claimOutcome]
    rw [hput]
    rfl
  · obtain ⟨q, hq, heq⟩ := List.mem_map.1 hid
    rwa [← Table.eq_of_key hi.partitionIds (hmem q hq) hp heq]

/-- Alone, the statements of a call do what its transaction does. -/
theorem statements_alone (hi : MaterializationInv db) (call : MaterializationEvent) :
    call.statements.alone db = call.transaction db := by
  cases call with
  | create run m trigger provenance => exact alone_discard (create_alone run m trigger provenance)
  | claim claimedBy limit leaseSeconds now =>
    exact alone_discard (claim_alone hi claimedBy limit leaseSeconds now)
  | complete claim dependencies now =>
    exact alone_discard (complete_alone hi claim dependencies now)
  | retry claim errorCode retryDelayMs now =>
    exact alone_discard (alone_raiseIf fun _ => release_alone hi fun _ => rfl)
  | fail claim errorCode now =>
    exact alone_discard (alone_raiseIf fun _ => release_alone hi fun _ => rfl)

end Alone

/-! ### Every interleaving -/

theorem statements_respect : rowLocks.Respects MaterializationEvent.statements Effect where
  safe call db _ := by
    cases call with
    | create run m trigger provenance => exact (create_safe run m trigger provenance).discard
    | claim claimedBy limit leaseSeconds now =>
      exact (claim_safe claimedBy limit leaseSeconds now).discard
    | complete claim dependencies now =>
      exact (complete_safe claim dependencies now db).discard
    | retry claim errorCode retryDelayMs now =>
      refine Discipline.Safe.discard (Discipline.safe_raiseIf fun _ => ?_)
      exact release_safe fun _ hp => retry_keepsCheckpoint hp
    | fail claim errorCode now =>
      refine Discipline.Safe.discard (Discipline.safe_raiseIf fun _ => ?_)
      exact release_safe fun _ hp => fail_keepsCheckpoint hp
  inv hi h := h.inv hi
  keeps hi h hothers := h.keeps hi hothers

/-- What a committed call may have added. -/
structure ExactChange (call : MaterializationEvent) (db db' : MaterializationDb) : Prop where
  /-- A Unit is added by the completion of its partition under the claim that holds it. -/
  units : ∀ u ∈ db'.units, u ∉ db.units → ∃ claim dependencies now p,
    call = .complete claim dependencies now ∧ p ∈ db.partitions ∧ p.heldBy claim now ∧
      p.taskRunId = u.taskRunId ∧ p.covers u.ordinal
  /-- A Run is sealed once, by the completion of the last of its partitions. -/
  sealed : ∀ run' ∈ db'.runs, run'.materializationState = .sealed →
    run' ∈ db.runs ∨ ∃ claim dependencies now p, call = .complete claim dependencies now ∧
      p ∈ db.partitionsOf run'.id ∧ p.heldBy claim now ∧
      ∀ q ∈ db.partitionsOf run'.id, q ≠ p → q.status = .completed
  kept : ∀ run ∈ db.runs, run.materializationState = .sealed → run ∈ db'.runs

section Exact

variable {call : MaterializationEvent} {locks : List MaterializationLock}
  {db db' : MaterializationDb}

/-- A call that inserts no Units, and no sealed Run. -/
theorem exactChange_of_same (added : List TaskRun) (hunits : db'.units = db.units)
    (hruns : db'.runs = db.runs ++ added)
    (hadded : ∀ run ∈ added, run.materializationState ≠ .sealed) : ExactChange call db db' := by
  refine ⟨fun u hu hnew => absurd (hunits ▸ hu) hnew, fun run hrun hsealed => ?_,
    fun run hrun _ => hruns ▸ List.mem_append_left _ hrun⟩
  rw [hruns] at hrun
  rcases List.mem_append.1 hrun with hold | hnew
  · exact Or.inl hold
  · exact absurd hsealed (hadded run hnew)

theorem Effect.exactChange (hi : MaterializationInv db) (h : Effect call locks db db') :
    ExactChange call db db' := by
  cases h with
  | same => exact exactChange_of_same [] rfl (List.append_nil _).symm (by simp)
  | leased => exact exactChange_of_same [] rfl (List.append_nil _).symm (by simp)
  | created _ h =>
    obtain ⟨rfl, -, -, -, hstate, -⟩ := h
    exact exactChange_of_same [_] rfl rfl (by simp [hstate])
  | @completed p run m claim dependencies now _ hcall _ _ h =>
    obtain ⟨hp, hheld, hfound, -, hstate, -, -, hend⟩ := h
    have hrunId := getRun_id hfound
    have hrunMem : run ∈ db.runs := List.mem_of_find?_eq_some hfound
    have hmem : p ∈ db.partitionsOf run.id := List.mem_filter.2 ⟨hp, by simpa using hrunId.symm⟩
    have hunits : db'.units = (insertedDb db p run m now).units := by
      rcases hend with ⟨-, hdb⟩ | ⟨-, intent, -, hdb⟩
      · rw [hdb]
      · rw [hdb, sealedDb]
    refine ⟨fun u hu hnew => ?_, fun run' hrun' hsealed => ?_, fun run' hrun' hsealed => ?_⟩
    · rw [hunits] at hu
      rcases List.mem_append.1 hu with hold | hrow
      · exact absurd hold hnew
      · obtain ⟨hrun, hlow, hlt, -⟩ := mem_newUnits hrow
        obtain ⟨m', -, hcover, -⟩ := hi.runs run hrunMem
        have hplace := hcover.place (List.mem_map_of_mem hmem)
        have hle : p.firstOrdinal ≤ p.lastOrdinal := hplace.2.2.2.2.1
        refine ⟨_, _, _, _, hcall, hp, hheld, hrunId.symm.trans hrun.symm, ?_⟩
        simp only [MaterializationPartition.covers, decide_eq_true_eq]
        omega
    · rcases hend with ⟨-, hdb⟩ | ⟨hall, intent, -, hdb⟩
      · rw [hdb] at hrun'
        exact Or.inl hrun'
      · rw [hdb] at hrun'
        obtain ⟨old, hold, rfl⟩ := Table.mem_modify.1 hrun'
        by_cases heq : old.id = run.id
        · rw [if_pos heq]
          refine Or.inr ⟨_, _, _, _, hcall, hmem, hheld, fun q hq hne => ?_⟩
          have hid : q.id ≠ p.id := fun hid =>
            hne (Table.eq_of_key hi.partitionIds (List.mem_of_mem_filter hq) hp hid)
          apply hall
          rw [insertedDb_partitionsOf]
          exact Table.mem_modify.2 ⟨q, hq, by rw [if_neg hid]⟩
        · rw [if_neg heq]
          exact Or.inl hold
    · have hne : run'.id ≠ run.id := fun heq => by
        obtain rfl := Table.eq_of_key hi.runIds hrun' hrunMem heq
        rw [hstate] at hsealed
        cases hsealed
      rcases hend with ⟨-, hdb⟩ | ⟨-, intent, -, hdb⟩
      · rw [hdb]
        exact hrun'
      · rw [hdb]
        exact Table.mem_modify.2 ⟨run', hrun', by rw [if_neg hne]⟩

end Exact

/-- Only a commit changes the committed tables, and by what its call may change. -/
def ExactStep (sys : MaterializationSystem) (e : Event MaterializationEvent) : Prop :=
  (sys.apply e).db = sys.db ∨ ∃ n s, e = .commit n ∧ sys.sessions n = some s ∧
    ExactChange s.call sys.db (sys.apply e).db

theorem partitioned_materialization_exact {sys : MaterializationSystem}
    (h : MaterializationReached sys) :
    (∀ run ∈ sys.db.runs, ∃ m, ExactRun sys.db run m) ∧ ∀ e, ExactStep sys e := by
  have hholds := Reached.holds statements_respect (materializationInv .empty) h
  refine ⟨fun _ hrun => MaterializationInv.exactRun hholds.inv hrun, fun e => ?_⟩
  rcases System.apply_db MaterializationEvent.statements sys e with
    hsame | ⟨n, s, answer, he, hs, hdone, hdb⟩
  · exact Or.inl hsame
  · have heffect := (hholds.commit hs hdone).exactChange hholds.inv
    rw [← hdb] at heffect
    exact Or.inr ⟨n, s, he, hs, heffect⟩

/-! ### A Run of 65 Units -/

/-- Two dispatchers complete the two partitions at once: the second waits for the Run's lock until
the first has committed. -/
def completeAtOnce : List (Event MaterializationEvent) :=
  List.flatten [[.start (.create largeRun largeManifest ⟨1, "MANUAL", "large"⟩ (.ok ()))],
    List.replicate 5 (.statement 0), [.commit 0, .start (.claim "m1" 10 60 10)],
    List.replicate 3 (.statement 1), [.commit 1,
      .start (.complete ⟨0, 2, 2, "m1"⟩ (.ok ()) 11),
      .start (.complete ⟨1, 3, 2, "m1"⟩ (.ok ()) 12),
      .statement 2, .statement 3, .statement 3, .statement 2],
    List.replicate 6 (.statement 3), [.statement 2, .commit 3],
    List.replicate 15 (.statement 2), [.commit 2]]

def sealedAtOnce : MaterializationSystem :=
  completeAtOnce.foldl MaterializationSystem.apply (.initial .empty)

theorem reached_foldl {sys : MaterializationSystem} (h : MaterializationReached sys)
    (events : List (Event MaterializationEvent)) :
    MaterializationReached (events.foldl MaterializationSystem.apply sys) := by
  induction events generalizing sys with
  | nil => exact h
  | cons e events ih => exact ih (.step e h)

theorem large_run_materialized :
    (∀ run ∈ sealedAtOnce.db.runs, ∃ m, ExactRun sealedAtOnce.db run m) ∧
      sealedAtOnce.db.runs.map TaskRun.materializedUnitCount = [some 65] := by
  have hreached : MaterializationReached sealedAtOnce := by
    unfold sealedAtOnce
    exact reached_foldl Reached.initial completeAtOnce
  exact ⟨(partitioned_materialization_exact hreached).1, by decide +kernel⟩

end Atlas.Proofs.Materialization
