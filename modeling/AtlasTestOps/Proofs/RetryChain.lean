import AtlasTestOps.Proofs.RunHistory

/-! The Attempts of one Unit: they are numbered from one, each retry follows a closed
infrastructure error, and their number and that of all retries of the Run keep to the policy that
the Manifest froze. -/

namespace Atlas.Proofs

open Atlas Atlas.Task Atlas.Result Atlas.Store Atlas.Orchestration Atlas.Service Txn
open Relation (ReflTransGen)

variable {H : ResultHashes} {P : HygieneProjection} {unitRetryAttemptId : Uuid → ℕ → Uuid}
  {commandEvent : TaskRunCommandIntent → EventType × EventPayload} {deliveries : CommandDelivery → Prop}
  {db₀ db db' : Db}

/-- What a stored retry Attempt goes back to. -/
structure Retried (unitRetryAttemptId : Uuid → ℕ → Uuid) (db : Db) (a : UnitAttempt) : Prop where
  id : a.id = unitRetryAttemptId a.executionUnitId a.attemptNumber
  queued : a.queuedAt < a.executionDeadline
  previous : ∃ p ∈ db.attempts, p.executionUnitId = a.executionUnitId ∧
    p.attemptNumber + 1 = a.attemptNumber ∧ p.lifecycle = .closed ∧ p.quality = .infraError ∧
    a.executionDeadline = p.executionDeadline
  allowed : ∃ policy, db.manifest.retryPolicy = some policy ∧
    a.attemptNumber ≤ policy.infraRetryAttempts + 1

/-- The retries that the Manifest allows the whole Run. -/
def retryBudget (manifest : TaskRunManifest) : ℕ :=
  (manifest.retryPolicy.map fun p => p.maxTotalInfraRetries).getD 0

structure RetryChain (unitRetryAttemptId : Uuid → ℕ → Uuid) (db : Db) : Prop where
  numbers : ∀ unitId, Rows.Gapless (fun a => a.attemptNumber)
    (db.attempts.filter fun a => a.executionUnitId = unitId)
  retried : ∀ a ∈ db.attempts, 1 < a.attemptNumber → Retried unitRetryAttemptId db a
  budget : db.countRetryAttempts ≤ retryBudget db.manifest

theorem RetryChain.of_rows (h : RetryChain unitRetryAttemptId db)
    (hattempts : db'.attempts = db.attempts) (hmanifest : db'.manifest = db.manifest) :
    RetryChain unitRetryAttemptId db' := by
  refine ⟨by rw [hattempts]; exact h.numbers, fun a ha hretry => ?_, ?_⟩
  · obtain ⟨hid, hqueued, hprevious, hallowed⟩ := h.retried a (hattempts ▸ ha) hretry
    exact ⟨hid, hqueued, by rw [hattempts]; exact hprevious, by rw [hmanifest]; exact hallowed⟩
  · rw [Db.countRetryAttempts, hattempts, hmanifest]
    exact h.budget

/-- An Attempt that moves keeps its number, and a closed one its quality. -/
theorem RetryChain.setAttempt {a : UnitAttempt} {next : ExecutionState} (hk : Keyed db)
    (ha : a ∈ db.attempts) (hlater : Later a.toExecutionState next)
    (h : RetryChain unitRetryAttemptId db) :
    RetryChain unitRetryAttemptId { db with attempts := setAttempt a.id next db.attempts } := by
  refine ⟨fun unitId => ?_, fun b hb hretry => ?_, ?_⟩
  · have hfilter : (Proofs.setAttempt a.id next db.attempts).filter
        (fun b => decide (b.executionUnitId = unitId)) =
          Proofs.setAttempt a.id next (db.attempts.filter fun b => decide (b.executionUnitId = unitId)) :=
      Table.filter_modify fun _ => rfl
    have hnumbers : (Proofs.setAttempt a.id next
        (db.attempts.filter fun b => decide (b.executionUnitId = unitId))).map
          (fun b => b.attemptNumber) = _ := Table.map_modify fun _ => rfl
    rw [Rows.Gapless, show (List.filter _ _) = _ from hfilter, hnumbers, Proofs.setAttempt,
      Table.length_modify]
    exact h.numbers unitId
  · obtain ⟨c, hc, rfl⟩ := Table.mem_modify.1 hb
    have hcolumns : ∀ c : UnitAttempt, ∃ s,
        (if c.id = a.id then { c with toExecutionState := next } else c) =
          { c with toExecutionState := s } := by
      intro c
      split
      · exact ⟨next, rfl⟩
      · exact ⟨c.toExecutionState, rfl⟩
    obtain ⟨s, hs⟩ := hcolumns c
    rw [hs] at hretry ⊢
    obtain ⟨hid, hqueued, ⟨p, hp, hunit, hnumber, hclosed, hquality, hdeadline⟩, hallowed⟩ :=
      h.retried c hc hretry
    refine ⟨hid, hqueued, ⟨_, Table.mem_modify.2 ⟨p, hp, rfl⟩, ?_⟩, hallowed⟩
    by_cases hpa : p.id = a.id
    · obtain rfl := Table.eq_of_key hk.attempts hp ha hpa
      obtain ⟨hstill, hsame, -⟩ := hlater.frozen hclosed
      simp only [if_true]
      exact ⟨hunit, hnumber, hstill, hsame.trans hquality, hdeadline⟩
    · rw [if_neg hpa]
      exact ⟨hunit, hnumber, hclosed, hquality, hdeadline⟩
  · have hsame : SameNumbers db { db with attempts := Proofs.setAttempt a.id next db.attempts } :=
      Table.map_modify fun _ => rfl
    rw [hsame.count]
    exact h.budget

/-- One more retry of a Unit. -/
theorem RetryChain.retry {a : UnitAttempt} (hretry : Retry unitRetryAttemptId db a)
    (h : RetryChain unitRetryAttemptId db) :
    RetryChain unitRetryAttemptId { db with attempts := db.attempts ++ [a] } := by
  obtain ⟨policy, hpolicy, hnumber, hbudget⟩ := hretry.budget
  refine ⟨fun unitId => ?_, fun b hb hb1 => ?_, ?_⟩
  · rw [List.filter_append]
    by_cases hunit : a.executionUnitId = unitId
    · subst hunit
      rw [List.filter_singleton, decide_eq_true rfl, cond_true]
      refine Rows.gapless_append.2 ⟨h.numbers _, ?_⟩
      rw [(h.numbers _).length_eq]
      exact hretry.number
    · rw [List.filter_singleton, decide_eq_false hunit]
      simpa using h.numbers unitId
  · have hearlier : ∀ p ∈ db.attempts, p ∈ db.attempts ++ [a] := fun p hp => List.mem_append_left _ hp
    rcases List.mem_append.1 hb with hb | hb
    · obtain ⟨hid, hqueued, ⟨p, hp, hrest⟩, hallowed⟩ := h.retried b hb hb1
      exact ⟨hid, hqueued, ⟨p, hearlier p hp, hrest⟩, hallowed⟩
    · obtain rfl := List.mem_singleton.1 hb
      obtain ⟨p, hp, hrest⟩ := hretry.previous
      exact ⟨hretry.id, hretry.queued, ⟨p, hearlier p hp, hrest⟩, policy, hpolicy, hnumber⟩
  · have hcount : ({ db with attempts := db.attempts ++ [a] }).countRetryAttempts ≤
        db.countRetryAttempts + 1 := by
      rw [Db.countRetryAttempts, List.countP_append]
      exact Nat.add_le_add_left (List.countP_le_length.trans (by simp)) _
    refine hcount.trans ?_
    rw [retryBudget, hpolicy]
    exact hbudget

theorem Write.retryChain (hw : Write unitRetryAttemptId db db')
    (h : Keyed db ∧ RetryChain unitRetryAttemptId db) :
    Keyed db' ∧ RetryChain unitRetryAttemptId db' := by
  refine ⟨(hw.historyKept h.1).2, ?_⟩
  cases hw with
  | aside db' haside => exact h.2.of_rows haside.attempts haside.manifest
  | event | run | unit | sealed | notice => exact h.2.of_rows rfl rfl
  | attempt a next found hadvance =>
    exact h.2.setAttempt h.1 (List.mem_of_find?_eq_some found) hadvance.later
  | retry a hretry => exact h.2.retry hretry

theorem begun_retryChain (hbegun : Begun db₀) : RetryChain unitRetryAttemptId db₀ := by
  refine ⟨fun unitId => ?_, fun a ha hretry => ?_, ?_⟩
  · -- The Unit has one Attempt at most.
    have hnodup : ((db₀.attempts.filter fun a => a.executionUnitId = unitId).map
        fun a => a.executionUnitId).Nodup :=
      hbegun.first.sublist (List.filter_sublist.map _)
    have hrows : ∀ a ∈ db₀.attempts.filter fun a => a.executionUnitId = unitId,
        a.executionUnitId = unitId ∧ a.attemptNumber = 1 := by
      intro a ha
      obtain ⟨hmem, hunit⟩ := List.mem_filter.1 ha
      exact ⟨of_decide_eq_true hunit, (hbegun.attempts a hmem).1⟩
    cases hlist : db₀.attempts.filter fun a => a.executionUnitId = unitId with
    | nil => rfl
    | cons a rest =>
      rw [hlist] at hrows hnodup
      cases rest with
      | nil => simp [Rows.Gapless, (hrows a (by simp)).2]
      | cons b rest =>
        simp [(hrows a (by simp)).1, (hrows b (by simp)).1] at hnodup
  · rw [(hbegun.attempts a ha).1] at hretry
    exact absurd hretry (lt_irrefl 1)
  · have hzero : db₀.countRetryAttempts = 0 := by
      rw [Db.countRetryAttempts, List.countP_eq_zero]
      intro a ha
      simp [(hbegun.attempts a ha).1]
    rw [hzero]
    exact Nat.zero_le _

theorem Runs.retryChain (h : Runs H P unitRetryAttemptId commandEvent deliveries db₀ db)
    (hbegun : Begun db₀) : RetryChain unitRetryAttemptId db :=
  (run_keeps (fun _ _ hw hI => Write.retryChain hw hI) h.moves.writes
    ⟨hbegun.keyed, begun_retryChain hbegun⟩).2

/-- After any run the Attempts of each Unit are numbered from one, every retry follows a closed
infrastructure error with the same deadline, and the retries of each Unit and of the whole Run
keep to the frozen policy; a Run without a policy has none. -/
theorem retries_keep_policy (hbegun : Begun db₀)
    (h : Runs H P unitRetryAttemptId commandEvent deliveries db₀ db) : RetryChain unitRetryAttemptId db :=
  h.retryChain hbegun

open FreshRun in
theorem retried_run_keeps_policy : RetryChain ShortDeadline.retryId retried :=
  retries_keep_policy begun (runs_retried fun _ => True)

/-- Two Attempts of a Unit with one number are one Attempt. -/
theorem RetryChain.eq_of_number (h : RetryChain unitRetryAttemptId db) {a b : UnitAttempt}
    (ha : a ∈ db.attempts) (hb : b ∈ db.attempts) (hunit : a.executionUnitId = b.executionUnitId)
    (hnumber : a.attemptNumber = b.attemptNumber) : a = b := by
  have hnodup : ((db.attempts.filter fun c => c.executionUnitId = b.executionUnitId).map
      fun c => c.attemptNumber).Nodup := by
    rw [show _ = List.range' 1 _ from h.numbers b.executionUnitId]
    exact List.nodup_range'
  exact Table.eq_of_key hnodup (List.mem_filter.2 ⟨ha, by simp [hunit]⟩)
    (List.mem_filter.2 ⟨hb, by simp⟩) hnumber

theorem RetryChain.earlier_closed (h : RetryChain unitRetryAttemptId db) {a b : UnitAttempt} {n : ℕ}
    (hn : b.attemptNumber = n) (ha : a ∈ db.attempts) (hb : b ∈ db.attempts)
    (hunit : a.executionUnitId = b.executionUnitId) (hlt : a.attemptNumber < b.attemptNumber)
    (hpos : 1 ≤ a.attemptNumber) :
    a.lifecycle = .closed ∧ a.quality = .infraError ∧ a.executionDeadline = b.executionDeadline := by
  induction n generalizing b with
  | zero => omega
  | succ n ih =>
    obtain ⟨p, hp, hpunit, hpnumber, hclosed, hquality, hdeadline⟩ :=
      (h.retried b hb (by omega)).previous
    by_cases hlast : a.attemptNumber = p.attemptNumber
    · obtain rfl := h.eq_of_number ha hp (hunit.trans hpunit.symm) hlast
      exact ⟨hclosed, hquality, hdeadline.symm⟩
    · obtain ⟨haclosed, haquality, hadeadline⟩ :=
        ih (b := p) (by omega) hp (hunit.trans hpunit.symm) (by omega)
      exact ⟨haclosed, haquality, hadeadline.trans hdeadline.symm⟩

/-- After any run only the latest Attempt of a Unit can be open: every earlier one is closed with an
infrastructure error, and none has another deadline. -/
theorem earlier_attempts_closed (hbegun : Begun db₀)
    (h : Runs H P unitRetryAttemptId commandEvent deliveries db₀ db) {a b : UnitAttempt} (ha : a ∈ db.attempts)
    (hb : b ∈ db.attempts) (hunit : a.executionUnitId = b.executionUnitId)
    (hlt : a.attemptNumber < b.attemptNumber) :
    a.lifecycle = .closed ∧ a.quality = .infraError ∧ a.executionDeadline = b.executionDeadline := by
  have hchain := h.retryChain hbegun
  refine hchain.earlier_closed rfl ha hb hunit hlt ?_
  have hmem : a.attemptNumber ∈ (db.attempts.filter fun c => c.executionUnitId = a.executionUnitId).map
      fun c => c.attemptNumber := List.mem_map.2 ⟨a, List.mem_filter.2 ⟨ha, by simp⟩, rfl⟩
  rw [show _ = List.range' 1 _ from hchain.numbers a.executionUnitId] at hmem
  exact (List.mem_range'_1.1 hmem).1

open FreshRun in
theorem two_attempts : retried.attempts.length = 2 := by decide

open FreshRun in
theorem retried_attempt_closed :
    (retried.attempts.get ⟨0, by simp [two_attempts]⟩).lifecycle = .closed ∧
      (retried.attempts.get ⟨0, by simp [two_attempts]⟩).quality = .infraError ∧
      (retried.attempts.get ⟨0, by simp [two_attempts]⟩).executionDeadline =
        (retried.attempts.get ⟨1, by simp [two_attempts]⟩).executionDeadline :=
  earlier_attempts_closed begun (runs_retried fun _ => True) (List.get_mem _ _) (List.get_mem _ _)
    (by decide) (by decide)

end Atlas.Proofs
