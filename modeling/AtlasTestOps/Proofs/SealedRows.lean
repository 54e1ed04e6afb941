import AtlasTestOps.Proofs.DispatchPages
import AtlasTestOps.Proofs.RunHistory

/-! The rows of a sealed Run stay sealed in every run of the system: it writes state columns only, and a
retry appends an Attempt that no page of first Attempts holds. -/

namespace Atlas.Proofs.DispatchPages

open Atlas Atlas.Task Atlas.Result Atlas.Store Atlas.Service Atlas.Orchestration Txn

/-- The columns that the guard triggers freeze. -/
def unitKey (u : ExecutionUnit) : UnitScope × ℕ × Uuid := (u.toUnitScope, u.ordinal, u.caseVersionId)

def attemptKey (a : UnitAttempt) :
    UnitScope × Uuid × Uuid × Option String × Option WorkflowId :=
  (a.toUnitScope, a.id, a.caseVersionId, a.temporalNamespace, a.temporalWorkflowId)

def firstOnly (attempts : List UnitAttempt) : List UnitAttempt :=
  attempts.filter fun a => a.attemptNumber = 1

/-- A later transaction of the Run changes state columns and appends retries. -/
structure Frozen (db db' : Db) : Prop where
  run : db'.run = { db.run with toExecutionState := db'.run.toExecutionState }
  manifest : db'.manifest = db.manifest
  units : db'.units.map unitKey = db.units.map unitKey
  attempts : (firstOnly db'.attempts).map attemptKey = (firstOnly db.attempts).map attemptKey

/-- The join reads frozen columns only. -/
theorem firstAttempts_keys (db : Db) (r : Uuid) :
    (db.firstAttempts r).map (fun p => (unitKey p.1, attemptKey p.2)) =
      (((firstOnly db.attempts).map attemptKey).filter fun k => k.1.taskRunId = r).flatMap fun k =>
        ((db.units.map unitKey).filter fun u => u.1.executionUnitId = k.1.executionUnitId ∧
          u.1.taskRunId = k.1.taskRunId ∧ u.1.tenantId = k.1.tenantId ∧
            u.1.projectId = k.1.projectId).map fun u => (u, k) := by
  rw [Db.firstAttempts, List.map_flatMap, List.filter_map, List.flatMap_map, firstOnly,
    List.filter_filter]
  have hfilter : (db.attempts.filter fun a => a.taskRunId = r ∧ a.attemptNumber = 1) =
      db.attempts.filter fun a =>
        ((fun k : UnitScope × Uuid × Uuid × Option String × Option WorkflowId =>
          decide (k.1.taskRunId = r)) ∘ attemptKey) a && decide (a.attemptNumber = 1) := by
    refine List.filter_congr fun a _ => ?_
    exact Bool.decide_and _ _
  rw [hfilter]
  congr 1
  funext a
  rw [List.filter_map, List.map_map, List.map_map]
  rfl

section Frozen

variable {db db' : Db} {n : ℕ}

theorem Frozen.firstAttempts (hf : Frozen db db') (r : Uuid) :
    (db'.firstAttempts r).map (fun p => (unitKey p.1, attemptKey p.2)) =
      (db.firstAttempts r).map fun p => (unitKey p.1, attemptKey p.2) := by
  rw [firstAttempts_keys, firstAttempts_keys, hf.units, hf.attempts]

/-- A pair of the later join has a pair of the earlier one with its frozen columns. -/
theorem Frozen.pair (hf : Frozen db db') {r : Uuid} {p : ExecutionUnit × UnitAttempt}
    (hp : p ∈ db'.firstAttempts r) :
    ∃ q ∈ db.firstAttempts r, unitKey q.1 = unitKey p.1 ∧ attemptKey q.2 = attemptKey p.2 := by
  have hkey := List.mem_map_of_mem (f := fun p => (unitKey p.1, attemptKey p.2)) hp
  rw [hf.firstAttempts] at hkey
  obtain ⟨q, hq, heq⟩ := List.mem_map.1 hkey
  exact ⟨q, hq, Prod.mk.inj heq⟩

theorem SealedRun.frozen (h : SealedRun db n) (hf : Frozen db db')
    (hids : (db'.attempts.map (·.id)).Nodup)
    (hdeadlines : ∀ a ∈ db'.attempts, a.queuedAt < a.executionDeadline) : SealedRun db' n := by
  have hscope : db'.run.toRunScope = db.run.toRunScope := by rw [hf.run]
  have hid : db'.run.id = db.run.id := congrArg RunScope.taskRunId hscope
  have hordinals : ∀ units : List ExecutionUnit,
      (units.filter fun u => u.taskRunId = db.run.id).map (·.ordinal) =
        ((units.map unitKey).filter fun k => k.1.taskRunId = db.run.id).map fun k => k.2.1 := by
    intro units
    rw [List.filter_map, List.map_map]
    rfl
  refine ⟨h.bound, ?_, ?_, ?_, ?_, ?_, ?_, hids, ?_, ?_, fun p hp => ?_, fun p hp => ?_,
    hdeadlines⟩
  · rw [hf.run]
    exact h.materialized
  · rw [hf.run]
    exact h.unitCount
  · rw [hf.run]
    exact h.firstAttemptCount
  · rw [hf.manifest, hscope]
    exact h.manifest
  · rw [hf.run]
    exact h.workflow
  · have hkeys : ∀ units : List ExecutionUnit,
        units.map ExecutionUnit.id = (units.map unitKey).map fun k => k.1.executionUnitId :=
      fun units => by rw [List.map_map]; rfl
    rw [hkeys, hf.units, ← hkeys]
    exact h.unitIds
  · rw [hid, hordinals, hf.units, ← hordinals]
    exact h.ordinals
  · have hjoined : ∀ pairs : List (ExecutionUnit × UnitAttempt),
        pairs.map (·.1.ordinal) =
          (pairs.map fun p => (unitKey p.1, attemptKey p.2)).map fun k => k.1.2.1 :=
      fun pairs => by rw [List.map_map]; rfl
    rw [hid, hjoined, hf.firstAttempts, ← hjoined]
    exact h.joined
  · rw [hid] at hp
    obtain ⟨q, hq, hunit, hattempt⟩ := hf.pair hp
    have hscopes := h.scopes q hq
    simp only [unitKey, attemptKey, Prod.mk.injEq] at hunit hattempt
    rw [hunit.1, hunit.2.2, hattempt.1, hattempt.2.2.1] at hscopes
    rw [hscope]
    exact hscopes
  · rw [hid] at hp
    obtain ⟨q, hq, -, hattempt⟩ := hf.pair hp
    have hhosts := h.hosts q hq
    simp only [attemptKey, Prod.mk.injEq] at hattempt
    rw [hattempt.2.1, hattempt.2.2.2.1, hattempt.2.2.2.2] at hhosts
    rw [hf.run]
    exact hhosts

variable (h : SealedRun db n)
include h

theorem SealedRun.runState (next : ExecutionState) :
    SealedRun { db with run := { db.run with toExecutionState := next } } n :=
  h.frozen ⟨rfl, rfl, rfl, rfl⟩ h.attemptIds h.deadlines

theorem SealedRun.unitState (unitId : Uuid) (next : ExecutionState) :
    SealedRun { db with
      units := Table.modify (fun u => u.id) unitId
        (fun u => { u with toExecutionState := next }) db.units } n :=
  h.frozen ⟨rfl, rfl, Table.map_modify fun _ => rfl, rfl⟩ h.attemptIds h.deadlines

theorem SealedRun.attemptState (attemptId : Uuid) (next : ExecutionState) :
    SealedRun { db with
      attempts := Table.modify (fun a => a.id) attemptId
        (fun a => { a with toExecutionState := next }) db.attempts } n := by
  refine h.frozen ⟨rfl, rfl, rfl, ?_⟩ ?_ fun a ha => ?_
  · have hfirst : firstOnly (Table.modify (fun a => a.id) attemptId
        (fun a => { a with toExecutionState := next }) db.attempts) =
        Table.modify (fun a => a.id) attemptId (fun a => { a with toExecutionState := next })
          (firstOnly db.attempts) := Table.filter_modify fun _ => rfl
    exact (congrArg _ hfirst).trans (Table.map_modify fun _ => rfl)
  · have hids : (Table.modify (fun a => a.id) attemptId
        (fun a => { a with toExecutionState := next }) db.attempts).map (fun a => a.id) =
        db.attempts.map fun a => a.id := Table.map_modify fun _ => rfl
    exact hids.symm ▸ h.attemptIds
  · obtain ⟨b, hb, rfl⟩ := Table.mem_modify.1 ha
    have hdeadline := h.deadlines b hb
    split
    · exact hdeadline
    · exact hdeadline

/-- A retry is no first Attempt. -/
theorem SealedRun.retry {attempt : UnitAttempt} (hnew : ∀ a ∈ db.attempts, a.id ≠ attempt.id)
    (hnumber : attempt.attemptNumber ≠ 1)
    (hdeadline : attempt.queuedAt < attempt.executionDeadline) :
    SealedRun { db with attempts := db.attempts ++ [attempt] } n := by
  refine h.frozen ⟨rfl, rfl, rfl, ?_⟩ ?_ fun a ha => ?_
  · simp [firstOnly, hnumber]
  · rw [List.map_append, List.nodup_append]
    refine ⟨h.attemptIds, List.nodup_singleton _, fun id hid other hother => ?_⟩
    obtain ⟨a, ha, rfl⟩ := List.mem_map.1 hid
    rw [List.mem_singleton.1 hother]
    exact hnew a ha
  · rcases List.mem_append.1 ha with ha | ha
    · exact h.deadlines a ha
    · rw [List.mem_singleton.1 ha]
      exact hdeadline

end Frozen

section Run

variable {H : ResultHashes} {P : HygieneProjection} {unitRetryAttemptId : Uuid → ℕ → Uuid}
  {commandEvent : TaskRunCommandIntent → EventType × EventPayload} {deliveries : CommandDelivery → Prop}
  {db db' : Db} {n : ℕ}

/-- The rows of a sealed Run with the check on the numbers of its Attempts. -/
structure SealedRows (db : Db) (n : ℕ) : Prop extends SealedRun db n where
  numbers : ∀ a ∈ db.attempts, 1 ≤ a.attemptNumber

/-- One write of the system leaves the Run sealed. -/
theorem SealedRows.write (h : SealedRows db n) (hw : Write unitRetryAttemptId db db') : SealedRows db' n := by
  cases hw with
  | aside db' hrest =>
    have hframe : Frozen db db' :=
      ⟨by rw [hrest.run], hrest.manifest, by rw [hrest.units], by rw [hrest.attempts]⟩
    refine ⟨h.frozen hframe ?_ ?_, ?_⟩
    all_goals rw [hrest.attempts]
    · exact h.attemptIds
    · exact h.deadlines
    · exact h.numbers
  | event _ _ _ => exact ⟨h.frozen ⟨rfl, rfl, rfl, rfl⟩ h.attemptIds h.deadlines, h.numbers⟩
  | run next _ => exact ⟨h.runState next, h.numbers⟩
  | unit u next _ _ => exact ⟨h.unitState u.id next, h.numbers⟩
  | attempt a next _ _ =>
    refine ⟨h.attemptState a.id next, fun b hb => ?_⟩
    obtain ⟨c, hc, rfl⟩ := Table.mem_modify.1 hb
    have hnumber := h.numbers c hc
    split <;> exact hnumber
  | retry a hretry =>
    -- The Attempt before it has a number, so this one is not the first.
    obtain ⟨p, hp, -, hnumber, -⟩ := hretry.previous
    have hpos := h.numbers p hp
    refine ⟨h.retry hretry.fresh (by omega) hretry.queued, fun b hb => ?_⟩
    rcases List.mem_append.1 hb with hb | hb
    · exact h.numbers b hb
    · obtain rfl := List.mem_singleton.1 hb
      omega
  | sealed _ _ => exact ⟨h.frozen ⟨rfl, rfl, rfl, rfl⟩ h.attemptIds h.deadlines, h.numbers⟩
  | notice _ _ => exact ⟨h.frozen ⟨rfl, rfl, rfl, rfl⟩ h.attemptIds h.deadlines, h.numbers⟩

theorem SealedRows.runs (h : SealedRows db n)
    (hruns : Runs H P unitRetryAttemptId commandEvent deliveries db db') : SealedRows db' n := by
  have hwrites := hruns.moves.writes
  clear hruns
  induction hwrites with
  | refl => exact h
  | tail _ hwrite ih => exact ih.write hwrite

theorem Addresses.kept {request : TaskRunWorkflowInput} (h : Addresses request db.run)
    (hkept : HistoryKept db db') : Addresses request db'.run := by
  rw [hkept.run.1]
  exact ⟨h.tenant, h.project, h.taskRun, h.digest, h.manifest⟩

/-- Whatever the system has done since the Run was sealed, each page of it is returned while the Run can be
dispatched, and the Root accepts it. -/
theorem page_after_runs {request : TaskRunWorkflowInput} {now : Instant} (h : SealedRows db n)
    (haddresses : Addresses request db.run)
    (hruns : Runs H P unitRetryAttemptId commandEvent deliveries db db')
    (hcursor : request.dispatchAfterOrdinal < n) (hlifecycle : db'.run.lifecycle ∈ dispatchPlanLifecycles) :
    ∃ plan, Commits (loadDispatchPlan unitRetryAttemptId request now) db' plan db' ∧
      validDispatchPlan request plan = true ∧ plan.total = n := by
  have hsealed := (h.runs hruns).toSealedRun
  have hkept := (writes_keep_history ⟨h.unitIds, h.attemptIds⟩ hruns.moves.writes).1
  obtain ⟨plan, hplan⟩ := plan_loads hsealed (haddresses.kept hkept) hcursor hlifecycle
  obtain ⟨hvalid, htotal, -⟩ := plan_valid hsealed hplan
  exact ⟨plan, hplan, hvalid, htotal⟩

end Run

end Atlas.Proofs.DispatchPages
