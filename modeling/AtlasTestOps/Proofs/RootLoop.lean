import AtlasTestOps.Orchestration.RootLoop
import AtlasTestOps.Proofs.RootPages

/-! The loop of the Root conserves its page. The queue holds the first Attempts that were not
dispatched, in order, and behind them the retries; a settled batch leaves its front. -/

namespace Atlas.Proofs.RootLoop

open Atlas Atlas.Task Atlas.Orchestration Atlas.Proofs.RootPages

/-! Dicts keyed by ordinal. -/

theorem mem_recordOutcomes {k : ℕ} {old new : List TaskAttemptWorkflowPayload} :
    k ∈ (recordOutcomes old new).map (·.ordinal) ↔
      k ∈ old.map (·.ordinal) ∨ k ∈ new.map (·.ordinal) := by
  induction new generalizing old with
  | nil => simp [recordOutcomes]
  | cons o new ih =>
    have hone : k ∈ (recordOutcome old o).map (·.ordinal) ↔ k ∈ old.map (·.ordinal) ∨ k = o.ordinal := by
      simp only [recordOutcome, List.map_cons, List.mem_cons, List.mem_map, List.mem_filter,
        decide_eq_true_eq]
      constructor
      · rintro (rfl | ⟨p, ⟨hp, -⟩, rfl⟩)
        · exact Or.inr rfl
        · exact Or.inl ⟨p, hp, rfl⟩
      · rintro (⟨p, hp, rfl⟩ | rfl)
        · by_cases heq : p.ordinal = o.ordinal
          · exact Or.inl heq
          · exact Or.inr ⟨p, ⟨hp, heq⟩, rfl⟩
        · exact Or.inl rfl
    rw [show recordOutcomes old (o :: new) = recordOutcomes (recordOutcome old o) new from rfl,
      ih, hone, List.map_cons, List.mem_cons]
    tauto

theorem nodup_recordOutcome {old : List TaskAttemptWorkflowPayload} {o : TaskAttemptWorkflowPayload}
    (h : (old.map (·.ordinal)).Nodup) : ((recordOutcome old o).map (·.ordinal)).Nodup := by
  rw [recordOutcome, List.map_cons, List.nodup_cons]
  refine ⟨fun hmem => ?_, h.sublist (List.filter_sublist.map _)⟩
  obtain ⟨p, hp, heq⟩ := List.mem_map.1 hmem
  exact (by simpa using (List.mem_filter.1 hp).2 : p.ordinal ≠ o.ordinal) heq

theorem nodup_recordOutcomes {old new : List TaskAttemptWorkflowPayload}
    (h : (old.map (·.ordinal)).Nodup) : ((recordOutcomes old new).map (·.ordinal)).Nodup := by
  induction new generalizing old with
  | nil => exact h
  | cons o new ih => exact ih (nodup_recordOutcome h)

/-- New ordinals only add entries. -/
theorem perm_recordOutcomes {old new : List TaskAttemptWorkflowPayload}
    (h : (new.map (·.ordinal) ++ old.map (·.ordinal)).Nodup) :
    ((recordOutcomes old new).map (·.ordinal)).Perm
      (new.map (·.ordinal) ++ old.map (·.ordinal)) := by
  have hold : (old.map (·.ordinal)).Nodup := (List.nodup_append.1 h).2.1
  refine (List.perm_ext_iff_of_nodup (nodup_recordOutcomes hold) h).2 fun k => ?_
  rw [mem_recordOutcomes, List.mem_append]
  exact or_comm

/-- Entries with the ordinals of a range, in the order of the dict's keys. -/
theorem sorted_ordinals {outcomes : List TaskAttemptWorkflowPayload} {s m : ℕ}
    (h : (outcomes.map (·.ordinal)).Perm (List.range' s m)) :
    ((outcomes.insertionSort fun a b => a.ordinal ≤ b.ordinal).map (·.ordinal)) =
      List.range' s m := by
  have htotal : Std.Total fun a b : TaskAttemptWorkflowPayload => a.ordinal ≤ b.ordinal :=
    ⟨fun _ _ => le_total _ _⟩
  have htrans : IsTrans TaskAttemptWorkflowPayload fun a b => a.ordinal ≤ b.ordinal :=
    ⟨fun _ _ _ => le_trans⟩
  have hsorted : ((outcomes.insertionSort fun a b => a.ordinal ≤ b.ordinal).map
      fun o => o.ordinal).Pairwise fun a b => a ≤ b :=
    (List.pairwise_insertionSort (fun a b : TaskAttemptWorkflowPayload => a.ordinal ≤ b.ordinal)
      outcomes).map (fun o : TaskAttemptWorkflowPayload => o.ordinal) fun _ _ h => h
  exact (((List.perm_insertionSort _ _).map _).trans h).eq_of_pairwise
    (fun _ _ _ _ h1 h2 => Nat.le_antisymm h1 h2) hsorted List.pairwise_le_range'

/-! One settled batch. -/

theorem forall₂_ordinals {batch : List TaskUnitDispatchPayload}
    {outcomes : List TaskAttemptWorkflowPayload}
    (h : List.Forall₂ (fun u o => namesDispatch u o = true) batch outcomes) :
    outcomes.map (·.ordinal) = batch.map (·.ordinal) := by
  induction h with
  | nil => rfl
  | cons hname _ ih =>
    simp only [namesDispatch, decide_eq_true_eq] at hname
    rw [List.map_cons, List.map_cons, ih, hname.2.2]

/-- What a settled batch says: one decision for each of its ordinals, and valid retries. -/
theorem settled_ordinals {request : TaskRunWorkflowInput}
    {outcomes : List TaskAttemptWorkflowPayload} {answer : TaskAttemptBatchSettlePayload}
    (h : validBatchSettlement request outcomes answer = true) (hstate : answer.state = .settled) :
    (answer.retryAttempts.map (·.ordinal) ++ answer.finalOutcomes.map (·.ordinal)).Perm
        (outcomes.map (·.ordinal)) ∧
      ∀ retry ∈ answer.retryAttempts, validDispatchIdentity request retry = true := by
  simp only [validBatchSettlement, hstate, ne_eq, not_true_eq_false, if_false, Bool.and_eq_true,
    decide_eq_true_eq, List.all_eq_true, Option.any_eq_true] at h
  obtain ⟨-, ⟨⟨⟨⟨hnodup, hall⟩, -⟩, hlength⟩, hretry⟩, hfinal⟩ := h
  -- the ordinal that the batch gives a Unit
  let ordinalOf (id : Uuid) : ℕ := ((outcomeOf outcomes id).map (·.ordinal)).getD 0
  have hlookup : ∀ o ∈ outcomes, outcomeOf outcomes o.executionUnitId = some o := by
    intro o ho
    cases hfound : outcomeOf outcomes o.executionUnitId with
    | none => exact absurd (List.find?_eq_none.1 hfound o ho) (by simp)
    | some p =>
      have hid : p.executionUnitId = o.executionUnitId := by simpa using List.find?_some hfound
      rw [List.inj_on_of_nodup_map hnodup (List.mem_of_find?_eq_some hfound) ho hid]
  have hunits : (outcomes.map (·.executionUnitId)).Perm answer.decidedUnits := by
    refine (hnodup.subperm fun id hid => ?_).perm_of_length_le ?_
    · obtain ⟨o, ho, rfl⟩ := List.mem_map.1 hid
      exact hall o ho
    · rw [TaskAttemptBatchSettlePayload.decidedUnits, List.length_append, List.length_map,
        List.length_map, List.length_map, hlength]
  have houtcomes : outcomes.map (·.ordinal) =
      (outcomes.map (·.executionUnitId)).map ordinalOf := by
    rw [List.map_map]
    refine List.map_congr_left fun o ho => ?_
    simp [ordinalOf, hlookup o ho]
  have hdecided : answer.retryAttempts.map (·.ordinal) ++ answer.finalOutcomes.map (·.ordinal) =
      answer.decidedUnits.map ordinalOf := by
    rw [TaskAttemptBatchSettlePayload.decidedUnits, List.map_append, List.map_map, List.map_map]
    congr 1
    · refine List.map_congr_left fun retry hr => ?_
      obtain ⟨previous, hprevious, -, -, hordinal⟩ := hretry retry hr
      simp [ordinalOf, hprevious, hordinal]
    · refine List.map_congr_left fun final hf => ?_
      simp [ordinalOf, hfinal final hf]
  refine ⟨?_, fun retry hr => ?_⟩
  · rw [hdecided, houtcomes]
    exact (hunits.map ordinalOf).symm
  · obtain ⟨previous, -, -, hidentity, -⟩ := hretry retry hr
    exact hidentity

/-! The page. -/

/-- Each ordinal of the page is final or pending, and the batch that awaits its settlement is
still at the front of the queue. -/
structure Part (plan : TaskDispatchPlanPayload) (r : TaskRoot) : Prop where
  identity : ∀ u ∈ r.pending, validDispatchIdentity r.request u = true
  ordinals : (r.pending.map (·.ordinal) ++ r.finalByOrdinal.map (·.ordinal)).Perm
    (List.range' (plan.afterOrdinal + 1) plan.units.length)
  awaiting : ∀ batch outcomes, r.unsettled = some (batch, outcomes) →
    batch = r.batch ∧ List.Forall₂ (fun u o => namesDispatch u o = true) batch outcomes

/-- The queue holds the first Attempts that were not dispatched, and behind them retries of
ordinals before those. -/
structure Dispatched (plan : TaskDispatchPlanPayload) (r : TaskRoot) (i : ℕ)
    (retries : List TaskUnitDispatchPayload) : Prop where
  queue : r.pending = plan.units.drop i ++ retries
  bound : i ≤ plan.units.length
  behind : ∀ u ∈ retries, u.ordinal ≤ plan.afterOrdinal + i
  latest : ∀ k, k ∈ r.latestByOrdinal.map (·.ordinal) ↔ plan.afterOrdinal < k ∧
    k ≤ plan.afterOrdinal +
      if r.unsettled = none then i else min plan.units.length (i + taskRunChildBatchSize)

def Front (plan : TaskDispatchPlanPayload) (r : TaskRoot) : Prop :=
  ∃ i retries, Dispatched plan r i retries

section Page

variable {plan : TaskDispatchPlanPayload} {r : TaskRoot} {i : ℕ}
  {retries : List TaskUnitDispatchPayload}

theorem Part.nodup (h : Part plan r) :
    (r.pending.map (·.ordinal) ++ r.finalByOrdinal.map (·.ordinal)).Nodup :=
  h.ordinals.nodup_iff.2 List.nodup_range'

theorem Part.pending_range (h : Part plan r) {u : TaskUnitDispatchPayload} (hu : u ∈ r.pending) :
    plan.afterOrdinal < u.ordinal ∧ u.ordinal ≤ plan.afterOrdinal + plan.units.length := by
  have hmem := h.ordinals.mem_iff.1 (List.mem_append_left _ (List.mem_map_of_mem hu))
  rw [List.mem_range'_1] at hmem
  omega

variable (hplan : plan.units.map (·.ordinal) =
  List.range' (plan.afterOrdinal + 1) plan.units.length)
include hplan

/-- The ordinals of the first Attempts that are left. -/
theorem drop_ordinals (i : ℕ) : (plan.units.drop i).map (·.ordinal) =
    List.range' (plan.afterOrdinal + 1 + i) (plan.units.length - i) := by
  rw [List.map_drop, hplan, List.drop_range', Nat.mul_one]

theorem Dispatched.final_le (hd : Dispatched plan r i retries) (h : Part plan r)
    {o : TaskAttemptWorkflowPayload} (ho : o ∈ r.finalByOrdinal) :
    plan.afterOrdinal < o.ordinal ∧ o.ordinal ≤ plan.afterOrdinal + i := by
  have hmem := h.ordinals.mem_iff.1 (List.mem_append_right _ (List.mem_map_of_mem ho))
  rw [List.mem_range'_1] at hmem
  refine ⟨by omega, ?_⟩
  by_contra hlarge
  -- otherwise its first Attempt would still be in the queue
  have hfirst : o.ordinal ∈ (plan.units.drop i).map (·.ordinal) := by
    rw [drop_ordinals hplan, List.mem_range'_1]
    omega
  have hpending : o.ordinal ∈ r.pending.map (·.ordinal) := by
    rw [hd.queue, List.map_append]
    exact List.mem_append_left _ hfirst
  exact (List.nodup_append.1 h.nodup).2.2 _ hpending _ (List.mem_map_of_mem ho) rfl

/-- The batch that is dispatched next: the next first Attempts, and retries. -/
theorem Dispatched.mem_batch (hd : Dispatched plan r i retries) (h : Part plan r) (k : ℕ) :
    (k ∈ r.batch.map (·.ordinal) → plan.afterOrdinal < k ∧
      k ≤ plan.afterOrdinal + min plan.units.length (i + taskRunChildBatchSize)) ∧
    (plan.afterOrdinal + i < k →
      k ≤ plan.afterOrdinal + min plan.units.length (i + taskRunChildBatchSize) →
      k ∈ r.batch.map (·.ordinal)) := by
  have hbatch : r.batch.map (·.ordinal) =
      (List.range' (plan.afterOrdinal + 1 + i) (plan.units.length - i)).take
        taskRunChildBatchSize ++
      (retries.take (taskRunChildBatchSize - (plan.units.drop i).length)).map (·.ordinal) := by
    rw [TaskRoot.batch, hd.queue, List.take_append, List.map_append, List.map_take,
      drop_ordinals hplan]
  have hbound := hd.bound
  constructor
  · intro hk
    obtain ⟨u, hu, rfl⟩ := List.mem_map.1 hk
    refine ⟨(h.pending_range (List.mem_of_mem_take hu)).1, ?_⟩
    rw [hbatch] at hk
    rcases List.mem_append.1 hk with hk | hk
    · rw [Paging.take_range', List.mem_range'_1] at hk
      omega
    · obtain ⟨v, hv, heq⟩ := List.mem_map.1 hk
      have := hd.behind v (List.mem_of_mem_take hv)
      omega
  · intro hlow hhigh
    rw [hbatch]
    refine List.mem_append_left _ ?_
    rw [Paging.take_range', List.mem_range'_1]
    omega

/-- A batch that awaits its settlement leaves the queue; its retries go to the end. -/
theorem Dispatched.settle (hd : Dispatched plan r i retries) (h : Part plan r)
    (hunsettled : r.unsettled ≠ none) {batch new : List TaskUnitDispatchPayload}
    {final : List TaskAttemptWorkflowPayload} (hbatch : batch = r.batch)
    (hnew : ∀ u ∈ new, u.ordinal ∈ r.batch.map (·.ordinal)) :
    Front plan { r with
      finalByOrdinal := final
      pending := r.pending.drop batch.length ++ new
      unsettled := none } := by
  have hlength : batch.length = min taskRunChildBatchSize r.pending.length := by
    rw [hbatch, TaskRoot.batch, List.length_take]
  have hpending : r.pending.length = (plan.units.length - i) + retries.length := by
    rw [hd.queue, List.length_append, List.length_drop]
  have hbound := hd.bound
  refine ⟨min plan.units.length (i + taskRunChildBatchSize),
    retries.drop (batch.length - (plan.units.length - i)) ++ new, ?_, Nat.min_le_left _ _, ?_, ?_⟩
  · show r.pending.drop batch.length ++ new = _
    rw [hd.queue, List.drop_append, List.drop_drop, List.length_drop, List.append_assoc]
    congr 1
    rcases Nat.le_total (i + taskRunChildBatchSize) plan.units.length with hleft | hleft
    · rw [Nat.min_eq_right hleft]
      congr 1
      omega
    · rw [Nat.min_eq_left hleft, List.drop_length]
      exact List.drop_eq_nil_of_le (by omega)
  · intro u hu
    rcases List.mem_append.1 hu with hu | hu
    · have := hd.behind u (List.mem_of_mem_drop hu)
      omega
    · exact ((hd.mem_batch hplan h _).1 (hnew u hu)).2
  · intro k
    rw [hd.latest k, if_neg hunsettled, if_pos rfl]

/-- The outcomes of a batch complete the ordinals that have been dispatched. -/
theorem Dispatched.gather (hd : Dispatched plan r i retries) (h : Part plan r)
    (hunsettled : r.unsettled = none) {ended : List TaskAttemptWorkflowPayload}
    (hended : ended.map (·.ordinal) = r.batch.map (·.ordinal)) :
    Dispatched plan { r with
      latestByOrdinal := recordOutcomes r.latestByOrdinal ended
      unsettled := some (r.batch, ended) } i retries := by
  refine ⟨hd.queue, hd.bound, hd.behind, fun k => ?_⟩
  rw [mem_recordOutcomes, hd.latest k, if_pos hunsettled, if_neg (Option.some_ne_none _), hended]
  obtain ⟨hin, hout⟩ := hd.mem_batch hplan h k
  have hbound := hd.bound
  constructor
  · rintro (hk | hk)
    · omega
    · exact hin hk
  · rintro ⟨hlow, hhigh⟩
    by_cases hk : k ≤ plan.afterOrdinal + i
    · exact Or.inl ⟨hlow, hk⟩
    · exact Or.inr (hout (by omega) hhigh)

end Page

/-! The outcomes that a run leaves with. -/

section Outcomes

variable {plan : TaskDispatchPlanPayload} {r : TaskRoot}

def replacePending (outcomes : List TaskAttemptWorkflowPayload) (unit : TaskUnitDispatchPayload) :
    List TaskAttemptWorkflowPayload :=
  if outcomes.any fun o => o.ordinal = unit.ordinal ∧ o.unitAttemptId ≠ unit.unitAttemptId then
    recordOutcome outcomes (pendingRetryCanceled unit)
  else outcomes

theorem replacePending_keys (outcomes : List TaskAttemptWorkflowPayload)
    (unit : TaskUnitDispatchPayload) :
    (∀ k, k ∈ (replacePending outcomes unit).map (·.ordinal) ↔ k ∈ outcomes.map (·.ordinal)) ∧
      ((outcomes.map (·.ordinal)).Nodup → ((replacePending outcomes unit).map (·.ordinal)).Nodup) := by
  unfold replacePending
  split
  · rename_i hany
    obtain ⟨o, ho, heq⟩ := List.any_eq_true.1 hany
    have hordinal : o.ordinal = unit.ordinal := (of_decide_eq_true heq).1
    refine ⟨fun k => ?_, nodup_recordOutcome⟩
    have hkeys : k ∈ (recordOutcomes outcomes [pendingRetryCanceled unit]).map (·.ordinal) ↔
        k ∈ outcomes.map (·.ordinal) ∨ k ∈ [pendingRetryCanceled unit].map (·.ordinal) :=
      mem_recordOutcomes
    refine hkeys.trans (or_iff_left_of_imp fun hk => ?_)
    obtain rfl : k = unit.ordinal := by simpa [pendingRetryCanceled] using hk
    exact hordinal ▸ List.mem_map_of_mem ho
  · exact ⟨fun _ => Iff.rfl, id⟩

/-- Units whose retry was pending keep their entry. -/
theorem canceled_keys (pending : List TaskUnitDispatchPayload)
    (outcomes : List TaskAttemptWorkflowPayload) :
    (∀ k, k ∈ (pending.foldl replacePending outcomes).map (·.ordinal) ↔
        k ∈ outcomes.map (·.ordinal)) ∧
      ((outcomes.map (·.ordinal)).Nodup →
        ((pending.foldl replacePending outcomes).map (·.ordinal)).Nodup) := by
  induction pending generalizing outcomes with
  | nil => exact ⟨fun _ => Iff.rfl, id⟩
  | cons unit pending ih =>
    obtain ⟨hkeys, hnodup⟩ := replacePending_keys outcomes unit
    obtain ⟨hrest, hrestNodup⟩ := ih (replacePending outcomes unit)
    exact ⟨fun k => (hrest k).trans (hkeys k), fun h => hrestNodup (hnodup h)⟩

/-- The outcomes are in order: their ordinals run from the first of the page. -/
def Ordered (plan : TaskDispatchPlanPayload) (r : TaskRoot) : Prop :=
  (r.outcomes plan).map (·.ordinal) =
    List.range' (plan.afterOrdinal + 1) (r.outcomes plan).length

theorem ordered_of_perm {outcomes : List TaskAttemptWorkflowPayload} {s m : ℕ}
    (h : (outcomes.map (·.ordinal)).Perm (List.range' s m)) :
    (outcomes.insertionSort fun a b => a.ordinal ≤ b.ordinal).map (·.ordinal) =
      List.range' s (outcomes.insertionSort fun a b => a.ordinal ≤ b.ordinal).length := by
  have hsorted := sorted_ordinals h
  have hlength := congrArg List.length hsorted
  rw [List.length_map, List.length_range'] at hlength
  rw [hsorted, hlength]

/-- A page whose queue is empty has an outcome for every ordinal. -/
theorem ordered_final (h : Part plan r) (hpending : r.pending = [])
    (hchoice : (r.cancelRequested && !TaskRoot.partitioned plan) = false) : Ordered plan r := by
  have hfinal := h.ordinals
  rw [hpending, List.map_nil, List.nil_append] at hfinal
  unfold Ordered TaskRoot.outcomes
  rw [hchoice]
  exact ordered_of_perm hfinal

/-- A small Run that was canceled reports the ordinals it has dispatched. -/
theorem ordered_canceled (hplan : plan.units.map (·.ordinal) =
      List.range' (plan.afterOrdinal + 1) plan.units.length) (h : Part plan r)
    (hfront : Front plan r)
    (hchoice : (r.cancelRequested && !TaskRoot.partitioned plan) = true) : Ordered plan r := by
  obtain ⟨i, retries, hd⟩ := hfront
  unfold Ordered TaskRoot.outcomes
  rw [hchoice]
  obtain ⟨hkeys, hnodup⟩ := canceled_keys r.pending
    (recordOutcomes r.finalByOrdinal r.latestByOrdinal)
  have hbase : ((recordOutcomes r.finalByOrdinal r.latestByOrdinal).map (·.ordinal)).Nodup :=
    nodup_recordOutcomes (List.nodup_append.1 h.nodup).2.1
  refine ordered_of_perm (m := if r.unsettled = none then i
    else min plan.units.length (i + taskRunChildBatchSize))
    ((List.perm_ext_iff_of_nodup (hnodup hbase) List.nodup_range').2 fun k => ?_)
  have hbound := hd.bound
  rw [hkeys k, mem_recordOutcomes, hd.latest k, List.mem_range'_1]
  constructor
  · rintro (hk | hk)
    · obtain ⟨o, ho, rfl⟩ := List.mem_map.1 hk
      have := hd.final_le hplan h ho
      split <;> omega
    · omega
  · intro hk
    exact Or.inr ⟨by omega, by omega⟩

end Outcomes

/-! The loop. -/

def workStages : List RootStage :=
  [.checkpoint, .settling, .preparing, .children, .lastCheckpoint]

/-- The run has left its page with an outcome for it. -/
def Left (stage : RootStage) : Prop :=
  stage = .finishing ∨ stage = .finished ∨ ∃ next, stage = .continued next

structure LoopInv (plan : TaskDispatchPlanPayload) (r : TaskRoot) : Prop where
  part : Part plan r
  front : r.stage ∈ workStages → Front plan r
  idle : r.stage ∈ [.preparing, .children, .lastCheckpoint] → r.unsettled = none
  last : r.stage = .lastCheckpoint → r.pending = []
  draining : r.stage = .draining → (r.cancelRequested && TaskRoot.partitioned plan) = true
  exits : Left r.stage → r.cancelRequested = false → r.pending = []
  safe : r.stage ≠ .failed TaskRoot.pendingBatchConflict ∧
    r.stage ≠ .failed TaskRoot.outcomeOrderInvalid

section Loop

variable {plan : TaskDispatchPlanPayload} {r : TaskRoot}

theorem Part.withStage (h : Part plan r) (stage : RootStage) : Part plan { r with stage := stage } :=
  ⟨h.identity, h.ordinals, h.awaiting⟩

theorem Front.withStage (h : Front plan r) (stage : RootStage) :
    Front plan { r with stage := stage } := by
  obtain ⟨i, retries, hd⟩ := h
  exact ⟨i, retries, hd.queue, hd.bound, hd.behind, hd.latest⟩

theorem Part.withCancel (h : Part plan r) : Part plan { r with cancelRequested := true } :=
  ⟨h.identity, h.ordinals, h.awaiting⟩

theorem Front.withCancel (h : Front plan r) : Front plan { r with cancelRequested := true } := by
  obtain ⟨i, retries, hd⟩ := h
  exact ⟨i, retries, hd.queue, hd.bound, hd.behind, hd.latest⟩

theorem inv_fail (h : Part plan r) {errorCode : String}
    (hcode : errorCode ≠ TaskRoot.pendingBatchConflict ∧ errorCode ≠ TaskRoot.outcomeOrderInvalid) :
    LoopInv plan (r.fail errorCode) where
  part := h.withStage _
  front hstage := by simp [TaskRoot.fail, workStages] at hstage
  idle hstage := by simp [TaskRoot.fail] at hstage
  last hstage := by simp [TaskRoot.fail] at hstage
  draining hstage := by simp [TaskRoot.fail] at hstage
  exits hleft := by simp [TaskRoot.fail, Left] at hleft
  safe := by simpa [TaskRoot.fail] using hcode

/-- A stage of the loop before its end. -/
theorem inv_work (h : Part plan r) {stage : RootStage}
    (hstage : stage ∈ [.checkpoint, .settling, .preparing, .children, .draining])
    (hfront : stage ∈ workStages → Front plan r)
    (hidle : stage ∈ [.preparing, .children, .lastCheckpoint] → r.unsettled = none)
    (hdrain : stage = .draining → (r.cancelRequested && TaskRoot.partitioned plan) = true) :
    LoopInv plan { r with stage := stage } where
  part := h.withStage _
  front hwork := (hfront hwork).withStage _
  idle := hidle
  last hlast := by
    obtain rfl : stage = .lastCheckpoint := hlast
    simp at hstage
  draining := hdrain
  exits hleft := by
    have hno : stage ≠ .finishing ∧ stage ≠ .finished ∧ ∀ next, stage ≠ .continued next := by
      refine ⟨?_, ?_, fun next => ?_⟩ <;> rintro rfl <;> simp at hstage
    rcases hleft with hf | hf | ⟨next, hf⟩
    · exact absurd hf hno.1
    · exact absurd hf hno.2.1
    · exact absurd hf (hno.2.2 next)
  safe := by
    constructor <;> rintro rfl <;> simp at hstage

/-- The run leaves its page. -/
theorem inv_left (h : Part plan r) {stage : RootStage} (hstage : Left stage)
    (hdone : r.cancelRequested = false → r.pending = []) :
    LoopInv plan { r with stage := stage } where
  part := h.withStage _
  front hwork := by
    rcases hstage with rfl | rfl | ⟨next, rfl⟩ <;> simp [workStages] at hwork
  idle hidle := by
    rcases hstage with rfl | rfl | ⟨next, rfl⟩ <;> simp at hidle
  last hlast := by
    rcases hstage with rfl | rfl | ⟨next, rfl⟩ <;> cases hlast
  draining hdrain := by
    rcases hstage with rfl | rfl | ⟨next, rfl⟩ <;> cases hdrain
  exits _ hcancel := hdone hcancel
  safe := by
    rcases hstage with rfl | rfl | ⟨next, rfl⟩ <;> simp

theorem inv_leave (h : Part plan r) (hordered : Ordered plan r)
    (hdone : r.cancelRequested = false → r.pending = []) : LoopInv plan (r.leave plan) := by
  unfold TaskRoot.leave
  dsimp only
  split
  · rename_i hunordered
    exact absurd hordered hunordered
  · split
    · split
      · exact inv_fail h (by decide)
      · split
        · exact inv_fail h (by decide)
        · exact inv_left h (Or.inr (Or.inr ⟨_, rfl⟩)) hdone
    · exact inv_left h (Or.inl rfl) hdone

/-- The drain of a large Run that was canceled. -/
theorem inv_drain (h : Part plan r)
    (hchoice : (r.cancelRequested && TaskRoot.partitioned plan) = true) :
    LoopInv plan (r.drain plan) := by
  unfold TaskRoot.drain
  split
  · exact inv_work h (by simp) (by simp [workStages]) (by simp) fun _ => hchoice
  · rename_i hidle
    rw [not_or, not_not, not_not] at hidle
    have hfinal : (r.cancelRequested && !TaskRoot.partitioned plan) = false := by
      rw [Bool.and_eq_true] at hchoice
      rw [hchoice.2]
      simp
    exact inv_leave h (ordered_final h hidle.2 hfinal) fun _ => hidle.2

variable (hplan : plan.units.map (·.ordinal) =
  List.range' (plan.afterOrdinal + 1) plan.units.length)
include hplan

theorem inv_close (h : Part plan r) (hfront : Front plan r)
    (hdone : r.cancelRequested = false → r.pending = []) : LoopInv plan (r.close plan) := by
  unfold TaskRoot.close
  split
  · rename_i hchoice
    exact inv_drain h hchoice
  · rename_i hchoice
    refine inv_leave h ?_ hdone
    cases hcanceled : (r.cancelRequested && !TaskRoot.partitioned plan) with
    | true => exact ordered_canceled hplan h hfront hcanceled
    | false =>
      -- neither canceled nor partitioned, so the queue is empty
      refine ordered_final h (hdone ?_) hcanceled
      cases hflag : r.cancelRequested
      · rfl
      · rw [hflag] at hchoice hcanceled
        simp_all

theorem inv_endLoop (h : Part plan r) (hfront : Front plan r)
    (hdone : r.cancelRequested = false → r.pending = [] ∧ r.unsettled = none) :
    LoopInv plan (r.endLoop plan) := by
  unfold TaskRoot.endLoop
  split
  · rename_i hflag
    have hcancel : r.cancelRequested = false := by
      cases hc : r.cancelRequested
      · rfl
      · simp [hc] at hflag
    obtain ⟨hpending, hidle⟩ := hdone hcancel
    refine ⟨h.withStage _, fun _ => hfront.withStage _, fun _ => hidle, fun _ => hpending,
      (fun hdrain => by cases hdrain), fun _ _ => hpending, by simp⟩
  · exact inv_close hplan h hfront fun hc => (hdone hc).1

theorem inv_loop (h : Part plan r) (hfront : Front plan r) : LoopInv plan (r.loop plan) := by
  unfold TaskRoot.loop
  split
  · exact inv_work h (by simp) (fun _ => hfront) (by simp) (by simp)
  · rename_i hidle
    rw [not_or, not_not, not_not] at hidle
    exact inv_endLoop hplan h hfront fun _ => hidle

/-- A `break` with the cancel flag. -/
theorem inv_cancel (h : Part plan r) (hfront : Front plan r) :
    LoopInv plan ({ r with cancelRequested := true }.endLoop plan) :=
  inv_endLoop hplan h.withCancel hfront.withCancel fun hc => by cases hc

omit hplan in
theorem batch_front {batch : List TaskUnitDispatchPayload} (hbatch : batch = r.batch) :
    r.pending.take batch.length = batch := by
  rw [hbatch, TaskRoot.batch, List.length_take, ← List.take_eq_take_min]

omit hplan in
/-- The settlement of a batch decides each of its ordinals once. -/
theorem Part.settle (h : Part plan r) {batch : List TaskUnitDispatchPayload}
    {outcomes : List TaskAttemptWorkflowPayload} {answer : TaskAttemptBatchSettlePayload}
    (hbatch : batch = r.batch) (hnames : outcomes.map (·.ordinal) = batch.map (·.ordinal))
    (hvalid : validBatchSettlement r.request outcomes answer = true)
    (hstate : answer.state = .settled) :
    Part plan { r with
      finalByOrdinal := recordOutcomes r.finalByOrdinal answer.finalOutcomes
      pending := r.pending.drop batch.length ++ answer.retryAttempts
      unsettled := none } := by
  obtain ⟨hdecided, hretries⟩ := settled_ordinals hvalid hstate
  have hqueue : r.pending.map (·.ordinal) =
      batch.map (·.ordinal) ++ (r.pending.drop batch.length).map (·.ordinal) := by
    conv_lhs => rw [← List.take_append_drop batch.length r.pending, batch_front hbatch]
    rw [List.map_append]
  -- the decisions take the place of the batch
  have hall : ((r.pending.drop batch.length).map (·.ordinal) ++
      (answer.retryAttempts.map (·.ordinal) ++ (answer.finalOutcomes.map (·.ordinal) ++
        r.finalByOrdinal.map (·.ordinal)))).Perm
      (r.pending.map (·.ordinal) ++ r.finalByOrdinal.map (·.ordinal)) := by
    rw [hqueue, ← hnames, ← List.append_assoc (answer.retryAttempts.map _), ← List.append_assoc]
    refine List.Perm.append_right _ ?_
    exact (hdecided.append_left _).trans List.perm_append_comm
  have hnodup := hall.nodup_iff.2 h.nodup
  have hnew : (answer.finalOutcomes.map (·.ordinal) ++
      r.finalByOrdinal.map (·.ordinal)).Nodup :=
    (List.nodup_append.1 (List.nodup_append.1 hnodup).2.1).2.1
  refine ⟨fun u hu => ?_, ?_, fun _ _ hnone => by cases hnone⟩
  · rcases List.mem_append.1 hu with hu | hu
    · exact h.identity u (List.mem_of_mem_drop hu)
    · exact hretries u hu
  · refine List.Perm.trans ?_ (hall.trans h.ordinals)
    rw [List.map_append, List.append_assoc]
    exact ((perm_recordOutcomes hnew).append_left _).append_left _

omit hplan in
/-- The queue still starts with the batch. -/
theorem inv_takeSettled {batch : List TaskUnitDispatchPayload}
    {answer : TaskAttemptBatchSettlePayload} {next : TaskRoot → TaskRoot}
    (hbatch : batch = r.batch)
    (hnext : LoopInv plan (next { r with
      finalByOrdinal := recordOutcomes r.finalByOrdinal answer.finalOutcomes
      pending := r.pending.drop batch.length ++ answer.retryAttempts
      unsettled := none })) :
    LoopInv plan (r.takeSettled batch answer next) := by
  unfold TaskRoot.takeSettled
  dsimp only
  split
  · rename_i hconflict
    exact absurd (batch_front hbatch) hconflict
  · exact hnext

theorem inv_control (hi : LoopInv plan r) (hstage : r.stage = .checkpoint)
    (state : TaskRunControlState) : LoopInv plan (r.control plan state) := by
  have hfront := hi.front (by simp [hstage, workStages])
  unfold TaskRoot.control
  split
  · exact inv_cancel hplan hi.part hfront
  · cases state with
    | closed => exact inv_fail hi.part (by decide)
    | paused => exact hi
    | dispatchable | canceling =>
      dsimp only
      have hnext : (if r.unsettled.isSome then RootStage.settling else .preparing) = .settling ∨
          (if r.unsettled.isSome then RootStage.settling else .preparing) = .preparing ∧
            r.unsettled = none := by
        cases r.unsettled <;> simp
      rcases hnext with hsettling | ⟨hpreparing, hidle⟩
      · rw [hsettling]
        exact inv_work hi.part (by simp) (fun _ => hfront) (by simp) (by simp)
      · rw [hpreparing]
        exact inv_work hi.part (by simp) (fun _ => hfront) (fun _ => hidle) (by simp)

theorem inv_settle (hi : LoopInv plan r) (hstage : r.stage = .settling)
    {answer : TaskAttemptBatchSettlePayload} (haccepts : r.accepts (.settled answer) = true) :
    LoopInv plan (r.settle plan answer) := by
  have hfront := hi.front (by simp [hstage, workStages])
  unfold TaskRoot.settle
  split
  · exact inv_cancel hplan hi.part hfront
  · exact inv_loop hplan hi.part hfront
  · rename_i batch outcomes hstate hunsettled
    obtain ⟨hbatch, hnames⟩ := hi.part.awaiting _ _ hunsettled
    have hvalid : validBatchSettlement r.request outcomes answer = true := by
      simpa only [TaskRoot.accepts, hstage, hunsettled] using haccepts
    have hordinals := forall₂_ordinals hnames
    have hpart := hi.part.settle hbatch hordinals hvalid hstate
    obtain ⟨i, retries, hd⟩ := hfront
    refine inv_takeSettled hbatch (inv_loop hplan hpart ?_)
    refine hd.settle hplan hi.part (by simp [hunsettled]) hbatch fun u hu => ?_
    have hmem := (settled_ordinals hvalid hstate).1.mem_iff.1
      (List.mem_append_left _ (List.mem_map_of_mem hu))
    rwa [hordinals, hbatch] at hmem
  · exact hi

omit hplan in
theorem inv_settleCanceled (hi : LoopInv plan r) (hstage : r.stage = .draining)
    {answer : TaskAttemptBatchSettlePayload} (haccepts : r.accepts (.settled answer) = true) :
    LoopInv plan (r.settleCanceled plan answer) := by
  have hchoice := hi.draining hstage
  replace haccepts : validBatchSettlement r.request r.drainOutcomes answer = true := by
    simpa only [TaskRoot.accepts, hstage] using haccepts
  unfold TaskRoot.settleCanceled
  split
  · exact inv_fail hi.part (by decide)
  · rename_i hstate
    rw [not_not] at hstate
    cases hunsettled : r.unsettled with
    | none =>
      have hordinals : r.drainOutcomes.map (·.ordinal) = r.batch.map (·.ordinal) := by
        rw [TaskRoot.drainOutcomes, hunsettled]
        dsimp only
        rw [List.map_map]
        refine List.map_congr_left fun u _ => ?_
        simp only [Function.comp_apply]
        split <;> rfl
      have hpart := hi.part.settle rfl hordinals haccepts hstate
      exact inv_takeSettled rfl (inv_drain hpart hchoice)
    | some p =>
      obtain ⟨batch, outcomes⟩ := p
      obtain ⟨hbatch, hnames⟩ := hi.part.awaiting _ _ hunsettled
      rw [TaskRoot.drainOutcomes, hunsettled] at haccepts
      have hpart := hi.part.settle hbatch (forall₂_ordinals hnames) haccepts hstate
      exact inv_takeSettled hbatch (inv_drain hpart hchoice)

theorem inv_prepare (hi : LoopInv plan r) (hstage : r.stage = .preparing)
    (status : TaskBatchPrepareStatus) : LoopInv plan (r.prepare plan status) := by
  have hfront := hi.front (by simp [hstage, workStages])
  have hidle := hi.idle (by simp [hstage])
  unfold TaskRoot.prepare
  split
  · exact inv_cancel hplan hi.part hfront
  · split
    · exact inv_loop hplan hi.part hfront
    · exact inv_work hi.part (by simp) (fun _ => hfront) (fun _ => hidle) (by simp)

theorem inv_gather (hi : LoopInv plan r) (hstage : r.stage = .children)
    {ended : List TaskAttemptWorkflowPayload}
    (hnames : List.Forall₂ (fun u o => namesDispatch u o = true) r.batch ended) :
    LoopInv plan (r.gather plan ended) := by
  obtain ⟨i, retries, hd⟩ := hi.front (by simp [hstage, workStages])
  have hidle := hi.idle (by simp [hstage])
  refine inv_loop hplan ⟨hi.part.identity, hi.part.ordinals, fun batch outcomes h => ?_⟩
    ⟨i, retries, hd.gather hplan hi.part hidle (forall₂_ordinals hnames)⟩
  obtain ⟨rfl, rfl⟩ := Prod.mk.inj (Option.some.inj h)
  exact ⟨rfl, hnames⟩

theorem inv_lastControl (hi : LoopInv plan r) (hstage : r.stage = .lastCheckpoint)
    (state : TaskRunControlState) : LoopInv plan (r.lastControl plan state) := by
  obtain ⟨i, retries, hd⟩ := hi.front (by simp [hstage, workStages])
  exact inv_close hplan ⟨hi.part.identity, hi.part.ordinals, hi.part.awaiting⟩
    ⟨i, retries, hd.queue, hd.bound, hd.behind, hd.latest⟩ fun _ => hi.last hstage

theorem inv_page (hi : LoopInv plan r) {e : RootEvent} (haccepts : r.accepts e = true) :
    LoopInv plan (r.page plan e) := by
  cases e with
  | checkpoint state =>
    unfold TaskRoot.page
    dsimp only
    split
    · exact inv_control hplan hi ‹_› state
    · exact inv_lastControl hplan hi ‹_› state
    · exact hi
  | settled answer =>
    unfold TaskRoot.page
    dsimp only
    split
    · exact inv_settle hplan hi ‹_› haccepts
    · exact inv_settleCanceled hi ‹_› haccepts
    · exact hi
  | interrupted =>
    unfold TaskRoot.page
    dsimp only
    split
    · rename_i hstage
      exact inv_loop hplan hi.part (hi.front (by simp [hstage, workStages]))
    · exact hi
  | prepared status =>
    unfold TaskRoot.page
    dsimp only
    split
    · exact inv_prepare hplan hi ‹_› status
    · exact hi
  | childrenEnded ended =>
    unfold TaskRoot.page
    dsimp only
    split
    · rename_i hstage
      have hnames := of_decide_eq_true haccepts
      exact inv_gather hplan hi hstage (hnames.resolve_left (not_not.2 hstage))
    · exact hi
  | finished =>
    unfold TaskRoot.page
    dsimp only
    split
    · rename_i hstage
      exact inv_left hi.part (Or.inr (Or.inl rfl)) (hi.exits (Or.inl hstage))
    · exact hi
  | cancel | planLoaded | refused => exact hi

end Loop

/-! ### Every run -/

/-- What holds of a run of the Root at any time. -/
structure RunInv (request : TaskRunWorkflowInput) (r : TaskRoot) : Prop where
  sameRequest : r.request = request
  unloaded : r.plan = none → (r.unsettled = none ∧ r.finalByOrdinal = [] ∧ r.latestByOrdinal = []) ∧
    r.stage ≠ .preparing ∧ r.stage ≠ .failed TaskRoot.pendingBatchConflict ∧
      r.stage ≠ .failed TaskRoot.outcomeOrderInvalid
  loaded : ∀ plan, r.plan = some plan → validDispatchPlan request plan = true →
    LoopInv plan r ∧ Exit plan r
  rejected : ∀ plan, r.plan = some plan → ¬ validDispatchPlan request plan = true →
    r.stage = .failed "TASK_ROOT_DISPATCH_PLAN_INVALID"

section Reach

variable {request : TaskRunWorkflowInput} {plan : TaskDispatchPlanPayload}

theorem plan_ordinals (h : validDispatchPlan request plan = true) :
    plan.units.map (·.ordinal) = List.range' (plan.afterOrdinal + 1) plan.units.length ∧
      ∀ u ∈ plan.units, validDispatchIdentity request u = true := by
  simp only [validDispatchPlan, decide_eq_true_eq] at h
  obtain ⟨-, -, -, -, -, -, -, -, -, -, -, -, hordinals, -, -, -, hidentity⟩ := h
  exact ⟨hordinals, List.all_eq_true.1 hidentity⟩

/-- The calls of a run: each is for a dispatch with a valid identity, and no two children were
started under one Workflow id. -/
structure CallsInv (request : TaskRunWorkflowInput) (log : ChildWorkflowLog) : Prop where
  dispatches : ∀ answered ∈ log, answered.1 = childCall answered.1.unit ∧
    validDispatchIdentity request answered.1.unit = true
  unique : ((log.filter fun answered => answered.2).map fun answered => answered.1.id).Nodup

theorem CallsInv.execute {service : WorkflowService} (hservice : RejectsDuplicates service)
    {log : ChildWorkflowLog} (h : CallsInv request log) {unit : TaskUnitDispatchPayload}
    (hunit : validDispatchIdentity request unit = true) :
    CallsInv request (executeChildWorkflow service log unit) := by
  constructor
  · intro answered hmem
    rcases List.mem_append.1 hmem with hmem | hmem
    · exact h.dispatches answered hmem
    · rw [List.mem_singleton.1 hmem]
      exact ⟨rfl, hunit⟩
  · rw [executeChildWorkflow, List.filter_append, List.map_append, List.nodup_append]
    refine ⟨h.unique, ?_, fun id hid other hother heq => ?_⟩
    · exact ((List.filter_sublist (l := [_])).map _).nodup (List.nodup_singleton _)
    · obtain ⟨answered, hanswered, rfl⟩ := List.mem_map.1 hother
      obtain ⟨hcall, hstarted⟩ := List.mem_filter.1 hanswered
      rw [List.mem_singleton.1 hcall] at hstarted heq
      obtain ⟨⟨earlier, started⟩, hearlier, rfl⟩ := List.mem_map.1 hid
      obtain ⟨hlog, rfl : started = true⟩ := List.mem_filter.1 hearlier
      -- the service has started a child under this id already
      exact absurd hstarted (by
        rw [hservice log (childCall unit) rfl ⟨earlier, hlog, heq⟩]
        exact Bool.false_ne_true)

theorem CallsInv.executeAll {service : WorkflowService} (hservice : RejectsDuplicates service)
    {log : ChildWorkflowLog} (h : CallsInv request log) {batch : List TaskUnitDispatchPayload}
    (hbatch : ∀ unit ∈ batch, validDispatchIdentity request unit = true) :
    CallsInv request (batch.foldl (executeChildWorkflow service) log) := by
  induction batch generalizing log with
  | nil => exact h
  | cons unit batch ih =>
    exact ih (h.execute hservice (hbatch unit List.mem_cons_self)) fun u hu =>
      hbatch u (List.mem_cons_of_mem _ hu)

/-- The Workflow id determines the Attempt, so each Attempt is started at most once. -/
theorem CallsInv.attempts {x : RootExecution} (h : CallsInv request x.calls) :
    (x.started.map (·.unitAttemptId)).Nodup := by
  have hids : (x.started.map (·.unitAttemptWorkflowId)).Nodup := by
    have heq : x.started.map (·.unitAttemptWorkflowId) =
        (x.calls.filter fun answered => answered.2).map fun answered => answered.1.id := by
      rw [RootExecution.started, List.map_map]
      refine List.map_congr_left fun answered hanswered => ?_
      rw [(h.dispatches answered (List.mem_filter.1 hanswered).1).1]
      rfl
    exact heq ▸ h.unique
  have hvalid : ∀ s ∈ x.started, validDispatchIdentity request s = true := by
    intro s hs
    obtain ⟨answered, hanswered, rfl⟩ := List.mem_map.1 hs
    exact (h.dispatches answered (List.mem_filter.1 hanswered).1).2
  refine Paging.nodup_map_of_determines hids fun s hs t ht heq => ?_
  have hsid := hvalid s hs
  have htid := hvalid t ht
  simp only [validDispatchIdentity, decide_eq_true_eq] at hsid htid
  rw [hsid.2.1, htid.2.1, heq]

/-- The plan arrives: all of its Units are pending. -/
theorem inv_load {r : TaskRoot} (hvalid : validDispatchPlan r.request plan = true)
    (hnew : r.unsettled = none ∧ r.finalByOrdinal = [] ∧ r.latestByOrdinal = []) :
    LoopInv plan (r.load plan) := by
  obtain ⟨hplan, hidentity⟩ := plan_ordinals hvalid
  unfold TaskRoot.load
  dsimp only
  rw [if_pos hvalid]
  refine inv_loop hplan ⟨hidentity, ?_, fun batch outcomes h => ?_⟩
    ⟨0, [], by simp, Nat.zero_le _, fun u hu => by simp at hu, fun k => ?_⟩
  · show (plan.units.map (·.ordinal) ++ r.finalByOrdinal.map (·.ordinal)).Perm _
    rw [hnew.2.1, hplan]
    simp
  · rw [show r.unsettled = some (batch, outcomes) from h] at hnew
    cases hnew.1
  · show k ∈ r.latestByOrdinal.map (·.ordinal) ↔ _ ∧ _ ≤ _ + if r.unsettled = none then 0 else _
    rw [hnew.2.2, hnew.1]
    simp

theorem runInv_start (early : Bool) : RunInv request (TaskRoot.start request early) where
  sameRequest := rfl
  unloaded _ := by
    refine ⟨⟨rfl, rfl, rfl⟩, ?_⟩
    unfold TaskRoot.start
    dsimp only
    split
    · simp
    · exact ⟨by simp, by decide⟩
  loaded _ h := by cases h
  rejected _ h := by cases h

theorem LoopInv.withCancel {r : TaskRoot} (h : LoopInv plan r) :
    LoopInv plan { r with cancelRequested := true } where
  part := h.part.withCancel
  front hstage := (h.front hstage).withCancel
  idle := h.idle
  last := h.last
  draining hstage := by
    have hchoice := h.draining hstage
    rw [Bool.and_eq_true] at hchoice ⊢
    exact ⟨rfl, hchoice.2⟩
  exits _ hcancel := by cases hcancel
  safe := h.safe

/-- A move of a run that has a valid plan. -/
theorem RunInv.move {r r' : TaskRoot} (hi : RunInv request r) (hplan : r.plan = some plan)
    (hvalid : validDispatchPlan request plan = true) (hrequest : r'.request = r.request)
    (hkeep : r'.plan = r.plan) (h : LoopInv plan r' ∧ Exit plan r') : RunInv request r' where
  sameRequest := hrequest.trans hi.sameRequest
  unloaded hnone := by
    rw [hkeep, hplan] at hnone
    cases hnone
  loaded p hp _ := by
    rw [hkeep, hplan, Option.some.injEq] at hp
    exact hp ▸ h
  rejected p hp hinvalid := by
    rw [hkeep, hplan, Option.some.injEq] at hp
    exact absurd (hp ▸ hvalid) hinvalid

theorem RunInv.load {r : TaskRoot} (hi : RunInv request r) (hnone : r.plan = none) :
    RunInv request (r.load plan) := by
  obtain ⟨hnew, -⟩ := hi.unloaded hnone
  by_cases hvalid : validDispatchPlan r.request plan = true
  · have honward := onward_loop (r := { r with
      plan := some plan
      cancelRequested := r.cancelRequested || plan.cancelRequested
      pending := plan.units }) hvalid
    have hloop := inv_load hvalid hnew
    have hload : r.load plan = { r with
        plan := some plan
        cancelRequested := r.cancelRequested || plan.cancelRequested
        pending := plan.units }.loop plan := if_pos hvalid
    have hplan : (r.load plan).plan = some plan := by
      rw [hload]
      exact honward.samePlan
    refine ⟨?_, fun h => ?_, fun p hp _ => ?_, fun p hp hinvalid => ?_⟩
    · rw [hload]
      exact honward.sameRequest.trans hi.sameRequest
    · rw [hplan] at h
      cases h
    · rw [hplan, Option.some.injEq] at hp
      rw [hload] at hloop ⊢
      exact hp ▸ ⟨hloop, honward.exit⟩
    · rw [hplan, Option.some.injEq] at hp
      rw [← hi.sameRequest, ← hp] at hinvalid
      exact absurd hvalid hinvalid
  · have hload : r.load plan = ({ r with plan := some plan } : TaskRoot).fail
        "TASK_ROOT_DISPATCH_PLAN_INVALID" := if_neg hvalid
    rw [hload]
    refine ⟨hi.sameRequest, (fun h => by cases h), fun p hp hp' => ?_, fun _ _ _ => rfl⟩
    rw [← hi.sameRequest, ← (Option.some.inj hp : plan = p)] at hp'
    exact absurd hp' hvalid

theorem RunInv.step {r : TaskRoot} {e : RootEvent} (hi : RunInv request r)
    (haccepts : r.accepts e = true) : RunInv request (r.step e) := by
  unfold TaskRoot.step
  split
  · exact hi
  · rename_i hgoing
    rcases Option.eq_none_or_eq_some r.plan with hnone | ⟨plan, hplan⟩
    · obtain ⟨hnew, hstage⟩ := hi.unloaded hnone
      have hno : ∀ p, r.plan ≠ some p := fun p hp => by rw [hnone] at hp; cases hp
      cases e with
      | cancel =>
        exact ⟨hi.sameRequest, fun _ => ⟨hnew, hstage⟩, fun p hp => absurd hp (hno p),
          fun p hp => absurd hp (hno p)⟩
      | refused code =>
        have hcode := of_decide_eq_true haccepts
        exact ⟨hi.sameRequest, fun _ => ⟨hnew, by simpa [TaskRoot.fail] using hcode⟩,
          fun p hp => absurd hp (hno p), fun p hp => absurd hp (hno p)⟩
      | planLoaded plan =>
        simp only [hnone]
        exact hi.load hnone
      | checkpoint | settled | interrupted | prepared | childrenEnded | finished =>
        simp only [hnone]
        exact hi
    · by_cases hvalid : validDispatchPlan request plan = true
      · obtain ⟨hloop, hexit⟩ := hi.loaded plan hplan hvalid
        have hordinals := (plan_ordinals hvalid).1
        cases e with
        | cancel => exact hi.move hplan hvalid rfl rfl ⟨hloop.withCancel, exit_cancel hgoing hexit⟩
        | refused code =>
          exact hi.move hplan hvalid rfl rfl
            ⟨inv_fail hloop.part (of_decide_eq_true haccepts), trivial⟩
        | planLoaded =>
          simp only [hplan]
          exact hi
        | checkpoint | settled | interrupted | prepared | childrenEnded | finished =>
          simp only [hplan]
          have hroot : validDispatchPlan r.request plan = true := hi.sameRequest ▸ hvalid
          exact hi.move hplan hvalid (onward_page hroot _ hexit).sameRequest
            (onward_page hroot _ hexit).samePlan
            ⟨inv_page hordinals hloop haccepts, (onward_page hroot _ hexit).exit⟩
      · have hstage := hi.rejected plan hplan hvalid
        rw [TaskRoot.ended, hstage] at hgoing
        exact absurd rfl hgoing

theorem calls_step {service : WorkflowService} (hservice : RejectsDuplicates service)
    {x : RootExecution} {e : RootEvent} (hi : RunInv request x.root)
    (h : CallsInv request x.calls) : CallsInv request (x.step service e).calls := by
  unfold RootExecution.step
  dsimp only
  split
  · rename_i hstart
    refine h.executeAll hservice fun unit hunit => ?_
    have hpending := List.mem_of_mem_take hunit
    rcases Option.eq_none_or_eq_some x.root.plan with hnone | ⟨plan, hplan⟩
    · exact absurd hstart.1 (hi.unloaded hnone).2.1
    · by_cases hvalid : validDispatchPlan request plan = true
      · exact hi.sameRequest ▸ (hi.loaded plan hplan hvalid).1.part.identity unit hpending
      · have hstage := hi.rejected plan hplan hvalid
        rw [hstart.1] at hstage
        cases hstage
  · exact h

theorem reaches_inv {service : WorkflowService} (hservice : RejectsDuplicates service)
    {early : Bool} {x : RootExecution} (h : RootReaches service request early x) :
    RunInv request x.root ∧ CallsInv request x.calls := by
  induction h with
  | start => exact ⟨runInv_start early, fun _ hmem => absurd hmem List.not_mem_nil, List.nodup_nil⟩
  | step _ haccepts ih => exact ⟨ih.1.step haccepts, calls_step hservice ih.1 ih.2⟩

/-- The loop of the Root conserves its page: no Attempt is started twice, each ordinal is final
or pending, what awaits its settlement is at the front of the queue, and a run that leaves the
page without a cancel has one final outcome for each ordinal. -/
theorem root_loop_conserves {service : WorkflowService} (hservice : RejectsDuplicates service)
    {early : Bool} {x : RootExecution} (h : RootReaches service request early x) :
    (x.started.map (·.unitAttemptId)).Nodup ∧
      (x.root.stage ≠ .failed TaskRoot.pendingBatchConflict ∧
        x.root.stage ≠ .failed TaskRoot.outcomeOrderInvalid) ∧
      ∀ plan, x.root.plan = some plan → validDispatchPlan request plan = true →
        (x.root.pending.map (·.ordinal) ++ x.root.finalByOrdinal.map (·.ordinal)).Perm
          (List.range' (plan.afterOrdinal + 1) plan.units.length) ∧
        (∀ batch outcomes, x.root.unsettled = some (batch, outcomes) →
          batch <+: x.root.pending ∧ outcomes.map (·.ordinal) = batch.map (·.ordinal)) ∧
        (Left x.root.stage → x.root.cancelRequested = false →
          (x.root.finalByOrdinal.map (·.ordinal)).Perm
            (List.range' (plan.afterOrdinal + 1) plan.units.length)) := by
  obtain ⟨hi, hcalls⟩ := reaches_inv hservice h
  refine ⟨hcalls.attempts, ?_, fun plan hplan hvalid => ?_⟩
  · rcases Option.eq_none_or_eq_some x.root.plan with hnone | ⟨plan, hplan⟩
    · exact (hi.unloaded hnone).2.2
    · by_cases hvalid : validDispatchPlan request plan = true
      · exact (hi.loaded plan hplan hvalid).1.safe
      · rw [hi.rejected plan hplan hvalid]
        exact ⟨by simp [TaskRoot.pendingBatchConflict], by simp [TaskRoot.outcomeOrderInvalid]⟩
  · obtain ⟨hloop, -⟩ := hi.loaded plan hplan hvalid
    refine ⟨hloop.part.ordinals, fun batch outcomes hunsettled => ?_, fun hleft hcancel => ?_⟩
    · obtain ⟨rfl, hnames⟩ := hloop.part.awaiting batch outcomes hunsettled
      exact ⟨List.take_prefix _ _, forall₂_ordinals hnames⟩
    · have hfinal := hloop.part.ordinals
      rwa [hloop.exits hleft hcancel, List.map_nil, List.nil_append] at hfinal

end Reach

/-! ### A page with a retry -/

theorem reaches_foldl {service : WorkflowService} {request : TaskRunWorkflowInput} {early : Bool}
    {x : RootExecution} (h : RootReaches service request early x) {events : List RootEvent}
    (haccepts : x.acceptsAll service events = true) :
    RootReaches service request early (events.foldl (RootExecution.step service) x) := by
  induction events generalizing x with
  | nil => exact h
  | cons e events ih =>
    rw [RootExecution.acceptsAll, Bool.and_eq_true] at haccepts
    exact ih (.step h haccepts.1) haccepts.2

/-- A service without other clients. -/
def newIdsOnly : WorkflowService := fun log call =>
  !log.any fun answered => answered.2 && answered.1.id = call.id

theorem newIdsOnly_rejects : RejectsDuplicates newIdsOnly := by
  rintro log call - ⟨earlier, hmem, hid⟩
  have hany : (log.any fun answered => answered.2 && answered.1.id = call.id) = true :=
    List.any_eq_true.2 ⟨_, hmem, by simp [hid]⟩
  rw [newIdsOnly, hany]
  rfl

def retryRequest : TaskRunWorkflowInput := ⟨1, 10, 100, 6, 5, 0, false⟩

def dispatchAt (ordinal attemptId : ℕ) : TaskUnitDispatchPayload :=
  ⟨ordinal, 10 + ordinal, attemptId, unitAttemptWorkflowId 1 attemptId, 10, 20, 5⟩

def outcomeAt (ordinal attemptId : ℕ) (status : AttemptStatus) : TaskAttemptWorkflowPayload :=
  ⟨10 + ordinal, attemptId, ordinal, status, none, none, none, none⟩

def retryPlan : TaskDispatchPlanPayload :=
  ⟨1, 10, 100, 6, 5, [dispatchAt 1 21, dispatchAt 2 22], false, 0, some 2, false⟩

/-- The first Unit fails on its infrastructure and is retried as the given Attempt. -/
def retryEvents (retry : ℕ) (status : AttemptStatus) : List RootEvent :=
  [.planLoaded retryPlan, .checkpoint .dispatchable, .prepared .authorized,
    .childrenEnded [outcomeAt 1 21 .infraError, outcomeAt 2 22 .passed],
    .checkpoint .dispatchable,
    .settled ⟨.settled, [dispatchAt 1 retry], [outcomeAt 2 22 .passed]⟩,
    .checkpoint .dispatchable, .prepared .authorized, .childrenEnded [outcomeAt 1 retry status],
    .checkpoint .paused, .checkpoint .dispatchable,
    .settled ⟨.settled, [], [outcomeAt 1 retry status]⟩, .checkpoint .dispatchable, .finished]

def retryRun (retry : ℕ) (status : AttemptStatus) : RootExecution :=
  (retryEvents retry status).foldl (RootExecution.step newIdsOnly)
    ⟨TaskRoot.start retryRequest false, []⟩

/-- A settlement that names the first Attempt again passes its validator; its second start is
rejected, and that child has failed. -/
theorem retried_page_conserved :
    ((retryRun 31 .passed).started.map (·.unitAttemptId)).Nodup ∧
      ((retryRun 31 .passed).root.finalByOrdinal.map (·.ordinal)).Perm (List.range' 1 2) ∧
      ((retryRun 21 .inconclusive).started.map (·.unitAttemptId)).Nodup ∧
      (retryRun 21 .inconclusive).calls.map (·.2) = [true, true, false] ∧
      ((retryRun 21 .inconclusive).root.finalByOrdinal.map (·.ordinal)).Perm
        (List.range' 1 2) := by
  have hnew : RootReaches newIdsOnly retryRequest false (retryRun 31 .passed) :=
    reaches_foldl .start (by decide)
  have hagain : RootReaches newIdsOnly retryRequest false (retryRun 21 .inconclusive) :=
    reaches_foldl .start (by decide)
  have hloop := root_loop_conserves newIdsOnly_rejects hnew
  have hloopAgain := root_loop_conserves newIdsOnly_rejects hagain
  exact ⟨hloop.1,
    (hloop.2.2 retryPlan (by decide) (by decide)).2.2 (Or.inr (Or.inl (by decide))) (by decide),
    hloopAgain.1, by decide,
    (hloopAgain.2.2 retryPlan (by decide) (by decide)).2.2 (Or.inr (Or.inl (by decide)))
      (by decide)⟩

end Atlas.Proofs.RootLoop
