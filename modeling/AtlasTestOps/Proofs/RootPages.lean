import AtlasTestOps.Proofs.DispatchPages
import AtlasTestOps.Proofs.Materialization

/-! The chain of runs of the Root. One step of a run keeps its request and its plan and never
takes a cancel back; a run that ends well leaves the cursor right behind its page. -/

namespace Atlas.Proofs.RootPages

open Atlas Atlas.Task Atlas.Store Atlas.Service Atlas.Orchestration Atlas.Proofs.DispatchPages Txn

/-! One run. -/

/-- How a run leaves its page: it continues behind it while Units are left, and only then. -/
def Exit (plan : TaskDispatchPlanPayload) (r : TaskRoot) : Prop :=
  match r.stage with
  | .continued next =>
    plan.hasMore = true ∧
      next = { r.request with
        dispatchAfterOrdinal := plan.lastOrdinal
        continuationCancelRequested := r.cancelRequested }
  | .finishing | .finished => plan.hasMore = false
  | _ => True

/-- What every move of a run that has its plan keeps. -/
structure Onward (plan : TaskDispatchPlanPayload) (r r' : TaskRoot) : Prop where
  sameRequest : r'.request = r.request
  samePlan : r'.plan = r.plan
  keepsCancel : r.cancelRequested = true → r'.cancelRequested = true
  exit : Exit plan r'

section Moves

variable {plan : TaskDispatchPlanPayload} {r s r' : TaskRoot}

theorem Onward.of_update (h : Onward plan s r') (hrequest : s.request = r.request)
    (hplan : s.plan = r.plan) (hcancel : r.cancelRequested = true → s.cancelRequested = true) :
    Onward plan r r' :=
  ⟨h.sameRequest.trans hrequest, h.samePlan.trans hplan, fun hc => h.keepsCancel (hcancel hc), h.exit⟩

theorem Onward.same (h : Exit plan r) : Onward plan r r := ⟨rfl, rfl, id, h⟩

theorem onward_fail (errorCode : String) : Onward plan r (r.fail errorCode) :=
  ⟨rfl, rfl, id, trivial⟩

/-- A cancel changes nothing of a run that is still going. -/
theorem exit_cancel (hgoing : ¬ r.ended = true)
    (hexit : Exit plan r) : Exit plan { r with cancelRequested := true } := by
  unfold Exit at hexit ⊢
  dsimp only
  split <;> rename_i hstage
  · simp [TaskRoot.ended, hstage] at hgoing
  · rwa [hstage] at hexit
  · rwa [hstage] at hexit
  · trivial

/-- The last Unit of a valid page carries the last ordinal of it. -/
theorem getLast_ordinal {request : TaskRunWorkflowInput} {last : TaskUnitDispatchPayload}
    (hvalid : validDispatchPlan request plan = true) (h : plan.units.getLast? = some last) :
    last.ordinal = plan.lastOrdinal := by
  simp only [validDispatchPlan, decide_eq_true_eq] at hvalid
  obtain ⟨-, -, -, -, -, -, hne, -, -, -, -, -, hordinals, -⟩ := hvalid
  have hlast := congrArg List.getLast? hordinals
  rw [List.getLast?_map, h, List.getLast?_range', if_neg (by omega), Option.map_some,
    Option.some.injEq] at hlast
  rw [hlast, TaskDispatchPlanPayload.lastOrdinal]
  omega

variable (hvalid : validDispatchPlan r.request plan = true)
include hvalid

theorem onward_leave : Onward plan r (r.leave plan) := by
  unfold TaskRoot.leave
  dsimp only
  split
  · exact onward_fail _
  · split
    · rename_i hmore
      split
      · exact onward_fail _
      · split
        · exact onward_fail _
        · rename_i last hlast
          refine ⟨rfl, rfl, id, hmore, ?_⟩
          rw [getLast_ordinal hvalid hlast]
    · rename_i hmore
      exact ⟨rfl, rfl, id, Bool.eq_false_of_not_eq_true hmore⟩

theorem onward_drain : Onward plan r (r.drain plan) := by
  unfold TaskRoot.drain
  split
  · exact ⟨rfl, rfl, id, trivial⟩
  · exact onward_leave hvalid

theorem onward_close : Onward plan r (r.close plan) := by
  unfold TaskRoot.close
  split
  · exact onward_drain hvalid
  · exact onward_leave hvalid

theorem onward_endLoop : Onward plan r (r.endLoop plan) := by
  unfold TaskRoot.endLoop
  split
  · exact ⟨rfl, rfl, id, trivial⟩
  · exact onward_close hvalid

theorem onward_loop : Onward plan r (r.loop plan) := by
  unfold TaskRoot.loop
  split
  · exact ⟨rfl, rfl, id, trivial⟩
  · exact onward_endLoop hvalid

/-- A `break` with the cancel flag. -/
theorem onward_cancel : Onward plan r ({ r with cancelRequested := true }.endLoop plan) :=
  (onward_endLoop (r := { r with cancelRequested := true }) hvalid).of_update rfl rfl fun _ => rfl

theorem onward_control (state : TaskRunControlState) (hexit : Exit plan r) :
    Onward plan r (r.control plan state) := by
  unfold TaskRoot.control
  split
  · exact onward_cancel hvalid
  · cases state with
    | closed => exact onward_fail _
    | paused => exact .same hexit
    | dispatchable | canceling =>
      refine ⟨rfl, rfl, id, ?_⟩
      cases r.unsettled <;> trivial

theorem onward_takeSettled {batch : List TaskUnitDispatchPayload}
    {answer : TaskAttemptBatchSettlePayload} {next : TaskRoot → TaskRoot}
    (hnext : ∀ s : TaskRoot, validDispatchPlan s.request plan = true → Onward plan s (next s)) :
    Onward plan r (r.takeSettled batch answer next) := by
  unfold TaskRoot.takeSettled
  dsimp only
  split
  · exact (onward_fail _).of_update rfl rfl id
  · refine Onward.of_update (hnext _ ?_) rfl rfl id
    exact hvalid

theorem onward_settle (answer : TaskAttemptBatchSettlePayload) (hexit : Exit plan r) :
    Onward plan r (r.settle plan answer) := by
  unfold TaskRoot.settle
  split
  · exact onward_cancel hvalid
  · exact onward_loop hvalid
  · exact onward_takeSettled hvalid fun s hs => onward_loop hs
  · exact .same hexit

theorem onward_settleCanceled (answer : TaskAttemptBatchSettlePayload) :
    Onward plan r (r.settleCanceled plan answer) := by
  unfold TaskRoot.settleCanceled
  split
  · exact onward_fail _
  · exact onward_takeSettled hvalid fun s hs => onward_drain hs

theorem onward_prepare (status : TaskBatchPrepareStatus) :
    Onward plan r (r.prepare plan status) := by
  unfold TaskRoot.prepare
  split
  · exact onward_cancel hvalid
  · split
    · exact onward_loop hvalid
    · exact ⟨rfl, rfl, id, trivial⟩

theorem onward_gather (ended : List TaskAttemptWorkflowPayload) :
    Onward plan r (r.gather plan ended) :=
  (onward_loop (r := { r with
      latestByOrdinal := recordOutcomes r.latestByOrdinal ended
      unsettled := some (r.batch, ended) }) hvalid).of_update rfl rfl id

theorem onward_lastControl (state : TaskRunControlState) :
    Onward plan r (r.lastControl plan state) :=
  (onward_close (r := { r with
      cancelRequested := r.cancelRequested ||
        decide (state = TaskRunControlState.canceling) }) hvalid).of_update rfl rfl fun h => by
    simp [h]

theorem onward_page (e : RootEvent) (hexit : Exit plan r) : Onward plan r (r.page plan e) := by
  cases e with
  | checkpoint state =>
    unfold TaskRoot.page
    dsimp only
    split
    · exact onward_control hvalid state hexit
    · exact onward_lastControl hvalid state
    · exact .same hexit
  | settled answer =>
    unfold TaskRoot.page
    dsimp only
    split
    · exact onward_settle hvalid answer hexit
    · exact onward_settleCanceled hvalid answer
    · exact .same hexit
  | interrupted =>
    unfold TaskRoot.page
    dsimp only
    split
    · exact onward_loop hvalid
    · exact .same hexit
  | prepared status =>
    unfold TaskRoot.page
    dsimp only
    split
    · exact onward_prepare hvalid status
    · exact .same hexit
  | childrenEnded ended =>
    unfold TaskRoot.page
    dsimp only
    split
    · exact onward_gather hvalid ended
    · exact .same hexit
  | finished =>
    unfold TaskRoot.page
    dsimp only
    split
    · rename_i hstage
      rw [Exit, hstage] at hexit
      exact ⟨rfl, rfl, id, hexit⟩
    · exact .same hexit
  | cancel | planLoaded | refused => exact .same hexit

end Moves

section Run

variable {Answers : TaskRunWorkflowInput → TaskDispatchPlanPayload → Prop}
  {request : TaskRunWorkflowInput}

/-- What holds of a run at any time. -/
structure PageInv (Answers : TaskRunWorkflowInput → TaskDispatchPlanPayload → Prop)
    (request : TaskRunWorkflowInput) (r : TaskRoot) : Prop where
  sameRequest : r.request = request
  keepsCancel : request.continuationCancelRequested = true → r.cancelRequested = true
  loaded : ∀ plan, r.plan = some plan → Answers request plan ∧ Exit plan r
  unloaded : r.plan = none → r.stage = .loading ∨ ∃ errorCode, r.stage = .failed errorCode

theorem pageInv_start (early : Bool) : PageInv Answers request (TaskRoot.start request early) where
  sameRequest := rfl
  keepsCancel h := by simp [TaskRoot.start, h]
  loaded _ h := by cases h
  unloaded _ := by
    unfold TaskRoot.start
    dsimp only
    split
    · exact Or.inl rfl
    · exact Or.inr ⟨_, rfl⟩

theorem PageInv.onward {r r' : TaskRoot} {plan : TaskDispatchPlanPayload}
    (hi : PageInv Answers request r) (hplan : r.plan = some plan) (h : Onward plan r r') :
    PageInv Answers request r' where
  sameRequest := h.sameRequest.trans hi.sameRequest
  keepsCancel hc := h.keepsCancel (hi.keepsCancel hc)
  loaded p hp := by
    rw [h.samePlan, hplan, Option.some.injEq] at hp
    exact hp ▸ ⟨(hi.loaded plan hplan).1, h.exit⟩
  unloaded hp := by
    rw [h.samePlan, hplan] at hp
    cases hp

variable (hanswers : ∀ plan, Answers request plan → validDispatchPlan request plan = true)
include hanswers

/-- The plan arrives in a run that has none. -/
theorem PageInv.load {r : TaskRoot} {plan : TaskDispatchPlanPayload}
    (hi : PageInv Answers request r) (hplan : Answers request plan) :
    PageInv Answers request (r.load plan) := by
  have hvalid : validDispatchPlan r.request plan = true := hi.sameRequest ▸ hanswers plan hplan
  have honward := onward_loop (r := { r with
    plan := some plan
    cancelRequested := r.cancelRequested || plan.cancelRequested
    pending := plan.units }) hvalid
  unfold TaskRoot.load
  dsimp only
  rw [if_pos hvalid]
  refine ⟨honward.sameRequest.trans hi.sameRequest, fun hc => honward.keepsCancel ?_,
    fun p hp => ?_, fun hp => ?_⟩
  · simp [hi.keepsCancel hc]
  · rw [honward.samePlan, Option.some.injEq] at hp
    exact hp ▸ ⟨hplan, honward.exit⟩
  · rw [honward.samePlan] at hp
    cases hp

theorem PageInv.step {r : TaskRoot} {e : RootEvent} (hi : PageInv Answers request r)
    (he : ∀ plan, e = .planLoaded plan → Answers request plan) :
    PageInv Answers request (r.step e) := by
  unfold TaskRoot.step
  split
  · exact hi
  · rename_i hgoing
    rcases Option.eq_none_or_eq_some r.plan with hplan | ⟨plan, hplan⟩
    · have hnone : ∀ p, r.plan ≠ some p := fun p hp => by rw [hplan] at hp; cases hp
      cases e with
      | cancel =>
        exact ⟨hi.sameRequest, fun _ => rfl, fun p hp => absurd hp (hnone p), hi.unloaded⟩
      | refused code =>
        exact ⟨hi.sameRequest, hi.keepsCancel, fun p hp => absurd hp (hnone p),
          fun _ => Or.inr ⟨_, rfl⟩⟩
      | planLoaded plan =>
        simp only [hplan]
        exact hi.load hanswers (he plan rfl)
      | checkpoint | settled | interrupted | prepared | childrenEnded | finished =>
        simp only [hplan]
        exact hi
    · have hvalid : validDispatchPlan r.request plan = true :=
        hi.sameRequest ▸ hanswers plan (hi.loaded plan hplan).1
      have hexit := (hi.loaded plan hplan).2
      cases e with
      | cancel =>
        exact hi.onward hplan ⟨rfl, rfl, fun _ => rfl, exit_cancel hgoing hexit⟩
      | refused code => exact hi.onward hplan (onward_fail code)
      | planLoaded =>
        simp only [hplan]
        exact hi
      | checkpoint | settled | interrupted | prepared | childrenEnded | finished =>
        simp only [hplan]
        exact hi.onward hplan (onward_page hvalid _ hexit)

theorem PageInv.run {r : TaskRoot} {events : List RootEvent} (hi : PageInv Answers request r)
    (hloaded : ∀ plan, RootEvent.planLoaded plan ∈ events → Answers request plan) :
    PageInv Answers request (r.run events) := by
  induction events generalizing r with
  | nil => exact hi
  | cons e events ih =>
    refine ih (hi.step hanswers fun plan he => hloaded plan ?_)
      fun plan h => hloaded plan (List.mem_cons_of_mem _ h)
    exact he ▸ List.mem_cons_self

end Run

/-! The chain. -/

/-- The ordinals of a chain, plan by plan. -/
def dispatchedOrdinals (roots : List TaskRoot) : List ℕ :=
  (roots.filterMap (·.plan)).flatMap fun plan => plan.units.map (·.ordinal)

/-- The run has every page of the Run behind it. -/
def AtFinish (r : TaskRoot) : Prop := r.stage = .finishing ∨ r.stage = .finished

/-- The plans that `load_dispatch_plan` may return over the life of a sealed Run of `n` Units. -/
def SealedAnswers (unitRetryAttemptId : Uuid → ℕ → Uuid) (n : ℕ) (request : TaskRunWorkflowInput)
    (plan : TaskDispatchPlanPayload) : Prop :=
  ∃ db db' now, SealedRun db n ∧
    Commits (loadDispatchPlan unitRetryAttemptId request now) db plan db'

section Chain

variable {unitRetryAttemptId : Uuid → ℕ → Uuid} {n : ℕ}

/-- What a plan of the Run says of the rest of it. -/
theorem sealedAnswers_page {request : TaskRunWorkflowInput} {plan : TaskDispatchPlanPayload}
    (h : SealedAnswers unitRetryAttemptId n request plan) :
    validDispatchPlan request plan = true ∧
      plan.units.map (·.ordinal) =
        List.range' (request.dispatchAfterOrdinal + 1) (pageSize request n) ∧
      plan.lastOrdinal = request.dispatchAfterOrdinal + pageSize request n ∧
      (plan.hasMore = true ↔ request.dispatchAfterOrdinal + pageSize request n < n) := by
  obtain ⟨db, db', now, hsealed, hload⟩ := h
  obtain ⟨hvalid, htotal, hlength⟩ := plan_valid hsealed hload
  have hchecks := hvalid
  simp only [validDispatchPlan, decide_eq_true_eq] at hchecks
  obtain ⟨-, -, -, -, -, hcursor, -, -, -, -, -, hmore, hordinals, -⟩ := hchecks
  have hlast : plan.lastOrdinal = request.dispatchAfterOrdinal + pageSize request n := by
    rw [TaskDispatchPlanPayload.lastOrdinal, hcursor, hlength]
  refine ⟨hvalid, ?_, hlast, ?_⟩
  · rw [hordinals, hcursor, hlength]
  · rw [hmore, hlast, htotal, decide_eq_true_eq]

/-- A run of the chain keeps the invariant of a page. -/
theorem pageInv_run {request : TaskRunWorkflowInput} (early : Bool) {events : List RootEvent}
    (hloaded : ∀ plan, RootEvent.planLoaded plan ∈ events →
      SealedAnswers unitRetryAttemptId n request plan) :
    PageInv (SealedAnswers unitRetryAttemptId n) request
      ((TaskRoot.start request early).run events) :=
  (pageInv_start early).run (fun _ h => (sealedAnswers_page h).1) hloaded

theorem chain_plans_valid {request : TaskRunWorkflowInput} {roots : List TaskRoot}
    (h : RootChain (SealedAnswers unitRetryAttemptId n) request roots) :
    ∀ r ∈ roots, ∀ plan, r.plan = some plan → validDispatchPlan r.request plan = true := by
  induction h with
  | @last request early events hloaded =>
    intro r hr plan hplan
    obtain rfl := List.mem_singleton.1 hr
    have hi := pageInv_run early hloaded
    rw [hi.sameRequest]
    exact (sealedAnswers_page (hi.loaded plan hplan).1).1
  | @next request continued early events roots hloaded hstage _ ih =>
    intro r hr plan hplan
    rcases List.mem_cons.1 hr with rfl | hr
    · have hi := pageInv_run early hloaded
      rw [hi.sameRequest]
      exact (sealedAnswers_page (hi.loaded plan hplan).1).1
    · exact ih r hr plan hplan

/-- A run that continues had a full page with Units behind it. -/
theorem continued_page {request next : TaskRunWorkflowInput} {r : TaskRoot}
    (hi : PageInv (SealedAnswers unitRetryAttemptId n) request r)
    (hstage : r.stage = .continued next) :
    ∃ plan, r.plan = some plan ∧ plan.units.map (·.ordinal) =
        List.range' (request.dispatchAfterOrdinal + 1) taskRunDispatchPageSize ∧
      next.dispatchAfterOrdinal = request.dispatchAfterOrdinal + taskRunDispatchPageSize ∧
      next.dispatchAfterOrdinal < n ∧
      next.continuationCancelRequested = r.cancelRequested := by
  rcases Option.eq_none_or_eq_some r.plan with hplan | ⟨plan, hplan⟩
  · rcases hi.unloaded hplan with h | ⟨_, h⟩ <;> rw [hstage] at h <;> cases h
  · obtain ⟨hanswer, hexit⟩ := hi.loaded plan hplan
    obtain ⟨-, hordinals, hlast, hmore⟩ := sealedAnswers_page hanswer
    rw [Exit, hstage] at hexit
    obtain ⟨hhas, rfl⟩ := hexit
    have hleft := hmore.1 hhas
    have hfull : pageSize request n = taskRunDispatchPageSize := by
      unfold pageSize at hleft ⊢
      omega
    rw [hfull] at hordinals hlast hleft
    exact ⟨plan, hplan, hordinals, hlast, hlast ▸ hleft, rfl⟩

/-- The pages of a chain that starts behind `cursor` hold the ordinals right behind it; at the
finish they hold the rest of the Run, in as many pages as that takes. -/
theorem chain_ordinals {request : TaskRunWorkflowInput} {roots : List TaskRoot}
    (h : RootChain (SealedAnswers unitRetryAttemptId n) request roots)
    (hcursor : request.dispatchAfterOrdinal < n) :
    ∃ k, dispatchedOrdinals roots = List.range' (request.dispatchAfterOrdinal + 1) k ∧
      request.dispatchAfterOrdinal + k ≤ n ∧
      ∀ r, roots.getLast? = some r → AtFinish r →
        request.dispatchAfterOrdinal + k = n ∧
          taskRunDispatchPageSize * (roots.length - 1) < k ∧
          k ≤ taskRunDispatchPageSize * roots.length := by
  induction h with
  | @last request early events hloaded =>
    have hi := pageInv_run early hloaded
    generalize (TaskRoot.start request early).run events = r at hi ⊢
    rcases Option.eq_none_or_eq_some r.plan with hplan | ⟨plan, hplan⟩
    · refine ⟨0, by simp [dispatchedOrdinals, hplan], Nat.le_of_lt hcursor, fun s hs hfinish => ?_⟩
      obtain rfl : r = s := by simpa using hs
      rcases hi.unloaded hplan with h | ⟨_, h⟩ <;> rcases hfinish with hf | hf <;>
        rw [h] at hf <;> cases hf
    · obtain ⟨hanswer, hexit⟩ := hi.loaded plan hplan
      obtain ⟨-, hordinals, -, hmore⟩ := sealedAnswers_page hanswer
      have hsize : request.dispatchAfterOrdinal + pageSize request n ≤ n := by
        unfold pageSize
        omega
      refine ⟨pageSize request n, by simp [dispatchedOrdinals, hplan, hordinals], hsize,
        fun s hs hfinish => ?_⟩
      obtain rfl : r = s := by simpa using hs
      have hnomore : plan.hasMore = false := by
        rcases hfinish with hf | hf <;> rwa [Exit, hf] at hexit
      have hlast : ¬ request.dispatchAfterOrdinal + pageSize request n < n := by
        rw [← hmore, hnomore]
        exact Bool.false_ne_true
      unfold pageSize at hsize hlast ⊢
      simp only [List.length_singleton, taskRunDispatchPageSize] at *
      omega
  | @next request continued early events roots hloaded hstage hrest ih =>
    have hi := pageInv_run early hloaded
    generalize (TaskRoot.start request early).run events = r at hi hstage ⊢
    obtain ⟨plan, hplan, hordinals, hnext, hleft, -⟩ := continued_page hi hstage
    obtain ⟨k, hk, hbound, hfinish⟩ := ih hleft
    have hne : roots ≠ [] := by
      intro hnil
      subst hnil
      cases hrest
    refine ⟨taskRunDispatchPageSize + k, ?_, by omega, fun s hs hdone => ?_⟩
    · calc dispatchedOrdinals (r :: roots)
          = plan.units.map (·.ordinal) ++ dispatchedOrdinals roots := by
            simp [dispatchedOrdinals, hplan]
        _ = List.range' (request.dispatchAfterOrdinal + 1) taskRunDispatchPageSize ++
              List.range' (request.dispatchAfterOrdinal + taskRunDispatchPageSize + 1) k := by
            rw [hordinals, hk, hnext]
        _ = _ := Paging.range'_page_append _ _ _
    · rw [List.getLast?_cons_of_ne_nil hne] at hs
      obtain ⟨hn, hlow, hhigh⟩ := hfinish s hs hdone
      have hlength := List.length_pos_of_ne_nil hne
      rw [List.length_cons]
      unfold taskRunDispatchPageSize at *
      omega

/-- A cancel that one run has seen is in force from the start of every later one. -/
theorem chain_cancel {request : TaskRunWorkflowInput} {roots : List TaskRoot}
    (h : RootChain (SealedAnswers unitRetryAttemptId n) request roots) :
    (∀ r ∈ roots, request.continuationCancelRequested = true →
      r.request.continuationCancelRequested = true ∧ r.cancelRequested = true) ∧
    roots.Pairwise fun r s => r.cancelRequested = true →
      s.request.continuationCancelRequested = true ∧ s.cancelRequested = true := by
  induction h with
  | @last request early events hloaded =>
    have hi := pageInv_run early hloaded
    refine ⟨fun r hr hc => ?_, List.pairwise_singleton _ _⟩
    obtain rfl := List.mem_singleton.1 hr
    exact ⟨(congrArg _ hi.sameRequest).trans hc, hi.keepsCancel hc⟩
  | @next request continued early events roots hloaded hstage _ ih =>
    have hi := pageInv_run early hloaded
    obtain ⟨-, -, -, -, -, hflag⟩ := continued_page hi hstage
    refine ⟨fun r hr hc => ?_, List.pairwise_cons.2 ⟨fun s hs hc => ?_, ih.2⟩⟩
    · rcases List.mem_cons.1 hr with rfl | hr
      · exact ⟨(congrArg _ hi.sameRequest).trans hc, hi.keepsCancel hc⟩
      · exact ih.1 r hr (hflag.trans (hi.keepsCancel hc))
    · exact ih.1 s hs (hflag.trans hc)

/-- Over the chain of its runs the Root dispatches every Unit of a sealed Run once and in order.
Each page of the Run is returned while the Run can be dispatched. -/
theorem dispatch_pages_exact (hn : 1 ≤ n) :
    (∀ (db : Db) (request : TaskRunWorkflowInput) (now : Instant), SealedRun db n →
      Addresses request db.run → request.dispatchAfterOrdinal < n →
      db.run.lifecycle ∈ dispatchPlanLifecycles →
      ∃ plan, Commits (loadDispatchPlan unitRetryAttemptId request now) db plan db) ∧
    ∀ (first : TaskRunWorkflowInput) (roots : List TaskRoot), first.dispatchAfterOrdinal = 0 →
      RootChain (SealedAnswers unitRetryAttemptId n) first roots →
      (∀ r ∈ roots, ∀ plan, r.plan = some plan → validDispatchPlan r.request plan = true) ∧
      (∃ k ≤ n, dispatchedOrdinals roots = List.range' 1 k) ∧
      (∀ r, roots.getLast? = some r → AtFinish r →
        dispatchedOrdinals roots = List.range' 1 n ∧
          roots.length - 1 = (n + taskRunDispatchPageSize - 1) / taskRunDispatchPageSize - 1) ∧
      roots.Pairwise fun r s => r.cancelRequested = true →
        s.request.continuationCancelRequested = true ∧ s.cancelRequested = true := by
  refine ⟨fun db request now hsealed haddr hcursor hlifecycle =>
    plan_loads hsealed haddr hcursor hlifecycle, fun first roots hfirst h => ?_⟩
  obtain ⟨k, hk, hbound, hfinish⟩ := chain_ordinals h (hfirst ▸ hn)
  rw [hfirst, Nat.zero_add] at hk hbound
  refine ⟨chain_plans_valid h, ⟨k, hbound, hk⟩, fun r hr hdone => ?_, (chain_cancel h).2⟩
  obtain ⟨hn', hlow, hhigh⟩ := hfinish r hr hdone
  rw [hfirst, Nat.zero_add] at hn'
  refine ⟨hn' ▸ hk, ?_⟩
  unfold taskRunDispatchPageSize at *
  omega

end Chain

/-! ### The Run of 65 Units -/

open Atlas.Proofs.Materialization (largeRun largeManifest largeSealed)

/-- The sealed Run after the first of its Attempts was closed and is retried. -/
def largeDb : Db where
  run := { largeSealed.runs.headD largeRun with lifecycle := .running }
  manifest := largeManifest
  units := largeSealed.units
  attempts := largeSealed.attempts.take 1 |>.flatMap (fun a =>
      [{ a with lifecycle := .closed, quality := .infraError },
        { a with id := 1000, attemptNumber := 2 }]) |>.append (largeSealed.attempts.drop 1)
  events := []
  commands := []
  tickets := []
  seals := []
  refs := []
  closures := []
  incidents := []
  resolutions := []
  hygieneResolutions := []
  snapshots := []
  reevaluationCommands := []
  idempotency := []
  clusters := []
  classifications := []
  nextId := 2000

def largeRequest (cursor : ℕ) : TaskRunWorkflowInput := ⟨1, 10, 100, 6, 5, cursor, false⟩

theorem largeDb_sealed : SealedRun largeDb 65 where
  bound := by decide
  materialized := by decide
  unitCount := by decide
  firstAttemptCount := by decide
  manifest := by decide
  workflow := by decide
  unitIds := by decide
  attemptIds := by decide
  ordinals := by decide
  joined := by decide
  scopes := by decide
  hosts := by decide
  deadlines := by decide

/-- The plan behind the cursor. -/
def largePlan (cursor : ℕ) : TaskDispatchPlanPayload :=
  match loadDispatchPlan (fun _ _ => 0) (largeRequest cursor) 20 largeDb with
  | .ok (plan, _) => plan
  | .error _ => ⟨0, 0, 0, 0, 0, [], false, 0, none, false⟩

def passedOutcome (unit : TaskUnitDispatchPayload) : TaskAttemptWorkflowPayload :=
  ⟨unit.executionUnitId, unit.unitAttemptId, unit.ordinal, .passed, none, none, none, none⟩

/-- A batch is checked, prepared, run, checked again and settled. -/
def batchEvents (batch : List TaskUnitDispatchPayload) : List RootEvent :=
  [.checkpoint .dispatchable, .prepared .authorized, .childrenEnded (batch.map passedOutcome),
    .checkpoint .dispatchable, .settled ⟨.settled, [], batch.map passedOutcome⟩]

def pageEvents (cursor : ℕ) : List RootEvent :=
  .planLoaded (largePlan cursor) ::
    (List.range 8).flatMap (fun i =>
      batchEvents (((largePlan cursor).units.drop (8 * i)).take taskRunChildBatchSize)) ++
    [.checkpoint .dispatchable]

def largeRuns : List TaskRoot :=
  [(TaskRoot.start (largeRequest 0) false).run (pageEvents 0),
    (TaskRoot.start (largeRequest 64) false).run (pageEvents 64)]

theorem largePlan_answers (cursor : ℕ) (h : cursor = 0 ∨ cursor = 64) :
    SealedAnswers (fun _ _ => 0) 65 (largeRequest cursor) (largePlan cursor) := by
  refine ⟨largeDb, largeDb, 20, largeDb_sealed, ?_⟩
  rcases h with rfl | rfl
  · unfold Commits
    decide +kernel
  · unfold Commits
    decide +kernel

theorem pageEvents_loaded {cursor : ℕ} {plan : TaskDispatchPlanPayload}
    (h : RootEvent.planLoaded plan ∈ pageEvents cursor) : plan = largePlan cursor := by
  simpa [pageEvents, batchEvents] using h

theorem largeRuns_chain : RootChain (SealedAnswers (fun _ _ => 0) 65) (largeRequest 0) largeRuns :=
  .next (fun _ h => pageEvents_loaded h ▸ largePlan_answers 0 (Or.inl rfl))
    (by decide +kernel : _ = RootStage.continued (largeRequest 64))
    (.last fun _ h => pageEvents_loaded h ▸ largePlan_answers 64 (Or.inr rfl))

theorem large_run_dispatched :
    dispatchedOrdinals largeRuns = List.range' 1 65 ∧ largeRuns.length - 1 = 1 :=
  ((dispatch_pages_exact (by decide)).2 _ _ rfl largeRuns_chain).2.2.1 _ rfl
    (Or.inl (by decide +kernel))

end Atlas.Proofs.RootPages
