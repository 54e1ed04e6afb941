import AtlasTestOps.Service.DispatchPlan

/-! The dispatch pages of a sealed Run. Every plan that `load_dispatch_plan` returns passes the
checks of the Root, and over the chain of its runs the pages hold the ordinals of the Run, each
once and in order. -/

namespace Atlas.Proofs.DispatchPages

open Atlas Atlas.Task Atlas.Store Atlas.Service Atlas.Orchestration Txn

/-! One page. -/

/-- The rows of a sealed Run of `n` Units, as its keys, checks and guard triggers keep them:
each Unit joins one first Attempt, whose identity repeats that of the Run and of the Unit. -/
structure SealedRun (db : Db) (n : ℕ) : Prop where
  bound : 1 ≤ n ∧ n ≤ taskRunMaximumUnits
  materialized : db.run.materializationState = .sealed
  unitCount : db.run.materializedUnitCount = some n
  firstAttemptCount : db.run.materializedFirstAttemptCount = some n
  manifest : db.manifest.toRunScope = db.run.toRunScope
  workflow : db.run.temporalWorkflowId = some (taskRunWorkflowId db.run.tenantId db.run.id)
  unitIds : (db.units.map ExecutionUnit.id).Nodup
  attemptIds : (db.attempts.map (·.id)).Nodup
  ordinals : ((db.units.filter fun u => u.taskRunId = db.run.id).map (·.ordinal)).Perm
    (List.range' 1 n)
  joined : ((db.firstAttempts db.run.id).map (·.1.ordinal)).Perm (List.range' 1 n)
  scopes : ∀ p ∈ db.firstAttempts db.run.id,
    p.1.toRunScope = db.run.toRunScope ∧ p.2.toUnitScope = p.1.toUnitScope ∧
      p.2.caseVersionId = p.1.caseVersionId
  hosts : ∀ p ∈ db.firstAttempts db.run.id,
    p.2.temporalNamespace = db.run.temporalNamespace ∧ p.2.temporalNamespace ≠ none ∧
      p.2.temporalWorkflowId = some (unitAttemptWorkflowId db.run.tenantId p.2.id)
  deadlines : ∀ a ∈ db.attempts, a.queuedAt < a.executionDeadline

/-- The request names the Run and its sealed content. -/
structure Addresses (request : TaskRunWorkflowInput) (run : TaskRun) : Prop where
  tenant : request.tenantId = run.tenantId
  project : request.projectId = run.projectId
  taskRun : request.taskRunId = run.taskRunId
  digest : run.requestDigest = some request.requestDigest
  manifest : request.manifestHash = run.manifestHash

variable {unitRetryAttemptId : Uuid → ℕ → Uuid} {request : TaskRunWorkflowInput} {now : Instant}

/-- A dispatch of the page: the Unit with one of the Attempts that were read. -/
def DispatchOf (request : TaskRunWorkflowInput) (now : Instant) (attempts : List UnitAttempt)
    (unit : ExecutionUnit) (dispatch : TaskUnitDispatchPayload) : Prop :=
  ∃ attempt ∈ attempts, attempt.executionUnitId = unit.id ∧
    dispatch = unitDispatch request unit attempt now

theorem unitDispatches_commits {run : TaskRun} {attempts : List UnitAttempt} {db db' : Db} :
    ∀ {expected : ℕ} {units : List ExecutionUnit} {dispatches : List TaskUnitDispatchPayload},
      Commits (unitDispatches unitRetryAttemptId request run attempts now expected units) db
        dispatches db' →
      db' = db ∧ units.map (·.ordinal) = List.range' expected units.length ∧
        List.Forall₂ (DispatchOf request now attempts) units dispatches
  | expected, [], dispatches, h => by
    simp only [unitDispatches, commits_pure] at h
    obtain ⟨rfl, rfl⟩ := h
    exact ⟨rfl, rfl, .nil⟩
  | expected, unit :: units, dispatches, h => by
    simp only [unitDispatches, requireExactAttempt, commits_bind, commits_demand,
      commits_raiseIf, commits_pure] at h
    obtain ⟨attempt, _, ⟨hfound, rfl⟩, -, _, ⟨hexact, rfl⟩, -, _, ⟨-, rfl⟩, rest, _, hrest,
      rfl, rfl⟩ := h
    obtain ⟨rfl, hordinals, hrest⟩ := unitDispatches_commits hrest
    have hunit : attempt.executionUnitId = unit.id := by
      simpa using List.find?_some hfound
    have hordinal : unit.ordinal = expected := by
      simp only [Bool.not_eq_true', Bool.not_eq_false, exactAttempt, decide_eq_true_eq] at hexact
      exact hexact.1
    refine ⟨rfl, ?_, .cons ⟨attempt, List.mem_of_find?_eq_some hfound, hunit, rfl⟩ hrest⟩
    rw [List.map_cons, hordinals, hordinal]
    rfl

section Page

variable {attempts : List UnitAttempt} {units : List ExecutionUnit}
  {dispatches : List TaskUnitDispatchPayload}
  (h : List.Forall₂ (DispatchOf request now attempts) units dispatches)
include h

theorem dispatches_ordinals : dispatches.map (·.ordinal) = units.map (·.ordinal) := by
  induction h with
  | nil => rfl
  | cons hd _ ih =>
    obtain ⟨attempt, -, -, rfl⟩ := hd
    rw [List.map_cons, List.map_cons, ih]
    rfl

theorem dispatches_units : dispatches.map (·.executionUnitId) = units.map ExecutionUnit.id := by
  induction h with
  | nil => rfl
  | cons hd _ ih =>
    obtain ⟨attempt, -, -, rfl⟩ := hd
    rw [List.map_cons, List.map_cons, ih]
    rfl

theorem dispatch_source {d : TaskUnitDispatchPayload} (hd : d ∈ dispatches) :
    ∃ unit ∈ units, DispatchOf request now attempts unit d := by
  induction h with
  | nil => cases hd
  | cons hhead _ ih =>
    rcases List.mem_cons.1 hd with rfl | hd
    · exact ⟨_, List.mem_cons_self, hhead⟩
    · obtain ⟨unit, hunit, hof⟩ := ih hd
      exact ⟨unit, List.mem_cons_of_mem _ hunit, hof⟩

end Page

theorem activityTimeoutSeconds_bounds (deadline now : Instant) :
    1 ≤ activityTimeoutSeconds deadline now ∧
      activityTimeoutSeconds deadline now ≤ taskActivityMaximumSeconds := by
  unfold activityTimeoutSeconds
  refine ⟨le_min (by decide) (le_max_left _ _), min_le_left _ _⟩

/-- The last row of a page that starts behind `cursor`. -/
theorem getLast_any_lt {units : List ExecutionUnit} {cursor : ℕ} (total : ℕ) (hne : 1 ≤ units.length)
    (h : units.map (·.ordinal) = List.range' (cursor + 1) units.length) :
    (units.getLast?.any fun u => u.ordinal < total) = decide (cursor + units.length < total) := by
  have hlast := congrArg List.getLast? h
  rw [List.getLast?_map, List.getLast?_range', if_neg (by omega)] at hlast
  obtain ⟨u, hu, hordinal⟩ := Option.map_eq_some_iff.1 hlast
  rw [hu, Option.any_some, hordinal]
  congr 1
  apply propext
  omega

theorem mem_firstAttemptsPage {db : Db} {taskRunId : Uuid} {cursor limit : ℕ} {a : UnitAttempt}
    (h : a ∈ db.listFirstAttemptsPage taskRunId cursor limit) :
    ∃ unit, (unit, a) ∈ db.firstAttempts taskRunId := by
  obtain ⟨p, hp, rfl⟩ := List.mem_map.1 h
  exact ⟨p.1, Paging.mem_of_mem_page hp⟩

theorem mem_firstAttempts {db : Db} {taskRunId : Uuid} {p : ExecutionUnit × UnitAttempt}
    (h : p ∈ db.firstAttempts taskRunId) :
    p.1 ∈ db.units ∧ p.2 ∈ db.attempts ∧ p.1.id = p.2.executionUnitId := by
  simp only [Db.firstAttempts, List.mem_flatMap, List.mem_filter, List.mem_map,
    decide_eq_true_eq] at h
  obtain ⟨a, ⟨ha, -⟩, u, ⟨hu, hid, -⟩, rfl⟩ := h
  exact ⟨hu, ha, hid⟩

/-- The page of Units behind the cursor of the request. -/
def unitsPage (db : Db) (request : TaskRunWorkflowInput) : List ExecutionUnit :=
  db.listUnitsPage request.taskRunId request.dispatchAfterOrdinal taskRunDispatchPageSize

def attemptsPage (db : Db) (request : TaskRunWorkflowInput) : List UnitAttempt :=
  db.listFirstAttemptsPage request.taskRunId request.dispatchAfterOrdinal taskRunDispatchPageSize

def pageSize (request : TaskRunWorkflowInput) (total : ℕ) : ℕ :=
  min taskRunDispatchPageSize (total - request.dispatchAfterOrdinal)

/-- The plan that `load_dispatch_plan` makes of its dispatches. -/
def planOf (request : TaskRunWorkflowInput) (run : TaskRun) (total : ℕ)
    (dispatches : List TaskUnitDispatchPayload) : TaskDispatchPlanPayload where
  tenantId := request.tenantId
  projectId := request.projectId
  taskRunId := request.taskRunId
  requestDigest := request.requestDigest
  manifestHash := request.manifestHash
  units := dispatches
  cancelRequested := run.lifecycle = .canceling
  afterOrdinal := request.dispatchAfterOrdinal
  totalUnits := some total
  hasMore := decide (request.dispatchAfterOrdinal + dispatches.length < total)

/-- What a returned plan says of the page and of the Run. -/
theorem loadDispatchPlan_commits {db db' : Db} {plan : TaskDispatchPlanPayload}
    (h : Commits (loadDispatchPlan unitRetryAttemptId request now) db plan db') :
    ∃ total dispatches, db' = db ∧ db.run.materializedUnitCount = some total ∧
      (request.dispatchAfterOrdinal < total ∧ total ≤ taskRunMaximumUnits) ∧
      (unitsPage db request).map (·.ordinal) =
        List.range' (request.dispatchAfterOrdinal + 1) (unitsPage db request).length ∧
      (unitsPage db request).length = pageSize request total ∧
      List.Forall₂ (DispatchOf request now (attemptsPage db request)) (unitsPage db request)
        dispatches ∧
      plan = planOf request db.run total dispatches := by
  simp only [loadDispatchPlan, requireExactRoot, commits_bind, commits_read, commits_demand,
    commits_raiseIf, commits_pure] at h
  obtain ⟨_, _, ⟨rfl, rfl⟩, _, _, ⟨rfl, rfl⟩, run, _, ⟨_, _, ⟨hrun, rfl⟩, _, _, ⟨-, rfl⟩, rfl,
    rfl⟩, _, _, ⟨-, rfl⟩, _, _, ⟨-, rfl⟩, total, _, ⟨htotal, rfl⟩, _, _, ⟨hbounds, rfl⟩, _, _,
    ⟨rfl, rfl⟩, _, _, ⟨rfl, rfl⟩, _, _, ⟨hsize, rfl⟩, _, _, ⟨-, rfl⟩, dispatches, _, hloop, rfl,
    rfl⟩ := h
  obtain ⟨rfl, hordinals, hpage⟩ := unitDispatches_commits hloop
  obtain rfl : db'.run = run := by
    unfold Db.getRun at hrun
    split at hrun
    · exact Option.some.inj hrun
    · cases hrun
  rw [not_or, not_or, not_not, not_not, not_not] at hbounds
  rw [not_or, not_not, not_not] at hsize
  have hlength : (unitsPage db' request).length = pageSize request total := hsize.1
  have hne : 1 ≤ (unitsPage db' request).length := by
    rw [hlength, pageSize, taskRunDispatchPageSize]
    have := hbounds.2.2
    omega
  refine ⟨total, dispatches, rfl, htotal, ⟨hbounds.2.2, hbounds.1.2⟩, hordinals, hlength, hpage,
    ?_⟩
  have hmore := getLast_any_lt total hne hordinals
  rw [planOf, ← hpage.length_eq]
  exact congrArg _ hmore

/-- The plan of a sealed Run passes the checks of the Root. -/
theorem plan_valid {db db' : Db} {plan : TaskDispatchPlanPayload} {n : ℕ}
    (hsealed : SealedRun db n)
    (h : Commits (loadDispatchPlan unitRetryAttemptId request now) db plan db') :
    validDispatchPlan request plan = true ∧ plan.total = n ∧
      plan.units.length = pageSize request n := by
  obtain ⟨total, dispatches, rfl, htotal, ⟨hcursor, hmax⟩, hordinals, hlength, hpage, rfl⟩ :=
    loadDispatchPlan_commits h
  obtain rfl : total = n := Option.some.inj (htotal.symm.trans hsealed.unitCount)
  have hsize : dispatches.length = pageSize request total := hpage.length_eq.symm.trans hlength
  have hsource : ∀ d ∈ dispatches, ∃ unit ∈ db'.units, ∃ attempt ∈ db'.attempts,
      attempt.executionUnitId = unit.id ∧ d = unitDispatch request unit attempt now ∧
        1 ≤ unit.ordinal := by
    intro d hd
    obtain ⟨unit, hunit, attempt, hattempt, heq, rfl⟩ := dispatch_source hpage hd
    obtain ⟨joined, hjoined⟩ := mem_firstAttemptsPage hattempt
    have hordinal : unit.ordinal ∈ (unitsPage db' request).map (·.ordinal) :=
      List.mem_map_of_mem hunit
    rw [hordinals, List.mem_range'_1] at hordinal
    exact ⟨unit, List.mem_of_mem_filter (Paging.mem_of_mem_page hunit), attempt,
      (mem_firstAttempts hjoined).2.1, heq, rfl, by omega⟩
  have hunits : (dispatches.map (·.executionUnitId)).Nodup := by
    rw [dispatches_units hpage]
    exact Paging.nodup_page (hsealed.unitIds.sublist (List.filter_sublist.map _))
  have hattempts : (dispatches.map (·.unitAttemptId)).Nodup := by
    refine Paging.nodup_map_of_determines hunits fun d hd e he heq => ?_
    obtain ⟨u, -, a, ha, hau, rfl, -⟩ := hsource d hd
    obtain ⟨v, -, b, hb, hbv, rfl, -⟩ := hsource e he
    obtain rfl := List.inj_on_of_nodup_map hsealed.attemptIds ha hb heq
    exact hau.symm.trans hbv
  have hworkflows : (dispatches.map (·.unitAttemptWorkflowId)).Nodup := by
    refine Paging.nodup_map_of_determines hattempts fun d hd e he heq => ?_
    obtain ⟨u, -, a, -, -, rfl, -⟩ := hsource d hd
    obtain ⟨v, -, b, -, -, rfl, -⟩ := hsource e he
    exact (WorkflowId.attempt.inj heq).2
  have hidentities : dispatches.all (validDispatchIdentity request) = true := by
    refine List.all_eq_true.2 fun d hd => ?_
    obtain ⟨u, -, a, ha, -, rfl, hordinal⟩ := hsource d hd
    have htimeout := activityTimeoutSeconds_bounds a.executionDeadline now
    simp only [validDispatchIdentity, decide_eq_true_eq]
    exact ⟨hordinal, rfl, hsealed.deadlines a ha, htimeout.1, htimeout.2⟩
  refine ⟨?_, rfl, hsize⟩
  simp only [validDispatchPlan, decide_eq_true_eq]
  refine ⟨rfl, rfl, rfl, rfl, rfl, rfl, ?_, ?_, ?_, hmax, ?_, rfl, ?_, hunits, hattempts,
    hworkflows, hidentities⟩
  · show 1 ≤ dispatches.length
    rw [hsize, pageSize, taskRunDispatchPageSize]
    omega
  · show dispatches.length ≤ _
    rw [hsize]
    exact min_le_left _ _
  · show 1 ≤ total
    omega
  · show request.dispatchAfterOrdinal + dispatches.length ≤ total
    rw [hsize, pageSize]
    omega
  · show dispatches.map (·.ordinal) = List.range' _ dispatches.length
    rw [dispatches_ordinals hpage, hordinals, hpage.length_eq]
    rfl

/-! A page of a sealed Run is complete, so its plan is returned. -/

section Complete

instance : Std.Total fun u v : ExecutionUnit => toLex (u.ordinal, u.id) ≤ toLex (v.ordinal, v.id) :=
  ⟨fun _ _ => le_total _ _⟩

instance : IsTrans ExecutionUnit fun u v => toLex (u.ordinal, u.id) ≤ toLex (v.ordinal, v.id) :=
  ⟨fun _ _ _ => le_trans⟩

instance : Std.Total fun p q : ExecutionUnit × UnitAttempt =>
    toLex (p.1.ordinal, p.2.id) ≤ toLex (q.1.ordinal, q.2.id) :=
  ⟨fun _ _ => le_total _ _⟩

instance : IsTrans (ExecutionUnit × UnitAttempt) fun p q =>
    toLex (p.1.ordinal, p.2.id) ≤ toLex (q.1.ordinal, q.2.id) :=
  ⟨fun _ _ _ => le_trans⟩

theorem le_of_toLex_le {a b c d : ℕ} (h : toLex (a, c) ≤ toLex (b, d)) : a ≤ b := by
  rcases Prod.Lex.toLex_le_toLex.1 h with h | h
  · exact Nat.le_of_lt h
  · exact Nat.le_of_eq h.1

variable {db : Db} {n : ℕ} (hsealed : SealedRun db n) (haddr : Addresses request db.run)
include hsealed haddr

/-- Both queries read the ordinals right behind the cursor. -/
theorem unitsPage_ordinals :
    (unitsPage db request).map (·.ordinal) =
      List.range' (request.dispatchAfterOrdinal + 1) (pageSize request n) := by
  have hordinals := hsealed.ordinals
  rw [show db.run.id = request.taskRunId from haddr.taskRun.symm] at hordinals
  exact Paging.page_keys (fun _ _ => le_of_toLex_le) hordinals

/-- The joined rows that the page of first Attempts is made of. -/
def joinedPage (db : Db) (request : TaskRunWorkflowInput) : List (ExecutionUnit × UnitAttempt) :=
  Paging.page (fun p q => toLex (p.1.ordinal, p.2.id) ≤ toLex (q.1.ordinal, q.2.id))
    (·.1.ordinal) request.dispatchAfterOrdinal taskRunDispatchPageSize
    (db.firstAttempts request.taskRunId)

theorem joinedPage_ordinals :
    (joinedPage db request).map (·.1.ordinal) =
      List.range' (request.dispatchAfterOrdinal + 1) (pageSize request n) := by
  have hordinals := hsealed.joined
  rw [show db.run.id = request.taskRunId from haddr.taskRun.symm] at hordinals
  exact Paging.page_keys (fun _ _ => le_of_toLex_le) hordinals

omit hsealed in
theorem mem_joinedPage {p : ExecutionUnit × UnitAttempt} (hp : p ∈ joinedPage db request) :
    p ∈ db.firstAttempts db.run.id := by
  rw [show db.run.id = request.taskRunId from haddr.taskRun.symm]
  exact Paging.mem_of_mem_page hp

omit haddr in
/-- Two rows of the Run with one ordinal are one Unit. -/
theorem eq_of_ordinal {u v : ExecutionUnit} (hu : u ∈ db.units) (hv : v ∈ db.units)
    (hur : u.taskRunId = db.run.id) (hvr : v.taskRunId = db.run.id)
    (h : u.ordinal = v.ordinal) : u = v := by
  have hnodup := hsealed.ordinals.nodup_iff.2 List.nodup_range'
  exact List.inj_on_of_nodup_map hnodup (List.mem_filter.2 ⟨hu, by simpa using hur⟩)
    (List.mem_filter.2 ⟨hv, by simpa using hvr⟩) h

theorem joinedPage_units : ((attemptsPage db request).map (·.executionUnitId)).Nodup := by
  have hkeys : (attemptsPage db request).map (·.executionUnitId) =
      (joinedPage db request).map (·.1.id) := by
    rw [attemptsPage, Db.listFirstAttemptsPage, List.map_map]
    refine List.map_congr_left fun p hp => ?_
    exact (mem_firstAttempts (mem_joinedPage haddr hp)).2.2.symm
  rw [hkeys]
  refine Paging.nodup_map_of_determines (f := fun p => p.1.ordinal) ?_ fun p hp q hq heq => ?_
  · rw [joinedPage_ordinals hsealed haddr]
    exact List.nodup_range'
  · have hpu := (mem_firstAttempts (mem_joinedPage haddr hp)).1
    have hqu := (mem_firstAttempts (mem_joinedPage haddr hq)).1
    rw [List.inj_on_of_nodup_map hsealed.unitIds hpu hqu heq]

/-- Every Unit of the page finds its first Attempt in the other page. -/
theorem attempt_found {unit : ExecutionUnit} (hunit : unit ∈ unitsPage db request) :
    ∃ attempt, (attemptsPage db request).find? (fun a => a.executionUnitId = unit.id) =
      some attempt ∧ (unit, attempt) ∈ db.firstAttempts db.run.id := by
  have hrows := List.mem_filter.1 (Paging.mem_of_mem_page hunit)
  have hscope : unit.taskRunId = db.run.id := by
    rw [show db.run.id = request.taskRunId from haddr.taskRun.symm]
    simpa using hrows.2
  have hordinal : unit.ordinal ∈ (joinedPage db request).map (·.1.ordinal) := by
    rw [joinedPage_ordinals hsealed haddr, ← unitsPage_ordinals hsealed haddr]
    exact List.mem_map_of_mem hunit
  obtain ⟨p, hp, hpo⟩ := List.mem_map.1 hordinal
  have hfirst := mem_joinedPage haddr hp
  have hsame : p.1 = unit :=
    eq_of_ordinal hsealed (mem_firstAttempts hfirst).1 hrows.1
      (congrArg RunScope.taskRunId (hsealed.scopes p hfirst).1) hscope hpo
  have hsome : ((attemptsPage db request).find? fun a => a.executionUnitId = unit.id).isSome := by
    refine List.find?_isSome.2 ⟨p.2, List.mem_map_of_mem hp, ?_⟩
    have hid := (mem_firstAttempts hfirst).2.2
    rw [hsame] at hid
    simpa using hid.symm
  obtain ⟨attempt, hattempt⟩ := Option.isSome_iff_exists.1 hsome
  refine ⟨attempt, hattempt, ?_⟩
  obtain ⟨q, hq, hqa⟩ := List.mem_map.1 (List.mem_of_find?_eq_some hattempt)
  have hqfirst := mem_joinedPage haddr hq
  have hid : attempt.executionUnitId = unit.id := by simpa using List.find?_some hattempt
  have hqu : q.1 = unit := by
    refine List.inj_on_of_nodup_map hsealed.unitIds (mem_firstAttempts hqfirst).1 hrows.1 ?_
    rw [(mem_firstAttempts hqfirst).2.2, hqa, hid]
  rw [← hqu, ← hqa]
  exact hqfirst

theorem exactAttempt_of_first {unit : ExecutionUnit} {attempt : UnitAttempt}
    (h : (unit, attempt) ∈ db.firstAttempts db.run.id) :
    exactAttempt unitRetryAttemptId request unit attempt unit.ordinal = true := by
  obtain ⟨hrun, hunit, hcase⟩ := hsealed.scopes _ h
  obtain ⟨-, hnone, hworkflow⟩ := hsealed.hosts _ h
  have hnumber : attempt.attemptNumber = 1 := by
    simp only [Db.firstAttempts, List.mem_flatMap, List.mem_filter, List.mem_map,
      decide_eq_true_eq, Prod.mk.injEq] at h
    obtain ⟨a, ⟨-, -, ha⟩, u, -, -, rfl⟩ := h
    exact ha
  have hscope : attempt.toRunScope = db.run.toRunScope :=
    (congrArg UnitScope.toRunScope hunit).trans hrun
  simp only [exactAttempt, decide_eq_true_eq]
  refine ⟨trivial, ?_, ?_, ?_, ?_, ?_, ?_, ?_, ?_, ?_, ?_, hcase, ?_, ?_, hnone, ?_⟩
  · rw [haddr.tenant, hrun]
  · rw [haddr.project, hrun]
  · rw [haddr.taskRun, hrun]
  · rw [haddr.manifest, hrun]
  · rw [haddr.tenant, hscope]
  · rw [haddr.project, hscope]
  · rw [haddr.taskRun, hscope]
  · exact congrArg UnitScope.executionUnitId hunit
  · rw [haddr.manifest, hscope]
  · exact congrArg UnitScope.unitKey hunit
  · exact Nat.le_of_eq hnumber.symm
  · intro h
    rw [hnumber] at h
    exact absurd h (lt_irrefl 1)
  · rw [hworkflow, haddr.tenant]

theorem unitDispatches_total :
    ∀ {units : List ExecutionUnit} {expected : ℕ}, (∀ u ∈ units, u ∈ unitsPage db request) →
      units.map (·.ordinal) = List.range' expected units.length →
      ∃ dispatches, Commits (unitDispatches unitRetryAttemptId request db.run
        (attemptsPage db request) now expected units) db dispatches db
  | [], _, _, _ => ⟨[], by simp [unitDispatches]⟩
  | unit :: units, expected, hpage, hordinals => by
    rw [List.map_cons, List.length_cons, List.range'_succ, List.cons.injEq] at hordinals
    obtain ⟨rfl, hordinals⟩ := hordinals
    obtain ⟨attempt, hfound, hfirst⟩ := attempt_found hsealed haddr (hpage _ List.mem_cons_self)
    obtain ⟨dispatches, hrest⟩ := unitDispatches_total
      (fun u hu => hpage u (List.mem_cons_of_mem _ hu)) hordinals
    simp only [unitDispatches, requireExactAttempt, commits_bind, commits_demand,
      commits_raiseIf, commits_pure]
    refine ⟨_, attempt, db, ⟨hfound, rfl⟩, (), db, ⟨?_, rfl⟩, (), db, ⟨?_, rfl⟩, dispatches, db,
      hrest, rfl, rfl⟩
    · rw [exactAttempt_of_first hsealed haddr hfirst]
      simp
    · exact not_not.2 (hsealed.hosts _ hfirst).1

/-- While the Run can be dispatched, each of its pages is returned. -/
theorem plan_loads (hcursor : request.dispatchAfterOrdinal < n)
    (hlifecycle : db.run.lifecycle ∈ dispatchPlanLifecycles) :
    ∃ plan, Commits (loadDispatchPlan unitRetryAttemptId request now) db plan db := by
  have hrun : db.getRun request.taskRunId = some db.run := if_pos haddr.taskRun.symm
  have hmanifest : db.getManifest request.taskRunId = some db.manifest :=
    if_pos ((congrArg RunScope.taskRunId hsealed.manifest).trans haddr.taskRun.symm)
  have hunits := unitsPage_ordinals hsealed haddr
  have hunitsLength : (unitsPage db request).length = pageSize request n := by
    simpa using congrArg List.length hunits
  have hattemptsLength : (attemptsPage db request).length = pageSize request n := by
    have hlength := congrArg List.length (joinedPage_ordinals hsealed haddr)
    rw [List.length_map, List.length_range'] at hlength
    exact (List.length_map _).trans hlength
  rw [← hunitsLength] at hunits
  obtain ⟨dispatches, hloop⟩ : ∃ dispatches, Commits (unitDispatches unitRetryAttemptId request
      db.run (attemptsPage db request) now (request.dispatchAfterOrdinal + 1)
      (unitsPage db request)) db dispatches db :=
    unitDispatches_total hsealed haddr (fun _ hu => hu) hunits
  simp only [loadDispatchPlan, requireExactRoot, commits_bind, commits_read, commits_demand,
    commits_raiseIf, commits_pure]
  refine ⟨_, _, db, ⟨rfl, rfl⟩, _, db, ⟨rfl, rfl⟩, db.run, db, ⟨db.run, db, ⟨hrun, rfl⟩, (), db,
    ⟨?_, rfl⟩, rfl, rfl⟩, (), db, ⟨not_not.2 hsealed.materialized, rfl⟩, (), db,
    ⟨not_not.2 hlifecycle, rfl⟩, n, db, ⟨hsealed.unitCount, rfl⟩, (), db, ⟨?_, rfl⟩, _, db,
    ⟨rfl, rfl⟩, _, db, ⟨rfl, rfl⟩, (), db, ⟨?_, rfl⟩, (), db,
    ⟨not_not.2 (joinedPage_units hsealed haddr), rfl⟩, dispatches, db, hloop, rfl, rfl⟩
  · rw [hmanifest]
    simp only [not_or, not_not, Option.map_some, Option.some.injEq]
    exact ⟨haddr.taskRun.symm, haddr.tenant.symm, haddr.project.symm, haddr.digest,
      haddr.manifest.symm,
      (congrArg RunScope.manifestHash hsealed.manifest).trans haddr.manifest.symm, by
        rw [hsealed.workflow, haddr.tenant, haddr.taskRun]; rfl⟩
  · simp only [not_or, not_not]
    exact ⟨hsealed.bound, hsealed.firstAttemptCount, hcursor⟩
  · simp only [not_or, not_not]
    exact ⟨hunitsLength, hattemptsLength⟩

end Complete

end Atlas.Proofs.DispatchPages
