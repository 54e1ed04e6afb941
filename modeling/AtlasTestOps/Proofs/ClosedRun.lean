import AtlasTestOps.Proofs.ControlProtocol

/-! A closed TaskRun has closed children: both ways of finishing close the Run over closed Units
and Attempts only, and nothing is added to it afterwards. -/

namespace Atlas.Proofs

open Atlas Atlas.Task Atlas.Result Atlas.Store Atlas.Orchestration Atlas.Service Txn
open Relation (ReflTransGen)

variable {H : ResultHashes} {P : HygieneProjection} {unitRetryAttemptId : Uuid → ℕ → Uuid}
  {commandEvent : TaskRunCommandIntent → EventType × EventPayload} {deliveries : CommandDelivery → Prop}
  {db₀ db db' : Db} {run : TaskRun} {unit : ExecutionUnit} {attempt : UnitAttempt}
  {now clock : Instant}

structure ChildrenClosed (db : Db) : Prop where
  units : ∀ u ∈ db.units, u.lifecycle = .closed
  attempts : ∀ a ∈ db.attempts, a.lifecycle = .closed

/-- The Run and its children are closed. -/
structure AllClosed (db : Db) : Prop where
  keyed : Keyed db
  run : db.run.lifecycle = .closed
  children : ChildrenClosed db

/-- Under a closed Run the children stay closed. -/
theorem Write.allClosed (hw : Write unitRetryAttemptId db db') (h : AllClosed db) : AllClosed db' := by
  obtain ⟨hkeyed, hrun, hunits, hattempts⟩ := h
  obtain ⟨hkept, hkeys⟩ := hw.historyKept hkeyed
  refine ⟨hkeys, (hkept.run.2.frozen hrun).1, fun v hv => ?_, ?_⟩
  · obtain ⟨u, hu, hlater⟩ := Table.exists_left_of_forall₂ hkept.units hv
    exact (hlater.2.frozen (hunits u hu)).1
  · cases hw with
    | aside db' haside =>
      rw [haside.attempts]
      exact hattempts
    | event | run | unit | sealed | notice => exact hattempts
    | attempt a next found hadvance =>
      intro b hb
      obtain ⟨c, hc, rfl⟩ := Table.mem_modify.1 hb
      split
      · exact (hadvance.later.frozen (hattempts a (List.mem_of_find?_eq_some found))).1
      · exact hattempts c hc
    | retry a hretry =>
      have hruns := hretry.runs
      simp [hrun, dispatchable] at hruns

/-- Under a closed Run no retry is added. -/
theorem Write.attempts_length (hw : Write unitRetryAttemptId db db')
    (hrun : db.run.lifecycle = .closed) : db'.attempts.length = db.attempts.length := by
  cases hw with
  | aside db' haside => rw [haside.attempts]
  | event | run | unit | sealed | notice => rfl
  | attempt => exact Table.length_modify
  | retry a hretry =>
    have hruns := hretry.runs
    simp [hrun, dispatchable] at hruns

theorem writes_keep_closed (hwrites : ReflTransGen (Write unitRetryAttemptId) db db')
    (h : AllClosed db) : AllClosed db' ∧ db'.attempts.length = db.attempts.length := by
  induction hwrites with
  | refl => exact ⟨h, rfl⟩
  | tail _ hw ih => exact ⟨hw.allClosed ih.1, (hw.attempts_length ih.1.run).trans ih.2⟩

/-- The Units are those of the Run, and every Attempt is one of theirs. -/
structure InScope (db : Db) : Prop where
  units : ∀ u ∈ db.units, u.taskRunId = db.run.id
  attempts : ∀ a ∈ db.attempts, ∃ u ∈ db.units, u.toUnitScope = a.toUnitScope

theorem Write.inScope (hw : Write unitRetryAttemptId db db') (h : InScope db) : InScope db' := by
  cases hw with
  | aside db' haside =>
    refine ⟨?_, ?_⟩
    · rw [haside.units, haside.run]
      exact h.units
    · rw [haside.units, haside.attempts]
      exact h.attempts
  | event | run | sealed | notice => exact ⟨h.units, h.attempts⟩
  | unit u next =>
    refine ⟨fun v hv => ?_, fun a ha => ?_⟩
    · obtain ⟨w, hw, rfl⟩ := Table.mem_modify.1 hv
      split <;> exact h.units w hw
    · obtain ⟨w, hw, hscope⟩ := h.attempts a ha
      refine ⟨_, Table.mem_modify.2 ⟨w, hw, rfl⟩, ?_⟩
      split <;> exact hscope
  | attempt a next =>
    refine ⟨h.units, fun b hb => ?_⟩
    obtain ⟨c, hc, rfl⟩ := Table.mem_modify.1 hb
    split <;> exact h.attempts c hc
  | retry a hretry =>
    refine ⟨h.units, fun b hb => ?_⟩
    rcases List.mem_append.1 hb with hb | hb
    · exact h.attempts b hb
    · rw [List.mem_singleton.1 hb]
      exact hretry.scope

/-! ### Reconciling a child -/

def UnitClosed (db : Db) (id : Uuid) : Prop := ∃ u, db.getUnit id = some u ∧ u.lifecycle = .closed

def AttemptClosed (db : Db) (id : Uuid) : Prop :=
  ∃ a, db.getAttempt id = some a ∧ a.lifecycle = .closed

theorem UnitClosed.later {id : Uuid} (h : UnitClosed db id) (hk : Keyed db')
    (hkept : HistoryKept db db') : UnitClosed db' id := by
  obtain ⟨u, hget, hclosed⟩ := h
  obtain ⟨v, hv, hlater⟩ := Table.exists_right_of_forall₂ hkept.units (List.mem_of_find?_eq_some hget)
  have hid : v.id = id := (congrArg (fun w => w.id) hlater.1).trans (getUnit_id hget)
  exact ⟨v, hid ▸ Table.find?_of_mem hk.units hv, (hlater.2.frozen hclosed).1⟩

theorem AttemptClosed.later {id : Uuid} (h : AttemptClosed db id) (hk : Keyed db')
    (hkept : HistoryKept db db') : AttemptClosed db' id := by
  obtain ⟨a, hget, hclosed⟩ := h
  obtain ⟨b, hb, hlater⟩ := hkept.attempts.exists_of_mem (List.mem_of_find?_eq_some hget)
  have hid : b.id = id := (congrArg (fun c => c.id) hlater.1).trans (getAttempt_id hget)
  exact ⟨b, hid ▸ getAttempt_of_mem hk hb, (hlater.2.frozen hclosed).1⟩

theorem reconcileOpenAttempt_closes {r : ChildResult} {payload : EventPayload}
    {events : List TaskExecutionEvent} {u : Unit} (hget : db.getAttempt attempt.id = some attempt)
    (h : Commits (reconcileOpenAttempt H run unit attempt r payload events now clock) db u db') :
    AttemptClosed db' attempt.id := by
  have hlast : ∀ {b closed : UnitAttempt} {m m' : Db} {progress status reason},
      m.getAttempt b.id = some b → b.id = attempt.id →
      Commits (transitionAttempt run unit b progress .attemptClosed .empty clock) m closed m' →
      Commits (closeAttemptResultWithoutSeal H unit closed status reason now) m' u db' →
      AttemptClosed db' attempt.id := by
    intro b closed m m' progress status reason hrow hid htransition hclose
    obtain ⟨hclosedRow, -, -, hclosedId⟩ := transitionAttempt_row hrow htransition
    obtain ⟨hclosed, -, -, -, hattempts⟩ :=
      closeAttemptResultWithoutSeal_commits (fun _ _ => 0) hclose
    refine ⟨closed, ?_, hclosed⟩
    rw [Db.getAttempt, hattempts, ← hid, ← hclosedId]
    exact hclosedRow
  unfold reconcileOpenAttempt at h
  dsimp only at h
  split at h
  · simp only [commits_bind, commits_pure] at h
    obtain ⟨_, _, hexact, b, _, ⟨rfl, rfl⟩, closed, m', htransition, hclose⟩ := h
    obtain rfl := reads_requireExactAttemptResultEvent.same hexact
    exact hlast hget rfl htransition hclose
  · simp only [commits_bind] at h
    obtain ⟨b, m, hfinalize, closed, m', htransition, hclose⟩ := h
    obtain ⟨hrow, -, -, hid⟩ := transitionAttempt_row hget hfinalize
    exact hlast hrow hid htransition hclose

/-- A chain that is reconciled has a closed Unit and a closed Attempt. -/
theorem reconcileAttemptChain_closes {r : ChildResult} {events : List TaskExecutionEvent} {u : Unit}
    (hk : Keyed db) (hunit : db.getUnit unit.id = some unit)
    (hget : db.getAttempt attempt.id = some attempt)
    (h : Commits (reconcileAttemptChain H run unit attempt r events now clock) db u db') :
    UnitClosed db' unit.id ∧ AttemptClosed db' attempt.id := by
  have hlater : ∀ {m m' : Db}, Moves (fun _ _ => 0) m m' → Keyed m → HistoryKept m m' ∧ Keyed m' :=
    fun hmoves hm => writes_keep_history hm hmoves.writes
  obtain ⟨m, hchecked, hrest⟩ := reconcileAttemptChain_commits h
  have hm : HistoryKept db m ∧ Keyed m := by
    rcases hchecked with rfl | ⟨-, _, hnotice⟩
    · exact ⟨.refl _, hk⟩
    · exact hlater (closedAgain_moves hget hnotice) hk
  have hkept : attempt.lifecycle = .closed → AttemptClosed m attempt.id := fun hclosed =>
    AttemptClosed.later ⟨attempt, hget, hclosed⟩ hm.2 hm.1
  rcases hrest with ⟨hunitClosed, hclosed, rfl⟩ |
    ⟨hunitOpen, payload, m', hclose, ⟨hclosed, rfl⟩ | ⟨hopen, hreconcile⟩⟩
  · exact ⟨UnitClosed.later ⟨unit, hunit, hunitClosed⟩ hm.2 hm.1, hkept hclosed⟩
  · have hend := hlater (closeUnit_moves _ _ _ hclose) hm.2
    exact ⟨closed_of_closeUnit hunitOpen hclose, (hkept hclosed).later hend.2 hend.1⟩
  · have hm' := hlater (reconcileOpenAttempt_moves hget hopen hreconcile) hk
    have hend := hlater (closeUnit_moves _ _ _ hclose) hm'.2
    exact ⟨closed_of_closeUnit hunitOpen hclose,
      (reconcileOpenAttempt_closes hget hreconcile).later hend.2 hend.1⟩

/-! ### All children of a Run -/

/-- What a reconciliation leaves of the children in `planned`. -/
structure Reconciled (planned : List PlannedChild) (db db' : Db) : Prop where
  keyed : Keyed db'
  kept : HistoryKept db db'
  numbers : SameNumbers db db'
  closed : ∀ child ∈ planned, UnitClosed db' child.unit.id ∧ AttemptClosed db' child.attempt.id

theorem reconcileChild_closes {request : TaskRunFinishInput} {events : List TaskExecutionEvent}
    {child : PlannedChild} {ordinal : ℕ} {u : Unit} (hk : Keyed db)
    (h : Commits (reconcileChild H unitRetryAttemptId request run events now clock child ordinal)
      db u db') : Reconciled [child] db db' := by
  have hmoves := writes_keep_history hk (reconcileChild_moves _ _ _ h).writes
  rw [reconcileChild, commits_read_bind, commits_read_bind, commits_demand_bind] at h
  obtain ⟨unit, hunit, h⟩ := h
  rw [commits_demand_bind] at h
  obtain ⟨attempt, hattempt, h⟩ := h
  simp only [requireExactAttempt, commits_raiseIf_bind] at h
  have hunitId := getUnit_id hunit
  have hattemptId := getAttempt_id hattempt
  rw [← hunitId] at hunit
  rw [← hattemptId] at hattempt
  refine ⟨hmoves.2, hmoves.1, sameNumbers_reconcileAttemptChain _ _ _ h.2.2.2.2, fun c hc => ?_⟩
  obtain rfl := List.mem_singleton.1 hc
  rw [← hunitId, ← hattemptId]
  exact reconcileAttemptChain_closes hk hunit hattempt h.2.2.2.2

theorem reconcileChildren_closes {request : TaskRunFinishInput} {events : List TaskExecutionEvent}
    {children : List PlannedChild} {ordinal : ℕ} {u : Unit} (hk : Keyed db)
    (h : Commits (reconcileChildren H unitRetryAttemptId request run events now clock ordinal children)
      db u db') : Reconciled children db db' := by
  induction children generalizing ordinal db with
  | nil =>
    obtain ⟨-, rfl⟩ := commits_pure.1 h
    exact ⟨hk, .refl _, Std.Refl.refl _, by simp⟩
  | cons child children ih =>
    obtain ⟨_, m, hchild, hrest⟩ := commits_bind.1 h
    have hfirst := reconcileChild_closes hk hchild
    have hothers := ih hfirst.keyed hrest
    refine ⟨hothers.keyed, hfirst.kept.trans hothers.kept,
      IsTrans.trans _ _ _ hfirst.numbers hothers.numbers, fun c hc => ?_⟩
    rcases List.mem_cons.1 hc with rfl | hc
    · obtain ⟨hunit, hattempt⟩ := hfirst.closed c (List.mem_singleton_self c)
      exact ⟨hunit.later hothers.keyed hothers.kept, hattempt.later hothers.keyed hothers.kept⟩
    · exact hothers.closed c hc

/-- A Unit is planned with its latest Attempt, behind closed ones. -/
structure Planned (attempts : List UnitAttempt) (unit : ExecutionUnit) (child : PlannedChild) : Prop where
  same : child.unit = unit
  latest : (attemptsOf attempts unit).getLast? = some child.attempt
  history : ∀ a ∈ (attemptsOf attempts unit).dropLast, a.lifecycle = .closed

theorem planChild_planned {request : TaskRunFinishInput} {attempts : List UnitAttempt} {ordinal : ℕ}
    {child : PlannedChild}
    (h : Commits (planChild unitRetryAttemptId request run attempts unit ordinal) db child db') :
    Planned attempts unit child := by
  obtain ⟨a, m, hhistory, hrest⟩ := commits_bind.1 h
  simp only [requireHistory, commits_demand_bind, commits_raiseIf_bind] at hhistory
  obtain ⟨b, hlast, -, hhistory⟩ := hhistory
  obtain ⟨_, m', -, hhistory⟩ := commits_bind.1 hhistory
  rw [commits_raiseIf_bind, commits_pure] at hhistory
  obtain ⟨hclosed, rfl, -⟩ := hhistory
  have hchild : child.unit = unit ∧ child.attempt = a := by
    split at hrest
    · rw [commits_raiseIf_bind, commits_pure] at hrest
      rw [hrest.2.1]
      exact ⟨rfl, rfl⟩
    · rw [commits_raiseIf_bind, commits_pure] at hrest
      rw [hrest.2.1]
      exact ⟨rfl, rfl⟩
  refine ⟨hchild.1, hchild.2 ▸ hlast, fun c hc => ?_⟩
  by_contra hopen
  exact hclosed ⟨c, hc, hopen⟩

theorem planChildren_planned {request : TaskRunFinishInput} {attempts : List UnitAttempt}
    {units : List ExecutionUnit} {ordinal : ℕ} {planned : List PlannedChild} {db db' : Db}
    (h : Commits (planChildren unitRetryAttemptId request run attempts ordinal units) db planned db') :
    ∀ u ∈ units, ∃ child ∈ planned, Planned attempts u child := by
  induction units generalizing ordinal planned db db' with
  | nil => simp
  | cons unit units ih =>
    obtain ⟨child, m, hchild, hrest⟩ := commits_bind.1 h
    obtain ⟨children, m', hchildren, hpure⟩ := commits_bind.1 hrest
    obtain ⟨rfl, -⟩ := commits_pure.1 hpure
    intro u hu
    rcases List.mem_cons.1 hu with rfl | hu
    · exact ⟨child, List.mem_cons_self .., planChild_planned hchild⟩
    · obtain ⟨c, hc, hplanned⟩ := ih hchildren u hu
      exact ⟨c, List.mem_cons_of_mem _ hc, hplanned⟩

theorem mem_dropLast_or_getLast? {α : Type} {a : α} {l : List α} (h : a ∈ l) :
    a ∈ l.dropLast ∨ l.getLast? = some a := by
  have hne : l ≠ [] := List.ne_nil_of_mem h
  rw [← List.dropLast_append_getLast hne] at h
  rcases List.mem_append.1 h with hfront | hlast
  · exact .inl hfront
  · right
    rw [List.mem_singleton.1 hlast, List.getLast?_eq_some_getLast hne]

/-- All children are closed by the reconciliation before the Run is. -/
theorem reconcileRunChildren_closes {request : TaskRunFinishInput} {cancelRequested : Bool}
    {events : List TaskExecutionEvent} {u : Unit} (hk : Keyed db) (hscope₀ : InScope db)
    (h : Commits (reconcileRunChildren H unitRetryAttemptId request cancelRequested run db.listUnits
      db.attempts events now clock) db u db') : ChildrenClosed db' := by
  rw [reconcileRunChildren, commits_raiseIf_bind, commits_raiseIf_bind] at h
  obtain ⟨planned, m, hplan, hreconcile⟩ := commits_bind.1 h.2.2
  have hm := reads_planChildren.same hplan
  subst m
  have hall := planChildren_planned hplan
  have hdone := reconcileChildren_closes hk hreconcile
  have hlisted : ∀ v ∈ db.units, v ∈ db.listUnits := fun v hv => by
    rw [Db.listUnits, List.mem_insertionSort]
    exact hv
  refine ⟨fun v hv => ?_, fun b hb => ?_⟩
  · obtain ⟨w, hw, hlater⟩ := Table.exists_left_of_forall₂ hdone.kept.units hv
    obtain ⟨child, hchild, hplanned⟩ := hall w (hlisted w hw)
    obtain ⟨found, hget, hclosed⟩ := (hdone.closed child hchild).1
    rw [hplanned.same, show w.id = v.id from (congrArg (fun u => u.id) hlater.1).symm] at hget
    obtain rfl := Option.some.inj (hget.symm.trans (Table.find?_of_mem hdone.keyed.units hv))
    exact hclosed
  · -- No Attempt is new, and each was the latest of its Unit or closed before.
    obtain ⟨a, ha, hlater⟩ : ∃ a ∈ db.attempts, AttemptLater a b := by
      have hlength := congrArg List.length hdone.numbers
      rw [List.length_map, List.length_map] at hlength
      exact Table.exists_left_of_forall₂ (hdone.kept.attempts.forall₂_of_length_eq hlength) hb
    obtain ⟨w, hw, hscope⟩ := hscope₀.attempts a ha
    obtain ⟨child, hchild, hplanned⟩ := hall w (hlisted w hw)
    have hmem : a ∈ attemptsOf db.attempts w := by
      rw [attemptsOf, List.mem_insertionSort, List.mem_filter]
      exact ⟨ha, decide_eq_true (congrArg (fun s => s.executionUnitId) hscope).symm⟩
    rcases mem_dropLast_or_getLast? hmem with hearlier | hlast
    · exact (hlater.2.frozen (hplanned.history a hearlier)).1
    · obtain rfl := Option.some.inj (hplanned.latest.symm.trans hlast)
      obtain ⟨found, hget, hclosed⟩ := (hdone.closed child hchild).2
      rw [show child.attempt.id = b.id from (congrArg (fun c => c.id) hlater.1).symm] at hget
      obtain rfl := Option.some.inj (hget.symm.trans (getAttempt_of_mem hdone.keyed hb))
      exact hclosed

/-! ### Finishing -/

structure KeepsChildren (db db' : Db) : Prop where
  units : db'.units = db.units
  attempts : db'.attempts = db.attempts

instance : Std.Refl KeepsChildren := ⟨fun _ => ⟨rfl, rfl⟩⟩

instance : IsTrans Db KeepsChildren :=
  ⟨fun _ _ _ h h' => ⟨h'.units.trans h.units, h'.attempts.trans h.attempts⟩⟩

theorem ChildrenClosed.of_keepsChildren (h : ChildrenClosed db) (hk : KeepsChildren db db') :
    ChildrenClosed db' :=
  ⟨by rw [hk.units]; exact h.units, by rw [hk.attempts]; exact h.attempts⟩

theorem transitionRun_keepsChildren {progress : Progress} {eventType : EventType}
    {payload : EventPayload} :
    Within KeepsChildren (transitionRun run progress eventType payload clock) := by
  intro db updated db' h
  obtain ⟨_, _, _, -, -, -, rfl, -⟩ := transitionRun_commits (fun _ _ => 0) h
  exact ⟨rfl, rfl⟩

theorem closeRun_keepsChildren {events : List TaskExecutionEvent} {result : RunResult} :
    Within KeepsChildren (closeRun run events result now clock) := by
  have hfinalize : Within KeepsChildren (finalizeRun run events result now clock) :=
    .ite (.ite (.bind reads_requireExactRunResultEvent.within fun _ => .pure _)
      transitionRun_keepsChildren) transitionRun_keepsChildren
  exact .ite (.bind (.raiseIf _ _) fun _ => .bind reads_requireExactRunResultEvent.within
    fun _ => .pure _) (.bind (.raiseIf _ _) fun _ => .bind hfinalize fun _ => transitionRun_keepsChildren)

theorem snapshotTaskResult_keepsChildren {manifest : TaskRunManifest} :
    Within KeepsChildren (snapshotTaskResult H run manifest now) := by
  have hquality : Within KeepsChildren (snapshotTask H run manifest now) := by
    intro db s db' h
    obtain ⟨-, -, ⟨-, rfl⟩ | happended⟩ := snapshotTask_commits h
    · exact ⟨rfl, rfl⟩
    · obtain ⟨_, rfl⟩ := happended.state
      exact ⟨rfl, rfl⟩
  refine .rethrow <| .bind hquality fun _ => .bind ?_ fun _ => .pure _
  intro db answer db' h
  rcases snapshotTaskFullyResolved_commits h with ⟨-, rfl⟩ | ⟨quality, m, hsnapshot, houtcome⟩
  · exact ⟨rfl, rfl⟩
  have hm := hquality _ _ _ hsnapshot
  cases houtcome with
  | waiting => exact hm
  | replayed latest => exact hm
  | appended write =>
    obtain ⟨_, rfl⟩ := write.state
    exact ⟨hm.units, hm.attempts⟩

theorem applyCommand_keepsChildren {commandType : TaskRunCommandType} {intentId : Uuid}
    {commandDigest : Digest} :
    Within KeepsChildren (Service.applyCommand commandType intentId commandDigest) :=
  .bind (.read _) fun _ => .bind (.demand _ _) fun _ => .bind (.raiseIf _ _) fun _ =>
    .ite (.pure _) <| .bind (.raiseIf _ _) fun _ => .bind (.read _) fun _ => .bind (.raiseIf _ _)
    fun _ => .update fun _ => ⟨rfl, rfl⟩

theorem applyFinishCommands_keepsChildren {projected : Bool} {request : TaskRunWorkflowInput}
    {commands : List TaskRunCommandSignal} {cancelRequested : Bool} {result : RunResult} :
    Within KeepsChildren (applyFinishCommands projected request commands cancelRequested result) := by
  unfold applyFinishCommands
  cases commands with
  | nil =>
    refine .ite (.pure _) (.bind (.read _) fun pending => ?_)
    cases pending with
    | none => exact .pure _
    | some found =>
      exact .bind reads_requireControlCommand.within fun _ => applyCommand_keepsChildren
  | cons command rest =>
    exact .bind (.raiseIf _ _) fun _ => .bind (.raiseIf _ _) fun _ => .bind (.raiseIf _ _) fun _ =>
      applyCommand_keepsChildren

theorem moved_inScope (hmoves : Moves unitRetryAttemptId db db') (h : Keyed db ∧ InScope db) :
    Keyed db' ∧ InScope db' := by
  have hstep : ∀ m m', Write unitRetryAttemptId m m' → Keyed m ∧ InScope m → Keyed m' ∧ InScope m' :=
    fun m m' hwrite hm => ⟨(hwrite.historyKept hm.1).2, hwrite.inScope hm.2⟩
  exact run_keeps hstep hmoves.writes h

theorem finishRun_closes {request : TaskRunFinishInput} {result : RunResult}
    (h₀ : Keyed db ∧ InScope db)
    (h : Commits (finishRun H unitRetryAttemptId request now clock) db result db') :
    ChildrenClosed db' := by
  rw [finishRun, commits_read_bind, commits_read_bind] at h
  obtain ⟨run, m, hroot, hrest⟩ := commits_bind.1 h
  clear h
  have hm := reads_requireExactRoot.same hroot
  subst m
  rw [commits_demand_bind] at hrest
  obtain ⟨manifest, -, hrest⟩ := hrest
  obtain ⟨settled, m₁, hsettle, hrest⟩ := commits_bind.1 hrest
  have hmoved : Moves unitRetryAttemptId db m₁ := settleControlBeforeFinish_moves _ _ _ hsettle
  have hm₁ := moved_inScope hmoved h₀
  dsimp only at hrest
  rw [commits_read_bind, commits_read_bind, commits_read_bind] at hrest
  obtain ⟨_, m₂, hchildren, hrest⟩ := commits_bind.1 hrest
  have hkept : Within KeepsChildren (do
      let run ← closeRun settled (finishEvents settled m₁.listUnits m₁.attempts m₁.events)
        (runResult request (request.cancelRequested || settled.lifecycle = .canceling)) now clock
      snapshotTaskResult H run manifest now
      applyFinishCommands false request.request request.commands
        (request.cancelRequested || settled.lifecycle = .canceling)
        (runResult request (request.cancelRequested || settled.lifecycle = .canceling))
      pure (runResult request (request.cancelRequested || settled.lifecycle = .canceling)) :
        Op RunResult) :=
    .bind closeRun_keepsChildren fun _ => .bind snapshotTaskResult_keepsChildren fun _ =>
      .bind applyFinishCommands_keepsChildren fun _ => .pure _
  exact (reconcileRunChildren_closes hm₁.1 hm₁.2 hchildren).of_keepsChildren (hkept _ _ _ hrest)

theorem finishPartitionedRun_closes {request : TaskRunProjectedFinishInput} {result : RunResult}
    (h₀ : Keyed db ∧ InScope db)
    (h : Commits (finishPartitionedRun H request now clock) db result db') : ChildrenClosed db' := by
  rw [finishPartitionedRun, commits_read_bind, commits_read_bind] at h
  obtain ⟨run, m, hroot, hrest⟩ := commits_bind.1 h
  clear h
  have hrunId : db.run.id = request.request.taskRunId := by
    simp only [requireExactRoot, commits_demand_bind] at hroot
    obtain ⟨found, hfound, -⟩ := hroot
    rw [Db.getRun] at hfound
    split at hfound
    · assumption
    · cases hfound
  have hm := reads_requireExactRoot.same hroot
  subst m
  rw [commits_demand_bind] at hrest
  obtain ⟨manifest, -, hrest⟩ := hrest
  rw [commits_raiseIf_bind] at hrest
  obtain ⟨settled, m₁, hsettle, hrest⟩ := commits_bind.1 hrest.2
  have hmoved : Moves (fun _ _ => 0) db m₁ := settleControlBeforeFinish_moves _ _ _ hsettle
  have hm₁ := moved_inScope hmoved h₀
  have hid : m₁.run.id = request.request.taskRunId := by
    rw [(writes_keep_history h₀.1 hmoved.writes).1.run.1]
    exact hrunId
  dsimp only at hrest
  rw [commits_read_bind] at hrest
  obtain ⟨_, m₂, hprojection, hrest⟩ := commits_bind.1 hrest
  rw [requireCompleteProjection] at hprojection
  obtain ⟨hcomplete, hm₂⟩ := commits_raiseIf.1 hprojection
  subst m₂
  simp only [not_or, not_not] at hcomplete
  obtain ⟨-, -, -, -, hunits, -, hattempts, -⟩ := hcomplete
  have hunitScope : ∀ u ∈ m₁.units, u.taskRunId = request.request.taskRunId := fun u hu =>
    (hm₁.2.units u hu).trans hid
  have hclosed : ChildrenClosed m₁ := by
    refine ⟨fun u hu => ?_, fun a ha => ?_⟩
    · have hmem : u ∈ m₁.units.filter fun u => u.taskRunId = request.request.taskRunId :=
        List.mem_filter.2 ⟨hu, decide_eq_true (hunitScope u hu)⟩
      exact of_decide_eq_true (List.countP_eq_length.1 hunits u hmem)
    · obtain ⟨u, hu, hscope⟩ := hm₁.2.attempts a ha
      have hscoped : a.taskRunId = request.request.taskRunId :=
        (congrArg (fun s => s.taskRunId) hscope).symm.trans (hunitScope u hu)
      have hmem : a ∈ m₁.attempts.filter fun a => a.taskRunId = request.request.taskRunId :=
        List.mem_filter.2 ⟨ha, decide_eq_true hscoped⟩
      exact of_decide_eq_true (List.countP_eq_length.1 hattempts a hmem)
  refine hclosed.of_keepsChildren ?_
  have hkept : ∀ events result, Within KeepsChildren (do
      raiseIf (!projectedFinalizable settled.lifecycle) (.worker "TASK_RUN_NOT_FINALIZABLE")
      let run ← closeRun settled events result now clock
      snapshotTaskResult H run manifest now
      applyFinishCommands true request.request request.commands
        (request.cancelRequested || settled.lifecycle = .canceling) result
      pure result : Op RunResult) := fun _ _ =>
    .bind (.raiseIf _ _) fun _ => .bind closeRun_keepsChildren fun _ =>
      .bind snapshotTaskResult_keepsChildren fun _ => .bind applyFinishCommands_keepsChildren fun _ =>
      .pure _
  rw [commits_read_bind] at hrest
  exact hkept _ _ _ _ _ hrest

/-! ### The system -/

/-- One of the two finishes closes the Run. -/
structure FinishCloses (H : ResultHashes) (unitRetryAttemptId : Uuid → ℕ → Uuid) (db db' : Db) : Prop where
  opened : db.run.lifecycle ≠ .closed
  closed : db'.run.lifecycle = .closed
  finish : (∃ request now clock result,
      Commits (finishRun H unitRetryAttemptId request now clock) db result db') ∨
    ∃ request now clock result, Commits (finishPartitionedRun H request now clock) db result db'

theorem FinishCloses.childrenClosed (h : FinishCloses H unitRetryAttemptId db db')
    (h₀ : Keyed db ∧ InScope db) : ChildrenClosed db' := by
  rcases h.finish with ⟨request, now, clock, result, hcommits⟩ | ⟨request, now, clock, result, hcommits⟩
  · exact finishRun_closes h₀ hcommits
  · exact finishPartitionedRun_closes h₀ hcommits

/-- No call but a finish closes the Run. -/
theorem TaskStep.closes (hstep : TaskStep H P unitRetryAttemptId commandEvent deliveries db db')
    (hc : ControlAgrees deliveries db) (hopen : db.run.lifecycle ≠ .closed)
    (hclosed : db'.run.lifecycle = .closed) : FinishCloses H unitRetryAttemptId db db' := by
  have hcall : ∀ {α : Type} (t : Op α), (after t db).run.lifecycle = .closed →
      (∀ a db', db'.run.lifecycle = .closed → Commits t db a db' →
        FinishCloses H unitRetryAttemptId db db') →
      FinishCloses H unitRetryAttemptId db (after t db) := by
    intro α t hrun ht
    rcases after_eq t db with hsame | ⟨a, hcommits⟩
    · rw [hsame] at hrun
      exact absurd hrun hopen
    · exact ht a _ hrun hcommits
  have hkept : ∀ {α : Type} (t : Op α), (after t db).run.lifecycle = .closed → Within KeepsRun t →
      FinishCloses H unitRetryAttemptId db (after t db) := by
    intro α t hrun ht
    refine hcall t hrun fun a db' hrun hcommits => ?_
    rw [(ht _ _ _ hcommits).run] at hrun
    exact absurd hrun hopen
  cases hstep with
  | prepareBatch => exact hkept _ hclosed prepareBatch_keepsRun
  | finishAttempt => exact hkept _ hclosed finishAttempt_keepsRun
  | finalize => exact hkept _ hclosed finalize_keepsRun
  | settleAttemptBatch => exact hkept _ hclosed settleAttemptBatch_keepsRun
  | finishRun =>
    exact hcall _ hclosed fun _ _ hrun hcommits => ⟨hopen, hrun, .inl ⟨_, _, _, _, hcommits⟩⟩
  | finishPartitionedRun =>
    exact hcall _ hclosed fun _ _ hrun hcommits => ⟨hopen, hrun, .inr ⟨_, _, _, _, hcommits⟩⟩
  | startAttempt =>
    refine hcall _ hclosed fun _ _ hrun hcommits => ?_
    rcases startAttempt_starts hcommits with hkeeps | ⟨-, hrunning, -⟩
    · rw [hkeeps.run] at hrun
      exact absurd hrun hopen
    · simp [hrunning] at hrun
  | checkpointControl =>
    refine hcall _ hclosed fun _ _ hrun hcommits => ?_
    rcases (checkpointControl_commits hc hcommits).2.2 with hsame | hmoved
    · rw [hsame] at hrun
      exact absurd hrun hopen
    · simp [hrun] at hmoved
  | acceptCommand _ _ commandType =>
    refine hcall _ hclosed fun _ db' hrun hcommits => ?_
    rcases acceptCommand_accepted hcommits with rfl | haccepted
    · exact absurd hrun hopen
    · have hcontrol := haccepted.target
      rw [hrun] at hcontrol
      revert hcontrol
      cases commandType <;> cases db.run.lifecycle <;> simp [targetLifecycle]
  | deliverCommand => exact absurd hclosed hopen

/-- A closed Run was closed by a finish, and its children stay closed from there on. -/
theorem Runs.closed (h : Runs H P unitRetryAttemptId commandEvent deliveries db₀ db)
    (hbegun : Begun db₀) (hscope₀ : InScope db₀) (hclosed : db.run.lifecycle = .closed) :
    AllClosed db ∧ ∃ m m', Runs H P unitRetryAttemptId commandEvent deliveries db₀ m ∧
      FinishCloses H unitRetryAttemptId m m' ∧
      Runs H P unitRetryAttemptId commandEvent deliveries m' db := by
  induction h with
  | refl =>
    rw [hbegun.run.1] at hclosed
    cases hclosed
  | @tail m db hrun hstep ih =>
    have hm := moved_inScope (Runs.moves hrun) ⟨hbegun.keyed, hscope₀⟩
    by_cases hopen : m.run.lifecycle = .closed
    · obtain ⟨hall, before, closer, hbefore, hfinish, hafter⟩ := ih hopen
      exact ⟨(writes_keep_closed hstep.moves.writes hall).1, before, closer, hbefore, hfinish,
        hafter.tail hstep⟩
    · have hfinish := hstep.closes (Runs.agrees hrun hbegun) hopen hclosed
      have hkeyed := (writes_keep_history hm.1 hstep.moves.writes).2
      exact ⟨⟨hkeyed, hclosed, hfinish.childrenClosed hm⟩, m, db, hrun, hfinish, .refl⟩

theorem factCount_append {seals : List AttemptSeal} {closures : List AttemptClosureNotice}
    (hseals : db'.seals = db.seals ++ seals) (hclosures : db'.closures = db.closures ++ closures) (id : Uuid) :
    factCount db' id = factCount db id + (seals.countP (fun s => s.unitAttemptId = id) +
      closures.countP fun n => n.unitAttemptId = id) := by
  simp only [factCount, hseals, hclosures, List.countP_append]
  omega

/-- Once every Attempt has its one fact, none is added. -/
theorem facts_complete (hkept : HistoryKept db db')
    (hnamed : ∀ id, factCount db' id ≠ 0 → factCount db' id = 1 ∧ factCount db id = 1) :
    db'.seals = db.seals ∧ db'.closures = db.closures := by
  obtain ⟨seals, hseals⟩ := hkept.seals
  obtain ⟨closures, hclosures⟩ := hkept.closures
  have hcount := factCount_append hseals.symm hclosures.symm
  refine ⟨?_, ?_⟩
  · cases seals with
    | nil => rw [← hseals, List.append_nil]
    | cons s rest =>
      have hone := hnamed s.unitAttemptId (factCount_of_seal (by rw [← hseals]; simp))
      have hsum := hcount s.unitAttemptId
      rw [List.countP_cons_of_pos (by simp)] at hsum
      omega
  · cases closures with
    | nil => rw [← hclosures, List.append_nil]
    | cons n rest =>
      have hone := hnamed n.unitAttemptId (factCount_of_closure (by rw [← hclosures]; simp))
      have hsum := hcount n.unitAttemptId
      rw [List.countP_cons_of_pos (by simp)] at hsum
      omega

/-- After any run a closed Run has closed Units and Attempts only, and each Attempt has its one
terminal fact; a finish has closed it, and whatever is called afterwards, it stays closed, with the
same Units, Attempts and facts and none of them reopened. -/
theorem closed_run_is_settled (hbegun : Begun db₀) (hscope₀ : InScope db₀)
    (h : Runs H P unitRetryAttemptId commandEvent deliveries db₀ db) (hclosed : db.run.lifecycle = .closed) :
    (∀ u ∈ db.units, u.lifecycle = .closed) ∧
      (∀ a ∈ db.attempts, a.lifecycle = .closed ∧ factCount db a.id = 1) ∧
      (∃ m m', Runs H P unitRetryAttemptId commandEvent deliveries db₀ m ∧
        FinishCloses H unitRetryAttemptId m m' ∧
        Runs H P unitRetryAttemptId commandEvent deliveries m' db) ∧
      ∀ db', Runs H P unitRetryAttemptId commandEvent deliveries db db' →
        db'.run.lifecycle = .closed ∧ List.Forall₂ UnitLater db.units db'.units ∧
          List.Forall₂ AttemptLater db.attempts db'.attempts ∧
          db'.seals = db.seals ∧ db'.closures = db.closures := by
  obtain ⟨hall, hfinish⟩ := h.closed hbegun hscope₀ hclosed
  have hfacts : ∀ a ∈ db.attempts, factCount db a.id = 1 := fun a ha => by
    rw [(h.balanced hbegun a.id).factCount_eq hall.keyed ha, if_pos (hall.children.attempts a ha)]
  refine ⟨hall.children.units, fun a ha => ⟨hall.children.attempts a ha, hfacts a ha⟩, hfinish,
    fun db' h' => ?_⟩
  obtain ⟨hall', hlength⟩ := writes_keep_closed h'.moves.writes hall
  have hkept := (writes_keep_history hall.keyed h'.moves.writes).1
  have hattempts := hkept.attempts.forall₂_of_length_eq hlength
  refine ⟨hall'.run, hkept.units, hattempts, facts_complete hkept fun id hcount => ?_⟩
  -- A fact is about an Attempt, and every Attempt was there before.
  obtain ⟨b, hb, rfl, -⟩ := Runs.exists_of_fact (h.trans h') hbegun hcount
  obtain ⟨a, ha, hlater⟩ := Table.exists_left_of_forall₂ hattempts hb
  have hid : b.id = a.id := by rw [hlater.1]
  refine ⟨?_, by rw [hid]; exact hfacts a ha⟩
  rw [(Runs.balanced (h.trans h') hbegun b.id).factCount_eq hall'.keyed hb,
    if_pos (hall'.children.attempts b hb)]

/-! The fresh Run is canceled and finished: its only Attempt is closed without a Seal. The finish
is replayed. -/

namespace Canceled

open FreshRun GivenUp

def canceling : Db := after (acceptCommand recorded actor 3 .cancel 1 7 none 10 10) fresh

def ended : Db :=
  after (finishRun LateCleanup.hashes ShortDeadline.retryId ⟨root, [], true, 1, []⟩ 20 20) canceling

def replayed : Db :=
  after (finishRun LateCleanup.hashes ShortDeadline.retryId ⟨root, [], true, 1, []⟩ 30 30) ended

theorem runs_ended (deliveries : CommandDelivery → Prop) :
    Runs LateCleanup.hashes hygiene ShortDeadline.retryId recorded deliveries fresh ended :=
  .tail (.single (.acceptCommand actor 3 .cancel 1 7 none 10 10)) (.finishRun _ 20 20)

theorem runs_replayed (deliveries : CommandDelivery → Prop) :
    Runs LateCleanup.hashes hygiene ShortDeadline.retryId recorded deliveries ended replayed :=
  .single (.finishRun _ 30 30)

end Canceled

open FreshRun Canceled in
theorem canceled_run_is_settled :
    (∀ a ∈ ended.attempts, a.lifecycle = .closed ∧ factCount ended a.id = 1) ∧
      replayed.run.lifecycle = .closed ∧ replayed.closures = ended.closures := by
  obtain ⟨-, hattempts, -, hafter⟩ := closed_run_is_settled begun ⟨by decide, by decide⟩
    (runs_ended fun _ => True) (by decide +kernel)
  obtain ⟨hrun, -, -, -, hclosures⟩ := hafter replayed (runs_replayed _)
  exact ⟨hattempts, hrun, hclosures⟩

end Atlas.Proofs
