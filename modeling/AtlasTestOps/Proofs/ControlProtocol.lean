import AtlasTestOps.Lib.Raises
import AtlasTestOps.Proofs.KeepsRun

/-! Pause, Resume and Cancel of a TaskRun across the API, the dispatcher and the Root. The Run and
its commands agree in every reachable state, and the checkpoint of the Root finds a conflict only
behind a Pause that the dispatcher gave up. -/

namespace Atlas.Proofs

open Atlas Atlas.Task Atlas.Result Atlas.Store Atlas.Orchestration Atlas.Service Txn
open Relation (ReflTransGen)

variable {H : ResultHashes} {P : HygieneProjection} {unitRetryAttemptId : Uuid → ℕ → Uuid}
  {commandEvent : TaskRunCommandIntent → EventType × EventPayload} {deliveries : CommandDelivery → Prop}
  {db₀ db db' : Db} {run : TaskRun} {now clock : Instant}

/-- The command that may be open in a state of the Run. -/
def controlType : ExecutionLifecycle → Option TaskRunCommandType
  | .pauseRequested => some .pause
  | .paused => some .resume
  | .queued | .running | .canceling | .finalizing | .closed => none

/-- The Run and its commands agree. -/
structure ControlAgrees (deliveries : CommandDelivery → Prop) (db : Db) : Prop where
  keyed : (db.commands.map fun c => c.id).Nodup
  single : Rows.AtMostOne openControl db.commands
  typed : ∀ c ∈ db.commands, openControl c = true →
    controlType db.run.lifecycle = some c.commandType
  /-- a requested Pause is waiting for the Root, where the dispatcher fails nothing -/
  pending : ¬ deliveries .fail → db.run.lifecycle = .pauseRequested →
    ∃ c ∈ db.commands, openControl c = true
  /-- a requested Pause is waiting for the Root, or is one that the dispatcher has failed -/
  failed : db.run.lifecycle = .pauseRequested → (∃ c ∈ db.commands, openControl c = true) ∨
    ∃ c ∈ db.commands, c.commandType = .pause ∧ c.status = .failed

/-- No Pause or Resume is open, and none is requested. -/
structure NoneOpen (db : Db) : Prop where
  keyed : (db.commands.map fun c => c.id).Nodup
  settled : ∀ c ∈ db.commands, openControl c = false
  lifecycle : db.run.lifecycle ≠ .pauseRequested

theorem NoneOpen.agrees (deliveries : CommandDelivery → Prop) (h : NoneOpen db) :
    ControlAgrees deliveries db where
  keyed := h.keyed
  single := List.pairwise_iff_forall_sublist.2 fun hab hopen => by
    have hmem := hab.subset (List.mem_cons_self ..)
    simp [h.settled _ hmem] at hopen
  typed c hc hopen := by simp [h.settled c hc] at hopen
  pending _ hrun := absurd hrun h.lifecycle
  failed hrun := absurd hrun h.lifecycle

theorem ControlAgrees.of_keepsRun (h : ControlAgrees deliveries db) (hk : KeepsRun db db') :
    ControlAgrees deliveries db' := by
  obtain ⟨hkeyed, hsingle, htyped, hpending, hfailed⟩ := h
  constructor <;> simpa only [hk.run, hk.commands]

theorem NoneOpen.of_keepsRun (h : NoneOpen db) (hk : KeepsRun db db') : NoneOpen db' := by
  obtain ⟨hkeyed, hsettled, hlifecycle⟩ := h
  constructor <;> simpa only [hk.run, hk.commands]

/-- Outside a pause nothing is open. -/
theorem ControlAgrees.noneOpen (h : ControlAgrees deliveries db)
    (hrun : controlType db.run.lifecycle = none) : NoneOpen db where
  keyed := h.keyed
  settled c hc := by
    rw [Bool.eq_false_iff]
    intro hopen
    have htype := h.typed c hc hopen
    rw [hrun] at htype
    cases htype
  lifecycle hrequested := by simp [hrequested, controlType] at hrun

/-- The Run moves while nothing is open. -/
theorem NoneOpen.move (h : NoneOpen db) (hcommands : db'.commands = db.commands)
    (hrun : db'.run.lifecycle ≠ .pauseRequested) : NoneOpen db' :=
  ⟨by rw [hcommands]; exact h.keyed, by rw [hcommands]; exact h.settled, hrun⟩

/-! ### The open command -/

theorem getOpenCommand_some {command : TaskRunCommandIntent} (h : getOpenCommand db = some command) :
    command ∈ db.commands ∧ openControl command = true := by
  have hmem := List.mem_of_mem_head? (Option.mem_def.2 h)
  rw [List.mem_insertionSort] at hmem
  obtain ⟨hcommand, hopen⟩ := List.mem_filter.1 hmem
  refine ⟨hcommand, ?_⟩
  simpa [openControl] using hopen

theorem getOpenCommand_none : getOpenCommand db = none ↔ ∀ c ∈ db.commands, openControl c = false := by
  rw [getOpenCommand, List.head?_eq_none_iff, ← List.length_eq_zero_iff, List.length_insertionSort,
    List.length_eq_zero_iff, List.filter_eq_nil_iff]
  simp only [openControl, Bool.and_eq_false_iff, decide_eq_true_eq, not_and, Bool.not_eq_true,
    decide_eq_false_iff_not]
  exact forall₂_congr fun c _ => imp_iff_not_or

theorem ControlAgrees.openType (h : ControlAgrees deliveries db) {command : TaskRunCommandIntent}
    (hopen : getOpenCommand db = some command) :
    controlType db.run.lifecycle = some command.commandType :=
  h.typed command (getOpenCommand_some hopen).1 (getOpenCommand_some hopen).2

/-! ### Settling it -/

theorem transitionRun_row {progress : Progress} {eventType : EventType} {payload : EventPayload}
    {updated : TaskRun}
    (h : Commits (transitionRun run progress eventType payload clock) db updated db') :
    updated = db'.run ∧ db'.run.lifecycle = progress.lifecycle ∧ db'.commands = db.commands := by
  obtain ⟨next, _, _, -, haxes, rfl, rfl, -⟩ := transitionRun_commits (fun _ _ => 0) h
  exact ⟨rfl, congrArg (fun x => x.lifecycle) haxes, rfl⟩

/-- An applied command is no longer open, and no other one is touched. -/
theorem applyCommand_commits {commandType : TaskRunCommandType} {intentId : Uuid}
    {commandDigest : Digest} {u : Unit}
    (h : Commits (Service.applyCommand commandType intentId commandDigest) db u db') :
    db'.run = db.run ∧ ∃ c, db.commands.find? (fun c => c.id = intentId) = some c ∧
      (db'.commands = db.commands ∧ c.status = .applied ∨
        db'.commands = Table.modify (fun c => c.id) intentId (fun c => { c with status := .applied })
          db.commands) := by
  rw [Service.applyCommand, commits_read_bind, commits_demand_bind] at h
  obtain ⟨c, hfound, h⟩ := h
  rw [commits_raiseIf_bind, commits_ite] at h
  rcases h.2 with ⟨happlied, h⟩ | ⟨-, h⟩
  · obtain ⟨-, rfl⟩ := commits_pure.1 h
    exact ⟨rfl, c, hfound, .inl ⟨rfl, happlied⟩⟩
  · rw [commits_raiseIf_bind, commits_read_bind, commits_raiseIf_bind, commits_update] at h
    obtain ⟨-, -, rfl⟩ := h
    exact ⟨rfl, c, hfound, .inr rfl⟩

theorem openControl_applied (c : TaskRunCommandIntent) :
    openControl { c with status := .applied } = false := by
  simp [openControl, openCommand]

theorem ids_modify (intentId : Uuid) (commands : List TaskRunCommandIntent) :
    ((Table.modify (fun c => c.id) intentId (fun c => { c with status := .applied }) commands).map
      fun c : TaskRunCommandIntent => c.id) = commands.map fun c => c.id :=
  Table.map_modify fun _ => rfl

/-- The only open command is settled. -/
theorem settleControl_noneOpen {command : TaskRunCommandIntent} {lifecycle : ExecutionLifecycle}
    {eventType : EventType} {updated : TaskRun} (hc : ControlAgrees deliveries db)
    (hopen : getOpenCommand db = some command) (hlifecycle : lifecycle ≠ .pauseRequested)
    (h : Commits (settleControl run command lifecycle eventType clock) db updated db') :
    NoneOpen db' ∧ updated = db'.run ∧ db'.run.lifecycle = lifecycle := by
  simp only [settleControl, commits_bind, commits_pure] at h
  obtain ⟨_, m, htransition, _, m', happly, rfl, rfl⟩ := h
  obtain ⟨rfl, hrun, hcommands⟩ := transitionRun_row htransition
  obtain ⟨hsame, c, hfound, hrows⟩ := applyCommand_commits happly
  obtain ⟨hmem, hcontrol⟩ := getOpenCommand_some hopen
  rw [hcommands] at hfound hrows
  -- The id names the open command.
  obtain rfl : c = command := Option.some.inj (hfound.symm.trans (Table.find?_of_mem hc.keyed hmem))
  have happlied : db'.commands = Table.modify (fun c => c.id) c.id
      (fun c => { c with status := .applied }) db.commands := by
    refine hrows.resolve_left fun hstill => ?_
    simp [openControl, openCommand, hstill.2] at hcontrol
  refine ⟨⟨?_, fun d hd => ?_, ?_⟩, hsame.symm, ?_⟩
  · rw [happlied, ids_modify]
    exact hc.keyed
  · rw [happlied] at hd
    rcases (Table.mem_modify_keyed hc.keyed hmem).1 hd with rfl | ⟨hd, hne⟩
    · exact openControl_applied c
    · rw [Bool.eq_false_iff]
      intro hopen'
      exact hne (congrArg (fun c => c.id) (hc.single.unique hd hmem hopen' hcontrol))
  · rw [hsame, hrun]
    exact hlifecycle
  · rw [hsame, hrun]

theorem requireControlCommand_open {commandType : TaskRunCommandType} {command : TaskRunCommandIntent}
    (h : Commits (requireControlCommand (getOpenCommand db) commandType) db command db') :
    getOpenCommand db = some command ∧ db' = db :=
  ⟨(requireControlCommand_commits h).1, (requireControlCommand_commits h).2.2⟩

/-- The part of `_settle_control_before_finish` that every pause leads to. -/
theorem resumeBeforeFinish_noneOpen {updated : TaskRun} (hc : ControlAgrees deliveries db)
    (hrun : run = db.run) (hlifecycle : db.run.lifecycle ≠ .pauseRequested)
    (h : Commits (do
      let found ← read getOpenCommand
      match found with
      | none => pure run
      | some command => do
        let command ← requireControlCommand (some command) .resume
        settleControl run command .running .runResumed clock : Op TaskRun) db updated db') :
    NoneOpen db' ∧ updated = db'.run := by
  rw [commits_read_bind] at h
  split at h
  · rename_i hnone
    obtain ⟨rfl, rfl⟩ := commits_pure.1 h
    exact ⟨⟨hc.keyed, getOpenCommand_none.1 hnone, hlifecycle⟩, hrun⟩
  · rename_i command hsome
    rw [← hsome] at h
    obtain ⟨command, m, hrequire, hsettle⟩ := commits_bind.1 h
    obtain ⟨hopen, rfl⟩ := requireControlCommand_open hrequire
    obtain ⟨hquiet, hupdated, -⟩ := settleControl_noneOpen hc hopen (by simp) hsettle
    exact ⟨hquiet, hupdated⟩

theorem settleControlBeforeFinish_noneOpen {updated : TaskRun} (hc : ControlAgrees deliveries db)
    (hrun : run = db.run) (h : Commits (settleControlBeforeFinish run clock) db updated db') :
    NoneOpen db' ∧ updated = db'.run := by
  rw [settleControlBeforeFinish, commits_ite] at h
  rcases h with ⟨houtside, h⟩ | ⟨-, h⟩
  · obtain ⟨hupdated, hsame⟩ := commits_pure.1 h
    rw [hupdated, hsame]
    refine ⟨hc.noneOpen ?_, hrun⟩
    rw [hrun] at houtside
    revert houtside
    cases db.run.lifecycle <;> simp [controlType]
  · dsimp only at h
    rw [commits_ite] at h
    rcases h with ⟨-, h⟩ | ⟨hsettled, h⟩
    · rw [commits_read_bind] at h
      obtain ⟨command, m, hrequire, hafter⟩ := commits_bind.1 h
      obtain ⟨paused, m', hsettle, hrest⟩ := commits_bind.1 hafter
      obtain ⟨hopen, rfl⟩ := requireControlCommand_open hrequire
      obtain ⟨hquiet, hupdated, -⟩ := settleControl_noneOpen hc hopen (by simp) hsettle
      exact resumeBeforeFinish_noneOpen (hquiet.agrees deliveries) hupdated hquiet.lifecycle hrest
    · exact resumeBeforeFinish_noneOpen hc hrun (hrun ▸ hsettled) h

/-! ### Closing -/

theorem Within.noneOpen {α : Type} {t : Op α} (ht : Within KeepsRun t) {a : α} (hq : NoneOpen db)
    (h : Commits t db a db') : NoneOpen db' :=
  hq.of_keepsRun (ht _ _ _ h)

theorem transitionRun_noneOpen {progress : Progress} {eventType : EventType} {payload : EventPayload}
    {updated : TaskRun} (hq : NoneOpen db) (hprogress : progress.lifecycle ≠ .pauseRequested)
    (h : Commits (transitionRun run progress eventType payload clock) db updated db') : NoneOpen db' := by
  obtain ⟨-, hrun, hcommands⟩ := transitionRun_row h
  exact hq.move hcommands (hrun ▸ hprogress)

theorem closeRun_noneOpen {events : List TaskExecutionEvent} {result : RunResult} {updated : TaskRun}
    (hq : NoneOpen db) (h : Commits (closeRun run events result now clock) db updated db') : NoneOpen db' := by
  have hevent : Within KeepsRun (requireExactRunResultEvent events run result) :=
    reads_requireExactRunResultEvent.within
  have hfinalized : ∀ m m' r, NoneOpen m → Commits (finalizeRun run events result now clock) m r m' →
      NoneOpen m' := by
    intro m m' r hm hfinal
    simp only [finalizeRun, commits_ite] at hfinal
    rcases hfinal with ⟨-, ⟨-, hkept⟩ | ⟨-, hmove⟩⟩ | ⟨-, hmove⟩
    · exact Within.noneOpen (.bind hevent fun _ => .pure _) hm hkept
    · exact transitionRun_noneOpen hm (by simp [finalizedNow]) hmove
    · exact transitionRun_noneOpen hm (by simp [finalizedNow]) hmove
  rw [closeRun, commits_ite] at h
  rcases h with ⟨-, h⟩ | ⟨-, h⟩
  · exact Within.noneOpen (.bind (.raiseIf _ _) fun _ => .bind hevent fun _ => .pure _) hq h
  · rw [commits_raiseIf_bind] at h
    obtain ⟨r, m, hfinal, hclose⟩ := commits_bind.1 h.2
    exact transitionRun_noneOpen (hfinalized _ _ _ hq hfinal) (by simp [closedNow]) hclose

theorem applyCommand_noneOpen {commandType : TaskRunCommandType} {intentId : Uuid}
    {commandDigest : Digest} {u : Unit} (hq : NoneOpen db)
    (h : Commits (Service.applyCommand commandType intentId commandDigest) db u db') : NoneOpen db' := by
  obtain ⟨hrun, c, -, ⟨hcommands, -⟩ | hcommands⟩ := applyCommand_commits h
  · exact hq.move hcommands (hrun ▸ hq.lifecycle)
  · refine ⟨by rw [hcommands, ids_modify]; exact hq.keyed, fun d hd => ?_, hrun ▸ hq.lifecycle⟩
    rw [hcommands] at hd
    obtain ⟨b, hb, rfl⟩ := Table.mem_modify.1 hd
    split
    · exact openControl_applied b
    · exact hq.settled b hb

theorem applyFinishCommands_noneOpen {projected : Bool} {request : TaskRunWorkflowInput}
    {commands : List TaskRunCommandSignal} {cancelRequested : Bool} {result : RunResult} {u : Unit}
    (hq : NoneOpen db)
    (h : Commits (applyFinishCommands projected request commands cancelRequested result) db u db') :
    NoneOpen db' := by
  unfold applyFinishCommands at h
  split at h
  · rw [commits_ite] at h
    rcases h with ⟨-, h⟩ | ⟨-, h⟩
    · obtain ⟨-, rfl⟩ := commits_pure.1 h
      exact hq
    · rw [commits_read_bind] at h
      split at h
      · obtain ⟨-, rfl⟩ := commits_pure.1 h
        exact hq
      · obtain ⟨command, m, hrequire, happly⟩ := commits_bind.1 h
        obtain ⟨-, -, rfl⟩ := requireControlCommand_commits hrequire
        exact applyCommand_noneOpen hq happly
  · simp only [requireExactFinishCommand, commits_raiseIf_bind] at h
    exact applyCommand_noneOpen hq h.2.2.2

/-- The children are reconciled under the Run as it is. -/
theorem reconcileRunChildren_keepsRun {request : TaskRunFinishInput} {cancelRequested : Bool}
    {units : List ExecutionUnit} {attempts : List UnitAttempt} {events : List TaskExecutionEvent} :
    Within KeepsRun (reconcileRunChildren H unitRetryAttemptId request cancelRequested run units
      attempts events now clock) := by
  have hchild : ∀ child ordinal, Within KeepsRun
      (reconcileChild H unitRetryAttemptId request run events now clock child ordinal) :=
    fun child ordinal => .bind (.read _) fun _ => .bind (.read _) fun _ => .bind (.demand _ _) fun _ =>
      .bind (.demand _ _) fun _ => .bind (.raiseIf _ _) fun _ => .bind (.raiseIf _ _) fun _ =>
      .bind (.raiseIf _ _) fun _ => .bind (.raiseIf _ _) fun _ => reconcileAttemptChain_keepsRun
  have hloop : ∀ children ordinal, Within KeepsRun
      (reconcileChildren H unitRetryAttemptId request run events now clock ordinal children) := by
    intro children
    induction children with
    | nil => exact fun _ => .pure _
    | cons child children ih => exact fun ordinal => .bind (hchild _ _) fun _ => ih _
  exact .bind (.raiseIf _ _) fun _ => .bind (.raiseIf _ _) fun _ =>
    .bind reads_planChildren.within fun _ => hloop _ _

theorem requireExactRoot_run {request : TaskRunWorkflowInput} {hash : Option Digest} {id : Uuid}
    (h : Commits (requireExactRoot request (db.getRun id) hash) db run db') :
    run = db.run ∧ db' = db := by
  simp only [requireExactRoot, commits_demand_bind, commits_raiseIf_bind, commits_pure] at h
  obtain ⟨found, hfound, -, rfl, rfl⟩ := h
  rw [Db.getRun] at hfound
  split at hfound
  · exact ⟨(Option.some.inj hfound).symm, rfl⟩
  · cases hfound

theorem finishRun_noneOpen {request : TaskRunFinishInput} {result : RunResult}
    (hc : ControlAgrees deliveries db)
    (h : Commits (finishRun H unitRetryAttemptId request now clock) db result db') : NoneOpen db' := by
  rw [finishRun, commits_read_bind, commits_read_bind] at h
  obtain ⟨run, m, hroot, h⟩ := commits_bind.1 h
  obtain ⟨hrun, rfl⟩ := requireExactRoot_run hroot
  rw [commits_demand_bind] at h
  obtain ⟨manifest, -, h⟩ := h
  obtain ⟨settled, m₁, hsettle, h⟩ := commits_bind.1 h
  have hquiet := (settleControlBeforeFinish_noneOpen hc hrun hsettle).1
  dsimp only at h
  rw [commits_read_bind, commits_read_bind, commits_read_bind] at h
  obtain ⟨_, m₂, hchildren, h⟩ := commits_bind.1 h
  obtain ⟨_, m₃, hclose, h⟩ := commits_bind.1 h
  obtain ⟨_, m₄, hsnapshot, h⟩ := commits_bind.1 h
  obtain ⟨_, m₅, happly, h⟩ := commits_bind.1 h
  obtain ⟨-, rfl⟩ := commits_pure.1 h
  have hclosed := closeRun_noneOpen (Within.noneOpen reconcileRunChildren_keepsRun hquiet hchildren) hclose
  exact applyFinishCommands_noneOpen (Within.noneOpen snapshotTaskResult_keepsRun hclosed hsnapshot) happly

theorem finishPartitionedRun_noneOpen {request : TaskRunProjectedFinishInput} {result : RunResult}
    (hc : ControlAgrees deliveries db)
    (h : Commits (finishPartitionedRun H request now clock) db result db') : NoneOpen db' := by
  rw [finishPartitionedRun, commits_read_bind, commits_read_bind] at h
  obtain ⟨run, m, hroot, h⟩ := commits_bind.1 h
  obtain ⟨hrun, rfl⟩ := requireExactRoot_run hroot
  rw [commits_demand_bind] at h
  obtain ⟨manifest, -, h⟩ := h
  rw [commits_raiseIf_bind] at h
  obtain ⟨settled, m₁, hsettle, h⟩ := commits_bind.1 h.2
  have hquiet := (settleControlBeforeFinish_noneOpen hc hrun hsettle).1
  dsimp only at h
  simp only [requireCompleteProjection, commits_read_bind, commits_raiseIf_bind] at h
  obtain ⟨-, -, h⟩ := h
  obtain ⟨_, m₃, hclose, h⟩ := commits_bind.1 h
  obtain ⟨_, m₄, hsnapshot, h⟩ := commits_bind.1 h
  obtain ⟨_, m₅, happly, h⟩ := commits_bind.1 h
  obtain ⟨-, rfl⟩ := commits_pure.1 h
  exact applyFinishCommands_noneOpen
    (Within.noneOpen snapshotTaskResult_keepsRun (closeRun_noneOpen hquiet hclose) hsnapshot) happly

/-! ### Starting -/

theorem lockAttemptChain_run {taskRunId unitId attemptId : Uuid}
    {chain : TaskRun × ExecutionUnit × UnitAttempt}
    (h : Commits (lockAttemptChain taskRunId unitId attemptId) db chain db') :
    chain.1 = db.run ∧ db' = db := by
  simp only [lockAttemptChain, commits_bind, commits_read, commits_demand, commits_pure] at h
  obtain ⟨_, _, ⟨rfl, rfl⟩, _, _, ⟨rfl, rfl⟩, _, _, ⟨rfl, rfl⟩, run, _, ⟨hrun, rfl⟩, _, _, ⟨-, rfl⟩, _, _,
    ⟨-, rfl⟩, rfl, rfl⟩ := h
  rw [Db.getRun] at hrun
  split at hrun
  · exact ⟨(Option.some.inj hrun).symm, rfl⟩
  · cases hrun

/-- The Run is left alone, or it was queued and runs now. -/
def Starts (db db' : Db) : Prop :=
  KeepsRun db db' ∨ (db.run.lifecycle = .queued ∧ db'.run.lifecycle = .running ∧
    db'.commands = db.commands)

theorem startChain_starts {unit : ExecutionUnit} {attempt : UnitAttempt} {retry : Bool}
    {begun : TaskAttemptBeginPayload} (hrun : run = db.run)
    (h : Commits (startChain run unit attempt retry now clock) db begun db') : Starts db db' := by
  have hattempt : ∀ run unit, Within KeepsRun (do
      let _ ← transitionAttempt run unit attempt (startedNow attempt.toExecutionState now)
        .attemptStarted .empty clock
      pure ⟨TaskAttemptBeginStatus.ready, none⟩ : Op TaskAttemptBeginPayload) := fun run unit =>
    .bind transitionAttempt_keepsRun fun _ => .pure _
  have hunit : ∀ run, Within KeepsRun (if retry = true then do
        let unit ← pure unit
        let _ ← transitionAttempt run unit attempt (startedNow attempt.toExecutionState now)
          .attemptStarted .empty clock
        pure ⟨TaskAttemptBeginStatus.ready, none⟩
      else do
        let unit ← transitionUnit run unit (startedNow unit.toExecutionState now) .unitStarted .empty clock
        let _ ← transitionAttempt run unit attempt (startedNow attempt.toExecutionState now)
          .attemptStarted .empty clock
        pure ⟨TaskAttemptBeginStatus.ready, none⟩ : Op TaskAttemptBeginPayload) := fun run =>
    .ite (.bind (.pure _) fun _ => hattempt run _) (.bind transitionUnit_keepsRun fun _ => hattempt run _)
  rw [startChain] at h
  dsimp only at h
  rw [commits_ite] at h
  rcases h with ⟨hqueued, h⟩ | ⟨-, h⟩
  · obtain ⟨started, m, hmove, hrest⟩ := commits_bind.1 h
    obtain ⟨-, hstarted, hcommands⟩ := transitionRun_row hmove
    have hkept := hunit started _ _ _ hrest
    exact .inr ⟨hrun ▸ hqueued, by rw [hkept.run, hstarted]; rfl, hkept.commands.trans hcommands⟩
  · exact .inl (hunit _ _ _ _ h)

theorem startAttempt_starts {request : UnitAttemptWorkflowInput} {admission : Admission}
    {begun : TaskAttemptBeginPayload}
    (h : Commits (startAttempt unitRetryAttemptId request admission now clock) db begun db') :
    Starts db db' := by
  obtain ⟨chain, m, hlock, hstart⟩ := commits_bind.1 h
  obtain ⟨hrun, rfl⟩ := lockAttemptChain_run hlock
  have hkept : ∀ {t : Op TaskAttemptBeginPayload} {begun : TaskAttemptBeginPayload} {db' : Db},
      Reads t → Commits t m begun db' → Starts m db' :=
    fun ht hcommits => .inl (ht.within _ _ _ hcommits)
  have hchain : ∀ {retry : Bool} {begun : TaskAttemptBeginPayload} {db' : Db},
      Commits (startChain chain.1 chain.2.1 chain.2.2 retry now clock) m begun db' →
        Starts m db' := fun hcommits => startChain_starts hrun hcommits
  -- Everything before the chain starts only reads.
  obtain ⟨_, m₁, hrequest, hrest⟩ := commits_bind.1 hstart
  have hm₁ := reads_requireExactAttemptRequest.same hrequest
  subst m₁
  rw [commits_ite, commits_ite, commits_ite] at hrest
  rcases hrest with ⟨-, hrest⟩ | ⟨-, ⟨-, hrest⟩ | ⟨-, ⟨-, hrest⟩ | ⟨-, hrest⟩⟩⟩
  · exact hkept reads_beginClosed hrest
  · exact hkept (.pure _) hrest
  · exact hkept (.pure _) hrest
  · obtain ⟨authorized, m₂, hpause, hrest⟩ := commits_bind.1 hrest
    have hm₂ := reads_pauseAuthorized.same hpause
    subst m₂
    rw [commits_ite] at hrest
    rcases hrest with ⟨-, hrest⟩ | ⟨-, hrest⟩
    · exact hkept (.pure _) hrest
    · rw [commits_read_bind] at hrest
      split at hrest
      · exact hkept (.pure _) hrest
      · rw [commits_ite, commits_ite, commits_ite] at hrest
        rcases hrest with ⟨-, hrest⟩ | ⟨-, ⟨-, hrest⟩ | ⟨-, ⟨-, hrest⟩ | ⟨-, hrest⟩⟩⟩
        · exact hkept (.pure _) hrest
        · exact hkept (.pure _) hrest
        · exact hchain hrest
        · cases admission with
          | admitted => exact hchain hrest
          | unsatisfied => exact hkept (.pure _) hrest
          | raised fault => exact absurd hrest (by simp)

/-- Nothing is open before a Run starts. -/
theorem Starts.agrees (hc : ControlAgrees deliveries db) (h : Starts db db') :
    ControlAgrees deliveries db' := by
  rcases h with hkept | ⟨hqueued, hrunning, hcommands⟩
  · exact hc.of_keepsRun hkept
  · have hnone : NoneOpen db := hc.noneOpen (by rw [hqueued]; rfl)
    exact (hnone.move hcommands (by simp [hrunning])).agrees deliveries

/-! ### The API -/

theorem ids_append {command : TaskRunCommandIntent} {commands : List TaskRunCommandIntent}
    (hkeyed : (commands.map fun c => c.id).Nodup) (hfresh : ∀ c ∈ commands, c.id ≠ command.id) :
    ((commands ++ [command]).map fun c => c.id).Nodup := by
  rw [List.map_append, List.nodup_append]
  refine ⟨hkeyed, by simp, fun id hid other hother => ?_⟩
  obtain ⟨c, hc, rfl⟩ := List.mem_map.1 hid
  obtain rfl : other = command.id := by simpa using hother
  exact hfresh c hc

/-- A command opens where none was open. -/
theorem ControlAgrees.opened {command : TaskRunCommandIntent}
    (hkeyed : (db.commands.map fun c => c.id).Nodup)
    (hnone : ∀ c ∈ db.commands, openControl c = false) (hfresh : ∀ c ∈ db.commands, c.id ≠ command.id)
    (hopen : openControl command = true) (hcommands : db'.commands = db.commands ++ [command])
    (htype : controlType db'.run.lifecycle = some command.commandType) :
    ControlAgrees deliveries db' := by
  have hmem : command ∈ db'.commands := by
    rw [hcommands]
    exact List.mem_append_right _ (List.mem_singleton_self _)
  refine ⟨?_, ?_, fun c hc hco => ?_, fun _ _ => ⟨command, hmem, hopen⟩, fun _ => .inl ⟨command, hmem, hopen⟩⟩
  · rw [hcommands]
    exact ids_append hkeyed hfresh
  · rw [hcommands]
    exact .append hnone
  · rw [hcommands] at hc
    rcases List.mem_append.1 hc with hold | hnew
    · simp [hnone c hold] at hco
    · obtain rfl := List.mem_singleton.1 hnew
      exact htype

theorem insertCommand_commits {command : TaskRunCommandIntent} {u : Unit}
    (h : Commits (insertCommand command) db u db') :
    (∀ c ∈ db.commands, c.id ≠ command.id) ∧
      db' = { db with commands := db.commands ++ [command] } := by
  simp only [insertCommand, commits_bind, commits_read, commits_raiseIf, commits_update] at h
  obtain ⟨_, _, ⟨rfl, rfl⟩, _, _, ⟨hfresh, rfl⟩, _, _, ⟨rfl, rfl⟩, _, _, ⟨-, rfl⟩, rfl⟩ := h
  exact ⟨fun c hc hid => hfresh (.inl ⟨c, hc, .inl hid⟩), rfl⟩

theorem openControl_superseded (c : TaskRunCommandIntent) :
    openControl { c with status := .superseded } = false := by
  simp [openControl, openCommand]

/-- What a Cancel leaves. -/
theorem superseded_noneOpen {commands : List TaskRunCommandIntent}
    (hkeyed : (commands.map fun c => c.id).Nodup)
    (hcommands : db'.commands = commands.map fun c =>
      if openControl c then { c with status := .superseded } else c)
    (hrun : db'.run.lifecycle ≠ .pauseRequested) : NoneOpen db' := by
  refine ⟨?_, fun c hc => ?_, hrun⟩
  · have hid : ∀ c : TaskRunCommandIntent,
        (if openControl c = true then { c with status := .superseded } else c).id = c.id := by
      intro c
      split <;> rfl
    rw [hcommands, List.map_map]
    simpa only [Function.comp_def, hid] using hkeyed
  · rw [hcommands] at hc
    obtain ⟨b, -, rfl⟩ := List.mem_map.1 hc
    by_cases hopen : openControl b = true
    · rw [if_pos hopen]
      exact openControl_superseded b
    · rw [if_neg hopen]
      simpa using hopen

theorem targetLifecycle_control {commandType : TaskRunCommandType}
    {current target : ExecutionLifecycle} (h : targetLifecycle commandType current = .ok target) :
    controlType target = if commandType = .cancel then none else some commandType := by
  revert h
  cases commandType <;> cases current <;> simp [targetLifecycle] <;> rintro rfl <;> rfl

/-- What the API does with a new command. -/
structure CommandAccepted (commandType : TaskRunCommandType) (db db' : Db) : Prop where
  target : targetLifecycle commandType db.run.lifecycle = .ok db'.run.lifecycle
  free : commandType ≠ .cancel → ∀ c ∈ db.commands, openControl c = false
  commands : ∃ command, (∀ c ∈ db.commands, c.id ≠ command.id) ∧ command.commandType = commandType ∧
    openCommand command.status = true ∧
    db'.commands = if commandType = .cancel then
      (db.commands ++ [command]).map fun c =>
        if openControl c then { c with status := .superseded } else c
    else db.commands ++ [command]

theorem acceptCommand_accepted {actor : ActorContext} {taskRunId : Uuid}
    {commandType : TaskRunCommandType} {expectedRevision : ℕ} {commandDigest : Digest}
    {existing : Option TaskRunCommandIntent} {accepted : TaskRunCommandIntent}
    (h : Commits (acceptCommand commandEvent actor taskRunId commandType expectedRevision commandDigest
      existing now clock) db accepted db') : db' = db ∨ CommandAccepted commandType db db' := by
  rw [acceptCommand, commits_read_bind] at h
  obtain ⟨run, m, hoperable, hrest⟩ := commits_bind.1 h
  clear h
  obtain ⟨hrun, hm⟩ : run = db.run ∧ m = db := by
    simp only [TaskCommandService.requireOperableRun, commits_demand_bind, commits_raiseIf_bind,
      commits_pure] at hoperable
    obtain ⟨found, hfound, -, -, hsame, hm⟩ := hoperable
    obtain ⟨hfound, -⟩ := Option.filter_eq_some_iff.1 hfound
    rw [Db.getRun] at hfound
    split at hfound
    · exact ⟨hsame.trans (Option.some.inj hfound).symm, hm⟩
    · cases hfound
  subst hrun m
  cases existing with
  | some stored =>
    rw [commits_raiseIf_bind, commits_pure] at hrest
    exact .inl hrest.2.2
  | none =>
    right
    rw [commits_raiseIf_bind] at hrest
    replace hrest := hrest.2
    dsimp only at hrest
    cases htarget : targetLifecycle commandType db.run.lifecycle with
    | error detail => simp [htarget] at hrest
    | ok target =>
      rw [htarget] at hrest
      dsimp only at hrest
      rw [commits_raiseIf_bind, commits_read_bind, commits_raiseIf_bind] at hrest
      obtain ⟨-, hfree, hrest⟩ := hrest
      obtain ⟨updated, m₁, hstate, hrest⟩ := commits_bind.1 hrest
      obtain ⟨next, -, haxes, hupdated, hm₁⟩ := transitionTaskRunState_commits hstate
      obtain ⟨id, m₂, hid, hrest⟩ := commits_bind.1 hrest
      obtain ⟨-, hm₂⟩ := commits_newEntityId.1 hid
      obtain ⟨_, m₃, hinsert, hrest⟩ := commits_bind.1 hrest
      obtain ⟨hfresh, hm₃⟩ := insertCommand_commits hinsert
      have hcommands : m₂.commands = db.commands := by rw [hm₂, hm₁]
      have hlifecycle : m₃.run.lifecycle = target := by
        rw [hm₃, hm₂, hm₁, hupdated]
        exact congrArg (fun x => x.lifecycle) haxes
      have hnone : commandType ≠ .cancel → ∀ c ∈ db.commands, openControl c = false := by
        intro hpause
        have htype : commandType ∈ [.pause, .resume] := by
          revert hpause
          cases commandType <;> simp
        exact getOpenCommand_none.1 (by_contra fun hopen => hfree ⟨htype, hopen⟩)
      rw [commits_ite] at hrest
      rcases hrest with ⟨hcancel, hrest⟩ | ⟨hpause, hrest⟩
      · obtain ⟨_, m₄, hsupersede, hrest⟩ := commits_bind.1 hrest
        rw [supersedeForCancel, commits_update] at hsupersede
        have hkept := Within.bind recordEvent_keepsRun (fun _ => Within.pure _) _ _ _ hrest
        refine ⟨?_, hnone, ⟨_, hcommands ▸ hfresh, rfl, rfl, ?_⟩⟩
        · rw [htarget, hkept.run, hsupersede, hlifecycle]
        · rw [hkept.commands, hsupersede, if_pos hcancel, hm₃, hcommands]
      · have hkept := Within.bind recordEvent_keepsRun (fun _ => Within.pure _) _ _ _ hrest
        refine ⟨?_, hnone, ⟨_, hcommands ▸ hfresh, rfl, rfl, ?_⟩⟩
        · rw [htarget, hkept.run, hlifecycle]
        · rw [hkept.commands, if_neg hpause, hm₃, hcommands]

theorem CommandAccepted.agrees {commandType : TaskRunCommandType} (hc : ControlAgrees deliveries db)
    (h : CommandAccepted commandType db db') : ControlAgrees deliveries db' := by
  obtain ⟨command, hfresh, htype, hstatus, hcommands⟩ := h.commands
  have hcontrol := targetLifecycle_control h.target
  by_cases hcancel : commandType = .cancel
  · rw [if_pos hcancel] at hcommands hcontrol
    refine NoneOpen.agrees deliveries (superseded_noneOpen (ids_append hc.keyed hfresh) hcommands ?_)
    intro hrequested
    rw [hrequested] at hcontrol
    cases hcontrol
  · rw [if_neg hcancel] at hcommands hcontrol
    refine .opened hc.keyed (h.free hcancel) hfresh ?_ hcommands (htype ▸ hcontrol)
    have hpause : command.commandType ∈ [.pause, .resume] := by
      rw [htype]
      revert hcancel
      cases commandType <;> simp
    simp only [openControl, Bool.and_eq_true, decide_eq_true_eq]
    exact ⟨hpause, hstatus⟩

/-! ### The dispatcher -/

theorem deliveredStatus_open {delivery : CommandDelivery} {status next : TaskRunCommandStatus}
    (h : deliveredStatus run delivery status = some next) : openCommand status = true := by
  revert h
  cases delivery <;> cases status <;> simp [deliveredStatus, openCommand]

/-- Only a failed delivery settles a command. -/
theorem deliveredStatus_settles {delivery : CommandDelivery} {status next : TaskRunCommandStatus}
    (h : deliveredStatus run delivery status = some next) (hdelivery : delivery ≠ .fail) :
    openCommand next = true := by
  revert h
  cases delivery <;> cases status <;> simp_all [deliveredStatus] <;> rintro rfl <;> rfl

/-- Under a Run that is not closed a delivery leaves a command open or fails it. -/
theorem deliveredStatus_fails {delivery : CommandDelivery} {status next : TaskRunCommandStatus}
    (h : deliveredStatus run delivery status = some next) (hrun : run.lifecycle ≠ .closed) :
    openCommand next = true ∨ next = .failed := by
  by_cases hdelivery : delivery = .fail
  · subst hdelivery
    revert h
    cases status <;> simp [deliveredStatus, hrun]
    exact fun hnext => .inr hnext.symm
  · exact .inl (deliveredStatus_settles h hdelivery)

/-- The status of a command before and after a statement of the dispatcher. -/
def Delivers (run : TaskRun) (delivery : CommandDelivery) (old new : TaskRunCommandStatus) : Prop :=
  new = old ∨ deliveredStatus run delivery old = some new

theorem Delivers.open {delivery : CommandDelivery} {old new : TaskRunCommandStatus}
    (h : Delivers run delivery old new) (hnew : openCommand new = true) : openCommand old = true := by
  rcases h with rfl | h
  · exact hnew
  · exact deliveredStatus_open h

theorem Delivers.keepsOpen {delivery : CommandDelivery} {old new : TaskRunCommandStatus}
    (h : Delivers run delivery old new) (hdelivery : delivery ≠ .fail)
    (hold : openCommand old = true) : openCommand new = true := by
  rcases h with rfl | h
  · exact hold
  · exact deliveredStatus_settles h hdelivery

theorem Delivers.fails {delivery : CommandDelivery} {old new : TaskRunCommandStatus}
    (h : Delivers run delivery old new) (hrun : run.lifecycle ≠ .closed)
    (hold : openCommand old = true) : openCommand new = true ∨ new = .failed := by
  rcases h with rfl | h
  · exact .inl hold
  · exact deliveredStatus_fails h hrun

theorem Delivers.keepsFailed {delivery : CommandDelivery} {old new : TaskRunCommandStatus}
    (h : Delivers run delivery old new) (hold : old = .failed) : new = .failed := by
  rcases h with rfl | h
  · exact hold
  · have hopen := deliveredStatus_open h
    rw [hold] at hopen
    cases hopen

theorem openControl_of_status {c : TaskRunCommandIntent} {status : TaskRunCommandStatus}
    (himp : openCommand status = true → openCommand c.status = true)
    (h : openControl { c with status := status } = true) : openControl c = true := by
  simp only [openControl, Bool.and_eq_true] at h ⊢
  exact ⟨h.1, himp h.2⟩

/-- A delivery writes statuses only. -/
theorem deliverCommand_rows {delivery : CommandDelivery} {intentId : Uuid} {held : Bool} {u : Unit}
    (h : Commits (deliverCommand delivery intentId held) db u db') :
    ∃ f, db' = { db with commands := db.commands.map f } ∧ ∀ c : TaskRunCommandIntent,
      ∃ status, f c = { c with status := status } ∧ Delivers db.run delivery c.status status := by
  rw [deliverCommand, commits_update] at h
  refine ⟨_, h, fun c => ?_⟩
  split
  · split
    · exact ⟨c.status, rfl, .inl rfl⟩
    · rename_i status hstatus
      exact ⟨status, rfl, .inr hstatus⟩
  · exact ⟨c.status, rfl, .inl rfl⟩

theorem deliverCommand_agrees {delivery : CommandDelivery} {intentId : Uuid} {held : Bool} {u : Unit}
    (made : deliveries delivery) (hc : ControlAgrees deliveries db)
    (h : Commits (deliverCommand delivery intentId held) db u db') : ControlAgrees deliveries db' := by
  obtain ⟨f, rfl, hrow⟩ := deliverCommand_rows h
  have hopen : ∀ c, openControl (f c) = true → openControl c = true := by
    intro c hco
    obtain ⟨status, hsame, hdelivers⟩ := hrow c
    rw [hsame] at hco
    exact openControl_of_status hdelivers.open hco
  have hcolumns : ∀ c, (f c).id = c.id ∧ (f c).commandType = c.commandType := by
    intro c
    obtain ⟨status, hsame, -⟩ := hrow c
    rw [hsame]
    exact ⟨rfl, rfl⟩
  refine ⟨?_, hc.single.map hopen, fun c hmem hco => ?_, fun hfail hrun => ?_, fun hrun => ?_⟩
  · rw [List.map_map, show (fun c : TaskRunCommandIntent => c.id) ∘ f = fun c => c.id from
      funext fun c => (hcolumns c).1]
    exact hc.keyed
  · obtain ⟨b, hb, rfl⟩ := List.mem_map.1 hmem
    rw [(hcolumns b).2]
    exact hc.typed b hb (hopen b hco)
  · obtain ⟨b, hb, hbo⟩ := hc.pending hfail hrun
    obtain ⟨status, hsame, hdelivers⟩ := hrow b
    refine ⟨f b, List.mem_map_of_mem hb, ?_⟩
    rw [hsame]
    simp only [openControl, Bool.and_eq_true] at hbo ⊢
    exact ⟨hbo.1, hdelivers.keepsOpen (fun hd => hfail (hd ▸ made)) hbo.2⟩
  · rcases hc.failed hrun with ⟨b, hb, hbo⟩ | ⟨b, hb, htype, hfailed⟩
    · -- The open command is the requested Pause: it stays open, or is failed now.
      have htype : b.commandType = .pause := by
        have htyped := hc.typed b hb hbo
        rw [hrun] at htyped
        exact (Option.some.inj htyped).symm
      obtain ⟨status, hsame, hdelivers⟩ := hrow b
      simp only [openControl, Bool.and_eq_true] at hbo
      have hrunning : db.run.lifecycle ≠ .closed := fun hclosed => by
        rw [show db.run.lifecycle = .pauseRequested from hrun] at hclosed
        cases hclosed
      rcases hdelivers.fails hrunning hbo.2 with hstill | hfailed
      · refine .inl ⟨f b, List.mem_map_of_mem hb, ?_⟩
        rw [hsame]
        simp only [openControl, Bool.and_eq_true]
        exact ⟨hbo.1, hstill⟩
      · exact .inr ⟨f b, List.mem_map_of_mem hb, by rw [hsame]; exact htype, by rw [hsame]; exact hfailed⟩
    · obtain ⟨status, hsame, hdelivers⟩ := hrow b
      exact .inr ⟨f b, List.mem_map_of_mem hb, by rw [hsame]; exact htype,
        by rw [hsame]; exact hdelivers.keepsFailed hfailed⟩

/-! ### The Root -/

/-- What the checkpoint answers in a state of the Run. -/
def controlState : ExecutionLifecycle → TaskRunControlState
  | .queued | .running => .dispatchable
  | .pauseRequested | .paused => .paused
  | .canceling => .canceling
  | .finalizing | .closed => .closed

/-- After the checkpoint nothing is open, and its answer tells the state of the Run. -/
theorem checkpointControl_commits {request : TaskRunWorkflowInput} {answer : TaskRunControlState}
    (hc : ControlAgrees deliveries db)
    (h : Commits (checkpointControl request clock) db answer db') :
    NoneOpen db' ∧ answer = controlState db'.run.lifecycle ∧
      (db'.run = db.run ∨ db'.run.lifecycle ∈ [.paused, .running]) := by
  rw [checkpointControl, commits_read_bind, commits_read_bind] at h
  obtain ⟨run, m, hroot, hrest⟩ := commits_bind.1 h
  obtain ⟨hrun, rfl⟩ := requireExactRoot_run hroot
  rw [commits_read_bind] at hrest
  subst hrun
  cases hlifecycle : m.run.lifecycle with
  | canceling | finalizing | closed =>
    rw [hlifecycle] at hrest
    obtain ⟨rfl, rfl⟩ := commits_pure.1 hrest
    exact ⟨hc.noneOpen (by rw [hlifecycle]; rfl), by rw [hlifecycle]; rfl, .inl rfl⟩
  | queued | running =>
    rw [hlifecycle] at hrest
    dsimp only at hrest
    rw [commits_raiseIf_bind, commits_pure] at hrest
    obtain ⟨-, rfl, rfl⟩ := hrest
    exact ⟨hc.noneOpen (by rw [hlifecycle]; rfl), by rw [hlifecycle]; rfl, .inl rfl⟩
  | pauseRequested =>
    rw [hlifecycle] at hrest
    dsimp only at hrest
    obtain ⟨command, m₁, hrequire, hafter⟩ := commits_bind.1 hrest
    obtain ⟨updated, m₂, hsettle, hpure⟩ := commits_bind.1 hafter
    obtain ⟨rfl, rfl⟩ := commits_pure.1 hpure
    obtain ⟨hopen, rfl⟩ := requireControlCommand_open hrequire
    obtain ⟨hquiet, -, hpaused⟩ := settleControl_noneOpen hc hopen (by simp) hsettle
    exact ⟨hquiet, by rw [hpaused]; rfl, .inr (by simp [hpaused])⟩
  | paused =>
    rw [hlifecycle] at hrest
    dsimp only at hrest
    cases hcommand : getOpenCommand m with
    | none =>
      rw [hcommand] at hrest
      obtain ⟨rfl, rfl⟩ := commits_pure.1 hrest
      exact ⟨⟨hc.keyed, getOpenCommand_none.1 hcommand, by simp [hlifecycle]⟩, by rw [hlifecycle]; rfl,
        .inl rfl⟩
    | some command =>
      rw [hcommand] at hrest
      dsimp only at hrest
      rw [← hcommand] at hrest
      obtain ⟨command, m₁, hrequire, hafter⟩ := commits_bind.1 hrest
      obtain ⟨updated, m₂, hsettle, hpure⟩ := commits_bind.1 hafter
      obtain ⟨rfl, rfl⟩ := commits_pure.1 hpure
      obtain ⟨hopen, rfl⟩ := requireControlCommand_open hrequire
      obtain ⟨hquiet, -, hresumed⟩ := settleControl_noneOpen hc hopen (by simp) hsettle
      exact ⟨hquiet, by rw [hresumed]; rfl, .inr (by simp [hresumed])⟩

/-! ### The system -/

theorem begun_agrees (hbegun : Begun db₀) : ControlAgrees deliveries db₀ := by
  have hcommands := hbegun.commands
  refine NoneOpen.agrees deliveries ⟨by simp [hcommands], by simp [hcommands], ?_⟩
  rw [hbegun.run.1]
  simp

theorem TaskStep.agrees (h : TaskStep H P unitRetryAttemptId commandEvent deliveries db db')
    (hc : ControlAgrees deliveries db) : ControlAgrees deliveries db' := by
  have hcall : ∀ {α : Type} (t : Op α),
      (∀ a db', Commits t db a db' → ControlAgrees deliveries db') →
      ControlAgrees deliveries (after t db) := by
    intro α t ht
    rcases after_eq t db with hsame | ⟨a, hcommits⟩
    · rw [hsame]
      exact hc
    · exact ht a _ hcommits
  have hkept : ∀ {α : Type} (t : Op α), Within KeepsRun t → ControlAgrees deliveries (after t db) :=
    fun t ht => hcall t fun a db' hcommits => hc.of_keepsRun (ht _ _ _ hcommits)
  cases h with
  | prepareBatch => exact hkept _ prepareBatch_keepsRun
  | finishAttempt => exact hkept _ finishAttempt_keepsRun
  | finalize => exact hkept _ finalize_keepsRun
  | settleAttemptBatch => exact hkept _ settleAttemptBatch_keepsRun
  | checkpointControl =>
    exact hcall _ fun _ _ hcommits => (checkpointControl_commits hc hcommits).1.agrees deliveries
  | startAttempt => exact hcall _ fun _ _ hcommits => (startAttempt_starts hcommits).agrees hc
  | finishRun => exact hcall _ fun _ _ hcommits => (finishRun_noneOpen hc hcommits).agrees deliveries
  | finishPartitionedRun =>
    exact hcall _ fun _ _ hcommits => (finishPartitionedRun_noneOpen hc hcommits).agrees deliveries
  | acceptCommand =>
    refine hcall _ fun _ _ hcommits => ?_
    rcases acceptCommand_accepted hcommits with rfl | haccepted
    · exact hc
    · exact haccepted.agrees hc
  | deliverCommand delivery intentId held made =>
    exact hcall _ fun _ _ hcommits => deliverCommand_agrees made hc hcommits

theorem Runs.agrees (h : Runs H P unitRetryAttemptId commandEvent deliveries db₀ db)
    (hbegun : Begun db₀) : ControlAgrees deliveries db :=
  run_keeps (fun _ _ hstep => hstep.agrees) h (begun_agrees hbegun)

/-! The Run that has started is asked to pause, and the dispatcher gives the command up. -/

namespace GivenUp

open FreshRun

def actor : ActorContext := ⟨1, some 9, [], true⟩

def root : TaskRunWorkflowInput := ⟨1, 2, 3, 0, 0, 0, false⟩

def asked : Db := after (acceptCommand recorded actor 3 .pause 2 7 none 40 40) started

def claimed : Db := after (deliverCommand .claim 103 true) asked

def failed : Db := after (deliverCommand .fail 103 true) claimed

theorem runs_asked (deliveries : CommandDelivery → Prop) :
    Runs LateCleanup.hashes hygiene ShortDeadline.retryId recorded deliveries fresh asked :=
  (runs_started deliveries).tail (.acceptCommand actor 3 .pause 2 7 none 40 40)

theorem runs_failed :
    Runs LateCleanup.hashes hygiene ShortDeadline.retryId recorded (fun _ => True) fresh failed :=
  .tail (.tail (runs_asked _) (.deliverCommand .claim 103 true trivial)) (.deliverCommand .fail 103 true trivial)

end GivenUp

/-- In every reachable state at most one Pause or Resume is open, and it is the one that the
lifecycle of the Run is waiting for; behind a requested Pause that is not open there is one that
the dispatcher has failed. -/
theorem control_agrees (hbegun : Begun db₀)
    (h : Runs H P unitRetryAttemptId commandEvent deliveries db₀ db) : ControlAgrees deliveries db :=
  h.agrees hbegun

open FreshRun GivenUp in
theorem asked_control_agrees :
    ControlAgrees (fun d => d ≠ .fail) asked ∧ ControlAgrees (fun _ => True) failed :=
  ⟨control_agrees begun (runs_asked _), control_agrees begun runs_failed⟩

/-- In every reachable state an answered checkpoint has settled every Pause and Resume, and its
answer is the state of the Run after it. -/
theorem checkpoint_answers (hbegun : Begun db₀)
    (h : Runs H P unitRetryAttemptId commandEvent deliveries db₀ db) {request : TaskRunWorkflowInput}
    {answer : TaskRunControlState}
    (hcheckpoint : Commits (checkpointControl request clock) db answer db') :
    getOpenCommand db' = none ∧ answer = controlState db'.run.lifecycle ∧
      db'.run.lifecycle ≠ .pauseRequested := by
  obtain ⟨hquiet, hanswer, -⟩ := checkpointControl_commits (h.agrees hbegun) hcheckpoint
  exact ⟨getOpenCommand_none.2 hquiet.settled, hanswer, hquiet.lifecycle⟩

open FreshRun GivenUp in
theorem asked_checkpoint_answers :
    getOpenCommand (after (checkpointControl root 50) asked) = none ∧
      .paused = controlState (after (checkpointControl root 50) asked).run.lifecycle ∧
      (after (checkpointControl root 50) asked).run.lifecycle ≠ .pauseRequested :=
  checkpoint_answers begun (runs_asked fun _ => True) (show Commits (checkpointControl root 50) asked .paused _ from rfl)

/-! ### Conflicts -/

/-- The error that the Root fails on. -/
abbrev controlConflict : Fault := .worker "TASK_CONTROL_COMMAND_STATE_CONFLICT"

theorem settleControl_spares {command : TaskRunCommandIntent} {lifecycle : ExecutionLifecycle}
    {eventType : EventType} :
    ¬ Raises (settleControl run command lifecycle eventType clock) db controlConflict := by
  have hid : ∀ db, ¬ Raises newEntityId db controlConflict := fun db => by simp [Raises, newEntityId]
  have hnext : ∀ row revision axes old createdAt queuedAt db,
      ¬ Raises (nextState row revision axes old createdAt queuedAt clock) db controlConflict :=
    fun _ _ _ _ _ _ _ => by simp [nextState]
  have hmove : ∀ progress payload db,
      ¬ Raises (transitionRun run progress eventType payload clock) db controlConflict :=
    fun _ _ _ => by
      simp [transitionRun, transitionTaskRunState, sealedRun, recordEvent, appendEvent, hid, hnext]
  have happly : ∀ commandType id digest db,
      ¬ Raises (Service.applyCommand commandType id digest) db controlConflict :=
    fun _ _ _ _ => by simp [Service.applyCommand]
  simp [settleControl, hmove, happly]

/-- A control command is missing exactly where none is open: one that is open has the type that is
asked for. -/
theorem requireControlCommand_conflict {commandType : TaskRunCommandType}
    (hc : ControlAgrees deliveries db) (htype : controlType db.run.lifecycle = some commandType) :
    Raises (requireControlCommand (getOpenCommand db) commandType) db controlConflict ↔
      getOpenCommand db = none := by
  cases hopen : getOpenCommand db with
  | none => simp [requireControlCommand]
  | some command =>
    obtain rfl := Option.some.inj ((hc.openType hopen).symm.trans htype)
    simp [requireControlCommand]

theorem controlled_spares {commandType : TaskRunCommandType} {lifecycle : ExecutionLifecycle}
    {eventType : EventType} {answer : TaskRunControlState} {found : Option TaskRunCommandIntent} :
    Raises (do
      let command ← requireControlCommand found commandType
      let _ ← settleControl run command lifecycle eventType clock
      pure answer : Op TaskRunControlState) db controlConflict ↔
      Raises (requireControlCommand found commandType) db controlConflict := by
  simp [raises_bind, settleControl_spares]

/-- The checkpoint of the right Root fails on its commands exactly where a Pause is requested and
none is open. -/
theorem ControlAgrees.conflict_iff (hc : ControlAgrees deliveries db) (request : TaskRunWorkflowInput)
    (clock : Instant) :
    Raises (checkpointControl request clock) db controlConflict ↔
      (∃ run, Commits (requireExactRoot request (db.getRun request.taskRunId)
        ((db.getManifest request.taskRunId).map fun m => m.manifestHash)) db run db) ∧
      db.run.lifecycle = .pauseRequested ∧ getOpenCommand db = none := by
  have hroot : ∀ found hash, ¬ Raises (requireExactRoot request found hash) db controlConflict :=
    fun _ _ => by simp [requireExactRoot]
  rw [checkpointControl, raises_read_bind, raises_read_bind, raises_bind, or_iff_right (hroot _ _)]
  constructor
  · rintro ⟨run, m, hcommits, hraises⟩
    obtain ⟨hrun, rfl⟩ := requireExactRoot_run hcommits
    refine ⟨⟨run, hcommits⟩, ?_⟩
    rw [raises_read_bind] at hraises
    subst hrun
    cases hlifecycle : m.run.lifecycle with
    | canceling | finalizing | closed => simp [hlifecycle] at hraises
    | queued | running =>
      have hnone := getOpenCommand_none.2 (hc.noneOpen (by rw [hlifecycle]; rfl)).settled
      simp [hlifecycle, hnone] at hraises
    | pauseRequested =>
      rw [hlifecycle] at hraises
      exact ⟨rfl, (requireControlCommand_conflict hc (by rw [hlifecycle]; rfl)).1
        (controlled_spares.1 hraises)⟩
    | paused =>
      rw [hlifecycle] at hraises
      dsimp only at hraises
      cases hcommand : getOpenCommand m with
      | none => simp [hcommand] at hraises
      | some command =>
        rw [hcommand] at hraises
        dsimp only at hraises
        rw [← hcommand] at hraises
        have hnone := (requireControlCommand_conflict hc (by rw [hlifecycle]; rfl)).1
          (controlled_spares.1 hraises)
        simp [hcommand] at hnone
  · rintro ⟨⟨run, hcommits⟩, hlifecycle, hnone⟩
    refine ⟨run, db, hcommits, ?_⟩
    obtain ⟨rfl, -⟩ := requireExactRoot_run hcommits
    rw [raises_read_bind, hlifecycle]
    exact controlled_spares.2 ((requireControlCommand_conflict hc (by rw [hlifecycle]; rfl)).2 hnone)

/-- In every reachable state the checkpoint of the right Root fails on its commands exactly where a
Pause is requested and none is open. -/
theorem checkpoint_conflict (hbegun : Begun db₀)
    (h : Runs H P unitRetryAttemptId commandEvent deliveries db₀ db) (request : TaskRunWorkflowInput)
    (clock : Instant) :
    Raises (checkpointControl request clock) db (.worker "TASK_CONTROL_COMMAND_STATE_CONFLICT") ↔
      (∃ run, Commits (requireExactRoot request (db.getRun request.taskRunId)
        ((db.getManifest request.taskRunId).map fun m => m.manifestHash)) db run db) ∧
      db.run.lifecycle = .pauseRequested ∧ getOpenCommand db = none :=
  (h.agrees hbegun).conflict_iff request clock

open FreshRun GivenUp in
theorem failed_checkpoint_conflict :
    Raises (checkpointControl root 50) failed (.worker "TASK_CONTROL_COMMAND_STATE_CONFLICT") :=
  (checkpoint_conflict begun runs_failed root 50).2 ⟨⟨failed.run, rfl⟩, by decide, by decide⟩

/-- Where the dispatcher gives up no command, the checkpoint never fails on them. -/
theorem checkpoint_keeps_up (hbegun : Begun db₀)
    (h : Runs H P unitRetryAttemptId commandEvent deliveries db₀ db) (hfail : ¬ deliveries .fail)
    (request : TaskRunWorkflowInput) (clock : Instant) :
    ¬ Raises (checkpointControl request clock) db (.worker "TASK_CONTROL_COMMAND_STATE_CONFLICT") := by
  have hagrees := h.agrees hbegun
  rw [hagrees.conflict_iff]
  rintro ⟨-, hrequested, hnone⟩
  obtain ⟨c, hc, hopen⟩ := hagrees.pending hfail hrequested
  rw [getOpenCommand_none.1 hnone c hc] at hopen
  cases hopen

open FreshRun GivenUp in
theorem asked_checkpoint_keeps_up :
    ¬ Raises (checkpointControl root 50) asked (.worker "TASK_CONTROL_COMMAND_STATE_CONFLICT") :=
  checkpoint_keeps_up begun (runs_asked fun d => d ≠ .fail) (by simp) root 50

/-! ### A Pause that was given up -/

/-- A Pause is requested, and no command is there to apply. -/
structure Stuck (db : Db) : Prop where
  requested : db.run.lifecycle = .pauseRequested
  settled : ∀ c ∈ db.commands, openControl c = false

theorem Stuck.of_keepsRun (h : Stuck db) (hk : KeepsRun db db') : Stuck db' :=
  ⟨by rw [hk.run]; exact h.requested, by rw [hk.commands]; exact h.settled⟩

theorem Stuck.no_command {commandType : TaskRunCommandType} {command : TaskRunCommandIntent}
    (h : Stuck db) :
    ¬ Commits (requireControlCommand (getOpenCommand db) commandType) db command db' := by
  intro hrequire
  have hopen := (requireControlCommand_open hrequire).1
  rw [getOpenCommand_none.2 h.settled] at hopen
  cases hopen

theorem Stuck.no_checkpoint {request : TaskRunWorkflowInput} {answer : TaskRunControlState}
    (h : Stuck db) : ¬ Commits (checkpointControl request clock) db answer db' := by
  intro hcommits
  rw [checkpointControl, commits_read_bind, commits_read_bind] at hcommits
  obtain ⟨run, m, hroot, hrest⟩ := commits_bind.1 hcommits
  obtain ⟨hrun, hm⟩ := requireExactRoot_run hroot
  subst hrun m
  rw [commits_read_bind, h.requested] at hrest
  obtain ⟨command, m, hrequire, -⟩ := commits_bind.1 hrest
  exact h.no_command hrequire

theorem Stuck.no_settle {updated : TaskRun} (h : Stuck db) (hrun : run = db.run) :
    ¬ Commits (settleControlBeforeFinish run clock) db updated db' := by
  intro hcommits
  rw [settleControlBeforeFinish, commits_ite] at hcommits
  rcases hcommits with ⟨houtside, -⟩ | ⟨-, hcommits⟩
  · exact houtside (by simp [hrun, h.requested])
  · dsimp only at hcommits
    rw [if_pos (by rw [hrun]; exact h.requested), commits_read_bind] at hcommits
    obtain ⟨command, m, hrequire, -⟩ := commits_bind.1 hcommits
    exact h.no_command hrequire

theorem Stuck.no_finish {request : TaskRunFinishInput} {result : RunResult} (h : Stuck db) :
    ¬ Commits (finishRun H unitRetryAttemptId request now clock) db result db' := by
  intro hcommits
  rw [finishRun, commits_read_bind, commits_read_bind] at hcommits
  obtain ⟨run, m, hroot, hrest⟩ := commits_bind.1 hcommits
  obtain ⟨hrun, hm⟩ := requireExactRoot_run hroot
  subst m
  rw [commits_demand_bind] at hrest
  obtain ⟨manifest, -, hrest⟩ := hrest
  obtain ⟨settled, m₁, hsettle, -⟩ := commits_bind.1 hrest
  exact h.no_settle hrun hsettle

theorem Stuck.no_partitioned_finish {request : TaskRunProjectedFinishInput} {result : RunResult}
    (h : Stuck db) : ¬ Commits (finishPartitionedRun H request now clock) db result db' := by
  intro hcommits
  rw [finishPartitionedRun, commits_read_bind, commits_read_bind] at hcommits
  obtain ⟨run, m, hroot, hrest⟩ := commits_bind.1 hcommits
  obtain ⟨hrun, hm⟩ := requireExactRoot_run hroot
  subst m
  rw [commits_demand_bind] at hrest
  obtain ⟨manifest, -, hrest⟩ := hrest
  rw [commits_raiseIf_bind] at hrest
  obtain ⟨settled, m₁, hsettle, -⟩ := commits_bind.1 hrest.2
  exact h.no_settle hrun hsettle

/-- The API accepts a new Cancel. -/
def CancelAccepted (commandEvent : TaskRunCommandIntent → EventType × EventPayload) (db db' : Db) : Prop :=
  db'.run.lifecycle = .canceling ∧ ∃ actor taskRunId expectedRevision digest existing now clock accepted,
    Commits (acceptCommand commandEvent actor taskRunId .cancel expectedRevision digest existing now
      clock) db accepted db'

/-- Only a Cancel leads on. -/
theorem Stuck.step (h : Stuck db)
    (hstep : TaskStep H P unitRetryAttemptId commandEvent deliveries db db') :
    Stuck db' ∨ CancelAccepted commandEvent db db' := by
  have hcall : ∀ {α : Type} (t : Op α),
      (∀ a db', Commits t db a db' → Stuck db' ∨ CancelAccepted commandEvent db db') →
      Stuck (after t db) ∨ CancelAccepted commandEvent db (after t db) := by
    intro α t ht
    rcases after_eq t db with hsame | ⟨a, hcommits⟩
    · rw [hsame]
      exact .inl h
    · exact ht a _ hcommits
  have hkept : ∀ {α : Type} (t : Op α), Within KeepsRun t →
      Stuck (after t db) ∨ CancelAccepted commandEvent db (after t db) :=
    fun t ht => hcall t fun a db' hcommits => .inl (h.of_keepsRun (ht _ _ _ hcommits))
  cases hstep with
  | prepareBatch => exact hkept _ prepareBatch_keepsRun
  | finishAttempt => exact hkept _ finishAttempt_keepsRun
  | finalize => exact hkept _ finalize_keepsRun
  | settleAttemptBatch => exact hkept _ settleAttemptBatch_keepsRun
  | checkpointControl => exact hcall _ fun _ _ hcommits => absurd hcommits h.no_checkpoint
  | finishRun => exact hcall _ fun _ _ hcommits => absurd hcommits h.no_finish
  | finishPartitionedRun => exact hcall _ fun _ _ hcommits => absurd hcommits h.no_partitioned_finish
  | startAttempt =>
    refine hcall _ fun _ _ hcommits => ?_
    rcases startAttempt_starts hcommits with hkeeps | ⟨hqueued, -⟩
    · exact .inl (h.of_keepsRun hkeeps)
    · rw [h.requested] at hqueued
      cases hqueued
  | acceptCommand _ _ commandType =>
    refine hcall _ fun _ db' hcommits => ?_
    rcases acceptCommand_accepted hcommits with rfl | haccepted
    · exact .inl h
    · have htarget := haccepted.target
      rw [h.requested] at htarget
      cases commandType with
      | cancel =>
        exact .inr ⟨(Except.ok.inj htarget).symm, _, _, _, _, _, _, _, _, hcommits⟩
      | pause | resume => simp [targetLifecycle] at htarget
  | deliverCommand delivery intentId held =>
    refine hcall _ fun _ _ hcommits => .inl ?_
    obtain ⟨f, rfl, hrow⟩ := deliverCommand_rows hcommits
    refine ⟨h.requested, fun c hc => ?_⟩
    obtain ⟨b, hb, rfl⟩ := List.mem_map.1 hc
    obtain ⟨status, hsame, hdelivers⟩ := hrow b
    rw [Bool.eq_false_iff, hsame]
    intro hco
    have hbo := openControl_of_status hdelivers.open hco
    rw [h.settled b hb] at hbo
    cases hbo

/-- A Run whose requested Pause was given up stays so, whatever is called, or stays so until a
Cancel is accepted. -/
theorem failed_pause_needs_cancel (hbegun : Begun db₀)
    (h : Runs H P unitRetryAttemptId commandEvent deliveries db₀ db)
    (hrequested : db.run.lifecycle = .pauseRequested) (hnone : getOpenCommand db = none)
    (h' : Runs H P unitRetryAttemptId commandEvent deliveries db db') :
    (∃ c ∈ db.commands, c.commandType = .pause ∧ c.status = .failed) ∧
      ((db'.run.lifecycle = .pauseRequested ∧ getOpenCommand db' = none) ∨
        ∃ m m', ReflTransGen (fun a b => TaskStep H P unitRetryAttemptId commandEvent deliveries a b ∧
            b.run.lifecycle = .pauseRequested ∧ getOpenCommand b = none) db m ∧
          CancelAccepted commandEvent m m' ∧
          Runs H P unitRetryAttemptId commandEvent deliveries m' db') := by
  have hsettled := getOpenCommand_none.1 hnone
  refine ⟨((h.agrees hbegun).failed hrequested).resolve_left ?_, ?_⟩
  · rintro ⟨c, hc, hopen⟩
    rw [hsettled c hc] at hopen
    cases hopen
  · -- Along the run the Run is stuck, or a Cancel lies behind it.
    have hrun : (Stuck db' ∧ ReflTransGen (fun a b =>
          TaskStep H P unitRetryAttemptId commandEvent deliveries a b ∧
            b.run.lifecycle = .pauseRequested ∧ getOpenCommand b = none) db db') ∨
        ∃ m m', ReflTransGen (fun a b => TaskStep H P unitRetryAttemptId commandEvent deliveries a b ∧
            b.run.lifecycle = .pauseRequested ∧ getOpenCommand b = none) db m ∧
          CancelAccepted commandEvent m m' ∧
          Runs H P unitRetryAttemptId commandEvent deliveries m' db' := by
      induction h' with
      | refl => exact .inl ⟨⟨hrequested, hsettled⟩, .refl⟩
      | tail _ hstep ih =>
        rcases ih with ⟨hstuck, hstays⟩ | ⟨m, m', hstays, hcancel, hrest⟩
        · rcases hstuck.step hstep with hnext | hcancel
          · exact .inl ⟨hnext, hstays.tail ⟨hstep, hnext.requested, getOpenCommand_none.2 hnext.settled⟩⟩
          · exact .inr ⟨_, _, hstays, hcancel, .refl⟩
        · exact .inr ⟨m, m', hstays, hcancel, hrest.tail hstep⟩
    exact hrun.imp_left fun hstuck => ⟨hstuck.1.requested, getOpenCommand_none.2 hstuck.1.settled⟩

/-! The checkpoint of the Root fails on the Pause, and the operator cancels the Run. -/

namespace GivenUp

open FreshRun

def checked : Db := after (checkpointControl root 50) failed

def canceled : Db := after (acceptCommand recorded actor 3 .cancel 3 8 none 60 60) checked

theorem runs_canceled :
    Runs LateCleanup.hashes hygiene ShortDeadline.retryId recorded (fun _ => True) failed canceled :=
  .tail (.single (.checkpointControl root 50)) (.acceptCommand actor 3 .cancel 3 8 none 60 60)

end GivenUp

open FreshRun GivenUp in
theorem failed_pause_is_canceled :
    (∃ c ∈ failed.commands, c.commandType = .pause ∧ c.status = .failed) ∧
      ∃ m m', ReflTransGen (fun a b =>
          TaskStep LateCleanup.hashes hygiene ShortDeadline.retryId recorded (fun _ => True) a b ∧
            b.run.lifecycle = .pauseRequested ∧ getOpenCommand b = none) failed m ∧
        CancelAccepted recorded m m' ∧
        Runs LateCleanup.hashes hygiene ShortDeadline.retryId recorded (fun _ => True) m' canceled :=
  (failed_pause_needs_cancel begun runs_failed (by decide) (by decide) runs_canceled).imp_right fun h =>
    h.resolve_left (by decide)

end Atlas.Proofs
