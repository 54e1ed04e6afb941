import AtlasTestOps.Lib.Growth
import AtlasTestOps.Proofs.ResolutionWrites
import AtlasTestOps.Proofs.SnapshotWrites
import AtlasTestOps.Service.RunControl
import AtlasTestOps.Service.PartitionedFinish
import AtlasTestOps.Service.Finalization

/-! The writes that the operations on a TaskRun are made of. What one write can do to the rows
is said here once; every invariant over runs is derived from it. -/

namespace Atlas.Proofs

open Atlas Atlas.Task Atlas.Result Atlas.Store Atlas.Orchestration Atlas.Service Txn
open Relation (ReflTransGen)
open Growth (Extends)

variable {H : ResultHashes} {P : HygieneProjection} {unitRetryAttemptId : Uuid → ℕ → Uuid}
  {db db' : Db} {run : TaskRun} {unit : ExecutionUnit} {attempt : UnitAttempt}
  {now clock createdAt : Instant}

/-- A state that the update guard and the checks of its table let follow another one. -/
structure Advance (row : String) (createdAt : Instant) (old next : ExecutionState) : Prop where
  guard : updateGuard row old next = none
  shape : taskExecutionStateValid next createdAt = true

/-- A command keeps all but its status. -/
def CommandLater (c d : TaskRunCommandIntent) : Prop := d = { c with status := d.status }

theorem CommandLater.refl (c : TaskRunCommandIntent) : CommandLater c c := rfl

/-- The rows of the state machine are as they were; the other tables only grow. -/
structure Aside (db db' : Db) : Prop where
  run : db'.run = db.run
  manifest : db'.manifest = db.manifest
  units : db'.units = db.units
  attempts : db'.attempts = db.attempts
  events : db'.events = db.events
  seals : db'.seals = db.seals
  closures : db'.closures = db.closures
  tickets : db.tickets <+: db'.tickets
  refs : db.refs <+: db'.refs
  incidents : db.incidents <+: db'.incidents
  resolutions : db.resolutions <+: db'.resolutions
  hygieneResolutions : db.hygieneResolutions <+: db'.hygieneResolutions
  snapshots : db.snapshots <+: db'.snapshots
  commands : Extends CommandLater db.commands db'.commands

/-- What a retry Attempt is when it is stored. -/
structure Retry (unitRetryAttemptId : Uuid → ℕ → Uuid) (db : Db) (a : UnitAttempt) : Prop where
  fresh : ∀ b ∈ db.attempts, b.id ≠ a.id
  number : a.attemptNumber = db.lastAttemptNumber a.executionUnitId + 1
  id : a.id = unitRetryAttemptId a.executionUnitId a.attemptNumber
  initial : a.lifecycle = .queued ∧ a.quality = .pending
  queued : a.queuedAt < a.executionDeadline
  runs : dispatchable db.run.lifecycle = true
  previous : ∃ p ∈ db.attempts, p.executionUnitId = a.executionUnitId ∧
    p.attemptNumber + 1 = a.attemptNumber ∧ p.lifecycle = .closed ∧ p.quality = .infraError ∧
    a.executionDeadline = p.executionDeadline
  scope : ∃ u ∈ db.units, u.toUnitScope = a.toUnitScope
  budget : ∃ policy, db.manifest.retryPolicy = some policy ∧
    a.attemptNumber ≤ policy.infraRetryAttempts + 1 ∧
    db.countRetryAttempts < policy.maxTotalInfraRetries

def setAttempt (id : Uuid) (next : ExecutionState) (attempts : List UnitAttempt) :
    List UnitAttempt :=
  Table.modify (fun a => a.id) id (fun a => { a with toExecutionState := next }) attempts

def setUnit (id : Uuid) (next : ExecutionState) (units : List ExecutionUnit) :
    List ExecutionUnit :=
  Table.modify (fun u => u.id) id (fun u => { u with toExecutionState := next }) units

/-- One write. -/
inductive Write (unitRetryAttemptId : Uuid → ℕ → Uuid) (db : Db) : Db → Prop
  | aside (db' : Db) (h : Aside db db') : Write unitRetryAttemptId db db'
  | event (e : TaskExecutionEvent) (fresh : ∀ f ∈ db.events, f.id ≠ e.id)
      (seq : e.seq = db.nextTaskExecutionEventSeq) :
      Write unitRetryAttemptId db { db with events := db.events ++ [e] }
  | run (next : ExecutionState) (h : Advance "task run" db.run.createdAt db.run.toExecutionState next) :
      Write unitRetryAttemptId db { db with run := { db.run with toExecutionState := next } }
  | unit (u : ExecutionUnit) (next : ExecutionState) (found : db.getUnit u.id = some u)
      (h : Advance "execution unit" u.createdAt u.toExecutionState next) :
      Write unitRetryAttemptId db { db with units := setUnit u.id next db.units }
  | attempt (a : UnitAttempt) (next : ExecutionState) (found : db.getAttempt a.id = some a)
      (h : Advance "unit attempt" a.createdAt a.toExecutionState next) :
      Write unitRetryAttemptId db { db with attempts := setAttempt a.id next db.attempts }
  | retry (a : UnitAttempt) (h : Retry unitRetryAttemptId db a) :
      Write unitRetryAttemptId db { db with attempts := db.attempts ++ [a] }
  | sealed (fact : AttemptSeal) (first : ∀ s ∈ db.seals, s.unitAttemptId ≠ fact.unitAttemptId) :
      Write unitRetryAttemptId db { db with seals := db.seals ++ [fact] }
  | notice (n : AttemptClosureNotice) (first : ∀ m ∈ db.closures, m.unitAttemptId ≠ n.unitAttemptId) :
      Write unitRetryAttemptId db { db with closures := db.closures ++ [n] }

/-! What an operation keeps as a whole, though a single write of it may not. -/

/-- Seals and closure notices of the Attempt. -/
def factCount (db : Db) (id : Uuid) : ℕ :=
  db.seals.countP (fun s => s.unitAttemptId = id) + db.closures.countP fun n => n.unitAttemptId = id

/-- The Attempt has one terminal fact when it is closed, and none before. -/
def Balanced (db : Db) (id : Uuid) : Prop :=
  factCount db id = if (db.getAttempt id).any fun a => a.lifecycle = .closed then 1 else 0

/-- The state of the row that an event with these ids is about. -/
def stateAt (db : Db) : Option Uuid → Option Uuid → Option ExecutionState
  | none, none => some db.run.toExecutionState
  | some unitId, none => (db.getUnit unitId).map fun u => u.toExecutionState
  | some unitId, some attemptId =>
    ((db.getAttempt attemptId).filter fun a => a.executionUnitId = unitId).map fun a =>
      a.toExecutionState
  | none, some _ => none

/-- The events about one row, in the order of the ledger. -/
def eventsAt (events : List TaskExecutionEvent) (unitId attemptId : Option Uuid) :
    List TaskExecutionEvent :=
  events.filter fun e => e.executionUnitId = unitId ∧ e.unitAttemptId = attemptId

/-- The state that the ledger tells of a row: that of its last event, or the first one. -/
def told (events : List TaskExecutionEvent) (unitId attemptId : Option Uuid) :
    ExecutionLifecycle × ExecutionQuality :=
  ((eventsAt events unitId attemptId).getLast?.map fun e => (e.lifecycle, e.quality)).getD
    (.queued, .pending)

/-- The ledger tells the state of every row, but perhaps of the one that is excepted, and is
about stored rows only. -/
structure ToldBut (except : Option (Option Uuid × Option Uuid)) (db : Db) : Prop where
  states : ∀ unitId attemptId state, some (unitId, attemptId) ≠ except →
    stateAt db unitId attemptId = some state →
    told db.events unitId attemptId = (state.lifecycle, state.quality)
  placed : ∀ e ∈ db.events, (stateAt db e.executionUnitId e.unitAttemptId).isSome

abbrev Told : Db → Prop := ToldBut none

/-- The writes of one or more operations, with what the operations keep. -/
structure Moves (unitRetryAttemptId : Uuid → ℕ → Uuid) (db db' : Db) : Prop where
  writes : ReflTransGen (Write unitRetryAttemptId) db db'
  balanced : ∀ id, Balanced db id → Balanced db' id
  told : Told db → Told db'

instance : Std.Refl (Moves unitRetryAttemptId) := ⟨fun _ => ⟨.refl, fun _ h => h, fun h => h⟩⟩

instance : IsTrans Db (Moves unitRetryAttemptId) where
  trans _ _ _ h h' := ⟨h.writes.trans h'.writes, fun id hb => h'.balanced id (h.balanced id hb),
    fun ht => h'.told (h.told ht)⟩

/-! ### Writes to other rows -/

theorem Aside.refl (db : Db) : Aside db db :=
  ⟨rfl, rfl, rfl, rfl, rfl, rfl, rfl, List.prefix_refl _, List.prefix_refl _, List.prefix_refl _,
    List.prefix_refl _, List.prefix_refl _, List.prefix_refl _, .refl .refl _⟩

theorem stateAt_congr (hrun : db'.run = db.run) (hunits : db'.units = db.units)
    (hattempts : db'.attempts = db.attempts) (unitId attemptId : Option Uuid) :
    stateAt db' unitId attemptId = stateAt db unitId attemptId := by
  cases unitId <;> cases attemptId <;>
    simp [stateAt, Db.getUnit, Db.getAttempt, hrun, hunits, hattempts]

theorem Aside.moves (h : Aside db db') : Moves unitRetryAttemptId db db' := by
  refine ⟨.single (.aside db' h), fun id hb => ?_, fun ht => ⟨fun u a s hne hs => ?_, fun e he => ?_⟩⟩
  · unfold Balanced factCount Db.getAttempt at hb ⊢
    rw [h.attempts, h.seals, h.closures]
    exact hb
  · rw [stateAt_congr h.run h.units h.attempts] at hs
    rw [h.events]
    exact ht.states u a s hne hs
  · rw [stateAt_congr h.run h.units h.attempts]
    exact ht.placed e (h.events ▸ he)

theorem newEntityId_moves : Within (Moves unitRetryAttemptId) newEntityId := by
  intro db id db' h
  obtain ⟨-, rfl⟩ := commits_newEntityId.1 h
  exact Aside.moves { Aside.refl db with }

theorem resolveUnit_moves : Within (Moves unitRetryAttemptId) (resolveUnit H unit createdAt) := by
  intro db r db' h
  rcases resolveUnit_commits h with ⟨-, rfl⟩ | happended
  · exact Std.Refl.refl _
  · obtain ⟨_, rfl⟩ := happended.state
    exact Aside.moves { Aside.refl db with resolutions := List.prefix_append _ _ }

theorem projectUnit_moves : Within (Moves unitRetryAttemptId) (projectUnit P unit createdAt) := by
  unfold projectUnit
  refine .bind (.read _) fun projected => ?_
  cases projected with
  | error code => exact .raise _
  | ok revision =>
    cases revision with
    | none => exact .pure _
    | some revision =>
      refine .update fun db =>
        Aside.moves { Aside.refl db with hygieneResolutions := List.prefix_append _ _ }

theorem snapshotTask_moves {manifest : TaskRunManifest} :
    Within (Moves unitRetryAttemptId) (snapshotTask H run manifest createdAt) := by
  intro db s db' h
  obtain ⟨-, -, ⟨-, rfl⟩ | happended⟩ := snapshotTask_commits h
  · exact Std.Refl.refl _
  · obtain ⟨_, rfl⟩ := happended.state
    exact Aside.moves { Aside.refl db with snapshots := List.prefix_append _ _ }

theorem snapshotTaskResult_moves {manifest : TaskRunManifest} :
    Within (Moves unitRetryAttemptId) (snapshotTaskResult H run manifest createdAt) := by
  unfold snapshotTaskResult
  refine .rethrow <| .bind snapshotTask_moves fun _ => .bind ?_ fun _ => .pure _
  intro db answer db' h
  rcases snapshotTaskFullyResolved_commits h with ⟨-, rfl⟩ | ⟨quality, m, hquality, houtcome⟩
  · exact Std.Refl.refl _
  have hm : Moves unitRetryAttemptId db m := snapshotTask_moves _ _ _ hquality
  cases houtcome with
  | waiting => exact hm
  | replayed latest => exact hm
  | appended write =>
    obtain ⟨_, rfl⟩ := write.state
    exact IsTrans.trans _ _ _ hm
      (Aside.moves { Aside.refl m with snapshots := List.prefix_append _ _ })

theorem recordIntegrityIncident_moves {accepted conflicting : AttemptSeal} :
    Within (Moves unitRetryAttemptId) (recordIntegrityIncident accepted conflicting now) := by
  unfold recordIntegrityIncident
  refine .bind newEntityId_moves fun id => .update fun db => ?_
  split
  · exact Std.Refl.refl _
  · exact Aside.moves { Aside.refl db with incidents := List.prefix_append _ _ }

/-! ### Events -/

theorem eventTarget_state (event : TaskExecutionEvent) :
    (db.eventTarget event).map (fun t => t.1) =
      stateAt db event.executionUnitId event.unitAttemptId := by
  cases hu : event.executionUnitId <;> cases ha : event.unitAttemptId <;>
    simp [Db.eventTarget, stateAt, hu, ha, Function.comp_def]

/-- The event that is appended tells the state of its row. -/
theorem appendEvent_commits {event : TaskExecutionEvent} {u : Unit}
    (h : Commits (appendEvent event) db u db') :
    (∀ f ∈ db.events, f.id ≠ event.id) ∧ event.seq = db.nextTaskExecutionEventSeq ∧
      (∃ state, stateAt db event.executionUnitId event.unitAttemptId = some state ∧
        event.lifecycle = state.lifecycle ∧ event.quality = state.quality) ∧
      db' = { db with events := db.events ++ [event] } := by
  simp only [appendEvent, commits_bind, commits_read, commits_demand, commits_raiseIf,
    commits_update, not_or, not_not, not_exists, not_and] at h
  obtain ⟨_, _, ⟨rfl, rfl⟩, _, _, ⟨hfresh, rfl⟩, _, _, ⟨rfl, rfl⟩, target, _, ⟨htarget, rfl⟩, _, _,
    ⟨⟨hlifecycle, hquality, -⟩, rfl⟩, _, _, ⟨rfl, rfl⟩, _, _, ⟨hseq, rfl⟩, _, _, ⟨-, rfl⟩, rfl⟩ := h
  refine ⟨fun f hf => (hfresh f hf).1, hseq, ⟨target.1, ?_, hlifecycle, hquality⟩, rfl⟩
  rw [← eventTarget_state, htarget]
  rfl

theorem told_append_same (events : List TaskExecutionEvent) (event : TaskExecutionEvent) :
    told (events ++ [event]) event.executionUnitId event.unitAttemptId =
      (event.lifecycle, event.quality) := by
  simp [told, eventsAt]

theorem told_append_other {events : List TaskExecutionEvent} {event : TaskExecutionEvent}
    {unitId attemptId : Option Uuid}
    (h : (unitId, attemptId) ≠ (event.executionUnitId, event.unitAttemptId)) :
    told (events ++ [event]) unitId attemptId = told events unitId attemptId := by
  have hne : ¬ (event.executionUnitId = unitId ∧ event.unitAttemptId = attemptId) := by
    rintro ⟨rfl, rfl⟩
    exact h rfl
  simp [told, eventsAt, List.filter_append, hne]

/-- An event about the excepted row makes the ledger tell the state of every row. -/
theorem ToldBut.event {event : TaskExecutionEvent} {u : Unit} {unitId attemptId : Option Uuid}
    (hunit : event.executionUnitId = unitId) (hattempt : event.unitAttemptId = attemptId)
    (ht : ToldBut (some (unitId, attemptId)) db) (h : Commits (appendEvent event) db u db') :
    Told db' := by
  subst hunit hattempt
  obtain ⟨-, -, ⟨state, hstate, hlifecycle, hquality⟩, rfl⟩ := appendEvent_commits h
  refine ⟨fun unitId attemptId s _ hs => ?_, fun e he => ?_⟩
  · rw [stateAt_congr rfl rfl rfl] at hs
    by_cases hsame : (unitId, attemptId) = (event.executionUnitId, event.unitAttemptId)
    · obtain ⟨rfl, rfl⟩ := Prod.mk.injEq .. ▸ hsame
      obtain rfl : state = s := Option.some.inj (hstate.symm.trans hs)
      rw [told_append_same, hlifecycle, hquality]
    · rw [told_append_other hsame]
      exact ht.states unitId attemptId s (by simpa using hsame) hs
  · rw [stateAt_congr rfl rfl rfl]
    rcases List.mem_append.1 he with he | he
    · exact ht.placed e he
    · obtain rfl := List.mem_singleton.1 he
      exact hstate ▸ rfl

theorem ToldBut.weaken (ht : Told db) (except : Option (Option Uuid × Option Uuid)) :
    ToldBut except db :=
  ⟨fun u a s _ hs => ht.states u a s (by simp) hs, ht.placed⟩

theorem appendEvent_writes {event : TaskExecutionEvent} {u : Unit}
    (h : Commits (appendEvent event) db u db') : Write unitRetryAttemptId db db' := by
  obtain ⟨hfresh, hseq, -, rfl⟩ := appendEvent_commits h
  exact .event event hfresh hseq

/-- An event about the row with these ids is drawn an id and appended. -/
structure Recorded (unitId attemptId : Option Uuid) (db db' : Db) : Prop where
  appended : ∃ event nextId, event.executionUnitId = unitId ∧ event.unitAttemptId = attemptId ∧
    Commits (appendEvent event) { db with nextId := nextId } () db'

theorem recordEvent_commits {projection : ExecutionState} {eventType : EventType}
    {unitId attemptId : Option Uuid} {payload : EventPayload} {u : Unit}
    (h : Commits (recordEvent run projection eventType unitId attemptId payload) db u db') :
    Recorded unitId attemptId db db' := by
  simp only [recordEvent, commits_bind, commits_read, commits_newEntityId] at h
  obtain ⟨_, _, ⟨rfl, rfl⟩, id, _, ⟨rfl, rfl⟩, h⟩ := h
  exact ⟨_, _, rfl, rfl, h⟩

theorem appendTaskEvent_commits {eventType : EventType} {payload : EventPayload}
    {occurredAt : Instant} {u : Unit}
    (h : Commits (appendTaskEvent attempt eventType payload occurredAt) db u db') :
    Recorded (some attempt.executionUnitId) (some attempt.id) db db' := by
  simp only [appendTaskEvent, commits_bind, commits_read, commits_newEntityId] at h
  obtain ⟨_, _, ⟨rfl, rfl⟩, id, _, ⟨rfl, rfl⟩, h⟩ := h
  exact ⟨_, _, rfl, rfl, h⟩

namespace Recorded

variable {unitId attemptId : Option Uuid}

/-- The row may have changed before its event is recorded. -/
theorem told (h : Recorded unitId attemptId db db') (ht : ToldBut (some (unitId, attemptId)) db) :
    Told db' := by
  obtain ⟨event, nextId, hunit, hattempt, happend⟩ := h.appended
  refine ToldBut.event hunit hattempt ⟨fun u a s hne hs => ?_, fun e he => ?_⟩ happend
  · rw [stateAt_congr rfl rfl rfl] at hs
    exact ht.states u a s hne hs
  · rw [stateAt_congr rfl rfl rfl]
    exact ht.placed e he

theorem writes (h : Recorded unitId attemptId db db') :
    ReflTransGen (Write unitRetryAttemptId) db db' := by
  obtain ⟨event, nextId, -, -, happend⟩ := h.appended
  have haside : Write unitRetryAttemptId db { db with nextId := nextId } :=
    .aside _ { Aside.refl db with }
  exact .tail (.single haside) (appendEvent_writes happend)

/-- Recording an event changes no row but those of the ledger. -/
theorem rows (h : Recorded unitId attemptId db db') :
    ∃ events nextId, db' = { db with events := events, nextId := nextId } := by
  obtain ⟨event, nextId, -, -, happend⟩ := h.appended
  obtain ⟨-, -, -, rfl⟩ := appendEvent_commits happend
  exact ⟨_, _, rfl⟩

theorem moves (h : Recorded unitId attemptId db db') : Moves unitRetryAttemptId db db' := by
  refine ⟨h.writes, fun id hb => ?_, fun ht => h.told (ht.weaken _)⟩
  obtain ⟨_, _, rfl⟩ := h.rows
  exact hb

end Recorded

theorem recordEvent_moves {projection : ExecutionState} {eventType : EventType}
    {unitId attemptId : Option Uuid} {payload : EventPayload} :
    Within (Moves unitRetryAttemptId)
      (recordEvent run projection eventType unitId attemptId payload) :=
  fun _ _ _ h => (recordEvent_commits h).moves

/-! ### Transitions -/

theorem sealedRun_commits {taskRunId : Uuid} (h : Commits (sealedRun taskRunId) db run db') :
    run = db.run ∧ db' = db := by
  simp only [sealedRun, Db.getRun, commits_bind, commits_read, commits_demand, commits_raiseIf,
    commits_pure] at h
  obtain ⟨_, _, ⟨rfl, rfl⟩, _, _, ⟨hfound, rfl⟩, _, _, ⟨-, rfl⟩, rfl, rfl⟩ := h
  refine ⟨?_, rfl⟩
  split at hfound
  · exact (Option.some.inj hfound).symm
  · cases hfound

theorem nextState_commits {row : String} {expectedRevision : ℕ} {axes : ExecutionAxes}
    {old next : ExecutionState} {queuedAt : Option Instant}
    (h : Commits (nextState row expectedRevision axes old createdAt queuedAt clock) db next db') :
    Advance row createdAt old next ∧ next.toExecutionAxes = axes ∧ db' = db := by
  simp only [nextState, commits_bind, commits_raiseIf, commits_pure, not_not, Bool.not_eq_true,
    Bool.not_eq_false'] at h
  obtain ⟨_, _, ⟨-, rfl⟩, _, _, ⟨hguard, rfl⟩, _, _, ⟨hshape, rfl⟩, _, _, ⟨-, rfl⟩, rfl, rfl⟩ := h
  exact ⟨⟨hguard, hshape⟩, rfl, rfl⟩

theorem transitionTaskRunState_commits {taskRunId : Uuid} {expectedRevision : ℕ}
    {axes : ExecutionAxes} {updated : TaskRun}
    (h : Commits (transitionTaskRunState taskRunId expectedRevision axes clock) db updated db') :
    ∃ next, Advance "task run" db.run.createdAt db.run.toExecutionState next ∧
      next.toExecutionAxes = axes ∧ updated = { db.run with toExecutionState := next } ∧
      db' = { db with run := updated } := by
  simp only [transitionTaskRunState, commits_bind, commits_update, commits_pure] at h
  obtain ⟨run, m, hrun, next, _, hnext, _, _, rfl, rfl, rfl⟩ := h
  obtain ⟨rfl, rfl⟩ := sealedRun_commits hrun
  obtain ⟨hadvance, haxes, rfl⟩ := nextState_commits hnext
  exact ⟨next, hadvance, haxes, rfl, rfl⟩

theorem getUnit_id {id : Uuid} {u : ExecutionUnit} (h : db.getUnit id = some u) : u.id = id := by
  simpa using List.find?_some h

theorem getAttempt_id {id : Uuid} {a : UnitAttempt} (h : db.getAttempt id = some a) : a.id = id := by
  simpa using List.find?_some h

theorem transitionExecutionUnitState_commits {taskRunId unitId : Uuid} {expectedRevision : ℕ}
    {axes : ExecutionAxes} {updated : ExecutionUnit}
    (h : Commits (transitionExecutionUnitState taskRunId unitId expectedRevision axes clock)
      db updated db') :
    ∃ u next, db.getUnit unitId = some u ∧
      Advance "execution unit" u.createdAt u.toExecutionState next ∧ next.toExecutionAxes = axes ∧
      updated = { u with toExecutionState := next } ∧
      db' = { db with units := setUnit unitId next db.units } := by
  simp only [transitionExecutionUnitState, commits_bind, commits_read, commits_demand,
    commits_update, commits_pure] at h
  obtain ⟨_, m, hrun, _, _, ⟨rfl, rfl⟩, u, _, ⟨hfound, rfl⟩, next, _, hnext, _, _, rfl, rfl, rfl⟩ := h
  obtain ⟨-, rfl⟩ := sealedRun_commits hrun
  obtain ⟨hadvance, haxes, rfl⟩ := nextState_commits hnext
  exact ⟨u, next, (Option.filter_eq_some_iff.1 hfound).1, hadvance, haxes, rfl, rfl⟩

theorem transitionUnitAttemptState_commits {taskRunId unitId attemptId : Uuid}
    {expectedRevision : ℕ} {axes : ExecutionAxes} {updated : UnitAttempt}
    (h : Commits (transitionUnitAttemptState taskRunId unitId attemptId expectedRevision axes clock)
      db updated db') :
    ∃ a next, db.getAttempt attemptId = some a ∧ a.executionUnitId = unitId ∧
      Advance "unit attempt" a.createdAt a.toExecutionState next ∧ next.toExecutionAxes = axes ∧
      updated = { a with toExecutionState := next } ∧
      db' = { db with attempts := setAttempt attemptId next db.attempts } := by
  simp only [transitionUnitAttemptState, commits_bind, commits_read, commits_raiseIf,
    commits_demand, commits_update, commits_pure] at h
  obtain ⟨_, m, hrun, _, _, ⟨rfl, rfl⟩, _, _, ⟨-, rfl⟩, _, _, ⟨rfl, rfl⟩, a, _, ⟨hfound, rfl⟩,
    next, _, hnext, _, _, rfl, rfl, rfl⟩ := h
  obtain ⟨-, rfl⟩ := sealedRun_commits hrun
  obtain ⟨hadvance, haxes, rfl⟩ := nextState_commits hnext
  obtain ⟨hget, hscope⟩ := Option.filter_eq_some_iff.1 hfound
  exact ⟨a, next, hget, (of_decide_eq_true hscope).1, hadvance, haxes, rfl, rfl⟩

/-! ### The ledger after a change of one row -/

theorem ToldBut.setRun {next : TaskRun} (ht : Told db) :
    ToldBut (some (none, none)) { db with run := next } := by
  refine ⟨fun unitId attemptId s hne hs => ?_, fun e he => ?_⟩
  · cases unitId with
    | none =>
      cases attemptId with
      | none => exact absurd rfl hne
      | some a => simp [stateAt] at hs
    | some u => cases attemptId <;> exact ht.states _ _ s (by simp) hs
  · have hplaced := ht.placed e he
    revert hplaced
    cases hu : e.executionUnitId <;> cases ha : e.unitAttemptId <;>
      simp [stateAt, Db.getUnit, Db.getAttempt]

theorem getUnit_setUnit {id other : Uuid} {next : ExecutionState} :
    ({ db with units := setUnit id next db.units }).getUnit other =
      (db.getUnit other).map fun u => if u.id = id then { u with toExecutionState := next } else u := by
  have hkey : ∀ u : ExecutionUnit,
      (if u.id = id then { u with toExecutionState := next } else u).id = u.id := by
    intro u
    split <;> rfl
  simp only [Db.getUnit, setUnit, Table.modify, List.find?_map, Function.comp_def, hkey]

theorem getAttempt_setAttempt (db : Db) {id other : Uuid} {next : ExecutionState} :
    ({ db with attempts := setAttempt id next db.attempts }).getAttempt other =
      (db.getAttempt other).map fun a => if a.id = id then { a with toExecutionState := next } else a := by
  have hkey : ∀ a : UnitAttempt,
      (if a.id = id then { a with toExecutionState := next } else a).id = a.id := by
    intro a
    split <;> rfl
  simp only [Db.getAttempt, setAttempt, Table.modify, List.find?_map, Function.comp_def, hkey]

theorem ToldBut.setUnit {id : Uuid} {next : ExecutionState} (ht : Told db) :
    ToldBut (some (some id, none)) { db with units := setUnit id next db.units } := by
  refine ⟨fun unitId attemptId s hne hs => ?_, fun e he => ?_⟩
  · cases unitId with
    | none => exact ht.states none attemptId s (by simp) (by cases attemptId <;> exact hs)
    | some u =>
      cases attemptId with
      | some a => exact ht.states _ _ s (by simp) hs
      | none =>
        have hother : u ≠ id := fun heq => hne (by rw [heq])
        refine ht.states (some u) none s (by simp) ?_
        simp only [stateAt, getUnit_setUnit, Option.map_map] at hs ⊢
        cases hget : db.getUnit u with
        | none => simp [hget] at hs
        | some row => simpa [hget, getUnit_id hget, hother] using hs
  · have hplaced := ht.placed e he
    revert hplaced
    cases hu : e.executionUnitId <;> cases ha : e.unitAttemptId <;>
      simp [stateAt, getUnit_setUnit, Db.getAttempt]

theorem stateAt_setAttempt {id u a : Uuid} {next : ExecutionState} :
    stateAt { db with attempts := setAttempt id next db.attempts } (some u) (some a) =
      (stateAt db (some u) (some a)).map fun s => if a = id then next else s := by
  simp only [stateAt, getAttempt_setAttempt]
  cases hget : db.getAttempt a with
  | none => rfl
  | some row =>
    by_cases hid : a = id <;> by_cases hu : row.executionUnitId = u <;>
      simp [Option.filter, getAttempt_id hget, hid, hu]

theorem ToldBut.setAttempt {id : Uuid} {next : ExecutionState} {a : UnitAttempt} (ht : Told db)
    (hget : db.getAttempt id = some a) :
    ToldBut (some (some a.executionUnitId, some id))
      { db with attempts := setAttempt id next db.attempts } := by
  refine ⟨fun unitId attemptId s hne hs => ?_, fun e he => ?_⟩
  · cases unitId with
    | none => exact ht.states none attemptId s (by simp) (by cases attemptId <;> exact hs)
    | some u =>
      cases attemptId with
      | none => exact ht.states (some u) none s (by simp) hs
      | some b =>
        rw [stateAt_setAttempt] at hs
        obtain ⟨s', hs', rfl⟩ := Option.map_eq_some_iff.1 hs
        have hother : b ≠ id := by
          rintro rfl
          apply hne
          obtain ⟨row, hrow, -⟩ := Option.map_eq_some_iff.1 hs'
          obtain ⟨hrow, hu⟩ := Option.filter_eq_some_iff.1 hrow
          obtain rfl := Option.some.inj (hrow.symm.trans hget)
          rw [of_decide_eq_true hu]
        rw [if_neg hother]
        exact ht.states _ _ s' (by simp) hs'
  · have hplaced := ht.placed e he
    cases hu : e.executionUnitId with
    | none =>
      rw [hu] at hplaced
      revert hplaced
      cases ha : e.unitAttemptId <;> simp [stateAt]
    | some u =>
      cases ha : e.unitAttemptId with
      | none =>
        rw [hu, ha] at hplaced
        exact hplaced
      | some b => simpa [hu, ha, stateAt_setAttempt] using hplaced

/-! ### Transitions with their events -/

theorem balanced_of_same (hattempts : db'.attempts = db.attempts) (hseals : db'.seals = db.seals)
    (hclosures : db'.closures = db.closures) {id : Uuid} (h : Balanced db id) : Balanced db' id := by
  unfold Balanced factCount Db.getAttempt at h ⊢
  rw [hattempts, hseals, hclosures]
  exact h

variable (unitRetryAttemptId) in
theorem transitionRun_commits {progress : Progress} {eventType : EventType}
    {payload : EventPayload} {updated : TaskRun}
    (h : Commits (transitionRun run progress eventType payload clock) db updated db') :
    ∃ next events nextId,
      Advance "task run" db.run.createdAt db.run.toExecutionState next ∧
      next.toExecutionAxes = progress.of run.toExecutionState ∧
      updated = { db.run with toExecutionState := next } ∧
      db' = { db with run := updated, events := events, nextId := nextId } ∧
      Moves unitRetryAttemptId db db' := by
  simp only [transitionRun, commits_bind, commits_pure] at h
  obtain ⟨updated, m, hstate, _, m', hevent, rfl, rfl⟩ := h
  obtain ⟨next, hadvance, haxes, rfl, rfl⟩ := transitionTaskRunState_commits hstate
  obtain ⟨events, nextId, hm⟩ := (recordEvent_commits hevent).rows
  refine ⟨next, events, nextId, hadvance, haxes, rfl, hm, ?_, fun id hb => ?_, fun ht => ?_⟩
  · exact .trans (.single (.run next hadvance)) (recordEvent_commits hevent).writes
  · subst hm
    exact balanced_of_same rfl rfl rfl hb
  · exact (recordEvent_commits hevent).told ht.setRun

theorem transitionRun_moves {progress : Progress} {eventType : EventType} {payload : EventPayload} :
    Within (Moves unitRetryAttemptId) (transitionRun run progress eventType payload clock) := by
  intro db updated db' h
  obtain ⟨_, _, _, -, -, -, -, hmoves⟩ := transitionRun_commits unitRetryAttemptId h
  exact hmoves

theorem transitionUnit_moves {progress : Progress} {eventType : EventType} {payload : EventPayload} :
    Within (Moves unitRetryAttemptId) (transitionUnit run unit progress eventType payload clock) := by
  unfold transitionUnit
  refine .ite (.pure _) ?_
  intro db updated db' h
  simp only [commits_bind, commits_pure] at h
  obtain ⟨updated, m, hstate, _, m', hevent, rfl, rfl⟩ := h
  obtain ⟨u, next, hget, hadvance, -, rfl, rfl⟩ := transitionExecutionUnitState_commits hstate
  have hid := getUnit_id hget
  refine ⟨?_, fun id hb => ?_, fun ht => (recordEvent_commits hevent).told ht.setUnit⟩
  · rw [← hid] at hget hevent
    exact .trans (.single (.unit u next hget hadvance)) (recordEvent_commits hevent).writes
  · obtain ⟨events, nextId, rfl⟩ := (recordEvent_commits hevent).rows
    exact balanced_of_same rfl rfl rfl hb

variable (unitRetryAttemptId) in
/-- The Attempt moves and its event is recorded. -/
theorem moveAttempt_writes {a : UnitAttempt} {next : ExecutionState} {unitId : Uuid}
    (hget : db.getAttempt attempt.id = some a) (hunit : a.executionUnitId = unitId)
    (hadvance : Advance "unit attempt" a.createdAt a.toExecutionState next)
    (h : Recorded (some unitId) (some attempt.id)
      { db with attempts := setAttempt attempt.id next db.attempts } db') :
    ReflTransGen (Write unitRetryAttemptId) db db' ∧ (Told db → Told db') := by
  have hid := getAttempt_id hget
  refine ⟨?_, fun ht => h.told (hunit ▸ ht.setAttempt hget)⟩
  have hwrite : Write unitRetryAttemptId db
      { db with attempts := setAttempt a.id next db.attempts } :=
    .attempt a next (by rw [hid]; exact hget) hadvance
  rw [hid] at hwrite
  exact .trans (.single hwrite) h.writes

/-- A closed state is followed by closed states only. -/
theorem Advance.closed {row : String} {old next : ExecutionState} (h : Advance row createdAt old next)
    (hclosed : old.lifecycle = .closed) : next.lifecycle = .closed := by
  have hguard := h.guard
  simp only [updateGuard, firstViolation_cons, decide_eq_false_iff_not, not_and, not_not] at hguard
  by_contra hopen
  exact hguard.2.2.1 hclosed fun heq => absurd (heq.trans hclosed) hopen

theorem balanced_setAttempt {id other : Uuid} {next : ExecutionState}
    (hsame : ∀ a, db.getAttempt id = some a → (next.lifecycle = .closed ↔ a.lifecycle = .closed))
    (hb : Balanced db other) :
    Balanced { db with attempts := setAttempt id next db.attempts } other := by
  unfold Balanced at hb ⊢
  rw [getAttempt_setAttempt, show factCount { db with attempts := setAttempt id next db.attempts } other =
    factCount db other from rfl, hb]
  cases hget : db.getAttempt other with
  | none => rfl
  | some a =>
    by_cases hid : a.id = id
    · obtain rfl : other = id := (getAttempt_id hget).symm.trans hid
      simp [hid, hsame a hget]
    · simp [hid]

/-- A transition that does not close the Attempt. -/
theorem transitionAttempt_moves {progress : Progress} {eventType : EventType}
    {payload : EventPayload} (hopen : progress.lifecycle ≠ .closed) :
    Within (Moves unitRetryAttemptId)
      (transitionAttempt run unit attempt progress eventType payload clock) := by
  unfold transitionAttempt
  refine .ite (.pure _) ?_
  intro db updated db' h
  simp only [commits_bind, commits_pure] at h
  obtain ⟨updated, m, hstate, _, m', hevent, rfl, rfl⟩ := h
  obtain ⟨a, next, hget, hunit, hadvance, haxes, rfl, rfl⟩ := transitionUnitAttemptState_commits hstate
  obtain ⟨hwrites, htold⟩ := moveAttempt_writes unitRetryAttemptId hget hunit
    hadvance (recordEvent_commits hevent)
  refine ⟨hwrites, fun id hb => ?_, htold⟩
  have hnext : next.lifecycle ≠ .closed := by
    rw [show next.lifecycle = progress.lifecycle from congrArg (fun x => x.lifecycle) haxes]
    exact hopen
  obtain ⟨events, nextId, rfl⟩ := (recordEvent_commits hevent).rows
  refine balanced_of_same rfl rfl rfl (balanced_setAttempt (fun b hb => ?_) hb)
  obtain rfl := Option.some.inj (hget.symm.trans hb)
  exact ⟨fun h => absurd h hnext, hadvance.closed⟩

end Atlas.Proofs
