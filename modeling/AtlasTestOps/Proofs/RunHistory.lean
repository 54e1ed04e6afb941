import AtlasTestOps.Proofs.RetryDeadline
import AtlasTestOps.Proofs.RunSystem

/-! What holds of a TaskRun after any run of the system: what is written stays, the ledger tells
the state of every row, a closed Attempt has one terminal fact, and the retries of a Unit keep to
the policy that the Manifest froze. -/

namespace Atlas.Proofs

open Atlas Atlas.Task Atlas.Result Atlas.Store Atlas.Orchestration Atlas.Service Txn
open Relation (ReflTransGen)
open Growth (Extends)

variable {H : ResultHashes} {P : HygieneProjection} {unitRetryAttemptId : Uuid → ℕ → Uuid}
  {commandEvent : TaskRunCommandIntent → EventType × EventPayload} {deliveries : CommandDelivery → Prop}
  {db₀ db db' : Db}

/-- The ids of the Units and of the Attempts are primary keys. -/
structure Keyed (db : Db) : Prop where
  units : (db.units.map fun u => u.id).Nodup
  attempts : (db.attempts.map fun a => a.id).Nodup

/-- The rows of a launched Run: nothing of it has started. -/
structure Begun (db : Db) : Prop where
  keyed : Keyed db
  run : db.run.lifecycle = .queued ∧ db.run.quality = .pending
  units : ∀ u ∈ db.units, u.lifecycle = .queued ∧ u.quality = .pending
  attempts : ∀ a ∈ db.attempts, a.attemptNumber = 1 ∧ a.lifecycle = .queued ∧ a.quality = .pending
  first : (db.attempts.map fun a => a.executionUnitId).Nodup
  seals : db.seals = []
  closures : db.closures = []
  commands : db.commands = []

/-! ### What is written stays -/

/-- How far a lifecycle is; Pause and Resume lead back and forth within a running Run. -/
def stage : ExecutionLifecycle → ℕ
  | .queued => 0
  | .running | .pauseRequested | .paused => 1
  | .canceling => 2
  | .finalizing => 3
  | .closed => 4

/-- What a row keeps of its state. -/
structure Later (old new : ExecutionState) : Prop where
  revision : old.revision ≤ new.revision
  lifecycle : stage old.lifecycle ≤ stage new.lifecycle
  quality : old.quality ≠ .pending → new.quality = old.quality
  startedAt : old.startedAt ≠ none → new.startedAt = old.startedAt
  finalizedAt : old.finalizedAt ≠ none → new.finalizedAt = old.finalizedAt
  cleanupResolvedAt : old.cleanupResolvedAt ≠ none → new.cleanupResolvedAt = old.cleanupResolvedAt
  closedAt : old.closedAt ≠ none → new.closedAt = old.closedAt
  hygiene : old.hygiene ∈ [.notRequired, .cleaned, .leaked] → new.hygiene = old.hygiene
  frozen : old.lifecycle = .closed →
    new.lifecycle = .closed ∧ new.quality = old.quality ∧ new.startedAt = old.startedAt ∧
      new.finalizedAt = old.finalizedAt ∧ new.closedAt = old.closedAt

theorem Later.refl (s : ExecutionState) : Later s s :=
  ⟨le_rfl, le_rfl, fun _ => rfl, fun _ => rfl, fun _ => rfl, fun _ => rfl, fun _ => rfl, fun _ => rfl,
    fun h => ⟨h, rfl, rfl, rfl, rfl⟩⟩

/-- What is kept by two steps, the second of which may rely on what the first has kept. -/
theorem kept_trans {α : Type} (p : α → Prop) {a b c : α} (h : p a → b = a) (h' : p b → c = b)
    (ha : p a) : c = a := by
  obtain rfl := h ha
  exact h' ha

theorem Later.trans {a b c : ExecutionState} (h : Later a b) (h' : Later b c) : Later a c where
  revision := h.revision.trans h'.revision
  lifecycle := h.lifecycle.trans h'.lifecycle
  quality := kept_trans (fun q => q ≠ ExecutionQuality.pending) h.quality h'.quality
  startedAt := kept_trans (fun t => t ≠ none) h.startedAt h'.startedAt
  finalizedAt := kept_trans (fun t => t ≠ none) h.finalizedAt h'.finalizedAt
  cleanupResolvedAt := kept_trans (fun t => t ≠ none) h.cleanupResolvedAt h'.cleanupResolvedAt
  closedAt := kept_trans (fun t => t ≠ none) h.closedAt h'.closedAt
  hygiene := kept_trans (fun g => g ∈ [ExecutionHygiene.notRequired, .cleaned, .leaked]) h.hygiene h'.hygiene
  frozen hclosed := by
    obtain ⟨hb, hq, hs, hf, hc⟩ := h.frozen hclosed
    obtain ⟨hb', hq', hs', hf', hc'⟩ := h'.frozen hb
    exact ⟨hb', hq'.trans hq, hs'.trans hs, hf'.trans hf, hc'.trans hc⟩

theorem writtenOnce_keeps {old new : Option Instant} (h : writtenOnce old new = true)
    (hold : old ≠ none) : new = old := by
  simpa [writtenOnce, hold] using h

/-- What the update guard of a table admits. -/
theorem Advance.later {row : String} {createdAt : Instant} {old new : ExecutionState}
    (h : Advance row createdAt old new) : Later old new := by
  have hguard := h.guard
  simp only [updateGuard, firstViolation_cons, firstViolation_nil, and_true, Bool.not_eq_false',
    decide_eq_false_iff_not, not_and, not_not, Bool.and_eq_true] at hguard
  obtain ⟨hlifecycle, hhygiene, hclosed, hquality, ⟨⟨⟨hstarted, hfinalized⟩, hcleanup⟩, hclosedAt⟩,
    hrevision⟩ := hguard
  refine ⟨by omega, ?_, hquality, writtenOnce_keeps hstarted, writtenOnce_keeps hfinalized,
    writtenOnce_keeps hcleanup, writtenOnce_keeps hclosedAt, ?_, fun hold => ?_⟩
  · revert hlifecycle
    cases old.lifecycle <;> cases new.lifecycle <;> decide
  · revert hhygiene
    cases old.hygiene <;> cases new.hygiene <;> decide
  · by_contra hkept
    exact hclosed hold fun h₁ h₂ h₃ h₄ h₅ => hkept ⟨h₁.trans hold, h₂, h₃, h₄, h₅⟩

/-- A Unit keeps its columns, and what `Later` says of its state. -/
def UnitLater (u v : ExecutionUnit) : Prop :=
  v = { u with toExecutionState := v.toExecutionState } ∧
    Later u.toExecutionState v.toExecutionState

def AttemptLater (a b : UnitAttempt) : Prop :=
  b = { a with toExecutionState := b.toExecutionState } ∧
    Later a.toExecutionState b.toExecutionState

/-- Nothing that was written is lost. -/
structure HistoryKept (db db' : Db) : Prop where
  run : db'.run = { db.run with toExecutionState := db'.run.toExecutionState } ∧
    Later db.run.toExecutionState db'.run.toExecutionState
  manifest : db'.manifest = db.manifest
  units : List.Forall₂ UnitLater db.units db'.units
  attempts : Extends AttemptLater db.attempts db'.attempts
  commands : Extends CommandLater db.commands db'.commands
  events : db.events <+: db'.events
  tickets : db.tickets <+: db'.tickets
  seals : db.seals <+: db'.seals
  refs : db.refs <+: db'.refs
  closures : db.closures <+: db'.closures
  incidents : db.incidents <+: db'.incidents
  resolutions : db.resolutions <+: db'.resolutions
  hygieneResolutions : db.hygieneResolutions <+: db'.hygieneResolutions
  snapshots : db.snapshots <+: db'.snapshots

theorem UnitLater.refl (u : ExecutionUnit) : UnitLater u u := ⟨rfl, .refl _⟩

theorem AttemptLater.refl (a : UnitAttempt) : AttemptLater a a := ⟨rfl, .refl _⟩

theorem UnitLater.trans (u v w : ExecutionUnit) (h : UnitLater u v) (h' : UnitLater v w) :
    UnitLater u w := by
  refine ⟨?_, h.2.trans h'.2⟩
  rw [h'.1, h.1]

theorem AttemptLater.trans (a b c : UnitAttempt) (h : AttemptLater a b) (h' : AttemptLater b c) :
    AttemptLater a c := by
  refine ⟨?_, h.2.trans h'.2⟩
  rw [h'.1, h.1]

theorem CommandLater.trans (c d e : TaskRunCommandIntent) (h : CommandLater c d)
    (h' : CommandLater d e) : CommandLater c e := by
  unfold CommandLater at *
  rw [h', h]

theorem HistoryKept.refl (db : Db) : HistoryKept db db :=
  ⟨⟨rfl, .refl _⟩, rfl, List.forall₂_same.2 fun u _ => .refl u, .refl .refl _, .refl .refl _,
    List.prefix_refl _, List.prefix_refl _, List.prefix_refl _, List.prefix_refl _, List.prefix_refl _,
    List.prefix_refl _, List.prefix_refl _, List.prefix_refl _, List.prefix_refl _⟩

theorem HistoryKept.trans {a b c : Db} (h : HistoryKept a b) (h' : HistoryKept b c) : HistoryKept a c where
  run := ⟨by rw [h'.run.1, h.run.1], h.run.2.trans h'.run.2⟩
  manifest := h'.manifest.trans h.manifest
  units := Growth.forall₂_trans UnitLater.trans h.units h'.units
  attempts := h.attempts.trans AttemptLater.trans h'.attempts
  commands := h.commands.trans CommandLater.trans h'.commands
  events := h.events.trans h'.events
  tickets := h.tickets.trans h'.tickets
  seals := h.seals.trans h'.seals
  refs := h.refs.trans h'.refs
  closures := h.closures.trans h'.closures
  incidents := h.incidents.trans h'.incidents
  resolutions := h.resolutions.trans h'.resolutions
  hygieneResolutions := h.hygieneResolutions.trans h'.hygieneResolutions
  snapshots := h.snapshots.trans h'.snapshots

theorem Aside.historyKept (h : Aside db db') : HistoryKept db db' where
  run := by rw [h.run]; exact ⟨rfl, .refl _⟩
  manifest := h.manifest
  units := by rw [h.units]; exact (HistoryKept.refl db).units
  attempts := by rw [h.attempts]; exact (HistoryKept.refl db).attempts
  commands := h.commands
  events := by rw [h.events]
  tickets := h.tickets
  seals := by rw [h.seals]
  refs := h.refs
  closures := by rw [h.closures]
  incidents := h.incidents
  resolutions := h.resolutions
  hygieneResolutions := h.hygieneResolutions
  snapshots := h.snapshots

/-- One write loses nothing, and keeps the keys. -/
theorem Write.historyKept (hk : Keyed db) (h : Write unitRetryAttemptId db db') :
    HistoryKept db db' ∧ Keyed db' := by
  cases h with
  | aside db' h => exact ⟨h.historyKept, by rw [h.units]; exact hk.units, by rw [h.attempts]; exact hk.attempts⟩
  | event e => exact ⟨{ HistoryKept.refl db with events := List.prefix_append _ _ }, hk.units, hk.attempts⟩
  | run next h => exact ⟨{ HistoryKept.refl db with run := ⟨rfl, h.later⟩ }, hk.units, hk.attempts⟩
  | unit u next found h =>
    have hu : u ∈ db.units := List.mem_of_find?_eq_some found
    refine ⟨{ HistoryKept.refl db with units := ?_ }, ?_, hk.attempts⟩
    · refine Table.forall₂_modify (fun v _ => .refl v) fun v hv hid => ?_
      obtain rfl := Table.eq_of_key hk.units hv hu hid
      exact ⟨rfl, h.later⟩
    · rw [show (setUnit u.id next db.units).map (fun u => u.id) = _ from Table.map_modify fun _ => rfl]
      exact hk.units
  | attempt a next found h =>
    have ha : a ∈ db.attempts := List.mem_of_find?_eq_some found
    refine ⟨{ HistoryKept.refl db with attempts := ?_ }, hk.units, ?_⟩
    · refine .of_forall₂ (Table.forall₂_modify (fun b _ => .refl b) fun b hb hid => ?_)
      obtain rfl := Table.eq_of_key hk.attempts hb ha hid
      exact ⟨rfl, h.later⟩
    · rw [show (setAttempt a.id next db.attempts).map (fun a => a.id) = _ from
        Table.map_modify fun _ => rfl]
      exact hk.attempts
  | retry a h =>
    refine ⟨{ HistoryKept.refl db with attempts := .append .refl _ _ }, hk.units, ?_⟩
    rw [List.map_append, List.nodup_append]
    refine ⟨hk.attempts, by simp, fun id hid other hother => ?_⟩
    obtain ⟨b, hb, rfl⟩ := List.mem_map.1 hid
    obtain rfl : other = a.id := by simpa using hother
    exact h.fresh b hb
  | sealed fact => exact ⟨{ HistoryKept.refl db with seals := List.prefix_append _ _ }, hk.units, hk.attempts⟩
  | notice n => exact ⟨{ HistoryKept.refl db with closures := List.prefix_append _ _ }, hk.units, hk.attempts⟩

theorem writes_keep_history (hk : Keyed db) (h : ReflTransGen (Write unitRetryAttemptId) db db') :
    HistoryKept db db' ∧ Keyed db' := by
  induction h with
  | refl => exact ⟨.refl db, hk⟩
  | tail _ hwrite ih =>
    obtain ⟨hkept, hkeyed⟩ := hwrite.historyKept ih.2
    exact ⟨ih.1.trans hkept, hkeyed⟩

/-- No call loses, rewrites or reopens anything: rows stay, facts and events are only added, a
closed Run, Unit or Attempt and every milestone and quality once set stay as they are. -/
theorem history_is_kept (hk : Keyed db) (h : Runs H P unitRetryAttemptId commandEvent deliveries db db') :
    HistoryKept db db' :=
  (writes_keep_history hk h.moves.writes).1

/-! A Run of one Unit: its Attempt starts, ends in an infrastructure error, and is retried. -/

namespace FreshRun

def unit : ExecutionUnit :=
  { ShortDeadline.unit with lifecycle := .queued, startedAt := none, revision := 1, updatedAt := 0 }

def attempt : UnitAttempt :=
  { ShortDeadline.attempt (seconds 100) with
    lifecycle := .queued, quality := .pending, startedAt := none, finalizedAt := none, closedAt := none
    revision := 1, updatedAt := 0 }

/-- The event that the launch writes. -/
def requested : TaskExecutionEvent where
  id := 50
  tenantId := 1
  projectId := 2
  taskRunId := 3
  executionUnitId := none
  unitAttemptId := none
  seq := 1
  eventType := .runRequested
  lifecycle := .queued
  quality := .pending
  hygiene := .notRequired
  payload := .requested 1 0
  occurredAt := 0

def fresh : Db :=
  { ShortDeadline.start 0 with
    run := { (ShortDeadline.start 0).run with
      lifecycle := .queued, startedAt := none, revision := 1, updatedAt := 0 }
    units := [unit], attempts := [attempt], events := [requested] }

def request : UnitAttemptWorkflowInput := ⟨1, 2, 3, 0, 0, 1, 41, 12, seconds 100, 60⟩

def hygiene : HygieneProjection := fun _ _ _ => .ok none

def recorded (command : TaskRunCommandIntent) : EventType × EventPayload :=
  (.runPaused, controlPayload command)

def started : Db := after (startAttempt ShortDeadline.retryId request .admitted 10 10) fresh

def finished : Db :=
  after (finishAttempt LateCleanup.hashes hygiene ShortDeadline.retryId
    ⟨request, ⟨.infraError, some "WORKER_LOST", none, none, none⟩⟩ 20 20) started

def retried : Db :=
  after (settleAttemptBatch LateCleanup.hashes ShortDeadline.retryId ShortDeadline.request 30 30) finished

theorem begun : Begun fresh where
  keyed := ⟨by decide, by decide⟩
  run := ⟨rfl, rfl⟩
  units := by decide
  attempts := by decide
  first := by decide
  seals := rfl
  closures := rfl
  commands := rfl

variable (deliveries)

theorem runs_started :
    Runs LateCleanup.hashes hygiene ShortDeadline.retryId recorded deliveries fresh started :=
  .single (.startAttempt request .admitted 10 10)

theorem started_runs :
    Runs LateCleanup.hashes hygiene ShortDeadline.retryId recorded deliveries started retried :=
  .tail (.single (.finishAttempt _ 20 20)) (.settleAttemptBatch ShortDeadline.request 30 30)

theorem runs_retried :
    Runs LateCleanup.hashes hygiene ShortDeadline.retryId recorded deliveries fresh retried :=
  (runs_started deliveries).trans (started_runs deliveries)

end FreshRun

open FreshRun in
theorem retried_run_is_kept : HistoryKept fresh retried :=
  history_is_kept begun.keyed (runs_retried fun _ => True)

/-! ### The ledger -/

/-- The ledger that a launch leaves: the one event that the Run was requested. -/
def Requested (db : Db) : Prop :=
  ∃ e, db.events = [e] ∧ (e.executionUnitId = none ∧ e.unitAttemptId = none) ∧
    e.seq = 1 ∧ e.lifecycle = .queued ∧ e.quality = .pending

/-- The events are numbered from one without a gap, and their ids differ. -/
structure Ledger (db : Db) : Prop where
  gapless : Rows.Gapless (fun e => e.seq) db.events
  distinct : (db.events.map fun e => e.id).Nodup

theorem Requested.ledger (h : Requested db) : Ledger db := by
  obtain ⟨e, hevents, -, hseq, -⟩ := h
  exact ⟨by simp [Rows.Gapless, hevents, hseq], by simp [hevents]⟩

theorem nextTaskExecutionEventSeq_of_gapless (h : Rows.Gapless (fun e => e.seq) db.events) :
    db.nextTaskExecutionEventSeq = db.events.length + 1 := by
  rw [Db.nextTaskExecutionEventSeq, show db.events.map (fun e => e.seq) = _ from h]
  cases hlength : db.events.length with
  | zero => rfl
  | succ n =>
    have hmax : (List.range' 1 (n + 1)).max? = some (n + 1) :=
      List.max?_eq_some_iff.2 ⟨by simp, fun k hk => by simp at hk; omega⟩
    simp [hmax]

theorem Write.ledger (hl : Ledger db) (h : Write unitRetryAttemptId db db') : Ledger db' := by
  cases h with
  | aside db' h => exact ⟨by rw [h.events]; exact hl.gapless, by rw [h.events]; exact hl.distinct⟩
  | event e fresh seq =>
    refine ⟨Rows.gapless_append.2 ⟨hl.gapless, seq.trans (nextTaskExecutionEventSeq_of_gapless hl.gapless)⟩, ?_⟩
    rw [List.map_append, List.nodup_append]
    refine ⟨hl.distinct, by simp, fun id hid other hother => ?_⟩
    obtain ⟨f, hf, rfl⟩ := List.mem_map.1 hid
    obtain rfl : other = e.id := by simpa using hother
    exact fresh f hf
  | run | unit | attempt | retry | sealed | notice => exact ⟨hl.gapless, hl.distinct⟩

/-- Over any run the ledger is numbered from one without a gap, and a later ledger continues it. -/
theorem ledger_is_gapless (hk₀ : Keyed db₀) (hl₀ : Ledger db₀)
    (h : Runs H P unitRetryAttemptId commandEvent deliveries db₀ db)
    (h' : Runs H P unitRetryAttemptId commandEvent deliveries db db') :
    (db'.events.map fun e => e.seq) = List.range' 1 db'.events.length ∧
      (db'.events.map fun e => e.id).Nodup ∧ db.events <+: db'.events := by
  have hl : Ledger db' :=
    run_keeps (fun _ _ hw hl => hw.ledger hl) (Runs.moves (h.trans h')).writes hl₀
  have hk := (writes_keep_history hk₀ h.moves.writes).2
  exact ⟨hl.gapless, hl.distinct, (writes_keep_history hk h'.moves.writes).1.events⟩

open FreshRun in
theorem fresh_requested : Requested fresh := ⟨requested, rfl, ⟨rfl, rfl⟩, rfl, rfl, rfl⟩

open FreshRun in
theorem retried_ledger_is_gapless :
    (retried.events.map fun e => e.seq) = List.range' 1 retried.events.length ∧
      (retried.events.map fun e => e.id).Nodup ∧ started.events <+: retried.events :=
  ledger_is_gapless begun.keyed fresh_requested.ledger (runs_started fun _ => True) (started_runs fun _ => True)

theorem begun_told (hbegun : Begun db₀) (hrequested : Requested db₀) : Told db₀ := by
  obtain ⟨e, hevents, hrun, hstate⟩ := hrequested
  refine ⟨fun unitId attemptId s _ hs => ?_, ?_⟩
  · have htold : told db₀.events unitId attemptId = (.queued, .pending) := by
      rw [told, eventsAt, hevents, List.filter_cons]
      split
      · simp [hstate]
      · rfl
    rw [htold]
    cases unitId with
    | none =>
      cases attemptId with
      | none =>
        obtain rfl := Option.some.inj hs
        rw [hbegun.run.1, hbegun.run.2]
      | some a => cases hs
    | some u =>
      cases attemptId with
      | none =>
        obtain ⟨row, hrow, rfl⟩ := Option.map_eq_some_iff.1 hs
        have hu := hbegun.units row (List.mem_of_find?_eq_some hrow)
        rw [hu.1, hu.2]
      | some a =>
        obtain ⟨row, hrow, rfl⟩ := Option.map_eq_some_iff.1 hs
        have ha := (hbegun.attempts row (List.mem_of_find?_eq_some (Option.filter_eq_some_iff.1 hrow).1)).2
        rw [ha.1, ha.2]
  · intro f hf
    obtain rfl : f = e := by simpa [hevents] using hf
    rw [hrun.1, hrun.2]
    rfl

/-- After any run the last event about the Run, a Unit or an Attempt tells its lifecycle and its
quality; one that no event is about is queued and pending. -/
theorem ledger_tells_state (htold : Told db₀)
    (h : Runs H P unitRetryAttemptId commandEvent deliveries db₀ db) (unitId attemptId : Option Uuid)
    (state : ExecutionState) (hstate : stateAt db unitId attemptId = some state) :
    told db.events unitId attemptId = (state.lifecycle, state.quality) :=
  (h.moves.told htold).states unitId attemptId state (by simp) hstate

open FreshRun in
theorem retried_ledger_tells_attempt :
    told retried.events (some 41) (some 12) = (.closed, .infraError) :=
  ledger_tells_state (begun_told begun fresh_requested) (runs_retried fun _ => True) (some 41) (some 12)
    { attempt.toExecutionState with
      lifecycle := .closed, quality := .infraError, startedAt := some 10, finalizedAt := some 20
      closedAt := some 20, revision := 4, updatedAt := 20 } (by decide)

/-! ### Terminal facts -/

theorem begun_balanced (hbegun : Begun db₀) (id : Uuid) : Balanced db₀ id := by
  have hzero : factCount db₀ id = 0 := by simp [factCount, hbegun.seals, hbegun.closures]
  rw [Balanced, hzero]
  cases hget : db₀.getAttempt id with
  | none => rfl
  | some a => simp [(hbegun.attempts a (List.mem_of_find?_eq_some hget)).2.1]

theorem getAttempt_of_mem (hk : Keyed db) {a : UnitAttempt} (ha : a ∈ db.attempts) :
    db.getAttempt a.id = some a :=
  Table.find?_of_mem hk.attempts ha

theorem Balanced.factCount_eq (hk : Keyed db) {a : UnitAttempt} (ha : a ∈ db.attempts)
    (hb : Balanced db a.id) : factCount db a.id = if a.lifecycle = .closed then 1 else 0 := by
  unfold Balanced at hb
  rw [getAttempt_of_mem hk ha] at hb
  simpa using hb

theorem Runs.balanced (h : Runs H P unitRetryAttemptId commandEvent deliveries db₀ db)
    (hbegun : Begun db₀) (id : Uuid) : Balanced db id :=
  h.moves.balanced id (begun_balanced hbegun id)

/-- After any run a terminal fact is about a closed Attempt. -/
theorem Runs.exists_of_fact (h : Runs H P unitRetryAttemptId commandEvent deliveries db₀ db)
    (hbegun : Begun db₀) {id : Uuid} (hcount : factCount db id ≠ 0) :
    ∃ a ∈ db.attempts, a.id = id ∧ a.lifecycle = .closed := by
  have hb := h.balanced hbegun id
  unfold Balanced at hb
  cases hget : db.getAttempt id with
  | none =>
    rw [hget] at hb
    exact absurd hb hcount
  | some a =>
    refine ⟨a, List.mem_of_find?_eq_some hget, getAttempt_id hget, ?_⟩
    by_contra hopen
    simp only [hget, Option.any_some, hopen, decide_false, Bool.false_eq_true, if_false] at hb
    exact hcount hb

theorem factCount_of_seal {s : AttemptSeal} (hs : s ∈ db.seals) : factCount db s.unitAttemptId ≠ 0 := by
  have hpos : 0 < db.seals.countP fun t => decide (t.unitAttemptId = s.unitAttemptId) :=
    List.countP_pos_iff.2 ⟨s, hs, by simp⟩
  unfold factCount
  omega

theorem factCount_of_closure {n : AttemptClosureNotice} (hn : n ∈ db.closures) :
    factCount db n.unitAttemptId ≠ 0 := by
  have hpos : 0 < db.closures.countP fun m => decide (m.unitAttemptId = n.unitAttemptId) :=
    List.countP_pos_iff.2 ⟨n, hn, by simp⟩
  unfold factCount
  omega

/-- After any run a closed Attempt has exactly one terminal fact, a Seal or a closure notice, an
open one has none, and no fact is about anything else. -/
theorem one_terminal_fact (hbegun : Begun db₀) (h : Runs H P unitRetryAttemptId commandEvent deliveries db₀ db) :
    (∀ a ∈ db.attempts, factCount db a.id = if a.lifecycle = .closed then 1 else 0) ∧
      (∀ s ∈ db.seals, ∃ a ∈ db.attempts, a.id = s.unitAttemptId ∧ a.lifecycle = .closed) ∧
      ∀ n ∈ db.closures, ∃ a ∈ db.attempts, a.id = n.unitAttemptId ∧ a.lifecycle = .closed := by
  have hk := (writes_keep_history hbegun.keyed h.moves.writes).2
  exact ⟨fun a ha => (h.balanced hbegun a.id).factCount_eq hk ha,
    fun s hs => h.exists_of_fact hbegun (factCount_of_seal hs),
    fun n hn => h.exists_of_fact hbegun (factCount_of_closure hn)⟩

open FreshRun in
theorem retried_run_has_one_fact :
    (∀ a ∈ retried.attempts, factCount retried a.id = if a.lifecycle = .closed then 1 else 0) ∧
      (∀ s ∈ retried.seals, ∃ a ∈ retried.attempts, a.id = s.unitAttemptId ∧ a.lifecycle = .closed) ∧
      ∀ n ∈ retried.closures, ∃ a ∈ retried.attempts, a.id = n.unitAttemptId ∧ a.lifecycle = .closed :=
  one_terminal_fact begun (runs_retried fun _ => True)

end Atlas.Proofs
