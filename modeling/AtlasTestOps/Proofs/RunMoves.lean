import AtlasTestOps.Proofs.RetryDeadline
import AtlasTestOps.Proofs.RunWrites

/-! Every operation on a TaskRun is made of the writes of `Write`: closing an Attempt puts its
notice in place, accepting a Seal closes its Attempt, and a retry is scheduled within the policy
that the Manifest froze. -/

namespace Atlas.Proofs

open Atlas Atlas.Task Atlas.Result Atlas.Store Atlas.Orchestration Atlas.Service Txn
open Relation (ReflTransGen)

variable {H : ResultHashes} {P : HygieneProjection} {unitRetryAttemptId : Uuid → ℕ → Uuid}
  {commandEvent : TaskRunCommandIntent → EventType × EventPayload}
  {db db' : Db} {run : TaskRun} {unit : ExecutionUnit} {attempt : UnitAttempt}
  {now clock createdAt : Instant}

/-! ### Closing an Attempt without a Seal -/

/-- The notice of the Attempt is there already, or is the one fact that is added. -/
def Noticed (id : Uuid) (db db' : Db) : Prop :=
  (factCount db id ≠ 0 ∧ ∀ other, factCount db' other = factCount db other) ∨
    factCount db id = 0 ∧
      ∀ other, factCount db' other = factCount db other + if other = id then 1 else 0

theorem closureInPlace_noticed (hseal : db.getSealByAttempt attempt.id = none)
    (h : ClosureInPlace attempt db db') : Noticed attempt.id db db' := by
  have hseals : db.seals.countP (fun s => decide (s.unitAttemptId = attempt.id)) = 0 := by
    simpa [Db.getSealByAttempt, List.countP_eq_zero] using hseal
  cases h with
  | stored notice found =>
    refine .inl ⟨fun hzero => ?_, fun _ => rfl⟩
    have hnone : db.closures.countP (fun n => decide (n.unitAttemptId = attempt.id)) = 0 := by
      unfold factCount at hzero
      omega
    rw [List.countP_eq_zero] at hnone
    exact hnone notice (List.mem_of_find?_eq_some found) (by simpa using List.find?_some found)
  | written notice nextId first names =>
    have hnone : db.closures.countP (fun n => decide (n.unitAttemptId = attempt.id)) = 0 := by
      simpa [Db.getClosureByAttempt, List.countP_eq_zero] using first
    refine .inr ⟨by unfold factCount; omega, fun other => ?_⟩
    by_cases hother : other = attempt.id
    · simp [factCount, List.countP_append, names, hother]
      omega
    · simp [factCount, List.countP_append, names, hother, Ne.symm hother]

variable (unitRetryAttemptId) in
theorem closureInPlace_writes (h : ClosureInPlace attempt db db') :
    ReflTransGen (Write unitRetryAttemptId) db db' ∧ (Told db → Told db') ∧
      db'.attempts = db.attempts := by
  cases h with
  | stored notice found => exact ⟨.refl, id, rfl⟩
  | written notice nextId first names =>
    have hwrite : Write unitRetryAttemptId db { db with closures := db.closures ++ [notice] } := by
      refine .notice notice fun n hn heq => ?_
      have hnone := List.find?_eq_none.1 first n hn
      simp [heq.trans names] at hnone
    have haside : Write unitRetryAttemptId { db with closures := db.closures ++ [notice] }
        { db with closures := db.closures ++ [notice], nextId := nextId } :=
      .aside _ { Aside.refl _ with }
    refine ⟨.tail (.single hwrite) haside, fun ht => ⟨fun u a s hne hs => ?_, fun e he => ?_⟩, rfl⟩
    · rw [stateAt_congr rfl rfl rfl] at hs
      exact ht.states u a s hne hs
    · rw [stateAt_congr rfl rfl rfl]
      exact ht.placed e he

variable (unitRetryAttemptId) in
/-- What a committed `_close_attempt_result_without_seal` has done. -/
theorem closeAttemptResultWithoutSeal_commits {status : AttemptStatus} {reason : String} {u : Unit}
    (h : Commits (closeAttemptResultWithoutSeal H unit attempt status reason createdAt) db u db') :
    attempt.lifecycle = .closed ∧ Noticed attempt.id db db' ∧
      ReflTransGen (Write unitRetryAttemptId) db db' ∧ (Told db → Told db') ∧
      db'.attempts = db.attempts := by
  simp only [closeAttemptResultWithoutSeal, commits_bind, commits_demand, commits_rethrow,
    commits_pure] at h
  obtain ⟨_, _, ⟨-, rfl⟩, r, _, hclose, -, rfl⟩ := h
  obtain ⟨-, hclosed, -, hseal, m, hplace, hresolve⟩ := closeWithoutSeal_commits hclose
  have hmoves : Moves unitRetryAttemptId _ _ := resolveUnit_moves _ _ _ hresolve
  have hsame : db'.seals = m.seals ∧ db'.closures = m.closures ∧ db'.attempts = m.attempts := by
    rcases resolveUnit_commits hresolve with ⟨-, rfl⟩ | happended
    · exact ⟨rfl, rfl, rfl⟩
    · obtain ⟨_, rfl⟩ := happended.state
      exact ⟨rfl, rfl, rfl⟩
  obtain ⟨hwrites, htold, hattempts⟩ :=
    closureInPlace_writes unitRetryAttemptId hplace
  refine ⟨hclosed, ?_, hwrites.trans hmoves.writes, fun ht => hmoves.told (htold ht),
    hsame.2.2.trans hattempts⟩
  have hcount : ∀ other, factCount db' other = factCount m other := by
    intro other
    rw [factCount, factCount, hsame.1, hsame.2.1]
  simpa only [Noticed, hcount] using closureInPlace_noticed hseal hplace

/-- Of an Attempt that is closed already nothing is added, where its fact was there. -/
theorem closedAgain_moves {status : AttemptStatus} {reason : String} {u : Unit}
    (hget : db.getAttempt attempt.id = some attempt)
    (h : Commits (closeAttemptResultWithoutSeal H unit attempt status reason createdAt) db u db') :
    Moves unitRetryAttemptId db db' := by
  obtain ⟨hclosed, hnoticed, hwrites, htold, hattempts⟩ := closeAttemptResultWithoutSeal_commits unitRetryAttemptId h
  refine ⟨hwrites, fun id hb => ?_, htold⟩
  unfold Balanced at hb ⊢
  rw [Db.getAttempt, hattempts, ← Db.getAttempt]
  rcases hnoticed with ⟨-, hcount⟩ | ⟨hzero, hcount⟩
  · rw [hcount, hb]
  · rw [hcount]
    by_cases hid : id = attempt.id
    · subst hid
      simp [hget, hclosed, hzero] at hb
    · rw [if_neg hid, hb, add_zero]

/-- An open Attempt without a fact closes and gets its first one. -/
theorem balanced_closed {id : Uuid} {next : ExecutionState}
    {own : Uuid} (hget : db.getAttempt own = some attempt) (hopen : attempt.lifecycle ≠ .closed)
    (hnext : next.lifecycle = .closed) (hattempts : db'.attempts = setAttempt own next db.attempts)
    (hown : factCount db own = 0 → factCount db' own = 1)
    (hothers : ∀ other, other ≠ own → factCount db' other = factCount db other)
    (h : Balanced db id) : Balanced db' id := by
  have hrow : db'.getAttempt id = (db.getAttempt id).map fun a =>
      if a.id = own then { a with toExecutionState := next } else a := by
    rw [← getAttempt_setAttempt db]
    simp only [Db.getAttempt, hattempts]
  unfold Balanced at h ⊢
  rw [hrow]
  by_cases hid : id = own
  · subst hid
    simp only [hget, Option.any_some, hopen, decide_false, Bool.false_eq_true, if_false] at h
    simp [hown h, hget, hnext, getAttempt_id hget]
  · rw [hothers id hid, h]
    cases hgot : db.getAttempt id with
    | none => rfl
    | some row => simp [getAttempt_id hgot, hid]

/-- An open Attempt closes and its notice is put in place. -/
theorem closeAttempt_moves {progress : Progress} {eventType : EventType} {payload : EventPayload}
    {status : AttemptStatus} {reason : String} {closed : UnitAttempt} {m : Db} {u : Unit}
    (hopen : attempt.lifecycle ≠ .closed) (hclosing : progress.lifecycle = .closed)
    (hstored : ∃ a, db.getAttempt attempt.id = some a ∧ a.lifecycle ≠ .closed)
    (htransition : Commits (transitionAttempt run unit attempt progress eventType payload clock)
      db closed m)
    (hclose : Commits (closeAttemptResultWithoutSeal H unit closed status reason createdAt) m u db') :
    Moves unitRetryAttemptId db db' := by
  have hne : ¬ (attempt.lifecycle = progress.lifecycle ∧ attempt.quality = progress.quality) :=
    fun hsame => hopen (hsame.1.trans hclosing)
  rw [transitionAttempt, if_neg hne] at htransition
  simp only [commits_bind, commits_pure] at htransition
  obtain ⟨_, m₁, hstate, _, m₂, hevent, rfl, rfl⟩ := htransition
  obtain ⟨a, next, hget, hunit, hadvance, -, rfl, rfl⟩ := transitionUnitAttemptState_commits hstate
  obtain ⟨b, hb, hbopen⟩ := hstored
  obtain rfl := Option.some.inj (hget.symm.trans hb)
  have hid := getAttempt_id hget
  obtain ⟨hwrites, htold⟩ := moveAttempt_writes unitRetryAttemptId hget hunit
    hadvance (recordEvent_commits hevent)
  obtain ⟨events, nextId, rfl⟩ := (recordEvent_commits hevent).rows
  obtain ⟨hclosed, hnoticed, hwrites', htold', hattempts⟩ :=
    closeAttemptResultWithoutSeal_commits unitRetryAttemptId hclose
  refine ⟨hwrites.trans hwrites', fun id hbal => ?_, fun ht => htold' (htold ht)⟩
  refine balanced_closed hb hbopen hclosed hattempts (fun hzero => ?_) (fun other hother => ?_) hbal
  · -- The notice is a new one: before the change there was no fact.
    rcases hnoticed with ⟨hnonzero, -⟩ | ⟨-, hcount⟩
    · rw [show ({ a with toExecutionState := next } : UnitAttempt).id = attempt.id from hid] at hnonzero
      exact absurd hzero hnonzero
    · rw [hcount, if_pos (show attempt.id = ({ a with toExecutionState := next } : UnitAttempt).id from
        hid.symm)]
      exact congrArg (· + 1) hzero
  · rcases hnoticed with ⟨-, hcount⟩ | ⟨-, hcount⟩
    · exact hcount other
    · rw [hcount, if_neg, add_zero]
      · rfl
      · exact fun heq => hother (heq.trans hid)

/-! ### Accepting a Seal -/

theorem ToldBut.of_rows {except : Option (Option Uuid × Option Uuid)} (ht : ToldBut except db)
    (hrun : db'.run = db.run) (hunits : db'.units = db.units)
    (hattempts : db'.attempts = db.attempts) (hevents : db'.events = db.events) :
    ToldBut except db' := by
  refine ⟨fun u a s hne hs => ?_, fun e he => ?_⟩
  · rw [stateAt_congr hrun hunits hattempts] at hs
    rw [hevents]
    exact ht.states u a s hne hs
  · rw [stateAt_congr hrun hunits hattempts]
    exact ht.placed e (hevents ▸ he)

variable (unitRetryAttemptId attempt) in
/-- One transition of a sealed Attempt with its event. -/
theorem sealedStep_commits {taskRunId unitId : Uuid} {expectedRevision : ℕ} {axes : ExecutionAxes}
    {eventType : EventType} {payload : EventPayload} {acceptedAt : Instant} {b : UnitAttempt} {m : Db}
    {u : Unit} (hget : db.getAttempt attempt.id = some attempt)
    (hstate : Commits (transitionUnitAttemptState taskRunId unitId attempt.id expectedRevision axes
      clock) db b m)
    (hevent : Commits (appendTaskEvent b eventType payload acceptedAt) m u db') :
    ∃ next events nextId, b = { attempt with toExecutionState := next } ∧
      next.toExecutionAxes = axes ∧ ReflTransGen (Write unitRetryAttemptId) db db' ∧
      (Told db → Told db') ∧
      db' = { db with
        attempts := setAttempt attempt.id next db.attempts
        events := events
        nextId := nextId } := by
  obtain ⟨a, next, hfound, -, hadvance, haxes, rfl, rfl⟩ := transitionUnitAttemptState_commits hstate
  obtain rfl := Option.some.inj (hget.symm.trans hfound)
  have hrecorded := appendTaskEvent_commits hevent
  obtain ⟨hwrites, htold⟩ := moveAttempt_writes unitRetryAttemptId hget rfl
    hadvance hrecorded
  obtain ⟨events, nextId, hrows⟩ := hrecorded.rows
  exact ⟨next, events, nextId, rfl, haxes, hwrites, htold, hrows⟩

/-- The Seal and the two transitions that close its Attempt are one change. -/
theorem recordSeal_moves {fact : AttemptSeal} {ref : ResultRef} {acceptedAt : Instant}
    (hget : db.getAttempt attempt.id = some attempt) (hopen : attempt.lifecycle ≠ .closed)
    (hnames : fact.unitAttemptId = attempt.id)
    (h : Commits (recordSeal run unit attempt fact acceptedAt clock) db ref db') :
    Moves unitRetryAttemptId db db' := by
  simp only [recordSeal, commits_bind, commits_insertFact, commits_newEntityId, commits_insertRef,
    commits_pure] at h
  obtain ⟨_, _, ⟨-, hfirst, rfl⟩, id, _, ⟨rfl, rfl⟩, _, m, ⟨-, -, hm⟩, finalizing, m₁, hstate₁, _,
    m₂, hevent₁, closed, m₃, hstate₂, _, m₄, hevent₂, rfl, rfl⟩ := h
  have hseal : Write unitRetryAttemptId db { db with seals := db.seals ++ [fact] } :=
    .sealed fact fun s hs heq => hfirst ⟨s, hs, heq⟩
  have hstored : ReflTransGen (Write unitRetryAttemptId) db m := by
    refine .tail (.single hseal) (.aside m ?_)
    subst hm
    exact { Aside.refl _ with refs := List.prefix_append _ _ }
  have htold₀ : Told db → Told m := fun ht => ht.of_rows (by rw [hm]) (by rw [hm]) (by rw [hm]) (by rw [hm])
  have hget₀ : m.getAttempt attempt.id = some attempt := by rw [hm]; exact hget
  obtain ⟨next₁, events₁, nextId₁, rfl, haxes₁, hwrites₁, htold₁, hrows₁⟩ :=
    sealedStep_commits unitRetryAttemptId attempt hget₀ hstate₁ hevent₁
  have hget₁ : m₂.getAttempt attempt.id = some { attempt with toExecutionState := next₁ } := by
    rw [hrows₁]
    refine (getAttempt_setAttempt m).trans ?_
    rw [hget₀, Option.map_some, if_pos rfl]
  obtain ⟨next₂, events₂, nextId₂, rfl, haxes₂, hwrites₂, htold₂, hrows₂⟩ :=
    sealedStep_commits unitRetryAttemptId { attempt with toExecutionState := next₁ } hget₁ hstate₂ hevent₂
  refine ⟨hstored.trans (hwrites₁.trans hwrites₂), fun other hbal => ?_,
    fun ht => htold₂ (htold₁ (htold₀ ht))⟩
  have hcount : ∀ other, factCount db' other =
      factCount db other + if other = attempt.id then 1 else 0 := by
    intro other
    have hseals : db'.seals = db.seals ++ [fact] := by rw [hrows₂, hrows₁, hm]
    have hclosures : db'.closures = db.closures := by rw [hrows₂, hrows₁, hm]
    rw [factCount, factCount, hseals, hclosures, List.countP_append]
    by_cases hother : other = attempt.id
    · simp [hnames, hother]
      omega
    · simp [hnames, hother, Ne.symm hother]
  refine balanced_closed hget hopen (congrArg (fun x => x.lifecycle) haxes₂) ?_
    (fun hzero => by simp [hcount, hzero]) (fun other hother => by simp [hcount, hother]) hbal
  have hattempts : m.attempts = db.attempts := by rw [hm]
  rw [hrows₂, hrows₁, ← hattempts]
  exact Table.modify_modify (fun _ => rfl) fun _ => rfl

/-! ### Scheduling a retry -/

/-- What `create_attempt` has checked when it stores a new Attempt. -/
theorem createAttempt_commits {a stored : UnitAttempt}
    (hnone : db.getAttemptByNumber a.executionUnitId a.attemptNumber = none)
    (h : Commits (createAttempt a) db stored db') :
    (∀ b ∈ db.attempts, b.id ≠ a.id) ∧
      a.attemptNumber = db.lastAttemptNumber a.executionUnitId + 1 ∧
      dispatchable db.run.lifecycle = true ∧ (∃ u ∈ db.units, u.toUnitScope = a.toUnitScope) ∧
      stored = a ∧
      db' = { db with attempts := db.attempts ++ [a] } := by
  simp only [createAttempt, commits_bind, commits_raiseIf, commits_read] at h
  obtain ⟨_, _, ⟨-, rfl⟩, _, _, ⟨rfl, rfl⟩, h⟩ := h
  rw [hnone] at h
  simp only [requireRetryPrerequisites, insertAttempt, commits_bind, commits_raiseIf, commits_read,
    commits_demand, commits_update, commits_pure, not_or, not_not, not_exists, not_and] at h
  obtain ⟨_, _, ⟨-, rfl⟩, _, _, ⟨_, _, ⟨rfl, rfl⟩, run, _, ⟨hrun, rfl⟩, _, _, ⟨-, rfl⟩, _, _,
    ⟨hruns, rfl⟩, _, _, ⟨-, rfl⟩, _, _, ⟨rfl, rfl⟩, _, _, ⟨-, rfl⟩, _, _, ⟨-, rfl⟩, _, _,
    ⟨rfl, rfl⟩, -, rfl⟩, _, _, ⟨_, _, ⟨rfl, rfl⟩, _, _, ⟨hunit, rfl⟩, _, _, ⟨rfl, rfl⟩, _, _,
    ⟨hfresh, rfl⟩, _, _, ⟨rfl, rfl⟩, _, _, ⟨hnumber, rfl⟩, _, _, ⟨-, rfl⟩, _, _, ⟨-, rfl⟩, _, _,
    ⟨-, rfl⟩, rfl⟩, rfl, rfl⟩ := h
  refine ⟨fun b hb heq => hfresh b hb heq, hnumber, ?_, ?_, rfl, rfl⟩
  · have hfound := (Option.filter_eq_some_iff.1 hrun).1
    unfold Db.getRun at hfound
    split at hfound
    · obtain rfl := Option.some.inj hfound
      simpa using hruns
    · cases hfound
  · by_contra hnone
    exact hunit fun u hu hscope => absurd ⟨u, List.mem_of_find?_eq_some hu, hscope⟩ hnone

theorem retry_moves {a : UnitAttempt} (h : Retry unitRetryAttemptId db a) :
    Moves unitRetryAttemptId db { db with attempts := db.attempts ++ [a] } := by
  have hnone : db.getAttempt a.id = none := by
    simpa [Db.getAttempt] using h.fresh
  have hrow : ∀ id, ({ db with attempts := db.attempts ++ [a] }).getAttempt id =
      (db.getAttempt id).or (if a.id = id then some a else none) := by
    intro id
    simp [Db.getAttempt, List.find?_append, List.find?_singleton]
  refine ⟨.single (.retry a h), fun id hb => ?_, fun ht => ⟨fun u b s hne hs => ?_, fun e he => ?_⟩⟩
  · unfold Balanced at hb ⊢
    rw [show factCount { db with attempts := db.attempts ++ [a] } id = factCount db id from rfl, hb, hrow]
    by_cases hid : a.id = id
    · subst hid
      simp [hnone, h.initial.1]
    · simp [hid]
  · -- No event is about a row that was not there.
    cases u with
    | none => exact ht.states none b s (by simp) (by cases b <;> exact hs)
    | some u =>
      cases b with
      | none => exact ht.states (some u) none s (by simp) hs
      | some b =>
        simp only [stateAt, hrow] at hs
        by_cases hid : a.id = b
        · subst hid
          simp only [hnone, if_true, Option.none_or] at hs
          obtain ⟨row, hfound, rfl⟩ := Option.map_eq_some_iff.1 hs
          obtain ⟨hfound, -⟩ := Option.filter_eq_some_iff.1 hfound
          obtain rfl := Option.some.inj hfound
          have hempty : eventsAt db.events (some u) (some a.id) = [] := by
            refine List.filter_eq_nil_iff.2 fun e he hscope => ?_
            obtain ⟨hu, ha⟩ := of_decide_eq_true hscope
            have hplaced := ht.placed e he
            simp [hu, ha, stateAt, hnone] at hplaced
          simp [told, hempty, h.initial]
        · rw [if_neg hid, Option.or_none] at hs
          exact ht.states _ _ s (by simp) hs
  · have hplaced := ht.placed e he
    cases hu : e.executionUnitId with
    | none =>
      rw [hu] at hplaced
      revert hplaced
      cases ha : e.unitAttemptId <;> simp [stateAt]
    | some u =>
      cases ha : e.unitAttemptId with
      | none =>
        rw [hu, ha] at hplaced
        exact hplaced
      | some b =>
        rw [hu, ha] at hplaced
        obtain ⟨s, hs⟩ := Option.isSome_iff_exists.1 hplaced
        obtain ⟨row, hfound, rfl⟩ := Option.map_eq_some_iff.1 hs
        obtain ⟨hfound, hscope⟩ := Option.filter_eq_some_iff.1 hfound
        simp [stateAt, hrow, hfound, Option.filter, of_decide_eq_true hscope]

end Atlas.Proofs
