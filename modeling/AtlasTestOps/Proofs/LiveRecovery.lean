import Mathlib.Data.Fintype.Card
import AtlasTestOps.Proofs.LiveFencing

/-! Which sessions can come back under control. Workers and operators lead every session out of
a request, a pause or a reconciliation; none leads out of an expiry. -/

namespace Atlas.Proofs

open Atlas Atlas.Identity Atlas.Task Atlas.Runtime Atlas.Store Atlas.Service Txn

/-- Some lease is ACTIVE and has not run out. -/
def HasController (s : LiveState) : Prop := ∃ l ∈ s.db.leases, l.state = .active ∧ s.clock < l.expiresAt

/-- Calls only, at readings that do not go back. -/
inductive LiveCalls : LiveState → LiveState → Prop
  | refl (s : LiveState) : LiveCalls s s
  | tail {s m : LiveState} (h : LiveCalls s m) (c : LiveCall) (now : Instant) (hnow : m.clock ≤ now) :
      LiveCalls s (m.call c now)

def Recoverable (s : LiveState) : Prop := ∃ s', LiveCalls s s' ∧ HasController s'

theorem LiveCalls.run {s s' : LiveState} (h : LiveCalls s s') : LiveRun s s' := by
  induction h with
  | refl => exact .refl
  | tail _ c now hnow ih => exact ih.tail (.call _ c now hnow)

theorem LiveCalls.trans {a b c : LiveState} (h₁ : LiveCalls a b) (h₂ : LiveCalls b c) : LiveCalls a c := by
  induction h₂ with
  | refl => exact h₁
  | tail _ c now hnow ih => exact ih.tail c now hnow

/-! ### No way out of an expiry -/

/-- The lease of the controller ran out, whether or not that has been recorded. -/
structure Lost (s : LiveState) : Prop where
  session : ∃ session, s.db.session = some session ∧ (session.state = .noController ∨ Controlled session)
  lapsed : ∀ l ∈ s.db.leases, l.state = .active → l.expiresAt ≤ s.clock

theorem Lost.not_hasController {s : LiveState} (h : Lost s) : ¬ HasController s := by
  rintro ⟨l, hl, hactive, hlt⟩
  exact absurd (h.lapsed l hl hactive) (Nat.not_le.2 hlt)

theorem not_requested_of_lost {session : LiveSession} {commandType : LiveControlCommandType}
    (h : session.state = .noController ∨ Controlled session) :
    session.state ≠ (requestedState commandType).1 := by
  rcases h with h | h | h <;> rw [h] <;> cases commandType <;> simp [requestedState]

theorem lapsed_of_same {now clock : Instant} {db db' : LiveDb} (hnow : clock ≤ now)
    (hleases : db'.leases = db.leases) (h : ∀ l ∈ db.leases, l.state = .active → l.expiresAt ≤ clock) :
    ∀ l ∈ db'.leases, l.state = .active → l.expiresAt ≤ now := by
  rw [hleases]
  exact fun l hl hactive => (h l hl hactive).trans hnow

theorem Lost.call {s : LiveState} (h : Lost s) (hinv : LiveInv s.db) (c : LiveCall) {now : Instant}
    (hnow : s.clock ≤ now) : Lost (s.call c now) := by
  obtain ⟨⟨session, hs, hstate⟩, hlapsed⟩ := h
  have same : ∀ {db' : LiveDb}, Steady s.db db' → db'.leases = s.db.leases → Lost ⟨db', now⟩ := by
    intro db' hm hleases
    obtain ⟨s', hs', -⟩ := hm.fenceMove hs
    obtain ⟨s₀, hs₀, hst, -⟩ := hm.session s' hs'
    obtain rfl := Option.some.inj (hs.symm.trans hs₀)
    exact ⟨⟨s', hs', by rwa [Controlled, hst]⟩, lapsed_of_same hnow hleases hlapsed⟩
  have hmove := move_of_after c now s.db
  unfold LiveState.call
  generalize after (c.run now) s.db = db' at hmove
  cases hmove with
  | untouched hm => exact same hm.steady hm.leases_eq
  | initialized hm =>
    rw [hm.absent] at hs
    simp at hs
  | renewed hm =>
    obtain ⟨q, expiresAt, hq, hleases⟩ := hm.leases
    refine same hm.steady (hleases.trans ((List.map_congr_left fun l hl => ?_).trans (List.map_id _)))
    refine if_neg fun hql => ?_
    obtain ⟨hactive, hlt⟩ := hq l hql
    exact absurd hlt (Nat.not_lt.2 ((hlapsed l hl hactive).trans hnow))
  | expired hm =>
    refine ⟨⟨_, hm.session_eq, Or.inl rfl⟩, fun l hl hactive => ?_⟩
    have hnone := (hinv.expired hm).uncontrolled _ hm.session_eq (Or.inr (Or.inr rfl)) l hl
    rw [current_of_active hactive] at hnone
    simp at hnone
  | @requested commandType session' command hm =>
    obtain rfl := Option.some.inj (hs.symm.trans hm.held)
    by_cases hresume : commandType = .resume
    · have hpaused := hm.state
      rw [hresume] at hpaused
      rcases hstate with h | h | h <;> simp [h, expectedState] at hpaused
    · obtain ⟨l, hlease, hactive, hlt⟩ := hm.controller hresume
      have hlapse := hlapsed l (mem_getCurrentLease hlease).1 hactive
      exact absurd hlt (Nat.not_lt.2 (hlapse.trans hnow))
  | @acknowledged request session' command hm =>
    obtain rfl := Option.some.inj (hs.symm.trans hm.held)
    have hpending := hinv.pending session hs command (List.mem_of_find?_eq_some hm.found) hm.pending
    exact absurd hpending.1 (not_requested_of_lost hstate)
  | issued hm _ _ => exact same hm.steady hm.leases_eq
  | consumed hm => exact same hm.steady hm.leases_eq
  | completed hm => exact same hm.steady hm.leases_eq

theorem Lost.calls {s s' : LiveState} (h : Lost s) (hinv : LiveInv s.db) (hcalls : LiveCalls s s') :
    Lost s' := by
  induction hcalls with
  | refl => exact h
  | tail hcalls c now hnow ih => exact ih.call (liveInv_run hcalls.run hinv) c hnow

/-! ### The way back under control -/

/-- The call is answered and leaves `db'`. -/
theorem call_of_commits {s : LiveState} {c : LiveCall} {db' : LiveDb}
    (h : Commits (c.run s.clock) s.db () db') : LiveCalls s ⟨db', s.clock⟩ := by
  have hcall : s.call c s.clock = ⟨db', s.clock⟩ := by
    unfold LiveState.call
    rw [after_of_commits h]
  rw [← hcall]
  exact LiveCalls.tail (.refl s) c s.clock le_rfl

theorem commits_liveSnapshot {db : LiveDb} {session : LiveSession}
    (h : ∀ l ∈ db.leases, l.isCurrent = true →
      l.controlEpoch = session.controlEpoch ∧ l.fencingToken = session.fencingToken) :
    Commits (liveSnapshot session) db ⟨session, db.getCurrentLease, db.getPendingCommand⟩ db := by
  simp only [liveSnapshot, commits_bind, commits_read, commits_raiseIf, commits_pure]
  refine ⟨_, _, ⟨rfl, rfl⟩, _, _, ⟨rfl, rfl⟩, (), _, ⟨?_, rfl⟩, rfl, rfl⟩
  cases hl : db.getCurrentLease with
  | none => simp
  | some l =>
    obtain ⟨hmem, hcur⟩ := mem_getCurrentLease hl
    obtain ⟨h₁, h₂⟩ := h l hmem hcur
    simp [h₁, h₂]

/-- The receipt of a Worker that reports the page as it stands. -/
def receipt (session : LiveSession) (g : LiveActionGrant) : CompleteLiveActionGrant :=
  ⟨g.controlEpoch, g.fencingToken, 0, .outcomeUnknown, session.browserRevision⟩

theorem commits_requireRuntimeSession {db : LiveDb} {session : LiveSession}
    (hs : db.session = some session) : Commits requireRuntimeSession db session db := by
  rw [requireRuntimeSession, commits_read_bind, hs]
  exact commits_demand.2 ⟨rfl, rfl⟩

theorem guard_completed {a : LiveActionGrant} {receiptId : Option Uuid}
    {status : Option LiveActionExecutionStatus} {revision : Option ℕ} (h : a.state = .consumed) :
    guardLiveActionGrantUpdate a { a with
      state := .completed, receiptId := receiptId, executionStatus := status
      resultingPageRevision := revision } = none := by
  simp only [guardLiveActionGrantUpdate, firstViolation_cons, firstViolation_nil, and_true,
    decide_eq_false_iff_not, not_or, not_not]
  exact ⟨trivial, fun hother => hother.2 h⟩

/-- A receipt under the fence of its action is accepted unless it takes the page back. -/
theorem completeGrant_commits {db : LiveDb} {session : LiveSession} {g : LiveActionGrant}
    (hinv : LiveInv db) (hs : db.session = some session) (hg : g ∈ db.grants)
    (hconsumed : g.state = .consumed) (now : Instant) {request : CompleteLiveActionGrant}
    (hepoch : request.controlEpoch = g.controlEpoch) (hfence : request.fencingToken = g.fencingToken)
    (hrevision : session.browserRevision ≤ request.resultingPageRevision) :
    ∃ out db', Commits (completeGrant g.grantId request now) db out db' ∧
      db'.session = some { session with
        browserRevision := request.resultingPageRevision, revision := session.revision + 1 } ∧
      db'.attempt = db.attempt ∧ db'.grants = db.grants.map (completeRow g request) := by
  have hfind : db.getActionGrant g.grantId = some g := Table.find?_of_mem hinv.grantKeys hg
  have hstays : guardLiveSessionUpdate session { session with
      browserRevision := request.resultingPageRevision, revision := session.revision + 1 } = none := by
    simp [guardLiveSessionUpdate, hinv.opened session hs, hrevision]
  let p : LiveActionGrant → Bool := fun a => a.grantId = g.grantId && a.state = .consumed &&
    a.controlEpoch = g.controlEpoch && a.fencingToken = g.fencingToken
  let f : LiveActionGrant → LiveActionGrant := fun a =>
    { a with state := .completed, receiptId := some request.receiptId
             executionStatus := some request.executionStatus
             resultingPageRevision := some request.resultingPageRevision }
  have hadmits : liveGrantTable.Admits p f db := by
    intro a ha hp
    simp only [p, Bool.and_eq_true, decide_eq_true_eq] at hp
    simp only [liveGrantTable, f, guard_completed hp.1.1.2, Option.map_none]
  obtain ⟨b, hb⟩ : ∃ b, ((db.grants.filter p).map f).head? = some b := by
    have hmem : g ∈ db.grants.filter p := List.mem_filter.2 ⟨hg, by simp [p, hconsumed]⟩
    cases hrows : db.grants.filter p with
    | nil => simp [hrows] at hmem
    | cons a rows => exact ⟨f a, rfl⟩
  have hupdate := (liveGrantTable.commits_guarded p f).2 ⟨hadmits, rfl, rfl⟩
  have hcomplete : Commits (completeActionGrant g request) db (some b)
      (liveGrantTable.rewrite p f db) := by
    unfold completeActionGrant
    exact commits_bind.2 ⟨_, _, hupdate, commits_pure.2 ⟨hb.symm, rfl⟩⟩
  have hadvance : Commits (advanceBrowserRevision session request.resultingPageRevision)
      (liveGrantTable.rewrite p f db)
      { session with browserRevision := request.resultingPageRevision, revision := session.revision + 1 }
      { liveGrantTable.rewrite p f db with session := some { session with
        browserRevision := request.resultingPageRevision, revision := session.revision + 1 } } := by
    unfold advanceBrowserRevision
    exact (commits_updateLiveSession (by exact hs) (by simp)).2 ⟨hstays, rfl, rfl⟩
  simp only [completeGrant, advanceBrowserRevision, commits_bind, commits_read, commits_demand,
    commits_raiseIf, commits_ite, commits_pure, commits_appendLiveEvent]
  refine ⟨_, _, ⟨session, db, commits_requireRuntimeSession hs, _, _, ⟨rfl, rfl⟩, g, _, ⟨hfind, rfl⟩, (), _,
    ⟨by simp [hepoch, hfence], rfl⟩, Or.inr ⟨by simp [hconsumed], (), _, ⟨by simp [hconsumed], rfl⟩, (), _,
      ⟨Nat.not_lt.2 hrevision, rfl⟩, _, _, hcomplete, b, _, ⟨rfl, rfl⟩, _, _, hadvance, (), _, rfl, rfl, rfl⟩⟩,
    rfl, rfl, ?_⟩
  simp [rewrite_grants, completeRow, p, f, and_assoc]

/-- One receipt fewer to wait for. -/
theorem inflight_decreases {grants : List LiveActionGrant} {g : LiveActionGrant} (hg : g ∈ grants)
    (hconsumed : g.state = .consumed) (request : CompleteLiveActionGrant) :
    (grants.map (completeRow g request)).countP (fun a => a.state = .consumed) <
      grants.countP fun a => a.state = .consumed := by
  have hle : ∀ a, (decide ((completeRow g request a).state = .consumed)) = true →
      decide (a.state = .consumed) = true := by
    intro a ha
    unfold completeRow at ha
    split at ha
    · simp at ha
    · exact ha
  rw [List.countP_map]
  induction grants with
  | nil => simp at hg
  | cons a rows ih =>
    have hrest : rows.countP ((fun a => decide (a.state = .consumed)) ∘ completeRow g request) ≤
        rows.countP fun a => decide (a.state = .consumed) :=
      List.countP_mono_left fun a _ => hle a
    rcases List.mem_cons.1 hg with rfl | hg
    · have hdone : (completeRow g request g).state ≠ .consumed := by simp [completeRow, hconsumed]
      simp only [List.countP_cons, Function.comp_apply, hdone, decide_false, hconsumed, decide_true,
        if_true, Bool.false_eq_true, if_false]
      omega
    · have := ih hg
      have hhead : (if (decide ((completeRow g request a).state = .consumed)) = true then 1 else 0) ≤
          if decide (a.state = .consumed) = true then 1 else 0 := by
        by_cases h : decide ((completeRow g request a).state = .consumed) = true
        · rw [if_pos h, if_pos (hle a h)]
        · rw [if_neg h]
          exact Nat.zero_le _
      simp only [List.countP_cons, Function.comp_apply] at hhead ⊢
      omega

/-- Every action in flight can be given its receipt. -/
theorem settle_inflight {s : LiveState} (hinv : LiveInv s.db) {session : LiveSession}
    (hs : s.db.session = some session) :
    ∃ s' session', LiveCalls s s' ∧ s'.clock = s.clock ∧ s'.db.session = some session' ∧
      session'.state = session.state ∧ s'.db.attempt = s.db.attempt ∧
      s'.db.hasInflightAction = false := by
  induction hn : s.db.grants.countP (fun g => g.state = .consumed) using Nat.strong_induction_on
    generalizing s session with
  | _ n ih =>
    cases hflight : s.db.hasInflightAction with
    | false => exact ⟨s, session, .refl s, rfl, hs, rfl, rfl, hflight⟩
    | true =>
      simp only [LiveDb.hasInflightAction, List.any_eq_true, decide_eq_true_eq] at hflight
      obtain ⟨g, hg, hconsumed⟩ := hflight
      obtain ⟨out, db', hcommits, hsession, hattempt, hgrants⟩ :=
        @completeGrant_commits _ _ _ hinv hs hg hconsumed s.clock (receipt session g) rfl rfl le_rfl
      have hcalls : LiveCalls s ⟨db', s.clock⟩ :=
        call_of_commits (c := .complete g.grantId (receipt session g)) (commits_discard.2 ⟨out, hcommits⟩)
      have hfewer : db'.grants.countP (fun g => g.state = .consumed) < n := by
        rw [hgrants, ← hn]
        exact inflight_decreases hg hconsumed _
      obtain ⟨s', session', hrest, hclock, hs', hstate, hattempt', hsafe⟩ :=
        ih _ hfewer (s := ⟨db', s.clock⟩) (liveInv_run hcalls.run hinv) hsession rfl
      exact ⟨s', session', hcalls.trans hrest, hclock, hs', hstate, hattempt'.trans hattempt, hsafe⟩

theorem guard_released {l : ControlLease} (h : l.isCurrent = true) :
    guardControlLeaseUpdate l { l with state := .released } = none := by
  simp only [ControlLease.isCurrent, Bool.or_eq_true, decide_eq_true_eq] at h
  rcases h with h | h <;> simp [guardControlLeaseUpdate, h]

theorem guard_applied {c : LiveControlCommand} {epoch fence : Option ℕ} {digest : Option Digest}
    (h : c.status = .pending) : guardLiveControlCommandUpdate c { c with
      status := .applied, resultingControlEpoch := epoch, resultingFencingToken := fence
      checkpointDigest := digest } = none := by
  simp only [guardLiveControlCommandUpdate, firstViolation_cons, firstViolation_nil, and_true,
    decide_eq_false_iff_not, not_or, not_not]
  exact ⟨trivial, h, by simp⟩

theorem guard_acknowledged {session : LiveSession} {commandType : LiveControlCommandType}
    (h : session.state = (requestedState commandType).1) (human : Bool) :
    guardLiveSessionUpdate session { session with
      state := ackState commandType, controlEpoch := session.controlEpoch + 1
      fencingToken := session.fencingToken + 1
      humanInfluenced := session.humanInfluenced || human, revision := session.revision + 1 } = none := by
  cases commandType <;>
    simp [guardLiveSessionUpdate, h, requestedState, ackState, liveSessionMoves] <;>
    cases session.humanInfluenced <;> simp

theorem applyTransition_commits {db : LiveDb} {session : LiveSession} {command : LiveControlCommand}
    (hs : db.session = some session) (hc : command ∈ db.commands) (hpending : command.status = .pending)
    (hstate : session.state = (requestedState command.commandType).1) (human : Bool) (d : Digest) :
    ∃ updated db', Commits (applyTransition session command (ackState command.commandType)
      session.browserRevision (session.humanInfluenced || human) d) db updated db' := by
  have hleases : liveLeaseTable.Admits ControlLease.isCurrent (fun l => { l with state := .released }) db := by
    intro l _ hl
    simp only [liveLeaseTable, guard_released hl, Option.map_none]
  have hrelease := (liveLeaseTable.commits_guarded _ _).2 ⟨hleases, rfl, rfl⟩
  have hupdate : Commits (updateLiveSession (fun s => s.id = session.id &&
        s.revision = session.revision && s.controlEpoch = session.controlEpoch &&
        s.fencingToken = session.fencingToken)
      (fun s => { s with
        state := ackState command.commandType, controlEpoch := session.controlEpoch + 1
        fencingToken := session.fencingToken + 1, browserRevision := session.browserRevision
        humanInfluenced := session.humanInfluenced || human, revision := s.revision + 1 })
      "LiveSession safe-point transition lost its fence")
      (liveLeaseTable.rewrite ControlLease.isCurrent (fun l => { l with state := .released }) db) _ _ :=
    (commits_updateLiveSession (by exact hs) (by simp)).2 ⟨guard_acknowledged hstate human, rfl, rfl⟩
  simp only [applyTransition, commits_bind, commits_discard, GuardedTable.commits_guarded,
    commits_raiseIf, commits_pure]
  refine ⟨_, _, (), _, ⟨_, hleases, rfl, rfl⟩, _, _, hupdate, _, _, ⟨?_, rfl, rfl⟩, (), _, ⟨?_, rfl⟩, rfl, rfl⟩
  · intro c _ hsel
    simp only [Bool.and_eq_true, decide_eq_true_eq] at hsel
    simp only [liveCommandTable, guard_applied hsel.2, Option.map_none]
  · intro hempty
    rw [List.map_eq_nil_iff, List.filter_eq_nil_iff] at hempty
    exact hempty command hc (by simp [hpending])

/-- The acknowledgement of a Worker that reports the page as it stands. -/
def safePoint (session : LiveSession) (command : LiveControlCommand) : AcknowledgeLiveControl :=
  ⟨command.id, session.controlEpoch, session.fencingToken, session.browserRevision, 0, "worker"⟩

theorem ackTarget_commits (db : LiveDb) {command : LiveControlCommand}
    (request : AcknowledgeLiveControl) (haudited : command.requestedBy ≠ none) : ∃ owner,
      Commits (ackTarget command request) db (ackState command.commandType, owner) db ∧
      (owner = none ↔ command.commandType = .pause) ∧
      ∀ o, owner = some o → 0 < o.2.2 ∧ (o.1 = .agent → o.2.1 = request.agentOwnerId) := by
  obtain ⟨by', hby⟩ := Option.ne_none_iff_exists'.1 haudited
  unfold ackTarget
  cases hc : command.commandType with
  | pause => exact ⟨none, commits_pure.2 ⟨rfl, rfl⟩, by simp, by simp⟩
  | resume => exact ⟨_, commits_pure.2 ⟨rfl, rfl⟩, by simp, by simp [agentLeaseTtl, seconds]⟩
  | takeover =>
    simp only [commits_bind, commits_demand, commits_pure, hby]
    refine ⟨_, ⟨by', db, ⟨rfl, rfl⟩, rfl, rfl⟩, by simp, fun o ho => ?_⟩
    obtain rfl := Option.some.inj ho
    refine ⟨?_, by simp⟩
    cases command.requestedTtlSec with
    | none => simp [seconds, defaultHumanLeaseTtlSec]
    | some ttl => cases ttl <;> simp [seconds, defaultHumanLeaseTtlSec]
  | «return» => exact ⟨_, commits_pure.2 ⟨rfl, rfl⟩, by simp, by simp [agentLeaseTtl, seconds]⟩

/-- With no action in flight and time left, the open command can be applied. -/
theorem acknowledge_commits {s : LiveState} (hinv : LiveInv s.db) {session : LiveSession}
    (hs : s.db.session = some session) {command : LiveControlCommand} (hc : command ∈ s.db.commands)
    (hpending : command.status = .pending) (hsafe : s.db.hasInflightAction = false)
    {a : UnitAttempt} (ha : s.db.attempt = some a) (hdeadline : s.clock < a.executionDeadline) :
    ∃ s', LiveCalls s s' ∧ s'.clock = s.clock ∧ s'.db.attempt = s.db.attempt ∧
      (HasController s' ∨ session.state = .quiescing ∧
        ∃ session', s'.db.session = some session' ∧ session'.state = .paused) := by
  obtain ⟨hstate, hepoch, haudited, -⟩ := hinv.pending session hs command hc hpending
  have hfind : s.db.getCommand command.id = some command := Table.find?_of_mem hinv.commandKeys hc
  obtain ⟨a', t, ha', ht, hscope⟩ := hinv.ticketed (by rw [hs]; simp)
  obtain rfl := Option.some.inj (ha.symm.trans ha')
  obtain ⟨owner, htarget, hnone, howner⟩ := ackTarget_commits s.db (safePoint session command) haudited
  obtain ⟨updated, db₁, happly⟩ := applyTransition_commits hs hc hpending hstate
    (decide (command.commandType = .takeover)) (safePoint session command).checkpointDigest
  obtain ⟨hupdated, hdb₁⟩ := eq_of_applyTransition hs happly
  have hreleased : ∀ l ∈ db₁.leases, l.isCurrent = false ∧ l.controlEpoch ≠ updated.controlEpoch ∧
      l.fencingToken ≠ updated.fencingToken := by
    intro l hl
    rw [hdb₁] at hl
    obtain ⟨l, hmem, rfl⟩ := List.mem_map.1 hl
    obtain ⟨h₁, h₂⟩ := (hinv.fence session hs l hmem).1
    rw [leaseRewrite_release.controlEpoch, leaseRewrite_release.fencingToken, hupdated]
    exact ⟨releaseLeaseRow_not_current l, (Nat.lt_succ_of_le h₁).ne, (Nat.lt_succ_of_le h₂).ne⟩
  have hfenced : ¬ (owner.any fun o => o.1 = .agent ∧ o.2.1 ≠ "worker") = true := by
    cases owner with
    | none => simp
    | some o =>
      simp only [Option.any_some, decide_eq_true_eq, not_and, not_not]
      exact (howner o rfl).2
  have hload : Commits loadAttemptAndTicket s.db (a, t) s.db :=
    commits_loadAttemptAndTicket.2 ⟨ha, ht, hscope, rfl⟩
  let applied : LiveOp UnitAttemptLiveSnapshot := do
    appendLiveEvent updated s!"live_control.{command.commandType.value.toLower}.applied" s.clock
    liveSnapshot updated
  have hrest : ∃ out db', Commits (owner.elim applied fun o => do
      let expiresAt := min (s.clock + o.2.2) a.executionDeadline
      raiseIf (expiresAt ≤ s.clock) (liveConflict "UnitAttempt 已无可签发 ControlLease 的剩余时间。")
      let lease ← newControlLease updated o.1 o.2.1 expiresAt s.clock
      createControlLease lease
      applied) db₁ out db' ∧ db'.attempt = db₁.attempt ∧ db'.session = db₁.session ∧
      (owner = none ∨ ∃ l ∈ db'.leases, l.state = .active ∧ s.clock < l.expiresAt) := by
    cases owner with
    | none =>
      simp only [applied, Option.elim_none, commits_bind, commits_appendLiveEvent]
      refine ⟨_, _, ⟨(), _, rfl, commits_liveSnapshot fun l hl hcur => ?_⟩, rfl, rfl, Or.inl trivial⟩
      rw [(hreleased l hl).1] at hcur
      simp at hcur
    | some o =>
      obtain ⟨ownerType, ownerId, ttl⟩ := o
      have hlt : s.clock < min (s.clock + ttl) a.executionDeadline :=
        lt_min (Nat.lt_add_of_pos_right (howner _ rfl).1) hdeadline
      let lease : ControlLease :=
        { id := db₁.nextId, ownerType := ownerType, ownerId := ownerId
          controlEpoch := updated.controlEpoch, fencingToken := updated.fencingToken, state := .active
          expiresAt := min (s.clock + ttl) a.executionDeadline }
      have hcreate : Commits (createControlLease lease) { db₁ with nextId := db₁.nextId + 1 } () _ :=
        commits_createControlLease.2
          ⟨fun l hl => ⟨(hreleased l hl).2.1, (hreleased l hl).2.2, (hreleased l hl).1⟩, rfl⟩
      simp only [applied, Option.elim_some, commits_bind, commits_raiseIf, commits_newControlLease,
        commits_appendLiveEvent]
      refine ⟨_, _, ⟨(), _, ⟨Nat.not_le.2 hlt, rfl⟩, lease, _, ⟨hlt, rfl, rfl⟩, (), _, hcreate, (), _, rfl,
        commits_liveSnapshot fun l hl hcur => ?_⟩, rfl, rfl, Or.inr ⟨lease, by simp, rfl, hlt⟩⟩
      rcases List.mem_append.1 hl with hl | hl
      · rw [(hreleased l hl).1] at hcur
        simp at hcur
      · obtain rfl := List.mem_singleton.1 hl
        exact ⟨rfl, rfl⟩
  obtain ⟨out, db', hrest, hattempt, hsession, hlease⟩ := hrest
  have hcall : Commits (acknowledgeLive (safePoint session command) "worker" s.clock) s.db out db' := by
    unfold acknowledgeLive
    simp only [commits_bind, commits_read, commits_demand, commits_ite, commits_raiseIf]
    refine ⟨session, s.db, commits_requireRuntimeSession hs, _, _, ⟨rfl, rfl⟩, command, _, ⟨hfind, rfl⟩,
      Or.inr ⟨by simp [hpending], (), _, ⟨not_not.2 hpending, rfl⟩, (), _, ⟨?_, rfl⟩, (), _, ⟨?_, rfl⟩, _, _,
        ⟨rfl, rfl⟩, (), _, ⟨by simp [hsafe], rfl⟩, (a, t), _, hload, _, _, htarget, (), _, ⟨hfenced, rfl⟩,
        updated, db₁, happly, ?_⟩⟩
    · simp [safePoint, hepoch]
    · simp [safePoint]
    · cases owner with
      | none => exact hrest
      | some o => exact hrest
  refine ⟨⟨db', s.clock⟩, call_of_commits (c := .acknowledge (safePoint session command) "worker")
    (commits_discard.2 ⟨out, hcall⟩), rfl, ?_, ?_⟩
  · rw [hattempt, hdb₁]
  · rcases hlease with rfl | hlease
    · have hpause := hnone.1 rfl
      refine Or.inr ⟨by rw [hstate, hpause]; rfl, updated, by rw [hsession, hdb₁], ?_⟩
      rw [hupdated, hpause]
      rfl
    · exact Or.inl hlease

/-- A key that no command was stored under. -/
theorem exists_fresh_key (commands : List LiveControlCommand) :
    ∃ key : String, ∀ c ∈ commands, c.clientMutationId ≠ key := by
  have : Infinite String := Infinite.of_injective String.ofList fun _ _ => String.ofList_injective
  obtain ⟨key, hkey⟩ :=
    Infinite.exists_notMem_finset (commands.map LiveControlCommand.clientMutationId).toFinset
  refine ⟨key, fun c hc heq => hkey ?_⟩
  rw [List.mem_toFinset, ← heq]
  exact List.mem_map_of_mem hc

/-- The operator who may do everything. -/
def liveOperator : ActorContext := ⟨0, some 0, [], true⟩

theorem resume_commits {s : LiveState} (hinv : LiveInv s.db) {session : LiveSession}
    (hs : s.db.session = some session) (hpaused : session.state = .paused) :
    ∃ s' session', LiveCalls s s' ∧ s'.clock = s.clock ∧ s'.db.session = some session' ∧
      session'.state = .resumeRequested ∧ s'.db.attempt = s.db.attempt := by
  obtain ⟨key, hkey⟩ := exists_fresh_key s.db.commands
  have hmutation : s.db.getCommandByMutation key = none := by
    simpa [LiveDb.getCommandByMutation, List.find?_eq_none] using hkey
  have hnone : ∀ c ∈ s.db.commands, c.status ≠ .pending := by
    intro c hc hpending
    have hstate := (hinv.pending session hs c hc hpending).1
    rw [hpaused] at hstate
    cases hct : c.commandType <;> simp [hct, requestedState] at hstate
  have hpending : s.db.getPendingCommand = none := getPendingCommand_eq_none.2 hnone
  let updated : LiveSession := { session with state := .resumeRequested, revision := session.revision + 1 }
  have hguard : guardLiveSessionUpdate session updated = none := by
    simp [guardLiveSessionUpdate, updated, hpaused, liveSessionMoves]
  have hupdate : Commits (updateLiveSession
      (fun s => s.id = session.id && s.revision = session.revision && s.controlEpoch = session.controlEpoch)
      (fun s => { s with state := .resumeRequested, revision := s.revision + 1 })
      "LiveSession control request lost its revision") s.db _ _ :=
    (commits_updateLiveSession hs (by simp)).2 ⟨hguard, rfl, rfl⟩
  have hoperable : Commits (requireOperable liveOperator) s.db session s.db := by
    simp only [requireOperable, commits_bind, commits_read, commits_demand, commits_raiseIf, commits_pure]
    exact ⟨_, _, ⟨rfl, rfl⟩, session, _, ⟨hs, rfl⟩, (), _, ⟨by simp [ActorContext.canReadProject,
      ActorContext.isOrganizationAdmin, liveOperator], rfl⟩, (), _, ⟨by simp [ActorContext.canOperateProject,
      ActorContext.hasRole, ActorContext.isOrganizationAdmin, liveOperator], rfl⟩, (), _,
      ⟨by simp [liveOperator], rfl⟩, rfl, rfl⟩
  have hvalid : ∀ lease, Commits (validateTransition session lease .resume s.clock) s.db () s.db := by
    intro lease
    simp only [validateTransition, commits_bind, commits_raiseIf, commits_ite, commits_pure]
    exact ⟨(), _, ⟨by simp [hpaused, expectedState], rfl⟩, (), _, ⟨by simp, rfl⟩, (), _, ⟨by simp, rfl⟩, (), _,
      ⟨by simp, rfl⟩, Or.inr ⟨by simp, trivial, rfl⟩⟩
  have hrequest : Commits (requestTransition session .resumeRequested false) s.db updated
      { s.db with session := some updated } := by
    simp only [requestTransition, commits_ite, commits_bind]
    exact Or.inr ⟨by simp, hupdate⟩
  have hcommand : ∀ command : LiveControlCommand, command.clientMutationId = key →
      Commits (createLiveCommand command)
        { s.db with session := some updated, nextId := s.db.nextId + 1 } ()
        { s.db with session := some updated, nextId := s.db.nextId + 1
                    commands := s.db.commands ++ [command] } := by
    intro command hkey'
    exact commits_createLiveCommand.2 ⟨fun c hc => ⟨hkey' ▸ hkey c hc, hnone c hc⟩, rfl⟩
  have hcall : ∃ out db', Commits (resumeLive liveOperator ⟨"resume", none⟩ session.controlEpoch key s.clock)
      s.db out db' ∧ db'.session = some updated ∧ db'.attempt = s.db.attempt := by
    unfold resumeLive requestLive
    simp only [commits_bind, commits_read, commits_raiseIf]
    apply Exists.intro
    apply Exists.intro
    refine ⟨⟨(), _, ⟨by simp, rfl⟩, session, _, hoperable, none, _, ⟨hmutation.symm, rfl⟩, ?_⟩, ?_, ?_⟩
    · simp only [commits_bind, commits_read, commits_raiseIf, commits_newLiveId, commits_pure,
        commits_appendLiveEvent]
      exact ⟨(), _, ⟨by simp, rfl⟩, _, _, ⟨rfl, rfl⟩, (), _, ⟨by simp [hpending], rfl⟩, _, _, ⟨rfl, rfl⟩,
        (), _, hvalid _, updated, _, hrequest, _, _, ⟨rfl, rfl⟩, (), _, hcommand _ rfl, (), _, rfl, rfl, rfl⟩
    · rfl
    · rfl
  obtain ⟨out, db', hcommits, hsession, hattempt⟩ := hcall
  exact ⟨⟨db', s.clock⟩, updated, call_of_commits
    (c := .resume liveOperator ⟨"resume", none⟩ session.controlEpoch key)
    (commits_discard.2 ⟨out, hcommits⟩), rfl, hsession, rfl, hattempt⟩

/-- An open command is settled: actions in flight first, then its acknowledgement. -/
theorem settle_command {s : LiveState} (hinv : LiveInv s.db) {session : LiveSession}
    (hs : s.db.session = some session)
    (hwaiting : session.state = .quiescing ∨ session.state = .resumeRequested ∨
      session.state = .reconciling)
    {a : UnitAttempt} (ha : s.db.attempt = some a) (hdeadline : s.clock < a.executionDeadline) :
    ∃ s', LiveCalls s s' ∧ s'.clock = s.clock ∧ s'.db.attempt = some a ∧
      (HasController s' ∨ session.state = .quiescing ∧
        ∃ session', s'.db.session = some session' ∧ session'.state = .paused) := by
  obtain ⟨m, session₁, hcalls₁, hclock₁, hs₁, hstate₁, hattempt₁, hsafe⟩ := settle_inflight hinv hs
  have hinv₁ := liveInv_run hcalls₁.run hinv
  obtain ⟨command, hc, hpending⟩ := hinv₁.waiting session₁ hs₁ (by rwa [hstate₁])
  obtain ⟨s', hcalls, hclock, hattempt, hend⟩ := acknowledge_commits hinv₁ hs₁ hc hpending hsafe
    (hattempt₁.trans ha) (by rwa [hclock₁])
  exact ⟨s', hcalls₁.trans hcalls, hclock.trans hclock₁, (hattempt.trans hattempt₁).trans ha,
    hstate₁ ▸ hend⟩

theorem recoverable_of_paused {s : LiveState} (hinv : LiveInv s.db) {session : LiveSession}
    (hs : s.db.session = some session) (hpaused : session.state = .paused)
    {a : UnitAttempt} (ha : s.db.attempt = some a) (hdeadline : s.clock < a.executionDeadline) :
    Recoverable s := by
  obtain ⟨m, session₁, hcalls₁, hclock₁, hs₁, hstate₁, hattempt₁⟩ := resume_commits hinv hs hpaused
  obtain ⟨s', hcalls, -, -, hend⟩ := settle_command (liveInv_run hcalls₁.run hinv) hs₁
    (Or.inr (Or.inl hstate₁)) (hattempt₁.trans ha) (by rwa [hclock₁])
  rcases hend with hend | ⟨hquiescing, -⟩
  · exact ⟨s', hcalls₁.trans hcalls, hend⟩
  · rw [hstate₁] at hquiescing
    simp at hquiescing

theorem recoverable_of_waiting {s : LiveState} (hinv : LiveInv s.db) {session : LiveSession}
    (hs : s.db.session = some session)
    (hwaiting : session.state = .quiescing ∨ session.state = .resumeRequested ∨
      session.state = .reconciling)
    {a : UnitAttempt} (ha : s.db.attempt = some a) (hdeadline : s.clock < a.executionDeadline) :
    Recoverable s := by
  obtain ⟨m, hcalls, hclock, hattempt, hend⟩ := settle_command hinv hs hwaiting ha hdeadline
  rcases hend with hend | ⟨-, session', hs', hpaused⟩
  · exact ⟨m, hcalls, hend⟩
  · obtain ⟨s', hcalls', hend⟩ := recoverable_of_paused (liveInv_run hcalls.run hinv) hs' hpaused
      hattempt (by rwa [hclock])
    exact ⟨s', hcalls.trans hcalls', hend⟩

/-- With time left, a session can be brought back under control exactly when it has not lost
its controller to an expiry: it is not in NO_CONTROLLER, and a controller that acts has a
lease that has not run out. -/
theorem recoverable_iff {s : LiveState} (hreach : LiveReachable s) {session : LiveSession}
    (hs : s.db.session = some session) {a : UnitAttempt} (ha : s.db.attempt = some a)
    (_hrunning : a.lifecycle = .running) (hdeadline : s.clock < a.executionDeadline) :
    Recoverable s ↔ session.state ≠ .noController ∧
      ((session.state = .agentControlled ∨ session.state = .humanControlled) →
        ∃ l ∈ s.db.leases, l.state = .active ∧ s.clock < l.expiresAt) := by
  have hinv := liveInv_of_reachable hreach
  constructor
  · rintro ⟨s', hcalls, hcontroller⟩
    by_contra hcond
    have hlost : Lost s := by
      by_cases hgone : session.state = .noController
      · refine ⟨⟨session, hs, Or.inl hgone⟩, fun l hl hactive => ?_⟩
        have hnone := hinv.uncontrolled session hs (Or.inr (Or.inr hgone)) l hl
        rw [current_of_active hactive] at hnone
        simp at hnone
      · simp only [hgone, ne_eq, not_false_eq_true, true_and, Classical.not_imp, not_exists, not_and,
          not_lt] at hcond
        exact ⟨⟨session, hs, Or.inr hcond.1⟩, hcond.2⟩
    exact (hlost.calls hinv hcalls).not_hasController hcontroller
  · rintro ⟨hgone, hlease⟩
    cases hstate : session.state with
    | agentControlled => exact ⟨s, .refl s, hlease (Or.inl hstate)⟩
    | humanControlled => exact ⟨s, .refl s, hlease (Or.inr hstate)⟩
    | quiescing => exact recoverable_of_waiting hinv hs (Or.inl hstate) ha hdeadline
    | resumeRequested => exact recoverable_of_waiting hinv hs (Or.inr (Or.inl hstate)) ha hdeadline
    | reconciling => exact recoverable_of_waiting hinv hs (Or.inr (Or.inr hstate)) ha hdeadline
    | paused => exact recoverable_of_paused hinv hs hstate ha hdeadline
    | noController => exact absurd hstate hgone
    | closed => exact absurd hstate (hinv.opened session hs)

/-- The Worker of the example beats once after its lease has run out. -/
def exampleLapsed : LiveState :=
  exampleSession.call (.heartbeat ⟨1, 1, 120⟩ "worker-1") (seconds 200)

theorem exampleLapsed_reachable : LiveReachable exampleLapsed :=
  reachable_call exampleSession_reachable _ (by decide)

theorem lapsed_session_not_recoverable : LiveReachable exampleLapsed ∧
    exampleLapsed.db.attempt.map (fun a => decide (a.lifecycle = .running ∧
      exampleLapsed.clock < a.executionDeadline)) = some true ∧ ¬ Recoverable exampleLapsed := by
  refine ⟨exampleLapsed_reachable, by decide, fun hrecoverable => ?_⟩
  obtain ⟨s', hcalls, hcontroller⟩ := hrecoverable
  have hlost : Lost exampleLapsed :=
    ⟨⟨_, rfl, Or.inl rfl⟩, by decide⟩
  exact (hlost.calls (liveInv_of_reachable exampleLapsed_reachable) hcalls).not_hasController hcontroller

theorem fresh_session_recoverable : Recoverable exampleSession :=
  (recoverable_iff exampleSession_reachable rfl rfl rfl (by decide)).2 (by decide)

end Atlas.Proofs
