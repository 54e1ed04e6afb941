import AtlasTestOps.Proofs.LiveInvariant

/-! Fencing of live control over all runs: one controller under one fence, grants that are
used at most once and only under it, and no grant that outlives the controller it was issued to. -/

namespace Atlas.Proofs

open Atlas Atlas.Identity Atlas.Task Atlas.Runtime Atlas.Store Atlas.Service Txn

/-- The controller of the session is the owner of its current lease. -/
def controller (db : LiveDb) : Option Uuid := db.getCurrentLease.map ControlLease.id

/-- The grant is consumed under a live lease of its own and of the session's fence. -/
structure Licensed (now : Instant) (db : LiveDb) (g : LiveActionGrant) : Prop where
  unexpired : now < g.expiresAt
  session : ∃ s, db.session = some s ∧ Controlled s ∧ s.controlEpoch = g.controlEpoch ∧
    s.fencingToken = g.fencingToken
  lease : ∃ l ∈ db.leases, l.id = g.controlLeaseId ∧ l.state = .active ∧ now < l.expiresAt

structure GrantMove (now : Instant) (db : LiveDb) (a b : LiveActionGrant) : Prop where
  binding : { b with
    state := a.state, receiptId := a.receiptId, executionStatus := a.executionStatus
    resultingPageRevision := a.resultingPageRevision } = a
  state : b.state = a.state ∨ (a.state = .issued ∧ b.state = .revoked) ∨
    (a.state = .issued ∧ b.state = .consumed ∧ Licensed now db a) ∨
    (a.state = .consumed ∧ b.state = .completed)

/-- What one call may do to the controller, the leases and the grants. -/
structure StepFenced (now : Instant) (db db' : LiveDb) : Prop where
  epoch : ∀ s, db.session = some s → ∃ s', db'.session = some s' ∧
    ((controller db' = controller db ∧ s'.controlEpoch = s.controlEpoch ∧
        s'.fencingToken = s.fencingToken) ∨
      (controller db' ≠ controller db ∧ s.controlEpoch < s'.controlEpoch ∧
        s.fencingToken < s'.fencingToken))
  influence : ∀ s, db.session = some s → s.humanInfluenced = true →
    ∃ s', db'.session = some s' ∧ s'.humanInfluenced = true
  grants : ∃ f new, db'.grants = db.grants.map f ++ new ∧ (∀ g ∈ db.grants, GrantMove now db g (f g)) ∧
    ∀ g ∈ new, g.state = .issued ∧ db.nextId ≤ g.grantId
  leases : (∃ l ∈ db'.leases, ∀ k ∈ db.leases, k.id ≠ l.id) → ∀ g ∈ db.grants, g.state ≠ .consumed

/-- No call can consume the grant any more. -/
def Spent (grantId : Uuid) (s : LiveState) : Prop :=
  ∀ later, LiveRun s later → ∀ request now out db',
    ¬ Commits (consumeGrant grantId request now) later.db out db'

structure ControlFenced (s : LiveState) : Prop where
  oneLease : Rows.AtMostOne ControlLease.isCurrent s.db.leases
  fence : ∀ session, s.db.session = some session → ∀ l ∈ s.db.leases, l.isCurrent = true →
    l.controlEpoch = session.controlEpoch ∧ l.fencingToken = session.fencingToken
  onePending : Rows.AtMostOne LiveControlCommand.isPending s.db.commands
  once : ∀ g ∈ s.db.grants, g.state ≠ .issued → Spent g.grantId s

/-- A pause, takeover or return was accepted, or the lease of the controller ran out. -/
inductive TakesControl (now : Instant) (db db' : LiveDb) : Prop
  | pause (actor : ActorContext) (request : RequestLiveControl) (epoch : ℕ) (key : String)
      (command : LiveControlCommand)
      (h : Commits (pauseLive actor request epoch key now) db (command, false) db')
  | takeover (actor : ActorContext) (request : RequestLiveControl) (epoch : ℕ) (key : String)
      (command : LiveControlCommand)
      (h : Commits (takeoverLive actor request epoch key now) db (command, false) db')
  | returnControl (actor : ActorContext) (request : RequestLiveControl) (epoch : ℕ) (key : String)
      (command : LiveControlCommand)
      (h : Commits (returnControlLive actor request epoch key now) db (command, false) db')
  | expiry (c : LiveCall) (h : db' = after (c.run now) db)
      (left : ∃ s, db'.session = some s ∧ s.state = .noController)

/-! ### Grants -/

theorem GrantMove.refl (now : Instant) (db : LiveDb) (g : LiveActionGrant) : GrantMove now db g g :=
  ⟨rfl, Or.inl rfl⟩

theorem GrantMove.grantId {now : Instant} {db : LiveDb} {a b : LiveActionGrant}
    (h : GrantMove now db a b) : b.grantId = a.grantId := by
  have := congrArg LiveActionGrant.grantId h.binding
  simpa using this

theorem GrantMove.not_issued {now : Instant} {db : LiveDb} {a b : LiveActionGrant}
    (h : GrantMove now db a b) (ha : a.state ≠ .issued) : b.state ≠ .issued := by
  rcases h.state with hs | ⟨hs, -⟩ | ⟨hs, -⟩ | ⟨-, hs⟩
  · rwa [hs]
  · exact absurd hs ha
  · exact absurd hs ha
  · rw [hs]
    simp

theorem grantMove_revoke (now : Instant) (db : LiveDb) (g : LiveActionGrant) :
    GrantMove now db g (revokeGrant g) := by
  unfold revokeGrant
  split
  · next h => exact ⟨rfl, Or.inr (Or.inl ⟨h, rfl⟩)⟩
  · exact .refl _ _ _

theorem licensed_of_consumable {now : Instant} {db : LiveDb} {g : LiveActionGrant}
    (h : db.consumable g now = true) : g.state = .issued ∧ Licensed now db g := by
  simp only [LiveDb.consumable, Bool.and_eq_true, decide_eq_true_eq, Option.any_eq_true,
    List.any_eq_true, Bool.or_eq_true] at h
  obtain ⟨⟨⟨hissued, hexp⟩, s, hs, ⟨hstate, hepoch⟩, hfence⟩, l, hl, ⟨⟨⟨hid, hact⟩, hlexp⟩, -⟩, -⟩ := h
  exact ⟨hissued, hexp, ⟨s, hs, hstate, hepoch, hfence⟩, ⟨l, hl, hid, hact, hlexp⟩⟩

theorem grantMove_consume {now : Instant} {db : LiveDb} (grantId : Uuid) (g : LiveActionGrant) :
    GrantMove now db g (consumeRow db grantId now g) := by
  unfold consumeRow
  split
  · next h =>
    obtain ⟨hissued, hlicensed⟩ := licensed_of_consumable h.2
    exact ⟨rfl, Or.inr (Or.inr (Or.inl ⟨hissued, rfl, hlicensed⟩))⟩
  · exact .refl _ _ _

theorem grantMove_complete (now : Instant) (db : LiveDb) (grant : LiveActionGrant)
    (request : CompleteLiveActionGrant) (g : LiveActionGrant) :
    GrantMove now db g (completeRow grant request g) := by
  unfold completeRow
  split
  · next h => exact ⟨rfl, Or.inr (Or.inr (Or.inr ⟨h.2.1, rfl⟩))⟩
  · exact .refl _ _ _

theorem grants_of_move {c : LiveCall} {now : Instant} {db db' : LiveDb} (hm : LiveMove c now db db') :
    ∃ f new, db'.grants = db.grants.map f ++ new ∧ (∀ g ∈ db.grants, GrantMove now db g (f g)) ∧
      ∀ g ∈ new, g.state = .issued ∧ db.nextId ≤ g.grantId := by
  have same : db'.grants = db.grants → ∃ f new, db'.grants = db.grants.map f ++ new ∧
      (∀ g ∈ db.grants, GrantMove now db g (f g)) ∧
      ∀ g ∈ new, g.state = .issued ∧ db.nextId ≤ g.grantId := fun h =>
    ⟨id, [], by rw [h, List.map_id, List.append_nil], fun g _ => .refl now db g, by simp⟩
  have mapped : ∀ f : LiveActionGrant → LiveActionGrant, db'.grants = db.grants.map f →
      (∀ g, GrantMove now db g (f g)) → ∃ f new, db'.grants = db.grants.map f ++ new ∧
      (∀ g ∈ db.grants, GrantMove now db g (f g)) ∧
      ∀ g ∈ new, g.state = .issued ∧ db.nextId ≤ g.grantId := fun f h hf =>
    ⟨f, [], by rw [h, List.append_nil], fun g _ => hf g, by simp⟩
  cases hm with
  | untouched hm => exact same hm.grants_eq
  | initialized hm => exact same hm.grants_eq
  | renewed hm => exact same hm.grants_eq
  | expired hm => exact mapped _ hm.grants_eq (grantMove_revoke now db)
  | requested hm =>
    have hg := hm.grants_eq
    split at hg
    · exact same hg
    · exact mapped _ hg (grantMove_revoke now db)
  | acknowledged hm => exact same hm.grants_eq
  | @issued s l grant hm _ _ _ _ =>
    refine ⟨id, [grant], by rw [hm.grants_eq, List.map_id], fun g _ => .refl now db g, ?_⟩
    intro g hg
    obtain rfl := List.mem_singleton.1 hg
    exact ⟨hm.issued, hm.fresh⟩
  | consumed hm => exact mapped _ hm.grants_eq (grantMove_consume _)
  | completed hm => exact mapped _ hm.grants_eq (grantMove_complete now db _ _)

/-- The grant left ISSUED, or its id was never drawn for a grant. -/
structure Retired (grantId : Uuid) (db : LiveDb) : Prop where
  drawn : grantId < db.nextId
  notIssued : ∀ g ∈ db.grants, g.grantId = grantId → g.state ≠ .issued

theorem LiveMove.frame {c : LiveCall} {now : Instant} {db db' : LiveDb} (hm : LiveMove c now db db') :
    LiveFrame db db' := by
  cases hm with
  | untouched hm => exact hm.frame
  | initialized hm => exact hm.frame
  | renewed hm => exact hm.frame
  | expired hm => exact hm.frame
  | requested hm => exact hm.frame
  | acknowledged hm => exact hm.frame
  | issued hm _ _ => exact hm.frame
  | consumed hm => exact hm.frame
  | completed hm => exact hm.frame

theorem Retired.move {grantId : Uuid} {c : LiveCall} {now : Instant} {db db' : LiveDb} (h : Retired grantId db)
    (hm : LiveMove c now db db') : Retired grantId db' := by
  refine ⟨h.drawn.trans_le hm.frame.nextId, fun g hg hid => ?_⟩
  obtain ⟨f, new, hgrants, hmoves, hnew⟩ := grants_of_move hm
  rw [hgrants] at hg
  rcases List.mem_append.1 hg with hg | hg
  · obtain ⟨g, hmem, rfl⟩ := List.mem_map.1 hg
    have hmove := hmoves g hmem
    exact hmove.not_issued (h.notIssued g hmem (hmove.grantId.symm.trans hid))
  · exact absurd hid (h.drawn.trans_le (hnew g hg).2).ne'

theorem Retired.run {grantId : Uuid} {s s' : LiveState} (hrun : LiveRun s s')
    (h : Retired grantId s.db) : Retired grantId s'.db := by
  refine run_keeps (I := fun s : LiveState => Retired grantId s.db) ?_ hrun h
  intro s s' hstep h
  cases hstep with
  | call c now hclock => exact h.move (move_of_after c now s.db)
  | attempt state => exact ⟨h.drawn, h.notIssued⟩

theorem Retired.spent {grantId : Uuid} {s : LiveState} (h : Retired grantId s.db) : Spent grantId s := by
  intro later hrun request now out db' hcommits
  obtain ⟨grant, rfl, hc⟩ := consumed_of_commits hcommits
  obtain ⟨g, hmem, hid, hconsumable⟩ := hc.consumable
  exact (h.run hrun).notIssued g hmem hid (licensed_of_consumable hconsumable).1

/-! ### The controller -/

theorem controller_eq_some {db : LiveDb} {l : ControlLease}
    (hone : Rows.AtMostOne ControlLease.isCurrent db.leases) (hl : l ∈ db.leases)
    (hcur : l.isCurrent = true) : controller db = some l.id := by
  unfold controller LiveDb.getCurrentLease
  rw [Rows.newest_of_unique hl hcur fun a ha hac => hone.unique ha hl hac hcur]
  rfl

theorem controller_eq_none {db : LiveDb} (h : ∀ l ∈ db.leases, l.isCurrent = false) :
    controller db = none := by
  unfold controller LiveDb.getCurrentLease
  rw [List.filter_eq_nil_iff.2 fun l hl => by simp [h l hl]]
  rfl

/-- A rewrite of the leases that leaves the current one current. -/
theorem controller_map {db db' : LiveDb} {f : ControlLease → ControlLease} (hf : LeaseRewrite f)
    (hcur : ∀ l, (f l).isCurrent = l.isCurrent) (h : db'.leases = db.leases.map f) :
    controller db' = controller db := by
  unfold controller LiveDb.getCurrentLease
  have hfilter : (db.leases.map f).filter ControlLease.isCurrent =
      (db.leases.filter ControlLease.isCurrent).map f := by
    rw [List.filter_map]
    congr 1
    exact List.filter_congr fun l _ => hcur l
  rw [h, hfilter, Rows.newest_map hf.controlEpoch, Option.map_map]
  congr 1
  funext l
  exact hf.id l

/-- How the controller and the fence of a session move together. -/
def FenceMove (db db' : LiveDb) (s s' : LiveSession) : Prop :=
  (controller db' = controller db ∧ s'.controlEpoch = s.controlEpoch ∧
    s'.fencingToken = s.fencingToken) ∨
  (controller db' ≠ controller db ∧ s.controlEpoch < s'.controlEpoch ∧
    s.fencingToken < s'.fencingToken)

theorem Steady.fenceMove {db db' : LiveDb} {s : LiveSession} (hm : Steady db db')
    (hs : db.session = some s) : ∃ s', db'.session = some s' ∧
      s'.humanInfluenced = s.humanInfluenced ∧ FenceMove db db' s s' := by
  obtain ⟨f, hf, hstate, hl⟩ := hm.leases
  cases hs' : db'.session with
  | none =>
    rw [hm.absent hs'] at hs
    simp at hs
  | some s' =>
    obtain ⟨s₀, hs₀, -, he, hft, hi⟩ := hm.session s' hs'
    rw [hs] at hs₀
    obtain rfl := Option.some.inj hs₀
    refine ⟨s', rfl, hi, Or.inl ⟨controller_map hf (fun l => ?_) hl, he, hft⟩⟩
    simp only [ControlLease.isCurrent, hstate]

theorem LiveExpired.fenceMove {now : Instant} {db db' : LiveDb} {s : LiveSession} {lease : ControlLease}
    (h : LiveInv db) (hm : LiveExpired now s lease db db') : FenceMove db db' s { s with
      state := .noController, controlEpoch := s.controlEpoch + 1
      fencingToken := s.fencingToken + 1, revision := s.revision + 1 } := by
  refine Or.inr ⟨?_, Nat.lt_succ_self _, Nat.lt_succ_self _⟩
  obtain ⟨hmem, hcur⟩ := mem_getCurrentLease hm.current
  rw [controller_eq_some h.oneLease hmem hcur,
    controller_eq_none ((h.expired hm).uncontrolled _ hm.session_eq (Or.inr (Or.inr rfl)))]
  simp

theorem LiveRequested.fenceMove {now : Instant} {db db' : LiveDb} {s : LiveSession}
    {commandType : LiveControlCommandType} {command : LiveControlCommand}
    (hm : LiveRequested now commandType s command db db') : FenceMove db db' s { s with
      state := (requestedState commandType).1, revision := s.revision + 1 } := by
  refine Or.inl ⟨?_, rfl, rfl⟩
  have hl := hm.leases_eq
  split at hl
  · exact controller_map leaseRewrite_id (fun _ => rfl) (by rw [hl, List.map_id])
  · exact controller_map leaseRewrite_startRevoking startRevoking_current hl

theorem LiveAcknowledged.fenceMove {now : Instant} {db db' : LiveDb} {s : LiveSession}
    {request : AcknowledgeLiveControl} {command : LiveControlCommand} (h : LiveInv db)
    (hm : LiveAcknowledged now request s command db db') :
    controller db' ≠ controller db := by
  have hcommand : command ∈ db.commands := List.mem_of_find?_eq_some hm.found
  obtain ⟨opened, hl, ⟨howner, rfl⟩ | ⟨owner, lease, -, rfl, ho, -⟩⟩ := hm.leases_eq
  · -- only a pause ends with no controller, and it had one to release
    have hresume : command.commandType ≠ .resume := by
      intro hc
      simp [hc, ackOwner] at howner
    obtain ⟨l, hmem, hcur⟩ := (h.pending s hm.held command hcommand hm.pending).2.2.2 hresume
    rw [controller_eq_some h.oneLease hmem hcur, controller_eq_none]
    · simp
    · rw [hl, List.append_nil]
      intro l' hl'
      obtain ⟨l', -, rfl⟩ := List.mem_map.1 hl'
      exact releaseLeaseRow_not_current l'
  · have hmem : lease ∈ db'.leases := by simp [hl]
    rw [controller_eq_some (h.acknowledged hm).oneLease hmem (current_of_active ho.active)]
    intro hsame
    cases hc : db.getCurrentLease with
    | none => simp [controller, hc] at hsame
    | some l =>
      simp only [controller, hc, Option.map_some, Option.some.injEq] at hsame
      exact absurd hsame.symm ((h.leaseIds l (mem_getCurrentLease hc).1).trans_le ho.fresh).ne

theorem fenceMove_of_move {c : LiveCall} {now : Instant} {db db' : LiveDb} {s : LiveSession} (h : LiveInv db)
    (hm : LiveMove c now db db') (hs : db.session = some s) : ∃ s', db'.session = some s' ∧
      (s.humanInfluenced = true → s'.humanInfluenced = true) ∧ FenceMove db db' s s' := by
  have steady : Steady db db' → ∃ s', db'.session = some s' ∧
      (s.humanInfluenced = true → s'.humanInfluenced = true) ∧ FenceMove db db' s s' := fun hm => by
    obtain ⟨s', hs', hi, hmove⟩ := hm.fenceMove hs
    exact ⟨s', hs', fun ht => hi.trans ht, hmove⟩
  cases hm with
  | untouched hm => exact steady hm.steady
  | initialized hm =>
    rw [hm.absent] at hs
    simp at hs
  | renewed hm => exact steady hm.steady
  | @expired session lease hm =>
    obtain rfl := Option.some.inj (hs.symm.trans hm.held)
    exact ⟨_, hm.session_eq, id, hm.fenceMove h⟩
  | @requested commandType session command hm =>
    obtain rfl := Option.some.inj (hs.symm.trans hm.held)
    exact ⟨_, hm.session_eq, id, hm.fenceMove⟩
  | @acknowledged request session command hm =>
    obtain rfl := Option.some.inj (hs.symm.trans hm.held)
    exact ⟨_, hm.session_eq, fun ht => by simp [ht],
      Or.inr ⟨hm.fenceMove h, Nat.lt_succ_self _, Nat.lt_succ_self _⟩⟩
  | issued hm _ _ => exact steady hm.steady
  | consumed hm => exact steady hm.steady
  | completed hm => exact steady hm.steady

/-- A lease is only opened while no action is in flight. -/
theorem noneConsumed_of_opened {c : LiveCall} {now : Instant} {db db' : LiveDb} (h : LiveInv db)
    (hm : LiveMove c now db db') (hnew : ∃ l ∈ db'.leases, ∀ k ∈ db.leases, k.id ≠ l.id) :
    ∀ g ∈ db.grants, g.state ≠ .consumed := by
  obtain ⟨l, hl, hfresh⟩ := hnew
  have mapped : ∀ f, LeaseRewrite f → db'.leases = db.leases.map f → False := fun f hf hmap => by
    rw [hmap] at hl
    obtain ⟨k, hk, rfl⟩ := List.mem_map.1 hl
    exact hfresh k hk (hf.id k).symm
  have steady : Steady db db' → False := fun hm => by
    obtain ⟨f, hf, -, hmap⟩ := hm.leases
    exact mapped f hf hmap
  cases hm with
  | untouched hm => exact (steady hm.steady).elim
  | initialized hm =>
    rw [(h.absent hm.absent).2.2]
    simp
  | renewed hm => exact (steady hm.steady).elim
  | expired hm => exact (mapped _ (leaseRewrite_expire _ _ _) hm.leases_eq).elim
  | requested hm =>
    have hmap := hm.leases_eq
    split at hmap
    · exact (mapped id leaseRewrite_id (by rw [hmap, List.map_id])).elim
    · exact (mapped _ leaseRewrite_startRevoking hmap).elim
  | acknowledged hm =>
    intro g hg hconsumed
    have hsafe := hm.safe
    simp only [LiveDb.hasInflightAction, List.any_eq_false, decide_eq_true_eq] at hsafe
    exact hsafe g hg hconsumed
  | issued hm _ _ => exact (steady hm.steady).elim
  | consumed hm => exact (steady hm.steady).elim
  | completed hm => exact (steady hm.steady).elim

theorem stepFenced_of_move {c : LiveCall} {now : Instant} {db db' : LiveDb} (h : LiveInv db)
    (hm : LiveMove c now db db') : StepFenced now db db' := by
  refine ⟨fun s hs => ?_, fun s hs hi => ?_, grants_of_move hm, noneConsumed_of_opened h hm⟩
  · obtain ⟨s', hs', -, hmove⟩ := fenceMove_of_move h hm hs
    exact ⟨s', hs', hmove⟩
  · obtain ⟨s', hs', hinfluence, -⟩ := fenceMove_of_move h hm hs
    exact ⟨s', hs', hinfluence hi⟩

/-! ### Taking control -/

theorem requested_of_fresh {now : Instant} {db db' : LiveDb} {commandType : LiveControlCommandType}
    {actor : ActorContext} {request : RequestLiveControl} {epoch : ℕ} {key : String}
    {command : LiveControlCommand}
    (h : Commits (requestLive commandType actor request epoch key now) db (command, false) db') :
    ∃ s, LiveRequested now commandType s command db db' := by
  rcases requested_of_commits h with ⟨hr, -⟩ | ⟨s, -, hm⟩
  · simp at hr
  · exact ⟨s, hm⟩

/-- Nobody acts in the state that a request or an expiry leads to. -/
theorem TakesControl.uncontrolled {now : Instant} {db db' : LiveDb} (h : TakesControl now db db') :
    (∃ c, LiveMove c now db db') ∧ ∃ s, db'.session = some s ∧ ¬ Controlled s := by
  cases h with
  | pause actor request epoch key command h =>
    obtain ⟨s, hm⟩ := requested_of_fresh h
    exact ⟨⟨.pause actor request epoch key, .requested hm⟩, _, hm.session_eq, by simp [Controlled, requestedState]⟩
  | takeover actor request epoch key command h =>
    obtain ⟨s, hm⟩ := requested_of_fresh h
    exact ⟨⟨.takeover actor request epoch key, .requested hm⟩, _, hm.session_eq, by simp [Controlled, requestedState]⟩
  | returnControl actor request epoch key command h =>
    obtain ⟨s, hm⟩ := requested_of_fresh h
    exact ⟨⟨.returnControl actor request epoch key, .requested hm⟩, _, hm.session_eq, by simp [Controlled, requestedState]⟩
  | expiry c h left =>
    obtain ⟨s, hs, hstate⟩ := left
    exact ⟨⟨c, h ▸ move_of_after c now db⟩, s, hs, by simp [Controlled, hstate]⟩

theorem spent_of_takesControl {s : LiveState} {now : Instant} {db' : LiveDb} (h : LiveInv s.db)
    (htakes : TakesControl now s.db db') {g : LiveActionGrant} (hg : g ∈ s.db.grants) :
    Spent g.grantId ⟨db', now⟩ := by
  obtain ⟨⟨c, hm⟩, session, hs, hfree⟩ := htakes.uncontrolled
  refine Retired.spent ⟨(h.grantIds g hg).trans_le hm.frame.nextId, fun g' hg' _ => ?_⟩
  exact (h.move hm).revoked session hs hfree g' hg'

/-- In every reachable state one controller holds one fence and one command is open; a call
moves the fence exactly when it changes the controller, consumes a grant only under the fence it
was issued to, and opens a lease only while no action is in flight; a grant that left ISSUED,
or was issued before control was taken, is never consumed again. -/
theorem live_control_fenced {s : LiveState} (hreach : LiveReachable s) :
    ControlFenced s ∧
    (∀ (c : LiveCall) now, s.clock ≤ now → StepFenced now s.db (after (c.run now) s.db)) ∧
    ∀ now db', s.clock ≤ now → TakesControl now s.db db' →
      ∀ g ∈ s.db.grants, Spent g.grantId ⟨db', now⟩ := by
  have h := liveInv_of_reachable hreach
  refine ⟨⟨h.oneLease, fun session hs l hl hcur => (h.fence session hs l hl).2 hcur, h.onePending,
    fun g hg hstate => ?_⟩, fun c now _ => stepFenced_of_move h (move_of_after c now s.db),
    fun now db' _ htakes g hg => spent_of_takesControl h htakes hg⟩
  refine Retired.spent ⟨h.grantIds g hg, fun g' hg' hid => ?_⟩
  obtain rfl := Table.eq_of_key h.grantKeys hg' hg hid
  exact hstate

/-! An Attempt of a Worker, and its session with one action approved. -/

def exampleAttempt : UnitAttempt :=
  { tenantId := 1, projectId := 2, taskRunId := 3, manifestHash := 0, executionUnitId := 4, unitKey := 0
    lifecycle := .running, quality := .pending, hygiene := .pending, startedAt := some 0
    finalizedAt := none, cleanupResolvedAt := none, closedAt := none, revision := 1, updatedAt := 0
    id := 5, caseVersionId := 6, attemptNumber := 1, temporalNamespace := none
    temporalWorkflowId := none, queuedAt := 0, executionDeadline := seconds 3600, createdAt := 0 }

def exampleTicket : TaskUnitExecutionTicket :=
  { tenantId := 1, projectId := 2, taskRunId := 3, manifestHash := 0, executionUnitId := 4, unitKey := 0
    id := 7, unitAttemptId := 5, requestDigest := 0, ordinal := 0, caseVersionId := 6
    attemptNumber := 1, executionProfileVersionId := 8, identityProfileVersionId := 8
    browserProfileVersionId := 8, dataProfileVersionId := 8, fixtureBlueprintVersionId := 8
    environmentId := 9, executionDeadline := seconds 3600, ticketDigest := 0, contentDigest := 0
    runtimeDigest := 0 }

def exampleLive : LiveState :=
  ⟨{ attempt := some exampleAttempt, ticket := some exampleTicket, environments := [], session := none
     leases := [], commands := [], grants := [], events := [], nextId := 10 }, 0⟩

def exampleSession : LiveState :=
  exampleLive.call (.initializeSession ⟨"browser-1", "worker-1", 1, 120⟩ "worker-1") 1

def exampleGrant (actionId : Uuid) : LiveCall :=
  .issue ⟨actionId, 0, "page-1", 1, 1, 1, "playwright", 0, 15⟩ "worker-1"

theorem exampleLive_initial : LiveInitial exampleLive := ⟨rfl, rfl, rfl, rfl⟩

theorem reachable_call {s : LiveState} (h : LiveReachable s) (c : LiveCall) {now : Instant}
    (hnow : s.clock ≤ now) : LiveReachable (s.call c now) := by
  obtain ⟨s₀, hinit, hrun⟩ := h
  exact ⟨s₀, hinit, hrun.tail (.call s c now hnow)⟩

theorem exampleSession_reachable : LiveReachable exampleSession :=
  reachable_call ⟨exampleLive, exampleLive_initial, .refl⟩ _ (by decide)

theorem live_control_fenced_granted :
    ControlFenced (exampleSession.call (exampleGrant 20) 2) ∧
      ((exampleSession.call (exampleGrant 20) 2).db.grants.map LiveActionGrant.state = [.issued]) :=
  ⟨(live_control_fenced (reachable_call exampleSession_reachable (exampleGrant 20) (by decide))).1, by decide⟩

end Atlas.Proofs
