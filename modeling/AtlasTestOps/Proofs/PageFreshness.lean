import AtlasTestOps.Runtime.BrowserSession

/-! Which page an action reaches: the observation that it cites is of the page as it is, as long as no
navigation arrives between the synchronisation of its `execute` and its adapter call. -/

namespace Atlas.Runtime

variable {contract : SessionContract} {s : BrowserSystem}

namespace SessionCall

/-- The navigations that an `execute` had seen when it synchronised, until it reaches the browser. -/
def synced? : SessionCall → Option ℕ
  | .proposing _ synced | .deciding _ synced _ | .locating _ synced _ _ _ => some synced
  | _ => none

def citing : SessionCall → Option BrowserObservation
  | .locating _ _ _ cited _ => cited
  | _ => none

/-- The grant that is consumed and has not reached the browser. -/
def held : SessionCall → Option BrowserActionGrant
  | .locating _ _ grant _ _ => some grant
  | _ => none

end SessionCall

/-! ### What a step can do -/

/-- The moves of the system, each with what it relies on. -/
inductive Move (s : BrowserSystem) : BrowserSystem → Prop
  | same : Move s s
  | navigated : Move s
      { s with
        session := { s.session with externalRevisionDirty := true }
        navigations := s.navigations + 1 }
  | synchronized : Move s s.synchronize
  | started (id : ℕ) (call : SessionCall)
      (fresh : call.synced? = none ∨ call.synced? = some s.navigations)
      (cites : call.citing = none) (holds : call.held = none) :
      Move s (s.synchronize.setCall id (some call))
  | resumed (id : ℕ) (call call' : SessionCall) (running : s.calls id = some call)
      (synced : call'.synced? = call.synced?) (cites : call'.citing = none) (holds : call'.held = none) :
      Move s (s.setCall id (some call'))
  | dropped (id : ℕ) (uncertain : Bool) : Move s
      { s.setCall id none with session := { s.session with executionUncertain := uncertain } }
  | captured (id : ℕ) (o : BrowserObservation) (targets : List (ℕ × TargetHandle))
      (now : o.captured = s.navigations) : Move s
      { s.setCall id none with session := { s.session with observations := [o], targets := targets } }
  | refused (id : ℕ) (grant : BrowserActionGrant) (newGrant : grant.grantId ∉ s.session.consumedGrants)
      (newAction : grant.actionId ∉ s.session.consumedActionIds) :
      Move s ({ s with session := s.session.consume grant }.setCall id none)
  | granted (id : ℕ) (proposal : BrowserActionProposal) (synced : ℕ) (decision : BrowserPolicyDecision)
      (grant : BrowserActionGrant) (running : s.calls id = some (.deciding proposal synced decision))
      (newGrant : grant.grantId ∉ s.session.consumedGrants)
      (newAction : grant.actionId ∉ s.session.consumedActionIds) :
      Move s ({ s with session := s.session.consume grant }.perform id proposal synced grant
        (s.session.currentObservation proposal))
  | held (id : ℕ) (proposal : BrowserActionProposal) (synced : ℕ) (decision : BrowserPolicyDecision)
      (grant : BrowserActionGrant) (handle : TargetHandle)
      (running : s.calls id = some (.deciding proposal synced decision))
      (newGrant : grant.grantId ∉ s.session.consumedGrants)
      (newAction : grant.actionId ∉ s.session.consumedActionIds) :
      Move s ({ s with session := s.session.consume grant }.setCall id
        (some (.locating proposal synced grant (s.session.currentObservation proposal) handle)))
  | located (id : ℕ) (proposal : BrowserActionProposal) (synced : ℕ) (grant : BrowserActionGrant)
      (cited : Option BrowserObservation) (handle : TargetHandle)
      (running : s.calls id = some (.locating proposal synced grant cited handle)) :
      Move s (s.perform id proposal synced grant cited)
  | finished (id : ℕ) (proposal : BrowserActionProposal) (succeeded : Bool) : Move s
      { s.setCall id (some (.reporting proposal succeeded)) with
        session := s.session.advance
        revisions := s.revisions ++ [s.session.pageRevision + 1] }

theorem Move.drop (s : BrowserSystem) (id : ℕ) : Move s (s.setCall id none) :=
  Move.dropped id s.session.executionUncertain

/-- The body of a consumed grant reaches the browser, waits for the page, or is refused. -/
theorem dispatch_cases (contract : SessionContract) (s : BrowserSystem) (id : ℕ)
    (proposal : BrowserActionProposal) (synced : ℕ) (grant : BrowserActionGrant)
    (cited : Option BrowserObservation) (frames : ℕ) :
    s.dispatch contract id proposal synced grant cited frames = s.perform id proposal synced grant cited ∨
      (∃ handle, s.dispatch contract id proposal synced grant cited frames =
        s.setCall id (some (.locating proposal synced grant cited handle))) ∨
      s.dispatch contract id proposal synced grant cited frames = s.setCall id none := by
  unfold BrowserSystem.dispatch
  cases proposal.action with
  | openRoute | captureView =>
    dsimp only
    split
    · exact Or.inl rfl
    · exact Or.inr (Or.inr rfl)
  | activate | chooseOption =>
    dsimp only
    split
    · exact Or.inr (Or.inl ⟨_, rfl⟩)
    · exact Or.inr (Or.inr rfl)
  | enterText =>
    dsimp only
    split
    · split
      · exact Or.inr (Or.inl ⟨_, rfl⟩)
      · exact Or.inr (Or.inr rfl)
    · exact Or.inr (Or.inr rfl)
  | keypress | scroll => exact Or.inl rfl
  | observe | waitForCondition | evaluateAssertion => exact Or.inr (Or.inr rfl)

theorem grantCall_moves (contract : SessionContract) (s : BrowserSystem) (id : ℕ) (grantId : Uuid)
    (granted checked : Instant) (frames : ℕ) : Move s (s.grantCall contract id grantId granted checked frames) := by
  unfold BrowserSystem.grantCall
  split
  · rename_i proposal synced decision hrunning
    dsimp only
    split
    · exact Move.drop s id
    · rename_i hpass
      simp only [not_or] at hpass
      have hnew := hpass.2.2
      simp only [BrowserToolSession.grantRefused, decide_eq_true_eq, not_or] at hnew
      obtain hd | ⟨handle, hd⟩ | hd := dispatch_cases contract
        { s with session := s.session.consume (s.session.grantFor contract grantId granted proposal) } id proposal
        synced (s.session.grantFor contract grantId granted proposal) (s.session.currentObservation proposal)
        frames
      · rw [hd]
        exact .granted id proposal synced decision _ hrunning hnew.1 hnew.2.1
      · rw [hd]
        exact .held id proposal synced decision _ handle hrunning hnew.1 hnew.2.1
      · rw [hd]
        exact .refused id _ hnew.1 hnew.2.1
  · exact .same

/-- A step is one of the moves. -/
theorem step_moves (contract : SessionContract) (s : BrowserSystem) (event : SessionEvent) :
    Move s (s.step contract event) := by
  cases event with
  | navigated => exact .navigated
  | observe id observationRef =>
    simp only [BrowserSystem.step]
    split
    · exact .started id _ (Or.inl rfl) rfl rfl
    · exact .same
  | execute id proposal =>
    simp only [BrowserSystem.step, BrowserSystem.startExecute]
    split
    · split
      · exact .synchronized
      · exact .started id _ (Or.inr rfl) rfl rfl
    · exact .same
  | scanned id targetRef role elementKey accessibleName =>
    simp only [BrowserSystem.step, BrowserSystem.scan]
    split
    · rename_i observationRef targets hrunning
      exact .resumed id _ _ hrunning rfl rfl rfl
    · exact .same
  | captured id nonce =>
    simp only [BrowserSystem.step, BrowserSystem.capture]
    split
    · exact .captured id _ _ rfl
    · exact .same
  | proposed id =>
    simp only [BrowserSystem.step, BrowserSystem.decideCall]
    split
    · rename_i proposal synced hrunning
      exact .resumed id _ _ hrunning rfl rfl rfl
    · exact .same
  | decided id grantId granted checked frames => exact grantCall_moves contract s id grantId granted checked frames
  | located id visible currentKey currentName =>
    simp only [BrowserSystem.step, BrowserSystem.locateCall]
    split
    · rename_i proposal synced grant cited handle hrunning
      split
      · exact .located id proposal synced grant cited handle hrunning
      · exact Move.drop s id
    · exact .same
  | acted id result =>
    simp only [BrowserSystem.step, BrowserSystem.finishCall]
    split
    · split
      · exact Move.drop s id
      · exact .finished id _ _
    · exact .same
  | reported id observationRef =>
    simp only [BrowserSystem.step, BrowserSystem.reportCall]
    split
    · split
      · exact .dropped id true
      · split
        · exact Move.drop s id
        · exact .started id _ (Or.inl rfl) rfl rfl
    · exact .same
  | abandoned id => exact Move.drop s id

/-! ### Observations and what cites them -/

/-- The call synchronised before the observations that are there were captured. -/
structure CallFresh (navigations : ℕ) (observations : List BrowserObservation) (call : SessionCall) :
    Prop where
  arrived : ∀ k, call.synced? = some k → k ≤ navigations
  observed : ∀ k, call.synced? = some k → ∀ o ∈ observations, k ≤ o.captured
  cited : ∀ k, call.synced? = some k → ∀ o, call.citing = some o → k ≤ o.captured ∧ o.captured ≤ navigations

structure Fresh (s : BrowserSystem) : Prop where
  captured : ∀ o ∈ s.session.observations, o.captured ≤ s.navigations
  current : s.session.externalRevisionDirty = false →
    ∀ o ∈ s.session.observations, o.captured = s.navigations
  calls : ∀ id call, s.calls id = some call → CallFresh s.navigations s.session.observations call
  performed : ∀ a ∈ s.performed, ∀ o, a.cited = some o → a.synced ≤ o.captured ∧ o.captured ≤ a.navigations

/-- A call that has not synchronised, or has reached the browser, has nothing to keep. -/
theorem callFresh_of_none {navigations : ℕ} {observations : List BrowserObservation} {call : SessionCall}
    (h : call.synced? = none) : CallFresh navigations observations call := by
  constructor <;> simp [h]

theorem Fresh.setCall (h : Fresh s) (id : ℕ) {call : Option SessionCall}
    (hcall : ∀ c, call = some c → CallFresh s.navigations s.session.observations c) :
    Fresh (s.setCall id call) where
  captured := h.captured
  current := h.current
  performed := h.performed
  calls := by
    intro id' c hc
    simp only [BrowserSystem.setCall] at hc
    by_cases hid : id' = id
    · subst hid
      rw [Function.update_self] at hc
      exact hcall c hc
    · rw [Function.update_of_ne hid] at hc
      exact h.calls id' c hc

theorem Fresh.dropCall (h : Fresh s) (id : ℕ) : Fresh (s.setCall id none) :=
  h.setCall id fun _ hc => by cases hc

/-- The observations are gone, whatever the revision. -/
theorem Fresh.forget (h : Fresh s) (session : BrowserToolSession) (hnone : session.observations = [])
    (revisions : List ℕ) : Fresh { s with session := session, revisions := revisions } where
  captured := by simp [hnone]
  current := by simp [hnone]
  performed := h.performed
  calls := fun id call hcall =>
    ⟨(h.calls id call hcall).arrived, by simp [hnone], (h.calls id call hcall).cited⟩

theorem Fresh.synchronize (h : Fresh s) :
    Fresh s.synchronize ∧ s.synchronize.session.externalRevisionDirty = false := by
  cases hdirty : s.session.externalRevisionDirty with
  | true =>
    simp only [BrowserSystem.synchronize, BrowserToolSession.synchronizeExternalRevision, hdirty]
    exact ⟨h.forget _ rfl _, rfl⟩
  | false =>
    simp only [BrowserSystem.synchronize, BrowserToolSession.synchronizeExternalRevision, hdirty]
    exact ⟨h, hdirty⟩

/-- A call that starts after the synchronisation is no older than any observation. -/
theorem Fresh.start (h : Fresh s) (hclean : s.session.externalRevisionDirty = false) {call : SessionCall}
    (hsynced : call.synced? = some s.navigations) (hciting : call.citing = none) :
    CallFresh s.navigations s.session.observations call where
  arrived := by simp [hsynced]
  observed := by
    intro k hk o ho
    obtain rfl := Option.some.inj (hsynced.symm.trans hk)
    exact (h.current hclean o ho).ge
  cited := by simp [hciting]

theorem Fresh.perform (h : Fresh s) (id : ℕ) {proposal : BrowserActionProposal} {synced : ℕ}
    {grant : BrowserActionGrant} {cited : Option BrowserObservation}
    (hcited : ∀ o, cited = some o → synced ≤ o.captured ∧ o.captured ≤ s.navigations) :
    Fresh (s.perform id proposal synced grant cited) where
  captured := h.captured
  current := h.current
  calls := (h.setCall id fun c hc => callFresh_of_none (by cases hc; rfl)).calls
  performed := by
    intro a ha o ho
    simp only [BrowserSystem.perform, List.mem_append, List.mem_singleton] at ha
    obtain ha | rfl := ha
    · exact h.performed a ha o ho
    · exact hcited o ho

/-- What `_require_observation` finds lies between the synchronisation and now. -/
theorem cited_of_current {id : ℕ} {proposal : BrowserActionProposal} {synced : ℕ}
    {decision : BrowserPolicyDecision} {o : BrowserObservation} (h : Fresh s)
    (hrunning : s.calls id = some (.deciding proposal synced decision))
    (ho : s.session.currentObservation proposal = some o) :
    synced ≤ o.captured ∧ o.captured ≤ s.navigations := by
  obtain ⟨hfound, -⟩ := Option.filter_eq_some_iff.1 ho
  obtain ⟨observationRef, -, hget⟩ := Option.bind_eq_some_iff.1 hfound
  have hmem : o ∈ s.session.observations := List.mem_of_find?_eq_some hget
  exact ⟨(h.calls id _ hrunning).observed synced rfl o hmem, h.captured o hmem⟩

theorem fresh_move {s' : BrowserSystem} (hmove : Move s s') (h : Fresh s) : Fresh s' := by
  cases hmove with
  | same => exact h
  | navigated =>
    refine ⟨fun o ho => (h.captured o ho).trans (Nat.le_succ _), by simp, fun id call hcall => ?_, h.performed⟩
    obtain ⟨harrived, hobserved, hcited⟩ := h.calls id call hcall
    exact ⟨fun k hk => (harrived k hk).trans (Nat.le_succ _), hobserved,
      fun k hk o ho => ⟨(hcited k hk o ho).1, (hcited k hk o ho).2.trans (Nat.le_succ _)⟩⟩
  | synchronized => exact h.synchronize.1
  | started id call hfresh hcites _ =>
    obtain ⟨hsync, hclean⟩ := h.synchronize
    refine hsync.setCall id fun c hc => ?_
    obtain rfl := Option.some.inj hc
    obtain hnone | hsome := hfresh
    · exact callFresh_of_none hnone
    · exact hsync.start hclean hsome hcites
  | resumed id call call' hrunning hsynced hcites _ =>
    refine h.setCall id fun c hc => ?_
    obtain rfl := Option.some.inj hc
    obtain ⟨harrived, hobserved, -⟩ := h.calls id call hrunning
    exact ⟨fun k hk => harrived k (hsynced ▸ hk), fun k hk => hobserved k (hsynced ▸ hk), by simp [hcites]⟩
  | dropped id uncertain =>
    obtain ⟨hcaptured, hcurrent, hcalls, hperformed⟩ := h.dropCall id
    exact ⟨hcaptured, hcurrent, hcalls, hperformed⟩
  | captured id o targets hnow =>
    have hdrop := h.dropCall id
    refine ⟨by simp [hnow, BrowserSystem.setCall], by simp [hnow, BrowserSystem.setCall], fun id' call hcall => ?_, h.performed⟩
    obtain ⟨harrived, -, hcited⟩ := hdrop.calls id' call hcall
    exact ⟨harrived, fun k hk o' ho' => by
      obtain rfl := List.mem_singleton.1 ho'
      exact hnow ▸ harrived k hk, hcited⟩
  | refused id grant =>
    obtain ⟨hcaptured, hcurrent, hcalls, hperformed⟩ := h.dropCall id
    exact ⟨hcaptured, hcurrent, hcalls, hperformed⟩
  | granted id proposal synced decision grant hrunning =>
    have hconsumed : Fresh { s with session := s.session.consume grant } :=
      ⟨h.captured, h.current, h.calls, h.performed⟩
    have hcited : ∀ o, s.session.currentObservation proposal = some o →
        synced ≤ o.captured ∧ o.captured ≤ s.navigations := fun o ho => cited_of_current h hrunning ho
    exact hconsumed.perform id hcited
  | held id proposal synced decision grant handle hrunning =>
    have hconsumed : Fresh { s with session := s.session.consume grant } :=
      ⟨h.captured, h.current, h.calls, h.performed⟩
    have hcited : ∀ o, s.session.currentObservation proposal = some o →
        synced ≤ o.captured ∧ o.captured ≤ s.navigations := fun o ho => cited_of_current h hrunning ho
    refine hconsumed.setCall id fun c hc => ?_
    obtain rfl := Option.some.inj hc
    obtain ⟨harrived, hobserved, -⟩ := h.calls id _ hrunning
    refine ⟨harrived, hobserved, fun k hk o ho => ?_⟩
    obtain rfl := Option.some.inj hk
    exact hcited o ho
  | located id proposal synced grant cited handle hrunning =>
    exact h.perform id ((h.calls id _ hrunning).cited synced rfl)
  | finished id proposal succeeded =>
    have hcalls := (h.setCall id fun c hc => callFresh_of_none (by cases hc; rfl) :
      Fresh (s.setCall id (some (.reporting proposal succeeded))))
    exact hcalls.forget s.session.advance rfl _

/-! ### Identities are used once -/

/-- An identity is consumed before it reaches the browser, is held by one call at most until then, and
does so once. -/
structure UsedOnce (consumed used : List Uuid) (holds : ℕ → Option Uuid) : Prop where
  nodup : used.Nodup
  known : ∀ u ∈ used, u ∈ consumed
  held : ∀ id u, holds id = some u → u ∈ consumed ∧ u ∉ used
  apart : ∀ id id' u, holds id = some u → holds id' = some u → id = id'

section UsedOnce

variable {consumed used : List Uuid} {holds : ℕ → Option Uuid} {u : Uuid} {id : ℕ}

theorem UsedOnce.drop (h : UsedOnce consumed used holds) (id : ℕ) :
    UsedOnce consumed used (Function.update holds id none) := by
  have hheld : ∀ j v, Function.update holds id none j = some v → holds j = some v := by
    intro j v hj
    by_cases hid : j = id
    · subst hid
      simp at hj
    · rwa [Function.update_of_ne hid] at hj
  exact ⟨h.nodup, h.known, fun j v hj => h.held j v (hheld j v hj),
    fun j j' v hj hj' => h.apart j j' v (hheld j v hj) (hheld j' v hj')⟩

theorem UsedOnce.consume (h : UsedOnce consumed used holds) (u : Uuid) :
    UsedOnce (u :: consumed) used holds :=
  ⟨h.nodup, fun v hv => List.mem_cons_of_mem u (h.known v hv),
    fun j v hj => ⟨List.mem_cons_of_mem u (h.held j v hj).1, (h.held j v hj).2⟩, h.apart⟩

theorem UsedOnce.hold (h : UsedOnce consumed used holds) (hnew : u ∉ consumed) :
    UsedOnce (u :: consumed) used (Function.update holds id (some u)) := by
  have hother : ∀ j, holds j ≠ some u := fun j hj => hnew (h.held j u hj).1
  refine ⟨h.nodup, (h.consume u).known, ?_, ?_⟩
  · intro j v hj
    by_cases hid : j = id
    · subst hid
      rw [Function.update_self, Option.some.injEq] at hj
      subst hj
      exact ⟨List.mem_cons_self, fun hu => hnew (h.known u hu)⟩
    · rw [Function.update_of_ne hid] at hj
      exact (h.consume u).held j v hj
  · intro j j' v hj hj'
    by_cases hid : j = id <;> by_cases hid' : j' = id
    · rw [hid, hid']
    · subst hid
      rw [Function.update_self, Option.some.injEq] at hj
      rw [Function.update_of_ne hid', ← hj] at hj'
      exact absurd hj' (hother j')
    · subst hid'
      rw [Function.update_self, Option.some.injEq] at hj'
      rw [Function.update_of_ne hid, ← hj'] at hj
      exact absurd hj (hother j)
    · rw [Function.update_of_ne hid] at hj
      rw [Function.update_of_ne hid'] at hj'
      exact h.apart j j' v hj hj'

theorem UsedOnce.use (h : UsedOnce consumed used holds) (hmem : u ∈ consumed) (hnew : u ∉ used)
    (hother : ∀ j, j ≠ id → holds j ≠ some u) :
    UsedOnce consumed (used ++ [u]) (Function.update holds id none) := by
  have hdrop := h.drop id
  refine ⟨?_, ?_, ?_, hdrop.apart⟩
  · rw [← List.concat_eq_append, List.nodup_concat]
    exact ⟨hnew, h.nodup⟩
  · intro v hv
    obtain hv | hv := List.mem_append.1 hv
    · exact h.known v hv
    · rwa [List.mem_singleton.1 hv]
  · intro j v hj
    refine ⟨(hdrop.held j v hj).1, ?_⟩
    rw [List.mem_append, not_or, List.mem_singleton]
    refine ⟨(hdrop.held j v hj).2, ?_⟩
    rintro rfl
    by_cases hid : j = id
    · subst hid
      simp at hj
    · rw [Function.update_of_ne hid] at hj
      exact hother j hid hj

end UsedOnce

/-- Both identities of a grant are used once. -/
structure Once (s : BrowserSystem) : Prop where
  grants : UsedOnce s.session.consumedGrants (s.performed.map PerformedAction.grantId)
    fun id => ((s.calls id).bind SessionCall.held).map BrowserActionGrant.grantId
  actions : UsedOnce s.session.consumedActionIds (s.performed.map PerformedAction.actionId)
    fun id => ((s.calls id).bind SessionCall.held).map BrowserActionGrant.actionId

/-- What the calls hold once one of them has changed. -/
theorem held_update (calls : ℕ → Option SessionCall) (id : ℕ) (call : Option SessionCall)
    (identity : BrowserActionGrant → Uuid) :
    (fun id' => ((Function.update calls id call id').bind SessionCall.held).map identity) =
      Function.update (fun id' => ((calls id').bind SessionCall.held).map identity) id
        ((call.bind SessionCall.held).map identity) := by
  funext id'
  by_cases hid : id' = id
  · subst hid
    simp
  · simp [Function.update_of_ne hid]

theorem Once.setCall (h : Once s) (id : ℕ) {call : Option SessionCall}
    (hcall : call.bind SessionCall.held = none) : Once (s.setCall id call) := by
  constructor
  · simp only [BrowserSystem.setCall, held_update, hcall, Option.map_none]
    exact h.grants.drop id
  · simp only [BrowserSystem.setCall, held_update, hcall, Option.map_none]
    exact h.actions.drop id

theorem Once.synchronize (h : Once s) : Once s.synchronize := by
  have hgrants : s.synchronize.session.consumedGrants = s.session.consumedGrants := by
    simp only [BrowserSystem.synchronize, BrowserToolSession.synchronizeExternalRevision]
    split <;> rfl
  have hactions : s.synchronize.session.consumedActionIds = s.session.consumedActionIds := by
    simp only [BrowserSystem.synchronize, BrowserToolSession.synchronizeExternalRevision]
    split <;> rfl
  constructor
  · rw [hgrants]
    exact h.grants
  · rw [hactions]
    exact h.actions

/-- A held identity is used by the call that holds it. -/
theorem UsedOnce.use_held {consumed used : List Uuid} {holds : ℕ → Option Uuid} {u : Uuid} {id : ℕ}
    (h : UsedOnce consumed used holds) (hheld : holds id = some u) :
    UsedOnce consumed (used ++ [u]) (Function.update holds id none) := by
  obtain ⟨hmem, hnew⟩ := h.held id u hheld
  exact h.use hmem hnew fun j hj hu => hj (h.apart j id u hu hheld)

/-- An identity that nothing has consumed is used at once. -/
theorem UsedOnce.use_new {consumed used : List Uuid} {holds : ℕ → Option Uuid} {u : Uuid} {id : ℕ}
    (h : UsedOnce consumed used holds) (hnew : u ∉ consumed) :
    UsedOnce (u :: consumed) (used ++ [u]) (Function.update holds id none) :=
  (h.consume u).use List.mem_cons_self (fun hu => hnew (h.known u hu)) fun j _ hj => hnew (h.held j u hj).1

theorem once_move {s' : BrowserSystem} (hmove : Move s s') (h : Once s) : Once s' := by
  cases hmove with
  | same => exact h
  | navigated => exact ⟨h.grants, h.actions⟩
  | synchronized => exact h.synchronize
  | started id call _ _ hholds => exact h.synchronize.setCall id (by simpa using hholds)
  | resumed id call call' _ _ _ hholds => exact h.setCall id (by simpa using hholds)
  | dropped id uncertain =>
    obtain ⟨hgrants, hactions⟩ := (h.setCall id rfl : Once (s.setCall id none))
    exact ⟨hgrants, hactions⟩
  | captured id o targets =>
    obtain ⟨hgrants, hactions⟩ := (h.setCall id rfl : Once (s.setCall id none))
    exact ⟨hgrants, hactions⟩
  | refused id grant =>
    obtain ⟨hgrants, hactions⟩ := (h.setCall id rfl : Once (s.setCall id none))
    exact ⟨hgrants.consume grant.grantId, hactions.consume grant.actionId⟩
  | granted id proposal synced decision grant _ hgrant haction =>
    constructor
    · simp only [BrowserSystem.perform, BrowserSystem.setCall, held_update, List.map_append, List.map_cons,
        List.map_nil]
      exact h.grants.use_new hgrant
    · simp only [BrowserSystem.perform, BrowserSystem.setCall, held_update, List.map_append, List.map_cons,
        List.map_nil]
      exact h.actions.use_new haction
  | held id proposal synced decision grant handle _ hgrant haction =>
    constructor
    · simp only [BrowserSystem.setCall, held_update]
      exact h.grants.hold hgrant
    · simp only [BrowserSystem.setCall, held_update]
      exact h.actions.hold haction
  | located id proposal synced grant cited handle hrunning =>
    constructor
    · simp only [BrowserSystem.perform, BrowserSystem.setCall, held_update, List.map_append, List.map_cons,
        List.map_nil]
      exact h.grants.use_held (by simp [hrunning, SessionCall.held])
    · simp only [BrowserSystem.perform, BrowserSystem.setCall, held_update, List.map_append, List.map_cons,
        List.map_nil]
      exact h.actions.use_held (by simp [hrunning, SessionCall.held])
  | finished id proposal succeeded =>
    obtain ⟨hgrants, hactions⟩ :=
      (h.setCall id rfl : Once (s.setCall id (some (.reporting proposal succeeded))))
    exact ⟨hgrants, hactions⟩

/-! ### Revisions rise -/

/-- The revisions after each executed action and each detected navigation, from the first one of the
page. -/
structure Rising (s : BrowserSystem) : Prop where
  rises : (1 :: s.revisions).Pairwise (· < ·)
  bounded : ∀ r ∈ 1 :: s.revisions, r ≤ s.session.pageRevision

theorem Rising.next (h : Rising s) {s' : BrowserSystem}
    (hrevision : s'.session.pageRevision = s.session.pageRevision + 1)
    (hrevisions : s'.revisions = s.revisions ++ [s.session.pageRevision + 1]) : Rising s' := by
  constructor
  · rw [hrevisions, ← List.cons_append, List.pairwise_append]
    refine ⟨h.rises, List.pairwise_singleton _ _, fun r hr r' hr' => ?_⟩
    rw [List.mem_singleton.1 hr']
    exact Nat.lt_succ_of_le (h.bounded r hr)
  · intro r hr
    rw [hrevisions, ← List.cons_append, List.mem_append, List.mem_singleton] at hr
    rw [hrevision]
    obtain hr | rfl := hr
    · exact (h.bounded r hr).trans (Nat.le_succ _)
    · exact le_rfl

theorem Rising.synchronize (h : Rising s) : Rising s.synchronize := by
  cases hdirty : s.session.externalRevisionDirty with
  | true =>
    exact h.next (by simp [BrowserSystem.synchronize, BrowserToolSession.synchronizeExternalRevision, hdirty])
      (by simp [BrowserSystem.synchronize, hdirty])
  | false =>
    simp only [BrowserSystem.synchronize, BrowserToolSession.synchronizeExternalRevision, hdirty]
    exact h

theorem rising_move {s' : BrowserSystem} (hmove : Move s s') (h : Rising s) : Rising s' := by
  cases hmove with
  | synchronized => exact h.synchronize
  | started id call =>
    obtain ⟨hrises, hbounded⟩ := h.synchronize
    exact ⟨hrises, hbounded⟩
  | finished id proposal succeeded => exact h.next rfl rfl
  | _ => exact ⟨h.rises, h.bounded⟩

/-! ### Runs -/

/-- The navigations that had arrived when a call synchronised that the event lets go on to the adapter
with a cited observation: one whose allowed action needs no target, or one whose target holds. -/
def BrowserSystem.aboutToAct (contract : SessionContract) (s : BrowserSystem) : SessionEvent → Option ℕ
  | .decided id _ _ _ _ =>
    match s.calls id with
    | some (.deciding proposal synced decision) =>
      if decision.decision = .allow ∧ allowedTargetRoles proposal.action = none ∧
          s.session.currentObservation proposal ≠ none then some synced
      else none
    | _ => none
  | .located id visible currentKey currentName =>
    match s.calls id with
    | some (.locating _ synced _ cited handle) =>
      if cited ≠ none ∧ s.session.handleHolds contract handle visible currentKey currentName then
        some synced
      else none
    | _ => none
  | _ => none

/-- No navigation has arrived since a call synchronised that is about to act. -/
def InTime (contract : SessionContract) (s : BrowserSystem) (event : SessionEvent) : Prop :=
  ∀ synced ∈ s.aboutToAct contract event, synced = s.navigations

instance (event : SessionEvent) : Decidable (InTime contract s event) :=
  inferInstanceAs (Decidable (∀ synced ∈ s.aboutToAct contract event, synced = s.navigations))

/-- Before every step of the run the call that it lets go on is in time. -/
def InTimeRun (contract : SessionContract) (s : BrowserSystem) : List SessionEvent → Prop
  | [] => True
  | event :: events => InTime contract s event ∧ InTimeRun contract (s.step contract event) events

theorem dispatch_performed {id synced frames : ℕ} {proposal : BrowserActionProposal}
    {grant : BrowserActionGrant} {cited : Option BrowserObservation} {a : PerformedAction}
    (ha : a ∈ (s.dispatch contract id proposal synced grant cited frames).performed) :
    a ∈ s.performed ∨ (allowedTargetRoles proposal.action = none ∧ a.cited = cited ∧ a.synced = synced) := by
  have hkeep : ∀ call, a ∈ (s.setCall id call).performed → a ∈ s.performed := fun _ h => h
  have hperform : allowedTargetRoles proposal.action = none →
      a ∈ (s.perform id proposal synced grant cited).performed → a ∈ s.performed ∨
        (allowedTargetRoles proposal.action = none ∧ a.cited = cited ∧ a.synced = synced) := by
    intro hroles h
    refine (List.mem_append.1 h).imp_right fun hnew => ?_
    rw [List.mem_singleton.1 hnew]
    exact ⟨hroles, rfl, rfl⟩
  simp only [BrowserSystem.dispatch] at ha
  cases haction : proposal.action with
  | activate | chooseOption =>
    rw [haction] at ha
    dsimp only at ha
    split at ha <;> exact .inl (hkeep _ ha)
  | enterText =>
    rw [haction] at ha
    dsimp only at ha
    split at ha
    · split at ha <;> exact .inl (hkeep _ ha)
    · exact .inl (hkeep _ ha)
  | openRoute | captureView =>
    rw [haction] at ha
    dsimp only at ha
    split at ha
    · exact haction ▸ hperform (by rw [haction]; rfl) ha
    · exact .inl (hkeep _ ha)
  | keypress | scroll =>
    rw [haction] at ha
    exact haction ▸ hperform (by rw [haction]; rfl) ha
  | observe | waitForCondition | evaluateAssertion =>
    rw [haction] at ha
    exact .inl (hkeep _ ha)

/-- A step brings an action that cites an observation to the browser only for the call that was about
to act. -/
theorem step_performed {event : SessionEvent} {a : PerformedAction}
    (ha : a ∈ (s.step contract event).performed) (hcited : a.cited ≠ none) :
    a ∈ s.performed ∨ s.aboutToAct contract event = some a.synced := by
  cases event with
  | decided id grantId granted checked frames =>
    simp only [BrowserSystem.step, BrowserSystem.grantCall] at ha
    cases hcall : s.calls id with
    | none =>
      rw [hcall] at ha
      exact .inl ha
    | some call =>
      cases call with
      | deciding proposal synced decision =>
        rw [hcall] at ha
        dsimp only at ha
        split at ha
        · exact .inl ha
        · rename_i hgo
          obtain hold | ⟨hroles, hsame, hsynced⟩ := dispatch_performed ha
          · exact .inl hold
          · right
            rw [hsame] at hcited
            simp only [not_or, not_not] at hgo
            simp [BrowserSystem.aboutToAct, hcall, hgo.1, hroles, hcited, hsynced]
      | _ =>
        rw [hcall] at ha
        exact .inl ha
  | located id visible currentKey currentName =>
    simp only [BrowserSystem.step, BrowserSystem.locateCall] at ha
    cases hcall : s.calls id with
    | none =>
      rw [hcall] at ha
      exact .inl ha
    | some call =>
      cases call with
      | locating proposal synced grant cited handle =>
        rw [hcall] at ha
        dsimp only at ha
        split at ha
        · rename_i hholds
          obtain hold | hnew := List.mem_append.1 ha
          · exact .inl hold
          · right
            rw [List.mem_singleton.1 hnew] at hcited ⊢
            simp [BrowserSystem.aboutToAct, hcall, hholds, hcited]
        · exact .inl ha
      | _ =>
        rw [hcall] at ha
        exact .inl ha
  | observe id | execute id =>
    simp only [BrowserSystem.step, BrowserSystem.startExecute] at ha
    repeat' split at ha
    all_goals exact .inl ha
  | scanned | captured | proposed | acted | reported =>
    simp only [BrowserSystem.step, BrowserSystem.scan, BrowserSystem.capture, BrowserSystem.decideCall,
      BrowserSystem.finishCall, BrowserSystem.reportCall] at ha
    repeat' split at ha
    all_goals exact .inl ha
  | navigated | abandoned => exact .inl ha

structure Inv (s : BrowserSystem) : Prop where
  fresh : Fresh s
  once : Once s
  rising : Rising s

theorem inv_start : Inv {} where
  fresh := ⟨by simp, by simp, by simp, by simp⟩
  once := ⟨⟨by simp, by simp, by simp, by simp⟩, ⟨by simp, by simp, by simp, by simp⟩⟩
  rising := ⟨by simp, by simp⟩

theorem inv_run (events : List SessionEvent) (h : Inv s) : Inv (events.foldl (BrowserSystem.step contract) s) := by
  induction events generalizing s with
  | nil => exact h
  | cons event events ih =>
    have hmove := step_moves contract s event
    exact ih ⟨fresh_move hmove h.fresh, once_move hmove h.once, rising_move hmove h.rising⟩

/-- Whatever a move brings to the browser is marked with the navigations that have arrived. -/
theorem performed_move {s' : BrowserSystem} (hmove : Move s s') :
    ∀ a ∈ s'.performed, a ∈ s.performed ∨ a.navigations = s.navigations := by
  cases hmove with
  | granted | located =>
    intro a ha
    obtain ha | ha := List.mem_append.1 ha
    · exact Or.inl ha
    · rw [List.mem_singleton.1 ha]
      exact Or.inr rfl
  | _ => exact fun a ha => Or.inl ha

theorem inTime_run {events : List SessionEvent} (hrun : InTimeRun contract s events)
    (h : ∀ a ∈ s.performed, a.cited ≠ none → a.synced = a.navigations) :
    ∀ a ∈ (events.foldl (BrowserSystem.step contract) s).performed, a.cited ≠ none →
      a.synced = a.navigations := by
  induction events generalizing s with
  | nil => exact h
  | cons event events ih =>
    obtain ⟨hstep, hrun⟩ := hrun
    refine ih hrun fun a ha hcited => ?_
    obtain hold | hnow := performed_move (step_moves contract s event) a ha
    · exact h a hold hcited
    · obtain hold | hacts := step_performed ha hcited
      · exact h a hold hcited
      · exact (hstep a.synced hacts).trans hnow.symm

/-- In every run, an action reaches the browser once, revisions rise, and an action whose observation was
captured before its `execute` synchronised reaches the page of that observation exactly when no navigation
has arrived since; so a run whose calls act in time never acts upon a stale page. -/
theorem stale_page_never_acted_upon (contract : SessionContract) (events : List SessionEvent) :
    (InTimeRun contract {} events → ∀ a ∈ (BrowserSystem.run contract events).performed,
      ∀ o, a.cited = some o → o.captured = a.navigations) ∧
    (∀ a ∈ (BrowserSystem.run contract events).performed, ∀ o, a.cited = some o → o.captured ≤ a.synced →
      (o.captured = a.navigations ↔ a.synced = a.navigations)) ∧
    (1 :: (BrowserSystem.run contract events).revisions).Pairwise (· < ·) ∧
    ((BrowserSystem.run contract events).performed.map PerformedAction.grantId).Nodup ∧
    ((BrowserSystem.run contract events).performed.map PerformedAction.actionId).Nodup := by
  have hinv : Inv (BrowserSystem.run contract events) := inv_run events inv_start
  refine ⟨?_, ?_, hinv.rising.rises, hinv.once.grants.nodup, hinv.once.actions.nodup⟩
  · intro hrun a ha o ho
    obtain ⟨hlow, hhigh⟩ := hinv.fresh.performed a ha o ho
    have hsynced := inTime_run hrun (by simp) a ha (by simp [ho])
    omega
  · intro a ha o ho hbefore
    obtain ⟨hlow, hhigh⟩ := hinv.fresh.performed a ha o ho
    omega

/-! A key press on the page of the first observation, and a navigation before the decision about it. -/

namespace LateNavigation

def keyContract : SessionContract where
  planNodes := ["node-1"]
  actorSlot := "buyer"
  allowedActions := [.keypress]
  routeAllowed := fun _ => false
  valueIsText := fun _ => false
  artifactWriter := false
  executionDeadline := seconds 600
  proposalDigest := fun proposal => BitVec.ofNat 256 proposal.actionId
  fingerprint := fun _ _ _ revision => BitVec.ofNat 256 revision

def proposal : BrowserActionProposal where
  actionId := 5
  nodeId := "node-1"
  actorSlot := "buyer"
  action := .keypress
  risk := .input
  expectedObservationRef := some 1
  expectedPageRevision := some 1
  nextStepNonce := some 2
  key := some "Enter"

/-- One observation, then one execution with what happens while its first report is awaited. -/
def events (meanwhile : List SessionEvent) : List SessionEvent :=
  [.observe 0 1, .captured 0 2, .execute 1 proposal] ++ meanwhile ++
    [.proposed 1, .decided 1 7 (seconds 1) (seconds 1) 1, .acted 1 .succeeded, .reported 1 2]

end LateNavigation

open LateNavigation in
theorem late_navigation_absorbed :
    ∃ a ∈ (BrowserSystem.run keyContract (events [.navigated])).performed, ∃ o ∈ a.cited,
      o.captured ≠ a.navigations ∧
      (BrowserSystem.run keyContract (events [.navigated])).session.externalRevisionDirty = false ∧
      (BrowserSystem.run keyContract (events [.navigated])).revisions = [2] := by
  decide

open LateNavigation in
/-- Without the navigation the same key press is in time. -/
theorem prompt_key_press_fresh :
    ∀ a ∈ (BrowserSystem.run keyContract (events [])).performed, ∀ o, a.cited = some o →
      o.captured = a.navigations := by
  refine (stale_page_never_acted_upon keyContract (events [])).1 ?_
  simp only [events, List.append_nil, List.cons_append, List.nil_append, InTimeRun]
  decide

end Atlas.Runtime
