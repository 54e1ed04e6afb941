import AtlasTestOps.Proofs.LiveMoves

/-! The invariant of the rows of a LiveSession, kept by every move and so by every run: who
holds the fence, which command is open and which grants may still be used, state by state. -/

namespace Atlas.Proofs

open Atlas Atlas.Identity Atlas.Task Atlas.Runtime Atlas.Store Atlas.Service Txn

def LiveControlCommand.isPending (c : LiveControlCommand) : Bool := c.status = .pending

/-- The states in which a controller acts. -/
def Controlled (s : LiveSession) : Prop := s.state = .agentControlled ∨ s.state = .humanControlled

structure LiveInv (db : LiveDb) : Prop where
  absent : db.session = none → db.leases = [] ∧ db.commands = [] ∧ db.grants = []
  ticketed : db.session ≠ none → Ticketed db
  oneLease : Rows.AtMostOne ControlLease.isCurrent db.leases
  onePending : Rows.AtMostOne LiveControlCommand.isPending db.commands
  leaseIds : ∀ l ∈ db.leases, l.id < db.nextId
  commandIds : ∀ c ∈ db.commands, c.id < db.nextId
  grantIds : ∀ g ∈ db.grants, g.grantId < db.nextId
  commandKeys : (db.commands.map LiveControlCommand.id).Nodup
  grantKeys : (db.grants.map LiveActionGrant.grantId).Nodup
  fence : ∀ s, db.session = some s → ∀ l ∈ db.leases,
    (l.controlEpoch ≤ s.controlEpoch ∧ l.fencingToken ≤ s.fencingToken) ∧
    (l.isCurrent = true → l.controlEpoch = s.controlEpoch ∧ l.fencingToken = s.fencingToken)
  pending : ∀ s, db.session = some s → ∀ c ∈ db.commands, c.status = .pending →
    s.state = (requestedState c.commandType).1 ∧ c.expectedControlEpoch = s.controlEpoch ∧
    c.requestedBy ≠ none ∧ (c.commandType ≠ .resume → ∃ l ∈ db.leases, l.isCurrent = true)
  waiting : ∀ s, db.session = some s →
    s.state = .quiescing ∨ s.state = .resumeRequested ∨ s.state = .reconciling →
    ∃ c ∈ db.commands, c.status = .pending
  controlled : ∀ s, db.session = some s → Controlled s →
    ∃ l ∈ db.leases, l.state = .active
  uncontrolled : ∀ s, db.session = some s →
    s.state = .paused ∨ s.state = .resumeRequested ∨ s.state = .noController →
    ∀ l ∈ db.leases, l.isCurrent = false
  revoked : ∀ s, db.session = some s → ¬ Controlled s → ∀ g ∈ db.grants, g.state ≠ .issued
  opened : ∀ s, db.session = some s → s.state ≠ .closed

/-! ### The rows after a statement -/

@[simp] theorem revokeGrant_id (g : LiveActionGrant) : (revokeGrant g).grantId = g.grantId := by
  unfold revokeGrant
  split <;> rfl

theorem revokeGrant_not_issued (g : LiveActionGrant) : (revokeGrant g).state ≠ .issued := by
  unfold revokeGrant
  split
  · simp
  · assumption

@[simp] theorem consumeRow_id (db : LiveDb) (grantId : Uuid) (now : Instant) (g : LiveActionGrant) :
    (consumeRow db grantId now g).grantId = g.grantId := by
  unfold consumeRow
  split <;> rfl

theorem issued_of_consumeRow {db : LiveDb} {grantId : Uuid} {now : Instant} {g : LiveActionGrant}
    (h : (consumeRow db grantId now g).state = .issued) : g.state = .issued := by
  unfold consumeRow at h
  split at h
  · simp at h
  · exact h

@[simp] theorem completeRow_id (grant : LiveActionGrant) (request : CompleteLiveActionGrant)
    (g : LiveActionGrant) : (completeRow grant request g).grantId = g.grantId := by
  unfold completeRow
  split <;> rfl

theorem issued_of_completeRow {grant : LiveActionGrant} {request : CompleteLiveActionGrant}
    {g : LiveActionGrant} (h : (completeRow grant request g).state = .issued) : g.state = .issued := by
  unfold completeRow at h
  split at h
  · simp at h
  · exact h

@[simp] theorem rejectCommand_id (c : LiveControlCommand) : (rejectCommand c).id = c.id := by
  unfold rejectCommand
  split <;> rfl

theorem rejectCommand_not_pending (c : LiveControlCommand) : (rejectCommand c).status ≠ .pending := by
  unfold rejectCommand
  split
  · simp
  · assumption

@[simp] theorem applyCommand_id (s : LiveSession) (command : LiveControlCommand) (d : Digest)
    (c : LiveControlCommand) : (applyCommand s command d c).id = c.id := by
  unfold applyCommand
  split <;> rfl

theorem pending_of_applyCommand {s : LiveSession} {command c : LiveControlCommand} {d : Digest}
    (h : (applyCommand s command d c).status = .pending) : c.status = .pending ∧ c.id ≠ command.id := by
  unfold applyCommand at h
  split at h
  · simp at h
  · next hc => exact ⟨h, fun hid => hc ⟨hid, h⟩⟩

/-- A rewrite of a lease row that keeps its authority and never revives it. -/
structure LeaseRewrite (f : ControlLease → ControlLease) : Prop where
  id : ∀ l, (f l).id = l.id
  controlEpoch : ∀ l, (f l).controlEpoch = l.controlEpoch
  fencingToken : ∀ l, (f l).fencingToken = l.fencingToken
  current : ∀ l, (f l).isCurrent = true → l.isCurrent = true

theorem leaseRewrite_ite {p : ControlLease → Prop} [DecidablePred p] {f : ControlLease → ControlLease}
    (hf : ∀ l, p l → (f l).id = l.id ∧ (f l).controlEpoch = l.controlEpoch ∧
      (f l).fencingToken = l.fencingToken ∧ ((f l).isCurrent = true → l.isCurrent = true)) :
    LeaseRewrite fun l => if p l then f l else l := by
  refine ⟨fun l => ?_, fun l => ?_, fun l => ?_, fun l h => ?_⟩
  · split
    · exact (hf l ‹_›).1
    · rfl
  · split
    · exact (hf l ‹_›).2.1
    · rfl
  · split
    · exact (hf l ‹_›).2.2.1
    · rfl
  · split at h
    · exact (hf l ‹_›).2.2.2 h
    · exact h

theorem leaseRewrite_startRevoking : LeaseRewrite startRevoking :=
  leaseRewrite_ite fun l hl => ⟨rfl, rfl, rfl, fun _ => by simp [ControlLease.isCurrent, hl]⟩

theorem leaseRewrite_release : LeaseRewrite releaseLeaseRow :=
  leaseRewrite_ite fun _ hl => ⟨rfl, rfl, rfl, fun _ => hl⟩

theorem leaseRewrite_expire (s : LiveSession) (lease : ControlLease) (now : Instant) :
    LeaseRewrite (expireLease s lease now) :=
  leaseRewrite_ite fun _ _ => ⟨rfl, rfl, rfl, fun h => by simp [ControlLease.isCurrent] at h⟩

theorem leaseRewrite_renew (q : ControlLease → Bool) (expiresAt : Instant) :
    LeaseRewrite fun l => if q l then { l with expiresAt := expiresAt } else l :=
  leaseRewrite_ite fun _ _ => ⟨rfl, rfl, rfl, fun h => h⟩

theorem startRevoking_current (l : ControlLease) : (startRevoking l).isCurrent = l.isCurrent := by
  unfold startRevoking
  split
  · next h => simp [ControlLease.isCurrent, h]
  · rfl

theorem releaseLeaseRow_not_current (l : ControlLease) : (releaseLeaseRow l).isCurrent = false := by
  unfold releaseLeaseRow
  split
  · simp [ControlLease.isCurrent]
  · next h => simpa using h

theorem current_of_active {l : ControlLease} (h : l.state = .active) : l.isCurrent = true := by
  simp [ControlLease.isCurrent, h]

theorem mem_getCurrentLease {db : LiveDb} {l : ControlLease} (h : db.getCurrentLease = some l) :
    l ∈ db.leases ∧ l.isCurrent = true := by
  have hmem := Rows.newest_mem h
  exact List.mem_filter.1 hmem

theorem getPendingCommand_eq_none {db : LiveDb} :
    db.getPendingCommand = none ↔ ∀ c ∈ db.commands, c.status ≠ .pending := by
  simp [LiveDb.getPendingCommand, List.find?_eq_none]

/-! ### Moves that leave the controller where it is -/

/-- State and fence stay, leases keep their state, and a grant is only issued to a controller. -/
structure Steady (db db' : LiveDb) : Prop where
  frame : LiveFrame db db'
  session : ∀ s', db'.session = some s' → ∃ s, db.session = some s ∧ s'.state = s.state ∧
    s'.controlEpoch = s.controlEpoch ∧ s'.fencingToken = s.fencingToken ∧
    s'.humanInfluenced = s.humanInfluenced
  absent : db'.session = none → db.session = none
  leases : ∃ f, LeaseRewrite f ∧ (∀ l, (f l).state = l.state) ∧ db'.leases = db.leases.map f
  commands : db'.commands = db.commands
  grants : ∃ f new, (∀ g, (f g).grantId = g.grantId ∧ ((f g).state = .issued → g.state = .issued)) ∧
    db'.grants = db.grants.map f ++ new ∧ (new = [] ∨ ∃ g s, new = [g] ∧ db.session = some s ∧
      Controlled s ∧ db.nextId ≤ g.grantId ∧ g.grantId < db'.nextId)

theorem leaseRewrite_id : LeaseRewrite id := ⟨fun _ => rfl, fun _ => rfl, fun _ => rfl, fun _ => id⟩

theorem leases_same {db db' : LiveDb} (h : db'.leases = db.leases) :
    ∃ f, LeaseRewrite f ∧ (∀ l : ControlLease, (f l).state = l.state) ∧ db'.leases = db.leases.map f :=
  ⟨id, leaseRewrite_id, fun _ => rfl, by rw [List.map_id, h]⟩

theorem LiveUntouched.steady {db db' : LiveDb} (h : LiveUntouched db db') : Steady db db' := by
  refine ⟨h.frame, fun s' hs => ⟨s', h.session_eq ▸ hs, rfl, rfl, rfl, rfl⟩, fun hs => h.session_eq ▸ hs,
    leases_same h.leases_eq, h.commands_eq, id, [], fun _ => ⟨rfl, id⟩, ?_, Or.inl rfl⟩
  rw [h.grants_eq, List.map_id, List.append_nil]

theorem LiveRenewed.steady {db db' : LiveDb} {now : Instant} (h : LiveRenewed now db db') : Steady db db' := by
  obtain ⟨q, expiresAt, -, hleases⟩ := h.leases
  refine ⟨h.frame, fun s' hs => ⟨s', h.session_eq ▸ hs, rfl, rfl, rfl, rfl⟩, fun hs => h.session_eq ▸ hs,
    ⟨_, leaseRewrite_renew q expiresAt, fun l => ?_, hleases⟩, h.commands_eq, id, [],
    fun _ => ⟨rfl, id⟩, ?_, Or.inl rfl⟩
  · split <;> rfl
  · rw [h.grants_eq, List.map_id, List.append_nil]

theorem LiveIssued.steady {db db' : LiveDb} {now : Instant} {s : LiveSession} {l : ControlLease}
    {g : LiveActionGrant} (h : LiveIssued now s l g db db') : Steady db db' := by
  refine ⟨h.frame, fun s' hs => ⟨s', by rw [h.held, ← h.session_eq, hs], rfl, rfl, rfl, rfl⟩, fun hs => ?_,
    leases_same h.leases_eq, h.commands_eq, id, [g], fun _ => ⟨rfl, id⟩, ?_,
    Or.inr ⟨g, s, rfl, h.held, h.controlled, h.fresh, h.bounded⟩⟩
  · rw [h.session_eq] at hs
    simp at hs
  · rw [h.grants_eq, List.map_id]

theorem LiveConsumed.steady {db db' : LiveDb} {now : Instant} {g : LiveActionGrant}
    (h : LiveConsumed now g db db') : Steady db db' := by
  refine ⟨h.frame, fun s' hs => ⟨s', h.session_eq ▸ hs, rfl, rfl, rfl, rfl⟩, fun hs => h.session_eq ▸ hs,
    leases_same h.leases_eq, h.commands_eq, consumeRow db g.grantId now, [],
    fun _ => ⟨consumeRow_id _ _ _ _, issued_of_consumeRow⟩, ?_, Or.inl rfl⟩
  rw [h.grants_eq, List.append_nil]

theorem LiveCompleted.steady {db db' : LiveDb} {request : CompleteLiveActionGrant} {s : LiveSession}
    {g : LiveActionGrant} (h : LiveCompleted request s g db db') : Steady db db' := by
  refine ⟨h.frame, fun s' hs => ⟨s, h.held, ?_⟩, fun hs => ?_, leases_same h.leases_eq,
    h.commands_eq, completeRow g request, [], fun _ => ⟨completeRow_id _ _ _, issued_of_completeRow⟩, ?_, Or.inl rfl⟩
  · rw [h.session_eq] at hs
    obtain rfl := Option.some.inj hs
    exact ⟨rfl, rfl, rfl, rfl⟩
  · rw [h.session_eq] at hs
    simp at hs
  · rw [h.grants_eq, List.append_nil]

namespace LiveInv

variable {db db' : LiveDb} {now : Instant}

/-! ### Every move keeps the invariant -/

theorem steady (h : LiveInv db) (hm : Steady db db') : LiveInv db' := by
  obtain ⟨⟨ha, ht, hn⟩, hsession, habsent, ⟨f, hf, hstate, hl⟩, hc, r, new, hr, hg, hnew⟩ := hm
  have hcurrent : ∀ l, (f l).isCurrent = l.isCurrent := fun l => by
    simp only [ControlLease.isCurrent, hstate]
  refine ⟨fun hs => ?_, fun hs => ?_, ?_, ?_, ?_, ?_, ?_, ?_, ?_, ?_, ?_, ?_, ?_, ?_, ?_, ?_⟩
  · obtain ⟨h₁, h₂, h₃⟩ := h.absent (habsent hs)
    refine ⟨by rw [hl, h₁, List.map_nil], by rw [hc, h₂], ?_⟩
    rcases hnew with rfl | ⟨g, s, -, hheld, -⟩
    · rw [hg, h₃, List.map_nil, List.append_nil]
    · rw [habsent hs] at hheld
      simp at hheld
  · obtain ⟨s', hs'⟩ := Option.ne_none_iff_exists'.1 hs
    obtain ⟨s, hs, -⟩ := hsession s' hs'
    unfold Ticketed
    rw [ha, ht]
    exact h.ticketed (by rw [hs]; simp)
  · rw [hl]
    exact h.oneLease.map hf.current
  · rw [hc]
    exact h.onePending
  · rw [hl]
    intro l hl'
    obtain ⟨l, hmem, rfl⟩ := List.mem_map.1 hl'
    rw [hf.id]
    exact (h.leaseIds l hmem).trans_le hn
  · rw [hc]
    exact fun c hc => (h.commandIds c hc).trans_le hn
  · rw [hg]
    intro g hg'
    rcases List.mem_append.1 hg' with hg' | hg'
    · obtain ⟨g, hmem, rfl⟩ := List.mem_map.1 hg'
      rw [(hr g).1]
      exact (h.grantIds g hmem).trans_le hn
    · rcases hnew with rfl | ⟨g', s, rfl, -, -, -, hlt⟩
      · simp at hg'
      · obtain rfl := List.mem_singleton.1 hg'
        exact hlt
  · rw [hc]
    exact h.commandKeys
  · have hmap : (db.grants.map r).map LiveActionGrant.grantId = db.grants.map LiveActionGrant.grantId := by
      rw [List.map_map]
      exact List.map_congr_left fun g _ => (hr g).1
    rw [hg, List.map_append, hmap]
    rcases hnew with rfl | ⟨g', s, rfl, -, -, hle, -⟩
    · simpa using h.grantKeys
    · refine List.nodup_append.2 ⟨h.grantKeys, List.nodup_singleton _, ?_⟩
      intro a ha b hb hab
      obtain ⟨g, hmem, rfl⟩ := List.mem_map.1 ha
      obtain rfl := List.mem_singleton.1 hb
      exact absurd hab ((h.grantIds g hmem).trans_le hle).ne
  · intro s' hs' l hl'
    obtain ⟨s, hs, -, he, hf', -⟩ := hsession s' hs'
    rw [hl] at hl'
    obtain ⟨l, hmem, rfl⟩ := List.mem_map.1 hl'
    rw [hf.controlEpoch, hf.fencingToken, hcurrent, he, hf']
    exact h.fence s hs l hmem
  · intro s' hs' c hc' hpending
    obtain ⟨s, hs, hst, he, -⟩ := hsession s' hs'
    rw [hc] at hc'
    obtain ⟨h₁, h₂, h₃, h₄⟩ := h.pending s hs c hc' hpending
    refine ⟨hst.trans h₁, h₂.trans he.symm, h₃, fun hresume => ?_⟩
    obtain ⟨l, hmem, hcur⟩ := h₄ hresume
    exact ⟨f l, by rw [hl]; exact List.mem_map_of_mem hmem, by rw [hcurrent, hcur]⟩
  · intro s' hs' hst'
    obtain ⟨s, hs, hst, -⟩ := hsession s' hs'
    rw [hc]
    exact h.waiting s hs (by rwa [hst] at hst')
  · intro s' hs' hst'
    obtain ⟨s, hs, hst, -⟩ := hsession s' hs'
    obtain ⟨l, hmem, hact⟩ := h.controlled s hs (by rwa [Controlled, hst] at hst')
    exact ⟨f l, by rw [hl]; exact List.mem_map_of_mem hmem, by rw [hstate, hact]⟩
  · intro s' hs' hst' l hl'
    obtain ⟨s, hs, hst, -⟩ := hsession s' hs'
    rw [hl] at hl'
    obtain ⟨l, hmem, rfl⟩ := List.mem_map.1 hl'
    rw [hcurrent]
    exact h.uncontrolled s hs (by rwa [hst] at hst') l hmem
  · intro s' hs' hst' g hg'
    obtain ⟨s, hs, hst, -⟩ := hsession s' hs'
    have hfree : ¬ Controlled s := by rwa [Controlled, hst] at hst'
    rw [hg] at hg'
    rcases List.mem_append.1 hg' with hg' | hg'
    · obtain ⟨g, hmem, rfl⟩ := List.mem_map.1 hg'
      exact fun hi => h.revoked s hs hfree g hmem ((hr g).2 hi)
    · rcases hnew with rfl | ⟨g', s₂, rfl, hs₂, hctl, -⟩
      · simp at hg'
      · rw [hs] at hs₂
        obtain rfl := Option.some.inj hs₂
        exact absurd hctl hfree
  · intro s' hs'
    obtain ⟨s, hs, hst, -⟩ := hsession s' hs'
    rw [hst]
    exact h.opened s hs

theorem initialized {s : LiveSession} {l : ControlLease} (h : LiveInv db)
    (hm : LiveInitialized now s l db db') : LiveInv db' := by
  obtain ⟨hl, hc, hg⟩ := h.absent hm.absent
  have hleases : db'.leases = [l] := by rw [hm.leases_eq, hl, List.nil_append]
  have hcommands : db'.commands = [] := by rw [hm.commands_eq, hc]
  have hgrants : db'.grants = [] := by rw [hm.grants_eq, hg]
  have hsession : ∀ s', db'.session = some s' → s' = s := fun s' hs => by
    rw [hm.session_eq] at hs
    exact (Option.some.inj hs).symm
  refine ⟨fun hs => ?_, fun _ => ?_, ?_, ?_, ?_, ?_, ?_, ?_, ?_, ?_, ?_, ?_, ?_, ?_, ?_, ?_⟩
  · rw [hm.session_eq] at hs
    simp at hs
  · unfold Ticketed
    rw [hm.frame.attempt, hm.frame.ticket]
    exact hm.ticketed
  · rw [hleases]
    exact List.pairwise_singleton _ _
  · rw [hcommands]
    exact Rows.AtMostOne.nil
  · simpa [hleases] using hm.bounded
  · simp [hcommands]
  · simp [hgrants]
  · simp [hcommands]
  · simp [hgrants]
  · intro s' hs l' hl'
    obtain rfl := hsession s' hs
    obtain rfl := List.mem_singleton.1 (hleases ▸ hl')
    exact ⟨⟨hm.opened.controlEpoch.le, hm.opened.fencingToken.le⟩,
      fun _ => ⟨hm.opened.controlEpoch, hm.opened.fencingToken⟩⟩
  · simp [hcommands]
  · intro s' hs hst
    rw [hsession s' hs, hm.state] at hst
    simp at hst
  · intro s' hs _
    exact ⟨l, by simp [hleases], hm.opened.active⟩
  · intro s' hs hst
    rw [hsession s' hs, hm.state] at hst
    simp at hst
  · simp [hgrants]
  · intro s' hs
    rw [hsession s' hs, hm.state]
    simp

theorem expired {s : LiveSession} {lease : ControlLease} (h : LiveInv db)
    (hm : LiveExpired now s lease db db') : LiveInv db' := by
  obtain ⟨due, hdue, hexpires⟩ := hm.due
  have hf := leaseRewrite_expire s lease now
  have hsession : ∀ s', db'.session = some s' → s'.state = .noController ∧
      s'.controlEpoch = s.controlEpoch + 1 ∧ s'.fencingToken = s.fencingToken + 1 := fun s' hs => by
    rw [hm.session_eq] at hs
    obtain rfl := Option.some.inj hs
    exact ⟨rfl, rfl, rfl⟩
  -- the row that is due is the only current one
  have hnone : ∀ l ∈ db'.leases, l.isCurrent = false := by
    rw [hm.leases_eq]
    intro l hl
    obtain ⟨l, hmem, rfl⟩ := List.mem_map.1 hl
    by_contra hcur
    rw [Bool.not_eq_false] at hcur
    have hcur' := hf.current l hcur
    have hdc : due.isCurrent = true := by
      simp only [expires, Bool.and_eq_true] at hexpires
      exact hexpires.1.1.1.2
    obtain rfl := h.oneLease.unique hmem hdue hcur' hdc
    simp [expireLease, hexpires, ControlLease.isCurrent] at hcur
  have hpending : ∀ c ∈ db'.commands, c.status ≠ .pending := by
    rw [hm.commands_eq]
    intro c hc
    obtain ⟨c, -, rfl⟩ := List.mem_map.1 hc
    exact rejectCommand_not_pending c
  refine ⟨fun hs => ?_, fun _ => ?_, ?_, ?_, ?_, ?_, ?_, ?_, ?_, ?_, ?_, ?_, ?_, ?_, ?_, ?_⟩
  · rw [hm.session_eq] at hs
    simp at hs
  · unfold Ticketed
    rw [hm.frame.attempt, hm.frame.ticket]
    exact h.ticketed (by rw [hm.held]; simp)
  · rw [hm.leases_eq]
    exact h.oneLease.map hf.current
  · rw [hm.commands_eq]
    exact h.onePending.map fun c hc =>
      absurd (by simpa [LiveControlCommand.isPending] using hc) (rejectCommand_not_pending c)
  · rw [hm.leases_eq]
    intro l hl
    obtain ⟨l, hmem, rfl⟩ := List.mem_map.1 hl
    rw [hf.id]
    exact (h.leaseIds l hmem).trans_le hm.frame.nextId
  · rw [hm.commands_eq]
    intro c hc
    obtain ⟨c, hmem, rfl⟩ := List.mem_map.1 hc
    rw [rejectCommand_id]
    exact (h.commandIds c hmem).trans_le hm.frame.nextId
  · rw [hm.grants_eq]
    intro g hg
    obtain ⟨g, hmem, rfl⟩ := List.mem_map.1 hg
    rw [revokeGrant_id]
    exact (h.grantIds g hmem).trans_le hm.frame.nextId
  · rw [hm.commands_eq, List.map_map]
    simpa only [Function.comp_def, rejectCommand_id] using h.commandKeys
  · rw [hm.grants_eq, List.map_map]
    simpa only [Function.comp_def, revokeGrant_id] using h.grantKeys
  · intro s' hs l hl
    obtain ⟨-, he, hft⟩ := hsession s' hs
    refine ⟨?_, fun hcur => ?_⟩
    · rw [hm.leases_eq] at hl
      obtain ⟨l, hmem, rfl⟩ := List.mem_map.1 hl
      rw [hf.controlEpoch, hf.fencingToken, he, hft]
      obtain ⟨h₁, h₂⟩ := (h.fence s hm.held l hmem).1
      exact ⟨h₁.trans (Nat.le_succ _), h₂.trans (Nat.le_succ _)⟩
    · rw [hnone l hl] at hcur
      simp at hcur
  · exact fun _ _ c hc hp => absurd hp (hpending c hc)
  · intro s' hs hst
    rw [(hsession s' hs).1] at hst
    simp at hst
  · intro s' hs hst
    rw [Controlled, (hsession s' hs).1] at hst
    simp at hst
  · exact fun _ _ _ => hnone
  · intro s' _ _ g hg
    rw [hm.grants_eq] at hg
    obtain ⟨g, -, rfl⟩ := List.mem_map.1 hg
    exact revokeGrant_not_issued g
  · intro s' hs
    rw [(hsession s' hs).1]
    simp

theorem requested {commandType : LiveControlCommandType} {s : LiveSession}
    {command : LiveControlCommand} (h : LiveInv db)
    (hm : LiveRequested now commandType s command db db') : LiveInv db' := by
  have hnone := getPendingCommand_eq_none.1 hm.nonePending
  have hsession : ∀ s', db'.session = some s' → s'.state = (requestedState commandType).1 ∧
      s'.controlEpoch = s.controlEpoch ∧ s'.fencingToken = s.fencingToken := fun s' hs => by
    rw [hm.session_eq] at hs
    obtain rfl := Option.some.inj hs
    exact ⟨rfl, rfl, rfl⟩
  have hleases : ∃ f, LeaseRewrite f ∧ (∀ l, (f l).isCurrent = l.isCurrent) ∧
      db'.leases = db.leases.map f := by
    rw [hm.leases_eq]
    split
    · exact ⟨id, leaseRewrite_id, fun _ => rfl, (List.map_id _).symm⟩
    · exact ⟨startRevoking, leaseRewrite_startRevoking, startRevoking_current, rfl⟩
  obtain ⟨f, hf, hcurrent, hl⟩ := hleases
  -- a Resume leaves PAUSED, where no grant is open and no lease current
  have hpaused : commandType = .resume → s.state = .paused := by
    rintro rfl
    exact hm.state
  refine ⟨fun hs => ?_, fun _ => ?_, ?_, ?_, ?_, ?_, ?_, ?_, ?_, ?_, ?_, ?_, ?_, ?_, ?_, ?_⟩
  · rw [hm.session_eq] at hs
    simp at hs
  · unfold Ticketed
    rw [hm.frame.attempt, hm.frame.ticket]
    exact h.ticketed (by rw [hm.held]; simp)
  · rw [hl]
    exact h.oneLease.map hf.current
  · rw [hm.commands_eq]
    exact Rows.AtMostOne.append fun c hc => by simpa [LiveControlCommand.isPending] using hnone c hc
  · rw [hl]
    intro l hl'
    obtain ⟨l, hmem, rfl⟩ := List.mem_map.1 hl'
    rw [hf.id]
    exact (h.leaseIds l hmem).trans_le hm.frame.nextId
  · rw [hm.commands_eq]
    intro c hc
    rcases List.mem_append.1 hc with hc | hc
    · exact (h.commandIds c hc).trans_le hm.frame.nextId
    · obtain rfl := List.mem_singleton.1 hc
      exact hm.bounded
  · rw [hm.grants_eq]
    split
    · exact fun g hg => (h.grantIds g hg).trans_le hm.frame.nextId
    · intro g hg
      obtain ⟨g, hmem, rfl⟩ := List.mem_map.1 hg
      rw [revokeGrant_id]
      exact (h.grantIds g hmem).trans_le hm.frame.nextId
  · rw [hm.commands_eq, List.map_append]
    refine List.nodup_append.2 ⟨h.commandKeys, List.nodup_singleton _, ?_⟩
    intro a ha b hb hab
    obtain ⟨c, hmem, rfl⟩ := List.mem_map.1 ha
    obtain rfl := List.mem_singleton.1 hb
    exact absurd hab ((h.commandIds c hmem).trans_le hm.fresh).ne
  · rw [hm.grants_eq]
    split
    · exact h.grantKeys
    · rw [List.map_map]
      simpa only [Function.comp_def, revokeGrant_id] using h.grantKeys
  · intro s' hs l hl'
    obtain ⟨-, he, hft⟩ := hsession s' hs
    rw [hl] at hl'
    obtain ⟨l, hmem, rfl⟩ := List.mem_map.1 hl'
    rw [hf.controlEpoch, hf.fencingToken, hcurrent, he, hft]
    exact h.fence s hm.held l hmem
  · intro s' hs c hc hp
    obtain ⟨hst, he, -⟩ := hsession s' hs
    rw [hm.commands_eq] at hc
    rcases List.mem_append.1 hc with hc | hc
    · exact absurd hp (hnone c hc)
    · obtain rfl := List.mem_singleton.1 hc
      refine ⟨by rw [hst, hm.commandType_eq], hm.epoch.trans he.symm, hm.audited, fun hresume => ?_⟩
      obtain ⟨l, hlease, hact, -⟩ := hm.controller (hm.commandType_eq ▸ hresume)
      obtain ⟨hmem, hcur⟩ := mem_getCurrentLease hlease
      exact ⟨f l, by rw [hl]; exact List.mem_map_of_mem hmem, by rw [hcurrent, hcur]⟩
  · intro s' hs _
    exact ⟨command, by simp [hm.commands_eq], hm.pending⟩
  · intro s' hs hst
    rw [Controlled, (hsession s' hs).1] at hst
    cases commandType <;> simp [requestedState] at hst
  · intro s' hs hst l hl'
    rw [(hsession s' hs).1] at hst
    have hresume : commandType = .resume := by
      cases commandType <;> simp [requestedState] at hst ⊢
    rw [hl] at hl'
    obtain ⟨l, hmem, rfl⟩ := List.mem_map.1 hl'
    rw [hcurrent]
    exact h.uncontrolled s hm.held (Or.inl (hpaused hresume)) l hmem
  · intro s' _ _ g hg
    rw [hm.grants_eq] at hg
    split at hg
    · next hresume =>
      refine h.revoked s hm.held ?_ g hg
      rw [Controlled, hpaused hresume]
      simp
    · obtain ⟨g, -, rfl⟩ := List.mem_map.1 hg
      exact revokeGrant_not_issued g
  · intro s' hs
    rw [(hsession s' hs).1]
    cases commandType <;> simp [requestedState]

/-- Acknowledging closes the only open command. -/
theorem nonePending_of_acknowledged {request : AcknowledgeLiveControl} {s : LiveSession}
    {command : LiveControlCommand} (h : LiveInv db)
    (hm : LiveAcknowledged now request s command db db') : ∀ c ∈ db'.commands, c.status ≠ .pending := by
  rw [hm.commands_eq]
  intro c hc hp
  obtain ⟨c, hmem, rfl⟩ := List.mem_map.1 hc
  obtain ⟨hp, hne⟩ := pending_of_applyCommand hp
  have hcommand : command ∈ db.commands := List.mem_of_find?_eq_some hm.found
  have := h.onePending.unique hmem hcommand (by simpa [LiveControlCommand.isPending] using hp)
    (by simpa [LiveControlCommand.isPending] using hm.pending)
  exact hne (by rw [this])

theorem acknowledged {request : AcknowledgeLiveControl} {s : LiveSession}
    {command : LiveControlCommand} (h : LiveInv db)
    (hm : LiveAcknowledged now request s command db db') : LiveInv db' := by
  have hcommand : command ∈ db.commands := List.mem_of_find?_eq_some hm.found
  have hrequested := (h.pending s hm.held command hcommand hm.pending).1
  have hnone := h.nonePending_of_acknowledged hm
  have hf := leaseRewrite_release
  obtain ⟨opened, hl, howner⟩ := hm.leases_eq
  have hsession : ∀ s', db'.session = some s' → s'.state = ackState command.commandType ∧
      s'.controlEpoch = s.controlEpoch + 1 ∧ s'.fencingToken = s.fencingToken + 1 := fun s' hs => by
    rw [hm.session_eq] at hs
    obtain rfl := Option.some.inj hs
    exact ⟨rfl, rfl, rfl⟩
  have hold : ∀ l ∈ db.leases.map releaseLeaseRow, l.isCurrent = false := by
    intro l hl
    obtain ⟨l, -, rfl⟩ := List.mem_map.1 hl
    exact releaseLeaseRow_not_current l
  -- no grant was open while the command was
  have hrevoked : ∀ g ∈ db.grants, g.state ≠ .issued := by
    refine h.revoked s hm.held ?_
    rw [Controlled, hrequested]
    cases command.commandType <;> simp [requestedState]
  refine ⟨fun hs => ?_, fun _ => ?_, ?_, ?_, ?_, ?_, ?_, ?_, ?_, ?_, ?_, ?_, ?_, ?_, ?_, ?_⟩
  · rw [hm.session_eq] at hs
    simp at hs
  · unfold Ticketed
    rw [hm.frame.attempt, hm.frame.ticket]
    exact h.ticketed (by rw [hm.held]; simp)
  · rw [hl]
    rcases howner with ⟨-, rfl⟩ | ⟨_, _, -, rfl, -⟩
    · rw [List.append_nil]
      exact h.oneLease.map hf.current
    · exact Rows.AtMostOne.append hold
  · rw [hm.commands_eq]
    refine h.onePending.map fun c hc => ?_
    simp only [LiveControlCommand.isPending, decide_eq_true_eq] at hc ⊢
    exact (pending_of_applyCommand hc).1
  · rw [hl]
    intro l hl'
    rcases List.mem_append.1 hl' with hl' | hl'
    · obtain ⟨l, hmem, rfl⟩ := List.mem_map.1 hl'
      rw [hf.id]
      exact (h.leaseIds l hmem).trans_le hm.frame.nextId
    · rcases howner with ⟨-, rfl⟩ | ⟨_, _, -, rfl, -, hlt⟩
      · simp at hl'
      · obtain rfl := List.mem_singleton.1 hl'
        exact hlt
  · rw [hm.commands_eq]
    intro c hc
    obtain ⟨c, hmem, rfl⟩ := List.mem_map.1 hc
    rw [applyCommand_id]
    exact (h.commandIds c hmem).trans_le hm.frame.nextId
  · rw [hm.grants_eq]
    exact fun g hg => (h.grantIds g hg).trans_le hm.frame.nextId
  · rw [hm.commands_eq, List.map_map]
    simpa only [Function.comp_def, applyCommand_id] using h.commandKeys
  · rw [hm.grants_eq]
    exact h.grantKeys
  · intro s' hs l hl'
    obtain ⟨-, he, hft⟩ := hsession s' hs
    rw [he, hft]
    rw [hl] at hl'
    rcases List.mem_append.1 hl' with hl' | hl'
    · refine ⟨?_, fun hcur => ?_⟩
      · obtain ⟨l, hmem, rfl⟩ := List.mem_map.1 hl'
        rw [hf.controlEpoch, hf.fencingToken]
        obtain ⟨h₁, h₂⟩ := (h.fence s hm.held l hmem).1
        exact ⟨h₁.trans (Nat.le_succ _), h₂.trans (Nat.le_succ _)⟩
      · rw [hold l hl'] at hcur
        simp at hcur
    · rcases howner with ⟨-, rfl⟩ | ⟨_, _, -, rfl, ho, -⟩
      · simp at hl'
      · obtain rfl := List.mem_singleton.1 hl'
        exact ⟨⟨ho.controlEpoch.le, ho.fencingToken.le⟩, fun _ => ⟨ho.controlEpoch, ho.fencingToken⟩⟩
  · exact fun _ _ c hc hp => absurd hp (hnone c hc)
  · intro s' hs hst
    rw [(hsession s' hs).1] at hst
    cases hct : command.commandType <;> simp [hct, ackState] at hst
  · intro s' hs hst
    rw [Controlled, (hsession s' hs).1] at hst
    rcases howner with ⟨ho, -⟩ | ⟨_, l, -, rfl, ho, -⟩
    · cases hct : command.commandType <;> simp [hct, ackOwner, ackState] at ho hst
    · exact ⟨l, by simp [hl], ho.active⟩
  · intro s' hs hst l hl'
    rw [(hsession s' hs).1] at hst
    rcases howner with ⟨-, rfl⟩ | ⟨_, _, ho, -⟩
    · rw [hl, List.append_nil] at hl'
      exact hold l hl'
    · cases hct : command.commandType <;> simp [hct, ackOwner, ackState] at ho hst
  · rw [hm.grants_eq]
    exact fun _ _ _ => hrevoked
  · intro s' hs
    rw [(hsession s' hs).1]
    cases command.commandType <;> simp [ackState]

theorem move {c : LiveCall} (h : LiveInv db) (hm : LiveMove c now db db') : LiveInv db' := by
  cases hm with
  | untouched hm => exact h.steady hm.steady
  | initialized hm => exact h.initialized hm
  | renewed hm => exact h.steady hm.steady
  | expired hm => exact h.expired hm
  | requested hm => exact h.requested hm
  | acknowledged hm => exact h.acknowledged hm
  | issued hm _ _ => exact h.steady hm.steady
  | consumed hm => exact h.steady hm.steady
  | completed hm => exact h.steady hm.steady

theorem initial {s : LiveState} (h : LiveInitial s) : LiveInv s.db := by
  obtain ⟨hs, hl, hc, hg⟩ := h
  refine ⟨fun _ => ⟨hl, hc, hg⟩, fun h => absurd hs h, ?_, ?_, ?_, ?_, ?_, ?_, ?_, ?_, ?_, ?_, ?_, ?_, ?_,
    ?_⟩ <;> simp [hs, hl, hc, hg, Rows.AtMostOne]

/-- The Attempt's own state moves on; its scope stays. -/
theorem attempt (h : LiveInv db) (state : ExecutionState) :
    LiveInv { db with attempt := db.attempt.map fun a => { a with toExecutionState := state } } := by
  refine ⟨h.absent, fun hs => ?_, h.oneLease, h.onePending, h.leaseIds, h.commandIds, h.grantIds,
    h.commandKeys, h.grantKeys, h.fence, h.pending, h.waiting, h.controlled, h.uncontrolled, h.revoked,
    h.opened⟩
  obtain ⟨a, t, ha, ht, hscope⟩ := h.ticketed hs
  exact ⟨{ a with toExecutionState := state }, t, by simp [ha], ht, hscope⟩

end LiveInv

theorem liveInv_step {s s' : LiveState} (hstep : LiveStep s s') (h : LiveInv s.db) : LiveInv s'.db := by
  cases hstep with
  | call c now hclock => exact h.move (move_of_after c now s.db)
  | attempt state => exact h.attempt state

theorem liveInv_run {s s' : LiveState} (hrun : LiveRun s s') (h : LiveInv s.db) : LiveInv s'.db :=
  run_keeps (I := fun s : LiveState => LiveInv s.db) (fun _ _ => liveInv_step) hrun h

theorem liveInv_of_reachable {s : LiveState} (h : LiveReachable s) : LiveInv s.db := by
  obtain ⟨s₀, hinit, hrun⟩ := h
  exact liveInv_run hrun (LiveInv.initial hinit)

end Atlas.Proofs
