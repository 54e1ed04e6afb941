import AtlasTestOps.Service.LiveControl

/-! What one call can do to the rows of a LiveSession: nothing, or one of eight moves. Every
invariant of live control is derived from the moves, never from the calls. -/

namespace Atlas.Proofs

open Atlas Atlas.Identity Atlas.Task Atlas.Runtime Atlas.Store Atlas.Service Txn

/-! ### The statements row by row -/

def revokeGrant (g : LiveActionGrant) : LiveActionGrant :=
  if g.state = .issued then { g with state := .revoked } else g

def rejectCommand (c : LiveControlCommand) : LiveControlCommand :=
  if c.status = .pending then { c with status := .rejected } else c

def startRevoking (l : ControlLease) : ControlLease :=
  if l.state = .active then { l with state := .revoking } else l

def releaseLeaseRow (l : ControlLease) : ControlLease :=
  if l.isCurrent then { l with state := .released } else l

def expireLease (session : LiveSession) (lease : ControlLease) (now : Instant) (l : ControlLease) :
    ControlLease :=
  if expires session lease now l then { l with state := .expired } else l

def consumeRow (db : LiveDb) (grantId : Uuid) (now : Instant) (g : LiveActionGrant) : LiveActionGrant :=
  if g.grantId = grantId ∧ db.consumable g now = true then { g with state := .consumed } else g

def completeRow (grant : LiveActionGrant) (request : CompleteLiveActionGrant) (g : LiveActionGrant) :
    LiveActionGrant :=
  if g.grantId = grant.grantId ∧ g.state = .consumed ∧ g.controlEpoch = grant.controlEpoch ∧
      g.fencingToken = grant.fencingToken then
    { g with state := .completed, receiptId := some request.receiptId
             executionStatus := some request.executionStatus
             resultingPageRevision := some request.resultingPageRevision }
  else g

def applyCommand (session : LiveSession) (command : LiveControlCommand) (checkpoint : Digest)
    (c : LiveControlCommand) : LiveControlCommand :=
  if c.id = command.id ∧ c.status = .pending then
    { c with status := .applied, resultingControlEpoch := some (session.controlEpoch + 1)
             resultingFencingToken := some (session.fencingToken + 1)
             checkpointDigest := some checkpoint }
  else c

/-! ### The moves -/

/-- What live control never writes; ids are only drawn upwards. -/
structure LiveFrame (db db' : LiveDb) : Prop where
  attempt : db'.attempt = db.attempt
  ticket : db'.ticket = db.ticket
  nextId : db.nextId ≤ db'.nextId

/-- Attempt and ticket are there and belong together. -/
def Ticketed (db : LiveDb) : Prop :=
  ∃ attempt ticket, db.attempt = some attempt ∧ db.ticket = some ticket ∧
    ticket.toUnitScope = attempt.toUnitScope

/-- The columns of a lease just opened under the fence of its session. -/
structure LeaseOpened (nextId : Uuid) (session : LiveSession) (ownerType : LiveControllerType)
    (now : Instant) (lease : ControlLease) : Prop where
  fresh : nextId ≤ lease.id
  ownerType : lease.ownerType = ownerType
  controlEpoch : lease.controlEpoch = session.controlEpoch
  fencingToken : lease.fencingToken = session.fencingToken
  active : lease.state = .active
  unexpired : now < lease.expiresAt

/-- The new owner that an acknowledgement installs, by the command it applies. -/
def ackOwner : LiveControlCommandType → Option LiveControllerType
  | .pause => none
  | .takeover => some .human
  | .resume => some .agent
  | .return => some .agent

def ackState : LiveControlCommandType → LiveSessionState
  | .pause => .paused
  | .takeover => .humanControlled
  | .resume => .agentControlled
  | .return => .agentControlled

structure LiveInitialized (now : Instant) (session : LiveSession) (lease : ControlLease)
    (db db' : LiveDb) : Prop where
  frame : LiveFrame db db'
  absent : db.session = none
  ticketed : Ticketed db
  state : session.state = .agentControlled
  opened : LeaseOpened db.nextId session .agent now lease
  bounded : lease.id < db'.nextId
  session_eq : db'.session = some session
  leases_eq : db'.leases = db.leases ++ [lease]
  commands_eq : db'.commands = db.commands
  grants_eq : db'.grants = db.grants

/-- Active leases that have not run out run longer, and nothing else changes. -/
structure LiveRenewed (now : Instant) (db db' : LiveDb) : Prop where
  frame : LiveFrame db db'
  session_eq : db'.session = db.session
  leases : ∃ (q : ControlLease → Bool) (expiresAt : Instant), (∀ l, q l → l.state = .active ∧ now < l.expiresAt) ∧
    db'.leases = db.leases.map fun l => if q l then { l with expiresAt := expiresAt } else l
  commands_eq : db'.commands = db.commands
  grants_eq : db'.grants = db.grants

structure LiveExpired (now : Instant) (session : LiveSession) (lease : ControlLease)
    (db db' : LiveDb) : Prop where
  frame : LiveFrame db db'
  held : db.session = some session
  current : db.getCurrentLease = some lease
  due : ∃ l ∈ db.leases, expires session lease now l = true
  session_eq : db'.session = some { session with
    state := .noController, controlEpoch := session.controlEpoch + 1
    fencingToken := session.fencingToken + 1, revision := session.revision + 1 }
  leases_eq : db'.leases = db.leases.map (expireLease session lease now)
  commands_eq : db'.commands = db.commands.map rejectCommand
  grants_eq : db'.grants = db.grants.map revokeGrant

structure LiveRequested (now : Instant) (commandType : LiveControlCommandType) (session : LiveSession)
    (command : LiveControlCommand) (db db' : LiveDb) : Prop where
  frame : LiveFrame db db'
  held : db.session = some session
  state : session.state = expectedState commandType
  nonePending : db.getPendingCommand = none
  controller : commandType ≠ .resume → ∃ lease, db.getCurrentLease = some lease ∧
    lease.state = .active ∧ now < lease.expiresAt
  pending : command.status = .pending
  commandType_eq : command.commandType = commandType
  epoch : command.expectedControlEpoch = session.controlEpoch
  audited : command.requestedBy ≠ none
  fresh : db.nextId ≤ command.id
  bounded : command.id < db'.nextId
  session_eq : db'.session = some { session with
    state := (requestedState commandType).1, revision := session.revision + 1 }
  leases_eq : db'.leases =
    if commandType = .resume then db.leases else db.leases.map startRevoking
  commands_eq : db'.commands = db.commands ++ [command]
  grants_eq : db'.grants = if commandType = .resume then db.grants else db.grants.map revokeGrant

structure LiveAcknowledged (now : Instant) (request : AcknowledgeLiveControl) (session : LiveSession)
    (command : LiveControlCommand) (db db' : LiveDb) : Prop where
  frame : LiveFrame db db'
  held : db.session = some session
  found : db.getCommand request.commandId = some command
  pending : command.status = .pending
  epoch : command.expectedControlEpoch = session.controlEpoch
  revision : session.browserRevision ≤ request.browserRevision
  safe : db.hasInflightAction = false
  session_eq : db'.session = some { session with
    state := ackState command.commandType, controlEpoch := session.controlEpoch + 1
    fencingToken := session.fencingToken + 1, browserRevision := request.browserRevision
    humanInfluenced := session.humanInfluenced || command.commandType = .takeover
    revision := session.revision + 1 }
  leases_eq : ∃ opened : List ControlLease, db'.leases = db.leases.map releaseLeaseRow ++ opened ∧
    (ackOwner command.commandType = none ∧ opened = [] ∨
      ∃ owner lease, ackOwner command.commandType = some owner ∧ opened = [lease] ∧
        LeaseOpened db.nextId { session with
          controlEpoch := session.controlEpoch + 1, fencingToken := session.fencingToken + 1 }
          owner now lease ∧ lease.id < db'.nextId)
  commands_eq : db'.commands = db.commands.map (applyCommand session command request.checkpointDigest)
  grants_eq : db'.grants = db.grants

structure LiveIssued (now : Instant) (session : LiveSession) (lease : ControlLease)
    (grant : LiveActionGrant) (db db' : LiveDb) : Prop where
  frame : LiveFrame db db'
  held : db.session = some session
  controlled : session.state = .agentControlled ∨ session.state = .humanControlled
  current : db.getCurrentLease = some lease
  active : lease.state = .active ∧ now < lease.expiresAt
  issued : grant.state = .issued
  controlEpoch : grant.controlEpoch = session.controlEpoch
  fencingToken : grant.fencingToken = session.fencingToken
  leaseId : grant.controlLeaseId = lease.id
  page : grant.pageRevision = session.browserRevision
  unexpired : now < grant.expiresAt
  fresh : db.nextId ≤ grant.grantId
  bounded : grant.grantId < db'.nextId
  session_eq : db'.session = some session
  leases_eq : db'.leases = db.leases
  commands_eq : db'.commands = db.commands
  grants_eq : db'.grants = db.grants ++ [grant]

structure LiveConsumed (now : Instant) (grant : LiveActionGrant) (db db' : LiveDb) : Prop where
  frame : LiveFrame db db'
  found : db.getActionGrant grant.grantId = some grant
  consumable : ∃ g ∈ db.grants, g.grantId = grant.grantId ∧ db.consumable g now = true
  session_eq : db'.session = db.session
  leases_eq : db'.leases = db.leases
  commands_eq : db'.commands = db.commands
  grants_eq : db'.grants = db.grants.map (consumeRow db grant.grantId now)

structure LiveCompleted (request : CompleteLiveActionGrant) (session : LiveSession)
    (grant : LiveActionGrant) (db db' : LiveDb) : Prop where
  frame : LiveFrame db db'
  held : db.session = some session
  found : db.getActionGrant grant.grantId = some grant
  consumed : grant.state = .consumed
  revision : session.browserRevision ≤ request.resultingPageRevision
  session_eq : db'.session = some { session with
    browserRevision := request.resultingPageRevision, revision := session.revision + 1 }
  leases_eq : db'.leases = db.leases
  commands_eq : db'.commands = db.commands
  grants_eq : db'.grants = db.grants.map (completeRow grant request)

structure LiveUntouched (db db' : LiveDb) : Prop where
  frame : LiveFrame db db'
  session_eq : db'.session = db.session
  leases_eq : db'.leases = db.leases
  commands_eq : db'.commands = db.commands
  grants_eq : db'.grants = db.grants

/-- What the call did. Only the request of a grant under a new action adds one. -/
inductive LiveMove (c : LiveCall) (now : Instant) (db db' : LiveDb) : Prop
  | untouched (h : LiveUntouched db db')
  | initialized {session : LiveSession} {lease : ControlLease} (h : LiveInitialized now session lease db db')
  | renewed (h : LiveRenewed now db db')
  | expired {session : LiveSession} {lease : ControlLease} (h : LiveExpired now session lease db db')
  | requested {commandType : LiveControlCommandType} {session : LiveSession}
      {command : LiveControlCommand} (h : LiveRequested now commandType session command db db')
  | acknowledged {request : AcknowledgeLiveControl} {session : LiveSession}
      {command : LiveControlCommand} (h : LiveAcknowledged now request session command db db')
  | issued {session : LiveSession} {lease : ControlLease} {grant : LiveActionGrant}
      (h : LiveIssued now session lease grant db db') {request : RequestLiveActionGrant} {worker : String}
      (call_eq : c = .issue request worker) (new : db.getActionGrantByAction request.actionId = none)
  | consumed {grant : LiveActionGrant} (h : LiveConsumed now grant db db')
      {request : ConsumeLiveActionGrant} (call_eq : c = .consume grant.grantId request)
  | completed {request : CompleteLiveActionGrant} {session : LiveSession} {grant : LiveActionGrant}
      (h : LiveCompleted request session grant db db')

theorem LiveFrame.refl (db : LiveDb) : LiveFrame db db := ⟨rfl, rfl, le_rfl⟩

theorem LiveUntouched.refl (db : LiveDb) : LiveUntouched db db := ⟨.refl db, rfl, rfl, rfl, rfl⟩

/-! ### The statements of the repository -/

@[simp] theorem commits_newLiveId {db db' : LiveDb} {id : Uuid} :
    Commits newLiveId db id db' ↔ id = db.nextId ∧ db' = { db with nextId := db.nextId + 1 } := by
  simp only [newLiveId, commits_bind, commits_read, commits_update, commits_pure]
  constructor
  · rintro ⟨_, _, ⟨rfl, rfl⟩, _, _, rfl, rfl, rfl⟩
    exact ⟨rfl, rfl⟩
  · rintro ⟨rfl, rfl⟩
    exact ⟨_, _, ⟨rfl, rfl⟩, (), _, rfl, rfl, rfl⟩

theorem commits_updateLiveSession {db db' : LiveDb} {session out : LiveSession}
    {wanted : LiveSession → Bool} {f : LiveSession → LiveSession} {lost : String}
    (hs : db.session = some session) (hw : wanted session = true) :
    Commits (updateLiveSession wanted f lost) db out db' ↔
      guardLiveSessionUpdate session (f session) = none ∧ out = f session ∧
        db' = { db with session := some (f session) } := by
  simp only [updateLiveSession, commits_bind, GuardedTable.commits_guarded, commits_demand,
    GuardedTable.Admits, GuardedTable.rewrite, liveSessionTable, hs, Option.toList_some,
    List.mem_singleton, forall_eq, hw, forall_const, Option.map_eq_none_iff, List.filter_cons,
    List.filter_nil, if_true, List.map_cons, List.map_nil, List.head?_cons]
  constructor
  · rintro ⟨_, _, ⟨hg, rfl, rfl⟩, hout, rfl⟩
    exact ⟨hg, by simpa using hout.symm, rfl⟩
  · rintro ⟨hg, rfl, rfl⟩
    exact ⟨_, _, ⟨hg, rfl, rfl⟩, rfl, rfl⟩

theorem untouched_of_liveSnapshot {db db' : LiveDb} {session : LiveSession}
    {out : UnitAttemptLiveSnapshot} (h : Commits (liveSnapshot session) db out db') : db' = db := by
  simp only [liveSnapshot, commits_bind, commits_read, commits_raiseIf, commits_pure] at h
  obtain ⟨_, _, ⟨rfl, rfl⟩, _, _, ⟨rfl, rfl⟩, _, _, ⟨-, rfl⟩, rfl, rfl⟩ := h
  rfl

theorem commits_loadAttemptAndTicket {db db' : LiveDb} {a : UnitAttempt} {t : TaskUnitExecutionTicket} :
    Commits loadAttemptAndTicket db (a, t) db' ↔
      db.attempt = some a ∧ db.ticket = some t ∧ t.toUnitScope = a.toUnitScope ∧ db' = db := by
  simp only [loadAttemptAndTicket, commits_bind, commits_read, commits_demand, commits_raiseIf,
    commits_pure, Prod.mk.injEq]
  constructor
  · rintro ⟨_, _, ⟨rfl, rfl⟩, _, _, ⟨rfl, rfl⟩, _, _, ⟨ha, rfl⟩, _, _, ⟨ht, rfl⟩, _, _, ⟨hscope, rfl⟩,
      ⟨rfl, rfl⟩, rfl⟩
    exact ⟨ha, ht, not_not.1 hscope, rfl⟩
  · rintro ⟨ha, ht, hscope, rfl⟩
    exact ⟨_, _, ⟨rfl, rfl⟩, _, _, ⟨rfl, rfl⟩, _, _, ⟨ha, rfl⟩, _, _, ⟨ht, rfl⟩, (), _,
      ⟨not_not.2 hscope, rfl⟩, ⟨rfl, rfl⟩, rfl⟩

theorem commits_newControlLease {db db' : LiveDb} {session : LiveSession}
    {ownerType : LiveControllerType} {ownerId : String} {expiresAt now : Instant} {lease : ControlLease} :
    Commits (newControlLease session ownerType ownerId expiresAt now) db lease db' ↔
      now < expiresAt ∧ db' = { db with nextId := db.nextId + 1 } ∧
        lease = { id := db.nextId, ownerType := ownerType, ownerId := ownerId
                  controlEpoch := session.controlEpoch, fencingToken := session.fencingToken
                  state := .active, expiresAt := expiresAt } := by
  simp only [newControlLease, commits_bind, commits_newLiveId, commits_raiseIf, commits_pure, not_le]
  constructor
  · rintro ⟨_, _, ⟨rfl, rfl⟩, _, _, ⟨hlt, rfl⟩, rfl, rfl⟩
    exact ⟨hlt, rfl, rfl⟩
  · rintro ⟨hlt, rfl, rfl⟩
    exact ⟨_, _, ⟨rfl, rfl⟩, (), _, ⟨hlt, rfl⟩, rfl, rfl⟩

theorem commits_createControlLease {db db' : LiveDb} {lease : ControlLease} {u : Unit} :
    Commits (createControlLease lease) db u db' ↔
      (∀ l ∈ db.leases, l.controlEpoch ≠ lease.controlEpoch ∧ l.fencingToken ≠ lease.fencingToken ∧
        l.isCurrent = false) ∧ db' = { db with leases := db.leases ++ [lease] } := by
  simp only [createControlLease, commits_bind, commits_read, commits_raiseIf, commits_update,
    List.any_eq_true, decide_eq_true_eq, not_exists, not_and, Bool.not_eq_true]
  constructor
  · rintro ⟨_, _, ⟨rfl, rfl⟩, _, _, ⟨h₁, rfl⟩, _, _, ⟨h₂, rfl⟩, _, _, ⟨h₃, rfl⟩, rfl⟩
    exact ⟨fun l hl => ⟨h₁ l hl, h₂ l hl, h₃ l hl⟩, rfl⟩
  · rintro ⟨h, rfl⟩
    exact ⟨_, _, ⟨rfl, rfl⟩, (), _, ⟨fun l hl => (h l hl).1, rfl⟩, (), _, ⟨fun l hl => (h l hl).2.1, rfl⟩,
      (), _, ⟨fun l hl => (h l hl).2.2, rfl⟩, rfl⟩

@[simp] theorem commits_appendLiveEvent {db db' : LiveDb} {session : LiveSession} {eventType : String}
    {occurredAt : Instant} {u : Unit} :
    Commits (appendLiveEvent session eventType occurredAt) db u db' ↔
      db' = { db with events := db.events ++
        [⟨(db.events.map LiveControlEvent.seq).foldl max 0 + 1, eventType, session.controlEpoch,
          session.fencingToken, occurredAt⟩] } := by
  simp [appendLiveEvent]

theorem commits_createLiveCommand {db db' : LiveDb} {command : LiveControlCommand} {u : Unit} :
    Commits (createLiveCommand command) db u db' ↔
      (∀ c ∈ db.commands, c.clientMutationId ≠ command.clientMutationId ∧ c.status ≠ .pending) ∧
        db' = { db with commands := db.commands ++ [command] } := by
  simp only [createLiveCommand, commits_bind, commits_read, commits_raiseIf, commits_update,
    List.any_eq_true, decide_eq_true_eq, not_exists, not_and]
  constructor
  · rintro ⟨_, _, ⟨rfl, rfl⟩, _, _, ⟨h₁, rfl⟩, _, _, ⟨h₂, rfl⟩, rfl⟩
    exact ⟨fun c hc => ⟨h₁ c hc, h₂ c hc⟩, rfl⟩
  · rintro ⟨h, rfl⟩
    exact ⟨_, _, ⟨rfl, rfl⟩, (), _, ⟨fun c hc => (h c hc).1, rfl⟩, (), _, ⟨fun c hc => (h c hc).2, rfl⟩, rfl⟩

/-! ### The updates -/

theorem rewrite_leases (p : ControlLease → Bool) (f : ControlLease → ControlLease) (db : LiveDb) :
    liveLeaseTable.rewrite p f db =
      { db with leases := db.leases.map fun l => if p l then f l else l } := rfl

theorem rewrite_commands (p : LiveControlCommand → Bool)
    (f : LiveControlCommand → LiveControlCommand) (db : LiveDb) :
    liveCommandTable.rewrite p f db =
      { db with commands := db.commands.map fun c => if p c then f c else c } := rfl

theorem rewrite_grants (p : LiveActionGrant → Bool) (f : LiveActionGrant → LiveActionGrant)
    (db : LiveDb) : liveGrantTable.rewrite p f db =
      { db with grants := db.grants.map fun g => if p g then f g else g } := rfl

theorem eq_of_revokeIssuedGrants {db db' : LiveDb} {u : Unit}
    (h : Commits revokeIssuedGrants db u db') :
    db' = { db with grants := db.grants.map revokeGrant } := by
  simp only [revokeIssuedGrants, commits_discard, GuardedTable.commits_guarded, rewrite_grants] at h
  obtain ⟨_, -, -, rfl⟩ := h
  simp [revokeGrant]

/-- An update that returns no row selected none. -/
theorem map_of_head?_none {α : Type} {rows : List α} {p : α → Bool} {f : α → α}
    (h : ((rows.filter p).map f).head? = none) : (rows.map fun a => if p a then f a else a) = rows := by
  rw [List.head?_eq_none_iff, List.map_eq_nil_iff, List.filter_eq_nil_iff] at h
  refine (List.map_congr_left fun a ha => ?_).trans (List.map_id _)
  exact if_neg (h a ha)

theorem exists_of_head?_some {α : Type} {rows : List α} {p : α → Bool} {f : α → α} {b : α}
    (h : ((rows.filter p).map f).head? = some b) : ∃ a ∈ rows, p a = true := by
  have hmem := List.mem_of_mem_head? h
  rw [List.mem_map] at hmem
  obtain ⟨a, ha, -⟩ := hmem
  exact ⟨a, (List.mem_filter.1 ha).1, (List.mem_filter.1 ha).2⟩

theorem commits_createLiveSession {db db' : LiveDb} {session : LiveSession} {out : Option LiveSession}
    (hs : db.session = none) : Commits (createLiveSession session) db out db' ↔
      out = some session ∧ db' = { db with session := some session } := by
  rw [createLiveSession, commits_read_bind, hs]
  simp only [Option.isSome_none, Bool.false_eq_true, if_false, commits_bind, commits_update, commits_pure]
  constructor
  · rintro ⟨_, _, rfl, rfl, rfl⟩
    exact ⟨rfl, rfl⟩
  · rintro ⟨rfl, rfl⟩
    exact ⟨(), _, rfl, rfl, rfl⟩

/-! ### The calls -/

theorem expired_of_commits {db db' : LiveDb} {session : LiveSession} {lease : ControlLease}
    {now : Instant} {out : Option LiveSession} (hs : db.session = some session)
    (hlease : db.getCurrentLease = some lease)
    (h : Commits (expireControl session lease now) db out db') :
    LiveUntouched db db' ∨ LiveExpired now session lease db db' := by
  simp only [expireControl, expireCurrentControl, commits_bind, GuardedTable.commits_guarded,
    rewrite_leases] at h
  obtain ⟨r, m, ⟨rows, m₁, ⟨-, hrows, rfl⟩, hr⟩, h⟩ := h
  cases hhead : rows.head? with
  | none =>
    -- no row was due, so the update rewrote nothing
    simp only [hhead, commits_pure] at hr
    obtain ⟨rfl, rfl⟩ := hr
    simp only [commits_pure] at h
    obtain ⟨-, rfl⟩ := h
    rw [hrows] at hhead
    exact Or.inl ⟨⟨rfl, rfl, le_rfl⟩, rfl, map_of_head?_none hhead, rfl, rfl⟩
  | some expired =>
    simp only [hhead, commits_bind, commits_discard, GuardedTable.commits_guarded, commits_pure,
      rewrite_commands] at hr
    obtain ⟨_, m₂, hrevoke, _, m₃, ⟨_, -, -, rfl⟩, s', m₄, hsession, rfl, rfl⟩ := hr
    obtain rfl := eq_of_revokeIssuedGrants hrevoke
    obtain ⟨-, rfl, rfl⟩ :=
      (@commits_updateLiveSession _ _ session _ _ _ _ (by exact hs) (by simp)).1 hsession
    simp only [commits_bind, commits_appendLiveEvent, commits_pure] at h
    obtain ⟨_, _, rfl, -, rfl⟩ := h
    rw [hrows] at hhead
    refine Or.inr ⟨⟨rfl, rfl, le_rfl⟩, hs, hlease, exists_of_head?_some hhead, rfl, rfl, ?_, rfl⟩
    simp [rejectCommand]

theorem move_of_initialize {c : LiveCall} {db db' : LiveDb} {request : InitializeLiveSession} {worker : String}
    {now : Instant} {out : UnitAttemptLiveSnapshot}
    (h : Commits (initializeLive request worker now) db out db') : LiveMove c now db db' := by
  simp only [initializeLive, commits_raiseIf_bind, commits_read_bind] at h
  obtain ⟨-, h⟩ := h
  cases hs : db.session with
  | some existing =>
    simp only [hs, commits_read_bind, commits_raiseIf_bind] at h
    obtain rfl := untouched_of_liveSnapshot h.2
    exact .untouched (.refl _)
  | none =>
    simp only [hs, commits_bind, commits_raiseIf, commits_newLiveId, commits_demand,
      commits_newControlLease, commits_createControlLease, commits_appendLiveEvent] at h
    obtain ⟨⟨attempt, ticket⟩, db₁, hload, _, _, ⟨-, rfl⟩, _, _, ⟨-, rfl⟩, _, _, ⟨rfl, rfl⟩, _, _,
      hcreate, _, _, ⟨hstored, rfl⟩, _, _, ⟨hlt, rfl, rfl⟩, _, _, ⟨-, rfl⟩, _, _, rfl, h⟩ := h
    obtain ⟨ha, ht, hscope, rfl⟩ := commits_loadAttemptAndTicket.1 hload
    obtain ⟨rfl, rfl⟩ := (commits_createLiveSession (by exact hs)).1 hcreate
    obtain rfl := Option.some.inj hstored
    obtain rfl := untouched_of_liveSnapshot h
    refine .initialized ⟨⟨rfl, rfl, ?_⟩, hs, ⟨attempt, ticket, ha, ht, hscope⟩, rfl,
      ⟨?_, rfl, rfl, rfl, rfl, hlt⟩, ?_, rfl, rfl, rfl, rfl⟩
    · exact (Nat.le_succ _).trans (Nat.le_succ _)
    · exact Nat.le_succ _
    · exact Nat.lt_succ_self _

theorem move_of_expire {c : LiveCall} {db db' : LiveDb} {session : LiveSession} {lease : ControlLease}
    {now : Instant} {out : Option LiveSession} (hs : db.session = some session)
    (hlease : db.getCurrentLease = some lease)
    (h : Commits (expireControl session lease now) db out db') : LiveMove c now db db' := by
  rcases expired_of_commits hs hlease h with h | h
  · exact .untouched h
  · exact .expired h

theorem eq_of_requireRuntimeSession {db db' : LiveDb} {session : LiveSession}
    (h : Commits requireRuntimeSession db session db') : db.session = some session ∧ db' = db := by
  simpa only [requireRuntimeSession, commits_read_bind, commits_demand] using h

theorem move_of_heartbeat {c : LiveCall} {db db' : LiveDb} {request : HeartbeatLiveControl} {worker : String}
    {now : Instant} {out : UnitAttemptLiveSnapshot}
    (h : Commits (heartbeatLive request worker now) db out db') : LiveMove c now db db' := by
  simp only [heartbeatLive, commits_bind, commits_read, commits_demand, commits_raiseIf,
    commits_ite] at h
  obtain ⟨session, _, hs, _, _, ⟨rfl, rfl⟩, lease, _, ⟨hlease, rfl⟩, _, _, ⟨-, rfl⟩, h⟩ := h
  obtain ⟨hs, rfl⟩ := eq_of_requireRuntimeSession hs
  rcases h with ⟨-, expired, m, hexpire, _, _, ⟨-, rfl⟩, h⟩ | ⟨-, ⟨attempt, ticket⟩, _, hload, h⟩
  · obtain rfl := untouched_of_liveSnapshot h
    exact move_of_expire hs hlease hexpire
  · obtain ⟨-, -, -, rfl⟩ := commits_loadAttemptAndTicket.1 hload
    rcases h with ⟨-, h⟩ | ⟨-, _, _, hrenew, _, _, ⟨-, rfl⟩, h⟩
    · obtain rfl := untouched_of_liveSnapshot h
      exact .untouched (.refl _)
    · rw [heartbeatControlLease, commits_read_bind] at hrenew
      simp only [commits_bind, GuardedTable.commits_guarded, rewrite_leases, commits_pure] at hrenew
      obtain ⟨_, _, ⟨-, -, rfl⟩, -, rfl⟩ := hrenew
      simp only [commits_pure] at h
      obtain ⟨-, rfl⟩ := h
      refine .renewed ⟨⟨rfl, rfl, le_rfl⟩, rfl, ⟨_, _, ?_, rfl⟩, rfl, rfl⟩
      intro l hl
      simp only [Bool.and_eq_true, decide_eq_true_eq] at hl
      exact ⟨hl.1.1.1.1.2, hl.1.1.1.2⟩

theorem move_of_reap {c : LiveCall} {db db' : LiveDb} {actor : ActorContext} {limit : ℕ} {now : Instant}
    {out : Option LiveSession} (h : Commits (reapExpiredLive actor limit now) db out db') :
    LiveMove c now db db' := by
  simp only [reapExpiredLive, commits_raiseIf_bind, commits_read_bind, commits_ite, commits_pure,
    id_eq] at h
  obtain ⟨-, -, ⟨-, h⟩ | ⟨-, -, rfl⟩⟩ := h
  · cases hs : db.session with
    | none =>
      simp only [hs, commits_pure] at h
      obtain ⟨-, rfl⟩ := h
      exact .untouched (.refl _)
    | some session =>
      cases hlease : db.getCurrentLease with
      | none =>
        simp only [hs, hlease, commits_pure] at h
        obtain ⟨-, rfl⟩ := h
        exact .untouched (.refl _)
      | some lease =>
        simp only [hs, hlease] at h
        exact move_of_expire hs hlease h
  · exact .untouched (.refl _)

theorem move_of_issue {db db' : LiveDb} {request : RequestLiveActionGrant} {worker : String}
    {now : Instant} {out : LiveActionGrant}
    (h : Commits (issueActionGrant request worker now) db out db') :
    LiveMove (.issue request worker) now db db' := by
  rw [issueActionGrant, commits_bind] at h
  obtain ⟨session, m, hs, h⟩ := h
  obtain ⟨hs, rfl⟩ := eq_of_requireRuntimeSession hs
  rw [commits_read_bind] at h
  cases hg : m.getActionGrantByAction request.actionId with
  | some existing =>
    simp only [hg, commits_bind, commits_raiseIf, commits_pure] at h
    obtain ⟨_, _, ⟨-, rfl⟩, -, rfl⟩ := h
    exact .untouched (.refl _)
  | none =>
    simp only [hg, requireGrantAuthority, createActionGrant, commits_bind, commits_read,
      commits_demand, commits_raiseIf, commits_newLiveId, commits_pure, commits_appendLiveEvent,
      commits_update, commits_ite] at h
    obtain ⟨_, _, ⟨rfl, rfl⟩, lease, _, ⟨_, _, ⟨hlease, rfl⟩, _, _, ⟨hauth, rfl⟩, _, _, ⟨hpage, rfl⟩,
      _, _, ⟨-, rfl⟩, rfl, rfl⟩, _, _, ⟨hlt, rfl⟩, _, _, ⟨rfl, rfl⟩, _, _, ⟨_, _, ⟨rfl, rfl⟩, hstored⟩,
      grant, _, ⟨hgrant, rfl⟩, _, _, rfl, -, rfl⟩ := h
    rcases hstored with ⟨-, rfl, -⟩ | ⟨-, _, _, rfl, rfl, rfl⟩
    · simp at hgrant
    · obtain rfl := Option.some.inj hgrant
      push Not at hauth hpage hlt
      obtain ⟨hstate, hactive, hexp, hepoch, hfence, hlepoch, hlfence⟩ := hauth
      refine .issued ⟨⟨rfl, rfl, Nat.le_succ _⟩, hs, ?_, hlease, ⟨hactive, hexp⟩, rfl, hepoch, hfence,
        rfl, hpage, hlt, le_rfl, Nat.lt_succ_self _, hs, rfl, rfl, rfl⟩ rfl hg
      by_cases ha : session.state = .agentControlled
      · exact Or.inl ha
      · exact Or.inr (hstate ha)

theorem consumed_of_commits {db db' : LiveDb} {grantId : Uuid} {request : ConsumeLiveActionGrant}
    {now : Instant} {out : LiveActionGrant}
    (h : Commits (consumeGrant grantId request now) db out db') :
    ∃ grant, grant.grantId = grantId ∧ LiveConsumed now grant db db' := by
  simp only [consumeGrant, consumeActionGrant, commits_bind, commits_read, commits_demand,
    commits_raiseIf, GuardedTable.commits_guarded, rewrite_grants, commits_pure,
    commits_appendLiveEvent, id_eq] at h
  obtain ⟨session, m, hs, _, _, ⟨rfl, rfl⟩, grant, _, ⟨hfound, rfl⟩, _, _, ⟨-, rfl⟩, _, _, ⟨-, rfl⟩,
    _, _, ⟨_, _, ⟨rfl, rfl⟩, rows, _, ⟨-, hrows, rfl⟩, rfl, rfl⟩, consumed, _, ⟨hhead, rfl⟩, _, _, rfl,
    -, rfl⟩ := h
  obtain ⟨hs, rfl⟩ := eq_of_requireRuntimeSession hs
  rw [hrows] at hhead
  obtain ⟨g, hg, hsel⟩ := exists_of_head?_some hhead
  have hid : grant.grantId = grantId := by
    simpa using List.find?_some (show List.find? _ _ = some grant from hfound)
  subst hid
  refine ⟨grant, rfl, ⟨rfl, rfl, le_rfl⟩, hfound, ⟨g, hg, ?_⟩, rfl, rfl, rfl, ?_⟩
  · simpa using hsel
  · simp [consumeRow]

theorem move_of_complete {c : LiveCall} {db db' : LiveDb} {grantId : Uuid} {request : CompleteLiveActionGrant}
    {now : Instant} {out : LiveActionGrant}
    (h : Commits (completeGrant grantId request now) db out db') : LiveMove c now db db' := by
  rw [completeGrant, commits_bind] at h
  obtain ⟨session, m, hs, h⟩ := h
  obtain ⟨hs, rfl⟩ := eq_of_requireRuntimeSession hs
  simp only [completeActionGrant, advanceBrowserRevision, commits_bind, commits_read,
    commits_demand, commits_raiseIf, GuardedTable.commits_guarded, rewrite_grants, commits_pure,
    commits_appendLiveEvent, commits_ite] at h
  obtain ⟨_, _, ⟨rfl, rfl⟩, grant, _, ⟨hfound, rfl⟩, _, _, ⟨-, rfl⟩, h⟩ := h
  rcases h with ⟨-, _, _, ⟨-, rfl⟩, -, rfl⟩ | ⟨-, _, _, ⟨hstate, rfl⟩, _, _, ⟨hrev, rfl⟩, _, _,
    ⟨rows, _, ⟨-, -, rfl⟩, -, rfl⟩, _, _, ⟨-, rfl⟩, updated, _, hadvance, _, _, rfl, -, rfl⟩
  · exact .untouched (.refl _)
  · obtain ⟨-, rfl, rfl⟩ :=
      (@commits_updateLiveSession _ _ session _ _ _ _ (by exact hs) (by simp)).1 hadvance
    have hid : grant.grantId = grantId := by
      simpa using List.find?_some (show List.find? _ _ = some grant from hfound)
    subst hid
    refine @LiveMove.completed _ _ _ _ request _ grant ⟨⟨rfl, rfl, le_rfl⟩, hs, hfound,
      not_not.1 hstate, not_lt.1 hrev, rfl, rfl, rfl, ?_⟩
    simp [completeRow, and_assoc]

theorem eq_of_validateTransition {db db' : LiveDb} {session : LiveSession}
    {lease : Option ControlLease} {commandType : LiveControlCommandType} {now : Instant} {u : Unit}
    (h : Commits (validateTransition session lease commandType now) db u db') :
    db' = db ∧ session.state = expectedState commandType ∧
      (commandType ≠ .resume → ∃ l, lease = some l ∧ l.state = .active ∧ now < l.expiresAt) := by
  simp only [validateTransition, commits_ite, commits_bind, commits_read, commits_demand,
    commits_raiseIf, commits_pure] at h
  obtain ⟨_, _, ⟨hstate, rfl⟩, _, _, ⟨hlease, rfl⟩, _, _, ⟨-, rfl⟩, _, _, ⟨-, rfl⟩, h⟩ := h
  refine ⟨?_, not_not.1 hstate, fun hresume => ?_⟩
  · rcases h with ⟨-, _, _, ⟨rfl, rfl⟩, _, _, ⟨-, rfl⟩, _, _, ⟨rfl, rfl⟩, -, rfl⟩ | ⟨-, -, rfl⟩ <;> rfl
  · cases lease with
    | none => simp [hresume] at hlease
    | some l =>
      simp only [hresume, ne_eq, not_false_eq_true, Option.all_some, decide_eq_true_eq, true_and,
        not_or, not_not, not_le] at hlease
      exact ⟨l, rfl, hlease.1, hlease.2.1⟩

theorem eq_of_requestTransition {db db' : LiveDb} {session updated : LiveSession}
    {commandType : LiveControlCommandType} (hs : db.session = some session)
    (h : Commits (requestTransition session (requestedState commandType).1
      (requestedState commandType).2) db updated db') :
    updated = { session with
      state := (requestedState commandType).1, revision := session.revision + 1 } ∧
    db' = { db with
      session := some updated
      leases := if commandType = .resume then db.leases else db.leases.map startRevoking
      grants := if commandType = .resume then db.grants else db.grants.map revokeGrant } := by
  simp only [requestTransition, commits_bind, commits_ite, commits_discard,
    GuardedTable.commits_guarded, rewrite_leases] at h
  rcases h with ⟨hrevoked, _, _, ⟨_, -, -, rfl⟩, _, _, hgrants, hupdate⟩ | ⟨hkept, hupdate⟩
  · have hresume : commandType ≠ .resume := by
      rintro rfl
      simp [requestedState] at hrevoked
    obtain rfl := eq_of_revokeIssuedGrants hgrants
    obtain ⟨-, rfl, rfl⟩ :=
      (@commits_updateLiveSession _ _ session _ _ _ _ (by exact hs) (by simp)).1 hupdate
    simp [hresume, startRevoking]
  · have hresume : commandType = .resume := by
      cases commandType <;> simp [requestedState] at hkept ⊢
    obtain ⟨-, rfl, rfl⟩ :=
      (@commits_updateLiveSession _ _ session _ _ _ _ (by exact hs) (by simp)).1 hupdate
    simp [hresume]

/-- A request is answered by the command stored under its key, or moves the session. -/
theorem requested_of_commits {db db' : LiveDb} {commandType : LiveControlCommandType}
    {actor : ActorContext} {request : RequestLiveControl} {epoch : ℕ} {key : String} {now : Instant}
    {command : LiveControlCommand} {replayed : Bool}
    (h : Commits (requestLive commandType actor request epoch key now) db (command, replayed) db') :
    (replayed = true ∧ db' = db) ∨
      ∃ session, replayed = false ∧ LiveRequested now commandType session command db db' := by
  rw [requestLive, commits_raiseIf_bind, commits_bind] at h
  obtain ⟨-, session, m, hoperable, h⟩ := h
  simp only [requireOperable, commits_bind, commits_read, commits_demand, commits_raiseIf,
    commits_pure] at hoperable
  obtain ⟨_, _, ⟨rfl, rfl⟩, _, _, ⟨hs, rfl⟩, _, _, ⟨-, rfl⟩, _, _, ⟨-, rfl⟩, _, _, ⟨hactor, rfl⟩, rfl,
    rfl⟩ := hoperable
  rw [commits_read_bind] at h
  cases hmut : m.getCommandByMutation key with
  | some existing =>
    simp only [hmut, commits_bind, commits_raiseIf, commits_pure, Prod.mk.injEq] at h
    obtain ⟨_, _, ⟨-, rfl⟩, ⟨-, rfl⟩, rfl⟩ := h
    exact Or.inl ⟨rfl, rfl⟩
  | none =>
    simp only [hmut, commits_bind, commits_read, commits_raiseIf, commits_newLiveId, commits_pure,
      commits_appendLiveEvent, commits_createLiveCommand, Prod.mk.injEq] at h
    obtain ⟨_, _, ⟨hepoch, rfl⟩, _, _, ⟨rfl, rfl⟩, _, _, ⟨hpending, rfl⟩, lease, _, ⟨rfl, rfl⟩, _, _,
      hvalid, updated, m₁, htransition, _, _, ⟨rfl, rfl⟩, _, _, ⟨-, rfl⟩, _, _, rfl, ⟨rfl, rfl⟩, rfl⟩ := h
    obtain ⟨rfl, hstate, hcontroller⟩ := eq_of_validateTransition hvalid
    obtain ⟨rfl, rfl⟩ := eq_of_requestTransition hs htransition
    refine Or.inr ⟨session, rfl, ⟨rfl, rfl, Nat.le_succ _⟩, hs, hstate, by simpa using hpending,
      hcontroller, rfl, rfl, (not_not.1 hepoch).symm, hactor, le_rfl, Nat.lt_succ_self _, rfl, rfl,
      rfl, rfl⟩

theorem move_of_request {c : LiveCall} {db db' : LiveDb} {commandType : LiveControlCommandType}
    {actor : ActorContext} {request : RequestLiveControl} {epoch : ℕ} {key : String} {now : Instant}
    {out : LiveControlCommand × Bool}
    (h : Commits (requestLive commandType actor request epoch key now) db out db') :
    LiveMove c now db db' := by
  rcases requested_of_commits h with ⟨-, rfl⟩ | ⟨session, -, h⟩
  · exact .untouched (.refl _)
  · exact .requested h

theorem eq_of_ackTarget {db db' : LiveDb} {command : LiveControlCommand}
    {request : AcknowledgeLiveControl} {state : LiveSessionState}
    {owner : Option (LiveControllerType × String × ℕ)}
    (h : Commits (ackTarget command request) db (state, owner) db') :
    db' = db ∧ state = ackState command.commandType ∧ owner.map Prod.fst = ackOwner command.commandType := by
  unfold ackTarget at h
  cases hc : command.commandType <;>
    simp only [hc, commits_bind, commits_demand, commits_pure, Prod.mk.injEq] at h
  · obtain ⟨⟨rfl, rfl⟩, rfl⟩ := h
    exact ⟨rfl, rfl, rfl⟩
  · obtain ⟨⟨rfl, rfl⟩, rfl⟩ := h
    exact ⟨rfl, rfl, rfl⟩
  · obtain ⟨_, _, ⟨-, rfl⟩, ⟨rfl, rfl⟩, rfl⟩ := h
    exact ⟨rfl, rfl, rfl⟩
  · obtain ⟨⟨rfl, rfl⟩, rfl⟩ := h
    exact ⟨rfl, rfl, rfl⟩

theorem eq_of_applyTransition {db db' : LiveDb} {session updated : LiveSession}
    {command : LiveControlCommand} {state : LiveSessionState} {browserRevision : ℕ}
    {humanInfluenced : Bool} {checkpoint : Digest} (hs : db.session = some session)
    (h : Commits (applyTransition session command state browserRevision humanInfluenced checkpoint)
      db updated db') :
    updated = { session with
      state := state, controlEpoch := session.controlEpoch + 1
      fencingToken := session.fencingToken + 1, browserRevision := browserRevision
      humanInfluenced := humanInfluenced, revision := session.revision + 1 } ∧
    db' = { db with
      session := some updated
      leases := db.leases.map releaseLeaseRow
      commands := db.commands.map (applyCommand session command checkpoint) } := by
  simp only [applyTransition, commits_bind, commits_discard, GuardedTable.commits_guarded,
    rewrite_leases, rewrite_commands, commits_raiseIf, commits_pure] at h
  obtain ⟨_, _, ⟨_, -, -, rfl⟩, _, _, hupdate, _, _, ⟨-, -, rfl⟩, _, _, ⟨-, rfl⟩, rfl, rfl⟩ := h
  obtain ⟨-, rfl, rfl⟩ :=
    (@commits_updateLiveSession _ _ session _ _ _ _ (by exact hs) (by simp)).1 hupdate
  refine ⟨rfl, ?_⟩
  simp [releaseLeaseRow, applyCommand]

theorem move_of_acknowledge {c : LiveCall} {db db' : LiveDb} {request : AcknowledgeLiveControl} {worker : String}
    {now : Instant} {out : UnitAttemptLiveSnapshot}
    (h : Commits (acknowledgeLive request worker now) db out db') : LiveMove c now db db' := by
  rw [acknowledgeLive, commits_bind] at h
  obtain ⟨session, m, hs, h⟩ := h
  obtain ⟨hs, rfl⟩ := eq_of_requireRuntimeSession hs
  simp only [commits_bind, commits_read, commits_demand, commits_ite, commits_raiseIf] at h
  obtain ⟨_, _, ⟨rfl, rfl⟩, command, _, ⟨hfound, rfl⟩, h⟩ := h
  rcases h with ⟨-, _, _, ⟨-, rfl⟩, h⟩ | ⟨-, _, _, ⟨hpending, rfl⟩, _, _, ⟨hepoch, rfl⟩, _, _,
    ⟨hrev, rfl⟩, _, _, ⟨rfl, rfl⟩, _, _, ⟨hsafe, rfl⟩, ⟨attempt, ticket⟩, _, hload, ⟨state, owner⟩, _,
    htarget, _, _, ⟨-, rfl⟩, updated, m₁, happly, h⟩
  · obtain rfl := untouched_of_liveSnapshot h
    exact .untouched (.refl _)
  · obtain ⟨ha, ht, hscope, rfl⟩ := commits_loadAttemptAndTicket.1 hload
    obtain ⟨rfl, rfl, howner⟩ := eq_of_ackTarget htarget
    obtain ⟨rfl, rfl⟩ := eq_of_applyTransition hs happly
    push Not at hpending hepoch hrev
    cases owner with
    | none =>
      simp only [commits_bind, commits_appendLiveEvent] at h
      obtain ⟨_, _, rfl, h⟩ := h
      obtain rfl := untouched_of_liveSnapshot h
      exact .acknowledged ⟨⟨rfl, rfl, le_rfl⟩, hs, hfound, hpending, hepoch.1, hrev, by simpa using hsafe,
        rfl, ⟨[], by simp, Or.inl ⟨howner.symm, rfl⟩⟩, rfl, rfl⟩
    | some o =>
      obtain ⟨ownerType, ownerId, ttl⟩ := o
      simp only [commits_bind, commits_raiseIf, commits_newControlLease, commits_createControlLease,
        commits_appendLiveEvent] at h
      obtain ⟨_, _, ⟨-, rfl⟩, lease, _, ⟨hlt, rfl, rfl⟩, _, _, ⟨-, rfl⟩, _, _, rfl, h⟩ := h
      obtain rfl := untouched_of_liveSnapshot h
      exact .acknowledged ⟨⟨rfl, rfl, Nat.le_succ _⟩, hs, hfound, hpending, hepoch.1, hrev,
        by simpa using hsafe, rfl,
        ⟨_, rfl, Or.inr ⟨ownerType, _, howner.symm, rfl, ⟨le_rfl, rfl, rfl, rfl, rfl, hlt⟩,
          Nat.lt_succ_self _⟩⟩, rfl, rfl⟩

/-! ### The step lemma -/

theorem move_of_call {db db' : LiveDb} {c : LiveCall} {now : Instant} {u : Unit}
    (h : Commits (c.run now) db u db') : LiveMove c now db db' := by
  cases c with
  | initializeSession request worker =>
    obtain ⟨_, h⟩ := commits_discard.1 h
    exact move_of_initialize h
  | heartbeat request worker =>
    obtain ⟨_, h⟩ := commits_discard.1 h
    exact move_of_heartbeat h
  | pause actor request epoch key =>
    obtain ⟨_, h⟩ := commits_discard.1 h
    exact move_of_request h
  | resume actor request epoch key =>
    obtain ⟨_, h⟩ := commits_discard.1 h
    exact move_of_request h
  | takeover actor request epoch key =>
    obtain ⟨_, h⟩ := commits_discard.1 h
    exact move_of_request h
  | returnControl actor request epoch key =>
    obtain ⟨_, h⟩ := commits_discard.1 h
    exact move_of_request h
  | acknowledge request worker =>
    obtain ⟨_, h⟩ := commits_discard.1 h
    exact move_of_acknowledge h
  | issue request worker =>
    obtain ⟨_, h⟩ := commits_discard.1 h
    exact move_of_issue h
  | consume grantId request =>
    obtain ⟨_, h⟩ := commits_discard.1 h
    obtain ⟨grant, rfl, hconsumed⟩ := consumed_of_commits h
    exact .consumed hconsumed rfl
  | complete grantId request =>
    obtain ⟨_, h⟩ := commits_discard.1 h
    exact move_of_complete h
  | reapExpired actor limit =>
    obtain ⟨_, h⟩ := commits_discard.1 h
    exact move_of_reap h

/-- A call that raises leaves the rows untouched. -/
theorem move_of_after (c : LiveCall) (now : Instant) (db : LiveDb) :
    LiveMove c now db (after (c.run now) db) := by
  rcases after_eq (c.run now) db with h | ⟨_, h⟩
  · rw [h]
    exact .untouched (.refl _)
  · exact move_of_call h

end Atlas.Proofs
