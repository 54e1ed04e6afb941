import AtlasTestOps.Lib.Guarded
import AtlasTestOps.Lib.Rows
import AtlasTestOps.Identity.Models
import AtlasTestOps.Task.Models
import AtlasTestOps.Runtime.Control

/-! `LiveControlRepository`: the rows of one UnitAttempt and the statements on them. Every
statement names its session, its Attempt or a row of it, so the rows of another UnitAttempt
neither change nor matter. -/

namespace Atlas.Store

open Atlas Atlas.Identity Atlas.Task Atlas.Runtime Txn

structure LiveDb where
  attempt : Option UnitAttempt
  ticket : Option TaskUnitExecutionTicket
  environments : List Environment
  session : Option LiveSession
  leases : List ControlLease
  commands : List LiveControlCommand
  grants : List LiveActionGrant
  events : List LiveControlEvent
  nextId : Uuid
deriving DecidableEq, Repr

abbrev LiveOp (α : Type) := Tx LiveDb Fault α

def liveLeaseTable : GuardedTable LiveDb Fault ControlLease where
  rows := LiveDb.leases
  store db rows := { db with leases := rows }
  guard old new := (guardControlLeaseUpdate old new).map Fault.constraint

def liveCommandTable : GuardedTable LiveDb Fault LiveControlCommand where
  rows := LiveDb.commands
  store db rows := { db with commands := rows }
  guard old new := (guardLiveControlCommandUpdate old new).map Fault.constraint

def liveGrantTable : GuardedTable LiveDb Fault LiveActionGrant where
  rows := LiveDb.grants
  store db rows := { db with grants := rows }
  guard old new := (guardLiveActionGrantUpdate old new).map Fault.constraint

def liveSessionTable : GuardedTable LiveDb Fault LiveSession where
  rows db := db.session.toList
  store db rows := { db with session := rows.head? }
  guard old new := (guardLiveSessionUpdate old new).map Fault.constraint

/-- `new_entity_id` -/
def newLiveId : LiveOp Uuid := do
  let id ← read LiveDb.nextId
  update fun db => { db with nextId := id + 1 }
  pure id

namespace LiveDb

variable (db : LiveDb)

/-- `order by control_epoch desc limit 1` over the leases in use. -/
def getCurrentLease : Option ControlLease :=
  Rows.newest ControlLease.controlEpoch (db.leases.filter ControlLease.isCurrent)

def getPendingCommand : Option LiveControlCommand := db.commands.find? fun c => c.status = .pending

def getCommand (id : Uuid) : Option LiveControlCommand := db.commands.find? fun c => c.id = id

def getCommandByMutation (clientMutationId : String) : Option LiveControlCommand :=
  db.commands.find? fun c => c.clientMutationId = clientMutationId

def getActionGrant (id : Uuid) : Option LiveActionGrant := db.grants.find? fun g => g.grantId = id

def getActionGrantByAction (actionId : Uuid) : Option LiveActionGrant :=
  db.grants.find? fun g => g.actionId = actionId

def hasInflightAction : Bool := db.grants.any fun g => g.state = .consumed

def getEnvironmentKind (id : Uuid) : Option EnvironmentKind :=
  (db.environments.find? fun e => e.id = id).map Environment.kind

end LiveDb

/-- `on conflict (unit_attempt_id) do nothing` -/
def createLiveSession (session : LiveSession) : LiveOp (Option LiveSession) := do
  let taken ← read fun db => db.session.isSome
  if taken then
    pure none
  else do
    update fun db => { db with session := some session }
    pure (some session)

def createControlLease (lease : ControlLease) : LiveOp Unit := do
  let leases ← read LiveDb.leases
  raiseIf (leases.any fun l => l.controlEpoch = lease.controlEpoch)
    (.constraint "control_lease_epoch_unique")
  raiseIf (leases.any fun l => l.fencingToken = lease.fencingToken)
    (.constraint "control_lease_fence_unique")
  raiseIf (leases.any ControlLease.isCurrent) (.constraint "control_lease_one_current_idx")
  update fun db => { db with leases := db.leases ++ [lease] }

/-- The row that an update of the session returns; a lost fence is an error. -/
def updateLiveSession (wanted : LiveSession → Bool) (f : LiveSession → LiveSession)
    (lost : String) : LiveOp LiveSession := do
  let rows ← liveSessionTable.update wanted f
  demand rows.head? (.application "RuntimeError" lost)

def heartbeatControlLease (session : LiveSession) (lease : ControlLease) (expiresAt now : Instant) :
    LiveOp (Option ControlLease) := do
  let held ← read fun db => db.session.any fun s => s.id = session.id &&
    s.state = .agentControlled && s.controlEpoch = lease.controlEpoch &&
    s.fencingToken = lease.fencingToken
  let rows ← liveLeaseTable.update
    (fun l => held && l.id = lease.id && l.state = .active && now < l.expiresAt &&
      l.expiresAt < expiresAt && l.controlEpoch = lease.controlEpoch &&
      l.fencingToken = lease.fencingToken)
    fun l => { l with expiresAt := expiresAt }
  pure rows.head?

/-- `update live_action_grant set state = 'REVOKED' … where state = 'ISSUED'` -/
def revokeIssuedGrants : LiveOp Unit :=
  discard (liveGrantTable.update (fun g => g.state = .issued) fun g => { g with state := .revoked })

/-- The lease rows that an expiry ends. -/
def expires (session : LiveSession) (lease : ControlLease) (now : Instant) (l : ControlLease) : Bool :=
  l.id = lease.id && l.isCurrent && l.expiresAt ≤ now && l.controlEpoch = session.controlEpoch &&
    l.fencingToken = session.fencingToken

def expireCurrentControl (session : LiveSession) (lease : ControlLease) (now : Instant) :
    LiveOp (Option (LiveSession × ControlLease)) := do
  let rows ← liveLeaseTable.update (expires session lease now) fun l => { l with state := .expired }
  match rows.head? with
  | none => pure none
  | some expired => do
    revokeIssuedGrants
    discard (liveCommandTable.update (fun c => c.status = .pending)
      fun c => { c with status := .rejected })
    let updated ← updateLiveSession
      (fun s => s.id = session.id && s.revision = session.revision &&
        s.controlEpoch = session.controlEpoch && s.fencingToken = session.fencingToken)
      (fun s => { s with state := .noController, controlEpoch := s.controlEpoch + 1
                         fencingToken := s.fencingToken + 1, revision := s.revision + 1 })
      "LiveSession expiry reconciliation lost its fence"
    pure (some (updated, expired))

def createLiveCommand (command : LiveControlCommand) : LiveOp Unit := do
  let commands ← read LiveDb.commands
  raiseIf (commands.any fun c => c.clientMutationId = command.clientMutationId)
    (.constraint "live_control_command_mutation_unique")
  raiseIf (commands.any fun c => c.status = .pending)
    (.constraint "live_control_command_one_pending_idx")
  update fun db => { db with commands := db.commands ++ [command] }

def requestTransition (session : LiveSession) (state : LiveSessionState)
    (revokeCurrentLease : Bool) : LiveOp LiveSession := do
  if revokeCurrentLease then do
    discard (liveLeaseTable.update (fun l => l.state = .active) fun l => { l with state := .revoking })
    revokeIssuedGrants
  else pure ()
  updateLiveSession
    (fun s => s.id = session.id && s.revision = session.revision &&
      s.controlEpoch = session.controlEpoch)
    (fun s => { s with state := state, revision := s.revision + 1 })
    "LiveSession control request lost its revision"

def applyTransition (session : LiveSession) (command : LiveControlCommand)
    (state : LiveSessionState) (browserRevision : ℕ) (humanInfluenced : Bool)
    (checkpointDigest : Digest) : LiveOp LiveSession := do
  discard (liveLeaseTable.update ControlLease.isCurrent fun l => { l with state := .released })
  let nextEpoch := session.controlEpoch + 1
  let nextFence := session.fencingToken + 1
  let updated ← updateLiveSession
    (fun s => s.id = session.id && s.revision = session.revision &&
      s.controlEpoch = session.controlEpoch && s.fencingToken = session.fencingToken)
    (fun s => { s with state := state, controlEpoch := nextEpoch, fencingToken := nextFence
                       browserRevision := browserRevision, humanInfluenced := humanInfluenced
                       revision := s.revision + 1 })
    "LiveSession safe-point transition lost its fence"
  let applied ← liveCommandTable.update (fun c => c.id = command.id && c.status = .pending)
    fun c => { c with status := .applied, resultingControlEpoch := some nextEpoch
                      resultingFencingToken := some nextFence
                      checkpointDigest := some checkpointDigest }
  raiseIf (applied = [])
    (.application "RuntimeError" "LiveControlCommand acknowledgement was already consumed")
  pure updated

/-- `on conflict (unit_attempt_id, action_id) do nothing` -/
def createActionGrant (grant : LiveActionGrant) : LiveOp (Option LiveActionGrant) := do
  let taken ← read fun db => (db.getActionGrantByAction grant.actionId).isSome
  if taken then
    pure none
  else do
    update fun db => { db with grants := db.grants ++ [grant] }
    pure (some grant)

/-- The tables that `consume_action_grant` joins to the grant it consumes. -/
def LiveDb.consumable (db : LiveDb) (grant : LiveActionGrant) (now : Instant) : Bool :=
  grant.state = .issued && now < grant.expiresAt &&
  db.session.any (fun s => (s.state = .agentControlled || s.state = .humanControlled) &&
    s.controlEpoch = grant.controlEpoch && s.fencingToken = grant.fencingToken) &&
  db.leases.any fun l => l.id = grant.controlLeaseId && l.state = .active && now < l.expiresAt &&
    l.controlEpoch = grant.controlEpoch && l.fencingToken = grant.fencingToken

def consumeActionGrant (grant : LiveActionGrant) (now : Instant) :
    LiveOp (Option LiveActionGrant) := do
  let db ← read id
  let rows ← liveGrantTable.update (fun g => g.grantId = grant.grantId && db.consumable g now)
    fun g => { g with state := .consumed }
  pure rows.head?

def completeActionGrant (grant : LiveActionGrant) (request : CompleteLiveActionGrant) :
    LiveOp (Option LiveActionGrant) := do
  let rows ← liveGrantTable.update
    (fun g => g.grantId = grant.grantId && g.state = .consumed &&
      g.controlEpoch = grant.controlEpoch && g.fencingToken = grant.fencingToken)
    fun g => { g with state := .completed, receiptId := some request.receiptId
                      executionStatus := some request.executionStatus
                      resultingPageRevision := some request.resultingPageRevision }
  pure rows.head?

def advanceBrowserRevision (session : LiveSession) (browserRevision : ℕ) : LiveOp LiveSession :=
  updateLiveSession
    (fun s => s.id = session.id && s.revision = session.revision &&
      s.controlEpoch = session.controlEpoch && s.fencingToken = session.fencingToken)
    (fun s => { s with browserRevision := browserRevision, revision := s.revision + 1 })
    "LiveSession browser revision update lost its fence"

/-- `next_event_seq` and `append_event` -/
def appendLiveEvent (session : LiveSession) (eventType : String) (occurredAt : Instant) :
    LiveOp Unit :=
  update fun db => { db with events := db.events ++
    [⟨(db.events.map LiveControlEvent.seq).foldl max 0 + 1, eventType, session.controlEpoch,
      session.fencingToken, occurredAt⟩] }

end Atlas.Store
