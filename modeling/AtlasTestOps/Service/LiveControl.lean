import AtlasTestOps.Core.Access
import AtlasTestOps.Store.LiveControl

/-! `LiveControlService`: the commands of operators and the control operations of Workers,
each one transaction at the reading `now` of the database clock, and the runs of the rows
of one UnitAttempt under any callers. -/

namespace Atlas.Service

open Atlas Atlas.Identity Atlas.Task Atlas.Runtime Atlas.Store Txn

def agentLeaseTtl : ℕ := seconds 120

def defaultHumanLeaseTtlSec : ℕ := 300

def liveNotFound (detail : String) : Fault := .application "NOT_FOUND" detail

def liveInvalid (detail : String) : Fault := .application "INVALID_REQUEST" detail

def liveConflict (detail : String) : Fault := .application "CONFLICT" detail

def liveFenced (detail : String) : Fault := .application "LEASE_FENCED" detail

def liveForbidden (detail : String) : Fault := .application "FORBIDDEN" detail

def liveEpochChanged : Fault :=
  .application "PRECONDITION_FAILED" "If-Match 对应的 Control Epoch 已陈旧，请刷新 LiveSnapshot。"

structure UnitAttemptLiveSnapshot where
  session : LiveSession
  lease : Option ControlLease
  pendingCommand : Option LiveControlCommand
deriving DecidableEq, Repr

/-- `validate_projection` refuses a lease beside another fence. -/
def liveSnapshot (session : LiveSession) : LiveOp UnitAttemptLiveSnapshot := do
  let lease ← read LiveDb.getCurrentLease
  let pendingCommand ← read LiveDb.getPendingCommand
  raiseIf (lease.any fun l => l.controlEpoch ≠ session.controlEpoch ∨
      l.fencingToken ≠ session.fencingToken)
    (.validation "LiveSnapshot lease must match the current session fence")
  pure ⟨session, lease, pendingCommand⟩

def requireRuntimeSession : LiveOp LiveSession := do
  let session ← read LiveDb.session
  demand session (liveNotFound "正式 LiveSession 尚未建立。")

def loadAttemptAndTicket : LiveOp (UnitAttempt × TaskUnitExecutionTicket) := do
  let attempt ← read LiveDb.attempt
  let ticket ← read LiveDb.ticket
  let attempt ← demand attempt (liveNotFound "UnitAttempt 或 immutable ExecutionTicket 不存在。")
  let ticket ← demand ticket (liveNotFound "UnitAttempt 或 immutable ExecutionTicket 不存在。")
  raiseIf (ticket.toUnitScope ≠ attempt.toUnitScope)
    (liveConflict "UnitAttempt 与 ExecutionTicket scope 不一致。")
  pure (attempt, ticket)

def newControlLease (session : LiveSession) (ownerType : LiveControllerType) (ownerId : String)
    (expiresAt now : Instant) : LiveOp ControlLease := do
  let id ← newLiveId
  raiseIf (expiresAt ≤ now) (.validation "ControlLease expiresAt must follow createdAt")
  pure { id := id, ownerType := ownerType, ownerId := ownerId, controlEpoch := session.controlEpoch
         fencingToken := session.fencingToken, state := .active, expiresAt := expiresAt }

/-- `_expire_current_control` -/
def expireControl (session : LiveSession) (lease : ControlLease) (now : Instant) :
    LiveOp (Option LiveSession) := do
  match ← expireCurrentControl session lease now with
  | none => pure none
  | some (updated, _) => do
    appendLiveEvent updated "live_control.lease_expired" now
    pure (some updated)

def initializeLive (request : InitializeLiveSession) (workerIdentity : String) (now : Instant) :
    LiveOp UnitAttemptLiveSnapshot := do
  raiseIf (request.ownerId ≠ workerIdentity) (liveFenced "Agent ownerId 必须与已认证 Worker 身份一致。")
  match ← read LiveDb.session with
  | some existing => do
    let lease ← read LiveDb.getCurrentLease
    raiseIf (existing.browserSessionId ≠ request.browserSessionId ∨
        lease.all fun l => l.ownerType ≠ .agent ∨ l.ownerId ≠ workerIdentity)
      (liveConflict "UnitAttempt 已绑定不同 BrowserSession 或 Agent controller。")
    liveSnapshot existing
  | none => do
    let (attempt, _) ← loadAttemptAndTicket
    raiseIf (attempt.lifecycle ≠ .running)
      (liveConflict "只有 RUNNING UnitAttempt 可以建立正式 LiveSession。")
    raiseIf (attempt.executionDeadline ≤ now) (liveConflict "UnitAttempt executionDeadline 已过期。")
    let id ← newLiveId
    let stored ← createLiveSession
      { id := id, projectId := attempt.projectId, browserSessionId := request.browserSessionId
        state := .agentControlled, controlEpoch := 1, fencingToken := 1
        browserRevision := request.browserRevision, humanInfluenced := false, revision := 1 }
    let session ← demand stored (liveConflict "LiveSession 正在由另一个 Worker 建立，请重新读取。")
    let lease ← newControlLease session .agent workerIdentity
      (min (now + seconds request.requestedTtlSec) attempt.executionDeadline) now
    createControlLease lease
    appendLiveEvent session "live_session.initialized" now
    liveSnapshot session

def heartbeatLive (request : HeartbeatLiveControl) (workerIdentity : String) (now : Instant) :
    LiveOp UnitAttemptLiveSnapshot := do
  let session ← requireRuntimeSession
  let current ← read LiveDb.getCurrentLease
  let stale := liveFenced "Heartbeat 使用了陈旧或不属于当前 Worker 的 Epoch/Fence。"
  let lease ← demand current stale
  raiseIf (session.state ≠ .agentControlled ∨ lease.state ≠ .active ∨ lease.ownerType ≠ .agent ∨
      lease.ownerId ≠ workerIdentity ∨ request.controlEpoch ≠ session.controlEpoch ∨
      request.fencingToken ≠ session.fencingToken ∨ request.controlEpoch ≠ lease.controlEpoch ∨
      request.fencingToken ≠ lease.fencingToken) stale
  if lease.expiresAt ≤ now then do
    let expired ← expireControl session lease now
    let session ← demand expired (liveFenced "ControlLease 已过期或由其他 Reconciler 回收。")
    liveSnapshot session
  else do
    let (attempt, _) ← loadAttemptAndTicket
    let expiresAt := min (now + seconds request.requestedTtlSec) attempt.executionDeadline
    if expiresAt ≤ lease.expiresAt then
      liveSnapshot session
    else do
      let renewed ← heartbeatControlLease session lease expiresAt now
      let lease ← demand renewed (liveFenced "ControlLease Heartbeat 丢失当前 Epoch/Fence。")
      pure ⟨session, some lease, none⟩

/-- `claim_expired_session_ids`, as far as it selects this session. -/
def claimExpired (db : LiveDb) (now : Instant) : Bool :=
  db.leases.any (fun l => l.isCurrent && l.expiresAt ≤ now) &&
  db.session.any fun s => s.state ∈ [.agentControlled, .quiescing, .humanControlled, .reconciling]

/-- The part of a batch that concerns this session; none when it is not in the batch. -/
def reapExpiredLive (actor : ActorContext) (limit : ℕ) (now : Instant) :
    LiveOp (Option LiveSession) := do
  raiseIf (!actor.isOrganizationAdmin)
    (liveForbidden "只有组织管理员或内部 Reconciler 可以回收过期 controller。")
  raiseIf (¬ (1 ≤ limit ∧ limit ≤ 500)) (.validation "limit must be between 1 and 500")
  let db ← read id
  if claimExpired db now then
    match db.session, db.getCurrentLease with
    | some session, some lease => expireControl session lease now
    | _, _ => pure none
  else pure none

/-- `_ack_target`: the new state, and the new owner with the term of its lease. -/
def ackTarget (command : LiveControlCommand) (request : AcknowledgeLiveControl) :
    LiveOp (LiveSessionState × Option (LiveControllerType × String × ℕ)) :=
  match command.commandType with
  | .pause => pure (.paused, none)
  | .takeover => do
    let requestedBy ← demand command.requestedBy (liveConflict "Takeover 缺少可审计的 Human controller。")
    pure (.humanControlled, some (.human, s!"user:{requestedBy}",
      seconds (match command.requestedTtlSec with
        | some 0 | none => defaultHumanLeaseTtlSec
        | some ttl => ttl)))
  | .resume | .return =>
    pure (.agentControlled, some (.agent, request.agentOwnerId, agentLeaseTtl))

def acknowledgeLive (request : AcknowledgeLiveControl) (workerIdentity : String) (now : Instant) :
    LiveOp UnitAttemptLiveSnapshot := do
  let session ← requireRuntimeSession
  let found ← read (·.getCommand request.commandId)
  let command ← demand found (liveNotFound "待确认的 LiveControlCommand 不存在。")
  if command.status = .applied then do
    raiseIf (command.expectedControlEpoch ≠ request.expectedControlEpoch ∨
        command.checkpointDigest ≠ some request.checkpointDigest)
      (liveConflict "LiveControlCommand 已由不同 Safe Point 完成。")
    liveSnapshot session
  else do
    raiseIf (command.status ≠ .pending) (liveConflict "LiveControlCommand 已终结且不可确认。")
    raiseIf (command.expectedControlEpoch ≠ session.controlEpoch ∨
        request.expectedControlEpoch ≠ session.controlEpoch ∨
        request.expectedFencingToken ≠ session.fencingToken)
      (liveFenced "Safe Point acknowledgement 使用了陈旧 Epoch/Fence。")
    raiseIf (request.browserRevision < session.browserRevision)
      (liveConflict "Safe Point browserRevision 不能回退。")
    let inflight ← read LiveDb.hasInflightAction
    raiseIf inflight (liveConflict "仍有已消费但未回执的 ActionGrant，尚未到达 Safe Point。")
    let (attempt, _) ← loadAttemptAndTicket
    let (targetState, owner) ← ackTarget command request
    raiseIf (owner.any fun o => o.1 = .agent ∧ o.2.1 ≠ workerIdentity)
      (liveFenced "新 Agent ownerId 必须与已认证 Worker 身份一致。")
    let updated ← applyTransition session command targetState request.browserRevision
      (session.humanInfluenced || command.commandType = .takeover) request.checkpointDigest
    match owner with
    | none => pure ()
    | some (ownerType, ownerId, ttl) => do
      let expiresAt := min (now + ttl) attempt.executionDeadline
      raiseIf (expiresAt ≤ now) (liveConflict "UnitAttempt 已无可签发 ControlLease 的剩余时间。")
      let lease ← newControlLease updated ownerType ownerId expiresAt now
      createControlLease lease
    appendLiveEvent updated s!"live_control.{command.commandType.value.toLower}.applied" now
    liveSnapshot updated

def requireGrantAuthority (session : LiveSession) (current : Option ControlLease)
    (request : RequestLiveActionGrant) (workerIdentity : String) (now : Instant) :
    LiveOp ControlLease := do
  let unauthorized := liveFenced "当前 Epoch/Fence 没有可签发 ActionGrant 的活动 controller。"
  let lease ← demand current unauthorized
  raiseIf ((session.state ≠ .agentControlled ∧ session.state ≠ .humanControlled) ∨
      lease.state ≠ .active ∨ lease.expiresAt ≤ now ∨
      request.controlEpoch ≠ session.controlEpoch ∨ request.fencingToken ≠ session.fencingToken ∨
      request.controlEpoch ≠ lease.controlEpoch ∨ request.fencingToken ≠ lease.fencingToken)
    unauthorized
  raiseIf (request.pageRevision ≠ session.browserRevision)
    (liveConflict "ActionProposal pageRevision 已陈旧。")
  raiseIf (lease.ownerType = .agent ∧ lease.ownerId ≠ workerIdentity)
    (liveFenced "Agent ActionGrant 请求来自不同 Worker。")
  pure lease

def grantRequestMatches (grant : LiveActionGrant) (request : RequestLiveActionGrant) : Bool :=
  grant.actionId = request.actionId && grant.proposalDigest = request.proposalDigest &&
  grant.pageId = request.pageId && grant.pageRevision = request.pageRevision &&
  grant.controlEpoch = request.controlEpoch && grant.fencingToken = request.fencingToken &&
  grant.allowedAdapter = request.allowedAdapter && grant.policyDigest = request.policyDigest

def issueActionGrant (request : RequestLiveActionGrant) (workerIdentity : String)
    (now : Instant) : LiveOp LiveActionGrant := do
  let session ← requireRuntimeSession
  match ← read (·.getActionGrantByAction request.actionId) with
  | some existing => do
    raiseIf (!grantRequestMatches existing request)
      (liveConflict "actionId 已绑定不同 Proposal 或控制权。")
    pure existing
  | none => do
    let current ← read LiveDb.getCurrentLease
    let lease ← requireGrantAuthority session current request workerIdentity now
    let expiresAt := min (now + seconds request.requestedTtlSec) lease.expiresAt
    raiseIf (expiresAt ≤ now) (liveFenced "ControlLease 已过期，不能签发 ActionGrant。")
    let id ← newLiveId
    let stored ← createActionGrant
      { grantId := id, controlLeaseId := lease.id, actionId := request.actionId
        proposalDigest := request.proposalDigest, browserSessionId := session.browserSessionId
        pageId := request.pageId, pageRevision := request.pageRevision
        controlEpoch := request.controlEpoch, fencingToken := request.fencingToken
        ownerType := lease.ownerType, ownerId := lease.ownerId
        allowedAdapter := request.allowedAdapter, expiresAt := expiresAt
        policyDigest := request.policyDigest, state := .issued, receiptId := none
        executionStatus := none, resultingPageRevision := none }
    let grant ← demand stored (liveConflict "ActionGrant 正在由另一个请求创建，请重新读取。")
    appendLiveEvent session "live_action.grant_issued" now
    pure grant

def consumeGrant (grantId : Uuid) (request : ConsumeLiveActionGrant) (now : Instant) :
    LiveOp LiveActionGrant := do
  let session ← requireRuntimeSession
  let found ← read (·.getActionGrant grantId)
  let grant ← demand found (liveNotFound "ActionGrant 不存在或不属于当前 UnitAttempt。")
  raiseIf (grant.controlEpoch ≠ request.controlEpoch ∨ grant.fencingToken ≠ request.fencingToken ∨
      grant.proposalDigest ≠ request.proposalDigest)
    (liveFenced "ActionGrant Epoch/Fence/Proposal 绑定不匹配。")
  raiseIf (grant.state ≠ .issued)
    (liveConflict "ActionGrant 已消费或撤销；请查询状态恢复，禁止重复执行副作用。")
  let stored ← consumeActionGrant grant now
  let consumed ← demand stored (liveFenced "ActionGrant 已过期、被撤销或 controller 已被替换。")
  appendLiveEvent session "live_action.grant_consumed" now
  pure consumed

def completeGrant (grantId : Uuid) (request : CompleteLiveActionGrant) (now : Instant) :
    LiveOp LiveActionGrant := do
  let session ← requireRuntimeSession
  let found ← read (·.getActionGrant grantId)
  let grant ← demand found (liveNotFound "ActionGrant 不存在或不属于当前 UnitAttempt。")
  raiseIf (grant.controlEpoch ≠ request.controlEpoch ∨ grant.fencingToken ≠ request.fencingToken)
    (liveFenced "Action receipt 使用了错误的 Epoch/Fence。")
  if grant.state = .completed then do
    raiseIf (grant.receiptId ≠ some request.receiptId ∨
        grant.executionStatus ≠ some request.executionStatus ∨
        grant.resultingPageRevision ≠ some request.resultingPageRevision)
      (liveConflict "ActionGrant 已绑定不同 ExecutionReceipt。")
    pure grant
  else do
    raiseIf (grant.state ≠ .consumed)
      (liveConflict "只有已消费的 ActionGrant 可以写入 ExecutionReceipt。")
    raiseIf (request.resultingPageRevision < session.browserRevision)
      (liveConflict "ExecutionReceipt browserRevision 不能回退。")
    let stored ← completeActionGrant grant request
    let completed ← demand stored (liveConflict "ActionGrant completion lost its single-use state。")
    let updated ← advanceBrowserRevision session request.resultingPageRevision
    appendLiveEvent updated "live_action.execution_completed" now
    pure completed

/-- The state a command of the type starts from. -/
def expectedState : LiveControlCommandType → LiveSessionState
  | .pause => .agentControlled
  | .resume => .paused
  | .takeover => .agentControlled
  | .return => .humanControlled

/-- `_requested_state`: the state asked for, and whether the current lease is revoked. -/
def requestedState : LiveControlCommandType → LiveSessionState × Bool
  | .pause => (.quiescing, true)
  | .takeover => (.quiescing, true)
  | .resume => (.resumeRequested, false)
  | .return => (.reconciling, true)

/-- `_validate_transition` -/
def validateTransition (session : LiveSession) (lease : Option ControlLease)
    (commandType : LiveControlCommandType) (now : Instant) : LiveOp Unit := do
  raiseIf (session.state ≠ expectedState commandType)
    (liveConflict s!"{commandType.value} 不适用于当前 {session.state.value} 状态。")
  raiseIf (commandType ≠ .resume ∧ lease.all fun l => l.state ≠ .active ∨ l.expiresAt ≤ now ∨
      l.controlEpoch ≠ session.controlEpoch ∨ l.fencingToken ≠ session.fencingToken)
    (liveFenced "当前 controller 没有匹配 LiveSession 的活动 ControlLease。")
  raiseIf ((commandType = .pause ∨ commandType = .takeover) ∧ lease.all fun l => l.ownerType ≠ .agent)
    (liveConflict s!"{commandType.value} 要求当前 controller 为 AGENT。")
  raiseIf (commandType = .return ∧ lease.all fun l => l.ownerType ≠ .human)
    (liveConflict "RETURN 要求当前 controller 为 HUMAN。")
  if commandType = .takeover then do
    let ticket ← read LiveDb.ticket
    let ticket ← demand ticket (liveConflict "LiveSession 缺少 immutable ExecutionTicket。")
    let kind ← read (·.getEnvironmentKind ticket.environmentId)
    raiseIf (kind = some .production)
      (liveForbidden "V1 不允许人工接管 Production Environment 浏览器。")
  else pure ()

def commandRequestMatches (command : LiveControlCommand) (commandType : LiveControlCommandType)
    (request : RequestLiveControl) (expectedControlEpoch : ℕ) : Bool :=
  command.commandType = commandType && command.reason = request.reason &&
  command.requestedTtlSec = request.requestedTtlSec &&
  command.expectedControlEpoch = expectedControlEpoch

/-- `_require_operable` -/
def requireOperable (actor : ActorContext) : LiveOp LiveSession := do
  let found ← read LiveDb.session
  let session ← demand found (liveNotFound "UnitAttempt LiveSession 不存在或不可见。")
  raiseIf (!actor.canReadProject session.projectId)
    (liveNotFound "UnitAttempt LiveSession 不存在或不可见。")
  raiseIf (!actor.canOperateProject session.projectId)
    (liveForbidden "当前角色不能控制该 UnitAttempt 的浏览器。")
  raiseIf (actor.actorId = none) (liveForbidden "Live Control 命令要求可审计的 Actor 身份。")
  pure session

/-- `_request_transition`; the flag says whether the answer is a replay. -/
def requestLive (commandType : LiveControlCommandType) (actor : ActorContext)
    (request : RequestLiveControl) (expectedControlEpoch : ℕ) (idempotencyKey : String)
    (now : Instant) : LiveOp (LiveControlCommand × Bool) := do
  raiseIf (request.requestedTtlSec ≠ none ∧ commandType ≠ .takeover)
    (liveInvalid "requestedTtlSec 只适用于 Human Takeover。")
  let session ← requireOperable actor
  match ← read (·.getCommandByMutation idempotencyKey) with
  | some existing => do
    raiseIf (!commandRequestMatches existing commandType request expectedControlEpoch)
      (liveConflict "Idempotency-Key 已用于不同 LiveControlCommand。")
    pure (existing, true)
  | none => do
    raiseIf (session.controlEpoch ≠ expectedControlEpoch) liveEpochChanged
    let pending ← read LiveDb.getPendingCommand
    raiseIf (pending.isSome) (liveConflict "LiveSession 已有尚未到达 Safe Point 的控制命令。")
    let lease ← read LiveDb.getCurrentLease
    validateTransition session lease commandType now
    let (state, revoke) := requestedState commandType
    let updated ← requestTransition session state revoke
    let id ← newLiveId
    let command : LiveControlCommand :=
      { id := id, commandType := commandType, clientMutationId := idempotencyKey
        reason := request.reason, requestedTtlSec := request.requestedTtlSec
        expectedControlEpoch := expectedControlEpoch, acceptedSessionRevision := updated.revision
        status := .pending, requestedBy := actor.actorId, resultingControlEpoch := none
        resultingFencingToken := none, checkpointDigest := none }
    createLiveCommand command
    appendLiveEvent updated s!"live_control.{commandType.value.toLower}.requested" now
    pure (command, false)

def pauseLive := requestLive .pause

def resumeLive := requestLive .resume

def takeoverLive := requestLive .takeover

def returnControlLive := requestLive .return

/-! Runs. -/

/-- One call of a Worker, an operator or the reconciler, with any arguments. -/
inductive LiveCall
  | initializeSession (request : InitializeLiveSession) (workerIdentity : String)
  | heartbeat (request : HeartbeatLiveControl) (workerIdentity : String)
  | pause (actor : ActorContext) (request : RequestLiveControl) (expectedControlEpoch : ℕ) (key : String)
  | resume (actor : ActorContext) (request : RequestLiveControl) (expectedControlEpoch : ℕ) (key : String)
  | takeover (actor : ActorContext) (request : RequestLiveControl) (expectedControlEpoch : ℕ) (key : String)
  | returnControl (actor : ActorContext) (request : RequestLiveControl) (expectedControlEpoch : ℕ)
      (key : String)
  | acknowledge (request : AcknowledgeLiveControl) (workerIdentity : String)
  | issue (request : RequestLiveActionGrant) (workerIdentity : String)
  | consume (grantId : Uuid) (request : ConsumeLiveActionGrant)
  | complete (grantId : Uuid) (request : CompleteLiveActionGrant)
  | reapExpired (actor : ActorContext) (limit : ℕ)

def LiveCall.run (now : Instant) : LiveCall → LiveOp Unit
  | .initializeSession request worker => discard (initializeLive request worker now)
  | .heartbeat request worker => discard (heartbeatLive request worker now)
  | .pause actor request epoch key => discard (pauseLive actor request epoch key now)
  | .resume actor request epoch key => discard (resumeLive actor request epoch key now)
  | .takeover actor request epoch key => discard (takeoverLive actor request epoch key now)
  | .returnControl actor request epoch key => discard (returnControlLive actor request epoch key now)
  | .acknowledge request worker => discard (acknowledgeLive request worker now)
  | .issue request worker => discard (issueActionGrant request worker now)
  | .consume grantId request => discard (consumeGrant grantId request now)
  | .complete grantId request => discard (completeGrant grantId request now)
  | .reapExpired actor limit => discard (reapExpiredLive actor limit now)

/-- The rows with the last reading of the database clock. -/
structure LiveState where
  db : LiveDb
  clock : Instant

def LiveState.call (s : LiveState) (c : LiveCall) (now : Instant) : LiveState :=
  ⟨after (c.run now) s.db, now⟩

/-- A call at a reading that is not before the last one, or the Attempt moving on: its
identity and deadline stay, and so does its ticket. -/
inductive LiveStep : LiveState → LiveState → Prop
  | call (s : LiveState) (c : LiveCall) (now : Instant) (h : s.clock ≤ now) :
      LiveStep s (s.call c now)
  | attempt (s : LiveState) (state : ExecutionState) :
      LiveStep s { s with db := { s.db with
        attempt := s.db.attempt.map fun a => { a with toExecutionState := state } } }

def LiveRun : LiveState → LiveState → Prop := Relation.ReflTransGen LiveStep

/-- The rows before the first call: an Attempt, and nothing of live control. -/
structure LiveInitial (s : LiveState) : Prop where
  session : s.db.session = none
  leases : s.db.leases = []
  commands : s.db.commands = []
  grants : s.db.grants = []

def LiveReachable (s : LiveState) : Prop := ∃ s₀, LiveInitial s₀ ∧ LiveRun s₀ s

end Atlas.Service
