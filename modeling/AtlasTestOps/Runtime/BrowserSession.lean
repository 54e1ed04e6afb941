import AtlasTestOps.Runtime.Browser
import Mathlib.Logic.Function.Basic

/-! `BrowserToolSession`: the policy shell around one page. Calls of `observe` and `execute` give way to
each other, and to navigations of the page, wherever they await; what lies between two awaits is one
step. -/

namespace Atlas.Runtime

open Atlas

/-- The fields of a proposal that the session reads. References, nonces and identities are drawn at
random, so they are numbers here. -/
structure BrowserActionProposal where
  actionId : Uuid
  nodeId : String
  actorSlot : String
  action : BrowserActionKind
  risk : BrowserActionRisk
  expectedObservationRef : Option ℕ := none
  expectedPageRevision : Option ℕ := none
  nextStepNonce : Option ℕ := none
  targetRef : Option ℕ := none
  routeKey : Option String := none
  valueRef : Option String := none
  optionValue : Option String := none
  key : Option String := none
  scrollDeltaY : Option ℤ := none
deriving DecidableEq, Repr

/-- `_TargetHandle` -/
structure TargetHandle where
  observationRef : ℕ
  pageRevision : ℕ
  role : String
  elementKey : Option String
  accessibleName : String
  semanticFingerprint : Digest
deriving DecidableEq, Repr

/-- An observation, with the number of navigations of the page that had arrived when it was built. The
session does not know this number. -/
structure BrowserObservation where
  observationRef : ℕ
  pageRevision : ℕ
  nextStepNonce : ℕ
  /-- The roles of the candidates by their reference. -/
  targetCandidates : List (ℕ × String)
  captured : ℕ
deriving DecidableEq, Repr

structure BrowserPolicyDecision where
  decision : BrowserPolicyDecisionKind
  matchedRules : List String
  safeSummary : String
deriving DecidableEq, Repr

structure BrowserActionGrant where
  grantId : Uuid
  actionId : Uuid
  proposalDigest : Digest
  pageRevision : ℕ
  allowedAction : BrowserActionKind
  expiresAt : Instant
deriving DecidableEq, Repr

/-- What is frozen for the session: its plan, catalog, routes and values. -/
structure SessionContract where
  planNodes : List String
  actorSlot : String
  allowedActions : List BrowserActionKind
  /-- `routes.require` answers, for the bundle and the origins of the session. -/
  routeAllowed : String → Bool
  /-- The value is in the execution view and is scalar text. -/
  valueIsText : String → Bool
  artifactWriter : Bool
  executionDeadline : Instant
  proposalDigest : BrowserActionProposal → Digest
  fingerprint : String → String → Option String → ℕ → Digest

structure BrowserToolSession where
  pageRevision : ℕ := 1
  observations : List BrowserObservation := []
  targets : List (ℕ × TargetHandle) := []
  consumedGrants : List Uuid := []
  consumedActionIds : List Uuid := []
  executionUncertain : Bool := false
  externalRevisionDirty : Bool := false
deriving DecidableEq, Repr

/-- `_ALLOWED_KEYS` -/
def allowedKeys : List String :=
  ["ArrowDown", "ArrowLeft", "ArrowRight", "ArrowUp", "Enter", "Escape", "Space", "Tab"]

/-- `_MAX_SCREENSHOT_FRAMES` -/
def maxScreenshotFrames : ℕ := 32

/-- `_ALLOWED_RISKS`; the catalog allows no other action. -/
def allowedRisks : BrowserActionKind → List BrowserActionRisk
  | .openRoute => [.navigate]
  | .activate => [.navigate, .mutation]
  | .enterText | .chooseOption | .keypress => [.input]
  | .scroll | .captureView => [.read]
  | .observe | .waitForCondition | .evaluateAssertion => []

/-- `_ALLOWED_TARGET_ROLES` -/
def allowedTargetRoles : BrowserActionKind → Option (List String)
  | .activate => some ["button", "link", "checkbox", "radio"]
  | .enterText => some ["textbox"]
  | .chooseOption => some ["combobox"]
  | _ => none

namespace BrowserToolSession

variable (contract : SessionContract) (session : BrowserToolSession)

/-- `_synchronize_external_revision` -/
def synchronizeExternalRevision : BrowserToolSession :=
  if !session.externalRevisionDirty then session
  else
    { session with
      pageRevision := session.pageRevision + 1
      observations := []
      targets := []
      externalRevisionDirty := false }

def getObservation (observationRef : ℕ) : Option BrowserObservation :=
  session.observations.find? fun o => o.observationRef = observationRef

/-- The observation that a proposal cites, if it is the current one. -/
def currentObservation (proposal : BrowserActionProposal) : Option BrowserObservation :=
  (proposal.expectedObservationRef.bind session.getObservation).filter fun o =>
    proposal.expectedPageRevision = some session.pageRevision ∧ o.pageRevision = session.pageRevision ∧
      proposal.nextStepNonce = some o.nextStepNonce

/-- `_target_candidate`, of which the role is read. -/
def targetCandidate (proposal : BrowserActionProposal) : Option String := do
  let targetRef ← proposal.targetRef
  let observation ← proposal.expectedObservationRef.bind session.getObservation
  let candidate ← observation.targetCandidates.find? fun item => item.1 = targetRef
  return candidate.2

def denied (rule summary : String) : BrowserPolicyDecision := ⟨.deny, [rule], summary⟩

def allowed (rules : List String) (summary : String) : BrowserPolicyDecision := ⟨.allow, rules, summary⟩

/-- The rules of `_decide` up to the route and the key. -/
def decideAction (proposal : BrowserActionProposal) : BrowserPolicyDecision :=
  if proposal.action ∉ contract.allowedActions then
    denied "tool.not_allowed" "the frozen tool catalog does not allow this action"
  else if proposal.expectedObservationRef ≠ none ∧ session.currentObservation proposal = none then
    denied "observation.stale" "the proposal observation, revision, or nonce is stale"
  else if proposal.risk ∉ allowedRisks proposal.action then
    denied "risk.action_mismatch" "the proposed risk does not match the executable action"
  else if proposal.action = .openRoute then
    if !proposal.routeKey.any contract.routeAllowed then
      denied "route.not_allowed" "route or origin policy denied the action"
    else
      allowed ["route.exact_surface", "origin.session_scope"] "route and origin policy allowed the action"
  else if proposal.action = .keypress ∧ proposal.key.all (· ∉ allowedKeys) then
    denied "keyboard.key_not_allowed" "the requested key is not in the reviewed allowlist"
  else
    allowed ["tool.catalog", "contract.scope"] "frozen tool and execution scope allowed the action"

/-- `_decide` -/
def decide (proposal : BrowserActionProposal) : BrowserPolicyDecision :=
  let decision := session.decideAction contract proposal
  match allowedTargetRoles proposal.action with
  | none => decision
  | some roles =>
    if decision.decision = .allow ∧ !(session.targetCandidate proposal).any (· ∈ roles) then
      denied "target.semantic_role_mismatch" "the observed target role is not allowed for this action"
    else decision

/-- The grant that `execute` builds for an allowed proposal. -/
def grantFor (grantId : Uuid) (now : Instant) (proposal : BrowserActionProposal) : BrowserActionGrant where
  grantId := grantId
  actionId := proposal.actionId
  proposalDigest := contract.proposalDigest proposal
  pageRevision := session.pageRevision
  allowedAction := proposal.action
  expiresAt := min (now + seconds 15) contract.executionDeadline

/-- The first check of `_execute_grant`. -/
def grantRefused (grant : BrowserActionGrant) (now : Instant) (proposal : BrowserActionProposal) : Bool :=
  grant.grantId ∈ session.consumedGrants ∨ grant.actionId ∈ session.consumedActionIds ∨
    grant.expiresAt ≤ now ∨ grant.proposalDigest ≠ contract.proposalDigest proposal ∨
    grant.actionId ≠ proposal.actionId ∨ grant.pageRevision ≠ session.pageRevision ∨
    grant.allowedAction ≠ proposal.action

def consume (grant : BrowserActionGrant) : BrowserToolSession :=
  { session with
    consumedGrants := grant.grantId :: session.consumedGrants
    consumedActionIds := grant.actionId :: session.consumedActionIds }

/-- The first check of `_require_target`, before it asks the page. -/
def requireHandle (proposal : BrowserActionProposal) : Option TargetHandle := do
  let targetRef ← proposal.targetRef
  let found ← session.targets.find? fun item => item.1 = targetRef
  if some found.2.observationRef = proposal.expectedObservationRef ∧
      found.2.pageRevision = session.pageRevision then some found.2 else none

/-- The last check of `_require_target`, on what the page answered. -/
def handleHolds (handle : TargetHandle) (visible : Bool) (currentKey : Option String)
    (currentName : String) : Bool :=
  visible ∧ currentKey = handle.elementKey ∧ currentName = handle.accessibleName ∧
    contract.fingerprint handle.role currentName currentKey session.pageRevision =
      handle.semanticFingerprint

/-- The end of `_execute_grant`, whatever the adapter reported. -/
def advance : BrowserToolSession :=
  { session with
    pageRevision := session.pageRevision + 1
    externalRevisionDirty := false
    observations := []
    targets := [] }

end BrowserToolSession

/-- How an adapter call ends: with a receipt, which succeeded or not, or with an error that leaves
`_execute_grant`. -/
inductive AdapterResult
  | succeeded | failed | raised
deriving DecidableEq, Repr

/-- A call that is suspended. An `execute` remembers how many navigations had arrived when it
synchronised, and the observation it found; the session knows neither number. -/
inductive SessionCall
  | observing (observationRef : ℕ) (targets : List (ℕ × TargetHandle))
  | proposing (proposal : BrowserActionProposal) (synced : ℕ)
  | deciding (proposal : BrowserActionProposal) (synced : ℕ) (decision : BrowserPolicyDecision)
  | locating (proposal : BrowserActionProposal) (synced : ℕ) (grant : BrowserActionGrant)
      (cited : Option BrowserObservation) (handle : TargetHandle)
  | acting (proposal : BrowserActionProposal)
  | reporting (proposal : BrowserActionProposal) (succeeded : Bool)
deriving DecidableEq, Repr

/-- An action that reached the browser. -/
structure PerformedAction where
  actionId : Uuid
  grantId : Uuid
  action : BrowserActionKind
  cited : Option BrowserObservation
  synced : ℕ
  navigations : ℕ
deriving DecidableEq, Repr

/-- The session with its calls, the navigations that have arrived, what has reached the browser, and the
revision after each action executed and each navigation detected. -/
structure BrowserSystem where
  session : BrowserToolSession := {}
  calls : ℕ → Option SessionCall := fun _ => none
  navigations : ℕ := 0
  performed : List PerformedAction := []
  revisions : List ℕ := []

namespace BrowserSystem

variable (contract : SessionContract) (s : BrowserSystem)

def setCall (id : ℕ) (call : Option SessionCall) : BrowserSystem :=
  { s with calls := Function.update s.calls id call }

/-- A call begins with the synchronisation. -/
def synchronize : BrowserSystem :=
  { s with
    session := s.session.synchronizeExternalRevision
    revisions := if s.session.externalRevisionDirty then s.revisions ++ [s.session.pageRevision + 1]
      else s.revisions }

/-- The start of `execute`, up to its first report. -/
def startExecute (id : ℕ) (proposal : BrowserActionProposal) : BrowserSystem :=
  let s := s.synchronize
  if proposal.nodeId ∉ contract.planNodes ∨ proposal.actorSlot ≠ contract.actorSlot then s
  else s.setCall id (some (.proposing proposal s.navigations))

/-- The handle of one element that an `observe` found, at the revision the page has by then. -/
def scan (id : ℕ) (targetRef : ℕ) (role : String) (elementKey : Option String) (accessibleName : String) :
    BrowserSystem :=
  match s.calls id with
  | some (.observing observationRef targets) =>
    s.setCall id (some (.observing observationRef (targets ++
      [(targetRef,
        { observationRef := observationRef
          pageRevision := s.session.pageRevision
          role := role
          elementKey := elementKey
          accessibleName := accessibleName
          semanticFingerprint :=
            contract.fingerprint role accessibleName elementKey s.session.pageRevision })])))
  | _ => s

/-- The end of `observe`: the observation replaces the one before. -/
def capture (id : ℕ) (nonce : ℕ) : BrowserSystem :=
  match s.calls id with
  | some (.observing observationRef targets) =>
    { s.setCall id none with
      session :=
        { s.session with
          observations :=
            [{ observationRef := observationRef
               pageRevision := s.session.pageRevision
               nextStepNonce := nonce
               targetCandidates := targets.map fun item => (item.1, item.2.role)
               captured := s.navigations }]
          targets := targets } }
  | _ => s

/-- `_decide`, after the first report. -/
def decideCall (id : ℕ) : BrowserSystem :=
  match s.calls id with
  | some (.proposing proposal synced) =>
    s.setCall id (some (.deciding proposal synced (s.session.decide contract proposal)))
  | _ => s

/-- The adapter is called. -/
def perform (id : ℕ) (proposal : BrowserActionProposal) (synced : ℕ) (grant : BrowserActionGrant)
    (cited : Option BrowserObservation) : BrowserSystem :=
  { s.setCall id (some (.acting proposal)) with
    performed := s.performed ++
      [⟨grant.actionId, grant.grantId, proposal.action, cited, synced, s.navigations⟩] }

/-- The body of `_execute_grant` once the grant is consumed, up to its first await. -/
def dispatch (id : ℕ) (proposal : BrowserActionProposal) (synced : ℕ) (grant : BrowserActionGrant)
    (cited : Option BrowserObservation) (frames : ℕ) : BrowserSystem :=
  let locate := match s.session.requireHandle proposal with
    | some handle => s.setCall id (some (.locating proposal synced grant cited handle))
    | none => s.setCall id none
  match proposal.action with
  | .openRoute =>
    if proposal.routeKey.any contract.routeAllowed then s.perform id proposal synced grant cited
    else s.setCall id none
  | .activate | .chooseOption => locate
  | .enterText => if proposal.valueRef.any contract.valueIsText then locate else s.setCall id none
  | .keypress | .scroll => s.perform id proposal synced grant cited
  | .captureView =>
    if contract.artifactWriter ∧ frames ≤ maxScreenshotFrames then s.perform id proposal synced grant cited
    else s.setCall id none
  | .observe | .waitForCondition | .evaluateAssertion => s.setCall id none

/-- From the second report to the next await: the observation, the grant and its check. The page has
`frames` frames by then. -/
def grantCall (id : ℕ) (grantId : Uuid) (granted checked : Instant) (frames : ℕ) : BrowserSystem :=
  match s.calls id with
  | some (.deciding proposal synced decision) =>
    let cited := s.session.currentObservation proposal
    let grant := s.session.grantFor contract grantId granted proposal
    if decision.decision ≠ .allow ∨ (proposal.expectedObservationRef ≠ none ∧ cited = none) ∨
        s.session.grantRefused contract grant checked proposal then
      s.setCall id none
    else
      { s with session := s.session.consume grant }.dispatch contract id proposal synced grant cited
        frames
  | _ => s

/-- The page has answered about the target. -/
def locateCall (id : ℕ) (visible : Bool) (currentKey : Option String) (currentName : String) :
    BrowserSystem :=
  match s.calls id with
  | some (.locating proposal synced grant cited handle) =>
    if s.session.handleHolds contract handle visible currentKey currentName then
      s.perform id proposal synced grant cited
    else s.setCall id none
  | _ => s

/-- The adapter has answered. -/
def finishCall (id : ℕ) (result : AdapterResult) : BrowserSystem :=
  match s.calls id with
  | some (.acting proposal) =>
    if result = .raised then s.setCall id none
    else
      { s.setCall id (some (.reporting proposal (result = .succeeded))) with
        session := s.session.advance
        revisions := s.revisions ++ [s.session.pageRevision + 1] }
  | _ => s

/-- The end of `execute`: a new observation, unless the page was only captured. -/
def reportCall (id : ℕ) (observationRef : ℕ) : BrowserSystem :=
  match s.calls id with
  | some (.reporting proposal succeeded) =>
    if !succeeded then
      { s.setCall id none with session := { s.session with executionUncertain := true } }
    else if proposal.action = .captureView then s.setCall id none
    else s.synchronize.setCall id (some (.observing observationRef []))
  | _ => s

end BrowserSystem

/-- What may happen next: a navigation at any time, the start of a call, or a call that goes on. -/
inductive SessionEvent
  | navigated
  | observe (id : ℕ) (observationRef : ℕ)
  | execute (id : ℕ) (proposal : BrowserActionProposal)
  | scanned (id : ℕ) (targetRef : ℕ) (role : String) (elementKey : Option String) (accessibleName : String)
  | captured (id : ℕ) (nonce : ℕ)
  | proposed (id : ℕ)
  | decided (id : ℕ) (grantId : Uuid) (granted checked : Instant) (frames : ℕ)
  | located (id : ℕ) (visible : Bool) (currentKey : Option String) (currentName : String)
  | acted (id : ℕ) (result : AdapterResult)
  | reported (id : ℕ) (observationRef : ℕ)
  | abandoned (id : ℕ)
deriving DecidableEq, Repr

/-- One step. A call starts under an identity that no other has, and any await may end its call. -/
def BrowserSystem.step (contract : SessionContract) (s : BrowserSystem) : SessionEvent → BrowserSystem
  | .navigated =>
    { s with
      session := { s.session with externalRevisionDirty := true }
      navigations := s.navigations + 1 }
  | .observe id observationRef =>
    if s.calls id = none then s.synchronize.setCall id (some (.observing observationRef [])) else s
  | .execute id proposal => if s.calls id = none then s.startExecute contract id proposal else s
  | .scanned id targetRef role elementKey accessibleName =>
    s.scan contract id targetRef role elementKey accessibleName
  | .captured id nonce => s.capture id nonce
  | .proposed id => s.decideCall contract id
  | .decided id grantId granted checked frames =>
    s.grantCall contract id grantId granted checked frames
  | .located id visible currentKey currentName => s.locateCall contract id visible currentKey currentName
  | .acted id result => s.finishCall id result
  | .reported id observationRef => s.reportCall id observationRef
  | .abandoned id => s.setCall id none

def BrowserSystem.run (contract : SessionContract) (events : List SessionEvent) : BrowserSystem :=
  events.foldl (BrowserSystem.step contract) {}

end Atlas.Runtime
