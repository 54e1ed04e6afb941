import AtlasTestOps.Runtime.Control

/-! Browser runtime reports: the facts a Browser Worker reports about one execution, each
linked by its digest to the one before it, and the contract they belong to. -/

namespace Atlas.Runtime

open Atlas

inductive BrowserRuntimeReportKind
  | executionStarted | nodeStarted | observationCaptured | plannerCompleted | actionProposed
  | policyDecided | actionExecuted | artifactCaptured | assertionEvaluated | nodeCompleted
  | executionBlocked | executionCompleted
deriving DecidableEq, Repr

def BrowserRuntimeReportKind.value : BrowserRuntimeReportKind → String
  | .executionStarted => "execution.started"
  | .nodeStarted => "node.started"
  | .observationCaptured => "observation.captured"
  | .plannerCompleted => "planner.completed"
  | .actionProposed => "action.proposed"
  | .policyDecided => "policy.decided"
  | .actionExecuted => "action.executed"
  | .artifactCaptured => "artifact.captured"
  | .assertionEvaluated => "assertion.evaluated"
  | .nodeCompleted => "node.completed"
  | .executionBlocked => "execution.blocked"
  | .executionCompleted => "execution.completed"

inductive BrowserActionKind
  | observe | openRoute | activate | enterText | chooseOption | keypress | scroll
  | waitForCondition | captureView | evaluateAssertion
deriving DecidableEq, Repr

inductive BrowserActionRisk
  | read | input | navigate | mutation
deriving DecidableEq, Repr

/-- `_ACTION_RISK_RULES` -/
def actionRisks : BrowserActionKind → List BrowserActionRisk
  | .openRoute => [.navigate]
  | .activate => [.navigate, .mutation]
  | .enterText | .chooseOption | .keypress => [.input]
  | .observe | .scroll | .waitForCondition | .captureView | .evaluateAssertion => [.read]

inductive BrowserPolicyDecisionKind
  | allow | deny | requireApproval
deriving DecidableEq, Repr

inductive BrowserPlanningMode
  | deterministic | openaiResponses
deriving DecidableEq, Repr

inductive BrowserPlannerStatus
  | resolved | fallback
deriving DecidableEq, Repr

inductive AssertionStatus
  | passed | failed | inconclusive
deriving DecidableEq, Repr

inductive EvidenceArtifactKind
  | screenshot | trace | domSummary | ariaSnapshot | networkSummary | consoleSummary
  | toolInvocation
deriving DecidableEq, Repr

inductive ArtifactIntegrity
  | verified | invalid
deriving DecidableEq, Repr

/-- The frozen shapes of `_REPORT_PAYLOAD_KEYS`, one for each kind; a payload of another
shape is not built. -/
inductive BrowserReportPayload
  | executionStarted (safeSummary planDigest : String)
  | nodeStarted (safeSummary nodeId nodeKind versionRef : String)
  | observationCaptured (safeSummary observationRef observationDigest pageRef : String)
      (pageRevision : ℕ) (routeKey : Option String) (targetCount : ℕ)
  | plannerCompleted (safeSummary : String) (planningMode : BrowserPlanningMode)
      (provider model : String) (externalCall : Bool) (status : BrowserPlannerStatus)
      (latencyMs inputUnits outputUnits : ℕ)
      (modelProfileRef promptBundleRef reasoningPolicyRef selectedTargetRole : String)
  | actionProposed (safeSummary : String) (action : BrowserActionKind) (risk : BrowserActionRisk)
      (nodeId : String) (targetRef routeKey : Option String) (proposalDigest : String)
  | policyDecided (safeSummary : String) (decision : BrowserPolicyDecisionKind)
      (policyDigest decisionDigest : String) (matchedRules : List String)
  | actionExecuted (safeSummary receiptId receiptDigest grantId : String)
      (action : BrowserActionKind) (status : LiveActionExecutionStatus) (resultingPageRevision : ℕ)
  | artifactCaptured (safeSummary artifactId artifactInputDigest : String)
      (kind : EvidenceArtifactKind) (contentDigest : String) (sizeBytes : ℕ)
      (integrity : ArtifactIntegrity)
  | assertionEvaluated (safeSummary assertionId assertionInputDigest : String)
      (status : AssertionStatus) (expectedDigest : String)
  | nodeCompleted (safeSummary nodeId : String) (assertionResultCount artifactCount : ℕ)
  | executionBlocked (safeSummary failureType : String)
  | executionCompleted (safeSummary : String) (assertionResultCount artifactCount : ℕ)
deriving DecidableEq, Repr

namespace BrowserReportPayload

def kind : BrowserReportPayload → BrowserRuntimeReportKind
  | executionStarted .. => .executionStarted
  | nodeStarted .. => .nodeStarted
  | observationCaptured .. => .observationCaptured
  | plannerCompleted .. => .plannerCompleted
  | actionProposed .. => .actionProposed
  | policyDecided .. => .policyDecided
  | actionExecuted .. => .actionExecuted
  | artifactCaptured .. => .artifactCaptured
  | assertionEvaluated .. => .assertionEvaluated
  | nodeCompleted .. => .nodeCompleted
  | executionBlocked .. => .executionBlocked
  | executionCompleted .. => .executionCompleted

def safeSummary : BrowserReportPayload → String
  | executionStarted s _ | nodeStarted s _ _ _ | observationCaptured s _ _ _ _ _ _
  | plannerCompleted s _ _ _ _ _ _ _ _ _ _ _ _ | actionProposed s _ _ _ _ _ _
  | policyDecided s _ _ _ _ | actionExecuted s _ _ _ _ _ _ | artifactCaptured s _ _ _ _ _ _
  | assertionEvaluated s _ _ _ _ | nodeCompleted s _ _ _ | executionBlocked s _
  | executionCompleted s _ _ => s

/-- `payload.get("decision")` -/
def decision : BrowserReportPayload → Option BrowserPolicyDecisionKind
  | policyDecided _ d _ _ _ => some d
  | _ => none

/-- `payload.get("action")` -/
def action : BrowserReportPayload → Option BrowserActionKind
  | actionProposed _ a _ _ _ _ _ => some a
  | actionExecuted _ _ _ _ a _ _ => some a
  | _ => none

end BrowserReportPayload

/-! The texts a report may carry. -/

def isReferenceChar (c : Char) : Bool := c.isAlphanum || c ∈ ['.', '_', ':', '@', '/', '-']

/-- `REFERENCE_PATTERN`: one letter or digit and at most 159 reference characters. -/
def isReportReference (s : String) : Bool :=
  match s.toList with
  | [] => false
  | c :: cs => c.isAlphanum && cs.length ≤ 159 && cs.all isReferenceChar

/-- `^<start>_[A-Za-z0-9_-]{20,160}$` -/
def isPrefixedReference (start s : String) : Bool :=
  let rest := s.toList.drop (start.length + 1)
  (start.toList ++ ['_']).isPrefixOf s.toList && 20 ≤ rest.length && rest.length ≤ 160 &&
    rest.all fun c => c.isAlphanum || c = '_' || c = '-'

def isDigestText (s : String) : Bool := "sha256:".toList.isPrefixOf s.toList && s.length = 71

namespace BrowserReportPayload

/-- `_REPORT_REFERENCE_FIELDS`, with what each field has to match. -/
def references : BrowserReportPayload → List (String × Bool)
  | nodeStarted _ nodeId nodeKind versionRef => [("nodeId", isReportReference nodeId),
      ("nodeKind", isReportReference nodeKind), ("versionRef", isReportReference versionRef)]
  | observationCaptured _ observationRef _ pageRef _ routeKey _ =>
      [("observationRef", isPrefixedReference "observation" observationRef),
        ("pageRef", isPrefixedReference "page" pageRef), ("routeKey", routeKey.all isReportReference)]
  | plannerCompleted _ _ _ _ _ _ _ _ _ modelProfileRef promptBundleRef reasoningPolicyRef role =>
      [("modelProfileRef", isReportReference modelProfileRef),
        ("promptBundleRef", isReportReference promptBundleRef),
        ("reasoningPolicyRef", isReportReference reasoningPolicyRef),
        ("selectedTargetRole", isReportReference role)]
  | actionProposed _ _ _ nodeId targetRef routeKey _ => [("nodeId", isReportReference nodeId),
      ("targetRef", targetRef.all (isPrefixedReference "target")),
      ("routeKey", routeKey.all isReportReference)]
  | assertionEvaluated _ assertionId _ _ _ => [("assertionId", isReportReference assertionId)]
  | nodeCompleted _ nodeId _ _ => [("nodeId", isReportReference nodeId)]
  | executionBlocked _ failureType => [("failureType", isReportReference failureType)]
  | _ => []

def digests : BrowserReportPayload → List (String × String)
  | executionStarted _ planDigest => [("planDigest", planDigest)]
  | observationCaptured _ _ observationDigest _ _ _ _ => [("observationDigest", observationDigest)]
  | actionProposed _ _ _ _ _ _ proposalDigest => [("proposalDigest", proposalDigest)]
  | policyDecided _ _ policyDigest decisionDigest _ =>
      [("policyDigest", policyDigest), ("decisionDigest", decisionDigest)]
  | actionExecuted _ _ receiptDigest _ _ _ _ => [("receiptDigest", receiptDigest)]
  | artifactCaptured _ _ artifactInputDigest _ contentDigest _ _ =>
      [("contentDigest", contentDigest), ("artifactInputDigest", artifactInputDigest)]
  | assertionEvaluated _ _ assertionInputDigest _ expectedDigest =>
      [("expectedDigest", expectedDigest), ("assertionInputDigest", assertionInputDigest)]
  | _ => []

/-- The rules of single kinds. -/
def rules : BrowserReportPayload → List (Bool × String)
  | actionProposed _ action risk _ _ _ _ =>
      [(risk ∉ actionRisks action, "browser report action risk is invalid")]
  | plannerCompleted _ mode provider model externalCall _ _ _ _ _ _ _ _ =>
      [(provider.length < 1 || 160 < provider.length, "browser planner provider is invalid"),
        (model.length < 1 || 160 < model.length, "browser planner model is invalid"),
        (mode = .deterministic && externalCall, "deterministic planner cannot claim an external call"),
        (mode = .openaiResponses && !externalCall, "OpenAI planner must record an external call")]
  | policyDecided _ _ _ _ matchedRules =>
      [(!matchedRules.all isReportReference, "browser report matchedRules is invalid")]
  | _ => []

end BrowserReportPayload

/-- What the chain digest of a report is taken over. -/
structure BrowserReportHeader where
  executionContractId : Uuid
  executionContractDigest : Digest
  reportId : Uuid
  sequence : ℕ
  kind : BrowserRuntimeReportKind
  actorSlot : Option String
  actionId : Option Uuid
  occurredAt : Instant
  previousChainDigest : Digest
  payloadDigest : Digest
deriving DecidableEq, Repr

structure AppendBrowserRuntimeReport extends BrowserReportHeader where
  payload : BrowserReportPayload
  chainDigest : Digest
deriving DecidableEq, Repr

/-- `canonical_digest` on payloads and on report headers. -/
structure ReportDigests where
  payload : BrowserReportPayload → Digest
  chain : BrowserReportHeader → Digest

/-- `CHAIN_START_DIGEST` -/
def chainStartDigest : Digest := 0

def BrowserRuntimeReportKind.isAction (kind : BrowserRuntimeReportKind) : Bool :=
  kind ∈ [.actionProposed, .policyDecided, .actionExecuted]

def BrowserRuntimeReportKind.isExecution (kind : BrowserRuntimeReportKind) : Bool :=
  kind ∈ [.executionStarted, .executionCompleted, .executionBlocked]

/-- The field constraints, `validate_digests` and `_validate_report_semantics`. The screening of
payload texts for secrets and the parsing of identities only refuse more. -/
def AppendBrowserRuntimeReport.violation (digests : ReportDigests) (report : AppendBrowserRuntimeReport) :
    Option String :=
  firstViolation ([
    (!(1 ≤ report.sequence && report.sequence ≤ 10000000), "sequence"),
    (!report.actorSlot.all isReportReference, "actorSlot"),
    (report.payloadDigest ≠ digests.payload report.payload, "payloadDigest must match the report payload"),
    (report.chainDigest ≠ digests.chain report.toBrowserReportHeader,
      "chainDigest must match the canonical report"),
    (report.sequence = 1 && report.previousChainDigest ≠ chainStartDigest,
      "the first report must use the chain start digest"),
    (report.kind ≠ report.payload.kind, report.kind.value ++ " payload does not match its frozen shape"),
    (report.payload.safeSummary.length < 1 || 500 < report.payload.safeSummary.length,
      "browser report safeSummary is invalid"),
    (report.kind.isAction && (report.actorSlot.isNone || report.actionId.isNone),
      "action reports require actorSlot and actionId"),
    (!report.kind.isAction && report.actionId.isSome, "only action reports may carry actionId"),
    (report.kind = .observationCaptured && report.actorSlot.isNone, "observation reports require actorSlot"),
    (report.kind = .plannerCompleted && report.actorSlot.isNone, "planner reports require actorSlot"),
    (report.kind.isExecution && report.actorSlot.isSome, "execution reports cannot carry actorSlot")] ++
    report.payload.references.map (fun r => (!r.2, "browser report " ++ r.1 ++ " is invalid")) ++
    report.payload.digests.map (fun d => (!isDigestText d.2, "browser report " ++ d.1 ++ " is invalid")) ++
    report.payload.rules)

/-- `build_browser_runtime_report` -/
def buildBrowserRuntimeReport (digests : ReportDigests) (executionContractId : Uuid)
    (executionContractDigest : Digest) (reportId : Uuid) (sequence : ℕ)
    (kind : BrowserRuntimeReportKind) (payload : BrowserReportPayload) (occurredAt : Instant)
    (previousChainDigest : Digest) (actorSlot : Option String) (actionId : Option Uuid) :
    AppendBrowserRuntimeReport :=
  let header : BrowserReportHeader :=
    { executionContractId := executionContractId, executionContractDigest := executionContractDigest
      reportId := reportId, sequence := sequence, kind := kind, actorSlot := actorSlot
      actionId := actionId, occurredAt := occurredAt, previousChainDigest := previousChainDigest
      payloadDigest := digests.payload payload }
  { header with payload := payload, chainDigest := digests.chain header }

/-! The rows. -/

inductive DebugRunLifecycle
  | created | binding | ready | running | finalizing | terminated
deriving DecidableEq, Repr

structure ExecutionContract where
  id : Uuid
  debugRunId : Uuid
  contentDigest : Digest
  workerIdentity : String
  actorSlots : List String
  createdAt : Instant
  executionDeadline : Instant
deriving DecidableEq, Repr

structure BrowserRuntimeReport where
  tenantId : Uuid
  projectId : Uuid
  environmentId : Uuid
  debugRunId : Uuid
  value : AppendBrowserRuntimeReport
  recordedAt : Instant
deriving DecidableEq, Repr

end Atlas.Runtime
