import AtlasTestOps.Orchestration.Payloads

/-! `AtlasTaskRunWorkflow`: the Root loads one page of dispatches, runs and settles it batch by
batch, and then either continues as a new run behind that page or finishes the TaskRun. The
answers of the Activities and of the children arrive as events. -/

namespace Atlas.Orchestration

open Atlas Atlas.Task

structure TaskDispatchPlanPayload where
  tenantId : Uuid
  projectId : Uuid
  taskRunId : Uuid
  requestDigest : Digest
  manifestHash : Digest
  units : List TaskUnitDispatchPayload
  cancelRequested : Bool
  afterOrdinal : ℕ
  totalUnits : Option ℕ
  hasMore : Bool
deriving DecidableEq, Repr

inductive TaskRunControlState
  | dispatchable | paused | canceling | closed
deriving DecidableEq, Repr

inductive TaskBatchPrepareStatus
  | authorized | pauseRequested | cancelRequested
deriving DecidableEq, Repr

def taskActivityMaximumSeconds : ℕ := 3600

/-- `_validate_dispatch_identity` -/
def validDispatchIdentity (request : TaskRunWorkflowInput) (unit : TaskUnitDispatchPayload) :
    Bool :=
  1 ≤ unit.ordinal ∧
    unit.unitAttemptWorkflowId = unitAttemptWorkflowId request.tenantId unit.unitAttemptId ∧
    unit.notBefore < unit.executionDeadline ∧
    1 ≤ unit.activityTimeoutSeconds ∧ unit.activityTimeoutSeconds ≤ taskActivityMaximumSeconds

/-- A plan without a total holds the whole Run. -/
def TaskDispatchPlanPayload.total (plan : TaskDispatchPlanPayload) : ℕ :=
  plan.totalUnits.getD plan.units.length

def TaskDispatchPlanPayload.lastOrdinal (plan : TaskDispatchPlanPayload) : ℕ :=
  plan.afterOrdinal + plan.units.length

/-- `_validate_dispatch_plan` -/
def validDispatchPlan (request : TaskRunWorkflowInput) (plan : TaskDispatchPlanPayload) : Bool :=
  plan.tenantId = request.tenantId ∧ plan.projectId = request.projectId ∧
    plan.taskRunId = request.taskRunId ∧ plan.requestDigest = request.requestDigest ∧
    plan.manifestHash = request.manifestHash ∧
    plan.afterOrdinal = request.dispatchAfterOrdinal ∧
    1 ≤ plan.units.length ∧ plan.units.length ≤ taskRunDispatchPageSize ∧
    1 ≤ plan.total ∧ plan.total ≤ taskRunMaximumUnits ∧ plan.lastOrdinal ≤ plan.total ∧
    plan.hasMore = decide (plan.lastOrdinal < plan.total) ∧
    plan.units.map (·.ordinal) = List.range' (plan.afterOrdinal + 1) plan.units.length ∧
    (plan.units.map (·.executionUnitId)).Nodup ∧ (plan.units.map (·.unitAttemptId)).Nodup ∧
    (plan.units.map (·.unitAttemptWorkflowId)).Nodup ∧
    plan.units.all (validDispatchIdentity request)

/-- Where a run of the Root is: the Activity or the children it awaits, or its end. -/
inductive RootStage
  | loading | checkpoint | settling | preparing | children | lastCheckpoint | draining | finishing
  | finished
  | continued (next : TaskRunWorkflowInput)
  | failed (errorCode : String)
deriving DecidableEq, Repr

/-- The dicts keyed by ordinal are lists of outcomes with one entry for each ordinal. -/
structure TaskRoot where
  request : TaskRunWorkflowInput
  stage : RootStage
  cancelRequested : Bool
  plan : Option TaskDispatchPlanPayload
  pending : List TaskUnitDispatchPayload
  unsettled : Option (List TaskUnitDispatchPayload × List TaskAttemptWorkflowPayload)
  finalByOrdinal : List TaskAttemptWorkflowPayload
  latestByOrdinal : List TaskAttemptWorkflowPayload
deriving DecidableEq, Repr

inductive RootEvent
  /-- `request_cancel`, a CANCEL command or the cancellation of what is awaited -/
  | cancel
  | planLoaded (plan : TaskDispatchPlanPayload)
  | checkpoint (state : TaskRunControlState)
  | settled (answer : TaskAttemptBatchSettlePayload)
  /-- the wait for the backoff of a batch ends with a control Signal -/
  | interrupted
  | prepared (status : TaskBatchPrepareStatus)
  | childrenEnded (outcomes : List TaskAttemptWorkflowPayload)
  | finished
  /-- an Activity fails for good, or its answer is refused -/
  | refused (errorCode : String)
deriving DecidableEq, Repr

/-- One assignment to a dict keyed by ordinal. -/
def recordOutcome (outcomes : List TaskAttemptWorkflowPayload)
    (outcome : TaskAttemptWorkflowPayload) : List TaskAttemptWorkflowPayload :=
  outcome :: outcomes.filter fun o => o.ordinal ≠ outcome.ordinal

def recordOutcomes (outcomes new : List TaskAttemptWorkflowPayload) :
    List TaskAttemptWorkflowPayload :=
  new.foldl recordOutcome outcomes

/-- `_pending_retry_canceled` -/
def pendingRetryCanceled (unit : TaskUnitDispatchPayload) : TaskAttemptWorkflowPayload where
  executionUnitId := unit.executionUnitId
  unitAttemptId := unit.unitAttemptId
  ordinal := unit.ordinal
  status := .canceled
  errorCode := some "TASK_RUN_CANCELED_BEFORE_RETRY"
  retryAfterSeconds := none
  resultRefId := none
  sealContentHash := none

namespace TaskRoot

/-- The first steps of `run`; `early` says whether a cancel was signalled before it began. -/
def start (request : TaskRunWorkflowInput) (early : Bool) : TaskRoot where
  request := request
  stage := if request.dispatchAfterOrdinal < taskRunMaximumUnits then .loading
    else .failed "TASK_ROOT_WORKFLOW_INPUT_INVALID"
  cancelRequested := early || request.continuationCancelRequested
  plan := none
  pending := []
  unsettled := none
  finalByOrdinal := []
  latestByOrdinal := []

def fail (r : TaskRoot) (errorCode : String) : TaskRoot := { r with stage := .failed errorCode }

/-- The outcomes of a small Run that was canceled: a Unit whose retry is still pending counts as
canceled before that retry. -/
def canceledOutcomes (r : TaskRoot) : List TaskAttemptWorkflowPayload :=
  r.pending.foldl
    (fun outcomes unit =>
      if outcomes.any fun o => o.ordinal = unit.ordinal ∧ o.unitAttemptId ≠ unit.unitAttemptId then
        recordOutcome outcomes (pendingRetryCanceled unit)
      else outcomes)
    (recordOutcomes r.finalByOrdinal r.latestByOrdinal)

def partitioned (plan : TaskDispatchPlanPayload) : Bool := taskRunDispatchPageSize < plan.total

def outcomes (r : TaskRoot) (plan : TaskDispatchPlanPayload) : List TaskAttemptWorkflowPayload :=
  (if r.cancelRequested && !partitioned plan then r.canceledOutcomes
    else r.finalByOrdinal).insertionSort fun a b => a.ordinal ≤ b.ordinal

/-- Behind the loop: continue behind this page, or finish. -/
def leave (r : TaskRoot) (plan : TaskDispatchPlanPayload) : TaskRoot :=
  let ordered := r.outcomes plan
  if ordered.map (·.ordinal) ≠ List.range' (plan.afterOrdinal + 1) ordered.length then
    r.fail "TASK_ROOT_OUTCOME_ORDER_INVALID"
  else if plan.hasMore then
    if ordered.length ≠ plan.units.length ∨ r.unsettled ≠ none then
      r.fail "TASK_ROOT_CONTINUATION_STATE_INVALID"
    else match plan.units.getLast? with
      | none => r.fail "IndexError"
      | some last =>
        { r with
          stage := .continued
            { r.request with
              dispatchAfterOrdinal := last.ordinal
              continuationCancelRequested := r.cancelRequested } }
  else { r with stage := .finishing }

/-- `while unsettled is not None or pending` of `_settle_canceled_page` -/
def drain (r : TaskRoot) (plan : TaskDispatchPlanPayload) : TaskRoot :=
  if r.unsettled ≠ none ∨ r.pending ≠ [] then { r with stage := .draining } else r.leave plan

/-- Behind the last checkpoint. -/
def close (r : TaskRoot) (plan : TaskDispatchPlanPayload) : TaskRoot :=
  if r.cancelRequested && partitioned plan then r.drain plan else r.leave plan

/-- Behind the loop, by its condition or by a `break`. -/
def endLoop (r : TaskRoot) (plan : TaskDispatchPlanPayload) : TaskRoot :=
  if !r.cancelRequested && r.finalByOrdinal.length = plan.units.length then
    { r with stage := .lastCheckpoint }
  else r.close plan

/-- `while pending or unsettled is not None` -/
def loop (r : TaskRoot) (plan : TaskDispatchPlanPayload) : TaskRoot :=
  if r.pending ≠ [] ∨ r.unsettled ≠ none then { r with stage := .checkpoint } else r.endLoop plan

def batch (r : TaskRoot) : List TaskUnitDispatchPayload := r.pending.take taskRunChildBatchSize

/-- The dispatch plan arrives. -/
def load (r : TaskRoot) (plan : TaskDispatchPlanPayload) : TaskRoot :=
  let loaded := { r with plan := some plan }
  if validDispatchPlan r.request plan then
    { loaded with
      cancelRequested := r.cancelRequested || plan.cancelRequested
      pending := plan.units }.loop plan
  else loaded.fail "TASK_ROOT_DISPATCH_PLAN_INVALID"

def control (r : TaskRoot) (plan : TaskDispatchPlanPayload) (state : TaskRunControlState) :
    TaskRoot :=
  if r.cancelRequested ∨ state = .canceling then { r with cancelRequested := true }.endLoop plan
  else match state with
    | .closed => r.fail "TASK_ROOT_CLOSED_BEFORE_FINISH"
    -- the wait for a command ends at the next checkpoint
    | .paused => r
    | _ => { r with stage := if r.unsettled.isSome then .settling else .preparing }

/-- Both loops take the settled batch off the front of `pending` and queue its retries. -/
def takeSettled (r : TaskRoot) (batch : List TaskUnitDispatchPayload)
    (answer : TaskAttemptBatchSettlePayload) (next : TaskRoot → TaskRoot) : TaskRoot :=
  let recorded :=
    { r with finalByOrdinal := recordOutcomes r.finalByOrdinal answer.finalOutcomes }
  if r.pending.take batch.length ≠ batch then recorded.fail "TASK_ROOT_PENDING_BATCH_CONFLICT"
  else next
    { recorded with
      pending := r.pending.drop batch.length ++ answer.retryAttempts
      unsettled := none }

def settle (r : TaskRoot) (plan : TaskDispatchPlanPayload)
    (answer : TaskAttemptBatchSettlePayload) : TaskRoot :=
  match answer.state, r.unsettled with
  | .cancelRequested, _ => { r with cancelRequested := true }.endLoop plan
  | .pauseRequested, _ => r.loop plan
  | .settled, some (batch, _) => r.takeSettled batch answer fun s => s.loop plan
  | .settled, none => r

def settleCanceled (r : TaskRoot) (plan : TaskDispatchPlanPayload)
    (answer : TaskAttemptBatchSettlePayload) : TaskRoot :=
  if answer.state ≠ .settled then r.fail "TASK_ROOT_CANCEL_DRAIN_DEFERRED"
  else r.takeSettled (match r.unsettled with | some (batch, _) => batch | none => r.batch) answer
    fun s => s.drain plan

def prepare (r : TaskRoot) (plan : TaskDispatchPlanPayload) (status : TaskBatchPrepareStatus) :
    TaskRoot :=
  if r.cancelRequested ∨ status = .cancelRequested then
    { r with cancelRequested := true }.endLoop plan
  else if status = .pauseRequested then r.loop plan
  else { r with stage := .children }

def gather (r : TaskRoot) (plan : TaskDispatchPlanPayload)
    (ended : List TaskAttemptWorkflowPayload) : TaskRoot :=
  { r with
    latestByOrdinal := recordOutcomes r.latestByOrdinal ended
    unsettled := some (r.batch, ended) }.loop plan

def lastControl (r : TaskRoot) (plan : TaskDispatchPlanPayload) (state : TaskRunControlState) :
    TaskRoot :=
  { r with
    cancelRequested := r.cancelRequested || decide (state = TaskRunControlState.canceling)
  }.close plan

/-- What an event does in a run that has its plan. -/
def page (r : TaskRoot) (plan : TaskDispatchPlanPayload) : RootEvent → TaskRoot
  | .checkpoint state =>
    match r.stage with
    | .checkpoint => r.control plan state
    | .lastCheckpoint => r.lastControl plan state
    | _ => r
  | .settled answer =>
    match r.stage with
    | .settling => r.settle plan answer
    | .draining => r.settleCanceled plan answer
    | _ => r
  | .interrupted => if r.stage = .preparing then r.loop plan else r
  | .prepared status => if r.stage = .preparing then r.prepare plan status else r
  | .childrenEnded ended => if r.stage = .children then r.gather plan ended else r
  | .finished => if r.stage = .finishing then { r with stage := .finished } else r
  | _ => r

def ended (r : TaskRoot) : Bool :=
  match r.stage with
  | .finished | .continued _ | .failed _ => true
  | _ => false

def step (r : TaskRoot) (e : RootEvent) : TaskRoot :=
  if r.ended then r
  else match e, r.plan with
    | .cancel, _ => { r with cancelRequested := true }
    | .refused errorCode, _ => r.fail errorCode
    | .planLoaded plan, none => r.load plan
    | .planLoaded _, some _ => r
    | e, some plan => r.page plan e
    | _, none => r

def run (r : TaskRoot) (events : List RootEvent) : TaskRoot := events.foldl step r

end TaskRoot

/-- The chain of continue-as-new runs of one Root, each in the state it has reached; only the
last may still be going. `Answers` are the plans that the Activity may return. -/
inductive RootChain (Answers : TaskRunWorkflowInput → TaskDispatchPlanPayload → Prop) :
    TaskRunWorkflowInput → List TaskRoot → Prop
  | last {request : TaskRunWorkflowInput} {early : Bool} {events : List RootEvent}
      (hloaded : ∀ plan, RootEvent.planLoaded plan ∈ events → Answers request plan) :
      RootChain Answers request [(TaskRoot.start request early).run events]
  | next {request continued : TaskRunWorkflowInput} {early : Bool} {events : List RootEvent}
      {roots : List TaskRoot}
      (hloaded : ∀ plan, RootEvent.planLoaded plan ∈ events → Answers request plan)
      (hstage : ((TaskRoot.start request early).run events).stage = .continued continued)
      (hrest : RootChain Answers continued roots) :
      RootChain Answers request ((TaskRoot.start request early).run events :: roots)

end Atlas.Orchestration
