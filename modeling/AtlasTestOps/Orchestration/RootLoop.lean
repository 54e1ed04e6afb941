import AtlasTestOps.Orchestration.TaskRoot

/-! The replies that the Root accepts while it works on a page, and its calls for children. The
service that starts them is a parameter. -/

namespace Atlas.Orchestration

open Atlas Atlas.Task

/-- What `_normalize_child_result` ensures of the outcome of a dispatched child. -/
def namesDispatch (unit : TaskUnitDispatchPayload) (outcome : TaskAttemptWorkflowPayload) : Bool :=
  outcome.executionUnitId = unit.executionUnitId ∧ outcome.unitAttemptId = unit.unitAttemptId ∧
    outcome.ordinal = unit.ordinal

/-- `request_by_unit.get` -/
def outcomeOf (outcomes : List TaskAttemptWorkflowPayload) (executionUnitId : Uuid) :
    Option TaskAttemptWorkflowPayload :=
  outcomes.find? fun o => o.executionUnitId = executionUnitId

def TaskAttemptBatchSettlePayload.decidedUnits (answer : TaskAttemptBatchSettlePayload) :
    List Uuid :=
  answer.retryAttempts.map (·.executionUnitId) ++ answer.finalOutcomes.map (·.executionUnitId)

/-- `_validate_attempt_batch_settlement` -/
def validBatchSettlement (request : TaskRunWorkflowInput)
    (outcomes : List TaskAttemptWorkflowPayload) (answer : TaskAttemptBatchSettlePayload) : Bool :=
  (1 ≤ outcomes.length ∧ outcomes.length ≤ taskRunChildBatchSize) &&
    if answer.state ≠ .settled then
      answer.retryAttempts.isEmpty && answer.finalOutcomes.isEmpty
    else
      (outcomes.map (·.executionUnitId)).Nodup &&
        outcomes.all (fun o => o.executionUnitId ∈ answer.decidedUnits) &&
        answer.decidedUnits.all (fun id => id ∈ outcomes.map (·.executionUnitId)) &&
        answer.retryAttempts.length + answer.finalOutcomes.length = outcomes.length &&
        answer.retryAttempts.all (fun retry =>
          (outcomeOf outcomes retry.executionUnitId).any fun previous =>
            previous.status = .infraError ∧ validDispatchIdentity request retry ∧
              retry.ordinal = previous.ordinal) &&
        answer.finalOutcomes.all fun final =>
          outcomeOf outcomes final.executionUnitId = some final

/-- `_pending_dispatch_canceled` -/
def pendingDispatchCanceled (unit : TaskUnitDispatchPayload) : TaskAttemptWorkflowPayload :=
  { pendingRetryCanceled unit with errorCode := some "TASK_RUN_CANCELED_BEFORE_DISPATCH" }

namespace TaskRoot

/-- The outcomes that one round of `_settle_canceled_page` submits. -/
def drainOutcomes (r : TaskRoot) : List TaskAttemptWorkflowPayload :=
  match r.unsettled with
  | some (_, outcomes) => outcomes
  | none => r.batch.map fun unit =>
    if r.latestByOrdinal.any fun o =>
        o.ordinal = unit.ordinal ∧ o.unitAttemptId ≠ unit.unitAttemptId then
      pendingRetryCanceled unit
    else pendingDispatchCanceled unit

def pendingBatchConflict : String := "TASK_ROOT_PENDING_BATCH_CONFLICT"

def outcomeOrderInvalid : String := "TASK_ROOT_OUTCOME_ORDER_INVALID"

/-- The reply passes its validator; an Activity does not fail with a code of the Root's own. -/
def accepts (r : TaskRoot) : RootEvent → Bool
  | .settled answer =>
    match r.stage, r.unsettled with
    | .settling, some (_, outcomes) => validBatchSettlement r.request outcomes answer
    | .draining, _ => validBatchSettlement r.request r.drainOutcomes answer
    | _, _ => true
  | .childrenEnded ended =>
    r.stage ≠ .children ∨ List.Forall₂ (fun u o => namesDispatch u o = true) r.batch ended
  | .refused errorCode => errorCode ≠ pendingBatchConflict ∧ errorCode ≠ outcomeOrderInvalid
  | _ => true

end TaskRoot

/-! ### The children -/

inductive WorkflowIdReusePolicy
  | allowDuplicate | allowDuplicateFailedOnly | rejectDuplicate | terminateIfRunning
deriving DecidableEq, Repr

/-- What `execute_child_workflow` is called with. -/
structure ChildWorkflowCall where
  id : WorkflowId
  idReusePolicy : WorkflowIdReusePolicy
  unit : TaskUnitDispatchPayload
deriving DecidableEq, Repr

/-- The calls of a run, each with its answer: a child was started. -/
abbrev ChildWorkflowLog := List (ChildWorkflowCall × Bool)

/-- The Workflow service: it answers a call by the calls and answers before it. -/
abbrev WorkflowService := ChildWorkflowLog → ChildWorkflowCall → Bool

/-- What the service documents of `REJECT_DUPLICATE`: an id under which a Workflow was started is
not used again, whether that Workflow is closed or not. -/
def RejectsDuplicates (service : WorkflowService) : Prop :=
  ∀ log call, call.idReusePolicy = .rejectDuplicate →
    (∃ earlier, (earlier, true) ∈ log ∧ earlier.id = call.id) → service log call = false

/-- The call that the Root makes for a dispatch. -/
def childCall (unit : TaskUnitDispatchPayload) : ChildWorkflowCall where
  id := unit.unitAttemptWorkflowId
  idReusePolicy := .rejectDuplicate
  unit := unit

def executeChildWorkflow (service : WorkflowService) (log : ChildWorkflowLog)
    (unit : TaskUnitDispatchPayload) : ChildWorkflowLog :=
  log ++ [(childCall unit, service log (childCall unit))]

/-- A run of the Root with the calls for its children. -/
structure RootExecution where
  root : TaskRoot
  calls : ChildWorkflowLog
deriving DecidableEq, Repr

namespace RootExecution

/-- The dispatches whose children were started. -/
def started (x : RootExecution) : List TaskUnitDispatchPayload :=
  (x.calls.filter fun answered => answered.2).map fun answered => answered.1.unit

/-- An authorized batch calls for its children. A call that is rejected raises, and what the Root
gathers for it is a failed child. -/
def step (service : WorkflowService) (x : RootExecution) (e : RootEvent) : RootExecution where
  root := x.root.step e
  calls :=
    if x.root.stage = .preparing ∧ (x.root.step e).stage = .children then
      x.root.batch.foldl (executeChildWorkflow service) x.calls
    else x.calls

/-- Every reply of the list passes its validator when it arrives. -/
def acceptsAll (service : WorkflowService) (x : RootExecution) : List RootEvent → Bool
  | [] => true
  | e :: events => x.root.accepts e && (x.step service e).acceptsAll service events

end RootExecution

/-- What one run of the Root reaches while every reply passes its validator. -/
inductive RootReaches (service : WorkflowService) (request : TaskRunWorkflowInput) (early : Bool) :
    RootExecution → Prop
  | start : RootReaches service request early ⟨TaskRoot.start request early, []⟩
  | step {x : RootExecution} {e : RootEvent} (h : RootReaches service request early x)
      (haccepts : x.root.accepts e = true) : RootReaches service request early (x.step service e)

end Atlas.Orchestration
