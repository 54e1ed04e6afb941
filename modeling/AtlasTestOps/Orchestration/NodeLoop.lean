import AtlasTestOps.Service.FixtureSystem

/-! `_execute_node_with_reconcile`: the fixture workflow executes a node, looks its outcome up
while it is uncertain, and executes it again once it is READY. The transactions of other
workers, of the sweeper and of the API fall between those of its calls. -/

namespace Atlas.Orchestration

open Atlas Atlas.Fixture Atlas.Store Atlas.Service Txn

/-! ### The two Activities -/

/-- Whatever the rest of the platform does. -/
abbrev Meanwhile (worker : FixtureWorker) : FixtureSystem → FixtureSystem → Prop :=
  FixtureSystemRun worker fun _ _ => True

/-- The answer to a `_NodeValidationFailure`. -/
def invalidResult (nodeId : String) (status : DataNodeRunStatus) (failure : FixtureFailure) :
    FixtureNodeActivityResult where
  nodeId := nodeId
  status := status
  failureCategory := some failure.category
  failureCode := some failure.code

def answerOf (result : Except Fault (FixtureNodeActivityResult × FixtureDb)) :
    Option FixtureNodeActivityResult :=
  match result with
  | .ok (answer, _) => some answer
  | .error _ => none

/-- What the transaction that ends a call answers. -/
def reportAnswer (worker : FixtureWorker) (e : FixtureEvent) (db : FixtureDb) :
    Option FixtureNodeActivityResult :=
  match e with
  | .failClaim claim uncertain failure providerRequestId now =>
    answerOf (failClaim claim uncertain failure providerRequestId now db)
  | .completeNode claim providerRequestId now =>
    answerOf (completeNode claim.run.id claim.node.nodeId providerRequestId now db)
  | .reconcileAbsent claim providerRequestId now =>
    answerOf (finishReconcileAbsent claim providerRequestId now db)
  | .reconcileInconclusive claim status failure providerRequestId retryable retryAfter now =>
    answerOf (finishReconcileInconclusive worker claim status failure providerRequestId retryable
      retryAfter now db)
  | .failReconciled claim failure now => answerOf (failReconciledClaim claim failure now db)
  | .completeReconciled claim providerRequestId now =>
    answerOf (completeReconciled claim providerRequestId now db)
  | _ => none

/-- The reports that may end an execution. The claim is handed on once its outcome is recorded. -/
def endsExecution (claim : NodeExecutionClaim) : FixtureEvent → Prop
  | .failClaim reported _ _ _ _ | .completeNode reported _ _ =>
    reported.run = claim.run ∧ reported.node.nodeId = claim.node.nodeId
  | _ => False

def endsLookup (claim : NodeReconcileClaim) : FixtureEvent → Prop
  | .reconcileAbsent reported _ _ | .reconcileInconclusive reported _ _ _ _ _ _
  | .failReconciled reported _ _ | .completeReconciled reported _ _ => reported = claim
  | _ => False

section Calls

variable (worker : FixtureWorker) (runId : Uuid) (nodeId : String) (s : FixtureSystem)

/-- A call of `execute_node` that returns. -/
inductive ExecuteCall : FixtureSystem → FixtureNodeActivityResult → Prop
  | answered {t u : FixtureSystem} {now : Instant} {answer : FixtureNodeActivityResult}
      {db' : FixtureDb} (hbefore : Meanwhile worker s t)
      (hclaim : Commits (claimNode worker runId nodeId now) t.db (.result answer) db')
      (hafter : Meanwhile worker ((FixtureEvent.claimNode runId nodeId now).apply worker t) u) :
      ExecuteCall u answer
  | invalid {t u v : FixtureSystem} {now finishedAt : Instant} {failure : FixtureFailure}
      {db' db'' : FixtureDb} (hbefore : Meanwhile worker s t)
      (hclaim : Commits (claimNode worker runId nodeId now) t.db (.invalid failure) db')
      (hmid : Meanwhile worker ((FixtureEvent.claimNode runId nodeId now).apply worker t) u)
      (hfail : Commits (failUnclaimedNode runId nodeId failure finishedAt) u.db () db'')
      (hafter : Meanwhile worker
        ((FixtureEvent.failUnclaimed runId nodeId failure finishedAt).apply worker u) v) :
      ExecuteCall v (invalidResult nodeId .failed failure)
  | reported {t u v : FixtureSystem} {now : Instant} {claim : NodeExecutionClaim}
      {answer : FixtureNodeActivityResult} {db' : FixtureDb} (hbefore : Meanwhile worker s t)
      (hclaim : Commits (claimNode worker runId nodeId now) t.db (.claimed claim) db')
      (hmid : Meanwhile worker ((FixtureEvent.claimNode runId nodeId now).apply worker t) u)
      (e : FixtureEvent) (hends : endsExecution claim e) (henabled : e.Enabled u)
      (hanswer : reportAnswer worker e u.db = some answer)
      (hafter : Meanwhile worker (e.apply worker u) v) : ExecuteCall v answer

/-- A call of `reconcile_node` that returns; its claim reads `t` at `now`. -/
inductive ReconcileCall (t : FixtureSystem) (now : Instant) :
    FixtureSystem → FixtureNodeActivityResult → Prop
  | answered {u : FixtureSystem} {answer : FixtureNodeActivityResult} {db' : FixtureDb}
      (hbefore : Meanwhile worker s t)
      (hclaim : Commits (claimReconcile worker runId nodeId now) t.db (.result answer) db')
      (hafter : Meanwhile worker
        ((FixtureEvent.claimReconcile runId nodeId now).apply worker t) u) :
      ReconcileCall t now u answer
  | invalid {u : FixtureSystem} {failure : FixtureFailure} {db' : FixtureDb}
      (hbefore : Meanwhile worker s t)
      (hclaim : Commits (claimReconcile worker runId nodeId now) t.db (.invalid failure) db')
      (hafter : Meanwhile worker
        ((FixtureEvent.claimReconcile runId nodeId now).apply worker t) u) :
      ReconcileCall t now u (invalidResult nodeId .outcomeUncertain failure)
  | reported {u v : FixtureSystem} {claim : NodeReconcileClaim}
      {answer : FixtureNodeActivityResult} {db' : FixtureDb} (hbefore : Meanwhile worker s t)
      (hclaim : Commits (claimReconcile worker runId nodeId now) t.db (.claimed claim) db')
      (hmid : Meanwhile worker ((FixtureEvent.claimReconcile runId nodeId now).apply worker t) u)
      (e : FixtureEvent) (hends : endsLookup claim e) (henabled : e.Enabled u)
      (hanswer : reportAnswer worker e u.db = some answer)
      (hafter : Meanwhile worker (e.apply worker u) v) : ReconcileCall t now v answer

end Calls

/-! ### The loop -/

inductive NodeActivity
  | execute | reconcile
deriving DecidableEq, Repr

/-- What the loop calls next on an outcome, if anything. -/
def nextActivity (outcome : FixtureNodeActivityResult) : Option NodeActivity :=
  if outcome.status = .ready then some .execute
  else if outcome.status = .outcomeUncertain ∧ outcome.failureCode ≠ some "RECONCILE_EXHAUSTED" then
    some .reconcile
  else none

/-- A node that the database holds in a terminal state: it is settled, or its outcome stays
unknown for good. -/
def nodeTerminal (n : DataNodeRun) : Bool :=
  n.status ∈ [.succeeded, .failed] || n.status = .outcomeUncertain && n.reconcileState = .exhausted

/-- The loop between two calls. -/
structure NodeLoop where
  system : FixtureSystem
  outcome : FixtureNodeActivityResult
  executions : ℕ
  reconciles : ℕ
  /-- The calls of `reconcile_node` that found the node in a terminal state. -/
  terminalReconciles : ℕ

def NodeLoop.executed (loop : NodeLoop) (s : FixtureSystem) (answer : FixtureNodeActivityResult) :
    NodeLoop :=
  { loop with system := s, outcome := answer, executions := loop.executions + 1 }

def NodeLoop.reconciled (loop : NodeLoop) (found : Option DataNodeRun) (s : FixtureSystem)
    (answer : FixtureNodeActivityResult) : NodeLoop :=
  { loop with
    system := s, outcome := answer, reconciles := loop.reconciles + 1
    terminalReconciles := loop.terminalReconciles + if found.any nodeTerminal then 1 else 0 }

/-- The loop over a node from `s` on, each of whose lookups meets `ok`. -/
inductive NodeLoopRun (worker : FixtureWorker) (ok : FixtureDb → Instant → Prop) (runId : Uuid)
    (nodeId : String) (s : FixtureSystem) : NodeLoop → Prop
  | start {t : FixtureSystem} {answer : FixtureNodeActivityResult}
      (hcall : ExecuteCall worker runId nodeId s t answer) :
      NodeLoopRun worker ok runId nodeId s ⟨t, answer, 1, 0, 0⟩
  | execute {loop : NodeLoop} {t : FixtureSystem} {answer : FixtureNodeActivityResult}
      (hrun : NodeLoopRun worker ok runId nodeId s loop)
      (hnext : nextActivity loop.outcome = some .execute)
      (hcall : ExecuteCall worker runId nodeId loop.system t answer) :
      NodeLoopRun worker ok runId nodeId s (loop.executed t answer)
  | reconcile {loop : NodeLoop} {t u : FixtureSystem} {now : Instant}
      {answer : FixtureNodeActivityResult} (hrun : NodeLoopRun worker ok runId nodeId s loop)
      (hnext : nextActivity loop.outcome = some .reconcile) (hok : ok t.db now)
      (hcall : ReconcileCall worker runId nodeId loop.system t now u answer) :
      NodeLoopRun worker ok runId nodeId s
        (loop.reconciled (t.db.getNodeRecord runId nodeId) u answer)

/-- A lookup of an uncertain node may start: it is due, has been tried less than 32 times, and
its frozen create context is valid under a lease that is still active. -/
def CanLookUp (worker : FixtureWorker) (runId : Uuid) (nodeId : String) (db : FixtureDb)
    (now : Instant) : Prop :=
  ∃ run node, db.getRunRecord runId = some run ∧ db.getNodeRecord runId nodeId = some node ∧
    (node.status = .outcomeUncertain → reconcileDue now node = true ∧
      node.reconcileAttemptCount < 32 ∧ node.inputs.isSome ∧ (db.getLatestAttempt node.id).isSome ∧
      (∃ atom, frozenAtom db run node = .ok atom) ∧
      ∃ binding, db.getBindingRecord run.id node.actorSlot = some binding ∧
        validateRuntimeBinding worker binding run now = none)

end Atlas.Orchestration
