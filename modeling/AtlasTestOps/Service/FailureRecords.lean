import AtlasTestOps.Service.Fixtures

/-! How the failure that a provider reports gets into the tables: the code is made safe, the detail
is cut, the identity of the provider's request is taken as it is, and the row that carries them has
to pass the field rules of the record and the check constraints of its table. -/

namespace Atlas.Service

open Atlas Atlas.Fixture Atlas.Store Txn

/-- The character tables of the host language's `str`, with what is known of them. -/
structure UnicodeTables where
  upper : Char → List Char
  isAlpha : Char → Bool
  isAlnum : Char → Bool
  upper_ascii : ∀ c, c.toNat < 128 → upper c = [c.toUpper]
  upper_upper : ∀ c, ∀ d ∈ upper c, upper d = [d]
  upper_not_lower : ∀ c, ∀ d ∈ upper c, d.isLower = false
  alpha_ascii : ∀ c, c.toNat < 128 → isAlpha c = c.isAlpha
  alnum_ascii : ∀ c, c.toNat < 128 → isAlnum c = c.isAlphanum
  alnum_not_space : ∀ c, isAlnum c = true → Text.isSpace c = false

section Sanitizer

variable (unicode : UnicodeTables)

/-- `value.strip().upper().replace("-", "_").replace(".", "_")` -/
def normalizedCode (value : List Char) : List Char :=
  ((Text.strip value).flatMap unicode.upper).map fun c => if c = '-' ∨ c = '.' then '_' else c

/-- The sanitizer keeps the normalized code. -/
def keepsCode (code : List Char) : Bool :=
  code ≠ [] ∧ code.length ≤ 80 ∧ (code.filter fun c => c ≠ '_') ≠ [] ∧
    (∀ c ∈ code.filter fun c => c ≠ '_', unicode.isAlnum c = true) ∧
    code.head?.any unicode.isAlpha = true

/-- `_safe_failure_code` -/
def safeFailureCode (value : String) : String :=
  let normalized := normalizedCode unicode value.toList
  if keepsCode unicode normalized then String.ofList normalized else "FIXTURE_OPERATION_FAILED"

/-- `detail[:500]` -/
def cutDetail (detail : String) : String := String.ofList (detail.toList.take 500)

def safeFailure (failure : FixtureFailure) : FixtureFailure :=
  { failure with
    code := safeFailureCode unicode failure.code, detail := cutDetail failure.detail }

end Sanitizer

/-! ### Checks -/

/-- `SAFE_ERROR_CODE_PATTERN`, and the check constraint on every `failure_code`. -/
def safeErrorCodePattern (code : String) : Bool := matchesCode 2 79 code

/-- The field rule of `failure_detail` and the check constraint on its column; `btrim` removes
blanks only. A text column takes no NUL. -/
def detailStorable (detail : String) : Bool :=
  detail.toList.length ≤ 500 ∧ (∃ c ∈ detail.toList, c ≠ ' ') ∧
    (detail.toList.map Char.utf8Size).sum ≤ 2000 ∧ Char.ofNat 0 ∉ detail.toList

def failureStorable (failure : FixtureFailure) : Bool :=
  safeErrorCodePattern failure.code && detailStorable failure.detail

/-- The check constraint on every `provider_request_id`; nothing makes the identity safe before. -/
def requestIdStorable (requestId : String) : Bool :=
  (∃ c ∈ requestId.toList, c ≠ ' ') ∧ (requestId.toList.map Char.utf8Size).sum ≤ 800 ∧
    Char.ofNat 0 ∉ requestId.toList

/-- The failures that the rows carry. -/
def recordedFailures (db : FixtureDb) : List FixtureFailure :=
  db.runs.filterMap FixtureRun.failure ++ db.nodes.filterMap DataNodeRun.failure ++
    db.attempts.filterMap DataNodeAttempt.failure ++
    db.reconcileAttempts.filterMap DataNodeReconcileAttempt.failure ++
    db.cleanupAttempts.filterMap ResourceCleanupAttempt.failure

/-- The identities of provider requests that the rows carry. -/
def recordedRequestIds (db : FixtureDb) : List String :=
  db.attempts.filterMap DataNodeAttempt.providerRequestId ++
    db.reconcileAttempts.filterMap DataNodeReconcileAttempt.providerRequestId ++
    db.cleanupAttempts.filterMap ResourceCleanupAttempt.providerRequestId

/-- The transaction under the checks on failures and on what is stored with them. -/
def withFailureChecks {α : Type} (op : FixtureOp α) : FixtureOp α := do
  let answer ← op
  let failures ← read recordedFailures
  raiseIf (failures.any fun f => failureStorable f = false)
    (.constraint "failure_code or failure_detail")
  let requestIds ← read recordedRequestIds
  raiseIf (requestIds.any fun requestId => requestIdStorable requestId = false)
    (.constraint "provider_request_id")
  pure answer

/-! ### Recordings -/

/-- The transactions that record a failure of the provider. -/
inductive FailureRecording
  | execute (claim : NodeExecutionClaim) (uncertain : Bool)
  | lookup (claim : NodeReconcileClaim) (status : DataNodeReconcileAttemptStatus) (retryable : Bool)
      (retryAfter : Option ℕ)
  | reconciled (claim : NodeReconcileClaim)
  | cleanup (claim : CleanupClaim) (status : ResourceCleanupAttemptStatus) (retryable : Bool)
      (retryAfter : Option ℕ)

namespace FailureRecording

/-- What the row gets: a lookup and a cleanup make the code safe a second time. -/
def failure (unicode : UnicodeTables) (error : FixtureFailure) :
    FailureRecording → FixtureFailure
  | .execute .. | .reconciled .. => safeFailure unicode error
  | .lookup .. | .cleanup .. =>
    safeFailure unicode { error with code := safeFailureCode unicode error.code }

def transaction (worker : FixtureWorker) (failure : FixtureFailure)
    (providerRequestId : Option String) (finishedAt : Instant) : FailureRecording → FixtureOp Unit
  | .execute claim uncertain =>
    discard (failClaim claim uncertain failure providerRequestId finishedAt)
  | .lookup claim status retryable retryAfter =>
    discard (finishReconcileInconclusive worker claim status failure providerRequestId retryable
      retryAfter finishedAt)
  | .reconciled claim => discard (failReconciledClaim claim failure finishedAt)
  | .cleanup claim status retryable retryAfter =>
    discard (finishCleanupFailure worker claim status failure providerRequestId retryable retryAfter
      finishedAt)

/-- The claim is still open, and it is this failure that the transaction writes: a lookup without
another try writes RECONCILE_EXHAUSTED instead. -/
def writes (worker : FixtureWorker) (finishedAt : Instant) (db : FixtureDb) :
    FailureRecording → Bool
  | .execute claim _ => (db.getNodeRecord claim.run.id claim.node.nodeId).any fun node =>
      node.status ∉ [.failed, .outcomeUncertain]
  | .lookup claim _ retryable retryAfter =>
    ((db.getNodeRecord claim.run.id claim.node.nodeId).any fun node =>
      node.reconcileState = .running) &&
    (nextLookup worker claim.reconcileAttempt.attemptNumber retryable retryAfter finishedAt).isSome
  | .reconciled claim => (db.getNodeRecord claim.run.id claim.node.nodeId).any fun node =>
      node.status ≠ .failed
  | .cleanup claim _ _ _ => db.cleanupAttempts.any fun a =>
      a.id = claim.attempt.id ∧ a.status = .running

/-- The transaction writes the identity of the provider's request: a row of it is still open. -/
def writesRequestId (db : FixtureDb) : FailureRecording → Bool
  | .execute claim _ => (db.getNodeRecord claim.run.id claim.node.nodeId).any fun node =>
      node.status ∉ [.failed, .outcomeUncertain]
  | .lookup claim _ _ _ =>
    ((db.getNodeRecord claim.run.id claim.node.nodeId).any fun node =>
      node.reconcileState = .running) &&
    db.reconcileAttempts.any fun a => a.id = claim.reconcileAttempt.id ∧ a.status = .running
  | .reconciled _ => false
  | .cleanup claim _ _ _ => db.cleanupAttempts.any fun a =>
      a.id = claim.attempt.id ∧ a.status = .running

end FailureRecording

end Atlas.Service
