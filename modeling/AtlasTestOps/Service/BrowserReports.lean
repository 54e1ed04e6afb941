import AtlasTestOps.Store.BrowserReports

/-! `DebugRuntimeService.append_browser_report` at the reading `now` of the server clock, and
the runs of the tables under any callers. -/

namespace Atlas.Service

open Atlas Atlas.Runtime Atlas.Store Txn

def bindingInvalid (detail : String) : Fault := .application "VALIDATION_FAILED" detail

def runtimeConflict (detail : String) : Fault := .application "CONFLICT" detail

def requireDebugRun (runId : Uuid) : DebugOp DebugRun := do
  let run ← read (·.getRun runId)
  demand run (.application "NOT_FOUND" "受信 Runtime 无法读取该 Tenant 下的 DebugRun。")

def requireContract (runId : Uuid) : DebugOp ExecutionContract := do
  let contract ← read (·.getContractForRun runId)
  demand contract (bindingInvalid "DebugRun 缺少 ExecutionContract。")

def requireActionReportTransition (previous current : AppendBrowserRuntimeReport)
    (actionProposal : Option AppendBrowserRuntimeReport) : DebugOp Unit := do
  raiseIf (previous.kind = .actionProposed ∧ (current.kind ≠ .policyDecided ∨
      previous.actionId ≠ current.actionId ∨ previous.actorSlot ≠ current.actorSlot))
    (bindingInvalid "policy.decided 必须紧随同一 Actor/action 的 action.proposed。")
  raiseIf (current.kind = .policyDecided ∧ previous.kind ≠ .actionProposed)
    (bindingInvalid "policy.decided 必须紧随同一 Actor/action 的 action.proposed。")
  if previous.kind = .policyDecided then
    if current.kind = .executionBlocked then
      pure ()
    else do
      raiseIf (previous.payload.decision ≠ some .allow ∨ current.kind ≠ .actionExecuted ∨
          previous.actionId ≠ current.actionId ∨ previous.actorSlot ≠ current.actorSlot ∨
          actionProposal.all fun p => p.kind ≠ .actionProposed ∨ p.actionId ≠ current.actionId ∨
            p.actorSlot ≠ current.actorSlot ∨ p.payload.action ≠ current.payload.action)
        (bindingInvalid "ALLOW policy 后只能追加同一 Proposal 的 action receipt。")
  else do
    raiseIf (current.kind = .actionExecuted)
      (bindingInvalid "action.executed 必须紧随一个 ALLOW policy decision。")

/-- What may follow the latest report of the stream. -/
def requireNext (latest : Option BrowserRuntimeReport) (report : AppendBrowserRuntimeReport) :
    DebugOp Unit := do
  raiseIf (report.sequence ≠ latest.elim 1 (fun l => l.value.sequence + 1) ∨
      report.previousChainDigest ≠ latest.elim chainStartDigest (fun l => l.value.chainDigest))
    (runtimeConflict "Browser report 必须单调、无间隙地追加。")
  if report.sequence = 1 then
    raiseIf (report.kind ≠ .executionStarted)
      (bindingInvalid "Browser report 链必须从 execution.started 开始。")
  else do
    let latest ← demand latest (.application "AssertionError" "latest is not None")
    raiseIf (report.occurredAt < latest.value.occurredAt)
      (bindingInvalid "Browser report occurredAt 必须单调递增。")
    raiseIf (latest.value.kind = .executionCompleted)
      (runtimeConflict "execution.completed 之后不能追加 Browser report。")
    raiseIf (report.kind = .executionStarted)
      (runtimeConflict "Browser report 链只能包含一个 execution.started。")
    let db ← read id
    requireActionReportTransition latest.value report
      (if report.kind = .actionExecuted then
        (db.getBySequence report.executionContractId (report.sequence - 2)).map (·.value)
      else none)

/-- The run, its contract and the trusted window of a report. -/
def requireReportable (runId : Uuid) (workerIdentity : String) (report : AppendBrowserRuntimeReport)
    (now : Instant) : DebugOp (DebugRun × ExecutionContract) := do
  let run ← requireDebugRun runId
  let contract ← requireContract run.id
  raiseIf (contract.workerIdentity ≠ workerIdentity)
    (bindingInvalid "Worker identity 与冻结 ExecutionContract 不匹配。")
  raiseIf (contract.id ≠ report.executionContractId ∨
      contract.contentDigest ≠ report.executionContractDigest)
    (bindingInvalid "ExecutionContract ID 或 Digest 不匹配。")
  raiseIf (run.lifecycle ≠ .running) (runtimeConflict "只有 RUNNING DebugRun 可以追加 Browser report。")
  raiseIf (run.cancelRequestedAt ≠ none)
    (runtimeConflict "已请求取消的 DebugRun 不接受新的 Browser report。")
  raiseIf (¬ (contract.createdAt ≤ report.occurredAt ∧ report.occurredAt ≤ now))
    (bindingInvalid "Browser report 时间不在可信执行窗口内。")
  raiseIf (contract.executionDeadline < now) (bindingInvalid "Browser report 超过 executionDeadline。")
  raiseIf (report.actorSlot.any fun slot => slot ∉ contract.actorSlots)
    (bindingInvalid "Browser report 引用了未知 Actor slot。")
  pure (run, contract)

def appendBrowserReport (runId : Uuid) (workerIdentity : String)
    (report : AppendBrowserRuntimeReport) (now : Instant) : DebugOp BrowserRuntimeReport := do
  let (run, contract) ← requireReportable runId workerIdentity report now
  let existingById ← read (·.getById report.reportId)
  let existingBySequence ← read (·.getBySequence contract.id report.sequence)
  match existingById.or existingBySequence with
  | some existing => do
    raiseIf (¬ (existing.debugRunId = run.id ∧ existing.value = report ∧
        existingById = existingBySequence))
      (runtimeConflict "Browser report ID 或 sequence 已被不同事实占用。")
    pure existing
  | none => do
    let proposed ← read fun db => report.kind = .actionProposed &&
      report.actionId.any fun actionId => db.actionExists contract.id actionId
    raiseIf proposed (runtimeConflict "Browser actionId 在同一报告链中只能提出一次。")
    let latest ← read (·.getLatest contract.id)
    requireNext latest report
    appendReport
      { tenantId := run.tenantId, projectId := run.projectId, environmentId := run.environmentId
        debugRunId := run.id, value := report, recordedAt := now }

/-- A report that breaks its contract never reaches the service. -/
def submitBrowserReport (digests : ReportDigests) (runId : Uuid) (workerIdentity : String)
    (report : AppendBrowserRuntimeReport) (now : Instant) : DebugOp BrowserRuntimeReport :=
  match report.violation digests with
  | some message => raise (.validation message)
  | none => appendBrowserReport runId workerIdentity report now

/-! Runs. -/

/-- A report of any caller at any reading, a contract frozen for a run that has none, or the runs
and their evidence moving on; the rows of a contract and of a report are never written again. -/
inductive DebugStep (digests : ReportDigests) : DebugDb → DebugDb → Prop
  | report (db : DebugDb) (runId : Uuid) (worker : String) (report : AppendBrowserRuntimeReport)
      (now : Instant) : DebugStep digests db (after (submitBrowserReport digests runId worker report now) db)
  | bind (db : DebugDb) (contract : ExecutionContract)
      (h : ∀ c ∈ db.contracts, c.id ≠ contract.id ∧ c.debugRunId ≠ contract.debugRunId) :
      DebugStep digests db { db with contracts := db.contracts ++ [contract] }
  | runs (db : DebugDb) (runs : List DebugRun) (manifests : List (EvidenceManifest × Digest)) :
      DebugStep digests db { db with runs := runs, manifests := manifests }

def DebugRunOf (digests : ReportDigests) : DebugDb → DebugDb → Prop :=
  Relation.ReflTransGen (DebugStep digests)

def DebugReachable (digests : ReportDigests) (db : DebugDb) : Prop := DebugRunOf digests ⟨[], [], [], []⟩ db

end Atlas.Service
