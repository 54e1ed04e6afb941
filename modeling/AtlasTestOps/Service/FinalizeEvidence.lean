import AtlasTestOps.Lib.Table
import AtlasTestOps.Service.BrowserWorker

/-! `DebugRuntimeService.finalize_evidence`: the verdict of a DebugRun from the evidence of its
Worker, bound to the report chain. -/

namespace Atlas.Service

open Atlas Atlas.Runtime Atlas.Store Txn

variable (D : EvidenceDigests)

def reportedAssertion : BrowserReportPayload → Option (String × String)
  | .assertionEvaluated _ assertionId assertionInputDigest _ _ => some (assertionId, assertionInputDigest)
  | _ => none

def reportedArtifact : BrowserReportPayload → Option (String × String)
  | .artifactCaptured _ artifactId artifactInputDigest _ _ _ _ => some (artifactId, artifactInputDigest)
  | _ => none

def completedCounts : BrowserReportPayload → Option (ℕ × ℕ)
  | .executionCompleted _ assertionResultCount artifactCount
  | .nodeCompleted _ _ assertionResultCount artifactCount => some (assertionResultCount, artifactCount)
  | _ => none

/-- The report is EXECUTION_BLOCKED, or a receipt that is not SUCCEEDED. -/
def unsafeReport (report : AppendBrowserRuntimeReport) : Bool :=
  match report.payload with
  | .executionBlocked .. => true
  | .actionExecuted _ _ _ _ _ status _ => status ≠ .succeeded
  | _ => false

def requireReportedEvidence (reports : List BrowserRuntimeReport) (latest : BrowserRuntimeReport)
    (command : FinalizeDebugEvidence) : DebugOp Unit := do
  raiseIf (completedCounts latest.value.payload ≠
      some (command.assertionResults.length, command.artifacts.length))
    (bindingInvalid "execution.completed 计数与 finalization command 不一致。")
  raiseIf (¬ (reports.filterMap fun r => reportedAssertion r.value.payload).Perm
      (command.assertionResults.map fun r => (r.assertionId, D.resultInput r)))
    (bindingInvalid "finalization assertionResults 必须与 Browser report 完全一致。")
  raiseIf (¬ (reports.filterMap fun r => reportedArtifact r.value.payload).Perm
      (command.artifacts.map fun a => (uuidText a.id, D.artifactInput a)))
    (bindingInvalid "finalization artifacts 必须与 Browser report 完全一致。")
  raiseIf ((reports.any fun r => unsafeReport r.value) ∧
      command.assertionResults.any fun r => r.status ≠ .inconclusive)
    (bindingInvalid "Blocked 或结果不确定的 Browser 执行只能终结为 INCONCLUSIVE。")

/-- `persist_evidence`, with the digest of the command beside the manifest. -/
def persistEvidence (manifest : EvidenceManifest) (commandDigest : Digest) : DebugOp Unit := do
  let manifests ← read DebugDb.manifests
  raiseIf (manifests.any fun m => m.1.id = manifest.id) (.constraint "evidence_manifest_pkey")
  raiseIf (manifests.any fun m => m.1.debugRunId = manifest.debugRunId)
    (.constraint "evidence_manifest_debug_run_unique")
  update fun db => { db with manifests := db.manifests ++ [(manifest, commandDigest)] }

/-- `transition_run` to FINALIZING and `finish_run`, in one transaction that holds the row. -/
def finishDebugRun (run : DebugRun) (manifest : EvidenceManifest) : DebugOp DebugRun := do
  update fun db =>
    { db with runs := Table.modify DebugRun.id run.id (·.finish manifest) db.runs }
  pure (run.finish manifest)

def sealedEvidence (run : DebugRun) (command : FinalizeDebugEvidence) (worker : Option String) :
    DebugOp (DebugRun × EvidenceManifest) := do
  let existing ← read fun db => run.evidenceManifestId.bind db.getEvidenceManifest
  let stored ← demand existing (runtimeConflict "终态 DebugRun 缺少可验证 Evidence Manifest。")
  let found ← read (·.getContractForRun run.id)
  let contract ← demand found (bindingInvalid "终态 DebugRun 缺少 ExecutionContract。")
  raiseIf (worker.any fun w => contract.workerIdentity ≠ w)
    (bindingInvalid "Worker identity 与冻结 ExecutionContract 不匹配。")
  raiseIf (stored.1.executionContractId ≠ command.executionContractId ∨
      stored.1.executionContractDigest ≠ command.executionContractDigest ∨
      stored.2 ≠ D.command command)
    (runtimeConflict "终态 DebugRun 已由不同 finalization command 封存。")
  pure (run, stored.1)

/-- `manifestId` and `newId` are the identities that the call draws. -/
def finalizeEvidence (runId : Uuid) (command : FinalizeDebugEvidence) (worker : Option String)
    (manifestId : Uuid) (newId : String → Uuid) : DebugOp (DebugRun × EvidenceManifest) := do
  let run ← requireDebugRun runId
  if run.lifecycle = .terminated then sealedEvidence D run command worker
  else do
    raiseIf (run.lifecycle ≠ .running) (runtimeConflict "只有 RUNNING DebugRun 可以进入证据 Finalize。")
    let contract ← requireContract run.id
    raiseIf (contract.id ≠ command.executionContractId ∨
        contract.contentDigest ≠ command.executionContractDigest)
      (bindingInvalid "ExecutionContract ID 或 Digest 不匹配。")
    raiseIf (worker.any fun w => contract.workerIdentity ≠ w)
      (bindingInvalid "Worker identity 与冻结 ExecutionContract 不匹配。")
    let reports ← read (·.listForContract contract.id)
    requireCompletedChain reports command.eventCount command.eventChainHeadDigest
    let latest ← demand reports.getLast? (bindingInvalid "Evidence finalization 与已完成 Browser report 链不一致。")
    requireReportedEvidence D reports latest command
    raiseIf (command.finalizedAt < latest.value.occurredAt)
      (bindingInvalid "Evidence finalization 不能早于最后一个 Browser report。")
    raiseIf (run.executionDeadline < command.finalizedAt)
      (bindingInvalid "Evidence finalization 超过 executionDeadline。")
    match buildEvidenceManifest D manifestId newId run.id run.testIr contract command with
    | .error message => raise (bindingInvalid message)
    | .ok manifest => do
      persistEvidence manifest (D.command command)
      let finished ← finishDebugRun run manifest
      pure (finished, manifest)

/-! Runs. -/

/-- A finalization of any run, a report of any caller, a contract frozen for a run that has none,
or runs moving on, which `guard_debug_run_update` refuses to a terminated one. -/
inductive EvidenceStep (digests : ReportDigests) : DebugDb → DebugDb → Prop
  | finalize (db : DebugDb) (runId : Uuid) (command : FinalizeDebugEvidence) (worker : Option String)
      (manifestId : Uuid) (newId : String → Uuid) :
      EvidenceStep digests db (after (finalizeEvidence D runId command worker manifestId newId) db)
  | report (db : DebugDb) (runId : Uuid) (worker : String) (report : AppendBrowserRuntimeReport)
      (now : Instant) : EvidenceStep digests db (after (submitBrowserReport digests runId worker report now) db)
  | bind (db : DebugDb) (contract : ExecutionContract)
      (h : ∀ c ∈ db.contracts, c.id ≠ contract.id ∧ c.debugRunId ≠ contract.debugRunId) :
      EvidenceStep digests db { db with contracts := db.contracts ++ [contract] }
  | runs (db : DebugDb) (runs : List DebugRun)
      (h : ∀ id run, db.getRun id = some run → run.lifecycle = .terminated →
        runs.find? (fun r => r.id = id) = some run) :
      EvidenceStep digests db { db with runs := runs }

def EvidenceRun (digests : ReportDigests) : DebugDb → DebugDb → Prop :=
  Relation.ReflTransGen (EvidenceStep D digests)

end Atlas.Service
