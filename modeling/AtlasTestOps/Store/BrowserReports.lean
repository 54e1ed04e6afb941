import AtlasTestOps.Lib.Transaction
import AtlasTestOps.Lib.Rows
import AtlasTestOps.Runtime.Evidence

/-! `BrowserRuntimeReportRepository`: the append-only report streams of one tenant, beside the runs,
contracts and evidence of `RuntimeRepository`. -/

namespace Atlas.Store

open Atlas Atlas.Runtime Txn

structure DebugDb where
  runs : List DebugRun
  contracts : List ExecutionContract
  reports : List BrowserRuntimeReport
  manifests : List (EvidenceManifest × Digest)
deriving DecidableEq, Repr

abbrev DebugOp (α : Type) := Tx DebugDb Fault α

namespace DebugDb

variable (db : DebugDb)

def getRun (id : Uuid) : Option DebugRun := db.runs.find? fun r => r.id = id

def getContractForRun (runId : Uuid) : Option ExecutionContract :=
  db.contracts.find? fun c => c.debugRunId = runId

def getById (reportId : Uuid) : Option BrowserRuntimeReport :=
  db.reports.find? fun r => r.value.reportId = reportId

def getBySequence (executionContractId : Uuid) (sequence : ℕ) : Option BrowserRuntimeReport :=
  db.reports.find? fun r =>
    r.value.executionContractId = executionContractId && r.value.sequence = sequence

/-- The manifest, with `get_evidence_finalization_digest`. -/
def getEvidenceManifest (id : Uuid) : Option (EvidenceManifest × Digest) :=
  db.manifests.find? fun m => m.1.id = id

/-- The stream of one contract. -/
def listForContract (executionContractId : Uuid) : List BrowserRuntimeReport :=
  db.reports.filter fun r => r.value.executionContractId = executionContractId

/-- `order by report_sequence desc limit 1` -/
def getLatest (executionContractId : Uuid) : Option BrowserRuntimeReport :=
  Rows.newest (fun r => r.value.sequence) (db.listForContract executionContractId)

def actionExists (executionContractId actionId : Uuid) : Bool :=
  db.reports.any fun r =>
    r.value.executionContractId = executionContractId && r.value.actionId = some actionId

end DebugDb

/-- The unique keys of the table; its insert trigger repeats rules of the service. -/
def appendReport (row : BrowserRuntimeReport) : DebugOp BrowserRuntimeReport := do
  let reports ← read DebugDb.reports
  raiseIf (reports.any fun r => r.value.reportId = row.value.reportId)
    (.constraint "browser_runtime_report_pkey")
  raiseIf (reports.any fun r => r.value.executionContractId = row.value.executionContractId &&
      r.value.sequence = row.value.sequence)
    (.constraint "browser_report_contract_sequence_unique")
  raiseIf (row.value.actionId.isSome && reports.any fun r =>
      r.value.executionContractId = row.value.executionContractId &&
      r.value.actionId = row.value.actionId && r.value.kind = row.value.kind)
    (.constraint "browser_runtime_report_action_kind_unique")
  raiseIf (row.recordedAt < row.value.occurredAt) (.constraint "browser_report_time_order")
  update fun db => { db with reports := db.reports ++ [row] }
  pure row

end Atlas.Store
