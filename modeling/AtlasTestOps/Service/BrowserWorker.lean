import AtlasTestOps.Service.BrowserReports

/-! `BrowserExecutionReporterService`: the chain of one Worker activity, and how it is
submitted through a gateway that may lose the reply. -/

namespace Atlas.Service

open Atlas Atlas.Runtime Atlas.Store Txn

/-- What the reporter was made with. -/
structure ReporterBinding where
  runId : Uuid
  workerIdentity : String
  contractId : Uuid
  contractDigest : Digest
deriving DecidableEq, Repr

/-- `_sequence` and `_chain_head` -/
structure ReporterState where
  sequence : ℕ
  chainHead : Digest
deriving DecidableEq, Repr

def ReporterState.start : ReporterState := ⟨0, chainStartDigest⟩

/-- The arguments of one `emit`, with the identity and the time that it draws. -/
structure Emission where
  kind : BrowserRuntimeReportKind
  payload : BrowserReportPayload
  actorSlot : Option String
  actionId : Option Uuid
  reportId : Uuid
  occurredAt : Instant
deriving DecidableEq, Repr

/-- What comes of one gateway call with its bounded retries: an answer, a stored report of which every
reply was lost, or nothing. -/
inductive Delivery
  | answered | replyLost | undelivered
deriving DecidableEq, Repr

structure WorkerState where
  db : DebugDb
  reporter : ReporterState
deriving DecidableEq, Repr

def buildReport (digests : ReportDigests) (binding : ReporterBinding) (reporter : ReporterState)
    (e : Emission) : AppendBrowserRuntimeReport :=
  buildBrowserRuntimeReport digests binding.contractId binding.contractDigest e.reportId
    (reporter.sequence + 1) e.kind e.payload e.occurredAt reporter.chainHead e.actorSlot e.actionId

/-- `emit`; the answer is whether it returned. The local head only moves on a reply. -/
def emit (digests : ReportDigests) (binding : ReporterBinding) (e : Emission) (delivery : Delivery)
    (now : Instant) (s : WorkerState) : Bool × WorkerState :=
  let report := buildReport digests binding s.reporter e
  let call := submitBrowserReport digests binding.runId binding.workerIdentity report now
  match delivery with
  | .undelivered => (false, s)
  | .replyLost => (false, { s with db := after call s.db })
  | .answered =>
    match call s.db with
    | .ok (_, db) => (true, ⟨db, ⟨report.sequence, report.chainDigest⟩⟩)
    | .error _ => (false, s)

/-- The comparison of a finalization with the report chain, in `finalize_evidence`. -/
def requireCompletedChain (reports : List BrowserRuntimeReport) (eventCount : ℕ)
    (eventChainHeadDigest : Digest) : DebugOp Unit :=
  raiseIf (reports.getLast?.all fun latest => latest.value.kind ≠ .executionCompleted ∨
      reports.length ≠ eventCount ∨ latest.value.sequence ≠ eventCount ∨
      latest.value.chainDigest ≠ eventChainHeadDigest)
    (bindingInvalid "Evidence finalization 与已完成 Browser report 链不一致。")

/-- An `emit` of this Worker, or a step of anybody else; `reportId` of an `emit` is drawn, so it
is never one in `used`. -/
inductive WorkerStep (digests : ReportDigests) (binding : ReporterBinding) (used : List Uuid) :
    WorkerState → WorkerState → Prop
  | emit (s : WorkerState) (e : Emission) (delivery : Delivery) (now : Instant) (h : e.reportId ∉ used) :
      WorkerStep digests binding used s (emit digests binding e delivery now s).2
  | other (s : WorkerState) (db : DebugDb) (h : DebugStep digests s.db db) :
      WorkerStep digests binding used s { s with db := db }

end Atlas.Service
