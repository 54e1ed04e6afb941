import AtlasTestOps.Service.BrowserWorker
import AtlasTestOps.Proofs.ReportChain

/-! One lost reply. The report is stored, the reporter still holds the head before it, and every
later report asks for a sequence that is taken. -/

namespace Atlas.Proofs

open Atlas Atlas.Runtime Atlas.Store Atlas.Service Txn

def WorkerRun (digests : ReportDigests) (binding : ReporterBinding) (used : List Uuid) :
    WorkerState → WorkerState → Prop :=
  Relation.ReflTransGen (WorkerStep digests binding used)

/-- The next sequence of the reporter is taken by the report that it gave up. -/
structure Diverged (digests : ReportDigests) (binding : ReporterBinding) (lostId : Uuid)
    (s : WorkerState) : Prop where
  inv : DebugInv digests s.db
  taken : ∃ x ∈ s.db.reports, x.value.executionContractId = binding.contractId ∧
    x.value.sequence = s.reporter.sequence + 1 ∧ x.value.reportId = lostId

/-- No later `emit` returns or stores anything, and no finalization of the reporter is accepted. -/
structure Unrecovered (digests : ReportDigests) (binding : ReporterBinding) (lostId : Uuid)
    (s : WorkerState) : Prop where
  emits : ∀ e delivery now, e.reportId ≠ lostId → emit digests binding e delivery now s = (false, s)
  finalization : ∀ head db', ¬ Commits
    (requireCompletedChain (s.db.listForContract binding.contractId) s.reporter.sequence head) s.db () db'

theorem mem_of_debugStep {digests : ReportDigests} {db db' : DebugDb} (h : DebugStep digests db db')
    {x : BrowserRuntimeReport} (hx : x ∈ db.reports) : x ∈ db'.reports := by
  cases h with
  | report runId worker report now =>
    rcases after_eq (submitBrowserReport digests runId worker report now) db with hsame | ⟨out, hcommits⟩
    · rwa [hsame]
    · rcases appended_of_commits hcommits with ⟨hsame, -⟩ | hr
      · rwa [hsame]
      · rw [hr.rows]
        exact List.mem_append_left _ hx
  | bind contract hnew => exact hx
  | runs runs manifests => exact hx

/-- What a committed report leaves in the table. -/
theorem stored_of_commits {digests : ReportDigests} {runId : Uuid} {worker : String}
    {report : AppendBrowserRuntimeReport} {now : Instant} {db db' : DebugDb} {out : BrowserRuntimeReport}
    (h : Commits (submitBrowserReport digests runId worker report now) db out db') :
    out ∈ db'.reports ∧ out.value = report := by
  rcases appended_of_commits h with ⟨rfl, hmem, hvalue⟩ | hr
  · exact ⟨hmem, hvalue⟩
  · rw [hr.rows]
    exact ⟨List.mem_append_right _ (List.mem_singleton_self _), hr.value⟩

namespace Diverged

variable {digests : ReportDigests} {binding : ReporterBinding} {lostId : Uuid} {s : WorkerState}

/-- The sequence is taken by another report, so the report is neither a replay nor the next one. -/
theorem refused (h : Diverged digests binding lostId s) {e : Emission} (hid : e.reportId ≠ lostId)
    {now : Instant} {out : BrowserRuntimeReport} {db' : DebugDb} :
    ¬ Commits (submitBrowserReport digests binding.runId binding.workerIdentity
      (buildReport digests binding s.reporter e) now) s.db out db' := by
  intro hcommits
  obtain ⟨x, hx, hcontract, hsequence, hlost⟩ := h.taken
  have hchain := h.inv.chains binding.contractId
  have hat := getElem?_of_mem hchain (mem_chain.2 ⟨x, hx, rfl, hcontract⟩)
  rcases appended_of_commits hcommits with ⟨-, hmem, hvalue⟩ | hr
  · have hat' := getElem?_of_mem hchain (mem_chain.2 ⟨out, hmem, rfl, by rw [hvalue]; rfl⟩)
    have hseq : out.value.sequence = x.value.sequence := by
      rw [hvalue, hsequence]
      rfl
    rw [hseq, hat] at hat'
    have hsame : x.value = buildReport digests binding s.reporter e :=
      (Option.some.inj hat').trans hvalue
    exact hid (by rw [← hlost, hsame]; rfl)
  · have hnext := (admitted_of_appended (h.inv.chains _) hr).sequence
    have hlength : s.reporter.sequence + 1 = (DebugDb.chain s.db binding.contractId).length + 1 := hnext
    have hlt := (List.getElem?_eq_some_iff.1 hat).1
    omega

theorem emit_eq (h : Diverged digests binding lostId s) {e : Emission} (hid : e.reportId ≠ lostId)
    (delivery : Delivery) (now : Instant) : emit digests binding e delivery now s = (false, s) := by
  have hafter : after (submitBrowserReport digests binding.runId binding.workerIdentity
      (buildReport digests binding s.reporter e) now) s.db = s.db := by
    rcases after_eq (submitBrowserReport digests binding.runId binding.workerIdentity
      (buildReport digests binding s.reporter e) now) s.db with hsame | ⟨out, hcommits⟩
    · exact hsame
    · exact absurd hcommits (h.refused hid)
  cases delivery with
  | undelivered => rfl
  | replyLost => simp only [emit, hafter]
  | answered =>
    simp only [emit]
    cases hcall : submitBrowserReport digests binding.runId binding.workerIdentity
      (buildReport digests binding s.reporter e) now s.db with
    | error _ => rfl
    | ok out => exact absurd (show Commits _ _ out.1 out.2 from hcall) (h.refused hid)

theorem unrecovered (h : Diverged digests binding lostId s) :
    Unrecovered digests binding lostId s := by
  refine ⟨fun e delivery now hid => h.emit_eq hid delivery now, fun head db' hcommits => ?_⟩
  obtain ⟨x, hx, hcontract, hsequence, -⟩ := h.taken
  have hat := getElem?_of_mem (h.inv.chains binding.contractId) (mem_chain.2 ⟨x, hx, rfl, hcontract⟩)
  have hlt := (List.getElem?_eq_some_iff.1 hat).1
  rw [DebugDb.chain, List.length_map] at hlt
  obtain ⟨hmatches, -⟩ := commits_raiseIf.1 hcommits
  cases hlast : (s.db.listForContract binding.contractId).getLast? with
  | none =>
    rw [List.getLast?_eq_none_iff] at hlast
    simp [hlast] at hlt
  | some latest =>
    simp only [hlast, Option.all_some, decide_eq_true_eq, not_or, not_not] at hmatches
    omega

theorem step {s' : WorkerState} (h : Diverged digests binding lostId s)
    (hstep : WorkerStep digests binding [lostId] s s') :
    Diverged digests binding lostId s' ∧ s'.reporter = s.reporter := by
  cases hstep with
  | emit e delivery now hid =>
    rw [h.emit_eq (by simpa using hid)]
    exact ⟨h, rfl⟩
  | other db hother =>
    obtain ⟨x, hx, hrest⟩ := h.taken
    exact ⟨⟨debugInv_step hother h.inv, x, mem_of_debugStep hother hx, hrest⟩, rfl⟩

theorem run {s' : WorkerState} (h : Diverged digests binding lostId s)
    (hrun : WorkerRun digests binding [lostId] s s') :
    Diverged digests binding lostId s' ∧ s'.reporter = s.reporter := by
  refine run_keeps (I := fun t => Diverged digests binding lostId t ∧ t.reporter = s.reporter)
    (fun t t' hstep ht => ?_) hrun ⟨h, rfl⟩
  obtain ⟨hnext, hsame⟩ := ht.1.step hstep
  exact ⟨hnext, hsame.trans ht.2⟩

end Diverged

theorem diverged_of_lost {digests : ReportDigests} {binding : ReporterBinding} {s : WorkerState}
    {e : Emission} {now : Instant} {row : BrowserRuntimeReport} {db' : DebugDb}
    (hinv : DebugInv digests s.db)
    (hcommits : Commits (submitBrowserReport digests binding.runId binding.workerIdentity
      (buildReport digests binding s.reporter e) now) s.db row db') :
    Diverged digests binding e.reportId (emit digests binding e .replyLost now s).2 := by
  have hafter := after_of_commits hcommits
  have hstep : DebugStep digests s.db (after (submitBrowserReport digests binding.runId
      binding.workerIdentity (buildReport digests binding s.reporter e) now) s.db) :=
    .report s.db binding.runId binding.workerIdentity _ now
  obtain ⟨hmem, hvalue⟩ := stored_of_commits hcommits
  refine ⟨debugInv_step hstep hinv, row, ?_, ?_, ?_, ?_⟩
  · rw [← hafter] at hmem
    exact hmem
  · rw [hvalue]
    rfl
  · rw [hvalue]
    rfl
  · rw [hvalue]
    rfl

/-- Whatever report is committed with its reply lost, from any reachable state: whatever the Worker
and everybody else then do, the reporter keeps its old head, no later `emit` returns or stores
anything, and no finalization by the reporter's count matches the stored chain. -/
theorem lost_reply_never_recovered {digests : ReportDigests} {binding : ReporterBinding}
    {s : WorkerState} {e : Emission} {now : Instant} {row : BrowserRuntimeReport} {db' : DebugDb}
    (hreach : DebugReachable digests s.db)
    (hcommits : Commits (submitBrowserReport digests binding.runId binding.workerIdentity
      (buildReport digests binding s.reporter e) now) s.db row db') :
    ∀ later, WorkerRun digests binding [e.reportId] (emit digests binding e .replyLost now s).2 later →
      later.reporter = s.reporter ∧ Unrecovered digests binding e.reportId later := by
  intro later hrun
  obtain ⟨h, hsame⟩ := (diverged_of_lost (debugInv_of_reachable hreach) hcommits).run hrun
  exact ⟨hsame, h.unrecovered⟩

/-! The reply to the first report is lost. -/

def exampleBinding : ReporterBinding := ⟨1, "worker-1", 5, 0⟩

def exampleWorker : WorkerState := ⟨exampleRunning, .start⟩

def emitStarted : Emission :=
  ⟨.executionStarted, .executionStarted "browser execution started"
    "sha256:0000000000000000000000000000000000000000000000000000000000000000", none, none, 6, 8⟩

def emitBlocked : Emission :=
  ⟨.executionBlocked, .executionBlocked "browser execution stopped before verified completion"
    "ApplicationError", none, none, 7, 11⟩

def exampleLost : WorkerState := (emit exampleDigests exampleBinding emitStarted .replyLost 10 exampleWorker).2

theorem emitStarted_commits : Commits (submitBrowserReport exampleDigests exampleBinding.runId
    exampleBinding.workerIdentity (buildReport exampleDigests exampleBinding exampleWorker.reporter
      emitStarted) 10) exampleRunning exampleRow { exampleRunning with reports := [exampleRow] } := by
  have hreport : buildReport exampleDigests exampleBinding exampleWorker.reporter emitStarted =
      exampleStarted := rfl
  rw [hreport]
  simp only [submitBrowserReport, exampleStarted_valid]
  rfl

/-- The report is stored, and the fail-closed report that follows it is refused. -/
theorem lost_reply_blocks : exampleLost.db.reports = [exampleRow] ∧ exampleLost.reporter.sequence = 0 ∧
    (emit exampleDigests exampleBinding emitBlocked .answered 12 exampleLost).1 = false := by
  decide +kernel

theorem lost_reply_example : exampleLost.reporter = .start ∧
    Unrecovered exampleDigests exampleBinding 6 exampleLost :=
  lost_reply_never_recovered (s := exampleWorker) (e := emitStarted) exampleRunning_reachable
    emitStarted_commits exampleLost .refl

end Atlas.Proofs
