import AtlasTestOps.Service.BrowserReports
import AtlasTestOps.Lib.Table

/-! The report chain of a contract. A report is only compared with the one or two before it;
what the chain is then like as a whole, at any length and under any callers. -/

namespace Atlas.Proofs

open Atlas Atlas.Runtime Atlas.Store Atlas.Service Txn

def DebugDb.chain (db : DebugDb) (executionContractId : Uuid) : List AppendBrowserRuntimeReport :=
  (db.listForContract executionContractId).map BrowserRuntimeReport.value

/-- The action receipt `r` at `i` ends a proposal that its policy allowed. -/
structure Licensing (chain : List AppendBrowserRuntimeReport) (i : ℕ) (r p d : AppendBrowserRuntimeReport) :
    Prop where
  proposal : chain[i]? = some p ∧ p.kind = .actionProposed ∧ p.actorSlot = r.actorSlot ∧
    p.actionId = r.actionId ∧ p.payload.action = r.payload.action
  decision : chain[i + 1]? = some d ∧ d.kind = .policyDecided ∧ d.payload.decision = some .allow ∧
    d.actorSlot = r.actorSlot ∧ d.actionId = r.actionId

structure ReportChain (chain : List AppendBrowserRuntimeReport) : Prop where
  sequence : ∀ i r, chain[i]? = some r → r.sequence = i + 1
  start : ∀ r, chain[0]? = some r → r.previousChainDigest = chainStartDigest
  linked : ∀ i a b, chain[i]? = some a → chain[i + 1]? = some b → b.previousChainDigest = a.chainDigest
  started : ∀ i r, chain[i]? = some r → (r.kind = .executionStarted ↔ i = 0)
  completed : ∀ i a, chain[i]? = some a → a.kind = .executionCompleted → chain[i + 1]? = none
  ordered : ∀ i a b, chain[i]? = some a → chain[i + 1]? = some b → a.occurredAt ≤ b.occurredAt
  executed : ∀ i r, chain[i]? = some r → r.kind = .actionExecuted →
    ∃ j p d, i = j + 2 ∧ Licensing chain j r p d
  refused : ∀ i a b, chain[i]? = some a → chain[i + 1]? = some b → a.kind = .policyDecided →
    a.payload.decision ≠ some .allow → b.kind = .executionBlocked
  once : ∀ (i j : ℕ) (a b : AppendBrowserRuntimeReport), chain[i]? = some a → chain[j]? = some b →
    a.kind = b.kind → a.kind = .actionProposed ∨ a.kind = .actionExecuted → a.actionId = b.actionId → i = j

/-! ### One report -/

/-- `_require_action_report_transition` lets the report pass. -/
structure Transition (previous current : AppendBrowserRuntimeReport)
    (proposal : Option AppendBrowserRuntimeReport) : Prop where
  decided : current.kind = .policyDecided → previous.kind = .actionProposed
  allowed : previous.kind = .policyDecided → current.kind = .executionBlocked ∨
    previous.payload.decision = some .allow ∧ current.kind = .actionExecuted ∧
      previous.actionId = current.actionId ∧ previous.actorSlot = current.actorSlot ∧
      ∃ p, proposal = some p ∧ p.kind = .actionProposed ∧ p.actionId = current.actionId ∧
        p.actorSlot = current.actorSlot ∧ p.payload.action = current.payload.action
  executed : current.kind = .actionExecuted → previous.kind = .policyDecided

/-- What the service has compared before it appends the report to the chain. -/
structure Admitted (chain : List AppendBrowserRuntimeReport) (r : AppendBrowserRuntimeReport) : Prop where
  sequence : r.sequence = chain.length + 1
  first : chain = [] → r.kind = .executionStarted ∧ r.previousChainDigest = chainStartDigest
  later : ∀ l, chain.getLast? = some l → r.previousChainDigest = l.chainDigest ∧
    l.occurredAt ≤ r.occurredAt ∧ l.kind ≠ .executionCompleted ∧ r.kind ≠ .executionStarted ∧
    ∃ proposal, Transition l r proposal ∧
      ∀ p, r.kind = .actionExecuted → proposal = some p → chain[chain.length - 2]? = some p
  identified : r.kind = .actionProposed → r.actionId ≠ none ∧ ∀ a ∈ chain, a.actionId ≠ r.actionId

theorem getElem?_snoc {α : Type} {chain : List α} {r a : α} {i : ℕ} :
    (chain ++ [r])[i]? = some a ↔ chain[i]? = some a ∨ i = chain.length ∧ a = r := by
  rcases Nat.lt_trichotomy i chain.length with hlt | rfl | hgt
  · rw [List.getElem?_append_left hlt]
    constructor
    · exact Or.inl
    · rintro (h | ⟨rfl, -⟩)
      · exact h
      · exact absurd hlt (lt_irrefl _)
  · simp [eq_comm]
  · rw [List.getElem?_eq_none (by simp; omega), List.getElem?_eq_none (by omega)]
    simp only [reduceCtorEq, false_or, false_iff, not_and]
    exact fun h => absurd h (by omega)

theorem getLast?_of_length {α : Type} {chain : List α} {a : α} {i : ℕ} (h : chain[i]? = some a)
    (hi : i + 1 = chain.length) : chain.getLast? = some a := by
  rw [List.getLast?_eq_getElem?, ← hi]
  exact h

/-- Neighbours in a longer chain: both old, or the last one and the new one. -/
theorem neighbours {chain : List AppendBrowserRuntimeReport} {r a b : AppendBrowserRuntimeReport} {i : ℕ}
    (ha : (chain ++ [r])[i]? = some a) (hb : (chain ++ [r])[i + 1]? = some b) :
    (chain[i]? = some a ∧ chain[i + 1]? = some b) ∨ (chain.getLast? = some a ∧ b = r) := by
  rcases getElem?_snoc.1 hb with hb | ⟨hi, rfl⟩
  · rcases getElem?_snoc.1 ha with ha | ⟨rfl, -⟩
    · exact Or.inl ⟨ha, hb⟩
    · exact absurd (List.getElem?_eq_some_iff.1 hb).1 (by omega)
  · rcases getElem?_snoc.1 ha with ha | ⟨hi', -⟩
    · exact Or.inr ⟨getLast?_of_length ha hi, rfl⟩
    · omega

theorem Licensing.snoc {chain : List AppendBrowserRuntimeReport} {i : ℕ}
    {r p d s : AppendBrowserRuntimeReport} (h : Licensing chain i r p d) : Licensing (chain ++ [s]) i r p d :=
  ⟨⟨getElem?_snoc.2 (Or.inl h.proposal.1), h.proposal.2⟩,
    ⟨getElem?_snoc.2 (Or.inl h.decision.1), h.decision.2⟩⟩

namespace ReportChain

variable {chain : List AppendBrowserRuntimeReport} {r : AppendBrowserRuntimeReport}

theorem nil : ReportChain [] := by
  refine ⟨?_, ?_, ?_, ?_, ?_, ?_, ?_, ?_, ?_⟩ <;> simp

/-- The proposal and the decision behind a new receipt are the last two reports. -/
theorem licensing (hr : Admitted chain r) (hkind : r.kind = .actionExecuted) :
    ∃ j p d, chain.length = j + 2 ∧ Licensing chain j r p d := by
  cases hlast : chain.getLast? with
  | none =>
    rw [List.getLast?_eq_none_iff] at hlast
    rw [(hr.first hlast).1] at hkind
    simp at hkind
  | some l =>
    obtain ⟨-, -, -, -, proposal, htransition, hproposal⟩ := hr.later l hlast
    have hdecided := htransition.executed hkind
    rcases htransition.allowed hdecided with hblocked | ⟨hallow, -, hid, hslot, p, hp, hpk, hpid, hpslot, hpact⟩
    · rw [hkind] at hblocked
      simp at hblocked
    · have hpmem := hproposal p hkind hp
      have hl : chain[chain.length - 1]? = some l := by rwa [← List.getLast?_eq_getElem?]
      have hlen : 2 ≤ chain.length := by
        by_contra hlt
        have hlt' := (List.getElem?_eq_some_iff.1 hl).1
        have hzero : chain.length - 2 = chain.length - 1 := by omega
        rw [hzero, hl] at hpmem
        obtain rfl := Option.some.inj hpmem
        rw [hdecided] at hpk
        simp at hpk
      obtain ⟨j, hj⟩ := Nat.exists_eq_add_of_le' hlen
      refine ⟨j, p, l, hj, ⟨⟨?_, hpk, hpslot, hpid, hpact⟩, ⟨?_, hdecided, hallow, hslot, hid⟩⟩⟩
      · rwa [hj, Nat.add_sub_cancel] at hpmem
      · rw [hj] at hl
        exact hl

theorem snoc (h : ReportChain chain) (hr : Admitted chain r) : ReportChain (chain ++ [r]) := by
  have hempty : chain = [] ↔ chain.length = 0 := List.length_eq_zero_iff.symm
  refine ⟨?_, ?_, ?_, ?_, ?_, ?_, ?_, ?_, ?_⟩
  · intro i a ha
    rcases getElem?_snoc.1 ha with ha | ⟨rfl, rfl⟩
    · exact h.sequence i a ha
    · exact hr.sequence
  · intro a ha
    rcases getElem?_snoc.1 ha with ha | ⟨hi, rfl⟩
    · exact h.start a ha
    · exact (hr.first (hempty.2 hi.symm)).2
  · intro i a b ha hb
    rcases neighbours ha hb with ⟨ha, hb⟩ | ⟨hlast, rfl⟩
    · exact h.linked i a b ha hb
    · exact (hr.later a hlast).1
  · intro i a ha
    rcases getElem?_snoc.1 ha with ha | ⟨rfl, rfl⟩
    · exact h.started i a ha
    · constructor
      · intro hkind
        by_contra hne
        obtain ⟨l, hl⟩ : ∃ l, chain.getLast? = some l := by
          cases hlast : chain.getLast? with
          | none =>
            rw [List.getLast?_eq_none_iff] at hlast
            exact absurd (hempty.1 hlast) hne
          | some l => exact ⟨l, rfl⟩
        exact (hr.later l hl).2.2.2.1 hkind
      · exact fun hzero => (hr.first (hempty.2 hzero)).1
  · intro i a ha hkind
    by_contra hsome
    obtain ⟨b, hb⟩ := Option.ne_none_iff_exists'.1 hsome
    rcases neighbours ha hb with ⟨ha, hb⟩ | ⟨hlast, rfl⟩
    · rw [h.completed i a ha hkind] at hb
      simp at hb
    · exact (hr.later a hlast).2.2.1 hkind
  · intro i a b ha hb
    rcases neighbours ha hb with ⟨ha, hb⟩ | ⟨hlast, rfl⟩
    · exact h.ordered i a b ha hb
    · exact (hr.later a hlast).2.1
  · intro i a ha hkind
    rcases getElem?_snoc.1 ha with ha | ⟨rfl, rfl⟩
    · obtain ⟨j, p, d, hj, hlicensing⟩ := h.executed i a ha hkind
      exact ⟨j, p, d, hj, hlicensing.snoc⟩
    · obtain ⟨j, p, d, hj, hlicensing⟩ := licensing hr hkind
      exact ⟨j, p, d, hj, hlicensing.snoc⟩
  · intro i a b ha hb hkind hdecision
    rcases neighbours ha hb with ⟨ha, hb⟩ | ⟨hlast, rfl⟩
    · exact h.refused i a b ha hb hkind hdecision
    · obtain ⟨-, -, -, -, proposal, htransition, -⟩ := hr.later a hlast
      rcases htransition.allowed hkind with hblocked | ⟨hallow, -⟩
      · exact hblocked
      · exact absurd hallow hdecision
  · -- a second receipt would have a second proposal of the same action behind it
    have hnew : ∀ (i : ℕ) (a : AppendBrowserRuntimeReport), chain[i]? = some a → a.kind = r.kind →
        a.kind = .actionProposed ∨ a.kind = .actionExecuted → a.actionId = r.actionId → False := by
      rintro i a ha hkind (hact | hact) hid
      · exact (hr.identified (hkind.symm.trans hact)).2 a (List.mem_of_getElem? ha) hid
      · obtain ⟨j, p, d, rfl, hp⟩ := h.executed i a ha hact
        obtain ⟨k, q, e, hk, hq⟩ := licensing hr (hkind.symm.trans hact)
        have hsame := h.once j k p q hp.proposal.1 hq.proposal.1 (hp.proposal.2.1.trans hq.proposal.2.1.symm)
          (Or.inl hp.proposal.2.1)
          (by rw [hp.proposal.2.2.2.1, hq.proposal.2.2.2.1, hid])
        have hlt := (List.getElem?_eq_some_iff.1 ha).1
        omega
    intro i j a b ha hb hkind hact hid
    rcases getElem?_snoc.1 ha with hold | ⟨hi, rfl⟩
    · rcases getElem?_snoc.1 hb with hold' | ⟨-, rfl⟩
      · exact h.once i j a b hold hold' hkind hact hid
      · exact (hnew i a hold hkind hact hid).elim
    · rcases getElem?_snoc.1 hb with hold' | ⟨hj, -⟩
      · exact (hnew j b hold' hkind.symm (hkind ▸ hact) hid.symm).elim
      · rw [hi, hj]

end ReportChain

/-! ### The calls -/

theorem transition_of_commits {previous current : AppendBrowserRuntimeReport}
    {proposal : Option AppendBrowserRuntimeReport} {db db' : DebugDb} {u : Unit}
    (h : Commits (requireActionReportTransition previous current proposal) db u db') :
    db' = db ∧ Transition previous current proposal := by
  simp only [requireActionReportTransition, commits_bind, commits_raiseIf, commits_ite, commits_pure] at h
  obtain ⟨_, _, ⟨-, rfl⟩, _, _, ⟨hdecided, rfl⟩, h⟩ := h
  have hdecided' : current.kind = .policyDecided → previous.kind = .actionProposed := by
    simpa using hdecided
  rcases h with ⟨hprevious, ⟨hblocked, -, rfl⟩ | ⟨-, hallowed, rfl⟩⟩ | ⟨hprevious, hexecuted, rfl⟩
  · refine ⟨rfl, hdecided', fun _ => Or.inl hblocked, fun _ => hprevious⟩
  · push Not at hallowed
    obtain ⟨hallow, hkind, hid, hslot, hproposal⟩ := hallowed
    refine ⟨rfl, hdecided', fun _ => Or.inr ⟨hallow, hkind, hid, hslot, ?_⟩, fun _ => hprevious⟩
    cases proposal with
    | none => simp at hproposal
    | some p =>
      simp only [Option.all_some, ne_eq, decide_eq_true_eq, not_or, not_not] at hproposal
      exact ⟨p, rfl, hproposal⟩
  · exact ⟨rfl, hdecided', fun hp => absurd hp hprevious, fun he => absurd he hexecuted⟩

/-- What the latest report has to be like for the new one to follow it. -/
structure FollowsLatest (db : DebugDb) (latest : Option BrowserRuntimeReport) (r : AppendBrowserRuntimeReport) :
    Prop where
  sequence : r.sequence = latest.elim 1 fun l => l.value.sequence + 1
  previous : r.previousChainDigest = latest.elim chainStartDigest fun l => l.value.chainDigest
  first : r.sequence = 1 → r.kind = .executionStarted
  later : r.sequence ≠ 1 → ∃ l, latest = some l ∧ l.value.occurredAt ≤ r.occurredAt ∧
    l.value.kind ≠ .executionCompleted ∧ r.kind ≠ .executionStarted ∧
    Transition l.value r (if r.kind = .actionExecuted then
      (db.getBySequence r.executionContractId (r.sequence - 2)).map (·.value) else none)

theorem follows_of_commits {db db' : DebugDb} {latest : Option BrowserRuntimeReport}
    {r : AppendBrowserRuntimeReport} {u : Unit} (h : Commits (requireNext latest r) db u db') :
    db' = db ∧ FollowsLatest db latest r := by
  simp only [requireNext, commits_raiseIf_bind, commits_ite, commits_demand_bind, commits_read_bind,
    commits_raiseIf, id_eq] at h
  obtain ⟨hnext, ⟨hone, hkind, rfl⟩ | ⟨hne, l, rfl, htime, hopen, hstart, h⟩⟩ := h
  · push Not at hnext
    exact ⟨rfl, hnext.1, hnext.2, fun _ => not_not.1 hkind, fun hne => absurd hone hne⟩
  · push Not at hnext
    obtain ⟨rfl, htransition⟩ := transition_of_commits h
    exact ⟨rfl, hnext.1, hnext.2, fun hone => absurd hone hne,
      fun _ => ⟨l, rfl, Nat.not_lt.1 htime, hopen, hstart, htransition⟩⟩

theorem firstViolation_eq_none {rules : List (Bool × String)} :
    firstViolation rules = none ↔ ∀ r ∈ rules, r.1 = false := by
  induction rules with
  | nil => simp
  | cons r rules ih =>
    obtain ⟨violated, message⟩ := r
    simp [ih]

theorem identified_of_valid {digests : ReportDigests} {report : AppendBrowserRuntimeReport}
    (h : report.violation digests = none) (haction : report.kind.isAction = true) :
    report.actionId ≠ none := by
  have hrule := firstViolation_eq_none.1 h
    (report.kind.isAction && (report.actorSlot.isNone || report.actionId.isNone),
      "action reports require actorSlot and actionId") (by simp)
  intro hnone
  simp [haction, hnone] at hrule

/-- A new report, with everything that the service has compared. -/
structure ReportAppended (digests : ReportDigests) (report : AppendBrowserRuntimeReport)
    (row : BrowserRuntimeReport) (db db' : DebugDb) : Prop where
  valid : report.violation digests = none
  value : row.value = report
  contract : ∃ k ∈ db.contracts, k.id = report.executionContractId ∧
    k.contentDigest = report.executionContractDigest ∧ k.debugRunId = row.debugRunId ∧
    k.createdAt ≤ report.occurredAt ∧ ¬ (report.actorSlot.any fun slot => slot ∉ k.actorSlots) = true
  fresh : db.getById report.reportId = none
  unproposed : report.kind = .actionProposed → ∀ actionId, report.actionId = some actionId →
    db.actionExists report.executionContractId actionId = false
  next : FollowsLatest db (db.getLatest report.executionContractId) report
  rows : db' = { db with reports := db.reports ++ [row] }

theorem appended_of_commits {digests : ReportDigests} {runId : Uuid} {worker : String}
    {report : AppendBrowserRuntimeReport} {now : Instant} {db db' : DebugDb} {out : BrowserRuntimeReport}
    (h : Commits (submitBrowserReport digests runId worker report now) db out db') :
    (db' = db ∧ out ∈ db.reports ∧ out.value = report) ∨ ReportAppended digests report out db db' := by
  unfold submitBrowserReport at h
  cases hvalid : report.violation digests with
  | some message => simp [hvalid] at h
  | none =>
    simp only [hvalid, appendBrowserReport, requireReportable, requireDebugRun, requireContract, bind_assoc,
      pure_bind, commits_read_bind, commits_demand_bind, commits_raiseIf_bind] at h
    obtain ⟨run, -, contract, hcontract, -, hexact, -, -, hwindow, -, hslot, h⟩ := h
    push Not at hexact hwindow
    obtain ⟨hid, hdigest⟩ := hexact
    cases hexisting : (db.getById report.reportId).or (db.getBySequence contract.id report.sequence) with
    | some existing =>
      simp only [hexisting, commits_raiseIf_bind, commits_pure] at h
      obtain ⟨hsame, rfl, rfl⟩ := h
      rw [not_not] at hsame
      refine Or.inl ⟨rfl, ?_, hsame.2.1⟩
      rw [hsame.2.2, Option.or_self] at hexisting
      exact List.mem_of_find?_eq_some hexisting
    | none =>
      simp only [hexisting, commits_raiseIf_bind, commits_read_bind] at h
      obtain ⟨hproposed, h⟩ := h
      rw [commits_bind] at h
      obtain ⟨_, m, hnext, h⟩ := h
      obtain ⟨rfl, hnext⟩ := follows_of_commits hnext
      simp only [appendReport, commits_read_bind, commits_raiseIf_bind] at h
      obtain ⟨-, -, -, -, h⟩ := h
      simp only [commits_bind, commits_update, commits_pure] at h
      obtain ⟨_, _, rfl, rfl, rfl⟩ := h
      obtain ⟨hfresh, -⟩ := Option.or_eq_none_iff.1 hexisting
      refine Or.inr ⟨hvalid, rfl, ⟨contract, List.mem_of_find?_eq_some hcontract, hid, hdigest, ?_,
        hwindow.1, hslot⟩, hfresh, fun hkind actionId haction => ?_, hid ▸ hnext, rfl⟩
      · simpa using List.find?_some hcontract
      · rw [← hid]
        simpa [hkind, haction] using hproposed

/-! ### The invariant -/

structure DebugInv (digests : ReportDigests) (db : DebugDb) : Prop where
  chains : ∀ executionContractId, ReportChain (DebugDb.chain db executionContractId)
  reportIds : (db.reports.map fun r => r.value.reportId).Nodup
  contractIds : (db.contracts.map ExecutionContract.id).Nodup
  contractRuns : (db.contracts.map ExecutionContract.debugRunId).Nodup
  stored : ∀ x ∈ db.reports, x.value.violation digests = none ∧
    ∃ k ∈ db.contracts, k.id = x.value.executionContractId ∧
      k.contentDigest = x.value.executionContractDigest ∧ k.debugRunId = x.debugRunId ∧
      k.createdAt ≤ x.value.occurredAt ∧ ¬ (x.value.actorSlot.any fun slot => slot ∉ k.actorSlots) = true

theorem mem_chain {db : DebugDb} {c : Uuid} {r : AppendBrowserRuntimeReport} :
    r ∈ DebugDb.chain db c ↔ ∃ x ∈ db.reports, x.value = r ∧ r.executionContractId = c := by
  simp only [DebugDb.chain, DebugDb.listForContract, List.mem_map, List.mem_filter, decide_eq_true_eq]
  constructor
  · rintro ⟨x, ⟨hx, hc⟩, rfl⟩
    exact ⟨x, hx, rfl, hc⟩
  · rintro ⟨x, hx, rfl, hc⟩
    exact ⟨x, ⟨hx, hc⟩, rfl⟩

/-- The sequences of a stream are its positions. -/
theorem gapless_of_chain {db : DebugDb} {c : Uuid} (h : ReportChain (DebugDb.chain db c)) :
    Rows.Gapless (fun r : BrowserRuntimeReport => r.value.sequence) (db.listForContract c) := by
  refine List.ext_getElem? fun i => ?_
  rw [List.getElem?_map]
  cases hi : (db.listForContract c)[i]? with
  | none =>
    have hlen : (db.listForContract c).length ≤ i := List.getElem?_eq_none_iff.1 hi
    rw [List.getElem?_eq_none (by simpa using hlen)]
    rfl
  | some x =>
    have hlt := (List.getElem?_eq_some_iff.1 hi).1
    have hx : (DebugDb.chain db c)[i]? = some x.value := by
      rw [DebugDb.chain, List.getElem?_map, hi]
      rfl
    rw [Option.map_some, h.sequence i x.value hx, List.getElem?_eq_getElem (by simpa using hlt),
      List.getElem_range']
    simp [Nat.add_comm]

theorem getLatest_of_chain {db : DebugDb} {c : Uuid} (h : ReportChain (DebugDb.chain db c)) :
    (db.getLatest c).map (·.value) = (DebugDb.chain db c).getLast? := by
  rw [DebugDb.getLatest, (gapless_of_chain h).newest_eq_getLast?, DebugDb.chain, List.getLast?_map]

/-- A report stands in its chain at its sequence. -/
theorem getElem?_of_mem {chain : List AppendBrowserRuntimeReport} {r : AppendBrowserRuntimeReport}
    (h : ReportChain chain) (hr : r ∈ chain) : chain[r.sequence - 1]? = some r := by
  obtain ⟨i, hi⟩ := List.mem_iff_getElem?.1 hr
  rw [h.sequence i r hi, Nat.add_sub_cancel]
  exact hi

theorem admitted_of_appended {digests : ReportDigests} {report : AppendBrowserRuntimeReport}
    {row : BrowserRuntimeReport} {db db' : DebugDb}
    (h : ReportChain (DebugDb.chain db report.executionContractId))
    (hr : ReportAppended digests report row db db') :
    Admitted (DebugDb.chain db report.executionContractId) report := by
  have hlatest := getLatest_of_chain h
  obtain ⟨hsequence, hprevious, hfirst, hlater⟩ := hr.next
  generalize hc : DebugDb.chain db report.executionContractId = chain at *
  have hlast : ∀ l, chain.getLast? = some l → ∃ x,
      db.getLatest report.executionContractId = some x ∧ x.value = l ∧ l.sequence = chain.length := by
    intro l hl
    rw [hl, Option.map_eq_some_iff] at hlatest
    obtain ⟨x, hx, hvalue⟩ := hlatest
    refine ⟨x, hx, hvalue, ?_⟩
    rw [List.getLast?_eq_getElem?] at hl
    have := h.sequence _ l hl
    have hlt := (List.getElem?_eq_some_iff.1 hl).1
    omega
  have hnone : chain = [] → db.getLatest report.executionContractId = none := by
    rintro rfl
    simpa using hlatest
  have hlength : report.sequence = chain.length + 1 := by
    cases hl : chain.getLast? with
    | none =>
      have hnil := List.getLast?_eq_none_iff.1 hl
      rw [hsequence, hnone hnil, hnil]
      rfl
    | some l =>
      obtain ⟨x, hx, rfl, hseq⟩ := hlast l hl
      rw [hsequence, hx, Option.elim_some, hseq]
  refine ⟨hlength, fun hnil => ?_, fun l hl => ?_, fun hkind => ?_⟩
  · refine ⟨hfirst (by simp [hlength, hnil]), ?_⟩
    rw [hprevious, hnone hnil]
    rfl
  · obtain ⟨x, hx, rfl, -⟩ := hlast l hl
    have hne : report.sequence ≠ 1 := by
      have : chain ≠ [] := fun hnil => by simp [hnil] at hl
      have := List.length_pos_iff.2 this
      omega
    obtain ⟨x', hx', htime, hopen, hstart, htransition⟩ := hlater hne
    obtain rfl := Option.some.inj (hx.symm.trans hx')
    refine ⟨by rw [hprevious, hx]; rfl, htime, hopen, hstart, _, htransition, fun p hexecuted hp => ?_⟩
    rw [if_pos hexecuted, Option.map_eq_some_iff] at hp
    obtain ⟨y, hy, rfl⟩ := hp
    have hmem := List.mem_of_find?_eq_some hy
    have hsel := List.find?_some hy
    simp only [Bool.and_eq_true, decide_eq_true_eq] at hsel
    have hin : y.value ∈ chain := hc ▸ mem_chain.2 ⟨y, hmem, rfl, hsel.1⟩
    have hat := getElem?_of_mem h hin
    rw [hsel.2, hlength] at hat
    exact hat
  · have hid := identified_of_valid hr.valid (by simp [hkind, BrowserRuntimeReportKind.isAction])
    refine ⟨hid, fun a ha heq => ?_⟩
    obtain ⟨actionId, haction⟩ := Option.ne_none_iff_exists'.1 hid
    have hnew := hr.unproposed hkind actionId haction
    obtain ⟨x, hx, rfl, hcontract⟩ := mem_chain.1 (hc ▸ ha)
    simp only [DebugDb.actionExists, List.any_eq_false, Bool.and_eq_true, decide_eq_true_eq, not_and] at hnew
    exact hnew x hx hcontract (heq.trans haction)

theorem DebugInv.appended {digests : ReportDigests} {report : AppendBrowserRuntimeReport}
    {row : BrowserRuntimeReport} {db db' : DebugDb} (h : DebugInv digests db)
    (hr : ReportAppended digests report row db db') : DebugInv digests db' := by
  obtain rfl := hr.rows
  obtain rfl := hr.value
  refine ⟨fun c => ?_, ?_, h.contractIds, h.contractRuns, fun x hx => ?_⟩
  · by_cases hc : row.value.executionContractId = c
    · subst hc
      have hsnoc : DebugDb.chain { db with reports := db.reports ++ [row] } row.value.executionContractId =
          DebugDb.chain db row.value.executionContractId ++ [row.value] := by
        simp [DebugDb.chain, DebugDb.listForContract]
      rw [hsnoc]
      exact (h.chains _).snoc (admitted_of_appended (h.chains _) hr)
    · have hsame : DebugDb.chain { db with reports := db.reports ++ [row] } c = DebugDb.chain db c := by
        simp [DebugDb.chain, DebugDb.listForContract, hc]
      rw [hsame]
      exact h.chains c
  · rw [List.map_append]
    refine List.nodup_append.2 ⟨h.reportIds, List.nodup_singleton _, fun a ha b hb => ?_⟩
    obtain ⟨x, hx, rfl⟩ := List.mem_map.1 ha
    obtain rfl := List.mem_singleton.1 hb
    simpa using List.find?_eq_none.1 hr.fresh x hx
  · rcases List.mem_append.1 hx with hx | hx
    · exact h.stored x hx
    · obtain rfl := List.mem_singleton.1 hx
      exact ⟨hr.valid, hr.contract⟩

theorem debugInv_step {digests : ReportDigests} {db db' : DebugDb} (hstep : DebugStep digests db db')
    (h : DebugInv digests db) : DebugInv digests db' := by
  cases hstep with
  | report runId worker report now =>
    rcases after_eq (submitBrowserReport digests runId worker report now) db with hsame | ⟨out, hcommits⟩
    · rw [hsame]
      exact h
    · rcases appended_of_commits hcommits with ⟨hsame, -⟩ | hr
      · rw [hsame]
        exact h
      · exact h.appended hr
  | bind contract hnew =>
    refine ⟨h.chains, h.reportIds, ?_, ?_, fun x hx => ?_⟩
    · rw [List.map_append]
      refine List.nodup_append.2 ⟨h.contractIds, List.nodup_singleton _, fun a ha b hb => ?_⟩
      obtain ⟨k, hk, rfl⟩ := List.mem_map.1 ha
      obtain rfl := List.mem_singleton.1 hb
      exact (hnew k hk).1
    · rw [List.map_append]
      refine List.nodup_append.2 ⟨h.contractRuns, List.nodup_singleton _, fun a ha b hb => ?_⟩
      obtain ⟨k, hk, rfl⟩ := List.mem_map.1 ha
      obtain rfl := List.mem_singleton.1 hb
      exact (hnew k hk).2
    · obtain ⟨hvalid, k, hk, hrest⟩ := h.stored x hx
      exact ⟨hvalid, k, List.mem_append_left _ hk, hrest⟩
  | runs runs manifests => exact ⟨h.chains, h.reportIds, h.contractIds, h.contractRuns, h.stored⟩

theorem debugInv_run {digests : ReportDigests} {db db' : DebugDb} (hrun : DebugRunOf digests db db')
    (h : DebugInv digests db) : DebugInv digests db' :=
  run_keeps (I := DebugInv digests) (fun _ _ => debugInv_step) hrun h

theorem debugInv_of_reachable {digests : ReportDigests} {db : DebugDb} (h : DebugReachable digests db) :
    DebugInv digests db :=
  debugInv_run h ⟨fun _ => ReportChain.nil, List.nodup_nil, List.nodup_nil, List.nodup_nil, by simp⟩

/-! ### Replays -/

/-- The Worker of the contract sends the stored report again while the run is RUNNING, not
cancel-requested and before the deadline. -/
structure Replayed (db : DebugDb) (x : BrowserRuntimeReport) (worker : String) (now : Instant) : Prop where
  stored : x ∈ db.reports
  run : ∃ run, db.getRun x.debugRunId = some run ∧ run.lifecycle = .running ∧ run.cancelRequestedAt = none
  contract : ∀ k ∈ db.contracts, k.debugRunId = x.debugRunId →
    k.workerIdentity = worker ∧ now ≤ k.executionDeadline

theorem replay_commits {digests : ReportDigests} {db : DebugDb} (h : DebugInv digests db)
    {x : BrowserRuntimeReport} {worker : String} {now : Instant} (hx : Replayed db x worker now)
    (hnow : x.value.occurredAt ≤ now) :
    Commits (submitBrowserReport digests x.debugRunId worker x.value now) db x db := by
  obtain ⟨hmem, ⟨run, hrun, hrunning, hcancel⟩, hcontract⟩ := hx
  obtain ⟨hvalid, k, hk, hid, hdigest, hkrun, hcreated, hslot⟩ := h.stored x hmem
  obtain ⟨hworker, hdeadline⟩ := hcontract k hk hkrun
  have hrunId : run.id = x.debugRunId := by simpa using List.find?_some hrun
  have hkfind : db.getContractForRun run.id = some k := by
    rw [hrunId, ← hkrun]
    exact Table.find?_of_mem h.contractRuns hk
  have hbyId : db.getById x.value.reportId = some x := Table.find?_of_mem h.reportIds hmem
  have hbySequence : db.getBySequence k.id x.value.sequence = some x := by
    cases hfind : db.getBySequence k.id x.value.sequence with
    | none =>
      have hnone := List.find?_eq_none.1 hfind x hmem
      simp [hid] at hnone
    | some y =>
      have hsel := List.find?_some hfind
      simp only [Bool.and_eq_true, decide_eq_true_eq] at hsel
      have hy := List.mem_of_find?_eq_some hfind
      have hchain := h.chains k.id
      have hvalue : y.value = x.value := by
        have hat := getElem?_of_mem hchain (mem_chain.2 ⟨y, hy, rfl, hsel.1⟩)
        have hat' := getElem?_of_mem hchain (mem_chain.2 ⟨x, hmem, rfl, hid.symm⟩)
        rw [hsel.2, hat'] at hat
        exact (Option.some.inj hat).symm
      rw [Table.eq_of_key h.reportIds hy hmem (congrArg (·.reportId) hvalue)]
  unfold submitBrowserReport
  simp only [hvalid, appendBrowserReport, requireReportable, requireDebugRun, requireContract, bind_assoc,
    pure_bind, commits_read_bind, commits_demand_bind, commits_raiseIf_bind]
  refine ⟨run, hrun, k, hkfind, not_not.2 hworker, ?_, not_not.2 hrunning, not_not.2 hcancel,
    not_not.2 ⟨hcreated, hnow⟩, Nat.not_lt.2 hdeadline, hslot, ?_⟩
  · simp [hid, hdigest]
  · simp only [hbyId, hbySequence, Option.or_self, commits_raiseIf_bind, commits_pure]
    exact ⟨by simp [hrunId], trivial, trivial⟩

/-- In every reachable state the reports of a contract form one admissible chain, and a stored
report sent again at a reading not before it is answered by what is stored and appends nothing. -/
theorem report_chains_hold {digests : ReportDigests} {db : DebugDb} (hreach : DebugReachable digests db) :
    (∀ executionContractId, ReportChain (DebugDb.chain db executionContractId)) ∧
    ∀ x worker now, Replayed db x worker now → x.value.occurredAt ≤ now →
      Commits (submitBrowserReport digests x.debugRunId worker x.value now) db x db := by
  have h := debugInv_of_reachable hreach
  exact ⟨h.chains, fun x worker now hx hnow => replay_commits h hx hnow⟩

/-! A run with one report, and the same report at an earlier reading. -/

def exampleDigests : ReportDigests := ⟨fun _ => 1, fun _ => 2⟩

def exampleIr : TestIr := ⟨[⟨"assertion:total", "total", "equals@1", .hard⟩], [("total", "42")], by decide⟩

def exampleRun : DebugRun := ⟨1, 2, 3, 4, .running, none, exampleIr, 100, none, none⟩

def exampleRunning : DebugDb :=
  { runs := [exampleRun], contracts := [⟨5, 1, 0, "worker-1", ["actor-1"], 1, 100⟩]
    reports := [], manifests := [] }

def exampleStarted : AppendBrowserRuntimeReport :=
  buildBrowserRuntimeReport exampleDigests 5 0 6 1 .executionStarted
    (.executionStarted "browser execution started"
      "sha256:0000000000000000000000000000000000000000000000000000000000000000") 8 chainStartDigest none none

def exampleRow : BrowserRuntimeReport := ⟨2, 3, 4, 1, exampleStarted, 10⟩

theorem exampleRunning_reachable : DebugReachable exampleDigests exampleRunning :=
  (Relation.ReflTransGen.single
    (.bind ⟨[], [], [], []⟩ ⟨5, 1, 0, "worker-1", ["actor-1"], 1, 100⟩ (by simp))).tail
    (.runs _ [exampleRun] [])

theorem exampleStarted_valid : exampleStarted.violation exampleDigests = none := by
  decide +kernel

theorem exampleRow_reachable :
    DebugReachable exampleDigests { exampleRunning with reports := [exampleRow] } := by
  have hafter : after (submitBrowserReport exampleDigests 1 "worker-1" exampleStarted 10) exampleRunning =
      { exampleRunning with reports := [exampleRow] } := by
    simp only [submitBrowserReport, exampleStarted_valid]
    rfl
  rw [← hafter]
  exact exampleRunning_reachable.tail (.report _ 1 "worker-1" exampleStarted 10)

theorem exampleRow_replayed (now : Instant) (hnow : now ≤ 100) :
    Replayed { exampleRunning with reports := [exampleRow] } exampleRow "worker-1" now := by
  refine ⟨by simp, ⟨_, rfl, rfl, rfl⟩, fun k hk _ => ?_⟩
  obtain rfl := List.mem_singleton.1 hk
  exact ⟨rfl, hnow⟩

theorem early_replay_refused : ∃ digests db x worker now, DebugReachable digests db ∧
    Replayed db x worker now ∧
    ¬ ∃ out db', Commits (submitBrowserReport digests x.debugRunId worker x.value now) db out db' := by
  refine ⟨exampleDigests, _, exampleRow, "worker-1", 7, exampleRow_reachable,
    exampleRow_replayed 7 (by decide), ?_⟩
  rintro ⟨out, db', h⟩
  have hrefused : (appendBrowserReport 1 "worker-1" exampleStarted 7
      { exampleRunning with reports := [exampleRow] }).isOk = false := by decide
  simp only [submitBrowserReport, exampleRow, exampleStarted_valid] at h
  rw [Commits] at h
  simp only [exampleRow] at hrefused
  simp [h, Except.isOk, Except.toBool] at hrefused

theorem report_chains_hold_example :
    ReportChain (DebugDb.chain { exampleRunning with reports := [exampleRow] } 5) ∧
      Commits (submitBrowserReport exampleDigests 1 "worker-1" exampleStarted 9)
        { exampleRunning with reports := [exampleRow] } exampleRow
        { exampleRunning with reports := [exampleRow] } :=
  ⟨(report_chains_hold exampleRow_reachable).1 5,
    (report_chains_hold exampleRow_reachable).2 exampleRow "worker-1" 9 (exampleRow_replayed 9 (by decide))
      (by decide)⟩

end Atlas.Proofs
