import AtlasTestOps.Service.FinalizeEvidence
import AtlasTestOps.Proofs.ReportChain

/-! The verdict of a DebugRun: what PASSED and FAILED mean for the evidence that was submitted,
and that a terminated run answers with it for good. -/

namespace Atlas.Proofs

open Atlas Atlas.Runtime Atlas.Store Atlas.Service Txn

variable {D : EvidenceDigests} {ir : TestIr} {newId : String → Uuid}

/-! ### The meaning of the verdicts -/

structure Passing (ir : TestIr) (command : FinalizeDebugEvidence) : Prop where
  hard : ∃ a ∈ ir.assertions, a.strength = .hard
  once : ∀ a ∈ ir.assertions,
    (command.assertionResults.map AssertionResultInput.assertionId).count a.assertionId = 1
  cites : ∀ r ∈ command.assertionResults, ∃ ref ∈ r.evidenceRefs, ∃ x ∈ command.artifacts, x.id = ref
  passed : ∀ a ∈ ir.assertions, a.strength = .hard →
    ∀ r ∈ command.assertionResults, r.assertionId = a.assertionId → r.status = .passed
  verified : ∀ x ∈ command.artifacts, x.integrity ≠ .invalid

def Failing (ir : TestIr) (command : FinalizeDebugEvidence) : Prop :=
  ∃ a ∈ ir.assertions, a.strength = .hard ∧
    ∃ r ∈ command.assertionResults, r.assertionId = a.assertionId ∧ r.status = .failed

theorem Passing.answered {command : FinalizeDebugEvidence} (h : Passing ir command) {a : AssertionSpec}
    (ha : a ∈ ir.assertions) : ∃ r ∈ command.assertionResults, r.assertionId = a.assertionId := by
  have hmem : a.assertionId ∈ command.assertionResults.map AssertionResultInput.assertionId :=
    List.count_pos_iff.1 (by rw [h.once a ha]; exact Nat.one_pos)
  exact List.mem_map.1 hmem

/-! ### The oracle -/

theorem oracleOutcome_failed_iff {results : List AssertionResult} {c : EvidenceCompleteness}
    {i : ArtifactIntegrity} : oracleOutcome results c i = .failed ↔ ∃ r ∈ results, r.status = .failed := by
  unfold oracleOutcome
  split_ifs with hfailed hopen
  · simpa using hfailed
  · simpa using hfailed
  · simpa using hfailed

theorem oracleOutcome_passed_iff {results : List AssertionResult} {c : EvidenceCompleteness}
    {i : ArtifactIntegrity} : oracleOutcome results c i = .passed ↔
      results ≠ [] ∧ (∀ r ∈ results, r.status = .passed) ∧ c = .complete ∧ i = .verified := by
  unfold oracleOutcome
  split_ifs with hfailed hopen
  · simp only [List.any_eq_true, decide_eq_true_eq] at hfailed
    obtain ⟨r, hr, hstatus⟩ := hfailed
    simp only [false_iff]
    rintro ⟨-, hall, -⟩
    rw [hall r hr] at hstatus
    cases hstatus
  · simp only [false_iff]
    rintro ⟨hne, hall, rfl, rfl⟩
    simp only [hne, decide_false, Bool.or_eq_true, List.any_eq_true, decide_eq_true_eq, ne_eq,
      not_true_eq_false, or_false, false_or, Bool.false_eq_true] at hopen
    obtain ⟨r, hr, hstatus⟩ := hopen
    rw [hall r hr] at hstatus
    cases hstatus
  · simp only [Bool.or_eq_true, List.any_eq_true, decide_eq_true_eq, not_or, not_exists, not_and,
      not_not] at hfailed hopen
    simp only [true_iff]
    refine ⟨hopen.1.1.1, fun r hr => ?_, hopen.1.2, hopen.2⟩
    cases hstatus : r.status with
    | passed => rfl
    | failed => exact absurd hstatus (hfailed r hr)
    | inconclusive => exact absurd hstatus (hopen.1.1.2 r hr)

theorem evidenceCompleteness_complete_iff {missing : List AssertionSpec} {results : List AssertionResult} :
    evidenceCompleteness missing results = .complete ↔
      missing = [] ∧ ∀ r ∈ results, r.evidenceRefs ≠ [] := by
  unfold evidenceCompleteness
  split_ifs with hhard hopen
  · simp only [false_iff]
    rintro ⟨rfl, hall⟩
    simp only [List.any_nil, Bool.false_or, List.any_eq_true, Bool.and_eq_true, decide_eq_true_eq] at hhard
    obtain ⟨r, hr, -, hempty⟩ := hhard
    exact hall r hr hempty
  · simp only [false_iff]
    rintro ⟨rfl, hall⟩
    simp only [ne_eq, not_true_eq_false, decide_false, Bool.false_or, List.any_eq_true,
      decide_eq_true_eq] at hopen
    obtain ⟨r, hr, hempty⟩ := hopen
    exact hall r hr hempty
  · simp only [Bool.or_eq_true, List.any_eq_true, decide_eq_true_eq, not_or, not_exists, not_and,
      not_not] at hopen
    simpa using hopen

theorem evidenceIntegrity_verified_iff {artifacts : List EvidenceArtifactInput} :
    evidenceIntegrity artifacts = .verified ↔ ∀ a ∈ artifacts, a.integrity ≠ .invalid := by
  unfold evidenceIntegrity
  split_ifs with hinvalid
  · simpa using hinvalid
  · simpa using hinvalid

theorem missingAssertions_eq_nil_iff {results : List AssertionResult} :
    missingAssertions ir results = [] ↔
      ∀ a ∈ ir.assertions, ∃ r ∈ results, r.assertionId = a.assertionId := by
  simp [missingAssertions, List.filter_eq_nil_iff]

/-! ### The results of a command -/

/-- A result of the manifest and the value of the command it was built from. -/
structure BuiltFrom (ir : TestIr) (value : AssertionResultInput) (result : AssertionResult) : Prop where
  declared : ∃ a ∈ ir.assertions, a.assertionId = value.assertionId ∧ result.strength = a.strength
  assertionId : result.assertionId = value.assertionId
  status : result.status = value.status
  evidenceRefs : result.evidenceRefs = value.evidenceRefs

theorem builtFrom_of_ok {value : AssertionResultInput} {result : AssertionResult}
    (h : buildAssertionResult D ir newId value = .ok result) : BuiltFrom ir value result := by
  unfold buildAssertionResult at h
  cases hget : ir.get value.assertionId with
  | none => simp [hget] at h
  | some specification =>
    cases hexpected : expectedAssertionDigest D ir value.assertionId with
    | error message => simp [hget, hexpected, bind, Except.bind] at h
    | ok digest =>
      simp only [hget, hexpected, bind, Except.bind] at h
      split_ifs at h
      cases h
      exact ⟨⟨specification, List.mem_of_find?_eq_some hget, by simpa using List.find?_some hget, rfl⟩,
        rfl, rfl, rfl⟩

theorem forall₂_built {values : List AssertionResultInput} {results : List AssertionResult}
    (h : buildAssertionResults D ir newId values = .ok results) :
    List.Forall₂ (BuiltFrom ir) values results := by
  induction values generalizing results with
  | nil =>
    cases h
    exact .nil
  | cons value values ih =>
    cases hvalue : buildAssertionResult D ir newId value with
    | error message => simp [buildAssertionResults, hvalue, bind, Except.bind] at h
    | ok result =>
      cases hvalues : buildAssertionResults D ir newId values with
      | error message => simp [buildAssertionResults, hvalue, hvalues, bind, Except.bind] at h
      | ok rest =>
        simp only [buildAssertionResults, hvalue, hvalues, bind, Except.bind, pure, Except.pure,
          Except.ok.injEq] at h
        rw [← h]
        exact .cons (builtFrom_of_ok hvalue) (ih hvalues)

/-- The results of an accepted command: built one by one, citing artifacts of the command. -/
structure Evaluated (ir : TestIr) (command : FinalizeDebugEvidence) (results : List AssertionResult) :
    Prop where
  built : List.Forall₂ (BuiltFrom ir) command.assertionResults results
  known : ∀ r ∈ results, ∀ ref ∈ r.evidenceRefs, ∃ x ∈ command.artifacts, x.id = ref

theorem eq_of_assertionId (ir : TestIr) {a b : AssertionSpec} (ha : a ∈ ir.assertions)
    (hb : b ∈ ir.assertions) (hid : a.assertionId = b.assertionId) : a = b :=
  Table.eq_of_key ir.unique ha hb hid

namespace Evaluated

variable {command : FinalizeDebugEvidence} {results : List AssertionResult}

theorem ids (h : Evaluated ir command results) :
    results.map (·.assertionId) = command.assertionResults.map AssertionResultInput.assertionId :=
  Table.map_eq_of_forall₂ (fun _ _ hr => hr.assertionId) h.built

theorem nodup (command : FinalizeDebugEvidence) :
    (command.assertionResults.map AssertionResultInput.assertionId).Nodup :=
  command.resultsSorted.imp ne_of_lt

/-- A HARD assertion and a value for it, read as a HARD result. -/
theorem hard_iff (h : Evaluated ir command results) (P : AssertionStatus → Prop) :
    (∃ r ∈ results, r.strength = .hard ∧ P r.status) ↔
      ∃ a ∈ ir.assertions, a.strength = .hard ∧
        ∃ v ∈ command.assertionResults, v.assertionId = a.assertionId ∧ P v.status := by
  constructor
  · rintro ⟨r, hr, hhard, hP⟩
    obtain ⟨v, hv, hb⟩ := Table.exists_left_of_forall₂ h.built hr
    obtain ⟨a, ha, hid, hstrength⟩ := hb.declared
    exact ⟨a, ha, hstrength.symm.trans hhard, v, hv, hid.symm, hb.status ▸ hP⟩
  · rintro ⟨a, ha, hhard, v, hv, hid, hP⟩
    obtain ⟨r, hr, hb⟩ := Table.exists_right_of_forall₂ h.built hv
    obtain ⟨a', ha', hid', hstrength⟩ := hb.declared
    obtain rfl := eq_of_assertionId ir ha ha' (hid.symm.trans hid'.symm)
    exact ⟨r, hr, hstrength.trans hhard, hb.status.symm ▸ hP⟩

theorem covered_iff (h : Evaluated ir command results) :
    (∀ a ∈ ir.assertions, ∃ r ∈ results, r.assertionId = a.assertionId) ↔
      ∀ a ∈ ir.assertions,
        (command.assertionResults.map AssertionResultInput.assertionId).count a.assertionId = 1 := by
  refine forall₂_congr fun a _ => ?_
  rw [← List.mem_map (f := fun r : AssertionResult => r.assertionId), h.ids]
  constructor
  · exact List.count_eq_one_of_mem (nodup command)
  · intro hcount
    exact List.count_pos_iff.1 (by omega)

theorem cites_iff (h : Evaluated ir command results) : (∀ r ∈ results, r.evidenceRefs ≠ []) ↔
    ∀ v ∈ command.assertionResults, ∃ ref ∈ v.evidenceRefs, ∃ x ∈ command.artifacts, x.id = ref := by
  constructor
  · intro hall v hv
    obtain ⟨r, hr, hb⟩ := Table.exists_right_of_forall₂ h.built hv
    obtain ⟨ref, href⟩ := List.exists_mem_of_ne_nil _ (hall r hr)
    exact ⟨ref, hb.evidenceRefs ▸ href, h.known r hr ref href⟩
  · intro hall r hr
    obtain ⟨v, hv, hb⟩ := Table.exists_left_of_forall₂ h.built hr
    obtain ⟨ref, href, -⟩ := hall v hv
    exact List.ne_nil_of_mem (hb.evidenceRefs ▸ href)

variable {manifestId runId : Uuid} {contract : ExecutionContract}

theorem failed_iff (h : Evaluated ir command results) :
    (assembleManifest D manifestId runId ir contract command results).outcome = .failed ↔
      Failing ir command := by
  rw [Failing, ← h.hard_iff (· = .failed)]
  simp [assembleManifest, oracleOutcome_failed_iff, and_assoc]

theorem passed_iff (h : Evaluated ir command results) :
    (assembleManifest D manifestId runId ir contract command results).outcome = .passed ↔
      Passing ir command := by
  have hopen := h.hard_iff (· ≠ .passed)
  have hsome := h.hard_iff fun _ => True
  simp only [assembleManifest, oracleOutcome_passed_iff, evidenceCompleteness_complete_iff,
    missingAssertions_eq_nil_iff, evidenceIntegrity_verified_iff, h.covered_iff, h.cites_iff]
  constructor
  · rintro ⟨hne, hall, ⟨honce, hcites⟩, hverified⟩
    obtain ⟨r, hr⟩ := List.exists_mem_of_ne_nil _ hne
    simp only [List.mem_filter, decide_eq_true_eq] at hr hall
    obtain ⟨a, ha, hhard, -⟩ := hsome.1 ⟨r, hr.1, hr.2, trivial⟩
    refine ⟨⟨a, ha, hhard⟩, honce, hcites, fun a ha hhard v hv hid => ?_, hverified⟩
    by_contra hstatus
    obtain ⟨r, hr, hstrength, hnot⟩ := hopen.2 ⟨a, ha, hhard, v, hv, hid, hstatus⟩
    exact hnot (hall r ⟨hr, hstrength⟩)
  · intro hp
    obtain ⟨a, ha, hhard⟩ := hp.hard
    obtain ⟨v, hv, hid⟩ := hp.answered ha
    obtain ⟨r, hr, hstrength, -⟩ := hsome.2 ⟨a, ha, hhard, v, hv, hid, trivial⟩
    refine ⟨List.ne_nil_of_mem (List.mem_filter.2 ⟨hr, by simpa using hstrength⟩), fun r hr => ?_,
      ⟨hp.once, hp.cites⟩, hp.verified⟩
    simp only [List.mem_filter, decide_eq_true_eq] at hr
    by_contra hstatus
    obtain ⟨a, ha, hhard, v, hv, hid, hnot⟩ := hopen.1 ⟨r, hr.1, hr.2, hstatus⟩
    exact hnot (hp.passed a ha hhard v hv hid)

/-- The validator of the manifest accepts every manifest that the oracle assembles. -/
theorem violation_eq_none (h : Evaluated ir command results) :
    (assembleManifest D manifestId runId ir contract command results).violation D = none := by
  set m := assembleManifest D manifestId runId ir contract command results with hm
  have hids : m.assertionResults.map (·.assertionId) =
      command.assertionResults.map AssertionResultInput.assertionId := h.ids
  have hartifacts : (m.artifacts.map fun a => uuidText a.id) = command.artifacts.map fun a => uuidText a.id := by
    simp [hm, assembleManifest, Function.comp_def]
  have hdistinct : (m.artifacts.map EvidenceArtifact.id).Nodup := by
    refine List.Nodup.of_map uuidText ?_
    rw [List.map_map]
    exact (hartifacts ▸ command.artifactsSorted.imp ne_of_lt : List.Nodup _)
  have hpassed : m.outcome = .passed →
      m.completeness = .complete ∧ m.integrity = .verified ∧ m.missingAssertionIds = [] := by
    intro hp
    obtain ⟨-, -, hcomplete, hverified⟩ := oracleOutcome_passed_iff.1 hp
    refine ⟨hcomplete, hverified, ?_⟩
    have hnil := (evidenceCompleteness_complete_iff.1 hcomplete).1
    simp [hm, assembleManifest, hnil]
  simp only [EvidenceManifest.violation, firstViolation_eq_none, List.mem_cons, List.not_mem_nil,
    or_false, forall_eq_or_imp, forall_eq, decide_eq_false_iff_not, not_or, not_not]
  refine ⟨⟨hids ▸ command.resultsSorted.imp le_of_lt, hids ▸ nodup command⟩,
    ⟨hartifacts ▸ command.artifactsSorted.imp le_of_lt, hdistinct⟩, ⟨rfl, rfl, rfl⟩, rfl, rfl, rfl, ?_⟩
  rintro ⟨hp, hbad⟩
  obtain ⟨hcomplete, hverified, hnil⟩ := hpassed hp
  rcases hbad with hbad | hbad | hbad
  · exact hbad hcomplete
  · exact hbad hverified
  · exact hbad hnil

end Evaluated

/-- What `build_evidence_manifest` returns: the assembled manifest of the evaluated results. -/
theorem evaluated_of_built {manifestId runId : Uuid} {contract : ExecutionContract}
    {command : FinalizeDebugEvidence} {manifest : EvidenceManifest}
    (h : buildEvidenceManifest D manifestId newId runId ir contract command = .ok manifest) :
    ∃ results, Evaluated ir command results ∧
      manifest = assembleManifest D manifestId runId ir contract command results ∧
      command.executionContractId = contract.id ∧
      command.executionContractDigest = contract.contentDigest := by
  unfold buildEvidenceManifest at h
  split_ifs at h with hid hdigest
  cases hresults : buildAssertionResults D ir newId command.assertionResults with
  | error message => simp [hresults, bind, Except.bind] at h
  | ok results =>
    simp only [hresults, bind, Except.bind] at h
    split_ifs at h with hunknown
    simp only [List.any_eq_true, List.all_eq_true, decide_eq_true_eq, not_exists, not_and, not_forall,
      not_not] at hunknown
    split at h
    · cases h
    · refine ⟨results, ⟨forall₂_built hresults, fun r hr ref href => ?_⟩, (Except.ok.inj h).symm,
        not_not.1 hid, not_not.1 hdigest⟩
      obtain ⟨x, hx, hid⟩ := hunknown r hr ref href
      exact ⟨x, hx, hid⟩



/-! ### The service -/

variable {db db' : DebugDb} {runId manifestId : Uuid} {command : FinalizeDebugEvidence}
  {worker : Option String} {run run' : DebugRun} {contract : ExecutionContract}
  {manifest : EvidenceManifest}

/-- The run is terminated with the manifest, whose command is known by its digest. -/
structure Sealed (D : EvidenceDigests) (db : DebugDb) (run : DebugRun) (contract : ExecutionContract)
    (manifest : EvidenceManifest) (command : FinalizeDebugEvidence) : Prop where
  row : db.getRun run.id = some run
  terminated : run.lifecycle = .terminated
  evidence : run.evidenceManifestId = some manifest.id
  stored : db.getEvidenceManifest manifest.id = some (manifest, D.command command)
  bound : db.getContractForRun run.id = some contract
  references : manifest.executionContractId = command.executionContractId ∧
    manifest.executionContractDigest = command.executionContractDigest

/-- What a finalization of a run that is not terminated does. -/
structure Finalized (D : EvidenceDigests) (newId : String → Uuid) (db : DebugDb) (runId manifestId : Uuid)
    (command : FinalizeDebugEvidence) (worker : Option String) (run : DebugRun)
    (contract : ExecutionContract) (manifest : EvidenceManifest) (db' : DebugDb) : Prop where
  row : db.getRun runId = some run
  running : run.lifecycle = .running
  bound : db.getContractForRun run.id = some contract
  trusted : ∀ w, worker = some w → contract.workerIdentity = w
  inconclusive : (∃ x ∈ db.listForContract contract.id, unsafeReport x.value = true) →
    ∀ r ∈ command.assertionResults, r.status = .inconclusive
  built : buildEvidenceManifest D manifestId newId run.id run.testIr contract command = .ok manifest
  fresh : ∀ m ∈ db.manifests, m.1.id ≠ manifest.id
  rows : db' = { db with
    runs := Table.modify DebugRun.id run.id (·.finish manifest) db.runs
    manifests := db.manifests ++ [(manifest, D.command command)] }

theorem not_any_iff {w : Option String} {s : String} :
    ¬ (w.any fun v => s ≠ v) = true ↔ ∀ v, w = some v → s = v := by
  cases w <;> simp

theorem finalized_of_commits (h : Commits (finalizeEvidence D runId command worker manifestId newId) db
    (run', manifest) db') :
    (run'.lifecycle = .terminated ∧ db.getRun runId = some run' ∧ db' = db) ∨
      ∃ run contract, Finalized D newId db runId manifestId command worker run contract manifest db' ∧
        run' = run.finish manifest := by
  simp only [finalizeEvidence, requireDebugRun, commits_bind, commits_read, commits_demand,
    commits_ite] at h
  obtain ⟨run, _, ⟨_, _, ⟨rfl, rfl⟩, hrun, rfl⟩, h⟩ := h
  rcases h with ⟨hterminated, h⟩ | ⟨-, h⟩
  · simp only [sealedEvidence, commits_bind, commits_read, commits_demand, commits_raiseIf, commits_pure,
      Prod.mk.injEq] at h
    obtain ⟨_, _, ⟨rfl, rfl⟩, _, _, ⟨-, rfl⟩, _, _, ⟨rfl, rfl⟩, _, _, ⟨-, rfl⟩, _, _, ⟨-, rfl⟩, _, _,
      ⟨-, rfl⟩, ⟨rfl, -⟩, rfl⟩ := h
    exact .inl ⟨hterminated, hrun, rfl⟩
  · simp only [requireContract, requireCompletedChain, requireReportedEvidence, commits_bind, commits_read,
      commits_demand, commits_raiseIf] at h
    obtain ⟨_, _, ⟨hrunning, rfl⟩, contract, _, ⟨_, _, ⟨rfl, rfl⟩, hcontract, rfl⟩, _, _, ⟨-, rfl⟩, _, _,
      ⟨hworker, rfl⟩, reports, _, ⟨rfl, rfl⟩, _, _, ⟨-, rfl⟩, latest, _, ⟨-, rfl⟩, _, _,
      ⟨_, _, ⟨-, rfl⟩, _, _, ⟨-, rfl⟩, _, _, ⟨-, rfl⟩, hsafe, rfl⟩, _, _, ⟨-, rfl⟩, _, _, ⟨-, rfl⟩, h⟩ := h
    split at h
    · exact absurd h commits_raise
    · rename_i built hbuilt
      simp only [persistEvidence, finishDebugRun, commits_bind, commits_read, commits_raiseIf,
        commits_update, commits_pure, Prod.mk.injEq, List.any_eq_true, decide_eq_true_eq, not_exists,
        not_and] at h
      obtain ⟨_, _, ⟨_, _, ⟨rfl, rfl⟩, _, _, ⟨hfresh, rfl⟩, _, _, ⟨-, rfl⟩, rfl⟩, _, _,
        ⟨_, _, rfl, rfl, rfl⟩, ⟨rfl, rfl⟩, rfl⟩ := h
      refine .inr ⟨run, contract, ⟨hrun, not_not.1 hrunning, hcontract, not_any_iff.1 hworker,
        fun hunsafe r hr => ?_, hbuilt, hfresh, rfl⟩, rfl⟩
      by_contra hstatus
      refine hsafe ⟨?_, ?_⟩
      · simpa only [List.any_eq_true] using hunsafe
      · simp only [List.any_eq_true, decide_eq_true_eq]
        exact ⟨r, hr, hstatus⟩

/-! ### Terminated runs -/

theorem getRun_id {id : Uuid} (h : db.getRun id = some run) : run.id = id := by
  simpa using List.find?_some h

/-- A row of another key is found as before. -/
theorem getRun_modify_of_ne {id k : Uuid} (hne : id ≠ k) :
    (Table.modify DebugRun.id k (·.finish manifest) db.runs).find? (fun r => r.id = id) = db.getRun id := by
  rw [DebugDb.getRun]
  induction db.runs with
  | nil => rfl
  | cons r rows ih =>
    simp only [Table.modify, List.map_cons, List.find?_cons] at ih ⊢
    by_cases hr : r.id = k
    · have hother : r.id ≠ id := fun h => hne (h.symm.trans hr)
      have hfinished : (r.finish manifest).id ≠ id := hother
      simp only [if_pos hr, hfinished, hother, decide_false]
      exact ih
    · by_cases hid : r.id = id
      · simp [hid, hne]
      · simp [hr, hid, ih]

theorem Finalized.sealed (h : Finalized D newId db runId manifestId command worker run contract manifest db') :
    Sealed D db' (run.finish manifest) contract manifest command := by
  obtain rfl := getRun_id h.row
  obtain ⟨results, -, hmanifest, hid, hdigest⟩ := evaluated_of_built h.built
  have hnone : db.manifests.find? (fun m => m.1.id = manifest.id) = none :=
    List.find?_eq_none.2 fun m hm => by simpa using h.fresh m hm
  refine ⟨?_, rfl, rfl, ?_, ?_, ?_⟩
  · rw [h.rows]
    have hmodify : (Table.modify DebugRun.id run.id (·.finish manifest) db.runs).find?
        (fun r => r.id = run.id) = (db.getRun run.id).map (·.finish manifest) :=
      Table.find?_modify fun _ => rfl
    exact hmodify.trans (by rw [h.row]; rfl)
  · rw [h.rows]
    simp [DebugDb.getEvidenceManifest, List.find?_append, hnone]
  · rw [h.rows]
    exact h.bound
  · rw [hmanifest, hid, hdigest]
    exact ⟨rfl, rfl⟩

namespace Sealed

theorem step {digests : ReportDigests} (h : Sealed D db run contract manifest command)
    (hstep : EvidenceStep D digests db db') : Sealed D db' run contract manifest command := by
  cases hstep with
  | finalize runId' command' worker' manifestId' newId' =>
    rcases after_eq (finalizeEvidence D runId' command' worker' manifestId' newId') db with
      hsame | ⟨⟨out, manifest'⟩, hcommits⟩
    · rwa [hsame]
    · rcases finalized_of_commits hcommits with ⟨-, -, hsame⟩ | ⟨other, contract', hf, -⟩
      · rwa [hsame]
      · have hne : run.id ≠ other.id := by
          intro hid
          have hrow := h.row
          rw [hid, getRun_id hf.row, hf.row] at hrow
          obtain rfl := Option.some.inj hrow
          exact absurd (hf.running.symm.trans h.terminated) (by decide)
        rw [hf.rows]
        refine ⟨(getRun_modify_of_ne hne).trans h.row, h.terminated, h.evidence, ?_, h.bound, h.references⟩
        have hstored := h.stored
        simp only [DebugDb.getEvidenceManifest] at hstored ⊢
        rw [List.find?_append, hstored]
        rfl
  | report runId' worker' report now =>
    rcases after_eq (submitBrowserReport digests runId' worker' report now) db with hsame | ⟨out, hcommits⟩
    · rwa [hsame]
    · rcases appended_of_commits hcommits with ⟨hsame, -⟩ | hr
      · rwa [hsame]
      · rw [hr.rows]
        exact ⟨h.row, h.terminated, h.evidence, h.stored, h.bound, h.references⟩
  | bind contract' hnew =>
    refine ⟨h.row, h.terminated, h.evidence, h.stored, ?_, h.references⟩
    have hbound := h.bound
    simp only [DebugDb.getContractForRun] at hbound ⊢
    rw [List.find?_append, hbound]
    rfl
  | runs runs hkept =>
    exact ⟨hkept run.id run h.row h.terminated, h.terminated, h.evidence, h.stored, h.bound, h.references⟩

theorem kept {digests : ReportDigests} (h : Sealed D db run contract manifest command)
    (hrun : EvidenceRun D digests db db') : Sealed D db' run contract manifest command :=
  run_keeps (I := fun d => Sealed D d run contract manifest command) (fun _ _ hstep hs => hs.step hstep)
    hrun h

/-- The same command is answered with the stored manifest. -/
theorem replay (h : Sealed D db run contract manifest command)
    (hworker : ∀ w, worker = some w → contract.workerIdentity = w) :
    Commits (finalizeEvidence D run.id command worker manifestId newId) db (run, manifest) db := by
  simp only [finalizeEvidence, sealedEvidence, requireDebugRun, commits_bind, commits_read,
    commits_demand, commits_ite, commits_raiseIf, commits_pure]
  refine ⟨run, db, ⟨_, _, ⟨rfl, rfl⟩, h.row, rfl⟩, .inl ⟨h.terminated, _, _, ⟨rfl, rfl⟩,
    (manifest, D.command command), _, ⟨?_, rfl⟩, _, _, ⟨rfl, rfl⟩, contract, _, ⟨h.bound, rfl⟩, (), _,
    ⟨not_any_iff.2 hworker, rfl⟩, (), _, ⟨?_, rfl⟩, rfl, rfl⟩⟩
  · rw [h.evidence]
    exact h.stored
  · simp [h.references.1, h.references.2]

/-- A command with another digest is refused. -/
theorem refused (h : Sealed D db run contract manifest command) {command' : FinalizeDebugEvidence}
    (hdigest : D.command command' ≠ D.command command) {out : DebugRun × EvidenceManifest} :
    ¬ Commits (finalizeEvidence D run.id command' worker manifestId newId) db out db' := by
  intro hcommits
  simp only [finalizeEvidence, sealedEvidence, requireDebugRun, commits_bind, commits_read,
    commits_demand, commits_ite, commits_raiseIf, commits_pure] at hcommits
  obtain ⟨run₂, _, ⟨_, _, ⟨rfl, rfl⟩, hrow, rfl⟩, hcommits⟩ := hcommits
  obtain rfl := Option.some.inj (h.row.symm.trans hrow)
  rcases hcommits with ⟨-, _, _, ⟨rfl, rfl⟩, stored, _, ⟨hstored, rfl⟩, _, _, ⟨rfl, rfl⟩, _, _, ⟨-, rfl⟩,
    _, _, ⟨-, rfl⟩, _, _, ⟨hsame, rfl⟩, -⟩ | ⟨hopen, -⟩
  · rw [h.evidence] at hstored
    obtain rfl := Option.some.inj (h.stored.symm.trans hstored)
    simp only [not_or, not_not] at hsame
    exact hdigest hsame.2.2.symm
  · exact hopen h.terminated

end Sealed

/-- The verdict of an accepted finalization is what its evidence says, and it is final. -/
theorem verdict_sound_and_complete {digests : ReportDigests} (hrun : db.getRun runId = some run)
    (hrunning : run.lifecycle = .running) (hcontract : db.getContractForRun run.id = some contract)
    (h : Commits (finalizeEvidence D runId command worker manifestId newId) db (run', manifest) db') :
    run'.lifecycle = .terminated ∧
    (run'.outcome = some .passed ↔ Passing run.testIr command) ∧
    (run'.outcome = some .failed ↔ Failing run.testIr command) ∧
    ((∃ x ∈ db.listForContract contract.id, unsafeReport x.value = true) →
      run'.outcome = some .inconclusive) ∧
    manifest.violation D = none ∧
    ∀ later, EvidenceRun D digests db' later → ∀ manifestId' newId',
      (∀ worker', (∀ w, worker' = some w → contract.workerIdentity = w) →
        Commits (finalizeEvidence D runId command worker' manifestId' newId') later (run', manifest) later) ∧
      ∀ command', command' ≠ command → (D.command command' = D.command command → command' = command) →
        ∀ worker', after (finalizeEvidence D runId command' worker' manifestId' newId') later = later ∧
          ∀ out later', ¬ Commits (finalizeEvidence D runId command' worker' manifestId' newId') later out
            later' := by
  rcases finalized_of_commits h with ⟨hterminated, hrow, -⟩ | ⟨run₁, contract₁, hf, rfl⟩
  · obtain rfl := Option.some.inj (hrun.symm.trans hrow)
    rw [hrunning] at hterminated
    cases hterminated
  obtain rfl := Option.some.inj (hrun.symm.trans hf.row)
  obtain rfl := Option.some.inj (hcontract.symm.trans hf.bound)
  obtain rfl := getRun_id hrun
  obtain ⟨results, he, hmanifest, -, -⟩ := evaluated_of_built hf.built
  have hpassed : manifest.outcome = .passed ↔ Passing run.testIr command := hmanifest ▸ he.passed_iff
  have hfailed : manifest.outcome = .failed ↔ Failing run.testIr command := hmanifest ▸ he.failed_iff
  refine ⟨rfl, by simpa [DebugRun.finish] using hpassed, by simpa [DebugRun.finish] using hfailed,
    fun hunsafe => ?_, hmanifest ▸ he.violation_eq_none, fun later hlater manifestId' newId' => ?_⟩
  · have hopen := hf.inconclusive hunsafe
    have hnotFailed : ¬ Failing run.testIr command := by
      rintro ⟨a, -, -, r, hr, -, hstatus⟩
      rw [hopen r hr] at hstatus
      cases hstatus
    have hnotPassed : ¬ Passing run.testIr command := by
      intro hp
      obtain ⟨a, ha, hhard⟩ := hp.hard
      obtain ⟨r, hr, hid⟩ := hp.answered ha
      have hstatus := hp.passed a ha hhard r hr hid
      rw [hopen r hr] at hstatus
      cases hstatus
    show some manifest.outcome = _
    cases houtcome : manifest.outcome with
    | passed => exact absurd (hpassed.1 houtcome) hnotPassed
    | failed => exact absurd (hfailed.1 houtcome) hnotFailed
    | inconclusive => rfl
  · have hsealed := hf.sealed.kept hlater
    refine ⟨fun worker' hworker => hsealed.replay hworker, fun command' hne hcollision worker' => ?_⟩
    have hdigest : D.command command' ≠ D.command command := fun hsame => hne (hcollision hsame)
    refine ⟨?_, fun out later' => hsealed.refused hdigest⟩
    rcases after_eq (finalizeEvidence D run.id command' worker' manifestId' newId') later with hsame | ⟨out, hc⟩
    · exact hsame
    · exact absurd hc (hsealed.refused hdigest)

/-! A run with one HARD assertion, its screenshot and its chain of four reports. -/

def exampleEvidenceDigests : EvidenceDigests :=
  ⟨fun _ => "result", fun _ => "artifact", fun c => BitVec.ofNat 256 c.finalizedAt, fun _ _ => 11,
    fun _ => 12, fun _ _ => 13, fun _ => 14, fun _ => 15⟩

def exampleReport (sequence : ℕ) (payload : BrowserReportPayload) : BrowserRuntimeReport :=
  ⟨2, 3, 4, 1, buildBrowserRuntimeReport exampleDigests 5 0 (20 + sequence) sequence payload.kind payload 8 2
    none none, 10⟩

def exampleCompleted : DebugDb :=
  { exampleRunning with
    reports := [exampleRow,
      exampleReport 2 (.artifactCaptured "page" (uuidText 30) "artifact" .screenshot "" 1 .verified),
      exampleReport 3 (.assertionEvaluated "total is 42" "assertion:total" "result" .passed ""),
      exampleReport 4 (.executionCompleted "browser execution completed" 1 1)] }

def exampleCommand : FinalizeDebugEvidence :=
  { executionContractId := 5, executionContractDigest := 0
    assertionResults := [⟨"assertion:total", .passed, 11, "total is 42", "equals@1", [30], 8, 1⟩]
    artifacts := [⟨⟨30, .screenshot, 0, 1, "image/png", 0, .verified, true, 8⟩, "evidence://30"⟩]
    eventChainHeadDigest := 2, eventCount := 4, finalizedAt := 12
    resultsSorted := by simp, artifactsSorted := by simp }

def exampleContract : ExecutionContract := ⟨5, 1, 0, "worker-1", ["actor-1"], 1, 100⟩

def exampleManifest : EvidenceManifest :=
  assembleManifest exampleEvidenceDigests 40 1 exampleIr exampleContract exampleCommand
    [⟨⟨41, "assertion:total", "total", .hard, .passed, 11, "total is 42", "equals@1", [30], 8, 1⟩, 12⟩]

theorem exampleCommand_commits : Commits (finalizeEvidence exampleEvidenceDigests 1 exampleCommand
    (some "worker-1") 40 fun _ => 41) exampleCompleted (exampleRun.finish exampleManifest, exampleManifest)
    { exampleCompleted with
      runs := [exampleRun.finish exampleManifest], manifests := [(exampleManifest, 12)] } := by
  unfold Commits
  decide

theorem verdict_sound_and_complete_example :
    (exampleRun.finish exampleManifest).outcome = some .passed ∧ Passing exampleIr exampleCommand := by
  have h := @verdict_sound_and_complete _ _ _ _ _ _ _ _ exampleRun _ exampleContract _ exampleDigests
    rfl rfl rfl exampleCommand_commits
  have houtcome : (exampleRun.finish exampleManifest).outcome = some .passed := by decide
  exact ⟨houtcome, h.2.1.1 houtcome⟩

end Atlas.Proofs
