import AtlasTestOps.Proofs.NodeInvariant

/-! What a FixtureRun that ended CLEANED or NOT_REQUIRED has left behind. The counts on
which the end of a run rests look at resources and at OUTCOME_UNCERTAIN nodes only, so a
node that is still RUNNING or VERIFYING can outlive the report. -/

namespace Atlas.Proofs

open Atlas Atlas.Identity Atlas.Fixture Atlas.Store Atlas.Service Txn

/-- The run has ended and reports a clean end. -/
def ReportedClean (r : FixtureRun) : Prop :=
  r.status ∉ liveRun ∧ r.cleanupState ∈ [.cleaned, .notRequired]

instance : DecidablePred ReportedClean := fun _ => inferInstanceAs (Decidable (_ ∧ _))

/-- The states of a node with nothing under way and no outcome unknown. -/
def Quiet (n : DataNodeRun) : Prop := n.status ∈ [.pending, .ready, .succeeded, .failed]

structure RunSettled (db : FixtureDb) (runId : Uuid) : Prop where
  resources : ∀ x ∈ db.resources, x.fixtureRunId = runId → x.ownership = .created →
    x.status = .cleaned
  nodes : ∀ n ∈ db.nodes, n.fixtureRunId = runId → Quiet n ∧ n.reconcileState ≠ .running

/-- Every clean report is true. -/
def TellsTruth (db : FixtureDb) : Prop := ∀ r ∈ db.runs, ReportedClean r → RunSettled db r.id

/-- A run ends clean only when none of its nodes is RUNNING or VERIFYING, and no node of a
run that ended clean is claimed under a lease that is still ACTIVE. -/
def InOrder (e : FixtureEvent) (s : FixtureSystem) : Prop :=
  match e with
  | .finalizeRelease runId _ => s.db.cleanupCounts runId = ⟨0, 0⟩ →
    ∀ n ∈ s.db.nodes, n.fixtureRunId = runId → n.status ∉ [.running, .verifying]
  | .claimNode runId nodeId _ => ∀ r ∈ s.db.runs, r.id = runId → ReportedClean r →
    ∀ n, s.db.getNodeRecord runId nodeId = some n → ¬ BoundActive s.db runId n
  | _ => True

/-! ### Runs that have ended stay as they are -/

structure RunsKept (db db' : FixtureDb) : Prop where
  ids : db'.runs.map FixtureRun.id = db.runs.map FixtureRun.id
  ended : ∀ r ∈ db.runs, r.status ∉ liveRun → r ∈ db'.runs
  back : ∀ r ∈ db'.runs, r.status ∉ liveRun → r ∈ db.runs

theorem RunsKept.same {db db' : FixtureDb} (h : db'.runs = db.runs) : RunsKept db db' :=
  ⟨by rw [h], fun r hr _ => h ▸ hr, fun r hr _ => h ▸ hr⟩

theorem RunsKept.trans {a b c : FixtureDb} (h₁ : RunsKept a b) (h₂ : RunsKept b c) :
    RunsKept a c :=
  ⟨h₂.ids.trans h₁.ids, fun r hr hend => h₂.ended r (h₁.ended r hr hend) hend,
    fun r hr hend => h₁.back r (h₂.back r hr hend) hend⟩

instance : Std.Refl RunsKept := ⟨fun _ => RunsKept.same rfl⟩

instance : IsTrans FixtureDb RunsKept := ⟨fun _ _ _ => RunsKept.trans⟩

theorem runsKept_update {p : FixtureRun → Bool} {f : FixtureRun → FixtureRun}
    (h : ∀ r, p r = true → RunMove r (f r)) : Within RunsKept (runTable.update p f) := by
  apply runTable.within_guarded
  intro db _
  refine ⟨?_, ?_, ?_⟩
  · refine (List.map_map).trans (List.map_congr_left fun r _ => ?_)
    by_cases hp : p r = true
    · simp [hp, (h r hp).id]
    · simp [hp]
  · intro r hr hend
    refine List.mem_map.2 ⟨r, hr, if_neg fun hp => hend (h r hp).live.1⟩
  · intro r hr hend
    obtain ⟨q, hq, rfl⟩ := List.mem_map.1 hr
    by_cases hp : p q = true
    · rw [if_pos hp] at hend
      exact absurd (h q hp).live.2 hend
    · rwa [if_neg hp]

theorem outsideNodes_runsKept : OutsideNodes RunsKept where
  runs _ _ h := runsKept_update h
  resources p f := resourceTable.within_guarded p f fun _ _ => RunsKept.same rfl
  cleanupAttempts _ := Within.update fun _ => RunsKept.same rfl
  leases _ := Within.update fun _ => RunsKept.same rfl
  newId := by
    intro db id db' h
    obtain ⟨rfl, rfl⟩ := commits_newFixtureId.1 h
    exact RunsKept.same rfl

theorem onNodes_runsKept : OnNodes RunsKept where
  nodes p f := nodeTable.within_guarded p f fun _ _ => RunsKept.same rfl
  attempts _ := Within.update fun _ => RunsKept.same rfl
  reconcileAttempts _ := Within.update fun _ => RunsKept.same rfl

theorem runsKept_recordResource (resource : ResourceRecord) (parentIds : List Uuid) :
    Within RunsKept (recordResource resource parentIds) :=
  Within.bind (Within.read _) fun _ => Within.bind (Within.raiseIf _ _) fun _ =>
    Within.update fun _ => RunsKept.same rfl

/-! ### Resources keep their run, and CLEANED ones stay CLEANED -/

def ResourceKept (x x' : ResourceRecord) : Prop :=
  x'.fixtureRunId = x.fixtureRunId ∧ x'.ownership = x.ownership ∧ (x.status = .cleaned → x' = x)

/-- Every resource was in the ledger before. -/
def ResourcesFrom (db db' : FixtureDb) : Prop :=
  ∀ x' ∈ db'.resources, ∃ x ∈ db.resources, ResourceKept x x'

theorem ResourcesFrom.same {db db' : FixtureDb} (h : db'.resources = db.resources) :
    ResourcesFrom db db' :=
  fun x' hx => ⟨x', h ▸ hx, rfl, rfl, fun _ => rfl⟩

theorem ResourcesFrom.trans {a b c : FixtureDb} (h₁ : ResourcesFrom a b)
    (h₂ : ResourcesFrom b c) : ResourcesFrom a c := by
  intro z hz
  obtain ⟨y, hy, hrun, hown, hclean⟩ := h₂ z hz
  obtain ⟨x, hx, hrun', hown', hclean'⟩ := h₁ y hy
  refine ⟨x, hx, hrun.trans hrun', hown.trans hown', fun hcleaned => ?_⟩
  obtain rfl := hclean' hcleaned
  exact hclean hcleaned

instance : Std.Refl ResourcesFrom := ⟨fun _ => ResourcesFrom.same rfl⟩

instance : IsTrans FixtureDb ResourcesFrom := ⟨fun _ _ _ => ResourcesFrom.trans⟩

/-- The trigger on resources keeps the run and the ownership, and no CLEANED row passes it. -/
theorem resourceKept_of_guard {x x' : ResourceRecord}
    (h : guardResourceRecordUpdate x x' = none) : ResourceKept x x' := by
  unfold guardResourceRecordUpdate at h
  simp only [firstViolation_cons, decide_eq_false_iff_not, not_or, ne_eq, not_not] at h
  obtain ⟨⟨hidentity, hlocator, -⟩, hcleaned, -⟩ := h
  unfold ResourceRecord.identity at hidentity
  unfold ResourceRecord.locator at hlocator
  simp only [Prod.mk.injEq] at hidentity hlocator
  exact ⟨hidentity.2.1, hlocator.2.1, fun hx => absurd hx hcleaned⟩

theorem resourcesFrom_update (p : ResourceRecord → Bool) (f : ResourceRecord → ResourceRecord) :
    Within ResourcesFrom (resourceTable.update p f) := by
  apply resourceTable.within_guarded
  intro db hadmits x' hx'
  obtain ⟨x, hx, rfl⟩ := List.mem_map.1 hx'
  refine ⟨x, hx, ?_⟩
  split
  · next hp => exact resourceKept_of_guard (Option.map_eq_none_iff.1 (hadmits x hx hp))
  · exact ⟨rfl, rfl, fun _ => rfl⟩

theorem outsideNodes_resourcesFrom : OutsideNodes ResourcesFrom where
  runs p f _ := runTable.within_guarded p f fun _ _ => ResourcesFrom.same rfl
  resources := resourcesFrom_update
  cleanupAttempts _ := Within.update fun _ => ResourcesFrom.same rfl
  leases _ := Within.update fun _ => ResourcesFrom.same rfl
  newId := by
    intro db id db' h
    obtain ⟨rfl, rfl⟩ := commits_newFixtureId.1 h
    exact ResourcesFrom.same rfl

theorem onNodes_resourcesFrom : OnNodes ResourcesFrom where
  nodes p f := nodeTable.within_guarded p f fun _ _ => ResourcesFrom.same rfl
  attempts _ := Within.update fun _ => ResourcesFrom.same rfl
  reconcileAttempts _ := Within.update fun _ => ResourcesFrom.same rfl

/-! ### The end of a run -/

theorem commits_getRunForUpdate_bind {α : Type} {db db' : FixtureDb} {runId : Uuid}
    {g : FixtureRun → FixtureOp α} {a : α} :
    Commits (getRunForUpdate runId >>= g) db a db' ↔
      ∃ run, db.getRunRecord runId = some run ∧ Commits (g run) db a db' := by
  unfold getRunForUpdate
  rw [bind_assoc, commits_read_bind, commits_demand_bind]

theorem runAt_id {run row : FixtureRun} {statuses : List FixtureRunStatus}
    (h : runAt run statuses row = true) : row.id = run.id := by
  unfold runAt at h
  simp only [Bool.and_eq_true, decide_eq_true_eq] at h
  exact h.1.1

/-- An update that names the run rewrites its row or none. -/
theorem commits_updateRun {db db' : FixtureDb} {r : FixtureRun} {p : FixtureRun → Bool}
    {f : FixtureRun → FixtureRun} {out : List FixtureRun}
    (h : Commits (runTable.update p f) db out db') (hp : ∀ q, p q = true → q.id = r.id)
    (hids : (db.runs.map FixtureRun.id).Nodup) (hr : r ∈ db.runs) :
    (p r = true ∧ out = [f r] ∧
      db' = { db with runs := Table.modify FixtureRun.id r.id f db.runs }) ∨
    (p r = false ∧ out = [] ∧ db' = db) := by
  have hkeyed := (runTable.commits_keyed p f hids hr hp).1 h
  rcases hkeyed with ⟨hpr, -, hout, hdb⟩ | ⟨hpr, hout, hdb⟩
  · exact Or.inl ⟨hpr, hout, hdb⟩
  · exact Or.inr ⟨hpr, hout, hdb⟩

/-- What the last step of a run does: it waits on, or ends it with the counts at hand. -/
theorem finalizeReleaseRun_cases {db db' : FixtureDb} {runId : Uuid} {now : Instant}
    {out : FixtureRun} (hids : (db.runs.map FixtureRun.id).Nodup)
    (h : Commits (finalizeReleaseRun runId now) db out db') :
    RunsKept db db' ∨ ∃ run ∈ db.runs, run.id = runId ∧ run.status = .cleaning ∧
      (db.cleanupCounts runId).retryable = 0 ∧ ∃ intent, run.terminalIntent = some intent ∧
        db'.runs = Table.modify FixtureRun.id runId
          (finishCleanup intent (db.cleanupCounts runId).leaked run now) db.runs := by
  unfold finalizeReleaseRun at h
  rw [commits_getRunForUpdate_bind] at h
  obtain ⟨run, hfind, h⟩ := h
  have hrun := List.mem_of_find?_eq_some hfind
  have hid : run.id = runId := getRunRecord_id hfind
  subst hid
  rw [commits_ite] at h
  rcases h with ⟨-, h⟩ | ⟨-, h⟩
  · obtain ⟨-, rfl⟩ := commits_pure.1 h
    exact Or.inl (RunsKept.same rfl)
  · rw [commits_bind] at h
    obtain ⟨final, _, h, hdemand⟩ := h
    obtain ⟨rfl, rfl⟩ := commits_demand.1 hdemand
    unfold finalizeRelease at h
    rw [commits_read_bind, commits_ite] at h
    generalize db.cleanupCounts run.id = counts at h ⊢
    rcases h with ⟨-, h⟩ | ⟨hzero, h⟩
    · left
      rw [commits_bind] at h
      obtain ⟨rows, _, hrows, h⟩ := h
      obtain ⟨-, rfl⟩ := commits_pure.1 h
      refine runsKept_update (fun r hr => ?_) _ _ _ hrows
      exact .waiting now (List.mem_singleton.1 (runAt_status hr))
    · right
      rw [commits_demand_bind] at h
      obtain ⟨intent, hintent, h⟩ := h
      rw [commits_bind] at h
      obtain ⟨_, mid, hrelease, h⟩ := h
      have hmid : mid.runs = db.runs := by
        simp only [releaseBoundLeases, commits_read_bind, onLeases, commits_onPart] at hrelease
        obtain ⟨part, -, rfl⟩ := hrelease
        rfl
      rw [commits_bind] at h
      obtain ⟨rows, _, hrows, h⟩ := h
      obtain ⟨hhead, rfl⟩ := commits_pure.1 h
      have hkeyed := commits_updateRun hrows (fun _ => runAt_id) (hmid ▸ hids) (hmid ▸ hrun)
      rcases hkeyed with ⟨hp, -, rfl⟩ | ⟨-, rfl, -⟩
      · refine ⟨run, hrun, rfl, List.mem_singleton.1 (runAt_status hp), by omega, intent, hintent, ?_⟩
        exact congrArg _ hmid
      · simp at hhead

/-- A run that may end clean by its counts has cleaned what it created, and its uncertain
nodes are settled. -/
theorem settled_of_counts {db : FixtureDb} {runId : Uuid} (hfits : ∀ n ∈ db.nodes, RowFits n)
    (hcounts : db.cleanupCounts runId = ⟨0, 0⟩)
    (horder : ∀ n ∈ db.nodes, n.fixtureRunId = runId → n.status ∉ [.running, .verifying]) :
    RunSettled db runId := by
  unfold FixtureDb.cleanupCounts FixtureDb.resourcesOf FixtureDb.nodesOf at hcounts
  simp only [CleanupCounts.mk.injEq, Nat.add_eq_zero_iff, List.countP_eq_zero, List.mem_filter,
    decide_eq_true_eq, and_imp] at hcounts
  obtain ⟨⟨hretryable, huncertain⟩, hleaked, hexhausted⟩ := hcounts
  refine ⟨fun x hx hrun hown => ?_, fun n hn hrun => ?_⟩
  · have hlive := hretryable x hx hrun hown
    have hlost := hleaked x hx hrun hown
    unfold resourceRetryable at hlive
    cases hstatus : x.status <;> simp_all
  · have hbusy := horder n hn hrun
    have hpending := huncertain n hn hrun
    have hspent := hexhausted n hn hrun
    have hrow := hfits n hn
    unfold RowFits at hrow
    unfold Quiet
    cases hstatus : n.status <;> rw [hstatus] at hrow hbusy <;>
      cases hreconcile : n.reconcileState <;> simp_all [reconcileStatesOf]

/-! ### The step lemma -/

structure ReportInv (db : FixtureDb) : Prop where
  nodes : NodeInv (nodeTables db) db.nextId
  runIds : (db.runs.map FixtureRun.id).Nodup
  runsBelow : ∀ r ∈ db.runs, r.id < db.nextId
  truth : TellsTruth db

variable {db db' : FixtureDb} {e : FixtureEvent} {worker : FixtureWorker}

/-- Where a row of the nodes comes from: a quiet node of a run that is not started here
stays quiet. -/
theorem quiet_step (hi : NodeInv (nodeTables db) db.nextId) (hmove : NodeMove db db' e)
    {runId : Uuid} (hbelow : runId < db.nextId)
    (hstart : ∀ nodeId now, e = .claimNode runId nodeId now →
      ∀ n, db.getNodeRecord runId nodeId = some n → ¬ BoundActive db runId n)
    (hq : ∀ n ∈ db.nodes, n.fixtureRunId = runId → Quiet n) :
    ∀ n ∈ db'.nodes, n.fixtureRunId = runId → Quiet n := by
  have hids : (db.nodes.map DataNodeRun.id).Nodup := hi.nodeIds
  -- a node of the run that is moved was quiet before
  have hmodify : ∀ {n : DataNodeRun} {f : DataNodeRun → DataNodeRun}, n ∈ db.nodes →
      (f n).fixtureRunId = n.fixtureRunId → (Quiet n → n.fixtureRunId = runId → Quiet (f n)) →
      db'.nodes = Table.modify DataNodeRun.id n.id f db.nodes →
      ∀ m ∈ db'.nodes, m.fixtureRunId = runId → Quiet m := by
    intro n f hn hrun hquiet hnodes m hm hmrun
    rw [hnodes, Table.mem_modify_keyed hids hn] at hm
    rcases hm with rfl | ⟨hm, -⟩
    · have hnrun : n.fixtureRunId = runId := hrun.symm.trans hmrun
      exact hquiet (hq n hn hnrun) hnrun
    · exact hq m hm hmrun
  have hloud : ∀ {n : DataNodeRun}, n.status ∈ [.running, .verifying, .outcomeUncertain] →
      ¬ Quiet n := by
    intro n hstatus hquiet
    unfold Quiet at hquiet
    cases h : n.status <;> simp_all
  cases hmove with
  | kept htables =>
    have hnodes : db'.nodes = db.nodes := congrArg NodeTables.nodes htables
    rw [hnodes]
    exact hq
  | created new hnew hids htables hnext =>
    have hnodes : db'.nodes = db.nodes ++ new := congrArg NodeTables.nodes htables
    intro n hn hrun
    rw [hnodes] at hn
    rcases List.mem_append.1 hn with hn | hn
    · exact hq n hn hrun
    · obtain ⟨id, planned, rfl⟩ := hnew n hn
      exact absurd hrun hbelow.ne'
  | started n inputs hfind hstatus hbound htables hnext =>
    refine hmodify (mem_of_getNodeRecord hfind) rfl (fun _ hrun => ?_)
      (congrArg NodeTables.nodes htables)
    obtain rfl := (getNodeRecord_run hfind).symm.trans hrun
    exact absurd hbound (hstart _ _ rfl n hfind)
  | abandoned n a hfind hstatus hattempt htables =>
    exact hmodify (mem_of_getNodeRecord hfind) rfl
      (fun hquiet => absurd hquiet (hloud (by simp [hstatus]))) (congrArg NodeTables.nodes htables)
  | failedIdle n hfind hstatus htables =>
    exact hmodify (mem_of_getNodeRecord hfind) rfl (fun _ _ => by simp [Quiet, failIdleNode])
      (congrArg NodeTables.nodes htables)
  | verifying n a hfind hstatus hattempt htables =>
    exact hmodify (mem_of_getNodeRecord hfind) rfl
      (fun hquiet => absurd hquiet (hloud (by simp [hstatus]))) (congrArg NodeTables.nodes htables)
  | failed n a hfind hstatus hattempt htables =>
    refine hmodify (mem_of_getNodeRecord hfind) rfl (fun hquiet => absurd hquiet (hloud ?_))
      (congrArg NodeTables.nodes htables)
    simp only [List.mem_cons, List.not_mem_nil, or_false] at hstatus
    rcases hstatus with h | h <;> simp [h]
  | succeeded n a hfind hstatus hattempt htables =>
    exact hmodify (mem_of_getNodeRecord hfind) rfl
      (fun hquiet => absurd hquiet (hloud (by simp [hstatus]))) (congrArg NodeTables.nodes htables)
  | lookupStarted n hfind hdue htables hnext =>
    unfold reconcileDue at hdue
    simp only [Bool.and_eq_true, decide_eq_true_eq] at hdue
    exact hmodify (mem_of_getNodeRecord hfind) rfl
      (fun hquiet => absurd hquiet (hloud (by simp [hdue.1.1]))) (congrArg NodeTables.nodes htables)
  | absent n retryCreate hfind hstatus hreconcile hretry htables =>
    exact hmodify (mem_of_getNodeRecord hfind) rfl
      (fun hquiet => absurd hquiet (hloud (by simp [hstatus]))) (congrArg NodeTables.nodes htables)
  | inconclusive n reported retryAt hfind hstatus hreconcile htables =>
    exact hmodify (mem_of_getNodeRecord hfind) rfl
      (fun hquiet => absurd hquiet (hloud (by simp [hstatus]))) (congrArg NodeTables.nodes htables)
  | found n hfind hstatus hreconcile htables =>
    exact hmodify (mem_of_getNodeRecord hfind) rfl
      (fun hquiet => absurd hquiet (hloud (by simp [hstatus]))) (congrArg NodeTables.nodes htables)
  | failedFound n hfind hstatus hreconcile htables =>
    exact hmodify (mem_of_getNodeRecord hfind) rfl
      (fun hquiet => absurd hquiet (hloud (by simp [hstatus]))) (congrArg NodeTables.nodes htables)
  | succeededFound n hfind hstatus htables =>
    exact hmodify (mem_of_getNodeRecord hfind) rfl
      (fun hquiet => absurd hquiet (hloud (by simp [hstatus]))) (congrArg NodeTables.nodes htables)
  | @recovered now _ maxAttempts stale hstale htables =>
    have hnodes : db'.nodes = db.nodes.map (recoverNode stale maxAttempts now) :=
      congrArg NodeTables.nodes htables
    intro m hm hrun
    rw [hnodes] at hm
    obtain ⟨n, hn, rfl⟩ := List.mem_map.1 hm
    unfold recoverNode at hrun ⊢
    split at hrun
    · next h =>
      have hquiet := hq n hn hrun
      exact absurd hquiet (hloud (by simp [h.2.1]))
    · next h =>
      rw [if_neg h]
      exact hq n hn hrun

/-! What one event does to a run that has ended, and to its resources. -/

theorem ended_step (h : Commits (e.transaction worker) db () db')
    (hids : (db.runs.map FixtureRun.id).Nodup) {r : FixtureRun} (hr : r ∈ db.runs)
    (hend : r.status ∉ liveRun) : r ∈ db'.runs := by
  have hother : (∀ start now, e ≠ .create start now) → (∀ runId now, e ≠ .finalizeRelease runId now) →
      r ∈ db'.runs := fun hcreate hfinal =>
    (within_event worker outsideNodes_runsKept onNodes_runsKept
      (fun _ => runsKept_recordResource) (fun start now heq => absurd heq (hcreate start now))
      (fun runId now heq => absurd heq (hfinal runId now)) _ _ _ h).ended r hr hend
  cases e with
  | create start now =>
    obtain ⟨new, run, bindings, -, -, -, -, -, -, rfl⟩ := createRun_of_commits h
    exact List.mem_append_left _ hr
  | finalizeRelease runId now =>
    obtain ⟨out, h⟩ := commits_discard.1 h
    rcases finalizeReleaseRun_cases hids h with hkept | ⟨run, hrun, rfl, hstatus, -, intent, -, hruns⟩
    · exact hkept.ended r hr hend
    · rw [hruns, Table.mem_modify_keyed hids hrun]
      refine Or.inr ⟨hr, fun heq => ?_⟩
      obtain rfl := Table.eq_of_key hids hr hrun heq
      exact hend (by rw [hstatus]; decide)
  | _ => exact hother nofun nofun

/-- A resource after an event is one from before, or new in a run whose node was busy. -/
theorem resources_step (hi : NodeInv (nodeTables db) db.nextId)
    (h : Commits (e.transaction worker) db () db') :
    ∀ x' ∈ db'.resources, (∃ x ∈ db.resources, ResourceKept x x') ∨
      ∃ n ∈ db.nodes, n.fixtureRunId = x'.fixtureRunId ∧ ¬ Quiet n := by
  have hentered : ∀ {runId : Uuid} {n : DataNodeRun}, n ∈ db.nodes → n.fixtureRunId = runId →
      ¬ Quiet n → EntersResource runId db db' → ∀ x' ∈ db'.resources,
        (∃ x ∈ db.resources, ResourceKept x x') ∨
          ∃ n ∈ db.nodes, n.fixtureRunId = x'.fixtureRunId ∧ ¬ Quiet n := by
    intro runId n hn hrun hquiet henters x' hx'
    rcases henters with hsame | ⟨resource, hresource, happend⟩
    · exact Or.inl (ResourcesFrom.same hsame x' hx')
    · rw [happend, List.mem_append, List.mem_singleton] at hx'
      rcases hx' with hx' | rfl
      · exact Or.inl ⟨x', hx', rfl, rfl, fun _ => rfl⟩
      · exact Or.inr ⟨n, hn, hrun.trans hresource.symm, hquiet⟩
  have hother : recordsResource e = false → ∀ x' ∈ db'.resources,
      ∃ x ∈ db.resources, ResourceKept x x' := by
    intro hrecords
    refine within_event worker outsideNodes_resourcesFrom onNodes_resourcesFrom
      (fun htrue => absurd htrue (by simp [hrecords])) ?_ ?_ _ _ _ h
    · rintro start now - db u db' h
      obtain ⟨new, run, bindings, -, -, -, -, -, -, rfl⟩ := createRun_of_commits h
      exact ResourcesFrom.same rfl
    · exact fun runId now _ => within_finalizeReleaseRun outsideNodes_resourcesFrom runId now
        fun _ _ _ => runTable.within_guarded _ _ fun _ _ => ResourcesFrom.same rfl
  cases e with
  | recordOutcome claim result now =>
    obtain ⟨out, h⟩ := commits_discard.1 h
    obtain ⟨n, a, hfind, hstatus, -, -, -, henters⟩ := recordOutcome_of_commits hi.nodeIds h
    exact hentered (mem_of_getNodeRecord hfind) (getNodeRecord_run hfind)
      (by simp [Quiet, hstatus]) henters
  | reconcileFound claim outputs providerRequestId now =>
    obtain ⟨out, h⟩ := commits_discard.1 h
    obtain ⟨n, hfind, hstatus, -, -, henters⟩ := reconcileFound_of_commits hi.nodeIds h
    exact hentered (mem_of_getNodeRecord hfind) (getNodeRecord_run hfind)
      (by simp [Quiet, hstatus]) henters
  | _ => exact fun x' hx' => Or.inl (hother rfl x' hx')

/-- The runs after an event: those that had ended before, and the one that ends now. -/
theorem runs_step (hids : (db.runs.map FixtureRun.id).Nodup)
    (h : Commits (e.transaction worker) db () db') {r : FixtureRun} (hr : r ∈ db'.runs)
    (hend : r.status ∉ liveRun) : r ∈ db.runs ∨
      ∃ runId now run intent, e = .finalizeRelease runId now ∧ run.id = runId ∧
        (db.cleanupCounts runId).retryable = 0 ∧
        r = finishCleanup intent (db.cleanupCounts runId).leaked run now run := by
  have hother : (∀ start now, e ≠ .create start now) → (∀ runId now, e ≠ .finalizeRelease runId now) →
      r ∈ db.runs := fun hcreate hfinal =>
    (within_event worker outsideNodes_runsKept onNodes_runsKept
      (fun _ => runsKept_recordResource) (fun start now heq => absurd heq (hcreate start now))
      (fun runId now heq => absurd heq (hfinal runId now)) _ _ _ h).back r hr hend
  cases e with
  | create start now =>
    obtain ⟨new, run, bindings, -, -, -, hstatus, -, -, rfl⟩ := createRun_of_commits h
    rcases List.mem_append.1 hr with hr | hr
    · exact Or.inl hr
    · obtain rfl := List.mem_singleton.1 hr
      exact absurd hend (by rw [hstatus]; decide)
  | finalizeRelease runId now =>
    obtain ⟨out, h⟩ := commits_discard.1 h
    rcases finalizeReleaseRun_cases hids h with
      hkept | ⟨run, hrun, rfl, hstatus, hretryable, intent, -, hruns⟩
    · exact Or.inl (hkept.back r hr hend)
    · rw [hruns, Table.mem_modify_keyed hids hrun] at hr
      rcases hr with rfl | ⟨hr, -⟩
      · exact Or.inr ⟨run.id, now, run, intent, rfl, rfl, hretryable, rfl⟩
      · exact Or.inl hr
  | _ => exact Or.inl (hother nofun nofun)

/-- Only a new run is a new id. -/
theorem runIds_step (hids : (db.runs.map FixtureRun.id).Nodup) (hbelow : ∀ r ∈ db.runs, r.id < db.nextId)
    (h : Commits (e.transaction worker) db () db') :
    (db'.runs.map FixtureRun.id).Nodup ∧ ∀ r ∈ db'.runs, r.id < db'.nextId := by
  have hgrow : db.nextId ≤ db'.nextId := idsGrow_event worker e _ _ _ h
  have hsame : db'.runs.map FixtureRun.id = db.runs.map FixtureRun.id →
      (db'.runs.map FixtureRun.id).Nodup ∧ ∀ r ∈ db'.runs, r.id < db'.nextId := by
    intro heq
    refine ⟨heq ▸ hids, fun r hr => ?_⟩
    have hmem : r.id ∈ db.runs.map FixtureRun.id := heq ▸ List.mem_map_of_mem hr
    obtain ⟨q, hq, hqid⟩ := List.mem_map.1 hmem
    exact (hqid ▸ hbelow q hq).trans_le hgrow
  have hother : (∀ start now, e ≠ .create start now) → (∀ runId now, e ≠ .finalizeRelease runId now) →
      db'.runs.map FixtureRun.id = db.runs.map FixtureRun.id := fun hcreate hfinal =>
    (within_event worker outsideNodes_runsKept onNodes_runsKept
      (fun _ => runsKept_recordResource) (fun start now heq => absurd heq (hcreate start now))
      (fun runId now heq => absurd heq (hfinal runId now)) _ _ _ h).ids
  cases e with
  | create start now =>
    obtain ⟨new, run, bindings, -, -, hid, -, -, -, rfl⟩ := createRun_of_commits h
    refine ⟨nodup_snoc hids fun r hr => hid ▸ hbelow r hr, fun r hr => ?_⟩
    rcases List.mem_append.1 hr with hr | hr
    · exact (hbelow r hr).trans_le hgrow
    · rw [List.mem_singleton.1 hr, hid]
      exact Nat.lt_of_lt_of_le (Nat.lt_succ_self _) (Nat.le_add_right _ _)
  | finalizeRelease runId now =>
    obtain ⟨out, h⟩ := commits_discard.1 h
    rcases finalizeReleaseRun_cases hids h with hkept | ⟨run, -, rfl, -, -, intent, -, hruns⟩
    · exact hsame hkept.ids
    · exact hsame (by rw [hruns]; exact Table.map_modify fun _ => rfl)
  | _ => exact hsame (hother nofun nofun)

theorem settled_step (hi : ReportInv db) (h : Commits (e.transaction worker) db () db')
    {runId : Uuid} (hbelow : runId < db.nextId)
    (hstart : ∀ nodeId now, e = .claimNode runId nodeId now →
      ∀ n, db.getNodeRecord runId nodeId = some n → ¬ BoundActive db runId n)
    (hsettled : RunSettled db runId) : RunSettled db' runId := by
  have hi' := hi.nodes.commits h
  have hquiet := quiet_step hi.nodes (nodeMove_of_commits hi.nodes.nodeIds h) hbelow hstart
    fun n hn hrun => (hsettled.nodes n hn hrun).1
  refine ⟨fun x' hx' hrun hown => ?_, fun n hn hrun => ⟨hquiet n hn hrun, fun hrunning => ?_⟩⟩
  · rcases resources_step hi.nodes h x' hx' with ⟨x, hx, hkept⟩ | ⟨n, hn, hnrun, hloud⟩
    · have hcleaned := hsettled.resources x hx (hkept.1.symm.trans hrun) (hkept.2.1.symm.trans hown)
      rw [hkept.2.2 hcleaned]
      exact hcleaned
    · exact absurd (hsettled.nodes n hn (hnrun.trans hrun)).1 hloud
  · -- a quiet node is not being looked up
    have hfits := hi'.fits n hn
    have hq := hquiet n hn hrun
    unfold RowFits at hfits
    unfold Quiet at hq
    rw [hrunning] at hfits
    cases hstatus : n.status <;> simp_all [reconcileStatesOf]

theorem ReportInv.step {s : FixtureSystem} (hi : ReportInv s.db) (horder : InOrder e s)
    (h : Commits (e.transaction worker) s.db () db') : ReportInv db' := by
  obtain ⟨hids, hbelow⟩ := runIds_step hi.runIds hi.runsBelow h
  refine ⟨hi.nodes.commits h, hids, hbelow, fun r hr hclean => ?_⟩
  rcases runs_step hi.runIds h hr hclean.1 with hr | ⟨runId, now, run, intent, rfl, hid, hretryable, rfl⟩
  · refine settled_step hi h (hi.runsBelow r hr) ?_ (hi.truth r hr hclean)
    rintro nodeId now rfl n hfind
    exact horder r hr rfl hclean n hfind
  · -- the run ends now, with nothing left to clean and nothing lost
    have hleaked : (s.db.cleanupCounts runId).leaked = 0 := by
      by_contra hlost
      have hstate := hclean.2
      simp [finishCleanup, finalCleanupState, hlost] at hstate
    have hcounts : s.db.cleanupCounts runId = ⟨0, 0⟩ := by
      cases hc : s.db.cleanupCounts runId
      simp_all
    have hbefore := settled_of_counts hi.nodes.fits hcounts (horder hcounts)
    have hrunId : (finishCleanup intent (s.db.cleanupCounts runId).leaked run now run).id = runId := hid
    rw [hrunId]
    refine settled_step hi h ?_ nofun hbefore
    obtain ⟨q, hq, hqid⟩ : ∃ q ∈ s.db.runs, q.id = runId := by
      obtain ⟨out, h⟩ := commits_discard.1 h
      unfold finalizeReleaseRun at h
      rw [commits_getRunForUpdate_bind] at h
      obtain ⟨q, hq, -⟩ := h
      exact ⟨q, List.mem_of_find?_eq_some hq, getRunRecord_id hq⟩
    exact hqid ▸ hi.runsBelow q hq

theorem reportInv_of_fresh {s : FixtureSystem} (h : s.Fresh) : ReportInv s.db := by
  refine ⟨nodeInv_of_fresh h, ?_, ?_, ?_⟩ <;> simp [h.runs, TellsTruth]

theorem reportInv_run {s s' : FixtureSystem} (hrun : FixtureSystemRun worker InOrder s s')
    (hi : ReportInv s.db) : ReportInv s'.db :=
  db_run_keeps (fun _ _ _ _ hok hinv h => hinv.step hok h) hrun hi

theorem ended_run {s s' : FixtureSystem} (hrun : FixtureSystemRun worker InOrder s s')
    (hi : ReportInv s.db) {r : FixtureRun} (hr : r ∈ s.db.runs) (hend : r.status ∉ liveRun) :
    r ∈ s'.db.runs := by
  have hboth : ReportInv s'.db ∧ r ∈ s'.db.runs :=
    db_run_keeps (I := fun db => ReportInv db ∧ r ∈ db.runs)
      (fun _ _ _ _ hok hinv h => ⟨hinv.1.step hok h, ended_step h hinv.1.runIds hinv.2 hend⟩)
      hrun ⟨hi, hr⟩
  exact hboth.2

/-- In every run in which a clean end finds no node RUNNING or VERIFYING and no node of a
cleanly ended run is started, a clean report is true, and it stays. -/
theorem clean_report_is_true {s₀ s : FixtureSystem} (hfresh : s₀.Fresh)
    (hrun : FixtureSystemRun worker InOrder s₀ s) :
    TellsTruth s.db ∧ ∀ s', FixtureSystemRun worker InOrder s s' →
      TellsTruth s'.db ∧ ∀ r ∈ s.db.runs, ReportedClean r → r ∈ s'.db.runs := by
  have hi := reportInv_run hrun (reportInv_of_fresh hfresh)
  refine ⟨hi.truth, fun s' hrun' => ⟨(reportInv_run hrun' hi).truth, fun r hr hclean => ?_⟩⟩
  exact ended_run hrun' hi hr hclean.1

/-! ### A shop with one order to create -/

def orderContract : DataAtomContract where
  effect := .create
  operation := ⟨"shop.create-order", "1.0.0"⟩
  maxAttempts := 3
  markerInput := none
  resourcePolicy := some ⟨"shop.order", .created, "orderRef", [], 3600⟩
  cleanupContract := some ⟨⟨"shop.delete-order", "1.0.0"⟩, "orderRef", none⟩
  reconcileContract := some ⟨⟨"shop.find-order", "1.0.0"⟩, "marker", "orderRef"⟩
  attempts := by decide
  shape := by decide

/-- Leases of a shop: one account, held through a lease until the minute ends. -/
def shopLeases : LeaseDb where
  environments := []
  roles := []
  pools := []
  connectors := [⟨50, 20, .active⟩]
  credentials := []
  slots := []
  accounts := []
  leases := [⟨90, 10, 20, 40, 60, 70, "execution", "w1", "ah_101", 1, 60, .active, 0, 0, seconds 60,
    seconds 600, none, none, 1⟩]
  idempotency := []
  nextId := 100

def shop : FixtureSystem where
  db :=
    { leaseDb := shopLeases, atoms := [⟨80, orderContract, 7⟩], runs := [], bindings := []
      nodes := [], attempts := [], reconcileAttempts := [], resources := [], dependencies := []
      cleanupAttempts := [], nextId := 100 }
  executions := []
  lookups := []
  cleanups := []
  calls := []
  answers := []
  recorded := []

theorem shop_fresh : shop.Fresh := by constructor <;> rfl

def shopWorker : FixtureWorker where
  cleanupGrace := seconds 10
  cleanupMaxAttempts := 3
  reconcileMaxAttempts := 3
  recoveryClaimTtl := seconds 5
  retryInitial := seconds 1
  retryMaximum := seconds 4
  registered _ _ := true
  resolveInputs _ _ _ := .ok []
  inputsValid _ _ := true
  cleanupAttempts := by decide
  reconcileAttempts := by decide
  retryBounds := by decide

def orderStart : FixtureStart where
  projectId := 10
  runKind := .execution
  compiledPlan := ⟨[⟨"order", 80, 7⟩], [["order"]], ["order"]⟩
  executionDeadline := seconds 30
  bindings := [⟨"buyer", 90, 1, 50⟩]
  nodes := [⟨"order", 80, "buyer", "key"⟩]

def shopOperator : ActorContext := ⟨1, some 2, [⟨.runOperator, some 10⟩], false⟩

/-- The order is being created: run 100, node 101 and attempt 102. -/
def creating : FixtureSystem :=
  (FixtureEvent.claimNode 100 "order" 1).apply shopWorker
    ((FixtureEvent.create orderStart 0).apply shopWorker shop)

def orderClaim : NodeExecutionClaim := creating.executions.head (by decide)

def orderSent : FixtureSystem := (FixtureEvent.send orderClaim).apply shopWorker creating

def orderCanceled : FixtureSystem :=
  (FixtureEvent.cancel shopOperator 100 2).apply shopWorker orderSent

def orderCleaning : FixtureSystem :=
  (FixtureEvent.beginCanceledCleanup 100 3).apply shopWorker orderCanceled

def orderReported : FixtureSystem :=
  (FixtureEvent.finalizeRelease 100 4).apply shopWorker orderCleaning

def orderAnswered : FixtureSystem :=
  (FixtureEvent.answer 102 .applied).apply shopWorker orderReported

def orderLeft : FixtureSystem :=
  (FixtureEvent.recordOutcome orderClaim ⟨[("orderRef", some "o")], none⟩ 5).apply shopWorker
    orderAnswered

/-- A step at the end of a run. -/
theorem run_snoc {ok : FixtureEvent → FixtureSystem → Prop} {s s' : FixtureSystem}
    (hrun : FixtureSystemRun worker ok s s') (e : FixtureEvent) (henabled : e.Enabled s')
    (hok : ok e s') : FixtureSystemRun worker ok s (e.apply worker s') :=
  hrun.tail ⟨e, henabled, hok, rfl⟩

theorem creating_run : FixtureSystemRun shopWorker (fun _ _ => True) shop creating := by
  have hstart : FixtureSystemRun shopWorker (fun _ _ => True) shop shop := .refl
  exact run_snoc (run_snoc hstart (.create orderStart 0) trivial trivial)
    (.claimNode 100 "order" 1) trivial trivial

/-- The order is still being created when its canceled run ends CLEANED; the late answer
enters an ACTIVE resource into the ledger of that run. -/
theorem late_order_in_clean_run : shop.Fresh ∧
    FixtureSystemRun shopWorker (fun _ _ => True) shop orderLeft ∧ ¬ TellsTruth orderLeft.db := by
  refine ⟨shop_fresh, ?_, fun htruth => ?_⟩
  · have hclaim : orderClaim ∈ creating.executions := List.head_mem _
    have hsent := run_snoc creating_run (.send orderClaim) ⟨hclaim, by decide⟩ trivial
    have hcanceled := run_snoc hsent (.cancel shopOperator 100 2) trivial trivial
    have hcleaning := run_snoc hcanceled (.beginCanceledCleanup 100 3) trivial trivial
    have hreported := run_snoc hcleaning (.finalizeRelease 100 4) trivial trivial
    have hanswered := run_snoc hreported (.answer 102 .applied)
      (show ∀ call ∈ orderReported.calls, call.attemptId = 102 → call.answer = none by
        decide) trivial
    exact run_snoc hanswered (.recordOutcome orderClaim ⟨[("orderRef", some "o")], none⟩ 5)
      (show orderClaim ∈ orderAnswered.executions ∧ orderClaim.phase = .execute ∧
        ∃ call ∈ orderAnswered.calls, call.attemptId = orderClaim.attempt.id ∧
          call.answer = some .applied by decide) trivial
  · have hlate : ∃ r ∈ orderLeft.db.runs, ReportedClean r ∧ ∃ x ∈ orderLeft.db.resources,
        x.fixtureRunId = r.id ∧ x.ownership = .created ∧ x.status ≠ .cleaned := by decide
    obtain ⟨r, hr, hclean, x, hx, hrun, hown, hstatus⟩ := hlate
    exact hstatus ((htruth r hr hclean).resources x hx hrun hown)

def orderDropped : FixtureSystem :=
  (FixtureEvent.finalizeRelease 100 4).apply shopWorker
    ((FixtureEvent.beginCanceledCleanup 100 3).apply shopWorker
      ((FixtureEvent.create orderStart 0).apply shopWorker shop))

/-- A run that is canceled before its order is claimed ends CLEANED, with nothing left. -/
theorem dropped_order_report_is_true :
    (∃ r ∈ orderDropped.db.runs, ReportedClean r) ∧ TellsTruth orderDropped.db := by
  have hstart : FixtureSystemRun shopWorker InOrder shop shop := .refl
  have hcreated := run_snoc hstart (.create orderStart 0) trivial trivial
  have hcleaning := run_snoc hcreated (.beginCanceledCleanup 100 3) trivial trivial
  have hreported := run_snoc hcleaning (.finalizeRelease 100 4) trivial
    (fun _ => by decide)
  exact ⟨by decide, (clean_report_is_true shop_fresh hreported).1⟩

end Atlas.Proofs
