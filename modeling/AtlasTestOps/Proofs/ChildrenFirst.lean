import AtlasTestOps.Service.ParentRefs
import AtlasTestOps.Proofs.CleanReport

/-! Children are cleaned before their parents. A parent link is looked up by the text of the
reference alone, so it is the right one as long as no two resources of a run have the same
reference. -/

namespace Atlas.Proofs.CleanupOrder

open Atlas Atlas.Identity Atlas.Fixture Atlas.Store Atlas.Service Txn

/-! ### Events that enter no resource -/

structure RowKept (x x' : ResourceRecord) : Prop where
  id : x'.id = x.id
  runId : x'.fixtureRunId = x.fixtureRunId
  opaqueRef : x'.opaqueRef = x.opaqueRef
  cleaned : x.status = .cleaned → x'.status = .cleaned

theorem RowKept.refl (x : ResourceRecord) : RowKept x x := ⟨rfl, rfl, rfl, fun h => h⟩

theorem RowKept.trans {x y z : ResourceRecord} (h₁ : RowKept x y) (h₂ : RowKept y z) :
    RowKept x z :=
  ⟨h₂.id.trans h₁.id, h₂.runId.trans h₁.runId, h₂.opaqueRef.trans h₁.opaqueRef,
    fun h => h₂.cleaned (h₁.cleaned h)⟩

/-- The links stay, and every resource stays under its reference; what is CLEANED stays so. -/
def LedgerKept (db db' : FixtureDb) : Prop :=
  db'.dependencies = db.dependencies ∧ ∃ g : ResourceRecord → ResourceRecord,
    db'.resources = db.resources.map g ∧ ∀ x ∈ db.resources, RowKept x (g x)

theorem LedgerKept.same {db db' : FixtureDb} (hdependencies : db'.dependencies = db.dependencies)
    (h : db'.resources = db.resources) : LedgerKept db db' :=
  ⟨hdependencies, id, by rw [h, List.map_id], fun x _ => RowKept.refl x⟩

theorem LedgerKept.trans {a b c : FixtureDb} (h₁ : LedgerKept a b) (h₂ : LedgerKept b c) :
    LedgerKept a c := by
  obtain ⟨hdep, g, hg, hkept⟩ := h₁
  obtain ⟨hdep', g', hg', hkept'⟩ := h₂
  refine ⟨hdep'.trans hdep, g' ∘ g, by rw [hg', hg, List.map_map], fun x hx => ?_⟩
  have hmem : g x ∈ b.resources := by
    rw [hg]
    exact List.mem_map_of_mem hx
  exact (hkept x hx).trans (hkept' (g x) hmem)

instance : Std.Refl LedgerKept := ⟨fun _ => LedgerKept.same rfl rfl⟩

instance : IsTrans FixtureDb LedgerKept := ⟨fun _ _ _ => LedgerKept.trans⟩

theorem rowKept_of_guard {x x' : ResourceRecord} (h : guardResourceRecordUpdate x x' = none) :
    RowKept x x' := by
  unfold guardResourceRecordUpdate at h
  simp only [firstViolation_cons, decide_eq_false_iff_not, not_or, ne_eq, not_not] at h
  obtain ⟨⟨hidentity, hlocator, -⟩, hcleaned, -⟩ := h
  unfold ResourceRecord.identity at hidentity
  unfold ResourceRecord.locator at hlocator
  simp only [Prod.mk.injEq] at hidentity hlocator
  exact ⟨hidentity.1, hidentity.2.1, hlocator.2.2.1, fun hx => absurd hx hcleaned⟩

theorem ledgerKept_update (p : ResourceRecord → Bool) (f : ResourceRecord → ResourceRecord) :
    Within LedgerKept (resourceTable.update p f) := by
  apply resourceTable.within_guarded
  intro db hadmits
  refine ⟨rfl, _, rfl, fun x hx => ?_⟩
  split
  · next hp => exact rowKept_of_guard (Option.map_eq_none_iff.1 (hadmits x hx hp))
  · exact RowKept.refl x

theorem outsideNodes_ledgerKept : OutsideNodes LedgerKept where
  runs p f _ := runTable.within_guarded p f fun _ _ => LedgerKept.same rfl rfl
  resources := ledgerKept_update
  cleanupAttempts _ := Within.update fun _ => LedgerKept.same rfl rfl
  leases _ := Within.update fun _ => LedgerKept.same rfl rfl
  newId := by
    intro db id db' h
    obtain ⟨rfl, rfl⟩ := commits_newFixtureId.1 h
    exact LedgerKept.same rfl rfl

theorem onNodes_ledgerKept : OnNodes LedgerKept where
  nodes p f := nodeTable.within_guarded p f fun _ _ => LedgerKept.same rfl rfl
  attempts _ := Within.update fun _ => LedgerKept.same rfl rfl
  reconcileAttempts _ := Within.update fun _ => LedgerKept.same rfl rfl

theorem ledgerKept_event (worker : FixtureWorker) {e : FixtureEvent}
    (he : recordsResource e = false) : Within LedgerKept (e.transaction worker) := by
  apply within_event worker outsideNodes_ledgerKept onNodes_ledgerKept
  · intro hrecords
    rw [he] at hrecords
    cases hrecords
  · intro start now _ db u db' h
    obtain ⟨new, run, bindings, -, -, -, -, -, -, rfl⟩ := createRun_of_commits h
    exact LedgerKept.same rfl rfl
  · exact fun runId now _ => within_finalizeReleaseRun outsideNodes_ledgerKept runId now
      fun _ _ _ => runTable.within_guarded _ _ fun _ _ => LedgerKept.same rfl rfl

/-! ### Events that enter a resource -/

section Entered

variable {db db' : FixtureDb} {runId : Uuid} {inputs outputs : PortValues} {now : Instant}

/-- Every parent input resolves to the first resource of the run with that reference. -/
def Resolved (db : FixtureDb) (runId : Uuid) (refs : List String) (parents : List ResourceRecord) :
    Prop :=
  List.Forall₂ (fun ref r => db.getResourceByOpaqueRef runId ref = some r) refs parents

theorem resolved_of_commits {ports : List String} {ids : List Uuid}
    (h : Commits (resolveParents runId inputs ports) db ids db') :
    db' = db ∧ ∃ parents, ids = parents.map ResourceRecord.id ∧
      Resolved db runId (ports.filterMap (textAt inputs)) parents := by
  induction ports generalizing ids db' with
  | nil =>
    obtain ⟨rfl, rfl⟩ := commits_pure.1 h
    exact ⟨rfl, [], rfl, .nil⟩
  | cons port ports ih =>
    unfold resolveParents at h
    rw [commits_demand_bind] at h
    obtain ⟨ref, href, h⟩ := h
    rw [commits_read_bind, commits_demand_bind] at h
    obtain ⟨parent, hparent, h⟩ := h
    rw [commits_bind] at h
    obtain ⟨rest, _, hrest, h⟩ := h
    obtain ⟨rfl, parents, rfl, hresolved⟩ := ih hrest
    obtain ⟨rfl, rfl⟩ := commits_pure.1 h
    refine ⟨rfl, parent :: parents, rfl, ?_⟩
    rw [List.filterMap_cons_some href]
    exact .cons hparent hresolved

/-- A resource `x` is new in the ledger, under the parents that its references resolve to. -/
structure Entered (runId : Uuid) (refs : List String) (newRef : Option String) (db db' : FixtureDb)
    (x : ResourceRecord) (parents : List ResourceRecord) : Prop where
  id : x.id = db.nextId
  ofRun : x.fixtureRunId = runId
  opaqueRef : newRef = some x.opaqueRef
  next : db.nextId < db'.nextId
  resources : db'.resources = db.resources ++ [x]
  dependencies : db'.dependencies =
    db.dependencies ++ parents.map fun p => ⟨x.id, p.id⟩
  resolved : Resolved db runId refs parents

theorem entered_of_recordOutput {nodeRunId attemptId connectorId : Uuid} {atom : DataAtomVersion}
    {policy : ResourcePolicy} {status : ResourceRecordStatus} {u : Unit}
    (h : Commits (recordOutput runId nodeRunId attemptId connectorId atom policy status inputs
      outputs now) db u db') :
    ∃ x parents, Entered runId (policy.parentRefInputs.filterMap (textAt inputs))
      (textAt outputs policy.resourceRefOutput) db db' x parents := by
  unfold recordOutput at h
  rw [commits_demand_bind] at h
  obtain ⟨opaqueRef, href, h⟩ := h
  rw [commits_bind] at h
  obtain ⟨parentIds, _, hparents, h⟩ := h
  obtain ⟨rfl, parents, rfl, hresolved⟩ := resolved_of_commits hparents
  rw [commits_bind] at h
  obtain ⟨id, _, hid, h⟩ := h
  obtain ⟨rfl, rfl⟩ := commits_newFixtureId.1 hid
  unfold recordResource at h
  rw [commits_read_bind, commits_raiseIf_bind] at h
  obtain rfl := commits_update.1 h.2
  refine ⟨_, parents, rfl, rfl, (Option.filter_eq_some_iff.1 href).1, Nat.lt_succ_self _, rfl, ?_,
    hresolved⟩
  simp only [addDependencies, List.map_map, Function.comp_def]

theorem entered_of_recordOutcome {claim out : NodeExecutionClaim} {result : FixtureOperationResult}
    (hids : (db.nodes.map DataNodeRun.id).Nodup)
    (h : Commits (recordProviderOutcome claim result now) db out db') :
    (db'.dependencies = db.dependencies ∧ db'.resources = db.resources) ∨
      ∃ policy x parents, claim.atom.contract.resourcePolicy = some policy ∧
        Entered claim.run.id (parentRefs claim.atom claim.inputs)
          (textAt result.outputs policy.resourceRefOutput) db db' x parents := by
  unfold recordProviderOutcome at h
  rw [commits_read_bind, commits_demand_bind] at h
  obtain ⟨n, hfind, h⟩ := h
  rw [commits_read_bind, commits_demand_bind] at h
  obtain ⟨a, hattempt, h⟩ := h
  rw [commits_bind] at h
  obtain ⟨_, mid, hmark, h⟩ := h
  rw [commits_demand_bind] at h
  obtain ⟨m, rfl, h⟩ := h
  obtain ⟨-, -, rfl⟩ := commits_markNodeVerifying hids (mem_of_getNodeRecord hfind) hmark
  cases hpolicy : claim.atom.contract.resourcePolicy with
  | none =>
    simp only [hpolicy, commits_pure] at h
    obtain ⟨-, rfl⟩ := h
    exact Or.inl ⟨rfl, rfl⟩
  | some policy =>
    right
    simp only [hpolicy] at h
    rw [commits_bind] at h
    obtain ⟨_, last, hrecord, h⟩ := h
    obtain ⟨-, rfl⟩ := commits_pure.1 h
    obtain ⟨x, parents, hentered⟩ := entered_of_recordOutput hrecord
    refine ⟨policy, x, parents, rfl, ?_⟩
    simp only [parentRefs, hpolicy]
    exact ⟨hentered.id, hentered.ofRun, hentered.opaqueRef, hentered.next, hentered.resources,
      hentered.dependencies, hentered.resolved⟩

theorem entered_of_reconcileFound {claim : NodeReconcileClaim} {out : DataNodeRun}
    {providerRequestId : Option String} (hids : (db.nodes.map DataNodeRun.id).Nodup)
    (h : Commits (recordReconcileFound claim outputs providerRequestId now) db out db') :
    ∃ policy x parents, claim.atom.contract.resourcePolicy = some policy ∧
      Entered claim.run.id (parentRefs claim.atom claim.inputs)
        (textAt outputs policy.resourceRefOutput) db db' x parents := by
  unfold recordReconcileFound at h
  rw [commits_read_bind, commits_demand_bind] at h
  obtain ⟨run, hrun, h⟩ := h
  rw [commits_read_bind, commits_demand_bind] at h
  obtain ⟨n, hfind, h⟩ := h
  rw [commits_bind] at h
  obtain ⟨_, _, hdone, h⟩ := h
  rw [commits_demand_bind] at h
  obtain ⟨m, rfl, h⟩ := h
  obtain ⟨-, -, -, rfl⟩ := commits_finishLookup hids (mem_of_getNodeRecord hfind) hdone
  rw [commits_demand_bind] at h
  obtain ⟨policy, hpolicy, h⟩ := h
  rw [commits_raiseIf_bind, commits_bind] at h
  obtain ⟨-, _, _, hrecord, h⟩ := h
  obtain ⟨-, rfl⟩ := commits_pure.1 h
  obtain ⟨x, parents, hentered⟩ := entered_of_recordOutput hrecord
  refine ⟨policy, x, parents, hpolicy, ?_⟩
  rw [getRunRecord_id hrun] at hentered
  simp only [parentRefs, hpolicy]
  exact ⟨hentered.id, hentered.ofRun, hentered.opaqueRef, hentered.next, hentered.resources,
    hentered.dependencies, hentered.resolved⟩

end Entered

/-! ### A claim of a cleanup -/

/-- A resource is handed out for cleanup only when its children in the ledger are CLEANED. -/
theorem claimCleanup_childless {db db' : FixtureDb} {worker : FixtureWorker}
    {candidate : ResourceRecord} {workerIdentity : String} {now : Instant} {claim : CleanupClaim}
    (h : Commits (claimCleanup worker candidate workerIdentity now) db (some claim) db') :
    db.hasLiveChild claim.resource.id = false ∧ ∃ r ∈ db.resources, r.id = claim.resource.id := by
  unfold claimCleanup at h
  rw [commits_bind] at h
  obtain ⟨attemptId, _, hid, h⟩ := h
  obtain ⟨rfl, rfl⟩ := commits_newFixtureId.1 hid
  rw [commits_bind] at h
  obtain ⟨claimed, mid, hclaimed, h⟩ := h
  cases claimed with
  | none => simp at h
  | some pair =>
    obtain ⟨resource, attempt⟩ := pair
    have hresource : claim.resource = resource := by
      simp only [commits_read_bind, commits_demand_bind] at h
      obtain ⟨run, -, h⟩ := h
      split at h
      · rw [commits_bind] at h
        obtain ⟨_, _, -, h⟩ := h
        simp at h
      · simp only [commits_pure, Option.some.injEq] at h
        rw [h.1]
    rw [hresource]
    unfold claimResourceCleanup at hclaimed
    rw [commits_read_bind, commits_bind] at hclaimed
    obtain ⟨setAside, _, haside, hclaimed⟩ := hclaimed
    rw [commits_ite] at hclaimed
    rcases hclaimed with ⟨-, hclaimed⟩ | ⟨hnone, hclaimed⟩
    · simp at hclaimed
    · obtain ⟨-, -, rfl⟩ := (resourceTable.commits_guarded _ _).1 haside
      rw [commits_bind] at hclaimed
      obtain ⟨rows, last, hrows, hclaimed⟩ := hclaimed
      obtain ⟨-, hout, -⟩ := (resourceTable.commits_guarded _ _).1 hrows
      cases rows with
      | nil => simp at hclaimed
      | cons first rest =>
        simp only [commits_bind, commits_update, commits_pure, Option.some.injEq,
          Prod.mk.injEq] at hclaimed
        obtain ⟨-, -, -, ⟨rfl, -⟩, -⟩ := hclaimed
        have hmem : resource ∈ resource :: rest := List.mem_cons_self
        rw [hout] at hmem
        obtain ⟨row, hrow, rfl⟩ := List.mem_map.1 hmem
        obtain ⟨hrow, hp⟩ := List.mem_filter.1 hrow
        simp only [Bool.and_eq_true, decide_eq_true_eq, Bool.not_eq_true'] at hp
        obtain ⟨before, hbefore, rfl⟩ := List.mem_map.1 hrow
        refine ⟨?_, before, hbefore, ?_⟩
        · rw [hp.1.1.1.1]
          exact hp.2
        · dsimp only
          split <;> rfl

/-! ### The ledger of a traced run -/

structure LedgerInv (t : TracedSystem) : Prop where
  nodeIds : NodeInv (nodeTables t.system.db) t.system.db.nextId
  below : ∀ r ∈ t.system.db.resources, r.id < t.system.db.nextId
  ids : ∀ r ∈ t.system.db.resources, ∀ r' ∈ t.system.db.resources, r.id = r'.id → r = r'
  refs : ∀ r ∈ t.system.db.resources, ∀ r' ∈ t.system.db.resources,
    r.fixtureRunId = r'.fixtureRunId → r.opaqueRef = r'.opaqueRef → r = r'
  dependenciesBelow : ∀ d ∈ t.system.db.dependencies,
    d.childResourceId < t.system.db.nextId ∧ d.parentResourceId < t.system.db.nextId
  passedBelow : ∀ p ∈ t.passed, p.resourceId < t.system.db.nextId
  /-- Whatever was passed is the reference of a resource of the run. -/
  known : ∀ p ∈ t.passed, ∀ x ∈ t.system.db.resources, x.id = p.resourceId →
    ∃ r ∈ t.system.db.resources, r.fixtureRunId = x.fixtureRunId ∧ r.opaqueRef = p.opaqueRef
  linked : ∀ x ∈ t.system.db.resources, ∀ r ∈ t.system.db.resources,
    x.fixtureRunId = r.fixtureRunId →
      (⟨x.id, r.opaqueRef⟩ ∈ t.passed ↔ ⟨x.id, r.id⟩ ∈ t.system.db.dependencies)
  claimsBelow : ∀ claim ∈ t.system.cleanups, claim.resource.id < t.system.db.nextId
  order : ∀ claim ∈ t.system.cleanups, ∀ x ∈ t.system.db.resources,
    ⟨x.id, claim.resource.id⟩ ∈ t.system.db.dependencies → x.status = .cleaned

theorem ledgerInv_of_fresh {s : FixtureSystem} (h : s.Fresh) : LedgerInv ⟨s, []⟩ := by
  constructor <;>
    simp [h.resources, h.dependencies, h.cleanups, nodeInv_of_fresh h]

section Steps

variable {t t' : TracedSystem} {worker : FixtureWorker}

/-- The ledger after an event that enters nothing; a claim it hands out is of a childless
resource. -/
theorem LedgerInv.kept (hi : LedgerInv t)
    (hnodes : NodeInv (nodeTables t'.system.db) t'.system.db.nextId)
    (hnext : t.system.db.nextId ≤ t'.system.db.nextId)
    (hkept : LedgerKept t.system.db t'.system.db) (hpassed : t'.passed = t.passed)
    (hclaims : ∀ claim ∈ t'.system.cleanups, claim ∈ t.system.cleanups ∨
      t.system.db.hasLiveChild claim.resource.id = false ∧
        ∃ r ∈ t.system.db.resources, r.id = claim.resource.id) : LedgerInv t' := by
  obtain ⟨hdependencies, g, hresources, hg⟩ := hkept
  have hrow : ∀ y ∈ t'.system.db.resources, ∃ x ∈ t.system.db.resources, y = g x ∧ RowKept x y := by
    intro y hy
    rw [hresources] at hy
    obtain ⟨x, hx, rfl⟩ := List.mem_map.1 hy
    exact ⟨x, hx, rfl, hg x hx⟩
  constructor
  case nodeIds => exact hnodes
  case below =>
    intro y hy
    obtain ⟨x, hx, -, hkept⟩ := hrow y hy
    exact hkept.id ▸ (hi.below x hx).trans_le hnext
  case ids =>
    intro y hy y' hy' heq
    obtain ⟨x, hx, rfl, hkept⟩ := hrow y hy
    obtain ⟨x', hx', rfl, hkept'⟩ := hrow y' hy'
    rw [hkept.id, hkept'.id] at heq
    rw [hi.ids x hx x' hx' heq]
  case refs =>
    intro y hy y' hy' hrun href
    obtain ⟨x, hx, rfl, hkept⟩ := hrow y hy
    obtain ⟨x', hx', rfl, hkept'⟩ := hrow y' hy'
    rw [hkept.runId, hkept'.runId] at hrun
    rw [hkept.opaqueRef, hkept'.opaqueRef] at href
    rw [hi.refs x hx x' hx' hrun href]
  case dependenciesBelow =>
    intro d hd
    rw [hdependencies] at hd
    exact (hi.dependenciesBelow d hd).imp hnext.trans_lt' hnext.trans_lt'
  case passedBelow =>
    intro p hp
    rw [hpassed] at hp
    exact (hi.passedBelow p hp).trans_le hnext
  case known =>
    intro p hp y hy heq
    rw [hpassed] at hp
    obtain ⟨x, hx, rfl, hkept⟩ := hrow y hy
    obtain ⟨r, hr, hrun, href⟩ := hi.known p hp x hx (hkept.id ▸ heq)
    have hgr : g r ∈ t'.system.db.resources := hresources ▸ List.mem_map_of_mem hr
    refine ⟨g r, hgr, ?_, ?_⟩
    · rw [(hg r hr).runId, hkept.runId, hrun]
    · rw [(hg r hr).opaqueRef, href]
  case linked =>
    intro y hy y' hy' hrun
    obtain ⟨x, hx, rfl, hkept⟩ := hrow y hy
    obtain ⟨r, hr, rfl, hkept'⟩ := hrow y' hy'
    rw [hkept.runId, hkept'.runId] at hrun
    rw [hkept.id, hkept'.id, hkept'.opaqueRef, hpassed, hdependencies]
    exact hi.linked x hx r hr hrun
  case claimsBelow =>
    intro claim hclaim
    rcases hclaims claim hclaim with hold | ⟨-, r, hr, heq⟩
    · exact (hi.claimsBelow claim hold).trans_le hnext
    · exact heq ▸ (hi.below r hr).trans_le hnext
  case order =>
    intro claim hclaim y hy hdep
    obtain ⟨x, hx, rfl, hkept⟩ := hrow y hy
    rw [hdependencies, hkept.id] at hdep
    apply hkept.cleaned
    rcases hclaims claim hclaim with hold | ⟨hchildless, -⟩
    · exact hi.order claim hold x hx hdep
    · by_contra hlive
      have hchild : t.system.db.hasLiveChild claim.resource.id = true := by
        unfold FixtureDb.hasLiveChild
        simp only [List.any_eq_true, Bool.and_eq_true, decide_eq_true_eq]
        exact ⟨_, hdep, rfl, x, hx, rfl, hlive⟩
      rw [hchildless] at hchild
      cases hchild

theorem mem_of_getResourceByOpaqueRef {db : FixtureDb} {runId : Uuid} {ref : String}
    {r : ResourceRecord} (h : db.getResourceByOpaqueRef runId ref = some r) :
    r ∈ db.resources ∧ r.fixtureRunId = runId ∧ r.opaqueRef = ref := by
  have hfound := List.find?_some h
  simp only [decide_eq_true_eq] at hfound
  exact ⟨List.mem_of_find?_eq_some h, hfound⟩

/-- With one resource a reference, the parents are those whose reference was passed. -/
theorem Resolved.mem_iff {db : FixtureDb} {runId : Uuid} {refs : List String}
    {parents : List ResourceRecord} (h : Resolved db runId refs parents)
    (hrefs : ∀ r ∈ db.resources, ∀ r' ∈ db.resources, r.fixtureRunId = r'.fixtureRunId →
      r.opaqueRef = r'.opaqueRef → r = r') {r : ResourceRecord} (hr : r ∈ db.resources)
    (hrun : r.fixtureRunId = runId) : r ∈ parents ↔ r.opaqueRef ∈ refs := by
  induction h with
  | nil => simp
  | cons hfound _ ih =>
    obtain ⟨hmem, hparentRun, href⟩ := mem_of_getResourceByOpaqueRef hfound
    rw [List.mem_cons, List.mem_cons, ih]
    refine or_congr_left ⟨fun heq => heq ▸ href, fun heq => ?_⟩
    exact hrefs r hr _ hmem (hrun.trans hparentRun.symm) (heq.trans href.symm)

theorem Resolved.mem {db : FixtureDb} {runId : Uuid} {refs : List String}
    {parents : List ResourceRecord} (h : Resolved db runId refs parents) :
    (∀ p ∈ parents, p ∈ db.resources ∧ p.fixtureRunId = runId ∧ p.opaqueRef ∈ refs) ∧
      ∀ ref ∈ refs, ∃ p ∈ db.resources, p.fixtureRunId = runId ∧ p.opaqueRef = ref := by
  induction h with
  | nil => simp
  | cons hfound _ ih =>
    obtain ⟨hmem, hrun, href⟩ := mem_of_getResourceByOpaqueRef hfound
    constructor
    · intro p hp
      rcases List.mem_cons.1 hp with rfl | hp
      · exact ⟨hmem, hrun, href ▸ List.mem_cons_self⟩
      · obtain ⟨hpmem, hprun, hpref⟩ := ih.1 p hp
        exact ⟨hpmem, hprun, List.mem_cons_of_mem _ hpref⟩
    · intro ref hmemRef
      rcases List.mem_cons.1 hmemRef with rfl | hmemRef
      · exact ⟨_, hmem, hrun, href⟩
      · exact ih.2 ref hmemRef

/-- The ledger after an event that enters a resource with a reference of its own, whose parents
nobody has claimed. -/
theorem LedgerInv.entered (hi : LedgerInv t)
    (hnodes : NodeInv (nodeTables t'.system.db) t'.system.db.nextId) {runId : Uuid}
    {refs : List String} {newRef : Option String} {x : ResourceRecord}
    {parents : List ResourceRecord}
    (hx : Entered runId refs newRef t.system.db t'.system.db x parents)
    (hdistinct : ∀ r ∈ t.system.db.resources, r.fixtureRunId = runId → newRef ≠ some r.opaqueRef)
    (hunclaimed : ∀ r ∈ t.system.db.resources, r.fixtureRunId = runId → r.opaqueRef ∈ refs →
      ∀ claim ∈ t.system.cleanups, claim.resource.id ≠ r.id)
    (hpassed : t'.passed = t.passed ++ refs.map (PassedRef.mk x.id))
    (hclaims : t'.system.cleanups = t.system.cleanups) : LedgerInv t' := by
  have hresources : ∀ {r}, r ∈ t'.system.db.resources ↔ r ∈ t.system.db.resources ∨ r = x := by
    intro r
    rw [hx.resources, List.mem_append, List.mem_singleton]
  have hold : ∀ r ∈ t.system.db.resources, r.id ≠ x.id := fun r hr heq =>
    (hi.below r hr).ne (heq.trans hx.id)
  have hother : ∀ r ∈ t.system.db.resources, r.fixtureRunId = x.fixtureRunId →
      r.opaqueRef ≠ x.opaqueRef := by
    intro r hr hrun heq
    exact hdistinct r hr (hrun.trans hx.ofRun) (heq ▸ hx.opaqueRef)
  have hparents := hx.resolved.mem
  have hdependency : ∀ {child parent : Uuid}, (⟨child, parent⟩ : ResourceDependency) ∈
      t'.system.db.dependencies ↔ ⟨child, parent⟩ ∈ t.system.db.dependencies ∨
        child = x.id ∧ ∃ p ∈ parents, p.id = parent := by
    intro child parent
    rw [hx.dependencies, List.mem_append, List.mem_map]
    simp only [ResourceDependency.mk.injEq]
    refine or_congr_right ⟨?_, ?_⟩
    · rintro ⟨p, hp, rfl, rfl⟩
      exact ⟨rfl, p, hp, rfl⟩
    · rintro ⟨rfl, p, hp, rfl⟩
      exact ⟨p, hp, rfl, rfl⟩
  have hpass : ∀ {id : Uuid} {ref : String}, (⟨id, ref⟩ : PassedRef) ∈ t'.passed ↔
      ⟨id, ref⟩ ∈ t.passed ∨ id = x.id ∧ ref ∈ refs := by
    intro id ref
    rw [hpassed, List.mem_append, List.mem_map]
    simp only [PassedRef.mk.injEq]
    refine or_congr_right ⟨?_, ?_⟩
    · rintro ⟨ref, href, rfl, rfl⟩
      exact ⟨rfl, href⟩
    · rintro ⟨rfl, href⟩
      exact ⟨ref, href, rfl, rfl⟩
  have hnext := hx.next
  have hxid := hx.id
  constructor
  case nodeIds => exact hnodes
  case below =>
    intro r hr
    rcases hresources.1 hr with hr | rfl
    · exact (hi.below r hr).trans hnext
    · exact hxid ▸ hnext
  case ids =>
    intro r hr r' hr' heq
    rcases hresources.1 hr with hr | rfl <;> rcases hresources.1 hr' with hr' | rfl
    · exact hi.ids r hr r' hr' heq
    · exact absurd heq (hold r hr)
    · exact absurd heq.symm (hold r' hr')
    · rfl
  case refs =>
    intro r hr r' hr' hrun href
    rcases hresources.1 hr with hr | rfl <;> rcases hresources.1 hr' with hr' | rfl
    · exact hi.refs r hr r' hr' hrun href
    · exact absurd href (hother r hr hrun)
    · exact absurd href.symm (hother r' hr' hrun.symm)
    · rfl
  case dependenciesBelow =>
    rintro ⟨child, parent⟩ hd
    rcases hdependency.1 hd with hd | ⟨rfl, p, hp, rfl⟩
    · obtain ⟨hchild, hparent⟩ := hi.dependenciesBelow _ hd
      exact ⟨hchild.trans hnext, hparent.trans hnext⟩
    · exact ⟨hxid ▸ hnext, (hi.below p (hparents.1 p hp).1).trans hnext⟩
  case passedBelow =>
    rintro ⟨id, ref⟩ hp
    rcases hpass.1 hp with hp | ⟨rfl, -⟩
    · exact (hi.passedBelow _ hp).trans hnext
    · exact hxid ▸ hnext
  case known =>
    rintro ⟨id, ref⟩ hp r hr heq
    rcases hpass.1 hp with hp | ⟨rfl, href⟩
    · rcases hresources.1 hr with hr | rfl
      · obtain ⟨q, hq, hrun, href⟩ := hi.known _ hp r hr heq
        exact ⟨q, hresources.2 (Or.inl hq), hrun, href⟩
      · exact absurd (hi.passedBelow _ hp) (by rw [← heq, hxid]; exact lt_irrefl _)
    · rcases hresources.1 hr with hr | rfl
      · exact absurd heq (hold r hr)
      · obtain ⟨q, hq, hrun, hqref⟩ := hparents.2 ref href
        exact ⟨q, hresources.2 (Or.inl hq), hrun.trans hx.ofRun.symm, hqref⟩
  case linked =>
    intro y hy r hr hrun
    rw [hpass, hdependency]
    rcases hresources.1 hy with hy | rfl <;> rcases hresources.1 hr with hr | rfl
    · rw [hi.linked y hy r hr hrun]
      simp [hold y hy]
    · -- an old resource is linked to none that is new
      have hnone : ⟨y.id, r.opaqueRef⟩ ∉ t.passed := by
        intro hp
        obtain ⟨q, hq, hqrun, hqref⟩ := hi.known _ hp y hy rfl
        exact hother q hq (hqrun.trans hrun) hqref
      have hnone' : (⟨y.id, r.id⟩ : ResourceDependency) ∉ t.system.db.dependencies := by
        intro hd
        have hlt := (hi.dependenciesBelow _ hd).2
        rw [hxid] at hlt
        exact lt_irrefl _ hlt
      simp [hnone, hnone', hold y hy]
    · have hnone : ⟨y.id, r.opaqueRef⟩ ∉ t.passed := by
        intro hp
        have hlt := hi.passedBelow _ hp
        rw [hxid] at hlt
        exact lt_irrefl _ hlt
      have hnone' : (⟨y.id, r.id⟩ : ResourceDependency) ∉ t.system.db.dependencies := by
        intro hd
        have hlt := (hi.dependenciesBelow _ hd).1
        rw [hxid] at hlt
        exact lt_irrefl _ hlt
      have hmem := hx.resolved.mem_iff hi.refs hr (hrun.symm.trans hx.ofRun)
      simp only [hnone, hnone', true_and, false_or]
      rw [← hmem]
      refine ⟨fun hr => ⟨r, hr, rfl⟩, fun ⟨p, hp, heq⟩ => ?_⟩
      rwa [← hi.ids p (hparents.1 p hp).1 r hr heq]
    · have hnone : ⟨r.id, r.opaqueRef⟩ ∉ t.passed := by
        intro hp
        have hlt := hi.passedBelow _ hp
        rw [hxid] at hlt
        exact lt_irrefl _ hlt
      have hnone' : (⟨r.id, r.id⟩ : ResourceDependency) ∉ t.system.db.dependencies := by
        intro hd
        have hlt := (hi.dependenciesBelow _ hd).1
        rw [hxid] at hlt
        exact lt_irrefl _ hlt
      simp only [hnone, hnone', true_and, false_or]
      constructor
      · intro href
        obtain ⟨q, hq, hqrun, hqref⟩ := hparents.2 _ href
        exact absurd hqref (hother q hq (hqrun.trans hx.ofRun.symm))
      · rintro ⟨p, hp, heq⟩
        exact absurd heq (hold p (hparents.1 p hp).1)
  case claimsBelow =>
    rw [hclaims]
    exact fun claim hclaim => (hi.claimsBelow claim hclaim).trans hnext
  case order =>
    rw [hclaims]
    intro claim hclaim y hy hd
    rcases hdependency.1 hd with hd | ⟨hyid, p, hp, heq⟩
    · rcases hresources.1 hy with hy | rfl
      · exact hi.order claim hclaim y hy hd
      · have hlt := (hi.dependenciesBelow _ hd).1
        rw [hxid] at hlt
        exact absurd hlt (lt_irrefl _)
    · obtain ⟨hpmem, hprun, hpref⟩ := hparents.1 p hp
      exact absurd heq.symm (hunclaimed p hpmem hprun hpref claim hclaim)

end Steps

/-! ### Runs -/

section Runs

variable {worker : FixtureWorker} {s : FixtureSystem} {t t' : TracedSystem} {e : FixtureEvent}

/-- Only a claim of a cleanup hands one out. -/
theorem apply_cleanups (e : FixtureEvent) (s : FixtureSystem) :
    (e.apply worker s).cleanups = s.cleanups ∨
      ∃ candidate workerIdentity now claim db',
        Commits (claimCleanup worker candidate workerIdentity now) s.db (some claim) db' ∧
          (e.apply worker s).cleanups = claim :: s.cleanups := by
  cases e with
  | claimCleanup candidate workerIdentity now =>
    simp only [FixtureEvent.apply, FixtureEvent.claims, FixtureEvent.outside]
    split
    · next claim db' heq => exact Or.inr ⟨candidate, workerIdentity, now, claim, db', heq, rfl⟩
    · exact Or.inl rfl
  | claimNode | recordOutcome | claimReconcile | reconcileFound =>
    simp only [FixtureEvent.apply, FixtureEvent.claims, FixtureEvent.outside]
    split <;> exact Or.inl rfl
  | _ => exact Or.inl rfl

theorem childless_of_apply {claim : CleanupClaim} (h : claim ∈ (e.apply worker s).cleanups) :
    claim ∈ s.cleanups ∨ s.db.hasLiveChild claim.resource.id = false ∧
      ∃ r ∈ s.db.resources, r.id = claim.resource.id := by
  rcases apply_cleanups e s with heq | ⟨candidate, workerIdentity, now, new, db', hclaim, heq⟩
  · exact Or.inl (heq ▸ h)
  · rw [heq] at h
    rcases List.mem_cons.1 h with rfl | h
    · exact Or.inr (claimCleanup_childless hclaim)
    · exact Or.inl h

theorem passedRefs_of_length {db db' : FixtureDb}
    (h : db'.resources.length = db.resources.length) : passedRefs e db db' = [] := by
  unfold passedRefs
  rw [List.drop_of_length_le h.le]
  rfl

theorem passedRefs_of_entered {db db' : FixtureDb} {x : ResourceRecord}
    (h : db'.resources = db.resources ++ [x]) :
    passedRefs e db db' = (eventRefs e).map (PassedRef.mk x.id) := by
  unfold passedRefs
  rw [h, List.drop_left, List.flatMap_singleton]

theorem LedgerKept.length {db db' : FixtureDb} (h : LedgerKept db db') :
    db'.resources.length = db.resources.length := by
  obtain ⟨-, g, hg, -⟩ := h
  rw [hg, List.length_map]

theorem LedgerInv.quiet (hi : LedgerInv t) (e : FixtureEvent)
    (hnodes : NodeInv (nodeTables (e.apply worker t.system).db) (e.apply worker t.system).db.nextId)
    (hnext : t.system.db.nextId ≤ (e.apply worker t.system).db.nextId)
    (hkept : LedgerKept t.system.db (e.apply worker t.system).db) :
    LedgerInv (t.apply worker e) := by
  refine hi.kept hnodes hnext hkept ?_ fun claim => childless_of_apply
  change t.passed ++ passedRefs e t.system.db (e.apply worker t.system).db = t.passed
  rw [passedRefs_of_length hkept.length, List.append_nil]

theorem recordsResource_cleanups (he : recordsResource e = true) :
    (e.apply worker s).cleanups = s.cleanups := by
  cases e with
  | recordOutcome | reconcileFound =>
    simp only [FixtureEvent.apply, FixtureEvent.claims, FixtureEvent.outside]
    split <;> rfl
  | _ => cases he

theorem LedgerInv.recorded (hi : LedgerInv t) (e : FixtureEvent)
    (he : recordsResource e = true)
    (hnodes : NodeInv (nodeTables (e.apply worker t.system).db) (e.apply worker t.system).db.nextId)
    {runId : Uuid} {atom : DataAtomVersion} {inputs outputs : PortValues}
    (hplain : EntersPlainly t.system runId atom inputs outputs)
    (hrefs : eventRefs e = parentRefs atom inputs) {policy : ResourcePolicy}
    (hpolicy : atom.contract.resourcePolicy = some policy) {x : ResourceRecord}
    {parents : List ResourceRecord}
    (hx : Entered runId (parentRefs atom inputs) (textAt outputs policy.resourceRefOutput)
      t.system.db (e.apply worker t.system).db x parents) : LedgerInv (t.apply worker e) := by
  refine hi.entered hnodes hx (hplain.distinct policy hpolicy) hplain.unclaimed ?_
    (recordsResource_cleanups he)
  change t.passed ++ passedRefs e t.system.db (e.apply worker t.system).db = _
  rw [passedRefs_of_entered hx.resources, hrefs]

theorem LedgerInv.step (hi : LedgerInv t) (hstep : TracedStep worker RecordsPlainly t t') :
    LedgerInv t' := by
  obtain ⟨e, -, hok, rfl⟩ := hstep
  have hdb := FixtureEvent.apply_db worker e t.system
  rcases after_eq (e.transaction worker) t.system.db with heq | ⟨u, h⟩
  · rw [heq] at hdb
    have hnext : t.system.db.nextId ≤ (e.apply worker t.system).db.nextId :=
      (congrArg FixtureDb.nextId hdb).ge
    exact hi.quiet e (by rw [hdb]; exact hi.nodeIds) hnext
      (LedgerKept.same (by rw [hdb]) (by rw [hdb]))
  · rw [← hdb] at h
    have hnodes := hi.nodeIds.commits h
    have hnext : t.system.db.nextId ≤ (e.apply worker t.system).db.nextId :=
      idsGrow_event worker e _ _ _ h
    cases hrecords : recordsResource e with
    | false => exact hi.quiet e hnodes hnext (ledgerKept_event worker hrecords _ _ _ h)
    | true =>
      cases e with
      | recordOutcome claim result now =>
        obtain ⟨out, h⟩ := commits_discard.1 h
        rcases entered_of_recordOutcome hi.nodeIds.nodeIds h with
          ⟨hdependencies, hresources⟩ | ⟨policy, x, parents, hpolicy, hx⟩
        · exact hi.quiet _ hnodes hnext (LedgerKept.same hdependencies hresources)
        · exact hi.recorded _ rfl hnodes hok rfl hpolicy hx
      | reconcileFound claim outputs providerRequestId now =>
        obtain ⟨out, h⟩ := commits_discard.1 h
        obtain ⟨policy, x, parents, hpolicy, hx⟩ := entered_of_reconcileFound hi.nodeIds.nodeIds h
        exact hi.recorded _ rfl hnodes hok rfl hpolicy hx
      | _ => cases hrecords

/-- Whoever may be cleaning a resource, every resource that was created with it as a parent is
CLEANED, and the parents in the ledger are those whose references were passed. -/
structure ChildrenFirst (t : TracedSystem) : Prop where
  order : ∀ claim ∈ t.system.cleanups, ∀ r ∈ t.system.db.resources, r.id = claim.resource.id →
    ∀ x ∈ t.system.db.resources, x.fixtureRunId = r.fixtureRunId →
      ⟨x.id, r.opaqueRef⟩ ∈ t.passed → x.status = .cleaned
  parents : ∀ x ∈ t.system.db.resources, ∀ r ∈ t.system.db.resources,
    x.fixtureRunId = r.fixtureRunId →
      (⟨x.id, r.opaqueRef⟩ ∈ t.passed ↔ ⟨x.id, r.id⟩ ∈ t.system.db.dependencies)

theorem children_cleaned_first (hfresh : s.Fresh)
    (hrun : TracedRun worker RecordsPlainly ⟨s, []⟩ t) : ChildrenFirst t := by
  have hi := run_keeps (fun _ _ hstep hi => LedgerInv.step hi hstep) hrun (ledgerInv_of_fresh hfresh)
  refine ⟨fun claim hclaim r hr heq x hx hsame hpassed => ?_, hi.linked⟩
  refine hi.order claim hclaim x hx ?_
  rw [← heq]
  exact (hi.linked x hx r hr hsame).1 hpassed

end Runs

/-! ### A cart with one item, and an order of the same name -/

def cartContract : DataAtomContract :=
  { orderContract with resourcePolicy := some ⟨"shop.cart", .created, "cartRef", [], 3600⟩ }

def itemContract : DataAtomContract :=
  { orderContract with resourcePolicy := some ⟨"shop.item", .created, "itemRef", ["cartRef"], 3600⟩ }

def cartShop : FixtureSystem :=
  { shop with db := { shop.db with
      atoms := [⟨80, orderContract, 7⟩, ⟨81, cartContract, 8⟩, ⟨82, itemContract, 9⟩] } }

theorem cartShop_fresh : cartShop.Fresh := by constructor <;> rfl

/-- The item is created in the cart `c`. -/
def cartWorker : FixtureWorker :=
  { shopWorker with resolveInputs := fun _ _ node =>
      if node.nodeId = "item" then .ok [("cartRef", some "c")] else .ok [] }

def cartStart : FixtureStart where
  projectId := 10
  runKind := .execution
  compiledPlan := ⟨[⟨"order", 80, 7⟩, ⟨"cart", 81, 8⟩, ⟨"item", 82, 9⟩],
    [["order", "cart"], ["item"]], ["item", "cart", "order"]⟩
  executionDeadline := seconds 30
  bindings := [⟨"buyer", 90, 1, 50⟩]
  nodes := [⟨"order", 80, "buyer", "o"⟩, ⟨"cart", 81, "buyer", "c"⟩, ⟨"item", 82, "buyer", "i"⟩]

def cartStarted : TracedSystem := TracedSystem.apply cartWorker (.create cartStart 0) ⟨cartShop, []⟩

theorem traced_snoc {worker : FixtureWorker} {ok : FixtureEvent → FixtureSystem → Prop}
    {t t' : TracedSystem} (hrun : TracedRun worker ok t t') (e : FixtureEvent)
    (henabled : e.Enabled t'.system) (hok : ok e t'.system) :
    TracedRun worker ok t (t'.apply worker e) :=
  hrun.tail ⟨e, henabled, hok, rfl⟩

theorem cartStarted_run (ok : FixtureEvent → FixtureSystem → Prop)
    (hok : ok (.create cartStart 0) cartShop) :
    TracedRun cartWorker ok ⟨cartShop, []⟩ cartStarted :=
  traced_snoc .refl (.create cartStart 0) trivial hok

/-- The claim, the call and the record of one execution. -/
def created (nodeId : String) (outputs : PortValues) (now : Instant) (t : TracedSystem) :
    TracedSystem :=
  let claimed := t.apply cartWorker (.claimNode 100 nodeId now)
  match claimed.system.executions with
  | [] => claimed
  | claim :: _ =>
    let sent := claimed.apply cartWorker (.send claim)
    let answered := sent.apply cartWorker (.answer claim.attempt.id .applied)
    answered.apply cartWorker (.recordOutcome claim ⟨outputs, none⟩ now)

section Created

variable {ok : FixtureEvent → FixtureSystem → Prop} {t₀ t : TracedSystem} {nodeId : String}
  {outputs : PortValues} {now : Instant} {claim : NodeExecutionClaim}
  {rest : List NodeExecutionClaim}

theorem created_run (hrun : TracedRun cartWorker ok t₀ t)
    (hexecutions : (t.apply cartWorker (.claimNode 100 nodeId now)).system.executions = claim :: rest)
    (hphase : claim.phase = .execute)
    (hnew : ∀ call ∈ (t.apply cartWorker (.claimNode 100 nodeId now)).system.calls,
      call.attemptId ≠ claim.attempt.id)
    (hok : ∀ e s, recordsResource e = false → ok e s)
    (hrecord : ok (.recordOutcome claim ⟨outputs, none⟩ now)
      (((t.apply cartWorker (.claimNode 100 nodeId now)).apply cartWorker (.send claim)).apply
        cartWorker (.answer claim.attempt.id .applied)).system) :
    TracedRun cartWorker ok t₀ (created nodeId outputs now t) := by
  have hmem : claim ∈ (t.apply cartWorker (.claimNode 100 nodeId now)).system.executions :=
    hexecutions ▸ List.mem_cons_self
  have hclaimed := traced_snoc hrun (.claimNode 100 nodeId now) trivial (hok _ _ rfl)
  have hsent := traced_snoc hclaimed (.send claim) ⟨hmem, hphase, hnew⟩ (hok _ _ rfl)
  have hunanswered : FixtureEvent.Enabled ((t.apply cartWorker (.claimNode 100 nodeId now)).apply
      cartWorker (.send claim)).system (.answer claim.attempt.id .applied) := by
    intro call hcall heq
    rcases List.mem_append.1 hcall with hcall | hcall
    · exact absurd heq (hnew call hcall)
    · rw [List.mem_singleton.1 hcall]
  have hanswered := traced_snoc hsent (.answer claim.attempt.id .applied) hunanswered (hok _ _ rfl)
  have hcall : ∃ call ∈ (((t.apply cartWorker (.claimNode 100 nodeId now)).apply cartWorker
      (.send claim)).apply cartWorker (.answer claim.attempt.id .applied)).system.calls,
      call.attemptId = claim.attempt.id ∧ call.answer = some .applied := by
    refine ⟨_, List.mem_map_of_mem (List.mem_append_right _ (List.mem_singleton_self _)), ?_⟩
    simp
  have hrecorded := traced_snoc hanswered (.recordOutcome claim ⟨outputs, none⟩ now)
    ⟨hmem, hphase, hcall⟩ hrecord
  simp only [created, hexecutions]
  exact hrecorded

end Created

theorem recordsPlainly_of_quiet (e : FixtureEvent) (s : FixtureSystem)
    (he : recordsResource e = false) : RecordsPlainly e s := by
  cases e with
  | recordOutcome | reconcileFound => cases he
  | _ => trivial

theorem entersPlainly_of_all {s : FixtureSystem} {runId : Uuid} {atom : DataAtomVersion}
    {inputs outputs : PortValues}
    (hdistinct : (atom.contract.resourcePolicy.all fun policy => s.db.resources.all fun r =>
      textAt outputs policy.resourceRefOutput ≠ some r.opaqueRef) = true)
    (hcleanups : s.cleanups = []) : EntersPlainly s runId atom inputs outputs := by
  refine ⟨fun policy hpolicy r hr _ => ?_, fun r _ _ _ claim hclaim => ?_⟩
  · rw [hpolicy, Option.all_some, List.all_eq_true] at hdistinct
    exact of_decide_eq_true (hdistinct r hr)
  · rw [hcleanups] at hclaim
    cases hclaim

def inCleanup (t : TracedSystem) : TracedSystem :=
  (t.apply cartWorker (.cancel shopOperator 100 4)).apply cartWorker (.beginCanceledCleanup 100 5)

theorem inCleanup_run {ok : FixtureEvent → FixtureSystem → Prop} {t₀ t : TracedSystem}
    (hrun : TracedRun cartWorker ok t₀ t) (hok : ∀ e s, recordsResource e = false → ok e s) :
    TracedRun cartWorker ok t₀ (inCleanup t) :=
  traced_snoc (traced_snoc hrun (.cancel shopOperator 100 4) trivial (hok _ _ rfl))
    (.beginCanceledCleanup 100 5) trivial (hok _ _ rfl)

/-! The cart alone, and its item. -/

def cartMade : TracedSystem := created "cart" [("cartRef", some "c")] 1 cartStarted

def cartClaim : NodeExecutionClaim :=
  (cartStarted.apply cartWorker (.claimNode 100 "cart" 1)).system.executions.head
    (by decide)

theorem cartMade_run : TracedRun cartWorker RecordsPlainly ⟨cartShop, []⟩ cartMade := by
  have hexecutions : (cartStarted.apply cartWorker (.claimNode 100 "cart" 1)).system.executions =
      cartClaim :: _ := (List.cons_head_tail _).symm
  refine created_run (cartStarted_run _ trivial) hexecutions (by decide) (by decide)
    recordsPlainly_of_quiet ?_
  exact entersPlainly_of_all (by decide) (by decide)

def itemMade : TracedSystem := created "item" [("itemRef", some "i")] 2 cartMade

def itemClaim : NodeExecutionClaim :=
  (cartMade.apply cartWorker (.claimNode 100 "item" 2)).system.executions.head (by decide)

theorem itemMade_run : TracedRun cartWorker RecordsPlainly ⟨cartShop, []⟩ itemMade := by
  have hexecutions : (cartMade.apply cartWorker (.claimNode 100 "item" 2)).system.executions =
      itemClaim :: _ := (List.cons_head_tail _).symm
  refine created_run cartMade_run hexecutions (by decide) (by decide)
    recordsPlainly_of_quiet ?_
  exact entersPlainly_of_all (by decide) (by decide)

def itemCleaning : TracedSystem :=
  (inCleanup itemMade).apply cartWorker
    (.claimCleanup ((inCleanup itemMade).system.db.resources.getLast (by decide)) "w1" 6)

def itemCleanup : CleanupClaim := itemCleaning.system.cleanups.head (by decide)

def itemCleaned : TracedSystem := itemCleaning.apply cartWorker (.completeCleanup itemCleanup none 7)

def cartCleaning : TracedSystem :=
  itemCleaned.apply cartWorker
    (.claimCleanup (itemCleaned.system.db.resources.head (by decide)) "w1" 8)

/-- The cart is claimed once its item is CLEANED. -/
theorem cart_cleaned_last : (∃ claim ∈ cartCleaning.system.cleanups,
    claim.resource.resourceType = "shop.cart") ∧ ChildrenFirst cartCleaning := by
  have hcleanup := inCleanup_run itemMade_run recordsPlainly_of_quiet
  have hcleaning : TracedRun cartWorker RecordsPlainly ⟨cartShop, []⟩ itemCleaning :=
    traced_snoc hcleanup (.claimCleanup _ "w1" 6) trivial trivial
  have hcleaned := traced_snoc hcleaning (.completeCleanup itemCleanup none 7) (List.head_mem _)
    trivial
  exact ⟨by decide, children_cleaned_first cartShop_fresh
    (traced_snoc hcleaned (.claimCleanup _ "w1" 8) trivial trivial)⟩

/-! The order that is created first has the reference `c` too. -/

def orderMade : TracedSystem := created "order" [("orderRef", some "c")] 1 cartStarted

def twinsMade : TracedSystem := created "cart" [("cartRef", some "c")] 2 orderMade

def twinItemMade : TracedSystem := created "item" [("itemRef", some "i")] 3 twinsMade

def orderTwin : NodeExecutionClaim :=
  (cartStarted.apply cartWorker (.claimNode 100 "order" 1)).system.executions.head
    (by decide)

def cartTwin : NodeExecutionClaim :=
  (orderMade.apply cartWorker (.claimNode 100 "cart" 2)).system.executions.head (by decide)

def itemOfTwin : NodeExecutionClaim :=
  (twinsMade.apply cartWorker (.claimNode 100 "item" 3)).system.executions.head (by decide)

theorem twinItemMade_run : TracedRun cartWorker (fun _ _ => True) ⟨cartShop, []⟩ twinItemMade := by
  have hfirst : (cartStarted.apply cartWorker (.claimNode 100 "order" 1)).system.executions =
      orderTwin :: _ := (List.cons_head_tail _).symm
  have horder : TracedRun cartWorker (fun _ _ => True) ⟨cartShop, []⟩ orderMade :=
    created_run (cartStarted_run _ trivial) hfirst (by decide) (by decide)
      (fun _ _ _ => trivial) trivial
  have hsecond : (orderMade.apply cartWorker (.claimNode 100 "cart" 2)).system.executions =
      cartTwin :: _ := (List.cons_head_tail _).symm
  have htwins : TracedRun cartWorker (fun _ _ => True) ⟨cartShop, []⟩ twinsMade :=
    created_run horder hsecond (by decide) (by decide) (fun _ _ _ => trivial) trivial
  have hthird : (twinsMade.apply cartWorker (.claimNode 100 "item" 3)).system.executions =
      itemOfTwin :: _ := (List.cons_head_tail _).symm
  exact created_run htwins hthird (by decide) (by decide) (fun _ _ _ => trivial)
    trivial

def twinCleaning : TracedSystem :=
  (inCleanup twinItemMade).apply cartWorker
    (.claimCleanup ((inCleanup twinItemMade).system.db.resources.get ⟨1, by decide⟩) "w1" 6)

/-- The item was created in the cart `c`, and the ledger takes the order `c` for its parent: the
cart is handed out for cleanup while its item still stands. -/
theorem cart_cleaned_under_its_item : cartShop.Fresh ∧
    TracedRun cartWorker (fun _ _ => True) ⟨cartShop, []⟩ twinCleaning ∧
      (∃ claim ∈ twinCleaning.system.cleanups, claim.resource.resourceType = "shop.cart") ∧
        ¬ ChildrenFirst twinCleaning := by
  have hcleanup := inCleanup_run twinItemMade_run fun _ _ _ => trivial
  refine ⟨cartShop_fresh, traced_snoc hcleanup (.claimCleanup _ "w1" 6) trivial trivial,
    by decide, fun hfirst => ?_⟩
  have hitem : ∃ claim ∈ twinCleaning.system.cleanups, ∃ r ∈ twinCleaning.system.db.resources,
      r.id = claim.resource.id ∧ ∃ x ∈ twinCleaning.system.db.resources,
        x.fixtureRunId = r.fixtureRunId ∧ ⟨x.id, r.opaqueRef⟩ ∈ twinCleaning.passed ∧
          x.status ≠ .cleaned := by decide
  obtain ⟨claim, hclaim, r, hr, heq, x, hx, hrun, hpassed, hstatus⟩ := hitem
  exact hstatus (hfirst.order claim hclaim r hr heq x hx hrun hpassed)

end Atlas.Proofs.CleanupOrder
