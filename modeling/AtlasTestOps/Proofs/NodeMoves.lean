import AtlasTestOps.Proofs.FixtureWrites

/-! What each event does to the nodes of the fixture runs and to their attempts: the row it
moves, the state that row was in, and the attempt it opens or closes. -/

namespace Atlas.Proofs

open Atlas Atlas.Identity Atlas.Fixture Atlas.Store Atlas.Service Txn

/-- The tables that hold the nodes. -/
structure NodeTables where
  nodes : List DataNodeRun
  attempts : List DataNodeAttempt
  reconcileAttempts : List DataNodeReconcileAttempt

def nodeTables (db : FixtureDb) : NodeTables := ⟨db.nodes, db.attempts, db.reconcileAttempts⟩

def modifyNode (id : Uuid) (f : DataNodeRun → DataNodeRun) (t : NodeTables) : NodeTables :=
  { t with nodes := Table.modify DataNodeRun.id id f t.nodes }

def mapAttempts (f : DataNodeAttempt → DataNodeAttempt) (t : NodeTables) : NodeTables :=
  { t with attempts := t.attempts.map f }

def mapReconciles (f : DataNodeReconcileAttempt → DataNodeReconcileAttempt) (t : NodeTables) :
    NodeTables :=
  { t with reconcileAttempts := t.reconcileAttempts.map f }

def addNodes (new : List DataNodeRun) (t : NodeTables) : NodeTables :=
  { t with nodes := t.nodes ++ new }

def addAttempt (a : DataNodeAttempt) (t : NodeTables) : NodeTables :=
  { t with attempts := t.attempts ++ [a] }

def addReconcile (a : DataNodeReconcileAttempt) (t : NodeTables) : NodeTables :=
  { t with reconcileAttempts := t.reconcileAttempts ++ [a] }

/-- The last event of a lookup closes its attempt whatever the node has become. -/
def closeLookup (claim : NodeReconcileClaim) (status : DataNodeReconcileAttemptStatus)
    (failure : Option FixtureFailure) (providerRequestId : Option String) (now : Instant)
    (t : NodeTables) : NodeTables :=
  mapReconciles (closedReconcileAttempt claim.reconcileAttempt.id status failure providerRequestId
    now) t

/-- The recovery of stale lookups, row by row. -/
def recoverNode (stale : List DataNodeReconcileAttempt) (maxAttempts : ℕ) (now : Instant)
    (n : DataNodeRun) : DataNodeRun :=
  if n.id ∈ stale.map DataNodeReconcileAttempt.dataNodeRunId ∧ n.status = .outcomeUncertain ∧
      n.reconcileState = .running then
    expireReconcileClaim maxAttempts now n
  else n

def recoverLookups (stale : List DataNodeReconcileAttempt) (maxAttempts : ℕ) (now : Instant)
    (t : NodeTables) : NodeTables :=
  { mapReconciles (expireReconcileAttempt (stale.map DataNodeReconcileAttempt.id) now) t with
    nodes := t.nodes.map (recoverNode stale maxAttempts now) }

/-- The lease bound to the actor of the node is ACTIVE. -/
def BoundActive (db : FixtureDb) (runId : Uuid) (n : DataNodeRun) : Prop :=
  ∃ binding, db.getBindingRecord runId n.actorSlot = some binding ∧ binding.leaseStatus = .active

/-- What an event does to the node tables. -/
inductive NodeMove (db db' : FixtureDb) : FixtureEvent → Prop
  | kept {e} (htables : nodeTables db' = nodeTables db) : NodeMove db db' e
  | created {start now} (new : List DataNodeRun)
      (hnew : ∀ n ∈ new, ∃ id planned, n = pendingNode id db.nextId planned)
      (hids : new.map DataNodeRun.id = List.range' (db.nextId + 1) new.length)
      (htables : nodeTables db' = addNodes new (nodeTables db))
      (hnext : db'.nextId = db.nextId + 1 + new.length) : NodeMove db db' (.create start now)
  | started {runId nodeId now} (n : DataNodeRun) (inputs : PortValues)
      (hfind : db.getNodeRecord runId nodeId = some n) (hstatus : n.status ∈ [.pending, .ready])
      (hbound : BoundActive db runId n)
      (htables : nodeTables db' = addAttempt (runningAttempt db.nextId n.id (n.attemptCount + 1) now)
        (modifyNode n.id (startNode inputs now) (nodeTables db)))
      (hnext : db'.nextId = db.nextId + 1) : NodeMove db db' (.claimNode runId nodeId now)
  | abandoned {runId nodeId now} (n : DataNodeRun) (a : DataNodeAttempt)
      (hfind : db.getNodeRecord runId nodeId = some n) (hstatus : n.status = .running)
      (hattempt : db.getRunningAttempt n.id = some a)
      (htables : nodeTables db' = modifyNode n.id (failNode true replayUncertain now)
        (mapAttempts (closedAttempt a.id .outcomeUncertain (some replayUncertain) none now)
          (nodeTables db))) : NodeMove db db' (.claimNode runId nodeId now)
  | failedIdle {runId nodeId failure now} (n : DataNodeRun)
      (hfind : db.getNodeRecord runId nodeId = some n) (hstatus : n.status ∈ [.pending, .ready])
      (htables : nodeTables db' = modifyNode n.id (failIdleNode failure now) (nodeTables db)) :
      NodeMove db db' (.failUnclaimed runId nodeId failure now)
  | verifying {claim result now} (n : DataNodeRun) (a : DataNodeAttempt)
      (hfind : db.getNodeRecord claim.run.id claim.node.nodeId = some n)
      (hstatus : n.status = .running) (hattempt : db.getRunningAttempt n.id = some a)
      (htables : nodeTables db' = modifyNode n.id (verifyNode result.outputs) (nodeTables db)) :
      NodeMove db db' (.recordOutcome claim result now)
  | failed {claim uncertain failure providerRequestId now} (n : DataNodeRun) (a : DataNodeAttempt)
      (hfind : db.getNodeRecord claim.run.id claim.node.nodeId = some n)
      (hstatus : n.status ∈ [.running, .verifying]) (hattempt : db.getRunningAttempt n.id = some a)
      (htables : nodeTables db' = modifyNode n.id (failNode uncertain failure now)
        (mapAttempts (closedAttempt a.id (if uncertain then .outcomeUncertain else .failed)
          (some failure) providerRequestId now) (nodeTables db))) :
      NodeMove db db' (.failClaim claim uncertain failure providerRequestId now)
  | succeeded {claim providerRequestId now} (n : DataNodeRun) (a : DataNodeAttempt)
      (hfind : db.getNodeRecord claim.run.id claim.node.nodeId = some n)
      (hstatus : n.status = .verifying) (hattempt : db.getRunningAttempt n.id = some a)
      (htables : nodeTables db' = modifyNode n.id (succeedNode now)
        (mapAttempts (closedAttempt a.id .succeeded none providerRequestId now) (nodeTables db))) :
      NodeMove db db' (.completeNode claim providerRequestId now)
  | lookupStarted {runId nodeId now} (n : DataNodeRun)
      (hfind : db.getNodeRecord runId nodeId = some n) (hdue : reconcileDue now n = true)
      (htables : nodeTables db' =
        addReconcile (runningReconcileAttempt db.nextId n.id (n.reconcileAttemptCount + 1) now)
          (modifyNode n.id startLookup (nodeTables db)))
      (hnext : db'.nextId = db.nextId + 1) : NodeMove db db' (.claimReconcile runId nodeId now)
  | absent {claim providerRequestId now} (n : DataNodeRun) (retryCreate : Bool)
      (hfind : db.getNodeRecord claim.run.id claim.node.nodeId = some n)
      (hstatus : n.status = .outcomeUncertain) (hreconcile : n.reconcileState = .running)
      (hretry : retryCreate = true → n.attemptCount < claim.atom.contract.maxAttempts)
      (htables : nodeTables db' = modifyNode n.id (proveAbsent now retryCreate)
        (closeLookup claim .absent none providerRequestId now (nodeTables db))) :
      NodeMove db db' (.reconcileAbsent claim providerRequestId now)
  | inconclusive {claim status failure providerRequestId retryable retryAfter now} (n : DataNodeRun)
      (reported : FixtureFailure) (retryAt : Option Instant)
      (hfind : db.getNodeRecord claim.run.id claim.node.nodeId = some n)
      (hstatus : n.status = .outcomeUncertain) (hreconcile : n.reconcileState = .running)
      (htables : nodeTables db' = modifyNode n.id (leaveUncertain reported retryAt)
        (closeLookup claim status (some reported) providerRequestId now (nodeTables db))) :
      NodeMove db db'
        (.reconcileInconclusive claim status failure providerRequestId retryable retryAfter now)
  | found {claim outputs providerRequestId now} (n : DataNodeRun)
      (hfind : db.getNodeRecord claim.run.id claim.node.nodeId = some n)
      (hstatus : n.status = .outcomeUncertain) (hreconcile : n.reconcileState = .running)
      (htables : nodeTables db' = modifyNode n.id (findOutputs outputs)
        (closeLookup claim .found none providerRequestId now (nodeTables db))) :
      NodeMove db db' (.reconcileFound claim outputs providerRequestId now)
  | failedFound {claim failure now} (n : DataNodeRun)
      (hfind : db.getNodeRecord claim.run.id claim.node.nodeId = some n)
      (hstatus : n.status = .verifying) (hreconcile : n.reconcileState = .found)
      (htables : nodeTables db' = modifyNode n.id (failFoundNode failure now) (nodeTables db)) :
      NodeMove db db' (.failReconciled claim failure now)
  | succeededFound {claim providerRequestId now} (n : DataNodeRun)
      (hfind : db.getNodeRecord claim.run.id claim.node.nodeId = some n)
      (hstatus : n.status = .verifying)
      (htables : nodeTables db' = modifyNode n.id (succeedNode now)
        (mapAttempts (closedAttempt claim.createAttempt.id .succeeded none providerRequestId now)
          (nodeTables db))) :
      NodeMove db db' (.completeReconciled claim providerRequestId now)
  | recovered {now limit} (maxAttempts : ℕ) (stale : List DataNodeReconcileAttempt)
      (hstale : ∀ a ∈ stale, a ∈ db.reconcileAttempts ∧ a.status = .running ∧ ∃ n ∈ db.nodes,
        n.id = a.dataNodeRunId ∧ n.status = .outcomeUncertain ∧ n.reconcileState = .running)
      (htables : nodeTables db' = recoverLookups stale maxAttempts now (nodeTables db)) :
      NodeMove db db' (.recoverClaims now limit)

/-! ### Events that leave the nodes alone -/

def SameNodes (db db' : FixtureDb) : Prop := nodeTables db' = nodeTables db

instance : Std.Refl SameNodes := ⟨fun _ => rfl⟩

instance : IsTrans FixtureDb SameNodes := ⟨fun _ _ _ h₁ h₂ => Eq.trans h₂ h₁⟩

theorem outsideNodes_sameNodes : OutsideNodes SameNodes where
  runs p f _ := runTable.within_guarded p f fun _ _ => rfl
  resources p f := resourceTable.within_guarded p f fun _ _ => rfl
  cleanupAttempts _ := Within.update fun _ => rfl
  leases _ := Within.update fun _ => rfl
  newId := Within.bind (Within.read _) fun _ =>
    Within.bind (Within.update fun _ => rfl) fun _ => Within.pure _

theorem sameNodes_recordResource (resource : ResourceRecord) (parentIds : List Uuid) :
    Within SameNodes (recordResource resource parentIds) :=
  Within.bind (Within.read _) fun _ => Within.bind (Within.raiseIf _ _) fun _ =>
    Within.update fun _ => rfl

/-! ### One row of the node table -/

section Rows

variable {db db' : FixtureDb} {n m : DataNodeRun}

theorem mem_of_getNodeRecord {runId : Uuid} {nodeId : String}
    (h : db.getNodeRecord runId nodeId = some n) : n ∈ db.nodes :=
  List.mem_of_find?_eq_some h

theorem getNodeRecord_run {runId : Uuid} {nodeId : String}
    (h : db.getNodeRecord runId nodeId = some n) : n.fixtureRunId = runId := by
  have hp := List.find?_some h
  simp only [decide_eq_true_eq] at hp
  exact hp.1

@[simp] theorem nodeAt_self {statuses : List DataNodeRunStatus} :
    nodeAt n statuses n = decide (n.status ∈ statuses) := by
  simp [nodeAt]

theorem nodeAt_id {statuses : List DataNodeRunStatus} (h : nodeAt n statuses m = true) :
    m.id = n.id := by
  unfold nodeAt at h
  simp only [Bool.and_eq_true, decide_eq_true_eq] at h
  exact h.1.1

/-- An update that names the node rewrites its row or none. -/
theorem commits_updateNode {p : DataNodeRun → Bool} {f : DataNodeRun → DataNodeRun}
    {out : List DataNodeRun} (h : Commits (nodeTable.update p f) db out db')
    (hp : ∀ m, p m = true → m.id = n.id) (hids : (db.nodes.map DataNodeRun.id).Nodup)
    (hn : n ∈ db.nodes) :
    (p n = true ∧ out = [f n] ∧
      db' = { db with nodes := Table.modify DataNodeRun.id n.id f db.nodes }) ∨
    (p n = false ∧ out = [] ∧ db' = db) := by
  have hkeyed := (nodeTable.commits_keyed p f hids hn hp).1 h
  rcases hkeyed with ⟨hpn, -, hout, hdb⟩ | ⟨hpn, hout, hdb⟩
  · exact Or.inl ⟨hpn, hout, hdb⟩
  · exact Or.inr ⟨hpn, hout, hdb⟩

theorem commits_updateNode_head {p : DataNodeRun → Bool} {f : DataNodeRun → DataNodeRun}
    {out : List DataNodeRun} (h : Commits (nodeTable.update p f) db out db')
    (hp : ∀ m, p m = true → m.id = n.id) (hids : (db.nodes.map DataNodeRun.id).Nodup)
    (hn : n ∈ db.nodes) (hm : some m = out.head?) :
    p n = true ∧ m = f n ∧
      db' = { db with nodes := Table.modify DataNodeRun.id n.id f db.nodes } := by
  rcases commits_updateNode h hp hids hn with ⟨hpn, rfl, hdb⟩ | ⟨-, rfl, -⟩
  · exact ⟨hpn, Option.some.inj hm, hdb⟩
  · simp at hm

variable {now : Instant} {providerRequestId : Option String} {failure : FixtureFailure}

theorem commits_completeNodeSuccess (hids : (db.nodes.map DataNodeRun.id).Nodup)
    (hn : n ∈ db.nodes) {attemptId : Uuid}
    (h : Commits (completeNodeSuccess n attemptId providerRequestId now) db (some m) db') :
    n.status = .verifying ∧ nodeTables db' = modifyNode n.id (succeedNode now)
      (mapAttempts (closedAttempt attemptId .succeeded none providerRequestId now)
        (nodeTables db)) := by
  unfold completeNodeSuccess closeAttempt at h
  simp only [commits_bind, commits_update, commits_pure] at h
  obtain ⟨-, _, rfl, rows, _, hrows, hm, rfl⟩ := h
  obtain ⟨hpn, -, rfl⟩ := commits_updateNode_head hrows (fun _ => nodeAt_id) hids hn hm
  simp only [nodeAt_self, List.mem_singleton, decide_eq_true_eq] at hpn
  exact ⟨hpn, rfl⟩

theorem commits_completeNodeFailure (hids : (db.nodes.map DataNodeRun.id).Nodup)
    (hn : n ∈ db.nodes) {attemptId : Uuid} {uncertain : Bool}
    (h : Commits (completeNodeFailure n attemptId uncertain failure providerRequestId now) db
      (some m) db') :
    n.status ∈ [.running, .verifying] ∧ nodeTables db' =
      modifyNode n.id (failNode uncertain failure now)
        (mapAttempts (closedAttempt attemptId (if uncertain then .outcomeUncertain else .failed)
          (some failure) providerRequestId now) (nodeTables db)) := by
  unfold completeNodeFailure closeAttempt at h
  simp only [commits_bind, commits_update, commits_pure] at h
  obtain ⟨-, _, rfl, rows, _, hrows, hm, rfl⟩ := h
  obtain ⟨hpn, -, rfl⟩ := commits_updateNode_head hrows (fun _ => nodeAt_id) hids hn hm
  simp only [nodeAt_self, decide_eq_true_eq] at hpn
  exact ⟨hpn, rfl⟩

theorem commits_failNodeWithoutAttempt (hids : (db.nodes.map DataNodeRun.id).Nodup)
    (hn : n ∈ db.nodes)
    (h : Commits (failNodeWithoutAttempt n failure now) db (some m) db') :
    n.status ∈ [.pending, .ready] ∧
      nodeTables db' = modifyNode n.id (failIdleNode failure now) (nodeTables db) := by
  unfold failNodeWithoutAttempt at h
  simp only [commits_bind, commits_pure] at h
  obtain ⟨rows, _, hrows, hm, rfl⟩ := h
  obtain ⟨hpn, -, rfl⟩ := commits_updateNode_head hrows (fun _ => nodeAt_id) hids hn hm
  simp only [nodeAt_self, decide_eq_true_eq] at hpn
  exact ⟨hpn, rfl⟩

theorem commits_markNodeVerifying (hids : (db.nodes.map DataNodeRun.id).Nodup)
    (hn : n ∈ db.nodes) {outputs : PortValues}
    (h : Commits (markNodeVerifying n outputs) db (some m) db') :
    n.status = .running ∧ m = verifyNode outputs n ∧
      db' = { db with nodes := Table.modify DataNodeRun.id n.id (verifyNode outputs) db.nodes } := by
  unfold markNodeVerifying at h
  simp only [commits_bind, commits_pure] at h
  obtain ⟨rows, _, hrows, hm, rfl⟩ := h
  obtain ⟨hpn, hm, rfl⟩ := commits_updateNode_head hrows (fun _ => nodeAt_id) hids hn hm
  simp only [nodeAt_self, List.mem_singleton, decide_eq_true_eq] at hpn
  exact ⟨hpn, hm, rfl⟩

/-- The start of an attempt leaves the other tables of the nodes alone, the run apart. -/
theorem commits_startNodeAttempt {run : FixtureRun} {attemptId : Uuid} {inputs : PortValues}
    {a : DataNodeAttempt}
    (h : Commits (startNodeAttempt run n attemptId inputs now) db (some (m, a)) db')
    (hids : (db.nodes.map DataNodeRun.id).Nodup) (hn : n ∈ db.nodes) :
    n.status ∈ [.pending, .ready] ∧ m = startNode inputs now n ∧
      a = runningAttempt attemptId n.id (n.attemptCount + 1) now ∧
      nodeTables db' = addAttempt a (modifyNode n.id (startNode inputs now) (nodeTables db)) ∧
      db'.nextId = db.nextId := by
  unfold startNodeAttempt at h
  rw [commits_bind] at h
  obtain ⟨_, mid, hrun, h⟩ := h
  rw [commits_bind] at h
  obtain ⟨rows, last, hrows, h⟩ := h
  have hsame : nodeTables mid = nodeTables db :=
    within_startRun outsideNodes_sameNodes run now _ _ _ hrun
  have hnodes : mid.nodes = db.nodes := congrArg NodeTables.nodes hsame
  have hnext : mid.nextId = db.nextId := by
    unfold startRun at hrun
    simp only [commits_ite, GuardedTable.commits_guarded, commits_pure] at hrun
    rcases hrun with ⟨-, -, -, rfl⟩ | ⟨-, -, rfl⟩ <;> rfl
  have hmove := commits_updateNode hrows (fun _ => nodeAt_id) (hnodes ▸ hids) (hnodes ▸ hn)
  rcases hmove with ⟨hpn, rfl, rfl⟩ | ⟨-, rfl, -⟩
  · simp only [commits_bind, commits_update, commits_pure, Option.some.injEq, Prod.mk.injEq] at h
    obtain ⟨-, _, rfl, ⟨hm, ha⟩, rfl⟩ := h
    simp only [nodeAt_self, decide_eq_true_eq] at hpn
    refine ⟨hpn, hm, ha, ?_, hnext⟩
    subst ha
    rw [← hsame]
    rfl
  · simp at h

theorem commits_startReconcileAttempt {attemptId : Uuid}
    {out : Option (DataNodeRun × DataNodeReconcileAttempt)}
    (h : Commits (startReconcileAttempt n attemptId now) db out db')
    (hids : (db.nodes.map DataNodeRun.id).Nodup) (hn : n ∈ db.nodes) :
    (reconcileDue now n = true ∧
      out = some (startLookup n,
        runningReconcileAttempt attemptId n.id (n.reconcileAttemptCount + 1) now) ∧
      nodeTables db' =
        addReconcile (runningReconcileAttempt attemptId n.id (n.reconcileAttemptCount + 1) now)
          (modifyNode n.id startLookup (nodeTables db)) ∧ db'.nextId = db.nextId) ∨
    (out = none ∧ db' = db) := by
  unfold startReconcileAttempt at h
  rw [commits_bind] at h
  obtain ⟨rows, mid, hrows, h⟩ := h
  have hid : ∀ m : DataNodeRun, (decide (m.id = n.id) && decide (m.revision = n.revision) &&
      reconcileDue now m && decide (m.reconcileAttemptCount < 32)) = true → m.id = n.id := by
    intro m hm
    simp only [Bool.and_eq_true, decide_eq_true_eq] at hm
    exact hm.1.1.1
  rcases commits_updateNode hrows hid hids hn with ⟨hpn, rfl, rfl⟩ | ⟨-, rfl, rfl⟩
  · left
    simp only [commits_bind, commits_update, commits_pure] at h
    obtain ⟨-, _, rfl, rfl, rfl⟩ := h
    simp only [Bool.and_eq_true, decide_eq_true_eq] at hpn
    exact ⟨hpn.1.2, rfl, rfl, rfl⟩
  · right
    exact commits_pure.1 h

/-- The three answers of a lookup. -/
theorem commits_finishLookup (hids : (db.nodes.map DataNodeRun.id).Nodup) (hn : n ∈ db.nodes)
    {g : DataNodeReconcileAttempt → DataNodeReconcileAttempt} {f : DataNodeRun → DataNodeRun}
    (h : Commits (do
      update fun db => { db with reconcileAttempts := db.reconcileAttempts.map g }
      let rows ← nodeTable.update (reconcilingAt n) f
      pure rows.head? : FixtureOp (Option DataNodeRun)) db (some m) db') :
    n.status = .outcomeUncertain ∧ n.reconcileState = .running ∧ m = f n ∧
      db' = { db with reconcileAttempts := db.reconcileAttempts.map g
                      nodes := Table.modify DataNodeRun.id n.id f db.nodes } := by
  simp only [commits_bind, commits_update, commits_pure] at h
  obtain ⟨-, _, rfl, rows, _, hrows, hm, rfl⟩ := h
  have hid : ∀ m, reconcilingAt n m = true → m.id = n.id := by
    intro m hm
    unfold reconcilingAt at hm
    simp only [Bool.and_eq_true] at hm
    exact nodeAt_id hm.1
  obtain ⟨hpn, hm, rfl⟩ := commits_updateNode_head hrows hid hids hn hm
  unfold reconcilingAt at hpn
  simp only [nodeAt_self, List.mem_singleton, Bool.and_eq_true, decide_eq_true_eq] at hpn
  exact ⟨hpn.1, hpn.2, hm, rfl⟩

theorem commits_failReconciledNode (hids : (db.nodes.map DataNodeRun.id).Nodup)
    (hn : n ∈ db.nodes)
    (h : Commits (failReconciledNode n failure now) db (some m) db') :
    n.status = .verifying ∧ n.reconcileState = .found ∧
      nodeTables db' = modifyNode n.id (failFoundNode failure now) (nodeTables db) := by
  unfold failReconciledNode at h
  simp only [commits_bind, commits_pure] at h
  obtain ⟨rows, _, hrows, hm, rfl⟩ := h
  have hid : ∀ m, (nodeAt n [.verifying] m && decide (m.reconcileState = .found)) = true →
      m.id = n.id := by
    intro m hm
    simp only [Bool.and_eq_true] at hm
    exact nodeAt_id hm.1
  obtain ⟨hpn, -, rfl⟩ := commits_updateNode_head hrows hid hids hn hm
  simp only [nodeAt_self, List.mem_singleton, Bool.and_eq_true, decide_eq_true_eq] at hpn
  exact ⟨hpn.1, hpn.2, rfl⟩

theorem commits_newFixtureId {id : Uuid} :
    Commits newFixtureId db id db' ↔ id = db.nextId ∧ db' = { db with nextId := db.nextId + 1 } := by
  unfold newFixtureId
  simp only [commits_bind, commits_read, commits_update, commits_pure]
  constructor
  · rintro ⟨_, _, ⟨rfl, rfl⟩, _, _, rfl, rfl, rfl⟩
    exact ⟨rfl, rfl⟩
  · rintro ⟨rfl, rfl⟩
    exact ⟨_, _, ⟨rfl, rfl⟩, (), _, rfl, rfl, rfl⟩

end Rows

/-! ### The claim of a node -/

/-- How a claim of a node ends, and what the worker is handed. -/
inductive NodeClaimed (db db' : FixtureDb) (runId : Uuid) (nodeId : String) (now : Instant) :
    ClaimOutcome NodeExecutionClaim → Prop
  | answered (answer) (hdb : db' = db) : NodeClaimed db db' runId nodeId now (.result answer)
  | refused (failure) (hdb : db' = db) : NodeClaimed db db' runId nodeId now (.invalid failure)
  | abandoned (answer) (n : DataNodeRun) (a : DataNodeAttempt)
      (hfind : db.getNodeRecord runId nodeId = some n) (hstatus : n.status = .running)
      (hattempt : db.getRunningAttempt n.id = some a)
      (htables : nodeTables db' = modifyNode n.id (failNode true replayUncertain now)
        (mapAttempts (closedAttempt a.id .outcomeUncertain (some replayUncertain) none now)
          (nodeTables db))) : NodeClaimed db db' runId nodeId now (.result answer)
  | resumed (claim : NodeExecutionClaim) (hfind : db.getNodeRecord runId nodeId = some claim.node)
      (hstatus : claim.node.status = .verifying) (hphase : claim.phase = .verify)
      (hrun : claim.run.id = runId)
      (hattempt : db.getRunningAttempt claim.node.id = some claim.attempt) (hdb : db' = db) :
      NodeClaimed db db' runId nodeId now (.claimed claim)
  | started (claim : NodeExecutionClaim) (n : DataNodeRun) (inputs : PortValues)
      (hfind : db.getNodeRecord runId nodeId = some n) (hstatus : n.status ∈ [.pending, .ready])
      (hbound : BoundActive db runId n)
      (hphase : claim.phase = .execute) (hrun : claim.run.id = runId)
      (hnode : claim.node = startNode inputs now n)
      (hattempt : claim.attempt = runningAttempt db.nextId n.id (n.attemptCount + 1) now)
      (htables : nodeTables db' = addAttempt claim.attempt
        (modifyNode n.id (startNode inputs now) (nodeTables db)))
      (hnext : db'.nextId = db.nextId + 1) : NodeClaimed db db' runId nodeId now (.claimed claim)

section Claims

variable {db db' : FixtureDb} {worker : FixtureWorker} {runId : Uuid} {nodeId : String}
  {now : Instant}

theorem getRunRecord_id {run : FixtureRun} (h : db.getRunRecord runId = some run) :
    run.id = runId := by
  simpa using List.find?_some h

theorem boundActive_of_context {run : FixtureRun} {n : DataNodeRun}
    {context : DataAtomVersion × FixtureActorBindingRecord}
    (h : nodeContext worker db run n now = .ok context) : BoundActive db run.id n := by
  unfold nodeContext at h
  simp only [bind, Except.bind, pure, Except.pure] at h
  split at h
  · simp at h
  · split at h
    · simp at h
    · next binding hbound =>
      unfold boundActor at hbound
      split at hbound
      · simp at hbound
      · next record hrecord =>
        split at hbound
        · simp at hbound
        · next hvalid =>
          refine ⟨record, hrecord, ?_⟩
          unfold validateRuntimeBinding at hvalid
          by_contra hinactive
          rw [if_pos (Or.inl hinactive)] at hvalid
          simp at hvalid

theorem nodeClaimed_of_commits (hids : (db.nodes.map DataNodeRun.id).Nodup)
    {out : ClaimOutcome NodeExecutionClaim}
    (h : Commits (claimNode worker runId nodeId now) db out db') :
    NodeClaimed db db' runId nodeId now out := by
  unfold claimNode at h
  rw [commits_read_bind] at h
  cases hrun : db.getRunRecord runId with
  | none =>
    simp only [hrun, commits_pure] at h
    obtain ⟨rfl, rfl⟩ := h
    exact .refused _ rfl
  | some run =>
    cases hfind : db.getNodeRecord runId nodeId with
    | none =>
      simp only [hrun, hfind, commits_pure] at h
      obtain ⟨rfl, rfl⟩ := h
      exact .refused _ rfl
    | some n =>
      have hn := mem_of_getNodeRecord hfind
      simp only [hrun, hfind] at h
      rw [commits_ite] at h
      rcases h with ⟨-, h⟩ | ⟨hdone, h⟩
      · obtain ⟨rfl, rfl⟩ := commits_pure.1 h
        exact .answered _ rfl
      · rw [commits_read_bind] at h
        cases hcontext : nodeContext worker db run n now with
        | error failure =>
          simp only [hcontext, commits_pure] at h
          obtain ⟨rfl, rfl⟩ := h
          exact .refused _ rfl
        | ok context =>
          obtain ⟨atom, binding⟩ := context
          simp only [hcontext] at h
          rw [commits_raiseIf_bind, commits_ite, commits_ite] at h
          rcases h.2 with ⟨hverifying, h⟩ | ⟨hverifying, ⟨hrunning, h⟩ | ⟨hrunning, h⟩⟩
          · unfold resumeVerifying at h
            simp only [commits_read_bind, commits_demand_bind, commits_pure] at h
            obtain ⟨a, ha, inputs, -, outputs, -, rfl, rfl⟩ := h
            exact .resumed _ hfind hverifying rfl (getRunRecord_id hrun) ha rfl
          · unfold abandonRunning at h
            rw [commits_read_bind, commits_demand_bind] at h
            obtain ⟨a, ha, h⟩ := h
            rw [commits_bind] at h
            obtain ⟨_, _, hfail, h⟩ := h
            simp only [commits_demand_bind, commits_pure] at h
            obtain ⟨m, rfl, rfl, rfl⟩ := h
            obtain ⟨-, htables⟩ := commits_completeNodeFailure hids hn hfail
            exact .abandoned _ n a hfind hrunning ha htables
          · unfold startExecution at h
            rw [commits_read_bind] at h
            cases hinputs : claimInputs worker db run n atom with
            | error failure =>
              simp only [hinputs, commits_pure] at h
              obtain ⟨rfl, rfl⟩ := h
              exact .refused _ rfl
            | ok inputs =>
              simp only [hinputs] at h
              rw [commits_bind] at h
              obtain ⟨attemptId, _, hid, h⟩ := h
              obtain ⟨rfl, rfl⟩ := commits_newFixtureId.1 hid
              rw [commits_bind] at h
              obtain ⟨_, _, hstart, h⟩ := h
              rw [commits_demand_bind] at h
              obtain ⟨⟨m, a⟩, rfl, h⟩ := h
              obtain ⟨rfl, rfl⟩ := commits_pure.1 h
              have hspec := commits_startNodeAttempt hstart hids hn
              obtain ⟨hstatus, hm, ha, htables, hnext⟩ := hspec
              have hid := getRunRecord_id hrun
              exact .started _ n inputs hfind hstatus (hid ▸ boundActive_of_context hcontext) rfl hid
                hm ha htables hnext

/-- How a claim of a lookup ends. -/
inductive LookupClaimed (db db' : FixtureDb) (runId : Uuid) (nodeId : String) (now : Instant) :
    ClaimOutcome NodeReconcileClaim → Prop
  | refused {out} (hnone : ∀ claim, out ≠ .claimed claim) (htables : nodeTables db' = nodeTables db) :
      LookupClaimed db db' runId nodeId now out
  | started (claim : NodeReconcileClaim) (n : DataNodeRun)
      (hfind : db.getNodeRecord runId nodeId = some n) (hdue : reconcileDue now n = true)
      (hrun : claim.run.id = runId) (hnode : claim.node = startLookup n)
      (hatom : db.getAtomVersion n.atomVersionId = some claim.atom)
      (hattempt : claim.reconcileAttempt =
        runningReconcileAttempt db.nextId n.id (n.reconcileAttemptCount + 1) now)
      (htables : nodeTables db' = addReconcile claim.reconcileAttempt
        (modifyNode n.id startLookup (nodeTables db)))
      (hnext : db'.nextId = db.nextId + 1) : LookupClaimed db db' runId nodeId now (.claimed claim)

theorem frozenAtom_eq {run : FixtureRun} {n : DataNodeRun} {atom : DataAtomVersion}
    (h : frozenAtom db run n = .ok atom) : db.getAtomVersion n.atomVersionId = some atom := by
  unfold frozenAtom at h
  split at h
  · simp at h
  · split at h
    · simp at h
    · next atom' hatom =>
      split at h
      · rw [hatom]
        exact congrArg some (Except.ok.inj h)
      · simp at h

theorem lookupClaimed_of_commits (hids : (db.nodes.map DataNodeRun.id).Nodup)
    {out : ClaimOutcome NodeReconcileClaim}
    (h : Commits (claimReconcile worker runId nodeId now) db out db') :
    LookupClaimed db db' runId nodeId now out := by
  unfold claimReconcile at h
  rw [commits_read_bind] at h
  cases hrun : db.getRunRecord runId with
  | none =>
    simp only [hrun, commits_pure] at h
    obtain ⟨rfl, rfl⟩ := h
    exact .refused (by simp) rfl
  | some run =>
    cases hfind : db.getNodeRecord runId nodeId with
    | none =>
      simp only [hrun, hfind, commits_pure] at h
      obtain ⟨rfl, rfl⟩ := h
      exact .refused (by simp) rfl
    | some n =>
      have hn := mem_of_getNodeRecord hfind
      simp only [hrun, hfind] at h
      rw [commits_ite] at h
      rcases h with ⟨-, h⟩ | ⟨-, h⟩
      · obtain ⟨rfl, rfl⟩ := commits_pure.1 h
        exact .refused (by simp) rfl
      · rw [commits_read_bind] at h
        split at h
        · obtain ⟨rfl, rfl⟩ := commits_pure.1 h
          exact .refused (by simp) rfl
        · next atom binding createAttempt inputs hcontext =>
          simp only [Prod.mk.injEq] at hcontext
          split at h
          · obtain ⟨rfl, rfl⟩ := commits_pure.1 h
            exact .refused (by simp) rfl
          · rw [commits_raiseIf_bind, commits_bind] at h
            obtain ⟨-, attemptId, _, hid, h⟩ := h
            obtain ⟨rfl, rfl⟩ := commits_newFixtureId.1 hid
            rw [commits_bind] at h
            obtain ⟨started, _, hstart, h⟩ := h
            have hspec := commits_startReconcileAttempt hstart hids hn
            rcases hspec with ⟨hdue, rfl, htables, hnext⟩ | ⟨rfl, rfl⟩
            · obtain ⟨rfl, rfl⟩ := commits_pure.1 h
              exact .started _ n hfind hdue (getRunRecord_id hrun) rfl (frozenAtom_eq hcontext.1) rfl
                htables hnext
            · obtain ⟨rfl, rfl⟩ := commits_pure.1 h
              exact .refused (by simp) rfl
        · obtain ⟨rfl, rfl⟩ := commits_pure.1 h
          exact .refused (by simp) rfl

end Claims

/-! ### Reports -/

section Reports

variable {db db' : FixtureDb} {now : Instant} {providerRequestId : Option String}

/-- At most one resource of the run is new in the ledger. -/
def EntersResource (runId : Uuid) (db db' : FixtureDb) : Prop :=
  db'.resources = db.resources ∨
    ∃ resource, resource.fixtureRunId = runId ∧ db'.resources = db.resources ++ [resource]

theorem recordOutput_resources {runId nodeRunId attemptId connectorId : Uuid}
    {atom : DataAtomVersion} {policy : ResourcePolicy} {status : ResourceRecordStatus}
    {inputs outputs : PortValues} {u : Unit}
    (h : Commits (recordOutput runId nodeRunId attemptId connectorId atom policy status inputs outputs
      now) db u db') :
    ∃ resource, resource.fixtureRunId = runId ∧ db'.resources = db.resources ++ [resource] := by
  unfold recordOutput at h
  rw [commits_demand_bind] at h
  obtain ⟨opaqueRef, -, h⟩ := h
  rw [commits_bind] at h
  obtain ⟨parentIds, _, hparents, h⟩ := h
  obtain rfl := within_resolveParents (R := fun a b : FixtureDb => b = a) _ _ _ _ _ _ hparents
  rw [commits_bind] at h
  obtain ⟨id, _, hid, h⟩ := h
  obtain ⟨rfl, rfl⟩ := commits_newFixtureId.1 hid
  unfold recordResource at h
  rw [commits_read_bind, commits_raiseIf_bind] at h
  obtain rfl := commits_update.1 h.2
  exact ⟨_, rfl, rfl⟩

/-- What the record of a provider's answer does to the node, and the claim it hands on. -/
theorem recordOutcome_of_commits {claim out : NodeExecutionClaim} {result : FixtureOperationResult}
    (hids : (db.nodes.map DataNodeRun.id).Nodup)
    (h : Commits (recordProviderOutcome claim result now) db out db') :
    ∃ n a, db.getNodeRecord claim.run.id claim.node.nodeId = some n ∧ n.status = .running ∧
      db.getRunningAttempt n.id = some a ∧
      out = { claim with phase := .verify, node := verifyNode result.outputs n, attempt := a
                         outputs := some result.outputs } ∧
      nodeTables db' = modifyNode n.id (verifyNode result.outputs) (nodeTables db) ∧
      EntersResource claim.run.id db db' := by
  unfold recordProviderOutcome at h
  rw [commits_read_bind, commits_demand_bind] at h
  obtain ⟨n, hfind, h⟩ := h
  rw [commits_read_bind, commits_demand_bind] at h
  obtain ⟨a, hattempt, h⟩ := h
  rw [commits_bind] at h
  obtain ⟨_, mid, hmark, h⟩ := h
  rw [commits_demand_bind] at h
  obtain ⟨m, rfl, h⟩ := h
  have hmark := commits_markNodeVerifying hids (mem_of_getNodeRecord hfind) hmark
  obtain ⟨hstatus, rfl, rfl⟩ := hmark
  refine ⟨n, a, hfind, hstatus, hattempt, ?_⟩
  -- the ledger entry, when there is one, leaves the nodes alone
  cases hpolicy : claim.atom.contract.resourcePolicy with
  | none =>
    simp only [hpolicy, commits_pure] at h
    obtain ⟨rfl, rfl⟩ := h
    exact ⟨rfl, rfl, Or.inl rfl⟩
  | some policy =>
    simp only [hpolicy] at h
    rw [commits_bind] at h
    obtain ⟨_, last, hrecord, h⟩ := h
    obtain ⟨rfl, rfl⟩ := commits_pure.1 h
    have hentry := recordOutput_resources hrecord
    refine ⟨rfl, ?_, Or.inr hentry⟩
    exact within_recordOutput outsideNodes_sameNodes sameNodes_recordResource _ _ _ _ _ _ _ _ _ _
      _ _ _ hrecord

theorem failClaim_move {claim : NodeExecutionClaim} {uncertain : Bool} {failure : FixtureFailure}
    {out : FixtureNodeActivityResult} (hids : (db.nodes.map DataNodeRun.id).Nodup)
    (h : Commits (failClaim claim uncertain failure providerRequestId now) db out db') :
    NodeMove db db' (.failClaim claim uncertain failure providerRequestId now) := by
  unfold Service.failClaim at h
  rw [commits_read_bind, commits_demand_bind] at h
  obtain ⟨n, hfind, h⟩ := h
  rw [commits_ite] at h
  rcases h with ⟨-, h⟩ | ⟨-, h⟩
  · obtain ⟨-, rfl⟩ := commits_pure.1 h
    exact .kept rfl
  · rw [commits_read_bind, commits_demand_bind] at h
    obtain ⟨a, hattempt, h⟩ := h
    rw [commits_bind] at h
    obtain ⟨_, _, hfail, h⟩ := h
    simp only [commits_demand_bind, commits_pure] at h
    obtain ⟨m, rfl, -, rfl⟩ := h
    obtain ⟨hstatus, htables⟩ :=
      commits_completeNodeFailure hids (mem_of_getNodeRecord hfind) hfail
    exact .failed n a hfind hstatus hattempt htables

theorem failUnclaimed_move {runId : Uuid} {nodeId : String} {failure : FixtureFailure}
    (hids : (db.nodes.map DataNodeRun.id).Nodup)
    (h : Commits (failUnclaimedNode runId nodeId failure now) db () db') :
    NodeMove db db' (.failUnclaimed runId nodeId failure now) := by
  unfold failUnclaimedNode at h
  rw [commits_read_bind] at h
  cases hfind : db.getNodeRecord runId nodeId with
  | none =>
    simp only [hfind, commits_pure] at h
    exact .kept (by rw [h.2])
  | some n =>
    simp only [hfind] at h
    rw [commits_ite] at h
    rcases h with ⟨-, h⟩ | ⟨-, h⟩
    · obtain ⟨-, rfl⟩ := commits_pure.1 h
      exact .kept rfl
    · rw [commits_bind] at h
      obtain ⟨_, _, hfail, h⟩ := h
      simp only [commits_demand_bind, commits_pure] at h
      obtain ⟨m, rfl, -, rfl⟩ := h
      obtain ⟨hstatus, htables⟩ :=
        commits_failNodeWithoutAttempt hids (mem_of_getNodeRecord hfind) hfail
      exact .failedIdle n hfind hstatus htables

theorem completeNode_move {claim : NodeExecutionClaim} {out : FixtureNodeActivityResult}
    (hids : (db.nodes.map DataNodeRun.id).Nodup)
    (h : Commits (completeNode claim.run.id claim.node.nodeId providerRequestId now) db out db') :
    NodeMove db db' (.completeNode claim providerRequestId now) := by
  unfold Service.completeNode at h
  rw [commits_read_bind, commits_demand_bind] at h
  obtain ⟨n, hfind, h⟩ := h
  rw [commits_ite] at h
  rcases h with ⟨-, h⟩ | ⟨-, h⟩
  · obtain ⟨-, rfl⟩ := commits_pure.1 h
    exact .kept rfl
  · rw [commits_read_bind, commits_demand_bind] at h
    obtain ⟨a, hattempt, h⟩ := h
    rw [commits_bind] at h
    obtain ⟨_, _, hdone, h⟩ := h
    simp only [commits_demand_bind, commits_pure] at h
    obtain ⟨m, rfl, -, rfl⟩ := h
    obtain ⟨hstatus, htables⟩ :=
      commits_completeNodeSuccess hids (mem_of_getNodeRecord hfind) hdone
    exact .succeeded n a hfind hstatus hattempt htables

theorem reconcileAbsent_move {claim : NodeReconcileClaim} {out : FixtureNodeActivityResult}
    (hids : (db.nodes.map DataNodeRun.id).Nodup)
    (h : Commits (finishReconcileAbsent claim providerRequestId now) db out db') :
    NodeMove db db' (.reconcileAbsent claim providerRequestId now) := by
  unfold finishReconcileAbsent at h
  rw [commits_read_bind, commits_demand_bind] at h
  obtain ⟨run, -, h⟩ := h
  rw [commits_read_bind, commits_demand_bind] at h
  obtain ⟨n, hfind, h⟩ := h
  rw [commits_ite] at h
  rcases h with ⟨-, h⟩ | ⟨-, h⟩
  · obtain ⟨-, rfl⟩ := commits_pure.1 h
    exact .kept rfl
  · rw [commits_bind] at h
    obtain ⟨_, _, hdone, h⟩ := h
    simp only [commits_demand_bind, commits_pure] at h
    obtain ⟨m, rfl, -, rfl⟩ := h
    obtain ⟨hstatus, hreconcile, -, rfl⟩ :=
      commits_finishLookup hids (mem_of_getNodeRecord hfind) hdone
    refine .absent n _ hfind hstatus hreconcile (fun hretry => ?_) rfl
    simp only [Bool.and_eq_true, decide_eq_true_eq] at hretry
    exact hretry.2

theorem reconcileInconclusive_move {worker : FixtureWorker} {claim : NodeReconcileClaim}
    {status : DataNodeReconcileAttemptStatus} {failure : FixtureFailure} {retryable : Bool}
    {retryAfter : Option ℕ} {out : FixtureNodeActivityResult}
    (hids : (db.nodes.map DataNodeRun.id).Nodup)
    (h : Commits (finishReconcileInconclusive worker claim status failure providerRequestId retryable
      retryAfter now) db out db') :
    NodeMove db db' (.reconcileInconclusive claim status failure providerRequestId retryable
      retryAfter now) := by
  unfold finishReconcileInconclusive at h
  rw [commits_read_bind, commits_demand_bind] at h
  obtain ⟨n, hfind, h⟩ := h
  rw [commits_ite] at h
  rcases h with ⟨-, h⟩ | ⟨-, h⟩
  · obtain ⟨-, rfl⟩ := commits_pure.1 h
    exact .kept rfl
  · rw [commits_bind] at h
    obtain ⟨_, _, hdone, h⟩ := h
    simp only [commits_demand_bind, commits_pure] at h
    obtain ⟨m, rfl, -, rfl⟩ := h
    obtain ⟨hstatus, hreconcile, -, rfl⟩ :=
      commits_finishLookup hids (mem_of_getNodeRecord hfind) hdone
    exact .inconclusive n _ _ hfind hstatus hreconcile rfl

theorem reconcileFound_of_commits {claim : NodeReconcileClaim} {outputs : PortValues}
    {out : DataNodeRun} (hids : (db.nodes.map DataNodeRun.id).Nodup)
    (h : Commits (recordReconcileFound claim outputs providerRequestId now) db out db') :
    ∃ n, db.getNodeRecord claim.run.id claim.node.nodeId = some n ∧ n.status = .outcomeUncertain ∧
      n.reconcileState = .running ∧ nodeTables db' = modifyNode n.id (findOutputs outputs)
        (closeLookup claim .found none providerRequestId now (nodeTables db)) ∧
      EntersResource claim.run.id db db' := by
  unfold recordReconcileFound at h
  rw [commits_read_bind, commits_demand_bind] at h
  obtain ⟨run, hrun, h⟩ := h
  rw [commits_read_bind, commits_demand_bind] at h
  obtain ⟨n, hfind, h⟩ := h
  rw [commits_bind] at h
  obtain ⟨_, _, hdone, h⟩ := h
  rw [commits_demand_bind] at h
  obtain ⟨m, rfl, h⟩ := h
  obtain ⟨hstatus, hreconcile, -, rfl⟩ :=
    commits_finishLookup hids (mem_of_getNodeRecord hfind) hdone
  refine ⟨n, hfind, hstatus, hreconcile, ?_⟩
  rw [commits_demand_bind] at h
  obtain ⟨policy, -, h⟩ := h
  rw [commits_raiseIf_bind, commits_bind] at h
  obtain ⟨-, _, _, hrecord, h⟩ := h
  obtain ⟨-, rfl⟩ := commits_pure.1 h
  constructor
  · exact within_recordOutput outsideNodes_sameNodes sameNodes_recordResource _ _ _ _ _ _ _ _ _ _
      _ _ _ hrecord
  · obtain ⟨resource, hid, hresources⟩ := recordOutput_resources hrecord
    exact Or.inr ⟨resource, hid.trans (getRunRecord_id hrun), hresources⟩

theorem failReconciled_move {claim : NodeReconcileClaim} {failure : FixtureFailure}
    {out : FixtureNodeActivityResult} (hids : (db.nodes.map DataNodeRun.id).Nodup)
    (h : Commits (failReconciledClaim claim failure now) db out db') :
    NodeMove db db' (.failReconciled claim failure now) := by
  unfold failReconciledClaim at h
  rw [commits_read_bind, commits_demand_bind] at h
  obtain ⟨n, hfind, h⟩ := h
  rw [commits_ite] at h
  rcases h with ⟨-, h⟩ | ⟨-, h⟩
  · obtain ⟨-, rfl⟩ := commits_pure.1 h
    exact .kept rfl
  · rw [commits_bind] at h
    obtain ⟨_, _, hfail, h⟩ := h
    simp only [commits_demand_bind, commits_pure] at h
    obtain ⟨m, rfl, -, rfl⟩ := h
    obtain ⟨hstatus, hreconcile, htables⟩ :=
      commits_failReconciledNode hids (mem_of_getNodeRecord hfind) hfail
    exact .failedFound n hfind hstatus hreconcile htables

theorem completeReconciled_move {claim : NodeReconcileClaim} {out : FixtureNodeActivityResult}
    (hids : (db.nodes.map DataNodeRun.id).Nodup)
    (h : Commits (completeReconciled claim providerRequestId now) db out db') :
    NodeMove db db' (.completeReconciled claim providerRequestId now) := by
  unfold Service.completeReconciled at h
  rw [commits_read_bind, commits_demand_bind] at h
  obtain ⟨n, hfind, h⟩ := h
  rw [commits_ite] at h
  rcases h with ⟨-, h⟩ | ⟨-, h⟩
  · obtain ⟨-, rfl⟩ := commits_pure.1 h
    exact .kept rfl
  · rw [commits_bind] at h
    obtain ⟨_, _, hdone, h⟩ := h
    simp only [commits_demand_bind, commits_pure] at h
    obtain ⟨m, rfl, -, rfl⟩ := h
    obtain ⟨hstatus, htables⟩ :=
      commits_completeNodeSuccess hids (mem_of_getNodeRecord hfind) hdone
    exact .succeededFound n hfind hstatus htables

theorem mem_staleReconcileAttempts {staleBefore : Instant} {limit : ℕ}
    {a : DataNodeReconcileAttempt} (h : a ∈ staleReconcileAttempts db staleBefore limit) :
    a ∈ db.reconcileAttempts ∧ a.status = .running ∧ ∃ n ∈ db.nodes, n.id = a.dataNodeRunId ∧
      n.status = .outcomeUncertain ∧ n.reconcileState = .running := by
  unfold staleReconcileAttempts at h
  have hsorted := List.mem_of_mem_take h
  rw [(List.perm_insertionSort _ _).mem_iff, List.mem_filter] at hsorted
  obtain ⟨hmem, hstale⟩ := hsorted
  simp only [Bool.and_eq_true, decide_eq_true_eq, List.any_eq_true] at hstale
  obtain ⟨⟨hrunning, -⟩, n, hn, ⟨hid, hstatus⟩, hreconcile⟩ := hstale
  exact ⟨hmem, hrunning, n, hn, hid, hstatus, hreconcile⟩

theorem recoverClaims_move {worker : FixtureWorker} {limit : ℕ} {out : List Uuid}
    (h : Commits (recoverClaims worker now limit) db out db') :
    NodeMove db db' (.recoverClaims now limit) := by
  unfold Service.recoverClaims at h
  rw [commits_bind] at h
  obtain ⟨_, mid, hnodes, h⟩ := h
  rw [commits_bind] at h
  obtain ⟨_, last, hresources, h⟩ := h
  have hlist : Within SameNodes (listCancelRequestedRunIds limit) := Within.read _
  have hsame : nodeTables db' = nodeTables mid :=
    (hlist _ _ _ h).trans (within_recoverStaleCleanup outsideNodes_sameNodes _ _ _ _ _ _ _ hresources)
  unfold recoverStaleReconcileClaims at hnodes
  rw [commits_read_bind] at hnodes
  simp only [commits_bind, commits_update, GuardedTable.commits_guarded, commits_pure] at hnodes
  obtain ⟨-, _, rfl, _, _, ⟨-, -, rfl⟩, -, rfl⟩ := hnodes
  refine .recovered worker.reconcileMaxAttempts
    (staleReconcileAttempts db (now - worker.recoveryClaimTtl) limit)
    (fun a => mem_staleReconcileAttempts) ?_
  rw [hsame]
  unfold nodeTables recoverLookups mapReconciles recoverNode GuardedTable.rewrite
  simp only [Bool.and_eq_true, decide_eq_true_eq, and_assoc]
  rfl

theorem insertNodes_of_commits {runId : Uuid} {planned : List PlannedNode}
    (h : Commits (insertNodes runId planned) db () db') :
    ∃ new, (∀ n ∈ new, ∃ id p, n = pendingNode id runId p) ∧
      new.map DataNodeRun.id = List.range' db.nextId new.length ∧
      db' = { db with nodes := db.nodes ++ new, nextId := db.nextId + new.length } := by
  induction planned generalizing db with
  | nil =>
    obtain ⟨-, rfl⟩ := commits_pure.1 h
    exact ⟨[], by simp, rfl, by simp⟩
  | cons p planned ih =>
    unfold insertNodes at h
    rw [commits_bind] at h
    obtain ⟨id, _, hid, h⟩ := h
    obtain ⟨rfl, rfl⟩ := commits_newFixtureId.1 hid
    rw [commits_bind] at h
    obtain ⟨_, _, hupdate, h⟩ := h
    obtain rfl := commits_update.1 hupdate
    obtain ⟨new, hnew, hids, rfl⟩ := ih h
    refine ⟨pendingNode db.nextId runId p :: new, ?_, ?_, ?_⟩
    · intro n hn
      rcases List.mem_cons.1 hn with rfl | hn
      · exact ⟨_, _, rfl⟩
      · exact hnew n hn
    · rw [List.map_cons, hids]
      rfl
    · simp [Nat.add_assoc, Nat.add_comm 1]

theorem createRun_of_commits {start : FixtureStart} (h : Commits (createRun start now) db () db') :
    ∃ new run bindings, (∀ n ∈ new, ∃ id p, n = pendingNode id db.nextId p) ∧
      new.map DataNodeRun.id = List.range' (db.nextId + 1) new.length ∧ run.id = db.nextId ∧
      run.status = .requested ∧ run.cleanupState ∈ [.pending, .notRequired] ∧
      run.terminalIntent = none ∧
      db' = { db with runs := db.runs ++ [run], bindings := db.bindings ++ bindings
                      nodes := db.nodes ++ new, nextId := db.nextId + 1 + new.length } := by
  unfold createRun at h
  rw [commits_bind] at h
  obtain ⟨id, _, hid, h⟩ := h
  obtain ⟨rfl, rfl⟩ := commits_newFixtureId.1 hid
  rw [commits_read_bind, commits_bind] at h
  obtain ⟨_, _, hupdate, h⟩ := h
  obtain rfl := commits_update.1 hupdate
  obtain ⟨new, hnew, hids, rfl⟩ := insertNodes_of_commits h
  refine ⟨new, _, _, hnew, hids, rfl, rfl, ?_, rfl, rfl⟩
  dsimp only
  split <;> simp

end Reports

/-! ### Every event is a move -/

theorem nodeMove_of_same {db db' : FixtureDb} {e : FixtureEvent} {worker : FixtureWorker}
    (hwithin : Within SameNodes (e.transaction worker))
    (h : Commits (e.transaction worker) db () db') : NodeMove db db' e :=
  .kept (hwithin _ _ _ h)

theorem nodeMove_of_commits {db db' : FixtureDb} {e : FixtureEvent} {worker : FixtureWorker}
    (hids : (db.nodes.map DataNodeRun.id).Nodup) (h : Commits (e.transaction worker) db () db') :
    NodeMove db db' e := by
  have ho := outsideNodes_sameNodes
  cases e with
  | create start now =>
    obtain ⟨new, run, bindings, hnew, hids, -, -, -, -, rfl⟩ := createRun_of_commits h
    exact .created new hnew hids rfl rfl
  | claimNode runId nodeId now =>
    obtain ⟨out, h⟩ := commits_discard.1 h
    cases nodeClaimed_of_commits hids h with
    | answered _ hdb => exact .kept (hdb ▸ rfl)
    | refused _ hdb => exact .kept (hdb ▸ rfl)
    | abandoned _ n a hfind hstatus hattempt htables =>
      exact .abandoned n a hfind hstatus hattempt htables
    | resumed _ _ _ _ _ _ hdb => exact .kept (hdb ▸ rfl)
    | started claim n inputs hfind hstatus hbound _ _ _ hattempt htables hnext =>
      exact .started n inputs hfind hstatus hbound (hattempt ▸ htables) hnext
  | failUnclaimed => exact failUnclaimed_move hids h
  | recordOutcome claim result now =>
    obtain ⟨out, h⟩ := commits_discard.1 h
    obtain ⟨n, a, hfind, hstatus, hattempt, -, htables, -⟩ := recordOutcome_of_commits hids h
    exact .verifying n a hfind hstatus hattempt htables
  | failClaim =>
    obtain ⟨out, h⟩ := commits_discard.1 h
    exact failClaim_move hids h
  | completeNode =>
    obtain ⟨out, h⟩ := commits_discard.1 h
    exact completeNode_move hids h
  | claimReconcile =>
    obtain ⟨out, h⟩ := commits_discard.1 h
    cases lookupClaimed_of_commits hids h with
    | refused _ htables => exact .kept htables
    | started claim n hfind hdue _ _ _ hattempt htables hnext =>
      exact .lookupStarted n hfind hdue (hattempt ▸ htables) hnext
  | reconcileAbsent =>
    obtain ⟨out, h⟩ := commits_discard.1 h
    exact reconcileAbsent_move hids h
  | reconcileInconclusive =>
    obtain ⟨out, h⟩ := commits_discard.1 h
    exact reconcileInconclusive_move hids h
  | reconcileFound =>
    obtain ⟨out, h⟩ := commits_discard.1 h
    obtain ⟨n, hfind, hstatus, hreconcile, htables, -⟩ := reconcileFound_of_commits hids h
    exact .found n hfind hstatus hreconcile htables
  | failReconciled =>
    obtain ⟨out, h⟩ := commits_discard.1 h
    exact failReconciled_move hids h
  | completeReconciled =>
    obtain ⟨out, h⟩ := commits_discard.1 h
    exact completeReconciled_move hids h
  | recoverClaims =>
    obtain ⟨out, h⟩ := commits_discard.1 h
    exact recoverClaims_move h
  | leases => exact nodeMove_of_same (ho.leases _) h
  | send => exact nodeMove_of_same (Within.pure _) h
  | answer => exact nodeMove_of_same (Within.pure _) h
  | lookup => exact nodeMove_of_same (Within.pure _) h
  | finalizeReady => exact nodeMove_of_same (within_finalizeReadyRun ho _ _).discard h
  | beginRelease => exact nodeMove_of_same (within_beginReleaseRun ho _ _).discard h
  | beginFailedCleanup =>
    exact nodeMove_of_same (within_beginFailedCleanupRun ho _ _ _ _).discard h
  | beginCanceledCleanup => exact nodeMove_of_same (within_beginCanceledCleanupRun ho _ _).discard h
  | finalizeRelease runId now => 
    have hfinish : ∀ run intent leaked, Within SameNodes (runTable.update (runAt run [.cleaning])
        (finishCleanup intent leaked run now)) :=
      fun _ _ _ => runTable.within_guarded _ _ fun _ _ => rfl
    exact nodeMove_of_same (within_finalizeReleaseRun ho _ _ hfinish).discard h
  | claimCleanup => exact nodeMove_of_same (within_claimCleanup ho _ _ _ _).discard h
  | completeCleanup => exact nodeMove_of_same (within_completeCleanup ho _ _ _).discard h
  | failCleanup => exact nodeMove_of_same (within_finishCleanupFailure ho _ _ _ _ _ _ _ _).discard h
  | queueDue => exact nodeMove_of_same (within_queueDueResources ho _ _).discard h
  | cancel => exact nodeMove_of_same (within_cancelFixture ho _ _ _).discard h
  | retryCleanup => exact nodeMove_of_same (within_retryFixtureCleanup ho _ _ _).discard h

end Atlas.Proofs
