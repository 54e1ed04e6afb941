import AtlasTestOps.Orchestration.NodeLoop
import AtlasTestOps.Proofs.CleanReport

/-! The loop over one node ends. Its rank counts the lookups of the node and, between two of
them, how far the node has come: no event lowers it, a lookup that starts raises it, and a
node is looked up 32 times at most. The loop trusts one failure code to tell that a node is
EXHAUSTED, and the sweeper writes another. -/

namespace Atlas.Proofs.NodeLoops

open Atlas Atlas.Identity Atlas.Fixture Atlas.Store Atlas.Service Atlas.Orchestration Txn

/-! ### How far a node has come -/

/-- Where a node stands between two lookups. -/
def nodePhase (n : DataNodeRun) : ℕ :=
  match n.status with
  | .pending => 0
  | .ready => 1
  | .running | .verifying => 2
  | .succeeded | .failed => 3
  | .outcomeUncertain => if n.reconcileState = .pending then 3 else 0

def rowRank (n : DataNodeRun) : ℕ := 4 * n.reconcileAttemptCount + nodePhase n

theorem nodePhase_le (n : DataNodeRun) : nodePhase n ≤ 3 := by
  unfold nodePhase
  split <;> first | omega | (split <;> omega)

/-- The rank of the row that the loop is about. -/
def nodeRank (runId : Uuid) (nodeId : String) (db : FixtureDb) : ℕ :=
  ((db.getNodeRecord runId nodeId).map rowRank).getD 0

section Rank

variable {db db' : FixtureDb} {runId : Uuid} {nodeId : String} {n : DataNodeRun}
  {f g : DataNodeRun → DataNodeRun}

theorem nodeRank_of_find (h : db.getNodeRecord runId nodeId = some n) :
    nodeRank runId nodeId db = rowRank n := by
  simp [nodeRank, h]

theorem getNodeRecord_map (hrun : ∀ m, (g m).fixtureRunId = m.fixtureRunId)
    (hnode : ∀ m, (g m).nodeId = m.nodeId) (h : db'.nodes = db.nodes.map g) :
    db'.getNodeRecord runId nodeId = (db.getNodeRecord runId nodeId).map g := by
  unfold FixtureDb.getNodeRecord
  rw [h, List.find?_map]
  simp only [Function.comp_def, hrun, hnode]

theorem nodeRank_map (hrun : ∀ m, (g m).fixtureRunId = m.fixtureRunId)
    (hnode : ∀ m, (g m).nodeId = m.nodeId) (h : db'.nodes = db.nodes.map g)
    (hrank : ∀ m ∈ db.nodes, rowRank m ≤ rowRank (g m)) :
    nodeRank runId nodeId db ≤ nodeRank runId nodeId db' := by
  unfold nodeRank
  rw [getNodeRecord_map hrun hnode h]
  cases hfind : db.getNodeRecord runId nodeId with
  | none => exact le_rfl
  | some m => exact hrank m (mem_of_getNodeRecord hfind)

theorem nodeRank_modify (hids : (db.nodes.map DataNodeRun.id).Nodup)
    (h : db'.nodes = Table.modify DataNodeRun.id n.id f db.nodes) (hn : n ∈ db.nodes)
    (hrank : rowRank n ≤ rowRank (f n)) (hrun : ∀ m, (f m).fixtureRunId = m.fixtureRunId)
    (hnode : ∀ m, (f m).nodeId = m.nodeId) :
    nodeRank runId nodeId db ≤ nodeRank runId nodeId db' := by
  refine nodeRank_map (fun m => ?_) (fun m => ?_) h fun m hm => ?_
  · split
    · exact hrun m
    · rfl
  · split
    · exact hnode m
    · rfl
  · split
    · next heq =>
      obtain rfl := Table.eq_of_key hids hm hn heq
      exact hrank
    · exact le_rfl

theorem getNodeRecord_modify (h : db'.nodes = Table.modify DataNodeRun.id n.id f db.nodes)
    (hfind : db.getNodeRecord runId nodeId = some n)
    (hrun : ∀ m, (f m).fixtureRunId = m.fixtureRunId) (hnode : ∀ m, (f m).nodeId = m.nodeId) :
    db'.getNodeRecord runId nodeId = some (f n) := by
  have hmap := @getNodeRecord_map db db' runId nodeId
    (fun m => if m.id = n.id then f m else m) (fun m => ?_) (fun m => ?_) h
  · rw [hmap, hfind]
    simp
  · split
    · exact hrun m
    · rfl
  · split
    · exact hnode m
    · rfl

end Rank

/-! ### What a lookup and the other events do to the rank -/

theorem rowRank_startLookup (n : DataNodeRun) : rowRank n < rowRank (startLookup n) := by
  have hphase := nodePhase_le n
  unfold rowRank
  simp only [startLookup]
  omega

theorem rowRank_le {n m : DataNodeRun} (hcount : m.reconcileAttemptCount = n.reconcileAttemptCount)
    (hphase : nodePhase n ≤ nodePhase m) : rowRank n ≤ rowRank m := by
  unfold rowRank
  omega

section Moves

variable {db db' : FixtureDb} {e : FixtureEvent} {runId : Uuid} {nodeId : String}

/-- No event takes a node back. -/
theorem nodeRank_le_of_move (h : NodeMove db db' e) (hids : (db.nodes.map DataNodeRun.id).Nodup) :
    nodeRank runId nodeId db ≤ nodeRank runId nodeId db' := by
  have hmodify : ∀ {n : DataNodeRun} {f : DataNodeRun → DataNodeRun},
      db'.nodes = Table.modify DataNodeRun.id n.id f db.nodes → n ∈ db.nodes →
      nodePhase n ≤ nodePhase (f n) → (∀ m, (f m).fixtureRunId = m.fixtureRunId) →
      (∀ m, (f m).nodeId = m.nodeId) →
      (f n).reconcileAttemptCount = n.reconcileAttemptCount →
      nodeRank runId nodeId db ≤ nodeRank runId nodeId db' :=
    fun hnodes hn hphase hrun hnode hcount =>
      nodeRank_modify hids hnodes hn (rowRank_le hcount hphase) hrun hnode
  cases h with
  | kept htables =>
    have hnodes : db'.nodes = db.nodes := congrArg NodeTables.nodes htables
    unfold nodeRank FixtureDb.getNodeRecord
    rw [hnodes]
  | created new hnew hids' htables hnext =>
    have hnodes : db'.nodes = db.nodes ++ new := congrArg NodeTables.nodes htables
    unfold nodeRank FixtureDb.getNodeRecord
    rw [hnodes, List.find?_append]
    cases db.nodes.find? fun n => n.fixtureRunId = runId ∧ n.nodeId = nodeId with
    | none => exact Nat.zero_le _
    | some m => exact le_rfl
  | @started _ _ now n inputs hfind hstatus hbound htables hnext =>
    have hphase : nodePhase n ≤ nodePhase (startNode inputs now n) := by
      simp only [List.mem_cons, List.not_mem_nil, or_false] at hstatus
      rcases hstatus with h | h <;> simp [nodePhase, startNode, h]
    exact hmodify (congrArg NodeTables.nodes htables) (mem_of_getNodeRecord hfind)
      hphase (fun _ => rfl) (fun _ => rfl) rfl
  | abandoned n a hfind hstatus hattempt htables =>
    exact hmodify (congrArg NodeTables.nodes htables) (mem_of_getNodeRecord hfind)
      (by simp [nodePhase, failNode, hstatus]) (fun _ => rfl) (fun _ => rfl) rfl
  | failedIdle n hfind hstatus htables =>
    exact hmodify (congrArg NodeTables.nodes htables) (mem_of_getNodeRecord hfind)
      (nodePhase_le n) (fun _ => rfl) (fun _ => rfl) rfl
  | verifying n a hfind hstatus hattempt htables =>
    exact hmodify (congrArg NodeTables.nodes htables) (mem_of_getNodeRecord hfind)
      (by simp [nodePhase, verifyNode, hstatus]) (fun _ => rfl) (fun _ => rfl) rfl
  | @failed claim uncertain failure providerRequestId now n a hfind hstatus hattempt htables =>
    have hlast : nodePhase (failNode uncertain failure now n) = 3 := by
      cases uncertain <;> rfl
    exact hmodify (congrArg NodeTables.nodes htables) (mem_of_getNodeRecord hfind)
      (hlast ▸ nodePhase_le n) (fun _ => rfl) (fun _ => rfl) rfl
  | succeeded n a hfind hstatus hattempt htables =>
    exact hmodify (congrArg NodeTables.nodes htables) (mem_of_getNodeRecord hfind)
      (nodePhase_le n) (fun _ => rfl) (fun _ => rfl) rfl
  | lookupStarted n hfind hdue htables hnext =>
    exact nodeRank_modify hids (congrArg NodeTables.nodes htables) (mem_of_getNodeRecord hfind)
      (rowRank_startLookup n).le (fun _ => rfl) fun _ => rfl
  | absent n retryCreate hfind hstatus hreconcile hretry htables =>
    exact hmodify (congrArg NodeTables.nodes htables) (mem_of_getNodeRecord hfind)
      (by simp [nodePhase, hstatus, hreconcile]) (fun _ => rfl) (fun _ => rfl) rfl
  | inconclusive n reported retryAt hfind hstatus hreconcile htables =>
    exact hmodify (congrArg NodeTables.nodes htables) (mem_of_getNodeRecord hfind)
      (by simp [nodePhase, hstatus, hreconcile]) (fun _ => rfl) (fun _ => rfl) rfl
  | found n hfind hstatus hreconcile htables =>
    exact hmodify (congrArg NodeTables.nodes htables) (mem_of_getNodeRecord hfind)
      (by simp [nodePhase, hstatus, hreconcile]) (fun _ => rfl) (fun _ => rfl) rfl
  | failedFound n hfind hstatus hreconcile htables =>
    exact hmodify (congrArg NodeTables.nodes htables) (mem_of_getNodeRecord hfind)
      (nodePhase_le n) (fun _ => rfl) (fun _ => rfl) rfl
  | succeededFound n hfind hstatus htables =>
    exact hmodify (congrArg NodeTables.nodes htables) (mem_of_getNodeRecord hfind)
      (nodePhase_le n) (fun _ => rfl) (fun _ => rfl) rfl
  | @recovered now _ maxAttempts stale hstale htables =>
    refine nodeRank_map ?_ ?_ (congrArg NodeTables.nodes htables) fun m hm => ?_
    · intro m
      unfold recoverNode
      split <;> rfl
    · intro m
      unfold recoverNode
      split <;> rfl
    · unfold recoverNode
      split
      · next h => exact rowRank_le rfl (by simp [nodePhase, h.2.1, h.2.2])
      · exact le_rfl

end Moves

/-! ### No node is looked up more than 32 times -/

def LookupsBounded (db : FixtureDb) : Prop := ∀ n ∈ db.nodes, n.reconcileAttemptCount ≤ 32

def BoundKept (db db' : FixtureDb) : Prop := LookupsBounded db → LookupsBounded db'

instance : Std.Refl BoundKept := ⟨fun _ h => h⟩

instance : IsTrans FixtureDb BoundKept := ⟨fun _ _ _ h₁ h₂ h => h₂ (h₁ h)⟩

theorem boundKept_startReconcileAttempt (node : DataNodeRun) (attemptId : Uuid) (now : Instant) :
    Within BoundKept (startReconcileAttempt node attemptId now) := by
  refine Within.bind (nodeTable.within_guarded _ _ fun db _ hbounded n hn => ?_) fun rows => ?_
  · obtain ⟨m, hm, rfl⟩ := List.mem_map.1 hn
    split
    · next hp =>
      simp only [Bool.and_eq_true, decide_eq_true_eq] at hp
      exact hp.2
    · exact hbounded m hm
  · cases rows with
    | nil => exact Within.pure _
    | cons updated rows => exact Within.bind (Within.update fun _ h => h) fun _ => Within.pure _

theorem boundKept_claimReconcile (worker : FixtureWorker) (runId : Uuid) (nodeId : String)
    (now : Instant) : Within BoundKept (claimReconcile worker runId nodeId now) := by
  have hnewId : Within BoundKept newFixtureId :=
    Within.bind (Within.read _) fun _ => Within.bind (Within.update fun _ h => h) fun _ =>
      Within.pure _
  refine Within.bind (Within.read _) fun found => ?_
  split
  case h_2 => exact Within.pure _
  case h_1 run node =>
    refine Within.ite (Within.pure _) (Within.bind (Within.read _) fun context => ?_)
    split
    · exact Within.pure _
    · split
      · exact Within.pure _
      · refine Within.bind (Within.raiseIf _ _) fun _ => Within.bind hnewId fun _ => ?_
        refine Within.bind (boundKept_startReconcileAttempt _ _ _) fun started => ?_
        cases started with
        | none => exact Within.pure _
        | some started => exact Within.pure _
    · exact Within.pure _

section Bound

variable {db db' : FixtureDb} {e : FixtureEvent} {worker : FixtureWorker}

theorem lookupsBounded_step (hids : (db.nodes.map DataNodeRun.id).Nodup)
    (h : Commits (e.transaction worker) db () db') (hbounded : LookupsBounded db) :
    LookupsBounded db' := by
  have hmap : ∀ {g : DataNodeRun → DataNodeRun}, db'.nodes = db.nodes.map g →
      (∀ m, (g m).reconcileAttemptCount = m.reconcileAttemptCount) → LookupsBounded db' := by
    intro g hnodes hcount n hn
    rw [hnodes] at hn
    obtain ⟨m, hm, rfl⟩ := List.mem_map.1 hn
    rw [hcount]
    exact hbounded m hm
  have hmodify : ∀ {id : Uuid} {f : DataNodeRun → DataNodeRun},
      db'.nodes = Table.modify DataNodeRun.id id f db.nodes →
      (∀ m, (f m).reconcileAttemptCount = m.reconcileAttemptCount) → LookupsBounded db' := by
    intro id f hnodes hcount
    refine hmap hnodes fun m => ?_
    split
    · exact hcount m
    · rfl
  cases nodeMove_of_commits hids h with
  | kept htables =>
    have hnodes : db'.nodes = db.nodes := congrArg NodeTables.nodes htables
    unfold LookupsBounded
    rwa [hnodes]
  | created new hnew hids' htables hnext =>
    have hnodes : db'.nodes = db.nodes ++ new := congrArg NodeTables.nodes htables
    intro n hn
    rw [hnodes, List.mem_append] at hn
    rcases hn with hn | hn
    · exact hbounded n hn
    · obtain ⟨id, planned, rfl⟩ := hnew n hn
      exact Nat.zero_le _
  | lookupStarted n hfind hdue htables hnext =>
    obtain ⟨out, h⟩ := commits_discard.1 h
    exact boundKept_claimReconcile worker _ _ _ _ _ _ h hbounded
  | recovered maxAttempts stale hstale htables =>
    refine hmap (congrArg NodeTables.nodes htables) fun m => ?_
    unfold recoverNode
    split <;> rfl
  | started n inputs hfind hstatus hbound htables hnext =>
    exact hmodify (congrArg NodeTables.nodes htables) fun _ => rfl
  | abandoned n a hfind hstatus hattempt htables =>
    exact hmodify (congrArg NodeTables.nodes htables) fun _ => rfl
  | failedIdle n hfind hstatus htables =>
    exact hmodify (congrArg NodeTables.nodes htables) fun _ => rfl
  | verifying n a hfind hstatus hattempt htables =>
    exact hmodify (congrArg NodeTables.nodes htables) fun _ => rfl
  | failed n a hfind hstatus hattempt htables =>
    exact hmodify (congrArg NodeTables.nodes htables) fun _ => rfl
  | succeeded n a hfind hstatus hattempt htables =>
    exact hmodify (congrArg NodeTables.nodes htables) fun _ => rfl
  | absent n retryCreate hfind hstatus hreconcile hretry htables =>
    exact hmodify (congrArg NodeTables.nodes htables) fun _ => rfl
  | inconclusive n reported retryAt hfind hstatus hreconcile htables =>
    exact hmodify (congrArg NodeTables.nodes htables) fun _ => rfl
  | found n hfind hstatus hreconcile htables =>
    exact hmodify (congrArg NodeTables.nodes htables) fun _ => rfl
  | failedFound n hfind hstatus hreconcile htables =>
    exact hmodify (congrArg NodeTables.nodes htables) fun _ => rfl
  | succeededFound n hfind hstatus htables =>
    exact hmodify (congrArg NodeTables.nodes htables) fun _ => rfl

/-- The node tables of a platform, and the bound on the lookups. -/
structure NodesSound (db : FixtureDb) : Prop where
  inv : NodeInv (nodeTables db) db.nextId
  bounded : LookupsBounded db

theorem NodesSound.commits (hs : NodesSound db) (h : Commits (e.transaction worker) db () db') :
    NodesSound db' :=
  ⟨hs.inv.commits h, lookupsBounded_step hs.inv.nodeIds h hs.bounded⟩

theorem nodesSound_of_fresh {s : FixtureSystem} (h : s.Fresh) : NodesSound s.db := by
  refine ⟨nodeInv_of_fresh h, fun n hn => ?_⟩
  rw [h.nodes] at hn
  cases hn

variable {s t : FixtureSystem}

theorem NodesSound.run (runId : Uuid) (nodeId : String) (hs : NodesSound s.db)
    (hrun : Meanwhile worker s t) :
    NodesSound t.db ∧ nodeRank runId nodeId s.db ≤ nodeRank runId nodeId t.db := by
  refine db_run_keeps (I := fun db => NodesSound db ∧
    nodeRank runId nodeId s.db ≤ nodeRank runId nodeId db) ?_ hrun ⟨hs, le_rfl⟩
  rintro e u ⟨⟩ db' - ⟨hsound, hle⟩ h
  have hmove := nodeMove_of_commits hsound.inv.nodeIds h
  exact ⟨hsound.commits h, hle.trans (nodeRank_le_of_move hmove hsound.inv.nodeIds)⟩

theorem NodesSound.nodeRank_le (runId : Uuid) (nodeId : String) (hs : NodesSound db) :
    nodeRank runId nodeId db ≤ 131 := by
  cases hfind : db.getNodeRecord runId nodeId with
  | none => simp [nodeRank, hfind]
  | some n =>
    rw [nodeRank_of_find hfind]
    have hcount := hs.bounded n (mem_of_getNodeRecord hfind)
    have hphase := nodePhase_le n
    unfold rowRank
    omega

theorem apply_db_of_commits (h : Commits (e.transaction worker) s.db () db') :
    (e.apply worker s).db = db' := by
  rw [FixtureEvent.apply_db, after_of_commits h]

end Bound

/-! ### What the claims of the loop do -/

theorem nodePhase_eq_one {n : DataNodeRun} : nodePhase n = 1 ↔ n.status = .ready := by
  unfold nodePhase
  cases n.status
  case outcomeUncertain => by_cases h : n.reconcileState = .pending <;> simp [h]
  all_goals simp

theorem rowRank_mod {n : DataNodeRun} : rowRank n % 4 = 1 ↔ n.status = .ready := by
  have hphase := nodePhase_le n
  rw [← nodePhase_eq_one]
  unfold rowRank
  omega

section Claims

variable {worker : FixtureWorker} {runId : Uuid} {nodeId : String} {now : Instant}
  {db db' : FixtureDb}

theorem commits_completeNodeFailure_status {n m : DataNodeRun} {attemptId : Uuid} {uncertain : Bool}
    {failure : FixtureFailure} {providerRequestId : Option String}
    (hids : (db.nodes.map DataNodeRun.id).Nodup) (hn : n ∈ db.nodes)
    (h : Commits (completeNodeFailure n attemptId uncertain failure providerRequestId now) db
      (some m) db') : m.status = if uncertain then .outcomeUncertain else .failed := by
  unfold completeNodeFailure closeAttempt at h
  simp only [commits_bind, commits_update, commits_pure] at h
  obtain ⟨-, _, rfl, rows, _, hrows, hm, rfl⟩ := h
  obtain ⟨-, rfl, -⟩ := commits_updateNode_head hrows (fun _ => nodeAt_id) hids hn hm
  rfl

/-- `execute_node` answers at once for a node that it does not start: never READY, and never
while the node could be started. -/
theorem claimNode_answered {answer : FixtureNodeActivityResult}
    (hids : (db.nodes.map DataNodeRun.id).Nodup)
    (h : Commits (claimNode worker runId nodeId now) db (.result answer) db') :
    answer.status ≠ .ready ∧
      ∃ n, db.getNodeRecord runId nodeId = some n ∧ n.status ≠ .ready := by
  unfold claimNode at h
  rw [commits_read_bind] at h
  split at h
  case h_2 => simp at h
  case h_1 run n heq =>
    simp only [Prod.mk.injEq] at heq
    obtain ⟨hrun, hfind⟩ := heq
    have hn := mem_of_getNodeRecord hfind
    rw [commits_ite] at h
    rcases h with ⟨hdone, h⟩ | ⟨hdone, h⟩
    · have hstatus : n.status ≠ .ready := by
        intro hready
        rw [hready] at hdone
        simp at hdone
      simp only [commits_pure, ClaimOutcome.result.injEq] at h
      obtain ⟨rfl, -⟩ := h
      exact ⟨hstatus, n, hfind, hstatus⟩
    · rw [commits_read_bind] at h
      split at h
      · simp at h
      · rw [commits_raiseIf_bind, commits_ite, commits_ite] at h
        rcases h.2 with ⟨-, h⟩ | ⟨-, ⟨hrunning, h⟩ | ⟨-, h⟩⟩
        · unfold resumeVerifying at h
          simp at h
        · unfold abandonRunning at h
          rw [commits_read_bind, commits_demand_bind] at h
          obtain ⟨a, -, h⟩ := h
          rw [commits_bind] at h
          obtain ⟨_, _, hfail, h⟩ := h
          simp only [commits_demand_bind, commits_pure, ClaimOutcome.result.injEq] at h
          obtain ⟨m, rfl, rfl, -⟩ := h
          have hm := commits_completeNodeFailure_status hids hn hfail
          refine ⟨?_, n, hfind, by simp [hrunning]⟩
          simp [DataNodeRun.activityResult, hm]
        · unfold startExecution at h
          rw [commits_read_bind] at h
          split at h
          · simp at h
          · rw [commits_bind] at h
            obtain ⟨attemptId, _, -, h⟩ := h
            rw [commits_bind] at h
            obtain ⟨_, _, -, h⟩ := h
            simp at h

/-- A claim of `execute_node` that is not refused leaves the node past READY. -/
theorem claimNode_leaves {out : ClaimOutcome NodeExecutionClaim}
    (hids : (db.nodes.map DataNodeRun.id).Nodup)
    (h : Commits (claimNode worker runId nodeId now) db out db')
    (hout : ∀ failure, out ≠ .invalid failure) : nodeRank runId nodeId db' % 4 ≠ 1 := by
  have hleft : ∀ {n : DataNodeRun}, db'.getNodeRecord runId nodeId = some n → n.status ≠ .ready →
      nodeRank runId nodeId db' % 4 ≠ 1 := by
    intro n hfind hstatus hmod
    rw [nodeRank_of_find hfind] at hmod
    exact hstatus (rowRank_mod.1 hmod)
  cases nodeClaimed_of_commits hids h with
  | answered answer hdb =>
    obtain ⟨-, n, hfind, hstatus⟩ := claimNode_answered hids h
    subst hdb
    exact hleft hfind hstatus
  | refused failure hdb => exact absurd rfl (hout failure)
  | abandoned answer n a hfind hstatus hattempt htables =>
    refine hleft (getNodeRecord_modify (congrArg NodeTables.nodes htables) hfind (fun _ => rfl)
      fun _ => rfl) ?_
    simp [failNode]
  | resumed claim hfind hstatus hphase hrun hattempt hdb =>
    subst hdb
    exact hleft hfind (by simp [hstatus])
  | started claim n inputs hfind hstatus hbound hphase hrun hnode hattempt htables hnext =>
    refine hleft (getNodeRecord_modify (congrArg NodeTables.nodes htables) hfind (fun _ => rfl)
      fun _ => rfl) ?_
    simp [startNode]

theorem reconcileNotDue_of_due {n : DataNodeRun} (h : reconcileDue now n = true) :
    reconcileNotDue n now = false := by
  unfold reconcileDue at h
  simp only [Bool.and_eq_true, decide_eq_true_eq] at h
  obtain ⟨⟨-, hstate⟩, hnext⟩ := h
  unfold reconcileNotDue
  cases hat : n.nextReconcileAt with
  | none => simp [hat] at hnext
  | some t =>
    rw [hat, Option.any_some, decide_eq_true_eq] at hnext
    simp only [List.mem_cons, List.not_mem_nil, or_false] at hstate
    rcases hstate with hstate | hstate <;> simp [hstate, hnext]

theorem startReconcileAttempt_starts {n : DataNodeRun} {attemptId : Uuid}
    (hids : (db.nodes.map DataNodeRun.id).Nodup) (hn : n ∈ db.nodes)
    (hdue : reconcileDue now n = true) (hcount : n.reconcileAttemptCount < 32) :
    ¬ Commits (startReconcileAttempt n attemptId now) db none db' := by
  intro h
  unfold startReconcileAttempt at h
  rw [commits_bind] at h
  obtain ⟨rows, mid, hrows, h⟩ := h
  have hid : ∀ m : DataNodeRun, (decide (m.id = n.id) && decide (m.revision = n.revision) &&
      reconcileDue now m && decide (m.reconcileAttemptCount < 32)) = true → m.id = n.id := by
    intro m hm
    simp only [Bool.and_eq_true, decide_eq_true_eq] at hm
    exact hm.1.1.1
  rcases commits_updateNode hrows hid hids hn with ⟨-, rfl, rfl⟩ | ⟨hpn, -, -⟩
  · simp at h
  · simp [hdue, hcount] at hpn

/-- A lookup that may start does: the claim takes the node a lookup further, or it answers for
a node whose outcome is no longer uncertain. -/
theorem claimReconcile_of_canLookUp {out : ClaimOutcome NodeReconcileClaim}
    (hids : (db.nodes.map DataNodeRun.id).Nodup) (hcan : CanLookUp worker runId nodeId db now)
    (h : Commits (claimReconcile worker runId nodeId now) db out db') :
    ∃ n, db.getNodeRecord runId nodeId = some n ∧
      (nodeTerminal n = false ∧ (∃ claim, out = .claimed claim) ∧
          nodeRank runId nodeId db < nodeRank runId nodeId db' ∨
        n.status ≠ .outcomeUncertain ∧ out = .result n.activityResult ∧ db' = db) := by
  obtain ⟨run, n, hrun, hfind, hready⟩ := hcan
  refine ⟨n, hfind, ?_⟩
  have hn := mem_of_getNodeRecord hfind
  cases lookupClaimed_of_commits hids h with
  | @started claim m hfind' hdue hclaimRun hnode hatom hattempt htables hnext =>
    left
    obtain rfl := Option.some.inj (hfind.symm.trans hfind')
    have hmod := getNodeRecord_modify (congrArg NodeTables.nodes htables) hfind (fun _ => rfl)
      fun _ => rfl
    refine ⟨?_, ⟨claim, rfl⟩, ?_⟩
    · unfold reconcileDue at hdue
      simp only [Bool.and_eq_true, decide_eq_true_eq, List.mem_cons, List.not_mem_nil,
        or_false] at hdue
      rcases hdue.1.2 with hstate | hstate <;> simp [nodeTerminal, hdue.1.1, hstate]
    · rw [nodeRank_of_find hfind, nodeRank_of_find hmod]
      exact rowRank_startLookup n
  | refused hnone htables =>
    right
    unfold claimReconcile at h
    rw [commits_read_bind] at h
    simp only [hrun, hfind] at h
    rw [commits_ite] at h
    by_cases hstatus : n.status = .outcomeUncertain
    · exfalso
      obtain ⟨hdue, hcount, hinputs, hlatest, ⟨atom, hatom⟩, binding, hbinding, hvalid⟩ :=
        hready hstatus
      obtain ⟨inputs, hinputs⟩ := Option.isSome_iff_exists.1 hinputs
      obtain ⟨create, hcreate⟩ := Option.isSome_iff_exists.1 hlatest
      rcases h with ⟨hnot, -⟩ | ⟨-, h⟩
      · simp [hstatus, reconcileNotDue_of_due hdue] at hnot
      · rw [commits_read_bind] at h
        simp only [hatom, hbinding, hcreate, hinputs, hvalid] at h
        rw [commits_raiseIf_bind, commits_bind] at h
        obtain ⟨-, attemptId, _, hid, h⟩ := h
        obtain ⟨rfl, rfl⟩ := commits_newFixtureId.1 hid
        rw [commits_bind] at h
        obtain ⟨started, _, hstart, h⟩ := h
        cases started with
        | none => exact absurd hstart (startReconcileAttempt_starts hids hn hdue hcount)
        | some started =>
          simp only [commits_pure] at h
          exact hnone _ h.1
    · rcases h with ⟨-, h⟩ | ⟨hnot, -⟩
      · obtain ⟨rfl, rfl⟩ := commits_pure.1 h
        exact ⟨hstatus, rfl, rfl⟩
      · exact absurd (Or.inl hstatus) hnot

end Claims

/-! ### What the calls do -/

section Calls

variable {worker : FixtureWorker} {runId : Uuid} {nodeId : String} {db db' : FixtureDb}
  {answer : FixtureNodeActivityResult}

theorem commits_of_answerOf {x : FixtureOp FixtureNodeActivityResult}
    (h : answerOf (x db) = some answer) : ∃ db', Commits x db answer db' := by
  unfold answerOf at h
  split at h
  · next reported db' heq =>
    obtain rfl := Option.some.inj h
    exact ⟨db', heq⟩
  · cases h

theorem failClaim_answer {claim : NodeExecutionClaim} {uncertain : Bool} {failure : FixtureFailure}
    {providerRequestId : Option String} {now : Instant}
    (hids : (db.nodes.map DataNodeRun.id).Nodup)
    (h : Commits (failClaim claim uncertain failure providerRequestId now) db answer db') :
    answer.status ≠ .ready := by
  unfold failClaim at h
  rw [commits_read_bind, commits_demand_bind] at h
  obtain ⟨n, hfind, h⟩ := h
  rw [commits_ite] at h
  rcases h with ⟨hdone, h⟩ | ⟨-, h⟩
  · obtain ⟨rfl, -⟩ := commits_pure.1 h
    intro hready
    change n.status = .ready at hready
    rw [hready] at hdone
    simp at hdone
  · rw [commits_read_bind, commits_demand_bind] at h
    obtain ⟨a, -, h⟩ := h
    rw [commits_bind] at h
    obtain ⟨_, _, hfail, h⟩ := h
    simp only [commits_demand_bind, commits_pure] at h
    obtain ⟨m, rfl, rfl, -⟩ := h
    have hm := commits_completeNodeFailure_status hids (mem_of_getNodeRecord hfind) hfail
    change m.status ≠ .ready
    rw [hm]
    cases uncertain <;> simp

theorem completeNode_answer {providerRequestId : Option String} {now : Instant}
    (hids : (db.nodes.map DataNodeRun.id).Nodup)
    (h : Commits (completeNode runId nodeId providerRequestId now) db answer db') :
    answer.status ≠ .ready := by
  unfold completeNode at h
  rw [commits_read_bind, commits_demand_bind] at h
  obtain ⟨n, hfind, h⟩ := h
  rw [commits_ite] at h
  rcases h with ⟨hdone, h⟩ | ⟨-, h⟩
  · obtain ⟨rfl, -⟩ := commits_pure.1 h
    change n.status ≠ .ready
    simp [hdone]
  · rw [commits_read_bind, commits_demand_bind] at h
    obtain ⟨a, -, h⟩ := h
    rw [commits_bind] at h
    obtain ⟨_, _, hdone, h⟩ := h
    simp only [commits_demand_bind, commits_pure] at h
    obtain ⟨m, rfl, rfl, -⟩ := h
    unfold completeNodeSuccess closeAttempt at hdone
    simp only [commits_bind, commits_update, commits_pure] at hdone
    obtain ⟨-, _, rfl, rows, _, hrows, hm, rfl⟩ := hdone
    obtain ⟨-, rfl, -⟩ := commits_updateNode_head hrows (fun _ => nodeAt_id) hids
      (mem_of_getNodeRecord hfind) hm
    change DataNodeRunStatus.succeeded ≠ .ready
    simp

/-- No report of an execution answers READY. -/
theorem endsExecution_answer {claim : NodeExecutionClaim} {e : FixtureEvent}
    (hids : (db.nodes.map DataNodeRun.id).Nodup) (hends : endsExecution claim e)
    (hanswer : reportAnswer worker e db = some answer) : answer.status ≠ .ready := by
  cases e with
  | failClaim =>
    obtain ⟨db', h⟩ := commits_of_answerOf hanswer
    exact failClaim_answer hids h
  | completeNode =>
    obtain ⟨db', h⟩ := commits_of_answerOf hanswer
    exact completeNode_answer hids h
  | _ => exact hends.elim

theorem nextActivity_execute : nextActivity answer = some .execute ↔ answer.status = .ready := by
  unfold nextActivity
  by_cases hready : answer.status = .ready
  · simp [hready]
  · by_cases hagain : answer.status = .outcomeUncertain ∧
      answer.failureCode ≠ some "RECONCILE_EXHAUSTED" <;> simp [hready, hagain]

variable {s t u : FixtureSystem} {now : Instant}

/-- A call of `execute_node` never answers READY, and if the loop goes on after it, the node has
left every READY it was in. -/
structure Executed (runId : Uuid) (nodeId : String) (s u : FixtureSystem)
    (answer : FixtureNodeActivityResult) : Prop where
  sound : NodesSound u.db
  le : nodeRank runId nodeId s.db ≤ nodeRank runId nodeId u.db
  notReady : answer.status ≠ .ready
  left : nextActivity answer = none ∨ ∀ q, q % 4 = 1 → q ≤ nodeRank runId nodeId s.db →
    q < nodeRank runId nodeId u.db

theorem lt_of_mod {q rank : ℕ} (hq : q % 4 = 1) (hle : q ≤ rank) (hrank : rank % 4 ≠ 1) :
    q < rank := by
  rcases hle.lt_or_eq with hlt | rfl
  · exact hlt
  · exact absurd hq hrank

/-- From a claim on that commits. -/
theorem NodesSound.claimed (runId : Uuid) (nodeId : String) (hs : NodesSound s.db)
    (e : FixtureEvent) (hclaim : Commits (e.transaction worker) s.db () db')
    (hafter : Meanwhile worker (e.apply worker s) u) :
    NodesSound u.db ∧ nodeRank runId nodeId s.db ≤ nodeRank runId nodeId db' ∧
      nodeRank runId nodeId db' ≤ nodeRank runId nodeId u.db := by
  have hdb := apply_db_of_commits hclaim
  have hclaimed : NodesSound (e.apply worker s).db := hdb ▸ hs.commits hclaim
  obtain ⟨hu, hle⟩ := hclaimed.run runId nodeId hafter
  have hmove := nodeMove_of_commits hs.inv.nodeIds hclaim
  exact ⟨hu, nodeRank_le_of_move hmove hs.inv.nodeIds, hdb ▸ hle⟩

theorem executed_of_claim {out : ClaimOutcome NodeExecutionClaim} (hs : NodesSound s.db)
    (hbefore : Meanwhile worker s t)
    (hclaim : Commits (claimNode worker runId nodeId now) t.db out db')
    (hafter : Meanwhile worker ((FixtureEvent.claimNode runId nodeId now).apply worker t) u)
    (hanswer : answer.status ≠ .ready)
    (hleft : (∃ failure, out = .invalid failure) → nextActivity answer = none) :
    Executed runId nodeId s u answer := by
  obtain ⟨ht, hst⟩ := hs.run runId nodeId hbefore
  have hcommits : Commits ((FixtureEvent.claimNode runId nodeId now).transaction worker) t.db ()
      db' := commits_discard.2 ⟨out, hclaim⟩
  obtain ⟨hu, hclaimed, hdu⟩ := ht.claimed runId nodeId _ hcommits hafter
  refine ⟨hu, hst.trans (hclaimed.trans hdu), hanswer, ?_⟩
  by_cases hout : ∃ failure, out = .invalid failure
  · exact Or.inl (hleft hout)
  · right
    intro q hq hle
    have hpast := claimNode_leaves ht.inv.nodeIds hclaim fun failure heq => hout ⟨failure, heq⟩
    exact (lt_of_mod hq (hle.trans (hst.trans hclaimed)) hpast).trans_le hdu

theorem executed_of_call (hs : NodesSound s.db)
    (hcall : ExecuteCall worker runId nodeId s u answer) : Executed runId nodeId s u answer := by
  cases hcall with
  | answered hbefore hclaim hafter =>
    have ht := (hs.run runId nodeId hbefore).1
    exact executed_of_claim hs hbefore hclaim hafter
      (claimNode_answered ht.inv.nodeIds hclaim).1 (by simp)
  | @invalid _ _ _ _ finishedAt failure _ _ hbefore hclaim hmid hfail hafter =>
    have hreport :=
      (run_snoc hmid (.failUnclaimed runId nodeId failure finishedAt) trivial trivial).trans hafter
    exact executed_of_claim hs hbefore hclaim hreport (by simp [invalidResult])
      fun _ => by simp [nextActivity, invalidResult]
  | @reported _ _ _ now _ _ _ hbefore hclaim hmid e hends henabled hanswer hafter =>
    have hreport := (run_snoc hmid e henabled trivial).trans hafter
    have ht := (hs.run runId nodeId hbefore).1
    have hu := (ht.claimed runId nodeId (.claimNode runId nodeId now)
      (commits_discard.2 ⟨_, hclaim⟩) hmid).1
    exact executed_of_claim hs hbefore hclaim hreport
      (endsExecution_answer hu.inv.nodeIds hends hanswer) (by simp)

/-- A lookup that may start takes the node further, or finds it out of doubt. -/
structure LookedUp (runId : Uuid) (nodeId : String) (s u : FixtureSystem) (n : DataNodeRun)
    (answer : FixtureNodeActivityResult) : Prop where
  sound : NodesSound u.db
  onward : nodeTerminal n = false ∧ nodeRank runId nodeId s.db < nodeRank runId nodeId u.db ∨
    n.status ≠ .outcomeUncertain ∧ answer = n.activityResult ∧
      nodeRank runId nodeId s.db ≤ rowRank n ∧ rowRank n ≤ nodeRank runId nodeId u.db

theorem lookedUp_of_claim {out : ClaimOutcome NodeReconcileClaim} (hs : NodesSound s.db)
    (hcan : CanLookUp worker runId nodeId t.db now) (hbefore : Meanwhile worker s t)
    (hclaim : Commits (claimReconcile worker runId nodeId now) t.db out db')
    (hafter : Meanwhile worker ((FixtureEvent.claimReconcile runId nodeId now).apply worker t) u)
    (hanswer : ∀ result, out = .result result → answer = result) :
    ∃ n, t.db.getNodeRecord runId nodeId = some n ∧ LookedUp runId nodeId s u n answer := by
  obtain ⟨ht, hst⟩ := hs.run runId nodeId hbefore
  have hcommits : Commits ((FixtureEvent.claimReconcile runId nodeId now).transaction worker) t.db
      () db' := commits_discard.2 ⟨out, hclaim⟩
  obtain ⟨hu, hclaimed, hdu⟩ := ht.claimed runId nodeId _ hcommits hafter
  obtain ⟨n, hfind, hn⟩ := claimReconcile_of_canLookUp ht.inv.nodeIds hcan hclaim
  refine ⟨n, hfind, hu, ?_⟩
  rcases hn with ⟨hterminal, -, hlt⟩ | ⟨hstatus, hout, -⟩
  · exact Or.inl ⟨hterminal, hst.trans_lt (hlt.trans_le hdu)⟩
  · rw [nodeRank_of_find hfind] at hst hclaimed
    exact Or.inr ⟨hstatus, hanswer _ hout, hst, hclaimed.trans hdu⟩

theorem lookedUp_of_call (hs : NodesSound s.db) (hcan : CanLookUp worker runId nodeId t.db now)
    (hcall : ReconcileCall worker runId nodeId s t now u answer) :
    ∃ n, t.db.getNodeRecord runId nodeId = some n ∧ LookedUp runId nodeId s u n answer := by
  cases hcall with
  | answered hbefore hclaim hafter =>
    exact lookedUp_of_claim hs hcan hbefore hclaim hafter (by simp)
  | invalid hbefore hclaim hafter =>
    exact lookedUp_of_claim hs hcan hbefore hclaim hafter (by simp)
  | reported hbefore hclaim hmid e hends henabled hanswer hafter =>
    have hreport := (run_snoc hmid e henabled trivial).trans hafter
    exact lookedUp_of_claim hs hcan hbefore hclaim hreport (by simp)

end Calls

/-! ### The loop ends -/

section Loop

variable {worker : FixtureWorker} {runId : Uuid} {nodeId : String} {s : FixtureSystem}
  {loop : NodeLoop}

/-- Every lookup has taken the node further. A call that found it out of doubt is made good
once the READY node has been executed, or it was the last. -/
structure LoopInv (runId : Uuid) (nodeId : String) (loop : NodeLoop) : Prop where
  sound : NodesSound loop.system.db
  executions : loop.executions + (if loop.outcome.status = .ready then 1 else 0) ≤
    loop.reconciles + 1
  terminal : loop.terminalReconciles = 0 ∨
    loop.terminalReconciles = 1 ∧ nextActivity loop.outcome = none
  reconciles : loop.reconciles ≤ nodeRank runId nodeId loop.system.db ∨
    ∃ q, loop.reconciles ≤ q + 1 ∧ q ≤ nodeRank runId nodeId loop.system.db ∧
      (nextActivity loop.outcome = none ∨ loop.outcome.status = .ready ∧ q % 4 = 1)

theorem nextActivity_row {n : DataNodeRun} (h : n.status ≠ .outcomeUncertain) :
    nextActivity n.activityResult = none ∨ n.activityResult.status = .ready := by
  have hstatus : n.activityResult.status = n.status := rfl
  unfold nextActivity
  rw [hstatus]
  by_cases hready : n.status = .ready
  · exact Or.inr hready
  · left
    simp [hready, h]

theorem nextActivity_terminal {n : DataNodeRun} (h : n.status ≠ .outcomeUncertain)
    (hterminal : nodeTerminal n = true) : nextActivity n.activityResult = none := by
  refine (nextActivity_row h).resolve_right fun hready => ?_
  change n.status = .ready at hready
  simp [nodeTerminal, hready] at hterminal

theorem not_ready_of_reconcile {outcome : FixtureNodeActivityResult}
    (h : nextActivity outcome = some .reconcile) : outcome.status ≠ .ready := by
  intro hready
  rw [nextActivity_execute.2 hready] at h
  cases h

theorem LoopInv.executed {t : FixtureSystem} {answer : FixtureNodeActivityResult}
    (hi : LoopInv runId nodeId loop) (hnext : nextActivity loop.outcome = some .execute)
    (hcall : Executed runId nodeId loop.system t answer) :
    LoopInv runId nodeId (loop.executed t answer) := by
  have hready := nextActivity_execute.1 hnext
  have hexecutions := hi.executions
  rw [if_pos hready] at hexecutions
  refine ⟨hcall.sound, ?_, ?_, ?_⟩
  · change loop.executions + 1 + (if answer.status = .ready then 1 else 0) ≤ loop.reconciles + 1
    rw [if_neg hcall.notReady]
    omega
  · exact Or.inl (hi.terminal.resolve_right fun h => by simp [hnext] at h)
  · rcases hi.reconciles with hle | ⟨q, hle, hq, hnone | ⟨-, hmod⟩⟩
    · exact Or.inl (hle.trans hcall.le)
    · simp [hnext] at hnone
    · rcases hcall.left with hstop | hleft
      · exact Or.inr ⟨q, hle, hq.trans hcall.le, Or.inl hstop⟩
      · exact Or.inl (hle.trans (hleft q hmod hq))

theorem LoopInv.reconciled {t : FixtureSystem} {n : DataNodeRun}
    {answer : FixtureNodeActivityResult} (hi : LoopInv runId nodeId loop)
    (hnext : nextActivity loop.outcome = some .reconcile)
    (hcall : LookedUp runId nodeId loop.system t n answer) :
    LoopInv runId nodeId (loop.reconciled (some n) t answer) := by
  have hready := not_ready_of_reconcile hnext
  have hexecutions := hi.executions
  rw [if_neg hready] at hexecutions
  have hterminal := hi.terminal.resolve_right fun h => by simp [hnext] at h
  have hreconciles : loop.reconciles ≤ nodeRank runId nodeId loop.system.db := by
    rcases hi.reconciles with hle | ⟨q, -, -, hnone | ⟨hready', -⟩⟩
    · exact hle
    · simp [hnext] at hnone
    · exact absurd hready' hready
  refine ⟨hcall.sound, ?_, ?_, ?_⟩
  · change loop.executions + (if answer.status = .ready then 1 else 0) ≤ loop.reconciles + 1 + 1
    split <;> omega
  · simp only [NodeLoop.reconciled, hterminal, Option.any_some, Nat.zero_add]
    rcases hcall.onward with ⟨hlive, -⟩ | ⟨hstatus, rfl, -, -⟩
    · simp [hlive]
    · by_cases hend : nodeTerminal n = true
      · exact Or.inr ⟨if_pos hend, nextActivity_terminal hstatus hend⟩
      · exact Or.inl (if_neg hend)
  · rcases hcall.onward with ⟨-, hlt⟩ | ⟨hstatus, rfl, hfrom, hto⟩
    · exact Or.inl (Nat.succ_le_of_lt (hreconciles.trans_lt hlt))
    · refine Or.inr ⟨rowRank n, Nat.succ_le_succ (hreconciles.trans hfrom), hto, ?_⟩
      exact (nextActivity_row hstatus).imp_right fun hready => ⟨hready, rowRank_mod.2 hready⟩

theorem loopInv_run (hs : NodesSound s.db)
    (hrun : NodeLoopRun worker (CanLookUp worker runId nodeId) runId nodeId s loop) :
    LoopInv runId nodeId loop := by
  induction hrun with
  | start hcall =>
    have hexecuted := executed_of_call hs hcall
    exact ⟨hexecuted.sound, by simp [hexecuted.notReady], Or.inl rfl, Or.inl (Nat.zero_le _)⟩
  | execute hrun hnext hcall ih => exact ih.executed hnext (executed_of_call ih.sound hcall)
  | reconcile hrun hnext hok hcall ih =>
    obtain ⟨n, hfind, hlooked⟩ := lookedUp_of_call ih.sound hok hcall
    rw [hfind]
    exact ih.reconciled hnext hlooked

/-- The loop is over after a bounded number of calls, and it asks at most once about a node that
is in a terminal state. -/
structure LoopEnds (worker : FixtureWorker) (loop : NodeLoop) : Prop where
  reconciles : loop.reconciles ≤ worker.reconcileMaxAttempts + 131
  executions : loop.executions ≤ loop.reconciles + 1
  terminal : loop.terminalReconciles ≤ 1

theorem node_loop_ends {s₀ : FixtureSystem} (hfresh : s₀.Fresh) (hreached : Meanwhile worker s₀ s)
    (hrun : NodeLoopRun worker (CanLookUp worker runId nodeId) runId nodeId s loop) :
    LoopEnds worker loop := by
  have hs := ((nodesSound_of_fresh hfresh).run runId nodeId hreached).1
  have hi := loopInv_run hs hrun
  have hrank := hi.sound.nodeRank_le runId nodeId
  have hattempts := worker.reconcileAttempts
  constructor
  · rcases hi.reconciles with hle | ⟨q, hle, hq, -⟩ <;> omega
  · exact le_of_add_le_left hi.executions
  · rcases hi.terminal with h | ⟨h, -⟩ <;> omega

end Loop

/-! ### A shop whose lookups may be tried once -/

def hastyWorker : FixtureWorker :=
  { shopWorker with reconcileMaxAttempts := 1, reconcileAttempts := by decide }

/-- The worker that was creating the order has died, and another one gave it up. -/
def abandoned : FixtureSystem :=
  (FixtureEvent.claimNode 100 "order" 2).apply hastyWorker
    ((FixtureEvent.claimNode 100 "order" 1).apply hastyWorker
      ((FixtureEvent.create orderStart 0).apply hastyWorker shop))

theorem abandoned_run : Meanwhile hastyWorker shop abandoned := by
  have hstart : Meanwhile hastyWorker shop shop := .refl
  have hcreated := run_snoc hstart (.create orderStart 0) trivial trivial
  have hcreating := run_snoc hcreated (.claimNode 100 "order" 1) trivial trivial
  exact run_snoc hcreating (.claimNode 100 "order" 2) trivial trivial

def lookedUp : FixtureSystem :=
  (FixtureEvent.claimReconcile 100 "order" 3).apply hastyWorker abandoned

def orderLookup : NodeReconcileClaim := lookedUp.lookups.head (by decide)

def inconclusive : FixtureFailure :=
  ⟨.uncertain, "RECONCILE_INCONCLUSIVE", "The provider could not prove the outcome."⟩

def lookupReport : FixtureEvent :=
  .reconcileInconclusive orderLookup .inconclusive inconclusive none true none 4

def uncertainAnswer (code : String) : FixtureNodeActivityResult :=
  ⟨"order", .outcomeUncertain, some .uncertain, some code⟩

theorem abandoned_claimed : claimNode hastyWorker 100 "order" 3 abandoned.db =
    .ok (.result (uncertainAnswer replayUncertain.code), abandoned.db) := by
  rfl

theorem abandoned_canLookUp : CanLookUp hastyWorker 100 "order" abandoned.db 3 := by
  refine ⟨abandoned.db.runs.head (by decide), abandoned.db.nodes.head (by decide),
    by decide, by decide, fun _ => ⟨by decide, by decide,
      by decide, by decide, ⟨⟨80, orderContract, 7⟩, rfl⟩, ?_⟩⟩
  exact ⟨(abandoned.db.getBindingRecord 100 "buyer").get (by decide), by decide,
    by decide⟩

/-- The one lookup is inconclusive and spends the budget: the loop is over. -/
theorem spent_lookup_ends : ∃ loop : NodeLoop, loop.reconciles = 1 ∧
    nextActivity loop.outcome = none ∧ LoopEnds hastyWorker loop := by
  have hexecute : ExecuteCall hastyWorker 100 "order" abandoned
      ((FixtureEvent.claimNode 100 "order" 3).apply hastyWorker abandoned)
      (uncertainAnswer replayUncertain.code) := .answered .refl abandoned_claimed .refl
  have hsame : (FixtureEvent.claimNode 100 "order" 3).apply hastyWorker abandoned = abandoned := by
    decide
  rw [hsame] at hexecute
  have hcall : ReconcileCall hastyWorker 100 "order" abandoned abandoned 3
      (lookupReport.apply hastyWorker lookedUp) (uncertainAnswer "RECONCILE_EXHAUSTED") :=
    .reported .refl (show claimReconcile hastyWorker 100 "order" 3 abandoned.db =
      .ok (.claimed orderLookup, lookedUp.db) from rfl) .refl lookupReport rfl
      (show orderLookup ∈ lookedUp.lookups from List.head_mem _) (by decide) .refl
  have hstart : NodeLoopRun hastyWorker (CanLookUp hastyWorker 100 "order") 100 "order" abandoned
      _ := .start hexecute
  have hrun := hstart.reconcile (by decide) abandoned_canLookUp hcall
  exact ⟨_, rfl, by decide, node_loop_ends shop_fresh abandoned_run hrun⟩

/-- The lookup was never reported, and the sweeper has ended it. -/
def expired : FixtureSystem :=
  (FixtureEvent.recoverClaims (seconds 6) 10).apply hastyWorker lookedUp

theorem expired_run : Meanwhile hastyWorker shop expired := by
  have hlookedUp := run_snoc abandoned_run (.claimReconcile 100 "order" 3) trivial trivial
  exact run_snoc hlookedUp (.recoverClaims (seconds 6) 10) trivial trivial

theorem expired_executed : ExecuteCall hastyWorker 100 "order" expired expired
    (uncertainAnswer reconcileClaimExpired.code) := by
  have hsame : (FixtureEvent.claimNode 100 "order" 7).apply hastyWorker expired = expired := by
    decide
  exact .answered .refl (show claimNode hastyWorker 100 "order" 7 expired.db =
    .ok (.result (uncertainAnswer reconcileClaimExpired.code), expired.db) from rfl)
    (hsame.symm ▸ .refl)

theorem expired_polled : ReconcileCall hastyWorker 100 "order" expired expired 7 expired
    (uncertainAnswer reconcileClaimExpired.code) := by
  have hsame : (FixtureEvent.claimReconcile 100 "order" 7).apply hastyWorker expired = expired := by
    decide
  exact .answered .refl (show claimReconcile hastyWorker 100 "order" 7 expired.db =
    .ok (.result (uncertainAnswer reconcileClaimExpired.code), expired.db) from rfl)
    (hsame.symm ▸ .refl)

/-- The loop has asked `k` times about the EXHAUSTED node. -/
def polled (k : ℕ) : NodeLoop where
  system := expired
  outcome := uncertainAnswer reconcileClaimExpired.code
  executions := 1
  reconciles := k
  terminalReconciles := k

theorem polled_run (k : ℕ) : NodeLoopRun hastyWorker (fun _ _ => True) 100 "order" expired
    (polled k) := by
  induction k with
  | zero => exact .start expired_executed
  | succ k ih =>
    have hterminal : (expired.db.getNodeRecord 100 "order").any nodeTerminal = true := by
      decide
    have hnext : nextActivity (uncertainAnswer reconcileClaimExpired.code) = some .reconcile := by
      decide
    have hagain := ih.reconcile hnext trivial expired_polled
    rwa [NodeLoop.reconciled, hterminal] at hagain

/-- The sweeper's EXHAUSTED carries RECONCILE_CLAIM_EXPIRED, which the loop takes for an outcome
that is still to be looked up. -/
theorem expired_lookup_polled_forever : shop.Fresh ∧ Meanwhile hastyWorker shop expired ∧
    ∀ bound, ∃ loop, NodeLoopRun hastyWorker (fun _ _ => True) 100 "order" expired loop ∧
      bound < loop.reconciles ∧ bound < loop.terminalReconciles :=
  ⟨shop_fresh, expired_run, fun bound =>
    ⟨polled (bound + 1), polled_run _, Nat.lt_succ_self _, Nat.lt_succ_self _⟩⟩

end Atlas.Proofs.NodeLoops
