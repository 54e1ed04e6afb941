import AtlasTestOps.Proofs.NodeMoves

/-! What holds of the nodes of fixture runs in every state: the reconcile state fits the
state of the node, and a node has a RUNNING attempt only while a worker is busy with it, and
then one. -/

namespace Atlas.Proofs

open Atlas Atlas.Identity Atlas.Fixture Atlas.Store Atlas.Service Txn

/-- The reconcile states that a node can be in, by its own state. -/
def reconcileStatesOf : DataNodeRunStatus → List FixtureReconcileState
  | .pending => [.notRequired]
  | .ready => [.absent]
  | .running => [.notRequired, .absent]
  | .verifying => [.notRequired, .absent, .found]
  | .outcomeUncertain => [.pending, .running, .inconclusive, .exhausted]
  | .succeeded => [.notRequired, .absent, .found]
  | .failed => [.notRequired, .absent, .found, .exhausted]

def RowFits (n : DataNodeRun) : Prop := n.reconcileState ∈ reconcileStatesOf n.status

/-- The states in which a node may still have a RUNNING attempt. -/
def Busy (n : DataNodeRun) : Prop :=
  n.status ∈ [.running, .verifying, .succeeded] ∧ n.reconcileState ≠ .found

structure NodeInv (t : NodeTables) (next : ℕ) : Prop where
  nodeIds : (t.nodes.map DataNodeRun.id).Nodup
  attemptIds : (t.attempts.map DataNodeAttempt.id).Nodup
  reconcileIds : (t.reconcileAttempts.map DataNodeReconcileAttempt.id).Nodup
  nodesBelow : ∀ n ∈ t.nodes, n.id < next
  attemptsBelow : ∀ a ∈ t.attempts, a.id < next
  reconcilesBelow : ∀ a ∈ t.reconcileAttempts, a.id < next
  attemptNode : ∀ a ∈ t.attempts, ∃ n ∈ t.nodes, n.id = a.dataNodeRunId
  reconcileNode : ∀ a ∈ t.reconcileAttempts, ∃ n ∈ t.nodes, n.id = a.dataNodeRunId
  fits : ∀ n ∈ t.nodes, RowFits n
  busy : ∀ n ∈ t.nodes, ∀ a ∈ t.attempts, a.dataNodeRunId = n.id → a.status = .running → Busy n
  single : ∀ a ∈ t.attempts, ∀ b ∈ t.attempts, a.dataNodeRunId = b.dataNodeRunId →
    a.status = .running → b.status = .running → a = b

theorem nodeInv_of_fresh {s : FixtureSystem} (h : s.Fresh) : NodeInv (nodeTables s.db) s.db.nextId := by
  unfold nodeTables
  rw [h.nodes, h.attempts, h.reconcileAttempts]
  constructor <;> simp

section Moves

variable {t : NodeTables} {next : ℕ}

theorem NodeInv.mono (hi : NodeInv t next) {next' : ℕ} (h : next ≤ next') : NodeInv t next' where
  nodeIds := hi.nodeIds
  attemptIds := hi.attemptIds
  reconcileIds := hi.reconcileIds
  nodesBelow n hn := (hi.nodesBelow n hn).trans_le h
  attemptsBelow a ha := (hi.attemptsBelow a ha).trans_le h
  reconcilesBelow a ha := (hi.reconcilesBelow a ha).trans_le h
  attemptNode := hi.attemptNode
  reconcileNode := hi.reconcileNode
  fits := hi.fits
  busy := hi.busy
  single := hi.single

/-- Rows of nodes rewritten in place. -/
theorem NodeInv.mapNodes (hi : NodeInv t next) {g : DataNodeRun → DataNodeRun}
    (hid : ∀ n, (g n).id = n.id) (hfits : ∀ n ∈ t.nodes, RowFits (g n))
    (hbusy : ∀ n ∈ t.nodes, ∀ a ∈ t.attempts, a.dataNodeRunId = n.id → a.status = .running →
      Busy (g n)) : NodeInv { t with nodes := t.nodes.map g } next := by
  have hids : (t.nodes.map g).map DataNodeRun.id = t.nodes.map DataNodeRun.id := by
    rw [List.map_map]
    exact List.map_congr_left fun n _ => hid n
  have hsome : ∀ id, (∃ n ∈ t.nodes, n.id = id) → ∃ n ∈ t.nodes.map g, n.id = id := by
    rintro _ ⟨n, hn, rfl⟩
    exact ⟨g n, List.mem_map_of_mem hn, hid n⟩
  exact
    { nodeIds := hids ▸ hi.nodeIds
      attemptIds := hi.attemptIds
      reconcileIds := hi.reconcileIds
      nodesBelow := by
        intro n hn
        obtain ⟨m, hm, rfl⟩ := List.mem_map.1 hn
        exact hid m ▸ hi.nodesBelow m hm
      attemptsBelow := hi.attemptsBelow
      reconcilesBelow := hi.reconcilesBelow
      attemptNode := fun a ha => hsome _ (hi.attemptNode a ha)
      reconcileNode := fun a ha => hsome _ (hi.reconcileNode a ha)
      fits := by
        intro n hn
        obtain ⟨m, hm, rfl⟩ := List.mem_map.1 hn
        exact hfits m hm
      busy := by
        intro n hn a ha hnode hrunning
        obtain ⟨m, hm, rfl⟩ := List.mem_map.1 hn
        exact hbusy m hm a ha (hnode.trans (hid m)) hrunning
      single := hi.single }

theorem NodeInv.modify (hi : NodeInv t next) {n : DataNodeRun} {f : DataNodeRun → DataNodeRun}
    (hn : n ∈ t.nodes) (hid : ∀ m, (f m).id = m.id) (hfits : RowFits (f n))
    (hbusy : ∀ a ∈ t.attempts, a.dataNodeRunId = n.id → a.status = .running → Busy (f n)) :
    NodeInv (modifyNode n.id f t) next := by
  apply hi.mapNodes
  · intro m
    split
    · exact hid m
    · rfl
  · intro m hm
    split
    · next h =>
      obtain rfl := Table.eq_of_key hi.nodeIds hm hn h
      exact hfits
    · exact hi.fits m hm
  · intro m hm a ha hnode hrunning
    split
    · next h =>
      obtain rfl := Table.eq_of_key hi.nodeIds hm hn h
      exact hbusy a ha hnode hrunning
    · exact hi.busy m hm a ha hnode hrunning

/-- Attempts that are closed in place. -/
theorem NodeInv.mapAttempts (hi : NodeInv t next) {g : DataNodeAttempt → DataNodeAttempt}
    (hid : ∀ a, (g a).id = a.id) (hnode : ∀ a, (g a).dataNodeRunId = a.dataNodeRunId)
    (hrunning : ∀ a, (g a).status = .running → g a = a) : NodeInv (mapAttempts g t) next := by
  have hold : ∀ b ∈ t.attempts.map g, ∃ a ∈ t.attempts, b.id = a.id ∧
      b.dataNodeRunId = a.dataNodeRunId ∧ (b.status = .running → b = a) := by
    intro b hb
    obtain ⟨a, ha, rfl⟩ := List.mem_map.1 hb
    exact ⟨a, ha, hid a, hnode a, hrunning a⟩
  exact
    { nodeIds := hi.nodeIds
      attemptIds := by
        have hids : (t.attempts.map g).map DataNodeAttempt.id = t.attempts.map DataNodeAttempt.id := by
          rw [List.map_map]
          exact List.map_congr_left fun a _ => hid a
        exact hids ▸ hi.attemptIds
      reconcileIds := hi.reconcileIds
      nodesBelow := hi.nodesBelow
      attemptsBelow := by
        intro b hb
        obtain ⟨a, ha, heq, -⟩ := hold b hb
        exact heq ▸ hi.attemptsBelow a ha
      reconcilesBelow := hi.reconcilesBelow
      attemptNode := by
        intro b hb
        obtain ⟨a, ha, -, heq, -⟩ := hold b hb
        exact heq ▸ hi.attemptNode a ha
      reconcileNode := hi.reconcileNode
      fits := hi.fits
      busy := by
        intro n hn b hb heq hrun
        obtain ⟨a, ha, -, -, hsame⟩ := hold b hb
        obtain rfl := hsame hrun
        exact hi.busy n hn b ha heq hrun
      single := by
        intro b hb b' hb' heq hrun hrun'
        obtain ⟨a, ha, -, -, hsame⟩ := hold b hb
        obtain ⟨a', ha', -, -, hsame'⟩ := hold b' hb'
        obtain rfl := hsame hrun
        obtain rfl := hsame' hrun'
        exact hi.single b ha b' ha' heq hrun hrun' }

theorem NodeInv.mapReconciles (hi : NodeInv t next)
    {g : DataNodeReconcileAttempt → DataNodeReconcileAttempt} (hid : ∀ a, (g a).id = a.id)
    (hnode : ∀ a, (g a).dataNodeRunId = a.dataNodeRunId) : NodeInv (mapReconciles g t) next := by
  exact
    { nodeIds := hi.nodeIds
      attemptIds := hi.attemptIds
      reconcileIds := by
        have hids : (t.reconcileAttempts.map g).map DataNodeReconcileAttempt.id =
            t.reconcileAttempts.map DataNodeReconcileAttempt.id := by
          rw [List.map_map]
          exact List.map_congr_left fun a _ => hid a
        exact hids ▸ hi.reconcileIds
      nodesBelow := hi.nodesBelow
      attemptsBelow := hi.attemptsBelow
      reconcilesBelow := by
        intro b hb
        obtain ⟨a, ha, rfl⟩ := List.mem_map.1 hb
        exact hid a ▸ hi.reconcilesBelow a ha
      attemptNode := hi.attemptNode
      reconcileNode := by
        intro b hb
        obtain ⟨a, ha, rfl⟩ := List.mem_map.1 hb
        exact hnode a ▸ hi.reconcileNode a ha
      fits := hi.fits
      busy := hi.busy
      single := hi.single }

theorem nodup_snoc {α : Type} {key : α → ℕ} {rows : List α} {a : α}
    (h : (rows.map key).Nodup) (hbelow : ∀ b ∈ rows, key b < key a) :
    ((rows ++ [a]).map key).Nodup := by
  rw [List.map_append, List.nodup_append]
  refine ⟨h, List.nodup_singleton _, ?_⟩
  intro k hk k' hk' heq
  obtain ⟨b, hb, rfl⟩ := List.mem_map.1 hk
  rw [List.map_singleton, List.mem_singleton] at hk'
  have hlt := hbelow b hb
  omega

/-- A new attempt of a node that has none RUNNING. -/
theorem NodeInv.addAttempt (hi : NodeInv t next) {n : DataNodeRun} {a : DataNodeAttempt}
    (hn : n ∈ t.nodes) (ha : a.id = next) (hnode : a.dataNodeRunId = n.id) (hbusy : Busy n)
    (hidle : ∀ b ∈ t.attempts, b.dataNodeRunId = n.id → b.status ≠ .running) :
    NodeInv (addAttempt a t) (next + 1) := by
  exact
    { nodeIds := hi.nodeIds
      attemptIds := nodup_snoc hi.attemptIds fun b hb => ha ▸ hi.attemptsBelow b hb
      reconcileIds := hi.reconcileIds
      nodesBelow := fun m hm => (hi.nodesBelow m hm).trans (Nat.lt_succ_self _)
      attemptsBelow := by
        intro b hb
        rcases List.mem_append.1 hb with hold | hnew
        · exact (hi.attemptsBelow b hold).trans (Nat.lt_succ_self _)
        · rw [List.mem_singleton.1 hnew, ha]
          exact Nat.lt_succ_self _
      reconcilesBelow := fun b hb => (hi.reconcilesBelow b hb).trans (Nat.lt_succ_self _)
      attemptNode := by
        intro b hb
        rcases List.mem_append.1 hb with hb | hb
        · exact hi.attemptNode b hb
        · obtain rfl := List.mem_singleton.1 hb
          exact ⟨n, hn, hnode.symm⟩
      reconcileNode := hi.reconcileNode
      fits := hi.fits
      busy := by
        intro m hm b hb heq hrun
        rcases List.mem_append.1 hb with hb | hb
        · exact hi.busy m hm b hb heq hrun
        · obtain rfl := List.mem_singleton.1 hb
          obtain rfl := Table.eq_of_key hi.nodeIds hm hn (heq.symm.trans hnode)
          exact hbusy
      single := by
        intro b hb c hc heq hrun hrun'
        rcases List.mem_append.1 hb with hb' | hb' <;> rcases List.mem_append.1 hc with hc' | hc'
        · exact hi.single b hb' c hc' heq hrun hrun'
        · rw [List.mem_singleton.1 hc'] at heq
          exact absurd hrun (hidle b hb' (heq.trans hnode))
        · rw [List.mem_singleton.1 hb'] at heq
          exact absurd hrun' (hidle c hc' (heq.symm.trans hnode))
        · rw [List.mem_singleton.1 hb', List.mem_singleton.1 hc'] }

theorem NodeInv.addReconcile (hi : NodeInv t next) {a : DataNodeReconcileAttempt}
    (ha : a.id = next) (hnode : ∃ n ∈ t.nodes, n.id = a.dataNodeRunId) :
    NodeInv (addReconcile a t) (next + 1) := by
  exact
    { nodeIds := hi.nodeIds
      attemptIds := hi.attemptIds
      reconcileIds := nodup_snoc hi.reconcileIds fun b hb => ha ▸ hi.reconcilesBelow b hb
      nodesBelow := fun m hm => (hi.nodesBelow m hm).trans (Nat.lt_succ_self _)
      attemptsBelow := fun b hb => (hi.attemptsBelow b hb).trans (Nat.lt_succ_self _)
      reconcilesBelow := by
        intro b hb
        rcases List.mem_append.1 hb with hold | hnew
        · exact (hi.reconcilesBelow b hold).trans (Nat.lt_succ_self _)
        · rw [List.mem_singleton.1 hnew, ha]
          exact Nat.lt_succ_self _
      attemptNode := hi.attemptNode
      reconcileNode := by
        intro b hb
        rcases List.mem_append.1 hb with hb | hb
        · exact hi.reconcileNode b hb
        · obtain rfl := List.mem_singleton.1 hb
          exact hnode
      fits := hi.fits
      busy := hi.busy
      single := hi.single }

/-- The nodes of a new run. -/
theorem NodeInv.addNodes (hi : NodeInv t next) {new : List DataNodeRun} {k : ℕ} (hk : next ≤ k)
    (hids : new.map DataNodeRun.id = List.range' k new.length)
    (hnew : ∀ n ∈ new, n.status = .pending ∧ n.reconcileState = .notRequired) :
    NodeInv (addNodes new t) (k + new.length) := by
  have hrange : ∀ n ∈ new, k ≤ n.id ∧ n.id < k + new.length := by
    intro n hn
    have hmem : n.id ∈ new.map DataNodeRun.id := List.mem_map_of_mem hn
    rw [hids, List.mem_range'_1] at hmem
    exact hmem
  have hle : next ≤ k + new.length := hk.trans (Nat.le_add_right _ _)
  exact
    { nodeIds := by
        rw [show (Proofs.addNodes new t).nodes = t.nodes ++ new from rfl, List.map_append,
          List.nodup_append]
        refine ⟨hi.nodeIds, hids ▸ List.nodup_range', ?_⟩
        intro i hi' j hj heq
        obtain ⟨n, hn, rfl⟩ := List.mem_map.1 hi'
        obtain ⟨m, hm, rfl⟩ := List.mem_map.1 hj
        have hlt := (hi.nodesBelow n hn).trans_le hk
        exact absurd heq (hlt.trans_le (hrange m hm).1).ne
      attemptIds := hi.attemptIds
      reconcileIds := hi.reconcileIds
      nodesBelow := by
        intro n hn
        rcases List.mem_append.1 hn with hn | hn
        · exact (hi.nodesBelow n hn).trans_le hle
        · exact (hrange n hn).2
      attemptsBelow := fun a ha => (hi.attemptsBelow a ha).trans_le hle
      reconcilesBelow := fun a ha => (hi.reconcilesBelow a ha).trans_le hle
      attemptNode := by
        intro a ha
        obtain ⟨n, hn, heq⟩ := hi.attemptNode a ha
        exact ⟨n, List.mem_append_left _ hn, heq⟩
      reconcileNode := by
        intro a ha
        obtain ⟨n, hn, heq⟩ := hi.reconcileNode a ha
        exact ⟨n, List.mem_append_left _ hn, heq⟩
      fits := by
        intro n hn
        rcases List.mem_append.1 hn with hn | hn
        · exact hi.fits n hn
        · unfold RowFits
          rw [(hnew n hn).1, (hnew n hn).2]
          decide
      busy := by
        intro n hn a ha heq hrun
        rcases List.mem_append.1 hn with hn | hn
        · exact hi.busy n hn a ha heq hrun
        · obtain ⟨m, hm, hid⟩ := hi.attemptNode a ha
          have hlt := (hi.nodesBelow m hm).trans_le hk
          exact absurd (hid.trans heq) (hlt.trans_le (hrange n hn).1).ne
      single := hi.single }

end Moves

/-! ### Closed attempts -/

section Closed

variable {attemptId : Uuid} {failure : Option FixtureFailure} {providerRequestId : Option String}
  {now : Instant}

@[simp] theorem closedAttempt_id (status : DataNodeAttemptStatus) (a : DataNodeAttempt) :
    (closedAttempt attemptId status failure providerRequestId now a).id = a.id := by
  unfold closedAttempt
  split <;> rfl

@[simp] theorem closedAttempt_node (status : DataNodeAttemptStatus) (a : DataNodeAttempt) :
    (closedAttempt attemptId status failure providerRequestId now a).dataNodeRunId =
      a.dataNodeRunId := by
  unfold closedAttempt
  split <;> rfl

/-- What is RUNNING after the close was not closed. -/
theorem closedAttempt_running {status : DataNodeAttemptStatus} (hstatus : status ≠ .running)
    {a : DataNodeAttempt}
    (h : (closedAttempt attemptId status failure providerRequestId now a).status = .running) :
    closedAttempt attemptId status failure providerRequestId now a = a ∧
      ¬ (a.id = attemptId ∧ a.status = .running) := by
  unfold closedAttempt at h ⊢
  split at h
  · exact absurd h hstatus
  · next hnot => exact ⟨if_neg hnot, hnot⟩

@[simp] theorem closedReconcile_id (status : DataNodeReconcileAttemptStatus)
    (a : DataNodeReconcileAttempt) :
    (closedReconcileAttempt attemptId status failure providerRequestId now a).id = a.id := by
  unfold closedReconcileAttempt
  split <;> rfl

@[simp] theorem closedReconcile_node (status : DataNodeReconcileAttemptStatus)
    (a : DataNodeReconcileAttempt) :
    (closedReconcileAttempt attemptId status failure providerRequestId now a).dataNodeRunId =
      a.dataNodeRunId := by
  unfold closedReconcileAttempt
  split <;> rfl

@[simp] theorem expireReconcile_id (expired : List Uuid) (a : DataNodeReconcileAttempt) :
    (expireReconcileAttempt expired now a).id = a.id := by
  unfold expireReconcileAttempt
  split <;> rfl

@[simp] theorem expireReconcile_node (expired : List Uuid) (a : DataNodeReconcileAttempt) :
    (expireReconcileAttempt expired now a).dataNodeRunId = a.dataNodeRunId := by
  unfold expireReconcileAttempt
  split <;> rfl

theorem NodeInv.closeAttempt {t : NodeTables} {next : ℕ} (hi : NodeInv t next)
    {status : DataNodeAttemptStatus} (hstatus : status ≠ .running) :
    NodeInv (Proofs.mapAttempts (closedAttempt attemptId status failure providerRequestId now) t)
      next :=
  hi.mapAttempts (closedAttempt_id status) (closedAttempt_node status) fun _ h =>
    (closedAttempt_running hstatus h).1

/-- Once its RUNNING attempt is closed, a node has none. -/
theorem NodeInv.none_running {db : FixtureDb} {next : ℕ} (hi : NodeInv (nodeTables db) next)
    {nodeRunId : Uuid} {a : DataNodeAttempt} (h : db.getRunningAttempt nodeRunId = some a)
    {status : DataNodeAttemptStatus} (hstatus : status ≠ .running) :
    ∀ b ∈ db.attempts.map (closedAttempt a.id status failure providerRequestId now),
      b.dataNodeRunId = nodeRunId → b.status ≠ .running := by
  intro b hb hnode hrun
  obtain ⟨c, hc, rfl⟩ := List.mem_map.1 hb
  obtain ⟨heq, hopen⟩ := closedAttempt_running hstatus hrun
  rw [heq] at hnode hrun
  obtain ⟨ha, hanode, harun⟩ := mem_of_getRunningAttempt h
  exact hopen ⟨congrArg _ (hi.single c hc a ha (hnode.trans hanode.symm) hrun harun), hrun⟩

end Closed

/-! ### The step lemma -/

theorem not_busy_of_status {n : DataNodeRun} (h : n.status ∉ [.running, .verifying, .succeeded]) :
    ¬ Busy n := fun hb => h hb.1

theorem idle_of_startable {n : DataNodeRun} (h : n.status ∈ [.pending, .ready]) : ¬ Busy n := by
  apply not_busy_of_status
  simp only [List.mem_cons, List.not_mem_nil, or_false] at h
  rcases h with h | h <;> simp [h]

theorem idle_of_uncertain {n : DataNodeRun} (h : n.status = .outcomeUncertain) : ¬ Busy n :=
  not_busy_of_status (by simp [h])

/-- A node that a worker may start has the reconcile state of one that never ran or was
proved absent. -/
theorem reconcile_of_startable {n : DataNodeRun} (hfits : RowFits n)
    (h : n.status ∈ [.pending, .ready]) : n.reconcileState ∈ [.notRequired, .absent] := by
  unfold RowFits at hfits
  simp only [List.mem_cons, List.not_mem_nil, or_false] at h
  rcases h with h | h <;> simp_all [reconcileStatesOf]

theorem reconcile_of_running {n : DataNodeRun} (hfits : RowFits n) (h : n.status = .running) :
    n.reconcileState ∈ [.notRequired, .absent] := by
  unfold RowFits at hfits
  rwa [h] at hfits

theorem reconcile_of_busy {n : DataNodeRun} (hfits : RowFits n) (h : Busy n) :
    n.reconcileState ∈ [.notRequired, .absent] := by
  obtain ⟨hstatus, hfound⟩ := h
  unfold RowFits at hfits
  simp only [List.mem_cons, List.not_mem_nil, or_false] at hstatus
  rcases hstatus with h | h | h <;> simp_all [reconcileStatesOf]

theorem fits_failNode {n : DataNodeRun} {uncertain : Bool} {failure : FixtureFailure}
    {now : Instant} (h : n.reconcileState ∈ [.notRequired, .absent]) :
    RowFits (failNode uncertain failure now n) := by
  unfold RowFits failNode
  simp only [List.mem_cons, List.not_mem_nil, or_false] at h
  cases uncertain <;> rcases h with h | h <;> simp [reconcileStatesOf, h]

theorem fits_expire {n : DataNodeRun} {maxAttempts : ℕ} {now : Instant}
    (h : n.status = .outcomeUncertain) : RowFits (expireReconcileClaim maxAttempts now n) := by
  unfold RowFits expireReconcileClaim
  dsimp only
  rw [h]
  split <;> simp [reconcileStatesOf]

variable {db db' : FixtureDb} {e : FixtureEvent}

theorem NodeInv.failRunning (hi : NodeInv (nodeTables db) db.nextId) {n : DataNodeRun}
    {a : DataNodeAttempt} (hn : n ∈ db.nodes) (hattempt : db.getRunningAttempt n.id = some a)
    {status : DataNodeAttemptStatus} (hstatus : status ≠ .running) {uncertain : Bool}
    {failure : FixtureFailure} {reported : Option FixtureFailure} {providerRequestId : Option String}
    {now : Instant} : NodeInv (modifyNode n.id (failNode uncertain failure now)
      (Proofs.mapAttempts (closedAttempt a.id status reported providerRequestId now) (nodeTables db)))
      db.nextId := by
  obtain ⟨ha, hnode, hrun⟩ := mem_of_getRunningAttempt hattempt
  have hbusy := hi.busy n hn a ha hnode hrun
  refine NodeInv.modify (hi.closeAttempt hstatus) hn (fun _ => rfl)
    (fits_failNode (reconcile_of_busy (hi.fits n hn) hbusy)) ?_
  intro b hb heq hrun'
  exact absurd hrun' (hi.none_running hattempt hstatus b hb heq)

theorem NodeInv.step (hi : NodeInv (nodeTables db) db.nextId) (hnext : db.nextId ≤ db'.nextId)
    (hmove : NodeMove db db' e) : NodeInv (nodeTables db') db'.nextId := by
  cases hmove with
  | kept htables =>
    rw [htables]
    exact hi.mono hnext
  | created new hnew hids htables hnext' =>
    rw [htables, hnext']
    apply hi.addNodes (Nat.le_succ _) hids
    intro n hn
    obtain ⟨id, planned, rfl⟩ := hnew n hn
    exact ⟨rfl, rfl⟩
  | @started _ _ now n inputs hfind hstatus _ htables hnext' =>
    have hn := mem_of_getNodeRecord hfind
    have hidle : ∀ a ∈ db.attempts, a.dataNodeRunId = n.id → a.status ≠ .running :=
      fun a ha heq hrun => idle_of_startable hstatus (hi.busy n hn a ha heq hrun)
    have hreconcile := reconcile_of_startable (hi.fits n hn) hstatus
    rw [htables, hnext']
    have hmid := hi.modify (f := startNode inputs now) hn (fun _ => rfl)
      (show RowFits (startNode inputs now n) from hreconcile)
      fun a ha heq hrun => absurd hrun (hidle a ha heq)
    refine hmid.addAttempt (n := startNode inputs now n) ?_ rfl rfl ?_ hidle
    · exact (Table.mem_modify_keyed hi.nodeIds hn).2 (Or.inl rfl)
    · refine ⟨by simp [startNode], fun hfound => ?_⟩
      rw [show (startNode inputs now n).reconcileState = n.reconcileState from rfl] at hfound
      simp [hfound] at hreconcile
  | abandoned n a hfind hstatus hattempt htables =>
    rw [htables]
    exact NodeInv.mono (hi.failRunning (mem_of_getNodeRecord hfind) hattempt (by decide)) hnext
  | failedIdle n hfind hstatus htables =>
    have hn := mem_of_getNodeRecord hfind
    rw [htables]
    refine NodeInv.mono ?_ hnext
    apply NodeInv.modify hi hn
    · exact fun _ => rfl
    · have hreconcile := reconcile_of_startable (hi.fits n hn) hstatus
      unfold RowFits failIdleNode
      simp only [List.mem_cons, List.not_mem_nil, or_false] at hreconcile
      rcases hreconcile with h | h <;> simp [reconcileStatesOf, h]
    · exact fun a ha heq hrun => absurd (hi.busy n hn a ha heq hrun) (idle_of_startable hstatus)
  | verifying n a hfind hstatus hattempt htables =>
    have hn := mem_of_getNodeRecord hfind
    have hreconcile := reconcile_of_running (hi.fits n hn) hstatus
    simp only [List.mem_cons, List.not_mem_nil, or_false] at hreconcile
    rw [htables]
    refine NodeInv.mono ?_ hnext
    apply NodeInv.modify hi hn
    · exact fun _ => rfl
    · unfold RowFits verifyNode
      rcases hreconcile with h | h <;> simp [reconcileStatesOf, h]
    · refine fun _ _ _ _ => ⟨by simp [verifyNode], ?_⟩
      unfold verifyNode
      rcases hreconcile with h | h <;> simp [h]
  | failed n a hfind hstatus hattempt htables =>
    rw [htables]
    refine NodeInv.mono (hi.failRunning (mem_of_getNodeRecord hfind) hattempt ?_) hnext
    split <;> decide
  | succeeded n a hfind hstatus hattempt htables =>
    have hn := mem_of_getNodeRecord hfind
    have hclosed : DataNodeAttemptStatus.succeeded ≠ .running := by decide
    rw [htables]
    refine NodeInv.mono ?_ hnext
    apply NodeInv.modify (hi.closeAttempt hclosed) hn
    · exact fun _ => rfl
    · have hfits := hi.fits n hn
      unfold RowFits at hfits ⊢
      rw [hstatus] at hfits
      exact hfits
    · exact fun b hb heq hrun => absurd hrun (hi.none_running hattempt hclosed b hb heq)
  | lookupStarted n hfind hdue htables hnext' =>
    have hn := mem_of_getNodeRecord hfind
    unfold reconcileDue at hdue
    simp only [Bool.and_eq_true, decide_eq_true_eq] at hdue
    rw [htables, hnext']
    have hmid := hi.modify (f := startLookup) hn (fun _ => rfl)
      (show RowFits (startLookup n) by simp [RowFits, startLookup, hdue.1.1, reconcileStatesOf])
      fun a ha heq hrun => absurd (hi.busy n hn a ha heq hrun) (idle_of_uncertain hdue.1.1)
    exact hmid.addReconcile rfl
      ⟨startLookup n, (Table.mem_modify_keyed hi.nodeIds hn).2 (Or.inl rfl), rfl⟩
  | absent n retryCreate hfind hstatus hreconcile hretry htables =>
    have hn := mem_of_getNodeRecord hfind
    rw [htables]
    refine NodeInv.mono ?_ hnext
    apply NodeInv.modify (hi.mapReconciles (closedReconcile_id _) (closedReconcile_node _)) hn
    · exact fun _ => rfl
    · unfold RowFits proveAbsent
      cases retryCreate <;> simp [reconcileStatesOf]
    · exact fun a ha heq hrun => absurd (hi.busy n hn a ha heq hrun) (idle_of_uncertain hstatus)
  | inconclusive n reported retryAt hfind hstatus hreconcile htables =>
    have hn := mem_of_getNodeRecord hfind
    rw [htables]
    refine NodeInv.mono ?_ hnext
    apply NodeInv.modify (hi.mapReconciles (closedReconcile_id _) (closedReconcile_node _)) hn
    · exact fun _ => rfl
    · unfold RowFits leaveUncertain
      dsimp only
      rw [hstatus]
      split <;> simp [reconcileStatesOf]
    · exact fun a ha heq hrun => absurd (hi.busy n hn a ha heq hrun) (idle_of_uncertain hstatus)
  | found n hfind hstatus hreconcile htables =>
    have hn := mem_of_getNodeRecord hfind
    rw [htables]
    refine NodeInv.mono ?_ hnext
    apply NodeInv.modify (hi.mapReconciles (closedReconcile_id _) (closedReconcile_node _)) hn
    · exact fun _ => rfl
    · simp [RowFits, findOutputs, reconcileStatesOf]
    · exact fun a ha heq hrun => absurd (hi.busy n hn a ha heq hrun) (idle_of_uncertain hstatus)
  | failedFound n hfind hstatus hreconcile htables =>
    have hn := mem_of_getNodeRecord hfind
    rw [htables]
    refine NodeInv.mono ?_ hnext
    apply NodeInv.modify hi hn
    · exact fun _ => rfl
    · simp [RowFits, failFoundNode, reconcileStatesOf, hreconcile]
    · exact fun a ha heq hrun => absurd hreconcile (hi.busy n hn a ha heq hrun).2
  | succeededFound n hfind hstatus htables =>
    have hn := mem_of_getNodeRecord hfind
    rw [htables]
    have hclosed : DataNodeAttemptStatus.succeeded ≠ .running := by decide
    refine NodeInv.mono ?_ hnext
    apply NodeInv.modify (hi.closeAttempt hclosed) hn
    · exact fun _ => rfl
    · have hfits := hi.fits n hn
      unfold RowFits at hfits ⊢
      rw [hstatus] at hfits
      exact hfits
    · intro b hb heq hrun
      obtain ⟨a, ha, rfl⟩ := List.mem_map.1 hb
      rw [(closedAttempt_running hclosed hrun).1] at heq hrun
      exact ⟨by simp [succeedNode], (hi.busy n hn a ha heq hrun).2⟩
  | recovered maxAttempts stale hstale htables =>
    rw [htables]
    refine NodeInv.mono ?_ hnext
    apply NodeInv.mapNodes (hi.mapReconciles (expireReconcile_id _) (expireReconcile_node _))
    · intro n
      unfold recoverNode
      split <;> rfl
    · intro n hn
      unfold recoverNode
      split
      · next h => exact fits_expire h.2.1
      · exact hi.fits n hn
    · intro n hn a ha heq hrun
      unfold recoverNode
      split
      · next h => exact absurd (hi.busy n hn a ha heq hrun) (idle_of_uncertain h.2.1)
      · exact hi.busy n hn a ha heq hrun

/-! ### Fresh ids -/

def IdsGrow (db db' : FixtureDb) : Prop := db.nextId ≤ db'.nextId

instance : Std.Refl IdsGrow := ⟨fun db => le_refl db.nextId⟩

instance : IsTrans FixtureDb IdsGrow := ⟨fun _ _ _ h₁ h₂ => Nat.le_trans h₁ h₂⟩

theorem idsGrow_event (worker : FixtureWorker) (e : FixtureEvent) :
    Within IdsGrow (e.transaction worker) := by
  have ho : OutsideNodes IdsGrow :=
    { runs := fun p f _ => runTable.within_guarded p f fun db _ => le_refl db.nextId
      resources := fun p f => resourceTable.within_guarded p f fun db _ => le_refl db.nextId
      cleanupAttempts := fun _ => Within.update fun db => le_refl db.nextId
      leases := fun _ => Within.update fun db => le_refl db.nextId
      newId := by
        intro db id db' h
        obtain ⟨rfl, rfl⟩ := commits_newFixtureId.1 h
        exact Nat.le_succ db.nextId }
  apply within_event worker ho
  · exact
      { nodes := fun p f => nodeTable.within_guarded p f fun db _ => le_refl db.nextId
        attempts := fun _ => Within.update fun db => le_refl db.nextId
        reconcileAttempts := fun _ => Within.update fun db => le_refl db.nextId }
  · exact fun _ _ _ => Within.bind (Within.read _) fun _ =>
      Within.bind (Within.raiseIf _ _) fun _ => Within.update fun db => le_refl db.nextId
  · intro start now _ db u db' h
    obtain ⟨new, run, bindings, -, -, -, -, -, -, rfl⟩ := createRun_of_commits h
    exact Nat.le_trans (Nat.le_succ db.nextId) (Nat.le_add_right _ _)
  · exact fun runId now _ => within_finalizeReleaseRun ho runId now fun _ _ _ =>
      runTable.within_guarded _ _ fun db _ => le_refl db.nextId

theorem NodeInv.commits {worker : FixtureWorker} {u : Unit} (hi : NodeInv (nodeTables db) db.nextId)
    (h : Commits (e.transaction worker) db u db') : NodeInv (nodeTables db') db'.nextId :=
  hi.step (idsGrow_event worker e _ _ _ h) (nodeMove_of_commits hi.nodeIds h)

end Atlas.Proofs
