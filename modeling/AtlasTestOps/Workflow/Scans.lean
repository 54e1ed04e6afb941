import AtlasTestOps.Workflow.Validator
import AtlasTestOps.Lib.Fold

/-! What each pass of graph validation has computed after the elements it has processed,
and when it has reported nothing. -/

namespace Atlas.Workflow

/-! ### The node pass -/

theorem duplicatePortIssues_eq_nil (node : WorkflowNode) (seen : List String)
    (ports : List PortSpec) :
    duplicatePortIssues node seen ports = [] ↔
      (∀ port ∈ ports, port.key ∉ seen) ∧ (ports.map (·.key)).Nodup := by
  induction ports generalizing seen with
  | nil => simp [duplicatePortIssues]
  | cons port ports ih =>
    rw [duplicatePortIssues, List.append_eq_nil_iff, ih, List.map_cons, List.nodup_cons]
    have hkey : (∀ p ∈ ports, p.key ∉ seen ++ [port.key]) ↔
        (∀ p ∈ ports, p.key ∉ seen) ∧ port.key ∉ ports.map (·.key) := by
      simp only [List.mem_append, List.mem_singleton, List.mem_map, not_or, not_exists, not_and]
      exact ⟨fun h => ⟨fun p hp => (h p hp).1, fun p hp he => (h p hp).2 he⟩,
        fun h p hp => ⟨h.1 p hp, fun he => h.2 p hp he⟩⟩
    rw [hkey]
    split_ifs with hseen
    · simp [hseen]
    · simp only [List.mem_cons, forall_eq_or_imp]
      tauto

theorem validatePortKeys_eq_nil (node : WorkflowNode) :
    validatePortKeys node = [] ↔
      (node.inputPorts.map (·.key)).Nodup ∧ (node.outputPorts.map (·.key)).Nodup := by
  simp [validatePortKeys, duplicatePortIssues_eq_nil]

/-- The node pass after the nodes of `done`. -/
structure NodeScanInv (start : List GraphIssue) (done : List WorkflowNode) (scan : NodeScan) :
    Prop where
  nodup : (scan.nodeById.map (·.id)).Nodup
  ids : ∀ id, id ∈ scan.nodeById.map (·.id) ↔ id ∈ done.map (·.id)
  length : scan.nodeById.length ≤ done.length
  distinct : (done.map (·.id)).Nodup → scan.nodeById = done
  issues : scan.issues = [] ↔
    start = [] ∧ (done.map (·.id)).Nodup ∧ ∀ node ∈ done, validatePortKeys node = []

theorem NodeScan.get_isSome (scan : NodeScan) (id : String) :
    (scan.get id).isSome = true ↔ id ∈ scan.nodeById.map (·.id) := by
  simp [NodeScan.get, List.find?_isSome]

theorem NodeScanInv.step {start : List GraphIssue} {done : List WorkflowNode} {scan : NodeScan}
    (node : WorkflowNode) (hinv : NodeScanInv start done scan) :
    NodeScanInv start (done ++ [node]) (scanNode scan node) := by
  have hsnoc : ((done ++ [node]).map (·.id)).Nodup ↔
      (done.map (·.id)).Nodup ∧ node.id ∉ done.map (·.id) := by
    rw [List.map_append, List.map_singleton, ← List.concat_eq_append, List.nodup_concat, and_comm]
  unfold scanNode
  split_ifs with hseen
  · rw [scan.get_isSome, hinv.ids] at hseen
    refine ⟨hinv.nodup, fun id => ?_, ?_, fun h => ?_, ?_⟩
    · rw [hinv.ids, List.map_append, List.mem_append, List.map_singleton, List.mem_singleton]
      exact ⟨Or.inl, fun h => h.elim (fun hd => hd) (fun he => he ▸ hseen)⟩
    · simpa using Nat.le_succ_of_le hinv.length
    · exact absurd hseen (hsnoc.1 h).2
    · rw [hsnoc]
      simp [hseen]
  · rw [scan.get_isSome, hinv.ids] at hseen
    refine ⟨?_, fun id => ?_, ?_, fun h => ?_, ?_⟩
    · rw [List.map_append, List.map_singleton, ← List.concat_eq_append, List.nodup_concat,
        hinv.ids]
      exact ⟨hseen, hinv.nodup⟩
    · simp [hinv.ids id]
    · simpa using hinv.length
    · rw [hinv.distinct (hsnoc.1 h).1]
    · rw [List.append_eq_nil_iff, hinv.issues, hsnoc]
      simp only [List.mem_append, List.mem_singleton]
      constructor
      · rintro ⟨⟨h1, h2, h3⟩, h4⟩
        exact ⟨h1, ⟨h2, hseen⟩, fun n hn => hn.elim (h3 n) (fun he => he ▸ h4)⟩
      · rintro ⟨h1, ⟨h2, -⟩, h3⟩
        exact ⟨⟨h1, h2, fun n hn => h3 n (Or.inl hn)⟩, h3 node (Or.inr rfl)⟩

theorem nodeScanInv_run (start : List GraphIssue) (nodes : List WorkflowNode) :
    NodeScanInv start nodes (nodes.foldl scanNode { issues := start, nodeById := [] }) :=
  Loop.foldl_of_start (P := NodeScanInv start) ⟨by simp, by simp, by simp, by simp, by simp⟩
    (fun _ node _ hinv => hinv.step node) nodes

/-! ### The edge pass -/

/-- Both ends of the edge are nodes of the graph. -/
def Resolves (nodes : NodeScan) (edge : WorkflowEdge) : Prop :=
  edge.sourceNodeId ∈ nodes.nodeById.map (·.id) ∧ edge.targetNodeId ∈ nodes.nodeById.map (·.id)

instance (nodes : NodeScan) (edge : WorkflowEdge) : Decidable (Resolves nodes edge) :=
  inferInstanceAs (Decidable (_ ∧ _))

/-- The edge is reported for nothing but a possible duplicate id. -/
def EdgeFits (nodes : NodeScan) (edge : WorkflowEdge) : Prop :=
  ∃ source target, nodes.get edge.sourceNodeId = some source ∧
    nodes.get edge.targetNodeId = some target ∧ edgePortIssues edge source target = []

theorem NodeScan.get_id {nodes : NodeScan} {id : String} {node : WorkflowNode}
    (h : nodes.get id = some node) : node.id = id := by
  simpa using List.find?_some h

theorem NodeScan.get_mem {nodes : NodeScan} {id : String} {node : WorkflowNode}
    (h : nodes.get id = some node) : node ∈ nodes.nodeById :=
  List.mem_of_find?_eq_some h

/-- The edge pass after the edges of `done`. -/
structure EdgeScanInv (nodes : NodeScan) (start : List GraphIssue) (done : List WorkflowEdge)
    (scan : EdgeScan) : Prop where
  edgeIds : scan.edgeIds = done.map (·.id)
  incoming : ∀ id, scan.incomingEdges id =
    done.filter (fun e => Resolves nodes e ∧ e.targetNodeId = id)
  outgoing : ∀ id, scan.outgoingEdges id =
    done.filter (fun e => Resolves nodes e ∧ e.sourceNodeId = id)
  writers : ∀ id key, scan.writers (id, key) =
    done.filter (fun e => Resolves nodes e ∧ e.targetNodeId = id ∧ e.targetPort = key)
  adjacencyNodup : ∀ id, (scan.adjacency id).Nodup
  adjacency : ∀ u v, v ∈ scan.adjacency u ↔
    ∃ e ∈ done, Resolves nodes e ∧ e.sourceNodeId = u ∧ e.targetNodeId = v
  indegree : ∀ v, scan.indegree v =
    (nodes.nodeById.map (·.id)).countP (fun u => v ∈ scan.adjacency u)
  issues : scan.issues = [] ↔
    start = [] ∧ (done.map (·.id)).Nodup ∧ ∀ edge ∈ done, EdgeFits nodes edge

theorem edgeScanInv_start (nodes : NodeScan) (start : List GraphIssue) :
    EdgeScanInv nodes start [] (EdgeScan.start start) := by
  constructor <;> simp [EdgeScan.start]

/-- Appending at the key of a resolved edge keeps each list the filter of the edges done. -/
private theorem appendAt_filter {κ : Type} [DecidableEq κ] {f : κ → List WorkflowEdge}
    {p : WorkflowEdge → Prop} [DecidablePred p] (key : WorkflowEdge → κ)
    {done : List WorkflowEdge} {edge : WorkflowEdge}
    (hf : ∀ k, f k = done.filter (fun e => p e ∧ key e = k)) (hp : p edge) (k : κ) :
    appendAt f (key edge) edge k = (done ++ [edge]).filter (fun e => p e ∧ key e = k) := by
  rw [List.filter_append, appendAt]
  by_cases hk : k = key edge
  · subst hk
    simp [hf, hp]
  · rw [Function.update_of_ne hk, hf]
    simp [Ne.symm hk]

private theorem filter_snoc_of_not {p : WorkflowEdge → Prop} [DecidablePred p]
    {done : List WorkflowEdge} {edge : WorkflowEdge} (hp : ¬ p edge) :
    (done ++ [edge]).filter (fun e => p e) = done.filter (fun e => p e) := by
  simp [List.filter_append, hp]

/-- The adjacency and in-degree updates of one resolved edge. -/
private theorem adjacency_step {nodes : NodeScan} (hnodup : (nodes.nodeById.map (·.id)).Nodup)
    {adjacency : String → List String} {indegree : String → ℤ} {source target : String}
    (hsource : source ∈ nodes.nodeById.map (·.id)) (hadj : ∀ u, (adjacency u).Nodup)
    (hdeg : ∀ v, indegree v = (nodes.nodeById.map (·.id)).countP (fun u => v ∈ adjacency u))
    (hfresh : target ∉ adjacency source) :
    (∀ u, (appendAt adjacency source target u).Nodup) ∧
    (∀ u v, v ∈ appendAt adjacency source target u ↔
      v ∈ adjacency u ∨ (source = u ∧ target = v)) ∧
    ∀ v, Function.update indegree target (indegree target + 1) v =
      (nodes.nodeById.map (·.id)).countP (fun u => v ∈ appendAt adjacency source target u) := by
  have hmem : ∀ u v, v ∈ appendAt adjacency source target u ↔
      v ∈ adjacency u ∨ (source = u ∧ target = v) := by
    intro u v
    unfold appendAt
    by_cases hu : u = source
    · subst hu
      simp [eq_comm]
    · simp [Function.update_of_ne hu, Ne.symm hu]
  refine ⟨fun u => ?_, hmem, fun v => ?_⟩
  · unfold appendAt
    by_cases hu : u = source
    · subst hu
      rw [Function.update_self, ← List.concat_eq_append, List.nodup_concat]
      exact ⟨hfresh, hadj u⟩
    · rw [Function.update_of_ne hu]
      exact hadj u
  · by_cases hv : v = target
    · subst hv
      have hcount := Loop.countP_insert hnodup hsource (p := fun u => v ∈ adjacency u)
        (q := fun u => v ∈ appendAt adjacency source v u) (by simpa using hfresh)
        (by simp [hmem]) (fun u hu => by simp [hmem, Ne.symm hu])
      rw [Function.update_self, hdeg, hcount]
      push_cast
      rfl
    · rw [Function.update_of_ne hv, hdeg]
      congr 1
      apply List.countP_congr
      intro u _
      simp [hmem, Ne.symm hv]

private theorem edgeIds_step {done : List WorkflowEdge} {edge : WorkflowEdge} {start : List GraphIssue}
    {issue : GraphIssue} {fits : WorkflowEdge → Prop} :
    ((start = [] ∧ (done.map (·.id)).Nodup ∧ ∀ e ∈ done, fits e) ∧
      (if edge.id ∈ done.map (·.id) then [issue] else []) = [] ∧ fits edge) ↔
    start = [] ∧ ((done ++ [edge]).map (·.id)).Nodup ∧ ∀ e ∈ done ++ [edge], fits e := by
  rw [List.map_append, List.map_singleton, ← List.concat_eq_append, List.nodup_concat]
  simp only [List.mem_append, List.mem_singleton, or_imp, forall_and, forall_eq]
  split_ifs with h
  · simp [h]
  · simp only [h, not_false_eq_true, true_and]
    tauto

theorem EdgeScanInv.step {nodes : NodeScan} (hnodup : (nodes.nodeById.map (·.id)).Nodup)
    {start : List GraphIssue} {done : List WorkflowEdge} {scan : EdgeScan} (edge : WorkflowEdge)
    (hinv : EdgeScanInv nodes start done scan) :
    EdgeScanInv nodes start (done ++ [edge]) (scanEdge nodes scan edge) := by
  unfold scanEdge
  cases hs : nodes.get edge.sourceNodeId with
  | none => exact dangling hinv (by simp [Resolves, ← nodes.get_isSome, hs]) (by simp [EdgeFits, hs])
  | some source =>
    cases ht : nodes.get edge.targetNodeId with
    | none => exact dangling hinv (by simp [Resolves, ← nodes.get_isSome, ht]) (by simp [EdgeFits, ht])
    | some target =>
      have hsid := NodeScan.get_id hs
      have htid := NodeScan.get_id ht
      have hres : Resolves nodes edge := by simp [Resolves, ← nodes.get_isSome, hs, ht]
      have hissues : ∀ issue : GraphIssue,
          scan.issues ++ (if edge.id ∈ scan.edgeIds then [issue] else []) ++
            edgePortIssues edge source target = [] ↔
          start = [] ∧ ((done ++ [edge]).map (·.id)).Nodup ∧
            ∀ e ∈ done ++ [edge], EdgeFits nodes e := by
        intro issue
        have hfits : edgePortIssues edge source target = [] ↔ EdgeFits nodes edge := by
          simp [EdgeFits, hs, ht]
        rw [List.append_eq_nil_iff, List.append_eq_nil_iff, hinv.issues, hinv.edgeIds, hfits,
          and_assoc]
        exact edgeIds_step
      have hadjMem : ∀ u v, (∃ e ∈ done ++ [edge], Resolves nodes e ∧ e.sourceNodeId = u ∧
          e.targetNodeId = v) ↔ v ∈ scan.adjacency u ∨ (source.id = u ∧ target.id = v) := by
        intro u v
        rw [hinv.adjacency, hsid, htid]
        simp only [List.mem_append, List.mem_singleton, or_and_right, exists_or, exists_eq_left,
          hres, true_and]
      have hincoming := fun id => appendAt_filter (·.targetNodeId) hinv.incoming hres id
      have houtgoing := fun id => appendAt_filter (·.sourceNodeId) hinv.outgoing hres id
      have hkeys : ∀ k : String × String, scan.writers k = done.filter fun e =>
          Resolves nodes e ∧ (e.targetNodeId, e.targetPort) = k := by
        rintro ⟨id, port⟩
        simpa [Prod.ext_iff] using hinv.writers id port
      have hwriters := fun id port =>
        appendAt_filter (fun e => (e.targetNodeId, e.targetPort)) hkeys hres (id, port)
      simp only [Prod.mk.injEq] at hwriters
      rw [← htid] at hincoming
      rw [← hsid] at houtgoing
      rw [← htid] at hwriters
      by_cases hfresh : target.id ∉ scan.adjacency source.id
      · obtain ⟨h1, h2, h3⟩ := adjacency_step hnodup (hsid ▸ hres.1) hinv.adjacencyNodup
          hinv.indegree hfresh
        refine ⟨by simp [hinv.edgeIds], hincoming, houtgoing, hwriters, ?_, ?_, ?_, hissues _⟩
        · simpa [hfresh] using h1
        · intro u v
          rw [hadjMem]
          simpa [hfresh] using h2 u v
        · simpa [hfresh] using h3
      · refine ⟨by simp [hinv.edgeIds], hincoming, houtgoing, hwriters, ?_, ?_, ?_, hissues _⟩
        · simpa [hfresh] using hinv.adjacencyNodup
        · intro u v
          rw [hadjMem]
          have hknown : source.id = u ∧ target.id = v → v ∈ scan.adjacency u := by
            rintro ⟨rfl, rfl⟩
            exact not_not.1 hfresh
          simp only [hfresh, if_false]
          tauto
        · simpa [hfresh] using hinv.indegree
where
  dangling {nodes : NodeScan} {start : List GraphIssue} {done : List WorkflowEdge}
      {scan : EdgeScan} {edge : WorkflowEdge} {issue issue' : GraphIssue}
      (hinv : EdgeScanInv nodes start done scan) (hres : ¬ Resolves nodes edge)
      (hfits : ¬ EdgeFits nodes edge) :
      EdgeScanInv nodes start (done ++ [edge])
        { scan with
          issues := scan.issues ++ (if edge.id ∈ scan.edgeIds then [issue] else []) ++ [issue']
          edgeIds := scan.edgeIds ++ [edge.id] } := by
    refine ⟨by simp [hinv.edgeIds], ?_, ?_, ?_, hinv.adjacencyNodup, ?_, hinv.indegree, ?_⟩
    · intro id
      rw [filter_snoc_of_not fun h => hres h.1]
      exact hinv.incoming id
    · intro id
      rw [filter_snoc_of_not fun h => hres h.1]
      exact hinv.outgoing id
    · intro id key
      rw [filter_snoc_of_not fun h => hres h.1]
      exact hinv.writers id key
    · intro u v
      rw [hinv.adjacency]
      simp only [List.mem_append, List.mem_singleton, or_and_right, exists_or, exists_eq_left,
        hres, false_and, or_false]
    · simp only [List.append_eq_nil_iff, List.cons_ne_nil, and_false, false_iff]
      rintro ⟨-, -, hall⟩
      exact hfits (hall edge (by simp))

theorem edgeScanInv_run {nodes : NodeScan} (hnodup : (nodes.nodeById.map (·.id)).Nodup)
    (start : List GraphIssue) (edges : List WorkflowEdge) :
    EdgeScanInv nodes start edges (edges.foldl (scanEdge nodes) (EdgeScan.start start)) :=
  Loop.foldl_of_start (edgeScanInv_start nodes start)
    (fun _ edge _ hinv => hinv.step hnodup edge) edges

/-! ### The input and terminal pass -/

/-- The input port has the writers it needs and no second one. -/
def PortServed (edges : EdgeScan) (node : WorkflowNode) (port : PortSpec) : Prop :=
  (port.required = true → (edges.writers (node.id, port.key)).length = 1) ∧
    (edges.writers (node.id, port.key)).length ≤ 1

/-- A pass that started from `start` and reported nothing exactly when `ok` holds has matched
every required input it counted. -/
structure InputScanInv (start : List GraphIssue) (ok : Prop) (scan : InputScan) : Prop where
  issues : scan.issues = [] ↔ start = [] ∧ ok
  matched : scan.issues = [] → scan.matchedRequiredInputs = scan.totalRequiredInputs

theorem InputScanInv.port {start : List GraphIssue} {ok : Prop} {scan : InputScan}
    (edges : EdgeScan) (node : WorkflowNode) (port : PortSpec) (hinv : InputScanInv start ok scan) :
    InputScanInv start (ok ∧ PortServed edges node port) (scanInput edges node scan port) := by
  have hissues : (scanInput edges node scan port).issues = [] ↔
      scan.issues = [] ∧ PortServed edges node port := by
    simp only [scanInput, PortServed, List.append_eq_nil_iff, ite_eq_right_iff, List.cons_ne_nil,
      imp_false, and_assoc, not_and, not_lt]
    refine and_congr_right fun _ => ?_
    rcases Nat.lt_trichotomy (edges.writers (node.id, port.key)).length 1 with h | h | h
    · have hnil : edges.writers (node.id, port.key) = [] := List.length_eq_zero_iff.1 (by omega)
      simp [hnil]
    · simp [h]
    · simp only [show (edges.writers (node.id, port.key)).length ≠ 1 by omega,
        show ¬ (edges.writers (node.id, port.key)).length ≤ 1 by omega, and_false]
  refine ⟨?_, fun h => ?_⟩
  · rw [hissues, hinv.issues, and_assoc]
  · obtain ⟨hscan, hserved⟩ := hissues.1 h
    simp only [scanInput, hinv.matched hscan]
    by_cases hreq : port.required = true
    · simp [hreq, hserved.1 hreq]
    · simp [hreq]

/-- A node whose inputs and shape are reported for nothing. -/
def NodeFits (nodeCount : ℕ) (edges : EdgeScan) (node : WorkflowNode) : Prop :=
  (∀ port ∈ node.inputPorts, PortServed edges node port) ∧ nodeShapeIssues nodeCount edges node = []

theorem InputScanInv.node {start : List GraphIssue} {ok : Prop} {scan : InputScan}
    (nodeCount : ℕ) (edges : EdgeScan) (node : WorkflowNode) (hinv : InputScanInv start ok scan) :
    InputScanInv start (ok ∧ NodeFits nodeCount edges node)
      (scanNodeInputs nodeCount edges scan node) := by
  have hports : InputScanInv start (ok ∧ ∀ port ∈ node.inputPorts, PortServed edges node port)
      (node.inputPorts.foldl (scanInput edges node) scan) := by
    apply Loop.foldl_of_start
      (P := fun done s => InputScanInv start (ok ∧ ∀ port ∈ done, PortServed edges node port) s)
    · simpa using hinv
    · intro done port s h
      have := h.port edges node port
      simpa [and_assoc, or_imp, forall_and] using this
  have hissues : (scanNodeInputs nodeCount edges scan node).issues = [] ↔
      (node.inputPorts.foldl (scanInput edges node) scan).issues = [] ∧
        nodeShapeIssues nodeCount edges node = [] := by
    rw [scanNodeInputs, List.append_eq_nil_iff]
  refine ⟨?_, fun h => hports.matched (hissues.1 h).1⟩
  rw [hissues, hports.issues, NodeFits, and_assoc, and_assoc]

theorem inputScanInv_run (start : List GraphIssue) (nodeCount : ℕ) (edges : EdgeScan)
    (nodes : List WorkflowNode) :
    InputScanInv start (∀ node ∈ nodes, NodeFits nodeCount edges node)
      (nodes.foldl (scanNodeInputs nodeCount edges)
        { issues := start, totalRequiredInputs := 0, matchedRequiredInputs := 0 }) := by
  apply Loop.foldl_of_start
    (P := fun done s => InputScanInv start (∀ node ∈ done, NodeFits nodeCount edges node) s)
  · exact ⟨by simp, fun _ => rfl⟩
  · intro done node s h
    have := h.node nodeCount edges node
    simpa [or_imp, forall_and] using this

theorem deduplicateIssues_eq_nil (issues : List GraphIssue) :
    deduplicateIssues issues = [] ↔ issues = [] := by
  apply Loop.foldl_of_start (P := fun done unique => unique = [] ↔ done = [])
  · rfl
  · intro done issue unique h
    split_ifs with hseen
    · constructor
      · rintro rfl
        simp at hseen
      · simp
    · simp

end Atlas.Workflow
