import AtlasTestOps.Workflow.Scans
import Mathlib.Data.String.Basic

/-! The declarative meaning of a valid Workflow Graph, and the proof that
`validateWorkflowGraph` terminates and decides it. -/

namespace Atlas.Workflow

/-- Some edge leads from the node `a` to the node `b`. -/
def NodeRel (graph : WorkflowGraph) (a b : String) : Prop :=
  ∃ edge ∈ graph.edges, edge.sourceNodeId = a ∧ edge.targetNodeId = b

def writersOf (graph : WorkflowGraph) (node : WorkflowNode) (port : PortSpec) :
    List WorkflowEdge :=
  graph.edges.filter (fun e => e.targetNodeId = node.id ∧ e.targetPort = port.key)

/-- The edge joins an output port to an input port of its own kind and semantic type. -/
def EdgeWellTyped (graph : WorkflowGraph) (edge : WorkflowEdge) : Prop :=
  ∃ source ∈ graph.nodes, ∃ target ∈ graph.nodes,
    source.id = edge.sourceNodeId ∧ target.id = edge.targetNodeId ∧
    ∃ sp ∈ source.outputPorts, ∃ tp ∈ target.inputPorts,
      sp.key = edge.sourcePort ∧ tp.key = edge.targetPort ∧
      sp.kind = tp.kind ∧ sp.semanticType = tp.semanticType ∧
      edge.kind = sp.kind ∧ edge.semanticType = sp.semanticType

structure WellFormed (graph : WorkflowGraph) : Prop where
  nonempty : graph.nodes ≠ []
  nodeIds : (graph.nodes.map (·.id)).Nodup
  edgeIds : (graph.edges.map (·.id)).Nodup
  portKeys : ∀ node ∈ graph.nodes,
    (node.inputPorts.map (·.key)).Nodup ∧ (node.outputPorts.map (·.key)).Nodup
  edges : ∀ edge ∈ graph.edges, EdgeWellTyped graph edge
  requiredInputs : ∀ node ∈ graph.nodes, ∀ port ∈ node.inputPorts,
    port.required = true → (writersOf graph node port).length = 1
  singleWriter : ∀ node ∈ graph.nodes, ∀ port ∈ node.inputPorts,
    (writersOf graph node port).length ≤ 1
  connected : 2 ≤ graph.nodes.length → ∀ node ∈ graph.nodes,
    ∃ edge ∈ graph.edges, edge.sourceNodeId = node.id ∨ edge.targetNodeId = node.id
  terminal : ∀ node ∈ graph.nodes,
    (node.terminal = true ↔ ¬ ∃ edge ∈ graph.edges, edge.sourceNodeId = node.id)
  cleanup : ∀ node ∈ graph.nodes, node.phase = .cleanup → node.terminal = true
  acyclic : Digr.Acyclic (NodeRel graph)
  coverage : ∀ node ∈ graph.nodes, casefold node.kind = "agent" →
    ∃ oracle ∈ graph.nodes, oracle.oracleStrength = some .hard ∧
      Relation.TransGen (NodeRel graph) node.id oracle.id

/-! ### The two loops -/

theorem sorted_perm (ids : List String) : (sorted ids).Perm ids := List.mergeSort_perm ids _

variable {nodes : NodeScan} {start : List GraphIssue} {done : List WorkflowEdge} {scan : EdgeScan}

theorem EdgeScanInv.finite (hnodup : (nodes.nodeById.map (·.id)).Nodup)
    (hinv : EdgeScanInv nodes start done scan) :
    Digr.Finite (nodes.nodeById.map (·.id)) (fun id => sorted (scan.adjacency id)) := by
  refine ⟨hnodup, fun u => (sorted_perm _).nodup_iff.2 (hinv.adjacencyNodup u), ?_, ?_⟩
  · intro u v hv
    obtain ⟨e, -, hres, rfl, -⟩ := (hinv.adjacency u v).1 ((sorted_perm _).mem_iff.1 hv)
    exact hres.1
  · intro u v hv
    obtain ⟨e, -, hres, -, rfl⟩ := (hinv.adjacency u v).1 ((sorted_perm _).mem_iff.1 hv)
    exact hres.2

/-- The level loop ends within one round for each node, with the levelling of the graph. -/
theorem topologicalLevels_run (hnodup : (nodes.nodeById.map (·.id)).Nodup)
    (hinv : EdgeScanInv nodes start done scan) :
    ∃ levels, (∀ fuel ≥ nodes.nodeById.length,
      topologicalLevels fuel (nodes.nodeById.map (·.id)) scan.adjacency scan.indegree =
        some levels) ∧
      Digr.Levelling (nodes.nodeById.map (·.id)) (fun id => sorted (scan.adjacency id)) levels := by
  have hg := hinv.finite hnodup
  have hdeg : ∀ v, scan.indegree v =
      (nodes.nodeById.map (·.id)).countP (fun u => v ∈ sorted (scan.adjacency u)) := by
    intro v
    rw [hinv.indegree]
    simp only [(sorted_perm _).mem_iff]
  obtain ⟨levels, hlevels⟩ := Digr.levelsFrom_terminates hg sorted_perm
    nodes.nodeById.length (Digr.roundInv_start hg sorted_perm hdeg)
    (List.countP_le_length.trans (by simp))
  refine ⟨levels, fun fuel hfuel => ?_, Digr.levelling_of_run hg sorted_perm hdeg hlevels⟩
  exact Digr.levelsFrom_mono _ _ hfuel hlevels

/-- The worklist ends, and visits what the node reaches by a non-empty path. -/
theorem reachableNodes_run (hnodup : (nodes.nodeById.map (·.id)).Nodup)
    (hinv : EdgeScanInv nodes start done scan) (id : String) :
    ∃ reachable, (∀ fuel ≥ nodes.nodeById.length * (nodes.nodeById.length + 2),
      reachableNodes fuel id scan.adjacency = some reachable) ∧
      ∀ v, v ∈ reachable ↔ Relation.TransGen (fun a b => b ∈ scan.adjacency a) id v := by
  have htarget : ∀ u, ∀ w ∈ scan.adjacency u, w ∈ nodes.nodeById.map (·.id) := by
    intro u w hw
    exact (hinv.finite hnodup).target u w ((sorted_perm _).mem_iff.2 hw)
  have hlength : ∀ u, (scan.adjacency u).length ≤ (nodes.nodeById.map (·.id)).length :=
    fun u => (List.subperm_of_subset (hinv.adjacencyNodup u) (htarget u)).length_le
  have hstart := hlength id
  rw [List.length_map] at hstart
  obtain ⟨reachable, hreach⟩ := Digr.reachFrom_terminates hlength htarget
    (nodes.nodeById.length * (nodes.nodeById.length + 2)) [] (scan.adjacency id) List.nodup_nil (by simp) (htarget id) (by
      simp only [List.length_map, List.length_nil, Nat.sub_zero, Nat.mul_add]
      omega)
  exact ⟨reachable, fun fuel hfuel => Digr.reachFrom_mono _ hfuel hreach,
    Digr.mem_reachFrom (Digr.workInv_start _ id) hreach⟩

/-- The coverage check of every node ends, and reports the uncovered agent nodes. -/
theorem coverageIssues_run (hnodup : (nodes.nodeById.map (·.id)).Nodup)
    (hinv : EdgeScanInv nodes start done scan) :
    ∃ coverage : WorkflowNode → List GraphIssue,
      (∀ fuel ≥ nodes.nodeById.length * (nodes.nodeById.length + 2),
        nodes.nodeById.mapM (coverageIssues fuel nodes.nodeById scan.adjacency) =
          some (nodes.nodeById.map coverage)) ∧
      ∀ node, coverage node = [] ↔
        (casefold node.kind = "agent" → ∃ oracle ∈ nodes.nodeById,
          oracle.oracleStrength = some .hard ∧
            Relation.TransGen (fun a b => b ∈ scan.adjacency a) node.id oracle.id) := by
  have hnode : ∀ node, ∃ issues : List GraphIssue,
      (∀ fuel ≥ nodes.nodeById.length * (nodes.nodeById.length + 2),
        coverageIssues fuel nodes.nodeById scan.adjacency node = some issues) ∧
      (issues = [] ↔ (casefold node.kind = "agent" → ∃ oracle ∈ nodes.nodeById,
          oracle.oracleStrength = some .hard ∧
            Relation.TransGen (fun a b => b ∈ scan.adjacency a) node.id oracle.id)) := by
    intro node
    obtain ⟨reachable, hrun, hmem⟩ := reachableNodes_run hnodup hinv node.id
    unfold coverageIssues
    by_cases hagent : casefold node.kind = "agent"
    · refine ⟨_, fun fuel hfuel => by
        rw [if_neg (by simpa using hagent), hrun fuel hfuel, Option.map_some], ?_⟩
      simp only [List.any_eq_true, decide_eq_true_eq, ite_eq_left_iff, List.cons_ne_nil, imp_false,
        not_not, hagent, forall_const, hmem]
    · exact ⟨[], fun fuel _ => by rw [if_pos hagent], by simp [hagent]⟩
  choose coverage hrun hnil using hnode
  exact ⟨coverage, fun fuel hfuel => Loop.mapM_eq_some_map fun node _ => hrun node fuel hfuel, hnil⟩

/-! ### The passes against the declarative conditions -/

theorem edgePortIssues_eq_nil (edge : WorkflowEdge) (source target : WorkflowNode) :
    edgePortIssues edge source target = [] ↔
      ∃ sp tp, findPort source.outputPorts edge.sourcePort = some sp ∧
        findPort target.inputPorts edge.targetPort = some tp ∧
        sp.kind = tp.kind ∧ sp.semanticType = tp.semanticType ∧
        edge.kind = sp.kind ∧ edge.semanticType = sp.semanticType := by
  unfold edgePortIssues
  cases hs : findPort source.outputPorts edge.sourcePort with
  | none => simp
  | some sp =>
    cases ht : findPort target.inputPorts edge.targetPort with
    | none => simp
    | some tp =>
      simp only [Option.isNone_some, Bool.false_eq_true, if_false, List.nil_append,
        List.append_eq_nil_iff, ite_eq_right_iff, List.cons_ne_nil, imp_false, not_or, not_not,
        List.mem_cons, List.not_mem_nil, or_false, Option.some.injEq, exists_and_left,
        exists_eq_left']
      constructor
      · rintro ⟨⟨⟨hk, hek⟩, ht⟩, het, -⟩
        refine ⟨hk, ht, hek, ?_⟩
        by_contra hne
        exact het ⟨hne, ht ▸ hne⟩
      · rintro ⟨hk, ht, hek, het⟩
        exact ⟨⟨⟨hk, hek⟩, ht⟩, fun h => h.1 het, ht⟩

theorem findPort_iff {ports : List PortSpec} (hports : (ports.map (·.key)).Nodup) {key : String}
    {port : PortSpec} : findPort ports key = some port ↔ port ∈ ports ∧ port.key = key := by
  constructor
  · intro h
    exact ⟨List.mem_of_find?_eq_some h, by simpa using List.find?_some h⟩
  · rintro ⟨hmem, rfl⟩
    exact Loop.find?_key hports hmem

theorem NodeScan.get_iff (hnodup : (nodes.nodeById.map (·.id)).Nodup) {id : String}
    {node : WorkflowNode} : nodes.get id = some node ↔ node ∈ nodes.nodeById ∧ node.id = id := by
  constructor
  · intro h
    exact ⟨NodeScan.get_mem h, NodeScan.get_id h⟩
  · rintro ⟨hmem, rfl⟩
    exact Loop.find?_key hnodup hmem

variable {graph : WorkflowGraph}

theorem edgeFits_iff (hids : (graph.nodes.map (·.id)).Nodup) (hnodes : nodes.nodeById = graph.nodes)
    (hports : ∀ node ∈ graph.nodes,
      (node.inputPorts.map (·.key)).Nodup ∧ (node.outputPorts.map (·.key)).Nodup)
    (edge : WorkflowEdge) : EdgeFits nodes edge ↔ EdgeWellTyped graph edge := by
  rw [← hnodes] at hids
  simp only [EdgeFits, NodeScan.get_iff hids, edgePortIssues_eq_nil]
  rw [hnodes]
  constructor
  · rintro ⟨source, target, ⟨hsm, hs⟩, ⟨htm, ht⟩, sp, tp, hsp, htp, hok⟩
    obtain ⟨hspm, hspk⟩ := (findPort_iff (hports source hsm).2).1 hsp
    obtain ⟨htpm, htpk⟩ := (findPort_iff (hports target htm).1).1 htp
    exact ⟨source, hsm, target, htm, hs, ht, sp, hspm, tp, htpm, hspk, htpk, hok⟩
  · rintro ⟨source, hsm, target, htm, hs, ht, sp, hspm, tp, htpm, hspk, htpk, hok⟩
    exact ⟨source, target, ⟨hsm, hs⟩, ⟨htm, ht⟩, sp, tp,
      (findPort_iff (hports source hsm).2).2 ⟨hspm, hspk⟩,
      (findPort_iff (hports target htm).1).2 ⟨htpm, htpk⟩, hok⟩

theorem EdgeFits.resolves {edge : WorkflowEdge} (h : EdgeFits nodes edge) : Resolves nodes edge := by
  obtain ⟨source, target, hs, ht, -⟩ := h
  simp [Resolves, ← nodes.get_isSome, hs, ht]

/-- Without a dangling edge the recorded successors are the node relation of the graph. -/
theorem adjacency_iff (hinv : EdgeScanInv nodes start graph.edges scan)
    (hfits : ∀ edge ∈ graph.edges, EdgeFits nodes edge) (u v : String) :
    v ∈ scan.adjacency u ↔ NodeRel graph u v := by
  rw [hinv.adjacency]
  exact ⟨fun ⟨e, he, _, hends⟩ => ⟨e, he, hends⟩, fun ⟨e, he, hends⟩ =>
    ⟨e, he, (hfits e he).resolves, hends⟩⟩

theorem nodeFits_iff (hinv : EdgeScanInv nodes start graph.edges scan)
    (hfits : ∀ edge ∈ graph.edges, EdgeFits nodes edge) (node : WorkflowNode) :
    NodeFits graph.nodes.length scan node ↔
      (∀ port ∈ node.inputPorts, (port.required = true → (writersOf graph node port).length = 1) ∧
        (writersOf graph node port).length ≤ 1) ∧
      (2 ≤ graph.nodes.length →
        ∃ edge ∈ graph.edges, edge.sourceNodeId = node.id ∨ edge.targetNodeId = node.id) ∧
      (node.terminal = true ↔ ¬ ∃ edge ∈ graph.edges, edge.sourceNodeId = node.id) ∧
      (node.phase = .cleanup → node.terminal = true) := by
  have hwriters : ∀ port, scan.writers (node.id, port.key) = writersOf graph node port := by
    intro port
    rw [hinv.writers, writersOf]
    apply List.filter_congr
    intro e he
    simp [(hfits e he).resolves]
  have hincoming : scan.incomingEdges node.id = [] ↔
      ¬ ∃ edge ∈ graph.edges, edge.targetNodeId = node.id := by
    rw [hinv.incoming, List.filter_eq_nil_iff]
    simp only [decide_eq_true_eq, not_and, not_exists]
    exact forall₂_congr fun e he => by simp [(hfits e he).resolves]
  have houtgoing : scan.outgoingEdges node.id = [] ↔
      ¬ ∃ edge ∈ graph.edges, edge.sourceNodeId = node.id := by
    rw [hinv.outgoing, List.filter_eq_nil_iff]
    simp only [decide_eq_true_eq, not_and, not_exists]
    exact forall₂_congr fun e he => by simp [(hfits e he).resolves]
  have heither : (∃ edge ∈ graph.edges, edge.sourceNodeId = node.id ∨ edge.targetNodeId = node.id) ↔
      (∃ edge ∈ graph.edges, edge.sourceNodeId = node.id) ∨
        ∃ edge ∈ graph.edges, edge.targetNodeId = node.id := by
    simp only [and_or_left, exists_or]
  rw [heither]
  simp only [NodeFits, PortServed, hwriters, nodeShapeIssues, List.append_eq_nil_iff,
    ite_eq_right_iff, List.cons_ne_nil, imp_false, ne_eq, hincoming, houtgoing, not_not]
  refine and_congr_right fun _ => ?_
  by_cases hout : ∃ edge ∈ graph.edges, edge.sourceNodeId = node.id <;>
    by_cases hin : ∃ edge ∈ graph.edges, edge.targetNodeId = node.id <;>
    cases node.terminal <;>
    simp [hout, hin, Nat.lt_iff_add_one_le]

/-- What `validateWorkflowGraph` returns for a graph it finds valid. -/
structure ValidResult (graph : WorkflowGraph) (result : GraphValidationResult) : Prop where
  everyNodeOnce : result.executionLevels.flatten.Perm (graph.nodes.map (·.id))
  longestPath : ∀ i level, result.executionLevels[i]? = some level →
    ∀ id ∈ level, Digr.LongestTo (NodeRel graph) i id
  edgesForward : ∀ (i j : ℕ) from' to' a b, result.executionLevels[i]? = some from' →
    result.executionLevels[j]? = some to' → a ∈ from' → b ∈ to' → NodeRel graph a b → i < j
  inputsMatched : result.matchedRequiredInputs = result.totalRequiredInputs

/-- The passes report nothing exactly on the well-formed graphs. -/
theorem wellFormed_iff {empty : List GraphIssue} {inputs : InputScan} {levels : List (List String)}
    {coverage : WorkflowNode → List GraphIssue} (hempty : empty = [] ↔ graph.nodes ≠ [])
    (hN : NodeScanInv empty graph.nodes nodes) (hE : EdgeScanInv nodes nodes.issues graph.edges scan)
    (hI : InputScanInv scan.issues
      (∀ node ∈ nodes.nodeById, NodeFits nodes.nodeById.length scan node) inputs)
    (hL : Digr.Levelling (nodes.nodeById.map (·.id)) (fun id => sorted (scan.adjacency id)) levels)
    (hC : ∀ node, coverage node = [] ↔
      (casefold node.kind = "agent" → ∃ oracle ∈ nodes.nodeById,
        oracle.oracleStrength = some .hard ∧
          Relation.TransGen (fun a b => b ∈ scan.adjacency a) node.id oracle.id)) :
    (inputs.issues = [] ∧ (levels.map List.length).sum = nodes.nodeById.length ∧
      ∀ node ∈ nodes.nodeById, coverage node = []) ↔ WellFormed graph := by
  have hedge : Digr.Edge (fun id => sorted (scan.adjacency id)) =
      fun a b => b ∈ scan.adjacency a := by
    funext a b
    exact propext (sorted_perm _).mem_iff
  have hacyclicIff := hL.acyclic
  rw [List.length_map, hedge] at hacyclicIff
  rw [hI.issues, hE.issues, hN.issues, hempty, hacyclicIff]
  constructor
  · rintro ⟨⟨⟨⟨hne, hids, hports⟩, hedgeIds, hfits⟩, hnodes⟩, hacyclic, hcover⟩
    have hall := hN.distinct hids
    simp only [validatePortKeys_eq_nil] at hports
    have hrel : (fun a b => b ∈ scan.adjacency a) = NodeRel graph := by
      funext a b
      exact propext (adjacency_iff hE hfits a b)
    simp only [hall, nodeFits_iff hE hfits] at hnodes
    simp only [hC, hall, hrel] at hcover
    rw [hrel] at hacyclic
    exact {
      nonempty := hne
      nodeIds := hids
      edgeIds := hedgeIds
      portKeys := hports
      edges := fun e he => (edgeFits_iff hids hall hports e).1 (hfits e he)
      requiredInputs := fun n hn port hp => ((hnodes n hn).1 port hp).1
      singleWriter := fun n hn port hp => ((hnodes n hn).1 port hp).2
      connected := fun hlen n hn => (hnodes n hn).2.1 hlen
      terminal := fun n hn => (hnodes n hn).2.2.1
      cleanup := fun n hn => (hnodes n hn).2.2.2
      acyclic := hacyclic
      coverage := hcover }
  · intro hw
    have hall := hN.distinct hw.nodeIds
    have hfits : ∀ e ∈ graph.edges, EdgeFits nodes e :=
      fun e he => (edgeFits_iff hw.nodeIds hall hw.portKeys e).2 (hw.edges e he)
    have hrel : (fun a b => b ∈ scan.adjacency a) = NodeRel graph := by
      funext a b
      exact propext (adjacency_iff hE hfits a b)
    simp only [validatePortKeys_eq_nil, hC, hall, hrel, nodeFits_iff hE hfits]
    exact ⟨⟨⟨⟨hw.nonempty, hw.nodeIds, hw.portKeys⟩, hw.edgeIds, hfits⟩, fun n hn =>
      ⟨fun port hp => ⟨hw.requiredInputs n hn port hp, hw.singleWriter n hn port hp⟩,
        fun hlen => hw.connected hlen n hn, hw.terminal n hn, hw.cleanup n hn⟩⟩,
      hw.acyclic, hw.coverage⟩

/-- The levels of a well-formed graph, and the counters of a pass that reported nothing. -/
theorem validResult_of_levelling {levels : List (List String)} {result : GraphValidationResult}
    (hw : WellFormed graph) (hall : nodes.nodeById = graph.nodes)
    (hrel : ∀ u v, v ∈ scan.adjacency u ↔ NodeRel graph u v)
    (hL : Digr.Levelling (nodes.nodeById.map (·.id)) (fun id => sorted (scan.adjacency id)) levels)
    (hlevels : result.executionLevels = levels)
    (hmatched : result.matchedRequiredInputs = result.totalRequiredInputs) :
    ValidResult graph result := by
  have hedge : Digr.Edge (fun id => sorted (scan.adjacency id)) = NodeRel graph := by
    funext a b
    exact propext ((sorted_perm _).mem_iff.trans (hrel a b))
  have hlevel := hL.level
  have hacyclic := hL.acyclic
  rw [hedge] at hlevel hacyclic
  rw [hall] at hL hacyclic
  subst hlevels
  refine ⟨?_, hlevel, ?_, hmatched⟩
  · apply (List.subperm_of_subset hL.nodup hL.mem).perm_of_length_le
    rw [List.length_flatten, hacyclic.2 hw.acyclic]
  · intro i j from' to' a b hi hj ha hb hab
    exact (hlevel i from' hi a ha).lt_of_edge (hlevel j to' hj b hb) hab

/-- Graph validation ends on every graph with the same result for all fuel past a bound in
the node count, and that result is valid exactly for the well-formed graphs. -/
theorem validateWorkflowGraph_correct (graph : WorkflowGraph) :
    ∃ result,
      (∀ fuel ≥ graph.nodes.length * (graph.nodes.length + 2),
        validateWorkflowGraph fuel graph = some result) ∧
      (result.valid = true ↔ WellFormed graph) ∧
      (result.valid = true → ValidResult graph result) := by
  set empty : List GraphIssue := if graph.nodes = [] then
    [{ code := .emptyGraph, message := "Workflow Graph must contain at least one node." }] else []
    with hemptydef
  have hempty : empty = [] ↔ graph.nodes ≠ [] := by simp [hemptydef]
  have hN := nodeScanInv_run empty graph.nodes
  set nodes := graph.nodes.foldl scanNode { issues := empty, nodeById := [] } with hnodes
  have hE := edgeScanInv_run hN.nodup nodes.issues graph.edges
  set scan := graph.edges.foldl (scanEdge nodes) (EdgeScan.start nodes.issues) with hscan
  have hI := inputScanInv_run scan.issues nodes.nodeById.length scan nodes.nodeById
  set inputs := nodes.nodeById.foldl (scanNodeInputs nodes.nodeById.length scan)
    { issues := scan.issues, totalRequiredInputs := 0, matchedRequiredInputs := 0 } with hinputs
  obtain ⟨levels, hlevels, hL⟩ := topologicalLevels_run hN.nodup hE
  obtain ⟨coverage, hcoverage, hC⟩ := coverageIssues_run hN.nodup hE
  have hiff := wellFormed_iff hempty hN hE hI hL hC
  set cycle : List GraphIssue :=
    if (levels.map List.length).sum ≠ nodes.nodeById.length then
      [{ code := .graphCycle, message := "Workflow Graph contains a cycle." }] else [] with hcycle
  set issues := deduplicateIssues
    (inputs.issues ++ cycle ++ (nodes.nodeById.map coverage).flatten) with hissues
  have hvalid : issues.isEmpty = true ↔ WellFormed graph := by
    rw [← hiff, List.isEmpty_iff, hissues, deduplicateIssues_eq_nil, List.append_eq_nil_iff,
      List.append_eq_nil_iff, and_assoc]
    simp [hcycle]
  refine ⟨{ valid := issues.isEmpty, issues := issues, executionLevels := levels
            matchedRequiredInputs := inputs.matchedRequiredInputs
            totalRequiredInputs := inputs.totalRequiredInputs }, ?_, hvalid, ?_⟩
  · intro fuel hfuel
    have h1 : nodes.nodeById.length * (nodes.nodeById.length + 2) ≤ fuel :=
      (Nat.mul_le_mul hN.length (Nat.add_le_add_right hN.length 2)).trans hfuel
    have h2 : nodes.nodeById.length ≤ fuel :=
      (Nat.le_mul_of_pos_right _ (by omega)).trans h1
    unfold validateWorkflowGraph
    simp only [← hemptydef, ← hnodes, ← hscan, ← hinputs, hlevels fuel h2, hcoverage fuel h1,
      Option.bind_eq_bind, Option.bind_some]
    rfl
  · intro h
    have hw := hvalid.1 h
    obtain ⟨hin, -, -⟩ := hiff.2 hw
    have hall := hN.distinct hw.nodeIds
    have hfits : ∀ e ∈ graph.edges, EdgeFits nodes e :=
      fun e he => (edgeFits_iff hw.nodeIds hall hw.portKeys e).2 (hw.edges e he)
    exact validResult_of_levelling hw hall (adjacency_iff hE hfits) hL rfl (hI.matched hin)

end Atlas.Workflow
