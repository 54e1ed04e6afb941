import AtlasTestOps.Workflow.Patches
import AtlasTestOps.Workflow.WellFormed

/-! Patches of a Workflow Graph compose: two that apply one after the other apply as one, and a patch
touches nothing that it does not name. -/

namespace Atlas.Workflow

/-! ### The operations, one at a time -/

/-- The node that an operation is about. -/
def DraftOperation.namesNode : DraftOperation → Option String
  | .addNode node => some node.id
  | .replaceNode nodeId _ _ | .removeNode nodeId => some nodeId
  | _ => none

/-- The node that an operation leaves. -/
def DraftOperation.leavesNode : DraftOperation → Option WorkflowNode
  | .addNode node | .replaceNode _ node _ => some node
  | _ => none

/-- The edge that an operation is about. -/
def DraftOperation.namesEdge : DraftOperation → Option String
  | .addEdge edge => some edge.id
  | .replaceEdge edgeId _ _ | .removeEdge edgeId => some edgeId
  | _ => none

/-- The edge that an operation leaves. -/
def DraftOperation.leavesEdge : DraftOperation → Option WorkflowEdge
  | .addEdge edge | .replaceEdge _ edge _ => some edge
  | _ => none

/-- The dictionaries hold the same nodes and edges. -/
structure SameDraft (s t : PatchState) : Prop where
  nodes : ∀ id, s.nodes.get id = t.nodes.get id
  edges : ∀ id, s.edges.get id = t.edges.get id

/-- The operation is applied, not skipped. -/
def Applies (state : PatchState) : DraftOperation → Prop
  | .addNode node => state.nodes.contains node.id = false
  | .replaceNode nodeId _ _ | .removeNode nodeId => state.nodes.contains nodeId = true
  | .addEdge edge => state.edges.contains edge.id = false
  | .replaceEdge edgeId _ _ | .removeEdge edgeId => state.edges.contains edgeId = true

theorem SameDraft.applies_iff {s t : PatchState} (h : SameDraft s t) (operation : DraftOperation) :
    Applies s operation ↔ Applies t operation := by
  cases operation <;> simp [Applies, Dict.contains, h.nodes, h.edges]

/-- What an operation does when it applies: it leaves what it says at the key it names. -/
structure Edits (operation : DraftOperation) (state next : PatchState) : Prop where
  issues : next.issues = state.issues
  nodes : ∀ id, next.nodes.get id =
    if operation.namesNode = some id then operation.leavesNode else state.nodes.get id
  edges : ∀ id, next.edges.get id =
    if operation.namesEdge = some id then operation.leavesEdge else state.edges.get id

/-- An operation is applied, or it is reported and nothing else happens. -/
theorem applyOperation_cases (state : PatchState) (index : ℕ) (operation : DraftOperation) :
    (Applies state operation ∧ Edits operation state (applyOperation state index operation)) ∨
      (¬ Applies state operation ∧ ∃ issue, applyOperation state index operation = state.report issue) := by
  cases operation
  all_goals
    subst_vars
    dsimp only [applyOperation, Applies]
    split
    · rename_i h
      exact Or.inr ⟨by simpa using h, _, rfl⟩
    · rename_i h
      exact Or.inl ⟨by simpa using h, rfl,
        by simp [DraftOperation.namesNode, DraftOperation.leavesNode],
        by simp [DraftOperation.namesEdge, DraftOperation.leavesEdge]⟩

theorem Edits.same {operation : DraftOperation} {s s' t t' : PatchState} (hs : Edits operation s s')
    (ht : Edits operation t t') (h : SameDraft s t) : SameDraft s' t' :=
  ⟨fun id => by rw [hs.nodes, ht.nodes, h.nodes], fun id => by rw [hs.edges, ht.edges, h.edges]⟩

/-- An operation that added no issue was applied. -/
theorem edits_of_no_issue {state : PatchState} {index : ℕ} {operation : DraftOperation}
    (h : (applyOperation state index operation).issues = []) :
    state.issues = [] ∧ Applies state operation ∧
      Edits operation state (applyOperation state index operation) := by
  obtain ⟨happlies, hedits⟩ | ⟨-, issue, hreport⟩ := applyOperation_cases state index operation
  · exact ⟨hedits.issues ▸ h, happlies, hedits⟩
  · rw [hreport] at h
    simp [PatchState.report] at h

theorem edits_of_applies {state : PatchState} {index : ℕ} {operation : DraftOperation}
    (h : Applies state operation) : Edits operation state (applyOperation state index operation) := by
  obtain ⟨-, hedits⟩ | ⟨hnot, -⟩ := applyOperation_cases state index operation
  · exact hedits
  · exact absurd h hnot

/-! ### Runs of operations -/

theorem applyOperations_append (state : PatchState) (index : ℕ) (p q : List DraftOperation) :
    applyOperations state index (p ++ q) =
      applyOperations (applyOperations state index p) (index + p.length) q := by
  induction p generalizing state index with
  | nil => rfl
  | cons operation p ih =>
    rw [List.cons_append, applyOperations, applyOperations, ih, List.length_cons]
    congr 1
    omega

theorem issues_of_run {state : PatchState} {index : ℕ} {operations : List DraftOperation}
    (h : (applyOperations state index operations).issues = []) : state.issues = [] := by
  induction operations generalizing state index with
  | nil => exact h
  | cons operation operations ih => exact (edits_of_no_issue (ih h)).1

/-- On drafts that hold the same, operations that all apply to one all apply to the other. -/
theorem same_run {s t : PatchState} {i j : ℕ} {operations : List DraftOperation} (h : SameDraft s t)
    (ht : t.issues = []) (hs : (applyOperations s i operations).issues = []) :
    SameDraft (applyOperations s i operations) (applyOperations t j operations) ∧
      (applyOperations t j operations).issues = [] := by
  induction operations generalizing s t i j with
  | nil => exact ⟨h, ht⟩
  | cons operation operations ih =>
    obtain ⟨-, happlies, hedits⟩ := edits_of_no_issue (issues_of_run hs)
    have hedits' : Edits operation t (applyOperation t j operation) :=
      edits_of_applies ((h.applies_iff operation).1 happlies)
    exact ih (hedits.same hedits' h) (hedits'.issues.trans ht) hs

/-- What no operation names is as it was. -/
theorem unnamed_run {state : PatchState} {index : ℕ} {operations : List DraftOperation}
    (h : (applyOperations state index operations).issues = []) :
    (∀ id, (∀ o ∈ operations, o.namesNode ≠ some id) →
      (applyOperations state index operations).nodes.get id = state.nodes.get id) ∧
    ∀ id, (∀ o ∈ operations, o.namesEdge ≠ some id) →
      (applyOperations state index operations).edges.get id = state.edges.get id := by
  induction operations generalizing state index with
  | nil => exact ⟨fun _ _ => rfl, fun _ _ => rfl⟩
  | cons operation operations ih =>
    obtain ⟨-, -, hedits⟩ := edits_of_no_issue (issues_of_run h)
    constructor
    · intro id hid
      rw [applyOperations, (ih h).1 id fun o ho => hid o (List.mem_cons_of_mem _ ho), hedits.nodes,
        if_neg (hid operation List.mem_cons_self)]
    · intro id hid
      rw [applyOperations, (ih h).2 id fun o ho => hid o (List.mem_cons_of_mem _ ho), hedits.edges,
        if_neg (hid operation List.mem_cons_self)]

/-- What an operation names is as the last such operation left it. -/
theorem named_run {state : PatchState} {index : ℕ} {before after : List DraftOperation}
    {operation : DraftOperation}
    (h : (applyOperations state index (before ++ operation :: after)).issues = []) :
    (∀ id, operation.namesNode = some id → (∀ o ∈ after, o.namesNode ≠ some id) →
      (applyOperations state index (before ++ operation :: after)).nodes.get id = operation.leavesNode) ∧
    ∀ id, operation.namesEdge = some id → (∀ o ∈ after, o.namesEdge ≠ some id) →
      (applyOperations state index (before ++ operation :: after)).edges.get id = operation.leavesEdge := by
  rw [applyOperations_append, applyOperations] at h ⊢
  obtain ⟨-, -, hedits⟩ := edits_of_no_issue (issues_of_run h)
  constructor
  · intro id hid hafter
    rw [(unnamed_run h).1 id hafter, hedits.nodes, if_pos hid]
  · intro id hid hafter
    rw [(unnamed_run h).2 id hafter, hedits.edges, if_pos hid]

/-! ### The graph of a draft -/

theorem SameDraft.graph_eq {s t : PatchState} (h : SameDraft s t) : s.graph = t.graph := by
  rw [PatchState.graph, PatchState.graph, Dict.sortBy_entries_eq h.nodes, Dict.sortBy_entries_eq h.edges]

theorem graph_nodes_perm (state : PatchState) : state.graph.nodes.Perm state.nodes.entries :=
  (Dict.sortBy_perm _).trans (Dict.sortBy_perm _)

theorem graph_edges_perm (state : PatchState) : state.graph.edges.Perm state.edges.entries :=
  (Dict.sortBy_perm _).trans (Dict.sortBy_perm _)

/-- The draft that is read back from its graph holds the same. -/
theorem start_graph (state : PatchState) : SameDraft (.start state.graph) state :=
  ⟨fun id => Dict.get_ofList_of_perm (graph_nodes_perm state) id,
    fun id => Dict.get_ofList_of_perm (graph_edges_perm state) id⟩

/-! ### What the validator reports of a dangling edge -/

theorem mem_deduplicateIssues (issues : List GraphIssue) (issue : GraphIssue) :
    issue ∈ deduplicateIssues issues ↔ issue ∈ issues := by
  apply Loop.foldl_of_start (P := fun done unique => issue ∈ unique ↔ issue ∈ done)
  · simp
  · intro done next unique h
    split_ifs with hseen
    · rw [h, List.mem_append, List.mem_singleton]
      constructor
      · exact Or.inl
      · rintro (hd | rfl)
        · exact hd
        · exact h.1 hseen
    · simp [h]

theorem scanNodeInputs_issues (nodeCount : ℕ) (edges : EdgeScan) (nodes : List WorkflowNode)
    (scan : InputScan) : scan.issues ⊆ (nodes.foldl (scanNodeInputs nodeCount edges) scan).issues := by
  have hports : ∀ (node : WorkflowNode) (ports : List PortSpec) (scan : InputScan),
      scan.issues ⊆ (ports.foldl (scanInput edges node) scan).issues := by
    intro node ports
    induction ports with
    | nil => exact fun scan => List.Subset.refl _
    | cons port ports ih =>
      intro scan issue hissue
      refine ih (scanInput edges node scan port) ?_
      simp [scanInput, hissue]
  induction nodes generalizing scan with
  | nil => exact List.Subset.refl _
  | cons node nodes ih =>
    intro issue hissue
    refine ih (scanNodeInputs nodeCount edges scan node) ?_
    exact List.mem_append_left _ (hports node node.inputPorts scan hissue)

/-- An edge without one of its nodes is reported, and the report stays. -/
theorem scanEdge_dangling {nodes : NodeScan} {edge : WorkflowEdge} (hdangling : ¬ Resolves nodes edge)
    (edges : List WorkflowEdge) (hedge : edge ∈ edges) (scan : EdgeScan) :
    ∃ issue ∈ (edges.foldl (scanEdge nodes) scan).issues, issue.code = .danglingEdge := by
  have hkeeps : ∀ scan next, scan.issues ⊆ (scanEdge nodes scan next).issues := by
    intro scan next issue hissue
    unfold scanEdge
    cases nodes.get next.sourceNodeId <;> cases nodes.get next.targetNodeId <;> simp [hissue]
  have hrun : ∀ (edges : List WorkflowEdge) (scan : EdgeScan),
      scan.issues ⊆ (edges.foldl (scanEdge nodes) scan).issues := by
    intro edges
    induction edges with
    | nil => exact fun scan => List.Subset.refl _
    | cons next edges ih => exact fun scan issue hissue => ih _ (hkeeps scan next hissue)
  induction edges generalizing scan with
  | nil => cases hedge
  | cons next edges ih =>
    obtain rfl | hedge := List.mem_cons.1 hedge
    · have hreported : ∃ issue ∈ (scanEdge nodes scan edge).issues, issue.code = .danglingEdge := by
        unfold scanEdge
        cases hs : nodes.get edge.sourceNodeId with
        | none => exact ⟨_, List.mem_append_right _ (List.mem_singleton_self _), rfl⟩
        | some source =>
          cases ht : nodes.get edge.targetNodeId with
          | none => exact ⟨_, List.mem_append_right _ (List.mem_singleton_self _), rfl⟩
          | some target =>
            refine absurd ⟨?_, ?_⟩ hdangling
            · simp [← nodes.get_isSome, hs]
            · simp [← nodes.get_isSome, ht]
      obtain ⟨issue, hissue, hcode⟩ := hreported
      exact ⟨issue, hrun edges _ hissue, hcode⟩
    · exact ih hedge (scanEdge nodes scan next)

/-- No edge of the graph hangs, if its validation reports none. -/
theorem resolves_of_no_dangling {fuel : ℕ} {graph : WorkflowGraph} {validation : GraphValidationResult}
    (h : validateWorkflowGraph fuel graph = some validation)
    (hnone : ∀ issue ∈ validation.issues, issue.code ≠ .danglingEdge) :
    ∀ edge ∈ graph.edges, edge.sourceNodeId ∈ graph.nodes.map (·.id) ∧
      edge.targetNodeId ∈ graph.nodes.map (·.id) := by
  intro edge hedge
  by_contra hdangling
  simp only [validateWorkflowGraph, Option.bind_eq_bind, Option.bind_eq_some_iff, Option.pure_def,
    Option.some.injEq] at h
  obtain ⟨levels, -, coverage, -, rfl⟩ := h
  set empty : List GraphIssue := if graph.nodes = [] then
    [{ code := .emptyGraph, message := "Workflow Graph must contain at least one node." }] else []
    with hempty
  have hids := (nodeScanInv_run empty graph.nodes).ids
  set nodes := graph.nodes.foldl scanNode { issues := empty, nodeById := [] } with hnodes
  have hunresolved : ¬ Resolves nodes edge := by
    rintro ⟨hs, ht⟩
    exact hdangling ⟨(hids _).1 hs, (hids _).1 ht⟩
  obtain ⟨issue, hissue, hcode⟩ := scanEdge_dangling hunresolved graph.edges hedge (EdgeScan.start nodes.issues)
  refine hnone issue ((mem_deduplicateIssues _ issue).2 ?_) hcode
  rw [List.append_assoc]
  exact List.mem_append_left _ (scanNodeInputs_issues _ _ _ _ hissue)

/-- The validator ends within its fuel. -/
theorem validation_ends (graph : WorkflowGraph) :
    ∃ validation, validateWorkflowGraph (validationFuel graph) graph = some validation := by
  set empty : List GraphIssue := if graph.nodes = [] then
    [{ code := .emptyGraph, message := "Workflow Graph must contain at least one node." }] else []
    with hempty
  have hN := nodeScanInv_run empty graph.nodes
  set nodes := graph.nodes.foldl scanNode { issues := empty, nodeById := [] } with hnodes
  have hE := edgeScanInv_run hN.nodup nodes.issues graph.edges
  obtain ⟨levels, hlevels, -⟩ := topologicalLevels_run hN.nodup hE
  obtain ⟨coverage, hcoverage, -⟩ := coverageIssues_run hN.nodup hE
  have hfuel : nodes.nodeById.length * (nodes.nodeById.length + 2) ≤ validationFuel graph :=
    Nat.mul_le_mul hN.length (Nat.add_le_add_right hN.length 2)
  have hfuel' : nodes.nodeById.length ≤ validationFuel graph :=
    (Nat.le_mul_of_pos_right _ (by omega)).trans hfuel
  unfold validateWorkflowGraph
  simp only [← hempty, ← hnodes, hlevels _ hfuel', hcoverage _ hfuel, Option.bind_eq_bind, Option.bind_some]
  exact ⟨_, rfl⟩

/-! ### Previews -/

variable {canonicalDigest : SemanticContent → Digest} {intentVersionRef : String}

/-- The draft after the operations of a patch. -/
def patched (graph : WorkflowGraph) (operations : List DraftOperation) : PatchState :=
  applyOperations (.start graph) 0 operations

theorem preview_ends (canonicalDigest : SemanticContent → Digest) (intentVersionRef : String)
    (graph : WorkflowGraph) (operations : List DraftOperation) :
    ∃ preview, previewWorkflowPatch canonicalDigest graph operations intentVersionRef = some preview := by
  obtain ⟨validation, h⟩ := validation_ends (patched graph operations).graph
  simp only [patched] at h
  exact ⟨_, by simp only [previewWorkflowPatch, h, Option.bind_eq_bind, Option.bind_some]; rfl⟩

/-- A preview shows the patched draft, and is applicable when neither an operation nor the graph has an
issue that counts. -/
structure Shows (canonicalDigest : SemanticContent → Digest) (intentVersionRef : String)
    (state : PatchState) (preview : WorkflowPatchPreview) : Prop where
  graph : preview.graph = state.graph
  digest : preview.semanticDigest = semanticDigest canonicalDigest state.graph intentVersionRef
  validated : validateWorkflowGraph (validationFuel state.graph) state.graph = some preview.validation
  applicable : preview.applicable = true ↔
    state.issues = [] ∧ ∀ issue ∈ preview.validation.issues, nonPersistable issue.code = false

theorem preview_shows {graph : WorkflowGraph} {operations : List DraftOperation}
    {preview : WorkflowPatchPreview}
    (h : previewWorkflowPatch canonicalDigest graph operations intentVersionRef = some preview) :
    Shows canonicalDigest intentVersionRef (patched graph operations) preview := by
  simp only [previewWorkflowPatch, Option.bind_eq_bind, Option.bind_eq_some_iff, Option.pure_def,
    Option.some.injEq] at h
  obtain ⟨validation, hvalidation, rfl⟩ := h
  refine ⟨rfl, rfl, hvalidation, ?_⟩
  simp [patched, graphIssue, List.filterMap_eq_nil_iff]

/-- What a graph must not break to be stored. -/
structure Persistable (graph : WorkflowGraph) : Prop where
  nodeIds : (graph.nodes.map WorkflowNode.id).Nodup
  edgeIds : (graph.edges.map WorkflowEdge.id).Nodup
  resolved : ∀ edge ∈ graph.edges, edge.sourceNodeId ∈ graph.nodes.map (·.id) ∧
    edge.targetNodeId ∈ graph.nodes.map (·.id)

def nodeAt (graph : WorkflowGraph) (id : String) : Option WorkflowNode :=
  graph.nodes.find? fun node => node.id = id

def edgeAt (graph : WorkflowGraph) (id : String) : Option WorkflowEdge :=
  graph.edges.find? fun edge => edge.id = id

/-- The operations change the graph at the keys they name: each is as the last of them left it. -/
structure ChangesNamed (base : WorkflowGraph) (operations : List DraftOperation) (next : WorkflowGraph) :
    Prop where
  otherNodes : ∀ id, (∀ o ∈ operations, o.namesNode ≠ some id) → nodeAt next id = nodeAt base id
  otherEdges : ∀ id, (∀ o ∈ operations, o.namesEdge ≠ some id) → edgeAt next id = edgeAt base id
  namedNodes : ∀ before operation after, operations = before ++ operation :: after →
    ∀ id, operation.namesNode = some id → (∀ o ∈ after, o.namesNode ≠ some id) →
      nodeAt next id = operation.leavesNode
  namedEdges : ∀ before operation after, operations = before ++ operation :: after →
    ∀ id, operation.namesEdge = some id → (∀ o ∈ after, o.namesEdge ≠ some id) →
      edgeAt next id = operation.leavesEdge

theorem nodeAt_graph (state : PatchState) (id : String) : nodeAt state.graph id = state.nodes.get id := by
  have hnodup : (state.graph.nodes.map WorkflowNode.id).Nodup :=
    ((graph_nodes_perm state).map _).nodup_iff.2 state.nodes.nodup
  exact (Dict.get_ofList hnodup id).symm.trans (Dict.get_ofList_of_perm (graph_nodes_perm state) id)

theorem edgeAt_graph (state : PatchState) (id : String) : edgeAt state.graph id = state.edges.get id := by
  have hnodup : (state.graph.edges.map WorkflowEdge.id).Nodup :=
    ((graph_edges_perm state).map _).nodup_iff.2 state.edges.nodup
  exact (Dict.get_ofList hnodup id).symm.trans (Dict.get_ofList_of_perm (graph_edges_perm state) id)

theorem patched_compose {graph : WorkflowGraph} {p q : List DraftOperation}
    (hp : (patched graph p).issues = []) (hq : (patched (patched graph p).graph q).issues = []) :
    (patched graph (p ++ q)).issues = [] ∧
      (patched graph (p ++ q)).graph = (patched (patched graph p).graph q).graph := by
  have hsplit : patched graph (p ++ q) = applyOperations (patched graph p) (0 + p.length) q :=
    applyOperations_append _ 0 p q
  obtain ⟨hsame, hissues⟩ := same_run (start_graph (patched graph p)) hp hq
  rw [hsplit]
  exact ⟨hissues, hsame.graph_eq.symm⟩

theorem patched_persistable {graph : WorkflowGraph} {operations : List DraftOperation}
    {preview : WorkflowPatchPreview}
    (h : Shows canonicalDigest intentVersionRef (patched graph operations) preview)
    (happlicable : preview.applicable = true) : Persistable (patched graph operations).graph where
  nodeIds := ((graph_nodes_perm _).map _).nodup_iff.2 (patched graph operations).nodes.nodup
  edgeIds := ((graph_edges_perm _).map _).nodup_iff.2 (patched graph operations).edges.nodup
  resolved := by
    refine resolves_of_no_dangling h.validated fun issue hissue hcode => ?_
    have hcounts := (h.applicable.1 happlicable).2 issue hissue
    rw [hcode] at hcounts
    cases hcounts

theorem patched_changesNamed {graph : WorkflowGraph} {operations : List DraftOperation}
    (hnodes : (graph.nodes.map WorkflowNode.id).Nodup) (hedges : (graph.edges.map WorkflowEdge.id).Nodup)
    (h : (patched graph operations).issues = []) :
    ChangesNamed graph operations (patched graph operations).graph := by
  refine ⟨?_, ?_, ?_, ?_⟩
  · intro id hid
    rw [nodeAt_graph]
    exact ((unnamed_run h).1 id hid).trans (Dict.get_ofList hnodes id)
  · intro id hid
    rw [edgeAt_graph]
    exact ((unnamed_run h).2 id hid).trans (Dict.get_ofList hedges id)
  · rintro before operation after rfl id hid hafter
    rw [nodeAt_graph]
    exact (named_run h).1 id hid hafter
  · rintro before operation after rfl id hid hafter
    rw [edgeAt_graph]
    exact (named_run h).2 id hid hafter

/-- Two patches that apply one after the other apply as one, with the same result, and a patch that
applies leaves a graph that can be stored and differs from the first only where an operation names it. -/
theorem patches_compose (canonicalDigest : SemanticContent → Digest) (intentVersionRef : String)
    {graph : WorkflowGraph} (hnodes : (graph.nodes.map WorkflowNode.id).Nodup)
    (hedges : (graph.edges.map WorkflowEdge.id).Nodup) :
    (∀ operations, ∃ preview,
      previewWorkflowPatch canonicalDigest graph operations intentVersionRef = some preview) ∧
    (∀ p q first second,
      previewWorkflowPatch canonicalDigest graph p intentVersionRef = some first →
      first.applicable = true →
      previewWorkflowPatch canonicalDigest first.graph q intentVersionRef = some second →
      second.applicable = true →
      ∃ both, previewWorkflowPatch canonicalDigest graph (p ++ q) intentVersionRef = some both ∧
        both.applicable = true ∧ both.graph = second.graph ∧
        both.semanticDigest = second.semanticDigest ∧ both.validation = second.validation) ∧
    ∀ operations preview,
      previewWorkflowPatch canonicalDigest graph operations intentVersionRef = some preview →
      preview.applicable = true →
      Persistable preview.graph ∧ ChangesNamed graph operations preview.graph := by
  refine ⟨preview_ends canonicalDigest intentVersionRef graph, ?_, ?_⟩
  · intro p q first second hfirst hfirstOk hsecond hsecondOk
    have hp := preview_shows hfirst
    have hq := preview_shows hsecond
    rw [hp.graph] at hq
    obtain ⟨hissues, hgraph⟩ :=
      patched_compose (hp.applicable.1 hfirstOk).1 (hq.applicable.1 hsecondOk).1
    obtain ⟨both, hboth⟩ := preview_ends canonicalDigest intentVersionRef graph (p ++ q)
    have hb := preview_shows hboth
    have hvalidation : both.validation = second.validation := by
      have hvalidated := hb.validated
      rw [hgraph, hq.validated] at hvalidated
      exact (Option.some.inj hvalidated).symm
    refine ⟨both, hboth, hb.applicable.2 ⟨hissues, ?_⟩, ?_, ?_, hvalidation⟩
    · rw [hvalidation]
      exact (hq.applicable.1 hsecondOk).2
    · rw [hb.graph, hgraph, hq.graph]
    · rw [hb.digest, hgraph, hq.digest]
  · intro operations preview h hok
    have hs := preview_shows h
    rw [hs.graph]
    exact ⟨patched_persistable hs hok, patched_changesNamed hnodes hedges (hs.applicable.1 hok).1⟩

/-! A node that is added and removed by one patch is named, and as it was. After a patch that upgrades
the other node, it composes with that patch. -/

def loneNode : WorkflowNode where
  id := "open"
  kind := "component"
  versionRef := "component.open@1.0.0"
  phase := .execute
  terminal := true

def upgradedNode : WorkflowNode := { loneNode with versionRef := "component.open@2.0.0" }

def loneGraph : WorkflowGraph := ⟨[loneNode], []⟩

def upgrade : List DraftOperation := [.replaceNode "open" upgradedNode rfl]

def addAndRemove : List DraftOperation :=
  [.addNode { loneNode with id := "close" }, .removeNode "close"]

/-- A patch that leaves one node, on which the validator finds nothing that forbids to store it. -/
theorem preview_applies {graph : WorkflowGraph} {operations : List DraftOperation} {node : WorkflowNode}
    (hissues : (patched graph operations).issues = [])
    (hnodes : (patched graph operations).nodes.entries = [node])
    (hedges : (patched graph operations).edges.entries = [])
    (hstorable : (validateWorkflowGraph 3 ⟨[node], []⟩).map
      (fun validation => validation.issues.filterMap graphIssue) = some []) :
    ∃ preview, previewWorkflowPatch (fun _ => 0) graph operations "intent@1.0.0" = some preview ∧
      preview.applicable = true ∧ preview.graph = ⟨[node], []⟩ := by
  have hgraph : (patched graph operations).graph = ⟨[node], []⟩ := by
    rw [PatchState.graph, hnodes, hedges]
    simp [canonicalWorkflowGraph, Dict.sortBy]
  have happly : applyOperations (.start graph) 0 operations = patched graph operations := rfl
  obtain ⟨validation, hvalid, hnone⟩ := Option.map_eq_some_iff.1 hstorable
  refine ⟨_, by rw [previewWorkflowPatch, happly, hgraph, show validationFuel _ = 3 from rfl, hvalid]; rfl,
    ?_, rfl⟩
  simp [hissues, hnone]

theorem named_node_unchanged :
    ∃ preview, previewWorkflowPatch (fun _ => 0) loneGraph addAndRemove "intent@1.0.0" = some preview ∧
      preview.applicable = true ∧ (∃ o ∈ addAndRemove, o.namesNode = some "close") ∧
      nodeAt preview.graph "close" = nodeAt loneGraph "close" := by
  obtain ⟨preview, h, happlicable, hgraph⟩ :=
    @preview_applies loneGraph addAndRemove loneNode (by decide) rfl rfl (by decide +kernel)
  exact ⟨preview, h, happlicable, ⟨_, List.mem_cons_self, rfl⟩, by rw [hgraph]; rfl⟩

theorem addAndRemove_composes :
    ∃ both, previewWorkflowPatch (fun _ => 0) loneGraph (upgrade ++ addAndRemove) "intent@1.0.0" = some both ∧
      both.applicable = true ∧ both.graph = ⟨[upgradedNode], []⟩ ∧ Persistable both.graph ∧
      ChangesNamed loneGraph (upgrade ++ addAndRemove) both.graph := by
  obtain ⟨-, hcompose, hresult⟩ :=
    @patches_compose (fun _ => 0) "intent@1.0.0" loneGraph (by decide) (by decide)
  have hupgrade : ∃ preview,
      previewWorkflowPatch (fun _ => 0) loneGraph upgrade "intent@1.0.0" = some preview ∧
        preview.applicable = true ∧ preview.graph = ⟨[upgradedNode], []⟩ :=
    preview_applies (by decide) rfl rfl (by decide +kernel)
  have hrest : ∃ preview,
      previewWorkflowPatch (fun _ => 0) ⟨[upgradedNode], []⟩ addAndRemove "intent@1.0.0" = some preview ∧
        preview.applicable = true ∧ preview.graph = ⟨[upgradedNode], []⟩ :=
    preview_applies (by decide) rfl rfl (by decide +kernel)
  obtain ⟨first, hfirst, hfirstOk, hupgraded⟩ := hupgrade
  obtain ⟨second, hsecond, hsecondOk, hsame⟩ := hrest
  rw [← hupgraded] at hsecond
  obtain ⟨both, hboth, hok, hgraph, -, -⟩ :=
    hcompose upgrade addAndRemove first second hfirst hfirstOk hsecond hsecondOk
  exact ⟨both, hboth, hok, hgraph.trans hsame, hresult _ both hboth hok⟩

end Atlas.Workflow
