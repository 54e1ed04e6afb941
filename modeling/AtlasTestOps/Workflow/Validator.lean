import AtlasTestOps.Workflow.Models
import AtlasTestOps.Lib.Levels
import AtlasTestOps.Lib.Worklist

/-! `validate_workflow_graph`: one pass over the nodes, one over the edges, one over the
inputs and terminals of each node, then the execution levels and the oracle coverage. The
dictionaries keyed by a node id are functions, the insertion-ordered one a list. -/

namespace Atlas.Workflow

/-- Case folding on the letters of `agent`: no other character folds into one of them, so
lower-casing decides the comparison the validator makes. -/
def casefold (kind : String) : String := kind.map Char.toLower

def sorted (ids : List String) : List String := ids.mergeSort (fun a b => decide (a ≤ b))

def findPort (ports : List PortSpec) (key : String) : Option PortSpec :=
  ports.find? (fun port => port.key == key)

/-- The inner loop of `_validate_port_keys` over the ports of one direction. -/
def duplicatePortIssues (node : WorkflowNode) : List String → List PortSpec → List GraphIssue
  | _, [] => []
  | seen, port :: ports =>
    (if port.key ∈ seen then
      [{ code := .duplicatePort
         message := s!"Node '{node.id}' declares port '{port.key}' more than once."
         nodeId := some node.id }]
    else []) ++ duplicatePortIssues node (seen ++ [port.key]) ports

def validatePortKeys (node : WorkflowNode) : List GraphIssue :=
  duplicatePortIssues node [] node.inputPorts ++ duplicatePortIssues node [] node.outputPorts

structure NodeScan where
  issues : List GraphIssue
  nodeById : List WorkflowNode

def NodeScan.get (scan : NodeScan) (id : String) : Option WorkflowNode :=
  scan.nodeById.find? (fun node => node.id == id)

def scanNode (scan : NodeScan) (node : WorkflowNode) : NodeScan :=
  if (scan.get node.id).isSome then
    { scan with
      issues := scan.issues ++
        [{ code := .duplicateNodeId
           message := s!"Node ID '{node.id}' is duplicated."
           nodeId := some node.id }] }
  else
    { issues := scan.issues ++ validatePortKeys node
      nodeById := scan.nodeById ++ [node] }

structure EdgeScan where
  issues : List GraphIssue
  edgeIds : List String
  incomingEdges : String → List WorkflowEdge
  outgoingEdges : String → List WorkflowEdge
  writers : String × String → List WorkflowEdge
  adjacency : String → List String
  indegree : String → ℤ

def EdgeScan.start (issues : List GraphIssue) : EdgeScan :=
  { issues := issues, edgeIds := [], incomingEdges := fun _ => [], outgoingEdges := fun _ => []
    writers := fun _ => [], adjacency := fun _ => [], indegree := fun _ => 0 }

/-- `mapping[key].append(value)` on a `defaultdict(list)`. -/
def appendAt {κ ν : Type} [DecidableEq κ] (mapping : κ → List ν) (key : κ) (value : ν) :
    κ → List ν :=
  Function.update mapping key (mapping key ++ [value])

/-- The checks of an edge whose two nodes exist. -/
def edgePortIssues (edge : WorkflowEdge) (source target : WorkflowNode) : List GraphIssue :=
  let sourcePort := findPort source.outputPorts edge.sourcePort
  let targetPort := findPort target.inputPorts edge.targetPort
  let missingSource : List GraphIssue :=
    if sourcePort.isNone then
      [{ code := .sourcePortMissing
         message := s!"Node '{source.id}' does not publish output port '{edge.sourcePort}'."
         nodeId := some source.id, edgeId := some edge.id }]
    else []
  let missingTarget : List GraphIssue :=
    if targetPort.isNone then
      [{ code := .targetPortMissing
         message := s!"Node '{target.id}' does not declare input port '{edge.targetPort}'."
         nodeId := some target.id, edgeId := some edge.id }]
    else []
  missingSource ++ missingTarget ++
    match sourcePort, targetPort with
    | some sp, some tp =>
      (if sp.kind ≠ tp.kind ∨ edge.kind ≠ sp.kind then
        [{ code := .portKindMismatch
           message := s!"Edge '{edge.id}' mixes data and control ports."
           edgeId := some edge.id }]
      else []) ++
      (if sp.semanticType ≠ tp.semanticType then
        [{ code := .portTypeMismatch
           message := s!"Edge '{edge.id}' maps '{sp.semanticType}' to '{tp.semanticType}'."
           edgeId := some edge.id }]
      else []) ++
      (if edge.semanticType ∉ [sp.semanticType, tp.semanticType] ∨
          sp.semanticType ≠ tp.semanticType then
        [{ code := .edgeTypeDeclarationMismatch
           message := s!"Edge '{edge.id}' declares '{edge.semanticType}' but connects " ++
             s!"'{sp.semanticType}' to '{tp.semanticType}'."
           edgeId := some edge.id }]
      else [])
    | _, _ => []

def scanEdge (nodes : NodeScan) (scan : EdgeScan) (edge : WorkflowEdge) : EdgeScan :=
  let duplicate : List GraphIssue :=
    if edge.id ∈ scan.edgeIds then
      [{ code := .duplicateEdgeId
         message := s!"Edge ID '{edge.id}' is duplicated."
         edgeId := some edge.id }]
    else []
  let seen := { scan with issues := scan.issues ++ duplicate, edgeIds := scan.edgeIds ++ [edge.id] }
  match nodes.get edge.sourceNodeId, nodes.get edge.targetNodeId with
  | some source, some target =>
    let fresh := target.id ∉ seen.adjacency source.id
    { seen with
      issues := seen.issues ++ edgePortIssues edge source target
      incomingEdges := appendAt seen.incomingEdges target.id edge
      outgoingEdges := appendAt seen.outgoingEdges source.id edge
      writers := appendAt seen.writers (target.id, edge.targetPort) edge
      adjacency := if fresh then appendAt seen.adjacency source.id target.id else seen.adjacency
      indegree :=
        if fresh then Function.update seen.indegree target.id (seen.indegree target.id + 1)
        else seen.indegree }
  | _, _ =>
    { seen with
      issues := seen.issues ++
        [{ code := .danglingEdge
           message := s!"Edge '{edge.id}' references a missing source or target node."
           edgeId := some edge.id }] }

structure InputScan where
  issues : List GraphIssue
  totalRequiredInputs : ℕ
  matchedRequiredInputs : ℕ

def scanInput (edges : EdgeScan) (node : WorkflowNode) (scan : InputScan) (port : PortSpec) :
    InputScan :=
  let portWriters := edges.writers (node.id, port.key)
  let missing : List GraphIssue :=
    if port.required ∧ portWriters.length ≠ 1 ∧ portWriters = [] then
      [{ code := .requiredInputMissing
         message := s!"Node '{node.id}' is missing required input '{port.key}'."
         nodeId := some node.id }]
    else []
  let multiple : List GraphIssue :=
    if 1 < portWriters.length then
      [{ code := .inputMultipleWriters
         message := s!"Node '{node.id}' input '{port.key}' has multiple writers."
         nodeId := some node.id }]
    else []
  { issues := scan.issues ++ missing ++ multiple
    totalRequiredInputs := scan.totalRequiredInputs + if port.required then 1 else 0
    matchedRequiredInputs :=
      scan.matchedRequiredInputs + if port.required ∧ portWriters.length = 1 then 1 else 0 }

/-- The isolation and terminal checks of one node. -/
def nodeShapeIssues (nodeCount : ℕ) (edges : EdgeScan) (node : WorkflowNode) : List GraphIssue :=
  let hasIncoming := edges.incomingEdges node.id ≠ []
  let hasOutgoing := edges.outgoingEdges node.id ≠ []
  (if 1 < nodeCount ∧ ¬ hasIncoming ∧ ¬ hasOutgoing then
    [{ code := .orphanNode
       message := s!"Node '{node.id}' is isolated from the graph."
       nodeId := some node.id }]
  else []) ++
  (if node.phase = .cleanup ∧ node.terminal = false then
    [{ code := .invalidTerminal
       message := s!"Cleanup node '{node.id}' must be terminal."
       nodeId := some node.id }]
  else []) ++
  (if node.terminal = true ∧ hasOutgoing then
    [{ code := .invalidTerminal
       message := s!"Terminal node '{node.id}' must not have successors."
       nodeId := some node.id }]
  else []) ++
  (if node.terminal = false ∧ ¬ hasOutgoing then
    [{ code := .missingSuccessor
       message := s!"Non-terminal node '{node.id}' has no successor."
       nodeId := some node.id }]
  else [])

def scanNodeInputs (nodeCount : ℕ) (edges : EdgeScan) (scan : InputScan) (node : WorkflowNode) :
    InputScan :=
  let inputs := node.inputPorts.foldl (scanInput edges node) scan
  { inputs with issues := inputs.issues ++ nodeShapeIssues nodeCount edges node }

/-- The `while ready` loop of `_topological_levels` over the keys of `node_by_id`. -/
def topologicalLevels (fuel : ℕ) (ids : List String) (adjacency : String → List String)
    (indegree : String → ℤ) : Option (List (List String)) :=
  Digr.levelsFrom (fun id => sorted (adjacency id)) sorted fuel indegree
    (sorted (ids.filter (fun id => indegree id = 0)))

/-- The `while pending` loop of `_reachable_nodes`; a set is a list in insertion order. -/
def reachableNodes (fuel : ℕ) (sourceId : String) (adjacency : String → List String) :
    Option (List String) :=
  Digr.reachFrom adjacency fuel [] (adjacency sourceId)

/-- The coverage check of one node, after its `continue` for every other kind. -/
def coverageIssues (fuel : ℕ) (nodeById : List WorkflowNode) (adjacency : String → List String)
    (node : WorkflowNode) : Option (List GraphIssue) :=
  if casefold node.kind ≠ "agent" then
    some []
  else
    (reachableNodes fuel node.id adjacency).map fun reachable =>
      if nodeById.any (fun oracle => oracle.oracleStrength = some .hard ∧ oracle.id ∈ reachable) then
        []
      else
        [{ code := .assertionCoverageMissing
           message := s!"Agent node '{node.id}' does not reach a HARD Oracle."
           nodeId := some node.id }]

def deduplicateIssues (issues : List GraphIssue) : List GraphIssue :=
  issues.foldl (fun unique issue => if issue ∈ unique then unique else unique ++ [issue]) []

/-- The whole validation; `none` stands for a loop still running when the fuel ends. -/
def validateWorkflowGraph (fuel : ℕ) (graph : WorkflowGraph) : Option GraphValidationResult := do
  let empty : List GraphIssue :=
    if graph.nodes = [] then
      [{ code := .emptyGraph, message := "Workflow Graph must contain at least one node." }]
    else []
  let nodes := graph.nodes.foldl scanNode { issues := empty, nodeById := [] }
  let edges := graph.edges.foldl (scanEdge nodes) (EdgeScan.start nodes.issues)
  let inputs := nodes.nodeById.foldl (scanNodeInputs nodes.nodeById.length edges)
    { issues := edges.issues, totalRequiredInputs := 0, matchedRequiredInputs := 0 }
  let executionLevels ←
    topologicalLevels fuel (nodes.nodeById.map (·.id)) edges.adjacency edges.indegree
  let cycle : List GraphIssue :=
    if (executionLevels.map List.length).sum ≠ nodes.nodeById.length then
      [{ code := .graphCycle, message := "Workflow Graph contains a cycle." }]
    else []
  let coverage ← nodes.nodeById.mapM (coverageIssues fuel nodes.nodeById edges.adjacency)
  let uniqueIssues := deduplicateIssues (inputs.issues ++ cycle ++ coverage.flatten)
  return {
    valid := uniqueIssues.isEmpty
    issues := uniqueIssues
    executionLevels := executionLevels
    matchedRequiredInputs := inputs.matchedRequiredInputs
    totalRequiredInputs := inputs.totalRequiredInputs }

end Atlas.Workflow
