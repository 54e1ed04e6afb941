import AtlasTestOps.Core.Contracts
import AtlasTestOps.Lib.Dict
import AtlasTestOps.Workflow.Validator
import Mathlib.Data.String.Basic

/-! `preview_workflow_patch`: the operations of a patch, one after the other, on the nodes and the edges of
a draft. An operation that cannot be applied is reported and skipped. -/

namespace Atlas.Workflow

inductive DraftOperation
  | addNode (node : WorkflowNode)
  | replaceNode (nodeId : String) (node : WorkflowNode) (preserved : node.id = nodeId)
  | removeNode (nodeId : String)
  | addEdge (edge : WorkflowEdge)
  | replaceEdge (edgeId : String) (edge : WorkflowEdge) (preserved : edge.id = edgeId)
  | removeEdge (edgeId : String)

inductive PatchIssueCode
  | nodeAlreadyExists | nodeNotFound | edgeAlreadyExists | edgeNotFound | danglingEdge
  | layoutNodeNotFound
  deriving DecidableEq, Repr

structure PatchIssue where
  code : PatchIssueCode
  message : String
  operationIndex : Option ℕ := none
  nodeId : Option String := none
  edgeId : Option String := none
  deriving DecidableEq, Repr

structure WorkflowPatchPreview where
  applicable : Bool
  issues : List PatchIssue
  graph : WorkflowGraph
  semanticDigest : Digest
  validation : GraphValidationResult

/-- `_NON_PERSISTABLE_GRAPH_ISSUES` -/
def nonPersistable (code : GraphIssueCode) : Bool :=
  code ∈ [.duplicateNodeId, .duplicateEdgeId, .danglingEdge]

def canonicalWorkflowGraph (graph : WorkflowGraph) : WorkflowGraph where
  nodes := Dict.sortBy WorkflowNode.id graph.nodes
  edges := Dict.sortBy WorkflowEdge.id graph.edges

/-- What `semantic_digest` hashes. -/
structure SemanticContent where
  intentVersionRef : String
  graph : WorkflowGraph

variable (canonicalDigest : SemanticContent → Digest)

def semanticDigest (graph : WorkflowGraph) (intentVersionRef : String) : Digest :=
  canonicalDigest ⟨intentVersionRef, canonicalWorkflowGraph graph⟩

/-- The two dictionaries and the issues so far. -/
structure PatchState where
  nodes : Dict WorkflowNode.id
  edges : Dict WorkflowEdge.id
  issues : List PatchIssue

def PatchState.start (graph : WorkflowGraph) : PatchState :=
  ⟨Dict.ofList graph.nodes, Dict.ofList graph.edges, []⟩

def PatchState.report (state : PatchState) (issue : PatchIssue) : PatchState :=
  { state with issues := state.issues ++ [issue] }

/-- The body of the loop over the operations. -/
def applyOperation (state : PatchState) (index : ℕ) : DraftOperation → PatchState
  | .addNode node =>
    if state.nodes.contains node.id then
      state.report
        { code := .nodeAlreadyExists
          message := "The node already exists in this draft."
          operationIndex := some index
          nodeId := some node.id }
    else { state with nodes := state.nodes.set node }
  | .replaceNode nodeId node _ =>
    if !state.nodes.contains nodeId then
      state.report
        { code := .nodeNotFound
          message := "The node to replace does not exist."
          operationIndex := some index
          nodeId := some nodeId }
    else { state with nodes := state.nodes.set node }
  | .removeNode nodeId =>
    if !state.nodes.contains nodeId then
      state.report
        { code := .nodeNotFound
          message := "The node to remove does not exist."
          operationIndex := some index
          nodeId := some nodeId }
    else { state with nodes := state.nodes.erase nodeId }
  | .addEdge edge =>
    if state.edges.contains edge.id then
      state.report
        { code := .edgeAlreadyExists
          message := "The edge already exists in this draft."
          operationIndex := some index
          edgeId := some edge.id }
    else { state with edges := state.edges.set edge }
  | .replaceEdge edgeId edge _ =>
    if !state.edges.contains edgeId then
      state.report
        { code := .edgeNotFound
          message := "The edge to replace does not exist."
          operationIndex := some index
          edgeId := some edgeId }
    else { state with edges := state.edges.set edge }
  | .removeEdge edgeId =>
    if !state.edges.contains edgeId then
      state.report
        { code := .edgeNotFound
          message := "The edge to remove does not exist."
          operationIndex := some index
          edgeId := some edgeId }
    else { state with edges := state.edges.erase edgeId }

def applyOperations (state : PatchState) : ℕ → List DraftOperation → PatchState
  | _, [] => state
  | index, operation :: operations =>
    applyOperations (applyOperation state index operation) (index + 1) operations

def PatchState.graph (state : PatchState) : WorkflowGraph :=
  canonicalWorkflowGraph
    { nodes := Dict.sortBy WorkflowNode.id state.nodes.entries
      edges := Dict.sortBy WorkflowEdge.id state.edges.entries }

/-- The issue of a patch for an issue of its graph, when the graph could not be stored with it. -/
def graphIssue (issue : GraphIssue) : Option PatchIssue :=
  if nonPersistable issue.code then
    some { code := .danglingEdge, message := issue.message, edgeId := issue.edgeId, nodeId := issue.nodeId }
  else none

/-- Enough steps for the loops of the validator. -/
def validationFuel (graph : WorkflowGraph) : ℕ := graph.nodes.length * (graph.nodes.length + 2)

/-- `preview_workflow_patch` -/
def previewWorkflowPatch (graph : WorkflowGraph) (operations : List DraftOperation)
    (intentVersionRef : String) : Option WorkflowPatchPreview := do
  let state := applyOperations (.start graph) 0 operations
  let nextGraph := state.graph
  let validation ← validateWorkflowGraph (validationFuel nextGraph) nextGraph
  let issues := state.issues ++ validation.issues.filterMap graphIssue
  return {
    applicable := issues.isEmpty
    issues := issues
    graph := nextGraph
    semanticDigest := semanticDigest canonicalDigest nextGraph intentVersionRef
    validation := validation }

end Atlas.Workflow
