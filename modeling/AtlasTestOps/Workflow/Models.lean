import AtlasTestOps.Lib.Json

/-! The Workflow Graph protocol models: typed ports, nodes, edges and the issues that
graph validation reports. -/

namespace Atlas.Workflow

inductive WorkflowPhase
  | setup | identity | execute | assert | cleanup
  deriving DecidableEq, Repr

inductive PortKind
  | data | control
  deriving DecidableEq, Repr

inductive OracleStrength
  | hard | soft | diagnostic
  deriving DecidableEq, Repr

inductive EdgeMapping
  | direct
  deriving DecidableEq, Repr

structure PortSpec where
  key : String
  semanticType : String
  kind : PortKind := .data
  required : Bool := true
  sensitive : Bool := false
  deriving DecidableEq, Repr

structure WorkflowNode where
  id : String
  kind : String
  versionRef : String
  phase : WorkflowPhase
  inputPorts : List PortSpec := []
  outputPorts : List PortSpec := []
  params : List (String × Json) := []
  terminal : Bool := false
  oracleStrength : Option OracleStrength := none
  deriving Repr

structure WorkflowEdge where
  id : String
  sourceNodeId : String
  sourcePort : String
  targetNodeId : String
  targetPort : String
  semanticType : String
  kind : PortKind := .data
  mapping : EdgeMapping := .direct
  deriving DecidableEq, Repr

structure WorkflowGraph where
  nodes : List WorkflowNode
  edges : List WorkflowEdge
  deriving Repr

inductive GraphIssueCode
  | emptyGraph | duplicateNodeId | duplicateEdgeId | duplicatePort | danglingEdge
  | sourcePortMissing | targetPortMissing | portKindMismatch | portTypeMismatch
  | edgeTypeDeclarationMismatch | requiredInputMissing | inputMultipleWriters | graphCycle
  | orphanNode | missingSuccessor | invalidTerminal | assertionCoverageMissing
  deriving DecidableEq, Repr

structure GraphIssue where
  code : GraphIssueCode
  message : String
  nodeId : Option String := none
  edgeId : Option String := none
  deriving DecidableEq, Repr

structure GraphValidationResult where
  valid : Bool
  issues : List GraphIssue
  executionLevels : List (List String)
  matchedRequiredInputs : ℕ
  totalRequiredInputs : ℕ
  deriving DecidableEq, Repr

end Atlas.Workflow
