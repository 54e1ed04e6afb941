import AtlasTestOps.Fixture.Models
import AtlasTestOps.Lib.Dict
import AtlasTestOps.Lib.Json
import AtlasTestOps.Lib.Rounds

/-! The static compiler of fixture blueprints. The JSON Schema validator and the digest of the
plan are parameters; a lookup that the source writes with brackets is `none` where it would raise. -/

namespace Atlas.Fixture

open Atlas

inductive AssetVersionStatus
  | draft | validated | published | deprecated
deriving DecidableEq, Repr

inductive PortDirection
  | input | output
deriving DecidableEq, Repr

inductive DataClassification
  | «public» | internal | confidential | sensitive
deriving DecidableEq, Repr

/-- `_CLASSIFICATION_RANK` -/
def classificationRank : DataClassification → ℕ
  | .public => 0
  | .internal => 1
  | .confidential => 2
  | .sensitive => 3

structure AtomPort where
  key : String
  direction : PortDirection
  semanticType : String
  jsonSchema : Json
  required : Bool
  classification : DataClassification
deriving Repr

/-- An atom version with the ports of its contract. -/
structure AtomVersion extends DataAtomVersion where
  status : AssetVersionStatus
  ports : List AtomPort
  portKeys : (ports.map fun p => (p.direction, p.key)).Nodup

/-- The port of a direction under its key. -/
def AtomVersion.port (atom : AtomVersion) (direction : PortDirection) (key : String) : Option AtomPort :=
  atom.ports.find? fun p => p.direction = direction ∧ p.key = key

/-- The Project's versions that the blueprint may name. -/
abbrev AtomVersions := Uuid → Option AtomVersion

inductive BlueprintInputBinding
  | literal (targetPort : String) (value : Json)
  | runInput (targetPort pointer : String)
  | nodeOutput (targetPort sourceNodeId sourcePort : String)
  | executionContext (targetPort : String)
deriving Repr

def BlueprintInputBinding.targetPort : BlueprintInputBinding → String
  | .literal target _ | .runInput target _ | .nodeOutput target _ _ | .executionContext target => target

structure BlueprintNode where
  id : String
  atomVersionId : Uuid
  actorSlot : String
  bindings : List BlueprintInputBinding
  targets : (bindings.map BlueprintInputBinding.targetPort).Nodup

structure BlueprintExport where
  name : String
  sourceNodeId : String
  sourcePort : String
  classification : DataClassification
  exportable : classification ≠ .sensitive

structure DataBlueprintContract where
  nodes : List BlueprintNode
  exports : List BlueprintExport
  nodeCount : 1 ≤ nodes.length ∧ nodes.length ≤ 100
  exportCount : 1 ≤ exports.length ∧ exports.length ≤ 100
  nodeIds : (nodes.map fun n => n.id).Nodup
  exportNames : (exports.map fun e => e.name).Nodup

/-- `nodes_by_id` -/
def DataBlueprintContract.node (contract : DataBlueprintContract) (id : String) : Option BlueprintNode :=
  contract.nodes.find? fun n => n.id = id

inductive CompileIssueCode
  | atomVersionNotFound | atomVersionNotValidated | targetPortNotFound | sourceNodeNotFound
  | sourcePortNotFound | portTypeMismatch | requiredInputMissing | literalSchemaMismatch
  | graphCycleDetected | exportSourceNotFound | exportClassificationMismatch | cleanupContractMissing
  | forbiddenSecretFlow
deriving DecidableEq, Repr

structure CompileIssue where
  code : CompileIssueCode
  message : String
  nodeId : Option String
  portKey : Option String
  exportName : Option String
deriving DecidableEq, Repr

structure CompiledBlueprintNode extends CompiledNode where
  actorSlot : String
  bindings : List BlueprintInputBinding
  executionLevel : ℕ

/-- The part of a plan that its digest covers. -/
structure PlanBody where
  blueprintVersionId : Uuid
  blueprintDigest : Digest
  nodes : List CompiledBlueprintNode
  executionLevels : List (List String)
  cleanupOrder : List String
  exports : List BlueprintExport

structure CompiledBlueprintPlan extends PlanBody where
  planDigest : Digest

structure BlueprintCompilationResult where
  valid : Bool
  issues : List CompileIssue
  plan : Option CompiledBlueprintPlan
  shape : valid = (issues.isEmpty && plan.isSome)

/-! Bindings. -/

def issueWhen (c : Prop) [Decidable c] (issue : CompileIssue) : List CompileIssue := if c then [issue] else []

@[simp] theorem issueWhen_eq_nil {c : Prop} [Decidable c] {issue : CompileIssue} : issueWhen c issue = [] ↔ ¬ c := by
  by_cases h : c <;> simp [issueWhen, h]

theorem mem_issueWhen {c : Prop} [Decidable c] {issue i : CompileIssue} : i ∈ issueWhen c issue ↔ c ∧ i = issue := by
  by_cases h : c <;> simp [issueWhen, h]

def bindingIssue (code : CompileIssueCode) (message nodeId portKey : String) : CompileIssue :=
  ⟨code, message, some nodeId, some portKey, none⟩

section Compile

/-! `accepts schema value` is whether `Draft202012Validator` finds no error. It is total: a schema with a
reference that the validator cannot resolve, on which it raises, is assumed not to be in the catalogue. -/

variable (accepts : Json → Json → Bool) (contract : DataBlueprintContract) (atoms : AtomVersions)

/-- `_validate_node_output_binding`: its issues, and the node that the target then depends on. -/
def validateNodeOutputBinding (target : AtomPort) (targetNodeId targetPort sourceNodeId sourcePort : String) :
    List CompileIssue × Option String :=
  match contract.node sourceNodeId with
  | none => ([bindingIssue .sourceNodeNotFound "The binding source node does not exist in the blueprint."
      targetNodeId targetPort], none)
  | some source =>
    match atoms source.atomVersionId with
    | none => ([], none)
    | some atom =>
      match atom.port .output sourcePort with
      | none => ([bindingIssue .sourcePortNotFound "The binding source is not an output port on its atom version."
          targetNodeId targetPort], none)
      | some port =>
        (issueWhen (port.semanticType ≠ target.semanticType)
            (bindingIssue .portTypeMismatch "Source and target ports have different semantic types."
              targetNodeId targetPort) ++
          issueWhen (classificationRank target.classification < classificationRank port.classification)
            (bindingIssue .forbiddenSecretFlow "A binding cannot lower the source data classification."
              targetNodeId targetPort),
          some sourceNodeId)

/-- One turn of the loop over the bindings of a node. -/
def validateBinding (nodeId : String) (atom : AtomVersion) (binding : BlueprintInputBinding) :
    List CompileIssue × Option String :=
  match atom.port .input binding.targetPort with
  | none => ([bindingIssue .targetPortNotFound "The binding target is not an input port on the atom version."
      nodeId binding.targetPort], none)
  | some target =>
    match binding with
    | .literal targetPort value =>
      (issueWhen (accepts target.jsonSchema value = false)
        (bindingIssue .literalSchemaMismatch "The literal value does not satisfy the target port JSON Schema."
          nodeId targetPort), none)
    | .nodeOutput targetPort sourceNodeId sourcePort =>
      validateNodeOutputBinding contract atoms target nodeId targetPort sourceNodeId sourcePort
    | .runInput .. | .executionContext .. => ([], none)

/-- `bound_targets` -/
def boundTargets (atom : AtomVersion) (node : BlueprintNode) : List String :=
  (node.bindings.map BlueprintInputBinding.targetPort).filter fun key => (atom.port .input key).isSome

/-- The required input ports that no binding reaches, in the order of their keys. -/
def missingInputs (atom : AtomVersion) (node : BlueprintNode) : List AtomPort :=
  (Dict.sortBy (fun p => p.key) (atom.ports.filter fun p => p.direction = .input)).filter fun p =>
    p.required ∧ p.key ∉ boundTargets atom node

def nodeIssues (node : BlueprintNode) : List CompileIssue :=
  match atoms node.atomVersionId with
  | none => [⟨.atomVersionNotFound, "The referenced atom version does not exist in this project.", some node.id,
      none, none⟩]
  | some atom =>
    issueWhen (atom.status ≠ .validated ∧ atom.status ≠ .published)
        ⟨.atomVersionNotValidated, "The referenced atom version must be VALIDATED or PUBLISHED.", some node.id,
          none, none⟩ ++
      node.bindings.flatMap (fun binding => (validateBinding accepts contract atoms node.id atom binding).1) ++
      (missingInputs atom node).map (fun port =>
        bindingIssue .requiredInputMissing "A required atom input has no blueprint binding." node.id port.key) ++
      issueWhen (atom.contract.effect = .create ∧ atom.contract.cleanupContract = none)
        ⟨.cleanupContractMissing, "A CREATE atom must declare a reviewed cleanup contract.", some node.id,
          none, none⟩

/-- `dependencies[node.id]` after the loop. -/
def nodeDependencies (node : BlueprintNode) : List String :=
  match atoms node.atomVersionId with
  | none => []
  | some atom =>
    (node.bindings.filterMap fun binding => (validateBinding accepts contract atoms node.id atom binding).2).dedup

def dependencies : List (String × List String) :=
  contract.nodes.map fun node => (node.id, nodeDependencies accepts contract atoms node)

def exportIssues (item : BlueprintExport) : List CompileIssue :=
  let notFound (message : String) : List CompileIssue :=
    [⟨.exportSourceNotFound, message, none, none, some item.name⟩]
  match contract.node item.sourceNodeId with
  | none => notFound "The export source node does not exist in the blueprint."
  | some source =>
    match atoms source.atomVersionId with
    | none => []
    | some atom =>
      match atom.port .output item.sourcePort with
      | none => notFound "The export source is not an output port on its atom version."
      | some port =>
        issueWhen (classificationRank item.classification < classificationRank port.classification)
          ⟨.exportClassificationMismatch, "An export cannot lower the source data classification.", none, none,
            some item.name⟩

/-- `_validate_exports` -/
def validateExports : List CompileIssue :=
  (Dict.sortBy (fun e => e.name) contract.exports).flatMap (exportIssues contract atoms)

/-- `_execution_levels` -/
def executionLevels (rows : List (String × List String)) : Option (List (List String)) :=
  Digr.rounds (Dict.sortBy fun id => id) rows.length rows

/-- The issues of all nodes and exports. -/
def staticIssues : List CompileIssue :=
  (Dict.sortBy (fun n => n.id) contract.nodes).flatMap (nodeIssues accepts contract atoms) ++
    validateExports contract atoms

def graphCycle : CompileIssue :=
  ⟨.graphCycleDetected, "The blueprint node graph contains a dependency cycle.", none, none, none⟩

/-- `level_by_node[node_id]` -/
def levelOf (levels : List (List String)) (nodeId : String) : Option ℕ := levels.findIdx? fun level => nodeId ∈ level

def compileNode (levels : List (List String)) (node : BlueprintNode) : Option CompiledBlueprintNode := do
  let atom ← atoms node.atomVersionId
  let level ← levelOf levels node.id
  pure
    { nodeId := node.id
      atomVersionId := node.atomVersionId
      atomDigest := atom.contentDigest
      actorSlot := node.actorSlot
      bindings := node.bindings
      executionLevel := level }

/-- `atom_versions[nodes_by_id[node_id].atom_version_id].contract.effect` -/
def effectOf (nodeId : String) : Option (String × AtomEffect) := do
  let node ← contract.node nodeId
  let atom ← atoms node.atomVersionId
  pure (nodeId, atom.contract.effect)

/-- `cleanup_order` -/
def cleanupOrder (levels : List (List String)) : Option (List String) := do
  let effects ← levels.flatten.reverse.mapM (effectOf contract atoms)
  pure ((effects.filter fun e => e.2 = .create).map fun e => e.1)

/-- `compile_blueprint` -/
def compileBlueprint (digest : PlanBody → Digest) (blueprintVersionId : Uuid) (blueprintDigest : Digest) :
    Option BlueprintCompilationResult :=
  let issues := staticIssues accepts contract atoms
  match executionLevels (dependencies accepts contract atoms) with
  | none => some ⟨false, issues ++ [graphCycle], none, by simp⟩
  | some levels =>
    if issues ≠ [] then some ⟨false, issues, none, by simp⟩
    else do
      let nodes ← (Dict.sortBy (fun n => n.id) contract.nodes).mapM (compileNode atoms levels)
      let cleanup ← cleanupOrder contract atoms levels
      let body : PlanBody := ⟨blueprintVersionId, blueprintDigest, nodes, levels, cleanup, contract.exports⟩
      pure ⟨true, [], some ⟨body, digest body⟩, by simp⟩

end Compile

end Atlas.Fixture
