import AtlasTestOps.Fixture.Compiler
import AtlasTestOps.Lib.Table

/-! What the blueprint compiler promises: it answers every blueprint, refuses exactly the unsound ones,
and lays out sound plans. The run decides by ownership which resources it cleans, the compiler by effect. -/

namespace Atlas.Proofs

open Atlas Atlas.Fixture Digr

/-! ### The blueprint as a graph -/

section Graph

variable (contract : DataBlueprintContract) (atoms : AtomVersions)

/-- The output port of a node of the blueprint. -/
def outputPort (nodeId key : String) : Option AtomPort := do
  let node ← contract.node nodeId
  let atom ← atoms node.atomVersionId
  atom.port .output key

/-- The binding leads from an output of the source node to an input of the atom. -/
def Connects (atom : AtomVersion) (binding : BlueprintInputBinding) (sourceId : String) : Prop :=
  ∃ target key, binding = .nodeOutput target sourceId key ∧ (atom.port .input target).isSome ∧
    (outputPort contract atoms sourceId key).isSome

/-- The node `v` takes an input from the node `u`. -/
def Depends (u v : String) : Prop :=
  ∃ node ∈ contract.nodes, node.id = v ∧ ∃ atom, atoms node.atomVersionId = some atom ∧
    ∃ binding ∈ node.bindings, Connects contract atoms atom binding u

end Graph

variable {accepts : Json → Json → Bool} {contract : DataBlueprintContract} {atoms : AtomVersions}

theorem validateBinding_dependency {nodeId : String} {atom : AtomVersion} {binding : BlueprintInputBinding}
    {u : String} :
    (validateBinding accepts contract atoms nodeId atom binding).2 = some u ↔
      Connects contract atoms atom binding u := by
  unfold validateBinding Connects outputPort
  cases htarget : atom.port .input binding.targetPort with
  | none =>
    constructor
    · simp
    · rintro ⟨target, key, rfl, hsome, -⟩
      simp [show atom.port .input target = none from htarget] at hsome
  | some port =>
    cases binding with
    | literal target value => simp
    | runInput target pointer => simp
    | executionContext target => simp
    | nodeOutput target sourceId key =>
      have hport : atom.port .input target = some port := htarget
      simp only [validateNodeOutputBinding, BlueprintInputBinding.nodeOutput.injEq]
      cases hnode : contract.node sourceId with
      | none =>
        constructor
        · simp
        · rintro ⟨_, _, ⟨-, rfl, -⟩, -, hsome⟩
          simp [hnode] at hsome
      | some source =>
        cases hatom : atoms source.atomVersionId with
        | none =>
          constructor
          · simp [hatom]
          · rintro ⟨_, _, ⟨-, rfl, -⟩, -, hsome⟩
            simp [hnode, hatom] at hsome
        | some sourceAtom =>
          cases hout : sourceAtom.port .output key with
          | none =>
            constructor
            · simp [hatom, hout]
            · rintro ⟨_, _, ⟨-, rfl, rfl⟩, -, hsome⟩
              simp [hnode, hatom, hout] at hsome
          | some outPort =>
            constructor
            · intro h
              obtain rfl : sourceId = u := by simpa [hatom, hout] using h
              exact ⟨target, key, ⟨rfl, rfl, rfl⟩, by simp [hport], by simp [hnode, hatom, hout]⟩
            · rintro ⟨_, _, ⟨-, rfl, rfl⟩, -, -⟩
              simp [hatom, hout]

theorem mem_nodeDependencies {node : BlueprintNode} {u : String} :
    u ∈ nodeDependencies accepts contract atoms node ↔
      ∃ atom, atoms node.atomVersionId = some atom ∧ ∃ binding ∈ node.bindings, Connects contract atoms atom binding u := by
  unfold nodeDependencies
  cases hatom : atoms node.atomVersionId with
  | none => simp
  | some atom => simp [List.mem_filterMap, validateBinding_dependency]

theorem waits_dependencies : Waits (dependencies accepts contract atoms) = Depends contract atoms := by
  funext u v
  simp only [Waits, dependencies, Depends, List.mem_map, eq_iff_iff]
  constructor
  · rintro ⟨us, ⟨node, hnode, hrow⟩, hu⟩
    obtain ⟨rfl, rfl⟩ := Prod.mk.inj hrow
    exact ⟨node, hnode, rfl, mem_nodeDependencies.1 hu⟩
  · rintro ⟨node, hnode, rfl, h⟩
    exact ⟨_, ⟨node, hnode, rfl⟩, mem_nodeDependencies.2 h⟩

theorem node_eq_some {id : String} {node : BlueprintNode} (h : contract.node id = some node) :
    node ∈ contract.nodes ∧ node.id = id :=
  ⟨List.mem_of_find?_eq_some h, by simpa using List.find?_some h⟩

theorem node_of_mem {node : BlueprintNode} (h : node ∈ contract.nodes) : contract.node node.id = some node :=
  Table.find?_of_mem contract.nodeIds h

theorem keys_dependencies :
    (dependencies accepts contract atoms).map (fun r => r.1) = contract.nodes.map fun n => n.id := by
  rw [dependencies, List.map_map]
  rfl

/-- Every dependency of a node is a node of the blueprint. -/
theorem closed_dependencies : Closed (dependencies accepts contract atoms) := by
  refine ⟨keys_dependencies ▸ contract.nodeIds, ?_⟩
  rintro ⟨id, us⟩ hrow u hu
  rw [keys_dependencies]
  obtain ⟨node, hnode, hrow⟩ := List.mem_map.1 hrow
  obtain ⟨rfl, rfl⟩ := Prod.mk.inj hrow
  obtain ⟨atom, hatom, binding, hbinding, target, key, -, -, hsome⟩ := mem_nodeDependencies.1 hu
  cases hsource : contract.node u with
  | none => simp [outputPort, hsource] at hsome
  | some source =>
    obtain ⟨hmem, rfl⟩ := node_eq_some hsource
    exact List.mem_map_of_mem hmem

/-! ### Sound blueprints -/

section Sound

variable (accepts contract atoms)

/-- The binding reaches an input port from a source that fits it. Run inputs and the execution identity
have no declared type and no classification. -/
def BindingSound (atom : AtomVersion) (binding : BlueprintInputBinding) : Prop :=
  ∃ target, atom.port .input binding.targetPort = some target ∧
    match binding with
    | .literal _ value => accepts target.jsonSchema value = true
    | .nodeOutput _ sourceId key => ∃ source, outputPort contract atoms sourceId key = some source ∧
        source.semanticType = target.semanticType ∧
        classificationRank source.classification ≤ classificationRank target.classification
    | .runInput .. | .executionContext .. => True

structure AtomSound (node : BlueprintNode) (atom : AtomVersion) : Prop where
  status : atom.status = .validated ∨ atom.status = .published
  bindings : ∀ binding ∈ node.bindings, BindingSound accepts contract atoms atom binding
  required : ∀ port ∈ atom.ports, port.direction = .input → port.required = true →
    ∃ binding ∈ node.bindings, binding.targetPort = port.key
  cleanup : atom.contract.effect = .create → atom.contract.cleanupContract ≠ none

def NodeSound (node : BlueprintNode) : Prop :=
  ∃ atom, atoms node.atomVersionId = some atom ∧ AtomSound accepts contract atoms node atom

/-- The export names an output port and does not lower its classification. -/
def ExportSound (item : BlueprintExport) : Prop :=
  ∃ port, outputPort contract atoms item.sourceNodeId item.sourcePort = some port ∧
    classificationRank port.classification ≤ classificationRank item.classification

/-- A blueprint that ought to compile. -/
structure Compilable : Prop where
  nodes : ∀ node ∈ contract.nodes, NodeSound accepts contract atoms node
  exports : ∀ item ∈ contract.exports, ExportSound contract atoms item
  acyclic : Acyclic (Depends contract atoms)

end Sound

theorem validateBinding_eq_nil_iff {nodeId : String} {atom : AtomVersion} {binding : BlueprintInputBinding}
    (hfound : ∀ node ∈ contract.nodes, (atoms node.atomVersionId).isSome) :
    (validateBinding accepts contract atoms nodeId atom binding).1 = [] ↔
      BindingSound accepts contract atoms atom binding := by
  unfold validateBinding BindingSound
  cases htarget : atom.port .input binding.targetPort with
  | none => simp
  | some port =>
    cases binding with
    | literal target value => simp
    | runInput target pointer => simp
    | executionContext target => simp
    | nodeOutput target sourceId key =>
      simp only [validateNodeOutputBinding, outputPort]
      cases hnode : contract.node sourceId with
      | none => simp
      | some source =>
        obtain ⟨sourceAtom, hatom⟩ := Option.isSome_iff_exists.1 (hfound source (node_eq_some hnode).1)
        cases hout : sourceAtom.port .output key with
        | none => simp [hatom, hout]
        | some outPort => simp [hatom, hout]

theorem mem_sortBy {α : Type} {key : α → String} {rows : List α} {a : α} :
    a ∈ Dict.sortBy key rows ↔ a ∈ rows := (Dict.sortBy_perm rows).mem_iff

theorem missingInputs_eq_nil_iff {atom : AtomVersion} {node : BlueprintNode} :
    missingInputs atom node = [] ↔ ∀ port ∈ atom.ports, port.direction = .input → port.required = true →
      ∃ binding ∈ node.bindings, binding.targetPort = port.key := by
  unfold missingInputs boundTargets
  rw [List.filter_eq_nil_iff]
  simp only [mem_sortBy, List.mem_filter, decide_eq_true_eq, List.mem_map, not_and]
  constructor
  · intro h port hport hin hreq
    by_contra hno
    exact h port ⟨hport, hin⟩ hreq fun hbound => absurd hbound hno
  · rintro h port ⟨hport, hin⟩ hreq hunbound
    refine hunbound (h port hport hin hreq) ?_
    rw [AtomVersion.port, List.find?_isSome]
    exact ⟨port, hport, by simp [hin]⟩

theorem nodeIssues_eq_nil_iff {node : BlueprintNode}
    (hfound : ∀ node ∈ contract.nodes, (atoms node.atomVersionId).isSome) :
    nodeIssues accepts contract atoms node = [] ↔ NodeSound accepts contract atoms node := by
  unfold nodeIssues NodeSound
  cases hatom : atoms node.atomVersionId with
  | none => simp
  | some atom =>
    simp only [List.append_eq_nil_iff, issueWhen_eq_nil, List.flatMap_eq_nil_iff, List.map_eq_nil_iff,
      missingInputs_eq_nil_iff, validateBinding_eq_nil_iff hfound, not_and_or, not_not, Option.some.injEq]
    constructor
    · rintro ⟨⟨⟨hstatus, hbindings⟩, hrequired⟩, hcleanup⟩
      refine ⟨atom, rfl, hstatus, hbindings, hrequired, ?_⟩
      tauto
    · rintro ⟨_, rfl, hstatus, hbindings, hrequired, hcleanup⟩
      refine ⟨⟨⟨hstatus, hbindings⟩, hrequired⟩, ?_⟩
      tauto

theorem exportIssues_eq_nil_iff {item : BlueprintExport}
    (hfound : ∀ node ∈ contract.nodes, (atoms node.atomVersionId).isSome) :
    exportIssues contract atoms item = [] ↔ ExportSound contract atoms item := by
  unfold exportIssues ExportSound outputPort
  cases hnode : contract.node item.sourceNodeId with
  | none => simp
  | some source =>
    obtain ⟨sourceAtom, hatom⟩ := Option.isSome_iff_exists.1 (hfound source (node_eq_some hnode).1)
    cases hout : sourceAtom.port .output item.sourcePort with
    | none => simp [hatom, hout]
    | some outPort => simp [hatom, hout]

/-- Nothing is reported exactly when every node and every export is sound. -/
theorem staticIssues_eq_nil_iff :
    staticIssues accepts contract atoms = [] ↔
      (∀ node ∈ contract.nodes, NodeSound accepts contract atoms node) ∧
        ∀ item ∈ contract.exports, ExportSound contract atoms item := by
  simp only [staticIssues, validateExports, List.append_eq_nil_iff, List.flatMap_eq_nil_iff, mem_sortBy]
  constructor
  · rintro ⟨hnodes, hexports⟩
    have hfound : ∀ node ∈ contract.nodes, (atoms node.atomVersionId).isSome := by
      intro node hnode
      have h := hnodes node hnode
      cases hatom : atoms node.atomVersionId with
      | none => simp [nodeIssues, hatom] at h
      | some atom => rfl
    exact ⟨fun node hnode => (nodeIssues_eq_nil_iff hfound).1 (hnodes node hnode),
      fun item hitem => (exportIssues_eq_nil_iff hfound).1 (hexports item hitem)⟩
  · rintro ⟨hnodes, hexports⟩
    have hfound : ∀ node ∈ contract.nodes, (atoms node.atomVersionId).isSome := by
      intro node hnode
      obtain ⟨atom, hatom, -⟩ := hnodes node hnode
      simp [hatom]
    exact ⟨fun node hnode => (nodeIssues_eq_nil_iff hfound).2 (hnodes node hnode),
      fun item hitem => (exportIssues_eq_nil_iff hfound).2 (hexports item hitem)⟩

theorem validateBinding_code {nodeId : String} {atom : AtomVersion} {binding : BlueprintInputBinding}
    {issue : CompileIssue} (h : issue ∈ (validateBinding accepts contract atoms nodeId atom binding).1) :
    issue.code ≠ .graphCycleDetected := by
  unfold validateBinding at h
  cases htarget : atom.port .input binding.targetPort with
  | none =>
    obtain rfl : issue = _ := by simpa [htarget] using h
    simp [bindingIssue]
  | some port =>
    cases binding with
    | runInput target pointer => simp [htarget] at h
    | executionContext target => simp [htarget] at h
    | literal target value =>
      simp only [htarget, mem_issueWhen] at h
      rw [h.2]
      simp [bindingIssue]
    | nodeOutput target sourceId key =>
      simp only [htarget, validateNodeOutputBinding] at h
      cases hnode : contract.node sourceId with
      | none =>
        obtain rfl : issue = _ := by simpa [hnode] using h
        simp [bindingIssue]
      | some source =>
        cases hatom : atoms source.atomVersionId with
        | none => simp [hnode, hatom] at h
        | some sourceAtom =>
          cases hout : sourceAtom.port .output key with
          | none =>
            obtain rfl : issue = _ := by simpa [hnode, hatom, hout] using h
            simp [bindingIssue]
          | some outPort =>
            simp only [hnode, hatom, hout, List.mem_append, mem_issueWhen] at h
            rcases h with ⟨-, rfl⟩ | ⟨-, rfl⟩ <;> simp [bindingIssue]

theorem nodeIssues_code {node : BlueprintNode} {issue : CompileIssue}
    (h : issue ∈ nodeIssues accepts contract atoms node) : issue.code ≠ .graphCycleDetected := by
  unfold nodeIssues at h
  cases hatom : atoms node.atomVersionId with
  | none =>
    obtain rfl : issue = _ := by simpa [hatom] using h
    simp
  | some atom =>
    simp only [hatom, List.mem_append, mem_issueWhen, List.mem_flatMap, List.mem_map] at h
    rcases h with ((⟨-, rfl⟩ | ⟨binding, -, hbinding⟩) | ⟨port, -, rfl⟩) | ⟨-, rfl⟩
    · simp
    · exact validateBinding_code hbinding
    · simp [bindingIssue]
    · simp

theorem exportIssues_code {item : BlueprintExport} {issue : CompileIssue}
    (h : issue ∈ exportIssues contract atoms item) : issue.code ≠ .graphCycleDetected := by
  unfold exportIssues at h
  cases hnode : contract.node item.sourceNodeId with
  | none =>
    obtain rfl : issue = _ := by simpa [hnode] using h
    simp
  | some source =>
    cases hatom : atoms source.atomVersionId with
    | none => simp [hnode, hatom] at h
    | some atom =>
      cases hout : atom.port .output item.sourcePort with
      | none =>
        obtain rfl : issue = _ := by simpa [hnode, hatom, hout] using h
        simp
      | some port =>
        simp only [hnode, hatom, hout, mem_issueWhen] at h
        rw [h.2]
        simp

/-- Only the levels report a cycle. -/
theorem staticIssues_code {issue : CompileIssue} (h : issue ∈ staticIssues accepts contract atoms) :
    issue.code ≠ .graphCycleDetected := by
  rw [staticIssues, validateExports, List.mem_append, List.mem_flatMap, List.mem_flatMap] at h
  rcases h with ⟨node, -, hnode⟩ | ⟨item, -, hitem⟩
  · exact nodeIssues_code hnode
  · exact exportIssues_code hitem

/-! ### The plan -/

/-- A list whose every lookup succeeds: the answers, each from its own key. -/
theorem mapM_eq_some {α β : Type} {f : α → Option β} {keys : List α} (h : ∀ a ∈ keys, ∃ b, f a = some b) :
    ∃ bs, keys.mapM f = some bs ∧ List.Forall₂ (fun a b => f a = some b) keys bs := by
  induction keys with
  | nil => exact ⟨[], by simp, .nil⟩
  | cons a keys ih =>
    obtain ⟨b, hb⟩ := h a List.mem_cons_self
    obtain ⟨bs, hbs, hall⟩ := ih fun c hc => h c (List.mem_cons_of_mem _ hc)
    exact ⟨b :: bs, by simp [List.mapM_cons, hb, hbs], .cons hb hall⟩

/-- The atom registers the resources it makes as its own, so the run has to clean them. -/
def RegistersCreated (atom : AtomVersion) : Prop :=
  ∃ policy ∈ atom.contract.resourcePolicy, policy.ownership = .created

section Plan

variable (contract atoms)

/-- The execution levels list every node once, at the length of its longest dependency path. -/
def LevelsSound (levels : List (List String)) : Prop :=
  levels.flatten.Perm (contract.nodes.map fun n => n.id) ∧
    ∀ i level, levels[i]? = some level → ∀ id ∈ level, LongestTo (Depends contract atoms) i id

/-- Every node that may own resources is cleaned, and none is cleaned after a node that it depends on. -/
structure CleanupSound (order : List String) : Prop where
  complete : ∀ node ∈ contract.nodes, ∀ atom, atoms node.atomVersionId = some atom → RegistersCreated atom →
    node.id ∈ order
  ordered : order.Pairwise fun a b => a ≠ b ∧ ¬ Relation.TransGen (Depends contract atoms) a b

end Plan

theorem walkTo_of_transGen {α : Type} {E : α → α → Prop} {u v : α} {n : ℕ} (h : Relation.TransGen E u v)
    (hu : WalkTo E n u) : WalkTo E (n + 1) v := by
  induction h with
  | single he => exact .snoc hu he
  | tail _ he ih => exact (WalkTo.snoc ih he).tail

/-- Read backwards, the levels put every node before the nodes it depends on. -/
theorem LevelsSound.reverse_ordered {levels : List (List String)} (h : LevelsSound contract atoms levels) :
    levels.flatten.reverse.Pairwise fun a b => a ≠ b ∧ ¬ Relation.TransGen (Depends contract atoms) a b := by
  have hnodup : levels.flatten.Nodup := h.1.nodup_iff.2 contract.nodeIds
  rw [List.pairwise_reverse]
  refine (List.nodup_iff_pairwise_ne.1 hnodup).imp₂ (fun a b hne hno => ⟨hne.symm, hno⟩) ?_
  rw [List.pairwise_flatten]
  have hlevel : ∀ (i j : ℕ) (la lb : List String), levels[i]? = some la → levels[j]? = some lb → i ≤ j → ∀ a ∈ la, ∀ b ∈ lb,
      ¬ Relation.TransGen (Depends contract atoms) b a := by
    intro i j la lb hi hj hij a ha b hb hpath
    have hwalk := walkTo_of_transGen hpath (h.2 j lb hj b hb).1
    have hle := (h.2 i la hi a ha).2 _ hwalk
    omega
  refine ⟨?_, ?_⟩
  · intro l hl
    obtain ⟨i, hi⟩ := List.mem_iff_getElem?.1 hl
    rw [List.pairwise_iff_getElem]
    intro m n hm hn _
    exact hlevel i i l l hi hi (Nat.le_refl i) _ (List.getElem_mem hm) _ (List.getElem_mem hn)
  · rw [List.pairwise_iff_getElem]
    intro i j hi hj hij a ha b hb
    exact hlevel i j _ _ (List.getElem?_eq_getElem hi) (List.getElem?_eq_getElem hj) (Nat.le_of_lt hij) a ha b hb

theorem LevelsSound.mem_iff {levels : List (List String)} (h : LevelsSound contract atoms levels) {id : String} :
    id ∈ levels.flatten ↔ ∃ node, contract.node id = some node := by
  rw [h.1.mem_iff, List.mem_map]
  constructor
  · rintro ⟨node, hnode, rfl⟩
    exact ⟨node, node_of_mem hnode⟩
  · rintro ⟨node, hnode⟩
    exact ⟨node, (node_eq_some hnode).1, (node_eq_some hnode).2⟩

/-- The levels are found exactly when the graph has no cycle, and they are sound. -/
theorem executionLevels_isSome_iff :
    (executionLevels (dependencies accepts contract atoms)).isSome ↔ Acyclic (Depends contract atoms) := by
  rw [← @waits_dependencies accepts contract atoms]
  exact closed_dependencies.rounds_isSome_iff Dict.sortBy_perm

theorem executionLevels_sound {levels : List (List String)}
    (h : executionLevels (dependencies accepts contract atoms) = some levels) :
    LevelsSound contract atoms levels := by
  have hlevelled := closed_dependencies.levelled Dict.sortBy_perm h
  refine ⟨?_, ?_⟩
  · rw [← @keys_dependencies accepts contract atoms]
    exact hlevelled.perm
  · rw [← @waits_dependencies accepts contract atoms]
    exact hlevelled.level

/-- Every node that the levels list has its atom, when the blueprint is sound. -/
theorem effectOf_total {levels : List (List String)} (hlevels : LevelsSound contract atoms levels)
    (hnodes : ∀ node ∈ contract.nodes, NodeSound accepts contract atoms node) :
    ∀ id ∈ levels.flatten.reverse, ∃ e, effectOf contract atoms id = some e := by
  intro id hid
  obtain ⟨node, hnode⟩ := hlevels.mem_iff.1 (List.mem_reverse.1 hid)
  obtain ⟨atom, hatom, -⟩ := hnodes node (node_eq_some hnode).1
  exact ⟨_, by simp [effectOf, hnode, hatom]; rfl⟩

/-- The cleanup order: the nodes of the levels, backwards, whose atoms create. -/
theorem cleanupOrder_total {levels : List (List String)} (hlevels : LevelsSound contract atoms levels)
    (hnodes : ∀ node ∈ contract.nodes, NodeSound accepts contract atoms node) :
    ∃ order, cleanupOrder contract atoms levels = some order ∧ order.Sublist levels.flatten.reverse ∧
      ∀ node ∈ contract.nodes, ∀ atom, atoms node.atomVersionId = some atom →
        (node.id ∈ order ↔ atom.contract.effect = .create) := by
  obtain ⟨effects, hrun, hall⟩ := mapM_eq_some (effectOf_total hlevels hnodes)
  have hkey : ∀ id e, effectOf contract atoms id = some e → e.1 = id := by
    intro id e he
    simp only [effectOf, Option.bind_eq_bind, Option.bind_eq_some_iff, Option.pure_def, Option.some.injEq] at he
    obtain ⟨node, -, atom, -, rfl⟩ := he
    rfl
  have hkeys : effects.map (fun e => e.1) = levels.flatten.reverse := by
    rw [Table.map_eq_of_forall₂ (g := fun id => id) hkey hall, List.map_id']
  refine ⟨_, by rw [cleanupOrder, hrun]; rfl, hkeys ▸ List.filter_sublist.map _, ?_⟩
  intro node hnode atom hatom
  have heffect : effectOf contract atoms node.id = some (node.id, atom.contract.effect) := by
    simp [effectOf, node_of_mem hnode, hatom]
  simp only [List.mem_map, List.mem_filter, decide_eq_true_eq]
  constructor
  · rintro ⟨e, ⟨he, hcreate⟩, hid⟩
    obtain ⟨id, -, hfrom⟩ := Table.exists_left_of_forall₂ hall he
    obtain rfl : node.id = id := hid.symm.trans (hkey id e hfrom)
    obtain rfl := Option.some.inj (heffect.symm.trans hfrom)
    exact hcreate
  · intro hcreate
    have hmem : node.id ∈ levels.flatten.reverse :=
      List.mem_reverse.2 (hlevels.mem_iff.2 ⟨node, node_of_mem hnode⟩)
    obtain ⟨e, he, hfrom⟩ := Table.exists_right_of_forall₂ hall hmem
    obtain rfl := Option.some.inj (heffect.symm.trans hfrom)
    exact ⟨_, ⟨he, hcreate⟩, rfl⟩

theorem compileNode_total {levels : List (List String)} (hlevels : LevelsSound contract atoms levels)
    (hnodes : ∀ node ∈ contract.nodes, NodeSound accepts contract atoms node) :
    ∀ node ∈ Dict.sortBy (fun n : BlueprintNode => n.id) contract.nodes, ∃ c, compileNode atoms levels node = some c := by
  intro node hnode
  have hmem := mem_sortBy.1 hnode
  obtain ⟨atom, hatom, -⟩ := hnodes node hmem
  have hlevel : (levelOf levels node.id).isSome := by
    obtain ⟨level, hlevel, hid⟩ := List.mem_flatten.1 (hlevels.mem_iff.2 ⟨node, node_of_mem hmem⟩)
    rw [levelOf, List.findIdx?_isSome, List.any_eq_true]
    exact ⟨level, hlevel, by simpa using hid⟩
  obtain ⟨level, hlevel⟩ := Option.isSome_iff_exists.1 hlevel
  exact ⟨_, by simp only [compileNode, hatom, hlevel]; rfl⟩

section Compile

variable (accepts contract atoms) (digest : PlanBody → Digest) (blueprintVersionId : Uuid) (blueprintDigest : Digest)

/-- A sound blueprint compiles, and its plan cleans exactly the atoms that create. -/
theorem compileBlueprint_of_compilable (h : Compilable accepts contract atoms) :
    ∃ result plan, compileBlueprint accepts contract atoms digest blueprintVersionId blueprintDigest = some result ∧
      result.valid = true ∧ result.issues = [] ∧ result.plan = some plan ∧
      LevelsSound contract atoms plan.executionLevels ∧
      (plan.cleanupOrder.Pairwise fun a b => a ≠ b ∧ ¬ Relation.TransGen (Depends contract atoms) a b) ∧
      ∀ node ∈ contract.nodes, ∀ atom, atoms node.atomVersionId = some atom →
        (node.id ∈ plan.cleanupOrder ↔ atom.contract.effect = .create) := by
  obtain ⟨levels, hlevels⟩ := Option.isSome_iff_exists.1
    ((@executionLevels_isSome_iff accepts contract atoms).2 h.acyclic)
  have hsound := executionLevels_sound hlevels
  have hissues : staticIssues accepts contract atoms = [] := staticIssues_eq_nil_iff.2 ⟨h.nodes, h.exports⟩
  obtain ⟨nodes, hnodes, -⟩ := mapM_eq_some (compileNode_total hsound h.nodes)
  obtain ⟨order, horder, hsub, hcreate⟩ := cleanupOrder_total hsound h.nodes
  refine ⟨⟨true, [], some ⟨⟨blueprintVersionId, blueprintDigest, nodes, levels, order, contract.exports⟩, digest
    ⟨blueprintVersionId, blueprintDigest, nodes, levels, order, contract.exports⟩⟩, by simp⟩, _, ?_, rfl, rfl, rfl,
    hsound, hsound.reverse_ordered.sublist hsub, hcreate⟩
  simp only [compileBlueprint, hlevels, hissues, ne_eq, not_true_eq_false, if_false, hnodes, horder]
  rfl

/-- Any other blueprint is refused, and a cycle is reported exactly when there is one. -/
theorem compileBlueprint_of_not_compilable (h : ¬ Compilable accepts contract atoms) :
    ∃ result, compileBlueprint accepts contract atoms digest blueprintVersionId blueprintDigest = some result ∧
      result.valid = false ∧ result.plan = none ∧
      ((∃ issue ∈ result.issues, issue.code = .graphCycleDetected) ↔ ¬ Acyclic (Depends contract atoms)) := by
  have hacyclic := @executionLevels_isSome_iff accepts contract atoms
  cases hlevels : executionLevels (dependencies accepts contract atoms) with
  | none =>
    rw [hlevels] at hacyclic
    refine ⟨_, by rw [compileBlueprint, hlevels], rfl, rfl, ?_⟩
    have hcyclic : ¬ Acyclic (Depends contract atoms) := fun hac => by simpa using hacyclic.2 hac
    exact ⟨fun _ => hcyclic, fun _ => ⟨graphCycle, by simp, rfl⟩⟩
  | some levels =>
    rw [hlevels] at hacyclic
    have hac : Acyclic (Depends contract atoms) := hacyclic.1 rfl
    have hissues : staticIssues accepts contract atoms ≠ [] := fun hnil =>
      h ⟨(staticIssues_eq_nil_iff.1 hnil).1, (staticIssues_eq_nil_iff.1 hnil).2, hac⟩
    refine ⟨⟨false, staticIssues accepts contract atoms, none, by simp⟩, ?_, rfl, rfl, ?_⟩
    · simp only [compileBlueprint, hlevels, ne_eq, hissues, not_false_eq_true, if_true]
    · constructor
      · rintro ⟨issue, hissue, hcode⟩
        exact absurd hcode (staticIssues_code hissue)
      · exact fun hcyclic => absurd hac hcyclic

/-- A plan in which every value flows soundly, in order, and is cleaned up. -/
structure PlanSound (plan : PlanBody) : Prop where
  nodes : ∀ node ∈ contract.nodes, NodeSound accepts contract atoms node
  exports : ∀ item ∈ contract.exports, ExportSound contract atoms item
  levels : LevelsSound contract atoms plan.executionLevels
  cleanup : CleanupSound contract atoms plan.cleanupOrder

/-- The compiler answers, reports exactly the cycles, accepts exactly the sound blueprints, and plans them soundly. -/
def CompilesSoundly : Prop :=
  ∃ result, compileBlueprint accepts contract atoms digest blueprintVersionId blueprintDigest = some result ∧
    ((∃ issue ∈ result.issues, issue.code = .graphCycleDetected) ↔ ¬ Acyclic (Depends contract atoms)) ∧
    (result.valid = true ↔ Compilable accepts contract atoms) ∧
    ∀ plan ∈ result.plan, PlanSound accepts contract atoms plan.toPlanBody

/-- Whatever registers a resource of its own has the effect CREATE. -/
def CreatedByCreate : Prop :=
  ∀ node ∈ contract.nodes, ∀ atom, atoms node.atomVersionId = some atom → RegistersCreated atom →
    atom.contract.effect = .create

/-- The compiler keeps all its promises exactly where ownership and effect say the same. -/
theorem compiles_soundly_iff :
    CompilesSoundly accepts contract atoms digest blueprintVersionId blueprintDigest ↔
      (Compilable accepts contract atoms → CreatedByCreate contract atoms) := by
  by_cases h : Compilable accepts contract atoms
  · obtain ⟨result, plan, hrun, hvalid, hissues, hplan, hlevels, hordered, hcreate⟩ :=
      compileBlueprint_of_compilable accepts contract atoms digest blueprintVersionId blueprintDigest h
    have hcycle : (∃ issue ∈ result.issues, issue.code = .graphCycleDetected) ↔
        ¬ Acyclic (Depends contract atoms) := by simp [hissues, h.acyclic]
    constructor
    · rintro ⟨result', hrun', -, -, hsound⟩ - node hnode atom hatom hregisters
      obtain rfl := Option.some.inj (hrun.symm.trans hrun')
      exact (hcreate node hnode atom hatom).1 ((hsound plan hplan).cleanup.complete node hnode atom hatom hregisters)
    · intro hcreated
      refine ⟨result, hrun, hcycle, by simp [hvalid, h], ?_⟩
      intro plan' hplan'
      obtain rfl := Option.some.inj (hplan.symm.trans hplan')
      exact ⟨h.nodes, h.exports, hlevels, fun node hnode atom hatom hregisters =>
        (hcreate node hnode atom hatom).2 (hcreated h node hnode atom hatom hregisters), hordered⟩
  · obtain ⟨result, hrun, hvalid, hplan, hcycle⟩ :=
      compileBlueprint_of_not_compilable accepts contract atoms digest blueprintVersionId blueprintDigest h
    exact ⟨fun _ hc => absurd hc h, fun _ => ⟨result, hrun, hcycle, by simp [hvalid, h], by simp [hplan]⟩⟩

end Compile

namespace OwnedUpdate

/-- An update that registers the resource as its own, with a cleanup contract. -/
def upsert : AtomVersion where
  id := 7
  contract :=
    { effect := .update
      operation := ⟨"crm.upsert", "1.0.0"⟩
      maxAttempts := 1
      markerInput := none
      resourcePolicy := some ⟨"crm.customer", .created, "ref", [], 3600⟩
      cleanupContract := some ⟨⟨"crm.remove", "1.0.0"⟩, "ref", none⟩
      reconcileContract := none
      attempts := by decide
      shape := by decide }
  contentDigest := 0
  status := .published
  ports := [⟨"ref", .output, "crm.customer-ref", .obj [], true, .internal⟩]
  portKeys := by decide

def blueprint : DataBlueprintContract where
  nodes := [⟨"provision", 7, "seed-actor", [], List.nodup_nil⟩]
  exports := [⟨"customer", "provision", "ref", .internal, by decide⟩]
  nodeCount := by decide
  exportCount := by decide
  nodeIds := by decide
  exportNames := by decide

def catalogue : AtomVersions := fun id => if id = 7 then some upsert else none

theorem compilable : Compilable (fun _ _ => true) blueprint catalogue where
  nodes node hnode := by
    obtain rfl := List.mem_singleton.1 hnode
    exact ⟨upsert, rfl, .inr rfl, by simp, by simp [upsert], by simp [upsert]⟩
  exports item hitem := by
    obtain rfl := List.mem_singleton.1 hitem
    exact ⟨_, rfl, Nat.le_refl _⟩
  acyclic v hcycle := by
    obtain ⟨u, -, node, hnode, -, atom, -, binding, hbinding, -⟩ := Relation.TransGen.tail'_iff.1 hcycle
    obtain rfl := List.mem_singleton.1 hnode
    simp at hbinding

end OwnedUpdate

open OwnedUpdate in
/-- The update is registered as a created resource, and no cleanup is planned for it. -/
theorem owned_update_not_cleaned :
    ¬ CompilesSoundly (fun _ _ => true) blueprint catalogue (fun _ => 0) 1 0 := by
  obtain ⟨result, plan, hrun, -, -, hplan, -, -, hcreate⟩ :=
    compileBlueprint_of_compilable (fun _ _ => true) blueprint catalogue (fun _ => 0) 1 0 compilable
  rintro ⟨result', hrun', -, -, hsound⟩
  obtain rfl := Option.some.inj (hrun.symm.trans hrun')
  have hnode : (⟨"provision", 7, "seed-actor", [], List.nodup_nil⟩ : BlueprintNode) ∈ blueprint.nodes := by
    simp [blueprint]
  have hcleaned := (hsound plan hplan).cleanup.complete _ hnode upsert rfl ⟨_, rfl, rfl⟩
  exact absurd ((hcreate _ hnode upsert rfl).1 hcleaned) (by decide)

end Atlas.Proofs
