import Mathlib
import Wireform.Proofs.Generator.Connections

/-!
# Renaming ids

A component does not show the ids of its diagram.  They are compared with each other,
to see which nodes an edge joins, and that is all they are for.  So ids can be
renamed, as long as different ones stay different: those of nodes of any kind and the
endpoints of edges that lead nowhere.
-/

namespace Wireform

open Function

def Node.renamed (rename : String → String) (node : Node) : Node :=
  { node with id := rename node.id }

def Edge.renamed (rename : String → String) (edge : Edge) : Edge :=
  { edge with source := rename edge.source, target := rename edge.target }

def NodeGroups.renamed (rename : String → String) (groups : NodeGroups) : NodeGroups where
  inputs := groups.inputs.map (Node.renamed rename)
  processes := groups.processes.map (Node.renamed rename)
  outputs := groups.outputs.map (Node.renamed rename)
  datastores := groups.datastores.map (Node.renamed rename)

/-- The ids that nodes have and that edges lead from or to. -/
def occurringIds (nodes : List Node) (edges : List Edge) : Set String :=
  {id | (∃ node ∈ nodes, node.id = id) ∨
    ∃ edge ∈ edges, edge.source = id ∨ edge.target = id}

section

variable (rename : String → String)

theorem ofNodes_renamed (nodes : List Node) :
    NodeGroups.ofNodes (nodes.map (Node.renamed rename)) =
      (NodeGroups.ofNodes nodes).renamed rename := by
  simp only [NodeGroups.ofNodes, NodeGroups.renamed, List.filter_map]
  rfl

theorem firstInputName_renamed (groups : NodeGroups) :
    (groups.renamed rename).firstInputName = groups.firstInputName := by
  rw [NodeGroups.firstInputName, NodeGroups.renamed, List.head?_map, Option.map_map]
  rfl

end

/-! ## What ids are compared for -/

namespace Wiring

variable {rename : String → String} {groups : NodeGroups} {edge : Edge} {id : String}

/-- Nodes have an id after the renaming if they had it before. -/
theorem decide_renamed_id {node : Node}
    (hfaithful : rename node.id = rename id → node.id = id) :
    decide ((node.renamed rename).id = rename id) = decide (node.id = id) := by
  apply decide_eq_decide.2
  constructor
  · exact hfaithful
  · exact congrArg rename

theorem lastWithId_renamed {nodes : List Node}
    (hfaithful : ∀ node ∈ nodes, rename node.id = rename id → node.id = id) :
    lastWithId (nodes.map (Node.renamed rename)) (rename id) =
      (lastWithId nodes id).map (Node.renamed rename) := by
  rw [lastWithId, lastWithId, ← List.map_reverse, List.find?_map]
  congr 1
  apply List.find?_congr
  intro node hnode
  exact decide_renamed_id (hfaithful node (List.mem_reverse.1 hnode))

theorem any_renamed {nodes : List Node}
    (hfaithful : ∀ node ∈ nodes, rename node.id = rename id → node.id = id) :
    (nodes.map (Node.renamed rename)).any (·.id = rename id) = nodes.any (·.id = id) := by
  rw [List.any_map, Bool.eq_iff_iff, List.any_eq_true, List.any_eq_true]
  apply exists_congr
  intro node
  apply and_congr_right
  intro hnode
  rw [comp_apply, decide_renamed_id (hfaithful node hnode)]

/-- An edge brings the same name to the same processes. -/
theorem brings_renamed {ids : Set String} (hrename : Set.InjOn rename ids)
    (hinputs : ∀ node ∈ groups.inputs, node.id ∈ ids)
    (hprocesses : ∀ node ∈ groups.processes, node.id ∈ ids)
    (hsource : edge.source ∈ ids) (htarget : edge.target ∈ ids) (hid : id ∈ ids) :
    brings (groups.renamed rename) (rename id) (edge.renamed rename) =
      brings groups id edge := by
  have hlast : lastWithId (groups.renamed rename).inputs (edge.renamed rename).source =
      (lastWithId groups.inputs edge.source).map (Node.renamed rename) := by
    apply lastWithId_renamed
    intro node hnode
    exact hrename (hinputs node hnode) hsource
  have hany : (groups.renamed rename).processes.any (·.id = (edge.renamed rename).target) =
      groups.processes.any (·.id = edge.target) := by
    apply any_renamed
    intro node hnode
    exact hrename (hprocesses node hnode) htarget
  have hconnection :
      (connection (groups.renamed rename) (edge.renamed rename)).map (·.2) =
        (connection groups edge).map (·.2) := by
    unfold connection
    rw [hlast]
    cases lastWithId groups.inputs edge.source with
    | none => rfl
    | some input =>
      simp only [Option.map_some, hany]
      split
      · rfl
      · rfl
  have hinto : (edge.renamed rename).target = rename id ↔ edge.target = id :=
    hrename.eq_iff htarget hid
  rw [brings, brings, hconnection]
  simp only [hinto]

end Wiring

/-- Every process is called with the argument that it was called with before. -/
theorem argument_renamed {rename : String → String} {nodes : List Node}
    {edges : List Edge} (hrename : Set.InjOn rename (occurringIds nodes edges))
    (mode : WiringMode) {process : Node}
    (hprocess : process ∈ (NodeGroups.ofNodes nodes).processes) :
    let groups := NodeGroups.ofNodes nodes
    (Wiring.ofMode mode (groups.renamed rename) (edges.map (Edge.renamed rename))).argument
        (process.renamed rename) =
      (Wiring.ofMode mode groups edges).argument process := by
  intro groups
  have hoccurs {node : Node} (hnode : node ∈ nodes) : node.id ∈ occurringIds nodes edges :=
    .inl ⟨node, hnode, rfl⟩
  cases mode with
  | flat => exact firstInputName_renamed rename groups
  | connected =>
    have hbrings : ∀ edge ∈ edges,
        Wiring.brings (groups.renamed rename) (rename process.id) (edge.renamed rename) =
          Wiring.brings groups process.id edge := by
      intro edge hedge
      apply Wiring.brings_renamed hrename
      · intro node hnode
        exact hoccurs (Wiring.mem_inputs.1 hnode).1
      · intro node hnode
        exact hoccurs (Wiring.mem_processes.1 hnode).1
      · exact .inr ⟨edge, hedge, .inl rfl⟩
      · exact .inr ⟨edge, hedge, .inr rfl⟩
      · exact hoccurs (Wiring.mem_processes.1 hprocess).1
    have hfound : (edges.map (Edge.renamed rename)).findSome?
        (Wiring.brings (groups.renamed rename) (rename process.id)) =
          edges.findSome? (Wiring.brings groups process.id) := by
      rw [← List.head?_filterMap, ← List.head?_filterMap, List.filterMap_map]
      exact congrArg List.head? (List.filterMap_congr hbrings)
    rw [Wiring.ofMode, Wiring.ofMode, Wiring.argument_connected,
      Wiring.argument_connected, firstInputName_renamed]
    exact congrArg (Option.getD · groups.firstInputName) hfound

namespace Component

/-! ## What shows no id -/

section

variable (rename : String → String) (settings : Settings)

theorem callTails_renamed (after : String) (rest : List Node) :
    callTails after (rest.map (Node.renamed rename)) = callTails after rest := by
  induction rest with
  | nil => rfl
  | cons next rest ih =>
    rw [List.map_cons, callTails, ih]
    rfl

theorem displaysLines_renamed (outputs : List Node) :
    Markup.displaysLines (outputs.map (Node.renamed rename)) =
      Markup.displaysLines outputs := by
  simp only [Markup.displaysLines, List.isEmpty_map, List.flatMap_map]
  rfl

theorem beforeMarkup_renamed (nodes : List Node) :
    beforeMarkup settings (nodes.map (Node.renamed rename)) =
      beforeMarkup settings nodes := by
  simp only [beforeMarkup, declarations, ofNodes_renamed, NodeGroups.renamed, List.map_map]
  rfl

theorem markupHead_renamed (groups : NodeGroups) :
    markupHead settings (groups.renamed rename) = markupHead settings groups := by
  obtain ⟨inputs, processes, outputs, datastores⟩ := groups
  cases processes with
  | nil =>
    simp only [markupHead, NodeGroups.renamed, List.map_nil, Markup.fragment, Markup.lines,
      displaysLines_renamed, List.flatMap_map]
    rfl
  | cons first rest =>
    simp only [markupHead, NodeGroups.renamed, List.map_cons, beforeCalls, List.flatMap_map]
    rfl

theorem markupTails_renamed (groups : NodeGroups) :
    markupTails settings (groups.renamed rename) = markupTails settings groups := by
  obtain ⟨inputs, processes, outputs, datastores⟩ := groups
  cases processes with
  | nil => rfl
  | cons first rest =>
    simp only [markupTails, NodeGroups.renamed, List.map_cons, afterCalls,
      displaysLines_renamed, callTails_renamed]

end

theorem arguments_renamed {rename : String → String} {nodes : List Node}
    {edges : List Edge} (hrename : Set.InjOn rename (occurringIds nodes edges))
    (mode : WiringMode) :
    arguments mode (nodes.map (Node.renamed rename)) (edges.map (Edge.renamed rename)) =
      arguments mode nodes edges := by
  rw [arguments, ofNodes_renamed, NodeGroups.renamed, List.map_map]
  apply List.map_congr_left
  intro process hprocess
  exact argument_renamed hrename mode hprocess

/-- A diagram whose ids are renamed, different ones differently, has the same fragments
and the same code, in either mode. -/
theorem ids_matter_up_to_renaming {rename : String → String} {nodes : List Node}
    {edges : List Edge} (hrename : Set.InjOn rename (occurringIds nodes edges))
    (settings : Settings) :
    let nodes' := nodes.map (Node.renamed rename)
    let edges' := edges.map (Edge.renamed rename)
    fragments settings nodes' edges' = fragments settings nodes edges ∧
      generate settings nodes' edges' = generate settings nodes edges := by
  intro nodes' edges'
  have hfill (nodes : List Node) (edges : List Edge) :
      fragments settings nodes edges = settings.usableName.map fun _ =>
        beforeMarkup settings nodes
          ++ [⟨.markup, fillGaps
                (markupHead settings (NodeGroups.ofNodes nodes))
                (markupTails settings (NodeGroups.ofNodes nodes))
                (arguments settings.mode nodes edges)⟩]
          ++ afterMarkup settings :=
    fragments_eq_fillGaps settings nodes settings.mode edges
  have hfragments : fragments settings nodes' edges' = fragments settings nodes edges := by
    rw [hfill nodes, hfill nodes', beforeMarkup_renamed, ofNodes_renamed,
      markupHead_renamed, markupTails_renamed, arguments_renamed hrename]
  refine ⟨hfragments, ?_⟩
  rw [generate, generate, hfragments]

/-- An id that two nodes share, an edge from nowhere, and a renaming that would confuse
ids that do not occur. -/
theorem ids_matter_up_to_renaming_shared :
    let rename : String → String := fun id =>
      if id = "1" then "7" else if id = "2" then "1" else if id = "7" then "a" else ""
    let settings : Settings := { componentName := "Form", mode := .connected }
    let nodes : List Node :=
      [{ id := "3", kind := .input, attributes := { functionName := some "name" } },
       { id := "1", kind := .input, attributes := { functionName := some "mail" } },
       { id := "1", kind := .process, attributes := {} },
       { id := "2", kind := .process, attributes := { functionName := some "send" } }]
    let edges : List Edge :=
      [{ id := "a", source := "7", target := "2" },
       { id := "b", source := "1", target := "2" }]
    Set.InjOn rename (occurringIds nodes edges) ∧
      generate settings (nodes.map (Node.renamed rename)) (edges.map (Edge.renamed rename)) =
        generate settings nodes edges := by
  intro rename settings nodes edges
  have hrename : Set.InjOn rename (occurringIds nodes edges) := by
    have hoccurs : ∀ id ∈ occurringIds nodes edges, id ∈ ["1", "2", "3", "7"] := by
      rintro id (⟨node, hnode, rfl⟩ | ⟨edge, hedge, rfl | rfl⟩)
      · revert node
        decide
      · revert edge
        decide
      · revert edge
        decide
    have hdistinct : ∀ left ∈ ["1", "2", "3", "7"], ∀ right ∈ ["1", "2", "3", "7"],
        rename left = rename right → left = right := by
      decide
    intro left hleft right hright
    exact hdistinct left (hoccurs left hleft) right (hoccurs right hright)
  exact ⟨hrename, (ids_matter_up_to_renaming hrename settings).2⟩

end Component

end Wireform
