import Mathlib
import Wireform.Generator.Component

/-!
# What a component depends on

Of each node a component shows a few facts only: of an input its name, its label
and the type of its field, of a process its name, its description and whether it
takes mail addresses, of an output its label and its caption.  Where edges are
followed, the ids of inputs and processes and the endpoints of edges count as
well.  Diagrams that agree on this have the same component.
-/

namespace Wireform

open Function

/-! ## Facts -/

/-- The types that fields tell apart. -/
inductive FieldType where
  | email
  | number
  | other
deriving DecidableEq, Repr

/-- The field type of a value type. -/
def ValueType.fieldType : ValueType → FieldType
  | email => .email
  | number => .number
  | _ => .other

/-- What a component shows of an input.  A missing label counts as an empty one. -/
structure InputFacts where
  name : String
  label : String
  fieldType : FieldType
deriving DecidableEq, Repr

/-- What a component shows of a process. -/
structure ProcessFacts where
  name : String
  takesEmail : Bool
  description : String
deriving DecidableEq, Repr

/-- What a component shows of an output. -/
structure OutputFacts where
  label : String
  componentName : String
deriving DecidableEq, Repr

namespace Node

def inputFacts (node : Node) : InputFacts where
  name := Naming.symbol node
  label := node.attributes.label.getD ""
  fieldType := node.attributes.effectiveType.fieldType

def processFacts (node : Node) : ProcessFacts where
  name := Naming.symbol node
  takesEmail := node.attributes.effectiveType = .email
  description := node.attributes.description.getD ""

def outputFacts (node : Node) : OutputFacts where
  label := node.attributes.label.getD ""
  componentName := node.attributes.componentName.getD ""

end Node

/-- The ids that an edge leads from and to. -/
def Edge.endpoints (edge : Edge) : String × String := (edge.source, edge.target)

/-- Two diagrams that agree on all that a component shows under a mode. -/
structure Alike (mode : WiringMode) (nodes nodes' : List Node)
    (edges edges' : List Edge) : Prop where
  inputs : (NodeGroups.ofNodes nodes).inputs.map Node.inputFacts =
    (NodeGroups.ofNodes nodes').inputs.map Node.inputFacts
  processes : (NodeGroups.ofNodes nodes).processes.map Node.processFacts =
    (NodeGroups.ofNodes nodes').processes.map Node.processFacts
  outputs : (NodeGroups.ofNodes nodes).outputs.map Node.outputFacts =
    (NodeGroups.ofNodes nodes').outputs.map Node.outputFacts
  inputIds : mode = .connected →
    (NodeGroups.ofNodes nodes).inputs.map (·.id) =
      (NodeGroups.ofNodes nodes').inputs.map (·.id)
  processIds : mode = .connected →
    (NodeGroups.ofNodes nodes).processes.map (·.id) =
      (NodeGroups.ofNodes nodes').processes.map (·.id)
  endpoints : mode = .connected →
    edges.map Edge.endpoints = edges'.map Edge.endpoints

/-! ## Lists that agree on a fact -/

section Lists

variable {α β γ : Type} {f : α → β} {g : α → γ} {left right : List α}

theorem map_eq_map_of_factorsThrough (hfactors : g.FactorsThrough f)
    (hsame : left.map f = right.map f) : left.map g = right.map g := by
  induction left generalizing right with
  | nil =>
    rw [List.map_nil, eq_comm, List.map_eq_nil_iff] at hsame
    rw [hsame]
  | cons first rest ih =>
    cases right with
    | nil => cases hsame
    | cons first' rest' =>
      rw [List.map_cons, List.map_cons, List.cons.injEq] at hsame
      rw [List.map_cons, List.map_cons, hfactors hsame.1, ih hsame.2]

theorem map_pair_eq_map_pair (hleft : left.map f = right.map f)
    (hright : left.map g = right.map g) :
    (left.map fun a => (f a, g a)) = right.map fun a => (f a, g a) := by
  rw [← List.zip_map', ← List.zip_map', hleft, hright]

theorem flatMap_eq_flatMap_of_factorsThrough {h : α → List γ}
    (hfactors : h.FactorsThrough f) (hsame : left.map f = right.map f) :
    left.flatMap h = right.flatMap h := by
  rw [List.flatMap_def, List.flatMap_def, map_eq_map_of_factorsThrough hfactors hsame]

theorem isEmpty_eq_of_map_eq (hsame : left.map f = right.map f) :
    left.isEmpty = right.isEmpty := by
  rw [← List.isEmpty_map (f := f), hsame, List.isEmpty_map]

end Lists

/-! ## What reads a node -/

theorem nonEmpty_factorsThrough :
    Text.nonEmpty.FactorsThrough fun value : Option String => value.getD "" := by
  have hgetD (value : Option String) :
      Text.nonEmpty value = Text.nonEmpty (some (value.getD "")) := by
    cases value <;> rfl
  intro value value' hsame
  rw [hgetD value, hgetD value']
  exact congrArg (fun text => Text.nonEmpty (some text)) hsame

theorem inputType_eq (type : ValueType) :
    Markup.inputType type =
      match type.fieldType with
      | .email => "email"
      | .number => "number"
      | .other => "text" := by
  cases type <;> rfl

theorem symbol_factorsThrough_inputFacts :
    Naming.symbol.FactorsThrough Node.inputFacts := by
  intro node node' hsame
  exact congrArg InputFacts.name hsame

theorem symbol_factorsThrough_processFacts :
    Naming.symbol.FactorsThrough Node.processFacts := by
  intro node node' hsame
  exact congrArg ProcessFacts.name hsame

theorem state_factorsThrough (settings : Settings) :
    (Fragment.state · settings).FactorsThrough Node.inputFacts := by
  intro node node' hsame
  simp only [Fragment.state, symbol_factorsThrough_inputFacts hsame]

theorem fieldLines_factorsThrough (settings : Settings) :
    (Markup.fieldLines settings).FactorsThrough Node.inputFacts := by
  intro node node' hsame
  have hlabel : Markup.label node = Markup.label node' :=
    nonEmpty_factorsThrough (congrArg InputFacts.label hsame)
  have htype : node.attributes.effectiveType.fieldType =
      node'.attributes.effectiveType.fieldType := congrArg InputFacts.fieldType hsame
  simp only [Markup.fieldLines, Markup.bindingLines, Markup.placeholder, inputType_eq,
    symbol_factorsThrough_inputFacts hsame, hlabel, htype]

theorem handler_factorsThrough (settings : Settings) :
    (Fragment.handler · settings).FactorsThrough Node.processFacts := by
  intro node node' hsame
  have hdescription : Text.nonEmpty node.attributes.description =
      Text.nonEmpty node'.attributes.description :=
    nonEmpty_factorsThrough (congrArg ProcessFacts.description hsame)
  have htype : node.attributes.effectiveType = .email ↔
      node'.attributes.effectiveType = .email :=
    decide_eq_decide.1 (congrArg ProcessFacts.takesEmail hsame)
  simp only [Fragment.handler, Fragment.handlerComment, Fragment.handlerBody,
    symbol_factorsThrough_processFacts hsame, hdescription, htype]

theorem displayLines_factorsThrough :
    Markup.displayLines.FactorsThrough Node.outputFacts := by
  intro node node' hsame
  have hlabel : Markup.label node = Markup.label node' :=
    nonEmpty_factorsThrough (congrArg OutputFacts.label hsame)
  have hname : Text.nonEmpty node.attributes.componentName =
      Text.nonEmpty node'.attributes.componentName :=
    nonEmpty_factorsThrough (congrArg OutputFacts.componentName hsame)
  simp only [Markup.displayLines, Naming.display, hlabel, hname]

/-- The calls read the name of a process and the argument that it is given. -/
theorem callsLines_eq (wiring : Wiring) {left right : List Node}
    (hsame : (left.map fun node => (Naming.symbol node, wiring.argument node)) =
      right.map fun node => (Naming.symbol node, wiring.argument node)) :
    Markup.callsLines wiring left = Markup.callsLines wiring right := by
  have hcall (isFirst : Bool) :
      (Markup.callLines wiring isFirst).FactorsThrough
        fun node => (Naming.symbol node, wiring.argument node) := by
    intro node node' heq
    rw [Prod.mk.injEq] at heq
    simp only [Markup.callLines, heq.1, heq.2]
  cases left with
  | nil =>
    cases right with
    | nil => rfl
    | cons first rest => cases hsame
  | cons first rest =>
    cases right with
    | nil => cases hsame
    | cons first' rest' =>
      -- The first call declares the result and is not like the others.
      rw [List.map_cons, List.map_cons, List.cons.injEq] at hsame
      rw [Markup.callsLines, Markup.callsLines, hcall true hsame.1,
        flatMap_eq_flatMap_of_factorsThrough (hcall false) hsame.2]

/-! ## What reads an edge -/

/-- The connection from one id to another, where inputs have the given ids and names
and processes the given ids. -/
def joined (inputs : List (String × String)) (processes : List String)
    (source target : String) : Option (String × String) :=
  match inputs.reverse.find? (·.1 = source) with
  | some input =>
    if processes.any (· = target) then some (target, input.2) else none
  | none => none

theorem connection_eq_joined (groups : NodeGroups) (edge : Edge) :
    Wiring.connection groups edge =
      joined (groups.inputs.map fun node => (node.id, Naming.symbol node))
        (groups.processes.map (·.id)) edge.source edge.target := by
  have hlast : (groups.inputs.map fun node =>
      (node.id, Naming.symbol node)).reverse.find? (·.1 = edge.source) =
        (Wiring.lastWithId groups.inputs edge.source).map fun node =>
          (node.id, Naming.symbol node) := by
    rw [← List.map_reverse, List.find?_map]
    rfl
  rw [joined, Wiring.connection, hlast, List.any_map]
  cases Wiring.lastWithId groups.inputs edge.source with
  | none => rfl
  | some input => rfl

theorem connections_eq {groups groups' : NodeGroups} {edges edges' : List Edge}
    (hinputs : (groups.inputs.map fun node => (node.id, Naming.symbol node)) =
      groups'.inputs.map fun node => (node.id, Naming.symbol node))
    (hprocesses : groups.processes.map (·.id) = groups'.processes.map (·.id))
    (hendpoints : edges.map Edge.endpoints = edges'.map Edge.endpoints) :
    edges.filterMap (Wiring.connection groups) =
      edges'.filterMap (Wiring.connection groups') := by
  have hjoined (groups : NodeGroups) (edges : List Edge) :
      edges.filterMap (Wiring.connection groups) =
        (edges.map Edge.endpoints).filterMap fun endpoints =>
          joined (groups.inputs.map fun node => (node.id, Naming.symbol node))
            (groups.processes.map (·.id)) endpoints.1 endpoints.2 := by
    rw [List.filterMap_map]
    congr 1
    funext edge
    exact connection_eq_joined groups edge
  rw [hjoined groups, hjoined groups', hinputs, hprocesses, hendpoints]

/-! ## Diagrams that are alike -/

namespace Alike

variable {mode : WiringMode} {nodes nodes' : List Node} {edges edges' : List Edge}

theorem names (halike : Alike mode nodes nodes' edges edges') :
    (NodeGroups.ofNodes nodes).inputs.map Naming.symbol =
      (NodeGroups.ofNodes nodes').inputs.map Naming.symbol :=
  map_eq_map_of_factorsThrough symbol_factorsThrough_inputFacts halike.inputs

theorem firstInputName (halike : Alike mode nodes nodes' edges edges') :
    (NodeGroups.ofNodes nodes).firstInputName =
      (NodeGroups.ofNodes nodes').firstInputName := by
  rw [NodeGroups.firstInputName, NodeGroups.firstInputName, ← List.head?_map,
    ← List.head?_map, halike.names]

theorem wiring (halike : Alike mode nodes nodes' edges edges') :
    Wiring.ofMode mode (NodeGroups.ofNodes nodes) edges =
      Wiring.ofMode mode (NodeGroups.ofNodes nodes') edges' := by
  cases mode with
  | flat =>
    rw [Wiring.ofMode, Wiring.ofMode, Wiring.flat, Wiring.flat, halike.firstInputName]
  | connected =>
    have hinputs := map_pair_eq_map_pair (halike.inputIds rfl) halike.names
    rw [Wiring.ofMode, Wiring.ofMode, Wiring.connected, Wiring.connected,
      connections_eq hinputs (halike.processIds rfl) (halike.endpoints rfl),
      halike.firstInputName]

/-- The names of processes and the arguments that they are called with. -/
theorem calls (halike : Alike mode nodes nodes' edges edges') :
    let wiring := Wiring.ofMode mode (NodeGroups.ofNodes nodes) edges
    ((NodeGroups.ofNodes nodes).processes.map fun node =>
        (Naming.symbol node, wiring.argument node)) =
      (NodeGroups.ofNodes nodes').processes.map fun node =>
        (Naming.symbol node, wiring.argument node) := by
  intro wiring
  have hnames : (NodeGroups.ofNodes nodes).processes.map Naming.symbol =
      (NodeGroups.ofNodes nodes').processes.map Naming.symbol :=
    map_eq_map_of_factorsThrough symbol_factorsThrough_processFacts halike.processes
  apply map_pair_eq_map_pair hnames
  cases mode with
  | flat =>
    apply map_eq_map_of_factorsThrough _ hnames
    intro node node' _
    rfl
  | connected =>
    apply map_eq_map_of_factorsThrough _ (halike.processIds rfl)
    intro node node' hid
    simp only [Wiring.argument, hid]

theorem declarations {settings : Settings}
    (halike : Alike mode nodes nodes' edges edges') :
    Component.declarations settings (NodeGroups.ofNodes nodes) =
      Component.declarations settings (NodeGroups.ofNodes nodes') := by
  rw [Component.declarations, Component.declarations,
    map_eq_map_of_factorsThrough (state_factorsThrough settings) halike.inputs,
    map_eq_map_of_factorsThrough (handler_factorsThrough settings) halike.processes]

theorem markup {settings : Settings} (halike : Alike mode nodes nodes' edges edges') :
    Markup.fragment settings (Wiring.ofMode mode (NodeGroups.ofNodes nodes) edges)
        (NodeGroups.ofNodes nodes) =
      Markup.fragment settings (Wiring.ofMode mode (NodeGroups.ofNodes nodes') edges')
        (NodeGroups.ofNodes nodes') := by
  rw [← halike.wiring]
  simp only [Markup.fragment, Markup.lines, Markup.triggerLines, Markup.displaysLines,
    flatMap_eq_flatMap_of_factorsThrough (fieldLines_factorsThrough settings)
      halike.inputs,
    isEmpty_eq_of_map_eq halike.processes, callsLines_eq _ halike.calls,
    isEmpty_eq_of_map_eq halike.outputs,
    flatMap_eq_flatMap_of_factorsThrough displayLines_factorsThrough halike.outputs]

end Alike

/-! ## Bare diagrams -/

namespace Node

def bareInput (node : Node) : Node where
  id := node.id
  kind := .input
  attributes :=
    { label := node.attributes.label
      valueType := node.attributes.valueType
      functionName := node.attributes.functionName }

def bareProcess (node : Node) : Node where
  id := node.id
  kind := .process
  attributes :=
    { valueType := node.attributes.valueType
      functionName := node.attributes.functionName
      description := node.attributes.description }

def bareOutput (node : Node) : Node where
  id := ""
  kind := .output
  attributes :=
    { label := node.attributes.label
      componentName := node.attributes.componentName }

end Node

/-- The inputs, processes and outputs of a diagram, one kind after the other, with
nothing but what a component may depend on. -/
def bareNodes (nodes : List Node) : List Node :=
  (NodeGroups.ofNodes nodes).inputs.map Node.bareInput
    ++ (NodeGroups.ofNodes nodes).processes.map Node.bareProcess
    ++ (NodeGroups.ofNodes nodes).outputs.map Node.bareOutput

/-- An edge with nothing but its endpoints. -/
def Edge.bare (edge : Edge) : Edge where
  id := ""
  source := edge.source
  target := edge.target

theorem groups_bareNodes (nodes : List Node) :
    (NodeGroups.ofNodes (bareNodes nodes)).inputs =
        (NodeGroups.ofNodes nodes).inputs.map Node.bareInput ∧
      (NodeGroups.ofNodes (bareNodes nodes)).processes =
        (NodeGroups.ofNodes nodes).processes.map Node.bareProcess ∧
      (NodeGroups.ofNodes (bareNodes nodes)).outputs =
        (NodeGroups.ofNodes nodes).outputs.map Node.bareOutput := by
  refine ⟨?_, ?_, ?_⟩ <;>
    simp [bareNodes, NodeGroups.ofNodes, List.filter_map, comp_def, Node.bareInput,
      Node.bareProcess, Node.bareOutput]

theorem symbol_of_process {node : Node} (hkind : node.kind = .process) :
    Naming.symbol node =
      (Text.nonEmpty node.attributes.functionName).getD Naming.defaultProcess := by
  unfold Naming.symbol
  cases Text.nonEmpty node.attributes.functionName <;> simp [hkind]

/-- A diagram is like the bare diagram that it contains, under either mode. -/
theorem alike_bare (mode : WiringMode) (nodes : List Node) (edges : List Edge) :
    Alike mode nodes (bareNodes nodes) edges (edges.map Edge.bare) := by
  obtain ⟨hinputs, hprocesses, houtputs⟩ := groups_bareNodes nodes
  constructor
  · rw [hinputs, List.map_map]
    apply List.map_congr_left
    intro node hnode
    have hkind : node.kind = .input := by
      simpa using (List.mem_filter.1 hnode).2
    simp [Node.inputFacts, Node.bareInput, Naming.symbol, Naming.labelName,
      Attributes.effectiveType, hkind]
  · rw [hprocesses, List.map_map]
    apply List.map_congr_left
    intro node hnode
    have hkind : node.kind = .process := by
      simpa using (List.mem_filter.1 hnode).2
    have hname : Naming.symbol node.bareProcess = Naming.symbol node := by
      rw [symbol_of_process hkind, symbol_of_process rfl]
      rfl
    rw [comp_apply, Node.processFacts, Node.processFacts, hname]
    rfl
  · rw [houtputs, List.map_map]
    rfl
  · intro _
    rw [hinputs, List.map_map]
    rfl
  · intro _
    rw [hprocesses, List.map_map]
    rfl
  · intro _
    rw [List.map_map]
    rfl

namespace Component

variable {settings : Settings} {nodes nodes' : List Node} {edges edges' : List Edge}

theorem fragments_eq_of_alike
    (halike : Alike settings.mode nodes nodes' edges edges') :
    fragments settings nodes edges = fragments settings nodes' edges' := by
  have hassemble (name : String) :
      assemble name settings nodes edges = assemble name settings nodes' edges' := by
    simp only [assemble, halike.declarations, halike.markup]
  simp only [fragments, hassemble]

/-- Diagrams that agree on the facts have the same fragments and the same code.  In
particular a component depends on the bare diagram only. -/
theorem generate_depends_on_facts
    (halike : Alike settings.mode nodes nodes' edges edges') :
    fragments settings nodes edges = fragments settings nodes' edges' ∧
      generate settings nodes edges = generate settings nodes' edges' ∧
      generate settings nodes edges =
        generate settings (bareNodes nodes) (edges.map Edge.bare) := by
  have hbare := alike_bare settings.mode nodes edges
  refine ⟨fragments_eq_of_alike halike, ?_, ?_⟩
  · rw [generate, generate, fragments_eq_of_alike halike]
  · rw [generate, generate, fragments_eq_of_alike hbare]

/-- A name from a label and the same name as a function name, a missing label and an
empty one, types that no field tells apart, and a handle of an edge. -/
theorem generate_depends_on_facts_renamed :
    let settings : Settings := { componentName := "Form", mode := .connected }
    let nodes : List Node :=
      [{ id := "1", kind := .input
         attributes := { label := some "E Mail", valueType := some .boolean } },
       { id := "2", kind := .process, attributes := { label := some "Send" } },
       { id := "3", kind := .output, attributes := {} }]
    let nodes' : List Node :=
      [{ id := "9", kind := .datastore },
       { id := "2", kind := .process, attributes := { description := some "" } },
       { id := "8", kind := .output, attributes := { label := some "" } },
       { id := "1", kind := .input
         attributes := { label := some "E Mail", functionName := some "email" } }]
    let edges : List Edge := [{ id := "a", source := "1", target := "2" }]
    let edges' : List Edge :=
      [{ id := "b", source := "1", target := "2", sourceHandle := some "right" }]
    Alike settings.mode nodes nodes' edges edges' ∧
      generate settings nodes edges = generate settings nodes' edges' := by
  intro settings nodes nodes' edges edges'
  have halike : Alike settings.mode nodes nodes' edges edges' := by
    constructor <;> decide +kernel
  exact ⟨halike, (generate_depends_on_facts halike).2.1⟩

end Component

end Wireform
