import Mathlib
import Wireform.Proofs.Generator.Marking
import Wireform.Proofs.Generator.Wiring

/-!
# Wirings differ in arguments only

The markup of a component is a fixed text with one gap for the argument of
each call.  Mode and edges choose what stands in the gaps; they reach no other
part of the file.
-/

namespace Wireform.Component

/-- A text with gaps: the text before the first gap and the text after each
gap, with what stands in the gaps. -/
def fillGaps (head : String) (tails arguments : List String) : String :=
  head ++ String.join (List.zipWith (· ++ ·) arguments tails)

/-- The text of a call before its argument. -/
def callOpening (target : String) (process : Node) : String :=
  "            " ++ target ++ " = " ++ Naming.symbol process ++ "("

/-- The text of a call after its argument. -/
def callClosing : String :=
  ");\n            console.log('Processed result:', result);\n"

/-- The text after the argument of the first of several calls, and after the
argument of each call that follows it. -/
def callTails (after : String) : List Node → List String
  | [] => [callClosing ++ after]
  | next :: rest =>
    (callClosing ++ callOpening "result" next) :: callTails after rest

/-- The markup before the calls. -/
def beforeCalls (settings : Settings) (groups : NodeGroups) : String :=
  Text.unlines
    (["", "  return (", "    <div className=\"p-6 max-w-md mx-auto bg-white rounded-lg shadow-lg\">"]
      ++ groups.inputs.flatMap (Markup.fieldLines settings)
      ++ ["      <button",
          r"        onClick={() => {",
          r"          try {"])

/-- The markup after the calls. -/
def afterCalls (settings : Settings) (groups : NodeGroups) : String :=
  Text.unlines
    ((if settings.typeScript then ["            onSubmit?.(result);"] else [])
      ++ [r"          } catch (error) {",
          "            console.error('Processing failed:', error);",
          r"          }",
          r"        }}",
          "        className=\"w-full bg-blue-500 text-white py-2 px-4 rounded-md hover:bg-blue-600 transition-colors\"",
          "      >",
          "        Process Data",
          "      </button>"]
      ++ Markup.displaysLines groups.outputs
      ++ ["    </div>", "  );"])

/-- The markup before the first argument; all of it if nothing is called. -/
def markupHead (settings : Settings) (groups : NodeGroups) : String :=
  match groups.processes with
  | [] => (Markup.fragment settings (Wiring.flat groups) groups).text
  | first :: _ => beforeCalls settings groups ++ callOpening "let result" first

/-- The markup after each argument. -/
def markupTails (settings : Settings) (groups : NodeGroups) : List String :=
  match groups.processes with
  | [] => []
  | _ :: rest => callTails (afterCalls settings groups) rest

/-- The arguments of the calls, in order. -/
def arguments (mode : WiringMode) (nodes : List Node) (edges : List Edge) :
    List String :=
  let groups := NodeGroups.ofNodes nodes
  groups.processes.map (Wiring.ofMode mode groups edges).argument

/-- Whether a text ends where the argument of a call begins. -/
def OpensCall (text : String) (process : Node) : Prop :=
  ∃ before, text = before ++ (" = " ++ Naming.symbol process ++ "(")

/-- Whether a text begins where the argument of a call ends. -/
def ClosesCall (text : String) : Prop :=
  ∃ after, text = ");\n" ++ after

/-! ## The text around the arguments -/

theorem fillGaps_nil (head : String) : fillGaps head [] [] = head := by
  simp [fillGaps]

theorem fillGaps_cons (head tail argument : String)
    (tails arguments : List String) :
    fillGaps head (tail :: tails) (argument :: arguments) =
      head ++ argument ++ fillGaps tail tails arguments := by
  simp [fillGaps, String.append_assoc]

theorem unlines_callLines_eq (wiring : Wiring) (isFirst : Bool)
    (process : Node) :
    Text.unlines (Markup.callLines wiring isFirst process) =
      callOpening (if isFirst then "let result" else "result") process
        ++ wiring.argument process ++ callClosing := by
  have hclosing : callClosing =
      ");" ++ ("\n" ++ ("            console.log('Processed result:', result);"
        ++ "\n")) := by simp [callClosing]
  rw [hclosing]
  simp only [Markup.callLines, callOpening, unlines_cons, unlines_nil,
    String.append_assoc, String.append_empty, -String.reduceAppend]

/-- One call after the other, from the argument of the first on. -/
theorem fillGaps_callTails (wiring : Wiring) (after head : String)
    (process : Node) (rest : List Node) :
    fillGaps head (callTails after rest)
        ((process :: rest).map wiring.argument) =
      head ++ wiring.argument process ++ callClosing
        ++ Text.unlines (rest.flatMap (Markup.callLines wiring false))
        ++ after := by
  induction rest generalizing head process with
  | nil =>
    simp [callTails, fillGaps_cons, fillGaps_nil, String.append_assoc]
  | cons next rest ih =>
    rw [callTails, List.map_cons, fillGaps_cons, ih, List.flatMap_cons,
      unlines_append, unlines_callLines_eq]
    simp only [String.append_assoc, Bool.false_eq_true, if_false]

/-- The markup is its fixed text with the arguments in the gaps. -/
theorem markup_text_eq (settings : Settings) (wiring : Wiring)
    (groups : NodeGroups) :
    (Markup.fragment settings wiring groups).text =
      fillGaps (markupHead settings groups) (markupTails settings groups)
        (groups.processes.map wiring.argument) := by
  unfold markupHead markupTails
  cases hprocesses : groups.processes with
  | nil =>
    rw [List.map_nil, fillGaps_nil]
    simp [Markup.fragment, Markup.lines, hprocesses]
  | cons first rest =>
    rw [fillGaps_callTails]
    simp only [Markup.fragment, Markup.lines, Markup.triggerLines,
      Markup.callsLines, hprocesses, beforeCalls, afterCalls, unlines_append,
      unlines_callLines_eq, List.isEmpty_cons, Bool.false_eq_true, if_true,
      if_false, String.append_assoc]

theorem length_callTails (after : String) (rest : List Node) :
    (callTails after rest).length = rest.length + 1 := by
  induction rest with
  | nil => rfl
  | cons next rest ih => rw [callTails, List.length_cons, ih, List.length_cons]

theorem length_markupTails (settings : Settings) (groups : NodeGroups) :
    (markupTails settings groups).length = groups.processes.length := by
  unfold markupTails
  cases groups.processes with
  | nil => rfl
  | cons first rest => exact length_callTails _ rest

theorem opensCall_callOpening (before target : String) (process : Node) :
    OpensCall (before ++ callOpening target process) process :=
  ⟨before ++ ("            " ++ target), by
    simp only [callOpening, String.append_assoc]⟩

theorem closesCall_callClosing (after : String) :
    ClosesCall (callClosing ++ after) := by
  have hclosing : callClosing = ");\n" ++
      "            console.log('Processed result:', result);\n" := by
    simp [callClosing]
  rw [hclosing, String.append_assoc]
  exact ⟨_, rfl⟩

theorem closesCall_of_mem_callTails {after : String} {rest : List Node}
    {tail : String} (htail : tail ∈ callTails after rest) :
    ClosesCall tail := by
  induction rest with
  | nil =>
    obtain rfl := List.mem_singleton.1 htail
    exact closesCall_callClosing after
  | cons next rest ih =>
    rcases List.mem_cons.1 htail with rfl | hlater
    · exact closesCall_callClosing _
    · exact ih hlater

/-- The text before each argument calls the handler of its node. -/
theorem opensCall_callTails (after head : String) (process : Node)
    (rest : List Node) (hhead : OpensCall head process) :
    List.Forall₂ OpensCall (head :: callTails after rest).dropLast
      (process :: rest) := by
  induction rest generalizing head process with
  | nil => exact .cons hhead .nil
  | cons next rest ih =>
    refine .cons hhead (ih _ next ?_)
    exact opensCall_callOpening callClosing "result" next

theorem opensCall_markup (settings : Settings) (groups : NodeGroups) :
    List.Forall₂ OpensCall
      (markupHead settings groups :: markupTails settings groups).dropLast
      groups.processes := by
  unfold markupHead markupTails
  cases groups.processes with
  | nil => exact .nil
  | cons first rest =>
    exact opensCall_callTails _ _ first rest
      (opensCall_callOpening _ "let result" first)

theorem closesCall_markup {settings : Settings} {groups : NodeGroups}
    {tail : String} (htail : tail ∈ markupTails settings groups) :
    ClosesCall tail := by
  unfold markupTails at htail
  cases hprocesses : groups.processes with
  | nil => simp [hprocesses] at htail
  | cons first rest =>
    rw [hprocesses] at htail
    exact closesCall_of_mem_callTails htail

/-! ## Modes -/

theorem arguments_flat (nodes : List Node) (edges : List Edge) :
    arguments .flat nodes edges =
      List.replicate (NodeGroups.ofNodes nodes).processes.length
        (NodeGroups.ofNodes nodes).firstInputName :=
  List.map_const' ..

theorem arguments_connected {nodes : List Node} {edges : List Edge}
    (hnone : ∀ edge ∈ edges, ¬ Wiring.Connects (NodeGroups.ofNodes nodes) edge) :
    arguments .connected nodes edges = arguments .flat nodes [] := by
  simp only [arguments, Wiring.ofMode, Wiring.connected_eq_flat hnone]

/-- The fragments before the markup. -/
def beforeMarkup (settings : Settings) (nodes : List Node) : List Fragment :=
  [Fragment.imports settings]
    ++ (if settings.typeScript then
          [Fragment.propsType settings.componentName] else [])
    ++ [Fragment.header settings.componentName settings]
    ++ declarations settings (NodeGroups.ofNodes nodes)

/-- The fragments after the markup. -/
def afterMarkup (settings : Settings) : List Fragment :=
  [Fragment.bodyEnd, Fragment.exports settings.componentName]

theorem kind_ne_markup {settings : Settings} {nodes : List Node}
    {fragment : Fragment}
    (hfragment : fragment ∈ beforeMarkup settings nodes ++ afterMarkup settings) :
    fragment.kind ≠ .markup := by
  have hdeclarations : ∀ declared ∈ declarations settings
      (NodeGroups.ofNodes nodes), declared.kind ≠ .markup := by
    intro declared hdeclared
    unfold declarations at hdeclared
    split at hdeclared
    · rcases List.mem_append.1 hdeclared with hstate | hhandler
      · obtain ⟨node, -, rfl⟩ := List.mem_map.1 hstate
        exact FragmentKind.noConfusion
      · obtain ⟨node, -, rfl⟩ := List.mem_map.1 hhandler
        exact FragmentKind.noConfusion
    · cases hdeclared
  cases htyped : settings.typeScript <;>
    simp only [beforeMarkup, afterMarkup, htyped, List.mem_append,
      List.mem_cons, List.not_mem_nil, or_false, if_true, if_false,
      Bool.false_eq_true] at hfragment <;>
    grind [Fragment.imports, Fragment.propsType, Fragment.header,
      Fragment.bodyEnd, Fragment.exports]

theorem fragments_eq_fillGaps (settings : Settings) (nodes : List Node)
    (mode : WiringMode) (edges : List Edge) :
    fragments { settings with mode := mode } nodes edges =
      settings.usableName.map fun _ =>
        beforeMarkup settings nodes
          ++ [⟨.markup, fillGaps
                (markupHead settings (NodeGroups.ofNodes nodes))
                (markupTails settings (NodeGroups.ofNodes nodes))
                (arguments mode nodes edges)⟩]
          ++ afterMarkup settings := by
  have hmarkup (wiring : Wiring) (groups : NodeGroups) :
      Markup.fragment { settings with mode := mode } wiring groups =
        ⟨.markup, fillGaps (markupHead settings groups)
          (markupTails settings groups)
          (groups.processes.map wiring.argument)⟩ := by
    rw [← markup_text_eq]
    rfl
  cases hblank : Text.isBlank settings.componentName with
  | true => simp [fragments, Settings.usableName, hblank, Except.map]
  | false =>
    simp only [fragments, Settings.usableName, hblank, Except.map, assemble,
      hmarkup, Bool.false_eq_true, if_false, beforeMarkup, afterMarkup,
      arguments, List.append_assoc, List.cons_append, List.nil_append]
    rfl

/-- Mode and edges reach a component through the arguments of its calls only.
The markup is one text with a gap in each call; all other fragments are the
same for every mode and every edge list.  Flat wiring puts the name of the
first input into every gap, and so does connected wiring when no edge runs
from an input to a process. -/
theorem wirings_differ_in_arguments (settings : Settings) (nodes : List Node) :
    let groups := NodeGroups.ofNodes nodes
    ∃ (before after : List Fragment) (head : String) (tails : List String),
      (∀ fragment ∈ before ++ after, fragment.kind ≠ .markup) ∧
      tails.length = groups.processes.length ∧
      List.Forall₂ OpensCall (head :: tails).dropLast groups.processes ∧
      (∀ tail ∈ tails, ClosesCall tail) ∧
      (∀ mode edges, fragments { settings with mode := mode } nodes edges =
        settings.usableName.map fun _ => before
          ++ [⟨.markup, fillGaps head tails (arguments mode nodes edges)⟩]
          ++ after) ∧
      (∀ edges, arguments .flat nodes edges =
        List.replicate groups.processes.length groups.firstInputName) ∧
      ∀ edges, (∀ edge ∈ edges, ¬ Wiring.Connects groups edge) →
        arguments .connected nodes edges =
          List.replicate groups.processes.length groups.firstInputName ∧
        ∀ edges', generate { settings with mode := .connected } nodes edges =
          generate { settings with mode := .flat } nodes edges' := by
  intro groups
  refine ⟨beforeMarkup settings nodes, afterMarkup settings,
    markupHead settings groups, markupTails settings groups,
    fun fragment => kind_ne_markup, length_markupTails settings groups,
    opensCall_markup settings groups, fun tail => closesCall_markup,
    fragments_eq_fillGaps settings nodes, arguments_flat nodes, ?_⟩
  intro edges hnone
  have harguments := (arguments_connected hnone).trans (arguments_flat nodes [])
  refine ⟨harguments, fun edges' => ?_⟩
  rw [generate, generate, fragments_eq_fillGaps, fragments_eq_fillGaps,
    harguments, arguments_flat]

/-- An edge that ends at an output node, and an edge from no node. -/
theorem wirings_differ_in_arguments_loose :
    let nodes : List Node :=
      [{ id := "1", kind := .input, attributes := { functionName := some "mail" } },
       { id := "2", kind := .process, attributes := {} },
       { id := "3", kind := .output, attributes := {} }]
    let edges : List Edge :=
      [{ id := "a", source := "1", target := "3" },
       { id := "b", source := "7", target := "2" }]
    (∀ edge ∈ edges, ¬ Wiring.Connects (NodeGroups.ofNodes nodes) edge) ∧
      arguments .connected nodes edges = ["mail"] := by
  intro nodes edges
  have hnone : ∀ edge ∈ edges,
      ¬ Wiring.Connects (NodeGroups.ofNodes nodes) edge := by
    simp only [← Wiring.connection_isSome_iff]
    decide
  obtain ⟨-, -, -, -, -, -, -, -, -, -, hloose⟩ :=
    wirings_differ_in_arguments { componentName := "Form" } nodes
  exact ⟨hnone, (hloose edges hnone).1⟩

end Wireform.Component
