import Mathlib
import Wireform.Proofs.Generator.Arguments

/-!
# The layout of a component

The fragments of a component stand in one order, and so do the blocks of its
markup.  Every input gives one state and one field, every process one handler and
one call, every output one display.  Nodes of one kind keep the order that they
have in the diagram, whatever stands between them and however often it repeats.
-/

namespace Wireform

open List (countPBefore)

/-! ## Enumerations -/

/-- Items that the nodes of one kind give.  The item of a node is the one that has
as many items before it as there are nodes of the kind before the node, and no
item is left over. -/
structure Enumerates {α : Type} (kind : NodeKind) (nodes : List Node)
    (item : Nat → Node → α) (items : List α) : Prop where
  length_eq : items.length = nodes.countP (·.kind = kind)
  item_eq : ∀ i node, nodes[i]? = some node → node.kind = kind →
    items[countPBefore (·.kind = kind) nodes i]? =
      some (item (countPBefore (·.kind = kind) nodes i) node)

theorem filter_getElem?_countPBefore {α : Type} {p : α → Bool} {items : List α}
    {i : Nat} {a : α} (hitem : items[i]? = some a) (hkept : p a = true) :
    (items.filter p)[countPBefore p items i]? = some a := by
  induction items generalizing i with
  | nil => simp at hitem
  | cons first rest ih =>
    cases i with
    | zero =>
      obtain rfl : first = a := by simpa using hitem
      simp [hkept]
    | succ i =>
      have hrest := ih (by simpa using hitem)
      by_cases hfirst : p first = true
      · simpa [hfirst] using hrest
      · simpa [hfirst] using hrest

theorem enumerates_mapIdx {α : Type} (kind : NodeKind) (nodes : List Node)
    (item : Nat → Node → α) :
    Enumerates kind nodes item ((nodes.filter (·.kind = kind)).mapIdx item) where
  length_eq := by rw [List.length_mapIdx, List.countP_eq_length_filter]
  item_eq := by
    intro i node hnode hkind
    have hplace := filter_getElem?_countPBefore (p := (·.kind = kind)) hnode (by simpa)
    rw [List.getElem?_mapIdx, hplace, Option.map_some]

theorem enumerates_map {α : Type} (kind : NodeKind) (nodes : List Node)
    (item : Node → α) :
    Enumerates kind nodes (fun _ => item) ((nodes.filter (·.kind = kind)).map item) := by
  have hsame : (nodes.filter (·.kind = kind)).map item =
      (nodes.filter (·.kind = kind)).mapIdx fun _ => item := by
    ext
    simp
  rw [hsame]
  exact enumerates_mapIdx kind nodes _

/-! ## The blocks of the markup -/

/-- The markup without what its nodes give: the texts around the fields, around the
calls and before the displays. -/
structure MarkupFrame where
  opening : String
  triggerOpening : String
  triggerClosing : String
  displaysOpening : String
  closing : String

/-- The texts that the nodes of a diagram give to the markup. -/
structure MarkupBlocks where
  fields : List String
  calls : List String
  displays : List String

namespace MarkupFrame

/-- The button, if there is a call that it can make. -/
def trigger (frame : MarkupFrame) (calls : List String) : String :=
  if calls.isEmpty then ""
  else frame.triggerOpening ++ String.join calls ++ frame.triggerClosing

/-- The displays under their common comment. -/
def displaySection (frame : MarkupFrame) (displays : List String) : String :=
  if displays.isEmpty then "" else frame.displaysOpening ++ String.join displays

/-- The markup with the given blocks. -/
def fill (frame : MarkupFrame) (blocks : MarkupBlocks) : String :=
  frame.opening ++ String.join blocks.fields ++ frame.trigger blocks.calls
    ++ frame.displaySection blocks.displays ++ frame.closing

end MarkupFrame

namespace Markup

/-- The frame of the markup under given settings. -/
def frame (settings : Settings) : MarkupFrame where
  opening := Text.unlines
    ["", "  return (", "    <div className=\"p-6 max-w-md mx-auto bg-white rounded-lg shadow-lg\">"]
  triggerOpening := Text.unlines
    ["      <button",
     r"        onClick={() => {",
     r"          try {"]
  triggerClosing := Text.unlines
    ((if settings.typeScript then ["            onSubmit?.(result);"] else [])
      ++ [r"          } catch (error) {",
          "            console.error('Processing failed:', error);",
          r"          }",
          r"        }}",
          "        className=\"w-full bg-blue-500 text-white py-2 px-4 rounded-md hover:bg-blue-600 transition-colors\"",
          "      >",
          "        Process Data",
          "      </button>"])
  displaysOpening := Text.unlines
    ["      ", "      {/* Output section would go here */}"]
  closing := Text.unlines ["    </div>", "  );"]

/-- The field of an input. -/
def fieldText (settings : Settings) (node : Node) : String :=
  Text.unlines (fieldLines settings node)

/-- The call of the handler of a process. -/
def callText (wiring : Wiring) (place : Nat) (node : Node) : String :=
  Text.unlines (callLines wiring (place = 0) node)

/-- The display of an output. -/
def displayText (node : Node) : String :=
  Text.unlines (displayLines node)

/-- The blocks that groups of nodes give. -/
def blocks (settings : Settings) (wiring : Wiring) (groups : NodeGroups) :
    MarkupBlocks where
  fields := groups.inputs.map (fieldText settings)
  calls := groups.processes.mapIdx (callText wiring)
  displays := groups.outputs.map displayText

theorem join_flatMap {α : Type} (texts : α → List String) (items : List α) :
    String.join (items.flatMap texts) =
      String.join (items.map fun item => String.join (texts item)) := by
  induction items with
  | nil => rfl
  | cons item items ih => simp [ih]

theorem unlines_flatMap {α : Type} (lines : α → List String) (items : List α) :
    Text.unlines (items.flatMap lines) =
      String.join (items.map fun item => Text.unlines (lines item)) := by
  rw [Text.unlines, List.map_flatMap, join_flatMap]
  rfl

theorem unlines_callsLines (wiring : Wiring) (processes : List Node) :
    Text.unlines (callsLines wiring processes) =
      String.join (processes.mapIdx (callText wiring)) := by
  cases processes with
  | nil => rfl
  | cons first rest =>
    have hlater : rest.mapIdx (fun place => callText wiring (place + 1)) =
        rest.map fun node => Text.unlines (callLines wiring false node) := by
      ext
      simp [callText]
    rw [callsLines, Component.unlines_append, unlines_flatMap, List.mapIdx_cons, hlater]
    simp [callText]

theorem unlines_trigger (settings : Settings) (wiring : Wiring)
    (processes : List Node) :
    Text.unlines (if processes.isEmpty then []
        else triggerLines settings wiring processes) =
      (frame settings).trigger (processes.mapIdx (callText wiring)) := by
  cases processes with
  | nil => rfl
  | cons first rest =>
    simp only [triggerLines, MarkupFrame.trigger, frame, List.isEmpty_cons,
      List.mapIdx_cons, Bool.false_eq_true, if_false, Component.unlines_append,
      unlines_callsLines, String.append_assoc]

theorem unlines_displaysLines (settings : Settings) (outputs : List Node) :
    Text.unlines (displaysLines outputs) =
      (frame settings).displaySection (outputs.map displayText) := by
  cases outputs with
  | nil => rfl
  | cons first rest =>
    simp only [displaysLines, MarkupFrame.displaySection, frame, List.isEmpty_cons,
      List.map_cons, Bool.false_eq_true, if_false, Component.unlines_append,
      unlines_flatMap]
    rfl

/-- The markup is its frame with the blocks of its nodes. -/
theorem fragment_eq_fill (settings : Settings) (wiring : Wiring) (groups : NodeGroups) :
    fragment settings wiring groups =
      ⟨.markup, (frame settings).fill (blocks settings wiring groups)⟩ := by
  have hfields : Text.unlines (groups.inputs.flatMap (fieldLines settings)) =
      String.join (groups.inputs.map (fieldText settings)) := unlines_flatMap _ _
  simp only [fragment, lines, Component.unlines_append, hfields, unlines_trigger,
    unlines_displaysLines settings]
  rfl

end Markup

namespace Component

/-! ## The fragments in order -/

/-- The kinds of the fragments of a component. -/
def fragmentKinds (settings : Settings) (nodes : List Node) : List FragmentKind :=
  [FragmentKind.imports]
    ++ (if settings.typeScript then [FragmentKind.propsType] else [])
    ++ [FragmentKind.header]
    ++ (if settings.hooks then
          List.replicate (nodes.countP (·.kind = .input)) FragmentKind.state
            ++ List.replicate (nodes.countP (·.kind = .process)) FragmentKind.handler
        else [])
    ++ [FragmentKind.markup, FragmentKind.bodyEnd, FragmentKind.exports]

section

variable (settings : Settings) (nodes : List Node) (edges : List Edge)

theorem map_kind_assemble :
    (assemble settings.componentName settings nodes edges).map (·.kind) =
      fragmentKinds settings nodes := by
  have hstates : (nodes.filter (·.kind = .input)).map
      (fun node => (Fragment.state node settings).kind) =
        List.replicate (nodes.countP (·.kind = .input)) .state := by
    rw [List.countP_eq_length_filter]
    exact List.map_const' ..
  have hhandlers : (nodes.filter (·.kind = .process)).map
      (fun node => (Fragment.handler node settings).kind) =
        List.replicate (nodes.countP (·.kind = .process)) .handler := by
    rw [List.countP_eq_length_filter]
    exact List.map_const' ..
  cases htyped : settings.typeScript <;> cases hhooks : settings.hooks <;>
    simp [assemble, declarations, fragmentKinds, NodeGroups.ofNodes, htyped, hhooks,
      hstates, hhandlers, Function.comp_def, Fragment.imports, Fragment.propsType,
      Fragment.header, Markup.fragment, Fragment.bodyEnd, Fragment.exports]

/-- The fragments of a component that are not alone of their kind, and its markup. -/
theorem filter_kind_assemble :
    let file := assemble settings.componentName settings nodes edges
    let groups := NodeGroups.ofNodes nodes
    file.filter (·.kind = .state) =
        (if settings.hooks then groups.inputs.map (Fragment.state · settings) else []) ∧
      file.filter (·.kind = .handler) =
        (if settings.hooks then groups.processes.map (Fragment.handler · settings)
        else []) ∧
      file.filter (·.kind = .markup) =
        [Markup.fragment settings (Wiring.ofMode settings.mode groups edges) groups] := by
  intro file groups
  refine ⟨?_, ?_, ?_⟩ <;>
    cases htyped : settings.typeScript <;> cases hhooks : settings.hooks <;>
    simp [file, groups, assemble, declarations, htyped, hhooks, List.filter_map,
      Function.comp_def, Fragment.imports, Fragment.propsType, Fragment.header,
      Fragment.state, Fragment.handler, Markup.fragment, Fragment.bodyEnd,
      Fragment.exports]

theorem assemble_eq_append :
    assemble settings.componentName settings nodes edges =
      beforeMarkup settings nodes
        ++ [Markup.fragment settings
              (Wiring.ofMode settings.mode (NodeGroups.ofNodes nodes) edges)
              (NodeGroups.ofNodes nodes)]
        ++ afterMarkup settings := by
  simp [assemble, beforeMarkup, afterMarkup]

/-- The code of a component around the blocks of its markup. -/
theorem generate_eq_fill (hname : Text.isBlank settings.componentName = false) :
    let groups := NodeGroups.ofNodes nodes
    let wiring := Wiring.ofMode settings.mode groups edges
    generate settings nodes edges =
      .ok (Fragment.render (beforeMarkup settings nodes)
        ++ (Markup.frame settings).fill (Markup.blocks settings wiring groups)
        ++ Fragment.render (afterMarkup settings)) := by
  intro groups wiring
  have hrender (left right : List Fragment) : Fragment.render (left ++ right) =
      Fragment.render left ++ Fragment.render right := by
    simp [Fragment.render]
  have hmarkup : Fragment.render [Markup.fragment settings wiring groups] =
      (Markup.frame settings).fill (Markup.blocks settings wiring groups) := by
    rw [Markup.fragment_eq_fill]
    simp [Fragment.render]
  rw [generate, fragments, Settings.usableName, hname, ← hmarkup, ← hrender, ← hrender,
    ← assemble_eq_append]
  rfl

theorem fragments_eq_ite :
    fragments settings nodes edges =
      if ∀ c ∈ settings.componentName.toList, Unicode.isWhiteSpace c = true then
        .error .missingComponentName
      else .ok (assemble settings.componentName settings nodes edges) := by
  unfold fragments Settings.usableName
  simp only [Text.isBlank, List.all_eq_true]
  split <;> rfl

theorem enumerates_declared {kind : NodeKind} {item item' : Node → Fragment}
    (heq : ∀ node, item' node = item node) (declared : Bool) :
    Enumerates kind (if declared then nodes else []) (fun _ => item')
      (if declared then (nodes.filter (·.kind = kind)).map item else []) := by
  obtain rfl : item' = item := funext heq
  cases declared with
  | true => exact enumerates_map kind nodes item'
  | false => exact enumerates_map kind [] item'

theorem enumerates_fields :
    Enumerates .input nodes (fun _ node => Piece.texts (fieldPieces settings node))
      ((NodeGroups.ofNodes nodes).inputs.map (Markup.fieldText settings)) := by
  simp only [← unlines_fieldLines]
  exact enumerates_map .input nodes (Markup.fieldText settings)

theorem enumerates_calls (wiring : Wiring) :
    Enumerates .process nodes
      (fun place node => Piece.texts
        (callPieces wiring (if place = 0 then "let result" else "result") node))
      ((NodeGroups.ofNodes nodes).processes.mapIdx (Markup.callText wiring)) := by
  have hcall (place : Nat) (node : Node) :
      Piece.texts (callPieces wiring (if place = 0 then "let result" else "result") node) =
        Markup.callText wiring place node := by
    rw [Markup.callText, unlines_callLines]
    simp only [decide_eq_true_eq]
  simp only [hcall]
  exact enumerates_mapIdx .process nodes (Markup.callText wiring)

theorem enumerates_displays :
    Enumerates .output nodes (fun _ node => Piece.texts (displayPieces node))
      ((NodeGroups.ofNodes nodes).outputs.map Markup.displayText) := by
  simp only [← unlines_displayLines]
  exact enumerates_map .output nodes Markup.displayText

theorem trigger_ne_empty_iff (calls : List String) :
    (Markup.frame settings).trigger calls ≠ "" ↔ calls ≠ [] := by
  have hopening : (Markup.frame settings).triggerOpening ≠ "" := by
    rw [Markup.frame, unlines_cons]
    simp
  cases calls with
  | nil => simp [MarkupFrame.trigger]
  | cons call rest => simp [MarkupFrame.trigger, hopening]

end

/-- A component fails on a name without a character besides white space, and on
nothing else.  Otherwise its fragments have one order of kinds; the `i`-th state is
that of the `i`-th input and the `i`-th handler that of the `i`-th process; and in
the markup the fields, the calls and the displays follow each other as the inputs,
the processes and the outputs do.  Each of these texts is told by its pieces, the
names of its node between the template texts of their roles.  The button is there if
there is a process. -/
theorem fragments_laid_out (settings : Settings) (nodes : List Node)
    (edges : List Edge) :
    ∃ (file : List Fragment) (blocks : MarkupBlocks),
      fragments settings nodes edges =
        (if ∀ c ∈ settings.componentName.toList, Unicode.isWhiteSpace c = true then
          .error .missingComponentName
        else .ok file) ∧
      file.map (·.kind) = fragmentKinds settings nodes ∧
      Enumerates .input (if settings.hooks then nodes else [])
        (fun _ node => (markedState settings node).unmarked)
        (file.filter (·.kind = .state)) ∧
      Enumerates .process (if settings.hooks then nodes else [])
        (fun _ node => (markedHandler settings node).unmarked)
        (file.filter (·.kind = .handler)) ∧
      file.filter (·.kind = .markup) =
        [⟨.markup, (Markup.frame settings).fill blocks⟩] ∧
      Enumerates .input nodes (fun _ node => Piece.texts (fieldPieces settings node))
        blocks.fields ∧
      Enumerates .process nodes
        (fun place node => Piece.texts
          (callPieces (Wiring.ofMode settings.mode (NodeGroups.ofNodes nodes) edges)
            (if place = 0 then "let result" else "result") node))
        blocks.calls ∧
      Enumerates .output nodes (fun _ node => Piece.texts (displayPieces node))
        blocks.displays ∧
      ((Markup.frame settings).trigger blocks.calls ≠ "" ↔
        ∃ node ∈ nodes, node.kind = .process) := by
  let groups := NodeGroups.ofNodes nodes
  let wiring := Wiring.ofMode settings.mode groups edges
  obtain ⟨hstates, hhandlers, hmarkup⟩ := filter_kind_assemble settings nodes edges
  refine ⟨assemble settings.componentName settings nodes edges,
    Markup.blocks settings wiring groups, fragments_eq_ite settings nodes edges,
    map_kind_assemble settings nodes edges, ?_, ?_, ?_,
    enumerates_fields settings nodes, enumerates_calls nodes wiring,
    enumerates_displays nodes, ?_⟩
  · rw [hstates]
    exact enumerates_declared nodes (unmarked_markedState settings) settings.hooks
  · rw [hhandlers]
    exact enumerates_declared nodes (unmarked_markedHandler settings) settings.hooks
  · rw [hmarkup, Markup.fragment_eq_fill]
  · rw [trigger_ne_empty_iff]
    simp [Markup.blocks, groups, NodeGroups.ofNodes]

end Component

end Wireform
