import Mathlib
import Wireform.Generator.Component

/-!
# Marked components

A generated file with its parts marked: the user text in it and the names that
it declares and uses.  A mark carries the template text on both sides of its
part, so that a part cannot be marked in a place where the file does not have
it.  Without the marks the file is the one that is generated.
-/

namespace Wireform.Component

/-! ## Marks -/

/-- The places that user text lands in. -/
inductive Slot where
  /-- The line between the tags of a field's label. -/
  | fieldLabel
  /-- The placeholder of a field, after its first word. -/
  | placeholder
  /-- The comment line of a handler. -/
  | handlerComment
  /-- The caption of an output, as a comment. -/
  | caption
  /-- The heading of an output. -/
  | heading
deriving DecidableEq, Repr

/-- What a part of a generated file is. -/
inductive Role where
  | userText (slot : Slot)
  /-- The variable and the setter that a state declaration binds. -/
  | stateName
  | stateSetter
  /-- The name that a handler declaration binds. -/
  | handlerName
  /-- The callback that the header binds. -/
  | callbackBinder
  /-- The value and the setter that a field is bound to. -/
  | fieldValue
  | fieldSetter
  /-- What a handler's result is assigned to, with its declaration if the
  call declares it. -/
  | callTarget
  | callee
  | argument
  /-- The callback that the last result is passed to. -/
  | callback
deriving DecidableEq, Repr

/-- The template text before a slot. -/
def Slot.opening : Slot → String
  | fieldLabel =>
    "        <label className=\"block text-sm font-medium text-gray-700 mb-2\">\n          "
  | placeholder => "          placeholder=\"Enter "
  | handlerComment => "    // "
  | caption => r"      {/* "
  | heading => "        <h3 className=\"text-sm font-medium text-gray-800\">"

/-- The template text after a slot. -/
def Slot.closing : Slot → String
  | fieldLabel => "\n        </label>\n"
  | placeholder => "\"\n"
  | handlerComment => "\n"
  | caption => r" */}" ++ "\n"
  | heading => ":</h3>\n"

/-- The template text before a part. -/
def Role.opening : Role → String
  | userText slot => slot.opening
  | stateName => "  const ["
  | stateSetter => ""
  | handlerName => "\n  const "
  | callbackBinder => r"({ "
  | fieldValue => r"          value={"
  | fieldSetter => r"          onChange={(e) => "
  | callTarget => "            "
  | callee => ""
  | argument => ""
  | callback => "            "

/-- The template text after a part. -/
def Role.closing : Role → String
  | userText slot => slot.closing
  | stateName => ", "
  | stateSetter => "] = useState"
  | handlerName => " = useCallback(("
  | callbackBinder => r" })"
  | fieldValue => r"}" ++ "\n"
  | fieldSetter => r"(e.target.value)}" ++ "\n"
  | callTarget => " = "
  | callee => "("
  | argument => ");\n"
  | callback => "?.(result);\n"

/-- A stretch of a generated file. -/
inductive Piece where
  /-- Template text without a part of interest. -/
  | template (text : String)
  /-- A part between the template texts of its role. -/
  | part (role : Role) (text : String)
deriving DecidableEq, Repr

namespace Piece

/-- The text of a piece. -/
def text : Piece → String
  | template text => text
  | part role text => role.opening ++ text ++ role.closing

/-- The text of several pieces. -/
def texts (pieces : List Piece) : String :=
  String.join (pieces.map text)

/-- The part of a piece, if it has the given role. -/
def part? (role : Role) : Piece → Option String
  | template _ => none
  | part role' text => if role' = role then some text else none

/-- The parts with the given role, in order. -/
def parts (role : Role) (pieces : List Piece) : List String :=
  pieces.filterMap (part? role)

/-- The user text of a piece and its place. -/
def userText? : Piece → Option (Slot × String)
  | part (.userText slot) text => some (slot, text)
  | _ => none

/-- All user text, in order. -/
def userTexts (pieces : List Piece) : List (Slot × String) :=
  pieces.filterMap userText?

@[simp]
theorem texts_nil : texts [] = "" := rfl

@[simp]
theorem texts_cons (piece : Piece) (pieces : List Piece) :
    texts (piece :: pieces) = piece.text ++ texts pieces := by
  simp [texts]

@[simp]
theorem texts_append (left right : List Piece) :
    texts (left ++ right) = texts left ++ texts right := by
  simp [texts]

@[simp]
theorem parts_nil (role : Role) : parts role [] = [] := rfl

@[simp]
theorem parts_template (role : Role) (text : String) (pieces : List Piece) :
    parts role (template text :: pieces) = parts role pieces := rfl

@[simp]
theorem parts_part (role role' : Role) (text : String) (pieces : List Piece) :
    parts role (part role' text :: pieces) =
      if role' = role then text :: parts role pieces else parts role pieces := by
  by_cases hrole : role' = role <;> simp [parts, part?, hrole]

@[simp]
theorem parts_append (role : Role) (left right : List Piece) :
    parts role (left ++ right) = parts role left ++ parts role right :=
  List.filterMap_append

theorem parts_flatMap {α : Type} (role : Role) (f : α → List Piece)
    (items : List α) :
    parts role (items.flatMap f) = items.flatMap fun a => parts role (f a) :=
  List.filterMap_flatMap

@[simp]
theorem userTexts_nil : userTexts [] = [] := rfl

@[simp]
theorem userTexts_template (text : String) (pieces : List Piece) :
    userTexts (template text :: pieces) = userTexts pieces := rfl

@[simp]
theorem userTexts_userText (slot : Slot) (text : String)
    (pieces : List Piece) :
    userTexts (part (.userText slot) text :: pieces) =
      (slot, text) :: userTexts pieces := rfl

@[simp]
theorem userTexts_part {role : Role} (text : String) (pieces : List Piece)
    (hrole : ∀ slot, role ≠ .userText slot) :
    userTexts (part role text :: pieces) = userTexts pieces := by
  cases role with
  | userText slot => exact absurd rfl (hrole slot)
  | _ => rfl

@[simp]
theorem userTexts_append (left right : List Piece) :
    userTexts (left ++ right) = userTexts left ++ userTexts right :=
  List.filterMap_append

theorem userTexts_flatMap {α : Type} (f : α → List Piece) (items : List α) :
    userTexts (items.flatMap f) = items.flatMap fun a => userTexts (f a) :=
  List.filterMap_flatMap

theorem texts_flatMap {α : Type} (f : α → List Piece) (items : List α) :
    texts (items.flatMap f) = String.join (items.map fun a => texts (f a)) := by
  induction items with
  | nil => rfl
  | cons item items ih => simp [ih]

end Piece

/-- A fragment with its parts marked. -/
structure MarkedFragment where
  kind : FragmentKind
  pieces : List Piece
deriving DecidableEq, Repr

namespace MarkedFragment

/-- The fragment without the marks. -/
def unmarked (marked : MarkedFragment) : Fragment :=
  ⟨marked.kind, Piece.texts marked.pieces⟩

/-- The pieces of several fragments. -/
def allPieces (marked : List MarkedFragment) : List Piece :=
  marked.flatMap (·.pieces)

end MarkedFragment

/-! ## Marked fragments -/

/-- The text of an attribute, or a default where it is missing or empty. -/
def givenOr (default : String) : Option String → String
  | some text => if text = "" then default else text
  | none => default

/-- The text that a slot shows for a node with some attributes, before it is
escaped. -/
def Slot.source (slot : Slot) (attributes : Attributes) : String :=
  match slot with
  | fieldLabel => givenOr "Input" attributes.label
  | placeholder => Text.lowercase (givenOr "input" attributes.label)
  | handlerComment => givenOr "Process the input data" attributes.description
  | caption => givenOr "ResultComponent" attributes.componentName
  | heading => givenOr "Output" attributes.label

/-- The escape that text in a slot goes through. -/
def Slot.escape : Slot → String → String
  | fieldLabel => Markup.escapeText
  | placeholder => Markup.escapeAttribute
  | handlerComment => Fragment.singleLine
  | caption => Markup.escapeComment
  | heading => Markup.escapeText

/-- The user text of a node in a slot. -/
def slotPiece (slot : Slot) (node : Node) : Piece :=
  .part (.userText slot) (slot.escape (slot.source node.attributes))

/-- The opening of the component function. -/
def markedHeader (name : String) (settings : Settings) : MarkedFragment where
  kind := .header
  pieces :=
    if settings.typeScript then
      [.template ("const " ++ name ++ ": React.FC<" ++ name ++ "Props> = "),
       .part .callbackBinder "onSubmit",
       .template (r" => {" ++ "\n")]
    else
      [.template ("const " ++ name ++ r" = (props) => {" ++ "\n")]

/-- The state variable of an input node. -/
def markedState (settings : Settings) (node : Node) : MarkedFragment where
  kind := .state
  pieces :=
    [.part .stateName (Naming.symbol node),
     .part .stateSetter (Naming.setter (Naming.symbol node)),
     .template ((if settings.typeScript then "<string>" else "") ++ "(\"\");\n")]

/-- The handler of a process node. -/
def markedHandler (settings : Settings) (node : Node) : MarkedFragment where
  kind := .handler
  pieces :=
    [.part .handlerName (Naming.symbol node),
     .template ((if settings.typeScript then "input: string" else "input")
       ++ r") => {" ++ "\n"),
     slotPiece .handlerComment node,
     .template (Text.unlines (Fragment.handlerBody node) ++ r"  }, []);" ++ "\n")]

/-- The field of an input node. -/
def fieldPieces (settings : Settings) (node : Node) : List Piece :=
  [.template (Text.unlines ["      <div className=\"mb-4\">"]),
   slotPiece .fieldLabel node,
   .template (Text.unlines
     ["        <input",
      "          type=\"" ++ Markup.inputType node.attributes.effectiveType
        ++ "\""])]
  ++ (if settings.hooks then
        [.part .fieldValue (Naming.symbol node),
         .part .fieldSetter (Naming.setter (Naming.symbol node))]
      else [])
  ++ [.template (Text.unlines
        ["          className=\"w-full px-3 py-2 border border-gray-300 rounded-md focus:ring-2 focus:ring-blue-500 focus:border-blue-500\""]),
      slotPiece .placeholder node,
      .template (Text.unlines ["        />", "      </div>"])]

/-- The call of one handler. -/
def callPieces (wiring : Wiring) (target : String) (process : Node) :
    List Piece :=
  [.part .callTarget target,
   .part .callee (Naming.symbol process),
   .part .argument (wiring.argument process),
   .template (Text.unlines
     ["            console.log('Processed result:', result);"])]

/-- The calls of all handlers, in order. -/
def callsPieces (wiring : Wiring) : List Node → List Piece
  | [] => []
  | first :: rest =>
    callPieces wiring "let result" first
      ++ rest.flatMap (callPieces wiring "result")

/-- The button that runs the handlers. -/
def triggerPieces (settings : Settings) (wiring : Wiring)
    (processes : List Node) : List Piece :=
  .template (Text.unlines
    ["      <button",
     r"        onClick={() => {",
     r"          try {"])
  :: callsPieces wiring processes
  ++ (if settings.typeScript then [.part .callback "onSubmit"] else [])
  ++ [.template (Text.unlines
       [r"          } catch (error) {",
        "            console.error('Processing failed:', error);",
        r"          }",
        r"        }}",
        "        className=\"w-full bg-blue-500 text-white py-2 px-4 rounded-md hover:bg-blue-600 transition-colors\"",
        "      >",
        "        Process Data",
        "      </button>"])]

/-- The display block of an output node. -/
def displayPieces (node : Node) : List Piece :=
  [slotPiece .caption node,
   .template (Text.unlines
     ["      <div className=\"mt-4 p-3 bg-gray-50 border border-gray-200 rounded-md\">"]),
   slotPiece .heading node,
   .template (Text.unlines
     ["        <p className=\"text-sm text-gray-600\">Results will be displayed here</p>",
      "      </div>"])]

/-- All display blocks under their common comment. -/
def displaysPieces (outputs : List Node) : List Piece :=
  if outputs.isEmpty then []
  else
    .template (Text.unlines
      ["      ", "      {/* Output section would go here */}"])
      :: outputs.flatMap displayPieces

/-- The return statement of the component. -/
def markedMarkup (settings : Settings) (wiring : Wiring) (groups : NodeGroups) :
    MarkedFragment where
  kind := .markup
  pieces :=
    .template (Text.unlines
      ["", "  return (", "    <div className=\"p-6 max-w-md mx-auto bg-white rounded-lg shadow-lg\">"])
    :: groups.inputs.flatMap (fieldPieces settings)
    ++ (if groups.processes.isEmpty then []
        else triggerPieces settings wiring groups.processes)
    ++ displaysPieces groups.outputs
    ++ [.template (Text.unlines ["    </div>", "  );"])]

/-- A fragment without parts of interest. -/
def unmarkedFragment (fragment : Fragment) : MarkedFragment :=
  ⟨fragment.kind, [.template fragment.text]⟩

/-- The fragments of a component, with their parts marked. -/
def marked (settings : Settings) (nodes : List Node) (edges : List Edge) :
    List MarkedFragment :=
  let groups := NodeGroups.ofNodes nodes
  let name := settings.componentName
  [unmarkedFragment (Fragment.imports settings)]
    ++ (if settings.typeScript then
          [unmarkedFragment (Fragment.propsType name)] else [])
    ++ [markedHeader name settings]
    ++ (if settings.hooks then
          groups.inputs.map (markedState settings)
            ++ groups.processes.map (markedHandler settings) else [])
    ++ [markedMarkup settings (Wiring.ofMode settings.mode groups edges) groups,
        unmarkedFragment Fragment.bodyEnd,
        unmarkedFragment (Fragment.exports name)]

/-! ## The text under the marks -/

open MarkedFragment Piece

@[simp]
theorem unlines_nil : Text.unlines [] = "" := rfl

@[simp]
theorem unlines_cons (line : String) (lines : List String) :
    Text.unlines (line :: lines) = line ++ "\n" ++ Text.unlines lines := by
  simp [Text.unlines]

@[simp]
theorem unlines_append (left right : List String) :
    Text.unlines (left ++ right) = Text.unlines left ++ Text.unlines right := by
  simp [Text.unlines]

/-- Lines and pieces that agree for each item agree for all items. -/
theorem unlines_flatMap_eq {items : List Node} {lines : Node → List String}
    {pieces : Node → List Piece}
    (heq : ∀ node, Text.unlines (lines node) = texts (pieces node)) :
    Text.unlines (items.flatMap lines) = texts (items.flatMap pieces) := by
  induction items with
  | nil => rfl
  | cons item items ih => simp [heq item, ih]

@[simp]
theorem unmarked_unmarkedFragment (fragment : Fragment) :
    (unmarkedFragment fragment).unmarked = fragment := by
  simp [unmarkedFragment, unmarked, Piece.text]

theorem unmarked_markedHeader (name : String) (settings : Settings) :
    (markedHeader name settings).unmarked = Fragment.header name settings := by
  have htemplate : r"Props> = ({ onSubmit }) => {" =
      "Props> = " ++ (r"({ " ++ ("onSubmit" ++ (r" })" ++ r" => {"))) := by
    simp
  cases htyped : settings.typeScript <;>
    simp only [markedHeader, unmarked, Fragment.header, htyped, htemplate,
      texts_cons, texts_nil, Piece.text, Role.opening, Role.closing,
      String.append_assoc, String.append_empty, if_true, if_false,
      Bool.false_eq_true, -String.reduceAppend]

theorem unmarked_markedState (settings : Settings) (node : Node) :
    (markedState settings node).unmarked = Fragment.state node settings := by
  simp only [markedState, unmarked, Fragment.state, texts_cons, texts_nil,
    Piece.text, Role.opening, Role.closing, String.append_assoc,
    String.append_empty, String.empty_append, -String.reduceAppend]

/-! ### The text in the slots -/

theorem getD_nonEmpty (default : String) (value : Option String) :
    (Text.nonEmpty value).getD default = givenOr default value := by
  cases value with
  | none => rfl
  | some text =>
    by_cases hempty : text = "" <;> simp [Text.nonEmpty, Option.filter, givenOr, hempty]

theorem label_getD (default : String) (node : Node) :
    (Markup.label node).getD default = givenOr default node.attributes.label :=
  getD_nonEmpty default node.attributes.label

theorem placeholder_eq_source (node : Node) :
    Markup.placeholder node = Slot.placeholder.source node.attributes := by
  have hdefault : Text.lowercase "input" = "input" := by cbv
  calc Markup.placeholder node
    _ = ((Markup.label node).map Text.lowercase).getD (Text.lowercase "input") := by
      rw [hdefault, Markup.placeholder]
    _ = Text.lowercase ((Markup.label node).getD "input") := Option.getD_map ..
    _ = Text.lowercase (givenOr "input" node.attributes.label) := by
      rw [label_getD]

theorem display_eq_source (node : Node) :
    Naming.display node = Slot.caption.source node.attributes :=
  getD_nonEmpty Naming.defaultDisplay node.attributes.componentName

theorem handlerComment_eq_escape (node : Node) :
    Fragment.handlerComment node =
      Slot.handlerComment.escape (Slot.handlerComment.source node.attributes) := by
  have hdefault : Fragment.singleLine "Process the input data" =
      "Process the input data" := by cbv
  simp only [Slot.escape, Slot.source, ← getD_nonEmpty]
  cases hcomment : Text.nonEmpty node.attributes.description <;>
    simp [Fragment.handlerComment, hcomment, hdefault]

/-! ### The text of the fragments -/

theorem unmarked_markedHandler (settings : Settings) (node : Node) :
    (markedHandler settings node).unmarked = Fragment.handler node settings := by
  simp only [markedHandler, unmarked, Fragment.handler, slotPiece,
    handlerComment_eq_escape, texts_cons, texts_nil, Piece.text, Role.opening,
    Role.closing, Slot.opening, Slot.closing, String.append_assoc,
    String.append_empty, -String.reduceAppend]

theorem unlines_fieldLines (settings : Settings) (node : Node) :
    Text.unlines (Markup.fieldLines settings node) =
      texts (fieldPieces settings node) := by
  have hopening :
      "        <label className=\"block text-sm font-medium text-gray-700 mb-2\">\n          " =
        "        <label className=\"block text-sm font-medium text-gray-700 mb-2\">"
          ++ ("\n" ++ "          ") := by simp
  have hlabel : "\n        </label>\n" = "\n" ++ ("        </label>" ++ "\n") := by
    simp
  have hplaceholder : "\"\n" = "\"" ++ "\n" := by simp
  cases hhooks : settings.hooks <;>
    simp only [Markup.fieldLines, Markup.bindingLines, fieldPieces, slotPiece,
      hhooks, unlines_cons, unlines_nil, unlines_append, texts_cons,
      texts_append, texts_nil, Piece.text, hopening, hlabel, hplaceholder,
      label_getD, placeholder_eq_source, Role.opening, Role.closing,
      Slot.opening, Slot.closing, Slot.escape, Slot.source,
      String.append_assoc, String.append_empty,
      if_true, if_false, Bool.false_eq_true, -String.reduceAppend]

theorem unlines_callLines (wiring : Wiring) (isFirst : Bool) (process : Node) :
    Text.unlines (Markup.callLines wiring isFirst process) =
      texts (callPieces wiring (if isFirst then "let result" else "result")
        process) := by
  have hargument : ");\n" = ");" ++ "\n" := by simp
  simp only [Markup.callLines, callPieces, unlines_cons, unlines_nil,
    texts_cons, texts_nil, hargument, Piece.text, Role.opening, Role.closing,
    String.append_assoc, String.append_empty, String.empty_append,
    -String.reduceAppend]

theorem unlines_callsLines (wiring : Wiring) (processes : List Node) :
    Text.unlines (Markup.callsLines wiring processes) =
      texts (callsPieces wiring processes) := by
  cases processes with
  | nil => rfl
  | cons first rest =>
    rw [Markup.callsLines, callsPieces, unlines_append, texts_append,
      unlines_callLines wiring true first,
      unlines_flatMap_eq (unlines_callLines wiring false)]
    rfl

theorem unlines_triggerLines (settings : Settings) (wiring : Wiring)
    (processes : List Node) :
    Text.unlines (Markup.triggerLines settings wiring processes) =
      texts (triggerPieces settings wiring processes) := by
  have hcallback : Text.unlines ["            onSubmit?.(result);"] =
      (Piece.part .callback "onSubmit").text := by
    simp [Text.unlines, Piece.text, Role.opening, Role.closing]
  cases htyped : settings.typeScript <;>
    simp only [Markup.triggerLines, triggerPieces, unlines_append,
      unlines_callsLines, texts_cons, texts_append, texts_nil, hcallback,
      Piece.text, htyped, if_true, if_false, unlines_nil, String.append_assoc,
      String.append_empty, Bool.false_eq_true]

theorem unlines_displayLines (node : Node) :
    Text.unlines (Markup.displayLines node) = texts (displayPieces node) := by
  have hheading : ":</h3>\n" = ":</h3>" ++ "\n" := by simp
  simp only [Markup.displayLines, displayPieces, slotPiece, unlines_cons,
    unlines_nil, texts_cons, texts_nil, Piece.text, hheading, label_getD,
    display_eq_source, Role.opening, Role.closing, Slot.opening, Slot.closing,
    Slot.escape, Slot.source, String.append_assoc, String.append_empty,
    -String.reduceAppend]

theorem unlines_displaysLines (outputs : List Node) :
    Text.unlines (Markup.displaysLines outputs) =
      texts (displaysPieces outputs) := by
  cases outputs with
  | nil => rfl
  | cons first rest =>
    simp only [Markup.displaysLines, displaysPieces, List.isEmpty_cons,
      Bool.false_eq_true, if_false, unlines_append, texts_cons, Piece.text,
      unlines_flatMap_eq unlines_displayLines]

theorem unmarked_markedMarkup (settings : Settings) (wiring : Wiring)
    (groups : NodeGroups) :
    (markedMarkup settings wiring groups).unmarked =
      Markup.fragment settings wiring groups := by
  have hfields : Text.unlines
      (groups.inputs.flatMap (Markup.fieldLines settings)) =
        texts (groups.inputs.flatMap (fieldPieces settings)) :=
    unlines_flatMap_eq (unlines_fieldLines settings)
  cases hprocesses : groups.processes.isEmpty <;>
    simp only [markedMarkup, unmarked, Markup.fragment, Markup.lines,
      unlines_append, hfields, unlines_triggerLines, unlines_displaysLines,
      hprocesses, texts_cons, texts_append, texts_nil, unlines_nil, Piece.text,
      String.append_assoc, String.append_empty, if_true, if_false,
      Bool.false_eq_true]

/-- Without its marks, a marked component is the component. -/
theorem unmarked_marked (settings : Settings) (nodes : List Node)
    (edges : List Edge) :
    (marked settings nodes edges).map MarkedFragment.unmarked =
      assemble settings.componentName settings nodes edges := by
  cases htyped : settings.typeScript <;> cases hhooks : settings.hooks <;>
    simp [marked, assemble, declarations, unmarked_markedHeader,
      unmarked_markedState, unmarked_markedHandler, unmarked_markedMarkup,
      htyped, hhooks, Function.comp_def]

theorem fragments_eq_of_named {settings : Settings} (nodes : List Node)
    (edges : List Edge) (hname : Text.isBlank settings.componentName = false) :
    fragments settings nodes edges =
      .ok ((marked settings nodes edges).map MarkedFragment.unmarked) := by
  rw [unmarked_marked, fragments, Settings.usableName, hname]
  rfl

/-- The generated file is the text of the pieces. -/
theorem generate_eq_texts {settings : Settings} (nodes : List Node)
    (edges : List Edge) (hname : Text.isBlank settings.componentName = false) :
    generate settings nodes edges =
      .ok (texts (allPieces (marked settings nodes edges))) := by
  rw [generate, fragments_eq_of_named nodes edges hname, allPieces,
    texts_flatMap, Except.map, Fragment.render, List.map_map]
  rfl

end Wireform.Component
