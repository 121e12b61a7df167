import Mathlib
import Wireform.Proofs.Generator.Layout

/-!
# Features

Settings switch two features of a component: hooks and types.  All components of a
diagram are selections from one file, in which every part says under which feature it
is present.  To switch a feature off is to take its parts out of that file; it leaves
all other text as it is, and the two features can be switched off in either order.
-/

namespace Wireform

/-! ## Conditional parts -/

/-- What settings can switch on and off. -/
inductive Feature where
  | hooks
  | types
deriving DecidableEq, Repr

/-- The settings with the given features. -/
def Settings.configure (settings : Settings) (enabled : Feature → Bool) : Settings :=
  { settings with hooks := enabled .hooks, typeScript := enabled .types }

/-- When a part is present. -/
inductive Presence where
  | always
  | needs (feature : Feature)
  | lacks (feature : Feature)
deriving DecidableEq, Repr

namespace Presence

def holds (enabled : Feature → Bool) : Presence → Bool
  | always => true
  | needs feature => enabled feature
  | lacks feature => !enabled feature

/-- What remains of a condition when a feature is off; nothing if the condition cannot
be met any more. -/
def switchOff (off : Feature) : Presence → Option Presence
  | always => some always
  | needs feature => if feature = off then none else some (needs feature)
  | lacks feature => if feature = off then some always else some (lacks feature)

theorem holds_update (enabled : Feature → Bool) (off : Feature) (presence : Presence) :
    presence.holds (Function.update enabled off false) =
      ((presence.switchOff off).map (holds enabled)).getD false := by
  cases presence with
  | always => rfl
  | needs feature => by_cases hoff : feature = off <;> simp [holds, switchOff, hoff]
  | lacks feature => by_cases hoff : feature = off <;> simp [holds, switchOff, hoff]

theorem switchOff_comm (first second : Feature) (presence : Presence) :
    (presence.switchOff first).bind (switchOff second) =
      (presence.switchOff second).bind (switchOff first) := by
  cases presence with
  | always => rfl
  | needs feature => cases feature <;> cases first <;> cases second <;> rfl
  | lacks feature => cases feature <;> cases first <;> cases second <;> rfl

end Presence

/-- A part with the condition under which it is present. -/
structure Conditional (α : Type) where
  presence : Presence
  item : α
deriving DecidableEq, Repr

namespace Conditional

variable {α β : Type}

/-- The same condition for another item. -/
def map (f : α → β) (part : Conditional α) : Conditional β :=
  ⟨part.presence, f part.item⟩

/-- The items that are present under the given features, in order. -/
def select (enabled : Feature → Bool) (parts : List (Conditional α)) : List α :=
  (parts.filter (·.presence.holds enabled)).map (·.item)

/-- A part when a feature is off, unless it is gone. -/
def switchOff? (off : Feature) (part : Conditional α) : Option (Conditional α) :=
  (part.presence.switchOff off).map (⟨·, part.item⟩)

/-- The parts that are left when a feature is off. -/
def switchOff (off : Feature) (parts : List (Conditional α)) : List (Conditional α) :=
  parts.filterMap (switchOff? off)

@[simp]
theorem select_nil (enabled : Feature → Bool) :
    select enabled ([] : List (Conditional α)) = [] := rfl

@[simp]
theorem select_cons (enabled : Feature → Bool) (presence : Presence) (item : α)
    (parts : List (Conditional α)) :
    select enabled (⟨presence, item⟩ :: parts) =
      if presence.holds enabled then item :: select enabled parts
      else select enabled parts := by
  unfold select
  rw [List.filter_cons]
  split <;> rfl

@[simp]
theorem select_append (enabled : Feature → Bool) (left right : List (Conditional α)) :
    select enabled (left ++ right) = select enabled left ++ select enabled right := by
  simp [select]

theorem select_flatMap (enabled : Feature → Bool) (f : β → List (Conditional α))
    (items : List β) :
    select enabled (items.flatMap f) = items.flatMap fun item => select enabled (f item) := by
  simp [select, List.filter_flatMap, List.map_flatMap]

theorem select_map (enabled : Feature → Bool) (f : α → β) (parts : List (Conditional α)) :
    select enabled (parts.map (map f)) = (select enabled parts).map f := by
  simp [select, List.filter_map, Function.comp_def, map]

theorem select_switchOff (enabled : Feature → Bool) (off : Feature)
    (parts : List (Conditional α)) :
    select enabled (switchOff off parts) =
      select (Function.update enabled off false) parts := by
  induction parts with
  | nil => rfl
  | cons part parts ih =>
    obtain ⟨presence, item⟩ := part
    rw [select_cons, Presence.holds_update, ← ih]
    cases hleft : presence.switchOff off with
    | none => simp [switchOff, switchOff?, hleft]
    | some left => simp [switchOff, switchOff?, hleft]

theorem switchOff_map (off : Feature) (f : α → β) (parts : List (Conditional α)) :
    switchOff off (parts.map (map f)) = (switchOff off parts).map (map f) := by
  rw [switchOff, switchOff, List.filterMap_map, List.map_filterMap]
  congr 1
  funext part
  simp [switchOff?, map, Function.comp_def]

theorem switchOff_comm (first second : Feature) (parts : List (Conditional α)) :
    switchOff first (switchOff second parts) =
      switchOff second (switchOff first parts) := by
  have hpart (part : Conditional α) :
      (switchOff? second part).bind (switchOff? first) =
        (switchOff? first part).bind (switchOff? second) := by
    have hpresence := congrArg (Option.map (Conditional.mk · part.item))
      (Presence.switchOff_comm second first part.presence)
    simpa [switchOff?, Option.map_bind, Option.bind_map, Function.comp_def] using hpresence
  rw [switchOff, switchOff, List.filterMap_filterMap, switchOff, switchOff,
    List.filterMap_filterMap]
  congr 1
  funext part
  exact hpart part

end Conditional

/-- A fragment whose text has conditional parts. -/
structure ConditionalFragment where
  kind : FragmentKind
  parts : List (Conditional String)
deriving DecidableEq, Repr

namespace ConditionalFragment

/-- The fragment under the given features. -/
def select (enabled : Feature → Bool) (fragment : ConditionalFragment) : Fragment :=
  ⟨fragment.kind, String.join (Conditional.select enabled fragment.parts)⟩

def switchOff (off : Feature) (fragment : ConditionalFragment) : ConditionalFragment :=
  { fragment with parts := Conditional.switchOff off fragment.parts }

/-- The parts of a fragment that a feature decides on. -/
def switched (fragment : ConditionalFragment) : List (Conditional String) :=
  fragment.parts.filter (·.presence ≠ .always)

end ConditionalFragment

namespace ConditionalFile

/-- The fragments that are present under the given features. -/
def select (enabled : Feature → Bool) (file : List (Conditional ConditionalFragment)) :
    List Fragment :=
  (Conditional.select enabled file).map (ConditionalFragment.select enabled)

/-- What is left of a file when a feature is off: fragments under the feature are gone,
and so are parts under the feature within the other fragments. -/
def switchOff (off : Feature) (file : List (Conditional ConditionalFragment)) :
    List (Conditional ConditionalFragment) :=
  (Conditional.switchOff off file).map (Conditional.map (ConditionalFragment.switchOff off))

theorem select_switchOff (enabled : Feature → Bool) (off : Feature)
    (file : List (Conditional ConditionalFragment)) :
    select enabled (switchOff off file) =
      select (Function.update enabled off false) file := by
  rw [select, switchOff, Conditional.select_map, Conditional.select_switchOff,
    List.map_map, select]
  apply List.map_congr_left
  intro fragment _
  simp only [Function.comp_apply, ConditionalFragment.select,
    ConditionalFragment.switchOff, Conditional.select_switchOff]

theorem switchOff_comm (first second : Feature)
    (file : List (Conditional ConditionalFragment)) :
    switchOff first (switchOff second file) =
      switchOff second (switchOff first file) := by
  simp only [switchOff, Conditional.switchOff_map, List.map_map,
    Conditional.switchOff_comm first second file]
  apply List.map_congr_left
  intro part _
  simp only [Function.comp_apply, Conditional.map, ConditionalFragment.switchOff,
    Conditional.switchOff_comm first second part.item.parts]

end ConditionalFile

namespace Component

/-! ## The file that holds all components of a diagram -/

/-- A fragment that no feature decides on. -/
def constant (fragment : Fragment) : ConditionalFragment :=
  ⟨fragment.kind, [⟨.always, fragment.text⟩]⟩

def conditionalImports : ConditionalFragment where
  kind := .imports
  parts :=
    [⟨.always, "import React"⟩,
     ⟨.needs .hooks, ", { useState, useCallback }"⟩,
     ⟨.always, " from 'react';\n\n"⟩]

def conditionalHeader (name : String) : ConditionalFragment where
  kind := .header
  parts :=
    [⟨.needs .types, (Fragment.header name { typeScript := true }).text⟩,
     ⟨.lacks .types, (Fragment.header name { typeScript := false }).text⟩]

def conditionalState (node : Node) : ConditionalFragment where
  kind := .state
  parts :=
    [⟨.always, "  const [" ++ Naming.symbol node ++ ", "
        ++ Naming.setter (Naming.symbol node) ++ "] = useState"⟩,
     ⟨.needs .types, "<string>"⟩,
     ⟨.always, "(\"\");\n"⟩]

def conditionalHandler (node : Node) : ConditionalFragment where
  kind := .handler
  parts :=
    [⟨.always, "\n  const " ++ Naming.symbol node ++ " = useCallback((input"⟩,
     ⟨.needs .types, ": string"⟩,
     ⟨.always, r") => {" ++ "\n    // " ++ Fragment.handlerComment node ++ "\n"
        ++ Text.unlines (Fragment.handlerBody node) ++ r"  }, []);" ++ "\n"⟩]

/-- The two lines that bind a field to its state. -/
def bindings (node : Node) : List (Conditional String) :=
  [⟨.needs .hooks, r"          value={" ++ Naming.symbol node ++ r"}" ++ "\n"⟩,
   ⟨.needs .hooks, r"          onChange={(e) => " ++ Naming.setter (Naming.symbol node)
      ++ r"(e.target.value)}" ++ "\n"⟩]

/-- The line that passes on the last result. -/
def callback : Conditional String :=
  ⟨.needs .types, "            onSubmit?.(result);\n"⟩

/-- The lines of a field before its bindings. -/
def fieldHead (node : Node) : List String :=
  (Markup.fieldLines { hooks := false } node).take 6

/-- The lines of a field after its bindings. -/
def fieldFoot (node : Node) : List String :=
  (Markup.fieldLines { hooks := false } node).drop 6

def conditionalField (node : Node) : List (Conditional String) :=
  ⟨.always, Text.unlines (fieldHead node)⟩ :: bindings node
    ++ [⟨.always, Text.unlines (fieldFoot node)⟩]

def conditionalTrigger (wiring : Wiring) (processes : List Node) :
    List (Conditional String) :=
  if processes.isEmpty then []
  else
    [⟨.always, (Markup.frame { typeScript := false }).triggerOpening
        ++ String.join (processes.mapIdx (Markup.callText wiring))⟩,
     callback,
     ⟨.always, (Markup.frame { typeScript := false }).triggerClosing⟩]

def conditionalMarkup (wiring : Wiring) (groups : NodeGroups) : ConditionalFragment where
  kind := .markup
  parts :=
    let frame := Markup.frame {}
    ⟨.always, frame.opening⟩ :: groups.inputs.flatMap conditionalField
      ++ conditionalTrigger wiring groups.processes
      ++ [⟨.always, frame.displaySection (groups.outputs.map Markup.displayText)
            ++ frame.closing⟩]

/-- All fragments that a component of a diagram may have. -/
def conditionalFile (name : String) (mode : WiringMode) (nodes : List Node)
    (edges : List Edge) : List (Conditional ConditionalFragment) :=
  let groups := NodeGroups.ofNodes nodes
  [⟨.always, conditionalImports⟩,
   ⟨.needs .types, constant (Fragment.propsType name)⟩,
   ⟨.always, conditionalHeader name⟩]
  ++ groups.inputs.map (fun node => ⟨.needs .hooks, conditionalState node⟩)
  ++ groups.processes.map (fun node => ⟨.needs .hooks, conditionalHandler node⟩)
  ++ [⟨.always, conditionalMarkup (Wiring.ofMode mode groups edges) groups⟩,
      ⟨.always, constant Fragment.bodyEnd⟩,
      ⟨.always, constant (Fragment.exports name)⟩]

section

variable (settings : Settings) (enabled : Feature → Bool)

@[simp]
theorem select_constant (fragment : Fragment) :
    (constant fragment).select enabled = fragment := by
  simp [constant, ConditionalFragment.select, Presence.holds]

theorem select_conditionalImports :
    conditionalImports.select enabled =
      Fragment.imports (settings.configure enabled) := by
  cases hhooks : enabled .hooks <;>
    simp [conditionalImports, ConditionalFragment.select, Fragment.imports,
      Settings.configure, Presence.holds, hhooks]

theorem select_conditionalHeader (name : String) :
    (conditionalHeader name).select enabled =
      Fragment.header name (settings.configure enabled) := by
  cases htypes : enabled .types <;>
    simp [conditionalHeader, ConditionalFragment.select, Fragment.header,
      Settings.configure, Presence.holds, htypes]

theorem select_conditionalState (node : Node) :
    (conditionalState node).select enabled =
      Fragment.state node (settings.configure enabled) := by
  cases htypes : enabled .types <;>
    simp [conditionalState, ConditionalFragment.select, Fragment.state,
      Settings.configure, Presence.holds, htypes, String.append_assoc]

theorem select_conditionalHandler (node : Node) :
    (conditionalHandler node).select enabled =
      Fragment.handler node (settings.configure enabled) := by
  cases htypes : enabled .types <;>
    simp [conditionalHandler, ConditionalFragment.select, Fragment.handler,
      Settings.configure, Presence.holds, htypes, ← String.toList_inj]

theorem join_select_conditionalField (node : Node) :
    String.join (Conditional.select enabled (conditionalField node)) =
      Markup.fieldText (settings.configure enabled) node := by
  have hlines : Markup.fieldLines (settings.configure enabled) node =
      fieldHead node ++ (if enabled .hooks then Markup.bindingLines node else [])
        ++ fieldFoot node := by
    cases hhooks : enabled .hooks <;>
      simp only [fieldHead, fieldFoot, Markup.fieldLines, Settings.configure, hhooks] <;> rfl
  rw [Markup.fieldText, hlines]
  cases hhooks : enabled .hooks <;>
    simp [conditionalField, bindings, Markup.bindingLines, Presence.holds, hhooks,
      String.append_assoc, -String.reduceAppend]

theorem join_select_fields (inputs : List Node) :
    String.join (Conditional.select enabled (inputs.flatMap conditionalField)) =
      String.join (inputs.map (Markup.fieldText (settings.configure enabled))) := by
  simp only [Conditional.select_flatMap, Markup.join_flatMap,
    join_select_conditionalField settings]

theorem join_select_conditionalTrigger (wiring : Wiring) (processes : List Node) :
    String.join (Conditional.select enabled (conditionalTrigger wiring processes)) =
      (Markup.frame (settings.configure enabled)).trigger
        (processes.mapIdx (Markup.callText wiring)) := by
  have hopening : (Markup.frame (settings.configure enabled)).triggerOpening =
      (Markup.frame { typeScript := false }).triggerOpening := rfl
  have hclosing : (Markup.frame (settings.configure enabled)).triggerClosing =
      (if enabled .types then callback.item else "")
        ++ (Markup.frame { typeScript := false }).triggerClosing := by
    cases htypes : enabled .types <;>
      simp only [Markup.frame, Settings.configure, htypes, unlines_append] <;> rfl
  cases processes with
  | nil => rfl
  | cons first rest =>
    simp only [conditionalTrigger, MarkupFrame.trigger, hopening, hclosing,
      List.isEmpty_cons, List.mapIdx_cons]
    cases htypes : enabled .types <;>
      simp [callback, Presence.holds, htypes, String.append_assoc, -String.reduceAppend]

theorem select_conditionalMarkup (wiring : Wiring) (groups : NodeGroups) :
    (conditionalMarkup wiring groups).select enabled =
      Markup.fragment (settings.configure enabled) wiring groups := by
  have hopening : (Markup.frame {}).opening =
      (Markup.frame (settings.configure enabled)).opening := rfl
  have hdisplays : (Markup.frame {}).displaySection (groups.outputs.map Markup.displayText) =
      (Markup.frame (settings.configure enabled)).displaySection
        (groups.outputs.map Markup.displayText) := rfl
  have hclosing : (Markup.frame {}).closing =
      (Markup.frame (settings.configure enabled)).closing := rfl
  rw [Markup.fragment_eq_fill]
  simp [conditionalMarkup, ConditionalFragment.select, Presence.holds, MarkupFrame.fill,
    Markup.blocks, join_select_fields settings, join_select_conditionalTrigger settings,
    hopening, hdisplays, hclosing, String.append_assoc]

/-- A component is the selection of its features from the file of all components. -/
theorem select_conditionalFile (name : String) (nodes : List Node) (edges : List Edge) :
    ConditionalFile.select enabled (conditionalFile name settings.mode nodes edges) =
      assemble name (settings.configure enabled) nodes edges := by
  have hguarded (f : Node → ConditionalFragment) (nodes : List Node) :
      Conditional.select enabled
          (nodes.map fun node => (⟨.needs .hooks, f node⟩ : Conditional _)) =
        if enabled .hooks then nodes.map f else [] := by
    cases hhooks : enabled .hooks <;>
      simp [Conditional.select, List.filter_map, Function.comp_def, Presence.holds, hhooks]
  cases htypes : enabled .types <;> cases hhooks : enabled .hooks <;>
    simp [ConditionalFile.select, conditionalFile, assemble, declarations, hguarded,
      select_conditionalImports settings, select_conditionalHeader settings,
      select_conditionalState settings, select_conditionalHandler settings,
      select_conditionalMarkup settings, Presence.holds, Settings.configure, htypes, hhooks,
      Function.comp_def]

end

/-! ## What a feature decides on -/

/-- The condition of the fragments of a kind. -/
def presenceOf : FragmentKind → Presence
  | .propsType => .needs .types
  | .state | .handler => .needs .hooks
  | _ => .always

/-- The parts that features decide on within a fragment of a kind. -/
def switchedOf (name : String) (nodes : List Node) :
    FragmentKind → List (Conditional String)
  | .imports => [⟨.needs .hooks, ", { useState, useCallback }"⟩]
  | .header =>
    [⟨.needs .types, "const " ++ name ++ ": React.FC<" ++ name
        ++ r"Props> = ({ onSubmit }) => {" ++ "\n"⟩,
     ⟨.lacks .types, "const " ++ name ++ r" = (props) => {" ++ "\n"⟩]
  | .state => [⟨.needs .types, "<string>"⟩]
  | .handler => [⟨.needs .types, ": string"⟩]
  | .markup =>
    (nodes.filter (·.kind = .input)).flatMap bindings
      ++ if nodes.any (·.kind = .process) then [callback] else []
  | _ => []

theorem switched_conditionalField (node : Node) :
    (conditionalField node).filter (·.presence ≠ .always) = bindings node := rfl

theorem switched_conditionalTrigger (wiring : Wiring) (nodes : List Node) :
    (conditionalTrigger wiring (nodes.filter (·.kind = .process))).filter
        (·.presence ≠ .always) =
      if nodes.any (·.kind = .process) then [callback] else [] := by
  have hempty : (nodes.filter (·.kind = .process)).isEmpty =
      !nodes.any (·.kind = .process) := by
    rw [Bool.eq_iff_iff]
    simp
  unfold conditionalTrigger
  rw [hempty]
  cases nodes.any (·.kind = .process) <;> rfl

theorem switched_conditionalMarkup (wiring : Wiring) (name : String) (nodes : List Node) :
    (conditionalMarkup wiring (NodeGroups.ofNodes nodes)).switched =
      switchedOf name nodes .markup := by
  have hfields (inputs : List Node) :
      (inputs.flatMap conditionalField).filter (·.presence ≠ .always) =
        inputs.flatMap bindings := by
    simp only [List.filter_flatMap, switched_conditionalField]
  simp only [ConditionalFragment.switched, conditionalMarkup, NodeGroups.ofNodes,
    List.filter_append, List.filter_cons, hfields, switched_conditionalTrigger,
    switchedOf]
  simp

/-- Which fragments and which parts of them a feature decides on. -/
theorem described_conditionalFile (name : String) (mode : WiringMode)
    (nodes : List Node) (edges : List Edge) :
    ∀ part ∈ conditionalFile name mode nodes edges,
      part.presence = presenceOf part.item.kind ∧
        part.item.switched = switchedOf name nodes part.item.kind := by
  intro part hpart
  simp only [conditionalFile, List.mem_append, List.mem_cons, List.mem_map,
    List.not_mem_nil, or_false] at hpart
  rcases hpart with (((rfl | rfl | rfl) | ⟨node, -, rfl⟩) | ⟨node, -, rfl⟩) |
    (rfl | rfl | rfl)
  case inr.inl => exact ⟨rfl, switched_conditionalMarkup _ name nodes⟩
  all_goals exact ⟨rfl, rfl⟩

/-- All components of a diagram are selections from one file, and switching a feature
off takes from the file the parts under that feature and nothing else: with hooks the
states, the handlers, the imported names and the two lines that bind each field; with
types the properties, the annotations and the line that passes on the last result,
while the untyped header takes the place of the typed one.  The features can be
switched off in either order. -/
theorem features_remove_their_parts {settings : Settings}
    (hname : Text.isBlank settings.componentName = false) (nodes : List Node)
    (edges : List Edge) :
    let file := conditionalFile settings.componentName settings.mode nodes edges
    (∀ enabled, fragments (settings.configure enabled) nodes edges =
      .ok (ConditionalFile.select enabled file)) ∧
    (∀ enabled off,
      fragments (settings.configure (Function.update enabled off false)) nodes edges =
        .ok (ConditionalFile.select enabled (ConditionalFile.switchOff off file))) ∧
    (∀ first second,
      ConditionalFile.switchOff first (ConditionalFile.switchOff second file) =
        ConditionalFile.switchOff second (ConditionalFile.switchOff first file)) ∧
    ∀ part ∈ file, part.presence = presenceOf part.item.kind ∧
      part.item.switched = switchedOf settings.componentName nodes part.item.kind := by
  intro file
  have hfragments (enabled : Feature → Bool) :
      fragments (settings.configure enabled) nodes edges =
        .ok (ConditionalFile.select enabled file) := by
    rw [select_conditionalFile]
    simp [fragments, Settings.usableName, Settings.configure, hname, Except.map]
  refine ⟨hfragments, ?_, ?_, described_conditionalFile _ _ nodes edges⟩
  · intro enabled off
    rw [hfragments, ConditionalFile.select_switchOff]
  · intro first second
    exact ConditionalFile.switchOff_comm first second file

/-- A node of each kind that is shown, without hooks. -/
theorem features_remove_their_parts_unhooked :
    let nodes : List Node :=
      [{ id := "1", kind := .input, attributes := { label := some "E Mail" } },
       { id := "2", kind := .process, attributes := {} },
       { id := "3", kind := .output, attributes := {} }]
    let settings : Settings := { componentName := "Form" }
    let file := conditionalFile settings.componentName settings.mode nodes []
    let unhooked :=
      ConditionalFile.select (fun _ => true) (ConditionalFile.switchOff .hooks file)
    Text.isBlank settings.componentName = false ∧
      unhooked.map (·.kind) =
        [.imports, .propsType, .header, .markup, .bodyEnd, .exports] ∧
      fragments { settings with hooks := false } nodes [] = .ok unhooked := by
  intro nodes settings file unhooked
  have hname : Text.isBlank settings.componentName = false := by decide
  have hkinds : unhooked.map (·.kind) =
      [.imports, .propsType, .header, .markup, .bodyEnd, .exports] := rfl
  obtain ⟨-, hoff, -, -⟩ := features_remove_their_parts hname nodes []
  exact ⟨hname, hkinds, hoff (fun _ => true) .hooks⟩

end Component

end Wireform
