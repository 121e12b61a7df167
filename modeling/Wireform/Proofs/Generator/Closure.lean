import Mathlib
import Wireform.Proofs.Generator.Marking
import Wireform.Proofs.Generator.Wiring

/-!
# Components are closed

The markup of a component refers to state variables, setters, handlers and a
callback.  Each of these names is declared by a fragment of the same file, and
fields and calls refer to the declarations in their order.
-/

namespace Wireform.Component

open MarkedFragment Piece

/-- The fragments of one kind. -/
def ofKind (kind : FragmentKind) (file : List MarkedFragment) :
    List MarkedFragment :=
  file.filter fun fragment => fragment.kind = kind

/-- The parts with the given role in each fragment of one kind. -/
def declared (role : Role) (kind : FragmentKind) (file : List MarkedFragment) :
    List (List String) :=
  (ofKind kind file).map fun fragment => parts role fragment.pieces

/-- The parts of the markup with the given role, in order. -/
def referred (role : Role) (file : List MarkedFragment) : List String :=
  parts role (allPieces (ofKind .markup file))

/-! ## Declarations -/

theorem ofKind_append (kind : FragmentKind) (left right : List MarkedFragment) :
    ofKind kind (left ++ right) = ofKind kind left ++ ofKind kind right :=
  List.filter_append ..

theorem ofKind_map {kind kind' : FragmentKind} {f : Node → MarkedFragment}
    (hkind : ∀ node, (f node).kind = kind') (nodes : List Node) :
    ofKind kind (nodes.map f) = if kind' = kind then nodes.map f else [] := by
  split
  · rename_i heq
    rw [ofKind, List.filter_eq_self]
    intro fragment hfragment
    obtain ⟨node, -, rfl⟩ := List.mem_map.1 hfragment
    rw [hkind, heq, decide_eq_true rfl]
  · rename_i hne
    rw [ofKind, List.filter_eq_nil_iff]
    intro fragment hfragment
    obtain ⟨node, -, rfl⟩ := List.mem_map.1 hfragment
    rw [hkind, decide_eq_true_iff]
    exact hne

/-- The fragments of a component with hooks, by kind. -/
theorem ofKind_marked {settings : Settings} (hhooks : settings.hooks = true)
    (nodes : List Node) (edges : List Edge) :
    let groups := NodeGroups.ofNodes nodes
    let file := marked settings nodes edges
    ofKind .header file = [markedHeader settings.componentName settings] ∧
      ofKind .state file = groups.inputs.map (markedState settings) ∧
      ofKind .handler file = groups.processes.map (markedHandler settings) ∧
      ofKind .markup file = [markedMarkup settings
        (Wiring.ofMode settings.mode groups edges) groups] := by
  intro groups file
  have hstates (kind : FragmentKind) :
      ofKind kind (groups.inputs.map (markedState settings)) =
        if .state = kind then groups.inputs.map (markedState settings)
        else [] :=
    ofKind_map (f := markedState settings) (fun _ => rfl) groups.inputs
  have hhandlers (kind : FragmentKind) :
      ofKind kind (groups.processes.map (markedHandler settings)) =
        if .handler = kind then groups.processes.map (markedHandler settings)
        else [] :=
    ofKind_map (f := markedHandler settings) (fun _ => rfl) groups.processes
  have hprops : ∀ kind, kind ≠ .propsType → ofKind kind
      (if settings.typeScript then
        [unmarkedFragment (Fragment.propsType settings.componentName)]
      else []) = [] := by
    intro kind hkind
    split
    · refine List.filter_cons_of_neg ?_
      rw [decide_eq_true_iff]
      exact Ne.symm hkind
    · rfl
  refine ⟨?_, ?_, ?_, ?_⟩ <;>
    simp only [file, marked, hhooks, if_true, ofKind_append, hstates, hhandlers,
      hprops, ne_eq, reduceCtorEq, not_false_eq_true, if_false, groups] <;>
    simp [ofKind, unmarkedFragment, markedHeader, markedMarkup,
      Fragment.imports, Fragment.bodyEnd, Fragment.exports]

theorem parts_markedState (settings : Settings) (node : Node) :
    parts .stateName (markedState settings node).pieces =
        [Naming.symbol node] ∧
      parts .stateSetter (markedState settings node).pieces =
        [Naming.setter (Naming.symbol node)] :=
  ⟨rfl, rfl⟩

theorem parts_markedHandler (settings : Settings) (node : Node) :
    parts .handlerName (markedHandler settings node).pieces =
      [Naming.symbol node] := rfl

/-! ## References -/

theorem parts_markedMarkup (role : Role) (settings : Settings)
    (wiring : Wiring) (groups : NodeGroups) :
    parts role (markedMarkup settings wiring groups).pieces =
      (groups.inputs.flatMap fun node =>
        parts role (fieldPieces settings node))
      ++ (if groups.processes.isEmpty then []
          else parts role (triggerPieces settings wiring groups.processes))
      ++ parts role (displaysPieces groups.outputs) := by
  cases hprocesses : groups.processes.isEmpty <;>
    simp [markedMarkup, hprocesses, parts_flatMap]

theorem parts_displaysPieces {role : Role}
    (hrole : ∀ slot, Role.userText slot ≠ role) (outputs : List Node) :
    parts role (displaysPieces outputs) = [] := by
  have hdisplay (node : Node) : parts role (displayPieces node) = [] := by
    simp [displayPieces, slotPiece, hrole]
  cases outputs with
  | nil => rfl
  | cons first rest => simp [displaysPieces, parts_flatMap, hdisplay]

theorem parts_fieldPieces {role : Role} {settings : Settings}
    (hrole : ∀ slot, Role.userText slot ≠ role) (hhooks : settings.hooks = true)
    (node : Node) :
    parts role (fieldPieces settings node) =
      (if Role.fieldValue = role then [Naming.symbol node] else [])
      ++ if Role.fieldSetter = role then
          [Naming.setter (Naming.symbol node)] else [] := by
  cases role <;> simp [fieldPieces, slotPiece, hrole, hhooks]

theorem parts_callsPieces (role : Role) (wiring : Wiring)
    (processes : List Node) :
    parts role (callsPieces wiring processes) =
      match role with
      | .callTarget =>
        ("let result" :: List.replicate processes.length "result").take
          processes.length
      | .callee => processes.map Naming.symbol
      | .argument => processes.map wiring.argument
      | _ => [] := by
  have hcall (target : String) (process : Node) :
      parts role (callPieces wiring target process) =
        match role with
        | .callTarget => [target]
        | .callee => [Naming.symbol process]
        | .argument => [wiring.argument process]
        | _ => [] := by
    cases role <;> rfl
  cases processes with
  | nil => cases role <;> rfl
  | cons first rest =>
    have hresults : rest.flatMap (fun _ => ["result"]) =
        List.replicate rest.length "result" := by
      rw [← List.map_eq_flatMap, List.map_const']
    rw [callsPieces, parts_append, hcall, parts_flatMap]
    simp only [hcall]
    cases role <;> simp [hresults, List.map_eq_flatMap]

/-- The parts of the trigger that are not parts of a call. -/
theorem parts_triggerPieces (role : Role) (settings : Settings)
    (wiring : Wiring) (processes : List Node) :
    parts role (triggerPieces settings wiring processes) =
      parts role (callsPieces wiring processes)
      ++ if settings.typeScript = true ∧ Role.callback = role then
          ["onSubmit"] else [] := by
  cases htyped : settings.typeScript <;> simp [triggerPieces, htyped]

/-- What the markup of a component with hooks refers to. -/
theorem referred_marked {role : Role} {settings : Settings}
    (hrole : ∀ slot, Role.userText slot ≠ role) (hhooks : settings.hooks = true)
    (nodes : List Node) (edges : List Edge) :
    let groups := NodeGroups.ofNodes nodes
    referred role (marked settings nodes edges) =
      (groups.inputs.flatMap fun node =>
        (if Role.fieldValue = role then [Naming.symbol node] else [])
        ++ if Role.fieldSetter = role then
            [Naming.setter (Naming.symbol node)] else [])
      ++ if groups.processes.isEmpty then []
        else
          parts role (callsPieces
            (Wiring.ofMode settings.mode groups edges) groups.processes)
          ++ if settings.typeScript = true ∧ Role.callback = role then
              ["onSubmit"] else [] := by
  intro groups
  obtain ⟨-, -, -, hmarkup⟩ := ofKind_marked hhooks nodes edges
  rw [referred, hmarkup, allPieces, List.flatMap_cons, List.flatMap_nil,
    List.append_nil, parts_markedMarkup, parts_displaysPieces hrole,
    List.append_nil, parts_triggerPieces]
  simp only [parts_fieldPieces hrole hhooks, groups]

theorem referred_field {settings : Settings} (hhooks : settings.hooks = true)
    (nodes : List Node) (edges : List Edge) :
    let inputs := (NodeGroups.ofNodes nodes).inputs
    referred .fieldValue (marked settings nodes edges) =
        inputs.map Naming.symbol ∧
      referred .fieldSetter (marked settings nodes edges) =
        inputs.map fun node => Naming.setter (Naming.symbol node) := by
  intro inputs
  constructor <;> rw [referred_marked (by simp) hhooks] <;>
    simp [parts_callsPieces, List.map_eq_flatMap, inputs]

theorem referred_call {settings : Settings} (hhooks : settings.hooks = true)
    (nodes : List Node) (edges : List Edge) :
    let groups := NodeGroups.ofNodes nodes
    let wiring := Wiring.ofMode settings.mode groups edges
    let file := marked settings nodes edges
    referred .callTarget file =
        ("let result" :: List.replicate groups.processes.length "result").take
          groups.processes.length ∧
      referred .callee file = groups.processes.map Naming.symbol ∧
      referred .argument file = groups.processes.map wiring.argument := by
  intro groups wiring file
  refine ⟨?_, ?_, ?_⟩ <;> rw [referred_marked (by simp) hhooks] <;>
    cases groups.processes <;>
    simp [parts_callsPieces, groups, wiring]

theorem typeScript_of_mem_callback {settings : Settings}
    (hhooks : settings.hooks = true) {nodes : List Node} {edges : List Edge}
    {callback : String}
    (hcallback : callback ∈ referred .callback (marked settings nodes edges)) :
    settings.typeScript = true ∧ callback = "onSubmit" := by
  rw [referred_marked (by simp) hhooks] at hcallback
  simp only [reduceCtorEq, if_false, List.append_nil, parts_callsPieces,
    List.nil_append] at hcallback
  grind

/-- With hooks and an input, a component refers only to names that it declares.
The `i`-th call runs the `i`-th handler, on a state variable; the `i`-th field
shows the `i`-th state variable and sets it with its setter; the callback is
passed the result only if the header binds it; and the first call alone
declares the result. -/
theorem component_closed {settings : Settings} {nodes : List Node}
    (edges : List Edge) (hname : Text.isBlank settings.componentName = false)
    (hhooks : settings.hooks = true)
    (hinputs : (NodeGroups.ofNodes nodes).inputs ≠ []) :
    let file := marked settings nodes edges
    fragments settings nodes edges = .ok (file.map unmarked) ∧
      declared .handlerName .handler file =
        (referred .callee file).map ([·]) ∧
      (∀ argument ∈ referred .argument file,
        [argument] ∈ declared .stateName .state file) ∧
      (referred .argument file).length = (referred .callee file).length ∧
      declared .stateName .state file =
        (referred .fieldValue file).map ([·]) ∧
      declared .stateSetter .state file =
        (referred .fieldSetter file).map ([·]) ∧
      (∀ callback ∈ referred .callback file,
        [callback] ∈ declared .callbackBinder .header file) ∧
      (referred .callTarget file).length = (referred .callee file).length ∧
      ∀ i target, (referred .callTarget file)[i]? = some target →
        target = if i = 0 then "let result" else "result" := by
  intro file
  obtain ⟨hheader, hstate, hhandler, -⟩ := ofKind_marked hhooks nodes edges
  obtain ⟨hvalues, hsetters⟩ := referred_field hhooks nodes edges
  obtain ⟨htargets, hcallees, harguments⟩ := referred_call hhooks nodes edges
  have hstateNames : declared .stateName .state file =
      (referred .fieldValue file).map ([·]) := by
    rw [declared, hstate, hvalues, List.map_map, List.map_map]
    exact List.map_congr_left fun node _ => (parts_markedState settings node).1
  refine ⟨fragments_eq_of_named nodes edges hname, ?_, ?_, ?_, hstateNames,
    ?_, ?_, ?_, ?_⟩
  · rw [declared, hhandler, hcallees, List.map_map, List.map_map]
    exact List.map_congr_left fun node _ => parts_markedHandler settings node
  · intro argument hargument
    rw [harguments] at hargument
    obtain ⟨process, -, rfl⟩ := List.mem_map.1 hargument
    rw [hstateNames, hvalues]
    exact List.mem_map_of_mem
      (Wiring.argument_mem settings.mode edges hinputs process)
  · rw [harguments, hcallees, List.length_map, List.length_map]
  · rw [declared, hstate, hsetters, List.map_map, List.map_map]
    exact List.map_congr_left fun node _ => (parts_markedState settings node).2
  · intro callback hcallback
    obtain ⟨htyped, rfl⟩ := typeScript_of_mem_callback hhooks hcallback
    rw [declared, hheader]
    simp [markedHeader, htyped]
  · rw [htargets, hcallees, List.length_map, List.length_take]
    simp
  · intro i target htarget
    rw [htargets, List.getElem?_take] at htarget
    cases i <;> grind

/-- Two inputs with one id, and an edge from it to a process. -/
theorem component_closed_duplicate :
    let nodes : List Node :=
      [{ id := "1", kind := .input, attributes := { functionName := some "mail" } },
       { id := "1", kind := .input, attributes := { functionName := some "age" } },
       { id := "2", kind := .process, attributes := {} }]
    let edges : List Edge := [{ id := "a", source := "1", target := "2" }]
    let settings : Settings := { componentName := "Form", mode := .connected }
    Text.isBlank settings.componentName = false ∧ settings.hooks = true ∧
      (NodeGroups.ofNodes nodes).inputs ≠ [] ∧
      referred .argument (marked settings nodes edges) = ["age"] ∧
      ["age"] ∈ declared .stateName .state (marked settings nodes edges) := by
  intro nodes edges settings
  have hname : Text.isBlank settings.componentName = false := by decide
  have hinputs : (NodeGroups.ofNodes nodes).inputs ≠ [] := by decide
  have hargument : referred .argument (marked settings nodes edges) = ["age"] := by
    decide +kernel
  obtain ⟨-, -, harguments, -⟩ := component_closed edges hname rfl hinputs
  refine ⟨hname, rfl, hinputs, hargument, harguments "age" ?_⟩
  rw [hargument]
  exact List.mem_cons_self

end Wireform.Component
