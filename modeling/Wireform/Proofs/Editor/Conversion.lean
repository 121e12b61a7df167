import Mathlib
import Wireform.Editor

/-!
# The conversion of exports

An export is a diagram exactly when its node ids are distinct and its type tags
are known.  The conversion reads the nodes from the first to the last with the
ids that it has seen, and stops at the first node with a fault; a repeated id
counts before an unknown tag.  Edges are never at fault.
-/

namespace Wireform

/-- The tags of the kinds of nodes. -/
def NodeKind.tags : List String := ["input", "process", "output", "datastore"]

theorem NodeKind.ofTag_eq_some_iff {text : String} {kind : NodeKind} :
    ofTag text = some kind ↔ kind.tag = text := by
  constructor
  · intro hkind
    have htag := List.find?_some hkind
    exact of_decide_eq_true htag
  · rintro rfl
    cases kind <;> rfl

theorem NodeKind.ofTag_eq_none_iff {text : String} :
    ofTag text = none ↔ text ∉ tags := by
  have htags : tags = all.map tag := rfl
  rw [htags, ofTag, List.find?_eq_none, List.mem_map]
  simp only [decide_eq_true_eq, not_exists, not_and]

theorem ValueType.ofTag_eq_some_iff {text : String} {type : ValueType} :
    ofTag text = some type ↔ type.tag = text := by
  constructor
  · intro htype
    have htag := List.find?_some htype
    exact of_decide_eq_true htag
  · rintro rfl
    cases type <;> rfl

theorem ValueType.tag_ne_empty (type : ValueType) : type.tag ≠ "" := by
  cases type <;> decide

namespace Editor

section Except

variable {ε α β : Type} {result : Except ε α} {f : α → β}

theorem map_eq_error_iff {error : ε} :
    result.map f = .error error ↔ result = .error error := by
  cases result <;> simp [Except.map]

theorem exists_map_eq_ok_iff :
    (∃ b, result.map f = .ok b) ↔ ∃ a, result = .ok a := by
  cases result <;> simp [Except.map]

end Except

/-! ## Faults -/

/-- The fault of a node where the given ids are taken, if it has one. -/
inductive NodeFault (taken : String → Prop) (node : RawNode) : ConversionError → Prop
  | repeated (htaken : taken node.id) : NodeFault taken node (.duplicateId node.id)
  | unknown (hfree : ¬ taken node.id) (htag : node.typeTag ∉ NodeKind.tags) :
      NodeFault taken node (.unknownKind node.id node.typeTag)

/-- The fault of the node at an index, after the nodes before it. -/
def FaultAt (nodes : List RawNode) (i : Nat) (error : ConversionError) : Prop :=
  ∃ node, nodes[i]? = some node ∧
    NodeFault (· ∈ (nodes.take i).map (·.id)) node error

/-- The fault of the node at an index, after the nodes before it and others with
the given ids. -/
def FaultAfter (seen : List String) (nodes : List RawNode) (i : Nat)
    (error : ConversionError) : Prop :=
  ∃ node, nodes[i]? = some node ∧
    NodeFault (fun id => id ∈ seen ∨ id ∈ (nodes.take i).map (·.id)) node error

theorem faultAfter_nil (nodes : List RawNode) (i : Nat) (error : ConversionError) :
    FaultAfter [] nodes i error ↔ FaultAt nodes i error := by
  simp only [FaultAfter, FaultAt, List.not_mem_nil, false_or]

theorem faultAfter_zero (seen : List String) (node : RawNode) (rest : List RawNode)
    (error : ConversionError) :
    FaultAfter seen (node :: rest) 0 error ↔ NodeFault (· ∈ seen) node error := by
  simp [FaultAfter]

/-- Behind the first node its id is taken as well. -/
theorem faultAfter_succ (seen : List String) (node : RawNode) (rest : List RawNode)
    (i : Nat) (error : ConversionError) :
    FaultAfter seen (node :: rest) (i + 1) error ↔
      FaultAfter (node.id :: seen) rest i error := by
  have htaken (id : String) :
      (id ∈ seen ∨ id ∈ ((node :: rest).take (i + 1)).map (·.id)) ↔
        (id ∈ node.id :: seen ∨ id ∈ (rest.take i).map (·.id)) := by
    simp only [List.take_succ_cons, List.map_cons, List.mem_cons]
    tauto
  simp only [FaultAfter, htaken, List.getElem?_cons_succ]

/-! ## The loop over the nodes -/

variable {seen : List String} {node : RawNode} {rest : List RawNode}

theorem convertNodes_of_fault {error : ConversionError}
    (hfault : NodeFault (· ∈ seen) node error) :
    convertNodes seen (node :: rest) = .error error := by
  cases hfault with
  | repeated htaken => simp [convertNodes, htaken]
  | unknown hfree htag =>
    simp [convertNodes, hfree, NodeKind.ofTag_eq_none_iff.2 htag]

theorem convertNodes_of_sound {kind : NodeKind} (hfree : node.id ∉ seen)
    (hkind : kind.tag = node.typeTag) :
    convertNodes seen (node :: rest) =
      (convertNodes (node.id :: seen) rest).map (node.toNode kind :: ·) := by
  simp [convertNodes, hfree, NodeKind.ofTag_eq_some_iff.2 hkind]

/-- A node has a fault, or its id is free and its tag names a kind. -/
theorem fault_or_sound (seen : List String) (node : RawNode) :
    (∃ error, NodeFault (· ∈ seen) node error) ∨
      node.id ∉ seen ∧ ∃ kind : NodeKind, kind.tag = node.typeTag := by
  by_cases htaken : node.id ∈ seen
  · exact .inl ⟨_, .repeated htaken⟩
  · cases hkind : NodeKind.ofTag node.typeTag with
    | none => exact .inl ⟨_, .unknown htaken (NodeKind.ofTag_eq_none_iff.1 hkind)⟩
    | some kind => exact .inr ⟨htaken, kind, NodeKind.ofTag_eq_some_iff.1 hkind⟩

theorem NodeFault.eq {taken : String → Prop} {error other : ConversionError}
    (hfault : NodeFault taken node error) (hother : NodeFault taken node other) :
    other = error := by
  cases hfault with
  | repeated htaken =>
    cases hother with
    | repeated _ => rfl
    | unknown hfree _ => exact absurd htaken hfree
  | unknown hfree _ =>
    cases hother with
    | repeated htaken => exact absurd htaken hfree
    | unknown _ _ => rfl

theorem not_fault_of_sound {kind : NodeKind} (hfree : node.id ∉ seen)
    (hkind : kind.tag = node.typeTag) (error : ConversionError) :
    ¬ NodeFault (· ∈ seen) node error := by
  intro hfault
  cases hfault with
  | repeated htaken => exact hfree htaken
  | unknown _ htag =>
    have hknown := NodeKind.ofTag_eq_none_iff.2 htag
    rw [NodeKind.ofTag_eq_some_iff.2 hkind] at hknown
    cases hknown

/-- The conversion of nodes fails with the fault of the first node that has one. -/
theorem convertNodes_eq_error_iff {nodes : List RawNode} {error : ConversionError} :
    convertNodes seen nodes = .error error ↔
      ∃ i, FaultAfter seen nodes i error ∧
        ∀ j < i, ∀ other, ¬ FaultAfter seen nodes j other := by
  induction nodes generalizing seen with
  | nil => simp [convertNodes, FaultAfter]
  | cons node rest ih =>
    rcases fault_or_sound seen node with ⟨found, hfound⟩ | ⟨hfree, kind, hkind⟩
    · rw [convertNodes_of_fault hfound, Except.error.injEq]
      constructor
      · rintro rfl
        exact ⟨0, (faultAfter_zero ..).2 hfound, fun j hj => absurd hj (Nat.not_lt_zero j)⟩
      · rintro ⟨i, hfault, hfirst⟩
        cases i with
        | zero => exact ((faultAfter_zero ..).1 hfault).eq hfound
        | succ i =>
          exact absurd ((faultAfter_zero ..).2 hfound) (hfirst 0 (Nat.succ_pos i) found)
    · have hsound (other : ConversionError) :
          ¬ FaultAfter seen (node :: rest) 0 other := by
        rw [faultAfter_zero]
        exact not_fault_of_sound hfree hkind other
      have hrest : convertNodes seen (node :: rest) = .error error ↔
          convertNodes (node.id :: seen) rest = .error error := by
        rw [convertNodes_of_sound hfree hkind, map_eq_error_iff]
      rw [hrest, ih]
      -- What is at an index of the rest is at the next index of the whole list.
      constructor
      · rintro ⟨i, hfault, hfirst⟩
        refine ⟨i + 1, (faultAfter_succ ..).2 hfault, ?_⟩
        intro j hj other
        cases j with
        | zero => exact hsound other
        | succ j =>
          rw [faultAfter_succ]
          exact hfirst j (Nat.lt_of_succ_lt_succ hj) other
      · rintro ⟨i, hfault, hfirst⟩
        cases i with
        | zero => exact absurd hfault (hsound error)
        | succ i =>
          refine ⟨i, (faultAfter_succ ..).1 hfault, ?_⟩
          intro j hj other
          rw [← faultAfter_succ]
          exact hfirst (j + 1) (Nat.succ_lt_succ hj) other

/-- The conversion of nodes succeeds when their ids are free and distinct and
their tags known. -/
theorem exists_convertNodes_iff {nodes : List RawNode} :
    (∃ converted, convertNodes seen nodes = .ok converted) ↔
      (nodes.map (·.id)).Nodup ∧ (∀ node ∈ nodes, node.id ∉ seen) ∧
        ∀ node ∈ nodes, node.typeTag ∈ NodeKind.tags := by
  induction nodes generalizing seen with
  | nil => simp [convertNodes]
  | cons node rest ih =>
    rcases fault_or_sound seen node with ⟨error, hfault⟩ | ⟨hfree, kind, hkind⟩
    · rw [convertNodes_of_fault hfault]
      cases hfault with
      | repeated htaken => simp [htaken]
      | unknown _ htag => simp [htag]
    · have hknown : node.typeTag ∈ NodeKind.tags := by
        by_contra htag
        exact not_fault_of_sound hfree hkind _ (.unknown hfree htag)
      have hrest : (∃ converted, convertNodes seen (node :: rest) = .ok converted) ↔
          ∃ converted, convertNodes (node.id :: seen) rest = .ok converted := by
        rw [convertNodes_of_sound hfree hkind, exists_map_eq_ok_iff]
      rw [hrest, ih]
      simp only [List.forall_mem_cons, List.map_cons, List.nodup_cons, hfree, hknown,
        not_false_eq_true, true_and]
      simp only [List.mem_cons, List.mem_map, not_or, not_exists, not_and]
      constructor
      · rintro ⟨hdistinct, hfresh, htags⟩
        exact ⟨⟨fun other hother => (hfresh other hother).1, hdistinct⟩,
          fun other hother => (hfresh other hother).2, htags⟩
      · rintro ⟨⟨hnew, hdistinct⟩, hfresh, htags⟩
        exact ⟨hdistinct, fun other hother => ⟨hnew other hother, hfresh other hother⟩,
          htags⟩

/-! ## What becomes of nodes and edges -/

/-- What a node of an export becomes: all that it holds is kept, its tags are
read, and a label among its data counts before one beside them. -/
structure BecomesNode (raw : RawNode) (node : Node) : Prop where
  id : node.id = raw.id
  kind : node.kind.tag = raw.typeTag
  position : node.position = raw.position
  label : ∀ label, raw.data.label = some label →
    node.attributes.label = some label
  oldLabel : raw.data.label = none → node.attributes.label = raw.label
  valueType : ∀ type : ValueType, node.attributes.valueType = some type ↔
    raw.data.valueType = some type.tag
  functionName : node.attributes.functionName = raw.data.functionName
  description : node.attributes.description = raw.data.description
  componentName : node.attributes.componentName = raw.data.componentName

/-- What an edge of an export becomes: one without an id is named after its
endpoints. -/
structure BecomesEdge (raw : RawEdge) (edge : Edge) : Prop where
  id : ∀ id, raw.id = some id → edge.id = id
  newId : raw.id = none → edge.id = "e" ++ raw.source ++ "-" ++ raw.target
  source : edge.source = raw.source
  target : edge.target = raw.target
  sourceHandle : edge.sourceHandle = raw.sourceHandle
  targetHandle : edge.targetHandle = raw.targetHandle

theorem RawNode.becomes_toNode {raw : RawNode} {kind : NodeKind}
    (hkind : kind.tag = raw.typeTag) : BecomesNode raw (raw.toNode kind) where
  id := rfl
  kind := hkind
  position := rfl
  label label hlabel := by simp [toNode, hlabel]
  oldLabel hlabel := by simp [toNode, hlabel]
  valueType type := by
    have hread (tag : String) :
        (Text.nonEmpty (some tag)).bind ValueType.ofTag = some type ↔
          tag = type.tag := by
      by_cases hempty : tag = ""
      · simp [Text.nonEmpty, Option.filter, hempty, (ValueType.tag_ne_empty type).symm]
      · simp [Text.nonEmpty, Option.filter, hempty, ValueType.ofTag_eq_some_iff,
          eq_comm (a := tag)]
    cases htag : raw.data.valueType with
    | none => simp [toNode, htag, Text.nonEmpty]
    | some tag => simp only [toNode, htag, hread, Option.some.injEq]
  functionName := rfl
  description := rfl
  componentName := rfl

theorem RawEdge.becomes_toEdge (raw : RawEdge) : BecomesEdge raw raw.toEdge where
  id id hid := by simp [toEdge, hid]
  newId hid := by simp [toEdge, hid]
  source := rfl
  target := rfl
  sourceHandle := rfl
  targetHandle := rfl

theorem becomes_convertNodes {nodes : List RawNode} {converted : List Node}
    (hconverted : convertNodes seen nodes = .ok converted) :
    List.Forall₂ BecomesNode nodes converted := by
  induction nodes generalizing seen converted with
  | nil =>
    cases hconverted
    exact .nil
  | cons node rest ih =>
    rcases fault_or_sound seen node with ⟨error, hfault⟩ | ⟨hfree, kind, hkind⟩
    · rw [convertNodes_of_fault hfault] at hconverted
      cases hconverted
    · rw [convertNodes_of_sound hfree hkind] at hconverted
      cases hrest : convertNodes (node.id :: seen) rest with
      | error error =>
        rw [hrest] at hconverted
        cases hconverted
      | ok tail =>
        rw [hrest] at hconverted
        cases hconverted
        exact .cons (RawNode.becomes_toNode hkind) (ih hrest)

theorem map_id_eq_of_becomes {nodes : List RawNode} {converted : List Node}
    (hbecomes : List.Forall₂ BecomesNode nodes converted) :
    converted.map (·.id) = nodes.map (·.id) := by
  induction hbecomes with
  | nil => rfl
  | cons hnode _ ih => rw [List.map_cons, List.map_cons, hnode.id, ih]

/-! ## Documents -/

theorem Document.toDiagram_eq_ok {document : Document} {diagram : Diagram}
    (hdiagram : document.toDiagram = .ok diagram) :
    convertNodes [] document.nodes = .ok diagram.nodes ∧
      diagram.edges = document.edges.map RawEdge.toEdge := by
  unfold toDiagram at hdiagram
  cases hnodes : convertNodes [] document.nodes with
  | error error =>
    rw [hnodes] at hdiagram
    cases hdiagram
  | ok nodes =>
    rw [hnodes] at hdiagram
    cases hdiagram
    exact ⟨rfl, rfl⟩

theorem Document.toDiagram_eq_error_iff {document : Document}
    {error : ConversionError} :
    document.toDiagram = .error error ↔
      convertNodes [] document.nodes = .error error := by
  rw [toDiagram, map_eq_error_iff]

theorem Document.exists_toDiagram_iff (document : Document) :
    (∃ diagram, document.toDiagram = .ok diagram) ↔
      ∃ nodes, convertNodes [] document.nodes = .ok nodes := by
  unfold toDiagram
  exact exists_map_eq_ok_iff

/-- An export is a diagram exactly when its node ids are distinct and its type
tags known.  If it is not, the error is the fault of the first node with one;
the edges have no say in it.  If it is, the diagram has what each of its nodes
and edges becomes, in order, and the node ids stay distinct. -/
theorem Document.conversion_exact (document : Document) :
    ((∃ diagram, document.toDiagram = .ok diagram) ↔
      (document.nodes.map (·.id)).Nodup ∧
        ∀ node ∈ document.nodes,
          node.typeTag ∈ ["input", "process", "output", "datastore"]) ∧
    (∀ error, document.toDiagram = .error error ↔
      ∃ i, FaultAt document.nodes i error ∧
        ∀ j < i, ∀ other, ¬ FaultAt document.nodes j other) ∧
    (∀ edges error, { document with edges := edges }.toDiagram = .error error ↔
      document.toDiagram = .error error) ∧
    ∀ diagram, document.toDiagram = .ok diagram →
      List.Forall₂ BecomesNode document.nodes diagram.nodes ∧
        List.Forall₂ BecomesEdge document.edges diagram.edges ∧
        (diagram.nodes.map (·.id)).Nodup := by
  refine ⟨?_, ?_, ?_, ?_⟩
  · rw [exists_toDiagram_iff, exists_convertNodes_iff]
    simp only [List.not_mem_nil, not_false_eq_true, implies_true, true_and,
      NodeKind.tags]
  · intro error
    rw [toDiagram_eq_error_iff, convertNodes_eq_error_iff]
    simp only [faultAfter_nil]
  · intro edges error
    rw [toDiagram_eq_error_iff, toDiagram_eq_error_iff]
  · intro diagram hdiagram
    obtain ⟨hnodes, hedges⟩ := toDiagram_eq_ok hdiagram
    have hbecomes := becomes_convertNodes hnodes
    have hdistinct := (exists_convertNodes_iff.1 ⟨_, hnodes⟩).1
    refine ⟨hbecomes, ?_, ?_⟩
    · rw [hedges, List.forall₂_map_right_iff, List.forall₂_same]
      intro edge _
      exact edge.becomes_toEdge
    · rw [map_id_eq_of_becomes hbecomes]
      exact hdistinct

/-- An unknown tag is reported before a repeated id that comes later, and a node
with both faults repeats an id. -/
example :
    let first : RawNode := { id := "1", typeTag := "input" }
    let unknown : RawNode := { id := "2", typeTag := "Input" }
    let both : RawNode := { id := "1", typeTag := "" }
    Document.toDiagram { nodes := [first, unknown, both] } =
        .error (.unknownKind "2" "Input") ∧
      Document.toDiagram { nodes := [first, both, unknown] } =
        .error (.duplicateId "1") := by
  decide

end Editor

end Wireform
