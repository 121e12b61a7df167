import Mathlib
import Wireform.Proofs.Generator.Arguments

/-!
# The input that a handler is called with

Connected wiring is computed from tables of ids.  What it comes to is said here
without them: a process receives the last input that has the id at which the
first edge into it begins, among the edges that begin at an input at all, and
the first input of the diagram if there is no such edge.  Ids may repeat, within
a kind and across kinds.
-/

namespace Wireform

/-- The first item of a list with a property. -/
def IsFirst {α : Type} (p : α → Prop) (items : List α) (item : α) : Prop :=
  ∃ before after, items = before ++ item :: after ∧ p item ∧
    ∀ other ∈ before, ¬ p other

/-- The last item of a list with a property. -/
def IsLast {α : Type} (p : α → Prop) (items : List α) (item : α) : Prop :=
  ∃ before after, items = before ++ item :: after ∧ p item ∧
    ∀ other ∈ after, ¬ p other

theorem find?_eq_some_iff_isFirst {α : Type} {p : α → Prop} [DecidablePred p]
    {items : List α} {item : α} :
    items.find? (fun other => decide (p other)) = some item ↔ IsFirst p items item := by
  rw [List.find?_eq_some_iff_append]
  simp only [decide_eq_true_eq, Bool.not_eq_true', decide_eq_false_iff_not, IsFirst]
  constructor
  · rintro ⟨hitem, before, after, hsplit, hbefore⟩
    exact ⟨before, after, hsplit, hitem, hbefore⟩
  · rintro ⟨before, after, hsplit, hitem, hbefore⟩
    exact ⟨hitem, before, after, hsplit, hbefore⟩

theorem isFirst_reverse_iff {α : Type} {p : α → Prop} {items : List α} {item : α} :
    IsFirst p items.reverse item ↔ IsLast p items item := by
  constructor
  · rintro ⟨before, after, hsplit, hitem, hbefore⟩
    refine ⟨after.reverse, before.reverse, ?_, hitem, ?_⟩
    · rw [List.reverse_eq_append_iff] at hsplit
      simpa using hsplit
    · intro other hother
      exact hbefore other (List.mem_reverse.1 hother)
  · rintro ⟨before, after, hsplit, hitem, hafter⟩
    refine ⟨after.reverse, before.reverse, ?_, hitem, ?_⟩
    · rw [hsplit]
      simp
    · intro other hother
      exact hafter other (List.mem_reverse.1 hother)

namespace Wiring

/-- An edge that leads from the id of an input to the id of a process. -/
def Feeds (nodes : List Node) (process : Node) (edge : Edge) : Prop :=
  (∃ input ∈ nodes, input.kind = .input ∧ input.id = edge.source) ∧
    edge.target = process.id

/-- The name that a process is to be called with where edges are followed. -/
inductive Receives (nodes : List Node) (edges : List Edge) (process : Node) :
    String → Prop
  | fed {edge : Edge} {input : Node}
      (hedge : IsFirst (Feeds nodes process) edges edge)
      (hinput : IsLast (fun node => node.kind = .input ∧ node.id = edge.source)
        nodes input) :
      Receives nodes edges process (Naming.symbol input)
  | unfed {input : Node} (hloose : ∀ edge ∈ edges, ¬ Feeds nodes process edge)
      (hinput : IsFirst (·.kind = .input) nodes input) :
      Receives nodes edges process (Naming.symbol input)
  | alone (hloose : ∀ edge ∈ edges, ¬ Feeds nodes process edge)
      (hnone : ∀ node ∈ nodes, node.kind ≠ .input) :
      Receives nodes edges process "input"

instance (groups : NodeGroups) : DecidablePred (Connects groups) := fun edge =>
  inferInstanceAs (Decidable ((∃ input ∈ groups.inputs, input.id = edge.source) ∧
    ∃ process ∈ groups.processes, process.id = edge.target))

/-- The input name that an edge brings to the processes with the given id. -/
def brings (groups : NodeGroups) (id : String) (edge : Edge) : Option String :=
  if edge.target = id then (connection groups edge).map (·.2) else none

variable {nodes : List Node} {edges : List Edge} {process : Node}

/-! ## What one edge brings -/

theorem lastWithId_eq_some_iff {id : String} {input : Node} :
    lastWithId (NodeGroups.ofNodes nodes).inputs id = some input ↔
      IsLast (fun node => node.kind = .input ∧ node.id = id) nodes input := by
  rw [← isFirst_reverse_iff, ← find?_eq_some_iff_isFirst, lastWithId,
    NodeGroups.ofNodes, ← List.filter_reverse, List.find?_filter]
  simp only [decide_eq_true_eq]

theorem mem_inputs {input : Node} :
    input ∈ (NodeGroups.ofNodes nodes).inputs ↔ input ∈ nodes ∧ input.kind = .input := by
  simp [NodeGroups.ofNodes]

theorem mem_processes {process : Node} :
    process ∈ (NodeGroups.ofNodes nodes).processes ↔
      process ∈ nodes ∧ process.kind = .process := by
  simp [NodeGroups.ofNodes]

/-- An edge into a process brings the name of the last input with its source. -/
theorem brings_eq_some_iff (hprocess : process ∈ (NodeGroups.ofNodes nodes).processes)
    {edge : Edge} {name : String} :
    brings (NodeGroups.ofNodes nodes) process.id edge = some name ↔
      edge.target = process.id ∧ ∃ input,
        IsLast (fun node => node.kind = .input ∧ node.id = edge.source) nodes input ∧
          Naming.symbol input = name := by
  unfold brings
  by_cases htarget : edge.target = process.id
  · have hknown : (NodeGroups.ofNodes nodes).processes.any
        (fun node => node.id = edge.target) = true := by
      rw [List.any_eq_true]
      exact ⟨process, hprocess, decide_eq_true htarget.symm⟩
    simp only [htarget, if_true, true_and, ← lastWithId_eq_some_iff, connection]
    rw [htarget] at hknown
    cases lastWithId (NodeGroups.ofNodes nodes).inputs edge.source with
    | none => simp
    | some input => simp [hknown]
  · simp [htarget]

/-- An edge feeds a process if it connects an input to it. -/
theorem feeds_iff_connects (hprocess : process ∈ (NodeGroups.ofNodes nodes).processes)
    {edge : Edge} :
    Feeds nodes process edge ↔
      edge.target = process.id ∧ Connects (NodeGroups.ofNodes nodes) edge := by
  simp only [Feeds, Connects, mem_inputs]
  constructor
  · rintro ⟨⟨input, hmem, hkind, hid⟩, htarget⟩
    exact ⟨htarget, ⟨input, ⟨hmem, hkind⟩, hid⟩, process, hprocess, htarget.symm⟩
  · rintro ⟨htarget, ⟨input, ⟨hmem, hkind⟩, hid⟩, -⟩
    exact ⟨⟨input, hmem, hkind, hid⟩, htarget⟩

theorem brings_eq_none_iff (hprocess : process ∈ (NodeGroups.ofNodes nodes).processes)
    {edge : Edge} :
    brings (NodeGroups.ofNodes nodes) process.id edge = none ↔
      ¬ Feeds nodes process edge := by
  rw [feeds_iff_connects hprocess, ← connection_isSome_iff, brings]
  by_cases htarget : edge.target = process.id
  · simp [htarget]
  · simp [htarget]

/-! ## The first edge that brings a name -/

theorem lookup_connections (groups : NodeGroups) (edges : List Edge) (id : String) :
    (connected groups edges).connections.lookup id =
      edges.findSome? (brings groups id) := by
  -- An edge without a connection leaves nothing behind, and of several
  -- connections of one process the lookup takes the first.
  unfold connected
  induction edges with
  | nil => rfl
  | cons edge rest ih =>
    rw [List.findSome?_cons, ← ih, brings]
    cases hwire : connection groups edge with
    | none => simp [hwire]
    | some wire =>
      obtain ⟨target, name⟩ := wire
      obtain ⟨rfl, -⟩ := connection_eq_some hwire
      by_cases hid : edge.target = id
      · simp [hwire, hid]
      · have hother : (id == edge.target) = false := by
          rw [beq_eq_false_iff_ne]
          exact Ne.symm hid
        simp [hwire, hid, List.lookup_cons, hother]

theorem argument_connected (groups : NodeGroups) (edges : List Edge)
    (process : Node) :
    (connected groups edges).argument process =
      (edges.findSome? (brings groups process.id)).getD groups.firstInputName := by
  rw [argument, lookup_connections]
  rfl

theorem findSome?_brings_eq_some_iff
    (hprocess : process ∈ (NodeGroups.ofNodes nodes).processes) {name : String} :
    edges.findSome? (brings (NodeGroups.ofNodes nodes) process.id) = some name ↔
      ∃ edge, IsFirst (Feeds nodes process) edges edge ∧ ∃ input,
        IsLast (fun node => node.kind = .input ∧ node.id = edge.source) nodes input ∧
          Naming.symbol input = name := by
  rw [List.findSome?_eq_some_iff]
  simp only [brings_eq_none_iff hprocess]
  constructor
  · rintro ⟨before, edge, after, hsplit, hbrings, hbefore⟩
    have hfeeds : Feeds nodes process edge := by
      by_contra hloose
      rw [(brings_eq_none_iff hprocess).2 hloose] at hbrings
      cases hbrings
    exact ⟨edge, ⟨before, after, hsplit, hfeeds, hbefore⟩,
      ((brings_eq_some_iff hprocess).1 hbrings).2⟩
  · rintro ⟨edge, ⟨before, after, hsplit, hfeeds, hbefore⟩, hinput⟩
    exact ⟨before, edge, after, hsplit,
      (brings_eq_some_iff hprocess).2 ⟨hfeeds.2, hinput⟩, hbefore⟩

theorem findSome?_brings_eq_none_iff
    (hprocess : process ∈ (NodeGroups.ofNodes nodes).processes) :
    edges.findSome? (brings (NodeGroups.ofNodes nodes) process.id) = none ↔
      ∀ edge ∈ edges, ¬ Feeds nodes process edge := by
  rw [List.findSome?_eq_none_iff]
  simp only [brings_eq_none_iff hprocess]

theorem firstInputName_eq_iff {name : String} :
    (NodeGroups.ofNodes nodes).firstInputName = name ↔
      (∃ input, IsFirst (·.kind = .input) nodes input ∧ Naming.symbol input = name) ∨
        (∀ node ∈ nodes, node.kind ≠ .input) ∧ "input" = name := by
  rw [NodeGroups.firstInputName, NodeGroups.ofNodes, List.head?_filter]
  simp only [← find?_eq_some_iff_isFirst]
  cases hfirst : nodes.find? (fun node => decide (node.kind = .input)) with
  | none =>
    have hnone : ∀ node ∈ nodes, node.kind ≠ .input := by
      simpa using hfirst
    simp only [Naming.defaultInput, reduceCtorEq, false_and, exists_false, false_or,
      Option.map_none, Option.getD_none]
    exact (and_iff_right hnone).symm
  | some input =>
    have hmem := List.mem_of_find?_eq_some hfirst
    have hkind := List.find?_some hfirst
    simp only [decide_eq_true_eq] at hkind
    have hsome : ¬ ∀ node ∈ nodes, node.kind ≠ .input := fun hnone =>
      hnone input hmem hkind
    simp [hsome]

/-- What a process is called with is what it receives. -/
theorem argument_eq_iff_receives
    (hprocess : process ∈ (NodeGroups.ofNodes nodes).processes) {name : String} :
    (connected (NodeGroups.ofNodes nodes) edges).argument process = name ↔
      Receives nodes edges process name := by
  rw [argument_connected]
  constructor
  · intro hname
    cases hfound : edges.findSome? (brings (NodeGroups.ofNodes nodes) process.id) with
    | some found =>
      rw [hfound, Option.getD_some] at hname
      obtain ⟨edge, hedge, input, hinput, hsymbol⟩ :=
        (findSome?_brings_eq_some_iff hprocess).1 hfound
      rw [← hname, ← hsymbol]
      exact .fed hedge hinput
    | none =>
      rw [hfound, Option.getD_none, firstInputName_eq_iff] at hname
      have hloose := (findSome?_brings_eq_none_iff hprocess).1 hfound
      rcases hname with ⟨input, hinput, rfl⟩ | ⟨hnone, rfl⟩
      · exact .unfed hloose hinput
      · exact .alone hloose hnone
  · intro hreceives
    cases hreceives with
    | fed hedge hinput =>
      rw [(findSome?_brings_eq_some_iff hprocess).2 ⟨_, hedge, _, hinput, rfl⟩,
        Option.getD_some]
    | unfed hloose hinput =>
      rw [(findSome?_brings_eq_none_iff hprocess).2 hloose, Option.getD_none,
        firstInputName_eq_iff]
      exact .inl ⟨_, hinput, rfl⟩
    | alone hloose hnone =>
      rw [(findSome?_brings_eq_none_iff hprocess).2 hloose, Option.getD_none,
        firstInputName_eq_iff]
      exact .inr ⟨hnone, rfl⟩

/-! ## Edges without a say -/

/-- Only the edges that connect an input to a process make connections. -/
theorem connected_eq_of_connecting {groups : NodeGroups} {edges edges' : List Edge}
    (hsame : edges'.filter (fun edge => decide (Connects groups edge)) =
      edges.filter fun edge => decide (Connects groups edge)) :
    connected groups edges' = connected groups edges := by
  have hconnecting (edges : List Edge) :
      (edges.filter fun edge => decide (Connects groups edge)).filterMap
          (connection groups) =
        edges.filterMap (connection groups) := by
    rw [List.filterMap_filter]
    congr 1
    funext edge
    by_cases hconnects : Connects groups edge
    · simp [hconnects]
    · have hnone := hconnects
      rw [← connection_isSome_iff, Option.not_isSome_iff_eq_none] at hnone
      simp [hconnects, hnone]
  rw [connected, connected, ← hconnecting edges', hsame, hconnecting edges]

/-- A process hears of the edges into it only, in their order. -/
theorem argument_eq_of_targets (groups : NodeGroups) {edges edges' : List Edge}
    (hsame : ∀ target, edges'.filter (·.target = target) =
      edges.filter (·.target = target)) (process : Node) :
    (connected groups edges').argument process =
      (connected groups edges).argument process := by
  have htargets (edges : List Edge) :
      (edges.filter (·.target = process.id)).findSome? (brings groups process.id) =
        edges.findSome? (brings groups process.id) := by
    rw [← List.head?_filterMap, ← List.head?_filterMap, List.filterMap_filter]
    congr 2
    funext edge
    by_cases htarget : edge.target = process.id
    · simp [htarget]
    · simp [htarget, brings]
  rw [argument_connected, argument_connected, ← htargets edges', hsame,
    htargets edges]

/-- Where edges are followed, the handler of a process is called with what the
process receives, and that is what stands in its call in the markup.  Edges that
connect no input to a process do not matter, and neither does the order of edges
with different targets. -/
theorem arguments_received (nodes : List Node) (edges : List Edge) :
    let groups := NodeGroups.ofNodes nodes
    (∀ process ∈ nodes, process.kind = .process → ∀ name,
      (connected groups edges).argument process = name ↔
        Receives nodes edges process name) ∧
    List.Forall₂ (Receives nodes edges) (nodes.filter (·.kind = .process))
      (Component.arguments .connected nodes edges) ∧
    (∀ settings, ∃ head tails,
      List.Forall₂ Component.OpensCall (head :: tails).dropLast groups.processes ∧
      (∀ tail ∈ tails, Component.ClosesCall tail) ∧
      (Markup.fragment settings (connected groups edges) groups).text =
        Component.fillGaps head tails (Component.arguments .connected nodes edges)) ∧
    (∀ edges', edges'.filter (fun edge => decide (Connects groups edge)) =
        edges.filter (fun edge => decide (Connects groups edge)) →
      Component.arguments .connected nodes edges' =
        Component.arguments .connected nodes edges) ∧
    ∀ edges', (∀ target, edges'.filter (·.target = target) =
        edges.filter (·.target = target)) →
      Component.arguments .connected nodes edges' =
        Component.arguments .connected nodes edges := by
  intro groups
  have harguments (edges : List Edge) : Component.arguments .connected nodes edges =
      groups.processes.map (connected groups edges).argument := rfl
  refine ⟨?_, ?_, ?_, ?_, ?_⟩
  · intro process hmem hkind name
    exact argument_eq_iff_receives (mem_processes.2 ⟨hmem, hkind⟩)
  · change List.Forall₂ _ groups.processes _
    rw [harguments, List.forall₂_map_right_iff, List.forall₂_same]
    intro process hprocess
    exact (argument_eq_iff_receives hprocess).1 rfl
  · intro settings
    exact ⟨Component.markupHead settings groups, Component.markupTails settings groups,
      Component.opensCall_markup settings groups,
      fun tail => Component.closesCall_markup,
      Component.markup_text_eq settings (connected groups edges) groups⟩
  · intro edges' hsame
    rw [harguments, harguments, connected_eq_of_connecting hsame]
  · intro edges' hsame
    rw [harguments, harguments]
    exact List.map_congr_left fun process _ =>
      argument_eq_of_targets groups hsame process

/-- Of two inputs with one id the later counts, of two edges into a process the
earlier, and an edge from a process does not count at all. -/
example :
    let named (id : String) (kind : NodeKind) (name : String) : Node :=
      { id, kind, attributes := { functionName := some name } }
    Component.arguments .connected
      [named "1" .input "a", named "1" .input "b", named "2" .input "c",
       named "3" .process "f", named "4" .process "g"]
      [⟨"", "4", "3", none, none⟩, ⟨"", "1", "3", none, none⟩,
       ⟨"", "2", "3", none, none⟩] = ["b", "a"] := by
  decide

end Wiring

end Wireform
