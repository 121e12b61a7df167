import Mathlib
import Wireform.Generator.Wiring

/-!
# What the handlers are called with

The argument of a call is the name of an input node.  Edges can only choose
among these names, and only an edge from an input to a process chooses at all.
-/

namespace Wireform.Wiring

/-- An edge that runs from the id of an input to the id of a process. -/
def Connects (groups : NodeGroups) (edge : Edge) : Prop :=
  (∃ input ∈ groups.inputs, input.id = edge.source) ∧
    ∃ process ∈ groups.processes, process.id = edge.target

theorem mem_of_lastWithId {nodes : List Node} {id : String} {node : Node}
    (hlast : lastWithId nodes id = some node) : node ∈ nodes ∧ node.id = id := by
  have hmem := List.mem_of_find?_eq_some hlast
  have hid := List.find?_some hlast
  exact ⟨List.mem_reverse.1 hmem, of_decide_eq_true hid⟩

/-- An edge makes a connection to its target, from an input with the id of its
source. -/
theorem connection_eq_some {groups : NodeGroups} {edge : Edge}
    {wire : String × String} (hwire : connection groups edge = some wire) :
    wire.1 = edge.target ∧ ∃ input ∈ groups.inputs,
      input.id = edge.source ∧ wire.2 = Naming.symbol input := by
  unfold connection at hwire
  split at hwire
  · rename_i input hlast
    obtain ⟨hmem, hid⟩ := mem_of_lastWithId hlast
    split at hwire
    · obtain rfl := Option.some.inj hwire
      exact ⟨rfl, input, hmem, hid, rfl⟩
    · cases hwire
  · cases hwire

theorem connection_isSome_iff (groups : NodeGroups) (edge : Edge) :
    (connection groups edge).isSome ↔ Connects groups edge := by
  have hsource : (lastWithId groups.inputs edge.source).isSome ↔
      ∃ input ∈ groups.inputs, input.id = edge.source := by
    simp [lastWithId, List.find?_isSome]
  unfold connection Connects
  cases hlast : lastWithId groups.inputs edge.source with
  | none => simp [← hsource, hlast]
  | some input =>
    rw [← hsource, hlast]
    simp

/-- Without an edge from an input to a process both wirings are the same. -/
theorem connected_eq_flat {groups : NodeGroups} {edges : List Edge}
    (hnone : ∀ edge ∈ edges, ¬ Connects groups edge) :
    connected groups edges = flat groups := by
  have hwires : edges.filterMap (connection groups) = [] := by
    rw [List.filterMap_eq_nil_iff]
    intro edge hedge
    have hloose := hnone edge hedge
    rwa [← connection_isSome_iff, Option.not_isSome_iff_eq_none] at hloose
  rw [connected, hwires, flat]

theorem firstInputName_mem {groups : NodeGroups} (hinputs : groups.inputs ≠ []) :
    groups.firstInputName ∈ groups.inputs.map Naming.symbol := by
  obtain ⟨first, rest, hcons⟩ := List.exists_cons_of_ne_nil hinputs
  rw [NodeGroups.firstInputName, hcons]
  exact List.mem_cons_self

theorem mem_connections {groups : NodeGroups} {mode : WiringMode}
    {edges : List Edge} {wire : String × String}
    (hwire : wire ∈ (ofMode mode groups edges).connections) :
    wire.2 ∈ groups.inputs.map Naming.symbol := by
  cases mode with
  | flat => cases hwire
  | connected =>
    obtain ⟨edge, -, hedge⟩ := List.mem_filterMap.1 hwire
    obtain ⟨-, input, hinput, -, hname⟩ := connection_eq_some hedge
    exact List.mem_map.2 ⟨input, hinput, hname.symm⟩

theorem fallback_ofMode (mode : WiringMode) (groups : NodeGroups)
    (edges : List Edge) :
    (ofMode mode groups edges).fallback = groups.firstInputName := by
  cases mode <;> rfl

/-- A handler is called with the name of an input, whatever the edges. -/
theorem argument_mem (mode : WiringMode) {groups : NodeGroups}
    (edges : List Edge) (hinputs : groups.inputs ≠ []) (process : Node) :
    (ofMode mode groups edges).argument process ∈
      groups.inputs.map Naming.symbol := by
  unfold argument
  cases hlookup : (ofMode mode groups edges).connections.lookup process.id with
  | none =>
    rw [Option.getD_none, fallback_ofMode]
    exact firstInputName_mem hinputs
  | some name =>
    obtain ⟨before, after, hsplit, -⟩ := List.lookup_eq_some_iff.1 hlookup
    have hwire : (process.id, name) ∈
        (ofMode mode groups edges).connections := by
      simp [hsplit]
    exact mem_connections hwire

end Wireform.Wiring
