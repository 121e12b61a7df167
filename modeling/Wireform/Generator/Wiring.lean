import Wireform.Naming

/-!
# Wiring

Nodes grouped by kind, and the choice of the argument that each handler is
called with.
-/

namespace Wireform

/-- The nodes of a diagram by kind, each group in diagram order. -/
structure NodeGroups where
  inputs : List Node
  processes : List Node
  outputs : List Node
  datastores : List Node
deriving DecidableEq, Repr

namespace NodeGroups

def ofNodes (nodes : List Node) : NodeGroups where
  inputs := nodes.filter (·.kind = .input)
  processes := nodes.filter (·.kind = .process)
  outputs := nodes.filter (·.kind = .output)
  datastores := nodes.filter (·.kind = .datastore)

/-- The name of the first input, or the default input name. -/
def firstInputName (groups : NodeGroups) : String :=
  (groups.inputs.head?.map Naming.symbol).getD Naming.defaultInput

end NodeGroups

/-- Which input each handler is called with: explicit connections from process
ids to input names, the earliest one first, and a name for all others. -/
structure Wiring where
  connections : List (String × String)
  fallback : String
deriving DecidableEq, Repr

namespace Wiring

/-- Every handler is called with the first input. -/
def flat (groups : NodeGroups) : Wiring :=
  ⟨[], groups.firstInputName⟩

def lastWithId (nodes : List Node) (id : String) : Option Node :=
  nodes.reverse.find? (·.id = id)

/-- The connection an edge makes, if it runs from an input to a process. -/
def connection (groups : NodeGroups) (edge : Edge) : Option (String × String) :=
  match lastWithId groups.inputs edge.source with
  | some input =>
    if groups.processes.any (·.id = edge.target) then
      some (edge.target, Naming.symbol input)
    else none
  | none => none

/-- A handler is called with the input that the first edge into it comes
from, and with the first input when no edge runs from an input to it. -/
def connected (groups : NodeGroups) (edges : List Edge) : Wiring :=
  ⟨edges.filterMap (connection groups), groups.firstInputName⟩

def ofMode (mode : WiringMode) (groups : NodeGroups) (edges : List Edge) :
    Wiring :=
  match mode with
  | .flat => flat groups
  | .connected => connected groups edges

/-- The argument that the handler of a process node is called with. -/
def argument (wiring : Wiring) (process : Node) : String :=
  (wiring.connections.lookup process.id).getD wiring.fallback

end Wiring

end Wireform
