import Wireform.Generator.Markup

/-!
# Components

The generation of a whole component file.  Generation fails only on a blank
component name.
-/

namespace Wireform.Component

/-- The declarations of state and handlers, if they are emitted at all. -/
def declarations (settings : Settings) (groups : NodeGroups) : List Fragment :=
  if settings.hooks then
    groups.inputs.map (Fragment.state · settings)
      ++ groups.processes.map (Fragment.handler · settings)
  else []

/-- The fragments of a component with a given name. -/
def assemble (name : String) (settings : Settings) (nodes : List Node)
    (edges : List Edge) : List Fragment :=
  let groups := NodeGroups.ofNodes nodes
  let wiring := Wiring.ofMode settings.mode groups edges
  [Fragment.imports settings]
    ++ (if settings.typeScript then [Fragment.propsType name] else [])
    ++ [Fragment.header name settings]
    ++ declarations settings groups
    ++ [Markup.fragment settings wiring groups, Fragment.bodyEnd,
        Fragment.exports name]

def fragments (settings : Settings) (nodes : List Node) (edges : List Edge) :
    Except GenerationError (List Fragment) :=
  settings.usableName.map (assemble · settings nodes edges)

/-- The source text of the component for a node list and an edge list. -/
def generate (settings : Settings) (nodes : List Node) (edges : List Edge) :
    Except GenerationError String :=
  (fragments settings nodes edges).map Fragment.render

def ofDiagram (settings : Settings) (diagram : Diagram) :
    Except GenerationError String :=
  generate settings diagram.nodes diagram.edges

end Wireform.Component
