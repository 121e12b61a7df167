import Wireform.Diagram
import Wireform.Json.Decoder

/-!
# Documents of the diagram model

How diagrams and generation settings are written and read.  Attributes and
handles are left out when they are missing; settings have defaults for all
their fields.
-/

namespace Wireform

open Json

/-- A value that stands for itself by its tag. -/
def tagText {α : Type} (tag : α → String) (value : α) : Json :=
  .string (tag value)

/-- The names of cases given by their tags. -/
def tagCases {α : Type} (all : List α) (tag : α → String) : List (String × α) :=
  all.map fun value => (tag value, value)

namespace NodeKind

def toJson : NodeKind → Json := tagText tag

def decoder : Decoder NodeKind := .choice (tagCases all tag)

end NodeKind

namespace ValueType

def toJson : ValueType → Json := tagText tag

def decoder : Decoder ValueType := .choice (tagCases all tag)

end ValueType

namespace WiringMode

def toJson : WiringMode → Json := tagText tag

def decoder : Decoder WiringMode := .choice (tagCases all tag)

end WiringMode

namespace Position

def toJson (position : Position) : Json :=
  .object [("x", .number position.x), ("y", .number position.y)]

/-- The fields of a position. -/
def fields : Fields [Binary64, Binary64] :=
  .cons (.required "x" .binary64) <|
  .cons (.required "y" .binary64) .nil

/-- Positions under the type name of their document. -/
def decoderFor (typeName : String) : Decoder Position :=
  .record typeName fields fun (x, y, _) => { x, y }

def decoder : Decoder Position := decoderFor "Position"

end Position

namespace Attributes

def toJson (attributes : Attributes) : Json :=
  .object <|
    memberIfSome "label" Json.string attributes.label
    ++ memberIfSome "dataType" ValueType.toJson attributes.valueType
    ++ memberIfSome "functionName" Json.string attributes.functionName
    ++ memberIfSome "description" Json.string attributes.description
    ++ memberIfSome "componentName" Json.string attributes.componentName

def decoder : Decoder Attributes :=
  .record "NodeAttributes"
    (.cons (.optional "label" .string) <|
     .cons (.optional "dataType" ValueType.decoder) <|
     .cons (.optional "functionName" .string) <|
     .cons (.optional "description" .string) <|
     .cons (.optional "componentName" .string) .nil)
    fun (label, valueType, functionName, description, componentName, _) =>
      { label, valueType, functionName, description, componentName }

end Attributes

namespace Node

def toJson (node : Node) : Json :=
  .object
    [("id", .string node.id), ("kind", node.kind.toJson),
     ("position", node.position.toJson), ("attributes", node.attributes.toJson)]

def decoder : Decoder Node :=
  .record "Node"
    (.cons (.required "id" .string) <|
     .cons (.required "kind" NodeKind.decoder) <|
     .cons (.withDefault "position" Position.decoder {}) <|
     .cons (.withDefault "attributes" Attributes.decoder {}) .nil)
    fun (id, kind, position, attributes, _) => { id, kind, position, attributes }

end Node

namespace Edge

def toJson (edge : Edge) : Json :=
  .object <|
    [("id", .string edge.id), ("sourceNodeId", .string edge.source),
     ("targetNodeId", .string edge.target)]
    ++ memberIfSome "sourceHandle" Json.string edge.sourceHandle
    ++ memberIfSome "targetHandle" Json.string edge.targetHandle

def decoder : Decoder Edge :=
  .record "Edge"
    (.cons (.required "id" .string) <|
     .cons (.required "sourceNodeId" .string) <|
     .cons (.required "targetNodeId" .string) <|
     .cons (.optional "sourceHandle" .string) <|
     .cons (.optional "targetHandle" .string) .nil)
    fun (id, source, target, sourceHandle, targetHandle, _) =>
      { id, source, target, sourceHandle, targetHandle }

end Edge

namespace Diagram

def toJson (diagram : Diagram) : Json :=
  .object
    [("nodes", .array (diagram.nodes.map Node.toJson)),
     ("edges", .array (diagram.edges.map Edge.toJson))]

def decoder : Decoder Diagram :=
  .record "Diagram"
    (.cons (.required "nodes" (.list Node.decoder)) <|
     .cons (.required "edges" (.list Edge.decoder)) .nil)
    fun (nodes, edges, _) => { nodes, edges }

end Diagram

namespace Settings

def toJson (settings : Settings) : Json :=
  .object
    [("componentName", .string settings.componentName),
     ("useTypeScript", .boolean settings.typeScript),
     ("useHooks", .boolean settings.hooks),
     ("mode", settings.mode.toJson)]

def decoder : Decoder Settings :=
  .record "GenerationSettings"
    (.cons (.withDefault "componentName" .string "") <|
     .cons (.withDefault "useTypeScript" .boolean true) <|
     .cons (.withDefault "useHooks" .boolean true) <|
     .cons (.withDefault "mode" WiringMode.decoder .flat) .nil)
    fun (componentName, typeScript, hooks, mode, _) =>
      { componentName, typeScript, hooks, mode }

end Settings

end Wireform
