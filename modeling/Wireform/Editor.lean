import Wireform.Wire.Diagram

/-!
# Editor documents

The export format of the diagram editor and its conversion into a diagram.
The format has grown: keys may be written in snake case or in camel case, and
older exports keep the label beside the node's data.
-/

namespace Wireform.Editor

open Json

/-- What the properties panel stores for a node. -/
structure NodeData where
  label : Option String := none
  valueType : Option String := none
  functionName : Option String := none
  description : Option String := none
  componentName : Option String := none
deriving DecidableEq, Repr

/-- A node with an unchecked type tag. -/
structure RawNode where
  id : String
  typeTag : String
  label : Option String := none
  position : Position := {}
  data : NodeData := {}
deriving DecidableEq, Repr

/-- An edge, possibly without an id. -/
structure RawEdge where
  id : Option String := none
  source : String
  target : String
  sourceHandle : Option String := none
  targetHandle : Option String := none
deriving DecidableEq, Repr

/-- A whole export, possibly with the settings it was made with. -/
structure Document where
  nodes : List RawNode := []
  edges : List RawEdge := []
  settings : Option Settings := none
deriving DecidableEq, Repr

/-! ## Reading and writing -/

def NodeData.toJson (data : NodeData) : Json :=
  .object
    [("label", Json.optional Json.string data.label),
     ("data_type", Json.optional Json.string data.valueType),
     ("function_name", Json.optional Json.string data.functionName),
     ("description", Json.optional Json.string data.description),
     ("component_name", Json.optional Json.string data.componentName)]

def NodeData.decoder : Decoder NodeData :=
  .record "UiNodeData"
    (.cons (.optional "label" .string) <|
     .cons (.optional "data_type" .string ["dataType"]) <|
     .cons (.optional "function_name" .string ["functionName"]) <|
     .cons (.optional "description" .string) <|
     .cons (.optional "component_name" .string ["componentName"]) .nil)
    fun (label, valueType, functionName, description, componentName, _) =>
      { label, valueType, functionName, description, componentName }

/-- Positions in editor documents. -/
def positionDecoder : Decoder Position := Position.decoderFor "UiPosition"

def RawNode.toJson (node : RawNode) : Json :=
  .object
    [("id", .string node.id), ("type", .string node.typeTag),
     ("label", Json.optional Json.string node.label),
     ("position", node.position.toJson), ("data", node.data.toJson)]

def RawNode.decoder : Decoder RawNode :=
  .record "UiNode"
    (.cons (.required "id" .string) <|
     .cons (.required "type" .string) <|
     .cons (.optional "label" .string) <|
     .cons (.withDefault "position" positionDecoder {}) <|
     .cons (.withDefault "data" NodeData.decoder {}) .nil)
    fun (id, typeTag, label, position, data, _) =>
      { id, typeTag, label, position, data }

def RawEdge.toJson (edge : RawEdge) : Json :=
  .object
    [("id", Json.optional Json.string edge.id),
     ("source", .string edge.source), ("target", .string edge.target),
     ("source_handle", Json.optional Json.string edge.sourceHandle),
     ("target_handle", Json.optional Json.string edge.targetHandle)]

def RawEdge.decoder : Decoder RawEdge :=
  .record "UiEdge"
    (.cons (.optional "id" .string) <|
     .cons (.required "source" .string) <|
     .cons (.required "target" .string) <|
     .cons (.optional "source_handle" .string ["sourceHandle"]) <|
     .cons (.optional "target_handle" .string ["targetHandle"]) .nil)
    fun (id, source, target, sourceHandle, targetHandle, _) =>
      { id, source, target, sourceHandle, targetHandle }

def Document.toJson (document : Document) : Json :=
  .object
    [("nodes", .array (document.nodes.map RawNode.toJson)),
     ("edges", .array (document.edges.map RawEdge.toJson)),
     ("settings", Json.optional Settings.toJson document.settings)]

def Document.decoder : Decoder Document :=
  .record "UiDiagram"
    (.cons (.withDefault "nodes" (.list RawNode.decoder) []) <|
     .cons (.withDefault "edges" (.list RawEdge.decoder) [] ["connections"]) <|
     .cons (.optional "settings" Settings.decoder) .nil)
    fun (nodes, edges, settings, _) => { nodes, edges, settings }

/-! ## Conversion -/

/-- The reason why an export is not a diagram. -/
inductive ConversionError where
  | badJson (fault : Fault)
  | unknownKind (nodeId typeTag : String)
  | duplicateId (nodeId : String)
deriving DecidableEq, Repr

/-- The text shown for a conversion error. -/
def ConversionError.message : ConversionError → String
  | badJson fault => "Failed to parse diagram JSON: " ++ fault.message
  | unknownKind nodeId typeTag =>
    "Node '" ++ nodeId ++ "' has an unknown node type: '" ++ typeTag ++ "'"
  | duplicateId nodeId =>
    "Node id '" ++ nodeId ++ "' appears more than once in the diagram"

/-- Read an export. -/
def Document.ofText (text : String) : Except ConversionError Document :=
  (Document.decoder.decode text).mapError .badJson

/-- A node of a known kind.  An unknown value type counts as undeclared. -/
def RawNode.toNode (node : RawNode) (kind : NodeKind) : Node where
  id := node.id
  kind := kind
  position := node.position
  attributes :=
    { label := node.data.label.or node.label
      valueType := (Text.nonEmpty node.data.valueType).bind ValueType.ofTag
      functionName := node.data.functionName
      description := node.data.description
      componentName := node.data.componentName }

/-- Convert nodes, after nodes with the given ids. -/
def convertNodes (seen : List String) :
    List RawNode → Except ConversionError (List Node)
  | [] => .ok []
  | node :: rest =>
    if seen.contains node.id then .error (.duplicateId node.id)
    else
      match NodeKind.ofTag node.typeTag with
      | none => .error (.unknownKind node.id node.typeTag)
      | some kind =>
        (convertNodes (node.id :: seen) rest).map (node.toNode kind :: ·)

/-- An edge; without an id of its own it is named after its endpoints. -/
def RawEdge.toEdge (edge : RawEdge) : Edge where
  id := edge.id.getD ("e" ++ edge.source ++ "-" ++ edge.target)
  source := edge.source
  target := edge.target
  sourceHandle := edge.sourceHandle
  targetHandle := edge.targetHandle

/-- The diagram of an export: node ids must be distinct and type tags known;
edges are taken as they are. -/
def Document.toDiagram (document : Document) :
    Except ConversionError Diagram :=
  (convertNodes [] document.nodes).map fun nodes =>
    { nodes, edges := document.edges.map RawEdge.toEdge }

end Wireform.Editor
