import Wireform.Binary64
import Wireform.Text

/-!
# Diagrams

A diagram is a list of typed nodes and a list of directed edges between node
ids.  Nothing here requires the ids to be distinct or the edges to meet
existing nodes; every function of the library accepts any diagram.
-/

namespace Wireform

/-- What a node stands for in the generated component. -/
inductive NodeKind where
  | input
  | process
  | output
  | datastore
deriving DecidableEq, Repr

namespace NodeKind

def all : List NodeKind := [input, process, output, datastore]

/-- The tag that names a kind in documents. -/
def tag : NodeKind → String
  | input => "input"
  | process => "process"
  | output => "output"
  | datastore => "datastore"

def ofTag (text : String) : Option NodeKind :=
  all.find? (·.tag = text)

end NodeKind

/-- The type of the value a node holds. -/
inductive ValueType where
  | string
  | number
  | boolean
  | object
  | array
  | email
deriving DecidableEq, Repr

namespace ValueType

def all : List ValueType := [string, number, boolean, object, array, email]

def tag : ValueType → String
  | string => "string"
  | number => "number"
  | boolean => "boolean"
  | object => "object"
  | array => "array"
  | email => "email"

def ofTag (text : String) : Option ValueType :=
  all.find? (·.tag = text)

end ValueType

structure Position where
  x : Binary64 := .zero
  y : Binary64 := .zero
deriving DecidableEq, Repr, Inhabited

/-- What a user may say about a node. -/
structure Attributes where
  label : Option String := none
  valueType : Option ValueType := none
  functionName : Option String := none
  description : Option String := none
  componentName : Option String := none
deriving DecidableEq, Repr, Inhabited

/-- The declared value type, a string when none is declared. -/
def Attributes.effectiveType (attributes : Attributes) : ValueType :=
  attributes.valueType.getD .string

structure Node where
  id : String
  kind : NodeKind
  position : Position := {}
  attributes : Attributes := {}
deriving DecidableEq, Repr

/-- A directed connection between the nodes with the given ids. -/
structure Edge where
  id : String
  source : String
  target : String
  sourceHandle : Option String := none
  targetHandle : Option String := none
deriving DecidableEq, Repr

/-- Nodes and edges, in the order in which they were drawn. -/
structure Diagram where
  nodes : List Node
  edges : List Edge
deriving DecidableEq, Repr

/-- How handlers are given their argument. -/
inductive WiringMode where
  /-- Every handler receives the first input; edges are not read. -/
  | flat
  /-- A handler receives the input that an edge leads into it from. -/
  | connected
deriving DecidableEq, Repr

namespace WiringMode

def all : List WiringMode := [flat, connected]

def tag : WiringMode → String
  | flat => "flat"
  | connected => "connected"

def ofTag (text : String) : Option WiringMode :=
  all.find? (·.tag = text)

end WiringMode

/-- The choices of one generation run. -/
structure Settings where
  /-- Name of the component and stem of its props type. -/
  componentName : String := ""
  typeScript : Bool := true
  hooks : Bool := true
  mode : WiringMode := .flat
deriving DecidableEq, Repr

/-- The reason why no component can be generated. -/
inductive GenerationError where
  | missingComponentName
deriving DecidableEq, Repr

def GenerationError.message : GenerationError → String
  | missingComponentName =>
    "Component name is missing or empty; it is required as an identifier and type name"

/-- The component name, unless it is blank. -/
def Settings.usableName (settings : Settings) : Except GenerationError String :=
  if Text.isBlank settings.componentName then .error .missingComponentName
  else .ok settings.componentName

end Wireform
