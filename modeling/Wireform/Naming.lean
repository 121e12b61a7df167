import Wireform.Diagram

/-!
# Names

The identifiers and captions that a node contributes to the generated
component.  A function name given by the user is taken as it is; otherwise the
label is lowercased and stripped of white space.
-/

namespace Wireform.Naming

def defaultInput : String := "input"

def defaultProcess : String := "processData"

/-- The caption of an output without a component name. -/
def defaultDisplay : String := "ResultComponent"

/-- Lowercase a label, then drop all white space.  The case mapping sees the
whole label, so that words still end where the white space was. -/
def squash (label : String) : String :=
  Text.onChars (fun chars =>
    (Unicode.lowercase chars).filter (!Unicode.isScriptSpace ·)) label

/-- The name of a node whose label gives none. -/
def fallback : NodeKind → String
  | .input => defaultInput
  | .process => defaultProcess
  | kind => kind.tag

/-- The name that a label gives, if it has a character besides white space. -/
def labelName (attributes : Attributes) : Option String :=
  Text.nonEmpty ((Text.nonEmpty attributes.label).map squash)

/-- The symbolic name of a node: its state variable or its handler.  Labels of
processes are captions only. -/
def symbol (node : Node) : String :=
  match Text.nonEmpty node.attributes.functionName, node.kind with
  | some name, _ => name
  | none, .process => defaultProcess
  | none, kind => (labelName node.attributes).getD (fallback kind)

def display (node : Node) : String :=
  (Text.nonEmpty node.attributes.componentName).getD defaultDisplay

/-- The name of the function that sets a state variable: `email` gives
`setEmail`. -/
def setter (name : String) : String :=
  "set" ++ Text.onChars (fun
    | [] => []
    | first :: rest => Unicode.upperChar first ++ rest) name

end Wireform.Naming
