import Wireform.Naming

/-!
# Fragments

The pieces of a generated component file other than its markup.  A file is the
concatenation of its fragments.
-/

namespace Wireform

/-- What a fragment declares. -/
inductive FragmentKind where
  | imports
  | propsType
  | header
  | state
  | handler
  | markup
  | bodyEnd
  | exports
deriving DecidableEq, Repr

/-- A piece of generated source text. -/
structure Fragment where
  kind : FragmentKind
  text : String
deriving DecidableEq, Repr

namespace Fragment

def render (fragments : List Fragment) : String :=
  String.join (fragments.map (·.text))

def imports (settings : Settings) : Fragment where
  kind := .imports
  text :=
    "import React" ++ (if settings.hooks then ", { useState, useCallback }" else "")
      ++ " from 'react';\n\n"

def propsType (componentName : String) : Fragment where
  kind := .propsType
  text :=
    "interface " ++ componentName ++ r"Props {" ++ "\n"
      ++ "  onSubmit?: (data: any) => void;\n" ++ r"}" ++ "\n\n"

def header (componentName : String) (settings : Settings) : Fragment where
  kind := .header
  text :=
    if settings.typeScript then
      "const " ++ componentName ++ ": React.FC<" ++ componentName
        ++ r"Props> = ({ onSubmit }) => {" ++ "\n"
    else
      "const " ++ componentName ++ r" = (props) => {" ++ "\n"

/-- The state variable of an input node.  Its declared type is a string
whatever the node's value type. -/
def state (node : Node) (settings : Settings) : Fragment where
  kind := .state
  text :=
    let name := Naming.symbol node
    "  const [" ++ name ++ ", " ++ Naming.setter name ++ "] = useState"
      ++ (if settings.typeScript then "<string>" else "") ++ "(\"\");\n"

/-- The characters that end a line comment. -/
def isLineEnd (c : Char) : Bool :=
  c = '\r' || c = '\n' || c = '\u2028' || c = '\u2029'

/-- A text on one line: each line end becomes a blank. -/
def singleLine (text : String) : String :=
  Text.onChars (List.map fun c => if isLineEnd c then ' ' else c) text

def handlerComment (node : Node) : String :=
  ((Text.nonEmpty node.attributes.description).map singleLine).getD
    "Process the input data"

/-- The body of a handler below its comment: mail addresses are checked before
they are passed on. -/
def handlerBody (node : Node) : List String :=
  if node.attributes.effectiveType = .email then
    [r"    const emailRegex = /^[^\s@]+@[^\s@]+\.[^\s@]+$/;",
     r"    if (!emailRegex.test(input)) {",
     "      throw new Error('Invalid email format');",
     r"    }",
     "    return input.toLowerCase().trim();"]
  else
    ["    return input.trim();"]

/-- The memoized handler of a process node. -/
def handler (node : Node) (settings : Settings) : Fragment where
  kind := .handler
  text :=
    "\n  const " ++ Naming.symbol node ++ " = useCallback(("
      ++ (if settings.typeScript then "input: string" else "input") ++ r") => {" ++ "\n"
      ++ "    // " ++ handlerComment node ++ "\n"
      ++ Text.unlines (handlerBody node) ++ r"  }, []);" ++ "\n"

def bodyEnd : Fragment where
  kind := .bodyEnd
  text := r"};" ++ "\n\n"

def exports (componentName : String) : Fragment where
  kind := .exports
  text := "export default " ++ componentName ++ ";"

end Fragment

end Wireform
