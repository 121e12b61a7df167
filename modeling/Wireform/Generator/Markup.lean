import Wireform.Generator.Fragment
import Wireform.Generator.Wiring

/-!
# Markup

The element tree that a component returns: one field per input, one button
that runs all handlers, and one display block per output.  User text passes
through the escape of the context it lands in, so that it cannot end that
context.
-/

namespace Wireform.Markup

def escapeTextChar : Char → List Char
  | '{' => "&#123;".toList
  | '}' => "&#125;".toList
  | '<' => "&lt;".toList
  | '>' => "&gt;".toList
  | c => [c]

/-- Text between two tags. -/
def escapeText (text : String) : String :=
  Text.onChars (List.flatMap escapeTextChar) text

def escapeAttributeChar : Char → List Char
  | '"' => "&quot;".toList
  | c => [c]

/-- Text between the double quotes of an attribute. -/
def escapeAttribute (text : String) : String :=
  Text.onChars (List.flatMap escapeAttributeChar) text

/-- Put a blank into each end mark of a comment. -/
def breakCommentEnds : List Char → List Char
  | '*' :: '/' :: rest => '*' :: ' ' :: '/' :: breakCommentEnds rest
  | c :: rest => c :: breakCommentEnds rest
  | [] => []

/-- Text within a block comment. -/
def escapeComment (text : String) : String :=
  Text.onChars breakCommentEnds text

/-- The label of a node, unless it is empty. -/
def label (node : Node) : Option String :=
  Text.nonEmpty node.attributes.label

def inputType : ValueType → String
  | .email => "email"
  | .number => "number"
  | _ => "text"

/-- The word after `Enter` in the placeholder of a field. -/
def placeholder (node : Node) : String :=
  ((label node).map Text.lowercase).getD "input"

/-- The two attributes that bind a field to its state variable. -/
def bindingLines (node : Node) : List String :=
  let name := Naming.symbol node
  [r"          value={" ++ name ++ r"}",
   r"          onChange={(e) => " ++ Naming.setter name ++ r"(e.target.value)}"]

def fieldLines (settings : Settings) (node : Node) : List String :=
  ["      <div className=\"mb-4\">",
   "        <label className=\"block text-sm font-medium text-gray-700 mb-2\">",
   "          " ++ escapeText ((label node).getD "Input"),
   "        </label>",
   "        <input",
   "          type=\"" ++ inputType node.attributes.effectiveType ++ "\""]
  ++ (if settings.hooks then bindingLines node else [])
  ++ ["          className=\"w-full px-3 py-2 border border-gray-300 rounded-md focus:ring-2 focus:ring-blue-500 focus:border-blue-500\"",
      "          placeholder=\"Enter " ++ escapeAttribute (placeholder node) ++ "\"",
      "        />",
      "      </div>"]

/-- The call of one handler.  The first call declares the result variable. -/
def callLines (wiring : Wiring) (isFirst : Bool) (process : Node) :
    List String :=
  ["            " ++ (if isFirst then "let result" else "result") ++ " = "
      ++ Naming.symbol process ++ "(" ++ wiring.argument process ++ ");",
   "            console.log('Processed result:', result);"]

def callsLines (wiring : Wiring) : List Node → List String
  | [] => []
  | first :: rest =>
    callLines wiring true first ++ rest.flatMap (callLines wiring false)

/-- The button that runs the handlers. -/
def triggerLines (settings : Settings) (wiring : Wiring)
    (processes : List Node) : List String :=
  ["      <button",
   r"        onClick={() => {",
   r"          try {"]
  ++ callsLines wiring processes
  ++ (if settings.typeScript then ["            onSubmit?.(result);"] else [])
  ++ [r"          } catch (error) {",
      "            console.error('Processing failed:', error);",
      r"          }",
      r"        }}",
      "        className=\"w-full bg-blue-500 text-white py-2 px-4 rounded-md hover:bg-blue-600 transition-colors\"",
      "      >",
      "        Process Data",
      "      </button>"]

def displayLines (node : Node) : List String :=
  [r"      {/* " ++ escapeComment (Naming.display node) ++ r" */}",
   "      <div className=\"mt-4 p-3 bg-gray-50 border border-gray-200 rounded-md\">",
   "        <h3 className=\"text-sm font-medium text-gray-800\">"
      ++ escapeText ((label node).getD "Output") ++ ":</h3>",
   "        <p className=\"text-sm text-gray-600\">Results will be displayed here</p>",
   "      </div>"]

/-- All display blocks under their common comment. -/
def displaysLines (outputs : List Node) : List String :=
  if outputs.isEmpty then []
  else
    ["      ", "      {/* Output section would go here */}"]
      ++ outputs.flatMap displayLines

def lines (settings : Settings) (wiring : Wiring) (groups : NodeGroups) :
    List String :=
  ["", "  return (", "    <div className=\"p-6 max-w-md mx-auto bg-white rounded-lg shadow-lg\">"]
  ++ groups.inputs.flatMap (fieldLines settings)
  ++ (if groups.processes.isEmpty then []
      else triggerLines settings wiring groups.processes)
  ++ displaysLines groups.outputs
  ++ ["    </div>", "  );"]

/-- The return statement of the component. -/
def fragment (settings : Settings) (wiring : Wiring) (groups : NodeGroups) :
    Fragment where
  kind := .markup
  text := Text.unlines (lines settings wiring groups)

end Wireform.Markup
