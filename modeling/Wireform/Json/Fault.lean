import Wireform.Json.Value
import Wireform.Unicode.Quoting

/-!
# Faults

Why a text is not the document it should be, and where this was noticed.
-/

namespace Wireform.Json

/-- What was found in place of something else. -/
inductive Found where
  | null
  | boolean (value : Bool)
  | integer (value : Int)
  | number (value : Binary64)
  | string (value : String)
  | sequence
  | map
deriving DecidableEq, Repr

def found : Json → Found
  | .null => .null
  | .boolean value => .boolean value
  | .integer value => .integer value
  | .number value => .number value
  | .string value => .string value
  | .array _ => .sequence
  | .object _ => .map

def Found.describe : Found → String
  | .null => "null"
  | .boolean value => "boolean `" ++ (if value then "true" else "false") ++ "`"
  | .integer value => "integer `" ++ toString value ++ "`"
  | .number value => "floating point `" ++ value.write ++ "`"
  | .string value => "string " ++ Unicode.quote value
  | .sequence => "sequence"
  | .map => "map"

/-- The reason for rejecting a document. -/
inductive Cause where
  | endInList
  | endInObject
  | endInString
  | endInValue
  | expectedColon
  | expectedListCommaOrEnd
  | expectedObjectCommaOrEnd
  | expectedWord
  | expectedValue
  | invalidEscape
  | invalidNumber
  | numberOutOfRange
  | controlCharacter
  | keyNotString
  | loneSurrogate
  | endOfEscape
  | trailingComma
  | trailingCharacters
  | tooDeep
  | wrongType (found : Found) (expected : String)
  | wrongValue (found : Found) (expected : String)
  | wrongLength (length : Nat) (expected : String)
  | unknownVariant (name : String) (variants : List String)
  | missingField (key : String)
  | duplicateField (key : String)
deriving DecidableEq, Repr

/-- A name between backticks. -/
def ticked (name : String) : String := "`" ++ name ++ "`"

/-- The admissible names of an enumeration. -/
def describeVariants : List String → String
  | [] => "there are no variants"
  | [one] => "expected " ++ ticked one
  | [one, two] => "expected " ++ ticked one ++ " or " ++ ticked two
  | names => "expected one of " ++ String.intercalate ", " (names.map ticked)

def Cause.message : Cause → String
  | endInList => "EOF while parsing a list"
  | endInObject => "EOF while parsing an object"
  | endInString => "EOF while parsing a string"
  | endInValue => "EOF while parsing a value"
  | expectedColon => "expected `:`"
  | expectedListCommaOrEnd => "expected `,` or `]`"
  | expectedObjectCommaOrEnd => r"expected `,` or `}`"
  | expectedWord => "expected ident"
  | expectedValue => "expected value"
  | invalidEscape => "invalid escape"
  | invalidNumber => "invalid number"
  | numberOutOfRange => "number out of range"
  | controlCharacter =>
    "control character (\\u0000-\\u001F) found while parsing a string"
  | keyNotString => "key must be a string"
  | loneSurrogate => "lone leading surrogate in hex escape"
  | endOfEscape => "unexpected end of hex escape"
  | trailingComma => "trailing comma"
  | trailingCharacters => "trailing characters"
  | tooDeep => "recursion limit exceeded"
  | wrongType found expected =>
    "invalid type: " ++ found.describe ++ ", expected " ++ expected
  | wrongValue found expected =>
    "invalid value: " ++ found.describe ++ ", expected " ++ expected
  | wrongLength length expected =>
    "invalid length " ++ toString length ++ ", expected " ++ expected
  | unknownVariant name variants =>
    "unknown variant " ++ ticked name ++ ", " ++ describeVariants variants
  | missingField key => "missing field " ++ ticked key
  | duplicateField key => "duplicate field " ++ ticked key

/-- A place in a text: lines completed so far, and bytes since the start of
the line. -/
structure Mark where
  line : Nat := 0
  column : Nat := 0
deriving DecidableEq, Repr, Inhabited

/-- A rejected document. A fault that concerns a value as a whole has no mark
until the reader of the enclosing value supplies one. -/
structure Fault where
  cause : Cause
  mark : Option Mark := none
deriving DecidableEq, Repr

/-- The text of a fault; lines count from one. -/
def Fault.message (fault : Fault) : String :=
  match fault.mark with
  | some mark =>
    fault.cause.message ++ " at line " ++ toString (mark.line + 1)
      ++ " column " ++ toString mark.column
  | none => fault.cause.message

end Wireform.Json
