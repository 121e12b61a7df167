import Wireform.Binary64

/-!
# JSON values

Values as they stand in a document: numbers without a fraction are kept apart
from the others, and members keep their order and their duplicates.
-/

namespace Wireform

/-- A JSON value. -/
inductive Json where
  | null
  | boolean (value : Bool)
  | integer (value : Int)
  | number (value : Binary64)
  | string (value : String)
  | array (items : List Json)
  | object (members : List (String × Json))

namespace Json

instance : Inhabited Json := ⟨null⟩

def natural (n : Nat) : Json := .integer n

/-- A value that is written as `null` when it is missing. -/
def optional {α : Type} (encode : α → Json) : Option α → Json
  | some value => encode value
  | none => null

/-- A member that is left out when its value is missing. -/
def memberIfSome {α : Type} (key : String) (encode : α → Json) :
    Option α → List (String × Json)
  | some value => [(key, encode value)]
  | none => []

/-- The last member with a key. -/
def lastMember (key : String) : Json → Option Json
  | .object members => members.reverse.lookup key
  | _ => none

def text : Json → Option String
  | .string value => some value
  | _ => none

/-! ## Printing -/

def twoHexDigits (n : Nat) : List Char :=
  [Nat.digitChar (n / 16), Nat.digitChar (n % 16)]

/-- A character within a string literal. -/
def escapeChar (c : Char) : List Char :=
  if c = '"' then ['\\', '"']
  else if c = '\\' then ['\\', '\\']
  else if c = '\x08' then ['\\', 'b']
  else if c = '\x0c' then ['\\', 'f']
  else if c = '\n' then ['\\', 'n']
  else if c = '\r' then ['\\', 'r']
  else if c = '\t' then ['\\', 't']
  else if c.toNat < 0x20 then ['\\', 'u', '0', '0'] ++ twoHexDigits c.toNat
  else [c]

/-- A string literal. -/
def literal (text : String) : String :=
  String.ofList ('"' :: text.toList.flatMap escapeChar ++ ['"'])

mutual

/-- The compact text of a value. -/
def print : Json → String
  | .null => "null"
  | .boolean value => if value then "true" else "false"
  | .integer value => toString value
  | .number value => value.write
  | .string value => literal value
  | .array items => "[" ++ printItems items ++ "]"
  | .object members => r"{" ++ printMembers members ++ r"}"

def printItems : List Json → String
  | [] => ""
  | [item] => print item
  | item :: rest => print item ++ "," ++ printItems rest

/-- The texts of members, with commas between them. -/
def printMembers : List (String × Json) → String
  | [] => ""
  | [(key, value)] => literal key ++ ":" ++ print value
  | (key, value) :: rest =>
    literal key ++ ":" ++ print value ++ "," ++ printMembers rest

end

end Json

end Wireform
