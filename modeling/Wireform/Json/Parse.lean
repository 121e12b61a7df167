import Wireform.Json.Skip

/-!
# Reading values

The reader of whole values, whatever their form.  Lists and objects may be
nested to a fixed depth.
-/

namespace Wireform.Json

namespace Reader

variable {α : Type}

/-- The number of lists and objects that may be open at once, plus one. -/
def maxDepth : Nat := 128

/-- Read the inside of a bracket, at one level less. -/
def nested (depth : Nat) (inside : Nat → Reader α) : Reader α :=
  match depth with
  | 0 | 1 => failNext .tooDeep
  | below + 1 => inside below

/-- Whether another item of a list follows; goes past the comma before it. -/
def hasItem (isFirst : Bool) : Reader Bool := do
  match ← peekToken with
  | none => failHere .endInList
  | some c =>
    if c = ']' then pure false
    else if isFirst then pure true
    else if c = ',' then
      advance
      match ← peekToken with
      | none => failHere .endInValue
      | some c => if c = ']' then failNext .trailingComma else pure true
    else failNext .expectedListCommaOrEnd

def listEnd : Reader Unit := do
  match ← peekToken with
  | none => failHere .endInList
  | some c =>
    if c = ']' then advance
    else if c = ',' then
      advance
      match ← peekToken with
      | some c =>
        if c = ']' then failNext .trailingComma else failNext .trailingCharacters
      | none => failHere .trailingCharacters
    else failNext .trailingCharacters

/-- Whether another member of an object follows; goes past the comma before
it. -/
def hasMember (isFirst : Bool) : Reader Bool := do
  match ← peekToken with
  | none => failHere .endInObject
  | some c =>
    if c = '}' then pure false
    else if isFirst then
      if c = '"' then pure true else failNext .keyNotString
    else if c = ',' then
      advance
      match ← peekToken with
      | none => failHere .endInValue
      | some c =>
        if c = '"' then pure true
        else if c = '}' then failNext .trailingComma
        else failNext .keyNotString
    else failNext .expectedObjectCommaOrEnd

def objectEnd : Reader Unit := do
  match ← peekToken with
  | none => failHere .endInObject
  | some c =>
    if c = '}' then advance
    else if c = ',' then failNext .trailingComma
    else failNext .trailingCharacters

def key : Reader String := do
  advance
  stringBody

def colon : Reader Unit := do
  match ← peekToken with
  | none => failHere .endInObject
  | some c => if c = ':' then advance else failNext .expectedColon

/-- Read the items of a list up to its end. -/
def itemsFrom (item : Reader α) : Nat → Bool → Reader (List α)
  | 0, _ => failHere .endInList
  | fuel + 1, isFirst => do
    if ← hasItem isFirst then
      let first ← item
      let rest ← itemsFrom item fuel false
      pure (first :: rest)
    else pure []

def items (item : Reader α) : Reader (List α) := do
  itemsFrom item ((← remaining) + 1) true

/-- Read the members of an object up to its end. -/
def membersFrom (value : Reader α) : Nat → Bool → Reader (List (String × α))
  | 0, _ => failHere .endInObject
  | fuel + 1, isFirst => do
    if ← hasMember isFirst then
      let name ← key
      colon
      let first ← value
      let rest ← membersFrom value fuel false
      pure ((name, first) :: rest)
    else pure []

def members (value : Reader α) : Reader (List (String × α)) := do
  membersFrom value ((← remaining) + 1) true

/-- Read a value that is not a list or an object and begins with the given
character. -/
def scalar (c : Char) : Reader Json := do
  if c = 'n' then advance; word "ull".toList; pure .null
  else if c = 't' then advance; word "rue".toList; pure (.boolean true)
  else if c = 'f' then advance; word "alse".toList; pure (.boolean false)
  else if c = '-' then advance; number true
  else if isDigit c then number false
  else if c = '"' then advance; return .string (← stringBody)
  else failNext .expectedValue

/-- Read a value of any form. -/
def value : Nat → Reader Json
  | 0 => failNext .tooDeep
  | below + 1 => do
    match ← peekToken with
    | none => failHere .endInValue
    | some c =>
      if c = '[' then
        if below = 0 then failNext .tooDeep
        else
          advance
          return .array (← thenAlways (items (value below)) listEnd)
      else if c = '{' then
        if below = 0 then failNext .tooDeep
        else
          advance
          return .object (← thenAlways (members (value below)) objectEnd)
      else scalar c

/-- Check that nothing but white space is left. -/
def finish : Reader Unit := do
  match ← peekToken with
  | some _ => failNext .trailingCharacters
  | none => pure ()

/-- Run a reader on a whole text. -/
def readWhole (reader : Reader α) (text : String) : Except Fault α :=
  let whole : Reader α := do
    let value ← reader
    finish
    pure value
  match whole ⟨text.toList, {}⟩ with
  | .ok value _ => .ok value
  | .error fault _ => .error fault

end Reader

/-- The value that a text stands for. -/
def parse (text : String) : Except Fault Json :=
  Reader.readWhole (Reader.value Reader.maxDepth) text

end Wireform.Json
