import Wireform.Json.Reader

/-!
# Skipping values

Going past the value of a member that nobody asked for.  Skipping keeps its own
stack of open brackets, so nesting has no limit, and checks only the form of
numbers and escapes.
-/

namespace Wireform.Json.Reader

/-- An open bracket. -/
inductive Bracket where
  | list
  | object
deriving DecidableEq, Repr

def Bracket.closing : Bracket → Char
  | list => ']'
  | object => '}'

/-- The fault of a text that ends within a bracket. -/
def Bracket.atEnd : Bracket → Cause
  | list => .endInList
  | object => .endInObject

/-- The fault of items without a comma between them. -/
def Bracket.noComma : Bracket → Cause
  | list => .expectedListCommaOrEnd
  | object => .expectedObjectCommaOrEnd

/-- Go past the digits that must follow. -/
def skipSomeDigits : Reader Unit := do
  if ← nextIs isDigit then
    let _ ← skipDigits
  else
    match ← peek with
    | some _ => failNext .invalidNumber
    | none => failHere .invalidNumber

def skipExponent : Reader Unit := do
  advance
  let _ ← exponentSign
  skipSomeDigits

/-- Go past a fraction and an exponent, as far as there are any. -/
def skipNumberEnd : Reader Unit := do
  if ← nextIs (· = '.') then
    advance
    skipSomeDigits
    if ← nextIs isExponentMark then skipExponent
  else if ← nextIs isExponentMark then skipExponent

/-- Go past a number after its sign. -/
def skipNumber : Reader Unit := do
  if ← nextIs (· = '0') then
    advance
    if ← nextIs isDigit then failNext .invalidNumber
    else skipNumberEnd
  else
    skipSomeDigits
    skipNumberEnd

/-- Go past a value that is not a list or an object, or past an opening
bracket, which is returned. -/
def skipStart : Reader (Option Bracket) := do
  match ← peekToken with
  | none => failHere .endInValue
  | some c =>
    if c = 'n' then advance; word "ull".toList; pure none
    else if c = 't' then advance; word "rue".toList; pure none
    else if c = 'f' then advance; word "alse".toList; pure none
    else if c = '-' then advance; skipNumber; pure none
    else if isDigit c then skipNumber; pure none
    else if c = '"' then advance; skipStringBody; pure none
    else if c = '[' then advance; pure (some .list)
    else if c = '{' then advance; pure (some .object)
    else failNext .expectedValue

/-- Go past closing brackets up to the next item: the brackets that are open
there, none when the whole value has ended.  `afterItem` tells whether an item
has just ended. -/
def skipClosing : Nat → Bool → Bracket → List Bracket → Reader (List Bracket)
  | 0, _, inner, _ => failHere inner.atEnd
  | fuel + 1, afterItem, inner, outer => do
    match ← peekToken with
    | none => failHere inner.atEnd
    | some c =>
      if c = ',' && afterItem then
        advance
        pure (inner :: outer)
      else if c = inner.closing then
        advance
        match outer with
        | [] => pure []
        | next :: rest => skipClosing fuel true next rest
      else if afterItem then failNext inner.noComma
      else pure (inner :: outer)

def skipKey : Reader Unit := do
  match ← peekToken with
  | none => failHere .endInObject
  | some c =>
    if c = '"' then
      advance
      skipStringBody
      match ← peekToken with
      | none => failHere .endInObject
      | some c => if c = ':' then advance else failNext .expectedColon
    else failNext .keyNotString

/-- Go past one value and the rest of the given open brackets. -/
def skipWithin : Nat → List Bracket → Reader Unit
  | 0, _ => failHere .endInValue
  | fuel + 1, open_ => do
    let opened ← skipStart
    let remaining ←
      match opened, open_ with
      | some bracket, outer => skipClosing (fuel + 1) false bracket outer
      | none, [] => pure []
      | none, inner :: outer => skipClosing (fuel + 1) true inner outer
    match remaining with
    | [] => pure ()
    | .list :: outer => skipWithin fuel (.list :: outer)
    | .object :: outer =>
      skipKey
      skipWithin fuel (.object :: outer)

def skipValue : Reader Unit := do
  skipWithin ((← remaining) + 1) []

end Wireform.Json.Reader
