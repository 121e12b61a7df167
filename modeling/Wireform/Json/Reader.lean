import Wireform.Json.Fault

/-!
# Reading text

A reader consumes characters from the front of a text and keeps track of the
place it has reached.  A failed reader stays where it failed, so that the
reader of the enclosing value can still mark the fault.  Places count bytes of
the UTF-8 form.
-/

namespace Wireform.Json

def Mark.past (mark : Mark) (c : Char) : Mark :=
  if c = '\n' then ⟨mark.line + 1, 0⟩
  else ⟨mark.line, mark.column + c.utf8Size⟩

/-- The place after the first byte of a character. -/
def Mark.pastByte (mark : Mark) (c : Char) : Mark :=
  if c = '\n' then ⟨mark.line + 1, 0⟩ else ⟨mark.line, mark.column + 1⟩

/-- The place after the given number of bytes of a text. -/
def Mark.pastBytes (mark : Mark) : Nat → List Char → Mark
  | _, [] => mark
  | count, c :: rest =>
    if count = 0 then mark
    else if c.utf8Size ≤ count then
      (mark.past c).pastBytes (count - c.utf8Size) rest
    else ⟨mark.line, mark.column + count⟩

/-- The rest of a text and the place where it begins. -/
structure Cursor where
  rest : List Char
  mark : Mark := {}
deriving DecidableEq, Repr, Inhabited

/-- A computation that reads a text. -/
abbrev Reader := EStateM Fault Cursor

namespace Reader

variable {α : Type}

def peek : Reader (Option Char) := fun cursor =>
  .ok cursor.rest.head? cursor

def advance : Reader Unit := fun cursor =>
  match cursor.rest with
  | [] => .ok () cursor
  | c :: rest => .ok () ⟨rest, cursor.mark.past c⟩

/-- The number of characters left, which bounds every loop. -/
def remaining : Reader Nat := fun cursor =>
  .ok cursor.rest.length cursor

/-- Fail without a place. -/
def failBare (cause : Cause) : Reader α := fun cursor =>
  .error ⟨cause, none⟩ cursor

/-- Fail at this place. -/
def failHere (cause : Cause) : Reader α := fun cursor =>
  .error ⟨cause, some cursor.mark⟩ cursor

/-- Fail after the first byte of the next character. -/
def failNext (cause : Cause) : Reader α := fun cursor =>
  match cursor.rest with
  | [] => .error ⟨cause, some cursor.mark⟩ cursor
  | c :: _ => .error ⟨cause, some (cursor.mark.pastByte c)⟩ cursor

/-- Give a fault of `reader` that has no place the place where it stopped. -/
def placed (reader : Reader α) : Reader α := fun cursor =>
  match reader cursor with
  | .ok value after => .ok value after
  | .error fault after =>
    .error { fault with mark := some (fault.mark.getD after.mark) } after

/-- Run `last` after `reader` in any case; the first fault counts. -/
def thenAlways (reader : Reader α) (last : Reader Unit) : Reader α :=
  fun cursor =>
    match reader cursor with
    | .ok value after =>
      match last after with
      | .ok () final => .ok value final
      | .error fault final => .error fault final
    | .error fault after =>
      match last after with
      | .ok () final => .error fault final
      | .error _ final => .error fault final

/-! ## White space and words -/

/-- White space between the tokens of a document. -/
def isSpace (c : Char) : Bool :=
  c = ' ' || c = '\n' || c = '\t' || c = '\r'

def skipSpaceFrom : List Char → Mark → Cursor
  | c :: rest, mark =>
    if isSpace c then skipSpaceFrom rest (mark.past c) else ⟨c :: rest, mark⟩
  | [], mark => ⟨[], mark⟩

/-- Go past white space; the character after it. -/
def peekToken : Reader (Option Char) := fun cursor =>
  let after := skipSpaceFrom cursor.rest cursor.mark
  .ok after.rest.head? after

/-- Go past the remaining characters of a word. -/
def word : List Char → Reader Unit
  | [] => pure ()
  | expected :: more => do
    match ← peek with
    | none => failHere .endInValue
    | some c =>
      if c = expected then
        advance
        word more
      else
        failNext .expectedWord

/-! ## Numbers -/

/-- The largest number that is kept as an integer. -/
def maxUnsigned : Nat := 18446744073709551615

/-- The largest exponent that is read exactly. -/
def maxExponent : Nat := 2147483647

def isDigit (c : Char) : Bool := '0' ≤ c && c ≤ '9'

def digitValue (c : Char) : Nat := c.toNat - '0'.toNat

/-- Append digits to a value as long as it stays within a limit: the value and
the number of digits taken. -/
def takeDigits (limit : Nat) : Nat → List Char → Nat × Nat
  | value, c :: rest =>
    if isDigit c && value * 10 + digitValue c ≤ limit then
      let (total, count) := takeDigits limit (value * 10 + digitValue c) rest
      (total, count + 1)
    else (value, 0)
  | value, [] => (value, 0)

def drop (count : Nat) : Reader Unit := fun cursor =>
  .ok () ⟨cursor.rest.drop count, ⟨cursor.mark.line, cursor.mark.column + count⟩⟩

/-- Read digits onto a value within a limit: the value and the number of
digits. -/
def digitsOnto (limit value : Nat) : Reader (Nat × Nat) := do
  let taken := takeDigits limit value (← get).rest
  drop taken.2
  pure taken

/-- Go past all digits; their number. -/
def skipDigits : Reader Nat := do
  let count := ((← get).rest.takeWhile isDigit).length
  drop count
  pure count

def nextIs (condition : Char → Bool) : Reader Bool := do
  pure ((← peek).any condition)

def isExponentMark (c : Char) : Bool := c = 'e' || c = 'E'

/-- A number that is not kept as an integer. -/
def decimal (negative : Bool) (significand : Nat) (exponent : Int) :
    Reader Json :=
  match Binary64.ofDecimal negative significand exponent with
  | some value => pure (.number value)
  | none => failHere .numberOutOfRange

/-- The sign of an exponent: whether it is positive. -/
def exponentSign : Reader Bool := do
  match ← peek with
  | some '+' => advance; pure true
  | some '-' => advance; pure false
  | _ => pure true

/-- Read the exponent of a number whose digits are worth
`significand * 10 ^ start`. -/
def exponentPart (negative : Bool) (significand : Nat) (start : Int) :
    Reader Json := do
  advance
  let positive ← exponentSign
  match ← peek with
  | none => failHere .endInValue
  | some c =>
    if isDigit c then
      let (power, _) ← digitsOnto maxExponent 0
      if ← nextIs isDigit then
        -- The exponent exceeds its limit: the number is huge or rounds to zero.
        if positive && significand ≠ 0 then failNext .numberOutOfRange
        else
          let _ ← skipDigits
          pure (.number ⟨negative, 0⟩)
      else
        decimal negative significand
          (if positive then start + power else start - power)
    else failNext .invalidNumber

/-- Read what follows the digits of a number that is not an integer. -/
def decimalEnd (negative : Bool) (significand : Nat) (exponent : Int) :
    Reader Json := do
  if ← nextIs isExponentMark then exponentPart negative significand exponent
  else decimal negative significand exponent

/-- Read the fraction digits of a number whose integer digits are worth
`significand * 10 ^ start`.  Digits that no longer fit are dropped. -/
def fractionPart (negative : Bool) (significand : Nat) (start : Int) :
    Reader Json := do
  advance
  let (total, count) ← digitsOnto maxUnsigned significand
  if ← nextIs isDigit then
    let _ ← skipDigits
    decimalEnd negative total (start - count)
  else if count = 0 then
    match ← peek with
    | some _ => failNext .invalidNumber
    | none => failHere .endInValue
  else decimalEnd negative total (start - count)

/-- Read the rest of a number with more integer digits than fit. -/
def longInteger (negative : Bool) (significand : Nat) : Reader Json := do
  let count ← skipDigits
  if ← nextIs (· = '.') then fractionPart negative significand count
  else decimalEnd negative significand count

/-- The value of an integer literal.  A negative zero and negative numbers
below the signed range are not kept as integers. -/
def integerValue (negative : Bool) (significand : Nat) : Json :=
  if !negative then .integer significand
  else if significand = 0 || significand > 9223372036854775808 then
    .number ⟨true, Binary64.nearest significand 1⟩
  else .integer (-significand)

/-- Read what follows the integer digits of a number. -/
def integerEnd (negative : Bool) (significand : Nat) : Reader Json := do
  if ← nextIs (· = '.') then fractionPart negative significand 0
  else if ← nextIs isExponentMark then exponentPart negative significand 0
  else pure (integerValue negative significand)

/-- Read a number after its sign. -/
def number (negative : Bool) : Reader Json := do
  match ← peek with
  | none => failHere .endInValue
  | some c =>
    if c = '0' then
      advance
      if ← nextIs isDigit then failNext .invalidNumber
      else integerEnd negative 0
    else if isDigit c then
      let (significand, _) ← digitsOnto maxUnsigned 0
      if ← nextIs isDigit then longInteger negative significand
      else integerEnd negative significand
    else failNext .invalidNumber

/-! ## Strings -/

def hexValue (c : Char) : Option Nat :=
  if isDigit c then some (digitValue c)
  else if 'a' ≤ c && c ≤ 'f' then some (c.toNat - 'a'.toNat + 10)
  else if 'A' ≤ c && c ≤ 'F' then some (c.toNat - 'A'.toNat + 10)
  else none

def hexQuad (a b c d : Char) : Option Nat := do
  let a ← hexValue a
  let b ← hexValue b
  let c ← hexValue c
  let d ← hexValue d
  pure (((a * 16 + b) * 16 + c) * 16 + d)

def byteLength (text : List Char) : Nat :=
  text.foldr (fun c bytes => c.utf8Size + bytes) 0

/-- The fault of a text that does not begin with four hexadecimal digits. -/
def hexFault (rest : List Char) (mark : Mark) : Fault :=
  if byteLength (rest.take 4) < 4 then
    ⟨.endInString, some (mark.pastBytes 4 rest)⟩
  else ⟨.invalidEscape, some (mark.pastBytes 4 rest)⟩

/-- The fault of a text in which the second half of a surrogate pair should
begin with the given characters. -/
def pairFault : List Char → List Char → Mark → Fault
  | expected :: more, c :: rest, mark =>
    if c = expected then pairFault more rest (mark.past c)
    else ⟨.endOfEscape, some (mark.pastByte c)⟩
  | _ :: _, [], mark => ⟨.endInString, some mark⟩
  | [], rest, mark => hexFault rest mark

/-- Whether a code unit is the first half of a surrogate pair. -/
def isLeading (unit : Nat) : Bool := 0xD800 ≤ unit && unit ≤ 0xDBFF

/-- Whether a code unit is the second half of a surrogate pair. -/
def isTrailing (unit : Nat) : Bool := 0xDC00 ≤ unit && unit ≤ 0xDFFF

def pairChar (leading trailing : Nat) : Char :=
  Char.ofNat (0x10000 + (leading - 0xD800) * 0x400 + (trailing - 0xDC00))

/-- The character that a backslash and the given character stand for. -/
def shortEscape (c : Char) : Option Char :=
  if c = '"' || c = '\\' || c = '/' then some c
  else if c = 'b' then some '\x08'
  else if c = 'f' then some '\x0c'
  else if c = 'n' then some '\n'
  else if c = 'r' then some '\r'
  else if c = 't' then some '\t'
  else none

/-- Read the characters of a string literal up to its closing quote; `seen`
holds the characters read so far, last one first. -/
def stringFrom (seen : List Char) :
    List Char → Mark → EStateM.Result Fault Cursor String
  | [], mark => .error ⟨.endInString, some mark⟩ ⟨[], mark⟩
  | '"' :: rest, mark => .ok (String.ofList seen.reverse) ⟨rest, mark.past '"'⟩
  | ['\\'], mark =>
    .error ⟨.endInString, some (mark.past '\\')⟩ ⟨[], mark.past '\\'⟩
  | '\\' :: 'u' :: a :: b :: c :: d :: rest, mark =>
    let start := mark.pastBytes 2 ['\\', 'u']
    match hexQuad a b c d with
    | none =>
      .error (hexFault (a :: b :: c :: d :: rest) start) ⟨rest, start⟩
    | some unit =>
      let after := start.pastBytes 4 [a, b, c, d]
      if isTrailing unit then
        .error ⟨.loneSurrogate, some after⟩ ⟨rest, after⟩
      else if isLeading unit then
        match rest with
        | '\\' :: 'u' :: e :: f :: g :: h :: rest =>
          let second := after.pastBytes 2 ['\\', 'u']
          match hexQuad e f g h with
          | none =>
            .error (hexFault (e :: f :: g :: h :: rest) second) ⟨rest, second⟩
          | some trailing =>
            let final := second.pastBytes 4 [e, f, g, h]
            if isTrailing trailing then
              stringFrom (pairChar unit trailing :: seen) rest final
            else .error ⟨.loneSurrogate, some final⟩ ⟨rest, final⟩
        | rest => .error (pairFault ['\\', 'u'] rest after) ⟨rest, after⟩
      else stringFrom (Char.ofNat unit :: seen) rest after
  | '\\' :: 'u' :: rest, mark =>
    let start := mark.pastBytes 2 ['\\', 'u']
    .error (hexFault rest start) ⟨rest, start⟩
  | '\\' :: c :: rest, mark =>
    let after := mark.past '\\'
    match shortEscape c with
    | some escaped => stringFrom (escaped :: seen) rest (after.past c)
    | none => .error ⟨.invalidEscape, some (after.pastByte c)⟩ ⟨rest, after.past c⟩
  | c :: rest, mark =>
    if c.toNat < 0x20 then
      .error ⟨.controlCharacter, some (mark.past c)⟩ ⟨rest, mark.past c⟩
    else stringFrom (c :: seen) rest (mark.past c)

def stringBody : Reader String := fun cursor =>
  stringFrom [] cursor.rest cursor.mark

/-- Go past the characters of a string literal whose value is not needed.
Escapes are only checked for their form. -/
def skipStringFrom : List Char → Mark → EStateM.Result Fault Cursor Unit
  | [], mark => .error ⟨.endInString, some mark⟩ ⟨[], mark⟩
  | '"' :: rest, mark => .ok () ⟨rest, mark.past '"'⟩
  | ['\\'], mark =>
    .error ⟨.endInString, some (mark.past '\\')⟩ ⟨[], mark.past '\\'⟩
  | '\\' :: 'u' :: a :: b :: c :: d :: rest, mark =>
    let start := mark.pastBytes 2 ['\\', 'u']
    match hexQuad a b c d with
    | none =>
      .error (hexFault (a :: b :: c :: d :: rest) start) ⟨rest, start⟩
    | some _ => skipStringFrom rest (start.pastBytes 4 [a, b, c, d])
  | '\\' :: 'u' :: rest, mark =>
    let start := mark.pastBytes 2 ['\\', 'u']
    .error (hexFault rest start) ⟨rest, start⟩
  | '\\' :: c :: rest, mark =>
    let after := mark.past '\\'
    if (shortEscape c).isSome then skipStringFrom rest (after.past c)
    else .error ⟨.invalidEscape, some (after.pastByte c)⟩ ⟨rest, after.past c⟩
  | c :: rest, mark =>
    if c.toNat < 0x20 then
      .error ⟨.controlCharacter, some mark⟩ ⟨c :: rest, mark⟩
    else skipStringFrom rest (mark.past c)

def skipStringBody : Reader Unit := fun cursor =>
  skipStringFrom cursor.rest cursor.mark

end Reader

end Wireform.Json
