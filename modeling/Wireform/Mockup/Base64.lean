/-!
# Base64

The padded standard form, read strictly: every text that decodes is the one
that encoding its bytes gives.  Faults carry the place where they were noticed.
-/

namespace Wireform.Base64

/-- The reason why a text is not an encoding. -/
inductive Fault where
  | badSymbol (offset : Nat) (symbol : UInt8)
  | badLength (length : Nat)
  | badLastSymbol (offset : Nat) (symbol : UInt8)
  | badPadding
deriving DecidableEq, Repr

def Fault.message : Fault → String
  | badSymbol offset symbol =>
    "Invalid symbol " ++ toString symbol.toNat ++ ", offset " ++ toString offset ++ "."
  | badLength length => "Invalid input length: " ++ toString length
  | badLastSymbol offset symbol =>
    "Invalid last symbol " ++ toString symbol.toNat ++ ", offset "
      ++ toString offset ++ "."
  | badPadding => "Invalid padding"

/-- The byte that fills up the last group. -/
def pad : UInt8 := 61

/-- The symbol of a six-bit value. -/
def symbol (value : Nat) : UInt8 :=
  UInt8.ofNat <|
    if value < 26 then value + 65
    else if value < 52 then value + 71
    else if value < 62 then value - 4
    else if value = 62 then 43
    else 47

/-- The six-bit value of a symbol. -/
def value? (symbol : UInt8) : Option Nat :=
  let code := symbol.toNat
  if 65 ≤ code ∧ code ≤ 90 then some (code - 65)
  else if 97 ≤ code ∧ code ≤ 122 then some (code - 71)
  else if 48 ≤ code ∧ code ≤ 57 then some (code + 4)
  else if code = 43 then some 62
  else if code = 47 then some 63
  else none

/-- The length of the encoding of a number of bytes. -/
def encodedLength (count : Nat) : Nat := (count + 2) / 3 * 4

/-- The length of the encoding of a number of bytes, if a machine word can hold it. -/
def encodedLength? (count : Nat) : Option Nat :=
  if encodedLength count < USize.size then some (encodedLength count) else none

def encode : List UInt8 → List UInt8
  | [] => []
  | [a] =>
    [symbol (a.toNat / 4), symbol (a.toNat % 4 * 16), pad, pad]
  | [a, b] =>
    [symbol (a.toNat / 4), symbol (a.toNat % 4 * 16 + b.toNat / 16),
     symbol (b.toNat % 16 * 4), pad]
  | a :: b :: c :: rest =>
    symbol (a.toNat / 4) :: symbol (a.toNat % 4 * 16 + b.toNat / 16)
      :: symbol (b.toNat % 16 * 4 + c.toNat / 64) :: symbol (c.toNat % 64)
      :: encode rest

/-- The values of symbols that begin at an offset. -/
def values (offset : Nat) : List UInt8 → Except Fault (List Nat)
  | [] => .ok []
  | s :: rest =>
    match value? s with
    | some value => (values (offset + 1) rest).map (value :: ·)
    | none => .error (.badSymbol offset s)

def quad (a b c d : Nat) : List UInt8 :=
  [UInt8.ofNat (a * 4 + b / 16), UInt8.ofNat (b % 16 * 16 + c / 4),
   UInt8.ofNat (c % 4 * 64 + d)]

/-- The bytes of a last group of values; unused bits must be zero. -/
def lastBytes (offset : Nat) (symbols : List UInt8) :
    List Nat → Except Fault (List UInt8)
  | [a, b] =>
    if b % 16 = 0 then .ok ((quad a b 0 0).take 1)
    else .error (.badLastSymbol (offset + 1) (symbols.getLastD 0))
  | [a, b, c] =>
    if c % 4 = 0 then .ok ((quad a b c 0).take 2)
    else .error (.badLastSymbol (offset + 2) (symbols.getLastD 0))
  | [a, b, c, d] => .ok (quad a b c d)
  | _ => .ok []

/-- Decode the last group, of at most four bytes, which begins at an offset. -/
def decodeLast (offset : Nat) (group : List UInt8) :
    Except Fault (List UInt8) := do
  let symbols := group.takeWhile (· ≠ pad)
  let padding := group.dropWhile (· ≠ pad)
  let digits ← values offset symbols
  if !padding.isEmpty && (symbols.length < 2 || padding.any (· ≠ pad)) then
    .error (.badSymbol (offset + symbols.length) pad)
  else if !group.isEmpty && symbols.length < 2 then
    .error (.badLength (offset + symbols.length))
  else if group.length % 4 ≠ 0 then .error .badPadding
  else lastBytes offset symbols digits

/-- Decode symbols from an offset on; `seen` holds the bytes before, last one
first. -/
def decodeFrom (seen : List UInt8) (offset : Nat) :
    List UInt8 → Except Fault (List UInt8)
  | a :: b :: c :: d :: e :: rest => do
    match ← values offset [a, b, c, d] with
    | [a, b, c, d] =>
      decodeFrom ((quad a b c d).reverse ++ seen) (offset + 4) (e :: rest)
    | _ => .error .badPadding
  | group => do
    return seen.reverse ++ (← decodeLast offset group)

/-- The fault of a symbol that is one too many, if it is no symbol at all. -/
def strayEnd (text : List UInt8) : Option Fault :=
  match text.getLast? with
  | some s =>
    if text.length % 4 = 1 && s ≠ pad && (value? s).isNone then
      some (.badSymbol (text.length - 1) s)
    else none
  | none => none

/-- The bytes that a text encodes. -/
def decode (text : List UInt8) : Except Fault (List UInt8) :=
  match strayEnd text with
  | some fault => .error fault
  | none => decodeFrom [] 0 text

end Wireform.Base64
