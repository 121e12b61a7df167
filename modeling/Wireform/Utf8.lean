/-!
# UTF-8

Decoding of byte strings as text, with the place and the kind of the first
fault.  The number of faulty bytes is known unless the text ends within a
character.
-/

namespace Wireform.Utf8

/-- The first fault of a byte string: the bytes before it that are well formed,
and the number of bytes that are not, unless more bytes could mend it. -/
structure Fault where
  validUpTo : Nat
  faulty : Option Nat
deriving DecidableEq, Repr

/-- Whether a byte continues a character. -/
def continues (byte : UInt8) : Bool := 0x80 ≤ byte && byte ≤ 0xBF

/-- The bounds of the second byte of a character with several bytes. -/
def secondBounds (first : UInt8) : UInt8 × UInt8 :=
  if first = 0xE0 then (0xA0, 0xBF)
  else if first = 0xED then (0x80, 0x9F)
  else if first = 0xF0 then (0x90, 0xBF)
  else if first = 0xF4 then (0x80, 0x8F)
  else (0x80, 0xBF)

/-- Whether a byte may follow the first byte of a character. -/
def isSecond (first second : UInt8) : Bool :=
  let (low, high) := secondBounds first
  low ≤ second && second ≤ high

/-- The number of bytes of a character with the given first byte, zero when no
character begins so. -/
def width (first : UInt8) : Nat :=
  if first < 0x80 then 1
  else if first < 0xC2 then 0
  else if first < 0xE0 then 2
  else if first < 0xF0 then 3
  else if first < 0xF5 then 4
  else 0

/-- Append the payload of a continuation byte. -/
def extend (code : Nat) (byte : UInt8) : Nat := code * 64 + byte.toNat % 64

/-- Append the text of a byte string to `seen`, last character first; `offset`
counts the bytes before. -/
def decodeFrom (seen : List Char) (offset : Nat) :
    List UInt8 → Except Fault (List Char)
  | [] => .ok seen.reverse
  | a :: rest =>
    match width a, rest with
    | 1, rest => decodeFrom (Char.ofNat a.toNat :: seen) (offset + 1) rest
    | 0, _ => .error ⟨offset, some 1⟩
    | _, [] => .error ⟨offset, none⟩
    | 2, b :: rest =>
      if isSecond a b then
        decodeFrom (Char.ofNat (extend (a.toNat % 32) b) :: seen) (offset + 2) rest
      else .error ⟨offset, some 1⟩
    | 3, b :: rest =>
      if !isSecond a b then .error ⟨offset, some 1⟩
      else
        match rest with
        | [] => .error ⟨offset, none⟩
        | c :: rest =>
          if continues c then
            decodeFrom (Char.ofNat (extend (extend (a.toNat % 16) b) c) :: seen)
              (offset + 3) rest
          else .error ⟨offset, some 2⟩
    | _, b :: rest =>
      if !isSecond a b then .error ⟨offset, some 1⟩
      else
        match rest with
        | [] => .error ⟨offset, none⟩
        | [c] =>
          if continues c then .error ⟨offset, none⟩ else .error ⟨offset, some 2⟩
        | c :: d :: rest =>
          if !continues c then .error ⟨offset, some 2⟩
          else if !continues d then .error ⟨offset, some 3⟩
          else
            decodeFrom
              (Char.ofNat (extend (extend (extend (a.toNat % 8) b) c) d) :: seen)
              (offset + 4) rest

def decode (bytes : List UInt8) : Except Fault String :=
  (decodeFrom [] 0 bytes).map String.ofList

def encode (text : String) : List UInt8 :=
  text.toList.flatMap String.utf8EncodeChar

end Wireform.Utf8
