import Wireform.Unicode.Casing
import Wireform.Unicode.LetterTables

/-!
# Character classes

White space, letters and digits, and the white space of script source text,
which differs from the former in two characters.
-/

namespace Wireform.Unicode

/-- Inclusive ranges of the white space characters. -/
def whiteSpaceRanges : List (Nat × Nat) :=
  [(0x9, 0xD), (0x20, 0x20), (0x85, 0x85), (0xA0, 0xA0), (0x1680, 0x1680),
   (0x2000, 0x200A), (0x2028, 0x2029), (0x202F, 0x202F), (0x205F, 0x205F),
   (0x3000, 0x3000)]

def isWhiteSpace (c : Char) : Bool :=
  inRanges whiteSpaceRanges c

/-- The white space of script source text: the next-line control is not part
of it, the byte order mark is. -/
def isScriptSpace (c : Char) : Bool :=
  if c = '\u0085' then false
  else if c = '\uFEFF' then true
  else isWhiteSpace c

/-- Letters and digits of any script. -/
def isAlphanumeric (c : Char) : Bool :=
  inRanges alphanumericRanges c

end Wireform.Unicode
