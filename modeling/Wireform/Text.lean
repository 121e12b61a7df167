import Wireform.Unicode.Classes

/-!
# Text

Small operations on texts that several parts of the library share.
-/

namespace Wireform.Text

open Wireform.Unicode

/-- Apply a function to the characters of a text. -/
def onChars (f : List Char → List Char) (text : String) : String :=
  String.ofList (f text.toList)

def isBlank (text : String) : Bool :=
  text.toList.all isWhiteSpace

/-- Characters without white space at either end. -/
def trimChars (text : List Char) : List Char :=
  ((text.dropWhile isWhiteSpace).reverse.dropWhile isWhiteSpace).reverse

def trim (text : String) : String :=
  onChars trimChars text

def lowercase (text : String) : String :=
  onChars Unicode.lowercase text

/-- The value of an attribute, counting the empty text as missing. -/
def nonEmpty (value : Option String) : Option String :=
  value.filter (· ≠ "")

/-- Lines, each closed by a line feed. -/
def unlines (lines : List String) : String :=
  String.join (lines.map (· ++ "\n"))

end Wireform.Text
