import Wireform.Unicode.Casing
import Wireform.Unicode.HiddenTables

/-!
# Quoted text

A text between double quotes in which every character is visible, as error
messages show it.
-/

namespace Wireform.Unicode

/-- One character within double quotes. -/
def quoteChar (c : Char) : List Char :=
  if c = '\x00' then ['\\', '0']
  else if c = '\t' then ['\\', 't']
  else if c = '\r' then ['\\', 'r']
  else if c = '\n' then ['\\', 'n']
  else if c = '\\' || c = '"' then ['\\', c]
  else if inRanges hiddenRanges c then
    ['\\', 'u', '{'] ++ Nat.toDigits 16 c.toNat ++ ['}']
  else [c]

/-- A text within double quotes. -/
def quote (text : String) : String :=
  String.ofList ('"' :: text.toList.flatMap quoteChar ++ ['"'])

end Wireform.Unicode
