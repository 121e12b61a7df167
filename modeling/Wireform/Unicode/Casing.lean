import Wireform.Unicode.CaseTables
import Wireform.Unicode.ContextTables

/-!
# Case mapping

Full lower case of a text and full upper case of a character.  Only one rule
of lower case looks at the context: a capital sigma becomes a final sigma when
it ends a word.
-/

namespace Wireform.Unicode

/-- Whether a character lies in one of the inclusive ranges. -/
def inRanges (ranges : List (Nat × Nat)) (c : Char) : Bool :=
  ranges.any fun (first, last) => first ≤ c.toNat && c.toNat ≤ last

/-- The image of a code point under a run, if the run covers it. -/
def CaseRun.apply (run : CaseRun) (code : Nat) : Option Nat :=
  if run.first ≤ code && code ≤ run.last && (code - run.first) % run.step == 0 then
    some (run.image + (code - run.first))
  else
    none

/-- The image of a character under a mapping given by runs and expansions. -/
def mapCase (runs : List CaseRun) (expansions : List (Nat × List Nat))
    (c : Char) : List Char :=
  match runs.findSome? (·.apply c.toNat) with
  | some image => [Char.ofNat image]
  | none =>
    match expansions.lookup c.toNat with
    | some images => images.map Char.ofNat
    | none => [c]

def lowerChar (c : Char) : List Char :=
  mapCase lowerRuns lowerExpansions c

def upperChar (c : Char) : List Char :=
  mapCase upperRuns upperExpansions c

/-- Whether the first character that is not case-ignorable is cased. -/
def startsCased (text : List Char) : Bool :=
  match text.dropWhile (inRanges caseIgnorableRanges) with
  | [] => false
  | c :: _ => inRanges casedRanges c

def capitalSigma : Char := 'Σ'

/-- The lower case of a capital sigma between `before`, nearest character
first, and `after`: final when a word ends here. -/
def lowerSigma (before after : List Char) : Char :=
  if startsCased before && !startsCased after then 'ς' else 'σ'

/-- Lower case of a text that follows `before`, nearest character first. -/
def lowerAfter (before : List Char) : List Char → List Char
  | [] => []
  | c :: rest =>
    (if c = capitalSigma then [lowerSigma before rest] else lowerChar c)
      ++ lowerAfter (c :: before) rest

def lowercase (text : List Char) : List Char :=
  lowerAfter [] text

end Wireform.Unicode
