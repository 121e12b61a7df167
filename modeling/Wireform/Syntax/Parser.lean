import Wireform.Syntax.Tree
import Wireform.Syntax.Repair

/-!
# The parser

The syntax tree of a source text.  Only the faults of the source are kept in
it: a source without faults has a tree without children.
-/

namespace Wireform.Syntax

/-- The place after some characters. -/
def Point.after (point : Point) : List Char → Point
  | [] => point
  | c :: rest =>
    after
      (if c = '\n' then ⟨point.row + 1, 0⟩
       else ⟨point.row, point.column + c.utf8Size⟩)
      rest

/-- The place in a source from which some characters are left. -/
def pointAt (source : List Char) (left : Nat) : Point :=
  Point.after {} (source.take (source.length - left))

def Change.tree (source : List Char) (change : Change) : Tree :=
  match change.added with
  | some token => .missing token (pointAt source change.left)
  | none => .error (pointAt source change.left)

/-- The changes that make a source a program.  A source that cannot be
repaired is left out as a whole. -/
def changes (source : List Char) : List Change :=
  match Draft.repaired (source.length + 1) (.ofSource source) with
  | some draft => draft.changes false
  | none => [⟨(Remainder.mk source source.length).gap.text.left, none⟩]

/-- The syntax tree of a source text. -/
def parse (source : String) : Tree :=
  .branch "program" {}
    ((changes source.toList).map (Change.tree source.toList))

end Wireform.Syntax
