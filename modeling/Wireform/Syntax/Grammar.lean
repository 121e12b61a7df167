import Wireform.Syntax.Statements

/-!
# The grammar of components

The readers of all goals, closed up by the depth of nesting, and the question
whether a source text is a program.
-/

namespace Wireform.Syntax

open Reader

namespace Grammar

/-- Readers that nest one goal deeper. -/
def deeper (self : Grammar) : Grammar
  | .statement => do self.statement; pure Shape.plain
  | .block => do self.block; pure Shape.plain
  | .classBody => do self.classBody; pure Shape.plain
  | .parameters => do self.parameters; pure Shape.plain
  | .expressions => self.expressions
  | .expression => self.expression true
  | .untypedExpression => self.expression false
  | .superclass => self.called true false
  | .pattern => do self.pattern; pure Shape.place
  | .type => do self.type; pure Shape.plain
  | .element => do self.markup; pure Shape.plain

/-- Readers for all goals that are nested at most `depth` deep. -/
def nested : Nat → Grammar
  | 0 => fun _ => fail
  | depth + 1 => (nested depth).deeper

def program (self : Grammar) : Reader Unit := do
  option interpreterLine
  listed (self.unit .statement)
  check (·.rest.isEmpty)

end Grammar

/-- Read a source text, which may have been repaired. -/
def read (source : List Char) (joint : Option Joint) : Outcome Unit :=
  (Grammar.nested (4 * source.length + 16)).program (State.start source joint)

/-- The token of a source text that cannot be used, if there is one. -/
def obstacle (source : List Char) : Option Front :=
  match read source none with
  | .done _ _ => none
  | .stuck front => some front

end Wireform.Syntax
