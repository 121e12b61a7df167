import Wireform.Syntax.Types

/-!
# The grammar of patterns

The targets that a value is taken apart into: names, places in objects, and
patterns of objects and arrays.  Parameters are patterns with types.
-/

namespace Wireform.Syntax.Grammar

open Reader

variable (self : Grammar)

/-- Read a pattern with an optional default. -/
def element : Reader Unit := do
  self.unit .pattern
  option self.initializer

def arrayPattern : Reader Unit := joined <|
  enclosed "[" (sparse self.element) "]"

/-- Read a member of a pattern of an object. -/
def patternMember : Reader Unit := joined <| choice
  [do
    symbol "..."
    self.unit .pattern,
   do
    self.propertyName
    symbol ":"
    self.element,
   do
    word
    option self.initializer]

def objectPattern : Reader Unit := joined <|
  enclosed r"{" (sparse self.patternMember) r"}"

/-- Read a pattern that takes a value apart. -/
def destructuring : Reader Unit :=
  self.arrayPattern <|> self.objectPattern

/-- Read what a declaration can bind: a name or a pattern. -/
def binder : Reader Unit :=
  self.destructuring <|> word

def decorator : Reader Unit := joined do
  symbol "@"
  choice
    [enclosed "(" (self.value .expressions) ")",
     path word]
  option self.typeArguments
  option (enclosed "(" (sparse (self.value .expression)) ")")

/-- Read the place that a parameter is bound to. -/
def parameterPlace : Reader Unit := do
  option (symbol "...")
  self.destructuring <|> path word

def parameter : Reader Unit := joined do
  many self.decorator
  many do
    keywords ["public", "private", "protected", "override", "readonly"]
    unlessBefore [",", ")", ":", "?", "=", "."]
  self.parameterPlace
  option (symbol "?")
  option self.annotation
  option self.initializer

def parameters : Reader Unit := joined <|
  enclosed "(" (commaList self.parameter) ")"

end Wireform.Syntax.Grammar
