import Wireform.Syntax.Lexeme

/-!
# Goals

The kinds of text that contain one another.  A grammar reads each goal; the
readers of this folder are written against a grammar for the parts inside, so
that the whole grammar is closed up once, by the depth of nesting.
-/

namespace Wireform.Syntax

/-- What can be read as a whole. -/
inductive Goal where
  | statement
  | block
  | classBody
  | parameters
  | expressions
  | expression
  /-- An expression in which no arrow function has a result type. -/
  | untypedExpression
  /-- An operand that no type arguments end. -/
  | superclass
  | pattern
  | type
  /-- A markup element, without the space after it. -/
  | element
deriving DecidableEq, Repr

/-- What an expression that has been read can serve as.  A text such as
`[a, b]` is read once, before the text after it decides. -/
structure Shape where
  value : Bool := true
  /-- The target of an assignment. -/
  target : Bool := false
  /-- An element of a pattern: a target, or a target and its default. -/
  binding : Bool := false
deriving DecidableEq, Repr, Inhabited

namespace Shape

/-- What is a value only. -/
def plain : Shape := {}

/-- What is a value and a target. -/
def place : Shape := { target := true, binding := true }

end Shape

/-- Readers for all goals. -/
abbrev Grammar := Goal → Reader Shape

namespace Reader

/-- Read a punctuation mark and nothing that follows it. -/
def rawSymbol (symbol : String) : Reader Unit :=
  rawToken (pastSymbol symbol)

def symbol (symbol : String) : Reader Unit :=
  token (pastSymbol symbol)

def keyword (word : String) : Reader Unit :=
  token (pastKeyword word)

def keywords (words : List String) : Reader Unit :=
  choice (words.map keyword)

def word : Reader Unit :=
  token pastWord

def unlessAt (words : List String) : Reader Unit :=
  check fun state => !words.any state.isAt

def unlessBefore (symbols : List String) : Reader Unit :=
  check fun state => !symbols.any state.isBefore

/-- The words that a statement of their own begins with. -/
def statementKeywords : List String :=
  ["if", "switch", "for", "while", "do", "try", "with", "break", "continue",
   "return", "throw", "debugger", "var", "const", "enum", "interface",
   "abstract"]

/-- Refuse an opening brace with such a word after it. -/
def unlessStatement : Reader Unit := check fun state =>
  match state.rest with
  | '{' :: _ =>
    let after := (state.text.drop 1).gap.text
    !statementKeywords.any fun word => (pastKeyword word after).isSome
  | _ => true

/-- Refuse the next token unless it is on the line of the last one. -/
def sameLine : Reader Unit :=
  check fun state => !state.newline

def nameExcept (words : List String) : Reader Unit := do
  unlessAt words
  word

/-- Read the end of a list of types, which more of the same mark may
follow. -/
def closeAngle : Reader Unit :=
  token (·.pastText ['>'])

def privateName : Reader Unit :=
  token fun text => (text.pastText ['#']).bind pastWord

def number : Reader Unit :=
  token pastNumber

def quoted (quote : Char) : Reader Unit := joined do
  rawToken (·.pastText [quote])
  many (absorbed (run (pastFragment quote) <|> rawToken pastEscape))
  settle
  token (·.pastText [quote])

def string : Reader Unit :=
  quoted '"' <|> quoted '\''

/-- Read `reader` between two punctuation marks. -/
def enclosed (opening : String) (reader : Reader Unit) (closing : String) :
    Reader Unit := do
  symbol opening
  reader
  symbol closing

/-- Read any number of items with commas between them; any of them may be
missing. -/
def sparse (item : Reader Unit) : Reader Unit := do
  option item
  many do
    symbol ","
    option item

/-- Read any number of items with commas between them, and perhaps one comma
more. -/
def commaList (item : Reader Unit) : Reader Unit :=
  option do
    separated (symbol ",") item
    option (symbol ",")

/-- Read the text of a template, whose holes the reader `hole` reads. -/
def template (hole : Reader Unit) : Reader Unit := joined do
  rawToken (·.pastText ['`'])
  many <| absorbed <| choice
    [run fun text => pastTemplateText text.left text,
     rawToken pastEscape,
     do
      token (·.pastText ['$', '{'])
      hole
      rawSymbol r"}"]
  token (·.pastText ['`'])

end Reader

/-! ## The ends of statements -/

namespace State

/-- Whether a closing brace and then a colon come next. -/
def closesTyped (rest : List Char) : Bool :=
  match rest with
  | '}' :: after => (after.dropWhile isBlank).head? = some ':'
  | _ => false

/-- Whether a statement that is followed by a line end goes on with the text
after it, which follows an operand or not. -/
def continuesLine (afterOperand : Bool) : List Char → Bool
  | '+' :: c :: _ => c ≠ '+'
  | '-' :: c :: _ => c ≠ '-'
  | '!' :: '=' :: _ => true
  | 'i' :: 'n' :: c :: rest =>
    !isWordPart c || (String.toList "stanceof").isPrefixOf (c :: rest)
  | c :: _ =>
    "`,.;*%><=?^|&/:".toList.contains c
    || (afterOperand && (c = '(' || c = '['))
  | [] => false

/-- Whether a statement may end here without a semicolon. -/
def endsStatement (afterOperand : Bool) (state : State) : Bool :=
  !state.joint.any
    (fun joint => joint.token ≤ state.left && state.left ≤ joint.since) &&
  match state.rest with
  | [] => true
  | '}' :: _ => afterOperand || !closesTyped state.rest
  | rest => state.newline && !continuesLine afterOperand rest

end State

namespace Reader

/-- Refuse the next token unless a statement may end before it without a
semicolon. -/
def lineEnd (afterOperand : Bool) : Reader Unit :=
  check (State.endsStatement afterOperand)

/-- Read the end of a statement. -/
def semicolon (afterOperand : Bool) : Reader Unit :=
  symbol ";" <|> lineEnd afterOperand

end Reader

namespace Grammar

variable (self : Grammar)

/-- Read a goal and forget what it can serve as. -/
def unit (goal : Goal) : Reader Unit := do
  let _ ← self goal

/-- Read an expression that has a value. -/
def value (goal : Goal) : Reader Unit := do
  let shape ← self goal
  Reader.ensure shape.value

def annotation : Reader Unit := do
  Reader.symbol ":"
  self.unit .type

def initializer : Reader Unit := do
  Reader.symbol "="
  self.value .expression

def propertyName : Reader Unit := Reader.joined <| Reader.choice
  [Reader.word, Reader.privateName, Reader.string, Reader.number,
   Reader.enclosed "[" (self.value .expression) "]"]

end Grammar

end Wireform.Syntax
