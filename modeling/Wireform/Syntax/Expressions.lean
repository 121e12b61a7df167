import Wireform.Syntax.Patterns

/-!
# The grammar of expressions

Expressions are chains of operands with operators between them.  Precedence is
of no interest here: it changes the structure of a chain, but not which chains
there are.
-/

namespace Wireform.Syntax.Grammar

open Reader

variable (self : Grammar)

/-! ## Operands -/

/-- Read an expression after dots that spread it, or an expression. -/
def spreadable : Reader Shape := joined do
  let spread ← optional (symbol "...")
  let shape ← self .expression
  if spread then pure { shape with binding := shape.target } else pure shape

def arguments : Reader Unit := joined <|
  enclosed "(" (sparse do
    let shape ← self.spreadable
    ensure shape.value) ")"

/-- Read items with commas between them, any of them missing, and what the
list of them can serve as. -/
def cover (item : Reader Shape) : Reader Shape := do
  let first ← covered Shape.place
  manyFrom (fun shape => do symbol ","; covered shape) first
where
  /-- Read one more item, if it is there. -/
  covered (shape : Shape) : Reader Shape :=
    (do
      let next ← item
      pure
        { value := shape.value && next.value
          target := shape.target && next.binding
          binding := shape.binding && next.binding })
    <|> pure shape

def array : Reader Shape := joined do
  symbol "["
  let shape ← cover self.spreadable
  symbol "]"
  pure shape

def method : Reader Unit := do
  self.signature
  self.unit .block

def objectMember : Reader Shape := joined <| choice
  [do
    symbol "..."
    let shape ← self .expression
    pure { shape with binding := shape.target },
   do
    self.propertyName
    symbol ":"
    self .expression,
   do
    modifiers ["async", "get", "set", "static", "readonly", "override",
      "public", "private", "protected"]
    option (symbol "*")
    self.propertyName
    option (symbol "?")
    self.method
    pure Shape.plain,
   do
    word
    symbol "="
    self.value .expression
    pure { value := false, target := false, binding := true },
   do
    word
    pure Shape.place]

def object : Reader Shape := joined do
  symbol r"{"
  let shape ← cover self.objectMember
  symbol r"}"
  pure shape

def arrowBody : Reader Unit := do
  symbol "=>"
  self.unit .block <|> do
    unlessStatement
    self.value .expression

/-- Read the parameters of an arrow function, and its result type where that
is allowed. -/
def arrowSignature (typed : Bool) : Reader Unit := joined do
  option self.typeParameters
  self.unit .parameters
  if typed then
    option do
      symbol ":"
      self.resultType
  else pure ()

/-- Read an arrow function with its parameters in parentheses. -/
def arrow (typed : Bool) : Reader Shape := joined do
  self.arrowSignature typed
  self.arrowBody
  pure Shape.plain

/-- What an opening parenthesis may begin. -/
inductive Opening where
  | parameters
  | parameterOrValue
  | value
deriving DecidableEq, Repr

/-- Whether the text after an opening parenthesis that is never closed looks
like a list of parameters. -/
def looksLikeParameters (text : Remainder) : Bool :=
  match text.gap.text.rest with
  | '.' :: _ | '{' :: _ | '[' :: _ => true
  | _ =>
    match pastWord text.gap.text with
    | some after =>
      [[','], [':'], [')'], ['?']].contains (punctuator after.gap.text.rest)
    | none => false

/-- What the opening parenthesis at the front of a text may begin: an arrow or
a result type follows a list of parameters.  No parameter begins with an angle
bracket, and the text of a markup element need not have balanced brackets. -/
def opening (text : Remainder) : Opening :=
  if (text.drop 1).gap.text.rest.head? = some '<' then .value
  else
    match pastBracketed text with
    | some after =>
      let next := punctuator after.rest
      if next = ['=', '>'] then .parameters
      else if next = [':'] then .parameterOrValue
      else .value
    | none =>
      if looksLikeParameters (text.drop 1) then .parameterOrValue else .value

/-- Read what begins with an opening parenthesis: an arrow function, or what
the reader `other` reads. -/
def arrowOr (typed : Bool) (other : Reader Shape) : Reader Shape :=
  ahead fun text =>
    match opening text with
    | .parameters => self.arrow typed
    | .parameterOrValue => self.arrow typed <|> other
    | .value => other

def functionExpression : Reader Shape := joined do
  keyword "function"
  option (symbol "*")
  option word
  self.method
  pure Shape.plain

/-- Read what a class extends and implements. -/
def heritage : Reader Unit := joined do
  option do
    keyword "extends"
    separated (symbol ",") do
      self.value .superclass
      option self.typeArguments
  option do
    keyword "implements"
    separated (symbol ",") (self.unit .type)

def classExpression : Reader Shape := joined do
  many self.decorator
  keyword "class"
  option (nameExcept ["extends", "implements"])
  option self.typeParameters
  self.heritage
  self.unit .classBody
  pure Shape.plain

/-- Read an expression in parentheses, perhaps with a type. -/
def parenthesized : Reader Shape := joined do
  symbol "("
  let shape ← self .expressions
  ensure shape.value
  option self.annotation
  symbol ")"
  pure Shape.place

/-- The words that name no variable where an operand begins. -/
def operandKeywords : List String :=
  ["function", "class", "await", "yield", "typeof", "void", "delete",
   "import", "using"]

def asyncOperand : Reader Shape := joined do
  keyword "async"
  choice
    [do
      sameLine
      self.functionExpression,
     do
      check (·.isBefore "<")
      self.arrow true,
     do
      check (·.isBefore "(")
      self.arrowOr true fail,
     do
      unlessAt ["function"]
      word
      self.arrowBody
      pure Shape.plain]

/-- Refuse the next token if an operand begins there. -/
def unlessOperand : Reader Unit := check fun state =>
  match state.rest with
  | [] => true
  | c :: _ =>
    state.newline
    || state.isAt "as" || state.isAt "in" || state.isAt "instanceof"
    || !(isWordPart c || r#""'[{</+-!~@"#.toList.contains c)

/-- Read a variable, or an arrow function with it as the parameter. -/
def variableOperand : Reader Shape := joined do
  let construction ← test (·.isAt "new")
  nameExcept operandKeywords
  if construction then do
    unlessOperand
    unlessBefore ["("]
  else pure ()
  (do self.arrowBody; pure Shape.plain) <|> pure Shape.place

def wordOperand : Reader Shape := choice
  [self.functionExpression,
   self.classExpression,
   joined do
    keyword "import"
    check fun state => state.isBefore "(" || state.isBefore "."
    pure Shape.plain,
   joined do
    keywords ["this", "super", "true", "false", "null"]
    pure Shape.plain,
   self.asyncOperand,
   self.variableOperand]

/-- Read an operand without what may follow it: a call, a member and so on. -/
def primary (typed : Bool) : Reader Shape :=
  ahead fun text =>
    match text.rest with
    | '(' :: _ => self.arrowOr typed self.parenthesized
    | '<' :: _ =>
      self.arrow typed <|> do
        self.unit .element
        settle
        pure Shape.plain
    | '[' :: _ => self.array
    | '{' :: _ => self.object
    | '"' :: _ | '\'' :: _ => do
      string
      pure Shape.plain
    | '`' :: _ => do
      template (self.value .expressions)
      pure Shape.plain
    | '/' :: _ => do
      token pastRegex
      pure Shape.plain
    | '#' :: _ => do
      privateName
      check (·.isAt "in")
      pure Shape.plain
    | c :: _ =>
      if c.isDigit || c = '.' then do
        number
        pure Shape.plain
      else self.wordOperand
    | [] => fail

/-- Read what makes a longer operand of an operand. -/
def operandSuffix (generic : Bool) : Reader Shape := absorbed <| extending <| choice
  [do
    symbol "."
    word <|> privateName
    pure Shape.place,
   do
    symbol "?."
    choice
      [do
        enclosed "[" (self.value .expressions) "]"
        pure Shape.place,
       do
        option self.typeArguments
        self.arguments
        pure Shape.plain,
       do
        word <|> privateName
        pure Shape.place],
   do
    enclosed "[" (self.value .expressions) "]"
    pure Shape.place,
   do
    self.arguments
    pure Shape.plain,
   do
    template (self.value .expressions)
    pure Shape.plain,
   do
    sameLine
    symbol "!"
    pure Shape.place,
   do
    ensure generic
    self.typeArguments
    choice
      [self.arguments,
       template (self.value .expressions),
       unlessOperand]
    pure Shape.plain]

/-- Read an operand that does not begin with `new`. -/
def called (typed generic : Bool) : Reader Shape := do
  let shape ← self.primary typed
  if shape.value then
    manyFrom (fun _ => self.operandSuffix generic) shape
  else pure shape

/-- Read an operand that begins with `new`. -/
def constructed (typed generic : Bool) : Reader Shape := joined do
  keyword "new"
  let shape ← choice
    [do
      symbol "."
      keyword "target"
      pure Shape.plain,
     do
      many (keyword "new")
      self.called typed generic]
  ensure shape.value
  manyFrom (fun _ => self.operandSuffix generic) { shape with binding := false }

def operand (typed generic : Bool) : Reader Shape :=
  self.constructed typed generic <|> self.called typed generic

/-! ## Chains -/

def prefixOperator : Reader Unit :=
  choice (["!", "~", "-", "+", "++", "--"].map symbol)
  <|> keywords ["typeof", "void", "delete", "await"]

/-- Read an operator that changes the operand before it. -/
def updateOperator : Reader Unit := do
  sameLine
  symbol "++" <|> symbol "--"

def yielded : Reader Shape := joined do
  keyword "yield"
  choice
    [do
      symbol "*"
      self.value .expression,
     do
      sameLine
      self.value .expression,
     pure ()]
  pure Shape.plain

/-- Read an operand with the operators around it. -/
def unary (typed generic : Bool) : Reader Shape := do
  let marked ← optional prefixOperator
  many prefixOperator
  let shape ← choice
    [self.yielded,
     do
      keyword "using"
      let shape ← self.operand typed generic
      check (·.isBefore "=")
      pure shape,
     self.operand typed generic]
  let updated ← optional (do ensure shape.value; updateOperator)
  pure
    { shape with
      target := shape.target && !updated
      binding := shape.binding && !marked && !updated }

/-- The operators between two operands. -/
def binaryOperators : List (List Char) :=
  ["&&", "||", "??", ">>", ">>>", "<<", "&", "^", "|", "+", "-", "*", "/",
   "%", "**", "<", "<=", "==", "===", "!=", "!==", ">=", ">"].map String.toList

/-- The operators that change their target. -/
def assignmentOperators : List (List Char) :=
  ["+=", "-=", "*=", "/=", "%=", "^=", "&=", "|=", ">>=", ">>>=", "<<=",
   "**=", "&&=", "||=", "??="].map String.toList

def operatorAmong (operators : List (List Char)) : Reader Unit :=
  token fun text =>
    let operator := punctuator text.rest
    if operators.contains operator then some (text.drop operator.length)
    else none

/-- Read an operator that combines values, and its right operand. -/
def combined (typed generic : Bool) (shape : Shape) :
    Reader Shape := extending do
  ensure shape.value
  choice
    [do
      check fun state => generic || !state.startsWith "<"
      operatorAmong binaryOperators <|> keywords ["in", "instanceof"]
      let next ← self.unary typed generic
      pure { next with binding := false },
     do
      keywords ["as", "satisfies"]
      self.unit .type
      pure Shape.plain]

/-- Read an operator that changes its target, and its right operand. -/
def assigned (shape : Shape) : Reader Shape := extending do
  ensure shape.target
  choice
    [do
      symbol "="
      self.value .expression
      pure { Shape.plain with binding := shape.binding },
     do
      ensure shape.value
      operatorAmong assignmentOperators
      self.value .expression
      pure Shape.plain]

/-- Read the branches of a conditional. -/
def branches : Reader Unit := extending do
  symbol "?"
  choice
    [do
      self.value .expression
      symbol ":",
     do
      check fun state =>
        state.startsWith "(" && (pastBracketed state.text).isSome
      self.value .untypedExpression
      symbol ":"]
  self.value .expression

def expression (typed : Bool) : Reader Shape := do
  let first ← self.unary typed true
  let chain ← manyFrom
    (fun shape => self.combined typed true shape <|> self.assigned shape) first
  if chain.value then
    (do self.branches; pure Shape.plain) <|> pure chain
  else pure chain

def expressions : Reader Shape := do
  let first ← self .expression
  manyFrom
    (fun shape => do
      ensure shape.value
      symbol ","
      self.value .expression
      pure Shape.plain)
    first

/-- Read a pattern of an array or an object that is not the beginning of a
longer operand. -/
def destructured : Reader Unit := do
  self.destructuring
  unlessBefore [".", "[", "(", "?.", "!"]

/-- Read a place in an object.  It may begin with any expression, so that an
expression that is no place is refused as a whole. -/
def place : Reader Unit := do
  let shape ← joined do
    let first ← self.unary false false
    manyFrom (self.combined false false) first
  if shape.binding then pure () else refuse

def pattern : Reader Unit := do
  option (symbol "...")
  self.destructured <|> self.place

end Wireform.Syntax.Grammar
