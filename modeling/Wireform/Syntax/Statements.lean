import Wireform.Syntax.Elements

/-!
# The grammar of statements

Statements, declarations and the bodies of classes.
-/

namespace Wireform.Syntax.Grammar

open Reader

variable (self : Grammar)

/-! ## Classes -/

/-- Words that stand before the name of a member of a class. -/
def memberModifiers : List String :=
  ["public", "private", "protected", "static", "abstract", "override",
   "readonly", "declare", "accessor", "async", "get", "set"]

/-- Read what ends a member of a class that has no body. -/
def memberEnd (afterOperand : Bool) : Reader Unit :=
  symbol "," <|> semicolon afterOperand

def classMember : Reader Unit := joined <| choice
  [symbol ";",
   self.decorator,
   do
    keyword "static"
    self.unit .block,
   do
    modifiers memberModifiers
    self.indexSignature
    memberEnd false,
   do
    modifiers memberModifiers
    option (symbol "*")
    self.propertyName
    option (symbol "?" <|> symbol "!")
    choice
      [do
        self.signature
        self.unit .block <|> memberEnd false,
       do
        option self.annotation
        choice
          [do
            self.initializer
            memberEnd true,
           memberEnd false]]]

def classBody : Reader Unit := joined <|
  enclosed r"{" (listed self.classMember) r"}"

def classDeclaration : Reader Unit := joined do
  many self.decorator
  option (keyword "abstract")
  keyword "class"
  word
  option self.typeParameters
  self.heritage
  self.unit .classBody

/-! ## Declarations -/

/-- Read the name and the value of a variable: whether there is a value. -/
def declarator : Reader Bool := joined <| choice
  [do
    word
    symbol "!"
    self.annotation
    pure false,
   do
    self.binder
    option self.annotation
    optional self.initializer]

/-- Read declared variables: whether the last one has a value. -/
def declarators : Reader Bool := do
  keywords ["var", "let", "const"]
  let valued ← self.declarator
  manyFrom (fun _ => do symbol ","; self.declarator) valued

def variableDeclaration : Reader Unit := joined do
  let valued ← self.declarators
  semicolon valued

def functionDeclaration : Reader Unit := joined do
  option (keyword "async")
  keyword "function"
  option (symbol "*")
  word
  self.signature
  self.unit .block <|> do
    check (!·.isBefore r"{")
    semicolon false

def enumDeclaration : Reader Unit := joined do
  option (keyword "const")
  keyword "enum"
  word
  joined <| enclosed r"{" (commaList do
    self.propertyName
    option self.initializer) r"}"

/-- Read a name for a type. -/
def typeAlias : Reader Unit := joined do
  keyword "type"
  word
  option self.typeParameters
  symbol "="
  self.unit .type
  semicolon false

def interfaceDeclaration : Reader Unit := joined do
  keyword "interface"
  word
  option self.typeParameters
  option do
    keyword "extends"
    separated (symbol ",") self.typeName
  self.objectType

def moduleDeclaration : Reader Unit := joined do
  keywords ["module", "namespace"]
  sameLine
  string <|> path word
  option (self.unit .block)

/-- Read a second name for an imported name. -/
def importAlias : Reader Unit := joined do
  keyword "import"
  word
  symbol "="
  path (nameExcept ["require"])
  semicolon false

/-- Read a declaration of what is defined elsewhere. -/
def ambient : Reader Unit := joined do
  keyword "declare"
  choice
    [do
      keyword "global"
      self.unit .block,
     do
      unlessAt ["declare"]
      self.unit .statement]

def declaration : Reader Unit := choice
  [self.enumDeclaration,
   self.variableDeclaration,
   self.functionDeclaration,
   self.classDeclaration,
   self.typeAlias,
   self.interfaceDeclaration,
   self.moduleDeclaration,
   importAlias,
   self.ambient]

/-! ## Modules -/

/-- Read the name of the module that names come from. -/
def source : Reader Unit := do
  keyword "from"
  string
  option do
    keyword "with" <|> keyword "assert"
    let _ ← self.object

/-- Read a name that a module gives away, and the name it gets. -/
def specifier : Reader Unit := joined do
  option do
    keyword "type" <|> keyword "typeof"
    unlessBefore [",", r"}"]
    unlessAt ["as"]
  string <|> word
  option do
    keyword "as"
    string <|> word

def specifiers : Reader Unit := joined <|
  enclosed r"{" (commaList specifier) r"}"

/-- Read all names of a module under one name. -/
def wholeModule : Reader Unit := joined do
  symbol "*"
  keyword "as"
  string <|> word

/-- Read what is imported, and from where. -/
def imported : Reader Unit := choice
  [do
    joined <| choice
      [wholeModule,
       specifiers,
       do
        word
        option do
          symbol ","
          wholeModule <|> specifiers]
    self.source,
   do
    word
    symbol "="
    keyword "require"
    enclosed "(" string ")",
   do
    string
    option do
      keyword "with" <|> keyword "assert"
      let _ ← self.object]

def importStatement : Reader Unit := joined do
  keyword "import"
  choice
    [self.imported,
     do
      keywords ["type", "typeof"]
      self.imported]
  semicolon false

def exportStatement : Reader Unit := joined do
  many self.decorator
  keyword "export"
  choice
    [do
      keyword "default"
      choice
        [self.functionDeclaration,
         self.classDeclaration,
         self.interfaceDeclaration,
         do
          unlessAt ["abstract"]
          self.value .expression
          semicolon true],
     do
      choice
        [do
          wholeModule <|> symbol "*"
          self.source,
         do
          option (keyword "type")
          specifiers
          option self.source,
         do
          symbol "="
          self.value .expression,
         do
          keyword "as"
          keyword "namespace"
          word]
      semicolon true,
     self.declaration]

/-! ## Statements -/

def block : Reader Unit := joined <|
  enclosed r"{" (listed (self.unit .statement)) r"}"

def condition : Reader Unit := do
  check (·.isBefore "(")
  let _ ← self.parenthesized

/-- Read what a loop over the items of a value binds. -/
def loopBinder : Reader Unit := choice
  [do
    keywords ["var", "let", "const"]
    self.binder
    option self.initializer,
   self.destructured,
   do
    let shape ← self.operand false false
    ensure shape.target]

/-- Read the parts of a loop in parentheses. -/
def loopHeader : Reader Unit := choice
  [do
    self.loopBinder
    keywords ["in", "of"]
    self.value .expressions,
   do
    choice
      [do
        let _ ← self.declarators
        symbol ";",
       do
        option (self.value .expressions)
        symbol ";"]
    option (self.value .expressions)
    symbol ";"
    option (self.value .expressions)]

def switchCase : Reader Unit := joined do
  choice
    [do
      keyword "case"
      self.value .expressions,
     keyword "default"]
  symbol ":"
  listed do
    unlessAt ["case", "default"]
    self.unit .statement

/-- Read a statement that jumps to a label. -/
def jump (word : String) : Reader Unit := do
  keyword word
  lineEnd false <|> option Reader.word
  semicolon false

/-- Refuse a function or a class that has a name. -/
def unlessDeclaration : Reader Unit := check fun state =>
  let text := ((pastKeyword "async" state.text).map (·.gap.text)).getD
    state.text
  match pastKeyword "function" text with
  | some after =>
    let after := after.gap.text
    let after := ((after.pastText ['*']).map (·.gap.text)).getD after
    (pastWord after).isNone
  | none =>
    match pastKeyword "class" text with
    | some after => (pastWord after.gap.text).isNone
    | none => true

/-- Read a statement that is an expression. -/
def expressionStatement : Reader Unit := do
  unlessAt statementKeywords
  unlessStatement
  unlessDeclaration
  self.value .expressions
  semicolon true

/-- Read a statement that begins with a keyword of its own. -/
def control : Reader Unit := choice
  [do
    keyword "if"
    self.condition
    self.unit .statement
    option do
      keyword "else"
      self.unit .statement,
   do
    keyword "return"
    choice
      [do
        lineEnd false
        option (symbol ";"),
       do
        option (self.value .expressions)
        semicolon true],
   do
    keyword "for"
    option (keyword "await")
    enclosed "(" self.loopHeader ")"
    self.unit .statement,
   do
    keyword "while" <|> keyword "with"
    self.condition
    self.unit .statement,
   do
    keyword "do"
    self.unit .statement
    keyword "while"
    self.condition
    option (symbol ";"),
   do
    keyword "switch"
    self.condition
    joined (enclosed r"{" (many self.switchCase) r"}"),
   do
    keyword "try"
    self.unit .block
    option do
      keyword "catch"
      option (enclosed "(" (do self.binder; option self.annotation) ")")
      self.unit .block
    option do
      keyword "finally"
      self.unit .block,
   do
    keyword "throw"
    self.value .expressions
    semicolon true,
   jump "break",
   jump "continue",
   do
    keyword "debugger"
    semicolon false]

def labeled : Reader Unit := do
  nameExcept statementKeywords
  symbol ":"
  self.unit .statement

def statement : Reader Unit := joined <| choice
  [symbol ";",
   self.unit .block,
   self.control,
   self.importStatement,
   self.exportStatement,
   self.declaration,
   self.labeled,
   self.expressionStatement]

/-- Read the line at the start of a program that names its interpreter. -/
def interpreterLine : Reader Unit :=
  token fun text => do
    let after ← text.pastText ['#', '!']
    some (after.past fun c => c ≠ '\n')

end Wireform.Syntax.Grammar
