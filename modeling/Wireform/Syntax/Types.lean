import Wireform.Syntax.Goal

/-!
# The grammar of types

Types, the signatures of functions, and the members of object types.
-/

namespace Wireform.Syntax.Grammar

open Reader

variable (self : Grammar)

def typeArguments : Reader Unit := joined do
  symbol "<"
  separated (symbol ",") (self.unit .type)
  option (symbol ",")
  closeAngle

def typeParameters : Reader Unit := joined do
  symbol "<"
  separated (symbol ",") <| joined do
    option do keyword "const"; check (!·.isBefore ">")
    word
    option do
      keyword "extends" <|> symbol ":"
      self.unit .type
    option do
      symbol "="
      self.unit .type
  option (symbol ",")
  closeAngle

/-- Read the type that a function returns, or what it asserts. -/
def resultType : Reader Unit := joined do
  option do
    keyword "asserts"
    check fun state => (pastWord state.text).isSome && !state.isAt "is"
  self.unit .type
  option do
    sameLine
    keyword "is"
    self.unit .type

def signature : Reader Unit := joined do
  option self.typeParameters
  self.unit .parameters
  option do
    symbol ":"
    self.resultType

def functionType : Reader Unit := do
  option self.typeParameters
  self.unit .parameters
  symbol "=>"
  self.resultType

/-- Read a name with dots. -/
def path (first : Reader Unit) : Reader Unit := do
  first
  many do
    symbol "."
    word <|> privateName

/-- Read the import of a module inside a type. -/
def importedName : Reader Unit := do
  keyword "import"
  enclosed "(" (commaList (self.value .expression)) ")"

def typeName : Reader Unit := do
  path (self.importedName
    <|> nameExcept ["typeof", "keyof", "infer", "new", "import"])
  option self.typeArguments

/-- Read the type of a value. -/
def typeQuery : Reader Unit := do
  keyword "typeof"
  path (self.importedName <|> word)
  many (enclosed "[" (self.value .expression) "]")
  option self.typeArguments

/-- Read the end of the key of an object type: its type. -/
def indexAnnotation : Reader Unit := do
  option do
    option (symbol "-" <|> symbol "+")
    symbol "?"
  self.annotation

/-- Read an index signature or a mapped type. -/
def indexSignature : Reader Unit := do
  option (symbol "-" <|> symbol "+")
  option (keyword "readonly")
  symbol "["
  word
  choice
    [self.annotation,
     do
      keyword "in"
      self.unit .type
      option do
        keyword "as"
        self.unit .type]
  symbol "]"
  option self.indexAnnotation

/-- Read words before a member's name.  A word that ends the member is its
name. -/
def modifiers (words : List String) : Reader Unit :=
  many do
    keywords words
    unlessBefore ["(", "=", ";", ":", "?", "!", r"}", ",", "<"]
    check fun state => !state.rest.isEmpty

def typeMember : Reader Unit := joined <| choice
  [do
    modifiers ["public", "private", "protected", "static", "override"]
    self.indexSignature,
   do
    keyword "new"
    self.signature,
   self.signature,
   do
    modifiers ["public", "private", "protected", "static", "override",
      "readonly", "async", "get", "set"]
    option (symbol "*")
    self.propertyName
    option (symbol "?")
    self.signature <|> option self.annotation]

def memberSeparator : Reader Unit :=
  symbol "," <|> semicolon false

def objectType : Reader Unit := joined do
  symbol r"{"
  option (symbol "," <|> symbol ";")
  option do
    self.typeMember
    many do
      memberSeparator
      self.typeMember
    option memberSeparator
  symbol r"}"

def tupleMember : Reader Unit := joined <| choice
  [do
    option (symbol "...")
    word
    option (symbol "?")
    self.annotation,
   do
    option (symbol "...")
    self.unit .type
    option (symbol "?")]

/-- Read a type that needs no parentheses. -/
def primaryType : Reader Unit := joined <| choice
  [self.functionType,
   enclosed "(" (self.unit .type) ")",
   self.objectType,
   enclosed "[" (commaList self.tupleMember) "]",
   string,
   template (self.unit .type),
   do
    option (symbol "-" <|> symbol "+")
    number,
   self.typeQuery,
   do
    option (keyword "abstract")
    keyword "new"
    self.functionType,
   do
    keyword "infer"
    word
    option do
      keyword "extends"
      self.unit .type,
   do
    keywords ["keyof", "readonly", "unique"]
    self.unit .type,
   symbol "*",
   do
    symbol "?"
    self.unit .type,
   self.typeName]

/-- Read what makes a longer type of a type. -/
def typeSuffix : Reader Unit := choice
  [do
    sameLine
    enclosed "[" (option (self.unit .type)) "]",
   do
    symbol "|" <|> symbol "&"
    self.primaryType,
   do
    sameLine
    keyword "extends"
    self.unit .type
    symbol "?"
    self.unit .type
    symbol ":"
    self.unit .type]

def type : Reader Unit := do
  option (symbol "|" <|> symbol "&")
  self.primaryType
  many self.typeSuffix

end Wireform.Syntax.Grammar
