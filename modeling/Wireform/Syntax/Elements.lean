import Wireform.Syntax.Expressions

/-!
# The grammar of markup

Markup elements, their attributes and the text between them.  White space
counts between tags, so the reader of an element stops right after its last
mark.
-/

namespace Wireform.Syntax.Grammar

open Reader

variable (self : Grammar)

/-! ## Character references -/

/-- Whether a text begins with between one and `most` characters of a kind and
then a semicolon: the text after the semicolon. -/
def pastRun (condition : Char → Bool) (most : Nat) (text : Remainder) :
    Option Remainder := do
  let after ← text.pastSome condition
  if text.left - after.left ≤ most then after.pastText [';'] else none

/-- The end of a reference to a character by its name or number. -/
def pastReference (text : Remainder) : Option Remainder :=
  match text.rest with
  | '&' :: '#' :: 'x' :: _ | '&' :: '#' :: 'X' :: _ =>
    pastRun isHexDigit 6 (text.drop 3)
  | '&' :: '#' :: _ => pastRun Char.isDigit 5 (text.drop 2)
  | '&' :: _ => pastRun Char.isAlpha 30 (text.drop 1)
  | _ => none

/-! ## Attributes -/

/-- The end of a run of characters between the quotes of an attribute.  An
ampersand belongs to it unless a reference seems to begin there. -/
def pastAttributeText (quote : Char) (fuel : Nat) (text : Remainder) :
    Option Remainder :=
  match fuel, text.rest with
  | 0, _ => none
  | fuel + 1, '&' :: c :: _ =>
    if c = '#' || c.isAlpha then none
    else
      let after := text.drop 2
      some ((pastAttributeText quote fuel after).getD after)
  | fuel + 1, c :: _ =>
    if c = quote || c = '&' then none
    else
      let after := text.drop 1
      some ((pastAttributeText quote fuel after).getD after)
  | _, [] => none

/-- White space before the mark of a comment in markup. -/
def isMarkupBlank (c : Char) : Bool :=
  c = ' ' || ('\t' ≤ c && c ≤ '\r') || c = '\u2028' || c = '\u2029'

/-- The end of a line that a mark of a comment in markup begins.  Such a
comment is looked for wherever a part of an attribute may begin, so that it may
hide the closing quote. -/
def pastMarkupComment (text : Remainder) : Option Remainder := do
  let text := text.past isMarkupBlank
  let after ← (text.pastText ['<', '!', '-', '-']).or
    (text.pastText ['-', '-', '>'])
  some (after.past fun c => c ≠ '\n' && c ≠ '\u2028' && c ≠ '\u2029')

/-- Read the string of an attribute between two of the given quotes. -/
def attributeQuoted (quote : Char) : Reader Unit := joined do
  rawToken (·.pastText [quote])
  many <| absorbed <| choice
    [run pastMarkupComment,
     run fun text => pastAttributeText quote text.left text,
     rawToken pastReference]
  settle
  token (·.pastText [quote])

/-- The end of a name of an element or an attribute, which may hold
hyphens. -/
def pastTagWord (text : Remainder) : Option Remainder := do
  let first := text.rest.head?
  let ascii : Char → Bool := fun c => c.isAlphanum || c = '_' || c = '$'
  let head := text.past ascii
  if head.left < text.left && head.rest.head? = some '-'
      && !first.any Char.isDigit then
    some (head.past fun c => ascii c || c = '-')
  else pastWord text

def tagWord : Reader Unit := token pastTagWord

/-- Read the content of braces: nothing, expressions or a spread. -/
def braced (last : Reader Unit) : Reader Unit := joined do
  symbol r"{"
  option do
    option (symbol "...")
    self.value .expressions
  last

def tagAttribute : Reader Unit := joined <| choice
  [self.braced (symbol r"}"),
   do
    tagWord
    option do
      symbol ":"
      tagWord
    option do
      symbol "="
      choice
        [attributeQuoted '"',
         attributeQuoted '\'',
         self.braced (symbol r"}"),
         do
          self.unit .element
          settle]]

/-! ## Elements -/

def tagName : Reader Unit := joined do
  tagWord
  option do
    symbol ":"
    tagWord
  many do
    symbol "."
    word

/-- Whether a text closes an element. -/
def closesElement (state : State) : Bool :=
  state.startsWith "</"

/-- The end of a run of characters between tags. -/
def pastElementText (text : Remainder) : Option Remainder :=
  text.pastSome fun c => !"<{}>&".toList.contains c

def content : Reader Unit := choice
  [run pastElementText,
   rawToken pastReference,
   self.braced (rawSymbol r"}"),
   do
    check (!closesElement ·)
    self.unit .element]

/-- Read the rest of an element after its first tag. -/
def closing : Reader Unit := do
  listed self.content
  joined do
    token (·.pastText ['<', '/'])
    option tagName
    rawToken (·.pastText ['>'])

/-- Read an element without the space after it. -/
def markup : Reader Unit := joined do
  let closed ← joined <| do
    symbol "<"
    choice
      [do
        rawToken (·.pastText ['>'])
        pure false,
       do
        tagName
        option self.typeArguments
        listed self.tagAttribute
        choice
          [do
            rawToken (·.pastText ['/', '>'])
            pure true,
           do
            rawToken (·.pastText ['>'])
            pure false]]
  if closed then pure () else self.closing

end Wireform.Syntax.Grammar
