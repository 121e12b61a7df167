import Wireform.Syntax.Reader

/-!
# Lexemes

The smallest parts of a source text: white space and comments between tokens,
words, punctuation, numbers, strings and regular expressions.  A token is
chosen by what the grammar can use at its place, so that a word is a keyword
only where a keyword is asked for, and `>` closes a list of types even before
another `>`.
-/

namespace Wireform.Syntax

/-! ## Characters -/

/-- White space between tokens. -/
def isBlank (c : Char) : Bool :=
  Unicode.isWhiteSpace c || c = '\u200B' || c = '\u2060' || c = '\uFEFF'

/-- The characters that end a line comment. -/
def endsLine (c : Char) : Bool :=
  c = '\n' || c = '\r' || c = '\u2028' || c = '\u2029'

/-- The visible ASCII characters that no word holds. -/
def punctuation : List Char :=
  r#":;`"'@#.,|^&<=>+-*/\%?!~()[]{}"#.toList

def isWordPart (c : Char) : Bool :=
  if c.toNat < 0x80 then
    0x1F < c.toNat && c ≠ ' ' && !punctuation.contains c
  else !isBlank c

def isWordStart (c : Char) : Bool :=
  isWordPart c && !c.isDigit

def isHexDigit (c : Char) : Bool :=
  c.isDigit || ('a' ≤ c && c ≤ 'f') || ('A' ≤ c && c ≤ 'F')

def isOctalDigit (c : Char) : Bool :=
  '0' ≤ c && c ≤ '7'

def isBinaryDigit (c : Char) : Bool :=
  c = '0' || c = '1'

/-! ## Text without the characters at its front -/

/-- A text and its length. -/
structure Remainder where
  rest : List Char
  left : Nat
deriving DecidableEq, Repr

namespace Remainder

def drop (text : Remainder) (count : Nat) : Remainder :=
  ⟨text.rest.drop count, text.left - count⟩

/-- Without the leading characters that satisfy a condition. -/
def dropWhile (condition : Char → Bool) : List Char → Nat → Remainder
  | c :: rest, left =>
    if condition c then dropWhile condition rest (left - 1)
    else ⟨c :: rest, left⟩
  | [], left => ⟨[], left⟩

/-- Without the leading characters that satisfy a condition. -/
def past (text : Remainder) (condition : Char → Bool) : Remainder :=
  dropWhile condition text.rest text.left

/-- Without the leading characters that satisfy a condition; there must be at
least one. -/
def pastSome (text : Remainder) (condition : Char → Bool) :
    Option Remainder :=
  let after := text.past condition
  if after.left < text.left then some after else none

/-- Without a prefix. -/
def pastText (text : Remainder) (start : List Char) : Option Remainder :=
  if start.isPrefixOf text.rest then some (text.drop start.length) else none

end Remainder

/-! ## Between tokens -/

/-- The text after a gap between tokens, and whether the gap ends a line. -/
structure Gap where
  text : Remainder
  newline : Bool
deriving DecidableEq, Repr

/-- The gap extended over white space. -/
def Gap.pastBlanks (newline : Bool) : List Char → Nat → Gap
  | c :: rest, left =>
    if isBlank c then pastBlanks (newline || c = '\n') rest (left - 1)
    else ⟨⟨c :: rest, left⟩, newline⟩
  | [], left => ⟨⟨[], left⟩, newline⟩

/-- The gap extended over a block comment whose start has been read, if the
comment is closed. -/
def Gap.pastBlock (newline : Bool) : List Char → Nat → Option Gap
  | '*' :: '/' :: rest, left => some ⟨⟨rest, left - 2⟩, newline⟩
  | c :: rest, left => pastBlock (newline || c = '\n') rest (left - 1)
  | [], _ => none

/-- The gap extended over white space and at most `fuel` comments. -/
def Gap.extend : Nat → Gap → Gap
  | 0, gap => gap
  | fuel + 1, gap =>
    let gap := pastBlanks gap.newline gap.text.rest gap.text.left
    match gap.text.rest with
    | '/' :: '/' :: _ =>
      extend fuel { gap with text := gap.text.past (!endsLine ·) }
    | '/' :: '*' :: rest =>
      match pastBlock gap.newline rest (gap.text.left - 2) with
      | some gap => extend fuel gap
      | none => gap
    | _ => gap

/-- The gap at the front of a text. -/
def Remainder.gap (text : Remainder) : Gap :=
  .extend (text.left + 1) ⟨text, false⟩

namespace State

/-- The text from the next token on. -/
def text (state : State) : Remainder :=
  ⟨state.rest, state.left⟩

def startsWith (state : State) (start : String) : Bool :=
  start.toList.isPrefixOf state.rest

/-- Go past the white space and the comments before the next token. -/
def settled (state : State) : State :=
  let gap := state.text.gap
  { state with
    rest := gap.text.rest, left := gap.text.left, newline := gap.newline }

/-- Go to the end of a token, which the given text follows. -/
def past (state : State) (text : Remainder) : State :=
  { state with
    rest := text.rest, left := text.left, stop := text.left, newline := false,
    trail := ⟨state.left, 1, state.level⟩ :: state.trail
    depth :=
      if state.joint.any (·.token = state.left) then
        min state.level ((state.trail.head?.map Mark.level).getD 0)
      else state.depth }

/-- The state before the first token of a text. -/
def start (source : List Char) (joint : Option Joint) : State :=
  let left := source.length
  State.settled
    { rest := source, left, stop := left, joint
      front := { left := left + 1, stop := left + 1, trail := [] } }

end State

namespace Reader

variable {α : Type}

/-- Read a token, whose end `scan` finds, and nothing that follows it. -/
def rawToken (scan : Remainder → Option Remainder) : Reader Unit :=
  fun state =>
    match scan state.text with
    | some text => .done () (state.past text)
    | none => fail state

/-- Read a run of text, whose end `scan` finds.  It ends before the joint at
the latest. -/
def run (scan : Remainder → Option Remainder) : Reader Unit := fun state =>
  rawToken (fun text => do
    let after ← scan text
    match state.joint with
    | some joint =>
      if text.left = joint.token then none
      else if after.left < joint.token && joint.token < text.left then
        some (text.drop (text.left - joint.token))
      else some after
    | none => some after) state

/-- Read with the reader that the text ahead decides on. -/
def ahead (choose : Remainder → Reader α) : Reader α := fun state =>
  choose state.text state

def settle : Reader Unit := fun state => .done () state.settled

/-- Read a token, whose end `scan` finds. -/
def token (scan : Remainder → Option Remainder) : Reader Unit := do
  rawToken scan
  settle

end Reader

/-! ## Words -/

/-- The end of a character that is written by its number, after the
backslash. -/
def pastNumbered (text : Remainder) : Option Remainder :=
  match text.rest with
  | 'u' :: '{' :: _ => do
    let text ← (text.drop 2).pastSome isHexDigit
    text.pastText ['}']
  | 'u' :: digits =>
    let four := digits.take 4
    if four.length = 4 && four.all isHexDigit then some (text.drop 5) else none
  | _ => none

/-- The end of the first character of a word. -/
def pastLetter (condition : Char → Bool) (text : Remainder) :
    Option Remainder :=
  match text.rest with
  | '\\' :: _ => pastNumbered (text.drop 1)
  | c :: _ => if condition c then some (text.drop 1) else none
  | [] => none

/-- The end of a word that has begun, at most `fuel` characters on. -/
def pastLetters : Nat → Remainder → Remainder
  | 0, text => text
  | fuel + 1, text =>
    match pastLetter isWordPart text with
    | some text => pastLetters fuel text
    | none => text

def pastWord (text : Remainder) : Option Remainder :=
  (pastLetter isWordStart text).map fun text => pastLetters text.left text

def pastKeyword (word : String) (text : Remainder) : Option Remainder := do
  let after ← text.pastText word.toList
  if (pastLetter isWordPart after).isSome then none else some after

def State.word (state : State) : List Char :=
  match pastWord state.text with
  | some text => state.rest.take (state.left - text.left)
  | none => []

def State.isAt (state : State) (word : String) : Bool :=
  (pastKeyword word state.text).isSome

/-! ## Punctuation -/

/-- The operators of several characters, longer ones first. -/
def operators : List (List Char) :=
  [">>>=", "...", "===", "!==", "**=", "<<=", ">>=", ">>>", "&&=", "||=",
   "??=", "=>", "==", "!=", "<=", ">=", "&&", "||", "??", "?.", "++", "--",
   "+=", "-=", "*=", "/=", "%=", "&=", "|=", "^=", "**", "<<", ">>"].map
    String.toList

/-- The punctuation mark at the front of a text: the longest operator, or a
single character. -/
def punctuator (rest : List Char) : List Char :=
  match rest with
  | '?' :: '.' :: c :: _ => if c.isDigit then ['?'] else ['?', '.']
  | _ => (operators.find? (·.isPrefixOf rest)).getD (rest.take 1)

def pastSymbol (symbol : String) (text : Remainder) : Option Remainder := do
  let after ← text.pastText symbol.toList
  if punctuator text.rest = symbol.toList then some after else none

def State.isBefore (state : State) (symbol : String) : Bool :=
  (pastSymbol symbol state.text).isSome

/-! ## Numbers -/

/-- The end of digits with single underscores between them. -/
def pastDigits (condition : Char → Bool) : Nat → Remainder → Option Remainder
  | 0, _ => none
  | fuel + 1, text => do
    let after ← text.pastSome condition
    match after.pastText ['_'] with
    | some more => (pastDigits condition fuel more).or (some after)
    | none => some after

/-- The end of digits after a mark of their base, such as `0x`. -/
def pastBased (letters : List Char) (condition : Char → Bool)
    (text : Remainder) : Option Remainder :=
  match text.rest with
  | '0' :: letter :: _ =>
    if letters.contains letter then pastDigits condition text.left (text.drop 2)
    else none
  | _ => none

def pastExponent (text : Remainder) : Remainder :=
  match text.rest with
  | letter :: sign :: _ =>
    if letter = 'e' || letter = 'E' then
      let digits := text.drop (if sign = '+' || sign = '-' then 2 else 1)
      (pastDigits Char.isDigit digits.left digits).getD text
    else text
  | _ => text

def pastDecimal (text : Remainder) : Option Remainder :=
  match pastDigits Char.isDigit text.left text with
  | some whole =>
    match whole.rest with
    | '.' :: _ =>
      let point := whole.drop 1
      some (pastExponent
        ((pastDigits Char.isDigit point.left point).getD point))
    | 'n' :: _ => some (whole.drop 1)
    | _ => some (pastExponent whole)
  | none => do
    let point ← text.pastText ['.']
    (pastDigits Char.isDigit point.left point).map pastExponent

/-- The end of a big integer's mark, if there is one. -/
def pastBigMark (text : Remainder) : Remainder :=
  (text.pastText ['n']).getD text

def pastNumber (text : Remainder) : Option Remainder :=
  ((pastBased ['x', 'X'] isHexDigit text).map pastBigMark)
  |>.or ((pastBased ['b', 'B'] isBinaryDigit text).map pastBigMark)
  |>.or ((pastBased ['o', 'O'] isOctalDigit text).map pastBigMark)
  |>.or (pastDecimal text)

/-! ## Strings and regular expressions -/

/-- The end of an escape in a string or a template. -/
def pastEscape (text : Remainder) : Option Remainder :=
  match text.rest with
  | '\\' :: 'x' :: digits =>
    let two := digits.take 2
    if two.length = 2 && two.all isHexDigit then some (text.drop 4) else none
  | '\\' :: 'u' :: _ => pastNumbered (text.drop 1)
  | '\\' :: c :: more =>
    if isOctalDigit c then
      some (text.drop (2 + (more.take 2 |>.takeWhile isOctalDigit).length))
    else some (text.drop 2)
  | _ => none

/-- The end of a run of characters between the quotes of a string. -/
def pastFragment (quote : Char) (text : Remainder) : Option Remainder :=
  text.pastSome fun c => c ≠ quote && c ≠ '\\' && c ≠ '\n' && c ≠ '\r'

/-- The end of a regular expression after its opening slash, at most `fuel`
characters on. -/
def pastPattern (bracketed : Bool) : Nat → Remainder → Option Remainder
  | 0, _ => none
  | fuel + 1, text =>
    match text.rest with
    | '\\' :: c :: _ =>
      if c = '\n' then none else pastPattern bracketed fuel (text.drop 2)
    | '/' :: _ =>
      if bracketed then pastPattern bracketed fuel (text.drop 1)
      else some (text.drop 1)
    | c :: _ =>
      if c = '\n' then none
      else
        pastPattern (c = '[' || (bracketed && c ≠ ']')) fuel (text.drop 1)
    | [] => none

/-- The end of a regular expression with its flags. -/
def pastRegex (text : Remainder) : Option Remainder :=
  match text.rest with
  | '/' :: c :: _ =>
    if c = '/' || c = '*' then none
    else
      (pastPattern false text.left (text.drop 1)).map
        (·.past fun c => 'a' ≤ c && c ≤ 'z')
  | _ => none

/-- The end of a run of characters of a template. -/
def pastTemplateText (fuel : Nat) (text : Remainder) : Option Remainder :=
  match fuel, text.rest with
  | _ + 1, '$' :: '{' :: _ => none
  | fuel + 1, c :: _ =>
    if c = '`' || c = '\\' then none
    else some ((pastTemplateText fuel (text.drop 1)).getD (text.drop 1))
  | _, _ => none

/-! ## Brackets -/

/-- The end of a quoted text whose opening mark has been read.  Only a
template goes on in the next line. -/
def pastQuoted (quote : Char) : List Char → Nat → Option Remainder
  | '\\' :: _ :: rest, left => pastQuoted quote rest (left - 2)
  | c :: rest, left =>
    if c = quote then some ⟨rest, left - 1⟩
    else if c = '\n' && quote ≠ '`' then none
    else pastQuoted quote rest (left - 1)
  | [], _ => none

/-- The end of a bracketed text of which `depth` brackets are open, at most
`fuel` steps on. -/
def pastBrackets : Nat → Nat → Remainder → Option Remainder
  | 0, _, _ => none
  | fuel + 1, depth, text =>
    match text.rest with
    | [] => none
    | '/' :: '/' :: _ => pastBrackets fuel depth (text.past (!endsLine ·))
    | '/' :: '*' :: rest =>
      match Gap.pastBlock false rest (text.left - 2) with
      | some gap => pastBrackets fuel depth gap.text
      | none => none
    | c :: rest =>
      let next := text.drop 1
      if c = '"' || c = '\'' || c = '`' then
        pastBrackets fuel depth ((pastQuoted c rest (text.left - 1)).getD next)
      else if c = '(' || c = '[' || c = '{' then
        pastBrackets fuel (depth + 1) next
      else if c = ')' || c = ']' || c = '}' then
        if depth ≤ 1 then some next else pastBrackets fuel (depth - 1) next
      else pastBrackets fuel depth next

/-- The text from the first token on that follows the brackets that open at
the front of a text. -/
def pastBracketed (text : Remainder) : Option Remainder :=
  (pastBrackets text.left 1 (text.drop 1)).map (·.gap.text)

end Wireform.Syntax
