import Wireform.Syntax.Grammar

/-!
# Repairs

What is changed in a source text that is no program, so that it becomes one.
A repair leaves out a stretch of the text or adds a token before the one that
could not be used.  Every repair has a cost.  Where several repairs let the
reading go on, the one that leads farthest wins, unless a cheaper one has
proved itself over many tokens.
-/

namespace Wireform.Syntax

/-! ## Drafts -/

structure Cell where
  char : Char
  left : Nat
  /-- Whether the character is left out. -/
  excised : Bool := false
  /-- The token that was added here. -/
  added : Option String := none
deriving DecidableEq, Repr

/-- The character that is read.  What is left out reads as white space. -/
def Cell.shown (cell : Cell) : Char :=
  if cell.excised && cell.char ≠ '\n' then ' ' else cell.char

/-- A text under repair.  Places in it are given by the number of cells left,
as repairs before a place do not change that. -/
abbrev Draft := List Cell

namespace Draft

def ofSource : List Char → Draft
  | [] => []
  | c :: rest => { char := c, left := rest.length + 1 } :: ofSource rest

def text (draft : Draft) : List Char :=
  draft.map Cell.shown

def remainder (draft : Draft) (left : Nat) : Remainder :=
  ⟨draft.text.drop (draft.length - left), left⟩

def stretch (draft : Draft) (first last : Nat) : Draft :=
  (draft.drop (draft.length - first)).take (first - last)

/-- Leave out the cells between two places, and what was added there. -/
def excise (draft : Draft) (first last : Nat) : Draft :=
  draft.take (draft.length - first)
  ++ ((draft.stretch first last).filter (·.added.isNone)).map
      (fun cell => { cell with excised := true })
  ++ draft.drop (draft.length - last)

def insert (draft : Draft) (place : Nat) (kind spelling : String) : Draft :=
  let after := draft.drop (draft.length - place)
  let left := (after.head?.map (·.left)).getD 0
  let space : Cell := { char := ' ', left }
  draft.take (draft.length - place)
  ++ space :: spelling.toList.map
      (fun c => { char := c, left, added := some kind })
  ++ space :: after

end Draft

/-! ## Tokens of no particular context -/

/-- The end of the token at the front of a text, and whether it is a token at
all. -/
def pastAnyToken (text : Remainder) : Remainder × Bool :=
  match text.rest with
  | '<' :: '/' :: _ | '/' :: '>' :: _ => (text.drop 2, true)
  | _ =>
    match (pastWord text).or ((pastNumber text).or
      ((text.pastText ['#']).bind pastWord)) with
    | some after => (after, true)
    | none =>
      let mark := punctuator text.rest
      (text.drop mark.length,
       mark.length > 1 || mark.any (fun c => c ≠ '\\' && c ≠ '#'
        && punctuation.contains c))

/-- The number of tokens between a text's front and a place, counting at most
`fuel`. -/
def countTokens (last : Nat) : Nat → Remainder → Nat
  | 0, _ => 0
  | fuel + 1, text =>
    if text.left ≤ last then 0
    else countTokens last fuel (pastAnyToken text).1.gap.text + 1

/-! ## Costs -/

/-- The cost of leaving out a stretch with the given number of parts. -/
def lossCost (stretch : Draft) (parts : Nat) : Nat :=
  500 + 100 * parts
  + stretch.foldr (fun piece bytes => piece.char.utf8Size + bytes) 0
  + 30 * stretch.countP (·.char = '\n')

def additionCost : Nat := 610

def additions : List (String × String) :=
  [(";", ";"), (")", ")"), ("]", "]"), (r"}", r"}"), (">", ">"),
   ("identifier", "_")]

def reachBack : Nat := 16

/-! ## Repairs -/

structure Repair where
  draft : Draft
  cost : Nat
  place : Nat
  /-- How many larger parts hold both what is before the repair and what is
  after it. -/
  level : Nat := 0
  resumed : Nat
  /-- The next token that cannot be used. -/
  next : Option Front
deriving DecidableEq, Repr

namespace Repair

/-- How much of the draft is not read after a repair. -/
def unread (repair : Repair) : Nat :=
  match repair.next with
  | some front => front.left + 1
  | none => 0

/-- A repair with which the token `resumed` can be used.  Nothing is read
between the places `since` and `resumed` but what was added there. -/
def of? (draft : Draft) (cost place resumed since : Nat) : Option Repair :=
  let repair : Repair :=
    match read draft.text (some ⟨resumed, since⟩) with
    | .done _ after =>
      { draft, cost, place, resumed, level := after.depth, next := none }
    | .stuck front =>
      { draft, cost, place, resumed, level := front.depth, next := some front }
  if repair.unread ≤ resumed then some repair else none

/-- Add a token before the one that could not be used. -/
def adding (draft : Draft) (front : Front) : Option Repair :=
  additions.findSome? fun (kind, spelling) =>
    of? (draft.insert front.stop kind spelling) additionCost front.stop
      front.left (front.stop + spelling.length + 2)

/-- Leave out what was read since the closest of several marks with which the
token `resumed` can be used, and the tokens before it.  Some of what is left
out must be text of the source. -/
def leavingOut (draft : Draft) (stop resumed : Nat) :
    Nat → List Mark → Option Repair
  | _, [] => none
  | parts, mark :: marks =>
    let parts := parts + mark.parts
    let cost := lossCost (draft.stretch mark.left stop) parts
    let repair :=
      if (draft.stretch mark.left resumed).any (·.added.isNone) then
        of? (draft.excise mark.left resumed) cost mark.left resumed resumed
      else none
    repair.or (leavingOut draft stop resumed parts marks)

/-- Whether a repair is still good when a token is reached. -/
def reaches (repair : Repair) (left : Nat) : Bool :=
  repair.unread ≤ left + 1

/-- The repairs that leave out the next tokens, at most `fuel`, and perhaps
parts before them.  The tokens already left out begin with `front` and end at
`stop`; `left` is the token after them. -/
def leavingOutMore (draft : Draft) (front : Front) :
    Nat → List Repair → Nat → Nat → Nat → List Repair
  | 0, found, _, _, _ => found
  | fuel + 1, found, skipped, stop, left =>
    let cost := lossCost (draft.stretch front.left stop) skipped
    if found.any fun repair => repair.cost < cost && repair.reaches left then
      found
    else
      let text := draft.remainder left
      let (after, lexed) := pastAnyToken text
      let marks := front.trail.take reachBack
      let more :=
        if left = front.left then
          if lexed || left = 0 then leavingOut draft front.stop left 0 marks
          else none
        else if lexed || left = 0 then
          leavingOut draft stop left skipped ({ left := front.left, parts := 0 } :: marks)
        else none
      let found := found ++ more.toList
      if left = 0 then found
      else
        leavingOutMore draft front fuel found
          (if lexed then skipped + 1 else skipped) after.left
          after.gap.text.left

def all (draft : Draft) (front : Front) : List Repair :=
  leavingOutMore draft front (front.left + 1) (adding draft front).toList 0
    front.left front.left

/-- The advantage at which a cheaper repair is preferred to one that leads
farther. -/
def decisive : Nat := 1800

/-- Whether a repair outdoes another before it gets stuck. -/
def outdoes (first second : Repair) : Bool :=
  let tokens := countTokens (first.unread - 1) (first.resumed + 1)
    (first.draft.remainder first.resumed)
  first.unread ≤ second.resumed
  && first.cost < second.cost
  && decisive < (second.cost - first.cost) * (tokens + 1)

/-- Whether a repair is preferred to another that it does not outdo. -/
def preferred (first second : Repair) : Bool :=
  first.unread < second.unread
  || (first.unread = second.unread
    && (first.cost < second.cost
      || (first.cost = second.cost
        && (first.level < second.level
          || (first.level = second.level && first.place < second.place)))))

def best (repairs : List Repair) : Option Repair :=
  (repairs.filter fun repair => !repairs.any (·.outdoes repair)).foldl
    (fun chosen repair =>
      match chosen with
      | some other => some (if repair.preferred other then repair else other)
      | none => some repair)
    none

end Repair

/-- Repair a draft at most `fuel` times: the draft without obstacles. -/
def Draft.repaired : Nat → Draft → Option Draft
  | 0, _ => none
  | fuel + 1, draft =>
    match obstacle draft.text with
    | none => some draft
    | some front =>
      match Repair.best (Repair.all draft front) with
      | some repair => repaired fuel repair.draft
      | none => none

structure Change where
  /-- The characters of the source left from there. -/
  left : Nat
  /-- The token that was added, if nothing was left out. -/
  added : Option String
deriving DecidableEq, Repr

/-- The changes in a draft.  Stretches that only white space separates are one
change. -/
def Draft.changes (inside : Bool) : Draft → List Change
  | [] => []
  | cell :: draft =>
    match cell.added with
    | some token => ⟨cell.left, some token⟩ :: changes false draft
    | none =>
      if cell.excised then
        if inside then changes true draft
        else ⟨cell.left, none⟩ :: changes true draft
      else changes (inside && isBlank cell.char) draft

end Wireform.Syntax
