import Wireform.Unicode.Classes

/-!
# Readers of source text

A reader consumes a source text from the front.  On the way it keeps a trail:
the places where the parts begin that have been read but not yet joined to a
larger part.  It also keeps the front, the farthest token that any reader
could not use, with the trail that led there.  The front survives the choice
between readers, so that a source that no choice fits is blamed on the token
that stopped the most successful one.
-/

namespace Wireform.Syntax

/-- The place where parts of the source begin that follow one another, as the
number of characters left from there. -/
structure Mark where
  left : Nat
  parts : Nat := 1
  /-- How many larger parts the reader was inside of. -/
  level : Nat := 0
deriving DecidableEq, Repr

structure Front where
  /-- The characters left from the token. -/
  left : Nat
  /-- The characters left from the end of the token before it. -/
  stop : Nat
  /-- The parts read before it, the last one first. -/
  trail : List Mark
  depth : Nat := 0
deriving DecidableEq, Repr

/-- The front that is farther in the text; of two that are equally far, the
first. -/
def Front.farther (first second : Front) : Front :=
  if second.left < first.left then second else first

/-- The place where reading goes on after a repair. -/
structure Joint where
  /-- The characters left from the token that must be used there. -/
  token : Nat
  /-- The characters left from the place where the repair begins.  No
  statement may end without a semicolon between here and the token. -/
  since : Nat
deriving DecidableEq, Repr

structure State where
  rest : List Char
  left : Nat
  stop : Nat
  /-- Whether a line ends between the last token and the next. -/
  newline : Bool := false
  trail : List Mark := []
  level : Nat := 0
  front : Front
  joint : Option Joint := none
  /-- How many larger parts hold both the token at the joint and the part
  before it, if the token has been read. -/
  depth : Nat := 0
deriving DecidableEq, Repr

inductive Outcome (α : Type) where
  | done (value : α) (after : State)
  | stuck (front : Front)

def Reader (α : Type) : Type :=
  State → Outcome α

namespace Reader

variable {α : Type}

instance : Monad Reader where
  pure value := fun state => .done value state
  bind reader next := fun state =>
    match reader state with
    | .done value after => next value after
    | .stuck front => .stuck front

def fail : Reader α := fun state =>
  .stuck (state.front.farther ⟨state.left, state.stop, state.trail, state.depth⟩)

/-- Refuse the next token.  The trail that leads there now counts, and not
that of a reader that came as far before. -/
def refuse : Reader α := fun state =>
  .stuck <|
    if state.front.left < state.left then state.front
    else ⟨state.left, state.stop, state.trail, state.depth⟩

/-- Read with `first`, or where that does not fit, with `second`. -/
def orElse (first : Reader α) (second : Unit → Reader α) : Reader α :=
  fun state =>
    match first state with
    | .done value after => .done value after
    | .stuck front => second () { state with front }

instance : OrElse (Reader α) := ⟨orElse⟩

def ensure (condition : Bool) : Reader Unit :=
  if condition then pure () else fail

/-- Refuse the next token unless the state satisfies a condition. -/
def check (condition : State → Bool) : Reader Unit := fun state =>
  ensure (condition state) state

def test (condition : State → Bool) : Reader Bool := fun state =>
  .done (condition state) state

def option (reader : Reader Unit) : Reader Unit :=
  reader <|> pure ()

/-- Read what may be missing: whether it was there. -/
def optional (reader : Reader Unit) : Reader Bool :=
  (do reader; pure true) <|> pure false

def choice : List (Reader α) → Reader α
  | [] => fail
  | [last] => last
  | first :: others => first <|> choice others

/-- Read at most `fuel` times, each time something. -/
def repeated (reader : Reader Unit) : Nat → Reader Unit
  | 0 => pure ()
  | fuel + 1 => fun state =>
    match reader state with
    | .stuck front => .done () { state with front }
    | .done _ after =>
      if after.left < state.left then repeated reader fuel after
      else .done () after

def many (reader : Reader Unit) : Reader Unit := fun state =>
  repeated reader state.left state

/-- Change a value as long as `step` finds more to read, at most `fuel`
times. -/
def extended (step : α → Reader α) : Nat → α → Reader α
  | 0, value => pure value
  | fuel + 1, value => fun state =>
    match step value state with
    | .stuck front => .done value { state with front }
    | .done value after =>
      if after.left < state.left then extended step fuel value after
      else .done value after

/-- Change a value as long as `step` finds more to read. -/
def manyFrom (step : α → Reader α) (value : α) : Reader α := fun state =>
  extended step state.left value state

def separated (separator reader : Reader Unit) : Reader Unit := do
  reader
  many do separator; reader

/-- Read more of a part whose beginning is the last part. -/
def extending (reader : Reader α) : Reader α := fun state =>
  let trail :=
    match state.trail with
    | mark :: trail => { mark with level := mark.level + 1 } :: trail
    | [] => []
  match reader { state with level := state.level + 1, trail } with
  | .stuck front => .stuck front
  | .done value after => .done value { after with level := state.level }

/-- Join all that `reader` reads to the last part. -/
def absorbed (reader : Reader α) : Reader α := fun state =>
  match reader state with
  | .stuck front => .stuck front
  | .done value after => .done value { after with trail := state.trail }

/-- Join all that `reader` reads to one part. -/
def joined (reader : Reader α) : Reader α := fun state =>
  match reader { state with level := state.level + 1 } with
  | .stuck front => .stuck front
  | .done value after =>
    .done value <|
      if after.left < state.left then
        { after with
          trail := ⟨state.left, 1, state.level⟩ :: state.trail
          level := state.level }
      else { after with level := state.level }

/-- Read as often as possible; all parts that are read follow one another. -/
def listed (reader : Reader Unit) : Reader Unit := do
  let _ ← manyFrom (fun started => fun state =>
    match joined reader state with
    | .stuck front => .stuck front
    | .done _ after =>
      match started, state.trail with
      | true, mark :: trail =>
        .done true
          { after with trail := { mark with parts := mark.parts + 1 } :: trail }
      | _, _ => .done true after) false

end Reader

end Wireform.Syntax
