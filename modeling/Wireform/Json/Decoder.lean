import Wireform.Json.Parse

/-!
# Typed decoding

A decoder turns a document into a value of a type.  It works in two ways: on
the text itself, noticing faults in reading order, and on a value that was
read before its type was known.  Both follow the same rules: a record is an
object, or the list of its fields in order; members with other keys are
skipped; a field given twice is a fault.
-/

namespace Wireform.Json

/-- A way to decode values of a type, from text at a nesting depth and from a
value. -/
structure Decoder (α : Type) where
  read : Nat → Reader α
  ofJson : Json → Except Cause α

def Decoder.decode {α : Type} (decoder : Decoder α) (text : String) :
    Except Fault α :=
  Reader.readWhole (decoder.read Reader.maxDepth) text

namespace Reader

variable {α : Type}

/-- Fail because the next value has the wrong form; the value is read as far
as its description needs. -/
def wrongForm (expected : String) : Reader α := do
  match ← peek with
  | none => failHere .expectedValue
  | some c =>
    if c = '[' then failBare (.wrongType .sequence expected)
    else if c = '{' then failBare (.wrongType .map expected)
    else
      let wrong ← scalar c
      failBare (.wrongType (found wrong) expected)

/-- Read the value that begins at the next token. -/
def atToken (reader : Char → Reader α) : Reader α := do
  match ← peekToken with
  | none => failHere .endInValue
  | some c => placed (reader c)

def startsNumber (c : Char) : Bool := c = '-' || isDigit c

/-- Read a value whose kind is seen from its first character. -/
def expectScalar (starts : Char → Bool) (expected : String)
    (accept : Json → Except Cause α) : Reader α :=
  atToken fun c => do
    if starts c then
      match accept (← scalar c) with
      | .ok value => pure value
      | .error cause => failBare cause
    else wrongForm expected

end Reader

namespace Decoder

variable {α : Type}

/-- A decoder for values without inner values. -/
def ofScalar (starts : Char → Bool) (expected : String)
    (accept : Json → Except Cause α) : Decoder α where
  read _ := Reader.expectScalar starts expected accept
  ofJson := accept

/-- The fault of a value of the wrong form. -/
def reject (expected : String) (value : Json) : Except Cause α :=
  .error (.wrongType (found value) expected)

def string : Decoder String :=
  ofScalar (· = '"') "a string" fun
    | .string value => .ok value
    | other => reject "a string" other

def boolean : Decoder Bool :=
  ofScalar (fun c => c = 't' || c = 'f') "a boolean" fun
    | .boolean value => .ok value
    | other => reject "a boolean" other

def unsigned : Decoder Nat :=
  ofScalar Reader.startsNumber "u64" fun
    | .integer (.ofNat value) => .ok value
    | .integer value => .error (.wrongValue (.integer value) "u64")
    | other => reject "u64" other

/-- Double-precision numbers, also written as integers. -/
def binary64 : Decoder Binary64 :=
  ofScalar Reader.startsNumber "f64" fun
    | .number value => .ok value
    | .integer value => .ok ⟨decide (value < 0), Binary64.nearest value.natAbs 1⟩
    | other => reject "f64" other

/-- Values that may be `null`. -/
def option (inner : Decoder α) : Decoder (Option α) where
  read depth := do
    match ← Reader.peekToken with
    | some 'n' => Reader.advance; Reader.word "ull".toList; pure none
    | _ => return some (← inner.read depth)
  ofJson
    | .null => .ok none
    | value => (inner.ofJson value).map some

def list (inner : Decoder α) : Decoder (List α) where
  read depth :=
    Reader.atToken fun c => do
      if c = '[' then
        Reader.nested depth fun below => do
          Reader.advance
          Reader.thenAlways (Reader.items (inner.read below)) Reader.listEnd
      else Reader.wrongForm "a sequence"
  ofJson
    | .array items => items.mapM inner.ofJson
    | other => reject "a sequence" other

def map {β : Type} (f : α → β) (inner : Decoder α) : Decoder β where
  read depth := f <$> inner.read depth
  ofJson value := (inner.ofJson value).map f

/-! ## Enumerations -/

def findCase (cases : List (String × α)) (name : String) : Except Cause α :=
  match cases.lookup name with
  | some value => .ok value
  | none => .error (.unknownVariant name (cases.map (·.1)))

/-- Read the name of a case. -/
def readCase (cases : List (String × α)) : Reader α :=
  Reader.expectScalar (· = '"') "variant identifier" fun
    | .string name => findCase cases name
    | other => reject "variant identifier" other

/-- Read the `null` that may stand for the contents of a case. -/
def readUnit : Reader Unit :=
  Reader.expectScalar (· = 'n') "unit" fun
    | .null => .ok ()
    | other => reject "unit" other

/-- The contents of a case given as a value. -/
def unitOfJson : Json → Except Cause Unit
  | .null => .ok ()
  | .object [] => .ok ()
  | other => reject "unit" other

/-- One of several named cases without contents: the name, or an object whose
only member has the name as its key and `null` as its value. -/
def choice (cases : List (String × α)) : Decoder α where
  read depth := do
    match ← Reader.peekToken with
    | none => Reader.failHere .endInValue
    | some c =>
      if c = '{' then
        let value ← Reader.nested depth fun _ => do
          Reader.advance
          let value ← readCase cases
          Reader.colon
          readUnit
          pure value
        match ← Reader.peekToken with
        | none => Reader.failHere .endInObject
        | some c =>
          if c = '}' then Reader.advance; pure value
          else Reader.failHere .expectedValue
      else if c = '"' then readCase cases
      else Reader.failNext .expectedValue
  ofJson
    | .string name => findCase cases name
    | .object [(name, contents)] => do
      let value ← findCase cases name
      unitOfJson contents
      pure value
    | .object _ => .error (.wrongValue .map "map with a single key")
    | other => reject "string or map" other

end Decoder

/-! ## Records -/

/-- A field of a record: its key, other accepted keys, and what it holds when
it is missing from an object, or when a list of fields ends before it. -/
structure Field (α : Type) where
  key : String
  decoder : Decoder α
  aliases : List String := []
  ifMissing : Option α := none
  ifShort : Option α := none

namespace Field

variable {α : Type}

def accepts (field : Field α) (name : String) : Bool :=
  field.key = name || field.aliases.contains name

/-- A field that must be given. -/
def required (key : String) (decoder : Decoder α) : Field α :=
  { key, decoder }

/-- A field with a value of its own when it is not given. -/
def withDefault (key : String) (decoder : Decoder α) (value : α)
    (aliases : List String := []) : Field α :=
  { key, decoder, aliases, ifMissing := some value, ifShort := some value }

/-- A field that may be `null` or missing. -/
def optional (key : String) (decoder : Decoder α)
    (aliases : List String := []) : Field (Option α) :=
  withDefault key decoder.option none aliases

/-- A field that may be `null`, or missing from an object. -/
def nullable (key : String) (decoder : Decoder α) : Field (Option α) :=
  { key, decoder := decoder.option, ifMissing := some none }

end Field

/-- The fields of a record, in order. -/
inductive Fields : List Type → Type 1 where
  | nil : Fields []
  | cons {α : Type} {αs : List Type} (field : Field α) (rest : Fields αs) :
      Fields (α :: αs)

/-- The values of all fields of a record. -/
def Values : List Type → Type
  | [] => Unit
  | α :: αs => α × Values αs

/-- The values that have been given so far. -/
def Draft : List Type → Type
  | [] => Unit
  | α :: αs => Option α × Draft αs

namespace Fields

def count {αs : List Type} : Fields αs → Nat
  | nil => 0
  | cons _ rest => rest.count + 1

def blank {αs : List Type} : Fields αs → Draft αs
  | nil => ()
  | cons _ rest => (none, rest.blank)

/-- Read the value of the member with a key, after the key, into a draft. -/
def readMember {αs : List Type} (depth : Nat) (name : String) :
    Fields αs → Draft αs → Reader (Draft αs)
  | nil, draft => do
    Reader.colon
    Reader.skipValue
    pure draft
  | cons field rest, (given, others) => do
    if field.accepts name then
      if given.isSome then Reader.failBare (.duplicateField field.key)
      else
        Reader.colon
        let value ← field.decoder.read depth
        pure (some value, others)
    else
      let others ← readMember depth name rest others
      pure (given, others)

/-- Read the members of an object into a draft. -/
def readMembers {αs : List Type} (fields : Fields αs) (depth : Nat) :
    Nat → Bool → Draft αs → Reader (Draft αs)
  | 0, _, _ => Reader.failHere .endInObject
  | fuel + 1, isFirst, draft => do
    if ← Reader.hasMember isFirst then
      let name ← Reader.key
      let draft ← fields.readMember depth name draft
      readMembers fields depth fuel false draft
    else pure draft

/-- The values of a finished draft. -/
def complete {αs : List Type} : Fields αs → Draft αs → Except Cause (Values αs)
  | nil, _ => .ok ()
  | cons field rest, (given, others) => do
    match given.or field.ifMissing with
    | some value => return (value, ← rest.complete others)
    | none => .error (.missingField field.key)

/-- Read the fields of a record from an object, after its opening brace. -/
def readObject {αs : List Type} (fields : Fields αs) (depth : Nat) :
    Reader (Values αs) := do
  let draft ←
    fields.readMembers depth ((← Reader.remaining) + 1) true fields.blank
  match fields.complete draft with
  | .ok values => pure values
  | .error cause => Reader.failBare cause

/-- Read the fields of a record from a list, after its opening bracket;
`index` counts the fields before. -/
def readList {αs : List Type} (expected : String) (depth : Nat) :
    Fields αs → Nat → Bool → Reader (Values αs)
  | nil, _, _ => pure ()
  | cons field rest, index, isFirst => do
    if ← Reader.hasItem isFirst then
      let value ← field.decoder.read depth
      return (value, ← readList expected depth rest (index + 1) false)
    else
      match field.ifShort with
      | some value =>
        return (value, ← readList expected depth rest (index + 1) isFirst)
      | none => Reader.failBare (.wrongLength index expected)

/-- Put the value of a member into a draft. -/
def putMember {αs : List Type} (name : String) (value : Json) :
    Fields αs → Draft αs → Except Cause (Draft αs)
  | nil, draft => .ok draft
  | cons field rest, (given, others) => do
    if field.accepts name then
      if given.isSome then .error (.duplicateField field.key)
      else return (some (← field.decoder.ofJson value), others)
    else return (given, ← putMember name value rest others)

/-- Put members into a draft, in order. -/
def putMembers {αs : List Type} (fields : Fields αs) :
    List (String × Json) → Draft αs → Except Cause (Draft αs)
  | [], draft => .ok draft
  | (name, value) :: rest, draft => do
    putMembers fields rest (← fields.putMember name value draft)

/-- Take the fields of a record from items; also the items left over. -/
def takeItems {αs : List Type} (expected : String) :
    Fields αs → Nat → List Json → Except Cause (Values αs × List Json)
  | nil, _, items => .ok ((), items)
  | cons field rest, index, item :: items => do
    let value ← field.decoder.ofJson item
    let (values, left) ← takeItems expected rest (index + 1) items
    pure ((value, values), left)
  | cons field rest, index, [] => do
    match field.ifShort with
    | some value =>
      let (values, left) ← takeItems expected rest (index + 1) []
      pure ((value, values), left)
    | none => .error (.wrongLength index expected)

end Fields

namespace Decoder

def elements (count : Nat) : String :=
  toString count ++ (if count = 1 then " element" else " elements")

/-- A record with a type name, its fields, and the value they make up. -/
def record {α : Type} {αs : List Type} (typeName : String) (fields : Fields αs)
    (build : Values αs → α) : Decoder α where
  read depth :=
    Reader.atToken fun c => do
      if c = '[' then
        Reader.nested depth fun below => do
          Reader.advance
          let values ← Reader.thenAlways
            (fields.readList (shape typeName fields) below 0 true) Reader.listEnd
          pure (build values)
      else if c = '{' then
        Reader.nested depth fun below => do
          Reader.advance
          let values ← Reader.thenAlways (fields.readObject below) Reader.objectEnd
          pure (build values)
      else Reader.wrongForm ("struct " ++ typeName)
  ofJson
    | .array items => do
      let (values, left) ← fields.takeItems (shape typeName fields) 0 items
      if left.isEmpty then pure (build values)
      else .error (.wrongLength items.length
        (elements (items.length - left.length) ++ " in sequence"))
    | .object members => do
      let draft ← fields.putMembers members fields.blank
      return build (← fields.complete draft)
    | other => reject ("struct " ++ typeName) other
where
  /-- The description of a record given as a list. -/
  shape (typeName : String) (fields : Fields αs) : String :=
    "struct " ++ typeName ++ " with " ++ elements fields.count

/-- A record that must be an object, described by other words. -/
def objectOnly {α : Type} {αs : List Type} (expected : String)
    (fields : Fields αs) (build : Values αs → α) : Decoder α where
  read depth :=
    Reader.atToken fun c => do
      if c = '[' then
        Reader.nested depth fun _ => do
          Reader.advance
          Reader.thenAlways
            (Reader.failBare (.wrongType .sequence expected)) Reader.listEnd
      else if c = '{' then
        Reader.nested depth fun below => do
          Reader.advance
          let values ← Reader.thenAlways (fields.readObject below) Reader.objectEnd
          pure (build values)
      else Reader.wrongForm expected
  ofJson
    | .object members => do
      let draft ← fields.putMembers members fields.blank
      return build (← fields.complete draft)
    | other => reject expected other

end Decoder

end Wireform.Json
