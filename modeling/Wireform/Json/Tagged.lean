import Wireform.Json.Decoder

/-!
# Tagged values

Values of several cases, written as an object with one member that names the
case and one that holds its contents, in either order; or as the list of the
two.  When the contents come first they are kept until the case is known.
-/

namespace Wireform.Json

/-- The keys of the two members of a tagged value, and its description. -/
structure TagKeys where
  tag : String
  contents : String
  expected : String

namespace Decoder

variable {α : Type}

/-- The two members that matter. -/
inductive Part where
  | tag
  | contents
deriving DecidableEq, Repr

def TagKeys.key (keys : TagKeys) : Part → String
  | .tag => keys.tag
  | .contents => keys.contents

/-- The member with a key, if it matters. -/
def partOf (keys : TagKeys) (name : String) : Option Part :=
  if name = keys.tag then some .tag
  else if name = keys.contents then some .contents
  else none

/-- Go to the next member that matters, past its key. -/
def nextPart (keys : TagKeys) : Nat → Bool → Reader (Option Part)
  | 0, _ => Reader.failHere .endInObject
  | fuel + 1, isFirst => do
    if ← Reader.hasMember isFirst then
      match partOf keys (← Reader.key) with
      | some part => pure (some part)
      | none =>
        Reader.colon
        Reader.skipValue
        nextPart keys fuel false
    else pure none

def toPart (keys : TagKeys) (isFirst : Bool) : Reader (Option Part) := do
  nextPart keys ((← Reader.remaining) + 1) isFirst

/-- Fail because a member is given twice. -/
def failTwice (keys : TagKeys) (part : Part) : Reader α :=
  Reader.failBare (.duplicateField (TagKeys.key keys part))

/-- Check that neither member is given again. -/
def noMoreParts (keys : TagKeys) : Reader Unit := do
  match ← toPart keys false with
  | some part => failTwice keys part
  | none => pure ()

/-- Read the members of a tagged value, after its opening brace. -/
def readParts (keys : TagKeys) (cases : List (String × Decoder α))
    (depth : Nat) : Reader α := do
  match ← toPart keys true with
  | none => Reader.failBare (.missingField keys.tag)
  | some .tag =>
    Reader.colon
    let contents ← (choice cases).read depth
    match ← toPart keys false with
    | none => Reader.failBare (.missingField keys.contents)
    | some .tag => failTwice keys .tag
    | some .contents =>
      Reader.colon
      let value ← contents.read depth
      noMoreParts keys
      pure value
  | some .contents =>
    Reader.colon
    let kept ← Reader.value depth
    match ← toPart keys false with
    | none => Reader.failBare (.missingField keys.tag)
    | some .contents => failTwice keys .contents
    | some .tag =>
      Reader.colon
      let contents ← (choice cases).read depth
      match contents.ofJson kept with
      | .error cause => Reader.failBare cause
      | .ok value =>
        noMoreParts keys
        pure value

/-- Read a tagged value given as a list, after its opening bracket. -/
def readPair (keys : TagKeys) (cases : List (String × Decoder α))
    (depth : Nat) : Reader α := do
  if ← Reader.hasItem true then
    let contents ← (choice cases).read depth
    if ← Reader.hasItem false then contents.read depth
    else Reader.failBare (.wrongLength 1 keys.expected)
  else Reader.failBare (.wrongLength 0 keys.expected)

def readTagged (keys : TagKeys) (cases : List (String × Decoder α))
    (depth : Nat) : Reader α :=
  Reader.atToken fun c => do
    if c = '[' then
      Reader.nested depth fun below => do
        Reader.advance
        Reader.thenAlways (readPair keys cases below) Reader.listEnd
    else if c = '{' then
      Reader.nested depth fun below => do
        Reader.advance
        Reader.thenAlways (readParts keys cases below) Reader.objectEnd
    else Reader.wrongForm keys.expected

def decodeTagged (keys : TagKeys) (cases : List (String × Decoder α))
    (text : String) : Except Fault α :=
  Reader.readWhole (readTagged keys cases Reader.maxDepth) text

end Decoder

end Wireform.Json
