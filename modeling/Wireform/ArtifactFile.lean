import Wireform.Artifact
import Wireform.Utf8

/-!
# Artifact files

The binary form of a code artifact: integers of variable length with the least
significant byte first, texts after their length, a byte before a value that
may be missing, and the number of a case.  Bytes after the artifact are
ignored.
-/

namespace Wireform.ArtifactFile

/-! ## Writing -/

/-- The given number of bytes of a number, the least significant one first. -/
def littleEndian : Nat → Nat → List UInt8
  | 0, _ => []
  | count + 1, n => UInt8.ofNat n :: littleEndian count (n / 256)

/-- A 64-bit number in one byte, or in two, four or eight bytes after a byte
that tells how many. -/
def writeNumber (n : Nat) : List UInt8 :=
  if n < 251 then [UInt8.ofNat n]
  else if n < Nat.pow 2 16 then 251 :: littleEndian 2 n
  else if n < Nat.pow 2 32 then 252 :: littleEndian 4 n
  else 253 :: littleEndian 8 n

def writeOptional : Option Nat → List UInt8
  | none => [0]
  | some n => 1 :: writeNumber n

/-- A text after the number of its bytes. -/
def writeText (text : String) : List UInt8 :=
  let bytes := Utf8.encode text
  writeNumber bytes.length ++ bytes

def kindNumber : SourceKind → Nat
  | .diagram => 0
  | .mockup => 1

/-- The bytes of an artifact. -/
def write (artifact : CodeArtifact) : List UInt8 :=
  writeNumber artifact.id ++ writeOptional artifact.diagramId
    ++ writeText artifact.code ++ writeText artifact.language
    ++ writeText artifact.componentName
    ++ writeNumber (kindNumber artifact.sourceKind)

/-! ## Reading -/

/-- The types of integers that the format knows. -/
inductive IntegerType where
  | u32
  | u64
  | u128
  | reserved
deriving DecidableEq, Repr

def IntegerType.name : IntegerType → String
  | u32 => "U32"
  | u64 => "U64"
  | u128 => "U128"
  | reserved => "Reserved"

/-- The reason why bytes are not an artifact. -/
inductive Fault where
  | endsEarly (missing : Nat)
  | wrongInteger (expected found : IntegerType)
  | badOption (found : Nat)
  | badText (fault : Utf8.Fault)
  | badKind (found : Nat)
deriving DecidableEq, Repr

def Fault.message : Fault → String
  | endsEarly missing => r"UnexpectedEnd { additional: " ++ toString missing ++ r" }"
  | wrongInteger expected found =>
    r"InvalidIntegerType { expected: " ++ expected.name ++ ", found: "
      ++ found.name ++ r" }"
  | badOption found =>
    r#"UnexpectedVariant { type_name: "Option<T>", allowed: Range { min: 0, max: 1 }, found: "#
      ++ toString found ++ r" }"
  | badText fault =>
    r"Utf8 { inner: Utf8Error { valid_up_to: " ++ toString fault.validUpTo
      ++ ", error_len: "
      ++ (match fault.faulty with
          | some count => "Some(" ++ toString count ++ ")"
          | none => "None")
      ++ r" } }"
  | badKind found =>
    "OtherString(\"invalid value: integer `" ++ toString found
      ++ "`, expected variant index 0 <= i < 2\")"

/-- A reader of bytes: a value and the bytes after it. -/
abbrev ByteReader (α : Type) := List UInt8 → Except Fault (α × List UInt8)

def take (count : Nat) : ByteReader (List UInt8) := fun bytes =>
  let taken := bytes.take count
  if taken.length < count then .error (.endsEarly (count - taken.length))
  else .ok (taken, bytes.drop count)

/-- The number with the given bytes, the least significant one first. -/
def ofLittleEndian : List UInt8 → Nat
  | [] => 0
  | byte :: rest => byte.toNat + 256 * ofLittleEndian rest

/-- Read a number of a fixed number of bytes. -/
def readFixed (count : Nat) : ByteReader Nat := fun bytes => do
  let (taken, rest) ← take count bytes
  pure (ofLittleEndian taken, rest)

/-- Read a number of variable length.  A type that does not fit is named after
the type that was asked for. -/
def readNumber (widest expected : IntegerType) : ByteReader Nat := fun bytes => do
  let (first, rest) ← readFixed 1 bytes
  if first < 251 then pure (first, rest)
  else if first = 251 then readFixed 2 rest
  else if first = 252 then readFixed 4 rest
  else if first = 253 then
    if widest = .u64 then readFixed 8 rest
    else .error (.wrongInteger expected .u64)
  else if first = 254 then .error (.wrongInteger expected .u128)
  else .error (.wrongInteger expected .reserved)

/-- Read a 64-bit number.  Away from the end of the file a wrong type is
reported against the 32-bit type. -/
def readLong : ByteReader Nat := fun bytes =>
  readNumber .u64 (if (bytes.drop 8).isEmpty then .u64 else .u32) bytes

def readShort : ByteReader Nat := readNumber .u32 .u32

def readOptional : ByteReader (Option Nat) := fun bytes => do
  let (present, rest) ← readFixed 1 bytes
  if present = 0 then pure (none, rest)
  else if present = 1 then
    let (n, rest) ← readLong rest
    pure (some n, rest)
  else .error (.badOption present)

def readText : ByteReader String := fun bytes => do
  let (length, rest) ← readLong bytes
  let (taken, rest) ← take length rest
  match Utf8.decode taken with
  | .ok text => pure (text, rest)
  | .error fault => .error (.badText fault)

def readKind : ByteReader SourceKind := fun bytes => do
  let (number, rest) ← readShort bytes
  if number = 0 then pure (.diagram, rest)
  else if number = 1 then pure (.mockup, rest)
  else .error (.badKind number)

/-- Read an artifact and the bytes after it. -/
def readArtifact : ByteReader CodeArtifact := fun bytes => do
  let (id, bytes) ← readLong bytes
  let (diagramId, bytes) ← readOptional bytes
  let (code, bytes) ← readText bytes
  let (language, bytes) ← readText bytes
  let (componentName, bytes) ← readText bytes
  let (sourceKind, bytes) ← readKind bytes
  pure ({ id, diagramId, code, language, componentName, sourceKind }, bytes)

/-- The artifact at the beginning of a byte string. -/
def read (bytes : List UInt8) : Except Fault CodeArtifact :=
  (readArtifact bytes).map (·.1)

end Wireform.ArtifactFile
