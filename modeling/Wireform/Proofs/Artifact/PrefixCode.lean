import Mathlib
import Wireform.ArtifactFile
import Wireform.Proofs.Artifact.Utf8

/-!
# Artifact files as a prefix code

Each reader of the format takes exactly the bytes that its writer gives: it
reads them whatever comes after, and fails on every beginning of them that is
cut short.  Readers in sequence inherit this, so that it comes down to the
numbers, with their four widths, and to the texts behind their lengths.
-/

namespace Wireform.ArtifactFile

variable {α β : Type}

/-- A reader takes exactly the given bytes for a value. -/
structure Takes (reader : ByteReader α) (bytes : List UInt8) (value : α) :
    Prop where
  reads (rest : List UInt8) : reader (bytes ++ rest) = .ok (value, rest)
  refuses {short : List UInt8} (hshort : short <+: bytes) (hne : short ≠ bytes) :
    ∃ fault, reader short = .error fault

/-- A reader, and then another that depends on its value. -/
def ByteReader.andThen (reader : ByteReader α) (next : α → ByteReader β) :
    ByteReader β := fun bytes =>
  reader bytes >>= fun taken => next taken.1 taken.2

/-- The reader of a value that needs no bytes. -/
def ByteReader.value (value : α) : ByteReader α := fun bytes =>
  .ok (value, bytes)

/-- Where bytes in two parts are cut short, the cut is in the first part or in
the second. -/
theorem prefix_append_cases {short first second : List UInt8}
    (hshort : short <+: first ++ second) (hne : short ≠ first ++ second) :
    (short <+: first ∧ short ≠ first) ∨
      ∃ tail, short = first ++ tail ∧ tail <+: second ∧ tail ≠ second := by
  rcases List.prefix_or_prefix_of_prefix hshort (List.prefix_append first second)
    with hbefore | ⟨tail, rfl⟩
  · by_cases heq : short = first
    · subst short
      refine .inr ⟨[], (List.append_nil first).symm, List.nil_prefix, ?_⟩
      rintro rfl
      exact hne (List.append_nil first).symm
    · exact .inl ⟨hbefore, heq⟩
  · exact .inr ⟨tail, rfl, (List.prefix_append_right_inj first).1 hshort,
      fun heq => hne (by rw [heq])⟩

theorem takes_value (value : α) : Takes (.value value) [] value where
  reads _ := rfl
  refuses hshort hne := absurd (List.prefix_nil.1 hshort) hne

theorem Takes.andThen {reader : ByteReader α} {next : α → ByteReader β}
    {first second : List UInt8} {value : α} {result : β}
    (hfirst : Takes reader first value)
    (hsecond : Takes (next value) second result) :
    Takes (reader.andThen next) (first ++ second) result where
  reads rest := by
    rw [ByteReader.andThen, List.append_assoc, hfirst.reads]
    exact hsecond.reads rest
  refuses hshort hne := by
    rcases prefix_append_cases hshort hne with
      ⟨hbefore, hother⟩ | ⟨tail, rfl, htail, hother⟩
    · obtain ⟨fault, hfault⟩ := hfirst.refuses hbefore hother
      exact ⟨fault, by rw [ByteReader.andThen, hfault]; rfl⟩
    · obtain ⟨fault, hfault⟩ := hsecond.refuses htail hother
      exact ⟨fault, by rw [ByteReader.andThen, hfirst.reads]; exact hfault⟩

/-- What is taken last needs no bytes. -/
theorem Takes.andValue {reader : ByteReader α} {bytes : List UInt8} {value : α}
    (htakes : Takes reader bytes value) (finish : α → β) :
    Takes (reader.andThen fun value => .value (finish value)) bytes
      (finish value) := by
  rw [← List.append_nil bytes]
  exact htakes.andThen (takes_value (finish value))

theorem takes_take (bytes : List UInt8) :
    Takes (take bytes.length) bytes bytes where
  reads rest := by simp [take]
  refuses {short} hshort hne := by
    have hlength : short.length < bytes.length :=
      lt_of_le_of_ne hshort.length_le fun heq => hne (hshort.eq_of_length heq)
    refine ⟨.endsEarly (bytes.length - short.length), ?_⟩
    rw [take, List.take_of_length_le hlength.le]
    exact if_pos hlength

/-! ## Numbers -/

theorem length_littleEndian (count n : Nat) :
    (littleEndian count n).length = count := by
  induction count generalizing n with
  | zero => rfl
  | succ count ih => rw [littleEndian, List.length_cons, ih]

theorem ofLittleEndian_littleEndian {count n : Nat} (hn : n < 256 ^ count) :
    ofLittleEndian (littleEndian count n) = n := by
  induction count generalizing n with
  | zero =>
    rw [pow_zero, Nat.lt_one_iff] at hn
    rw [hn]
    rfl
  | succ count ih =>
    have hquotient : n / 256 < 256 ^ count := by
      rw [pow_succ] at hn
      exact Nat.div_lt_of_lt_mul (by rwa [mul_comm])
    rw [littleEndian, ofLittleEndian, ih hquotient, UInt8.toNat_ofNat']
    omega

theorem takes_readFixed {count n : Nat} (hn : n < 256 ^ count) :
    Takes (readFixed count) (littleEndian count n) n := by
  have hbytes := (takes_take (littleEndian count n)).andValue ofLittleEndian
  rwa [length_littleEndian, ofLittleEndian_littleEndian hn] at hbytes

/-- What follows the first byte of a number. -/
def readRest (widest expected : IntegerType) (first : Nat) : ByteReader Nat :=
  fun rest =>
    if first < 251 then .ok (first, rest)
    else if first = 251 then readFixed 2 rest
    else if first = 252 then readFixed 4 rest
    else if first = 253 then
      if widest = .u64 then readFixed 8 rest
      else .error (.wrongInteger expected .u64)
    else if first = 254 then .error (.wrongInteger expected .u128)
    else .error (.wrongInteger expected .reserved)

theorem readNumber_eq (widest expected : IntegerType) :
    readNumber widest expected =
      (readFixed 1).andThen (readRest widest expected) := rfl

theorem takes_readNumber {n : Nat} {widest : IntegerType} (hn : n < 2 ^ 64)
    (hwidest : 2 ^ 32 ≤ n → widest = .u64) (expected : IntegerType) :
    Takes (readNumber widest expected) (writeNumber n) n := by
  rw [readNumber_eq, writeNumber]
  split_ifs with hone htwo hfour
  · have hrest : Takes (readRest widest expected n) [] n := by
      have hsame : readRest widest expected n = .value n := by
        funext rest
        exact if_pos hone
      rw [hsame]
      exact takes_value n
    have hfirst : Takes (readFixed 1) [UInt8.ofNat n] n :=
      takes_readFixed (by omega)
    exact hfirst.andThen hrest
  · have hfirst : Takes (readFixed 1) [251] 251 := takes_readFixed (by decide)
    have hrest : Takes (readRest widest expected 251) (littleEndian 2 n) n :=
      takes_readFixed htwo
    exact hfirst.andThen hrest
  · have hfirst : Takes (readFixed 1) [252] 252 := takes_readFixed (by decide)
    have hrest : Takes (readRest widest expected 252) (littleEndian 4 n) n :=
      takes_readFixed hfour
    exact hfirst.andThen hrest
  · have hfirst : Takes (readFixed 1) [253] 253 := takes_readFixed (by decide)
    have hrest : Takes (readRest .u64 expected 253) (littleEndian 8 n) n :=
      takes_readFixed hn
    rw [hwidest (Nat.le_of_not_lt hfour)]
    exact hfirst.andThen hrest

/-- The type that a fault is reported against makes no difference. -/
theorem takes_readLong {n : Nat} (hn : n < 2 ^ 64) :
    Takes readLong (writeNumber n) n where
  reads rest := (takes_readNumber hn (fun _ => rfl) _).reads rest
  refuses hshort hne := (takes_readNumber hn (fun _ => rfl) _).refuses hshort hne

/-! ## Values that may be missing, texts, kinds -/

theorem readOptional_eq :
    readOptional = (readFixed 1).andThen fun present =>
      if present = 0 then .value none
      else if present = 1 then readLong.andThen fun n => .value (some n)
      else fun _ => .error (.badOption present) := by
  funext bytes
  rw [readOptional, ByteReader.andThen]
  congr
  funext taken
  dsimp only
  split_ifs <;> rfl

theorem takes_readOptional {given : Option Nat} (hgiven : ∀ n ∈ given, n < 2 ^ 64) :
    Takes readOptional (writeOptional given) given := by
  rw [readOptional_eq]
  cases given with
  | none =>
    have hpresent : Takes (readFixed 1) [0] 0 := takes_readFixed (by decide)
    exact hpresent.andThen (takes_value none)
  | some n =>
    have hpresent : Takes (readFixed 1) [1] 1 := takes_readFixed (by decide)
    exact hpresent.andThen ((takes_readLong (hgiven n rfl)).andValue some)

/-- The text of bytes that were taken, before any rest. -/
def decoded (taken : List UInt8) : ByteReader String := fun rest =>
  match Utf8.decode taken with
  | .ok text => .ok (text, rest)
  | .error fault => .error (.badText fault)

theorem readText_eq :
    readText = readLong.andThen fun length => (take length).andThen decoded := rfl

theorem takes_readText {text : String} (hlength : (Utf8.encode text).length < 2 ^ 64) :
    Takes readText (writeText text) text := by
  rw [readText_eq]
  refine (takes_readLong hlength).andThen ?_
  have hdecoded : Takes (decoded (Utf8.encode text)) [] text := by
    have hvalue : decoded (Utf8.encode text) = .value text := by
      funext rest
      rw [decoded, Utf8.decode_encode]
      rfl
    rw [hvalue]
    exact takes_value text
  have hbytes := (takes_take (Utf8.encode text)).andThen hdecoded
  rwa [List.append_nil] at hbytes

theorem readKind_eq :
    readKind = readShort.andThen fun number =>
      if number = 0 then .value .diagram
      else if number = 1 then .value .mockup
      else fun _ => .error (.badKind number) := by
  funext bytes
  rw [readKind, ByteReader.andThen]
  congr
  funext taken
  dsimp only
  split_ifs <;> rfl

theorem takes_readKind (kind : SourceKind) :
    Takes readKind (writeNumber (kindNumber kind)) kind := by
  rw [readKind_eq, ← List.append_nil (writeNumber _)]
  have hnumber : Takes readShort (writeNumber (kindNumber kind)) (kindNumber kind) :=
    takes_readNumber (by cases kind <;> decide) (by cases kind <;> decide) _
  refine hnumber.andThen ?_
  cases kind with
  | diagram => exact takes_value _
  | mockup => exact takes_value _

/-! ## Artifacts -/

/-- An artifact whose numbers and lengths of texts have 64 bits. -/
structure Fits (artifact : CodeArtifact) : Prop where
  id : artifact.id < 2 ^ 64
  diagramId : ∀ n ∈ artifact.diagramId, n < 2 ^ 64
  code : (Utf8.encode artifact.code).length < 2 ^ 64
  language : (Utf8.encode artifact.language).length < 2 ^ 64
  componentName : (Utf8.encode artifact.componentName).length < 2 ^ 64

theorem readArtifact_eq :
    readArtifact = readLong.andThen fun id => readOptional.andThen fun diagramId =>
      readText.andThen fun code => readText.andThen fun language =>
      readText.andThen fun componentName => readKind.andThen fun sourceKind =>
      .value { id, diagramId, code, language, componentName, sourceKind } := rfl

theorem takes_readArtifact {artifact : CodeArtifact} (hfits : Fits artifact) :
    Takes readArtifact (write artifact) artifact := by
  rw [readArtifact_eq, write]
  simp only [List.append_assoc]
  exact (takes_readLong hfits.id).andThen <|
    (takes_readOptional hfits.diagramId).andThen <|
    (takes_readText hfits.code).andThen <|
    (takes_readText hfits.language).andThen <|
    (takes_readText hfits.componentName).andThen <|
    (takes_readKind artifact.sourceKind).andValue fun sourceKind =>
      { artifact with sourceKind }

theorem read_write_append {artifact : CodeArtifact} (hfits : Fits artifact)
    (rest : List UInt8) : read (write artifact ++ rest) = .ok artifact := by
  rw [read, (takes_readArtifact hfits).reads]
  rfl

/-- An artifact is read back whatever follows its bytes, and no part of its
bytes that is cut short is an artifact.  So the bytes of different artifacts
differ, and those of one do not begin with those of another. -/
theorem artifacts_prefix_code {artifact : CodeArtifact} (hfits : Fits artifact) :
    (∀ rest, read (write artifact ++ rest) = .ok artifact)
      ∧ (∀ short, short <+: write artifact → short ≠ write artifact →
        ∃ fault, read short = .error fault)
      ∧ ∀ other, Fits other → other ≠ artifact →
        write other ≠ write artifact ∧ ¬ write other <+: write artifact
          ∧ ¬ write artifact <+: write other := by
  have hdistinct {first second : CodeArtifact} (hfirst : Fits first)
      (hsecond : Fits second) (hbegins : write first <+: write second) :
      first = second := by
    obtain ⟨rest, hrest⟩ := hbegins
    have hread := read_write_append hfirst rest
    have hwhole := read_write_append hsecond []
    rw [List.append_nil, ← hrest, hread] at hwhole
    exact Except.ok.inj hwhole
  refine ⟨read_write_append hfits, ?_, ?_⟩
  · intro short hshort hne
    obtain ⟨fault, hfault⟩ := (takes_readArtifact hfits).refuses hshort hne
    exact ⟨fault, by rw [read, hfault]; rfl⟩
  · intro other hother hne
    refine ⟨fun heq => hne ?_, fun hbegins => hne ?_, fun hbegins => hne ?_⟩
    · exact hdistinct hother hfits (heq ▸ List.prefix_refl _)
    · exact hdistinct hother hfits hbegins
    · exact (hdistinct hfits hother hbegins).symm

/-- A number of eight bytes, one just above a single byte, and characters of
every width. -/
theorem artifacts_prefix_code_wide :
    let artifact : CodeArtifact :=
      { id := 4294967296, diagramId := some 251, code := "aé€😀", language := "",
        componentName := "Form", sourceKind := .mockup }
    let other := { artifact with diagramId := none }
    write artifact =
        [253, 0, 0, 0, 0, 1, 0, 0, 0, 1, 251, 251, 0, 10, 97, 195, 169, 226, 130,
          172, 240, 159, 152, 128, 0, 4, 70, 111, 114, 109, 1]
      ∧ Fits artifact ∧ Fits other ∧ other ≠ artifact
      ∧ read (write artifact ++ [1, 2]) = .ok artifact
      ∧ (∃ fault, read ((write artifact).take 21) = .error fault)
      ∧ ¬ write other <+: write artifact := by
  intro artifact other
  have hfits : Fits artifact :=
    ⟨by decide, by decide, by decide +kernel, by decide, by decide +kernel⟩
  have hother : Fits other := ⟨hfits.1, by decide, hfits.3, hfits.4, hfits.5⟩
  have hne : other ≠ artifact := by decide
  obtain ⟨hread, hshort, hdistinct⟩ := artifacts_prefix_code hfits
  exact ⟨by decide +kernel, hfits, hother, hne, hread _,
    hshort _ (List.take_prefix _ _) (by decide +kernel),
    (hdistinct other hother hne).2.1⟩

end Wireform.ArtifactFile
