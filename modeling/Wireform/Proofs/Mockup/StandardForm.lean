import Mathlib
import Wireform.Proofs.Mockup.Base64

/-!
# The standard form of a byte string

The bits of the bytes, cut into values of six bits, are written in an alphabet of
64 characters.  Zero bits fill up the last value and pads the last group of four
characters.  A byte string has one such form, which is its encoding.
-/

namespace Wireform.Base64

variable {a b c : UInt8} {bytes : List UInt8} {text symbols : List Char}
  {digits others : List Nat}

/-! ## Bits -/

/-- The bits of a number, the highest one first. -/
def bits : Nat → Nat → List Bool
  | 0, _ => []
  | width + 1, n => n.testBit width :: bits width n

theorem length_bits (width n : Nat) : (bits width n).length = width := by
  induction width with
  | zero => rfl
  | succ width ih => rw [bits, List.length_cons, ih]

theorem bits_add (high low n : Nat) :
    bits (high + low) n = bits high (n / 2 ^ low) ++ bits low n := by
  induction high with
  | zero => rw [Nat.zero_add]; rfl
  | succ high ih =>
    rw [Nat.add_right_comm, bits, bits, ih, Nat.testBit_div_two_pow, List.cons_append]

theorem bits_mod {width size : Nat} (hwidth : width ≤ size) (n : Nat) :
    bits width (n % 2 ^ size) = bits width n := by
  induction width with
  | zero => rfl
  | succ width ih =>
    have hbit : width < size := hwidth
    rw [bits, bits, ih (Nat.le_of_lt hbit), Nat.testBit_mod_two_pow, decide_eq_true hbit,
      Bool.true_and]

theorem bits_zero (width : Nat) : bits width 0 = List.replicate width false := by
  induction width with
  | zero => rfl
  | succ width ih => rw [bits, ih, Nat.zero_testBit, List.replicate_succ]

/-- Bits of two numbers that lie side by side in one. -/
theorem bits_concat (high low n : Nat) {m : Nat} (hm : m < 2 ^ low) :
    bits (high + low) (n * 2 ^ low + m) = bits high n ++ bits low m := by
  have hhigh : (n * 2 ^ low + m) / 2 ^ low = n := by
    rw [Nat.mul_comm, Nat.mul_add_div (by positivity), Nat.div_eq_of_lt hm, Nat.add_zero]
  have hlow : (n * 2 ^ low + m) % 2 ^ low = m := by
    rw [Nat.mul_comm, Nat.mul_add_mod, Nat.mod_eq_of_lt hm]
  rw [bits_add, hhigh, ← bits_mod (le_refl low) (_ + m), hlow]

/-- Bits that the end of one number and another number fill together. -/
theorem bits_carry (high shared low n : Nat) {m : Nat} (hm : m < 2 ^ low) :
    bits high (n / 2 ^ shared) ++ bits (shared + low) (n % 2 ^ shared * 2 ^ low + m) =
      bits (high + shared) n ++ bits low m := by
  rw [bits_concat shared low _ hm, bits_mod (le_refl shared), bits_add high shared,
    List.append_assoc]

theorem bits_injective : ∀ v < 64, ∀ w < 64, bits 6 v = bits 6 w → v = w := by
  decide +kernel

/-! ## Values -/

/-- The values that the bits of a byte string make up, six bits each, the last one
filled up with zeros. -/
def HasSextets (bytes : List UInt8) (digits : List Nat) : Prop :=
  ∃ filling < 6, digits.flatMap (bits 6) =
    bytes.flatMap (fun byte => bits 8 byte.toNat) ++ List.replicate filling false

/-- The first two of four values hold a byte and the upper half of the next one. -/
theorem bits_first (a b : UInt8) :
    bits 6 (a.toNat / 4) ++ bits 6 (a.toNat % 4 * 16 + b.toNat / 16) =
      bits 8 a.toNat ++ bits 4 (b.toNat / 16) := by
  have hb : b.toNat / 16 < 2 ^ 4 := Nat.div_lt_of_lt_mul b.toNat_lt
  exact bits_carry 6 2 4 a.toNat hb

/-- The first three of four values hold two bytes and the upper quarter of the next
one. -/
theorem bits_second (a b c : UInt8) :
    bits 6 (a.toNat / 4) ++ bits 6 (a.toNat % 4 * 16 + b.toNat / 16)
        ++ bits 6 (b.toNat % 16 * 4 + c.toNat / 64) =
      bits 8 a.toNat ++ bits 8 b.toNat ++ bits 2 (c.toNat / 64) := by
  have hc : c.toNat / 64 < 2 ^ 2 := Nat.div_lt_of_lt_mul c.toNat_lt
  have hcarry : bits 4 (b.toNat / 16) ++ bits 6 (b.toNat % 16 * 4 + c.toNat / 64) =
      bits 8 b.toNat ++ bits 2 (c.toNat / 64) :=
    bits_carry 4 4 2 b.toNat hc
  rw [bits_first, List.append_assoc, hcarry, List.append_assoc]

/-- Four values hold three bytes. -/
theorem bits_third (a b c : UInt8) :
    bits 6 (a.toNat / 4) ++ bits 6 (a.toNat % 4 * 16 + b.toNat / 16)
        ++ bits 6 (b.toNat % 16 * 4 + c.toNat / 64) ++ bits 6 (c.toNat % 64) =
      bits 8 a.toNat ++ bits 8 b.toNat ++ bits 8 c.toNat := by
  have hmod : bits 6 (c.toNat % 64) = bits 6 c.toNat := bits_mod (le_refl 6) c.toNat
  have hadd : bits 8 c.toNat = bits 2 (c.toNat / 64) ++ bits 6 c.toNat :=
    bits_add 2 6 c.toNat
  rw [bits_second, hmod, hadd, List.append_assoc]

theorem hasSextets_lastSextets (hpos : 0 < bytes.length) (hlength : bytes.length ≤ 3) :
    HasSextets bytes (lastSextets bytes) := by
  match bytes, hpos, hlength with
  | [a], _, _ =>
    exact ⟨4, by omega, by simpa [lastSextets, sextets, bits_zero] using bits_first a 0⟩
  | [a, b], _, _ =>
    exact ⟨2, by omega, by simpa [lastSextets, sextets, bits_zero] using bits_second a b 0⟩
  | [a, b, c], _, _ =>
    exact ⟨0, by omega, by simpa [lastSextets, sextets] using bits_third a b c⟩

/-- Values of a group stand before those of the bytes behind it. -/
theorem HasSextets.group (hrest : HasSextets bytes digits) (a b c : UInt8) :
    HasSextets (a :: b :: c :: bytes) (sextets a b c ++ digits) := by
  obtain ⟨filling, hfilling, hbits⟩ := hrest
  refine ⟨filling, hfilling, ?_⟩
  have hgroup : (sextets a b c).flatMap (bits 6) =
      [a, b, c].flatMap fun byte => bits 8 byte.toNat := by
    simpa [sextets] using bits_third a b c
  calc
    _ = [a, b, c].flatMap (fun byte => bits 8 byte.toNat) ++ digits.flatMap (bits 6) := by
      rw [List.flatMap_append, hgroup]
    _ = _ := by
      rw [hbits, ← List.append_assoc, ← List.flatMap_append]
      rfl

/-- The encoding of a byte string writes values and fills up with pads. -/
structure WrittenAs (bytes : List UInt8) (digits : List Nat) (pads : Nat) : Prop where
  sextets : HasSextets bytes digits
  digits_lt : ∀ value ∈ digits, value < 64
  pads_lt : pads < 4
  encode_eq : encode bytes = digits.map symbol ++ List.replicate pads pad

theorem writtenAs_last (hpos : 0 < bytes.length) (hlength : bytes.length ≤ 3) :
    WrittenAs bytes (lastSextets bytes) (3 - bytes.length) where
  sextets := hasSextets_lastSextets hpos hlength
  digits_lt := fun _ => lastSextets_lt
  pads_lt := by omega
  encode_eq := encode_last hpos hlength

theorem WrittenAs.group {pads : Nat} (hrest : WrittenAs bytes digits pads)
    (a b c : UInt8) :
    WrittenAs (a :: b :: c :: bytes) (Base64.sextets a b c ++ digits) pads where
  sextets := hrest.sextets.group a b c
  digits_lt := by
    intro value hvalue
    rcases List.mem_append.mp hvalue with hvalue | hvalue
    · exact sextets_lt hvalue
    · exact hrest.digits_lt value hvalue
  pads_lt := hrest.pads_lt
  encode_eq := by
    rw [encode_three, hrest.encode_eq, List.map_append, List.append_assoc]

theorem exists_writtenAs (bytes : List UInt8) : ∃ digits pads, WrittenAs bytes digits pads := by
  induction bytes using encode.induct with
  | case1 => exact ⟨[], 0, ⟨0, by omega, rfl⟩, by simp, by omega, rfl⟩
  | case2 a => exact ⟨_, _, writtenAs_last (by simp) (by simp)⟩
  | case3 a b => exact ⟨_, _, writtenAs_last (by simp) (by simp)⟩
  | case4 a b c rest ih =>
    obtain ⟨digits, pads, hwritten⟩ := ih
    exact ⟨_, _, hwritten.group a b c⟩

/-- Values with the same bits are the same. -/
theorem eq_of_flatMap_bits (hdigits : ∀ value ∈ digits, value < 64)
    (hothers : ∀ value ∈ others, value < 64) (hlength : digits.length = others.length)
    (hbits : digits.flatMap (bits 6) = others.flatMap (bits 6)) : digits = others := by
  induction digits generalizing others with
  | nil => exact (List.length_eq_zero_iff.mp hlength.symm).symm
  | cons v digits ih =>
    cases others with
    | nil => cases hlength
    | cons w others =>
      rw [List.flatMap_cons, List.flatMap_cons] at hbits
      obtain ⟨hfirst, hrest⟩ := List.append_inj hbits (by rw [length_bits, length_bits])
      rw [List.forall_mem_cons] at hdigits hothers
      rw [bits_injective v hdigits.1 w hothers.1 hfirst,
        ih hdigits.2 hothers.2 (Nat.succ.inj hlength) hrest]

theorem six_mul_length {filling : Nat} (hbits : digits.flatMap (bits 6) =
      bytes.flatMap (fun byte => bits 8 byte.toNat) ++ List.replicate filling false) :
    6 * digits.length = 8 * bytes.length + filling := by
  have hlength := congrArg List.length hbits
  simpa [length_bits, Nat.mul_comm] using hlength

/-- The bits of a byte string make up its values in one way. -/
theorem HasSextets.unique (hleft : HasSextets bytes digits)
    (hright : HasSextets bytes others) (hdigits : ∀ value ∈ digits, value < 64)
    (hothers : ∀ value ∈ others, value < 64) : digits = others := by
  obtain ⟨p, _, hp⟩ := hleft
  obtain ⟨q, _, hq⟩ := hright
  -- Fewer than six zeros leave no choice how many they are.
  have hps := six_mul_length hp
  have hqs := six_mul_length hq
  have hboth : p = q := by omega
  apply eq_of_flatMap_bits hdigits hothers
  · omega
  · rw [hp, hq, hboth]

/-! ## Characters -/

/-- The characters of the encoding of a byte string. -/
def characters (bytes : List UInt8) : List Char :=
  (encode bytes).map fun s => Char.ofNat s.toNat

theorem utf8EncodeChar_of_lt {s : UInt8} (hs : s.toNat < 128) :
    String.utf8EncodeChar (Char.ofNat s.toNat) = [s] := by
  have hall : ∀ code < 128,
      String.utf8EncodeChar (Char.ofNat code) = [UInt8.ofNat code] := by
    decide +kernel
  rw [hall s.toNat hs, UInt8.ofNat_toNat]

theorem encode_characters (bytes : List UInt8) :
    Utf8.encode (String.ofList (characters bytes)) = encode bytes := by
  have hall : ∀ s ∈ encode bytes, s.toNat < 128 := by
    obtain ⟨digits, pads, hwritten⟩ := exists_writtenAs bytes
    intro s hs
    rw [hwritten.encode_eq, List.mem_append] at hs
    rcases hs with hs | hs
    · obtain ⟨value, hvalue, rfl⟩ := List.mem_map.mp hs
      exact symbol_lt value (hwritten.digits_lt value hvalue)
    · rw [List.eq_of_mem_replicate hs]
      decide
  rw [Utf8.encode, String.toList_ofList, characters, List.flatMap_map]
  generalize encode bytes = symbols at hall
  induction symbols with
  | nil => rfl
  | cons s symbols ih =>
    rw [List.flatMap_cons, utf8EncodeChar_of_lt (hall s List.mem_cons_self),
      ih fun t ht => hall t (List.mem_cons_of_mem s ht)]
    rfl

/-- A text decodes when its characters are those of an encoding. -/
theorem decode_characters_iff {characters : List Char} :
    decode (Utf8.encode (String.ofList characters)) = .ok bytes ↔
      characters = Base64.characters bytes := by
  rw [decode_eq_ok_iff, ← encode_characters]
  constructor
  · intro heq
    have hdecode := congrArg Utf8.decode heq
    rw [Utf8.decode_encode, Utf8.decode_encode] at hdecode
    exact String.ofList_inj.mp (Except.ok.inj hdecode)
  · rintro rfl
    rfl

/-- The characters that stand for the values, in their order. -/
def alphabet : String :=
  "ABCDEFGHIJKLMNOPQRSTUVWXYZabcdefghijklmnopqrstuvwxyz0123456789+/"

/-- The symbols stand for the characters of the alphabet in their order. -/
theorem map_symbol_range :
    (List.range 64).map (fun value => Char.ofNat (symbol value).toNat) =
      alphabet.toList := by
  decide

/-- The padded standard form of a byte string: the characters of its values in
the alphabet, filled up to whole groups of four. -/
def Spells (text : List Char) (bytes : List UInt8) : Prop :=
  ∃ digits symbols, ∃ pads < 4, HasSextets bytes digits ∧
    digits.map (fun value => alphabet.toList[value]?) = symbols.map some ∧
    text = symbols ++ List.replicate pads '=' ∧ text.length % 4 = 0

theorem alphabet_getElem?_eq_some_iff {value : Nat} {c : Char} :
    alphabet.toList[value]? = some c ↔
      value < 64 ∧ c = Char.ofNat (symbol value).toNat := by
  rw [← map_symbol_range, List.getElem?_map]
  by_cases hvalue : value < 64
  · simp [hvalue, eq_comm]
  · simp [hvalue]

theorem map_alphabet_eq_iff :
    digits.map (fun value => alphabet.toList[value]?) = symbols.map some ↔
      (∀ value ∈ digits, value < 64) ∧
        symbols = digits.map fun value => Char.ofNat (symbol value).toNat := by
  induction digits generalizing symbols with
  | nil => cases symbols <;> simp
  | cons value digits ih =>
    cases symbols with
    | nil => simp
    | cons c symbols =>
      simp only [List.map_cons, List.cons.injEq, alphabet_getElem?_eq_some_iff, ih,
        List.forall_mem_cons]
      tauto

/-- The standard form of a byte string is its encoding. -/
theorem spells_iff : Spells text bytes ↔ text = characters bytes := by
  obtain ⟨digits, pads, hwritten⟩ := exists_writtenAs bytes
  have hcharacters : characters bytes =
      digits.map (fun value => Char.ofNat (symbol value).toNat)
        ++ List.replicate pads '=' := by
    rw [characters, hwritten.encode_eq, List.map_append, List.map_map, List.map_replicate]
    rfl
  have hlength : (characters bytes).length % 4 = 0 := by
    rw [characters, List.length_map, length_encode_mod]
  constructor
  · rintro ⟨others, symbols, count, hcount, hother, hsymbols, rfl, hfull⟩
    obtain ⟨hothers, rfl⟩ := map_alphabet_eq_iff.mp hsymbols
    obtain rfl := hwritten.sextets.unique hother hwritten.digits_lt hothers
    have hpads := hwritten.pads_lt
    rw [hcharacters] at hlength ⊢
    simp only [List.length_append, List.length_map, List.length_replicate] at hlength hfull
    have hboth : count = pads := by omega
    rw [hboth]
  · rintro rfl
    exact ⟨digits, _, pads, hwritten.pads_lt, hwritten.sextets,
      map_alphabet_eq_iff.mpr ⟨hwritten.digits_lt, rfl⟩, hcharacters, hlength⟩

/-- A text decodes when it is the standard form of what it decodes to. -/
theorem decode_eq_ok_iff_spells :
    decode (Utf8.encode (String.ofList text)) = .ok bytes ↔ Spells text bytes :=
  decode_characters_iff.trans spells_iff.symm

end Wireform.Base64
