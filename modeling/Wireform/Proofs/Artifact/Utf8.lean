import Mathlib
import Wireform.Utf8

/-!
# Encoded texts

Decoding recovers the characters of a text from their bytes, whatever their
widths.  The bytes of a character are given by its code in base 64, so each
width comes down to one identity between quotients and remainders.
-/

namespace Wireform.Utf8

variable {seen : List Char} {offset : Nat} {a b c d : UInt8} {rest : List UInt8}

/-! ## Characters of each width -/

theorem decodeFrom_one (hwidth : width a = 1) :
    decodeFrom seen offset (a :: rest) =
      decodeFrom (Char.ofNat a.toNat :: seen) (offset + 1) rest := by
  simp [decodeFrom, hwidth]

theorem decodeFrom_two (hwidth : width a = 2) (hsecond : isSecond a b = true) :
    decodeFrom seen offset (a :: b :: rest) =
      decodeFrom (Char.ofNat (extend (a.toNat % 32) b) :: seen) (offset + 2)
        rest := by
  simp [decodeFrom, hwidth, hsecond]

theorem decodeFrom_three (hwidth : width a = 3) (hsecond : isSecond a b = true)
    (hthird : continues c = true) :
    decodeFrom seen offset (a :: b :: c :: rest) =
      decodeFrom (Char.ofNat (extend (extend (a.toNat % 16) b) c) :: seen)
        (offset + 3) rest := by
  simp [decodeFrom, hwidth, hsecond, hthird]

theorem decodeFrom_four (hwidth : width a = 4) (hsecond : isSecond a b = true)
    (hthird : continues c = true) (hfourth : continues d = true) :
    decodeFrom seen offset (a :: b :: c :: d :: rest) =
      decodeFrom
        (Char.ofNat (extend (extend (extend (a.toNat % 8) b) c) d) :: seen)
        (offset + 4) rest := by
  simp [decodeFrom, hwidth, hsecond, hthird, hfourth]

/-! ## Bytes given by numbers -/

theorem toNat_ofNat_of_lt {n : Nat} (hn : n < 256) : (UInt8.ofNat n).toNat = n := by
  rw [UInt8.toNat_ofNat', Nat.mod_eq_of_lt hn]

theorem width_ofNat {n : Nat} (hn : n < 256) :
    width (UInt8.ofNat n) =
      if n < 0x80 then 1 else if n < 0xC2 then 0 else if n < 0xE0 then 2
      else if n < 0xF0 then 3 else if n < 0xF5 then 4 else 0 := by
  simp [width, UInt8.lt_iff_toNat_lt, Nat.mod_eq_of_lt hn]

/-- The byte after the first one that holds the last six bits of a number. -/
theorem continues_ofNat (n : Nat) : continues (UInt8.ofNat (n % 64 + 128)) = true := by
  rw [continues, Bool.and_eq_true, decide_eq_true_eq, decide_eq_true_eq,
    UInt8.le_iff_toNat_le, UInt8.le_iff_toNat_le, toNat_ofNat_of_lt (by omega)]
  simp
  omega

theorem extend_ofNat (code n : Nat) :
    extend code (UInt8.ofNat (n % 64 + 128)) = code * 64 + n % 64 := by
  rw [extend, toNat_ofNat_of_lt (by omega)]
  omega

/-- Which bytes may follow the first byte of a character: those that leave out
what fewer bytes can encode, surrogates, and what lies above the last code. -/
theorem isSecond_ofNat {first second : Nat} (hfirst : first < 256)
    (hsecond : second < 256)
    (hlow : (if first = 0xE0 then 0xA0 else if first = 0xF0 then 0x90 else 0x80)
      ≤ second)
    (hhigh : second ≤
      if first = 0xED then 0x9F else if first = 0xF4 then 0x8F else 0xBF) :
    isSecond (UInt8.ofNat first) (UInt8.ofNat second) = true := by
  simp only [isSecond, secondBounds, ← UInt8.toNat_inj, UInt8.le_iff_toNat_le,
    toNat_ofNat_of_lt hfirst, toNat_ofNat_of_lt hsecond, UInt8.reduceToNat]
  split_ifs at * <;> simp <;> omega

/-! ## Whole texts -/

/-- Decoding goes past the bytes of a character at once. -/
theorem decodeFrom_encodeChar (seen : List Char) (offset : Nat)
    (character : Char) (rest : List UInt8) :
    ∃ after, decodeFrom seen offset (String.utf8EncodeChar character ++ rest) =
      decodeFrom (character :: seen) after rest := by
  have hvalid : character.val.toNat < 0xD800 ∨
      0xDFFF < character.val.toNat ∧ character.val.toNat < 0x110000 :=
    character.valid
  have hcode : Char.ofNat character.val.toNat = character :=
    Char.ofNat_toNat character
  rw [String.utf8EncodeChar]
  generalize character.val.toNat = n at hvalid hcode
  split_ifs with hone htwo hthree
  · refine ⟨offset + 1, ?_⟩
    rw [List.singleton_append, decodeFrom_one]
    · rw [toNat_ofNat_of_lt (by omega), hcode]
    · rw [width_ofNat (by omega)]
      split_ifs <;> omega
  · refine ⟨offset + 2, ?_⟩
    rw [List.cons_append, List.singleton_append, decodeFrom_two]
    · have hsplit : (n / 64 % 32 + 192) % 32 * 64 + n % 64 = n := by omega
      rw [extend_ofNat, toNat_ofNat_of_lt (by omega), hsplit, hcode]
    · rw [width_ofNat (by omega)]
      split_ifs <;> omega
    · exact isSecond_ofNat (by omega) (by omega) (by split_ifs <;> omega)
        (by split_ifs <;> omega)
  · refine ⟨offset + 3, ?_⟩
    rw [List.cons_append, List.cons_append, List.singleton_append, decodeFrom_three]
    · have hsplit : ((n / 4096 % 16 + 224) % 16 * 64 + n / 64 % 64) * 64 + n % 64 =
          n := by omega
      rw [extend_ofNat, extend_ofNat, toNat_ofNat_of_lt (by omega), hsplit, hcode]
    · rw [width_ofNat (by omega)]
      split_ifs <;> omega
    · exact isSecond_ofNat (by omega) (by omega) (by split_ifs <;> omega)
        (by split_ifs <;> omega)
    · exact continues_ofNat _
  · refine ⟨offset + 4, ?_⟩
    rw [List.cons_append, List.cons_append, List.cons_append, List.singleton_append,
      decodeFrom_four]
    · have hsplit : (((n / 262144 % 8 + 240) % 8 * 64 + n / 4096 % 64) * 64
          + n / 64 % 64) * 64 + n % 64 = n := by omega
      rw [extend_ofNat, extend_ofNat, extend_ofNat, toNat_ofNat_of_lt (by omega),
        hsplit, hcode]
    · rw [width_ofNat (by omega)]
      split_ifs <;> omega
    · exact isSecond_ofNat (by omega) (by omega) (by split_ifs <;> omega)
        (by split_ifs <;> omega)
    · exact continues_ofNat _
    · exact continues_ofNat _

theorem decodeFrom_flatMap (text seen : List Char) (offset : Nat) :
    decodeFrom seen offset (text.flatMap String.utf8EncodeChar) =
      .ok (seen.reverse ++ text) := by
  induction text generalizing seen offset with
  | nil => rw [List.flatMap_nil, decodeFrom, List.append_nil]
  | cons character text ih =>
    obtain ⟨after, hafter⟩ := decodeFrom_encodeChar seen offset character
      (text.flatMap String.utf8EncodeChar)
    rw [List.flatMap_cons, hafter, ih, List.reverse_cons, List.append_assoc,
      List.singleton_append]

/-- Decoding recovers an encoded text. -/
theorem decode_encode (text : String) : decode (encode text) = .ok text := by
  rw [decode, encode, decodeFrom_flatMap]
  simp [Except.map]

/-- Only the empty text has no bytes. -/
theorem encode_ne_nil {text : String} (htext : text ≠ "") : encode text ≠ [] := by
  intro hnil
  have hdecode : decode (encode text) = decode (encode "") := by
    rw [hnil, encode, String.toList_empty, List.flatMap_nil]
  rw [decode_encode, decode_encode] at hdecode
  exact htext (Except.ok.inj hdecode)

end Wireform.Utf8
