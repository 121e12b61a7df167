import Mathlib
import Wireform.Json.Reader

/-!
# Spellings of simple values

A value without brackets can be written in many ways: each character of a string as it
is or by one of its escapes, a number by any numeral, and white space around all of
them.  Printing chooses one of these ways.
-/

namespace Wireform.Json

open Reader

variable {text : List Char}

/-- A text with white space around it. -/
def Spaced (solid text : List Char) : Prop :=
  ∃ before after, before.all isSpace = true ∧ after.all isSpace = true ∧
    text = before ++ (solid ++ after)

/-- The ways to write a character of a string literal: as it is, by the letter of an
escape, by the number of its code unit, or by the two numbers of a surrogate pair. -/
inductive CharText : List Char → Char → Prop where
  | plain {c : Char} (hcontrol : 0x20 ≤ c.toNat) (hquote : c ≠ '"')
      (hbackslash : c ≠ '\\') : CharText [c] c
  | letter {c escaped : Char} (hletter : shortEscape c = some escaped) :
      CharText ['\\', c] escaped
  | unit {a b c d : Char} {unit : Nat} (hunit : hexQuad a b c d = some unit)
      (hleading : isLeading unit = false) (htrailing : isTrailing unit = false) :
      CharText ['\\', 'u', a, b, c, d] (Char.ofNat unit)
  | pair {a b c d e f g h : Char} {leading trailing : Nat}
      (hfirst : hexQuad a b c d = some leading) (hleading : isLeading leading = true)
      (hsecond : hexQuad e f g h = some trailing)
      (htrailing : isTrailing trailing = true) :
      CharText ['\\', 'u', a, b, c, d, '\\', 'u', e, f, g, h] (pairChar leading trailing)

/-- The ways to write the characters of a string literal. -/
inductive CharTexts : List Char → List Char → Prop where
  | nil : CharTexts [] []
  | cons {text more : List Char} {c : Char} {chars : List Char} (first : CharText text c)
      (others : CharTexts more chars) : CharTexts (text ++ more) (c :: chars)

/-- The ways to write a string. -/
def StringText (text : List Char) (value : String) : Prop :=
  ∃ inside, CharTexts inside value.toList ∧ text = '"' :: (inside ++ ['"'])

/-- The way to write a truth value. -/
def booleanText : Bool → List Char
  | true => "true".toList
  | false => "false".toList

/-- Digits, at least one. -/
structure IsDigits (text : List Char) : Prop where
  notEmpty : text ≠ []
  digits : ∀ c ∈ text, isDigit c = true

/-- The integer part of a numeral: a zero, or digits that do not begin with one. -/
inductive WholeText : List Char → Prop where
  | zero : WholeText ['0']
  | digits {text : List Char} (hdigits : IsDigits text) (hzero : text.head? ≠ some '0') :
      WholeText text

/-- The fraction of a numeral, if it has one, and the digits in it. -/
inductive FractionText : List Char → List Char → Prop where
  | none : FractionText [] []
  | digits {digits : List Char} (hdigits : IsDigits digits) :
      FractionText ('.' :: digits) digits

/-- The sign of an exponent, and whether it is positive. -/
inductive SignText : List Char → Bool → Prop where
  | none : SignText [] true
  | plus : SignText ['+'] true
  | minus : SignText ['-'] false

/-- The exponent of a numeral, if it has one, and its value. -/
inductive ExponentText : List Char → ℤ → Prop where
  | none : ExponentText [] 0
  | digits {mark : Char} {sign digits : List Char} {positive : Bool}
      (hmark : isExponentMark mark = true) (hsign : SignText sign positive)
      (hdigits : IsDigits digits) :
      ExponentText (mark :: (sign ++ digits))
        (if positive then Nat.ofDigitChars 10 digits 0 else -Nat.ofDigitChars 10 digits 0)

/-- A numeral: whether it has a minus sign, its digits before and after the point, and its
exponent. -/
structure Numeral where
  negative : Bool
  whole : List Char
  fraction : List Char
  power : ℤ

namespace Numeral

/-- The digits of a numeral, taken as an integer. -/
def significand (numeral : Numeral) : Nat :=
  Nat.ofDigitChars 10 (numeral.whole ++ numeral.fraction) 0

/-- The power of ten that the last digit of a numeral counts. -/
def exponent (numeral : Numeral) : ℤ := numeral.power - numeral.fraction.length

end Numeral

def minusText : Bool → List Char
  | true => ['-']
  | false => []

/-- The ways to write a number, of whatever size and precision. -/
def NumeralText (text : List Char) (numeral : Numeral) : Prop :=
  ∃ fraction exponent, WholeText numeral.whole ∧ FractionText fraction numeral.fraction ∧
    ExponentText exponent numeral.power ∧
    text = minusText numeral.negative ++ (numeral.whole ++ (fraction ++ exponent))

/-- The ways to write a string, a number, a truth value or `null`. -/
inductive ScalarText : List Char → Prop where
  | string {text : List Char} {value : String} (hstring : StringText text value) :
      ScalarText text
  | numeral {text : List Char} {numeral : Numeral} (hnumeral : NumeralText text numeral) :
      ScalarText text
  | boolean (value : Bool) : ScalarText (booleanText value)
  | null : ScalarText "null".toList

theorem WholeText.exists_cons (htext : WholeText text) :
    ∃ c more, text = c :: more ∧ isDigit c = true := by
  cases htext with
  | zero => exact ⟨'0', [], rfl, rfl⟩
  | digits hdigits _ =>
    obtain ⟨c, more, rfl⟩ := List.exists_cons_of_ne_nil hdigits.notEmpty
    exact ⟨c, more, rfl, hdigits.digits c List.mem_cons_self⟩

theorem Spaced.refl (solid : List Char) : Spaced solid solid :=
  ⟨[], [], rfl, rfl, (List.append_nil solid).symm⟩

/-- No letter of an escape is that of the escapes by number. -/
theorem ne_u_of_shortEscape {c escaped : Char} (hletter : shortEscape c = some escaped) :
    c ≠ 'u' := by
  rintro rfl
  cases hletter

theorem isTrailing_of_isLeading {unit : Nat} (hunit : isLeading unit = true) :
    isTrailing unit = false := by
  simp only [isLeading, Bool.and_eq_true, decide_eq_true_eq] at hunit
  simp only [isTrailing, Bool.and_eq_false_iff, decide_eq_false_iff_not]
  exact .inl (by omega)

/-! ## Printed strings -/

/-- The characters that are escaped by their numbers are read back. -/
theorem hexQuad_twoHexDigits :
    ∀ n < 0x20, ∃ a b, twoHexDigits n = [a, b] ∧ hexQuad '0' '0' a b = some n := by
  intro n hn
  refine ⟨_, _, rfl, ?_⟩
  revert n
  decide

/-- The printing of a character is one of the ways to write it. -/
theorem charText_escapeChar (c : Char) : CharText (escapeChar c) c := by
  by_cases hquote : c = '"'
  · subst hquote
    exact .letter rfl
  by_cases hbackslash : c = '\\'
  · subst hbackslash
    exact .letter rfl
  by_cases hshort : c = '\x08' ∨ c = '\x0c' ∨ c = '\n' ∨ c = '\r' ∨ c = '\t'
  · obtain rfl | rfl | rfl | rfl | rfl := hshort <;> exact .letter rfl
  obtain ⟨hb, hf, hn, hr, ht⟩ := by simpa only [not_or] using hshort
  rw [escapeChar, if_neg hquote, if_neg hbackslash, if_neg hb, if_neg hf, if_neg hn,
    if_neg hr, if_neg ht]
  by_cases hcontrol : c.toNat < 0x20
  · obtain ⟨a, b, hdigits, hquad⟩ := hexQuad_twoHexDigits c.toNat hcontrol
    have hleading : isLeading c.toNat = false := by
      simp only [isLeading, Bool.and_eq_false_iff, decide_eq_false_iff_not]
      omega
    have htrailing : isTrailing c.toNat = false := by
      simp only [isTrailing, Bool.and_eq_false_iff, decide_eq_false_iff_not]
      omega
    have hunit := CharText.unit hquad hleading htrailing
    rw [Char.ofNat_toNat] at hunit
    rw [if_pos hcontrol, hdigits]
    exact hunit
  · rw [if_neg hcontrol]
    exact .plain (Nat.not_lt.1 hcontrol) hquote hbackslash

theorem charTexts_flatMap (chars : List Char) :
    CharTexts (chars.flatMap escapeChar) chars := by
  induction chars with
  | nil => exact .nil
  | cons c chars ih => exact .cons (charText_escapeChar c) ih

/-- The printing of a string is one of the ways to write it. -/
theorem stringText_literal (text : String) : StringText (literal text).toList text := by
  refine ⟨_, charTexts_flatMap text.toList, ?_⟩
  rw [literal, String.toList_ofList]
  rfl

end Wireform.Json
