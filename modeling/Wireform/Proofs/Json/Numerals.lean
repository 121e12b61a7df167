import Mathlib
import Wireform.Json.Decoder
import Wireform.Proofs.Binary64.Rounding
import Wireform.Proofs.Json.Outcomes

/-!
# Reading numerals

A numeral of any length is read as a whole or refused.  The reader keeps the digits of a
numeral as one integer, as long as it is small enough, next to the power of ten that the
last digit counts.  So a numeral that stands for a number of the format is read as that
number when its digits make up such a number as well.
-/

namespace Wireform.Json

open Reader

namespace Numeral

/-- A numeral stands for exactly the given number. -/
def Denotes (numeral : Numeral) (x : Binary64) : Prop :=
  x.isFinite = true ∧ x.negative = numeral.negative ∧
    Binary64.value x.magnitude = numeral.significand * 10 ^ numeral.exponent

/-- The digits of a numeral make up a number of the format that fits into 64 bits, and its
exponent, if it matters, is no larger than what is kept. -/
structure IsPlain (numeral : Numeral) : Prop where
  fits : numeral.significand < 2 ^ 64
  representable : ∃ magnitude < Binary64.infinite,
    Binary64.value magnitude = numeral.significand
  power : numeral.significand = 0 ∨ numeral.power < 2 ^ 31

end Numeral

/-- Digits that make up less than `2 ^ 53` are those of a plain numeral. -/
theorem Numeral.IsPlain.of_lt {numeral : Numeral} (hdigits : numeral.significand < 2 ^ 53)
    (hpower : numeral.power < 2 ^ 31) : numeral.IsPlain where
  fits := hdigits.trans (by decide)
  representable := Binary64.exists_value_eq hdigits
  power := .inr hpower

/-- The exponent of a plain numeral that stands for a number is kept. -/
theorem Numeral.IsPlain.natAbs_power_le {numeral : Numeral} (hplain : numeral.IsPlain)
    {magnitude : Nat}
    (hvalue : Binary64.value magnitude = numeral.significand * 10 ^ numeral.exponent) :
    numeral.significand = 0 ∨ numeral.power.natAbs ≤ maxExponent := by
  by_cases hzero : numeral.significand = 0
  · exact .inl hzero
  · have hlimit := hplain.power.resolve_left hzero
    obtain ⟨kept, -, hkept⟩ := hplain.representable
    have hne : kept ≠ 0 := by
      rintro rfl
      rw [Binary64.value_zero, eq_comm, Nat.cast_eq_zero] at hkept
      exact hzero hkept
    rw [← hkept] at hvalue
    obtain ⟨hlow, -⟩ := Binary64.exponent_bounds hne hvalue
    rw [Numeral.exponent] at hlow
    unfold maxExponent
    omega

namespace Reader

variable {digits next rest : List Char}

/-! ## Digits -/

/-- Digits are taken one after the other, all of them if their value is within the
limit. -/
theorem exists_takeDigits (hdigits : ∀ c ∈ digits, isDigit c = true)
    (hnext : next.head?.any isDigit = false) (limit value : Nat) :
    ∃ total taken left, digits = taken ++ left ∧
      takeDigits limit value (digits ++ next) = (total, taken.length) ∧
      (Nat.ofDigitChars 10 digits value ≤ limit →
        total = Nat.ofDigitChars 10 digits value ∧ left = []) := by
  by_cases hlimit : Nat.ofDigitChars 10 digits value ≤ limit
  · exact ⟨_, digits, [], (List.append_nil digits).symm,
      takeDigits_append hdigits hlimit hnext, fun _ => ⟨rfl, rfl⟩⟩
  · induction digits generalizing value with
    | nil =>
      obtain ⟨total, htotal⟩ : ∃ total, takeDigits limit value ([] ++ next) = (total, 0) := by
        cases next with
        | nil => exact ⟨value, rfl⟩
        | cons c next =>
          have hc : isDigit c = false := hnext
          exact ⟨value, by rw [List.nil_append, takeDigits, hc]; rfl⟩
      exact ⟨total, [], [], rfl, htotal, fun hle => absurd hle hlimit⟩
    | cons c more ih =>
      by_cases hvalue : value * 10 + digitValue c ≤ limit
      · have hmore : ¬Nat.ofDigitChars 10 more (value * 10 + digitValue c) ≤ limit := by
          rwa [Nat.ofDigitChars_cons, Nat.mul_comm 10 value] at hlimit
        obtain ⟨total, taken, left, rfl, htotal, -⟩ :=
          ih (fun d hd => hdigits d (List.mem_cons_of_mem c hd)) _ hmore
        refine ⟨total, c :: taken, left, rfl, ?_, fun hle => absurd hle hlimit⟩
        rw [List.cons_append, takeDigits, hdigits c List.mem_cons_self, decide_eq_true hvalue]
        simp only [Bool.and_self, if_true, htotal, List.length_cons]
      · refine ⟨value, [], c :: more, rfl, ?_, fun hle => absurd hle hlimit⟩
        rw [List.cons_append, takeDigits, decide_eq_false hvalue, Bool.and_false]
        rfl

theorem exists_reads_digitsOnto (hdigits : ∀ c ∈ digits, isDigit c = true)
    (hnext : next.head?.any isDigit = false) (limit value : Nat) :
    ∃ total taken left, digits = taken ++ left ∧
      Reads (digitsOnto limit value) (digits ++ next) (total, taken.length) (left ++ next) ∧
      (Nat.ofDigitChars 10 digits value ≤ limit →
        total = Nat.ofDigitChars 10 digits value ∧ left = []) := by
  obtain ⟨total, taken, left, rfl, htaken, hall⟩ :=
    exists_takeDigits hdigits hnext limit value
  rw [List.append_assoc] at htaken ⊢
  refine ⟨total, taken, left, rfl, fun mark => ?_, hall⟩
  refine ⟨⟨mark.line, mark.column + taken.length⟩, ?_⟩
  change EStateM.Result.ok (takeDigits limit value (taken ++ (left ++ next))) _ = _
  simp only [htaken, List.drop_left]

theorem reads_peek {text : List Char} : Reads peek text text.head? text :=
  fun mark => ⟨mark, rfl⟩

theorem reads_nextIs {text : List Char} {condition : Char → Bool} :
    Reads (nextIs condition) text (text.head?.any condition) text := fun mark => ⟨mark, rfl⟩

/-- The digits that are left are gone past. -/
theorem goesOn_leftDigits {α : Type} {left : List Char} {reader : Reader α}
    (hleft : ∀ c ∈ left, isDigit c = true) (hnext : next.head?.any isDigit = false) :
    GoesOn (skipDigits >>= fun _ => reader) (left ++ next) reader next :=
  (reads_skipDigits hleft hnext).goesOn

/-! ## Exponents -/

variable (negative : Bool) (significand : Nat) (start : ℤ) {exponent sign : List Char}
  {power : ℤ} {positive : Bool} {mark : Char}

theorem settles_decimal : Settles (decimal negative significand start) rest rest := by
  unfold decimal
  split
  · exact (reads_pure _).settles
  · exact (fails_failHere _).settles

/-- What is done with an exponent once its digits are taken. -/
def exponentEnd (negative : Bool) (significand : Nat) (start : ℤ) (positive : Bool)
    (value : Nat) : Reader Json := do
  if ← nextIs isDigit then
    if positive && significand ≠ 0 then failNext .numberOutOfRange
    else
      let _ ← skipDigits
      pure (.number ⟨negative, 0⟩)
  else decimal negative significand (if positive then start + value else start - value)

/-- The digits of an exponent come after its mark and its sign. -/
theorem goesOn_exponentPart (hsign : SignText sign positive) (hdigits : IsDigits digits)
    (hnext : next.head?.any isDigit = false) :
    ∃ value left, (∀ c ∈ left, isDigit c = true) ∧
      (Nat.ofDigitChars 10 digits 0 ≤ maxExponent →
        value = Nat.ofDigitChars 10 digits 0 ∧ left = []) ∧
      GoesOn (exponentPart negative significand start) (mark :: (sign ++ digits) ++ next)
        (exponentEnd negative significand start positive value) (left ++ next) := by
  obtain ⟨value, taken, left, htext, hreads, hall⟩ :=
    exists_reads_digitsOnto hdigits.digits hnext maxExponent 0
  have hleft : ∀ c ∈ left, isDigit c = true := fun c hc =>
    hdigits.digits c (htext ▸ List.mem_append_right taken hc)
  refine ⟨value, left, hleft, hall, ?_⟩
  obtain ⟨c, more, hcons⟩ := List.exists_cons_of_ne_nil hdigits.notEmpty
  have hc : isDigit c = true := hdigits.digits c (hcons ▸ List.mem_cons_self)
  rw [List.cons_append, List.append_assoc]
  refine (reads_advance.goesOn.trans (reads_exponentSign hsign hdigits).goesOn).trans ?_
  refine reads_peek.goesOn.trans ?_
  rw [hcons] at hreads ⊢
  simp only [List.cons_append, List.head?_cons, hc, if_true] at hreads ⊢
  exact hreads.goesOn

theorem goesOn_exponentEnd (positive : Bool) (value : Nat)
    (hnext : next.head?.any isDigit = false) :
    GoesOn (exponentEnd negative significand start positive value) next
      (decimal negative significand (if positive then start + value else start - value))
      next := by
  refine reads_nextIs.goesOn.trans ?_
  rw [hnext]
  exact .refl

/-- An exponent with digits left over makes the number too large or zero. -/
theorem goesOn_exponentEnd_of_digits {value : Nat} {left : List Char} (hleft : left ≠ [])
    (hdigits : ∀ c ∈ left, isDigit c = true) :
    GoesOn (exponentEnd negative significand start positive value) (left ++ next)
      (if positive && significand ≠ 0 then failNext .numberOutOfRange
      else skipDigits >>= fun _ => pure (.number ⟨negative, 0⟩)) (left ++ next) := by
  obtain ⟨c, more, rfl⟩ := List.exists_cons_of_ne_nil hleft
  have hc : isDigit c = true := hdigits c List.mem_cons_self
  refine reads_nextIs.goesOn.trans ?_
  rw [List.cons_append, List.head?_cons, Option.any_some, hc]
  exact .refl

theorem settles_exponentPart (hsign : SignText sign positive) (hdigits : IsDigits digits)
    (hnext : next.head?.any isDigit = false) :
    Settles (exponentPart negative significand start) (mark :: (sign ++ digits) ++ next)
      next := by
  obtain ⟨value, left, hleft, -, hgoes⟩ :=
    goesOn_exponentPart negative significand start hsign hdigits hnext
  refine hgoes.settles ?_
  by_cases hnil : left = []
  · rw [hnil]
    exact (goesOn_exponentEnd _ _ _ _ _ hnext).settles (settles_decimal ..)
  · refine (goesOn_exponentEnd_of_digits _ _ _ hnil hleft).settles ?_
    split
    · exact (fails_failNext _).settles
    · exact (goesOn_leftDigits hleft hnext).settles (reads_pure _).settles

theorem goesOn_decimalEnd_none (hrest : endsNumeral rest = true) :
    GoesOn (decimalEnd negative significand start) rest
      (decimal negative significand start) rest := by
  refine reads_nextIs.goesOn.trans ?_
  rw [any_of_endsNumeral hrest fun c hc => .inr (.inr hc)]
  exact .refl

theorem goesOn_decimalEnd_mark (hmark : isExponentMark mark = true) (text : List Char) :
    GoesOn (decimalEnd negative significand start) (mark :: text)
      (exponentPart negative significand start) (mark :: text) := by
  refine reads_nextIs.goesOn.trans ?_
  rw [List.head?_cons, Option.any_some, hmark]
  exact .refl

theorem settles_decimalEnd (hexponent : ExponentText exponent power)
    (hrest : endsNumeral rest = true) :
    Settles (decimalEnd negative significand start) (exponent ++ rest) rest := by
  cases hexponent with
  | none => exact (goesOn_decimalEnd_none _ _ _ hrest).settles (settles_decimal ..)
  | digits hmark hsign hdigits =>
    exact (goesOn_decimalEnd_mark _ _ _ hmark _).settles (settles_exponentPart _ _ _ hsign
      hdigits (any_of_endsNumeral hrest fun c hc => .inl hc))

/-- An exponent that is small enough is added to the one of the digits. -/
theorem goesOn_decimalEnd (hexponent : ExponentText exponent power)
    (hrest : endsNumeral rest = true) (hpower : power.natAbs ≤ maxExponent) :
    GoesOn (decimalEnd negative significand start) (exponent ++ rest)
      (decimal negative significand (start + power)) rest := by
  cases hexponent with
  | none =>
    rw [add_zero]
    exact goesOn_decimalEnd_none _ _ _ hrest
  | @digits mark sign digits positive hmark hsign hdigits =>
    have hnext : rest.head?.any isDigit = false :=
      any_of_endsNumeral hrest fun c hc => .inl hc
    have hfits : Nat.ofDigitChars 10 digits 0 ≤ maxExponent := by
      cases positive <;> simpa using hpower
    obtain ⟨value, left, -, hall, hgoes⟩ :=
      goesOn_exponentPart negative significand start hsign hdigits hnext
    obtain ⟨rfl, rfl⟩ := hall hfits
    refine ((goesOn_decimalEnd_mark _ _ _ hmark _).trans hgoes).trans ?_
    have hend := goesOn_exponentEnd negative significand start positive
      (Nat.ofDigitChars 10 digits 0) hnext
    cases positive with
    | false => simpa [sub_eq_add_neg] using hend
    | true => simpa using hend

variable {x : Binary64}

theorem reads_decimal (hx : Binary64.ofDecimal negative significand start = some x) :
    Reads (decimal negative significand start) rest (.number x) rest := by
  unfold decimal
  rw [hx]
  exact reads_pure _

/-- Digits that are all zero are read as zero, whatever the exponent. -/
theorem reads_decimalEnd_zero (hexponent : ExponentText exponent power)
    (hrest : endsNumeral rest = true) :
    Reads (decimalEnd negative 0 start) (exponent ++ rest) (.number ⟨negative, 0⟩) rest := by
  have hzero (exponent : ℤ) : Reads (decimal negative 0 exponent) rest _ rest :=
    reads_decimal _ _ _ (Binary64.ofDecimal_zero negative exponent)
  cases hexponent with
  | none => exact (goesOn_decimalEnd_none _ _ _ hrest).reads (hzero _)
  | digits hmark hsign hdigits =>
    have hnext : rest.head?.any isDigit = false :=
      any_of_endsNumeral hrest fun c hc => .inl hc
    obtain ⟨value, left, hleft, -, hgoes⟩ :=
      goesOn_exponentPart negative 0 start hsign hdigits hnext
    refine ((goesOn_decimalEnd_mark _ _ _ hmark _).trans hgoes).reads ?_
    by_cases hnil : left = []
    · rw [hnil]
      exact (goesOn_exponentEnd _ _ _ _ _ hnext).reads (hzero _)
    · refine (goesOn_exponentEnd_of_digits _ _ _ hnil hleft).reads ?_
      rw [if_neg (by simp)]
      exact (goesOn_leftDigits hleft hnext).reads (reads_pure _)

theorem reads_decimalEnd (hexponent : ExponentText exponent power)
    (hrest : endsNumeral rest = true)
    (hpower : significand = 0 ∨ power.natAbs ≤ maxExponent)
    (hx : Binary64.ofDecimal negative significand (start + power) = some x) :
    Reads (decimalEnd negative significand start) (exponent ++ rest) (.number x) rest := by
  obtain rfl | hpower := hpower
  · rw [Binary64.ofDecimal_zero] at hx
    rw [← Option.some.inj hx]
    exact reads_decimalEnd_zero _ _ hexponent hrest
  · exact (goesOn_decimalEnd _ _ _ hexponent hrest hpower).reads (reads_decimal _ _ _ hx)

/-! ## Fractions -/

theorem goesOn_fractionPart (hdigits : IsDigits digits)
    (hnext : next.head?.any isDigit = false) :
    ∃ total count : Nat, (Nat.ofDigitChars 10 digits significand ≤ maxUnsigned →
        total = Nat.ofDigitChars 10 digits significand ∧ count = digits.length) ∧
      GoesOn (fractionPart negative significand start) ('.' :: digits ++ next)
        (decimalEnd negative total (start - count)) next := by
  obtain ⟨total, taken, left, htext, hreads, hall⟩ :=
    exists_reads_digitsOnto hdigits.digits hnext maxUnsigned significand
  have hleft : ∀ c ∈ left, isDigit c = true := fun c hc =>
    hdigits.digits c (htext ▸ List.mem_append_right taken hc)
  refine ⟨total, taken.length, fun hfits => ?_, ?_⟩
  · obtain ⟨htotal, rfl⟩ := hall hfits
    rw [List.append_nil] at htext
    exact ⟨htotal, congrArg List.length htext.symm⟩
  refine reads_advance.goesOn.trans (hreads.goesOn.trans (reads_nextIs.goesOn.trans ?_))
  cases left with
  | nil =>
    have htaken : taken.length ≠ 0 := by
      rw [List.append_nil] at htext
      rw [← htext]
      exact (List.length_pos_iff.2 hdigits.notEmpty).ne'
    rw [List.nil_append, hnext, if_neg Bool.false_ne_true, if_neg htaken]
    exact .refl
  | cons c left =>
    rw [List.cons_append, List.head?_cons, Option.any_some, hleft c List.mem_cons_self,
      if_pos rfl]
    exact goesOn_leftDigits hleft hnext

/-! ## Whole numerals -/

variable {whole fraction : List Char}

/-- The exponent of an integer is read like that of a fraction. -/
theorem goesOn_integerEnd_exponent (hmark : isExponentMark mark = true) (text : List Char) :
    GoesOn (integerEnd negative significand) (mark :: text)
      (decimalEnd negative significand 0) (mark :: text) := by
  have hpoint : decide (mark = '.') = false := by
    refine decide_eq_false ?_
    rintro rfl
    cases hmark
  intro place
  have hnext (condition : Char → Bool) : nextIs condition ⟨mark :: text, place⟩ =
      .ok (condition mark) ⟨mark :: text, place⟩ := rfl
  refine ⟨place, ?_⟩
  rw [integerEnd, bind_of_ok (hnext _), hpoint, if_neg Bool.false_ne_true,
    bind_of_ok (hnext _), decimalEnd, bind_of_ok (hnext _), hmark, if_pos rfl, if_pos rfl]

theorem settles_fractionPart (hdigits : IsDigits digits)
    (hexponent : ExponentText exponent power) (hrest : endsNumeral rest = true) :
    Settles (fractionPart negative significand start)
      ('.' :: digits ++ (exponent ++ rest)) rest := by
  obtain ⟨total, count, -, hgoes⟩ := goesOn_fractionPart negative significand start hdigits
    (head_end .none hexponent hrest)
  exact hgoes.settles (settles_decimalEnd _ _ _ hexponent hrest)

theorem settles_integerEnd (hfraction : FractionText fraction digits)
    (hexponent : ExponentText exponent power) (hrest : endsNumeral rest = true) :
    Settles (integerEnd negative significand) (fraction ++ (exponent ++ rest)) rest := by
  cases hfraction with
  | digits hdigits =>
    exact reads_nextIs.goesOn.settles (settles_fractionPart _ _ _ hdigits hexponent hrest)
  | none =>
    cases hexponent with
    | none =>
      refine reads_nextIs.goesOn.settles ?_
      rw [List.nil_append, head_exponent .none hrest]
      refine reads_nextIs.goesOn.settles ?_
      rw [List.nil_append, any_of_endsNumeral hrest fun c hc => .inr (.inr hc)]
      exact (reads_pure _).settles
    | digits hmark hsign hdigits =>
      exact (goesOn_integerEnd_exponent _ _ hmark _).settles
        (settles_decimalEnd _ _ _ (.digits hmark hsign hdigits) hrest)

theorem settles_longInteger {left : List Char} (hleft : ∀ c ∈ left, isDigit c = true)
    (hfraction : FractionText fraction digits) (hexponent : ExponentText exponent power)
    (hrest : endsNumeral rest = true) :
    Settles (longInteger negative significand) (left ++ (fraction ++ (exponent ++ rest)))
      rest := by
  have hnext := head_end hfraction hexponent hrest
  refine (reads_skipDigits hleft hnext).goesOn.settles (reads_nextIs.goesOn.settles ?_)
  cases hfraction with
  | digits hdigits => exact settles_fractionPart _ _ _ hdigits hexponent hrest
  | none =>
    rw [List.nil_append, head_exponent hexponent hrest]
    exact settles_decimalEnd _ _ _ hexponent hrest

/-- The integer part of a numeral is read first. -/
theorem goesOn_number (hwhole : WholeText whole) (hnext : next.head?.any isDigit = false) :
    ∃ total left, (∀ c ∈ left, isDigit c = true) ∧
      (Nat.ofDigitChars 10 whole 0 ≤ maxUnsigned →
        total = Nat.ofDigitChars 10 whole 0 ∧ left = []) ∧
      GoesOn (number negative) (whole ++ next)
        (if left.isEmpty then integerEnd negative total else longInteger negative total)
        (left ++ next) := by
  cases hwhole with
  | zero =>
    refine ⟨0, [], by simp, fun _ => ⟨rfl, rfl⟩, ?_⟩
    refine reads_peek.goesOn.trans (reads_advance.goesOn.trans (reads_nextIs.goesOn.trans ?_))
    have hnext : ([].append next).head?.any isDigit = false := hnext
    rw [hnext]
    exact .refl
  | digits hdigits hzero =>
    obtain ⟨total, taken, left, htext, hreads, hall⟩ :=
      exists_reads_digitsOnto hdigits.digits hnext maxUnsigned 0
    have hleft : ∀ c ∈ left, isDigit c = true := fun c hc =>
      hdigits.digits c (htext ▸ List.mem_append_right taken hc)
    refine ⟨total, left, hleft, hall, ?_⟩
    obtain ⟨c, more, rfl⟩ := List.exists_cons_of_ne_nil hdigits.notEmpty
    have hc : isDigit c = true := hdigits.digits c List.mem_cons_self
    have hne : c ≠ '0' := fun heq => hzero (congrArg some heq)
    refine reads_peek.goesOn.trans ?_
    simp only [List.cons_append, List.head?_cons, if_neg hne, hc, if_true] at hreads ⊢
    refine hreads.goesOn.trans (reads_nextIs.goesOn.trans ?_)
    cases left with
    | nil =>
      rw [List.nil_append, hnext]
      exact .refl
    | cons d left =>
      rw [List.cons_append, List.head?_cons, Option.any_some, hleft d List.mem_cons_self]
      exact .refl

/-- A numeral of any length is read as a whole or refused. -/
theorem settles_number (hwhole : WholeText whole) (hfraction : FractionText fraction digits)
    (hexponent : ExponentText exponent power) (hrest : endsNumeral rest = true) :
    Settles (number negative) (whole ++ (fraction ++ (exponent ++ rest))) rest := by
  obtain ⟨total, left, hleft, -, hgoes⟩ :=
    goesOn_number negative hwhole (head_end hfraction hexponent hrest)
  refine hgoes.settles ?_
  split
  · rename_i hempty
    rw [List.isEmpty_iff.1 hempty]
    exact settles_integerEnd _ _ hfraction hexponent hrest
  · exact settles_longInteger _ _ hleft hfraction hexponent hrest

/-! ## Plain numerals -/

/-- The decoder takes an integer for the number that it is rounded to. -/
theorem ofJson_integerValue :
    Decoder.binary64.ofJson (integerValue negative significand) =
      .ok ⟨negative, Binary64.nearest significand 1⟩ := by
  cases negative with
  | false =>
    have hnonneg : ¬((significand : ℤ) < 0) := by omega
    simp [integerValue, Decoder.binary64, Decoder.ofScalar, hnonneg]
  | true =>
    unfold integerValue
    rw [Bool.not_true, if_neg Bool.false_ne_true]
    split
    · rfl
    · rename_i hkept
      have hpositive : 0 < significand := by
        refine Nat.pos_of_ne_zero fun hzero => hkept ?_
        rw [hzero]
        rfl
      simp [Decoder.binary64, Decoder.ofScalar, hpositive]

/-- A numeral that keeps all its digits and stands for a number is read as the number. -/
theorem reads_number {numeral : Numeral} (hwhole : WholeText numeral.whole)
    (hfraction : FractionText fraction numeral.fraction)
    (hexponent : ExponentText exponent numeral.power) (hrest : endsNumeral rest = true)
    (hplain : numeral.IsPlain) (hdenotes : numeral.Denotes x) :
    ∃ document, Decoder.binary64.ofJson document = .ok x ∧
      Reads (number numeral.negative) (numeral.whole ++ (fraction ++ (exponent ++ rest)))
        document rest := by
  obtain ⟨negative, whole, digits, power⟩ := numeral
  obtain ⟨negative, magnitude⟩ := x
  obtain ⟨hfinite, rfl, hvalue⟩ := hdenotes
  obtain ⟨kept, hkept, hsignificand⟩ := hplain.representable
  have hmagnitude : magnitude < Binary64.infinite := by
    simpa [Binary64.isFinite] using hfinite
  have hpower := hplain.natAbs_power_le hvalue
  have hfits : Nat.ofDigitChars 10 (whole ++ digits) 0 ≤ maxUnsigned :=
    Nat.le_of_lt_succ hplain.fits
  have hwholeFits : Nat.ofDigitChars 10 whole 0 ≤ maxUnsigned := by
    rw [Nat.ofDigitChars_append] at hfits
    exact (le_ofDigitChars digits _).trans hfits
  obtain ⟨total, left, -, hall, hgoes⟩ :=
    goesOn_number negative hwhole (head_end hfraction hexponent hrest)
  obtain ⟨rfl, rfl⟩ := hall hwholeFits
  rw [List.isEmpty_nil, if_pos rfl, List.nil_append] at hgoes
  have hdecimal := Binary64.ofDecimal_eq negative hkept hsignificand hmagnitude hvalue
  cases hfraction with
  | digits hdigits =>
    refine ⟨.number ⟨negative, magnitude⟩, rfl, hgoes.reads ?_⟩
    obtain ⟨total, count, hcount, hfraction⟩ := goesOn_fractionPart negative
      (Nat.ofDigitChars 10 whole 0) 0 hdigits (head_end .none hexponent hrest)
    rw [← Nat.ofDigitChars_append] at hcount
    obtain ⟨rfl, rfl⟩ := hcount hfits
    refine (reads_nextIs.goesOn.trans hfraction).reads ?_
    refine reads_decimalEnd _ _ _ hexponent hrest hpower ?_
    rw [zero_sub, neg_add_eq_sub]
    exact hdecimal
  | none =>
    have hexponentEq : Numeral.exponent ⟨negative, whole, [], power⟩ = power := by
      rw [Numeral.exponent, List.length_nil, Nat.cast_zero, sub_zero]
    rw [Numeral.significand, List.append_nil] at hpower hdecimal hvalue
    rw [hexponentEq] at hdecimal hvalue
    cases hexponent with
    | none =>
      have hnearest : Binary64.nearest (Nat.ofDigitChars 10 whole 0) 1 = magnitude :=
        Binary64.nearest_eq hmagnitude Nat.one_pos (by simpa using hvalue.symm)
      refine ⟨_, (ofJson_integerValue _ _).trans (by rw [hnearest]), hgoes.reads ?_⟩
      refine reads_nextIs.goesOn.reads ?_
      rw [List.nil_append, head_exponent .none hrest]
      refine reads_nextIs.goesOn.reads ?_
      rw [List.nil_append, any_of_endsNumeral hrest fun c hc => .inr (.inr hc)]
      exact reads_pure _
    | digits hmark hsign hdigits =>
      refine ⟨.number ⟨negative, magnitude⟩, rfl, hgoes.reads ?_⟩
      refine (goesOn_integerEnd_exponent _ _ hmark _).reads ?_
      refine reads_decimalEnd _ _ _ (.digits hmark hsign hdigits) hrest hpower ?_
      rw [zero_add]
      exact hdecimal

end Reader

end Wireform.Json
