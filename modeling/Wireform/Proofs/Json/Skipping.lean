import Mathlib
import Wireform.Proofs.Json.Printing

/-!
# Skipped values

A member that nobody asks for is skipped.  Skipping looks at nothing but the form of
its value: it goes through any simple value, be it out of range, up to the white space
behind it.
-/

namespace Wireform.Json.Reader

variable {text solid rest : List Char}

/-! ## Strings -/

/-- Skipping goes past the spelling of a character, whatever it stands for. -/
theorem skipStringFrom_charText {c : Char} (htext : CharText text c) (rest : List Char)
    (mark : Mark) :
    ∃ after, skipStringFrom (text ++ rest) mark = skipStringFrom rest after := by
  cases htext with
  | plain hcontrol hquote hbackslash =>
    rw [List.singleton_append]
    refine ⟨mark.past c, ?_⟩
    rw [skipStringFrom, if_neg (Nat.not_lt.2 hcontrol)] <;> simp_all
  | @letter d _ hletter =>
    have hu : d ≠ 'u' := ne_u_of_shortEscape hletter
    refine ⟨(mark.past '\\').past d, ?_⟩
    rw [List.cons_append, List.singleton_append, skipStringFrom, hletter]
    · rfl
    · exact fun _ _ _ _ _ hd => absurd hd hu
    · exact hu
  | unit hunit hleading htrailing =>
    simp only [List.cons_append, List.nil_append, skipStringFrom, hunit]
    exact ⟨_, rfl⟩
  | pair hfirst hleading hsecond htrailing =>
    simp only [List.cons_append, List.nil_append, skipStringFrom, hfirst, hsecond]
    exact ⟨_, rfl⟩

theorem reads_skipStringBody {value : String} (htext : StringText text value) :
    ∃ inside, text = '"' :: inside ∧
      ∀ rest, Reads skipStringBody (inside ++ rest) () rest := by
  obtain ⟨inside, hinside, rfl⟩ := htext
  refine ⟨_, rfl, fun rest => ?_⟩
  rw [List.append_assoc, List.singleton_append]
  change ∀ mark, ∃ after, skipStringFrom (inside ++ '"' :: rest) mark = .ok () ⟨rest, after⟩
  generalize value.toList = chars at hinside
  induction hinside with
  | nil => exact fun mark => ⟨mark.past '"', rfl⟩
  | @cons text more c chars first others ih =>
    intro mark
    obtain ⟨between, hbetween⟩ := skipStringFrom_charText first (more ++ '"' :: rest) mark
    obtain ⟨after, hafter⟩ := ih between
    exact ⟨after, by rw [List.append_assoc, hbetween, hafter]⟩

/-! ## Numerals -/

/-- Whether a text goes on with no part of a numeral. -/
def endsNumeral (next : List Char) : Bool :=
  next.head?.all fun c => !isDigit c && c ≠ '.' && !isExponentMark c

/-- Neither white space nor the end of a value is part of a numeral. -/
theorem endsNumeral_append {gap tail : List Char} (hgap : gap.all isSpace = true)
    (htail : endsValue tail = true) : endsNumeral (gap ++ tail) = true := by
  cases gap with
  | nil =>
    cases tail with
    | nil => rfl
    | cons c tail =>
      have hc : (c = ',' ∨ c = ']') ∨ c = '}' := by simpa [endsValue] using htail
      obtain (rfl | rfl) | rfl := hc <;> rfl
  | cons c gap =>
    rw [List.all_cons, Bool.and_eq_true] at hgap
    have hc : ((c = ' ' ∨ c = '\n') ∨ c = '\t') ∨ c = '\r' := by
      simpa [isSpace] using hgap.1
    obtain ((rfl | rfl) | rfl) | rfl := hc <;> rfl

section Numerals

variable {whole fraction digits exponent : List Char} {power : ℤ}

theorem any_of_endsNumeral {condition : Char → Bool} (hrest : endsNumeral rest = true)
    (hcondition : ∀ c, condition c = true →
      isDigit c = true ∨ c = '.' ∨ isExponentMark c = true) :
    rest.head?.any condition = false := by
  cases rest with
  | nil => rfl
  | cons c rest =>
    by_contra hc
    have hc := hcondition c (by simpa using hc)
    simp only [endsNumeral, List.head?_cons, Option.all_some, Bool.and_eq_true,
      Bool.not_eq_true', decide_eq_true_eq] at hrest
    obtain ⟨⟨hdigit, hpoint⟩, hmark⟩ := hrest
    rw [hdigit, hmark] at hc
    simp [hpoint] at hc

theorem reads_skipDigits (hdigits : ∀ c ∈ digits, isDigit c = true)
    (hrest : rest.head?.any isDigit = false) :
    Reads skipDigits (digits ++ rest) digits.length rest := by
  have htaken : (digits ++ rest).takeWhile isDigit = digits := by
    rw [takeWhile_isDigit_append hrest, List.takeWhile_eq_self_iff]
    exact hdigits
  intro mark
  refine ⟨⟨mark.line, mark.column + digits.length⟩, ?_⟩
  change EStateM.Result.ok ((digits ++ rest).takeWhile isDigit).length _ = _
  simp only [htaken, List.drop_left]

/-- The digits of a numeral are skipped as far as they go. -/
theorem reads_skipSomeDigits (htext : IsDigits text)
    (hrest : rest.head?.any isDigit = false) :
    Reads skipSomeDigits (text ++ rest) () rest := by
  obtain ⟨c, more, rfl⟩ := List.exists_cons_of_ne_nil htext.notEmpty
  have hdigit : ((c :: more ++ rest).head?).any isDigit = true :=
    htext.digits c List.mem_cons_self
  refine Reads.nextIs ?_
  rw [hdigit]
  exact (reads_skipDigits htext.digits hrest).bind (reads_pure ())

theorem reads_exponentSign {sign : List Char} {positive : Bool}
    (hsign : SignText sign positive) (htext : IsDigits text) :
    Reads exponentSign (sign ++ (text ++ rest)) positive (text ++ rest) := by
  cases hsign with
  | none =>
    obtain ⟨c, more, rfl⟩ := List.exists_cons_of_ne_nil htext.notEmpty
    have hc : isDigit c = true := htext.digits c List.mem_cons_self
    refine Reads.peek ?_
    rw [List.nil_append, List.cons_append, List.head?_cons]
    split
    · rename_i heq
      cases heq
      cases hc
    · rename_i heq
      cases heq
      cases hc
    · exact reads_pure true
  | plus => exact Reads.peek (reads_advance.bind (reads_pure true))
  | minus => exact Reads.peek (reads_advance.bind (reads_pure false))

theorem reads_skipExponent {mark : Char} {sign : List Char} {positive : Bool}
    (hsign : SignText sign positive) (htext : IsDigits text)
    (hrest : rest.head?.any isDigit = false) :
    Reads skipExponent (mark :: (sign ++ text) ++ rest) () rest := by
  rw [List.cons_append, List.append_assoc]
  exact reads_advance.bind
    ((reads_exponentSign hsign htext).bind (reads_skipSomeDigits htext hrest))

theorem reads_skipExponentText (hexponent : ExponentText exponent power)
    (hrest : endsNumeral rest = true) :
    Reads (nextIs isExponentMark >>= fun holds =>
      if holds = true then skipExponent else pure ()) (exponent ++ rest) () rest := by
  refine Reads.nextIs ?_
  cases hexponent with
  | none =>
    rw [List.nil_append, any_of_endsNumeral hrest fun c hc => .inr (.inr hc)]
    exact reads_pure ()
  | digits hmark hsign hdigits =>
    rw [List.cons_append, List.head?_cons, Option.any_some, hmark]
    exact reads_skipExponent hsign hdigits
      (any_of_endsNumeral hrest fun c hc => .inl hc)

/-- Neither a fraction nor an exponent begins with a digit. -/
theorem head_end (hfraction : FractionText fraction digits)
    (hexponent : ExponentText exponent power) (hrest : endsNumeral rest = true) :
    (fraction ++ (exponent ++ rest)).head?.any isDigit = false := by
  cases hfraction with
  | digits hdigits => rfl
  | none =>
    cases hexponent with
    | none => exact any_of_endsNumeral hrest fun c hc => .inl hc
    | digits hmark hsign hdigits =>
      simp only [isExponentMark, Bool.or_eq_true, decide_eq_true_eq] at hmark
      obtain rfl | rfl := hmark <;> rfl

/-- An exponent does not begin with a point. -/
theorem head_exponent (hexponent : ExponentText exponent power)
    (hrest : endsNumeral rest = true) :
    (exponent ++ rest).head?.any (· = '.') = false := by
  cases hexponent with
  | none => exact any_of_endsNumeral hrest fun c hc => .inr (.inl (by simpa using hc))
  | digits hmark hsign hdigits =>
    simp only [isExponentMark, Bool.or_eq_true, decide_eq_true_eq] at hmark
    obtain rfl | rfl := hmark <;> rfl

theorem reads_skipNumberEnd (hfraction : FractionText fraction digits)
    (hexponent : ExponentText exponent power) (hrest : endsNumeral rest = true) :
    Reads skipNumberEnd (fraction ++ (exponent ++ rest)) () rest := by
  have hlast := reads_skipExponentText hexponent hrest
  refine Reads.nextIs ?_
  cases hfraction with
  | digits hdigits =>
    refine reads_advance.bind ((reads_skipSomeDigits hdigits ?_).bind hlast)
    exact head_end .none hexponent hrest
  | none =>
    rw [List.nil_append, head_exponent hexponent hrest]
    exact hlast

theorem reads_skipNumber (hwhole : WholeText whole) (hfraction : FractionText fraction digits)
    (hexponent : ExponentText exponent power) (hrest : endsNumeral rest = true) :
    Reads skipNumber (whole ++ (fraction ++ (exponent ++ rest))) () rest := by
  have hend := head_end hfraction hexponent hrest
  have hlast := reads_skipNumberEnd hfraction hexponent hrest
  refine Reads.nextIs ?_
  cases hwhole with
  | zero =>
    rw [List.singleton_append]
    refine reads_advance.bind (Reads.nextIs ?_)
    rw [hend]
    exact hlast
  | digits hdigits hzero =>
    obtain ⟨c, more, rfl⟩ := List.exists_cons_of_ne_nil hdigits.notEmpty
    have hc : c ≠ '0' := fun heq => hzero (congrArg some heq)
    have hfirst : ((c :: more ++ (fraction ++ (exponent ++ rest))).head?).any (· = '0') =
        false := by
      simpa using hc
    rw [hfirst]
    exact (reads_skipSomeDigits hdigits hend).bind hlast

end Numerals

/-! ## Skipping -/

/-- The first character of a numeral, and how the numeral is skipped from there. -/
theorem exists_numeral_head {numeral : Numeral} (hnumeral : NumeralText solid numeral)
    (hrest : endsNumeral rest = true) :
    ∃ c more, solid = c :: more ∧
      (c = '-' ∧ Reads skipNumber (more ++ rest) () rest ∨
        isDigit c = true ∧ Reads skipNumber (c :: more ++ rest) () rest) := by
  obtain ⟨negative, whole, digits, power⟩ := numeral
  obtain ⟨fraction, exponent, hwhole, hfraction, hexponent, rfl⟩ := hnumeral
  have hskip := reads_skipNumber hwhole hfraction hexponent hrest
  cases negative with
  | false =>
    obtain ⟨c, more, rfl, hc⟩ := hwhole.exists_cons
    refine ⟨c, more ++ (fraction ++ exponent), rfl, .inr ⟨hc, ?_⟩⟩
    simpa only [List.cons_append, List.append_assoc] using hskip
  | true =>
    refine ⟨'-', whole ++ (fraction ++ exponent), rfl, .inl ⟨rfl, ?_⟩⟩
    simpa only [List.append_assoc] using hskip

/-- A simple value is skipped as a whole. -/
theorem reads_skipStart (hsolid : ScalarText solid) (hrest : endsNumeral rest = true) :
    startsSolid (solid ++ rest) = true ∧
      Reads skipStart (solid ++ rest) (none : Option Bracket) rest := by
  cases hsolid with
  | string hstring =>
    obtain ⟨inside, rfl, hskip⟩ := reads_skipStringBody hstring
    exact ⟨rfl, Reads.peekToken rfl
      (reads_advance.bind ((hskip rest).bind (reads_pure none)))⟩
  | boolean value =>
    cases value
    · exact ⟨rfl, Reads.peekToken rfl
        (reads_advance.bind ((reads_word "alse".toList).bind (reads_pure none)))⟩
    · exact ⟨rfl, Reads.peekToken rfl
        (reads_advance.bind ((reads_word "rue".toList).bind (reads_pure none)))⟩
  | null =>
    exact ⟨rfl, Reads.peekToken rfl
      (reads_advance.bind ((reads_word "ull".toList).bind (reads_pure none)))⟩
  | numeral hnumeral =>
    obtain ⟨c, more, rfl, ⟨rfl, hskip⟩ | ⟨hc, hskip⟩⟩ := exists_numeral_head hnumeral hrest
    · exact ⟨rfl, Reads.peekToken rfl (reads_advance.bind (hskip.bind (reads_pure none)))⟩
    · have hstart : startsSolid (c :: more ++ rest) = true := by
        have hbegins : (Json.integer 0).begins c := hc
        simp [startsSolid, (begins_ne hbegins).1]
      refine ⟨hstart, Reads.peekToken hstart ?_⟩
      simp only [List.cons_append, List.head?_cons, if_neg (isDigit_ne hc (d := 'n') rfl),
        if_neg (isDigit_ne hc (d := 't') rfl), if_neg (isDigit_ne hc (d := 'f') rfl),
        if_neg (isDigit_ne hc (d := '-') rfl), hc, if_true]
      exact hskip.bind (reads_pure none)

theorem reads_skipValue (hsolid : ScalarText solid) (htext : Spaced solid text)
    {tail : List Char} (htail : endsValue tail = true) :
    ∃ gap, gap.all isSpace = true ∧ Reads skipValue (text ++ tail) () (gap ++ tail) := by
  obtain ⟨before, after, hbefore, hafter, rfl⟩ := htext
  obtain ⟨hstart, hskip⟩ := reads_skipStart hsolid (endsNumeral_append hafter htail)
  refine ⟨after, hafter, Reads.remaining ?_⟩
  rw [List.append_assoc, List.append_assoc]
  have hopened := Reads.afterGap hbefore hstart hskip
  exact hopened.bind ((reads_pure []).bind (reads_pure ()))

end Wireform.Json.Reader
