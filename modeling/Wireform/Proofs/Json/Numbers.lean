import Mathlib
import Wireform.Proofs.Json.Following
import Wireform.Json.Decoder

/-!
# Printed numbers

Numbers with a fraction are read with what follows them in view.  A number whose
printing stands for it as a whole document is read the same before the end of a
value around it, since its printing holds no white space that the reader could
have left.
-/

namespace Wireform

open Json Reader

/-- Whether a number is finite and reading inverts its printing. -/
structure Binary64.ReadsBack (x : Binary64) : Prop where
  finite : x.isFinite = true
  parse : Json.parse x.write = .ok (.number x)

theorem Binary64.readsBack_iff (x : Binary64) :
    x.ReadsBack ↔ x.isFinite = true ∧
      (Json.parse x.write).toOption.map found = some (.number x) := by
  refine ⟨fun ⟨hfinite, hparse⟩ => ⟨hfinite, by rw [hparse]; rfl⟩,
    fun ⟨hfinite, hfound⟩ => ⟨hfinite, ?_⟩⟩
  cases hparse : Json.parse x.write with
  | error fault =>
    rw [hparse] at hfound
    cases hfound
  | ok document =>
    rw [hparse] at hfound
    cases document <;> cases hfound
    rfl

instance (x : Binary64) : Decidable x.ReadsBack :=
  decidable_of_iff _ x.readsBack_iff.symm

/-! ## The characters of numbers -/

/-- The characters that printed numbers are made of. -/
def isNumeral (c : Char) : Bool :=
  isDigit c || c = '-' || c = '+' || c = '.' || c = 'e'

/-- A text of such characters. -/
def IsNumeric (text : String) : Prop := ∀ c ∈ text.toList, isNumeral c = true

namespace IsNumeric

theorem append {left right : String} (hleft : IsNumeric left) (hright : IsNumeric right) :
    IsNumeric (left ++ right) := by
  intro c hc
  rw [String.toList_append, List.mem_append] at hc
  exact hc.elim (hleft c) (hright c)

theorem ofList {chars : List Char} (hchars : ∀ c ∈ chars, isNumeral c = true) :
    IsNumeric (String.ofList chars) := by
  rwa [IsNumeric, String.toList_ofList]

theorem toString (n : Nat) : IsNumeric (toString n) := by
  rw [Nat.toString_eq_ofList_toDigits]
  refine ofList fun c hc => ?_
  have hdigit : isDigit c = true :=
    Nat.isDigit_of_mem_toDigits (by decide) (by decide) hc
  rw [isNumeral, hdigit]
  rfl

theorem zeros (count : Nat) : IsNumeric (Binary64.zeros count) :=
  ofList fun c hc => by rw [List.eq_of_mem_replicate hc]; rfl

theorem take {text : String} (htext : IsNumeric text) (count : Nat) :
    IsNumeric (String.ofList (text.toList.take count)) :=
  ofList fun c hc => htext c (List.mem_of_mem_take hc)

theorem drop {text : String} (htext : IsNumeric text) (count : Nat) :
    IsNumeric (String.ofList (text.toList.drop count)) :=
  ofList fun c hc => htext c (List.mem_of_mem_drop hc)

theorem decimal (d : Binary64.Decimal) : IsNumeric d.write := by
  have hdigits := toString d.digits
  unfold Binary64.Decimal.write
  dsimp only
  split
  · split
    · exact (hdigits.append (zeros _)).append (by simp [IsNumeric, isNumeral, isDigit])
    · split
      · exact (append (by simp [IsNumeric, isNumeral, isDigit]) (zeros _)).append hdigits
      · exact ((hdigits.take _).append (by simp [IsNumeric, isNumeral])).append (hdigits.drop _)
  · refine (((hdigits.take 1).append ?_).append ?_).append (toString _)
    · split
      · simp [IsNumeric, isNumeral]
      · exact append (by simp [IsNumeric, isNumeral]) (hdigits.drop 1)
    · split <;> simp [IsNumeric, isNumeral]

theorem write (x : Binary64) : IsNumeric x.write := by
  unfold Binary64.write
  refine append ?_ ?_
  · split <;> simp [IsNumeric, isNumeral]
  · split
    · simp [IsNumeric, isNumeral, isDigit]
    · exact decimal _

end IsNumeric

/-! ## What reading leaves -/

namespace Json.Reader

variable {α β : Type} {reader : Reader α}

/-- What a reader leaves is an end of what it is given. -/
structure LeavesEnd (reader : Reader α) : Prop where
  suffix : ∀ {cursor value after}, reader cursor = .ok value after →
    after.rest <:+ cursor.rest

theorem Fails.leavesEnd (hfails : Fails reader) : LeavesEnd reader :=
  ⟨fun hok => absurd hok (hfails _ _ _)⟩

theorem leavesEnd_pure (value : α) : LeavesEnd (pure value) := by
  refine ⟨fun hok => ?_⟩
  cases hok
  exact List.suffix_rfl

theorem LeavesEnd.bind {f : α → Reader β} (hfirst : LeavesEnd reader)
    (hlast : ∀ value, LeavesEnd (f value)) : LeavesEnd (reader >>= f) := by
  refine ⟨fun hok => ?_⟩
  obtain ⟨value, between, hvalue, hrest⟩ := bind_eq_ok hok
  exact ((hlast value).suffix hrest).trans (hfirst.suffix hvalue)

theorem LeavesEnd.ite {p : Prop} [Decidable p] {reader' : Reader α}
    (hthen : LeavesEnd reader) (helse : LeavesEnd reader') :
    LeavesEnd (if p then reader else reader') := by
  split
  · exact hthen
  · exact helse

theorem leavesEnd_peek : LeavesEnd peek := by
  refine ⟨fun hok => ?_⟩
  cases hok
  exact List.suffix_rfl

theorem leavesEnd_advance : LeavesEnd advance := by
  refine ⟨fun {cursor value after} hok => ?_⟩
  obtain ⟨text, mark⟩ := cursor
  cases text <;> cases hok
  · exact List.suffix_rfl
  · exact List.suffix_cons ..

theorem leavesEnd_nextIs (condition : Char → Bool) : LeavesEnd (nextIs condition) :=
  leavesEnd_peek.bind fun _ => leavesEnd_pure _

theorem leavesEnd_skipDigits : LeavesEnd skipDigits := by
  refine ⟨fun hok => ?_⟩
  cases hok
  exact List.drop_suffix ..

theorem leavesEnd_digitsOnto (limit start : Nat) : LeavesEnd (digitsOnto limit start) := by
  refine ⟨fun hok => ?_⟩
  cases hok
  exact List.drop_suffix ..

theorem leavesEnd_decimal (negative : Bool) (significand : Nat) (exponent : Int) :
    LeavesEnd (decimal negative significand exponent) := by
  unfold decimal
  split
  · exact leavesEnd_pure _
  · exact (fails_failHere _).leavesEnd

theorem leavesEnd_exponentSign : LeavesEnd exponentSign := by
  refine leavesEnd_peek.bind fun next => ?_
  split
  · exact leavesEnd_advance.bind fun _ => leavesEnd_pure _
  · exact leavesEnd_advance.bind fun _ => leavesEnd_pure _
  · exact leavesEnd_pure _

theorem leavesEnd_exponentPart (negative : Bool) (significand : Nat) (start : Int) :
    LeavesEnd (exponentPart negative significand start) := by
  refine leavesEnd_advance.bind fun _ => leavesEnd_exponentSign.bind fun positive =>
    leavesEnd_peek.bind fun next => ?_
  cases next with
  | none => exact (fails_failHere _).leavesEnd
  | some c =>
    refine LeavesEnd.ite ?_ (fails_failNext _).leavesEnd
    refine (leavesEnd_digitsOnto ..).bind fun taken => (leavesEnd_nextIs _).bind fun more => ?_
    refine LeavesEnd.ite (LeavesEnd.ite (fails_failNext _).leavesEnd ?_) (leavesEnd_decimal ..)
    exact leavesEnd_skipDigits.bind fun _ => leavesEnd_pure _

theorem leavesEnd_decimalEnd (negative : Bool) (significand : Nat) (exponent : Int) :
    LeavesEnd (decimalEnd negative significand exponent) :=
  (leavesEnd_nextIs _).bind fun _ =>
    LeavesEnd.ite (leavesEnd_exponentPart ..) (leavesEnd_decimal ..)

theorem leavesEnd_fractionPart (negative : Bool) (significand : Nat) (start : Int) :
    LeavesEnd (fractionPart negative significand start) := by
  refine leavesEnd_advance.bind fun _ => (leavesEnd_digitsOnto ..).bind fun taken =>
    (leavesEnd_nextIs _).bind fun more => ?_
  refine LeavesEnd.ite ?_ (LeavesEnd.ite ?_ (leavesEnd_decimalEnd ..))
  · exact leavesEnd_skipDigits.bind fun _ => leavesEnd_decimalEnd ..
  · refine leavesEnd_peek.bind fun next => ?_
    cases next with
    | none => exact (fails_failHere _).leavesEnd
    | some c => exact (fails_failNext _).leavesEnd

theorem leavesEnd_integerEnd (negative : Bool) (significand : Nat) :
    LeavesEnd (integerEnd negative significand) :=
  (leavesEnd_nextIs _).bind fun _ => LeavesEnd.ite (leavesEnd_fractionPart ..) <|
    (leavesEnd_nextIs _).bind fun _ =>
      LeavesEnd.ite (leavesEnd_exponentPart ..) (leavesEnd_pure _)

theorem leavesEnd_number (negative : Bool) : LeavesEnd (number negative) := by
  refine leavesEnd_peek.bind fun next => ?_
  cases next with
  | none => exact (fails_failHere _).leavesEnd
  | some c =>
    refine LeavesEnd.ite ?_ (LeavesEnd.ite ?_ (fails_failNext _).leavesEnd)
    · exact leavesEnd_advance.bind fun _ => (leavesEnd_nextIs _).bind fun _ =>
        LeavesEnd.ite (fails_failNext _).leavesEnd (leavesEnd_integerEnd ..)
    · refine (leavesEnd_digitsOnto ..).bind fun taken =>
        (leavesEnd_nextIs _).bind fun more => LeavesEnd.ite ?_ (leavesEnd_integerEnd ..)
      exact leavesEnd_skipDigits.bind fun _ => (leavesEnd_nextIs _).bind fun _ =>
        LeavesEnd.ite (leavesEnd_fractionPart ..) (leavesEnd_decimalEnd ..)

theorem leavesEnd_scalar {c : Char} (hc : startsNumber c = true) : LeavesEnd (scalar c) := by
  have hletter (d : Char) (hd : startsNumber d = false) : c ≠ d := fun heq => by
    rw [heq, hd] at hc
    cases hc
  rw [scalar, if_neg (hletter 'n' rfl), if_neg (hletter 't' rfl), if_neg (hletter 'f' rfl)]
  refine LeavesEnd.ite ?_ (LeavesEnd.ite (leavesEnd_number _) ?_)
  · exact leavesEnd_advance.bind fun _ => leavesEnd_number _
  · rw [if_neg (hletter '"' rfl)]
    exact (fails_failNext _).leavesEnd

theorem isSpace_of_isNumeral {c : Char} (hc : isNumeral c = true) : isSpace c = false := by
  by_contra hspace
  simp only [isSpace, Bool.not_eq_false, Bool.or_eq_true, decide_eq_true_eq] at hspace
  obtain ((rfl | rfl) | rfl) | rfl := hspace <;> cases hc

theorem startsNumber_of_scalar {c : Char} {cursor after : Cursor} {value : Json}
    (hc : isNumeral c = true) (hok : scalar c cursor = .ok value after) :
    startsNumber c = true := by
  simp only [isNumeral, Bool.or_eq_true, decide_eq_true_eq] at hc
  obtain (((hdigit | rfl) | rfl) | rfl) | rfl := hc
  · rw [startsNumber, hdigit, Bool.or_true]
  · rfl
  · exact absurd hok (fails_failNext _ _ _ _)
  · exact absurd hok (fails_failNext _ _ _ _)
  · exact absurd hok (fails_failNext _ _ _ _)

end Json.Reader

namespace Binary64

/-- The reader of scalars goes through the whole printing of a number. -/
theorem ReadsBack.exists_scalar {x : Binary64} (hx : x.ReadsBack) :
    ∃ c more after, x.write.toList = c :: more ∧ startsNumber c = true ∧
      scalar c ⟨x.write.toList, {}⟩ = .ok (.number x) ⟨[], after⟩ := by
  obtain ⟨rest, after, hvalue, hrest⟩ := readWhole_eq_ok hx.parse
  have hnumeric := IsNumeric.write x
  obtain ⟨head, token, hhead, hvalue⟩ := bind_eq_ok hvalue
  cases htext : x.write.toList with
  | nil =>
    rw [htext] at hhead
    cases hhead
    cases hvalue
  | cons c more =>
    have hc : isNumeral c = true := hnumeric c (htext ▸ List.mem_cons_self)
    have hsolid : startsSolid (c :: more) = true := by
      simp [startsSolid, isSpace_of_isNumeral hc]
    have htoken : Reader.peekToken ⟨c :: more, {}⟩ = .ok (some c) ⟨c :: more, {}⟩ := by
      rw [peekToken, skipSpaceFrom_of_startsSolid hsolid]
      rfl
    rw [htext, htoken] at hhead
    cases hhead
    have hlist : c ≠ '[' := fun heq => by subst heq; cases hc
    have hobject : c ≠ '{' := fun heq => by subst heq; cases hc
    simp only [if_neg hlist, if_neg hobject] at hvalue
    have hstart := startsNumber_of_scalar hc hvalue
    refine ⟨c, more, after, rfl, hstart, ?_⟩
    have hsuffix : rest <:+ c :: more := (leavesEnd_scalar hstart).suffix hvalue
    have hnil : rest = [] := by
      cases rest with
      | nil => rfl
      | cons d left =>
        have hd : isNumeral d = true :=
          hnumeric d (htext ▸ hsuffix.subset List.mem_cons_self)
        rw [List.all_cons, isSpace_of_isNumeral hd] at hrest
        cases hrest
    rw [hnil] at hvalue
    exact hvalue

/-- A printed number is read before the end of a value around it. -/
theorem ReadsBack.reads_scalar {x : Binary64} (hx : x.ReadsBack) {rest : List Char}
    (hrest : endsValue rest = true) :
    ∃ c more, x.write.toList = c :: more ∧ startsNumber c = true ∧
      Reads (scalar c) (x.write.toList ++ rest) (.number x) rest := by
  obtain ⟨c, more, after, htext, hc, hscalar⟩ := hx.exists_scalar
  refine ⟨c, more, htext, hc, ?_⟩
  rw [htext] at hscalar ⊢
  exact (steadyInside_scalar hrest c).reads hscalar

end Binary64

end Wireform
