import Mathlib
import Wireform.Proofs.Json.Reading

/-!
# Readers before a longer text

A reader that succeeds on a text does the same when the text goes on, provided
that it goes on in a way that ends a value: with a comma, with a closing bracket
or not at all.  The statement is made for pairs of readers, so that it also
covers readers that differ in how deep they may go, in how many steps they may
take, or in the type that their values are given in.
-/

namespace Wireform.Json.Reader

variable {α β γ δ : Type} {tail : List Char}

/-- Whenever `first` succeeds with the image of a value, `second` succeeds with
the value where the same text goes on with `tail`. -/
structure Follows (tail : List Char) (embed : β → α) (first : Reader α)
    (second : Reader β) : Prop where
  reads : ∀ {text mark value rest after},
    first ⟨text, mark⟩ = .ok (embed value) ⟨rest, after⟩ →
      Reads second (text ++ tail) value (rest ++ tail)

/-- The same for texts with a first character. -/
structure FollowsInside (tail : List Char) (embed : β → α) (first : Reader α)
    (second : Reader β) : Prop where
  reads : ∀ {c more mark value rest after},
    first ⟨c :: more, mark⟩ = .ok (embed value) ⟨rest, after⟩ →
      Reads second (c :: more ++ tail) value (rest ++ tail)

/-- A success of a reader is not undone by the text behind it. -/
abbrev Steady (tail : List Char) (reader : Reader α) : Prop :=
  Follows tail id reader reader

abbrev SteadyInside (tail : List Char) (reader : Reader α) : Prop :=
  FollowsInside tail id reader reader

section Combinators

variable {embed : β → α} {first : Reader α} {second : Reader β}

theorem Follows.inside (hfollows : Follows tail embed first second) :
    FollowsInside tail embed first second :=
  ⟨fun hfirst => hfollows.reads hfirst⟩

theorem Fails.follows (hfails : Fails first) : Follows tail embed first second :=
  ⟨fun hfirst => absurd hfirst (hfails _ _ _)⟩

theorem Fails.inside (hfails : Fails first) : FollowsInside tail embed first second :=
  ⟨fun hfirst => absurd hfirst (hfails _ _ _)⟩

/-- Sequences whose first value is the image of a value whenever the whole
succeeds with one. -/
theorem Follows.bindVia {f : α → Reader γ} {g : β → Reader δ} {embedLast : δ → γ}
    (hfirst : Follows tail embed first second)
    (hlast : ∀ value, Follows tail embedLast (f (embed value)) (g value))
    (himage : ∀ result cursor last after,
      f result cursor = .ok (embedLast last) after → ∃ value, result = embed value) :
    Follows tail embedLast (first >>= f) (second >>= g) := by
  refine ⟨fun {text mark value rest after} hok => ?_⟩
  obtain ⟨result, between, hresult, hrest⟩ := bind_eq_ok hok
  obtain ⟨intermediate, rfl⟩ := himage result between value _ hrest
  exact (hfirst.reads hresult).bind ((hlast intermediate).reads hrest)

theorem Follows.bind {first second : Reader α} {f : α → Reader γ} {g : α → Reader δ}
    {embedLast : δ → γ} (hfirst : Follows tail id first second)
    (hlast : ∀ value, Follows tail embedLast (f value) (g value)) :
    Follows tail embedLast (first >>= f) (second >>= g) :=
  hfirst.bindVia hlast fun result _ _ _ _ => ⟨result, rfl⟩

theorem FollowsInside.bind {first second : Reader α} {f : α → Reader γ}
    {g : α → Reader δ} {embedLast : δ → γ} (hfirst : FollowsInside tail id first second)
    (hlast : ∀ value, Follows tail embedLast (f value) (g value)) :
    FollowsInside tail embedLast (first >>= f) (second >>= g) := by
  refine ⟨fun {c more mark value rest after} hok => ?_⟩
  obtain ⟨result, between, hresult, hrest⟩ := bind_eq_ok hok
  exact (hfirst.reads hresult).bind ((hlast result).reads hrest)

theorem follows_pure {value : α} {image : β}
    (himage : ∀ other, embed other = value → other = image) :
    Follows tail embed (pure value) (pure image) := by
  refine ⟨fun {text mark other rest after} hok => ?_⟩
  cases hok
  rw [himage other rfl]
  exact reads_pure image

theorem steady_pure (value : α) : Steady tail (pure value) :=
  follows_pure fun _ heq => heq

theorem Follows.ite {p : Prop} [Decidable p] {first' : Reader α} {second' : Reader β}
    (hthen : p → Follows tail embed first second)
    (helse : ¬ p → Follows tail embed first' second') :
    Follows tail embed (if p then first else first') (if p then second else second') := by
  by_cases hp : p
  · simpa only [if_pos hp] using hthen hp
  · simpa only [if_neg hp] using helse hp

theorem FollowsInside.ite {p : Prop} [Decidable p] {first' : Reader α}
    {second' : Reader β} (hthen : p → FollowsInside tail embed first second)
    (helse : ¬ p → FollowsInside tail embed first' second') :
    FollowsInside tail embed (if p then first else first')
      (if p then second else second') := by
  by_cases hp : p
  · simpa only [if_pos hp] using hthen hp
  · simpa only [if_neg hp] using helse hp

theorem FollowsInside.placed (hfollows : FollowsInside tail embed first second) :
    FollowsInside tail embed (Reader.placed first) (Reader.placed second) := by
  refine ⟨fun {c more mark value rest after} hok => ?_⟩
  refine Reads.placed ?_
  unfold Reader.placed at hok
  split at hok
  · cases hok
    exact hfollows.reads ‹_›
  · cases hok

theorem Follows.thenAlways {last : Reader Unit}
    (hfollows : Follows tail embed first second) (hlast : Steady tail last) :
    Follows tail embed (thenAlways first last) (thenAlways second last) := by
  refine ⟨fun {text mark value rest after} hok => ?_⟩
  unfold Reader.thenAlways at hok
  split at hok
  · split at hok
    · cases hok
      exact (hfollows.reads ‹_›).thenAlways (hlast.reads ‹_›)
    · cases hok
  · split at hok <;> cases hok

theorem Follows.remaining {f : Nat → Reader α} {g : Nat → Reader β}
    (hfollows : ∀ few many, few ≤ many → Follows tail embed (f few) (g many)) :
    Follows tail embed (remaining >>= f) (remaining >>= g) := by
  refine ⟨fun {text mark value rest after} hok => ?_⟩
  refine Reads.remaining ((hfollows text.length _ ?_).reads hok)
  rw [List.length_append]
  exact Nat.le_add_right _ _

theorem FollowsInside.advance {f : Unit → Reader α} {g : Unit → Reader β}
    (hfollows : Follows tail embed (f ()) (g ())) :
    FollowsInside tail embed (advance >>= f) (advance >>= g) := by
  refine ⟨fun {c more mark value rest after} hok => ?_⟩
  exact Reads.bind (reads_advance (c := c)) (hfollows.reads hok)

theorem steadyInside_advance : SteadyInside tail advance := by
  refine ⟨fun {c more mark value rest after} hok => ?_⟩
  cases hok
  exact reads_advance

theorem Follows.peek {f : Option Char → Reader α} {g : Option Char → Reader β}
    (hnone : Follows tail embed (f none) (g tail.head?))
    (hsome : ∀ c, FollowsInside tail embed (f (some c)) (g (some c))) :
    Follows tail embed (peek >>= f) (peek >>= g) := by
  refine ⟨fun {text mark value rest after} hok => ?_⟩
  refine Reads.peek ?_
  cases text with
  | nil =>
    have hempty : Reads (g tail.head?) ([] ++ tail) value (rest ++ tail) := hnone.reads hok
    exact hempty
  | cons c more => exact (hsome c).reads hok

end Combinators

section Tokens

variable {embed : β → α} {f : Option Char → Reader α} {g : Option Char → Reader β}

theorem skipSpaceFrom_append_tail (htail : startsSolid tail = true) (text : List Char)
    (mark between : Mark) :
    ∃ after, skipSpaceFrom (text ++ tail) between =
      ⟨(skipSpaceFrom text mark).rest ++ tail, after⟩ := by
  induction text generalizing mark between with
  | nil => exact ⟨between, skipSpaceFrom_of_startsSolid htail between⟩
  | cons c text ih =>
    rw [List.cons_append, skipSpaceFrom, skipSpaceFrom]
    split
    · exact ih (mark.past c) (between.past c)
    · exact ⟨between, rfl⟩

theorem startsSolid_of_endsValue (htail : endsValue tail = true) :
    startsSolid tail = true := by
  have hspace : tail.head?.any isSpace = false := any_of_endsValue htail rfl rfl rfl
  cases tail with
  | nil => rfl
  | cons c tail => simpa [startsSolid] using hspace

theorem Follows.peekToken (htail : endsValue tail = true)
    (hnone : Follows tail embed (f none) (g tail.head?))
    (hsome : ∀ c, FollowsInside tail embed (f (some c)) (g (some c))) :
    Follows tail embed (peekToken >>= f) (peekToken >>= g) := by
  refine ⟨fun {text mark value rest after} hok mark' => ?_⟩
  obtain ⟨between, hbetween⟩ := skipSpaceFrom_append_tail
    (startsSolid_of_endsValue htail) text mark mark'
  have htoken : Reader.peekToken ⟨text ++ tail, mark'⟩ =
      .ok ((skipSpaceFrom text mark).rest ++ tail).head?
        ⟨(skipSpaceFrom text mark).rest ++ tail, between⟩ := by
    rw [Reader.peekToken, hbetween]
  rw [bind_of_ok htoken]
  change f (skipSpaceFrom text mark).rest.head? (skipSpaceFrom text mark) = _ at hok
  revert hok
  generalize skipSpaceFrom text mark = token
  obtain ⟨solid, place⟩ := token
  intro hok
  cases solid with
  | nil =>
    have hempty : Reads (g tail.head?) ([] ++ tail) value (rest ++ tail) := hnone.reads hok
    exact hempty between
  | cons c more => exact (hsome c).reads hok between

theorem steady_word (letters : List Char) : Steady tail (word letters) := by
  induction letters with
  | nil => exact steady_pure ()
  | cons c letters ih =>
    refine Follows.peek (fails_failHere _).follows fun d => ?_
    exact FollowsInside.ite (fun _ => FollowsInside.advance ih)
      fun _ => (fails_failNext _).inside

end Tokens

section Numbers

variable {embed : β → α} {first first' : Reader α} {second second' : Reader β}

theorem Follows.nextIs {condition : Char → Bool}
    (htail : tail.head?.any condition = false)
    (hthen : FollowsInside tail embed first second)
    (helse : Follows tail embed first' second') :
    Follows tail embed
      (nextIs condition >>= fun holds => if holds then first else first')
      (nextIs condition >>= fun holds => if holds then second else second') := by
  refine ⟨fun {text mark value rest after} hok => ?_⟩
  refine Reads.nextIs ?_
  cases text with
  | nil =>
    have hempty : Reads second' ([] ++ tail) value (rest ++ tail) := helse.reads hok
    rwa [List.nil_append, htail]
  | cons c more =>
    change (if condition c = true then first else first') _ = _ at hok
    change Reads (if condition c = true then second else second') _ _ _
    by_cases hc : condition c = true
    · rw [if_pos hc] at hok ⊢
      exact hthen.reads hok
    · rw [if_neg hc] at hok ⊢
      exact helse.reads hok

theorem takeWhile_isDigit_append (hnext : tail.head?.any isDigit = false)
    (text : List Char) :
    (text ++ tail).takeWhile isDigit = text.takeWhile isDigit := by
  induction text with
  | nil =>
    cases tail with
    | nil => rfl
    | cons c tail =>
      have hc : isDigit c = false := hnext
      rw [List.nil_append, List.takeWhile_cons, hc]
      rfl
  | cons c text ih => rw [List.cons_append, List.takeWhile_cons, List.takeWhile_cons, ih]

theorem takeDigits_append_tail (hnext : tail.head?.any isDigit = false) (limit start : Nat)
    (text : List Char) :
    takeDigits limit start (text ++ tail) = takeDigits limit start text := by
  induction text generalizing start with
  | nil =>
    cases tail with
    | nil => rfl
    | cons c tail =>
      have hc : isDigit c = false := hnext
      rw [List.nil_append, takeDigits, takeDigits, hc]
      rfl
  | cons c text ih => rw [List.cons_append, takeDigits, takeDigits, ih]

theorem takeDigits_count_le (limit start : Nat) (text : List Char) :
    (takeDigits limit start text).2 ≤ text.length := by
  induction text generalizing start with
  | nil => exact Nat.le_refl 0
  | cons c text ih =>
    rw [takeDigits]
    split
    · exact Nat.succ_le_succ (ih _)
    · exact Nat.zero_le _

theorem steady_skipDigits (hnext : tail.head?.any isDigit = false) :
    Steady tail skipDigits := by
  refine ⟨fun {text mark count rest after} hok mark' => ?_⟩
  have hle : (text.takeWhile isDigit).length ≤ text.length :=
    (List.takeWhile_prefix isDigit).length_le
  cases hok
  refine ⟨⟨mark'.line, mark'.column + (text.takeWhile isDigit).length⟩, ?_⟩
  change EStateM.Result.ok ((text ++ tail).takeWhile isDigit).length
    (Cursor.mk ((text ++ tail).drop ((text ++ tail).takeWhile isDigit).length) _) = _
  rw [takeWhile_isDigit_append hnext, List.drop_append_of_le_length hle]

theorem steady_digitsOnto (hnext : tail.head?.any isDigit = false) (limit start : Nat) :
    Steady tail (digitsOnto limit start) := by
  refine ⟨fun {text mark taken rest after} hok mark' => ?_⟩
  have hle := takeDigits_count_le limit start text
  cases hok
  refine ⟨⟨mark'.line, mark'.column + (takeDigits limit start text).2⟩, ?_⟩
  change EStateM.Result.ok (takeDigits limit start (text ++ tail))
    (Cursor.mk ((text ++ tail).drop (takeDigits limit start (text ++ tail)).2) _) = _
  rw [takeDigits_append_tail hnext, List.drop_append_of_le_length hle]

theorem steady_decimal (negative : Bool) (significand : Nat) (exponent : Int) :
    Steady tail (decimal negative significand exponent) := by
  unfold decimal
  split
  · exact steady_pure _
  · exact (fails_failHere _).follows

variable (htail : endsValue tail = true)

include htail

theorem steady_exponentSign : Steady tail exponentSign := by
  have hplus : tail.head? ≠ some '+' := fun hhead => by simp [endsValue, hhead] at htail
  have hminus : tail.head? ≠ some '-' := fun hhead => by simp [endsValue, hhead] at htail
  refine Follows.peek ?_ fun c => ?_
  · split
    · contradiction
    · contradiction
    · exact steady_pure true
  · split
    · exact FollowsInside.advance (steady_pure true)
    · exact FollowsInside.advance (steady_pure false)
    · exact (steady_pure true).inside

theorem steadyInside_exponentPart (negative : Bool) (significand : Nat) (start : Int) :
    SteadyInside tail (exponentPart negative significand start) := by
  have hdigit : tail.head?.any isDigit = false := any_of_endsValue htail rfl rfl rfl
  refine FollowsInside.advance ((steady_exponentSign htail).bind fun positive => ?_)
  refine Follows.peek (fails_failHere _).follows fun c => ?_
  refine FollowsInside.ite (fun _ => Follows.inside ?_) fun _ => (fails_failNext _).inside
  refine (steady_digitsOnto hdigit _ _).bind fun taken => ?_
  refine Follows.nextIs hdigit (Follows.inside ?_) (steady_decimal ..)
  refine Follows.ite (fun _ => (fails_failNext _).follows) fun _ => ?_
  exact (steady_skipDigits hdigit).bind fun _ => steady_pure _

theorem steady_decimalEnd (negative : Bool) (significand : Nat) (exponent : Int) :
    Steady tail (decimalEnd negative significand exponent) :=
  Follows.nextIs (any_of_endsValue htail rfl rfl rfl)
    (steadyInside_exponentPart htail ..) (steady_decimal ..)

theorem steadyInside_fractionPart (negative : Bool) (significand : Nat) (start : Int) :
    SteadyInside tail (fractionPart negative significand start) := by
  have hdigit : tail.head?.any isDigit = false := any_of_endsValue htail rfl rfl rfl
  refine FollowsInside.advance ((steady_digitsOnto hdigit _ _).bind fun taken => ?_)
  refine Follows.nextIs hdigit (Follows.inside ?_) (Follows.ite (fun _ => ?_) fun _ => ?_)
  · exact (steady_skipDigits hdigit).bind fun _ => steady_decimalEnd htail ..
  · exact Follows.peek (fails_failHere _).follows fun c => (fails_failNext _).inside
  · exact steady_decimalEnd htail ..

theorem steady_longInteger (negative : Bool) (significand : Nat) :
    Steady tail (longInteger negative significand) :=
  (steady_skipDigits (any_of_endsValue htail rfl rfl rfl)).bind fun _ =>
    Follows.nextIs (any_of_endsValue htail rfl rfl rfl)
      (steadyInside_fractionPart htail ..) (steady_decimalEnd htail ..)

theorem steady_integerEnd (negative : Bool) (significand : Nat) :
    Steady tail (integerEnd negative significand) :=
  Follows.nextIs (any_of_endsValue htail rfl rfl rfl) (steadyInside_fractionPart htail ..)
    (Follows.nextIs (any_of_endsValue htail rfl rfl rfl)
      (steadyInside_exponentPart htail ..) (steady_pure _))

theorem steady_number (negative : Bool) : Steady tail (number negative) := by
  have hdigit : tail.head?.any isDigit = false := any_of_endsValue htail rfl rfl rfl
  refine Follows.peek (fails_failHere _).follows fun c => ?_
  refine FollowsInside.ite (fun _ => FollowsInside.advance ?_) fun _ =>
    FollowsInside.ite (fun _ => Follows.inside ?_) fun _ => (fails_failNext _).inside
  · exact Follows.nextIs hdigit (fails_failNext _).inside (steady_integerEnd htail ..)
  · refine (steady_digitsOnto hdigit _ _).bind fun taken => ?_
    exact Follows.nextIs hdigit (steady_longInteger htail ..).inside
      (steady_integerEnd htail ..)

end Numbers

section Strings

theorem ne_backslash {c : Char} {more : List Char} (hend : c = '\\' → more = [] → False)
    (hescape : ∀ d rest, c = '\\' → more = d :: rest → False) : c ≠ '\\' := by
  intro hc
  cases more with
  | nil => exact hend hc rfl
  | cons d more => exact hescape d more hc rfl

theorem stringFrom_append_tail {seen text rest : List Char} {mark after : Mark}
    {value : String} (hok : stringFrom seen text mark = .ok value ⟨rest, after⟩)
    (mark' : Mark) :
    ∃ after', stringFrom seen (text ++ tail) mark' =
      .ok value ⟨rest ++ tail, after'⟩ := by
  fun_induction stringFrom seen text mark generalizing mark'
  case case2 =>
    cases hok
    exact ⟨_, rfl⟩
  case case7 hunit _ hnotTrailing hleading _ _ _ _ _ _ _ hsecond _ htrailing ih =>
    simp only [List.cons_append, stringFrom, hunit, hnotTrailing, hleading, hsecond,
      htrailing, if_false, if_true, Bool.false_eq_true]
    exact ih hok _
  case case10 hunit _ hnotTrailing hnotLeading ih =>
    simp only [List.cons_append, stringFrom, hunit, hnotTrailing, hnotLeading, if_false,
      Bool.false_eq_true]
    exact ih hok _
  case case12 hletter _ _ hescape ih =>
    rw [List.cons_append, List.cons_append, stringFrom, hescape]
    · exact ih hok _
    · exact fun _ _ _ _ _ hc => absurd hc hletter
    · exact hletter
  case case15 more _ hquote hend _ _ hescape hplain ih =>
    have hbackslash := ne_backslash hend hescape
    rw [List.cons_append, stringFrom, if_neg hplain]
    · exact ih hok _
    · exact hquote
    all_goals intros; contradiction
  all_goals cases hok

theorem steady_stringBody : Steady tail stringBody :=
  ⟨fun hok => stringFrom_append_tail hok⟩

theorem skipStringFrom_append_tail {text rest : List Char} {mark after : Mark}
    (hok : skipStringFrom text mark = .ok () ⟨rest, after⟩) (mark' : Mark) :
    ∃ after', skipStringFrom (text ++ tail) mark' = .ok () ⟨rest ++ tail, after'⟩ := by
  fun_induction skipStringFrom text mark generalizing mark'
  case case2 =>
    cases hok
    exact ⟨_, rfl⟩
  case case5 hunit ih =>
    simp only [List.cons_append, skipStringFrom, hunit]
    exact ih hok _
  case case7 hletter _ hescape ih =>
    rw [List.cons_append, List.cons_append, skipStringFrom, if_pos hescape]
    · exact ih hok _
    · exact fun _ _ _ _ _ hc => absurd hc hletter
    · exact hletter
  case case10 hquote hend _ _ hescape hplain ih =>
    have hbackslash := ne_backslash hend hescape
    rw [List.cons_append, skipStringFrom, if_neg hplain]
    · exact ih hok _
    · exact hquote
    all_goals intros; contradiction
  all_goals cases hok

theorem steady_skipStringBody : Steady tail skipStringBody :=
  ⟨fun hok => skipStringFrom_append_tail hok⟩

theorem steady_key : Steady tail key := by
  refine ⟨fun {text mark value rest after} hok => ?_⟩
  cases text with
  | nil => cases hok
  | cons c more =>
    exact (FollowsInside.advance (f := fun _ => stringBody) steady_stringBody).reads hok

end Strings

section Values

variable (htail : endsValue tail = true)

include htail

theorem steadyInside_scalar (c : Char) : SteadyInside tail (scalar c) := by
  refine FollowsInside.ite (fun _ => ?_) fun _ => FollowsInside.ite (fun _ => ?_) fun _ =>
    FollowsInside.ite (fun _ => ?_) fun _ => FollowsInside.ite (fun _ => ?_) fun _ =>
    FollowsInside.ite (fun _ => ?_) fun _ => FollowsInside.ite (fun _ => ?_) fun _ => ?_
  · exact FollowsInside.advance ((steady_word _).bind fun _ => steady_pure _)
  · exact FollowsInside.advance ((steady_word _).bind fun _ => steady_pure _)
  · exact FollowsInside.advance ((steady_word _).bind fun _ => steady_pure _)
  · exact FollowsInside.advance (steady_number htail true)
  · exact (steady_number htail false).inside
  · exact FollowsInside.advance (steady_stringBody.bind fun _ => steady_pure _)
  · exact (fails_failNext _).inside

theorem steady_hasItem (isFirst : Bool) : Steady tail (hasItem isFirst) := by
  refine Follows.peekToken htail (fails_failHere _).follows fun c => ?_
  refine FollowsInside.ite (fun _ => (steady_pure false).inside) fun _ =>
    FollowsInside.ite (fun _ => (steady_pure true).inside) fun _ =>
    FollowsInside.ite (fun _ => FollowsInside.advance ?_) fun _ => (fails_failNext _).inside
  refine Follows.peekToken htail (fails_failHere _).follows fun c => ?_
  exact FollowsInside.ite (fun _ => (fails_failNext _).inside)
    fun _ => (steady_pure true).inside

theorem steady_listEnd : Steady tail listEnd := by
  refine Follows.peekToken htail (fails_failHere _).follows fun c => ?_
  refine FollowsInside.ite (fun _ => steadyInside_advance) fun _ =>
    FollowsInside.ite (fun _ => FollowsInside.advance ?_) fun _ => (fails_failNext _).inside
  refine Follows.peekToken htail (fails_failHere _).follows fun c => ?_
  exact FollowsInside.ite (fun _ => (fails_failNext _).inside)
    fun _ => (fails_failNext _).inside

theorem steady_hasMember (isFirst : Bool) : Steady tail (hasMember isFirst) := by
  refine Follows.peekToken htail (fails_failHere _).follows fun c => ?_
  refine FollowsInside.ite (fun _ => (steady_pure false).inside) fun _ =>
    FollowsInside.ite (fun _ => ?_) fun _ =>
    FollowsInside.ite (fun _ => FollowsInside.advance ?_) fun _ => (fails_failNext _).inside
  · exact FollowsInside.ite (fun _ => (steady_pure true).inside)
      fun _ => (fails_failNext _).inside
  · refine Follows.peekToken htail (fails_failHere _).follows fun c => ?_
    exact FollowsInside.ite (fun _ => (steady_pure true).inside) fun _ =>
      FollowsInside.ite (fun _ => (fails_failNext _).inside)
        fun _ => (fails_failNext _).inside

theorem steady_objectEnd : Steady tail objectEnd := by
  refine Follows.peekToken htail (fails_failHere _).follows fun c => ?_
  exact FollowsInside.ite (fun _ => steadyInside_advance) fun _ =>
    FollowsInside.ite (fun _ => (fails_failNext _).inside) fun _ => (fails_failNext _).inside

theorem steady_colon : Steady tail colon := by
  refine Follows.peekToken htail (fails_failHere _).follows fun c => ?_
  exact FollowsInside.ite (fun _ => steadyInside_advance) fun _ => (fails_failNext _).inside

end Values

section Skipping

variable (htail : endsValue tail = true)

include htail

theorem steady_skipSomeDigits : Steady tail skipSomeDigits := by
  have hdigit : tail.head?.any isDigit = false := any_of_endsValue htail rfl rfl rfl
  refine Follows.nextIs hdigit (Follows.inside ?_) ?_
  · exact (steady_skipDigits hdigit).bind fun _ => steady_pure ()
  · exact Follows.peek (fails_failHere _).follows fun _ => (fails_failNext _).inside

theorem steadyInside_skipExponent : SteadyInside tail skipExponent :=
  FollowsInside.advance
    ((steady_exponentSign htail).bind fun _ => steady_skipSomeDigits htail)

theorem steady_skipNumberEnd : Steady tail skipNumberEnd := by
  have hexponent : Steady tail (nextIs isExponentMark >>= fun holds =>
      if holds = true then skipExponent else pure ()) :=
    Follows.nextIs (any_of_endsValue htail rfl rfl rfl) (steadyInside_skipExponent htail)
      (steady_pure ())
  refine Follows.nextIs (any_of_endsValue htail rfl rfl rfl)
    (FollowsInside.advance ?_) hexponent
  exact (steady_skipSomeDigits htail).bind fun _ => hexponent

theorem steady_skipNumber : Steady tail skipNumber := by
  refine Follows.nextIs (any_of_endsValue htail rfl rfl rfl) (FollowsInside.advance ?_) ?_
  · exact Follows.nextIs (any_of_endsValue htail rfl rfl rfl) (fails_failNext _).inside
      (steady_skipNumberEnd htail)
  · exact (steady_skipSomeDigits htail).bind fun _ => steady_skipNumberEnd htail

theorem steady_skipStart : Steady tail skipStart := by
  refine Follows.peekToken htail (fails_failHere _).follows fun c => ?_
  refine FollowsInside.ite (fun _ => ?_) fun _ => FollowsInside.ite (fun _ => ?_) fun _ =>
    FollowsInside.ite (fun _ => ?_) fun _ => FollowsInside.ite (fun _ => ?_) fun _ =>
    FollowsInside.ite (fun _ => ?_) fun _ => FollowsInside.ite (fun _ => ?_) fun _ =>
    FollowsInside.ite (fun _ => ?_) fun _ => FollowsInside.ite (fun _ => ?_) fun _ => ?_
  · exact FollowsInside.advance ((steady_word _).bind fun _ => steady_pure _)
  · exact FollowsInside.advance ((steady_word _).bind fun _ => steady_pure _)
  · exact FollowsInside.advance ((steady_word _).bind fun _ => steady_pure _)
  · exact FollowsInside.advance ((steady_skipNumber htail).bind fun _ => steady_pure _)
  · exact ((steady_skipNumber htail).bind fun _ => steady_pure _).inside
  · exact FollowsInside.advance (steady_skipStringBody.bind fun _ => steady_pure _)
  · exact FollowsInside.advance (steady_pure _)
  · exact FollowsInside.advance (steady_pure _)
  · exact (fails_failNext _).inside

theorem steady_skipKey : Steady tail skipKey := by
  refine Follows.peekToken htail (fails_failHere _).follows fun c => ?_
  refine FollowsInside.ite (fun _ => FollowsInside.advance ?_) fun _ =>
    (fails_failNext _).inside
  exact steady_skipStringBody.bind fun _ => steady_colon htail

/-- More steps than needed make no difference. -/
theorem follows_skipClosing {few many : Nat} (hsteps : few ≤ many) (afterItem : Bool)
    (inner : Bracket) (outer : List Bracket) :
    Follows tail id (skipClosing few afterItem inner outer)
      (skipClosing many afterItem inner outer) := by
  induction few generalizing many afterItem inner outer with
  | zero => exact (fails_failHere _).follows
  | succ few ih =>
    obtain ⟨many, rfl⟩ : ∃ more, many = more + 1 := ⟨many - 1, by omega⟩
    refine Follows.peekToken htail (fails_failHere _).follows fun c => ?_
    refine FollowsInside.ite (fun _ => FollowsInside.advance (steady_pure _)) fun _ =>
      FollowsInside.ite (fun _ => FollowsInside.advance ?_) fun _ =>
      FollowsInside.ite (fun _ => (fails_failNext _).inside) fun _ => (steady_pure _).inside
    cases outer with
    | nil => exact steady_pure []
    | cons next rest => exact ih (Nat.le_of_succ_le_succ hsteps) ..

theorem follows_skipWithin {few many : Nat} (hsteps : few ≤ many)
    (outer : List Bracket) :
    Follows tail id (skipWithin few outer) (skipWithin many outer) := by
  induction few generalizing many outer with
  | zero => exact (fails_failHere _).follows
  | succ few ih =>
    obtain ⟨many, rfl⟩ : ∃ more, many = more + 1 := ⟨many - 1, by omega⟩
    have hclosing := follows_skipClosing htail hsteps
    have hnext := ih (Nat.le_of_succ_le_succ hsteps)
    refine (steady_skipStart htail).bind fun opened => ?_
    split
    case' h_1 => refine (hclosing ..).bind fun left => ?_
    case' h_2 => refine (steady_pure []).bind fun left => ?_
    case' h_3 => refine (hclosing ..).bind fun left => ?_
    -- Whatever was closed, the skipping goes on in the same way.
    all_goals
      dsimp only
      split
      · exact steady_pure ()
      · exact hnext _
      · exact (steady_skipKey htail).bind fun _ => hnext _

theorem steady_skipValue : Steady tail skipValue :=
  Follows.remaining fun _ _ hle => follows_skipWithin htail (Nat.succ_le_succ hle) []

end Skipping

end Wireform.Json.Reader
