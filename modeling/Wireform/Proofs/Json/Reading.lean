import Mathlib
import Wireform.Json.Parse
import Wireform.Proofs.Json.Grammar

/-!
# Texts and their readers

Only faults depend on places, so what a reader makes of a text can be stated
without them: the value it gives and the text it leaves.  Readers in sequence
go past their texts in sequence.  The parts of printed documents are read back
here: words, string literals with every escape, and natural numbers.
-/

namespace Wireform.Json.Reader

variable {α β : Type} {reader : Reader α} {text middle rest : List Char} {value : α}
  {result : β}

/-- A reader gives a value at the beginning of a text and leaves the rest of
it, wherever the text stands. -/
def Reads (reader : Reader α) (text : List Char) (value : α)
    (rest : List Char) : Prop :=
  ∀ mark, ∃ after, reader ⟨text, mark⟩ = .ok value ⟨rest, after⟩

/-! ## Sequences -/

theorem bind_of_ok {f : α → Reader β} {cursor after : Cursor}
    (hreader : reader cursor = .ok value after) :
    (reader >>= f) cursor = f value after := by
  change EStateM.bind reader f cursor = _
  rw [EStateM.bind, hreader]

theorem bind_eq_ok {f : α → Reader β} {cursor : Cursor} {result : β} {after : Cursor}
    (hok : (reader >>= f) cursor = .ok result after) :
    ∃ value between, reader cursor = .ok value between ∧
      f value between = .ok result after := by
  change EStateM.bind reader f cursor = _ at hok
  unfold EStateM.bind at hok
  split at hok
  · exact ⟨_, _, ‹_›, hok⟩
  · cases hok

theorem pure_eq_ok {value result : α} {cursor after : Cursor}
    (hok : (pure value : Reader α) cursor = .ok result after) : value = result := by
  cases hok
  rfl

theorem Reads.bind {f : α → Reader β} (hfirst : Reads reader text value middle)
    (hsecond : Reads (f value) middle result rest) :
    Reads (reader >>= f) text result rest := by
  intro mark
  obtain ⟨between, hbetween⟩ := hfirst mark
  obtain ⟨after, hafter⟩ := hsecond between
  exact ⟨after, by rw [bind_of_ok hbetween, hafter]⟩

theorem reads_pure (value : α) : Reads (pure value) text value text := fun mark =>
  ⟨mark, rfl⟩

theorem Reads.map (hreader : Reads reader text value rest) (f : α → β) :
    Reads (f <$> reader) text (f value) rest := by
  intro mark
  obtain ⟨after, hafter⟩ := hreader mark
  refine ⟨after, ?_⟩
  change EStateM.map f reader _ = _
  rw [EStateM.map, hafter]

theorem Reads.placed (hreader : Reads reader text value rest) :
    Reads (placed reader) text value rest := by
  intro mark
  obtain ⟨after, hafter⟩ := hreader mark
  exact ⟨after, by rw [Reader.placed, hafter]⟩

theorem Reads.thenAlways {last : Reader Unit}
    (hreader : Reads reader text value middle) (hlast : Reads last middle () rest) :
    Reads (thenAlways reader last) text value rest := by
  intro mark
  obtain ⟨between, hbetween⟩ := hreader mark
  obtain ⟨after, hafter⟩ := hlast between
  exact ⟨after, by simp only [Reader.thenAlways, hbetween, hafter]⟩

theorem Reads.remaining {f : Nat → Reader α}
    (hreader : Reads (f text.length) text value rest) :
    Reads (remaining >>= f) text value rest := fun mark => hreader mark

/-! ## Failures -/

/-- A reader that never succeeds. -/
def Fails (reader : Reader α) : Prop :=
  ∀ cursor value after, reader cursor ≠ .ok value after

theorem fails_failBare (cause : Cause) : Fails (failBare cause : Reader α) := nofun

theorem fails_failHere (cause : Cause) : Fails (failHere cause : Reader α) := nofun

theorem fails_failNext (cause : Cause) : Fails (failNext cause : Reader α) := by
  intro cursor value after hok
  unfold failNext at hok
  split at hok <;> cases hok

theorem Fails.bind {f : α → Reader β} (hfails : ∀ value, Fails (f value)) :
    Fails (reader >>= f) := by
  intro cursor result after hok
  obtain ⟨value, between, -, hrest⟩ := bind_eq_ok hok
  exact hfails value between result after hrest

/-! ## Tokens -/

theorem reads_advance {c : Char} : Reads advance (c :: rest) () rest := fun _ =>
  ⟨_, rfl⟩

theorem Reads.peek {f : Option Char → Reader α}
    (hreader : Reads (f text.head?) text value rest) :
    Reads (peek >>= f) text value rest := fun mark => hreader mark

/-- Whether a text does not begin with white space. -/
def startsSolid (text : List Char) : Bool := text.head?.all (!isSpace ·)

theorem skipSpaceFrom_of_startsSolid (htext : startsSolid text = true) (mark : Mark) :
    skipSpaceFrom text mark = ⟨text, mark⟩ := by
  cases text with
  | nil => rfl
  | cons c text =>
    have hspace : isSpace c = false := by simpa [startsSolid] using htext
    rw [skipSpaceFrom, hspace]
    rfl

theorem skipSpaceFrom_append {gap : List Char} (hgap : gap.all isSpace = true)
    (htext : startsSolid text = true) (mark : Mark) :
    ∃ after, skipSpaceFrom (gap ++ text) mark = ⟨text, after⟩ := by
  induction gap generalizing mark with
  | nil => exact ⟨mark, skipSpaceFrom_of_startsSolid htext mark⟩
  | cons c gap ih =>
    rw [List.all_cons, Bool.and_eq_true] at hgap
    obtain ⟨after, hafter⟩ := ih hgap.2 (mark.past c)
    exact ⟨after, by rw [List.cons_append, skipSpaceFrom, if_pos hgap.1, hafter]⟩

/-- The next token is seen behind the white space before it. -/
theorem Reads.peekTokenAfter {f : Option Char → Reader α} {gap : List Char}
    (hgap : gap.all isSpace = true) (htext : startsSolid text = true)
    (hreader : Reads (f text.head?) text value rest) :
    Reads (peekToken >>= f) (gap ++ text) value rest := by
  intro mark
  obtain ⟨between, hbetween⟩ := skipSpaceFrom_append hgap htext mark
  obtain ⟨after, hafter⟩ := hreader between
  have htoken : Reader.peekToken ⟨gap ++ text, mark⟩ =
      .ok text.head? ⟨text, between⟩ := by
    rw [Reader.peekToken, hbetween]
  exact ⟨after, by rw [bind_of_ok htoken, hafter]⟩

/-- White space before a token makes no difference. -/
theorem Reads.afterGap {f : Option Char → Reader α} {gap : List Char}
    (hgap : gap.all isSpace = true) (htext : startsSolid text = true)
    (hreader : Reads (Reader.peekToken >>= f) text value rest) :
    Reads (Reader.peekToken >>= f) (gap ++ text) value rest := by
  intro mark
  obtain ⟨between, hbetween⟩ := skipSpaceFrom_append hgap htext mark
  obtain ⟨after, hafter⟩ := hreader between
  have htoken : Reader.peekToken ⟨gap ++ text, mark⟩ =
      Reader.peekToken ⟨text, between⟩ := by
    rw [Reader.peekToken, hbetween, Reader.peekToken, skipSpaceFrom_of_startsSolid htext]
  refine ⟨after, ?_⟩
  rw [← hafter]
  change EStateM.bind _ _ _ = EStateM.bind _ _ _
  rw [EStateM.bind, htoken, EStateM.bind]

/-- The white space that is gone past before a token. -/
theorem exists_gap (text : List Char) (mark : Mark) :
    ∃ gap, gap.all isSpace = true ∧ startsSolid (skipSpaceFrom text mark).rest = true ∧
      text = gap ++ (skipSpaceFrom text mark).rest := by
  induction text generalizing mark with
  | nil => exact ⟨[], rfl, rfl, rfl⟩
  | cons c text ih =>
    rw [skipSpaceFrom]
    split
    · rename_i hspace
      obtain ⟨gap, hgap, hsolid, htext⟩ := ih (mark.past c)
      refine ⟨c :: gap, ?_, hsolid, congrArg (c :: ·) htext⟩
      rw [List.all_cons, hspace, hgap, Bool.and_self]
    · rename_i hspace
      refine ⟨[], rfl, ?_, rfl⟩
      simpa [startsSolid] using hspace

theorem startsSolid_append (htext : startsSolid text = true)
    (hrest : startsSolid rest = true) : startsSolid (text ++ rest) = true := by
  cases text with
  | nil => exact hrest
  | cons c text => exact htext

theorem Reads.peekToken {f : Option Char → Reader α} (htext : startsSolid text = true)
    (hreader : Reads (f text.head?) text value rest) :
    Reads (peekToken >>= f) text value rest :=
  have hgap : ([] : List Char).all isSpace = true := rfl
  Reads.peekTokenAfter hgap htext hreader

/-! ## Whole texts -/

/-- A text is read as a whole when nothing but white space is left of it. -/
theorem Reads.readWhole {source : String} (hreader : Reads reader source.toList value rest)
    (hrest : rest.all isSpace = true) : readWhole reader source = .ok value := by
  obtain ⟨between, hbetween⟩ := hreader {}
  have hfinish : Reads finish (rest ++ []) () [] :=
    Reads.peekTokenAfter hrest rfl (reads_pure ())
  rw [List.append_nil] at hfinish
  obtain ⟨after, hafter⟩ := hfinish between
  simp only [Reader.readWhole, bind_of_ok hbetween, bind_of_ok hafter]
  rfl

theorem readWhole_eq_ok {source : String} (hok : readWhole reader source = .ok value) :
    ∃ rest after, reader ⟨source.toList, {}⟩ = .ok value ⟨rest, after⟩ ∧
      rest.all isSpace = true := by
  unfold readWhole at hok
  dsimp only at hok
  split at hok
  · rename_i last hwhole
    cases hok
    obtain ⟨result, between, hresult, hlast⟩ := bind_eq_ok hwhole
    obtain ⟨_, final, hfinish, hpure⟩ := bind_eq_ok hlast
    obtain rfl := pure_eq_ok hpure
    refine ⟨between.rest, between.mark, hresult, ?_⟩
    obtain ⟨gap, hgap, -, htext⟩ := exists_gap between.rest between.mark
    obtain ⟨head, token, hhead, hend⟩ := bind_eq_ok hfinish
    have hhead : (skipSpaceFrom between.rest between.mark).rest.head? = head := by
      cases hhead
      rfl
    cases head with
    | none =>
      rw [htext, List.head?_eq_none_iff.mp hhead, List.append_nil]
      exact hgap
    | some c => exact absurd hend (fails_failNext _ _ _ _)
  · cases hok

/-! ## Words -/

theorem reads_word (letters : List Char) :
    Reads (word letters) (letters ++ rest) () rest := by
  induction letters with
  | nil => exact reads_pure ()
  | cons c letters ih =>
    refine Reads.peek ?_
    simp only [List.cons_append, List.head?_cons, if_pos]
    exact reads_advance.bind ih

/-! ## String literals -/

/-- A character within a literal is read from any of its spellings. -/
theorem stringFrom_charText {c : Char} (htext : CharText text c)
    (seen rest : List Char) (mark : Mark) :
    ∃ after, stringFrom seen (text ++ rest) mark = stringFrom (c :: seen) rest after := by
  cases htext with
  | plain hcontrol hquote hbackslash =>
    rw [List.singleton_append]
    refine ⟨mark.past c, ?_⟩
    rw [stringFrom, if_neg (Nat.not_lt.2 hcontrol)] <;> simp_all
  | @letter d _ hletter =>
    have hu : d ≠ 'u' := ne_u_of_shortEscape hletter
    refine ⟨(mark.past '\\').past d, ?_⟩
    rw [List.cons_append, List.singleton_append, stringFrom, hletter]
    · exact fun _ _ _ _ _ hd => absurd hd hu
    · exact hu
  | unit hunit hleading htrailing =>
    simp only [List.cons_append, List.nil_append, stringFrom, hunit, htrailing, hleading,
      Bool.false_eq_true, if_false]
    exact ⟨_, rfl⟩
  | @pair _ _ _ _ _ _ _ _ unit _ hfirst hleading hsecond htrailing =>
    have hfirstTrailing : isTrailing unit = false := isTrailing_of_isLeading hleading
    simp only [List.cons_append, List.nil_append, stringFrom, hfirst, hfirstTrailing,
      hleading, hsecond, htrailing, Bool.false_eq_true, if_false, if_true]
    exact ⟨_, rfl⟩

theorem stringFrom_charTexts {chars : List Char} (htexts : CharTexts text chars)
    (seen rest : List Char) (mark : Mark) :
    ∃ after, stringFrom seen (text ++ '"' :: rest) mark =
      .ok (String.ofList (seen.reverse ++ chars)) ⟨rest, after⟩ := by
  induction htexts generalizing seen mark with
  | nil => exact ⟨mark.past '"', by rw [List.append_nil]; rfl⟩
  | @cons text more c chars first others ih =>
    obtain ⟨between, hbetween⟩ := stringFrom_charText first seen (more ++ '"' :: rest) mark
    obtain ⟨after, hafter⟩ := ih (c :: seen) between
    refine ⟨after, ?_⟩
    rw [List.append_assoc, hbetween, hafter, List.reverse_cons, List.append_assoc,
      List.singleton_append]

theorem reads_stringBody_of {inside : List Char} {value : String}
    (htexts : CharTexts inside value.toList) :
    Reads stringBody (inside ++ ['"'] ++ rest) value rest := by
  intro mark
  obtain ⟨after, hafter⟩ := stringFrom_charTexts htexts [] rest mark
  refine ⟨after, ?_⟩
  rw [List.append_assoc, List.singleton_append, stringBody, hafter, List.reverse_nil,
    List.nil_append, String.ofList_toList]

/-- A key in any of its spellings. -/
theorem reads_key_of {value : String} (htext : StringText text value) (rest : List Char) :
    Reads key (text ++ rest) value rest := by
  obtain ⟨inside, htexts, rfl⟩ := htext
  exact reads_advance.bind (reads_stringBody_of htexts)

/-- The characters of a literal after its opening quote. -/
def literalRest (text : String) : List Char :=
  text.toList.flatMap escapeChar ++ ['"']

theorem toList_literal (text : String) :
    (literal text).toList = '"' :: literalRest text := by
  rw [literal, String.toList_ofList]
  rfl

theorem reads_stringBody (text : String) :
    Reads stringBody (literalRest text ++ rest) text rest :=
  reads_stringBody_of (charTexts_flatMap text.toList)

theorem reads_key (text : String) :
    Reads key ((literal text).toList ++ rest) text rest :=
  reads_key_of (stringText_literal text) rest

/-! ## Natural numbers -/

theorem isDigit_eq (c : Char) : isDigit c = c.isDigit := rfl

/-- Whether a text goes on in a way that ends a value. -/
def endsValue (next : List Char) : Bool :=
  next.head?.all fun c => c = ',' || c = ']' || c = '}'

/-- A condition on the next character fails at the end of a value. -/
theorem any_of_endsValue {condition : Char → Bool} (hrest : endsValue rest = true)
    (hcomma : condition ',' = false) (hbracket : condition ']' = false)
    (hbrace : condition '}' = false) : rest.head?.any condition = false := by
  cases rest with
  | nil => rfl
  | cons c rest =>
    have hc : (c = ',' ∨ c = ']') ∨ c = '}' := by simpa [endsValue] using hrest
    obtain (rfl | rfl) | rfl := hc <;> assumption

theorem Reads.nextIs {condition : Char → Bool} {f : Bool → Reader α}
    (hreader : Reads (f (text.head?.any condition)) text value rest) :
    Reads (nextIs condition >>= f) text value rest := fun mark => hreader mark

theorem le_ofDigitChars (digits : List Char) (start : Nat) :
    start ≤ Nat.ofDigitChars 10 digits start := by
  rw [Nat.ofDigitChars_eq_ofDigitChars_zero]
  exact Nat.le_add_right_of_le (Nat.le_mul_of_pos_left start (by positivity))

theorem takeDigits_append {limit start : Nat} {digits : List Char}
    (hdigits : ∀ c ∈ digits, isDigit c = true)
    (hlimit : Nat.ofDigitChars 10 digits start ≤ limit)
    (hrest : rest.head?.any isDigit = false) :
    takeDigits limit start (digits ++ rest) =
      (Nat.ofDigitChars 10 digits start, digits.length) := by
  induction digits generalizing start with
  | nil =>
    cases rest with
    | nil => rfl
    | cons c rest =>
      have hc : isDigit c = false := hrest
      rw [List.nil_append, takeDigits, hc]
      rfl
  | cons c digits ih =>
    rw [Nat.ofDigitChars_cons, Nat.mul_comm 10 start] at hlimit
    have hvalue : start * 10 + digitValue c ≤ limit :=
      (le_ofDigitChars digits _).trans hlimit
    have hmore := ih (fun d hd => hdigits d (List.mem_cons_of_mem c hd)) hlimit
    rw [List.cons_append, takeDigits, hdigits c List.mem_cons_self, decide_eq_true hvalue]
    simp only [Bool.and_self, if_true, digitValue]
    rw [hmore, Nat.ofDigitChars_cons, Nat.mul_comm 10 start, List.length_cons]

theorem reads_digitsOnto {limit start : Nat} {digits : List Char}
    (hdigits : ∀ c ∈ digits, isDigit c = true)
    (hlimit : Nat.ofDigitChars 10 digits start ≤ limit)
    (hrest : rest.head?.any isDigit = false) :
    Reads (digitsOnto limit start) (digits ++ rest)
      (Nat.ofDigitChars 10 digits start, digits.length) rest := by
  intro mark
  have htaken := takeDigits_append hdigits hlimit hrest
  refine ⟨⟨mark.line, mark.column + digits.length⟩, ?_⟩
  change EStateM.Result.ok (takeDigits limit start (digits ++ rest)) _ = _
  simp only [htaken, List.drop_left]

/-- The first digit of a positive number is not zero. -/
theorem toDigits_eq_cons {n : Nat} (hn : 0 < n) :
    ∃ c more, Nat.toDigits 10 n = c :: more ∧ c ≠ '0' := by
  induction n using Nat.strongRecOn with
  | ind n ih =>
    by_cases hsmall : n < 10
    · refine ⟨Nat.digitChar n, [], Nat.toDigits_of_lt_base hsmall, ?_⟩
      revert hn
      interval_cases n <;> decide
    · obtain ⟨c, more, hdigits, hc⟩ :=
        ih (n / 10) (Nat.div_lt_self hn (by decide)) (by omega)
      refine ⟨c, more ++ [Nat.digitChar (n % 10)], ?_, hc⟩
      rw [Nat.toDigits_of_base_le (by decide) (by omega), hdigits, List.cons_append]

/-- A number without fraction and exponent is read as an integer. -/
theorem reads_integerEnd {n : Nat} (hrest : endsValue rest = true) :
    Reads (integerEnd false n) rest (.integer n) rest := by
  refine Reads.nextIs ?_
  rw [any_of_endsValue hrest rfl rfl rfl]
  refine Reads.nextIs ?_
  rw [any_of_endsValue hrest rfl rfl rfl]
  exact reads_pure _

/-- The digits of a natural number that fits are read as the number. -/
theorem reads_natural {n : Nat} (hn : n ≤ maxUnsigned) (hrest : endsValue rest = true) :
    Reads (number false) (Nat.toDigits 10 n ++ rest) (.integer n) rest := by
  have hnext : rest.head?.any isDigit = false := any_of_endsValue hrest rfl rfl rfl
  obtain rfl | hpositive := Nat.eq_zero_or_pos n
  · change Reads (number false) ('0' :: rest) _ _
    refine Reads.peek (reads_advance.bind (Reads.nextIs ?_))
    rw [hnext]
    exact reads_integerEnd hrest
  · obtain ⟨c, more, hdigits, hc⟩ := toDigits_eq_cons hpositive
    have hall : ∀ d ∈ Nat.toDigits 10 n, isDigit d = true := fun d hd => by
      rw [isDigit_eq]
      exact Nat.isDigit_of_mem_toDigits (by decide) (by decide) hd
    have hvalue : Nat.ofDigitChars 10 (Nat.toDigits 10 n) 0 = n :=
      Nat.ofDigitChars_ten_toDigits
    have hread : Reads (digitsOnto maxUnsigned 0) _ _ rest :=
      reads_digitsOnto hall (hvalue.trans_le hn) hnext
    rw [hvalue] at hread
    refine Reads.peek ?_
    rw [hdigits] at hall hread ⊢
    simp only [List.cons_append, List.head?_cons, if_neg hc, hall c List.mem_cons_self,
      if_true]
    refine hread.bind (Reads.nextIs ?_)
    rw [hnext]
    exact reads_integerEnd hrest

end Wireform.Json.Reader
