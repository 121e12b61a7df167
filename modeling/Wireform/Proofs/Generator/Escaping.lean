import Mathlib
import Wireform.Generator.Markup

/-!
# Escapes

Each context that user text lands in has its own escape.  These lemmas state
what an escape keeps out of the text, that it leaves harmless text as it is,
and for block comments that the first end mark is the one that is written
after the text.
-/

namespace Wireform

namespace Text

@[simp]
theorem toList_onChars (f : List Char → List Char) (text : String) :
    (onChars f text).toList = f text.toList := by
  simp [onChars]

theorem onChars_eq_self {f : List Char → List Char} {text : String}
    (heq : f text.toList = text.toList) : onChars f text = text := by
  rw [onChars, heq, String.ofList_toList]

end Text

/-- A replacement of single characters that keeps every character of a text
keeps the text. -/
theorem flatMap_eq_self {escape : Char → List Char} {chars : List Char}
    (hkept : ∀ c ∈ chars, escape c = [c]) : chars.flatMap escape = chars := by
  induction chars with
  | nil => rfl
  | cons c rest ih =>
    have hrest : rest.flatMap escape = rest :=
      ih fun d hd => hkept d (List.mem_cons_of_mem c hd)
    rw [List.flatMap_cons, hkept c List.mem_cons_self, hrest]
    rfl

namespace Markup

/-! ## Element text and attributes -/

/-- The characters that element text cannot contain literally. -/
def isTagMark (c : Char) : Bool :=
  c = '{' || c = '}' || c = '<' || c = '>'

theorem not_isTagMark_of_mem_escapeTextChar {c escaped : Char}
    (hmem : escaped ∈ escapeTextChar c) : isTagMark escaped = false := by
  have hreference : ∀ reference ∈ ["&#123;", "&#125;", "&lt;", "&gt;"],
      ∀ c ∈ reference.toList, isTagMark c = false := by
    simp [isTagMark]
  unfold escapeTextChar at hmem
  split at hmem
  · exact hreference _ (by simp) _ hmem
  · exact hreference _ (by simp) _ hmem
  · exact hreference _ (by simp) _ hmem
  · exact hreference _ (by simp) _ hmem
  next hopen hclose hless hgreater =>
    rw [List.mem_singleton] at hmem
    subst hmem
    simp_all [isTagMark]

theorem escapeTextChar_eq_self {c : Char} (hplain : isTagMark c = false) :
    escapeTextChar c = [c] := by
  unfold escapeTextChar
  split <;> first | rfl | cases hplain

/-- Escaped element text holds neither braces nor angle brackets. -/
theorem not_isTagMark_of_mem_escapeText {text : String} {c : Char}
    (hmem : c ∈ (escapeText text).toList) : isTagMark c = false := by
  simp only [escapeText, Text.toList_onChars, List.mem_flatMap] at hmem
  obtain ⟨original, -, hescaped⟩ := hmem
  exact not_isTagMark_of_mem_escapeTextChar hescaped

theorem escapeText_eq_self {text : String}
    (hplain : ∀ c ∈ text.toList, isTagMark c = false) :
    escapeText text = text :=
  Text.onChars_eq_self <|
    flatMap_eq_self fun c hc => escapeTextChar_eq_self (hplain c hc)

/-- An escaped attribute value holds no double quote. -/
theorem ne_quote_of_mem_escapeAttribute {text : String} {c : Char}
    (hmem : c ∈ (escapeAttribute text).toList) : c ≠ '"' := by
  simp only [escapeAttribute, Text.toList_onChars, List.mem_flatMap] at hmem
  obtain ⟨original, -, hescaped⟩ := hmem
  have hreference : ∀ c ∈ "&quot;".toList, c ≠ '"' := by simp
  unfold escapeAttributeChar at hescaped
  split at hescaped
  · exact hreference c hescaped
  next hquote =>
    rw [List.mem_singleton] at hescaped
    subst hescaped
    exact hquote

theorem escapeAttribute_eq_self {text : String}
    (hplain : ∀ c ∈ text.toList, c ≠ '"') : escapeAttribute text = text := by
  refine Text.onChars_eq_self (flatMap_eq_self fun c hc => ?_)
  unfold escapeAttributeChar
  split
  · exact absurd rfl (hplain _ hc)
  · rfl

/-! ## Comments -/

/-- The mark that ends a block comment. -/
def commentEnd : List Char := ['*', '/']

/-- Whether a text begins with the second character of an end mark does not
change when its end marks are broken up. -/
theorem head?_breakCommentEnds (chars : List Char) :
    (breakCommentEnds chars).head? = chars.head? := by
  fun_cases breakCommentEnds chars <;> rfl

/-- An end mark begins with the first character or later. -/
theorem commentEnd_infix_cons {c : Char} {chars : List Char} :
    commentEnd <:+: c :: chars ↔
      (c = '*' ∧ chars.head? = some '/') ∨ commentEnd <:+: chars := by
  rw [List.infix_cons_iff]
  cases chars <;> simp [commentEnd, List.cons_prefix_cons, eq_comm (a := '*'),
    eq_comm (a := '/')]

/-- A text in which all end marks are broken up has no end mark. -/
theorem not_commentEnd_infix_breakCommentEnds (chars : List Char) :
    ¬ commentEnd <:+: breakCommentEnds chars := by
  fun_induction breakCommentEnds chars with
  | case1 rest ih =>
    simpa [commentEnd_infix_cons] using ih
  | case2 c rest hmark ih =>
    rw [commentEnd_infix_cons, head?_breakCommentEnds]
    rintro (⟨rfl, hhead⟩ | hlater)
    · obtain ⟨tail, rfl⟩ : ∃ tail, rest = '/' :: tail := by
        cases rest <;> simp_all
      exact hmark tail rfl rfl
    · exact ih hlater
  | case3 => simp [commentEnd]

theorem breakCommentEnds_eq_self {chars : List Char}
    (hplain : ¬ commentEnd <:+: chars) : breakCommentEnds chars = chars := by
  fun_induction breakCommentEnds chars with
  | case1 rest ih => exact absurd (by simp [commentEnd_infix_cons]) hplain
  | case2 c rest hmark ih =>
    rw [commentEnd_infix_cons, not_or] at hplain
    rw [ih hplain.2]
  | case3 => rfl

theorem escapeComment_eq_self {text : String}
    (hplain : ¬ commentEnd <:+: text.toList) : escapeComment text = text :=
  Text.onChars_eq_self (breakCommentEnds_eq_self hplain)

/-- After a text without an end mark and a blank, the first end mark is the
one that follows. -/
theorem eq_nil_of_append_commentEnd {chars before after : List Char}
    (hplain : ¬ commentEnd <:+: chars)
    (heq : chars ++ ' ' :: commentEnd = before ++ commentEnd ++ after) :
    after = [] := by
  induction chars generalizing before with
  | nil =>
    match before with
    | [] => simp [commentEnd] at heq
    | [_] => exact (by simpa [commentEnd] using heq : _ ∧ after = []).2
    | [_, _] => simp [commentEnd] at heq
    | _ :: _ :: _ :: _ => simp [commentEnd] at heq
  | cons c rest ih =>
    rw [commentEnd_infix_cons, not_or] at hplain
    match before with
    | [] =>
      refine absurd ⟨?_, ?_⟩ hplain.1
      · simpa [commentEnd] using congrArg List.head? heq
      · cases rest <;> simp_all [commentEnd]
    | d :: before =>
      have htail : rest ++ ' ' :: commentEnd = before ++ commentEnd ++ after := by
        simpa using congrArg List.tail heq
      exact ih hplain.2 htail

end Markup

/-! ## Line comments -/

namespace Fragment

/-- A text on one line holds no character that ends a line. -/
theorem not_isLineEnd_of_mem_singleLine {text : String} {c : Char}
    (hmem : c ∈ (singleLine text).toList) : isLineEnd c = false := by
  simp only [singleLine, Text.toList_onChars, List.mem_map] at hmem
  obtain ⟨original, -, rfl⟩ := hmem
  split
  · decide
  next hplain => simpa using hplain

theorem singleLine_eq_self {text : String}
    (hplain : ∀ c ∈ text.toList, isLineEnd c = false) :
    singleLine text = text := by
  refine Text.onChars_eq_self ?_
  refine (List.map_congr_left fun c hc => ?_).trans (List.map_id _)
  simp [hplain c hc]

end Fragment

end Wireform
