import Mathlib
import Wireform.Mockup.Analysis
import Wireform.Proofs.Mockup.StandardForm

/-!
# Image payloads

A payload is analyzed as the image whose encoding it carries.  What it carries
is set apart from the prefix of a data address and from white space around it;
both are described here by the way in which the parts make up the whole.
-/

namespace Wireform.Mockup.Analysis

open Wireform.Unicode

variable {text whole rest : List Char}

/-! ## The encoded part -/

/-- The encoded part of a payload: what stands behind its first comma, if what
stands before it begins a data address, and the whole payload otherwise. -/
inductive Carries (payload : List Char) : List Char → Prop
  | address (before rest : List Char) :
      payload = before ++ ',' :: rest → ',' ∉ before → "data:".toList <+: before →
      Carries payload rest
  | bare :
      (∀ before rest, payload = before ++ ',' :: rest → ',' ∉ before →
        ¬ "data:".toList <+: before) →
      Carries payload payload

theorem afterComma_append {before : List Char} (hbefore : ',' ∉ before) :
    afterComma (before ++ ',' :: rest) = some rest := by
  induction before with
  | nil => simp [afterComma]
  | cons c before ih =>
    rw [List.mem_cons, not_or] at hbefore
    simp [afterComma, Ne.symm hbefore.1, ih hbefore.2]

theorem exists_before_comma (hafter : afterComma text = some rest) :
    ∃ before, text = before ++ ',' :: rest ∧ ',' ∉ before := by
  induction text with
  | nil => cases hafter
  | cons c text ih =>
    rw [afterComma] at hafter
    split_ifs at hafter with hc
    · obtain rfl : text = rest := Option.some.inj hafter
      exact ⟨[], by rw [hc]; rfl, by simp⟩
    · obtain ⟨before, rfl, hbefore⟩ := ih hafter
      exact ⟨c :: before, rfl, by simp [hbefore, Ne.symm hc]⟩

/-- A text without a comma begins a payload when it begins what stands before
the first comma. -/
theorem prefix_before_comma {front before : List Char} (hfront : ',' ∉ front)
    (hbegins : front <+: before ++ ',' :: rest) : front <+: before := by
  rcases List.prefix_or_prefix_of_prefix hbegins (List.prefix_append before _) with
    hshort | ⟨behind, rfl⟩
  · exact hshort
  · rw [List.prefix_append_right_inj] at hbegins
    cases behind with
    | nil => simp
    | cons c behind =>
      -- The character that follows in the payload is the comma.
      obtain ⟨rfl, -⟩ := List.cons_prefix_cons.mp hbegins
      simp at hfront

/-- What is cut out of a payload is the one part that it carries. -/
theorem carries_iff : Carries text rest ↔ rest = encodedPart text := by
  have haddress : ',' ∉ "data:".toList := by decide
  constructor
  · rintro (⟨before, rest, rfl, hbefore, hdata⟩ | hbare)
    · have hwhole : "data:".toList <+: before ++ ',' :: rest :=
        hdata.trans (List.prefix_append _ _)
      rw [encodedPart, if_pos (List.isPrefixOf_iff_prefix.mpr hwhole),
        afterComma_append hbefore, Option.getD_some]
    · rw [encodedPart]
      split_ifs with hdata
      · cases hafter : afterComma text with
        | none => rfl
        | some rest =>
          obtain ⟨before, rfl, hbefore⟩ := exists_before_comma hafter
          have hwhole := List.isPrefixOf_iff_prefix.mp hdata
          exact absurd (prefix_before_comma haddress hwhole)
            (hbare before rest rfl hbefore)
      · rfl
  · rintro rfl
    rw [encodedPart]
    split_ifs with hdata
    · have hwhole := List.isPrefixOf_iff_prefix.mp hdata
      cases hafter : afterComma text with
      | none =>
        refine Carries.bare fun before rest htext hbefore => ?_
        rw [htext, afterComma_append hbefore] at hafter
        cases hafter
      | some rest =>
        obtain ⟨before, rfl, hbefore⟩ := exists_before_comma hafter
        exact Carries.address before rest rfl hbefore
          (prefix_before_comma haddress hwhole)
    · refine Carries.bare fun before rest htext _ hbegins => ?_
      apply hdata
      rw [htext]
      exact List.isPrefixOf_iff_prefix.mpr (hbegins.trans (List.prefix_append _ _))

example : Carries "data:image/png;base64,AQID".toList "AQID".toList :=
  carries_iff.mpr (by decide)

/-! ## White space around a text -/

/-- A text is what is left of a whole without the white space at both ends. -/
structure IsTrimmed (whole text : List Char) : Prop where
  inside : ∃ left right, whole = left ++ text ++ right ∧
    (∀ c ∈ left, isWhiteSpace c = true) ∧ ∀ c ∈ right, isWhiteSpace c = true
  first : ∀ c ∈ text.head?, isWhiteSpace c = false
  last : ∀ c ∈ text.getLast?, isWhiteSpace c = false

theorem dropWhile_eq_self {p : Char → Bool} (hfirst : ∀ c ∈ text.head?, p c = false) :
    text.dropWhile p = text := by
  cases text with
  | nil => rfl
  | cons c text => simp [hfirst c rfl]

theorem head?_dropWhile_eq_false {p : Char → Bool} (text : List Char) :
    ∀ c ∈ (text.dropWhile p).head?, p c = false := by
  intro c hc
  have hnot := List.head?_dropWhile_not p text
  rw [hc] at hnot
  exact hnot

theorem trimChars_eq_rdropWhile (whole : List Char) :
    Text.trimChars whole = (whole.dropWhile isWhiteSpace).rdropWhile isWhiteSpace :=
  rfl

theorem IsTrimmed.eq_trimChars (htext : IsTrimmed whole text) :
    text = Text.trimChars whole := by
  obtain ⟨left, right, rfl, hleft, hright⟩ := htext.inside
  rw [Text.trimChars, List.append_assoc, List.dropWhile_append_of_pos hleft]
  by_cases hnil : text = []
  · have hwhite : right.dropWhile isWhiteSpace = [] := List.dropWhile_eq_nil_iff.mpr hright
    rw [hnil, List.nil_append, hwhite]
    rfl
  · have hfirst : ∀ c ∈ (text ++ right).head?, isWhiteSpace c = false := by
      rw [List.head?_append_of_ne_nil _ hnil]
      exact htext.first
    have hlast : ∀ c ∈ text.reverse.head?, isWhiteSpace c = false := by
      rw [List.head?_reverse]
      exact htext.last
    rw [dropWhile_eq_self hfirst, List.reverse_append,
      List.dropWhile_append_of_pos fun c hc => hright c (List.mem_reverse.mp hc),
      dropWhile_eq_self hlast, List.reverse_reverse]

theorem isTrimmed_trimChars (whole : List Char) :
    IsTrimmed whole (Text.trimChars whole) where
  inside := by
    refine ⟨whole.takeWhile isWhiteSpace,
      (whole.dropWhile isWhiteSpace).rtakeWhile isWhiteSpace, ?_,
      fun c hc => List.mem_takeWhile_imp hc, fun c hc => List.mem_rtakeWhile_imp hc⟩
    rw [trimChars_eq_rdropWhile, List.append_assoc, List.rdropWhile_append_rtakeWhile,
      List.takeWhile_append_dropWhile]
  first := by
    intro c hc
    apply head?_dropWhile_eq_false whole
    have hbegins := List.rdropWhile_prefix isWhiteSpace (whole.dropWhile isWhiteSpace)
    rw [← trimChars_eq_rdropWhile] at hbegins
    obtain ⟨right, hright⟩ := hbegins
    rw [← hright, List.head?_append, hc]
    rfl
  last := by
    intro c hc
    rw [Text.trimChars, List.getLast?_reverse] at hc
    exact head?_dropWhile_eq_false _ c hc

/-- Trimming leaves the one text without white space at its ends. -/
theorem isTrimmed_iff : IsTrimmed whole text ↔ text = Text.trimChars whole := by
  constructor
  · exact IsTrimmed.eq_trimChars
  · rintro rfl
    exact isTrimmed_trimChars whole

/-! ## Results -/

/-- A result comes with code or with an error, never with both or with neither,
and names a component. -/
structure Consistent (analysis : Analysis) : Prop where
  error_eq_none_iff : analysis.error = none ↔ analysis.success = true
  code_ne_empty_iff : analysis.code ≠ "" ↔ analysis.success = true
  named : Text.isBlank analysis.componentName = false

theorem resolveName_not_blank (name : String) : Text.isBlank (resolveName name) = false := by
  rw [resolveName]
  split_ifs with hblank
  · decide
  · exact Bool.eq_false_iff.mpr hblank

theorem consistent_failed (name reason : String) : (failed name reason).Consistent where
  error_eq_none_iff := by simp [failed]
  code_ne_empty_iff := by simp [failed]
  named := resolveName_not_blank name

theorem render_ne_empty (profile : Profile) (name : String) : profile.render name ≠ "" := by
  simp [Profile.render]

theorem consistent_ofImage (image : List UInt8) (name : String) :
    (ofImage image name).Consistent := by
  rw [ofImage]
  cases Profile.ofImage image with
  | error error => exact consistent_failed name _
  | ok profile =>
    exact
      { error_eq_none_iff := by simp
        code_ne_empty_iff := by simp [render_ne_empty]
        named := resolveName_not_blank name }

theorem consistent_ofBase64 (payload name : String) :
    (ofBase64 payload name).Consistent := by
  rw [ofBase64]
  cases Base64.decode _ with
  | error fault => exact consistent_failed name _
  | ok image => exact consistent_ofImage image name

/-- A payload is analyzed by the text that it carries, without the white space
around it.  If this is the standard form of an image, the result is the one for
the image, an error if the image is empty; otherwise it is an error that says so. -/
theorem base64_agrees_with_image (payload name : String) :
    ∃ rest text : List Char,
      (∀ part, Carries payload.toList part ↔ part = rest) ∧
      (∀ middle, IsTrimmed rest middle ↔ middle = text) ∧
      (∀ image, Base64.Spells text image →
        ofBase64 payload name = ofImage image name) ∧
      ((∀ image, ¬ Base64.Spells text image) →
        ∃ reason, ofBase64 payload name =
          failed name ("Image payload is not valid base64: " ++ reason)) ∧
      ofImage [] name = failed name "Image payload is empty" ∧
      (ofBase64 payload name).Consistent ∧
      (∀ image, (ofImage image name).Consistent) ∧
      ∀ reason, (failed name reason).Consistent := by
  refine ⟨_, _, fun _ => carries_iff, fun _ => isTrimmed_iff, ?_, ?_, rfl,
    consistent_ofBase64 payload name, fun image => consistent_ofImage image name,
    consistent_failed name⟩
  · intro image hspells
    rw [ofBase64, Base64.decode_eq_ok_iff_spells.mpr hspells]
  · intro hforeign
    rw [ofBase64]
    cases hdecode : Base64.decode
        (Utf8.encode (String.ofList (Text.trimChars (encodedPart payload.toList)))) with
    | error fault => exact ⟨fault.message, rfl⟩
    | ok image => exact absurd (Base64.decode_eq_ok_iff_spells.mp hdecode) (hforeign image)

end Wireform.Mockup.Analysis
