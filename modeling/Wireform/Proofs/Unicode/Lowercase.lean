import Mathlib
import Wireform.Unicode.Casing

/-!
# Lower case once and for all

Lower case consists of characters that are their own lower case wherever they stand,
so a text in lower case, or any part of it, stays as it is.  The rule for the capital
sigma, which looks at the word around it, has no say in this: no capital sigma is left.
-/

namespace Wireform.Unicode

/-- A character is its own lower case wherever it stands. -/
structure IsSettled (c : Char) : Prop where
  lowerChar_eq : lowerChar c = [c]
  ne_capitalSigma : c ≠ capitalSigma

instance (c : Char) : Decidable (IsSettled c) :=
  decidable_of_iff (lowerChar c = [c] ∧ c ≠ capitalSigma)
    ⟨fun ⟨hlower, hsigma⟩ => ⟨hlower, hsigma⟩, fun ⟨hlower, hsigma⟩ => ⟨hlower, hsigma⟩⟩

/-- A text of such characters is its own lower case. -/
theorem lowercase_eq_self {text : List Char} (htext : ∀ c ∈ text, IsSettled c) :
    lowercase text = text := by
  suffices hafter : ∀ before, lowerAfter before text = text from hafter []
  induction text with
  | nil => exact fun _ => rfl
  | cons c rest ih =>
    intro before
    have hc := htext c List.mem_cons_self
    rw [lowerAfter, if_neg hc.ne_capitalSigma, hc.lowerChar_eq,
      ih fun d hd => htext d (List.mem_cons_of_mem c hd), List.singleton_append]

theorem lowerChar_eq_toLower {c : Char} (hascii : c.toNat < 128) :
    lowerChar c = [c.toLower] := by
  have hall : ∀ code < 128,
      lowerChar (Char.ofNat code) = [(Char.ofNat code).toLower] := by
    decide +kernel
  simpa using hall c.toNat hascii

/-- In a text of ASCII characters, capital letters become small ones and all else
stays. -/
theorem lowercase_eq_map_toLower {text : List Char} (htext : ∀ c ∈ text, c.toNat < 128) :
    lowercase text = text.map Char.toLower := by
  suffices hafter : ∀ before, lowerAfter before text = text.map Char.toLower from
    hafter []
  induction text with
  | nil => exact fun _ => rfl
  | cons c rest ih =>
    intro before
    have hascii := htext c List.mem_cons_self
    have hsigma : c ≠ capitalSigma := by
      rintro rfl
      exact absurd hascii (by decide)
    rw [lowerAfter, if_neg hsigma, lowerChar_eq_toLower hascii,
      ih fun d hd => htext d (List.mem_cons_of_mem c hd)]
    rfl

/-! ## The images of the runs -/

namespace CaseRun

/-- The last image of a run. -/
def lastImage (run : CaseRun) : Nat := run.image + (run.last - run.first)

/-- All characters from a first to a last one. -/
def stretch (first last : Nat) : CaseRun := ⟨first, last, 1, first⟩

/-- Whether no image of a run is covered by another run: the images lie before or
behind it, or between the characters that it covers. -/
def avoids (run other : CaseRun) : Bool :=
  run.lastImage.blt other.first || other.last.blt run.image ||
    (other.step == 2 && (run.step == 2 || run.first == run.last) &&
      (run.image + other.first) % 2 == 1)

variable {run other : CaseRun} {code image : Nat}

theorem exists_offset (happly : run.apply code = some image) :
    ∃ offset, offset ≤ run.last - run.first ∧ offset % run.step = 0 ∧
      image = run.image + offset := by
  unfold apply at happly
  split at happly
  · rename_i hcovered
    simp only [Bool.and_eq_true, decide_eq_true_eq, beq_iff_eq] at hcovered
    obtain rfl := Option.some.inj happly
    exact ⟨code - run.first, by omega, hcovered.2, rfl⟩
  · cases happly

theorem image_le_lastImage (happly : run.apply code = some image) :
    image ≤ run.lastImage := by
  obtain ⟨offset, hoffset, -, rfl⟩ := exists_offset happly
  exact Nat.add_le_add_left hoffset run.image

theorem apply_eq_none_of_avoids (havoids : run.avoids other = true)
    (happly : run.apply code = some image) : other.apply image = none := by
  obtain ⟨offset, hoffset, hstep, rfl⟩ := exists_offset happly
  have hlastImage : run.lastImage = run.image + (run.last - run.first) := rfl
  simp only [avoids, Bool.or_eq_true, Bool.and_eq_true, Nat.blt_eq, beq_iff_eq] at havoids
  rw [apply, if_neg]
  simp only [Bool.and_eq_true, decide_eq_true_eq, beq_iff_eq]
  rintro ⟨⟨hfirst, hlast⟩, hother⟩
  rcases havoids with (hbefore | hbehind) | ⟨⟨htwo, htwo' | hsingle⟩, hbetween⟩
  · omega
  · omega
  · rw [htwo] at hother
    rw [htwo'] at hstep
    omega
  · rw [htwo] at hother
    omega

theorem image_notMem_stretch {first last : Nat}
    (havoids : run.avoids (stretch first last) = true)
    (happly : run.apply code = some image) : image < first ∨ last < image := by
  have hnone := apply_eq_none_of_avoids havoids happly
  by_contra hinside
  have hcovered : first ≤ image ∧ image ≤ last := by omega
  simp [apply, stretch, hcovered, Nat.mod_one] at hnone

end CaseRun

/-- The runs of lower case take no character to one that changes again. -/
theorem lowerRuns_avoid_lowerRuns :
    (lowerRuns.all fun run => lowerRuns.all run.avoids) = true := by
  decide +kernel

/-- Nor do they take one to the dotted capital, to the capital sigma or to a number that
stands for no character. -/
theorem lowerRuns_avoid_stretches :
    ∀ run ∈ lowerRuns, run.lastImage < 0x110000 ∧
      run.avoids (.stretch 0x130 0x130) = true ∧ run.avoids (.stretch 0x3A3 0x3A3) = true ∧
      run.avoids (.stretch 0xD800 0xDFFF) = true := by
  decide +kernel

theorem isSettled_ofNat_image {run : CaseRun} {code image : Nat} (hrun : run ∈ lowerRuns)
    (happly : run.apply code = some image) : IsSettled (Char.ofNat image) := by
  obtain ⟨hlast, hdotted, hsigma, hsurrogate⟩ := lowerRuns_avoid_stretches run hrun
  have hdotted := CaseRun.image_notMem_stretch hdotted happly
  have hsigma := CaseRun.image_notMem_stretch hsigma happly
  have hsurrogate := CaseRun.image_notMem_stretch hsurrogate happly
  have himage := CaseRun.image_le_lastImage happly
  have hvalid : image.isValidChar := by
    unfold Nat.isValidChar
    omega
  have hcode : (Char.ofNat image).toNat = image := by rw [Char.toNat_ofNat, if_pos hvalid]
  constructor
  · have hruns : lowerRuns.findSome? (·.apply image) = none := by
      rw [List.findSome?_eq_none_iff]
      intro other hother
      have hall := List.all_eq_true.1 lowerRuns_avoid_lowerRuns run hrun
      exact CaseRun.apply_eq_none_of_avoids (List.all_eq_true.1 hall other hother) happly
    have hexpansion : lowerExpansions.lookup image = none := by
      rw [List.lookup_eq_none_iff]
      intro expansion hmem
      obtain rfl := List.mem_singleton.1 hmem
      have hne : image ≠ 0x130 := by omega
      simpa using hne
    rw [lowerChar, mapCase, hcode, hruns]
    simp only [hexpansion]
  · intro heq
    have hcapital : image = 0x3A3 := by
      rw [← hcode, heq]
      rfl
    omega

/-! ## Lower case is settled -/

theorem isSettled_of_mem_lowerChar {c d : Char} (hc : c ≠ capitalSigma)
    (hd : d ∈ lowerChar c) : IsSettled d := by
  cases hruns : lowerRuns.findSome? (·.apply c.toNat) with
  | some image =>
    simp only [lowerChar, mapCase, hruns, List.mem_singleton] at hd
    obtain ⟨run, hrun, happly⟩ := List.exists_of_findSome?_eq_some hruns
    exact hd ▸ isSettled_ofNat_image hrun happly
  | none =>
    cases hexpansion : lowerExpansions.lookup c.toNat with
    | some images =>
      simp only [lowerChar, mapCase, hruns, hexpansion, List.mem_map] at hd
      obtain ⟨code, hcode, rfl⟩ := hd
      have hexpansions : ∀ expansion ∈ lowerExpansions, ∀ code ∈ expansion.2,
          IsSettled (Char.ofNat code) := by
        decide +kernel
      obtain ⟨left, right, hmem, -⟩ := List.lookup_eq_some_iff.1 hexpansion
      exact hexpansions (c.toNat, images) (by simp [hmem]) code hcode
    | none =>
      have hself : lowerChar c = [c] := by
        simp only [lowerChar, mapCase, hruns, hexpansion]
      obtain rfl := List.mem_singleton.1 (hself ▸ hd)
      exact ⟨hself, hc⟩

theorem isSettled_lowerSigma (before after : List Char) :
    IsSettled (lowerSigma before after) := by
  unfold lowerSigma
  split <;> decide +kernel

theorem isSettled_of_mem_lowercase {text : List Char} {d : Char}
    (hd : d ∈ lowercase text) : IsSettled d := by
  suffices hafter : ∀ before, d ∈ lowerAfter before text → IsSettled d from hafter [] hd
  clear hd
  induction text with
  | nil => exact fun _ hd => absurd hd List.not_mem_nil
  | cons c rest ih =>
    intro before hd
    rw [lowerAfter, List.mem_append] at hd
    rcases hd with hd | hd
    · split at hd
      · rw [List.mem_singleton.1 hd]
        exact isSettled_lowerSigma before rest
      · rename_i hc
        exact isSettled_of_mem_lowerChar hc hd
    · exact ih (c :: before) hd

end Wireform.Unicode
