import Mathlib
import Wireform.Mockup.Analysis
import Wireform.Proofs.Mockup.StandardForm

/-!
# The size of an image

An image is judged by the length of its standard form.  Three bytes make up four
characters, so that thresholds of whole groups of characters are thresholds of
whole groups of bytes.  A size is cut off at the greatest number in a machine word,
which lies above all thresholds.
-/

namespace Wireform

/-! ## Lengths of encodings -/

namespace Base64

variable {count : Nat} {bytes : List UInt8} {text : List Char}

theorem Spells.length_eq (hspells : Spells text bytes) :
    text.length = encodedLength bytes.length := by
  rw [spells_iff.mp hspells, characters, List.length_map, length_encode]

/-- An encoding is longer than a number of groups when the bytes do not fit into as
many groups. -/
theorem lt_encodedLength_iff (groups count : Nat) :
    groups * 4 < encodedLength count ↔ groups * 3 < count := by
  rw [encodedLength]
  omega

theorem encodedLength_monotone : Monotone encodedLength := by
  intro fewer more hle
  have hgroups : (fewer + 2) / 3 ≤ (more + 2) / 3 :=
    Nat.div_le_div_right (Nat.add_le_add_right hle 2)
  exact Nat.mul_le_mul_right 4 hgroups

/-- A machine word can hold the length for a byte string in memory, which takes up
less than half of the addresses. -/
theorem encodedLength_lt_size (hcount : count < USize.size / 2) :
    encodedLength count < USize.size := by
  have hlength : encodedLength count ≤ (count + 2) * 4 / 3 := by
    rw [encodedLength]
    omega
  rcases USize.size_eq with hsize | hsize <;> omega

end Base64

namespace Mockup

/-! ## Sizes -/

theorem measuredLength_eq_min (count : Nat) :
    measuredLength count = min (Base64.encodedLength count) (USize.size - 1) := by
  rw [measuredLength, Base64.encodedLength?]
  split_ifs with hfits
  · rw [Option.getD_some, Nat.min_eq_left (Nat.le_sub_one_of_lt hfits)]
  · have hlong : USize.size - 1 ≤ Base64.encodedLength count := by omega
    rw [Option.getD_none, Nat.min_eq_right hlong]

theorem measuredLength_eq {count : Nat} (hcount : count < USize.size / 2) :
    measuredLength count = Base64.encodedLength count := by
  rw [measuredLength_eq_min]
  exact Nat.min_eq_left (Nat.le_sub_one_of_lt (Base64.encodedLength_lt_size hcount))

/-! ## Profiles -/

namespace Profile

variable {length bound : Nat} {image : List UInt8}

theorem layout_eq_complex_iff :
    (ofEncodedLength length).layout = .complex ↔ complexThreshold < length := by
  rw [ofEncodedLength]
  split_ifs <;> simp [*]

theorem layout_eq_grid_iff :
    (ofEncodedLength length).layout = .grid ↔
      gridThreshold < length ∧ length ≤ complexThreshold := by
  rw [ofEncodedLength]
  split_ifs with hcomplex hgrid
  · simp [hcomplex]
  · simp [hgrid, Nat.le_of_not_lt hcomplex]
  · simp [hgrid]

theorem layout_eq_vertical_iff :
    (ofEncodedLength length).layout = .vertical ↔ length ≤ gridThreshold := by
  have hthresholds : gridThreshold < complexThreshold := by decide
  rw [ofEncodedLength]
  split_ifs with hcomplex hgrid
  · simp [hthresholds.trans hcomplex]
  · simpa using hgrid
  · simpa using hgrid

theorem sections_eq :
    (ofEncodedLength length).sections = if complexThreshold < length then 4 else 3 := by
  rw [ofEncodedLength]
  split_ifs <;> rfl

theorem sections_monotone : Monotone fun length => (ofEncodedLength length).sections := by
  intro shorter longer hle
  change (ofEncodedLength shorter).sections ≤ (ofEncodedLength longer).sections
  rw [sections_eq, sections_eq]
  split_ifs with hshorter hlonger
  · exact le_refl 4
  · exact absurd (hshorter.trans_le hle) hlonger
  · exact Nat.le_succ 3
  · exact le_refl 3

/-- A size may be cut off above the thresholds. -/
theorem ofEncodedLength_min (hbound : complexThreshold < bound) :
    ofEncodedLength (min length bound) = ofEncodedLength length := by
  rcases Nat.le_total length bound with hle | hle
  · rw [Nat.min_eq_left hle]
  · have hlength : complexThreshold < length := hbound.trans_le hle
    rw [Nat.min_eq_right hle, ofEncodedLength, ofEncodedLength, if_pos hbound,
      if_pos hlength]

theorem complexThreshold_lt_size : complexThreshold < USize.size - 1 := by
  rw [complexThreshold]
  rcases USize.size_eq with hsize | hsize <;> omega

/-- The profile of an image is that of the length of its encoding, even if no machine
word can hold the length. -/
theorem ofImage_of_ne_nil (himage : image ≠ []) :
    ofImage image = .ok (ofEncodedLength (Base64.encodedLength image.length)) := by
  have hfull : image.isEmpty = false := List.isEmpty_eq_false_iff.mpr himage
  rw [ofImage, hfull, measuredLength_eq_min, ofEncodedLength_min complexThreshold_lt_size]
  rfl

/-- Nothing but its length is seen of an image. -/
theorem ofImage_eq_of_length_eq {other : List UInt8} (hlength : image.length = other.length) :
    ofImage image = ofImage other := by
  have hempty : image.isEmpty = other.isEmpty := by
    rw [Bool.eq_iff_iff, List.isEmpty_iff_length_eq_zero, List.isEmpty_iff_length_eq_zero,
      hlength]
  rw [ofImage, ofImage, hempty, hlength]

end Profile

/-! ## Thresholds -/

theorem complexThreshold_lt_iff (count : Nat) :
    complexThreshold < Base64.encodedLength count ↔ 75000 < count :=
  Base64.lt_encodedLength_iff 25000 count

theorem gridThreshold_lt_iff (count : Nat) :
    gridThreshold < Base64.encodedLength count ↔ 37500 < count :=
  Base64.lt_encodedLength_iff 12500 count

/-- An image is judged by its standard form: the profile is that of the length of the one
text that spells the image, which is the measured size of every image in memory.  So the
number of its bytes alone decides on the layout, with thresholds of its own, on the number
of sections, which does not decrease, and on all of the analysis. -/
theorem judged_by_standard_form {image : List UInt8} (himage : image ≠ []) :
    ∃ text profile,
      (∀ other, Base64.Spells other image ↔ other = text) ∧
      Profile.ofImage image = .ok profile ∧
      profile = .ofEncodedLength text.length ∧
      (image.length < USize.size / 2 → measuredLength image.length = text.length) ∧
      (profile.layout = .complex ↔ 75000 < image.length) ∧
      (profile.layout = .grid ↔ 37500 < image.length ∧ image.length ≤ 75000) ∧
      (profile.layout = .vertical ↔ image.length ≤ 37500) ∧
      (∀ larger : List UInt8, image.length ≤ larger.length →
        ∃ wider, Profile.ofImage larger = .ok wider ∧ profile.sections ≤ wider.sections) ∧
      ∀ name, (Analysis.ofImage image name).success = true ∧
        ∀ other : List UInt8, image.length = other.length →
          Analysis.ofImage image name = Analysis.ofImage other name := by
  have hlength : (Base64.characters image).length = Base64.encodedLength image.length :=
    (Base64.spells_iff.mpr rfl).length_eq
  have hprofile := Profile.ofImage_of_ne_nil himage
  have hjudged : Profile.ofEncodedLength (Base64.encodedLength image.length) =
      .ofEncodedLength (Base64.characters image).length := by
    rw [hlength]
  have hmeasured : image.length < USize.size / 2 →
      measuredLength image.length = (Base64.characters image).length := by
    intro hmemory
    rw [measuredLength_eq hmemory, hlength]
  refine ⟨Base64.characters image, _, fun _ => Base64.spells_iff, hprofile, hjudged,
    hmeasured, ?_, ?_, ?_, ?_, ?_⟩
  · rw [Profile.layout_eq_complex_iff, complexThreshold_lt_iff]
  · rw [Profile.layout_eq_grid_iff, gridThreshold_lt_iff, ← not_lt,
      complexThreshold_lt_iff, not_lt]
  · rw [Profile.layout_eq_vertical_iff, ← not_lt, gridThreshold_lt_iff, not_lt]
  · intro larger hlarger
    have hpos : 0 < larger.length := (List.length_pos_iff.mpr himage).trans_le hlarger
    exact ⟨_, Profile.ofImage_of_ne_nil (List.length_pos_iff.mp hpos),
      Profile.sections_monotone (Base64.encodedLength_monotone hlarger)⟩
  · intro name
    constructor
    · rw [Analysis.ofImage, hprofile]
    · intro other hother
      rw [Analysis.ofImage, Analysis.ofImage, Profile.ofImage_eq_of_length_eq hother]

/-- A byte more than a grid has makes a page complex. -/
theorem judged_by_standard_form_complex :
    let image : List UInt8 := List.replicate 75001 0
    image ≠ [] ∧ ∃ text profile, Base64.Spells text image ∧ text.length = 100004 ∧
      Profile.ofImage image = .ok profile ∧ profile = .ofEncodedLength text.length ∧
      profile.layout = .complex := by
  intro image
  have hlength : image.length = 75001 := List.length_replicate
  have himage : image ≠ [] := List.ne_nil_of_length_eq_add_one hlength
  obtain ⟨text, profile, hspells, hprofile, hjudged, -, hcomplex, -⟩ :=
    judged_by_standard_form himage
  have htext : Base64.Spells text image := (hspells text).mpr rfl
  have hform : text.length = 100004 := by
    rw [htext.length_eq, hlength, Base64.encodedLength]
  exact ⟨himage, text, profile, htext, hform, hprofile, hjudged,
    hcomplex.mpr (by rw [hlength]; decide)⟩

end Mockup

end Wireform
