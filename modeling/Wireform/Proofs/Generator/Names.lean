import Mathlib
import Wireform.Proofs.Generator.Setters
import Wireform.Proofs.Unicode.Lowercase

/-!
# Names derived from labels

A name that is derived from a label is in lower case and free of white space, and so is
a name that stands in for one.  Deriving a name from such a name changes nothing, since
lower case is settled: a sigma that ended a word before the white space was dropped
stays a final sigma in the middle of the name.
-/

namespace Wireform

namespace Unicode

/-- The ranges of the white space of script source text, one by one. -/
def scriptSpaceRanges : List (Nat × Nat) :=
  [(0x9, 0xD), (0x20, 0x20), (0xA0, 0xA0), (0x1680, 0x1680), (0x2000, 0x200A),
   (0x2028, 0x2028), (0x2029, 0x2029), (0x202F, 0x202F), (0x205F, 0x205F),
   (0x3000, 0x3000), (0xFEFF, 0xFEFF)]

theorem isScriptSpace_eq (c : Char) : isScriptSpace c = inRanges scriptSpaceRanges c := by
  have hcode (d : Char) : c = d ↔ c.toNat = d.toNat := by
    rw [← Char.toNat_inj]
  rw [Bool.eq_iff_iff, isScriptSpace]
  split
  · rename_i hnext
    subst hnext
    decide
  · rename_i hnext
    split
    · rename_i hmark
      subst hmark
      decide
    · rename_i hmark
      rw [hcode] at hnext hmark
      have hnext : c.toNat ≠ 0x85 := hnext
      have hmark : c.toNat ≠ 0xFEFF := hmark
      simp only [isWhiteSpace, inRanges, whiteSpaceRanges, scriptSpaceRanges, List.any_cons,
        List.any_nil, Bool.or_false, Bool.or_eq_true, Bool.and_eq_true, decide_eq_true_eq]
      omega

end Unicode

namespace Naming

open Unicode

theorem toList_squash (label : String) :
    (squash label).toList =
      (lowercase label.toList).filter (!isScriptSpace ·) := by
  rw [squash, Text.onChars, String.toList_ofList]

/-- A name that no derivation changes. -/
structure IsSquashed (name : String) : Prop where
  settled : ∀ c ∈ name.toList, IsSettled c
  noSpace : ∀ c ∈ name.toList, isScriptSpace c = false

theorem isSquashed_squash (label : String) : IsSquashed (squash label) := by
  constructor
  · intro c hc
    rw [toList_squash] at hc
    exact isSettled_of_mem_lowercase (List.mem_of_mem_filter hc)
  · intro c hc
    rw [toList_squash] at hc
    simpa using (List.mem_filter.1 hc).2

theorem IsSquashed.squash_eq {name : String} (hname : IsSquashed name) :
    squash name = name := by
  have hkept : ∀ c ∈ name.toList, (!isScriptSpace c) = true := fun c hc => by
    rw [hname.noSpace c hc]
    rfl
  rw [← String.toList_inj, toList_squash, lowercase_eq_self hname.settled,
    List.filter_eq_self.2 hkept]

/-- The names that stand in for those of labels are such names too. -/
theorem isSquashed_fallback {kind : NodeKind} (hkind : kind ≠ .process) :
    IsSquashed (fallback kind) := by
  have hfixed : squash (fallback kind) = fallback kind := by
    cases kind with
    | process => exact absurd rfl hkind
    | _ => decide +kernel
  exact hfixed ▸ isSquashed_squash (fallback kind)

theorem symbol_of_kind_ne_process {node : Node} (hkind : node.kind ≠ .process)
    (hfunction : Text.nonEmpty node.attributes.functionName = none) :
    symbol node = (labelName node.attributes).getD (fallback node.kind) := by
  unfold symbol
  rw [hfunction]
  cases hnode : node.kind with
  | process => exact absurd hnode hkind
  | _ => rfl

theorem nonEmpty_some {text : String} (htext : text ≠ "") :
    Text.nonEmpty (some text) = some text := by
  simp [Text.nonEmpty, htext]

theorem isSquashed_symbol {node : Node} (hkind : node.kind ≠ .process)
    (hfunction : Text.nonEmpty node.attributes.functionName = none) :
    IsSquashed (symbol node) := by
  rw [symbol_of_kind_ne_process hkind hfunction]
  cases hname : labelName node.attributes with
  | none => exact isSquashed_fallback hkind
  | some name =>
    have hsquash := (Option.filter_eq_some_iff.1 hname).1
    obtain ⟨label, -, rfl⟩ := Option.map_eq_some_iff.1 hsquash
    exact isSquashed_squash label

/-- A name that no derivation changes is derived from itself. -/
theorem symbol_of_isSquashed {node : Node} {name : String} (hname : IsSquashed name)
    (hne : name ≠ "") (hkind : node.kind ≠ .process)
    (hfunction : Text.nonEmpty node.attributes.functionName = none)
    (hlabel : node.attributes.label = some name) : symbol node = name := by
  rw [symbol_of_kind_ne_process hkind hfunction, labelName, hlabel, nonEmpty_some hne,
    Option.map_some, hname.squash_eq, nonEmpty_some hne, Option.getD_some]

/-- Every node has a name that is not empty.  The name of a node that has no function
name and is no process is free of the white space of script source text, and it is also
the name of every such node of the same kind that is labelled with it.  Squashing a
label once is enough. -/
theorem label_names_stable (node : Node) :
    symbol node ≠ "" ∧
      (node.kind ≠ .process → Text.nonEmpty node.attributes.functionName = none →
        (∀ c ∈ (symbol node).toList, inRanges scriptSpaceRanges c = false) ∧
        ∀ again : Node, again.kind = node.kind →
          Text.nonEmpty again.attributes.functionName = none →
          again.attributes.label = some (symbol node) → symbol again = symbol node) ∧
      ∀ label, squash (squash label) = squash label := by
  refine ⟨symbol_ne_empty node, fun hkind hfunction => ⟨fun c hc => ?_, ?_⟩, fun label => ?_⟩
  · rw [← isScriptSpace_eq]
    exact (isSquashed_symbol hkind hfunction).noSpace c hc
  · intro again hsame hagain hlabel
    exact symbol_of_isSquashed (isSquashed_symbol hkind hfunction) (symbol_ne_empty node)
      (hsame ▸ hkind) hagain hlabel
  · exact (isSquashed_squash label).squash_eq

/-- A sigma that ended a word, and a dotted capital that takes two characters. -/
example : squash "ΟΔΟΣ İΑΣ" = "οδοςi\u0307ας" ∧ squash "οδοςi\u0307ας" = "οδοςi\u0307ας" := by
  decide +kernel

end Naming

end Wireform
