import Mathlib
import Wireform.Proofs.Generator.Closure
import Wireform.Proofs.Generator.Escaping

/-!
# Setters

The setter of a state variable is named after it, with the first character in upper
case.  Nothing else of the name changes, so two variables share their setter exactly
when their names differ in the case of their first character only.  Upper case may
expand a character, and it may take several characters to one.  Neither happens to a
character that is the lower case of its own upper case.
-/

namespace Wireform

namespace Unicode

/-- Whether a character is the lower case of its upper case. -/
def IsLowered (c : Char) : Prop :=
  ∃ upper, upperChar c = [upper] ∧ lowerChar upper = [c]

instance (c : Char) : Decidable (IsLowered c) :=
  decidable_of_iff ((upperChar c).map lowerChar = [[c]]) List.map_eq_singleton_iff

/-- Among characters that are the lower case of their upper case no two share their
upper case, and none has a longer one. -/
theorem IsLowered.eq_of_upperChar_eq_append {c d : Char} {expansion : List Char}
    (hc : IsLowered c) (hd : IsLowered d)
    (hupper : upperChar d = upperChar c ++ expansion) : c = d ∧ expansion = [] := by
  obtain ⟨upper, hupperc, hlowerc⟩ := hc
  obtain ⟨upper', hupperd, hlowerd⟩ := hd
  rw [hupperc, hupperd, List.singleton_append, List.cons.injEq] at hupper
  obtain ⟨rfl, hnone⟩ := hupper
  rw [hlowerc, List.singleton_inj] at hlowerd
  exact ⟨hlowerd, hnone.symm⟩

/-- A character that neither a run nor an expansion covers is its own image. -/
theorem mapCase_eq_self {runs : List CaseRun} {expansions : List (Nat × List Nat)}
    {c : Char} (hruns : ∀ run ∈ runs, c.toNat < run.first ∨ run.last < c.toNat)
    (hexpansions : ∀ expansion ∈ expansions, expansion.1 ≠ c.toNat) :
    mapCase runs expansions c = [c] := by
  have hrun : runs.findSome? (·.apply c.toNat) = none := by
    rw [List.findSome?_eq_none_iff]
    intro run hrun
    rcases hruns run hrun with hbelow | habove
    · simp [CaseRun.apply, Nat.not_le.2 hbelow]
    · simp [CaseRun.apply, Nat.not_le.2 habove]
  have hexpansion : expansions.lookup c.toNat = none := by
    rw [List.lookup_eq_none_iff]
    intro expansion hmem
    simpa using (hexpansions expansion hmem).symm
  rw [mapCase, hrun, hexpansion]

/-- A mapping that covers one range of the first block leaves the rest of the block
alone. -/
theorem mapCase_of_ascii {runs : List CaseRun} {expansions : List (Nat × List Nat)}
    {first last : Nat}
    (hruns : ∀ run ∈ runs, run.first = first ∧ run.last = last ∨ 128 ≤ run.first)
    (hexpansions : ∀ expansion ∈ expansions, 128 ≤ expansion.1) {c : Char}
    (hascii : c.toNat < 128) (hother : c.toNat < first ∨ last < c.toNat) :
    mapCase runs expansions c = [c] := by
  apply mapCase_eq_self
  · intro run hrun
    have hrange := hruns run hrun
    omega
  · intro expansion hmem
    have hlarge := hexpansions expansion hmem
    omega

theorem upperChar_of_ascii {c : Char} (hascii : c.toNat < 128)
    (hother : c.toNat < 'a'.toNat ∨ 'z'.toNat < c.toNat) : upperChar c = [c] :=
  mapCase_of_ascii (by decide +kernel) (by decide +kernel) hascii hother

theorem lowerChar_of_ascii {c : Char} (hascii : c.toNat < 128)
    (hother : c.toNat < 'A'.toNat ∨ 'Z'.toNat < c.toNat) : lowerChar c = [c] :=
  mapCase_of_ascii (by decide +kernel) (by decide +kernel) hascii hother

/-- The characters of the first block other than capital letters. -/
theorem isLowered_of_ascii {c : Char} (hascii : c.toNat < 128)
    (hsmall : c.toNat < 'A'.toNat ∨ 'Z'.toNat < c.toNat) : IsLowered c := by
  by_cases hletter : 'a'.toNat ≤ c.toNat ∧ c.toNat ≤ 'z'.toNat
  · have hletters : ∀ code, code ≤ 'z'.toNat → 'a'.toNat ≤ code →
        IsLowered (Char.ofNat code) := by
      decide +kernel
    rw [← Char.ofNat_toNat c]
    exact hletters c.toNat hletter.2 hletter.1
  · have hother : c.toNat < 'a'.toNat ∨ 'z'.toNat < c.toNat := by omega
    exact ⟨c, upperChar_of_ascii hascii hother, lowerChar_of_ascii hascii hsmall⟩

end Unicode

namespace Naming

open Unicode

/-- Names that agree behind their beginnings, where one begins with a character whose
upper case is what the beginning of the other becomes when its first character is put
into upper case. -/
inductive CaseVariants : List Char → List Char → Prop
  | left {c d : Char} {expansion : List Char} (rest : List Char)
      (hupper : upperChar d = upperChar c ++ expansion) :
      CaseVariants (c :: (expansion ++ rest)) (d :: rest)
  | right {c d : Char} {expansion : List Char} (rest : List Char)
      (hupper : upperChar d = upperChar c ++ expansion) :
      CaseVariants (d :: rest) (c :: (expansion ++ rest))

theorem symbol_ne_empty (node : Node) : symbol node ≠ "" := by
  have hnonEmpty {value : Option String} {text : String}
      (htext : Text.nonEmpty value = some text) : text ≠ "" := by
    have hkept := (Option.filter_eq_some_iff.1 htext).2
    exact of_decide_eq_true hkept
  unfold symbol
  split
  next name _ hname => exact hnonEmpty hname
  · decide
  · cases hlabel : labelName node.attributes with
    | some name => exact hnonEmpty hlabel
    | none => cases node.kind <;> decide

theorem caseVariants_iff {c d : Char} {cs ds : List Char} :
    CaseVariants (c :: cs) (d :: ds) ↔ upperChar c ++ cs = upperChar d ++ ds := by
  rw [List.append_eq_append_iff]
  constructor
  · intro hvariants
    cases hvariants with
    | left rest hupper => exact .inl ⟨_, hupper, rfl⟩
    | right rest hupper => exact .inr ⟨_, hupper, rfl⟩
  · rintro (⟨expansion, hupper, rfl⟩ | ⟨expansion, hupper, rfl⟩)
    · exact .left ds hupper
    · exact .right cs hupper

theorem toList_setter {name : String} {c : Char} {cs : List Char}
    (hname : name.toList = c :: cs) :
    (setter name).toList = "set".toList ++ (upperChar c ++ cs) := by
  rw [setter, String.toList_append, Text.toList_onChars, hname]

theorem setter_eq_iff {left right : String} (hleft : left ≠ "") (hright : right ≠ "") :
    setter left = setter right ↔ CaseVariants left.toList right.toList := by
  have hcons {name : String} (hname : name ≠ "") : ∃ c cs, name.toList = c :: cs := by
    apply List.exists_cons_of_ne_nil
    simpa using hname
  obtain ⟨c, cs, hc⟩ := hcons hleft
  obtain ⟨d, ds, hd⟩ := hcons hright
  rw [hc, hd, caseVariants_iff, ← String.toList_inj, toList_setter hc, toList_setter hd]
  exact List.append_right_inj _

/-- Names that begin with characters in lower case are case variants only if they are
the same. -/
theorem eq_of_caseVariants {left right : List Char}
    (hleft : ∀ c ∈ left.head?, IsLowered c) (hright : ∀ c ∈ right.head?, IsLowered c)
    (hvariants : CaseVariants left right) : left = right := by
  cases hvariants with
  | left rest hupper =>
    obtain ⟨rfl, rfl⟩ := IsLowered.eq_of_upperChar_eq_append (hleft _ rfl)
      (hright _ rfl) hupper
    rfl
  | right rest hupper =>
    obtain ⟨rfl, rfl⟩ := IsLowered.eq_of_upperChar_eq_append (hright _ rfl)
      (hleft _ rfl) hupper
    rfl

end Naming

namespace Component

open MarkedFragment Naming

/-- Setters are pairwise distinct where no two of the names are case variants. -/
theorem nodup_setters_iff {names : List String} (hnames : ∀ name ∈ names, name ≠ "") :
    (names.map fun name => [setter name]).Nodup ↔
      names.Pairwise fun left right => ¬ CaseVariants left.toList right.toList := by
  rw [List.Nodup, List.pairwise_map]
  apply List.Pairwise.iff_of_mem
  intro left right hleft hright
  rw [← setter_eq_iff (hnames left hleft) (hnames right hright)]
  simp

theorem pairwise_not_caseVariants {names : List String}
    (hlowered : ∀ name ∈ names, ∀ c ∈ name.toList.head?, Unicode.IsLowered c)
    (hdistinct : names.Nodup) :
    names.Pairwise fun left right => ¬ CaseVariants left.toList right.toList := by
  apply List.Pairwise.imp_of_mem _ hdistinct
  intro left right hleft hright hne hvariants
  have heq := eq_of_caseVariants (hlowered left hleft) (hlowered right hright) hvariants
  exact hne (String.toList_inj.1 heq)

/-- Two state variables share their setter exactly when their names are case variants
of each other, so the state block declares no setter twice exactly when no two names
are.  Distinct names that begin with characters in lower case, such as the characters
of the first block other than capital letters, have distinct setters. -/
theorem setters_shared_by_case_variants {settings : Settings}
    (hname : Text.isBlank settings.componentName = false)
    (hhooks : settings.hooks = true) (nodes : List Node) (edges : List Edge) :
    let file := marked settings nodes edges
    let names := (NodeGroups.ofNodes nodes).inputs.map symbol
    fragments settings nodes edges = .ok (file.map unmarked) ∧
      declared .stateName .state file = names.map ([·]) ∧
      declared .stateSetter .state file = names.map (fun name => [setter name]) ∧
      (∀ left ∈ names, ∀ right ∈ names,
        setter left = setter right ↔ CaseVariants left.toList right.toList) ∧
      ((declared .stateSetter .state file).Nodup ↔
        names.Pairwise fun left right => ¬ CaseVariants left.toList right.toList) ∧
      ((∀ name ∈ names, ∀ c ∈ name.toList.head?, Unicode.IsLowered c) → names.Nodup →
        (declared .stateSetter .state file).Nodup) ∧
      ∀ c : Char, c.toNat < 128 → c.toNat < 'A'.toNat ∨ 'Z'.toNat < c.toNat →
        Unicode.IsLowered c := by
  intro file names
  obtain ⟨-, hstate, -, -⟩ := ofKind_marked hhooks nodes edges
  have hsetters : declared .stateSetter .state file =
      names.map fun name => [setter name] := by
    rw [declared, hstate, List.map_map, List.map_map]
    rfl
  have hnames : ∀ name ∈ names, name ≠ "" := by
    intro name hmem
    obtain ⟨node, -, rfl⟩ := List.mem_map.1 hmem
    exact symbol_ne_empty node
  refine ⟨fragments_eq_of_named nodes edges hname, ?_, hsetters, ?_, ?_, ?_, ?_⟩
  · rw [declared, hstate, List.map_map, List.map_map]
    rfl
  · intro left hleft right hright
    exact setter_eq_iff (hnames left hleft) (hnames right hright)
  · rw [hsetters]
    exact nodup_setters_iff hnames
  · intro hlowered hdistinct
    rw [hsetters, nodup_setters_iff hnames]
    exact pairwise_not_caseVariants hlowered hdistinct
  · intro c hascii hsmall
    exact Unicode.isLowered_of_ascii hascii hsmall

/-- Two names that begin with small letters and one that begins with a dollar sign. -/
theorem setters_shared_by_case_variants_small :
    let nodes : List Node :=
      [{ id := "1", kind := .input, attributes := { functionName := some "eMail" } },
       { id := "2", kind := .input, attributes := { label := some "E Mail" } },
       { id := "3", kind := .input, attributes := { functionName := some "$age" } }]
    let settings : Settings := { componentName := "Form" }
    let names := (NodeGroups.ofNodes nodes).inputs.map symbol
    Text.isBlank settings.componentName = false ∧ settings.hooks = true ∧
      names = ["eMail", "email", "$age"] ∧
      (∀ name ∈ names, ∀ c ∈ name.toList.head?, Unicode.IsLowered c) ∧ names.Nodup ∧
      (declared .stateSetter .state (marked settings nodes [])).Nodup := by
  intro nodes settings names
  have hname : Text.isBlank settings.componentName = false := by decide
  have hnames : names = ["eMail", "email", "$age"] := by decide +kernel
  have hlowered : ∀ name ∈ names, ∀ c ∈ name.toList.head?, Unicode.IsLowered c := by
    have hfirst : Unicode.IsLowered 'e' ∧ Unicode.IsLowered '$' := by decide +kernel
    simpa [hnames] using hfirst
  have hdistinct : names.Nodup := by
    rw [hnames]
    decide
  obtain ⟨-, -, -, -, -, hsetters, -⟩ :=
    setters_shared_by_case_variants hname rfl nodes []
  exact ⟨hname, rfl, hnames, hlowered, hdistinct, hsetters hlowered hdistinct⟩

/-- Distinct names with one setter: function names that differ in a capital letter, and
labels that begin with the two characters for the letter mu. -/
theorem setters_shared_by_distinct_names :
    let given : List Node :=
      [{ id := "1", kind := .input, attributes := { functionName := some "email" } },
       { id := "2", kind := .input, attributes := { functionName := some "Email" } }]
    let labelled : List Node :=
      [{ id := "1", kind := .input, attributes := { label := some "\u00b5" } },
       { id := "2", kind := .input, attributes := { label := some "\u03bc" } }]
    let settings : Settings := { componentName := "Form" }
    settings.hooks = true ∧
      ((NodeGroups.ofNodes given).inputs.map symbol).Nodup ∧
      declared .stateSetter .state (marked settings given []) =
        [["setEmail"], ["setEmail"]] ∧
      ((NodeGroups.ofNodes labelled).inputs.map symbol).Nodup ∧
      declared .stateSetter .state (marked settings labelled []) =
        [["set\u039c"], ["set\u039c"]] := by
  decide +kernel

end Component

end Wireform
