import Mathlib
import Wireform.Proofs.Generator.Escaping
import Wireform.Proofs.Generator.Layout

/-!
# Character references

An escape writes the characters that a context cannot hold as character
references.  It leaves the ampersand alone, so a text that holds a reference and
the text that holds the character in its place have the same escape.  There is
no other way for two texts to have the same escape: it determines the text up to
the references in it.
-/

namespace Wireform

namespace Markup

/-! ## Tables of references -/

/-- The characters that a context cannot hold, each with its reference. -/
structure ReferenceTable where
  entries : List (Char × List Char)
  /-- A reference begins with an ampersand and holds no other. -/
  begins : ∀ entry ∈ entries, entry.2.head? = some '&' ∧ '&' ∉ entry.2.tail
  /-- A reference can be held by the context. -/
  plain : ∀ entry ∈ entries, ∀ c ∈ entry.2, entries.lookup c = none
  distinct : ∀ entry ∈ entries, entries.lookup entry.1 = some entry.2
  prefixFree : ∀ left ∈ entries, ∀ right ∈ entries, left.2 <+: right.2 → left = right

namespace ReferenceTable

variable (table : ReferenceTable)

/-- A character as the context holds it. -/
def write (c : Char) : List Char :=
  (table.entries.lookup c).getD [c]

/-- The entry whose reference a text begins with. -/
def entryAt (text : List Char) : Option (Char × List Char) :=
  table.entries.find? (·.2.isPrefixOf text)

/-- A text with its references read as characters. -/
def read : List Char → List Char
  | [] => []
  | c :: rest =>
    match table.entryAt (c :: rest) with
    | some entry => entry.1 :: read (rest.drop (entry.2.length - 1))
    | none => c :: read rest
termination_by text => text.length

variable {table}

theorem begins_of_entryAt {text : List Char} {entry : Char × List Char}
    (hentry : table.entryAt text = some entry) :
    entry ∈ table.entries ∧ entry.2 <+: text := by
  constructor
  · exact List.mem_of_find?_eq_some hentry
  · have hstart := List.find?_some hentry
    exact List.isPrefixOf_iff_prefix.1 hstart

/-- A reference is an ampersand and a name without one. -/
theorem exists_name {entry : Char × List Char} (hentry : entry ∈ table.entries) :
    ∃ name, entry.2 = '&' :: name ∧ '&' ∉ name := by
  obtain ⟨hhead, htail⟩ := table.begins entry hentry
  cases hreference : entry.2 with
  | nil => simp [hreference] at hhead
  | cons c name =>
    rw [hreference] at hhead htail
    obtain rfl : c = '&' := by simpa using hhead
    exact ⟨name, rfl, htail⟩

theorem split_of_entryAt {c : Char} {rest : List Char} {entry : Char × List Char}
    (hentry : table.entryAt (c :: rest) = some entry) :
    entry ∈ table.entries ∧ entry.2 ++ rest.drop (entry.2.length - 1) = c :: rest := by
  obtain ⟨hmem, behind, hsplit⟩ := begins_of_entryAt hentry
  obtain ⟨name, hname, -⟩ := exists_name hmem
  rw [hname, List.cons_append, List.cons.injEq] at hsplit
  obtain ⟨rfl, rfl⟩ := hsplit
  refine ⟨hmem, ?_⟩
  simp [hname]

theorem entryAt_append {entry : Char × List Char} (hentry : entry ∈ table.entries)
    (rest : List Char) : table.entryAt (entry.2 ++ rest) = some entry := by
  have hfound : (table.entryAt (entry.2 ++ rest)).isSome := by
    rw [entryAt, List.find?_isSome]
    exact ⟨entry, hentry, List.isPrefixOf_iff_prefix.2 (List.prefix_append ..)⟩
  obtain ⟨found, heq⟩ := Option.isSome_iff_exists.1 hfound
  obtain ⟨hmem, hstart⟩ := begins_of_entryAt heq
  have hsame : found = entry := by
    rcases List.prefix_or_prefix_of_prefix hstart (List.prefix_append entry.2 rest) with
      hshort | hlong
    · exact table.prefixFree found hmem entry hentry hshort
    · exact (table.prefixFree entry hentry found hmem hlong).symm
  rw [heq, hsame]

theorem read_append {entry : Char × List Char} (hentry : entry ∈ table.entries)
    (rest : List Char) : table.read (entry.2 ++ rest) = entry.1 :: table.read rest := by
  have hfound := entryAt_append hentry rest
  obtain ⟨name, hname, -⟩ := exists_name hentry
  rw [hname, List.cons_append] at hfound ⊢
  rw [read, hfound]
  simp [hname]

theorem write_of_mem {entry : Char × List Char} (hentry : entry ∈ table.entries) :
    table.write entry.1 = entry.2 := by
  rw [write, table.distinct entry hentry, Option.getD_some]

/-- A character is written as its reference or as it is. -/
theorem write_cases (c : Char) :
    (∃ entry ∈ table.entries, entry.1 = c ∧ table.write c = entry.2) ∨
      table.write c = [c] := by
  cases hlookup : table.entries.lookup c with
  | none => exact .inr (by rw [write, hlookup, Option.getD_none])
  | some reference =>
    obtain ⟨before, after, hsplit, -⟩ := List.lookup_eq_some_iff.1 hlookup
    have hmem : (c, reference) ∈ table.entries := by simp [hsplit]
    exact .inl ⟨(c, reference), hmem, rfl, write_of_mem hmem⟩

/-- A reference is written as it is. -/
theorem flatMap_write_reference {entry : Char × List Char}
    (hentry : entry ∈ table.entries) : entry.2.flatMap table.write = entry.2 := by
  apply flatMap_eq_self
  intro c hc
  rw [write, table.plain entry hentry c hc, Option.getD_none]

/-! ## Reading and writing -/

/-- Reading the references in a text does not change how it is written. -/
theorem flatMap_write_read (text : List Char) :
    (table.read text).flatMap table.write = text.flatMap table.write := by
  fun_induction read table text with
  | case1 => rfl
  | case2 c rest entry hentry ih =>
    obtain ⟨hmem, hsplit⟩ := split_of_entryAt hentry
    rw [List.flatMap_cons, ih, write_of_mem hmem, ← hsplit, List.flatMap_append,
      flatMap_write_reference hmem]
  | case3 c rest _ ih => rw [List.flatMap_cons, List.flatMap_cons, ih]

/-- A name that a written text begins with was there before: what is written for a
character begins with an ampersand, and a name holds none. -/
theorem prefix_of_prefix_write {name text : List Char} (hname : '&' ∉ name)
    (hstart : name <+: text.flatMap table.write) : name <+: text := by
  induction name generalizing text with
  | nil => exact List.nil_prefix
  | cons d name ih =>
    cases text with
    | nil => simp at hstart
    | cons c rest =>
      rw [List.mem_cons, not_or] at hname
      rw [List.flatMap_cons] at hstart
      rcases table.write_cases c with ⟨entry, hentry, -, hwrite⟩ | hwrite
      · obtain ⟨body, hbody, -⟩ := exists_name hentry
        rw [hwrite, hbody, List.cons_append, List.cons_prefix_cons] at hstart
        exact absurd hstart.1.symm hname.1
      · rw [hwrite, List.singleton_append, List.cons_prefix_cons] at hstart
        rw [List.cons_prefix_cons]
        exact ⟨hstart.1, ih hname.2 hstart.2⟩

/-- A written text reads like the text itself. -/
theorem read_flatMap_write (text : List Char) :
    table.read (text.flatMap table.write) = table.read text := by
  fun_induction read table text with
  | case1 => rw [List.flatMap_nil, read]
  | case2 c rest entry hentry ih =>
    obtain ⟨hmem, hsplit⟩ := split_of_entryAt hentry
    rw [← hsplit, List.flatMap_append, flatMap_write_reference hmem, read_append hmem, ih]
  | case3 c rest hnone ih =>
    rw [List.flatMap_cons]
    rcases table.write_cases c with ⟨entry, hentry, rfl, hwrite⟩ | hwrite
    · rw [hwrite, read_append hentry, ih]
    · rw [hwrite, List.singleton_append]
      have hstill : table.entryAt (c :: rest.flatMap table.write) = none := by
        rw [entryAt, List.find?_eq_none] at hnone ⊢
        intro entry hentry hstart
        apply hnone entry hentry
        rw [List.isPrefixOf_iff_prefix] at hstart ⊢
        obtain ⟨name, hname, hamp⟩ := exists_name hentry
        rw [hname, List.cons_prefix_cons] at hstart ⊢
        exact ⟨hstart.1, prefix_of_prefix_write hamp hstart.2⟩
      rw [read, hstill, ih]

/-- Two texts are written alike exactly when they read alike. -/
theorem flatMap_write_eq_iff {left right : List Char} :
    left.flatMap table.write = right.flatMap table.write ↔
      table.read left = table.read right := by
  constructor
  · intro heq
    rw [← read_flatMap_write left, heq, read_flatMap_write]
  · intro heq
    rw [← flatMap_write_read left, heq, flatMap_write_read]

/-- Whether no reference occurs in a text. -/
def Absent (table : ReferenceTable) (text : List Char) : Prop :=
  ∀ entry ∈ table.entries, ¬ entry.2 <:+: text

instance (table : ReferenceTable) (text : List Char) : Decidable (table.Absent text) :=
  inferInstanceAs (Decidable (∀ entry ∈ table.entries, ¬ entry.2 <:+: text))

/-- A text without references reads as it is. -/
theorem read_eq_self {text : List Char} (hnone : table.Absent text) :
    table.read text = text := by
  fun_induction read table text with
  | case1 => rfl
  | case2 c rest entry hentry ih =>
    obtain ⟨hmem, hstart⟩ := begins_of_entryAt hentry
    exact absurd hstart.isInfix (hnone entry hmem)
  | case3 c rest _ ih =>
    have hrest : table.Absent rest := by
      intro entry hentry hwithin
      exact hnone entry hentry (hwithin.trans (List.suffix_cons c rest).isInfix)
    rw [ih hrest]

end ReferenceTable

/-! ## Labels -/

/-- The references of element text. -/
def textReferences : ReferenceTable where
  entries :=
    [('{', "&#123;".toList), ('}', "&#125;".toList), ('<', "&lt;".toList),
      ('>', "&gt;".toList)]
  begins := by decide
  plain := by simp [List.lookup]
  distinct := by decide
  prefixFree := by decide

/-- The reference of a double-quoted attribute value. -/
def attributeReferences : ReferenceTable where
  entries := [('"', "&quot;".toList)]
  begins := by decide
  plain := by simp [List.lookup]
  distinct := by decide
  prefixFree := by decide

theorem escapeTextChar_eq_write : escapeTextChar = textReferences.write := by
  funext c
  unfold escapeTextChar
  split
  · rfl
  · rfl
  · rfl
  · rfl
  next hopen hclose hless hgreater =>
    simp [ReferenceTable.write, textReferences, List.lookup, beq_eq_false_iff_ne.2 hopen,
      beq_eq_false_iff_ne.2 hclose, beq_eq_false_iff_ne.2 hless,
      beq_eq_false_iff_ne.2 hgreater]

theorem escapeAttributeChar_eq_write :
    escapeAttributeChar = attributeReferences.write := by
  funext c
  unfold escapeAttributeChar
  split
  · rfl
  next hquote =>
    simp [ReferenceTable.write, attributeReferences, List.lookup,
      beq_eq_false_iff_ne.2 hquote]

/-- A label with its references read as characters. -/
def readText (label : String) : String :=
  Text.onChars textReferences.read label

/-- An attribute value with its references read as characters. -/
def readAttribute (value : String) : String :=
  Text.onChars attributeReferences.read value

theorem escapeText_eq_iff {left right : String} :
    escapeText left = escapeText right ↔ readText left = readText right := by
  simp only [escapeText, readText, Text.onChars, String.ofList_inj,
    escapeTextChar_eq_write, ReferenceTable.flatMap_write_eq_iff]

theorem escapeAttribute_eq_iff {left right : String} :
    escapeAttribute left = escapeAttribute right ↔
      readAttribute left = readAttribute right := by
  simp only [escapeAttribute, readAttribute, Text.onChars, String.ofList_inj,
    escapeAttributeChar_eq_write, ReferenceTable.flatMap_write_eq_iff]

end Markup

namespace Component

/-- A node with another label. -/
def relabel (node : Node) (label : String) : Node :=
  { node with attributes := { node.attributes with label := some label } }

/-- The text around a display in the markup. -/
theorem exists_fill_display (frame : MarkupFrame) (fields calls front back : List String) :
    ∃ before after : String, ∀ display,
      frame.fill ⟨fields, calls, front ++ display :: back⟩ = before ++ display ++ after := by
  refine ⟨frame.opening ++ String.join fields ++ frame.trigger calls
    ++ frame.displaysOpening ++ String.join front, String.join back ++ frame.closing, ?_⟩
  intro display
  simp [MarkupFrame.fill, MarkupFrame.displaySection, String.append_assoc]

/-- The text around the heading of a display. -/
theorem exists_displayText_relabel (node : Node) :
    ∃ before after : String, ∀ label ≠ "",
      Markup.displayText (relabel node label) =
        before ++ Markup.escapeText label ++ after := by
  refine ⟨Text.unlines ((Markup.displayLines node).take 2)
      ++ "        <h3 className=\"text-sm font-medium text-gray-800\">",
    ":</h3>\n" ++ Text.unlines ((Markup.displayLines node).drop 3), ?_⟩
  intro label hlabel
  have hshown : Markup.label (relabel node label) = some label := by
    simp [Markup.label, relabel, Text.nonEmpty, Option.filter, hlabel]
  have hcaption : Naming.display (relabel node label) = Naming.display node := rfl
  have hclosing : ":</h3>\n" = ":</h3>" ++ "\n" := by simp
  simp only [Markup.displayText, Markup.displayLines, hshown, hcaption, hclosing,
    Option.getD_some, List.take_succ_cons, List.take_zero, List.drop_succ_cons,
    List.drop_zero, unlines_cons, unlines_nil, String.append_assoc,
    String.append_empty, -String.reduceAppend]

section

variable {settings : Settings} {node : Node} (houtput : node.kind = .output)
  (before after : List Node) (edges : List Edge)

include houtput

theorem ofNodes_relabel (label : String) :
    NodeGroups.ofNodes (before ++ relabel node label :: after) =
      { NodeGroups.ofNodes (before ++ after) with
        outputs := (NodeGroups.ofNodes before).outputs
          ++ relabel node label :: (NodeGroups.ofNodes after).outputs } := by
  have hkind : (relabel node label).kind = .output := houtput
  simp [NodeGroups.ofNodes, List.filter_append, hkind]

/-- The label of an output node is shown in one place of the code, and the code
around that place does not depend on it. -/
theorem exists_code_around_label (hname : Text.isBlank settings.componentName = false) :
    ∃ front back : String, ∀ label ≠ "",
      generate settings (before ++ relabel node label :: after) edges =
        .ok (front ++ Markup.escapeText label ++ back) := by
  let groups := NodeGroups.ofNodes (before ++ after)
  let wiring := Wiring.ofMode settings.mode groups edges
  let blocks := Markup.blocks settings wiring groups
  let displays (nodes : List Node) :=
    (NodeGroups.ofNodes nodes).outputs.map Markup.displayText
  obtain ⟨shownBefore, shownAfter, hdisplay⟩ := exists_displayText_relabel node
  have hfront (label : String) :
      beforeMarkup settings (before ++ relabel node label :: after) =
        beforeMarkup settings (before ++ after) := by
    rw [beforeMarkup, ofNodes_relabel houtput]
    rfl
  have hwiring (outputs : List Node) :
      Wiring.ofMode settings.mode { groups with outputs := outputs } edges = wiring := by
    cases hmode : settings.mode <;> simp only [wiring, hmode] <;> rfl
  have hblocks (label : String) (hlabel : label ≠ "") :
      Markup.blocks settings
        (Wiring.ofMode settings.mode
          (NodeGroups.ofNodes (before ++ relabel node label :: after)) edges)
        (NodeGroups.ofNodes (before ++ relabel node label :: after)) =
      ⟨blocks.fields, blocks.calls, displays before
        ++ (shownBefore ++ Markup.escapeText label ++ shownAfter)
          :: displays after⟩ := by
    rw [ofNodes_relabel houtput, hwiring, ← hdisplay label hlabel]
    simp [Markup.blocks, blocks, groups, displays]
  obtain ⟨markupBefore, markupAfter, hfill⟩ := exists_fill_display
    (Markup.frame settings) blocks.fields blocks.calls (displays before) (displays after)
  refine ⟨Fragment.render (beforeMarkup settings (before ++ after)) ++ markupBefore
      ++ shownBefore,
    shownAfter ++ markupAfter ++ Fragment.render (afterMarkup settings), ?_⟩
  intro label hlabel
  rw [generate_eq_fill _ _ _ hname, hfront, hblocks label hlabel, hfill]
  simp only [String.append_assoc]

end

/-- Labels are told apart up to the references in them.  Two labels, or two attribute
values, are escaped alike exactly when they read alike, and the codes of two diagrams
that differ in the label of one output node are the same exactly when these labels
read alike.  A label in which no reference occurs reads as it is. -/
theorem labels_told_apart_up_to_references {settings : Settings}
    (hname : Text.isBlank settings.componentName = false) {node : Node}
    (houtput : node.kind = .output) (before after : List Node) (edges : List Edge) :
    (∀ left right, Markup.escapeText left = Markup.escapeText right ↔
      Markup.readText left = Markup.readText right) ∧
    (∀ left right, Markup.escapeAttribute left = Markup.escapeAttribute right ↔
      Markup.readAttribute left = Markup.readAttribute right) ∧
    (∀ left ≠ "", ∀ right ≠ "",
      generate settings (before ++ relabel node left :: after) edges =
          generate settings (before ++ relabel node right :: after) edges ↔
        Markup.readText left = Markup.readText right) ∧
    (∀ label : String, Markup.textReferences.Absent label.toList →
      Markup.readText label = label) ∧
    ∀ value : String, Markup.attributeReferences.Absent value.toList →
      Markup.readAttribute value = value := by
  refine ⟨fun left right => Markup.escapeText_eq_iff,
    fun left right => Markup.escapeAttribute_eq_iff, ?_, ?_, ?_⟩
  · obtain ⟨front, back, hcode⟩ :=
      exists_code_around_label houtput before after edges hname
    intro left hleft right hright
    rw [hcode left hleft, hcode right hright, ← Markup.escapeText_eq_iff,
      Except.ok.injEq]
    constructor
    · intro heq
      rw [← String.toList_inj]
      simpa using congrArg String.toList heq
    · intro heq
      rw [heq]
  · intro label hnone
    exact Text.onChars_eq_self (Markup.ReferenceTable.read_eq_self hnone)
  · intro value hnone
    exact Text.onChars_eq_self (Markup.ReferenceTable.read_eq_self hnone)

/-- Labels with an ampersand that begins no reference. -/
theorem labels_told_apart_up_to_references_ampersand :
    let node : Node := { id := "1", kind := .output }
    let settings : Settings := { componentName := "Form" }
    Text.isBlank settings.componentName = false ∧ node.kind = .output ∧
      Markup.textReferences.Absent "R & D".toList ∧
      Markup.textReferences.Absent "R &lt D".toList ∧
      generate settings [relabel node "R & D"] [] ≠
        generate settings [relabel node "R &lt D"] [] := by
  intro node settings
  have hname : Text.isBlank settings.componentName = false := by decide
  have hleft : Markup.textReferences.Absent "R & D".toList := by
    decide +kernel
  have hright : Markup.textReferences.Absent "R &lt D".toList := by
    decide +kernel
  have houtput : node.kind = .output := rfl
  obtain ⟨-, -, hcodes, hreads, -⟩ :=
    labels_told_apart_up_to_references hname houtput [] [] []
  refine ⟨hname, houtput, hleft, hright, ?_⟩
  intro heq
  have hsame := (hcodes "R & D" (by decide) "R &lt D" (by decide)).1 heq
  rw [hreads _ hleft, hreads _ hright] at hsame
  exact absurd hsame (by decide)

/-- A character and its reference are different labels with the same code. -/
theorem reference_hidden_in_code :
    let node : Node := { id := "1", kind := .output }
    let settings : Settings := { componentName := "Form" }
    "<" ≠ "&lt;" ∧
      Markup.escapeText "<" = Markup.escapeText "&lt;" ∧
      Markup.escapeAttribute "\"" = Markup.escapeAttribute "&quot;" ∧
      generate settings [relabel node "<"] [] =
        generate settings [relabel node "&lt;"] [] ∧
      (generate settings [relabel node "<"] []).isOk := by
  decide +kernel

end Component

end Wireform
