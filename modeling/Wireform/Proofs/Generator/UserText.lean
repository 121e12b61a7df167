import Mathlib
import Wireform.Proofs.Generator.Escaping
import Wireform.Proofs.Generator.Marking
import Wireform.Proofs.Unicode.Lowercase

/-!
# User text stays in its context

Labels, descriptions and captions are text that the user is free to choose.
In a generated file each of them stands between the template texts of its
slot, and its escape keeps out of it whatever would end the slot early.
-/

namespace Wireform.Component

open MarkedFragment Piece

/-- The characters that would end the context of a slot.  A block comment is
ended by two characters together. -/
def Slot.delimiters : Slot → List Char
  | fieldLabel | heading => ['{', '}', '<', '>']
  | placeholder => ['"']
  | handlerComment => ['\r', '\n', '\u2028', '\u2029']
  | caption => []

/-- Whether a text in a slot cannot end it: it holds no delimiter, and in a
block comment the first end mark is the one of the template. -/
def Slot.Confines (slot : Slot) (text : String) : Prop :=
  match slot with
  | caption => ∀ before after : String,
      " " ++ text ++ " */" = before ++ "*/" ++ after → after = ""
  | _ => ∀ c ∈ text.toList, c ∉ slot.delimiters

/-- Whether a text holds nothing that its slot must escape. -/
def Slot.Plain (slot : Slot) (text : String) : Prop :=
  match slot with
  | caption => ∀ before after : String, text ≠ before ++ "*/" ++ after
  | _ => ∀ c ∈ text.toList, c ∉ slot.delimiters

/-- The slots of a component with the nodes whose text they show, in the order
of the file. -/
def slots (settings : Settings) (nodes : List Node) : List (Slot × Node) :=
  (if settings.hooks then
    (nodes.filter (·.kind = .process)).map (Slot.handlerComment, ·) else [])
  ++ (nodes.filter (·.kind = .input)).flatMap (fun node =>
    [(Slot.fieldLabel, node), (Slot.placeholder, node)])
  ++ (nodes.filter (·.kind = .output)).flatMap (fun node =>
    [(Slot.caption, node), (Slot.heading, node)])

/-- What is shown of a node in a slot: the text of its attributes that belongs
there, escaped. -/
def shown (entry : Slot × Node) : Slot × String :=
  (entry.1, entry.1.escape (entry.1.source entry.2.attributes))

/-! ## Escapes confine -/

theorem not_mem_tagDelimiters {c : Char} (hplain : Markup.isTagMark c = false) :
    c ∉ Slot.fieldLabel.delimiters := by
  simp only [Markup.isTagMark, Bool.or_eq_false_iff, decide_eq_false_iff_not]
    at hplain
  simp [Slot.delimiters, hplain]

theorem isTagMark_eq_false {c : Char} (hmem : c ∉ Slot.fieldLabel.delimiters) :
    Markup.isTagMark c = false := by
  simp only [Slot.delimiters, List.mem_cons, List.not_mem_nil, or_false,
    not_or] at hmem
  simp [Markup.isTagMark, hmem]

theorem isLineEnd_eq_false_iff (c : Char) :
    Fragment.isLineEnd c = false ↔ c ∉ Slot.handlerComment.delimiters := by
  simp [Fragment.isLineEnd, Slot.delimiters, and_assoc]

theorem confines_caption (text : String) :
    Slot.caption.Confines (Markup.escapeComment text) := by
  intro before after heq
  have hplain : ¬ Markup.commentEnd <:+:
      ' ' :: Markup.breakCommentEnds text.toList := by
    rw [Markup.commentEnd_infix_cons]
    rintro (⟨hblank, -⟩ | hlater)
    · cases hblank
    · exact Markup.not_commentEnd_infix_breakCommentEnds _ hlater
  have hchars := congrArg String.toList heq
  have hafter : after.toList = [] := by
    have hends : (' ' :: Markup.breakCommentEnds text.toList) ++
        ' ' :: Markup.commentEnd =
          before.toList ++ Markup.commentEnd ++ after.toList := by
      simpa [Markup.escapeComment, Markup.commentEnd] using hchars
    exact Markup.eq_nil_of_append_commentEnd hplain hends
  simpa using hafter

/-- The escape of a slot confines every text to the slot. -/
theorem confines_escape (slot : Slot) (text : String) :
    slot.Confines (slot.escape text) := by
  cases slot with
  | fieldLabel | heading =>
    intro c hc
    exact not_mem_tagDelimiters (Markup.not_isTagMark_of_mem_escapeText hc)
  | placeholder =>
    intro c hc
    simpa [Slot.delimiters] using Markup.ne_quote_of_mem_escapeAttribute hc
  | handlerComment =>
    intro c hc
    rw [← isLineEnd_eq_false_iff]
    exact Fragment.not_isLineEnd_of_mem_singleLine hc
  | caption => exact confines_caption text

theorem escapeComment_eq_self_of_plain {text : String}
    (hplain : Slot.caption.Plain text) : Markup.escapeComment text = text := by
  refine Markup.escapeComment_eq_self ?_
  rintro ⟨before, after, heq⟩
  refine hplain (String.ofList before) (String.ofList after) ?_
  rw [← String.toList_inj, ← heq]
  simp [Markup.commentEnd]

/-- The escape of a slot leaves a text alone that needs no escape. -/
theorem escape_eq_self {slot : Slot} {text : String}
    (hplain : slot.Plain text) : slot.escape text = text := by
  cases slot with
  | fieldLabel | heading =>
    exact Markup.escapeText_eq_self fun c hc => isTagMark_eq_false (hplain c hc)
  | placeholder =>
    refine Markup.escapeAttribute_eq_self fun c hc => ?_
    simpa [Slot.delimiters] using hplain c hc
  | handlerComment =>
    exact Fragment.singleLine_eq_self fun c hc =>
      (isLineEnd_eq_false_iff c).2 (hplain c hc)
  | caption => exact escapeComment_eq_self_of_plain hplain

/-! ## The user text of a component -/

theorem userTexts_fieldPieces (settings : Settings) (node : Node) :
    userTexts (fieldPieces settings node) =
      [shown (.fieldLabel, node), shown (.placeholder, node)] := by
  cases hhooks : settings.hooks <;>
    simp [fieldPieces, hhooks, slotPiece, shown]

theorem userTexts_displayPieces (node : Node) :
    userTexts (displayPieces node) =
      [shown (.caption, node), shown (.heading, node)] := rfl

theorem userTexts_triggerPieces (settings : Settings) (wiring : Wiring)
    (processes : List Node) :
    userTexts (triggerPieces settings wiring processes) = [] := by
  have hcall (target : String) (process : Node) :
      userTexts (callPieces wiring target process) = [] := rfl
  have hcalls : userTexts (callsPieces wiring processes) = [] := by
    cases processes <;> simp [callsPieces, userTexts_flatMap, hcall]
  cases htyped : settings.typeScript <;>
    simp [triggerPieces, htyped, hcalls]

theorem userTexts_displaysPieces (outputs : List Node) :
    userTexts (displaysPieces outputs) = outputs.flatMap fun node =>
      [shown (.caption, node), shown (.heading, node)] := by
  cases outputs <;>
    simp [displaysPieces, userTexts_flatMap, userTexts_displayPieces]

theorem userTexts_markedMarkup (settings : Settings) (wiring : Wiring)
    (groups : NodeGroups) :
    userTexts (markedMarkup settings wiring groups).pieces =
      (groups.inputs.flatMap fun node =>
        [shown (.fieldLabel, node), shown (.placeholder, node)])
      ++ groups.outputs.flatMap fun node =>
        [shown (.caption, node), shown (.heading, node)] := by
  cases hprocesses : groups.processes.isEmpty <;>
    simp [markedMarkup, hprocesses, userTexts_triggerPieces, userTexts_flatMap,
      userTexts_fieldPieces, userTexts_displaysPieces]

/-- A generated file shows the text of each slot once, in the order of the
nodes. -/
theorem userTexts_marked (settings : Settings) (nodes : List Node)
    (edges : List Edge) :
    userTexts (allPieces (marked settings nodes edges)) =
      (slots settings nodes).map shown := by
  have hheader : userTexts (markedHeader settings.componentName settings).pieces =
      [] := by
    cases htyped : settings.typeScript <;> simp [markedHeader, htyped]
  have hhandler (node : Node) : userTexts (markedHandler settings node).pieces =
      [shown (.handlerComment, node)] := rfl
  have hstate (node : Node) : userTexts (markedState settings node).pieces =
      [] := by
    simp [markedState]
  have hhandlers (nodes : List Node) :
      nodes.flatMap (fun node => [shown (.handlerComment, node)]) =
        nodes.map fun node => shown (.handlerComment, node) :=
    List.map_eq_flatMap.symm
  cases htyped : settings.typeScript <;> cases hhooks : settings.hooks <;>
    simp [marked, allPieces, slots, NodeGroups.ofNodes, unmarkedFragment, htyped,
      hhooks, hheader, hstate, hhandler, hhandlers, userTexts_flatMap, userTexts_markedMarkup,
      List.flatMap_map, List.map_flatMap, Function.comp_def]

/-- The text of a generated file is template text and user text.  Every text
that the user chose, or the default where there is none, is shown once between
the template texts of its slot, escaped; it cannot end its slot; and text without
anything to escape is shown as it is.  Only placeholders are put into lower
case before. -/
theorem userText_confined {settings : Settings} (nodes : List Node)
    (edges : List Edge) (hname : Text.isBlank settings.componentName = false) :
    let pieces := allPieces (marked settings nodes edges)
    generate settings nodes edges = .ok (texts pieces) ∧
      userTexts pieces = (slots settings nodes).map shown ∧
      (∀ slot text, (slot, text) ∈ userTexts pieces → slot.Confines text) ∧
      (∀ slot text, Slot.Plain slot text → slot.escape text = text) ∧
      ∀ label : String, (∀ c ∈ label.toList, c.toNat < 128) →
        Text.lowercase label = String.ofList (label.toList.map Char.toLower) := by
  intro pieces
  have htexts := userTexts_marked settings nodes edges
  refine ⟨generate_eq_texts nodes edges hname, htexts, ?_,
    fun slot text => escape_eq_self, fun label hlabel => ?_⟩
  · intro slot text hmem
    rw [htexts, List.mem_map] at hmem
    obtain ⟨⟨slot', node⟩, -, heq⟩ := hmem
    obtain ⟨rfl, rfl⟩ := Prod.mk.inj heq
    exact confines_escape slot' (slot'.source node.attributes)
  · rw [Text.lowercase, Text.onChars, Unicode.lowercase_eq_map_toLower hlabel]

/-- A label in capitals, a caption of end marks only, and a heading that closes its
tag. -/
theorem userText_confined_hostile :
    let nodes : List Node :=
      [{ id := "1", kind := .input, attributes := { label := some "E-MAIL" } },
       { id := "2", kind := .output,
         attributes :=
           { componentName := some "**//", label := some "</h3>{x}" } }]
    let settings : Settings := { componentName := "Form" }
    Text.isBlank settings.componentName = false ∧
      userTexts (allPieces (marked settings nodes [])) =
        [(.fieldLabel, "E-MAIL"), (.placeholder, "e-mail"),
         (.caption, "** //"), (.heading, "&lt;/h3&gt;&#123;x&#125;")] ∧
      Slot.caption.Confines "** //" := by
  intro nodes settings
  have hname : Text.isBlank settings.componentName = false := by decide
  obtain ⟨-, htexts, hconfined, -⟩ := userText_confined nodes [] hname
  have hshown : (slots settings nodes).map shown =
      [(.fieldLabel, "E-MAIL"), (.placeholder, "e-mail"),
       (.caption, "** //"), (.heading, "&lt;/h3&gt;&#123;x&#125;")] := by
    decide +kernel
  have hpieces := htexts.trans hshown
  refine ⟨hname, hpieces, hconfined .caption "** //" ?_⟩
  rw [hpieces]
  decide

end Wireform.Component
