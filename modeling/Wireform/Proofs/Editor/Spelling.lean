import Mathlib
import Wireform.Editor
import Wireform.Proofs.Json.Slots

/-!
# Spellings of an export

The five kinds of objects in an export, with all names of their members and with the
values of those that may be left out.  Whatever order, names and white space an export
is written with, it means the same, and an export that gives a member twice, be it by
two names, is refused.  Coordinates mean what their numerals stand for as long as the
digits make up a number of the format; other numerals may be read one unit off.
-/

namespace Wireform

open Json

/-- Generation settings.  All of them may be left out. -/
def Settings.format : Format Settings :=
  .record
    (.cons (.withDefault ["componentName"] .string "") <|
     .cons (.withDefault ["useTypeScript"] .boolean true) <|
     .cons (.withDefault ["useHooks"] .boolean true) <|
     .cons (.withDefault ["mode"] (.choice [("flat", .flat), ("connected", .connected)])
      .flat) .nil)
    fun (componentName, typeScript, hooks, mode, _) =>
      { componentName, typeScript, hooks, mode }

namespace Editor

/-- Positions, with coordinates by the admitted numerals. -/
def positionFormat (admitted : Numeral → Prop) : Format Position :=
  .record
    (.cons (.required "x" (.number admitted)) <|
     .cons (.required "y" (.number admitted)) .nil)
    fun (x, y, _) => { x, y }

/-- The data of a node, with keys in snake case or in camel case. -/
def NodeData.format : Format NodeData :=
  .record
    (.cons (.optional ["label"] .string) <|
     .cons (.optional ["data_type", "dataType"] .string) <|
     .cons (.optional ["function_name", "functionName"] .string) <|
     .cons (.optional ["description"] .string) <|
     .cons (.optional ["component_name", "componentName"] .string) .nil)
    fun (label, valueType, functionName, description, componentName, _) =>
      { label, valueType, functionName, description, componentName }

/-- Nodes, which may be left without a place and without data. -/
def RawNode.format (admitted : Numeral → Prop) : Format RawNode :=
  .record
    (.cons (.required "id" .string) <|
     .cons (.required "type" .string) <|
     .cons (.optional ["label"] .string) <|
     .cons (.withDefault ["position"] (positionFormat admitted) ⟨.zero, .zero⟩) <|
     .cons (.withDefault ["data"] NodeData.format ⟨none, none, none, none, none⟩) .nil)
    fun (id, typeTag, label, position, data, _) =>
      { id, typeTag, label, position, data }

/-- Edges, with keys in snake case or in camel case. -/
def RawEdge.format : Format RawEdge :=
  .record
    (.cons (.optional ["id"] .string) <|
     .cons (.required "source" .string) <|
     .cons (.required "target" .string) <|
     .cons (.optional ["source_handle", "sourceHandle"] .string) <|
     .cons (.optional ["target_handle", "targetHandle"] .string) .nil)
    fun (id, source, target, sourceHandle, targetHandle, _) =>
      { id, source, target, sourceHandle, targetHandle }

/-- Whole exports. -/
def Document.format (admitted : Numeral → Prop) : Format Document :=
  .record
    (.cons (.withDefault ["nodes"] (.list (RawNode.format admitted)) []) <|
     .cons (.withDefault ["edges", "connections"] (.list RawEdge.format) []) <|
     .cons (.optional ["settings"] Settings.format) .nil)
    fun (nodes, edges, settings, _) => { nodes, edges, settings }

end Editor

/-! ## The decoders obey the formats -/

theorem Settings.obeys : Settings.decoder.Obeys 1 Settings.format :=
  .record
    (.cons rfl rfl .string <| .cons rfl rfl .boolean <| .cons rfl rfl .boolean <|
      .cons rfl rfl .choice .nil) (by decide) _ _

namespace Editor

theorem position_obeys : positionDecoder.Obeys 1 (positionFormat Numeral.IsPlain) :=
  .record (.cons rfl rfl .number <| .cons rfl rfl .number .nil) (by decide) _ _

/-- Strings that may be `null` or absent. -/
theorem optionalString_obeys : Decoder.string.option.Obeys 0 (.option .string) :=
  Decoder.Obeys.string.option .string

theorem NodeData.obeys : NodeData.decoder.Obeys 1 NodeData.format :=
  .record
    (.cons rfl rfl optionalString_obeys <| .cons rfl rfl optionalString_obeys <|
      .cons rfl rfl optionalString_obeys <| .cons rfl rfl optionalString_obeys <|
      .cons rfl rfl optionalString_obeys .nil) (by decide) _ _

theorem RawNode.obeys : RawNode.decoder.Obeys 2 (RawNode.format Numeral.IsPlain) :=
  .record
    (.cons rfl rfl (Decoder.Obeys.string.mono (by decide)) <|
      .cons rfl rfl (Decoder.Obeys.string.mono (by decide)) <|
      .cons rfl rfl (optionalString_obeys.mono (by decide)) <|
      .cons rfl rfl position_obeys <| .cons rfl rfl NodeData.obeys .nil) (by decide) _ _

theorem RawEdge.obeys : RawEdge.decoder.Obeys 1 RawEdge.format :=
  .record
    (.cons rfl rfl optionalString_obeys <| .cons rfl rfl .string <|
      .cons rfl rfl .string <| .cons rfl rfl optionalString_obeys <|
      .cons rfl rfl optionalString_obeys .nil) (by decide) _ _

theorem Document.obeys : Document.decoder.Obeys 4 (Document.format Numeral.IsPlain) :=
  .record
    (.cons rfl rfl (RawNode.obeys.list (.record _ _)) <|
      .cons rfl rfl ((RawEdge.obeys.list (.record _ _)).mono (by decide)) <|
      .cons rfl rfl ((Settings.obeys.option (.record _ _)).mono (by decide)) .nil)
    (by decide) _ _

/-- Every spelling of an export with plain numerals is read as the export.  The members of
each object may come in any order, under any of their names, and among others with simple
values, and what has its default may be left out.  No text is read in which an object gives
a member twice, under one name or under two, whatever the numerals in it. -/
theorem spellings_agree :
    (∀ text document, (Document.format Numeral.IsPlain).Spells text.toList document →
      Document.ofText text = .ok document) ∧
    ∀ text, (Document.format Numeral.IsPlain).GivesTwice text.toList →
      ∃ fault, Document.ofText text = .error (.badJson fault) := by
  refine ⟨fun text document hspells => ?_, fun text htwice => ?_⟩
  · rw [Document.ofText, Document.obeys.decode (by decide) hspells]
    rfl
  · obtain ⟨fault, hfault⟩ := Document.obeys.decode_error (by decide) htwice
    exact ⟨fault, by rw [Document.ofText, hfault]; rfl⟩

/-! ## A shuffled export -/

/-- An edge with an escape and with a key in camel case. -/
def shuffledEdge : List Member :=
  [("target", "\"\\u0062\"".toList), ("sourceHandle", "\"out\"".toList),
   ("source", "\"a\"".toList)]

theorem spells_shuffledEdge : RawEdge.format.Spells (objectText shuffledEdge)
    { source := "a", target := "b", sourceHandle := some "out" } := by
  have hescape : CharTexts (['\\', 'u', '0', '0', '6', '2'] ++ []) ['b'] :=
    .cons (.unit rfl rfl rfl) .nil
  have htarget : Format.string.Spells "\"\\u0062\"".toList "b" :=
    ⟨_, ⟨_, hescape, by decide +kernel⟩, .refl _⟩
  refine ⟨shuffledEdge, (none, some "a", some "b", some (some "out"), none, ()),
    (none, "a", "b", some "out", none, ()), Spaced.objectText (.refl _),
    Slots.allows_of_all (by decide +kernel), ?_, ?_, rfl⟩
  · exact ⟨rfl, ⟨"a", Format.string_literal "a", rfl⟩, ⟨"b", htarget, rfl⟩,
      ⟨some "out", Format.string_literal "out", rfl⟩, rfl, trivial⟩
  · exact ⟨rfl, rfl, rfl, rfl, rfl, trivial⟩

/-- A position with its coordinates in the other order. -/
def shuffledPosition : List Member := [("y", "-2".toList), ("x", "1.5".toList)]

/-- One and a half, with a point. -/
theorem spells_oneAndHalf :
    (Format.number Numeral.IsPlain).Spells "1.5".toList ⟨false, 0x3FF8000000000000⟩ := by
  have hwhole : WholeText ['1'] :=
    .digits ⟨List.cons_ne_nil _ _, by simp [Reader.isDigit]⟩ (by decide)
  have hfraction : FractionText ['.', '5'] ['5'] :=
    .digits ⟨List.cons_ne_nil _ _, by simp [Reader.isDigit]⟩
  have hsignificand : Numeral.significand ⟨false, ['1'], ['5'], 0⟩ = 15 := rfl
  have hdenotes : Numeral.Denotes ⟨false, ['1'], ['5'], 0⟩ ⟨false, 0x3FF8000000000000⟩ := by
    refine ⟨rfl, rfl, ?_⟩
    rw [hsignificand]
    norm_num [Binary64.value, Numeral.exponent]
  exact ⟨_, _, .of_lt (by decide +kernel) (by decide), hdenotes,
    ⟨_, _, hwhole, hfraction, .none, by decide +kernel⟩, .refl _⟩

/-- Minus two, without a point. -/
theorem spells_minusTwo :
    (Format.number Numeral.IsPlain).Spells "-2".toList ⟨true, 0x4000000000000000⟩ := by
  have hwhole : WholeText ['2'] :=
    .digits ⟨List.cons_ne_nil _ _, by simp [Reader.isDigit]⟩ (by decide)
  have hsignificand : Numeral.significand ⟨true, ['2'], [], 0⟩ = 2 := rfl
  have hdenotes : Numeral.Denotes ⟨true, ['2'], [], 0⟩ ⟨true, 0x4000000000000000⟩ := by
    refine ⟨rfl, rfl, ?_⟩
    rw [hsignificand]
    norm_num [Binary64.value, Numeral.exponent]
  exact ⟨_, _, .of_lt (by decide +kernel) (by decide), hdenotes,
    ⟨_, _, hwhole, .none, .none, by decide +kernel⟩, .refl _⟩

theorem spells_shuffledPosition : (positionFormat Numeral.IsPlain).Spells
    (objectText shuffledPosition)
    ⟨⟨false, 0x3FF8000000000000⟩, ⟨true, 0x4000000000000000⟩⟩ := by
  exact ⟨shuffledPosition, (some _, some _, ()), (_, _, ()), Spaced.objectText (.refl _),
    Slots.allows_of_all (by decide +kernel),
    ⟨⟨_, spells_oneAndHalf, rfl⟩, ⟨_, spells_minusTwo, rfl⟩, trivial⟩,
    ⟨rfl, rfl, trivial⟩, rfl⟩

/-- A node without data. -/
def shuffledNode : List Member :=
  [("type", "\"input\"".toList), ("position", objectText shuffledPosition),
   ("id", "\"a\"".toList), ("label", "null".toList)]

theorem spells_shuffledNode : (RawNode.format Numeral.IsPlain).Spells
    (objectText shuffledNode)
    { id := "a", typeTag := "input",
      position := ⟨⟨false, 0x3FF8000000000000⟩, ⟨true, 0x4000000000000000⟩⟩ } := by
  have hlabel : (Format.option Format.string).Spells "null".toList none := Spaced.refl _
  exact ⟨shuffledNode, (some "a", some "input", some none, some _, none, ()),
    ("a", "input", none, _, {}, ()), Spaced.objectText (.refl _),
    Slots.allows_of_all (by decide +kernel),
    ⟨⟨"a", Format.string_literal "a", rfl⟩, ⟨"input", Format.string_literal "input", rfl⟩,
      ⟨none, hlabel, rfl⟩, ⟨_, spells_shuffledPosition, rfl⟩, rfl, trivial⟩,
    ⟨rfl, rfl, rfl, rfl, rfl, trivial⟩, rfl⟩

/-- An export with the other name of the edges, without settings, and with a number
that nobody asks for and that is out of range. -/
def shuffledMembers : List Member :=
  [("connections", '[' :: objectText shuffledEdge ++ [']']), ("version", "1e999".toList),
   ("nodes", '[' :: objectText shuffledNode ++ [']'])]

/-- The export with white space around it. -/
def shuffledSource : String :=
  String.ofList (' ' :: objectText shuffledMembers ++ ['\n'])

/-- The document that it spells. -/
def shuffledDocument : Document where
  nodes :=
    [{ id := "a", typeTag := "input",
       position := ⟨⟨false, 0x3FF8000000000000⟩, ⟨true, 0x4000000000000000⟩⟩ }]
  edges := [{ source := "a", target := "b", sourceHandle := some "out" }]

theorem allows_shuffledMembers {αs : List Type} (slots : Slots αs)
    (hnames : slots.names = ["nodes", "edges", "connections", "settings"]) :
    slots.Allows shuffledMembers := by
  have hwhole : WholeText ['1'] :=
    .digits ⟨List.cons_ne_nil _ _, by simp [Reader.isDigit]⟩ (by decide)
  have hexponent : ExponentText ('e' :: ([] ++ ['9', '9', '9'])) _ :=
    .digits rfl .none ⟨List.cons_ne_nil _ _, by simp [Reader.isDigit]⟩
  have hnumeral : NumeralText "1e999".toList ⟨false, ['1'], [], _⟩ :=
    ⟨_, _, hwhole, .none, hexponent, by decide +kernel⟩
  have hnumber := ScalarText.numeral hnumeral
  intro member hmember hnot
  rw [hnames] at hnot
  rw [shuffledMembers, List.mem_cons, List.mem_cons, List.mem_singleton] at hmember
  rcases hmember with rfl | rfl | rfl
  · exact absurd (by decide) hnot
  · exact ⟨_, hnumber, .refl _⟩
  · exact absurd (by decide) hnot

theorem spells_shuffledSource : (Document.format Numeral.IsPlain).Spells
    shuffledSource.toList shuffledDocument := by
  have htext : Spaced (objectText shuffledMembers) shuffledSource.toList :=
    ⟨[' '], ['\n'], rfl, rfl, String.toList_ofList⟩
  have hedges : (Format.list RawEdge.format).Spells
      ('[' :: objectText shuffledEdge ++ [']']) shuffledDocument.edges :=
    ⟨[_], ⟨[], rfl, by rw [commas, commas, List.append_nil]; exact .refl _⟩,
      .cons spells_shuffledEdge .nil⟩
  have hnodes : (Format.list (RawNode.format Numeral.IsPlain)).Spells
      ('[' :: objectText shuffledNode ++ [']']) shuffledDocument.nodes :=
    ⟨[_], ⟨[], rfl, by rw [commas, commas, List.append_nil]; exact .refl _⟩,
      .cons spells_shuffledNode .nil⟩
  exact ⟨shuffledMembers, (some _, some _, none, ()), (_, _, none, ()), htext.objectText,
    allows_shuffledMembers _ rfl, ⟨⟨_, hnodes, rfl⟩, ⟨_, hedges, rfl⟩, rfl, trivial⟩,
    ⟨rfl, rfl, rfl, trivial⟩, rfl⟩

/-- An export that gives its edges under both names. -/
def doubledSource : String := r#"{"edges":[],"connections":[]}"#

theorem givesTwice_doubledSource :
    (Document.format Numeral.IsPlain).GivesTwice doubledSource.toList := by
  have htext : Spaced (objectText [("edges", ['[', ']']), ("connections", ['[', ']'])])
      doubledSource.toList := ⟨[], [], rfl, rfl, by decide +kernel⟩
  have hedges : (Format.list RawEdge.format).Fits ['[', ']'] :=
    ⟨[], ⟨[], rfl, .refl _⟩, nofun⟩
  refine ⟨[("edges", ['[', ']'])], ("connections", _), [], htext.objectText, ?_,
    .inr (.inl ⟨by decide +kernel, .inl (by decide +kernel)⟩)⟩
  intro other hother
  rw [List.mem_singleton.1 hother]
  exact hedges

theorem spellings_agree_shuffled :
    Document.ofText shuffledSource = .ok shuffledDocument ∧
      ∃ fault, Document.ofText doubledSource = .error (.badJson fault) :=
  ⟨spellings_agree.1 _ _ spells_shuffledSource,
    spellings_agree.2 _ givesTwice_doubledSource⟩

/-! ## A numeral with too many digits -/

/-- A coordinate whose seventeen digits make up no number of the format. -/
def preciseNumeral : Numeral :=
  ⟨false, ['4', '9', '7'],
    ['5', '8', '6', '7', '3', '0', '9', '5', '7', '0', '3', '1', '2', '5'], 0⟩

def preciseNode : List Member :=
  [("id", "\"1\"".toList), ("type", "\"input\"".toList),
   ("position", objectText [("x", "497.58673095703125".toList), ("y", "0".toList)])]

def preciseSource : String :=
  r#"{"nodes":[{"id":"1","type":"input","position":{"x":497.58673095703125,"y":0}}]}"#

/-- The document with a given first coordinate. -/
def preciseDocument (x : Binary64) : Document where
  nodes := [{ id := "1", typeTag := "input", position := ⟨x, .zero⟩ }]

theorem denotes_preciseNumeral : preciseNumeral.Denotes ⟨false, 0x407F196340000000⟩ := by
  have hsignificand : preciseNumeral.significand = 49758673095703125 := by decide +kernel
  have hexponent : preciseNumeral.exponent = -14 := by decide +kernel
  refine ⟨rfl, rfl, ?_⟩
  rw [hsignificand, hexponent]
  norm_num [Binary64.value]

theorem spells_preciseNode : (RawNode.format fun _ => True).Spells (objectText preciseNode)
    { id := "1", typeTag := "input",
      position := ⟨⟨false, 0x407F196340000000⟩, .zero⟩ } := by
  have hwhole : WholeText preciseNumeral.whole :=
    .digits ⟨List.cons_ne_nil _ _, by simp [preciseNumeral, Reader.isDigit]⟩ (by decide)
  have hfraction : FractionText ('.' :: preciseNumeral.fraction) preciseNumeral.fraction :=
    .digits ⟨List.cons_ne_nil _ _, by simp [preciseNumeral, Reader.isDigit]⟩
  have hx : (Format.number fun _ => True).Spells "497.58673095703125".toList
      ⟨false, 0x407F196340000000⟩ :=
    ⟨_, _, trivial, denotes_preciseNumeral, ⟨_, _, hwhole, hfraction, .none,
      by decide +kernel⟩, .refl _⟩
  have hsignificand : Numeral.significand ⟨false, ['0'], [], 0⟩ = 0 := rfl
  have hzero : Numeral.Denotes ⟨false, ['0'], [], 0⟩ .zero := by
    refine ⟨rfl, rfl, ?_⟩
    rw [hsignificand, Nat.cast_zero, zero_mul]
    exact Binary64.value_zero
  have hy : (Format.number fun _ => True).Spells "0".toList .zero :=
    ⟨_, _, trivial, hzero, ⟨_, _, .zero, .none, .none, by decide +kernel⟩, .refl _⟩
  have hposition : (positionFormat fun _ => True).Spells
      (objectText [("x", "497.58673095703125".toList), ("y", "0".toList)])
      ⟨⟨false, 0x407F196340000000⟩, .zero⟩ :=
    ⟨_, (some _, some _, ()), (_, _, ()), Spaced.objectText (.refl _),
      Slots.allows_of_all (by decide +kernel), ⟨⟨_, hx, rfl⟩, ⟨_, hy, rfl⟩, trivial⟩,
      ⟨rfl, rfl, trivial⟩, rfl⟩
  exact ⟨preciseNode, (some "1", some "input", none, some _, none, ()),
    ("1", "input", none, _, {}, ()), Spaced.objectText (.refl _),
    Slots.allows_of_all (by decide +kernel),
    ⟨⟨"1", Format.string_literal "1", rfl⟩, ⟨"input", Format.string_literal "input", rfl⟩,
      rfl, ⟨_, hposition, rfl⟩, rfl, trivial⟩,
    ⟨rfl, rfl, rfl, rfl, rfl, trivial⟩, rfl⟩

/-- Not every spelling of an export is read as the export.  The digits of this coordinate
are rounded before they are scaled, and the result is off by one unit in the last place. -/
theorem precise_coordinate_misread :
    (Document.format fun _ => True).Spells preciseSource.toList
        (preciseDocument ⟨false, 0x407F196340000000⟩) ∧
      Document.ofText preciseSource =
        .ok (preciseDocument ⟨false, 0x407F196340000001⟩) ∧
      preciseDocument ⟨false, 0x407F196340000001⟩ ≠
        preciseDocument ⟨false, 0x407F196340000000⟩ := by
  refine ⟨?_, by decide +kernel, by decide +kernel⟩
  have htext : Spaced (objectText [("nodes", '[' :: objectText preciseNode ++ [']'])])
      preciseSource.toList := ⟨[], [], rfl, rfl, by decide +kernel⟩
  have hnodes : (Format.list (RawNode.format fun _ => True)).Spells
      ('[' :: objectText preciseNode ++ [']'])
      (preciseDocument ⟨false, 0x407F196340000000⟩).nodes :=
    ⟨[_], ⟨[], rfl, by rw [commas, commas, List.append_nil]; exact .refl _⟩,
      .cons spells_preciseNode .nil⟩
  exact ⟨_, (some _, none, none, ()), (_, _, none, ()), htext.objectText,
    Slots.allows_of_all (by decide +kernel), ⟨⟨_, hnodes, rfl⟩, rfl, rfl, trivial⟩,
    ⟨rfl, rfl, rfl, trivial⟩, rfl⟩

end Editor

end Wireform
