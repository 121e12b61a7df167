import Mathlib
import Wireform.Proofs.Json.Records
import Wireform.Proofs.Session.Dispatch

/-!
# Generation through the relay

An export with settings can be turned into a component in two ways: by reading
it and converting and generating it, or by sending it to a session as the data of
a message.  The requests of messages are a type of their own, which knows the
edges under the other name and insists on the settings.  Both ways read the same
nodes, edges and settings from every text, and have the same outcome.
-/

namespace Wireform

open Json Reader

namespace Editor

theorem position_steady : Decoder.Steady 1 positionDecoder :=
  Decoder.steady_record _ (.cons Decoder.steady_binary64 (.cons Decoder.steady_binary64 .nil))

theorem NodeData.steady : Decoder.Steady 1 NodeData.decoder :=
  Decoder.steady_record _ <|
    .cons Decoder.steady_string.option <| .cons Decoder.steady_string.option <|
    .cons Decoder.steady_string.option <| .cons Decoder.steady_string.option <|
    .cons Decoder.steady_string.option .nil

theorem RawNode.steady : Decoder.Steady 2 RawNode.decoder :=
  Decoder.steady_record _ <|
    .cons Decoder.steady_string <| .cons Decoder.steady_string <|
    .cons Decoder.steady_string.option <| .cons position_steady <|
    .cons NodeData.steady .nil

theorem RawEdge.steady : Decoder.Steady 1 RawEdge.decoder :=
  Decoder.steady_record _ <|
    .cons Decoder.steady_string.option <| .cons Decoder.steady_string <|
    .cons Decoder.steady_string <| .cons Decoder.steady_string.option <|
    .cons Decoder.steady_string.option .nil

end Editor

theorem Settings.steady : Decoder.Steady 2 Settings.decoder :=
  Decoder.steady_record _ <|
    .cons Decoder.steady_string <| .cons Decoder.steady_boolean <|
    .cons Decoder.steady_boolean <| .cons (Decoder.steady_choice _) .nil

namespace GenerateRequest

/-- The export that has the same nodes, edges and settings as a request. -/
def document (request : GenerateRequest) : Editor.Document where
  nodes := request.nodes
  edges := request.edges
  settings := some request.settings

/-- The two names of the edges are the same two in requests and in exports. -/
theorem edges_follow {level : Nat}
    (hdecoder : (Decoder.list Editor.RawEdge.decoder).Steady level) :
    Field.Follows level id
      (.withDefault "edges" (.list Editor.RawEdge.decoder) [] ["connections"])
      (.withDefault "connections" (.list Editor.RawEdge.decoder) [] ["edges"]) where
  injective := Function.injective_id
  accepts name := by
    have hswap (left right : String) :
        (decide (left = name) || [right].contains name) =
          (decide (right = name) || [left].contains name) := by
      rw [Bool.eq_iff_iff]
      simp only [List.contains_cons, List.contains_nil, Bool.or_false, Bool.or_eq_true,
        decide_eq_true_eq, beq_iff_eq]
      exact ⟨fun heq => heq.symm.imp Eq.symm Eq.symm,
        fun heq => heq.symm.imp Eq.symm Eq.symm⟩
    exact hswap "edges" "connections"
  decoder := hdecoder
  ifMissing _ hvalue := hvalue
  ifShort _ hvalue := hvalue

/-- Settings that are given are the same whether or not they may be missing. -/
theorem settings_follow {level : Nat} (hdecoder : Settings.decoder.Steady level) :
    Field.Follows level some (.optional "settings" Settings.decoder)
      (.required "settings" Settings.decoder) where
  injective := Option.some_injective _
  accepts _ := rfl
  decoder := hdecoder.ofOption fun _ => ⟨_, rfl⟩
  ifMissing _ hvalue := nomatch hvalue
  ifShort _ hvalue := nomatch hvalue

/-- A text that is read as an export with settings is read as the request with
the same nodes, edges and settings. -/
theorem decoder_follows :
    Decoder.Follows 4 document Editor.Document.decoder GenerateRequest.decoder := by
  refine Decoder.follows_record _ _
    (.cons (Field.steady (Editor.RawNode.steady.list.mono (Nat.le_refl 3))) <|
      .cons (edges_follow (Editor.RawEdge.steady.list.mono (by decide))) <|
      .cons (settings_follow (Settings.steady.mono (by decide))) .nil) ?_
  rintro ⟨nodes, edges, settings, _⟩ request hrequest
  cases hrequest
  exact ⟨(request.nodes, request.edges, request.settings, ()), rfl, rfl⟩

end GenerateRequest

/-- The text before the data of a message that asks for a component. -/
def generateStart : String := r#"{"event":"generate-code","data":"#

/-- The message that asks for the component of an export. -/
def generateText (source : String) : String := generateStart ++ source ++ r"}"

theorem toList_generateStart :
    generateStart.toList = '{' :: ((literal "event").toList ++ ':' ::
      ((literal "generate-code").toList ++ ',' :: ((literal "data").toList ++ [':']))) := by
  cbv

theorem toList_generateText (source : String) :
    (generateText source).toList = '{' :: ((literal "event").toList ++ ':' ::
      ((literal "generate-code").toList ++ ',' :: ((literal "data").toList ++ ':' ::
        (source.toList ++ ['}'])))) := by
  rw [generateText, String.toList_append, String.toList_append, toList_generateStart]
  simp only [List.cons_append, List.append_assoc, List.nil_append]
  rfl

namespace Editor.Document

variable {source : String} {document : Document} {settings : Settings}

/-- The data of a message are read like the export that they are. -/
theorem decode_generateText (hsource : ofText source = .ok document)
    (hsettings : document.settings = some settings) :
    ClientMessage.decode (generateText source) =
      .ok (.generateCode ⟨document.nodes, document.edges, settings⟩) := by
  have hdecode : decoder.decode source = .ok document := by
    unfold ofText at hsource
    cases hdecode : decoder.decode source with
    | error fault => rw [hdecode] at hsource; cases hsource
    | ok found => rw [hdecode] at hsource; cases hsource; rfl
  obtain ⟨gap, after, hread, hgap⟩ := readWhole_eq_ok hdecode
  have himage : document =
      GenerateRequest.document ⟨document.nodes, document.edges, settings⟩ := by
    rw [GenerateRequest.document, ← hsettings]
  rw [himage] at hread
  have hfollows : Follows ['}'] GenerateRequest.document (decoder.read maxDepth)
      (GenerateRequest.decoder.read 127) :=
    GenerateRequest.decoder_follows.read rfl (by decide) (by decide)
  have hdata := (hfollows.reads hread).map ClientMessage.generateCode
  have hevent : ClientMessage.cases.lookup "generate-code" =
      some (GenerateRequest.decoder.map .generateCode) := rfl
  exact Decoder.decodeTagged_of_reads (toList_generateText source)
    (Decoder.reads_tag_contents (by decide) hevent (by decide) hgap hdata)

end Editor.Document

namespace Session

variable {source : String} {document : Editor.Document} {settings : Settings}

/-- Generation is the conversion of an export, whose settings do not matter for
it, and then that of its diagram. -/
theorem generate_of_conversion_error {error : Editor.ConversionError}
    (hdiagram : document.toDiagram = .error error) :
    generate ⟨document.nodes, document.edges, settings⟩ = .failed error.message := by
  have htaken : ({ nodes := document.nodes, edges := document.edges } :
      Editor.Document).toDiagram = .error error := hdiagram
  simp only [generate, htaken]

theorem generate_of_generation_error {diagram : Diagram}
    {error : GenerationError}
    (hdiagram : document.toDiagram = .ok diagram)
    (hcomponent : Component.ofDiagram settings diagram = .error error) :
    generate ⟨document.nodes, document.edges, settings⟩ = .failed error.message := by
  have htaken : ({ nodes := document.nodes, edges := document.edges } :
      Editor.Document).toDiagram = .ok diagram := hdiagram
  simp only [generate, htaken, hcomponent]

theorem generate_of_ok {diagram : Diagram} {code : String}
    (hdiagram : document.toDiagram = .ok diagram)
    (hcomponent : Component.ofDiagram settings diagram = .ok code) :
    generate ⟨document.nodes, document.edges, settings⟩ =
      { success := true, code := some code } := by
  have htaken : ({ nodes := document.nodes, edges := document.edges } :
      Editor.Document).toDiagram = .ok diagram := hdiagram
  simp only [generate, htaken, hcomponent]

/-- The reply to an export with settings that can be read is that of the library:
the component that it is converted and generated into, or the first error on the
way. -/
theorem relay_agrees (hsource : Editor.Document.ofText source = .ok document)
    (hsettings : document.settings = some settings) (session : Session) (world : World) :
    ClientMessage.decode (generateText source) =
        .ok (.generateCode ⟨document.nodes, document.edges, settings⟩) ∧
      ∃ reply : GenerationReply,
        session.answer (generateText source) world =
          (.ok (.codeGenerated reply), world) ∧
        (∀ (m : Type → Type) [Monad m]
          (publish : ServerMessage → m (Except SessionError Unit)),
          session.handle publish (generateText source) world =
            do return (← publish (.codeGenerated reply), world)) ∧
        (∀ code, reply = { success := true, code := some code, error := none } ↔
          ∃ diagram, document.toDiagram = .ok diagram ∧
            Component.ofDiagram settings diagram = .ok code) ∧
        (∀ error, document.toDiagram = .error error →
          reply = { success := false, code := none,
                    error := some ("Code generation failed: " ++ error.message) }) ∧
        (∀ diagram error, document.toDiagram = .ok diagram →
          Component.ofDiagram settings diagram = .error error →
          reply = { success := false, code := none,
                    error := some ("Code generation failed: " ++ error.message) }) := by
  have hdecode := Editor.Document.decode_generateText hsource hsettings
  have hanswer : session.answer (generateText source) world =
      (.ok (.codeGenerated (generate ⟨document.nodes, document.edges, settings⟩)), world) :=
    answer_of_decode hdecode
  refine ⟨hdecode, _, hanswer, fun m _ publish => by rw [handle, hanswer], ?_⟩
  cases hdiagram : document.toDiagram with
  | error error =>
    rw [generate_of_conversion_error hdiagram]
    refine ⟨fun code => ⟨?_, ?_⟩, fun other hother => ?_, fun diagram other hother => ?_⟩
    · intro hreply
      cases hreply
    · rintro ⟨diagram, hother, -⟩
      cases hother
    · cases hother
      rfl
    · cases hother
  | ok diagram =>
    cases hcomponent : Component.ofDiagram settings diagram with
    | error error =>
      rw [generate_of_generation_error hdiagram hcomponent]
      refine ⟨fun code => ⟨?_, ?_⟩, fun other hother => ?_,
        fun other found hother hfound => ?_⟩
      · intro hreply
        cases hreply
      · rintro ⟨other, hother, hfound⟩
        cases hother
        cases hcomponent.symm.trans hfound
      · cases hother
      · cases hother
        cases hcomponent.symm.trans hfound
        rfl
    | ok code =>
      rw [generate_of_ok hdiagram hcomponent]
      refine ⟨fun found => ⟨fun hreply => ?_, ?_⟩, fun other hother => ?_,
        fun other found hother hfound => ?_⟩
      · cases hreply
        exact ⟨diagram, rfl, hcomponent⟩
      · rintro ⟨other, hother, hfound⟩
        cases hother
        cases hcomponent.symm.trans hfound
        rfl
      · cases hother
      · cases hother
        cases hcomponent.symm.trans hfound

/-- An export with white space around it, a coordinate, the other name of the edges
and a member that nobody asks for. -/
def relayedSource : String :=
  r#" {"nodes":[{"id":"1","type":"input","position":{"x":1.5,"y":-2},"#
    ++ r#""extra":[{}]}],"connections":[],"settings":{"componentName":"Form"}}"# ++ "\n"

theorem relay_agrees_relayedSource :
    ClientMessage.decode (generateText relayedSource) =
      .ok (.generateCode
        { nodes :=
            [{ id := "1", typeTag := "input",
               position := ⟨⟨false, 0x3FF8000000000000⟩, ⟨true, 0x4000000000000000⟩⟩ }]
          edges := []
          settings := { componentName := "Form" } }) := by
  have hsource : Editor.Document.ofText relayedSource =
      .ok { nodes :=
              [{ id := "1", typeTag := "input",
                 position := ⟨⟨false, 0x3FF8000000000000⟩, ⟨true, 0x4000000000000000⟩⟩ }]
            edges := []
            settings := some { componentName := "Form" } } := by
    decide +kernel
  let world : World := { files := { entry := fun _ => none, current := [] } }
  exact (relay_agrees hsource rfl {} world).1

end Session

end Wireform
