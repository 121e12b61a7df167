import Mathlib
import Wireform.Proofs.Json.Records
import Wireform.Session

/-!
# Printed values of the library

Every value that the library exchanges is given back when its printing is
decoded: settings, attributes, edges, artifacts, outcomes, and the messages of a
session around them.
-/

namespace Wireform

open Json Reader

/-! ## The diagram model -/

theorem tagText_ne_null {α : Type} (tag : α → String) (value : α) :
    tagText tag value ≠ .null := nofun

theorem ValueType.decodes (type : ValueType) : Decodes 0 decoder type.toJson type :=
  .choice (by cases type <;> rfl)

theorem WiringMode.decodes (mode : WiringMode) : Decodes 0 decoder mode.toJson mode :=
  .choice (by cases mode <;> rfl)

theorem SourceKind.decodes (kind : SourceKind) : Decodes 0 decoder kind.toJson kind :=
  .choice (by cases kind <;> rfl)

theorem Settings.decodes (settings : Settings) :
    Decodes 1 decoder settings.toJson settings :=
  .record _ rfl <|
    .given (.string _) <| .given (.boolean _) <| .given (.boolean _) <|
    .given (WiringMode.decodes _) .nil

/-- Strings that may be missing. -/
theorem decodes_strings (value : Option String) :
    ∀ present, value = some present → Decodes 0 .string (.string present) present :=
  fun present _ => .string present

theorem Attributes.decodes (attributes : Attributes) :
    Decodes 1 decoder attributes.toJson attributes := by
  rw [toJson, List.append_assoc, List.append_assoc, List.append_assoc,
    ← List.append_nil (memberIfSome "componentName" _ _)]
  exact .record _ rfl <| .ifSome (decodes_strings _) nofun <|
    .ifSome (fun type _ => type.decodes) (tagText_ne_null _) <|
    .ifSome (decodes_strings _) nofun <| .ifSome (decodes_strings _) nofun <|
    .ifSome (decodes_strings _) nofun .nil

theorem Edge.decodes (edge : Edge) : Decodes 1 decoder edge.toJson edge := by
  rw [toJson, List.append_assoc, ← List.append_nil (memberIfSome "targetHandle" _ _)]
  exact .record _ rfl <| .given (.string _) <| .given (.string _) <| .given (.string _) <|
    .ifSome (decodes_strings _) nofun <| .ifSome (decodes_strings _) nofun .nil

/-! ## Outcomes and artifacts -/

theorem Compilation.decodes (result : Compilation) :
    Decodes 2 decoder result.toJson result := by
  rw [toJson, List.append_assoc, List.append_assoc]
  exact .record _ rfl <| .given ((Decodes.boolean _).mono (by decide)) <|
    .ifSome (fun text _ => (Decodes.string text).mono (by decide)) nofun <|
    .ifSome (fun text _ => (Decodes.string text).mono (by decide)) nofun <|
    .given (.list fun text _ => .string text) .nil

theorem Mockup.Analysis.decodes (analysis : Analysis) :
    Decodes 1 decoder analysis.toJson analysis := by
  rw [toJson, ← List.append_nil (memberIfSome "error" _ _)]
  exact .record _ rfl <| .given (.boolean _) <| .given (.string _) <| .given (.string _) <|
    .given (.string _) <| .ifSome (decodes_strings _) nofun .nil

theorem GenerationReply.decodes (reply : GenerationReply) :
    Decodes 1 decoder reply.toJson reply := by
  rw [toJson, List.append_assoc, ← List.append_nil (memberIfSome "error" _ _)]
  exact .objectOnly _ rfl <| .given (.boolean _) <| .ifSome (decodes_strings _) nofun <|
    .ifSome (decodes_strings _) nofun .nil

theorem natural_ne_null (n : Nat) : Json.natural n ≠ .null := nofun

/-- Whether the ids of an artifact are numbers of 64 bits. -/
structure CodeArtifact.HasWordIds (artifact : CodeArtifact) : Prop where
  id : artifact.id ≤ maxUnsigned
  diagramId : ∀ n, artifact.diagramId = some n → n ≤ maxUnsigned

theorem CodeArtifact.decodes {artifact : CodeArtifact} (hwords : artifact.HasWordIds) :
    Decodes 1 decoder artifact.toJson artifact :=
  .record _ rfl <|
    .given (.unsigned hwords.id) <|
    .given (.optional (fun n hn => .unsigned (hwords.diagramId n hn)) natural_ne_null) <|
    .given (.string _) <| .given (.string _) <| .given (.string _) <|
    .given (SourceKind.decodes _) .nil

/-- Whether the diagram of new code has a number of 64 bits. -/
def NewCodeArtifact.HasWordIds (new : NewCodeArtifact) : Prop :=
  ∀ n, new.diagramId = some n → n ≤ maxUnsigned

theorem NewCodeArtifact.decodes {new : NewCodeArtifact} (hwords : new.HasWordIds) :
    Decodes 1 decoder new.toJson new :=
  .record _ rfl <|
    .given (.optional (fun n hn => .unsigned (hwords n hn)) natural_ne_null) <|
    .given (.string _) <| .given (.string _) <|
    .given (.optional (decodes_strings _) nofun) <|
    .given (.optional (fun kind _ => kind.decodes) (tagText_ne_null _)) .nil

/-! ## Editor documents -/

/-- Whether the coordinates of a position are read back. -/
structure Position.ReadsBack (position : Position) : Prop where
  x : position.x.ReadsBack
  y : position.y.ReadsBack

namespace Editor

theorem position_decodes {position : Position} (hposition : position.ReadsBack) :
    Decodes 1 positionDecoder position.toJson position :=
  .record _ rfl <| .given (.binary64 hposition.x) <| .given (.binary64 hposition.y) .nil

theorem NodeData.decodes (data : NodeData) : Decodes 1 decoder data.toJson data :=
  .record _ rfl <|
    .given (.optional (decodes_strings _) nofun) <|
    .given (.optional (decodes_strings _) nofun) <|
    .given (.optional (decodes_strings _) nofun) <|
    .given (.optional (decodes_strings _) nofun) <|
    .given (.optional (decodes_strings _) nofun) .nil

theorem RawNode.decodes {node : RawNode} (hposition : node.position.ReadsBack) :
    Decodes 2 decoder node.toJson node :=
  .record _ rfl <|
    .given ((Decodes.string _).mono (Nat.zero_le 1)) <|
    .given ((Decodes.string _).mono (Nat.zero_le 1)) <|
    .given ((Decodes.optional (decodes_strings _) nofun).mono (Nat.zero_le 1)) <|
    .given (position_decodes hposition) <| .given (NodeData.decodes _) .nil

theorem RawEdge.decodes (edge : RawEdge) : Decodes 1 decoder edge.toJson edge :=
  .record _ rfl <|
    .given (.optional (decodes_strings _) nofun) <|
    .given (.string _) <| .given (.string _) <|
    .given (.optional (decodes_strings _) nofun) <|
    .given (.optional (decodes_strings _) nofun) .nil

end Editor

/-! ## Messages -/

theorem GenerateRequest.decodes {request : GenerateRequest}
    (hpositions : ∀ node ∈ request.nodes, node.position.ReadsBack) :
    Decodes 4 decoder request.toJson request :=
  .record _ rfl <|
    .given (.list fun node hnode => Editor.RawNode.decodes (hpositions node hnode)) <|
    .given ((Decodes.list fun edge _ => edge.decodes).mono (by decide)) <|
    .given ((Settings.decodes _).mono (by decide)) .nil

theorem CompileRequest.decodes (request : CompileRequest) :
    Decodes 1 decoder request.toJson request :=
  .record _ rfl <| .given (.string _) <| .given (.string _) .nil

theorem AnalyzeRequest.decodes (request : AnalyzeRequest) :
    Decodes 1 decoder request.toJson request :=
  .record _ rfl <| .given (.string _) <| .given (.string _) .nil

theorem messageKeys_ne (typeName : String) :
    (messageKeys typeName).tag ≠ (messageKeys typeName).contents := by
  change "event" ≠ "data"
  decide

namespace ServerMessage

/-- Whether the ids in a message are numbers of 64 bits. -/
def HasWordIds (message : ServerMessage) : Prop :=
  ∀ artifact, message = .codeSaved artifact → artifact.HasWordIds

variable {message : ServerMessage} (hwords : message.HasWordIds)

include hwords

/-- The contents of a message are decoded by the decoder of its channel. -/
theorem data_decodes : ∃ contents, cases.lookup message.channel = some contents ∧
    Decodes 2 contents message.data message := by
  cases message with
  | codeGenerated reply => exact ⟨_, rfl, (reply.decodes.map _).mono (by decide)⟩
  | compilationResult result => exact ⟨_, rfl, result.decodes.map _⟩
  | mockupAnalyzed analysis => exact ⟨_, rfl, (analysis.decodes.map _).mono (by decide)⟩
  | codeSaved artifact =>
    exact ⟨_, rfl, ((CodeArtifact.decodes (hwords artifact rfl)).map _).mono (by decide)⟩

theorem decode_toJson : decode message.toJson.print = .ok message := by
  obtain ⟨contents, hcase, hdecodes⟩ := data_decodes hwords
  exact Decoder.decodeTagged_tag_contents (messageKeys_ne _) hcase hdecodes (by decide)

/-- The event that a printed message names is its channel. -/
theorem eventName_toJson : Session.eventName message.toJson.print = some message.channel := by
  obtain ⟨contents, -, hdecodes⟩ := data_decodes hwords
  have hreadable : Readable 3 message.toJson := by
    intro member hmember
    obtain rfl | hmember := List.mem_cons.mp hmember
    · trivial
    · rw [List.mem_singleton.mp hmember]
      exact hdecodes.readable
  rw [Session.eventName, parse_print hreadable (by decide)]
  rfl

end ServerMessage

namespace ClientMessage

/-- Whether the numbers in a message are those that documents can hold: ids of
64 bits, and coordinates that are read back. -/
structure HasReadableNumbers (message : ClientMessage) : Prop where
  ids : ∀ new, message = .saveCode new → new.HasWordIds
  positions : ∀ request, message = .generateCode request →
    ∀ node ∈ request.nodes, node.position.ReadsBack

variable {message : ClientMessage} (hnumbers : message.HasReadableNumbers)

include hnumbers

/-- The contents of a message are decoded by the decoder of its event. -/
theorem data_decodes : ∃ contents, cases.lookup message.event = some contents ∧
    Decodes 4 contents message.data message := by
  cases message with
  | generateCode request =>
    exact ⟨_, rfl, (GenerateRequest.decodes (hnumbers.positions request rfl)).map _⟩
  | compileCode request => exact ⟨_, rfl, (request.decodes.map _).mono (by decide)⟩
  | analyzeMockup request => exact ⟨_, rfl, (request.decodes.map _).mono (by decide)⟩
  | saveCode new =>
    exact ⟨_, rfl, ((NewCodeArtifact.decodes (hnumbers.ids new rfl)).map _).mono (by decide)⟩

theorem decode_toJson : decode message.toJson.print = .ok message := by
  obtain ⟨contents, hcase, hdecodes⟩ := data_decodes hnumbers
  exact Decoder.decodeTagged_tag_contents (messageKeys_ne _) hcase hdecodes (by decide)

/-- A message is decoded with its members in the other order, too. -/
theorem decode_dataFirst :
    decode (print (.object [("data", message.data), ("event", .string message.event)])) =
      .ok message := by
  obtain ⟨contents, hcase, hdecodes⟩ := data_decodes hnumbers
  exact Decoder.decodeTagged_contents_tag (messageKeys_ne "ClientMessage") hcase hdecodes
    (by decide)

end ClientMessage

/-- Decoding inverts printing for every type of the wire, ids being numbers of
64 bits and coordinates being numbers that are read back.  A message to a client
names its channel, and a message from a client may have its two members in either
order. -/
theorem decode_print :
    (∀ message : ServerMessage, message.HasWordIds →
      ServerMessage.decode message.toJson.print = .ok message ∧
        Session.eventName message.toJson.print = some message.channel) ∧
    (∀ result : Compilation, Compilation.decoder.decode result.toJson.print = .ok result) ∧
    (∀ analysis : Mockup.Analysis,
      Mockup.Analysis.decoder.decode analysis.toJson.print = .ok analysis) ∧
    (∀ artifact : CodeArtifact, artifact.HasWordIds →
      CodeArtifact.decoder.decode artifact.toJson.print = .ok artifact) ∧
    (∀ new : NewCodeArtifact, new.HasWordIds →
      NewCodeArtifact.decoder.decode new.toJson.print = .ok new) ∧
    (∀ settings : Settings, Settings.decoder.decode settings.toJson.print = .ok settings) ∧
    (∀ attributes : Attributes,
      Attributes.decoder.decode attributes.toJson.print = .ok attributes) ∧
    (∀ edge : Edge, Edge.decoder.decode edge.toJson.print = .ok edge) ∧
    (∀ message : ClientMessage, message.HasReadableNumbers →
      ClientMessage.decode message.toJson.print = .ok message ∧
        ClientMessage.decode
          (print (.object [("data", message.data), ("event", .string message.event)])) =
            .ok message) := by
  refine ⟨fun message hwords => ?_, fun result => ?_, fun analysis => ?_,
    fun artifact hwords => ?_, fun new hwords => ?_, fun settings => ?_,
    fun attributes => ?_, fun edge => ?_, fun message hnumbers => ?_⟩
  · exact ⟨ServerMessage.decode_toJson hwords, ServerMessage.eventName_toJson hwords⟩
  · exact result.decodes.decode (by decide)
  · exact analysis.decodes.decode (by decide)
  · exact (CodeArtifact.decodes hwords).decode (by decide)
  · exact (NewCodeArtifact.decodes hwords).decode (by decide)
  · exact settings.decodes.decode (by decide)
  · exact attributes.decodes.decode (by decide)
  · exact edge.decodes.decode (by decide)
  · exact ⟨ClientMessage.decode_toJson hnumbers, ClientMessage.decode_dataFirst hnumbers⟩

/-- Code with every kind of escape, under the largest id. -/
def escapedArtifact : CodeArtifact where
  id := 18446744073709551615
  diagramId := some 0
  code := "\"a\\b\"\n\t\x01\x7f é 😀"
  language := ""
  componentName := "Form"
  sourceKind := .mockup

/-- The same code, to be stored. -/
def escapedCode : NewCodeArtifact where
  diagramId := some 18446744073709551615
  code := escapedArtifact.code
  componentName := "Form"

/-- A node at `(-121.2, 1.5)`. -/
def placedRequest : GenerateRequest where
  nodes :=
    [{ id := "1", typeTag := "input",
       position := ⟨⟨true, 0x405E4CCCCCCCCCCD⟩, ⟨false, 0x3FF8000000000000⟩⟩,
       data := { valueType := some "" } }]
  edges := [{ source := "1", target := "1", sourceHandle := some "" }]
  settings := { componentName := "Form", mode := .connected }

theorem placedRequest_hasReadableNumbers :
    (ClientMessage.generateCode placedRequest).HasReadableNumbers where
  ids := nofun
  positions := by
    intro request hrequest node hnode
    cases hrequest
    obtain rfl := List.mem_singleton.mp hnode
    exact ⟨by decide +kernel, by decide +kernel⟩

theorem escapedArtifact_hasWordIds : escapedArtifact.HasWordIds where
  id := by decide
  diagramId n hn := by
    cases hn
    decide

theorem decode_print_escaped :
    ServerMessage.decode (ServerMessage.codeSaved escapedArtifact).toJson.print =
        .ok (.codeSaved escapedArtifact) ∧
      CodeArtifact.decoder.decode escapedArtifact.toJson.print = .ok escapedArtifact ∧
      NewCodeArtifact.decoder.decode escapedCode.toJson.print = .ok escapedCode ∧
      ClientMessage.decode
        (print (.object [("data", placedRequest.toJson),
          ("event", .string "generate-code")])) = .ok (.generateCode placedRequest) := by
  obtain ⟨hserver, -, -, hartifact, hnew, -, -, -, hclient⟩ := decode_print
  refine ⟨(hserver (.codeSaved escapedArtifact) ?_).1,
    hartifact escapedArtifact escapedArtifact_hasWordIds, hnew escapedCode ?_,
    (hclient (.generateCode placedRequest) placedRequest_hasReadableNumbers).2⟩
  · intro artifact hartifact
    cases hartifact
    exact escapedArtifact_hasWordIds
  · intro n hn
    cases hn
    decide

end Wireform
