import Wireform.Json.Tagged
import Wireform.Editor
import Wireform.Store
import Wireform.Compilation
import Wireform.Generator.Component
import Wireform.Mockup.Analysis

/-!
# Sessions

The message relay between an editor and the library.  A message is decoded,
run, and answered on the channel of its event; a message that cannot be
decoded is answered with a failure if its event can be told.
-/

namespace Wireform

open Json

/-! ## Messages -/

/-- The request to generate a component from an editor document. -/
structure GenerateRequest where
  nodes : List Editor.RawNode
  edges : List Editor.RawEdge
  settings : Settings
deriving DecidableEq, Repr

/-- The request to compile source text. -/
structure CompileRequest where
  code : String
  componentName : String
deriving DecidableEq, Repr

/-- The request to analyze a mockup image in Base64 form. -/
structure AnalyzeRequest where
  image : String
  componentName : String
deriving DecidableEq, Repr

/-- A message from a client. -/
inductive ClientMessage where
  | generateCode (request : GenerateRequest)
  | compileCode (request : CompileRequest)
  | analyzeMockup (request : AnalyzeRequest)
  | saveCode (new : NewCodeArtifact)
deriving DecidableEq, Repr

/-- The outcome of a generation request. -/
structure GenerationReply where
  success : Bool
  code : Option String := none
  error : Option String := none
deriving DecidableEq, Repr

/-- A message to a client. -/
inductive ServerMessage where
  | codeGenerated (reply : GenerationReply)
  | compilationResult (result : Compilation)
  | mockupAnalyzed (analysis : Mockup.Analysis)
  | codeSaved (artifact : CodeArtifact)
deriving DecidableEq, Repr

/-- The keys of the two members of a message. -/
def messageKeys (typeName : String) : TagKeys where
  tag := "event"
  contents := "data"
  expected := "adjacently tagged enum " ++ typeName

/-- The document of a message. -/
def messageJson (event : String) (data : Json) : Json :=
  .object [("event", .string event), ("data", data)]

namespace GenerateRequest

def toJson (request : GenerateRequest) : Json :=
  .object
    [("nodes", .array (request.nodes.map Editor.RawNode.toJson)),
     ("connections", .array (request.edges.map Editor.RawEdge.toJson)),
     ("settings", request.settings.toJson)]

def decoder : Decoder GenerateRequest :=
  .record "GenerateCodeRequest"
    (.cons (.withDefault "nodes" (.list Editor.RawNode.decoder) []) <|
     .cons (.withDefault "connections" (.list Editor.RawEdge.decoder) [] ["edges"]) <|
     .cons (.required "settings" Settings.decoder) .nil)
    fun (nodes, edges, settings, _) => { nodes, edges, settings }

end GenerateRequest

namespace CompileRequest

def toJson (request : CompileRequest) : Json :=
  .object
    [("code", .string request.code),
     ("componentName", .string request.componentName)]

def decoder : Decoder CompileRequest :=
  .record "CompileCodeRequest"
    (.cons (.required "code" .string) <|
     .cons (.required "componentName" .string) .nil)
    fun (code, componentName, _) => { code, componentName }

end CompileRequest

namespace AnalyzeRequest

def toJson (request : AnalyzeRequest) : Json :=
  .object
    [("image", .string request.image),
     ("componentName", .string request.componentName)]

def decoder : Decoder AnalyzeRequest :=
  .record "AnalyzeMockupRequest"
    (.cons (.required "image" .string) <|
     .cons (.withDefault "componentName" .string "") .nil)
    fun (image, componentName, _) => { image, componentName }

end AnalyzeRequest

namespace ClientMessage

/-- The event of a message. -/
def event : ClientMessage → String
  | generateCode _ => "generate-code"
  | compileCode _ => "compile-code"
  | analyzeMockup _ => "analyze-mockup"
  | saveCode _ => "save-code"

/-- The contents of a message. -/
def data : ClientMessage → Json
  | generateCode request => request.toJson
  | compileCode request => request.toJson
  | analyzeMockup request => request.toJson
  | saveCode new => new.toJson

def toJson (message : ClientMessage) : Json :=
  messageJson message.event message.data

/-- The contents that each event has. -/
def cases : List (String × Decoder ClientMessage) :=
  [("generate-code", GenerateRequest.decoder.map generateCode),
   ("compile-code", CompileRequest.decoder.map compileCode),
   ("analyze-mockup", AnalyzeRequest.decoder.map analyzeMockup),
   ("save-code", NewCodeArtifact.decoder.map saveCode)]

/-- Decode a raw message. -/
def decode (raw : String) : Except Fault ClientMessage :=
  Decoder.decodeTagged (messageKeys "ClientMessage") cases raw

end ClientMessage

namespace GenerationReply

def toJson (reply : GenerationReply) : Json :=
  .object <|
    [("success", .boolean reply.success)]
    ++ memberIfSome "code" Json.string reply.code
    ++ memberIfSome "error" Json.string reply.error

def decoder : Decoder GenerationReply :=
  .objectOnly "struct variant ServerMessage::CodeGenerated"
    (.cons (.required "success" .boolean) <|
     .cons (.optional "code" .string) <|
     .cons (.optional "error" .string) .nil)
    fun (success, code, error, _) => { success, code, error }

/-- The reply for a failed generation. -/
def failed (reason : String) : GenerationReply where
  success := false
  error := some ("Code generation failed: " ++ reason)

end GenerationReply

namespace ServerMessage

/-- The channel that a message is published on. -/
def channel : ServerMessage → String
  | codeGenerated _ => "code-generated"
  | compilationResult _ => "compilation-result"
  | mockupAnalyzed _ => "mockup-analyzed"
  | codeSaved _ => "code-saved"

/-- The contents of a message. -/
def data : ServerMessage → Json
  | codeGenerated reply => reply.toJson
  | compilationResult result => result.toJson
  | mockupAnalyzed analysis => analysis.toJson
  | codeSaved artifact => artifact.toJson

def toJson (message : ServerMessage) : Json :=
  messageJson message.channel message.data

/-- The contents that each event has. -/
def cases : List (String × Decoder ServerMessage) :=
  [("code-generated", GenerationReply.decoder.map codeGenerated),
   ("compilation-result", Compilation.decoder.map compilationResult),
   ("mockup-analyzed", Mockup.Analysis.decoder.map mockupAnalyzed),
   ("code-saved", CodeArtifact.decoder.map codeSaved)]

/-- Decode a published message. -/
def decode (text : String) : Except Fault ServerMessage :=
  Decoder.decodeTagged (messageKeys "ServerMessage") cases text

end ServerMessage

/-! ## Handling -/

/-- The reason why a message is not answered. -/
inductive SessionError where
  | decode (fault : Fault)
  | store (error : StoreError)
deriving DecidableEq, Repr

/-- The text shown for a session error. -/
def SessionError.message : SessionError → String
  | decode fault => "Could not decode session message: " ++ fault.message
  | store error => error.message

/-- The fixed part of a session: where compiled source is written to. -/
structure Session where
  outputDirectory : Option String := none
deriving DecidableEq, Repr

/-- What a session acts on. -/
structure World where
  store : Store := {}
  files : FileTree

namespace Session

/-- Answer a generation request: the document is converted first. -/
def generate (request : GenerateRequest) : GenerationReply :=
  let document : Editor.Document :=
    { nodes := request.nodes, edges := request.edges }
  match document.toDiagram with
  | .error error => .failed error.message
  | .ok diagram =>
    match Component.ofDiagram request.settings diagram with
    | .error error => .failed error.message
    | .ok code => { success := true, code := some code }

/-- Run a decoded message: the reply to it, unless the store fails. -/
def respond (session : Session) (message : ClientMessage) (world : World) :
    Except SessionError ServerMessage × World :=
  match message with
  | .generateCode request => (.ok (.codeGenerated (generate request)), world)
  | .compileCode request =>
    let (result, files) :=
      Compilation.run FileTree.access session.outputDirectory request.code
        request.componentName world.files
    (.ok (.compilationResult result), { world with files })
  | .analyzeMockup request =>
    (.ok (.mockupAnalyzed (.ofBase64 request.image request.componentName)), world)
  | .saveCode new =>
    match world.store.createCode new with
    | (.ok artifact, store) => (.ok (.codeSaved artifact), { world with store })
    | (.error error, store) => (.error (.store error), { world with store })

/-- The event that a raw message names, if it is a document at all. -/
def eventName (raw : String) : Option String :=
  match Json.parse raw with
  | .ok value => (value.lastMember "event").bind Json.text
  | .error _ => none

/-- The reply to a message of a known event that cannot be decoded. -/
def failureReply (event : Option String) (fault : Fault) :
    Option ServerMessage :=
  match event with
  | some "generate-code" => some (.codeGenerated (.failed fault.message))
  | some "compile-code" =>
    some (.compilationResult
      { success := false
        error := some ("Compilation failed: " ++ fault.message)
        logs := ["Invalid compile request: " ++ fault.message] })
  | some "analyze-mockup" => some (.mockupAnalyzed (.failed "" fault.message))
  | _ => none

/-- The reply to a raw message and its effects, or the reason why there is
none. -/
def answer (session : Session) (raw : String) (world : World) :
    Except SessionError ServerMessage × World :=
  match ClientMessage.decode raw with
  | .ok message => session.respond message world
  | .error fault =>
    match failureReply (eventName raw) fault with
    | some reply => (.ok reply, world)
    | none => (.error (.decode fault), world)

/-- Answer a raw message and publish the reply. -/
def handle {m : Type → Type} [Monad m] (session : Session)
    (publish : ServerMessage → m (Except SessionError Unit)) (raw : String)
    (world : World) : m (Except SessionError Unit × World) :=
  match session.answer raw world with
  | (.ok reply, world) => do return (← publish reply, world)
  | (.error error, world) => pure (.error error, world)

end Session

end Wireform
