import Wireform.Mockup.Template
import Wireform.Utf8
import Wireform.Wire.Diagram

/-!
# Mockup analysis

From an image, or from its Base64 form as a browser sends it, to a component
skeleton.
-/

namespace Wireform.Mockup

open Json

/-- The outcome of an analysis. -/
structure Analysis where
  success : Bool
  componentName : String
  code : String
  description : String
  error : Option String := none
deriving DecidableEq, Repr

def Layout.toJson : Layout → Json := tagText tag

def Layout.decoder : Decoder Layout := .choice (tagCases all tag)

namespace Analysis

def toJson (analysis : Analysis) : Json :=
  .object <|
    [("success", .boolean analysis.success),
     ("componentName", .string analysis.componentName),
     ("code", .string analysis.code),
     ("description", .string analysis.description)]
    ++ memberIfSome "error" Json.string analysis.error

def decoder : Decoder Analysis :=
  .record "MockupAnalysis"
    (.cons (.required "success" .boolean) <|
     .cons (.required "componentName" .string) <|
     .cons (.required "code" .string) <|
     .cons (.required "description" .string) <|
     .cons (.optional "error" .string) .nil)
    fun (success, componentName, code, description, error, _) =>
      { success, componentName, code, description, error }

/-- The name of a component for which none is given. -/
def defaultName : String := "GeneratedComponent"

/-- The given name, unless it is blank. -/
def resolveName (name : String) : String :=
  if Text.isBlank name then defaultName else name

/-- An analysis that failed for the given reason. -/
def failed (name reason : String) : Analysis where
  success := false
  componentName := resolveName name
  code := ""
  description := "Failed to analyze mockup"
  error := some reason

/-- Analyze the bytes of an image. -/
def ofImage (image : List UInt8) (name : String) : Analysis :=
  match Profile.ofImage image with
  | .error error => failed name error.message
  | .ok profile =>
    { success := true
      componentName := resolveName name
      code := profile.render (resolveName name)
      description := profile.describe (resolveName name) }

/-- The text after the first comma. -/
def afterComma : List Char → Option (List Char)
  | [] => none
  | c :: rest => if c = ',' then some rest else afterComma rest

/-- The encoded part of a payload, without the prefix of a data address. -/
def encodedPart (payload : List Char) : List Char :=
  if "data:".toList.isPrefixOf payload then
    (afterComma payload).getD payload
  else payload

/-- Analyze an image from its Base64 form. -/
def ofBase64 (payload name : String) : Analysis :=
  let text := String.ofList (Text.trimChars (encodedPart payload.toList))
  match Base64.decode (Utf8.encode text) with
  | .ok image => ofImage image name
  | .error fault => failed name (AnalysisError.badBase64 fault).message

end Analysis

end Wireform.Mockup
