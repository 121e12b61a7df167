import Wireform.Json.Decoder
import Wireform.Wire.Diagram

/-!
# Code artifacts

Generated source files as they are kept in a store or written to disk.
-/

namespace Wireform

open Json

/-- Where a piece of generated code comes from. -/
inductive SourceKind where
  | diagram
  | mockup
deriving DecidableEq, Repr

namespace SourceKind

/-- Both kinds, in the order of their numbers in files. -/
def all : List SourceKind := [diagram, mockup]

/-- The tag that names a kind in documents. -/
def tag : SourceKind → String
  | diagram => "diagram"
  | mockup => "mockup"

def toJson : SourceKind → Json := tagText tag

def decoder : Decoder SourceKind := .choice (tagCases all tag)

end SourceKind

/-- A generated source file. -/
structure CodeArtifact where
  id : Nat
  diagramId : Option Nat
  code : String
  language : String
  componentName : String
  sourceKind : SourceKind
deriving DecidableEq, Repr

namespace CodeArtifact

def toJson (artifact : CodeArtifact) : Json :=
  .object
    [("id", .natural artifact.id),
     ("diagramId", Json.optional Json.natural artifact.diagramId),
     ("code", .string artifact.code), ("language", .string artifact.language),
     ("componentName", .string artifact.componentName),
     ("sourceKind", artifact.sourceKind.toJson)]

def decoder : Decoder CodeArtifact :=
  .record "CodeArtifact"
    (.cons (.required "id" .unsigned) <|
     .cons (.nullable "diagramId" .unsigned) <|
     .cons (.required "code" .string) <|
     .cons (.required "language" .string) <|
     .cons (.required "componentName" .string) <|
     .cons (.required "sourceKind" SourceKind.decoder) .nil)
    fun (id, diagramId, code, language, componentName, sourceKind, _) =>
      { id, diagramId, code, language, componentName, sourceKind }

end CodeArtifact

end Wireform
