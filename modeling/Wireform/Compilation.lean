import Wireform.Syntax.Parser
import Wireform.Files
import Wireform.Wire.Diagram

/-!
# Compilation

The check of a component's source text: a log of what was done, the faults
that were found, and the file that valid source is written to.
-/

namespace Wireform

open Json

/-- The outcome of a compilation. -/
structure Compilation where
  success : Bool
  output : Option String := none
  error : Option String := none
  logs : List String := []
deriving DecidableEq, Repr

/-- The reason why a compilation fails. -/
inductive CompileError where
  | missingComponentName
  | badSyntax (line column : Nat)
  | cannotWrite (path : String) (error : FileError)
deriving DecidableEq, Repr

def CompileError.message : CompileError → String
  | missingComponentName => "Component name is required"
  | badSyntax line column =>
    "Syntax error at line " ++ toString line ++ ", column " ++ toString column
  | cannotWrite path error =>
    "Could not write '" ++ path ++ "': " ++ error.message

namespace Compilation

def toJson (result : Compilation) : Json :=
  .object <|
    [("success", .boolean result.success)]
    ++ memberIfSome "output" Json.string result.output
    ++ memberIfSome "error" Json.string result.error
    ++ [("logs", .array (result.logs.map Json.string))]

def decoder : Decoder Compilation :=
  .record "CompilationResult"
    (.cons (.required "success" .boolean) <|
     .cons (.optional "output" .string) <|
     .cons (.optional "error" .string) <|
     .cons (.withDefault "logs" (.list .string) []) .nil)
    fun (success, output, error, logs, _) => { success, output, error, logs }

def failed (error : CompileError) (logs : List String) : Compilation where
  success := false
  error := some error.message
  logs := logs ++ ["Compilation failed: " ++ error.message]

def succeeded (source : String) (logs : List String) : Compilation where
  success := true
  output := some source
  logs := logs ++ ["Component ready for testing"]

/-- The log line for a fault of the source. -/
def faultLine (diagnostic : Syntax.Diagnostic) : String :=
  (match diagnostic.missing with
   | some token => "Missing `" ++ token ++ "`"
   | none => "Unexpected syntax")
  ++ " at line " ++ toString diagnostic.line
  ++ ", column " ++ toString diagnostic.column

def startLine (name : String) : String :=
  "Starting compilation for " ++ name ++ "..."

/-- The log lines of source without faults. -/
def validLines (name : String) : List String :=
  [startLine name, "TSX parse successful",
   "Component " ++ name ++ " generated successfully"]

/-- The name of the file for a component: its letters, digits and
underscores. -/
def fileName (name : String) : String :=
  Text.onChars (List.filter fun c => Unicode.isAlphanumeric c || c = '_') name
    ++ ".tsx"

/-- Write valid source to a directory, if there is one: the path of the
file. -/
def writeOutput {m : Type → Type} [Monad m] (files : FileAccess m)
    (directory : Option String) (source name : String) :
    m (Except CompileError (Option String)) := do
  match directory with
  | none => pure (.ok none)
  | some directory =>
    match ← files.makeDirectories directory with
    | .error error => pure (.error (.cannotWrite directory error))
    | .ok () =>
      let path := joinPath directory (fileName name)
      match ← files.writeText path source with
      | .error error => pure (.error (.cannotWrite path error))
      | .ok () => pure (.ok (some path))

/-- Compile source with known faults. -/
def ofDiagnostics {m : Type → Type} [Monad m] (files : FileAccess m)
    (directory : Option String) (source name : String)
    (diagnostics : List Syntax.Diagnostic) : m Compilation := do
  if Text.isBlank name then pure (failed .missingComponentName [])
  else
    match diagnostics with
    | first :: _ =>
      pure (failed (.badSyntax first.line first.column)
        (startLine name :: diagnostics.map faultLine))
    | [] =>
      match ← writeOutput files directory source name with
      | .error error => pure (failed error (validLines name))
      | .ok (some path) =>
        pure (succeeded source (validLines name ++ ["Code written to " ++ path]))
      | .ok none => pure (succeeded source (validLines name))

def diagnostics (source : String) : List Syntax.Diagnostic :=
  (Syntax.parse source).diagnostics

/-- Compile a source text and write it to a directory, if there is one. -/
def run {m : Type → Type} [Monad m] (files : FileAccess m)
    (directory : Option String) (source name : String) : m Compilation :=
  ofDiagnostics files directory source name (diagnostics source)

/-- File access for a compilation that writes nothing. -/
def noFiles : FileAccess Id where
  read _ := .error .noSuchFile
  write _ _ := .error .noSuchFile
  makeDirectories _ := .error .noSuchFile

/-- Compile a source text without writing it. -/
def check (source name : String) : Compilation :=
  Id.run (run noFiles none source name)

end Compilation

end Wireform
