import Wireform.Compilation
import Wireform.Editor
import Wireform.Generator.Component
import Wireform.Mockup.Analysis

/-!
# The command line

Three commands: generate a component from an editor document, compile a source
file, and analyze a mockup image.  A command reads its input, and only when
everything has succeeded prints or writes its result.
-/

namespace Wireform.CommandLine

/-! ## Arguments -/

structure GenerateArgs where
  path : String
  componentName : Option String := none
  noTypeScript : Bool := false
  noHooks : Bool := false
  mode : Option WiringMode := none
  out : Option String := none
  validate : Bool := false
deriving DecidableEq, Repr

structure CompileArgs where
  path : String
  componentName : String
  outDir : Option String := none
deriving DecidableEq, Repr

structure AnalyzeArgs where
  path : String
  componentName : String := Mockup.Analysis.defaultName
  out : Option String := none
deriving DecidableEq, Repr

inductive Command where
  | generate (args : GenerateArgs)
  | compile (args : CompileArgs)
  | analyze (args : AnalyzeArgs)
  | help
deriving DecidableEq, Repr

/-- An option of a command: its names, and whether a value follows. -/
structure OptionSpec where
  long : String
  short : Option Char := none
  takesValue : Bool := true
deriving DecidableEq, Repr

/-- The arguments of a command, sorted out: the values of its options and its
positional arguments. -/
structure Given where
  options : List (String × String) := []
  positional : List String := []
deriving DecidableEq, Repr

namespace Given

def value (given : Given) (long : String) : Option String :=
  given.options.lookup long

def has (given : Given) (long : String) : Bool :=
  (given.value long).isSome

/-- Add the value of an option, which must not be given twice. -/
def add (given : Given) (long value : String) : Option Given :=
  if given.has long then none
  else some { given with options := given.options ++ [(long, value)] }

def addPositional (given : Given) (argument : String) : Given :=
  { given with positional := given.positional ++ [argument] }

end Given

/-- The names that ask for help or for the version. -/
def isHelp (argument : String) : Bool :=
  ["-h", "--help", "-V", "--version", "help"].contains argument

/-- Split at the first equals sign. -/
def splitEquals : List Char → List Char × Option (List Char)
  | [] => ([], none)
  | c :: rest =>
    if c = '=' then ([], some rest)
    else
      let (name, value) := splitEquals rest
      (c :: name, value)

/-- Whether an argument is an option rather than a value: it begins with a
hyphen and is not a hyphen alone. -/
def isOption (argument : String) : Bool :=
  match argument.toList with
  | '-' :: _ :: _ => true
  | _ => false

/-- The option and the attached value that an argument spells. -/
def spelled (specs : List OptionSpec) (argument : String) :
    Option (OptionSpec × Option String) :=
  match argument.toList with
  | '-' :: '-' :: rest =>
    let (name, value) := splitEquals rest
    (specs.find? (·.long = String.ofList name)).map fun spec =>
      (spec, value.map String.ofList)
  | '-' :: letter :: rest =>
    (specs.find? (·.short = some letter)).map fun spec =>
      (spec,
        match rest with
        | [] => none
        | '=' :: value => some (String.ofList value)
        | value => some (String.ofList value))
  | _ => none

/-- Sort out the arguments of a command. -/
def sortOut (specs : List OptionSpec) (given : Given) :
    List String → Option Given
  | [] => some given
  | argument :: rest =>
    if argument = "--" then some (rest.foldl Given.addPositional given)
    else if !isOption argument then sortOut specs (given.addPositional argument) rest
    else
      match spelled specs argument with
      | none => none
      | some (spec, some value) =>
        if spec.takesValue then
          match given.add spec.long value with
          | some given => sortOut specs given rest
          | none => none
        else none
      | some (spec, none) =>
        if spec.takesValue then
          match rest with
          | [] => none
          | value :: rest =>
            if isOption value then none
            else
              match given.add spec.long value with
              | some given => sortOut specs given rest
              | none => none
        else
          match given.add spec.long "" with
          | some given => sortOut specs given rest
          | none => none

def generateSpecs : List OptionSpec :=
  [{ long := "component-name", short := some 'n' },
   { long := "no-typescript", takesValue := false },
   { long := "no-hooks", takesValue := false },
   { long := "mode", short := some 'm' },
   { long := "out", short := some 'o' },
   { long := "validate", takesValue := false }]

def compileSpecs : List OptionSpec :=
  [{ long := "component-name", short := some 'n' }, { long := "out-dir" }]

def analyzeSpecs : List OptionSpec :=
  [{ long := "component-name", short := some 'n' },
   { long := "out", short := some 'o' }]

def Given.onlyPath (given : Given) : Option String :=
  match given.positional with
  | [path] => some path
  | _ => none

/-- The mode that is asked for, if any; no value for an unknown one. -/
def Given.mode (given : Given) : Option (Option WiringMode) :=
  match given.value "mode" with
  | none => some none
  | some text => (WiringMode.ofTag text).map some

def readGenerate (arguments : List String) : Option GenerateArgs := do
  let given ← sortOut generateSpecs {} arguments
  let path ← given.onlyPath
  let mode ← given.mode
  pure
    { path, mode
      componentName := given.value "component-name"
      noTypeScript := given.has "no-typescript"
      noHooks := given.has "no-hooks"
      out := given.value "out"
      validate := given.has "validate" }

def readCompile (arguments : List String) : Option CompileArgs := do
  let given ← sortOut compileSpecs {} arguments
  let path ← given.onlyPath
  let componentName ← given.value "component-name"
  pure { path, componentName, outDir := given.value "out-dir" }

def readAnalyze (arguments : List String) : Option AnalyzeArgs := do
  let given ← sortOut analyzeSpecs {} arguments
  let path ← given.onlyPath
  pure
    { path
      componentName :=
        (given.value "component-name").getD Mockup.Analysis.defaultName
      out := given.value "out" }

/-- The arguments up to the end of the options. -/
def beforeEnd (arguments : List String) : List String :=
  arguments.takeWhile (· ≠ "--")

/-- The command that the arguments spell, if they spell one. -/
def readCommand : List String → Option Command
  | [] => none
  | name :: arguments =>
    if isHelp name || (beforeEnd arguments).any fun argument =>
        argument = "-h" || argument = "--help" then some .help
    else if name = "generate" then (readGenerate arguments).map .generate
    else if name = "compile" then (readCompile arguments).map .compile
    else if name = "analyze" then (readAnalyze arguments).map .analyze
    else none

/-! ## Running -/

/-- What a run leaves behind besides files. -/
structure Transcript where
  exitCode : Nat := 0
  output : String := ""
  errors : List String := []
deriving DecidableEq, Repr

namespace Transcript

def note (transcript : Transcript) (line : String) : Transcript :=
  { transcript with errors := transcript.errors ++ [line] }

def notes (transcript : Transcript) (lines : List String) : Transcript :=
  { transcript with errors := transcript.errors ++ lines }

def print (transcript : Transcript) (text : String) : Transcript :=
  { transcript with output := transcript.output ++ text }

def fail (transcript : Transcript) (message : String) : Transcript :=
  { transcript.notes ["", "Error: " ++ message] with exitCode := 1 }

end Transcript

def indented (line : String) : String := "  " ++ line

variable {m : Type → Type} [Monad m]

/-- Write code to a file, or print it. -/
def deliver (files : FileAccess m) (out : Option String) (code : String)
    (transcript : Transcript) : m (Except Transcript Transcript) := do
  match out with
  | none => pure (.ok (transcript.print (code ++ "\n")))
  | some path =>
    match ← files.writeText path code with
    | .ok () =>
      pure (.ok (transcript.note ("  -> Wrote component to '" ++ path ++ "'")))
    | .error error =>
      pure (.error (transcript.fail
        ("Failed to write '" ++ path ++ "': " ++ error.message)))

/-- The settings of a document under the options of the command. -/
def effectiveSettings (args : GenerateArgs) (document : Editor.Document) :
    Settings :=
  let settings := document.settings.getD {}
  { componentName := args.componentName.getD settings.componentName
    typeScript := settings.typeScript && !args.noTypeScript
    hooks := settings.hooks && !args.noHooks
    mode := args.mode.getD settings.mode }

def modeName : WiringMode → String
  | .flat => "Flat"
  | .connected => "Connected"

/-- The summary after a generation. -/
def summary (settings : Settings) (diagram : Diagram) : List String :=
  ["", "--- Generation Summary ---",
   "Component:    " ++ settings.componentName,
   "Nodes:        " ++ toString diagram.nodes.length,
   "Edges:        " ++ toString diagram.edges.length,
   "Mode:         " ++ modeName settings.mode]

/-- Validate generated code if that is asked for. -/
def validated (args : GenerateArgs) (code name : String) :
    Except Transcript Transcript :=
  if args.validate then
    let result := Compilation.check code name
    let transcript := ({} : Transcript).notes (result.logs.map indented)
    if result.success then .ok transcript
    else .error (transcript.fail ("Validation failed: " ++ result.error.getD ""))
  else .ok {}

/-- What a document is turned into. -/
structure Generated where
  settings : Settings
  diagram : Diagram
  code : String
  transcript : Transcript
deriving DecidableEq, Repr

/-- Turn the text of a document into code; the first step that fails ends the
run. -/
def generated (args : GenerateArgs) (text : String) :
    Except Transcript Generated :=
  match Editor.Document.ofText text with
  | .error error =>
    .error (Transcript.fail {} ("Failed to parse diagram: " ++ error.message))
  | .ok document =>
    match document.toDiagram with
    | .error error =>
      .error (Transcript.fail {} ("Failed to convert diagram: " ++ error.message))
    | .ok diagram =>
      let settings := effectiveSettings args document
      match Component.ofDiagram settings diagram with
      | .error error =>
        .error (Transcript.fail {} ("Code generation failed: " ++ error.message))
      | .ok code =>
        (validated args code settings.componentName).map fun transcript =>
          { settings, diagram, code, transcript }

def runGenerate (files : FileAccess m) (args : GenerateArgs) : m Transcript := do
  match ← files.readText args.path with
  | .error error =>
    pure (Transcript.fail {}
      ("Failed to read diagram file '" ++ args.path ++ "': " ++ error.message))
  | .ok text =>
    match generated args text with
    | .error transcript => pure transcript
    | .ok done =>
      match ← deliver files args.out done.code done.transcript with
      | .error transcript => pure transcript
      | .ok transcript =>
        pure (transcript.notes (summary done.settings done.diagram))

def runCompile (files : FileAccess m) (args : CompileArgs) : m Transcript := do
  match ← files.readText args.path with
  | .error error =>
    pure (Transcript.fail {}
      ("Failed to read source file '" ++ args.path ++ "': " ++ error.message))
  | .ok source =>
    let result ← Compilation.run files args.outDir source args.componentName
    let transcript :=
      ({} : Transcript).print (Text.unlines (result.logs.map indented))
    pure (if result.success then transcript
      else transcript.fail (result.error.getD ""))

def runAnalyze (files : FileAccess m) (args : AnalyzeArgs) : m Transcript := do
  match ← files.read args.path with
  | .error error =>
    pure (Transcript.fail {}
      ("Failed to read image '" ++ args.path ++ "': " ++ error.message))
  | .ok image =>
    let analysis := Mockup.Analysis.ofImage image args.componentName
    if analysis.success then
      let transcript := Transcript.note {} ("-> " ++ analysis.description)
      match ← deliver files args.out analysis.code transcript with
      | .ok transcript => pure transcript
      | .error transcript => pure transcript
    else pure (Transcript.fail {} (analysis.error.getD ""))

def usage : String :=
  Text.unlines
    ["Commands: generate <diagram>, compile <source>, analyze <image>"]

/-- Run the command that the arguments spell. -/
def run (files : FileAccess m) (arguments : List String) : m Transcript :=
  match readCommand arguments with
  | none => pure { exitCode := 2 }
  | some .help => pure { output := usage }
  | some (.generate args) => runGenerate files args
  | some (.compile args) => runCompile files args
  | some (.analyze args) => runAnalyze files args

end Wireform.CommandLine
