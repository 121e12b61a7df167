import Mathlib
import Wireform.Proofs.Artifact.Utf8
import Wireform.Proofs.CommandLine.Arguments
import Wireform.Proofs.Files.Writing

/-!
# The command `generate`

The command takes a document through the steps of the library, with the stored
settings overridden by its flags.  If a step fails, the run ends with an error
that names the step, and nothing is printed or written.  Otherwise the code is
printed or written as it is, whether or not it was validated.
-/

namespace Wireform

attribute [ext] Settings

theorem Component.ne_empty_of_generate {settings : Settings} {nodes : List Node}
    {edges : List Edge} {code : String}
    (hcode : generate settings nodes edges = .ok code) : code ≠ "" := by
  unfold generate fragments at hcode
  cases hname : settings.usableName with
  | error error =>
    rw [hname] at hcode
    cases hcode
  | ok name =>
    rw [hname] at hcode
    cases hcode
    intro hempty
    simp [Fragment.render, assemble, Fragment.imports] at hempty

namespace Compilation

/-- A compilation that does not succeed has an error. -/
theorem exists_error_of_check {source name : String}
    (hcheck : (check source name).success = false) :
    ∃ message, (check source name).error = some message := by
  revert hcheck
  unfold check run
  generalize diagnostics source = found
  unfold ofDiagnostics
  cases Text.isBlank name with
  | true => exact fun _ => ⟨_, rfl⟩
  | false =>
    cases found with
    | nil => exact fun hcheck => nomatch hcheck
    | cons first rest => exact fun _ => ⟨_, rfl⟩

end Compilation

namespace CommandLine

/-! ## The steps of the library -/

/-- The steps from a document to its code. -/
inductive Step where
  | parse
  | convert
  | generate
  | validate
deriving DecidableEq, Repr

/-- What an error line says of the step that failed. -/
def Step.announcement : Step → String
  | parse => "Failed to parse diagram: "
  | convert => "Failed to convert diagram: "
  | generate => "Code generation failed: "
  | validate => "Validation failed: "

/-- The settings of a document without settings. -/
def blankSettings : Settings where
  componentName := ""
  typeScript := true
  hooks := true
  mode := .flat

/-- Settings in which each given flag overrides its field of the stored ones. -/
structure Overrides (args : GenerateArgs) (stored settings : Settings) : Prop where
  name : ∀ name, args.componentName = some name → settings.componentName = name
  storedName : args.componentName = none →
    settings.componentName = stored.componentName
  noTypeScript : args.noTypeScript = true → settings.typeScript = false
  storedTypeScript : args.noTypeScript = false → settings.typeScript = stored.typeScript
  noHooks : args.noHooks = true → settings.hooks = false
  storedHooks : args.noHooks = false → settings.hooks = stored.hooks
  mode : ∀ mode, args.mode = some mode → settings.mode = mode
  storedMode : args.mode = none → settings.mode = stored.mode

/-- A text that is read and converted into a diagram, with the settings in force. -/
def Reaches (args : GenerateArgs) (text : String) (settings : Settings)
    (diagram : Diagram) : Prop :=
  ∃ document, Editor.Document.ofText text = .ok document ∧
    Overrides args (document.settings.getD blankSettings) settings ∧
    document.toDiagram = .ok diagram

/-- A text for which all steps succeed, with its code. -/
inductive Makes (args : GenerateArgs) (text : String) : String → Prop
  | intro {settings : Settings} {diagram : Diagram} {code : String}
      (hdiagram : Reaches args text settings diagram)
      (hcode : Component.ofDiagram settings diagram = .ok code)
      (hvalid : args.validate = true →
        (Compilation.check code settings.componentName).success = true) :
      Makes args text code

/-- The first step that fails for a text, with the message of its error. -/
inductive FailsAt (args : GenerateArgs) (text : String) : Step → String → Prop
  | parse {error : Editor.ConversionError}
      (hdocument : Editor.Document.ofText text = .error error) :
      FailsAt args text .parse error.message
  | convert {document : Editor.Document} {error : Editor.ConversionError}
      (hdocument : Editor.Document.ofText text = .ok document)
      (hdiagram : document.toDiagram = .error error) :
      FailsAt args text .convert error.message
  | generate {settings : Settings} {diagram : Diagram} {error : GenerationError}
      (hdiagram : Reaches args text settings diagram)
      (hcode : Component.ofDiagram settings diagram = .error error) :
      FailsAt args text .generate error.message
  | validate {settings : Settings} {diagram : Diagram} {code message : String}
      (hdiagram : Reaches args text settings diagram)
      (hcode : Component.ofDiagram settings diagram = .ok code)
      (hvalidate : args.validate = true)
      (hcheck : (Compilation.check code settings.componentName).success = false)
      (herror : (Compilation.check code settings.componentName).error = some message) :
      FailsAt args text .validate message

theorem overrides_iff {args : GenerateArgs} {document : Editor.Document}
    {settings : Settings} :
    Overrides args (document.settings.getD blankSettings) settings ↔
      settings = effectiveSettings args document := by
  have hblank : document.settings.getD {} = document.settings.getD blankSettings := rfl
  constructor
  · intro hoverrides
    rw [effectiveSettings, hblank]
    apply Settings.ext
    · cases hname : args.componentName with
      | none => exact hoverrides.storedName hname
      | some name => exact hoverrides.name name hname
    · cases hflag : args.noTypeScript with
      | false => simpa using hoverrides.storedTypeScript hflag
      | true => simpa using hoverrides.noTypeScript hflag
    · cases hflag : args.noHooks with
      | false => simpa using hoverrides.storedHooks hflag
      | true => simpa using hoverrides.noHooks hflag
    · cases hmode : args.mode with
      | none => exact hoverrides.storedMode hmode
      | some mode => exact hoverrides.mode mode hmode
  · rintro rfl
    rw [effectiveSettings, hblank]
    constructor <;> simp +contextual

theorem reaches_iff {args : GenerateArgs} {text : String} {settings : Settings}
    {diagram : Diagram} :
    Reaches args text settings diagram ↔
      ∃ document, Editor.Document.ofText text = .ok document ∧
        document.toDiagram = .ok diagram ∧
        settings = effectiveSettings args document := by
  simp only [Reaches, overrides_iff, and_comm]

/-- Every text comes to its code or to a first step that fails. -/
theorem makes_or_failsAt (args : GenerateArgs) (text : String) :
    (∃ code, Makes args text code) ∨ ∃ step message, FailsAt args text step message := by
  cases hdocument : Editor.Document.ofText text with
  | error error => exact .inr ⟨_, _, .parse hdocument⟩
  | ok document =>
    cases hdiagram : document.toDiagram with
    | error error => exact .inr ⟨_, _, .convert hdocument hdiagram⟩
    | ok diagram =>
      have hreaches : Reaches args text (effectiveSettings args document) diagram :=
        reaches_iff.2 ⟨document, hdocument, hdiagram, rfl⟩
      cases hcode : Component.ofDiagram (effectiveSettings args document) diagram with
      | error error => exact .inr ⟨_, _, .generate hreaches hcode⟩
      | ok code =>
        by_cases hvalid : args.validate = true →
            (Compilation.check code (effectiveSettings args document).componentName).success
              = true
        · exact .inl ⟨code, .intro hreaches hcode hvalid⟩
        · rw [Classical.not_imp, Bool.not_eq_true] at hvalid
          obtain ⟨message, herror⟩ := Compilation.exists_error_of_check hvalid.2
          exact .inr ⟨_, _, .validate hreaches hcode hvalid.1 hvalid.2 herror⟩

/-! ## Runs -/

/-- A transcript that ends with an error. -/
structure Transcript.Failed (transcript : Transcript) (message : String) : Prop where
  exitCode : transcript.exitCode = 1
  output : transcript.output = ""
  error : transcript.errors.getLast? = some ("Error: " ++ message)

/-- A transcript of success so far, with nothing printed. -/
structure Transcript.Quiet (transcript : Transcript) : Prop where
  exitCode : transcript.exitCode = 0
  output : transcript.output = ""

theorem Transcript.quiet_notes (lines : List String) : (notes {} lines).Quiet :=
  ⟨rfl, rfl⟩

theorem Transcript.Quiet.failed_fail {transcript : Transcript} (hquiet : transcript.Quiet)
    (message : String) : (transcript.fail message).Failed message where
  exitCode := rfl
  output := hquiet.output
  error := by
    simp [fail, notes]

theorem validated_of_valid {args : GenerateArgs} {code name : String}
    (hvalid : args.validate = true → (Compilation.check code name).success = true) :
    ∃ transcript, validated args code name = .ok transcript ∧ transcript.Quiet := by
  unfold validated
  by_cases hvalidate : args.validate = true
  · simp only [hvalidate, if_true, hvalid hvalidate]
    exact ⟨_, rfl, Transcript.quiet_notes _⟩
  · simp only [hvalidate, if_false, Bool.false_eq_true]
    exact ⟨_, rfl, rfl, rfl⟩

theorem generated_of_makes {args : GenerateArgs} {text code : String}
    (hmakes : Makes args text code) :
    ∃ done, generated args text = .ok done ∧ done.code = code ∧
      done.transcript.Quiet := by
  cases hmakes with
  | intro hreaches hcode hvalid =>
    obtain ⟨document, hdocument, hdiagram, rfl⟩ := reaches_iff.1 hreaches
    obtain ⟨transcript, hvalidated, hquiet⟩ := validated_of_valid hvalid
    simp only [generated, hdocument, hdiagram, hcode, hvalidated]
    exact ⟨_, rfl, rfl, hquiet⟩

theorem generated_of_failsAt {args : GenerateArgs} {text message : String} {step : Step}
    (hfails : FailsAt args text step message) :
    ∃ transcript, generated args text = .error transcript ∧
      transcript.Failed (step.announcement ++ message) := by
  have hempty : ({} : Transcript).Quiet := ⟨rfl, rfl⟩
  cases hfails with
  | parse hdocument =>
    simp only [generated, hdocument]
    exact ⟨_, rfl, hempty.failed_fail _⟩
  | convert hdocument hdiagram =>
    simp only [generated, hdocument, hdiagram]
    exact ⟨_, rfl, hempty.failed_fail _⟩
  | generate hreaches hcode =>
    obtain ⟨document, hdocument, hdiagram, rfl⟩ := reaches_iff.1 hreaches
    simp only [generated, hdocument, hdiagram, hcode]
    exact ⟨_, rfl, hempty.failed_fail _⟩
  | validate hreaches hcode hvalidate hcheck herror =>
    obtain ⟨document, hdocument, hdiagram, rfl⟩ := reaches_iff.1 hreaches
    simp only [generated, hdocument, hdiagram, hcode, validated, hvalidate, hcheck, herror,
      if_true, if_false, Bool.false_eq_true, Option.getD_some]
    exact ⟨_, rfl, (Transcript.quiet_notes _).failed_fail _⟩

section Running

variable {args : GenerateArgs} {tree : FileTree} {bytes : List UInt8} {text : String}

theorem readText_access {path : String} (hfile : tree.read path = .ok bytes)
    (htext : Utf8.decode bytes = .ok text) :
    FileTree.access.readText path tree = (.ok text, tree) := by
  unfold FileAccess.readText
  simp only [FileTree.access, bind, StateT.bind, hfile, htext]
  rfl

theorem runGenerate_of_error {transcript : Transcript}
    (hread : FileTree.access.readText args.path tree = (.ok text, tree))
    (hgenerated : generated args text = .error transcript) :
    runGenerate FileTree.access args tree = (transcript, tree) := by
  unfold runGenerate
  simp only [bind, StateT.bind, hread, hgenerated]
  rfl

/-- Without a file for it, the code is printed. -/
theorem runGenerate_of_print {done : Generated}
    (hread : FileTree.access.readText args.path tree = (.ok text, tree))
    (hgenerated : generated args text = .ok done) (hout : args.out = none) :
    runGenerate FileTree.access args tree =
      ((done.transcript.print (done.code ++ "\n")).notes
        (summary done.settings done.diagram), tree) := by
  unfold runGenerate
  simp only [bind, StateT.bind, hread, hgenerated, deliver, hout]
  rfl

theorem runGenerate_of_write {done : Generated} {path : String} {after : FileTree}
    (hread : FileTree.access.readText args.path tree = (.ok text, tree))
    (hgenerated : generated args text = .ok done) (hout : args.out = some path)
    (hwrite : tree.write path (Utf8.encode done.code) = (.ok (), after)) :
    runGenerate FileTree.access args tree =
      ((done.transcript.note ("  -> Wrote component to '" ++ path ++ "'")).notes
        (summary done.settings done.diagram), after) := by
  have haccess : FileTree.access.writeText path done.code tree = (.ok (), after) := hwrite
  unfold runGenerate
  simp only [bind, StateT.bind, hread, hgenerated, deliver, hout, haccess]
  rfl

theorem runGenerate_of_write_error {done : Generated} {path : String}
    {after : FileTree} {error : FileError}
    (hread : FileTree.access.readText args.path tree = (.ok text, tree))
    (hgenerated : generated args text = .ok done) (hout : args.out = some path)
    (hwrite : tree.write path (Utf8.encode done.code) = (.error error, after)) :
    runGenerate FileTree.access args tree =
      (done.transcript.fail ("Failed to write '" ++ path ++ "': " ++ error.message),
        after) := by
  have haccess : FileTree.access.writeText path done.code tree = (.error error, after) :=
    hwrite
  unfold runGenerate
  simp only [bind, StateT.bind, hread, hgenerated, deliver, hout, haccess]
  rfl

end Running

/-! ## The command is the steps -/

theorem run_generate {arguments : List String} {args : GenerateArgs} (tree : FileTree)
    (harguments : readCommand arguments = some (.generate args)) :
    run FileTree.access arguments tree = runGenerate FileTree.access args tree := by
  unfold run
  rw [harguments]

/-- A run that puts some bytes at the place of a path and prints nothing. -/
structure Saves (tree : FileTree) (path : String) (bytes : List UInt8)
    (transcript : Transcript) (after : FileTree) : Prop where
  exitCode : transcript.exitCode = 0
  output : transcript.output = ""
  content : after.read path = .ok bytes
  others : ∃ place, tree.locate path = .ok place ∧
    ∀ other ≠ place, after.entry other = tree.entry other

/-- The arguments without the flag for validation. -/
def GenerateArgs.unvalidated (args : GenerateArgs) : GenerateArgs :=
  { args with validate := false }

/-- A text that comes to some code with validation comes to it without. -/
theorem Makes.unvalidated {args : GenerateArgs} {text code : String}
    (hmakes : Makes args text code) : Makes args.unvalidated text code := by
  cases hmakes with
  | intro hreaches hcode hvalid =>
    obtain ⟨document, hdocument, hoverrides, hdiagram⟩ := hreaches
    have hreaches' : Reaches args.unvalidated text _ _ :=
      ⟨document, hdocument, { hoverrides with }, hdiagram⟩
    exact .intro hreaches' hcode (fun hvalidate => nomatch hvalidate)

section Steps

variable {args : GenerateArgs} {tree : FileTree} {text code : String}

theorem Makes.ne_empty (hmakes : Makes args text code) : code ≠ "" := by
  cases hmakes with
  | intro hreaches hcode hvalid => exact Component.ne_empty_of_generate hcode

/-- Code that is printed. -/
theorem runGenerate_prints
    (hread : FileTree.access.readText args.path tree = (.ok text, tree))
    (hmakes : Makes args text code) (hout : args.out = none) :
    ∃ transcript, runGenerate FileTree.access args tree = (transcript, tree) ∧
      transcript.exitCode = 0 ∧ transcript.output = code ++ "\n" := by
  obtain ⟨done, hgenerated, rfl, hquiet⟩ := generated_of_makes hmakes
  refine ⟨_, runGenerate_of_print hread hgenerated hout, hquiet.exitCode, ?_⟩
  simp [Transcript.print, Transcript.notes, hquiet.output]

/-- Code that is written. -/
theorem runGenerate_saves {path : String} {after : FileTree}
    (hread : FileTree.access.readText args.path tree = (.ok text, tree))
    (hmakes : Makes args text code) (hout : args.out = some path)
    (hwrite : tree.write path (Utf8.encode code) = (.ok (), after)) :
    ∃ transcript, runGenerate FileTree.access args tree = (transcript, after) ∧
      Saves tree path (Utf8.encode code) transcript after := by
  have hbytes : Utf8.encode code ≠ [] := Utf8.encode_ne_nil hmakes.ne_empty
  obtain ⟨done, hgenerated, rfl, hquiet⟩ := generated_of_makes hmakes
  refine ⟨_, runGenerate_of_write hread hgenerated hout hwrite, ?_⟩
  constructor
  · exact hquiet.exitCode
  · exact hquiet.output
  · exact FileTree.read_of_write hwrite hbytes
  · obtain ⟨place, hlocate, -, -, rfl⟩ := FileTree.write_eq_ok hwrite hbytes
    exact ⟨place, hlocate, fun other hne => FileTree.entry_set_of_ne tree _ hne⟩

/-- Code that cannot be written. -/
theorem runGenerate_unsaved {path : String} {error : FileError} {after : FileTree}
    (hread : FileTree.access.readText args.path tree = (.ok text, tree))
    (hmakes : Makes args text code) (hout : args.out = some path)
    (hwrite : tree.write path (Utf8.encode code) = (.error error, after)) :
    ∃ transcript, runGenerate FileTree.access args tree = (transcript, after) ∧
      transcript.Failed ("Failed to write '" ++ path ++ "': " ++ error.message) := by
  obtain ⟨done, hgenerated, rfl, hquiet⟩ := generated_of_makes hmakes
  exact ⟨_, runGenerate_of_write_error hread hgenerated hout hwrite, hquiet.failed_fail _⟩

/-- A step that fails. -/
theorem runGenerate_fails {step : Step} {message : String}
    (hread : FileTree.access.readText args.path tree = (.ok text, tree))
    (hfails : FailsAt args text step message) :
    ∃ transcript, runGenerate FileTree.access args tree = (transcript, tree) ∧
      transcript.Failed (step.announcement ++ message) := by
  obtain ⟨transcript, hgenerated, hfailed⟩ := generated_of_failsAt hfails
  exact ⟨transcript, runGenerate_of_error hread hgenerated, hfailed⟩

/-- Validation that succeeds leaves no trace but its log. -/
theorem runGenerate_unvalidated
    (hread : FileTree.access.readText args.path tree = (.ok text, tree))
    (hmakes : Makes args text code) :
    let finished := runGenerate FileTree.access args tree
    let plain := runGenerate FileTree.access args.unvalidated tree
    plain.1.exitCode = finished.1.exitCode ∧ plain.1.output = finished.1.output ∧
      plain.2 = finished.2 := by
  intro finished plain
  -- Both runs take the same code to the same place.
  have hplain : Makes args.unvalidated text code := hmakes.unvalidated
  have hread' : FileTree.access.readText args.unvalidated.path tree = (.ok text, tree) :=
    hread
  cases hout : args.out with
  | none =>
    obtain ⟨transcript, hrun, hexit, houtput⟩ := runGenerate_prints hread hmakes hout
    obtain ⟨transcript', hrun', hexit', houtput'⟩ := runGenerate_prints hread' hplain hout
    simp only [finished, plain, hrun, hrun', hexit, hexit', houtput, houtput', and_self]
  | some path =>
    rcases hwrite : tree.write path (Utf8.encode code) with ⟨error | _, after⟩
    · obtain ⟨transcript, hrun, hfailed⟩ := runGenerate_unsaved hread hmakes hout hwrite
      obtain ⟨transcript', hrun', hfailed'⟩ := runGenerate_unsaved hread' hplain hout hwrite
      simp only [finished, plain, hrun, hrun', hfailed.exitCode, hfailed'.exitCode,
        hfailed.output, hfailed'.output, and_self]
    · obtain ⟨transcript, hrun, hsaves⟩ := runGenerate_saves hread hmakes hout hwrite
      obtain ⟨transcript', hrun', hsaves'⟩ := runGenerate_saves hread' hplain hout hwrite
      simp only [finished, plain, hrun, hrun', hsaves.exitCode, hsaves'.exitCode,
        hsaves.output, hsaves'.output, and_self]

end Steps

/-- A run of `generate` on a readable document is the run of its steps.  Arguments of
every kind can be spelled; the code of a text is printed or written, and a step that
fails ends the run before anything is. -/
theorem generate_runs_steps {args : GenerateArgs} {tree : FileTree} {bytes : List UInt8}
    {text : String} (hfile : tree.read args.path = .ok bytes)
    (htext : Utf8.decode bytes = .ok text) :
    readCommand args.spelling = some (.generate args) ∧
    ((∃ code, Makes args text code) ∨ ∃ step message, FailsAt args text step message) ∧
    ∀ arguments, readCommand arguments = some (.generate args) →
      let finished := run FileTree.access arguments tree
      let plain := run FileTree.access args.unvalidated.spelling tree
      (∀ code, Makes args text code → args.out = none →
        finished.1.exitCode = 0 ∧ finished.1.output = code ++ "\n" ∧ finished.2 = tree) ∧
      (∀ code path, Makes args text code → args.out = some path →
        (tree.write path (Utf8.encode code)).1 = .ok () →
        Saves tree path (Utf8.encode code) finished.1 finished.2) ∧
      (∀ code path error, Makes args text code → args.out = some path →
        (tree.write path (Utf8.encode code)).1 = .error error →
        finished.1.Failed ("Failed to write '" ++ path ++ "': " ++ error.message)) ∧
      (∀ code, Makes args text code →
        plain.1.exitCode = finished.1.exitCode ∧ plain.1.output = finished.1.output ∧
          plain.2 = finished.2) ∧
      ∀ step message, FailsAt args text step message →
        finished.1.Failed (step.announcement ++ message) ∧ finished.2 = tree := by
  have hread := readText_access hfile htext
  refine ⟨readCommand_spelling args, makes_or_failsAt args text, ?_⟩
  intro arguments harguments finished plain
  have hfinished : finished = runGenerate FileTree.access args tree :=
    run_generate tree harguments
  have hplain : plain = runGenerate FileTree.access args.unvalidated tree :=
    run_generate tree (readCommand_spelling args.unvalidated)
  rw [hfinished, hplain]
  refine ⟨?prints, ?saves, ?unsaved, ?unvalidated, ?fails⟩
  case prints =>
    intro code hmakes hout
    obtain ⟨transcript, hrun, hexit, houtput⟩ := runGenerate_prints hread hmakes hout
    rw [hrun]
    exact ⟨hexit, houtput, rfl⟩
  case saves =>
    intro code path hmakes hout hwrite
    obtain ⟨transcript, hrun, hsaves⟩ :=
      runGenerate_saves hread hmakes hout (Prod.ext hwrite rfl)
    rw [hrun]
    exact hsaves
  case unsaved =>
    intro code path error hmakes hout hwrite
    obtain ⟨transcript, hrun, hfailed⟩ :=
      runGenerate_unsaved hread hmakes hout (Prod.ext hwrite rfl)
    rw [hrun]
    exact hfailed
  case unvalidated =>
    intro code hmakes
    exact runGenerate_unvalidated hread hmakes
  case fails =>
    intro step message hfails
    obtain ⟨transcript, hrun, hfailed⟩ := runGenerate_fails hread hfails
    rw [hrun]
    exact ⟨hfailed, rfl⟩

/-- An input that is generated and written, and the same document without a name for
its component. -/
theorem generate_runs_steps_form :
    let text := r#"{"nodes":[{"id":"1","type":"input"}]}"#
    let tree := (FileTree.empty ["work"]).set ["work", "d.json"] (.file (Utf8.encode text))
    let named := run FileTree.access ["generate", "d.json", "-n", "Form", "-o", "Form.tsx"]
      tree
    let unnamed := run FileTree.access ["generate", "d.json", "--no-hooks"] tree
    (∃ code, Saves tree "Form.tsx" (Utf8.encode code) named.1 named.2) ∧
      unnamed.1.Failed
        ("Code generation failed: " ++ GenerationError.missingComponentName.message) ∧
      unnamed.2 = tree := by
  intro text tree named unnamed
  have htext : Utf8.decode (Utf8.encode text) = .ok text := Utf8.decode_encode text
  let document : Editor.Document := { nodes := [{ id := "1", typeTag := "input" }] }
  let diagram : Diagram := { nodes := [{ id := "1", kind := .input }], edges := [] }
  have hdocument : Editor.Document.ofText text = .ok document := by
    decide +kernel
  have hdiagram : document.toDiagram = .ok diagram := by
    decide +kernel
  have hreaches (args : GenerateArgs) :
      Reaches args text (effectiveSettings args document) diagram :=
    reaches_iff.2 ⟨document, hdocument, hdiagram, rfl⟩
  constructor
  · let args : GenerateArgs :=
      { path := "d.json", componentName := some "Form", out := some "Form.tsx" }
    have hfile : tree.read args.path = .ok (Utf8.encode text) := by
      decide +kernel
    let code := Fragment.render
      (Component.assemble "Form" (effectiveSettings args document) diagram.nodes [])
    have hcode : Component.ofDiagram (effectiveSettings args document) diagram = .ok code := by
      decide +kernel
    have hmakes : Makes args text code := .intro (hreaches args) hcode nofun
    have hwrite : (tree.write "Form.tsx" (Utf8.encode code)).1 = .ok () := by
      decide +kernel
    obtain ⟨-, -, hruns⟩ := generate_runs_steps hfile htext
    obtain ⟨-, hsaves, -⟩ := hruns ["generate", "d.json", "-n", "Form", "-o", "Form.tsx"]
      (by decide +kernel)
    exact ⟨code, hsaves code "Form.tsx" hmakes rfl hwrite⟩
  · let args : GenerateArgs := { path := "d.json", noHooks := true }
    have hfile : tree.read args.path = .ok (Utf8.encode text) := by
      decide +kernel
    obtain ⟨-, -, hruns⟩ := generate_runs_steps hfile htext
    obtain ⟨-, -, -, -, hfails⟩ := hruns ["generate", "d.json", "--no-hooks"]
      (by decide +kernel)
    have hcode : Component.ofDiagram (effectiveSettings args document) diagram =
        .error .missingComponentName := by
      decide +kernel
    exact hfails .generate _ (.generate (hreaches args) hcode)

end CommandLine

end Wireform
