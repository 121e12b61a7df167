import Mathlib
import Wireform.Compilation

/-!
# Outcomes of a compilation

A compilation has four ends: it has no name to go by, its source has faults, its file
cannot be written, or it succeeds.  Each end fills in all fields of the outcome and
closes the log with a line of its own.  Which end is reached depends on the name, the
faults and what comes of writing, and on nothing else.
-/

namespace Wireform.Compilation

variable {name source : String} {directory : Option String}
  {found : List Syntax.Diagnostic}

/-! ## The ends -/

section Ends

variable {m : Type → Type} [Monad m] {files : FileAccess m}

/-- Without a name nothing is looked at. -/
theorem ofDiagnostics_of_isBlank (hname : Text.isBlank name = true) :
    ofDiagnostics files directory source name found =
      pure (failed .missingComponentName []) := by
  unfold ofDiagnostics
  rw [if_pos hname]

/-- Source with faults is not written. -/
theorem ofDiagnostics_cons (first : Syntax.Diagnostic) (rest : List Syntax.Diagnostic)
    (hname : Text.isBlank name = false) :
    ofDiagnostics files directory source name (first :: rest) =
      pure (failed (.badSyntax first.line first.column)
        (startLine name :: (first :: rest).map faultLine)) := by
  unfold ofDiagnostics
  rw [hname]
  rfl

/-- What valid source comes to, after the attempt to write it. -/
def concluded (source name : String) : Except CompileError (Option String) → Compilation
  | .error error => failed error (validLines name)
  | .ok none => succeeded source (validLines name)
  | .ok (some path) => succeeded source (validLines name ++ ["Code written to " ++ path])

theorem ofDiagnostics_nil (hname : Text.isBlank name = false) :
    ofDiagnostics files directory source name [] =
      (do return concluded source name (← writeOutput files directory source name)) := by
  unfold ofDiagnostics
  rw [hname]
  refine bind_congr fun written => ?_
  rcases written with error | _ | path <;> rfl

/-- Without a name, or with faults, a compilation fails before anything is written. -/
theorem exists_eq_pure_failed (hends : Text.isBlank name = true ∨ found ≠ []) :
    ∃ error logs, ofDiagnostics files directory source name found =
      pure (failed error logs) := by
  cases hname : Text.isBlank name with
  | true => exact ⟨_, _, ofDiagnostics_of_isBlank hname⟩
  | false =>
    cases found with
    | nil => simp [hname] at hends
    | cons first rest => exact ⟨_, _, ofDiagnostics_cons first rest hname⟩

end Ends

/-! ## Writing -/

section Writing

variable {σ : Type} {files : FileAccess (StateM σ)} {world : σ}

/-- Whether the directory is made and the file written to it, if there is one. -/
def WriteSucceeds (files : FileAccess (StateM σ)) (directory : Option String)
    (source name : String) (world : σ) : Prop :=
  ∀ path, directory = some path →
    (files.makeDirectories path world).1 = .ok () ∧
      (files.writeText (joinPath path (fileName name)) source
        (files.makeDirectories path world).2).1 = .ok ()

/-- The path of the file for a component, if there is a directory for it. -/
def outputPath (directory : Option String) (name : String) : Option String :=
  directory.map (joinPath · (fileName name))

theorem run_bind {α β : Type} (first : StateM σ α) (next : α → StateM σ β) (state : σ) :
    (first >>= next) state = next (first state).1 (first state).2 := rfl

theorem writeOutput_of_writeSucceeds
    (hwrite : WriteSucceeds files directory source name world) :
    (writeOutput files directory source name world).1 = .ok (outputPath directory name) := by
  cases directory with
  | none => rfl
  | some path =>
    obtain ⟨hmade, hwritten⟩ := hwrite path rfl
    unfold writeOutput
    simp only [run_bind, hmade, hwritten]
    rfl

theorem exists_error_of_not_writeSucceeds
    (hwrite : ¬ WriteSucceeds files directory source name world) :
    ∃ error, (writeOutput files directory source name world).1 = .error error := by
  cases directory with
  | none => exact absurd nofun hwrite
  | some path =>
    unfold writeOutput
    simp only [run_bind]
    cases hmade : (files.makeDirectories path world).1 with
    | error error => exact ⟨_, rfl⟩
    | ok made =>
      simp only [run_bind]
      cases hwritten : (files.writeText (joinPath path (fileName name)) source
          (files.makeDirectories path world).2).1 with
      | error error => exact ⟨_, rfl⟩
      | ok done =>
        refine absurd ?_ hwrite
        rintro _ ⟨⟩
        exact ⟨hmade, hwritten⟩

end Writing

/-! ## Consistency -/

section Consistency

variable {σ : Type} (files : FileAccess (StateM σ)) (directory : Option String)
  (source name : String) (world : σ)

/-- The outcome of a success. -/
theorem outcome_of_writeSucceeds (hname : Text.isBlank name = false)
    (hwrite : WriteSucceeds files directory source name world) :
    (ofDiagnostics files directory source name [] world).1 =
      concluded source name (.ok (outputPath directory name)) := by
  rw [ofDiagnostics_nil hname, run_bind, writeOutput_of_writeSucceeds hwrite]
  rfl

/-- Everything else is a failure. -/
theorem exists_failed {found : List Syntax.Diagnostic}
    (hnot : ¬ (Text.isBlank name = false ∧ found = [] ∧
      WriteSucceeds files directory source name world)) :
    ∃ error logs, (ofDiagnostics files directory source name found world).1 =
      failed error logs := by
  by_cases hends : Text.isBlank name = true ∨ found ≠ []
  · have hpure : ∃ error logs, ofDiagnostics files directory source name found =
        pure (failed error logs) := exists_eq_pure_failed hends
    obtain ⟨error, logs, hfailed⟩ := hpure
    rw [hfailed]
    exact ⟨error, logs, rfl⟩
  · obtain ⟨hname, hfound⟩ := not_or.1 hends
    have hname : Text.isBlank name = false := by simpa using hname
    obtain rfl : found = [] := by simpa using hfound
    have hwrite : ¬ WriteSucceeds files directory source name world := fun hwrite =>
      hnot ⟨hname, rfl, hwrite⟩
    obtain ⟨error, herror⟩ := exists_error_of_not_writeSucceeds hwrite
    rw [ofDiagnostics_nil hname, run_bind, herror]
    exact ⟨_, _, rfl⟩

theorem success_concluded (written : Option String) :
    (concluded source name (.ok written)).success = true := by
  cases written <;> rfl

/-- The fields of the outcome fit each other and the way in which it came about.  A
compilation succeeds exactly when there is a name, there are no faults, and the file
is written if there is a directory for it.  Then the output is the source and the log
tells each step.  Otherwise there is an error and no output, and the log ends with the
error.  Faults are logged one by one, and the error gives the place of the first. -/
theorem outcome_consistent (found : List Syntax.Diagnostic) :
    let result := (ofDiagnostics files directory source name found world).1
    run files directory source name =
        ofDiagnostics files directory source name (diagnostics source) ∧
      (result.success = true ↔
        Text.isBlank name = false ∧ found = [] ∧
          WriteSucceeds files directory source name world) ∧
      (result.success = true →
        result.output = some source ∧ result.error = none ∧
          result.logs =
            ["Starting compilation for " ++ name ++ "...", "TSX parse successful",
              "Component " ++ name ++ " generated successfully"] ++
            ((outputPath directory name).map ("Code written to " ++ ·)).toList ++
            ["Component ready for testing"]) ∧
      (result.success = false →
        result.output = none ∧ ∃ message, result.error = some message ∧
          result.logs.getLast? = some ("Compilation failed: " ++ message)) ∧
      ∀ first rest, Text.isBlank name = false → found = first :: rest →
        let message := "Syntax error at line " ++ toString first.line ++ ", column " ++
          toString first.column
        result.error = some message ∧
          result.logs =
            ["Starting compilation for " ++ name ++ "..."] ++ found.map faultLine ++
            ["Compilation failed: " ++ message] := by
  intro result
  have hfaults : ∀ first rest, Text.isBlank name = false → found = first :: rest →
      result = failed (.badSyntax first.line first.column)
        (startLine name :: found.map faultLine) := by
    rintro first rest hname rfl
    change (ofDiagnostics files directory source name (first :: rest) world).1 = _
    rw [ofDiagnostics_cons first rest hname]
    rfl
  by_cases hends : Text.isBlank name = false ∧ found = [] ∧
      WriteSucceeds files directory source name world
  · obtain ⟨hname, rfl, hwrite⟩ := hends
    have hresult : result = concluded source name (.ok (outputPath directory name)) :=
      outcome_of_writeSucceeds files directory source name world hname hwrite
    have hsuccess : result.success = true := by rw [hresult, success_concluded]
    refine ⟨rfl, iff_of_true hsuccess ⟨hname, rfl, hwrite⟩, fun _ => ?_, ?_, nofun⟩
    · rw [hresult]
      cases directory <;> exact ⟨rfl, rfl, rfl⟩
    · rw [hsuccess]
      exact nofun
  · obtain ⟨error, logs, hresult⟩ :=
      exists_failed files directory source name world hends
    have hresult : result = failed error logs := hresult
    have hsuccess : result.success = false := by rw [hresult]; rfl
    refine ⟨rfl, iff_of_false (by simp [hsuccess]) hends, ?_, fun _ => ?_, ?_⟩
    · rw [hsuccess]
      exact nofun
    · rw [hresult]
      exact ⟨rfl, error.message, rfl, List.getLast?_concat ..⟩
    · intro first rest hname hfound
      rw [hfaults first rest hname hfound]
      exact ⟨rfl, rfl⟩

end Consistency

end Wireform.Compilation
