import Mathlib
import Wireform.Proofs.Artifact.Utf8
import Wireform.Proofs.Compilation.Outcome
import Wireform.Proofs.Files.Paths

/-!
# Confinement of a compilation

The name of a component may be any text, but the file for it has a plain name, so it is
a child of the output directory.  Apart from this file a compilation adds nothing but
the directories on the way to it, and without a name or with faults in the source it
adds nothing at all.
-/

namespace Wireform

open FileTree

namespace FileTree

variable {tree : FileTree} {directory name path : String} {bytes : List UInt8}

/-- A write changes nothing, or it puts a file at the place that its path leads to. -/
theorem write_cases (tree : FileTree) (path : String) (bytes : List UInt8) :
    (tree.write path bytes).2 = tree ∨
      ∃ place, tree.locate path = .ok place ∧ tree.entry place ≠ some .directory ∧
        (tree.write path bytes).2 = tree.set place (.file bytes) := by
  unfold write
  split
  · exact .inl rfl
  · rename_i place hlocate
    split
    · exact .inl rfl
    · exact .inl rfl
    · rename_i hdirectory _
      split
      · exact .inl rfl
      · exact .inr ⟨place, hlocate, hdirectory, rfl⟩

/-- What may become of a tree when a file is written to a directory: the file is put
into the directory if it is put anywhere, and the directories on the way are made. -/
structure WritesInto (tree after : FileTree) (directory name : String)
    (bytes : List UInt8) (written : Option Place) : Prop where
  current : after.current = tree.current
  child : ∀ place ∈ written, ∃ above, after.LeadsTo directory above ∧
    place = above ++ [name] ∧ after.entry place = some (.file bytes)
  others : ∀ place, place ∉ written → after.entry place = tree.entry place ∨
    tree.entry place = none ∧ after.entry place = some .directory ∧
      place ∈ way (tree.start directory) (pathNames directory)

theorem WritesInto.refl (tree : FileTree) (directory name : String)
    (bytes : List UInt8) : tree.WritesInto tree directory name bytes none :=
  ⟨rfl, nofun, fun _ _ => .inl rfl⟩

theorem writesInto_makeDirectories (tree : FileTree) (directory name : String)
    (bytes : List UInt8) :
    tree.WritesInto (tree.makeDirectories directory).2 directory name bytes none where
  current := (extends_makeDirectories tree directory).current
  child := nofun
  others place _ := (extends_makeDirectories tree directory).entry place

/-- A file with a plain name that is written once its directory has been made. -/
theorem exists_writesInto (hname : IsPlain name) (tree : FileTree) (directory : String)
    (bytes : List UInt8) :
    ∃ written, tree.WritesInto
      ((tree.makeDirectories directory).2.write (joinPath directory name) bytes).2
      directory name bytes written := by
  obtain ⟨hcurrent, hentry⟩ := extends_makeDirectories tree directory
  generalize (tree.makeDirectories directory).2 = made at hcurrent hentry ⊢
  rcases made.write_cases (joinPath directory name) bytes with
    hwrite | ⟨place, hlocate, hplace, hwrite⟩
  · rw [hwrite]
    exact ⟨none, hcurrent, nofun, fun place _ => hentry place⟩
  · rw [hwrite]
    refine ⟨some place, hcurrent, ?_, ?_⟩
    · rintro _ ⟨⟩
      obtain ⟨above, hleads, hchild⟩ := leadsTo_of_locate hname (locate_set hlocate hplace)
      exact ⟨above, hleads, hchild, entry_set_same made place _⟩
    · intro other hother
      have hne : other ≠ place := fun heq => hother (heq ▸ rfl)
      rw [entry_set_of_ne made _ hne]
      exact hentry other

end FileTree

namespace Compilation

variable {name : String}

/-- The file name for a component is plain, whatever its name is. -/
theorem isPlain_fileName (name : String) : IsPlain (fileName name) := by
  have hchars : (fileName name).toList =
      name.toList.filter (fun c => Unicode.isAlphanumeric c || c = '_') ++ ".tsx".toList := by
    rw [fileName, String.toList_append, Text.onChars, String.toList_ofList]
  have hlength : 4 ≤ (fileName name).toList.length := by
    rw [hchars, List.length_append]
    exact Nat.le_add_left ..
  have hne {text : String} (htext : text.toList.length < 4) : fileName name ≠ text := by
    rintro rfl
    omega
  refine ⟨?_, hne (by decide), hne (by decide), hne (by decide)⟩
  rw [hchars, List.mem_append, List.mem_filter, not_or]
  exact ⟨fun hslash => absurd hslash.2 (by decide +kernel), by decide⟩

section Access

variable (tree : FileTree) (directory source name : String)

theorem exists_writesInto_writeOutput :
    ∃ written, tree.WritesInto
      (writeOutput FileTree.access (some directory) source name tree).2
      directory (fileName name) (Utf8.encode source) written := by
  have hmade : FileTree.access.makeDirectories directory tree =
      tree.makeDirectories directory := rfl
  unfold writeOutput
  simp only [run_bind, hmade]
  cases (tree.makeDirectories directory).1 with
  | error error => exact ⟨none, writesInto_makeDirectories ..⟩
  | ok done =>
    obtain ⟨written, hwritten⟩ := exists_writesInto (isPlain_fileName name) tree directory
      (Utf8.encode source)
    refine ⟨written, ?_⟩
    simp only [run_bind]
    -- Whether or not the file is written, the tree is left as the write leaves it.
    cases (FileTree.access.writeText (joinPath directory (fileName name)) source
      (tree.makeDirectories directory).2).1 <;> exact hwritten

/-- Writing that succeeds leaves the file with the source in it. -/
theorem read_writeOutput {source : String} (hsource : source ≠ "")
    (hwrite : WriteSucceeds FileTree.access (some directory) source name tree) :
    (writeOutput FileTree.access (some directory) source name tree).2.read
      (joinPath directory (fileName name)) = .ok (Utf8.encode source) := by
  obtain ⟨hmade, hwritten⟩ := hwrite directory rfl
  unfold writeOutput
  simp only [run_bind, hmade, hwritten]
  exact read_of_write (Prod.ext hwritten rfl) (Utf8.encode_ne_nil hsource)

end Access

/-- A compilation keeps to its output directory.  It makes the directory as far as it
is missing, and it writes at most one file, a child of the directory that is named
after the letters, digits and underscores of the component's name and holds the source.
Nothing at all is changed without a name or with faults in the source. -/
theorem compilation_confined (tree : FileTree) (directory source name : String) :
    let stem := String.ofList
      (name.toList.filter fun c => Unicode.isAlphanumeric c || c = '_')
    let compiled := run FileTree.access (some directory) source name tree
    (∃ written : Option Place,
      (∀ place ∈ written, ∃ above, compiled.2.LeadsTo directory above ∧
        place = above ++ [stem ++ ".tsx"] ∧
        compiled.2.entry place = some (.file (Utf8.encode source))) ∧
      ∀ place, place ∉ written → compiled.2.entry place = tree.entry place ∨
        tree.entry place = none ∧ compiled.2.entry place = some .directory ∧
          place ∈ way (tree.start directory) (pathNames directory)) ∧
    compiled.2.current = tree.current ∧
    (compiled.1.success = true → source ≠ "" →
      compiled.2.read (joinPath directory (stem ++ ".tsx")) = .ok (Utf8.encode source)) ∧
    (Text.isBlank name = true ∨ diagnostics source ≠ [] →
      compiled.1.success = false ∧ compiled.2 = tree) := by
  intro stem compiled
  suffices hmain : (∃ written, tree.WritesInto compiled.2 directory (fileName name)
        (Utf8.encode source) written) ∧
      (compiled.1.success = true → source ≠ "" →
        compiled.2.read (joinPath directory (fileName name)) = .ok (Utf8.encode source)) ∧
      (Text.isBlank name = true ∨ diagnostics source ≠ [] →
        compiled.1.success = false ∧ compiled.2 = tree) by
    obtain ⟨⟨written, hcurrent, hchild, hothers⟩, hrest⟩ := hmain
    exact ⟨⟨written, hchild, hothers⟩, hcurrent, hrest⟩
  have hcompiled : compiled =
      ofDiagnostics FileTree.access (some directory) source name (diagnostics source) tree :=
    rfl
  rw [hcompiled]
  by_cases hends : Text.isBlank name = true ∨ diagnostics source ≠ []
  · have hpure : ∃ error logs, ofDiagnostics FileTree.access (some directory) source name
        (diagnostics source) = pure (failed error logs) := exists_eq_pure_failed hends
    obtain ⟨error, logs, hfailed⟩ := hpure
    rw [hfailed]
    exact ⟨⟨none, .refl ..⟩, nofun, fun _ => ⟨rfl, rfl⟩⟩
  · obtain ⟨hname, hfound⟩ := not_or.1 hends
    have hname : Text.isBlank name = false := by simpa using hname
    have hfound : diagnostics source = [] := by simpa using hfound
    refine ⟨?_, fun hsuccess hsource => ?_, fun hends' => absurd hends' hends⟩
    · rw [hfound, ofDiagnostics_nil hname, run_bind]
      exact exists_writesInto_writeOutput ..
    · rw [hfound] at hsuccess ⊢
      by_cases hwrite : WriteSucceeds FileTree.access (some directory) source name tree
      · rw [ofDiagnostics_nil hname, run_bind]
        exact read_writeOutput tree directory name hsource hwrite
      · obtain ⟨error, logs, hfailed⟩ := exists_failed FileTree.access (some directory)
          source name tree fun hends => hwrite hends.2.2
        rw [hfailed] at hsuccess
        cases hsuccess

end Compilation

end Wireform
