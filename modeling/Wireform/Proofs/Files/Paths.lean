import Mathlib
import Wireform.Proofs.Files.Writing

/-!
# Paths below a directory

A plain name behind the path of a directory leads to a child of the directory,
whatever the path is made of.  Making the directory adds only directories, and only on
the way to it.
-/

namespace Wireform.FileTree

variable {tree : FileTree} {directory name : String} {place target : Place}

/-! ## Names of a path -/

theorem splitSlashes_ne_nil (text : List Char) : splitSlashes text ≠ [] := by
  cases text with
  | nil => simp [splitSlashes]
  | cons c rest =>
    rw [splitSlashes]
    split
    · simp
    · split <;> simp

theorem splitSlashes_of_not_mem {text : List Char} (hslash : '/' ∉ text) :
    splitSlashes text = [text] := by
  induction text with
  | nil => rfl
  | cons c rest ih =>
    obtain ⟨hc, hrest⟩ := not_or.1 (mt List.mem_cons.2 hslash)
    rw [splitSlashes, if_neg (Ne.symm hc), ih hrest]

theorem splitSlashes_append (left right : List Char) :
    splitSlashes (left ++ '/' :: right) = splitSlashes left ++ splitSlashes right := by
  induction left with
  | nil => rfl
  | cons c rest ih =>
    rw [List.cons_append, splitSlashes, splitSlashes, ih]
    split
    · rfl
    · cases hparts : splitSlashes rest with
      | nil => exact absurd hparts (splitSlashes_ne_nil rest)
      | cons part parts => rfl

/-- A name that is one part of a path and leads somewhere below it. -/
structure IsPlain (name : String) : Prop where
  noSlash : '/' ∉ name.toList
  notEmpty : name ≠ ""
  notHere : name ≠ "."
  notAbove : name ≠ ".."

/-- A path below a directory has one slash before the name, which may be the last one
of the directory.  The empty path is that of the current directory. -/
theorem joinPath_cases (directory name : String) :
    (directory = "" ∧ joinPath directory name = name) ∨
    ∃ above, (directory.toList = above ∨ directory.toList = above ++ ['/']) ∧
      (joinPath directory name).toList = above ++ '/' :: name.toList ∧ directory ≠ "" := by
  unfold joinPath
  by_cases hempty : directory = ""
  · exact .inl ⟨hempty, by simp [hempty]⟩
  · refine .inr ?_
    by_cases hslash : directory.toList.getLast? = some '/'
    · obtain ⟨above, habove⟩ := List.getLast?_eq_some_iff.1 hslash
      refine ⟨above, .inr habove, ?_, hempty⟩
      simp [habove]
    · refine ⟨directory.toList, .inl rfl, ?_, hempty⟩
      simp [hslash, hempty]

theorem pathNames_joinPath (directory : String) (hname : IsPlain name) :
    pathNames (joinPath directory name) = pathNames directory ++ [name] := by
  have hplain : splitSlashes name.toList = [name.toList] :=
    splitSlashes_of_not_mem hname.noSlash
  rcases joinPath_cases directory name with ⟨rfl, hjoin⟩ | ⟨above, hdirectory, hjoin, -⟩
  · rw [hjoin]
    simp [pathNames, hplain, splitSlashes, hname.notEmpty, hname.notHere]
  · rw [pathNames, hjoin, splitSlashes_append, hplain, pathNames]
    rcases hdirectory with hdirectory | hdirectory
    · simp [hdirectory, hname.notEmpty, hname.notHere]
    · rw [hdirectory, splitSlashes_append]
      simp [splitSlashes, hname.notEmpty, hname.notHere]

theorem start_joinPath (tree : FileTree) (directory : String) (hname : IsPlain name) :
    tree.start (joinPath directory name) = tree.start directory := by
  unfold start
  rcases joinPath_cases directory name with ⟨rfl, hjoin⟩ | ⟨above, hdirectory, hjoin, hne⟩
  · have hhead : name.toList.head? ≠ some '/' := fun hhead =>
      hname.noSlash (List.mem_of_mem_head? hhead)
    rw [hjoin, if_neg hhead]
    rfl
  · suffices hhead : (joinPath directory name).toList.head? = directory.toList.head? by
      rw [hhead]
    rw [hjoin]
    rcases hdirectory with hdirectory | hdirectory
    · cases above with
      | nil => exact absurd (by simpa using hdirectory) hne
      | cons c rest => rw [hdirectory]; rfl
    · rw [hdirectory]
      cases above <;> rfl

/-! ## Ways -/

/-- A path leads to a directory through directories. -/
def LeadsTo (tree : FileTree) (path : String) (place : Place) : Prop :=
  tree.walk (tree.start path) (pathNames path) = .ok place ∧
    tree.entry place = some .directory

/-- The places on the way along names. -/
def way (place : Place) : List String → List Place
  | [] => []
  | name :: rest => enter place name :: way (enter place name) rest

theorem walk_concat {names : List String} (hname : name ≠ "..")
    (hwalk : tree.walk place (names ++ [name]) = .ok target) :
    ∃ above, tree.walk place names = .ok above ∧ tree.entry above = some .directory ∧
      target = above ++ [name] := by
  induction names generalizing place with
  | nil =>
    rw [List.nil_append, walk] at hwalk
    split at hwalk
    · cases hwalk
    · split at hwalk
      · cases hwalk
      · cases hwalk
        exact ⟨place, rfl, ‹_›, by rw [enter, if_neg hname]⟩
    · cases hwalk
  | cons first rest ih =>
    rw [List.cons_append, walk] at hwalk
    rw [walk]
    split at hwalk
    · cases hwalk
    · split at hwalk
      · cases hwalk
      · rename_i hplace hlong
        rw [if_neg hlong]
        exact ih hwalk
    · cases hwalk

/-- A file below a directory is a child of the place that the directory leads to. -/
theorem leadsTo_of_locate (hname : IsPlain name)
    (hlocate : tree.locate (joinPath directory name) = .ok target) :
    ∃ above, tree.LeadsTo directory above ∧ target = above ++ [name] := by
  unfold locate at hlocate
  split at hlocate
  · cases hlocate
  · split at hlocate
    · cases hlocate
    · rw [start_joinPath tree directory hname, pathNames_joinPath directory hname] at hlocate
      obtain ⟨above, hwalk, habove, htarget⟩ := walk_concat hname.notAbove hlocate
      exact ⟨above, ⟨hwalk, habove⟩, htarget⟩

/-! ## Making directories -/

/-- What a tree may gain on the way along names: directories where there was nothing. -/
structure Extends (tree after : FileTree) (places : List Place) : Prop where
  current : after.current = tree.current
  entry : ∀ place, after.entry place = tree.entry place ∨
    tree.entry place = none ∧ after.entry place = some .directory ∧ place ∈ places

theorem Extends.refl (tree : FileTree) (places : List Place) : tree.Extends tree places :=
  ⟨rfl, fun _ => .inl rfl⟩

theorem Extends.mono {after : FileTree} {fewer more : List Place}
    (hextends : tree.Extends after fewer) (hsubset : fewer ⊆ more) :
    tree.Extends after more where
  current := hextends.current
  entry place := (hextends.entry place).imp_right fun ⟨hbefore, hafter, hmem⟩ =>
    ⟨hbefore, hafter, hsubset hmem⟩

/-- A directory where there was nothing, and what follows. -/
theorem Extends.set_directory {after : FileTree} {places : List Place}
    (hplace : tree.entry place = none)
    (hextends : (tree.set place .directory).Extends after places) :
    tree.Extends after (place :: places) where
  current := hextends.current
  entry other := by
    by_cases hother : other = place
    · subst hother
      rcases hextends.entry other with hkept | ⟨hbefore, -⟩
      · rw [entry_set_same] at hkept
        exact .inr ⟨hplace, hkept, List.mem_cons_self⟩
      · rw [entry_set_same] at hbefore
        cases hbefore
    · have hentry := hextends.entry other
      rw [entry_set_of_ne tree _ hother] at hentry
      exact hentry.imp_right fun ⟨hbefore, hafter, hmem⟩ =>
        ⟨hbefore, hafter, List.mem_cons_of_mem place hmem⟩

theorem extends_makeAlong (tree : FileTree) (place : Place) (names : List String) :
    tree.Extends (tree.makeAlong place names).2 (way place names) := by
  induction names generalizing tree place with
  | nil => exact .refl tree _
  | cons name rest ih =>
    rw [makeAlong, way]
    split
    · exact .refl tree _
    · split
      · exact (ih tree _).mono (List.subset_cons_self ..)
      · exact .set_directory ‹_› (ih _ _)
      · exact .refl tree _

theorem extends_makeDirectories (tree : FileTree) (path : String) :
    tree.Extends (tree.makeDirectories path).2 (way (tree.start path) (pathNames path)) := by
  unfold makeDirectories
  split
  · exact .refl tree _
  · exact extends_makeAlong ..

end Wireform.FileTree
