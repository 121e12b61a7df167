import Mathlib
import Wireform.Files

/-!
# Files that are written

A successful write puts a file at the place that its path leads to, and nowhere
else.  The way to that place leads through directories only, so it is the same
afterwards, and the file holds what was written.
-/

namespace Wireform.FileTree

variable {tree after : FileTree} {path : String} {place target : Place}
  {bytes : List UInt8}

@[simp]
theorem entry_set_same (tree : FileTree) (place : Place) (entry : Entry) :
    (tree.set place entry).entry place = some entry := by
  simp [set]

theorem entry_set_of_ne {other : Place} (tree : FileTree) (entry : Entry)
    (hne : other ≠ place) : (tree.set place entry).entry other = tree.entry other := by
  simp [set, hne]

/-- An entry at the end of a way that is no directory is not on the way. -/
theorem walk_set {names : List String} {entry : Entry}
    (hwalk : tree.walk place names = .ok target)
    (htarget : tree.entry target ≠ some .directory) :
    (tree.set target entry).walk place names = .ok target := by
  induction names generalizing place with
  | nil => exact hwalk
  | cons name rest ih =>
    rw [walk] at hwalk
    cases hplace : tree.entry place with
    | none => simp [hplace] at hwalk
    | some found =>
      cases found with
      | file bytes => simp [hplace] at hwalk
      | full => simp [hplace] at hwalk
      | directory =>
        -- A place on the way is a directory, so it keeps its entry.
        have hne : place ≠ target := by
          rintro rfl
          exact htarget hplace
        simp only [hplace] at hwalk
        rw [walk, entry_set_of_ne tree entry hne, hplace]
        simp only
        split
        · rename_i hlong
          simp [hlong] at hwalk
        · rename_i hshort
          rw [if_neg hshort] at hwalk
          exact ih hwalk

theorem locate_set {entry : Entry} (hlocate : tree.locate path = .ok target)
    (htarget : tree.entry target ≠ some .directory) :
    (tree.set target entry).locate path = .ok target := by
  unfold locate at hlocate ⊢
  split at hlocate
  · cases hlocate
  · split at hlocate
    · cases hlocate
    · rename_i hnul hempty
      rw [if_neg hnul, if_neg hempty]
      exact walk_set hlocate htarget

/-- What a successful write of some bytes does. -/
theorem write_eq_ok (hwrite : tree.write path bytes = (.ok (), after))
    (hbytes : bytes ≠ []) :
    ∃ place, tree.locate path = .ok place ∧ tree.entry place ≠ some .directory ∧
      wantsDirectory path = false ∧ after = tree.set place (.file bytes) := by
  unfold write at hwrite
  cases hlocate : tree.locate path with
  | error error => simp [hlocate] at hwrite
  | ok place =>
    simp only [hlocate] at hwrite
    cases hplace : tree.entry place with
    | none =>
      cases hdirectory : wantsDirectory path with
      | true => simp [hplace, hdirectory] at hwrite
      | false =>
        simp only [hplace, hdirectory, Bool.false_eq_true, if_false, Prod.mk.injEq,
          true_and] at hwrite
        exact ⟨place, rfl, by simp [hplace], rfl, hwrite.symm⟩
    | some found =>
      cases found with
      | directory => simp [hplace] at hwrite
      | full => simp [hplace, hbytes] at hwrite
      | file bytes =>
        cases hdirectory : wantsDirectory path with
        | true => simp [hplace, hdirectory] at hwrite
        | false =>
          simp only [hplace, hdirectory, Bool.false_eq_true, if_false, Prod.mk.injEq,
            true_and] at hwrite
          exact ⟨place, rfl, by simp [hplace], rfl, hwrite.symm⟩

/-- A file that was written holds what was written. -/
theorem read_of_write (hwrite : tree.write path bytes = (.ok (), after))
    (hbytes : bytes ≠ []) : after.read path = .ok bytes := by
  obtain ⟨place, hlocate, hplace, hdirectory, rfl⟩ := write_eq_ok hwrite hbytes
  have hlocate' : (tree.set place (.file bytes)).locate path = .ok place :=
    locate_set hlocate hplace
  simp [read, hlocate', hdirectory, bind, Except.bind, pure, Except.pure]

end Wireform.FileTree
