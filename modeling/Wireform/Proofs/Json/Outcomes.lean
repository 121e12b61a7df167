import Mathlib
import Wireform.Proofs.Json.Skipping

/-!
# Outcomes of readers

A reader may refuse a text wherever it stands, go on as another reader further on, or do
one or the other: refuse the text, or read it up to a known end.
-/

namespace Wireform.Json

variable {α β : Type} {text tail rest : List Char} {value : α}

namespace Reader

/-! ## Rejection -/

/-- A reader does not succeed on a text, wherever the text stands. -/
def Rejects (reader : Reader α) (text : List Char) : Prop :=
  ∀ mark value after, reader ⟨text, mark⟩ ≠ .ok value after

/-- A reader does on a text what another one does on the rest of it. -/
def GoesOn (reader : Reader α) (text : List Char) (later : Reader α)
    (rest : List Char) : Prop :=
  ∀ mark, ∃ between, reader ⟨text, mark⟩ = later ⟨rest, between⟩

variable {reader later : Reader α} {middle : List Char}

theorem Fails.rejects (hfails : Fails reader) (text : List Char) : Rejects reader text :=
  fun _ _ _ => hfails _ _ _

theorem Rejects.bind {f : α → Reader β} (hreader : Rejects reader text) :
    Rejects (reader >>= f) text := by
  intro mark result after hok
  obtain ⟨value, between, hvalue, -⟩ := bind_eq_ok hok
  exact hreader mark value between hvalue

theorem Rejects.placed (hreader : Rejects reader text) : Rejects (placed reader) text := by
  intro mark value after hok
  unfold Reader.placed at hok
  split at hok
  · exact hreader mark _ _ ‹_›
  · cases hok

theorem Rejects.thenAlways {last : Reader Unit} (hreader : Rejects reader text) :
    Rejects (thenAlways reader last) text := by
  intro mark value after hok
  unfold Reader.thenAlways at hok
  split at hok
  · exact hreader mark _ _ ‹_›
  · split at hok <;> cases hok

theorem Rejects.remaining {f : Nat → Reader α} (hreader : Rejects (f text.length) text) :
    Rejects (remaining >>= f) text := fun mark => hreader mark

theorem peekToken_of_startsSolid (htext : startsSolid text = true) (mark : Mark) :
    peekToken ⟨text, mark⟩ = .ok text.head? ⟨text, mark⟩ := by
  rw [peekToken, skipSpaceFrom_of_startsSolid htext]

theorem Rejects.peekToken {f : Option Char → Reader α} (htext : startsSolid text = true)
    (hreader : Rejects (f text.head?) text) : Rejects (peekToken >>= f) text := by
  intro mark value after hok
  rw [bind_of_ok (peekToken_of_startsSolid htext mark)] at hok
  exact hreader mark value after hok

theorem GoesOn.reads (hgoes : GoesOn reader text later middle)
    (hlater : Reads later middle value rest) : Reads reader text value rest := by
  intro mark
  obtain ⟨between, hbetween⟩ := hgoes mark
  obtain ⟨after, hafter⟩ := hlater between
  exact ⟨after, hbetween.trans hafter⟩

theorem GoesOn.rejects (hgoes : GoesOn reader text later middle)
    (hlater : Rejects later middle) : Rejects reader text := by
  intro mark value after hok
  obtain ⟨between, hbetween⟩ := hgoes mark
  exact hlater between value after (hbetween.symm.trans hok)

theorem GoesOn.refl : GoesOn reader text reader text := fun mark => ⟨mark, rfl⟩

theorem GoesOn.trans {last : Reader α} (hgoes : GoesOn reader text later middle)
    (hlater : GoesOn later middle last rest) : GoesOn reader text last rest := by
  intro mark
  obtain ⟨between, hbetween⟩ := hgoes mark
  obtain ⟨after, hafter⟩ := hlater between
  exact ⟨after, hbetween.trans hafter⟩

/-- What follows the first reader of a sequence goes on where that one stops. -/
theorem Reads.goesOn {f : α → Reader β} (hreader : Reads reader text value rest) :
    GoesOn (reader >>= f) text (f value) rest := by
  intro mark
  obtain ⟨between, hbetween⟩ := hreader mark
  exact ⟨between, bind_of_ok hbetween⟩

/-! ## White space in front -/

theorem startsSolid_dropWhile (text : List Char) (htail : startsSolid tail = true) :
    startsSolid (text.dropWhile isSpace ++ tail) = true := by
  refine startsSolid_append ?_ htail
  cases htext : text.dropWhile isSpace with
  | nil => rfl
  | cons c more =>
    have hc := List.head?_dropWhile_not isSpace text
    rw [htext] at hc
    simpa [startsSolid] using hc

/-- What comes next is seen behind all white space in front of it. -/
theorem goesOn_peekToken {f : Option Char → Reader α} {gap : List Char}
    (hgap : gap.all isSpace = true) (text : List Char) (htail : startsSolid tail = true) :
    GoesOn (peekToken >>= f) (gap ++ (text ++ tail))
      (f (text.dropWhile isSpace ++ tail).head?) (text.dropWhile isSpace ++ tail) := by
  intro mark
  have hgaps : (gap ++ text.takeWhile isSpace).all isSpace = true := by
    rw [List.all_append, hgap, List.all_takeWhile]
    rfl
  have htext : gap ++ (text ++ tail) =
      gap ++ text.takeWhile isSpace ++ (text.dropWhile isSpace ++ tail) := by
    rw [List.append_assoc, ← List.append_assoc (text.takeWhile isSpace),
      List.takeWhile_append_dropWhile]
  obtain ⟨between, hbetween⟩ := skipSpaceFrom_append hgaps
    (startsSolid_dropWhile text htail) mark
  refine ⟨between, bind_of_ok ?_⟩
  rw [peekToken, htext, hbetween]

/-- White space in front of the next token makes no difference. -/
theorem goesOn_afterSpace {f : Option Char → Reader α} (text : List Char)
    (htail : startsSolid tail = true) :
    GoesOn (peekToken >>= f) (text ++ tail) (peekToken >>= f)
      (text.dropWhile isSpace ++ tail) := by
  intro mark
  have hempty : ([] : List Char).all isSpace = true := rfl
  obtain ⟨between, hbetween⟩ := goesOn_peekToken (f := f) hempty text htail mark
  exact ⟨between, hbetween.trans
    (bind_of_ok (peekToken_of_startsSolid (startsSolid_dropWhile text htail) between)).symm⟩

/-! ## Settling -/

/-- A reader either rejects a text, or reads it up to `rest` with a value of some kind. -/
def Settles (reader : Reader α) (text rest : List Char)
    (kind : α → Prop := fun _ => True) : Prop :=
  Rejects reader text ∨ ∃ value, kind value ∧ Reads reader text value rest

section Settling

variable {kind : α → Prop}

theorem Fails.settles (hfails : Fails reader) : Settles reader text rest kind :=
  .inl (hfails.rejects text)

theorem Reads.settles (hreader : Reads reader text value rest) : Settles reader text rest :=
  .inr ⟨value, trivial, hreader⟩

theorem GoesOn.settles (hgoes : GoesOn reader text later middle)
    (hlater : Settles later middle rest kind) : Settles reader text rest kind := by
  obtain hrejects | ⟨value, hkind, hreads⟩ := hlater
  · exact .inl (hgoes.rejects hrejects)
  · exact .inr ⟨value, hkind, hgoes.reads hreads⟩

theorem Settles.bind {f : α → Reader β} {kindLast : β → Prop}
    (hfirst : Settles reader text middle kind)
    (hlast : ∀ value, kind value → Settles (f value) middle rest kindLast) :
    Settles (reader >>= f) text rest kindLast := by
  obtain hrejects | ⟨value, hkind, hreads⟩ := hfirst
  · exact .inl hrejects.bind
  · exact hreads.goesOn.settles (hlast value hkind)

/-- A text is rejected when its rest is rejected after whatever stands in front of it. -/
theorem Settles.rejects {f : α → Reader β} (hfirst : Settles reader text middle kind)
    (hlast : ∀ value, kind value → Rejects (f value) middle) :
    Rejects (reader >>= f) text := by
  obtain hrejects | ⟨value, hkind, hreads⟩ := hfirst
  · exact hrejects.bind
  · exact hreads.goesOn.rejects (hlast value hkind)

theorem Settles.placed (hreader : Settles reader text rest kind) :
    Settles (Reader.placed reader) text rest kind := by
  obtain hrejects | ⟨value, hkind, hreads⟩ := hreader
  · exact .inl hrejects.placed
  · exact .inr ⟨value, hkind, hreads.placed⟩

theorem Settles.thenAlways {last : Reader Unit} (hreader : Settles reader text middle kind)
    (hlast : Reads last middle () rest) :
    Settles (Reader.thenAlways reader last) text rest kind := by
  obtain hrejects | ⟨value, hkind, hreads⟩ := hreader
  · exact .inl hrejects.thenAlways
  · exact .inr ⟨value, hkind, hreads.thenAlways hlast⟩

theorem Settles.remaining {f : Nat → Reader α}
    (hreader : Settles (f text.length) text rest kind) :
    Settles (Reader.remaining >>= f) text rest kind := by
  obtain hrejects | ⟨value, hkind, hreads⟩ := hreader
  · exact .inl (Rejects.remaining hrejects)
  · exact .inr ⟨value, hkind, Reads.remaining hreads⟩

theorem Settles.peekToken {f : Option Char → Reader α} (htext : startsSolid text = true)
    (hreader : Settles (f text.head?) text rest kind) :
    Settles (Reader.peekToken >>= f) text rest kind := by
  obtain hrejects | ⟨value, hkind, hreads⟩ := hreader
  · exact .inl (Rejects.peekToken htext hrejects)
  · exact .inr ⟨value, hkind, Reads.peekToken htext hreads⟩

end Settling

end Reader

end Wireform.Json
