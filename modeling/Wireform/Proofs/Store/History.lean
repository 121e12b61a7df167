import Mathlib
import Wireform.Store

/-!
# The history of a store

A store is what its operations have made of it.  After any list of operations
on a store without contents, each diagram that it still holds is the one that
was created under its number, with the changes that were made to it since; the
store shows no trace of anything else.  What the operations do to the tables is
told first.  No operation poisons a store, so that all of them work on a store
that began without contents.
-/

namespace Wireform

/-- An operation on a store. -/
inductive Operation where
  | createDiagram (new : NewDiagram)
  | getDiagram (id : Nat)
  | listDiagrams
  | updateDiagram (id : Nat) (patch : DiagramPatch)
  | deleteDiagram (id : Nat)
  | createCode (new : NewCodeArtifact)
  | codeForDiagram (diagramId : Nat)
deriving DecidableEq, Repr

namespace Operation

/-- The tables after an operation; the operations that only ask leave them. -/
def effect (tables : Tables) : Operation → Tables
  | createDiagram new => (tables.createDiagram new).2
  | updateDiagram id patch => (tables.updateDiagram id patch).2
  | deleteDiagram id => (tables.deleteDiagram id).2
  | createCode new => (tables.createCode new).2
  | getDiagram _ | listDiagrams | codeForDiagram _ => tables

/-- Whether an operation creates a diagram. -/
def creates : Operation → Bool
  | createDiagram _ => true
  | _ => false

/-- The change that an operation makes to the diagram under a number. -/
def patch? (id : Nat) : Operation → Option DiagramPatch
  | updateDiagram other patch => if other = id then some patch else none
  | _ => none

/-- The code that an operation stores. -/
def saves : Operation → Option NewCodeArtifact
  | createCode new => some new
  | _ => none

end Operation

/-- The tables after some operations on empty ones. -/
def Tables.after (history : List Operation) : Tables :=
  history.foldl Operation.effect {}

theorem Tables.after_concat (history : List Operation) (operation : Operation) :
    Tables.after (history ++ [operation]) =
      operation.effect (Tables.after history) := by
  simp [Tables.after]

/-! ## What a history says about a number -/

/-- The number of diagrams that a history has created. -/
def creations (history : List Operation) : Nat :=
  history.countP Operation.creates

/-- A history created a diagram under a number, which is the count of the
creations up to it, and did not delete it in the operations since. -/
def Keeps (history : List Operation) (id : Nat) (new : NewDiagram)
    (since : List Operation) : Prop :=
  ∃ before, history = before ++ .createDiagram new :: since
    ∧ id = creations before + 1 ∧ .deleteDiagram id ∉ since

/-- The last value that changes of a diagram gave to one of its fields. -/
def lastGiven {α : Type} (field : DiagramPatch → Option α) (id : Nat)
    (since : List Operation) : Option α :=
  ((since.filterMap (Operation.patch? id)).filterMap field).getLast?

/-- A diagram as it was created, but for the fields that were changed since:
these have the last value that was given. -/
def changedSince (id : Nat) (new : NewDiagram) (since : List Operation) :
    StoredDiagram where
  id := id
  name := (lastGiven (·.name) id since).getD new.name
  diagram := (lastGiven (·.diagram) id since).getD new.diagram
  settings := (lastGiven (·.settings) id since).getD new.settings

theorem creations_concat (history : List Operation) (operation : Operation) :
    creations (history ++ [operation]) =
      creations history + if operation.creates then 1 else 0 := by
  simp [creations, List.countP_append, List.countP_cons]

theorem keeps_concat_iff {history since : List Operation}
    {operation : Operation} {id : Nat} {new : NewDiagram} :
    Keeps (history ++ [operation]) id new since ↔
      (operation = .createDiagram new ∧ id = creations history + 1
          ∧ since = [])
        ∨ (operation ≠ .deleteDiagram id
          ∧ ∃ earlier, since = earlier ++ [operation]
            ∧ Keeps history id new earlier) := by
  constructor
  · rintro ⟨before, hsplit, hid, hkept⟩
    rcases List.eq_nil_or_concat since with rfl | ⟨earlier, last, rfl⟩
    · obtain ⟨rfl, hoperation⟩ := List.append_inj' hsplit rfl
      exact .inl ⟨List.singleton_inj.mp hoperation, hid, rfl⟩
    · rw [List.concat_eq_append, ← List.cons_append, ← List.append_assoc] at hsplit
      obtain ⟨rfl, hoperation⟩ := List.append_inj' hsplit rfl
      obtain rfl := List.singleton_inj.mp hoperation
      simp only [List.concat_eq_append, List.mem_append, List.mem_singleton,
        not_or] at hkept
      exact .inr ⟨Ne.symm hkept.2, earlier, List.concat_eq_append,
        before, rfl, hid, hkept.1⟩
  · rintro (⟨rfl, rfl, rfl⟩ | ⟨hdelete, earlier, rfl, before, rfl, hid, hkept⟩)
    · exact ⟨history, rfl, rfl, List.not_mem_nil⟩
    · refine ⟨before, by simp, hid, ?_⟩
      simp [hkept, Ne.symm hdelete]

theorem lastGiven_concat {α : Type} (field : DiagramPatch → Option α)
    (id : Nat) (since : List Operation) (operation : Operation) :
    lastGiven field id (since ++ [operation]) =
      ((operation.patch? id).bind field).or (lastGiven field id since) := by
  cases hpatch : operation.patch? id with
  | none => simp [lastGiven, hpatch]
  | some patch =>
    cases hfield : field patch <;> simp [lastGiven, hpatch, hfield]

/-- Only a change of a diagram itself makes a difference to it. -/
theorem changedSince_concat (id : Nat) (new : NewDiagram)
    (since : List Operation) (operation : Operation) :
    changedSince id new (since ++ [operation]) =
      ((operation.patch? id).map
          fun patch => patch.apply (changedSince id new since)).getD
        (changedSince id new since) := by
  cases hpatch : operation.patch? id with
  | none => simp [changedSince, lastGiven_concat, hpatch]
  | some patch =>
    obtain ⟨name, diagram, settings⟩ := patch
    cases name <;> cases diagram <;> cases settings <;>
      simp [changedSince, lastGiven_concat, hpatch, DiagramPatch.apply]

/-! ## Numbers in order -/

/-- The contents of tables stand by ascending number, and all numbers are
below the next ones to be given out. -/
structure Tables.Ordered (tables : Tables) : Prop where
  diagrams : tables.diagrams.Pairwise (·.id < ·.id)
  diagramsBelow : ∀ stored ∈ tables.diagrams, stored.id < tables.nextDiagram
  artifacts : tables.artifacts.Pairwise (·.id < ·.id)
  artifactsBelow : ∀ artifact ∈ tables.artifacts, artifact.id < tables.nextArtifact

namespace Tables

variable {tables : Tables} {stored : StoredDiagram} {id : Nat}

theorem ordered_empty : ({} : Tables).Ordered := by
  constructor <;> simp

/-- A change keeps the number of a diagram, whether it is meant or not. -/
theorem id_changeUnder (id : Nat) (patch : DiagramPatch)
    (stored : StoredDiagram) :
    (if stored.id = id then patch.apply stored else stored).id = stored.id := by
  split <;> rfl

theorem Ordered.createDiagram (hordered : tables.Ordered) (new : NewDiagram) :
    (tables.createDiagram new).2.Ordered where
  diagrams := by
    simpa [Tables.createDiagram, List.pairwise_append, hordered.diagrams] using
      hordered.diagramsBelow
  diagramsBelow := by
    intro stored hstored
    rcases List.mem_append.mp hstored with hold | hnew
    · exact Nat.lt_succ_of_lt (hordered.diagramsBelow stored hold)
    · obtain rfl := List.mem_singleton.mp hnew
      exact Nat.lt_succ_self _
  artifacts := hordered.artifacts
  artifactsBelow := hordered.artifactsBelow

theorem Ordered.updateDiagram (hordered : tables.Ordered) (id : Nat)
    (patch : DiagramPatch) : (tables.updateDiagram id patch).2.Ordered where
  diagrams := by
    refine List.pairwise_map.mpr (hordered.diagrams.imp ?_)
    intro first second hlt
    rwa [id_changeUnder, id_changeUnder]
  diagramsBelow := by
    intro stored hstored
    obtain ⟨old, hold, rfl⟩ := List.mem_map.mp hstored
    rw [id_changeUnder]
    exact hordered.diagramsBelow old hold
  artifacts := hordered.artifacts
  artifactsBelow := hordered.artifactsBelow

theorem Ordered.deleteDiagram (hordered : tables.Ordered) (id : Nat) :
    (tables.deleteDiagram id).2.Ordered where
  diagrams := hordered.diagrams.filter _
  diagramsBelow := fun stored hstored =>
    hordered.diagramsBelow stored (List.mem_of_mem_filter hstored)
  artifacts := hordered.artifacts
  artifactsBelow := hordered.artifactsBelow

theorem Ordered.createCode (hordered : tables.Ordered) (new : NewCodeArtifact) :
    (tables.createCode new).2.Ordered where
  diagrams := hordered.diagrams
  diagramsBelow := hordered.diagramsBelow
  artifacts := by
    simpa [Tables.createCode, NewCodeArtifact.toArtifact, List.pairwise_append,
      hordered.artifacts] using hordered.artifactsBelow
  artifactsBelow := by
    intro artifact hartifact
    rcases List.mem_append.mp hartifact with hold | hnew
    · exact Nat.lt_succ_of_lt (hordered.artifactsBelow artifact hold)
    · obtain rfl := List.mem_singleton.mp hnew
      exact Nat.lt_succ_self _

/-- Every operation keeps the numbers in order. -/
theorem Ordered.effect (hordered : tables.Ordered) (operation : Operation) :
    (operation.effect tables).Ordered := by
  cases operation with
  | createDiagram new => exact hordered.createDiagram new
  | updateDiagram id patch => exact hordered.updateDiagram id patch
  | deleteDiagram id => exact hordered.deleteDiagram id
  | createCode new => exact hordered.createCode new
  | getDiagram _ | listDiagrams | codeForDiagram _ => exact hordered

theorem ordered_after (history : List Operation) : (after history).Ordered := by
  induction history using List.reverseRecOn with
  | nil => exact ordered_empty
  | append_singleton history operation ih =>
    rw [after_concat]
    exact ih.effect operation

/-! ## The diagram under a number -/

theorem id_of_diagram?_eq_some (hfound : tables.diagram? id = some stored) :
    stored.id = id := by
  simpa using List.find?_some hfound

theorem diagram?_eq_some_iff (hordered : tables.Ordered) :
    tables.diagram? id = some stored ↔ stored ∈ tables.diagrams ∧ stored.id = id := by
  constructor
  · intro hfound
    exact ⟨List.mem_of_find?_eq_some hfound, id_of_diagram?_eq_some hfound⟩
  · rintro ⟨hmem, rfl⟩
    obtain ⟨before, after, hsplit⟩ := List.append_of_mem hmem
    refine List.find?_eq_some_iff_append.mpr ⟨by simp, before, after, hsplit, ?_⟩
    intro other hother
    have hlt := (List.pairwise_append.mp (hsplit ▸ hordered.diagrams)).2.2
      other hother stored List.mem_cons_self
    simpa using Nat.ne_of_lt hlt

theorem diagram?_eq_none_iff :
    tables.diagram? id = none ↔ ∀ stored ∈ tables.diagrams, stored.id ≠ id := by
  simp [diagram?, List.find?_eq_none]

theorem diagram?_nextDiagram (hordered : tables.Ordered) :
    tables.diagram? tables.nextDiagram = none :=
  diagram?_eq_none_iff.mpr fun stored hstored =>
    Nat.ne_of_lt (hordered.diagramsBelow stored hstored)

theorem diagram?_createDiagram (hordered : tables.Ordered) (new : NewDiagram)
    (id : Nat) :
    (tables.createDiagram new).2.diagram? id =
      if id = tables.nextDiagram then some (tables.createDiagram new).1
      else tables.diagram? id := by
  have happend : (tables.createDiagram new).2.diagram? id =
      (tables.diagram? id).or
        ([(tables.createDiagram new).1].find? (·.id = id)) :=
    List.find?_append
  rw [happend]
  split
  · next hid =>
    subst hid
    simp [diagram?_nextDiagram hordered, Tables.createDiagram]
  · next hid =>
    simp [Tables.createDiagram, Ne.symm hid]

theorem diagram?_updateDiagram (tables : Tables) (other : Nat)
    (patch : DiagramPatch) (id : Nat) :
    (tables.updateDiagram other patch).2.diagram? id =
      if other = id then (tables.diagram? id).map patch.apply
      else tables.diagram? id := by
  have hmapped : (tables.updateDiagram other patch).2.diagram? id =
      (tables.diagram? id).map
        fun stored => if stored.id = other then patch.apply stored else stored := by
    simp only [Tables.updateDiagram, diagram?, List.find?_map]
    congr 1
    refine congrFun (congrArg List.find? (funext fun stored => ?_)) tables.diagrams
    simp only [Function.comp_apply, id_changeUnder]
  rw [hmapped]
  cases hfound : tables.diagram? id with
  | none => simp
  | some stored =>
    simp only [Option.map_some, id_of_diagram?_eq_some hfound, eq_comm (a := id)]
    split <;> rfl

theorem diagram?_deleteDiagram (tables : Tables) (other id : Nat) :
    (tables.deleteDiagram other).2.diagram? id =
      if other = id then none else tables.diagram? id := by
  simp only [Tables.deleteDiagram, diagram?, List.find?_filter]
  split
  · next hother =>
    subst hother
    simp [List.find?_eq_none]
  · next hother =>
    refine congrFun (congrArg List.find? (funext fun stored => ?_)) tables.diagrams
    by_cases hid : stored.id = id
    · simp [hid, Ne.symm hother]
    · simp [hid]

theorem updateDiagram_of_eq_none {patch : DiagramPatch}
    (hnone : (tables.updateDiagram id patch).1 = none) :
    (tables.updateDiagram id patch).2 = tables := by
  have habsent := diagram?_eq_none_iff.mp (Option.map_eq_none_iff.mp hnone)
  have hsame : tables.diagrams.map
      (fun stored => if stored.id = id then patch.apply stored else stored) =
        tables.diagrams := by
    conv_rhs => rw [← List.map_id tables.diagrams]
    exact List.map_congr_left fun stored hstored => if_neg (habsent stored hstored)
  simp only [Tables.updateDiagram, hsame]

theorem deleteDiagram_of_eq_false (hfalse : (tables.deleteDiagram id).1 = false) :
    (tables.deleteDiagram id).2 = tables := by
  have habsent := diagram?_eq_none_iff.mp (Option.isSome_eq_false_iff.mp hfalse
    |> Option.isNone_iff_eq_none.mp)
  have hsame : tables.diagrams.filter (·.id ≠ id) = tables.diagrams :=
    List.filter_eq_self.mpr fun stored hstored => by
      simpa using habsent stored hstored
  simp only [Tables.deleteDiagram, hsame]

/-- What an operation does to the diagram under a number that is not given out
by it. -/
theorem diagram?_effect (hordered : tables.Ordered) {operation : Operation}
    (hcreates : operation.creates = true → id ≠ tables.nextDiagram)
    (hdelete : operation ≠ .deleteDiagram id) :
    (operation.effect tables).diagram? id =
      (tables.diagram? id).map fun stored =>
        ((operation.patch? id).map (·.apply stored)).getD stored := by
  cases operation with
  | createDiagram new =>
    rw [Operation.effect, diagram?_createDiagram hordered, if_neg (hcreates rfl)]
    exact Option.map_id'.symm
  | updateDiagram other patch =>
    rw [Operation.effect, diagram?_updateDiagram]
    by_cases hother : other = id
    · simp [Operation.patch?, hother]
    · simp [Operation.patch?, hother]
  | deleteDiagram other =>
    have hother : other ≠ id := fun heq => hdelete (heq ▸ rfl)
    rw [Operation.effect, diagram?_deleteDiagram, if_neg hother]
    exact Option.map_id'.symm
  | createCode new | getDiagram _ | listDiagrams | codeForDiagram _ =>
    exact Option.map_id'.symm

theorem nextDiagram_after (history : List Operation) :
    (after history).nextDiagram = creations history + 1 := by
  induction history using List.reverseRecOn with
  | nil => rfl
  | append_singleton history operation ih =>
    rw [after_concat, creations_concat]
    cases operation with
    | createDiagram new => exact congrArg (· + 1) ih
    | updateDiagram id patch | deleteDiagram id | createCode new
    | getDiagram id | listDiagrams | codeForDiagram id => exact ih

theorem createDiagram_after (history : List Operation) (new : NewDiagram) :
    ((after history).createDiagram new).1 =
      changedSince (creations history + 1) new [] := by
  simp [Tables.createDiagram, nextDiagram_after, changedSince, lastGiven]

/-- The diagram under a number is what the history says about the number. -/
theorem diagram?_after_eq_some_iff (history : List Operation) :
    (after history).diagram? id = some stored ↔
      ∃ new since, Keeps history id new since
        ∧ stored = changedSince id new since := by
  induction history using List.reverseRecOn generalizing stored with
  | nil => simp [after, diagram?, Keeps]
  | append_singleton history operation ih =>
    have hordered := ordered_after history
    rw [after_concat]
    by_cases hgiven : operation.creates = true ∧ id = creations history + 1
    · -- The number is given out now, so that nothing was kept under it before.
      obtain ⟨hcreates, rfl⟩ := hgiven
      cases operation with
      | createDiagram new =>
        have hfresh : ∀ new since, ¬ Keeps history (creations history + 1) new since := by
          intro new since hkeeps
          have hfound := ih.mpr ⟨new, since, hkeeps, rfl⟩
          rw [← nextDiagram_after, diagram?_nextDiagram hordered] at hfound
          contradiction
        rw [Operation.effect, diagram?_createDiagram hordered,
          if_pos (nextDiagram_after history).symm, createDiagram_after]
        simp [keeps_concat_iff, hfresh, eq_comm]
      | _ => simp [Operation.creates] at hcreates
    · by_cases hdelete : operation = .deleteDiagram id
      · subst hdelete
        simp [Operation.effect, diagram?_deleteDiagram, keeps_concat_iff]
      · have hcreates : operation.creates = true →
            id ≠ (after history).nextDiagram := by
          rw [nextDiagram_after]
          exact fun hcreates hid => hgiven ⟨hcreates, hid⟩
        have hnew : ∀ new, ¬ (operation = .createDiagram new
            ∧ id = creations history + 1) := by
          rintro new ⟨rfl, hid⟩
          exact hgiven ⟨rfl, hid⟩
        rw [diagram?_effect hordered hcreates hdelete, Option.map_eq_some_iff]
        constructor
        · rintro ⟨old, hold, rfl⟩
          obtain ⟨new, since, hkeeps, rfl⟩ := ih.mp hold
          exact ⟨new, since ++ [operation],
            keeps_concat_iff.mpr (.inr ⟨hdelete, since, rfl, hkeeps⟩),
            (changedSince_concat id new since operation).symm⟩
        · rintro ⟨new, since, hkeeps, rfl⟩
          rcases keeps_concat_iff.mp hkeeps with
            ⟨hoperation, hid, -⟩ | ⟨-, earlier, rfl, hearlier⟩
          · exact absurd ⟨hoperation, hid⟩ (hnew new)
          · exact ⟨_, ih.mpr ⟨new, earlier, hearlier, rfl⟩,
              (changedSince_concat id new earlier operation).symm⟩

/-! ## Listing -/

/-- Sorting the diagrams by their numbers gives the listing, in whatever order
they are taken from the table. -/
theorem mergeSort_eq_listDiagrams (hordered : tables.Ordered)
    {values : List StoredDiagram} (hperm : values.Perm tables.diagrams) :
    values.mergeSort (·.id ≤ ·.id) = tables.listDiagrams := by
  have htrans (first second third : StoredDiagram) :
      decide (first.id ≤ second.id) → decide (second.id ≤ third.id) →
        decide (first.id ≤ third.id) := by
    simpa using Nat.le_trans
  have htotal (first second : StoredDiagram) :
      (decide (first.id ≤ second.id) || decide (second.id ≤ first.id)) = true := by
    simpa using Nat.le_total first.id second.id
  have hsorted : (values.mergeSort (·.id ≤ ·.id)).Pairwise (·.id ≤ ·.id) := by
    simpa using List.pairwise_mergeSort htrans htotal values
  refine List.Perm.eq_of_pairwise ?_ hsorted
    (hordered.diagrams.imp Nat.le_of_lt) ((List.mergeSort_perm values _).trans hperm)
  intro first second hfirst hsecond hle hge
  have hmem := hperm.subset (List.mem_mergeSort.mp hfirst)
  have hfound := (diagram?_eq_some_iff hordered).mpr ⟨hmem, rfl⟩
  have hother := (diagram?_eq_some_iff hordered).mpr
    ⟨hsecond, (Nat.le_antisymm hle hge).symm⟩
  exact Option.some.inj (hfound.symm.trans hother)

theorem eq_of_diagram?_effect_ne {operation : Operation}
    (hordered : tables.Ordered)
    (hchanged : (operation.effect tables).diagram? id ≠ tables.diagram? id) :
    (∃ new, operation = .createDiagram new ∧ id = tables.nextDiagram)
      ∨ (∃ patch, operation = .updateDiagram id patch)
      ∨ operation = .deleteDiagram id := by
  cases operation with
  | createDiagram new =>
    rw [Operation.effect, diagram?_createDiagram hordered] at hchanged
    exact .inl ⟨new, rfl, by_contra fun hid => hchanged (if_neg hid)⟩
  | updateDiagram other patch =>
    rw [Operation.effect, diagram?_updateDiagram] at hchanged
    obtain rfl : other = id := by_contra fun hid => hchanged (if_neg hid)
    exact .inr (.inl ⟨patch, rfl⟩)
  | deleteDiagram other =>
    rw [Operation.effect, diagram?_deleteDiagram] at hchanged
    obtain rfl : other = id := by_contra fun hid => hchanged (if_neg hid)
    exact .inr (.inr rfl)
  | createCode new | getDiagram other | listDiagrams | codeForDiagram other =>
    exact absurd rfl hchanged

end Tables

/-! ## Stores -/

/-- The store after an operation. -/
def Operation.perform (store : Store) : Operation → Store
  | createDiagram new => (store.createDiagram new).2
  | updateDiagram id patch => (store.updateDiagram id patch).2
  | deleteDiagram id => (store.deleteDiagram id).2
  | createCode new => (store.createCode new).2
  | getDiagram _ | listDiagrams | codeForDiagram _ => store

namespace Store

/-- The store after some operations on an empty one. -/
def after (history : List Operation) : Store :=
  history.foldl Operation.perform .empty

/-- An operation on a store that is not poisoned is one on its tables. -/
theorem perform_mk (tables : Tables) (operation : Operation) :
    operation.perform ⟨tables, false⟩ = ⟨operation.effect tables, false⟩ := by
  cases operation <;> rfl

theorem foldl_perform_mk (tables : Tables) (operations : List Operation) :
    operations.foldl Operation.perform ⟨tables, false⟩ =
      ⟨operations.foldl Operation.effect tables, false⟩ := by
  induction operations generalizing tables with
  | nil => rfl
  | cons operation operations ih =>
    rw [List.foldl_cons, List.foldl_cons, perform_mk, ih]

theorem after_eq (history : List Operation) :
    after history = ⟨Tables.after history, false⟩ :=
  foldl_perform_mk {} history

theorem getDiagram_mk (tables : Tables) (id : Nat) :
    getDiagram ⟨tables, false⟩ id = .ok (tables.diagram? id) :=
  read_of_open rfl _

/-- What a store shows of the diagrams, where it has seen a history of
operations. -/
structure Recalls (store : Store) (history : List Operation) : Prop where
  /-- The numbers are given out in order, and the new diagram is as given. -/
  created (new : NewDiagram) : (store.createDiagram new).1 =
    .ok { id := creations history + 1, name := new.name, diagram := new.diagram,
          settings := new.settings }
  /-- Under a number stands the diagram that was created under it and not
  deleted since; each field has the last value that was given to it. -/
  found (id : Nat) (stored : StoredDiagram) :
    store.getDiagram id = .ok (some stored) ↔
      ∃ new since, Keeps history id new since ∧ stored = changedSince id new since
  /-- Under any other number stands nothing. -/
  missing (id : Nat) :
    store.getDiagram id = .ok none ↔ ∀ new since, ¬ Keeps history id new since
  /-- The listing ascends by number and holds the diagrams that are found under
  their numbers.  It does not depend on the order that the diagrams are kept in:
  to sort them by number gives the listing from any order. -/
  listed : ∃ listing, store.listDiagrams = .ok listing
    ∧ listing.Pairwise (·.id < ·.id)
    ∧ (∀ stored, stored ∈ listing ↔ store.getDiagram stored.id = .ok (some stored))
    ∧ ∀ values : List StoredDiagram, values.Perm store.tables.diagrams →
      values.mergeSort (·.id ≤ ·.id) = listing
  /-- A change is answered with what then stands under the number. -/
  updated (id : Nat) (patch : DiagramPatch) : (store.updateDiagram id patch).1 =
    (store.updateDiagram id patch).2.getDiagram id
  /-- A change has nothing to change only where nothing is found, and then
  leaves the store as it is. -/
  unchanged (id : Nat) (patch : DiagramPatch) :
    ((store.updateDiagram id patch).1 = .ok none ↔ store.getDiagram id = .ok none)
      ∧ ((store.updateDiagram id patch).1 = .ok none →
        (store.updateDiagram id patch).2 = store)
  /-- A deletion tells whether something is found, and else leaves the store as
  it is. -/
  deleted (id : Nat) :
    (store.deleteDiagram id).1 = (store.getDiagram id).map Option.isSome
      ∧ ((store.deleteDiagram id).1 = .ok false → (store.deleteDiagram id).2 = store)
  /-- What is found under a number changes only by an operation on it. -/
  others (operation : Operation) (id : Nat)
    (hchanged : (operation.perform store).getDiagram id ≠ store.getDiagram id) :
    (∃ new, operation = .createDiagram new ∧ id = creations history + 1)
      ∨ (∃ patch, operation = .updateDiagram id patch)
      ∨ operation = .deleteDiagram id
  /-- To store code leaves all diagrams. -/
  codeStored (new : NewCodeArtifact) :
    (store.createCode new).2.listDiagrams = store.listDiagrams
      ∧ ∀ id, (store.createCode new).2.getDiagram id = store.getDiagram id

/-- After any operations, a store shows the diagrams that the history tells
of. -/
theorem recalls_history (history : List Operation) :
    (after history).Recalls history := by
  rw [after_eq]
  have hordered := Tables.ordered_after history
  have hfound (id : Nat) (stored : StoredDiagram) :
      (Tables.after history).diagram? id = some stored ↔
        ∃ new since, Keeps history id new since ∧ stored = changedSince id new since :=
    Tables.diagram?_after_eq_some_iff history
  exact {
    created := fun new => congrArg Except.ok (Tables.createDiagram_after history new)
    found := fun id stored => by rw [getDiagram_mk, Except.ok.injEq, hfound]
    missing := fun id => by
      rw [getDiagram_mk, Except.ok.injEq, Option.eq_none_iff_forall_ne_some]
      constructor
      · exact fun hnone new since hkeeps =>
          hnone _ ((hfound id _).mpr ⟨new, since, hkeeps, rfl⟩)
      · rintro hkeeps stored hstored
        obtain ⟨new, since, hnew, -⟩ := (hfound id stored).mp hstored
        exact hkeeps new since hnew
    listed := ⟨_, rfl, hordered.diagrams, fun stored => by
      simp [getDiagram_mk, Tables.diagram?_eq_some_iff hordered, Tables.listDiagrams],
      fun _ => Tables.mergeSort_eq_listDiagrams hordered⟩
    updated := fun id patch => by
      have hchanged := Tables.diagram?_updateDiagram (Tables.after history) id patch id
      rw [if_pos rfl] at hchanged
      exact congrArg Except.ok hchanged.symm
    unchanged := fun id patch => by
      rw [getDiagram_mk, Except.ok.injEq]
      constructor
      · exact (Except.ok.injEq _ _).to_iff.trans Option.map_eq_none_iff
      · intro hnone
        exact congrArg (Store.mk · false)
          (Tables.updateDiagram_of_eq_none (Except.ok.inj hnone))
    deleted := fun id => ⟨rfl, fun hfalse => congrArg (Store.mk · false)
      (Tables.deleteDiagram_of_eq_false (Except.ok.inj hfalse))⟩
    others := fun operation id hchanged => by
      rw [perform_mk, getDiagram_mk, getDiagram_mk] at hchanged
      rw [← Tables.nextDiagram_after]
      exact Tables.eq_of_diagram?_effect_ne hordered
        fun hsame => hchanged (congrArg Except.ok hsame)
    codeStored := fun new => ⟨rfl, fun _ => rfl⟩ }

/-- The numbers of diagrams fit into 64 bits as long as fewer diagrams are created
than 64 bits can number. -/
theorem diagram_numbers_fit {history : List Operation}
    (hcreations : creations history + 1 < 2 ^ 64) :
    (after history).tables.nextDiagram < 2 ^ 64
      ∧ ∀ stored ∈ (after history).tables.diagrams, stored.id < 2 ^ 64 := by
  have hnext : (Tables.after history).nextDiagram < 2 ^ 64 := by
    rwa [Tables.nextDiagram_after]
  rw [after_eq]
  exact ⟨hnext, fun stored hstored =>
    ((Tables.ordered_after history).diagramsBelow stored hstored).trans hnext⟩

end Store

end Wireform
