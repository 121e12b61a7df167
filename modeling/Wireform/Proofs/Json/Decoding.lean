import Mathlib
import Wireform.Proofs.Json.Printing
import Wireform.Json.Tagged

/-!
# Decoded documents

A decoder that gives a value for a document does so in two ways, from the
document and from its printing, and both belong to one notion.  A record gives
back the values of its fields when its members are written field by field,
with those left out that are missing.
-/

namespace Wireform.Json

open Reader

variable {α β : Type} {level : Nat} {document : Json} {value : α} {rest : List Char}

theorem Readable.mono {level' : Nat} (hreadable : Readable level document)
    (hle : level ≤ level') : Readable level' document := by
  induction level generalizing level' document with
  | zero =>
    cases document with
    | array items => exact hreadable.elim
    | object members => exact hreadable.elim
    | _ => cases level' <;> exact hreadable
  | succ level ih =>
    obtain ⟨level', rfl⟩ : ∃ more, level' = more + 1 := ⟨level' - 1, by omega⟩
    have hbelow := Nat.le_of_succ_le_succ hle
    cases document with
    | array items => exact fun item hitem => ih (hreadable item hitem) hbelow
    | object members => exact fun member hmember => ih (hreadable member hmember) hbelow
    | _ => exact hreadable

/-- A decoder gives a value for a document of a level, as well as for its
printing before the end of a value around it. -/
structure Decodes (level : Nat) (decoder : Decoder α) (document : Json) (value : α) :
    Prop where
  readable : Readable level document
  ofJson : decoder.ofJson document = .ok value
  reads : ∀ {rest}, endsValue rest = true → ∀ {depth}, level < depth →
    Reads (decoder.read depth) (document.print.toList ++ rest) value rest

theorem eq_null_of_begins (hletter : document.begins 'n') : document = .null := by
  cases document with
  | null => rfl
  | boolean value => cases value <;> simp [begins] at hletter
  | _ => simp [begins, startsNumber, isDigit] at hletter

/-- A value without inner values is read when it is of the expected form. -/
theorem reads_expectScalar_of {starts : Char → Bool} {expected : String}
    {accept : Json → Except Cause α} {c : Char} {more : List Char}
    (hspace : isSpace c = false) (hstarts : starts c = true)
    (hscalar : Reads (scalar c) (c :: more) document rest)
    (haccept : accept document = .ok value) :
    Reads (expectScalar starts expected accept) (c :: more) value rest := by
  refine Reads.peekToken (by simp [startsSolid, hspace]) (Reads.placed ?_)
  simp only [hstarts, if_true]
  refine hscalar.bind ?_
  rw [haccept]
  exact reads_pure value

theorem reads_expectScalar {starts : Char → Bool} {expected : String}
    {accept : Json → Except Cause α} (hreadable : Readable 0 document)
    (hstarts : ∀ c, document.begins c → starts c = true)
    (haccept : accept document = .ok value) (hrest : endsValue rest = true) :
    Reads (expectScalar starts expected accept) (document.print.toList ++ rest)
      value rest := by
  obtain ⟨c, more, htext, hc, hreads⟩ := hreadable.reads_scalar hrest
  rw [htext] at hreads ⊢
  exact reads_expectScalar_of (begins_ne hc).1 (hstarts c hc) hreads haccept

namespace Decodes

variable {decoder : Decoder α}

theorem mono {level' : Nat} (hdecodes : Decodes level decoder document value)
    (hle : level ≤ level') : Decodes level' decoder document value where
  readable := hdecodes.readable.mono hle
  ofJson := hdecodes.ofJson
  reads hrest _ hdepth := hdecodes.reads hrest (hle.trans_lt hdepth)

/-- The printing of a decodable document is decoded as a whole text. -/
theorem decode (hdecodes : Decodes level decoder document value)
    (hlevel : level < maxDepth) : decoder.decode document.print = .ok value := by
  have hreads : Reads _ (document.print.toList ++ []) value [] :=
    hdecodes.reads rfl hlevel
  rw [List.append_nil] at hreads
  exact hreads.readWhole rfl

theorem map (hdecodes : Decodes level decoder document value) (f : α → β) :
    Decodes level (decoder.map f) document (f value) where
  readable := hdecodes.readable
  ofJson := by
    change (decoder.ofJson document).map f = _
    rw [hdecodes.ofJson]
    rfl
  reads hrest _ hdepth := (hdecodes.reads hrest hdepth).map f

/-! ## Values without inner values -/

theorem ofScalar {starts : Char → Bool} {expected : String}
    {accept : Json → Except Cause α} (hreadable : Readable 0 document)
    (hstarts : ∀ c, document.begins c → starts c = true)
    (haccept : accept document = .ok value) :
    Decodes 0 (.ofScalar starts expected accept) document value where
  readable := hreadable
  ofJson := haccept
  reads hrest _ _ := reads_expectScalar hreadable hstarts haccept hrest

theorem string (text : String) : Decodes 0 .string (.string text) text :=
  ofScalar trivial (fun _ hc => decide_eq_true hc) rfl

theorem boolean (value : Bool) : Decodes 0 .boolean (.boolean value) value := by
  refine ofScalar trivial (fun c hc => ?_) rfl
  cases value <;> obtain rfl := hc <;> rfl

theorem unsigned {n : Nat} (hn : n ≤ maxUnsigned) : Decodes 0 .unsigned (.natural n) n := by
  refine ofScalar ⟨Int.natCast_nonneg n, by exact_mod_cast hn⟩ (fun c hc => ?_) rfl
  have hdigit : isDigit c = true := hc
  rw [startsNumber, hdigit, Bool.or_true]

theorem binary64 {x : Binary64} (hx : x.ReadsBack) : Decodes 0 .binary64 (.number x) x :=
  ofScalar hx (fun _ hc => hc) rfl

/-- The name of a case. -/
theorem choice {cases : List (String × α)} {name : String}
    (hcase : cases.lookup name = some value) :
    Decodes 0 (.choice cases) (.string name) value := by
  have hfind : Decoder.findCase cases name = .ok value := by rw [Decoder.findCase, hcase]
  refine ⟨trivial, hfind, fun {rest} hrest depth hdepth => ?_⟩
  have hname : Reads (Decoder.readCase cases)
      ((print (.string name)).toList ++ rest) value rest :=
    reads_expectScalar trivial (fun _ hc => decide_eq_true hc) hfind hrest
  rw [print, toList_literal] at hname ⊢
  exact Reads.peekToken rfl hname

/-! ## Options and lists -/

theorem absent : Decodes 0 decoder.option .null none where
  readable := trivial
  ofJson := rfl
  reads _ _ _ := Reads.peekToken rfl (reads_advance.bind
    ((reads_word "ull".toList).bind (reads_pure _)))

theorem present (hdecodes : Decodes level decoder document value)
    (hnull : document ≠ .null) :
    Decodes level decoder.option document (some value) where
  readable := hdecodes.readable
  ofJson := by
    cases document with
    | null => exact absurd rfl hnull
    | _ =>
      change (decoder.ofJson _).map _ = _
      rw [hdecodes.ofJson]
      rfl
  reads {rest} hrest depth hdepth := by
    obtain ⟨c, more, htext, hc⟩ := hdecodes.readable.exists_head
    have hletter : c ≠ 'n' := fun heq => hnull (eq_null_of_begins (heq ▸ hc))
    have hreads : Reads (decoder.read depth >>= fun value => pure (some value))
        (document.print.toList ++ rest) (some value) rest :=
      (hdecodes.reads hrest hdepth).bind (reads_pure (some value))
    rw [htext] at hreads ⊢
    refine Reads.peekToken (by simp [startsSolid, (begins_ne hc).1]) ?_
    simp only [List.cons_append, List.head?_cons]
    split
    · rename_i heq
      exact absurd (Option.some.inj heq) hletter
    · exact hreads

/-- A value that is written as `null` when it is missing. -/
theorem optional {encode : α → Json} {value : Option α}
    (hdecodes : ∀ present, value = some present →
      Decodes level decoder (encode present) present)
    (hnull : ∀ present, encode present ≠ .null) :
    Decodes level decoder.option (Json.optional encode value) value := by
  cases value with
  | none => exact absent.mono (Nat.zero_le level)
  | some value => exact (hdecodes value rfl).present (hnull value)

theorem list {encode : α → Json} {values : List α}
    (hdecodes : ∀ value ∈ values, Decodes level decoder (encode value) value) :
    Decodes (level + 1) (.list decoder) (.array (values.map encode)) values where
  readable item hitem := by
    obtain ⟨value, hvalue, rfl⟩ := List.mem_map.mp hitem
    exact (hdecodes value hvalue).readable
  ofJson := by
    change (values.map encode).mapM decoder.ofJson = _
    induction values with
    | nil => rfl
    | cons value values ih =>
      rw [List.map_cons, List.mapM_cons, (hdecodes value List.mem_cons_self).ofJson,
        ih fun other hother => hdecodes other (List.mem_cons_of_mem _ hother)]
      rfl
  reads {rest} hrest depth hdepth := by
    obtain ⟨below, rfl⟩ : ∃ below, depth = below + 2 := ⟨depth - 2, by omega⟩
    have hitems : List.Forall₂ (ReadsItem (decoder.read (below + 1)))
        (values.map fun value => (encode value).print.toList) values := by
      rw [List.forall₂_map_left_iff, List.forall₂_same]
      exact fun value hvalue => (hdecodes value hvalue).readable.readsItem fun rest hrest =>
        (hdecodes value hvalue).reads hrest (Nat.lt_of_succ_lt_succ hdepth)
    rw [toList_print_array, List.append_assoc, List.map_map]
    have hgap : ([] : List Char).all isSpace = true := rfl
    exact Reads.peekToken rfl
      (Reads.placed (reads_advance.bind (reads_items hitems hgap rest)))

end Decodes

end Wireform.Json
