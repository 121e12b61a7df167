import Mathlib
import Wireform.Proofs.Json.Embedding
import Wireform.Proofs.Json.Formats

/-!
# Objects

The members of an object may come in any order.  A slot has all the names that its
member may go by, and members without a slot are allowed when their values are simple.
What an object gives for each slot is told from its members as a whole.  The reader
keeps a draft instead: after some members, in whatever order, it holds what these give.
-/

namespace Wireform.Json

open Reader

variable {α : Type} {αs : List Type} {text tail rest gap : List Char} {level : Nat}

/-! ## Slots -/

/-- A member with its name and the text of its value. -/
abbrev Member := String × List Char

/-- A place for a member of an object: the names that the member may go by, the format
of its value, and the value in its absence, if it may be absent. -/
structure Slot (α : Type) where
  names : List String
  format : Format α
  ifOmitted : Option α := none

namespace Slot

/-- A member that must be given. -/
def required (name : String) (format : Format α) : Slot α := ⟨[name], format, none⟩

/-- A member with a value of its own when it is not given. -/
def withDefault (names : List String) (format : Format α) (value : α) : Slot α :=
  ⟨names, format, some value⟩

/-- A member that may be `null` or absent. -/
def optional (names : List String) (format : Format α) : Slot (Option α) :=
  withDefault names format.option none

variable (slot : Slot α)

/-- Whether a member goes into a slot. -/
def takes (member : Member) : Bool := slot.names.contains member.1

/-- What the members of an object give for a slot: nothing when none of them goes into
it, and what the only one that does spells. -/
def Gives (members : List Member) (given : Option α) : Prop :=
  match members.filter slot.takes with
  | [] => given = none
  | [member] => ∃ value, slot.format.Spells member.2 value ∧ given = some value
  | _ => False

end Slot

/-- The slots of an object. -/
inductive Slots : List Type → Type 1 where
  | nil : Slots []
  | cons {α : Type} {αs : List Type} (slot : Slot α) (rest : Slots αs) : Slots (α :: αs)

namespace Slots

/-- All names of members. -/
def names {αs : List Type} : Slots αs → List String
  | nil => []
  | cons slot rest => slot.names ++ rest.names

/-- Whether no name belongs to two slots. -/
def distinct {αs : List Type} : Slots αs → Bool
  | nil => true
  | cons slot rest => slot.names.all (!rest.names.contains ·) && rest.distinct

/-- What the members of an object give for each slot. -/
def Gives {αs : List Type} : Slots αs → List Member → Draft αs → Prop
  | nil, _, _ => True
  | cons slot rest, members, (given, others) =>
    slot.Gives members given ∧ rest.Gives members others

/-- The values of an object, with those in place that are not given. -/
def Fills {αs : List Type} : Slots αs → Draft αs → Values αs → Prop
  | nil, _, _ => True
  | cons slot rest, (given, others), (value, values) =>
    given.or slot.ifOmitted = some value ∧ rest.Fills others values

/-- Members without a slot have simple values. -/
def Allows (slots : Slots αs) (members : List Member) : Prop :=
  ∀ member ∈ members, member.1 ∉ slots.names →
    ∃ solid, ScalarText solid ∧ Spaced solid member.2

/-- A member has the form that its slot asks for, or a simple value without a slot. -/
def Admits {αs : List Type} : Slots αs → Member → Prop
  | nil, member => ∃ solid, ScalarText solid ∧ Spaced solid member.2
  | cons slot rest, member =>
    if slot.takes member then slot.format.Fits member.2 else rest.Admits member

/-- A member goes into a slot that one of the members before it goes into, or it gives some
member twice within. -/
def Repeats {αs : List Type} : Slots αs → List Member → Member → Prop
  | nil, _, _ => False
  | cons slot rest, seen, member =>
    slot.takes member = true ∧
        (seen.any slot.takes = true ∨ slot.format.GivesTwice member.2) ∨
      rest.Repeats seen member

end Slots

/-- The text of a member: its key, a colon and its value. -/
def MemberText (text : List Char) (member : Member) : Prop :=
  ∃ key, Format.string.Spells key member.1 ∧ text = key ++ ':' :: member.2

/-- The text of an object: its members between braces, with commas between them. -/
def ObjectText (text : List Char) (members : List Member) : Prop :=
  ∃ gap texts, gap.all isSpace = true ∧ List.Forall₂ MemberText texts members ∧
    Spaced ('{' :: (gap ++ (commas true texts ++ ['}']))) text

/-- Objects with slots, and the value that they make up. -/
def Format.record (slots : Slots αs) (build : Values αs → α) : Format α where
  Spells text value := ∃ members draft values, ObjectText text members ∧
    slots.Allows members ∧ slots.Gives members draft ∧ slots.Fills draft values ∧
    value = build values
  Fits text := ∃ members, ObjectText text members ∧ ∀ member ∈ members, slots.Admits member
  GivesTwice text := ∃ before member after,
    ObjectText text (before ++ member :: after) ∧ (∀ other ∈ before, slots.Admits other) ∧
    slots.Repeats before member

/-- The text of an object without white space, whose keys are as printed. -/
def objectText (members : List Member) : List Char :=
  '{' :: (commas true (members.map fun member =>
    (literal member.1).toList ++ ':' :: member.2) ++ ['}'])

theorem Spaced.objectText {members : List Member}
    (htext : Spaced (objectText members) text) : ObjectText text members := by
  refine ⟨[], _, rfl, ?_, htext⟩
  rw [List.forall₂_map_left_iff, List.forall₂_same]
  exact fun member _ => ⟨_, Format.string_literal member.1, rfl⟩

/-- Members that all have a slot. -/
theorem Slots.allows_of_all {slots : Slots αs} {members : List Member}
    (hmembers : members.all (slots.names.contains ·.1) = true) : slots.Allows members := by
  intro member hmember hnot
  exact absurd (by simpa using List.all_eq_true.1 hmembers member hmember) hnot

theorem Format.IsOpen.record (slots : Slots αs) (build : Values αs → α) :
    (Format.record slots build).IsOpen where
  spells := by
    rintro text value ⟨members, draft, values, ⟨gap, texts, -, -, htext⟩, -⟩
    exact htext.opens rfl (by decide) (by decide)
  fits := by
    rintro text ⟨members, ⟨gap, texts, -, -, htext⟩, -⟩
    exact htext.opens rfl (by decide) (by decide)
  givesTwice := by
    rintro text ⟨before, member, after, ⟨gap, texts, -, -, htext⟩, -⟩
    exact htext.opens rfl (by decide) (by decide)

/-! ## Drafts -/

variable {seen left members : List Member} {member : Member}

/-- A member that goes into a slot is the only one that does. -/
theorem Slot.Gives.of_takes {slot : Slot α} {given : Option α}
    (hgives : slot.Gives (seen ++ member :: left) given)
    (htakes : slot.takes member = true) :
    seen.any slot.takes = false ∧
      ∃ value, slot.format.Spells member.2 value ∧ given = some value := by
  rw [Gives, List.filter_append, List.filter_cons_of_pos htakes] at hgives
  cases hseen : seen.filter slot.takes with
  | nil =>
    refine ⟨by simpa using hseen, ?_⟩
    rw [hseen, List.nil_append] at hgives
    cases hleft : left.filter slot.takes with
    | nil => simpa only [hleft] using hgives
    | cons next more => simp only [hleft] at hgives
  | cons first more =>
    rw [hseen] at hgives
    cases more <;> exact hgives.elim

namespace Slots

/-- The part of a draft that the members seen so far give. -/
def within {αs : List Type} : Slots αs → List Member → Draft αs → Draft αs
  | nil, _, _ => ()
  | cons slot rest, seen, (given, others) =>
    (if seen.any slot.takes then given else none, rest.within seen others)

variable {slots : Slots αs} {draft : Draft αs}

theorem Gives.within_eq (hgives : slots.Gives members draft) :
    slots.within members draft = draft := by
  induction slots with
  | nil => rfl
  | cons slot rest ih =>
    obtain ⟨given, others⟩ := draft
    rw [within, ih hgives.2]
    split
    · rfl
    · rename_i hnone
      have hfilter : members.filter slot.takes = [] := by simpa using hnone
      have hgiven := hgives.1
      rw [Slot.Gives, hfilter] at hgiven
      rw [hgiven]

/-- A member without a slot leaves the draft as it is. -/
theorem within_concat_of_not_mem (hmember : member.1 ∉ slots.names) :
    slots.within (seen ++ [member]) draft = slots.within seen draft := by
  induction slots with
  | nil => rfl
  | cons slot rest ih =>
    obtain ⟨given, others⟩ := draft
    rw [names, List.mem_append, not_or] at hmember
    have htakes : slot.takes member = false := by simpa [Slot.takes] using hmember.1
    simp only [within, List.any_append, List.any_cons, htakes, List.any_nil, Bool.or_false]
    rw [ih hmember.2]

theorem Repeats.mem_names (hrepeats : slots.Repeats seen member) :
    member.1 ∈ slots.names := by
  induction slots with
  | nil => exact hrepeats.elim
  | cons slot rest ih =>
    rw [names, List.mem_append]
    rcases hrepeats with ⟨htakes, -⟩ | hothers
    · exact .inl (by simpa [Slot.takes] using htakes)
    · exact .inr (ih hothers)

/-- A draft holds something for every slot that some member seen so far goes into. -/
def Holds {αs : List Type} : Slots αs → List Member → Draft αs → Prop
  | nil, _, _ => True
  | cons slot rest, seen, (given, others) =>
    (seen.any slot.takes = true → given.isSome = true) ∧ rest.Holds seen others

theorem holds_nil (slots : Slots αs) (draft : Draft αs) : slots.Holds [] draft := by
  induction slots with
  | nil => trivial
  | cons slot rest ih => exact ⟨nofun, ih draft.2⟩

/-- A member without a slot asks for nothing more. -/
theorem Holds.concat_of_not_mem (hholds : slots.Holds seen draft)
    (hmember : member.1 ∉ slots.names) : slots.Holds (seen ++ [member]) draft := by
  induction slots with
  | nil => trivial
  | cons slot rest ih =>
    obtain ⟨given, others⟩ := draft
    rw [names, List.mem_append, not_or] at hmember
    have htakes : slot.takes member = false := by simpa [Slot.takes] using hmember.1
    refine ⟨fun hseen => hholds.1 ?_, ih hholds.2 hmember.2⟩
    simpa only [List.any_append, List.any_cons, htakes, List.any_nil, Bool.or_false]
      using hseen

/-- A member that goes into the first slot goes into no other. -/
theorem not_mem_names {slot : Slot α} (hdistinct : (cons slot slots).distinct = true)
    (htakes : slot.takes member = true) : member.1 ∉ slots.names := by
  have hnames := (Bool.and_eq_true_iff.1 hdistinct).1
  have hmem : member.1 ∈ slot.names := by simpa [Slot.takes] using htakes
  simpa using List.all_eq_true.1 hnames member.1 hmem

end Slots

/-! ## Reading members -/

namespace Reader

/-- The next member of an object is found behind the white space in front of it, and
its key is read. -/
theorem exists_goesOn_member (isFirst : Bool) (hgap : gap.all isSpace = true)
    (hmember : MemberText text member) (more : List (List Char)) (rest : List Char) :
    ∃ after, after.all isSpace = true ∧ ∀ (next : String → Reader α) (last : Reader α),
      GoesOn (hasMember isFirst >>= fun holds => if holds = true then key >>= next else last)
        (gap ++ (commas isFirst (text :: more) ++ rest)) (next member.1)
        (after ++ ':' :: (member.2 ++ (commas false more ++ rest))) := by
  obtain ⟨_, ⟨solid, hsolid, before, after, hbefore, hafter, rfl⟩, rfl⟩ := hmember
  refine ⟨after, hafter, fun next last => ?_⟩
  have hkey := reads_key_of hsolid
    (after ++ ':' :: (member.2 ++ (commas false more ++ rest)))
  obtain ⟨inside, rfl, -⟩ := reads_scalar_string hsolid
  have hhas : Reads (hasMember isFirst)
      (gap ++ (commas isFirst
        ((before ++ ('"' :: inside ++ after) ++ ':' :: member.2) :: more) ++ rest)) true
      ('"' :: inside ++ (after ++ ':' :: (member.2 ++ (commas false more ++ rest)))) := by
    cases isFirst with
    | true =>
      have hgaps : (gap ++ before).all isSpace = true := by
        rw [List.all_append, hgap, hbefore]
        rfl
      simp only [commas, List.append_assoc, List.cons_append]
      rw [← List.append_assoc]
      exact Reads.peekTokenAfter hgaps rfl (reads_pure true)
    | false =>
      simp only [commas, List.append_assoc, List.cons_append]
      exact Reads.peekTokenAfter hgap rfl (reads_advance.bind
        (Reads.peekTokenAfter hbefore rfl (reads_pure true)))
  exact hhas.goesOn.trans hkey.goesOn

end Reader

namespace Fields

/-- Fields that decode what the slots of an object hold. -/
inductive Obeys (level : Nat) : {αs : List Type} → Fields αs → Slots αs → Prop where
  | nil : Obeys level .nil .nil
  | cons {α : Type} {αs : List Type} {field : Field α} {slot : Slot α} {fields : Fields αs}
      {slots : Slots αs} (names : field.key :: field.aliases = slot.names)
      (ifMissing : field.ifMissing = slot.ifOmitted)
      (first : field.decoder.Obeys level slot.format) (others : Obeys level fields slots) :
      Obeys level (.cons field fields) (.cons slot slots)

theorem accepts_eq {field : Field α} {slot : Slot α}
    (hnames : field.key :: field.aliases = slot.names) (member : Member) :
    field.accepts member.1 = slot.takes member := by
  rw [Slot.takes, ← hnames, List.contains_cons, Field.accepts]
  congr 1
  rw [Bool.eq_iff_iff, decide_eq_true_eq, beq_iff_eq]
  exact eq_comm

namespace Obeys

variable {fields : Fields αs} {slots : Slots αs} {draft : Draft αs} {depth : Nat}

theorem blank_eq (hobeys : fields.Obeys level slots) (draft : Draft αs) :
    fields.blank = slots.within [] draft := by
  induction hobeys with
  | nil => rfl
  | cons _ _ _ _ ih =>
    obtain ⟨given, others⟩ := draft
    rw [blank, Slots.within, ih others]
    rfl

theorem complete (hobeys : fields.Obeys level slots) {values : Values αs}
    (hfills : slots.Fills draft values) : fields.complete draft = .ok values := by
  induction hobeys with
  | nil => rfl
  | cons _ ifMissing _ _ ih =>
    obtain ⟨given, others⟩ := draft
    obtain ⟨value, values⟩ := values
    exact complete_cons_eq_ok.2 ⟨ifMissing ▸ hfills.1, ih hfills.2⟩

/-- A member adds what it gives to the draft. -/
theorem reads_readMember (hobeys : fields.Obeys level slots) (hdepth : level < depth)
    (hdistinct : slots.distinct = true)
    (hgives : slots.Gives (seen ++ member :: left) draft)
    (hallows : member.1 ∉ slots.names → ∃ solid, ScalarText solid ∧ Spaced solid member.2)
    (hgap : gap.all isSpace = true) (htail : endsValue tail = true) :
    ∃ after, after.all isSpace = true ∧
      Reads (fields.readMember depth member.1 (slots.within seen draft))
        (gap ++ ':' :: (member.2 ++ tail)) (slots.within (seen ++ [member]) draft)
        (after ++ tail) := by
  induction hobeys with
  | nil =>
    obtain ⟨solid, hsolid, htext⟩ := hallows List.not_mem_nil
    obtain ⟨after, hafter, hskip⟩ := reads_skipValue hsolid htext htail
    exact ⟨after, hafter,
      (reads_colonAfter hgap).bind (hskip.bind (reads_pure _))⟩
  | @cons _ _ field slot fields slots names ifMissing first others ih =>
    obtain ⟨given, draft⟩ := draft
    obtain ⟨hfirst, hothers⟩ := hgives
    rw [Slots.within, Slots.within, readMember, accepts_eq names member]
    cases htakes : slot.takes member with
    | true =>
      obtain ⟨hnone, value, hspells, rfl⟩ := hfirst.of_takes htakes
      obtain ⟨after, hafter, hreads⟩ := first.reads hspells htail hdepth
      have hvalue := (first.goesOn member.2 htail depth).reads hreads
      refine ⟨after, hafter, ?_⟩
      rw [Slots.within_concat_of_not_mem (Slots.not_mem_names hdistinct htakes)]
      simp only [hnone, List.any_append, List.any_cons, htakes, Bool.true_or, Bool.or_true,
        if_true, Bool.false_eq_true, if_false, Option.isSome_none]
      exact (reads_colonAfter hgap).bind (hvalue.bind (reads_pure _))
    | false =>
      have hmember : member.1 ∉ slot.names := by simpa [Slot.takes] using htakes
      obtain ⟨after, hafter, hreads⟩ := ih (Bool.and_eq_true_iff.1 hdistinct).2 hothers
        fun hnot => hallows (by simp [Slots.names, hmember, hnot])
      refine ⟨after, hafter, ?_⟩
      simp only [List.any_append, List.any_cons, htakes, List.any_nil, Bool.or_false,
        Bool.false_eq_true, if_false]
      exact hreads.bind (reads_pure _)

/-- A member of the right form is kept unless it is refused. -/
theorem settles_readMember (hobeys : fields.Obeys level slots) (hdepth : level < depth)
    (hdistinct : slots.distinct = true) (hadmits : slots.Admits member)
    (hholds : slots.Holds seen draft) (hgap : gap.all isSpace = true)
    (htail : endsValue tail = true) :
    ∃ after, after.all isSpace = true ∧
      Settles (fields.readMember depth member.1 draft) (gap ++ ':' :: (member.2 ++ tail))
        (after ++ tail) (slots.Holds (seen ++ [member])) := by
  induction hobeys with
  | nil =>
    obtain ⟨solid, hsolid, htext⟩ := hadmits
    obtain ⟨after, hafter, hskip⟩ := reads_skipValue hsolid htext htail
    exact ⟨after, hafter, .inr ⟨(), trivial,
      (reads_colonAfter hgap).bind (hskip.bind (reads_pure ()))⟩⟩
  | @cons _ _ field slot fields slots names ifMissing first others ih =>
    obtain ⟨given, draft⟩ := draft
    rw [Slots.Admits] at hadmits
    rw [readMember, accepts_eq names member]
    cases htakes : slot.takes member with
    | true =>
      rw [if_pos htakes] at hadmits
      obtain ⟨after, hafter, hsettles⟩ := first.settles hadmits htail hdepth
      have hvalue := (first.goesOn member.2 htail depth).settles hsettles
      refine ⟨after, hafter, ?_⟩
      rw [if_pos rfl]
      split
      · exact (fails_failBare _).settles
      · refine (reads_colonAfter hgap).goesOn.settles (hvalue.bind fun value _ => ?_)
        exact .inr ⟨(some value, draft), ⟨fun _ => rfl,
          hholds.2.concat_of_not_mem (Slots.not_mem_names hdistinct htakes)⟩, reads_pure _⟩
    | false =>
      rw [if_neg (by simp [htakes])] at hadmits
      obtain ⟨after, hafter, hsettles⟩ :=
        ih (Bool.and_eq_true_iff.1 hdistinct).2 hadmits hholds.2
      refine ⟨after, hafter, ?_⟩
      refine hsettles.bind fun draft hdraft => .inr ⟨(given, draft), ⟨?_, hdraft⟩, reads_pure _⟩
      simpa only [List.any_append, List.any_cons, htakes, List.any_nil, Bool.or_false]
        using hholds.1

/-- A member that repeats is not read. -/
theorem rejects_readMember (hobeys : fields.Obeys level slots) (hdepth : level < depth)
    (hdistinct : slots.distinct = true) (hrepeats : slots.Repeats seen member)
    (hholds : slots.Holds seen draft) (hgap : gap.all isSpace = true)
    (htail : endsValue tail = true) :
    Rejects (fields.readMember depth member.1 draft)
      (gap ++ ':' :: (member.2 ++ tail)) := by
  induction hobeys with
  | nil => exact hrepeats.elim
  | @cons _ _ field slot fields slots names ifMissing first others ih =>
    obtain ⟨given, draft⟩ := draft
    rw [readMember, accepts_eq names member]
    cases htakes : slot.takes member with
    | true =>
      have hthis : seen.any slot.takes = true ∨ slot.format.GivesTwice member.2 := by
        rcases hrepeats with ⟨-, hthis⟩ | hothers
        · exact hthis
        · exact absurd hothers.mem_names (Slots.not_mem_names hdistinct htakes)
      rw [if_pos rfl]
      split
      · exact (fails_failBare _).rejects _
      · rename_i hnone
        have htwice := hthis.resolve_left fun hseen => hnone (hholds.1 hseen)
        have hvalue := (first.goesOn member.2 htail depth).rejects
          (first.rejects htwice htail hdepth)
        exact (reads_colonAfter hgap).goesOn.rejects hvalue.bind
    | false =>
      have hothers : slots.Repeats seen member := by
        rcases hrepeats with ⟨hthis, -⟩ | hothers
        · rw [htakes] at hthis
          cases hthis
        · exact hothers
      exact (ih (Bool.and_eq_true_iff.1 hdistinct).2 hothers hholds.2).bind

/-- One member of an object is read. -/
theorem goesOn_readMembers (hobeys : fields.Obeys level slots) (hdepth : level < depth)
    (hdistinct : slots.distinct = true)
    (hgives : slots.Gives (seen ++ member :: left) draft)
    (hallows : member.1 ∉ slots.names → ∃ solid, ScalarText solid ∧ Spaced solid member.2)
    (hmember : MemberText text member) (more : List (List Char)) (steps : Nat)
    (isFirst : Bool) (hgap : gap.all isSpace = true) (rest : List Char) :
    ∃ after, after.all isSpace = true ∧
      GoesOn (fields.readMembers depth (steps + 1) isFirst (slots.within seen draft))
        (gap ++ (commas isFirst (text :: more) ++ '}' :: rest))
        (fields.readMembers depth steps false (slots.within (seen ++ [member]) draft))
        (after ++ (commas false more ++ '}' :: rest)) := by
  obtain ⟨between, hbetween, hgoes⟩ :=
    exists_goesOn_member isFirst hgap hmember more ('}' :: rest)
  have hend : endsValue (commas false more ++ '}' :: rest) = true :=
    endsValue_commas (.inr rfl) more
  obtain ⟨after, hafter, hreads⟩ :=
    hobeys.reads_readMember hdepth hdistinct hgives hallows hbetween hend
  exact ⟨after, hafter, (hgoes _ _).trans hreads.goesOn⟩

theorem reads_readMembers (hobeys : fields.Obeys level slots) (hdepth : level < depth)
    (hdistinct : slots.distinct = true) {texts : List (List Char)}
    (htexts : List.Forall₂ MemberText texts left) (hgives : slots.Gives (seen ++ left) draft)
    (hallows : slots.Allows left) {steps : Nat} (hsteps : texts.length < steps)
    (isFirst : Bool) (hgap : gap.all isSpace = true) (rest : List Char) :
    Reads (fields.readMembers depth steps isFirst (slots.within seen draft))
      (gap ++ (commas isFirst texts ++ '}' :: rest)) draft ('}' :: rest) := by
  induction htexts generalizing seen steps isFirst gap with
  | nil =>
    obtain ⟨steps, rfl⟩ : ∃ more, steps = more + 1 := ⟨steps - 1, by omega⟩
    rw [List.append_nil] at hgives
    rw [hgives.within_eq]
    exact (reads_hasMember_end isFirst hgap).bind (reads_pure draft)
  | @cons text member texts left first others ih =>
    obtain ⟨steps, rfl⟩ : ∃ more, steps = more + 1 := ⟨steps - 1, by omega⟩
    obtain ⟨after, hafter, hgoes⟩ := hobeys.goesOn_readMembers hdepth hdistinct hgives
      (hallows member List.mem_cons_self) first texts steps isFirst hgap rest
    rw [List.append_cons] at hgives
    exact hgoes.reads (ih hgives (fun other hother => hallows other
      (List.mem_cons_of_mem _ hother)) (Nat.lt_of_succ_lt_succ hsteps) false hafter)

/-- Members of the right form are read up to the end of the object unless one is
refused. -/
theorem settles_readMembers (hobeys : fields.Obeys level slots) (hdepth : level < depth)
    (hdistinct : slots.distinct = true) {texts : List (List Char)}
    (htexts : List.Forall₂ MemberText texts left)
    (hadmits : ∀ member ∈ left, slots.Admits member) (hholds : slots.Holds seen draft)
    (steps : Nat) (isFirst : Bool) (hgap : gap.all isSpace = true) (rest : List Char) :
    Settles (fields.readMembers depth steps isFirst draft)
      (gap ++ (commas isFirst texts ++ '}' :: rest)) ('}' :: rest) := by
  induction htexts generalizing seen draft steps isFirst gap with
  | nil =>
    cases steps with
    | zero => exact (fails_failHere _).settles
    | succ steps =>
      exact ((reads_hasMember_end isFirst hgap).bind (reads_pure draft)).settles
  | @cons text member texts left first others ih =>
    cases steps with
    | zero => exact (fails_failHere _).settles
    | succ steps =>
      obtain ⟨between, hbetween, hgoes⟩ :=
        exists_goesOn_member isFirst hgap first texts ('}' :: rest)
      have hend : endsValue (commas false texts ++ '}' :: rest) = true :=
        endsValue_commas (.inr rfl) texts
      obtain ⟨after, hafter, hsettles⟩ := hobeys.settles_readMember hdepth hdistinct
        (hadmits member List.mem_cons_self) hholds hbetween hend
      exact (hgoes _ _).settles (hsettles.bind fun draft hdraft => ih
        (fun other hother => hadmits other (List.mem_cons_of_mem _ hother)) hdraft steps
        false hafter)

/-- A member that repeats is reached behind members of the right form. -/
theorem rejects_readMembers (hobeys : fields.Obeys level slots) (hdepth : level < depth)
    (hdistinct : slots.distinct = true) {texts : List (List Char)}
    (htexts : List.Forall₂ MemberText texts left)
    (hadmits : ∀ member ∈ left, slots.Admits member) (hholds : slots.Holds seen draft)
    (hmember : MemberText text member) (hrepeats : slots.Repeats (seen ++ left) member)
    (more : List (List Char)) (steps : Nat) (isFirst : Bool) (hgap : gap.all isSpace = true)
    (rest : List Char) :
    Rejects (fields.readMembers depth steps isFirst draft)
      (gap ++ (commas isFirst (texts ++ text :: more) ++ '}' :: rest)) := by
  induction htexts generalizing seen draft steps isFirst gap with
  | nil =>
    cases steps with
    | zero => exact (fails_failHere _).rejects _
    | succ steps =>
      rw [List.append_nil] at hrepeats
      obtain ⟨between, hbetween, hgoes⟩ :=
        exists_goesOn_member isFirst hgap hmember more ('}' :: rest)
      have hend : endsValue (commas false more ++ '}' :: rest) = true :=
        endsValue_commas (.inr rfl) more
      exact (hgoes _ _).rejects
        (hobeys.rejects_readMember hdepth hdistinct hrepeats hholds hbetween hend).bind
  | @cons first other texts left firstText others ih =>
    cases steps with
    | zero => exact (fails_failHere _).rejects _
    | succ steps =>
      obtain ⟨between, hbetween, hgoes⟩ :=
        exists_goesOn_member isFirst hgap firstText (texts ++ text :: more) ('}' :: rest)
      have hend : endsValue (commas false (texts ++ text :: more) ++ '}' :: rest) = true :=
        endsValue_commas (.inr rfl) _
      obtain ⟨after, hafter, hsettles⟩ := hobeys.settles_readMember hdepth hdistinct
        (hadmits other List.mem_cons_self) hholds hbetween hend
      rw [List.append_cons] at hrepeats
      exact (hgoes _ _).rejects (hsettles.rejects fun draft hdraft => ih
        (fun other hother => hadmits other (List.mem_cons_of_mem _ hother)) hdraft hrepeats
        steps false hafter)

end Obeys

end Fields

theorem MemberText.ne_nil (hmember : MemberText text member) : text ≠ [] := by
  obtain ⟨key, -, rfl⟩ := hmember
  exact List.append_ne_nil_of_right_ne_nil key (List.cons_ne_nil ':' member.2)

theorem Decoder.Obeys.record {fields : Fields αs} {slots : Slots αs}
    (hobeys : fields.Obeys level slots) (hdistinct : slots.distinct = true)
    (typeName : String) (build : Values αs → α) :
    (Decoder.record typeName fields build).Obeys (level + 1) (.record slots build) where
  token _ := ⟨_, rfl⟩
  reads := by
    rintro text value ⟨members, draft, values, ⟨gap, texts, hgap, htexts, htext⟩, hallows,
      hgives, hfills, rfl⟩ tail htail depth hdepth
    obtain ⟨below, rfl⟩ : ∃ below, depth = below + 2 := ⟨depth - 2, by omega⟩
    obtain ⟨after, hafter, htext⟩ := htext.exists_gap rfl
    refine ⟨after, hafter, ?_⟩
    have hgives : slots.Gives ([] ++ members) draft := hgives
    have hne : ∀ text ∈ texts, text ≠ [] :=
      ((List.forall₂_and_left _ _).1 (htexts.imp fun _ _ hmember =>
        ⟨MemberText.ne_nil hmember, hmember⟩)).1
    have hmembers := hobeys.reads_readMembers (Nat.lt_of_succ_lt_succ hdepth) hdistinct
      htexts hgives hallows
      (length_lt_remaining hne gap ('}' :: (after ++ tail))) true hgap (after ++ tail)
    rw [← hobeys.blank_eq draft] at hmembers
    have hvalues : Reads (fields.readObject (below + 1))
        (gap ++ (commas true texts ++ '}' :: (after ++ tail))) values
        ('}' :: (after ++ tail)) := by
      refine Reads.remaining (hmembers.bind ?_)
      rw [hobeys.complete hfills]
      exact reads_pure values
    rw [htext]
    simp only [List.cons_append, List.append_assoc, List.nil_append]
    exact Reads.peekToken rfl (Reads.placed (reads_advance.bind
      ((hvalues.thenAlways reads_objectEnd).bind (reads_pure _))))
  settles := by
    rintro text ⟨members, ⟨gap, texts, hgap, htexts, htext⟩, hadmits⟩ tail htail depth hdepth
    obtain ⟨below, rfl⟩ : ∃ below, depth = below + 2 := ⟨depth - 2, by omega⟩
    obtain ⟨after, hafter, htext⟩ := htext.exists_gap rfl
    refine ⟨after, hafter, ?_⟩
    have hmembers (steps : Nat) := hobeys.settles_readMembers
      (Nat.lt_of_succ_lt_succ hdepth) hdistinct htexts hadmits
      (slots.holds_nil fields.blank) steps true hgap (after ++ tail)
    have hvalues : Settles (fields.readObject (below + 1))
        (gap ++ (commas true texts ++ '}' :: (after ++ tail))) ('}' :: (after ++ tail)) := by
      refine Settles.remaining ((hmembers _).bind fun draft _ => ?_)
      split
      · exact (reads_pure _).settles
      · exact (fails_failBare _).settles
    rw [htext]
    simp only [List.cons_append, List.append_assoc, List.nil_append]
    exact Settles.peekToken rfl (reads_advance.goesOn.settles
      ((hvalues.thenAlways reads_objectEnd).bind
        fun values _ => (reads_pure (build values)).settles)).placed
  rejects := by
    rintro text ⟨before, member, others, ⟨gap, texts, hgap, htexts, htext⟩, hadmits,
      hrepeats⟩ tail htail depth hdepth
    obtain ⟨below, rfl⟩ : ∃ below, depth = below + 2 := ⟨depth - 2, by omega⟩
    obtain ⟨after, hafter, htext⟩ := htext.exists_gap rfl
    have hfirst := List.forall₂_take_append texts before (member :: others) htexts
    obtain ⟨memberText, more, hmember, -, hlast⟩ := List.forall₂_cons_right_iff.1
      (List.forall₂_drop_append texts before (member :: others) htexts)
    have hrepeats : slots.Repeats ([] ++ before) member := hrepeats
    have hmembers (steps : Nat) := hobeys.rejects_readMembers
      (Nat.lt_of_succ_lt_succ hdepth) hdistinct hfirst hadmits
      (slots.holds_nil fields.blank) hmember hrepeats more steps true hgap (after ++ tail)
    rw [← hlast, List.take_append_drop] at hmembers
    rw [htext]
    simp only [List.cons_append, List.append_assoc, List.nil_append]
    exact Rejects.peekToken rfl (reads_advance.goesOn.rejects
      (Rejects.remaining (hmembers _).bind).thenAlways.bind).placed

end Wireform.Json
