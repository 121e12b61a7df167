import Mathlib
import Wireform.Proofs.Json.Numbers

/-!
# Printed documents

Reading a printed document gives the document back, wherever its end can be
told.  Lists and objects are read item by item, with the commas that stand
between the items.
-/

namespace Wireform.Json

open Reader

variable {α : Type} {rest : List Char}

/-- A document that reading can recover: its brackets are nested to a level at
most, its integers are natural numbers of 64 bits, and its other numbers are
read back from their printing. -/
def Readable : Nat → Json → Prop
  | _, .null => True
  | _, .boolean _ => True
  | _, .integer n => 0 ≤ n ∧ n ≤ Reader.maxUnsigned
  | _, .number x => x.ReadsBack
  | _, .string _ => True
  | 0, .array _ => False
  | level + 1, .array items => ∀ item ∈ items, Readable level item
  | 0, .object _ => False
  | level + 1, .object members => ∀ member ∈ members, Readable level member.2

/-! ## Texts with commas -/

/-- The texts of items; the first one has no comma before it if it is the first
of all. -/
def commas : Bool → List (List Char) → List Char
  | _, [] => []
  | true, text :: more => text ++ commas false more
  | false, text :: more => ',' :: text ++ commas false more

theorem endsValue_commas {close : Char} (hclose : close = ']' ∨ close = '}')
    (texts : List (List Char)) : endsValue (commas false texts ++ close :: rest) = true := by
  cases texts with
  | nil => obtain rfl | rfl := hclose <;> rfl
  | cons text more => rfl

/-- There are no more texts than characters. -/
theorem length_le_commas (isFirst : Bool) {texts : List (List Char)}
    (htexts : ∀ text ∈ texts, text ≠ []) :
    texts.length ≤ (commas isFirst texts).length := by
  induction texts generalizing isFirst with
  | nil => exact Nat.zero_le _
  | cons text more ih =>
    have hmore := ih false fun text htext => htexts text (List.mem_cons_of_mem _ htext)
    have htext := List.length_pos_of_ne_nil (htexts text List.mem_cons_self)
    cases isFirst <;> simp only [commas, List.length_cons, List.length_append] <;> omega

/-- The characters that are left are steps enough for the texts. -/
theorem length_lt_remaining {texts : List (List Char)} (htexts : ∀ text ∈ texts, text ≠ [])
    (gap rest : List Char) :
    texts.length < (gap ++ (commas true texts ++ rest)).length + 1 := by
  have hlength := length_le_commas true htexts
  rw [List.length_append, List.length_append]
  omega

theorem toList_printItems (items : List Json) :
    (printItems items).toList = commas true (items.map fun item => item.print.toList) := by
  induction items with
  | nil => rfl
  | cons item rest ih =>
    cases rest with
    | nil => simp [printItems, commas]
    | cons next more =>
      rw [printItems, String.toList_append, String.toList_append, ih]
      · simp [commas]
      · nofun

/-- A member as it is printed. -/
def memberText (member : String × Json) : List Char :=
  (literal member.1).toList ++ ':' :: member.2.print.toList

theorem toList_printMembers (members : List (String × Json)) :
    (printMembers members).toList = commas true (members.map memberText) := by
  induction members with
  | nil => rfl
  | cons member rest ih =>
    obtain ⟨key, value⟩ := member
    cases rest with
    | nil => simp [printMembers, commas, memberText]
    | cons next more =>
      rw [printMembers, String.toList_append, String.toList_append, ih]
      · simp [commas, memberText]
      · nofun

theorem toList_print_array (items : List Json) :
    (print (.array items)).toList =
      '[' :: commas true (items.map fun item => item.print.toList) ++ [']'] := by
  rw [print, String.toList_append, String.toList_append, toList_printItems]
  rfl

theorem toList_print_object (members : List (String × Json)) :
    (print (.object members)).toList =
      '{' :: commas true (members.map memberText) ++ ['}'] := by
  rw [print, String.toList_append, String.toList_append, toList_printMembers]
  rfl

/-! ## First characters -/

/-- Whether a character may begin the printing of a document. -/
def begins : Json → Char → Prop
  | .null, c => c = 'n'
  | .boolean value, c => c = if value then 't' else 'f'
  | .integer _, c => isDigit c = true
  | .number _, c => startsNumber c = true
  | .string _, c => c = '"'
  | .array _, c => c = '['
  | .object _, c => c = '{'

theorem isDigit_ne {c d : Char} (hc : isDigit c = true) (hd : isDigit d = false) :
    c ≠ d := by
  rintro rfl
  rw [hc] at hd
  cases hd

theorem scalar_of_isDigit {c : Char} (hc : isDigit c = true) : scalar c = Reader.number false := by
  rw [scalar, if_neg (isDigit_ne hc rfl), if_neg (isDigit_ne hc rfl),
    if_neg (isDigit_ne hc rfl), if_neg (isDigit_ne hc rfl), if_pos hc]

theorem toList_print_natural (n : Nat) :
    (print (.integer n)).toList = Nat.toDigits 10 n := by
  rw [print]
  change (toString n).toList = _
  rw [Nat.toString_eq_ofList_toDigits, String.toList_ofList]

theorem reads_named (c : Char) (letters : List Char) (document : Json) :
    Reads (do advance; word letters; pure document) (c :: (letters ++ rest)) document rest :=
  reads_advance.bind ((reads_word letters).bind (reads_pure document))

/-- A document without brackets is read by its first character. -/
theorem Readable.reads_scalar {document : Json} (hreadable : Readable 0 document)
    (hrest : endsValue rest = true) :
    ∃ c more, document.print.toList = c :: more ∧ document.begins c ∧
      Reads (scalar c) (document.print.toList ++ rest) document rest := by
  cases document with
  | null =>
    exact ⟨'n', "ull".toList, rfl, rfl, reads_named 'n' "ull".toList .null⟩
  | boolean value =>
    cases value with
    | true =>
      exact ⟨'t', "rue".toList, rfl, rfl, reads_named 't' "rue".toList (.boolean true)⟩
    | false =>
      exact ⟨'f', "alse".toList, rfl, rfl, reads_named 'f' "alse".toList (.boolean false)⟩
  | integer n =>
    obtain ⟨hnatural, hlimit⟩ := hreadable
    obtain ⟨n, rfl⟩ := Int.eq_ofNat_of_zero_le hnatural
    cases hdigits : Nat.toDigits 10 n with
    | nil => exact absurd hdigits Nat.toDigits_ne_nil
    | cons c more =>
      have hc : isDigit c = true :=
        Nat.isDigit_of_mem_toDigits (by decide) (by decide) (hdigits ▸ List.mem_cons_self)
      rw [toList_print_natural]
      refine ⟨c, more, hdigits, hc, ?_⟩
      rw [scalar_of_isDigit hc]
      exact reads_natural (by exact_mod_cast hlimit) hrest
  | number x => exact Binary64.ReadsBack.reads_scalar hreadable hrest
  | string value =>
    rw [print, toList_literal]
    refine ⟨'"', literalRest value, rfl, rfl, ?_⟩
    exact reads_advance.bind ((reads_stringBody value).bind (reads_pure _))
  | array items => exact hreadable.elim
  | object members => exact hreadable.elim

theorem Readable.exists_head {level : Nat} {document : Json}
    (hreadable : Readable level document) :
    ∃ c more, document.print.toList = c :: more ∧ document.begins c := by
  have hscalar (hzero : Readable 0 document) :
      ∃ c more, document.print.toList = c :: more ∧ document.begins c := by
    have hempty : endsValue [] = true := rfl
    obtain ⟨c, more, htext, hc, -⟩ := hzero.reads_scalar hempty
    exact ⟨c, more, htext, hc⟩
  cases document with
  | array items => exact ⟨'[', _, toList_print_array items, rfl⟩
  | object members => exact ⟨'{', _, toList_print_object members, rfl⟩
  | _ => exact hscalar (by cases level <;> exact hreadable)

/-- Nothing that begins a document is white space or ends a value. -/
theorem begins_ne {document : Json} {c : Char} (hc : document.begins c) :
    isSpace c = false ∧ c ≠ ']' ∧ c ≠ '}' := by
  have hdigit (hc : isDigit c = true) : isSpace c = false ∧ c ≠ ']' ∧ c ≠ '}' := by
    refine ⟨?_, isDigit_ne hc rfl, isDigit_ne hc rfl⟩
    simp [isSpace, isDigit_ne (d := ' ') hc rfl, isDigit_ne (d := '\n') hc rfl,
      isDigit_ne (d := '\t') hc rfl, isDigit_ne (d := '\r') hc rfl]
  cases document with
  | integer n => exact hdigit hc
  | number x =>
    rw [begins, startsNumber, Bool.or_eq_true, decide_eq_true_eq] at hc
    obtain rfl | hc := hc
    · decide
    · exact hdigit hc
  | boolean value =>
    cases value <;>
    · obtain rfl := hc
      decide
  | _ =>
    obtain rfl := hc
    decide

theorem Readable.begins_ne_bracket {document : Json} {c : Char}
    (hreadable : Readable 0 document) (hc : document.begins c) : c ≠ '[' ∧ c ≠ '{' := by
  constructor
  all_goals
    rintro rfl
    cases document with
    | array items => exact hreadable
    | object members => exact hreadable
    | boolean value => cases value <;> simp [begins] at hc
    | _ => simp [begins, startsNumber, isDigit] at hc

/-! ## Items and members -/

/-- The text of an item is read as its value, but for white space in front of it and
behind it. -/
structure ReadsItem (item : Reader α) (text : List Char) (value : α) : Prop where
  opens : ∃ c more, text.dropWhile isSpace = c :: more ∧ c ≠ ']'
  reads : ∀ {rest}, endsValue rest = true → ∃ gap, gap.all isSpace = true ∧
    Reads item (text.dropWhile isSpace ++ rest) value (gap ++ rest)

theorem ReadsItem.ofSolid {item : Reader α} {value : α} {c : Char} {more : List Char}
    (hspace : isSpace c = false) (hclose : c ≠ ']')
    (hreads : ∀ rest, endsValue rest = true → Reads item (c :: more ++ rest) value rest) :
    ReadsItem item (c :: more) value := by
  have hsolid : (c :: more).dropWhile isSpace = c :: more :=
    List.dropWhile_cons_of_neg (by simp [hspace])
  refine ⟨⟨c, more, hsolid, hclose⟩, fun {rest} hrest => ⟨[], rfl, ?_⟩⟩
  rw [hsolid]
  exact hreads rest hrest

/-- The end of a list is found behind the white space in front of it. -/
theorem reads_hasItem_end (isFirst : Bool) {gap : List Char}
    (hgap : gap.all isSpace = true) :
    Reads (hasItem isFirst) (gap ++ ']' :: rest) false (']' :: rest) :=
  Reads.peekTokenAfter hgap rfl (reads_pure false)

/-- The next item of a list is found behind the white space in front of it. -/
theorem reads_hasItem (isFirst : Bool) {gap text inside : List Char} {c : Char}
    (hgap : gap.all isSpace = true) (htext : text.dropWhile isSpace = c :: inside)
    (hclose : c ≠ ']') (more : List (List Char)) (rest : List Char) :
    Reads (hasItem isFirst) (gap ++ (commas isFirst (text :: more) ++ rest)) true
      (text.dropWhile isSpace ++ (commas false more ++ rest)) := by
  have hspace : isSpace c = false := by
    simpa [htext] using List.head?_dropWhile_not isSpace text
  have hblank : (text.takeWhile isSpace).all isSpace = true := List.all_takeWhile
  have hsplit : text = text.takeWhile isSpace ++ c :: inside := by
    rw [← htext, List.takeWhile_append_dropWhile]
  have hsolid : startsSolid (c :: (inside ++ (commas false more ++ rest))) = true := by
    simp [startsSolid, hspace]
  rw [htext]
  generalize text.takeWhile isSpace = blank at hblank hsplit
  subst hsplit
  cases isFirst with
  | true =>
    have hgaps : (gap ++ blank).all isSpace = true := by
      rw [List.all_append, hgap, hblank]
      rfl
    simp only [commas, List.append_assoc, List.cons_append]
    rw [← List.append_assoc]
    refine Reads.peekTokenAfter hgaps hsolid ?_
    simp only [List.head?_cons, if_neg hclose, if_true]
    exact reads_pure true
  | false =>
    simp only [commas, List.append_assoc, List.cons_append]
    refine Reads.peekTokenAfter hgap rfl (reads_advance.bind
      (Reads.peekTokenAfter hblank hsolid ?_))
    simp only [List.head?_cons, if_neg hclose]
    exact reads_pure true

/-- The end of an object is found behind the white space in front of it. -/
theorem reads_hasMember_end (isFirst : Bool) {gap : List Char}
    (hgap : gap.all isSpace = true) :
    Reads (hasMember isFirst) (gap ++ '}' :: rest) false ('}' :: rest) :=
  Reads.peekTokenAfter hgap rfl (reads_pure false)

theorem reads_hasMember_cons (isFirst : Bool) (member : String × Json)
    (more : List (List Char)) :
    Reads (hasMember isFirst) (commas isFirst (memberText member :: more) ++ rest) true
      (memberText member ++ commas false more ++ rest) := by
  rw [memberText, toList_literal]
  cases isFirst with
  | true => exact Reads.peekToken rfl (reads_pure true)
  | false =>
    exact Reads.peekToken rfl
      (reads_advance.bind (Reads.peekToken rfl (reads_pure true)))

theorem reads_colonAfter {gap : List Char} (hgap : gap.all isSpace = true) :
    Reads colon (gap ++ ':' :: rest) () rest :=
  Reads.peekTokenAfter hgap rfl reads_advance

theorem reads_colon : Reads colon (':' :: rest) () rest :=
  Reads.peekToken rfl reads_advance

theorem reads_listEnd : Reads listEnd (']' :: rest) () rest :=
  Reads.peekToken rfl reads_advance

theorem reads_objectEnd : Reads objectEnd ('}' :: rest) () rest :=
  Reads.peekToken rfl reads_advance

/-- A list is read item by item, with white space wherever it may stand. -/
theorem reads_itemsFrom {item : Reader α} {texts : List (List Char)} {values : List α}
    (hitems : List.Forall₂ (ReadsItem item) texts values) {steps : Nat}
    (hsteps : texts.length < steps) (isFirst : Bool) {gap : List Char}
    (hgap : gap.all isSpace = true) (rest : List Char) :
    Reads (itemsFrom item steps isFirst) (gap ++ (commas isFirst texts ++ ']' :: rest))
      values (']' :: rest) := by
  induction hitems generalizing steps isFirst gap with
  | nil =>
    obtain ⟨steps, rfl⟩ : ∃ more, steps = more + 1 := ⟨steps - 1, by omega⟩
    exact (reads_hasItem_end isFirst hgap).bind (reads_pure [])
  | @cons text value texts values first others ih =>
    obtain ⟨steps, rfl⟩ : ∃ more, steps = more + 1 := ⟨steps - 1, by omega⟩
    obtain ⟨c, inside, htext, hclose⟩ := first.opens
    have hend : endsValue (commas false texts ++ ']' :: rest) = true :=
      endsValue_commas (.inl rfl) texts
    obtain ⟨between, hbetween, hfirst⟩ := first.reads hend
    have hothers := ih (Nat.lt_of_succ_lt_succ hsteps) false hbetween
    refine (reads_hasItem isFirst hgap htext hclose texts (']' :: rest)).bind ?_
    exact hfirst.bind (hothers.bind (reads_pure _))

theorem reads_items {item : Reader α} {texts : List (List Char)} {values : List α}
    (hitems : List.Forall₂ (ReadsItem item) texts values) {gap : List Char}
    (hgap : gap.all isSpace = true) (rest : List Char) :
    Reads (thenAlways (items item) listEnd) (gap ++ (commas true texts ++ ']' :: rest))
      values rest := by
  have hopens : ∀ text ∈ texts, text ≠ [] :=
    ((List.forall₂_and_left _ _).1 (hitems.imp fun text value hitem =>
      ⟨by rintro rfl; exact absurd hitem.opens nofun, hitem⟩)).1
  exact Reads.thenAlways (Reads.remaining (reads_itemsFrom hitems
    (length_lt_remaining hopens gap (']' :: rest)) true hgap rest)) reads_listEnd

/-- The key of a printed member and the colon behind it. -/
theorem reads_memberKey (member : String × Json) :
    Reads key (memberText member ++ rest) member.1
      (':' :: (member.2.print.toList ++ rest)) := by
  rw [memberText, List.append_assoc, List.cons_append]
  exact reads_key member.1

/-- An object of printed members is read member by member. -/
theorem reads_membersFrom {reader : Reader Json} {members : List (String × Json)}
    (hvalue : ∀ member ∈ members, ∀ rest, endsValue rest = true →
      Reads reader (member.2.print.toList ++ rest) member.2 rest)
    {steps : Nat} (hsteps : members.length < steps) (isFirst : Bool) :
    Reads (membersFrom reader steps isFirst)
      (commas isFirst (members.map memberText) ++ '}' :: rest) members
      ('}' :: rest) := by
  induction members generalizing steps isFirst with
  | nil =>
    obtain ⟨steps, rfl⟩ : ∃ more, steps = more + 1 := ⟨steps - 1, by omega⟩
    have hempty : ([] : List Char).all isSpace = true := rfl
    exact (reads_hasMember_end isFirst hempty).bind (reads_pure [])
  | cons member members ih =>
    obtain ⟨steps, rfl⟩ : ∃ more, steps = more + 1 := ⟨steps - 1, by omega⟩
    have hfirst := hvalue member List.mem_cons_self
      (commas false (members.map memberText) ++ '}' :: rest)
      (endsValue_commas (.inr rfl) _)
    have hothers := ih (fun other hother => hvalue other (List.mem_cons_of_mem _ hother))
      (Nat.lt_of_succ_lt_succ hsteps) false
    refine (reads_hasMember_cons isFirst member _).bind ?_
    rw [List.append_assoc]
    exact (reads_memberKey member).bind
      (reads_colon.bind (hfirst.bind (hothers.bind (reads_pure _))))

theorem length_lt_members (members : List (String × Json)) (rest : List Char) :
    members.length < (commas true (members.map memberText) ++ rest).length + 1 := by
  have htexts : ∀ chars ∈ members.map memberText, chars ≠ [] := by
    intro chars hchars
    obtain ⟨member, -, rfl⟩ := List.mem_map.mp hchars
    rw [memberText, toList_literal]
    exact List.cons_ne_nil _ _
  have hlength := length_lt_remaining htexts [] rest
  rwa [List.length_map] at hlength

theorem reads_members {reader : Reader Json} {members : List (String × Json)}
    (hvalue : ∀ member ∈ members, ∀ rest, endsValue rest = true →
      Reads reader (member.2.print.toList ++ rest) member.2 rest) :
    Reads (thenAlways (Reader.members reader) objectEnd)
      (commas true (members.map memberText) ++ '}' :: rest) members rest :=
  Reads.thenAlways (Reads.remaining (reads_membersFrom hvalue
    (length_lt_members members ('}' :: rest)) true)) reads_objectEnd

/-! ## Whole documents -/

/-- What reads the printing of a document reads it as an item of a list. -/
theorem Readable.readsItem {level : Nat} {document : Json} {item : Reader α} {value : α}
    (hreadable : Readable level document)
    (hreads : ∀ rest, endsValue rest = true →
      Reads item (document.print.toList ++ rest) value rest) :
    ReadsItem item document.print.toList value := by
  obtain ⟨c, more, htext, hc⟩ := hreadable.exists_head
  rw [htext] at hreads ⊢
  exact .ofSolid (begins_ne hc).1 (begins_ne hc).2.1 hreads

/-- A printed document is read back before the end of a value around it. -/
theorem Readable.reads_value {level : Nat} {document : Json}
    (hreadable : Readable level document) {depth : Nat} (hdepth : level < depth)
    (hrest : endsValue rest = true) :
    Reads (value depth) (document.print.toList ++ rest) document rest := by
  induction depth generalizing level document rest with
  | zero => exact absurd hdepth (Nat.not_lt_zero level)
  | succ below ih =>
    have hscalar (hzero : Readable 0 document) :
        Reads (value (below + 1)) (document.print.toList ++ rest) document rest := by
      obtain ⟨c, more, htext, hc, hreads⟩ := hzero.reads_scalar hrest
      obtain ⟨hspace, -, -⟩ := begins_ne hc
      rw [htext] at hreads ⊢
      obtain ⟨hlist, hobject⟩ := hzero.begins_ne_bracket hc
      refine Reads.peekToken (by simp [startsSolid, hspace]) ?_
      simp only [List.cons_append, List.head?_cons, if_neg hlist, if_neg hobject]
      exact hreads
    cases document with
    | array items =>
      cases level with
      | zero => exact hreadable.elim
      | succ level =>
        have hitems : List.Forall₂ (ReadsItem (value below))
            (items.map (·.print.toList)) items := by
          rw [List.forall₂_map_left_iff, List.forall₂_same]
          exact fun item hitem => (hreadable item hitem).readsItem fun rest hrest =>
            ih (hreadable item hitem) (Nat.lt_of_succ_lt_succ hdepth) hrest
        have hbelow : below ≠ 0 := by omega
        rw [toList_print_array, List.append_assoc]
        refine Reads.peekToken rfl ?_
        change Reads (if below = 0 then _ else _) _ _ _
        rw [if_neg hbelow]
        have hgap : ([] : List Char).all isSpace = true := rfl
        exact reads_advance.bind ((reads_items hitems hgap rest).bind (reads_pure _))
    | object members =>
      cases level with
      | zero => exact hreadable.elim
      | succ level =>
        have hvalue : ∀ member ∈ members, ∀ rest, endsValue rest = true →
            Reads (value below) (member.2.print.toList ++ rest) member.2 rest :=
          fun member hmember rest hrest =>
            ih (hreadable member hmember) (Nat.lt_of_succ_lt_succ hdepth) hrest
        have hbelow : below ≠ 0 := by omega
        rw [toList_print_object, List.append_assoc]
        refine Reads.peekToken rfl ?_
        change Reads (if below = 0 then _ else _) _ _ _
        rw [if_neg hbelow]
        exact reads_advance.bind ((reads_members hvalue).bind (reads_pure _))
    | _ => exact hscalar (by cases level <;> exact hreadable)

/-- Reading inverts printing, within the depth that is read. -/
theorem parse_print {level : Nat} {document : Json} (hreadable : Readable level document)
    (hlevel : level < maxDepth) : parse document.print = .ok document := by
  have hreads : Reads _ (document.print.toList ++ []) document [] :=
    hreadable.reads_value hlevel rfl
  rw [List.append_nil] at hreads
  exact hreads.readWhole rfl

end Wireform.Json
