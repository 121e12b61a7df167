import Mathlib
import Wireform.Proofs.Json.Decoding
import Wireform.Proofs.Json.Embedding

/-!
# Decoded records

The members of a printed record are put into its draft one by one, each into
the field that accepts its key.  A record whose fields are written in order,
with those left out that have a value when they are missing, gives its values
back.  The same is shown for the two members of a tagged value, in either order.
-/

namespace Wireform.Json

open Reader

variable {α : Type} {αs : List Type} {level : Nat} {rest : List Char}

namespace Fields

variable {fields : Fields αs}

/-- A member goes into a draft, from its document and from its printing. -/
structure Puts (level : Nat) (fields : Fields αs) (member : String × Json)
    (draft draft' : Draft αs) : Prop where
  ofJson : fields.putMember member.1 member.2 draft = .ok draft'
  reads : ∀ {rest}, endsValue rest = true → ∀ {depth}, level < depth →
    Reads (fields.readMember depth member.1 draft)
      (':' :: (member.2.print.toList ++ rest)) draft' rest

theorem puts_here {field : Field α} {others : Fields αs} {name : String} {document : Json}
    {value : α} (haccepts : field.accepts name = true)
    (hdecodes : Decodes level field.decoder document value) (draft : Draft αs) :
    (cons field others).Puts level (name, document) (none, draft) (some value, draft) where
  ofJson := by
    rw [putMember, haccepts, hdecodes.ofJson]
    rfl
  reads hrest _ hdepth := by
    rw [readMember, haccepts]
    exact reads_colon.bind ((hdecodes.reads hrest hdepth).bind (reads_pure _))

theorem Puts.there {field : Field α} {member : String × Json} {draft draft' : Draft αs}
    (hputs : fields.Puts level member draft draft')
    (haccepts : field.accepts member.1 = false) (given : Option α) :
    (cons field fields).Puts level member (given, draft) (given, draft') where
  ofJson := by
    rw [putMember, haccepts, hputs.ofJson]
    rfl
  reads hrest _ hdepth := by
    rw [readMember, haccepts]
    exact (hputs.reads hrest hdepth).bind (reads_pure _)

/-- Members go into a draft one after the other. -/
inductive PutsAll (level : Nat) (fields : Fields αs) :
    List (String × Json) → Draft αs → Draft αs → Prop where
  | nil {draft : Draft αs} : PutsAll level fields [] draft draft
  | cons {member : String × Json} {members : List (String × Json)}
      {draft next last : Draft αs} (first : fields.Puts level member draft next)
      (others : PutsAll level fields members next last) :
      PutsAll level fields (member :: members) draft last

variable {members : List (String × Json)} {draft last : Draft αs}

theorem PutsAll.there {field : Field α} (hputs : fields.PutsAll level members draft last)
    (haccepts : ∀ member ∈ members, field.accepts member.1 = false) (given : Option α) :
    (Fields.cons field fields).PutsAll level members (given, draft) (given, last) := by
  induction hputs with
  | nil => exact .nil
  | cons first others ih =>
    exact .cons (first.there (haccepts _ List.mem_cons_self) given)
      (ih fun member hmember => haccepts member (List.mem_cons_of_mem _ hmember))

theorem PutsAll.ofJson (hputs : fields.PutsAll level members draft last) :
    fields.putMembers members draft = .ok last := by
  induction hputs with
  | nil => rfl
  | cons first others ih =>
    rw [putMembers, first.ofJson]
    exact ih

theorem PutsAll.reads (hputs : fields.PutsAll level members draft last) {depth : Nat}
    (hdepth : level < depth) {steps : Nat} (hsteps : members.length < steps)
    (isFirst : Bool) :
    Reads (fields.readMembers depth steps isFirst draft)
      (commas isFirst (members.map memberText) ++ '}' :: rest) last
      ('}' :: rest) := by
  induction hputs generalizing steps isFirst with
  | nil =>
    obtain ⟨steps, rfl⟩ : ∃ more, steps = more + 1 := ⟨steps - 1, by omega⟩
    have hempty : ([] : List Char).all isSpace = true := rfl
    exact (reads_hasMember_end isFirst hempty).bind (reads_pure _)
  | @cons member members _ _ _ first others ih =>
    obtain ⟨steps, rfl⟩ : ∃ more, steps = more + 1 := ⟨steps - 1, by omega⟩
    have hend : endsValue (commas false (members.map memberText) ++ '}' :: rest) = true :=
      endsValue_commas (.inr rfl) _
    refine (reads_hasMember_cons isFirst member _).bind ?_
    rw [List.append_assoc]
    exact (reads_memberKey member).bind
      ((first.reads hend hdepth).bind (ih (Nat.lt_of_succ_lt_succ hsteps) false))

/-! ## Written fields -/

/-- The keys of the fields. -/
def keys {αs : List Type} : Fields αs → List String
  | nil => []
  | cons field rest => field.key :: rest.keys

/-- Whether no field accepts the key of a later one. -/
def distinct {αs : List Type} : Fields αs → Bool
  | nil => true
  | cons field rest => rest.keys.all (!field.accepts ·) && rest.distinct

/-- The members of a record written in the order of its fields, some of which
may be missing. -/
inductive Writes (level : Nat) : {αs : List Type} → Fields αs →
    List (String × Json) → Values αs → Prop where
  | nil : Writes level .nil [] ()
  | given {α : Type} {αs : List Type} {field : Field α} {fields : Fields αs}
      {document : Json} {value : α} {members : List (String × Json)} {values : Values αs}
      (first : Decodes level field.decoder document value)
      (others : Writes level fields members values) :
      Writes level (.cons field fields) ((field.key, document) :: members) (value, values)
  | missing {α : Type} {αs : List Type} {field : Field α} {fields : Fields αs}
      {value : α} {members : List (String × Json)} {values : Values αs}
      (first : field.ifMissing = some value)
      (others : Writes level fields members values) :
      Writes level (.cons field fields) members (value, values)

variable {values : Values αs}

/-- A field that is left out when it has no value. -/
theorem Writes.ifSome {key : String} {aliases : List String} {decoder : Decoder α}
    {encode : α → Json} {value : Option α}
    (first : ∀ present, value = some present →
      Decodes level decoder (encode present) present)
    (hnull : ∀ present, encode present ≠ .null)
    (others : fields.Writes level members values) :
    (cons (.optional key decoder aliases) fields).Writes level
      (memberIfSome key encode value ++ members) (value, values) := by
  cases value with
  | none => exact .missing rfl others
  | some value => exact .given ((first value rfl).present (hnull value)) others

theorem Writes.key_mem (hwrites : fields.Writes level members values) :
    ∀ member ∈ members, member.1 ∈ fields.keys := by
  induction hwrites with
  | nil => exact fun _ hmember => absurd hmember List.not_mem_nil
  | given first others ih =>
    intro member hmember
    obtain rfl | hmember := List.mem_cons.mp hmember
    · exact List.mem_cons_self
    · exact List.mem_cons_of_mem _ (ih member hmember)
  | missing first others ih =>
    exact fun member hmember => List.mem_cons_of_mem _ (ih member hmember)

theorem Writes.readable (hwrites : fields.Writes level members values) :
    Readable (level + 1) (.object members) := by
  induction hwrites with
  | nil => exact fun _ hmember => absurd hmember List.not_mem_nil
  | given first others ih =>
    intro member hmember
    obtain rfl | hmember := List.mem_cons.mp hmember
    · exact first.readable
    · exact ih member hmember
  | missing first others ih => exact ih

theorem Writes.putsAll (hwrites : fields.Writes level members values)
    (hdistinct : fields.distinct = true) :
    ∃ draft, fields.PutsAll level members fields.blank draft ∧
      fields.complete draft = .ok values := by
  induction hwrites with
  | nil => exact ⟨(), .nil, rfl⟩
  | @given _ _ field fields document value members values first others ih =>
    obtain ⟨hkeys, hothers⟩ := Bool.and_eq_true_iff.mp hdistinct
    obtain ⟨draft, hputs, hcomplete⟩ := ih hothers
    have hlater : ∀ member ∈ members, field.accepts member.1 = false :=
      fun member hmember => by
        simpa using List.all_eq_true.mp hkeys member.1 (others.key_mem member hmember)
    have hkey : field.accepts field.key = true := by simp [Field.accepts]
    refine ⟨(some value, draft), .cons (puts_here hkey first fields.blank)
      (hputs.there hlater _), ?_⟩
    exact complete_cons_eq_ok.mpr ⟨rfl, hcomplete⟩
  | @missing _ _ field fields value members values first others ih =>
    obtain ⟨hkeys, hothers⟩ := Bool.and_eq_true_iff.mp hdistinct
    obtain ⟨draft, hputs, hcomplete⟩ := ih hothers
    have hlater : ∀ member ∈ members, field.accepts member.1 = false :=
      fun member hmember => by
        simpa using List.all_eq_true.mp hkeys member.1 (others.key_mem member hmember)
    exact ⟨(none, draft), hputs.there hlater _,
      complete_cons_eq_ok.mpr ⟨first, hcomplete⟩⟩

/-- The members make up the value of a record. -/
theorem Writes.ofMembers (hwrites : fields.Writes level members values)
    (hdistinct : fields.distinct = true) (build : Values αs → α) :
    (do
      let draft ← fields.putMembers members fields.blank
      return build (← fields.complete draft)) = .ok (build values) := by
  obtain ⟨draft, hputs, hcomplete⟩ := hwrites.putsAll hdistinct
  rw [hputs.ofJson]
  change (fields.complete draft >>= fun values => pure (build values)) = _
  rw [hcomplete]
  rfl

/-- The printing of the members makes up the value of a record. -/
theorem Writes.reads_nested (hwrites : fields.Writes level members values)
    (hdistinct : fields.distinct = true) (build : Values αs → α) {depth : Nat}
    (hdepth : level + 1 < depth) :
    Reads
      (nested depth fun below => do
        advance
        let values ← thenAlways (fields.readObject below) objectEnd
        pure (build values))
      ((print (.object members)).toList ++ rest) (build values) rest := by
  obtain ⟨below, rfl⟩ : ∃ below, depth = below + 2 := ⟨depth - 2, by omega⟩
  obtain ⟨draft, hputs, hcomplete⟩ := hwrites.putsAll hdistinct
  have hsteps := length_lt_members members ('}' :: rest)
  have hvalues : Reads (fields.readObject (below + 1))
      (commas true (members.map memberText) ++ '}' :: rest) values
      ('}' :: rest) := by
    refine Reads.remaining
      ((hputs.reads (Nat.lt_of_succ_lt_succ hdepth) hsteps true).bind ?_)
    rw [hcomplete]
    exact reads_pure values
  rw [toList_print_object, List.append_assoc]
  exact reads_advance.bind ((hvalues.thenAlways reads_objectEnd).bind (reads_pure _))

end Fields

namespace Decodes

variable {fields : Fields αs} {members : List (String × Json)} {values : Values αs}

theorem record (typeName : String) {build : Values αs → α}
    (hdistinct : fields.distinct = true) (hwrites : fields.Writes level members values) :
    Decodes (level + 1) (.record typeName fields build) (.object members)
      (build values) where
  readable := hwrites.readable
  ofJson := hwrites.ofMembers hdistinct build
  reads {rest} _ _ hdepth := by
    have hnested : Reads _ ((print (.object members)).toList ++ rest) (build values) rest :=
      hwrites.reads_nested hdistinct build hdepth
    rw [toList_print_object, List.append_assoc] at hnested ⊢
    exact Reads.peekToken rfl hnested.placed

/-- The same for records that must be objects. -/
theorem objectOnly (expected : String) {build : Values αs → α}
    (hdistinct : fields.distinct = true) (hwrites : fields.Writes level members values) :
    Decodes (level + 1) (.objectOnly expected fields build) (.object members)
      (build values) where
  readable := hwrites.readable
  ofJson := hwrites.ofMembers hdistinct build
  reads {rest} _ _ hdepth := by
    have hnested : Reads _ ((print (.object members)).toList ++ rest) (build values) rest :=
      hwrites.reads_nested hdistinct build hdepth
    rw [toList_print_object, List.append_assoc] at hnested ⊢
    exact Reads.peekToken rfl hnested.placed

end Decodes

/-! ## Tagged values -/

namespace Decoder

variable {keys : TagKeys} {cases : List (String × Decoder α)} {name : String}
  {contents : Decoder α} {text middle gap : List Char} {value : α}

theorem partOf_tag (keys : TagKeys) : partOf keys keys.tag = some .tag := if_pos rfl

theorem partOf_contents (hkeys : keys.tag ≠ keys.contents) :
    partOf keys keys.contents = some .contents := by
  rw [partOf, if_neg hkeys.symm, if_pos rfl]

/-- A member that matters is found when its key comes next. -/
theorem reads_toPart_first {part : Part} (hpart : partOf keys name = some part) :
    Reads (toPart keys true) ((literal name).toList ++ rest) (some part) rest := by
  have hkey : Reads key ((literal name).toList ++ rest) name rest := reads_key name
  rw [toList_literal] at hkey ⊢
  refine Reads.remaining (Reads.bind (Reads.peekToken rfl (reads_pure true)) (hkey.bind ?_))
  rw [hpart]
  exact reads_pure _

theorem reads_toPart_next {part : Part} (hpart : partOf keys name = some part) :
    Reads (toPart keys false) (',' :: ((literal name).toList ++ rest)) (some part) rest := by
  have hkey : Reads key ((literal name).toList ++ rest) name rest := reads_key name
  rw [toList_literal] at hkey ⊢
  refine Reads.remaining (Reads.bind (Reads.peekToken rfl
    (reads_advance.bind (Reads.peekToken rfl (reads_pure true)))) (hkey.bind ?_))
  rw [hpart]
  exact reads_pure _

theorem reads_noMoreParts (hgap : gap.all isSpace = true) :
    Reads (noMoreParts keys) (gap ++ '}' :: rest) () ('}' :: rest) := by
  have hpart : Reads (toPart keys false) (gap ++ '}' :: rest) none ('}' :: rest) :=
    Reads.remaining (Reads.bind (Reads.peekTokenAfter hgap rfl (reads_pure false))
      (reads_pure none))
  exact hpart.bind (reads_pure ())

/-- The name of a case, before the end of a value around it. -/
theorem reads_tag (hcase : cases.lookup name = some contents)
    (hrest : endsValue rest = true) {depth : Nat} (hdepth : 0 < depth) :
    Reads ((choice cases).read depth) ((literal name).toList ++ rest) contents rest := by
  have hreads := (Decodes.choice hcase).reads hrest hdepth
  rwa [print] at hreads

/-- A tagged value whose tag comes first: its contents are read as they stand in
the text. -/
theorem reads_tag_contents (hkeys : keys.tag ≠ keys.contents)
    (hcase : cases.lookup name = some contents) {depth : Nat} (hdepth : 0 < depth)
    (hgap : gap.all isSpace = true)
    (hcontents : Reads (contents.read depth) text value (gap ++ '}' :: rest)) :
    Reads (readParts keys cases depth)
      ((literal keys.tag).toList ++ ':' :: ((literal name).toList ++
        ',' :: ((literal keys.contents).toList ++ ':' :: text))) value ('}' :: rest) := by
  refine (reads_toPart_first (partOf_tag keys)).bind (reads_colon.bind ?_)
  refine (reads_tag hcase rfl hdepth).bind ?_
  refine (reads_toPart_next (partOf_contents hkeys)).bind (reads_colon.bind ?_)
  exact hcontents.bind ((reads_noMoreParts hgap).bind (reads_pure value))

/-- A tagged value whose contents come first: they are kept as a document. -/
theorem reads_contents_tag (hkeys : keys.tag ≠ keys.contents)
    (hcase : cases.lookup name = some contents) {document : Json} {depth : Nat}
    (hdecodes : Decodes level contents document value) (hdepth : level < depth) :
    Reads (readParts keys cases depth)
      ((literal keys.contents).toList ++ ':' :: (document.print.toList ++
        ',' :: ((literal keys.tag).toList ++ ':' :: ((literal name).toList ++ '}' :: rest))))
      value ('}' :: rest) := by
  refine (reads_toPart_first (partOf_contents hkeys)).bind (reads_colon.bind ?_)
  refine (hdecodes.readable.reads_value hdepth rfl).bind ?_
  refine (reads_toPart_next (partOf_tag keys)).bind (reads_colon.bind ?_)
  refine (reads_tag hcase rfl (Nat.zero_lt_of_lt hdepth)).bind ?_
  rw [hdecodes.ofJson]
  have hnoMore : Reads (noMoreParts keys) ([] ++ '}' :: rest) () ('}' :: rest) :=
    reads_noMoreParts rfl
  exact hnoMore.bind (reads_pure value)

/-- A text with the members of a tagged value between braces is decoded. -/
theorem decodeTagged_of_reads {text : String} {inside : List Char}
    (htext : text.toList = '{' :: inside)
    (hreads : Reads (readParts keys cases 127) inside value ['}']) :
    decodeTagged keys cases text = .ok value := by
  have hwhole : Reads (readTagged keys cases maxDepth) text.toList value [] := by
    rw [htext]
    exact Reads.peekToken rfl (Reads.placed
      (reads_advance.bind (hreads.thenAlways reads_objectEnd)))
  exact hwhole.readWhole rfl

variable {document : Json}

/-- A printed tagged value is decoded. -/
theorem decodeTagged_tag_contents (hkeys : keys.tag ≠ keys.contents)
    (hcase : cases.lookup name = some contents)
    (hdecodes : Decodes level contents document value) (hlevel : level < 127) :
    decodeTagged keys cases
      (print (.object [(keys.tag, .string name), (keys.contents, document)])) =
        .ok value := by
  have hcontents : Reads (contents.read 127) (document.print.toList ++ ['}']) value
      ([] ++ ['}']) := hdecodes.reads rfl hlevel
  refine decodeTagged_of_reads ?_ (reads_tag_contents hkeys hcase (by decide) rfl hcontents)
  rw [toList_print_object]
  simp [commas, memberText, print]

/-- A printed tagged value is decoded with its members in the other order, too. -/
theorem decodeTagged_contents_tag (hkeys : keys.tag ≠ keys.contents)
    (hcase : cases.lookup name = some contents)
    (hdecodes : Decodes level contents document value) (hlevel : level < 127) :
    decodeTagged keys cases
      (print (.object [(keys.contents, document), (keys.tag, .string name)])) =
        .ok value := by
  refine decodeTagged_of_reads ?_ (reads_contents_tag hkeys hcase hdecodes hlevel)
  rw [toList_print_object]
  simp [commas, memberText, print]

end Decoder

end Wireform.Json
