import Mathlib
import Wireform.Proofs.Json.Following
import Wireform.Json.Tagged

/-!
# Decoders before a longer text

Decoders are made of readers, so their successes carry over to longer texts as
well, and to any other depth that is large enough for the values they decode.
A record can be compared with one whose fields hold more: a field that may be
missing, for instance, with one that must be given.
-/

namespace Wireform.Json

open Reader

variable {α β : Type} {level : Nat} {tail : List Char} {embed : β → α}

/-- Whenever `first` decodes the image of a value, `second` decodes the value
where the same text goes on, both at depths greater than a level. -/
structure Decoder.Follows (level : Nat) (embed : β → α) (first : Decoder α)
    (second : Decoder β) : Prop where
  read : ∀ {tail}, endsValue tail = true → ∀ {depth depth'}, level < depth →
    level < depth' → Reader.Follows tail embed (first.read depth) (second.read depth')

/-- The successes of a decoder depend neither on the depth nor on the text
behind them. -/
abbrev Decoder.Steady (level : Nat) (decoder : Decoder α) : Prop :=
  Decoder.Follows level id decoder decoder

namespace Reader

theorem fails_wrongForm (expected : String) : Fails (wrongForm expected : Reader α) := by
  refine Fails.bind fun head => ?_
  cases head with
  | none => exact fails_failHere _
  | some c =>
    dsimp only
    split
    · exact fails_failBare _
    · split
      · exact fails_failBare _
      · exact Fails.bind fun _ => fails_failBare _

theorem follows_atToken {f : Char → Reader α} {g : Char → Reader β}
    (htail : endsValue tail = true)
    (hinside : ∀ c, FollowsInside tail embed (f c) (g c)) :
    Follows tail embed (atToken f) (atToken g) :=
  Follows.peekToken htail (fails_failHere _).follows fun c => (hinside c).placed

theorem steady_expectScalar (htail : endsValue tail = true) (starts : Char → Bool)
    (expected : String) (accept : Json → Except Cause α) :
    Steady tail (expectScalar starts expected accept) := by
  refine follows_atToken htail fun c =>
    FollowsInside.ite (fun _ => ?_) fun _ => (fails_wrongForm _).inside
  refine (steadyInside_scalar htail c).bind fun scalar => ?_
  split
  · exact steady_pure _
  · exact (fails_failBare _).follows

theorem follows_nested {f : Nat → Reader α} {g : Nat → Reader β} {depth depth' : Nat}
    (hdepth : level + 1 < depth) (hdepth' : level + 1 < depth')
    (hinside : ∀ below below', level < below → level < below' →
      FollowsInside tail embed (f below) (g below')) :
    FollowsInside tail embed (nested depth f) (nested depth' g) := by
  obtain ⟨below, rfl⟩ : ∃ below, depth = below + 2 := ⟨depth - 2, by omega⟩
  obtain ⟨below', rfl⟩ : ∃ below', depth' = below' + 2 := ⟨depth' - 2, by omega⟩
  exact hinside (below + 1) (below' + 1) (by omega) (by omega)

/-- More steps than needed make no difference. -/
theorem follows_itemsFrom {item item' : Reader α} (htail : endsValue tail = true)
    (hitem : Follows tail id item item') {few many : Nat} (hsteps : few ≤ many)
    (isFirst : Bool) :
    Follows tail id (itemsFrom item few isFirst) (itemsFrom item' many isFirst) := by
  induction few generalizing many isFirst with
  | zero => exact (fails_failHere _).follows
  | succ few ih =>
    obtain ⟨many, rfl⟩ : ∃ more, many = more + 1 := ⟨many - 1, by omega⟩
    refine (steady_hasItem htail isFirst).bind fun more =>
      Follows.ite (fun _ => ?_) fun _ => steady_pure []
    refine hitem.bind fun first => ?_
    exact (ih (Nat.le_of_succ_le_succ hsteps) false).bind fun rest => steady_pure _

theorem follows_items {item item' : Reader α} (htail : endsValue tail = true)
    (hitem : Follows tail id item item') : Follows tail id (items item) (items item') :=
  Follows.remaining fun _ _ hle =>
    follows_itemsFrom htail hitem (Nat.succ_le_succ hle) true

end Reader

namespace Decoder

theorem Follows.mono {level' : Nat} {first : Decoder α} {second : Decoder β}
    (hfollows : Follows level embed first second) (hle : level ≤ level') :
    Follows level' embed first second :=
  ⟨fun htail _ _ hdepth hdepth' =>
    hfollows.read htail (hle.trans_lt hdepth) (hle.trans_lt hdepth')⟩

theorem steady_ofScalar (starts : Char → Bool) (expected : String)
    (accept : Json → Except Cause α) : Steady level (ofScalar starts expected accept) :=
  ⟨fun htail _ _ _ _ => steady_expectScalar htail starts expected accept⟩

theorem steady_string : Steady level string := steady_ofScalar ..

theorem steady_boolean : Steady level boolean := steady_ofScalar ..

theorem steady_binary64 : Steady level binary64 := steady_ofScalar ..

theorem Steady.option {inner : Decoder α} (hinner : Steady level inner) :
    Steady level inner.option := by
  refine ⟨fun {tail} htail depth depth' hdepth hdepth' => ?_⟩
  have hsome : Reader.Follows tail id (inner.read depth >>= fun value => pure (some value))
      (inner.read depth' >>= fun value => pure (some value)) :=
    (hinner.read htail hdepth hdepth').bind fun value => steady_pure (some value)
  have hhead : tail.head? ≠ some 'n' := fun hhead => by simp [endsValue, hhead] at htail
  refine Follows.peekToken htail ?_ fun c => ?_
  · split
    · contradiction
    · exact hsome
  · split
    · exact FollowsInside.advance ((steady_word _).bind fun _ => steady_pure none)
    · exact hsome.inside

theorem Steady.list {inner : Decoder α} (hinner : Steady level inner) :
    Steady (level + 1) (list inner) := by
  refine ⟨fun {tail} htail depth depth' hdepth hdepth' => ?_⟩
  refine follows_atToken htail fun c =>
    FollowsInside.ite (fun _ => ?_) fun _ => (fails_wrongForm _).inside
  refine follows_nested hdepth hdepth' fun below below' hbelow hbelow' => ?_
  refine FollowsInside.advance (Follows.thenAlways ?_ (steady_listEnd htail))
  exact follows_items htail (hinner.read htail hbelow hbelow')

theorem steady_choice (cases : List (String × α)) : Steady (level + 1) (choice cases) := by
  refine ⟨fun {tail} htail depth depth' hdepth hdepth' => ?_⟩
  have hcase : Reader.Steady tail (readCase cases) := steady_expectScalar htail ..
  refine Follows.peekToken htail (fails_failHere _).follows fun c =>
    FollowsInside.ite (fun _ => ?_) fun _ =>
    FollowsInside.ite (fun _ => hcase.inside) fun _ => (fails_failNext _).inside
  refine FollowsInside.bind (follows_nested hdepth hdepth' fun _ _ _ _ =>
    FollowsInside.advance ?_) fun value => ?_
  · refine hcase.bind fun value => (steady_colon htail).bind fun _ => ?_
    exact (steady_expectScalar htail ..).bind fun _ => steady_pure value
  · refine Follows.peekToken htail (fails_failHere _).follows fun c => ?_
    exact FollowsInside.ite (fun _ => FollowsInside.advance (steady_pure value))
      fun _ => (fails_failHere _).inside

end Decoder

/-! ## Records -/

/-- How the values of one record stand in another, field by field. -/
inductive Embedding : List Type → List Type → Type 1 where
  | nil : Embedding [] []
  | cons {α β : Type} {αs βs : List Type} (embed : β → α) (rest : Embedding αs βs) :
      Embedding (α :: αs) (β :: βs)

namespace Embedding

/-- The values in the other record. -/
def values {αs βs : List Type} : Embedding αs βs → Values βs → Values αs
  | nil, _ => ()
  | cons embed rest, (value, others) => (embed value, rest.values others)

/-- The values given so far in the other record. -/
def draft {αs βs : List Type} : Embedding αs βs → Draft βs → Draft αs
  | nil, _ => ()
  | cons embed rest, (given, others) => (given.map embed, rest.draft others)

/-- A record in itself. -/
def refl : (αs : List Type) → Embedding αs αs
  | [] => nil
  | _ :: αs => cons id (refl αs)

theorem refl_values (αs : List Type) (values : Values αs) :
    (refl αs).values values = values := by
  induction αs with
  | nil => rfl
  | cons α αs ih => exact Prod.ext rfl (ih values.2)

end Embedding

/-- A field that holds the image of what another field holds. -/
structure Field.Follows (level : Nat) (embed : β → α) (field : Field α)
    (field' : Field β) : Prop where
  injective : Function.Injective embed
  accepts : ∀ name, field.accepts name = field'.accepts name
  decoder : Decoder.Follows level embed field.decoder field'.decoder
  ifMissing : ∀ value, field.ifMissing = some (embed value) → field'.ifMissing = some value
  ifShort : ∀ value, field.ifShort = some (embed value) → field'.ifShort = some value

namespace Fields

/-- Fields that follow those of another record, one by one. -/
inductive Follows (level : Nat) : {αs βs : List Type} → Embedding αs βs → Fields αs →
    Fields βs → Prop where
  | nil : Follows level .nil .nil .nil
  | cons {α β : Type} {αs βs : List Type} {embed : β → α} {field : Field α}
      {field' : Field β} {embedding : Embedding αs βs} {rest : Fields αs}
      {rest' : Fields βs} (first : field.Follows level embed field')
      (others : Follows level embedding rest rest') :
      Follows level (.cons embed embedding) (.cons field rest) (.cons field' rest')

/-- A draft holds at least the values of another one. -/
def Keeps {αs : List Type} : Fields αs → Draft αs → Draft αs → Prop
  | nil, _, _ => True
  | cons _ rest, (given, others), (given', others') =>
    (∀ value, given = some value → given' = some value) ∧ rest.Keeps others others'

variable {αs βs : List Type}

theorem keeps_refl (fields : Fields αs) (draft : Draft αs) : fields.Keeps draft draft := by
  induction fields with
  | nil => trivial
  | cons field rest ih => exact ⟨fun _ hgiven => hgiven, ih draft.2⟩

theorem Keeps.trans {fields : Fields αs} {first second third : Draft αs}
    (hfirst : fields.Keeps first second) (hsecond : fields.Keeps second third) :
    fields.Keeps first third := by
  induction fields with
  | nil => trivial
  | cons field rest ih =>
    exact ⟨fun value hgiven => hsecond.1 value (hfirst.1 value hgiven),
      ih hfirst.2 hsecond.2⟩

theorem readMember_keeps {fields : Fields αs} {depth : Nat} {name : String}
    {draft result : Draft αs} {cursor after : Cursor}
    (hok : fields.readMember depth name draft cursor = .ok result after) :
    fields.Keeps draft result := by
  induction fields generalizing cursor after with
  | nil => trivial
  | cons field rest ih =>
    obtain ⟨given, others⟩ := draft
    rw [readMember] at hok
    split at hok
    · split at hok
      · cases hok
      · rename_i hgiven
        obtain ⟨_, _, -, hok⟩ := bind_eq_ok hok
        obtain ⟨value, _, -, hok⟩ := bind_eq_ok hok
        cases hok
        exact ⟨fun value hsome => absurd (hsome ▸ rfl) hgiven, keeps_refl rest others⟩
    · obtain ⟨left, _, hleft, hok⟩ := bind_eq_ok hok
      cases hok
      exact ⟨fun _ hgiven => hgiven, ih hleft⟩

theorem readMembers_keeps {fields : Fields αs} {depth steps : Nat} {isFirst : Bool}
    {draft result : Draft αs} {cursor after : Cursor}
    (hok : fields.readMembers depth steps isFirst draft cursor = .ok result after) :
    fields.Keeps draft result := by
  induction steps generalizing isFirst draft cursor with
  | zero => cases hok
  | succ steps ih =>
    obtain ⟨more, _, -, hok⟩ := bind_eq_ok hok
    split at hok
    · obtain ⟨name, _, -, hok⟩ := bind_eq_ok hok
      obtain ⟨next, _, hnext, hok⟩ := bind_eq_ok hok
      exact (readMember_keeps hnext).trans (ih hok)
    · cases hok
      exact keeps_refl fields _

variable {fields : Fields αs} {fields' : Fields βs} {embedding : Embedding αs βs}

/-- What an image keeps is an image. -/
theorem Follows.image_of_keeps (hfields : Follows level embedding fields fields')
    {draft : Draft αs} {last : Draft βs}
    (hkeeps : fields.Keeps draft (embedding.draft last)) :
    ∃ image, draft = embedding.draft image := by
  induction hfields with
  | nil => exact ⟨(), rfl⟩
  | cons first others ih =>
    obtain ⟨given, left⟩ := draft
    obtain ⟨image, rfl⟩ := ih hkeeps.2
    cases given with
    | none => exact ⟨(none, image), rfl⟩
    | some value =>
      obtain ⟨origin, -, rfl⟩ := Option.map_eq_some_iff.mp (hkeeps.1 value rfl)
      exact ⟨(some origin, image), rfl⟩

theorem Follows.draft_injective (hfields : Follows level embedding fields fields') :
    Function.Injective embedding.draft := by
  induction hfields with
  | nil => exact fun _ _ _ => rfl
  | cons first others ih =>
    intro left right heq
    have hparts := Prod.ext_iff.mp heq
    exact Prod.ext (Option.map_injective first.injective hparts.1) (ih hparts.2)

theorem Follows.values_injective (hfields : Follows level embedding fields fields') :
    Function.Injective embedding.values := by
  induction hfields with
  | nil => exact fun _ _ _ => rfl
  | cons first others ih =>
    intro left right heq
    have hparts := Prod.ext_iff.mp heq
    exact Prod.ext (first.injective hparts.1) (ih hparts.2)

theorem Follows.readMember (hfields : Follows level embedding fields fields')
    (htail : endsValue tail = true) {depth depth' : Nat} (hdepth : level < depth)
    (hdepth' : level < depth') (name : String) (draft : Draft βs) :
    Reader.Follows tail embedding.draft
      (fields.readMember depth name (embedding.draft draft))
      (fields'.readMember depth' name draft) := by
  induction hfields with
  | nil =>
    exact (steady_colon htail).bind fun _ =>
      (steady_skipValue htail).bind fun _ => follows_pure fun _ _ => rfl
  | @cons _ _ _ _ embed field field' embedding rest rest' first others ih =>
    have hinjective := (Follows.cons first others).draft_injective
    obtain ⟨given, left⟩ := draft
    rw [Embedding.draft, Fields.readMember, Fields.readMember, first.accepts]
    refine Reader.Follows.ite (fun _ => ?_) fun _ => ?_
    · cases given with
      | some value => exact (fails_failBare _).follows
      | none =>
        refine (steady_colon htail).bind fun _ => ?_
        refine (first.decoder.read htail hdepth hdepth').bindVia
          (fun value => follows_pure fun other heq => hinjective heq) ?_
        intro result cursor last after hok
        have hsome := (Prod.ext_iff.mp (pure_eq_ok hok)).1
        obtain ⟨value, -, hvalue⟩ := Option.map_eq_some_iff.mp hsome.symm
        exact ⟨value, hvalue.symm⟩
    · refine (ih left).bindVia (fun value => follows_pure fun other heq =>
        hinjective heq) ?_
      intro result cursor last after hok
      exact ⟨last.2, (Prod.ext_iff.mp (pure_eq_ok hok)).2⟩

/-- More steps than needed make no difference. -/
theorem Follows.readMembers (hfields : Follows level embedding fields fields')
    (htail : endsValue tail = true) {depth depth' : Nat} (hdepth : level < depth)
    (hdepth' : level < depth') {few many : Nat} (hsteps : few ≤ many) (isFirst : Bool)
    (draft : Draft βs) :
    Reader.Follows tail embedding.draft
      (fields.readMembers depth few isFirst (embedding.draft draft))
      (fields'.readMembers depth' many isFirst draft) := by
  induction few generalizing many isFirst draft with
  | zero => exact (fails_failHere _).follows
  | succ few ih =>
    obtain ⟨many, rfl⟩ : ∃ more, many = more + 1 := ⟨many - 1, by omega⟩
    refine (steady_hasMember htail isFirst).bind fun more =>
      Reader.Follows.ite (fun _ => ?_) fun _ =>
        follows_pure fun _ heq => hfields.draft_injective heq
    refine steady_key.bind fun name => ?_
    refine (hfields.readMember htail hdepth hdepth' name draft).bindVia
      (fun next => ih (Nat.le_of_succ_le_succ hsteps) false next) ?_
    exact fun result cursor last after hok => hfields.image_of_keeps (readMembers_keeps hok)

theorem complete_cons_eq_ok {α : Type} {field : Field α} {rest : Fields αs}
    {given : Option α} {others : Draft αs} {value : α} {values : Values αs} :
    (cons field rest).complete (given, others) = .ok (value, values) ↔
      given.or field.ifMissing = some value ∧ rest.complete others = .ok values := by
  rw [complete]
  cases given.or field.ifMissing with
  | none => exact ⟨nofun, nofun⟩
  | some result =>
    cases rest.complete others with
    | error cause => exact ⟨nofun, nofun⟩
    | ok found =>
      constructor
      · intro hok
        cases hok
        exact ⟨rfl, rfl⟩
      · rintro ⟨hvalue, hvalues⟩
        cases hvalue
        cases hvalues
        rfl

theorem Follows.complete (hfields : Follows level embedding fields fields')
    {draft : Draft αs} {values : Values βs}
    (hok : fields.complete draft = .ok (embedding.values values)) :
    ∃ image, draft = embedding.draft image ∧ fields'.complete image = .ok values := by
  induction hfields with
  | nil => exact ⟨(), rfl, rfl⟩
  | @cons _ _ _ _ embed field field' embedding rest rest' first others ih =>
    obtain ⟨given, left⟩ := draft
    obtain ⟨hvalue, hothers⟩ := complete_cons_eq_ok.mp hok
    obtain ⟨image, rfl, himage⟩ := ih hothers
    cases given with
    | none =>
      exact ⟨(none, image), rfl,
        complete_cons_eq_ok.mpr ⟨first.ifMissing values.1 hvalue, himage⟩⟩
    | some value =>
      obtain rfl : value = embed values.1 := Option.some.inj hvalue
      exact ⟨(some values.1, image), rfl, complete_cons_eq_ok.mpr ⟨rfl, himage⟩⟩

theorem Follows.readObject (hfields : Follows level embedding fields fields')
    (htail : endsValue tail = true) {depth depth' : Nat} (hdepth : level < depth)
    (hdepth' : level < depth') :
    Reader.Follows tail embedding.values (fields.readObject depth)
      (fields'.readObject depth') := by
  have hblank : fields.blank = embedding.draft fields'.blank := by
    induction hfields with
    | nil => rfl
    | cons first others ih => rw [blank, blank, ih]; rfl
  refine Reader.Follows.remaining fun few many hsteps => ?_
  rw [hblank]
  refine (hfields.readMembers htail hdepth hdepth' (Nat.succ_le_succ hsteps) true _).bindVia
    (fun draft => ?_) fun result cursor last after hok => ?_
  · refine ⟨fun {text mark values rest after} hok => ?_⟩
    cases hcomplete : fields.complete (embedding.draft draft) with
    | error cause =>
      rw [hcomplete] at hok
      cases hok
    | ok found =>
      rw [hcomplete] at hok
      obtain rfl := pure_eq_ok hok
      cases hok
      obtain ⟨image, hdraft, himage⟩ := hfields.complete hcomplete
      rw [hfields.draft_injective hdraft, himage]
      exact reads_pure values
  · cases hcomplete : fields.complete result with
    | error cause =>
      rw [hcomplete] at hok
      cases hok
    | ok found =>
      rw [hcomplete] at hok
      obtain rfl := pure_eq_ok hok
      obtain ⟨image, hdraft, -⟩ := hfields.complete hcomplete
      exact ⟨image, hdraft⟩

theorem Follows.readList (hfields : Follows level embedding fields fields')
    (htail : endsValue tail = true) {depth depth' : Nat} (hdepth : level < depth)
    (hdepth' : level < depth') (expected expected' : String) (index index' : Nat)
    (isFirst : Bool) :
    Reader.Follows tail embedding.values (fields.readList expected depth index isFirst)
      (fields'.readList expected' depth' index' isFirst) := by
  induction hfields generalizing index index' isFirst with
  | nil => exact follows_pure fun _ _ => rfl
  | @cons _ _ _ _ embed field field' embedding rest rest' first others ih =>
    have hinjective := (Follows.cons first others).values_injective
    -- The values behind the first one, in either case.
    have hothers (value : _) (index index' : Nat) (isFirst : Bool) :
        Reader.Follows tail (Embedding.cons embed embedding).values
          (rest.readList expected depth index isFirst >>= fun values =>
            pure (embed value, values))
          (rest'.readList expected' depth' index' isFirst >>= fun values =>
            pure (value, values)) := by
      refine (ih index index' isFirst).bindVia
        (fun values => follows_pure fun other heq => hinjective heq) ?_
      intro result cursor last after hok
      exact ⟨last.2, (Prod.ext_iff.mp (pure_eq_ok hok)).2⟩
    refine (steady_hasItem htail isFirst).bind fun more =>
      Reader.Follows.ite (fun _ => ?_) fun _ => ?_
    · refine (first.decoder.read htail hdepth hdepth').bindVia
        (fun value => hothers value ..) ?_
      intro result cursor last after hok
      obtain ⟨values, between, -, hok⟩ := bind_eq_ok hok
      exact ⟨last.1, (Prod.ext_iff.mp (pure_eq_ok hok)).1⟩
    · cases hshort : field.ifShort with
      | none => exact (fails_failBare _).follows
      | some value =>
        refine ⟨fun {text mark values rest after} hok => ?_⟩
        obtain ⟨found, between, -, hlast⟩ := bind_eq_ok hok
        have hvalue : value = embed values.1 := (Prod.ext_iff.mp (pure_eq_ok hlast)).1
        subst hvalue
        rw [first.ifShort values.1 hshort]
        exact (hothers values.1 ..).reads hok

end Fields

/-! ## Decoders of records -/

namespace Decoder

variable {αs βs : List Type} {fields : Fields αs} {fields' : Fields βs}
  {embedding : Embedding αs βs}

/-- Records follow each other when their fields do. -/
theorem follows_record (typeName typeName' : String) {build : Values αs → α}
    {build' : Values βs → β} (hfields : fields.Follows level embedding fields')
    (hbuild : ∀ values value, build values = embed value →
      ∃ values', values = embedding.values values' ∧ build' values' = value) :
    Follows (level + 1) embed (record typeName fields build)
      (record typeName' fields' build') := by
  refine ⟨fun {tail} htail depth depth' hdepth hdepth' => ?_⟩
  have hlast {first : Reader (Values αs)} {second : Reader (Values βs)}
      (hvalues : Reader.Follows tail embedding.values first second) :
      Reader.Follows tail embed (first >>= fun values => pure (build values))
        (second >>= fun values => pure (build' values)) := by
    refine hvalues.bindVia (fun values => follows_pure fun value heq => ?_)
      fun values cursor value after hok => ?_
    · obtain ⟨values', hvalues', rfl⟩ := hbuild _ _ heq.symm
      rw [hfields.values_injective hvalues']
    · obtain ⟨values', hvalues', -⟩ := hbuild _ _ (pure_eq_ok hok)
      exact ⟨values', hvalues'⟩
  refine follows_atToken htail fun c =>
    FollowsInside.ite (fun _ => ?_) fun _ =>
    FollowsInside.ite (fun _ => ?_) fun _ => (fails_wrongForm _).inside
  · refine follows_nested hdepth hdepth' fun below below' hbelow hbelow' =>
      FollowsInside.advance (hlast ?_)
    exact (hfields.readList htail hbelow hbelow' ..).thenAlways (steady_listEnd htail)
  · refine follows_nested hdepth hdepth' fun below below' hbelow hbelow' =>
      FollowsInside.advance (hlast ?_)
    exact (hfields.readObject htail hbelow hbelow').thenAlways (steady_objectEnd htail)

end Decoder

/-- Fields whose decoders are all steady. -/
abbrev Fields.Steady {αs : List Type} (level : Nat) (fields : Fields αs) : Prop :=
  fields.Follows level (Embedding.refl αs) fields

theorem Field.steady {field : Field α} (hdecoder : field.decoder.Steady level) :
    field.Follows level id field where
  injective := Function.injective_id
  accepts _ := rfl
  decoder := hdecoder
  ifMissing _ hvalue := hvalue
  ifShort _ hvalue := hvalue

theorem Fields.Steady.cons {αs : List Type} {field : Field α} {rest : Fields αs}
    (hdecoder : field.decoder.Steady level) (hrest : rest.Steady level) :
    (Fields.cons field rest).Steady level :=
  Fields.Follows.cons (Field.steady hdecoder) hrest

theorem Decoder.steady_record {αs : List Type} {fields : Fields αs} (typeName : String)
    {build : Values αs → α} (hfields : fields.Steady level) :
    Decoder.Steady (level + 1) (Decoder.record typeName fields build) := by
  refine Decoder.follows_record typeName typeName hfields fun values value hvalue => ?_
  exact ⟨values, (Embedding.refl_values αs values).symm, hvalue⟩

/-- A value that is not `null` is the same with or without the option of being
so. -/
theorem Decoder.Steady.ofOption {inner : Decoder α} (hinner : inner.Steady level)
    (htoken : ∀ depth, ∃ f, inner.read depth = atToken f) :
    Decoder.Follows level some inner.option inner := by
  refine ⟨fun {tail} htail depth depth' hdepth hdepth' =>
    ⟨fun {text mark value rest after} hok => ?_⟩⟩
  obtain ⟨head, between, hhead, hok⟩ := bind_eq_ok hok
  obtain rfl : skipSpaceFrom text mark = between := by
    cases hhead
    rfl
  obtain ⟨gap, hgap, hsolid, htext⟩ := exists_gap text mark
  split at hok
  · obtain ⟨_, _, -, hok⟩ := bind_eq_ok hok
    obtain ⟨_, _, -, hok⟩ := bind_eq_ok hok
    cases hok
  · obtain ⟨found, _, hfound, hok⟩ := bind_eq_ok hok
    cases hok
    have hreads := (hinner.read htail hdepth hdepth').reads hfound
    obtain ⟨f, hf⟩ := htoken depth'
    rw [hf] at hreads ⊢
    rw [htext, List.append_assoc]
    exact hreads.afterGap hgap (startsSolid_append hsolid (startsSolid_of_endsValue htail))

end Wireform.Json
