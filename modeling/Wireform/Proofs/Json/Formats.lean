import Mathlib
import Wireform.Proofs.Json.Decoding
import Wireform.Proofs.Json.Numerals

/-!
# Formats

A format says which texts spell which values of a type, which have the right form
whatever they spell, and which are refused because some object in them gives a member
twice.  It does so without a reader.  A decoder obeys a format when it reads every spelling
as the value that is spelled, with any end of a value behind it, reads a text of the right
form as a whole or rejects it, and rejects every text that gives a member twice.
-/

namespace Wireform.Json

open Reader

variable {α β : Type} {text tail rest : List Char} {value : α} {level : Nat}

namespace Reader

theorem reads_scalar_string {value : String} (htext : StringText text value) :
    ∃ inside, text = '"' :: inside ∧ ∀ rest,
      Reads (scalar '"') ('"' :: inside ++ rest) (.string value) rest := by
  obtain ⟨inside, htexts, rfl⟩ := htext
  exact ⟨_, rfl, fun rest => reads_advance.bind
    ((reads_stringBody_of htexts).bind (reads_pure _))⟩

end Reader

theorem Spaced.exists_gap {c : Char} {more : List Char} (htext : Spaced (c :: more) text)
    (hc : isSpace c = false) :
    ∃ gap, gap.all isSpace = true ∧ text.dropWhile isSpace = c :: more ++ gap := by
  obtain ⟨before, after, hbefore, hafter, rfl⟩ := htext
  refine ⟨after, hafter, ?_⟩
  rw [List.dropWhile_append_of_pos (List.all_eq_true.1 hbefore), List.cons_append,
    List.dropWhile_cons_of_neg (by simp [hc])]

/-! ## Formats -/

/-- The ways to write the values of a type, the texts of the right form, and the texts in
which some object gives a member twice. -/
structure Format (α : Type) where
  Spells : List Char → α → Prop
  Fits : List Char → Prop := fun text => ∃ value, Spells text value
  GivesTwice : List Char → Prop := fun _ => False

/-- The text of a list: its items between brackets, with commas between them. -/
def ListText (text : List Char) (items : List (List Char)) : Prop :=
  ∃ gap, gap.all isSpace = true ∧
    Spaced ('[' :: (gap ++ (commas true items ++ [']']))) text

namespace Format

/-- Strings. -/
def string : Format String where
  Spells text value := ∃ solid, StringText solid value ∧ Spaced solid text

/-- Truth values. -/
def boolean : Format Bool where
  Spells text value := Spaced (booleanText value) text

/-- Numbers, each by those of the admitted numerals that stand for exactly it. -/
def number (admitted : Numeral → Prop) : Format Binary64 where
  Spells text value := ∃ numeral solid, admitted numeral ∧ numeral.Denotes value ∧
    NumeralText solid numeral ∧ Spaced solid text
  Fits text := ∃ numeral solid, NumeralText solid numeral ∧ Spaced solid text

/-- One of several values with names. -/
def choice (names : List (String × α)) : Format α where
  Spells text value := ∃ name, names.lookup name = some value ∧ string.Spells text name
  Fits := string.Fits

/-- Values that may be missing, and are written as `null` then. -/
def option (inner : Format α) : Format (Option α) where
  Spells text
    | none => Spaced "null".toList text
    | some value => inner.Spells text value
  Fits text := Spaced "null".toList text ∨ inner.Fits text
  GivesTwice := inner.GivesTwice

/-- Lists. -/
def list (inner : Format α) : Format (List α) where
  Spells text values := ∃ items, ListText text items ∧
    List.Forall₂ inner.Spells items values
  Fits text := ∃ items, ListText text items ∧ ∀ item ∈ items, inner.Fits item
  GivesTwice text := ∃ before item after, ListText text (before ++ item :: after) ∧
    (∀ other ∈ before, inner.Fits other) ∧ inner.GivesTwice item

end Format

theorem Format.string_literal (text : String) :
    Format.string.Spells (literal text).toList text :=
  ⟨_, stringText_literal text, .refl _⟩

/-- A text that begins with something other than `null` or the end of a list. -/
def Opens (text : List Char) : Prop :=
  ∃ c more, text.dropWhile isSpace = c :: more ∧ c ≠ ']' ∧ c ≠ 'n'

/-- The texts of a format begin with something other than `null` or the end of a
list. -/
structure Format.IsOpen (format : Format α) : Prop where
  spells : ∀ {text value}, format.Spells text value → Opens text
  fits : ∀ {text}, format.Fits text → Opens text
  givesTwice : ∀ {text}, format.GivesTwice text → Opens text

theorem Spaced.opens {c : Char} {more : List Char} (htext : Spaced (c :: more) text)
    (hspace : isSpace c = false) (hclose : c ≠ ']') (hletter : c ≠ 'n') : Opens text := by
  obtain ⟨gap, -, hsolid⟩ := htext.exists_gap hspace
  exact ⟨c, more ++ gap, hsolid, hclose, hletter⟩

theorem Format.IsOpen.string : Format.string.IsOpen where
  spells := by
    rintro text value ⟨solid, ⟨inside, -, rfl⟩, htext⟩
    exact htext.opens rfl (by decide) (by decide)
  fits := by
    rintro text ⟨value, solid, ⟨inside, -, rfl⟩, htext⟩
    exact htext.opens rfl (by decide) (by decide)
  givesTwice := nofun

/-- A decoder reads every spelling as the value that is spelled, goes through the texts of
the right form unless it rejects them, and rejects the texts that give a member twice. -/
structure Decoder.Obeys (level : Nat) (decoder : Decoder α) (format : Format α) :
    Prop where
  token : ∀ depth, ∃ f, decoder.read depth = peekToken >>= f
  reads : ∀ {text value}, format.Spells text value → ∀ {tail}, endsValue tail = true →
    ∀ {depth}, level < depth → ∃ gap, gap.all isSpace = true ∧
      Reads (decoder.read depth) (text.dropWhile isSpace ++ tail) value (gap ++ tail)
  settles : ∀ {text}, format.Fits text → ∀ {tail}, endsValue tail = true →
    ∀ {depth}, level < depth → ∃ gap, gap.all isSpace = true ∧
      Settles (decoder.read depth) (text.dropWhile isSpace ++ tail) (gap ++ tail)
  rejects : ∀ {text}, format.GivesTwice text → ∀ {tail}, endsValue tail = true →
    ∀ {depth}, level < depth →
      Rejects (decoder.read depth) (text.dropWhile isSpace ++ tail)

namespace Decoder.Obeys

variable {decoder : Decoder α} {format : Format α}

theorem mono {level' : Nat} (hobeys : decoder.Obeys level format) (hle : level ≤ level') :
    decoder.Obeys level' format where
  token := hobeys.token
  reads hspells _ htail _ hdepth := hobeys.reads hspells htail (hle.trans_lt hdepth)
  settles hfits _ htail _ hdepth := hobeys.settles hfits htail (hle.trans_lt hdepth)
  rejects htwice _ htail _ hdepth := hobeys.rejects htwice htail (hle.trans_lt hdepth)

/-- White space in front of a value makes no difference. -/
theorem goesOn (hobeys : decoder.Obeys level format) (text : List Char)
    (htail : endsValue tail = true) (depth : Nat) :
    GoesOn (decoder.read depth) (text ++ tail) (decoder.read depth)
      (text.dropWhile isSpace ++ tail) := by
  obtain ⟨f, hf⟩ := hobeys.token depth
  rw [hf]
  exact goesOn_afterSpace text (startsSolid_of_endsValue htail)

/-- Every spelling is decoded to the value that is spelled. -/
theorem decode (hobeys : decoder.Obeys level format) (hlevel : level < maxDepth)
    {source : String} (hspells : format.Spells source.toList value) :
    decoder.decode source = .ok value := by
  have hempty : endsValue [] = true := rfl
  obtain ⟨gap, hgap, hreads⟩ := hobeys.reads hspells hempty hlevel
  have hwhole := (hobeys.goesOn source.toList hempty maxDepth).reads hreads
  rw [List.append_nil, List.append_nil] at hwhole
  exact hwhole.readWhole hgap

/-- No text that gives a member twice is decoded. -/
theorem decode_error (hobeys : decoder.Obeys level format) (hlevel : level < maxDepth)
    {source : String} (htwice : format.GivesTwice source.toList) :
    ∃ fault, decoder.decode source = .error fault := by
  have hempty : endsValue [] = true := rfl
  have hrejects := (hobeys.goesOn source.toList hempty maxDepth).rejects
    (hobeys.rejects htwice hempty hlevel)
  rw [List.append_nil] at hrejects
  cases hdecode : decoder.decode source with
  | error fault => exact ⟨fault, rfl⟩
  | ok value =>
    obtain ⟨rest, after, hread, -⟩ := readWhole_eq_ok hdecode
    exact absurd hread (hrejects _ _ _)

/-! ## Values without inner values -/

/-- A scalar that is read up to a known end is decoded or refused up to there. -/
theorem settles_expectScalar {starts : Char → Bool} {expected : String}
    {accept : Json → Except Cause α} {c : Char} {more : List Char}
    (hspace : isSpace c = false) (hstarts : starts c = true)
    (hscalar : Settles (scalar c) (c :: more) rest) :
    Settles (expectScalar starts expected accept) (c :: more) rest := by
  refine Settles.peekToken (by simp [startsSolid, hspace]) (Settles.placed ?_)
  simp only [hstarts, if_true]
  refine hscalar.bind fun document _ => ?_
  split
  · exact (reads_pure _).settles
  · exact (fails_failBare _).settles

/-- The literal of a string, and the white space behind it. -/
theorem exists_literal {value : String} (hspells : Format.string.Spells text value) :
    ∃ inside gap, gap.all isSpace = true ∧ text.dropWhile isSpace = '"' :: inside ++ gap ∧
      ∀ rest, Reads (scalar '"') ('"' :: inside ++ rest) (.string value) rest := by
  obtain ⟨solid, hsolid, htext⟩ := hspells
  obtain ⟨inside, rfl, hscalar⟩ := reads_scalar_string hsolid
  obtain ⟨gap, hgap, htext⟩ := htext.exists_gap rfl
  exact ⟨inside, gap, hgap, htext, hscalar⟩

theorem string : Decoder.string.Obeys 0 .string where
  token _ := ⟨_, rfl⟩
  reads := by
    intro text value hspells tail htail depth hdepth
    obtain ⟨inside, gap, hgap, htext, hscalar⟩ := exists_literal hspells
    refine ⟨gap, hgap, ?_⟩
    rw [htext, List.append_assoc]
    exact reads_expectScalar_of rfl rfl (hscalar _) rfl
  settles := by
    rintro text ⟨value, hspells⟩ tail htail depth -
    obtain ⟨inside, gap, hgap, htext, hscalar⟩ := exists_literal hspells
    refine ⟨gap, hgap, ?_⟩
    rw [htext, List.append_assoc]
    exact settles_expectScalar rfl rfl (hscalar _).settles
  rejects := nofun

theorem reads_boolean {value : Bool} (htext : Format.boolean.Spells text value)
    (tail : List Char) (depth : Nat) :
    ∃ gap, gap.all isSpace = true ∧ Reads (Decoder.boolean.read depth)
      (text.dropWhile isSpace ++ tail) value (gap ++ tail) := by
  cases value with
  | false =>
    have htext : Spaced ('f' :: "alse".toList) text := htext
    obtain ⟨gap, hgap, htext⟩ := htext.exists_gap rfl
    refine ⟨gap, hgap, ?_⟩
    rw [htext, List.append_assoc]
    exact reads_expectScalar_of rfl rfl
      (reads_named 'f' "alse".toList (.boolean false)) rfl
  | true =>
    have htext : Spaced ('t' :: "rue".toList) text := htext
    obtain ⟨gap, hgap, htext⟩ := htext.exists_gap rfl
    refine ⟨gap, hgap, ?_⟩
    rw [htext, List.append_assoc]
    exact reads_expectScalar_of rfl rfl
      (reads_named 't' "rue".toList (.boolean true)) rfl

theorem boolean : Decoder.boolean.Obeys 0 .boolean where
  token _ := ⟨_, rfl⟩
  reads htext tail _ depth _ := reads_boolean htext tail depth
  settles := by
    rintro text ⟨value, htext⟩ tail htail depth -
    obtain ⟨gap, hgap, hreads⟩ := reads_boolean htext tail depth
    exact ⟨gap, hgap, hreads.settles⟩
  rejects := nofun

/-- The first character of a numeral tells that a number is to be read. -/
theorem exists_goesOn_scalar {numeral : Numeral} {solid : List Char}
    (hnumeral : NumeralText solid numeral) :
    ∃ c more fraction exponent, solid = c :: more ∧ isSpace c = false ∧
      startsNumber c = true ∧ WholeText numeral.whole ∧
      FractionText fraction numeral.fraction ∧ ExponentText exponent numeral.power ∧
      ∀ rest, GoesOn (scalar c) (c :: more ++ rest) (Reader.number numeral.negative)
        (numeral.whole ++ (fraction ++ (exponent ++ rest))) := by
  obtain ⟨negative, whole, digits, power⟩ := numeral
  obtain ⟨fraction, exponent, hwhole, hfraction, hexponent, rfl⟩ := hnumeral
  cases negative with
  | true =>
    refine ⟨'-', whole ++ (fraction ++ exponent), fraction, exponent, rfl, rfl, rfl, hwhole,
      hfraction, hexponent, fun rest => ?_⟩
    rw [List.cons_append, List.append_assoc, List.append_assoc]
    exact reads_advance.goesOn
  | false =>
    obtain ⟨c, more, rfl, hc⟩ := hwhole.exists_cons
    have hbegins : (Json.integer 0).begins c := hc
    refine ⟨c, more ++ (fraction ++ exponent), fraction, exponent, rfl, (begins_ne hbegins).1,
      by rw [startsNumber, hc, Bool.or_true], hwhole, hfraction, hexponent, fun rest => ?_⟩
    rw [scalar_of_isDigit hc, List.cons_append, List.cons_append, List.append_assoc,
      List.append_assoc]
    exact .refl

/-- Plain numerals are read exactly. -/
theorem number : Decoder.binary64.Obeys 0 (.number Numeral.IsPlain) where
  token _ := ⟨_, rfl⟩
  reads := by
    rintro text value ⟨numeral, solid, hplain, hdenotes, hnumeral, htext⟩ tail htail depth -
    obtain ⟨c, more, fraction, exponent, rfl, hspace, hstarts, hwhole, hfraction, hexponent,
      hgoes⟩ := exists_goesOn_scalar hnumeral
    obtain ⟨gap, hgap, htext⟩ := htext.exists_gap hspace
    obtain ⟨document, hdocument, hreads⟩ := reads_number hwhole hfraction hexponent
      (endsNumeral_append hgap htail) hplain hdenotes
    refine ⟨gap, hgap, ?_⟩
    rw [htext, List.append_assoc]
    exact reads_expectScalar_of hspace hstarts ((hgoes _).reads hreads) hdocument
  settles := by
    rintro text ⟨numeral, solid, hnumeral, htext⟩ tail htail depth -
    obtain ⟨c, more, fraction, exponent, rfl, hspace, hstarts, hwhole, hfraction, hexponent,
      hgoes⟩ := exists_goesOn_scalar hnumeral
    obtain ⟨gap, hgap, htext⟩ := htext.exists_gap hspace
    refine ⟨gap, hgap, ?_⟩
    rw [htext, List.append_assoc]
    exact settles_expectScalar hspace hstarts ((hgoes _).settles
      (settles_number _ hwhole hfraction hexponent (endsNumeral_append hgap htail)))
  rejects := nofun

theorem choice {names : List (String × α)} :
    (Decoder.choice names).Obeys 0 (.choice names) where
  token _ := ⟨_, rfl⟩
  reads := by
    rintro text value ⟨name, hname, hspells⟩ tail htail depth -
    obtain ⟨inside, gap, hgap, htext, hscalar⟩ := exists_literal hspells
    refine ⟨gap, hgap, ?_⟩
    have hfind : Decoder.findCase names name = .ok value := by
      rw [Decoder.findCase, hname]
    have hcase : Reads (Decoder.readCase names) ('"' :: inside ++ (gap ++ tail)) value
        (gap ++ tail) := reads_expectScalar_of rfl rfl (hscalar _) hfind
    rw [htext, List.append_assoc]
    exact Reads.peekToken rfl hcase
  settles := by
    rintro text ⟨name, hspells⟩ tail htail depth -
    obtain ⟨inside, gap, hgap, htext, hscalar⟩ := exists_literal hspells
    refine ⟨gap, hgap, ?_⟩
    have hcase : Settles (Decoder.readCase names) ('"' :: inside ++ (gap ++ tail))
        (gap ++ tail) := settles_expectScalar rfl rfl (hscalar _).settles
    rw [htext, List.append_assoc]
    exact Settles.peekToken rfl hcase
  rejects := nofun

/-! ## Options and lists -/

/-- Before anything but `null` the decoder of an option does what the inner one does. -/
theorem goesOn_option (hopens : Opens text) (htail : endsValue tail = true) (depth : Nat) :
    GoesOn (decoder.option.read depth) (text.dropWhile isSpace ++ tail)
      (decoder.read depth >>= fun value => pure (some value))
      (text.dropWhile isSpace ++ tail) := by
  obtain ⟨c, more, htext, -, hletter⟩ := hopens
  have hsolid := startsSolid_dropWhile text (startsSolid_of_endsValue htail)
  rw [htext] at hsolid ⊢
  intro mark
  refine ⟨mark, (bind_of_ok (peekToken_of_startsSolid hsolid mark)).trans (congrFun ?_ _)⟩
  rw [List.cons_append, List.head?_cons]
  split
  · rename_i heq
    exact absurd (Option.some.inj heq) hletter
  · rfl

/-- The decoder of an option reads `null` as nothing. -/
theorem reads_option_null (decoder : Decoder α) (htext : Spaced "null".toList text)
    (tail : List Char) (depth : Nat) :
    ∃ gap, gap.all isSpace = true ∧ Reads (decoder.option.read depth)
      (text.dropWhile isSpace ++ tail) none (gap ++ tail) := by
  have htext : Spaced ('n' :: "ull".toList) text := htext
  obtain ⟨gap, hgap, htext⟩ := htext.exists_gap rfl
  refine ⟨gap, hgap, ?_⟩
  rw [htext, List.append_assoc]
  exact Reads.peekToken rfl
    (reads_advance.bind ((reads_word "ull".toList).bind (reads_pure none)))

theorem option (hobeys : decoder.Obeys level format) (hopen : format.IsOpen) :
    decoder.option.Obeys level format.option where
  token _ := ⟨_, rfl⟩
  reads := by
    intro text value hspells tail htail depth hdepth
    cases value with
    | some value =>
      obtain ⟨gap, hgap, hreads⟩ := hobeys.reads hspells htail hdepth
      exact ⟨gap, hgap, (goesOn_option (hopen.spells hspells) htail depth).reads
        (hreads.bind (reads_pure _))⟩
    | none => exact reads_option_null decoder hspells tail depth
  settles := by
    rintro text (htext | hfits) tail htail depth hdepth
    · obtain ⟨gap, hgap, hreads⟩ := reads_option_null decoder htext tail depth
      exact ⟨gap, hgap, hreads.settles⟩
    · obtain ⟨gap, hgap, hsettles⟩ := hobeys.settles hfits htail hdepth
      exact ⟨gap, hgap, (goesOn_option (hopen.fits hfits) htail depth).settles
        (hsettles.bind fun value _ => (reads_pure (some value)).settles)⟩
  rejects := by
    intro text htwice tail htail depth hdepth
    exact (goesOn_option (hopen.givesTwice htwice) htail depth).rejects
      (hobeys.rejects htwice htail hdepth).bind

end Decoder.Obeys

/-! ## Items -/

namespace Decoder.Obeys

variable {decoder : Decoder α} {format : Format α} {depth : Nat}

/-- A spelling is read as an item of a list. -/
theorem readsItem (hobeys : decoder.Obeys level format) (hopen : format.IsOpen)
    (hdepth : level < depth) (hspells : format.Spells text value) :
    ReadsItem (decoder.read depth) text value where
  opens := by
    obtain ⟨c, more, htext, hclose, -⟩ := hopen.spells hspells
    exact ⟨c, more, htext, hclose⟩
  reads hrest := hobeys.reads hspells hrest hdepth

/-- Items of the right form are read up to the end of the list unless one is refused. -/
theorem settles_itemsFrom (hobeys : decoder.Obeys level format) (hopen : format.IsOpen)
    (hdepth : level < depth) {items : List (List Char)}
    (hfits : ∀ item ∈ items, format.Fits item) (steps : Nat) (isFirst : Bool)
    {gap : List Char} (hgap : gap.all isSpace = true) (rest : List Char) :
    Settles (itemsFrom (decoder.read depth) steps isFirst)
      (gap ++ (commas isFirst items ++ ']' :: rest)) (']' :: rest) := by
  induction items generalizing steps isFirst gap with
  | nil =>
    cases steps with
    | zero => exact (fails_failHere _).settles
    | succ steps => exact ((reads_hasItem_end isFirst hgap).bind (reads_pure [])).settles
  | cons first items ih =>
    cases steps with
    | zero => exact (fails_failHere _).settles
    | succ steps =>
      have hfirst := hfits first List.mem_cons_self
      obtain ⟨c, more, htext, hclose, -⟩ := hopen.fits hfirst
      have hend : endsValue (commas false items ++ ']' :: rest) = true :=
        endsValue_commas (.inl rfl) _
      obtain ⟨between, hbetween, hsettles⟩ := hobeys.settles hfirst hend hdepth
      have hothers := ih (fun other hother => hfits other (List.mem_cons_of_mem _ hother))
        steps false hbetween
      have hitem := reads_hasItem isFirst hgap htext hclose items (']' :: rest)
      exact hitem.goesOn.settles (hsettles.bind fun value _ =>
        hothers.bind fun values _ => (reads_pure (value :: values)).settles)

/-- An item that is refused is reached behind items of the right form. -/
theorem rejects_itemsFrom (hobeys : decoder.Obeys level format) (hopen : format.IsOpen)
    (hdepth : level < depth) {before : List (List Char)}
    (hfits : ∀ other ∈ before, format.Fits other)
    (htwice : format.GivesTwice text) (after : List (List Char)) (steps : Nat)
    (isFirst : Bool) {gap : List Char} (hgap : gap.all isSpace = true)
    (rest : List Char) :
    Rejects (itemsFrom (decoder.read depth) steps isFirst)
      (gap ++ (commas isFirst (before ++ text :: after) ++ ']' :: rest)) := by
  induction before generalizing steps isFirst gap with
  | nil =>
    cases steps with
    | zero => exact (fails_failHere _).rejects _
    | succ steps =>
      obtain ⟨c, more, htext, hclose, -⟩ := hopen.givesTwice htwice
      have hitem := reads_hasItem isFirst hgap htext hclose after (']' :: rest)
      exact hitem.goesOn.rejects
        (hobeys.rejects htwice (endsValue_commas (.inl rfl) after) hdepth).bind
  | cons first before ih =>
    cases steps with
    | zero => exact (fails_failHere _).rejects _
    | succ steps =>
      have hfirst := hfits first List.mem_cons_self
      obtain ⟨c, more, htext, hclose, -⟩ := hopen.fits hfirst
      have hend : endsValue (commas false (before ++ text :: after) ++ ']' :: rest) = true :=
        endsValue_commas (.inl rfl) _
      obtain ⟨between, hbetween, hsettles⟩ := hobeys.settles hfirst hend hdepth
      have hothers := ih (fun other hother => hfits other (List.mem_cons_of_mem _ hother))
        steps false hbetween
      have hitem := reads_hasItem isFirst hgap htext hclose (before ++ text :: after)
        (']' :: rest)
      exact hitem.goesOn.rejects (hsettles.rejects fun _ _ => hothers.bind)

theorem list (hobeys : decoder.Obeys level format) (hopen : format.IsOpen) :
    decoder.list.Obeys (level + 1) format.list where
  token _ := ⟨_, rfl⟩
  reads := by
    rintro text values ⟨items, ⟨gap, hgap, htext⟩, hspells⟩ tail htail depth hdepth
    obtain ⟨below, rfl⟩ : ∃ below, depth = below + 2 := ⟨depth - 2, by omega⟩
    obtain ⟨after, hafter, htext⟩ := htext.exists_gap rfl
    refine ⟨after, hafter, ?_⟩
    have hitems : List.Forall₂ (ReadsItem (decoder.read (below + 1))) items values :=
      hspells.imp fun _ _ => hobeys.readsItem hopen (Nat.lt_of_succ_lt_succ hdepth)
    rw [htext]
    simp only [List.cons_append, List.append_assoc, List.nil_append]
    exact Reads.peekToken rfl
      (Reads.placed (reads_advance.bind (reads_items hitems hgap (after ++ tail))))
  settles := by
    rintro text ⟨items, ⟨gap, hgap, htext⟩, hfits⟩ tail htail depth hdepth
    obtain ⟨below, rfl⟩ : ∃ below, depth = below + 2 := ⟨depth - 2, by omega⟩
    obtain ⟨after, hafter, htext⟩ := htext.exists_gap rfl
    refine ⟨after, hafter, ?_⟩
    have hitems (steps : Nat) := hobeys.settles_itemsFrom hopen
      (Nat.lt_of_succ_lt_succ hdepth) hfits steps true hgap (after ++ tail)
    rw [htext]
    simp only [List.cons_append, List.append_assoc, List.nil_append]
    exact Settles.peekToken rfl (reads_advance.goesOn.settles
      ((Settles.remaining (hitems _)).thenAlways reads_listEnd)).placed
  rejects := by
    rintro text ⟨before, item, others, ⟨gap, hgap, htext⟩, hfits, htwice⟩ tail htail
      depth hdepth
    obtain ⟨below, rfl⟩ : ∃ below, depth = below + 2 := ⟨depth - 2, by omega⟩
    obtain ⟨after, hafter, htext⟩ := htext.exists_gap rfl
    have hitems (steps : Nat) := hobeys.rejects_itemsFrom hopen
      (Nat.lt_of_succ_lt_succ hdepth) hfits htwice others steps true hgap (after ++ tail)
    rw [htext]
    simp only [List.cons_append, List.append_assoc, List.nil_append]
    exact Rejects.peekToken rfl
      (reads_advance.goesOn.rejects (Rejects.remaining (hitems _)).thenAlways).placed

end Decoder.Obeys

end Wireform.Json
