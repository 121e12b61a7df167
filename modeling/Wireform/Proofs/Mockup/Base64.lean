import Mathlib
import Wireform.Mockup.Base64
import Wireform.Proofs.Artifact.Utf8

/-!
# Encoded byte strings

The texts that decode are the encodings, each of them to the bytes it encodes.
Three bytes and four values are two forms of one group of bits; a last group is
a whole one with zero bits in the place of the missing bytes.
-/

namespace Wireform.Base64

variable {offset count : Nat} {a b c : UInt8} {bytes group seen text : List UInt8}
  {digits : List Nat}

/-! ## Symbols -/

theorem symbol_lt : ∀ value < 64, (symbol value).toNat < 128 := by
  decide

theorem value?_symbol : ∀ value < 64, value? (symbol value) = some value := by
  decide

theorem symbol_of_value? {s : UInt8} {value : Nat} (hvalue : value? s = some value) :
    value < 64 ∧ symbol value = s := by
  have hall : ∀ code < 256, ∀ value ∈ value? (UInt8.ofNat code),
      value < 64 ∧ symbol value = UInt8.ofNat code := by
    decide +kernel
  have hs := hall s.toNat s.toNat_lt value
  rw [UInt8.ofNat_toNat] at hs
  exact hs hvalue

theorem symbol_ne_pad {value : Nat} (hvalue : value < 64) : symbol value ≠ pad := by
  intro heq
  have hnone : value? pad = none := by decide
  rw [← heq, value?_symbol value hvalue] at hnone
  cases hnone

/-- Symbols are read as the values they stand for. -/
theorem values_map_symbol (hdigits : ∀ value ∈ digits, value < 64) :
    values offset (digits.map symbol) = .ok digits := by
  induction digits generalizing offset with
  | nil => rfl
  | cons value digits ih =>
    rw [List.forall_mem_cons] at hdigits
    rw [List.map_cons, values, value?_symbol value hdigits.1]
    simp [ih hdigits.2, Except.map]

/-- Nothing but symbols is read. -/
theorem eq_map_symbol (hvalues : values offset text = .ok digits) :
    text = digits.map symbol ∧ ∀ value ∈ digits, value < 64 := by
  induction text generalizing offset digits with
  | nil =>
    cases hvalues
    simp
  | cons s text ih =>
    rw [values] at hvalues
    cases hvalue : value? s with
    | none => simp [hvalue] at hvalues
    | some value =>
      cases hrest : values (offset + 1) text with
      | error fault => simp [hvalue, hrest, Except.map] at hvalues
      | ok rest =>
        obtain rfl : value :: rest = digits := by
          simpa [hvalue, hrest, Except.map] using hvalues
        obtain ⟨hlt, rfl⟩ := symbol_of_value? hvalue
        obtain ⟨rfl, hall⟩ := ih hrest
        exact ⟨rfl, List.forall_mem_cons.mpr ⟨hlt, hall⟩⟩

/-! ## Groups -/

/-- The values of the four symbols for three bytes. -/
def sextets (a b c : UInt8) : List Nat :=
  [a.toNat / 4, a.toNat % 4 * 16 + b.toNat / 16, b.toNat % 16 * 4 + c.toNat / 64,
    c.toNat % 64]

theorem sextets_lt {value : Nat} (hvalue : value ∈ sextets a b c) : value < 64 := by
  have ha := a.toNat_lt
  have hb := b.toNat_lt
  have hc := c.toNat_lt
  simp only [sextets, List.mem_cons, List.not_mem_nil, or_false] at hvalue
  omega

theorem quad_sextets (a b c : UInt8) :
    quad (a.toNat / 4) (a.toNat % 4 * 16 + b.toNat / 16)
      (b.toNat % 16 * 4 + c.toNat / 64) (c.toNat % 64) = [a, b, c] := by
  have ha := a.toNat_lt
  have hb := b.toNat_lt
  have hc := c.toNat_lt
  have hfirst : a.toNat / 4 * 4 + (a.toNat % 4 * 16 + b.toNat / 16) / 16 = a.toNat := by
    omega
  have hsecond : (a.toNat % 4 * 16 + b.toNat / 16) % 16 * 16
      + (b.toNat % 16 * 4 + c.toNat / 64) / 4 = b.toNat := by
    omega
  have hthird : (b.toNat % 16 * 4 + c.toNat / 64) % 4 * 64 + c.toNat % 64 = c.toNat := by
    omega
  rw [quad, hfirst, hsecond, hthird, UInt8.ofNat_toNat, UInt8.ofNat_toNat,
    UInt8.ofNat_toNat]

/-- Four values are those of the bytes that they form. -/
theorem exists_sextets {w x y z : Nat} (hdigits : ∀ value ∈ [w, x, y, z], value < 64) :
    ∃ a b c, quad w x y z = [a, b, c] ∧ sextets a b c = [w, x, y, z] := by
  simp only [List.forall_mem_cons] at hdigits
  have hfirst : w * 4 + x / 16 < 256 := by omega
  have hsecond : x % 16 * 16 + y / 4 < 256 := by omega
  have hthird : y % 4 * 64 + z < 256 := by omega
  refine ⟨_, _, _, rfl, ?_⟩
  rw [sextets, Utf8.toNat_ofNat_of_lt hfirst, Utf8.toNat_ofNat_of_lt hsecond,
    Utf8.toNat_ofNat_of_lt hthird]
  simp only [List.cons.injEq, and_true]
  omega

theorem encode_three (rest : List UInt8) :
    encode (a :: b :: c :: rest) = (sextets a b c).map symbol ++ encode rest :=
  rfl

/-- Encodings have the length that is foretold for them. -/
theorem length_encode (bytes : List UInt8) :
    (encode bytes).length = encodedLength bytes.length := by
  induction bytes using encode.induct with
  | case1 => rfl
  | case2 a => simp [encode, encodedLength]
  | case3 a b => simp [encode, encodedLength]
  | case4 a b c rest ih =>
    simp only [encode, List.length_cons, ih, encodedLength]
    omega

theorem length_encode_mod (bytes : List UInt8) : (encode bytes).length % 4 = 0 := by
  rw [length_encode, encodedLength, Nat.mul_mod_left]

/-! ## The last group -/

theorem ne_pad_of_mem_map (hdigits : ∀ value ∈ digits, value < 64) :
    ∀ s ∈ digits.map symbol, decide (s ≠ pad) = true := by
  intro s hs
  obtain ⟨value, hvalue, rfl⟩ := List.mem_map.mp hs
  exact decide_eq_true (symbol_ne_pad (hdigits value hvalue))

theorem takeWhile_group (hdigits : ∀ value ∈ digits, value < 64) (count : Nat) :
    (digits.map symbol ++ List.replicate count pad).takeWhile (· ≠ pad) =
      digits.map symbol := by
  rw [List.takeWhile_append_of_pos (ne_pad_of_mem_map hdigits)]
  cases count <;> simp [List.replicate_succ]

theorem dropWhile_group (hdigits : ∀ value ∈ digits, value < 64) (count : Nat) :
    (digits.map symbol ++ List.replicate count pad).dropWhile (· ≠ pad) =
      List.replicate count pad := by
  rw [List.dropWhile_append_of_pos (ne_pad_of_mem_map hdigits)]
  cases count <;> simp [List.replicate_succ]

/-- The group that is filled up with pads has the bytes of its values. -/
theorem decodeLast_group (hdigits : ∀ value ∈ digits, value < 64)
    (htwo : 2 ≤ digits.length) (hfull : (digits.length + count) % 4 = 0) :
    decodeLast offset (digits.map symbol ++ List.replicate count pad) =
      lastBytes offset (digits.map symbol) digits := by
  have hsymbols : ¬ digits.length < 2 := by omega
  rw [decodeLast, takeWhile_group hdigits, dropWhile_group hdigits,
    values_map_symbol hdigits]
  simp only [bind, Except.bind]
  simp [hsymbols, hfull]

/-- A group that decodes is filled up with pads. -/
theorem exists_group (hgroup : group ≠ []) (hdecode : decodeLast offset group = .ok bytes) :
    ∃ digits count, group = digits.map symbol ++ List.replicate count pad ∧
      (∀ value ∈ digits, value < 64) ∧ 2 ≤ digits.length ∧
      (digits.length + count) % 4 = 0 ∧
      lastBytes offset (digits.map symbol) digits = .ok bytes := by
  rw [decodeLast] at hdecode
  cases hvalues : values offset (group.takeWhile (· ≠ pad)) with
  | error fault =>
    rw [hvalues] at hdecode
    cases hdecode
  | ok digits =>
    obtain ⟨hsymbols, hdigits⟩ := eq_map_symbol hvalues
    have hsplit := List.takeWhile_append_dropWhile (p := (· ≠ pad)) (l := group)
    rw [hvalues] at hdecode
    generalize group.takeWhile (· ≠ pad) = symbols at hsymbols hdecode hsplit
    generalize group.dropWhile (· ≠ pad) = padding at hdecode hsplit
    subst hsymbols
    simp only [bind, Except.bind, List.any_eq_true, List.length_map, ne_eq,
      decide_not, Bool.and_eq_true, Bool.or_eq_true, Bool.not_eq_true',
      decide_eq_true_eq, decide_eq_false_iff_not, List.isEmpty_eq_false_iff] at hdecode
    split_ifs at hdecode with hpads htwo hfull
    have hpadding : padding = List.replicate padding.length pad := by
      apply List.eq_replicate_of_mem
      intro s hs
      by_contra hne
      exact hpads ⟨List.ne_nil_of_mem hs, Or.inr ⟨s, hs, hne⟩⟩
    refine ⟨digits, padding.length, ?_, hdigits, ?_, ?_, hdecode⟩
    · rw [← hpadding, hsplit]
    · by_contra hshort
      exact htwo ⟨hgroup, by omega⟩
    · rwa [← hsplit, List.length_append, List.length_map] at hfull

/-- The values for a last group of bytes. -/
def lastSextets (bytes : List UInt8) : List Nat :=
  (sextets (bytes.getD 0 0) (bytes.getD 1 0) (bytes.getD 2 0)).take (bytes.length + 1)

theorem encode_last (hpos : 0 < bytes.length) (hlength : bytes.length ≤ 3) :
    encode bytes =
      (lastSextets bytes).map symbol ++ List.replicate (3 - bytes.length) pad := by
  match bytes, hpos, hlength with
  | [a], _, _ => simp [encode, lastSextets, sextets, List.replicate_succ]
  | [a, b], _, _ => simp [encode, lastSextets, sextets]
  | [a, b, c], _, _ => rfl

/-- The values of a last group give back its bytes. -/
theorem lastBytes_lastSextets (symbols : List UInt8) (hpos : 0 < bytes.length)
    (hlength : bytes.length ≤ 3) :
    lastBytes offset symbols (lastSextets bytes) = .ok bytes := by
  match bytes, hpos, hlength with
  | [a], _, _ =>
    have hquad : quad (a.toNat / 4) (a.toNat % 4 * 16) 0 0 = [a, 0, 0] := by
      simpa using quad_sextets a 0 0
    simp [lastSextets, sextets, lastBytes, hquad]
  | [a, b], _, _ =>
    have hquad : quad (a.toNat / 4) (a.toNat % 4 * 16 + b.toNat / 16)
        (b.toNat % 16 * 4) 0 = [a, b, 0] := by
      simpa using quad_sextets a b 0
    simp [lastSextets, sextets, lastBytes, hquad]
  | [a, b, c], _, _ => simp [lastSextets, sextets, lastBytes, quad_sextets]

/-- No other values make up a last group. -/
theorem eq_lastSextets {symbols : List UInt8} (hdigits : ∀ value ∈ digits, value < 64)
    (htwo : 2 ≤ digits.length) (hfour : digits.length ≤ 4)
    (hlast : lastBytes offset symbols digits = .ok bytes) :
    digits = lastSextets bytes ∧ digits.length = bytes.length + 1 := by
  match digits, htwo, hfour with
  | [w, x], _, _ =>
    have hzeros : ∀ value ∈ [w, x, 0, 0], value < 64 := by simpa using hdigits
    obtain ⟨a, b, c, hquad, hsextets⟩ := exists_sextets hzeros
    have hb := b.toNat_lt
    rw [lastBytes, hquad] at hlast
    split_ifs at hlast with hx
    cases hlast
    simp only [sextets, List.cons.injEq] at hsextets
    have hfirst : w = a.toNat / 4 := by omega
    have hsecond : x = a.toNat % 4 * 16 := by omega
    exact ⟨by simp [lastSextets, sextets, hfirst, hsecond], rfl⟩
  | [w, x, y], _, _ =>
    have hzeros : ∀ value ∈ [w, x, y, 0], value < 64 := by simpa using hdigits
    obtain ⟨a, b, c, hquad, hsextets⟩ := exists_sextets hzeros
    have hc := c.toNat_lt
    rw [lastBytes, hquad] at hlast
    split_ifs at hlast with hy
    cases hlast
    simp only [sextets, List.cons.injEq] at hsextets
    have hfirst : w = a.toNat / 4 := by omega
    have hsecond : x = a.toNat % 4 * 16 + b.toNat / 16 := by omega
    have hthird : y = b.toNat % 16 * 4 := by omega
    exact ⟨by simp [lastSextets, sextets, hfirst, hsecond, hthird], rfl⟩
  | [w, x, y, z], _, _ =>
    obtain ⟨a, b, c, hquad, hsextets⟩ := exists_sextets hdigits
    rw [lastBytes, hquad] at hlast
    cases hlast
    exact ⟨hsextets.symm, rfl⟩

/-- The last group encodes the bytes it has. -/
theorem eq_encode_of_decodeLast (hlength : group.length ≤ 4)
    (hdecode : decodeLast offset group = .ok bytes) : group = encode bytes := by
  by_cases hgroup : group = []
  · subst hgroup
    cases hdecode
    rfl
  · obtain ⟨digits, count, rfl, hdigits, htwo, hfull, hlast⟩ := exists_group hgroup hdecode
    simp only [List.length_append, List.length_map, List.length_replicate] at hlength
    obtain ⟨hsextets, hbytes⟩ := eq_lastSextets hdigits htwo (by omega) hlast
    have hcount : count = 3 - bytes.length := by omega
    rw [encode_last (by omega) (by omega), hsextets, hcount]

theorem lastSextets_lt {value : Nat} (hvalue : value ∈ lastSextets bytes) : value < 64 :=
  sextets_lt (List.mem_of_mem_take hvalue)

theorem length_lastSextets (hlength : bytes.length ≤ 3) :
    (lastSextets bytes).length = bytes.length + 1 := by
  rw [lastSextets, List.length_take]
  simp only [sextets, List.length_cons, List.length_nil]
  omega

/-- The encoding of a last group of bytes has them as its bytes. -/
theorem decodeLast_encode (hlength : bytes.length ≤ 3) :
    decodeLast offset (encode bytes) = .ok bytes := by
  by_cases hbytes : bytes = []
  · rw [hbytes]
    rfl
  · have hpos := List.length_pos_iff.mpr hbytes
    have hdigits := length_lastSextets hlength
    have hgroup : decodeLast offset ((lastSextets bytes).map symbol
        ++ List.replicate (3 - bytes.length) pad) =
          lastBytes offset ((lastSextets bytes).map symbol) (lastSextets bytes) :=
      decodeLast_group (fun _ => lastSextets_lt) (by omega) (by omega)
    rw [encode_last hpos hlength, hgroup, lastBytes_lastSextets _ hpos hlength]

/-! ## Whole texts -/

theorem decodeFrom_of_length_le (hlength : text.length ≤ 4) :
    decodeFrom seen offset text = (decodeLast offset text).map (seen.reverse ++ ·) := by
  rw [decodeFrom]
  · cases decodeLast offset text <;> rfl
  · rintro a b c d e rest rfl
    simp only [List.length_cons] at hlength
    omega

theorem encode_ne_nil (hbytes : bytes ≠ []) : encode bytes ≠ [] := by
  intro hnil
  have hlength := length_encode bytes
  have hpos := List.length_pos_iff.mpr hbytes
  rw [hnil, encodedLength, List.length_nil] at hlength
  omega

/-- Decoding goes past a group that is not the last one. -/
theorem decodeFrom_three (seen : List UInt8) (offset : Nat) {rest : List UInt8}
    (hrest : rest ≠ []) :
    decodeFrom seen offset (encode (a :: b :: c :: rest)) =
      decodeFrom ([a, b, c].reverse ++ seen) (offset + 4) (encode rest) := by
  obtain ⟨e, tail, htail⟩ := List.exists_cons_of_ne_nil (encode_ne_nil hrest)
  have hvalues : values offset ((sextets a b c).map symbol) = .ok (sextets a b c) :=
    values_map_symbol fun _ => sextets_lt
  rw [encode_three, htail]
  simp only [sextets, List.map_cons, List.map_nil, List.cons_append, List.nil_append,
    decodeFrom] at hvalues ⊢
  simp [hvalues, bind, Except.bind, quad_sextets]

theorem decodeFrom_encode_last (seen : List UInt8) (offset : Nat)
    (hlength : bytes.length ≤ 3) :
    decodeFrom seen offset (encode bytes) = .ok (seen.reverse ++ bytes) := by
  have htext : (encode bytes).length ≤ 4 := by
    rw [length_encode, encodedLength]
    omega
  rw [decodeFrom_of_length_le htext, decodeLast_encode hlength, Except.map]

/-- Decoding recovers encoded bytes. -/
theorem decodeFrom_encode (bytes seen : List UInt8) (offset : Nat) :
    decodeFrom seen offset (encode bytes) = .ok (seen.reverse ++ bytes) := by
  induction bytes using encode.induct generalizing seen offset with
  | case1 => exact decodeFrom_encode_last seen offset (by simp)
  | case2 a => exact decodeFrom_encode_last seen offset (by simp)
  | case3 a b => exact decodeFrom_encode_last seen offset (by simp)
  | case4 a b c rest ih =>
    -- Three bytes with none behind them are a last group as well.
    by_cases hrest : rest = []
    · rw [hrest]
      exact decodeFrom_encode_last seen offset (by simp)
    · rw [decodeFrom_three seen offset hrest, ih, List.reverse_append,
        List.reverse_reverse, List.append_assoc]
      rfl

/-- A text that decodes encodes the bytes it adds. -/
theorem eq_encode_of_decodeFrom (hdecode : decodeFrom seen offset text = .ok bytes) :
    ∃ added, bytes = seen.reverse ++ added ∧ text = encode added := by
  induction seen, offset, text using decodeFrom.induct with
  | case1 seen offset a b c d e rest ih =>
    rw [decodeFrom] at hdecode
    cases hvalues : values offset [a, b, c, d] with
    | error fault =>
      rw [hvalues] at hdecode
      cases hdecode
    | ok digits =>
      obtain ⟨hsymbols, hdigits⟩ := eq_map_symbol hvalues
      obtain ⟨w, x, y, z, rfl⟩ : ∃ w x y z, digits = [w, x, y, z] := by
        have hlength := congrArg List.length hsymbols
        rw [List.length_map] at hlength
        match digits, hlength with
        | [w, x, y, z], _ => exact ⟨w, x, y, z, rfl⟩
      obtain ⟨p, q, r, hquad, hsextets⟩ := exists_sextets hdigits
      rw [hvalues] at hdecode
      obtain ⟨added, hbytes, hrest⟩ := ih w x y z hdecode
      refine ⟨p :: q :: r :: added, ?_, ?_⟩
      · rw [hbytes, hquad, List.reverse_append, List.reverse_reverse, List.append_assoc]
        rfl
      · rw [encode_three, hsextets, ← hsymbols, ← hrest]
        rfl
  | case2 seen offset group hgroup =>
    have hlength : group.length ≤ 4 := by
      match group, hgroup with
      | [], _ | [_], _ | [_, _], _ | [_, _, _], _ | [_, _, _, _], _ => simp
      | a :: b :: c :: d :: e :: rest, hgroup => exact absurd rfl (hgroup a b c d e rest)
    rw [decodeFrom_of_length_le hlength] at hdecode
    cases hlast : decodeLast offset group with
    | error fault =>
      rw [hlast] at hdecode
      cases hdecode
    | ok added =>
      rw [hlast] at hdecode
      cases hdecode
      exact ⟨added, rfl, eq_encode_of_decodeLast hlength hlast⟩

/-- The texts that decode are the encodings of what they decode to. -/
theorem decode_eq_ok_iff : decode text = .ok bytes ↔ text = encode bytes := by
  constructor
  · intro hdecode
    rw [decode] at hdecode
    cases hstray : strayEnd text with
    | some fault =>
      rw [hstray] at hdecode
      cases hdecode
    | none =>
      rw [hstray] at hdecode
      obtain ⟨added, rfl, htext⟩ := eq_encode_of_decodeFrom hdecode
      exact htext
  · rintro rfl
    have hmod := length_encode_mod bytes
    have hstray : strayEnd (encode bytes) = none := by
      rw [strayEnd]
      cases (encode bytes).getLast? <;> simp [hmod]
    rw [decode, hstray]
    exact decodeFrom_encode bytes [] 0

end Wireform.Base64
