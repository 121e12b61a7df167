import Mathlib
import Wireform.Binary64

/-!
# Exact results

Arithmetic rounds the exact result to a number that is near to it.  Where the exact
result is a number of the format itself, nothing is lost.  So a decimal is read exactly
when its digits, taken as an integer, make up a number of the format, and the decimal
is one as well: the power of ten between the two is then small, and hence exact, too.
-/

namespace Wireform.Binary64

variable {x y m n d : Nat}

/-! ## Values -/

/-- The value of a finite magnitude, told by its exponent field and its fraction. -/
def value (magnitude : Nat) : ℚ :=
  let exponent : Nat := magnitude / 2 ^ 52
  let fraction : Nat := magnitude % 2 ^ 52
  if exponent = 0 then fraction * 2 ^ (-1074 : ℤ)
  else (2 ^ 52 + fraction) * 2 ^ ((exponent : ℤ) - 1075)

/-- The value of a finite magnitude, counted in units of `2 ^ -1074`. -/
def units (magnitude : Nat) : Nat := significand magnitude <<< scale magnitude

theorem significand_lt (m : Nat) : significand m < 2 ^ 53 := by
  unfold significand
  split
  · have : (1 <<< 52 : Nat) = 2 ^ 52 := rfl
    omega
  · have := Nat.mod_lt m (show 0 < 1 <<< 52 by decide)
    have : (1 <<< 52 : Nat) = 2 ^ 52 := rfl
    omega

theorem units_of_lt (hm : m < 2 ^ 52) : units m = m := by
  have hexponent : m / 1 <<< 52 = 0 := Nat.div_eq_of_lt hm
  have hscale : scale m = 0 := by rw [scale, hexponent]
  rw [units, hscale, Nat.shiftLeft_zero]
  exact if_pos hm

theorem units_of_le (hm : 2 ^ 52 ≤ m) :
    units m = (2 ^ 52 + m % 2 ^ 52) * 2 ^ (m / 2 ^ 52 - 1) := by
  have hsignificand : significand m = 2 ^ 52 + m % 2 ^ 52 := if_neg (Nat.not_lt.2 hm)
  rw [units, hsignificand, Nat.shiftLeft_eq]
  rfl

theorem value_eq (m : Nat) : value m = units m * 2 ^ (-1074 : ℤ) := by
  by_cases hm : m < 2 ^ 52
  · have hexponent : m / 2 ^ 52 = 0 := Nat.div_eq_of_lt hm
    rw [value, if_pos hexponent, Nat.mod_eq_of_lt hm, units_of_lt hm]
  · have hm := Nat.not_lt.1 hm
    have hexponent : 1 ≤ m / 2 ^ 52 := (Nat.one_le_div_iff (by decide)).2 hm
    have hpower : (2 : ℚ) ^ ((m / 2 ^ 52 : Nat) - 1075 : ℤ) =
        2 ^ (m / 2 ^ 52 - 1) * 2 ^ (-1074 : ℤ) := by
      rw [← zpow_natCast, ← zpow_add₀ two_ne_zero, Nat.cast_sub hexponent]
      ring_nf
    rw [value, if_neg (Nat.ne_of_gt hexponent), hpower, units_of_le hm, ← mul_assoc,
      Nat.cast_mul, Nat.cast_add, Nat.cast_pow, Nat.cast_pow]
    rfl

theorem value_eq_div (m : Nat) : value m = units m / (2 ^ 1074 : Nat) := by
  rw [value_eq, zpow_neg, ← div_eq_mul_inv, Nat.cast_pow, Nat.cast_ofNat]
  rfl

theorem unit_ne_zero : ((2 ^ 1074 : Nat) : ℚ) ≠ 0 := Nat.cast_ne_zero.2 (by positivity)

theorem units_eq_zero : units m = 0 ↔ m = 0 := by
  by_cases hm : m < 2 ^ 52
  · rw [units_of_lt hm]
  · have hpositive : 0 < units m := by
      rw [units_of_le (Nat.not_lt.1 hm)]
      positivity
    omega

@[simp] theorem value_zero : value 0 = 0 := by
  rw [value_eq, units_eq_zero.2 rfl, Nat.cast_zero, zero_mul]

theorem value_eq_zero : value m = 0 ↔ m = 0 := by
  rw [value_eq_div, div_eq_zero_iff, or_iff_left unit_ne_zero, Nat.cast_eq_zero,
    units_eq_zero]

/-- Integers of up to 53 bits are numbers of the format. -/
theorem exists_value_eq (hn : n < 2 ^ 53) : ∃ m < infinite, value m = n := by
  obtain rfl | hpositive := Nat.eq_zero_or_pos n
  · exact ⟨0, by decide, by rw [value_zero, Nat.cast_zero]⟩
  have hlog : n.log2 ≤ 52 := Nat.lt_succ_iff.1 ((Nat.log2_lt hpositive.ne').2 hn)
  have hlow : 2 ^ 52 ≤ n * 2 ^ (52 - n.log2) := by
    calc 2 ^ 52 = 2 ^ n.log2 * 2 ^ (52 - n.log2) := by rw [← Nat.pow_add, Nat.add_sub_cancel' hlog]
      _ ≤ n * 2 ^ (52 - n.log2) := Nat.mul_le_mul_right _ (Nat.log2_self_le hpositive.ne')
  have hhigh : n * 2 ^ (52 - n.log2) < 2 ^ 53 := by
    calc n * 2 ^ (52 - n.log2) < 2 ^ (n.log2 + 1) * 2 ^ (52 - n.log2) :=
          Nat.mul_lt_mul_of_pos_right Nat.lt_log2_self (by positivity)
      _ = 2 ^ 53 := by rw [← Nat.pow_add]; congr 1; omega
  -- The leading bit of the shifted integer is left out of the fraction.
  obtain ⟨fraction, hfraction⟩ := Nat.exists_eq_add_of_le hlow
  have hsmall : fraction < 2 ^ 52 := by omega
  refine ⟨(1023 + n.log2) * 2 ^ 52 + fraction, ?_, ?_⟩
  · have hinfinite : infinite = 2047 * 2 ^ 52 := rfl
    omega
  · have hexponent : ((1023 + n.log2) * 2 ^ 52 + fraction) / 2 ^ 52 = 1023 + n.log2 := by
      omega
    have hrest : ((1023 + n.log2) * 2 ^ 52 + fraction) % 2 ^ 52 = fraction := by omega
    have hpower : (2 : ℚ) ^ (((1023 + n.log2 : Nat) : ℤ) - 1075) =
        (2 ^ (52 - n.log2))⁻¹ := by
      rw [← zpow_natCast, ← zpow_neg, Nat.cast_sub hlog]
      congr 1
      push_cast
      ring
    have hshifted : (2 ^ 52 + fraction : ℚ) = n * 2 ^ (52 - n.log2) := by
      exact_mod_cast hfraction.symm
    rw [value, hexponent, hrest, if_neg (by omega), hpower, hshifted]
    exact mul_inv_cancel_right₀ (by positivity) _

/-! ## Rounding -/

theorem roundDiv_mul (n : Nat) (hd : 0 < d) : roundDiv (d * n) d = n := by
  simp only [roundDiv, Nat.mul_mod_right, Nat.mul_div_cancel_left n hd, Nat.mul_zero, if_pos hd]

/-- The binary logarithm of a quotient without rest, as rounding finds it. -/
theorem log2_quotient (hd : 0 < d) (hn : 0 < n) :
    let guess := (d * n).log2 - d.log2
    (if d <<< guess ≤ d * n then guess else guess - 1) = n.log2 := by
  intro guess
  have hle (k : Nat) : d <<< k ≤ d * n ↔ k ≤ n.log2 := by
    rw [Nat.shiftLeft_eq, Nat.mul_le_mul_left_iff hd, ← Nat.le_log2 hn.ne']
  have hd_le := Nat.log2_self_le hd.ne'
  have hn_le := Nat.log2_self_le hn.ne'
  have hd_lt : d < 2 ^ (d.log2 + 1) := Nat.lt_log2_self
  have hn_lt : n < 2 ^ (n.log2 + 1) := Nat.lt_log2_self
  have hproduct : d * n ≠ 0 := Nat.mul_ne_zero hd.ne' hn.ne'
  have hlow : d.log2 + n.log2 ≤ (d * n).log2 := by
    rw [Nat.le_log2 hproduct, Nat.pow_add]
    exact Nat.mul_le_mul hd_le hn_le
  have hhigh : (d * n).log2 < d.log2 + n.log2 + 2 := by
    rw [Nat.log2_lt hproduct]
    calc d * n < 2 ^ (d.log2 + 1) * 2 ^ (n.log2 + 1) := Nat.mul_lt_mul'' hd_lt hn_lt
      _ = 2 ^ (d.log2 + n.log2 + 2) := by rw [← Nat.pow_add]; congr 1; omega
  split
  · have := (hle guess).1 ‹_›
    omega
  · have := mt (hle guess).2 ‹_›
    omega

/-- The leading bit of a significand is not shifted out. -/
theorem log2_units (hm : 2 ^ 52 ≤ m) : (units m).log2 = 52 + (m / 2 ^ 52 - 1) := by
  have hfraction := Nat.mod_lt m (show 0 < 2 ^ 52 by decide)
  have hne : units m ≠ 0 := by
    rw [units_of_le hm]
    positivity
  rw [Nat.log2_eq_iff hne, units_of_le hm, Nat.pow_add 2 52]
  refine ⟨Nat.mul_le_mul_right _ (Nat.le_add_right _ _), ?_⟩
  rw [Nat.add_right_comm, Nat.pow_add 2 (52 + 1)]
  exact Nat.mul_lt_mul_of_pos_right (by omega) (by positivity)

/-- A quotient that is a number of the format is not changed by rounding. -/
theorem nearest_of_units (hm : m < infinite) (hd : 0 < d)
    (hexact : n * 2 ^ 1074 = d * units m) : nearest n d = m := by
  by_cases hzero : m = 0
  · have hn : n = 0 := by
      rw [units_eq_zero.2 hzero, Nat.mul_zero] at hexact
      exact (Nat.mul_eq_zero.1 hexact).resolve_right (by positivity)
    rw [nearest, if_pos hn, hzero]
  have hpositive : 0 < units m := Nat.pos_of_ne_zero (mt units_eq_zero.1 hzero)
  have hn : n ≠ 0 := by
    rintro rfl
    rw [Nat.zero_mul] at hexact
    exact (Nat.mul_pos hd hpositive).ne hexact
  rw [nearest, if_neg hn]
  simp only [Nat.shiftLeft_eq n, hexact]
  rw [log2_quotient hd hpositive]
  by_cases hsmall : m < 2 ^ 52
  · -- The units are too few to be shifted.
    have hlog : m.log2 - 52 = 0 := Nat.sub_eq_zero_of_le ((Nat.log2_lt hzero).2 hsmall).le
    rw [units_of_lt hsmall, hlog, Nat.shiftLeft_zero, roundDiv_mul m hd, Nat.zero_shiftLeft,
      Nat.zero_add]
    exact Nat.min_eq_right hm.le
  · have hlarge := Nat.not_lt.1 hsmall
    have hexponent : 1 ≤ m / 2 ^ 52 := (Nat.one_le_div_iff (by decide)).2 hlarge
    rw [log2_units hlarge, Nat.add_sub_cancel_left, units_of_le hlarge, Nat.shiftLeft_eq d,
      ← Nat.mul_assoc, Nat.mul_right_comm, roundDiv_mul _ (by positivity), Nat.shiftLeft_eq]
    have hwhole := Nat.div_add_mod m (2 ^ 52)
    have hresult : (m / 2 ^ 52 - 1) * 2 ^ 52 + (2 ^ 52 + m % 2 ^ 52) = m := by omega
    rw [hresult]
    exact Nat.min_eq_right hm.le

theorem nearest_eq (hm : m < infinite) (hd : 0 < d) (hexact : (n : ℚ) / d = value m) :
    nearest n d = m := by
  refine nearest_of_units hm hd ?_
  have hd : (d : ℚ) ≠ 0 := Nat.cast_ne_zero.2 hd.ne'
  rw [value_eq_div, div_eq_div_iff hd unit_ne_zero, ← Nat.cast_mul, ← Nat.cast_mul,
    Nat.cast_inj] at hexact
  rw [hexact, Nat.mul_comm]

theorem mulMagnitude_eq (hm : m < infinite) (hexact : value x * value y = value m) :
    mulMagnitude x y = m := by
  refine nearest_eq hm (by decide) ?_
  have hproduct : (significand x * significand y) <<< (scale x + scale y) =
      units x * units y := by
    simp only [units, Nat.shiftLeft_eq, Nat.pow_add]
    ring
  have hunit (k : Nat) : 1 <<< (k + k) = 2 ^ k * 2 ^ k := by
    rw [Nat.one_shiftLeft, Nat.pow_add]
  rw [← hexact, value_eq_div, value_eq_div, div_mul_div_comm, hproduct, hunit 1074, Nat.cast_mul,
    Nat.cast_mul]

theorem divMagnitude_eq (hm : m < infinite) (hy : y ≠ 0)
    (hexact : value x / value y = value m) : divMagnitude x y = m := by
  refine nearest_eq hm (Nat.pos_of_ne_zero (mt units_eq_zero.1 hy)) ?_
  rw [← hexact, value_eq_div, value_eq_div, div_div_div_cancel_right₀ unit_ne_zero]
  rfl

theorem nearest_zero (d : Nat) : nearest 0 d = 0 := if_pos rfl

/-! ## Powers of ten -/

/-- The powers of ten that are numbers of the format. -/
theorem value_powerOfTen {k : Nat} (hk : k ≤ 22) :
    powerOfTen k < infinite ∧ value (powerOfTen k) = 10 ^ k := by
  have hunits : ∀ k ≤ 22, powerOfTen k < infinite ∧
      units (powerOfTen k) = 10 ^ k * 2 ^ 1074 := by
    decide +kernel
  obtain ⟨hfinite, hunits⟩ := hunits k hk
  refine ⟨hfinite, ?_⟩
  rw [value_eq_div, hunits, Nat.cast_mul, mul_div_cancel_right₀ _ unit_ne_zero, Nat.cast_pow]
  rfl

/-- No larger power of five divides a number of the format, since its significand is
less than `5 ^ 23`. -/
theorem le_of_pow_dvd_units {k : Nat} (hzero : m ≠ 0) (hdvd : 5 ^ k ∣ units m) :
    k ≤ 22 := by
  have hcoprime : Nat.Coprime (5 ^ k) (2 ^ scale m) := Nat.Coprime.pow _ _ (by decide)
  have hpositive : 0 < significand m := by
    refine Nat.pos_of_ne_zero fun hsignificand => hzero (units_eq_zero.1 ?_)
    rw [units, hsignificand, Nat.zero_shiftLeft]
  rw [units, Nat.shiftLeft_eq] at hdvd
  have hle := Nat.le_of_dvd hpositive (hcoprime.dvd_of_dvd_mul_right hdvd)
  have hlt : 5 ^ k < 5 ^ 23 := (hle.trans_lt (significand_lt m)).trans (by decide)
  exact Nat.lt_succ_iff.1 ((Nat.pow_lt_pow_iff_right (by decide)).1 hlt)

/-- The power of ten between two numbers of the format is small. -/
theorem power_le (hzero : n ≠ 0) {k : Nat} (hexact : value m = value n * 10 ^ k) :
    k ≤ 22 := by
  have hunits : units m = units n * 10 ^ k := by
    rw [value_eq_div, value_eq_div, div_mul_eq_mul_div, div_left_inj' unit_ne_zero] at hexact
    exact_mod_cast hexact
  have hne : m ≠ 0 := by
    rintro rfl
    rw [units_eq_zero.2 rfl] at hunits
    exact Nat.mul_ne_zero (mt units_eq_zero.1 hzero) (by positivity) hunits.symm
  refine le_of_pow_dvd_units hne ?_
  rw [hunits]
  exact (pow_dvd_pow_of_dvd (by decide) k).mul_left _

/-- The same where the power may be negative. -/
theorem exponent_bounds (hzero : n ≠ 0) {exponent : ℤ}
    (hexact : value m = value n * 10 ^ exponent) : -22 ≤ exponent ∧ exponent ≤ 22 := by
  obtain ⟨k, rfl | rfl⟩ := exponent.eq_nat_or_neg
  · rw [zpow_natCast] at hexact
    have hk := power_le hzero hexact
    omega
  · have hback : value n = value m * 10 ^ k := by
      rw [hexact, zpow_neg, zpow_natCast, inv_mul_cancel_right₀ (by positivity)]
    have hne : m ≠ 0 := by
      rintro rfl
      rw [value_zero, zero_mul, value_eq_zero] at hback
      exact hzero hback
    have hk := power_le hne hback
    omega

/-! ## Decimals -/

theorem scaleDown_zero (k : Nat) : scaleDown 0 k = 0 := by
  have hquotient (y : Nat) : divMagnitude 0 y = 0 := by
    have hzero : significand 0 <<< scale 0 = 0 := rfl
    rw [divMagnitude, hzero, nearest_zero]
  rw [scaleDown]
  split
  · exact hquotient _
  · rfl

/-- A decimal without digits other than zero is read as zero. -/
theorem ofDecimal_zero (negative : Bool) (exponent : Int) :
    ofDecimal negative 0 exponent = some ⟨negative, 0⟩ := by
  have hproduct (y : Nat) : mulMagnitude 0 y = 0 := by
    have hzero : (significand 0 * significand y) <<< (scale 0 + scale y) = 0 := by
      rw [show significand 0 = 0 from rfl, Nat.zero_mul, Nat.zero_shiftLeft]
    rw [mulMagnitude, hzero, nearest_zero]
  cases exponent with
  | ofNat up =>
    simp only [ofDecimal, nearest_zero, hproduct]
    split <;> rfl
  | negSucc down => simp only [ofDecimal, nearest_zero, scaleDown_zero]

/-- A decimal that is a number of the format is read exactly when its digits make up
one as well. -/
theorem ofDecimal_eq (negative : Bool) {digits : Nat} {exponent : ℤ} (hn : n < infinite)
    (hdigits : value n = digits) (hm : m < infinite)
    (hexact : value m = digits * 10 ^ exponent) :
    ofDecimal negative digits exponent = some ⟨negative, m⟩ := by
  obtain rfl | hpositive := Nat.eq_zero_or_pos digits
  · rw [Nat.cast_zero, zero_mul, value_eq_zero] at hexact
    rw [ofDecimal_zero, hexact]
  have hone : nearest digits 1 = n :=
    nearest_eq hn Nat.one_pos (by rw [Nat.cast_one, div_one, hdigits])
  have hne : n ≠ 0 := by
    rintro rfl
    rw [value_zero, eq_comm, Nat.cast_eq_zero] at hdigits
    exact hpositive.ne' hdigits
  rw [← hdigits] at hexact
  have hbounds := exponent_bounds hne hexact
  cases exponent with
  | ofNat up =>
    rw [Int.ofNat_eq_natCast] at hbounds
    have hup : up ≤ 22 := by omega
    have hproduct : mulMagnitude n (powerOfTen up) = m :=
      mulMagnitude_eq hm (by rw [(value_powerOfTen hup).2, hexact]; rfl)
    simp only [ofDecimal, hone, hproduct, if_pos (hup.trans (by decide : 22 ≤ 308)), if_pos hm]
  | negSucc down =>
    have hdown : down + 1 ≤ 22 := by omega
    obtain ⟨-, hpower⟩ := value_powerOfTen hdown
    have hpowerne : powerOfTen (down + 1) ≠ 0 := fun hzero => by
      have hten : (10 : ℚ) ^ (down + 1) ≠ 0 := by positivity
      exact hten (by rw [← hpower, hzero, value_zero])
    have hquotient : divMagnitude n (powerOfTen (down + 1)) = m :=
      divMagnitude_eq hm hpowerne (by rw [hpower, hexact, zpow_negSucc, div_eq_mul_inv])
    simp only [ofDecimal, hone]
    rw [scaleDown, if_pos (hdown.trans (by decide)), hquotient]

end Wireform.Binary64
