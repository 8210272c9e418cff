import RobotTelemetry.Decimal.Reader
import RobotTelemetry.Proofs.Rounding
import RobotTelemetry.Proofs.ShortestDecimals
/-!
# Laws of nearest doubles

The exponent at which a quotient is rounded is the only one at which its integer part has
fifty-three bits, or fewer at the least exponent (`Binary64.IsExponent`). So every number of the
interval of a double is rounded to this double (`Binary64.ofBits_nearest`), and so is every decimal
of the interval (`Decimal.ofBits_magnitudeBits`).
-/

namespace RobotTelemetry

namespace Binary64

/-! ## Exponents -/

/-- At this exponent a number is rounded. -/
structure IsExponent (v : ℚ) (e : ℤ) : Prop where
  low : leastExponent ≤ e
  lt : v < 2 * leastNormal * 2 ^ e
  le : leastExponent < e → leastNormal * 2 ^ e ≤ v

theorem IsExponent.le_of_le {v : ℚ} {e e' : ℤ} (h : IsExponent v e) (h' : IsExponent v e') :
    e' ≤ e := by
  by_contra! hlt
  have power : (2 : ℚ) ^ (e + 1) ≤ 2 ^ e' := zpow_le_zpow_right₀ one_le_two (by omega)
  have high := h.lt
  have low := h'.le (h.low.trans_lt hlt)
  rw [zpow_add_one₀ two_ne_zero] at power
  simp only [leastNormal] at high low
  push_cast at high low
  linarith

theorem IsExponent.unique {v : ℚ} {e e' : ℤ} (h : IsExponent v e) (h' : IsExponent v e') :
    e = e' :=
  le_antisymm (h'.le_of_le h) (h.le_of_le h')

theorem IsExponent.of_max {v : ℚ} {e : ℤ} (hlt : v < 2 * leastNormal * 2 ^ e)
    (hle : leastNormal * 2 ^ e ≤ v) : IsExponent v (max leastExponent e) := by
  refine ⟨le_max_left _ _, hlt.trans_le ?_, fun h => ?_⟩
  · exact mul_le_mul_of_nonneg_left (zpow_le_zpow_right₀ one_le_two (le_max_right _ _))
      (by positivity)
  · rwa [max_eq_right ((lt_max_iff.1 h).resolve_left (lt_irrefl _)).le]

/-- A quotient that is scaled by a power of two is again one of naturals. -/
theorem scaled_cases (f : ℕ → ℕ → ℕ) (num : ℕ) {den : ℕ} (hden : 0 < den) (q : ℤ) :
    ∃ a b : ℕ, 0 < b ∧ (a / b : ℚ) = num / den / 2 ^ q ∧
      (if 0 ≤ q then f num (den * Nat.pow 2 q.toNat) else f (num * Nat.pow 2 (-q).toNat) den) =
        f a b := by
  have hpos : (den : ℚ) ≠ 0 := by exact_mod_cast hden.ne'
  by_cases hq : 0 ≤ q
  · obtain ⟨k, rfl⟩ := Int.eq_ofNat_of_zero_le hq
    refine ⟨num, den * 2 ^ k, by positivity, ?_, if_pos hq⟩
    rw [zpow_natCast, div_div]
    push_cast
    rfl
  · obtain ⟨k, rfl⟩ : ∃ k : ℕ, q = -k := ⟨(-q).toNat, by omega⟩
    refine ⟨num * 2 ^ k, den, hden, ?_, ?_⟩
    · rw [zpow_neg, zpow_natCast, div_inv_eq_mul]
      push_cast
      ring
    · rw [if_neg hq, neg_neg, Int.toNat_natCast]
      rfl

theorem log2_bounds {n : ℕ} (hn : 0 < n) :
    (2 : ℚ) ^ (n.log2 : ℤ) ≤ n ∧ (n : ℚ) < 2 ^ (n.log2 + 1 : ℤ) := by
  constructor
  · rw [zpow_natCast]
    exact_mod_cast Nat.log2_self_le hn.ne'
  · rw [← Nat.cast_succ, zpow_natCast]
    exact_mod_cast Nat.lt_log2_self

/-- The exponent that is guessed from the lengths of a quotient is too low by one at most. -/
theorem guess_bounds {num den : ℕ} (hnum : 0 < num) (hden : 0 < den) {guess : ℤ}
    (hguess : guess = (num.log2 : ℤ) - den.log2 - 53) :
    (leastNormal * 2 ^ guess : ℚ) ≤ num / den ∧
      (num / den : ℚ) < 2 * (2 * leastNormal * 2 ^ guess) := by
  have hdenpos : (0 : ℚ) < den := by exact_mod_cast hden
  obtain ⟨numLow, numHigh⟩ := log2_bounds hnum
  obtain ⟨denLow, denHigh⟩ := log2_bounds hden
  have normal : (leastNormal : ℚ) = 2 ^ (52 : ℤ) := by
    norm_num [leastNormal]
  constructor
  · rw [normal, ← zpow_add₀ two_ne_zero, show 52 + guess = num.log2 - (den.log2 + 1 : ℤ) by omega,
      zpow_sub₀ two_ne_zero]
    exact div_le_div₀ (Nat.cast_nonneg _) numLow hdenpos denHigh.le
  · have four : (2 : ℚ) * (2 * leastNormal * 2 ^ guess) =
        2 ^ (num.log2 + 1 : ℤ) / 2 ^ (den.log2 : ℤ) := by
      rw [normal, ← zpow_sub₀ two_ne_zero,
        show (num.log2 + 1 : ℤ) - den.log2 = 52 + guess + 1 + 1 by omega,
        zpow_add_one₀ two_ne_zero, zpow_add_one₀ two_ne_zero, zpow_add₀ two_ne_zero]
      ring
    rw [four]
    exact div_lt_div₀ numHigh denLow (by positivity) (by positivity)

theorem isExponent_exponentOf {num den : ℕ} (hnum : 0 < num) (hden : 0 < den) :
    IsExponent (num / den) (exponentOf num den) := by
  unfold exponentOf
  dsimp only
  set guess : ℤ := (num.log2 : ℤ) - den.log2 - 53 with hguess
  obtain ⟨low, high⟩ := guess_bounds hnum hden hguess
  obtain ⟨a, b, hb, hscaled, hwhole⟩ := scaled_cases (· / ·) num hden guess
  have hbpos : (0 : ℚ) < b := by exact_mod_cast hb
  have power : (0 : ℚ) < 2 ^ guess := by positivity
  have fits : a / b < 2 * leastNormal ↔ (num / den : ℚ) < 2 * leastNormal * 2 ^ guess := by
    rw [← div_lt_iff₀ power, ← hscaled, div_lt_iff₀ hbpos, Nat.div_lt_iff_lt_mul hb]
    exact_mod_cast Iff.rfl
  rw [hwhole]
  by_cases hfits : a / b < 2 * leastNormal
  · rw [if_pos hfits]
    exact .of_max (fits.1 hfits) low
  · rw [if_neg hfits]
    rw [fits, not_lt] at hfits
    refine .of_max ?_ ?_ <;> rw [zpow_add_one₀ two_ne_zero] <;> linarith

/-! ## Rounding -/

theorem nearestEven_scaled (num : ℕ) {den : ℕ} (hden : 0 < den) (q : ℤ) :
    NearestEven (num / den / 2 ^ q)
      (if 0 ≤ q then divRoundEven num (den * Nat.pow 2 q.toNat)
        else divRoundEven (num * Nat.pow 2 (-q).toNat) den : ℕ) := by
  obtain ⟨a, b, hb, hscaled, hround⟩ := scaled_cases divRoundEven num hden q
  rw [hround, ← hscaled]
  exact nearestEven_divRoundEven a hb

theorem eq_of_nearestEven {num den : ℕ} (hden : 0 < den) {q : ℤ} {n : ℕ}
    (h : NearestEven (num / den / 2 ^ q) n) :
    (if 0 ≤ q then divRoundEven num (den * Nat.pow 2 q.toNat)
      else divRoundEven (num * Nat.pow 2 (-q).toNat) den) = n := by
  exact_mod_cast (nearestEven_scaled num hden q).unique h

/-! ## Numbers of the interval of a double -/

section Intervals

variable {m : ℕ} {q : ℤ} {v : ℚ}

theorem Canonical.bits (h : Canonical m q) :
    ofBits (if 971 < q then 0x7FF0000000000000
      else if m < leastNormal then UInt64.ofNat m
      else UInt64.ofNat ((q + 1075).toNat * leastNormal + (m - leastNormal))) =
      .finite false m q := by
  rw [if_neg h.high.not_gt]
  split
  · next hm =>
    obtain rfl : q = leastExponent := by
      by_contra! hne
      exact absurd (h.le (lt_of_le_of_ne h.low hne.symm)) hm.not_ge
    exact ofBits_ofNat_subnormal hm
  · next hm => exact ofBits_ofNat_normal h (not_lt.1 hm)

/-- The interval of a double in steps of `2 ^ q`: its ends count if the mantissa is even. -/
theorem holds_iff (hm : 0 < m) : (Decimal.Interval.of m q).Holds v ↔
    if m % 2 = 0 then m - Decimal.gapBelow m q / 4 ≤ v / 2 ^ q ∧ v / 2 ^ q ≤ m + 1 / 2
    else m - Decimal.gapBelow m q / 4 < v / 2 ^ q ∧ v / 2 ^ q < m + 1 / 2 := by
  obtain ⟨low, -, high⟩ := Decimal.Interval.bounds_of hm q
  have power : (0 : ℚ) < 2 ^ q := by positivity
  have closed : (Decimal.Interval.of m q).closed = decide (m % 2 = 0) := rfl
  rw [Decimal.Interval.Holds, low, high, le_div_iff₀ power, div_le_iff₀ power, lt_div_iff₀ power,
    div_lt_iff₀ power]
  exact iff_of_eq (if_congr (by rw [closed, decide_eq_true_eq]) rfl rfl)

theorem gapBelow_le (m : ℕ) (q : ℤ) : (Decimal.gapBelow m q / 4 : ℚ) ≤ 1 / 2 := by
  unfold Decimal.gapBelow
  split <;> norm_num

theorem nearestEven_of_holds (hm : 0 < m) (h : (Decimal.Interval.of m q).Holds v) :
    NearestEven (v / 2 ^ q) m := by
  have gap := gapBelow_le m q
  rw [holds_iff hm] at h
  split at h
  · next even =>
    refine .of_even ?_ ((Int.even_coe_nat m).2 (Nat.even_iff.2 even))
    rw [Int.cast_natCast]
    exact abs_le.2 ⟨by linarith, by linarith⟩
  · left
    rw [Int.cast_natCast]
    exact abs_lt.2 ⟨by linarith, by linarith⟩

theorem bounds_of_holds (hm : 0 < m) (h : (Decimal.Interval.of m q).Holds v) :
    m - Decimal.gapBelow m q / 4 ≤ v / 2 ^ q ∧ v / 2 ^ q ≤ m + 1 / 2 := by
  rw [holds_iff hm] at h
  split at h
  · exact h
  · exact ⟨h.1.le, h.2.le⟩

theorem isExponent_of_holds (hm : 0 < m) (hc : Canonical m q)
    (h : (Decimal.Interval.of m q).Holds v) (hle : leastExponent < q → leastNormal * 2 ^ q ≤ v) :
    IsExponent v q := by
  have power : (0 : ℚ) < 2 ^ q := by positivity
  refine ⟨hc.low, ?_, hle⟩
  rw [← div_lt_iff₀ power]
  have top : (m : ℚ) + 1 ≤ 2 * leastNormal := by exact_mod_cast hc.lt
  linarith [(bounds_of_holds hm h).2]

/-- A smaller number of the interval than the powers of two at its exponent is rounded at the next
smaller one. -/
theorem below_of_holds (hm : 0 < m) (hc : Canonical m q) (h : (Decimal.Interval.of m q).Holds v)
    (hq : leastExponent < q) (hlt : v < leastNormal * 2 ^ q) :
    m = leastNormal ∧ IsExponent v (q - 1) ∧
      NearestEven (v / 2 ^ (q - 1)) (2 * leastNormal : ℕ) := by
  have power : (0 : ℚ) < 2 ^ q := by positivity
  have half : v / 2 ^ (q - 1) = 2 * (v / 2 ^ q) := by
    rw [zpow_sub_one₀ two_ne_zero]
    field_simp
  have low := (bounds_of_holds hm h).1
  rw [← div_lt_iff₀ power] at hlt
  have hm' : m = leastNormal := by
    have gap := gapBelow_le m q
    have : (m : ℚ) < leastNormal + 1 := by linarith
    have : m < leastNormal + 1 := by exact_mod_cast this
    exact le_antisymm (Nat.le_of_lt_succ this) (hc.le hq)
  have gap : Decimal.gapBelow m q = 1 := if_pos ⟨hm', hq⟩
  rw [gap, hm'] at low
  push_cast at low
  refine ⟨hm', ⟨by omega, ?_, fun _ => ?_⟩, ?_⟩
  · rw [← div_lt_iff₀ (by positivity), half]
    linarith
  · rw [← le_div_iff₀ (by positivity), half]
    have : (1 : ℚ) ≤ leastNormal := by norm_num [leastNormal]
    linarith
  · refine .of_even ?_ (by decide)
    rw [half]
    push_cast
    exact abs_le.2 ⟨by linarith, by linarith⟩

/-- A number of the interval of a double is rounded to this double. -/
theorem ofBits_nearest {num den : ℕ} (hnum : 0 < num) (hden : 0 < den) (hm : 0 < m)
    (hc : Canonical m q) (h : (Decimal.Interval.of m q).Holds (num / den)) :
    ofBits (nearest num den) = .finite false m q := by
  have exponent := isExponent_exponentOf hnum hden
  unfold nearest
  dsimp only
  by_cases hle : leastExponent < q → (leastNormal * 2 ^ q : ℚ) ≤ num / den
  · rw [exponent.unique (isExponent_of_holds hm hc h hle),
      eq_of_nearestEven hden (nearestEven_of_holds hm h), if_neg hc.lt.ne]
    exact hc.bits
  · push Not at hle
    obtain ⟨hq, hlt⟩ := hle
    obtain ⟨rfl, below, nearest⟩ := below_of_holds hm hc h hq hlt
    rw [exponent.unique below, eq_of_nearestEven hden nearest, if_pos rfl, sub_add_cancel]
    exact hc.bits

end Intervals

end Binary64

/-! ## Decimals of the interval of a double -/

namespace Decimal

open Binary64

theorem lead_bounds {d : Decimal} (hd : 0 < d.digits) :
    (10 : ℚ) ^ (d.exponent + digitCount d.digits - 1) ≤ d.value ∧
      d.value < 10 ^ (d.exponent + digitCount d.digits) := by
  have hcount : 0 < digitCount d.digits := Nat.length_toDigits_pos
  have power : (0 : ℚ) < 10 ^ d.exponent := by positivity
  have low : (10 : ℚ) ^ (digitCount d.digits - 1) ≤ d.digits := by
    exact_mod_cast pow_digitCount_le hd
  have high : (d.digits : ℚ) < 10 ^ digitCount d.digits := by
    exact_mod_cast lt_pow_digitCount d.digits
  constructor
  · rw [show d.exponent + digitCount d.digits - 1 =
      ((digitCount d.digits - 1 : ℕ) : ℤ) + d.exponent by omega, zpow_add₀ (by norm_num),
      zpow_natCast]
    exact mul_le_mul_of_nonneg_right low power.le
  · rw [add_comm, zpow_add₀ (by norm_num), zpow_natCast]
    exact mul_lt_mul_of_pos_right high power

theorem two_pow_le_ten_pow (k : ℕ) : (2 : ℚ) ^ (3 * k : ℤ) ≤ 10 ^ (k : ℤ) := by
  rw [zpow_mul, zpow_natCast, zpow_natCast]
  exact pow_le_pow_left₀ (by norm_num) (by norm_num) k

/-- The doubles lie within the reach of a reader of decimals. -/
theorem within_reach {m : ℕ} {q : ℤ} {v : ℚ} (hm : 0 < m) (hc : Canonical m q)
    (h : (Interval.of m q).Holds v) : (10 : ℚ) ^ (-400 : ℤ) ≤ v ∧ v < 10 ^ (400 : ℤ) := by
  have power : (0 : ℚ) < 2 ^ q := by positivity
  have ten : (2 : ℚ) ^ (1200 : ℤ) ≤ 10 ^ (400 : ℤ) := two_pow_le_ten_pow 400
  have gap := gapBelow_le m q
  obtain ⟨low, high⟩ := bounds_of_holds hm h
  have one : (1 : ℚ) ≤ m := by exact_mod_cast hm
  have top : (m : ℚ) + 1 ≤ 2 * leastNormal := by exact_mod_cast hc.lt
  constructor
  · calc (10 : ℚ) ^ (-400 : ℤ) ≤ 2 ^ (-1200 : ℤ) := by
          rw [zpow_neg, zpow_neg]
          exact inv_anti₀ (by positivity) ten
      _ ≤ 2 ^ (q - 1) := by
          have := hc.low
          rw [leastExponent] at this
          exact zpow_le_zpow_right₀ one_le_two (by omega)
      _ = 1 / 2 * 2 ^ q := by
          rw [zpow_sub_one₀ two_ne_zero]
          ring
      _ ≤ v := by
          rw [← le_div_iff₀ power]
          linarith
  · calc v < 2 * leastNormal * 2 ^ q := by
          rw [← div_lt_iff₀ power]
          linarith
      _ = 2 ^ (53 + q) := by
          rw [zpow_add₀ two_ne_zero]
          norm_num [leastNormal]
      _ ≤ 2 ^ (1200 : ℤ) := by
          have := hc.high
          exact zpow_le_zpow_right₀ one_le_two (by omega)
      _ ≤ 10 ^ (400 : ℤ) := ten

theorem digits_pos_of_holds {d : Decimal} {m : ℕ} {q : ℤ} (hm : 0 < m) (hc : Canonical m q)
    (h : (Interval.of m q).Holds d.value) : 0 < d.digits := by
  by_contra! hzero
  have zero : d.value = 0 := by
    rw [Decimal.value, Nat.le_zero.1 hzero, Nat.cast_zero, zero_mul]
  have positive : (0 : ℚ) < 10 ^ (-400 : ℤ) := by positivity
  linarith [(within_reach hm hc h).1]

/-- A decimal of the interval of a double is read as this double. -/
theorem ofBits_magnitudeBits {d : Decimal} {m : ℕ} {q : ℤ} (hm : 0 < m) (hc : Canonical m q)
    (h : (Interval.of m q).Holds d.value) :
    ofBits (Numeral.magnitudeBits d.digits d.exponent) = .finite false m q := by
  obtain ⟨low, high⟩ := within_reach hm hc h
  have hd := digits_pos_of_holds hm hc h
  obtain ⟨leadLow, leadHigh⟩ := lead_bounds hd
  have notLow : ¬ d.exponent + digitCount d.digits < -Numeral.reach := by
    intro hlt
    rw [Numeral.reach] at hlt
    have : (10 : ℚ) ^ (d.exponent + digitCount d.digits) ≤ 10 ^ (-400 : ℤ) :=
      zpow_le_zpow_right₀ (by norm_num) (by omega)
    linarith
  have notHigh : ¬ Numeral.reach < d.exponent + digitCount d.digits := by
    intro hlt
    rw [Numeral.reach] at hlt
    have : (10 : ℚ) ^ (400 : ℤ) ≤ 10 ^ (d.exponent + digitCount d.digits - 1) :=
      zpow_le_zpow_right₀ (by norm_num) (by omega)
    linarith
  have scaled : (scaledNum d.digits d.exponent : ℚ) / scaledDen 1 d.exponent = d.value := by
    rw [scaled_eq _ Nat.one_pos, Nat.cast_one, div_one, Decimal.value]
  have positive : 0 < scaledNum d.digits d.exponent := by
    unfold scaledNum
    split
    · exact Nat.mul_pos hd (Nat.pow_pos (by decide))
    · exact hd
  unfold Numeral.magnitudeBits
  dsimp only
  rw [if_neg (not_or.2 ⟨hd.ne', notLow⟩), if_neg notHigh]
  exact ofBits_nearest positive (scaledDen_pos Nat.one_pos _) hm hc (scaled ▸ h)

end Decimal

end RobotTelemetry
