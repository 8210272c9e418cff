import Mathlib.Algebra.Order.Field.Power
import Mathlib.Algebra.Order.Field.Rat
import Mathlib.Data.Nat.Cast.Order.Field
import Mathlib.Tactic.FieldSimp
import Mathlib.Tactic.Linarith
import Mathlib.Tactic.Positivity
import Mathlib.Tactic.Ring
import RobotTelemetry.Decimal.Shortest
/-!
# Laws of shortest decimals

The numbers that a positive double is nearest to form an interval around it
(`Decimal.Interval.Holds`). A decimal is only taken if it lies in the interval
(`Decimal.Interval.holds_of_onGrid`), and the grid of seventeen digits is finer than the interval is
wide, so that one is found: the shortest decimal of a double lies in its interval
(`Decimal.holds_shortest`).
-/

namespace RobotTelemetry.Decimal

/-- The value of a decimal. -/
def value (d : Decimal) : ℚ :=
  d.digits * 10 ^ d.exponent

/-! ## Scaled comparison -/

theorem scaledDen_pos {den : ℕ} (hden : 0 < den) (e : ℤ) : 0 < scaledDen den e := by
  unfold scaledDen
  split
  · exact hden
  · exact Nat.mul_pos hden (Nat.pow_pos (by decide))

theorem scaled_eq (num : ℕ) {den : ℕ} (hden : 0 < den) (e : ℤ) :
    (scaledNum num e : ℚ) / scaledDen den e = num / den * 10 ^ e := by
  have hpos : (den : ℚ) ≠ 0 := by exact_mod_cast hden.ne'
  unfold scaledNum scaledDen
  by_cases he : 0 ≤ e
  · obtain ⟨k, rfl⟩ := Int.eq_ofNat_of_zero_le he
    simp only [he, if_true, Int.toNat_natCast, Nat.pow_eq, Nat.cast_mul, Nat.cast_pow,
      Nat.cast_ofNat, zpow_natCast]
    ring
  · obtain ⟨k, rfl⟩ : ∃ k : ℕ, e = -k := ⟨(-e).toNat, by omega⟩
    simp only [he, if_false, neg_neg, Int.toNat_natCast, Nat.pow_eq, Nat.cast_mul, Nat.cast_pow,
      Nat.cast_ofNat, zpow_neg, zpow_natCast]
    field_simp

theorem pow_digitCount_le {n : ℕ} (hn : 0 < n) : 10 ^ (digitCount n - 1) ≤ n := by
  by_contra! hlt
  have hpos : 0 < digitCount n := Nat.length_toDigits_pos
  have more : 0 < digitCount n - 1 := by
    by_contra! hle
    rw [Nat.le_zero.1 hle] at hlt
    omega
  have fewer : digitCount n ≤ digitCount n - 1 :=
    (Nat.length_toDigits_le_iff (by decide) more).2 hlt
  omega

theorem lt_pow_digitCount (n : ℕ) : n < 10 ^ digitCount n :=
  (Nat.length_toDigits_le_iff (by decide) Nat.length_toDigits_pos).1 le_rfl

theorem pow_leadingExponent_le {num den : ℕ} (hnum : 0 < num) (hden : 0 < den) :
    (10 : ℚ) ^ leadingExponent num den ≤ num / den := by
  have hdenpos : (0 : ℚ) < den := by exact_mod_cast hden
  unfold leadingExponent
  dsimp only
  split
  · next hle =>
    have hscaled : (0 : ℚ) < scaledDen den (-((digitCount num : ℤ) - digitCount den)) := by
      exact_mod_cast scaledDen_pos hden _
    have one_le : (1 : ℚ) ≤ num / den * 10 ^ (-((digitCount num : ℤ) - digitCount den)) := by
      rw [← scaled_eq num hden, one_le_div hscaled]
      exact_mod_cast hle
    rwa [zpow_neg, ← div_eq_mul_inv, one_le_div (by positivity)] at one_le
  · have hcount : 0 < digitCount num := Nat.length_toDigits_pos
    have high : (den : ℚ) ≤ 10 ^ digitCount den := by exact_mod_cast (lt_pow_digitCount den).le
    have low : (10 : ℚ) ^ (digitCount num - 1) ≤ num := by exact_mod_cast pow_digitCount_le hnum
    have split : (digitCount num : ℤ) - digitCount den - 1 =
        (digitCount num - 1 : ℕ) - (digitCount den : ℕ) := by omega
    rw [split, zpow_sub₀ (by norm_num), zpow_natCast, zpow_natCast]
    exact div_le_div₀ (Nat.cast_nonneg _) low hdenpos high

/-! ## Intervals -/

namespace Interval

/-- Whether a number lies in an interval. -/
def Holds (i : Interval) (v : ℚ) : Prop :=
  if i.closed then (i.low / i.den : ℚ) ≤ v ∧ v ≤ i.high / i.den
  else (i.low / i.den : ℚ) < v ∧ v < i.high / i.den

variable {i : Interval}

theorem contains_iff (hden : 0 < i.den) (n : ℕ) (e : ℤ) :
    i.contains n e = true ↔ i.Holds (n * 10 ^ e) := by
  have hpos : (0 : ℚ) < i.den := by exact_mod_cast hden
  have hscaled : (0 : ℚ) < scaledDen 1 e := by exact_mod_cast scaledDen_pos Nat.one_pos e
  have value : (n * 10 ^ e : ℚ) = scaledNum n e / scaledDen 1 e := by
    rw [scaled_eq n Nat.one_pos, Nat.cast_one, div_one]
  unfold contains Holds
  dsimp only
  rw [value]
  split
  · rw [decide_eq_true_eq, div_le_div_iff₀ hpos hscaled, div_le_div_iff₀ hscaled hpos]
    exact_mod_cast Iff.rfl
  · rw [decide_eq_true_eq, div_lt_div_iff₀ hpos hscaled, div_lt_div_iff₀ hscaled hpos]
    exact_mod_cast Iff.rfl

/-- A decimal is only taken if it lies in the interval. -/
theorem holds_of_onGrid (hden : 0 < i.den) {e : ℤ} {d : Decimal} (h : i.onGrid e = some d) :
    i.Holds d.value := by
  have taken (n : ℕ) (hn : i.contains n e = true) : i.Holds (Decimal.value ⟨n, e⟩) :=
    (contains_iff hden n e).1 hn
  unfold onGrid at h
  dsimp only at h
  split at h
  · next hboth =>
    obtain ⟨hbelow, habove⟩ := Prod.mk.inj hboth
    split at h
    · cases h
      exact taken _ hbelow
    · cases h
      exact taken _ habove
  · next hbelow =>
    cases h
    exact taken _ (Prod.mk.inj hbelow).1
  · next habove =>
    cases h
    exact taken _ (Prod.mk.inj habove).2
  · cases h

theorem holds_of_lt {v : ℚ} (hlow : (i.low / i.den : ℚ) < v) (hhigh : v < i.high / i.den) :
    i.Holds v := by
  unfold Holds
  split
  · exact ⟨hlow.le, hhigh.le⟩
  · exact ⟨hlow, hhigh⟩

/-- A number lies between two neighbours on the grid. -/
theorem grid_bounds (num : ℕ) {den : ℕ} (hden : 0 < den) (e : ℤ) :
    ((scaledNum num (-e) / scaledDen den (-e) : ℕ) * 10 ^ e : ℚ) ≤ num / den ∧
      (num / den : ℚ) < ((scaledNum num (-e) / scaledDen den (-e) : ℕ) + 1) * 10 ^ e := by
  have hscaled := scaledDen_pos hden (-e)
  have hscaledpos : (0 : ℚ) < scaledDen den (-e) := by exact_mod_cast hscaled
  have step : (0 : ℚ) < 10 ^ e := by positivity
  have value : (scaledNum num (-e) : ℚ) / scaledDen den (-e) * 10 ^ e = num / den := by
    rw [scaled_eq _ hden, mul_assoc, ← zpow_add₀ (by norm_num), neg_add_cancel, zpow_zero, mul_one]
  rw [← value]
  constructor
  · exact mul_le_mul_of_nonneg_right Nat.cast_div_le step.le
  · refine mul_lt_mul_of_pos_right ?_ step
    rw [div_lt_iff₀ hscaledpos, mul_comm]
    exact_mod_cast Nat.lt_mul_div_succ _ hscaled

theorem contains_of_onGrid_eq_none {e : ℤ} (h : i.onGrid e = none) :
    i.contains (scaledNum i.value (-e) / scaledDen i.den (-e)) e = false ∧
      i.contains (scaledNum i.value (-e) / scaledDen i.den (-e) + 1) e = false := by
  unfold onGrid at h
  dsimp only at h
  split at h
  · split at h <;> cases h
  · cases h
  · cases h
  · next hneither => exact Prod.mk.inj hneither

/-- On a grid finer than the interval is wide, one of the two neighbours lies in it. -/
theorem onGrid_ne_none (hden : 0 < i.den) (hlow : i.low < i.value) (hhigh : i.value < i.high)
    {e : ℤ} (he : (10 : ℚ) ^ e < i.high / i.den - i.low / i.den) : i.onGrid e ≠ none := by
  have hpos : (0 : ℚ) < i.den := by exact_mod_cast hden
  have low : (i.low / i.den : ℚ) < i.value / i.den :=
    div_lt_div_of_pos_right (by exact_mod_cast hlow) hpos
  have high : (i.value / i.den : ℚ) < i.high / i.den :=
    div_lt_div_of_pos_right (by exact_mod_cast hhigh) hpos
  obtain ⟨floor, ceil⟩ := grid_bounds i.value hden e
  intro hnone
  obtain ⟨outBelow, outAbove⟩ := contains_of_onGrid_eq_none hnone
  set below := scaledNum i.value (-e) / scaledDen i.den (-e)
  by_cases hin : (i.low / i.den : ℚ) < below * 10 ^ e
  · have taken := (contains_iff hden below e).2 (holds_of_lt hin (floor.trans_lt high))
    rw [taken] at outBelow
    cases outBelow
  · have near : ((below + 1 : ℕ) * 10 ^ e : ℚ) < i.high / i.den := by
      push_cast
      linarith
    have far : (i.low / i.den : ℚ) < (below + 1 : ℕ) * 10 ^ e := by
      push_cast
      exact low.trans ceil
    have taken := (contains_iff hden (below + 1) e).2 (holds_of_lt far near)
    rw [taken] at outAbove
    cases outAbove

end Interval

/-! ## Shortest decimals -/

theorem value_strip (limit : ℕ) (d : Decimal) : (strip limit d).value = d.value := by
  induction limit generalizing d with
  | zero => rfl
  | succ limit ih =>
    unfold strip
    split
    · next h =>
      have tens : (d.digits : ℚ) = (d.digits / 10 : ℕ) * 10 := by
        exact_mod_cast (Nat.div_mul_cancel (Nat.dvd_of_mod_eq_zero h.2)).symm
      rw [ih, value, value, tens, zpow_add_one₀ (by norm_num)]
      ring
    · rfl

theorem holds_shortestFrom {i : Interval} (hden : 0 < i.den) {lead : ℤ} {tries count : ℕ}
    (h : i.onGrid (lead + 1 - (count + tries : ℕ)) ≠ none) :
    i.Holds (shortestFrom i lead (tries + 1) count).value := by
  induction tries generalizing count with
  | zero =>
    rw [shortestFrom]
    split
    · next d hd => exact Interval.holds_of_onGrid hden hd
    · next hnone => exact absurd hnone h
  | succ tries ih =>
    rw [shortestFrom]
    split
    · next d hd => exact Interval.holds_of_onGrid hden hd
    · exact ih (by rwa [show count + 1 + tries = count + (tries + 1) by omega])

section Doubles

variable {m : ℕ} {q : ℤ}

/-- The distance to the next smaller double, in quarters of the distance to the next greater one. -/
def gapBelow (m : ℕ) (q : ℤ) : ℕ :=
  if m = Binary64.leastNormal ∧ Binary64.leastExponent < q then 1 else 2

theorem Interval.den_of_pos (m : ℕ) (q : ℤ) : 0 < (Interval.of m q).den := by
  unfold Interval.of
  dsimp only
  split
  · exact Nat.one_pos
  · exact Nat.pow_pos (by decide)

/-- The parts of an interval over one denominator are multiples of a quarter of `2 ^ q`. -/
theorem Interval.quarters_of (m : ℕ) (q : ℤ) : ∃ scale : ℕ, 0 < scale ∧
    (scale / (Interval.of m q).den : ℚ) = 2 ^ q / 4 ∧
    (Interval.of m q).low = (4 * m - gapBelow m q) * scale ∧
    (Interval.of m q).value = 4 * m * scale ∧
    (Interval.of m q).high = (4 * m + 2) * scale := by
  refine ⟨if 2 ≤ q then Nat.pow 2 (q - 2).toNat else 1, ?_, ?_, rfl, rfl, rfl⟩
  · split
    · exact Nat.pow_pos (by decide)
    · exact Nat.one_pos
  · show ((if 2 ≤ q then Nat.pow 2 (q - 2).toNat else 1 : ℕ) : ℚ) /
      (if 2 ≤ q then 1 else Nat.pow 2 (2 - q).toNat : ℕ) = _
    split
    · next h =>
      obtain ⟨k, rfl⟩ : ∃ k : ℕ, q = k + 2 := ⟨(q - 2).toNat, by omega⟩
      rw [add_sub_cancel_right, Int.toNat_natCast, Nat.pow_eq, zpow_add₀ (by norm_num),
        zpow_natCast]
      push_cast
      norm_num
    · next h =>
      obtain ⟨k, rfl⟩ : ∃ k : ℕ, q = 2 - k := ⟨(2 - q).toNat, by omega⟩
      rw [sub_sub_cancel, Int.toNat_natCast, Nat.pow_eq, zpow_sub₀ (by norm_num), zpow_natCast]
      push_cast
      norm_num
      field_simp

theorem Interval.bounds_of (hm : 0 < m) (q : ℤ) :
    ((Interval.of m q).low / (Interval.of m q).den : ℚ) = (m - gapBelow m q / 4) * 2 ^ q ∧
    ((Interval.of m q).value / (Interval.of m q).den : ℚ) = m * 2 ^ q ∧
    ((Interval.of m q).high / (Interval.of m q).den : ℚ) = (m + 1 / 2) * 2 ^ q := by
  obtain ⟨scale, -, hscale, hlow, hvalue, hhigh⟩ := quarters_of m q
  have hgap : gapBelow m q ≤ 4 * m := by
    unfold gapBelow
    split <;> omega
  have part (n : ℕ) : ((n * scale : ℕ) / (Interval.of m q).den : ℚ) = n / 4 * 2 ^ q := by
    rw [Nat.cast_mul, mul_div_assoc, hscale]
    ring
  rw [hlow, hvalue, hhigh, part, part, part, Nat.cast_sub hgap]
  push_cast
  refine ⟨?_, ?_, ?_⟩ <;> ring

/-- Seventeen digits tell a double from its neighbours. -/
theorem div_lt_width (hm' : m < 2 * Binary64.leastNormal) (q : ℤ) :
    (m : ℚ) / 10 ^ 16 < 1 / 2 + gapBelow m q / 4 := by
  unfold gapBelow
  split
  · next h =>
    rw [h.1, Binary64.leastNormal]
    norm_num
  · have : (m : ℚ) < 2 * 0x10000000000000 := by exact_mod_cast hm'
    norm_num
    linarith

/-- The shortest decimal of a positive double lies in its interval. -/
theorem holds_shortest (hm : 0 < m) (hm' : m < 2 * Binary64.leastNormal) (q : ℤ) :
    (Interval.of m q).Holds (shortest m q).value := by
  obtain ⟨scale, hpos, -, hlow, hvalue, hhigh⟩ := Interval.quarters_of m q
  obtain ⟨low, value, high⟩ := Interval.bounds_of hm q
  have hden := Interval.den_of_pos m q
  have power : (0 : ℚ) < 2 ^ q := by positivity
  have positive : 0 < (Interval.of m q).value := by
    rw [hvalue]
    positivity
  have lead := pow_leadingExponent_le positive hden
  rw [value] at lead
  rw [shortest, value_strip]
  refine holds_shortestFrom hden (Interval.onGrid_ne_none hden ?_ ?_ ?_)
  · rw [hlow, hvalue]
    refine Nat.mul_lt_mul_of_pos_right ?_ hpos
    unfold gapBelow
    split <;> omega
  · rw [hvalue, hhigh]
    exact Nat.mul_lt_mul_of_pos_right (by omega) hpos
  · rw [low, high, show leadingExponent (Interval.of m q).value (Interval.of m q).den + 1 -
      ((1 + 16 : ℕ) : ℤ) = leadingExponent (Interval.of m q).value (Interval.of m q).den - 16 by
        push_cast; ring, zpow_sub₀ (by norm_num)]
    calc (10 : ℚ) ^ leadingExponent (Interval.of m q).value (Interval.of m q).den / 10 ^ (16 : ℤ)
        ≤ m * 2 ^ q / 10 ^ (16 : ℤ) := div_le_div_of_nonneg_right lead (by positivity)
      _ = m / 10 ^ 16 * 2 ^ q := by
        norm_cast
        ring
      _ < (1 / 2 + gapBelow m q / 4) * 2 ^ q := mul_lt_mul_of_pos_right (div_lt_width hm' q) power
      _ = (m + 1 / 2) * 2 ^ q - (m - gapBelow m q / 4) * 2 ^ q := by ring

end Doubles

end RobotTelemetry.Decimal
