import Mathlib.Algebra.Order.Field.Basic
import Mathlib.Algebra.Order.Field.Rat
import Mathlib.Algebra.Ring.Int.Parity
import Mathlib.Tactic.FieldSimp
import Mathlib.Tactic.Linarith
import Mathlib.Tactic.Ring
import RobotTelemetry.Proofs.Doubles
/-!
# Laws of rounding

The integer nearest to a number, a half going to the even one (`NearestEven`), is unique, grows with
the number and changes sign with it (`NearestEven.unique`, `NearestEven.mono`, `NearestEven.neg`). A
quotient of naturals is rounded to it (`nearestEven_divRoundEven`), and so is a double
(`Binary64.nearestEven_roundNat`).
-/

namespace RobotTelemetry

/-! ## Nearest integers -/

/-- No integer is nearer to the number, and if two are equally near this one is even. -/
def NearestEven (v : ℚ) (n : ℤ) : Prop :=
  |v - n| < 1 / 2 ∨ |v - n| = 1 / 2 ∧ Even n

namespace NearestEven

variable {v v' : ℚ} {n n' : ℤ}

theorem neg (h : NearestEven v n) : NearestEven (-v) (-n) := by
  have distance : |-v - ((-n : ℤ) : ℚ)| = |v - n| := by
    rw [Int.cast_neg, ← neg_sub', abs_neg]
  rw [NearestEven, distance, even_neg]
  exact h

theorem of_intCast (n : ℤ) : NearestEven n n := by
  left
  norm_num

/-- An even integer may be half a step away. -/
theorem of_even (h : |v - n| ≤ 1 / 2) (even : Even n) : NearestEven v n :=
  h.lt_or_eq.imp_right fun half => ⟨half, even⟩

theorem abs_sub_le (h : NearestEven v n) : |v - n| ≤ 1 / 2 := by
  rcases h with h | h
  · exact h.le
  · exact h.1.le

/-- Only at a half between them could a greater number have a smaller nearest integer, and there
both would be even. -/
theorem mono (h : NearestEven v n) (h' : NearestEven v' n') (hle : v ≤ v') : n ≤ n' := by
  by_contra! hlt
  have hstep : n' + 1 ≤ n := hlt
  have gap : (n' : ℚ) + 1 ≤ n := by exact_mod_cast hstep
  have low := abs_le.1 h.abs_sub_le
  have high := abs_le.1 h'.abs_sub_le
  have hn : (n : ℚ) = n' + 1 := by linarith
  have half : |v - n| = 1 / 2 := by
    rw [abs_of_nonpos (by linarith)]
    linarith
  have half' : |v' - n'| = 1 / 2 := by
    rw [abs_of_nonneg (by linarith)]
    linarith
  have even := (h.resolve_left half.not_lt).2
  have even' := (h'.resolve_left half'.not_lt).2
  have : n = n' + 1 := by exact_mod_cast hn
  rw [this, Int.even_add_one] at even
  exact even even'

theorem unique (h : NearestEven v n) (h' : NearestEven v n') : n = n' :=
  le_antisymm (h.mono h' le_rfl) (h'.mono h le_rfl)

end NearestEven

/-! ## Quotients -/

section Quotients

variable (num : ℕ) {den : ℕ}

theorem div_sub_floor (hden : 0 < den) :
    (num / den : ℚ) - (num / den : ℕ) = (num % den : ℕ) / den := by
  have hpos : (0 : ℚ) < den := by exact_mod_cast hden
  have parts : (num : ℚ) = den * (num / den : ℕ) + (num % den : ℕ) := by
    exact_mod_cast (Nat.div_add_mod num den).symm
  rw [parts]
  field_simp
  ring

theorem mod_div_mem (hden : 0 < den) :
    (0 : ℚ) ≤ (num % den : ℕ) / den ∧ ((num % den : ℕ) / den : ℚ) < 1 := by
  have hpos : (0 : ℚ) < den := by exact_mod_cast hden
  refine ⟨by positivity, ?_⟩
  rw [div_lt_one hpos]
  exact_mod_cast Nat.mod_lt num hden

theorem mod_div_lt_half_iff (hden : 0 < den) :
    ((num % den : ℕ) / den : ℚ) < 1 / 2 ↔ 2 * (num % den) < den := by
  have hpos : (0 : ℚ) < den := by exact_mod_cast hden
  rw [div_lt_div_iff₀ hpos two_pos, mul_comm, one_mul]
  exact_mod_cast Iff.rfl

theorem half_lt_mod_div_iff (hden : 0 < den) :
    (1 / 2 : ℚ) < (num % den : ℕ) / den ↔ den < 2 * (num % den) := by
  have hpos : (0 : ℚ) < den := by exact_mod_cast hden
  rw [div_lt_div_iff₀ two_pos hpos, mul_comm _ (2 : ℚ), one_mul]
  exact_mod_cast Iff.rfl

theorem nearestEven_divRoundEven (hden : 0 < den) :
    NearestEven (num / den) (divRoundEven num den) := by
  obtain ⟨nonneg, lt_one⟩ := mod_div_mem num hden
  have floor : |(num / den : ℚ) - ((num / den : ℕ) : ℤ)| = (num % den : ℕ) / den := by
    rw [Int.cast_natCast, div_sub_floor num hden, abs_of_nonneg nonneg]
  have ceil : |(num / den : ℚ) - ((num / den + 1 : ℕ) : ℤ)| = 1 - (num % den : ℕ) / den := by
    rw [Int.cast_natCast, Nat.cast_succ, ← sub_sub, div_sub_floor num hden, abs_sub_comm,
      abs_of_pos (sub_pos.2 lt_one)]
  unfold divRoundEven
  dsimp only
  split
  · next low =>
    left
    rw [floor]
    exact (mod_div_lt_half_iff num hden).2 low
  · next low =>
    rw [← mod_div_lt_half_iff num hden, not_lt] at low
    split
    · next high =>
      rw [← half_lt_mod_div_iff num hden] at high
      left
      rw [ceil]
      linarith
    · next high =>
      rw [← half_lt_mod_div_iff num hden, not_lt] at high
      split
      · next even =>
        exact .of_even (floor.trans_le high) ((Int.even_coe_nat _).2 (Nat.even_iff.2 even))
      · next odd =>
        refine .of_even (by rw [ceil]; linarith) ((Int.even_coe_nat _).2 (Nat.even_iff.2 ?_))
        omega

example : divRoundEven 5 2 = 2 ∧ divRoundEven 7 2 = 4 := by decide

end Quotients

namespace Binary64

/-- The number that a finite double stands for. -/
def value? : Binary64 → Option ℚ
  | .notANumber | .infinite _ => none
  | .finite negative m q => some (if negative then -(m * 2 ^ q) else m * 2 ^ q)

theorem nearestEven_roundNat (m : ℕ) (q : ℤ) : NearestEven (m * 2 ^ q) (roundNat m q) := by
  unfold roundNat
  split
  · next hq =>
    have whole : (m : ℚ) * 2 ^ q = ((m * Nat.pow 2 q.toNat : ℕ) : ℤ) := by
      obtain ⟨k, rfl⟩ := Int.eq_ofNat_of_zero_le hq
      simp
    rw [whole]
    exact .of_intCast _
  · next hq =>
    have quotient : (m : ℚ) * 2 ^ q = m / (Nat.pow 2 (-q).toNat : ℕ) := by
      obtain ⟨k, hk⟩ := Int.eq_ofNat_of_zero_le (show 0 ≤ -q by omega)
      obtain rfl : q = -k := by omega
      simp [div_eq_mul_inv]
    rw [quotient]
    exact nearestEven_divRoundEven m (Nat.pow_pos (by decide))

theorem value?_neg (x : Binary64) : x.neg.value? = x.value?.map (- ·) := by
  rcases x with _ | _ | ⟨_ | _, m, q⟩ <;> simp [neg, value?]

end Binary64

end RobotTelemetry
