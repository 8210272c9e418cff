import RobotTelemetry.Proofs.Numerals
import RobotTelemetry.Proofs.ShortestDecimals
/-!
# Laws of written numbers

An integer is spelt by its sign and its digits (`Spelling.ofInt`). A positive decimal is spelt in
one of four ways, by where its point falls among its digits; in each of them the spelling has a
point or an exponent and the value of the decimal (`Spelling.exists_write`).
-/

namespace RobotTelemetry

/-! ## Digits -/

theorem digitsValue_toDigits (n : Nat) : Decimal.digitsValue (Nat.toDigits 10 n) = n :=
  Nat.ofDigitChars_ten_toDigits

theorem digitsValue_append (cs ds : List Char) : Decimal.digitsValue (cs ++ ds) =
    10 ^ ds.length * Decimal.digitsValue cs + Decimal.digitsValue ds := by
  show Nat.ofDigitChars 10 (cs ++ ds) 0 = _
  rw [Nat.ofDigitChars_append, Nat.ofDigitChars_eq_ofDigitChars_zero]
  rfl

theorem digitsValue_replicate (k : Nat) : Decimal.digitsValue (List.replicate k '0') = 0 :=
  Nat.ofDigitChars_replicate_zero

theorem isDigit_toDigits {n : Nat} {c : Char} (hc : c ∈ Nat.toDigits 10 n) : c.isDigit :=
  Nat.isDigit_of_mem_toDigits (by decide) (by decide) hc

theorem head?_toDigits {n : Nat} (hn : 0 < n) : (Nat.toDigits 10 n).head? ≠ some '0' := by
  induction n using Nat.strongRecOn with
  | ind n ih =>
    by_cases hlt : n < 10
    · have small : ∀ d < 10, 0 < d → [Nat.digitChar d].head? ≠ some '0' := by decide
      rw [Nat.toDigits_of_lt_base hlt]
      exact small n hlt hn
    · rw [Nat.toDigits_of_base_le (by decide) (by omega),
        List.head?_append_of_ne_nil _ Nat.toDigits_ne_nil]
      exact ih _ (by omega) (by omega)

namespace Spelling

/-! ## Integers -/

/-- The spelling of an integer. -/
def ofInt (n : Int) : Spelling where
  negative := decide (n < 0)
  whole := Nat.toDigits 10 n.natAbs
  fraction := []
  exponent := none
  whole_digits _ := isDigit_toDigits
  whole_ne_nil := Nat.toDigits_ne_nil
  whole_zero h := by
    rcases Nat.eq_zero_or_pos n.natAbs with hzero | hpos
    · rw [hzero, Nat.toDigits_zero]
    · exact absurd h (head?_toDigits hpos)
  fraction_digits _ h := nomatch h
  exponent_digits _ h := nomatch h

theorem chars_ofInt (n : Int) : String.ofList (ofInt n).chars = toString n := by
  have digits : (ofInt n).unsignedChars = Nat.toDigits 10 n.natAbs := List.append_nil _
  rw [chars, digits, Int.toString_eq_repr, Int.repr_eq_if]
  by_cases hn : n < 0
  · have negative : (ofInt n).negative = true := decide_eq_true hn
    rw [negative, if_pos rfl, if_neg (by omega), Nat.repr_eq_ofList_toDigits, String.ofList_append,
      show (-n).toNat = n.natAbs by omega]
  · have negative : (ofInt n).negative = false := decide_eq_false hn
    rw [negative, if_neg (by decide), if_pos (by omega), Nat.repr_eq_ofList_toDigits,
      show n.toNat = n.natAbs by omega, List.nil_append]

/-! ## Decimals -/

/-- The decimal that is spelt, without its sign. -/
def decimal (p : Spelling) : Decimal :=
  ⟨Decimal.digitsValue (p.whole ++ p.fraction), p.exponentValue - p.fraction.length⟩

section Layouts

variable (negative : Bool) (n k : Nat) (hn : 0 < n)

/-- The digits of a number, some zeros and a point with one more zero. -/
def extended : Spelling where
  negative := negative
  whole := Nat.toDigits 10 n ++ List.replicate k '0'
  fraction := ['0']
  exponent := none
  whole_digits c hc := by
    rcases List.mem_append.1 hc with hc | hc
    · exact isDigit_toDigits hc
    · rw [List.eq_of_mem_replicate hc]
      rfl
  whole_ne_nil h := Nat.toDigits_ne_nil (List.append_eq_nil_iff.1 h).1
  whole_zero h := by
    rw [List.head?_append_of_ne_nil _ Nat.toDigits_ne_nil] at h
    exact absurd h (head?_toDigits hn)
  fraction_digits := List.forall_mem_singleton.2 rfl
  exponent_digits _ h := nomatch h

theorem unsignedChars_extended : (extended negative n k hn).unsignedChars =
    Nat.toDigits 10 n ++ List.replicate k '0' ++ ['.', '0'] := rfl

theorem value_extended : (extended negative n k hn).decimal.value = n * 10 ^ k := by
  have digits : Decimal.digitsValue (Nat.toDigits 10 n ++ List.replicate k '0' ++ ['0']) =
      10 * (10 ^ k * n) := by
    rw [digitsValue_append, digitsValue_append, digitsValue_toDigits, digitsValue_replicate,
      List.length_replicate]
    rfl
  show ((Decimal.digitsValue (Nat.toDigits 10 n ++ List.replicate k '0' ++ ['0']) : ℕ) : ℚ) *
    10 ^ (0 - 1 : ℤ) = _
  rw [digits]
  push_cast
  norm_num
  ring

/-- A zero before the point, then some zeros and the digits of a number. -/
def leadingZeros : Spelling where
  negative := negative
  whole := ['0']
  fraction := List.replicate k '0' ++ Nat.toDigits 10 n
  exponent := none
  whole_digits := List.forall_mem_singleton.2 rfl
  whole_ne_nil := by decide
  whole_zero _ := rfl
  fraction_digits c hc := by
    rcases List.mem_append.1 hc with hc | hc
    · rw [List.eq_of_mem_replicate hc]
      rfl
    · exact isDigit_toDigits hc
  exponent_digits _ h := nomatch h

theorem ofList_unsignedChars_leadingZeros :
    String.ofList (leadingZeros negative n k).unsignedChars =
      "0." ++ String.ofList (List.replicate k '0' ++ Nat.toDigits 10 n) := by
  have hne : (leadingZeros negative n k).fraction ≠ [] := fun h =>
    Nat.toDigits_ne_nil (List.append_eq_nil_iff.1 h).2
  have chars : (leadingZeros negative n k).unsignedChars =
      ['0', '.'] ++ (List.replicate k '0' ++ Nat.toDigits 10 n) := by
    rw [unsignedChars, fractionChars, if_neg hne]
    exact congrArg (['0'] ++ ·) (List.append_nil _)
  rw [chars, String.ofList_append]

theorem decimal_leadingZeros : (leadingZeros negative n k).decimal =
    ⟨n, -((k : ℤ) + (Nat.toDigits 10 n).length)⟩ := by
  have digits : Decimal.digitsValue (['0'] ++ (List.replicate k '0' ++ Nat.toDigits 10 n)) = n := by
    rw [digitsValue_append, digitsValue_append, digitsValue_toDigits, digitsValue_replicate,
      show Decimal.digitsValue ['0'] = 0 from rfl]
    omega
  have places : (0 : ℤ) - (List.replicate k '0' ++ Nat.toDigits 10 n).length =
      -((k : ℤ) + (Nat.toDigits 10 n).length) := by
    rw [List.length_append, List.length_replicate]
    omega
  exact Decimal.mk.injEq .. ▸ ⟨digits, places⟩

variable (hk : 0 < k) (exponent : Option (Bool × List Char))
  (he : ∀ e ∈ exponent, e.2 ≠ [] ∧ ∀ c ∈ e.2, c.isDigit)

/-- The digits of a number with a point after the first `k` of them, and an exponent. -/
def cut : Spelling where
  negative := negative
  whole := (Nat.toDigits 10 n).take k
  fraction := (Nat.toDigits 10 n).drop k
  exponent := exponent
  whole_digits _ h := isDigit_toDigits (List.mem_of_mem_take h)
  whole_ne_nil h := by
    rcases List.take_eq_nil_iff.1 h with h | h
    · omega
    · exact Nat.toDigits_ne_nil h
  whole_zero h := by
    rw [List.head?_take, if_neg (by omega)] at h
    exact absurd h (head?_toDigits hn)
  fraction_digits _ h := isDigit_toDigits (List.mem_of_mem_drop h)
  exponent_digits := he

/-- The point stands only in front of digits. -/
theorem ofList_unsignedChars_cut :
    String.ofList (cut negative n k hn hk exponent he).unsignedChars =
      (if (Nat.toDigits 10 n).length ≤ k then String.ofList (Nat.toDigits 10 n)
        else Decimal.withPoint (Nat.toDigits 10 n) k) ++
      String.ofList (cut negative n k hn hk exponent he).exponentChars := by
  have whole : (cut negative n k hn hk exponent he).whole = (Nat.toDigits 10 n).take k := rfl
  have fraction : (cut negative n k hn hk exponent he).fraction = (Nat.toDigits 10 n).drop k := rfl
  rw [unsignedChars, fractionChars, whole, fraction, ← List.append_assoc, String.ofList_append]
  by_cases hlength : (Nat.toDigits 10 n).length ≤ k
  · rw [if_pos (List.drop_eq_nil_of_le hlength), if_pos hlength, List.take_of_length_le hlength,
      List.append_nil]
  · have hne : (Nat.toDigits 10 n).drop k ≠ [] := fun h => hlength (List.drop_eq_nil_iff.1 h)
    rw [if_neg hne, if_neg hlength, Decimal.withPoint, ← List.singleton_append,
      String.ofList_append, String.ofList_append, ← String.append_assoc]

theorem decimal_cut : (cut negative n k hn hk exponent he).decimal =
    ⟨n, (cut negative n k hn hk exponent he).exponentValue -
      ((Nat.toDigits 10 n).length - k : ℕ)⟩ := by
  have digits : Decimal.digitsValue ((Nat.toDigits 10 n).take k ++ (Nat.toDigits 10 n).drop k) =
      n := by
    rw [List.take_append_drop, digitsValue_toDigits]
  show Decimal.mk (Decimal.digitsValue ((Nat.toDigits 10 n).take k ++ (Nat.toDigits 10 n).drop k))
    (_ - ((Nat.toDigits 10 n).drop k).length) = _
  rw [digits, List.length_drop]

end Layouts

/-- The digits of an exponent, with zeros up to the width of the style. -/
def exponentDigits (e : Int) : List Char :=
  List.replicate (Decimal.Style.standard.exponentWidth - (Nat.toDigits 10 e.natAbs).length) '0' ++
    Nat.toDigits 10 e.natAbs

theorem exponentDigits_digits (e : Int) :
    exponentDigits e ≠ [] ∧ ∀ c ∈ exponentDigits e, c.isDigit := by
  refine ⟨fun h => Nat.toDigits_ne_nil (List.append_eq_nil_iff.1 h).2, fun c hc => ?_⟩
  rcases List.mem_append.1 hc with hc | hc
  · rw [List.eq_of_mem_replicate hc]
    rfl
  · exact isDigit_toDigits hc

theorem digitsValue_exponentDigits (e : Int) :
    Decimal.digitsValue (exponentDigits e) = e.natAbs := by
  rw [exponentDigits, digitsValue_append, digitsValue_replicate, digitsValue_toDigits]
  omega

/-- The spelling of a decimal with an exponent. -/
def scientific (negative : Bool) (n : Nat) (hn : 0 < n) (lead : Int) : Spelling :=
  cut negative n 1 hn Nat.one_pos (some (decide (lead < 0), exponentDigits lead)) <| by
    rintro _ ⟨⟩
    exact exponentDigits_digits lead

theorem exponentValue_scientific (negative : Bool) (n : Nat) (hn : 0 < n) (lead : Int) :
    (scientific negative n hn lead).exponentValue = lead := by
  show (if decide (lead < 0) = true then -(Decimal.digitsValue (exponentDigits lead) : ℤ)
    else Decimal.digitsValue (exponentDigits lead)) = lead
  rw [digitsValue_exponentDigits]
  split
  · next h =>
    have := of_decide_eq_true h
    omega
  · next h =>
    have := of_decide_eq_false (Bool.eq_false_iff.2 h)
    omega

theorem ofList_exponentChars_scientific (negative : Bool) (n : Nat) (hn : 0 < n) (lead : Int) :
    String.ofList (scientific negative n hn lead).exponentChars =
      Decimal.Style.standard.exponentText lead := by
  have chars : (scientific negative n hn lead).exponentChars =
      ['e', if decide (lead < 0) = true then '-' else '+'] ++ exponentDigits lead := rfl
  rw [chars, String.ofList_append, Decimal.Style.exponentText]
  by_cases h : lead < 0
  · rw [if_pos (decide_eq_true h), if_pos h]
    rfl
  · rw [if_neg (by simpa using h), if_neg h]
    rfl

/-! ## Written decimals -/

/-- The spelling of a text has a point or an exponent, and the value of a decimal. -/
structure Writes (p : Spelling) (text : String) (d : Decimal) : Prop where
  text_eq : String.ofList p.unsignedChars = text
  point : p.fraction ≠ [] ∨ p.exponent ≠ none
  value_eq : p.decimal.value = d.value

section Decimals

variable (negative : Bool) {n : Nat} (hn : 0 < n) {e : Int}

theorem writes_extended (he : 0 ≤ e) : (extended negative n e.toNat hn).Writes
    (String.ofList (Nat.toDigits 10 n ++ List.replicate e.toNat '0') ++ ".0") ⟨n, e⟩ where
  text_eq := by rw [unsignedChars_extended, String.ofList_append]
  point := .inl (List.cons_ne_nil _ _)
  value_eq := by
    rw [value_extended, Decimal.value, ← zpow_natCast, Int.toNat_of_nonneg he]

theorem writes_cut {k : Nat} (hk : 0 < k) (hlength : k < (Nat.toDigits 10 n).length)
    (he : (k : ℤ) = e + (Nat.toDigits 10 n).length) :
    (cut negative n k hn hk none fun _ h => nomatch h).Writes
      (Decimal.withPoint (Nat.toDigits 10 n) k) ⟨n, e⟩ where
  text_eq := by
    rw [ofList_unsignedChars_cut, if_neg hlength.not_ge]
    exact String.append_empty
  point := .inl fun h => hlength.not_ge (List.drop_eq_nil_iff.1 h)
  value_eq := by
    rw [decimal_cut]
    congr 2
    show 0 - _ = e
    omega

theorem writes_leadingZeros {k : Nat} (he : e = -((k : ℤ) + (Nat.toDigits 10 n).length)) :
    (leadingZeros negative n k).Writes
      ("0." ++ String.ofList (List.replicate k '0' ++ Nat.toDigits 10 n)) ⟨n, e⟩ where
  text_eq := ofList_unsignedChars_leadingZeros negative n k
  point := .inl fun h => Nat.toDigits_ne_nil (List.append_eq_nil_iff.1 h).2
  value_eq := by rw [decimal_leadingZeros, he]

theorem writes_scientific {lead : Int} (hlead : lead = e + (Nat.toDigits 10 n).length - 1) :
    (scientific negative n hn lead).Writes
      ((if (Nat.toDigits 10 n).length = 1 then String.ofList (Nat.toDigits 10 n)
        else Decimal.withPoint (Nat.toDigits 10 n) 1) ++
        Decimal.Style.standard.exponentText lead) ⟨n, e⟩ where
  text_eq := by
    have hlength : 0 < (Nat.toDigits 10 n).length := Nat.length_toDigits_pos
    rw [scientific, ofList_unsignedChars_cut, ← scientific, ofList_exponentChars_scientific]
    exact congrArg (· ++ _) (if_congr (by omega) rfl rfl)
  point := .inr (Option.some_ne_none _)
  value_eq := by
    have hlength : 0 < (Nat.toDigits 10 n).length := Nat.length_toDigits_pos
    rw [scientific, decimal_cut, ← scientific, exponentValue_scientific]
    congr 2
    omega

end Decimals

/-- A positive decimal is written as a spelling of it. -/
theorem exists_write (negative : Bool) {d : Decimal} (hd : 0 < d.digits) :
    ∃ p : Spelling, p.negative = negative ∧ p.Writes (Decimal.Style.standard.write d) d := by
  obtain ⟨n, e⟩ := d
  replace hd : 0 < n := hd
  unfold Decimal.Style.write
  dsimp only
  split
  · split
    · next he => exact ⟨_, rfl, writes_extended negative hd he⟩
    · next he =>
      split
      · next hlead =>
        exact ⟨_, rfl, writes_cut negative hd (by omega) (by omega) (by omega)⟩
      · next hlead => exact ⟨_, rfl, writes_leadingZeros negative (by omega)⟩
  · exact ⟨_, rfl, writes_scientific negative hd rfl⟩

end Spelling

end RobotTelemetry
