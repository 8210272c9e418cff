import RobotTelemetry.Dump.Basic
import RobotTelemetry.Proofs.JsonTexts
import RobotTelemetry.Proofs.NearestDoubles
import RobotTelemetry.Proofs.NumberTexts
/-!
# Laws of the texts of components

A double is written as its shortest decimal, which is read back as this double
(`Dump.read_doubleText`). A whole number is written without a point and without an exponent, and no
double is, so that a component is told from its text (`Json.toComponent?_componentJson`).
-/

namespace RobotTelemetry

open Decimal

/-! ## Doubles -/

theorem Decimal.Numeral.ofFloat_toFloat (negative : Bool) (digits : ℕ) (exponent : ℤ) :
    Binary64.ofFloat (Numeral.finite negative digits exponent).toFloat =
      if negative then (Binary64.ofBits (magnitudeBits digits exponent)).neg
      else Binary64.ofBits (magnitudeBits digits exponent) := by
  rw [Numeral.toFloat]
  split
  · rw [Binary64.ofFloat_neg, Binary64.ofFloat_ofBits]
  · rw [Binary64.ofFloat_ofBits]

theorem Spelling.ofList_chars (p : Spelling) :
    String.ofList p.chars =
      (if p.negative then "-" else "") ++ String.ofList p.unsignedChars := by
  rw [Spelling.chars, String.ofList_append]
  cases p.negative <;> rfl

theorem Spelling.ofFloat_numeral (p : Spelling) :
    Binary64.ofFloat p.numeral.toFloat =
      if p.negative then
        (Binary64.ofBits (Numeral.magnitudeBits p.decimal.digits p.decimal.exponent)).neg
      else Binary64.ofBits (Numeral.magnitudeBits p.decimal.digits p.decimal.exponent) :=
  Numeral.ofFloat_toFloat _ _ _

namespace Dump

/-- A finite double is spelt with a point or an exponent, and read back. -/
theorem exists_spelling {m : ℕ} {q : ℤ} (negative : Bool) (hc : Binary64.Canonical m q) :
    ∃ p : Spelling, doubleText (.finite negative m q) = String.ofList p.chars ∧
      (p.fraction ≠ [] ∨ p.exponent ≠ none) ∧
      Binary64.ofFloat p.numeral.toFloat = .finite negative m q := by
  rcases Nat.eq_zero_or_pos m with rfl | hm
  · have least : q = Binary64.leastExponent := by
      by_contra! hne
      exact absurd (hc.le (lt_of_le_of_ne hc.low hne.symm)) (by decide)
    refine ⟨Spelling.leadingZeros negative 0 0, ?_, .inl (List.cons_ne_nil _ _), ?_⟩
    · rw [Spelling.ofList_chars, Spelling.ofList_unsignedChars_leadingZeros]
      rfl
    · rw [Spelling.ofFloat_numeral, Spelling.decimal_leadingZeros, least]
      cases negative <;> rfl
  · have holds := holds_shortest hm hc.lt q
    obtain ⟨p, rfl, htext, hpoint, hvalue⟩ :=
      Spelling.exists_write negative (digits_pos_of_holds hm hc holds)
    refine ⟨p, ?_, hpoint, ?_⟩
    · rw [Spelling.ofList_chars, htext, doubleText, text, if_neg hm.ne']
    · rw [Spelling.ofFloat_numeral, ofBits_magnitudeBits hm hc (hvalue ▸ holds)]
      cases p.negative <;> rfl

theorem numberText_doubleText (x : Float) : Json.NumberText (doubleText (.ofFloat x)) := by
  rcases h : Binary64.ofFloat x with _ | negative | ⟨negative, m, q⟩
  · exact .notANumber
  · cases negative with
    | false => exact .infinity
    | true => exact .minusInfinity
  · obtain ⟨p, hp, -⟩ := exists_spelling negative (Binary64.canonical_of_ofFloat h)
    rw [hp]
    exact .spelling p

/-- The text of a double is read back as this double. -/
theorem read_doubleText (x : Float) :
    (Decimal.read (doubleText (.ofFloat x))).map Numeral.toFloat = some x := by
  have same {y : Float} (h : Binary64.ofFloat y = .ofFloat x) : some y = some x :=
    congrArg some (Binary64.ofFloat_injective h)
  rcases h : Binary64.ofFloat x with _ | negative | ⟨negative, m, q⟩
  · exact same (h ▸ rfl)
  · cases negative with
    | false => exact same (h ▸ rfl)
    | true => exact same (h ▸ rfl)
  · obtain ⟨p, hp, -, hread⟩ := exists_spelling negative (Binary64.canonical_of_ofFloat h)
    rw [hp, Spelling.read_chars, Option.map_some]
    exact same (hread.trans h.symm)

end Dump

/-! ## Components -/

/-- The integer that a number without a point and without an exponent stands for. -/
def Decimal.Numeral.toInt? : Numeral → Option Int
  | finite negative digits 0 => some (if negative then -digits else digits)
  | _ => none

/-- Whether a number is written with a sign and digits only. -/
def isWholeText (text : String) : Bool :=
  text.toList.all fun c => c.isDigit || c = '-'

/-- The component that a number stands for: a whole one has neither a point nor an exponent. -/
def Json.toComponent? : Json → Option (Component Float)
  | .number text =>
      match Decimal.read text with
      | none => none
      | some numeral =>
          if isWholeText text then numeral.toInt?.map .whole else some (.real numeral.toFloat)
  | _ => none

theorem isWholeText_toString (n : Int) : isWholeText (toString n) = true := by
  rw [← Spelling.chars_ofInt, isWholeText, String.toList_ofList, List.all_eq_true]
  intro c hc
  have digits : (Spelling.ofInt n).unsignedChars = Nat.toDigits 10 n.natAbs := List.append_nil _
  unfold Spelling.chars at hc
  rw [digits] at hc
  rcases List.mem_append.1 hc with hc | hc
  · split at hc
    · rw [List.mem_singleton.1 hc]
      rfl
    · simp at hc
  · simp [isDigit_toDigits hc]

theorem read_toString (n : Int) :
    Decimal.read (toString n) = some (.finite (decide (n < 0)) n.natAbs 0) := by
  have value : (Spelling.ofInt n).numeral =
      .finite (decide (n < 0)) (Decimal.digitsValue (Nat.toDigits 10 n.natAbs ++ [])) 0 := rfl
  rw [← Spelling.chars_ofInt, Spelling.read_chars, value, List.append_nil, digitsValue_toDigits]

theorem isWholeText_chars {p : Spelling} (h : p.fraction ≠ [] ∨ p.exponent ≠ none) :
    isWholeText (String.ofList p.chars) = false := by
  have other {c : Char} (hc : c ∈ p.chars) (hne : (c.isDigit || c = '-') = false) :
      isWholeText (String.ofList p.chars) = false := by
    rw [isWholeText, String.toList_ofList, List.all_eq_false]
    exact ⟨c, hc, by simpa using hne⟩
  unfold Spelling.chars Spelling.unsignedChars at other ⊢
  rcases h with h | h
  · refine other (c := '.') ?_ (by decide)
    simp [Spelling.fractionChars, h]
  · refine other (c := 'e') ?_ (by decide)
    obtain ⟨e, he⟩ := Option.ne_none_iff_exists'.1 h
    simp [Spelling.exponentChars, he]

theorem isWholeText_doubleText (x : Float) :
    isWholeText (Dump.doubleText (.ofFloat x)) = false := by
  rcases h : Binary64.ofFloat x with _ | negative | ⟨negative, m, q⟩
  · decide
  · cases negative <;> decide
  · obtain ⟨p, hp, hpoint, -⟩ := Dump.exists_spelling negative (Binary64.canonical_of_ofFloat h)
    rw [hp]
    exact isWholeText_chars hpoint

/-- A component is read back from its text. -/
theorem Json.toComponent?_componentJson (c : Component Float) :
    (Dump.componentJson c).toComponent? = some c := by
  cases c with
  | whole n =>
    have sign : (if decide (n < 0) = true then -(n.natAbs : ℤ) else n.natAbs) = n := by
      by_cases hn : n < 0
      · rw [if_pos (decide_eq_true hn)]
        omega
      · rw [if_neg (by simpa using hn)]
        omega
    rw [Dump.componentJson, Json.int, Json.toComponent?, read_toString]
    simp only [isWholeText_toString, if_true, Numeral.toInt?, sign, Option.map_some]
  | real x =>
    have read := Dump.read_doubleText x
    obtain ⟨numeral, hnumeral, hx⟩ := Option.map_eq_some_iff.1 read
    rw [Dump.componentJson, Json.toComponent?, hnumeral]
    simp only [isWholeText_doubleText, hx]
    rfl

end RobotTelemetry
