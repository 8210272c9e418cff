import Mathlib
import RobotTelemetry.Decimal.Binary64
/-!
# Laws of doubles

The bits of a double are a sign, a field for the exponent and a field for the fraction, and its
value is read off these (`Binary64.ofBits_eq`): it is what the bits are unpacked to
(`Binary64.ofBits_eq_ofUnpacked`), so that doubles with one value have the same bits
(`Binary64.ofFloat_injective`). The product with the negative of a double is the negative of the
product (`Binary64.ofFloat_neg_mul`).
-/

namespace RobotTelemetry.Binary64

open Float.Model Float.Model.UnpackedFloat

/-! ## Fields -/

/-- The double with a sign and two fields. -/
def ofFields (negative : Bool) (field fraction : Nat) : Binary64 :=
  if field = 2047 then
    if fraction = 0 then .infinite negative else .notANumber
  else if field = 0 then .finite negative fraction leastExponent
  else .finite negative (leastNormal + fraction) ((field : Int) - 1075)

theorem toNat_unpackSign (b : BitVec Format.binary64.numBits) :
    (unpackSign b).toNat = b.toNat / 0x8000000000000000 := by
  have hlt : b.toNat < 0x10000000000000000 := b.isLt
  simp only [unpackSign, BitVec.toNat_cast, BitVec.extractLsb_toNat, Nat.shiftRight_eq_div_pow]
  omega

theorem toNat_unpackExponent (b : BitVec Format.binary64.numBits) :
    (unpackExponent b).toNat = b.toNat / leastNormal % 0x800 := by
  simp [unpackExponent, BitVec.extractLsb_toNat, Nat.shiftRight_eq_div_pow, leastNormal]

theorem toNat_unpackMantissa (b : BitVec Format.binary64.numBits) :
    (unpackMantissa b).toNat = b.toNat % leastNormal := by
  simp [unpackMantissa, BitVec.extractLsb_toNat, leastNormal]

theorem ofBits_eq (b : BitVec Format.binary64.numBits) :
    ofBits ⟨b⟩ = ofFields (decide ((unpackSign b).toNat = 1)) (unpackExponent b).toNat
      (unpackMantissa b).toNat := by
  have hlt : b.toNat < 0x10000000000000000 := b.isLt
  have sign : decide (0x8000000000000000 ≤ b.toNat) = decide ((unpackSign b).toNat = 1) := by
    rw [toNat_unpackSign]
    exact decide_eq_decide.2 (by omega)
  rw [toNat_unpackExponent, toNat_unpackMantissa, ← sign]
  rfl

/-! ## Bits that are unpacked -/

/-- The double that is unpacked. -/
def ofUnpacked : Float.Model.UnpackedFloat → Binary64
  | .notANumber => .notANumber
  | .infinity s => .infinite (decide (s.toBitVec.toNat = 1))
  | .zero s => .finite (decide (s.toBitVec.toNat = 1)) 0 leastExponent
  | .finite s m q _ => .finite (decide (s.toBitVec.toNat = 1)) m q

theorem ofUnpacked_injective : Function.Injective ofUnpacked := by
  have sign {s t : Sign} (h : decide (s.toBitVec.toNat = 1) = decide (t.toBitVec.toNat = 1)) :
      s = t := by
    revert h
    cases s <;> cases t <;> simp [Sign.toBitVec]
  rintro (s | _ | s | ⟨s, m, q, hm⟩) (t | _ | t | ⟨t, n, p, hn⟩) h <;>
    simp only [ofUnpacked, Binary64.infinite.injEq, Binary64.finite.injEq, reduceCtorEq] at h
  · rw [sign h]
  · rfl
  · rw [sign h.1]
  -- The mantissa of what is not zero is not zero.
  · omega
  · omega
  · obtain ⟨hs, rfl, rfl⟩ := h
    rw [sign hs]

theorem toNat_one_append (m : BitVec 52) : (1#1 ++ m).toNat = leastNormal + m.toNat := by
  rw [BitVec.toNat_append, ← Nat.shiftLeft_add_eq_or_of_lt m.isLt]
  rfl

theorem ofBits_eq_ofUnpacked (b : BitVec Format.binary64.numBits) :
    ofBits ⟨b⟩ = ofUnpacked (UnpackedFloat.unpack .binary64 b) := by
  have max : unpackExponent b = -1#_ ↔ (unpackExponent b).toNat = 2047 :=
    ⟨fun h => congrArg BitVec.toNat h, fun h => BitVec.eq_of_toNat_eq h⟩
  have zero : unpackExponent b = 0#_ ↔ (unpackExponent b).toNat = 0 :=
    ⟨fun h => congrArg BitVec.toNat h, fun h => BitVec.eq_of_toNat_eq h⟩
  have empty : unpackMantissa b = 0#_ ↔ (unpackMantissa b).toNat = 0 :=
    ⟨fun h => congrArg BitVec.toNat h, fun h => BitVec.eq_of_toNat_eq h⟩
  rw [ofBits_eq, ofFields, UnpackedFloat.unpack]
  simp only [max, zero, empty]
  split
  · split
    · rw [ofUnpacked, Sign.toBitVec_ofBitVec]
    · rfl
  · split
    · split
      · next h =>
        rw [ofUnpacked, Sign.toBitVec_ofBitVec, h]
      · next h _ =>
        rw [ofUnpacked, Sign.toBitVec_ofBitVec, h]
        rfl
    · rw [ofUnpacked, Sign.toBitVec_ofBitVec, toNat_one_append]
      rfl

/-- Doubles are told apart by their values. -/
theorem ofFloat_injective : Function.Injective ofFloat := by
  rintro ⟨⟨⟨b⟩, valid⟩⟩ ⟨⟨⟨b'⟩, valid'⟩⟩ h
  have values : ofBits ⟨b⟩ = ofBits ⟨b'⟩ := h
  rw [ofBits_eq_ofUnpacked, ofBits_eq_ofUnpacked] at values
  obtain rfl : b = b' := (unpack_inj_of_valid valid valid').1 (ofUnpacked_injective values)
  rfl

/-- What bits are read as is read again once it is packed. -/
theorem unpack_pack_unpack (b : BitVec Format.binary64.numBits) :
    UnpackedFloat.unpack .binary64
      (UnpackedFloat.pack .binary64 (UnpackedFloat.unpack .binary64 b)) =
        UnpackedFloat.unpack .binary64 b := by
  rw [pack_unpack]
  split
  · next nan =>
    have special := of_decide_eq_true nan
    rw [unpack_packedNaN, UnpackedFloat.unpack]
    simp only [special, if_true, if_false]
  · rfl

/-- Bits that are unpacked and packed again stand for the same double. -/
theorem ofBits_pack_unpack (b : BitVec Format.binary64.numBits) :
    ofBits ⟨UnpackedFloat.pack .binary64 (UnpackedFloat.unpack .binary64 b)⟩ = ofBits ⟨b⟩ := by
  rw [ofBits_eq_ofUnpacked, unpack_pack_unpack, ← ofBits_eq_ofUnpacked]

theorem ofFloat_ofBits (bits : UInt64) : ofFloat (Float.ofBits bits) = ofBits bits :=
  ofBits_pack_unpack bits.toBitVec

/-! ## Negation -/

/-- The double with the other sign. -/
def neg : Binary64 → Binary64
  | .notANumber => .notANumber
  | .infinite negative => .infinite !negative
  | .finite negative m q => .finite (!negative) m q

theorem ofFields_not (negative : Bool) (field fraction : Nat) :
    ofFields (!negative) field fraction = (ofFields negative field fraction).neg := by
  unfold ofFields
  split
  · split <;> rfl
  · split <;> rfl

theorem ofBits_packComponents (s : Sign) (e : BitVec 11) (m : BitVec 52) :
    ofBits ⟨packComponents .binary64 s e m⟩ =
      ofFields (decide (s.toBitVec.toNat = 1)) e.toNat m.toNat := by
  rw [ofBits_eq, unpackSign_packComponents, unpackExponent_packComponents,
    unpackMantissa_packComponents]

theorem ofBits_packComponents_neg (s : Sign) (e : BitVec 11) (m : BitVec 52) :
    ofBits ⟨packComponents .binary64 (-s) e m⟩ = (ofBits ⟨packComponents .binary64 s e m⟩).neg := by
  rw [ofBits_packComponents, ofBits_packComponents, ← ofFields_not]
  cases s <;> rfl

theorem ofBits_pack_neg (u : Float.Model.UnpackedFloat) :
    ofBits ⟨UnpackedFloat.pack .binary64 u.neg⟩ =
      (ofBits ⟨UnpackedFloat.pack .binary64 u⟩).neg := by
  cases u with
  | notANumber => decide
  | infinity s | zero s => exact ofBits_packComponents_neg s _ _
  | finite s m e h =>
    simp only [UnpackedFloat.neg, UnpackedFloat.pack]
    split
    · exact ofBits_packComponents_neg s _ _
    · split
      · exact ofBits_packComponents_neg s _ _
      · exact ofBits_packComponents_neg s _ _

theorem ofFloat_neg (x : Float) : ofFloat (-x) = (ofFloat x).neg := by
  have negated : ofFloat (-x) = (ofBits ⟨UnpackedFloat.pack .binary64 x.toModel.unpack⟩).neg :=
    ofBits_pack_neg _
  rw [negated]
  exact congrArg neg (ofBits_pack_unpack x.toBits.toBitVec)

/-! ### Products -/

/-- The bits with the other sign are read as the negative. -/
theorem exists_unpack_neg (b : BitVec Format.binary64.numBits) :
    ∃ b', UnpackedFloat.unpack .binary64 b' = (UnpackedFloat.unpack .binary64 b).neg := by
  refine ⟨packComponents .binary64 (-Sign.ofBitVec (unpackSign b)) (unpackExponent b)
    (unpackMantissa b), ?_⟩
  simp only [UnpackedFloat.unpack, unpackExponent_packComponents, unpackMantissa_packComponents,
    unpackSign_packComponents, Sign.ofBitVec_toBitVec]
  split
  · split <;> rfl
  · split
    · split <;> rfl
    · rfl

theorem unpack_pack_neg (b : BitVec Format.binary64.numBits) :
    UnpackedFloat.unpack .binary64
      (UnpackedFloat.pack .binary64 (UnpackedFloat.unpack .binary64 b).neg) =
        (UnpackedFloat.unpack .binary64 b).neg := by
  obtain ⟨b', h⟩ := exists_unpack_neg b
  rw [← h, unpack_pack_unpack]

theorem roundWithAccuracy_neg (s : Sign) (m : Nat) (q : Int) (a : Accuracy) :
    roundWithAccuracy .binary64 (-s) m q a = (roundWithAccuracy .binary64 s m q a).neg := by
  unfold roundWithAccuracy
  dsimp only
  split <;> rfl

theorem neg_mul (u v : Float.Model.UnpackedFloat) :
    UnpackedFloat.mul .binary64 u.neg v = (UnpackedFloat.mul .binary64 u v).neg := by
  have sign (s t : Sign) : -s * t = -(s * t) := by cases s <;> cases t <;> rfl
  cases u <;> cases v <;>
    simp only [UnpackedFloat.mul, UnpackedFloat.neg, sign, roundWithAccuracy_neg]

theorem ofFloat_neg_mul (x c : Float) : ofFloat (-x * c) = (ofFloat (x * c)).neg := by
  have negated : (-x).toModel.unpack = x.toModel.unpack.neg := unpack_pack_neg _
  have product : -x * c = ⟨Float.Model.pack (UnpackedFloat.mul .binary64 x.toModel.unpack.neg
      c.toModel.unpack)⟩ := by
    rw [← negated]
    rfl
  rw [product, neg_mul]
  exact ofBits_pack_neg _

/-! ## Canonical forms -/

/-- A mantissa of fifty-three bits, or of fewer at the least exponent. -/
structure Canonical (m : Nat) (q : Int) : Prop where
  lt : m < 2 * leastNormal
  le : leastExponent < q → leastNormal ≤ m
  low : leastExponent ≤ q
  high : q ≤ 971

theorem canonical_of_ofFields {negative negative' : Bool} {field fraction m : Nat} {q : Int}
    (hfield : field < 2048) (hfraction : fraction < leastNormal)
    (h : ofFields negative field fraction = .finite negative' m q) : Canonical m q := by
  unfold ofFields at h
  rw [leastNormal] at hfraction
  split at h
  · split at h <;> cases h
  · split at h
    · cases h
      exact ⟨by rw [leastNormal]; omega, fun h => absurd h (Int.lt_irrefl _), Int.le_refl _,
        by decide⟩
    · cases h
      exact ⟨by rw [leastNormal]; omega, fun _ => Nat.le_add_right _ _,
        by rw [leastExponent]; omega, by omega⟩

theorem canonical_of_ofFloat {x : Float} {negative : Bool} {m : Nat} {q : Int}
    (h : ofFloat x = .finite negative m q) : Canonical m q := by
  have hfield : x.toBits.toNat / leastNormal % 0x800 < 2048 := Nat.mod_lt _ (by decide)
  have hfraction : x.toBits.toNat % leastNormal < leastNormal := Nat.mod_lt _ (by decide)
  exact canonical_of_ofFields hfield hfraction h

theorem ofBits_eq_of_fields {bits : UInt64} (field fraction : Nat) (hfield : field < 2048)
    (hfraction : fraction < leastNormal) (h : bits.toNat = field * leastNormal + fraction) :
    ofBits bits = ofFields false field fraction := by
  rw [leastNormal] at h hfraction
  have sign : decide (0x8000000000000000 ≤ bits.toNat) = false := decide_eq_false (by omega)
  have quotient : bits.toNat / leastNormal % 0x800 = field := by
    rw [leastNormal]
    omega
  have rest : bits.toNat % leastNormal = fraction := by
    rw [leastNormal]
    omega
  rw [← quotient, ← rest, ← sign]
  rfl

theorem ofBits_ofNat_subnormal {m : Nat} (hm : m < leastNormal) :
    ofBits (UInt64.ofNat m) = .finite false m leastExponent := by
  rw [ofBits_eq_of_fields 0 m (by decide) hm ?_]
  · rfl
  · rw [leastNormal] at hm
    rw [UInt64.toNat_ofNat', Nat.zero_mul, Nat.zero_add]
    omega

theorem ofBits_ofNat_normal {m : Nat} {q : Int} (h : Canonical m q) (hm : leastNormal ≤ m) :
    ofBits (UInt64.ofNat ((q + 1075).toNat * leastNormal + (m - leastNormal))) =
      .finite false m q := by
  have hlt := h.lt
  have hlow := h.low
  have hhigh := h.high
  rw [leastNormal] at hlt hm
  rw [leastExponent] at hlow
  rw [ofBits_eq_of_fields (q + 1075).toNat (m - leastNormal) (by omega) ?_ ?_]
  · rw [ofFields, if_neg (by omega), if_neg (by omega), Binary64.finite.injEq, leastNormal]
    exact ⟨rfl, by omega, by omega⟩
  · rw [leastNormal]
    omega
  · rw [UInt64.toNat_ofNat', leastNormal]
    omega

end RobotTelemetry.Binary64
