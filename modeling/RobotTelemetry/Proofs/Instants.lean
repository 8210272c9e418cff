import Mathlib.Algebra.Order.Group.Unbundled.Abs
import Mathlib.Algebra.Order.Group.Int
import Mathlib.Data.Prod.Lex
import RobotTelemetry.Time.Basic
/-!
# Laws of clock correction

A stamp is in normal form if its nanoseconds make up less than a second. In normal form there is one
stamp for each total (`Stamp.Normal.eq_of_toNanoseconds`), and the lexicographic order of stamps is
the order of their totals (`Stamp.Normal.key_le_iff`). Clamping a total keeps the order and brings
totals no further apart (`Stamp.clamp_mono`, `Stamp.clamp_sub_clamp_le`). Since a total is clamped
before it is split, correction inherits all of this (`Timestamp.corrected_exact`).
-/

namespace RobotTelemetry

namespace Stamp

variable {s s' : Stamp} {total total' : Int}

/-! ## Normal form -/

/-- The nanoseconds of a stamp make up less than a second. -/
def Normal (s : Stamp) : Prop :=
  0 ≤ s.nanosec ∧ s.nanosec < 1000000000

/-- What stamps are ordered by: the seconds first, then the nanoseconds. -/
def key (s : Stamp) : Int ×ₗ Int :=
  toLex (s.sec, s.nanosec)

theorem toNanoseconds_eq (s : Stamp) : s.toNanoseconds = s.sec * 1000000000 + s.nanosec := rfl

theorem normal_ofNanoseconds (total : Int) : (ofNanoseconds total).Normal :=
  ⟨Int.fmod_nonneg_of_pos total (by decide), Int.fmod_lt_of_pos total (by decide)⟩

/-- A total is split into seconds and nanoseconds in one way only. -/
theorem Normal.eq_of_toNanoseconds (h : s.Normal) (h' : s'.Normal)
    (e : s.toNanoseconds = s'.toNanoseconds) : s = s' := by
  obtain ⟨hlow, hhigh⟩ := h
  obtain ⟨hlow', hhigh'⟩ := h'
  rw [toNanoseconds_eq, toNanoseconds_eq] at e
  have hsec : s.sec = s'.sec := by omega
  have hnanosec : s.nanosec = s'.nanosec := by omega
  rw [Stamp.mk.injEq]
  exact ⟨hsec, hnanosec⟩

theorem ofNanoseconds_toNanoseconds_iff : ofNanoseconds s.toNanoseconds = s ↔ s.Normal := by
  constructor
  · intro h
    rw [← h]
    exact normal_ofNanoseconds _
  · intro h
    exact (normal_ofNanoseconds _).eq_of_toNanoseconds h (toNanoseconds_ofNanoseconds _)

/-- The order of stamps is the order of their totals. -/
theorem Normal.key_le_iff (h : s.Normal) (h' : s'.Normal) :
    s.key ≤ s'.key ↔ s.toNanoseconds ≤ s'.toNanoseconds := by
  obtain ⟨hlow, hhigh⟩ := h
  obtain ⟨hlow', hhigh'⟩ := h'
  rw [key, key, Prod.Lex.toLex_le_toLex, toNanoseconds_eq, toNanoseconds_eq]
  constructor
  · rintro (hlt | ⟨heq, hle⟩)
    · omega
    · omega
  · intro hle
    by_cases heq : s.sec = s'.sec
    · exact .inr ⟨heq, by omega⟩
    · exact .inl (by omega)

/-! ## Saturation -/

/-- A timestamp can hold the total, so that it is not saturated. -/
def InRange (total : Int) : Prop :=
  0 ≤ total ∧ total ≤ 253402300799999999999

theorem clamp_eq (total : Int) : clamp total = min (max total 0) 253402300799999999999 := rfl

theorem inRange_clamp (total : Int) : InRange (clamp total) := by
  rw [InRange, clamp_eq]
  omega

theorem clamp_of_inRange (h : InRange total) : clamp total = total := by
  obtain ⟨hlow, hhigh⟩ := h
  rw [clamp_eq]
  omega

theorem clamp_mono (h : total ≤ total') : clamp total ≤ clamp total' := by
  rw [clamp_eq, clamp_eq]
  omega

theorem clamp_sub_clamp_le (h : total ≤ total') :
    clamp total' - clamp total ≤ total' - total := by
  rw [clamp_eq, clamp_eq]
  omega

theorem abs_clamp_sub_clamp_le (total total' : Int) :
    |clamp total' - clamp total| ≤ |total' - total| := by
  rcases Int.le_total total total' with h | h
  · rw [abs_of_nonneg (Int.sub_nonneg.2 (clamp_mono h)), abs_of_nonneg (Int.sub_nonneg.2 h)]
    exact clamp_sub_clamp_le h
  · rw [abs_sub_comm, abs_sub_comm total', abs_of_nonneg (Int.sub_nonneg.2 (clamp_mono h)),
      abs_of_nonneg (Int.sub_nonneg.2 h)]
    exact clamp_sub_clamp_le h

/-- A stamp is the instant nearest to a total among those that a timestamp can hold. -/
structure Nearest (s : Stamp) (total : Int) : Prop where
  nanosec_nonneg : 0 ≤ s.nanosec
  nanosec_lt : s.nanosec < 1000000000
  sec_nonneg : 0 ≤ s.sec
  sec_le : s.sec ≤ 253402300799
  total_eq : s.toNanoseconds = min (max total 0) 253402300799999999999

theorem Nearest.normal (h : s.Nearest total) : s.Normal :=
  ⟨h.nanosec_nonneg, h.nanosec_lt⟩

/-- A stamp is an instant of the robot on the local clock: the sum of instant and skew, as near as a
timestamp can come to it. -/
structure Marks (s : Stamp) (skew : Duration) (t : Timestamp) : Prop where
  eq_corrected : s = t.corrected skew
  nearest : s.Nearest (t.total + skew.total)

/-- The instant on the robot's clock that a stamp would be if it were read there. -/
def timestamp (s : Stamp) : Timestamp :=
  ⟨s.sec, s.nanosec⟩

theorem total_timestamp (s : Stamp) : s.timestamp.total = s.toNanoseconds := rfl

end Stamp

/-! ## Corrected instants -/

namespace Timestamp

variable {t t' : Timestamp} {k : Duration}

theorem normal_corrected (t : Timestamp) (k : Duration) : (t.corrected k).Normal :=
  Stamp.normal_ofNanoseconds _

theorem toNanoseconds_corrected (t : Timestamp) (k : Duration) :
    (t.corrected k).toNanoseconds = Stamp.clamp (t.total + k.total) :=
  Stamp.toNanoseconds_ofNanoseconds _

theorem toNanoseconds_of_inRange (h : Stamp.InRange (t.total + k.total)) :
    (t.corrected k).toNanoseconds = t.total + k.total := by
  rw [toNanoseconds_corrected, Stamp.clamp_of_inRange h]

theorem nearest_corrected (t : Timestamp) (k : Duration) :
    (t.corrected k).Nearest (t.total + k.total) := by
  obtain ⟨hlow, hhigh⟩ := normal_corrected t k
  have htotal := toNanoseconds_corrected t k
  obtain ⟨hnonneg, hle⟩ := Stamp.inRange_clamp (t.total + k.total)
  rw [← htotal, Stamp.toNanoseconds_eq] at hnonneg hle
  exact ⟨hlow, hhigh, by omega, by omega, htotal⟩

theorem marks_corrected (t : Timestamp) (k : Duration) : (t.corrected k).Marks k t :=
  ⟨rfl, nearest_corrected t k⟩

/-- Correcting a corrected instant once more adds the second skew to the first, unless the first
correction came to an end of the range. -/
theorem corrected_corrected {k₂ sum : Duration} (h : Stamp.InRange (t.total + k.total))
    (hsum : sum.total = k.total + k₂.total) :
    (t.corrected k).timestamp.corrected k₂ = t.corrected sum := by
  have htotal : (t.corrected k).timestamp.total + k₂.total = t.total + sum.total := by
    rw [Stamp.total_timestamp, toNanoseconds_of_inRange h, hsum, Int.add_assoc]
  rw [corrected, htotal, ← corrected]

/-- The corrected instant is the one stamp in normal form nearest to the sum of instant and skew.
Under one skew, later instants have later stamps, stamps are no further apart than their instants,
and as far apart if neither is saturated. Equal sums have equal stamps. Splitting a total and adding
its parts up undo each other. -/
theorem corrected_exact (t : Timestamp) (k : Duration) :
    (∀ s : Stamp, s.Nearest (t.total + k.total) ↔ s = t.corrected k) ∧
    (∀ t' : Timestamp, t.total ≤ t'.total → (t.corrected k).key ≤ (t'.corrected k).key) ∧
    (∀ (t' : Timestamp) (k' : Duration), t.total + k.total = t'.total + k'.total →
      t.corrected k = t'.corrected k') ∧
    (∀ t' : Timestamp, |(t'.corrected k).toNanoseconds - (t.corrected k).toNanoseconds| ≤
      |t'.total - t.total|) ∧
    (∀ t' : Timestamp, Stamp.InRange (t.total + k.total) → Stamp.InRange (t'.total + k.total) →
      (t'.corrected k).toNanoseconds - (t.corrected k).toNanoseconds = t'.total - t.total) ∧
    (∀ k₂ sum : Duration, Stamp.InRange (t.total + k.total) → sum.total = k.total + k₂.total →
      (t.corrected k).timestamp.corrected k₂ = t.corrected sum) ∧
    (∀ total, (Stamp.ofNanoseconds total).toNanoseconds = total) ∧
    ∀ s : Stamp, Stamp.ofNanoseconds s.toNanoseconds = s ↔
      0 ≤ s.nanosec ∧ s.nanosec < 1000000000 := by
  refine ⟨fun s => ⟨fun h => ?_, ?_⟩, fun t' hle => ?_, fun t' k' h => ?_, fun t' => ?_,
    fun t' h h' => ?_, fun k₂ sum => corrected_corrected, Stamp.toNanoseconds_ofNanoseconds,
    fun s => Stamp.ofNanoseconds_toNanoseconds_iff⟩
  · refine h.normal.eq_of_toNanoseconds (normal_corrected t k) ?_
    rw [h.total_eq, (nearest_corrected t k).total_eq]
  · rintro rfl
    exact nearest_corrected t k
  · rw [(normal_corrected t k).key_le_iff (normal_corrected t' k), toNanoseconds_corrected,
      toNanoseconds_corrected]
    exact Stamp.clamp_mono (Int.add_le_add_right hle _)
  · rw [corrected, corrected, h]
  · have shift : t'.total - t.total = t'.total + k.total - (t.total + k.total) := by omega
    rw [toNanoseconds_corrected, toNanoseconds_corrected, shift]
    exact Stamp.abs_clamp_sub_clamp_le _ _
  · rw [toNanoseconds_of_inRange h, toNanoseconds_of_inRange h']
    omega

/-! ### The end of the range -/

/-- An instant half a second before the end of the range, its nanoseconds counted back from it. -/
def lastHalfSecond : Timestamp :=
  ⟨253402300800, -500000000⟩

/-- Two skews that together lead past the end of the range come to its last instant, whether they
are applied one after the other or at once. -/
theorem lastHalfSecond_corrected_twice :
    Stamp.InRange (lastHalfSecond.total + Duration.total ⟨-1, 1400000000⟩) ∧
      (lastHalfSecond.corrected ⟨-1, 1400000000⟩).timestamp.corrected ⟨0, 200000000⟩ =
        lastHalfSecond.corrected ⟨-1, 1600000000⟩ ∧
      lastHalfSecond.corrected ⟨-1, 1600000000⟩ = ⟨253402300799, 999999999⟩ := by
  have inRange : Stamp.InRange (lastHalfSecond.total + Duration.total ⟨-1, 1400000000⟩) := by
    constructor <;> decide
  obtain ⟨-, -, -, -, -, twice, -⟩ := corrected_exact lastHalfSecond ⟨-1, 1400000000⟩
  exact ⟨inRange, twice ⟨0, 200000000⟩ ⟨-1, 1600000000⟩ inRange (by decide), by decide⟩

end Timestamp

end RobotTelemetry
