import RobotTelemetry.Proofs.Instants
import RobotTelemetry.Proofs.Rounding
import RobotTelemetry.Time.Seconds
/-!
# Laws of durations from seconds

A number of seconds is first a double product, then the integer nearest to it (`NearestEven`), then
two parts of one sign (`Duration.Splits`). The nearest integer grows with the number and changes
sign with it, and so does its only split. The main result is `Duration.ofSeconds_exact`.
-/

namespace RobotTelemetry

namespace Duration

/-! ## Splits -/

/-- The parts of a duration are whole seconds and less than a second, and have no different
signs. -/
structure Splits (d : Duration) (total : ℤ) : Prop where
  total_eq : d.seconds * 1000000000 + d.nanos = total
  nanos_le : |d.nanos| ≤ 999999999
  same_sign : ¬ (d.seconds < 0 ∧ 0 < d.nanos) ∧ ¬ (0 < d.seconds ∧ d.nanos < 0)

namespace Splits

variable {d d' : Duration} {total total' : ℤ}

theorem eq_of_total (h : d.Splits total) (h' : d'.Splits total) : d = d' := by
  obtain ⟨e, le, same⟩ := h
  obtain ⟨e', le', same'⟩ := h'
  rw [abs_le] at le le'
  have hseconds : d.seconds = d'.seconds := by omega
  rw [Duration.mk.injEq]
  exact ⟨hseconds, by omega⟩

theorem neg (h : d.Splits total) : Splits ⟨-d.seconds, -d.nanos⟩ (-total) := by
  obtain ⟨e, le, same⟩ := h
  refine ⟨?_, ?_, ?_⟩
  · show -d.seconds * 1000000000 + -d.nanos = -total
    omega
  · show |-d.nanos| ≤ 999999999
    rwa [abs_neg]
  · show ¬ (-d.seconds < 0 ∧ 0 < -d.nanos) ∧ ¬ (0 < -d.seconds ∧ -d.nanos < 0)
    omega

end Splits

/-- Rounding toward zero leaves a rest with the sign of the whole. -/
theorem splits_tdiv (total : ℤ) :
    Splits ⟨total.tdiv 1000000000, total.tmod 1000000000⟩ total := by
  have nonneg (n : ℤ) (h : 0 ≤ n) : Splits ⟨n.tdiv 1000000000, n.tmod 1000000000⟩ n := by
    rw [Int.tdiv_eq_ediv_of_nonneg h, Int.tmod_eq_emod_of_nonneg h]
    refine ⟨?_, abs_le.2 ⟨?_, ?_⟩, ?_⟩ <;> dsimp only <;> omega
  rcases Int.le_total 0 total with h | h
  · exact nonneg total h
  · have negated := (nonneg (-total) (by omega)).neg
    rwa [Int.neg_tdiv, Int.neg_tmod, neg_neg, neg_neg, neg_neg] at negated

theorem ofNanoseconds_of_representable {total : ℤ}
    (h : Representable (total.tdiv 1000000000)) :
    ofNanoseconds total = .ok ⟨total.tdiv 1000000000, total.tmod 1000000000⟩ :=
  if_pos h

theorem ofNanoseconds_of_not_representable {total : ℤ}
    (h : ¬ Representable (total.tdiv 1000000000)) :
    ofNanoseconds total = .error (.outOfRange (total.tdiv 1000000000)) :=
  if_neg h

theorem ofNanoseconds_error_cases {total : ℤ} {e : SecondsError}
    (h : ofNanoseconds total = .error e) : e = .outOfRange (total.tdiv 1000000000) := by
  by_cases hr : Representable (total.tdiv 1000000000)
  · rw [ofNanoseconds_of_representable hr] at h
    cases h
  · rw [ofNanoseconds_of_not_representable hr] at h
    exact (Except.error.inj h).symm

theorem ofNanoseconds_ok_iff {total : ℤ} {d : Duration} : ofNanoseconds total = .ok d ↔
    Representable (total.tdiv 1000000000) ∧ ∀ d' : Duration, d'.Splits total ↔ d' = d := by
  have only (d' : Duration) :
      d'.Splits total ↔ d' = ⟨total.tdiv 1000000000, total.tmod 1000000000⟩ :=
    ⟨fun h => h.eq_of_total (splits_tdiv total), fun h => h ▸ splits_tdiv total⟩
  by_cases h : Representable (total.tdiv 1000000000)
  · rw [ofNanoseconds_of_representable h, Except.ok.injEq]
    constructor
    · rintro rfl
      exact ⟨h, only⟩
    · rintro ⟨-, hd⟩
      exact (hd _).1 (splits_tdiv total)
  · rw [ofNanoseconds_of_not_representable h]
    simp [h]

theorem ofNanoseconds_error_iff {total seconds : ℤ} :
    ofNanoseconds total = .error (.outOfRange seconds) ↔
      seconds = total.tdiv 1000000000 ∧ ¬ Representable seconds := by
  by_cases h : Representable (total.tdiv 1000000000)
  · rw [ofNanoseconds_of_representable h]
    constructor
    · intro heq
      cases heq
    · rintro ⟨rfl, hn⟩
      exact absurd h hn
  · rw [ofNanoseconds_of_not_representable h, Except.error.injEq, SecondsError.outOfRange.injEq]
    constructor
    · rintro rfl
      exact ⟨rfl, h⟩
    · rintro ⟨rfl, -⟩
      rfl

theorem splits_of_ofNanoseconds {total : ℤ} {d : Duration} (h : ofNanoseconds total = .ok d) :
    d.Splits total :=
  ((ofNanoseconds_ok_iff.1 h).2 d).2 rfl

/-! ## From doubles -/

theorem value?_cases (p : Binary64) :
    p = .notANumber ∨ (∃ negative, p = .infinite negative) ∨ ∃ v, p.value? = some v := by
  rcases p with _ | negative | ⟨negative, m, q⟩
  · exact .inl rfl
  · exact .inr (.inl ⟨negative, rfl⟩)
  · exact .inr (.inr ⟨_, rfl⟩)

theorem nearestNanoseconds_of_value {p : Binary64} {v : ℚ} (h : p.value? = some v) :
    ∃ n, NearestEven v n ∧ nearestNanoseconds p = .ok n := by
  rcases p with _ | _ | ⟨_ | _, m, q⟩
  · cases h
  · cases h
  · obtain rfl := Option.some.inj h
    exact ⟨_, Binary64.nearestEven_roundNat m q, rfl⟩
  · obtain rfl := Option.some.inj h
    exact ⟨_, (Binary64.nearestEven_roundNat m q).neg, rfl⟩

/-- A finite double is rounded and the whole number then split. -/
theorem ofProduct_of_nearest {p : Binary64} {v : ℚ} {n : ℤ} (h : p.value? = some v)
    (hn : NearestEven v n) : ofProduct p = ofNanoseconds n := by
  obtain ⟨n', hn', heq⟩ := nearestNanoseconds_of_value h
  rw [ofProduct, heq, hn.unique hn']
  rfl

/-- What comes of a double is what comes of the integer nearest to it, if it is finite. -/
theorem ofProduct_eq_iff {p : Binary64} {result : Except SecondsError Duration} :
    ofProduct p = result ↔ p = .notANumber ∧ result = .error .notANumber ∨
      (∃ negative, p = .infinite negative) ∧ result = .error .infinite ∨
      ∃ v n, p.value? = some v ∧ NearestEven v n ∧ ofNanoseconds n = result := by
  rcases value?_cases p with rfl | ⟨negative, rfl⟩ | ⟨v, hv⟩
  · have undefined : ofProduct .notANumber = .error .notANumber := rfl
    simp [undefined, Binary64.value?, eq_comm]
  · have unbounded : ofProduct (.infinite negative) = .error .infinite := rfl
    simp [unbounded, Binary64.value?, eq_comm]
  · obtain ⟨n, hn, -⟩ := nearestNanoseconds_of_value hv
    rw [ofProduct_of_nearest hv hn]
    constructor
    · intro h
      exact .inr (.inr ⟨v, n, hv, hn, h⟩)
    · rintro (⟨rfl, -⟩ | ⟨⟨negative, rfl⟩, -⟩ | ⟨v', n', hv', hn', h⟩)
      · cases hv
      · cases hv
      · obtain rfl := Option.some.inj (hv.symm.trans hv')
        rwa [hn.unique hn']

theorem ofProduct_notANumber_iff {p : Binary64} :
    ofProduct p = .error .notANumber ↔ p = .notANumber := by
  rw [ofProduct_eq_iff]
  constructor
  · rintro (⟨hp, -⟩ | ⟨-, heq⟩ | ⟨v, n, -, -, hd⟩)
    · exact hp
    · cases heq
    · cases ofNanoseconds_error_cases hd
  · exact fun hp => .inl ⟨hp, rfl⟩

theorem ofProduct_infinite_iff {p : Binary64} :
    ofProduct p = .error .infinite ↔ ∃ negative, p = .infinite negative := by
  rw [ofProduct_eq_iff]
  constructor
  · rintro (⟨-, heq⟩ | ⟨hp, -⟩ | ⟨v, n, -, -, hd⟩)
    · cases heq
    · exact hp
    · cases ofNanoseconds_error_cases hd
  · exact fun hp => .inr (.inl ⟨hp, rfl⟩)

theorem ofProduct_outOfRange_iff {p : Binary64} {seconds : ℤ} :
    ofProduct p = .error (.outOfRange seconds) ↔
      ∃ v n, p.value? = some v ∧ NearestEven v n ∧ seconds = n.tdiv 1000000000 ∧
        ¬ Representable seconds := by
  rw [ofProduct_eq_iff]
  simp only [ofNanoseconds_error_iff, reduceCtorEq, Except.error.injEq, and_false, false_or]

theorem ofProduct_ok_iff {p : Binary64} {d : Duration} :
    ofProduct p = .ok d ↔ ∃ v n, p.value? = some v ∧ NearestEven v n ∧
      Representable (n.tdiv 1000000000) ∧ ∀ d' : Duration, d'.Splits n ↔ d' = d := by
  rw [ofProduct_eq_iff]
  simp only [ofNanoseconds_ok_iff, reduceCtorEq, and_false, false_or]

theorem exists_nearest_of_ofProduct {p : Binary64} {d : Duration} (h : ofProduct p = .ok d) :
    ∃ v n, p.value? = some v ∧ NearestEven v n ∧ d.Splits n := by
  obtain ⟨v, n, hv, hn, -, only⟩ := ofProduct_ok_iff.1 h
  exact ⟨v, n, hv, hn, (only d).2 rfl⟩

/-- The negative of a double has the negative duration. -/
theorem ofProduct_neg {p : Binary64} {d d' : Duration} (h : ofProduct p = .ok d)
    (h' : ofProduct p.neg = .ok d') : d' = ⟨-d.seconds, -d.nanos⟩ := by
  obtain ⟨v, n, hv, hn, hd⟩ := exists_nearest_of_ofProduct h
  obtain ⟨v', n', hv', hn', hd'⟩ := exists_nearest_of_ofProduct h'
  rw [Binary64.value?_neg, hv, Option.map_some, Option.some.injEq] at hv'
  subst hv'
  obtain rfl := hn'.unique hn.neg
  exact hd'.eq_of_total hd.neg

/-! ## Main result -/

/-- A number of seconds times a thousand million, as a double. -/
def product (seconds : Float) : Binary64 :=
  Binary64.ofFloat (seconds * 1000000000.0)

/-- The product of a number of seconds with a thousand million is rounded to the nearest integer, of
two to the even one, and this total is split in the only way whose parts have no different signs.
What is no number, what is infinite, and a total whose seconds need more than sixty-four bits have
no duration. Negative seconds have the negative duration, greater products no smaller ones, and an
instant is corrected by exactly the rounded total. -/
theorem ofSeconds_exact (x : Float) :
    (ofSeconds x = .error .notANumber ↔ product x = .notANumber) ∧
    (ofSeconds x = .error .infinite ↔ ∃ negative, product x = .infinite negative) ∧
    (∀ seconds, ofSeconds x = .error (.outOfRange seconds) ↔
      ∃ v n, (product x).value? = some v ∧ NearestEven v n ∧ seconds = n.tdiv 1000000000 ∧
        ¬ Representable seconds) ∧
    (∀ d, ofSeconds x = .ok d ↔
      ∃ v n, (product x).value? = some v ∧ NearestEven v n ∧
        Representable (n.tdiv 1000000000) ∧ ∀ d' : Duration, d'.Splits n ↔ d' = d) ∧
    (∀ d d', ofSeconds x = .ok d → ofSeconds (-x) = .ok d' → d' = ⟨-d.seconds, -d.nanos⟩) ∧
    (∀ y v v' d d', (product x).value? = some v → (product y).value? = some v' → v ≤ v' →
      ofSeconds x = .ok d → ofSeconds y = .ok d' → d.total ≤ d'.total) ∧
    ∀ d v n, ofSeconds x = .ok d → (product x).value? = some v → NearestEven v n →
      ∀ t : Timestamp, t.corrected d = Stamp.ofNanoseconds (Stamp.clamp (t.total + n)) := by
  have total_eq {y : Float} {d : Duration} {v : ℚ} {n : ℤ} (h : ofSeconds y = .ok d)
      (hv : (product y).value? = some v) (hn : NearestEven v n) : d.total = n := by
    rw [ofSeconds, ← product, ofProduct_of_nearest hv hn] at h
    exact (splits_of_ofNanoseconds h).total_eq
  refine ⟨ofProduct_notANumber_iff, ofProduct_infinite_iff, fun _ => ofProduct_outOfRange_iff,
    fun _ => ofProduct_ok_iff, fun d d' h h' => ?_, fun y v v' d d' hv hv' hle h h' => ?_,
    fun d v n h hv hn t => ?_⟩
  · have negated : product (-x) = (product x).neg := Binary64.ofFloat_neg_mul x _
    have h' : ofProduct (product (-x)) = .ok d' := h'
    rw [negated] at h'
    exact ofProduct_neg h h'
  · obtain ⟨n, hn, -⟩ := nearestNanoseconds_of_value hv
    obtain ⟨n', hn', -⟩ := nearestNanoseconds_of_value hv'
    rw [total_eq h hv hn, total_eq h' hv' hn']
    exact hn.mono hn' hle
  · rw [Timestamp.corrected, total_eq h hv hn]

end Duration

end RobotTelemetry
