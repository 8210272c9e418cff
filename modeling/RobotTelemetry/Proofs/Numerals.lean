import RobotTelemetry.Decimal.Reader
import RobotTelemetry.Json.Reader
/-!
# Laws of numerals

A number is spelt by a sign, the digits before and after its point, and an exponent (`Spelling`).
The reader of JSON takes a spelling as a whole where it ends (`Spelling.readNumber_chars`), and the
reader of decimals finds its value (`Spelling.read_chars`).
-/

namespace RobotTelemetry

/-! ## What follows -/

/-- No character of a kind comes first. -/
def Stops (kind : Char → Bool) (cs : List Char) : Prop :=
  ∀ c ∈ cs.head?, kind c = false

section Spans

variable {kind : Char → Bool} {cs rest : List Char}

theorem takeWhile_append_of_stops (all : ∀ c ∈ cs, kind c) (stops : Stops kind rest) :
    (cs ++ rest).takeWhile kind = cs := by
  rw [List.takeWhile_append_of_pos all]
  cases rest with
  | nil => rw [List.takeWhile_nil, List.append_nil]
  | cons c rest =>
    rw [List.takeWhile_cons_of_neg (by simp [stops c rfl]), List.append_nil]

theorem dropWhile_of_stops (stops : Stops kind cs) : cs.dropWhile kind = cs := by
  cases cs with
  | nil => rfl
  | cons c cs => rw [List.dropWhile_cons_of_neg (by simp [stops c rfl])]

theorem dropWhile_append_of_stops (all : ∀ c ∈ cs, kind c) (stops : Stops kind rest) :
    (cs ++ rest).dropWhile kind = rest := by
  rw [List.dropWhile_append_of_pos all, dropWhile_of_stops stops]

end Spans

/-- What may follow a number in JSON. -/
def delimiters : List Char :=
  [' ', '\n', '\r', '\t', ',', ']', '}']

/-- A number ends here. -/
def Delimited (rest : List Char) : Prop :=
  ∀ c ∈ rest.head?, c ∈ delimiters

theorem Delimited.stops {rest : List Char} (h : Delimited rest) (kind : Char → Bool)
    (hkind : delimiters.any kind = false) : Stops kind rest :=
  fun c hc => Bool.eq_false_iff.2 (List.any_eq_false.1 hkind c (h c hc))

/-! ## Spellings -/

/-- How a number is spelt. -/
structure Spelling where
  negative : Bool
  /-- The digits before the point. -/
  whole : List Char
  /-- The digits after the point; there is no point without any. -/
  fraction : List Char
  /-- Whether the exponent is negative, and its digits. -/
  exponent : Option (Bool × List Char)
  whole_digits : ∀ c ∈ whole, c.isDigit
  whole_ne_nil : whole ≠ []
  whole_zero : whole.head? = some '0' → whole = ['0']
  fraction_digits : ∀ c ∈ fraction, c.isDigit
  exponent_digits : ∀ e ∈ exponent, e.2 ≠ [] ∧ ∀ c ∈ e.2, c.isDigit

namespace Spelling

/-- The fraction with its point. -/
def fractionChars (p : Spelling) : List Char :=
  if p.fraction = [] then [] else '.' :: p.fraction

/-- The exponent with its sign. -/
def exponentChars (p : Spelling) : List Char :=
  match p.exponent with
  | none => []
  | some (negative, digits) => 'e' :: (if negative then '-' else '+') :: digits

/-- The characters behind the sign. -/
def unsignedChars (p : Spelling) : List Char :=
  p.whole ++ (p.fractionChars ++ p.exponentChars)

/-- The characters. -/
def chars (p : Spelling) : List Char :=
  (if p.negative then ['-'] else []) ++ p.unsignedChars

/-- The value of the exponent. -/
def exponentValue (p : Spelling) : Int :=
  match p.exponent with
  | none => 0
  | some (negative, digits) =>
      if negative then -Decimal.digitsValue digits else Decimal.digitsValue digits

/-- The number that is spelt. -/
def numeral (p : Spelling) : Decimal.Numeral :=
  .finite p.negative (Decimal.digitsValue (p.whole ++ p.fraction))
    (p.exponentValue - p.fraction.length)

theorem stops_exponentChars (p : Spelling) {kind : Char → Bool} (he : kind 'e' = false)
    {rest : List Char} (hrest : Stops kind rest) : Stops kind (p.exponentChars ++ rest) := by
  unfold exponentChars
  cases p.exponent with
  | none => exact hrest
  | some e =>
    rintro c ⟨⟩
    exact he

theorem stops_fractionChars (p : Spelling) {kind : Char → Bool} (hpoint : kind '.' = false)
    {rest : List Char} (hrest : Stops kind rest) : Stops kind (p.fractionChars ++ rest) := by
  unfold fractionChars
  split
  · exact hrest
  · rintro c ⟨⟩
    exact hpoint

/-! ## Reading JSON -/

theorem readDigits_append {ds rest : List Char} (hne : ds ≠ []) (hds : ∀ c ∈ ds, c.isDigit)
    (hrest : Stops Char.isDigit rest) : Json.readDigits (ds ++ rest) = some (ds, rest) := by
  rw [Json.readDigits, takeWhile_append_of_stops hds hrest, dropWhile_append_of_stops hds hrest]
  cases ds with
  | nil => exact absurd rfl hne
  | cons d ds => rfl

theorem readWhole_whole (p : Spelling) {rest : List Char} (hrest : Stops Char.isDigit rest) :
    Json.readWhole (p.whole ++ rest) = some (p.whole, rest) := by
  by_cases hzero : p.whole.head? = some '0'
  · rw [p.whole_zero hzero]
    rfl
  · rw [Json.readWhole]
    · exact readDigits_append p.whole_ne_nil p.whole_digits hrest
    · intro rest' h
      obtain ⟨d, ds, hw⟩ := List.exists_cons_of_ne_nil p.whole_ne_nil
      rw [hw, List.cons_append, List.cons.injEq] at h
      exact hzero (by rw [hw, h.1, List.head?_cons])

theorem readFraction_fractionChars (p : Spelling) {rest : List Char}
    (hrest : Stops (fun c => c.isDigit || c = '.') rest) :
    Json.readFraction (p.fractionChars ++ rest) = some (p.fractionChars, rest) := by
  unfold fractionChars
  split
  · rw [List.nil_append, Json.readFraction]
    rintro rest' rfl
    exact absurd (hrest '.' rfl) (by decide)
  · next hne =>
    have digits : Stops Char.isDigit rest := fun c hc => (Bool.or_eq_false_iff.1 (hrest c hc)).1
    rw [List.cons_append, Json.readFraction, readDigits_append hne p.fraction_digits digits,
      Option.map_some]

theorem readExponent_exponentChars (p : Spelling) {rest : List Char} (hrest : Delimited rest) :
    Json.readExponent (p.exponentChars ++ rest) = some (p.exponentChars, rest) := by
  have digits : Stops Char.isDigit rest := hrest.stops _ (by decide)
  unfold exponentChars
  split
  · rw [List.nil_append]
    cases rest with
    | nil => rfl
    | cons c rest =>
      have letter : ∀ c ∈ delimiters, ¬ (c = 'e' ∨ c = 'E') := by simp [delimiters]
      exact if_neg (letter c (hrest c rfl))
  · next negative ds he =>
    obtain ⟨hne, hds⟩ := p.exponent_digits _ he
    cases negative <;>
      simp [Json.readExponent, Json.readSign, readDigits_append hne hds digits]

theorem readUnsigned_unsignedChars (p : Spelling) {limits : Json.Limits}
    (hlimit : p.whole.length ≤ limits.digits) {rest : List Char} (hrest : Delimited rest) :
    Json.readUnsigned limits (p.unsignedChars ++ rest) = some (p.unsignedChars, rest) := by
  have afterFraction := p.stops_exponentChars rfl
    (hrest.stops (fun c => c.isDigit || c = '.') (by decide))
  have afterWhole := p.stops_fractionChars rfl
    (p.stops_exponentChars rfl (hrest.stops Char.isDigit (by decide)))
  rw [unsignedChars, List.append_assoc, List.append_assoc, Json.readUnsigned,
    p.readWhole_whole afterWhole]
  simp only [Option.bind_eq_bind, Option.bind_some, if_neg (Nat.not_lt.2 hlimit),
    p.readFraction_fractionChars afterFraction, p.readExponent_exponentChars hrest,
    List.append_assoc]

/-- The characters behind the sign start with a digit. -/
theorem unsignedChars_eq_cons (p : Spelling) :
    ∃ d cs, d.isDigit = true ∧ p.unsignedChars = d :: cs := by
  obtain ⟨d, ds, hw⟩ := List.exists_cons_of_ne_nil p.whole_ne_nil
  refine ⟨d, ds ++ (p.fractionChars ++ p.exponentChars), p.whole_digits d (by simp [hw]), ?_⟩
  rw [unsignedChars, hw, List.cons_append]

theorem readNumber_chars (p : Spelling) {limits : Json.Limits}
    (hlimit : p.whole.length ≤ limits.digits) {rest : List Char} (hrest : Delimited rest) :
    Json.readNumber limits (p.chars ++ rest) = some (p.chars, rest) := by
  have unsigned := p.readUnsigned_unsignedChars hlimit hrest
  unfold chars
  split
  · rw [List.append_assoc, List.singleton_append, Json.readNumber, unsigned]
    rfl
  · obtain ⟨d, cs, hd, hcs⟩ := p.unsignedChars_eq_cons
    rw [List.nil_append, Json.readNumber, unsigned]
    rintro rest' h
    rw [hcs, List.cons_append, List.cons.injEq] at h
    rw [h.1] at hd
    exact absurd hd (by decide)

/-! ## Reading decimals -/

/-- The characters that numbers are spelt with. -/
def Plain (c : Char) : Prop :=
  c.isDigit ∨ c ∈ ['-', '+', '.', 'e']

theorem plain_of_mem_chars (p : Spelling) {c : Char} (hc : c ∈ p.chars) : Plain c := by
  have whole (hc : c ∈ p.whole) : Plain c := .inl (p.whole_digits c hc)
  have fraction (hc : c ∈ p.fractionChars) : Plain c := by
    unfold fractionChars at hc
    split at hc
    · simp at hc
    · rcases List.mem_cons.1 hc with rfl | hc
      · exact .inr (by decide)
      · exact .inl (p.fraction_digits c hc)
  have exponent (hc : c ∈ p.exponentChars) : Plain c := by
    unfold exponentChars at hc
    split at hc
    · simp at hc
    · next negative ds he =>
      rcases List.mem_cons.1 hc with rfl | hc
      · exact .inr (by decide)
      rcases List.mem_cons.1 hc with rfl | hc
      · exact .inr (by cases negative <;> decide)
      · exact .inl ((p.exponent_digits _ he).2 c hc)
  unfold chars unsignedChars at hc
  rcases List.mem_append.1 hc with hc | hc
  · split at hc
    · rw [List.mem_singleton.1 hc]
      exact .inr (by decide)
    · simp at hc
  rcases List.mem_append.1 hc with hc | hc
  · exact whole hc
  · exact (List.mem_append.1 hc).elim fraction exponent

theorem Plain.toNat_bounds {c : Char} (h : Plain c) :
    0x2b ≤ c.toNat ∧ c.toNat < 0x80 ∧ c.toNat ≠ 0x5f := by
  rcases h with h | h
  · have bounds := Char.isDigit_iff_toNat.1 h
    have zero : '0'.toNat = 0x30 := rfl
    have nine : '9'.toNat = 0x39 := rfl
    omega
  · simp only [List.mem_cons, List.not_mem_nil, or_false] at h
    rcases h with rfl | rfl | rfl | rfl <;> decide

theorem Plain.simplify_eq {c : Char} (h : Plain c) : Decimal.simplify c = c := by
  rw [Decimal.simplify, if_pos h.toNat_bounds.2.1]

theorem Plain.surrounds_eq {c : Char} (h : Plain c) : Decimal.surrounds c = false := by
  have bounds := h.toNat_bounds
  have blank : c ≠ ' ' := by
    rintro rfl
    exact absurd bounds.1 (by decide)
  have high : ¬ c ≤ '\r' := fun hle => by
    have : c.toNat ≤ '\r'.toNat := hle
    have : '\r'.toNat = 0x0d := rfl
    omega
  simp [Decimal.surrounds, blank, high]

theorem trim_eq {cs : List Char} (h : ∀ c ∈ cs, Plain c) : Decimal.trim cs = cs := by
  have keeps {cs : List Char} (h : ∀ c ∈ cs, Plain c) : cs.dropWhile Decimal.surrounds = cs := by
    refine dropWhile_of_stops fun c hc => ?_
    exact (h c (List.mem_of_mem_head? hc)).surrounds_eq
  have back : ∀ c ∈ cs.reverse, Plain c := fun c hc => h c (List.mem_reverse.1 hc)
  rw [Decimal.trim, keeps h, keeps back, List.reverse_reverse]

theorem dropUnderscores_eq {before : Char} {cs : List Char} (hbefore : before ≠ '_')
    (h : ∀ c ∈ cs, Plain c) : Decimal.dropUnderscores before cs = some cs := by
  induction cs generalizing before with
  | nil => rw [Decimal.dropUnderscores, if_neg hbefore]
  | cons c cs ih =>
    have plain := h c List.mem_cons_self
    have hc : c ≠ '_' := by
      rintro rfl
      exact plain.toNat_bounds.2.2 rfl
    rw [Decimal.dropUnderscores, if_neg hc, if_neg (fun h => hbefore h.1),
      ih hc fun c hc => h c (List.mem_cons_of_mem _ hc), Option.map_some]

theorem prepare_chars (p : Spelling) : Decimal.prepare (String.ofList p.chars) = some p.chars := by
  have plain : ∀ c ∈ p.chars, Plain c := fun c hc => p.plain_of_mem_chars hc
  have simplified : p.chars.map Decimal.simplify = p.chars :=
    (List.map_congr_left fun c hc => (plain c hc).simplify_eq).trans (List.map_id _)
  rw [Decimal.prepare, String.toList_ofList, simplified, trim_eq plain]
  exact dropUnderscores_eq (by decide) plain

theorem readSign_chars (p : Spelling) :
    Decimal.readSign p.chars = (p.negative, p.unsignedChars) := by
  unfold chars
  cases p.negative with
  | true => rfl
  | false =>
    obtain ⟨d, cs, hd, hcs⟩ := p.unsignedChars_eq_cons
    rw [hcs]
    unfold Decimal.readSign
    split
    · next h => cases h; exact absurd hd (by decide)
    · next h => cases h; exact absurd hd (by decide)
    · rfl

theorem readExponent_eq (p : Spelling) :
    Decimal.readExponent p.exponentChars = some p.exponentValue := by
  unfold exponentChars exponentValue
  split
  · rfl
  · next negative ds he =>
    obtain ⟨hne, hds⟩ := p.exponent_digits _ he
    have all : ds.all Char.isDigit := List.all_eq_true.2 hds
    cases negative <;> simp [Decimal.readExponent, Decimal.readSign, hne, all]

theorem readUnsigned_eq (p : Spelling) :
    Decimal.readUnsigned p.negative p.unsignedChars = some p.numeral := by
  have nothing (kind : Char → Bool) : Stops kind [] := fun _ h => nomatch h
  have exponentStops : Stops (fun c => c.isDigit || c = '.') p.exponentChars := by
    simpa using p.stops_exponentChars rfl (nothing _)
  have digits : Stops Char.isDigit p.exponentChars := by
    simpa using p.stops_exponentChars rfl (nothing _)
  have stops : Stops Char.isDigit (p.fractionChars ++ p.exponentChars) :=
    p.stops_fractionChars rfl digits
  have digit : p.whole.isEmpty = false := List.isEmpty_eq_false_iff.2 p.whole_ne_nil
  rw [Decimal.readUnsigned, unsignedChars, takeWhile_append_of_stops p.whole_digits stops,
    dropWhile_append_of_stops p.whole_digits stops]
  by_cases hne : p.fraction = []
  · have absent : p.fractionChars = [] := if_pos hne
    rw [absent, List.nil_append]
    split
    next fraction rest h =>
    split at h
    · next hexp => exact absurd (exponentStops '.' (by rw [hexp]; rfl)) (by decide)
    · cases h
      simp [digit, readExponent_eq, numeral, hne]
  · have present : p.fractionChars = '.' :: p.fraction := if_neg hne
    rw [present, List.cons_append]
    simp only [takeWhile_append_of_stops p.fraction_digits digits,
      dropWhile_append_of_stops p.fraction_digits digits, readExponent_eq]
    simp [digit, numeral]

/-- No word starts with a digit. -/
theorem ofList_toLower_ne (p : Spelling) {word : String}
    (hword : word.toList.head?.any Char.isDigit = false) :
    String.ofList (p.unsignedChars.map Char.toLower) ≠ word := by
  obtain ⟨d, cs, hd, hcs⟩ := p.unsignedChars_eq_cons
  rintro rfl
  rw [String.toList_ofList, hcs, List.map_cons, List.head?_cons, Option.any_some] at hword
  have lower : d.toLower = d := by
    have bound : d.toNat ≤ '9'.toNat := (Char.isDigit_iff_toNat.1 hd).2
    unfold Char.toLower
    refine dif_neg fun h => ?_
    have letter : 'A'.toNat ≤ d.toNat := h.1
    exact absurd (Nat.le_trans letter bound) (by decide)
  rw [← lower, hword] at hd
  cases hd

/-- A spelling is read as the number that is spelt. -/
theorem read_chars (p : Spelling) : Decimal.read (String.ofList p.chars) = some p.numeral := by
  have nan : String.ofList (p.unsignedChars.map Char.toLower) ≠ "nan" :=
    p.ofList_toLower_ne (by decide)
  have inf : String.ofList (p.unsignedChars.map Char.toLower) ≠ "inf" :=
    p.ofList_toLower_ne (by decide)
  have infinity : String.ofList (p.unsignedChars.map Char.toLower) ≠ "infinity" :=
    p.ofList_toLower_ne (by decide)
  rw [Decimal.read, prepare_chars]
  simp only [Option.bind_eq_bind, Option.bind_some, readSign_chars, nan, inf, infinity, if_false,
    or_self, readUnsigned_eq]

end Spelling

end RobotTelemetry
