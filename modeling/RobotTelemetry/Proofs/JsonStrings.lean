import RobotTelemetry.Json.Printer
import RobotTelemetry.Json.Reader
/-!
# Laws of JSON strings

A character is written as itself, behind a backslash, or by the numbers of its UTF-16 units. A
reader first finds the units of each character (`readUnits_escapeChar`), then joins the pairs of
surrogates (`joinUnits_charUnits`), so that it finds the string that was written
(`readString_escaped`).
-/

namespace RobotTelemetry.Json

/-! ## Units by their numbers -/

theorem hexValue?_digitChar : ∀ d < 16, hexValue? (Nat.digitChar d) = some d := by
  decide

theorem readUnits_escapeUnit {n : Nat} (hn : n < 0x10000) (cs : List Char) :
    readUnits (escapeUnit n ++ cs) = consUnit n (readUnits cs) := by
  have value : hexUnit? (Nat.digitChar (n / 16 / 16 / 16 % 16)) (Nat.digitChar (n / 16 / 16 % 16))
      (Nat.digitChar (n / 16 % 16)) (Nat.digitChar (n % 16)) = some n := by
    simp only [hexUnit?, hexValue?_digitChar _ (Nat.mod_lt _ (by decide : 0 < 16)),
      Option.bind_eq_bind, Option.bind_some, Option.some.injEq]
    omega
  simp only [escapeUnit, Text.hexDigits, List.nil_append, List.cons_append, readUnits, value]

/-- The units of a character: a pair of surrogates past the first 65536 characters. -/
def charUnits (c : Char) : List Nat :=
  if c.toNat < 0x10000 then [c.toNat]
  else [0xd800 + (c.toNat - 0x10000) / 0x400, 0xdc00 + (c.toNat - 0x10000) % 0x400]

/-- Puts the units of a character before those that a step yields. -/
def consChar (c : Char) (s : Step (List Nat)) : Step (List Nat) :=
  s.map fun (ns, rest) => (charUnits c ++ ns, rest)

theorem consChar_of_lt {c : Char} (hc : c.toNat < 0x10000) (s : Step (List Nat)) :
    consChar c s = consUnit c.toNat s := by
  rw [consChar, charUnits, if_pos hc]
  cases s <;> rfl

theorem toNat_lt (c : Char) : c.toNat < 0x110000 := by
  have := c.valid
  rw [UInt32.isValidChar, Nat.isValidChar] at this
  show c.val.toNat < _
  omega

theorem readUnits_escapeUnits (c : Char) (cs : List Char) :
    readUnits (escapeUnits c.toNat ++ cs) = consChar c (readUnits cs) := by
  have bound := toNat_lt c
  unfold escapeUnits
  split
  · next hc => rw [readUnits_escapeUnit hc, consChar_of_lt hc]
  · next hc =>
    rw [List.append_assoc, readUnits_escapeUnit (by omega), readUnits_escapeUnit (by omega),
      consChar, charUnits, if_neg hc]
    cases readUnits cs <;> rfl

/-! ## Characters -/

/-- A character is written behind a backslash, as itself, or by the numbers of its units. -/
theorem escapeChar_cases (c : Char) :
    (∃ e, e ≠ 'u' ∧ unescape? e = some c ∧ escapeChar c = ['\\', e]) ∨
    (c ≠ '"' ∧ c ≠ '\\' ∧ 0x20 ≤ c.toNat ∧ c.toNat < 0x7f ∧ escapeChar c = [c]) ∨
    escapeChar c = escapeUnits c.toNat := by
  by_cases quote : c = '"'
  · subst quote
    exact .inl ⟨'"', by decide, rfl, rfl⟩
  by_cases backslash : c = '\\'
  · subst backslash
    exact .inl ⟨'\\', by decide, rfl, rfl⟩
  by_cases newline : c = '\n'
  · subst newline
    exact .inl ⟨'n', by decide, rfl, rfl⟩
  by_cases carriageReturn : c = '\r'
  · subst carriageReturn
    exact .inl ⟨'r', by decide, rfl, rfl⟩
  by_cases tab : c = '\t'
  · subst tab
    exact .inl ⟨'t', by decide, rfl, rfl⟩
  by_cases backspace : c = '\x08'
  · subst backspace
    exact .inl ⟨'b', by decide, rfl, rfl⟩
  by_cases formFeed : c = '\x0c'
  · subst formFeed
    exact .inl ⟨'f', by decide, rfl, rfl⟩
  have others : escapeChar c =
      if 0x20 ≤ c.toNat ∧ c.toNat < 0x7f then [c] else escapeUnits c.toNat := by
    simp only [escapeChar, quote, backslash, newline, carriageReturn, tab, backspace, formFeed,
      if_false]
  by_cases plain : 0x20 ≤ c.toNat ∧ c.toNat < 0x7f
  · rw [if_pos plain] at others
    exact .inr (.inl ⟨quote, backslash, plain.1, plain.2, others⟩)
  · rw [if_neg plain] at others
    exact .inr (.inr others)

theorem readUnits_behind {e c : Char} (hu : e ≠ 'u') (he : unescape? e = some c)
    (cs : List Char) : readUnits ('\\' :: e :: cs) = consUnit c.toNat (readUnits cs) := by
  rw [readUnits]
  · simp only [he]
  · intro _ _ _ _ _ h
    exact absurd h hu

theorem unescape?_lt {e c : Char} (he : unescape? e = some c) : c.toNat < 0x80 := by
  unfold unescape? at he
  split at he <;> cases he <;> decide

theorem readUnits_escapeChar (c : Char) (cs : List Char) :
    readUnits (escapeChar c ++ cs) = consChar c (readUnits cs) := by
  rcases escapeChar_cases c with ⟨e, hu, he, h⟩ | ⟨quote, backslash, low, high, h⟩ | h
  · rw [h, consChar_of_lt (by have := unescape?_lt he; omega)]
    exact readUnits_behind hu he cs
  · rw [h, consChar_of_lt (by omega), List.singleton_append, readUnits]
    · rw [if_neg (by omega)]
    · exact quote
    · intro _ _ _ _ _ h
      exact absurd h backslash
    · intro _ _ h
      exact absurd h backslash
  · rw [h]
    exact readUnits_escapeUnits c cs

theorem readUnits_flatMap (cs rest : List Char) :
    readUnits (cs.flatMap escapeChar ++ '"' :: rest) = some (cs.flatMap charUnits, rest) := by
  induction cs with
  | nil => rw [List.flatMap_nil, List.nil_append, readUnits, List.flatMap_nil]
  | cons c cs ih =>
    rw [List.flatMap_cons, List.append_assoc, readUnits_escapeChar, ih, List.flatMap_cons]
    rfl

/-! ## Surrogates -/

/-- A character is no surrogate itself, so that its units are joined to it again. -/
theorem joinUnits_charUnits (c : Char) (ns : List Nat) :
    joinUnits (charUnits c ++ ns) = (joinUnits ns).map (c :: ·) := by
  have bound := toNat_lt c
  have valid : c.toNat < 0xd800 ∨ 0xdfff < c.toNat := by
    rcases c.valid with h | h
    · exact .inl h
    · exact .inr h.1
  unfold charUnits
  split
  · rw [List.singleton_append, joinUnits.eq_def]
    simp only
    rw [if_neg (by omega), if_neg (by omega), Char.ofNat_toNat]
  · next hc =>
    have pair : 0x10000 + (0xd800 + (c.toNat - 0x10000) / 0x400 - 0xd800) * 0x400 +
        (0xdc00 + (c.toNat - 0x10000) % 0x400 - 0xdc00) = c.toNat := by omega
    simp only [List.cons_append, List.nil_append]
    rw [joinUnits.eq_def]
    simp only
    rw [if_pos (by omega), if_pos (by omega), pair, Char.ofNat_toNat]

theorem joinUnits_flatMap (cs : List Char) : joinUnits (cs.flatMap charUnits) = some cs := by
  induction cs with
  | nil => rw [List.flatMap_nil, joinUnits]
  | cons c cs ih => rw [List.flatMap_cons, joinUnits_charUnits, ih, Option.map_some]

/-! ## Strings -/

/-- What is written between the quotes of a string is read as this string. -/
theorem readString_escaped (s : String) (rest : List Char) :
    readString (s.toList.flatMap escapeChar ++ '"' :: rest) = some (s, rest) := by
  rw [readString, readUnits_flatMap]
  simp only [joinUnits_flatMap, Option.map_some, String.ofList_toList]

end RobotTelemetry.Json
