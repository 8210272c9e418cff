import Mathlib.Data.List.Basic
import RobotTelemetry.Proofs.JsonStrings
import RobotTelemetry.Proofs.Numerals
/-!
# Laws of JSON texts

A value is legible if each of its numbers is spelt as one and no object names a member twice
(`Json.Legible`). Whatever the layout, the text of a legible value is read back as this value, and
reading stops right behind it (`Json.readValue_chars`); so a legible value can be told from its text
(`Json.readAll_write`).
-/

namespace RobotTelemetry.Json

/-! ## Legible values -/

/-- The texts that stand for numbers. -/
inductive NumberText : String → Prop
  | notANumber : NumberText "NaN"
  | infinity : NumberText "Infinity"
  | minusInfinity : NumberText "-Infinity"
  | spelling (p : Spelling) : NumberText (String.ofList p.chars)

/-- The values that can be told from their texts. -/
inductive Legible : Json → Prop
  | null : Legible .null
  | bool (b : Bool) : Legible (.bool b)
  | number {text : String} (h : NumberText text) : Legible (.number text)
  | string (s : String) : Legible (.string s)
  | array {items : List Json} (h : ∀ v ∈ items, Legible v) : Legible (.array items)
  | object {members : List (String × Json)} (distinct : (members.map Prod.fst).Nodup)
      (h : ∀ m ∈ members, Legible m.2) : Legible (.object members)

/-! ## Scalars -/

section Scalars

variable {limits : Limits} {rest : List Char}

/-- A value that is neither a string nor a container. -/
def readScalar (limits : Limits) (cs : List Char) : Step Json :=
  match readWord cs with
  | some result => some result
  | none => (readNumber limits cs).map fun (text, rest) => (.number (String.ofList text), rest)

theorem readWith_scalar {fuel : Nat} {inner : List Char → Step Json} {c : Char} {cs : List Char}
    (hc : c ∉ ['"', '[', '\x7b']) :
    readWith limits fuel inner (c :: cs) = readScalar limits (c :: cs) := by
  simp only [List.mem_cons, List.not_mem_nil, or_false, not_or] at hc
  rw [readWith]
  · rfl
  · exact fun _ h => hc.1 (List.cons.inj h).1
  · exact fun _ h => hc.2.1 (List.cons.inj h).1
  · exact fun _ h => hc.2.2 (List.cons.inj h).1

theorem words_start {word : String} {v : Json} (h : (word, v) ∈ words) :
    ∃ c cs, word.toList = c :: cs ∧ c.isDigit = false ∧ (c = '-' → cs.head? = some 'I') := by
  simp only [words, List.mem_cons, Prod.mk.injEq, List.not_mem_nil, or_false] at h
  rcases h with ⟨rfl, -⟩ | ⟨rfl, -⟩ | ⟨rfl, -⟩ | ⟨rfl, -⟩ | ⟨rfl, -⟩ | ⟨rfl, -⟩ <;>
    exact ⟨_, _, rfl, by decide, by decide⟩

/-- No word starts with a digit, and none with a minus and a digit. -/
theorem readWord_chars (p : Spelling) : readWord (p.chars ++ rest) = none := by
  obtain ⟨d, ds, hd, hds⟩ := p.unsignedChars_eq_cons
  rw [readWord, List.findSome?_eq_none_iff]
  rintro ⟨word, v⟩ hword
  obtain ⟨c, cs, hcs, hc, hminus⟩ := words_start hword
  refine if_neg fun hstart => ?_
  obtain ⟨more, hmore⟩ := List.isPrefixOf_iff_prefix.1 hstart
  rw [hcs] at hmore
  unfold Spelling.chars at hmore
  rw [hds] at hmore
  split at hmore
  · obtain ⟨rfl, htail⟩ := List.cons.inj hmore
    have hletter : (cs ++ more).head? = some d := congrArg List.head? htail
    rw [List.head?_append, hminus rfl] at hletter
    cases hletter
    cases hd
  · obtain ⟨rfl, -⟩ := List.cons.inj hmore
    rw [hc] at hd
    cases hd

theorem readScalar_number {text : String} (h : NumberText text)
    (hlimit : text.toList.length ≤ limits.digits) (hrest : Delimited rest) :
    readScalar limits (text.toList ++ rest) = some (.number text, rest) := by
  cases h with
  | notANumber => rfl
  | infinity => rfl
  | minusInfinity => rfl
  | spelling p =>
    rw [String.toList_ofList] at hlimit ⊢
    have whole : p.whole.length ≤ p.chars.length := by
      rw [Spelling.chars, Spelling.unsignedChars, List.length_append, List.length_append]
      omega
    rw [readScalar, readWord_chars, p.readNumber_chars (Nat.le_trans whole hlimit) hrest]
    rfl

end Scalars

/-! ## Items between commas -/

/-- A text that neither is blank at its start nor closes a container. -/
def Opens (cs : List Char) : Prop :=
  ∃ c ∈ cs.head?, isSpace c = false ∧ c ≠ ']' ∧ c ≠ '}'

theorem Opens.stops {cs : List Char} (h : Opens cs) (more : List Char) :
    Stops isSpace (cs ++ more) := by
  obtain ⟨c, hc, hspace, -⟩ := h
  intro d hd
  rw [List.head?_append, hc] at hd
  cases hd
  exact hspace

theorem Opens.append {cs : List Char} (h : Opens cs) (more : List Char) : Opens (cs ++ more) := by
  obtain ⟨c, hc, hne⟩ := h
  refine ⟨c, ?_, hne⟩
  rw [List.head?_append, hc]
  rfl

theorem Opens.ne_close {cs rest : List Char} {close : Char} (h : Opens cs)
    (hclose : close ∈ [']', '}']) : cs ≠ close :: rest := by
  rintro rfl
  obtain ⟨c, ⟨⟩, -, hne⟩ := h
  exact (List.mem_pair.1 hclose).elim hne.1 hne.2

theorem skipSpace_of_stops {cs : List Char} (hcs : Stops isSpace cs) : skipSpace cs = cs :=
  dropWhile_of_stops hcs

theorem skipSpace_append (before : List Char) {cs : List Char} (hbefore : ∀ c ∈ before, isSpace c)
    (hcs : Stops isSpace cs) : skipSpace (before ++ cs) = cs :=
  dropWhile_append_of_stops hbefore hcs

theorem delimited_append {gap rest : List Char} (hgap : ∀ c ∈ gap, isSpace c)
    (hrest : Delimited rest) : Delimited (gap ++ rest) := by
  cases gap with
  | nil => exact hrest
  | cons c gap =>
    rintro d ⟨⟩
    have hspace := hgap c List.mem_cons_self
    simp only [isSpace, Bool.or_eq_true, decide_eq_true_eq, or_assoc] at hspace
    rcases hspace with rfl | rfl | rfl | rfl <;> decide

/-- Items, each behind a comma and blanks. -/
def listed {β : Type} (text : β → List Char) (gap : List Char) (xs : List β) : List Char :=
  xs.flatMap fun x => ',' :: (gap ++ text x)

section Items

variable {β : Type} {item : List Char → Step β} {close : Char} {fuel : Nat} {x : β}
  {before cs endGap rest t : List Char}

theorem readItems_last (hbefore : ∀ c ∈ before, isSpace c) (ht : Opens t)
    (hitem : item (t ++ (endGap ++ close :: rest)) = some (x, endGap ++ close :: rest))
    (hend : ∀ c ∈ endGap, isSpace c) (hclose : isSpace close = false) :
    readItems item close (fuel + 1) (before ++ (t ++ (endGap ++ close :: rest))) =
      some ([x], rest) := by
  have closing : Stops isSpace (close :: rest) := by
    rintro c ⟨⟩
    exact hclose
  rw [readItems, skipSpace_append before hbefore (ht.stops _), hitem]
  dsimp only
  rw [skipSpace_append endGap hend closing]
  exact if_pos rfl

theorem readItems_comma (hbefore : ∀ c ∈ before, isSpace c) (ht : Opens t)
    (hitem : item (t ++ ',' :: cs) = some (x, ',' :: cs)) (hclose : close ≠ ',') :
    readItems item close (fuel + 1) (before ++ (t ++ ',' :: cs)) =
      (readItems item close fuel cs).map fun (xs, rest) => (x :: xs, rest) := by
  have comma : Stops isSpace (',' :: cs) := by
    rintro c ⟨⟩
    rfl
  rw [readItems, skipSpace_append before hbefore (ht.stops _), hitem]
  dsimp only
  rw [skipSpace_of_stops comma]
  dsimp only
  rw [if_neg hclose.symm, if_pos rfl]

theorem readItems_listed {text : β → List Char} {gap : List Char} (close : Char)
    (hgap : ∀ c ∈ gap, isSpace c) (hend : ∀ c ∈ endGap, isSpace c)
    (hclose : close ∈ [']', '}']) {xs : List β} (hfuel : xs.length < fuel)
    (hopens : ∀ y ∈ x :: xs, Opens (text y))
    (hitem : ∀ y ∈ x :: xs, ∀ rest, Delimited rest → item (text y ++ rest) = some (y, rest))
    (before : List Char) (hbefore : ∀ c ∈ before, isSpace c) (rest : List Char) :
    readItems item close fuel
      (before ++ (text x ++ (listed text gap xs ++ (endGap ++ close :: rest)))) =
      some (x :: xs, rest) := by
  have bracket : isSpace close = false ∧ close ≠ ',' ∧ close ∈ delimiters := by
    rcases List.mem_pair.1 hclose with rfl | rfl <;> decide
  have hx := hopens x List.mem_cons_self
  obtain ⟨fuel, rfl⟩ : ∃ k, fuel = k + 1 := ⟨fuel - 1, by omega⟩
  induction xs generalizing x fuel before with
  | nil =>
    have ends : Delimited (endGap ++ close :: rest) := by
      refine delimited_append hend ?_
      rintro c ⟨⟩
      exact bracket.2.2
    exact readItems_last hbefore hx (hitem x List.mem_cons_self _ ends) hend bracket.1
  | cons y ys ih =>
    have next : listed text gap (y :: ys) ++ (endGap ++ close :: rest) =
        ',' :: (gap ++ (text y ++ (listed text gap ys ++ (endGap ++ close :: rest)))) := by
      simp [listed]
    have comma : Delimited (',' :: (gap ++ (text y ++ (listed text gap ys ++
        (endGap ++ close :: rest))))) := by
      rintro c ⟨⟩
      decide
    obtain ⟨fuel, rfl⟩ : ∃ k, fuel = k + 1 := ⟨fuel - 1, by simp at hfuel; omega⟩
    rw [next, readItems_comma hbefore hx (hitem x List.mem_cons_self _ comma) bracket.2.1,
      ih (fun z hz => hopens z (List.mem_cons_of_mem _ hz))
        (fun z hz => hitem z (List.mem_cons_of_mem _ hz)) gap hgap (hopens y (by simp)) fuel
        (by simpa using hfuel), Option.map_some]

end Items

/-! ## Containers -/

section Containers

variable {limits : Limits} {fuel : Nat} {inner : List Char → Step Json} {gap endGap : List Char}

theorem readWith_array {text : Json → List Char} (hgap : ∀ c ∈ gap, isSpace c)
    (hend : ∀ c ∈ endGap, isSpace c) {item : Json} {items : List Json}
    (hfuel : items.length < fuel) (hopens : ∀ v ∈ item :: items, Opens (text v))
    (hitem : ∀ v ∈ item :: items, ∀ rest, Delimited rest → inner (text v ++ rest) = some (v, rest))
    (rest : List Char) :
    readWith limits fuel inner
      ('[' :: (gap ++ (text item ++ (listed text gap items ++ (endGap ++ ']' :: rest))))) =
      some (.array (item :: items), rest) := by
  have first := hopens item List.mem_cons_self
  have read := readItems_listed ']' hgap hend (by decide) hfuel hopens hitem [] (by simp) rest
  rw [List.nil_append] at read
  rw [readWith, skipSpace_append gap hgap (first.stops _)]
  split
  · next hclose => exact absurd hclose ((first.append _).ne_close (by decide))
  · rw [read, Option.map_some]

theorem readWith_object {text : String × Json → List Char} (hgap : ∀ c ∈ gap, isSpace c)
    (hend : ∀ c ∈ endGap, isSpace c) {member : String × Json} {members : List (String × Json)}
    (hfuel : members.length < fuel) (hopens : ∀ m ∈ member :: members, Opens (text m))
    (hmember : ∀ m ∈ member :: members, ∀ rest, Delimited rest →
      readMember inner (text m ++ rest) = some (m, rest))
    (rest : List Char) :
    readWith limits fuel inner
      ('\x7b' :: (gap ++ (text member ++ (listed text gap members ++ (endGap ++ '}' :: rest))))) =
      some (ofMembers (member :: members), rest) := by
  have first := hopens member List.mem_cons_self
  have read := readItems_listed '}' hgap hend (by decide) hfuel hopens hmember [] (by simp) rest
  rw [List.nil_append] at read
  rw [readWith, skipSpace_append gap hgap (first.stops _)]
  split
  · next hclose => exact absurd hclose ((first.append _).ne_close (by decide))
  · rw [read, Option.map_some]

theorem setMember_append {name : String} {value : Json} {members : List (String × Json)}
    (h : name ∉ members.map Prod.fst) :
    setMember name value members = members ++ [(name, value)] := by
  induction members with
  | nil => rfl
  | cons member members ih =>
    rw [List.map_cons, List.mem_cons, not_or] at h
    rw [setMember, if_neg (Ne.symm h.1), ih h.2, List.cons_append]

/-- Where no name occurs twice, no member is replaced. -/
theorem foldl_setMember (members done : List (String × Json))
    (h : ((done ++ members).map Prod.fst).Nodup) :
    members.foldl (fun done (name, value) => setMember name value done) done = done ++ members := by
  induction members generalizing done with
  | nil => exact (List.append_nil _).symm
  | cons member members ih =>
    have fresh : member.1 ∉ done.map Prod.fst := by
      rw [List.map_append, List.nodup_append] at h
      exact fun hmem => h.2.2 _ hmem _ List.mem_cons_self rfl
    have step : done ++ member :: members = (done ++ [member]) ++ members := by
      rw [List.append_assoc, List.singleton_append]
    rw [step, List.foldl_cons]
    show members.foldl _ (setMember member.1 member.2 done) = _
    rw [setMember_append fresh]
    exact ih _ (step ▸ h)

theorem ofMembers_eq {members : List (String × Json)} (h : (members.map Prod.fst).Nodup) :
    ofMembers members = .object members := by
  rw [ofMembers, foldl_setMember members [] h, List.nil_append]

end Containers

/-! ## Layout -/

theorem isSpace_lineBreak (layout : Layout) (level : Nat) :
    ∀ c ∈ layout.lineBreak level, isSpace c := by
  cases layout with
  | compact => exact fun _ h => nomatch h
  | indented width =>
    intro c hc
    rcases List.mem_cons.1 hc with rfl | hc
    · rfl
    · rw [List.eq_of_mem_replicate hc]
      rfl

/-- The text of a member of an object. -/
def memberText (layout : Layout) (level : Nat) (member : String × Json) : List Char :=
  stringChars member.1 ++ ':' :: ' ' :: chars layout level member.2

variable (layout : Layout) (level : Nat)

theorem itemChars_eq (items : List Json) : itemChars layout level items =
    listed (chars layout (level + 1)) (layout.lineBreak (level + 1)) items ++
      (layout.lineBreak level ++ [']']) := by
  induction items with
  | nil => rw [itemChars, listed, List.flatMap_nil, List.nil_append]
  | cons item items ih => simp [itemChars, ih, listed]

theorem memberChars_eq (members : List (String × Json)) : memberChars layout level members =
    listed (memberText layout (level + 1)) (layout.lineBreak (level + 1)) members ++
      (layout.lineBreak level ++ ['}']) := by
  induction members with
  | nil => rw [memberChars, listed, List.flatMap_nil, List.nil_append]
  | cons member members ih => simp [memberChars, ih, listed, memberText]

theorem chars_array (item : Json) (items : List Json) :
    chars layout level (.array (item :: items)) = '[' :: (layout.lineBreak (level + 1) ++
      (chars layout (level + 1) item ++
        (listed (chars layout (level + 1)) (layout.lineBreak (level + 1)) items ++
          (layout.lineBreak level ++ [']'])))) := by
  simp [chars, itemChars_eq]

theorem chars_object (member : String × Json) (members : List (String × Json)) :
    chars layout level (.object (member :: members)) = '\x7b' :: (layout.lineBreak (level + 1) ++
      (memberText layout (level + 1) member ++
        (listed (memberText layout (level + 1)) (layout.lineBreak (level + 1)) members ++
          (layout.lineBreak level ++ ['}'])))) := by
  simp [chars, memberChars_eq, memberText]

/-! ## Main result -/

/-- The characters that are punctuation where a value may stand. -/
def punctuation : List Char :=
  ['"', '[', '\x7b', ']', '}']

theorem NumberText.start {text : String} (h : NumberText text) :
    ∃ c cs, text.toList = c :: cs ∧ isSpace c = false ∧ c ∉ punctuation := by
  cases h with
  | notANumber => exact ⟨_, _, rfl, by decide⟩
  | infinity => exact ⟨_, _, rfl, by decide⟩
  | minusInfinity => exact ⟨_, _, rfl, by decide⟩
  | spelling p =>
    obtain ⟨d, ds, hd, hds⟩ := p.unsignedChars_eq_cons
    have other {c : Char} (hc : c.isDigit = false) : d ≠ c := by
      rintro rfl
      rw [hc] at hd
      cases hd
    rw [String.toList_ofList]
    unfold Spelling.chars
    rw [hds]
    split
    · exact ⟨'-', _, rfl, by decide⟩
    · refine ⟨d, _, rfl, ?_, ?_⟩
      · simp [isSpace, other]
      · simp [punctuation, other]

/-- The number of characters of an item is at most that of a list in which it occurs. -/
theorem length_le_listed {β : Type} (text : β → List Char) (gap : List Char) {y x : β}
    {xs : List β} (hy : y ∈ x :: xs) :
    (text y).length ≤ (text x ++ listed text gap xs).length := by
  rcases List.mem_cons.1 hy with rfl | hy
  · simp
  · have hsub := (List.sublist_flatten_of_mem (List.mem_map_of_mem
      (f := fun x => ',' :: (gap ++ text x)) hy)).length_le
    rw [List.length_append, listed, List.flatMap_def]
    simp only [List.length_cons, List.length_append] at hsub
    omega

theorem length_le_length_listed {β : Type} (text : β → List Char) (gap : List Char) (xs : List β) :
    xs.length ≤ (listed text gap xs).length := by
  induction xs with
  | nil => exact Nat.le_refl 0
  | cons x xs ih =>
    rw [listed, List.flatMap_cons, ← listed, List.length_append, List.length_cons, List.length_cons]
    omega

theorem opens_chars {v : Json} (h : Legible v) : Opens (chars layout level v) := by
  cases h with
  | null => exact ⟨'n', rfl, by decide⟩
  | bool b => cases b with
    | true => exact ⟨'t', rfl, by decide⟩
    | false => exact ⟨'f', rfl, by decide⟩
  | number h =>
    obtain ⟨c, cs, hcs, hspace, hc⟩ := h.start
    rw [chars, hcs]
    refine ⟨c, rfl, hspace, ?_, ?_⟩
    · rintro rfl
      exact hc (by decide)
    · rintro rfl
      exact hc (by decide)
  | string s => exact ⟨'"', rfl, by decide⟩
  | @array items h =>
    cases items with
    | nil => exact ⟨'[', rfl, by decide⟩
    | cons item items => exact ⟨'[', by rw [chars_array]; rfl, by decide⟩
  | @object members distinct h =>
    cases members with
    | nil => exact ⟨'\x7b', rfl, by decide⟩
    | cons member members => exact ⟨'\x7b', by rw [chars_object]; rfl, by decide⟩

/-- The bounds of a reader leave room for a text of so many characters. -/
structure Room (limits : Limits) (fuel depth length : Nat) : Prop where
  digits : length ≤ limits.digits
  items : length ≤ fuel
  containers : length ≤ depth

theorem opens_memberText (member : String × Json) : Opens (memberText layout level member) :=
  ⟨'"', rfl, by decide⟩

theorem readMember_memberText {layout : Layout} {level : Nat} {value : List Char → Step Json}
    {member : String × Json} {rest : List Char} (hopens : Opens (chars layout level member.2))
    (hvalue : value (chars layout level member.2 ++ rest) = some (member.2, rest)) :
    readMember value (memberText layout level member ++ rest) = some (member, rest) := by
  have text : memberText layout level member ++ rest = '"' :: (member.1.toList.flatMap escapeChar ++
      '"' :: (':' :: ' ' :: (chars layout level member.2 ++ rest))) := by
    simp [memberText, stringChars]
  have colon : skipSpace (':' :: ' ' :: (chars layout level member.2 ++ rest)) =
      ':' :: ' ' :: (chars layout level member.2 ++ rest) := rfl
  have blank : skipSpace (' ' :: (chars layout level member.2 ++ rest)) =
      chars layout level member.2 ++ rest :=
    skipSpace_append [' '] (List.forall_mem_singleton.2 rfl) (hopens.stops rest)
  rw [text, readMember, readString_escaped]
  simp only [colon, blank, hvalue, Option.map_some]

/-- Values without content are read alike at every depth. -/
theorem readValue_eq (limits : Limits) (fuel depth : Nat) :
    ∃ inner, readValue limits fuel depth = readWith limits fuel inner := by
  cases depth with
  | zero => exact ⟨_, rfl⟩
  | succ depth => exact ⟨_, rfl⟩

section Room

variable {limits : Limits} {fuel depth : Nat}

/-- In a container there is room for one container less. -/
theorem Room.inside {length : Nat} (h : Room limits fuel depth (length + 1)) :
    ∃ d, depth = d + 1 ∧ Room limits fuel d length := by
  obtain ⟨digits, items, containers⟩ := h
  exact ⟨depth - 1, by omega, by omega, by omega, by omega⟩

theorem Room.mono {m n : Nat} (h : Room limits fuel depth n) (hle : m ≤ n) :
    Room limits fuel depth m :=
  ⟨Nat.le_trans hle h.digits, Nat.le_trans hle h.items, Nat.le_trans hle h.containers⟩

variable {β : Type} {text : β → List Char} {gap tail : List Char} {x y : β} {xs : List β}

theorem Room.length_lt (htail : tail ≠ [])
    (h : Room limits fuel depth (gap ++ (text x ++ (listed text gap xs ++ tail))).length) :
    xs.length < fuel := by
  have count := length_le_length_listed text gap xs
  have bound := h.items
  have := List.length_pos_iff.2 htail
  simp only [List.length_append] at bound
  omega

theorem Room.item (hy : y ∈ x :: xs)
    (h : Room limits fuel depth (gap ++ (text x ++ (listed text gap xs ++ tail))).length) :
    Room limits fuel depth (text y).length := by
  refine h.mono ?_
  have := length_le_listed text gap hy
  simp only [List.length_append] at this ⊢
  omega

end Room

theorem readValue_chars {v : Json} (h : Legible v) {limits : Limits} {fuel depth : Nat}
    (hroom : Room limits fuel depth (chars layout level v).length) {rest : List Char}
    (hrest : Delimited rest) :
    readValue limits fuel depth (chars layout level v ++ rest) = some (v, rest) := by
  obtain ⟨inner, hinner⟩ := readValue_eq limits fuel depth
  induction h generalizing level depth rest inner with
  | null =>
    rw [hinner, chars]
    exact readWith_scalar (by decide)
  | bool b =>
    rw [hinner]
    cases b with
    | true => exact readWith_scalar (by decide)
    | false => exact readWith_scalar (by decide)
  | @number text h =>
    obtain ⟨c, cs, hcs, -, hc⟩ := h.start
    have plain : c ∉ ['"', '[', '\x7b'] := fun h => hc (List.mem_append_left [']', '}'] h)
    have scalar := readScalar_number h hroom.digits hrest
    rw [hinner, chars]
    rw [hcs, List.cons_append] at scalar ⊢
    rw [readWith_scalar plain, scalar]
  | string s =>
    have text : chars layout level (.string s) ++ rest =
        '"' :: (s.toList.flatMap escapeChar ++ '"' :: rest) := by
      simp [chars, stringChars]
    rw [hinner, text, readWith, readString_escaped, Option.map_some]
  | @array items h ih =>
    cases items with
    | nil =>
      rw [hinner]
      rfl
    | cons item items =>
      rw [chars_array] at hroom ⊢
      obtain ⟨depth, rfl, room⟩ := hroom.inside
      simp only [List.cons_append, List.append_assoc, List.nil_append]
      refine readWith_array (isSpace_lineBreak layout (level + 1)) (isSpace_lineBreak layout level)
        (room.length_lt (by simp)) (fun v hv => opens_chars layout (level + 1) (h v hv))
        (fun v hv rest hrest => ?_) rest
      obtain ⟨inner, hinner⟩ := readValue_eq limits fuel depth
      exact ih v hv (level + 1) (room.item hv) hrest inner hinner
  | @object members distinct h ih =>
    cases members with
    | nil =>
      rw [hinner]
      rfl
    | cons member members =>
      rw [chars_object] at hroom ⊢
      obtain ⟨depth, rfl, room⟩ := hroom.inside
      simp only [List.cons_append, List.append_assoc, List.nil_append]
      rw [← ofMembers_eq distinct]
      refine readWith_object (isSpace_lineBreak layout (level + 1)) (isSpace_lineBreak layout level)
        (room.length_lt (by simp)) (fun m _ => opens_memberText layout (level + 1) m)
        (fun m hm rest hrest => ?_) rest
      obtain ⟨inner, hinner⟩ := readValue_eq limits fuel depth
      refine readMember_memberText (opens_chars layout (level + 1) (h m hm))
        (ih m hm (level + 1) ((room.item hm).mono ?_) hrest inner hinner)
      simp [memberText]
      omega

/-- A legible value is read back from its text, also with blanks behind it. -/
theorem readAll_write {v : Json} (h : Legible v) {blanks : String}
    (hblanks : ∀ c ∈ blanks.toList, isSpace c) :
    readAll (v.write layout ++ blanks) = some v := by
  have start : skipSpace (v.write layout ++ blanks).toList =
      chars layout 0 v ++ blanks.toList := by
    rw [String.toList_append, write, String.toList_ofList]
    exact skipSpace_of_stops ((opens_chars layout 0 h).stops _)
  have done : skipSpace blanks.toList = [] := by
    rw [← List.append_nil blanks.toList]
    exact skipSpace_append _ hblanks fun _ h => nomatch h
  have length : (chars layout 0 v).length ≤ (v.write layout ++ blanks).length := by
    rw [← String.length_toList, String.toList_append, write, String.toList_ofList,
      List.length_append]
    omega
  have delimited : Delimited blanks.toList := by
    rw [← List.append_nil blanks.toList]
    exact delimited_append hblanks fun _ h => nomatch h
  rw [readAll, read, start, readValue_chars layout 0 h ⟨length, length, length⟩ delimited]
  simp [done]

end RobotTelemetry.Json
