import Mathlib.Data.List.Nodup
import RobotTelemetry.Dump.Basic
/-!
# Command lines with attached values

A command line can be written so that every value stands behind its option and an equals sign
(`Choice.word`), in any order, with the file among the options. Two dashes are the one value that
cannot be given in this way. Every other command line of this kind is read as what its choices come
to (`read_choiceWords`), so that a configuration in words is prepared as it is
(`prepare_choiceWords`).
-/

namespace RobotTelemetry.Dump

/-! ## Telling words apart -/

theorem splitAtEquals_append {name : List Char} (h : '=' ∉ name) (value : List Char) :
    splitAtEquals (name ++ '=' :: value) = (name, some value) := by
  have plain : ∀ c ∈ name, decide (c ≠ '=') = true := fun c hc =>
    decide_eq_true fun e => h (e ▸ hc)
  rw [splitAtEquals, List.dropWhile_append_of_pos plain, List.takeWhile_append_of_pos plain]
  simp

namespace Flag

theorem equals_notMem_name (flag : Flag) : '=' ∉ flag.name.toList := by
  cases flag <;> decide +kernel

theorem find?_name (flag : Flag) :
    all.find? (fun other => other.name.toList = flag.name.toList) = some flag := by
  cases flag <;> decide +kernel

theorem exists_name_eq (flag : Flag) : ∃ rest, flag.name.toList = '-' :: '-' :: rest := by
  cases flag <;> exact ⟨_, rfl⟩

end Flag

theorem longFlag_attached (flag : Flag) (value : String) (otherwise : Token) :
    longFlag (flag.name.toList ++ '=' :: value.toList) otherwise =
      .ok (.flag flag (some value)) := by
  simp only [longFlag, splitAtEquals_append flag.equals_notMem_name, flag.find?_name]
  simp

theorem Token.ofWord_attached (flag : Flag) (value : String) :
    ofWord (flag.name ++ "=" ++ value) = .ok (.flag flag (some value)) := by
  have chars : (flag.name ++ "=" ++ value).toList = flag.name.toList ++ '=' :: value.toList := by
    simp [String.toList_append]
  obtain ⟨rest, hrest⟩ := flag.exists_name_eq
  have long := fun otherwise => longFlag_attached flag value otherwise
  rw [hrest] at long
  rw [ofWord, chars, hrest]
  exact long _

/-! ## Choices -/

/-- An option with what is given for it. A skew comes with the numeral that it stands for. -/
inductive Choice where
  | text
  | skew (seconds : String) (numeral : Decimal.Numeral)
  | robotName (name : String)
  | anchor (anchor : Anchor)
  | inverseTarget (frame : String)
deriving DecidableEq

namespace Choice

def flag : Choice → Flag
  | text => .text
  | skew _ _ => .skew
  | robotName _ => .robotName
  | anchor _ => .anchor
  | inverseTarget _ => .inverseTarget

def value? : Choice → Option String
  | text => none
  | skew seconds _ => some seconds
  | robotName name => some name
  | anchor a => some a.frame
  | inverseTarget frame => some frame

/-- The word that makes a choice. -/
def word (c : Choice) : String :=
  match c.value? with
  | none => c.flag.name
  | some value => c.flag.name ++ "=" ++ value

/-- The word is read as the choice it makes. -/
def Readable : Choice → Prop
  | text | anchor _ => True
  | skew seconds numeral => Decimal.read seconds = some numeral
  | robotName name => name ≠ "--"
  | inverseTarget frame => frame ≠ "--"

/-- What has been read, with a choice made on top of it. -/
def apply (p : Progress) : Choice → Progress
  | text => { p with asText := true }
  | skew _ numeral => { p with skew := .value numeral }
  | robotName name => { p with robotName := .value name }
  | anchor a => { p with anchor := .value a }
  | inverseTarget frame => { p with inverseTarget := some (.value frame) }

theorem ofWord_word (c : Choice) : Token.ofWord c.word = .ok (.flag c.flag c.value?) := by
  cases c with
  | text => rfl
  | skew | robotName | anchor | inverseTarget => exact Token.ofWord_attached _ _

theorem word_ne_mark (c : Choice) : c.word ≠ "--" := by
  intro h
  have read := c.ofWord_word
  rw [h] at read
  cases read

theorem tokens_append (cs : List Choice) (words : List String) :
    tokens (cs.map word ++ words) =
      (tokens words).map (cs.map (fun c => Token.flag c.flag c.value?) ++ ·) := by
  induction cs with
  | nil => cases h : tokens words <;> simp [h, Except.map]
  | cons c cs ih =>
    rw [List.map_cons, List.cons_append, tokens, if_neg c.word_ne_mark, c.ofWord_word]
    show Except.map _ (tokens (cs.map word ++ words)) = _
    rw [ih]
    cases tokens words <;> rfl

/-! ### Reading choices -/

theorem setAttached_of_ne {flag : Flag} (hf : flag.takesValue = true) {value : String}
    (hv : value ≠ "--") (p : Progress) : p.setAttached flag value = p.set flag value := by
  rw [Progress.setAttached, if_pos hf, if_neg hv]

theorem set_skew {seconds : String} {numeral : Decimal.Numeral}
    (h : Decimal.read seconds = some numeral) (p : Progress) :
    p.set .skew seconds = .ok { p with skew := .value numeral } := by
  rw [Progress.set.eq_def]
  simp only [h]

theorem set_anchor (a : Anchor) (p : Progress) :
    p.set .anchor a.frame = .ok { p with anchor := .value a } := by
  rw [Progress.set.eq_def]
  simp only [Anchor.ofFrame?_frame]

theorem read_choice {p : Progress} (h : p.awaiting = none) {c : Choice} (hc : c.Readable) :
    p.read (.flag c.flag c.value?) = .ok (apply { p with justNamed := false } c) := by
  obtain ⟨file, asText, skew, robotName, anchor, inverseTarget, indent, leftOver, awaiting,
    justNamed⟩ := p
  obtain rfl : awaiting = none := h
  cases c with
  | text => rfl
  | skew seconds numeral =>
    have hread : Decimal.read seconds = some numeral := hc
    have hne : seconds ≠ "--" := by
      have unread : Decimal.read "--" = none := by decide +kernel
      rintro rfl
      rw [unread] at hread
      cases hread
    exact (setAttached_of_ne rfl hne _).trans (set_skew hread _)
  | robotName name => exact setAttached_of_ne rfl hc _
  | anchor a =>
    have hne : a.frame ≠ "--" := by cases a <;> decide
    exact (setAttached_of_ne rfl hne _).trans (set_anchor a _)
  | inverseTarget frame => exact setAttached_of_ne rfl hc _

/-- Choices touch neither the name of the file nor the mark of its naming. -/
theorem foldl_apply_named (cs : List Choice) (p : Progress) (file : Option String) (b : Bool) :
    cs.foldl apply { p with file, justNamed := b } =
      { cs.foldl apply p with file, justNamed := b } :=
  List.foldl_hom (fun q : Progress => { q with file, justNamed := b }) fun _ c => by cases c <;> rfl

theorem file_foldl (cs : List Choice) (p : Progress) : (cs.foldl apply p).file = p.file :=
  (congrArg Progress.file (foldl_apply_named cs p p.file p.justNamed) :)

theorem awaiting_foldl (cs : List Choice) (p : Progress) :
    (cs.foldl apply p).awaiting = p.awaiting := by
  induction cs generalizing p with
  | nil => rfl
  | cons c cs ih =>
    rw [List.foldl_cons, ih]
    cases c <;> rfl

/-- Readable choices are made one after another. -/
theorem foldlM_read {cs : List Choice} (hcs : ∀ c ∈ cs, c.Readable) {p : Progress}
    (h : p.awaiting = none) :
    ∃ b, (cs.map fun c => Token.flag c.flag c.value?).foldlM Progress.read p =
      .ok { cs.foldl apply p with justNamed := b } := by
  induction cs generalizing p with
  | nil => exact ⟨p.justNamed, rfl⟩
  | cons c cs ih =>
    rw [List.forall_mem_cons] at hcs
    have next : (apply { p with justNamed := false } c).awaiting = none :=
      (awaiting_foldl [c] _).trans h
    obtain ⟨b, hb⟩ := ih hcs.2 next
    refine ⟨b, ?_⟩
    rw [List.map_cons, List.foldlM_cons, read_choice h hcs.1]
    refine hb.trans ?_
    rw [← List.foldl_cons, foldl_apply_named (c :: cs) p p.file false, ← file_foldl (c :: cs) p]

/-! ### The order of choices -/

theorem apply_comm {c d : Choice} (h : c.flag ≠ d.flag) (p : Progress) :
    apply (apply p c) d = apply (apply p d) c := by
  cases c <;> cases d <;> first | rfl | exact absurd rfl h

/-- Choices for different options come to the same in every order. -/
theorem foldl_apply_perm {cs ds : List Choice} (hp : cs.Perm ds) (hd : (ds.map flag).Nodup)
    (p : Progress) : cs.foldl apply p = ds.foldl apply p := by
  refine hp.foldl_eq' (fun c hc d hd' q => ?_) p
  by_cases h : c.flag = d.flag
  · rw [List.inj_on_of_nodup_map hd (hp.subset hc) (hp.subset hd') h]
  · exact apply_comm h q

end Choice

/-! ## Whole command lines -/

/-- The words that name a file. A mark keeps a file with a leading dash from being taken for an
option. -/
def fileWords (path : String) : List String :=
  if path.toList.head? = some '-' then ["--", path] else [path]

/-- The words of choices with a file among them. Nothing but the file may follow the mark. -/
def choiceWords (before : List Choice) (path : String) (behind : List Choice) : List String :=
  before.map Choice.word ++ (fileWords path ++ behind.map Choice.word)

theorem ofWord_of_head {word : String} (h : word.toList.head? ≠ some '-') :
    Token.ofWord word = .ok (.plain word) := by
  rw [Token.ofWord]
  split <;> simp_all

/-- The file is named among choices, or at the end behind the mark. -/
theorem tokens_fileWords {path : String} {behind : List Choice}
    (h : path.toList.head? = some '-' → behind = []) :
    tokens (fileWords path ++ behind.map Choice.word) =
      .ok ((if path.toList.head? = some '-' then [.endOfOptions] else []) ++
        .plain path :: behind.map fun c => Token.flag c.flag c.value?) := by
  by_cases hd : path.toList.head? = some '-'
  · obtain rfl := h hd
    rw [fileWords, if_pos hd, if_pos hd]
    rfl
  · have hne : path ≠ "--" := by
      rintro rfl
      exact hd (by decide +kernel)
    have flags := Choice.tokens_append behind []
    rw [List.append_nil] at flags
    rw [fileWords, if_neg hd, if_neg hd, List.singleton_append, tokens, if_neg hne,
      ofWord_of_head hd, flags, tokens, List.nil_append]
    simp [Except.map]

theorem read_file {p : Progress} (idle : p.awaiting = none) (unnamed : p.file = none)
    (path : String) :
    ((if path.toList.head? = some '-' then [Token.endOfOptions] else []) ++
      [Token.plain path]).foldlM Progress.read p =
      .ok { p with file := some path, justNamed := true } := by
  obtain ⟨file, asText, skew, robotName, anchor, inverseTarget, indent, leftOver, awaiting,
    justNamed⟩ := p
  obtain rfl : awaiting = none := idle
  obtain rfl : file = none := unnamed
  split <;> rfl

/-- A command line of readable choices and a file is read as what the choices come to. -/
theorem read_choiceWords {before behind : List Choice} (hc : ∀ c ∈ before ++ behind, c.Readable)
    {path : String} (h : path.toList.head? = some '-' → behind = []) :
    ∃ b, Arguments.read (choiceWords before path behind) =
      ({ (before ++ behind).foldl Choice.apply {} with
          file := some path, justNamed := b } : Progress).finish := by
  have readBefore : ∀ c ∈ before, c.Readable := fun c m => hc c (List.mem_append_left _ m)
  have readBehind : ∀ c ∈ behind, c.Readable := fun c m => hc c (List.mem_append_right _ m)
  -- What is read before the file is named, then with the file, then behind it.
  obtain ⟨b, hb⟩ := Choice.foldlM_read readBefore (p := {}) rfl
  generalize hq : before.foldl Choice.apply {} = q at hb
  have idle : q.awaiting = none := hq ▸ Choice.awaiting_foldl before {}
  have unnamed : q.file = none := hq ▸ Choice.file_foldl before {}
  have named := read_file (p := { q with justNamed := b }) idle unnamed path
  obtain ⟨b', hb'⟩ := Choice.foldlM_read readBehind
    (p := { q with file := some path, justNamed := true }) idle
  refine ⟨b', ?_⟩
  rw [Arguments.read, choiceWords, Choice.tokens_append, tokens_fileWords h]
  show (List.foldlM Progress.read {} (_ ++ _) >>= Progress.finish) = _
  rw [List.append_cons, List.foldlM_append, hb]
  show (List.foldlM Progress.read { q with justNamed := b } (_ ++ _) >>= Progress.finish) = _
  rw [List.foldlM_append, named]
  show (List.foldlM Progress.read { q with file := some path, justNamed := true } _ >>=
    Progress.finish) = _
  rw [hb', Choice.foldl_apply_named, List.foldl_append, hq]
  rfl

/-! ## Configurations on the command line -/

/-- The choices that give a configuration, a skew and the form of the file. An inverse target is
left out when there is none. -/
def choices (config : Config) (seconds : String) (numeral : Decimal.Numeral) (asText : Bool) :
    List Choice :=
  (if asText then [.text] else []) ++ .skew seconds numeral :: .robotName config.robotName ::
    .anchor config.anchor :: (config.inverseTarget.map .inverseTarget).toList

/-- The arguments of a file, a skew and a configuration. -/
def given (path : String) (asText : Bool) (numeral : Decimal.Numeral) (config : Config) :
    Arguments where
  file := path
  asText := asText
  skew := .value numeral
  robotName := .value config.robotName
  anchor := .value config.anchor
  inverseTarget := config.inverseTarget.map .value
  indent := .value 2

section Choices

variable {config : Config} {seconds : String} {numeral : Decimal.Numeral}

theorem nodup_flag_choices (asText : Bool) :
    ((choices config seconds numeral asText).map Choice.flag).Nodup := by
  rw [choices]
  cases asText <;> cases config.inverseTarget <;> simp [Choice.flag]

theorem readable_choices (hread : Decimal.read seconds = some numeral)
    (hname : config.robotName ≠ "--") (htarget : config.inverseTarget ≠ some "--")
    (asText : Bool) : ∀ c ∈ choices config seconds numeral asText, c.Readable := by
  simp only [choices, List.forall_mem_append, List.forall_mem_cons]
  refine ⟨?_, hread, hname, trivial, fun c hc => ?_⟩
  · cases asText <;> simp [Choice.Readable]
  · obtain ⟨frame, hframe, rfl⟩ : ∃ frame, config.inverseTarget = some frame ∧
        Choice.inverseTarget frame = c := by simpa using hc
    exact fun e => htarget (by rw [hframe, e])

theorem finish_choices (path : String) (asText b : Bool) :
    ({ (choices config seconds numeral asText).foldl Choice.apply {} with
        file := some path, justNamed := b } : Progress).finish =
      .ok (given path asText numeral config) := by
  rw [choices, given]
  cases asText <;> cases config.inverseTarget <;> rfl

/-- What is given for a configuration makes up this configuration. -/
theorem config_given (path : String) (asText : Bool) (numeral : Decimal.Numeral) :
    (given path asText numeral config).config = .ok config := by
  obtain ⟨robotName, anchor, inverseTarget, plain, invertible⟩ := config
  let a := given path asText numeral ⟨robotName, anchor, inverseTarget, plain, invertible⟩
  have name : Config.readField a.members .robotName ⟨"", plainName_empty⟩ Config.readName =
      .ok ⟨robotName, plain⟩ := dif_pos plain
  have frame : Config.readField a.members .anchor .standard Config.readAnchor = .ok anchor := by
    show Config.readAnchor (.string anchor.frame) = _
    rw [Config.readAnchor, Anchor.ofFrame?_frame]
  have target : Config.readField a.members .inverseTarget ⟨none, invertibleTarget_none⟩
      Config.readTarget = .ok ⟨inverseTarget, invertible⟩ := by
    cases inverseTarget with
    | none => rfl
    | some t =>
      obtain ⟨unqualified, below⟩ := invertible t rfl
      exact (dif_pos unqualified).trans (dif_neg below)
  have stray : Config.strayMembers a.members = [] := rfl
  show (Config.ofMembers a.members).mapError _ = _
  rw [Config.ofMembers, name, frame, target, stray]
  rfl

/-- A configuration can be given on the command line, in every order, unless a name is two
dashes. -/
theorem prepare_choiceWords (hread : Decimal.read seconds = some numeral)
    (hname : config.robotName ≠ "--") (htarget : config.inverseTarget ≠ some "--")
    {asText : Bool} {before behind : List Choice}
    (hp : (before ++ behind).Perm (choices config seconds numeral asText))
    {path : String} (h : path.toList.head? = some '-' → behind = []) :
    prepare (choiceWords before path behind) =
      .ok ⟨given path asText numeral config, config⟩ := by
  have readable : ∀ c ∈ before ++ behind, c.Readable := fun c hc =>
    readable_choices hread hname htarget asText c (hp.subset hc)
  obtain ⟨b, hb⟩ := read_choiceWords readable h
  rw [Choice.foldl_apply_perm hp (nodup_flag_choices asText), finish_choices] at hb
  rw [prepare, hb]
  show ((given path asText numeral config).config >>= _) = _
  rw [config_given]
  rfl

end Choices

end RobotTelemetry.Dump
