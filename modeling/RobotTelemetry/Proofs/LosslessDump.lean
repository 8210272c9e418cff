import RobotTelemetry.Proofs.ExitCodes
import RobotTelemetry.Proofs.Presence
import RobotTelemetry.Proofs.StateTexts
/-!
# The dump loses nothing

Whatever the indentation, the text of a robot state is read back as the object that was written
(`readAll_write_toJson`), in which exactly the missing facets are null, and two robot states with
one text are equal (`eq_of_write_eq`). A run that reaches a robot state writes it unless the
indentation is past a machine word (`Reaches.writes_iff`), and two runs with one output have reached
the same robot state (`Reaches.eq_of_output_eq`). The main result is `output_lossless`.
-/

namespace RobotTelemetry

/-! ## Robot states and their texts -/

namespace RobotState

theorem member?_toJson {β : Type} (state : RobotState β) (number : Component β → Json) (f : Facet) :
    (state.toJson number).member? f.name = some (state.facetJson number f) := by
  cases f <;> rfl

theorem member?_eq_null_iff {β : Type} (state : RobotState β) (number : Component β → Json)
    (f : Facet) : (state.toJson number).member? f.name = some .null ↔ state.has f = false := by
  have null (v : Json) : v = .null ↔ v.isNull = true := by cases v <;> simp [Json.isNull]
  rw [member?_toJson, Option.some.injEq, null, isNull_facetJson, Bool.not_eq_true']

end RobotState

namespace Dump

open RobotState

variable {host host' : Host} {words words' : List String} {a a' : Arguments}
  {ending ending' : Ending} {state state' : RobotState Float}

/-- Robot states are written faithfully. -/
theorem faithful_state : Json.Faithful fun state : RobotState Float => state.toJson componentJson :=
  faithful_toJson Json.faithful_componentJson

theorem readAll_write_toJson (layout : Json.Layout) (state : RobotState Float) :
    Json.readAll ((state.toJson componentJson).write layout) =
      some (state.toJson componentJson) := by
  have legible := faithful_state.legible state
  have none : ∀ c ∈ "".toList, Json.isSpace c := by simp
  have read := Json.readAll_write layout legible none
  rwa [String.append_empty] at read

theorem eq_of_write_eq {layout layout' : Json.Layout}
    (h : (state.toJson componentJson).write layout = (state'.toJson componentJson).write layout') :
    state = state' := by
  have read := readAll_write_toJson layout state
  rw [h, readAll_write_toJson] at read
  exact faithful_state.injective (Option.some.inj read).symm

/-- The output of a run is read back up to the end of its last line. -/
theorem readAll_stateText (indent : Nat) (state : RobotState Float) :
    Json.readAll (stateText indent state ++ "\n") = some (state.toJson componentJson) := by
  have legible := faithful_state.legible state
  have newline : ∀ c ∈ "\n".toList, Json.isSpace c := List.forall_mem_singleton.2 rfl
  exact Json.readAll_write _ legible newline

/-! ## Runs -/

/-- A run gets as far as a robot state. -/
inductive Reaches (host : Host) (words : List String) (a : Arguments) (state : RobotState Float) :
    Prop
  | mk {config : Config} {s : Snapshot Float} {skew : Duration} :
      Arguments.read words = .ok a → a.Accepted config → Opens host a (.ok (.ok s)) →
      skewOf a.skew = .ok skew → (s.toState skew config.options).outcome = .ok state →
      Reaches host words a state

theorem indentation_eq_ok_iff {n : Int} {indent : Nat} : indentation (.value n) = .ok indent ↔
    -0x8000000000000000 ≤ n ∧ n < 0x8000000000000000 ∧ indent = n.toNat := by
  dsimp only [indentation]
  split_ifs with range
  · simp only [false_iff]
    omega
  · rw [Except.ok.injEq]
    omega

namespace Reaches

theorem runOn_eq (h : Reaches host words a state) : ∃ log, runOn host words =
    (indentation a.indent).map fun indent => .written indent state log := by
  obtain ⟨read, accepted, opens, skew, outcome⟩ := h
  exact ⟨_, runOn_of_course read (.state accepted opens skew outcome)⟩

theorem exists_written (h : Reaches host words a state) (he : runOn host words = .ok ending) :
    ∃ indent log, ending = .written indent state log := by
  obtain ⟨log, run⟩ := h.runOn_eq
  rw [run] at he
  cases hi : indentation a.indent with
  | error b =>
    rw [hi] at he
    cases he
  | ok indent =>
    rw [hi] at he
    exact ⟨indent, log, (Except.ok.inj he).symm⟩

/-- A robot state is written exactly if the indentation can be made. -/
theorem writes_iff (h : Reaches host words a state) {n : Int} (hn : a.indent = .value n) :
    (∃ ending, runOn host words = .ok ending) ↔
      -0x8000000000000000 ≤ n ∧ n < 0x8000000000000000 := by
  obtain ⟨log, run⟩ := h.runOn_eq
  rw [hn] at run
  constructor
  · rintro ⟨ending, he⟩
    cases hi : indentation (.value n) with
    | error b =>
      rw [run, hi] at he
      cases he
    | ok indent =>
      have bounds := indentation_eq_ok_iff.1 hi
      exact ⟨bounds.1, bounds.2.1⟩
  · rintro ⟨low, high⟩
    rw [run, indentation_eq_ok_iff.2 ⟨low, high, rfl⟩]
    exact ⟨_, rfl⟩

theorem read_output (h : Reaches host words a state) (he : runOn host words = .ok ending) :
    ending.code = 0 ∧ Json.readAll ending.output = some (state.toJson componentJson) := by
  obtain ⟨indent, log, rfl⟩ := h.exists_written he
  exact ⟨rfl, readAll_stateText indent state⟩

theorem eq_of_output_eq (h : Reaches host words a state) (h' : Reaches host' words' a' state')
    (he : runOn host words = .ok ending) (he' : runOn host' words' = .ok ending')
    (same : ending.output = ending'.output) : state = state' := by
  have read := (h.read_output he).2
  rw [same, (h'.read_output he').2] at read
  exact faithful_state.injective (Option.some.inj read).symm

end Reaches

/-! ## Main result -/

/-- Numbers are told from their texts, and robot states from theirs, whatever the indentation: the
text is read back as the object that was written, and exactly the missing facets are null in it. A
run that reaches a robot state ends with such a text for every indentation within a machine word, and
so two runs with one output have reached the same robot state. -/
theorem output_lossless :
    (∀ c : Component Float, (componentJson c).toComponent? = some c) ∧
    (∀ (state : RobotState Float) (layout : Json.Layout),
      Json.readAll ((state.toJson componentJson).write layout) =
        some (state.toJson componentJson)) ∧
    (∀ (state : RobotState Float) (f : Facet),
      (state.toJson componentJson).member? f.name = some .null ↔ state.has f = false) ∧
    (∀ (state state' : RobotState Float) (layout layout' : Json.Layout),
      (state.toJson componentJson).write layout = (state'.toJson componentJson).write layout' →
      state = state') ∧
    (∀ host words a state n, Reaches host words a state → a.indent = .value n →
      ((∃ ending, runOn host words = .ok ending) ↔
        -0x8000000000000000 ≤ n ∧ n < 0x8000000000000000)) ∧
    (∀ host words a state ending, Reaches host words a state → runOn host words = .ok ending →
      ending.code = 0 ∧ Json.readAll ending.output = some (state.toJson componentJson)) ∧
    ∀ host host' words words' a a' state state' ending ending',
      Reaches host words a state → Reaches host' words' a' state' →
      runOn host words = .ok ending → runOn host' words' = .ok ending' →
      ending.output = ending'.output → state = state' := by
  refine ⟨Json.toComponent?_componentJson, fun state layout => readAll_write_toJson layout state,
    fun state f => member?_eq_null_iff state componentJson f, fun _ _ _ _ => eq_of_write_eq,
    ?_, ?_, ?_⟩
  · intro host words a state n h hn
    exact h.writes_iff hn
  · intro host words a state ending h he
    exact h.read_output he
  · intro host host' words words' a a' state state' ending ending' h h' he he' same
    exact h.eq_of_output_eq h' he he' same

/-- An emergency stop that reports nothing, in a text with two lines. -/
def stoppedText : List UInt8 :=
  "estop_states \x7b\r\n\x7d\r\n".toList.map fun c => .ofNat c.toNat

/-- The text is known to the decoder by its lines, whichever characters end them. -/
def stoppedHost : Host where
  decoder := .binary (fun text =>
    if text = "estop_states \x7b\n\x7d\n" then .ok { estops := [.unset] }
    else .error "unknown text") "malformed"
  disk _ := .content stoppedText

/-- The emergency stop, written without indentation, is read back from the output. -/
theorem stopped_output_read : ∃ a state ending,
    Reaches stoppedHost ["state.txt", "--text", "--indent=-1"] a state ∧
      state.has .estops = true ∧
      runOn stoppedHost ["state.txt", "--text", "--indent=-1"] = .ok ending ∧
      Json.readAll ending.output = some (state.toJson componentJson) := by
  let a : Arguments := ⟨"state.txt", true, .value (.finite false 0 0), .value "", .value .standard,
    none, .value (-1)⟩
  let s : Snapshot Float := { estops := [.unset] }
  have read : Arguments.read ["state.txt", "--text", "--indent=-1"] = .ok a := rfl
  have accepted : a.Accepted ⟨"", .standard, none, plainName_empty, invertibleTarget_none⟩ := rfl
  have plain : '\x00' ∉ a.file.toList := by decide +kernel
  have lines : textOf stoppedText = .ok "estop_states \x7b\n\x7d\n" := by decide +kernel
  have known : stoppedHost.decoder.text "estop_states \x7b\n\x7d\n" = .ok s := rfl
  have opens : Opens stoppedHost a (.ok (.ok s)) := .snapshot_of_text plain rfl rfl lines known
  have skew : skewOf a.skew = .ok {} := by decide +kernel
  obtain ⟨state, outcome⟩ : ∃ state, (s.toState {} {}).outcome = .ok state := ⟨_, rfl⟩
  have reaches : Reaches stoppedHost ["state.txt", "--text", "--indent=-1"] a state :=
    .mk read accepted opens skew outcome
  have present : state.has .estops = true :=
    ((toState_mirrors outcome).has_iff .estops).2 (List.cons_ne_nil _ _)
  obtain ⟨-, -, -, -, writes, output, -⟩ := output_lossless
  obtain ⟨ending, run⟩ := (writes _ _ _ _ (-1) reaches rfl).2 (by decide)
  exact ⟨a, state, ending, reaches, present, run, (output _ _ _ _ _ reaches run).2⟩

/-- A robot state is reached, but it is not written with an indentation below the least machine
word. -/
theorem indent_past_word_breaks_off : ∃ a state,
    Reaches (.ofBytes []) ["state.pb", "--indent=-9223372036854775809"] a state ∧
      a.indent = .value (-9223372036854775809) ∧
      runOn (.ofBytes []) ["state.pb", "--indent=-9223372036854775809"] = .error .indentRange := by
  let a : Arguments := ⟨"state.pb", false, .value (.finite false 0 0), .value "", .value .standard,
    none, .value (-9223372036854775809)⟩
  have read : Arguments.read ["state.pb", "--indent=-9223372036854775809"] = .ok a := rfl
  have accepted : a.Accepted ⟨"", .standard, none, plainName_empty, invertibleTarget_none⟩ := rfl
  have plain : '\x00' ∉ a.file.toList := by decide +kernel
  have opens : Opens (.ofBytes []) a (.ok (.ok {})) := .snapshot_of_bytes plain rfl rfl rfl
  have skew : skewOf a.skew = .ok {} := by decide +kernel
  obtain ⟨state, outcome⟩ : ∃ state, (({} : Snapshot Float).toState {} {}).outcome = .ok state :=
    ⟨_, rfl⟩
  have reaches : Reaches (.ofBytes []) ["state.pb", "--indent=-9223372036854775809"] a state :=
    .mk read accepted opens skew outcome
  obtain ⟨log, run⟩ := reaches.runOn_eq
  exact ⟨a, state, reaches, rfl, run⟩

end Dump

end RobotTelemetry
