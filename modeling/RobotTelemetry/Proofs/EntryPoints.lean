import RobotTelemetry.Proofs.ClientRuns
import RobotTelemetry.Proofs.CommandLines
import RobotTelemetry.Proofs.ExitCodes
import RobotTelemetry.Proofs.Reading
import RobotTelemetry.Session
/-!
# Entry points

A robot state is read under settings, in the course of a session, by a client or by the dump. For
one configuration, snapshot and skew they all end alike: with the same robot state or with the same
error (`Agreement`). A session may have been through any history that left its settings alone. The
dump is given the configuration in words, and this is where two dashes as a name make a difference
(`dashes_refused`). The main result is `entry_points_agree`.
-/

namespace RobotTelemetry

/-! ## Sessions -/

namespace Snapshot

variable {α : Type} (s : Snapshot α)

/-- The parts that a snapshot consists of. -/
def parts : List (Part α) :=
  [.power s.power, .batteries s.batteries, .comms s.comms, .faults s.faults, .estops s.estops,
    .behaviorFaults s.behaviorFaults, .feet s.feet, .manipulator s.manipulator,
    .kinematics s.kinematics]

theorem foldl_put_parts (before : Snapshot α) : s.parts.foldl put before = s := by
  simp only [parts, List.foldl_cons, List.foldl_nil, put]

/-- What is done in a session to read the robot state of a snapshot. -/
def reading (skew : Duration) : List (Action α) :=
  [.put s.parts, .setSkew skew, .read]

end Snapshot

/-- The settings are not touched. An earlier reading, failed or not, is one such action. -/
def Action.KeepsSettings {α : Type} (action : Action α) : Prop :=
  ∀ setting, action ≠ .change setting

namespace Session

section Settings

variable {α : Type} [IntCast α] (session : Session α)

theorem settings_next {action : Action α} (h : action.KeepsSettings) :
    (session.next action).settings = session.settings := by
  cases action with
  | change setting => exact absurd rfl (h setting)
  | _ => rfl

theorem settings_foldl_next {actions : List (Action α)} (h : ∀ a ∈ actions, a.KeepsSettings) :
    (actions.foldl next session).settings = session.settings := by
  induction actions generalizing session with
  | nil => rfl
  | cons action actions ih =>
    rw [List.forall_mem_cons] at h
    rw [List.foldl_cons, ih _ h.2, session.settings_next h.1]

end Settings

section Runs

variable {α : Type} [Add α] [Sub α] [Mul α] [Neg α] [Div α] [IntCast α] [LT α] [DecidableLT α]
  [OfScientific α] [SquareRoot α] (session : Session α)

theorem run_append (actions later : List (Action α)) : session.run (actions ++ later) =
    session.run actions ++ (actions.foldl next session).run later := by
  induction actions generalizing session with
  | nil => rfl
  | cons action actions ih => rw [List.cons_append, run, run, ih, List.cons_append, List.foldl_cons]

/-- A reading depends on nothing but the settings of the session. -/
theorem run_reading (s : Snapshot α) (skew : Duration) : session.run (s.reading skew) =
    [.ok .done, .ok .done, (session.settings.read s skew).outcome.map .state] := by
  simp only [Snapshot.reading, run, reply, next, s.foldl_put_parts]

end Runs

end Session

/-! ## Settings -/

namespace Settings

theorem options_ofOptions (options : Options) : (ofOptions options).options = .ok options := by
  rw [Settings.options, Anchor.named, ofOptions, Anchor.ofFrame?_frame]
  rfl

theorem exists_session {α : Type} (options : Options) :
    ∃ session : Session α, Session.start (ofOptions options) = .ok session ∧
      session.settings = ofOptions options := by
  refine ⟨⟨ofOptions options, {}, {}⟩, ?_, rfl⟩
  rw [Session.start, options_ofOptions]
  rfl

theorem read_ofOptions {α : Type} [Add α] [Sub α] [Mul α] [Neg α] [Div α] [IntCast α] [LT α]
    [DecidableLT α] [OfScientific α] [SquareRoot α] (options : Options) (s : Snapshot α)
    (skew : Duration) :
    (ofOptions options).read s skew = (s.toState skew options).mapError .noState := by
  rw [read, options_ofOptions]
  rfl

end Settings

/-! ## The dump -/

namespace Dump

/-- The end of a run that reads a robot state and writes it with the usual indentation. -/
def Ending.ofRead (read : Logged StateError (RobotState Float)) : Ending :=
  match read.outcome with
  | .ok state => .written 2 state read.log
  | .error e => .untranslated e read.log

theorem complete_given {config : Config} {numeral : Decimal.Numeral} {skew : Duration}
    (hskew : Duration.ofSeconds numeral.toFloat = .ok skew) (path : String) (asText : Bool)
    (s : Snapshot Float) : complete ⟨given path asText numeral config, config⟩ (.ok s) =
      .ok (.ofRead (s.toState skew config.options)) := by
  have shifted : skewOf (.value numeral) = .ok skew := by
    rw [skewOf, hskew]
    rfl
  rw [Ending.ofRead]
  cases hs : (s.toState skew config.options).outcome with
  | error e => exact complete_of_noState shifted hs
  | ok state => exact complete_of_state shifted hs

end Dump

/-! ## Agreement -/

open Dump

/-- All ways of reading a snapshot under a configuration end alike. -/
structure Agreement (config : Config) (s : Snapshot Float) (skew : Duration) (words : List String)
    (file : String → Bool → Except Breakdown (Except LoadError (Snapshot Float))) : Prop where
  settings : (Settings.ofOptions config.options).read s skew =
    (s.toState skew config.options).mapError .noState
  session : ∃ session, Session.start (.ofOptions config.options) = .ok session ∧
    ∀ history : List (Action Float), (∀ action ∈ history, action.KeepsSettings) →
      session.run (history ++ s.reading skew) = session.run history ++
        [.ok .done, .ok .done,
          ((s.toState skew config.options).outcome.mapError .noState).map .state]
  client : ∀ sources : Sources Float, sources.snapshot = .value s → sources.skew = .value skew →
    ((Client.ofConfig config none).answer sources .state).outcome =
      ((s.toState skew config.options).outcome.map .state).mapError .state
  program : Dump.run words file = .ok (.ofRead (s.toState skew config.options))

section Main

variable {config : Config} {s : Snapshot Float} {skew : Duration} {seconds : String}
  {numeral : Decimal.Numeral} {before behind : List Choice} {path : String} {asText : Bool}
  {file : String → Bool → Except Breakdown (Except LoadError (Snapshot Float))}

/-- Whatever a configuration, a snapshot and a skew are, the four entry points agree on them. For
the dump the configuration is put into words in any order, with the file before, between or behind
them. -/
theorem entry_points_agree (hread : Decimal.read seconds = some numeral)
    (hskew : Duration.ofSeconds numeral.toFloat = .ok skew)
    (hname : config.robotName ≠ "--") (htarget : config.inverseTarget ≠ some "--")
    (horder : (before ++ behind).Perm (choices config seconds numeral asText))
    (hlast : path.toList.head? = some '-' → behind = []) (hpath : '\x00' ∉ path.toList)
    (hfile : file (normalPath path) asText = .ok (.ok s)) :
    Agreement config s skew (choiceWords before path behind) file := by
  constructor
  case settings => exact Settings.read_ofOptions config.options s skew
  case session =>
    obtain ⟨session, start, settings⟩ := Settings.exists_session config.options
    refine ⟨session, start, fun history keeps => ?_⟩
    rw [Session.run_append, Session.run_reading, Session.settings_foldl_next session keeps,
      settings, Settings.read_ofOptions]
    rfl
  case client =>
    intro sources hs hd
    rw [Client.answer_state hs hd]
    rfl
  case program =>
    have prepared := prepare_choiceWords hread hname htarget horder hlast
    rw [run_of_path file prepared hpath]
    show (file (normalPath path) asText >>= _) = _
    rw [hfile]
    exact complete_given hskew path asText s

/-- A configuration with a robot's name, an anchor and a frame to be inverted. -/
def spotConfig : Config :=
  ⟨"spot", .odom, some "hand", by decide +kernel,
    invertibleTarget_some (by decide +kernel) (by decide)⟩

theorem spot_entry_points_agree :
    Decimal.read "0.25" = some (.finite false 25 (-2)) ∧
      Agreement spotConfig { kinematics := some .unset } ⟨0, 250000000⟩
        ["--robot-name=spot", "--odom-frame=odom", "state.pb", "--skew=0.25",
          "--inverse-target=hand"]
        fun _ _ => .ok (.ok { kinematics := some .unset }) := by
  have numeral : Decimal.read "0.25" = some (.finite false 25 (-2)) := by decide +kernel
  let before : List Choice := [.robotName "spot", .anchor .odom]
  let behind : List Choice := [.skew "0.25" (.finite false 25 (-2)), .inverseTarget "hand"]
  have order : (before ++ behind).Perm
      (choices spotConfig "0.25" (.finite false 25 (-2)) false) := by decide +kernel
  have plain : '\x00' ∉ "state.pb".toList := by decide +kernel
  have undashed : "state.pb".toList.head? = some '-' → behind = [] := by decide +kernel
  exact ⟨numeral, entry_points_agree numeral rfl (by decide) (by decide) order undashed plain rfl⟩

/-- Two dashes are a name like any other to a reading, but the dump rejects them. -/
theorem dashes_refused : ∃ config : Config, config.robotName = "--" ∧
    (∃ state, (({} : Snapshot Float).toState {} config.options).outcome = .ok state) ∧
    Exits (Dump.run (choiceWords (choices config "0.0" (.finite false 0 (-1)) false) "state.pb" [])
      fun _ _ => .ok (.ok {})) 2 := by
  let config : Config := ⟨"--", .standard, none, by decide +kernel, invertibleTarget_none⟩
  have read := Snapshot.toState_of_none (s := ({} : Snapshot Float)) rfl {} config.options
  have state : ∃ state, (({} : Snapshot Float).toState {} config.options).outcome = .ok state :=
    ⟨_, congrArg Logged.outcome read⟩
  let a : Arguments := ⟨"state.pb", false, .value (.finite false 0 (-1)), .nothing,
    .value .standard, none, .value 2⟩
  have words : choiceWords (choices config "0.0" (.finite false 0 (-1)) false) "state.pb" [] =
      ["--skew=0.0", "--robot-name=--", "--odom-frame=vision", "state.pb"] := by decide +kernel
  have given : Arguments.read
      ["--skew=0.0", "--robot-name=--", "--odom-frame=vision", "state.pb"] = .ok a := rfl
  have rejected : Config.ofMembers a.members = .error [⟨"robot_name", .notText⟩] := rfl
  refine ⟨config, rfl, state, ?_⟩
  rw [words]
  exact ⟨_, run_of_rejected given rejected _, rfl⟩

end Main

end RobotTelemetry
