import RobotTelemetry.Dump.Basic
/-!
# Exit codes of the dump

A run goes through four stages: the configuration is checked, the file is read, the skew becomes a
duration, and the snapshot becomes a robot state that is written. `Course` says for each stage how a
run ends there, and a run ends in no other way (`runOn_eq_iff`). Read off from this, the exit code
tells which stage it was, but for the runs that are broken off without one: `exit_codes` names them
all. It holds on every `Host`, whatever the files are and whatever the decoder makes of them.
-/

namespace RobotTelemetry.Dump

/-- What the program finds where it runs: a decoder, and what opening each path gives. -/
structure Host where
  decoder : Decoder
  disk : String → Opened

def runOn (host : Host) (words : List String) : Except Breakdown Ending :=
  run words fun path asText => load host.decoder asText (host.disk path)

/-! ## The configuration -/

namespace Arguments

def Rejected (a : Arguments) : Prop :=
  ∃ defects, Config.ofMembers a.members = .error defects

def Accepted (a : Arguments) (config : Config) : Prop :=
  Config.ofMembers a.members = .ok config

end Arguments

variable {words : List String} {a : Arguments} {config : Config} {host : Host}

theorem run_of_rejected (h : Arguments.read words = .ok a) {defects : List Config.Defect}
    (hd : Config.ofMembers a.members = .error defects)
    (file : String → Bool → Except Breakdown (Except LoadError (Snapshot Float))) :
    run words file =
      .ok (.failure 2 ("invalid configuration: " ++ defectsText a.members defects)) := by
  have prepared : prepare words =
      .error (.failure 2 ("invalid configuration: " ++ defectsText a.members defects)) := by
    rw [prepare, h]
    show (a.config >>= _) = _
    rw [Arguments.config, hd]
    rfl
  rw [run, prepared]

theorem prepare_of_accepted (h : Arguments.read words = .ok a) (hc : a.Accepted config) :
    prepare words = .ok ⟨a, config⟩ := by
  rw [prepare, h]
  show (a.config >>= _) = _
  rw [Arguments.config, hc]
  rfl

/-! ## The file -/

theorem mem_intercalate_iff {β : Type} {x : β} {sep : List β} (hx : x ∉ sep) (ls : List (List β)) :
    x ∈ sep.intercalate ls ↔ ∃ l ∈ ls, x ∈ l := by
  induction ls with
  | nil => simp
  | cons l ls ih =>
    cases ls with
    | nil => simp
    | cons l' ls => simp [List.intercalate_cons_cons, ih, hx]

section NormalPaths

variable {c : Char} (slash : c ≠ '/') (point : c ≠ '.')
include slash point

/-- The steps that are kept have the characters of the path, slashes and points apart. -/
theorem mem_steps_iff (path : String) :
    c ∈ ("/".intercalate (((path.toList.splitOn '/').map String.ofList).filter
      fun step => step ≠ "" ∧ step ≠ ".")).toList ↔ c ∈ path.toList := by
  have cut : c ∈ path.toList ↔ ∃ step ∈ path.toList.splitOn '/', c ∈ step := by
    have inside : c ∉ ['/'] := by simpa using slash
    rw [← mem_intercalate_iff inside, List.intercalate_splitOn]
  have outside : c ∉ "/".toList := by simpa using slash
  rw [String.toList_intercalate, mem_intercalate_iff outside, cut]
  simp only [List.mem_map, List.mem_filter]
  constructor
  · rintro ⟨_, ⟨_, ⟨⟨step, hstep, rfl⟩, -⟩, rfl⟩, hc⟩
    exact ⟨step, hstep, by simpa using hc⟩
  · rintro ⟨step, hstep, hc⟩
    have kept : String.ofList step ≠ "" ∧ String.ofList step ≠ "." := by
      constructor <;> rintro h
      · obtain rfl : step = [] := by simpa using congrArg String.toList h
        cases hc
      · obtain rfl : step = ['.'] := by simpa using congrArg String.toList h
        exact point (List.mem_singleton.1 hc)
    exact ⟨step, ⟨_, ⟨⟨step, hstep, rfl⟩, decide_eq_true kept⟩, String.toList_ofList⟩, hc⟩

theorem mem_normalPath_iff (path : String) : c ∈ (normalPath path).toList ↔ c ∈ path.toList := by
  have added (root steps : String) (bare : c ∉ root.toList) :
      c ∈ (if root ++ steps = "" then "." else root ++ steps).toList ↔ c ∈ steps.toList := by
    have whole : c ∈ (root ++ steps).toList ↔ c ∈ steps.toList := by
      rw [String.toList_append, List.mem_append, or_iff_right bare]
    rw [← whole]
    split
    · next h => simp [h, point]
    · rfl
  refine (added _ _ ?_).trans (mem_steps_iff slash point path)
  split
  · simpa using slash
  · split
    · simpa using slash
    · simp

end NormalPaths

section Paths

variable {r : Request}
  (file : String → Bool → Except Breakdown (Except LoadError (Snapshot Float)))

theorem nul_mem_path_iff (r : Request) :
    '\x00' ∈ r.path.toList ↔ '\x00' ∈ r.arguments.file.toList :=
  mem_normalPath_iff (by decide) (by decide) _

theorem run_of_nul (h : prepare words = .ok r) (hp : '\x00' ∈ r.arguments.file.toList) :
    run words file = .error .path := by
  have checked : r.checkedPath = .error .path := by
    rw [Request.checkedPath, if_pos (List.contains_iff_mem.2 ((nul_mem_path_iff r).2 hp))]
  rw [run, h]
  show (r.checkedPath >>= _) = _
  rw [checked]
  rfl

theorem run_of_path (h : prepare words = .ok r) (hp : '\x00' ∉ r.arguments.file.toList) :
    run words file = file r.path r.arguments.asText >>= complete r := by
  have absent : ¬r.path.toList.contains '\x00' = true := fun hc =>
    hp ((nul_mem_path_iff r).1 (List.contains_iff_mem.1 hc))
  have checked : r.checkedPath = .ok r.path := by rw [Request.checkedPath, if_neg absent]
  rw [run, h]
  show (r.checkedPath >>= _) = _
  rw [checked]
  rfl

end Paths

/-- What becomes of the file: its path or its text may break the run off, and what can be read is a
snapshot or not. -/
inductive Opens (host : Host) (a : Arguments) :
    Except Breakdown (Except LoadError (Snapshot Float)) → Prop
  | nul : '\x00' ∈ a.file.toList → Opens host a (.error .path)
  | refused {number : Nat} {message : String} : '\x00' ∉ a.file.toList →
      host.disk (normalPath a.file) = .refused number message →
      Opens host a (.ok (.error (.refused number message)))
  | badText {bytes : List UInt8} {e : Text.Utf8Error} : '\x00' ∉ a.file.toList → a.asText = true →
      host.disk (normalPath a.file) = .content bytes → textOf bytes = .error e →
      Opens host a (.error (.encoding e))
  | text {bytes : List UInt8} {text : String} : '\x00' ∉ a.file.toList → a.asText = true →
      host.disk (normalPath a.file) = .content bytes → textOf bytes = .ok text →
      Opens host a (.ok ((host.decoder.text text).mapError .malformed))
  | bytes {bytes : List UInt8} : '\x00' ∉ a.file.toList → a.asText = false →
      host.disk (normalPath a.file) = .content bytes →
      Opens host a (.ok ((host.decoder.bytes bytes).mapError .malformed))

namespace Opens

variable {bytes : List UInt8} {s : Snapshot Float}

theorem snapshot_of_text {text : String} (hp : '\x00' ∉ a.file.toList) (ht : a.asText = true)
    (hd : host.disk (normalPath a.file) = .content bytes) (he : textOf bytes = .ok text)
    (hs : host.decoder.text text = .ok s) : Opens host a (.ok (.ok s)) := by
  have opens : Opens host a _ := .text hp ht hd he
  rwa [hs] at opens

theorem snapshot_of_bytes (hp : '\x00' ∉ a.file.toList) (ht : a.asText = false)
    (hd : host.disk (normalPath a.file) = .content bytes) (hs : host.decoder.bytes bytes = .ok s) :
    Opens host a (.ok (.ok s)) := by
  have opens : Opens host a _ := .bytes hp ht hd
  rwa [hs] at opens

end Opens

theorem exists_opens (host : Host) (a : Arguments) : ∃ result, Opens host a result := by
  by_cases hp : '\x00' ∈ a.file.toList
  · exact ⟨_, .nul hp⟩
  · cases hd : host.disk (normalPath a.file) with
    | refused number message => exact ⟨_, .refused hp hd⟩
    | content bytes =>
      cases ht : a.asText with
      | false => exact ⟨_, .bytes hp ht hd⟩
      | true =>
        cases he : textOf bytes with
        | error e => exact ⟨_, .badText hp ht hd he⟩
        | ok text => exact ⟨_, .text hp ht hd he⟩

theorem runOn_of_opens (h : Arguments.read words = .ok a) (hc : a.Accepted config)
    {result : Except Breakdown (Except LoadError (Snapshot Float))} (ho : Opens host a result) :
    runOn host words = result >>= complete ⟨a, config⟩ := by
  have prepared := prepare_of_accepted h hc
  have opened (hp : '\x00' ∉ a.file.toList) : runOn host words =
      load host.decoder a.asText (host.disk (normalPath a.file)) >>= complete ⟨a, config⟩ :=
    run_of_path (r := ⟨a, config⟩) (fun path asText => load host.decoder asText (host.disk path))
      prepared hp
  cases ho with
  | nul hp => exact run_of_nul _ prepared hp
  | refused hp hd => rw [opened hp, hd, load]
  | badText hp ht hd he => rw [opened hp, hd, load, if_pos ht, he]
  | text hp ht hd he => rw [opened hp, hd, load, if_pos ht, he]
  | bytes hp ht hd => rw [opened hp, hd, ht, load, if_neg Bool.false_ne_true]

/-! ## The robot state -/

namespace Ending

/-- The end of a run whose snapshot has no robot state. -/
def untranslated (e : StateError) (log : List Event) : Ending :=
  { failure 1 ("translation failed: " ++ e.message) with log }

/-- The end of a run that writes a robot state. -/
def written (indent : Nat) (state : RobotState Float) (log : List Event) : Ending :=
  { code := 0, output := stateText indent state ++ "\n", log }

end Ending

section Complete

variable {r : Request} {s : Snapshot Float} {skew : Duration}

theorem complete_of_noSkew {b : Breakdown} (h : skewOf r.arguments.skew = .error b)
    (s : Snapshot Float) : complete r (.ok s) = .error b := by
  rw [complete, h]
  rfl

theorem complete_of_noState {e : StateError} (h : skewOf r.arguments.skew = .ok skew)
    (he : (s.toState skew r.config.options).outcome = .error e) :
    complete r (.ok s) = .ok (.untranslated e (s.toState skew r.config.options).log) := by
  simp only [complete, h, bind, Except.bind, he]
  rfl

theorem complete_of_state {state : RobotState Float} (h : skewOf r.arguments.skew = .ok skew)
    (hs : (s.toState skew r.config.options).outcome = .ok state) :
    complete r (.ok s) = (indentation r.arguments.indent).map fun indent =>
      .written indent state (s.toState skew r.config.options).log := by
  simp only [complete, h, bind, Except.bind, hs]
  rfl

end Complete

/-! ## Whole runs -/

/-- How a run ends, stage by stage. -/
inductive Course (host : Host) (a : Arguments) : Except Breakdown Ending → Prop
  | rejected {defects : List Config.Defect} : Config.ofMembers a.members = .error defects →
      Course host a
        (.ok (.failure 2 ("invalid configuration: " ++ defectsText a.members defects)))
  | unopened {config : Config} {b : Breakdown} : a.Accepted config → Opens host a (.error b) →
      Course host a (.error b)
  | unread {config : Config} {e : LoadError} : a.Accepted config → Opens host a (.ok (.error e)) →
      Course host a (.ok (.failure 1 (e.report (normalPath a.file))))
  | noSkew {config : Config} {s : Snapshot Float} {b : Breakdown} : a.Accepted config →
      Opens host a (.ok (.ok s)) → skewOf a.skew = .error b → Course host a (.error b)
  | noState {config : Config} {s : Snapshot Float} {skew : Duration} {e : StateError} :
      a.Accepted config → Opens host a (.ok (.ok s)) → skewOf a.skew = .ok skew →
      (s.toState skew config.options).outcome = .error e →
      Course host a (.ok (.untranslated e (s.toState skew config.options).log))
  | state {config : Config} {s : Snapshot Float} {skew : Duration} {state : RobotState Float} :
      a.Accepted config → Opens host a (.ok (.ok s)) → skewOf a.skew = .ok skew →
      (s.toState skew config.options).outcome = .ok state →
      Course host a ((indentation a.indent).map fun indent =>
        .written indent state (s.toState skew config.options).log)

theorem runOn_of_course (h : Arguments.read words = .ok a) {result : Except Breakdown Ending}
    (hc : Course host a result) : runOn host words = result := by
  cases hc with
  | rejected hd => exact run_of_rejected h hd _
  | unopened hc ho => exact runOn_of_opens h hc ho
  | unread hc ho => exact runOn_of_opens h hc ho
  | noSkew hc ho hskew => exact (runOn_of_opens h hc ho).trans (complete_of_noSkew hskew _)
  | noState hc ho hskew he => exact (runOn_of_opens h hc ho).trans (complete_of_noState hskew he)
  | state hc ho hskew hs => exact (runOn_of_opens h hc ho).trans (complete_of_state hskew hs)

theorem exists_course (host : Host) (a : Arguments) : ∃ result, Course host a result := by
  rcases hc : Config.ofMembers a.members with defects | config
  · exact ⟨_, .rejected hc⟩
  · obtain ⟨opened, ho⟩ := exists_opens host a
    rcases opened with b | e | s
    · exact ⟨_, .unopened hc ho⟩
    · exact ⟨_, .unread hc ho⟩
    · rcases hskew : skewOf a.skew with b | skew
      · exact ⟨_, .noSkew hc ho hskew⟩
      · rcases hs : (s.toState skew config.options).outcome with e | state
        · exact ⟨_, .noState hc ho hskew hs⟩
        · exact ⟨_, .state hc ho hskew hs⟩

/-- A run takes exactly the courses that are listed. -/
theorem runOn_eq_iff (h : Arguments.read words = .ok a) (result : Except Breakdown Ending) :
    runOn host words = result ↔ Course host a result := by
  constructor
  · rintro rfl
    obtain ⟨result, hc⟩ := exists_course host a
    rwa [runOn_of_course h hc]
  · exact runOn_of_course h

/-! ## Exit codes -/

/-- The end of an accepted configuration with an error: there is no snapshot, or none with a robot
state. -/
inductive Fails (host : Host) (a : Arguments) (config : Config) : Prop
  | unread {e : LoadError} : Opens host a (.ok (.error e)) → Fails host a config
  | noState {s : Snapshot Float} {skew : Duration} {e : StateError} :
      Opens host a (.ok (.ok s)) → skewOf a.skew = .ok skew →
      (s.toState skew config.options).outcome = .error e → Fails host a config

/-- What an accepted configuration is broken off by: the path or the text of the file, the skew, or
the indentation of a robot state. -/
inductive BreaksOff (host : Host) (a : Arguments) (config : Config) : Breakdown → Prop
  | unopened {b : Breakdown} : Opens host a (.error b) → BreaksOff host a config b
  | noSkew {s : Snapshot Float} {b : Breakdown} : Opens host a (.ok (.ok s)) →
      skewOf a.skew = .error b → BreaksOff host a config b
  | noIndent {s : Snapshot Float} {skew : Duration} {state : RobotState Float} {b : Breakdown} :
      Opens host a (.ok (.ok s)) → skewOf a.skew = .ok skew →
      (s.toState skew config.options).outcome = .ok state → indentation a.indent = .error b →
      BreaksOff host a config b

/-- A run ends with this exit code. -/
def Exits (result : Except Breakdown Ending) (code : Nat) : Prop :=
  ∃ ending, result = .ok ending ∧ ending.code = code

/-- A run that ends with another exit code than zero writes nothing but an error message. -/
def Reports (result : Except Breakdown Ending) : Prop :=
  ∀ ending, result = .ok ending → ending.code ≠ 0 →
    ending.output = "" ∧ ∃ text, ending.errors = "[ERROR] " ++ text ++ "\n"

theorem Exits.unique {result : Except Breakdown Ending} {n m : Nat} (hn : Exits result n)
    (hm : Exits result m) : n = m := by
  obtain ⟨ending, rfl, rfl⟩ := hn
  obtain ⟨ending', he, rfl⟩ := hm
  rw [Except.ok.inj he]

theorem Exits.ne_error {result : Except Breakdown Ending} {n : Nat} (h : Exits result n)
    (b : Breakdown) : result ≠ .error b := by
  obtain ⟨ending, rfl, -⟩ := h
  nofun

theorem reports_failure (code : Nat) (text : String) (log : List Event) :
    Reports (.ok { Ending.failure code text with log }) := by
  rintro ending he -
  obtain rfl := Except.ok.inj he
  exact ⟨rfl, text, rfl⟩

theorem Course.reports {result : Except Breakdown Ending} (hc : Course host a result) :
    Reports result := by
  cases hc with
  | rejected | unread | noState => exact reports_failure _ _ _
  | unopened | noSkew =>
    rintro ending he
    cases he
  | state hc ho hskew hs =>
    rintro ending he hcode
    cases hi : indentation a.indent with
    | error b =>
      rw [hi] at he
      cases he
    | ok indent =>
      rw [hi] at he
      obtain rfl := Except.ok.inj he
      exact absurd rfl hcode

/-- A run ends with an exit code or is broken off for one of the reasons for it. -/
theorem Course.outcome {result : Except Breakdown Ending} (hc : Course host a result) :
    (a.Rejected ∧ Exits result 2) ∨ ∃ config, a.Accepted config ∧
      (Fails host a config ∧ Exits result 1 ∨
        (∃ b, BreaksOff host a config b ∧ result = .error b) ∨ Exits result 0) := by
  cases hc with
  | rejected hd => exact .inl ⟨⟨_, hd⟩, _, rfl, rfl⟩
  | @unopened config b hc ho => exact .inr ⟨config, hc, .inr (.inl ⟨b, .unopened ho, rfl⟩)⟩
  | @unread config e hc ho => exact .inr ⟨config, hc, .inl ⟨.unread ho, _, rfl, rfl⟩⟩
  | @noSkew config s b hc ho hskew =>
    exact .inr ⟨config, hc, .inr (.inl ⟨b, .noSkew ho hskew, rfl⟩)⟩
  | @noState config s skew e hc ho hskew he =>
    exact .inr ⟨config, hc, .inl ⟨.noState ho hskew he, _, rfl, rfl⟩⟩
  | @state config s skew state hc ho hskew hs =>
    refine .inr ⟨config, hc, .inr ?_⟩
    cases hi : indentation a.indent with
    | error b => exact .inl ⟨b, .noIndent ho hskew hs hi, rfl⟩
    | ok indent => exact .inr ⟨_, rfl, rfl⟩

theorem exits_of_rejected (h : Arguments.read words = .ok a) (hr : a.Rejected)
    (host : Host) : Exits (runOn host words) 2 := by
  obtain ⟨defects, hd⟩ := hr
  exact ⟨_, run_of_rejected h hd _, rfl⟩

theorem exits_of_fails (h : Arguments.read words = .ok a) (hc : a.Accepted config)
    (hf : Fails host a config) : Exits (runOn host words) 1 := by
  cases hf with
  | unread ho => exact ⟨_, runOn_of_course h (.unread hc ho), rfl⟩
  | noState ho hskew he => exact ⟨_, runOn_of_course h (.noState hc ho hskew he), rfl⟩

theorem runOn_of_breaksOff (h : Arguments.read words = .ok a) (hc : a.Accepted config)
    {b : Breakdown} (hb : BreaksOff host a config b) : runOn host words = .error b := by
  cases hb with
  | unopened ho => exact runOn_of_course h (.unopened hc ho)
  | noSkew ho hskew => exact runOn_of_course h (.noSkew hc ho hskew)
  | noIndent ho hskew hs hi =>
    have broken := runOn_of_course h (.state hc ho hskew hs)
    rwa [hi] at broken

/-- What the exit code of a run tells about its command line and its file. -/
structure Classified (host : Host) (a : Arguments) (result : Except Breakdown Ending) :
    Prop where
  two_iff : Exits result 2 ↔ a.Rejected
  one_iff : Exits result 1 ↔ ∃ config, a.Accepted config ∧ Fails host a config
  zero_iff : Exits result 0 ↔ ∃ config, a.Accepted config ∧ ¬Fails host a config ∧
    ∀ b, ¬BreaksOff host a config b
  broken_iff : ∀ b, result = .error b ↔ ∃ config, a.Accepted config ∧ BreaksOff host a config b
  reports : Reports result

/-- Every run of an accepted command line is classified by its exit code: two for a configuration
that is rejected, one for a file without a snapshot and for a snapshot without a robot state, and
zero otherwise, unless the run is broken off. -/
theorem exit_codes (h : Arguments.read words = .ok a) (host : Host) :
    Classified host a (runOn host words) := by
  have course : Course host a (runOn host words) := (runOn_eq_iff h _).1 rfl
  have outcome := course.outcome
  constructor
  case reports => exact course.reports
  case two_iff =>
    refine ⟨fun two => ?_, fun hr => exits_of_rejected h hr host⟩
    rcases outcome with ⟨hr, -⟩ | ⟨config, hc, ⟨-, one⟩ | ⟨b, -, hb⟩ | zero⟩
    · exact hr
    · cases two.unique one
    · exact absurd hb (two.ne_error b)
    · cases two.unique zero
  case one_iff =>
    refine ⟨fun one => ?_, fun ⟨config, hc, hf⟩ => exits_of_fails h hc hf⟩
    rcases outcome with ⟨-, two⟩ | ⟨config, hc, ⟨hf, -⟩ | ⟨b, -, hb⟩ | zero⟩
    · cases one.unique two
    · exact ⟨config, hc, hf⟩
    · exact absurd hb (one.ne_error b)
    · cases one.unique zero
  case zero_iff =>
    constructor
    · intro zero
      rcases outcome with ⟨-, two⟩ | ⟨config, hc, -⟩
      · cases zero.unique two
      · refine ⟨config, hc, fun hf => ?_, fun b hb => ?_⟩
        · cases zero.unique (exits_of_fails h hc hf)
        · exact zero.ne_error b (runOn_of_breaksOff h hc hb)
    · rintro ⟨config, hc, good, whole⟩
      rcases outcome with ⟨⟨defects, hd⟩, -⟩ | ⟨config', hc', ⟨hf, -⟩ | ⟨b, hb, -⟩ | zero⟩
      · cases hd.symm.trans hc
      · obtain rfl : config' = config := Except.ok.inj (hc'.symm.trans hc)
        exact absurd hf good
      · obtain rfl : config' = config := Except.ok.inj (hc'.symm.trans hc)
        exact absurd hb (whole b)
      · exact zero
  case broken_iff =>
    refine fun b => ⟨fun broken => ?_, fun ⟨config, hc, hb⟩ => runOn_of_breaksOff h hc hb⟩
    rcases outcome with ⟨-, two⟩ | ⟨config, hc, ⟨-, one⟩ | ⟨b', hb, he⟩ | zero⟩
    · exact absurd broken (two.ne_error b)
    · exact absurd broken (one.ne_error b)
    · obtain rfl : b' = b := Except.error.inj (he.symm.trans broken)
      exact ⟨config, hc, hb⟩
    · exact absurd broken (zero.ne_error b)

/-- A robot's name with a slash is rejected, whatever the file holds. -/
theorem slash_exits_two : ∃ a, Arguments.read ["state.pb", "--robot-name=a/b"] = .ok a ∧
    ∀ host, Exits (runOn host ["state.pb", "--robot-name=a/b"]) 2 :=
  ⟨_, rfl, fun host => (exit_codes rfl host).two_iff.2 ⟨_, rfl⟩⟩

/-- The same file under every path, in binary form. -/
def Host.ofBytes (bytes : List UInt8) : Host :=
  ⟨.binary (fun _ => .error "no text form") "malformed", fun _ => .content bytes⟩

/-- A skew that is not a number is read and then breaks the run off. -/
theorem notANumber_breaks_off :
    ∃ a config, Arguments.read ["state.pb", "--skew=nan"] = .ok a ∧ a.Accepted config ∧
      Opens (.ofBytes []) a (.ok (.ok {})) ∧
      runOn (.ofBytes []) ["state.pb", "--skew=nan"] = .error (.skew .notANumber) := by
  let a : Arguments := ⟨"state.pb", false, .value .notANumber, .value "", .value .standard, none,
    .value 2⟩
  have read : Arguments.read ["state.pb", "--skew=nan"] = .ok a := rfl
  have accepted : a.Accepted ⟨"", .standard, none, plainName_empty, invertibleTarget_none⟩ := rfl
  have plain : '\x00' ∉ a.file.toList := by decide +kernel
  have opens : Opens (.ofBytes []) a (.ok (.ok {})) := .snapshot_of_bytes plain rfl rfl rfl
  have skew : skewOf a.skew = .error (.skew .notANumber) := rfl
  exact ⟨a, _, read, accepted, opens, runOn_of_course read (.noSkew accepted opens skew)⟩

end RobotTelemetry.Dump
