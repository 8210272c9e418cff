import RobotTelemetry.Proofs.ClientRuns
import RobotTelemetry.Proofs.Refusals
/-!
# What a client reports about its sources

A call that fails on behalf of a source warns of that failure once and reports nothing else, and no
other call warns of anything (`Client.answer_warned`). So the warnings of a run are those of its
failures, one for each and in order (`run_warnings`). One failure has no warning: an answer without
a skew. A run in which it occurs has more failures than warnings (`unsynced_unreported`).
-/

namespace RobotTelemetry

/-! ## Warnings -/

/-- A warning of the client itself, not of what it reads states with. -/
def Event.IsClientWarning (event : Event) : Prop :=
  event.level = .warning ∧ event.source = "spot_state_bridge.client"

instance : DecidablePred Event.IsClientWarning := fun _ => inferInstanceAs (Decidable (_ ∧ _))

/-- The warnings of the client among events, in order. -/
def clientWarnings (log : List Event) : List Event :=
  log.filter (·.IsClientWarning)

theorem clientWarnings_append (log log' : List Event) :
    clientWarnings (log ++ log') = clientWarnings log ++ clientWarnings log' :=
  List.filter_append log log'

theorem clientWarnings_eq_nil {log : List Event}
    (h : ∀ event ∈ log, event.source ≠ "spot_state_bridge.client") : clientWarnings log = [] := by
  apply List.filter_eq_nil_iff.2
  intro event he hw
  exact h event he (of_decide_eq_true hw).2

/-- Reading a state is no business of the client, and it does not warn there. -/
theorem Snapshot.clientWarnings_toState {α : Type} [Add α] [Sub α] [Mul α] [Neg α] [IntCast α]
    [Div α] [LT α] [DecidableLT α] [OfScientific α] [SquareRoot α] (s : Snapshot α)
    (skew : Duration) (options : Options) : clientWarnings (s.toState skew options).log = [] := by
  obtain ⟨_, _, -, -, heq⟩ | ⟨state, heq⟩ := s.toState_cases skew options
  · rw [heq]
    rfl
  · rw [heq]
    apply clientWarnings_eq_nil
    intro event he
    rcases List.mem_append.1 he with he | he
    · rw [EdgeMap.source_of_mem_events he]
      decide
    · rw [List.mem_singleton.1 he, RobotState.summary, Event.source]
      decide

namespace SourceFailure

/-- The skew is not known yet: its source answered without one. -/
def IsUnknownSkew : SourceFailure → Prop
  | .empty .skew => True
  | .empty .snapshot | .failed _ _ => False

instance : DecidablePred IsUnknownSkew := fun f => by
  rcases f with ⟨_, _⟩ | ⟨_ | _⟩ <;> unfold IsUnknownSkew <;> infer_instance

/-- The warning that tells of a failure: it names the query and gives what the source said. -/
inductive Warns : SourceFailure → Event → Prop
  | requestFailed (fault : Fault) : Warns (.failed .snapshot fault) (.requestFailed fault.text)
  | skewFailed (fault : Fault) : Warns (.failed .skew fault) (.skewFailed fault.text)
  | noSnapshot : Warns (.empty .snapshot) .noSnapshot

variable {failure : SourceFailure}

theorem Warns.isClientWarning {w : Event} (h : failure.Warns w) : w.IsClientWarning := by
  cases h <;> exact ⟨rfl, rfl⟩

theorem exists_warns (h : ¬ failure.IsUnknownSkew) :
    ∃ w, failure.Warns w ∧ failure.events = [w] := by
  cases failure with
  | failed query fault =>
    cases query with
    | snapshot => exact ⟨_, .requestFailed fault, rfl⟩
    | skew => exact ⟨_, .skewFailed fault, rfl⟩
  | empty query =>
    cases query with
    | snapshot => exact ⟨_, .noSnapshot, rfl⟩
    | skew => exact absurd trivial h

theorem events_of_isUnknownSkew (h : failure.IsUnknownSkew) : failure.events = [] := by
  unfold IsUnknownSkew at h
  split at h
  · rfl
  · exact h.elim
  · exact h.elim

/-- All that is reported about a failure is a warning. -/
theorem clientWarnings_events (failure : SourceFailure) :
    clientWarnings failure.events = failure.events := by
  by_cases h : failure.IsUnknownSkew
  · rw [events_of_isUnknownSkew h]
    rfl
  · obtain ⟨w, hw, he⟩ := exists_warns h
    simp [he, clientWarnings, hw.isClientWarning]

/-- The failures that are reported and what is reported about them correspond one to one. -/
theorem forall₂_warns (failures : List SourceFailure) :
    List.Forall₂ Warns (failures.filter (¬ ·.IsUnknownSkew)) (failures.flatMap (·.events)) := by
  induction failures with
  | nil => exact .nil
  | cons failure failures ih =>
    rw [List.flatMap_cons]
    by_cases h : failure.IsUnknownSkew
    · rw [events_of_isUnknownSkew h, List.filter_cons_of_neg (by simpa using h)]
      exact ih
    · obtain ⟨w, hw, he⟩ := exists_warns h
      rw [he, List.filter_cons_of_pos (by simpa using h)]
      exact .cons hw ih

end SourceFailure

/-! ## Single calls -/

variable {α β : Type}

/-- The failure of a source that an exchange ended with. -/
def Exchange.failure? (x : Exchange β) : Option SourceFailure :=
  match x.outcome with
  | .error (.source failure) => some failure
  | .error (.state _) | .ok _ => none

theorem Exchange.failure?_eq_some_iff {x : Exchange β} {failure : SourceFailure} :
    x.failure? = some failure ↔ x.outcome = .error (.source failure) := by
  unfold failure?
  split <;> simp_all

/-- What an exchange with sources reports about them. -/
structure Exchange.Warned (sources : Sources α) (x : Exchange β) : Prop where
  quiet : x.failure? = none → clientWarnings x.log = []
  warns : ∀ failure, x.failure? = some failure → ¬ failure.IsUnknownSkew →
    ∃ w, failure.Warns w ∧ x.log = [w]
  unreported : ∀ failure, x.failure? = some failure → failure.IsUnknownSkew → x.log = []
  isUnknownSkew_iff : (∃ failure, x.failure? = some failure ∧ failure.IsUnknownSkew) ↔
    .skew ∈ x.asked ∧ sources.skew = .nothing

theorem Answer.failure?_eq_unknownSkew_iff {query : Query} {answer : Answer β} :
    (∃ failure, answer.failure? query = some failure ∧ failure.IsUnknownSkew) ↔
      query = .skew ∧ answer = .nothing := by
  cases answer <;> cases query <;> simp [Answer.failure?, SourceFailure.IsUnknownSkew]

namespace Client

variable [Add α] [Sub α] [Mul α] [Neg α] [Div α] [IntCast α] [LT α] [DecidableLT α]
  [OfScientific α] [SquareRoot α] (client : Client) (sources : Sources α) (call : Call)

/-- The client reports what there is to report about the failure of a source and no more. -/
theorem log_answer_cases :
    (∃ failure, (client.answer sources call).failure? = some failure ∧
      (client.answer sources call).log = failure.events) ∨
    (client.answer sources call).failure? = none ∧
      clientWarnings (client.answer sources call).log = [] := by
  have failed {asked : List Query} {failure : SourceFailure}
      (h : client.answer sources call = ⟨asked, failure.events, .error (.source failure)⟩) :
      ∃ failure, (client.answer sources call).failure? = some failure ∧
        (client.answer sources call).log = failure.events :=
    ⟨failure, by rw [h]; rfl, by rw [h]⟩
  rcases sources.snapshot.value_or_failure? .snapshot with ⟨s, hs⟩ | ⟨failure, hf⟩
  · rcases sources.skew.value_or_failure? .skew with ⟨skew, hd⟩ | ⟨failure, hf⟩
    · right
      cases call with
      | snapshot =>
        rw [answer_snapshot hs]
        exact ⟨rfl, rfl⟩
      | skew =>
        rw [answer_skew hd]
        exact ⟨rfl, rfl⟩
      | state =>
        rw [answer_state hs hd]
        refine ⟨?_, s.clientWarnings_toState skew client.options⟩
        cases (s.toState skew client.options).outcome <;> rfl
    · cases call with
      | snapshot =>
        right
        rw [answer_snapshot hs]
        exact ⟨rfl, rfl⟩
      | skew => exact .inl (failed (answer_skew_of_failure hf))
      | state => exact .inl (failed (answer_state_of_skew_failure hs hf))
  · cases call with
    | snapshot | state => exact .inl (failed (answer_of_snapshot_failure (by decide) hf))
    | skew =>
      rcases sources.skew.value_or_failure? .skew with ⟨skew, hd⟩ | ⟨failure, hf⟩
      · right
        rw [answer_skew hd]
        exact ⟨rfl, rfl⟩
      · exact .inl (failed (answer_skew_of_failure hf))

/-- A call fails for want of a skew exactly if it asked for one and got an answer without it. -/
theorem failure?_answer_isUnknownSkew_iff :
    (∃ failure, (client.answer sources call).failure? = some failure ∧ failure.IsUnknownSkew) ↔
      .skew ∈ (client.answer sources call).asked ∧ sources.skew = .nothing := by
  have protocol := client.answer_follows sources call
  simp only [Exchange.failure?_eq_some_iff, protocol.failed_iff]
  constructor
  · rintro ⟨failure, ⟨query, hq, hf, -⟩, hu⟩
    cases query with
    | snapshot =>
      have := Answer.failure?_eq_unknownSkew_iff.1 ⟨failure, hf, hu⟩
      exact absurd this.1 (by decide)
    | skew => exact ⟨hq, (Answer.failure?_eq_unknownSkew_iff.1 ⟨failure, hf, hu⟩).2⟩
  · rintro ⟨hq, hn⟩
    obtain ⟨failure, hf, hu⟩ := Answer.failure?_eq_unknownSkew_iff.2 ⟨rfl, hn⟩
    have cause : failure.cause? = sources.fault? .skew := Sources.cause?_of_failure? hf
    exact ⟨failure, ⟨.skew, hq, hf, cause⟩, hu⟩

theorem answer_warned : (client.answer sources call).Warned sources := by
  refine ⟨fun hnone => ?_, fun failure hf hu => ?_, fun failure hf hu => ?_,
    client.failure?_answer_isUnknownSkew_iff sources call⟩
  all_goals obtain ⟨failure', hf', hlog⟩ | ⟨hf', hquiet⟩ := client.log_answer_cases sources call
  · rw [hf'] at hnone
    cases hnone
  · exact hquiet
  · obtain rfl := Option.some.inj (hf.symm.trans hf')
    rw [hlog]
    exact SourceFailure.exists_warns hu
  · rw [hf] at hf'
    cases hf'
  · obtain rfl := Option.some.inj (hf.symm.trans hf')
    rw [hlog, SourceFailure.events_of_isUnknownSkew hu]
  · rw [hf] at hf'
    cases hf'

/-! ## Runs -/

theorem run_warned (steps : List (Call × Sources α)) :
    List.Forall₂ (fun step x => x.Warned step.2) steps (client.run steps) := by
  rw [run, List.forall₂_map_right_iff, List.forall₂_same]
  exact fun step _ => client.answer_warned step.2 step.1

/-- The warnings of a series of calls are what there is to report about its failures. -/
theorem clientWarnings_run (steps : List (Call × Sources α)) :
    clientWarnings ((client.run steps).flatMap (·.log)) =
      ((client.run steps).filterMap (·.failure?)).flatMap (·.events) := by
  induction steps with
  | nil => rfl
  | cons step steps ih =>
    rw [run, List.map_cons, ← run, List.flatMap_cons, clientWarnings_append, ih]
    obtain ⟨failure, hf, hlog⟩ | ⟨hf, hquiet⟩ := client.log_answer_cases step.2 step.1
    · rw [hlog, failure.clientWarnings_events, List.filterMap_cons_some hf, List.flatMap_cons]
    · rw [hquiet, List.filterMap_cons_none hf, List.nil_append]

end Client

/-! ## Main result -/

section Main

variable [Add α] [Sub α] [Mul α] [Neg α] [Div α] [IntCast α] [LT α] [DecidableLT α]
  [OfScientific α] [SquareRoot α]

/-- Whatever the sources do in a run, each call warns once of the failure that it ends with, and of
nothing if it ends otherwise. The warnings of the run correspond in order to the failures, all but
those for want of a skew, so that they are as many as the failures exactly if there is none of
these. -/
theorem run_warnings (config : Config) (options : Option Options) (script : Script α)
    (calls : List Call) :
    let client := Client.ofConfig config options
    let steps := client.timeline script calls
    let exchanges := client.run steps
    let failures := exchanges.filterMap (·.failure?)
    let warnings := clientWarnings (Client.greeting config :: exchanges.flatMap (·.log))
    List.Forall₂ (fun step x => x.Warned step.2) steps exchanges ∧
      List.Forall₂ SourceFailure.Warns (failures.filter (¬ ·.IsUnknownSkew)) warnings ∧
      (warnings.length = failures.length ↔ ∀ failure ∈ failures, ¬ failure.IsUnknownSkew) := by
  intro client steps exchanges failures warnings
  have reported : warnings = failures.flatMap (·.events) := client.clientWarnings_run steps
  have corresponds := SourceFailure.forall₂_warns failures
  rw [← reported] at corresponds
  refine ⟨client.run_warned steps, corresponds, ?_⟩
  rw [← corresponds.length_eq, List.length_filter_eq_length_iff]
  simp only [decide_eq_true_eq]

/-! ### A skew that is not known yet -/

/-- Sources that have nothing to give. -/
def unsynced : Script Float :=
  ⟨fun _ => .nothing, fun _ => .nothing⟩

/-- A client that asks these sources for a snapshot and then for the skew fails twice and warns
once. -/
theorem unsynced_unreported :
    ∃ config : Config,
      let client := Client.ofConfig config none
      let exchanges := client.run (client.timeline unsynced [.snapshot, .skew])
      exchanges.filterMap (·.failure?) = [.empty .snapshot, .empty .skew] ∧
      clientWarnings (Client.greeting config :: exchanges.flatMap (·.log)) = [.noSnapshot] :=
  ⟨⟨"", .standard, none, plainName_empty, invertibleTarget_none⟩, rfl, rfl⟩

end Main

end RobotTelemetry
