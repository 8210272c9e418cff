import Mathlib.Data.List.Forall2
import RobotTelemetry.Client.Basic
/-!
# Runs of a client

In a run each source follows a script: whenever it is asked, it gives its next answer. A call asks
for a snapshot, for the skew, or for both in this order, and it asks for the skew only if there is a
snapshot to go with it (`Call.queries`). It fails on behalf of a source exactly if one that it asked
gave no value (`Client.Follows`). Nothing but the scripts carries over from one call to the next, so
that after any history a run goes on as that of a new client on what is left of them. The main
result is `run_follows_protocol`.
-/

namespace RobotTelemetry

variable {α : Type}

/-! ## Answers -/

namespace Answer

variable {β : Type} {query : Query} {answer : Answer β} {failure : SourceFailure}

def isValue : Answer β → Bool
  | .value _ => true
  | .nothing | .failure _ => false

/-- The fault that a source raises in place of an answer. -/
def fault? : Answer β → Option Fault
  | .failure fault => some fault
  | .value _ | .nothing => none

/-- How a query fails, if its answer carries no value. -/
def failure? (query : Query) : Answer β → Option SourceFailure
  | .value _ => none
  | .nothing => some (.empty query)
  | .failure fault => some (.failed query fault)

theorem value_or_failure? (query : Query) (answer : Answer β) :
    (∃ x, answer = .value x) ∨ ∃ failure, answer.failure? query = some failure := by
  cases answer with
  | value x => exact .inl ⟨x, rfl⟩
  | nothing | failure fault => exact .inr ⟨_, rfl⟩

theorem isValue_of_failure? (h : answer.failure? query = some failure) :
    answer.isValue = false := by
  cases answer with
  | value x => cases h
  | nothing | failure fault => rfl

/-- The cause of a failure is what the source raised. -/
theorem cause?_of_failure? (h : answer.failure? query = some failure) :
    failure.cause? = answer.fault? := by
  cases answer with
  | value x => cases h
  | nothing | failure fault =>
    obtain rfl := Option.some.inj h
    rfl

theorem ask_of_failure? (h : answer.failure? query = some failure) :
    Exchange.ask query answer = ⟨[query], failure.events, .error (.source failure)⟩ := by
  cases answer with
  | value x => cases h
  | nothing | failure fault =>
    obtain rfl := Option.some.inj h
    rfl

end Answer

namespace Sources

def fault? (sources : Sources α) : Query → Option Fault
  | .snapshot => sources.snapshot.fault?
  | .skew => sources.skew.fault?

/-- How a query of these sources fails, if it does. -/
def failure? (sources : Sources α) : Query → Option SourceFailure
  | .snapshot => sources.snapshot.failure? .snapshot
  | .skew => sources.skew.failure? .skew

theorem cause?_of_failure? {sources : Sources α} {query : Query} {failure : SourceFailure}
    (h : sources.failure? query = some failure) : failure.cause? = sources.fault? query := by
  cases query with
  | snapshot | skew => exact Answer.cause?_of_failure? h

/-- The sources give the same answer to a query. -/
def SameAnswer (sources sources' : Sources α) : Query → Prop
  | .snapshot => sources.snapshot = sources'.snapshot
  | .skew => sources.skew = sources'.skew

end Sources

/-! ## Single calls -/

/-- What is asked in a call, in order. -/
def Call.queries (sources : Sources α) : Call → List Query
  | .snapshot => [.snapshot]
  | .skew => [.skew]
  | .state => if sources.snapshot.isValue then [.snapshot, .skew] else [.snapshot]

theorem mapError_state_ne_source {β : Type} (given : Except StateError β)
    (failure : SourceFailure) : given.mapError CallError.state ≠ .error (.source failure) := by
  cases given <;> simp [Except.mapError]

theorem mapError_state_inj {β : Type} {given given' : Except StateError β}
    (h : given.mapError CallError.state = given'.mapError .state) : given = given' := by
  cases given <;> cases given' <;> simp_all [Except.mapError]

namespace Client

variable [Add α] [Sub α] [Mul α] [Neg α] [Div α] [IntCast α] [LT α] [DecidableLT α]
  [OfScientific α] [SquareRoot α]

/-- What a call gives once the queries it makes have values. The error of a reading is passed on. -/
inductive Gives (client : Client) (sources : Sources α) :
    Call → Except StateError (Result α) → Prop
  | snapshot {s : Snapshot α} : sources.snapshot = .value s →
      client.Gives sources .snapshot (.ok (.snapshot s))
  | skew {skew : Duration} : sources.skew = .value skew →
      client.Gives sources .skew (.ok (.skew skew))
  | state {s : Snapshot α} {skew : Duration} : sources.snapshot = .value s →
      sources.skew = .value skew →
      client.Gives sources .state ((s.toState skew client.options).outcome.map .state)

/-- An exchange is what the protocol makes of a call: each query is made once and in order, one
without a value ends it with that failure, and else it ends with what the call gives. It is the same
exchange with any sources that give the same answers to the queries it makes. -/
structure Follows (client : Client) (sources : Sources α) (call : Call) (x : Exchange (Result α)) :
    Prop where
  asked_eq : x.asked = call.queries sources
  failed_iff : ∀ failure, x.outcome = .error (.source failure) ↔
    ∃ query ∈ x.asked, sources.failure? query = some failure ∧
      failure.cause? = sources.fault? query
  given_iff : ∀ given, x.outcome = given.mapError .state ↔ client.Gives sources call given
  eq_of_same : ∀ sources', (∀ query ∈ x.asked, sources.SameAnswer sources' query) →
    client.answer sources' call = x

variable {client : Client} {sources sources' : Sources α} {call : Call} {s : Snapshot α}
  {skew : Duration} {failure : SourceFailure} {given given' : Except StateError (Result α)}

theorem Gives.failure?_eq_none (h : client.Gives sources call given) {query : Query}
    (hq : query ∈ call.queries sources) : sources.failure? query = none := by
  cases h with
  | snapshot hs =>
    obtain rfl := List.mem_singleton.1 hq
    rw [Sources.failure?, hs, Answer.failure?]
  | skew hd =>
    obtain rfl := List.mem_singleton.1 hq
    rw [Sources.failure?, hd, Answer.failure?]
  | state hs hd => cases query <;> simp [Sources.failure?, hs, hd, Answer.failure?]

theorem Gives.unique (h : client.Gives sources call given)
    (h' : client.Gives sources call given') : given = given' := by
  cases h <;> cases h' <;> simp_all

/-! ### The exchange of each call -/

theorem answer_snapshot (hs : sources.snapshot = .value s) :
    client.answer sources .snapshot = ⟨[.snapshot], [], .ok (.snapshot s)⟩ := by
  rw [answer, fetchSnapshot, hs]
  rfl

theorem answer_skew (hd : sources.skew = .value skew) :
    client.answer sources .skew = ⟨[.skew], [], .ok (.skew skew)⟩ := by
  rw [answer, fetchSkew, hd]
  rfl

theorem answer_of_snapshot_failure (hcall : call ≠ .skew)
    (hf : sources.snapshot.failure? .snapshot = some failure) :
    client.answer sources call = ⟨[.snapshot], failure.events, .error (.source failure)⟩ := by
  have fetched : fetchSnapshot sources = _ := Answer.ask_of_failure? hf
  cases call with
  | skew => exact absurd rfl hcall
  | snapshot =>
    rw [answer, fetched]
    rfl
  | state =>
    have ended : client.fetchState sources =
        ⟨[.snapshot], failure.events, .error (.source failure)⟩ := by
      rw [fetchState, fetched]
      rfl
    rw [answer, ended]
    rfl

theorem answer_skew_of_failure (hf : sources.skew.failure? .skew = some failure) :
    client.answer sources .skew = ⟨[.skew], failure.events, .error (.source failure)⟩ := by
  have fetched : fetchSkew sources = _ := Answer.ask_of_failure? hf
  rw [answer, fetched]
  rfl

theorem answer_state_of_skew_failure (hs : sources.snapshot = .value s)
    (hf : sources.skew.failure? .skew = some failure) :
    client.answer sources .state =
      ⟨[.snapshot, .skew], failure.events, .error (.source failure)⟩ := by
  have fetched : fetchSkew sources = _ := Answer.ask_of_failure? hf
  have ended : client.fetchState sources =
      ⟨[.snapshot, .skew], failure.events, .error (.source failure)⟩ := by
    rw [fetchState, fetched, fetchSnapshot, hs]
    rfl
  rw [answer, ended]
  rfl

theorem answer_state (hs : sources.snapshot = .value s) (hd : sources.skew = .value skew) :
    client.answer sources .state = ⟨[.snapshot, .skew], (s.toState skew client.options).log,
      ((s.toState skew client.options).outcome.map .state).mapError .state⟩ := by
  have fetched : client.fetchState sources = ⟨[.snapshot, .skew],
      (s.toState skew client.options).log,
      (s.toState skew client.options).outcome.mapError .state⟩ := by
    rw [fetchState, fetchSkew, fetchSnapshot, hs, hd]
    rfl
  rw [answer, fetched]
  cases (s.toState skew client.options).outcome with
  | error e => rfl
  | ok state => simp [Exchange.andThen, pure, Except.mapError, Except.map]

/-! ### The protocol of a call -/

theorem follows_of_failure {log : List Event} (query : Query)
    (hq : query ∈ call.queries sources) (hf : sources.failure? query = some failure)
    (only : ∀ other ∈ call.queries sources, other ≠ query → sources.failure? other = none)
    (h : client.answer sources call = ⟨call.queries sources, log, .error (.source failure)⟩)
    (same : ∀ sources', (∀ other ∈ call.queries sources, sources.SameAnswer sources' other) →
      client.answer sources' call = client.answer sources call) :
    client.Follows sources call (client.answer sources call) := by
  rw [h] at same ⊢
  refine ⟨rfl, fun failure' => ⟨fun hx => ?_, ?_⟩, fun given => ⟨fun hx => ?_, fun hg => ?_⟩, same⟩
  · obtain rfl : failure = failure' := by simpa using hx
    exact ⟨query, hq, hf, Sources.cause?_of_failure? hf⟩
  · rintro ⟨other, hother, hf', -⟩
    by_cases he : other = query
    · subst he
      rw [hf, Option.some.injEq] at hf'
      rw [hf']
    · rw [only other hother he] at hf'
      cases hf'
  · exact absurd hx.symm (mapError_state_ne_source given failure)
  · rw [hg.failure?_eq_none hq] at hf
    cases hf

theorem follows_of_gives {log : List Event} (hg : client.Gives sources call given)
    (h : client.answer sources call = ⟨call.queries sources, log, given.mapError .state⟩)
    (same : ∀ sources', (∀ other ∈ call.queries sources, sources.SameAnswer sources' other) →
      client.answer sources' call = client.answer sources call) :
    client.Follows sources call (client.answer sources call) := by
  rw [h] at same ⊢
  refine ⟨rfl, fun failure => ⟨fun hx => ?_, ?_⟩, fun given' => ⟨fun hx => ?_, fun hg' => ?_⟩, same⟩
  · exact absurd hx (mapError_state_ne_source given failure)
  · rintro ⟨query, hquery, hf, -⟩
    rw [hg.failure?_eq_none hquery] at hf
    cases hf
  · rwa [← mapError_state_inj hx]
  · rw [hg.unique hg']

theorem answer_eq_of_same
    (h : ∀ query ∈ call.queries sources, sources.SameAnswer sources' query) :
    client.answer sources' call = client.answer sources call := by
  cases call with
  | snapshot =>
    have hs : sources.snapshot = sources'.snapshot := h .snapshot (List.mem_singleton_self _)
    rw [answer, answer, fetchSnapshot, fetchSnapshot, hs]
  | skew =>
    have hd : sources.skew = sources'.skew := h .skew (List.mem_singleton_self _)
    rw [answer, answer, fetchSkew, fetchSkew, hd]
  | state =>
    have hs : sources.snapshot = sources'.snapshot := h .snapshot (by
      rw [Call.queries]
      split <;> exact List.mem_cons_self)
    rcases sources.snapshot.value_or_failure? .snapshot with ⟨s, hv⟩ | ⟨failure, hf⟩
    · have hd : sources.skew = sources'.skew := h .skew (by
        simp [Call.queries, hv, Answer.isValue])
      rw [answer, answer, fetchState, fetchState, fetchSnapshot, fetchSnapshot, fetchSkew, fetchSkew,
        hs, hd]
    · have hf' : sources'.snapshot.failure? .snapshot = some failure := hs ▸ hf
      rw [answer_of_snapshot_failure (by decide) hf, answer_of_snapshot_failure (by decide) hf']

/-- Every call follows the protocol. -/
theorem answer_follows (client : Client) (sources : Sources α) (call : Call) :
    client.Follows sources call (client.answer sources call) := by
  have same (sources' : Sources α)
      (h : ∀ query ∈ call.queries sources, sources.SameAnswer sources' query) :
      client.answer sources' call = client.answer sources call := answer_eq_of_same h
  cases call with
  | snapshot =>
    rcases sources.snapshot.value_or_failure? .snapshot with ⟨s, hs⟩ | ⟨failure, hf⟩
    · exact follows_of_gives (.snapshot hs) (answer_snapshot hs) same
    · exact follows_of_failure .snapshot (List.mem_singleton_self _) hf
        (fun other hother hne => absurd (List.mem_singleton.1 hother) hne)
        (answer_of_snapshot_failure (by decide) hf) same
  | skew =>
    rcases sources.skew.value_or_failure? .skew with ⟨skew, hd⟩ | ⟨failure, hf⟩
    · exact follows_of_gives (.skew hd) (answer_skew hd) same
    · exact follows_of_failure .skew (List.mem_singleton_self _) hf
        (fun other hother hne => absurd (List.mem_singleton.1 hother) hne)
        (answer_skew_of_failure hf) same
  | state =>
    rcases sources.snapshot.value_or_failure? .snapshot with ⟨s, hs⟩ | ⟨failure, hf⟩
    · have both : Call.queries sources .state = [.snapshot, .skew] := by
        rw [Call.queries, hs]
        rfl
      rcases sources.skew.value_or_failure? .skew with ⟨skew, hd⟩ | ⟨failure, hf⟩
      · exact follows_of_gives (.state hs hd) (both ▸ answer_state hs hd) same
      · refine follows_of_failure .skew (by simp [both]) hf (fun other _ hne => ?_)
          (both ▸ answer_state_of_skew_failure hs hf) same
        cases other with
        | snapshot => rw [Sources.failure?, hs, Answer.failure?]
        | skew => exact absurd rfl hne
    · have one : Call.queries sources .state = [.snapshot] := by
        rw [Call.queries, Answer.isValue_of_failure? hf]
        rfl
      refine follows_of_failure .snapshot (by simp [one]) hf (fun other hother hne => ?_)
        (one ▸ answer_of_snapshot_failure (by decide) hf) same
      rw [one] at hother
      exact absurd (List.mem_singleton.1 hother) hne

end Client

/-! ## Scripts -/

/-- What the sources answer in the course of a run, each to one query after another. -/
structure Script (α : Type) where
  snapshots : Nat → Answer (Snapshot α)
  skews : Nat → Answer Duration

namespace Script

def next (script : Script α) : Sources α :=
  ⟨script.snapshots 0, script.skews 0⟩

/-- What is left of a script once queries have been answered. -/
def after (script : Script α) (asked : List Query) : Script α where
  snapshots i := script.snapshots (asked.count .snapshot + i)
  skews i := script.skews (asked.count .skew + i)

@[simp]
theorem after_nil (script : Script α) : script.after [] = script := by
  simp [after]

theorem after_append (script : Script α) (asked asked' : List Query) :
    script.after (asked ++ asked') = (script.after asked).after asked' := by
  simp [after, List.count_append, Nat.add_assoc]

end Script

namespace Call

variable (sources : Sources α) (call : Call)

theorem count_snapshot_queries :
    (call.queries sources).count .snapshot = if call ≠ .skew then 1 else 0 := by
  cases call with
  | snapshot | skew => rfl
  | state =>
    rw [queries]
    split <;> rfl

theorem count_skew_queries : (call.queries sources).count .skew =
    if call = .skew ∨ call = .state ∧ sources.snapshot.isValue then 1 else 0 := by
  cases call with
  | snapshot | skew => rfl
  | state =>
    rw [queries]
    split
    · next h => simp [h]
    · next h => simp [h]

end Call

/-! ## Runs -/

namespace Client

variable [Add α] [Sub α] [Mul α] [Neg α] [Div α] [IntCast α] [LT α] [DecidableLT α]
  [OfScientific α] [SquareRoot α]

/-- A series of calls under a script, each with what the sources do during it. -/
def timeline (client : Client) (script : Script α) : List Call → List (Call × Sources α)
  | [] => []
  | call :: calls => (call, script.next) ::
      client.timeline (script.after (client.answer script.next call).asked) calls

/-- All that is asked in a series of calls, in order. -/
def queries (client : Client) (script : Script α) (calls : List Call) : List Query :=
  (client.run (client.timeline script calls)).flatMap (·.asked)

variable (client : Client) (script : Script α)

theorem queries_cons (call : Call) (calls : List Call) : client.queries script (call :: calls) =
    (client.answer script.next call).asked ++
      client.queries (script.after (client.answer script.next call).asked) calls :=
  rfl

/-- What a run does later, it does on what is left of the script. -/
theorem timeline_append (history calls : List Call) : client.timeline script (history ++ calls) =
    client.timeline script history ++
      client.timeline (script.after (client.queries script history)) calls := by
  induction history generalizing script with
  | nil =>
    show _ = client.timeline (script.after []) calls
    rw [Script.after_nil]
    rfl
  | cons call history ih =>
    rw [queries_cons, Script.after_append, List.cons_append, timeline, timeline, ih]
    rfl

theorem run_append (steps steps' : List (Call × Sources α)) :
    client.run (steps ++ steps') = client.run steps ++ client.run steps' :=
  List.map_append

theorem map_fst_timeline (calls : List Call) :
    (client.timeline script calls).map Prod.fst = calls := by
  induction calls generalizing script with
  | nil => rfl
  | cons call calls ih => rw [timeline, List.map_cons, ih]

/-- What is asked in a run is what each of its calls asks. -/
theorem queries_eq (calls : List Call) : client.queries script calls =
    (client.timeline script calls).flatMap fun step => step.1.queries step.2 := by
  rw [queries, run, List.flatMap_map]
  refine List.flatMap_congr fun step _ => ?_
  exact (client.answer_follows step.2 step.1).asked_eq

theorem count_queries (query : Query) (asks : Call × Sources α → Bool)
    (h : ∀ step, (step.1.queries step.2).count query = if asks step then 1 else 0)
    (calls : List Call) :
    (client.queries script calls).count query = (client.timeline script calls).countP asks := by
  rw [queries_eq]
  induction client.timeline script calls with
  | nil => rfl
  | cons step steps ih =>
    rw [List.flatMap_cons, List.count_append, List.countP_cons, h, ih, Nat.add_comm]

/-- The exchanges of a run follow the protocol one by one. -/
theorem run_follows (steps : List (Call × Sources α)) :
    List.Forall₂ (fun step x => client.Follows step.2 step.1 x) steps (client.run steps) := by
  rw [run, List.forall₂_map_right_iff, List.forall₂_same]
  exact fun step _ => client.answer_follows step.2 step.1

end Client

/-! ## Main result -/

section Main

variable [Add α] [Sub α] [Mul α] [Neg α] [Div α] [IntCast α] [LT α] [DecidableLT α]
  [OfScientific α] [SquareRoot α]

/-- Whatever the sources do in a run, each call follows the protocol. The source of snapshots is
asked once in each call for a snapshot or a state, the source of the skew once in each call for the
skew and in each call for a state that got a snapshot. After any history the run goes on as that of
a new client on the answers that are left. -/
theorem run_follows_protocol (config : Config) (options : Option Options) (script : Script α)
    (calls : List Call) :
    let client := Client.ofConfig config options
    let steps := client.timeline script calls
    steps.map (·.1) = calls ∧
      List.Forall₂ (fun step x => client.Follows step.2 step.1 x) steps (client.run steps) ∧
      (client.queries script calls).count .snapshot = steps.countP (fun step => step.1 ≠ .skew) ∧
      (client.queries script calls).count .skew = steps.countP (fun step =>
        step.1 = .skew ∨ step.1 = .state ∧ step.2.snapshot.isValue) ∧
      ∀ history, client.run (client.timeline script (history ++ calls)) =
        client.run (client.timeline script history) ++ (Client.ofConfig config options).run
          (client.timeline (script.after (client.queries script history)) calls) := by
  intro client steps
  refine ⟨client.map_fst_timeline script calls, client.run_follows steps, ?_, ?_, fun history => ?_⟩
  · refine client.count_queries script .snapshot _ (fun step => ?_) calls
    simp only [decide_eq_true_eq, Call.count_snapshot_queries]
  · refine client.count_queries script .skew _ (fun step => ?_) calls
    simp only [decide_eq_true_eq, Call.count_skew_queries]
  · rw [Client.timeline_append, Client.run_append]

end Main

end RobotTelemetry
