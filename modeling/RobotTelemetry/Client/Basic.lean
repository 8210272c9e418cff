import RobotTelemetry.Client.Fault
import RobotTelemetry.Config
/-!
# Clients

A client asks one source for a snapshot and another for the clock skew and reads the robot state. It
asks each source at most once per call and never again after a failure. An exchange records what was
asked, what was reported, and how the call ended.
-/

namespace RobotTelemetry

/-- What a source does when it is asked. -/
inductive Answer (β : Type) where
  | value (x : β)
  | nothing
  | failure (fault : Fault)

/-- The two sources as they behave during one call. -/
structure Sources (α : Type) where
  snapshot : Answer (Snapshot α)
  skew : Answer Duration

/-- What a source is asked for. -/
inductive Query where
  | snapshot
  | skew
deriving DecidableEq

/-- Why a source gave no value: it failed, or it answered without one. -/
inductive SourceFailure where
  | failed (query : Query) (fault : Fault)
  | empty (query : Query)

namespace SourceFailure

/-- What a failed query was to get. -/
def subject : Query → String
  | .snapshot => "Failed to get robot state: "
  | .skew => "Failed to get latest clock skew: "

/-- What an answer without a value means. -/
def emptyReason : Query → String
  | .snapshot => "response carried no robot state"
  | .skew => "time sync has not converged"

/-- What is said about a source that gave no value. -/
def message : SourceFailure → String
  | failed query fault => subject query ++ fault.text
  | empty query => subject query ++ emptyReason query

/-- The fault behind a failure. -/
def cause? : SourceFailure → Option Fault
  | failed _ fault => some fault
  | empty _ => none

/-- What is reported about a failure. A skew that is not known yet is no cause for a report. -/
def events : SourceFailure → List Event
  | failed .snapshot fault => [.requestFailed fault.text]
  | failed .skew fault => [.skewFailed fault.text]
  | empty .snapshot => [.noSnapshot]
  | empty .skew => []

end SourceFailure

/-- Why a call fails. -/
inductive CallError where
  | source (failure : SourceFailure)
  | state (error : StateError)

/-- What is said about a call that fails. -/
def CallError.message : CallError → String
  | source failure => failure.message
  | state error => error.message

/-! ### Exchanges -/

/-- What was asked in a call, what was reported, and how it ended. -/
structure Exchange (β : Type) where
  asked : List Query
  log : List Event
  outcome : Except CallError β

namespace Exchange

variable {β γ : Type}

/-- One exchange after another. -/
def andThen (x : Exchange β) (f : β → Exchange γ) : Exchange γ :=
  match x.outcome with
  | .error e => ⟨x.asked, x.log, .error e⟩
  | .ok a => ⟨x.asked ++ (f a).asked, x.log ++ (f a).log, (f a).outcome⟩

/-- After a failure nothing more is asked. -/
theorem andThen_of_error {x : Exchange β} {e : CallError} (h : x.outcome = .error e)
    (f : β → Exchange γ) : x.andThen f = ⟨x.asked, x.log, .error e⟩ := by
  rw [andThen, h]

theorem andThen_of_ok {x : Exchange β} {a : β} (h : x.outcome = .ok a) (f : β → Exchange γ) :
    x.andThen f = ⟨x.asked ++ (f a).asked, x.log ++ (f a).log, (f a).outcome⟩ := by
  rw [andThen, h]

instance : Monad Exchange where
  pure a := ⟨[], [], .ok a⟩
  bind := andThen

/-- Asks a source. -/
def ask (query : Query) : Answer β → Exchange β
  | .value x => ⟨[query], [], .ok x⟩
  | .nothing => fail (.empty query)
  | .failure fault => fail (.failed query fault)
where
  fail (failure : SourceFailure) : Exchange β :=
    ⟨[query], failure.events, .error (.source failure)⟩

/-- A computation that asks nothing. -/
def ofLogged (x : Logged StateError β) : Exchange β :=
  ⟨[], x.log, x.outcome.mapError .state⟩

end Exchange

/-! ### Calls -/

/-- A client reads robot states under fixed options. -/
structure Client where
  options : Options
deriving DecidableEq

/-- What a client can be asked for. -/
inductive Call where
  | state
  | snapshot
  | skew
deriving DecidableEq

/-- What a call gives. -/
inductive Result (α : Type) where
  | state (state : RobotState α)
  | snapshot (snapshot : Snapshot α)
  | skew (skew : Duration)

namespace Client

/-- The client of a configuration, unless other options are given. -/
def ofConfig (config : Config) (options : Option Options) : Client :=
  ⟨options.getD config.options⟩

/-- What is reported when a client is made: the options of its configuration. -/
def greeting (config : Config) : Event :=
  .clientReady config.framePrefix config.inverseTargetFrame config.anchor

variable {α : Type}

/-- Asks for a snapshot. -/
def fetchSnapshot (sources : Sources α) : Exchange (Snapshot α) :=
  .ask .snapshot sources.snapshot

/-- Asks for the clock skew. -/
def fetchSkew (sources : Sources α) : Exchange Duration :=
  .ask .skew sources.skew

variable [Add α] [Sub α] [Mul α] [Neg α] [Div α] [IntCast α] [LT α] [DecidableLT α]
  [OfScientific α] [SquareRoot α]

/-- Asks for a snapshot, then for the clock skew, and reads the robot state. -/
def fetchState (client : Client) (sources : Sources α) : Exchange (RobotState α) := do
  let snapshot ← fetchSnapshot sources
  let skew ← fetchSkew sources
  .ofLogged (snapshot.toState skew client.options)

/-- Answers a call. -/
def answer (client : Client) (sources : Sources α) : Call → Exchange (Result α)
  | .state => (client.fetchState sources).andThen fun s => pure (.state s)
  | .snapshot => (fetchSnapshot sources).andThen fun s => pure (.snapshot s)
  | .skew => (fetchSkew sources).andThen fun s => pure (.skew s)

/-- The exchanges of a series of calls, each with what the sources do during it. -/
def run (client : Client) (calls : List (Call × Sources α)) : List (Exchange (Result α)) :=
  calls.map fun (call, sources) => client.answer sources call

end Client

/-- How often a source was asked up to each exchange. -/
def askedSoFar {β : Type} (query : Query) (exchanges : List (Exchange β)) : List Nat :=
  go 0 exchanges
where
  go (before : Nat) : List (Exchange β) → List Nat
    | [] => []
    | x :: xs => (before + x.asked.count query) :: go (before + x.asked.count query) xs

end RobotTelemetry
