import RobotTelemetry.Text.Quoted
import RobotTelemetry.Frames.Anchor
import RobotTelemetry.State.Basic
/-!
# Events and logged computations

What the library has to tell besides its results are events. A logged computation collects them in
order; one that fails keeps the events from before its failure.
-/

namespace RobotTelemetry

/-- How urgent an event is. -/
inductive Level where
  | debug
  | warning
deriving DecidableEq

/-- The name of a level. -/
def Level.name : Level → String
  | debug => "DEBUG"
  | warning => "WARNING"

/-- Something that happened on the way to a result. -/
inductive Event where
  /-- The frame to be published inverted is the root and has no edge. -/
  | targetIsRoot (frame : String)
  /-- The edge from `parent` to `child` is published inverted. -/
  | invertedEdge (parent child : String)
  /-- A snapshot has become a robot state. -/
  | stateReady (framePrefix : String) (anchor : Anchor) (facets : List Facet) (transforms : Nat)
  /-- A client is ready to be asked. -/
  | clientReady (framePrefix inverseTarget : String) (anchor : Anchor)
  /-- The request for a snapshot failed. -/
  | requestFailed (reason : String)
  /-- The request for a snapshot was answered without one. -/
  | noSnapshot
  /-- The query for the clock skew failed. -/
  | skewFailed (reason : String)
deriving DecidableEq

namespace Event

/-- The urgency of an event. -/
def level : Event → Level
  | targetIsRoot _ | requestFailed _ | noSnapshot | skewFailed _ => .warning
  | invertedEdge _ _ | stateReady _ _ _ _ | clientReady _ _ _ => .debug

/-- The part of the library an event comes from. -/
def source : Event → String
  | targetIsRoot _ | invertedEdge _ _ => "spot_state_bridge.frames.tree"
  | stateReady _ _ _ _ => "spot_state_bridge.translator"
  | clientReady _ _ _ | requestFailed _ | noSnapshot | skewFailed _ => "spot_state_bridge.client"

/-- The text of an event. -/
def message : Event → String
  | targetIsRoot frame =>
      s!"Inverse target {frame} is the root of the frame tree; it has no edge to invert."
  | invertedEdge parent child =>
      s!"Inverting edge {parent} -> {child} so {child} becomes the parent."
  | stateReady framePrefix anchor facets transforms =>
      "Translated robot state | prefix=" ++ Text.quoted framePrefix ++ " | odom_frame=" ++
        anchor.frame ++ " | facets=" ++ ",".intercalate (facets.map (·.name)) ++
        " | transforms=" ++ toString transforms
  | clientReady framePrefix inverseTarget anchor =>
      "Initializing SpotStateClient | prefix=" ++ Text.quoted framePrefix ++
        " | inverse_target=" ++ inverseTarget ++ " | odom_frame=" ++ anchor.frame
  | requestFailed reason => "Robot state request failed: " ++ reason
  | noSnapshot => "Robot state response carried no robot state."
  | skewFailed reason => "Clock skew query failed: " ++ reason

end Event

/-! ### Logged computations -/

/-- The events of a computation and how it ended. -/
structure Logged (ε β : Type) where
  log : List Event
  outcome : Except ε β

namespace Logged

variable {ε β γ : Type}

/-- A computation without events. -/
def ofExcept (outcome : Except ε β) : Logged ε β :=
  ⟨[], outcome⟩

/-- Reports events. -/
def report (events : List Event) : Logged ε Unit :=
  ⟨events, .ok ()⟩

/-- One computation after another. -/
def andThen (x : Logged ε β) (f : β → Logged ε γ) : Logged ε γ :=
  match x.outcome with
  | .error e => ⟨x.log, .error e⟩
  | .ok a => ⟨x.log ++ (f a).log, (f a).outcome⟩

/-- A failure keeps the events from before it and reports none after. -/
theorem andThen_of_error {x : Logged ε β} {e : ε} (h : x.outcome = .error e)
    (f : β → Logged ε γ) : x.andThen f = ⟨x.log, .error e⟩ := by
  rw [andThen, h]

theorem andThen_of_ok {x : Logged ε β} {a : β} (h : x.outcome = .ok a) (f : β → Logged ε γ) :
    x.andThen f = ⟨x.log ++ (f a).log, (f a).outcome⟩ := by
  rw [andThen, h]

instance : Monad (Logged ε) where
  pure a := ⟨[], .ok a⟩
  bind := andThen

/-- Renames the errors of a computation. -/
def mapError {ε' : Type} (f : ε → ε') (x : Logged ε β) : Logged ε' β :=
  ⟨x.log, x.outcome.mapError f⟩

end Logged

end RobotTelemetry
