import RobotTelemetry.Proofs.Reading
/-!
# Qualified names

A prefix acts on a robot state by standing in front of every frame id and joint name, and on nothing
else (`RobotState.qualified`). Reading a snapshot with a longer prefix is reading it with the rest of
the prefix and then letting the first part act: the inverse target is compared with qualified names,
and a common first part of two texts does not change whether they are equal. The main result is
`toState_append_prefix`.
-/

namespace RobotTelemetry

variable {α : Type}

/-! ## The action of a prefix

Each record puts the prefix in front of the names it holds. -/

def Transform.qualified (p : String) (t : Transform α) : Transform α :=
  { t with parent := p ++ t.parent, child := p ++ t.child }

def JointState.qualified (p : String) (j : JointState α) : JointState α :=
  { j with name := p ++ j.name }

def JointStates.qualified (p : String) (j : JointStates α) : JointStates α :=
  { j with joints := j.joints.map (·.qualified p) }

def StampedTwist.qualified (p : String) (t : StampedTwist α) : StampedTwist α :=
  { t with frame := p ++ t.frame }

def Odometry.qualified (p : String) (o : Odometry α) : Odometry α :=
  { o with frame := p ++ o.frame, childFrame := p ++ o.childFrame }

def EndEffectorForce.qualified (p : String) (f : EndEffectorForce α) : EndEffectorForce α :=
  { f with frame := p ++ f.frame }

/-- A robot state with a prefix in front of every frame id and joint name. The frame of a foot's
terrain is the robot's own name for it and stays as it is. -/
def RobotState.qualified (p : String) (state : RobotState α) : RobotState α :=
  { state with
    joints := state.joints.map (·.qualified p)
    transforms := state.transforms.map (List.map (·.qualified p))
    bodyTwist := state.bodyTwist.map (·.qualified p)
    odometry := state.odometry.map (·.qualified p)
    correctedOdometry := state.correctedOdometry.map (·.qualified p)
    endEffectorForce := state.endEffectorForce.map (·.qualified p) }

/-- An event of a reading with a prefix in front of its frames and of the prefix it names. -/
def Event.qualified (p : String) : Event → Event
  | .targetIsRoot frame => .targetIsRoot (p ++ frame)
  | .invertedEdge parent child => .invertedEdge (p ++ parent) (p ++ child)
  | .stateReady framePrefix anchor facets transforms =>
      .stateReady (p ++ framePrefix) anchor facets transforms
  | event => event

/-- A naming with a prefix in front of its own prefix and of its inverse target. -/
def Naming.qualified (p : String) (n : Naming) : Naming :=
  ⟨p ++ n.framePrefix, p ++ n.inverseTarget⟩

def Options.qualified (p : String) (options : Options) : Options :=
  { options with toNaming := options.toNaming.qualified p }

variable {p : String}

/-! ## Published edges -/

namespace Naming

variable {n : Naming} {f : String}

theorem qualify_qualified : (n.qualified p).qualify f = p ++ n.qualify f :=
  String.append_assoc

theorem isTarget_qualified : (n.qualified p).IsTarget f ↔ n.IsTarget f := by
  rw [IsTarget, qualify_qualified]
  exact String.append_right_inj _

end Naming

theorem Edge.event?_qualified {n : Naming} {f : String} {edge : Edge α} :
    edge.event? (n.qualified p) f = (edge.event? n f).map (·.qualified p) := by
  simp only [event?, Naming.isTarget_qualified, Naming.qualify_qualified]
  split
  · split <;> rfl
  · rfl

theorem EdgeMap.events_qualified {m : EdgeMap α} {n : Naming} :
    m.events (n.qualified p) = (m.events n).map (·.qualified p) := by
  simp only [events, Edge.event?_qualified, List.map_filterMap]

section Geometry

variable [Add α] [Sub α] [Mul α] [Neg α] [IntCast α]

theorem Edge.transform?_qualified {n : Naming} {stamp : Stamp} {f : String} {edge : Edge α} :
    edge.transform? (n.qualified p) stamp f =
      (edge.transform? n stamp f).map (·.qualified p) := by
  simp only [transform?, Naming.isTarget_qualified, Naming.qualify_qualified]
  split
  · rfl
  · split <;> rfl

theorem EdgeMap.transforms_qualified {m : EdgeMap α} {n : Naming} {stamp : Stamp} :
    m.transforms (n.qualified p) stamp = (m.transforms n stamp).map (·.qualified p) := by
  simp only [transforms, Edge.transform?_qualified, List.map_filterMap]

end Geometry

/-! ## Joints -/

section Joints

variable [IntCast α] {q : String}

theorem JointReport.state_append {j : JointReport α} :
    j.state (p ++ q) = (j.state q).map (·.qualified p) := by
  unfold state
  split
  · rfl
  · simp only [Joint.qualifiedName, Except.map, JointState.qualified, String.append_assoc]

theorem JointReport.mapM_state_append (js : List (JointReport α)) :
    js.mapM (JointReport.state (p ++ q)) =
      (js.mapM (JointReport.state q)).map (List.map (·.qualified p)) := by
  induction js with
  | nil => rfl
  | cons j js ih =>
    rw [List.mapM_cons, List.mapM_cons, JointReport.state_append, ih]
    cases j.state q with
    | error id => rfl
    | ok state =>
      cases js.mapM (JointReport.state q) with
      | error id => rfl
      | ok states => rfl

theorem KinematicsReport.jointStates_append {k : KinematicsReport α} {skew : Duration} :
    k.jointStates skew (p ++ q) = (k.jointStates skew q).map (·.qualified p) := by
  rw [jointStates, jointStates, JointReport.mapM_state_append]
  cases k.joints.mapM (JointReport.state q) with
  | error id => rfl
  | ok states => rfl

end Joints

/-! ## Readings -/

namespace RobotState

theorem has_qualified (state : RobotState α) (facet : Facet) :
    (state.qualified p).has facet = state.has facet := by
  cases facet with
  | joints | transforms | bodyTwist | odometry | correctedOdometry | endEffectorForce =>
    exact Option.isSome_map
  | _ => rfl

/-- A prefix changes neither which facets are present nor how many transforms there are. -/
theorem summary_qualified (state : RobotState α) (options : Options) :
    (state.qualified p).summary (options.qualified p) = (state.summary options).qualified p := by
  have present : (state.qualified p).present = state.present :=
    List.filter_congr fun facet _ => state.has_qualified facet
  have count : ((state.qualified p).transforms.getD []).length =
      (state.transforms.getD []).length := by
    rw [qualified]
    cases state.transforms with
    | none => rfl
    | some ts => exact List.length_map _
  rw [summary, present, count]
  rfl

end RobotState

namespace Snapshot

variable [Add α] [Sub α] [Mul α] [Neg α] [IntCast α] [Div α] [LT α] [DecidableLT α] [OfScientific α]
  [SquareRoot α] {s : Snapshot α} {skew : Duration} {options : Options}

theorem assemble_qualified (s : Snapshot α) (skew : Duration) (options : Options) (p : String)
    (odometry : Option (Odometry α)) (joints : Option (JointStates α))
    (transforms : Option (List (Transform α))) :
    s.assemble skew (options.qualified p) (odometry.map (·.qualified p))
        (joints.map (·.qualified p)) (transforms.map (List.map (·.qualified p))) =
      (s.assemble skew options odometry joints transforms).qualified p := by
  have twist : s.bodyTwist skew (p ++ options.framePrefix) options.anchor =
      (s.bodyTwist skew options.framePrefix options.anchor).map (·.qualified p) := by
    simp only [bodyTwist, Option.map_map, String.append_assoc]
    rfl
  have force : endEffectorForce skew (p ++ options.framePrefix) s =
      (endEffectorForce skew options.framePrefix s).map (·.qualified p) := by
    simp only [endEffectorForce, Option.map_map, String.append_assoc]
    rfl
  have corrected : (odometry.map (·.qualified p)).map (·.corrected) =
      (odometry.map (·.corrected)).map (·.qualified p) := by
    rw [Option.map_map, Option.map_map]
    rfl
  simp only [assemble, RobotState.qualified, Options.qualified, Naming.qualified, twist, force,
    corrected]

theorem assembled_qualified {k : KinematicsReport α} {pose : Pose (Component α)}
    {joints : JointStates α} :
    s.assembled k skew (options.qualified p) pose (joints.qualified p) =
      (s.assembled k skew options pose joints).qualified p := by
  rw [assembled, assembled, ← assemble_qualified]
  simp only [Option.map_some, KinematicsReport.odometryAt, Odometry.qualified, Options.qualified,
    Naming.qualified, String.append_assoc, ← EdgeMap.transforms_qualified]

theorem toState_qualified (s : Snapshot α) (skew : Duration) (options : Options) (p : String) :
    s.toState skew (options.qualified p) =
      ⟨(s.toState skew options).log.map (·.qualified p),
        (s.toState skew options).outcome.map (·.qualified p)⟩ := by
  rcases hk : s.kinematics with _ | k
  · have state := s.assemble_qualified skew options p none none none
    simp only [Option.map_none] at state
    rw [toState_of_none hk, toState_of_none hk, state, RobotState.summary_qualified]
    rfl
  have pose_eq : k.edges.relativePose (options.qualified p).anchor.frame bodyFrame =
      k.edges.relativePose options.anchor.frame bodyFrame := rfl
  have joints_eq : k.jointStates skew (options.qualified p).framePrefix =
      (k.jointStates skew options.framePrefix).map (·.qualified p) := k.jointStates_append
  -- Neither check looks at the prefix, so that both readings stop at the same one or at none.
  rcases hp : k.edges.relativePose options.anchor.frame bodyFrame with fault | pose
  · rw [toState_of_fault hk hp, toState_of_fault hk (pose_eq.trans hp)]
    rfl
  rcases hj : k.jointStates skew options.framePrefix with id | joints
  · rw [hj] at joints_eq
    rw [toState_of_unknown hk hp hj, toState_of_unknown hk (pose_eq.trans hp) joints_eq]
    rfl
  · rw [hj] at joints_eq
    rw [toState_of_ok hk hp hj, toState_of_ok hk (pose_eq.trans hp) joints_eq,
      assembled_qualified, RobotState.summary_qualified, List.map_append]
    simp only [Options.qualified, EdgeMap.events_qualified]
    rfl

/-! ## Main result -/

/-- Reading with the prefix `p ++ q` and an inverse target below it is reading with the prefix `q`
and then putting `p` in front of every name: the same edge is turned round, all else is equal, and
the one reading fails exactly if the other does, with the same error. -/
theorem toState_append_prefix (s : Snapshot α) (skew : Duration) (anchor : Anchor)
    (p q t : String) :
    (s.toState skew ⟨⟨p ++ q, p ++ q ++ t⟩, anchor⟩).outcome =
        (s.toState skew ⟨⟨q, q ++ t⟩, anchor⟩).outcome.map (·.qualified p) ∧
      (∀ e, (s.toState skew ⟨⟨p ++ q, p ++ q ++ t⟩, anchor⟩).outcome = .error e ↔
        (s.toState skew ⟨⟨q, q ++ t⟩, anchor⟩).outcome = .error e) ∧
      (s.toState skew ⟨⟨p ++ q, p ++ q ++ t⟩, anchor⟩).log =
        (s.toState skew ⟨⟨q, q ++ t⟩, anchor⟩).log.map (·.qualified p) := by
  have h := s.toState_qualified skew ⟨⟨q, q ++ t⟩, anchor⟩ p
  simp only [Options.qualified, Naming.qualified, ← String.append_assoc] at h
  rw [h]
  refine ⟨rfl, fun e => ?_, rfl⟩
  cases (s.toState skew ⟨⟨q, q ++ t⟩, anchor⟩).outcome with
  | error e' => rfl
  | ok state => exact ⟨nofun, nofun⟩

end Snapshot

end RobotTelemetry
