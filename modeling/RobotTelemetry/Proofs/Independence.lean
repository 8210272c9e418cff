import RobotTelemetry.Proofs.EdgeOrder
import RobotTelemetry.Proofs.Refusals
/-!
# What each facet depends on

A robot state is read off a snapshot, the clock skew and the options. `Input.AgreeOn` says, facet by
facet, on what two inputs must agree so that the facet comes out alike; the rest of the snapshot,
the other velocity of the body and the options meant for other facets play no part in it. Whether a
reading succeeds is decided by the edges, the joint ids and the anchor alone
(`Input.AgreeOnChecks`). The main result is `facets_independent`.
-/

namespace RobotTelemetry

variable {α : Type}

/-! ## Inputs that agree -/

/-- What a robot state is read off. -/
structure Input (α : Type) where
  snapshot : Snapshot α
  skew : Duration
  options : Options

namespace Input

def acquired (x : Input α) : Option Timestamp :=
  x.snapshot.kinematics.map (·.acquired)

def joints (x : Input α) : Option (List (JointReport α)) :=
  x.snapshot.kinematics.map (·.joints)

def edges (x : Input α) : Option (EdgeMap α) :=
  x.snapshot.kinematics.map (·.edges)

/-- The velocity of the body in the frame of the anchor that is chosen. -/
def bodyVelocity (x : Input α) : Option (Twist α) :=
  x.snapshot.kinematics.map (·.bodyVelocity x.options.anchor)

/-- The inputs agree on what every facet of the moving parts depends on: whether there are moving
parts, their instant on the local clock, and the prefix. -/
structure AgreeOnMoving (x y : Input α) : Prop where
  acquired : x.acquired = y.acquired
  skew : x.skew = y.skew
  framePrefix : x.options.framePrefix = y.options.framePrefix

/-- The inputs agree on what a facet depends on. -/
def AgreeOn (x y : Input α) : Facet → Prop
  | .batteries => x.snapshot.batteries = y.snapshot.batteries ∧ x.skew = y.skew
  | .wifi => x.snapshot.comms = y.snapshot.comms ∧ x.skew = y.skew
  | .feet => x.snapshot.feet = y.snapshot.feet
  | .estops => x.snapshot.estops = y.snapshot.estops ∧ x.skew = y.skew
  | .joints => x.AgreeOnMoving y ∧ x.joints = y.joints
  | .transforms => x.AgreeOnMoving y ∧ x.edges = y.edges ∧
      x.options.inverseTarget = y.options.inverseTarget
  | .bodyTwist => x.AgreeOnMoving y ∧ x.options.anchor = y.options.anchor ∧
      x.bodyVelocity = y.bodyVelocity
  | .odometry | .correctedOdometry => x.AgreeOnMoving y ∧ x.options.anchor = y.options.anchor ∧
      x.bodyVelocity = y.bodyVelocity ∧ Option.Rel EdgeMap.SameEdges x.edges y.edges
  | .power => x.snapshot.power = y.snapshot.power ∧ x.skew = y.skew
  | .systemFaults => x.snapshot.faults = y.snapshot.faults ∧ x.skew = y.skew
  | .manipulator => x.snapshot.manipulator = y.snapshot.manipulator
  | .endEffectorForce => x.AgreeOnMoving y ∧
      x.snapshot.manipulator.map (·.force) = y.snapshot.manipulator.map (·.force)
  | .behaviorFaults => x.snapshot.behaviorFaults = y.snapshot.behaviorFaults ∧ x.skew = y.skew

/-- The inputs agree on what decides whether a reading succeeds. -/
structure AgreeOnChecks (x y : Input α) : Prop where
  edges : Option.Rel EdgeMap.SameEdges x.edges y.edges
  ids : x.joints.map (List.map (·.id)) = y.joints.map (List.map (·.id))
  anchor : x.options.anchor = y.options.anchor

end Input

/-- Two robot states have the same facet. -/
def RobotState.SameAt (state state' : RobotState α) : Facet → Prop
  | .batteries => state.batteries = state'.batteries
  | .wifi => state.wifi = state'.wifi
  | .feet => state.feet = state'.feet
  | .estops => state.estops = state'.estops
  | .joints => state.joints = state'.joints
  | .transforms => state.transforms = state'.transforms
  | .bodyTwist => state.bodyTwist = state'.bodyTwist
  | .odometry => state.odometry = state'.odometry
  | .correctedOdometry => state.correctedOdometry = state'.correctedOdometry
  | .power => state.power = state'.power
  | .systemFaults => state.systemFaults = state'.systemFaults
  | .manipulator => state.manipulator = state'.manipulator
  | .endEffectorForce => state.endEffectorForce = state'.endEffectorForce
  | .behaviorFaults => state.behaviorFaults = state'.behaviorFaults

theorem rel_eq_iff {β : Type} {x y : Option β} : Option.Rel Eq x y ↔ x = y := by
  constructor
  · intro h
    cases h with
    | none => rfl
    | some e => rw [e]
  · rintro rfl
    cases x with
    | none => exact .none
    | some a => exact .some rfl

/-! ## Checks -/

namespace EdgeMap.SameEdges

variable {m m' : EdgeMap α} {f : String}

theorem mem_keys_iff (h : m.SameEdges m') : f ∈ m.keys ↔ f ∈ m'.keys := by
  rw [EdgeMap.mem_keys_iff, EdgeMap.mem_keys_iff, h f]

theorem malformed_iff (h : m.SameEdges m') : m.Malformed ↔ m'.Malformed := by
  rw [← root?_eq_none_iff, ← root?_eq_none_iff, h.root?_eq]

theorem refused (h : m.SameEdges m') {ids : List String} {anchor : Anchor} {e : StateError}
    (hr : Refused m ids anchor e) : Refused m' ids anchor e := by
  cases hr with
  | malformed bad => exact .malformed (h.malformed_iff.1 bad)
  | missing ok hm =>
    refine .missing (mt h.malformed_iff.2 ok) ?_
    rwa [← h.mem_keys_iff, ← h.mem_keys_iff]
  | unknownJoint ok ha hb hids hbefore hid =>
    exact .unknownJoint (mt h.malformed_iff.2 ok) (h.mem_keys_iff.1 ha) (h.mem_keys_iff.1 hb) hids
      hbefore hid

end EdgeMap.SameEdges

namespace Input

variable {x y : Input α}

theorem AgreeOnChecks.symm (h : x.AgreeOnChecks y) : y.AgreeOnChecks x := by
  refine ⟨?_, h.ids.symm, h.anchor.symm⟩
  have he := h.edges
  generalize x.edges = m, y.edges = m' at he ⊢
  cases he with
  | none => exact .none
  | some same => exact .some same.symm

/-- The moving parts of inputs that agree on the checks are both missing, or both there with the
same edges and joint ids. -/
theorem AgreeOnChecks.kinematics_some (h : x.AgreeOnChecks y) {k : KinematicsReport α}
    (hk : x.snapshot.kinematics = some k) : ∃ k', y.snapshot.kinematics = some k' ∧
      k.edges.SameEdges k'.edges ∧ k.joints.map (·.id) = k'.joints.map (·.id) := by
  have he := h.edges
  have hids := h.ids
  rcases hk' : y.snapshot.kinematics with _ | k'
  · rw [Input.edges, Input.edges, hk, hk'] at he
    cases he
  · rw [Input.edges, Input.edges, hk, hk'] at he
    rw [Input.joints, Input.joints, hk, hk'] at hids
    cases he with
    | some same => exact ⟨k', rfl, same, Option.some.inj hids⟩

/-! ## Moving parts -/

theorem AgreeOnMoving.kinematics_cases (h : x.AgreeOnMoving y) :
    x.snapshot.kinematics = none ∧ y.snapshot.kinematics = none ∨
      ∃ k k', x.snapshot.kinematics = some k ∧ y.snapshot.kinematics = some k' ∧
        k.acquired.corrected x.skew = k'.acquired.corrected y.skew := by
  have ha := h.acquired
  rcases hx : x.snapshot.kinematics with _ | k <;> rcases hy : y.snapshot.kinematics with _ | k' <;>
    rw [Input.acquired, Input.acquired, hx, hy] at ha
  · exact .inl ⟨rfl, rfl⟩
  · cases ha
  · cases ha
  · have hk : k.acquired = k'.acquired := Option.some.inj ha
    exact .inr ⟨k, k', rfl, rfl, by rw [hk, h.skew]⟩

theorem AgreeOnMoving.bodyTwist_eq (h : x.AgreeOnMoving y)
    (ha : x.options.anchor = y.options.anchor) (hv : x.bodyVelocity = y.bodyVelocity) :
    x.snapshot.bodyTwist x.skew x.options.framePrefix x.options.anchor =
      y.snapshot.bodyTwist y.skew y.options.framePrefix y.options.anchor := by
  rcases h.kinematics_cases with ⟨hx, hy⟩ | ⟨k, k', hx, hy, ht⟩
  · rw [Snapshot.bodyTwist, Snapshot.bodyTwist, hx, hy, Option.map_none, Option.map_none]
  · rw [Input.bodyVelocity, Input.bodyVelocity, hx, hy] at hv
    have hk : k.bodyVelocity x.options.anchor = k'.bodyVelocity y.options.anchor :=
      Option.some.inj hv
    rw [Snapshot.bodyTwist, Snapshot.bodyTwist, hx, hy, Option.map_some, Option.map_some, ht, hk,
      h.framePrefix, ha]

theorem AgreeOnMoving.endEffectorForce_eq (h : x.AgreeOnMoving y)
    (hm : x.snapshot.manipulator.map (·.force) = y.snapshot.manipulator.map (·.force)) :
    endEffectorForce x.skew x.options.framePrefix x.snapshot =
      endEffectorForce y.skew y.options.framePrefix y.snapshot := by
  have stamps : x.snapshot.kinematics.map (·.acquired.corrected x.skew) =
      y.snapshot.kinematics.map (·.acquired.corrected y.skew) := by
    rcases h.kinematics_cases with ⟨hx, hy⟩ | ⟨k, k', hx, hy, ht⟩
    · rw [hx, hy, Option.map_none, Option.map_none]
    · rw [hx, hy, Option.map_some, Option.map_some, ht]
  have forces (p : String) (t : Option Stamp) (m : Option (Manipulator α)) :
      m.map (fun m => (⟨t, p ++ handFrame, m.force⟩ : EndEffectorForce α)) =
        (m.map (·.force)).map fun force => ⟨t, p ++ handFrame, force⟩ := by
    rw [Option.map_map]
    rfl
  rw [endEffectorForce, endEffectorForce, forces, forces, hm, stamps, h.framePrefix]

theorem AgreeOnMoving.jointStates_eq [IntCast α] (h : x.AgreeOnMoving y)
    (hj : x.joints = y.joints) : x.snapshot.jointStates x.skew x.options.framePrefix =
      y.snapshot.jointStates y.skew y.options.framePrefix := by
  rcases h.kinematics_cases with ⟨hx, hy⟩ | ⟨k, k', hx, hy, ht⟩
  · rw [Snapshot.jointStates_of_none hx, Snapshot.jointStates_of_none hy]
  · rw [Input.joints, Input.joints, hx, hy] at hj
    have hk : k.joints = k'.joints := Option.some.inj hj
    simp only [Snapshot.jointStates, hx, hy, KinematicsReport.jointStates, hk, ht, h.framePrefix]

theorem sameEdges_of_rel (he : Option.Rel EdgeMap.SameEdges x.edges y.edges) :
    x.snapshot.edges.SameEdges y.snapshot.edges := by
  rcases hx : x.snapshot.kinematics with _ | k <;> rcases hy : y.snapshot.kinematics with _ | k' <;>
    rw [Input.edges, Input.edges, hx, hy] at he <;> rw [Snapshot.edges, Snapshot.edges, hx, hy]
  · exact fun _ => rfl
  · cases he
  · cases he
  · cases he with
    | some same => exact same

variable [Add α] [Sub α] [Mul α] [Neg α] [IntCast α]

theorem AgreeOnMoving.odometryFor_eq (h : x.AgreeOnMoving y)
    (ha : x.options.anchor = y.options.anchor) (hv : x.bodyVelocity = y.bodyVelocity)
    (he : Option.Rel EdgeMap.SameEdges x.edges y.edges) :
    x.snapshot.odometryFor x.skew x.options = y.snapshot.odometryFor y.skew y.options := by
  have twist := h.bodyTwist_eq ha hv
  rw [ha, h.framePrefix] at twist
  simp only [Snapshot.odometryFor, Snapshot.odometry, Snapshot.odometryWith, ha, twist,
    h.framePrefix, (sameEdges_of_rel he).relativePose_eq]

/-! ## Readings -/

variable [Div α] [LT α] [DecidableLT α] [OfScientific α] [SquareRoot α]

/-- The reading of an input. -/
def read (x : Input α) : Logged StateError (RobotState α) :=
  x.snapshot.toState x.skew x.options

theorem AgreeOnChecks.error_of_error (h : x.AgreeOnChecks y) {e : StateError}
    (hx : x.read.outcome = .error e) : y.read.outcome = .error e := by
  rcases Snapshot.toState_cases x.snapshot x.skew x.options with ⟨k, e', hk, he, heq⟩ | ⟨state, heq⟩
  · rw [read, heq, Except.error.injEq] at hx
    subst hx
    obtain ⟨k', hk', same, hids⟩ := h.kinematics_some hk
    rw [hids, h.anchor] at he
    rw [read, Snapshot.toState_of_refused hk' (same.refused he)]
  · rw [read, heq] at hx
    cases hx

theorem ok_iff_no_error (x : Input α) :
    (∃ state, x.read.outcome = .ok state) ↔ ∀ e, x.read.outcome ≠ .error e := by
  cases x.read.outcome <;> simp

/-- What a robot state holds is read off the input: three facets by readers that can fail or that
report something, and the others by assembling. -/
structure Yields (x : Input α) (state : RobotState α) : Prop where
  state_eq : state = x.snapshot.assemble x.skew x.options state.odometry state.joints
    state.transforms
  odometry : x.snapshot.odometryFor x.skew x.options = .ok state.odometry
  joints : x.snapshot.jointStates x.skew x.options.framePrefix = .ok state.joints
  transforms : state.transforms = x.snapshot.kinematics.map fun k =>
    k.edges.transforms x.options.toNaming (k.acquired.corrected x.skew)

theorem yields_of_read {state : RobotState α} (h : x.read.outcome = .ok state) :
    x.Yields state := by
  obtain ⟨hnone, rfl⟩ | ⟨k, pose, joints, hk, hp, hj, rfl⟩ := Snapshot.toState_ok_cases h
  · refine ⟨rfl, Snapshot.odometryFor_of_none hnone, Snapshot.jointStates_of_none hnone _ _, ?_⟩
    rw [hnone]
    rfl
  · refine ⟨rfl, Snapshot.odometryFor_of_ok hk hp, Snapshot.jointStates_of_ok hk hj, ?_⟩
    rw [hk]
    rfl

namespace Yields

variable {state state' : RobotState α}

/-- A facet comes out alike if it is assembled alike. -/
theorem congr (hx : x.Yields state) (hy : y.Yields state') {β : Type} (facet : RobotState α → β)
    (h : facet (x.snapshot.assemble x.skew x.options state.odometry state.joints state.transforms) =
      facet (y.snapshot.assemble y.skew y.options state'.odometry state'.joints
        state'.transforms)) :
    facet state = facet state' := by
  rw [← hx.state_eq, ← hy.state_eq] at h
  exact h

theorem transforms_rel (hx : x.Yields state) (hy : y.Yields state') (h : x.AgreeOnMoving y)
    (ht : x.options.inverseTarget = y.options.inverseTarget)
    {R : EdgeMap α → EdgeMap α → Prop} {S : List (Transform α) → List (Transform α) → Prop}
    (he : Option.Rel R x.edges y.edges)
    (hRS : ∀ m m' n stamp, R m m' → S (m.transforms n stamp) (m'.transforms n stamp)) :
    Option.Rel S state.transforms state'.transforms := by
  have naming : x.options.toNaming = y.options.toNaming := by
    rw [Naming.mk.injEq]
    exact ⟨h.framePrefix, ht⟩
  rw [hx.transforms, hy.transforms]
  rcases h.kinematics_cases with ⟨hxk, hyk⟩ | ⟨k, k', hxk, hyk, stamp⟩
  · rw [hxk, hyk]
    exact .none
  · rw [Input.edges, Input.edges, hxk, hyk] at he
    rw [hxk, hyk, Option.map_some, Option.map_some, naming, stamp]
    cases he with
    | some hr => exact .some (hRS _ _ _ _ hr)

theorem odometry_eq (hx : x.Yields state) (hy : y.Yields state') (h : x.AgreeOnMoving y)
    (ha : x.options.anchor = y.options.anchor) (hv : x.bodyVelocity = y.bodyVelocity)
    (he : Option.Rel EdgeMap.SameEdges x.edges y.edges) : state.odometry = state'.odometry := by
  have placed := h.odometryFor_eq ha hv he
  rw [hx.odometry, hy.odometry] at placed
  exact Except.ok.inj placed

/-- A facet depends on nothing but what the inputs agree on. -/
theorem sameAt (hx : x.Yields state) (hy : y.Yields state') {facet : Facet}
    (h : x.AgreeOn y facet) : state.SameAt state' facet := by
  cases facet with
  | batteries =>
    refine hx.congr hy (·.batteries) ?_
    show batteryStates x.skew x.snapshot.batteries = batteryStates y.skew y.snapshot.batteries
    rw [h.1, h.2]
  | wifi =>
    refine hx.congr hy (·.wifi) ?_
    show wifiState x.skew x.snapshot.comms = wifiState y.skew y.snapshot.comms
    rw [h.1, h.2]
  | feet => exact hx.congr hy (·.feet) (congrArg presentList h)
  | estops =>
    refine hx.congr hy (·.estops) ?_
    show estopStates x.skew x.snapshot.estops = estopStates y.skew y.snapshot.estops
    rw [h.1, h.2]
  | joints =>
    have read := h.1.jointStates_eq h.2
    rw [hx.joints, hy.joints] at read
    exact Except.ok.inj read
  | transforms =>
    obtain ⟨moving, edges, target⟩ := h
    exact rel_eq_iff.1 (hx.transforms_rel hy moving target (rel_eq_iff.2 edges)
      fun m m' n stamp e => by rw [e])
  | bodyTwist => exact hx.congr hy (·.bodyTwist) (h.1.bodyTwist_eq h.2.1 h.2.2)
  | odometry => exact hx.odometry_eq hy h.1 h.2.1 h.2.2.1 h.2.2.2
  | correctedOdometry =>
    refine hx.congr hy (·.correctedOdometry) ?_
    exact congrArg (Option.map (·.corrected)) (hx.odometry_eq hy h.1 h.2.1 h.2.2.1 h.2.2.2)
  | power =>
    refine hx.congr hy (·.power) ?_
    show x.snapshot.power.map (·.state x.skew) = y.snapshot.power.map (·.state y.skew)
    rw [h.1, h.2]
  | systemFaults =>
    refine hx.congr hy (·.systemFaults) ?_
    show x.snapshot.faults.map (·.state x.skew) = y.snapshot.faults.map (·.state y.skew)
    rw [h.1, h.2]
  | manipulator => exact hx.congr hy (·.manipulator) h
  | endEffectorForce => exact hx.congr hy (·.endEffectorForce) (h.1.endEffectorForce_eq h.2)
  | behaviorFaults =>
    refine hx.congr hy (·.behaviorFaults) ?_
    show x.snapshot.behaviorFaults.map (List.map (·.state x.skew)) =
      y.snapshot.behaviorFaults.map (List.map (·.state y.skew))
    rw [h.1, h.2]

end Yields

end Input

/-! ## Main result -/

section Main

variable [Add α] [Sub α] [Mul α] [Neg α] [IntCast α] [Div α] [LT α] [DecidableLT α]
  [OfScientific α] [SquareRoot α]

/-- Inputs that agree on the edges, the joint ids and the anchor are read or refused alike, whatever
else they are. If both are read, they have every facet in common on whose own inputs they agree; if
the edges are the same but come in another order, so do the transforms. -/
theorem facets_independent (x y : Input α) :
    (x.AgreeOnChecks y → (∀ e, x.read.outcome = .error e ↔ y.read.outcome = .error e) ∧
      ((∃ state, x.read.outcome = .ok state) ↔ ∃ state, y.read.outcome = .ok state)) ∧
    ∀ state state', x.read.outcome = .ok state → y.read.outcome = .ok state' →
      (∀ facet, x.AgreeOn y facet → state.SameAt state' facet) ∧
      (x.AgreeOnMoving y → x.options.inverseTarget = y.options.inverseTarget →
        Option.Rel EdgeMap.SameEdges x.edges y.edges →
        Option.Rel List.Perm state.transforms state'.transforms) := by
  refine ⟨fun h => ?_, fun state state' hx hy => ⟨fun facet h => ?_, fun moving target edges => ?_⟩⟩
  · have errors (e : StateError) : x.read.outcome = .error e ↔ y.read.outcome = .error e :=
      ⟨h.error_of_error, h.symm.error_of_error⟩
    refine ⟨errors, ?_⟩
    rw [Input.ok_iff_no_error, Input.ok_iff_no_error]
    exact forall_congr' fun e => not_congr (errors e)
  · exact (Input.yields_of_read hx).sameAt (Input.yields_of_read hy) h
  · exact (Input.yields_of_read hx).transforms_rel (Input.yields_of_read hy) moving target edges
      fun m m' n stamp same => same.perm_transforms n stamp

end Main

/-! ### Two inputs with the same odometry -/

/-- Moving parts with a joint and with the anchor below the body, and an arm that feels a force. -/
def reaching (position : Float) (inOdom : Twist Float) (edges : List (String × Edge Float)) :
    Snapshot Float where
  manipulator := some { Manipulator.unset with force := some ⟨0, 0, 4⟩ }
  kinematics := some ⟨⟨10, 0⟩, [⟨"fl.hx", some position, none, none, none⟩],
    ⟨⟨1, 0, 0⟩, Vec3.zero⟩, inOdom, .ofList edges⟩

/-- A snapshot read for a robot, with its anchor turned round. -/
def still : Input Float where
  snapshot := reaching 0 Twist.zero [("vision", ⟨"body", .unset⟩), ("body", ⟨"", .unset⟩)]
  skew := ⟨2, 0⟩
  options := ⟨⟨"spot/", "spot/vision"⟩, .vision⟩

/-- The same with other batteries, another gripper, another joint position and another velocity in
the other anchor, its edges in another order and none of them turned round. -/
def stirred : Input Float where
  snapshot := { reaching 0.5 ⟨⟨9, 9, 9⟩, Vec3.zero⟩
    [("body", ⟨"", .unset⟩), ("vision", ⟨"body", .unset⟩)] with
    batteries := [.unset]
    manipulator := some { Manipulator.unset with gripperOpening := 1, force := some ⟨0, 0, 4⟩ } }
  skew := ⟨2, 0⟩
  options := ⟨⟨"spot/", ""⟩, .vision⟩

theorem rel_edges_still : Option.Rel EdgeMap.SameEdges still.edges stirred.edges := by
  refine .some ?_
  intro f
  show (EdgeMap.ofList _).find? f = (EdgeMap.ofList _).find? f
  simp only [EdgeMap.find?_ofList, EdgeMap.lastEdge?, List.reverse_cons, List.reverse_nil,
    List.nil_append, List.cons_append, EdgeMap.lookup_cons, List.lookup_nil]
  by_cases hbody : f = "body" <;> by_cases hvision : f = "vision" <;> simp_all

theorem exists_read {x : Input Float} {k : KinematicsReport Float} {joints : JointStates Float}
    (hk : x.snapshot.kinematics = some k) (root : k.edges.root? = some bodyFrame)
    (ha : x.options.anchor.frame ∈ k.edges.keys)
    (hj : k.jointStates x.skew x.options.framePrefix = .ok joints) :
    ∃ state, x.read.outcome = .ok state := by
  have hb := (EdgeMap.rootedAt_of_root? root).mem_keys
  obtain ⟨pose, ok⟩ := x.snapshot.exists_assembled x.skew x.options hk root ha hb hj
  exact ⟨_, ok⟩

theorem still_stirred_same : still.AgreeOnChecks stirred ∧ still.AgreeOn stirred .odometry ∧
    still.AgreeOn stirred .endEffectorForce ∧ ∃ state state',
      still.read.outcome = .ok state ∧ stirred.read.outcome = .ok state' ∧
      state.SameAt state' .odometry ∧ state.SameAt state' .endEffectorForce := by
  have checks : still.AgreeOnChecks stirred := ⟨rel_edges_still, rfl, rfl⟩
  have moving : still.AgreeOnMoving stirred := ⟨rfl, rfl, rfl⟩
  have odometry : still.AgreeOn stirred .odometry := ⟨moving, rfl, rfl, rel_edges_still⟩
  have force : still.AgreeOn stirred .endEffectorForce := ⟨moving, rfl⟩
  obtain ⟨state, hx⟩ := exists_read (x := still) rfl (by decide +kernel) (by decide +kernel) rfl
  -- The other one is read because the checks agree.
  obtain ⟨state', hy⟩ := ((facets_independent still stirred).1 checks).2.1 ⟨state, hx⟩
  have same := ((facets_independent still stirred).2 state state' hx hy).1
  exact ⟨checks, odometry, force, state, state', hx, hy, same .odometry odometry,
    same .endEffectorForce force⟩

end RobotTelemetry
