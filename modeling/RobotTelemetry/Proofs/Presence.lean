import Mathlib.Data.List.Forall2
import RobotTelemetry.State.Json
import RobotTelemetry.Proofs.Reading
/-!
# What is present

A facet of a robot state is present exactly if the snapshot has what it is read off
(`Snapshot.Reports`): a list with an entry, a part however empty, or a channel with a wireless link.
Five facets are read off the moving parts and two off the arm, and these come and go together.
Inside the records, what the robot left open stays open (`RobotState.Mirrors`). The main result is
`toState_mirrors`.
-/

namespace RobotTelemetry

/-! ## Facets that are read -/

/-- The snapshot has what a facet is read off. -/
def Snapshot.Reports {α : Type} (s : Snapshot α) : Facet → Prop
  | .batteries => s.batteries ≠ []
  | .wifi => ∃ c ∈ s.comms, c.wifi.isSome
  | .feet => s.feet ≠ []
  | .estops => s.estops ≠ []
  | .joints | .transforms | .bodyTwist | .odometry | .correctedOdometry => s.kinematics.isSome
  | .power => s.power.isSome
  | .systemFaults => s.faults.isSome
  | .manipulator | .endEffectorForce => s.manipulator.isSome
  | .behaviorFaults => s.behaviorFaults.isSome

theorem wifiState_eq_none_iff {skew : Duration} {comms : List CommsReport} :
    wifiState skew comms = none ↔ ∀ c ∈ comms, c.wifi = none := by
  simp only [wifiState, List.getLast?_eq_none_iff, List.filterMap_eq_nil_iff,
    CommsReport.wifiState, Option.map_eq_none_iff]

theorem isSome_wifiState {skew : Duration} {comms : List CommsReport} :
    (wifiState skew comms).isSome ↔ ∃ c ∈ comms, c.wifi.isSome := by
  simp only [Option.isSome_iff_ne_none, ne_eq, wifiState_eq_none_iff, not_forall, exists_prop]

/-! ## Facets that are written -/

def Json.isNull : Json → Bool
  | .null => true
  | _ => false

/-- The names of the members of an object that are not null, in order. -/
def Json.filledMembers : Json → List String
  | .object members => (members.filter fun member => !member.2.isNull).map Prod.fst
  | _ => []

theorem Json.isNull_ofOption {β : Type} {f : β → Json} (hf : ∀ x, (f x).isNull = false)
    (x : Option β) : (Json.ofOption f x).isNull = !x.isSome := by
  cases x with
  | none => rfl
  | some x => exact hf x

namespace RobotState

variable {α : Type}

theorem isNull_facetJson (state : RobotState α) (number : Component α → Json) (facet : Facet) :
    (state.facetJson number facet).isNull = !state.has facet := by
  cases facet <;> exact Json.isNull_ofOption (fun _ => rfl) _

/-- The facets that are present are those written as something other than null. -/
theorem map_name_present (state : RobotState α) (number : Component α → Json) :
    state.present.map Facet.name = (state.toJson number).filledMembers := by
  rw [toJson, Json.filledMembers, List.filter_map, List.map_map, present]
  congr 1
  refine List.filter_congr fun facet _ => ?_
  rw [Function.comp_apply, isNull_facetJson, Bool.not_not]

end RobotState

/-! ## Whole states -/

/-- What is missing in a robot state is what is missing in its snapshot, at every level. -/
structure RobotState.Mirrors {α : Type} (state : RobotState α) (s : Snapshot α) : Prop where
  has_iff : ∀ facet, state.has facet ↔ s.Reports facet
  present_sublist : state.present.Sublist Facet.all
  names_eq : ∀ number, state.present.map Facet.name = (state.toJson number).filledMembers
  terrain : List.Forall₂ (fun report foot => foot.terrain.isSome ↔ report.terrain.isSome) s.feet
    (state.feet.getD [])
  manipulator : Option.Rel (fun report arm => (arm.force.isSome ↔ report.force.isSome) ∧
    (arm.handVelocityInVision.isSome ↔ report.handVelocityInVision.isSome) ∧
    (arm.handVelocityInOdom.isSome ↔ report.handVelocityInOdom.isSome))
    s.manipulator state.manipulator
  force : state.endEffectorForce.map (·.force) = state.manipulator.map (·.force)
  force_stamp : ∀ force, state.endEffectorForce = some force →
    (force.stamp.isSome ↔ s.kinematics.isSome)

section Readings

variable {α : Type} [Add α] [Sub α] [Mul α] [Neg α] [IntCast α] [Div α] [LT α] [DecidableLT α]
  [OfScientific α] [SquareRoot α] {s : Snapshot α} {skew : Duration} {options : Options}
  {odometry : Option (Odometry α)} {joints : Option (JointStates α)}
  {transforms : Option (List (Transform α))}

theorem Snapshot.has_assemble_iff (ho : odometry.isSome = s.kinematics.isSome)
    (hj : joints.isSome = s.kinematics.isSome) (ht : transforms.isSome = s.kinematics.isSome)
    (facet : Facet) :
    (s.assemble skew options odometry joints transforms).has facet ↔ s.Reports facet := by
  -- One case for each rule: a list with an entry, any channel, a given facet, a part.
  cases facet with
  | batteries => exact isSome_presentList.trans (not_congr List.map_eq_nil_iff)
  | wifi => exact isSome_wifiState
  | feet => exact isSome_presentList
  | estops => exact isSome_presentList.trans (not_congr List.map_eq_nil_iff)
  | joints => exact Bool.eq_iff_iff.1 hj
  | transforms => exact Bool.eq_iff_iff.1 ht
  | odometry => exact Bool.eq_iff_iff.1 ho
  | correctedOdometry => exact Bool.eq_iff_iff.1 (Option.isSome_map.trans ho)
  | bodyTwist | power | systemFaults | endEffectorForce | behaviorFaults =>
    exact Bool.eq_iff_iff.1 Option.isSome_map
  | manipulator => exact Iff.rfl

theorem Snapshot.assemble_mirrors (ho : odometry.isSome = s.kinematics.isSome)
    (hj : joints.isSome = s.kinematics.isSome) (ht : transforms.isSome = s.kinematics.isSome) :
    (s.assemble skew options odometry joints transforms).Mirrors s where
  has_iff := has_assemble_iff ho hj ht
  present_sublist := List.filter_sublist
  names_eq := RobotState.map_name_present _
  terrain := by
    rw [assemble, getD_presentList, List.forall₂_same]
    exact fun _ _ => Iff.rfl
  manipulator := by
    rw [assemble]
    cases s.manipulator with
    | none => exact .none
    | some arm => exact .some ⟨Iff.rfl, Iff.rfl, Iff.rfl⟩
  force := by
    rw [assemble, endEffectorForce, Option.map_map]
    rfl
  force_stamp force h := by
    obtain ⟨arm, -, rfl⟩ := Option.map_eq_some_iff.1 h
    rw [Option.isSome_map]

/-! ## Main result -/

/-- In a robot state that has been read, a facet is present exactly if the snapshot has what it is
read off, and an optional quantity exactly if the robot reported it. -/
theorem toState_mirrors {state : RobotState α}
    (h : (s.toState skew options).outcome = .ok state) : state.Mirrors s := by
  obtain ⟨hnone, rfl⟩ | ⟨k, pose, joints, hk, -, -, rfl⟩ := Snapshot.toState_ok_cases h
  · apply Snapshot.assemble_mirrors <;> rw [hnone] <;> rfl
  · apply Snapshot.assemble_mirrors <;> rw [hk] <;> rfl

end Readings

/-! ### Parts that report nothing -/

/-- A snapshot of which many parts are there but empty: a power supply, faults, a channel, a foot. -/
def sparse : Snapshot Float where
  power := some .unset
  comms := [{ CommsReport.unset with wifi := some ⟨0, ""⟩ }, .unset]
  faults := some ⟨[], []⟩
  behaviorFaults := some []
  feet := [.unset, { Foot.unset with
    terrain := some ⟨0, "", Vec3.zero, Vec3.zero, Vec3.zero, 0, 0⟩ }]
  manipulator := some { Manipulator.unset with force := some Vec3.zero }
  kinematics := some { KinematicsReport.unset with
    edges := .ofList [("vision", ⟨"body", .unset⟩), ("body", ⟨"", .unset⟩)] }

/-- All but the batteries and the emergency stops is present. -/
theorem sparse_mirrors : ∃ state, (sparse.toState {} {}).outcome = .ok state ∧
    state.Mirrors sparse ∧ state.present = Facet.all.filter (· ∉ [.batteries, .estops]) := by
  have root : sparse.edges.root? = some bodyFrame := by decide +kernel
  have hvision : "vision" ∈ sparse.edges.keys := by decide +kernel
  have hbody := (EdgeMap.rootedAt_of_root? root).mem_keys
  obtain ⟨pose, ok⟩ := sparse.exists_assembled {} {} rfl root hvision hbody rfl
  exact ⟨_, ok, toState_mirrors ok, rfl⟩

end RobotTelemetry
