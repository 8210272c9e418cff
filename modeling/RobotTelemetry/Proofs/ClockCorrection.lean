import Mathlib.Data.List.Forall2
import RobotTelemetry.Proofs.Instants
import RobotTelemetry.Proofs.Reading
/-!
# Clock correction

A robot state depends on the instants of a snapshot and on the clock skew through their sums only.
`Snapshot.Retimed` relates snapshots that agree but for their instants. If the skews make up for the
differences between the instants, such snapshots are read alike, so that every instant is corrected
once and no length of time is. `RobotState.StampedBy` says which instant each stamp marks, in
nanoseconds: that of the report which the record was read off. The main result is `toState_corrected_once`.
-/

namespace RobotTelemetry

/-! ## Instants that agree on the local clock -/

/-- The instants are the same nanosecond of the local clock, each under its own skew. -/
def SameInstant (skew skew' : Duration) (t t' : Timestamp) : Prop :=
  t.total + skew.total = t'.total + skew'.total

theorem SameInstant.corrected {skew skew' : Duration} {t t' : Timestamp}
    (h : SameInstant skew skew' t t') : t.corrected skew = t'.corrected skew' := by
  rw [Timestamp.corrected, Timestamp.corrected, h]

/-! ## Reports that agree but for their instants -/

/-- Reports with an instant of their own. -/
class Timed (β : Type) where
  instant : β → Timestamp
  setInstant : β → Timestamp → β

section Instances

variable {α : Type}

instance : Timed (PowerReport α) := ⟨(·.timestamp), fun p t => { p with timestamp := t }⟩

instance : Timed (BatteryReport α) := ⟨(·.timestamp), fun b t => { b with timestamp := t }⟩

instance : Timed CommsReport := ⟨(·.timestamp), fun c t => { c with timestamp := t }⟩

instance : Timed FaultReport := ⟨(·.onset), fun f t => { f with onset := t }⟩

instance : Timed EstopReport := ⟨(·.timestamp), fun e t => { e with timestamp := t }⟩

instance : Timed BehaviorFaultReport := ⟨(·.onset), fun f t => { f with onset := t }⟩

instance : Timed (KinematicsReport α) := ⟨(·.acquired), fun k t => { k with acquired := t }⟩

end Instances

/-- Two reports agree but for their instants, which are related. -/
def Retimed {β : Type} [Timed β] (R : Timestamp → Timestamp → Prop) (x y : β) : Prop :=
  ∃ t, R (Timed.instant x) t ∧ y = Timed.setInstant x t

/-- Two snapshots agree but for their instants, and each instant of the one is related to the same
instant of the other. -/
structure Snapshot.Retimed {α : Type} (R : Timestamp → Timestamp → Prop) (s s' : Snapshot α) :
    Prop where
  power : Option.Rel (RobotTelemetry.Retimed R) s.power s'.power
  batteries : List.Forall₂ (RobotTelemetry.Retimed R) s.batteries s'.batteries
  comms : List.Forall₂ (RobotTelemetry.Retimed R) s.comms s'.comms
  faults : Option.Rel (fun f f' => List.Forall₂ (RobotTelemetry.Retimed R) f.active f'.active ∧
    List.Forall₂ (RobotTelemetry.Retimed R) f.historical f'.historical) s.faults s'.faults
  estops : List.Forall₂ (RobotTelemetry.Retimed R) s.estops s'.estops
  behaviorFaults : Option.Rel (List.Forall₂ (RobotTelemetry.Retimed R)) s.behaviorFaults
    s'.behaviorFaults
  feet : s.feet = s'.feet
  manipulator : s.manipulator = s'.manipulator
  kinematics : Option.Rel (RobotTelemetry.Retimed R) s.kinematics s'.kinematics

/-! ## Readings of single reports -/

/-- A reading of a report depends on its instant and the skew through their sum only. -/
def Corrects {β γ : Type} [Timed β] (f : Duration → β → γ) : Prop :=
  ∀ {skew skew' : Duration} {x : β} {t : Timestamp},
    SameInstant skew skew' (Timed.instant x) t → f skew x = f skew' (Timed.setInstant x t)

section Readings

variable {α : Type}

theorem corrects_power [IntCast α] : Corrects fun skew (p : PowerReport α) => p.state skew := by
  intro skew skew' p t h
  have hc : p.timestamp.corrected skew = t.corrected skew' := h.corrected
  simp only [PowerReport.state, Timed.setInstant, hc]

theorem corrects_battery [IntCast α] :
    Corrects fun skew (b : BatteryReport α) => b.state skew := by
  intro skew skew' b t h
  have hc : b.timestamp.corrected skew = t.corrected skew' := h.corrected
  simp only [BatteryReport.state, Timed.setInstant, hc]

theorem corrects_wifi : Corrects fun skew (c : CommsReport) => c.wifiState skew := by
  intro skew skew' c t h
  have hc : c.timestamp.corrected skew = t.corrected skew' := h.corrected
  simp only [CommsReport.wifiState, Timed.setInstant, hc]

theorem corrects_fault : Corrects fun skew (f : FaultReport) => f.state skew := by
  intro skew skew' f t h
  have hc : f.onset.corrected skew = t.corrected skew' := h.corrected
  simp only [FaultReport.state, Timed.setInstant, hc]

theorem corrects_estop : Corrects fun skew (e : EstopReport) => e.toState skew := by
  intro skew skew' e t h
  have hc : e.timestamp.corrected skew = t.corrected skew' := h.corrected
  simp only [EstopReport.toState, Timed.setInstant, hc]

theorem corrects_behaviorFault : Corrects fun skew (f : BehaviorFaultReport) => f.state skew := by
  intro skew skew' f t h
  have hc : f.onset.corrected skew = t.corrected skew' := h.corrected
  simp only [BehaviorFaultReport.state, Timed.setInstant, hc]

end Readings

section Lifting

variable {β γ : Type} [Timed β] {f : Duration → β → γ} {skew skew' : Duration}

theorem Corrects.eq_of_retimed (hf : Corrects f) {x y : β}
    (h : Retimed (SameInstant skew skew') x y) : f skew x = f skew' y := by
  obtain ⟨t, ht, rfl⟩ := h
  exact hf ht

theorem Corrects.map_eq (hf : Corrects f) {xs ys : List β}
    (h : List.Forall₂ (Retimed (SameInstant skew skew')) xs ys) :
    xs.map (f skew) = ys.map (f skew') := by
  induction h with
  | nil => rfl
  | cons hxy _ ih => rw [List.map_cons, List.map_cons, hf.eq_of_retimed hxy, ih]

theorem Corrects.filterMap_eq {f : Duration → β → Option γ} (hf : Corrects f) {xs ys : List β}
    (h : List.Forall₂ (Retimed (SameInstant skew skew')) xs ys) :
    xs.filterMap (f skew) = ys.filterMap (f skew') := by
  induction h with
  | nil => rfl
  | cons hxy _ ih => rw [List.filterMap_cons, List.filterMap_cons, hf.eq_of_retimed hxy, ih]

end Lifting

theorem map_eq_map_of_rel {β β' γ : Type} {r : β → β' → Prop} {f : β → γ} {g : β' → γ}
    {x : Option β} {y : Option β'} (h : Option.Rel r x y) (hfg : ∀ x y, r x y → f x = g y) :
    x.map f = y.map g := by
  cases h with
  | none => rfl
  | some hxy => rw [Option.map_some, Option.map_some, hfg _ _ hxy]

/-! ## Readings of snapshots -/

namespace Snapshot.Retimed

variable {α : Type} {s s' : Snapshot α} {skew skew' : Duration}

theorem kinematics_cases (h : s.Retimed (SameInstant skew skew') s') :
    s.kinematics = none ∧ s'.kinematics = none ∨
      ∃ k t, k.acquired.corrected skew = t.corrected skew' ∧ s.kinematics = some k ∧
        s'.kinematics = some { k with acquired := t } := by
  have hk := h.kinematics
  generalize s.kinematics = x, s'.kinematics = y at hk ⊢
  cases hk with
  | none => exact .inl ⟨rfl, rfl⟩
  | some hk =>
    obtain ⟨t, ht, rfl⟩ := hk
    exact .inr ⟨_, t, ht.corrected, rfl, rfl⟩

theorem bodyTwist_eq (h : s.Retimed (SameInstant skew skew') s') (framePrefix : String)
    (anchor : Anchor) :
    s.bodyTwist skew framePrefix anchor = s'.bodyTwist skew' framePrefix anchor := by
  rcases h.kinematics_cases with ⟨hs, hs'⟩ | ⟨k, t, ht, hs, hs'⟩
  · simp only [bodyTwist, hs, hs', Option.map_none]
  · simp only [bodyTwist, hs, hs', Option.map_some, ht]
    cases anchor <;> rfl

theorem edges_eq (h : s.Retimed (SameInstant skew skew') s') : s.edges = s'.edges := by
  rcases h.kinematics_cases with ⟨hs, hs'⟩ | ⟨k, t, -, hs, hs'⟩
  · simp only [edges, hs, hs']
  · simp only [edges, hs, hs']

variable [Add α] [Sub α] [Mul α] [Neg α] [IntCast α]

theorem odometryFor_eq (h : s.Retimed (SameInstant skew skew') s') (options : Options) :
    s.odometryFor skew options = s'.odometryFor skew' options := by
  simp only [odometryFor, odometry, odometryWith, h.bodyTwist_eq, h.edges_eq]

omit [Add α] [Sub α] [Mul α] [Neg α] in
theorem jointStates_eq (h : s.Retimed (SameInstant skew skew') s') (framePrefix : String) :
    s.jointStates skew framePrefix = s'.jointStates skew' framePrefix := by
  rcases h.kinematics_cases with ⟨hs, hs'⟩ | ⟨k, t, ht, hs, hs'⟩
  · simp only [jointStates, hs, hs']
  · simp only [jointStates, hs, hs', KinematicsReport.jointStates, ht]

theorem transforms_eq {ε : Type} (h : s.Retimed (SameInstant skew skew') s') (n : Naming) :
    (s.transforms skew n : Logged ε _) = s'.transforms skew' n := by
  rcases h.kinematics_cases with ⟨hs, hs'⟩ | ⟨k, t, ht, hs, hs'⟩
  · simp only [transforms, hs, hs']
  · simp only [transforms, hs, hs', ht]

omit [Add α] [Sub α] [Mul α] [Neg α] [IntCast α] in
theorem endEffectorForce_eq (h : s.Retimed (SameInstant skew skew') s') (framePrefix : String) :
    endEffectorForce skew framePrefix s = endEffectorForce skew' framePrefix s' := by
  rcases h.kinematics_cases with ⟨hs, hs'⟩ | ⟨k, t, ht, hs, hs'⟩
  · simp only [endEffectorForce, hs, hs', h.manipulator, Option.map_none]
  · simp only [endEffectorForce, hs, hs', h.manipulator, Option.map_some, ht]

omit [Add α] [Sub α] [Mul α] [Neg α] [IntCast α] in
theorem faults_eq (h : s.Retimed (SameInstant skew skew') s') :
    s.faults.map (·.state skew) = s'.faults.map (·.state skew') := by
  refine map_eq_map_of_rel h.faults fun f f' hf => ?_
  rw [FaultReports.state, FaultReports.state, corrects_fault.map_eq hf.1,
    corrects_fault.map_eq hf.2]

variable [Div α] [LT α] [DecidableLT α] [OfScientific α] [SquareRoot α]

theorem assemble_eq (h : s.Retimed (SameInstant skew skew') s') (options : Options)
    (odometry : Option (Odometry α)) (joints : Option (JointStates α))
    (transforms : Option (List (Transform α))) :
    s.assemble skew options odometry joints transforms =
      s'.assemble skew' options odometry joints transforms := by
  have power : s.power.map (·.state skew) = s'.power.map (·.state skew') :=
    map_eq_map_of_rel h.power fun _ _ hp => corrects_power.eq_of_retimed hp
  have behavior : s.behaviorFaults.map (List.map (·.state skew)) =
      s'.behaviorFaults.map (List.map (·.state skew')) :=
    map_eq_map_of_rel h.behaviorFaults fun _ _ hf => corrects_behaviorFault.map_eq hf
  simp only [assemble, batteryStates, wifiState, estopStates, corrects_battery.map_eq h.batteries,
    corrects_wifi.filterMap_eq h.comms, corrects_estop.map_eq h.estops, power, behavior, h.faults_eq,
    h.feet, h.manipulator, h.bodyTwist_eq, h.endEffectorForce_eq]

end Snapshot.Retimed

/-! ## Whose instants the stamps are -/

/-- Every stamp marks the instant of the report that its record was read off, in nanoseconds, and
every length of time is the one reported. -/
structure RobotState.StampedBy {α : Type} (state : RobotState α) (s : Snapshot α)
    (skew : Duration) : Prop where
  batteries : List.Forall₂ (fun report battery => battery.stamp.Marks skew report.timestamp ∧
    battery.runtime = .ofDuration report.runtime) s.batteries (state.batteries.getD [])
  wifi : ∀ wifi, state.wifi = some wifi → ∃ c ∈ s.comms, ∃ w, c.wifi = some w ∧
    wifi.stamp.Marks skew c.timestamp ∧ wifi = ⟨wifi.stamp, w.mode, w.network⟩
  estops : List.Forall₂ (fun report estop => estop.stamp.Marks skew report.timestamp) s.estops
    (state.estops.getD [])
  power : Option.Rel (fun report power => power.stamp.Marks skew report.timestamp ∧
    power.runtime = .ofDuration report.runtime) s.power state.power
  faults : Option.Rel (fun reports faults =>
    List.Forall₂ (fun report fault => fault.stamp.Marks skew report.onset ∧
      fault.duration = .ofDuration report.duration) reports.active faults.active ∧
    List.Forall₂ (fun report fault => fault.stamp.Marks skew report.onset ∧
      fault.duration = .ofDuration report.duration) reports.historical faults.historical)
    s.faults state.systemFaults
  behaviorFaults : Option.Rel (List.Forall₂ fun report fault =>
    fault.stamp.Marks skew report.onset) s.behaviorFaults state.behaviorFaults
  joints : Option.Rel (fun k joints => joints.stamp.Marks skew k.acquired) s.kinematics state.joints
  transforms : Option.Rel (fun k ts => ∀ t ∈ ts, t.stamp.Marks skew k.acquired) s.kinematics
    state.transforms
  bodyTwist : Option.Rel (fun k twist => twist.stamp.Marks skew k.acquired) s.kinematics
    state.bodyTwist
  odometry : Option.Rel (fun k odometry => odometry.stamp.Marks skew k.acquired) s.kinematics
    state.odometry
  correctedOdometry : Option.Rel (fun k odometry => odometry.stamp.Marks skew k.acquired)
    s.kinematics state.correctedOdometry
  force : ∀ force, state.endEffectorForce = some force →
    Option.Rel (fun k stamp => stamp.Marks skew k.acquired) s.kinematics force.stamp

theorem forall₂_map {β γ : Type} {r : β → γ → Prop} {f : β → γ} (h : ∀ x, r x (f x))
    (xs : List β) : List.Forall₂ r xs (xs.map f) := by
  rw [List.forall₂_map_right_iff, List.forall₂_same]
  exact fun x _ => h x

theorem rel_map {β γ : Type} {r : β → γ → Prop} {f : β → γ} (h : ∀ x, r x (f x))
    (x : Option β) : Option.Rel r x (x.map f) := by
  cases x with
  | none => exact .none
  | some x => exact .some (h x)

theorem wifiState_cases {skew : Duration} {comms : List CommsReport} {wifi : WifiState}
    (h : wifiState skew comms = some wifi) : ∃ c ∈ comms, ∃ w, c.wifi = some w ∧
      wifi = ⟨c.timestamp.corrected skew, w.mode, w.network⟩ := by
  have mem : wifi ∈ comms.filterMap (·.wifiState skew) := List.mem_of_getLast? h
  obtain ⟨c, hc, hw⟩ := List.mem_filterMap.1 mem
  obtain ⟨w, hcw, rfl⟩ := Option.map_eq_some_iff.1 hw
  exact ⟨c, hc, w, hcw, rfl⟩

section Stamps

variable {α : Type} [Add α] [Sub α] [Mul α] [Neg α] [IntCast α] [Div α] [LT α] [DecidableLT α]
  [OfScientific α] [SquareRoot α] {s : Snapshot α} {skew : Duration} {options : Options}

theorem Snapshot.assemble_stampedBy {odometry : Option (Odometry α)}
    {joints : Option (JointStates α)} {transforms : Option (List (Transform α))}
    (ho : Option.Rel (fun k o => o.stamp.Marks skew k.acquired) s.kinematics odometry)
    (hj : Option.Rel (fun k j => j.stamp.Marks skew k.acquired) s.kinematics joints)
    (ht : Option.Rel (fun k ts => ∀ t ∈ ts, t.stamp.Marks skew k.acquired) s.kinematics
      transforms) :
    (s.assemble skew options odometry joints transforms).StampedBy s skew where
  batteries := by
    rw [assemble, batteryStates, getD_presentList]
    exact forall₂_map (fun b => ⟨b.timestamp.marks_corrected skew, rfl⟩) _
  wifi wifi h := by
    obtain ⟨c, hc, w, hw, rfl⟩ := wifiState_cases h
    exact ⟨c, hc, w, hw, c.timestamp.marks_corrected skew, rfl⟩
  estops := by
    rw [assemble, estopStates, getD_presentList]
    exact forall₂_map (fun e => e.timestamp.marks_corrected skew) _
  power := rel_map (fun p => ⟨p.timestamp.marks_corrected skew, rfl⟩) _
  faults := by
    refine rel_map (fun f => ⟨?_, ?_⟩) _
    · exact forall₂_map (fun f => ⟨f.onset.marks_corrected skew, rfl⟩) _
    · exact forall₂_map (fun f => ⟨f.onset.marks_corrected skew, rfl⟩) _
  behaviorFaults := rel_map (forall₂_map fun f => f.onset.marks_corrected skew) _
  joints := hj
  transforms := ht
  bodyTwist := rel_map (fun k => k.acquired.marks_corrected skew) _
  odometry := ho
  correctedOdometry := by
    show Option.Rel _ s.kinematics (odometry.map (·.corrected))
    generalize s.kinematics = kinematics at ho
    cases ho with
    | none => exact .none
    | some h => exact .some h
  force force h := by
    obtain ⟨m, -, rfl⟩ := Option.map_eq_some_iff.1 h
    exact rel_map (fun k => k.acquired.marks_corrected skew) _

theorem toState_stampedBy {state : RobotState α}
    (h : (s.toState skew options).outcome = .ok state) : state.StampedBy s skew := by
  obtain ⟨hnone, rfl⟩ | ⟨k, pose, joints, hk, -, hj, rfl⟩ := Snapshot.toState_ok_cases h
  · apply Snapshot.assemble_stampedBy <;> rw [hnone] <;> exact .none
  · have acquired := k.acquired.marks_corrected skew
    apply Snapshot.assemble_stampedBy <;> rw [hk]
    · exact .some acquired
    · exact .some ((KinematicsReport.jointStates_ok_cases hj).1 ▸ acquired)
    · exact .some fun t ht => EdgeMap.stamp_of_mem_transforms ht ▸ acquired

end Stamps

/-! ## Main result -/

section Main

variable {α : Type} [Add α] [Sub α] [Mul α] [Neg α] [IntCast α] [Div α] [LT α] [DecidableLT α]
  [OfScientific α] [SquareRoot α]

/-- Snapshots that agree but for their instants are read alike if the skews make up for the
differences: the same robot state or the same error, and the same events. Each stamp is the instant
of its own report on the local clock, to the nanosecond. -/
theorem toState_corrected_once (s s' : Snapshot α) (skew skew' : Duration) (options : Options) :
    (s.Retimed (SameInstant skew skew') s' → s.toState skew options = s'.toState skew' options) ∧
      ∀ state, (s.toState skew options).outcome = .ok state → state.StampedBy s skew := by
  refine ⟨fun h => ?_, fun state hs => toState_stampedBy hs⟩
  simp only [Snapshot.toState, h.odometryFor_eq, h.jointStates_eq, h.transforms_eq, h.assemble_eq]

end Main

/-! ### One snapshot under two clocks -/

/-- A battery pack with some time left, a fault that lasted a while, and moving parts. -/
def logbook (battery onset acquired : Timestamp) : Snapshot Float where
  batteries := [{ BatteryReport.unset with timestamp := battery, runtime := ⟨5400, 0⟩ }]
  faults := some ⟨[], [⟨onset, "lidar", ⟨30, 500000000⟩, 7, 1, "no returns", ["imu"], 2⟩]⟩
  kinematics := some { KinematicsReport.unset with
    acquired := acquired
    edges := .ofList [("odom", ⟨"body", ⟨1, 2, 0⟩, none⟩), ("body", ⟨"", ⟨0, 0, 0⟩, none⟩)] }

/-- The second clock is two seconds and a half ahead of the first, and the nanoseconds of its
instants are negative or more than a second. -/
theorem logbook_toState_eq :
    (logbook ⟨10, 0⟩ ⟨4, 0⟩ ⟨12, 0⟩).Retimed (SameInstant ⟨2, -500000000⟩ ⟨0, -1000000000⟩)
        (logbook ⟨11, 1500000000⟩ ⟨7, -500000000⟩ ⟨14, 500000000⟩) ∧
      (logbook ⟨10, 0⟩ ⟨4, 0⟩ ⟨12, 0⟩).toState ⟨2, -500000000⟩ ⟨⟨"spot/", ""⟩, .odom⟩ =
        (logbook ⟨11, 1500000000⟩ ⟨7, -500000000⟩ ⟨14, 500000000⟩).toState ⟨0, -1000000000⟩
          ⟨⟨"spot/", ""⟩, .odom⟩ := by
  have h : (logbook ⟨10, 0⟩ ⟨4, 0⟩ ⟨12, 0⟩).Retimed
      (SameInstant ⟨2, -500000000⟩ ⟨0, -1000000000⟩)
      (logbook ⟨11, 1500000000⟩ ⟨7, -500000000⟩ ⟨14, 500000000⟩) :=
    { power := .none
      batteries := .cons ⟨⟨11, 1500000000⟩, by unfold SameInstant; decide, rfl⟩ .nil
      comms := .nil
      faults := .some ⟨.nil, .cons ⟨⟨7, -500000000⟩, by unfold SameInstant; decide, rfl⟩ .nil⟩
      estops := .nil
      behaviorFaults := .none
      feet := rfl
      manipulator := rfl
      kinematics := .some ⟨⟨14, 500000000⟩, by unfold SameInstant; decide, rfl⟩ }
  exact ⟨h, (toState_corrected_once _ _ _ _ _).1 h⟩

end RobotTelemetry
