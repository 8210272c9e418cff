import RobotTelemetry.Proofs.Presence
import RobotTelemetry.Proofs.Refusals
/-!
# Lists are read entry by entry

A snapshot and a robot state hold six lists of the same kinds (`Lists`). Those of the state are made
from those of the snapshot one entry at a time, each by a function of the skew and the entry alone
(`Snapshot.lists_of_toState`), so that lists read one after the other are their readings one after
the other. The radio keeps only the last channel that reports a link (`wifiState_append`,
`wifiState_eq_some_iff`). The main result is `lists_read_entrywise`.
-/

namespace RobotTelemetry

variable {α : Type}

/-! ## The lists of snapshots and of robot states -/

/-- Six lists of five kinds of entries. -/
structure Lists (battery foot estop fault behaviorFault : Type) where
  batteries : List battery
  feet : List foot
  estops : List estop
  activeFaults : List fault
  historicalFaults : List fault
  behaviorFaults : List behaviorFault

namespace Lists

variable {β φ ε δ γ β' φ' ε' δ' γ' : Type}

instance : Append (Lists β φ ε δ γ) where
  append a b := ⟨a.batteries ++ b.batteries, a.feet ++ b.feet, a.estops ++ b.estops,
    a.activeFaults ++ b.activeFaults, a.historicalFaults ++ b.historicalFaults,
    a.behaviorFaults ++ b.behaviorFaults⟩

theorem append_def (a b : Lists β φ ε δ γ) : a ++ b =
    ⟨a.batteries ++ b.batteries, a.feet ++ b.feet, a.estops ++ b.estops,
      a.activeFaults ++ b.activeFaults, a.historicalFaults ++ b.historicalFaults,
      a.behaviorFaults ++ b.behaviorFaults⟩ := rfl

/-- Entry by entry; active and historical faults are made alike. -/
def map (battery : β → β') (foot : φ → φ') (estop : ε → ε') (fault : δ → δ')
    (behaviorFault : γ → γ') (a : Lists β φ ε δ γ) : Lists β' φ' ε' δ' γ' :=
  ⟨a.batteries.map battery, a.feet.map foot, a.estops.map estop, a.activeFaults.map fault,
    a.historicalFaults.map fault, a.behaviorFaults.map behaviorFault⟩

theorem map_append (battery : β → β') (foot : φ → φ') (estop : ε → ε') (fault : δ → δ')
    (behaviorFault : γ → γ') (a b : Lists β φ ε δ γ) :
    (a ++ b).map battery foot estop fault behaviorFault =
      a.map battery foot estop fault behaviorFault ++
        b.map battery foot estop fault behaviorFault := by
  simp only [append_def, map, List.map_append]

end Lists

/-- The lists of a snapshot; those of a missing part are empty. -/
def Snapshot.lists (s : Snapshot α) :
    Lists (BatteryReport α) (Foot α) EstopReport FaultReport BehaviorFaultReport where
  batteries := s.batteries
  feet := s.feet
  estops := s.estops
  activeFaults := (s.faults.map (·.active)).getD []
  historicalFaults := (s.faults.map (·.historical)).getD []
  behaviorFaults := s.behaviorFaults.getD []

/-- The lists of a robot state; those of a missing facet are empty. -/
def RobotState.lists (state : RobotState α) :
    Lists (BatteryState α) (Foot α) EstopState SystemFault BehaviorFault where
  batteries := state.batteries.getD []
  feet := state.feet.getD []
  estops := state.estops.getD []
  activeFaults := (state.systemFaults.map (·.active)).getD []
  historicalFaults := (state.systemFaults.map (·.historical)).getD []
  behaviorFaults := state.behaviorFaults.getD []

/-! ### One snapshot after another -/

instance : Append FaultReports where
  append f g := ⟨f.active ++ g.active, f.historical ++ g.historical⟩

/-- The lists of both snapshots, one after the other, with the other parts of the first. -/
instance : Append (Snapshot α) where
  append s t := { s with
    batteries := s.batteries ++ t.batteries
    comms := s.comms ++ t.comms
    faults := s.faults.merge (· ++ ·) t.faults
    estops := s.estops ++ t.estops
    behaviorFaults := s.behaviorFaults.merge (· ++ ·) t.behaviorFaults
    feet := s.feet ++ t.feet }

namespace Snapshot

variable (s t : Snapshot α)

@[simp]
theorem kinematics_append : (s ++ t).kinematics = s.kinematics := rfl

@[simp]
theorem comms_append : (s ++ t).comms = s.comms ++ t.comms := rfl

@[simp]
theorem faults_append : (s ++ t).faults = s.faults.merge (· ++ ·) t.faults := rfl

@[simp]
theorem behaviorFaults_append :
    (s ++ t).behaviorFaults = s.behaviorFaults.merge (· ++ ·) t.behaviorFaults := rfl

theorem lists_append : (s ++ t).lists = s.lists ++ t.lists := by
  have active : ((s ++ t).faults.map (·.active)).getD [] =
      (s.faults.map (·.active)).getD [] ++ (t.faults.map (·.active)).getD [] := by
    rw [faults_append]
    rcases s.faults with _ | f <;> rcases t.faults with _ | g <;> simp [Option.merge]
    rfl
  have historical : ((s ++ t).faults.map (·.historical)).getD [] =
      (s.faults.map (·.historical)).getD [] ++ (t.faults.map (·.historical)).getD [] := by
    rw [faults_append]
    rcases s.faults with _ | f <;> rcases t.faults with _ | g <;> simp [Option.merge]
    rfl
  have behavior : (s ++ t).behaviorFaults.getD [] =
      s.behaviorFaults.getD [] ++ t.behaviorFaults.getD [] := by
    rw [behaviorFaults_append]
    rcases s.behaviorFaults with _ | f <;> rcases t.behaviorFaults with _ | g <;>
      simp [Option.merge]
  rw [lists, active, historical, behavior]
  rfl

end Snapshot

/-! ## The radio -/

/-- A later list of channels comes before an earlier one. -/
theorem wifiState_append (skew : Duration) (xs ys : List CommsReport) :
    wifiState skew (xs ++ ys) = (wifiState skew ys).or (wifiState skew xs) := by
  rw [wifiState, List.filterMap_append, List.getLast?_append]
  rfl

/-- The link is that of one channel in all its parts, and no later channel has one. -/
theorem wifiState_eq_some_iff {skew : Duration} {comms : List CommsReport} {w : WifiState} :
    wifiState skew comms = some w ↔ ∃ before c after link, comms = before ++ c :: after ∧
      (∀ later ∈ after, later.wifi = none) ∧ c.wifi = some link ∧
      w = ⟨c.timestamp.corrected skew, link.mode, link.network⟩ := by
  constructor
  · intro h
    obtain ⟨links, hlinks⟩ := List.getLast?_eq_some_iff.1 h
    obtain ⟨before, rest, rfl, -, hrest⟩ := List.filterMap_eq_append_iff.1 hlinks
    obtain ⟨quiet, c, after, rfl, -, hc, hafter⟩ := List.filterMap_eq_cons_iff.1 hrest
    obtain ⟨link, hlink, rfl⟩ := Option.map_eq_some_iff.1 hc
    refine ⟨before ++ quiet, c, after, link, (List.append_assoc _ _ _).symm, ?_, hlink, rfl⟩
    intro later hl
    exact Option.map_eq_none_iff.1 (List.filterMap_eq_nil_iff.1 hafter later hl)
  · rintro ⟨before, c, after, link, rfl, hafter, hlink, rfl⟩
    have one : wifiState skew [c] = some ⟨c.timestamp.corrected skew, link.mode, link.network⟩ := by
      simp [wifiState, CommsReport.wifiState, hlink]
    rw [wifiState_append, ← List.singleton_append, wifiState_append, one,
      wifiState_eq_none_iff.2 hafter, Option.none_or, Option.some_or]

/-! ## Readings -/

namespace Snapshot

variable [Add α] [Sub α] [Mul α] [Neg α] [IntCast α] [Div α] [LT α] [DecidableLT α]
  [OfScientific α] [SquareRoot α] {s t : Snapshot α} {skew : Duration} {options : Options}
  {state : RobotState α}

/-- The facets that are read off lists do not depend on moving parts. -/
theorem exists_assemble_of_toState (h : (s.toState skew options).outcome = .ok state) :
    ∃ odometry joints transforms,
      state = s.assemble skew options odometry joints transforms := by
  obtain ⟨-, rfl⟩ | ⟨k, pose, joints, -, -, -, rfl⟩ := toState_ok_cases h
  · exact ⟨none, none, none, rfl⟩
  · exact ⟨_, _, _, rfl⟩

/-- Every record is made of one entry. -/
theorem lists_of_toState (h : (s.toState skew options).outcome = .ok state) :
    state.lists = s.lists.map (·.state skew) id (·.toState skew) (·.state skew) (·.state skew) := by
  obtain ⟨odometry, joints, transforms, rfl⟩ := exists_assemble_of_toState h
  have active : ((s.faults.map (·.state skew)).map (·.active)).getD [] =
      ((s.faults.map (·.active)).getD []).map (·.state skew) := by
    cases s.faults <;> rfl
  have historical : ((s.faults.map (·.state skew)).map (·.historical)).getD [] =
      ((s.faults.map (·.historical)).getD []).map (·.state skew) := by
    cases s.faults <;> rfl
  have behavior : (s.behaviorFaults.map (List.map (·.state skew))).getD [] =
      (s.behaviorFaults.getD []).map (·.state skew) := by
    cases s.behaviorFaults <;> rfl
  simp only [RobotState.lists, assemble, batteryStates, estopStates, getD_presentList, active,
    historical, behavior, Lists.map, lists, List.map_id]

theorem wifi_of_toState (h : (s.toState skew options).outcome = .ok state) :
    state.wifi = wifiState skew s.comms := by
  obtain ⟨odometry, joints, transforms, rfl⟩ := exists_assemble_of_toState h
  rfl

/-- Further entries of lists make no reading fail. -/
theorem exists_state_of_append (t : Snapshot α) (h : (s.toState skew options).outcome = .ok state) :
    ∃ state', ((s ++ t).toState skew options).outcome = .ok state' := by
  rcases toState_cases (s ++ t) skew options with ⟨k, e, hk, refused, -⟩ | ⟨state', heq⟩
  · have hs : s.kinematics = some k := hk
    rw [toState_of_refused hs refused] at h
    cases h
  · exact ⟨state', by rw [heq]⟩

end Snapshot

/-! ## Main result -/

section Main

variable [Add α] [Sub α] [Mul α] [Neg α] [IntCast α] [Div α] [LT α] [DecidableLT α]
  [OfScientific α] [SquareRoot α]

/-- Under one skew each list of a robot state has one record for each entry, made of this entry
alone. The lists of two snapshots, one after the other, have the records of the first followed by
those of the second; faults of either kind stay present without entries. The link is that of the
last channel with one: a later list of channels decides if it has a link, and an earlier one
otherwise. -/
theorem lists_read_entrywise (skew : Duration) :
    (∀ (s : Snapshot α) options state, (s.toState skew options).outcome = .ok state →
      state.lists = s.lists.map (BatteryReport.state skew) id (EstopReport.toState skew)
        (FaultReport.state skew) (BehaviorFaultReport.state skew)) ∧
    (∀ (s : Snapshot α) options state, (s.toState skew options).outcome = .ok state → ∀ w,
      state.wifi = some w ↔ ∃ before c after link, s.comms = before ++ c :: after ∧
        (∀ later ∈ after, later.wifi = none) ∧ c.wifi = some link ∧
        w = ⟨c.timestamp.corrected skew, link.mode, link.network⟩) ∧
    ∀ (s t : Snapshot α) options options' state state',
      (s.toState skew options).outcome = .ok state →
      (t.toState skew options').outcome = .ok state' →
      ∃ both, ((s ++ t).toState skew options).outcome = .ok both ∧
        both.lists = state.lists ++ state'.lists ∧
        (both.systemFaults.isSome ↔ s.faults.isSome ∨ t.faults.isSome) ∧
        (both.behaviorFaults.isSome ↔ s.behaviorFaults.isSome ∨ t.behaviorFaults.isSome) ∧
        both.wifi = if ∃ c ∈ t.comms, c.wifi.isSome then state'.wifi else state.wifi := by
  refine ⟨fun s options state h => Snapshot.lists_of_toState h,
    fun s options state h w => ?_, fun s t options options' state state' hs ht => ?_⟩
  · rw [Snapshot.wifi_of_toState h, wifiState_eq_some_iff]
  · obtain ⟨both, hb⟩ := Snapshot.exists_state_of_append t hs
    refine ⟨both, hb, ?_, ?_, ?_, ?_⟩
    · rw [Snapshot.lists_of_toState hb, Snapshot.lists_of_toState hs, Snapshot.lists_of_toState ht,
        Snapshot.lists_append, Lists.map_append]
    · obtain ⟨_, _, _, rfl⟩ := Snapshot.exists_assemble_of_toState hb
      simp [Snapshot.assemble]
    · obtain ⟨_, _, _, rfl⟩ := Snapshot.exists_assemble_of_toState hb
      simp [Snapshot.assemble]
    · rw [Snapshot.wifi_of_toState hb, Snapshot.wifi_of_toState hs, Snapshot.wifi_of_toState ht,
        Snapshot.comms_append, wifiState_append]
      split
      · next linked =>
        obtain ⟨w, hw⟩ := Option.isSome_iff_exists.1 (isSome_wifiState.2 linked)
        rw [hw, Option.some_or]
      · next quiet =>
        rw [Option.not_isSome_iff_eq_none.1 (mt isSome_wifiState.1 quiet), Option.none_or]

end Main

/-! ### Two snapshots in turn -/

/-- Two battery packs, two emergency stops, a foot on the ground, an active fault, and a radio that
has lost its link. -/
def firstWatch : Snapshot Float where
  batteries := [⟨⟨3, 0⟩, "left", some 80, ⟨5400, 0⟩, none, some 52, [31, 32], 2⟩,
    ⟨⟨2, 0⟩, "right", none, ⟨0, -1⟩, some 1, none, [], 3⟩]
  comms := [⟨⟨4, 0⟩, some ⟨1, "yard"⟩⟩, ⟨⟨5, 0⟩, none⟩]
  faults := some ⟨[⟨⟨6, 0⟩, "lidar", ⟨30, 0⟩, 7, 1, "no returns", ["imu"], 2⟩], []⟩
  estops := [⟨⟨7, 0⟩, "hardware", 1, 2, "pressed"⟩, ⟨⟨7, 0⟩, "software", 2, 1, ""⟩]
  feet := [⟨⟨1, 2, 0⟩, 1, some ⟨0, "ground", ⟨0, 0, 0⟩, ⟨0, 0, 0⟩, ⟨0, 0, 1⟩, 0, 0⟩⟩]

/-- One more emergency stop, a foot in the air, a fault that is over, and no link. -/
def secondWatch : Snapshot Float where
  comms := [⟨⟨9, 0⟩, none⟩]
  faults := some ⟨[], [⟨⟨0, 0⟩, "camera", ⟨0, 5⟩, 0, 2, "", [], 0⟩]⟩
  estops := [⟨⟨8, 0⟩, "payload", 3, 1, ""⟩]
  behaviorFaults := some []
  feet := [⟨⟨1, 0, 1⟩, 2, none⟩]

/-- Each entry of either snapshot has its own record, and the one link is that of the first. -/
theorem watches_read_in_turn :
    ∃ both, ((firstWatch ++ secondWatch).toState ⟨1, 0⟩ {}).outcome = .ok both ∧
      both.lists =
        { batteries := [⟨⟨4, 0⟩, "left", 80, ⟨5400, 0⟩, 0, 52, [31, 32], 2⟩,
            ⟨⟨3, 0⟩, "right", 0, ⟨0, -1⟩, 1, 0, [], 3⟩]
          feet := firstWatch.feet ++ secondWatch.feet
          estops := [⟨⟨8, 0⟩, "hardware", 1, 2, "pressed"⟩, ⟨⟨8, 0⟩, "software", 2, 1, ""⟩,
            ⟨⟨9, 0⟩, "payload", 3, 1, ""⟩]
          activeFaults := [⟨⟨7, 0⟩, "lidar", ⟨30, 0⟩, 7, 1, "no returns", ["imu"], 2⟩]
          historicalFaults := [⟨⟨1, 0⟩, "camera", ⟨0, 5⟩, 0, 2, "", [], 0⟩]
          behaviorFaults := [] } ∧
      both.wifi = some ⟨⟨5, 0⟩, 1, "yard"⟩ ∧ both.behaviorFaults.isSome := by
  obtain ⟨first, hfirst⟩ : ∃ state, (firstWatch.toState ⟨1, 0⟩ {}).outcome = .ok state := ⟨_, rfl⟩
  obtain ⟨second, hsecond⟩ : ∃ state, (secondWatch.toState ⟨1, 0⟩ {}).outcome = .ok state :=
    ⟨_, rfl⟩
  obtain ⟨entrywise, link, inTurn⟩ := lists_read_entrywise (α := Float) ⟨1, 0⟩
  obtain ⟨both, hboth, -, -, behavior, -⟩ := inTurn _ _ _ _ _ _ hfirst hsecond
  have linked : both.wifi = some ⟨⟨5, 0⟩, 1, "yard"⟩ :=
    (link _ _ _ hboth _).2 ⟨[], ⟨⟨4, 0⟩, some ⟨1, "yard"⟩⟩, _, ⟨1, "yard"⟩, rfl,
      by simp [secondWatch], rfl, rfl⟩
  exact ⟨both, hboth, (entrywise _ _ _ hboth).trans rfl, linked, behavior.2 (.inr rfl)⟩

end RobotTelemetry
