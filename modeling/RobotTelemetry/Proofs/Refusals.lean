import RobotTelemetry.Proofs.Reading
/-!
# When a snapshot has no robot state

A snapshot is refused for its moving parts only, and of those only the edges and the joint ids
matter. `Refused` lists the reasons by priority: malformed edges, then a tree that lacks the anchor
or the body, then the first unknown joint. A snapshot fails to be read exactly if it is refused, and
then nothing is reported (`toState_error_iff_refused`).
-/

namespace RobotTelemetry

/-! ## Unknown joints -/

/-- The table of joints has the id. -/
def Joint.Known (id : String) : Prop :=
  ∃ joint : Joint, joint.id = id

theorem Joint.ofId?_eq_none {id : String} (h : ¬ Joint.Known id) : Joint.ofId? id = none := by
  rcases hj : Joint.ofId? id with _ | joint
  · rfl
  · exact absurd ⟨joint, Joint.id_of_ofId? hj⟩ h

theorem Joint.known_or_first_unknown (ids : List String) : (∀ i ∈ ids, Joint.Known i) ∨
    ∃ before id after, ids = before ++ id :: after ∧ (∀ i ∈ before, Joint.Known i) ∧
      ¬ Joint.Known id := by
  induction ids with
  | nil => exact .inl fun i hi => absurd hi List.not_mem_nil
  | cons i ids ih =>
    by_cases hi : Joint.Known i
    · rcases ih with hall | ⟨before, id, after, rfl, hbefore, hid⟩
      · exact .inl (List.forall_mem_cons.2 ⟨hi, hall⟩)
      · exact .inr ⟨i :: before, id, after, rfl, List.forall_mem_cons.2 ⟨hi, hbefore⟩, hid⟩
    · exact .inr ⟨[], i, ids, rfl, by simp, hi⟩

section Joints

variable {α : Type} [IntCast α] {framePrefix : String}

theorem JointReport.state_of_known {j : JointReport α} (h : Joint.Known j.id)
    (framePrefix : String) : ∃ state, j.state framePrefix = .ok state := by
  obtain ⟨joint, hj⟩ := h
  rw [JointReport.state, ← hj, Joint.ofId?_id]
  exact ⟨_, rfl⟩

theorem JointReport.state_of_unknown {j : JointReport α} (h : ¬ Joint.Known j.id) :
    j.state framePrefix = .error j.id := by
  rw [JointReport.state, Joint.ofId?_eq_none h]

/-- Joints that are all known are all read. -/
theorem JointReport.mapM_state_of_known {js : List (JointReport α)}
    (h : ∀ i ∈ js.map (·.id), Joint.Known i) (framePrefix : String) :
    ∃ states, js.mapM (JointReport.state framePrefix) = .ok states := by
  induction js with
  | nil => exact ⟨[], rfl⟩
  | cons j js ih =>
    rw [List.map_cons, List.forall_mem_cons] at h
    obtain ⟨state, hj⟩ := JointReport.state_of_known h.1 framePrefix
    obtain ⟨states, hstates⟩ := ih h.2
    refine ⟨state :: states, ?_⟩
    rw [List.mapM_cons, hj, hstates]
    rfl

/-- The reading of joints stops at the first unknown id. -/
theorem JointReport.mapM_state_of_unknown {js : List (JointReport α)} {before after : List String}
    {id : String} (h : js.map (·.id) = before ++ id :: after)
    (hbefore : ∀ i ∈ before, Joint.Known i) (hid : ¬ Joint.Known id) (framePrefix : String) :
    js.mapM (JointReport.state framePrefix) = .error id := by
  induction before generalizing js with
  | nil =>
    obtain ⟨j, rest, rfl, rfl, -⟩ := List.map_eq_cons_iff.1 h
    rw [List.mapM_cons, JointReport.state_of_unknown hid]
    rfl
  | cons i before ih =>
    obtain ⟨j, rest, rfl, rfl, hrest⟩ := List.map_eq_cons_iff.1 h
    rw [List.forall_mem_cons] at hbefore
    obtain ⟨state, hj⟩ := JointReport.state_of_known hbefore.1 framePrefix
    rw [List.mapM_cons, hj, ih hrest hbefore.2]
    rfl

namespace KinematicsReport

variable {k : KinematicsReport α}

theorem jointStates_of_known (h : ∀ i ∈ k.joints.map (·.id), Joint.Known i) (skew : Duration)
    (framePrefix : String) : ∃ joints, k.jointStates skew framePrefix = .ok joints := by
  obtain ⟨states, hstates⟩ := JointReport.mapM_state_of_known h framePrefix
  rw [jointStates, hstates]
  exact ⟨_, rfl⟩

theorem jointStates_of_unknown {before after : List String} {id : String}
    (h : k.joints.map (·.id) = before ++ id :: after) (hbefore : ∀ i ∈ before, Joint.Known i)
    (hid : ¬ Joint.Known id) (skew : Duration) (framePrefix : String) :
    k.jointStates skew framePrefix = .error id := by
  rw [jointStates, JointReport.mapM_state_of_unknown h hbefore hid]
  rfl

end KinematicsReport

end Joints

/-! ## Refused snapshots -/

/-- Why moving parts with the given edges and joint ids are refused. -/
inductive Refused {α : Type} (edges : EdgeMap α) (ids : List String) (anchor : Anchor) :
    StateError → Prop
  /-- The edges form no tree. -/
  | malformed : edges.Malformed → Refused edges ids anchor (.missingAnchor anchor.frame .malformedTree)
  /-- They form a tree that lacks the anchor or the body. -/
  | missing : ¬ edges.Malformed → anchor.frame ∉ edges.keys ∨ bodyFrame ∉ edges.keys →
      Refused edges ids anchor (.missingAnchor anchor.frame .missingFrame)
  /-- The body can be placed, and this is the first joint id that the table lacks. -/
  | unknownJoint {before after : List String} {id : String} : ¬ edges.Malformed →
      anchor.frame ∈ edges.keys → bodyFrame ∈ edges.keys → ids = before ++ id :: after →
      (∀ i ∈ before, Joint.Known i) → ¬ Joint.Known id → Refused edges ids anchor (.unknownJoint id)

namespace Snapshot

variable {α : Type} [Add α] [Sub α] [Mul α] [Neg α] [IntCast α] {s : Snapshot α}
  {k : KinematicsReport α} {skew : Duration} {options : Options}

/-- Moving parts that are not refused pass both checks. -/
theorem refused_or_ok (k : KinematicsReport α) (skew : Duration) (options : Options) :
    (∃ e, Refused k.edges (k.joints.map (·.id)) options.anchor e) ∨
      ∃ pose joints, k.edges.relativePose options.anchor.frame bodyFrame = .ok pose ∧
        k.jointStates skew options.framePrefix = .ok joints := by
  by_cases bad : k.edges.Malformed
  · exact .inl ⟨_, .malformed bad⟩
  by_cases hm : options.anchor.frame ∉ k.edges.keys ∨ bodyFrame ∉ k.edges.keys
  · exact .inl ⟨_, .missing bad hm⟩
  simp only [not_or, Decidable.not_not] at hm
  rcases Joint.known_or_first_unknown (k.joints.map (·.id)) with
    hall | ⟨before, id, after, hids, hbefore, hid⟩
  · obtain ⟨r, hr⟩ := EdgeMap.exists_rootedAt bad
    obtain ⟨pose, hp⟩ := hr.relativePose_ok hm.1 hm.2
    obtain ⟨joints, hj⟩ := KinematicsReport.jointStates_of_known hall skew options.framePrefix
    exact .inr ⟨pose, joints, hp, hj⟩
  · exact .inl ⟨_, .unknownJoint bad hm.1 hm.2 hids hbefore hid⟩

variable [Div α] [LT α] [DecidableLT α] [OfScientific α] [SquareRoot α]

theorem toState_of_refused {e : StateError} (hk : s.kinematics = some k)
    (h : Refused k.edges (k.joints.map (·.id)) options.anchor e) (skew : Duration) :
    s.toState skew options = ⟨[], .error e⟩ := by
  cases h with
  | malformed bad => exact toState_of_fault hk (EdgeMap.relativePose_of_malformed bad _ _) skew
  | missing ok hm =>
    obtain ⟨r, hr⟩ := EdgeMap.exists_rootedAt ok
    exact toState_of_fault hk (EdgeMap.relativePose_of_missing hr hm) skew
  | unknownJoint ok ha hb hids hbefore hid =>
    obtain ⟨r, hr⟩ := EdgeMap.exists_rootedAt ok
    obtain ⟨pose, hp⟩ := hr.relativePose_ok ha hb
    exact toState_of_unknown hk hp (KinematicsReport.jointStates_of_unknown hids hbefore hid skew _)

/-- Either the moving parts are refused and nothing is reported, or the robot state is reported
last, after what is reported about its frames. -/
theorem toState_cases (s : Snapshot α) (skew : Duration) (options : Options) :
    (∃ k e, s.kinematics = some k ∧ Refused k.edges (k.joints.map (·.id)) options.anchor e ∧
      s.toState skew options = ⟨[], .error e⟩) ∨
    ∃ state, s.toState skew options =
      ⟨s.edges.events options.toNaming ++ [state.summary options], .ok state⟩ := by
  rcases hk : s.kinematics with _ | k
  · refine .inr ⟨s.assemble skew options none none none, ?_⟩
    rw [toState_of_none hk, edges, hk]
    rfl
  · rcases refused_or_ok k skew options with ⟨e, he⟩ | ⟨pose, joints, hp, hj⟩
    · exact .inl ⟨k, e, rfl, he, toState_of_refused hk he skew⟩
    · refine .inr ⟨s.assembled k skew options pose joints, ?_⟩
      rw [toState_of_ok hk hp hj, edges, hk]

/-! ## Main result -/

/-- A snapshot has no robot state exactly if its moving parts are refused, whatever else it reports,
and then nothing is reported. A robot state is reported last, after one event about the published
frames at most. -/
theorem toState_error_iff_refused (s : Snapshot α) (skew : Duration) (options : Options) :
    (∀ e, (s.toState skew options).outcome = .error e ↔
      ∃ k, s.kinematics = some k ∧ Refused k.edges (k.joints.map (·.id)) options.anchor e) ∧
    (∀ e, (s.toState skew options).outcome = .error e → (s.toState skew options).log = []) ∧
    ∀ state, (s.toState skew options).outcome = .ok state →
      ∃ tree : List Event, tree.length ≤ 1 ∧
        (∀ event ∈ tree, event.source = "spot_state_bridge.frames.tree") ∧
        (s.toState skew options).log = tree ++
          [.stateReady options.framePrefix options.anchor state.present
            (state.transforms.getD []).length] := by
  refine ⟨fun e => ⟨fun h => ?_, ?_⟩, fun e h => ?_, fun state h => ?_⟩
  · rcases toState_cases s skew options with ⟨k, e', hk, he, heq⟩ | ⟨state, heq⟩
    · rw [heq, Except.error.injEq] at h
      exact ⟨k, hk, h ▸ he⟩
    · rw [heq] at h
      cases h
  · rintro ⟨k, hk, he⟩
    rw [toState_of_refused hk he]
  · rcases toState_cases s skew options with ⟨k, e', -, -, heq⟩ | ⟨state, heq⟩
    · rw [heq]
    · rw [heq] at h
      cases h
  · rcases toState_cases s skew options with ⟨k, e', -, -, heq⟩ | ⟨state', heq⟩
    · rw [heq] at h
      cases h
    · rw [heq, Except.ok.injEq] at h
      subst h
      exact ⟨s.edges.events options.toNaming, EdgeMap.length_events_le_one _ _,
        fun event he => EdgeMap.source_of_mem_events he, by rw [heq]; rfl⟩

end Snapshot

end RobotTelemetry
