import RobotTelemetry.Proofs.EdgeTransforms
import RobotTelemetry.Proofs.Refusals
import RobotTelemetry.Proofs.TransformTrees
import RobotTelemetry.Proofs.Validation
/-!
# Inverse targets of configured clients

The target of a configuration is never the body, and qualified names are equal only if the local
names are (`Config.isTarget_iff`). So on a robot whose only root is the body, a client never asks
for the edge of a root (`Config.fate_ne_parentless`). What it turns round can be told from the
published transforms alone: in a tree no two frames are each other's parents, so that a transform
which leads from a frame to its parent is a turned edge (`EdgeMap.turned_iff`). There is one of them
if the target is a frame of the robot and none otherwise (`config_turns_one_edge`).
-/

namespace RobotTelemetry

variable {α : Type}

/-- The transform leads from a frame to the parent that the frame has in the edge map. -/
def Transform.Turned (m : EdgeMap α) (framePrefix : String) (t : Transform α) : Prop :=
  ∃ entry ∈ m.entries, entry.2.parent ≠ "" ∧ t.parent = framePrefix ++ entry.1 ∧
    t.child = framePrefix ++ entry.2.parent

instance (m : EdgeMap α) (framePrefix : String) (t : Transform α) :
    Decidable (t.Turned m framePrefix) :=
  inferInstanceAs (Decidable (∃ entry ∈ m.entries, _))

/-! ## Turned transforms of a tree -/

namespace EdgeMap

variable {m : EdgeMap α} {n : Naming} {stamp : Stamp} {f r : String} {edge : Edge α}
  {t : Transform α}

theorem RootedAt.not_both_parents {p : String} (h : m.RootedAt r) (hp : m.Parent f p) :
    ¬ m.Parent p f :=
  fun hf => h.not_cycle (.head' hp (.single hf))

variable [Add α] [Sub α] [Mul α] [Neg α] [IntCast α]

theorem turned_iff (tree : m.RootedAt r) (hf : m.find? f = some edge)
    (ht : edge.transform? n stamp f = some t) : t.Turned m n.framePrefix ↔ n.IsTarget f := by
  have hp : edge.parent ≠ "" := Edge.parent_ne_of_transform? ht
  by_cases target : n.IsTarget f
  · rw [Edge.transform?_of_target hp target, Option.some.injEq] at ht
    subst ht
    exact iff_of_true ⟨(f, edge), mem_entries_iff.2 hf, hp, rfl, rfl⟩ target
  · rw [Edge.transform?_of_forward hp target, Option.some.injEq] at ht
    subst ht
    refine iff_of_false ?_ target
    rintro ⟨⟨g, edge'⟩, mem, hp', hparent, hchild⟩
    -- The prefix cancels, so that `f` would be the parent of its own parent `g`.
    obtain rfl : edge.parent = g := Naming.qualify_inj.1 hparent
    obtain rfl : f = edge'.parent := Naming.qualify_inj.1 hchild
    exact tree.not_both_parents ⟨edge, hf, hp, rfl⟩ ⟨edge', mem_entries_iff.1 mem, hp', rfl⟩

/-- The turned transforms are as many as the edges that are turned round. -/
theorem countP_turned (tree : m.RootedAt r) :
    (m.transforms n stamp).countP (·.Turned m n.framePrefix) = (m.turnedEdges n).length := by
  rw [transforms, List.countP_filterMap, turnedEdges, parented, List.filter_filter,
    ← List.countP_eq_length_filter]
  refine List.countP_congr ?_
  rintro ⟨f, edge⟩ mem
  have hf := mem_entries_iff.1 mem
  by_cases hp : edge.parent = ""
  · simp [Edge.transform?, hp]
  · obtain ⟨t, ht, -⟩ := edge.exists_shown n stamp f hp
    have target : n.qualify f = n.inverseTarget ↔ n.IsTarget f := Iff.rfl
    simp [ht, hp, turned_iff tree hf ht, target]

/-- What is turned round is the edge of the target, and its transform has the inverse pose. -/
theorem pose_of_turned (tree : m.RootedAt r) (ht : t ∈ m.transforms n stamp)
    (turned : t.Turned m n.framePrefix) :
    ∃ f edge, n.IsTarget f ∧ m.find? f = some edge ∧ t.pose = edge.pose.pose.inverse := by
  obtain ⟨f, edge, hf, hp, ⟨other, rfl⟩ | ⟨target, rfl⟩⟩ := mem_transforms_cases ht
  · exact absurd ((turned_iff tree hf (Edge.transform?_of_forward hp other)).1 turned) other
  · exact ⟨f, edge, target, hf, rfl⟩

end EdgeMap

/-! ## Targets of configurations -/

section Configured

variable {c : Config} {m : EdgeMap α} {s : Snapshot α}

/-- No frame but the body is without a parent. -/
def EdgeMap.OnlyRootIsBody (m : EdgeMap α) : Prop :=
  ∀ entry ∈ m.entries, entry.2.parent = "" → entry.1 = bodyFrame

instance (m : EdgeMap α) : Decidable m.OnlyRootIsBody :=
  inferInstanceAs (Decidable (∀ entry ∈ m.entries, _))

namespace Config

/-- The target of a configuration is not the name of a root. -/
theorem fate_ne_parentless (body : m.OnlyRootIsBody) {log : List Event} {fate : TargetFate}
    (h : fate.Holds m c.options.toNaming log) : fate ≠ .parentless := by
  rintro rfl
  obtain ⟨⟨f, edge, hf, hp, target⟩, -⟩ := h
  have isTarget : f = c.localTarget := (isTarget_iff f).1 target
  have isBody : f = bodyFrame := body (f, edge) (EdgeMap.mem_entries_iff.2 hf) hp
  exact c.localTarget_ne_body (isTarget.symm.trans isBody)

theorem targetIsRoot_notMem_events (body : m.OnlyRootIsBody) (frame : String) :
    .targetIsRoot frame ∉ m.events c.options.toNaming := by
  obtain ⟨fate, h⟩ := TargetFate.exists_holds m c.options.toNaming
  have ne := fate_ne_parentless body h
  cases fate with
  | inverted =>
    obtain ⟨f, edge, -, hlog⟩ := h
    simp [hlog]
  | parentless => exact absurd rfl ne
  | unnamed => simp [h.2.2]

theorem length_turnedEdges (body : m.OnlyRootIsBody) :
    (m.turnedEdges c.options.toNaming).length = if c.localTarget ∈ m.keys then 1 else 0 := by
  obtain ⟨fate, h⟩ := TargetFate.exists_holds m c.options.toNaming
  have ne := fate_ne_parentless body h
  cases fate with
  | inverted =>
    obtain ⟨f, edge, hone, -⟩ := h
    have mem : (f, edge) ∈ m.turnedEdges c.options.toNaming := by simp [hone]
    rw [EdgeMap.turnedEdges, EdgeMap.parented, List.mem_filter, List.mem_filter] at mem
    have isTarget : f = c.localTarget := (isTarget_iff f).1 (of_decide_eq_true mem.2)
    have isFrame : f ∈ m.keys := List.mem_map_of_mem mem.1.1
    rw [hone, if_pos (isTarget ▸ isFrame)]
    rfl
  | parentless => exact absurd rfl ne
  | unnamed =>
    obtain ⟨hno, hnil, -⟩ := h
    have missing : c.localTarget ∉ m.keys := fun hmem => hno _ hmem rfl
    rw [hnil, if_neg missing]
    rfl

end Config

variable [Add α] [Sub α] [Mul α] [Neg α] [IntCast α]

theorem Config.countP_turned {r : String} (tree : m.RootedAt r) (body : m.OnlyRootIsBody)
    (stamp : Stamp) :
    (m.transforms c.options.toNaming stamp).countP (·.Turned m c.framePrefix) =
      if c.localTarget ∈ m.keys then 1 else 0 :=
  (EdgeMap.countP_turned tree).trans (length_turnedEdges body)

theorem Config.edge_of_turned {r : String} {stamp : Stamp} {t : Transform α}
    (tree : m.RootedAt r) (ht : t ∈ m.transforms c.options.toNaming stamp)
    (turned : t.Turned m c.framePrefix) :
    ∃ edge, m.find? c.localTarget = some edge ∧ t.pose = edge.pose.pose.inverse := by
  obtain ⟨f, edge, target, hf, pose⟩ := EdgeMap.pose_of_turned tree ht turned
  obtain rfl : f = c.localTarget := (isTarget_iff f).1 target
  exact ⟨edge, hf, pose⟩

variable [Div α] [LT α] [DecidableLT α] [OfScientific α] [SquareRoot α]

theorem Snapshot.targetIsRoot_notMem_log (body : s.edges.OnlyRootIsBody) (skew : Duration)
    (frame : String) : .targetIsRoot frame ∉ (s.toState skew c.options).log := by
  obtain ⟨_, _, -, -, heq⟩ | ⟨state, heq⟩ := s.toState_cases skew c.options
  · simp [heq]
  · have quiet := Config.targetIsRoot_notMem_events body frame (c := c)
    simp [heq, quiet, RobotState.summary]

/-- On a robot whose only root is the body, a client never reports that its target is a root. The
transforms that it turns round are one if the target, which is the anchor unless a frame is named,
is a frame of the robot, and none otherwise; without a named frame they are always one. -/
theorem config_turns_one_edge (body : s.edges.OnlyRootIsBody) (c : Config) (skew : Duration) :
    (∀ frame, .targetIsRoot frame ∉
      ((Client.ofConfig c none).fetchState ⟨.value s, .value skew⟩).log) ∧
    ∀ k state, s.kinematics = some k →
      ((Client.ofConfig c none).fetchState ⟨.value s, .value skew⟩).outcome = .ok state →
      ∃ ts, state.transforms = some ts ∧
        ts.countP (·.Turned k.edges c.framePrefix) =
          (if c.inverseTarget.getD c.anchor.frame ∈ k.edges.keys then 1 else 0) ∧
        (c.inverseTarget = none → ts.countP (·.Turned k.edges c.framePrefix) = 1) ∧
        ∀ t ∈ ts, t.Turned k.edges c.framePrefix → ∃ edge,
          k.edges.find? (c.inverseTarget.getD c.anchor.frame) = some edge ∧
          t.pose = edge.pose.pose.inverse := by
  refine ⟨s.targetIsRoot_notMem_log body skew, fun k state hk h => ?_⟩
  have edges : s.edges = k.edges := by rw [Snapshot.edges, hk]
  rw [edges] at body
  obtain ⟨hnone, -⟩ | ⟨k', pose, joints, hk', hp, -, rfl⟩ :=
    Snapshot.toState_ok_cases (Client.fetchState_ok_iff.1 h)
  · rw [hk] at hnone
    cases hnone
  · obtain rfl : k' = k := Option.some.inj (hk'.symm.trans hk)
    obtain ⟨r, steps, steps', tree, climb, -, -⟩ := EdgeMap.relativePose_ok_cases hp
    have count := Config.countP_turned (c := c) tree body (k'.acquired.corrected skew)
    refine ⟨_, rfl, count, fun unnamed => ?_, fun t => Config.edge_of_turned tree⟩
    -- Without a named frame the target is the anchor, and only a frame can be climbed from.
    have anchored : c.localTarget ∈ k'.edges.keys := by
      rw [Config.localTarget, unnamed]
      exact climb.mem_keys
    exact count.trans (if_pos anchored)

end Configured

/-- The robot `x` with a frame to be inverted that looks like its qualified body. -/
def lookalike : Config :=
  ⟨"x", .vision, some "x/body", by decide +kernel,
    invertibleTarget_some (by decide +kernel) (by decide)⟩

/-- The frame that looks like the qualified body is turned round, two steps below the root. -/
theorem lookalike_turned : (imitating "x/body").edges.OnlyRootIsBody ∧ ∃ state ts,
    ((Client.ofConfig lookalike none).fetchState
      ⟨.value (imitating "x/body"), .value {}⟩).outcome = .ok state ∧
    state.transforms = some ts ∧
    ts.countP (·.Turned (imitating "x/body").edges "x/") = 1 ∧
    ∀ frame, .targetIsRoot frame ∉ ((Client.ofConfig lookalike none).fetchState
      ⟨.value (imitating "x/body"), .value {}⟩).log := by
  have body : (imitating "x/body").edges.OnlyRootIsBody := by decide +kernel
  have root : (imitating "x/body").edges.root? = some bodyFrame := by decide +kernel
  have hvision : "vision" ∈ (imitating "x/body").edges.keys := by decide +kernel
  have htarget : "x/body" ∈ (imitating "x/body").edges.keys := by decide +kernel
  have hbody := (EdgeMap.rootedAt_of_root? root).mem_keys
  obtain ⟨pose, ok⟩ := (imitating "x/body").exists_assembled {} lookalike.options rfl root hvision
    hbody rfl
  have outcome := Client.fetchState_ok_iff.2 ok
  obtain ⟨quiet, turned⟩ := config_turns_one_edge body lookalike {}
  obtain ⟨ts, hts, count, -, -⟩ := turned _ _ rfl outcome
  exact ⟨body, _, ts, outcome, hts, count.trans (if_pos htarget), quiet⟩

end RobotTelemetry
