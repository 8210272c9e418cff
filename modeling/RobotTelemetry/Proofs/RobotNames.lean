import RobotTelemetry.Client.Basic
import RobotTelemetry.Proofs.Reading
/-!
# Names of several robots

Under a configuration with a robot's name, every frame id and joint name of a robot state is that
name, a slash and the local name of the thing, whatever the robot calls its frames
(`names_of_toState`). The name of a robot holds no slash, so that the first slash of a qualified name
is the one behind the robot's name (`cutAtSlash_eq_some_iff`). So names can be taken apart again, and
two robots never share one. The main result is `names_disjoint`.
-/

namespace RobotTelemetry

/-! ## Cutting names -/

/-- A name cut at its first slash, into what stands before it and what stands after it. -/
def cutAtSlash (name : String) : Option (String × String) :=
  match name.toList.dropWhile (· ≠ '/') with
  | [] => none
  | _ :: after => some (.ofList (name.toList.takeWhile (· ≠ '/')), .ofList after)

theorem cutAtSlash_append {before : String} (h : '/' ∉ before.toList) (after : String) :
    cutAtSlash (before ++ "/" ++ after) = some (before, after) := by
  have chars : (before ++ "/" ++ after).toList = before.toList ++ '/' :: after.toList := by
    simp [String.toList_append]
  have plain : ∀ c ∈ before.toList, decide (c ≠ '/') = true := fun c hc =>
    decide_eq_true fun e => h (e ▸ hc)
  rw [cutAtSlash, chars, List.dropWhile_append_of_pos plain, List.takeWhile_append_of_pos plain]
  simp

/-- A name is cut into two texts exactly if it is these with a slash between them and the first
holds no slash. -/
theorem cutAtSlash_eq_some_iff {name before after : String} :
    cutAtSlash name = some (before, after) ↔
      name = before ++ "/" ++ after ∧ '/' ∉ before.toList := by
  constructor
  · intro h
    unfold cutAtSlash at h
    split at h
    · cases h
    · next c rest hd =>
      obtain ⟨rfl, rfl⟩ := Prod.mk.inj (Option.some.inj h)
      have slash : c = '/' := by
        have := List.head?_dropWhile_not (· ≠ '/') name.toList
        rw [hd] at this
        simpa using this
      have plain : '/' ∉ name.toList.takeWhile (· ≠ '/') := fun hc => by
        simpa using List.all_eq_true.1 (List.all_takeWhile (p := (· ≠ '/'))) _ hc
      have chars : name.toList = name.toList.takeWhile (· ≠ '/') ++ '/' :: rest := by
        subst slash
        rw [← hd, List.takeWhile_append_dropWhile]
      refine ⟨?_, by rwa [String.toList_ofList]⟩
      rw [← String.toList_inj]
      exact chars.trans (by simp [String.toList_append])
  · rintro ⟨rfl, h⟩
    exact cutAtSlash_append h after

/-! ## Names in robot states -/

def Transform.frames {α : Type} (t : Transform α) : List String :=
  [t.parent, t.child]

def Odometry.frames {α : Type} (o : Odometry α) : List String :=
  [o.frame, o.childFrame]

/-- The frame ids and joint names of a robot state, facet by facet. -/
def RobotState.names {α : Type} (state : RobotState α) : List String :=
  (state.joints.map fun j => j.joints.map (·.name)).getD [] ++
  (state.transforms.getD []).flatMap (·.frames) ++
  (state.bodyTwist.map (·.frame)).toList ++
  (state.odometry.map (·.frames)).getD [] ++
  (state.correctedOdometry.map (·.frames)).getD [] ++
  (state.endEffectorForce.map (·.frame)).toList

/-! ## Local names -/

section LocalNames

variable {α : Type}

/-- The frames of an edge with a parent in the order in which it is published: the parent first,
unless the frame is the inverse target. A root has no edge to publish. -/
def Edge.localFrames (target frame : String) (edge : Edge α) : List String :=
  if edge.parent = "" then []
  else if frame = target then [frame, edge.parent] else [edge.parent, frame]

/-- The frames of all edges, in order. -/
def EdgeMap.localFrames (m : EdgeMap α) (target : String) : List String :=
  m.entries.flatMap fun (frame, edge) => edge.localFrames target frame

/-- The friendly names of the joints that the table has. -/
def KinematicsReport.localJoints (k : KinematicsReport α) : List String :=
  k.joints.filterMap fun j => (Joint.ofId? j.id).map (·.friendlyName)

/-- The names that a robot state is about, as the robot itself uses them or as its parts are always
called. -/
def Snapshot.localNames (s : Snapshot α) (target : String) (anchor : Anchor) : List String :=
  (s.kinematics.map fun k =>
    k.localJoints ++ k.edges.localFrames target ++
      [anchor.frame, anchor.frame, bodyFrame, anchor.frame, bodyFrame]).getD [] ++
  (s.manipulator.map fun _ => handFrame).toList

variable {n : Naming} {target framePrefix : String}

theorem KinematicsReport.map_name_of_jointStates [IntCast α] {k : KinematicsReport α}
    {skew : Duration} {joints : JointStates α}
    (h : k.jointStates skew framePrefix = .ok joints) :
    joints.joints.map (·.name) = k.localJoints.map (framePrefix ++ ·) := by
  have read := (jointStates_ok_cases h).2
  rw [localJoints]
  generalize k.joints = reports, joints.joints = states at read ⊢
  induction read with
  | nil => rfl
  | cons hj _ ih =>
    obtain ⟨joint, hjoint, rfl⟩ := JointReport.state_ok_cases hj
    rw [List.map_cons, ih, List.filterMap_cons, hjoint]
    rfl

variable [Add α] [Sub α] [Mul α] [Neg α] [IntCast α]

theorem EdgeMap.flatMap_frames_transforms (ht : ∀ f, n.IsTarget f ↔ f = target) (m : EdgeMap α)
    (stamp : Stamp) :
    (m.transforms n stamp).flatMap (·.frames) = (m.localFrames target).map n.qualify := by
  rw [transforms, localFrames, List.filterMap_eq_flatMap_toList, List.flatMap_assoc,
    List.map_flatMap]
  congr 1
  funext entry
  obtain ⟨frame, edge⟩ := entry
  simp only [Edge.transform?, Edge.localFrames, ht]
  split
  · rfl
  · split <;> rfl

/-! ## Names of a reading -/

variable [Div α] [LT α] [DecidableLT α] [OfScientific α] [SquareRoot α]

/-- The names of a robot state are the local names of its snapshot, each with the prefix in front. -/
theorem Snapshot.names_of_toState {s : Snapshot α} {skew : Duration} {options : Options}
    {state : RobotState α} (ht : ∀ f, options.toNaming.IsTarget f ↔ f = target)
    (h : (s.toState skew options).outcome = .ok state) :
    state.names = (s.localNames target options.anchor).map (options.framePrefix ++ ·) := by
  have hand : ((endEffectorForce skew options.framePrefix s).map (·.frame)).toList =
      ((s.manipulator.map fun _ => handFrame).toList).map (options.framePrefix ++ ·) := by
    rw [endEffectorForce]
    cases s.manipulator <;> rfl
  obtain ⟨hnone, rfl⟩ | ⟨k, pose, joints, hk, -, hj, rfl⟩ := toState_ok_cases h
  · simp only [RobotState.names, localNames, assemble, bodyTwist, hnone, hand, Option.map_none,
      Option.getD_none, Option.toList_none, List.flatMap_nil, List.nil_append]
  · have frames : (k.edges.transforms options.toNaming (k.acquired.corrected skew)).flatMap
        (·.frames) = _ := EdgeMap.flatMap_frames_transforms ht k.edges _
    simp only [RobotState.names, assembled, assemble, bodyTwist, localNames, hk, hand, frames,
      KinematicsReport.map_name_of_jointStates hj, Option.map_some, Option.getD_some,
      Option.toList_some, List.map_append, List.append_assoc]
    rfl

end LocalNames

/-! ## Clients of configured robots -/

namespace Config

variable {c : Config}

theorem framePrefix_of_ne (h : c.robotName ≠ "") : c.framePrefix = c.robotName ++ "/" := by
  rw [framePrefix, if_neg h]

/-- The frame that a configuration has published the other way round, by its local name. -/
def localTarget (c : Config) : String :=
  c.inverseTarget.getD c.anchor.frame

theorem isTarget_iff (f : String) : c.options.toNaming.IsTarget f ↔ f = c.localTarget :=
  String.append_right_inj _

theorem slash_notMem_robotName (c : Config) : '/' ∉ c.robotName.toList :=
  fun h => (c.plain_robotName '/' h).1 rfl

end Config

section Clients

variable {α : Type} [Add α] [Sub α] [Mul α] [Neg α] [IntCast α] [Div α] [LT α] [DecidableLT α]
  [OfScientific α] [SquareRoot α] {c c' : Config} {s s' : Snapshot α} {skew skew' : Duration}
  {state state' : RobotState α}

theorem Client.fetchState_ok_iff {client : Client} :
    (client.fetchState ⟨.value s, .value skew⟩).outcome = .ok state ↔
      (s.toState skew client.options).outcome = .ok state := by
  have h : (client.fetchState ⟨.value s, .value skew⟩).outcome =
      (s.toState skew client.options).outcome.mapError .state := rfl
  rw [h]
  cases (s.toState skew client.options).outcome with
  | error e => exact ⟨nofun, nofun⟩
  | ok state' => simp [Except.mapError]

/-- The names that a client of a named robot gives are cut into the name of the robot and the local
names. -/
theorem map_cutAtSlash_names (hc : c.robotName ≠ "")
    (h : ((Client.ofConfig c none).fetchState ⟨.value s, .value skew⟩).outcome = .ok state) :
    state.names.map cutAtSlash =
      (s.localNames c.localTarget c.anchor).map fun f => some (c.robotName, f) := by
  have names : state.names = (s.localNames c.localTarget c.anchor).map (c.framePrefix ++ ·) :=
    Snapshot.names_of_toState Config.isTarget_iff (Client.fetchState_ok_iff.1 h)
  rw [names, List.map_map]
  refine List.map_congr_left fun f _ => ?_
  rw [Function.comp_apply, Config.framePrefix_of_ne hc]
  exact cutAtSlash_eq_some_iff.2 ⟨rfl, c.slash_notMem_robotName⟩

/-! ## Main result -/

/-- Two robots with different names share no frame id and no joint name, whatever frames they report,
and the first slash of each name stands between the name of the robot and the local name. -/
theorem names_disjoint (hc : c.robotName ≠ "") (hc' : c'.robotName ≠ "")
    (hne : c.robotName ≠ c'.robotName)
    (h : ((Client.ofConfig c none).fetchState ⟨.value s, .value skew⟩).outcome = .ok state)
    (h' : ((Client.ofConfig c' none).fetchState ⟨.value s', .value skew'⟩).outcome = .ok state') :
    (∀ name ∈ state.names, name ∉ state'.names) ∧
      state.names.map cutAtSlash =
        (s.localNames c.localTarget c.anchor).map (fun f => some (c.robotName, f)) ∧
      state'.names.map cutAtSlash =
        (s'.localNames c'.localTarget c'.anchor).map fun f => some (c'.robotName, f) := by
  have cut := map_cutAtSlash_names hc h
  have cut' := map_cutAtSlash_names hc' h'
  refine ⟨fun name hname hname' => hne ?_, cut, cut'⟩
  -- A common name is cut at one place only, so that both robots' names stand before it.
  have mem := List.mem_map_of_mem (f := cutAtSlash) hname
  have mem' := List.mem_map_of_mem (f := cutAtSlash) hname'
  rw [cut] at mem
  rw [cut'] at mem'
  obtain ⟨f, -, hf⟩ := List.mem_map.1 mem
  obtain ⟨f', -, hf'⟩ := List.mem_map.1 mem'
  rw [← hf, Option.some.injEq, Prod.mk.injEq] at hf'
  exact hf'.1.symm

end Clients

/-! ### Two robots that imitate each other -/

def Config.ofName (name : String) (h : PlainName name) : Config :=
  ⟨name, .vision, none, h, invertibleTarget_none⟩

/-- A robot that reports a frame of the given name next to its own. -/
def imitating (frame : String) : Snapshot Float where
  kinematics := some { KinematicsReport.unset with
    joints := [⟨"fl.hx", none, none, none, none⟩]
    edges := .ofList [("vision", ⟨"body", .unset⟩), (frame, ⟨"vision", .unset⟩),
      ("body", ⟨"", .unset⟩)] }
  manipulator := some .unset

theorem exists_state_of_imitating {name : String} (h : PlainName name) (frame : String)
    (root : (imitating frame).edges.root? = some bodyFrame)
    (hvision : "vision" ∈ (imitating frame).edges.keys) : ∃ state,
    ((Client.ofConfig (.ofName name h) none).fetchState
      ⟨.value (imitating frame), .value {}⟩).outcome = .ok state := by
  have hbody := (EdgeMap.rootedAt_of_root? root).mem_keys
  obtain ⟨pose, ok⟩ := (imitating frame).exists_assembled {} (Config.ofName name h).options rfl
    root hvision hbody rfl
  exact ⟨_, Client.fetchState_ok_iff.2 ok⟩

/-- One robot reports a frame with the name of the other robot's body, and the other way round. -/
theorem imitating_names_disjoint : ∃ spot opal : Config, ∃ state state',
    spot.robotName = "spot" ∧ opal.robotName = "opal" ∧
    ((Client.ofConfig spot none).fetchState
      ⟨.value (imitating "opal/body"), .value {}⟩).outcome = .ok state ∧
    ((Client.ofConfig opal none).fetchState
      ⟨.value (imitating "spot/body"), .value {}⟩).outcome = .ok state' ∧
    (∀ name ∈ state.names, name ∉ state'.names) ∧
    state.names.map cutAtSlash =
      ((imitating "opal/body").localNames "vision" .vision).map (fun f => some ("spot", f)) ∧
    state'.names.map cutAtSlash =
      ((imitating "spot/body").localNames "vision" .vision).map (fun f => some ("opal", f)) := by
  have hspot : PlainName "spot" := by decide +kernel
  have hopal : PlainName "opal" := by decide +kernel
  have spot_ne : "spot" ≠ "" := by decide
  have opal_ne : "opal" ≠ "" := by decide
  have ne : "spot" ≠ "opal" := by decide
  obtain ⟨state, h⟩ := exists_state_of_imitating hspot "opal/body" (by decide +kernel)
    (by decide +kernel)
  obtain ⟨state', h'⟩ := exists_state_of_imitating hopal "spot/body" (by decide +kernel)
    (by decide +kernel)
  exact ⟨.ofName "spot" hspot, .ofName "opal" hopal, state, state', rfl, rfl, h, h',
    names_disjoint spot_ne opal_ne ne h h'⟩

end RobotTelemetry
