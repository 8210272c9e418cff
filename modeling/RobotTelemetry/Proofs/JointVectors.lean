import RobotTelemetry.Proofs.Refusals
import RobotTelemetry.State.Json
/-!
# Joint vectors

The joints are published as four vectors: names, positions, velocities and efforts. Either all
joints are known, and then each vector has one entry for each joint, at the index where the joint
was reported, or nothing is published and the first unknown id is the error. No two joints of the
table share a friendly name, so that entries have equal names exactly if their joints have equal
ids. The main result is `jointStates_vectors`.
-/

namespace RobotTelemetry

/-! ## Names and ids -/

namespace Joint

theorem id_injective : Function.Injective Joint.id := by
  intro j j' h
  have found : ofId? j.id = ofId? j'.id := congrArg ofId? h
  simpa using found

theorem friendlyName_injective : Function.Injective friendlyName := by
  intro j j' h
  have distinct : (all.map friendlyName).Nodup := by decide +kernel
  exact List.inj_on_of_nodup_map distinct (mem_all j) (mem_all j') h

theorem qualifiedName_eq_iff {framePrefix : String} {j j' : Joint} :
    j.qualifiedName framePrefix = j'.qualifiedName framePrefix ↔ j.id = j'.id := by
  rw [qualifiedName, qualifiedName, String.append_right_inj, friendlyName_injective.eq_iff,
    id_injective.eq_iff]

end Joint

/-! ## Vectors -/

/-- What the joints are published as. -/
structure JointVectors (α : Type) where
  names : List String
  positions : List α
  velocities : List α
  efforts : List α

section Vectors

variable {α : Type}

def JointVectors.toJson (number : Component α → Json) (stamp : Stamp) (v : JointVectors α) : Json :=
  .object [("stamp", stamp.toJson), ("name", .ofList .string v.names),
    ("position", .ofList (fun x => number (.real x)) v.positions),
    ("velocity", .ofList (fun x => number (.real x)) v.velocities),
    ("effort", .ofList (fun x => number (.real x)) v.efforts)]

def JointStates.vectors (r : JointStates α) : JointVectors α where
  names := r.joints.map (·.name)
  positions := r.joints.map (·.position)
  velocities := r.joints.map (·.velocity)
  efforts := r.joints.map (·.effort)

theorem JointStates.toJson_eq (number : Component α → Json) (r : JointStates α) :
    r.toJson number = r.vectors.toJson number r.stamp := by
  simp [JointStates.toJson, JointVectors.toJson, vectors, Json.ofList, Function.comp_def]

/-- The vectors belong to the joints index by index. A quantity that is left open is zero, and two
entries have the same name exactly if their joints have the same id. -/
structure JointVectors.Aligned [IntCast α] (framePrefix : String) (joints : List (JointReport α))
    (v : JointVectors α) : Prop where
  names_length : v.names.length = joints.length
  positions_length : v.positions.length = joints.length
  velocities_length : v.velocities.length = joints.length
  efforts_length : v.efforts.length = joints.length
  name : ∀ (i : Nat) (hi : i < joints.length), ∃ joint : Joint, joint.id = joints[i].id ∧
    v.names[i]? = some (framePrefix ++ joint.friendlyName)
  position : ∀ (i : Nat) (hi : i < joints.length),
    v.positions[i]? = some (joints[i].position.getD ((0 : Int) : α))
  velocity : ∀ (i : Nat) (hi : i < joints.length),
    v.velocities[i]? = some (joints[i].velocity.getD ((0 : Int) : α))
  effort : ∀ (i : Nat) (hi : i < joints.length),
    v.efforts[i]? = some (joints[i].load.getD ((0 : Int) : α))
  name_eq_iff : ∀ (i i' : Nat) (hi : i < joints.length) (hi' : i' < joints.length),
    v.names[i]? = v.names[i']? ↔ joints[i].id = joints[i'].id

variable [IntCast α] {framePrefix : String} {joints : List (JointReport α)} {r : JointStates α}

theorem aligned_of_forall₂
    (h : List.Forall₂ (fun j state => j.state framePrefix = .ok state) joints r.joints) :
    r.vectors.Aligned framePrefix joints := by
  have length : r.joints.length = joints.length := h.length_eq.symm
  have entry (i : Nat) (hi : i < joints.length) : ∃ joint : Joint, joint.id = joints[i].id ∧
      r.joints[i]? = some ⟨joint.qualifiedName framePrefix, joints[i].position.value,
        joints[i].velocity.value, joints[i].load.value⟩ := by
    have hi' : i < r.joints.length := length ▸ hi
    obtain ⟨joint, hjoint, hstate⟩ :=
      JointReport.state_ok_cases ((List.forall₂_iff_get.1 h).2 i hi hi')
    refine ⟨joint, Joint.id_of_ofId? hjoint, ?_⟩
    rw [List.getElem?_eq_getElem hi']
    exact congrArg some hstate
  constructor
  case names_length | positions_length | velocities_length | efforts_length =>
    exact (List.length_map _).trans length
  case name =>
    intro i hi
    obtain ⟨joint, hid, hget⟩ := entry i hi
    exact ⟨joint, hid, by rw [JointStates.vectors, List.getElem?_map, hget]; rfl⟩
  case position | velocity | effort =>
    intro i hi
    obtain ⟨joint, -, hget⟩ := entry i hi
    rw [JointStates.vectors, List.getElem?_map, hget]
    rfl
  case name_eq_iff =>
    intro i i' hi hi'
    obtain ⟨joint, hid, hget⟩ := entry i hi
    obtain ⟨joint', hid', hget'⟩ := entry i' hi'
    rw [JointStates.vectors, List.getElem?_map, List.getElem?_map, hget, hget', ← hid, ← hid',
      Option.map_some, Option.map_some, Option.some.injEq, Joint.qualifiedName_eq_iff]

/-- Joints with different ids have different names. -/
theorem JointVectors.Aligned.nodup_names {v : JointVectors α} (h : v.Aligned framePrefix joints)
    (distinct : (joints.map (·.id)).Nodup) : v.names.Nodup := by
  rw [List.nodup_iff_getElem?_ne_getElem?]
  intro i i' hlt hi' same
  rw [h.names_length] at hi'
  have hi : i < joints.length := Nat.lt_trans hlt hi'
  have ids : (joints.map (·.id))[i]? = (joints.map (·.id))[i']? := by
    simpa [hi, hi'] using (h.name_eq_iff i i' hi hi').1 same
  have index : i = i' := (List.getElem?_inj (by simpa) distinct).1 ids
  omega

end Vectors

/-! ## The first unknown id -/

/-- The joint at this index is unknown, and all before it are known. -/
def FirstUnknown {α : Type} (joints : List (JointReport α)) (i : Nat) (j : JointReport α) : Prop :=
  joints[i]? = some j ∧ ¬ Joint.Known j.id ∧
    ∀ i' < i, ∀ j', joints[i']? = some j' → Joint.Known j'.id

section Unknown

variable {α : Type} {joints : List (JointReport α)} {i i' : Nat} {j j' : JointReport α}

theorem FirstUnknown.unique (h : FirstUnknown joints i j) (h' : FirstUnknown joints i' j') :
    j = j' := by
  obtain ⟨hj, bad, known⟩ := h
  obtain ⟨hj', bad', known'⟩ := h'
  rcases Nat.lt_trichotomy i i' with lt | rfl | lt
  · exact absurd (known' i lt j hj) bad
  · rw [hj, Option.some.injEq] at hj'
    exact hj'
  · exact absurd (known i' lt j' hj') bad'

theorem exists_firstUnknown {before after : List String} {id : String}
    (h : joints.map (·.id) = before ++ id :: after) (hbefore : ∀ b ∈ before, Joint.Known b)
    (hid : ¬ Joint.Known id) : ∃ i j, FirstUnknown joints i j ∧ j.id = id := by
  obtain ⟨earlier, rest, rfl, rfl, hrest⟩ := List.map_eq_append_iff.1 h
  obtain ⟨j, later, rfl, rfl, -⟩ := List.map_eq_cons_iff.1 hrest
  refine ⟨earlier.length, j, ⟨by simp, hid, fun i hi j' hj' => ?_⟩, rfl⟩
  rw [List.getElem?_append_left hi] at hj'
  exact hbefore _ (List.mem_map_of_mem (List.mem_of_getElem? hj'))

end Unknown

/-! ## Main result -/

/-- The joints of moving parts are published exactly if all of them are known, as vectors that
belong to them index by index, where joints with different ids have different names. Otherwise the
first unknown id is the error. -/
theorem Snapshot.jointStates_vectors {α : Type} [IntCast α] {s : Snapshot α}
    {k : KinematicsReport α} (hk : s.kinematics = some k) (skew : Duration)
    (framePrefix : String) :
    ((∃ r, s.jointStates skew framePrefix = .ok (some r)) ↔
      ∀ j ∈ k.joints, Joint.Known j.id) ∧
    (∀ result, s.jointStates skew framePrefix = .ok result → ∃ r, result = some r ∧
      r.vectors.Aligned framePrefix k.joints ∧
      ((k.joints.map (·.id)).Nodup → r.vectors.names.Nodup) ∧
      ∀ number, r.toJson number = r.vectors.toJson number r.stamp) ∧
    ∀ e, s.jointStates skew framePrefix = .error e ↔
      ∃ i j, FirstUnknown k.joints i j ∧ e = .unknownJoint j.id := by
  rcases Joint.known_or_first_unknown (k.joints.map (·.id)) with
    known | ⟨before, id, after, hids, hbefore, hid⟩
  · obtain ⟨r, hr⟩ := KinematicsReport.jointStates_of_known known skew framePrefix
    have read := jointStates_of_ok hk hr
    rw [List.forall_mem_map] at known
    refine ⟨iff_of_true ⟨r, read⟩ known, fun result h => ?_, fun e => iff_of_false ?_ ?_⟩
    · rw [read, Except.ok.injEq] at h
      have aligned := aligned_of_forall₂ (KinematicsReport.jointStates_ok_cases hr).2
      exact ⟨r, h.symm, aligned, aligned.nodup_names, fun number => r.toJson_eq number⟩
    · rw [read]
      nofun
    · rintro ⟨i, j, ⟨hj, bad, -⟩, -⟩
      exact bad (known j (List.mem_of_getElem? hj))
  · have refused := jointStates_of_error hk
      (KinematicsReport.jointStates_of_unknown hids hbefore hid skew framePrefix)
    obtain ⟨i, j, first, rfl⟩ := exists_firstUnknown hids hbefore hid
    refine ⟨iff_of_false ?_ fun known => ?_, fun result h => ?_, fun e => ⟨fun h => ?_, ?_⟩⟩
    · rintro ⟨r, h⟩
      rw [refused] at h
      cases h
    · exact hid (known j (List.mem_of_getElem? first.1))
    · rw [refused] at h
      cases h
    · rw [refused, Except.error.injEq] at h
      exact ⟨i, j, first, h.symm⟩
    · rintro ⟨i', j', first', rfl⟩
      rw [refused, first.unique first']

def reporting (joints : List (JointReport Int)) : Snapshot Int where
  kinematics := some { KinematicsReport.unset with joints }

def knee (load : Option Int) : JointReport Int :=
  ⟨"fl.kn", some 1, none, some 9, load⟩

/-- A knee that is reported twice has one name and two loads, and of two parts that the table lacks
the first is the error. -/
theorem knees_published : (∃ r,
    (reporting [knee (some 4), knee none]).jointStates {} "spot/" = .ok (some r) ∧
    r.vectors.names[0]? = r.vectors.names[1]? ∧ r.vectors.efforts[0]? = some 4 ∧
    r.vectors.efforts[1]? = some 0) ∧
    (reporting [knee none, ⟨"tail", none, none, none, none⟩,
      ⟨"nose", none, none, none, none⟩]).jointStates {} "spot/" =
        .error (.unknownJoint "tail") := by
  have known : Joint.Known "fl.kn" := ⟨.frontLeftKnee, rfl⟩
  have unknown : ¬ Joint.Known "tail" := by
    rintro ⟨joint, h⟩
    cases joint <;> exact absurd h (by decide)
  constructor
  · obtain ⟨published, vectors, -⟩ := Snapshot.jointStates_vectors
      (s := reporting [knee (some 4), knee none]) rfl {} "spot/"
    obtain ⟨r, hr⟩ := published.2 (by simp [knee, known])
    obtain ⟨r', he, aligned, -⟩ := vectors _ hr
    obtain rfl : r = r' := Option.some.inj he
    exact ⟨r, hr, (aligned.name_eq_iff 0 1 (by decide) (by decide)).2 rfl,
      aligned.effort 0 (by decide), aligned.effort 1 (by decide)⟩
  · refine ((Snapshot.jointStates_vectors rfl {} "spot/").2.2 _).2 ⟨1, _, ⟨rfl, unknown, ?_⟩, rfl⟩
    intro i hi j hj
    obtain rfl : i = 0 := by omega
    obtain rfl := Option.some.inj hj
    exact known

end RobotTelemetry
