import RobotTelemetry.Proofs.ComponentTexts
/-!
# Laws of written robot states

A way of writing is faithful if it writes different values differently, legibly, and never as null
(`Json.Faithful`). Every record is written faithfully if its numbers are, and what is missing is
written as null; so a robot state is told from its object (`RobotState.faithful_toJson`).
-/

namespace RobotTelemetry

open Json

namespace Json

/-! ## Faithful ways of writing -/

variable {β γ : Type}

/-- Different values are written differently, legibly, and never as null. -/
structure Faithful (f : β → Json) : Prop where
  injective : Function.Injective f
  legible : ∀ x, Legible (f x)
  ne_null : ∀ x, f x ≠ .null

@[simp]
theorem legible_object {members : List (String × Json)} : Legible (.object members) ↔
    (members.map Prod.fst).Nodup ∧ ∀ m ∈ members, Legible m.2 := by
  constructor
  · rintro (_ | _ | _ | _ | _ | ⟨distinct, h⟩)
    exact ⟨distinct, h⟩
  · exact fun h => .object h.1 h.2

theorem legible_ofList {f : β → Json} (h : ∀ x, Legible (f x)) (xs : List β) :
    Legible (ofList f xs) := by
  refine .array fun v hv => ?_
  obtain ⟨x, -, rfl⟩ := List.mem_map.1 hv
  exact h x

attribute [simp] Faithful.legible

namespace Faithful

variable {f : β → Json}

@[simp]
theorem eq_iff (h : Faithful f) {x y : β} : f x = f y ↔ x = y :=
  h.injective.eq_iff

theorem comp (h : Faithful f) {g : γ → β} (hg : Function.Injective g) :
    Faithful fun x => f (g x) :=
  ⟨h.injective.comp hg, fun x => h.legible (g x), fun x => h.ne_null (g x)⟩

@[simp]
theorem list (h : Faithful f) : Faithful (ofList f) where
  injective _ _ e := List.map_injective_iff.2 h.injective (Json.array.inj e)
  legible := legible_ofList h.legible
  ne_null _ e := nomatch e

@[simp]
theorem ofOption_eq_iff (h : Faithful f) {x y : Option β} :
    ofOption f x = ofOption f y ↔ x = y := by
  cases x with
  | none => cases y with
    | none => simp
    | some y => simp [ofOption, (h.ne_null y).symm]
  | some x => cases y with
    | none => simp [ofOption, h.ne_null x]
    | some y => simp [ofOption, h.eq_iff]

@[simp]
theorem legible_ofOption (h : Faithful f) (x : Option β) : Legible (ofOption f x) := by
  cases x with
  | none => exact .null
  | some x => exact h.legible x

end Faithful

@[simp]
theorem faithful_string : Faithful .string :=
  ⟨fun _ _ => Json.string.inj, .string, fun _ e => nomatch e⟩

@[simp]
theorem faithful_bool : Faithful .bool :=
  ⟨fun _ _ => Json.bool.inj, .bool, fun _ e => nomatch e⟩

@[simp]
theorem faithful_componentJson : Faithful Dump.componentJson where
  injective c d h := by
    have read := toComponent?_componentJson c
    rw [h, toComponent?_componentJson d] at read
    exact (Option.some.inj read).symm
  legible c := by
    cases c with
    | whole n =>
      rw [Dump.componentJson, int, ← Spelling.chars_ofInt]
      exact .number (.spelling _)
    | real x => exact .number (Dump.numberText_doubleText x)
  ne_null c := by cases c <;> simp [Dump.componentJson, int]

@[simp]
theorem faithful_int : Faithful int :=
  faithful_componentJson.comp (g := .whole) fun _ _ => Component.whole.inj

end Json

/-! ## Records without measured numbers -/

@[simp]
theorem Stamp.faithful_toJson : Faithful Stamp.toJson where
  injective := by
    rintro ⟨⟩ ⟨⟩ h
    simpa [toJson] using h
  legible s := by simp [toJson]
  ne_null _ e := nomatch e

@[simp]
theorem Elapsed.faithful_toJson : Faithful Elapsed.toJson where
  injective := by
    rintro ⟨⟩ ⟨⟩ h
    simpa [toJson] using h
  legible e := by simp [toJson]
  ne_null _ e := nomatch e

@[simp]
theorem WifiState.faithful_toJson : Faithful WifiState.toJson where
  injective := by
    rintro ⟨⟩ ⟨⟩ h
    simpa [toJson] using h
  legible w := by simp [toJson]
  ne_null _ e := nomatch e

@[simp]
theorem EstopState.faithful_toJson : Faithful EstopState.toJson where
  injective := by
    rintro ⟨⟩ ⟨⟩ h
    simpa [toJson] using h
  legible e := by simp [toJson]
  ne_null _ e := nomatch e

@[simp]
theorem SystemFault.faithful_toJson : Faithful SystemFault.toJson where
  injective := by
    rintro ⟨⟩ ⟨⟩ h
    simpa [toJson] using h
  legible f := by simp [toJson]
  ne_null _ e := nomatch e

@[simp]
theorem SystemFaults.faithful_toJson : Faithful SystemFaults.toJson where
  injective := by
    rintro ⟨⟩ ⟨⟩ h
    simpa [toJson] using h
  legible f := by simp [toJson]
  ne_null _ e := nomatch e

@[simp]
theorem BehaviorFault.faithful_toJson : Faithful BehaviorFault.toJson where
  injective := by
    rintro ⟨⟩ ⟨⟩ h
    simpa [toJson] using h
  legible f := by simp [toJson]
  ne_null _ e := nomatch e

@[simp]
theorem BehaviorFault.faithful_listToJson : Faithful BehaviorFault.listToJson where
  injective faults faults' h := by
    simpa [listToJson] using h
  legible f := by simp [listToJson]
  ne_null _ e := nomatch e

/-! ## Geometry -/

section Geometry

variable {β : Type} {number : β → Json}

@[simp]
theorem Vec3.faithful_toJson (h : Faithful number) : Faithful (Vec3.toJson number) where
  injective := by
    rintro ⟨⟩ ⟨⟩ e
    simpa [toJson, h] using e
  legible v := by simp [toJson, h]
  ne_null _ e := nomatch e

@[simp]
theorem Quat.faithful_toJson (h : Faithful number) : Faithful (Quat.toJson number) where
  injective := by
    rintro ⟨⟩ ⟨⟩ e
    simpa [toJson, h] using e
  legible q := by simp [toJson, h]
  ne_null _ e := nomatch e

@[simp]
theorem Pose.faithful_toJson (h : Faithful number) : Faithful (Pose.toJson number) where
  injective := by
    rintro ⟨⟩ ⟨⟩ e
    simpa [toJson, h] using e
  legible p := by simp [toJson, h]
  ne_null _ e := nomatch e

@[simp]
theorem Twist.faithful_toJson (h : Faithful number) : Faithful (Twist.toJson number) where
  injective := by
    rintro ⟨⟩ ⟨⟩ e
    simpa [toJson, h] using e
  legible t := by simp [toJson, h]
  ne_null _ e := nomatch e

end Geometry

/-! ## Records with measured numbers -/

section Measured

variable {α : Type} {number : Component α → Json}

theorem Json.Faithful.real (h : Faithful number) : Faithful fun x => number (.real x) :=
  h.comp fun _ _ => Component.real.inj

@[simp]
theorem BatteryState.faithful_toJson (h : Faithful number) :
    Faithful (BatteryState.toJson number) where
  injective := by
    rintro ⟨⟩ ⟨⟩ e
    simpa [toJson, h, h.real] using e
  legible b := by simp [toJson, h, h.real]
  ne_null _ e := nomatch e

@[simp]
theorem Terrain.faithful_toJson (h : Faithful number) : Faithful (Terrain.toJson number) where
  injective := by
    rintro ⟨⟩ ⟨⟩ e
    simpa [toJson, h, h.real] using e
  legible t := by simp [toJson, h, h.real]
  ne_null _ e := nomatch e

@[simp]
theorem Foot.faithful_toJson (h : Faithful number) : Faithful (Foot.toJson number) where
  injective := by
    rintro ⟨⟩ ⟨⟩ e
    simpa [toJson, h, h.real] using e
  legible f := by simp [toJson, h, h.real]
  ne_null _ e := nomatch e

/-- Lists of joints with the same written columns are equal. -/
theorem JointStates.eq_of_columns (h : Faithful number) {joints joints' : List (JointState α)}
    (names : joints.map (fun j => Json.string j.name) = joints'.map fun j => .string j.name)
    (positions : joints.map (fun j => number (.real j.position)) =
      joints'.map fun j => number (.real j.position))
    (velocities : joints.map (fun j => number (.real j.velocity)) =
      joints'.map fun j => number (.real j.velocity))
    (efforts : joints.map (fun j => number (.real j.effort)) =
      joints'.map fun j => number (.real j.effort)) : joints = joints' := by
  induction joints generalizing joints' with
  | nil => exact (List.map_eq_nil_iff.1 names.symm).symm
  | cons j js ih =>
    cases joints' with
    | nil => cases names
    | cons j' js' =>
      obtain ⟨name, position, velocity, effort⟩ := j
      obtain ⟨name', position', velocity', effort'⟩ := j'
      simp only [List.map_cons, List.cons.injEq, h.real.eq_iff, Json.string.injEq] at *
      obtain ⟨rfl, names⟩ := names
      obtain ⟨rfl, positions⟩ := positions
      obtain ⟨rfl, velocities⟩ := velocities
      obtain ⟨rfl, efforts⟩ := efforts
      exact ⟨rfl, ih names positions velocities efforts⟩

@[simp]
theorem JointStates.faithful_toJson (h : Faithful number) :
    Faithful (JointStates.toJson number) where
  injective := by
    rintro ⟨stamp, joints⟩ ⟨stamp', joints'⟩ e
    simp only [toJson, ofList, Json.object.injEq, List.cons.injEq, Prod.mk.injEq, true_and,
      Json.array.injEq, and_true, Stamp.faithful_toJson.eq_iff] at e
    obtain ⟨rfl, names, positions, velocities, efforts⟩ := e
    rw [eq_of_columns h names positions velocities efforts]
  legible j := by
    have names := legible_ofList (fun s : JointState α => .string s.name) j.joints
    have reals (f : JointState α → α) : Legible (ofList (fun s => number (.real (f s))) j.joints) :=
      legible_ofList (fun s => h.real.legible (f s)) j.joints
    simp [toJson, names, reals]
  ne_null _ e := nomatch e

@[simp]
theorem Transform.faithful_toJson (h : Faithful number) : Faithful (Transform.toJson number) where
  injective := by
    rintro ⟨⟩ ⟨⟩ e
    simpa [toJson, h, h.real] using e
  legible t := by simp [toJson, h]
  ne_null _ e := nomatch e

@[simp]
theorem Transform.faithful_listToJson (h : Faithful number) :
    Faithful (Transform.listToJson number) where
  injective ts ts' e := by simpa [listToJson, (Transform.faithful_toJson h).list.eq_iff] using e
  legible ts := by simp [listToJson, (Transform.faithful_toJson h).list.legible]
  ne_null _ e := nomatch e

@[simp]
theorem StampedTwist.faithful_toJson (h : Faithful number) :
    Faithful (StampedTwist.toJson number) where
  injective := by
    rintro ⟨⟩ ⟨⟩ e
    simpa [toJson, h, h.real] using e
  legible t := by simp [toJson, h.real]
  ne_null _ e := nomatch e

@[simp]
theorem Odometry.faithful_toJson (h : Faithful number) : Faithful (Odometry.toJson number) where
  injective := by
    rintro ⟨⟩ ⟨⟩ e
    simpa [toJson, h, h.real] using e
  legible o := by simp [toJson, h, h.real]
  ne_null _ e := nomatch e

@[simp]
theorem PowerState.faithful_toJson (h : Faithful number) : Faithful (PowerState.toJson number) where
  injective := by
    rintro ⟨⟩ ⟨⟩ e
    simpa [toJson, h, h.real] using e
  legible p := by simp [toJson, h]
  ne_null _ e := nomatch e

@[simp]
theorem Manipulator.faithful_toJson (h : Faithful number) :
    Faithful (Manipulator.toJson number) where
  injective := by
    rintro ⟨⟩ ⟨⟩ e
    simpa [toJson, h, h.real] using e
  legible m := by simp [toJson, h, h.real]
  ne_null _ e := nomatch e

@[simp]
theorem EndEffectorForce.faithful_toJson (h : Faithful number) :
    Faithful (EndEffectorForce.toJson number) where
  injective := by
    rintro ⟨⟩ ⟨⟩ e
    simpa [toJson, h, h.real] using e
  legible f := by simp [toJson, h.real]
  ne_null _ e := nomatch e

/-! ## Robot states -/

namespace RobotState

theorem legible_facetJson (h : Faithful number) (s : RobotState α) (f : Facet) :
    Legible (s.facetJson number f) := by
  cases f with
  | batteries => exact (BatteryState.faithful_toJson h).list.legible_ofOption _
  | feet => exact (Foot.faithful_toJson h).list.legible_ofOption _
  | _ => simp [facetJson, h]

/-- Robot states with the same written facets are equal. -/
theorem eq_of_facetJson (h : Faithful number) {s s' : RobotState α}
    (same : ∀ f, s.facetJson number f = s'.facetJson number f) : s = s' := by
  cases s
  cases s'
  rw [RobotState.mk.injEq]
  exact ⟨(BatteryState.faithful_toJson h).list.ofOption_eq_iff.1 (same .batteries),
    WifiState.faithful_toJson.ofOption_eq_iff.1 (same .wifi),
    (Foot.faithful_toJson h).list.ofOption_eq_iff.1 (same .feet),
    EstopState.faithful_toJson.list.ofOption_eq_iff.1 (same .estops),
    (JointStates.faithful_toJson h).ofOption_eq_iff.1 (same .joints),
    (Transform.faithful_listToJson h).ofOption_eq_iff.1 (same .transforms),
    (StampedTwist.faithful_toJson h).ofOption_eq_iff.1 (same .bodyTwist),
    (Odometry.faithful_toJson h).ofOption_eq_iff.1 (same .odometry),
    (Odometry.faithful_toJson h).ofOption_eq_iff.1 (same .correctedOdometry),
    (PowerState.faithful_toJson h).ofOption_eq_iff.1 (same .power),
    SystemFaults.faithful_toJson.ofOption_eq_iff.1 (same .systemFaults),
    (Manipulator.faithful_toJson h).ofOption_eq_iff.1 (same .manipulator),
    (EndEffectorForce.faithful_toJson h).ofOption_eq_iff.1 (same .endEffectorForce),
    BehaviorFault.faithful_listToJson.ofOption_eq_iff.1 (same .behaviorFaults)⟩

theorem faithful_toJson (h : Faithful number) :
    Faithful (toJson number : RobotState α → Json) where
  injective s s' e := by
    refine eq_of_facetJson h fun f => ?_
    have members := List.map_inj_left.1 (Json.object.inj e) f (Facet.mem_all f)
    exact (Prod.mk.inj members).2
  legible s := by
    have distinct : (Facet.all.map Facet.name).Nodup := by decide
    refine .object ?_ fun m hm => ?_
    · rwa [List.map_map]
    · obtain ⟨f, -, rfl⟩ := List.mem_map.1 hm
      exact legible_facetJson h s f
  ne_null _ e := nomatch e

end RobotState

end Measured

end RobotTelemetry
