import RobotTelemetry.Proofs.RobotNames
/-!
# Which configurations are accepted

`Config.ofJson` reads a document field by field and collects what is wrong. This file says the same
without a reader: `Field.Allows` lists the values that a field may hold, and a document is `Safe` if
its fields hold such values and it mentions nothing else. A document is accepted exactly if it is
safe; otherwise each field that offends and each member that belongs to no field is reported once
(`ofJson_object`). What is accepted qualifies names by at most one slash, and never has the body
published the other way round.
-/

namespace RobotTelemetry.Config

/-! ## Safe documents -/

/-- What a document may hold in a field. -/
inductive Field.Allows : Field → Json → Prop
  | robotName {name : String} : '/' ∉ name.toList → (∀ c ∈ name.toList, Text.isBlank c = false) →
      Allows .robotName (.string name)
  | odom : Allows .anchor (.string "odom")
  | vision : Allows .anchor (.string "vision")
  | noTarget : Allows .inverseTarget .null
  | target {frame : String} : frame ≠ "" → frame.toList.head? ≠ some '/' → frame ≠ "body" →
      Allows .inverseTarget (.string frame)

/-- A document mentions a field, but with a value that is not allowed there. -/
def Field.Offends (members : List (String × Json)) (field : Field) : Prop :=
  ∃ v ∈ members.lookup field.name, ¬ field.Allows v

/-- The members that belong to no field. -/
def unknownMembers (members : List (String × Json)) : List (String × Json) :=
  members.filter fun member => member.1 ∉ Field.all.map Field.name

/-- Each field that a document mentions holds an allowed value, and nothing else is mentioned. -/
structure Safe (members : List (String × Json)) : Prop where
  allowed : ∀ (field : Field) (v : Json), members.lookup field.name = some v → field.Allows v
  known : ∀ member ∈ members, ∃ field : Field, field.name = member.1

/-- A configuration is what a document says, with the standard where it says nothing. -/
structure StatedBy (members : List (String × Json)) (c : Config) : Prop where
  robotName : members.lookup "robot_name" = some (.string c.robotName) ∨
    members.lookup "robot_name" = none ∧ c.robotName = ""
  anchor : members.lookup "preferred_odom_frame" = some (.string c.anchor.frame) ∨
    members.lookup "preferred_odom_frame" = none ∧ c.anchor = .vision
  inverseTarget : (∃ t, members.lookup "inverse_target_frame" = some (.string t) ∧
      c.inverseTarget = some t) ∨
    (members.lookup "inverse_target_frame" = none ∨
      members.lookup "inverse_target_frame" = some .null) ∧ c.inverseTarget = none

/-! ## Single fields -/

section Readers

variable {v : Json}

theorem readName_eq_ok_iff {name : { name : String // PlainName name }} :
    readName v = .ok name ↔ v = .string name.val := by
  constructor
  · intro h
    unfold readName at h
    split at h
    · split at h
      · rw [← Except.ok.inj h]
      · cases h
    · cases h
  · rintro rfl
    rw [readName, dif_pos name.property]

theorem readAnchor_eq_ok_iff {anchor : Anchor} :
    readAnchor v = .ok anchor ↔ v = .string anchor.frame := by
  constructor
  · intro h
    unfold readAnchor at h
    split at h
    · split at h
      · next ha => rw [← Except.ok.inj h, Anchor.frame_of_ofFrame? ha]
      · cases h
    · cases h
  · rintro rfl
    rw [readAnchor, Anchor.ofFrame?_frame]

theorem readTarget_eq_ok_iff {target : { target : Option String // InvertibleTarget target }} :
    readTarget v = .ok target ↔ v = Json.ofOption .string target.val := by
  constructor
  · intro h
    unfold readTarget at h
    split at h
    · rw [← Except.ok.inj h]
      rfl
    · split at h
      · split at h
        · cases h
        · rw [← Except.ok.inj h]
          rfl
      · cases h
    · cases h
  · rintro rfl
    obtain ⟨target, invertible⟩ := target
    cases target with
    | none => rfl
    | some frame =>
      obtain ⟨unqualified, below⟩ := invertible frame rfl
      rw [Json.ofOption, readTarget, dif_pos unqualified, dif_neg below]

/-! A field is read exactly if its value is allowed. -/

theorem exists_readName_iff : (∃ name, readName v = .ok name) ↔ Field.robotName.Allows v := by
  constructor
  · rintro ⟨⟨name, plain⟩, h⟩
    rw [readName_eq_ok_iff.1 h]
    exact .robotName (fun hc => (plain '/' hc).1 rfl) fun c hc => (plain c hc).2
  · intro h
    cases h with
    | @robotName name slash blank =>
      have plain : PlainName name := fun c hc => ⟨fun e => slash (e ▸ hc), blank c hc⟩
      exact ⟨⟨name, plain⟩, readName_eq_ok_iff.2 rfl⟩

theorem exists_readAnchor_iff : (∃ anchor, readAnchor v = .ok anchor) ↔ Field.anchor.Allows v := by
  constructor
  · rintro ⟨anchor, h⟩
    rw [readAnchor_eq_ok_iff.1 h]
    cases anchor with
    | odom => exact .odom
    | vision => exact .vision
  · intro h
    cases h with
    | odom => exact ⟨.odom, rfl⟩
    | vision => exact ⟨.vision, rfl⟩

theorem exists_readTarget_iff :
    (∃ target, readTarget v = .ok target) ↔ Field.inverseTarget.Allows v := by
  constructor
  · rintro ⟨⟨target, invertible⟩, h⟩
    rw [readTarget_eq_ok_iff.1 h]
    cases target with
    | none => exact .noTarget
    | some frame =>
      obtain ⟨⟨ne, slash⟩, below⟩ := invertible frame rfl
      exact .target ne slash below
  · intro h
    cases h with
    | noTarget => exact ⟨⟨none, invertibleTarget_none⟩, rfl⟩
    | @target frame ne slash below =>
      exact ⟨⟨some frame, invertibleTarget_some ⟨ne, slash⟩ below⟩, readTarget_eq_ok_iff.2 rfl⟩

end Readers

instance {ε β : Type} (given : Except ε β) : Decidable (∃ x, given = .ok x) :=
  match given with
  | .ok x => isTrue ⟨x, rfl⟩
  | .error _ => isFalse nofun

instance (field : Field) (v : Json) : Decidable (field.Allows v) :=
  match field with
  | .robotName => decidable_of_iff _ exists_readName_iff
  | .anchor => decidable_of_iff _ exists_readAnchor_iff
  | .inverseTarget => decidable_of_iff _ exists_readTarget_iff

instance (members : List (String × Json)) (field : Field) : Decidable (field.Offends members) :=
  inferInstanceAs (Decidable (∃ _ ∈ _, _))

section Fields

variable {β : Type} {members : List (String × Json)} {field : Field} {standard : β}
  {read : Json → Except Problem β}

theorem readField_ok_cases {x : β} (h : readField members field standard read = .ok x) :
    members.lookup field.name = none ∧ x = standard ∨
      ∃ v, members.lookup field.name = some v ∧ read v = .ok x := by
  unfold readField at h
  split at h
  · next absent => exact .inl ⟨absent, (Except.ok.inj h).symm⟩
  · next v present => exact .inr ⟨v, present, h⟩

/-- A field has a defect exactly if it offends, and the defect names the field. -/
theorem map_member_defectOf (h : ∀ v, (∃ x, read v = .ok x) ↔ field.Allows v) :
    (defectOf field (readField members field standard read)).map (·.member) =
      if field.Offends members then [field.name] else [] := by
  unfold readField
  split
  · next absent =>
    have good : ¬ field.Offends members := by
      rintro ⟨v, hv, -⟩
      rw [absent] at hv
      cases hv
    rw [if_neg good]
    rfl
  · next v present =>
    have offends : field.Offends members ↔ ¬ field.Allows v := by simp [Field.Offends, present]
    cases hr : read v with
    | error problem =>
      have bad : ¬ field.Allows v := by
        rw [← h v, hr]
        rintro ⟨x, hx⟩
        cases hx
      rw [if_pos (offends.2 bad)]
      rfl
    | ok x =>
      have good : field.Allows v := (h v).1 ⟨x, hr⟩
      rw [if_neg fun bad => offends.1 bad good]
      rfl

end Fields

/-! ## Whole documents -/

section Documents

variable {members : List (String × Json)} {c : Config}

/-- All that is wrong with a document. -/
def allDefects (members : List (String × Json)) : List Defect :=
  defectOf .robotName (readField members .robotName ⟨"", plainName_empty⟩ readName) ++
    defectOf .anchor (readField members .anchor Anchor.standard readAnchor) ++
    defectOf .inverseTarget
      (readField members .inverseTarget ⟨none, invertibleTarget_none⟩ readTarget) ++
    strayMembers members

/-- A document with defects is rejected with all of them, and any other is read field by field. -/
theorem ofMembers_cases (members : List (String × Json)) :
    (allDefects members ≠ [] ∧ ofMembers members = .error (allDefects members)) ∨
    allDefects members = [] ∧ ∃ name anchor target,
      readField members .robotName ⟨"", plainName_empty⟩ readName = .ok name ∧
      readField members .anchor Anchor.standard readAnchor = .ok anchor ∧
      readField members .inverseTarget ⟨none, invertibleTarget_none⟩ readTarget = .ok target ∧
      ofMembers members = .ok ⟨name.val, anchor, target.val, name.property, target.property⟩ := by
  unfold ofMembers allDefects
  generalize readField members .robotName ⟨"", plainName_empty⟩ readName = name
  generalize readField members .anchor Anchor.standard readAnchor = anchor
  generalize readField members .inverseTarget ⟨none, invertibleTarget_none⟩ readTarget = target
  generalize strayMembers members = stray
  -- One defect is enough to reject, so that what comes after the first one stays open.
  cases name with
  | error problem => exact .inl ⟨by simp [defectOf], rfl⟩
  | ok name =>
    cases anchor with
    | error problem => exact .inl ⟨by simp [defectOf], rfl⟩
    | ok anchor =>
      cases target with
      | error problem => exact .inl ⟨by simp [defectOf], rfl⟩
      | ok target =>
        cases stray with
        | nil => exact .inr ⟨rfl, name, anchor, target, rfl, rfl, rfl, rfl⟩
        | cons defect defects => exact .inl ⟨by simp, rfl⟩

theorem map_member_strayMembers (members : List (String × Json)) :
    (strayMembers members).map (·.member) = (unknownMembers members).map Prod.fst := by
  -- A stray member is told by asking each field, an unknown one by the list of their names.
  have unknown (member : String × Json) : Field.all.all (·.name ≠ member.1) =
      decide (member.1 ∉ Field.all.map Field.name) := by
    simp [Field.all, eq_comm]
  simp only [strayMembers, unknownMembers, List.map_map, unknown]
  rfl

/-- The defects name the fields that offend and then the members that belong to no field. -/
theorem map_member_allDefects (members : List (String × Json)) :
    (allDefects members).map (·.member) = (Field.all.filter (·.Offends members)).map Field.name ++
      (unknownMembers members).map Prod.fst := by
  have first (field : Field) (fields : List Field) :
      ((field :: fields).filter (·.Offends members)).map Field.name =
        (if field.Offends members then [field.name] else []) ++
          (fields.filter (·.Offends members)).map Field.name := by
    by_cases h : field.Offends members <;> simp [h]
  simp only [allDefects, List.map_append, map_member_strayMembers,
    map_member_defectOf fun _ => exists_readName_iff,
    map_member_defectOf fun _ => exists_readAnchor_iff,
    map_member_defectOf fun _ => exists_readTarget_iff]
  simp only [Field.all, first, List.filter_nil, List.map_nil, List.append_nil, List.append_assoc]

theorem safe_iff : Safe members ↔
    (∀ field : Field, ¬ field.Offends members) ∧ unknownMembers members = [] := by
  constructor
  · rintro ⟨allowed, known⟩
    refine ⟨?_, ?_⟩
    · rintro field ⟨v, hv, bad⟩
      exact bad (allowed field v hv)
    · refine List.filter_eq_nil_iff.2 fun member hmember => ?_
      simpa [Field.mem_all] using known member hmember
  · rintro ⟨allowed, known⟩
    refine ⟨fun field v hv => ?_, fun member hmember => ?_⟩
    · by_contra bad
      exact allowed field ⟨v, hv, bad⟩
    · simpa [Field.mem_all] using List.filter_eq_nil_iff.1 known member hmember

theorem allDefects_eq_nil_iff : allDefects members = [] ↔ Safe members := by
  rw [← List.map_eq_nil_iff (f := Defect.member), map_member_allDefects, safe_iff,
    List.append_eq_nil_iff, List.map_eq_nil_iff, List.map_eq_nil_iff, List.filter_eq_nil_iff]
  simp [Field.mem_all]

theorem length_allDefects (members : List (String × Json)) : (allDefects members).length =
    Field.all.countP (·.Offends members) + (unknownMembers members).length := by
  have named := congrArg List.length (map_member_allDefects members)
  simpa [List.countP_eq_length_filter] using named

theorem ofMembers_ok_iff : (∃ c, ofMembers members = .ok c) ↔ Safe members := by
  rw [← allDefects_eq_nil_iff]
  obtain ⟨bad, rejected⟩ | ⟨good, name, anchor, target, -, -, -, accepted⟩ :=
    ofMembers_cases members
  · refine iff_of_false ?_ bad
    rintro ⟨c, h⟩
    rw [rejected] at h
    cases h
  · exact iff_of_true ⟨_, accepted⟩ good

theorem eq_allDefects_of_ofMembers {defects : List Defect}
    (h : ofMembers members = .error defects) : defects = allDefects members := by
  obtain ⟨-, rejected⟩ | ⟨-, name, anchor, target, -, -, -, accepted⟩ := ofMembers_cases members
  · rw [rejected] at h
    exact (Except.error.inj h).symm
  · rw [accepted] at h
    cases h

theorem ofJson_object_ok_iff : ofJson (.object members) = .ok c ↔ ofMembers members = .ok c := by
  cases h : ofMembers members <;> simp [ofJson, h, Except.mapError]

theorem ofJson_object_error_iff {reason : Rejection} : ofJson (.object members) = .error reason ↔
    ∃ defects, ofMembers members = .error defects ∧ reason = .defects defects := by
  cases h : ofMembers members <;> simp [ofJson, h, Except.mapError, eq_comm]

/-- What is read is what the document says. -/
theorem statedBy_of_ofMembers (h : ofMembers members = .ok c) : c.StatedBy members := by
  obtain ⟨-, rejected⟩ | ⟨-, name, anchor, target, hname, hanchor, htarget, accepted⟩ :=
    ofMembers_cases members
  · rw [h] at rejected
    cases rejected
  · rw [h] at accepted
    obtain rfl := Except.ok.inj accepted
    constructor
    case robotName =>
      obtain ⟨absent, rfl⟩ | ⟨v, present, hv⟩ := readField_ok_cases hname
      · exact .inr ⟨absent, rfl⟩
      · exact .inl (readName_eq_ok_iff.1 hv ▸ present)
    case anchor =>
      obtain ⟨absent, rfl⟩ | ⟨v, present, hv⟩ := readField_ok_cases hanchor
      · exact .inr ⟨absent, rfl⟩
      · exact .inl (readAnchor_eq_ok_iff.1 hv ▸ present)
    case inverseTarget =>
      obtain ⟨absent, rfl⟩ | ⟨v, present, hv⟩ := readField_ok_cases htarget
      · exact .inr ⟨.inl absent, rfl⟩
      · rw [readTarget_eq_ok_iff.1 hv] at present
        obtain ⟨_ | frame, invertible⟩ := target
        · exact .inr ⟨.inr present, rfl⟩
        · exact .inl ⟨frame, present, rfl⟩

end Documents

/-! ## What is accepted -/

section Accepted

variable (c : Config)

/-- A prefix holds no slash but the one at its end. -/
theorem framePrefix_cases : c.framePrefix = "" ∨
    c.framePrefix.toList.count '/' = 1 ∧ c.framePrefix.toList.getLast? = some '/' := by
  by_cases h : c.robotName = ""
  · exact .inl (if_pos h)
  · have chars : c.framePrefix.toList = c.robotName.toList ++ ['/'] := by
      rw [framePrefix_of_ne h, String.toList_append]
      rfl
    refine .inr ⟨?_, ?_⟩
    · rw [chars, List.count_append, List.count_eq_zero.2 c.slash_notMem_robotName]
      rfl
    · rw [chars, List.getLast?_concat]

theorem localTarget_cases : c.inverseTarget = some c.localTarget ∨
    c.inverseTarget = none ∧ c.localTarget = c.anchor.frame := by
  unfold localTarget
  cases c.inverseTarget with
  | none => exact .inr ⟨rfl, rfl⟩
  | some frame => exact .inl rfl

theorem localTarget_ne_empty : c.localTarget ≠ "" := by
  obtain named | ⟨-, anchored⟩ := c.localTarget_cases
  · exact (c.invertible_inverseTarget _ named).1.1
  · rw [anchored]
    cases c.anchor <;> decide

theorem localTarget_ne_body : c.localTarget ≠ bodyFrame := by
  obtain named | ⟨-, anchored⟩ := c.localTarget_cases
  · exact (c.invertible_inverseTarget _ named).2
  · rw [anchored]
    cases c.anchor <;> decide

end Accepted

/-! ## Main result -/

/-- An object is accepted exactly if it is safe. Otherwise the fields that offend and the members
that belong to no field are reported, each once. What is accepted says what the object says; its
prefix is empty or ends with the one slash it holds, and the frame it has published the other way
round is neither nameless nor the body. -/
theorem ofJson_object (members : List (String × Json)) :
    ((∃ c, ofJson (.object members) = .ok c) ↔ Safe members) ∧
    (∀ reason, ofJson (.object members) = .error reason → ∃ defects, reason = .defects defects ∧
      defects.length = Field.all.countP (·.Offends members) + (unknownMembers members).length ∧
      defects.map (·.member) = (Field.all.filter (·.Offends members)).map Field.name ++
        (unknownMembers members).map Prod.fst) ∧
    ∀ c, ofJson (.object members) = .ok c → c.StatedBy members ∧
      (c.framePrefix = "" ∨
        c.framePrefix.toList.count '/' = 1 ∧ c.framePrefix.toList.getLast? = some '/') ∧
      ∃ t, c.inverseTargetFrame = c.framePrefix ++ t ∧ t ≠ "" ∧ t ≠ "body" ∧
        (c.inverseTarget = some t ∨ c.inverseTarget = none ∧ t = c.anchor.frame) := by
  simp only [ofJson_object_ok_iff, ofJson_object_error_iff, ofMembers_ok_iff, true_and]
  refine ⟨?_, fun c h => ⟨statedBy_of_ofMembers h, c.framePrefix_cases, c.localTarget, rfl,
    c.localTarget_ne_empty, c.localTarget_ne_body, c.localTarget_cases⟩⟩
  rintro reason ⟨defects, h, rfl⟩
  obtain rfl := eq_allDefects_of_ofMembers h
  exact ⟨_, rfl, length_allDefects members, map_member_allDefects members⟩

/-- Three members with a defect each are reported together. -/
example : ofJson (.object [("frame_prefix", .string "spot/"), ("robot_name", .string "my robot"),
    ("inverse_target_frame", .string "body")]) =
      .error (.defects [⟨"robot_name", .unsafeName "my robot"⟩,
        ⟨"inverse_target_frame", .rootTarget⟩, ⟨"frame_prefix", .unknownMember⟩]) := by
  rfl

end RobotTelemetry.Config
