import Mathlib.Data.Option.Basic
import RobotTelemetry.Proofs.Reading
/-!
# The order of edges

The edges of a snapshot are a map: of two edges of one frame the later counts, and the order of
frames carries no meaning. Two edge maps with the same edges (`EdgeMap.SameEdges`) have the same
climbs, so that the same defects or the same poses are found in them; their transforms are
permutations of each other, and at most one event is reported about either. So a reading depends on
the order of edges only in the order of its transforms (`toState_sameEdges`).
-/

namespace RobotTelemetry

variable {α : Type}

/-! ## Maps with the same edges -/

namespace EdgeMap

variable {m m' : EdgeMap α} {f r : String} {steps : List (String × Edge α)}

/-- The edge of a frame in a list of edges: the last one counts, and it counts whole. -/
def lastEdge? (edges : List (String × Edge α)) (f : String) : Option (Edge α) :=
  edges.reverse.lookup f

theorem find?_ofList (edges : List (String × Edge α)) (f : String) :
    (ofList edges).find? f = lastEdge? edges f := by
  rw [ofList, lastEdge?, List.foldl_eq_foldr_reverse]
  induction edges.reverse with
  | nil => rfl
  | cons entry rest ih => rw [List.foldr_cons, find?_insert, ih, lookup_cons]

/-- Two edge maps have the same edges, in whatever order. -/
def SameEdges (m m' : EdgeMap α) : Prop :=
  ∀ f, m.find? f = m'.find? f

namespace SameEdges

theorem symm (h : m.SameEdges m') : m'.SameEdges m := fun f => (h f).symm

theorem perm_entries (h : m.SameEdges m') : m.entries.Perm m'.entries := by
  rw [List.perm_ext_iff_of_nodup m.nodup_keys.of_map m'.nodup_keys.of_map]
  rintro ⟨f, edge⟩
  rw [mem_entries_iff, mem_entries_iff, h f]

theorem climb (h : m.SameEdges m') (hc : m.Climb f steps r) : m'.Climb f steps r := by
  induction hc with
  | root hr he => exact .root (h _ ▸ hr) he
  | up hf hne _ ih => exact .up (h _ ▸ hf) hne ih

theorem rootedAt (h : m.SameEdges m') (tree : m.RootedAt r) : m'.RootedAt r := by
  have keys {f : String} (hf : f ∈ m'.keys) : f ∈ m.keys := by
    rwa [mem_keys_iff, h f, ← mem_keys_iff]
  have parent : m.Parent ≤ m'.Parent := fun f p ⟨edge, hf, hp⟩ => ⟨edge, h f ▸ hf, hp⟩
  obtain ⟨edge, hr, he⟩ := tree.isRoot
  refine ⟨⟨edge, h r ▸ hr, he⟩, fun hn => tree.named (keys hn), fun f hf => ?_⟩
  exact Relation.ReflTransGen.mono parent _ _ (tree.reaches f (keys hf))

theorem ascend_eq (h : m.SameEdges m') (f : String) : m.ascend f = m'.ascend f := by
  -- Not by induction: the maps shrink on the way up. The climbs that are found look edges up only.
  refine Option.ext fun a => ?_
  rw [ascend_eq_some_iff, ascend_eq_some_iff]
  exact ⟨h.climb, h.symm.climb⟩

theorem root?_eq (h : m.SameEdges m') : m.root? = m'.root? := by
  refine Option.ext fun r => ?_
  rw [root?_eq_some_iff, root?_eq_some_iff]
  exact ⟨h.rootedAt, h.symm.rootedAt⟩

/-- At most one event is reported, so that there is nothing to reorder. -/
theorem events_eq (h : m.SameEdges m') (n : Naming) : m.events n = m'.events n := by
  have perm : (m.events n).Perm (m'.events n) := h.perm_entries.filterMap _
  have short := m'.length_events_le_one n
  rcases hl : m'.events n with _ | ⟨event, rest⟩
  · rw [hl] at perm
    exact perm.eq_nil
  · obtain rfl : rest = [] := by
      rw [hl, List.length_cons] at short
      exact List.length_eq_zero_iff.1 (by omega)
    rw [hl] at perm
    exact perm.eq_singleton

variable [Add α] [Sub α] [Mul α] [Neg α] [IntCast α]

theorem relativePose_eq (h : m.SameEdges m') (f g : String) :
    m.relativePose f g = m'.relativePose f g := by
  simp only [relativePose, h.root?_eq, h.ascend_eq]

theorem perm_transforms (h : m.SameEdges m') (n : Naming) (stamp : Stamp) :
    (m.transforms n stamp).Perm (m'.transforms n stamp) :=
  h.perm_entries.filterMap _

end SameEdges

end EdgeMap

/-! ## Computations that agree -/

namespace Logged

variable {ε β β' γ γ' : Type} {R : β → β' → Prop} {S : γ → γ' → Prop}

/-- Two computations report the same events and end in the same error or in related results. -/
inductive Agree (R : β → β' → Prop) : Logged ε β → Logged ε β' → Prop
  | ok {log : List Event} {a : β} {b : β'} : R a b → Agree R ⟨log, .ok a⟩ ⟨log, .ok b⟩
  | error {log : List Event} {e : ε} : Agree R ⟨log, .error e⟩ ⟨log, .error e⟩

theorem agree_refl (x : Logged ε β) : Agree Eq x x := by
  obtain ⟨log, e | a⟩ := x
  · exact .error
  · exact .ok rfl

theorem Agree.andThen {x : Logged ε β} {y : Logged ε β'} {f : β → Logged ε γ}
    {g : β' → Logged ε γ'} (h : Agree R x y) (hfg : ∀ a b, R a b → Agree S (f a) (g b)) :
    Agree S (x.andThen f) (y.andThen g) := by
  cases h with
  | error => exact .error
  | @ok log a b hab =>
    rw [andThen_of_ok rfl, andThen_of_ok rfl]
    have next := hfg a b hab
    generalize f a = u, g b = v at next ⊢
    cases next with
    | error => exact .error
    | ok hs => exact .ok hs

end Logged

/-! ## Readings -/

/-- Two robot states are equal but for the order of their transforms. -/
def RobotState.SameButOrder (state state' : RobotState α) : Prop :=
  ∃ ts, Option.Rel List.Perm state.transforms ts ∧ state' = { state with transforms := ts }

theorem isSome_and_length_of_rel {x y : Option (List (Transform α))} (h : Option.Rel List.Perm x y) :
    x.isSome = y.isSome ∧ (x.getD []).length = (y.getD []).length := by
  cases h with
  | none => exact ⟨rfl, rfl⟩
  | some perm => exact ⟨rfl, perm.length_eq⟩

theorem RobotState.SameButOrder.summary_eq {state state' : RobotState α}
    (h : state.SameButOrder state') (options : Options) :
    state.summary options = state'.summary options := by
  obtain ⟨ts, hts, rfl⟩ := h
  obtain ⟨hsome, hlength⟩ := isSome_and_length_of_rel hts
  have present : ({ state with transforms := ts } : RobotState α).present = state.present := by
    refine List.filter_congr fun facet _ => ?_
    cases facet with
    | transforms => exact hsome.symm
    | _ => rfl
  rw [summary, summary, present, hlength]

namespace Snapshot

/-- The snapshot with other edges, if it has moving parts. -/
def withEdges (s : Snapshot α) (m : EdgeMap α) : Snapshot α :=
  { s with kinematics := s.kinematics.map fun k => { k with edges := m } }

variable {s : Snapshot α} {m m' : EdgeMap α} {skew : Duration}

/-! ### What the edges play no part in -/

theorem bodyTwist_withEdges (framePrefix : String) (anchor : Anchor) :
    (s.withEdges m).bodyTwist skew framePrefix anchor = s.bodyTwist skew framePrefix anchor := by
  rw [bodyTwist, bodyTwist, withEdges, Option.map_map]
  cases anchor <;> rfl

theorem endEffectorForce_withEdges (framePrefix : String) :
    endEffectorForce skew framePrefix (s.withEdges m) = endEffectorForce skew framePrefix s := by
  rw [endEffectorForce, endEffectorForce, withEdges, Option.map_map]
  rfl

theorem jointStates_withEdges [IntCast α] (framePrefix : String) :
    (s.withEdges m).jointStates skew framePrefix = s.jointStates skew framePrefix := by
  rw [jointStates, jointStates, withEdges]
  cases s.kinematics <;> rfl

/-! ### What does not depend on their order -/

theorem edges_withEdges (h : m.SameEdges m') :
    (s.withEdges m).edges.SameEdges (s.withEdges m').edges := by
  rw [edges, edges, withEdges, withEdges]
  cases s.kinematics with
  | none => exact fun _ => rfl
  | some k => exact h

variable [Add α] [Sub α] [Mul α] [Neg α] [IntCast α]

theorem odometry_sameEdges (h : m.SameEdges m') (framePrefix : String) (anchor : Anchor)
    (given : Option (StampedTwist α)) :
    (s.withEdges m).odometry skew framePrefix anchor given =
      (s.withEdges m').odometry skew framePrefix anchor given := by
  simp only [odometry, odometryWith, bodyTwist_withEdges, (edges_withEdges h).relativePose_eq]

theorem transforms_sameEdges {ε : Type} (h : m.SameEdges m') (n : Naming) :
    Logged.Agree (Option.Rel List.Perm) ((s.withEdges m).transforms skew n : Logged ε _)
      ((s.withEdges m').transforms skew n) := by
  rcases hk : s.kinematics with _ | k
  · have still (m : EdgeMap α) : (s.withEdges m).kinematics = none := by
      rw [withEdges, hk]
      rfl
    rw [transforms_of_none (still m), transforms_of_none (still m')]
    exact .ok .none
  · have moving (m : EdgeMap α) : (s.withEdges m).kinematics = some { k with edges := m } := by
      rw [withEdges, hk]
      rfl
    rw [transforms_of_some (moving m), transforms_of_some (moving m'), h.events_eq n]
    exact .ok (.some (h.perm_transforms n _))

variable [Div α] [LT α] [DecidableLT α] [OfScientific α] [SquareRoot α]

theorem assemble_withEdges (options : Options) (odometry : Option (Odometry α))
    (joints : Option (JointStates α)) (transforms : Option (List (Transform α))) :
    (s.withEdges m).assemble skew options odometry joints transforms =
      s.assemble skew options odometry joints transforms := by
  simp only [assemble, bodyTwist_withEdges, endEffectorForce_withEdges]
  rfl

theorem toState_withEdges (h : m.SameEdges m') (skew : Duration) (options : Options) :
    Logged.Agree RobotState.SameButOrder ((s.withEdges m).toState skew options)
      ((s.withEdges m').toState skew options) := by
  have odometry : (s.withEdges m).odometryFor skew options =
      (s.withEdges m').odometryFor skew options := by
    rw [odometryFor, odometryFor, odometry_sameEdges h]
  rw [toState, toState, odometry, jointStates_withEdges, jointStates_withEdges]
  -- The checks come out alike, so that the transforms are the first place to differ.
  refine (Logged.agree_refl _).andThen fun odometry _ ho => ?_
  subst ho
  refine (Logged.agree_refl _).andThen fun joints _ hj => ?_
  subst hj
  refine (transforms_sameEdges h options.toNaming).andThen fun ts ts' hts => ?_
  rw [assemble_withEdges, assemble_withEdges]
  have same : (s.assemble skew options odometry joints ts).SameButOrder
      (s.assemble skew options odometry joints ts') := ⟨ts', hts, rfl⟩
  dsimp only
  rw [same.summary_eq options]
  exact (Logged.agree_refl _).andThen fun _ _ _ => .ok same

/-! ## Main result -/

/-- If two lists give every frame the same last edge, a reading with the one is a reading with the
other but for the order of the transforms: the same events, the same error or the same robot state.
So it is with the transforms alone, and the velocity and the odometry of the body are equal. -/
theorem toState_sameEdges (s : Snapshot α) {edges edges' : List (String × Edge α)}
    (h : ∀ f, EdgeMap.lastEdge? edges f = EdgeMap.lastEdge? edges' f) (skew : Duration) :
    (∀ options, Logged.Agree RobotState.SameButOrder
      ((s.withEdges (.ofList edges)).toState skew options)
      ((s.withEdges (.ofList edges')).toState skew options)) ∧
    (∀ n, Logged.Agree (Option.Rel List.Perm)
      ((s.withEdges (.ofList edges)).transforms skew n : Logged StateError _)
      ((s.withEdges (.ofList edges')).transforms skew n)) ∧
    (∀ framePrefix anchor, (s.withEdges (.ofList edges)).bodyTwist skew framePrefix anchor =
      (s.withEdges (.ofList edges')).bodyTwist skew framePrefix anchor) ∧
    ∀ framePrefix anchor given,
      (s.withEdges (.ofList edges)).odometry skew framePrefix anchor given =
        (s.withEdges (.ofList edges')).odometry skew framePrefix anchor given := by
  have same : (EdgeMap.ofList edges).SameEdges (.ofList edges') := by
    intro f
    rw [EdgeMap.find?_ofList, EdgeMap.find?_ofList, h f]
  refine ⟨toState_withEdges same skew, transforms_sameEdges same, fun framePrefix anchor => ?_,
    odometry_sameEdges same⟩
  rw [bodyTwist_withEdges, bodyTwist_withEdges]

end Snapshot

/-! ### A list that was shuffled -/

/-- Moving parts with a joint but without edges. -/
def unlinked : Snapshot Float where
  kinematics := some { KinematicsReport.unset with
    joints := [⟨"fl.hx", none, none, none, none⟩] }

/-- The frames in one order, each with one edge. -/
def listed : List (String × Edge Float) :=
  [("odom", ⟨"body", ⟨⟨1, 2, 0⟩, none⟩⟩), ("vision", ⟨"body", .unset⟩), ("body", ⟨"", .unset⟩)]

/-- The frames in another order, where the edge of one of them replaces an earlier one. -/
def shuffled : List (String × Edge Float) :=
  [("odom", ⟨"hand", .unset⟩), ("body", ⟨"", .unset⟩), ("odom", ⟨"body", ⟨⟨1, 2, 0⟩, none⟩⟩),
    ("vision", ⟨"body", .unset⟩)]

theorem listed_sameEdges :
    (∀ f, EdgeMap.lastEdge? listed f = EdgeMap.lastEdge? shuffled f) ∧
      Logged.Agree RobotState.SameButOrder
        ((unlinked.withEdges (.ofList listed)).toState {} ⟨⟨"spot/", "spot/odom"⟩, .vision⟩)
        ((unlinked.withEdges (.ofList shuffled)).toState {} ⟨⟨"spot/", "spot/odom"⟩, .vision⟩) := by
  have h : ∀ f, EdgeMap.lastEdge? listed f = EdgeMap.lastEdge? shuffled f := by
    intro f
    simp only [EdgeMap.lastEdge?, listed, shuffled, List.reverse_cons, List.reverse_nil,
      List.nil_append, List.cons_append, EdgeMap.lookup_cons, List.lookup_nil]
    by_cases hodom : f = "odom" <;> by_cases hbody : f = "body" <;>
      by_cases hvision : f = "vision" <;> simp_all
  exact ⟨h, (Snapshot.toState_sameEdges unlinked h {}).1 _⟩

end RobotTelemetry
