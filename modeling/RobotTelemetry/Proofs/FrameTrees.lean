import Mathlib.Logic.Relation
import RobotTelemetry.Frames.Ascent
/-!
# Frame trees

`EdgeMap.ascend` climbs in smaller and smaller maps and `EdgeMap.root?` compares the roots it finds.
This file says what the two compute without either trick. `Climb m f steps r` is a climb by parent
steps from the frame `f` to the root `r`, and `ascend` finds exactly the climbs
(`ascend_eq_some_iff`). `RootedAt m r` says that the edges are one tree with root `r`, and
`Malformed m` lists what can be wrong with them; `root?` finds the root of the first
(`root?_eq_some_iff`) and nothing in the second (`root?_eq_none_iff`).
-/

namespace RobotTelemetry

namespace EdgeMap

variable {α : Type} {m m' : EdgeMap α} {f g p r r' : String} {edge : Edge α}
  {steps steps' : List (String × Edge α)}

/-! ## Entries and keys -/

theorem lookup_of_mem {entries : List (String × Edge α)} (nodup : (entries.map Prod.fst).Nodup)
    (mem : (f, edge) ∈ entries) : entries.lookup f = some edge := by
  induction entries with
  | nil => cases mem
  | cons entry rest ih =>
    rw [List.map_cons, List.nodup_cons] at nodup
    rw [lookup_cons]
    rcases List.mem_cons.1 mem with rfl | mem
    · rw [if_pos rfl]
    · have hne : f ≠ entry.1 := by
        rintro rfl
        exact nodup.1 (List.mem_map.2 ⟨_, mem, rfl⟩)
      rw [if_neg hne, ih nodup.2 mem]

theorem mem_entries_iff : (f, edge) ∈ m.entries ↔ m.find? f = some edge :=
  ⟨lookup_of_mem m.nodup_keys, mem_of_lookup⟩

theorem mem_keys_iff : f ∈ m.keys ↔ ∃ edge, m.find? f = some edge := by
  simp only [keys, List.mem_map, Prod.exists, exists_and_right, exists_eq_right, mem_entries_iff]

theorem not_mem_keys_iff : f ∉ m.keys ↔ m.find? f = none := by
  rw [mem_keys_iff, ← Option.isSome_iff_exists, Option.not_isSome_iff_eq_none]

theorem find?_of_erase (h : (m.erase f).find? g = some edge) : m.find? g = some edge := by
  rw [find?_erase] at h
  split at h
  · cases h
  · exact h

theorem find?_erase_of_ne (h : g ≠ f) : (m.erase f).find? g = m.find? g := by
  rw [find?_erase, if_neg h]

/-! ## Parent steps and climbs -/

/-- The frame `p` is the parent of the frame `f`. -/
def Parent (m : EdgeMap α) (f p : String) : Prop :=
  ∃ edge, m.find? f = some edge ∧ edge.parent ≠ "" ∧ edge.parent = p

/-- The frame `r` has an edge, and that edge has no parent. -/
def IsRoot (m : EdgeMap α) (r : String) : Prop :=
  ∃ edge, m.find? r = some edge ∧ edge.parent = ""

/-- A climb from a frame to a root, with the edges it takes, lowest first. -/
inductive Climb (m : EdgeMap α) : String → List (String × Edge α) → String → Prop
  | root {r : String} {edge : Edge α} : m.find? r = some edge → edge.parent = "" → Climb m r [] r
  | up {f r : String} {edge : Edge α} {steps : List (String × Edge α)} :
      m.find? f = some edge → edge.parent ≠ "" → Climb m edge.parent steps r →
      Climb m f ((f, edge) :: steps) r

theorem Parent.unique (h : m.Parent f p) (h' : m.Parent f g) : p = g := by
  obtain ⟨edge, hf, -, rfl⟩ := h
  obtain ⟨edge', hf', -, rfl⟩ := h'
  rw [hf, Option.some.injEq] at hf'
  rw [hf']

theorem Parent.mem_keys (h : m.Parent f p) : f ∈ m.keys := by
  obtain ⟨edge, hf, -⟩ := h
  exact mem_keys_iff.2 ⟨edge, hf⟩

theorem IsRoot.mem_keys (h : m.IsRoot r) : r ∈ m.keys := by
  obtain ⟨edge, hr, -⟩ := h
  exact mem_keys_iff.2 ⟨edge, hr⟩

theorem IsRoot.not_parent (h : m.IsRoot r) : ¬ m.Parent r p := by
  rintro ⟨edge, hr, hne, -⟩
  obtain ⟨edge', hr', he⟩ := h
  rw [hr, Option.some.injEq] at hr'
  exact hne (hr' ▸ he)

theorem Parent.of_erase (h : (m.erase f).Parent g p) : m.Parent g p := by
  obtain ⟨edge, hg, hp⟩ := h
  exact ⟨edge, find?_of_erase hg, hp⟩

namespace Climb

theorem isRoot (h : m.Climb f steps r) : m.IsRoot r := by
  induction h with
  | root hr he => exact ⟨_, hr, he⟩
  | up _ _ _ ih => exact ih

theorem mem_keys (h : m.Climb f steps r) : f ∈ m.keys := by
  cases h with
  | root hr _ => exact mem_keys_iff.2 ⟨_, hr⟩
  | up hf _ _ => exact mem_keys_iff.2 ⟨_, hf⟩

/-- A frame has at most one climb. -/
theorem unique (h : m.Climb f steps r) (h' : m.Climb f steps' r') : steps = steps' ∧ r = r' := by
  induction h generalizing steps' with
  | root hr he =>
    cases h' with
    | root => exact ⟨rfl, rfl⟩
    | up hf hne => exact absurd ⟨_, hf, hne, rfl⟩ (IsRoot.not_parent ⟨_, hr, he⟩)
  | up hf hne _ ih =>
    cases h' with
    | root hr he => exact absurd ⟨_, hf, hne, rfl⟩ (IsRoot.not_parent ⟨_, hr, he⟩)
    | up hf' _ rest =>
      rw [hf, Option.some.injEq] at hf'
      subst hf'
      obtain ⟨rfl, rfl⟩ := ih rest
      exact ⟨rfl, rfl⟩

theorem parent (h : m.Climb f steps r) (hp : m.Parent f p) :
    ∃ edge steps', steps = (f, edge) :: steps' ∧ m.Climb p steps' r := by
  cases h with
  | root hr he => exact absurd hp (IsRoot.not_parent ⟨_, hr, he⟩)
  | up hf hne rest => exact ⟨_, _, rfl, hp.unique ⟨_, hf, hne, rfl⟩ ▸ rest⟩

/-- Every frame on the way of a climb has a climb of its own, which is no longer. -/
theorem ancestor (h : m.Climb f steps r) (hg : Relation.ReflTransGen m.Parent f g) :
    ∃ steps', m.Climb g steps' r ∧ steps'.length ≤ steps.length := by
  induction hg with
  | refl => exact ⟨steps, h, Nat.le_refl _⟩
  | tail _ hp ih =>
    obtain ⟨steps₁, hc, hle⟩ := ih
    obtain ⟨edge, steps₂, rfl, hc'⟩ := hc.parent hp
    exact ⟨steps₂, hc', by rw [List.length_cons] at hle; omega⟩

/-- A frame that can be climbed from is not among its own ancestors. -/
theorem not_cycle (h : m.Climb f steps r) : ¬ Relation.TransGen m.Parent f f := by
  intro cycle
  obtain ⟨p, hp, hf⟩ := Relation.TransGen.head'_iff.1 cycle
  obtain ⟨edge, steps₁, rfl, hc⟩ := h.parent hp
  obtain ⟨steps₂, hc', hle⟩ := hc.ancestor hf
  obtain ⟨rfl, -⟩ := h.unique hc'
  rw [List.length_cons] at hle
  omega

theorem reaches (h : m.Climb f steps r) : Relation.ReflTransGen m.Parent f r := by
  induction h with
  | root => exact .refl
  | up hf hne _ ih => exact .head ⟨_, hf, hne, rfl⟩ ih

theorem of_erase (h : (m.erase g).Climb f steps r) : m.Climb f steps r := by
  induction h with
  | root hr he => exact .root (find?_of_erase hr) he
  | up hf hne _ ih => exact .up (find?_of_erase hf) hne ih

/-- A climb that does not come by a frame is a climb in the map without it. -/
theorem erase (h : m.Climb f steps r) (hg : ¬ Relation.ReflTransGen m.Parent f g) :
    (m.erase g).Climb f steps r := by
  have ne {x : String} (h : ¬ Relation.ReflTransGen m.Parent x g) : x ≠ g := by
    rintro rfl
    exact h .refl
  induction h with
  | root hr he => exact .root (by rw [find?_erase_of_ne (ne hg), hr]) he
  | up hf hne _ ih =>
    refine .up (by rw [find?_erase_of_ne (ne hg), hf]) hne (ih fun h => ?_)
    exact hg (.head ⟨_, hf, hne, rfl⟩ h)

end Climb

theorem exists_climb_iff :
    (∃ steps, m.Climb f steps r) ↔ m.IsRoot r ∧ Relation.ReflTransGen m.Parent f r := by
  constructor
  · rintro ⟨steps, h⟩
    exact ⟨h.isRoot, h.reaches⟩
  · rintro ⟨⟨edge, hr, he⟩, h⟩
    induction h using Relation.ReflTransGen.head_induction_on with
    | refl => exact ⟨[], .root hr he⟩
    | head hp _ ih =>
      obtain ⟨edge', hf, hne, rfl⟩ := hp
      obtain ⟨steps, hc⟩ := ih
      exact ⟨_, .up hf hne hc⟩

/-! ## What `ascend` finds -/

theorem climb_of_ascend {a : Ascent α} (h : m.ascend f = some a) : m.Climb f a.steps a.root := by
  fun_induction ascend m f generalizing a with
  | case1 => cases h
  | case2 m f edge hf he =>
    obtain rfl := Option.some.inj h
    exact .root hf he
  | case3 m f edge hf hne ih =>
    obtain ⟨a', ha', rfl⟩ := Option.map_eq_some_iff.1 h
    exact .up hf hne (ih ha').of_erase

theorem ascend_of_climb (h : m.Climb f steps r) : m.ascend f = some ⟨steps, r⟩ := by
  -- The induction is on the edges taken, since the map shrinks on the way up.
  induction steps generalizing m f with
  | nil =>
    cases h with
    | root hr he => rw [ascend]; split <;> simp_all
  | cons step steps ih =>
    have cycle := h.not_cycle
    cases h with
    | @up _ _ edge _ hf hne hc =>
      have hc' := hc.erase fun h => cycle (.head' ⟨edge, hf, hne, rfl⟩ h)
      rw [ascend]
      split
      · simp_all
      · next edge' hf' =>
        obtain rfl : edge = edge' := by simpa [hf] using hf'
        rw [if_neg hne, ih hc', Option.map_some]

/-- The walk up finds exactly the climbs of the map. -/
theorem ascend_eq_some_iff {a : Ascent α} : m.ascend f = some a ↔ m.Climb f a.steps a.root :=
  ⟨climb_of_ascend, ascend_of_climb⟩

/-- A walk up fails because it leaves the map or because it comes back to a frame. -/
theorem ascend_eq_none_iff :
    m.ascend f = none ↔ (∃ g, Relation.ReflTransGen m.Parent f g ∧ g ∉ m.keys) ∨
      ∃ g, Relation.ReflTransGen m.Parent f g ∧ Relation.TransGen m.Parent g g := by
  constructor
  · intro h
    fun_induction ascend m f with
    | case1 m f hf => exact .inl ⟨f, .refl, not_mem_keys_iff.2 hf⟩
    | case2 => cases h
    | case3 m f edge hf hne ih =>
      have hp : m.Parent f edge.parent := ⟨edge, hf, hne, rfl⟩
      have step : (m.erase f).Parent ≤ m.Parent := fun _ _ => Parent.of_erase
      have lift {x y : String} (h : Relation.ReflTransGen (m.erase f).Parent x y) :
          Relation.ReflTransGen m.Parent x y := Relation.ReflTransGen.mono step _ _ h
      rcases ih (Option.map_eq_none_iff.1 h) with ⟨g, hg, hm⟩ | ⟨g, hg, hc⟩
      · by_cases hgf : g = f
        · subst hgf
          exact .inr ⟨g, .refl, .head' hp (lift hg)⟩
        · rw [not_mem_keys_iff, find?_erase_of_ne hgf, ← not_mem_keys_iff] at hm
          exact .inl ⟨g, .head hp (lift hg), hm⟩
      · exact .inr ⟨g, .head hp (lift hg), Relation.TransGen.mono step _ _ hc⟩
  · intro h
    rw [Option.eq_none_iff_forall_ne_some]
    intro a ha
    have hc := climb_of_ascend ha
    rcases h with ⟨g, hg, hm⟩ | ⟨g, hg, cycle⟩
    · obtain ⟨steps, hc', -⟩ := hc.ancestor hg
      exact hm hc'.mem_keys
    · obtain ⟨steps, hc', -⟩ := hc.ancestor hg
      exact hc'.not_cycle cycle

theorem ascend_of_not_mem (hf : f ∉ m.keys) : m.ascend f = none :=
  ascend_eq_none_iff.2 (.inl ⟨f, .refl, hf⟩)

/-! ## Rooted trees -/

/-- The edges are one tree with the root `r`, and no frame of it is nameless. -/
structure RootedAt (m : EdgeMap α) (r : String) : Prop where
  isRoot : m.IsRoot r
  named : "" ∉ m.keys
  reaches : ∀ f ∈ m.keys, Relation.ReflTransGen m.Parent f r

namespace RootedAt

theorem mem_keys (h : m.RootedAt r) : r ∈ m.keys :=
  h.isRoot.mem_keys

theorem climb (h : m.RootedAt r) (hf : f ∈ m.keys) : ∃ steps, m.Climb f steps r :=
  exists_climb_iff.2 ⟨h.isRoot, h.reaches f hf⟩

/-- All frames above a frame of the tree are in the tree. -/
theorem mem_keys_of_reaches (h : m.RootedAt r) (hf : f ∈ m.keys)
    (hg : Relation.ReflTransGen m.Parent f g) : g ∈ m.keys := by
  obtain ⟨steps, hc⟩ := h.climb hf
  obtain ⟨steps', hc', -⟩ := hc.ancestor hg
  exact hc'.mem_keys

theorem parent_mem_keys (h : m.RootedAt r) (hp : m.Parent f p) : p ∈ m.keys :=
  h.mem_keys_of_reaches hp.mem_keys (.single hp)

theorem not_cycle (h : m.RootedAt r) : ¬ Relation.TransGen m.Parent f f := by
  intro cycle
  obtain ⟨p, hp, -⟩ := Relation.TransGen.head'_iff.1 cycle
  obtain ⟨steps, hc⟩ := h.climb hp.mem_keys
  exact hc.not_cycle cycle

theorem eq_of_isRoot (h : m.RootedAt r) (hf : m.IsRoot f) : f = r := by
  obtain ⟨steps, hc⟩ := h.climb hf.mem_keys
  obtain ⟨edge, hf', he⟩ := hf
  exact ((Climb.root hf' he).unique hc).2

end RootedAt

/-- What can be wrong with the edges of a frame tree. -/
inductive Malformed (m : EdgeMap α) : Prop
  /-- There are none. -/
  | empty : m.keys = [] → Malformed m
  /-- A frame is nameless. -/
  | nameless : "" ∈ m.keys → Malformed m
  /-- The walk up from a frame comes to a frame without an edge. -/
  | dangling {f g : String} : f ∈ m.keys → Relation.ReflTransGen m.Parent f g → g ∉ m.keys →
      Malformed m
  /-- The walk up from a frame comes back to a frame met before. -/
  | cyclic {f g : String} : f ∈ m.keys → Relation.ReflTransGen m.Parent f g →
      Relation.TransGen m.Parent g g → Malformed m
  /-- The walks up from two frames end in different roots. -/
  | divided {f g r r' : String} : f ∈ m.keys → g ∈ m.keys →
      Relation.ReflTransGen m.Parent f r → m.IsRoot r →
      Relation.ReflTransGen m.Parent g r' → m.IsRoot r' → r ≠ r' → Malformed m

theorem RootedAt.not_malformed (h : m.RootedAt r) : ¬ m.Malformed := by
  intro bad
  cases bad with
  | empty hk => exact List.not_mem_nil (hk ▸ h.mem_keys)
  | nameless hn => exact h.named hn
  | dangling hf hg hm => exact hm (h.mem_keys_of_reaches hf hg)
  | cyclic _ _ cycle => exact h.not_cycle cycle
  | divided _ _ _ hr _ hr' hne => exact hne ((h.eq_of_isRoot hr).trans (h.eq_of_isRoot hr').symm)

/-- Edges without a defect are a tree. -/
theorem exists_rootedAt (h : ¬ m.Malformed) : ∃ r, m.RootedAt r := by
  have climbs : ∀ f ∈ m.keys, ∃ steps r, m.Climb f steps r := by
    intro f hf
    rcases ha : m.ascend f with _ | a
    · rcases ascend_eq_none_iff.1 ha with ⟨g, hg, hm⟩ | ⟨g, hg, cycle⟩
      · exact absurd (.dangling hf hg hm) h
      · exact absurd (.cyclic hf hg cycle) h
    · exact ⟨_, _, climb_of_ascend ha⟩
  obtain ⟨first, hfirst⟩ := List.exists_mem_of_ne_nil m.keys fun hk => h (.empty hk)
  obtain ⟨steps, r, hc⟩ := climbs first hfirst
  refine ⟨r, hc.isRoot, fun hn => h (.nameless hn), fun f hf => ?_⟩
  obtain ⟨steps', r', hc'⟩ := climbs f hf
  by_cases hr : r' = r
  · exact hr ▸ hc'.reaches
  · exact absurd (.divided hf hfirst hc'.reaches hc'.isRoot hc.reaches hc.isRoot hr) h

theorem root?_of_rootedAt (h : m.RootedAt r) : m.root? = some r := by
  unfold root?
  split
  · next hk => exact absurd h.mem_keys (hk ▸ List.not_mem_nil)
  · next first rest hk =>
    obtain ⟨steps, hc⟩ := h.climb (f := first) (hk ▸ List.mem_cons_self)
    rw [ascend_of_climb hc]
    refine if_pos (List.all_eq_true.2 fun f hf => decide_eq_true ⟨?_, ?_⟩)
    · rintro rfl
      exact h.named hf
    · obtain ⟨steps', hc'⟩ := h.climb hf
      rw [ascend_of_climb hc', Option.any_some, decide_eq_true rfl]

theorem rootedAt_of_root? (h : m.root? = some r) : m.RootedAt r := by
  unfold root? at h
  split at h
  · cases h
  · split at h
    · cases h
    · next a ha =>
      split at h
      · next hall =>
        obtain rfl := Option.some.inj h
        have each : ∀ f ∈ m.keys, f ≠ "" ∧ (m.ascend f).any (·.root = a.root) :=
          fun f hf => of_decide_eq_true (List.all_eq_true.1 hall f hf)
        refine ⟨(climb_of_ascend ha).isRoot, fun hn => (each "" hn).1 rfl, fun f hf => ?_⟩
        obtain ⟨a', ha', hr⟩ := (Option.any_eq_true _ _).1 (each f hf).2
        exact of_decide_eq_true hr ▸ (climb_of_ascend ha').reaches
      · cases h

/-- A root is found exactly if the edges are a tree. -/
theorem root?_eq_some_iff : m.root? = some r ↔ m.RootedAt r :=
  ⟨rootedAt_of_root?, root?_of_rootedAt⟩

/-- No root is found exactly if something is wrong with the edges. -/
theorem root?_eq_none_iff : m.root? = none ↔ m.Malformed := by
  constructor
  · intro h
    refine Classical.byContradiction fun ok => ?_
    obtain ⟨r, hr⟩ := exists_rootedAt ok
    rw [root?_of_rootedAt hr] at h
    cases h
  · intro bad
    rw [Option.eq_none_iff_forall_ne_some]
    exact fun r h => (rootedAt_of_root? h).not_malformed bad

/-! ## Poses relative to an anchor -/

section Pose

variable [Add α] [Sub α] [Mul α] [Neg α] [IntCast α]

theorem relativePose_of_malformed (h : m.Malformed) (f g : String) :
    m.relativePose f g = .error .malformedTree := by
  rw [relativePose, root?_eq_none_iff.2 h]

theorem relativePose_of_missing (h : m.RootedAt r) (hm : f ∉ m.keys ∨ g ∉ m.keys) :
    m.relativePose f g = .error .missingFrame := by
  rw [relativePose, root?_of_rootedAt h]
  rcases hm with hf | hg
  · rw [ascend_of_not_mem hf]
  · rw [ascend_of_not_mem hg]
    cases m.ascend f <;> rfl

theorem relativePose_of_climb (h : m.RootedAt r) (hf : m.Climb f steps r)
    (hg : m.Climb g steps' r) :
    m.relativePose f g = .ok ((⟨steps, r⟩ : Ascent α).pose.inverse * (⟨steps', r⟩ : Ascent α).pose) := by
  rw [relativePose, root?_of_rootedAt h, ascend_of_climb hf, ascend_of_climb hg]

theorem RootedAt.relativePose_ok (h : m.RootedAt r) (hf : f ∈ m.keys) (hg : g ∈ m.keys) :
    ∃ pose, m.relativePose f g = .ok pose := by
  obtain ⟨steps, hc⟩ := h.climb hf
  obtain ⟨steps', hc'⟩ := h.climb hg
  exact ⟨_, relativePose_of_climb h hc hc'⟩

/-- A frame is placed relative to another one through the root of a tree. -/
theorem relativePose_ok_cases {pose : Pose (Component α)} (h : m.relativePose f g = .ok pose) :
    ∃ r steps steps', m.RootedAt r ∧ m.Climb f steps r ∧ m.Climb g steps' r ∧
      pose = (⟨steps, r⟩ : Ascent α).pose.inverse * (⟨steps', r⟩ : Ascent α).pose := by
  by_cases bad : m.Malformed
  · rw [relativePose_of_malformed bad] at h
    cases h
  obtain ⟨r, tree⟩ := exists_rootedAt bad
  by_cases hm : f ∉ m.keys ∨ g ∉ m.keys
  · rw [relativePose_of_missing tree hm] at h
    cases h
  simp only [not_or, Decidable.not_not] at hm
  obtain ⟨steps, hf⟩ := tree.climb hm.1
  obtain ⟨steps', hg⟩ := tree.climb hm.2
  rw [relativePose_of_climb tree hf hg, Except.ok.injEq] at h
  exact ⟨r, steps, steps', tree, hf, hg, h.symm⟩

end Pose

end EdgeMap

end RobotTelemetry
