import Mathlib.Data.List.Nodup
import RobotTelemetry.Frames.Transforms
import RobotTelemetry.Proofs.FrameTrees
/-!
# What is published about an edge map

An edge map is published as one transform for each edge with a parent (`mem_transforms_iff`), which
is turned round if the child is the inverse target (`mem_transforms_cases`). A qualified name
belongs to one frame only (`targeted_cases`), so that at most one edge is turned round and at most
one event is reported (`length_events_le_one`).
-/

namespace RobotTelemetry

/-! ## Qualified names -/

namespace Naming

variable {n : Naming} {f g : String}

@[simp]
theorem qualify_inj : n.qualify f = n.qualify g ↔ f = g :=
  String.append_right_inj _

theorem IsTarget.unique (hf : n.IsTarget f) (hg : n.IsTarget g) : f = g :=
  qualify_inj.1 (hf.trans hg.symm)

end Naming

/-! ## Single edges -/

namespace Edge

variable {α : Type} {n : Naming} {stamp : Stamp} {f : String} {edge : Edge α}

/-- Events are about the inverse target and come from the publication of frames. -/
theorem event?_cases {event : Event} (h : edge.event? n f = some event) :
    n.IsTarget f ∧ event.source = "spot_state_bridge.frames.tree" := by
  unfold event? at h
  split at h
  · next ht =>
    rw [Option.some.injEq] at h
    subst h
    refine ⟨ht, ?_⟩
    split <;> rfl
  · cases h

variable [Add α] [Sub α] [Mul α] [Neg α] [IntCast α]

theorem transform?_of_forward (hp : edge.parent ≠ "") (ht : ¬ n.IsTarget f) :
    edge.transform? n stamp f =
      some ⟨stamp, n.qualify edge.parent, n.qualify f, edge.pose.pose⟩ := by
  rw [transform?, if_neg hp, if_neg ht]

theorem transform?_of_target (hp : edge.parent ≠ "") (ht : n.IsTarget f) :
    edge.transform? n stamp f =
      some ⟨stamp, n.qualify f, n.qualify edge.parent, edge.pose.pose.inverse⟩ := by
  rw [transform?, if_neg hp, if_pos ht]

theorem parent_ne_of_transform? {t : Transform α} (h : edge.transform? n stamp f = some t) :
    edge.parent ≠ "" := by
  intro hp
  rw [transform?, if_pos hp] at h
  cases h

end Edge

namespace EdgeMap

variable {α : Type} {m : EdgeMap α} {n : Naming} {stamp : Stamp} {f p : String} {edge : Edge α}

/-! ## Edge maps -/

/-- Different entries of an edge map belong to different frames. -/
theorem pairwise_entries (m : EdgeMap α) : m.entries.Pairwise fun a b => a.1 ≠ b.1 :=
  List.pairwise_map.1 m.nodup_keys

theorem source_of_mem_events {event : Event} (h : event ∈ m.events n) :
    event.source = "spot_state_bridge.frames.tree" := by
  obtain ⟨⟨f, edge⟩, -, he⟩ := List.mem_filterMap.1 h
  exact (Edge.event?_cases he).2

/-- The edges of all frames whose name is the inverse target. -/
def targeted (m : EdgeMap α) (n : Naming) : List (String × Edge α) :=
  m.entries.filter fun entry => n.IsTarget entry.1

theorem mem_targeted_iff {entry : String × Edge α} :
    entry ∈ m.targeted n ↔ entry ∈ m.entries ∧ n.IsTarget entry.1 := by
  simp [targeted]

/-- The inverse target is the name of one frame or of none. -/
theorem targeted_cases (m : EdgeMap α) (n : Naming) :
    (m.targeted n = [] ∧ ∀ f ∈ m.keys, ¬ n.IsTarget f) ∨
      ∃ f edge, m.find? f = some edge ∧ n.IsTarget f ∧ m.targeted n = [(f, edge)] := by
  by_cases hex : ∃ f edge, m.find? f = some edge ∧ n.IsTarget f
  · obtain ⟨f, edge, hf, ht⟩ := hex
    have nodup : (m.targeted n).Nodup := m.nodup_keys.of_map.filter _
    refine .inr ⟨f, edge, hf, ht, List.perm_singleton.1 ?_⟩
    rw [List.perm_ext_iff_of_nodup nodup (List.nodup_singleton _)]
    rintro ⟨g, edge'⟩
    rw [mem_targeted_iff, mem_entries_iff, List.mem_singleton, Prod.mk.injEq]
    constructor
    · rintro ⟨hg, ht'⟩
      obtain rfl := ht'.unique ht
      rw [hg, Option.some.injEq] at hf
      exact ⟨rfl, hf⟩
    · rintro ⟨rfl, rfl⟩
      exact ⟨hf, ht⟩
  · have none_named (f : String) (hf : f ∈ m.keys) : ¬ n.IsTarget f := by
      obtain ⟨edge, hf⟩ := mem_keys_iff.1 hf
      exact fun ht => hex ⟨f, edge, hf, ht⟩
    refine .inl ⟨List.filter_eq_nil_iff.2 fun entry hentry => ?_, none_named⟩
    simpa using none_named entry.1 (List.mem_map_of_mem hentry)

theorem events_eq_filterMap (m : EdgeMap α) (n : Naming) :
    m.events n = (m.targeted n).filterMap fun entry => entry.2.event? n entry.1 := by
  rw [events, targeted, List.filterMap_filter]
  refine List.filterMap_congr fun entry _ => ?_
  by_cases ht : n.IsTarget entry.1 <;> simp [Edge.event?, ht]

theorem length_events_le_one (m : EdgeMap α) (n : Naming) : (m.events n).length ≤ 1 := by
  rw [events_eq_filterMap]
  obtain ⟨hnil, -⟩ | ⟨f, edge, -, -, hone⟩ := m.targeted_cases n
  · rw [hnil]
    exact Nat.zero_le 1
  · rw [hone]
    exact List.length_filterMap_le _ _

variable [Add α] [Sub α] [Mul α] [Neg α] [IntCast α] {t : Transform α}

theorem mem_transforms_iff : t ∈ m.transforms n stamp ↔
    ∃ f edge, m.find? f = some edge ∧ edge.transform? n stamp f = some t := by
  simp only [transforms, List.mem_filterMap, Prod.exists, mem_entries_iff]

theorem mem_transforms_of_forward (hf : m.find? f = some edge) (hp : edge.parent ≠ "")
    (ht : ¬ n.IsTarget f) :
    ⟨stamp, n.qualify edge.parent, n.qualify f, edge.pose.pose⟩ ∈ m.transforms n stamp :=
  mem_transforms_iff.2 ⟨f, edge, hf, Edge.transform?_of_forward hp ht⟩

theorem mem_transforms_of_target (hf : m.find? f = some edge) (hp : edge.parent ≠ "")
    (ht : n.IsTarget f) :
    ⟨stamp, n.qualify f, n.qualify edge.parent, edge.pose.pose.inverse⟩ ∈ m.transforms n stamp :=
  mem_transforms_iff.2 ⟨f, edge, hf, Edge.transform?_of_target hp ht⟩

/-- A published transform is an edge with a parent, as it stands or turned round. -/
theorem mem_transforms_cases (h : t ∈ m.transforms n stamp) :
    ∃ f edge, m.find? f = some edge ∧ edge.parent ≠ "" ∧
      (¬ n.IsTarget f ∧ t = ⟨stamp, n.qualify edge.parent, n.qualify f, edge.pose.pose⟩ ∨
        n.IsTarget f ∧ t = ⟨stamp, n.qualify f, n.qualify edge.parent, edge.pose.pose.inverse⟩) := by
  obtain ⟨f, edge, hf, ht⟩ := mem_transforms_iff.1 h
  have hp := Edge.parent_ne_of_transform? ht
  refine ⟨f, edge, hf, hp, ?_⟩
  by_cases htarget : n.IsTarget f
  · rw [Edge.transform?_of_target hp htarget, Option.some.injEq] at ht
    exact .inr ⟨htarget, ht.symm⟩
  · rw [Edge.transform?_of_forward hp htarget, Option.some.injEq] at ht
    exact .inl ⟨htarget, ht.symm⟩

theorem stamp_of_mem_transforms (h : t ∈ m.transforms n stamp) : t.stamp = stamp := by
  obtain ⟨f, edge, -, -, ⟨-, rfl⟩ | ⟨-, rfl⟩⟩ := mem_transforms_cases h <;> rfl

end EdgeMap

/-! ## Snapshots -/

namespace Snapshot

variable {α ε : Type} [Add α] [Sub α] [Mul α] [Neg α] [IntCast α] {s : Snapshot α}

theorem transforms_of_none (h : s.kinematics = none) (skew : Duration) (n : Naming) :
    (s.transforms skew n : Logged ε _) = ⟨[], .ok none⟩ := by
  rw [transforms, h]
  rfl

theorem transforms_of_some {k : KinematicsReport α} (h : s.kinematics = some k) (skew : Duration)
    (n : Naming) : (s.transforms skew n : Logged ε _) =
      ⟨k.edges.events n, .ok (some (k.edges.transforms n (k.acquired.corrected skew)))⟩ := by
  rw [transforms, h]
  simp [bind, pure, Logged.andThen, Logged.report]

end Snapshot

end RobotTelemetry
