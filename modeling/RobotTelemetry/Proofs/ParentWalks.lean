import Mathlib.Data.List.Perm.Subperm
import RobotTelemetry.Proofs.Reading
/-!
# Walks up without a guard

`EdgeMap.ascend` climbs in the map without the frames already left, so that it stops in every map.
The pose of a frame needs no such guard: `Walker.turn` looks up one edge of the whole map and
remembers nothing but the frame it has come to and the pose collected so far. Such a walk may go on
for ever, or get lost at a frame without an edge. In a tree it does neither (`Climb.sound`): each
turn follows the one climb there is, which meets no frame twice. A walk that gets to a root is the
one that `ascend` finds (`Walker.sound_iff`). So the odometry of a snapshot accepts exactly the trees
that have the anchor and the body, and comes from two walks that end (`odometry_accepts_trees`).
-/

namespace RobotTelemetry

variable {α : Type}

/-! ## The frames of a climb -/

namespace EdgeMap.Climb

variable {m : EdgeMap α} {f g r : String} {steps : List (String × Edge α)}

/-- The frames met on a climb, the root included. -/
def frames (steps : List (String × Edge α)) (r : String) : List String :=
  steps.map Prod.fst ++ [r]

theorem head_frames (h : m.Climb f steps r) : ∃ later, frames steps r = f :: later := by
  cases h with
  | root => exact ⟨[], rfl⟩
  | up => exact ⟨_, rfl⟩

theorem reaches_of_mem_frames (h : m.Climb f steps r) (hg : g ∈ frames steps r) :
    Relation.ReflTransGen m.Parent f g := by
  induction h with
  | root =>
    obtain rfl := List.mem_singleton.1 hg
    exact .refl
  | @up f r edge steps hf hne _ ih =>
    rcases List.mem_cons.1 hg with rfl | hg
    · exact .refl
    · exact .head ⟨edge, hf, hne, rfl⟩ (ih hg)

theorem nodup_frames (h : m.Climb f steps r) : (frames steps r).Nodup := by
  induction h with
  | root => exact List.nodup_singleton _
  | @up f r edge steps hf hne hc ih =>
    have cycle := (Climb.up hf hne hc).not_cycle
    refine List.nodup_cons.2 ⟨fun hmem => cycle ?_, ih⟩
    exact .head' ⟨edge, hf, hne, rfl⟩ (hc.reaches_of_mem_frames hmem)

theorem frames_subset_keys (h : m.Climb f steps r) : frames steps r ⊆ m.keys := by
  intro g hg
  obtain ⟨steps', hc, -⟩ := h.ancestor (h.reaches_of_mem_frames hg)
  exact hc.mem_keys

/-- A climb takes fewer steps than there are frames. -/
theorem length_lt_size (h : m.Climb f steps r) : steps.length < m.size := by
  have hle : (frames steps r).length ≤ m.keys.length :=
    (h.nodup_frames.subperm h.frames_subset_keys).length_le
  have hframes : (frames steps r).length = steps.length + 1 := by simp [frames]
  have hkeys : m.keys.length = m.size := List.length_map _
  omega

end EdgeMap.Climb

/-! ## Walkers -/

variable [Add α] [Sub α] [Mul α] [Neg α] [IntCast α]

/-- A walk up on its way: the frame it has come to, and the pose of its start as seen from there. -/
structure Walker (α : Type) where
  frame : String
  pose : Pose (Component α)

namespace Walker

/-- What a turn of a walk comes to. -/
inductive Turn (α : Type) where
  /-- The frame has no edge. -/
  | lost
  /-- The frame is a root. -/
  | arrived
  /-- The walk goes on from the parent. -/
  | moved (next : Walker α)

def turn (m : EdgeMap α) (w : Walker α) : Turn α :=
  match m.find? w.frame with
  | none => .lost
  | some edge =>
      if edge.parent = "" then .arrived else .moved ⟨edge.parent, edge.pose.pose * w.pose⟩

/-- Turns that take one walker to another, with the frames left on the way. -/
inductive Run (m : EdgeMap α) : Walker α → List String → Walker α → Prop
  | stay {w : Walker α} : Run m w [] w
  | move {w next v : Walker α} {left : List String} :
      w.turn m = .moved next → Run m next left v → Run m w (w.frame :: left) v

def start (f : String) : Walker α :=
  ⟨f, Pose.identity⟩

/-- The walk from the frame `f` ends at the root `r` with the pose `p` of `f`, after fewer turns than
there are frames. Wherever it is, it has not lost its way and has met no frame twice. -/
structure Sound (m : EdgeMap α) (f r : String) (p : Pose (Component α)) : Prop where
  never_lost : ∀ left w, Run m (start f) left w → w.turn m ≠ .lost
  never_twice : ∀ left w, Run m (start f) left w → (left ++ [w.frame]).Nodup
  bounded : ∀ left w, Run m (start f) left w → left.length < m.size
  reaches : ∃ left, Run m (start f) left ⟨r, p⟩
  arrives : (⟨r, p⟩ : Walker α).turn m = .arrived

variable {m : EdgeMap α} {w v : Walker α} {f r : String} {left : List String}
  {steps : List (String × Edge α)}

/-- The pose that the walk ends with if these edges are still to be taken. -/
def carry (steps : List (String × Edge α)) (p : Pose (Component α)) : Pose (Component α) :=
  steps.foldl (fun pose step => step.2.pose.pose * pose) p

/-- A walker who stands on a climb arrives if the climb is over, and else takes its next step. -/
theorem turn_cases (h : m.Climb w.frame steps r) :
    (steps = [] ∧ w.frame = r ∧ w.turn m = .arrived) ∨
      ∃ edge rest, steps = (w.frame, edge) :: rest ∧ m.Climb edge.parent rest r ∧
        w.turn m = .moved ⟨edge.parent, edge.pose.pose * w.pose⟩ := by
  cases h with
  | root hr he =>
    refine .inl ⟨rfl, rfl, ?_⟩
    rw [turn, hr]
    exact if_pos he
  | up hf hne hc =>
    refine .inr ⟨_, _, rfl, hc, ?_⟩
    rw [turn, hf]
    exact if_neg hne

/-- Wherever a walk has come to, it is still on the climb, and what it will end with is unchanged. -/
theorem Run.on_climb (h : Run m w left v) (hc : m.Climb w.frame steps r) :
    ∃ rest, steps.map Prod.fst = left ++ rest.map Prod.fst ∧ m.Climb v.frame rest r ∧
      carry rest v.pose = carry steps w.pose := by
  -- By induction on the turns: each of them takes the first step of what is left of the climb.
  induction h generalizing steps with
  | stay => exact ⟨steps, rfl, hc, rfl⟩
  | move hturn _ ih =>
    obtain ⟨-, -, ha⟩ | ⟨edge, rest, rfl, hc', hm⟩ := turn_cases hc
    · rw [hturn] at ha
      cases ha
    · rw [hturn] at hm
      obtain rfl := Turn.moved.inj hm
      obtain ⟨rest', hframes, hv, hp⟩ := ih hc'
      refine ⟨rest', ?_, hv, hp⟩
      rw [List.map_cons, hframes, List.cons_append]

/-- The walk along a climb gets to its end. -/
theorem exists_run (h : m.Climb w.frame steps r) : ∃ left, Run m w left ⟨r, carry steps w.pose⟩ := by
  induction steps generalizing w with
  | nil =>
    obtain ⟨-, rfl, -⟩ | ⟨_, _, hsteps, -⟩ := turn_cases h
    · exact ⟨[], .stay⟩
    · cases hsteps
  | cons step steps ih =>
    obtain ⟨hsteps, -⟩ | ⟨edge, rest, hsteps, hc, hturn⟩ := turn_cases h
    · cases hsteps
    · cases hsteps
      obtain ⟨left, hrun⟩ := ih (w := ⟨edge.parent, edge.pose.pose * w.pose⟩) hc
      exact ⟨_, .move hturn hrun⟩

theorem climb_of_arrived (h : w.turn m = .arrived) : m.Climb w.frame [] w.frame := by
  rw [turn] at h
  split at h
  · cases h
  · next edge hf =>
    split at h
    · next he => exact .root hf he
    · cases h

/-- A walk that has moved on took the edge of its frame, so that a climb from there is a climb from
where it was. -/
theorem climb_of_moved (h : w.turn m = .moved v) (hc : m.Climb v.frame steps r) :
    ∃ edge, m.Climb w.frame ((w.frame, edge) :: steps) r ∧ v.pose = edge.pose.pose * w.pose := by
  rw [turn] at h
  split at h
  · cases h
  · next edge hf =>
    split at h
    · cases h
    · next hne =>
      obtain rfl := Turn.moved.inj h
      exact ⟨edge, .up hf hne hc, rfl⟩

/-- A walk that gets to a root has climbed there. -/
theorem Run.exists_climb (h : Run m w left v) (ha : v.turn m = .arrived) :
    ∃ steps, m.Climb w.frame steps v.frame ∧ carry steps w.pose = v.pose := by
  induction h with
  | stay => exact ⟨[], climb_of_arrived ha, rfl⟩
  | move hturn _ ih =>
    obtain ⟨steps, hc, hp⟩ := ih ha
    obtain ⟨edge, climb, pose⟩ := climb_of_moved hturn hc
    rw [pose] at hp
    exact ⟨_, climb, hp⟩

theorem turn_ne_lost (h : m.Climb w.frame steps r) : w.turn m ≠ .lost := by
  intro hl
  obtain ⟨-, -, ha⟩ | ⟨_, _, -, -, hm⟩ := turn_cases h
  · rw [hl] at ha
    cases ha
  · rw [hl] at hm
    cases hm

end Walker

/-- A walk that starts where a climb does is sound, and it collects the pose of the climb. -/
theorem EdgeMap.Climb.sound {m : EdgeMap α} {f r : String} {steps : List (String × Edge α)}
    (h : m.Climb f steps r) : Walker.Sound m f r (⟨steps, r⟩ : Ascent α).pose where
  never_lost left w hrun := by
    obtain ⟨rest, -, hw, -⟩ := hrun.on_climb h
    exact Walker.turn_ne_lost hw
  never_twice left w hrun := by
    obtain ⟨rest, hframes, hw, -⟩ := hrun.on_climb h
    obtain ⟨later, hlater⟩ := hw.head_frames
    have split : frames steps r = left ++ [w.frame] ++ later := by
      rw [frames, hframes, List.append_assoc, ← frames, hlater, List.append_assoc,
        List.singleton_append]
    exact (split ▸ h.nodup_frames).of_append_left
  bounded left w hrun := by
    obtain ⟨rest, hframes, -, -⟩ := hrun.on_climb h
    have hlength := congrArg List.length hframes
    rw [List.length_append, List.length_map, List.length_map] at hlength
    have hlt := h.length_lt_size
    omega
  reaches := Walker.exists_run h
  arrives := by
    obtain ⟨edge, hr, he⟩ := h.isRoot
    rw [Walker.turn, hr]
    exact if_pos he

/-- A sound walk ends where the guarded one does, and with the same pose. -/
theorem Walker.sound_iff {m : EdgeMap α} {f r : String} {p : Pose (Component α)} :
    Sound m f r p ↔ ∃ a, m.ascend f = some a ∧ a.root = r ∧ a.pose = p := by
  constructor
  · intro h
    obtain ⟨left, run⟩ := h.reaches
    obtain ⟨steps, climb, carried⟩ := run.exists_climb h.arrives
    exact ⟨⟨steps, r⟩, EdgeMap.ascend_of_climb climb, rfl, carried⟩
  · rintro ⟨a, ascent, rfl, rfl⟩
    exact (EdgeMap.climb_of_ascend ascent).sound

/-! ## Main result -/

namespace Snapshot

variable {s : Snapshot α} {k : KinematicsReport α}

/-- The odometry of moving parts fails for malformed edges exactly if these are no tree, and for a
missing frame exactly if they are a tree without the anchor or the body. Otherwise it is made of the
poses that two sound walks bring to the root. -/
theorem odometry_accepts_trees (hk : s.kinematics = some k) (skew : Duration) (options : Options) :
    (s.odometryFor skew options = .error (.missingAnchor options.anchor.frame .malformedTree) ↔
      ¬ ∃ r, k.edges.RootedAt r) ∧
    (s.odometryFor skew options = .error (.missingAnchor options.anchor.frame .missingFrame) ↔
      (∃ r, k.edges.RootedAt r) ∧
        (options.anchor.frame ∉ k.edges.keys ∨ bodyFrame ∉ k.edges.keys)) ∧
    ∀ r, k.edges.RootedAt r → options.anchor.frame ∈ k.edges.keys → bodyFrame ∈ k.edges.keys →
      ∃ p q, Walker.Sound k.edges options.anchor.frame r p ∧ Walker.Sound k.edges bodyFrame r q ∧
        s.odometryFor skew options = .ok (some (k.odometryAt skew options (p.inverse * q))) := by
  have malformed (no_tree : ¬ ∃ r, k.edges.RootedAt r) : s.odometryFor skew options =
      .error (.missingAnchor options.anchor.frame .malformedTree) := by
    have bad : k.edges.Malformed := by
      by_contra ok
      exact no_tree (EdgeMap.exists_rootedAt ok)
    exact odometryFor_of_fault hk (EdgeMap.relativePose_of_malformed bad _ _)
  have missing {r : String} (tree : k.edges.RootedAt r)
      (hm : options.anchor.frame ∉ k.edges.keys ∨ bodyFrame ∉ k.edges.keys) :
      s.odometryFor skew options =
        .error (.missingAnchor options.anchor.frame .missingFrame) :=
    odometryFor_of_fault hk (EdgeMap.relativePose_of_missing tree hm)
  have placed (r : String) (tree : k.edges.RootedAt r) (ha : options.anchor.frame ∈ k.edges.keys)
      (hb : bodyFrame ∈ k.edges.keys) :
      ∃ p q, Walker.Sound k.edges options.anchor.frame r p ∧ Walker.Sound k.edges bodyFrame r q ∧
        s.odometryFor skew options = .ok (some (k.odometryAt skew options (p.inverse * q))) := by
    obtain ⟨steps, hca⟩ := tree.climb ha
    obtain ⟨steps', hcb⟩ := tree.climb hb
    have hpose := EdgeMap.relativePose_of_climb tree hca hcb
    exact ⟨_, _, hca.sound, hcb.sound, odometryFor_of_ok hk hpose⟩
  have accepted {r : String} {e : StateError} (tree : k.edges.RootedAt r)
      (hm : ¬ (options.anchor.frame ∉ k.edges.keys ∨ bodyFrame ∉ k.edges.keys)) :
      s.odometryFor skew options ≠ .error e := by
    intro h
    simp only [not_or, Decidable.not_not] at hm
    obtain ⟨p, q, -, -, hok⟩ := placed r tree hm.1 hm.2
    rw [hok] at h
    cases h
  refine ⟨⟨?_, malformed⟩, ⟨?_, fun ⟨⟨_, tree⟩, hm⟩ => missing tree hm⟩, placed⟩
  · rintro h ⟨r, tree⟩
    by_cases hm : options.anchor.frame ∉ k.edges.keys ∨ bodyFrame ∉ k.edges.keys
    · rw [missing tree hm] at h
      cases h
    · exact accepted tree hm h
  · intro h
    by_cases tree : ∃ r, k.edges.RootedAt r
    · refine ⟨tree, ?_⟩
      obtain ⟨r, tree⟩ := tree
      by_contra hm
      exact accepted tree hm h
    · rw [malformed tree] at h
      cases h

end Snapshot

/-- Moving parts with the anchor two steps above the body and a hand beside it. -/
def towed : KinematicsReport Int :=
  { KinematicsReport.unset with
    edges := .ofList [("body", ⟨"cart", ⟨⟨1, 0, 0⟩, none⟩⟩), ("hand", ⟨"cart", .unset⟩),
      ("cart", ⟨"odom", ⟨⟨0, 2, 0⟩, some ⟨1, 2, 3, 4⟩⟩⟩), ("odom", ⟨"", .unset⟩)] }

/-- Two walks of different lengths meet at the root of the towed body. -/
theorem towed_walks_sound : towed.edges.RootedAt "odom" ∧
    ∃ p q, Walker.Sound towed.edges "odom" "odom" p ∧ Walker.Sound towed.edges "body" "odom" q ∧
      ({ kinematics := some towed } : Snapshot Int).odometryFor {} ⟨{}, .odom⟩ =
        .ok (some (towed.odometryAt {} ⟨{}, .odom⟩ (p.inverse * q))) := by
  have tree := EdgeMap.rootedAt_of_root? (m := towed.edges) (r := "odom") (by decide +kernel)
  have hodom : "odom" ∈ towed.edges.keys := tree.mem_keys
  have hbody : "body" ∈ towed.edges.keys := by decide +kernel
  exact ⟨tree, (Snapshot.odometry_accepts_trees rfl {} ⟨{}, .odom⟩).2.2 _ tree hodom hbody⟩

end RobotTelemetry
