import RobotTelemetry.Proofs.Publication
/-!
# When the published transforms form a tree

A frame tree is published with one edge turned round at most. Turning round the edge of a frame `f`
makes `f` the parent of its old parent `p`. If `p` was the root, the transforms form a tree with the
new root `f`. If `p` has a parent of its own, it ends up as the child of two transforms, and there
is no tree. So the transforms form a tree exactly if the inverse target is not the name of a frame
whose parent has a parent (`transforms_rooted_iff`).
-/

namespace RobotTelemetry

namespace Transform

variable {α : Type}

/-- The frame `p` is published as the parent of the frame `c`. -/
def Parent (ts : List (Transform α)) (c p : String) : Prop :=
  ∃ t ∈ ts, t.child = c ∧ t.parent = p

/-- The transforms form a tree over the given frames: no two of them have the same child, the root
is the only frame that is the child of none, and all frames reach it by parent steps. -/
structure Rooted (ts : List (Transform α)) (frames : List String) (root : String) : Prop where
  ends_mem : ∀ t ∈ ts, t.parent ∈ frames ∧ t.child ∈ frames
  nodup_children : (ts.map (·.child)).Nodup
  root_mem : root ∈ frames
  no_child_iff : ∀ c ∈ frames, (¬ ∃ t ∈ ts, t.child = c) ↔ c = root
  reaches : ∀ c ∈ frames, Relation.ReflTransGen (Parent ts) c root

variable {ts : List (Transform α)} {frames : List String} {root root' c : String}

theorem Rooted.root_unique (h : Rooted ts frames root) (h' : Rooted ts frames root') :
    root = root' :=
  (h'.no_child_iff root h.root_mem).1 ((h.no_child_iff root h.root_mem).2 rfl)

/-- A frame other than the root is the child of exactly one transform. -/
theorem Rooted.exists_unique (h : Rooted ts frames root) (hc : c ∈ frames) (hne : c ≠ root) :
    ∃ t ∈ ts, t.child = c ∧ ∀ t' ∈ ts, t'.child = c → t' = t := by
  obtain ⟨t, ht, rfl⟩ : ∃ t ∈ ts, t.child = c := by
    by_contra hno
    exact hne ((h.no_child_iff c hc).1 hno)
  exact ⟨t, ht, rfl, fun t' ht' e => List.inj_on_of_nodup_map h.nodup_children ht' ht e⟩

/-- A child that occurs once is found. -/
theorem find?_of_unique {t : Transform α} (ht : t ∈ ts) (hc : t.child = c)
    (unique : ∀ t' ∈ ts, t'.child = c → t' = t) : find? ts c = some t := by
  obtain ⟨t', hf⟩ : ∃ t', find? ts c = some t' := by
    rw [← Option.isSome_iff_exists]
    exact List.find?_isSome.2 ⟨t, ht, decide_eq_true hc⟩
  have hc' : t'.child = c := by simpa using List.find?_some hf
  rw [hf, unique t' (List.mem_of_find?_eq_some hf) hc']

end Transform

namespace EdgeMap

variable {α : Type} {m m' : EdgeMap α} {n : Naming} {stamp : Stamp} {f p g r : String}

/-- The inverse target is the name of the frame `f`, whose parent `p` has a parent of its own. -/
def DeepTarget (m : EdgeMap α) (n : Naming) (f p : String) : Prop :=
  n.IsTarget f ∧ m.Parent f p ∧ ∃ g, m.Parent p g

theorem RootedAt.no_parent_iff (h : m.RootedAt r) (hf : f ∈ m.keys) :
    (¬ ∃ p, m.Parent f p) ↔ f = r := by
  constructor
  · intro hno
    obtain ⟨edge, hf⟩ := mem_keys_iff.1 hf
    by_cases he : edge.parent = ""
    · exact h.eq_of_isRoot ⟨edge, hf, he⟩
    · exact absurd ⟨edge.parent, edge, hf, he, rfl⟩ hno
  · rintro rfl ⟨p, hp⟩
    exact h.isRoot.not_parent hp

variable [Add α] [Sub α] [Mul α] [Neg α] [IntCast α]

theorem published_of_forward (stamp : Stamp) (hp : m.Parent f p) (ht : ¬ n.IsTarget f) :
    Transform.Parent (m.transforms n stamp) (n.qualify f) (n.qualify p) := by
  obtain ⟨edge, hf, he, rfl⟩ := hp
  exact ⟨_, mem_transforms_of_forward hf he ht, rfl, rfl⟩

theorem published_of_target (stamp : Stamp) (hp : m.Parent f p) (ht : n.IsTarget f) :
    Transform.Parent (m.transforms n stamp) (n.qualify p) (n.qualify f) := by
  obtain ⟨edge, hf, he, rfl⟩ := hp
  exact ⟨_, mem_transforms_of_target hf he ht, rfl, rfl⟩

/-- A published transform belongs to a parent step, and its ends to the two frames of the step. -/
theorem parent_of_mem_transforms {t : Transform α} (h : t ∈ m.transforms n stamp) :
    ∃ f p, m.Parent f p ∧
      (¬ n.IsTarget f ∧ t.child = n.qualify f ∧ t.parent = n.qualify p ∨
        n.IsTarget f ∧ t.child = n.qualify p ∧ t.parent = n.qualify f) := by
  obtain ⟨f, edge, hf, he, ⟨ht, rfl⟩ | ⟨ht, rfl⟩⟩ := mem_transforms_cases h
  · exact ⟨f, edge.parent, ⟨edge, hf, he, rfl⟩, .inl ⟨ht, rfl, rfl⟩⟩
  · exact ⟨f, edge.parent, ⟨edge, hf, he, rfl⟩, .inr ⟨ht, rfl, rfl⟩⟩

theorem ends_of_mem_transforms (h : m.RootedAt r) {t : Transform α}
    (ht : t ∈ m.transforms n stamp) :
    t.parent ∈ m.keys.map n.qualify ∧ t.child ∈ m.keys.map n.qualify := by
  obtain ⟨f, p, hp, hends⟩ := parent_of_mem_transforms ht
  have hf : n.qualify f ∈ m.keys.map n.qualify := List.mem_map_of_mem hp.mem_keys
  have hq : n.qualify p ∈ m.keys.map n.qualify := List.mem_map_of_mem (h.parent_mem_keys hp)
  obtain ⟨-, hchild, hparent⟩ | ⟨-, hchild, hparent⟩ := hends
  · rw [hchild, hparent]
    exact ⟨hq, hf⟩
  · rw [hchild, hparent]
    exact ⟨hf, hq⟩

/-- The child of the transform that the edge of a frame is published as. -/
theorem child_of_transform? {edge : Edge α} {t : Transform α}
    (h : edge.transform? n stamp f = some t) :
    t.child = if n.IsTarget f then n.qualify edge.parent else n.qualify f := by
  have hp := Edge.parent_ne_of_transform? h
  split
  · next ht =>
    rw [Edge.transform?_of_target hp ht, Option.some.injEq] at h
    rw [← h]
  · next ht =>
    rw [Edge.transform?_of_forward hp ht, Option.some.injEq] at h
    rw [← h]

/-- Unless a frame with a parent becomes the child of the inverse target, no two transforms have the
same child. This holds of malformed maps too. -/
theorem nodup_children (good : ∀ f p, ¬ m.DeepTarget n f p) :
    ((m.transforms n stamp).map (·.child)).Nodup := by
  rw [List.Nodup, List.pairwise_map, transforms, List.pairwise_filterMap]
  refine m.pairwise_entries.imp_of_mem ?_
  rintro ⟨f, edge⟩ ⟨f', edge'⟩ hf hf' (hne : f ≠ f') t ht t' ht'
  have hp : m.Parent f edge.parent :=
    ⟨edge, mem_entries_iff.1 hf, Edge.parent_ne_of_transform? ht, rfl⟩
  have hp' : m.Parent f' edge'.parent :=
    ⟨edge', mem_entries_iff.1 hf', Edge.parent_ne_of_transform? ht', rfl⟩
  rw [child_of_transform? ht, child_of_transform? ht']
  by_cases hT : n.IsTarget f <;> by_cases hT' : n.IsTarget f'
  · exact absurd (hT.unique hT') hne
  · -- The target's old parent is `f'`, which has a parent.
    rw [if_pos hT, if_neg hT', Ne, Naming.qualify_inj]
    intro e
    exact good f f' ⟨hT, e ▸ hp, _, hp'⟩
  · rw [if_neg hT, if_pos hT', Ne, Naming.qualify_inj]
    intro e
    exact good f' f ⟨hT', e ▸ hp', _, hp⟩
  · rw [if_neg hT, if_neg hT', Ne, Naming.qualify_inj]
    exact hne

/-- The frames that are published as children: those with a parent, where the parent of the target
stands for the target. -/
theorem exists_child_iff {c : String} : (∃ t ∈ m.transforms n stamp, t.child = c) ↔
    ∃ f p, m.Parent f p ∧ (¬ n.IsTarget f ∧ c = n.qualify f ∨ n.IsTarget f ∧ c = n.qualify p) := by
  constructor
  · rintro ⟨t, ht, rfl⟩
    obtain ⟨f, p, hp, ⟨hT, hc, -⟩ | ⟨hT, hc, -⟩⟩ := parent_of_mem_transforms ht
    · exact ⟨f, p, hp, .inl ⟨hT, hc⟩⟩
    · exact ⟨f, p, hp, .inr ⟨hT, hc⟩⟩
  · rintro ⟨f, p, hp, ⟨hT, rfl⟩ | ⟨hT, rfl⟩⟩
    · obtain ⟨t, ht, hc, -⟩ := published_of_forward stamp hp hT
      exact ⟨t, ht, hc⟩
    · obtain ⟨t, ht, hc, -⟩ := published_of_target stamp hp hT
      exact ⟨t, ht, hc⟩

/-! ## The new tree -/

/-- If the target names no frame with a parent, the transforms form the old tree. -/
theorem rooted_of_no_target (h : m.RootedAt r) (hno : ∀ f p, n.IsTarget f → ¬ m.Parent f p) :
    Transform.Rooted (m.transforms n stamp) (m.keys.map n.qualify) (n.qualify r) where
  ends_mem _ ht := ends_of_mem_transforms h ht
  nodup_children := nodup_children fun f p hd => hno f p hd.1 hd.2.1
  root_mem := List.mem_map_of_mem h.mem_keys
  no_child_iff := by
    intro c hc
    obtain ⟨f, hf, rfl⟩ := List.mem_map.1 hc
    have child : (∃ t ∈ m.transforms n stamp, t.child = n.qualify f) ↔ ∃ p, m.Parent f p := by
      rw [exists_child_iff]
      constructor
      · rintro ⟨g, p, hp, ⟨-, e⟩ | ⟨hT, -⟩⟩
        · exact ⟨p, Naming.qualify_inj.1 e ▸ hp⟩
        · exact absurd hp (hno g p hT)
      · rintro ⟨p, hp⟩
        exact ⟨f, p, hp, .inl ⟨fun hT => hno f p hT hp, rfl⟩⟩
    rw [child, h.no_parent_iff hf, Naming.qualify_inj]
  reaches := by
    intro c hc
    obtain ⟨f, hf, rfl⟩ := List.mem_map.1 hc
    refine (h.reaches f hf).lift n.qualify fun g p hp => ?_
    exact published_of_forward stamp hp fun hT => hno g p hT hp

/-- A target right below the root is above all frames: the climb to the old root meets it, or goes
on to it from the old root. -/
theorem reaches_target (ht : n.IsTarget f) (hp : m.Parent f r)
    (hg : Relation.ReflTransGen m.Parent g r) :
    Relation.ReflTransGen (Transform.Parent (m.transforms n stamp)) (n.qualify g) (n.qualify f) := by
  induction hg using Relation.ReflTransGen.head_induction_on with
  | refl => exact .single (published_of_target stamp hp ht)
  | @head a b hab _ ih =>
    by_cases hT : n.IsTarget a
    · rw [hT.unique ht]
    · exact .head (published_of_forward stamp hab hT) ih

/-- If the target names a frame right below the root, the transforms form a tree with that frame as
the root. -/
theorem rooted_of_target (h : m.RootedAt r) (ht : n.IsTarget f) (hp : m.Parent f r) :
    Transform.Rooted (m.transforms n stamp) (m.keys.map n.qualify) (n.qualify f) where
  ends_mem _ ht := ends_of_mem_transforms h ht
  nodup_children := by
    refine nodup_children fun g p ⟨hT, hgp, q, hpq⟩ => ?_
    obtain rfl := hT.unique ht
    obtain rfl := hgp.unique hp
    exact h.isRoot.not_parent hpq
  root_mem := List.mem_map_of_mem hp.mem_keys
  no_child_iff := by
    intro c hc
    obtain ⟨g, hg, rfl⟩ := List.mem_map.1 hc
    have child : (∃ t ∈ m.transforms n stamp, t.child = n.qualify g) ↔ g ≠ f := by
      rw [exists_child_iff]
      constructor
      · rintro ⟨g', p, hp', ⟨hT, e⟩ | ⟨hT, e⟩⟩ rfl
        · exact hT (Naming.qualify_inj.1 e ▸ ht)
        · obtain rfl := hT.unique ht
          exact h.not_cycle (.single (Naming.qualify_inj.1 e ▸ hp'))
      · intro hne
        by_cases hr : g = r
        · exact ⟨f, r, hp, .inr ⟨ht, by rw [hr]⟩⟩
        · obtain ⟨p, hp'⟩ := Classical.not_not.1 (mt (h.no_parent_iff hg).1 hr)
          exact ⟨g, p, hp', .inl ⟨fun hT => hne (hT.unique ht), rfl⟩⟩
    rw [child, Naming.qualify_inj, not_not]
  reaches := by
    intro c hc
    obtain ⟨g, hg, rfl⟩ := List.mem_map.1 hc
    exact reaches_target ht hp (h.reaches g hg)

/-- If the parent of the target has a parent of its own, it is the child of two transforms. -/
theorem two_parents_of_deepTarget (h : m.RootedAt r) (hd : m.DeepTarget n f p) (stamp : Stamp) :
    ∃ t ∈ m.transforms n stamp, ∃ t' ∈ m.transforms n stamp,
      t.child = n.qualify p ∧ t'.child = n.qualify p ∧ t.parent ≠ t'.parent := by
  obtain ⟨ht, hp, g, hg⟩ := hd
  have hT : ¬ n.IsTarget p := fun hT => h.not_cycle (.single (hT.unique ht ▸ hp))
  obtain ⟨t, htm, hc, hq⟩ := published_of_target stamp hp ht
  obtain ⟨t', htm', hc', hq'⟩ := published_of_forward stamp hg hT
  refine ⟨t, htm, t', htm', hc, hc', ?_⟩
  rw [hq, hq', Ne, Naming.qualify_inj]
  rintro rfl
  exact h.not_cycle (.tail (.single hp) hg)

theorem not_rooted_of_deepTarget (h : m.RootedAt r) (hd : m.DeepTarget n f p)
    {frames : List String} {root : String} :
    ¬ Transform.Rooted (m.transforms n stamp) frames root := by
  intro hroot
  obtain ⟨t, ht, t', ht', hc, hc', hne⟩ := two_parents_of_deepTarget h hd stamp
  have e := List.inj_on_of_nodup_map hroot.nodup_children ht ht' (hc.trans hc'.symm)
  exact hne (congrArg Transform.parent e)

/-- Which transforms there are does not depend on the order of the edges. -/
theorem mem_transforms_congr (h : ∀ f, m'.find? f = m.find? f) {t : Transform α} :
    t ∈ m'.transforms n stamp ↔ t ∈ m.transforms n stamp := by
  simp only [mem_transforms_iff, h]

/-! ## Main result -/

/-- The published transforms of a frame tree form a tree exactly if the inverse target is not the
name of a frame whose parent has a parent. The root is then the target, if it names a frame with a
parent, and the old root otherwise; any other frame is the child of one transform, which is found
whatever the order of the edges. If the target is such a frame, its old parent is the child of two
transforms. -/
theorem transforms_rooted_iff (h : m.root? = some r) (n : Naming) (stamp : Stamp) :
    ((∃ root, Transform.Rooted (m.transforms n stamp) (m.keys.map n.qualify) root) ↔
      ∀ f p, ¬ m.DeepTarget n f p) ∧
    (∀ root, Transform.Rooted (m.transforms n stamp) (m.keys.map n.qualify) root →
      ((∃ f p, n.IsTarget f ∧ m.Parent f p) → root = n.inverseTarget) ∧
      ((¬ ∃ f p, n.IsTarget f ∧ m.Parent f p) → root = n.qualify r) ∧
      ∀ c ∈ m.keys.map n.qualify, c ≠ root →
        ∃ t ∈ m.transforms n stamp, t.child = c ∧
          (∀ t' ∈ m.transforms n stamp, t'.child = c → t' = t) ∧
          ∀ m' : EdgeMap α, (∀ f, m'.find? f = m.find? f) →
            Transform.find? (m'.transforms n stamp) c = some t) ∧
    ∀ f p, m.DeepTarget n f p →
      ∃ t ∈ m.transforms n stamp, ∃ t' ∈ m.transforms n stamp,
        t.child = n.qualify p ∧ t'.child = n.qualify p ∧ t.parent ≠ t'.parent := by
  have tree := rootedAt_of_root? h
  have unflipped (hno : ¬ ∃ f p, n.IsTarget f ∧ m.Parent f p) :
      Transform.Rooted (m.transforms n stamp) (m.keys.map n.qualify) (n.qualify r) :=
    rooted_of_no_target tree fun f p ht hp => hno ⟨f, p, ht, hp⟩
  have flipped (good : ∀ f p, ¬ m.DeepTarget n f p) {f p : String} (ht : n.IsTarget f)
      (hp : m.Parent f p) :
      Transform.Rooted (m.transforms n stamp) (m.keys.map n.qualify) n.inverseTarget := by
    have hr : p = r := (tree.no_parent_iff (tree.parent_mem_keys hp)).1 fun hg =>
      good f p ⟨ht, hp, hg⟩
    exact ht ▸ rooted_of_target tree ht (hr ▸ hp)
  refine ⟨⟨?_, ?_⟩, ?_, fun f p hd => two_parents_of_deepTarget tree hd stamp⟩
  · rintro ⟨root, hroot⟩ f p hd
    exact not_rooted_of_deepTarget tree hd hroot
  · intro good
    by_cases hex : ∃ f p, n.IsTarget f ∧ m.Parent f p
    · obtain ⟨f, p, ht, hp⟩ := hex
      exact ⟨_, flipped good ht hp⟩
    · exact ⟨_, unflipped hex⟩
  · intro root hroot
    have good : ∀ f p, ¬ m.DeepTarget n f p := fun f p hd =>
      not_rooted_of_deepTarget tree hd hroot
    refine ⟨?_, fun hno => hroot.root_unique (unflipped hno), fun c hc hne => ?_⟩
    · rintro ⟨f, p, ht, hp⟩
      exact hroot.root_unique (flipped good ht hp)
    · obtain ⟨t, ht, htc, unique⟩ := hroot.exists_unique hc hne
      refine ⟨t, ht, htc, unique, fun m' hm' => ?_⟩
      exact Transform.find?_of_unique ((mem_transforms_congr hm').2 ht) htc fun t' ht' =>
        unique t' ((mem_transforms_congr hm').1 ht')

/-- A chain of three frames. -/
def chain : EdgeMap Int :=
  ofList [("vision", ⟨"odom", .unset⟩), ("odom", ⟨"body", .unset⟩), ("body", ⟨"", .unset⟩)]

/-- A chain is no tree any more once its lowest edge is turned round. -/
theorem chain_not_rooted : chain.root? = some "body" ∧ ¬ ∃ root, Transform.Rooted
    (chain.transforms ⟨"spot/", "spot/vision"⟩ {}) (chain.keys.map ("spot/" ++ ·)) root := by
  have tree : chain.root? = some "body" := by decide +kernel
  refine ⟨tree, fun hroot => ?_⟩
  refine (transforms_rooted_iff tree ⟨"spot/", "spot/vision"⟩ {}).1.1 hroot "vision" "odom" ?_
  exact ⟨by decide, ⟨_, rfl, by decide, rfl⟩, "body", _, rfl, by decide, rfl⟩

end EdgeMap

end RobotTelemetry
