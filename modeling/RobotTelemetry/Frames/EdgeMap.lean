import RobotTelemetry.Geometry.Pose
/-!
# Edge maps

The frames of a snapshot hang together by edges: a map from each frame to the frame above it and its
pose there. A frame occurs once; reporting it again replaces its edge and keeps its place. An edge
without a parent marks the root.
-/

namespace RobotTelemetry

/-- The edge of a frame: the frame above it, empty at the root, and its pose there. -/
structure Edge (α : Type) where
  parent : String
  pose : PoseReport α

/-- A finite map from frames to their edges, in the order of first report. -/
structure EdgeMap (α : Type) where
  entries : List (String × Edge α)
  nodup_keys : (entries.map Prod.fst).Nodup

namespace EdgeMap

variable {α : Type}

/-- The map without frames. -/
def empty : EdgeMap α :=
  ⟨[], .nil⟩

/-- The frames, in order. -/
def keys (m : EdgeMap α) : List String :=
  m.entries.map Prod.fst

/-- How many frames there are. -/
def size (m : EdgeMap α) : Nat :=
  m.entries.length

/-- The edge of a frame. -/
def find? (m : EdgeMap α) (frame : String) : Option (Edge α) :=
  m.entries.lookup frame

theorem lookup_cons (entry : String × Edge α) (rest : List (String × Edge α)) (frame : String) :
    (entry :: rest).lookup frame = if frame = entry.1 then some entry.2 else rest.lookup frame := by
  rw [List.lookup_cons]
  by_cases h : frame = entry.1
  · simp [h]
  · rw [if_neg h, show (frame == entry.1) = false by simpa using h]

/-! ### Insertion -/

/-- Replaces the entry of a frame, or adds one at the end. -/
def insertEntry (frame : String) (edge : Edge α) : List (String × Edge α) → List (String × Edge α)
  | [] => [(frame, edge)]
  | entry :: rest =>
      if entry.1 = frame then (frame, edge) :: rest else entry :: insertEntry frame edge rest

theorem keys_insertEntry (frame : String) (edge : Edge α) (entries : List (String × Edge α)) :
    (insertEntry frame edge entries).map Prod.fst =
      if frame ∈ entries.map Prod.fst then entries.map Prod.fst
      else entries.map Prod.fst ++ [frame] := by
  induction entries with
  | nil => rfl
  | cons entry rest ih =>
    by_cases h : entry.1 = frame
    · simp [insertEntry, h]
    · have h' : frame ≠ entry.1 := fun e => h e.symm
      by_cases hm : frame ∈ rest.map Prod.fst
      · rw [insertEntry, if_neg h, List.map_cons, ih, if_pos hm, List.map_cons,
          if_pos (List.mem_cons_of_mem _ hm)]
      · rw [insertEntry, if_neg h, List.map_cons, ih, if_neg hm, List.map_cons,
          if_neg (by simp [h', hm]), List.cons_append]

theorem nodup_insertEntry (frame : String) (edge : Edge α) {entries : List (String × Edge α)}
    (h : (entries.map Prod.fst).Nodup) : ((insertEntry frame edge entries).map Prod.fst).Nodup := by
  rw [keys_insertEntry]
  split
  · exact h
  · next hm =>
    rw [List.nodup_append]
    refine ⟨h, by simp, fun a ha b hb => ?_⟩
    rw [List.mem_singleton.mp hb]
    exact fun e => hm (e ▸ ha)

/-- Sets the edge of a frame. -/
def insert (m : EdgeMap α) (frame : String) (edge : Edge α) : EdgeMap α :=
  ⟨insertEntry frame edge m.entries, nodup_insertEntry frame edge m.nodup_keys⟩

theorem lookup_insertEntry (frame frame' : String) (edge : Edge α)
    (entries : List (String × Edge α)) :
    (insertEntry frame edge entries).lookup frame' =
      if frame' = frame then some edge else entries.lookup frame' := by
  induction entries with
  | nil => simp [insertEntry, lookup_cons]
  | cons entry rest ih =>
    rw [insertEntry, lookup_cons entry]
    split
    · next h => rw [lookup_cons, h]; split <;> rfl
    · next h =>
      rw [lookup_cons, ih]
      by_cases h' : frame' = entry.1 <;> simp_all

@[simp]
theorem find?_insert (m : EdgeMap α) (frame frame' : String) (edge : Edge α) :
    (m.insert frame edge).find? frame' = if frame' = frame then some edge else m.find? frame' :=
  lookup_insertEntry frame frame' edge m.entries

/-- The map of a list of edges: of two edges of one frame the later counts. -/
def ofList (edges : List (String × Edge α)) : EdgeMap α :=
  edges.foldl (fun m (frame, edge) => m.insert frame edge) empty

/-! ### Removal -/

/-- Removes a frame. -/
def erase (m : EdgeMap α) (frame : String) : EdgeMap α :=
  ⟨m.entries.filter (·.1 ≠ frame), m.nodup_keys.sublist (List.filter_sublist.map _)⟩

theorem lookup_filter_ne (frame frame' : String) (entries : List (String × Edge α)) :
    (entries.filter (·.1 ≠ frame)).lookup frame' =
      if frame' = frame then none else entries.lookup frame' := by
  induction entries with
  | nil => simp
  | cons entry rest ih =>
    rw [lookup_cons, List.filter_cons]
    by_cases h : entry.1 = frame
    · rw [if_neg (by simpa using h), ih, h]
      split <;> rfl
    · rw [if_pos (by simpa using h), lookup_cons, ih]
      by_cases h' : frame' = entry.1 <;> simp_all

@[simp]
theorem find?_erase (m : EdgeMap α) (frame frame' : String) :
    (m.erase frame).find? frame' = if frame' = frame then none else m.find? frame' :=
  lookup_filter_ne frame frame' m.entries

theorem mem_of_lookup {frame : String} {edge : Edge α} {entries : List (String × Edge α)}
    (h : entries.lookup frame = some edge) : (frame, edge) ∈ entries := by
  induction entries with
  | nil => simp at h
  | cons entry rest ih =>
    rw [lookup_cons] at h
    split at h
    · next hf =>
      obtain rfl := Option.some.inj h
      simp [hf]
    · exact List.mem_cons_of_mem _ (ih h)

/-- Removing a frame of the map makes it smaller. -/
theorem size_erase_lt {m : EdgeMap α} {frame : String} {edge : Edge α}
    (h : m.find? frame = some edge) : (m.erase frame).size < m.size := by
  unfold size erase
  exact List.length_filter_lt_length_iff_exists.mpr
    ⟨(frame, edge), mem_of_lookup h, by simp⟩

end EdgeMap

end RobotTelemetry
