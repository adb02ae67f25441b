import KubeCell.Helpers

/-!
# What a round takes from the runtime

The reading of the clock, one for a round, and the order in which loops over maps run. The runtime may run such a loop
in any order, so the order is a parameter wherever it can be seen in the result.
-/

namespace KubeCell

/-- The clock of a round, and the order in which it visits the keys of a map. -/
structure Runtime where
  now : Time
  visit : List String → List String
  perm : ∀ keys, (visit keys).Perm keys

/-- The entries of a map, in the order they are visited in. -/
def Runtime.range {V : Type} (rt : Runtime) (m : GoMap V) : List (String × V) :=
  (rt.visit m.keys).filterMap fun key => (AList.lookup key m).map fun value => (key, value)

/-- The loop over a map meets the entries of the map. -/
theorem Runtime.mem_range {V : Type} (rt : Runtime) (m : GoMap V) (key : String) (value : V) :
    (key, value) ∈ rt.range m ↔ AList.lookup key m = some value := by
  simp only [Runtime.range, List.mem_filterMap, (rt.perm _).mem_iff, Option.map_eq_some_iff, Prod.mk.injEq]
  constructor
  · rintro ⟨key', -, value', hlookup, rfl, rfl⟩
    exact hlookup
  · intro hlookup
    exact ⟨key, AList.mem_keys.mp (AList.lookup_isSome.mp (by simp [hlookup])), value, hlookup, rfl, rfl⟩

/-- The keys of a map are visited once each. -/
theorem Runtime.nodup_range {V : Type} (rt : Runtime) (m : GoMap V) : ((rt.range m).map (·.1)).Nodup := by
  rw [Runtime.range, List.map_filterMap]
  refine List.Nodup.filterMap (fun key key' value h h' => ?_) ((rt.perm _).nodup_iff.mpr m.keys_nodup)
  simp only [Option.map_map, Option.mem_def, Option.map_eq_some_iff, Function.comp_apply] at h h'
  obtain ⟨_, _, rfl⟩ := h
  obtain ⟨_, _, h'⟩ := h'
  exact h'.symm

/-- Whether the loop over a map meets an entry does not depend on its order. -/
theorem Runtime.find?_range_isSome {V : Type} (rt : Runtime) (m : GoMap V) (p : String × V → Bool) :
    ((rt.range m).find? p).isSome = true ↔ ∃ key value, AList.lookup key m = some value ∧ p (key, value) = true := by
  rw [List.find?_isSome]
  constructor
  · rintro ⟨⟨key, value⟩, hmem, hp⟩
    exact ⟨key, value, (rt.mem_range _ _ _).mp hmem, hp⟩
  · rintro ⟨key, value, hlookup, hp⟩
    exact ⟨(key, value), (rt.mem_range _ _ _).mpr hlookup, hp⟩

end KubeCell
