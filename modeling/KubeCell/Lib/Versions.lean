import KubeCell.Lib.Store

/-!
# Versions and lost updates

Writers of a store read an object, change it and write it back whole. What keeps one of them from undoing the work of
another is the version: whatever changes an object gives it a version that was never given out before, and a write is
refused unless it cites the version that stands. So an object that was read is known to be unchanged for as long as
its version stands (`Store.Cited`), whoever else is writing (`Store.Advances`), and a write that is accepted replaces
exactly what its writer has read (`Store.update_of_cited`).
-/

namespace KubeCell.Store

variable {α : Type} [Resource α] {s s' : Store α} {o : α} {version version' : Nat}

/-- The versions of all objects have been given out. -/
def Dated (s : Store α) (version : Nat) : Prop :=
  ∀ key o, s.find key = some o → (Resource.metadata o).resourceVersion < version

/-- The versions up to the next one are given out: every object stays as it is, or goes away, or gets one of them. -/
structure Advances (version : Nat) (s : Store α) (version' : Nat) (s' : Store α) : Prop where
  later : version ≤ version'
  stamped : ∀ key o, s'.find key = some o →
    s.find key = some o ∨ version ≤ (Resource.metadata o).resourceVersion ∧
      (Resource.metadata o).resourceVersion < version'

/-- An object that was read stands unchanged while its version does. -/
structure Cited (s : Store α) (version : Nat) (o : α) : Prop where
  dated : (Resource.metadata o).resourceVersion < version
  same : ∀ current, s.find (Resource.metadata o).key = some current →
    (Resource.metadata current).resourceVersion = (Resource.metadata o).resourceVersion → current = o

theorem Advances.refl (s : Store α) (version : Nat) : Advances version s version s := ⟨le_refl _, fun _ _ h => Or.inl h⟩

theorem Advances.skip (s : Store α) (version : Nat) : Advances version s (version + 1) s :=
  ⟨Nat.le_succ _, fun _ _ h => Or.inl h⟩

/-- The versions in a store were given out, also after a step. -/
theorem Dated.advances (hs : Dated s version) (ha : Advances version s version' s') : Dated s' version' := by
  intro key o ho
  rcases ha.stamped key o ho with hbefore | ⟨-, hlt⟩
  · exact lt_of_lt_of_le (hs key o hbefore) ha.later
  · exact hlt

/-- What is found is cited with its version. -/
theorem cited_of_find {key : NamespacedName} (hs : Dated s version) (h : s.find key = some o) : Cited s version o := by
  refine ⟨hs key o h, fun current hcurrent _ => ?_⟩
  rw [find_keyed h, h] at hcurrent
  exact (Option.some.inj hcurrent).symm

/-- Whoever writes, what is known of an object that was read stays known. -/
theorem Cited.advances (hc : Cited s version o) (ha : Advances version s version' s') : Cited s' version' o := by
  refine ⟨lt_of_lt_of_le hc.dated ha.later, fun current hcurrent hversion => ?_⟩
  rcases ha.stamped _ current hcurrent with hbefore | ⟨hle, -⟩
  · exact hc.same current hbefore hversion
  · have hdated := hc.dated
    omega

/-- Storing an object with the next version. -/
theorem advances_put (ho : (Resource.metadata o).resourceVersion = version) :
    Advances version s (version + 1) (s.put o) := by
  refine ⟨Nat.le_succ _, fun key current hcurrent => ?_⟩
  rw [find_put] at hcurrent
  split_ifs at hcurrent
  · cases hcurrent
    exact Or.inr ⟨ho.ge, by omega⟩
  · exact Or.inl hcurrent

/-- Removing gives out no version to what stays. -/
theorem advances_remove (s : Store α) (version : Nat) (key : NamespacedName) :
    Advances version s (version + 1) (s.remove key) := by
  refine ⟨Nat.le_succ _, fun key' current hcurrent => ?_⟩
  rw [find_remove] at hcurrent
  split_ifs at hcurrent
  exact Or.inl hcurrent

/-- An update is given the next version. -/
theorem advances_update (s : Store α) (version : Nat) (o : α) :
    Advances version s (version + 1) (s.update version o).2 := by
  rcases update_cases s version o with ⟨e, heq⟩ | ⟨current, -, -, hput | ⟨-, hremove⟩⟩
  · rw [heq]
    exact Advances.skip s version
  · rw [hput]
    exact advances_put (by rw [metadata_asUpdated])
  · rw [hremove]
    exact advances_remove s version _

/-- So is an update of the status. -/
theorem advances_updateStatus (s : Store α) (version : Nat) (o : α) :
    Advances version s (version + 1) (s.updateStatus version o).2 := by
  rcases updateStatus_cases s version o with ⟨e, heq⟩ | ⟨current, -, heq⟩
  · rw [heq]
    exact Advances.skip s version
  · rw [heq]
    exact advances_put (by rw [metadata_withStatus])

/-- A write that cites an object that was read changes nothing, or takes the place of just that object, or takes it
away when it waits for no more finalizers. -/
theorem update_of_cited {edited : α} (hc : Cited s version o)
    (hkey : (Resource.metadata edited).key = (Resource.metadata o).key)
    (hversion : (Resource.metadata edited).resourceVersion = (Resource.metadata o).resourceVersion) :
    (s.update version edited).2 = s ∨ s.find (Resource.metadata o).key = some o ∧
      ((s.update version edited).2 = s.put (asUpdated version o edited) ∨
        terminating o = true ∧ (Resource.metadata edited).finalizers = [] ∧
          (s.update version edited).2 = s.remove (Resource.metadata o).key) := by
  unfold update
  rw [hkey]
  cases hfind : s.find (Resource.metadata o).key with
  | none => exact Or.inl rfl
  | some current =>
    dsimp only
    split_ifs with hstale hadded hlast
    · exact Or.inl rfl
    · exact Or.inl rfl
    · rw [not_not, hversion] at hstale
      obtain rfl := hc.same current hfind hstale.symm
      simp only [Bool.and_eq_true, List.isEmpty_iff] at hlast
      exact Or.inr ⟨rfl, Or.inr ⟨hlast.1, hlast.2, rfl⟩⟩
    · rw [not_not, hversion] at hstale
      obtain rfl := hc.same current hfind hstale.symm
      exact Or.inr ⟨rfl, Or.inl rfl⟩

end KubeCell.Store
