import Mathlib.Data.List.Basic

/-!
# Chains of checks

A function that checks one thing after another, and ends with the first fault: when such a chain passes.
-/

namespace KubeCell.Checks

variable {ε α β : Type}

/-- Two steps pass when the first does, and the second does with what the first ends with. -/
theorem bind_eq_ok {x : Except ε α} {f : α → Except ε β} {b : β} :
    (x >>= f) = .ok b ↔ ∃ a, x = .ok a ∧ f a = .ok b := by
  cases x with
  | error e => exact iff_of_false nofun fun ⟨_, h, _⟩ => nomatch h
  | ok a => exact ⟨fun h => ⟨a, rfl, h⟩, fun ⟨_, ha, h⟩ => Except.ok.inj ha ▸ h⟩

/-- A check that throws passes when there is no fault. -/
theorem ite_throw_eq_ok {p : Prop} [Decidable p] {e : ε} {f : α → Except ε β} {k : Except ε β} {b : β} :
    (if p then throw e >>= f else k) = .ok b ↔ ¬p ∧ k = .ok b := by
  by_cases hp : p
  · rw [if_pos hp]
    exact iff_of_false nofun fun h => h.1 hp
  · rw [if_neg hp]
    exact (and_iff_right hp).symm

/-- A check at the end of a chain. -/
theorem ite_throw_unit_eq_ok {p : Prop} [Decidable p] {e : ε} :
    (if p then throw e else pure () : Except ε Unit) = .ok () ↔ ¬p := by
  by_cases hp : p
  · rw [if_pos hp]
    exact iff_of_false nofun fun h => h hp
  · rw [if_neg hp]
    exact iff_of_true rfl hp

/-- An error with another text is an error still. -/
theorem mapError_eq_ok {ε' : Type} {x : Except ε α} {f : ε → ε'} {a : α} : x.mapError f = .ok a ↔ x = .ok a := by
  cases x with
  | error e => exact iff_of_false nofun nofun
  | ok b => exact ⟨fun h => by cases h; rfl, fun h => by cases h; rfl⟩

/-- A loop that can fail passes when every turn does. -/
theorem forM_eq_ok {f : α → Except ε Unit} {l : List α} : l.forM f = .ok () ↔ ∀ x ∈ l, f x = .ok () := by
  induction l with
  | nil => simp [pure, Except.pure]
  | cons a l ih =>
    rw [List.forM_eq_forM, List.forM_cons]
    cases h : f a with
    | error e => simp [bind, Except.bind, h]
    | ok _ => simpa [bind, Except.bind, h] using ih

end KubeCell.Checks
