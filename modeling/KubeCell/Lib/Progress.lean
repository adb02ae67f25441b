import KubeCell.Lib.Rounds

/-!
# Rounds that come to their end

A round whose calls are all answered by a function of the world, with nothing in between, comes to an end, and what it
leaves behind is a function of the world it started in (`Prog.eval`). What such rounds achieve along a run in which
they keep occurring is shown by a rank that drops (`eventually_of_rank`).
-/

namespace KubeCell

variable {Op : Type} {Res : Op → Type} {W α β γ : Type}

namespace Prog

/-- The value a program ends with, and the world it leaves, when `serve` answers its calls. -/
def eval (serve : W → (op : Op) → Res op × W) : Prog Op Res α → W → α × W
  | .ret a, w => (a, w)
  | .call op next, w => eval serve (next (serve w op).1) (serve w op).2

variable {serve : W → (op : Op) → Res op × W}

@[simp] theorem eval_ret (a : α) (w : W) : eval serve (.ret a) w = (a, w) := rfl

@[simp] theorem eval_call (op : Op) (next : Res op → Prog Op Res α) (w : W) :
    eval serve (.call op next) w = eval serve (next (serve w op).1) (serve w op).2 := rfl

/-- A sequence of two programs: the second starts in the world the first leaves. -/
theorem eval_bind (p : Prog Op Res α) (f : α → Prog Op Res β) (w : W) :
    eval serve (p >>= f) w = eval serve (f (eval serve p w).1) (eval serve p w).2 := by
  induction p generalizing w with
  | ret a => rfl
  | call op next ih => exact ih _ _

/-- A program whose calls leave a part of the world alone leaves it alone. -/
theorem Neutral.eval_keeps {N : Op → Prop} (part : W → γ) (hN : ∀ w op, N op → part (serve w op).2 = part w)
    {p : Prog Op Res α} (hp : Neutral N p) (w : W) : part (eval serve p w).2 = part w := by
  induction p generalizing w with
  | ret a => rfl
  | call op next ih => exact (ih _ (hp.2 _) _).trans (hN w op hp.1)

end Prog

/-! ## Runs -/

/-- What must happen along a run: when from every point the goal is reached, or a rank drops, some time
later, the goal is reached. -/
theorem eventually_of_rank {S : Type} (run : Nat → S) {goal : S → Prop} (rank : S → Nat)
    (hprogress : ∀ n, ∃ m ≥ n, goal (run m) ∨ rank (run m) < rank (run n)) (n : Nat) : ∃ m ≥ n, goal (run m) := by
  induction hrank : rank (run n) using Nat.strongRecOn generalizing n with
  | _ r ih =>
    obtain ⟨m, hm, hgoal | hdrop⟩ := hprogress n
    · exact ⟨m, hm, hgoal⟩
    · obtain ⟨k, hk, hgoal⟩ := ih (rank (run m)) (hrank ▸ hdrop) m rfl
      exact ⟨k, Nat.le_trans hm hk, hgoal⟩

/-- What every step keeps holds from then on. -/
theorem persists_of_step {S : Type} (run : Nat → S) {P : S → Prop} (hstep : ∀ n, P (run n) → P (run (n + 1)))
    {n m : Nat} (hle : n ≤ m) (hn : P (run n)) : P (run m) := by
  induction hle with
  | refl => exact hn
  | step _ ih => exact hstep _ ih

end KubeCell
