import Mathlib.Logic.Function.Basic
import KubeCell.Lib.Rounds

/-!
# Workers side by side

A pool of workers over one world: each runs its own programs, one round at a time, and the calls of all of them are
interleaved in any way. Seen from one worker, the calls of the others are changes that the world makes by itself; when
they are changes that the worker reckons with, what is known of the worker alone (`Sys`) is true of it in the pool
(`Pool.Reachable.project`).
-/

namespace KubeCell

variable {ι W E Op α : Type} {Res : Op → Type}

/-- The state of a pool: the world, and the running round of every worker that has one. -/
structure Pool (ι W E Op : Type) (Res : Op → Type) (α : Type) where
  world : W
  rounds : ι → Option (List E × Prog Op Res α)

namespace Pool

/-- How a pool is made up: as a system of rounds is, but every worker has programs of its own. -/
structure Model (ι W E Op : Type) (Res : Op → Type) (α : Type) where
  exec : W → (op : Op) → Res op → W → Prop
  obs : (op : Op) → Res op → E
  env : W → W → Prop
  starts : ι → Prog Op Res α → Prop

/-- One of the workers by itself, in a world that changes as `env` says. -/
def Model.component (P : Model ι W E Op Res α) (i : ι) (env : W → W → Prop) : Sys.Model W E Op Res α where
  exec := P.exec
  obs := P.obs
  env := env
  starts := P.starts i

variable [DecidableEq ι] (P : Model ι W E Op Res α)

/-- One step of a pool: the world changes by itself, or one of the workers makes a step. -/
inductive Step : Pool ι W E Op Res α → Pool ι W E Op Res α → Prop where
  | env {w w' : W} {rounds : ι → Option (List E × Prog Op Res α)} : P.env w w' → Step ⟨w, rounds⟩ ⟨w', rounds⟩
  | start {w : W} {rounds : ι → Option (List E × Prog Op Res α)} {i : ι} {p : Prog Op Res α} :
    rounds i = none → P.starts i p →
      Step ⟨w, rounds⟩ ⟨w, Function.update rounds i (some ([], p))⟩
  | call {w w' : W} {rounds : ι → Option (List E × Prog Op Res α)} {i : ι} {h : List E} {op : Op}
    {next : Res op → Prog Op Res α}
      {r : Res op} : rounds i = some (h, .call op next) → P.exec w op r w' →
      Step ⟨w, rounds⟩ ⟨w', Function.update rounds i (some (h ++ [P.obs op r], next r))⟩
  | stop {w : W} {rounds : ι → Option (List E × Prog Op Res α)} {i : ι} {o : List E × Prog Op Res α} :
    rounds i = some o →
      Step ⟨w, rounds⟩ ⟨w, Function.update rounds i none⟩

/-- The states a run can reach from a world that satisfies `init`, with no round running. -/
inductive Reachable (init : W → Prop) : Pool ι W E Op Res α → Prop where
  | init {w : W} : init w → Reachable init ⟨w, fun _ => none⟩
  | step {s s' : Pool ι W E Op Res α} : Reachable init s → Step P s s' → Reachable init s'

/-- The invariant of a pool: as that of a system of rounds, for every worker. -/
def Holds (I : W → Prop) (K : ι → W → List E → Prop) (G : ι → List E → Op → Prop) (s : Pool ι W E Op Res α) : Prop :=
  I s.world ∧ ∀ i h p, s.rounds i = some (h, p) → K i s.world h ∧ Prog.Guarded P.obs (G i) (fun _ _ => True) p h

variable {P} {I : W → Prop} {K : ι → W → List E → Prop} {G : ι → List E → Op → Prop} {init : W → Prop}

/-- The round of a worker after that of one worker was set. -/
theorem round_update {rounds : ι → Option (List E × Prog Op Res α)} {i j : ι} {o x : Option (List E × Prog Op Res α)}
    (h : Function.update rounds i o j = x) : j = i ∧ o = x ∨ j ≠ i ∧ rounds j = x := by
  by_cases hj : j = i
  · subst hj
    rw [Function.update_self] at h
    exact Or.inl ⟨rfl, h⟩
  · rw [Function.update_of_ne hj] at h
    exact Or.inr ⟨hj, h⟩

/-- The rule for pools: besides what is asked of one worker, its calls keep what the histories of the others tell. -/
theorem invariant (hinit : ∀ w, init w → I w) (hstart : ∀ i w, I w → K i w [])
    (hprog : ∀ i p, P.starts i p → Prog.Guarded P.obs (G i) (fun _ _ => True) p [])
    (henv : ∀ w w', P.env w w' → I w → I w' ∧ ∀ i h, K i w h → K i w' h)
    (hcall : ∀ i w op r w' h, I w → K i w h → G i h op → P.exec w op r w' →
      I w' ∧ K i w' (h ++ [P.obs op r]) ∧ ∀ j h', j ≠ i → K j w h' → K j w' h')
    {s : Pool ι W E Op Res α} (hs : Reachable P init s) : Holds P I K G s := by
  induction hs with
  | init hw => exact ⟨hinit _ hw, fun i h p hround => by cases hround⟩
  | step _ hstep ih =>
    obtain ⟨hI, hrounds⟩ := ih
    cases hstep with
    | env he =>
      obtain ⟨hI', hK'⟩ := henv _ _ he hI
      exact ⟨hI', fun i h p hround => ⟨hK' i h (hrounds i h p hround).1, (hrounds i h p hround).2⟩⟩
    | @start w rounds i p hnone hp =>
      refine ⟨hI, fun j h q hround => ?_⟩
      obtain ⟨rfl, hnew⟩ | ⟨-, hold⟩ := round_update hround
      · cases hnew
        exact ⟨hstart j w hI, hprog j _ hp⟩
      · exact hrounds j h q hold
    | @call w w' rounds i h op next r hbefore hx =>
      obtain ⟨hK, hG⟩ := hrounds i h _ hbefore
      obtain ⟨hI', hK', hothers⟩ := hcall i w op r w' h hI hK hG.1 hx
      refine ⟨hI', fun j h' q hround => ?_⟩
      obtain ⟨rfl, hnew⟩ | ⟨hj, hold⟩ := round_update hround
      · cases hnew
        exact ⟨hK', hG.2 r⟩
      · exact ⟨hothers j h' hj (hrounds j h' q hold).1, (hrounds j h' q hold).2⟩
    | @stop w rounds i o hbefore =>
      refine ⟨hI, fun j h q hround => ?_⟩
      obtain ⟨rfl, hnew⟩ | ⟨-, hold⟩ := round_update hround
      · cases hnew
      · exact hrounds j h q hold

/-- Where the world and the other workers make only changes that a worker reckons with, it is in the pool in a state
that it reaches by itself. -/
theorem Reachable.project {i : ι} {env : W → W → Prop} (hholds : ∀ s, Reachable P init s → Holds P I K G s)
    (henv : ∀ w w', I w → P.env w w' → env w w')
    (hother : ∀ j, j ≠ i → ∀ w op r w' h, I w → K j w h → G j h op → P.exec w op r w' → env w w')
    {s : Pool ι W E Op Res α} (hs : Reachable P init s) :
    Sys.Reachable (P.component i env) init ⟨s.world, s.rounds i⟩ := by
  induction hs with
  | init hw => exact .init hw
  | step hbefore hstep ih =>
    obtain ⟨hI, hrounds⟩ := hholds _ hbefore
    cases hstep with
    | env he => exact .step ih (.env (henv _ _ hI he))
    | @start w rounds j p hnone hp =>
      change Sys.Reachable (P.component i env) init ⟨w, rounds i⟩ at ih
      change Sys.Reachable (P.component i env) init ⟨w, Function.update rounds j (some ([], p)) i⟩
      by_cases hj : i = j
      · subst hj
        rw [hnone] at ih
        rw [Function.update_self]
        exact .step ih (.start hp)
      · rw [Function.update_of_ne hj]
        exact ih
    | @call w w' rounds j h op next r hround hx =>
      change Sys.Reachable (P.component i env) init ⟨w, rounds i⟩ at ih
      change Sys.Reachable (P.component i env) init ⟨w', Function.update rounds j _ i⟩
      by_cases hj : i = j
      · subst hj
        rw [hround] at ih
        rw [Function.update_self]
        exact .step ih (.call hx)
      · rw [Function.update_of_ne hj]
        obtain ⟨hK, hG⟩ := hrounds j h _ hround
        exact .step ih (.env (hother j (Ne.symm hj) w op r w' h hI hK hG.1 hx))
    | @stop w rounds j o hround =>
      change Sys.Reachable (P.component i env) init ⟨w, rounds i⟩ at ih
      change Sys.Reachable (P.component i env) init ⟨w, Function.update rounds j none i⟩
      by_cases hj : i = j
      · subst hj
        rw [hround] at ih
        rw [Function.update_self]
        exact .step ih .stop
      · rw [Function.update_of_ne hj]
        exact ih

/-- A worker may go on by itself for a while. -/
theorem Reachable.runs {w w' : W} {rounds : ι → Option (List E × Prog Op Res α)} {i : ι} {p q : Prog Op Res α}
    {h₀ h : List E} (hs : Reachable P init ⟨w, Function.update rounds i (some (h₀, p))⟩)
    (hr : Prog.Runs P.exec P.obs w p h w' q) :
    Reachable P init ⟨w', Function.update rounds i (some (h₀ ++ h, q))⟩ := by
  induction hr generalizing h₀ with
  | refl w p =>
    rw [List.append_nil]
    exact hs
  | @call w w₁ w' op next r h q hx _ ih =>
    have hnext := Reachable.step hs (.call (Function.update_self ..) hx)
    rw [Function.update_idem] at hnext
    have hrest := ih hnext
    rw [List.append_assoc] at hrest
    exact hrest

end Pool
end KubeCell
