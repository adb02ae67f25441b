import KubeCell.Lib.Prog
import Mathlib.Data.List.Chain

/-!
# Rounds in a world that changes under them

A worker runs one program after another, one at a time, against a world: each call is answered by the world (`exec`),
between any two calls the world may change by itself (`env`), and a round may be stopped at any point, whether it has
ended or not. This is how a reconciler works: its rounds for one object never overlap, each may be cut off after any
call, and everybody else goes on in between.

The rule for such a system (`Sys.invariant`) has two parts: an invariant `I` of the world, and a relation `K` that says
what the history of the running round still tells about the world. The programs enter only through `Prog.Guarded`.
-/

namespace KubeCell

variable {Op : Type} {Res : Op → Type} {W E α : Type}

/-- The state of a system of rounds: the world, and the running round, if there is one, as its history
and what is left of it. -/
structure Sys (W E Op : Type) (Res : Op → Type) (α : Type) where
  world : W
  round : Option (List E × Prog Op Res α)

namespace Sys

/-- How a system of rounds is made up: how the world answers a call, what is recorded of a call, which changes the
world makes by itself, and which programs may be started. -/
structure Model (W E Op : Type) (Res : Op → Type) (α : Type) where
  exec : W → (op : Op) → Res op → W → Prop
  obs : (op : Op) → Res op → E
  env : W → W → Prop
  starts : Prog Op Res α → Prop

variable (M : Model W E Op Res α)

/-- One step of the system: the world changes by itself, a round starts, the running round has its next call answered,
or the running round is over (it has ended, or it was cut off). -/
inductive Step : Sys W E Op Res α → Sys W E Op Res α → Prop where
  | env {w w' : W} {o : Option (List E × Prog Op Res α)} : M.env w w' → Step ⟨w, o⟩ ⟨w', o⟩
  | start {w : W} {p : Prog Op Res α} : M.starts p → Step ⟨w, none⟩ ⟨w, some ([], p)⟩
  | call {w w' : W} {h : List E} {op : Op} {next : Res op → Prog Op Res α} {r : Res op} :
      M.exec w op r w' → Step ⟨w, some (h, .call op next)⟩ ⟨w', some (h ++ [M.obs op r], next r)⟩
  | stop {w : W} {o : List E × Prog Op Res α} : Step ⟨w, some o⟩ ⟨w, none⟩

/-- The states a run can reach from a world that satisfies `init`, with no round running. -/
inductive Reachable (init : W → Prop) : Sys W E Op Res α → Prop where
  | init {w : W} : init w → Reachable init ⟨w, none⟩
  | step {s s' : Sys W E Op Res α} : Reachable init s → Step M s s' → Reachable init s'

/-- The invariant of a system of rounds: the world satisfies `I`, the history of the running round is true of the
world (`K`), and what is left of the round is guarded by its history. -/
def Holds (I : W → Prop) (K : W → List E → Prop) (G : List E → Op → Prop) (s : Sys W E Op Res α) : Prop :=
  I s.world ∧ ∀ h p, s.round = some (h, p) → K s.world h ∧ Prog.Guarded M.obs G (fun _ _ => True) p h

variable {M} {I : W → Prop} {K : W → List E → Prop} {G : List E → Op → Prop}

/-- One step keeps the invariant of the system. -/
theorem Holds.step (hstart : ∀ w, I w → K w []) (hprog : ∀ p, M.starts p → Prog.Guarded M.obs G (fun _ _ => True) p [])
    (henv : ∀ w w', M.env w w' → I w → I w' ∧ ∀ h, K w h → K w' h)
    (hcall : ∀ w op r w' h, I w → K w h → G h op → M.exec w op r w' → I w' ∧ K w' (h ++ [M.obs op r]))
    {s s' : Sys W E Op Res α} (hs : Holds M I K G s) (h : Step M s s') : Holds M I K G s' := by
  obtain ⟨hI, hround⟩ := hs
  cases h with
  | env he =>
    obtain ⟨hI', hK'⟩ := henv _ _ he hI
    exact ⟨hI', fun h p hp => ⟨hK' h (hround h p hp).1, (hround h p hp).2⟩⟩
  | start hp =>
    refine ⟨hI, fun h p hr => ?_⟩
    simp only [Option.some.injEq, Prod.mk.injEq] at hr
    obtain ⟨rfl, rfl⟩ := hr
    exact ⟨hstart _ hI, hprog _ hp⟩
  | @call w w' h op next r hx =>
    obtain ⟨hK, hG⟩ := hround h _ rfl
    obtain ⟨hI', hK'⟩ := hcall _ _ _ _ _ hI hK hG.1 hx
    refine ⟨hI', fun h' p hr => ?_⟩
    simp only [Option.some.injEq, Prod.mk.injEq] at hr
    obtain ⟨rfl, rfl⟩ := hr
    exact ⟨hK', hG.2 r⟩
  | stop => exact ⟨hI, fun h p hr => nomatch hr⟩

/-- The rule for systems of rounds: what holds initially and is kept by the world's own changes and by every permitted
call holds in every reachable state, and the running round is guarded by its history there. -/
theorem invariant {init : W → Prop} (hinit : ∀ w, init w → I w) (hstart : ∀ w, I w → K w [])
    (hprog : ∀ p, M.starts p → Prog.Guarded M.obs G (fun _ _ => True) p [])
    (henv : ∀ w w', M.env w w' → I w → I w' ∧ ∀ h, K w h → K w' h)
    (hcall : ∀ w op r w' h, I w → K w h → G h op → M.exec w op r w' → I w' ∧ K w' (h ++ [M.obs op r]))
    {s : Sys W E Op Res α} (h : Reachable M init s) : Holds M I K G s := by
  induction h with
  | init hw => exact ⟨hinit _ hw, fun h p hr => nomatch hr⟩
  | step _ hst ih => exact ih.step hstart hprog henv hcall hst

end Sys

/-! ## A round by itself -/

namespace Prog

/-- `p` run by itself: the world takes it from `w` to `w'`, answering the calls recorded in `h`, and `q` is left. -/
inductive Runs (exec : W → (op : Op) → Res op → W → Prop) (obs : (op : Op) → Res op → E) :
    W → Prog Op Res α → List E → W → Prog Op Res α → Prop where
  | refl (w : W) (p : Prog Op Res α) : Runs exec obs w p [] w p
  | call {w w₁ w' : W} {op : Op} {next : Res op → Prog Op Res α} {r : Res op} {h : List E} {q : Prog Op Res α} :
      exec w op r w₁ → Runs exec obs w₁ (next r) h w' q → Runs exec obs w (.call op next) (obs op r :: h) w' q

variable {exec : W → (op : Op) → Res op → W → Prop} {obs : (op : Op) → Res op → E}

/-- What a round by itself does is something it does for some answers. -/
theorem Runs.reaches {w w' : W} {p q : Prog Op Res α} {h : List E}
    (hr : Runs exec obs w p h w' q) : Reaches obs p h q := by
  induction hr with
  | refl w p => exact .refl p
  | call hx _ ih => exact .call _ ih

/-- A round can be stopped in between. -/
theorem Runs.split {w w' : W} {p q : Prog Op Res α} {h₁ h₂ : List E} (hr : Runs exec obs w p (h₁ ++ h₂) w' q) :
    ∃ w₁ p₁, Runs exec obs w p h₁ w₁ p₁ ∧ Runs exec obs w₁ p₁ h₂ w' q := by
  induction h₁ generalizing w p with
  | nil => exact ⟨w, p, .refl w p, hr⟩
  | cons e h₁ ih =>
    cases hr with
    | call hx hrest =>
      obtain ⟨w₁, p₁, hfirst, hsecond⟩ := ih hrest
      exact ⟨w₁, p₁, .call hx hfirst, hsecond⟩

/-- The rule for a round by itself: a relation between the world and the history that every permitted call keeps holds
whenever the round is stopped. -/
theorem Runs.invariant {G : List E → Op → Prop} {Q : List E → α → Prop} {K : W → List E → Prop}
    (hcall : ∀ w op r w' h, K w h → G h op → exec w op r w' → K w' (h ++ [obs op r]))
    {w w' : W} {p q : Prog Op Res α} {h₀ h : List E} (hp : Guarded obs G Q p h₀) (hK : K w h₀)
    (hr : Runs exec obs w p h w' q) : K w' (h₀ ++ h) ∧ Guarded obs G Q q (h₀ ++ h) := by
  induction hr generalizing h₀ with
  | refl w p => simpa using ⟨hK, hp⟩
  | @call w w₁ w' op next r h q hx _ ih =>
    have := ih (hp.2 r) (hcall _ _ _ _ _ hK hp.1 hx)
    simpa using this

/-- A call that is answered after the world has changed by itself any number of times. -/
def Amid (env : W → W → Prop) (exec : W → (op : Op) → Res op → W → Prop) (w : W) (op : Op) (r : Res op)
    (w' : W) : Prop :=
  ∃ w₁, Relation.ReflTransGen env w w₁ ∧ exec w₁ op r w'

/-- The first `n` calls of a program, each answered by `serve`: the world, the history and what is left. -/
def drive (serve : W → (op : Op) → Res op × W) (obs : (op : Op) → Res op → E) :
    Nat → W → Prog Op Res α → W × List E × Prog Op Res α
  | 0, w, p => (w, [], p)
  | _ + 1, w, .ret a => (w, [], .ret a)
  | n + 1, w, .call op next =>
    let (r, w₁) := serve w op
    let (w', h, q) := drive serve obs n w₁ (next r)
    (w', obs op r :: h, q)

/-- The program has a call to make. -/
def isCall : Prog Op Res α → Bool
  | .ret _ => false
  | .call _ _ => true

/-- The last of the calls. -/
theorem drive_succ (serve : W → (op : Op) → Res op × W) (n : Nat) (w : W) (p : Prog Op Res α) {op : Op}
    {next : Res op → Prog Op Res α} (hleft : (drive serve obs n w p).2.2 = .call op next) :
    drive serve obs (n + 1) w p = ((serve (drive serve obs n w p).1 op).2,
      (drive serve obs n w p).2.1 ++ [obs op (serve (drive serve obs n w p).1 op).1],
        next (serve (drive serve obs n w p).1 op).1) := by
  induction n generalizing w p with
  | zero =>
    obtain rfl : p = .call op next := hleft
    rfl
  | succ n ih =>
    cases p with
    | ret a => nomatch hleft
    | call op' next' =>
      have hfirst : ∀ m, drive serve obs (m + 1) w (.call op' next') =
          ((drive serve obs m (serve w op').2 (next' (serve w op').1)).1,
            obs op' (serve w op').1 :: (drive serve obs m (serve w op').2 (next' (serve w op').1)).2.1,
            (drive serve obs m (serve w op').2 (next' (serve w op').1)).2.2) := fun _ => rfl
      rw [hfirst, ih _ _ hleft, hfirst, List.cons_append]

/-- Each of the first `n` calls, as `serve` answers them, meets the condition. -/
def driveAll (serve : W → (op : Op) → Res op × W) (condition : W → Op → Bool) : Nat → W → Prog Op Res α → Bool
  | n + 1, w, .call op next => condition w op && driveAll serve condition n (serve w op).2 (next (serve w op).1)
  | _, _, _ => true

/-- Answering the calls by a function that does what the world may do, in the calls that meet a condition,
is a run of such calls. -/
theorem runs_drive_of_all {serve : W → (op : Op) → Res op × W} {condition : W → Op → Bool}
    (hserve : ∀ w op, condition w op = true → exec w op (serve w op).1 (serve w op).2) (n : Nat) (w : W)
    (p : Prog Op Res α) (hall : driveAll serve condition n w p = true) :
    Runs exec obs w p (drive serve obs n w p).2.1 (drive serve obs n w p).1 (drive serve obs n w p).2.2 := by
  induction n generalizing w p with
  | zero => exact Runs.refl w p
  | succ n ih =>
    cases p with
    | ret a => exact Runs.refl w _
    | call op next =>
      obtain ⟨hfirst, hrest⟩ := Bool.and_eq_true_iff.mp hall
      exact Runs.call (hserve w op hfirst) (ih _ _ hrest)

/-- A condition that every call meets. -/
theorem driveAll_true (serve : W → (op : Op) → Res op × W) (n : Nat) (w : W) (p : Prog Op Res α) :
    driveAll serve (fun _ _ => true) n w p = true := by
  induction n generalizing w p with
  | zero => rfl
  | succ n ih =>
    cases p with
    | ret a => rfl
    | call op next => exact ih _ _

/-- Answering the calls by a function that does what the world may do is a run. -/
theorem runs_drive {serve : W → (op : Op) → Res op × W} (hserve : ∀ w op, exec w op (serve w op).1 (serve w op).2)
    (n : Nat) (w : W) (p : Prog Op Res α) :
    Runs exec obs w p (drive serve obs n w p).2.1 (drive serve obs n w p).1 (drive serve obs n w p).2.2 :=
  runs_drive_of_all (fun w op _ => hserve w op) n w p (driveAll_true serve n w p)

/-- The history is of such answers. -/
theorem mem_drive (serve : W → (op : Op) → Res op × W) (n : Nat) (w : W) (p : Prog Op Res α) {e : E}
    (he : e ∈ (drive serve obs n w p).2.1) : ∃ w' op, e = obs op (serve w' op).1 := by
  induction n generalizing w p with
  | zero => nomatch he
  | succ n ih =>
    cases p with
    | ret a => nomatch he
    | call op next =>
      rcases List.mem_cons.mp he with rfl | he
      · exact ⟨w, op, rfl⟩
      · exact ih _ _ he

/-- However the calls are answered, the program goes through them. -/
theorem reaches_drive (serve : W → (op : Op) → Res op × W) (n : Nat) (w : W) (p : Prog Op Res α) :
    Reaches obs p (drive serve obs n w p).2.1 (drive serve obs n w p).2.2 := by
  induction n generalizing w p with
  | zero => exact Reaches.refl p
  | succ n ih =>
    cases p with
    | ret a => exact Reaches.refl _
    | call op next => exact Reaches.call _ (ih _ _)

end Prog

namespace Sys

variable {M : Model W E Op Res α} {init : W → Prop}

/-- The running round of a reachable state is what is left of a program that was started. -/
theorem Reachable.round {s : Sys W E Op Res α} (hs : Reachable M init s) {h : List E} {p : Prog Op Res α}
    (hround : s.round = some (h, p)) : ∃ p₀, M.starts p₀ ∧ Prog.Reaches M.obs p₀ h p := by
  induction hs generalizing h p with
  | init => nomatch hround
  | step _ hstep ih =>
    cases hstep with
    | env => exact ih hround
    | start hstart =>
      cases hround
      exact ⟨p, hstart, .refl p⟩
    | call =>
      cases hround
      obtain ⟨p₀, hstart, hreaches⟩ := ih rfl
      exact ⟨p₀, hstart, hreaches.snoc _⟩
    | stop => nomatch hround

/-- A round that is reachable and goes on by itself is reachable where it is stopped. -/
theorem Reachable.runs {w w' : W} {p q : Prog Op Res α} {h₀ h : List E} (hs : Reachable M init ⟨w, some (h₀, p)⟩)
    (hr : Prog.Runs M.exec M.obs w p h w' q) : Reachable M init ⟨w', some (h₀ ++ h, q)⟩ := by
  induction hr generalizing h₀ with
  | refl w p => simpa using hs
  | call hx _ ih =>
    have := ih (Reachable.step hs (Step.call hx))
    simpa using this

/-- A call of a round by itself is a step. -/
theorem step_drive {serve : W → (op : Op) → Res op × W} (hserve : ∀ w op, M.exec w op (serve w op).1 (serve w op).2)
    (n : Nat) (w : W) (p : Prog Op Res α) (hcall : (Prog.drive serve M.obs n w p).2.2.isCall = true) :
    Step M ⟨(Prog.drive serve M.obs n w p).1, some (Prog.drive serve M.obs n w p).2⟩
      ⟨(Prog.drive serve M.obs (n + 1) w p).1, some (Prog.drive serve M.obs (n + 1) w p).2⟩ := by
  cases hleft : (Prog.drive serve M.obs n w p).2.2 with
  | ret a =>
    rw [hleft] at hcall
    nomatch hcall
  | call op next =>
    rw [Prog.drive_succ serve n w p hleft]
    have hround : (Prog.drive serve M.obs n w p).2 = ((Prog.drive serve M.obs n w p).2.1, .call op next) := by
      rw [← hleft]
    rw [hround]
    exact .call (hserve _ op)

/-- From a reachable state without a round, a round by itself leads to a reachable state when it is stopped. -/
theorem Reachable.wholeRound {w w' : W} {p q : Prog Op Res α} {h : List E} (hs : Reachable M init ⟨w, none⟩)
    (hstart : M.starts p) (hr : Prog.Runs M.exec M.obs w p h w' q) : Reachable M init ⟨w', none⟩ :=
  .step ((Reachable.step hs (.start hstart)).runs hr) .stop

/-! ## A run through a list of states -/

/-- The run through some states, which stays in the last. -/
def along (states : List (Sys W E Op Res α)) (last : Sys W E Op Res α) (n : Nat) : Sys W E Op Res α :=
  (states[n]?).getD last

section Along
variable {states : List (Sys W E Op Res α)} (last : Sys W E Op Res α)

/-- The run before the last state, and from there on. -/
theorem along_of_lt {n : Nat} (h : n < states.length) : along states last n = states[n] := by
  rw [along, List.getElem?_eq_getElem h, Option.getD_some]

@[inherit_doc along_of_lt] theorem along_of_le {n : Nat} (h : states.length ≤ n) : along states last n = last := by
  rw [along, List.getElem?_eq_none h, Option.getD_none]

/-- Each step of the run is a step of the system, if those between the states are and the last
state may stay as it is. -/
theorem step_along {last : Sys W E Op Res α} (hchain : (states ++ [last]).IsChain (Step M)) (hlast : Step M last last)
    (n : Nat) :
    Step M (along states last n) (along states last (n + 1)) := by
  rcases Nat.lt_trichotomy (n + 1) states.length with hn | hn | hn
  · have hstep := hchain.getElem n (by rw [List.length_append]; omega)
    rwa [List.getElem_append_left (by omega), List.getElem_append_left hn, ← along_of_lt last (by omega),
      ← along_of_lt last hn]
      at hstep
  · have hstep := hchain.getElem n (by rw [List.length_append, List.length_singleton]; omega)
    rw [along_of_lt last (by omega : n < states.length), along_of_le last hn.ge]
    rwa [List.getElem_append_left (by omega), List.getElem_append_right (by omega), List.getElem_singleton] at hstep
  · rw [along_of_le last (by omega), along_of_le last (by omega)]
    exact hlast

end Along

section Trail
variable (serve : W → (op : Op) → Res op × W) (obs : (op : Op) → Res op → E)

/-- The states of a round by itself, which is stopped after some calls. -/
def trail : Nat → W → List E → Prog Op Res α → List (Sys W E Op Res α)
  | n + 1, w, h, .call op next =>
    ⟨w, some (h, .call op next)⟩ :: trail n (serve w op).2 (h ++ [obs op (serve w op).1]) (next (serve w op).1)
  | 0, w, h, p => [⟨w, some (h, p)⟩, ⟨w, none⟩]
  | _, w, h, p => [⟨w, some (h, p)⟩, ⟨w, none⟩]

/-- They start with the round before its first call, and end with the world that it has come to. -/
theorem head?_trail (n : Nat) (w : W) (h : List E) (p : Prog Op Res α) :
    (trail serve obs n w h p).head? = some ⟨w, some (h, p)⟩ := by
  cases n <;> cases p <;> rfl

@[inherit_doc head?_trail] theorem getLast?_trail (n : Nat) (w : W) (h : List E) (p : Prog Op Res α) :
    (trail serve obs n w h p).getLast? = some ⟨(Prog.drive serve obs n w p).1, none⟩ := by
  induction n generalizing w h p with
  | zero => cases p <;> rfl
  | succ n ih =>
    cases p with
    | ret a => rfl
    | call op next =>
      rw [trail, List.getLast?_cons, ih]
      rfl

/-- They follow each other. -/
theorem isChain_trail {serve : W → (op : Op) → Res op × W}
    (hserve : ∀ w op, M.exec w op (serve w op).1 (serve w op).2) (n : Nat) (w : W) (h : List E) (p : Prog Op Res α) :
    (trail serve M.obs n w h p).IsChain (Step M) := by
  have hstop : ∀ (w : W) (h : List E) (p : Prog Op Res α),
      List.IsChain (Step M) [⟨w, some (h, p)⟩, ⟨w, none⟩] := fun _ _ _ => List.isChain_pair.mpr .stop
  induction n generalizing w h p with
  | zero => cases p <;> exact hstop ..
  | succ n ih =>
    cases p with
    | ret a => exact hstop ..
    | call op next =>
      rw [trail]
      refine List.isChain_cons.mpr ⟨fun s hs => ?_, ih ..⟩
      rw [head?_trail, Option.mem_some_iff] at hs
      exact hs ▸ .call (hserve w op)

end Trail
/-! ## The record of a run -/

/-- The system with a record of all calls that were answered, over all its rounds. -/
def Model.recorded (M : Model W E Op Res α) : Model (W × List E) E Op Res α where
  exec w op r w' := M.exec w.1 op r w'.1 ∧ w'.2 = w.2 ++ [M.obs op r]
  obs := M.obs
  env w w' := M.env w.1 w'.1 ∧ w'.2 = w.2
  starts := M.starts

/-- A state without the record. -/
def forget (s : Sys (W × List E) E Op Res α) : Sys W E Op Res α := ⟨s.world.1, s.round⟩

/-- A run that is recorded is a run. -/
theorem Reachable.forget {init : W × List E → Prop} {init' : W → Prop} (hinit : ∀ w, init w → init' w.1)
    {s : Sys (W × List E) E Op Res α} (hs : Reachable M.recorded init s) : Reachable M init' s.forget := by
  induction hs with
  | init hw => exact .init (hinit _ hw)
  | step _ hstep ih =>
    cases hstep with
    | env henv => exact .step ih (.env henv.1)
    | start hstart => exact .step ih (.start hstart)
    | call hx => exact .step ih (.call hx.1)
    | stop => exact .step ih .stop

/-- The calls of the running round are on record. -/
theorem Reachable.mem_record {init : W × List E → Prop} {s : Sys (W × List E) E Op Res α}
    (hs : Reachable M.recorded init s) {h : List E} {p : Prog Op Res α} (hround : s.round = some (h, p)) :
    ∀ e ∈ h, e ∈ s.world.2 := by
  induction hs generalizing h p with
  | init => nomatch hround
  | step _ hstep ih =>
    cases hstep with
    | env henv =>
      intro e he
      rw [henv.2]
      exact ih hround e he
    | start =>
      cases hround
      exact fun e he => nomatch he
    | call hx =>
      cases hround
      intro e he
      rw [hx.2]
      rcases List.mem_append.mp he with hold | hnew
      · exact List.mem_append_left _ (ih rfl e hold)
      · exact List.mem_append_right _ hnew
    | stop => nomatch hround

/-- Answer a call, and put it on record. -/
def record (serve : W → (op : Op) → Res op × W) (obs : (op : Op) → Res op → E) (w : W × List E) (op : Op) :
    Res op × (W × List E) :=
  ((serve w.1 op).1, (serve w.1 op).2, w.2 ++ [obs op (serve w.1 op).1])

end Sys
end KubeCell
