import Mathlib.Logic.Relation

/-!
# Programs of calls

A program that talks to an outside world by calls: it ends with a value, or it issues a call and goes on with
whatever the world answers. Nothing is assumed of the answers, so a statement about every answer is a statement
about every environment. What a program does is read off its history, the list of the calls it has issued with
the answers it was given.

`Prog.Guarded` is the way statements about a program are made: every call it issues is permitted by the history
before it, and whatever it ends with is related to the history at the end. It is proved once, by walking through
the program, and every fact about what the program does in a world that changes under it is then a fact about
histories and permitted calls.
-/

namespace KubeCell

/-- A program over the calls `Op`: it has ended with a value, or it issues a call and continues with the answer. -/
inductive Prog (Op : Type) (Res : Op → Type) (α : Type) where
  | ret (a : α)
  | call (op : Op) (next : Res op → Prog Op Res α)

namespace Prog

variable {Op : Type} {Res : Op → Type} {α β γ E : Type}

/-- Run a program and go on with the value it ends with. -/
def bind (p : Prog Op Res α) (f : α → Prog Op Res β) : Prog Op Res β :=
  match p with
  | ret a => f a
  | call op next => call op fun r => (next r).bind f

instance : Monad (Prog Op Res) where
  pure := ret
  bind := bind

/-- The program that issues one call and ends with its answer. -/
def perform (op : Op) : Prog Op Res (Res op) := call op ret

@[simp] theorem pure_eq (a : α) : (pure a : Prog Op Res α) = ret a := rfl

@[simp] theorem ret_bind (a : α) (f : α → Prog Op Res β) : (ret a >>= f) = f a := rfl

@[simp] theorem call_bind (op : Op) (next : Res op → Prog Op Res α) (f : α → Prog Op Res β) :
    (call op next >>= f) = call op fun r => next r >>= f := rfl

@[simp] theorem perform_bind (op : Op) (f : Res op → Prog Op Res β) : (perform op >>= f) = call op f := rfl

/-- Running three programs one after the other does not depend on how they are grouped. -/
theorem bind_assoc (p : Prog Op Res α) (f : α → Prog Op Res β) (g : β → Prog Op Res γ) :
    (p >>= f) >>= g = p >>= fun a => f a >>= g := by
  induction p with
  | ret a => rfl
  | call op next ih =>
    simp only [call_bind]
    congr 1
    funext r
    exact ih r

instance : LawfulMonad (Prog Op Res) :=
  .mk' _
    (fun p => by
      induction p with
      | ret a => rfl
      | call op next ih => exact congrArg (Prog.call op) (funext fun r => ih r))
    (fun _ _ => rfl) bind_assoc

/-! ## Histories -/

section History

variable (obs : (op : Op) → Res op → E)

/-- `p` issues the calls recorded in `h`, is given the answers recorded there, and is then `q`. -/
inductive Reaches : Prog Op Res α → List E → Prog Op Res α → Prop where
  | refl (p : Prog Op Res α) : Reaches p [] p
  | call {op : Op} {next : Res op → Prog Op Res α} (r : Res op) {h : List E} {q : Prog Op Res α} :
      Reaches (next r) h q → Reaches (call op next) (obs op r :: h) q

variable {obs} in
/-- One more call is answered. -/
theorem Reaches.snoc {p : Prog Op Res α} {h : List E} {op : Op} {next : Res op → Prog Op Res α}
    (hr : Reaches obs p h (.call op next)) (r : Res op) : Reaches obs p (h ++ [obs op r]) (next r) := by
  generalize hq : Prog.call op next = q at hr
  induction hr with
  | refl p =>
    subst hq
    exact .call r (.refl _)
  | call r' _ ih => exact .call r' (ih hq)

/-- Every call the program issues is permitted by the history before it, and the value it ends with is related to the
history at the end, whatever the answers; `h` is the history before the program starts. -/
def Guarded (G : List E → Op → Prop) (Q : List E → α → Prop) : Prog Op Res α → List E → Prop
  | .ret a, h => Q h a
  | .call op next, h => G h op ∧ ∀ r, Guarded G Q (next r) (h ++ [obs op r])

variable {obs} {G : List E → Op → Prop} {Q : List E → α → Prop}

@[simp] theorem guarded_ret (a : α) (h : List E) : Guarded obs G Q (ret a) h ↔ Q h a := Iff.rfl

@[simp] theorem guarded_call (op : Op) (next : Res op → Prog Op Res α) (h : List E) :
    Guarded obs G Q (call op next) h ↔ G h op ∧ ∀ r, Guarded obs G Q (next r) (h ++ [obs op r]) := Iff.rfl

/-- A sequence of two programs is guarded when the first is, and the second is from every
history the first ends with. -/
theorem guarded_bind {R : List E → β → Prop} (p : Prog Op Res α) (f : α → Prog Op Res β) (h : List E) :
    Guarded obs G R (p >>= f) h ↔ Guarded obs G (fun h' a => Guarded obs G R (f a) h') p h := by
  induction p generalizing h with
  | ret a => exact Iff.rfl
  | call op next ih =>
    simp only [call_bind, guarded_call]
    exact and_congr_right fun _ => forall_congr' fun r => ih r _

/-- A program stays guarded when more is permitted and less is asked at the end. -/
theorem Guarded.mono {G' : List E → Op → Prop} {Q' : List E → α → Prop} (hG : ∀ h op, G h op → G' h op)
    (hQ : ∀ h a, Q h a → Q' h a) {p : Prog Op Res α} {h : List E} (hp : Guarded obs G Q p h) :
    Guarded obs G' Q' p h := by
  induction p generalizing h with
  | ret a => exact hQ h a hp
  | call op next ih => exact ⟨hG h op hp.1, fun r => ih r (hp.2 r)⟩

/-- A program is guarded where everything is permitted and nothing is asked. -/
theorem guarded_of_forall (hG : ∀ h op, G h op) (hQ : ∀ h a, Q h a) (p : Prog Op Res α) (h : List E) :
    Guarded obs G Q p h := by
  induction p generalizing h with
  | ret a => exact hQ h a
  | call op next ih => exact ⟨hG h op, fun r => ih r _⟩

/-- A program may be guarded in two ways at once. -/
theorem Guarded.and {G' : List E → Op → Prop} {Q' : List E → α → Prop} {p : Prog Op Res α} {h : List E}
    (hp : Guarded obs G Q p h) (hp' : Guarded obs G' Q' p h) :
    Guarded obs (fun h op => G h op ∧ G' h op) (fun h a => Q h a ∧ Q' h a) p h := by
  induction p generalizing h with
  | ret a => exact ⟨hp, hp'⟩
  | call op next ih => exact ⟨⟨hp.1, hp'.1⟩, fun r => ih r (hp.2 r) (hp'.2 r)⟩

/-- What is left of a guarded program is guarded by the longer history. -/
theorem Guarded.reaches {p q : Prog Op Res α} {h₀ h : List E} (hp : Guarded obs G Q p h₀) (hr : Reaches obs p h q) :
    Guarded obs G Q q (h₀ ++ h) := by
  induction hr generalizing h₀ with
  | refl p => simpa using hp
  | call r _ ih =>
    have := ih (hp.2 r)
    simpa using this

/-- The last call of a history was permitted by what came before it. -/
theorem Guarded.reaches_last {p q : Prog Op Res α} {h₀ h : List E} {e : E} (hp : Guarded obs G Q p h₀)
    (hr : Reaches obs p (h ++ [e]) q) : ∃ op r, e = obs op r ∧ G (h₀ ++ h) op := by
  induction h generalizing p h₀ with
  | nil =>
    cases hr with
    | @call op next r h q _ => exact ⟨op, r, rfl, by simpa using hp.1⟩
  | cons e' h ih =>
    cases hr with
    | @call op next r h' q hrest =>
      obtain ⟨op', r', heq, hG⟩ := ih (hp.2 r) hrest
      exact ⟨op', r', heq, by simpa using hG⟩

/-- A program all of whose calls are neutral is guarded: it is enough that neutral calls are permitted, and that what
is asked at the end holds of every extension of the history by neutral calls. -/
def Neutral (N : Op → Prop) : Prog Op Res α → Prop
  | .ret _ => True
  | .call op next => N op ∧ ∀ r, Neutral N (next r)

/-- Neutral parts make a neutral program. -/
theorem Neutral.bind {N : Op → Prop} {p : Prog Op Res α} {f : α → Prog Op Res β} (hp : Neutral N p)
    (hf : ∀ a, Neutral N (f a)) : Neutral N (p >>= f) := by
  induction p with
  | ret a => exact hf a
  | call op next ih => exact ⟨hp.1, fun r => ih r (hp.2 r)⟩

/-- Less may be asked of its calls. -/
theorem Neutral.mono {N N' : Op → Prop} (hN : ∀ op, N op → N' op) {p : Prog Op Res α}
    (hp : Neutral N p) : Neutral N' p := by
  induction p with
  | ret a => trivial
  | call op next ih => exact ⟨hN op hp.1, fun r => ih r (hp.2 r)⟩

/-- A loop of neutral turns is neutral. -/
theorem Neutral.foldlM {N : Op → Prop} {f : β → γ → Prog Op Res β} (hf : ∀ b c, Neutral N (f b c)) (l : List γ)
    (b : β) :
    Neutral N (l.foldlM f b) := by
  induction l generalizing b with
  | nil => trivial
  | cons c l ih =>
    rw [List.foldlM_cons]
    exact (hf b c).bind ih

/-- So is a loop that collects the values of its turns. -/
theorem Neutral.mapM {N : Op → Prop} {f : γ → Prog Op Res β} (hf : ∀ c, Neutral N (f c)) (l : List γ) :
    Neutral N (l.mapM f) := by
  induction l with
  | nil => trivial
  | cons c l ih =>
    rw [List.mapM_cons]
    exact (hf c).bind fun b => ih.bind fun bs => trivial

/-- The rule for neutral programs: an invariant `J` of the history that neutral calls keep, and that permits neutral
calls, holds when the program ends. -/
theorem Neutral.guarded {N : Op → Prop} {J : List E → Prop} (hG : ∀ h op, J h → N op → G h op)
    (hJ : ∀ h op r, J h → N op → J (h ++ [obs op r])) {p : Prog Op Res α} (hp : Neutral N p) {h : List E} (h₀ : J h)
    (hQ : ∀ h' a, J h' → Q h' a) : Guarded obs G Q p h := by
  induction p generalizing h with
  | ret a => exact hQ h a h₀
  | call op next ih => exact ⟨hG h op h₀ hp.1, fun r => ih r (hp.2 r) (hJ h op r h₀ hp.1)⟩

/-! ## What a program ends with -/

/-- When all its answers are of a kind, the program ends with a value of a kind. -/
def Ends (obs : (op : Op) → Res op → E) (K : E → Prop) (R : α → Prop) (p : Prog Op Res α) : Prop :=
  ∀ h a, Reaches obs p h (.ret a) → (∀ e ∈ h, K e) → R a

variable {K : E → Prop} {R : α → Prop}

/-- A program that is over ends as it does. -/
theorem ends_ret {a : α} (ha : R a) : Ends obs K R (.ret a) := by
  intro h b hr _
  cases hr with
  | refl => exact ha

/-- One that calls ends as it does after each answer. -/
theorem ends_call {op : Op} {next : Res op → Prog Op Res α} (hnext : ∀ r, K (obs op r) → Ends obs K R (next r)) :
    Ends obs K R (.call op next) := by
  intro h a hr hK
  cases hr with
  | @call _ _ r h _ hrest =>
    exact hnext r (hK _ List.mem_cons_self) h a hrest fun e he => hK e (List.mem_cons_of_mem _ he)

/-- The rule for a sequence of two programs. -/
theorem Ends.bind {S : β → Prop} {p : Prog Op Res α} {f : α → Prog Op Res β} (hp : Ends obs K R p)
    (hf : ∀ a, R a → Ends obs K S (f a)) :
    Ends obs K S (p >>= f) := by
  induction p with
  | ret a =>
    intro h b hr hK
    exact hf a (hp [] a (.refl _) fun e he => nomatch he) h b hr hK
  | call op next ih =>
    refine ends_call fun r hr => ih r fun h a hreaches hK => ?_
    refine hp (obs op r :: h) a (.call r hreaches) fun e he => ?_
    rcases List.mem_cons.mp he with rfl | he
    · exact hr
    · exact hK e he

/-- The rule for a loop that goes along with a pure one. -/
theorem ends_foldlM {f : β → γ → Prog Op Res β} {g : β → γ → β} (hf : ∀ b c, Ends obs K (· = g b c) (f b c))
    (l : List γ) (b : β) :
    Ends obs K (· = l.foldl g b) (l.foldlM f b) := by
  induction l generalizing b with
  | nil => exact ends_ret rfl
  | cons c l ih =>
    rw [List.foldlM_cons, List.foldl_cons]
    refine (hf b c).bind ?_
    rintro _ rfl
    exact ih _

/-! ## What comes after an answer -/

/-- Whatever the calls of the program are answered: a call, its answer and what is left of the
program then are related. -/
def Answered (N : (op : Op) → Res op → Prog Op Res α → Prop) : Prog Op Res α → Prop
  | .ret _ => True
  | .call op next => ∀ r, N op r (next r) ∧ Answered N (next r)

/-- The last call of a history is related to what is left. -/
theorem Answered.reaches_last {N : (op : Op) → Res op → Prog Op Res α → Prop} {p q : Prog Op Res α} {h : List E} {e : E}
    (hp : Answered N p) (hr : Reaches obs p (h ++ [e]) q) : ∃ op r, e = obs op r ∧ N op r q := by
  induction h generalizing p with
  | nil =>
    cases hr with
    | @call op next r h q hrest =>
      have hN := (hp r).1
      generalize next r = rest at hrest hN
      cases hrest with
      | refl => exact ⟨op, r, rfl, hN⟩
  | cons e' h ih =>
    cases hr with
    | @call op next r h' q hrest => exact ih (hp r).2 hrest

/-- A program whose calls are neutral, and are related to anything, may come before another one. -/
theorem Neutral.answered_bind {M : Op → Prop} {N : (op : Op) → Res op → Prog Op Res β → Prop}
    (hM : ∀ op r q, M op → N op r q) {p : Prog Op Res α} (hp : Neutral M p) {f : α → Prog Op Res β}
    (hf : ∀ a, Answered N (f a)) : Answered N (p >>= f) := by
  induction p with
  | ret a => exact hf a
  | call op next ih => exact fun r => ⟨hM op r _ hp.1, ih r (hp.2 r)⟩

/-- A program whose calls need no answer is answered. -/
theorem Neutral.answered {M : Op → Prop} {N : (op : Op) → Res op → Prog Op Res α → Prop}
    (hM : ∀ op r q, M op → N op r q) {p : Prog Op Res α} (hp : Neutral M p) : Answered N p := by
  induction p with
  | ret a => trivial
  | call op next ih => exact fun r => ⟨hM op r _ hp.1, ih r (hp.2 r)⟩

end History

end Prog
end KubeCell
