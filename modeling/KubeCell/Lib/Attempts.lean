import Mathlib.Data.List.Basic

/-!
# A loop that tries one after the other

A program that goes over a list until one member gives a result. An attempt that fails is remembered and the next
member is tried; an attempt may also end the loop.
-/

namespace KubeCell

variable {ε α β : Type}

/-- What an attempt comes to. -/
inductive Turn (ε β : Type) where
  | done (result : β)
  | failed (e : ε)
  | ended (e : ε)

/-- The loop, from the attempt with the given number on; `exhausted` makes the error of the last failure. -/
def tryEach (attempt : Nat → α → Turn ε β) (exhausted : Option ε → ε) : Nat → Option ε → List α → Except ε β
  | _, lastErr, [] => .error (exhausted lastErr)
  | number, _, x :: rest =>
    match attempt number x with
    | .done result => .ok result
    | .failed e => tryEach attempt exhausted (number + 1) (some e) rest
    | .ended e => .error e

/-- The loop gives the result of the first attempt that does not fail. -/
theorem tryEach_eq_ok {attempt : Nat → α → Turn ε β} {exhausted : Option ε → ε} {number : Nat} {lastErr : Option ε}
    {l : List α} {result : β} : tryEach attempt exhausted number lastErr l = .ok result ↔
      ∃ before x after, l = before ++ x :: after ∧ attempt (number + before.length) x = .done result ∧
        ∀ i (h : i < before.length), ∃ e, attempt (number + i) before[i] = .failed e := by
  induction l generalizing number lastErr with
  | nil => simp [tryEach]
  | cons y rest ih =>
    have hnumber (k : Nat) : number + 1 + k = number + (k + 1) := by omega
    constructor
    · intro h
      rw [tryEach] at h
      split at h
      case h_1 r hy =>
        cases h
        exact ⟨[], y, rest, rfl, hy, nofun⟩
      case h_2 e hy =>
        obtain ⟨before, x, after, rfl, hx, hbefore⟩ := ih.mp h
        refine ⟨y :: before, x, after, rfl, ?_, fun i hi => ?_⟩
        · rwa [List.length_cons, ← hnumber]
        · cases i with
          | zero => exact ⟨e, hy⟩
          | succ i =>
            obtain ⟨e', he'⟩ := hbefore i (by simpa using hi)
            exact ⟨e', by rw [← he', hnumber, List.getElem_cons_succ]⟩
      case h_3 => cases h
    · rintro ⟨before, x, after, hl, hx, hbefore⟩
      cases before with
      | nil =>
        obtain ⟨rfl, rfl⟩ := List.cons.inj hl
        rw [tryEach]
        rw [show number + [].length = number from rfl] at hx
        rw [hx]
      | cons z before =>
        obtain ⟨rfl, rfl⟩ := List.cons.inj hl
        obtain ⟨e, he⟩ := hbefore 0 (by simp)
        rw [tryEach, show attempt number y = .failed e from he]
        refine ih.mpr ⟨before, x, after, rfl, ?_, fun i hi => ?_⟩
        · rwa [List.length_cons, ← hnumber] at hx
        · obtain ⟨e', he'⟩ := hbefore (i + 1) (by simpa using hi)
          exact ⟨e', by rw [← he', hnumber, List.getElem_cons_succ]⟩

end KubeCell
