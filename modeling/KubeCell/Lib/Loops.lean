import Mathlib.Data.List.Basic

/-!
# A loop inside a loop over the same list

What a program gathers that goes over a list again for each of its members, where each member was to be met once.
-/

namespace KubeCell.Loops

variable {α β : Type}

/-- What is gathered when the whole list is gone over for each member. -/
def crossed (f : α → α → Option β) (l : List α) : List β := l.flatMap fun x => l.filterMap (f x)

/-- What is gathered when each member is met with itself only. -/
def diagonal (f : α → α → Option β) (l : List α) : List β := l.filterMap fun x => f x x

/-- Members at different places give nothing. -/
def Uncrossed (f : α → α → Option β) (l : List α) : Prop := l.Pairwise fun x y => f x y = none ∧ f y x = none

theorem diagonal_cons (f : α → α → Option β) (x : α) (l : List α) :
    diagonal f (x :: l) = (f x x).toList ++ diagonal f l := by
  unfold diagonal
  rw [List.filterMap_cons]
  cases f x x <;> rfl

/-- Where members at different places give nothing, the inner loop does no harm. -/
theorem crossed_eq_diagonal {f : α → α → Option β} {l : List α} (h : Uncrossed f l) : crossed f l = diagonal f l := by
  induction l with
  | nil => rfl
  | cons x l ih =>
    obtain ⟨hx, hl⟩ := List.pairwise_cons.mp h
    have hhead : (x :: l).filterMap (f x) = (f x x).toList := by
      have hrest : l.filterMap (f x) = [] := List.filterMap_eq_nil_iff.mpr fun y hy => (hx y hy).1
      rw [List.filterMap_cons, hrest]
      cases f x x <;> rfl
    have htail : (l.flatMap fun y => (x :: l).filterMap (f y)) = crossed f l := by
      refine List.flatMap_congr fun y hy => ?_
      rw [List.filterMap_cons, (hx y hy).2]
    rw [crossed, List.flatMap_cons, hhead, htail, ih hl, diagonal_cons]

/-- The inner loop gives at least what the members give with themselves, and nothing more exactly where members at
different places give nothing. -/
theorem length_crossed (f : α → α → Option β) (l : List α) :
    ∃ excess, (crossed f l).length = (diagonal f l).length + excess ∧ (excess = 0 ↔ Uncrossed f l) := by
  induction l with
  | nil => exact ⟨0, rfl, by simp [Uncrossed]⟩
  | cons x l ih =>
    obtain ⟨excess, hlength, hzero⟩ := ih
    -- a member of the list meets `x` once more than it met the rest
    have htail : ∀ m : List α, (m.flatMap fun y => (x :: l).filterMap (f y)).length =
        (m.filterMap fun y => f y x).length + (m.flatMap fun y => l.filterMap (f y)).length := by
      intro m
      induction m with
      | nil => rfl
      | cons y m ihm =>
        rw [List.flatMap_cons, List.length_append, ihm, List.flatMap_cons, List.length_append, List.filterMap_cons,
          List.filterMap_cons]
        cases f y x <;> simp only [List.length_cons] <;> omega
    have hhead : ((x :: l).filterMap (f x)).length = (f x x).toList.length + (l.filterMap (f x)).length := by
      rw [List.filterMap_cons]
      cases f x x <;> simp only [Option.toList_none, Option.toList_some, List.length_cons, List.length_nil] <;> omega
    refine ⟨(l.filterMap (f x)).length + (l.filterMap fun y => f y x).length + excess, ?_, ?_⟩
    · rw [crossed] at hlength
      rw [crossed, List.flatMap_cons, List.length_append, hhead, htail, hlength, diagonal_cons, List.length_append]
      omega
    · rw [Uncrossed, List.pairwise_cons, ← Uncrossed, ← hzero, Nat.add_eq_zero_iff, Nat.add_eq_zero_iff,
        List.length_eq_zero_iff,
        List.length_eq_zero_iff, List.filterMap_eq_nil_iff, List.filterMap_eq_nil_iff]
      constructor
      · rintro ⟨⟨hxy, hyx⟩, hexcess⟩
        exact ⟨fun y hy => ⟨hxy y hy, hyx y hy⟩, hexcess⟩
      · rintro ⟨hx, hexcess⟩
        exact ⟨⟨fun y hy => (hx y hy).1, fun y hy => (hx y hy).2⟩, hexcess⟩

/-- For several lists: together they give what their members give with themselves exactly where each of them does. -/
theorem flatMap_crossed_iff {ι : Type} (f : ι → α → α → Option β) (list : ι → List α) (items : List ι) :
    (items.flatMap fun i => crossed (f i) (list i)) = (items.flatMap fun i => diagonal (f i) (list i)) ↔
      ∀ i ∈ items, Uncrossed (f i) (list i) := by
  constructor
  · intro heq
    have hlengths : ∀ m : List ι, ∃ excess, (m.flatMap fun i => crossed (f i) (list i)).length =
        (m.flatMap fun i => diagonal (f i) (list i)).length + excess ∧
          (excess = 0 → ∀ i ∈ m, Uncrossed (f i) (list i)) := by
      intro m
      induction m with
      | nil => exact ⟨0, rfl, fun _ i hi => nomatch hi⟩
      | cons i m ih =>
        obtain ⟨excess, hlength, hzero⟩ := ih
        obtain ⟨excess', hlength', hzero'⟩ := length_crossed (f i) (list i)
        refine ⟨excess' + excess, ?_, ?_⟩
        · rw [List.flatMap_cons, List.flatMap_cons, List.length_append, List.length_append, hlength, hlength']
          omega
        · intro hsum j hj
          rcases List.mem_cons.mp hj with rfl | hj
          · exact hzero'.mp (by omega)
          · exact hzero (by omega) j hj
    obtain ⟨excess, hlength, hzero⟩ := hlengths items
    rw [heq] at hlength
    exact hzero (by omega)
  · intro h
    exact List.flatMap_congr fun i hi => crossed_eq_diagonal (h i hi)

end KubeCell.Loops
