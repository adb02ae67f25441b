import Mathlib.Data.List.Basic

/-!
# Regular expressions

Regular expressions as a backtracking matcher reads them: the ends of the matches at a position, those that are
tried first before the others. A search takes the first end at the first position that has one, and a scan goes on
where the last match ended.
-/

namespace KubeCell

variable {α : Type}

/-- A regular expression over letters; `star` is greedy. -/
inductive Regex (α : Type) where
  | empty
  | letter (p : α → Bool)
  | seq (r s : Regex α)
  | alt (r s : Regex α)
  | star (r : Regex α)
  | boundary (word : α → Bool)
  | ahead (r : Regex α)

namespace Regex

/-- `r?`. -/
def opt (r : Regex α) : Regex α := .alt r .empty

/-- `r+`. -/
def plus (r : Regex α) : Regex α := .seq r (.star r)

/-- One expression after the other. -/
def all : List (Regex α) → Regex α
  | [] => .empty
  | [r] => r
  | r :: rs => .seq r (all rs)

/-- The first of the expressions that matches. -/
def any : List (Regex α) → Regex α
  | [] => .letter fun _ => false
  | [r] => r
  | r :: rs => .alt r (any rs)

/-- The ends of a repetition: an iteration that consumes nothing is not taken, so there are no more of them
than letters are left. -/
def starEnds (ends : Nat → List Nat) : Nat → Nat → List Nat
  | 0, pos => [pos]
  | left + 1, pos => ((ends pos).filter fun stop => pos < stop).flatMap (starEnds ends left) ++ [pos]

/-- The ends of the matches that start at a position, in the order in which they are tried. -/
def ends (text : List α) : Regex α → Nat → List Nat
  | .empty, pos => [pos]
  | .letter p, pos =>
    match text[pos]? with
    | some c => if p c then [pos + 1] else []
    | none => []
  | .seq r s, pos => (r.ends text pos).flatMap fun stop => s.ends text stop
  | .alt r s, pos => r.ends text pos ++ s.ends text pos
  | .star r, pos => starEnds (fun start => r.ends text start) (text.length - pos) pos
  | .boundary word, pos => if (pos ≠ 0 && (text[pos - 1]?).any word) = (text[pos]?).any word then [] else [pos]
  | .ahead r, pos => if (r.ends text pos).isEmpty then [] else [pos]

/-- The search from a position on: where the first match starts and ends. -/
def exec (r : Regex α) (text : List α) (start : Nat) : Option (Nat × Nat) :=
  (List.range' start (text.length + 1 - start)).findSome? fun index =>
    ((r.ends text index).head?).map fun stop => (index, stop)

/-- Whether an expression matches somewhere in a text. -/
def test (r : Regex α) (text : List α) : Bool := (r.exec text 0).isSome

/-- The ends of groups that follow each other from a position on, in the order in which they are tried. -/
def groupEnds (text : List α) : List (Regex α) → Nat → List (List Nat)
  | [], _ => [[]]
  | r :: rs, pos => (r.ends text pos).flatMap fun stop => (groupEnds text rs stop).map (stop :: ·)

/-- Every match consumes something. -/
def consumes : Regex α → Bool
  | .letter _ => true
  | .seq r s => r.consumes || s.consumes
  | .alt r s => r.consumes && s.consumes
  | .empty | .star _ | .boundary _ | .ahead _ => false

end Regex

/-- The letters of a text from one index to another. -/
def slice (text : List α) (start stop : Nat) : List α := (text.take stop).drop start

/-- A part of a text that is scanned: what stands between two matches, or a match. -/
inductive Piece (α : Type) where
  | plain (text : List α)
  | matched (text : List α)

def Piece.text : Piece α → List α
  | .plain text | .matched text => text

/-- The scan of a text from an index on, for at most so many rounds: a match without letters would be
found over and over again. -/
def Regex.pieces (r : Regex α) (text : List α) : Nat → Nat → Option (List (Piece α))
  | 0, _ => none
  | rounds + 1, lastIndex =>
    match r.exec text lastIndex with
    | none => some (if lastIndex < text.length then [.plain (text.drop lastIndex)] else [])
    | some (index, stop) => do
      let rest ← r.pieces text rounds stop
      some ((if lastIndex < index then [.plain (slice text lastIndex index)] else []) ++
        .matched (slice text index stop) :: rest)

namespace RegexAux

open Regex

variable {r : Regex α} {text : List α}

/-! ## Where matches end -/

theorem starEnds_le {ends : Nat → List Nat}
    (h : ∀ pos, pos ≤ text.length → ∀ stop ∈ ends pos, pos ≤ stop ∧ stop ≤ text.length) {left pos : Nat}
    (hpos : pos ≤ text.length) : ∀ stop ∈ starEnds ends left pos, pos ≤ stop ∧ stop ≤ text.length := by
  induction left generalizing pos with
  | zero =>
    intro stop hstop
    rw [List.mem_singleton.mp hstop]
    exact ⟨Nat.le_refl pos, hpos⟩
  | succ left ih =>
    intro stop hstop
    rcases List.mem_append.mp hstop with hmore | hend
    · obtain ⟨next, hnext, hstop⟩ := List.mem_flatMap.mp hmore
      obtain ⟨hle, hlength⟩ := h pos hpos next (List.mem_of_mem_filter hnext)
      obtain ⟨hle', hlength'⟩ := ih hlength stop hstop
      exact ⟨Nat.le_trans hle hle', hlength'⟩
    · rw [List.mem_singleton.mp hend]
      exact ⟨Nat.le_refl pos, hpos⟩

/-- A match ends in the text, and not before it starts. -/
theorem ends_le (r : Regex α) {pos : Nat} (hpos : pos ≤ text.length) :
    ∀ stop ∈ r.ends text pos, pos ≤ stop ∧ stop ≤ text.length := by
  induction r generalizing pos with
  | empty =>
    intro stop hstop
    rw [List.mem_singleton.mp hstop]
    exact ⟨Nat.le_refl pos, hpos⟩
  | letter p =>
    intro stop hstop
    rw [Regex.ends] at hstop
    split at hstop
    · rename_i c hc
      obtain ⟨hlt, -⟩ := List.getElem?_eq_some_iff.mp hc
      split_ifs at hstop
      · rw [List.mem_singleton.mp hstop]
        omega
      · simp at hstop
    · simp at hstop
  | seq r s ihr ihs =>
    intro stop hstop
    obtain ⟨next, hnext, hstop⟩ := List.mem_flatMap.mp hstop
    obtain ⟨hle, hlength⟩ := ihr hpos next hnext
    obtain ⟨hle', hlength'⟩ := ihs hlength stop hstop
    exact ⟨Nat.le_trans hle hle', hlength'⟩
  | alt r s ihr ihs =>
    intro stop hstop
    rcases List.mem_append.mp hstop with hr | hs
    · exact ihr hpos stop hr
    · exact ihs hpos stop hs
  | star r ih => exact starEnds_le (fun _ hstart => ih hstart) hpos
  | boundary word =>
    intro stop hstop
    rw [Regex.ends] at hstop
    split_ifs at hstop
    · simp at hstop
    · rw [List.mem_singleton.mp hstop]
      exact ⟨Nat.le_refl pos, hpos⟩
  | ahead r ih =>
    intro stop hstop
    rw [Regex.ends] at hstop
    split_ifs at hstop
    · simp at hstop
    · rw [List.mem_singleton.mp hstop]
      exact ⟨Nat.le_refl pos, hpos⟩

theorem lt_of_consumes (hconsumes : r.consumes = true) {pos : Nat} (hpos : pos ≤ text.length) :
    ∀ stop ∈ r.ends text pos, pos < stop := by
  induction r generalizing pos with
  | letter p =>
    intro stop hstop
    rw [Regex.ends] at hstop
    split at hstop
    · split_ifs at hstop
      · rw [List.mem_singleton.mp hstop]
        omega
      · simp at hstop
    · simp at hstop
  | seq r s ihr ihs =>
    intro stop hstop
    obtain ⟨next, hnext, hstop⟩ := List.mem_flatMap.mp hstop
    obtain ⟨hle, hlength⟩ := ends_le r hpos next hnext
    obtain ⟨hle', -⟩ := ends_le s hlength stop hstop
    rcases Bool.or_eq_true _ _ ▸ hconsumes with hr | hs
    · have hlt := ihr hr hpos next hnext
      omega
    · have hlt := ihs hs hlength stop hstop
      omega
  | alt r s ihr ihs =>
    intro stop hstop
    obtain ⟨hr, hs⟩ := Bool.and_eq_true _ _ ▸ hconsumes
    rcases List.mem_append.mp hstop with hmem | hmem
    · exact ihr hr hpos stop hmem
    · exact ihs hs hpos stop hmem
  | empty => nomatch hconsumes
  | star r _ => nomatch hconsumes
  | boundary word => nomatch hconsumes
  | ahead r _ => nomatch hconsumes

/-- What a search finds lies behind its start, in the text, and has letters where the expression consumes some. -/
theorem exec_spec {start index stop : Nat} (h : r.exec text start = some (index, stop)) :
    start ≤ index ∧ index ≤ stop ∧ stop ≤ text.length ∧ (r.consumes = true → index < stop) := by
  obtain ⟨index', hindex, hfound⟩ := List.exists_of_findSome?_eq_some h
  rw [List.mem_range'_1] at hindex
  obtain ⟨stop', hhead, heq⟩ := Option.map_eq_some_iff.mp hfound
  cases heq
  have hstop := List.mem_of_mem_head? hhead
  obtain ⟨hle, hlength⟩ := ends_le r (by omega) stop hstop
  exact ⟨hindex.1, hle, hlength, fun hconsumes => lt_of_consumes hconsumes (by omega) stop hstop⟩

/-! ## Slices -/

theorem slice_append_drop {start stop : Nat} (h : start ≤ stop) :
    slice text start stop ++ text.drop stop = text.drop start := by
  have hdrop : text.drop stop = (text.drop start).drop (stop - start) := by rw [List.drop_drop, Nat.add_sub_cancel' h]
  rw [slice, List.drop_take, hdrop, List.take_append_drop]

/-! ## Scans -/

/-- A scan with an expression that consumes something comes to an end, and its pieces are the text. -/
theorem pieces_spec (hconsumes : r.consumes = true) {rounds lastIndex : Nat}
    (hrounds : text.length < rounds + lastIndex) (hindex : lastIndex ≤ text.length) :
    ∃ pieces, r.pieces text rounds lastIndex = some pieces ∧ pieces.flatMap Piece.text = text.drop lastIndex := by
  induction rounds generalizing lastIndex with
  | zero => omega
  | succ rounds ih =>
    rw [Regex.pieces]
    cases hexec : r.exec text lastIndex with
    | none =>
      refine ⟨_, rfl, ?_⟩
      split_ifs with hlast
      · simp [Piece.text]
      · simp [List.drop_eq_nil_of_le (Nat.le_of_not_lt hlast)]
    | some found =>
      obtain ⟨index, stop⟩ := found
      obtain ⟨hle, -, hlength, hlt⟩ := exec_spec hexec
      have hlt := hlt hconsumes
      obtain ⟨rest, hrest, htext⟩ := ih (by omega) hlength
      refine ⟨_, by dsimp only; rw [hrest]; rfl, ?_⟩
      have hmatched : slice text index stop ++ text.drop stop = text.drop index := slice_append_drop (by omega)
      rw [List.flatMap_append, List.flatMap_cons, htext, Piece.text, hmatched]
      split_ifs with hbefore
      · simpa [Piece.text] using slice_append_drop hle
      · have hsame : lastIndex = index := by omega
        simp [hsame]

end RegexAux

end KubeCell
