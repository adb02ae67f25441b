import Mathlib.Data.List.DropRight
import Mathlib.Data.List.Sort
import Mathlib.Data.String.Basic

/-!
# Text

The functions on strings that the program uses, on lists of characters.
-/

namespace KubeCell

/-- `strings.TrimPrefix`. -/
def trimPrefix (value pre : List Char) : List Char := if pre.isPrefixOf value then value.drop pre.length else value

/-- `unicode.IsSpace`, by code points: the white space of Unicode. -/
def isSpace (c : Char) : Bool :=
  c.toNat ∈ [0x09, 0x0A, 0x0B, 0x0C, 0x0D, 0x20, 0x85, 0xA0, 0x1680, 0x2028, 0x2029, 0x202F, 0x205F, 0x3000] ||
    (0x2000 ≤ c.toNat && c.toNat ≤ 0x200A)

/-- `strings.TrimSpace`. -/
def trimSpace (value : List Char) : List Char := (value.dropWhile isSpace).rdropWhile isSpace

/-- The string is empty or all white space. -/
def isBlank (value : String) : Bool := trimSpace value.toList == []

/-- `strings.Split` at a character: the parts between its occurrences. -/
def splitAtChar (sep : Char) : List Char → List (List Char)
  | [] => [[]]
  | c :: cs =>
    if c = sep then [] :: splitAtChar sep cs
    else
      match splitAtChar sep cs with
      | [] => [[c]]
      | part :: parts => (c :: part) :: parts

/-- `strings.Split` at a text that is not empty; `skip` characters of an occurrence are still to be passed over. -/
def splitAtText (sep : List Char) (skip : Nat) : List Char → List (List Char)
  | [] => [[]]
  | c :: cs =>
    match skip with
    | skip + 1 => splitAtText sep skip cs
    | 0 =>
      if sep.isPrefixOf (c :: cs) then [] :: splitAtText sep (sep.length - 1) cs
      else (splitAtText sep 0 cs).modifyHead (c :: ·)

/-- `strings.Split`, on strings. -/
def splitText (value sep : String) : List String := (splitAtText sep.toList 0 value.toList).map String.ofList

/-- `strings.ReplaceAll`. -/
def replaceAll (value old new : String) : String := new.intercalate (splitText value old)

/-- `strings.Count`. -/
def countText (value sep : String) : Nat := (splitText value sep).length - 1

/-- `strings.ToLower` of a character, as far as a comparison with a word of ASCII letters can tell: besides the
capital letters of ASCII, two characters have an ASCII letter as their lower case. -/
def lowerChar (c : Char) : Char := if c.toNat = 0x130 then 'i' else if c.toNat = 0x212A then 'k' else c.toLower

/-- `strings.ToLower`, to the same extent. -/
def lowerText (value : String) : String := String.ofList (value.toList.map lowerChar)

/-- `strings.HasPrefix`. -/
def hasPrefix (value pre : String) : Bool := pre.toList.isPrefixOf value.toList

/-- `strings.TrimPrefix`, on strings. -/
def cutPrefix (value pre : String) : String := String.ofList (trimPrefix value.toList pre.toList)

/-- A list of strings as `%v` prints it. -/
def goList (values : List String) : String := "[" ++ " ".intercalate values ++ "]"

/-! ## Splitting -/

/-- Splitting is what the library calls so. -/
theorem splitAtChar_eq_splitOn (sep : Char) (l : List Char) : splitAtChar sep l = l.splitOn sep := by
  induction l with
  | nil => rfl
  | cons c cs ih =>
    rw [splitAtChar, ih, List.splitOn_cons_eq_if_modifyHead]
    by_cases hc : c = sep
    · simp [hc]
    · cases hparts : cs.splitOn sep with
      | nil => exact absurd hparts (List.splitOnP_ne_nil _ cs)
      | cons part parts => simp [hc]

/-- A list is made of its parts and the character they are split at. -/
theorem mem_of_splitAtChar (sep : Char) {c : Char} {l : List Char} (hc : c ∈ l) :
    c = sep ∨ ∃ part ∈ splitAtChar sep l, c ∈ part := by
  induction l with
  | nil => nomatch hc
  | cons d ds ih =>
    rw [splitAtChar]
    by_cases hd : d = sep
    · rw [if_pos hd]
      rcases List.mem_cons.mp hc with rfl | hc
      · exact Or.inl hd
      · refine (ih hc).imp_right ?_
        rintro ⟨part, hpart, hmem⟩
        exact ⟨part, List.mem_cons_of_mem _ hpart, hmem⟩
    · rw [if_neg hd]
      cases hparts : splitAtChar sep ds with
      | nil =>
        rw [splitAtChar_eq_splitOn] at hparts
        exact absurd hparts (List.splitOnP_ne_nil _ ds)
      | cons first rest =>
        rw [hparts] at ih
        rcases List.mem_cons.mp hc with rfl | hc
        · exact Or.inr ⟨c :: first, List.mem_cons_self, List.mem_cons_self⟩
        · refine (ih hc).imp_right ?_
          rintro ⟨part, hpart, hmem⟩
          rcases List.mem_cons.mp hpart with rfl | hpart
          · exact ⟨d :: part, List.mem_cons_self, List.mem_cons_of_mem _ hmem⟩
          · exact ⟨part, List.mem_cons_of_mem _ hpart, hmem⟩

/-- What a part holds is in the whole. -/
theorem mem_of_mem_splitAtChar (sep : Char) {part l : List Char} (h : part ∈ splitAtChar sep l) {c : Char}
    (hc : c ∈ part) : c ∈ l := by
  induction l generalizing part with
  | nil =>
    rw [splitAtChar, List.mem_singleton] at h
    rw [h] at hc
    exact absurd hc List.not_mem_nil
  | cons d ds ih =>
    rw [splitAtChar] at h
    split_ifs at h with hd
    · rcases List.mem_cons.mp h with rfl | h
      · exact absurd hc List.not_mem_nil
      · exact List.mem_cons_of_mem _ (ih h hc)
    · cases hparts : splitAtChar sep ds with
      | nil =>
        rw [splitAtChar_eq_splitOn] at hparts
        exact absurd hparts (List.splitOnP_ne_nil _ ds)
      | cons first rest =>
        rw [hparts] at h ih
        rcases List.mem_cons.mp h with rfl | h
        · rcases List.mem_cons.mp hc with rfl | hc
          · exact List.mem_cons_self
          · exact List.mem_cons_of_mem _ (ih List.mem_cons_self hc)
        · exact List.mem_cons_of_mem _ (ih (List.mem_cons_of_mem _ h) hc)

/-- The last character of a list is the last one of a part. -/
theorem getLast_of_splitAtChar {sep c : Char} (hc : c ≠ sep) (l : List Char) :
    ∃ part ∈ splitAtChar sep (l ++ [c]), part.getLast? = some c := by
  induction l with
  | nil => exact ⟨[c], by simp [splitAtChar, hc], rfl⟩
  | cons d ds ih =>
    obtain ⟨part, hpart, hlast⟩ := ih
    rw [List.cons_append, splitAtChar]
    by_cases hd : d = sep
    · rw [if_pos hd]
      exact ⟨part, List.mem_cons_of_mem _ hpart, hlast⟩
    · rw [if_neg hd]
      cases hparts : splitAtChar sep (ds ++ [c]) with
      | nil => simp [hparts] at hpart
      | cons first rest =>
        rw [hparts] at hpart
        rcases List.mem_cons.mp hpart with rfl | hpart
        · exact ⟨d :: part, List.mem_cons_self, by simp [List.getLast?_cons, hlast]⟩
        · exact ⟨part, List.mem_cons_of_mem _ hpart, hlast⟩

/-- Nothing is trimmed of a list without white space. -/
theorem trimSpace_eq_self {l : List Char} (h : ∀ c ∈ l, isSpace c = false) : trimSpace l = l := by
  have hdrop : l.dropWhile isSpace = l := by
    cases l with
    | nil => rfl
    | cons c cs =>
      rw [List.dropWhile_cons, h c List.mem_cons_self]
      rfl
  rw [trimSpace, hdrop]
  induction l using List.reverseRecOn with
  | nil => rfl
  | append_singleton l c => exact List.rdropWhile_concat_neg _ _ _ (by simp [h c])

/-! ## Prefixes -/

theorem toList_cutPrefix (value pre : String) : (cutPrefix value pre).toList = trimPrefix value.toList pre.toList := by
  simp [cutPrefix]

/-- Trimming gives back what a prefix was put before. -/
theorem cutPrefix_append (pre value : String) : cutPrefix (pre ++ value) pre = value := by
  rw [← String.toList_inj, toList_cutPrefix, trimPrefix, String.toList_append, if_pos, List.drop_left]
  exact List.isPrefixOf_iff_prefix.mpr (List.prefix_append _ _)

/-- Trimming changes it. -/
theorem cutPrefix_append_ne {pre : String} (hpre : pre ≠ "") (value : String) :
    cutPrefix (pre ++ value) pre ≠ pre ++ value := by
  rw [cutPrefix_append]
  intro h
  have := congrArg String.length h
  rw [String.length_append] at this
  have : pre.length = 0 := by omega
  exact hpre (String.length_eq_zero_iff.mp this)

/-- Nothing is trimmed of a string without the prefix. -/
theorem cutPrefix_eq_self {value pre : String} (h : hasPrefix value pre = false) : cutPrefix value pre = value := by
  rw [hasPrefix] at h
  rw [← String.toList_inj, toList_cutPrefix, trimPrefix, if_neg (by simp [h])]

/-- A string that starts with a prefix is the prefix and what trimming leaves. -/
theorem append_cutPrefix {value pre : String} (h : hasPrefix value pre = true) :
    pre ++ cutPrefix value pre = value := by
  rw [hasPrefix] at h
  obtain ⟨rest, hrest⟩ := List.isPrefixOf_iff_prefix.mp h
  rw [← String.toList_inj, String.toList_append, toList_cutPrefix, trimPrefix, if_pos h, ← hrest, List.drop_left]

/-- What trimming changes starts with the prefix. -/
theorem hasPrefix_of_cutPrefix_ne {value pre : String} (h : cutPrefix value pre ≠ value) :
    hasPrefix value pre = true := by
  by_contra hnone
  exact h (cutPrefix_eq_self (Bool.eq_false_iff.mpr hnone))

/-- A string starts with a prefix that was put before it. -/
theorem hasPrefix_append (pre value : String) : hasPrefix (pre ++ value) pre = true := by
  rw [hasPrefix, String.toList_append]
  exact List.isPrefixOf_iff_prefix.mpr (List.prefix_append _ _)

/-! ## Sorting -/

/-- `sort.Strings`. -/
def sortStrings (values : List String) : List String := values.insertionSort (· ≤ ·)

/-- Sorting keeps the members. -/
theorem mem_sortStrings {values : List String} {s : String} : s ∈ sortStrings values ↔ s ∈ values :=
  List.mem_insertionSort (· ≤ ·)

/-- Sorting does not depend on the order before. -/
theorem sortStrings_eq_of_perm {l l' : List String} (h : l.Perm l') : sortStrings l = sortStrings l' := by
  have hperm : (sortStrings l).Perm (sortStrings l') :=
    (List.perm_insertionSort _ l).trans (h.trans (List.perm_insertionSort _ l').symm)
  exact hperm.eq_of_pairwise (fun a b _ _ hab hba => le_antisymm hab hba) (List.pairwise_insertionSort _ l)
    (List.pairwise_insertionSort _ l')

/-! ## What is dropped at the end -/

/-- Two lists are the same up to elements at their end that may be dropped. -/
def SameUpTo {α : Type} (p : α → Bool) (l l' : List α) : Prop :=
  ∃ start a b, l = start ++ a ∧ l' = start ++ b ∧ (∀ x ∈ a, p x = true) ∧ ∀ x ∈ b, p x = true

theorem rdropWhile_append_of_all {α : Type} {p : α → Bool} {a : List α} (l : List α) (h : ∀ x ∈ a, p x = true) :
    (l ++ a).rdropWhile p = l.rdropWhile p := by
  rw [List.rdropWhile, List.rdropWhile, List.reverse_append, List.dropWhile_append_of_pos]
  intro x hx
  exact h x (List.mem_reverse.mp hx)

/-- What is left of two lists is the same exactly when they are the same up to what may be dropped. -/
theorem rdropWhile_eq_iff {α : Type} {p : α → Bool} {l l' : List α} :
    l.rdropWhile p = l'.rdropWhile p ↔ SameUpTo p l l' := by
  constructor
  · intro h
    refine ⟨l.rdropWhile p, l.rtakeWhile p, l'.rtakeWhile p, ?_, ?_, ?_, ?_⟩
    · exact List.rdropWhile_append_rtakeWhile.symm
    · rw [h]
      exact List.rdropWhile_append_rtakeWhile.symm
    · exact fun x hx => List.mem_rtakeWhile_imp hx
    · exact fun x hx => List.mem_rtakeWhile_imp hx
  · rintro ⟨start, a, b, rfl, rfl, ha, hb⟩
    rw [rdropWhile_append_of_all start ha, rdropWhile_append_of_all start hb]

/-! ## Separators -/

/-- Two lists without the separator, each followed by it, are read back from what they start. -/
theorem append_sep_inj {α : Type} {sep : α} {p p' : List α} (hp : sep ∉ p) (hp' : sep ∉ p') {r r' : List α}
    (h : p ++ sep :: r = p' ++ sep :: r') : p = p' ∧ r = r' := by
  induction p generalizing p' with
  | nil =>
    cases p' with
    | nil => exact ⟨rfl, List.cons.inj h |>.2⟩
    | cons b p' =>
      have hb : sep = b := (List.cons.inj h).1
      exact absurd (hb ▸ List.mem_cons_self) hp'
  | cons a p ih =>
    cases p' with
    | nil =>
      have ha : a = sep := (List.cons.inj h).1
      exact absurd (ha ▸ List.mem_cons_self) hp
    | cons b p' =>
      obtain ⟨hab, ht⟩ := List.cons.inj h
      obtain ⟨hpp, hr⟩ := ih (fun hm => hp (List.mem_cons_of_mem _ hm)) (fun hm => hp' (List.mem_cons_of_mem _ hm)) ht
      exact ⟨by rw [hab, hpp], hr⟩

/-- Two different lists that are put after the same separator, in lists that are then the same: one ends in the other
with the separator before it. -/
theorem suffix_of_append_sep {α : Type} {sep : α} {p p' a b : List α} (h : p ++ sep :: a = p' ++ sep :: b)
    (hne : a ≠ b) :
    sep :: a <:+ b ∨ sep :: b <:+ a := by
  have ha : sep :: a <:+ p' ++ sep :: b := h ▸ List.suffix_append _ _
  rcases List.suffix_or_suffix_of_suffix ha (List.suffix_append p' (sep :: b)) with hab | hba
  · rcases List.suffix_cons_iff.mp hab with heq | hsuffix
    · exact absurd (List.cons.inj heq).2 hne
    · exact Or.inl hsuffix
  · rcases List.suffix_cons_iff.mp hba with heq | hsuffix
    · exact absurd (List.cons.inj heq).2.symm hne
    · exact Or.inr hsuffix

/-- What stands after a separator is read back when it is known how many more there are. -/
theorem eq_of_append_sep_count {α : Type} [DecidableEq α] {sep : α} {p p' a b : List α}
    (h : p ++ sep :: a = p' ++ sep :: b) (hcount : a.count sep = b.count sep) : a = b := by
  by_contra hne
  rcases suffix_of_append_sep h hne with hsuffix | hsuffix
  · have hle := hsuffix.sublist.count_le sep
    rw [List.count_cons_self] at hle
    omega
  · have hle := hsuffix.sublist.count_le sep
    rw [List.count_cons_self] at hle
    omega

/-- What stands before a separator is read back when there is none after it. -/
theorem append_sep_inj_right {α : Type} [DecidableEq α] {sep : α} {p p' a b : List α}
    (h : p ++ sep :: a = p' ++ sep :: b) (ha : sep ∉ a) (hb : sep ∉ b) : p = p' ∧ a = b := by
  have hab : a = b := eq_of_append_sep_count h
    (by rw [List.count_eq_zero_of_not_mem ha, List.count_eq_zero_of_not_mem hb])
  subst hab
  exact ⟨List.append_cancel_right h, rfl⟩

/-- Two sequences of lines, one after the other. -/
theorem intercalate_append {α : Type} (sep : α) {l l' : List (List α)} (hl : l ≠ []) (hl' : l' ≠ []) :
    [sep].intercalate (l ++ l') = [sep].intercalate l ++ sep :: [sep].intercalate l' := by
  induction l with
  | nil => exact absurd rfl hl
  | cons x l ih =>
    cases l with
    | nil => simp [List.intercalate_cons_of_ne_nil hl']
    | cons y l =>
      have hrest := ih (by simp)
      rw [List.cons_append, List.intercalate_cons_of_ne_nil (by simp), hrest, List.intercalate_cons_cons]
      simp

/-- Values without the separator do not count. -/
theorem count_intercalate_values {α ι : Type} [DecidableEq α] {sep : α} (start : ι → List α) {value : ι → List α}
    {items : List ι} (hv : ∀ i ∈ items, sep ∉ value i) :
    ([sep].intercalate (items.map fun i => start i ++ value i)).count sep =
      ([sep].intercalate (items.map start)).count sep := by
  induction items with
  | nil => rfl
  | cons i rest ih =>
    have hi : (value i).count sep = 0 := List.count_eq_zero.mpr (hv i List.mem_cons_self)
    have hrest := ih fun j hj => hv j (List.mem_cons_of_mem _ hj)
    cases rest with
    | nil => simp [hi]
    | cons j rest =>
      simp only [List.map_cons, List.intercalate_cons_cons, List.count_append, hi, Nat.add_zero] at hrest ⊢
      rw [hrest]

/-- Two sequences of lines that start alike, line by line, and end in values without the separator: joined to the same
text, they end in the same values. -/
theorem intercalate_values_inj {α ι : Type} {sep : α} {start : ι → List α} {value value' : ι → List α}
    {items : List ι} (hv : ∀ i ∈ items, sep ∉ value i ∧ sep ∉ value' i)
    (h : [sep].intercalate (items.map fun i => start i ++ value i) =
      [sep].intercalate (items.map fun i => start i ++ value' i)) :
    ∀ i ∈ items, value i = value' i := by
  induction items with
  | nil => exact fun i hi => nomatch hi
  | cons i rest ih =>
    cases rest with
    | nil =>
      simp only [List.map_cons, List.map_nil, List.intercalate_singleton] at h
      simpa using h
    | cons j rest =>
      simp only [List.map_cons, List.intercalate_cons_cons, List.append_assoc, List.append_cancel_left_eq,
        List.singleton_append] at h
      obtain ⟨hi, hrest⟩ := append_sep_inj (hv i List.mem_cons_self).1 (hv i List.mem_cons_self).2 h
      have := ih (fun k hk => hv k (List.mem_cons_of_mem _ hk)) (by simpa using hrest)
      intro k hk
      rcases List.mem_cons.mp hk with rfl | hk
      · exact hi
      · exact this k hk

/-! ## Decimal digits -/

/-- A digit is the digit of its value. -/
theorem digitChar_of_isDigit {c : Char} (h : c.isDigit = true) :
    Nat.digitChar (c.toNat - '0'.toNat) = c ∧ c.toNat - '0'.toNat < 10 := by
  have hzero : '0'.toNat = 48 := rfl
  have hnine : '9'.toNat = 57 := rfl
  obtain ⟨hlow, hhigh⟩ := Char.isDigit_iff_toNat.mp h
  have hlt : c.toNat - '0'.toNat < 10 := by omega
  refine ⟨Char.toNat_inj.mp ?_, hlt⟩
  rw [Nat.toNat_digitChar_of_lt_ten hlt]
  omega

/-- Digits that follow those of a positive number continue it. -/
theorem toDigits_append_digits {l : List Char} (h : ∀ c ∈ l, c.isDigit = true) {n : Nat} (hn : 0 < n) :
    Nat.toDigits 10 n ++ l = Nat.toDigits 10 (Nat.ofDigitChars 10 l n) := by
  induction l generalizing n with
  | nil => simp
  | cons c l ih =>
    obtain ⟨hdigit, hlt⟩ := digitChar_of_isDigit (h c List.mem_cons_self)
    have hnext := Nat.toDigits_append_toDigits (by decide : 1 < 10) hn hlt
    rw [Nat.toDigits_of_lt_base hlt, hdigit] at hnext
    rw [Nat.ofDigitChars_cons, ← ih (fun d hd => h d (List.mem_cons_of_mem _ hd)) (by omega), ← hnext,
      List.append_assoc,
      List.singleton_append]

/-- The digits of a positive number do not start with zero. -/
theorem head_toDigits {n : Nat} (hn : 0 < n) : (Nat.toDigits 10 n).head? ≠ some '0' := by
  induction n using Nat.strongRecOn with
  | _ n ih =>
    have hdigit : ∀ d < 10, 0 < d → [Nat.digitChar d].head? ≠ some '0' := by decide
    rw [Nat.toDigits_eq_if (by decide)]
    split_ifs with hlt
    · exact hdigit n hlt hn
    · rw [List.head?_append_of_ne_nil _ Nat.toDigits_ne_nil]
      exact ih (n / 10) (by omega) (by omega)

/-- A text is a number in decimal digits when it has digits only, and starts with zero only when it is zero. -/
theorem eq_toDigits_iff {l : List Char} :
    l = Nat.toDigits 10 (Nat.ofDigitChars 10 l 0) ↔ l ≠ [] ∧ (∀ c ∈ l, c.isDigit = true) ∧
      ¬(1 < l.length ∧ l.head? = some '0') := by
  constructor
  · intro h
    rw [h]
    refine ⟨Nat.toDigits_ne_nil, fun c hc => Nat.isDigit_of_mem_toDigits (by decide) (by decide) hc, ?_⟩
    rintro ⟨hlong, hzero⟩
    rcases Nat.eq_zero_or_pos (Nat.ofDigitChars 10 l 0) with hn | hn
    · rw [hn] at hlong
      exact absurd hlong (by decide)
    · exact head_toDigits hn hzero
  · rintro ⟨hne, hdigits, hzero⟩
    obtain ⟨c, rest, rfl⟩ := List.exists_cons_of_ne_nil hne
    obtain ⟨hdigit, hlt⟩ := digitChar_of_isDigit (hdigits c List.mem_cons_self)
    have hrest : ∀ d ∈ rest, d.isDigit = true := fun d hd => hdigits d (List.mem_cons_of_mem _ hd)
    rw [Nat.ofDigitChars_cons, Nat.mul_zero, Nat.zero_add]
    rcases Nat.eq_zero_or_pos (c.toNat - '0'.toNat) with hc | hc
    · rw [hc] at hdigit
      have hrestNil : rest = [] := by
        by_contra hrestNe
        exact hzero ⟨by simpa using List.length_pos_iff.mpr hrestNe, by rw [← hdigit]; rfl⟩
      rw [hc, hrestNil, ← hdigit]
      rfl
    · rw [← toDigits_append_digits hrest hc, Nat.toDigits_of_lt_base hlt, hdigit]
      rfl

end KubeCell
