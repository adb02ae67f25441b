import Mathlib.Data.List.AList
import Mathlib.Data.List.Perm.Subperm
import Mathlib.Algebra.BigOperators.Group.List.Basic
import Mathlib.Tactic.Ring

/-!
# Resource quantities and maps

A map of strings is an association list without duplicate keys; a loop over a map runs over its entries, in the order
they stand in, and a statement about every order is a statement about every list. A quantity is a value, kept as the
whole number of nano units it is, the format it was written in, and the way it is held. Comparison is about the value
and printing about value and format; only the question whether a quantity is a 64-bit number also asks how it is held,
so equal quantities may differ in it.
-/

namespace KubeCell

/-- A map from strings, as the source's maps are. -/
abbrev GoMap (V : Type) : Type := AList fun _ : String => V

/-- A map given by its entries, a later entry for a key giving way to an earlier one. -/
def GoMap.ofList {V : Type} (l : List (String × V)) : GoMap V :=
  l.foldr (fun e m => m.insert e.1 e.2) ∅

/-- A loop over a map that changes, in another map, the key it is at and no other: each key is changed
once, by its own value. -/
theorem GoMap.lookup_foldl_step {V W : Type} (step : GoMap W → (Σ _ : String, V) → GoMap W)
    (update : String → Option W → V → Option W)
    (hstep : ∀ t e key, AList.lookup key (step t e) =
      if key = e.1 then update e.1 (AList.lookup e.1 t) e.2 else AList.lookup key t)
    (source : GoMap V) (target : GoMap W) (key : String) :
    AList.lookup key (source.entries.foldl step target) =
      match AList.lookup key source with
      | some v => update key (AList.lookup key target) v
      | none => AList.lookup key target := by
  obtain ⟨l, hl⟩ := source
  rw [show AList.lookup key (⟨l, hl⟩ : GoMap V) = l.dlookup key from rfl]
  induction l generalizing target with
  | nil => rfl
  | cons e l ih =>
    obtain ⟨k, v⟩ := e
    obtain ⟨hk, hl'⟩ := List.nodupKeys_cons.mp hl
    dsimp only [List.foldl_cons] at ih ⊢
    rw [ih _ hl', hstep]
    by_cases hkey : key = k
    · subst hkey
      rw [List.dlookup_eq_none.mpr hk, List.dlookup_cons_eq]
      simp
    · rw [List.dlookup_cons_ne _ _ hkey, if_neg hkey]

/-- A loop over a map that changes, in another map, the value of the key it is at. -/
theorem GoMap.lookup_foldl_update {V W : Type} (update : String → Option W → V → W) (source : GoMap V)
    (target : GoMap W) (key : String) :
    AList.lookup key (source.entries.foldl (fun t e => t.insert e.1 (update e.1 (AList.lookup e.1 t) e.2)) target) =
      match AList.lookup key source with
      | some v => some (update key (AList.lookup key target) v)
      | none => AList.lookup key target := by
  refine GoMap.lookup_foldl_step _ (fun k current v => some (update k current v))
    (fun t e other => ?_) source target key
  by_cases hkey : other = e.1
  · subst hkey
    simp
  · rw [if_neg hkey, AList.lookup_insert_ne hkey]

/-- A map of strings to strings: labels and annotations. -/
abbrev StringMap : Type := GoMap String

/-- The value of a key, and the empty string for a key that is not there. -/
def StringMap.get (m : StringMap) (key : String) : String := (AList.lookup key m).getD ""

/-- The format a quantity was written in; a quantity that was never written has none. -/
inductive Format where
  | unset | decimalSI | binarySI | decimalExponent
  deriving DecidableEq, Repr

/-- How a quantity is held: as a 64-bit number times a power of ten, or as a decimal number without bounds. -/
inductive Amount where
  | int64 (scale : Int)
  | infDec
  deriving DecidableEq, Repr

/-- A quantity: its value in nano units, its format, and how it is held. -/
structure Quantity where
  value : Int
  format : Format
  amount : Amount
  deriving DecidableEq, Repr

namespace Quantity

/-- The quantity a variable holds before anything is stored in it. -/
def zero : Quantity := ⟨0, .unset, .int64 0⟩

/-- A whole number of units in a format. -/
def newQuantity (n : Int) (format : Format) : Quantity := ⟨n * 1000000000, format, .int64 0⟩

/-- A whole number of thousandths of a unit in decimal format. -/
def milli (n : Int) : Quantity := ⟨n * 1000000, .decimalSI, .int64 (-3)⟩

/-- A whole number of mebibytes in binary format. -/
def mebi (n : Int) : Quantity := ⟨n * 1048576 * 1000000000, .binarySI, .int64 0⟩

/-- A number is one of 64 bits. -/
def fitsInt64 (n : Int) : Bool := decide (-9223372036854775808 ≤ n ∧ n ≤ 9223372036854775807)

/-- A value, in units of the power of ten `scale`, is a 64-bit number. -/
def fitsScale (value scale : Int) : Bool := fitsInt64 (value / 10 ^ (9 + scale).toNat)

/-- How a sum is held: at the smaller scale while it stays a 64-bit number there, where zero has no scale of its own. -/
def addAmount (value : Int) (amount : Amount) (value' : Int) (amount' : Amount) : Amount :=
  match amount, amount' with
  | .int64 scale, .int64 scale' =>
    if value' = 0 then .int64 scale
    else if value = 0 then .int64 scale'
    else
      let common := min scale scale'
      if fitsScale value common && fitsScale value' common && fitsScale (value + value') common then .int64 common
        else .infDec
  | _, _ => .infDec

/-- Addition in place: the value grows, and a zero takes over the format of what is added. -/
def add (q y : Quantity) : Quantity :=
  ⟨q.value + y.value, if q.value = 0 then y.format else q.format, addAmount q.value q.amount y.value y.amount⟩

/-- Subtraction in place, with the same rule for the format. -/
def sub (q y : Quantity) : Quantity :=
  ⟨q.value - y.value, if q.value = 0 then y.format else q.format, addAmount q.value q.amount (-y.value) y.amount⟩

/-- Two quantities are equal when their values are. -/
def equal (q y : Quantity) : Bool := q.value == y.value

/-- The quantity as a 64-bit whole number. A negative scale is refused, also where the value is whole. -/
def asInt64 (q : Quantity) : Option Int :=
  match q.amount with
  | .infDec => none
  | .int64 scale =>
    let n := q.value / 1000000000
    if 0 ≤ scale ∧ q.value % 1000000000 = 0 ∧ fitsInt64 n then some n else none

example : (newQuantity 1 .decimalSI).equal (milli 1000) = true ∧ (newQuantity 1 .decimalSI).asInt64 = some 1 ∧
    (milli 1000).asInt64 = none := by decide

@[simp] theorem zero_value : zero.value = 0 := rfl

@[simp] theorem add_value (q y : Quantity) : (q.add y).value = q.value + y.value := rfl

@[simp] theorem sub_value (q y : Quantity) : (q.sub y).value = q.value - y.value := rfl

@[simp] theorem newQuantity_zero_value (format : Format) : (newQuantity 0 format).value = 0 := by simp [newQuantity]

theorem equal_iff (q y : Quantity) : q.equal y = true ↔ q.value = y.value := by simp [equal]

/-- A 64-bit whole number is the value in units. -/
theorem value_of_asInt64 {q : Quantity} {n : Int} (h : q.asInt64 = some n) : q.value = n * 1000000000 := by
  cases hamount : q.amount with
  | infDec => simp only [asInt64, hamount, reduceCtorEq] at h
  | int64 scale =>
    simp only [asInt64, hamount, Option.ite_none_right_eq_some, Option.some.injEq] at h
    obtain ⟨⟨-, hwhole, -⟩, rfl⟩ := h
    omega

/-! ## Printing

A quantity is printed in canonical form: no precision is lost, no fractional digit is printed, and the suffix is
the largest that allows it. A quantity written with binary suffixes is printed with them when it is a whole
number of at least 1024. -/

/-- Divide by `base` as often as that leaves a whole number, at most `fuel` times: the number left and how often. -/
def stripFactors (base : Nat) : Nat → Nat → Nat × Nat
  | 0, m => (m, 0)
  | fuel + 1, m =>
    if m % base = 0 then
      let (m', k) := stripFactors base fuel (m / base)
      (m', k + 1)
    else (m, 0)

/-- The decimal suffixes, from nano in steps of a thousand. -/
def decimalSuffix : Nat → String
  | 0 => "n" | 1 => "u" | 2 => "m" | 3 => "" | 4 => "k" | 5 => "M" | 6 => "G" | 7 => "T" | 8 => "P" | _ => "E"

/-- The exponents of the decimal exponent format, in the same steps. -/
def exponentSuffix : Nat → String
  | 0 =>
    "e-9" | 1 => "e-6" | 2 => "e-3" | 3 => "" | 4 => "e3" | 5 => "e6" | 6 => "e9" | 7 => "e12" | 8 => "e15" | _ => "e18"

/-- The binary suffixes, in steps of 1024. -/
def binarySuffix : Nat → String
  | 0 => "" | 1 => "Ki" | 2 => "Mi" | 3 => "Gi" | 4 => "Ti" | 5 => "Pi" | _ => "Ei"

/-- The digits of a number of nano units with the suffix of a decimal format. -/
def decimalString (suffix : Nat → String) (n : Nat) : String :=
  let (m, k) := stripFactors 1000 9 n
  Nat.repr m ++ suffix k

/-- The canonical form of a magnitude of `n` nano units. -/
def magnitudeString (format : Format) (n : Nat) : String :=
  match format with
  | .decimalSI => decimalString decimalSuffix n
  | .binarySI =>
    if n < 1024 * 1000000000 ∨ n % 1000000000 ≠ 0 then decimalString decimalSuffix n
    else
      let (m, k) := stripFactors 1024 6 (n / 1000000000)
      Nat.repr m ++ binarySuffix k
  | .decimalExponent | .unset => decimalString exponentSuffix n

/-- The canonical form of a quantity. -/
def string (q : Quantity) : String :=
  if q.value = 0 then "0"
  else (if q.value < 0 then "-" else "") ++ magnitudeString q.format q.value.natAbs

example : (mebi 1024).string = "1Gi" := by decide +kernel
example : (newQuantity 1073741824 .decimalSI).string = "1073741824" := by decide +kernel
example : (milli 1500).string = "1500m" := by decide +kernel
example : (mebi 1536).string = "1536Mi" := by decide +kernel

/-- A printed quantity is one line. -/
theorem newline_not_mem_string (q : Quantity) : '\n' ∉ q.string.toList := by
  have hdigits : ∀ n : Nat, '\n' ∉ Nat.toDigits 10 n := fun n h => by
    exact absurd (Nat.isDigit_of_mem_toDigits (by decide) (by decide) h) (by decide)
  have hdec : ∀ k, '\n' ∉ (decimalSuffix k).toList := fun k => by
    unfold decimalSuffix; split <;> decide
  have hexp : ∀ k, '\n' ∉ (exponentSuffix k).toList := fun k => by
    unfold exponentSuffix; split <;> decide
  have hbin : ∀ k, '\n' ∉ (binarySuffix k).toList := fun k => by
    unfold binarySuffix; split <;> decide
  have hmag : ∀ n, '\n' ∉ (magnitudeString q.format n).toList := fun n => by
    unfold magnitudeString decimalString
    split
    · simp [hdigits, hdec]
    · split_ifs <;> simp [hdigits, hdec, hbin]
    · simp [hdigits, hexp]
    · simp [hdigits, hexp]
  unfold string
  split_ifs <;> simp [hmag]
end Quantity

/-! ## Resource lists -/

/-- A list of resources: a quantity for each resource name that is in it. -/
abbrev ResourceList : Type := GoMap Quantity

namespace ResourceList

/-- The quantity of a resource, and the zero quantity for a resource that is not there. -/
def qty (l : ResourceList) (name : String) : Quantity := (AList.lookup name l).getD Quantity.zero

@[simp] theorem qty_empty (name : String) : qty ∅ name = Quantity.zero := rfl

@[simp] theorem qty_insert_self (l : ResourceList) (name : String) (q : Quantity) :
    qty (AList.insert name q l) name = q := by simp [qty]

/-- Semantic equality of resource lists: the same resources, with equal values. -/
def semanticEqual (a b : ResourceList) : Bool :=
  a.entries.length == b.entries.length &&
    a.entries.all fun e =>
      match AList.lookup e.1 b with
      | some q => e.2.equal q
      | none => false

/-- Resource lists with the same resources list the same names. -/
theorem keys_perm_of_lookup {a b : ResourceList}
    (h : ∀ name, (AList.lookup name a).isSome = (AList.lookup name b).isSome) : a.keys.Perm b.keys := by
  refine (List.perm_ext_iff_of_nodup a.keys_nodup b.keys_nodup).mpr fun name => ?_
  rw [← AList.mem_keys, ← AList.mem_keys, ← AList.lookup_isSome, ← AList.lookup_isSome, h name]

/-- A resource list has as many names as entries. -/
theorem keys_length (a : ResourceList) : a.keys.length = a.entries.length := by
  simp [AList.keys, List.keys]

/-- Semantic equality is equality of the values of every resource. -/
theorem semanticEqual_iff (a b : ResourceList) :
    semanticEqual a b = true ↔
      ∀ name, (AList.lookup name a).map Quantity.value = (AList.lookup name b).map Quantity.value := by
  constructor
  · intro h
    simp only [semanticEqual, Bool.and_eq_true, beq_iff_eq, List.all_eq_true] at h
    obtain ⟨hlen, hall⟩ := h
    have hvalue : ∀ name q, AList.lookup name a = some q → ∃ q', AList.lookup name b = some q' ∧
      q.value = q'.value := by
      intro name q hq
      have := hall ⟨name, q⟩ (AList.mem_lookup_iff.mp hq)
      cases hb : AList.lookup name b with
      | none => simp [hb] at this
      | some q' =>
        simp only [hb, Quantity.equal_iff] at this
        exact ⟨q', rfl, this⟩
    have hsub : a.keys ⊆ b.keys := by
      intro name hname
      obtain ⟨q, hq⟩ := Option.isSome_iff_exists.mp (AList.lookup_isSome.mpr (AList.mem_keys.mpr hname))
      obtain ⟨q', hq', -⟩ := hvalue name q hq
      exact AList.mem_keys.mp (AList.lookup_isSome.mp (by simp [hq']))
    have hperm : a.keys.Perm b.keys :=
      (List.subperm_of_subset a.keys_nodup hsub).perm_of_length_le (by rw [keys_length, keys_length, hlen])
    intro name
    cases ha : AList.lookup name a with
    | some q =>
      obtain ⟨q', hq', hv⟩ := hvalue name q ha
      simp [hq', hv]
    | none =>
      have : name ∉ b.keys := fun hb => by
        rw [AList.lookup_eq_none, AList.mem_keys] at ha
        exact ha (hperm.mem_iff.mpr hb)
      rw [AList.lookup_eq_none.mpr (mt AList.mem_keys.mp this)]
  · intro h
    have hperm : a.keys.Perm b.keys := keys_perm_of_lookup fun name => by
      simpa using congrArg Option.isSome (h name)
    simp only [semanticEqual, Bool.and_eq_true, beq_iff_eq, List.all_eq_true]
    refine ⟨by rw [← keys_length, ← keys_length, hperm.length_eq], fun e he => ?_⟩
    have ha : AList.lookup e.1 a = some e.2 := AList.mem_lookup_iff.mpr he
    have := h e.1
    rw [ha] at this
    cases hb : AList.lookup e.1 b with
    | none => simp [hb] at this
    | some q =>
      rw [hb] at this
      simpa [Quantity.equal_iff] using this
/-- Add each quantity of `source` to the quantity `target` has for the same resource. -/
def addAll (target source : ResourceList) : ResourceList :=
  source.entries.foldl (fun t e => t.insert e.1 ((t.qty e.1).add e.2)) target

/-- A resource is there after adding a list if it was in one of the two, with the sum of its values. -/
theorem lookup_addAll_value (target source : ResourceList) (name : String) :
    (AList.lookup name (addAll target source)).map Quantity.value =
      Option.merge (· + ·) ((AList.lookup name target).map Quantity.value)
        ((AList.lookup name source).map Quantity.value) := by
  have h := GoMap.lookup_foldl_update (fun _ current q => (current.getD Quantity.zero).add q) source target name
  rw [addAll]
  simp only [qty] at h ⊢
  rw [h]
  cases AList.lookup name source <;> cases AList.lookup name target <;> simp

theorem qty_value (l : ResourceList) (name : String) :
    (l.qty name).value = ((AList.lookup name l).map Quantity.value).getD 0 := by
  rw [qty]
  cases AList.lookup name l <;> rfl

/-- The value of a resource after adding a list is the sum of its values. -/
theorem qty_addAll_value (target source : ResourceList) (name : String) :
    (qty (addAll target source) name).value = (qty target name).value + (qty source name).value := by
  simp only [qty_value, lookup_addAll_value]
  cases AList.lookup name source <;> cases AList.lookup name target <;> simp

end ResourceList
end KubeCell
