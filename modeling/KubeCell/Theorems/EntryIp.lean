import KubeCell.Commands
import KubeCell.Lib.Checks

/-!
# The address in a suffix

The doctor takes the address of the entry of a host from the first labels of the suffix of hostnames. It adds up their
digits in 64-bit integers and compares only the sum, so a long label can pass for a small number.
-/

namespace KubeCell

open Checks

/-- The labels of a suffix. -/
def suffixLabels (suffix : String) : List (List Char) := splitAtChar '.' suffix.toList

/-- A number from 0 to 255, in decimal digits without leading zeros. -/
def IsOctetNumber (label : List Char) : Prop := ∃ n ≤ 255, label = Nat.toDigits 10 n

/-- What is extracted from a suffix is nothing, or the address that its first four labels are; and it is there when
they are one and another label follows. -/
structure EntryIPSound (suffix : String) : Prop where
  address : hostedEntryIP suffix = "" ∨ (4 ≤ (suffixLabels suffix).length ∧
    hostedEntryIP suffix = String.ofList (['.'].intercalate ((suffixLabels suffix).take 4)) ∧
      ∀ label ∈ (suffixLabels suffix).take 4, IsOctetNumber label)
  extracted : 5 ≤ (suffixLabels suffix).length → (∀ label ∈ (suffixLabels suffix).take 4, IsOctetNumber label) →
    hostedEntryIP suffix ≠ ""

/-- A number that is at most 255 as a signed integer of 64 bits. -/
def FitsWrapped (n : Nat) : Prop := n % 2 ^ 64 ≤ 255 ∨ 2 ^ 63 ≤ n % 2 ^ 64

/-- At least five labels, the first four of which are decimal numbers without leading zeros that all are at most 255
in 64 bits, while one of them is not. -/
def Overflows (suffix : String) : Prop :=
  5 ≤ (suffixLabels suffix).length ∧
    (∀ label ∈ (suffixLabels suffix).take 4, ∃ n, FitsWrapped n ∧ label = Nat.toDigits 10 n) ∧
    ∃ label ∈ (suffixLabels suffix).take 4, ∃ n > 255, label = Nat.toDigits 10 n

namespace EntryIpAux

/-! ## Labels -/

/-- The two tests for a digit agree. -/
theorem isDigit_iff {c : Char} : c.isDigit = true ↔ ¬(c < '0' ∨ '9' < c) := by
  rw [not_or, not_lt, not_lt, Char.isDigit_iff_toNat]
  rfl

/-- One turn of the loop over the characters of a label. -/
def addDigit (value : BitVec 64) (r : Char) : Option (BitVec 64) :=
  if r < '0' ∨ '9' < r then none else some (value * 10 + BitVec.ofNat 64 (r.toNat - '0'.toNat))

/-- A digit is appended to the number so far, of which the low 64 bits are kept. -/
theorem addDigit_digit {c : Char} (h : c.isDigit = true) (n : Nat) :
    addDigit (BitVec.ofNat 64 n) c = some (BitVec.ofNat 64 (10 * n + (c.toNat - '0'.toNat))) := by
  rw [addDigit, if_neg (isDigit_iff.mp h), BitVec.ofNat_add, BitVec.ofNat_mul, BitVec.mul_comm]
  rfl

/-- Digits are read with wrap-around. -/
theorem foldlM_digits {l : List Char} (h : ∀ c ∈ l, c.isDigit = true) (n : Nat) :
    l.foldlM addDigit (BitVec.ofNat 64 n) = some (BitVec.ofNat 64 (Nat.ofDigitChars 10 l n)) := by
  induction l generalizing n with
  | nil => rfl
  | cons c l ih =>
    rw [List.foldlM_cons, addDigit_digit (h c List.mem_cons_self), Option.bind_eq_bind, Option.bind_some,
      ih fun d hd => h d (List.mem_cons_of_mem _ hd), Nat.ofDigitChars_cons]

theorem foldlM_other {l : List Char} (h : ¬∀ c ∈ l, c.isDigit = true) (value : BitVec 64) :
    l.foldlM addDigit value = none := by
  induction l generalizing value with
  | nil => exact absurd (by simp) h
  | cons c l ih =>
    rw [List.foldlM_cons, addDigit]
    split_ifs with hc
    · rfl
    · refine ih (fun hall => h fun d hd => ?_) _
      rcases List.mem_cons.mp hd with rfl | hd
      · exact isDigit_iff.mpr hc
      · exact hall d hd

/-- A label of digits spells a number, of which the low 64 bits are kept. -/
theorem octetValue_digits {label : List Char} (h : ∀ c ∈ label, c.isDigit = true) :
    octetValue label = some (BitVec.ofNat 64 (Nat.ofDigitChars 10 label 0)) := foldlM_digits h 0

/-- A label with anything but digits spells no number. -/
theorem octetValue_other {label : List Char} (h : ¬∀ c ∈ label, c.isDigit = true) : octetValue label = none :=
  foldlM_other h 0

/-- The comparison with 255 is one of signed integers. -/
theorem not_slt_iff (n : Nat) : (255#64).slt (BitVec.ofNat 64 n) = false ↔ FitsWrapped n := by
  rw [← Bool.not_eq_true, BitVec.slt_iff_toInt_lt, BitVec.toInt_eq_toNat_cond (BitVec.ofNat 64 n),
    BitVec.toNat_ofNat, FitsWrapped]
  have h255 : (255#64).toInt = 255 := by decide
  rw [h255]
  split_ifs with hsmall
  · omega
  · omega

/-- The digits of a number are read as that number. -/
theorem ofDigitChars_of_eq {label : List Char} {n : Nat} (h : label = Nat.toDigits 10 n) :
    Nat.ofDigitChars 10 label 0 = n := by
  rw [h, Nat.ofDigitChars_ten_toDigits]

/-- The loop takes a label for an octet when it is a decimal number without leading zeros that is
at most 255 in 64 bits. -/
theorem isOctet_iff {label : List Char} (hne : label ≠ []) :
    isOctet label = true ↔ ∃ n, FitsWrapped n ∧ label = Nat.toDigits 10 n := by
  have hnumber : (∃ n, FitsWrapped n ∧ label = Nat.toDigits 10 n) ↔
      FitsWrapped (Nat.ofDigitChars 10 label 0) ∧ label = Nat.toDigits 10 (Nat.ofDigitChars 10 label 0) := by
    constructor
    · rintro ⟨n, hn, hlabel⟩
      rw [ofDigitChars_of_eq hlabel]
      exact ⟨hn, hlabel⟩
    · exact fun h => ⟨_, h⟩
  rw [hnumber, eq_toDigits_iff, isOctet]
  by_cases hdigits : ∀ c ∈ label, c.isDigit = true
  · rw [octetValue_digits hdigits]
    have hzero : (decide (label.length > 1) && label.head? == some '0') = false ↔
      ¬(1 < label.length ∧ label.head? = some '0') := by
      rw [← Bool.not_eq_true, Bool.and_eq_true, decide_eq_true_eq, beq_iff_eq]
    simp only [Bool.not_eq_true', Bool.or_eq_false_iff, not_slt_iff, hzero]
    exact and_congr_right fun _ => ⟨fun hzero => ⟨hne, hdigits, hzero⟩, fun h => h.2.2⟩
  · rw [octetValue_other hdigits]
    exact iff_of_false nofun fun h => hdigits h.2.2.1

/-- A number is an octet when it is at most 255, and then it is one in 64 bits as well. -/
theorem isOctet_of_number {label : List Char} (h : IsOctetNumber label) : isOctet label = true := by
  obtain ⟨n, hn, rfl⟩ := h
  refine (isOctet_iff Nat.toDigits_ne_nil).mpr ⟨n, Or.inl ?_, rfl⟩
  exact (Nat.mod_le _ _).trans hn

/-! ## Suffixes -/

variable {suffix : String}

/-- The labels of a suffix that is accepted are not empty. -/
theorem label_ne_nil (h : validateAppsSuffix suffix = .ok ()) : ∀ label ∈ suffixLabels suffix, label ≠ [] := by
  simp only [validateAppsSuffix, ite_throw_eq_ok, forM_eq_ok] at h
  obtain ⟨-, -, -, -, -, hlabels⟩ := h
  rintro label hlabel rfl
  have hempty := hlabels [] hlabel
  rw [appsSuffixLabel, ite_throw_eq_ok] at hempty
  exact hempty.1 (Or.inl rfl)

/-- When something is extracted. -/
theorem hostedEntryIP_cases (suffix : String) :
    (5 ≤ (suffixLabels suffix).length ∧ (∀ label ∈ (suffixLabels suffix).take 4, isOctet label = true) ∧
      hostedEntryIP suffix = String.ofList (['.'].intercalate ((suffixLabels suffix).take 4))) ∨
    (¬(5 ≤ (suffixLabels suffix).length ∧ ∀ label ∈ (suffixLabels suffix).take 4, isOctet label = true) ∧
      hostedEntryIP suffix = "") := by
  rw [hostedEntryIP, ← suffixLabels]
  split_ifs with hfew hall
  · exact Or.inr ⟨fun h => absurd h.1 (by omega), rfl⟩
  · exact Or.inl ⟨by omega, List.all_eq_true.mp hall, rfl⟩
  · exact Or.inr ⟨fun h => hall (List.all_eq_true.mpr h.2), rfl⟩

/-- Labels that pass for an address are one when no number among them is too large. -/
theorem octetNumbers_iff (hne : ∀ label ∈ suffixLabels suffix, label ≠ []) (hmany : 5 ≤ (suffixLabels suffix).length)
    (hoctets : ∀ label ∈ (suffixLabels suffix).take 4, isOctet label = true) :
    (∀ label ∈ (suffixLabels suffix).take 4, IsOctetNumber label) ↔ ¬Overflows suffix := by
  have hnumbers : ∀ label ∈ (suffixLabels suffix).take 4, ∃ n, FitsWrapped n ∧ label = Nat.toDigits 10 n := by
    intro label hlabel
    exact (isOctet_iff (hne label (List.mem_of_mem_take hlabel))).mp (hoctets label hlabel)
  constructor
  · rintro hall ⟨-, -, label, hlabel, n, hn, heq⟩
    obtain ⟨m, hm, heq'⟩ := hall label hlabel
    have hsame : n = m := (ofDigitChars_of_eq heq).symm.trans (ofDigitChars_of_eq heq')
    omega
  · intro hno label hlabel
    obtain ⟨n, -, heq⟩ := hnumbers label hlabel
    refine ⟨n, Nat.le_of_not_lt fun hn => hno ⟨hmany, hnumbers, label, hlabel, n, hn, heq⟩, heq⟩

/-- The first four of at least five labels make up a text. -/
theorem joined_ne_empty {labels : List (List Char)} (hmany : 5 ≤ labels.length) :
    String.ofList (['.'].intercalate (labels.take 4)) ≠ "" := by
  obtain ⟨a, b, c, d, e, rest, rfl⟩ : ∃ a b c d e rest, labels = a :: b :: c :: d :: e :: rest := by
    match labels, hmany with
    | a :: b :: c :: d :: e :: rest, _ => exact ⟨a, b, c, d, e, rest, rfl⟩
  intro h
  have hlist := congrArg String.toList h
  simp [List.intercalate_cons_cons] at hlist

end EntryIpAux

open EntryIpAux

/-- Of a suffix that is accepted only an address is extracted, unless a number among its first four labels is too
large and all of them are at most 255 in 64 bits. -/
theorem entry_ip_sound_iff (suffix : String) (hsuffix : validateAppsSuffix suffix = .ok ()) :
    EntryIPSound suffix ↔ ¬Overflows suffix := by
  have hne := label_ne_nil hsuffix
  rcases hostedEntryIP_cases suffix with ⟨hmany, hoctets, hip⟩ | ⟨hnone, hip⟩
  · have hnonempty : hostedEntryIP suffix ≠ "" := by
      rw [hip]
      exact joined_ne_empty hmany
    rw [← octetNumbers_iff hne hmany hoctets]
    constructor
    · intro hsound
      exact (hsound.address.resolve_left hnonempty).2.2
    · intro hnumbers
      exact ⟨Or.inr ⟨by omega, hip, hnumbers⟩, fun _ _ => hnonempty⟩
  · -- nothing is extracted, and rightly so: some label is no octet, not even in 64 bits
    refine iff_of_true ⟨Or.inl hip, fun hmany hnumbers => ?_⟩ fun hoverflows => ?_
    · exact absurd ⟨hmany, fun label hlabel => isOctet_of_number (hnumbers label hlabel)⟩ hnone
    · refine hnone ⟨hoverflows.1, fun label hlabel => ?_⟩
      exact (isOctet_iff (hne label (List.mem_of_mem_take hlabel))).mpr (hoverflows.2.1 label hlabel)

/-- A suffix that starts with an address is sound. -/
theorem entry_ip_sound_sample :
    validateAppsSuffix "203.0.113.10.nip.io" = .ok () ∧ EntryIPSound "203.0.113.10.nip.io" := by
  have hsuffix : validateAppsSuffix "203.0.113.10.nip.io" = .ok () := by decide +kernel
  refine ⟨hsuffix, (entry_ip_sound_iff "203.0.113.10.nip.io" hsuffix).mpr ?_⟩
  rintro ⟨-, -, label, hlabel, n, hn, heq⟩
  have hsmall : ∀ label ∈ (suffixLabels "203.0.113.10.nip.io").take 4, Nat.ofDigitChars 10 label 0 ≤ 255 := by
    decide +kernel
  have hvalue := hsmall label hlabel
  rw [ofDigitChars_of_eq heq] at hvalue
  omega

/-- A first label of 2 ^ 64 + 1 passes for 1, and the label itself is extracted. -/
theorem entry_ip_sound_false : ¬∀ suffix, validateAppsSuffix suffix = .ok () → EntryIPSound suffix := by
  intro h
  have hsound := h "18446744073709551617.0.0.1.nip.io" (by decide +kernel)
  have hip : hostedEntryIP "18446744073709551617.0.0.1.nip.io" = "18446744073709551617.0.0.1" := by decide +kernel
  rcases hsound.address with hempty | ⟨-, -, hnumbers⟩
  · rw [hip] at hempty
    exact absurd hempty (by decide)
  · obtain ⟨n, hn, heq⟩ := hnumbers "18446744073709551617".toList (by decide +kernel)
    have hvalue : Nat.ofDigitChars 10 "18446744073709551617".toList 0 = 18446744073709551617 := by decide +kernel
    rw [ofDigitChars_of_eq heq] at hvalue
    omega

end KubeCell
