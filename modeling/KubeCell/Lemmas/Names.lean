import KubeCell.Admission
import KubeCell.Validation

/-!
# Names

Which characters the names that pass the validators are made of, and that lists of such names survive
being written with commas.
-/

namespace KubeCell

/-- A character of a qualified name. -/
def isNameChar (c : Char) : Bool := isAlnum c || c == '-' || c == '_' || c == '.' || c == '/'

namespace NamesAux

/-- The characters of names are in a range without white space. -/
theorem nameChar_range {c : Char} (h : isNameChar c = true) : 0x2D ≤ c.toNat ∧ c.toNat ≤ 0x7A := by
  simp only [isNameChar, isAlnum, isLowerAlnum, Bool.or_eq_true, Bool.and_eq_true, decide_eq_true_eq,
    beq_iff_eq, Char.le_def,
    UInt32.le_iff_toNat_le] at h
  rcases h with (((((h | h) | h) | rfl) | rfl) | rfl) | rfl
  · exact ⟨Nat.le_trans (by decide) h.1, h.2⟩
  · exact ⟨Nat.le_trans (by decide) h.1, Nat.le_trans h.2 (by decide)⟩
  · exact ⟨Nat.le_trans (by decide) h.1, Nat.le_trans h.2 (by decide)⟩
  all_goals decide

/-- A character of a name is no white space and no comma. -/
theorem nameChar_plain {c : Char} (h : isNameChar c = true) : isSpace c = false ∧ c ≠ ',' := by
  constructor
  · obtain ⟨hlow, hhigh⟩ := nameChar_range h
    simp only [isSpace, List.mem_cons, List.not_mem_nil, or_false, Bool.or_eq_false_iff, Bool.and_eq_false_imp,
      decide_eq_false_iff_not,
      decide_eq_true_eq]
    omega
  · rintro rfl
    exact absurd h (by decide)

/-- A name passes as a DNS subdomain when it is short and made of labels. -/
theorem subdomain_iff {value : String} : isDNS1123Subdomain value = [] ↔
    value.toList.length ≤ 253 ∧ ∀ label ∈ splitAtChar '.' value.toList, isDNSLabel label = true := by
  rw [isDNS1123Subdomain, List.append_eq_nil_iff, String.length_toList]
  split_ifs with hlength hall hall
  · simp [hlength]
  · simp [hlength]
  · exact iff_of_true ⟨rfl, rfl⟩ ⟨Nat.not_lt.mp hlength, List.all_eq_true.mp hall⟩
  · exact iff_of_false (fun h => nomatch h.2) fun h => hall (List.all_eq_true.mpr h.2)

/-- A name that passes as a DNS subdomain is made of labels. -/
theorem labels_of_subdomain {value : String} (h : isDNS1123Subdomain value = []) :
    ∀ label ∈ splitAtChar '.' value.toList, isDNSLabel label = true := (subdomain_iff.mp h).2

/-- The labels of two texts with a dot between them are the labels of the one and of the other. -/
theorem labels_append (l l' : List Char) :
    splitAtChar '.' (l ++ '.' :: l') = splitAtChar '.' l ++ splitAtChar '.' l' := by
  simp only [splitAtChar_eq_splitOn]
  exact List.splitOn_append_cons_self l l'

/-- Its characters are those of a name. -/
theorem nameChar_of_subdomain {value : String} (h : isDNS1123Subdomain value = []) :
    ∀ c ∈ value.toList, isNameChar c = true ∧ c ≠ '/' := by
  intro c hc
  rcases mem_of_splitAtChar '.' hc with rfl | ⟨label, hlabel, hmem⟩
  · decide
  · have hvalid := labels_of_subdomain h label hlabel
    simp only [isDNSLabel, Bool.and_eq_true, List.all_eq_true] at hvalid
    have hchar := hvalid.1.1 c hmem
    constructor
    · simp only [Bool.or_eq_true, beq_iff_eq] at hchar
      rcases hchar with hchar | rfl
      · simp [isNameChar, isAlnum, hchar]
      · decide
    · rintro rfl
      exact absurd hchar (by decide)

/-- The characters of an extended resource name are those of a name. -/
theorem nameChar_of_extended {value : String} (h : isExtendedResourceName value = true) :
    ∀ c ∈ value.toList, isNameChar c = true := by
  intro c hc
  rw [isExtendedResourceName] at h
  split at h
  · rename_i domain name hparts
    simp only [Bool.and_eq_true, List.isEmpty_iff] at h
    obtain ⟨⟨-, hdomain⟩, hqualified⟩ := h
    rw [isQualifiedName, hparts, List.append_eq_nil_iff, qualifiedNamePart, List.append_eq_nil_iff] at hqualified
    obtain ⟨-, -, hname⟩ := hqualified
    split_ifs at hname with hchars
    rcases mem_of_splitAtChar '/' hc with rfl | ⟨part, hpart, hmem⟩
    · decide
    · rw [hparts, List.mem_cons, List.mem_singleton] at hpart
      rcases hpart with rfl | rfl
      · exact (nameChar_of_subdomain hdomain c (by simpa using hmem)).1
      · simp only [Bool.and_eq_true, List.all_eq_true] at hchars
        have hchar := hchars.1.1 c hmem
        simp [isNameChar, hchar]
  · nomatch h

/-- Names that are written with commas are read back. -/
theorem splitCSV_intercalate {values : List String}
    (h : ∀ value ∈ values, value ≠ "" ∧ ∀ c ∈ value.toList, isNameChar c = true) :
    splitCSV (",".intercalate values) = values := by
  rcases eq_or_ne values [] with rfl | hne
  · decide
  have hplain : ∀ value ∈ values, ∀ c ∈ value.toList, isSpace c = false ∧ c ≠ ',' :=
    fun value hvalue c hc => nameChar_plain ((h value hvalue).2 c hc)
  have hparts : splitAtChar ',' (",".intercalate values).toList = values.map String.toList := by
    rw [splitAtChar_eq_splitOn, String.toList_intercalate]
    refine List.splitOn_intercalate ',' (fun l hl hmem => ?_) (by simpa using hne)
    obtain ⟨value, hvalue, rfl⟩ := List.mem_map.mp hl
    exact (hplain value hvalue _ hmem).2 rfl
  have htrim : (values.map String.toList).map trimSpace = values.map String.toList := by
    rw [List.map_map]
    exact List.map_congr_left fun value hvalue => trimSpace_eq_self fun c hc => (hplain value hvalue c hc).1
  rw [splitCSV, hparts, htrim, List.filterMap_map]
  refine (List.filterMap_congr fun value hvalue => ?_).trans List.filterMap_some
  rw [Function.comp_apply, if_neg, String.ofList_toList]
  rw [String.toList_eq_nil_iff]
  exact (h value hvalue).1

end NamesAux
end KubeCell
