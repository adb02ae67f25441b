import KubeCell.Lib.Checks
import KubeCell.Suffix
import KubeCell.Validation

/-!
# The grammar of the suffix of hostnames

The checks of the suffix overlap: the lower case and the white space are those of Unicode, and some searches are for
what no label may hold. Together they come to the grammar of domain names in lower case, for any bytes. The check as
it stands for texts accepts the same.
-/

namespace KubeCell

open Checks GoString

/-- A label of a domain name in lower case. -/
def IsAppsLabel (label : GoString) : Prop :=
  1 ≤ label.length ∧ label.length ≤ 63 ∧ (∀ b ∈ label, legalRune b.toNat = true) ∧ label.head? ≠ some 0x2D ∧
    label.getLast? ≠ some 0x2D

/-- A domain name in lower case: labels with dots between them. -/
def IsAppsSuffix (value : GoString) : Prop :=
  value.length ≤ 253 ∧ ∃ labels, labels ≠ [] ∧ value = [0x2E].intercalate labels ∧ ∀ label ∈ labels, IsAppsLabel label

namespace SuffixAux

variable {unicodeToLower : Nat → Nat} {value : GoString}

theorem ascii_of_legalRune (r : Nat) (h : legalRune r = true) : r < 0x80 := by
  simp only [legalRune, Bool.or_eq_true, Bool.and_eq_true, decide_eq_true_eq, beq_iff_eq] at h
  omega

/-- A label begins with a byte if that is its first. -/
theorem isPrefixOf_singleton (b : UInt8) (label : GoString) : [b].isPrefixOf label = true ↔ label.head? = some b := by
  cases label with
  | nil => simp
  | cons c label =>
    rw [List.isPrefixOf, List.isPrefixOf, Bool.and_true, beq_iff_eq, List.head?_cons, Option.some.injEq, eq_comm]

/-- A label ends with a byte if that is its last. -/
theorem isSuffixOf_singleton (b : UInt8) (label : GoString) :
    [b].isSuffixOf label = true ↔ label.getLast? = some b := by
  rw [List.isSuffixOf, List.reverse_singleton, isPrefixOf_singleton, List.head?_reverse]

/-- A label is accepted when it is one. -/
theorem appsSuffixLabel_iff (label : GoString) : GoString.appsSuffixLabel label = .ok () ↔ IsAppsLabel label := by
  unfold GoString.appsSuffixLabel IsAppsLabel
  rw [ite_throw_eq_ok, ← runes_forall_iff ascii_of_legalRune]
  dsimp only
  cases hfind : (runes 0 label).find? fun r => !legalRune r with
  | some r =>
    have hillegal : ¬∀ r ∈ runes 0 label, legalRune r = true := by
      intro hall
      have hr := List.find?_some hfind
      rw [hall r (List.mem_of_find?_eq_some hfind)] at hr
      nomatch hr
    exact iff_of_false (fun h => nomatch h.2) fun h => hillegal h.2.2.1
  | none =>
    have hlegal : ∀ r ∈ runes 0 label, legalRune r = true := by
      intro r hr
      simpa using List.find?_eq_none.mp hfind r hr
    dsimp only
    rw [ite_throw_unit_eq_ok, isPrefixOf_singleton, isSuffixOf_singleton]
    constructor
    · rintro ⟨hlength, hhyphen⟩
      exact ⟨by omega, by omega, hlegal, fun h => hhyphen (Or.inl h), fun h => hhyphen (Or.inr h)⟩
    · rintro ⟨hpos, hle, -, hhead, hlast⟩
      exact ⟨by omega, fun h => h.elim hhead hlast⟩

/-- What stands between the members of a list, and they, make up the whole. -/
theorem mem_intercalate {b sep : UInt8} {labels : List GoString} (hb : b ∈ [sep].intercalate labels) :
    b = sep ∨ ∃ label ∈ labels, b ∈ label := by
  induction labels with
  | nil => nomatch hb
  | cons label labels ih =>
    cases labels with
    | nil => exact Or.inr ⟨label, List.mem_cons_self, by simpa using hb⟩
    | cons next labels =>
      rw [List.intercalate_cons_cons, List.mem_append, List.mem_append, List.mem_singleton] at hb
      rcases hb with (hlabel | hsep) | hrest
      · exact Or.inr ⟨label, List.mem_cons_self, hlabel⟩
      · exact Or.inl hsep
      · refine (ih hrest).imp_right ?_
        rintro ⟨l, hl, hbl⟩
        exact ⟨l, List.mem_cons_of_mem _ hl, hbl⟩

/-- A domain name is short, and what stands between its dots are labels. -/
theorem isAppsSuffix_iff {value : GoString} :
    IsAppsSuffix value ↔ value.length ≤ 253 ∧ ∀ label ∈ value.splitOn 0x2E, IsAppsLabel label := by
  constructor
  · rintro ⟨hlength, labels, hne, rfl, hlabels⟩
    refine ⟨hlength, ?_⟩
    rw [List.splitOn_intercalate _ (fun label hlabel hdot => ?_) hne]
    · exact hlabels
    · exact absurd ((hlabels label hlabel).2.2.1 _ hdot) (by decide)
  · rintro ⟨hlength, hlabels⟩
    exact ⟨hlength, value.splitOn 0x2E, List.splitOn_ne_nil _ _, (List.intercalate_splitOn _).symm, hlabels⟩

/-- The bytes of a domain name are those of its labels, and dots. -/
theorem legal_of_labels (h : ∀ label ∈ value.splitOn 0x2E, IsAppsLabel label) :
    ∀ b ∈ value, legalRune b.toNat = true ∨ b.toNat = 0x2E := by
  intro b hb
  rw [← @List.intercalate_splitOn _ value _ _ 0x2E] at hb
  rcases mem_intercalate hb with rfl | ⟨label, hlabel, hmem⟩
  · exact Or.inr rfl
  · exact Or.inl ((h label hlabel).2.2.1 b hmem)

/-- A byte that is no label's and no dot is not there. -/
theorem contains_eq_false (h : ∀ b ∈ value, legalRune b.toNat = true ∨ b.toNat = 0x2E) {c : UInt8}
    (hlegal : legalRune c.toNat = false) (hdot : c.toNat ≠ 0x2E) : ¬value.contains c = true := by
  intro hc
  rcases h c (List.contains_iff_mem.mp hc) with hl | hd
  · rw [hlegal] at hl
    nomatch hl
  · exact hdot hd

/-- What the grammar allows is lower case, holds neither slash nor colon, and is not blank. -/
theorem toLower_of_legal (h : ∀ b ∈ value, legalRune b.toNat = true ∨ b.toNat = 0x2E) :
    toLower unicodeToLower value = value := by
  refine toLower_eq_self unicodeToLower fun b hb => ?_
  rcases h b hb with hlegal | hdot
  · simp only [legalRune, Bool.or_eq_true, Bool.and_eq_true, decide_eq_true_eq, beq_iff_eq] at hlegal
    omega
  · omega

/-- Nor is it blank, unless it is empty. -/
theorem isAllSpace_of_legal (h : ∀ b ∈ value, legalRune b.toNat = true ∨ b.toNat = 0x2E) (hne : value ≠ []) :
    ¬isAllSpace value = true := by
  intro hblank
  obtain ⟨b, rest, rfl⟩ := List.exists_cons_of_ne_nil hne
  have hascii : ∀ b' ∈ b :: rest, b'.toNat < 0x80 := by
    intro b' hb'
    rcases h b' hb' with hl | hd
    · exact ascii_of_legalRune _ hl
    · omega
  rw [isAllSpace, runes_ascii hascii, List.map_cons, List.all_cons, Bool.and_eq_true] at hblank
  have hnone : ∀ n < 0x80, legalRune n = true ∨ n = 0x2E → isSpace (Char.ofNat n) = false := by decide
  rw [hnone _ (hascii b List.mem_cons_self) (h b List.mem_cons_self)] at hblank
  nomatch hblank.1

end SuffixAux

open SuffixAux

/-- A suffix is accepted exactly when it is a domain name in lower case, whatever its bytes and whatever
`unicode.ToLower` does. -/
theorem apps_suffix_iff (unicodeToLower : Nat → Nat) (value : GoString) :
    GoString.validateAppsSuffix unicodeToLower value = .ok () ↔ IsAppsSuffix value := by
  unfold GoString.validateAppsSuffix
  simp only [ite_throw_eq_ok, forM_eq_ok, appsSuffixLabel_iff, isAppsSuffix_iff]
  constructor
  · rintro ⟨-, -, -, -, hlength, hlabels⟩
    exact ⟨by omega, hlabels⟩
  · rintro ⟨hlength, hlabels⟩
    have hlegal := legal_of_labels hlabels
    have hnonempty : value ≠ [] := by
      rintro rfl
      exact absurd (hlabels [] List.mem_cons_self).1 (by decide)
    refine ⟨isAllSpace_of_legal hlegal hnonempty, ?_, contains_eq_false hlegal (by decide) (by decide),
      contains_eq_false hlegal (by decide) (by decide), by omega, hlabels⟩
    rw [toLower_of_legal hlegal]
    exact fun h => h rfl

namespace SuffixAux

/-! ## Texts -/

/-- The byte of an ASCII character. -/
def byteOf (c : Char) : UInt8 := c.val.toUInt8

/-- The byte of a character of ASCII is its code. -/
theorem toNat_byteOf {c : Char} (h : c.toNat < 0x80) : (byteOf c).toNat = c.toNat := by
  have hval : c.val.toNat < 0x80 := h
  rw [byteOf, UInt32.toNat_toUInt8]
  exact Nat.mod_eq_of_lt (by omega)

/-- Such bytes tell their characters apart. -/
theorem byteOf_inj {c d : Char} (hc : c.toNat < 0x80) (hd : d.toNat < 0x80) : byteOf c = byteOf d ↔ c = d := by
  rw [← UInt8.toNat_inj, toNat_byteOf hc, toNat_byteOf hd, Char.toNat_inj]

/-- The character of an ASCII byte. -/
def charOf (b : UInt8) : Char := Char.ofNat b.toNat

/-- The character of such a byte has its code. -/
theorem toNat_charOf {b : UInt8} (h : b.toNat < 0x80) : (charOf b).toNat = b.toNat := by
  have hall : ∀ n < 0x80, (Char.ofNat n).toNat = n := by decide
  exact hall b.toNat h

/-- Going there and back is nothing. -/
theorem byteOf_charOf {b : UInt8} (h : b.toNat < 0x80) : byteOf (charOf b) = b := by
  have hchar := toNat_charOf h
  rw [← UInt8.toNat_inj, toNat_byteOf (by omega), hchar]

/-- The bytes of a text of ASCII characters. -/
theorem ofText_ascii {text : String} (h : ∀ c ∈ text.toList, c.toNat < 0x80) :
    ofText text = text.toList.map byteOf := by
  have hencode : ∀ c ∈ text.toList, String.utf8EncodeChar c = [byteOf c] := by
    intro c hc
    have hsize : c.utf8Size = 1 :=
      Char.utf8Size_eq_one_iff.mpr (UInt32.le_iff_toNat_le.mpr (Nat.le_of_lt_succ (h c hc)))
    exact String.utf8EncodeChar_eq_singleton hsize
  rw [ofText, List.flatMap_congr hencode, List.map_eq_flatMap]

/-- The size of a text is the number of its bytes. -/
theorem utf8ByteSize_eq_length (text : String) : text.utf8ByteSize = (ofText text).length := by
  rw [← String.size_toByteArray, ← String.utf8Encode_toList, List.utf8Encode, ofText]
  simp

/-- The characters of labels are those whose bytes are in labels. -/
theorem legalRune_byteOf {c : Char} :
    (isLowerAlnum c || c == '-') = true ↔ c.toNat < 0x80 ∧ legalRune (byteOf c).toNat = true := by
  have hlegal : (isLowerAlnum c || c == '-') = legalRune c.toNat := by
    rw [isLowerAlnum, legalRune]
    congr 1
    rw [Bool.eq_iff_iff, beq_iff_eq, beq_iff_eq, ← Char.toNat_inj]
    rfl
  rw [hlegal]
  constructor
  · intro h
    have hascii := ascii_of_legalRune _ h
    exact ⟨hascii, by rwa [toNat_byteOf hascii]⟩
  · rintro ⟨hascii, h⟩
    rwa [toNat_byteOf hascii] at h

/-- Splitting at dots goes over to the bytes. -/
theorem splitOn_map_byteOf {l : List Char} (h : ∀ c ∈ l, c.toNat < 0x80) :
    (l.map byteOf).splitOn 0x2E = (splitAtChar '.' l).map (List.map byteOf) := by
  rw [splitAtChar_eq_splitOn]
  induction l with
  | nil => rfl
  | cons c l ih =>
    have hdot : byteOf c = 0x2E ↔ c = '.' := @byteOf_inj c '.' (h c List.mem_cons_self) (by decide)
    rw [List.map_cons, List.splitOn_cons_eq_if_modifyHead, List.splitOn_cons_eq_if_modifyHead,
      ih fun d hd => h d (List.mem_cons_of_mem _ hd)]
    by_cases hc : c = '.'
    · rw [if_pos (beq_iff_eq.mpr hc), if_pos (beq_iff_eq.mpr (hdot.mpr hc)), List.map_cons, List.map_nil]
    · rw [if_neg (by simpa using mt hdot.mp hc), if_neg (by simpa using hc)]
      cases l.splitOn '.' <;> rfl

/-- A label of a text is accepted when its bytes are a label. -/
theorem textLabel_iff (text : String) (label : List Char) :
    appsSuffixLabel text label = .ok () ↔ (∀ c ∈ label, c.toNat < 0x80) ∧ IsAppsLabel (label.map byteOf) := by
  unfold appsSuffixLabel IsAppsLabel
  rw [ite_throw_eq_ok, List.length_map, List.head?_map, List.getLast?_map]
  dsimp only
  cases hfind : label.find? fun c => !(isLowerAlnum c || c == '-') with
  | some c =>
    have hillegal : ¬((∀ c ∈ label, c.toNat < 0x80) ∧ ∀ b ∈ label.map byteOf, legalRune b.toNat = true) := by
      rintro ⟨hascii, hall⟩
      have hmem := List.mem_of_find?_eq_some hfind
      have hc := List.find?_some hfind
      rw [legalRune_byteOf.mpr ⟨hascii c hmem, hall _ (List.mem_map_of_mem hmem)⟩] at hc
      cases hc
    refine iff_of_false ?_ fun h => hillegal ⟨h.1, h.2.2.2.1⟩
    rintro ⟨-, h⟩
    cases h
  | none =>
    have hlegal : ∀ c ∈ label, c.toNat < 0x80 ∧ legalRune (byteOf c).toNat = true := by
      intro c hc
      have hfound := List.find?_eq_none.mp hfind c hc
      rw [Bool.not_eq_true, Bool.not_eq_false'] at hfound
      exact legalRune_byteOf.mp hfound
    have hascii : ∀ c ∈ label, c.toNat < 0x80 := fun c hc => (hlegal c hc).1
    have hhyphen : ∀ o : Option Char, (∀ c ∈ o, c ∈ label) → (o.map byteOf = some 0x2D ↔ o = some '-') := by
      intro o ho
      cases o with
      | none => simp
      | some c =>
        rw [Option.map_some, Option.some.injEq, Option.some.injEq]
        exact @byteOf_inj c '-' (hascii c (ho c rfl)) (by decide)
    dsimp only
    rw [ite_throw_unit_eq_ok, ← hhyphen _ fun c hc => List.mem_of_head? hc, ← hhyphen _ fun c hc =>
      List.mem_of_getLast? hc]
    constructor
    · rintro ⟨hlength, hends⟩
      refine ⟨hascii, by omega, by omega, ?_, fun h => hends (Or.inl h), fun h => hends (Or.inr h)⟩
      intro b hb
      obtain ⟨c, hc, rfl⟩ := List.mem_map.mp hb
      exact (hlegal c hc).2
    · rintro ⟨-, hpos, hle, -, hhead, hlast⟩
      exact ⟨by omega, fun h => h.elim hhead hlast⟩

/-- The characters of a text of labels, and of dots, are those of a name: lower case, and no white space. -/
theorem text_of_labels {text : String}
    (h : ∀ label ∈ splitAtChar '.' text.toList, appsSuffixLabel text label = .ok ()) :
    ∀ c ∈ text.toList, c.toNat < 0x80 ∧ (legalRune c.toNat = true ∨ c = '.') := by
  intro c hc
  rcases mem_of_splitAtChar '.' hc with rfl | ⟨label, hlabel, hmem⟩
  · exact ⟨by decide, Or.inr rfl⟩
  · obtain ⟨hascii, -, -, hlegal, -⟩ := (textLabel_iff text label).mp (h label hlabel)
    have hrune := hlegal _ (List.mem_map_of_mem hmem)
    rw [toNat_byteOf (hascii c hmem)] at hrune
    exact ⟨hascii c hmem, Or.inl hrune⟩

/-- What a text of labels and dots is made of is lower case, and neither white space nor a slash nor a colon. -/
theorem plain_of_legal {c : Char} (hascii : c.toNat < 0x80) (h : legalRune c.toNat = true ∨ c = '.') :
    c.toLower = c ∧ isSpace c = false ∧ c ≠ '/' ∧ c ≠ ':' := by
  have hall : ∀ n < 0x80, legalRune n = true ∨ n = 0x2E →
      (Char.ofNat n).toLower = Char.ofNat n ∧ isSpace (Char.ofNat n) = false ∧ Char.ofNat n ≠ '/' ∧
        Char.ofNat n ≠ ':' := by decide
  have hchar : Char.ofNat c.toNat = c := Char.ofNat_toNat c
  have hplain := hall c.toNat hascii (h.imp_right fun hdot => by rw [hdot]; rfl)
  rwa [hchar] at hplain

/-- A text is accepted when it is ASCII, and its bytes are a domain name in lower case. -/
theorem text_iff (text : String) :
    validateAppsSuffix text = .ok () ↔ (∀ c ∈ text.toList, c.toNat < 0x80) ∧ IsAppsSuffix (text.toList.map byteOf) := by
  simp only [validateAppsSuffix, ite_throw_eq_ok, forM_eq_ok, isAppsSuffix_iff]
  constructor
  · rintro ⟨-, -, -, -, hsize, hlabels⟩
    have hascii : ∀ c ∈ text.toList, c.toNat < 0x80 := fun c hc => (text_of_labels hlabels c hc).1
    rw [utf8ByteSize_eq_length, ofText_ascii hascii] at hsize
    refine ⟨hascii, by omega, fun label hlabel => ?_⟩
    rw [splitOn_map_byteOf hascii, List.mem_map] at hlabel
    obtain ⟨l, hl, rfl⟩ := hlabel
    exact ((textLabel_iff text l).mp (hlabels l hl)).2
  · rintro ⟨hascii, hlength, hlabels⟩
    have hparts : ∀ label ∈ splitAtChar '.' text.toList, appsSuffixLabel text label = .ok () := by
      intro label hlabel
      refine (textLabel_iff text label).mpr ⟨fun c hc => hascii c (mem_of_mem_splitAtChar '.' hlabel hc), hlabels _ ?_⟩
      rw [splitOn_map_byteOf hascii]
      exact List.mem_map_of_mem hlabel
    have hplain : ∀ c ∈ text.toList, c.toLower = c ∧ isSpace c = false ∧ c ≠ '/' ∧ c ≠ ':' := by
      intro c hc
      obtain ⟨hc', hlegal⟩ := text_of_labels hparts c hc
      exact plain_of_legal hc' hlegal
    refine ⟨?_, ?_, ?_, ?_, ?_, hparts⟩
    · rw [trimSpace_eq_self fun c hc => (hplain c hc).2.1]
      intro hempty
      have hlabel := hlabels [] (by rw [hempty]; exact List.mem_cons_self)
      exact absurd hlabel.1 (by decide)
    · have hlower : text.toLower.toList = text.toList.map Char.toLower := String.toList_map
      rw [not_not, ← String.toList_inj, hlower]
      exact ((List.map_congr_left fun c hc => (hplain c hc).1).trans (List.map_id _)).symm
    · intro hslash
      exact (hplain _ (List.contains_iff_mem.mp hslash)).2.2.1 rfl
    · intro hcolon
      exact (hplain _ (List.contains_iff_mem.mp hcolon)).2.2.2 rfl
    · rw [utf8ByteSize_eq_length, ofText_ascii hascii]
      omega

end SuffixAux

/-- The two forms of the check accept the same suffixes: every domain name in lower case is the text of a string. -/
theorem isAppsSuffix_iff_text (value : GoString) :
    IsAppsSuffix value ↔ ∃ text, value = ofText text ∧ validateAppsSuffix text = .ok () := by
  constructor
  · intro hvalue
    have hbytes : ∀ b ∈ value, b.toNat < 0x80 := by
      intro b hb
      rcases legal_of_labels (isAppsSuffix_iff.mp hvalue).2 b hb with hlegal | hdot
      · exact ascii_of_legalRune _ hlegal
      · omega
    have hascii : ∀ c ∈ (String.ofList (value.map charOf)).toList, c.toNat < 0x80 := by
      intro c hc
      rw [String.toList_ofList, List.mem_map] at hc
      obtain ⟨b, hb, rfl⟩ := hc
      exact lt_of_eq_of_lt (toNat_charOf (hbytes b hb)) (hbytes b hb)
    have hmap : (String.ofList (value.map charOf)).toList.map byteOf = value := by
      rw [String.toList_ofList, List.map_map]
      exact (List.map_congr_left fun b hb => byteOf_charOf (hbytes b hb)).trans (List.map_id _)
    refine ⟨String.ofList (value.map charOf), ?_, (text_iff _).mpr ⟨hascii, ?_⟩⟩
    · rw [ofText_ascii hascii, hmap]
    · rw [hmap]
      exact hvalue
  · rintro ⟨text, rfl, htext⟩
    obtain ⟨hascii, hsuffix⟩ := (text_iff text).mp htext
    rw [ofText_ascii hascii]
    exact hsuffix

end KubeCell
