import KubeCell.Lemmas.Mirror
import KubeCell.Lemmas.Names
import KubeCell.Ocm
import KubeCell.Semantics
import KubeCell.Theorems.Drift

namespace KubeCell

/-!
# Which labels the API server takes

The labels of the rendered objects are names that were validated as names of objects, which may have up to 253
characters; the value of a label may have 63. All else in the labels is short.
-/

open MirrorAux NamesAux

/-- Every label has a value that the API server takes. -/
def LegalLabels (labels : StringMap) : Prop :=
  ∀ key value, AList.lookup key labels = some value → isLabelValue value = true

/-- The labels of a Work, and of the objects it carries, are legal. -/
def ManifestWork.Legal (work : ManifestWork) : Prop :=
  LegalLabels work.metadata.labels ∧ ∀ manifest ∈ work.manifests, LegalLabels manifest.metadata.labels

/-- The objects that are mirrored for a VirtualCluster: nothing, or what is rendered for some backends. -/
def IsMirror (cluster : VirtualCluster) (resolved : ResolvedSnapshot) (mirrored : List Manifest) : Prop :=
  mirrored = [] ∨ ∃ appsSuffix backends, renderIngressMirror cluster resolved appsSuffix backends = .ok mirrored

/-- Both Works of a VirtualCluster are legal, whatever the addresses of the host and whatever is mirrored. -/
def WorksLegal (cluster : VirtualCluster) (resolved : ResolvedSnapshot) : Prop :=
  ∀ addresses managedCluster mirrored, IsMirror cluster resolved mirrored →
    (buildFoundationWork cluster resolved (cluster.renderNames addresses) managedCluster).Legal ∧
      (buildInstanceWork cluster resolved (cluster.renderNames addresses) managedCluster mirrored).Legal

namespace LabelsAux

/-! ## Values -/

/-- A text of characters of a name, the first and the last of which are letters or digits. -/
theorem isLabelValue_iff {value : String} (hchars : ∀ c ∈ value.toList, isNameChar c = true ∧ c ≠ '/')
    (hfirst : value.toList.head?.any isAlnum = true) (hlast : value.toList.getLast?.any isAlnum = true) :
    isLabelValue value = true ↔ value.length ≤ 63 := by
  have hall : value.toList.all (fun c => isAlnum c || c == '-' || c == '_' || c == '.') = true := by
    rw [List.all_eq_true]
    intro c hc
    obtain ⟨hchar, hslash⟩ := hchars c hc
    simpa [isNameChar, hslash] using hchar
  simp [isLabelValue, hall, hfirst, hlast]

/-- A lower letter or digit is a letter or digit. -/
theorem isAlnum_of_lower {c : Char} (h : isLowerAlnum c = true) : isAlnum c = true := by simp [isAlnum, h]

/-- A text that is made of labels of a DNS name starts and ends with a letter or a digit. -/
theorem ends_of_labels {l : List Char} (h : ∀ label ∈ splitAtChar '.' l, isDNSLabel label = true) :
    l.head?.any isAlnum = true ∧ l.getLast?.any isAlnum = true := by
  have hnil : isDNSLabel [] = false := rfl
  constructor
  · cases l with
    | nil => exact absurd (h [] (by simp [splitAtChar])) (by simp [hnil])
    | cons c cs =>
      by_cases hc : c = '.'
      · exact absurd (h [] (by simp [splitAtChar, hc])) (by simp [hnil])
      · obtain ⟨part, rest, hparts⟩ : ∃ part rest, splitAtChar '.' (c :: cs) = (c :: part) :: rest := by
          rw [splitAtChar, if_neg hc]
          cases splitAtChar '.' cs with
          | nil => exact ⟨[], [], rfl⟩
          | cons part rest => exact ⟨part, rest, rfl⟩
        have hlabel := h (c :: part) (by simp [hparts])
        simp only [isDNSLabel, Bool.and_eq_true, List.head?_cons, Option.any_some] at hlabel
        exact isAlnum_of_lower hlabel.1.2
  · rcases List.eq_nil_or_concat l with rfl | ⟨rest, c, rfl⟩
    · exact absurd (h [] (by simp [splitAtChar])) (by simp [hnil])
    · rw [List.concat_eq_append] at h ⊢
      by_cases hc : c = '.'
      · subst hc
        rw [labels_append] at h
        exact absurd (h [] (by simp [splitAtChar])) (by simp [hnil])
      · obtain ⟨part, hpart, hlast⟩ := getLast_of_splitAtChar hc rest
        have hlabel := h part hpart
        simp only [isDNSLabel, Bool.and_eq_true, hlast, Option.any_some] at hlabel
        simpa using isAlnum_of_lower hlabel.2

/-- The name of an object is a value of a label when it is short. -/
theorem isLabelValue_subdomain {value : String} (h : isDNS1123Subdomain value = []) :
    isLabelValue value = true ↔ value.length ≤ 63 := by
  obtain ⟨hfirst, hlast⟩ := ends_of_labels (labels_of_subdomain h)
  exact isLabelValue_iff (nameChar_of_subdomain h) hfirst hlast

/-- A short text of letters and digits is a value of a label. -/
theorem isLabelValue_alnum {value : String} (hchars : ∀ c ∈ value.toList, isAlnum c = true)
    (hlength : value.length ≤ 63) :
    isLabelValue value = true := by
  have hall : value.toList.all (fun c => isAlnum c || c == '-' || c == '_' || c == '.') = true := by
    rw [List.all_eq_true]
    intro c hc
    simp [hchars c hc]
  by_cases hne : value = ""
  · simp [hne, isLabelValue]
  · have hlist : value.toList ≠ [] := by simpa using hne
    have hfirst : value.toList.head?.any isAlnum = true := by
      rw [List.head?_eq_some_head hlist]
      exact hchars _ (List.head_mem hlist)
    have hlast : value.toList.getLast?.any isAlnum = true := by
      rw [List.getLast?_eq_some_getLast hlist]
      exact hchars _ (List.getLast_mem hlist)
    simp [isLabelValue, hlength, hall, hfirst, hlast]

/-- A digest is written in letters and digits. -/
theorem alnum_hexEncode (bytes : List UInt8) : ∀ c ∈ (hexEncode bytes).toList, isAlnum c = true := by
  have hdigit : ∀ n < 16, isAlnum (Nat.digitChar n) = true := by decide
  intro c hc
  rw [hexEncode, String.toList_ofList, List.mem_flatMap] at hc
  obtain ⟨b, -, hc⟩ := hc
  have hb : b.toNat < 256 := b.toNat_lt
  simp only [hexByte, List.mem_cons, List.not_mem_nil, or_false] at hc
  rcases hc with rfl | rfl
  · exact hdigit _ (by omega)
  · exact hdigit _ (by omega)

/-- The hash of a profile is a value of a label. -/
theorem isLabelValue_profileHash (Γ : Ctx) (value : String) : isLabelValue (profileHash Γ value) = true := by
  refine isLabelValue_alnum (alnum_hexEncode _) ?_
  rw [profileHash, hexEncode, String.length_ofList, List.length_flatMap]
  have hbytes : ∀ l : List UInt8, (l.map fun b => (hexByte b).length).sum = 2 * l.length := by
    intro l
    induction l with
    | nil => rfl
    | cons b l ih =>
      have hbyte : (hexByte b).length = 2 := rfl
      rw [List.map_cons, List.sum_cons, ih, hbyte, List.length_cons]
      omega
  rw [hbytes, List.length_take]
  omega

/-- A short text with dashes inside is a value of a label. -/
theorem isLabelValue_dashed {l m r : List Char} (hl : ∀ c ∈ l, isAlnum c = true)
    (hm : ∀ c ∈ m, isAlnum c = true ∨ c = '-') (hr : ∀ c ∈ r, isAlnum c = true) (hl' : l ≠ []) (hr' : r ≠ [])
    (hlength : l.length + m.length + r.length ≤ 63) :
    isLabelValue (String.ofList (l ++ m ++ r)) = true := by
  refine (isLabelValue_iff ?_ ?_ ?_).mpr ?_
  · intro c hc
    have hcases : isAlnum c = true ∨ c = '-' := by
      rw [String.toList_ofList, List.mem_append, List.mem_append] at hc
      rcases hc with (hc | hc) | hc
      · exact Or.inl (hl c hc)
      · exact hm c hc
      · exact Or.inl (hr c hc)
    rcases hcases with halnum | rfl
    · refine ⟨by simp [isNameChar, halnum], ?_⟩
      rintro rfl
      exact absurd halnum (by decide)
    · decide
  · obtain ⟨c, l, rfl⟩ := List.exists_cons_of_ne_nil hl'
    simpa using hl c List.mem_cons_self
  · rw [String.toList_ofList, List.getLast?_append_of_ne_nil _ hr', List.getLast?_eq_some_getLast hr']
    exact hr _ (List.getLast_mem hr')
  · rw [String.length_ofList, List.length_append, List.length_append]
    exact hlength

/-- The parts of a UUID. -/
theorem parts_of_uuid {uid : String} (h : isUUID uid = true) : ∃ a b c d e : List Char,
    uid.toList = a ++ ('-' :: b ++ '-' :: c ++ '-' :: d ++ ['-']) ++ e ∧ a.length = 8 ∧ b.length = 4 ∧
      c.length = 4 ∧ d.length = 4 ∧
      e.length = 12 ∧ ∀ part ∈ [a, b, c, d, e], ∀ x ∈ part, isHexDigit x = true := by
  simp only [isUUID, Bool.and_eq_true, beq_iff_eq, List.all_eq_true, splitAtChar_eq_splitOn] at h
  obtain ⟨hlengths, hdigits⟩ := h
  have hjoin : ['-'].intercalate (uid.toList.splitOn '-') = uid.toList := List.intercalate_splitOn '-'
  obtain ⟨a, b, c, d, e, hparts⟩ : ∃ a b c d e, uid.toList.splitOn '-' = [a, b, c, d, e] := by
    have hcount : (uid.toList.splitOn '-').length = 5 := by simpa using congrArg List.length hlengths
    match uid.toList.splitOn '-', hcount with
    | [a, b, c, d, e], _ => exact ⟨a, b, c, d, e, rfl⟩
  rw [hparts] at hlengths hdigits hjoin
  simp only [List.map_cons, List.map_nil, List.cons.injEq, and_true] at hlengths
  obtain ⟨ha, hb, hc, hd, he⟩ := hlengths
  refine ⟨a, b, c, d, e, ?_, ha, hb, hc, hd, he, hdigits⟩
  rw [← hjoin]
  simp [List.intercalate_cons_cons]

/-- A digit of a hash is a lower letter or digit. -/
theorem isLowerAlnum_of_hexDigit {c : Char} (h : isHexDigit c = true) : isLowerAlnum c = true := by
  simp only [isHexDigit, Bool.or_eq_true, Bool.and_eq_true, decide_eq_true_eq] at h
  rcases h with h | h
  · simp [isLowerAlnum, h]
  · have hz : c ≤ 'z' := le_trans h.2 (by decide)
    simp [isLowerAlnum, h.1, hz]

theorem isAlnum_of_hexDigit {c : Char} (h : isHexDigit c = true) : isAlnum c = true :=
  isAlnum_of_lower (isLowerAlnum_of_hexDigit h)

/-- A digit of a hash is in lower case. -/
theorem toLower_hexDigit {c : Char} (h : isHexDigit c = true) : c.toLower = c := by
  have hupper : ¬(c.val ≥ 'A'.val ∧ c.val ≤ 'Z'.val) := by
    rintro ⟨hA, hZ⟩
    simp only [isHexDigit, Bool.or_eq_true, Bool.and_eq_true, decide_eq_true_eq] at h
    rcases h with ⟨-, h9⟩ | ⟨ha, -⟩
    · exact absurd (le_trans hA h9) (by decide)
    · exact absurd (le_trans ha hZ) (by decide)
  exact dif_neg hupper

/-- The part of a UUID that goes into names is its first group of digits, as it stands. -/
theorem uidPart_of_uuid {uid : String} (h : isUUID uid = true) :
    uidPart uid = uid.toList.take 8 ∧ (uidPart uid).length = 8 ∧ ∀ c ∈ uidPart uid, isHexDigit c = true := by
  obtain ⟨a, b, c, d, e, hlist, ha, -, -, -, -, hdigits⟩ := parts_of_uuid h
  have hlower : a.map Char.toLower = a := by
    refine (List.map_congr_left fun x hx => ?_).trans (List.map_id a)
    exact toLower_hexDigit (hdigits a (by simp) x hx)
  have hpart : uidPart uid = a := by
    rw [uidPart, hlist, List.append_assoc, List.map_append, hlower, List.take_append_of_le_length (by omega),
      List.take_of_length_le (by omega)]
  have htake : uid.toList.take 8 = a := by
    rw [hlist, List.append_assoc, List.take_append_of_le_length (by omega), List.take_of_length_le (by omega)]
  rw [hpart, htake]
  exact ⟨rfl, ha, hdigits a (by simp)⟩

/-- A UUID is a value of a label, and so is the name of a K3k cluster, which starts with a part of one. -/
theorem isLabelValue_uuid {uid : String} (h : isUUID uid = true) :
    isLabelValue uid = true ∧ isLabelValue ("kc-" ++ String.ofList (uidPart uid)) = true := by
  obtain ⟨a, b, c, d, e, hlist, ha, hb, hc, hd, he, hdigits⟩ := parts_of_uuid h
  have halnum : ∀ part ∈ [a, b, c, d, e], ∀ x ∈ part, isAlnum x = true := by
    intro part hpart x hx
    exact isAlnum_of_hexDigit (hdigits part hpart x hx)
  constructor
  · have huid : uid = String.ofList (a ++ ('-' :: b ++ '-' :: c ++ '-' :: d ++ ['-']) ++ e) := by
      rw [← hlist, String.ofList_toList]
    rw [huid]
    refine isLabelValue_dashed (halnum a (by simp)) ?_ (halnum e (by simp)) ?_ ?_ ?_
    · intro x hx
      simp only [List.cons_append, List.append_assoc, List.mem_cons, List.mem_append, List.not_mem_nil, or_false] at hx
      rcases hx with hx | hx | hx | hx | hx | hx | hx
      · exact Or.inr hx
      · exact Or.inl (halnum b (by simp) x hx)
      · exact Or.inr hx
      · exact Or.inl (halnum c (by simp) x hx)
      · exact Or.inr hx
      · exact Or.inl (halnum d (by simp) x hx)
      · exact Or.inr hx
    · exact List.ne_nil_of_length_pos (by omega)
    · exact List.ne_nil_of_length_pos (by omega)
    · simp only [List.length_append, List.length_cons, List.length_nil]
      omega
  · obtain ⟨-, hlength, hpart⟩ := uidPart_of_uuid h
    have hname : "kc-" ++ String.ofList (uidPart uid) = String.ofList (['k', 'c'] ++ ['-'] ++ uidPart uid) := by
      rw [← String.toList_inj]
      simp
    rw [hname]
    refine isLabelValue_dashed (List.all_eq_true.mp rfl) (by simp)
      (fun x hx => isAlnum_of_hexDigit (hpart x hx)) (by simp)
      (List.ne_nil_of_length_pos (by omega)) ?_
    simp only [List.length_cons, List.length_nil]
    omega

/-! ## Maps -/

theorem legalLabels_insert {labels : StringMap} (h : LegalLabels labels) {key value : String}
    (hvalue : isLabelValue value = true) :
    LegalLabels (labels.insert key value) := by
  intro key' value' hlookup
  by_cases hkey : key' = key
  · subst hkey
    rw [AList.lookup_insert, Option.some.injEq] at hlookup
    rw [← hlookup]
    exact hvalue
  · rw [AList.lookup_insert_ne hkey] at hlookup
    exact h key' value' hlookup

/-- Legal entries make legal labels. -/
theorem legalLabels_ofList {entries : List (String × String)} (h : ∀ e ∈ entries, isLabelValue e.2 = true) :
    LegalLabels (GoMap.ofList entries) := by
  induction entries with
  | nil =>
    intro key value hlookup
    nomatch hlookup
  | cons e entries ih =>
    exact legalLabels_insert (ih fun e he => h e (List.mem_cons_of_mem _ he)) (h e List.mem_cons_self)

theorem legalLabels_merge {left right : StringMap} (hleft : LegalLabels left) (hright : LegalLabels right) :
    LegalLabels (merge left right) := by
  refine List.foldlRecOn (motive := LegalLabels) right.entries _ hleft fun labels hlabels e he => ?_
  exact legalLabels_insert hlabels (hright e.1 e.2 (AList.mem_lookup_iff.mpr he))

/-! ## The rendered objects -/

/-- The labels of ownership are legal when the names they are made of are. -/
theorem legalLabels_owned_iff (cluster : VirtualCluster) (resolved : ResolvedSnapshot) :
    LegalLabels (cluster.ownedLabels resolved) ↔
      isLabelValue cluster.spec.cellRef.name = true ∧ isLabelValue cluster.metadata.name = true ∧
        isLabelValue cluster.metadata.ns = true ∧ isLabelValue cluster.metadata.uid = true ∧
          isLabelValue resolved.profileHash = true := by
  constructor
  · intro h
    refine ⟨h labelCellName _ ?_, h labelVirtualClusterName _ ?_, h labelVirtualClusterNamespace _ ?_,
      h labelVirtualClusterUID _ ?_,
      h labelProfileHash _ ?_⟩ <;>
      simp [VirtualCluster.ownedLabels, ownedHostLabels, GoMap.ofList, labelManagedBy, labelCellName,
        labelVirtualClusterName,
        labelVirtualClusterNamespace, labelVirtualClusterUID, labelExecutionMode, labelProfileHash, -AList.insert_empty]
  · rintro ⟨hcell, hname, hns, huid, hhash⟩
    refine legalLabels_ofList fun e he => ?_
    simp only [List.mem_cons, List.not_mem_nil, or_false] at he
    rcases he with rfl | rfl | rfl | rfl | rfl | rfl | rfl
    · decide
    · exact hcell
    · exact hname
    · exact hns
    · exact huid
    · decide
    · exact hhash

section Mirror

variable {clusterName appsSuffix ns : String} {labels : StringMap}

/-- All objects that were rendered so far carry the labels. -/
def Labelled (labels : StringMap) (state : MirrorState) : Prop :=
  ∀ manifest ∈ state.objects, manifest.metadata.labels = labels

/-- What is mirrored has the labels that it was given. -/
theorem labelled_backends (backends : List ChildIngressBackend) :
    Labelled labels (backends.foldl (mirrorBackend clusterName appsSuffix ns labels) {}) :=
  forall_mirrorBackends (fun _ _ => rfl) (fun _ _ => rfl) backends

/-- Everything that is mirrored carries the labels of ownership. -/
theorem labels_of_mirror {cluster : VirtualCluster} {resolved : ResolvedSnapshot} {mirrored : List Manifest}
    (h : IsMirror cluster resolved mirrored) :
    ∀ manifest ∈ mirrored, manifest.metadata.labels = cluster.ownedLabels resolved := by
  rcases h with rfl | ⟨appsSuffix, backends, hrender⟩
  · intro manifest hmanifest
    nomatch hmanifest
  · unfold renderIngressMirror at hrender
    split_ifs at hrender
    cases hrender
    intro manifest hmanifest
    rcases List.mem_append.mp hmanifest with hobject | hpending
    · exact labelled_backends backends manifest hobject
    · obtain ⟨entry, -, rfl⟩ := List.mem_map.mp hpending
      rfl

end Mirror

/-- The labels the namespace has besides those of ownership. -/
def namespaceLabels (cluster : VirtualCluster) (resolved : ResolvedSnapshot) (names : Names) : StringMap :=
  merge (merge (cluster.ownedLabels resolved) (GoMap.ofList
    [("kubecell.io/virtual-cluster-uid", cluster.metadata.uid),
      ("kubecell.io/profile-name", resolved.machineProfileName),
      ("policy.k3k.io/policy-name", names.k3kCluster)]))
        (GoMap.ofList [("pod-security.kubernetes.io/enforce", Platform.podSecurityEnforceLevel)])

/-- The objects of the foundation carry the labels of ownership, and the namespace those of the policy besides. -/
theorem labels_of_foundation (cluster : VirtualCluster) (resolved : ResolvedSnapshot) (names : Names)
    (labels : StringMap) :
    (∃ manifest ∈ renderFoundation cluster resolved names, manifest.metadata.labels = labels) ↔
      labels = namespaceLabels cluster resolved names ∨ labels = cluster.ownedLabels resolved := by
  simp only [renderFoundation, List.mem_cons, List.not_mem_nil, or_false, exists_eq_or_imp, exists_eq_left,
    Manifest.metadata, objectMeta,
    namespaceLabels]
  tauto

/-- Both Works are legal when the labels of ownership are, and those of the policy. -/
theorem worksLegal_iff (cluster : VirtualCluster) (resolved : ResolvedSnapshot) :
    WorksLegal cluster resolved ↔
      LegalLabels (cluster.ownedLabels resolved) ∧
        LegalLabels (namespaceLabels cluster resolved (cluster.renderNames [])) := by
  constructor
  · intro h
    have hfoundation := (h [] "" [] (Or.inl rfl)).1
    obtain ⟨manifest, hmanifest, hlabels⟩ := (labels_of_foundation cluster resolved
      (cluster.renderNames []) _).mpr (Or.inl rfl)
    refine ⟨hfoundation.1, ?_⟩
    rw [← hlabels]
    exact hfoundation.2 manifest hmanifest
  · rintro ⟨howned, hnamespace⟩ addresses managedCluster mirrored hmirror
    refine ⟨⟨howned, ?_⟩, howned, ?_⟩
    · intro manifest hmanifest
      rcases (labels_of_foundation _ _ _ _).mp ⟨manifest, hmanifest, rfl⟩ with hlabels | hlabels
      · rw [hlabels]
        exact hnamespace
      · rw [hlabels]
        exact howned
    · intro manifest hmanifest
      rcases List.mem_cons.mp hmanifest with rfl | hmanifest
      · exact howned
      · rcases List.mem_cons.mp hmanifest with rfl | hmanifest
        · exact howned
        · rw [labels_of_mirror hmirror manifest hmanifest]
          exact howned

/-- The labels of the namespace are legal when the name of the profile is. -/
theorem legalLabels_namespace_iff {cluster : VirtualCluster} (resolved : ResolvedSnapshot)
    (howned : LegalLabels (cluster.ownedLabels resolved)) (huid : isUUID cluster.metadata.uid = true) :
    LegalLabels (namespaceLabels cluster resolved (cluster.renderNames [])) ↔
      isLabelValue resolved.machineProfileName = true := by
  constructor
  · intro h
    exact h "kubecell.io/profile-name" _ (by simp [namespaceLabels, merge, GoMap.ofList])
  · intro hprofile
    obtain ⟨huid', hk3k⟩ := isLabelValue_uuid huid
    refine legalLabels_merge (legalLabels_merge howned (legalLabels_ofList fun e he => ?_))
      (legalLabels_ofList fun e he => ?_)
    · simp only [List.mem_cons, List.not_mem_nil, or_false] at he
      rcases he with rfl | rfl | rfl
      · exact huid'
      · exact hprofile
      · exact hk3k
    · rw [List.mem_singleton] at he
      subst he
      decide

end LabelsAux

open LabelsAux ResolutionAux

/-- The Works of a VirtualCluster that is admitted and resolved have legal labels exactly when its name, the name of
its Cell and the name of the machine profile have at most 63 characters each. -/
theorem works_legal_iff (Γ : Ctx) (cluster : VirtualCluster) (cell : Cell) (virtualNodeClass : VirtualNodeClass)
    (resolved : ResolvedSnapshot) (hname : isDNS1123Subdomain cluster.metadata.name = [])
    (hcellName : isDNS1123Subdomain cell.metadata.name = []) (huid : isUUID cluster.metadata.uid = true)
    (hcluster : cluster.validateCreate = .ok ()) (hcell : cell.validateCreate = .ok ())
    (hreference : cluster.spec.cellRef.name = cell.metadata.name)
    (hresolved : resolveVirtualCluster Γ cell virtualNodeClass = .ok resolved) :
    WorksLegal cluster (cluster.snapshot resolved) ↔
      cluster.metadata.name.length ≤ 63 ∧ cell.metadata.name.length ≤ 63 ∧
        cell.spec.machineProfile.name.length ≤ 63 := by
  obtain ⟨-, rfl⟩ := (resolveVirtualCluster_ok_iff _ _ _ _).mp hresolved
  -- what the validators say of the namespace and of the profile
  have hns : isLabelValue cluster.metadata.ns = true := by
    rw [VirtualCluster.validateCreate, validationError_ok_iff, List.append_eq_nil_iff] at hcluster
    have hnamespace := hcluster.2
    unfold namespaceErrors at hnamespace
    split_ifs at hnamespace with hother
    simp only [not_and_or, not_not] at hother
    rcases hother with hempty | hmanagement
    · rw [hempty]
      decide
    · rw [hmanagement]
      decide
  have hprofile : isDNS1123Subdomain cell.spec.machineProfile.name = [] := by
    rw [Cell.validateCreate, validationError_ok_iff, List.append_eq_nil_iff, validateCellSpec, List.append_eq_nil_iff,
      List.append_eq_nil_iff] at hcell
    have hname := hcell.1.1.2
    split_ifs at hname with hempty hvalid
    exact not_not.mp hvalid
  have hhash : isLabelValue (cluster.snapshot (resolvedOf Γ cell virtualNodeClass)).profileHash = true :=
    isLabelValue_profileHash Γ _
  have howned := legalLabels_owned_iff cluster (cluster.snapshot (resolvedOf Γ cell virtualNodeClass))
  rw [hreference, isLabelValue_subdomain hcellName, isLabelValue_subdomain hname] at howned
  rw [worksLegal_iff, ← isLabelValue_subdomain hprofile]
  constructor
  · rintro ⟨hlegal, hnamespace⟩
    obtain ⟨hcell', hname', -⟩ := howned.mp hlegal
    exact ⟨hname', hcell', (legalLabels_namespace_iff _ hlegal huid).mp hnamespace⟩
  · rintro ⟨hname', hcell', hprofile'⟩
    have hlegal := howned.mpr ⟨hcell', hname', hns, (isLabelValue_uuid huid).1, hhash⟩
    exact ⟨hlegal, (legalLabels_namespace_iff _ hlegal huid).mpr hprofile'⟩

namespace LabelsAux

/-- A VirtualCluster of the given name, on the sample Cell. -/
def clusterNamed (name : String) : VirtualCluster :=
  { metadata := { name := name, ns := managementNamespace, uid := "01234567-89ab-4cde-8f01-23456789abcd" }
    spec := { cellRef := { name := "cell-a", ns := managementNamespace }, classRef := { name := "small" } } }

/-- A name of 64 characters. -/
def longName : String := String.ofList (List.replicate 64 'a')

example : isLabelValue longName = false := by decide +kernel

end LabelsAux

/-- A VirtualCluster with a name of 64 characters is admitted, and its Works carry the name as a label. -/
theorem works_legal_false :
    ¬∀ (Γ : Ctx) (cluster : VirtualCluster) (cell : Cell) (virtualNodeClass : VirtualNodeClass)
      (resolved : ResolvedSnapshot),
      isDNS1123Subdomain cluster.metadata.name = [] → isDNS1123Subdomain cell.metadata.name = [] →
      isUUID cluster.metadata.uid = true → cluster.validateCreate = .ok () → cell.validateCreate = .ok () →
      virtualNodeClass.validateCreate = .ok () → cluster.spec.cellRef.name = cell.metadata.name →
      resolveVirtualCluster Γ cell virtualNodeClass = .ok resolved →
        WorksLegal cluster (cluster.snapshot resolved) := by
  intro h
  have hlegal := h DriftAux.sampleCtx (clusterNamed longName) DriftAux.sampleCell (DriftAux.sampleClass DriftAux.gibi) _
    (by decide +kernel) (by decide +kernel) (by decide +kernel) (by decide +kernel) (by decide +kernel)
      (by decide +kernel) rfl
    ((resolveVirtualCluster_ok_iff _ _ _ _).mpr ⟨DriftAux.sample_resolves DriftAux.gibi, rfl⟩)
  have howned := ((legalLabels_owned_iff _ _).mp ((worksLegal_iff _ _).mp hlegal).1).2.1
  exact absurd howned (by decide +kernel)

/-- With a name of four characters all labels are legal. -/
theorem works_legal_sample :
    WorksLegal (clusterNamed "team")
      ((clusterNamed "team").snapshot
        (resolvedOf DriftAux.sampleCtx DriftAux.sampleCell (DriftAux.sampleClass DriftAux.gibi))) := by
  refine (works_legal_iff DriftAux.sampleCtx (clusterNamed "team") DriftAux.sampleCell
    (DriftAux.sampleClass DriftAux.gibi) _
    (by decide +kernel) (by decide +kernel) (by decide +kernel) (by decide +kernel) (by decide +kernel) rfl
    ((resolveVirtualCluster_ok_iff _ _ _ _).mpr ⟨DriftAux.sample_resolves DriftAux.gibi, rfl⟩)).mpr ?_
  decide +kernel

end KubeCell
