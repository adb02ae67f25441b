import KubeCell.Theorems.Labels

/-!
# Names derived from a VirtualCluster

Whatever is cut from namespace and name, the names that are derived are names the API server takes, and the part of
the UID keeps those of two VirtualClusters apart.
-/

namespace KubeCell

open LabelsAux NamesAux

/-- A VirtualCluster as the API server stores it: the namespace is a DNS label, the name a DNS
subdomain, the UID a UUID. -/
structure VirtualCluster.Stored (v : VirtualCluster) : Prop where
  ns : isDNSLabel v.metadata.ns.toList = true ∧ v.metadata.ns.length ≤ 63
  name : isDNS1123Subdomain v.metadata.name = []
  uid : isUUID v.metadata.uid = true

/-- The first eight characters of the UID. -/
def VirtualCluster.uidStart (v : VirtualCluster) : List Char := v.metadata.uid.toList.take 8

/-- The host namespace is a DNS label that ends with the start of the UID; the Works and the Secret have DNS
subdomains for names. -/
structure VirtualCluster.NamesLegal (v : VirtualCluster) : Prop where
  hostNamespace : isDNSLabel v.names.hostNamespace.toList = true ∧ v.names.hostNamespace.length ≤ 63
  suffixed : '-' :: v.uidStart <:+ v.names.hostNamespace.toList
  foundationWork : isDNS1123Subdomain v.names.foundationWork = []
  instanceWork : isDNS1123Subdomain v.names.instanceWork = []
  adminKubeconfig : isDNS1123Subdomain v.names.adminKubeconfig = []

/-- No derived name of the one is that of the same kind of the other, and no foundation Work is
named as an instance Work. -/
structure NamesApart (v v' : VirtualCluster) : Prop where
  hostNamespace : v.names.hostNamespace ≠ v'.names.hostNamespace
  k3kCluster : v.names.k3kCluster ≠ v'.names.k3kCluster
  foundationWork : v.names.foundationWork ≠ v'.names.foundationWork
  instanceWork : v.names.instanceWork ≠ v'.names.instanceWork
  adminKubeconfig : v.names.adminKubeconfig ≠ v'.names.adminKubeconfig
  foundationInstance : v.names.foundationWork ≠ v'.names.instanceWork
  instanceFoundation : v.names.instanceWork ≠ v'.names.foundationWork

namespace DerivedNamesAux

/-! ## Slugs -/

/-- What is left after the replacement is made of characters of DNS names, whether or not a run is going on. -/
theorem dnsChar_replaceRuns (inRun : Bool) (l : List Char) : ∀ c ∈ replaceRuns inRun l, isDNSChar c = true := by
  induction l generalizing inRun with
  | nil => simp [replaceRuns]
  | cons c cs ih =>
    intro d hd
    rw [replaceRuns] at hd
    split_ifs at hd with hc hrun
    · rcases List.mem_cons.mp hd with rfl | hd
      · exact hc
      · exact ih false d hd
    · exact ih true d hd
    · rcases List.mem_cons.mp hd with rfl | hd
      · decide
      · exact ih true d hd

/-- Trimming takes characters away. -/
theorem trimDashes_sublist (l : List Char) : (trimDashes l).Sublist l :=
  (List.rdropWhile_prefix _ _).sublist.trans (List.dropWhile_sublist _)

/-- A slug is made of characters of DNS names. -/
theorem dnsChar_dnsSlug (l : List Char) : ∀ c ∈ dnsSlug l, isDNSChar c = true := by
  intro c hc
  exact dnsChar_replaceRuns _ _ c ((trimDashes_sublist _).subset hc)

/-- Cutting a slug to a length, and trimming what is left, keeps its characters. -/
theorem trimDashes_take_sublist (n : Nat) (l : List Char) : (trimDashes (l.take n)).Sublist l :=
  (trimDashes_sublist _).trans (List.take_sublist _ _)

/-- A name that was cut and trimmed is not longer than the cut. -/
theorem length_trimDashes_take (n : Nat) (l : List Char) : (trimDashes (l.take n)).length ≤ n :=
  (trimDashes_sublist _).length_le.trans (List.length_take_le _ _)

/-- The slug in a host namespace has characters of DNS names, and as many as are left beside the rest. -/
theorem hostSlug_spec {ns name uid : String} (huid : (uidPart uid).length = 8) :
    (∀ c ∈ hostSlug ns name uid, isDNSChar c = true) ∧ (hostSlug ns name uid).length ≤ 51 := by
  rw [hostSlug, huid]
  split_ifs with hlong
  · refine ⟨fun c hc => ?_, length_trimDashes_take _ _⟩
    exact dnsChar_dnsSlug _ c ((trimDashes_take_sublist _ _).subset hc)
  · exact ⟨dnsChar_dnsSlug _, Nat.not_lt.mp hlong⟩

/-- The slug in the name of a Secret has characters of DNS names, and at most 63 of them. -/
theorem truncateDNS_spec {l : List Char} (h : ∀ c ∈ l, isDNSChar c = true) :
    (∀ c ∈ truncateDNS l, isDNSChar c = true) ∧ (truncateDNS l).length ≤ 63 := by
  rw [truncateDNS]
  split_ifs with hshort
  · exact ⟨fun c hc => h c ((trimDashes_sublist _).subset hc), (trimDashes_sublist _).length_le.trans hshort⟩
  · exact ⟨fun c hc => h c ((trimDashes_take_sublist _ _).subset hc), length_trimDashes_take _ _⟩

/-! ## Legal names -/

/-- The digits of a hash are legal in a name. -/
theorem dnsChar_of_hexDigit {c : Char} (h : isHexDigit c = true) : isDNSChar c = true := by
  have hlower : isLowerAlnum c = true := isLowerAlnum_of_hexDigit h
  rw [isDNSChar, ← isLowerAlnum, hlower, Bool.true_or]

/-- A text of the shape of a derived name: a slug and a part of a UID, in a frame. -/
def framed (pre slug part post : List Char) : List Char := pre ++ slug ++ '-' :: part ++ post

theorem length_framed (pre slug part post : List Char) :
    (framed pre slug part post).length = pre.length + slug.length + 1 + part.length + post.length := by
  simp only [framed, List.length_append, List.length_cons]
  omega

/-- A derived name ends with what is appended. -/
theorem getLast?_framed {pre slug part post : List Char} (h : post ≠ []) :
    (framed pre slug part post).getLast? = post.getLast? := by
  rw [framed, List.getLast?_append_of_ne_nil _ h]

/-- Such a text is a DNS label when its frame starts and ends as one; an empty end leaves the last digit
of the UID at the end. -/
theorem isDNSLabel_framed {pre slug part post : List Char} (hpre : ∀ c ∈ pre, isDNSChar c = true)
    (hfirst : pre.head?.any isLowerAlnum = true) (hslug : ∀ c ∈ slug, isDNSChar c = true)
    (hpart : ∀ c ∈ part, isHexDigit c = true) (hne : part ≠ []) (hpost : ∀ c ∈ post, isDNSChar c = true)
    (hlast : post.getLast?.all isLowerAlnum = true) :
    isDNSLabel (framed pre slug part post) = true := by
  have hchars : ∀ c ∈ framed pre slug part post, isDNSChar c = true := by
    intro c hc
    simp only [framed, List.mem_append, List.mem_cons] at hc
    rcases hc with ((hc | hc) | rfl | hc) | hc
    · exact hpre c hc
    · exact hslug c hc
    · decide
    · exact dnsChar_of_hexDigit (hpart c hc)
    · exact hpost c hc
  have hhead : (framed pre slug part post).head?.any isLowerAlnum = true := by
    cases pre with
    | nil => nomatch hfirst
    | cons c pre => exact hfirst
  have hend : (framed pre slug part post).getLast?.any isLowerAlnum = true := by
    rcases eq_or_ne post [] with rfl | hpostNe
    · rw [framed, List.append_nil, List.getLast?_append_of_ne_nil _ (List.cons_ne_nil _ _),
        List.getLast?_cons_of_ne_nil hne,
        List.getLast?_eq_some_getLast hne]
      exact isLowerAlnum_of_hexDigit (hpart _ (List.getLast_mem hne))
    · rw [getLast?_framed hpostNe]
      rw [List.getLast?_eq_some_getLast hpostNe] at hlast ⊢
      exact hlast
  rw [isDNSLabel, hhead, hend, Bool.and_true, Bool.and_true, List.all_eq_true]
  exact hchars

/-- Two such texts in the same frame have the same part of a UID. -/
theorem part_of_framed {pre slug slug' part part' post : List Char} (hlength : part.length = part'.length)
    (h : framed pre slug part post = framed pre slug' part' post) : part = part' := by
  have hrest := List.append_cancel_right h
  exact (List.cons.inj (List.append_inj_right' hrest (by simp [hlength]))).2

/-- A DNS label of at most 253 characters is a DNS subdomain. -/
theorem subdomain_of_label {value : String} (hlabel : isDNSLabel value.toList = true)
    (hlength : value.toList.length ≤ 253) :
    isDNS1123Subdomain value = [] := by
  refine subdomain_iff.mpr ⟨hlength, fun label hmem => ?_⟩
  have hdot : '.' ∉ value.toList := by
    intro hdot
    simp only [isDNSLabel, Bool.and_eq_true, List.all_eq_true] at hlabel
    exact absurd (hlabel.1.1 _ hdot) (by decide)
  rw [splitAtChar_eq_splitOn, List.splitOn_eq_singleton hdot] at hmem
  rw [List.mem_singleton.mp hmem]
  exact hlabel

/-! ## The names of a VirtualCluster -/

variable {v v' : VirtualCluster}

/-- The slug in the host namespace of a VirtualCluster. -/
def slugOf (v : VirtualCluster) : List Char := hostSlug v.metadata.ns v.metadata.name v.metadata.uid

/-- The host namespace is such a name. -/
theorem hostNamespace_toList (v : VirtualCluster) :
    v.names.hostNamespace.toList = framed "kc-".toList (slugOf v) (uidPart v.metadata.uid) [] := by
  simp [VirtualCluster.names, namesForVirtualCluster, framed, slugOf]

/-- So is the name of the foundation Work. -/
theorem foundationWork_toList (v : VirtualCluster) :
    v.names.foundationWork.toList = framed "kc-".toList (slugOf v) (uidPart v.metadata.uid) "-foundation".toList := by
  simp [VirtualCluster.names, namesForVirtualCluster, framed, slugOf]

/-- So is that of the instance Work. -/
theorem instanceWork_toList (v : VirtualCluster) :
    v.names.instanceWork.toList = framed "kc-".toList (slugOf v) (uidPart v.metadata.uid) "-instance".toList := by
  simp [VirtualCluster.names, namesForVirtualCluster, framed, slugOf]

theorem adminKubeconfig_toList (v : VirtualCluster) : v.names.adminKubeconfig.toList =
    framed "kubecell-".toList (truncateDNS (dnsSlug v.metadata.name.toList))
      (uidPart v.metadata.uid) "-admin-kubeconfig".toList := by
  simp [VirtualCluster.names, namesForVirtualCluster, framed]

/-- A derived name is a DNS label, of the length of its frame, its slug and nine characters more. -/
theorem label_of_framed {name : String} {pre slug post : List Char} (hv : v.Stored)
    (hname : name.toList = framed pre slug (uidPart v.metadata.uid) post)
    (hpre : (pre.all isDNSChar && pre.head?.any isLowerAlnum) = true) (hslug : ∀ c ∈ slug, isDNSChar c = true)
    (hpost : (post.all isDNSChar && post.getLast?.all isLowerAlnum) = true) :
    isDNSLabel name.toList = true ∧ name.toList.length = pre.length + slug.length + 9 + post.length := by
  obtain ⟨-, hlength, hpart⟩ := uidPart_of_uuid hv.uid
  rw [Bool.and_eq_true, List.all_eq_true] at hpre hpost
  rw [hname]
  constructor
  · exact isDNSLabel_framed hpre.1 hpre.2 hslug hpart (List.ne_nil_of_length_pos (by omega)) hpost.1 hpost.2
  · rw [length_framed]
    omega

/-- The derived names of a VirtualCluster are legal. -/
theorem namesLegal (hv : v.Stored) : v.NamesLegal := by
  obtain ⟨huid, hlength, -⟩ := uidPart_of_uuid hv.uid
  obtain ⟨hslug, hshort⟩ := @hostSlug_spec v.metadata.ns v.metadata.name _ hlength
  obtain ⟨hsecret, hcut⟩ := truncateDNS_spec (dnsChar_dnsSlug v.metadata.name.toList)
  have hhost := label_of_framed hv (hostNamespace_toList v) rfl hslug rfl
  have hfoundation := label_of_framed hv (foundationWork_toList v) rfl hslug rfl
  have hinstance := label_of_framed hv (instanceWork_toList v) rfl hslug rfl
  have hadmin := label_of_framed hv (adminKubeconfig_toList v) rfl hsecret rfl
  simp only [slugOf, String.reduceToList, List.length_cons, List.length_nil] at hhost hfoundation hinstance hadmin
  constructor
  · rw [← String.length_toList]
    exact ⟨hhost.1, by omega⟩
  · rw [hostNamespace_toList, framed, List.append_nil, huid]
    exact List.suffix_append _ _
  · exact subdomain_of_label hfoundation.1 (by omega)
  · exact subdomain_of_label hinstance.1 (by omega)
  · exact subdomain_of_label hadmin.1 (by omega)

/-- The names of Works end differently for foundations and instances. -/
theorem foundationWork_ne (v v' : VirtualCluster) : v.names.foundationWork ≠ v'.names.instanceWork := by
  intro h
  have hlast := congrArg (fun name => name.toList.getLast?) h
  simp only [foundationWork_toList, instanceWork_toList] at hlast
  rw [getLast?_framed (by decide), getLast?_framed (by decide)] at hlast
  exact absurd hlast (by decide)

/-- VirtualClusters whose UIDs start differently have different names. -/
theorem namesApart (hv : v.Stored) (hv' : v'.Stored) (hne : v.uidStart ≠ v'.uidStart) : NamesApart v v' := by
  obtain ⟨huid, hlength, -⟩ := uidPart_of_uuid hv.uid
  obtain ⟨huid', hlength', -⟩ := uidPart_of_uuid hv'.uid
  have hpart : uidPart v.metadata.uid ≠ uidPart v'.metadata.uid := by
    rw [huid, huid']
    exact hne
  have hsame : (uidPart v.metadata.uid).length = (uidPart v'.metadata.uid).length := hlength.trans hlength'.symm
  -- two names in one frame have the same part of a UID
  have hapart : ∀ {name name' : String} {pre slug slug' post : List Char}, name.toList = framed pre slug
    (uidPart v.metadata.uid) post →
      name'.toList = framed pre slug' (uidPart v'.metadata.uid) post → name ≠ name' := by
    rintro name name' pre slug slug' post hname hname' rfl
    exact hpart (part_of_framed hsame (hname.symm.trans hname'))
  constructor
  · exact hapart (hostNamespace_toList v) (hostNamespace_toList v')
  · intro h
    simp only [VirtualCluster.names, namesForVirtualCluster, String.append_right_inj, String.ofList_inj] at h
    exact hpart h
  · exact hapart (foundationWork_toList v) (foundationWork_toList v')
  · exact hapart (instanceWork_toList v) (instanceWork_toList v')
  · exact hapart (adminKubeconfig_toList v) (adminKubeconfig_toList v')
  · exact foundationWork_ne v v'
  · exact (foundationWork_ne v' v).symm

end DerivedNamesAux

open DerivedNamesAux

/-- The names derived from a VirtualCluster are legal, and those of two VirtualClusters whose UIDs start
differently are never shared. -/
theorem derived_names_legal_and_apart (v v' : VirtualCluster) (hv : v.Stored) (hv' : v'.Stored) :
    v.NamesLegal ∧ v'.NamesLegal ∧ (v.uidStart ≠ v'.uidStart → NamesApart v v') :=
  ⟨namesLegal hv, namesLegal hv', fun hne => namesApart hv hv' hne⟩

namespace DerivedNamesAux

/-- A VirtualCluster whose name has 64 characters, so that its slug is cut. -/
def first : VirtualCluster := clusterNamed longName

/-- One of the same name, with another UID. -/
def second : VirtualCluster := { first with metadata.uid := "76543210-89ab-4cde-8f01-23456789abcd" }

/-- The first VirtualCluster of the sample may be stored. -/
theorem stored_first : first.Stored := ⟨by decide +kernel, by decide +kernel, by decide +kernel⟩

theorem stored_second : second.Stored := ⟨by decide +kernel, by decide +kernel, by decide +kernel⟩

end DerivedNamesAux

theorem derived_names_legal_and_apart_sample : (first.Stored ∧ second.Stored ∧ first.uidStart ≠ second.uidStart) ∧
    first.NamesLegal ∧ second.NamesLegal ∧ NamesApart first second := by
  obtain ⟨hfirst, hsecond, hapart⟩ := derived_names_legal_and_apart first second stored_first stored_second
  have hne : first.uidStart ≠ second.uidStart := by decide +kernel
  exact ⟨⟨stored_first, stored_second, hne⟩, hfirst, hsecond, hapart hne⟩

end KubeCell
