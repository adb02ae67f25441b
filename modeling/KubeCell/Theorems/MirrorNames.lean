import KubeCell.Lemmas.Mirror
import KubeCell.Lemmas.Names
import KubeCell.Semantics
import KubeCell.Theorems.Mirror

namespace KubeCell

/-!
# The names of mirrored objects

The name of a host service is put together from the names of the ingress and of the service and from the port, with
dashes between them, and the name of a host ingress from namespace and name; both are cut after 63 characters. So two
backends share a host service when they differ only in the namespace, when a dash of one is the joint of the other, or
when they differ only after the cut.
-/

open MirrorAux NamesAux

/-- What the host service of a path stands for. -/
structure MirrorKey where
  ns : String
  ingress : String
  service : String
  port : Int
  deriving DecidableEq, Repr

namespace MirrorKey

/-- The text that the name of the host service is cut from. -/
def serviceText (key : MirrorKey) : String := "ing-" ++ key.ingress ++ "-" ++ key.service ++ "-" ++ toString key.port
@[inherit_doc serviceText] def ingressText (key : MirrorKey) : String := key.ns ++ "-" ++ key.ingress

/-- The name of the host service. -/
def serviceName (key : MirrorKey) : String := truncateName key.serviceText
@[inherit_doc serviceName] def ingressName (key : MirrorKey) : String := truncateName key.ingressText

end MirrorKey

/-- The key of a path of a backend, if the path has a port. -/
def ChildIngressBackend.key? (backend : ChildIngressBackend)
    (path : HTTPIngressPath × IngressServiceBackend) : Option MirrorKey :=
  (mirrorServicePort backend.service path.2.port).map fun port =>
    ⟨backend.ingress.metadata.ns, backend.ingress.metadata.name, path.2.name, port⟩

/-- The keys of a backend. -/
def ChildIngressBackend.keys (backend : ChildIngressBackend) : List MirrorKey :=
  if backend.ingress.isMirrored then backend.ingress.servicePaths.filterMap backend.key? else []

/-- The names in a backend are those the API server takes. -/
structure ChildIngressBackend.WellNamed (backend : ChildIngressBackend) : Prop where
  ns : isDNSLabel backend.ingress.metadata.ns.toList = true
  ingress : isDNS1123Subdomain backend.ingress.metadata.name = []
  services : ∀ path ∈ backend.ingress.servicePaths, isDNS1035Label path.2.name.toList = true

/-- The names of the host services, and of the host ingresses. -/
def hostServiceNames (objects : List Manifest) : List String :=
  objects.filterMap fun
    | .service metadata _ _ _ => some metadata.name
    | _ => none
@[inherit_doc hostServiceNames] def hostIngressNames (objects : List Manifest) : List String :=
  objects.filterMap fun
    | .ingress metadata _ _ => some metadata.name
    | _ => none

/-- The host objects of some keys are named apart: different keys have different host services, ingresses of different
namespaces or names have different host ingresses, and the name of every host service is one that a service may have. -/
structure NamedApart (keys : List MirrorKey) (objects : List Manifest) : Prop where
  services : ∀ a ∈ keys, ∀ b ∈ keys, a.serviceName = b.serviceName → a = b
  ingresses : ∀ a ∈ keys, ∀ b ∈ keys, a.ingressName = b.ingressName → a.ns = b.ns ∧ a.ingress = b.ingress
  labels : ∀ name ∈ hostServiceNames objects, isDNS1035Label name.toList = true

/-- The first 63 characters are the same, up to dashes at their end. -/
def SameCut (s t : String) : Prop := SameUpTo (· == '-') (s.toList.take 63) (t.toList.take 63)

/-- No two keys differ only in what their names lose. -/
structure KeptApart (keys : List MirrorKey) : Prop where
  /-- No two keys differ in the namespace alone. -/
  namespaces : ∀ a ∈ keys, ∀ b ∈ keys, a.ingress = b.ingress → a.service = b.service → a.port = b.port → a.ns = b.ns
  /-- No two keys differ in where the name of the ingress ends alone. -/
  joints : ∀ a ∈ keys, ∀ b ∈ keys, a.port = b.port → a.ingress ++ "-" ++ a.service = b.ingress ++ "-" ++ b.service →
    a.ingress = b.ingress
  /-- No two keys differ after the cut alone. -/
  cuts : ∀ a ∈ keys, ∀ b ∈ keys, SameCut a.serviceText b.serviceText → a.serviceText = b.serviceText
  /-- No two ingresses differ in where the namespace ends alone. -/
  ingressJoints : ∀ a ∈ keys, ∀ b ∈ keys, a.ns ++ "-" ++ a.ingress = b.ns ++ "-" ++ b.ingress → a.ns = b.ns
  /-- No two ingresses differ after the cut alone. -/
  ingressCuts : ∀ a ∈ keys, ∀ b ∈ keys, SameCut a.ingressText b.ingressText → a.ingressText = b.ingressText
  /-- No name of an ingress has a dot before the cut. -/
  dots : ∀ a ∈ keys, '.' ∉ a.ingress.toList.take 59

namespace MirrorNamesAux

/-! ## The names of the objects -/

/-- The names of the objects are those of the keys. -/
structure NamesOf (state : MirrorState) (keys : List MirrorKey) : Prop where
  services : hostServiceNames state.objects = state.seen
  ingresses : hostIngressNames state.objects = []
  seen : ∀ name, name ∈ state.seen ↔ ∃ key ∈ keys, key.serviceName = name
  pending : ∀ name, name ∈ state.pending.map (·.1) ↔ ∃ key ∈ keys, key.ingressName = name

section

variable {clusterName appsSuffix ns : String} {labels : StringMap} {hostname : String} {backend : ChildIngressBackend}
  {state : MirrorState} {keys : List MirrorKey}

/-- The host ingresses that are pending after a path with a port. -/
theorem names_mirrorPath {path : HTTPIngressPath × IngressServiceBackend} {port : Int}
    (hport : mirrorServicePort backend.service path.2.port = some port) (name : String) :
    name ∈ (mirrorPath ns labels hostname backend state path).pending.map (·.1) ↔
      name ∈ state.pending.map (·.1) ∨ hostIngressName backend.ingress = name := by
  rw [pending_mirrorPath ns labels hostname state hport, names_addPending]
  split_ifs with hmem
  · constructor
    · exact Or.inl
    · rintro (h | rfl)
      · exact h
      · exact hmem
  · rw [List.mem_append, List.mem_singleton, eq_comm (a := name)]

/-- A path adds its key. -/
theorem namesOf_mirrorPath (ns : String) (labels : StringMap) (hostname : String) (backend : ChildIngressBackend)
    (h : NamesOf state keys) (path : HTTPIngressPath × IngressServiceBackend) :
    NamesOf (mirrorPath ns labels hostname backend state path) (keys ++ (backend.key? path).toList) := by
  cases hport : mirrorServicePort backend.service path.2.port with
  | none =>
    rw [mirrorPath_none ns labels hostname state hport, ChildIngressBackend.key?, hport]
    simpa using h
  | some port =>
    have hkey : (backend.key? path).toList =
      [⟨backend.ingress.metadata.ns, backend.ingress.metadata.name, path.2.name, port⟩] := by
      rw [ChildIngressBackend.key?, hport]
      rfl
    have hname : mirrorServiceName backend.ingress path.2 port =
        (⟨backend.ingress.metadata.ns, backend.ingress.metadata.name, path.2.name, port⟩ : MirrorKey).serviceName := rfl
    have hpending : ∀ name, name ∈ (mirrorPath ns labels hostname backend state path).pending.map (·.1) ↔
        ∃ key ∈ keys ++ (backend.key? path).toList, key.ingressName = name := by
      intro name
      rw [names_mirrorPath hport, h.pending, hkey]
      simp only [List.mem_append, List.mem_singleton, or_and_right, exists_or, exists_eq_left]
      rfl
    obtain ⟨hold, hseen, hobjects⟩ | ⟨-, hseen, hobjects⟩ := mirrorPath_some ns labels hostname state hport
    · refine ⟨by rw [hobjects, hseen, h.services], by rw [hobjects, h.ingresses], fun name => ?_, hpending⟩
      rw [hseen, h.seen, hkey]
      constructor
      · rintro ⟨key, hkey, rfl⟩
        exact ⟨key, List.mem_append_left _ hkey, rfl⟩
      · rintro ⟨key, hmem, rfl⟩
        rcases List.mem_append.mp hmem with hmem | hmem
        · exact ⟨key, hmem, rfl⟩
        · rw [List.mem_singleton.mp hmem, ← hname]
          exact (h.seen _).mp hold
    · refine ⟨?_, ?_, fun name => ?_, hpending⟩
      · rw [hobjects, hseen, hostServiceNames, List.filterMap_append, ← hostServiceNames, h.services]
        rfl
      · rw [hobjects, hostIngressNames, List.filterMap_append, ← hostIngressNames, h.ingresses]
        rfl
      · rw [hseen, List.mem_append, h.seen, List.mem_singleton, hkey, hname]
        simp only [List.mem_append, List.mem_singleton, or_and_right, exists_or, exists_eq_left, eq_comm (a := name)]

/-- A backend adds its keys. -/
theorem namesOf_mirrorBackend (h : NamesOf state keys) (backend : ChildIngressBackend) :
    NamesOf (mirrorBackend clusterName appsSuffix ns labels state backend) (keys ++ backend.keys) := by
  unfold mirrorBackend ChildIngressBackend.keys
  split_ifs
  · generalize backend.ingress.metadata.name ++ "." ++ clusterName ++ "." ++ appsSuffix = hostname
    induction backend.ingress.servicePaths generalizing state keys with
    | nil => simpa using h
    | cons path paths ih =>
      have hstep := ih (namesOf_mirrorPath ns labels hostname backend h path)
      rw [List.append_assoc] at hstep
      rw [List.foldl_cons, List.filterMap_cons]
      cases hkey : backend.key? path with
      | none => simpa [hkey] using hstep
      | some key => simpa [hkey] using hstep
  · simpa using h

/-- The backends add their keys. -/
theorem namesOf_backends (backends : List ChildIngressBackend) (h : NamesOf state keys) :
    NamesOf (backends.foldl (mirrorBackend clusterName appsSuffix ns labels) state)
      (keys ++ backends.flatMap (·.keys)) := by
  induction backends generalizing state keys with
  | nil => simpa using h
  | cons backend backends ih =>
    rw [List.foldl_cons, List.flatMap_cons, ← List.append_assoc]
    exact ih (namesOf_mirrorBackend h backend)

/-- The names that are rendered are those of the keys. -/
theorem names_rendered {cluster : VirtualCluster} {resolved : ResolvedSnapshot} {backends : List ChildIngressBackend}
    {objects : List Manifest} (h : renderIngressMirror cluster resolved appsSuffix backends = .ok objects)
    (name : String) :
    (name ∈ hostServiceNames objects ↔ ∃ key ∈ backends.flatMap (·.keys), key.serviceName = name) ∧
    (name ∈ hostIngressNames objects ↔ ∃ key ∈ backends.flatMap (·.keys), key.ingressName = name) := by
  unfold renderIngressMirror at h
  split_ifs at h
  cases h
  have hinit : NamesOf {} [] := ⟨rfl, rfl, fun name => by simp, fun name => by simp⟩
  have hnames : NamesOf (backends.foldl (mirrorBackend cluster.metadata.name appsSuffix resolved.hostNamespace
      (cluster.ownedLabels resolved)) {}) ([] ++ backends.flatMap (·.keys)) := namesOf_backends backends hinit
  rw [List.nil_append] at hnames
  constructor
  · rw [hostServiceNames, List.filterMap_append, ← hostServiceNames, hnames.services, List.filterMap_map, ← hnames.seen]
    simp [mirrorIngress, Function.comp_def]
  · rw [hostIngressNames, List.filterMap_append, ← hostIngressNames, hnames.ingresses, List.filterMap_map,
      ← hnames.pending]
    simp [mirrorIngress, Function.comp_def, objectMeta]

end

/-! ## What a name keeps -/

/-- A text that starts with no dash is cut after 63 characters, and loses the dashes at its end. -/
theorem truncateDNS_eq {c : Char} (hc : c ≠ '-') (l : List Char) :
    truncateDNS (c :: l) = ((c :: l).take 63).rdropWhile (· == '-') := by
  have htake : truncateDNS (c :: l) = trimDashes ((c :: l).take 63) := by
    rw [truncateDNS]
    split_ifs with hlen
    · rw [List.take_of_length_le hlen]
    · rfl
  rw [htake, trimDashes, List.take_succ_cons, List.dropWhile_cons_of_neg (by simpa using hc)]

/-- Two names are cut to the same if they begin alike, up to the dashes at the cut. -/
theorem truncateName_eq_iff {s t : String} {c d : Char} {l m : List Char} (hs : s.toList = c :: l)
    (ht : t.toList = d :: m) (hc : c ≠ '-') (hd : d ≠ '-') : truncateName s = truncateName t ↔ SameCut s t := by
  rw [truncateName, truncateName, String.ofList_inj, hs, ht, truncateDNS_eq hc, truncateDNS_eq hd,
    rdropWhile_eq_iff, SameCut, hs, ht]

/-- The text of a host service starts with a letter. -/
theorem serviceText_toList (key : MirrorKey) : key.serviceText.toList =
    'i' :: 'n' :: 'g' :: '-' :: (key.ingress.toList ++ '-' ::
      (key.service.toList ++ '-' :: (toString key.port).toList)) := by
  simp [MirrorKey.serviceText, String.toList_append]

/-- The name of a Service is its text, cut and trimmed. -/
theorem serviceName_toList (key : MirrorKey) :
    key.serviceName.toList = (key.serviceText.toList.take 63).rdropWhile (· == '-') := by
  have hdash : 'i' ≠ '-' := by decide
  rw [MirrorKey.serviceName, truncateName, String.toList_ofList, serviceText_toList, truncateDNS_eq hdash]

/-- The name of a host service starts with the first letter of its text. -/
theorem serviceName_cons (key : MirrorKey) : ∃ rest, key.serviceName.toList = 'i' :: rest := by
  rw [serviceName_toList, serviceText_toList, List.take_succ_cons]
  generalize (List.take 62 _) = tail
  cases hlist : ('i' :: tail).rdropWhile (· == '-') with
  | nil =>
    rw [List.rdropWhile_eq_nil_iff] at hlist
    exact absurd (hlist 'i' List.mem_cons_self) (by decide)
  | cons c rest =>
    have hinitial : c :: rest <+: 'i' :: tail := hlist ▸ List.rdropWhile_prefix _ _
    exact ⟨rest, by rw [(List.cons_prefix_cons.mp hinitial).1]⟩

/-- Two names of Services are the same if their texts are cut to the same. -/
theorem serviceName_eq_iff (a b : MirrorKey) : a.serviceName = b.serviceName ↔ SameCut a.serviceText b.serviceText :=
  truncateName_eq_iff (serviceText_toList a) (serviceText_toList b) (by decide) (by decide)

/-- The digits of a port have no dash, and tell the port. -/
theorem toString_port {port : Int} (h : 0 < port) : (toString port).toList = Nat.toDigits 10 port.toNat := by
  rw [Int.toString_eq_repr, Int.repr_eq_if, if_pos h.le, Nat.toList_repr]

theorem dash_notMem_digits (n : Nat) : '-' ∉ Nat.toDigits 10 n := by
  intro h
  exact absurd (Nat.isDigit_of_mem_toDigits (by decide) (by decide) h) (by decide)

/-- A port can be read from its digits. -/
theorem port_inj {p q : Int} (hp : 0 < p) (hq : 0 < q)
    (h : Nat.toDigits 10 p.toNat = Nat.toDigits 10 q.toNat) : p = q := by
  have hnat := congrArg (Nat.ofDigitChars 10 · 0) h
  simp only [Nat.ofDigitChars_ten_toDigits] at hnat
  omega

/-- The text of a host service tells the port, and the names of ingress and service with the joint between them. -/
theorem of_serviceText_eq {a b : MirrorKey} (ha : 0 < a.port) (hb : 0 < b.port) (h : a.serviceText = b.serviceText) :
    a.ingress ++ "-" ++ a.service = b.ingress ++ "-" ++ b.service ∧ a.port = b.port := by
  have htext := congrArg String.toList h
  rw [serviceText_toList, serviceText_toList, toString_port ha, toString_port hb] at htext
  have hjoint : (a.ingress.toList ++ '-' :: a.service.toList) ++ '-' :: Nat.toDigits 10 a.port.toNat =
      (b.ingress.toList ++ '-' :: b.service.toList) ++ '-' :: Nat.toDigits 10 b.port.toNat := by
    simpa using htext
  obtain ⟨hnames, hport⟩ := append_sep_inj_right hjoint (dash_notMem_digits _) (dash_notMem_digits _)
  refine ⟨?_, port_inj ha hb hport⟩
  rw [← String.toList_inj]
  simpa using hnames

/-- What follows the name of an ingress is told by it and the joint. -/
theorem append_dash_inj {a b c : String} (h : a ++ "-" ++ b = a ++ "-" ++ c) : b = c := by
  have htext := congrArg String.toList h
  rw [← String.toList_inj]
  simpa using htext

/-! ## What a service may be named -/

/-- The characters of the name of an ingress. -/
theorem char_of_subdomain {value : String} (h : isDNS1123Subdomain value = []) {c : Char} (hc : c ∈ value.toList) :
    isLowerAlnum c = true ∨ c = '-' ∨ c = '.' := by
  rcases mem_of_splitAtChar '.' hc with rfl | ⟨label, hlabel, hmem⟩
  · simp
  · have hvalid := labels_of_subdomain h label hlabel
    simp only [isDNSLabel, Bool.and_eq_true, List.all_eq_true, Bool.or_eq_true, beq_iff_eq] at hvalid
    rcases hvalid.1.1 c hmem with hchar | rfl
    · exact Or.inl hchar
    · simp

/-- What is dropped at the end are dashes, so that a dot is kept. -/
theorem mem_rdropWhile_dash {c : Char} (hc : c ≠ '-') (l : List Char) : c ∈ l.rdropWhile (· == '-') ↔ c ∈ l := by
  constructor
  · exact fun h => (List.rdropWhile_prefix _ _).subset h
  · intro h
    rw [← List.rdropWhile_append_rtakeWhile (p := (· == '-')) (l := l)] at h
    rcases List.mem_append.mp h with hkept | hdropped
    · exact hkept
    · have hdash := List.mem_rtakeWhile_imp hdropped
      exact absurd (beq_iff_eq.mp hdash) hc

/-- A key whose parts are well named. -/
structure WellKeyed (key : MirrorKey) : Prop where
  ns : isDNSLabel key.ns.toList = true
  ingress : isDNS1123Subdomain key.ingress = []
  service : isDNS1035Label key.service.toList = true
  port : 0 < key.port

/-- The keys of backends with names have names. -/
theorem wellKeyed_of_mem {backends : List ChildIngressBackend} (hwell : ∀ backend ∈ backends, backend.WellNamed)
    {key : MirrorKey} (h : key ∈ backends.flatMap (·.keys)) : WellKeyed key := by
  obtain ⟨backend, hbackend, hkey⟩ := List.mem_flatMap.mp h
  rw [ChildIngressBackend.keys] at hkey
  split_ifs at hkey
  · obtain ⟨path, hpath, hsome⟩ := List.mem_filterMap.mp hkey
    rw [ChildIngressBackend.key?, Option.map_eq_some_iff] at hsome
    obtain ⟨port, hport, rfl⟩ := hsome
    have hpos := mirrorServicePort_pos hport
    exact ⟨(hwell backend hbackend).ns, (hwell backend hbackend).ingress,
      (hwell backend hbackend).services path hpath, hpos⟩
  · nomatch hkey

section

variable {key : MirrorKey} (h : WellKeyed key)
include h

/-- The characters after the name of the ingress. -/
theorem char_of_rest {c : Char} (hc : c ∈ '-' :: (key.service.toList ++ '-' :: (toString key.port).toList)) :
    isLowerAlnum c = true ∨ c = '-' := by
  rw [toString_port h.port] at hc
  have hservice := h.service
  simp only [isDNS1035Label, Bool.and_eq_true, List.all_eq_true, Bool.or_eq_true, beq_iff_eq] at hservice
  rcases List.mem_cons.mp hc with rfl | hc
  · exact Or.inr rfl
  rcases List.mem_append.mp hc with hc | hc
  · exact hservice.1.1.2 c hc
  rcases List.mem_cons.mp hc with rfl | hc
  · exact Or.inr rfl
  · left
    have hdigit := Nat.isDigit_of_mem_toDigits (by decide) (by decide) hc
    rw [isLowerAlnum, Bool.or_eq_true]
    right
    simpa [Char.isDigit, Char.le_def] using hdigit

/-- The characters of the text of a host service. -/
theorem char_of_serviceText {c : Char} (hc : c ∈ key.serviceText.toList) :
    isLowerAlnum c = true ∨ c = '-' ∨ c = '.' := by
  rw [serviceText_toList] at hc
  simp only [List.mem_cons, List.mem_append] at hc
  rcases hc with rfl | rfl | rfl | rfl | hc | hc
  · decide
  · decide
  · decide
  · decide
  · exact char_of_subdomain h.ingress hc
  · have hrest := char_of_rest h (c := c) (by simpa using hc)
    rcases hrest with hrest | rfl
    · exact Or.inl hrest
    · simp

/-- A dot before the cut is one in the name of the ingress. -/
theorem dot_mem_cut_iff : '.' ∈ key.serviceText.toList.take 63 ↔ '.' ∈ key.ingress.toList.take 59 := by
  have hrest : '.' ∉ '-' :: (key.service.toList ++ '-' :: (toString key.port).toList) := by
    intro hmem
    rcases char_of_rest h hmem with hchar | hchar <;> exact absurd hchar (by decide)
  rw [serviceText_toList]
  simp only [List.take_succ_cons, List.take_append, List.mem_cons, List.mem_append]
  constructor
  · rintro (hdot | hdot | hdot | hdot | hdot | hdot)
    iterate 4 exact absurd hdot (by decide)
    · exact hdot
    · exact absurd (List.mem_of_mem_take hdot) hrest
  · intro hdot
    simp [hdot]

/-- The name of a host service is one that a service may have exactly when the name of the ingress has
no dot before the cut. -/
theorem serviceName_label_iff : isDNS1035Label key.serviceName.toList = true ↔ '.' ∉ key.ingress.toList.take 59 := by
  have hdot : '.' ≠ '-' := by decide
  rw [← dot_mem_cut_iff h, ← mem_rdropWhile_dash hdot, ← serviceName_toList]
  have hinitial : key.serviceName.toList <+: key.serviceText.toList.take 63 := by
    rw [serviceName_toList]
    exact List.rdropWhile_prefix _ _
  obtain ⟨rest, hcons⟩ := serviceName_cons key
  constructor
  · intro hlabel hdot
    simp only [isDNS1035Label, Bool.and_eq_true, List.all_eq_true] at hlabel
    exact absurd (hlabel.1.1.2 '.' hdot) (by decide)
  · intro hdot
    have hchars : ∀ c ∈ key.serviceName.toList, isLowerAlnum c = true ∨ c = '-' := by
      intro c hc
      rcases char_of_serviceText h (List.mem_of_mem_take (hinitial.subset hc)) with hchar | rfl | rfl
      · exact Or.inl hchar
      · exact Or.inr rfl
      · exact absurd hc hdot
    have hlast : isLowerAlnum (key.serviceName.toList.getLast (by rw [hcons]; simp)) = true := by
      rcases hchars _ (List.getLast_mem (by rw [hcons]; simp)) with hchar | hdash
      · exact hchar
      · exfalso
        have hnot : (key.serviceText.toList.take 63).rdropWhile (· == '-') ≠ [] := by
          rw [← serviceName_toList, hcons]
          simp
        refine List.rdropWhile_last_not (· == '-') _ hnot (beq_iff_eq.mpr ?_)
        simpa only [serviceName_toList] using hdash
    have hlen : key.serviceName.toList.length ≤ 63 := hinitial.length_le.trans (List.length_take_le _ _)
    simp only [isDNS1035Label, Bool.and_eq_true, decide_eq_true_eq, List.all_eq_true, Bool.or_eq_true, beq_iff_eq]
    refine ⟨⟨⟨hlen, hchars⟩, ?_⟩, ?_⟩
    · rw [hcons, List.head?_cons, Option.any_some]
      decide
    · rw [List.getLast?_eq_some_getLast (by rw [hcons]; simp), Option.any_some]
      exact hlast

/-- The text of a host ingress starts with no dash. -/
theorem ingressText_toList : ∃ c l, key.ingressText.toList = c :: l ∧ c ≠ '-' := by
  have hns := h.ns
  simp only [isDNSLabel, Bool.and_eq_true] at hns
  cases hlist : key.ns.toList with
  | nil =>
    rw [hlist] at hns
    exact absurd hns.1.2 (by decide)
  | cons c l =>
    rw [hlist] at hns
    refine ⟨c, l ++ '-' :: key.ingress.toList, by simp [MirrorKey.ingressText, String.toList_append, hlist], ?_⟩
    rintro rfl
    rw [List.head?_cons, Option.any_some] at hns
    exact absurd hns.1.2 (by decide)

end

/-- Two names of Ingresses are the same if their texts are cut to the same. -/
theorem ingressName_eq_iff {a b : MirrorKey} (ha : WellKeyed a) (hb : WellKeyed b) :
    a.ingressName = b.ingressName ↔ SameCut a.ingressText b.ingressText := by
  obtain ⟨c, l, hc, hcdash⟩ := ingressText_toList ha
  obtain ⟨d, m, hd, hddash⟩ := ingressText_toList hb
  exact truncateName_eq_iff hc hd hcdash hddash

end MirrorNamesAux

open MirrorNamesAux

/-- The host objects of one call are named apart exactly when no two keys differ only in what their names lose: the
namespace, the joint, or what stands after the cut; and no name of an ingress has a dot before the cut. -/
theorem mirror_names_apart_iff (cluster : VirtualCluster) (resolved : ResolvedSnapshot) (appsSuffix : String)
    (hsuffix : trimSpace appsSuffix.toList ≠ []) (hns : resolved.hostNamespace ≠ "")
      (backends : List ChildIngressBackend)
    (hwell : ∀ backend ∈ backends, backend.WellNamed) :
    ∃ objects, renderIngressMirror cluster resolved appsSuffix backends = .ok objects ∧
      (∀ name, (name ∈ hostServiceNames objects ↔ ∃ key ∈ backends.flatMap (·.keys), key.serviceName = name) ∧
        (name ∈ hostIngressNames objects ↔ ∃ key ∈ backends.flatMap (·.keys), key.ingressName = name)) ∧
      (NamedApart (backends.flatMap (·.keys)) objects ↔ KeptApart (backends.flatMap (·.keys))) := by
  obtain ⟨objects, hobjects⟩ : ∃ objects, renderIngressMirror cluster resolved appsSuffix backends = .ok objects := by
    rw [renderIngressMirror, if_neg hsuffix, if_neg hns]
    exact ⟨_, rfl⟩
  refine ⟨objects, hobjects, names_rendered hobjects, ?_⟩
  have hkeyed : ∀ key ∈ backends.flatMap (·.keys), WellKeyed key := fun key hkey => wellKeyed_of_mem hwell hkey
  constructor
  · intro h
    refine ⟨?_, ?_, ?_, ?_, ?_, ?_⟩
    · intro a ha b hb hingress hservice hport
      have hname : a.serviceName = b.serviceName := by
        rw [MirrorKey.serviceName, MirrorKey.serviceName, MirrorKey.serviceText, MirrorKey.serviceText,
          hingress, hservice, hport]
      rw [h.services a ha b hb hname]
    · intro a ha b hb hport hjoint
      have hname : a.serviceName = b.serviceName := by
        have htext : a.serviceText = b.serviceText := by
          have hjoint' : "ing-" ++ (a.ingress ++ "-" ++ a.service) = "ing-" ++ (b.ingress ++ "-" ++ b.service) := by
            rw [hjoint]
          simp only [← String.append_assoc] at hjoint'
          rw [MirrorKey.serviceText, MirrorKey.serviceText, hport, hjoint']
        rw [MirrorKey.serviceName, htext]
        rfl
      rw [h.services a ha b hb hname]
    · intro a ha b hb hcut
      rw [h.services a ha b hb ((serviceName_eq_iff a b).mpr hcut)]
    · intro a ha b hb hjoint
      have hname : a.ingressName = b.ingressName := congrArg truncateName hjoint
      exact (h.ingresses a ha b hb hname).1
    · intro a ha b hb hcut
      obtain ⟨hns, hingress⟩ := h.ingresses a ha b hb ((ingressName_eq_iff (hkeyed a ha) (hkeyed b hb)).mpr hcut)
      rw [MirrorKey.ingressText, MirrorKey.ingressText, hns, hingress]
    · intro a ha
      have hmem := (names_rendered hobjects a.serviceName).1.mpr ⟨a, ha, rfl⟩
      exact (serviceName_label_iff (hkeyed a ha)).mp (h.labels _ hmem)
  · intro h
    refine ⟨?_, ?_, ?_⟩
    · intro a ha b hb hname
      have htext := h.cuts a ha b hb ((serviceName_eq_iff a b).mp hname)
      obtain ⟨hjoint, hport⟩ := of_serviceText_eq (hkeyed a ha).port (hkeyed b hb).port htext
      have hingress := h.joints a ha b hb hport hjoint
      have hservice : a.service = b.service := append_dash_inj (hingress ▸ hjoint)
      have hns := h.namespaces a ha b hb hingress hservice hport
      cases a
      cases b
      simp only [MirrorKey.mk.injEq]
      exact ⟨hns, hingress, hservice, hport⟩
    · intro a ha b hb hname
      have htext := h.ingressCuts a ha b hb ((ingressName_eq_iff (hkeyed a ha) (hkeyed b hb)).mp hname)
      have hns := h.ingressJoints a ha b hb htext
      rw [MirrorKey.ingressText, MirrorKey.ingressText, hns] at htext
      exact ⟨hns, append_dash_inj htext⟩
    · intro name hname
      obtain ⟨key, hkey, rfl⟩ := (names_rendered hobjects name).1.mp hname
      exact (serviceName_label_iff (hkeyed key hkey)).mpr (h.dots key hkey)

namespace MirrorNamesAux

/-- The backend of an ingress of a namespace, with a path to port 80 of the service `front`. -/
def frontBackend (ns ingress : String) : ChildIngressBackend :=
  { ingress := { webIngress ["front"] with metadata := { name := ingress, ns := ns } }
    service := some { metadata := { name := "front", ns := ns }, ports := [{ port := 80 }] }
    endpoints := none }

/-- The one key of such a backend. -/
theorem frontBackend_keys (ns ingress : String) : (frontBackend ns ingress).keys = [⟨ns, ingress, "front", 80⟩] := rfl

/-- Such a backend is as an API server lets it be when the names of its namespace and ingress are. -/
theorem frontBackend_wellNamed {ns ingress : String} (hns : isDNSLabel ns.toList = true)
    (hingress : isDNS1123Subdomain ingress = []) : (frontBackend ns ingress).WellNamed where
  ns := hns
  ingress := hingress
  services := by
    have hpaths : (frontBackend ns ingress).ingress.servicePaths = (frontBackend "" "").ingress.servicePaths := rfl
    rw [hpaths]
    decide +kernel

end MirrorNamesAux

/-- The ingresses `web` of two namespaces share a host service. -/
theorem mirror_names_apart_false :
    ¬∀ (cluster : VirtualCluster) (resolved : ResolvedSnapshot) (appsSuffix : String)
      (backends : List ChildIngressBackend)
      (objects : List Manifest), (∀ backend ∈ backends, backend.WellNamed) →
      renderIngressMirror cluster resolved appsSuffix backends = .ok objects →
        NamedApart (backends.flatMap (·.keys)) objects := by
  intro h
  have hwell : ∀ backend ∈ [frontBackend "blue" "web", frontBackend "green" "web"], backend.WellNamed := by
    intro backend hbackend
    simp only [List.mem_cons, List.not_mem_nil, or_false] at hbackend
    rcases hbackend with rfl | rfl <;> exact frontBackend_wellNamed (by decide) (by decide +kernel)
  have hapart := h teamCluster { hostNamespace := "kc-team-01234567" } "apps.example.com" _ _ hwell rfl
  have hsame := hapart.services ⟨"blue", "web", "front", 80⟩ (by decide +kernel) ⟨"green", "web", "front", 80⟩
    (by decide +kernel) rfl
  exact absurd hsame (by decide)

/-- The objects of two ingresses of two namespaces are named apart when the ingresses have names of their own. -/
theorem mirror_names_apart_sample :
    ∃ objects, renderIngressMirror teamCluster { hostNamespace := "kc-team-01234567" } "apps.example.com"
        [frontBackend "blue" "web", frontBackend "green" "shop"] = .ok objects ∧
      NamedApart [⟨"blue", "web", "front", 80⟩, ⟨"green", "shop", "front", 80⟩] objects := by
  obtain ⟨objects, hobjects, -, hiff⟩ := mirror_names_apart_iff teamCluster
    { hostNamespace := "kc-team-01234567" } "apps.example.com"
    (by decide) (by decide) [frontBackend "blue" "web", frontBackend "green" "shop"] (by
      intro backend hbackend
      simp only [List.mem_cons, List.not_mem_nil, or_false] at hbackend
      rcases hbackend with rfl | rfl <;> exact frontBackend_wellNamed (by decide) (by decide +kernel))
  rw [List.flatMap_cons, List.flatMap_singleton, frontBackend_keys, frontBackend_keys, List.singleton_append] at hiff
  refine ⟨objects, hobjects, hiff.mpr
    ⟨by decide +kernel, by decide +kernel, ?_, by decide +kernel, ?_, by decide +kernel⟩⟩
  -- what is cut alike has the same name, and the names are compared
  · intro a ha b hb hcut
    have hnames : ∀ a ∈ [(⟨"blue", "web", "front", 80⟩ : MirrorKey), ⟨"green", "shop", "front", 80⟩],
        ∀ b ∈ [(⟨"blue", "web", "front", 80⟩ : MirrorKey), ⟨"green", "shop", "front", 80⟩],
        a.serviceName = b.serviceName → a.serviceText = b.serviceText := by decide +kernel
    exact hnames a ha b hb ((serviceName_eq_iff a b).mpr hcut)
  · intro a ha b hb hcut
    have hkeyed : ∀ key ∈ [(⟨"blue", "web", "front", 80⟩ : MirrorKey), ⟨"green", "shop", "front", 80⟩],
      WellKeyed key := by
      intro key hkey
      simp only [List.mem_cons, List.not_mem_nil, or_false] at hkey
      rcases hkey with rfl | rfl <;> exact ⟨by decide, by decide +kernel, by decide, by decide⟩
    have hnames : ∀ a ∈ [(⟨"blue", "web", "front", 80⟩ : MirrorKey), ⟨"green", "shop", "front", 80⟩],
        ∀ b ∈ [(⟨"blue", "web", "front", 80⟩ : MirrorKey), ⟨"green", "shop", "front", 80⟩],
        a.ingressName = b.ingressName → a.ingressText = b.ingressText := by decide +kernel
    exact hnames a ha b hb ((ingressName_eq_iff (hkeyed a ha) (hkeyed b hb)).mpr hcut)

end KubeCell
