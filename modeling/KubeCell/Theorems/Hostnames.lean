import KubeCell.Lemmas.Mirror
import KubeCell.Lemmas.Names
import KubeCell.Theorems.Drift

/-!
# Whose hostname it is

A hostname is the name of an ingress, the name of its VirtualCluster and the suffix, with dots between them. The names
hold dots too, and the tenant chooses one of them.
-/

namespace KubeCell

open MirrorAux NamesAux

/-- The rules of the host ingresses among objects. -/
def mirrorRules (objects : List Manifest) : List MirrorRule :=
  objects.flatMap fun
    | .ingress _ _ rules => rules
    | _ => []

/-- No rule that is rendered for the one VirtualCluster has the host of a rule that is rendered for the other,
whatever they were resolved to and whatever ingresses their tenants make. -/
def HostsDisjoint (v v' : VirtualCluster) (appsSuffix : String) : Prop :=
  ∀ (resolved resolved' : ResolvedSnapshot) (backends backends' : List ChildIngressBackend)
    (objects objects' : List Manifest),
    (∀ backend ∈ backends, isDNS1123Subdomain backend.ingress.metadata.name = []) →
    (∀ backend ∈ backends', isDNS1123Subdomain backend.ingress.metadata.name = []) →
    renderIngressMirror v resolved appsSuffix backends = .ok objects →
    renderIngressMirror v' resolved' appsSuffix backends' = .ok objects' →
    ∀ rule ∈ mirrorRules objects, ∀ rule' ∈ mirrorRules objects', rule.host ≠ rule'.host

namespace HostnamesAux

/-- The hostname of an ingress. -/
def hostname (ingressName clusterName appsSuffix : String) : String :=
  ingressName ++ "." ++ clusterName ++ "." ++ appsSuffix

section

variable {clusterName appsSuffix ns : String} {labels : StringMap}

/-- Every pending rule has the hostname of the ingress of some backend. -/
def Hosted (clusterName appsSuffix : String) (backends : List ChildIngressBackend) (state : MirrorState) : Prop :=
  ∀ rule, IsPending state rule → ∃ backend ∈ backends,
    rule.host = hostname backend.ingress.metadata.name clusterName appsSuffix

/-- A path adds a rule with its hostname. -/
theorem isPending_mirrorPath {host : String} {backend : ChildIngressBackend} {state : MirrorState}
    {path : HTTPIngressPath × IngressServiceBackend} {rule : MirrorRule}
    (h : IsPending (mirrorPath ns labels host backend state path) rule) : rule.host = host ∨ IsPending state rule := by
  cases hport : mirrorServicePort backend.service path.2.port with
  | none =>
    rw [mirrorPath_none ns labels host state hport] at h
    exact Or.inr h
  | some port =>
    rw [IsPending, pending_mirrorPath ns labels host state hport] at h
    refine ((mem_addPending _ _ _ _).mp h).imp_left fun heq => ?_
    rw [heq]
    rfl

/-- A backend keeps the rules hosted. -/
theorem hosted_mirrorBackend {backends : List ChildIngressBackend} {state : MirrorState}
    (h : Hosted clusterName appsSuffix backends state) {backend : ChildIngressBackend} (hmem : backend ∈ backends) :
    Hosted clusterName appsSuffix backends (mirrorBackend clusterName appsSuffix ns labels state backend) := by
  unfold mirrorBackend
  split_ifs
  · -- one path after the other; the invariant is that of the backends
    refine List.foldlRecOn backend.ingress.servicePaths _ h fun state hstate path _ rule hrule => ?_
    rcases isPending_mirrorPath hrule with hhost | hold
    · exact ⟨backend, hmem, hhost⟩
    · exact hstate rule hold
  · exact h

/-- The services and endpoints of backends hold no rules. -/
theorem mirrorRules_backends (backends : List ChildIngressBackend) :
    mirrorRules (backends.foldl (mirrorBackend clusterName appsSuffix ns labels) {}).objects = [] :=
  List.flatMap_eq_nil_iff.mpr (forall_mirrorBackends (fun _ _ => rfl) (fun _ _ => rfl) backends)

/-- The rules of a mirror are those that were pending. -/
theorem mem_mirrorRules {objects : List Manifest} {pending : List (String × List MirrorRule)}
    (h : mirrorRules objects = []) (rule : MirrorRule) :
    rule ∈ mirrorRules (objects ++ pending.map fun entry => mirrorIngress entry.1 ns labels entry.2) ↔
      ∃ entry ∈ pending, rule ∈ entry.2 := by
  rw [mirrorRules, List.flatMap_append, ← mirrorRules, h, List.nil_append, List.flatMap_map, List.mem_flatMap]
  rfl

/-- The rules of a mirror are hosted. -/
theorem host_of_rendered {v : VirtualCluster} {resolved : ResolvedSnapshot} {backends : List ChildIngressBackend}
    {objects : List Manifest} (h : renderIngressMirror v resolved appsSuffix backends = .ok objects) {rule : MirrorRule}
    (hrule : rule ∈ mirrorRules objects) :
    ∃ backend ∈ backends, rule.host = hostname backend.ingress.metadata.name v.metadata.name appsSuffix := by
  unfold renderIngressMirror at h
  split_ifs at h
  cases h
  have hempty : Hosted v.metadata.name appsSuffix backends {} := by
    rintro rule ⟨entry, hentry, -⟩
    nomatch hentry
  have hhosted := List.foldlRecOn (motive := Hosted v.metadata.name appsSuffix backends) backends
    (mirrorBackend v.metadata.name appsSuffix resolved.hostNamespace (v.ownedLabels resolved)) hempty
    fun state hstate backend hmem => hosted_mirrorBackend hstate hmem
  exact hhosted rule ((mem_mirrorRules (mirrorRules_backends backends) rule).mp hrule)

end

/-- Two hostnames of different VirtualClusters are the same only if the name of the one ends in the other
with a dot before it. -/
theorem suffix_of_hostname {i i' a b appsSuffix : String} (h : hostname i a appsSuffix = hostname i' b appsSuffix)
    (hne : a ≠ b) :
    '.' :: a.toList <:+ b.toList ∨ '.' :: b.toList <:+ a.toList := by
  have hlist := congrArg String.toList h
  simp only [hostname, String.toList_append] at hlist
  have hnames := List.append_cancel_right (List.append_cancel_right hlist)
  have hdotted : i.toList ++ '.' :: a.toList = i'.toList ++ '.' :: b.toList := by simpa using hnames
  exact suffix_of_append_sep hdotted fun heq => hne (String.toList_inj.mp heq)

/-! ## A collision -/

/-- A backend with one path of an ingress of a name. -/
def oneBackend (ingressName : String) : ChildIngressBackend where
  ingress :=
    { metadata := { name := ingressName, ns := "default" }
      ingressClassName := some Platform.ingressClassName
      rules := [{ http := some [{ path := "/", service := some ⟨"web", ⟨"", 80⟩⟩ }] }] }
  service := none
  endpoints := none

/-- A snapshot with a host namespace. -/
def oneSnapshot : ResolvedSnapshot := { hostNamespace := "kubecell-vc" }

/-- It is mirrored with the hostname of its ingress. -/
theorem rendered_oneBackend (v : VirtualCluster) (ingressName : String) {appsSuffix : String}
    (hsuffix : trimSpace appsSuffix.toList ≠ []) :
    ∃ objects, renderIngressMirror v oneSnapshot appsSuffix [oneBackend ingressName] = .ok objects ∧
      ∃ rule ∈ mirrorRules objects, rule.host = hostname ingressName v.metadata.name appsSuffix := by
  rw [renderIngressMirror, if_neg hsuffix, if_neg (by decide)]
  exact ⟨_, rfl, _, List.mem_singleton_self _, rfl⟩

/-- A suffix that passes is not blank. -/
theorem trimSpace_of_validateAppsSuffix {appsSuffix : String} (h : validateAppsSuffix appsSuffix = .ok ()) :
    trimSpace appsSuffix.toList ≠ [] := by
  intro hblank
  rw [validateAppsSuffix, if_pos hblank] at h
  exact nomatch h

/-- The start of a name that ends in another with a dot before it is, after one more label, a name. -/
theorem subdomain_of_start {a b : String} {start : List Char} (ha : isDNS1123Subdomain a = [])
    (hb : isDNS1123Subdomain b = []) (h : start ++ '.' :: a.toList = b.toList) :
    isDNS1123Subdomain ("x." ++ String.ofList start) = [] := by
  rw [subdomain_iff] at ha hb ⊢
  have htext : ("x." ++ String.ofList start).toList = ['x'] ++ '.' :: start := by simp
  obtain ⟨hlength, hlabels⟩ := hb
  rw [← h, labels_append] at hlabels
  rw [← h] at hlength
  have hnonempty : a.toList ≠ [] := by
    intro hnil
    have hlabel := ha.2 [] (by rw [hnil]; exact List.mem_singleton_self _)
    exact absurd hlabel (by decide)
  have hpos : 0 < a.toList.length := List.length_pos_iff.mpr hnonempty
  rw [htext, labels_append]
  constructor
  · simp only [List.length_append, List.length_cons, List.length_nil] at hlength ⊢
    omega
  · intro label hlabel
    rcases List.mem_append.mp hlabel with hx | hstart
    · rw [List.mem_singleton.mp hx]
      decide
    · exact hlabels label (List.mem_append_left _ hstart)

/-- If the name of the one VirtualCluster ends in that of the other with a dot before it, then there are two
ingresses with one hostname. -/
theorem not_disjoint_of_suffix {v v' : VirtualCluster} {appsSuffix : String}
    (hv : isDNS1123Subdomain v.metadata.name = []) (hv' : isDNS1123Subdomain v'.metadata.name = [])
    (hsuffix : validateAppsSuffix appsSuffix = .ok ())
    (h : '.' :: v.metadata.name.toList <:+ v'.metadata.name.toList) : ¬HostsDisjoint v v' appsSuffix := by
  intro hdisjoint
  obtain ⟨start, hstart⟩ := h
  have hblank := trimSpace_of_validateAppsSuffix hsuffix
  obtain ⟨objects, hobjects, rule, hrule, hhost⟩ := rendered_oneBackend v ("x." ++ String.ofList start) hblank
  obtain ⟨objects', hobjects', rule', hrule', hhost'⟩ := rendered_oneBackend v' "x" hblank
  refine hdisjoint oneSnapshot oneSnapshot _ _ objects objects' ?_ ?_ hobjects hobjects' rule hrule rule' hrule' ?_
  · intro backend hbackend
    rw [List.mem_singleton.mp hbackend]
    exact subdomain_of_start hv hv' hstart
  · intro backend hbackend
    rw [List.mem_singleton.mp hbackend]
    decide +kernel
  · rw [hhost, hhost', ← String.toList_inj]
    simp [hostname, ← hstart]

/-- Whether hosts are disjoint does not depend on which VirtualCluster comes first. -/
theorem hostsDisjoint_symm {v v' : VirtualCluster} {appsSuffix : String} (h : HostsDisjoint v v' appsSuffix) :
    HostsDisjoint v' v appsSuffix := by
  intro resolved resolved' backends backends' objects objects' hnames hnames' hobjects hobjects' rule
    hrule rule' hrule' heq
  exact h resolved' resolved backends' backends objects' objects hnames' hnames hobjects' hobjects rule' hrule'
    rule hrule heq.symm

end HostnamesAux

open HostnamesAux

/-- Tenants cannot take each other's hostnames, as long as neither of the names of their VirtualClusters ends
in a dot and the other. -/
theorem hosts_disjoint_iff (v v' : VirtualCluster) (appsSuffix : String) (hv : isDNS1123Subdomain v.metadata.name = [])
    (hv' : isDNS1123Subdomain v'.metadata.name = []) (hne : v.metadata.name ≠ v'.metadata.name)
    (hsuffix : validateAppsSuffix appsSuffix = .ok ()) :
    HostsDisjoint v v' appsSuffix ↔
      ¬('.' :: v.metadata.name.toList <:+ v'.metadata.name.toList) ∧
        ¬('.' :: v'.metadata.name.toList <:+ v.metadata.name.toList) := by
  constructor
  · intro hdisjoint
    exact ⟨fun h => not_disjoint_of_suffix hv hv' hsuffix h hdisjoint,
      fun h => not_disjoint_of_suffix hv' hv hsuffix h (hostsDisjoint_symm hdisjoint)⟩
  · rintro ⟨hab, hba⟩ resolved resolved' backends backends' objects objects' - - hobjects hobjects' rule
      hrule rule' hrule' heq
    obtain ⟨backend, -, hhost⟩ := host_of_rendered hobjects hrule
    obtain ⟨backend', -, hhost'⟩ := host_of_rendered hobjects' hrule'
    rw [hhost, hhost'] at heq
    exact (suffix_of_hostname heq hne).elim hab hba

/-- A VirtualCluster of a name, on the sample Cell. -/
def HostnamesAux.named (name : String) : VirtualCluster :=
  { DriftAux.sampleCluster with metadata := { DriftAux.sampleCluster.metadata with name := name } }

example : '.' :: (named "prod").metadata.name.toList <:+ (named "team.prod").metadata.name.toList := by decide +kernel

/-- The hosts of two VirtualClusters with plain names are disjoint. -/
theorem hosts_disjoint_sample : HostsDisjoint (named "team1") (named "team2") "apps.example.com" :=
  (hosts_disjoint_iff (named "team1") (named "team2") "apps.example.com" (by decide +kernel)
    (by decide +kernel) (by decide)
    (by decide +kernel)).mpr (by decide +kernel)

/-- Both `prod` and `team.prod` are admitted, one after the other, and the tenant of `prod` takes the hostname
`web.team.prod` with an ingress named `web.team`. -/
theorem hosts_disjoint_false : ¬∀ (clusters : List VirtualCluster) (v v' : VirtualCluster) (appsSuffix : String),
    isDNS1123Subdomain v.metadata.name = [] → isDNS1123Subdomain v'.metadata.name = [] →
      v.metadata.name ≠ v'.metadata.name →
    virtualClusterValidatorValidateCreate clusters v = .ok () → virtualClusterValidatorValidateCreate
      (v :: clusters) v' = .ok () →
    validateAppsSuffix appsSuffix = .ok () → HostsDisjoint v v' appsSuffix := by
  intro h
  have hdisjoint := h [] (named "prod") (named "team.prod") "apps.example.com" (by decide +kernel)
    (by decide +kernel) (by decide)
    (by decide +kernel) (by decide +kernel) (by decide +kernel)
  have hblank : trimSpace "apps.example.com".toList ≠ [] := by decide
  obtain ⟨objects, hobjects, rule, hrule, hhost⟩ := rendered_oneBackend (named "prod") "web.team" hblank
  obtain ⟨objects', hobjects', rule', hrule', hhost'⟩ := rendered_oneBackend (named "team.prod") "web" hblank
  refine hdisjoint oneSnapshot oneSnapshot _ _ objects objects' (by decide +kernel)
    (by decide +kernel) hobjects hobjects'
    rule hrule rule' hrule' ?_
  rw [hhost, hhost']
  decide +kernel

end KubeCell
