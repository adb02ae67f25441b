import KubeCell.Semantics
import KubeCell.Theorems.Admission
import KubeCell.Theorems.Drift

namespace KubeCell

/-!
# What tenant pods can reach

Network policies add up, and they select pods by labels that the child cluster chooses. So a reflected pod is isolated
as long as it is not labelled like the server or like the agent of its K3k cluster; for the server one label is enough.
-/

/-- Nothing may connect to a pod with the labels, and it may connect to port 53 only. -/
def NetworkIsolated (contains : (cidr address : String) → Bool) (policies : List NetworkPolicySpec)
    (labels : StringMap) : Prop :=
  (∀ traffic, ingressAllowed contains policies labels traffic = false) ∧
    ∀ traffic, egressAllowed contains policies labels traffic = true →
      traffic.port = 53 ∧ (traffic.protocol = "TCP" ∨ traffic.protocol = "UDP")

/-- The labels of the pod that a child pod is reflected to. -/
def reflectedLabels (names : Names) (childLabels : StringMap) : StringMap :=
  childLabels.insert k3kClusterNameLabel names.k3kCluster

namespace IsolationAux

/-- The labels of the server, and of the agent, of a K3k cluster. -/
def serverLabels : List (String × String) := [("role", "server")]
@[inherit_doc serverLabels] def agentLabels (names : Names) : List (String × String) :=
  [("cluster", names.k3kCluster), ("type", "agent")]

/-- The four policies. -/
def foundationPolicies (names : Names) : List NetworkPolicySpec :=
  [{},
    { egress := some [{ ports := some [⟨"UDP", 53⟩, ⟨"TCP", 53⟩] }] },
    { podSelector := serverLabels, ingress := some [{}], egress := some [tcpRule [.podSelector (agentLabels names)] 10250] },
    { podSelector := agentLabels names
      ingress := some [tcpRule [.podSelector serverLabels] 10250]
      egress := some [tcpRule [.ipBlock "10.43.0.1/32"] 443, tcpRule (ipPeers names.hostAPIAddresses) 6443,
        tcpRule [.podSelector serverLabels] 6443] }]

theorem networkPolicies_foundation (cluster : VirtualCluster) (resolved : ResolvedSnapshot) (names : Names) :
    networkPolicies (renderFoundation cluster resolved names) names.hostNamespace = foundationPolicies names := by
  simp [networkPolicies, renderFoundation, objectMeta, foundationPolicies, serverLabels, agentLabels]

theorem selectsLabels_nil (labels : StringMap) : selectsLabels [] labels = true := rfl

variable (contains : (cidr address : String) → Bool) (names : Names) {labels : StringMap}

/-- A pod that is labelled like the server may be connected to from anywhere. -/
theorem ingress_of_server (hserver : selectsLabels serverLabels labels = true) (traffic : Traffic) :
    ingressAllowed contains (foundationPolicies names) labels traffic = true := by
  simp [ingressAllowed, someRulePermits, foundationPolicies, List.filter_cons, selectsLabels_nil, hserver,
    NetworkPolicyRule.permits]

/-- A pod that is labelled like the agent may be connected to from pods that are labelled like the server. -/
theorem ingress_of_agent {names : Names} (hagent : selectsLabels (agentLabels names) labels = true) :
    ingressAllowed contains (foundationPolicies names) labels
      ⟨{ labels := some (GoMap.ofList serverLabels) }, "TCP", 10250⟩ = true := by
  have hpeer : selectsLabels serverLabels (GoMap.ofList serverLabels) = true := by decide
  by_cases hserver : selectsLabels serverLabels labels = true
  · exact ingress_of_server contains names hserver _
  · simp [ingressAllowed, someRulePermits, foundationPolicies, List.filter_cons, selectsLabels_nil, hserver, hagent,
      NetworkPolicyRule.permits, tcpRule, NetworkPolicyPeer.covers, hpeer]

/-- A pod that is labelled like neither is isolated: only the first two policies select it. -/
theorem isolated_of_plain {names : Names} (hserver : selectsLabels serverLabels labels = false)
    (hagent : selectsLabels (agentLabels names) labels = false) :
    NetworkIsolated contains (foundationPolicies names) labels := by
  constructor
  · intro traffic
    simp [ingressAllowed, someRulePermits, foundationPolicies, List.filter_cons, selectsLabels_nil, hserver, hagent]
  · intro traffic htraffic
    simp [egressAllowed, someRulePermits, foundationPolicies, List.filter_cons, selectsLabels_nil, hserver, hagent,
      NetworkPolicyRule.permits] at htraffic
    rcases htraffic with ⟨hprotocol, hport⟩ | ⟨hprotocol, hport⟩
    · exact ⟨hport.symm, Or.inr hprotocol.symm⟩
    · exact ⟨hport.symm, Or.inl hprotocol.symm⟩

/-- The child chooses the labels the policies look at. -/
theorem selects_reflected (names : Names) (childLabels : StringMap) :
    (selectsLabels serverLabels (reflectedLabels names childLabels) = true ↔
      AList.lookup "role" childLabels = some "server") ∧
    (selectsLabels (agentLabels names) (reflectedLabels names childLabels) = true ↔
      AList.lookup "cluster" childLabels = some names.k3kCluster ∧ AList.lookup "type" childLabels = some "agent") := by
  have hrole : AList.lookup "role" (reflectedLabels names childLabels) = AList.lookup "role" childLabels :=
    AList.lookup_insert_ne (by decide)
  have hcluster : AList.lookup "cluster" (reflectedLabels names childLabels) = AList.lookup "cluster" childLabels :=
    AList.lookup_insert_ne (by decide)
  have htype : AList.lookup "type" (reflectedLabels names childLabels) = AList.lookup "type" childLabels :=
    AList.lookup_insert_ne (by decide)
  simp [selectsLabels, serverLabels, agentLabels, hrole, hcluster, htype]

end IsolationAux

open IsolationAux

/-- The network policies of the foundation isolate a reflected pod exactly when its child pod is labelled neither like
a server nor like the agent of the K3k cluster. -/
theorem network_isolated_iff (contains : (cidr address : String) → Bool) (cluster : VirtualCluster)
    (resolved : ResolvedSnapshot) (names : Names) (childLabels : StringMap) :
    NetworkIsolated contains (networkPolicies (renderFoundation cluster resolved names) names.hostNamespace)
        (reflectedLabels names childLabels) ↔
      AList.lookup "role" childLabels ≠ some "server" ∧
        ¬(AList.lookup "cluster" childLabels = some names.k3kCluster ∧ AList.lookup "type" childLabels =
          some "agent") := by
  obtain ⟨hserver, hagent⟩ := selects_reflected names childLabels
  rw [networkPolicies_foundation]
  constructor
  · rintro ⟨hingress, -⟩
    constructor
    · intro hrole
      have hallowed := ingress_of_server contains names (hserver.mpr hrole) ⟨{}, "TCP", 80⟩
      rw [hingress] at hallowed
      nomatch hallowed
    · intro hlabels
      have hallowed := ingress_of_agent contains (hagent.mpr hlabels)
      rw [hingress] at hallowed
      nomatch hallowed
  · rintro ⟨hrole, hlabels⟩
    refine isolated_of_plain contains ?_ ?_
    · rw [← Bool.not_eq_true, hserver]
      exact hrole
    · rw [← Bool.not_eq_true, hagent]
      exact hlabels

namespace IsolationAux

/-- The names of the sample VirtualCluster, on a host of one node. -/
def sampleNames : Names := DriftAux.sampleCluster.renderNames ["10.0.0.1"]

/-- The snapshot of the sample VirtualCluster. -/
def sampleSnapshot : ResolvedSnapshot :=
  DriftAux.sampleCluster.snapshot
    (ResolutionAux.resolvedOf DriftAux.sampleCtx DriftAux.sampleCell (DriftAux.sampleClass DriftAux.gibi))

/-- The policy of its host namespace. -/
def samplePolicy : Policy :=
  { AdmissionAux.samplePolicy with ns := sampleNames.hostNamespace, k3kClusterName := sampleNames.k3kCluster }

/-- A pod of its child cluster with the label `role: server`, as it is reflected to that namespace. -/
def serverPod : Pod :=
  { AdmissionAux.samplePod [] [] with
    metadata.ns := sampleNames.hostNamespace
    metadata.labels := reflectedLabels sampleNames (GoMap.ofList [("role", "server")]) }

end IsolationAux

/-- A pod of a child cluster with the label `role: server` passes the webhook as a workload, and may be connected to. -/
theorem network_isolated_false :
    resolveVirtualCluster DriftAux.sampleCtx DriftAux.sampleCell (DriftAux.sampleClass DriftAux.gibi) =
      .ok (ResolutionAux.resolvedOf DriftAux.sampleCtx DriftAux.sampleCell (DriftAux.sampleClass DriftAux.gibi)) ∧
    validateReflectedPod serverPod samplePolicy = [] ∧ isK3kInfrastructurePod serverPod samplePolicy = false ∧
    ¬NetworkIsolated (fun _ _ => false)
      (networkPolicies (renderFoundation DriftAux.sampleCluster sampleSnapshot sampleNames) sampleNames.hostNamespace)
      serverPod.metadata.labels := by
  refine ⟨(ResolutionAux.resolveVirtualCluster_ok_iff _ _ _ _).mpr
    ⟨DriftAux.sample_resolves DriftAux.gibi, rfl⟩, by decide +kernel, by decide +kernel, ?_⟩
  rintro ⟨hingress, -⟩
  have hserver : selectsLabels serverLabels serverPod.metadata.labels = true := by decide +kernel
  have hallowed := ingress_of_server (fun _ _ => false) sampleNames hserver ⟨{}, "TCP", 80⟩
  rw [networkPolicies_foundation] at hingress
  rw [hingress] at hallowed
  nomatch hallowed

end KubeCell
