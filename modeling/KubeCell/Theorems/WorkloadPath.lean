import KubeCell.Theorems.Admission
import KubeCell.Theorems.Confinement

/-!
# Pods of the workload path

A pod that the webhook takes for neither a native K3k pod nor a system pod is validated with the nodes of its storage.
The validator looks at the expressions of the required node affinity, and not at its fields; and it resolves the
claims that a pod names, not those that a pod has created. So a tenant can still name a node by a field, and use any
StorageClass with an ephemeral volume.
-/

namespace KubeCell

open AdmissionAux ConfinementAux

/-- The webhook is asked for a pod of a namespace with a complete policy, and takes it for a workload. -/
structure OnWorkloadPath (Γ : Ctx) (reader : HostAdmissionReader) (ns : String) (pod : Pod)
    (policy : Policy) : Prop where
  complete : ∃ metadata, reader.getNamespace ns = .ok metadata ∧ metadata.labels.get labelVirtualClusterUID ≠ "" ∧
    namespacePolicy Γ ns metadata = .ok policy
  notNative : isK3kInfrastructurePod pod policy = false
  notSystem : isReflectedSystemPod pod policy = false

/-! ## Node identity -/

/-- The requirements of a term on the name that a node has as a host. -/
def NodeSelectorTerm.hostnames (term : NodeSelectorTerm) : List NodeSelectorRequirement :=
  term.matchExpressions.filter fun r => r.key == labelHostname

/-- The requirements of a term on the name of a node. -/
def NodeSelectorTerm.nodeNames (term : NodeSelectorTerm) : List NodeSelectorRequirement :=
  term.matchFields.filter fun r => r.key == "metadata.name"

/-- The requirement on a label holds only where the label names one of the nodes. -/
def NodeSelectorRequirement.LabelWithin (r : NodeSelectorRequirement) (nodes : List String) : Prop :=
  ∀ label, r.holdsOf label = true → ∃ node ∈ nodes, label = some node

/-- The requirement on a field holds only of the nodes. -/
def NodeSelectorRequirement.NameWithin (r : NodeSelectorRequirement) (nodes : List String) : Prop :=
  ∀ node : ObjectMeta, r.holdsOfField node = true → node.name ∈ nodes

/-- The pod names no claim. -/
def Pod.Claimless (pod : Pod) : Prop := ∀ volume ∈ pod.volumes, volume.persistentVolumeClaim = none

/-- The preference for the node that the K3k agent of a pod runs on. -/
def Pod.agentPreference (pod : Pod) : PreferredSchedulingTerm :=
  { weight := 100
    preference :=
      { matchExpressions := [{ key := labelHostname, operator := "In", values := [pod.metadata.labels.get k3kAgentNameLabel] }] } }

/-- The preferred part of the node affinity of a pod. -/
def Pod.preferredTerms (pod : Pod) : List PreferredSchedulingTerm :=
  ((pod.affinity.bind (·.nodeAffinity)).map (·.preferred)).getD []

/-- What a pod says about single nodes comes from its storage, which is on `nodes`. -/
structure NotPinned (pod : Pod) (nodes : List String) : Prop where
  nodeName : pod.nodeName = ""
  nodeSelector : pod.nodeSelector = none
  hostnames : ∀ term ∈ pod.requiredTerms.getD [], ∀ r ∈ term.hostnames, r.LabelWithin nodes
  nodeNames : ∀ term ∈ pod.requiredTerms.getD [], ∀ r ∈ term.nodeNames, r.NameWithin nodes
  claimless : pod.Claimless → ∀ term ∈ pod.requiredTerms.getD [], term.hostnames = [] ∧ term.nodeNames = []
  preferred : ∀ term ∈ pod.preferredTerms, term = pod.agentPreference ∧ pod.metadata.labels.get k3kAgentNameLabel ≠ ""

/-- The fields of the required node affinity name nodes of the storage only, and none without a claim; and the label
that carries the profile is not the name of the host, unless the profile is one of the nodes. -/
structure FieldsWithin (pod : Pod) (policy : Policy) (nodes : List String) : Prop where
  nodeNames : ∀ term ∈ pod.requiredTerms.getD [], ∀ r ∈ term.nodeNames, r.NameWithin nodes
  claimless : pod.Claimless → ∀ term ∈ pod.requiredTerms.getD [], term.nodeNames = []
  profile : policy.profileLabelKey = labelHostname → policy.profileName ∈ nodes

namespace WorkloadPathAux

variable {Γ : Ctx} {reader : HostAdmissionReader} {ns : String} {pod admitted : Pod} {policy : Policy}
  {nodes : List String}

/-- What is admitted on the workload path: the storage is resolved, the validator finds nothing, and
the profile is added. -/
theorem admitted_cases (hpath : OnWorkloadPath Γ reader ns pod policy)
    (h : (handle Γ reader ⟨ns, .ok pod⟩).admitted pod = some admitted) :
    ∃ nodes, resolveStorageNodes reader ns pod policy = .ok nodes ∧
      validateReflectedPod pod { policy with allowedStorageNodes := nodes } = [] ∧
      admitted = withRequired pod (patchedTerms policy pod) := by
  obtain ⟨metadata, hns, huid, hpolicy⟩ := hpath.complete
  have hhandle : handle Γ reader ⟨ns, .ok pod⟩ = handlePod reader ns pod policy := by
    simp only [handle, hns, if_neg huid, hpolicy]
  rw [hhandle] at h
  obtain ⟨nodes, hresolved, hvalid, hadmitted⟩ := handlePod_workload_valid reader ns hpath.notNative hpath.notSystem h
  refine ⟨nodes, hresolved, hvalid, ?_⟩
  rw [hadmitted, addProfileAffinity_eq]
  rfl

/-- What the validator has found nothing wrong with. -/
structure Validated (pod : Pod) (policy : Policy) (nodes : List String) : Prop where
  nodeName : pod.nodeName = ""
  nodeSelector : pod.nodeSelector = none
  preferred : ∀ term ∈ pod.preferredTerms, isK3kGeneratedPreferredAffinity term pod = true
  required : ∀ term ∈ pod.requiredTerms.getD [], ∀ r ∈ term.matchExpressions,
    expressionViolations { policy with allowedStorageNodes := nodes } r = []

theorem validated_of_validateReflectedPod
    (h : validateReflectedPod pod { policy with allowedStorageNodes := nodes } = []) :
    Validated pod policy nodes := by
  simp only [validateReflectedPod, List.append_eq_nil_iff, ite_violation_eq_nil] at h
  obtain ⟨⟨⟨⟨⟨⟨-, hnodeName⟩, hnodeSelector⟩, haffinity⟩, -⟩, -⟩, -⟩ := h
  have hparts : (∀ term ∈ pod.preferredTerms, isK3kGeneratedPreferredAffinity term pod = true) ∧
      ∀ term ∈ pod.requiredTerms.getD [], ∀ r ∈ term.matchExpressions,
        expressionViolations { policy with allowedStorageNodes := nodes } r = [] := by
    unfold Pod.preferredTerms Pod.requiredTerms
    cases hpod : pod.affinity with
    | none => simp
    | some affinity =>
      cases hnode : affinity.nodeAffinity with
      | none => simp [hnode]
      | some nodeAffinity =>
        rw [hpod] at haffinity
        simp only [validateAffinity, hnode, List.append_eq_nil_iff, List.flatMap_eq_nil_iff,
          ite_violation_eq_nil] at haffinity
        obtain ⟨-, hpreferred, hrequired⟩ := haffinity
        refine ⟨fun term hterm => ?_, fun term hterm => hrequired term ?_⟩
        · simpa using hpreferred term (by simpa [hnode] using hterm)
        · simpa [hnode] using hterm
  exact ⟨not_not.mp hnodeName, by simpa using hnodeSelector, hparts.1, hparts.2⟩

/-- A preference that K3k has generated is the preference for the node of the agent. -/
theorem agentPreference_of_generated {term : PreferredSchedulingTerm}
    (h : isK3kGeneratedPreferredAffinity term pod = true) :
    term = pod.agentPreference ∧ pod.metadata.labels.get k3kAgentNameLabel ≠ "" := by
  unfold isK3kGeneratedPreferredAffinity at h
  split_ifs at h with hagent hfields
  obtain ⟨hlabel, hweight⟩ := not_or.mp hagent
  refine ⟨?_, hlabel⟩
  split at h
  · rename_i expression hexpressions
    simp only [Bool.and_eq_true, beq_iff_eq] at h
    obtain ⟨⟨hkey, hoperator⟩, hvalues⟩ := h
    obtain ⟨weight, matchExpressions, matchFields⟩ := term
    obtain ⟨key, operator, values⟩ := expression
    dsimp only at hweight hfields hexpressions hkey hoperator hvalues
    rw [not_not.mp hweight, hexpressions, not_not.mp hfields, hkey, hoperator, hvalues]
    rfl
  · nomatch h

/-- A list of values that are all among the nodes. -/
theorem labelWithin_of_in {r : NodeSelectorRequirement} (hoperator : r.operator = "In")
    (hvalues : ∀ value ∈ r.values, value ∈ nodes) :
    r.LabelWithin nodes := by
  intro label hholds
  simp only [NodeSelectorRequirement.holdsOf, hoperator, if_true] at hholds
  cases label with
  | none => cases hholds
  | some value => exact ⟨value, hvalues value (by simpa using hholds), rfl⟩

/-- An expression on the host name that passes: it is one of the nodes of the storage, or the
label carries the profile. -/
theorem hostname_of_valid {r : NodeSelectorRequirement} (hkey : r.key = labelHostname)
    (h : expressionViolations { policy with allowedStorageNodes := nodes } r = []) :
    (policy.profileLabelKey = labelHostname ∧ r = profileRequirement policy) ∨
      (nodes ≠ [] ∧ r.operator = "In" ∧ ∀ value ∈ r.values, value ∈ nodes) := by
  unfold expressionViolations at h
  by_cases hprofile : r.key = policy.profileLabelKey
  · rw [if_pos hprofile, ite_violation_eq_nil] at h
    obtain ⟨hoperator, hvalues⟩ := not_or.mp h
    refine Or.inl ⟨hprofile.symm.trans hkey, ?_⟩
    obtain ⟨key, operator, values⟩ := r
    dsimp only at hprofile hoperator hvalues
    rw [profileRequirement, hprofile, not_not.mp hoperator, not_not.mp hvalues]
  · rw [if_neg hprofile, if_pos hkey, ite_violation_eq_nil] at h
    unfold allowedStorageNodeValues at h
    split_ifs at h with hrefused
    · simp at h
    · simp only [not_or, not_not] at hrefused
      exact Or.inr ⟨hrefused.2.2, hrefused.1, by simpa [containsString] using h⟩

/-- The terms that are admitted: each was there, perhaps without the requirement of the profile, or
is made of that alone. -/
theorem mem_patchedTerms {term : NodeSelectorTerm} (h : term ∈ patchedTerms policy pod) :
    term = ({} : NodeSelectorTerm).withProfile policy ∨
      ∃ original ∈ pod.requiredTerms.getD [], term = original ∨ term = original.withProfile policy := by
  unfold patchedTerms at h
  split_ifs at h
  · exact Or.inl (List.mem_singleton.mp h)
  · obtain ⟨original, hmem, rfl⟩ := List.mem_map.mp h
    refine Or.inr ⟨original, hmem, ?_⟩
    unfold ensured
    split_ifs
    · exact Or.inr rfl
    · exact Or.inl rfl

/-- An expression of an admitted term is of the tenant, or the requirement of the profile. -/
theorem expression_of_patched {term : NodeSelectorTerm} {r : NodeSelectorRequirement}
    (hterm : term ∈ patchedTerms policy pod) (hr : r ∈ term.matchExpressions) :
    r = profileRequirement policy ∨ ∃ original ∈ pod.requiredTerms.getD [], r ∈ original.matchExpressions := by
  rcases mem_patchedTerms hterm with rfl | ⟨original, hmem, rfl | rfl⟩
  · exact Or.inl (List.mem_singleton.mp hr)
  · exact Or.inr ⟨_, hmem, hr⟩
  · rcases List.mem_append.mp hr with hr | hr
    · exact Or.inr ⟨_, hmem, hr⟩
    · exact Or.inl (List.mem_singleton.mp hr)

/-- The fields of the admitted terms are the fields of the tenant. -/
theorem nodeNames_of_patched {term : NodeSelectorTerm} (hterm : term ∈ patchedTerms policy pod) :
    term.nodeNames = [] ∨ ∃ original ∈ pod.requiredTerms.getD [], term.nodeNames = original.nodeNames := by
  rcases mem_patchedTerms hterm with rfl | ⟨original, hmem, rfl | rfl⟩
  · exact Or.inl rfl
  · exact Or.inr ⟨_, hmem, rfl⟩
  · exact Or.inr ⟨_, hmem, rfl⟩

/-- And all of them are there. -/
theorem exists_patched (policy : Policy) {original : NodeSelectorTerm} (hmem : original ∈ pod.requiredTerms.getD []) :
    ∃ term ∈ patchedTerms policy pod, term.nodeNames = original.nodeNames := by
  refine ⟨ensured policy original, ?_, ?_⟩
  · rw [patchedTerms, if_neg (List.ne_nil_of_mem hmem)]
    exact List.mem_map_of_mem hmem
  · unfold ensured
    split_ifs <;> rfl

/-- What is said of single nodes by an admitted pod whose fields do not name others. -/
theorem notPinned_of_fields (hvalid : Validated pod policy nodes) (hnodes : pod.Claimless → nodes = [])
    (hfields : FieldsWithin pod policy nodes) : NotPinned (withRequired pod (patchedTerms policy pod)) nodes := by
  have hterms : (withRequired pod (patchedTerms policy pod)).requiredTerms.getD [] = patchedTerms policy pod := rfl
  -- a requirement on the host name is of the storage, or of a profile that is one of its nodes
  have hhostname : ∀ term ∈ patchedTerms policy pod, ∀ r ∈ term.hostnames,
      nodes ≠ [] ∧ r.operator = "In" ∧ ∀ value ∈ r.values, value ∈ nodes := by
    intro term hterm r hr
    obtain ⟨hmem, hkey⟩ := List.mem_filter.mp hr
    have hkey : r.key = labelHostname := beq_iff_eq.mp hkey
    have hprofile : policy.profileLabelKey = labelHostname → r = profileRequirement policy →
        nodes ≠ [] ∧ r.operator = "In" ∧ ∀ value ∈ r.values, value ∈ nodes := by
      rintro hlabel rfl
      have hmem := hfields.profile hlabel
      refine ⟨List.ne_nil_of_mem hmem, rfl, fun value hvalue => ?_⟩
      rw [List.mem_singleton.mp hvalue]
      exact hmem
    rcases expression_of_patched hterm hmem with rfl | ⟨original, horiginal, hr⟩
    · exact hprofile hkey rfl
    · rcases hostname_of_valid hkey (hvalid.required original horiginal r hr) with ⟨hlabel, rfl⟩ | hwithin
      · exact hprofile hlabel rfl
      · exact hwithin
  refine ⟨hvalid.nodeName, hvalid.nodeSelector, ?_, ?_, ?_, ?_⟩
  · rw [hterms]
    intro term hterm r hr
    obtain ⟨-, hoperator, hvalues⟩ := hhostname term hterm r hr
    exact labelWithin_of_in hoperator hvalues
  · rw [hterms]
    intro term hterm
    rcases nodeNames_of_patched hterm with hnone | ⟨original, horiginal, heq⟩
    · simp [hnone]
    · rw [heq]
      exact hfields.nodeNames original horiginal
  · rw [hterms]
    intro hclaimless term hterm
    constructor
    · refine List.eq_nil_iff_forall_not_mem.mpr fun r hr => ?_
      exact (hhostname term hterm r hr).1 (hnodes hclaimless)
    · rcases nodeNames_of_patched hterm with hnone | ⟨original, horiginal, heq⟩
      · exact hnone
      · rw [heq]
        exact hfields.claimless hclaimless original horiginal
  · intro term hterm
    refine agentPreference_of_generated (hvalid.preferred term ?_)
    rwa [Pod.preferredTerms, (appendsProfile_withRequired pod).preferred] at hterm

/-- The fields of an admitted pod that says nothing of other nodes. -/
theorem fields_of_notPinned (h : NotPinned (withRequired pod (patchedTerms policy pod)) nodes) :
    FieldsWithin pod policy nodes := by
  have hterms : (withRequired pod (patchedTerms policy pod)).requiredTerms.getD [] = patchedTerms policy pod := rfl
  refine ⟨?_, ?_, ?_⟩
  · intro original horiginal
    obtain ⟨term, hterm, heq⟩ := exists_patched policy horiginal
    rw [← heq]
    exact h.nodeNames term (hterms.symm ▸ hterm)
  · intro hclaimless original horiginal
    obtain ⟨term, hterm, heq⟩ := exists_patched policy horiginal
    rw [← heq]
    exact (h.claimless hclaimless term (hterms.symm ▸ hterm)).2
  · intro hlabel
    -- every term holds the requirement of the profile, which is one on the host name here
    obtain ⟨term, hterm⟩ := List.exists_mem_of_ne_nil (patchedTerms policy pod) (patchedTerms_ne_nil pod)
    have hr : profileRequirement policy ∈ term.hostnames := by
      refine List.mem_filter.mpr ⟨patchedTerms_hold pod term hterm, ?_⟩
      exact beq_iff_eq.mpr hlabel
    have hholds : (profileRequirement policy).holdsOf (some policy.profileName) = true := by
      simp [NodeSelectorRequirement.holdsOf, profileRequirement]
    obtain ⟨node, hnode, heq⟩ := h.hostnames term (hterms.symm ▸ hterm) _ hr (some policy.profileName) hholds
    rwa [Option.some.inj heq]

/-- Without a claim there is no storage to resolve. -/
theorem nodes_of_claimless (hclaimless : pod.Claimless)
    (h : resolveStorageNodes reader ns pod policy = .ok nodes) : nodes = [] := by
  have hclaims : pod.volumes.filterMap (·.persistentVolumeClaim) = [] := List.filterMap_eq_nil_iff.mpr hclaimless
  unfold resolveStorageNodes at h
  rw [hclaims] at h
  split_ifs at h
  · exact (Except.ok.inj h).symm
  · exact (Except.ok.inj h).symm

end WorkloadPathAux

open WorkloadPathAux

/-- On the workload path a pod is admitted without naming nodes other than those of its storage exactly when the
fields of its required node affinity name none, and the profile is not carried by the name of the host. -/
theorem not_pinned_iff (Γ : Ctx) (reader : HostAdmissionReader) (ns : String) (pod admitted : Pod) (policy : Policy)
    (hpath : OnWorkloadPath Γ reader ns pod policy)
    (hadmitted : (handle Γ reader ⟨ns, .ok pod⟩).admitted pod = some admitted) :
    ∃ nodes, resolveStorageNodes reader ns pod policy = .ok nodes ∧
      (NotPinned admitted nodes ↔ FieldsWithin pod policy nodes) := by
  obtain ⟨nodes, hresolved, hvalid, rfl⟩ := admitted_cases hpath hadmitted
  refine ⟨nodes, hresolved, fields_of_notPinned, fun hfields => ?_⟩
  exact notPinned_of_fields (validated_of_validateReflectedPod hvalid)
    (fun hclaimless => nodes_of_claimless hclaimless hresolved) hfields

namespace WorkloadPathAux

/-- A pod of the sample namespace with a required term, and with volumes. -/
def workloadPod (term : NodeSelectorTerm) (volumes : List Volume) : Pod :=
  { samplePod [("app", "web")] volumes with affinity := some { nodeAffinity := some { required := some [term] } } }

/-- A host with the sample namespace, and one claim that is bound to a volume on `node-a`. -/
def claimReader : HostAdmissionReader :=
  { sampleReader with
    getClaim := fun key => if key.name = "data" then
        .ok { metadata := { name := "data" }, storageClassName := some "topolvm", volumeName := "pv-a" }
      else .error ⟨.notFound, "not found"⟩
    getVolume := fun _ => .ok
      { metadata := { name := "pv-a" }
        nodeAffinity := some [{ matchExpressions := [{ key := labelHostname, operator := "In", values := ["node-a"] }] }] } }

/-- A pod of the sample namespace is a workload. -/
theorem onWorkloadPath_workloadPod (Γ : Ctx) (term : NodeSelectorTerm) (volumes : List Volume) :
    OnWorkloadPath Γ claimReader "kc-team-01234567" (workloadPod term volumes) samplePolicy where
  complete := ⟨sampleNamespace, rfl, by decide +kernel, namespacePolicy_sample Γ⟩
  notNative := (by decide +kernel : isK3kInfrastructurePod (samplePod [("app", "web")] []) samplePolicy = false)
  notSystem := (by decide +kernel : isReflectedSystemPod (samplePod [("app", "web")] []) samplePolicy = false)

end WorkloadPathAux

/-- A pod that names `node-b` in a field is admitted, although it has no storage at all. -/
theorem not_pinned_false :
    ¬∀ (Γ : Ctx) (reader : HostAdmissionReader) (ns : String) (pod admitted : Pod) (policy : Policy),
      OnWorkloadPath Γ reader ns pod policy → (handle Γ reader ⟨ns, .ok pod⟩).admitted pod = some admitted →
      ∃ nodes, resolveStorageNodes reader ns pod policy = .ok nodes ∧ NotPinned admitted nodes := by
  intro h
  obtain ⟨nodes, -, hpinned⟩ := h sampleCtx claimReader "kc-team-01234567"
    (workloadPod { matchFields := [{ key := "metadata.name", operator := "In", values := ["node-b"] }] }
      []) _ samplePolicy
    (onWorkloadPath_workloadPod _ _ _) rfl
  obtain ⟨-, hnames⟩ := hpinned.claimless nofun _ List.mem_cons_self
  exact absurd hnames (by decide +kernel)

/-- A pod that names `node-a`, where its volume is, in an expression. -/
def WorkloadPathAux.localPod : Pod :=
  workloadPod { matchExpressions := [{ key := labelHostname, operator := "In", values := ["node-a"] }] }
    [{ persistentVolumeClaim := some "data" }]

/-- It is admitted, and names no other node. -/
theorem not_pinned_sample :
    ∃ admitted, (handle sampleCtx claimReader ⟨"kc-team-01234567", .ok localPod⟩).admitted localPod = some admitted ∧
      NotPinned admitted ["node-a"] := by
  refine ⟨_, rfl, ?_⟩
  obtain ⟨nodes, hresolved, hiff⟩ := not_pinned_iff sampleCtx claimReader "kc-team-01234567" localPod _ samplePolicy
    (onWorkloadPath_workloadPod _ _ _) rfl
  obtain rfl : ["node-a"] = nodes := Except.ok.inj hresolved
  refine hiff.mpr ⟨?_, ?_, ?_⟩
  · intro term hterm r hr
    rw [List.mem_singleton.mp hterm] at hr
    nomatch hr
  · intro _ term hterm
    rw [List.mem_singleton.mp hterm]
    rfl
  · intro hlabel
    exact absurd hlabel (by decide)

/-! ## Storage -/

/-- The template of the claim that is created for a volume. -/
def Volume.template (volume : Volume) : Option PersistentVolumeClaimTemplate :=
  volume.ephemeral.bind (·.volumeClaimTemplate)

/-- The claims that a pod has created are of StorageClasses of the policy. -/
def TemplatesApproved (policy : Policy) (pod : Pod) : Prop :=
  ∀ volume ∈ pod.volumes, ∀ template, volume.template = some template →
    ∃ storageClass ∈ policy.storageClassNames, template.storageClassName = some storageClass

/-- The claims of a pod, those it names and those it has created, are of StorageClasses of the policy, and without any
such there is no claim. -/
structure StorageConfined (reader : HostAdmissionReader) (ns : String) (policy : Policy) (pod : Pod) : Prop where
  claims : ∀ volume ∈ pod.volumes, ∀ claimName, volume.persistentVolumeClaim = some claimName →
    ∃ claim, reader.getClaim ⟨ns, claimName⟩ = .ok claim ∧ ∃ storageClass ∈ policy.storageClassNames,
      claim.storageClassName = some storageClass
  templates : TemplatesApproved policy pod
  none : policy.storageClassNames = [] → ∀ volume ∈ pod.volumes, volume.persistentVolumeClaim = none ∧
    volume.template = none

namespace WorkloadPathAux

variable {Γ : Ctx} {reader : HostAdmissionReader} {ns : String} {pod admitted : Pod} {policy : Policy}
  {nodes : List String}

/-- A loop that does not fail fails nowhere. -/
theorem ok_of_mapM {α β ε : Type} {f : α → Except ε β} {l : List α} {r : List β} (h : l.mapM f = .ok r) :
    ∀ a ∈ l, ∃ b, f a = .ok b := by
  induction l generalizing r with
  | nil => nofun
  | cons a l ih =>
    rw [List.mapM_cons] at h
    cases hfirst : f a with
    | error e =>
      rw [hfirst] at h
      nomatch h
    | ok b =>
      cases hrest : l.mapM f with
      | error e =>
        rw [hfirst, hrest] at h
        nomatch h
      | ok bs =>
        intro a' ha'
        rcases List.mem_cons.mp ha' with rfl | hmem
        · exact ⟨b, hfirst⟩
        · exact ih hrest a' hmem

/-- A claim whose node is looked for is of a StorageClass of the policy. -/
theorem approved_of_claimNode {claimName : String} {node : Option String}
    (h : claimNode reader ns policy claimName = .ok node) :
    ∃ claim, reader.getClaim ⟨ns, claimName⟩ = .ok claim ∧
      ∃ storageClass ∈ policy.storageClassNames, claim.storageClassName = some storageClass := by
  unfold claimNode at h
  cases hclaim : reader.getClaim ⟨ns, claimName⟩ with
  | error e =>
    simp only [hclaim] at h
    split_ifs at h
  | ok claim =>
    simp only [hclaim] at h
    cases hclass : claim.storageClassName with
    | none =>
      rw [hclass] at h
      nomatch h
    | some storageClass =>
      simp only [hclass] at h
      by_cases happroved : containsString policy.storageClassNames storageClass = true
      · exact ⟨claim, rfl, storageClass, by simpa [containsString] using happroved, hclass⟩
      · rw [if_pos (by simpa using happroved)] at h
        nomatch h

/-- The claims that a pod names are of StorageClasses of the policy once its storage is resolved. -/
theorem approved_of_resolved (h : resolveStorageNodes reader ns pod policy = .ok nodes) :
    ∀ volume ∈ pod.volumes, ∀ claimName, volume.persistentVolumeClaim = some claimName →
      ∃ claim, reader.getClaim ⟨ns, claimName⟩ = .ok claim ∧
        ∃ storageClass ∈ policy.storageClassNames, claim.storageClassName = some storageClass := by
  intro volume hvolume claimName hclaimName
  have hmem : claimName ∈ pod.volumes.filterMap (·.persistentVolumeClaim) :=
    List.mem_filterMap.mpr ⟨volume, hvolume, hclaimName⟩
  unfold resolveStorageNodes at h
  dsimp only at h
  split_ifs at h with hempty
  · split at h
    · nomatch h
    · rename_i hnone
      rw [hnone] at hmem
      nomatch hmem
  · cases hnodes : (pod.volumes.filterMap (·.persistentVolumeClaim)).mapM (claimNode reader ns policy) with
    | error e =>
      rw [hnodes] at h
      nomatch h
    | ok found =>
      obtain ⟨node, hnode⟩ := ok_of_mapM hnodes claimName hmem
      exact approved_of_claimNode hnode

end WorkloadPathAux

/-- On the workload path a pod is admitted with claims of the StorageClasses of the policy only exactly when the
templates of its ephemeral volumes are of such classes. -/
theorem storage_confined_iff (Γ : Ctx) (reader : HostAdmissionReader) (ns : String) (pod admitted : Pod)
    (policy : Policy) (hpath : OnWorkloadPath Γ reader ns pod policy)
    (hadmitted : (handle Γ reader ⟨ns, .ok pod⟩).admitted pod = some admitted) :
    StorageConfined reader ns policy admitted ↔ TemplatesApproved policy pod := by
  obtain ⟨nodes, hresolved, -, rfl⟩ := admitted_cases hpath hadmitted
  have hclaims := approved_of_resolved hresolved
  refine ⟨fun hconfined => hconfined.templates, fun htemplates =>
    ⟨hclaims, htemplates, fun hempty volume hvolume => ⟨?_, ?_⟩⟩⟩
  · cases hclaim : volume.persistentVolumeClaim with
    | none => rfl
    | some claimName =>
      obtain ⟨claim, -, storageClass, hmem, -⟩ := hclaims volume hvolume claimName hclaim
      rw [hempty] at hmem
      nomatch hmem
  · cases htemplate : volume.template with
    | none => rfl
    | some template =>
      obtain ⟨storageClass, hmem, -⟩ := htemplates volume hvolume template htemplate
      rw [hempty] at hmem
      nomatch hmem

/-- A pod with an ephemeral volume of a StorageClass of its own choice is admitted. -/
theorem storage_confined_false :
    ¬∀ (Γ : Ctx) (reader : HostAdmissionReader) (ns : String) (pod admitted : Pod) (policy : Policy),
      OnWorkloadPath Γ reader ns pod policy → (handle Γ reader ⟨ns, .ok pod⟩).admitted pod = some admitted →
      StorageConfined reader ns policy admitted := by
  intro h
  have hconfined := h sampleCtx claimReader "kc-team-01234567"
    (workloadPod {} [{ ephemeral := some { volumeClaimTemplate := some { storageClassName := some "fast" } } }]) _
      samplePolicy
    (onWorkloadPath_workloadPod _ _ _) rfl
  obtain ⟨storageClass, hmem, hclass⟩ := hconfined.templates _ (List.mem_singleton_self _) _ rfl
  rw [← Option.some.inj hclass] at hmem
  exact absurd hmem (by decide)

/-- A pod with a claim, and an ephemeral volume of the StorageClass of the policy. -/
def WorkloadPathAux.storagePod : Pod :=
  workloadPod {}
    [{ persistentVolumeClaim := some "data" },
      { ephemeral := some { volumeClaimTemplate := some { storageClassName := some "topolvm" } } }]

/-- It is admitted, and confined to that StorageClass. -/
theorem storage_confined_sample :
    ∃ admitted, (handle sampleCtx claimReader ⟨"kc-team-01234567", .ok storagePod⟩).admitted
      storagePod = some admitted ∧
      StorageConfined claimReader "kc-team-01234567" samplePolicy admitted := by
  refine ⟨_, rfl, ?_⟩
  refine (storage_confined_iff sampleCtx claimReader "kc-team-01234567" storagePod _ samplePolicy
    (onWorkloadPath_workloadPod _ _ _) rfl).mpr ?_
  intro volume hvolume template htemplate
  rcases List.mem_cons.mp hvolume with rfl | hvolume
  · nomatch htemplate
  · rw [List.mem_singleton.mp hvolume] at htemplate
    cases htemplate
    exact ⟨"topolvm", List.mem_singleton_self _, rfl⟩

end KubeCell
