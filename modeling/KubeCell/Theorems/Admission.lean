import KubeCell.Admission

namespace KubeCell

/-!
# Reflected pods and the host webhook

The webhook validates a pod only if it takes it for neither a native K3k pod nor a reflected system pod. It tells
these classes by labels and by the child namespace, which the child cluster chooses. So a reflected pod is kept clean
exactly when it is not taken for one of the two, or was clean to begin with.
-/

/-- The container has no host port, is not privileged and adds no capability. -/
structure Container.Clean (c : Container) : Prop where
  hostPorts : ∀ port ∈ c.hostPorts, port = 0
  privileged : ∀ context, c.securityContext = some context → context.privileged ≠ some true
  capabilities : ∀ context, c.securityContext = some context → context.capabilitiesAdd.getD [] = []

/-- The pod reaches nothing of the host: no host path, no host namespaces, no node of its choice,
and clean containers. -/
structure Pod.Clean (pod : Pod) : Prop where
  hostPath : ∀ volume ∈ pod.volumes, volume.hostPath = none
  hostNetwork : pod.hostNetwork = false
  hostPID : pod.hostPID = false
  hostIPC : pod.hostIPC = false
  nodeName : pod.nodeName = ""
  containers : ∀ c ∈ pod.initContainers ++ pod.containers, c.Clean

/-- The pod is reflected from a child pod with these labels in this child namespace: it carries the labels of the
child pod, the label with the name of the K3k cluster, and the annotation with the child namespace. -/
structure IsReflected (pod : Pod) (childLabels : StringMap) (childNamespace cluster : String) : Prop where
  labels : ∀ key, key ≠ k3kClusterNameLabel → pod.metadata.labels.get key = childLabels.get key
  cluster : pod.metadata.labels.get k3kClusterNameLabel = cluster
  origin : pod.metadata.annotations.get k3kResourceNamespace = childNamespace

/-- The child pod is taken for a native K3k pod, or for a system pod of the child cluster. -/
def TakenForSystem (policy : Policy) (childLabels : StringMap) (childNamespace cluster : String) : Prop :=
  policy.k3kClusterName ≠ "" ∧
    (childLabels.get "cluster" = policy.k3kClusterName ∧
      (childLabels.get "role" = "server" ∨ childLabels.get "type" = "agent") ∨
      cluster = policy.k3kClusterName ∧ childNamespace = childSystemNamespace)

namespace AdmissionAux

/-- A list of violations made of several is empty when each is. -/
theorem ite_violation_eq_nil {p : Prop} [Decidable p] {message : String} : (if p then [message] else []) = [] ↔ ¬p := by
  split <;> simp_all

/-- A container without violations is clean. -/
theorem clean_of_containerViolations {policy : Policy} {c : Container}
    (h : containerViolations policy c = []) : c.Clean := by
  simp only [containerViolations, List.append_eq_nil_iff] at h
  obtain ⟨⟨hcontext, hports⟩, -⟩ := h
  refine ⟨fun port hport => ?_, fun context hc => ?_, fun context hc => ?_⟩
  · have := List.flatMap_eq_nil_iff.mp hports port hport
    rw [ite_violation_eq_nil] at this
    exact not_not.mp this
  · simp only [hc, List.append_eq_nil_iff, ite_violation_eq_nil] at hcontext
    exact hcontext.1
  · simp only [hc, List.append_eq_nil_iff, ite_violation_eq_nil] at hcontext
    exact not_not.mp hcontext.2

/-- A pod the validator finds nothing wrong with is clean. -/
theorem clean_of_validateReflectedPod {pod : Pod} {policy : Policy}
    (h : validateReflectedPod pod policy = []) : pod.Clean := by
  simp only [validateReflectedPod, List.append_eq_nil_iff, ite_violation_eq_nil] at h
  obtain ⟨⟨⟨⟨⟨⟨⟨⟨⟨⟨-, hnetwork⟩, hpid⟩, hipc⟩, -⟩, hnode⟩, -⟩, -⟩, -⟩, hvolumes⟩, hcontainers⟩ := h
  refine ⟨fun volume hv => ?_, by simpa using hnetwork, by simpa using hpid, by simpa using hipc, not_not.mp hnode,
    fun c hc => clean_of_containerViolations (List.flatMap_eq_nil_iff.mp hcontainers c hc)⟩
  have := List.flatMap_eq_nil_iff.mp hvolumes volume hv
  rw [ite_violation_eq_nil] at this
  simpa using this

/-- Changing only the resources of a container does not change whether it is clean. -/
theorem container_clean_congr {c c' : Container} (hs : c'.securityContext = c.securityContext)
    (hp : c'.hostPorts = c.hostPorts) :
    c'.Clean ↔ c.Clean := by
  constructor
  · rintro ⟨h₁, h₂, h₃⟩
    exact ⟨hp ▸ h₁, hs ▸ h₂, hs ▸ h₃⟩
  · rintro ⟨h₁, h₂, h₃⟩
    exact ⟨hp.symm ▸ h₁, hs.symm ▸ h₂, hs.symm ▸ h₃⟩

/-- A change of every container that keeps each as clean as it was keeps the pod as clean as it was. -/
theorem pod_clean_map {pod : Pod} {f : Container → Container} (hf : ∀ c, (f c).Clean ↔ c.Clean) :
    Pod.Clean { pod with initContainers := pod.initContainers.map f, containers := pod.containers.map f } ↔
      pod.Clean := by
  constructor
  · rintro ⟨h₁, h₂, h₃, h₄, h₅, h₆⟩
    refine ⟨h₁, h₂, h₃, h₄, h₅, fun c hc => (hf c).mp (h₆ (f c) ?_)⟩
    simp only [← List.map_append]
    exact List.mem_map_of_mem hc
  · rintro ⟨h₁, h₂, h₃, h₄, h₅, h₆⟩
    refine ⟨h₁, h₂, h₃, h₄, h₅, fun c hc => ?_⟩
    simp only [← List.map_append] at hc
    obtain ⟨c, hmem, rfl⟩ := List.mem_map.mp hc
    exact (hf c).mpr (h₆ c hmem)

/-- Inheriting resources keeps a container as clean as it was. -/
theorem inheritResources_clean (resources : ResourceRequirements) (c : Container) :
    (inheritResources resources c).1.Clean ↔ c.Clean := by
  unfold inheritResources
  split_ifs
  · exact container_clean_congr rfl rfl
  · exact container_clean_congr rfl rfl
  · exact Iff.rfl

/-- The mutation of native K3k pods keeps a pod as clean as it was. -/
theorem mutateK3kInfraPodResources_clean (pod : Pod) : (mutateK3kInfraPodResources pod).1.Clean ↔ pod.Clean := by
  unfold mutateK3kInfraPodResources
  split
  · exact Iff.rfl
  · rename_i resources _
    split_ifs
    · exact Iff.rfl
    · simp only [List.map_map]
      exact pod_clean_map (inheritResources_clean resources)

/-- The mutation of reflected system pods keeps a pod as clean as it was. -/
theorem mutateReflectedSystemPod_clean (pod : Pod) (reservation : ResourceList) :
    (mutateReflectedSystemPod pod reservation).1.Clean ↔ pod.Clean := by
  unfold mutateReflectedSystemPod
  split_ifs
  · exact Iff.rfl
  · simp only [List.map_map]
    exact pod_clean_map fun c => container_clean_congr rfl rfl

/-- Adding the profile affinity keeps a pod as clean as it was. -/
theorem addProfileAffinity_clean (pod : Pod) (policy : Policy) :
    (addProfileAffinity pod policy).1.Clean ↔ pod.Clean := by
  have h : ∀ affinity, Pod.Clean { pod with affinity := affinity } ↔ pod.Clean := fun affinity =>
    ⟨fun ⟨h₁, h₂, h₃, h₄, h₅, h₆⟩ => ⟨h₁, h₂, h₃, h₄, h₅, h₆⟩, fun ⟨h₁, h₂, h₃, h₄, h₅, h₆⟩ => ⟨h₁, h₂, h₃, h₄, h₅, h₆⟩⟩
  unfold addProfileAffinity
  dsimp only
  split <;> exact h _

/-- A native K3k pod is admitted as clean as it was. -/
theorem handlePod_infrastructure (reader : HostAdmissionReader) (ns : String) {pod : Pod} {policy : Policy}
    (h : isK3kInfrastructurePod pod policy = true) :
    ∃ pod', (handlePod reader ns pod policy).admitted pod = some pod' ∧ (pod'.Clean ↔ pod.Clean) := by
  simp only [handlePod, h, if_true]
  split_ifs
  · exact ⟨_, rfl, mutateK3kInfraPodResources_clean pod⟩
  · exact ⟨_, rfl, Iff.rfl⟩

/-- A reflected system pod is admitted as clean as it was. -/
theorem handlePod_system (reader : HostAdmissionReader) (ns : String) {pod : Pod} {policy : Policy}
    (hi : isK3kInfrastructurePod pod policy = false) (h : isReflectedSystemPod pod policy = true) :
    ∃ pod', (handlePod reader ns pod policy).admitted pod = some pod' ∧ (pod'.Clean ↔ pod.Clean) := by
  simp only [handlePod, hi, h, mutateReflectedSystemPodForPolicy, if_true, Bool.not_true, Bool.false_eq_true, if_false]
  exact ⟨_, rfl, (addProfileAffinity_clean _ _).trans (mutateReflectedSystemPod_clean _ _)⟩

/-- Any other pod is admitted only when its storage is resolved and the validator finds nothing wrong with it, and
with the profile affinity added. -/
theorem handlePod_workload_valid (reader : HostAdmissionReader) (ns : String) {pod pod' : Pod} {policy : Policy}
    (hi : isK3kInfrastructurePod pod policy = false) (hs : isReflectedSystemPod pod policy = false)
    (h : (handlePod reader ns pod policy).admitted pod = some pod') :
    ∃ storageNodes, resolveStorageNodes reader ns pod policy = .ok storageNodes ∧
      validateReflectedPod pod { policy with allowedStorageNodes := storageNodes } = [] ∧
      pod' = (addProfileAffinity pod { policy with allowedStorageNodes := storageNodes }).1 := by
  simp only [handlePod, hi, hs, Bool.false_eq_true, if_false] at h
  split at h
  · nomatch h
  · rename_i storageNodes hresolved
    split_ifs at h with hv
    · nomatch h
    · rw [mutateReflectedPod, if_neg hv] at h
      simp only [AdmissionResponse.admitted, Option.some.injEq] at h
      exact ⟨storageNodes, hresolved, not_not.mp hv, h.symm⟩

/-- It is then clean. -/
theorem handlePod_workload (reader : HostAdmissionReader) (ns : String) {pod pod' : Pod} {policy : Policy}
    (hi : isK3kInfrastructurePod pod policy = false) (hs : isReflectedSystemPod pod policy = false)
    (h : (handlePod reader ns pod policy).admitted pod = some pod') : pod'.Clean := by
  obtain ⟨storageNodes, -, hvalid, rfl⟩ := handlePod_workload_valid reader ns hi hs h
  exact (addProfileAffinity_clean _ _).mpr (clean_of_validateReflectedPod hvalid)

/-- The classes of the webhook, said of the child pod. -/
theorem takenForSystem_iff {pod : Pod} {policy : Policy} {childLabels : StringMap} {childNamespace cluster : String}
    (h : IsReflected pod childLabels childNamespace cluster) :
    TakenForSystem policy childLabels childNamespace cluster ↔
      isK3kInfrastructurePod pod policy = true ∨ isReflectedSystemPod pod policy = true := by
  simp only [TakenForSystem, isK3kInfrastructurePod, isReflectedSystemPod, h.cluster, h.origin,
    h.labels "cluster" (by decide),
    h.labels "role" (by decide), h.labels "type" (by decide), Bool.and_eq_true, Bool.or_eq_true, beq_iff_eq, bne_iff_ne]
  tauto

end AdmissionAux

open AdmissionAux

/-- In a namespace with a complete policy, a reflected pod is admitted only clean exactly when it is not taken for a
system pod or was clean already. -/
theorem handle_clean_iff (Γ : Ctx) (reader : HostAdmissionReader) (ns : String) (metadata : ObjectMeta)
    (policy : Policy)
    (hns : reader.getNamespace ns = .ok metadata) (huid : metadata.labels.get labelVirtualClusterUID ≠ "")
    (hpolicy : namespacePolicy Γ ns metadata = .ok policy) (pod : Pod) (childLabels : StringMap)
    (childNamespace cluster : String) (hpod : IsReflected pod childLabels childNamespace cluster) :
    (∀ admitted, (handle Γ reader ⟨ns, .ok pod⟩).admitted pod = some admitted → admitted.Clean) ↔
      (TakenForSystem policy childLabels childNamespace cluster → pod.Clean) := by
  have hhandle : handle Γ reader ⟨ns, .ok pod⟩ = handlePod reader ns pod policy := by
    simp only [handle, hns, if_neg huid, hpolicy]
  rw [hhandle, takenForSystem_iff hpod]
  cases hi : isK3kInfrastructurePod pod policy with
  | true =>
    obtain ⟨pod', hadm, hclean⟩ := handlePod_infrastructure reader ns hi
    simp [hadm, hclean]
  | false =>
    cases hs : isReflectedSystemPod pod policy with
    | true =>
      obtain ⟨pod', hadm, hclean⟩ := handlePod_system reader ns hi hs
      simp [hadm, hclean]
    | false => simpa using fun pod' => handlePod_workload reader ns hi hs

namespace AdmissionAux

/-- Nothing the webhook is asked below calls a function of another package. -/
def sampleCtx : Ctx := ⟨id, fun _ => none, fun _ => none⟩

/-- A namespace as the foundation Work renders it. -/
def sampleNamespace : ObjectMeta :=
  { name := "kc-team-01234567"
    labels := GoMap.ofList [(labelVirtualClusterUID, "01234567-aaaa"), (labelProfileName, "gpu"),
      (k3kPolicyNameLabel, "kc-01234567")]
    annotations := GoMap.ofList [(labelProfileLabelKey, Platform.profileLabelKey),
      (annotationStorageClass, "topolvm")] }

/-- The policy of `sampleNamespace`. -/
def samplePolicy : Policy :=
  { ns := "kc-team-01234567", virtualClusterUID := "01234567-aaaa", profileLabelKey := Platform.profileLabelKey, profileName := "gpu"
    storageClassNames := ["topolvm"], allowedResourceNames := [], k3kClusterName := "kc-01234567",
      reflectedSystem := ∅ }

/-- A host with `sampleNamespace` and no volumes. -/
def sampleReader : HostAdmissionReader :=
  { getNamespace := fun _ => .ok sampleNamespace
    getClaim := fun _ => .error ⟨.notFound, "not found"⟩
    getVolume := fun _ => .error ⟨.notFound, "not found"⟩ }

/-- A reflected pod with the given labels of the child pod and the given volumes, in the child namespace `default`. -/
def samplePod (childLabels : List (String × String)) (volumes : List Volume) : Pod :=
  { metadata :=
      { name := "app", ns := "kc-team-01234567"
        labels := GoMap.ofList ((k3kClusterNameLabel, "kc-01234567") :: childLabels)
        annotations := GoMap.ofList [(k3kResourceNamespace, "default")] }
    volumes := volumes
    containers := [{ name := "app" }] }

/-- The pods of `samplePod` are reflected. -/
theorem samplePod_isReflected (childLabels : List (String × String)) (volumes : List Volume) :
    IsReflected (samplePod childLabels volumes) (GoMap.ofList childLabels) "default" "kc-01234567" := by
  refine ⟨fun key hkey => ?_, ?_, rfl⟩
  · simp [samplePod, GoMap.ofList, StringMap.get, AList.lookup_insert_ne hkey]
  · simp [samplePod, GoMap.ofList, StringMap.get]

/-- The policy that `sampleNamespace` carries. -/
theorem namespacePolicy_sample (Γ : Ctx) : namespacePolicy Γ "kc-team-01234567" sampleNamespace = .ok samplePolicy := by
  rfl

end AdmissionAux

/-- A reflected pod that labels itself as a K3k server is admitted with a host path. -/
theorem handle_clean_false :
    ¬∀ (Γ : Ctx) (reader : HostAdmissionReader) (ns : String) (metadata : ObjectMeta) (policy : Policy),
      reader.getNamespace ns = .ok metadata → metadata.labels.get labelVirtualClusterUID ≠ "" →
      namespacePolicy Γ ns metadata = .ok policy →
      ∀ (pod : Pod) (childLabels : StringMap) (childNamespace cluster : String),
        IsReflected pod childLabels childNamespace cluster →
        ∀ admitted, (handle Γ reader ⟨ns, .ok pod⟩).admitted pod = some admitted → admitted.Clean := by
  intro h
  have hclean := h sampleCtx sampleReader "kc-team-01234567" sampleNamespace samplePolicy rfl
    (by decide +kernel) (namespacePolicy_sample _)
      (samplePod [("cluster", "kc-01234567"), ("role", "server")] [{ hostPath := some "/" }])
    _ _ _ (samplePod_isReflected _ _) _ rfl
  exact absurd (hclean.hostPath _ (List.mem_singleton_self _)) (by decide)

/-- A reflected pod with other labels is admitted, and clean. -/
theorem handle_clean_sample :
    ∃ admitted, (handle sampleCtx sampleReader ⟨"kc-team-01234567", .ok (samplePod [("app", "web")] [])⟩).admitted
        (samplePod [("app", "web")] []) = some admitted ∧ admitted.Clean := by
  have hclean := (handle_clean_iff sampleCtx sampleReader _ sampleNamespace samplePolicy rfl (by decide +kernel)
    (namespacePolicy_sample _) _ _ _ _ (samplePod_isReflected [("app", "web")] [])).mpr (by
      rintro ⟨-, h | h⟩
      · exact absurd h.1 (by decide +kernel)
      · exact absurd h.2 (by decide))
  exact ⟨_, rfl, hclean _ rfl⟩

end KubeCell
