import KubeCell.Theorems.Admission
import KubeCell.Theorems.Confinement
import KubeCell.Theorems.Reservation

/-!
# A pod that was admitted is admitted again as it is

The API server may call a mutating webhook more than once for one request, each time with the pod as the last call has
left it. What the host webhook admits once it admits again, and it has nothing left to change.
-/

namespace KubeCell

open AdmissionAux ConfinementAux ReservationAux

namespace SettledAux

variable {pod : Pod} {policy : Policy} {reader : HostAdmissionReader} {ns : String}

/-! ## Native pods -/

/-- A container that has inherited the resources of the pod is left with them. -/
theorem inheritResources_again (resources : ResourceRequirements) (container : Container) :
    (inheritResources resources (inheritResources resources container).1).1 =
      (inheritResources resources container).1 := by
  have hinherited : ∀ container : Container, (inheritResources resources container).1 = container ∨
      (inheritResources resources container).1 =
        { container with resources := ⟨resources.requests, resources.limits⟩ } := by
    intro container
    unfold inheritResources
    split_ifs
    · exact Or.inr rfl
    · exact Or.inr rfl
    · exact Or.inl rfl
  rcases hinherited container with hkept | htaken
  · rw [hkept, hkept]
  · rw [htaken]
    rcases hinherited { container with resources := ⟨resources.requests, resources.limits⟩ } with hkept | htaken'
    · exact hkept
    · exact htaken'

/-- The resources of a Pod are passed on once. -/
theorem mutateK3kInfraPodResources_again (pod : Pod) :
    (mutateK3kInfraPodResources (mutateK3kInfraPodResources pod).1).1 = (mutateK3kInfraPodResources pod).1 := by
  cases hresources : pod.resources with
  | none =>
    have hkept : mutateK3kInfraPodResources pod = (pod, false) := by simp only [mutateK3kInfraPodResources, hresources]
    rw [hkept, hkept]
  | some resources =>
    by_cases hempty : resources.requests.entries = [] ∨ resources.limits.entries = []
    · have hkept : mutateK3kInfraPodResources pod = (pod, false) := by
        simp only [mutateK3kInfraPodResources, hresources, if_pos hempty]
      rw [hkept, hkept]
    · simp only [mutateK3kInfraPodResources, hresources, if_neg hempty, List.map_map]
      congr 1
      · exact List.map_congr_left fun container _ => inheritResources_again resources container
      · exact List.map_congr_left fun container _ => inheritResources_again resources container

/-- Whether it reports a change or not, a native pod is admitted with its resources propagated. -/
theorem admitted_infrastructure (hi : isK3kInfrastructurePod pod policy = true) :
    (handlePod reader ns pod policy).admitted pod = some (mutateK3kInfraPodResources pod).1 := by
  simp only [handlePod, hi, if_true]
  split_ifs with hchanged
  · rfl
  · have hall : ∀ (resources : ResourceRequirements) (containers : List Container),
        (containers.map (inheritResources resources)).any (·.2) = false →
        (containers.map (inheritResources resources)).map (·.1) = containers := by
      intro resources containers hnone
      rw [List.map_map]
      refine (List.map_congr_left fun container hmem => ?_).trans (List.map_id _)
      have hfalse := List.any_eq_false.mp hnone _ (List.mem_map_of_mem hmem)
      unfold inheritResources at hfalse
      simp only [Function.comp, inheritResources, id]
      split_ifs at hfalse ⊢ <;> simp_all
    have hsame : (mutateK3kInfraPodResources pod).1 = pod := by
      rw [Bool.not_eq_true] at hchanged
      unfold mutateK3kInfraPodResources at hchanged ⊢
      cases hresources : pod.resources with
      | none => rfl
      | some resources =>
        simp only [hresources] at hchanged ⊢
        split_ifs at hchanged ⊢
        · rfl
        · simp only [List.any_append, Bool.or_eq_false_iff] at hchanged
          rw [hall resources _ hchanged.1, hall resources _ hchanged.2, ← hresources]
    rw [hsame]
    rfl

/-! ## Reflected system pods -/

theorem mutateReflectedSystemPod_again (pod : Pod) (reservation : ResourceList) :
    (mutateReflectedSystemPod (mutateReflectedSystemPod pod reservation).1 reservation).1 =
      (mutateReflectedSystemPod pod reservation).1 := by
  by_cases hskipped : pod.metadata.annotations.get k3kResourceNamespace ≠ childSystemNamespace ∨
      pod.metadata.labels.get k3kClusterNameLabel = "" ∨ reservation.entries = []
  · have hkept : mutateReflectedSystemPod pod reservation = (pod, false) := if_pos hskipped
    rw [hkept, hkept]
  · simp only [mutateReflectedSystemPod, if_neg hskipped]
    rw [map_reserveContainer_of_filled (forall₂_filled reservation pod.initContainers),
      map_reserveContainer_of_filled (forall₂_filled reservation pod.containers)]
    simp

/-- The reservation does not look at the affinity. -/
theorem mutateReflectedSystemPod_affinity (pod : Pod) (affinity : Option Affinity) (reservation : ResourceList) :
    (mutateReflectedSystemPod { pod with affinity := affinity } reservation).1 =
      { (mutateReflectedSystemPod pod reservation).1 with affinity := affinity } := by
  unfold mutateReflectedSystemPod
  dsimp only
  split_ifs <;> rfl

/-- The reservation leaves the metadata. -/
theorem metadata_mutateReflectedSystemPod (pod : Pod) (reservation : ResourceList) :
    (mutateReflectedSystemPod pod reservation).1.metadata = pod.metadata := by
  unfold mutateReflectedSystemPod
  split_ifs <;> rfl

/-- A reflected system pod is admitted with the reservation and the affinity of the profile. -/
theorem admitted_system (hi : isK3kInfrastructurePod pod policy = false) (hs : isReflectedSystemPod pod policy = true) :
    (handlePod reader ns pod policy).admitted pod =
      some (addProfileAffinity (mutateReflectedSystemPod pod policy.reflectedSystem).1 policy).1 := by
  simp only [handlePod, hi, hs, mutateReflectedSystemPodForPolicy, if_true, Bool.not_true, Bool.false_eq_true, if_false]
  rfl

/-! ## Reflected workload pods -/

/-- The requirement of the profile violates nothing. -/
theorem expressionViolations_profile (policy : Policy) :
    expressionViolations policy (profileRequirement policy) = [] := by
  simp [expressionViolations, profileRequirement]

/-- An expression of the terms that the webhook leaves was there before, or is the requirement of the profile. -/
theorem mem_patchedTerms {term : NodeSelectorTerm} {expression : NodeSelectorRequirement}
    (hterm : term ∈ patchedTerms policy pod) (hexpression : expression ∈ term.matchExpressions) :
    expression = profileRequirement policy ∨ ∃ term ∈ pod.requiredTerms.getD [],
      expression ∈ term.matchExpressions := by
  unfold patchedTerms at hterm
  split_ifs at hterm
  · rw [List.mem_singleton.mp hterm] at hexpression
    exact Or.inl (List.mem_singleton.mp hexpression)
  · obtain ⟨before, hbefore, rfl⟩ := List.mem_map.mp hterm
    unfold ensured at hexpression
    split_ifs at hexpression
    · rcases List.mem_append.mp hexpression with hold | hnew
      · exact Or.inr ⟨before, hbefore, hold⟩
      · exact Or.inl (List.mem_singleton.mp hnew)
    · exact Or.inr ⟨before, hbefore, hexpression⟩

/-- The affinity of the profile passes the check of the affinity. -/
theorem validateAffinity_patched (h : validateAffinity pod.affinity pod policy = []) :
    validateAffinity (withRequired pod (patchedTerms policy pod)).affinity
      (withRequired pod (patchedTerms policy pod)) policy = [] := by
  have hrequired : ∀ term ∈ pod.requiredTerms.getD [], ∀ expression ∈ term.matchExpressions,
      expressionViolations policy expression = [] := by
    intro term hterm expression hexpression
    cases haffinity : pod.affinity with
    | none => simp [Pod.requiredTerms, haffinity] at hterm
    | some affinity =>
      cases hnode : affinity.nodeAffinity with
      | none => simp [Pod.requiredTerms, haffinity, hnode] at hterm
      | some nodeAffinity =>
        simp only [Pod.requiredTerms, haffinity, hnode, Option.bind_some] at hterm
        simp only [validateAffinity, haffinity, hnode, List.append_eq_nil_iff, List.flatMap_eq_nil_iff] at h
        exact h.2.2 term hterm expression hexpression
  have hpatched : ∀ term ∈ patchedTerms policy pod, ∀ expression ∈ term.matchExpressions,
    expressionViolations policy expression = [] := by
    intro term hterm expression hexpression
    rcases mem_patchedTerms hterm hexpression with rfl | ⟨before, hbefore, hmem⟩
    · exact expressionViolations_profile policy
    · exact hrequired before hbefore expression hmem
  cases haffinity : pod.affinity with
  | none =>
    simp only [validateAffinity, withRequired, haffinity]
    simpa using hpatched
  | some affinity =>
    rw [haffinity] at h
    cases hnode : affinity.nodeAffinity with
    | none =>
      simp only [validateAffinity, withRequired, haffinity, Option.getD_some, hnode, Option.getD_none] at h ⊢
      simp only [List.append_eq_nil_iff, List.flatMap_eq_nil_iff] at h ⊢
      exact ⟨h.1, fun _ hmem => absurd hmem List.not_mem_nil, hpatched⟩
    | some nodeAffinity =>
      simp only [validateAffinity, withRequired, haffinity, Option.getD_some, hnode] at h ⊢
      simp only [List.append_eq_nil_iff, List.flatMap_eq_nil_iff] at h ⊢
      exact ⟨h.1, h.2.1, hpatched⟩

/-- So it passes the whole validation. -/
theorem validateReflectedPod_patched (h : validateReflectedPod pod policy = []) :
    validateReflectedPod (withRequired pod (patchedTerms policy pod)) policy = [] := by
  simp only [validateReflectedPod, List.append_eq_nil_iff] at h ⊢
  obtain ⟨⟨⟨⟨hfirst, haffinity⟩, htolerations⟩, hvolumes⟩, hcontainers⟩ := h
  exact ⟨⟨⟨⟨hfirst, validateAffinity_patched haffinity⟩, htolerations⟩, hvolumes⟩, hcontainers⟩

/-- A pod that passes is admitted with the affinity of the profile. -/
theorem admitted_workload {storageNodes : List String} (hi : isK3kInfrastructurePod pod policy = false)
    (hs : isReflectedSystemPod pod policy = false)
    (hnodes : resolveStorageNodes reader ns pod policy = .ok storageNodes)
    (hvalid : validateReflectedPod pod { policy with allowedStorageNodes := storageNodes } = []) :
    (handlePod reader ns pod policy).admitted pod =
      some (addProfileAffinity pod { policy with allowedStorageNodes := storageNodes }).1 := by
  have hnone : ¬validateReflectedPodWithoutPlacement pod { policy with allowedStorageNodes := storageNodes } ≠ [] :=
    not_not.mpr hvalid
  simp only [handlePod, hi, hs, Bool.false_eq_true, if_false, hnodes, mutateReflectedPod, if_neg hnone]
  rfl

/-! ## The handler -/

/-- A Pod that was admitted is admitted as it is. -/
theorem handlePod_settles {pod' : Pod} (h : (handlePod reader ns pod policy).admitted pod = some pod') :
    (handlePod reader ns pod' policy).admitted pod' = some pod' := by
  cases hi : isK3kInfrastructurePod pod policy with
  | true =>
    rw [admitted_infrastructure hi, Option.some.injEq] at h
    subst h
    have hmetadata : (mutateK3kInfraPodResources pod).1.metadata = pod.metadata := by
      unfold mutateK3kInfraPodResources
      split
      · rfl
      · split_ifs <;> rfl
    have hi' : isK3kInfrastructurePod (mutateK3kInfraPodResources pod).1 policy = true := by
      rw [isK3kInfrastructurePod, hmetadata]
      exact hi
    rw [admitted_infrastructure hi', mutateK3kInfraPodResources_again]
  | false =>
    cases hs : isReflectedSystemPod pod policy with
    | true =>
      rw [admitted_system hi hs, Option.some.injEq, addProfileAffinity_eq] at h
      have hmetadata : pod'.metadata = pod.metadata := by
        rw [← h]
        exact metadata_mutateReflectedSystemPod pod policy.reflectedSystem
      have hi' : isK3kInfrastructurePod pod' policy = false := by
        rw [isK3kInfrastructurePod, hmetadata]
        exact hi
      have hs' : isReflectedSystemPod pod' policy = true := by
        rw [isReflectedSystemPod, hmetadata]
        exact hs
      have hreserved : (mutateReflectedSystemPod pod' policy.reflectedSystem).1 = pod' := by
        rw [← h, withRequired, mutateReflectedSystemPod_affinity, mutateReflectedSystemPod_again]
      rw [admitted_system hi' hs', hreserved, ← h, addProfileAffinity_again]
    | false =>
      obtain ⟨storageNodes, hnodes, hvalid, hpod'⟩ := handlePod_workload_valid reader ns hi hs h
      rw [addProfileAffinity_eq] at hpod'
      subst hpod'
      -- the classes and the claims of a pod do not depend on its affinity
      have hi' : isK3kInfrastructurePod
        (withRequired pod (patchedTerms { policy with allowedStorageNodes := storageNodes } pod)) policy =
          false := hi
      have hs' : isReflectedSystemPod
        (withRequired pod (patchedTerms { policy with allowedStorageNodes := storageNodes } pod)) policy =
          false := hs
      have hnodes' : resolveStorageNodes reader ns
        (withRequired pod (patchedTerms { policy with allowedStorageNodes := storageNodes } pod))
          policy = .ok storageNodes := hnodes
      rw [admitted_workload hi' hs' hnodes' (validateReflectedPod_patched hvalid), addProfileAffinity_again]

end SettledAux

open SettledAux

/-- Whatever a pod, the policy of its namespace and its volumes are: a pod that the host webhook admits is
admitted again as it is. -/
theorem admission_settles (Γ : Ctx) (reader : HostAdmissionReader) (ns : String) (pod pod' : Pod)
    (h : (handle Γ reader ⟨ns, .ok pod⟩).admitted pod = some pod') :
    (handle Γ reader ⟨ns, .ok pod'⟩).admitted pod' = some pod' := by
  unfold handle at h ⊢
  dsimp only at h ⊢
  cases hnamespace : reader.getNamespace ns with
  | error e =>
    rw [hnamespace] at h
    cases h
  | ok metadata =>
    rw [hnamespace] at h
    dsimp only at h ⊢
    split_ifs at h ⊢
    · rfl
    · cases hpolicy : namespacePolicy Γ ns metadata with
      | error e =>
        rw [hpolicy] at h
        cases h
      | ok policy =>
        rw [hpolicy] at h
        exact handlePod_settles h

theorem admission_settles_sample :
    ∃ pod', (handle sampleCtx sampleReader ⟨"kc-team-01234567", .ok (samplePod [("app", "web")] [])⟩).admitted
        (samplePod [("app", "web")] []) = some pod' ∧
      (handle sampleCtx sampleReader ⟨"kc-team-01234567", .ok pod'⟩).admitted pod' = some pod' := by
  have hadmitted : ((handle sampleCtx sampleReader ⟨"kc-team-01234567", .ok (samplePod [("app", "web")] [])⟩).admitted
      (samplePod [("app", "web")] [])).isSome = true := by decide +kernel
  obtain ⟨pod', hpod'⟩ := Option.isSome_iff_exists.mp hadmitted
  exact ⟨pod', hpod', admission_settles _ _ _ _ _ hpod'⟩

end KubeCell
