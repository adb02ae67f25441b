import KubeCell.Admission
import KubeCell.Semantics

namespace KubeCell

/-!
# Pods stay on the nodes of their profile

The webhook adds the requirement of the profile to every term of the required node affinity. The terms are
alternatives, so it has to be in each of them, and a term of the tenant that held nothing holds it afterwards.
-/

/-- The pod may run on the nodes of the profile only. -/
def Confined (policy : Policy) (pod : Pod) : Prop :=
  ∀ node : ObjectMeta, pod.mayRunOn node = true → AList.lookup policy.profileLabelKey node.labels =
    some policy.profileName

/-- The term with the requirement of the profile at its end. -/
def NodeSelectorTerm.withProfile (term : NodeSelectorTerm) (policy : Policy) : NodeSelectorTerm :=
  { term with matchExpressions := term.matchExpressions ++ [profileRequirement policy] }

/-- Nothing is changed but the required node affinity, and there the requirement of the profile is added to terms that
are there, or makes the only term where there is none. -/
structure AppendsProfile (policy : Policy) (pod patched : Pod) : Prop where
  outside : patched = { pod with affinity := patched.affinity }
  podAffinity : patched.affinity.bind (·.podAffinity) = pod.affinity.bind (·.podAffinity)
  podAntiAffinity : patched.affinity.bind (·.podAntiAffinity) = pod.affinity.bind (·.podAntiAffinity)
  preferred : ((patched.affinity.bind (·.nodeAffinity)).map (·.preferred)).getD [] =
    ((pod.affinity.bind (·.nodeAffinity)).map (·.preferred)).getD []
  required : ∃ terms, patched.requiredTerms = some terms ∧
    ((pod.requiredTerms.getD [] = [] ∧ terms = [({} : NodeSelectorTerm).withProfile policy]) ∨
      List.Forall₂ (fun term term' => term' = term ∨ term' = term.withProfile policy) (pod.requiredTerms.getD []) terms)

namespace ConfinementAux

variable {policy : Policy}

/-- The requirement of the profile holds of the nodes of the profile. -/
theorem lookup_of_profileRequirement {label : Option String} (h : (profileRequirement policy).holdsOf label = true) :
    label = some policy.profileName := by
  simp only [NodeSelectorRequirement.holdsOf, profileRequirement, if_true] at h
  cases label with
  | none => nomatch h
  | some value => simpa using h

/-- A term with the requirement of the profile selects nodes of the profile only. -/
theorem lookup_of_selects {term : NodeSelectorTerm} {node : ObjectMeta}
    (hmem : profileRequirement policy ∈ term.matchExpressions) (h : term.selects node = true) :
    AList.lookup policy.profileLabelKey node.labels = some policy.profileName := by
  simp only [NodeSelectorTerm.selects, Bool.and_eq_true, List.all_eq_true] at h
  exact lookup_of_profileRequirement (h.1.2 _ hmem)

/-- `hasRequirement` looks for the requirement of the profile. -/
theorem hasRequirement_iff (term : NodeSelectorTerm) :
    hasRequirement term policy.profileLabelKey policy.profileName = true ↔
      profileRequirement policy ∈ term.matchExpressions := by
  simp only [hasRequirement, List.any_eq_true, Bool.and_eq_true, beq_iff_eq]
  constructor
  · rintro ⟨⟨key, operator, values⟩, hmem, ⟨hkey, hoperator⟩, hvalues⟩
    dsimp only at hkey hoperator hvalues
    subst hkey hoperator hvalues
    exact hmem
  · intro hmem
    exact ⟨_, hmem, ⟨rfl, rfl⟩, rfl⟩

/-- The term with the requirement of the profile, once. -/
def ensured (policy : Policy) (term : NodeSelectorTerm) : NodeSelectorTerm :=
  if !hasRequirement term policy.profileLabelKey policy.profileName then term.withProfile policy else term

/-- Every term asks for the profile after it was patched. -/
theorem ensured_holds (term : NodeSelectorTerm) :
    profileRequirement policy ∈ (ensured policy term).matchExpressions := by
  unfold ensured
  by_cases hhas : hasRequirement term policy.profileLabelKey policy.profileName = true
  · simp only [hhas, Bool.not_true, Bool.false_eq_true, if_false]
    exact (hasRequirement_iff term).mp hhas
  · simp only [hhas, Bool.not_false, if_true, NodeSelectorTerm.withProfile]
    exact List.mem_append_right _ List.mem_cons_self

/-- The affinity of a pod with other required terms. -/
def withRequired (pod : Pod) (terms : List NodeSelectorTerm) : Pod :=
  let affinity := pod.affinity.getD {}
  { pod with affinity := some { affinity with nodeAffinity := some { affinity.nodeAffinity.getD {} with required := some terms } } }

/-- The required terms the webhook leaves a pod with. -/
def patchedTerms (policy : Policy) (pod : Pod) : List NodeSelectorTerm :=
  if pod.requiredTerms.getD [] = [] then [({} : NodeSelectorTerm).withProfile policy]
    else (pod.requiredTerms.getD []).map (ensured policy)

/-- The required terms, where absent parts of the affinity are taken for empty ones. -/
theorem required_getD (pod : Pod) : ((pod.affinity.getD {}).nodeAffinity.getD {}).required = pod.requiredTerms := by
  rw [Pod.requiredTerms]
  cases pod.affinity with
  | none => rfl
  | some affinity =>
    simp only [Option.getD_some, Option.bind_some]
    cases affinity.nodeAffinity <;> rfl

/-- What the webhook does: it puts other required terms into the pod, and says whether they are others. -/
theorem addProfileAffinity_eq (pod : Pod) : addProfileAffinity pod policy =
    (withRequired pod (patchedTerms policy pod), pod.requiredTerms.getD [] = [] ||
      (pod.requiredTerms.getD []).any fun term => !hasRequirement term policy.profileLabelKey policy.profileName) := by
  unfold addProfileAffinity patchedTerms
  dsimp only
  rw [required_getD]
  cases pod.requiredTerms with
  | none => rfl
  | some terms =>
    cases terms with
    | nil => rfl
    | cons term terms => simp [withRequired, ensured, NodeSelectorTerm.withProfile]

theorem requiredTerms_withRequired (pod : Pod) (terms : List NodeSelectorTerm) :
    (withRequired pod terms).requiredTerms = some terms := rfl

/-- Every term the webhook leaves holds the requirement of the profile. -/
theorem patchedTerms_hold (pod : Pod) :
    ∀ term ∈ patchedTerms policy pod, profileRequirement policy ∈ term.matchExpressions := by
  intro term hterm
  unfold patchedTerms at hterm
  split_ifs at hterm
  · rw [List.mem_singleton] at hterm
    subst hterm
    exact List.mem_cons_self
  · obtain ⟨term, -, rfl⟩ := List.mem_map.mp hterm
    exact ensured_holds term

theorem patchedTerms_ne_nil (pod : Pod) : patchedTerms policy pod ≠ [] := by
  unfold patchedTerms
  split_ifs with hnone
  · simp
  · simpa using hnone

/-- A pod with the requirement of the profile in every term is confined. -/
theorem confined_withRequired (pod : Pod) : Confined policy (withRequired pod (patchedTerms policy pod)) := by
  intro node hnode
  rw [Pod.mayRunOn, requiredTerms_withRequired] at hnode
  obtain ⟨term, hterm, hselects⟩ := List.any_eq_true.mp hnode
  exact lookup_of_selects (patchedTerms_hold pod term hterm) hselects

/-- The requirement is only ever added. -/
theorem appendsProfile_withRequired (pod : Pod) :
    AppendsProfile policy pod (withRequired pod (patchedTerms policy pod)) where
  outside := rfl
  podAffinity := by cases haffinity : pod.affinity <;> simp [withRequired, haffinity]
  podAntiAffinity := by cases haffinity : pod.affinity <;> simp [withRequired, haffinity]
  preferred := by
    cases haffinity : pod.affinity with
    | none => simp [withRequired, haffinity]
    | some affinity => cases hnode : affinity.nodeAffinity <;> simp [withRequired, haffinity, hnode]
  required := by
    refine ⟨patchedTerms policy pod, requiredTerms_withRequired _ _, ?_⟩
    unfold patchedTerms
    split_ifs with hnone
    · exact Or.inl ⟨hnone, rfl⟩
    · right
      rw [List.forall₂_map_right_iff, List.forall₂_same]
      intro term _
      unfold ensured
      split_ifs
      · exact Or.inr rfl
      · exact Or.inl rfl

/-- Where every term holds the requirement, nothing is added. -/
theorem addProfileAffinity_again (pod : Pod) :
    addProfileAffinity (withRequired pod (patchedTerms policy pod)) policy =
      (withRequired pod (patchedTerms policy pod), false) := by
  have hhas : ∀ term ∈ patchedTerms policy pod,
    hasRequirement term policy.profileLabelKey policy.profileName = true := by
    intro term hterm
    exact (hasRequirement_iff term).mpr (patchedTerms_hold pod term hterm)
  have hterms : patchedTerms policy (withRequired pod (patchedTerms policy pod)) = patchedTerms policy pod := by
    rw [patchedTerms, requiredTerms_withRequired, Option.getD_some, if_neg (patchedTerms_ne_nil pod)]
    refine (List.map_congr_left fun term hterm => ?_).trans (List.map_id _)
    simp [ensured, hhas term hterm]
  rw [addProfileAffinity_eq, hterms, requiredTerms_withRequired, Option.getD_some]
  refine Prod.ext rfl ?_
  simp only [patchedTerms_ne_nil pod, decide_false, Bool.false_or, List.any_eq_false]
  intro term hterm
  simp [hhas term hterm]

end ConfinementAux

open ConfinementAux

/-- The webhook confines every pod it patches to the nodes of the profile; it does so by adding the requirement of the
profile to the pod, and a second time it has nothing to add. -/
theorem profile_confined (pod : Pod) (policy : Policy) :
    Confined policy (addProfileAffinity pod policy).1 ∧
    AppendsProfile policy pod (addProfileAffinity pod policy).1 ∧
    addProfileAffinity (addProfileAffinity pod policy).1 policy = ((addProfileAffinity pod policy).1, false) ∧
    (∀ patched changed, mutateReflectedPod pod policy = .ok (patched, changed) → Confined policy patched) ∧
    ∀ patched changed, mutateReflectedSystemPodForPolicy pod policy = .ok (patched, changed) →
      Confined policy patched := by
  have hconfined : ∀ pod, Confined policy (addProfileAffinity pod policy).1 := by
    intro pod
    rw [addProfileAffinity_eq]
    exact confined_withRequired pod
  refine ⟨hconfined pod, ?_, ?_, ?_, ?_⟩
  · rw [addProfileAffinity_eq]
    exact appendsProfile_withRequired pod
  · rw [addProfileAffinity_eq pod]
    exact addProfileAffinity_again pod
  · intro patched changed hpatched
    unfold mutateReflectedPod at hpatched
    dsimp only at hpatched
    split_ifs at hpatched
    rw [Except.ok.injEq] at hpatched
    rw [← show (addProfileAffinity pod policy).1 = patched by rw [hpatched]]
    exact hconfined pod
  · intro patched changed hpatched
    unfold mutateReflectedSystemPodForPolicy at hpatched
    split_ifs at hpatched
    simp only [Except.ok.injEq, Prod.mk.injEq] at hpatched
    rw [← hpatched.1]
    exact hconfined _

end KubeCell
