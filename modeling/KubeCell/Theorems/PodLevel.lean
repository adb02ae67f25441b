import Mathlib.Algebra.Order.BigOperators.Group.List
import KubeCell.Admission
import KubeCell.Theorems.Accounting

/-!
# What containers inherit from their pod

`MutateK3kInfraPodResources` gives the requests and limits of a native K3k pod to each of its containers that declares
nothing of its own. A pod may only ask for less than its containers do together, so this is legal where such a
container runs alone, or beside containers that ask for nothing.
-/

namespace KubeCell

/-- A container that declares nothing of its own: it is empty, or carries what a LimitRange gives to empty ones. -/
def Container.inherits (container : Container) : Bool :=
  (container.resources.requests.entries.isEmpty && container.resources.limits.entries.isEmpty) ||
    (resourcesEqual container.resources.requests Platform.defaultContainerResources &&
      resourcesEqual container.resources.limits Platform.defaultContainerResources)

/-- The pod without the containers that declare nothing of their own. -/
def Pod.declared (pod : Pod) : Pod :=
  { pod with
    initContainers := pod.initContainers.filter fun container => !container.inherits
    containers := pod.containers.filter fun container => !container.inherits }

/-- All containers of a pod. -/
def Pod.allContainers (pod : Pod) : List Container := pod.initContainers ++ pod.containers

/-- What the containers of a pod ask for of a resource together, at the time they ask for most. -/
def Pod.aggregateRequest (pod : Pod) (name : String) : Int :=
  (initPeaks name 0 pod.initContainers).foldl max (pod.runningRequest name)

/-- The requests are not negative, and within the limits of the same resources. -/
structure ResourceRequirements.Legal (resources : ResourceRequirements) : Prop where
  nonneg : ∀ name request, AList.lookup name resources.requests = some request → 0 ≤ request.value
  ordered : ∀ name request limit, AList.lookup name resources.requests = some request →
    AList.lookup name resources.limits = some limit →
    request.value ≤ limit.value

/-- What the API server asks of a pod with requests and limits of its own. -/
structure Pod.LegalWith (pod : Pod) (resources : ResourceRequirements) : Prop where
  podLegal : resources.Legal
  legal : ∀ container ∈ pod.allContainers, container.resources.Legal
  aggregate : ∀ name request, AList.lookup name resources.requests = some request →
    pod.aggregateRequest name ≤ request.value
  limits : ∀ container ∈ pod.allContainers, ∀ name limit podLimit,
    AList.lookup name container.resources.limits = some limit →
    AList.lookup name resources.limits = some podLimit → limit.value ≤ podLimit.value

/-- A container with what it inherits. -/
def Container.inherited (resources : ResourceRequirements) (container : Container) : Container :=
  (inheritResources resources container).1

/-- The groups of the ordinary init containers, each with the restartable ones that run by then. -/
def initGroups : List Container → List Container → List (List Container)
  | _, [] => []
  | running, container :: rest =>
    if container.restartable then initGroups (container :: running) rest
      else (container :: running) :: initGroups running rest

/-- The groups of containers that run at a time. -/
def Pod.groups (pod : Pod) : List (List Container) :=
  (pod.containers ++ pod.initContainers.filter (·.restartable)) :: initGroups [] pod.initContainers

/-- If one container inherits, the other does not, and asks for nothing of a resource. -/
def LeavesAll (name : String) (container other : Container) : Prop :=
  container.inherits = true → other.inherits = false ∧ other.request name = 0

/-- A container that inherits something runs beside containers that neither inherit nor ask for it. -/
def Pod.InheritsAlone (pod : Pod) (resources : ResourceRequirements) : Prop :=
  ∀ name request, AList.lookup name resources.requests = some request → 0 < request.value →
    ∀ group ∈ pod.groups, group.Pairwise fun container other => LeavesAll name container other ∧
      LeavesAll name other container

/-- The pod is legal with what its containers inherit, those that declare something are as before, and to inherit
again changes nothing. -/
structure Pod.InheritsLegally (pod : Pod) (resources : ResourceRequirements) : Prop where
  legal : (mutateK3kInfraPodResources pod).1.LegalWith resources
  initContainers : List.Forall₂ (fun before after => before.inherits = false → after = before) pod.initContainers
    (mutateK3kInfraPodResources pod).1.initContainers
  containers : List.Forall₂ (fun before after => before.inherits = false → after = before) pod.containers
    (mutateK3kInfraPodResources pod).1.containers
  again : (mutateK3kInfraPodResources (mutateK3kInfraPodResources pod).1).1 = (mutateK3kInfraPodResources pod).1

namespace PodLevelAux

variable {pod : Pod} {resources : ResourceRequirements} {container : Container} {name : String}

/-! ## One container -/

/-- A container that inherits is given the resources of its Pod. -/
theorem inherited_of_inherits (resources : ResourceRequirements) (h : container.inherits = true) :
    container.inherited resources = { container with resources := ⟨resources.requests, resources.limits⟩ } := by
  unfold Container.inherited inheritResources
  simp only [Container.inherits, Bool.or_eq_true, Bool.and_eq_true, List.isEmpty_iff] at h
  dsimp only
  split_ifs with hempty hdefault
  · rfl
  · rfl
  · exact absurd h (not_or.mpr ⟨hempty, hdefault⟩)

theorem inherited_of_not_inherits (resources : ResourceRequirements) (h : container.inherits = false) :
    container.inherited resources = container := by
  unfold Container.inherited inheritResources
  rw [← Bool.not_eq_true] at h
  simp only [Container.inherits, Bool.or_eq_true, Bool.and_eq_true, List.isEmpty_iff, not_or] at h
  dsimp only
  rw [if_neg h.1, if_neg h.2]

/-- Whether it restarts does not change. -/
theorem restartable_inherited (resources : ResourceRequirements) (container : Container) :
    (container.inherited resources).restartable = container.restartable := by
  cases h : container.inherits with
  | true => rw [inherited_of_inherits resources h]; rfl
  | false => rw [inherited_of_not_inherits resources h]

/-- To inherit again changes nothing, also where the pod asks for the defaults. -/
theorem inherited_inherited (resources : ResourceRequirements) (container : Container) :
    (container.inherited resources).inherited resources = container.inherited resources := by
  cases hagain : (container.inherited resources).inherits with
  | false => rw [inherited_of_not_inherits resources hagain]
  | true =>
    cases h : container.inherits with
    | false => rw [inherited_of_not_inherits resources h, inherited_of_not_inherits resources h]
    | true =>
      rw [inherited_of_inherits resources hagain, inherited_of_inherits resources h]

/-! ## Sums over a group -/

/-- What a container asks for after it has inherited. -/
theorem request_inherited {request : Quantity} (hrequest : AList.lookup name resources.requests = some request)
    (container : Container) :
    (container.inherited resources).request name =
      if container.inherits then request.value else container.request name := by
  cases h : container.inherits with
  | true =>
    rw [inherited_of_inherits resources h, Container.request, ResourceList.qty, hrequest]
    rfl
  | false => rw [inherited_of_not_inherits resources h]; rfl

/-- The request of a container, or the amount it inherits. -/
def share (name : String) (amount : Int) (container : Container) : Int :=
  if container.inherits then amount else container.request name

/-- The requests of the containers that inherit nothing are not negative. -/
def DeclaredNonneg (name : String) (group : List Container) : Prop :=
  ∀ container ∈ group, container.inherits = false → 0 ≤ container.request name

theorem shares_mem_nonneg {amount : Int} (hamount : 0 ≤ amount) {group : List Container}
    (h : DeclaredNonneg name group) :
    ∀ value ∈ group.map (share name amount), 0 ≤ value := by
  intro value hvalue
  obtain ⟨container, hcontainer, rfl⟩ := List.mem_map.mp hvalue
  unfold share
  split_ifs with hinherits
  · exact hamount
  · exact h container hcontainer (Bool.not_eq_true _ ▸ hinherits)


/-- Where nothing is inherited, the shares are the requests that are declared. -/
theorem shares_eq_declared {amount : Int} {group : List Container}
    (h : amount = 0 ∨ ∀ container ∈ group, container.inherits = false) :
    (group.map (share name amount)).sum = requestSum (group.filter fun container => !container.inherits) name := by
  induction group with
  | nil => rfl
  | cons container group ih =>
    have hrest := ih (h.imp_right fun hall other hother => hall other (List.mem_cons_of_mem _ hother))
    rw [List.map_cons, List.sum_cons, hrest]
    cases hinherits : container.inherits with
    | false => simp [share, hinherits, requestSum]
    | true =>
      have hzero : amount = 0 := h.resolve_right fun hall => by
        rw [hall container List.mem_cons_self] at hinherits
        cases hinherits
      simp [share, hinherits, hzero, requestSum]

/-- A group that holds a container that inherits has a share of all. -/
theorem amount_le_shares {amount : Int} (hamount : 0 ≤ amount) {group : List Container}
    (h : DeclaredNonneg name group) (hcontainer : container ∈ group) (hinherits : container.inherits = true) :
    amount ≤ (group.map (share name amount)).sum := by
  have hle : share name amount container ≤ (group.map (share name amount)).sum :=
    List.single_le_sum (shares_mem_nonneg hamount h) _ (List.mem_map_of_mem hcontainer)
  rwa [share, if_pos hinherits] at hle

/-- Nothing is left over for a group when nobody in it inherits, or asks for anything. -/
theorem shares_le_zero_iff {amount : Int} (hamount : 0 < amount) {group : List Container}
    (h : DeclaredNonneg name group) :
    (group.map (share name amount)).sum ≤ 0 ↔ ∀ other ∈ group, other.inherits = false ∧ other.request name = 0 := by
  constructor
  · intro hle other hother
    have hnone : other.inherits = false := by
      rw [← Bool.not_eq_true]
      intro hinherits
      have := amount_le_shares (le_of_lt hamount) h hother hinherits
      omega
    have hshare : share name amount other ≤ (group.map (share name amount)).sum :=
      List.single_le_sum (shares_mem_nonneg (le_of_lt hamount) h) _ (List.mem_map_of_mem hother)
    have hnonneg := h other hother hnone
    rw [share, hnone, if_neg (by decide)] at hshare
    exact ⟨hnone, by omega⟩
  · intro hall
    refine le_of_eq (List.sum_eq_zero fun value hvalue => ?_)
    obtain ⟨other, hother, rfl⟩ := List.mem_map.mp hvalue
    rw [share, (hall other hother).1, if_neg (by decide), (hall other hother).2]

/-- Nobody takes more than there is when each container that inherits is spared by the others. -/
theorem shares_le_iff {amount : Int} (hamount : 0 < amount) {group : List Container}
    (hnonneg : DeclaredNonneg name group)
    (hdeclared : requestSum (group.filter fun container => !container.inherits) name ≤ amount) :
    (group.map (share name amount)).sum ≤ amount ↔
      group.Pairwise fun container other => LeavesAll name container other ∧ LeavesAll name other container := by
  induction group with
  | nil => exact iff_of_true (le_of_lt hamount) List.Pairwise.nil
  | cons container group ih =>
    have hnonneg' : DeclaredNonneg name group := fun other hother => hnonneg other (List.mem_cons_of_mem _ hother)
    rw [List.map_cons, List.sum_cons, List.pairwise_cons]
    cases hinherits : container.inherits with
    | true =>
      -- it takes all there is
      rw [share, if_pos hinherits, add_le_iff_nonpos_right, shares_le_zero_iff hamount hnonneg']
      constructor
      · intro hall
        refine ⟨fun other hother => ⟨fun _ => hall other hother, fun hother' => ?_⟩, ?_⟩
        · rw [(hall other hother).1] at hother'
          nomatch hother'
        · refine List.pairwise_of_forall_mem_list fun a ha b hb => ⟨fun ha' => ?_, fun hb' => ?_⟩
          · rw [(hall a ha).1] at ha'
            nomatch ha'
          · rw [(hall b hb).1] at hb'
            nomatch hb'
      · rintro ⟨hspares, -⟩ other hother
        exact (hspares other hother).1 hinherits
    | false =>
      have hfirst := hnonneg container List.mem_cons_self hinherits
      rw [List.filter_cons_of_pos (by rw [hinherits]; rfl), requestSum, List.map_cons, List.sum_cons] at hdeclared
      have hdeclared' : requestSum (group.filter fun container => !container.inherits) name ≤ amount := by
        rw [requestSum]
        omega
      rw [share, hinherits, if_neg (by decide), ← ih hnonneg' hdeclared']
      by_cases hsome : ∃ other ∈ group, other.inherits = true
      · -- another takes all there is
        obtain ⟨taker, htaker, htakes⟩ := hsome
        have hall := amount_le_shares (le_of_lt hamount) hnonneg' htaker htakes
        constructor
        · intro hle
          refine ⟨fun other _ => ⟨fun h => ?_, fun _ => ⟨hinherits, by omega⟩⟩, by omega⟩
          rw [hinherits] at h
          nomatch h
        · rintro ⟨hspares, hle⟩
          have hzero := ((hspares taker htaker).2 htakes).2
          omega
      · have hnone : ∀ other ∈ group, other.inherits = false := by
          intro other hother
          rw [← Bool.not_eq_true]
          exact fun h => hsome ⟨other, hother, h⟩
        have hshares : (group.map (share name amount)).sum = requestSum
          (group.filter fun container => !container.inherits) name :=
          shares_eq_declared (Or.inr hnone)
        rw [requestSum] at hshares
        refine iff_of_true (by omega) ⟨fun other hother => ⟨fun h => ?_, fun h => ?_⟩, by omega⟩
        · rw [hinherits] at h
          nomatch h
        · rw [hnone other hother] at h
          nomatch h

/-! ## The groups of a pod -/

/-- What the ordinary init containers need is what their groups ask for. -/
theorem initPeaks_eq (name : String) (running initContainers : List Container) :
    initPeaks name (requestSum running name) initContainers =
      (initGroups running initContainers).map fun group => requestSum group name := by
  induction initContainers generalizing running with
  | nil => rfl
  | cons container initContainers ih =>
    rw [initPeaks, initGroups]
    split_ifs with hrestartable
    · rw [← ih (container :: running), add_comm]
      rfl
    · rw [ih running]
      rfl

/-- The aggregate is within a bound when every group is. -/
theorem aggregateRequest_le_iff (pod : Pod) (name : String) (bound : Int) :
    pod.aggregateRequest name ≤ bound ↔ ∀ group ∈ pod.groups, requestSum group name ≤ bound := by
  have hrunning : pod.runningRequest name = requestSum
    (pod.containers ++ pod.initContainers.filter (·.restartable)) name := by
    rw [Pod.runningRequest, requestSum, requestSum, requestSum, List.map_append, List.sum_append]
  have hpeaks : initPeaks name 0 pod.initContainers = (initGroups [] pod.initContainers).map fun group =>
    requestSum group name :=
    initPeaks_eq name [] pod.initContainers
  rw [Pod.aggregateRequest, AccountingAux.foldl_max_le_iff, hpeaks, hrunning, Pod.groups, List.forall_mem_cons,
    List.forall_mem_map]

/-- A change that keeps what restarts may be made before or after the containers are grouped. -/
theorem initGroups_map {f : Container → Container} (hf : ∀ container, (f container).restartable = container.restartable)
    (running initContainers : List Container) :
    initGroups (running.map f) (initContainers.map f) = (initGroups running initContainers).map (·.map f) := by
  induction initContainers generalizing running with
  | nil => rfl
  | cons container initContainers ih =>
    rw [List.map_cons, initGroups, initGroups, hf]
    split_ifs with hrestartable
    · exact ih (container :: running)
    · rw [ih running]
      rfl

/-- What has changed of a pod. -/
theorem mutate_eq (hresources : pod.resources = some resources) (hrequests : resources.requests.entries ≠ [])
    (hlimits : resources.limits.entries ≠ []) :
    (mutateK3kInfraPodResources pod).1 =
      { pod with
        initContainers := pod.initContainers.map (·.inherited resources),
        containers := pod.containers.map (·.inherited resources) } := by
  rw [mutateK3kInfraPodResources, hresources]
  dsimp only
  rw [if_neg (not_or.mpr ⟨hrequests, hlimits⟩), List.map_map, List.map_map]
  rfl

/-- The containers run in the same groups as before. -/
theorem groups_mutate (hresources : pod.resources = some resources) (hrequests : resources.requests.entries ≠ [])
    (hlimits : resources.limits.entries ≠ []) :
    (mutateK3kInfraPodResources pod).1.groups = pod.groups.map (·.map (·.inherited resources)) := by
  rw [mutate_eq hresources hrequests hlimits, Pod.groups, Pod.groups, List.map_cons, List.map_append, List.filter_map]
  congr 1
  · congr 2
    exact List.filter_congr fun container _ => restartable_inherited resources container
  · exact initGroups_map (restartable_inherited resources) [] pod.initContainers

/-- The containers that declare something. -/
def declaring (containers : List Container) : List Container := containers.filter fun container => !container.inherits

/-- A container that inherits declares nothing. -/
theorem declaring_cons_of_inherits (h : container.inherits = true) (containers : List Container) :
    declaring (container :: containers) = declaring containers := List.filter_cons_of_neg (by rw [h]; decide)

theorem declaring_cons_of_not_inherits (h : container.inherits = false) (containers : List Container) :
    declaring (container :: containers) = container :: declaring containers := List.filter_cons_of_pos (by rw [h]; rfl)

theorem requestSum_cons (container : Container) (containers : List Container) (name : String) :
    requestSum (container :: containers) name = container.request name + requestSum containers name := rfl

/-- Requests that are not negative add up to one that is not. -/
theorem requestSum_nonneg {group : List Container} (h : ∀ container ∈ group, 0 ≤ container.request name) :
    0 ≤ requestSum group name := by
  refine List.sum_nonneg fun amount hamount => ?_
  obtain ⟨container, hcontainer, rfl⟩ := List.mem_map.mp hamount
  exact h container hcontainer

/-- What is declared in the groups of the init containers is within a bound when it is in the groups of those that
declare something, and in all restartable ones together: an init container that inherits leaves a group of
restartable ones only. -/
theorem declared_initGroups_le {running initContainers : List Container} {bound : Int}
    (hnonneg : ∀ container ∈ declaring initContainers, 0 ≤ container.request name)
    (hgroups : ∀ group ∈ initGroups (declaring running) (declaring initContainers), requestSum group name ≤ bound)
    (hrunning : requestSum (declaring running) name + requestSum
      ((declaring initContainers).filter (·.restartable)) name ≤ bound) :
    ∀ group ∈ initGroups running initContainers, requestSum (declaring group) name ≤ bound := by
  induction initContainers generalizing running with
  | nil => exact fun group hgroup => nomatch hgroup
  | cons container initContainers ih =>
    rw [initGroups]
    cases hinherits : container.inherits with
    | true =>
      rw [declaring_cons_of_inherits hinherits] at hnonneg hgroups hrunning
      split_ifs with hrestartable
      · refine ih hnonneg ?_ ?_
        · rwa [declaring_cons_of_inherits hinherits]
        · rwa [declaring_cons_of_inherits hinherits]
      · refine List.forall_mem_cons.mpr ⟨?_, ih hnonneg hgroups hrunning⟩
        have hrest : 0 ≤ requestSum ((declaring initContainers).filter (·.restartable)) name :=
          requestSum_nonneg fun other hother => hnonneg other (List.mem_of_mem_filter hother)
        rw [declaring_cons_of_inherits hinherits]
        omega
    | false =>
      rw [declaring_cons_of_not_inherits hinherits] at hnonneg hgroups hrunning
      have hnonneg' : ∀ other ∈ declaring initContainers, 0 ≤ other.request name := fun other hother =>
        hnonneg other (List.mem_cons_of_mem _ hother)
      rw [initGroups] at hgroups
      split_ifs at hgroups ⊢ with hrestartable
      · rw [List.filter_cons, if_pos hrestartable, requestSum_cons] at hrunning
        refine ih hnonneg' ?_ ?_
        · rwa [declaring_cons_of_not_inherits hinherits]
        · rw [declaring_cons_of_not_inherits hinherits, requestSum_cons]
          omega
      · rw [List.filter_cons, if_neg hrestartable] at hrunning
        obtain ⟨hgroup, hgroups⟩ := List.forall_mem_cons.mp hgroups
        refine List.forall_mem_cons.mpr ⟨?_, ih hnonneg' hgroups hrunning⟩
        rwa [declaring_cons_of_not_inherits hinherits]

/-- What is declared in a group of the pod is within a bound when it is in the pod without the
containers that inherit. -/
theorem declared_groups_le {bound : Int}
    (hnonneg : ∀ container ∈ pod.declared.allContainers, 0 ≤ container.request name)
    (h : pod.declared.aggregateRequest name ≤ bound) :
    ∀ group ∈ pod.groups, requestSum (declaring group) name ≤ bound := by
  obtain ⟨hmain, hgroups⟩ := List.forall_mem_cons.mp ((aggregateRequest_le_iff _ _ _).mp h)
  obtain ⟨hinit, hcontainers⟩ := List.forall_mem_append.mp hnonneg
  have hcomm : declaring (pod.initContainers.filter (·.restartable)) = (declaring pod.initContainers).filter
    (·.restartable) :=
    List.filter_comm ..
  have happend : requestSum (declaring pod.containers) name + requestSum
    ((declaring pod.initContainers).filter (·.restartable)) name ≤
      bound := by
    rw [requestSum, requestSum, ← List.sum_append, ← List.map_append]
    exact hmain
  refine List.forall_mem_cons.mpr ⟨?_, declared_initGroups_le hinit hgroups ?_⟩
  · rw [declaring, List.filter_append, requestSum, List.map_append, List.sum_append]
    rw [← hcomm] at happend
    exact happend
  · have hfirst : 0 ≤ requestSum (declaring pod.containers) name := requestSum_nonneg hcontainers
    have hnil : requestSum (declaring []) name = 0 := rfl
    omega

/-! ## The whole pod -/

/-- A legal container asks for nothing negative. -/
theorem request_nonneg (h : container.resources.Legal) (name : String) : 0 ≤ container.request name := by
  rw [Container.request, ResourceList.qty]
  cases hlookup : AList.lookup name container.resources.requests with
  | none => exact le_refl 0
  | some request => exact h.nonneg name request hlookup

/-- What a container asks for after it has inherited is its share. -/
theorem requestSum_inherited {request : Quantity} (hrequest : AList.lookup name resources.requests = some request)
    (group : List Container) :
    requestSum (group.map (·.inherited resources)) name = (group.map (share name request.value)).sum := by
  rw [requestSum, List.map_map]
  exact congrArg List.sum (List.map_congr_left fun container _ => request_inherited hrequest container)

/-- The groups are made of the running and the init containers. -/
theorem mem_initGroups {running initContainers group : List Container}
    (hgroup : group ∈ initGroups running initContainers) (hcontainer : container ∈ group) :
    container ∈ running ∨ container ∈ initContainers := by
  induction initContainers generalizing running with
  | nil => nomatch hgroup
  | cons first initContainers ih =>
    rw [initGroups] at hgroup
    split_ifs at hgroup with hrestartable
    · rcases ih hgroup with hmem | hmem
      · rcases List.mem_cons.mp hmem with rfl | hmem
        · exact Or.inr List.mem_cons_self
        · exact Or.inl hmem
      · exact Or.inr (List.mem_cons_of_mem _ hmem)
    · rcases List.mem_cons.mp hgroup with rfl | hgroup
      · rcases List.mem_cons.mp hcontainer with rfl | hmem
        · exact Or.inr List.mem_cons_self
        · exact Or.inl hmem
      · exact (ih hgroup).imp_right (List.mem_cons_of_mem _)

/-- The groups are made of the containers of the Pod. -/
theorem mem_groups {group : List Container} (hgroup : group ∈ pod.groups) (hcontainer : container ∈ group) :
    container ∈ pod.allContainers := by
  rw [Pod.allContainers, List.mem_append]
  rcases List.mem_cons.mp hgroup with rfl | hgroup
  · exact (List.mem_append.mp hcontainer).symm.imp_left List.mem_of_mem_filter
  · exact Or.inl ((mem_initGroups hgroup hcontainer).resolve_left List.not_mem_nil)

/-- A container that declares something is still there without those that do not. -/
theorem mem_declared (hcontainer : container ∈ pod.allContainers) (hinherits : container.inherits = false) :
    container ∈ pod.declared.allContainers := by
  have hdeclares : (!container.inherits) = true := by rw [hinherits]; rfl
  rw [Pod.allContainers, List.mem_append] at hcontainer ⊢
  exact hcontainer.imp (fun h => List.mem_filter.mpr ⟨h, hdeclares⟩) fun h => List.mem_filter.mpr ⟨h, hdeclares⟩

/-- The aggregate stays within the request of the pod exactly when the containers that inherit do so alone. -/
theorem aggregate_iff (hvalid : pod.declared.LegalWith resources) (hresources : pod.resources = some resources)
    (hrequests : resources.requests.entries ≠ []) (hlimits : resources.limits.entries ≠ []) :
    (∀ name request, AList.lookup name resources.requests = some request →
      (mutateK3kInfraPodResources pod).1.aggregateRequest name ≤ request.value) ↔ pod.InheritsAlone resources := by
  have hgroup : ∀ name request, AList.lookup name resources.requests = some request → ∀ group ∈ pod.groups,
      (requestSum (group.map (·.inherited resources)) name ≤ request.value ↔
        (0 < request.value → group.Pairwise fun container other => LeavesAll name container other ∧
          LeavesAll name other container)) := by
    intro name request hrequest group hgroup
    have hnonneg : ∀ container ∈ pod.declared.allContainers, 0 ≤ container.request name := fun container hcontainer =>
      request_nonneg (hvalid.legal container hcontainer) name
    have hdeclared := declared_groups_le hnonneg (hvalid.aggregate name request hrequest) group hgroup
    have hgroupNonneg : DeclaredNonneg name group := by
      intro container hcontainer hinherits
      exact hnonneg container (mem_declared (mem_groups hgroup hcontainer) hinherits)
    rw [requestSum_inherited hrequest]
    rcases lt_or_eq_of_le (hvalid.podLegal.nonneg name request hrequest) with hpos | hzero
    · rw [shares_le_iff hpos hgroupNonneg hdeclared]
      exact (imp_iff_right hpos).symm
    · refine iff_of_true ?_ fun hpos => absurd hzero (ne_of_lt hpos)
      rw [shares_eq_declared (Or.inl hzero.symm)]
      exact hdeclared
  constructor
  · intro h name request hrequest hpos group hg
    refine (hgroup name request hrequest group hg).mp ?_ hpos
    have hall := (aggregateRequest_le_iff _ _ _).mp (h name request hrequest)
    rw [groups_mutate hresources hrequests hlimits] at hall
    exact hall _ (List.mem_map_of_mem hg)
  · intro h name request hrequest
    rw [aggregateRequest_le_iff, groups_mutate hresources hrequests hlimits, List.forall_mem_map]
    exact fun group hg => (hgroup name request hrequest group hg).mpr fun hpos => h name request hrequest hpos group hg

/-- A property of the requirements of the pod, and of the containers that declare something, is one of all
containers that have inherited. -/
theorem forall_inherited {P : ResourceRequirements → Prop} (hpod : P ⟨resources.requests, resources.limits⟩)
    (hdeclared : ∀ container ∈ pod.declared.allContainers, P container.resources)
    (hresources : pod.resources = some resources) (hrequests : resources.requests.entries ≠ [])
    (hlimits : resources.limits.entries ≠ []) :
    ∀ container ∈ (mutateK3kInfraPodResources pod).1.allContainers, P container.resources := by
  intro container hcontainer
  rw [mutate_eq hresources hrequests hlimits, Pod.allContainers, ← List.map_append] at hcontainer
  obtain ⟨before, hbefore, rfl⟩ := List.mem_map.mp hcontainer
  cases hinherits : before.inherits with
  | true =>
    rw [inherited_of_inherits resources hinherits]
    exact hpod
  | false =>
    rw [inherited_of_not_inherits resources hinherits]
    exact hdeclared before (mem_declared hbefore hinherits)

/-- Containers that do not inherit are left as they are. -/
theorem forall₂_inherited (resources : ResourceRequirements) (containers : List Container) :
    List.Forall₂ (fun before after : Container => before.inherits = false → after = before) containers
      (containers.map (·.inherited resources)) :=
  List.forall₂_map_right_iff.mpr (List.forall₂_same.mpr fun _ _ h => inherited_of_not_inherits resources h)

/-- A second mutation changes nothing. -/
theorem mutate_mutate (hresources : pod.resources = some resources) (hrequests : resources.requests.entries ≠ [])
    (hlimits : resources.limits.entries ≠ []) :
    (mutateK3kInfraPodResources (mutateK3kInfraPodResources pod).1).1 = (mutateK3kInfraPodResources pod).1 := by
  have hafter := mutate_eq hresources hrequests hlimits
  have hsame : (mutateK3kInfraPodResources pod).1.resources = some resources := by
    rw [hafter]
    exact hresources
  rw [mutate_eq hsame hrequests hlimits, hafter]
  dsimp only
  rw [List.map_map, List.map_map]
  have hcomp : ((·.inherited resources) ∘ (·.inherited resources) : Container → Container) = (·.inherited resources) :=
    funext (inherited_inherited resources)
  rw [hcomp]

/-! ## A sample -/

/-- One processor, requested and limited. -/
def processor : ResourceRequirements :=
  ⟨GoMap.ofList [("cpu", .newQuantity 1 .decimalSI)], GoMap.ofList [("cpu", .newQuantity 1 .decimalSI)]⟩

/-- A mebibyte of memory, requested and limited. -/
def mebibyte : ResourceRequirements := ⟨GoMap.ofList [("memory", .mebi 1)], GoMap.ofList [("memory", .mebi 1)]⟩

/-- Requirements are legal when each entry of the requests is. -/
theorem legal_of_entries (h : ∀ e ∈ resources.requests.entries,
    0 ≤ e.2.value ∧ ∀ limit ∈ AList.lookup e.1 resources.limits, e.2.value ≤ limit.value) : resources.Legal where
  nonneg name request hr := (h ⟨name, request⟩ (AList.mem_lookup_iff.mp hr)).1
  ordered name request limit hr hl := (h ⟨name, request⟩ (AList.mem_lookup_iff.mp hr)).2 limit hl

/-- The sample container is legal. -/
theorem legal_processor : processor.Legal := legal_of_entries (by decide +kernel)

/-- A processor is all that `processor` requests and limits. -/
theorem eq_cpu_of_processor {quantity : Quantity}
    (h : AList.lookup name processor.requests = some quantity ∨ AList.lookup name processor.limits = some quantity) :
    name = "cpu" ∧ quantity = .newQuantity 1 .decimalSI := by
  have hentry : (⟨name, quantity⟩ : Sigma fun _ : String => Quantity) ∈ [⟨"cpu", .newQuantity 1 .decimalSI⟩] :=
    h.elim AList.mem_lookup_iff.mp AList.mem_lookup_iff.mp
  cases List.mem_singleton.mp hentry
  exact ⟨rfl, rfl⟩

/-- A pod that asks for a processor, with containers that declare nothing and the given others. -/
def emptyContainers (n : Nat) (others : List Container) : Pod :=
  { metadata := { name := "k3k-server" }, containers := List.replicate n { name := "k3s" } ++ others, resources := some processor }

/-- A container that asks for memory alone. -/
def agent : Container := { name := "agent", resources := mebibyte }

/-- What the sample Pod declares are its other containers. -/
theorem declared_emptyContainers (n : Nat) (others : List Container) (h : ∀ other ∈ others, other.inherits = false) :
    (emptyContainers n others).declared.containers = others := by
  have hnone : (List.replicate n ({ name := "k3s" } : Container)).filter
    (fun container => !container.inherits) = [] := by
    refine List.filter_eq_nil_iff.mpr fun container hcontainer => ?_
    rw [(List.mem_replicate.mp hcontainer).2]
    decide +kernel
  have hall : others.filter (fun container => !container.inherits) = others :=
    List.filter_eq_self.mpr fun other hother => by rw [h other hother, Bool.not_false]
  rw [Pod.declared, emptyContainers]
  dsimp only
  rw [List.filter_append, hnone, hall, List.nil_append]

/-- Containers that declare nothing beside an agent, or alone, are legal for a processor. -/
theorem legalWith_emptyContainers (n : Nat) {others : List Container} (h : ∀ other ∈ others, other = agent) :
    (emptyContainers n others).declared.LegalWith processor := by
  have hothers : (emptyContainers n others).declared.allContainers = others := by
    rw [Pod.allContainers, declared_emptyContainers n others fun other hother => by rw [h other hother]; decide +kernel]
    rfl
  have hcontainers : (emptyContainers n others).declared.containers = others := hothers
  refine ⟨legal_processor, fun container hcontainer => ?_, fun name request hr => ?_,
    fun container hcontainer name limit podLimit hl hp => ?_⟩
  · rw [hothers] at hcontainer
    rw [h container hcontainer]
    exact legal_of_entries (by decide +kernel)
  · obtain ⟨rfl, -⟩ := eq_cpu_of_processor (Or.inl hr)
    have hzero : requestSum (emptyContainers n others).declared.containers "cpu" = 0 := by
      rw [hcontainers]
      refine List.sum_eq_zero fun amount hamount => ?_
      obtain ⟨other, hother, rfl⟩ := List.mem_map.mp hamount
      rw [h other hother]
      decide +kernel
    have haggregate : (emptyContainers n others).declared.aggregateRequest "cpu" = 0 := by
      rw [Pod.aggregateRequest, Pod.runningRequest, hzero]
      rfl
    rw [haggregate]
    exact legal_processor.nonneg "cpu" request hr
  · rw [hothers] at hcontainer
    obtain ⟨rfl, -⟩ := eq_cpu_of_processor (Or.inr hp)
    rw [h container hcontainer] at hl
    -- the agent has no limit for it
    cases hl

end PodLevelAux

open PodLevelAux

/-- What containers inherit keeps a pod legal exactly when those that inherit something run beside containers that
neither inherit nor ask for it. -/
theorem inherits_legally_iff (pod : Pod) (resources : ResourceRequirements)
    (hresources : pod.resources = some resources) (hrequests : resources.requests.entries ≠ [])
    (hlimits : resources.limits.entries ≠ []) (hvalid : pod.declared.LegalWith resources) :
    pod.InheritsLegally resources ↔ pod.InheritsAlone resources := by
  rw [← aggregate_iff hvalid hresources hrequests hlimits]
  refine ⟨fun h => h.legal.aggregate, fun haggregate => ⟨⟨hvalid.podLegal, ?_, haggregate, ?_⟩, ?_, ?_, ?_⟩⟩
  · exact forall_inherited hvalid.podLegal hvalid.legal hresources hrequests hlimits
  · refine forall_inherited (P := fun inherited => ∀ name limit podLimit,
      AList.lookup name inherited.limits = some limit →
      AList.lookup name resources.limits = some podLimit →
        limit.value ≤ podLimit.value) ?_ hvalid.limits hresources hrequests hlimits
    intro name limit podLimit hlimit hpodLimit
    exact le_of_eq (congrArg Quantity.value (Option.some.inj (hlimit.symm.trans hpodLimit)))
  · rw [mutate_eq hresources hrequests hlimits]
    exact forall₂_inherited resources pod.initContainers
  · rw [mutate_eq hresources hrequests hlimits]
    exact forall₂_inherited resources pod.containers
  · exact mutate_mutate hresources hrequests hlimits

/-- An empty container beside one that asks for memory takes the processor of the pod, and the pod stays legal. -/
theorem inherits_legally_iff_sample : (emptyContainers 1 [agent]).InheritsLegally processor := by
  refine (inherits_legally_iff (emptyContainers 1 [agent]) processor rfl (by decide +kernel) (by decide +kernel)
    (legalWith_emptyContainers 1 fun other hother => List.mem_singleton.mp hother)).mpr ?_
  intro name request hrequest _ group hgroup
  obtain ⟨rfl, -⟩ := eq_cpu_of_processor (Or.inl hrequest)
  rw [show (emptyContainers 1 [agent]).groups = [[{ name := "k3s" }, agent]] from rfl, List.mem_singleton] at hgroup
  rw [hgroup]
  refine List.pairwise_pair.mpr ⟨fun _ => ⟨by decide +kernel, by decide +kernel⟩, fun hinherits => ?_⟩
  -- the agent declares something
  exact absurd hinherits (by decide +kernel)

/-- Of two empty containers each inherits the processor that the pod asks for, and together they ask for two. -/
theorem inherits_legally_false :
    ¬∀ (pod : Pod) (resources : ResourceRequirements), pod.resources = some resources →
      resources.requests.entries ≠ [] →
      resources.limits.entries ≠ [] → pod.declared.LegalWith resources → pod.InheritsLegally resources := by
  intro h
  have hlegal := h (emptyContainers 2 []) processor rfl (by decide +kernel) (by decide +kernel)
    (legalWith_emptyContainers 2 fun other hother => absurd hother List.not_mem_nil)
  have hle := hlegal.legal.aggregate "cpu" (.newQuantity 1 .decimalSI) rfl
  exact absurd hle (by decide +kernel)

end KubeCell
