import KubeCell.Theorems.Usable
import Mathlib.Data.List.Dedup

/-!
# The evaluation of a plan

The checks of an evaluation are sorted by name and decide it. What each says does not depend on the order in which
maps are visited, nor on the order of the nodes and ports in the status of the Cell. And more room, or a smaller
class, never takes an accepted plan back.
-/

namespace KubeCell

/-- The same Cell and class, with nodes, ports and quota in another order. -/
structure Reordered (cell cell' : Cell) (virtualNodeClass virtualNodeClass' : VirtualNodeClass) : Prop where
  sameCell : cell' = { cell with
    status.nodes := cell'.status.nodes, status.nodePorts.allocated := cell'.status.nodePorts.allocated }
  nodes : cell.status.nodes.Perm cell'.status.nodes
  allocated : cell.status.nodePorts.allocated.Perm cell'.status.nodePorts.allocated
  sameClass : virtualNodeClass' = { virtualNodeClass with spec.workloadHard := virtualNodeClass'.spec.workloadHard }
  workloadHard : virtualNodeClass.spec.workloadHard.entries.Perm virtualNodeClass'.spec.workloadHard.entries

/-- The decision is read off the checks, which are sorted by their different names. -/
structure Decides (evaluation : PlanEvaluation) : Prop where
  sorted : evaluation.checks.Pairwise fun a b => a.name < b.name
  rejected : evaluation.decision = .rejected ↔ ∃ check ∈ evaluation.checks, check.status = .failed
  unknown : evaluation.decision = .unknown ↔
    (∀ check ∈ evaluation.checks, check.status ≠ .failed) ∧ ∃ check ∈ evaluation.checks, check.status = .unknown
  accepted : evaluation.decision = .accepted ↔ ∀ check ∈ evaluation.checks, check.status = .passed

open AcceleratorsAux EvaluatorAux OwnUsageAux ResolutionAux UsableAux

namespace EvaluationAux

/-! ## Names -/

/-- The names of the checks that are made of every class. -/
def generalNames : List String :=
  ["ResolvedProfile", "CellAvailable", "OCMLeaseFresh", "HostBaseline", "InventoryFresh", "LockedVersions"]

/-- The names of the checks that are made of a class that resolves. -/
def resolvedNames : List String :=
  generalNames ++ ["CPU", "Memory", "EphemeralStorage", "Accelerators", "HostQuota", "TopoLVM", "NodePort"]

/-- A check that may be unknown has its name. -/
theorem unlessUnknown_name (rt : Runtime) (name : String) (holds : Bool) (r m r' m' : String) :
    (unlessUnknown rt name holds r m r' m').name = name := by
  cases holds <;> rfl

theorem capacityCheck_name (rt : Runtime) (name : String) (inventory : InventoryStatus) (required : Quantity) :
    (capacityCheck rt name inventory required).name = name := by
  unfold capacityCheck
  split_ifs <;> rfl

/-- A name that all verdicts of a check have is its name. -/
theorem name_of_verdict {check : PlanCheck} {verdict : String × CheckStatus × String} (h : check.verdict = verdict) :
    check.name = verdict.1 := congrArg (·.1) h

/-- The checks come in one of two rows. -/
theorem planChecks_names (Γ : Ctx) (rt : Runtime) (cell : Cell) (virtualNodeClass : VirtualNodeClass) :
    (planChecks Γ rt cell virtualNodeClass).map (·.name) = generalNames ∨
      (planChecks Γ rt cell virtualNodeClass).map (·.name) = resolvedNames := by
  have hlocked : (lockedVersionCheck rt cell).name = "LockedVersions" := by
    rw [name_of_verdict (lockedVersionCheck_verdict rt cell)]
    split_ifs <;> rfl
  have haccelerators : (acceleratorCheck rt cell cell.spec.machineProfile.name
    (acceleratorRequests cell virtualNodeClass)).name =
      "Accelerators" := by
    rw [acceleratorCheck, name_of_verdict (acceleratorLoop_verdict ..)]
    split_ifs <;> rfl
  have hquota : (hostQuotaCheck rt virtualNodeClass).name = "HostQuota" := by
    rw [name_of_verdict (hostQuotaCheck_verdict rt virtualNodeClass)]
    split_ifs <;> rfl
  have hstorage : (storageCheck rt cell virtualNodeClass).name = "TopoLVM" := by
    rw [name_of_verdict (storageCheck_verdict rt cell virtualNodeClass)]
    split
    · rfl
    · split_ifs <;> rfl
  have hports : (nodePortCheck rt cell).name = "NodePort" := by
    rw [name_of_verdict (nodePortCheck_verdict rt cell)]
    split_ifs <;> rfl
  unfold planChecks
  dsimp only
  split
  · left
    simp only [List.map_cons, List.map_nil, cellAvailabilityCheck, leaseFreshnessCheck, hostBaselineCheck,
      inventoryFreshnessCheck,
      unlessUnknown_name, hlocked]
    rfl
  · right
    simp only [List.map_append, List.map_cons, List.map_nil, cellAvailabilityCheck, leaseFreshnessCheck,
      hostBaselineCheck,
      inventoryFreshnessCheck, unlessUnknown_name, hlocked, computeChecks, baseResources, capacityCheck_name,
        haccelerators, hquota,
      hstorage, hports]
    rfl

/-- The checks are sorted by different names. -/
theorem checks_sorted (Γ : Ctx) (rt : Runtime) (cell : Cell) (virtualNodeClass : VirtualNodeClass) :
    (evaluateVirtualClusterPlan Γ rt cell virtualNodeClass).checks.Pairwise fun a b => a.name < b.name := by
  have : Std.Total fun a b : PlanCheck => a.name ≤ b.name := ⟨fun a b => le_total a.name b.name⟩
  have : IsTrans PlanCheck fun a b => a.name ≤ b.name := ⟨fun _ _ _ => le_trans⟩
  have hnodup : ((planChecks Γ rt cell virtualNodeClass).map (·.name)).Nodup := by
    rcases planChecks_names Γ rt cell virtualNodeClass with h | h <;> rw [h] <;> decide
  rw [checks_eq]
  have hle := List.pairwise_insertionSort (fun a b : PlanCheck => a.name ≤ b.name)
    (planChecks Γ rt cell virtualNodeClass)
  have hne : ((planChecks Γ rt cell virtualNodeClass).insertionSort fun a b => a.name ≤ b.name).Pairwise
      fun a b => a.name ≠ b.name :=
    List.pairwise_map.mp (((List.perm_insertionSort _ _).map _).nodup_iff.mpr hnodup)
  exact hle.imp₂ (fun _ _ hab hnab => lt_of_le_of_ne hab hnab) hne

/-- The verdicts of an evaluation are those of the checks that are made, sorted. -/
theorem verdicts_eq (Γ : Ctx) (rt : Runtime) (cell : Cell) (virtualNodeClass : VirtualNodeClass) :
    (evaluateVirtualClusterPlan Γ rt cell virtualNodeClass).checks.map PlanCheck.verdict =
      ((planChecks Γ rt cell virtualNodeClass).map PlanCheck.verdict).insertionSort fun a b => a.1 ≤ b.1 := by
  rw [checks_eq]
  exact List.map_insertionSort (fun a b : PlanCheck => a.name ≤ b.name)
    (fun a b : String × CheckStatus × String => a.1 ≤ b.1) _ _
    fun _ _ _ _ => Iff.rfl

/-- The decision is read off the verdicts. -/
theorem decision_of_verdicts {Γ Γ' : Ctx} {rt rt' : Runtime} {cell cell' : Cell}
    {virtualNodeClass virtualNodeClass' : VirtualNodeClass}
    (h : (planChecks Γ rt cell virtualNodeClass).map PlanCheck.verdict =
      (planChecks Γ' rt' cell' virtualNodeClass').map PlanCheck.verdict) :
    (evaluateVirtualClusterPlan Γ rt cell virtualNodeClass).decision =
      (evaluateVirtualClusterPlan Γ' rt' cell' virtualNodeClass').decision := by
  have hany : ∀ (l : List PlanCheck) (status : CheckStatus), l.any (·.status == status) =
    (l.map PlanCheck.verdict).any (·.2.1 == status) :=
    fun l status => by rw [List.any_map]; rfl
  have hempty : ∀ l : List PlanCheck, l.isEmpty = (l.map PlanCheck.verdict).isEmpty := fun l => by cases l <;> rfl
  rw [decision_eq, decision_eq, planDecision_eq, planDecision_eq, hany, hany, hany, hany, hempty,
    hempty (evaluateVirtualClusterPlan Γ' rt' cell' virtualNodeClass').checks, verdicts_eq, verdicts_eq, h]

/-- The checks of the Cell itself. -/
def generalChecks (rt : Runtime) (cell : Cell) : List PlanCheck :=
  [cellAvailabilityCheck rt cell, leaseFreshnessCheck rt cell, hostBaselineCheck rt cell,
    inventoryFreshnessCheck rt cell,
    lockedVersionCheck rt cell]

/-- The checks of the Cell itself look at its phase, its conditions, its managed cluster and its provider. -/
theorem generalChecks_congr (rt rt' : Runtime) {cell cell' : Cell} (hphase : cell'.status.phase = cell.status.phase)
    (hconditions : cell'.status.conditions = cell.status.conditions)
    (hmanaged : cell'.status.managedCluster = cell.status.managedCluster)
    (hprovider : cell'.status.provider = cell.status.provider) :
    (generalChecks rt' cell').map PlanCheck.verdict = (generalChecks rt cell).map PlanCheck.verdict := by
  simp only [generalChecks, List.map_cons, List.map_nil, cellAvailabilityCheck, leaseFreshnessCheck, hostBaselineCheck,
    inventoryFreshnessCheck, unlessUnknown_verdict, lockedVersionCheck_verdict, hphase, hmanaged,
      hprovider, hconditions]

/-! ## Order -/

section Order
variable {cell cell' : Cell} {virtualNodeClass virtualNodeClass' : VirtualNodeClass}

/-- A list in another order has the same entries. -/
theorem lookup_reordered (h : Reordered cell cell' virtualNodeClass virtualNodeClass') (key : String) :
    AList.lookup key virtualNodeClass'.spec.workloadHard = AList.lookup key virtualNodeClass.spec.workloadHard :=
  (AList.perm_lookup h.workloadHard).symm

/-- It resolves in the same way. -/
theorem resolves_reordered (h : Reordered cell cell' virtualNodeClass virtualNodeClass') :
    Resolves cell' virtualNodeClass' ↔ Resolves cell virtualNodeClass := by
  have hspec : cell'.spec = cell.spec := by rw [h.sameCell]
  have hpair : ∀ device, checkDevicePair virtualNodeClass'.spec.workloadHard device =
      checkDevicePair virtualNodeClass.spec.workloadHard device := fun device => by
    simp only [checkDevicePair, lookup_reordered h]
  constructor
  · rintro ⟨hprofile, hentitlements, hpairs⟩
    rw [hspec] at hprofile hentitlements hpairs
    exact ⟨hprofile, fun e he => hentitlements e (h.workloadHard.mem_iff.mp he), fun device hdevice =>
      hpair device ▸ hpairs device hdevice⟩
  · rintro ⟨hprofile, hentitlements, hpairs⟩
    rw [← hspec] at hprofile hentitlements hpairs
    exact ⟨hprofile, fun e he => hentitlements e (h.workloadHard.mem_iff.mpr he),
      fun device hdevice => (hpair device).symm ▸ hpairs device hdevice⟩

theorem entitlement_reordered (h : Reordered cell cell' virtualNodeClass virtualNodeClass') (name : String) :
    (entitlementRequests virtualNodeClass'.spec.workloadHard).qty name =
      (entitlementRequests virtualNodeClass.spec.workloadHard).qty name := by
  rw [ResourceList.qty, ResourceList.qty, lookup_entitlementRequests, lookup_entitlementRequests, lookup_reordered h]

/-- What the check of accelerators asks for, in every order of the requests and the nodes. -/
theorem allCovered_reordered (rt rt' : Runtime) (h : Reordered cell cell' virtualNodeClass virtualNodeClass') :
    AllCovered (cell'.status.nodes.filter fun node => node.ready && node.profile == cell'.spec.machineProfile.name)
        (rt'.range (acceleratorRequests cell' virtualNodeClass')) ↔
      AllCovered (cell.status.nodes.filter fun node => node.ready && node.profile == cell.spec.machineProfile.name)
        (rt.range (acceleratorRequests cell virtualNodeClass)) := by
  have hspec : cell'.spec = cell.spec := by rw [h.sameCell]
  have hlookup : ∀ name q, AList.lookup name (acceleratorRequests cell' virtualNodeClass') = some q ↔
      AList.lookup name (acceleratorRequests cell virtualNodeClass) = some q := by
    intro name q
    rw [lookup_acceleratorRequests, lookup_acceleratorRequests, hspec, entitlement_reordered h]
  have hrequests : ∀ e, e ∈ rt'.range (acceleratorRequests cell' virtualNodeClass') ↔
      e ∈ rt.range (acceleratorRequests cell virtualNodeClass) := fun e => by
    rw [rt'.mem_range _ e.1 e.2, rt.mem_range _ e.1 e.2, hlookup]
  have hnodes : ∀ node, node ∈ cell'.status.nodes.filter
    (fun node => node.ready && node.profile == cell'.spec.machineProfile.name) ↔
      node ∈ cell.status.nodes.filter
        (fun node => node.ready && node.profile == cell.spec.machineProfile.name) := fun node => by
    rw [hspec, List.mem_filter, List.mem_filter, h.nodes.mem_iff]
  simp only [AllCovered, hrequests, hnodes]

/-- The check of the accelerators comes to the same. -/
theorem acceleratorCheck_reordered (rt rt' : Runtime) (h : Reordered cell cell' virtualNodeClass virtualNodeClass') :
    (acceleratorCheck rt' cell' cell'.spec.machineProfile.name (acceleratorRequests cell' virtualNodeClass')).verdict =
      (acceleratorCheck rt cell cell.spec.machineProfile.name (acceleratorRequests cell virtualNodeClass)).verdict := by
  have hspec : cell'.spec = cell.spec := by rw [h.sameCell]
  have hnil : (cell'.status.nodes.filter fun node =>
    node.ready && node.profile == cell'.spec.machineProfile.name) = [] ↔
      (cell.status.nodes.filter fun node => node.ready && node.profile == cell.spec.machineProfile.name) = [] := by
    rw [hspec, ← List.length_eq_zero_iff, ← List.length_eq_zero_iff, (h.nodes.filter _).length_eq]
  rw [acceleratorCheck, acceleratorCheck, acceleratorLoop_verdict, acceleratorLoop_verdict]
  simp only [allCovered_reordered rt rt' h, hnil]

/-- So does that of the host quota. -/
theorem hostQuotaCheck_reordered (rt rt' : Runtime) (h : Reordered cell cell' virtualNodeClass virtualNodeClass') :
    (hostQuotaCheck rt' virtualNodeClass').verdict = (hostQuotaCheck rt virtualNodeClass).verdict := by
  have hlacks : lacksEqualLimit virtualNodeClass'.spec.workloadHard =
    lacksEqualLimit virtualNodeClass.spec.workloadHard := by
    funext e
    simp only [lacksEqualLimit, lookup_reordered h]
  rw [hostQuotaCheck_verdict, hostQuotaCheck_verdict, hlacks, h.workloadHard.symm.any_eq]

/-- So does that of the ports. -/
theorem nodePortCheck_reordered (rt rt' : Runtime) (h : Reordered cell cell' virtualNodeClass virtualNodeClass') :
    (nodePortCheck rt' cell').verdict = (nodePortCheck rt cell).verdict := by
  have hfresh : cell'.status.nodePorts.fresh = cell.status.nodePorts.fresh := by rw [h.sameCell]
  have hused : (usedPorts cell').length = (usedPorts cell).length := (h.allocated.symm.filter _).dedup.length_eq
  rw [nodePortCheck_verdict, nodePortCheck_verdict, hfresh, hused]

theorem planChecks_reordered (Γ : Ctx) (rt rt' : Runtime)
    (h : Reordered cell cell' virtualNodeClass virtualNodeClass') :
    (planChecks Γ rt' cell' virtualNodeClass').map PlanCheck.verdict =
      (planChecks Γ rt cell virtualNodeClass).map PlanCheck.verdict := by
  have hspec : cell'.spec = cell.spec := by rw [h.sameCell]
  have hinventory : cell'.status.inventory = cell.status.inventory := by rw [h.sameCell]
  have hstorage : cell'.status.storageInventory = cell.status.storageInventory := by rw [h.sameCell]
  have hstorageClass : virtualNodeClass'.spec.storageClassName = virtualNodeClass.spec.storageClassName := by
    rw [h.sameClass]
  have hgeneral : (generalChecks rt' cell').map PlanCheck.verdict = (generalChecks rt cell).map PlanCheck.verdict :=
    generalChecks_congr rt rt' (by rw [h.sameCell]) (by rw [h.sameCell]) (by rw [h.sameCell]) (by rw [h.sameCell])
  have hcompute : (computeChecks rt' cell' virtualNodeClass').map PlanCheck.verdict =
      (computeChecks rt cell virtualNodeClass).map PlanCheck.verdict := by
    simp only [computeChecks, List.map_append, List.map_map, List.map_cons, List.map_nil,
      acceleratorCheck_reordered rt rt' h]
    congr 1
    refine List.map_congr_left fun name _ => ?_
    simp only [Function.comp_apply, capacityCheck_verdict, hinventory, requiredCapacity, entitlement_reordered h]
  have hlast : [hostQuotaCheck rt' virtualNodeClass', storageCheck rt' cell' virtualNodeClass',
    nodePortCheck rt' cell'].map
        PlanCheck.verdict =
      [hostQuotaCheck rt virtualNodeClass, storageCheck rt cell virtualNodeClass, nodePortCheck rt cell].map
        PlanCheck.verdict := by
    have hcheck : (storageCheck rt' cell' virtualNodeClass').verdict =
      (storageCheck rt cell virtualNodeClass).verdict := by
      rw [storageCheck_verdict, storageCheck_verdict, hstorage, hstorageClass]
    simp only [List.map_cons, List.map_nil, hostQuotaCheck_reordered rt rt' h, nodePortCheck_reordered rt rt' h, hcheck]
  have hresolves : (∃ snap, resolveVirtualCluster Γ cell' virtualNodeClass' = .ok snap) ↔
      ∃ snap, resolveVirtualCluster Γ cell virtualNodeClass = .ok snap := by
    simp only [resolveVirtualCluster_ok_iff, exists_and_left, exists_eq, and_true, resolves_reordered h]
  unfold planChecks
  dsimp only
  cases hok : resolveVirtualCluster Γ cell virtualNodeClass with
  | ok snap =>
    obtain ⟨snap', hok'⟩ := hresolves.mpr ⟨snap, hok⟩
    rw [hok']
    change _ :: (generalChecks rt' cell' ++ computeChecks rt' cell' virtualNodeClass' ++ _).map PlanCheck.verdict =
      _ :: (generalChecks rt cell ++ computeChecks rt cell virtualNodeClass ++ _).map PlanCheck.verdict
    rw [List.map_append, List.map_append, List.map_append, List.map_append, hgeneral, hcompute, hlast]
    rfl
  | error e =>
    cases hok' : resolveVirtualCluster Γ cell' virtualNodeClass' with
    | ok snap' =>
      obtain ⟨snap, hsome⟩ := hresolves.mp ⟨snap', hok'⟩
      rw [hok] at hsome
      cases hsome
    | error e' =>
      exact congrArg (_ :: ·) hgeneral

end Order

end EvaluationAux

open EvaluationAux

/-- The checks are sorted by different names and decide the evaluation; and neither the decision nor what a check says
depends on the order of maps, of nodes or of ports. -/
theorem evaluation_decides (Γ : Ctx) (rt : Runtime) (cell : Cell) (virtualNodeClass : VirtualNodeClass) :
    Decides (evaluateVirtualClusterPlan Γ rt cell virtualNodeClass) ∧
      ∀ rt' cell' virtualNodeClass', Reordered cell cell' virtualNodeClass virtualNodeClass' →
        (evaluateVirtualClusterPlan Γ rt' cell' virtualNodeClass').decision =
            (evaluateVirtualClusterPlan Γ rt cell virtualNodeClass).decision ∧
          (evaluateVirtualClusterPlan Γ rt' cell' virtualNodeClass').checks.map PlanCheck.verdict =
            (evaluateVirtualClusterPlan Γ rt cell virtualNodeClass).checks.map PlanCheck.verdict := by
  refine ⟨?_, fun rt' cell' virtualNodeClass' h => ?_⟩
  · constructor
    case sorted => exact checks_sorted Γ rt cell virtualNodeClass
    case rejected => rw [decision_eq, planDecision_rejected_iff]
    case unknown => rw [decision_eq, planDecision_unknown_iff (checks_ne_nil Γ rt cell virtualNodeClass)]
    case accepted => rw [decision_eq, planDecision_accepted_iff (checks_ne_nil Γ rt cell virtualNodeClass)]
  · have hverdicts := planChecks_reordered Γ rt rt' h
    exact ⟨decision_of_verdicts hverdicts, by rw [verdicts_eq, verdicts_eq, hverdicts]⟩

/-! ## Monotony -/

/-- The class asks for a part of what another asks for, with the same storage. -/
structure Smaller (virtualNodeClass' virtualNodeClass : VirtualNodeClass) : Prop where
  workloadHard : ∀ key q', AList.lookup key virtualNodeClass'.spec.workloadHard = some q' →
    ∃ q, AList.lookup key virtualNodeClass.spec.workloadHard = some q ∧ q'.value ≤ q.value
  storageClassName : virtualNodeClass'.spec.storageClassName = virtualNodeClass.spec.storageClassName

/-- A node has no less room than another status says. -/
structure Roomier (node' node : CellNodeStatus) : Prop where
  name : node'.name = node.name
  profile : node'.profile = node.profile
  ready : node'.ready = node.ready
  allocatable : ∀ name, (node.allocatable.qty name).value ≤ (node'.allocatable.qty name).value
  activeRequested : ∀ name, (node'.activeRequested.qty name).value ≤ (node.activeRequested.qty name).value

/-- The storage of a class has no less free capacity on any node than another status says. -/
structure Freer (storage' storage : StorageInventoryStatus) : Prop where
  freeCapacityKnown : storage'.freeCapacityKnown = storage.freeCapacityKnown
  fresh : storage'.fresh = storage.fresh
  freeCapacity : storage'.freeCapacity.isSome = storage.freeCapacity.isSome
  nodes : ∀ nodeName node, AList.lookup nodeName storage.nodes = some node →
    ∃ node', AList.lookup nodeName storage'.nodes = some node' ∧ node'.freeCapacityKnown = node.freeCapacityKnown ∧
      node'.fresh = node.fresh ∧ ∀ free, node.freeCapacity = some free → ∃ free', node'.freeCapacity = some free' ∧
        free.value ≤ free'.value

/-- A status with no less room than another, and otherwise the same as far as plans look at it. -/
structure Improves (status' status : CellStatus) : Prop where
  phase : status'.phase = status.phase
  conditions : status'.conditions = status.conditions
  managedCluster : status'.managedCluster = status.managedCluster
  provider : status'.provider = status.provider
  inventory : ∀ name,
    (inventoryEntry status.inventory name).allocatable.value ≤
      (inventoryEntry status'.inventory name).allocatable.value ∧
      (inventoryEntry status.inventory name).availableEstimate.value ≤
        (inventoryEntry status'.inventory name).availableEstimate.value
  nodes : ∀ node ∈ status.nodes, ∃ node' ∈ status'.nodes, Roomier node' node
  storageInventory : ∀ key storage, AList.lookup key status.storageInventory = some storage →
    ∃ storage', AList.lookup key status'.storageInventory = some storage' ∧ Freer storage' storage
  portsFresh : status'.nodePorts.fresh = status.nodePorts.fresh
  allocated : status'.nodePorts.allocated ⊆ status.nodePorts.allocated

/-- The inventory of a status has no negative amounts. -/
def CellStatus.NonNegative (status : CellStatus) : Prop :=
  ∀ name, 0 ≤ (inventoryEntry status.inventory name).allocatable.value ∧
    0 ≤ (inventoryEntry status.inventory name).availableEstimate.value

namespace EvaluationAux

section Monotony
variable {rt rt' : Runtime} {cell cell' : Cell} {virtualNodeClass virtualNodeClass' : VirtualNodeClass}

/-- A smaller class is entitled to no more of any resource. -/
theorem entitlement_le (hclass : validateVirtualNodeClassSpec virtualNodeClass.spec = [])
    (h : Smaller virtualNodeClass' virtualNodeClass) (name : String) :
    ((entitlementRequests virtualNodeClass'.spec.workloadHard).qty name).value ≤
      ((entitlementRequests virtualNodeClass.spec.workloadHard).qty name).value := by
  cases hq' : AList.lookup ("requests." ++ name) virtualNodeClass'.spec.workloadHard with
  | some q' =>
    obtain ⟨q, hq, hle⟩ := h.workloadHard _ _ hq'
    rwa [qty_entitlementRequests hq', qty_entitlementRequests hq]
  | none =>
    rw [ResourceList.qty, lookup_entitlementRequests, hq', Option.getD_none, Quantity.zero_value]
    cases hq : AList.lookup ("requests." ++ name) virtualNodeClass.spec.workloadHard with
    | some q =>
      rw [qty_entitlementRequests hq]
      exact le_of_lt (validEntry_of_request hclass hq).positive
    | none => rw [ResourceList.qty, lookup_entitlementRequests, hq, Option.getD_none, Quantity.zero_value]

/-- A smaller class still fits a Cell with more room. -/
theorem capacityCheck_mono (hclass : validateVirtualNodeClassSpec virtualNodeClass.spec = [])
    (hsmaller : Smaller virtualNodeClass' virtualNodeClass) (hnonneg : cell.status.NonNegative)
    (himproves : Improves cell'.status cell.status) {name : String}
    (h : (capacityCheck rt (nameToPlanCheck name) (inventoryEntry cell.status.inventory name)
      (requiredCapacity virtualNodeClass name)).status = .passed) :
    (capacityCheck rt' (nameToPlanCheck name) (inventoryEntry cell'.status.inventory name)
      (requiredCapacity virtualNodeClass' name)).status = .passed := by
  have hentitled := entitlement_le hclass hsmaller name
  obtain ⟨hallocatable, havailable⟩ := himproves.inventory name
  obtain ⟨hpos, hpos'⟩ := hnonneg name
  rw [capacityCheck_passed_iff] at h ⊢
  simp only [requiredCapacity, Quantity.add_value] at h ⊢
  omega

theorem acceleratorCheck_mono (hclass : validateVirtualNodeClassSpec virtualNodeClass.spec = [])
    (hclass' : validateVirtualNodeClassSpec virtualNodeClass'.spec = []) (hspec : cell'.spec = cell.spec)
    (hsmaller : Smaller virtualNodeClass' virtualNodeClass) (himproves : Improves cell'.status cell.status)
    (h : (acceleratorCheck rt cell cell.spec.machineProfile.name
      (acceleratorRequests cell virtualNodeClass)).status = .passed) :
    (acceleratorCheck rt' cell' cell'.spec.machineProfile.name
      (acceleratorRequests cell' virtualNodeClass')).status = .passed := by
  rw [acceleratorCheck, acceleratorLoop_passed_iff] at h ⊢
  rintro ⟨name, q'⟩ hrequest hne
  obtain ⟨hdeclared, rfl⟩ := (lookup_acceleratorRequests ..).mp ((rt'.mem_range _ _ _).mp hrequest)
  rw [hspec] at hdeclared
  have hle := entitlement_le hclass hsmaller name
  have hpositive : 0 < ((entitlementRequests virtualNodeClass'.spec.workloadHard).qty name).value := by
    cases hq : AList.lookup ("requests." ++ name) virtualNodeClass'.spec.workloadHard with
    | some q =>
      rw [qty_entitlementRequests hq]
      exact (validEntry_of_request hclass' hq).positive
    | none =>
      rw [ResourceList.qty, lookup_entitlementRequests, hq] at hne
      exact absurd rfl hne
  obtain ⟨node, hnode, hcovers⟩ := h (name, (entitlementRequests virtualNodeClass.spec.workloadHard).qty name)
    ((rt.mem_range _ _ _).mpr ((lookup_acceleratorRequests ..).mpr ⟨hdeclared, rfl⟩))
      (ne_of_gt (lt_of_lt_of_le hpositive hle))
  obtain ⟨hmem, hready⟩ := List.mem_filter.mp hnode
  obtain ⟨node', hmem', hroomier⟩ := himproves.nodes node hmem
  refine ⟨node', List.mem_filter.mpr ⟨hmem', ?_⟩, ?_⟩
  · rw [hroomier.ready, hroomier.profile, hspec]
    exact hready
  · have hallocatable := hroomier.allocatable name
    have hactive := hroomier.activeRequested name
    have hcovers := of_decide_eq_true hcovers
    refine decide_eq_true ?_
    rw [Quantity.sub_value] at hcovers ⊢
    dsimp only at hcovers ⊢
    omega

theorem storageCheck_mono (hsmaller : Smaller virtualNodeClass' virtualNodeClass)
    (himproves : Improves cell'.status cell.status) (h : (storageCheck rt cell virtualNodeClass).status = .passed) :
    (storageCheck rt' cell' virtualNodeClass').status = .passed := by
  rw [← PlanCheck.verdict_status, storageCheck_verdict] at h ⊢
  rw [hsmaller.storageClassName]
  cases hstorage : AList.lookup virtualNodeClass.spec.storageClassName cell.status.storageInventory with
  | none =>
    rw [hstorage] at h
    nomatch h
  | some storage =>
    obtain ⟨storage', hstorage', hfreer⟩ := himproves.storageInventory _ _ hstorage
    rw [hstorage] at h
    rw [hstorage']
    dsimp only at h ⊢
    split_ifs at h with hunknown hfree
    have hknown : ¬(!storage'.freeCapacityKnown || !storage'.fresh || storage'.freeCapacity.isNone) = true := by
      rwa [hfreer.freeCapacityKnown, hfreer.fresh, ← Option.not_isSome, hfreer.freeCapacity, Option.not_isSome]
    have hfree' : hasFreeNode storage' = true := by
      obtain ⟨⟨nodeName, node⟩, hnode, hnodeFree⟩ := List.any_eq_true.mp hfree
      simp only [Bool.and_eq_true, Option.any_eq_true, decide_eq_true_eq] at hnodeFree
      obtain ⟨⟨hnodeKnown, hnodeFresh⟩, free, hfreeCapacity, hpositive⟩ := hnodeFree
      obtain ⟨node', hnode', hknown', hfresh', hmore⟩ := hfreer.nodes nodeName node (AList.mem_lookup_iff.mpr hnode)
      obtain ⟨free', hfreeCapacity', hle⟩ := hmore free hfreeCapacity
      refine List.any_eq_true.mpr ⟨⟨nodeName, node'⟩, AList.mem_lookup_iff.mp hnode', ?_⟩
      simp only [Bool.and_eq_true, Option.any_eq_true, decide_eq_true_eq]
      exact ⟨⟨hknown'.trans hnodeKnown, hfresh'.trans hnodeFresh⟩, free', hfreeCapacity', lt_of_lt_of_le hpositive hle⟩
    rw [if_neg hknown, if_pos hfree']

theorem nodePortCheck_mono (himproves : Improves cell'.status cell.status)
    (h : (nodePortCheck rt cell).status = .passed) :
    (nodePortCheck rt' cell').status = .passed := by
  obtain ⟨hfresh, port, hmin, hmax, hfree⟩ := (nodePortCheck_passed_iff rt cell).mp h
  refine (nodePortCheck_passed_iff rt' cell').mpr ⟨himproves.portsFresh.trans hfresh, port, hmin, hmax, ?_⟩
  exact fun hmem => hfree (himproves.allocated hmem)

end Monotony
end EvaluationAux

/-- A plan that is accepted is accepted for a smaller class, and on a Cell with more room. -/
theorem accepted_mono (Γ : Ctx) (rt rt' : Runtime) (cell cell' : Cell)
    (virtualNodeClass virtualNodeClass' : VirtualNodeClass)
    (hclass : validateVirtualNodeClassSpec virtualNodeClass.spec = [])
    (hclass' : validateVirtualNodeClassSpec virtualNodeClass'.spec = []) (hspec : cell'.spec = cell.spec)
    (hresolves : ∃ snap, resolveVirtualCluster Γ cell' virtualNodeClass' = .ok snap)
    (hsmaller : Smaller virtualNodeClass' virtualNodeClass) (hnonneg : cell.status.NonNegative)
    (himproves : Improves cell'.status cell.status)
    (haccepted : (evaluateVirtualClusterPlan Γ rt cell virtualNodeClass).decision = .accepted) :
    (evaluateVirtualClusterPlan Γ rt' cell' virtualNodeClass').decision = .accepted := by
  obtain ⟨snap, hok⟩ := resolves_of_accepted haccepted
  obtain ⟨snap', hok'⟩ := hresolves
  have hpassed := (accepted_iff ..).mp haccepted
  rw [accepted_iff]
  simp only [planChecks, hok, hok'] at hpassed ⊢
  have hgeneral : ∀ check ∈ generalChecks rt' cell', check.status = .passed := by
    intro check hcheck
    have hverdict : check.verdict ∈ (generalChecks rt cell).map PlanCheck.verdict := by
      rw [← generalChecks_congr rt rt' himproves.phase himproves.conditions himproves.managedCluster himproves.provider]
      exact List.mem_map_of_mem hcheck
    obtain ⟨original, horiginal, hsame⟩ := List.mem_map.mp hverdict
    rw [← PlanCheck.verdict_status, ← hsame]
    exact hpassed original (List.mem_append_left _ (List.mem_append_left _ (List.mem_cons_of_mem _ horiginal)))
  have hcapacity : ∀ name ∈ baseResources,
    (capacityCheck rt' (nameToPlanCheck name) (inventoryEntry cell'.status.inventory name)
      (requiredCapacity virtualNodeClass' name)).status = .passed := fun name hname =>
    capacityCheck_mono hclass hsmaller hnonneg himproves (hpassed _
      (List.mem_append_left _ (List.mem_append_right _ (List.mem_append_left _ (List.mem_map_of_mem hname)))))
  have haccelerators : (acceleratorCheck rt' cell' cell'.spec.machineProfile.name
      (acceleratorRequests cell' virtualNodeClass')).status = .passed :=
    acceleratorCheck_mono hclass hclass' hspec hsmaller himproves (hpassed _
      (List.mem_append_left _ (List.mem_append_right _ (List.mem_append_right _ (List.mem_singleton_self _)))))
  have hstorage : (storageCheck rt' cell' virtualNodeClass').status = .passed :=
    storageCheck_mono hsmaller himproves (hpassed (storageCheck rt cell virtualNodeClass) (by simp))
  have hports : (nodePortCheck rt' cell').status = .passed :=
    nodePortCheck_mono himproves (hpassed (nodePortCheck rt cell) (by simp))
  intro check hcheck
  rcases List.mem_append.mp hcheck with hcheck | hcheck
  · rcases List.mem_append.mp hcheck with hcheck | hcheck
    · rcases List.mem_cons.mp hcheck with rfl | hcheck
      · rfl
      · exact hgeneral check hcheck
    · rcases List.mem_append.mp hcheck with hcheck | hcheck
      · obtain ⟨name, hname, rfl⟩ := List.mem_map.mp hcheck
        exact hcapacity name hname
      · rw [List.mem_singleton.mp hcheck]
        exact haccelerators
  · simp only [List.mem_cons, List.not_mem_nil, or_false] at hcheck
    rcases hcheck with rfl | rfl | rfl
    · exact hostQuotaCheck_of_valid rt' hclass'
    · exact hstorage
    · exact hports

namespace EvaluationAux

/-- The Cell of the samples, with a node of the given number of processors that runs nothing. -/
def roomyCell (cpu : Int) : Cell :=
  (projectInventory sampleCtx sampleRuntime sampleCell sampleReader [sampleNode cpu] (some []) []).1

/-- A class that is entitled to one processor. -/
def tinyClass : VirtualNodeClass :=
  { sampleClass with
    spec.workloadHard := GoMap.ofList
      [("requests.cpu", .newQuantity 1 .decimalSI), ("limits.cpu", .newQuantity 1 .decimalSI)] }

/-- A list of resources has no more of any resource than another when each of its entries has no more. -/
theorem qty_le_of_entries {l l' : ResourceList} (hnonneg : ∀ e ∈ l'.entries, 0 ≤ e.2.value)
    (h : ∀ e ∈ l.entries, e.2.value ≤ (l'.qty e.1).value) (name : String) :
    (l.qty name).value ≤ (l'.qty name).value := by
  cases hq : AList.lookup name l with
  | some q =>
    rw [ResourceList.qty, hq]
    exact h ⟨name, q⟩ (AList.mem_lookup_iff.mp hq)
  | none =>
    rw [ResourceList.qty, hq, ResourceList.qty]
    cases hq' : AList.lookup name l' with
    | none => exact le_refl _
    | some q' => exact hnonneg ⟨name, q'⟩ (AList.mem_lookup_iff.mp hq')

/-- A status has no negative amounts when its entries have none. -/
theorem nonNegative_of_entries {status : CellStatus}
    (h : ∀ e ∈ status.inventory.entries, 0 ≤ e.2.allocatable.value ∧ 0 ≤ e.2.availableEstimate.value) :
    status.NonNegative := by
  intro name
  unfold inventoryEntry
  cases hentry : AList.lookup name status.inventory with
  | none => exact ⟨le_refl _, le_refl _⟩
  | some entry => exact h ⟨name, entry⟩ (AList.mem_lookup_iff.mp hentry)

/-- The tiny class of the sample is smaller. -/
theorem tinyClass_smaller : Smaller tinyClass sampleClass := by
  refine ⟨fun key q' hq' => ?_, rfl⟩
  have hentries : ∀ e ∈ tinyClass.spec.workloadHard.entries,
      (AList.lookup e.1 sampleClass.spec.workloadHard).any (fun q => decide (e.2.value ≤ q.value)) =
        true := by decide +kernel
  obtain ⟨q, hq, hle⟩ := (Option.any_eq_true ..).mp (hentries ⟨key, q'⟩ (AList.mem_lookup_iff.mp hq'))
  exact ⟨q, hq, of_decide_eq_true hle⟩

/-- A status has no less room than another when no entry has less and the storage is the same. -/
theorem improves_of_entries {status' status : CellStatus} (hnonneg : status'.NonNegative)
    (hsame : status'.phase = status.phase ∧ status'.conditions = status.conditions ∧
      status'.managedCluster = status.managedCluster ∧ status'.provider = status.provider ∧
        status'.nodePorts = status.nodePorts ∧ status'.storageInventory = status.storageInventory)
    (hinventory : ∀ e ∈ status.inventory.entries, e.2.allocatable.value ≤
      (inventoryEntry status'.inventory e.1).allocatable.value ∧ e.2.availableEstimate.value ≤
        (inventoryEntry status'.inventory e.1).availableEstimate.value)
    (hnodes : ∀ node ∈ status.nodes, ∃ node' ∈ status'.nodes, Roomier node' node) : Improves status' status := by
  obtain ⟨hphase, hconditions, hmanagedCluster, hprovider, hports, hstorage⟩ := hsame
  refine ⟨hphase, hconditions, hmanagedCluster, hprovider, fun name => ?_, hnodes, fun key storage hkey => ?_, ?_, ?_⟩
  · cases hentry : AList.lookup name status.inventory with
    | some entry =>
      rw [inventoryEntry, hentry]
      exact hinventory ⟨name, entry⟩ (AList.mem_lookup_iff.mp hentry)
    | none =>
      rw [inventoryEntry, hentry]
      exact hnonneg name
  · rw [hstorage]
    exact ⟨storage, hkey, rfl, rfl, rfl, fun _ node hnode =>
      ⟨node, hnode, rfl, rfl, fun free hfree => ⟨free, hfree, le_refl _⟩⟩⟩
  · rw [hports]
  · rw [hports]
    exact List.Subset.refl _

/-- A node of eight processors is roomier than one of four. -/
theorem roomyCell_improves : Improves (roomyCell 8).status (roomyCell 4).status := by
  refine improves_of_entries (nonNegative_of_entries (by decide +kernel)) ⟨rfl, rfl, rfl, rfl, rfl, rfl⟩
    (by decide +kernel) ?_
  intro node hnode
  have hentries : ∀ node ∈ (roomyCell 4).status.nodes, ∃ node' ∈ (roomyCell 8).status.nodes,
      (node'.name = node.name ∧ node'.profile = node.profile ∧ node'.ready = node.ready) ∧
        ((∀ e ∈ node'.allocatable.entries, 0 ≤ e.2.value) ∧
          ∀ e ∈ node.allocatable.entries, e.2.value ≤ (node'.allocatable.qty e.1).value) ∧
        (∀ e ∈ node.activeRequested.entries, 0 ≤ e.2.value) ∧
          ∀ e ∈ node'.activeRequested.entries, e.2.value ≤ (node.activeRequested.qty e.1).value := by decide +kernel
  obtain ⟨node', hnode', ⟨hname, hprofile, hready⟩, ⟨hnonneg, hallocatable⟩, hnonneg',
    hrequested⟩ := hentries node hnode
  exact ⟨node', hnode', hname, hprofile, hready, qty_le_of_entries hnonneg hallocatable,
    qty_le_of_entries hnonneg' hrequested⟩

end EvaluationAux

/-- A Cell that accepts a class of two processors accepts, with a larger node, one of one processor. -/
theorem accepted_mono_sample :
    (evaluateVirtualClusterPlan sampleCtx sampleRuntime (roomyCell 8) tinyClass).decision = .accepted := by
  have hresolves : ∃ snap, resolveVirtualCluster sampleCtx (roomyCell 8) tinyClass = .ok snap := by
    cases hok : resolveVirtualCluster sampleCtx (roomyCell 8) tinyClass with
    | ok snap => exact ⟨snap, rfl⟩
    | error e =>
      have hisOk : (resolveVirtualCluster sampleCtx (roomyCell 8) tinyClass).isOk = true := by decide +kernel
      rw [hok] at hisOk
      nomatch hisOk
  exact accepted_mono sampleCtx sampleRuntime sampleRuntime (roomyCell 4) (roomyCell 8) sampleClass tinyClass
    (by decide +kernel)
    (by decide +kernel) rfl hresolves tinyClass_smaller (nonNegative_of_entries (by decide +kernel)) roomyCell_improves
    (by decide +kernel)

end KubeCell
