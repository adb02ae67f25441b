import KubeCell.Lemmas.Evaluator
import KubeCell.Lemmas.Names
import KubeCell.Lemmas.Resolution
import KubeCell.Render

/-!
# Accepted plans

What an accepted plan says about the Cell and the class, and what it does not say: whether the quota that is rendered
for the class has room for the control plane that is rendered beside it.
-/

namespace KubeCell

open EvaluatorAux NamesAux ResolutionAux

/-- The Cell can host what the class entitles to, as far as its status tells. -/
structure PlanSound (cell : Cell) (virtualNodeClass : VirtualNodeClass) : Prop where
  ready : cell.status.phase = .ready
  managedCluster : cell.status.managedCluster.joined = true ∧ cell.status.managedCluster.available = true ∧
    cell.status.managedCluster.leaseFresh = true
  baseline : cell.status.provider.namespaceReady = true ∧ cell.status.provider.k3kCRDsReady = true ∧
    cell.status.provider.controllerReady = true ∧ cell.status.provider.cniReady = true ∧
      cell.status.provider.topoLVMReady = true
  inventory : conditionTrue cell.status.conditions "InventoryFresh" = true
  base : ∀ name ∈ baseResources, ∀ q, AList.lookup ("requests." ++ name) virtualNodeClass.spec.workloadHard = some q →
    q.value + (Platform.combinedReservation.qty name).value ≤
      (inventoryEntry cell.status.inventory name).availableEstimate.value
  devices : ∀ name ∉ baseResources, ∀ q,
    AList.lookup ("requests." ++ name) virtualNodeClass.spec.workloadHard = some q →
    (∃ device ∈ cell.spec.machineProfile.devices, device.resourceName = name) ∧
      ∃ node ∈ cell.status.nodes, node.ready = true ∧ node.profile = cell.spec.machineProfile.name ∧
        q.value ≤ (node.allocatable.qty name).value - (node.activeRequested.qty name).value
  storage : ∃ storage nodeName node free,
    AList.lookup virtualNodeClass.spec.storageClassName cell.status.storageInventory = some storage ∧
    AList.lookup nodeName storage.nodes = some node ∧ node.freeCapacityKnown = true ∧ node.fresh = true ∧
    node.freeCapacity = some free ∧ 0 < free.value
  nodePort : ∃ port, Platform.nodePortMin ≤ port ∧ port ≤ Platform.nodePortMax ∧ port ∉ cell.status.nodePorts.allocated

namespace PlanAux

variable {rt : Runtime} {cell : Cell} {virtualNodeClass : VirtualNodeClass} {name : String} {q : Quantity}

/-- A check that passes unless something is missing passes when nothing is. -/
theorem unlessUnknown_passed {holds : Bool} {r m r' m' : String}
    (h : (unlessUnknown rt name holds r m r' m').status = .passed) :
    holds = true := by
  unfold unlessUnknown at h
  split_ifs at h with hholds
  · exact hholds
  · nomatch h

/-- An extended resource that a class is entitled to, and that resolves, is declared by the Cell. -/
theorem declared_of_resolves (hresolves : Resolves cell virtualNodeClass)
    (hextended : isExtendedResourceName name = true)
    {limit : Quantity} (hlimit : AList.lookup ("limits." ++ name) virtualNodeClass.spec.workloadHard = some limit) :
    ∃ device ∈ cell.spec.machineProfile.devices, device.resourceName = name := by
  have hchecked := hresolves.entitlements ⟨"limits." ++ name, limit⟩ (AList.mem_lookup_iff.mp hlimit)
  rw [checkDeviceEntitlement, if_neg (by simp [hasPrefix_append]), quotaBaseName_limits,
    isExtendedBaseName_of_extended hextended,
    if_neg (by decide)] at hchecked
  split_ifs at hchecked with hdeclared
  simpa using hdeclared

/-- The storage check passes when some node has free capacity. -/
theorem storage_of_passed (h : (storageCheck rt cell virtualNodeClass).status = .passed) :
    ∃ storage nodeName node free, AList.lookup virtualNodeClass.spec.storageClassName
      cell.status.storageInventory = some storage ∧
      AList.lookup nodeName storage.nodes = some node ∧ node.freeCapacityKnown = true ∧ node.fresh = true ∧
      node.freeCapacity = some free ∧ 0 < free.value := by
  unfold storageCheck at h
  cases hstorage : AList.lookup virtualNodeClass.spec.storageClassName cell.status.storageInventory with
  | none =>
    rw [hstorage] at h
    nomatch h
  | some storage =>
    rw [hstorage] at h
    dsimp only at h
    split_ifs at h with hunknown hfree
    · nomatch h
    · obtain ⟨⟨nodeName, node⟩, hnode, hknown⟩ := List.any_eq_true.mp hfree
      simp only [Bool.and_eq_true, Option.any_eq_true, decide_eq_true_eq] at hknown
      obtain ⟨⟨hknown, hfresh⟩, free, hfree, hpositive⟩ := hknown
      exact ⟨storage, nodeName, node, free, rfl, (rt.mem_range _ _ _).mp hnode, hknown, hfresh, hfree, hpositive⟩
    · nomatch h

/-- The check of accelerators passes when every declared device that the class is entitled to is
covered by some node. -/
theorem accelerator_of_passed
    (h : (acceleratorCheck rt cell cell.spec.machineProfile.name
      (acceleratorRequests cell virtualNodeClass)).status = .passed)
    (hdeclared : ∃ device ∈ cell.spec.machineProfile.devices, device.resourceName = name)
    (hq : AList.lookup ("requests." ++ name) virtualNodeClass.spec.workloadHard = some q) (hpositive : 0 < q.value) :
    ∃ node ∈ cell.status.nodes, node.ready = true ∧ node.profile = cell.spec.machineProfile.name ∧
      q.value ≤ (node.allocatable.qty name).value - (node.activeRequested.qty name).value := by
  have hrequest : (name, q) ∈ rt.range (acceleratorRequests cell virtualNodeClass) :=
    (rt.mem_range _ _ _).mpr ((lookup_acceleratorRequests ..).mpr ⟨hdeclared, (qty_entitlementRequests hq).symm⟩)
  obtain ⟨node, hnode, hcovers⟩ := (acceleratorLoop_passed_iff ..).mp h _ hrequest (ne_of_gt hpositive)
  obtain ⟨hmem, hready⟩ := List.mem_filter.mp hnode
  rw [Bool.and_eq_true, beq_iff_eq] at hready
  exact ⟨node, hmem, hready.1, hready.2, of_decide_eq_true hcovers⟩

/-- The check of capacity covers the entitlement and the reservations. -/
theorem capacity_of_passed
    (h : (capacityCheck rt (nameToPlanCheck name) (inventoryEntry cell.status.inventory name)
      (requiredCapacity virtualNodeClass name)).status = .passed)
    (hq : AList.lookup ("requests." ++ name) virtualNodeClass.spec.workloadHard = some q) :
    q.value + (Platform.combinedReservation.qty name).value ≤
      (inventoryEntry cell.status.inventory name).availableEstimate.value := by
  have hcovered := ((capacityCheck_passed_iff ..).mp h).2
  rwa [requiredCapacity, Quantity.add_value, qty_entitlementRequests hq] at hcovered

end PlanAux

open PlanAux

/-- Whatever the status of the Cell and whatever class passes validation: an accepted plan is sound. -/
theorem accepted_sound (Γ : Ctx) (rt : Runtime) (cell : Cell) (virtualNodeClass : VirtualNodeClass)
    (hclass : validateVirtualNodeClassSpec virtualNodeClass.spec = [])
    (haccepted : (evaluateVirtualClusterPlan Γ rt cell virtualNodeClass).decision = .accepted) :
    PlanSound cell virtualNodeClass := by
  have hpassed := (accepted_iff ..).mp haccepted
  rw [planChecks] at hpassed
  cases hresolved : resolveVirtualCluster Γ cell virtualNodeClass with
  | error e =>
    rw [hresolved] at hpassed
    nomatch hpassed _ List.mem_cons_self
  | ok resolved =>
    obtain ⟨hresolves, -⟩ := (resolveVirtualCluster_ok_iff ..).mp hresolved
    rw [hresolved] at hpassed
    simp only [List.cons_append, List.nil_append, List.mem_cons, List.mem_append, List.not_mem_nil, or_false,
      or_imp, forall_and,
      forall_eq, computeChecks, List.mem_map, forall_exists_index, and_imp, forall_apply_eq_imp_iff₂] at hpassed
    obtain ⟨-, hcell, hlease, hbaseline, hinventory, -, ⟨hcapacity, haccelerators⟩, -, hstorage, hports⟩ := hpassed
    have hcell := unlessUnknown_passed hcell
    have hbaseline := unlessUnknown_passed hbaseline
    simp only [Bool.and_eq_true, beq_iff_eq, and_assoc] at hcell hbaseline
    refine ⟨hcell.1, ⟨hcell.2.1, hcell.2.2, unlessUnknown_passed hlease⟩, hbaseline, unlessUnknown_passed hinventory,
      fun name hname q hq => capacity_of_passed (hcapacity name hname) hq, fun name hname q hq => ?_,
        storage_of_passed hstorage,
      ((nodePortCheck_passed_iff _ _).mp hports).2⟩
    obtain ⟨hpositive, hkind, -, limit, hlimit, -⟩ := validEntry_of_request hclass hq
    have hdeclared := declared_of_resolves hresolves (hkind.resolve_left hname) hlimit
    exact ⟨hdeclared, accelerator_of_passed haccelerators hdeclared hq hpositive⟩

/-! ## The quota and the control plane -/

/-- The quantity a rendered map gives a resource; a resource that is not there counts nothing. -/
def renderedQuantity (Γ : Ctx) (rendered : StringMap) (name : String) : Quantity :=
  ((AList.lookup name rendered).bind Γ.parseQuantity).getD .zero

/-- The rendered quota has room for the rendered server and worker: for each of the quotas on processors
and memory that it has. -/
def QuotaAdmits (Γ : Ctx) (hard : StringMap) (spec : K3kClusterSpec) : Prop :=
  ∀ name ∈ ["cpu", "memory"], ∀ pre ∈ ["requests.", "limits."], (AList.lookup (pre ++ name) hard).isSome = true →
    (renderedQuantity Γ spec.serverResources name).value + (renderedQuantity Γ spec.workerResources name).value ≤
      (renderedQuantity Γ hard (pre ++ name)).value

/-- What the quantities of a list are printed as is parsed to the same values, as `ParseQuantity` does with
what `String` prints. -/
def ReadsBack (Γ : Ctx) (quantities : ResourceList) : Prop :=
  ∀ name q, AList.lookup name quantities = some q → ∃ q', Γ.parseQuantity q.string = some q' ∧ q'.value = q.value

/-- The quota of the class is, for each resource it limits, no less than the reservations. -/
def CoversReservation (virtualNodeClass : VirtualNodeClass) : Prop :=
  ∀ pre ∈ ["requests.", "limits."],
    (∀ q, AList.lookup (pre ++ "cpu") virtualNodeClass.spec.workloadHard = some q →
      (Quantity.milli 600).value ≤ q.value) ∧
      ∀ q, AList.lookup (pre ++ "memory") virtualNodeClass.spec.workloadHard = some q →
        (Quantity.mebi 1280).value ≤ q.value

namespace PlanAux

variable {Γ : Ctx}

/-- What is rendered of a quantity that is read back. -/
theorem renderedQuantity_quantityMap {quantities : ResourceList} (hreads : ReadsBack Γ quantities) (name : String) :
    (renderedQuantity Γ (quantityMap quantities) name).value = (quantities.qty name).value := by
  rw [renderedQuantity, lookup_quantityMap, ResourceList.qty]
  cases hlookup : AList.lookup name quantities with
  | none => rfl
  | some q =>
    obtain ⟨q', hparse, hvalue⟩ := hreads name q hlookup
    simp [hparse, hvalue]

end PlanAux

/-- Of every VirtualCluster that resolves, accepted or not: the rendered quota has room for the rendered server and
worker exactly when the quota of the class is no less than the reservations. -/
theorem quota_admits_iff (Γ : Ctx) (v : VirtualCluster) (cell : Cell) (virtualNodeClass : VirtualNodeClass)
    (resolved : ResolvedSnapshot) (addresses : List String) (quotaMeta clusterMeta : ObjectMeta) (hard : StringMap)
    (spec : K3kClusterSpec) (hresolves : resolveVirtualCluster Γ cell virtualNodeClass = .ok resolved)
    (hquota : .resourceQuota quotaMeta hard ∈ renderFoundation v (v.snapshot resolved) (v.renderNames addresses))
    (hcluster : renderK3kCluster v (v.snapshot resolved) (v.renderNames addresses) = .k3kCluster clusterMeta spec)
    (hreads : ReadsBack Γ virtualNodeClass.spec.workloadHard) (hserver : ReadsBack Γ Platform.controlPlaneReservation)
    (hworker : ReadsBack Γ Platform.reflectedSystemReservation) :
    QuotaAdmits Γ hard spec ↔ CoversReservation virtualNodeClass := by
  obtain ⟨-, rfl⟩ := (resolveVirtualCluster_ok_iff ..).mp hresolves
  obtain ⟨-, rfl⟩ := Manifest.k3kCluster.inj hcluster
  have hhard : hard = quantityMap virtualNodeClass.spec.workloadHard := by
    simp only [renderFoundation, List.mem_cons, reduceCtorEq, or_false, false_or, Manifest.resourceQuota.injEq,
      List.not_mem_nil] at hquota
    exact hquota.2
  subst hhard
  -- for one quota key, the rendered numbers are those of the class and of the platform
  have hkey : ∀ pre name (reservation : Quantity),
      (Platform.controlPlaneReservation.qty name).value + (Platform.reflectedSystemReservation.qty name).value =
        reservation.value →
      (((AList.lookup (pre ++ name) (quantityMap virtualNodeClass.spec.workloadHard)).isSome = true →
        (renderedQuantity Γ (quantityMap Platform.controlPlaneReservation) name).value +
            (renderedQuantity Γ (quantityMap Platform.reflectedSystemReservation) name).value ≤
          (renderedQuantity Γ (quantityMap virtualNodeClass.spec.workloadHard) (pre ++ name)).value) ↔
        ∀ q, AList.lookup (pre ++ name) virtualNodeClass.spec.workloadHard = some q → reservation.value ≤ q.value) := by
    intro pre name reservation hsum
    rw [renderedQuantity_quantityMap hserver, renderedQuantity_quantityMap hworker,
      renderedQuantity_quantityMap hreads, hsum,
      lookup_quantityMap, ResourceList.qty, Option.isSome_map]
    cases AList.lookup (pre ++ name) virtualNodeClass.spec.workloadHard with
    | none => simp
    | some q => simp
  have hcpu := fun pre => hkey pre "cpu" (.milli 600) (by decide)
  have hmemory := fun pre => hkey pre "memory" (.mebi 1280) (by decide)
  constructor
  · exact fun hadmits pre hpre => ⟨(hcpu pre).mp (hadmits "cpu" (by simp) pre hpre),
      (hmemory pre).mp (hadmits "memory" (by simp) pre hpre)⟩
  · intro hcovers name hname pre hpre
    simp only [List.mem_cons, List.not_mem_nil, or_false] at hname
    rcases hname with rfl | rfl
    · exact (hcpu pre).mpr (hcovers pre hpre).1
    · exact (hmemory pre).mpr (hcovers pre hpre).2

/-! ## A sample -/

namespace PlanAux

/-- A clock at a time, and maps visited in the order they stand in. -/
def planRuntime : Runtime := ⟨1000, id, List.Perm.refl⟩

/-- The quantities that are printed below, as `ParseQuantity` reads them; no other function of
another package is called. -/
def planCtx : Ctx where
  sha256 _ := []
  urlHostname _ := none
  parseQuantity text :=
    [("500m", Quantity.milli 500), ("1Gi", .mebi 1024), ("100m", .milli 100), ("256Mi", .mebi 256), ("50m", .milli 50),
      ("2", .newQuantity 2 .decimalSI), ("1", .newQuantity 1 .decimalSI)].lookup text

/-- A Cell that is ready, with a node of its profile that has a device. -/
def planCell : Cell :=
  let inventory : InventoryStatus := { allocatable := .mebi 16384, availableEstimate := .mebi 16384 }
  let free : StorageNodeInventoryStatus :=
    { freeCapacity := some (.mebi 65536), freeCapacityKnown := true, fresh := true }
  { metadata := { name := "cell-a", ns := managementNamespace, uid := "cell-uid" }
    spec :=
      { managedClusterRef := { name := "mc-a" }
        machineProfile := { name := "gpu", devices := [⟨"ascend", "huawei.com/Ascend910"⟩] } }
    status :=
      { phase := .ready
        conditions := [{ type := "InventoryFresh", status := .true }]
        managedCluster := { joined := true, available := true, leaseFresh := true }
        provider :=
          { k3kVersion := Platform.k3kVersion, namespaceReady := true, k3kCRDsReady := true, controllerReady := true
            cniReady := true, topoLVMReady := true }
        nodes :=
          [{ name := "node-a", profile := "gpu", ready := true
             allocatable := GoMap.ofList [("huawei.com/Ascend910", .newQuantity 8 .decimalSI)] }]
        inventory := GoMap.ofList [("cpu", inventory), ("memory", inventory), ("ephemeral-storage", inventory)]
        storageInventory := GoMap.ofList
          [("topolvm",
            { freeCapacity := some (.mebi 65536), freeCapacityKnown := true, fresh := true
              nodes := GoMap.ofList [("node-a", free)] })]
        nodePorts := { allocated := [30000], fresh := true } } }

/-- A class that entitles to some processors and to one device. -/
def planClass (cpu : Quantity) : VirtualNodeClass :=
  let one : Quantity := .newQuantity 1 .decimalSI
  { metadata := { name := "small", uid := "class-uid" }
    spec :=
      { workloadHard := GoMap.ofList
          [("requests.cpu", cpu), ("limits.cpu", cpu), ("requests.huawei.com/Ascend910", one),
            ("limits.huawei.com/Ascend910", one)]
        storageClassName := "topolvm" } }

/-- A VirtualCluster of that class. -/
def planCluster : VirtualCluster :=
  { metadata := { name := "team", ns := managementNamespace, uid := "01234567-aaaa" }
    spec := { cellRef := { name := "cell-a", ns := managementNamespace }, classRef := { name := "small" } } }

/-- A quota that is read back, entry by entry. -/
theorem readsBack_of_all {Γ : Ctx} {quantities : ResourceList}
    (hall : (quantities.entries.all fun e => (Γ.parseQuantity e.2.string).any fun q =>
      decide (q.value = e.2.value)) = true) :
    ReadsBack Γ quantities := by
  intro name q hlookup
  have hentry := List.all_eq_true.mp hall ⟨name, q⟩ (AList.mem_lookup_iff.mp hlookup)
  simp only [Option.any_eq_true, decide_eq_true_eq] at hentry
  exact hentry

/-- The rendered quota is among the rendered objects. -/
theorem resourceQuota_mem (v : VirtualCluster) (resolved : ResolvedSnapshot) (names : Names) :
    .resourceQuota (objectMeta "kubecell-workload" names.hostNamespace (v.ownedLabels resolved))
      (quantityMap resolved.quota) ∈
      renderFoundation v resolved names :=
  List.mem_cons_of_mem _ List.mem_cons_self

end PlanAux

/-- The plan of two processors and a device is accepted, and sound. -/
theorem accepted_sound_sample :
    (evaluateVirtualClusterPlan planCtx planRuntime planCell
      (planClass (.newQuantity 2 .decimalSI))).decision = .accepted ∧
      PlanSound planCell (planClass (.newQuantity 2 .decimalSI)) :=
  ⟨by decide +kernel, accepted_sound planCtx planRuntime planCell _ (by decide +kernel) (by decide +kernel)⟩

/-- A plan of 50 millis of a processor is accepted, and its quota has no room for a server of 500. -/
theorem quota_admits_false :
    ¬∀ (Γ : Ctx) (rt : Runtime) (v : VirtualCluster) (cell : Cell) (virtualNodeClass : VirtualNodeClass)
      (resolved : ResolvedSnapshot)
      (addresses : List String) (quotaMeta clusterMeta : ObjectMeta) (hard : StringMap) (spec : K3kClusterSpec),
      validateVirtualNodeClassSpec virtualNodeClass.spec = [] →
      (evaluateVirtualClusterPlan Γ rt cell virtualNodeClass).decision = .accepted →
      resolveVirtualCluster Γ cell virtualNodeClass = .ok resolved →
      .resourceQuota quotaMeta hard ∈ renderFoundation v (v.snapshot resolved) (v.renderNames addresses) →
      renderK3kCluster v (v.snapshot resolved) (v.renderNames addresses) = .k3kCluster clusterMeta spec →
      ReadsBack Γ virtualNodeClass.spec.workloadHard → ReadsBack Γ Platform.controlPlaneReservation →
      ReadsBack Γ Platform.reflectedSystemReservation → QuotaAdmits Γ hard spec := by
  intro hall
  obtain ⟨hclass, haccepted, hok⟩ : validateVirtualNodeClassSpec (planClass (.milli 50)).spec = [] ∧
      (evaluateVirtualClusterPlan planCtx planRuntime planCell (planClass (.milli 50))).decision = .accepted ∧
      (resolveVirtualCluster planCtx planCell (planClass (.milli 50))).isOk = true := by decide +kernel
  cases hresolved : resolveVirtualCluster planCtx planCell (planClass (.milli 50)) with
  | error e =>
    rw [hresolved] at hok
    nomatch hok
  | ok resolved =>
    obtain ⟨-, rfl⟩ := (resolveVirtualCluster_ok_iff ..).mp hresolved
    have hadmits := hall planCtx planRuntime planCluster planCell (planClass (.milli 50)) _
      [] _ _ _ _ hclass haccepted hresolved
      (resourceQuota_mem ..) rfl (readsBack_of_all (by decide +kernel)) (readsBack_of_all (by decide +kernel))
      (readsBack_of_all (by decide +kernel)) "cpu" (by simp) "requests." (by simp)
    exact absurd hadmits (by decide +kernel)

/-- The quota of two processors has room for them. -/
theorem quota_admits_sample :
    (evaluateVirtualClusterPlan planCtx planRuntime planCell
      (planClass (.newQuantity 2 .decimalSI))).decision = .accepted ∧
      ∃ resolved clusterMeta spec, resolveVirtualCluster planCtx planCell
        (planClass (.newQuantity 2 .decimalSI)) = .ok resolved ∧
        renderK3kCluster planCluster (planCluster.snapshot resolved)
          (planCluster.renderNames []) = .k3kCluster clusterMeta spec ∧
        QuotaAdmits planCtx (quantityMap resolved.quota) spec := by
  obtain ⟨haccepted, hok⟩ :
      (evaluateVirtualClusterPlan planCtx planRuntime planCell
        (planClass (.newQuantity 2 .decimalSI))).decision = .accepted ∧
      (resolveVirtualCluster planCtx planCell (planClass (.newQuantity 2 .decimalSI))).isOk = true := by decide +kernel
  refine ⟨haccepted, ?_⟩
  cases hresolved : resolveVirtualCluster planCtx planCell (planClass (.newQuantity 2 .decimalSI)) with
  | error e =>
    rw [hresolved] at hok
    nomatch hok
  | ok resolved =>
    refine ⟨resolved, _, _, rfl, rfl, (quota_admits_iff planCtx planCluster planCell _ resolved [] _ _ _ _ hresolved
      (resourceQuota_mem ..) rfl (readsBack_of_all (by decide +kernel)) (readsBack_of_all (by decide +kernel))
      (readsBack_of_all (by decide +kernel))).mpr fun pre hpre => ?_⟩
    simp only [List.mem_cons, List.not_mem_nil, or_false] at hpre
    rcases hpre with rfl | rfl
    · refine ⟨fun q hq => ?_, fun q hq => nomatch hq⟩
      cases hq
      decide
    · refine ⟨fun q hq => ?_, fun q hq => nomatch hq⟩
      cases hq
      decide

end KubeCell
