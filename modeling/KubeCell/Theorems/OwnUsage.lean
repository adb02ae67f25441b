import KubeCell.Lemmas.Inventory
import KubeCell.Lemmas.Evaluator
import KubeCell.Lemmas.Resolution

/-!
# A VirtualCluster and its own usage

Every round evaluates the plan again, against an inventory that now counts the pods of the VirtualCluster
itself. The evaluation asks for the whole entitlement a second time, so it keeps from rejecting only while
the Cell has room for both.
-/

namespace KubeCell

/-- Beside what `others` and `own` hold, the Cell has the whole envelope of the class left: of each resource that is
asked of the Cell as a whole, and on some ready node of the profile for each declared device the class entitles to. -/
structure RoomBeside (cell : Cell) (nodes : List Node) (clusterNames : List String)
    (virtualNodeClass : VirtualNodeClass) (others own : List Pod) : Prop where
  capacity : ∀ name ∈ baseResources,
    let allocatable := (allocatables cell.spec.machineProfile nodes name).sum
    let held := runningRequests clusterNames others name + runningRequests clusterNames own name
    held + (requiredCapacity virtualNodeClass name).value ≤ allocatable ∨
      (requiredCapacity virtualNodeClass name).value ≤ 0 ∨
      (allocatable = 0 ∧ allocatable ≤ held)
  devices : ∀ device ∈ cell.spec.machineProfile.devices,
    let required := ((entitlementRequests virtualNodeClass.spec.workloadHard).qty device.resourceName).value
    required ≠ 0 → ∃ node ∈ nodes, profileNodeReady cell.spec.machineProfile node = true ∧
      runningOn clusterNames others node.metadata.name device.resourceName +
        runningOn clusterNames own node.metadata.name device.resourceName + required ≤
          (node.allocatable.qty device.resourceName).value

open EvaluatorAux InventoryAux ResolutionAux

namespace OwnUsageAux

/-! ## The parts of the projected Cell that the evaluation looks at -/

/-- The names of the ready nodes are found in the names and the readiness of the nodes. -/
theorem eligibleNodes_congr {statuses statuses' : List CellNodeStatus}
    (h : statuses.map (fun status => (status.name, status.ready)) = statuses'.map fun status =>
      (status.name, status.ready)) :
    eligibleNodes statuses = eligibleNodes statuses' := by
  have hnames : ∀ l : List CellNodeStatus, (l.filter (·.ready)).map (·.name) =
      ((l.map fun status => (status.name, status.ready)).filter (·.2)).map (·.1) := fun l => by
    rw [List.filter_map, List.map_map]
    rfl
  rw [eligibleNodes, eligibleNodes, hnames, hnames, h]

/-- So is whether some node is ready. -/
theorem any_ready_congr {statuses statuses' : List CellNodeStatus}
    (h : statuses.map (fun status => (status.name, status.ready)) = statuses'.map fun status =>
      (status.name, status.ready)) :
    statuses.any (·.ready) = statuses'.any (·.ready) := by
  have hany : ∀ l : List CellNodeStatus, l.any (·.ready) = (l.map fun status => (status.name, status.ready)).any
    (·.2) := fun l => by
    rw [List.any_map]
    rfl
  rw [hany, hany, h]

/-- The node ports of the projection depend on neither the pods nor the clock, their time apart. -/
theorem projectInventory_nodePorts (Γ : Ctx) (rt rt' : Runtime) (cell : Cell) (reader : InventoryReader)
    (nodes : List Node) (pods pods' : Option (List Pod)) (clusterNames : List String) :
    let ports := (projectInventory Γ rt cell reader nodes pods clusterNames).1.status.nodePorts
    let ports' := (projectInventory Γ rt' cell reader nodes pods' clusterNames).1.status.nodePorts
    ports.fresh = ports'.fresh ∧ ports.allocated = ports'.allocated := by
  have hnodes : (projectNodes rt cell nodes pods clusterNames).status.nodes.map
    (fun status => (status.name, status.ready)) =
      (projectNodes rt' cell nodes pods' clusterNames).status.nodes.map fun status => (status.name, status.ready) := by
    simp only [projectNodes]
    rw [sortNodes_map, sortNodes_map]
  have hready := any_ready_congr hnodes
  unfold projectInventory
  dsimp only
  rw [hready]
  split_ifs with hnone
  · exact ⟨rfl, rfl⟩
  · cases reader.storage with
    | none => exact ⟨rfl, rfl⟩
    | some storage =>
      have hfailure := projectStorageInventory_failure Γ rt rt' storage nodes (eligibleNodes_congr hnodes)
      dsimp only
      cases hf : (projectStorageInventory Γ rt storage nodes
        (projectNodes rt cell nodes pods clusterNames).status.nodes).failure <;>
        cases hf' : (projectStorageInventory Γ rt' storage nodes
          (projectNodes rt' cell nodes pods' clusterNames).status.nodes).failure <;> simp only [hf, hf'] at hfailure
      · rcases reader.services with _ | e | services <;> exact ⟨rfl, rfl⟩
      · cases hfailure
      · cases hfailure
      · exact ⟨rfl, rfl⟩

/-! ## The checks that can fail, on a projected Cell -/

/-- The ready nodes of the profile, of the projection. -/
theorem mem_profileNodes (rt : Runtime) (cell : Cell) (nodes : List Node) (pods : List Pod) (clusterNames : List String)
    (status : CellNodeStatus) :
    status ∈ (projectNodes rt cell nodes (some pods) clusterNames).status.nodes.filter
        (fun node => node.ready && node.profile == cell.spec.machineProfile.name) ↔
      ∃ node ∈ nodes, profileNodeReady cell.spec.machineProfile node = true ∧
        status = nodeStatus rt cell.spec.machineProfile (pods.foldl (accountPod clusterNames) {}) node := by
  rw [List.mem_filter, Bool.and_eq_true, ← and_assoc, mem_projectNodes_ready]
  constructor
  · exact fun h => h.1
  · rintro ⟨node, hnode, hready, rfl⟩
    refine ⟨⟨node, hnode, hready, rfl⟩, ?_⟩
    rw [nodeStatus_of_ready rt _ hready]
    simp [observeNode]

/-- A ready node of the projection covers a request for a device when what is not held there does. -/
theorem nodeCovers_nodeStatus (rt : Runtime) {profile : MachineProfile} (clusterNames : List String) (pods : List Pod)
    {node : Node} (hready : profileNodeReady profile node = true) {device : DeviceContract}
    (hdevice : device ∈ profile.devices) (required : Quantity) :
    nodeCovers device.resourceName required
      (nodeStatus rt profile (pods.foldl (accountPod clusterNames) {}) node) = true ↔
      runningOn clusterNames pods node.metadata.name device.resourceName + required.value ≤
        (node.allocatable.qty device.resourceName).value := by
  have hmem : device.resourceName ∈ baseResources ++ profile.devices.map (·.resourceName) :=
    List.mem_append_right _ (List.mem_map_of_mem hdevice)
  have hactive := accountPods_active clusterNames pods {} node.metadata.name device.resourceName
  have hzero : nodeQty (∅ : GoMap ResourceList) node.metadata.name device.resourceName = 0 := rfl
  rw [show ({} : PodAccount).activeByNode = ∅ from rfl, hzero, zero_add, nodeQty] at hactive
  rw [nodeCovers, decide_eq_true_iff, nodeStatus_of_ready rt _ hready, Quantity.sub_value]
  simp only [observeNode, qty_copyResources hmem, hactive]
  omega

/-- An accepted Cell resolves. -/
theorem resolves_of_accepted {Γ : Ctx} {rt : Runtime} {cell : Cell} {virtualNodeClass : VirtualNodeClass}
    (haccepted : (evaluateVirtualClusterPlan Γ rt cell virtualNodeClass).decision = .accepted) :
    ∃ snap, resolveVirtualCluster Γ cell virtualNodeClass = .ok snap := by
  cases hresolve : resolveVirtualCluster Γ cell virtualNodeClass with
  | ok snap => exact ⟨snap, rfl⟩
  | error e =>
    have := (accepted_iff ..).mp haccepted (planCheck rt "ResolvedProfile" .failed "InvalidSpec" e)
      (by simp [planChecks, hresolve])
    nomatch this

/-- A Cell that differs from an accepted one in its resources and nodes only is rejected for these only. -/
theorem rejected_iff_compute {Γ : Ctx} {rt rt' : Runtime} {cell cell' : Cell} {virtualNodeClass : VirtualNodeClass}
    (haccepted : (evaluateVirtualClusterPlan Γ rt cell virtualNodeClass).decision = .accepted)
    (hspec : cell'.spec = cell.spec) (hprovider : cell'.status.provider = cell.status.provider)
    (hports : cell'.status.nodePorts.fresh = cell.status.nodePorts.fresh ∧ cell'.status.nodePorts.allocated =
      cell.status.nodePorts.allocated) :
    (evaluateVirtualClusterPlan Γ rt' cell' virtualNodeClass).decision = .rejected ↔
      ∃ check ∈ computeChecks rt' cell' virtualNodeClass, check.status = .failed := by
  have hpassed := (accepted_iff ..).mp haccepted
  obtain ⟨snap, hresolve⟩ := resolves_of_accepted haccepted
  have hresolve' : ∃ snap, resolveVirtualCluster Γ cell' virtualNodeClass = .ok snap := by
    obtain ⟨hname, hentitlements, hpairs⟩ := ((resolveVirtualCluster_ok_iff _ _ _ _).mp hresolve).1
    refine ⟨_, (resolveVirtualCluster_ok_iff _ _ _ _).mpr ⟨⟨?_, ?_, ?_⟩, rfl⟩⟩ <;> rw [hspec] <;> assumption
  obtain ⟨snap', hresolve'⟩ := hresolve'
  simp only [planChecks, hresolve] at hpassed
  have hlocked : (lockedVersionCheck rt' cell').status = .passed := by
    rw [← PlanCheck.verdict_status, lockedVersionCheck_verdict, hprovider, ← lockedVersionCheck_verdict rt]
    exact hpassed _ (by simp)
  have hquota : (hostQuotaCheck rt' virtualNodeClass).status = .passed := by
    rw [hostQuotaCheck_passed_iff, ← hostQuotaCheck_passed_iff rt]
    exact hpassed _ (by simp)
  have hport : (nodePortCheck rt' cell').status = .passed := by
    rw [← PlanCheck.verdict_status, nodePortCheck_verdict, usedPorts, hports.1, hports.2, ← usedPorts,
      ← nodePortCheck_verdict rt]
    exact hpassed _ (by simp)
  have hstorage : (storageCheck rt' cell' virtualNodeClass).status ≠ .failed := by
    unfold storageCheck
    dsimp only
    split
    · simp
    · split_ifs <;> simp
  rw [rejected_iff]
  simp only [planChecks, hresolve', List.cons_append, List.nil_append, List.mem_cons, List.mem_append,
    List.not_mem_nil, or_false]
  constructor
  · rintro ⟨check, hmem, hfailed⟩
    rcases hmem with rfl | rfl | rfl | rfl | rfl | rfl | hmem | rfl | rfl | rfl
    · cases hfailed
    · exact absurd hfailed (unlessUnknown_not_failed _ _ _ _ _ _ _)
    · exact absurd hfailed (unlessUnknown_not_failed _ _ _ _ _ _ _)
    · exact absurd hfailed (unlessUnknown_not_failed _ _ _ _ _ _ _)
    · exact absurd hfailed (unlessUnknown_not_failed _ _ _ _ _ _ _)
    · simp [hlocked] at hfailed
    · exact ⟨check, hmem, hfailed⟩
    · simp [hquota] at hfailed
    · exact absurd hfailed hstorage
    · simp [hport] at hfailed
  · rintro ⟨check, hmem, hfailed⟩
    exact ⟨check, by tauto, hfailed⟩

/-- The checks of resources fail when one of a single resource does, or the one of the devices. -/
theorem exists_computeChecks_iff (rt : Runtime) (cell : Cell) (virtualNodeClass : VirtualNodeClass)
    (status : CheckStatus) :
    (∃ check ∈ computeChecks rt cell virtualNodeClass, check.status = status) ↔
      (∃ name ∈ baseResources, (capacityCheck rt (nameToPlanCheck name) (inventoryEntry cell.status.inventory name)
        (requiredCapacity virtualNodeClass name)).status = status) ∨
      (acceleratorCheck rt cell cell.spec.machineProfile.name
        (acceleratorRequests cell virtualNodeClass)).status = status := by
  simp only [computeChecks, List.mem_append, List.mem_map, List.mem_singleton]
  constructor
  · rintro ⟨check, ⟨name, hname, rfl⟩ | rfl, hstatus⟩
    · exact Or.inl ⟨name, hname, hstatus⟩
    · exact Or.inr hstatus
  · rintro (⟨name, hname, hstatus⟩ | hstatus)
    · exact ⟨_, Or.inl ⟨name, hname, rfl⟩, hstatus⟩
    · exact ⟨_, Or.inr rfl, hstatus⟩

/-- On a projected Cell, the check of a resource fails when something can be allocated and what is not held does not
cover what is asked for. -/
theorem capacityCheck_projected_failed_iff (Γ : Ctx) (rt : Runtime) (cell : Cell) (reader : InventoryReader)
    (nodes : List Node) (pods : List Pod) (clusterNames : List String) {name : String} (hname : name ∈ baseResources)
    (hnodes : allocatables cell.spec.machineProfile nodes name ≠ []) (checkName : String) (required : Quantity) :
    let projected := (projectInventory Γ rt cell reader nodes (some pods) clusterNames).1
    let allocatable := (allocatables cell.spec.machineProfile nodes name).sum
    (capacityCheck rt checkName (inventoryEntry projected.status.inventory name) required).status ≠ .failed ↔
      runningRequests clusterNames pods name + required.value ≤ allocatable ∨ required.value ≤ 0 ∨
        (allocatable = 0 ∧ allocatable ≤ runningRequests clusterNames pods name) := by
  obtain ⟨-, -, -, hinventory, -⟩ := projectInventory_frame Γ rt cell reader nodes (some pods) clusterNames
  obtain ⟨hallocatable, havailable⟩ := projectNodes_entry rt cell nodes pods clusterNames hname
  dsimp only at hallocatable havailable ⊢
  rw [if_neg hnodes] at havailable
  rw [Ne, capacityCheck_failed_iff, hinventory, hallocatable, havailable]
  omega

/-- On an accepted projected Cell, some ready node of the profile has each resource. -/
theorem allocatables_ne_nil_of_accepted {Γ : Ctx} {rt : Runtime} {cell : Cell} {reader : InventoryReader}
    {nodes : List Node} {pods : List Pod} {clusterNames : List String} {virtualNodeClass : VirtualNodeClass}
    (haccepted : (evaluateVirtualClusterPlan Γ rt (projectInventory Γ rt cell reader nodes (some pods) clusterNames).1
      virtualNodeClass).decision = .accepted)
    {name : String} (hname : name ∈ baseResources) :
    allocatables cell.spec.machineProfile nodes name ≠ [] := by
  obtain ⟨-, -, -, hinventory, -⟩ := projectInventory_frame Γ rt cell reader nodes (some pods) clusterNames
  obtain ⟨hallocatable, havailable⟩ := projectNodes_entry rt cell nodes pods clusterNames hname
  obtain ⟨snap, hresolve⟩ := resolves_of_accepted haccepted
  have hpassed := (accepted_iff ..).mp haccepted
  simp only [planChecks, hresolve] at hpassed
  have hcheck := hpassed (capacityCheck rt (nameToPlanCheck name) (inventoryEntry _ name)
    (requiredCapacity virtualNodeClass name))
    (List.mem_append_left _ (List.mem_append_right _ (List.mem_append_left _ (List.mem_map_of_mem hname))))
  rw [capacityCheck_passed_iff, hinventory, hallocatable, havailable] at hcheck
  intro hnil
  exact hcheck.1 ⟨by rw [hnil]; rfl, if_pos hnil⟩

/-- On a projected Cell, every device the class is entitled to is covered when some ready node of the profile has room
for it beside what runs there. -/
theorem allCovered_projected_iff (Γ : Ctx) (rt : Runtime) (cell : Cell) (reader : InventoryReader) (nodes : List Node)
    (pods : List Pod) (clusterNames : List String) (virtualNodeClass : VirtualNodeClass) :
    let projected := (projectInventory Γ rt cell reader nodes (some pods) clusterNames).1
    AllCovered (projected.status.nodes.filter fun node =>
      node.ready && node.profile == projected.spec.machineProfile.name)
        (rt.range (acceleratorRequests projected virtualNodeClass)) ↔
      ∀ device ∈ cell.spec.machineProfile.devices,
        let required := ((entitlementRequests virtualNodeClass.spec.workloadHard).qty device.resourceName).value
        required ≠ 0 → ∃ node ∈ nodes, profileNodeReady cell.spec.machineProfile node = true ∧
          runningOn clusterNames pods node.metadata.name device.resourceName + required ≤
            (node.allocatable.qty device.resourceName).value := by
  obtain ⟨-, hspec, -, -, hnodes⟩ := projectInventory_frame Γ rt cell reader nodes (some pods) clusterNames
  dsimp only at hspec hnodes ⊢
  rw [hspec, hnodes]
  constructor
  · intro h device hdevice hrequired
    obtain ⟨status, hstatus, hcovers⟩ := h
      (device.resourceName, (entitlementRequests virtualNodeClass.spec.workloadHard).qty
      device.resourceName) ((rt.mem_range _ _ _).mpr ((lookup_acceleratorRequests _ _ _ _).mpr
        ⟨⟨device, hspec ▸ hdevice, rfl⟩, rfl⟩)) hrequired
    obtain ⟨node, hnode, hready, rfl⟩ := (mem_profileNodes rt cell nodes pods clusterNames _).mp hstatus
    exact ⟨node, hnode, hready, (nodeCovers_nodeStatus rt clusterNames pods hready hdevice _).mp hcovers⟩
  · rintro h ⟨name, q⟩ he hne
    obtain ⟨⟨device, hdevice, rfl⟩, rfl⟩ := (lookup_acceleratorRequests _ _ _ _).mp ((rt.mem_range _ _ _).mp he)
    rw [hspec] at hdevice
    obtain ⟨node, hnode, hready, hcovers⟩ := h device hdevice hne
    exact ⟨_, (mem_profileNodes rt cell nodes pods clusterNames _).mpr ⟨node, hnode, hready, rfl⟩,
      (nodeCovers_nodeStatus rt clusterNames pods hready hdevice _).mpr hcovers⟩

/-- On a projected Cell with a ready node, the check of the devices fails when some entitlement
is covered by no node. -/
theorem acceleratorCheck_projected_failed_iff (Γ : Ctx) (rt : Runtime) (cell : Cell) (reader : InventoryReader)
    (nodes : List Node) (pods : List Pod) (clusterNames : List String) (virtualNodeClass : VirtualNodeClass)
    (hready : ∃ node ∈ nodes, profileNodeReady cell.spec.machineProfile node = true) :
    let projected := (projectInventory Γ rt cell reader nodes (some pods) clusterNames).1
    (acceleratorCheck rt projected projected.spec.machineProfile.name
      (acceleratorRequests projected virtualNodeClass)).status ≠
        .failed ↔
      ∀ device ∈ cell.spec.machineProfile.devices,
        let required := ((entitlementRequests virtualNodeClass.spec.workloadHard).qty device.resourceName).value
        required ≠ 0 → ∃ node ∈ nodes, profileNodeReady cell.spec.machineProfile node = true ∧
          runningOn clusterNames pods node.metadata.name device.resourceName + required ≤
            (node.allocatable.qty device.resourceName).value := by
  obtain ⟨-, hspec, -, -, hnodes⟩ := projectInventory_frame Γ rt cell reader nodes (some pods) clusterNames
  have hcovered := allCovered_projected_iff Γ rt cell reader nodes pods clusterNames virtualNodeClass
  dsimp only at hspec hnodes hcovered ⊢
  rw [acceleratorCheck, Ne, acceleratorLoop_failed_iff, hcovered, not_and, not_not, hspec, hnodes]
  have hsome : (projectNodes rt cell nodes (some pods) clusterNames).status.nodes.filter
      (fun node => node.ready && node.profile == cell.spec.machineProfile.name) ≠ [] := by
    obtain ⟨node, hnode, hready⟩ := hready
    exact List.ne_nil_of_mem ((mem_profileNodes rt cell nodes pods clusterNames _).mpr ⟨node, hnode, hready, rfl⟩)
  exact forall_prop_of_true hsome

end OwnUsageAux

open OwnUsageAux

/-- After a plan was accepted, the evaluation that counts the own pods too does not reject exactly when the Cell has
the whole envelope left beside everything that runs. -/
theorem own_usage_not_rejected_iff (Γ : Ctx) (rt rt' : Runtime) (cell : Cell) (reader : InventoryReader)
    (nodes : List Node) (clusterNames : List String) (virtualNodeClass : VirtualNodeClass) (others own : List Pod)
    (haccepted : (evaluateVirtualClusterPlan Γ rt
      (projectInventory Γ rt cell reader nodes (some others) clusterNames).1 virtualNodeClass).decision = .accepted) :
    (evaluateVirtualClusterPlan Γ rt' (projectInventory Γ rt' cell reader nodes (some (others ++ own)) clusterNames).1
        virtualNodeClass).decision ≠ .rejected ↔
      RoomBeside cell nodes clusterNames virtualNodeClass others own := by
  obtain ⟨-, hspec, hprovider, -, -⟩ := projectInventory_frame Γ rt cell reader nodes (some others) clusterNames
  obtain ⟨-, hspec', hprovider', -, -⟩ := projectInventory_frame Γ rt' cell reader nodes
    (some (others ++ own)) clusterNames
  have hready : ∃ node ∈ nodes, profileNodeReady cell.spec.machineProfile node = true := by
    have hcpu : allocatables cell.spec.machineProfile nodes "cpu" ≠ [] :=
      allocatables_ne_nil_of_accepted haccepted (by decide)
    obtain ⟨x, hx⟩ := List.exists_mem_of_ne_nil _ hcpu
    obtain ⟨node, hnode, -⟩ := List.mem_map.mp hx
    simp only [List.mem_filter, Bool.and_eq_true] at hnode
    exact ⟨node, hnode.1, hnode.2.1⟩
  have haccelerators := acceleratorCheck_projected_failed_iff Γ rt' cell reader nodes (others ++ own) clusterNames
    virtualNodeClass hready
  dsimp only at haccelerators
  rw [Ne, rejected_iff_compute haccepted (hspec'.trans hspec.symm) (hprovider'.trans hprovider.symm)
    (projectInventory_nodePorts Γ rt' rt cell reader nodes _ _ clusterNames), exists_computeChecks_iff,
      not_or, ← Ne.eq_def,
    haccelerators]
  push Not
  constructor
  · rintro ⟨hcapacity, hdevices⟩
    refine ⟨fun name hname => ?_, fun device hdevice hrequired => ?_⟩
    · have := (capacityCheck_projected_failed_iff Γ rt' cell reader nodes (others ++ own) clusterNames hname
        (allocatables_ne_nil_of_accepted haccepted hname) _ _).mp (hcapacity name hname)
      rwa [runningRequests_append] at this
    · obtain ⟨node, hnode, hnodeReady, hcovers⟩ := hdevices device hdevice hrequired
      rw [runningOn_append] at hcovers
      exact ⟨node, hnode, hnodeReady, hcovers⟩
  · rintro ⟨hcapacity, hdevices⟩
    refine ⟨fun name hname => ?_, fun device hdevice hrequired => ?_⟩
    · refine (capacityCheck_projected_failed_iff Γ rt' cell reader nodes (others ++ own) clusterNames hname
        (allocatables_ne_nil_of_accepted haccepted hname) _ _).mpr ?_
      rw [runningRequests_append]
      exact hcapacity name hname
    · obtain ⟨node, hnode, hnodeReady, hcovers⟩ := hdevices device hdevice hrequired
      refine ⟨node, hnode, hnodeReady, ?_⟩
      rw [runningOn_append]
      exact hcovers

/-- The pods ask, together, for no more than the class entitles to. -/
def WithinQuota (virtualNodeClass : VirtualNodeClass) (pods : List Pod) : Prop :=
  ∀ name, (pods.map fun pod => ((effectivePodRequests pod).qty name).value).sum ≤
    ((entitlementRequests virtualNodeClass.spec.workloadHard).qty name).value

namespace OwnUsageAux

/-- A clock at a time, and maps visited in the order they stand in. -/
def sampleRuntime : Runtime := ⟨1000, id, List.Perm.refl⟩

/-- A context that parses one quantity. -/
def sampleCtx : Ctx := ⟨fun _ => [], fun _ => none, fun value => if value = "64Gi" then some (.mebi 65536) else none⟩

/-- A Cell that is ready, with a profile of no devices. -/
def sampleCell : Cell :=
  { metadata := { name := "cell-a", ns := managementNamespace, uid := "cell-uid" }
    spec := { managedClusterRef := { name := "mc-a" }, machineProfile := { name := "cpu" } }
    status :=
      { phase := .ready
        managedCluster := { joined := true, available := true, leaseFresh := true }
        provider :=
          { k3kVersion := Platform.k3kVersion, namespaceReady := true, k3kCRDsReady := true, controllerReady := true
            cniReady := true, topoLVMReady := true } } }

/-- A ready node with `cpu` processors. -/
def sampleNode (cpu : Int) : Node :=
  let resources : ResourceList := GoMap.ofList
    [("cpu", .newQuantity cpu .decimalSI), ("memory", .mebi 16384), ("ephemeral-storage", .mebi 65536)]
  { metadata :=
      { name := "node-a", labels := GoMap.ofList [(Platform.profileLabelKey, "cpu")]
        annotations := GoMap.ofList [("capacity.topolvm.io/00default", "64Gi")] }
    conditions := [{ type := "Ready", status := .true }]
    capacity := resources
    allocatable := resources }

/-- A reader of a host with one storage class and no service. -/
def sampleReader : InventoryReader :=
  { storage := some
      { persistentVolumes := .ok [], persistentVolumeClaims := .ok []
        storageClasses := .ok [{ metadata := { name := "topolvm" }, provisioner := "topolvm.io" }] }
    services := some (.ok []) }

/-- A class that entitles to two processors. -/
def sampleClass : VirtualNodeClass :=
  { metadata := { name := "small", uid := "class-uid" }
    spec :=
      { workloadHard := GoMap.ofList [("requests.cpu", .newQuantity 2 .decimalSI), ("limits.cpu", .newQuantity 2 .decimalSI)]
        storageClassName := "topolvm" } }

/-- A VirtualCluster on `sampleCell`. -/
def sampleCluster : VirtualCluster :=
  { metadata := { name := "team", ns := managementNamespace, uid := "01234567-aaaa" }
    spec := { cellRef := { name := "cell-a", ns := managementNamespace }, classRef := { name := "small" } } }

/-- A running pod of `sampleCluster` that asks for two processors. -/
def samplePod : Pod :=
  { metadata := { name := "train", ns := "kc-kubecell-system-team-01234567", labels := GoMap.ofList [(k3kClusterNameLabel, "kc-01234567")] }
    nodeName := "node-a"
    containers := [{ resources := { requests := GoMap.ofList [("cpu", .newQuantity 2 .decimalSI)] } }]
    phase := .running }

/-- The plan of `sampleClass` on a host with one node of `cpu` processors that runs `pods`. -/
def samplePlan (cpu : Int) (pods : List Pod) : PlanDecision :=
  (evaluateVirtualClusterPlan sampleCtx sampleRuntime
    (projectInventory sampleCtx sampleRuntime sampleCell sampleReader [sampleNode cpu] (some pods) ["kc-01234567"]).1
    sampleClass).decision

example : samplePlan 4 [] = .accepted := by decide +kernel
example : samplePlan 4 [samplePod] = .rejected := by decide +kernel
example : samplePlan 8 [samplePod] = .accepted := by decide +kernel

/-- The pod asks for what the class entitles to. -/
theorem sample_withinQuota : WithinQuota sampleClass [samplePod] := by
  have hpod : effectivePodRequests samplePod = entitlementRequests sampleClass.spec.workloadHard :=
    AList.ext (by decide +kernel)
  intro name
  simp [hpod]

end OwnUsageAux

/-- A VirtualCluster whose plan was accepted on a Cell without other pods is rejected once a pod of its own runs that
asks for no more than the class entitles to. -/
theorem own_usage_not_rejected_false :
    ¬∀ (Γ : Ctx) (rt rt' : Runtime) (cell : Cell) (reader : InventoryReader) (nodes : List Node)
      (clusterNames : List String)
      (v : VirtualCluster) (virtualNodeClass : VirtualNodeClass) (others own : List Pod),
      v.names.k3kCluster ∈ clusterNames →
        (∀ pod ∈ own, pod.metadata.labels.get k3kClusterNameLabel = v.names.k3kCluster) →
      WithinQuota virtualNodeClass own →
      (evaluateVirtualClusterPlan Γ rt (projectInventory Γ rt cell reader nodes (some others) clusterNames).1
        virtualNodeClass).decision = .accepted →
      (evaluateVirtualClusterPlan Γ rt' (projectInventory Γ rt' cell reader nodes (some (others ++ own)) clusterNames).1
        virtualNodeClass).decision ≠ .rejected := by
  intro h
  refine h sampleCtx sampleRuntime sampleRuntime sampleCell sampleReader [sampleNode 4]
    ["kc-01234567"] sampleCluster sampleClass []
    [samplePod] (by decide +kernel) (by decide +kernel) sample_withinQuota (by decide +kernel) (by decide +kernel)

/-- On a node with room for twice the envelope the plan is not rejected. -/
theorem own_usage_not_rejected_sample :
    (evaluateVirtualClusterPlan sampleCtx sampleRuntime
      (projectInventory sampleCtx sampleRuntime sampleCell sampleReader [sampleNode 8] (some ([] ++ [samplePod]))
        ["kc-01234567"]).1
      sampleClass).decision ≠ .rejected := by
  refine (own_usage_not_rejected_iff sampleCtx sampleRuntime sampleRuntime sampleCell sampleReader
    [sampleNode 8] ["kc-01234567"]
    sampleClass [] [samplePod] (by decide +kernel)).mpr ⟨?_, fun device hdevice => nomatch hdevice⟩
  have hroom : ∀ name ∈ baseResources, runningRequests ["kc-01234567"] [] name + runningRequests ["kc-01234567"]
    [samplePod] name +
      (requiredCapacity sampleClass name).value ≤
        (allocatables sampleCell.spec.machineProfile [sampleNode 8] name).sum := by
    decide +kernel
  exact fun name hname => Or.inl (hroom name hname)

end KubeCell
