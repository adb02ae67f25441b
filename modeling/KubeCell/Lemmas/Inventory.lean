import KubeCell.Inventory

/-!
# What the projection of the inventory adds up

The loops of `projectInventory`, as sums: what the pods that run ask for, over all nodes and on each node, and what
the ready nodes of the profile can allocate.
-/

namespace KubeCell

/-- The pod is counted and holds resources now. -/
def Pod.running (clusterNames : List String) (pod : Pod) : Bool := countsPod clusterNames pod && pod.phase != .pending

/-- What the running pods ask for of a resource. -/
def runningRequests (clusterNames : List String) (pods : List Pod) (name : String) : Int :=
  ((pods.filter (·.running clusterNames)).map fun pod => ((effectivePodRequests pod).qty name).value).sum

/-- The pod is counted and still waits for resources. -/
def Pod.waiting (clusterNames : List String) (pod : Pod) : Bool := countsPod clusterNames pod && pod.phase == .pending

/-- What the waiting pods ask for of a resource. -/
def waitingRequests (clusterNames : List String) (pods : List Pod) (name : String) : Int :=
  ((pods.filter (·.waiting clusterNames)).map fun pod => ((effectivePodRequests pod).qty name).value).sum

/-- What the running pods on a node ask for of a resource. -/
def runningOn (clusterNames : List String) (pods : List Pod) (nodeName name : String) : Int :=
  runningRequests clusterNames (pods.filter fun pod => pod.nodeName != "" && pod.nodeName == nodeName) name

/-- The node is of the profile, is ready, and has all its devices. -/
def profileNodeReady (profile : MachineProfile) (node : Node) : Bool :=
  node.metadata.labels.get Platform.profileLabelKey == profile.name && nodeReady node &&
    (profile.devices.flatMap (deviceReasons node)).isEmpty

/-- What the ready nodes of the profile that have a resource can allocate of it, node by node. -/
def allocatables (profile : MachineProfile) (nodes : List Node) (name : String) : List Int :=
  (nodes.filter fun node => profileNodeReady profile node && (AList.lookup name node.capacity).isSome).map fun node =>
    (node.allocatable.qty name).value

/-- The resources that the nodes of a profile are asked for. -/
def MachineProfile.resources (profile : MachineProfile) : List String :=
  baseResources ++ profile.devices.map (·.resourceName)

/-- The five values of an inventory, without the formats they are printed in. -/
structure Amounts where
  capacity : Int := 0
  allocatable : Int := 0
  requested : Int := 0
  pending : Int := 0
  availableEstimate : Int := 0
  deriving DecidableEq, Repr

/-- The values of the inventory of a resource. -/
def InventoryStatus.amounts (entry : InventoryStatus) : Amounts :=
  { capacity := entry.capacity.value
    allocatable := entry.allocatable.value
    requested := entry.requested.value
    pending := entry.pending.value
    availableEstimate := entry.availableEstimate.value }

/-- The values of a resource in an inventory, if it is there. -/
def inventoryAmounts (inventory : GoMap InventoryStatus) (name : String) : Option Amounts :=
  (AList.lookup name inventory).map (·.amounts)

namespace InventoryAux

/-! ## Copies of resource lists -/

/-- Copying resources takes each from the source if it is there, and leaves the others. -/
theorem lookup_foldl_copyResource (names : List String) (source result : ResourceList) (name : String) :
    AList.lookup name (names.foldl (copyResource source) result) =
      if name ∈ names then (AList.lookup name source).or (AList.lookup name result) else AList.lookup name result := by
  induction names generalizing result with
  | nil => simp
  | cons n names ih =>
    rw [List.foldl_cons, ih, copyResource]
    by_cases hn : name = n
    · subst hn
      cases hs : AList.lookup name source <;> simp
    · cases hs : AList.lookup n source with
      | none => simp [hn]
      | some q => simp [hn, AList.lookup_insert_ne hn]

/-- A copy has the resources it is asked for, as the source has them. -/
theorem lookup_copyResources (names : List String) (source : ResourceList) (name : String) :
    AList.lookup name (copyResources names source) = if name ∈ names then AList.lookup name source else none := by
  rw [copyResources, lookup_foldl_copyResource]
  split_ifs <;> simp

/-- A copy has the quantities of the resources it is asked for. -/
theorem qty_copyResources {names : List String} {name : String} (h : name ∈ names) (source : ResourceList) :
    (copyResources names source).qty name = source.qty name := by
  rw [ResourceList.qty, lookup_copyResources, if_pos h, ResourceList.qty]

/-! ## The account of the pods -/

/-- The values of a resource that is not there are those of an empty entry. -/
theorem amounts_inventoryEntry (inventory : GoMap InventoryStatus) (name : String) :
    (inventoryEntry inventory name).amounts = (inventoryAmounts inventory name).getD {} := by
  unfold inventoryEntry inventoryAmounts
  cases AList.lookup name inventory <;> rfl

/-- A loop over a resource list changes the entry of each of its resources. -/
theorem inventoryAmounts_updateEntries (inventory : GoMap InventoryStatus)
    (update : InventoryStatus → Quantity → InventoryStatus) (requests : ResourceList) (name : String) :
    inventoryAmounts (updateEntries inventory update requests) name =
      match AList.lookup name requests with
      | some q => some (update (inventoryEntry inventory name) q).amounts
      | none => inventoryAmounts inventory name := by
  have h := GoMap.lookup_foldl_update (fun _ current q => update (current.getD {}) q) requests inventory name
  simp only [inventoryAmounts, inventoryEntry, updateEntries] at h ⊢
  rw [h]
  cases AList.lookup name requests <;> simp

/-- The values of a resource with one more pod. -/
def withPod (clusterNames : List String) (name : String) (current : Option Amounts) (pod : Pod) : Option Amounts :=
  if countsPod clusterNames pod then
    match AList.lookup name (effectivePodRequests pod) with
    | some q =>
      let amounts := current.getD {}
      some (if pod.phase = .pending then { amounts with pending := amounts.pending + q.value }
        else { amounts with requested := amounts.requested + q.value })
    | none => current
  else current

/-- What one Pod does to the amounts of a class. -/
theorem inventoryAmounts_accountPod (clusterNames : List String) (account : PodAccount) (pod : Pod) (name : String) :
    inventoryAmounts (accountPod clusterNames account pod).inventory name =
      withPod clusterNames name (inventoryAmounts account.inventory name) pod := by
  unfold accountPod withPod
  rw [← amounts_inventoryEntry]
  cases hcounts : countsPod clusterNames pod with
  | false => rfl
  | true =>
    rw [Bool.not_true, if_neg Bool.false_ne_true, if_pos rfl]
    by_cases hpending : pod.phase = .pending
    · rw [if_pos hpending]
      simp only [inventoryAmounts_updateEntries, if_pos hpending]
      rfl
    · rw [if_neg hpending]
      simp only [inventoryAmounts_updateEntries, if_neg hpending]
      rfl

/-- Pods may be counted in any order. -/
instance (clusterNames : List String) (name : String) : RightCommutative (withPod clusterNames name) where
  right_comm current pod pod' := by
    unfold withPod
    cases countsPod clusterNames pod <;> cases countsPod clusterNames pod' <;>
      cases AList.lookup name (effectivePodRequests pod) <;> cases AList.lookup name (effectivePodRequests pod') <;>
      try rfl
    by_cases hpending : pod.phase = .pending <;> by_cases hpending' : pod'.phase = .pending <;>
      simp [hpending, hpending', add_right_comm]

/-- What running pods ask for, one pod more. -/
theorem runningRequests_cons (clusterNames : List String) (pod : Pod) (pods : List Pod) (name : String) :
    runningRequests clusterNames (pod :: pods) name =
      (if pod.running clusterNames then ((effectivePodRequests pod).qty name).value else 0) + runningRequests
        clusterNames pods name := by
  unfold runningRequests
  by_cases h : pod.running clusterNames = true <;> simp [h]

/-- What running pods ask for, of two lists. -/
theorem runningRequests_append (clusterNames : List String) (pods pods' : List Pod) (name : String) :
    runningRequests clusterNames (pods ++ pods') name =
      runningRequests clusterNames pods name + runningRequests clusterNames pods' name := by
  simp [runningRequests]

/-- All pods: what is requested is what the running ones ask for, and what is pending what the waiting ones do. -/
theorem foldl_withPod (clusterNames : List String) (pods : List Pod) (name : String) (current : Option Amounts) :
    (pods.foldl (withPod clusterNames name) current).getD {} =
      { current.getD {} with
        requested := (current.getD {}).requested + runningRequests clusterNames pods name
        pending := (current.getD {}).pending + waitingRequests clusterNames pods name } := by
  induction pods generalizing current with
  | nil => simp [runningRequests, waitingRequests]
  | cons pod pods ih =>
    have hwaiting : waitingRequests clusterNames (pod :: pods) name =
        (if pod.waiting clusterNames then ((effectivePodRequests pod).qty name).value else 0) +
          waitingRequests clusterNames pods name := by
      unfold waitingRequests
      by_cases h : pod.waiting clusterNames = true <;> simp [h]
    rw [List.foldl_cons, ih, runningRequests_cons, hwaiting]
    unfold withPod Pod.running Pod.waiting
    by_cases hcounts : countsPod clusterNames pod = true
    · by_cases hpending : pod.phase = .pending <;> cases hq : AList.lookup name (effectivePodRequests pod) <;>
        simp [hcounts, hpending, ResourceList.qty, hq, add_assoc]
    · simp [hcounts]

theorem inventoryAmounts_accountPods (clusterNames : List String) (pods : List Pod) (account : PodAccount)
    (name : String) :
    inventoryAmounts (pods.foldl (accountPod clusterNames) account).inventory name =
      pods.foldl (withPod clusterNames name) (inventoryAmounts account.inventory name) :=
  (List.foldl_hom (fun account : PodAccount => inventoryAmounts account.inventory name) fun account pod =>
    (inventoryAmounts_accountPod clusterNames account pod name).symm).symm

/-- What a node holds of a resource. -/
def nodeQty (byNode : GoMap ResourceList) (nodeName name : String) : Int :=
  (ResourceList.qty ((AList.lookup nodeName byNode).getD ∅) name).value

/-- Adding to a node changes what that node holds. -/
theorem nodeQty_addResourceList (byNode : GoMap ResourceList) (nodeName other name : String) (values : ResourceList) :
    nodeQty (addResourceList byNode nodeName values) other name =
      nodeQty byNode other name + if nodeName = other then (values.qty name).value else 0 := by
  unfold nodeQty addResourceList
  by_cases h : nodeName = other
  · subst h
    simp [ResourceList.qty_addAll_value]
  · simp [AList.lookup_insert_ne (Ne.symm h), h]

/-- One pod: what is active on a node grows by what the pod asks for if it runs there. -/
theorem accountPod_active (clusterNames : List String) (account : PodAccount) (pod : Pod) (nodeName name : String) :
    nodeQty (accountPod clusterNames account pod).activeByNode nodeName name =
      nodeQty account.activeByNode nodeName name + runningOn clusterNames [pod] nodeName name := by
  have hpod : runningOn clusterNames [pod] nodeName name =
      if pod.running clusterNames ∧ pod.nodeName ≠ "" ∧ pod.nodeName = nodeName then
        ((effectivePodRequests pod).qty name).value
      else 0 := by
    unfold runningOn runningRequests
    by_cases hrun : pod.running clusterNames = true <;> by_cases hempty : pod.nodeName = "" <;>
      by_cases hnode : pod.nodeName = nodeName <;> simp_all
  rw [hpod, accountPod]
  by_cases hcounts : countsPod clusterNames pod = true
  · by_cases hpending : pod.phase = .pending
    · simp [hcounts, hpending, Pod.running]
    · have hrun : pod.running clusterNames = true := by simp [Pod.running, hcounts, hpending]
      simp only [hcounts, hpending, Bool.not_true, Bool.false_eq_true, if_false, hrun, true_and]
      by_cases hempty : pod.nodeName = ""
      · simp [hempty]
      · simp [hempty, nodeQty_addResourceList]
  · simp [hcounts, Pod.running]

/-- What runs on a node, one pod more. -/
theorem runningOn_cons (clusterNames : List String) (pod : Pod) (pods : List Pod) (nodeName name : String) :
    runningOn clusterNames (pod :: pods) nodeName name =
      runningOn clusterNames [pod] nodeName name + runningOn clusterNames pods nodeName name := by
  unfold runningOn
  rw [← runningRequests_append, ← List.filter_append, List.singleton_append]

/-- What runs on a node, of two lists. -/
theorem runningOn_append (clusterNames : List String) (pods pods' : List Pod) (nodeName name : String) :
    runningOn clusterNames (pods ++ pods') nodeName name =
      runningOn clusterNames pods nodeName name + runningOn clusterNames pods' nodeName name := by
  rw [runningOn, List.filter_append, runningRequests_append, runningOn, runningOn]

/-- All pods: what is active on a node is what the pods that run there ask for. -/
theorem accountPods_active (clusterNames : List String) (pods : List Pod) (account : PodAccount)
    (nodeName name : String) :
    nodeQty (pods.foldl (accountPod clusterNames) account).activeByNode nodeName name =
      nodeQty account.activeByNode nodeName name + runningOn clusterNames pods nodeName name := by
  induction pods generalizing account with
  | nil => simp [runningOn, runningRequests]
  | cons pod pods ih => rw [List.foldl_cons, ih, accountPod_active, runningOn_cons clusterNames pod pods, add_assoc]

/-! ## The nodes -/

/-- A node of the host is ready in the status exactly when it is a ready node of the profile. -/
theorem nodeStatus_ready (rt : Runtime) (profile : MachineProfile) (account : PodAccount) (node : Node) :
    (nodeStatus rt profile account node).ready = profileNodeReady profile node := by
  unfold nodeStatus profileNodeReady
  by_cases h : node.metadata.labels.get Platform.profileLabelKey = profile.name
  · simp [h, observeNode]
  · simp [h]

/-- The status of a node has the name of the node. -/
theorem nodeStatus_name (rt : Runtime) (profile : MachineProfile) (account : PodAccount) (node : Node) :
    (nodeStatus rt profile account node).name = node.metadata.name := by
  unfold nodeStatus
  split_ifs <;> rfl

/-- The status of a ready node of the profile. -/
theorem nodeStatus_of_ready (rt : Runtime) {profile : MachineProfile} (account : PodAccount) {node : Node}
    (h : profileNodeReady profile node = true) :
    nodeStatus rt profile account node =
      { observeNode rt node profile.name profile.devices with
        activeRequested := (AList.lookup node.metadata.name account.activeByNode).getD ∅
        pendingRequested := (AList.lookup node.metadata.name account.pendingByNode).getD ∅ } := by
  have hlabel : node.metadata.labels.get Platform.profileLabelKey = profile.name := by
    simp only [profileNodeReady, Bool.and_eq_true, beq_iff_eq] at h
    exact h.1.1
  rw [nodeStatus, if_neg (not_not.mpr hlabel)]

/-- The node is a ready one of the profile, and has a resource that it is asked for. -/
def contributes (profile : MachineProfile) (name : String) (node : Node) : Bool :=
  decide (name ∈ profile.resources) && (profileNodeReady profile node && (AList.lookup name node.capacity).isSome)

/-- The values of a resource with one more node. -/
def withNode (profile : MachineProfile) (name : String) (current : Option Amounts) (node : Node) : Option Amounts :=
  if contributes profile name node then
    let amounts := current.getD {}
    let allocatable := amounts.allocatable + (node.allocatable.qty name).value
    some
      { amounts with
        capacity := amounts.capacity + (node.capacity.qty name).value
        allocatable := allocatable
        availableEstimate := max 0 (allocatable - amounts.requested) }
  else current

/-- What one resource of a node adds, in values. -/
theorem amounts_addNodeResource (status : CellNodeStatus) (entry : InventoryStatus) (name : String) (q : Quantity) :
    (addNodeResource status entry name q).amounts =
      { entry.amounts with
        capacity := entry.amounts.capacity + q.value
        allocatable := entry.amounts.allocatable + (status.allocatable.qty name).value
        availableEstimate := max 0 (entry.amounts.allocatable +
          (status.allocatable.qty name).value - entry.amounts.requested) } := by
  have havailable : (addNodeResource status entry name q).availableEstimate.value =
      max 0 (entry.allocatable.value + (status.allocatable.qty name).value - entry.requested.value) := by
    simp only [addNodeResource]
    split_ifs with hneg <;> simp only [Quantity.sub_value, Quantity.add_value,
      Quantity.newQuantity_zero_value] at hneg ⊢ <;> omega
  rw [InventoryStatus.amounts, havailable]
  rfl

/-- One node: a resource it has changes by what the node adds, another does not. -/
theorem inventoryAmounts_addNode (inventory : GoMap InventoryStatus) (status : CellNodeStatus) (name : String) :
    inventoryAmounts (addNode inventory status) name =
      match status.ready, AList.lookup name status.capacity with
      | true, some q => some (addNodeResource status (inventoryEntry inventory name) name q).amounts
      | _, _ => inventoryAmounts inventory name := by
  unfold addNode
  cases status.ready with
  | false => rfl
  | true =>
    have h := GoMap.lookup_foldl_update
      (fun key current q => addNodeResource status (current.getD {}) key q) status.capacity
      inventory name
    simp only [if_true, inventoryAmounts, inventoryEntry] at h ⊢
    rw [h]
    cases AList.lookup name status.capacity <;> rfl

/-- What a node adds to the amounts of a class. -/
theorem inventoryAmounts_nodeStatus (rt : Runtime) (profile : MachineProfile) (account : PodAccount)
    (inventory : GoMap InventoryStatus) (node : Node) (name : String) :
    inventoryAmounts (addNode inventory (nodeStatus rt profile account node)) name =
      withNode profile name (inventoryAmounts inventory name) node := by
  rw [inventoryAmounts_addNode, nodeStatus_ready]
  unfold withNode contributes
  cases hready : profileNodeReady profile node with
  | false => simp
  | true =>
    have hcapacity : AList.lookup name (nodeStatus rt profile account node).capacity =
        if name ∈ profile.resources then AList.lookup name node.capacity else none := by
      rw [nodeStatus_of_ready rt account hready]
      exact lookup_copyResources _ _ _
    rw [hcapacity]
    by_cases hname : name ∈ profile.resources
    · have hallocatable : (nodeStatus rt profile account node).allocatable.qty name = node.allocatable.qty name := by
        rw [nodeStatus_of_ready rt account hready]
        exact qty_copyResources hname _
      rw [if_pos hname]
      cases hq : AList.lookup name node.capacity with
      | none => simp
      | some q =>
        have hquantity : node.capacity.qty name = q := by rw [ResourceList.qty, hq, Option.getD_some]
        simp [amounts_addNodeResource, amounts_inventoryEntry, hallocatable, hname, hquantity]
    · simp [hname]

/-- Nodes may be added in any order. -/
instance (profile : MachineProfile) (name : String) : RightCommutative (withNode profile name) where
  right_comm current node node' := by
    unfold withNode
    cases contributes profile name node <;> cases contributes profile name node' <;> try rfl
    simp [add_right_comm]

/-- All nodes: capacity and what can be allocated are summed up, and what is available is what is not requested of it,
but not less than nothing. -/
theorem foldl_withNode (profile : MachineProfile) (nodes : List Node) (name : String) (current : Option Amounts) :
    nodes.foldl (withNode profile name) current =
      if nodes.filter (contributes profile name) = [] then current
      else
        let having := nodes.filter (contributes profile name)
        let allocatable := (current.getD {}).allocatable +
          (having.map fun node => (node.allocatable.qty name).value).sum
        some
          { current.getD {} with
            capacity := (current.getD {}).capacity + (having.map fun node => (node.capacity.qty name).value).sum
            allocatable := allocatable
            availableEstimate := max 0 (allocatable - (current.getD {}).requested) } := by
  induction nodes generalizing current with
  | nil => rfl
  | cons node nodes ih =>
    rw [List.foldl_cons, ih]
    by_cases hnode : contributes profile name node = true
    · rw [List.filter_cons_of_pos hnode, if_neg (List.cons_ne_nil _ _)]
      split_ifs with hnil
      · simp [withNode, hnode, hnil]
      · simp [withNode, hnode, add_assoc]
    · rw [List.filter_cons_of_neg hnode]
      simp only [withNode, if_neg hnode]

/-! ## The projected Cell -/

variable (rt : Runtime) (cell : Cell) (nodes : List Node) (pods : List Pod) (clusterNames : List String)

/-- What the projection says of a resource: first the pods are counted, then the nodes. -/
theorem inventoryAmounts_projectNodes (name : String) :
    inventoryAmounts (projectNodes rt cell nodes (some pods) clusterNames).status.inventory name =
      nodes.foldl (withNode cell.spec.machineProfile name) (pods.foldl (withPod clusterNames name) none) := by
  have hpods := inventoryAmounts_accountPods clusterNames pods {} name
  rw [show inventoryAmounts (∅ : GoMap InventoryStatus) name = none from rfl] at hpods
  simp only [projectNodes, accountPods, Option.getD_some, List.foldl_map]
  rw [← hpods]
  exact (List.foldl_hom (fun inventory => inventoryAmounts inventory name) fun inventory node =>
    (inventoryAmounts_nodeStatus rt cell.spec.machineProfile _ inventory node name).symm).symm

/-- What the projection says of a resource every node is asked for. -/
theorem projectNodes_entry {name : String} (hname : name ∈ baseResources) :
    let entry := inventoryEntry (projectNodes rt cell nodes (some pods) clusterNames).status.inventory name
    let total := (allocatables cell.spec.machineProfile nodes name).sum
    entry.allocatable.value = total ∧
      entry.availableEstimate.value =
        if allocatables cell.spec.machineProfile nodes name = [] then 0
        else max 0 (total - runningRequests clusterNames pods name) := by
  have hmem : name ∈ cell.spec.machineProfile.resources := List.mem_append_left _ hname
  have hamounts := amounts_inventoryEntry (projectNodes rt cell nodes (some pods) clusterNames).status.inventory name
  have hcontributes : nodes.filter (contributes cell.spec.machineProfile name) =
      nodes.filter fun node => profileNodeReady cell.spec.machineProfile node &&
        (AList.lookup name node.capacity).isSome :=
    List.filter_congr fun node _ => by simp [contributes, hmem]
  rw [inventoryAmounts_projectNodes, foldl_withNode, foldl_withPod, hcontributes] at hamounts
  dsimp only
  rw [show (inventoryEntry _ name).allocatable.value = (inventoryEntry _ name).amounts.allocatable from rfl,
    show (inventoryEntry _ name).availableEstimate.value =
      (inventoryEntry _ name).amounts.availableEstimate from rfl, hamounts]
  unfold allocatables
  split_ifs with hnil hmap hmap
  · rw [foldl_withPod]
    simp [hnil]
  · exact absurd (by rw [hnil]; rfl) hmap
  · exact absurd (List.map_eq_nil_iff.mp hmap) hnil
  · simp

/-- The nodes of the projection that are ready are the ready nodes of the profile, with what runs on each. -/
theorem mem_projectNodes_ready (status : CellNodeStatus) :
    status ∈ (projectNodes rt cell nodes (some pods) clusterNames).status.nodes ∧ status.ready = true ↔
      ∃ node ∈ nodes, profileNodeReady cell.spec.machineProfile node = true ∧
        status = nodeStatus rt cell.spec.machineProfile (pods.foldl (accountPod clusterNames) {}) node := by
  simp only [projectNodes, sortNodes, List.mem_insertionSort, List.mem_map, accountPods, Option.getD_some]
  constructor
  · rintro ⟨⟨node, hnode, rfl⟩, hready⟩
    exact ⟨node, hnode, nodeStatus_ready rt _ _ node ▸ hready, rfl⟩
  · rintro ⟨node, hnode, hready, rfl⟩
    exact ⟨⟨node, hnode, rfl⟩, (nodeStatus_ready rt _ _ node).trans hready⟩

/-- The projection changes the status only, and leaves what is known of the provider. -/
theorem projectInventory_frame (Γ : Ctx) (rt : Runtime) (cell : Cell) (reader : InventoryReader) (nodes : List Node)
    (pods : Option (List Pod)) (clusterNames : List String) :
    let projected := (projectInventory Γ rt cell reader nodes pods clusterNames).1
    projected.metadata = cell.metadata ∧ projected.spec = cell.spec ∧ projected.status.provider = cell.status.provider ∧
      projected.status.inventory = (projectNodes rt cell nodes pods clusterNames).status.inventory ∧
      projected.status.nodes = (projectNodes rt cell nodes pods clusterNames).status.nodes := by
  unfold projectInventory
  dsimp only
  split_ifs
  · exact ⟨rfl, rfl, rfl, rfl, rfl⟩
  · split
    · exact ⟨rfl, rfl, rfl, rfl, rfl⟩
    · split
      · exact ⟨rfl, rfl, rfl, rfl, rfl⟩
      · split <;> exact ⟨rfl, rfl, rfl, rfl, rfl⟩

/-! ## What does not depend on the pods, the clock or the order of loops -/

/-- A storage entry without its time. -/
def undated (entry : StorageInventoryStatus) : StorageInventoryStatus := { entry with observedAt := 0 }

/-- Two storage inventories differ in their times only. -/
def SameStorage (a b : GoMap StorageInventoryStatus) : Prop :=
  ∀ key, (AList.lookup key a).map undated = (AList.lookup key b).map undated

/-- The entries of a key differ in their times only. -/
theorem SameStorage.getD {a b : GoMap StorageInventoryStatus} (h : SameStorage a b) (key : String) :
    undated ((AList.lookup key a).getD {}) = undated ((AList.lookup key b).getD {}) := by
  have := h key
  cases ha : AList.lookup key a <;> cases hb : AList.lookup key b <;> simp_all

/-- Entries that differ in their times only are stored alike. -/
theorem SameStorage.insert {a b : GoMap StorageInventoryStatus} (h : SameStorage a b) (key : String)
    {x y : StorageInventoryStatus} (hxy : undated x = undated y) : SameStorage (a.insert key x) (b.insert key y) := by
  intro key'
  by_cases hkey : key' = key
  · subst hkey
    simp [hxy]
  · rw [AList.lookup_insert_ne hkey, AList.lookup_insert_ne hkey]
    exact h key'

/-- Counting a volume does not look at times. -/
theorem SameStorage.addVolume {a b : GoMap StorageInventoryStatus} (h : SameStorage a b)
    (classByName : GoMap StorageClass) (pv : PersistentVolume) :
    SameStorage (KubeCell.addVolume classByName a pv) (KubeCell.addVolume classByName b pv) := by
  have hentry : ∀ e, undated (withVolume pv e) = undated (withVolume pv (undated e)) := fun _ => rfl
  unfold KubeCell.addVolume
  split_ifs
  · exact h
  · exact h.insert _ (by rw [hentry, h.getD, ← hentry])

/-- Two storage accounts differ in their times only. -/
structure SameAccount (a b : StorageAccount) : Prop where
  inventory : SameStorage a.inventory b.inventory
  counts : a.capacityNodeCount = b.capacityNodeCount

/-- Counting a capacity does not look at times. -/
theorem SameAccount.addStorageCapacity {a b : StorageAccount} (h : SameAccount a b) (Γ : Ctx) (node : Node)
    (storageClass : StorageClass) :
    SameAccount (KubeCell.addStorageCapacity Γ node a storageClass)
      (KubeCell.addStorageCapacity Γ node b storageClass) := by
  unfold KubeCell.addStorageCapacity
  dsimp only
  split
  · exact h
  · rename_i capacity source _
    have hentry : ∀ e, undated (withCapacity node.metadata.name capacity source e) =
        undated (withCapacity node.metadata.name capacity source (undated e)) := fun _ => rfl
    exact ⟨h.inventory.insert _ (by rw [hentry, h.inventory.getD, ← hentry]), by rw [h.counts]⟩

/-- The storage account depends on the clock in its times only. -/
theorem storageAccount_same (Γ : Ctx) (rt rt' : Runtime) (pvs : List PersistentVolume)
    (classByName : GoMap StorageClass) (nodes : List Node) (eligible : List String) :
    SameAccount (storageAccount Γ rt pvs classByName nodes eligible)
      (storageAccount Γ rt' pvs classByName nodes eligible) := by
  have hempty : SameStorage (emptyStorage rt classByName) (emptyStorage rt' classByName) :=
    List.foldl_rel (fun _ => rfl) fun e _ b b' h => h.insert e.1 rfl
  have hvolumes : SameAccount { inventory := pvs.foldl (addVolume classByName) (emptyStorage rt classByName) }
      { inventory := pvs.foldl (addVolume classByName) (emptyStorage rt' classByName) } :=
    ⟨List.foldl_rel hempty fun pv _ b b' h => h.addVolume classByName pv, rfl⟩
  exact List.foldl_rel hvolumes fun node _ b b' h => List.foldl_rel h fun e _ b b' h => h.addStorageCapacity Γ node e.2

/-- Some class is incomplete in one account when one is in the other. -/
theorem incomplete_same {a b : StorageAccount} (h : SameAccount a b) (eligible : List String) :
    (∃ key entry, AList.lookup key a.inventory = some entry ∧ incomplete a eligible (key, entry) = true) →
      ∃ key entry, AList.lookup key b.inventory = some entry ∧ incomplete b eligible (key, entry) = true := by
  rintro ⟨key, entry, hlookup, hinc⟩
  have hkey := h.inventory key
  rw [hlookup] at hkey
  obtain ⟨entry', hlookup', hsame⟩ := Option.map_eq_some_iff.mp hkey.symm
  have hknown : entry'.freeCapacityKnown = entry.freeCapacityKnown := by
    simpa [undated] using congrArg (fun e : StorageInventoryStatus => e.freeCapacityKnown) hsame
  refine ⟨key, entry', hlookup', ?_⟩
  simp only [incomplete, hknown, ← h.counts] at hinc ⊢
  exact hinc

/-- Whether the projection of storage fails depends on neither the clock nor the order of its last loop. -/
theorem projectStorageInventory_failure (Γ : Ctx) (rt rt' : Runtime) (reader : StorageReader) (nodes : List Node)
    {statuses statuses' : List CellNodeStatus} (h : eligibleNodes statuses = eligibleNodes statuses') :
    (projectStorageInventory Γ rt reader nodes statuses).failure.isSome =
      (projectStorageInventory Γ rt' reader nodes statuses').failure.isSome := by
  unfold projectStorageInventory
  rcases reader.persistentVolumes with e | pvs
  · rfl
  rcases reader.persistentVolumeClaims with e | _
  · rfl
  rcases reader.storageClasses with e | classes
  · rfl
  dsimp only
  rw [h]
  have hfind : ∀ rt rt' : Runtime,
      let account := storageAccount Γ rt pvs (topolvmClasses classes) nodes (eligibleNodes statuses')
      let account' := storageAccount Γ rt' pvs (topolvmClasses classes) nodes (eligibleNodes statuses')
      ((rt.range account.inventory).find? (incomplete account (eligibleNodes statuses'))).isSome = true →
        ((rt'.range account'.inventory).find? (incomplete account' (eligibleNodes statuses'))).isSome = true := by
    intro rt rt'
    dsimp only
    rw [rt.find?_range_isSome, rt'.find?_range_isSome]
    exact incomplete_same (storageAccount_same Γ rt rt' pvs _ nodes _) _
  rw [Bool.eq_iff_iff]
  refine ⟨fun hsome => ?_, fun hsome => ?_⟩
  · split at hsome
    · nomatch hsome
    · rename_i hf
      have := hfind rt rt' (by rw [hf]; rfl)
      split
      · rename_i hf'
        rw [hf'] at this
        nomatch this
      · rfl
  · split at hsome
    · nomatch hsome
    · rename_i hf
      have := hfind rt' rt (by rw [hf]; rfl)
      split
      · rename_i hf'
        rw [hf'] at this
        nomatch this
      · rfl

/-- The names and the readiness of the sorted nodes depend on neither the pods nor the clock. -/
theorem sortNodes_map (rt : Runtime) (profile : MachineProfile) (account : PodAccount) (nodes : List Node) :
    (sortNodes (nodes.map (nodeStatus rt profile account))).map (fun status => (status.name, status.ready)) =
      (nodes.map fun node => (node.metadata.name, profileNodeReady profile node)).insertionSort fun a
        b => a.1 ≤ b.1 := by
  rw [sortNodes, List.map_insertionSort (fun (a b : CellNodeStatus) => a.name ≤ b.name)
    (fun (a b : String × Bool) => a.1 ≤ b.1) _ _
    (fun _ _ _ _ => Iff.rfl), List.map_map]
  congr 1
  exact List.map_congr_left fun node _ => by simp [nodeStatus_name, nodeStatus_ready]

end InventoryAux
end KubeCell
