import KubeCell.Runtime
import KubeCell.Lib.Text

/-!
# Inventory

`host.ObserveNode` and `CellReconciler.projectInventory` with what they call: the nodes of the machine profile, the
requests of the pods that belong to VirtualClusters on the Cell, the storage and the node ports of the host. What the
reader answers is data: a reader may lack the storage or the service part, and each of its lists may fail.
-/

namespace KubeCell

/-- `setCellCondition`. -/
def Cell.setCondition (cell : Cell) (rt : Runtime) (conditionType : String) (status : ConditionStatus)
    (reason message : String) :
    Cell :=
  { cell with
    status.conditions := KubeCell.setCondition cell.status.conditions
      { type := conditionType, status := status, reason := reason, message := message
        observedGeneration := cell.metadata.generation } rt.now }

/-! ## Nodes -/

/-- `nodeReady`: the first condition on readiness says that the node is ready. -/
def nodeReady (node : Node) : Bool :=
  (node.conditions.find? fun condition => condition.type == "Ready").any (·.status == .true)

/-- The resources every node is asked for. -/
def baseResources : List String := ["cpu", "memory", "ephemeral-storage"]

/-- Copy one resource, if it is there. -/
def copyResource (source result : ResourceList) (name : String) : ResourceList :=
  match AList.lookup name source with
  | some quantity => result.insert name quantity
  | none => result

/-- The part of a resource list that is about some resources. -/
def copyResources (names : List String) (source : ResourceList) : ResourceList := names.foldl (copyResource source) ∅

/-- The reasons why a device keeps a node from being ready. -/
def deviceReasons (node : Node) (device : DeviceContract) : List String :=
  (if (node.capacity.qty device.resourceName).value ≤ 0 then ["MissingCapacity:" ++ device.resourceName] else []) ++
  (if (node.allocatable.qty device.resourceName).value ≤ 0 then ["MissingAllocatable:" ++ device.resourceName] else [])

/-- `ObserveNode`; a resource that is missing and one that is not positive are the same to it. -/
def observeNode (rt : Runtime) (node : Node) (profileName : String) (devices : List DeviceContract) : CellNodeStatus :=
  let resources := baseResources ++ devices.map (·.resourceName)
  { name := node.metadata.name
    profile := profileName
    ready := nodeReady node && node.metadata.labels.get Platform.profileLabelKey == profileName &&
      (devices.flatMap (deviceReasons node)).isEmpty
    capacity := copyResources resources node.capacity
    allocatable := copyResources resources node.allocatable
    readinessReasons :=
      (if !nodeReady node then ["NodeNotReady"] else []) ++
      (if node.metadata.labels.get Platform.profileLabelKey ≠ profileName then ["ProfileLabelMismatch"] else []) ++
      devices.flatMap (deviceReasons node)
    observedAt := rt.now }

/-! ## Pods -/

/-- What the pods ask for: by resource, and by node and resource. -/
structure PodAccount where
  inventory : GoMap InventoryStatus := ∅
  activeByNode : GoMap ResourceList := ∅
  pendingByNode : GoMap ResourceList := ∅

/-- The inventory of a resource, and the empty one for a resource that is not there. -/
def inventoryEntry (inventory : GoMap InventoryStatus) (name : String) : InventoryStatus :=
  (AList.lookup name inventory).getD {}

/-- `addResourceList`. -/
def addResourceList (target : GoMap ResourceList) (nodeName : String) (values : ResourceList) : GoMap ResourceList :=
  target.insert nodeName (((AList.lookup nodeName target).getD ∅).addAll values)

/-- Change the entry of each resource of a list by its quantity. -/
def updateEntries (inventory : GoMap InventoryStatus) (update : InventoryStatus → Quantity → InventoryStatus)
    (requests : ResourceList) : GoMap InventoryStatus :=
  requests.entries.foldl (fun inventory e => inventory.insert e.1 (update (inventoryEntry inventory e.1) e.2)) inventory

/-- The pod belongs to one of the K3k clusters and still holds, or waits for, resources. -/
def countsPod (clusterNames : List String) (pod : Pod) : Bool :=
  containsString clusterNames (pod.metadata.labels.get k3kClusterNameLabel) && pod.phase != .succeeded &&
    pod.phase != .failed

/-- One pod of the account. -/
def accountPod (clusterNames : List String) (account : PodAccount) (pod : Pod) : PodAccount :=
  if !countsPod clusterNames pod then account
  else
    let requests := effectivePodRequests pod
    if pod.phase = .pending then
      { account with
        pendingByNode := if pod.nodeName ≠ "" then addResourceList account.pendingByNode pod.nodeName requests
          else account.pendingByNode
        inventory := updateEntries account.inventory
          (fun entry q => { entry with pending := entry.pending.add q }) requests }
    else
      { account with
        activeByNode := if pod.nodeName ≠ "" then addResourceList account.activeByNode pod.nodeName requests
          else account.activeByNode
        inventory := updateEntries account.inventory
          (fun entry q => { entry with requested := entry.requested.add q }) requests }

/-- The account of all pods; without a pod reader there are none. -/
def accountPods (clusterNames : List String) (pods : Option (List Pod)) : PodAccount :=
  (pods.getD []).foldl (accountPod clusterNames) {}

/-! ## The aggregate of one resource -/

/-- The inventory of one resource, as the host package aggregates it. -/
structure ResourceInventory where
  capacity : Quantity := .newQuantity 0 .decimalSI
  allocatable : Quantity := .newQuantity 0 .decimalSI
  requested : Quantity := .newQuantity 0 .decimalSI
  pending : Quantity := .newQuantity 0 .decimalSI
  availableEstimate : Quantity := .zero

/-- Add the quantity of a resource, if it is there. -/
def addFound (total : Quantity) (source : ResourceList) (resourceName : String) : Quantity :=
  match AList.lookup resourceName source with
  | some quantity => total.add quantity
  | none => total

/-- One node of the aggregate. -/
def aggregateNode (resourceName : String) (result : ResourceInventory) (node : Node) : ResourceInventory :=
  { result with
    capacity := addFound result.capacity node.capacity resourceName
    allocatable := addFound result.allocatable node.allocatable resourceName }

/-- One pod of the aggregate. -/
def aggregatePod (k3kClusterName resourceName : String) (result : ResourceInventory) (pod : Pod) : ResourceInventory :=
  if pod.metadata.labels.get k3kClusterNameLabel ≠ k3kClusterName ∨ pod.phase = .succeeded ∨ pod.phase = .failed then
    result
  else
    let quantity := (effectivePodRequests pod).qty resourceName
    if pod.phase = .pending then { result with pending := result.pending.add quantity }
    else { result with requested := result.requested.add quantity }

/-- `AggregateResourceInventory`. -/
def aggregateResourceInventory (nodes : List Node) (pods : List Pod)
    (k3kClusterName resourceName : String) : ResourceInventory :=
  let result := pods.foldl (aggregatePod k3kClusterName resourceName) (nodes.foldl (aggregateNode resourceName) {})
  let available := result.allocatable.sub result.requested
  { result with
    availableEstimate := if available.value < 0 then .newQuantity 0 result.allocatable.format else available }

/-! ## The projection of nodes -/

/-- The status of one node of the host. -/
def nodeStatus (rt : Runtime) (profile : MachineProfile) (account : PodAccount) (node : Node) : CellNodeStatus :=
  if node.metadata.labels.get Platform.profileLabelKey ≠ profile.name then
    { name := node.metadata.name, readinessReasons := ["Unclassified"], observedAt := rt.now }
  else
    { observeNode rt node profile.name profile.devices with
      activeRequested := (AList.lookup node.metadata.name account.activeByNode).getD ∅
      pendingRequested := (AList.lookup node.metadata.name account.pendingByNode).getD ∅ }

/-- What one resource of a ready node adds to the inventory. -/
def addNodeResource (status : CellNodeStatus) (entry : InventoryStatus) (name : String)
    (quantity : Quantity) : InventoryStatus :=
  let allocatable := entry.allocatable.add (status.allocatable.qty name)
  let available := allocatable.sub entry.requested
  { entry with
    capacity := entry.capacity.add quantity
    allocatable := allocatable
    availableEstimate := if available.value < 0 then .newQuantity 0 allocatable.format else available }

/-- What one node adds to the inventory. -/
def addNode (inventory : GoMap InventoryStatus) (status : CellNodeStatus) : GoMap InventoryStatus :=
  if status.ready then
    status.capacity.entries.foldl
      (fun inventory e => inventory.insert e.1 (addNodeResource status (inventoryEntry inventory e.1) e.1 e.2))
      inventory
  else inventory

/-- The statuses of the nodes, sorted by name. -/
def sortNodes (statuses : List CellNodeStatus) : List CellNodeStatus :=
  statuses.insertionSort fun a b => a.name ≤ b.name

/-! ## Storage -/

/-- `topolvmNodeCapacity`: the free capacity a node is annotated with for a device class, and the name it has there. -/
def topolvmNodeCapacity (Γ : Ctx) (node : Node) (deviceClass : String) : Option (Quantity × String) :=
  let source := if deviceClass ≠ "" then deviceClass else "00default"
  match AList.lookup ("capacity.topolvm.io/" ++ source) node.metadata.annotations with
  | none => none
  | some value =>
    match Γ.parseQuantity value with
    | none => none
    | some quantity => if quantity.value ≥ 0 then some (quantity, source) else none

/-- `persistentVolumeNodeName`. -/
def persistentVolumeNodeName (pv : PersistentVolume) : String :=
  (((pv.nodeAffinity.getD []).flatMap (·.matchExpressions)).findSome? fun expression =>
    if expression.key = "kubernetes.io/hostname" ∧ expression.operator = "In" then
      match expression.values with
      | [value] => some value
      | _ => none
    else none).getD ""

/-- What a reader answers about storage. -/
structure StorageReader where
  persistentVolumes : Except Err (List PersistentVolume)
  persistentVolumeClaims : Except Err (List PersistentVolumeClaim)
  storageClasses : Except Err (List StorageClass)

/-- The storage of a class with one more bound volume. -/
def withVolume (pv : PersistentVolume) (entry : StorageInventoryStatus) : StorageInventoryStatus :=
  let size := pv.capacity.qty "storage"
  let nodeName := persistentVolumeNodeName pv
  let nodeEntry := (AList.lookup nodeName entry.nodes).getD {}
  { entry with
    allocatedPV := entry.allocatedPV.add size
    nodes := if nodeName ≠ "" then entry.nodes.insert nodeName
      { nodeEntry with allocatedPV := nodeEntry.allocatedPV.add size }
      else entry.nodes }

/-- Count a volume, if it is bound and of a known class. -/
def addVolume (classByName : GoMap StorageClass) (inventory : GoMap StorageInventoryStatus) (pv : PersistentVolume) :
    GoMap StorageInventoryStatus :=
  if !pv.bound || pv.storageClassName == "" || (AList.lookup pv.storageClassName classByName).isNone then inventory
  else inventory.insert pv.storageClassName (withVolume pv ((AList.lookup pv.storageClassName inventory).getD {}))

/-- The inventory of the classes, and on how many nodes each has a known capacity. -/
structure StorageAccount where
  inventory : GoMap StorageInventoryStatus
  capacityNodeCount : GoMap Nat := ∅

/-- The storage of a class with the free capacity of one more node. -/
def withCapacity (nodeName : String) (capacity : Quantity) (source : String) (entry : StorageInventoryStatus) :
    StorageInventoryStatus :=
  let nodeEntry := (AList.lookup nodeName entry.nodes).getD {}
  { entry with
    freeCapacity := some ((entry.freeCapacity.getD (.newQuantity 0 capacity.format)).add capacity)
    freeCapacityKnown := true
    freeCapacitySource := "TopoLVMNodeAnnotation:" ++ source
    fresh := true
    nodes := entry.nodes.insert nodeName
      { nodeEntry with
        freeCapacity := some capacity
        freeCapacityKnown := true
        freeCapacitySource := "TopoLVMNodeAnnotation:" ++ source
        fresh := true } }

/-- Count the capacity of one class on one node. -/
def addStorageCapacity (Γ : Ctx) (node : Node) (account : StorageAccount)
    (storageClass : StorageClass) : StorageAccount :=
  let name := storageClass.metadata.name
  match topolvmNodeCapacity Γ node (storageClass.parameters.get "topolvm.io/device-class") with
  | none => account
  | some (capacity, source) =>
    { capacityNodeCount := account.capacityNodeCount.insert name ((AList.lookup name account.capacityNodeCount).getD 0 + 1)
      inventory := account.inventory.insert name
        (withCapacity node.metadata.name capacity source ((AList.lookup name account.inventory).getD {})) }

/-- The names of the ready nodes, without duplicates. -/
def eligibleNodes (nodeStatuses : List CellNodeStatus) : List String :=
  ((nodeStatuses.filter (·.ready)).map (·.name)).dedup

/-- The classes of TopoLVM, by name; a later one takes the place of an earlier one of the same name. -/
def topolvmClasses (classes : List StorageClass) : GoMap StorageClass :=
  (classes.filter fun storageClass => storageClass.provisioner == "topolvm.io").foldl
    (fun result storageClass => result.insert storageClass.metadata.name storageClass) ∅

/-- The inventory of the classes before anything is counted. -/
def emptyStorage (rt : Runtime) (classByName : GoMap StorageClass) : GoMap StorageInventoryStatus :=
  classByName.entries.foldl
    (fun result e => result.insert e.1 { provisioner := e.2.provisioner, observedAt := rt.now }) ∅

/-- The storage inventory before it is decided whether it is complete. -/
def storageAccount (Γ : Ctx) (rt : Runtime) (pvs : List PersistentVolume) (classByName : GoMap StorageClass)
    (nodes : List Node) (eligible : List String) : StorageAccount :=
  (nodes.filter fun node => containsString eligible node.metadata.name).foldl
    (fun account node => classByName.entries.foldl (fun account e => addStorageCapacity Γ node account e.2) account)
    { inventory := pvs.foldl (addVolume classByName) (emptyStorage rt classByName) }

/-- The free capacity of a class is not known on every eligible node. -/
def incomplete (account : StorageAccount) (eligible : List String) (e : String × StorageInventoryStatus) : Bool :=
  !e.2.freeCapacityKnown || (AList.lookup e.1 account.capacityNodeCount).getD 0 != eligible.length

/-- The outcome of the projection of storage: the inventory, and the reason and text of what
failed, if something did. -/
structure StorageProjection where
  inventory : GoMap StorageInventoryStatus
  failure : Option (String × String) := none

/-- `projectStorageInventory`: the last loop stops at the first class whose free capacity is not known everywhere. -/
def projectStorageInventory (Γ : Ctx) (rt : Runtime) (reader : StorageReader) (nodes : List Node)
    (nodeStatuses : List CellNodeStatus) : StorageProjection :=
  match reader.persistentVolumes with
  | .error e => { inventory := ∅, failure := some ("PersistentVolumeReadFailed", e.message) }
  | .ok pvs =>
    match reader.persistentVolumeClaims with
    | .error e => { inventory := ∅, failure := some ("PersistentVolumeClaimReadFailed", e.message) }
    | .ok _ =>
      match reader.storageClasses with
      | .error e => { inventory := ∅, failure := some ("StorageClassReadFailed", e.message) }
      | .ok classes =>
        let eligible := eligibleNodes nodeStatuses
        let account := storageAccount Γ rt pvs (topolvmClasses classes) nodes eligible
        match (rt.range account.inventory).find? (incomplete account eligible) with
        | none => { inventory := account.inventory }
        | some (name, entry) =>
          { inventory := account.inventory.insert name
              { entry with freeCapacity := none, freeCapacityKnown := false, fresh := false }
            failure := some ("TopoLVMPhysicalCapacityUnknown",
              "TopoLVM physical free capacity has no certified observation source") }

/-! ## Node ports and the whole projection -/

/-- `projectNodePorts`, of the services that were read. -/
def projectNodePorts (rt : Runtime) (services : List Service) : NodePortInventoryStatus :=
  { allocated := ((services.flatMap (·.ports)).filterMap fun port =>
      if port.nodePort > 0 then some port.nodePort else none).insertionSort (· ≤ ·)
    observedAt := rt.now
    fresh := true }

/-- What an inventory reader answers, besides nodes and pods; a reader may lack a part. -/
structure InventoryReader where
  storage : Option StorageReader
  services : Option (Except Err (List Service))

/-- The status of the Cell before storage and node ports: the nodes and the resources. -/
def projectNodes (rt : Runtime) (cell : Cell) (nodes : List Node) (pods : Option (List Pod))
    (clusterNames : List String) : Cell :=
  let account := accountPods clusterNames pods
  let statuses := nodes.map (nodeStatus rt cell.spec.machineProfile account)
  { cell with
    status.nodes := sortNodes statuses
    status.inventory := statuses.foldl addNode account.inventory
    status.storageInventory := ∅ }

/-- `projectInventory`: the Cell afterwards, and whether the inventory is complete. -/
def projectInventory (Γ : Ctx) (rt : Runtime) (cell : Cell) (reader : InventoryReader) (nodes : List Node)
    (pods : Option (List Pod)) (clusterNames : List String) : Cell × Bool :=
  let cell := projectNodes rt cell nodes pods clusterNames
  if !cell.status.nodes.any (·.ready) then
    (cell.setCondition rt "AcceleratorReady" .false "NoReadyProfileNode" cell.spec.machineProfile.name, false)
  else
    match reader.storage with
    | none =>
      (cell.setCondition rt "InventoryFresh" .false "HostStorageReaderUnavailable"
        "Host inventory reader does not implement PV, PVC, and StorageClass observation", false)
    | some storage =>
      let projection := projectStorageInventory Γ rt storage nodes cell.status.nodes
      let cell := { cell with status.storageInventory := projection.inventory }
      match projection.failure with
      | some (reason, message) => (cell.setCondition rt "InventoryFresh" .false reason message, false)
      | none =>
        match reader.services with
        | some (.error e) =>
          let cell := { cell with status.nodePorts := { observedAt := rt.now } }
          (cell.setCondition rt "NodePortInventoryFresh" .false "ServiceReadFailed" e.message, false)
        | some (.ok services) =>
          let cell := { cell with status.nodePorts := projectNodePorts rt services }
          ((cell.setCondition rt "InventoryFresh" .true "HostInventoryObserved"
            "profile-labelled Host inventory observed").setCondition rt "AcceleratorReady" .true "HostResourcesObserved"
              "declared extended resources are available", true)
        | none =>
          let cell := { cell with status.nodePorts := { observedAt := rt.now } }
          let cell := cell.setCondition rt "NodePortInventoryFresh" .false "HostServiceReaderUnavailable"
            "Host inventory reader does not implement Service observation"
          ((cell.setCondition rt "InventoryFresh" .true "HostInventoryObserved"
            "profile-labelled Host inventory observed").setCondition rt "AcceleratorReady" .true "HostResourcesObserved"
              "declared extended resources are available", true)

end KubeCell
