import KubeCell.Reconcile

/-!
# The Cell reconciler

`internal/controller/cell_controller.go`: a round of `CellReconciler.Reconcile`, as a program of calls. A round
looks at the ManagedCluster and its lease, at the baseline of the host, and at its inventory, and keeps what it
finds in the status of the Cell; each look may fail, and the round goes on with what is left. What an inventory
reader lists is read in one call.
-/

namespace KubeCell

/-- What the Cell reconciler is set up with. -/
structure CellConfig where
  hasInventoryReader : Bool := false
  hasInventoryReaderFactory : Bool := false
  hasBaselineReader : Bool := false
  hasBaselineReaderFactory : Bool := false
  deriving DecidableEq, Repr

/-- `cellFinalizer`. -/
def cellFinalizer : String := "kubecell.io/cell-finalizer"

/-- The name a Cell is stored under. -/
abbrev Cell.key (cell : Cell) : NamespacedName := cell.metadata.key

/-- The Cell has been deleted and waits for its finalizers. -/
def Cell.deleting (cell : Cell) : Bool := cell.metadata.deletionTimestamp.isSome

/-! ## Writing the status -/

/-- One try of `updateCellStatus`: the status is put on the object as it is now. -/
def tryUpdateCellStatus (desired : Cell) : Action (Except Err Unit) := do
  match ← api (.getCell desired.key) with
  | .error e => return .error e
  | .ok current =>
    match ← api (.updateCellStatus { current with status := desired.status }) with
    | .error e => return .error e
    | .ok _ => return .ok ()

/-- `updateCellStatus`. -/
def updateCellStatus (desired : Cell) : Action (Except Err Unit) := retryOnConflict (tryUpdateCellStatus desired) 4

/-- The end of a round that keeps its status. -/
def persistCell (desired : Cell) (requeueAfter : Nat) : Action (Except Err Result) := do
  match ← updateCellStatus desired with
  | .error e => return .error e
  | .ok () => return .ok { requeueAfter := some requeueAfter }

/-! ## Deletion -/

/-- The VirtualCluster refers to the Cell. -/
def VirtualCluster.refersTo (cluster : VirtualCluster) (cell : Cell) : Bool :=
  cluster.spec.cellRef.name == cell.metadata.name && cluster.spec.cellRef.ns == cell.metadata.ns

/-- `CellReconciler.reconcileDeletion`. -/
def cellReconcileDeletion (rt : Runtime) (cell : Cell) : Action (Except Err Result) := do
  if !containsString cell.metadata.finalizers cellFinalizer then return .ok {}
  match ← api .listVirtualClusters with
  | .error e => return .error e
  | .ok clusters =>
    if clusters.any (·.refersTo cell) then
      persistCell ({ cell with status.phase := .deleting }.setCondition rt "CleanupBlocked" .true "VirtualClustersExist"
        "Cell deletion is blocked until all referenced VirtualClusters are deleted") 15
    else
      match ← api (.updateCell
          { cell with
            status.phase := .deleting
            metadata.finalizers := removeString cell.metadata.finalizers cellFinalizer }) with
      | .error e => return .error e
      | .ok _ => return .ok {}

/-! ## The ManagedCluster and its lease -/

/-- A lease that was renewed at a time is still good; a ManagedCluster that names no duration has one of a minute. -/
def leaseFresh (rt : Runtime) (managedCluster : ManagedCluster) (renewTime : Time) : Bool :=
  let duration : Int := if managedCluster.leaseDurationSeconds ≤ 0 then 60 else managedCluster.leaseDurationSeconds
  decide ((renewTime : Int) + duration > rt.now)

/-- `managedClusterLeaseFresh`. -/
def managedClusterLeaseFresh (rt : Runtime) (managedCluster : ManagedCluster) :
    Action (Except Err (Bool × Option Time)) := do
  match ← api (.getLease ⟨managedCluster.metadata.name, "managed-cluster-lease"⟩) with
  | .error e => return if e.isNotFound then .ok (false, none) else .error e
  | .ok lease =>
    match lease.renewTime with
    | none => return .ok (false, none)
    | some renewTime => return .ok (leaseFresh rt managedCluster renewTime, some renewTime)

/-- What a round has found of the ManagedCluster. -/
structure Connection where
  joined : Bool
  availableCondition : Bool
  lease : Except Err (Bool × Option Time)

/-- The lease was read and is good. -/
def Connection.leaseFresh (connection : Connection) : Bool := (connection.lease.toOption.map (·.1)).getD false

/-- The ManagedCluster says that it is available, and its lease is good. -/
def Connection.available (connection : Connection) : Bool := connection.availableCondition && connection.leaseFresh

/-- What a ManagedCluster and its lease say. -/
def connectionOf (managedCluster : ManagedCluster) (lease : Except Err (Bool × Option Time)) : Connection :=
  { joined := conditionTrue managedCluster.conditions "ManagedClusterJoined"
    availableCondition := conditionTrue managedCluster.conditions "ManagedClusterConditionAvailable"
    lease := lease }

/-- The Cell with what was found of its ManagedCluster. -/
def Cell.connected (cell : Cell) (rt : Runtime) (managedCluster : ManagedCluster) (connection : Connection) : Cell :=
  let cell : Cell :=
    { cell with
      status.observedGeneration := cell.metadata.generation
      status.managedCluster :=
        { name := managedCluster.metadata.name, uid := managedCluster.metadata.uid, joined := connection.joined
          available := connection.available, leaseFresh := connection.leaseFresh
          leaseRenewTime := (connection.lease.toOption.map (·.2)).getD none } }
  match connection.lease with
  | .error e => cell.setCondition rt "Available" .false "ManagedClusterLeaseReadFailed" e.message
  | .ok _ =>
    if connection.availableCondition && !connection.leaseFresh then
      cell.setCondition rt "Available" .false "ManagedClusterLeaseStale"
        "OCM ManagedCluster lease is missing or expired"
    else cell

/-- The Cell whose ManagedCluster is not there. -/
def Cell.disconnected (cell : Cell) (rt : Runtime) : Cell :=
  { cell with
    status.phase := .degraded
    status.managedCluster := { name := cell.spec.managedClusterRef.name } }.setCondition rt "Joined" .false
      "ManagedClusterNotFound"
    "referenced OCM ManagedCluster does not exist"

/-! ## The baseline of the host -/

/-- What a round has found of the baseline: nothing when there is no reader, or when it fails. -/
structure Baseline where
  observation : BaselineObservation := {}
  observed : Bool := false
  deriving DecidableEq, Repr

/-- All five parts are ready. -/
def BaselineObservation.ready (observation : BaselineObservation) : Bool :=
  observation.namespaceReady && observation.k3kCRDsReady && observation.controllerReady && observation.cniReady &&
    observation.topoLVMReady

/-- The part of `Reconcile` that asks a reader for the baseline. -/
def askBaseline (rt : Runtime) (cell : Cell) : Action (Cell × Baseline) := do
  match ← host (.observeBaseline cell) with
  | .error e => return (cell.setCondition rt "ProviderReady" .false "HostBaselineReadFailed" e.message, {})
  | .ok observed => return (cell, { observation := observed, observed := true })

/-- The Cell when there is no reader of the baseline. -/
def Cell.withoutBaseline (cell : Cell) (rt : Runtime) : Cell :=
  cell.setCondition rt "ProviderReady" .false "HostReaderUnavailable" "Host baseline reader is not configured"

/-- The baseline is asked of the reader the reconciler is set up with, or else of one made for the Cell. -/
def observeBaseline (cfg : CellConfig) (rt : Runtime) (cell : Cell) : Action (Cell × Baseline) := do
  if cfg.hasBaselineReader then askBaseline rt cell
  else if cfg.hasBaselineReaderFactory then
    match ← host (.baselineReaderForCell cell) with
    | .error e => return (cell.setCondition rt "ProviderReady" .false "HostReaderUnavailable" e.message, {})
    | .ok none => return (cell.withoutBaseline rt, {})
    | .ok (some ()) => askBaseline rt cell
  else return (cell.withoutBaseline rt, {})

/-- The Cell with what was found of the baseline. -/
def Cell.withBaseline (cell : Cell) (rt : Runtime) (baseline : Baseline) : Cell :=
  let observation := baseline.observation
  let cell : Cell :=
    { cell with
      status.provider :=
        { k3kVersion := Platform.k3kVersion, namespaceReady := observation.namespaceReady, k3kCRDsReady := observation.k3kCRDsReady
          controllerReady := observation.controllerReady, cniReady := observation.cniReady
          topoLVMReady := observation.topoLVMReady } }
  if observation.ready then
    cell.setCondition rt "ProviderReady" .true "HostBaselineReady" "K3k, Host CNI, and TopoLVM baseline is ready"
  else if baseline.observed then
    cell.setCondition rt "ProviderReady" .false "HostBaselineNotReady"
      "one or more required Host baseline components are not ready"
  else cell

/-! ## The inventory -/

/-- The K3k clusters whose pods count for the Cell. -/
def clusterNames (cell : Cell) (clusters : List VirtualCluster) : List String :=
  (clusters.filter fun cluster => cluster.refersTo cell && cluster.status.resolved.k3kClusterName != "").map
    (·.status.resolved.k3kClusterName)

/-- What is made of the answers of an inventory reader: the Cell afterwards, and whether the inventory is complete. -/
def projectSource (Γ : Ctx) (rt : Runtime) (cell : Cell) (source : InventorySource)
    (clusterNames : List String) : Cell × Bool :=
  match source.nodes with
  | .error e => (cell.setCondition rt "InventoryFresh" .false "HostReadFailed" e.message, false)
  | .ok nodes =>
    match source.pods with
    | some (.error e) => (cell.setCondition rt "InventoryFresh" .false "HostReadFailed" e.message, false)
    | some (.ok pods) => projectInventory Γ rt cell source.reader nodes (some pods) clusterNames
    | none => projectInventory Γ rt cell source.reader nodes none clusterNames

/-- The part of `Reconcile` that asks a reader for the inventory. -/
def askInventory (Γ : Ctx) (rt : Runtime) (cell : Cell) (clusterNames : List String) : Action (Cell × Bool) := do
  let source ← host .readInventory
  return projectSource Γ rt cell source clusterNames

/-- The Cell when there is no reader of the inventory. -/
def Cell.withoutInventory (cell : Cell) (rt : Runtime) : Cell :=
  cell.setCondition rt "InventoryFresh" .false "HostReaderUnavailable" "Host inventory reader is not configured"

/-- The inventory is asked of the reader the reconciler is set up with, or else of one made for the Cell. -/
def observeInventory (Γ : Ctx) (cfg : CellConfig) (rt : Runtime) (cell : Cell) (clusterNames : List String) :
    Action (Cell × Bool) := do
  if cfg.hasInventoryReader then askInventory Γ rt cell clusterNames
  else if cfg.hasInventoryReaderFactory then
    match ← host (.inventoryReaderForCell cell) with
    | .error e => return (cell.setCondition rt "InventoryFresh" .false "HostReaderUnavailable" e.message, false)
    | .ok none => return (cell.withoutInventory rt, false)
    | .ok (some ()) => askInventory Γ rt cell clusterNames
  else return (cell.withoutInventory rt, false)

/-! ## The round -/

/-- The Cell at the end of a round, with its phase. -/
def Cell.settled (cell : Cell) (rt : Runtime) (connection : Connection) (providerReady inventoryReady : Bool) : Cell :=
  if connection.joined && connection.available && providerReady && inventoryReady then
    ({ cell with status.phase := .ready }.setCondition rt "Joined" .true "ManagedClusterJoined"
      "OCM ManagedCluster is joined").setCondition rt "Available" .true "ManagedClusterAvailable"
        "OCM ManagedCluster is available"
  else
    let cell := { cell with status.phase := .degraded }.setCondition rt "Joined" (conditionStatus connection.joined)
      "ManagedClusterState" "OCM ManagedCluster joined state is not ready"
    if connection.lease.isOk && (!connection.availableCondition || connection.leaseFresh) then
      cell.setCondition rt "Available" (conditionStatus connection.available) "ManagedClusterState"
        "OCM ManagedCluster available state is not ready"
    else cell

section Stages

variable (Γ : Ctx) (cfg : CellConfig) (rt : Runtime)

/-- The inventory is observed, and the status is written. -/
def inventoryStage (cell : Cell) (connection : Connection) (providerReady : Bool) : Action (Except Err Result) := do
  match ← api .listVirtualClusters with
  | .error e => persistCell (cell.setCondition rt "InventoryFresh" .false "VirtualClusterListFailed" e.message) 10
  | .ok clusters =>
    let (cell, inventoryReady) ← observeInventory Γ cfg rt cell (clusterNames cell clusters)
    persistCell (cell.settled rt connection providerReady inventoryReady)
      (if connection.joined && connection.available then 30 else 10)

/-- The baseline is observed. -/
def baselineStage (cell : Cell) (connection : Connection) : Action (Except Err Result) := do
  let (cell, baseline) ← observeBaseline cfg rt cell
  inventoryStage Γ cfg rt (cell.withBaseline rt baseline) connection baseline.observation.ready

/-- The ManagedCluster and its lease are read. -/
def managedClusterStage (cell : Cell) : Action (Except Err Result) := do
  match ← api (.getManagedCluster cell.spec.managedClusterRef.name) with
  | .error e =>
    if !e.isNotFound then return .error e
    persistCell (cell.disconnected rt) 10
  | .ok managedCluster =>
    let connection := connectionOf managedCluster (← managedClusterLeaseFresh rt managedCluster)
    baselineStage Γ cfg rt (cell.connected rt managedCluster connection) connection

/-- `CellReconciler.Reconcile`. -/
def cellReconcile (key : NamespacedName) : Action (Except Err Result) := do
  match ← api (.getCell key) with
  | .error e => return if e.isNotFound then .ok {} else .error e
  | .ok cell =>
    if cell.deleting then cellReconcileDeletion rt cell
    else if !containsString cell.metadata.finalizers cellFinalizer then
      match ← api (.updateCell { cell with metadata.finalizers := cell.metadata.finalizers ++ [cellFinalizer] }) with
      | .error e => return .error e
      | .ok cell => managedClusterStage Γ cfg rt cell
    else managedClusterStage Γ cfg rt cell

end Stages
end KubeCell
