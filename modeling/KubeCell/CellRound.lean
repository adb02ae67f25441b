import KubeCell.CellReconcile
import KubeCell.Round

/-!
# What a round for a Cell may do

The history of a round is the list of its calls with their answers. This module says, for every call that changes
something, what the history must hold for a round of the Cell reconciler to issue it (`CellPermitted`), and which
statuses it may end with (`CellExit`); that rounds issue no other calls is proved in `Lemmas.CellWalk`.
-/

namespace KubeCell

/-- The Cell carries the finalizer. -/
def Cell.held (cell : Cell) : Bool := containsString cell.metadata.finalizers cellFinalizer

/-- The Cell with the finalizer, as a round adds it. -/
def Cell.adopted (cell : Cell) : Cell :=
  { cell with metadata.finalizers := cell.metadata.finalizers ++ [cellFinalizer] }

/-- The Cell without the finalizer, as the deletion takes it away. -/
def Cell.released (cell : Cell) : Cell :=
  { cell with
    status.phase := .deleting
    metadata.finalizers := removeString cell.metadata.finalizers cellFinalizer }

/-- The Cell whose deletion waits for VirtualClusters. -/
def Cell.blocked (cell : Cell) (rt : Runtime) : Cell :=
  { cell with status.phase := .deleting }.setCondition rt "CleanupBlocked" .true "VirtualClustersExist"
    "Cell deletion is blocked until all referenced VirtualClusters are deleted"

/-- The round works on a Cell that is not being deleted: it was read with the finalizer, or given it. -/
inductive Opened (key : NamespacedName) : List Event → Cell → Prop where
  | read {cell : Cell} {rest : List Event} : cell.deleting = false → cell.held = true →
      Opened key (event (.api (.getCell key)) (.ok cell) :: rest) cell
  | adopted {cell₀ cell : Cell} {rest : List Event} : cell₀.deleting = false → cell₀.held = false →
      Opened key (event (.api (.getCell key)) (.ok cell₀) :: event (.api (.updateCell cell₀.adopted))
        (.ok cell) :: rest) cell

/-- The round works on a Cell that is being deleted and carries the finalizer. -/
inductive Closing (key : NamespacedName) : List Event → Cell → Prop where
  | read {cell : Cell} {rest : List Event} : cell.deleting = true → cell.held = true →
      Closing key (event (.api (.getCell key)) (.ok cell) :: rest) cell

/-! ## Writing the status -/

/-- A call that `updateCellStatus` makes. -/
def isCellStatusCall (e : Event) : Bool :=
  match e.1 with
  | .api (.getCell _) | .api (.updateCellStatus _) => true
  | _ => false

/-- The history up to the point where the round starts to write its status. -/
def cellExitHistory (h : List Event) : List Event := h.rdropWhile isCellStatusCall

/-! ## The exits of a round -/

/-- The baseline of the host was read. -/
def BaselineRead (h : List Event) : Prop := ∃ cell observation, Saw h (.host (.observeBaseline cell)) (.ok observation)

/-- A Cell after the round has looked at its ManagedCluster and at the baseline of the host. -/
structure Probed (cell probed : Cell) (connection : Connection) (providerReady : Bool) : Prop where
  metadata : probed.metadata = cell.metadata
  spec : probed.spec = cell.spec
  phase : probed.status.phase = cell.status.phase
  joined : probed.status.managedCluster.joined = connection.joined
  available : probed.status.managedCluster.available = connection.available
  leaseFresh : probed.status.managedCluster.leaseFresh = connection.leaseFresh
  provider : providerReady = (probed.status.provider.namespaceReady && probed.status.provider.k3kCRDsReady &&
    probed.status.provider.controllerReady && probed.status.provider.cniReady && probed.status.provider.topoLVMReady)
  providerReady : providerReady = true → conditionTrue probed.status.conditions "ProviderReady" = true
  fresh : conditionTrue probed.status.conditions "InventoryFresh" =
    conditionTrue cell.status.conditions "InventoryFresh"
  version : probed.status.provider.k3kVersion = Platform.k3kVersion
  inventory : probed.status.nodes = cell.status.nodes ∧ probed.status.storageInventory = cell.status.storageInventory ∧
    probed.status.nodePorts = cell.status.nodePorts

/-- What the round makes of the inventory at an answer: nothing was read, or the answers of a reader are projected. -/
inductive Surveyed (Γ : Ctx) (rt : Runtime) (cell : Cell) (names : List String) : Event → Cell × Bool → Prop where
  | unread {e : Event} (reason message : String) : (∀ source, e ≠ event (.host .readInventory) source) →
      Surveyed Γ rt cell names e (cell.setCondition rt "InventoryFresh" .false reason message, false)
  | read (source : InventorySource) :
      Surveyed Γ rt cell names (event (.host .readInventory) source) (projectSource Γ rt cell source names)

/-- The nodes and the pods a reader answers with, when it fails to list neither. -/
def InventorySource.listed (source : InventorySource) : Option (List Node × Option (List Pod)) :=
  match source.nodes, source.pods with
  | .ok nodes, none => some (nodes, none)
  | .ok nodes, some (.ok pods) => some (nodes, some pods)
  | _, _ => none

/-- The inventory is not complete, and the projection does not say so in the condition on it: no node of the profile
is ready, or the services cannot be listed when the storage is complete. -/
inductive Overlooks (Γ : Ctx) (rt : Runtime) (cell : Cell) (source : InventorySource) (names : List String) : Prop where
  | unready {nodes : List Node} {pods : Option (List Pod)} : source.listed = some (nodes, pods) →
      (projectNodes rt cell nodes pods names).status.nodes.any (·.ready) = false → Overlooks Γ rt cell source names
  | services {nodes : List Node} {pods : Option (List Pod)} {storage : StorageReader} {e : Err} :
      source.listed = some (nodes, pods) → (projectNodes rt cell nodes pods names).status.nodes.any (·.ready) = true →
      source.reader.storage = some storage →
      (projectStorageInventory Γ rt storage nodes (projectNodes rt cell nodes pods names).status.nodes).failure = none →
      source.reader.services = some (.error e) → Overlooks Γ rt cell source names

/-- The VirtualClusters that were listed last. -/
def listedClusters (h : List Event) : List VirtualCluster :=
  (h.reverse.findSome? fun e =>
    match e with
    | ⟨.api .listVirtualClusters, .ok clusters⟩ => some clusters
    | _ => none).getD []

/-- The statuses a round may end with, with the history that ends at the answer the exit is taken at. -/
inductive CellExit (Γ : Ctx) (rt : Runtime) (cell : Cell) : List Event → CellStatus → Prop where
  | missing {h : List Event} {name : String} {e : Err} : e.isNotFound = true → ¬BaselineRead h →
      CellExit Γ rt cell (h ++ [event (.api (.getManagedCluster name)) (.error e)]) (cell.disconnected rt).status
  | unlisted {h : List Event} {e : Err} {probed : Cell} {connection : Connection} {providerReady : Bool} :
      Probed cell probed connection providerReady →
      CellExit Γ rt cell (h ++ [event (.api .listVirtualClusters) (.error e)])
        (probed.setCondition rt "InventoryFresh" .false "VirtualClusterListFailed" e.message).status
  | settled {h : List Event} {e : Event} {probed surveyed : Cell} {connection : Connection}
    {providerReady inventoryReady : Bool} :
      Probed cell probed connection providerReady →
      (∀ name answer, e ≠ event (.api (.getManagedCluster name)) answer) →
        (∀ e', e ≠ event (.api .listVirtualClusters) (.error e')) →
      Surveyed Γ rt probed (clusterNames cell (listedClusters (h ++ [e]))) e (surveyed, inventoryReady) →
      CellExit Γ rt cell (h ++ [e]) (surveyed.settled rt connection providerReady inventoryReady).status

/-- A call of the Cell reconciler that changes nothing. -/
def isCellRead : ApiCall → Bool
  | .getCell _ | .listVirtualClusters | .getManagedCluster _ | .getLease _ => true
  | _ => false

/-- The calls a round may issue after a history. -/
inductive CellPermitted (Γ : Ctx) (rt : Runtime) (key : NamespacedName) (h : List Event) : Call → Prop where
  | host (call : HostCall) : CellPermitted Γ rt key h (.host call)
  | read {call : ApiCall} : isCellRead call = true → CellPermitted Γ rt key h (.api call)
  | adopt {cell : Cell} : h = [event (.api (.getCell key)) (.ok cell)] → cell.deleting = false → cell.held = false →
      CellPermitted Γ rt key h (.api (.updateCell cell.adopted))
  | release {cell : Cell} {clusters : List VirtualCluster} :
    Closing key h cell → Saw h (.api .listVirtualClusters) (.ok clusters) →
      clusters.any (·.refersTo cell) = false → CellPermitted Γ rt key h (.api (.updateCell cell.released))
  | persist {h₀ tail : List Event} {cell current o : Cell} : h = h₀ ++ tail → (∀ e ∈ tail, isCellStatusCall e = true) →
      cellExitHistory h₀ = h₀ →
      (Opened key h₀ cell ∧ CellExit Γ rt cell h₀ o.status ∨
        Closing key h₀ cell ∧ ¬BaselineRead h₀ ∧ o.status = (cell.blocked rt).status) →
      Saw h (.api (.getCell cell.key)) (.ok current) → o = { current with status := o.status } →
      CellPermitted Γ rt key h (.api (.updateCellStatus o))

end KubeCell
