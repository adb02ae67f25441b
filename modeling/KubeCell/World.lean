import KubeCell.Host
import KubeCell.Ocm
import KubeCell.Lib.Rounds

/-!
# The world of the reconcilers

The calls the reconcilers issue, to the API server of the management cluster and to a host or child cluster, and the
world that answers them. The API server keeps its objects in stores and answers from them, or fails without doing
anything; what a host or a child cluster answers is not determined at all. Reads go to the stores: that a client may
answer them from a cache that lags behind is left out.
-/

namespace KubeCell

instance : Resource VirtualCluster where
  metadata := VirtualCluster.metadata
  withMetadata o m := { o with metadata := m }
  withStatusOf o source := { o with status := (source.map (·.status)).getD {} }
  metadata_withMetadata _ _ := rfl
  metadata_withStatusOf _ _ := rfl

instance : Resource Cell where
  metadata := Cell.metadata
  withMetadata o m := { o with metadata := m }
  withStatusOf o source := { o with status := (source.map (·.status)).getD {} }
  metadata_withMetadata _ _ := rfl
  metadata_withStatusOf _ _ := rfl

instance : Resource VirtualNodeClass where
  metadata := VirtualNodeClass.metadata
  withMetadata o m := { o with metadata := m }
  withStatusOf o _ := o
  metadata_withMetadata _ _ := rfl
  metadata_withStatusOf _ _ := rfl

instance : Resource VirtualClusterPlan where
  metadata := VirtualClusterPlan.metadata
  withMetadata o m := { o with metadata := m }
  withStatusOf o source := { o with status := (source.map (·.status)).getD {} }
  metadata_withMetadata _ _ := rfl
  metadata_withStatusOf _ _ := rfl

instance : Resource ManagedCluster where
  metadata := ManagedCluster.metadata
  withMetadata o m := { o with metadata := m }
  withStatusOf o source := { o with conditions := (source.map (·.conditions)).getD [] }
  metadata_withMetadata _ _ := rfl
  metadata_withStatusOf _ _ := rfl

instance : Resource Lease where
  metadata := Lease.metadata
  withMetadata o m := { o with metadata := m }
  withStatusOf o _ := o
  metadata_withMetadata _ _ := rfl
  metadata_withStatusOf _ _ := rfl

instance : Resource Secret where
  metadata := Secret.metadata
  withMetadata o m := { o with metadata := m }
  withStatusOf o _ := o
  metadata_withMetadata _ _ := rfl
  metadata_withStatusOf _ _ := rfl

/-! ## Calls -/

/-- The calls to the API server of the management cluster. -/
inductive ApiCall where
  | getVirtualCluster (key : NamespacedName)
  | listVirtualClusters
  | updateVirtualCluster (o : VirtualCluster)
  | updateVirtualClusterStatus (o : VirtualCluster)
  | getCell (key : NamespacedName)
  | updateCell (o : Cell)
  | updateCellStatus (o : Cell)
  | getVirtualNodeClass (name : String)
  | getWork (key : NamespacedName)
  | createWork (o : ManifestWork)
  | patchWork (o : ManifestWork)
  | deleteWork (key : NamespacedName)
  | getSecret (key : NamespacedName)
  | createSecret (o : Secret)
  | updateSecret (o : Secret)
  | deleteSecret (key : NamespacedName)
  | getManagedCluster (name : String)
  | getLease (key : NamespacedName)
  | getVirtualClusterPlan (key : NamespacedName)
  | updateVirtualClusterPlanStatus (o : VirtualClusterPlan)

/-- What a call to the API server is answered with when it does not fail. -/
abbrev ApiCall.Res : ApiCall → Type
  | .getVirtualCluster _ | .updateVirtualCluster _ | .updateVirtualClusterStatus _ => VirtualCluster
  | .listVirtualClusters => List VirtualCluster
  | .getCell _ | .updateCell _ | .updateCellStatus _ => Cell
  | .getVirtualNodeClass _ => VirtualNodeClass
  | .getWork _ | .createWork _ | .patchWork _ => ManifestWork
  | .getSecret _ | .createSecret _ | .updateSecret _ => Secret
  | .deleteWork _ | .deleteSecret _ => Unit
  | .getManagedCluster _ => ManagedCluster
  | .getLease _ => Lease
  | .getVirtualClusterPlan _ | .updateVirtualClusterPlanStatus _ => VirtualClusterPlan

/-- `ChildObservation`; of the client it carries only whether there is one. -/
structure ChildObservation where
  apiReady : Bool := false
  logicalNodeName : String := ""
  logicalNodeReady : Bool := false
  nodePort : Int := 0
  endpoint : String := ""
  sourceSecretName : String := ""
  kubeconfig : List UInt8 := []
  storageClassReady : Bool := false
  hasClient : Bool := false
  deriving DecidableEq, Repr

/-- `BaselineObservation`. -/
structure BaselineObservation where
  namespaceReady : Bool := false
  k3kCRDsReady : Bool := false
  controllerReady : Bool := false
  cniReady : Bool := false
  topoLVMReady : Bool := false
  deriving DecidableEq, Repr

/-- What an inventory reader answers in a round: the nodes, the pods if it can list them, and the rest. -/
structure InventorySource where
  nodes : Except Err (List Node)
  pods : Option (Except Err (List Pod))
  reader : InventoryReader

/-- The calls to a host cluster, to the observer of a child cluster, and to a child cluster. -/
inductive HostCall where
  | hostReaderForCell (cell : Cell)
  | listNodes
  | getResourceQuota (ns name : String)
  | listPods (ns : String)
  | getPersistentVolumeClaim (ns name : String)
  | getPersistentVolume (name : String)
  | childObserverForCell (cell : Cell)
  | observe (cluster : VirtualCluster) (addresses : List String)
  | listIngresses
  | getService (ns name : String)
  | getEndpoints (ns name : String)
  | baselineReaderForCell (cell : Cell)
  | observeBaseline (cell : Cell)
  | inventoryReaderForCell (cell : Cell)
  | readInventory

/-- What such a call is answered with; a pointer that may be missing without an error is an `Option`. -/
abbrev HostCall.Res : HostCall → Type
  | .hostReaderForCell _ | .childObserverForCell _ => Except Err Unit
  | .listNodes => Except Err (List Node)
  | .getResourceQuota _ _ => Except Err (Option ResourceQuota)
  | .listPods _ => Except Err (List Pod)
  | .getPersistentVolumeClaim _ _ => Except Err (Option PersistentVolumeClaim)
  | .getPersistentVolume _ => Except Err (Option PersistentVolume)
  | .observe _ _ => Except Err ChildObservation
  | .listIngresses => Except Err (List Ingress)
  | .getService _ _ => Except Err Service
  | .getEndpoints _ _ => Except Err Endpoints
  | .baselineReaderForCell _ => Except Err (Option Unit)
  | .observeBaseline _ => Except Err BaselineObservation
  | .inventoryReaderForCell _ => Except Err (Option Unit)
  | .readInventory => InventorySource

/-- A call. -/
inductive Call where
  | api (call : ApiCall)
  | host (call : HostCall)

/-- What a call is answered with. -/
abbrev Call.Res : Call → Type
  | .api call => Except Err call.Res
  | .host call => call.Res

/-- A call that was answered, with its answer. -/
abbrev Event : Type := (call : Call) × call.Res

/-- The event of a call and its answer. -/
def event (call : Call) (answer : call.Res) : Event := ⟨call, answer⟩

/-- The programs of the reconcilers. -/
abbrev Action (α : Type) : Type := Prog Call Call.Res α

/-- Issue a call to the API server. -/
def api (call : ApiCall) : Action (Except Err call.Res) := .call (.api call) .ret

/-- Issue a call to a host or child cluster. -/
def host (call : HostCall) : Action call.Res := .call (.host call) .ret

/-! ## The world -/

/-- The objects of the management cluster, and the version the next change is given. -/
structure World where
  version : Nat := 1
  virtualClusters : Store VirtualCluster := .empty
  cells : Store Cell := .empty
  virtualNodeClasses : Store VirtualNodeClass := .empty
  works : Store ManifestWork := .empty
  secrets : Store Secret := .empty
  virtualClusterPlans : Store VirtualClusterPlan := .empty
  managedClusters : Store ManagedCluster := .empty
  leases : Store Lease := .empty

namespace World

/-- A new version of the world. -/
def next (w : World) : World := { w with version := w.version + 1 }

/-- How the API server answers a call, and the world afterwards. -/
def serve (w : World) : (call : ApiCall) → Except Err call.Res × World
  | .getVirtualCluster key => (w.virtualClusters.get key, w)
  | .listVirtualClusters => (.ok w.virtualClusters.list, w)
  | .updateVirtualCluster o =>
    ((w.virtualClusters.update w.version o).1,
      { w.next with virtualClusters := (w.virtualClusters.update w.version o).2 })
  | .updateVirtualClusterStatus o =>
    ((w.virtualClusters.updateStatus w.version o).1,
      { w.next with virtualClusters := (w.virtualClusters.updateStatus w.version o).2 })
  | .getCell key => (w.cells.get key, w)
  | .updateCell o => ((w.cells.update w.version o).1, { w.next with cells := (w.cells.update w.version o).2 })
  | .updateCellStatus o =>
    ((w.cells.updateStatus w.version o).1, { w.next with cells := (w.cells.updateStatus w.version o).2 })
  | .getVirtualNodeClass name => (w.virtualNodeClasses.get ⟨"", name⟩, w)
  | .getWork key => (w.works.get key, w)
  | .createWork o => ((w.works.create w.version o).1, { w.next with works := (w.works.create w.version o).2 })
  | .patchWork o =>
    ((w.works.apply mergeWork w.version o).1, { w.next with works := (w.works.apply mergeWork w.version o).2 })
  | .deleteWork key => ((w.works.delete w.version key).1, { w.next with works := (w.works.delete w.version key).2 })
  | .getSecret key => (w.secrets.get key, w)
  | .createSecret o => ((w.secrets.create w.version o).1, { w.next with secrets := (w.secrets.create w.version o).2 })
  | .updateSecret o => ((w.secrets.update w.version o).1, { w.next with secrets := (w.secrets.update w.version o).2 })
  | .deleteSecret key =>
    ((w.secrets.delete w.version key).1, { w.next with secrets := (w.secrets.delete w.version key).2 })
  | .getManagedCluster name => (w.managedClusters.get ⟨"", name⟩, w)
  | .getLease key => (w.leases.get key, w)
  | .getVirtualClusterPlan key => (w.virtualClusterPlans.get key, w)
  | .updateVirtualClusterPlanStatus o =>
    ((w.virtualClusterPlans.updateStatus w.version o).1,
      { w.next with virtualClusterPlans := (w.virtualClusterPlans.updateStatus w.version o).2 })

/-- How the world answers a call: the API server answers, or is not available for it, or does what is asked while its
answer is lost; a host or child cluster answers anything. -/
inductive Exec : World → (call : Call) → call.Res → World → Prop where
  | served (w : World) (call : ApiCall) : Exec w (.api call) (w.serve call).1 (w.serve call).2
  | unavailable (w : World) (call : ApiCall) (e : Err) : e.reason = .other → Exec w (.api call) (.error e) w
  | lost (w : World) (call : ApiCall) (e : Err) : e.reason = .other → Exec w (.api call) (.error e) (w.serve call).2
  | host (w : World) (call : HostCall) (answer : call.Res) : Exec w (.host call) answer w

/-- Answer a call with given answers of the host and child clusters. -/
def answer (hosts : (call : HostCall) → call.Res) (w : World) : (call : Call) → call.Res × World
  | .api call => w.serve call
  | .host call => (hosts call, w)

/-- Answering so is something the world may do. -/
theorem exec_answer (hosts : (call : HostCall) → call.Res) (w : World) (call : Call) :
    Exec w call (w.answer hosts call).1 (w.answer hosts call).2 := by
  cases call with
  | api call => exact .served w call
  | host call => exact .host w call (hosts call)

end World
end KubeCell
