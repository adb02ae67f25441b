import KubeCell.Core

/-!
# The KubeCell API

The types of `api/v1alpha1`: a `Cell` (one host cluster behind one OCM ManagedCluster), a `VirtualNodeClass` (an
entitlement), a `VirtualCluster` (a child cluster on a Cell), a `VirtualClusterPlan` (the question whether one could
be made), and the statuses the controllers keep on them; and the objects of OCM that the controllers read, the
`ManagedCluster` and its lease. The `ManifestWork` is in `Ocm`.
-/

namespace KubeCell

/-- `ManagementNamespace`: the only namespace that may hold Cells and VirtualClusters. -/
def managementNamespace : String := "kubecell-system"

/-- A reference to an object by name and, where the kind is namespaced, by namespace. -/
structure ObjectReference where
  name : String
  ns : String := ""
  deriving DecidableEq, Repr

/-! ## Cell -/

/-- A device resource the nodes of a machine profile offer. -/
structure DeviceContract where
  name : String
  resourceName : String
  deriving DecidableEq, Repr

/-- The machine profile of a Cell. -/
structure MachineProfile where
  name : String
  devices : List DeviceContract := []
  deriving DecidableEq, Repr

/-- The specification of a Cell. -/
structure CellSpec where
  managedClusterRef : ObjectReference
  machineProfile : MachineProfile
  deriving DecidableEq, Repr

/-- The phase of a Cell. -/
inductive CellPhase where
  | unset | pending | provisioning | ready | degraded | failed | deleting
  deriving DecidableEq, Repr

/-- What a Cell knows of its ManagedCluster. -/
structure ManagedClusterStatus where
  name : String := ""
  uid : String := ""
  joined : Bool := false
  available : Bool := false
  leaseFresh : Bool := false
  leaseRenewTime : Option Time := none
  deriving DecidableEq, Repr

/-- What a Cell knows of the host baseline. -/
structure ProviderStatus where
  k3kVersion : String := ""
  namespaceReady : Bool := false
  k3kCRDsReady : Bool := false
  controllerReady : Bool := false
  cniReady : Bool := false
  topoLVMReady : Bool := false
  deriving DecidableEq, Repr

/-- What a Cell knows of a host node. -/
structure CellNodeStatus where
  name : String
  profile : String := ""
  ready : Bool := false
  capacity : ResourceList := ∅
  allocatable : ResourceList := ∅
  activeRequested : ResourceList := ∅
  pendingRequested : ResourceList := ∅
  readinessReasons : List String := []
  observedAt : Time := 0

/-- The inventory of one resource over the ready nodes of the profile. -/
structure InventoryStatus where
  capacity : Quantity := .zero
  allocatable : Quantity := .zero
  requested : Quantity := .zero
  pending : Quantity := .zero
  availableEstimate : Quantity := .zero
  deriving DecidableEq, Repr

/-- The storage of one class on one node. -/
structure StorageNodeInventoryStatus where
  allocatedPV : Quantity := .zero
  freeCapacity : Option Quantity := none
  freeCapacityKnown : Bool := false
  freeCapacitySource : String := ""
  fresh : Bool := false
  deriving DecidableEq, Repr

/-- The storage of one class. -/
structure StorageInventoryStatus where
  provisioner : String := ""
  allocatedPV : Quantity := .zero
  nodes : GoMap StorageNodeInventoryStatus := ∅
  freeCapacity : Option Quantity := none
  freeCapacityKnown : Bool := false
  freeCapacitySource : String := ""
  observedAt : Time := 0
  fresh : Bool := false

/-- The node ports in use on the host. -/
structure NodePortInventoryStatus where
  allocated : List Int := []
  observedAt : Time := 0
  fresh : Bool := false
  deriving DecidableEq, Repr

/-- The status of a Cell. -/
structure CellStatus where
  observedGeneration : Nat := 0
  phase : CellPhase := .unset
  conditions : List Condition := []
  managedCluster : ManagedClusterStatus := {}
  provider : ProviderStatus := {}
  nodes : List CellNodeStatus := []
  inventory : GoMap InventoryStatus := ∅
  storageInventory : GoMap StorageInventoryStatus := ∅
  nodePorts : NodePortInventoryStatus := {}

/-- A Cell. -/
structure Cell where
  metadata : ObjectMeta
  spec : CellSpec
  status : CellStatus := {}

/-! ## VirtualNodeClass -/

/-- The specification of a class: its quota, by quota keys such as `requests.cpu`, and its storage class. -/
structure VirtualNodeClassSpec where
  workloadHard : ResourceList := ∅
  storageClassName : String

/-- A class. -/
structure VirtualNodeClass where
  metadata : ObjectMeta
  spec : VirtualNodeClassSpec

/-! ## VirtualCluster -/

/-- The specification of a VirtualCluster. -/
structure VirtualClusterSpec where
  cellRef : ObjectReference
  classRef : ObjectReference
  deriving DecidableEq, Repr

/-- The phase of a VirtualCluster. -/
inductive VirtualClusterPhase where
  | unset | pending | provisioning | ready | degraded | deleting | failed
  deriving DecidableEq, Repr

/-- The reservations of a snapshot. -/
structure ReservationSpec where
  controlPlane : ResourceList := ∅
  reflectedSystem : ResourceList := ∅
  policy : String := ""

/-- The mapping of the child's storage class to the host's. -/
structure StorageClassMapping where
  childName : String := ""
  hostName : String := ""
  volumeBindingMode : String := ""
  reclaimPolicy : String := ""
  allowVolumeExpansion : Bool := false
  deriving DecidableEq, Repr

/-- The snapshot of what a VirtualCluster was resolved to. -/
structure ResolvedSnapshot where
  cellUID : String := ""
  managedClusterName : String := ""
  classUID : String := ""
  profileHash : String := ""
  machineProfileName : String := ""
  k3kVersion : String := ""
  childK3sVersion : String := ""
  k3kChildVersion : String := ""
  childImageTag : String := ""
  hostNamespace : String := ""
  k3kClusterName : String := ""
  quota : ResourceList := ∅
  reservation : ReservationSpec := {}
  acceleratorKeys : List String := []
  storage : StorageClassMapping := {}
  hostPathTenantName : String := ""
  hostPathTenantRoot : String := ""

/-- What a VirtualCluster knows of one of its Works. -/
structure WorkReference where
  ns : String := ""
  name : String := ""
  uid : String := ""
  applied : Bool := false
  progressing : Bool := false
  failed : Bool := false
  deriving DecidableEq, Repr

/-- What a VirtualCluster knows of its two Works. -/
structure WorkReferences where
  foundation : WorkReference := {}
  instanceWork : WorkReference := {}
  deriving DecidableEq, Repr

/-- The endpoint of the child API. -/
structure EndpointStatus where
  address : String := ""
  nodePort : Int := 0
  urlHash : String := ""
  deriving DecidableEq, Repr

/-- What a VirtualCluster knows of its host namespace. -/
structure HostClusterObservation where
  ns : String := ""
  quotaReady : Bool := false
  quotaHard : ResourceList := ∅
  quotaUsed : ResourceList := ∅
  tenantHeadroom : ResourceList := ∅
  reservation : ResourceList := ∅
  reservationExceeded : Bool := false

/-- What a VirtualCluster knows of its child cluster. -/
structure ChildClusterObservation where
  apiReady : Bool := false
  logicalNodeName : String := ""
  logicalNodeReady : Bool := false
  storageClassReady : Bool := false
  deriving DecidableEq, Repr

/-- The published credential: names and hashes only. -/
structure CredentialStatus where
  secretName : String := ""
  sourceSecretName : String := ""
  endpointHash : String := ""
  observedResourceVersion : Nat := 0
  deriving DecidableEq, Repr

/-- The outcome of one feasibility check. -/
inductive CheckStatus where
  | passed | failed | unknown
  deriving DecidableEq, Repr

/-- One feasibility check. -/
structure PlanCheck where
  name : String
  status : CheckStatus
  reason : String
  message : String := ""
  observedAt : Time := 0
  deriving DecidableEq, Repr

/-- The decision over all feasibility checks. -/
inductive PlanDecision where
  | accepted | rejected | unknown
  deriving DecidableEq, Repr

/-- Where a pod of the child cluster runs on the host. -/
structure WorkloadPlacement where
  childUID : String := ""
  hostUID : String := ""
  phase : PodPhase := .unset
  hostNode : String := ""
  requests : ResourceList := ∅
  pvNode : String := ""
  failureLayer : String := ""
  observedAt : Time := 0

/-- The status of a VirtualCluster. -/
structure VirtualClusterStatus where
  observedGeneration : Nat := 0
  phase : VirtualClusterPhase := .unset
  conditions : List Condition := []
  resolved : ResolvedSnapshot := {}
  workRefs : WorkReferences := {}
  endpoint : EndpointStatus := {}
  host : HostClusterObservation := {}
  child : ChildClusterObservation := {}
  credential : CredentialStatus := {}
  feasibilityChecks : List PlanCheck := []
  placements : List WorkloadPlacement := []

/-- A VirtualCluster. -/
structure VirtualCluster where
  metadata : ObjectMeta
  spec : VirtualClusterSpec
  status : VirtualClusterStatus := {}

/-- The name a VirtualCluster is stored under. -/
abbrev VirtualCluster.key (v : VirtualCluster) : NamespacedName := v.metadata.key

/-- The VirtualCluster has been deleted and waits for its finalizers. -/
def VirtualCluster.deleting (v : VirtualCluster) : Bool := v.metadata.deletionTimestamp.isSome

/-- The name of the Cell a VirtualCluster refers to, as its reconciler looks it up. -/
def VirtualCluster.cellKey (v : VirtualCluster) : NamespacedName := ⟨v.spec.cellRef.ns, v.spec.cellRef.name⟩

/-! ## VirtualClusterPlan -/

/-- The specification of a plan: the VirtualCluster that would be made. -/
structure VirtualClusterPlanSpec where
  virtualCluster : VirtualClusterSpec
  deriving DecidableEq, Repr

/-- What a plan was resolved to. -/
structure VirtualClusterPlanResolvedSummary where
  cellUID : String := ""
  managedClusterName : String := ""
  classUID : String := ""
  profileHash : String := ""
  machineProfileName : String := ""
  k3kVersion : String := ""
  childK3sVersion : String := ""
  workloadRequests : ResourceList := ∅
  reservation : ResourceList := ∅
  storageClassName : String := ""

/-- The status of a plan; a plan that was not evaluated has no decision. -/
structure VirtualClusterPlanStatus where
  observedGeneration : Nat := 0
  phase : Option PlanDecision := none
  decision : Option PlanDecision := none
  checks : List PlanCheck := []
  resolved : VirtualClusterPlanResolvedSummary := {}
  inventoryObservedAt : Option Time := none
  inventoryFresh : Bool := false
  expiresAt : Option Time := none

/-- A plan. -/
structure VirtualClusterPlan where
  metadata : ObjectMeta
  spec : VirtualClusterPlanSpec
  status : VirtualClusterPlanStatus := {}

/-! ## ManagedCluster -/

/-- An OCM ManagedCluster. -/
structure ManagedCluster where
  metadata : ObjectMeta
  leaseDurationSeconds : Int := 0
  conditions : List Condition := []

/-- The lease that the agent of a ManagedCluster renews. -/
structure Lease where
  metadata : ObjectMeta
  renewTime : Option Time := none

end KubeCell
