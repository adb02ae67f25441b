import KubeCell.Inventory

/-!
# What the reconciler makes of the host

`discoverHostAPIAddresses`, `projectHostQuota` with `internal/provider/host/quota.go`, and
`projectPlacements`: the addresses of the host, the quota of the host namespace and the placements of the
child's pods, as they go into the status.
-/

namespace KubeCell

/-- The first internal address of a node that is not empty. -/
def internalIP (node : Node) : Option String :=
  (node.addresses.find? fun address => address.type == "InternalIP" && address.address != "").map (·.address)

/-- A node is ready to `discoverHostAPIAddresses` when some condition says so. -/
def saysReady (node : Node) : Bool :=
  node.conditions.any fun condition => condition.type == "Ready" && condition.status == .true

/-- `discoverHostAPIAddresses`: of the ready nodes, sorted by name. -/
def discoverHostAPIAddresses (nodes : List Node) : List String :=
  (((nodes.filter saysReady).filterMap fun node => (internalIP node).map fun address =>
    (node.metadata.name, address)).insertionSort
    fun a b => a.1 ≤ b.1).map (·.2)

/-! ## Quota -/

/-- `reservationForQuotaKey`: what is reserved under the key itself, or under the key without its prefix. -/
def reservationForQuotaKey (reservation : ResourceList) (quotaKey : String) : Option Quantity :=
  let under (pre : String) : Option Quantity :=
    if hasPrefix quotaKey pre then AList.lookup (cutPrefix quotaKey pre) reservation else none
  (AList.lookup quotaKey reservation).or ((under "requests.").or (under "limits."))

/-- What is left of one entry of a quota, but not less than nothing. -/
def headroom (used reservation : ResourceList) (name : String) (limit : Quantity) : Quantity :=
  let value : Quantity := match AList.lookup name used with
    | some current => limit.sub current
    | none => limit
  let value : Quantity := match reservationForQuotaKey reservation name with
    | some reserved => value.sub reserved
    | none => value
  if value.value < 0 then .newQuantity 0 limit.format else value

/-- `TenantHeadroom`. -/
def tenantHeadroom (hard used reservation : ResourceList) : ResourceList :=
  hard.entries.foldl (fun result e => result.insert e.1 (headroom used reservation e.1 e.2)) ∅

/-- `ReservationExceeded`. -/
def reservationExceeded (hard used reservation : ResourceList) : Bool :=
  used.entries.any fun e =>
    match AList.lookup e.1 hard with
    | none => false
    | some limit => decide (e.2.value > (limit.sub ((reservationForQuotaKey reservation e.1).getD .zero)).value)

/-- `projectHostQuota`. -/
def projectHostQuota (observation : HostClusterObservation) (reservation : ReservationSpec) : HostClusterObservation :=
  let hard := observation.quotaHard
  let used := observation.quotaUsed
  if hard.entries.isEmpty || used.entries.isEmpty then
    { observation with quotaReady := false, tenantHeadroom := ∅, reservation := ∅, reservationExceeded := false }
  else
    let combined := reservation.controlPlane.addAll reservation.reflectedSystem
    { observation with
      quotaReady := true
      reservation := combined
      tenantHeadroom := tenantHeadroom hard used combined
      reservationExceeded := reservationExceeded hard used combined }

/-! ## Placements -/

/-- `PVLocalNode`. -/
def pvLocalNode (pv : PersistentVolume) : Option String :=
  ((pv.nodeAffinity.getD []).flatMap (·.matchExpressions)).findSome? fun expression =>
    if expression.key = "kubernetes.io/hostname" ∧ expression.operator = "In" then
      match expression.values with
      | [value] => some value
      | _ => none
    else none

/-- What the projection of placements reads from the host; how an answer is got is left open. -/
structure VolumeReader (m : Type → Type) where
  getPersistentVolumeClaim : (ns name : String) → m (Except Err (Option PersistentVolumeClaim))
  getPersistentVolume : (name : String) → m (Except Err (Option PersistentVolume))

variable {m : Type → Type} [Monad m]

/-- `failureLayerHostSchedulingBlocked`. -/
def failureLayerHostSchedulingBlocked : String := "HostSchedulingBlocked"

/-- A placement whose volume claim is not bound. -/
def WorkloadPlacement.unbound (placement : WorkloadPlacement) (failureLayer : String) : WorkloadPlacement :=
  if failureLayer = failureLayerHostSchedulingBlocked then { placement with failureLayer := "StorageProvisioningBlocked" } else placement

/-- A placement with a volume on a node. -/
def WorkloadPlacement.withPVNode (placement : WorkloadPlacement) (pvNode : String) : WorkloadPlacement :=
  { placement with
    pvNode := pvNode
    failureLayer := if placement.hostNode ≠ "" ∧ placement.hostNode ≠ pvNode then "StorageLocalityBlocked"
      else placement.failureLayer }

/-- One volume of a pod. -/
def placeVolume (reader : VolumeReader m) (ns failureLayer : String) (placement : WorkloadPlacement) (volume : Volume) :
    m WorkloadPlacement := do
  match volume.persistentVolumeClaim with
  | none => return placement
  | some claimName =>
    match ← reader.getPersistentVolumeClaim ns claimName with
    | .error _ | .ok none => return placement.unbound failureLayer
    | .ok (some claim) =>
      if claim.volumeName = "" then return placement.unbound failureLayer
      match ← reader.getPersistentVolume claim.volumeName with
      | .error _ | .ok none => return placement
      | .ok (some pv) =>
        match pvLocalNode pv with
        | none => return placement
        | some pvNode => return placement.withPVNode pvNode

/-- One pod. -/
def placePod (rt : Runtime) (reader : VolumeReader m) (ns : String) (pod : Pod) : m WorkloadPlacement :=
  let failureLayer := if pod.phase = .pending then failureLayerHostSchedulingBlocked else ""
  pod.volumes.foldlM (placeVolume reader ns failureLayer)
    { childUID := pod.metadata.annotations.get "kubecell.io/child-uid"
      hostUID := pod.metadata.uid
      phase := if pod.phase = .unset then .pending else pod.phase
      hostNode := pod.nodeName
      requests := effectivePodRequests pod
      failureLayer := failureLayer
      observedAt := rt.now }

/-- `projectPlacements`. -/
def projectPlacements (rt : Runtime) (reader : VolumeReader m) (ns k3kClusterName : String) (pods : List Pod) :
    m (List WorkloadPlacement) := do
  let placements ←
    (pods.filter fun pod => pod.metadata.labels.get k3kClusterNameLabel == k3kClusterName).mapM (placePod rt reader ns)
  return placements.insertionSort fun a b => a.hostUID ≤ b.hostUID

end KubeCell
