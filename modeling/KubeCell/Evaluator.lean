import KubeCell.Inventory
import KubeCell.Resolution

/-!
# The plan evaluator

`internal/controller/plan_evaluator.go`: the feasibility checks of a VirtualCluster against the status of its Cell,
and the decision over them. The VirtualCluster itself is not looked at, only the Cell and the class are.
-/

namespace KubeCell

/-- The outcome of an evaluation; of the summary nothing here reads more than the checks. -/
structure PlanEvaluation where
  decision : PlanDecision
  checks : List PlanCheck
  inventoryObservedAt : Option Time := none
  inventoryFresh : Bool := false
  expiresAt : Option Time := none

/-- `planFreshnessWindow`, in seconds. -/
def planFreshnessWindow : Time := 300

/-- `boundedWorkMessage`. -/
def boundedWorkMessage (message fallback : String) : String :=
  if message = "" then fallback
  else if message.length > 1024 then String.ofList (message.toList.take 1024)
  else message

/-- `planCheck`. -/
def planCheck (rt : Runtime) (name : String) (status : CheckStatus) (reason message : String) : PlanCheck :=
  { name := name, status := status, reason := reason, message := boundedWorkMessage message "", observedAt := rt.now }

/-- A check that passes when a condition holds and is not decided otherwise. -/
def unlessUnknown (rt : Runtime) (name : String) (holds : Bool)
    (passReason passMessage unknownReason unknownMessage : String) :
    PlanCheck :=
  if holds then planCheck rt name .passed passReason passMessage
  else planCheck rt name .unknown unknownReason unknownMessage

/-- `entitlementRequests`. -/
def entitlementRequests (hard : ResourceList) : ResourceList :=
  hard.entries.foldl
    (fun result e =>
      let name := cutPrefix e.1 "requests."
      if name = e.1 then result else result.insert name e.2)
    ∅

/-- `cellAvailabilityCheck`. -/
def cellAvailabilityCheck (rt : Runtime) (cell : Cell) : PlanCheck :=
  unlessUnknown rt "CellAvailable"
    (cell.status.phase == .ready && cell.status.managedCluster.joined && cell.status.managedCluster.available)
    "ManagedClusterAvailable" "referenced Cell is Ready" "CellNotReady" "referenced Cell is not Ready"

/-- `leaseFreshnessCheck`. -/
def leaseFreshnessCheck (rt : Runtime) (cell : Cell) : PlanCheck :=
  unlessUnknown rt "OCMLeaseFresh" cell.status.managedCluster.leaseFresh
    "LeaseFresh" "OCM ManagedCluster lease is current" "LeaseStale" "OCM ManagedCluster lease is missing or stale"

/-- `hostBaselineCheck`. -/
def hostBaselineCheck (rt : Runtime) (cell : Cell) : PlanCheck :=
  let provider := cell.status.provider
  unlessUnknown rt "HostBaseline"
    (provider.namespaceReady && provider.k3kCRDsReady && provider.controllerReady && provider.cniReady &&
      provider.topoLVMReady)
    "HostBaselineReady" "K3k, CNI, and TopoLVM baseline is ready"
    "HostBaselineNotReady" "one or more required Host baseline components are not ready"

/-- `inventoryFreshnessCheck`. -/
def inventoryFreshnessCheck (rt : Runtime) (cell : Cell) : PlanCheck :=
  unlessUnknown rt "InventoryFresh" (conditionTrue cell.status.conditions "InventoryFresh")
    "InventoryFresh" "Host inventory sources are current"
    "InventoryStale" "Host inventory is unavailable, stale, or incomplete"

/-- `lockedVersionCheck`. -/
def lockedVersionCheck (rt : Runtime) (cell : Cell) : PlanCheck :=
  let observed := cell.status.provider.k3kVersion
  if observed = "" then
    planCheck rt "LockedVersions" .unknown "VersionNotObserved" "Host K3k version has not been observed yet"
  else if observed ≠ Platform.k3kVersion then
    planCheck rt "LockedVersions" .failed "UnsupportedVersionProfile" s!"requires K3k {Platform.k3kVersion}"
  else
    planCheck rt "LockedVersions" .passed "LockedVersionProfile" "observed Host K3k version matches the locked profile"

/-- `capacityCheck`. -/
def capacityCheck (rt : Runtime) (name : String) (inventory : InventoryStatus) (required : Quantity) : PlanCheck :=
  if inventory.allocatable.value = 0 ∧ inventory.availableEstimate.value = 0 then
    planCheck rt name .unknown "InventoryMissing" "required resource is absent from the current Cell inventory"
  else if inventory.availableEstimate.value < required.value then
    planCheck rt name .failed "InsufficientCapacity"
      s!"requires {required.string} but only {inventory.availableEstimate.string} is currently estimated available"
  else
    planCheck rt name .passed "CapacityAvailable" "current aggregate inventory can cover the requested envelope"

/-- A node of the profile whose free part covers a request for a resource. -/
def nodeCovers (name : String) (required : Quantity) (node : CellNodeStatus) : Bool :=
  decide (required.value ≤ ((node.allocatable.qty name).sub (node.activeRequested.qty name)).value)

/-- The loop of `acceleratorCheck` over the requests, with the ready nodes of the profile. -/
def acceleratorLoop (rt : Runtime) (nodes : List CellNodeStatus) : List (String × Quantity) → PlanCheck
  | [] => planCheck rt "Accelerators" .passed "LocalCapacityAvailable"
      "a selected-profile Host Node can satisfy each declared accelerator entitlement"
  | (name, required) :: rest =>
    if required.value = 0 then acceleratorLoop rt nodes rest
    else if nodes.any (nodeCovers name required) then acceleratorLoop rt nodes rest
    else if nodes.isEmpty then
      planCheck rt "Accelerators" .unknown "ProfileLocalityUnknown"
        "no Ready per-Node inventory exists for the selected machine profile"
    else
      planCheck rt "Accelerators" .failed "InsufficientLocalCapacity"
        s!"no selected-profile Host Node has {required.string} available for {name}"

/-- `acceleratorCheck`. -/
def acceleratorCheck (rt : Runtime) (cell : Cell) (profileName : String) (requests : ResourceList) : PlanCheck :=
  acceleratorLoop rt (cell.status.nodes.filter fun node => node.ready && node.profile == profileName)
    (rt.range requests)

/-- What a check of capacity is called. -/
def nameToPlanCheck (resourceName : String) : String :=
  if resourceName = "cpu" then "CPU" else if resourceName = "memory" then "Memory"
  else if resourceName = "ephemeral-storage" then "EphemeralStorage" else resourceName

/-- What is asked of the aggregate inventory for a resource: the entitlement and the reservations. -/
def requiredCapacity (virtualNodeClass : VirtualNodeClass) (name : String) : Quantity :=
  ((entitlementRequests virtualNodeClass.spec.workloadHard).qty name).add (Platform.combinedReservation.qty name)

/-- What is asked of single nodes: the entitlement to each declared device. -/
def acceleratorRequests (cell : Cell) (virtualNodeClass : VirtualNodeClass) : ResourceList :=
  cell.spec.machineProfile.devices.foldl
    (fun result contract =>
      result.insert contract.resourceName
        ((entitlementRequests virtualNodeClass.spec.workloadHard).qty contract.resourceName)) ∅

/-- `computeChecks`. -/
def computeChecks (rt : Runtime) (cell : Cell) (virtualNodeClass : VirtualNodeClass) : List PlanCheck :=
  (baseResources.map fun name =>
    capacityCheck rt (nameToPlanCheck name) (inventoryEntry cell.status.inventory name)
      (requiredCapacity virtualNodeClass name)) ++
  [acceleratorCheck rt cell cell.spec.machineProfile.name (acceleratorRequests cell virtualNodeClass)]

/-- The entry of a quota is a request without an equal limit. -/
def lacksEqualLimit (hard : ResourceList) (e : String × Quantity) : Bool :=
  hasPrefix e.1 "requests." &&
    match AList.lookup ("limits." ++ cutPrefix e.1 "requests.") hard with
    | none => true
    | some limit => !limit.equal e.2

/-- `hostQuotaCheck`. -/
def hostQuotaCheck (rt : Runtime) (virtualNodeClass : VirtualNodeClass) : PlanCheck :=
  match (rt.range virtualNodeClass.spec.workloadHard).find? (lacksEqualLimit virtualNodeClass.spec.workloadHard) with
  | some (key, _) =>
    planCheck rt "HostQuota" .failed "QuotaContractInvalid" s!"{key} must have an equal limit quota key"
  | none =>
    planCheck rt "HostQuota" .passed "QuotaContractValid"
      "Foundation Work can render matching Host request and limit quotas"

/-- `storageCheck`. -/
def storageCheck (rt : Runtime) (cell : Cell) (virtualNodeClass : VirtualNodeClass) : PlanCheck :=
  let unknownCapacity := planCheck rt "TopoLVM" .unknown "PhysicalCapacityUnknown"
    "approved TopoLVM physical capacity is unavailable or stale"
  match AList.lookup virtualNodeClass.spec.storageClassName cell.status.storageInventory with
  | none => unknownCapacity
  | some storage =>
    if !storage.freeCapacityKnown || !storage.fresh || storage.freeCapacity.isNone then unknownCapacity
    else if (rt.range storage.nodes).any fun e =>
        e.2.freeCapacityKnown && e.2.fresh && e.2.freeCapacity.any fun q => decide (q.value > 0) then
      planCheck rt "TopoLVM" .passed "StorageLocalityAvailable"
        "at least one Host Node reports certified free capacity for the approved StorageClass"
    else
      planCheck rt "TopoLVM" .unknown "StorageLocalityUnknown"
        "no per-Node certified TopoLVM free capacity is available"

/-- `nodePortCheck`. -/
def nodePortCheck (rt : Runtime) (cell : Cell) : PlanCheck :=
  let ports := cell.status.nodePorts
  if !ports.fresh then
    planCheck rt "NodePort" .unknown "NodePortInventoryStale" "Host Service NodePort inventory is unavailable or stale"
  else
    let used := (ports.allocated.filter fun port =>
      decide (Platform.nodePortMin ≤ port ∧ port ≤ Platform.nodePortMax)).dedup
    if (used.length : Int) ≥ Platform.nodePortMax - Platform.nodePortMin + 1 then
      planCheck rt "NodePort" .failed "NodePortRangeExhausted"
        "no NodePort is currently available in the Cell allowed range"
    else
      planCheck rt "NodePort" .passed "NodePortAvailable"
        "the Cell allowed NodePort range has at least one unallocated candidate"

/-- The loop over the checks: it stops at the first that failed, and one that is unknown
overwrites the decision so far. -/
def decisionLoop : PlanDecision → List PlanCheck → PlanDecision
  | decision, [] => decision
  | decision, check :: checks =>
    if check.status = .failed then .rejected
    else decisionLoop (if check.status = .unknown then .unknown else decision) checks

/-- The decision over sorted checks: accepted to begin with, and unknown when there are none. -/
def planDecision (checks : List PlanCheck) : PlanDecision :=
  if checks.length = 0 then .unknown else decisionLoop .accepted checks

/-- `finalizePlanEvaluation`. -/
def finalizePlanEvaluation (rt : Runtime) (checks : List PlanCheck) : PlanEvaluation :=
  let checks := checks.insertionSort fun a b => a.name ≤ b.name
  let evaluation : PlanEvaluation := { decision := planDecision checks, checks := checks }
  match checks.find? fun check => check.name == "InventoryFresh" && check.status == .passed with
  | some check =>
    { evaluation with
      inventoryFresh := true, inventoryObservedAt := some check.observedAt,
        expiresAt := some (rt.now + planFreshnessWindow) }
  | none => evaluation

/-- The checks of an evaluation, as they are made. -/
def planChecks (Γ : Ctx) (rt : Runtime) (cell : Cell) (virtualNodeClass : VirtualNodeClass) : List PlanCheck :=
  let general :=
    [cellAvailabilityCheck rt cell, leaseFreshnessCheck rt cell, hostBaselineCheck rt cell,
      inventoryFreshnessCheck rt cell,
      lockedVersionCheck rt cell]
  match resolveVirtualCluster Γ cell virtualNodeClass with
  | .error e => planCheck rt "ResolvedProfile" .failed "InvalidSpec" e :: general
  | .ok _ =>
    planCheck rt "ResolvedProfile" .passed "Resolved" "Cell, class, and Child K3s version resolved" :: general ++
      computeChecks rt cell virtualNodeClass ++
      [hostQuotaCheck rt virtualNodeClass, storageCheck rt cell virtualNodeClass, nodePortCheck rt cell]

/-- `evaluateVirtualClusterPlan`. -/
def evaluateVirtualClusterPlan (Γ : Ctx) (rt : Runtime) (cell : Cell)
    (virtualNodeClass : VirtualNodeClass) : PlanEvaluation :=
  finalizePlanEvaluation rt (planChecks Γ rt cell virtualNodeClass)

end KubeCell
