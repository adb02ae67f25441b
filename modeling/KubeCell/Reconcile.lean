import KubeCell.Evaluator
import KubeCell.World

/-!
# The VirtualCluster reconciler

`internal/controller/virtualcluster_controller.go`, with `deletion.go` and `status_update.go`: a round of `Reconcile`,
as a program of calls. The source is one function with many early returns; here it is cut where it waits for an answer
and goes on, and each part ends in the parts that come after it. A round reads the clock once.
-/

namespace KubeCell

/-- What the reconciler is set up with. -/
structure Config where
  hasChildObserver : Bool := false
  hasChildObserverFactory : Bool := false
  hasHostReaderFactory : Bool := false
  appsSuffix : String := ""
  deriving DecidableEq, Repr

/-- `reconcile.Result`, in seconds. -/
structure Result where
  requeueAfter : Option Nat := none
  deriving DecidableEq, Repr

/-- `virtualClusterFinalizer`. -/
def virtualClusterFinalizer : String := "kubecell.io/virtualcluster-finalizer"

/-- `setVirtualClusterCondition`. -/
def VirtualCluster.setCondition (cluster : VirtualCluster) (rt : Runtime) (conditionType : String)
    (status : ConditionStatus) (reason message : String) : VirtualCluster :=
  { cluster with
    status.conditions := KubeCell.setCondition cluster.status.conditions
      { type := conditionType, status := status, reason := reason, message := message
        observedGeneration := cluster.metadata.generation } rt.now }

/-! ## Writing the status -/

/-- `retry.RetryOnConflict`, with a number of further tries. -/
def retryOnConflict (f : Action (Except Err Unit)) : Nat → Action (Except Err Unit)
  | 0 => f
  | retries + 1 => do
    match ← f with
    | .error e => if e.isConflict then retryOnConflict f retries else return .error e
    | .ok () => return .ok ()

/-- One try of `updateVirtualClusterStatus`: the status is put on the object as it is now. -/
def tryUpdateStatus (desired : VirtualCluster) : Action (Except Err Unit) := do
  match ← api (.getVirtualCluster desired.key) with
  | .error e => return .error e
  | .ok current =>
    match ← api (.updateVirtualClusterStatus { current with status := desired.status }) with
    | .error e => return .error e
    | .ok _ => return .ok ()

/-- `updateVirtualClusterStatus`, with the five tries of `retry.DefaultRetry`. -/
def updateVirtualClusterStatus (desired : VirtualCluster) : Action (Except Err Unit) :=
  retryOnConflict (tryUpdateStatus desired) 4

/-- The end of a round that keeps its status. -/
def persist (desired : VirtualCluster) (requeueAfter : Option Nat) : Action (Except Err Result) := do
  match ← updateVirtualClusterStatus desired with
  | .error e => return .error e
  | .ok () => return .ok { requeueAfter := requeueAfter }

/-! ## Writing Works and the Secret -/

/-- `createOrUpdateWork`. -/
def createOrUpdateWork (desired : ManifestWork) : Action (Except Err Unit) := do
  let label (key : String) : String := desired.metadata.labels.get key
  match ← api (.getWork desired.metadata.key) with
  | .error e =>
    if !e.isNotFound then return .error e
    match ← api (.createWork desired) with
    | .error e => return .error e
    | .ok _ => return .ok ()
  | .ok current =>
    match validateWorkReference current (label labelVirtualClusterUID) with
    | .error e => return .error e
    | .ok () =>
      if !matchesOwnedHostLabels current.metadata.labels (label labelCellName) (label labelVirtualClusterNamespace)
          (label labelVirtualClusterName) (label labelVirtualClusterUID) then
        return .error ⟨.other, s!"manifestWork {current.metadata.ns}/{current.metadata.name} has foreign ownership labels"⟩
      match ← api (.patchWork desired) with
      | .error e => return .error e
      | .ok _ => return .ok ()

/-- The Secret the administrator's kubeconfig is published in. -/
def adminSecret (cluster : VirtualCluster) (data : List UInt8) : Secret :=
  { metadata :=
      { name := cluster.names.adminKubeconfig, ns := cluster.metadata.ns
        labels := GoMap.ofList [(labelManagedBy, managedByKubecell), (labelVirtualClusterUID, cluster.metadata.uid)]
        ownerReferences := [⟨"kubecell.io/v1alpha1", "VirtualCluster", cluster.metadata.name, cluster.metadata.uid⟩] }
    data := GoMap.ofList [("kubeconfig.yaml", data)] }

/-- The VirtualCluster with the credential it has published. -/
def VirtualCluster.withCredential (cluster : VirtualCluster) (Γ : Ctx) (sourceSecretName endpoint : String)
    (observed : Nat) :
    VirtualCluster :=
  { cluster with
    status.credential :=
      { secretName := cluster.names.adminKubeconfig, sourceSecretName := sourceSecretName
        endpointHash := profileHash Γ endpoint, observedResourceVersion := observed } }

/-- `publishAdminKubeconfig`: an existing Secret of the name is overwritten, whoever's it is. -/
def publishAdminKubeconfig (Γ : Ctx) (cluster : VirtualCluster) (data : List UInt8)
    (sourceSecretName endpoint : String) :
    Action (Except Err VirtualCluster) := do
  let desired := adminSecret cluster data
  match ← api (.getSecret desired.metadata.key) with
  | .error e =>
    if !e.isNotFound then return .error e
    match ← api (.createSecret desired) with
    | .error e => return .error e
    | .ok _ => return .ok (cluster.withCredential Γ sourceSecretName endpoint 0)
  | .ok current =>
    match ← api (.updateSecret { desired with metadata.resourceVersion := current.metadata.resourceVersion }) with
    | .error e => return .error e
    | .ok _ => return .ok (cluster.withCredential Γ sourceSecretName endpoint current.metadata.resourceVersion)

/-! ## Deletion -/

/-- `deleteOwnedSecret`. -/
def deleteOwnedSecret (ns name uid : String) : Action (Except Err Unit) := do
  if name = "" then return .ok ()
  match ← api (.getSecret ⟨ns, name⟩) with
  | .error e => return if e.isNotFound then .ok () else .error e
  | .ok secret =>
    if secret.metadata.labels.get labelVirtualClusterUID ≠ uid then
      return .error ⟨.other, s!"published Secret {ns}/{name} has foreign VirtualCluster UID"⟩
    match ← api (.deleteSecret secret.metadata.key) with
    | .error e => return if e.isNotFound then .ok () else .error e
    | .ok () => return .ok ()

/-- `getWork`. -/
def getWork (ns name : String) : Action (Except Err (Option ManifestWork)) := do
  if ns = "" ∨ name = "" then return .ok none
  match ← api (.getWork ⟨ns, name⟩) with
  | .error e => return .error e
  | .ok work => return .ok (some work)

/-- A Work that is not found is no error to the deletion. -/
def orMissing (found : Except Err (Option ManifestWork)) : Except Err (Option ManifestWork) :=
  match found with
  | .error e => if e.isNotFound then .ok none else .error e
  | .ok work => .ok work

/-- The VirtualCluster while its deletion goes on. -/
def VirtualCluster.cleanup (cluster : VirtualCluster) (rt : Runtime) (status : ConditionStatus)
    (reason message : String) :
    VirtualCluster :=
  { cluster with status.phase := .deleting }.setCondition rt "CleanupBlocked" status reason message

/-- Request the deletion of a Work that was found, and end the round. -/
def requestDeletion (rt : Runtime) (cluster : VirtualCluster) (work : ManifestWork) (reason message : String) :
    Action (Except Err Result) := do
  match ← api (.deleteWork work.metadata.key) with
  | .error e =>
    if !e.isNotFound then return .error e
    persist (cluster.cleanup rt .false reason message) (some 5)
  | .ok () => persist (cluster.cleanup rt .false reason message) (some 5)

/-- The rest of `reconcileDeletion`, with what was found of the two Works. -/
def deleteInOrder (rt : Runtime) (cluster : VirtualCluster) (instanceWork foundation : Option ManifestWork) :
    Action (Except Err Result) := do
  let plan := buildDeletionPlan instanceWork foundation cluster.metadata.uid
  if plan.blocked then persist (cluster.cleanup rt .true "ForeignObject" plan.reason) (some 15)
  else
    match instanceWork, foundation with
    | some work, _ =>
      requestDeletion rt cluster work "InstanceDeletionRequested"
        "Instance Work deletion requested; waiting for Host cleanup"
    | none, some work =>
      requestDeletion rt cluster work "FoundationDeletionRequested"
        "Foundation Work deletion requested; waiting for Host cleanup"
    | none, none =>
      match ← api (.updateVirtualCluster
          { cluster with
            status.phase := .deleting
            metadata.finalizers := removeString cluster.metadata.finalizers virtualClusterFinalizer }) with
      | .error e => return .error e
      | .ok _ => return .ok {}

/-- The part of `reconcileDeletion` that looks for the Works in the namespace of a ManagedCluster. -/
def deleteWorks (rt : Runtime) (cluster : VirtualCluster) (managedClusterName : String) :
    Action (Except Err Result) := do
  let instanceWork ← getWork managedClusterName cluster.names.instanceWork
  let foundation ← getWork managedClusterName cluster.names.foundationWork
  match orMissing instanceWork, orMissing foundation with
  | .error e, _ => return .error e
  | .ok _, .error e => return .error e
  | .ok instanceWork, .ok foundation => deleteInOrder rt cluster instanceWork foundation

/-- `reconcileDeletion`. -/
def reconcileDeletion (rt : Runtime) (cluster : VirtualCluster) : Action (Except Err Result) := do
  if !containsString cluster.metadata.finalizers virtualClusterFinalizer then return .ok {}
  match ← deleteOwnedSecret cluster.metadata.ns cluster.names.adminKubeconfig cluster.metadata.uid with
  | .error e => return .error e
  | .ok () =>
    if cluster.status.resolved.managedClusterName = "" then
      match ← api (.getCell cluster.cellKey) with
      | .error _ =>
        persist (cluster.cleanup rt .true "CellUnavailable"
          "cannot resolve ManagedCluster for cleanup without a resolved snapshot")
          (some 15)
      | .ok referenced => deleteWorks rt cluster referenced.spec.managedClusterRef.name
    else deleteWorks rt cluster cluster.status.resolved.managedClusterName

/-! ## Provisioning

The parts of `Reconcile` after the deletion branch, from the last to the first. -/

/-- What a round has settled on once its references are resolved and the host has been found. -/
structure Target where
  cell : Cell
  resolved : ResolvedSnapshot
  names : Names

/-- The ManagedCluster the Works of a round go to. -/
def Target.managedCluster (target : Target) : String := target.cell.spec.managedClusterRef.name

/-- All three parts of the child cluster are ready. -/
def ChildClusterObservation.allReady (child : ChildClusterObservation) : Bool :=
  child.apiReady && child.logicalNodeReady && child.storageClassReady

/-- The phase, decided from the child cluster in the status. -/
def VirtualCluster.withPhase (cluster : VirtualCluster) (rt : Runtime) : VirtualCluster :=
  if cluster.status.child.allReady then
    (({ cluster with status.phase := .ready }.setCondition rt "APIAccessible" .true "ChildReady"
      "Child API endpoint is accessible").setCondition rt "LogicalNodeReady" .true "ChildReady"
      "Child logical Node is ready").setCondition rt "StorageReady" .true "StorageClassReady"
      "approved Child StorageClass is ready"
  else { cluster with status.phase := .provisioning }

/-- A condition that is set when something holds. -/
def VirtualCluster.setConditionIf (cluster : VirtualCluster) (holds : Bool) (rt : Runtime) (conditionType : String)
    (status : ConditionStatus) (reason message : String) : VirtualCluster :=
  if holds then cluster.setCondition rt conditionType status reason message else cluster

/-- The last part: the phase is decided and the status is written. -/
def decidePhase (rt : Runtime) (cluster : VirtualCluster) (foundationSummary instanceSummary : WorkSummary)
    (hasObserver : Bool) :
    Action (Except Err Result) :=
  persist
    ((((cluster.withPhase rt).setConditionIf foundationSummary.applied rt "FoundationReady" .true "WorkApplied"
      "Foundation ManifestWork is Applied").setConditionIf instanceSummary.applied rt
        "InstanceReady" .true "WorkApplied"
      "Instance ManifestWork is Applied").setConditionIf
        (!hasObserver) rt "HostReadReady" .false "HostReaderUnavailable"
      "Child observation path is not configured")
    (some 5)

/-- The VirtualCluster with what was read of its instance Work. -/
def VirtualCluster.withInstance (cluster : VirtualCluster) (work : ManifestWork) : VirtualCluster :=
  { cluster with status.workRefs.instanceWork := applyWorkStatus (workReference work) work }

/-- The instance Work is written when there is none yet, or when both the observation and the mirror succeeded. -/
def writeInstance (rt : Runtime) (cluster : VirtualCluster) (target : Target) (foundationSummary : WorkSummary)
    (instanceCurrent : ManifestWork) (hasObserver : Bool) (mirrored : List Manifest) (observedOK mirrorOK : Bool) :
    Action (Except Err Result) := do
  if instanceCurrent.metadata.name = "" ∨ (observedOK ∧ mirrorOK) then
    let desired := buildInstanceWork cluster target.resolved target.names target.managedCluster mirrored
    match ← createOrUpdateWork desired with
    | .error e => return .error e
    | .ok () =>
      match ← api (.getWork desired.metadata.key) with
      | .error _ => persist cluster (some 5)
      | .ok refreshed =>
        decidePhase rt (cluster.withInstance refreshed) foundationSummary (summarizeWork refreshed) hasObserver
  else decidePhase rt cluster foundationSummary (summarizeWork instanceCurrent) hasObserver

/-- The client of the child cluster. -/
def childClient : ChildClient Action where
  listIngresses := host .listIngresses
  getService ns name := host (.getService ns name)
  getEndpoints ns name := host (.getEndpoints ns name)

/-- The reader of volumes on the host. -/
def volumeReader : VolumeReader Action where
  getPersistentVolumeClaim ns name := host (.getPersistentVolumeClaim ns name)
  getPersistentVolume name := host (.getPersistentVolume name)

section Observation

variable (Γ : Ctx) (cfg : Config) (rt : Runtime) (target : Target) (foundationSummary : WorkSummary)
  (instanceCurrent : ManifestWork)

/-- After the observation: the mirror is collected once the child cluster answers. -/
def mirrorStage (cluster : VirtualCluster) (child : ChildObservation) : Action (Except Err Result) := do
  if child.apiReady ∧ child.hasClient then
    match ← mirrorChildIngresses cluster target.resolved cfg.appsSuffix childClient with
    | .error _ => writeInstance rt cluster target foundationSummary instanceCurrent true [] true false
    | .ok fetched => writeInstance rt cluster target foundationSummary instanceCurrent true fetched true true
  else writeInstance rt cluster target foundationSummary instanceCurrent true [] true false

/-- The placements of the child's pods are read once its node is ready. -/
def placementStage (cluster : VirtualCluster) (child : ChildObservation) : Action (Except Err Result) := do
  if child.apiReady ∧ child.logicalNodeReady ∧ cfg.hasHostReaderFactory then
    match ← host (.listPods target.resolved.hostNamespace) with
    | .error e =>
      persist (cluster.setCondition rt "HostReadReady" .false "PlacementReadFailed" e.message) (some 5)
    | .ok pods =>
      let placements ← projectPlacements rt volumeReader target.resolved.hostNamespace
        cluster.status.resolved.k3kClusterName pods
      mirrorStage cfg rt target foundationSummary instanceCurrent { cluster with status.placements := placements } child
  else mirrorStage cfg rt target foundationSummary instanceCurrent cluster child

/-- The administrator's kubeconfig is published once the child cluster has an endpoint. -/
def credentialStage (cluster : VirtualCluster) (child : ChildObservation) : Action (Except Err Result) := do
  if child.nodePort > 0 ∧ child.endpoint ≠ "" then
    let hostname := (Γ.urlHostname child.endpoint).getD ""
    if hostname = "" then
      persist (cluster.setCondition rt "Credential" .false "CredentialInvalid" "Child endpoint is not a valid URL")
        (some 5)
    else
      match ← publishAdminKubeconfig Γ cluster child.kubeconfig child.sourceSecretName child.endpoint with
      | .error e => return .error e
      | .ok cluster =>
        let cluster := cluster.setCondition rt "ChildIdentityReady" .true "CredentialPublished"
          "Child administrator kubeconfig was published"
        placementStage cfg rt target foundationSummary instanceCurrent
          { cluster with
            status.endpoint := { address := hostname, nodePort := child.nodePort, urlHash := profileHash Γ child.endpoint } } child
  else placementStage cfg rt target foundationSummary instanceCurrent cluster child

/-- The VirtualCluster with what was observed of its child cluster. -/
def VirtualCluster.observed (cluster : VirtualCluster) (child : ChildObservation) : VirtualCluster :=
  let cluster := cluster.setCondition rt "HostReadReady" .true "HostObjectsRead"
    "Child Secret and Service were read through the Host observation path"
  let cluster :=
    { cluster with
      status.child :=
        { apiReady := child.apiReady, logicalNodeName := child.logicalNodeName, logicalNodeReady := child.logicalNodeReady
          storageClassReady := child.storageClassReady } }
  ((cluster.setCondition rt "APIAccessible" (conditionStatus child.apiReady) "ChildAPIProbe"
    "Child API endpoint probe completed").setCondition rt "LogicalNodeReady" (conditionStatus child.logicalNodeReady)
    "ChildNodeProbe" "Child logical Node probe completed").setCondition rt "StorageReady"
      (conditionStatus child.storageClassReady)
    "ChildStorageClass" "approved Child StorageClass probe completed"

/-- The VirtualCluster after a failed observation: what is known of the child cluster is cleared. -/
def VirtualCluster.unobserved (cluster : VirtualCluster) (e : Err) : VirtualCluster :=
  let cluster :=
    (((cluster.setCondition rt "HostReadReady" .false "HostReadFailed" e.message).setCondition rt "APIAccessible" .false
      "ChildProbeFailed" e.message).setCondition rt "LogicalNodeReady" .false "ChildProbeFailed"
        e.message).setCondition rt
      "StorageReady" .false "ChildProbeFailed" e.message
  { cluster with
    status.child := {}
    status.phase := if cluster.status.phase = .ready then .degraded else cluster.status.phase }

/-- The child cluster is observed when the instance Work is applied and there is an observer. -/
def observeChild (cluster : VirtualCluster) (hasObserver : Bool) : Action (Except Err Result) := do
  if isApplied instanceCurrent ∧ hasObserver then
    match ← host (.observe cluster target.names.hostAPIAddresses) with
    | .error e => persist (cluster.unobserved rt e) (some 5)
    | .ok child => credentialStage Γ cfg rt target foundationSummary instanceCurrent (cluster.observed rt child) child
  else writeInstance rt cluster target foundationSummary instanceCurrent hasObserver [] false false

/-- The observer: the one the reconciler is set up with, or else one made for the Cell. -/
def selectObserver (cluster : VirtualCluster) : Action (Except Err Result) := do
  if !cfg.hasChildObserver ∧ cfg.hasChildObserverFactory then
    match ← host (.childObserverForCell target.cell) with
    | .error e => persist (cluster.setCondition rt "HostReadReady" .false "HostReaderUnavailable" e.message) (some 10)
    | .ok () => observeChild Γ cfg rt target foundationSummary instanceCurrent cluster true
  else observeChild Γ cfg rt target foundationSummary instanceCurrent cluster cfg.hasChildObserver

/-- The VirtualCluster with the quota of its host namespace, if it was read. -/
def VirtualCluster.withQuota (cluster : VirtualCluster) (quota : Option ResourceQuota) : VirtualCluster :=
  let host := { cluster.status.host with
    quotaHard := (quota.map (·.hard)).getD cluster.status.host.quotaHard
    quotaUsed := (quota.map (·.used)).getD cluster.status.host.quotaUsed
    ns := target.resolved.hostNamespace }
  let host := projectHostQuota host target.resolved.reservation
  let cluster := { cluster with status.host := host }.setCondition rt "HostQuotaReady" (conditionStatus host.quotaReady)
    "HostQuotaObserved" "Host ResourceQuota feedback was observed"
  if host.reservationExceeded then
    cluster.setCondition rt "ReservationExceeded" .true "HostUsageExceedsReservation"
      "Host system usage exceeds the resolved reservation"
  else
    cluster.setCondition rt "ReservationExceeded" .false "HostUsageWithinReservation"
      "Host system usage is within the resolved reservation"

/-- The instance Work has been read: the round goes on unless it is degraded. -/
def instanceStage (cluster : VirtualCluster) : Action (Except Err Result) := do
  let summary := summarizeWork instanceCurrent
  let cluster := cluster.withInstance instanceCurrent
  if summary.failed then
    persist ({ cluster with status.phase := .degraded }.setCondition rt "InstanceReady" .false "WorkFailed"
      (boundedWorkMessage summary.message "Instance ManifestWork is degraded")) (some 10)
  else if cfg.hasHostReaderFactory then
    match ← host (.getResourceQuota target.resolved.hostNamespace "kubecell-workload") with
    | .error _ => selectObserver Γ cfg rt target foundationSummary instanceCurrent (cluster.withQuota rt target none)
    | .ok quota => selectObserver Γ cfg rt target foundationSummary instanceCurrent (cluster.withQuota rt target quota)
  else selectObserver Γ cfg rt target foundationSummary instanceCurrent (cluster.withQuota rt target none)

end Observation

section Stages

variable (Γ : Ctx) (cfg : Config) (rt : Runtime)

/-- A Work that was not found, as the source's empty object. -/
def emptyWork : ManifestWork := { metadata := { name := "" } }

/-- The foundation Work has been read back: the round goes on when it is applied and not degraded. -/
def foundationStage (cluster : VirtualCluster) (target : Target) (foundation : ManifestWork) :
    Action (Except Err Result) := do
  let summary := summarizeWork foundation
  let cluster := { cluster with status.workRefs.foundation := applyWorkStatus (workReference foundation) foundation }
  if summary.failed then
    persist (({ cluster with status.phase := .degraded }.setCondition rt "FoundationReady" .false "WorkFailed"
      (boundedWorkMessage summary.message "Foundation ManifestWork is degraded")).setCondition rt
        "HostQuotaReady" .false
      "WorkFailed" "Host quota foundation was not applied") (some 10)
  else if !summary.applied then
    persist (({ cluster with status.phase := .provisioning }.setCondition rt "FoundationReady" .false "WorkProgressing"
      "Foundation ManifestWork is not Applied").setCondition rt "HostQuotaReady" .false "WorkProgressing"
      "Host quota foundation is not Applied") (some 5)
  else
    match ← api (.getWork ⟨target.managedCluster, target.names.instanceWork⟩) with
    | .error e =>
      if !e.isNotFound then return .error e
      instanceStage Γ cfg rt target summary emptyWork cluster
    | .ok instanceCurrent => instanceStage Γ cfg rt target summary instanceCurrent cluster

/-- The foundation Work is written and read back. -/
def writeFoundation (cluster : VirtualCluster) (target : Target) : Action (Except Err Result) := do
  let desired := buildFoundationWork cluster target.resolved target.names target.managedCluster
  match ← createOrUpdateWork desired with
  | .error e => return .error e
  | .ok () =>
    match ← api (.getWork desired.metadata.key) with
    | .error _ => persist cluster (some 5)
    | .ok foundation => foundationStage Γ cfg rt cluster target foundation

/-- The host must have an address. -/
def addressStage (cluster : VirtualCluster) (cell : Cell) (resolved : ResolvedSnapshot) (addresses : List String) :
    Action (Except Err Result) :=
  if addresses = [] then
    persist (cluster.setCondition rt "HostReadReady" .false "HostAddressNotFound"
      "no Ready Host node with an InternalIP was observed") (some 10)
  else writeFoundation Γ cfg rt cluster { cell := cell, resolved := resolved, names := cluster.renderNames addresses }

/-- The nodes of the host are read, if there is a reader. -/
def hostStage (cluster : VirtualCluster) (cell : Cell) (resolved : ResolvedSnapshot) : Action (Except Err Result) := do
  if cfg.hasHostReaderFactory then
    match ← host (.hostReaderForCell cell) with
    | .error e => persist (cluster.setCondition rt "HostReadReady" .false "HostReaderUnavailable" e.message) (some 10)
    | .ok () =>
      match ← host .listNodes with
      | .error e => persist (cluster.setCondition rt "HostReadReady" .false "HostNodeReadFailed" e.message) (some 10)
      | .ok nodes => addressStage Γ cfg rt cluster cell resolved (discoverHostAPIAddresses nodes)
  else addressStage Γ cfg rt cluster cell resolved []

/-- The plan is evaluated again. -/
def planStage (cluster : VirtualCluster) (cell : Cell) (virtualNodeClass : VirtualNodeClass)
    (resolved : ResolvedSnapshot) :
    Action (Except Err Result) :=
  let feasibility := evaluateVirtualClusterPlan Γ rt cell virtualNodeClass
  let cluster := { cluster with status.feasibilityChecks := feasibility.checks }
  let refused (reason : String) : VirtualCluster :=
    cluster.setCondition rt "Feasible" .false reason "current Cell inventory cannot be accepted for provisioning"
  match feasibility.decision with
  | .rejected => persist { refused "Rejected" with status.phase := .failed } none
  | .unknown => persist { refused "Unknown" with status.phase := .degraded } (some 10)
  | .accepted =>
    hostStage Γ cfg rt (cluster.setCondition rt "Feasible" .true "Accepted"
      "current Cell inventory accepts the provisioning envelope")
      cell resolved

/-- The snapshot is kept when there is none yet, and compared with the one that is kept otherwise. -/
def snapshotStage (cluster : VirtualCluster) (cell : Cell) (virtualNodeClass : VirtualNodeClass)
    (resolved : ResolvedSnapshot) :
    Action (Except Err Result) :=
  if cluster.status.resolved.hostNamespace = "" then
    planStage Γ cfg rt { cluster with status.resolved := resolved } cell virtualNodeClass resolved
  else if !sameResolvedProvider cluster.status.resolved resolved then
    persist
      { cluster.setCondition rt "Validated" .false "ResolvedDrift"
          "immutable resolved provider snapshot differs from current references" with status.phase := .failed }
      none
  else planStage Γ cfg rt cluster cell virtualNodeClass resolved

/-- The VirtualCluster once its references are resolved. -/
def VirtualCluster.validated (cluster : VirtualCluster) : VirtualCluster :=
  ((cluster.setCondition rt "Validated" .true "SpecAccepted"
    "VirtualCluster specification and immutable references are valid").setCondition rt "CellSelected" .true "CellReady"
    "VirtualCluster is bound to a ready Cell").setCondition rt "ProviderReady" .true "VersionResolved"
    "K3k and Child version profile resolved"

/-- The references are resolved. -/
def resolveStage (cluster : VirtualCluster) (cell : Cell) (virtualNodeClass : VirtualNodeClass) :
    Action (Except Err Result) :=
  match resolveVirtualCluster Γ cell virtualNodeClass with
  | .error e => persist { cluster.setCondition rt "Validated" .false "InvalidSpec" e with status.phase := .failed } none
  | .ok resolved => snapshotStage Γ cfg rt (cluster.validated rt) cell virtualNodeClass (cluster.snapshot resolved)

/-- The Cell and the class are read, and the Cell must be ready. -/
def referenceStage (cluster : VirtualCluster) : Action (Except Err Result) := do
  let cluster := { cluster with status.observedGeneration := cluster.metadata.generation }
  match ← api (.getCell cluster.cellKey) with
  | .error e => return .error e
  | .ok cell =>
    match ← api (.getVirtualNodeClass cluster.spec.classRef.name) with
    | .error e => return .error e
    | .ok virtualNodeClass =>
      if cell.status.phase ≠ .ready then
        persist ({ cluster with status.phase := .degraded }.setCondition rt "CellSelected" .false "CellNotReady"
          "referenced Cell is not ready") (some 10)
      else resolveStage Γ cfg rt cluster cell virtualNodeClass

/-- `VirtualClusterReconciler.Reconcile`. -/
def reconcile (key : NamespacedName) : Action (Except Err Result) := do
  match ← api (.getVirtualCluster key) with
  | .error e => return if e.isNotFound then .ok {} else .error e
  | .ok cluster =>
    if cluster.deleting then reconcileDeletion rt cluster
    else if !containsString cluster.metadata.finalizers virtualClusterFinalizer then
      match ← api (.updateVirtualCluster
          { cluster with metadata.finalizers := cluster.metadata.finalizers ++ [virtualClusterFinalizer] }) with
      | .error e => return .error e
      | .ok cluster => referenceStage Γ cfg rt cluster
    else referenceStage Γ cfg rt cluster

end Stages
end KubeCell
