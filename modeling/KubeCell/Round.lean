import KubeCell.Reconcile

/-!
# What a round may do

The history of a round is the list of its calls with their answers. This module says, for every call that changes
something, what the history must hold for a round to issue it (`Permitted`); that rounds issue no other calls is
proved in `Lemmas.Walk`, once, and everything else about the reconciler follows from this.
-/

namespace KubeCell

/-- The history holds a call with its answer. -/
def Saw (h : List Event) (call : Call) (answer : call.Res) : Prop := event call answer ∈ h

/-- The VirtualCluster with the finalizer, as a round adds it. -/
def VirtualCluster.adopted (v : VirtualCluster) : VirtualCluster :=
  { v with metadata.finalizers := v.metadata.finalizers ++ [virtualClusterFinalizer] }

/-- The VirtualCluster without the finalizer, as the deletion takes it away. -/
def VirtualCluster.released (v : VirtualCluster) : VirtualCluster :=
  { v with
    status.phase := .deleting
    metadata.finalizers := removeString v.metadata.finalizers virtualClusterFinalizer }

/-- The VirtualCluster carries the finalizer. -/
def VirtualCluster.held (v : VirtualCluster) : Bool := containsString v.metadata.finalizers virtualClusterFinalizer

/-- The name of the Secret the kubeconfig is published in. -/
def VirtualCluster.secretKey (v : VirtualCluster) : NamespacedName := ⟨v.metadata.ns, v.names.adminKubeconfig⟩

/-- The names of the two Works in the namespace of a ManagedCluster. -/
def VirtualCluster.foundationKey (v : VirtualCluster) (managedCluster : String) : NamespacedName :=
  ⟨managedCluster, v.names.foundationWork⟩
@[inherit_doc VirtualCluster.foundationKey] def VirtualCluster.instanceKey (v : VirtualCluster)
    (managedCluster : String) :
    NamespacedName :=
  ⟨managedCluster, v.names.instanceWork⟩

/-! ## The VirtualCluster of a round -/

/-- The round works on a VirtualCluster that is not being deleted: it was read with the finalizer, or given it. -/
inductive Live (key : NamespacedName) : List Event → VirtualCluster → Prop where
  | read {v : VirtualCluster} {rest : List Event} : v.deleting = false → v.held = true →
      Live key (event (.api (.getVirtualCluster key)) (.ok v) :: rest) v
  | adopted {v₀ v : VirtualCluster} {rest : List Event} : v₀.deleting = false → v₀.held = false →
      Live key (event (.api (.getVirtualCluster key)) (.ok v₀) ::
        event (.api (.updateVirtualCluster v₀.adopted)) (.ok v) :: rest) v

/-- The round works on a VirtualCluster that is being deleted and carries the finalizer. -/
inductive Doomed (key : NamespacedName) : List Event → VirtualCluster → Prop where
  | read {v : VirtualCluster} {rest : List Event} : v.deleting = true → v.held = true →
      Doomed key (event (.api (.getVirtualCluster key)) (.ok v) :: rest) v

/-! ## Writing the status -/

/-- A call that `updateVirtualClusterStatus` makes. -/
def isStatusCall (e : Event) : Bool :=
  match e.1 with
  | .api (.getVirtualCluster _) | .api (.updateVirtualClusterStatus _) => true
  | _ => false

/-- A call of a try to write the status that did not succeed, and after which there may be another. -/
def isTry : Event → Bool
  | ⟨.api (.getVirtualCluster _), _⟩ => true
  | ⟨.api (.updateVirtualClusterStatus _), .error e⟩ => e.isConflict
  | _ => false

/-- The history up to the point where the round starts to write its status. -/
def exitHistory (h : List Event) : List Event := h.rdropWhile isStatusCall

/-- No status has been written so far. -/
def Unpersisted (h : List Event) : Prop := ∀ o answer, ¬Saw h (.api (.updateVirtualClusterStatus o)) answer

/-! ## Provisioning -/

/-- The references of a VirtualCluster can be provisioned: the Cell is ready, they resolve without drift against the
snapshot that is kept, and the plan is accepted. -/
structure Provisionable (Γ : Ctx) (rt : Runtime) (v : VirtualCluster) (cell : Cell)
    (virtualNodeClass : VirtualNodeClass) : Prop where
  ready : cell.status.phase = .ready
  resolves : ∃ resolved, resolveVirtualCluster Γ cell virtualNodeClass = .ok resolved ∧
    (v.status.resolved.hostNamespace = "" ∨ sameResolvedProvider v.status.resolved (v.snapshot resolved) = true)
  accepted : (evaluateVirtualClusterPlan Γ rt cell virtualNodeClass).decision = .accepted

/-- The round has read references that can be provisioned. -/
structure PlanGate (Γ : Ctx) (rt : Runtime) (key : NamespacedName) (h : List Event) (v : VirtualCluster)
    (cell : Cell) : Prop where
  live : Live key h v
  readCell : Saw h (.api (.getCell v.cellKey)) (.ok cell)
  plan : ∃ virtualNodeClass, Saw h (.api (.getVirtualNodeClass v.spec.classRef.name)) (.ok virtualNodeClass) ∧
    Provisionable Γ rt v cell virtualNodeClass

/-- The round has, besides, found an address of the host. -/
structure HostGate (Γ : Ctx) (rt : Runtime) (key : NamespacedName) (h : List Event) (v : VirtualCluster)
    (cell : Cell) : Prop
    extends PlanGate Γ rt key h v cell where
  addresses : ∃ nodes, Saw h (.host .listNodes) (.ok nodes) ∧ discoverHostAPIAddresses nodes ≠ []

/-- The Work is applied and not degraded. -/
def ManifestWork.healthy (work : ManifestWork) : Bool := isApplied work && !(summarizeWork work).failed

/-- A Work as a round writes it. -/
def IsWorkOf (v : VirtualCluster) (key : NamespacedName) (desired : ManifestWork) : Prop :=
  ∃ resolved, desired.metadata = { name := key.name, ns := key.ns, labels := v.ownedLabels resolved }

/-- A write of a Work: it is created, or applied over one that was read and carries the labels of
the same VirtualCluster. -/
inductive WorkWrite (h : List Event) (v : VirtualCluster) (desired : ManifestWork) : ApiCall → Prop where
  | create : WorkWrite h v desired (.createWork desired)
  | patch {current : ManifestWork} : Saw h (.api (.getWork desired.metadata.key)) (.ok current) →
      current.metadata.ownerUID = v.metadata.uid → WorkWrite h v desired (.patchWork desired)

/-- The history holds a successful write of a Work. -/
def Wrote (h : List Event) (desired : ManifestWork) : Prop :=
  (∃ stored, Saw h (.api (.createWork desired)) (.ok stored)) ∨ ∃ stored, Saw h (.api (.patchWork desired)) (.ok stored)

/-- The round has, besides, written the foundation Work and read it back applied and not degraded, and has found the
instance Work missing or not degraded. -/
structure InstanceGate (Γ : Ctx) (rt : Runtime) (key : NamespacedName) (h : List Event) (v : VirtualCluster)
    (cell : Cell) : Prop
    extends HostGate Γ rt key h v cell where
  written : ∃ desired, IsWorkOf v (v.foundationKey cell.spec.managedClusterRef.name) desired ∧ Wrote h desired
  foundation : ∃ work, Saw h (.api (.getWork (v.foundationKey cell.spec.managedClusterRef.name))) (.ok work) ∧
    work.healthy = true
  instanceWork : (∃ e : Err, e.isNotFound = true ∧
    Saw h (.api (.getWork (v.instanceKey cell.spec.managedClusterRef.name))) (.error e)) ∨
    ∃ work, Saw h (.api (.getWork (v.instanceKey cell.spec.managedClusterRef.name))) (.ok work) ∧
      (summarizeWork work).failed = false

/-! ## Observation -/

/-- All three parts of the child cluster are ready. -/
def ChildObservation.allReady (child : ChildObservation) : Bool :=
  child.apiReady && child.logicalNodeReady && child.storageClassReady

/-- The child cluster has an endpoint, and its URL names a host or does not. -/
def ChildObservation.published (Γ : Ctx) (child : ChildObservation) (valid : Bool) : Prop :=
  child.nodePort > 0 ∧ child.endpoint ≠ "" ∧ decide ((Γ.urlHostname child.endpoint).getD "" ≠ "") = valid

/-- The successful observations of the child cluster, in order. -/
def observations (h : List Event) : List ChildObservation :=
  h.filterMap fun e =>
    match e with
    | ⟨.host (.observe _ _), .ok child⟩ => some child
    | _ => none

/-- Both Works of the round's VirtualCluster were read applied and not degraded. -/
def WorksHealthy (key : NamespacedName) (h : List Event) : Prop :=
  ∃ v managedCluster, Live key h v ∧
    (∃ work, Saw h (.api (.getWork (v.foundationKey managedCluster))) (.ok work) ∧ work.healthy = true) ∧
    ∃ work, Saw h (.api (.getWork (v.instanceKey managedCluster))) (.ok work) ∧ work.healthy = true

/-- What Ready stands for: in the round itself both Works were read applied and not degraded, and the child cluster
was observed with all its parts ready. -/
structure Fresh (key : NamespacedName) (h : List Event) : Prop where
  works : WorksHealthy key h
  child : ∃ child ∈ observations h, child.allReady = true

/-- The round ends at this answer and keeps a phase, or a child cluster, of an earlier round: `h` is the
history before the answer. -/
def StaleAt (Γ : Ctx) (cfg : Config) (rt : Runtime) (v : VirtualCluster) (h : List Event) : Event → Prop
  -- no host reader is set up
  | ⟨.api (.getVirtualNodeClass _), .ok virtualNodeClass⟩ =>
    v.status.phase = .ready ∧ cfg.hasHostReaderFactory = false ∧
      ∃ h' cell, h = h' ++ [event (.api (.getCell v.cellKey)) (.ok cell)] ∧ Provisionable Γ rt v cell virtualNodeClass
  -- the host cannot be read, or has no address
  | ⟨.host (.hostReaderForCell _), .error _⟩ => v.status.phase = .ready
  | ⟨.host .listNodes, .error _⟩ => v.status.phase = .ready
  | ⟨.host .listNodes, .ok nodes⟩ => v.status.phase = .ready ∧ discoverHostAPIAddresses nodes = []
  -- a Work cannot be read back
  | ⟨.api (.getWork _), .error _⟩ => v.status.phase = .ready ∧ ∀ child ∈ observations h, child.allReady = false
  -- there is no observer, the endpoint is not valid, or the pods cannot be read
  | ⟨.host (.childObserverForCell _), .error _⟩ => v.status.phase = .ready
  | ⟨.host (.observe _ _), .ok child⟩ => v.status.phase = .ready ∧ child.allReady = false ∧ child.published Γ false
  | ⟨.host (.listPods _), .error _⟩ => v.status.phase = .ready ∧ ∀ child ∈ observations h, child.allReady = false
  -- the observation is skipped, and the phase is decided from the child cluster of an earlier round
  | ⟨.host (.getResourceQuota _ _), _⟩ => v.status.child.allReady = true ∧ observations h = []
  | ⟨.host (.childObserverForCell _), .ok _⟩ => v.status.child.allReady = true ∧ observations h = []
  | ⟨.api (.getWork key), .ok _⟩ =>
    v.status.child.allReady = true ∧ observations h = [] ∧ key.name = v.names.instanceWork ∧
      ∃ h' call answer, h = h' ++ [event (.api call) answer] ∧
        (∃ desired, call = .createWork desired ∨ call = .patchWork desired)
  | _ => False

/-- The round ends with a Ready of an earlier round. -/
def Stale (Γ : Ctx) (cfg : Config) (rt : Runtime) (v : VirtualCluster) (h : List Event) : Prop :=
  ∃ h' e, h = h' ++ [e] ∧ StaleAt Γ cfg rt v h' e

/-! ## Deletion -/

/-- The published Secret was not found, or was deleted. -/
inductive SecretGone (v : VirtualCluster) (h : List Event) : Prop where
  | missing {e : Err} : e.isNotFound = true → Saw h (.api (.getSecret v.secretKey)) (.error e) → SecretGone v h
  | deleted {secret : Secret} : Saw h (.api (.getSecret v.secretKey)) (.ok secret) →
      Saw h (.api (.deleteSecret secret.metadata.key)) (.ok ()) → SecretGone v h
  | vanished {secret : Secret} {e : Err} : e.isNotFound = true → Saw h (.api (.getSecret v.secretKey)) (.ok secret) →
      Saw h (.api (.deleteSecret secret.metadata.key)) (.error e) → SecretGone v h

/-- The ManagedCluster in whose namespace the deletion looks: of the snapshot, or of the Cell when
there is no snapshot. -/
inductive LooksIn (v : VirtualCluster) (h : List Event) (managedCluster : String) : Prop where
  | snapshot : v.status.resolved.managedClusterName = managedCluster → managedCluster ≠ "" → LooksIn v h managedCluster
  | cell {cell : Cell} : v.status.resolved.managedClusterName = "" → Saw h (.api (.getCell v.cellKey)) (.ok cell) →
      cell.spec.managedClusterRef.name = managedCluster → LooksIn v h managedCluster

/-- A Work was not found, or there is no namespace to look in. -/
def WorkGone (h : List Event) (key : NamespacedName) : Prop :=
  key.ns = "" ∨ ∃ e : Err, e.isNotFound = true ∧ Saw h (.api (.getWork key)) (.error e)

/-! ## The permitted calls -/

/-- A call that changes nothing. -/
def ApiCall.isRead : ApiCall → Bool
  | .getVirtualCluster _ | .listVirtualClusters | .getCell _ | .getVirtualNodeClass _ | .getWork _ | .getSecret _ =>
    true
  | _ => false

/-- The snapshot in a status that is written: the one that was there, or, where there was none,
the one of this round. -/
def SnapshotFrom (Γ : Ctx) (v : VirtualCluster) (h : List Event) (snapshot : ResolvedSnapshot) : Prop :=
  snapshot = v.status.resolved ∨ v.status.resolved.hostNamespace = "" ∧ ∃ cell virtualNodeClass resolved,
    Saw h (.api (.getCell v.cellKey)) (.ok cell) ∧ resolveVirtualCluster Γ cell virtualNodeClass = .ok resolved ∧
      snapshot = v.snapshot resolved

/-- A status a round may end with. -/
inductive Exit (Γ : Ctx) (cfg : Config) (rt : Runtime) (key : NamespacedName) (h : List Event)
    (status : VirtualClusterStatus) : Prop where
  | live {v : VirtualCluster} : Live key h v → Unpersisted h → SnapshotFrom Γ v h status.resolved →
      (status.phase = .ready → Fresh key h ∨ Stale Γ cfg rt v h) →
        (Stale Γ cfg rt v h → status.phase = .ready ∧ ¬Fresh key h) →
      Exit Γ cfg rt key h status
  | doomed {v : VirtualCluster} : Doomed key h v → status.resolved = v.status.resolved → status.phase = .deleting →
      Exit Γ cfg rt key h status

/-- The calls a round may issue after a history. -/
inductive Permitted (Γ : Ctx) (cfg : Config) (rt : Runtime) (key : NamespacedName) (h : List Event) : Call → Prop where
  | host (call : HostCall) : Permitted Γ cfg rt key h (.host call)
  | read {call : ApiCall} : call.isRead = true → Permitted Γ cfg rt key h (.api call)
  | adopt {v : VirtualCluster} : h = [event (.api (.getVirtualCluster key)) (.ok v)] →
    v.deleting = false → v.held = false →
      Permitted Γ cfg rt key h (.api (.updateVirtualCluster v.adopted))
  | foundation {v : VirtualCluster} {cell : Cell} {desired : ManifestWork} {call : ApiCall} :
    HostGate Γ rt key h v cell →
      Unpersisted h → IsWorkOf v (v.foundationKey cell.spec.managedClusterRef.name) desired →
        WorkWrite h v desired call →
      Permitted Γ cfg rt key h (.api call)
  | instanceWork {v : VirtualCluster} {cell : Cell} {desired : ManifestWork} {call : ApiCall} :
    InstanceGate Γ rt key h v cell →
      Unpersisted h → IsWorkOf v (v.instanceKey cell.spec.managedClusterRef.name) desired → WorkWrite h v desired call →
      Permitted Γ cfg rt key h (.api call)
  | createSecret {v : VirtualCluster} {data : List UInt8} : Live key h v →
      Permitted Γ cfg rt key h (.api (.createSecret (adminSecret v data)))
  | updateSecret {v : VirtualCluster} {data : List UInt8} {current : Secret} : Live key h v →
      Saw h (.api (.getSecret v.secretKey)) (.ok current) → (∃ child ∈ observations h, child.published Γ true) →
      Permitted Γ cfg rt key h
        (.api (.updateSecret { adminSecret v data with metadata.resourceVersion := current.metadata.resourceVersion }))
  | persist {h₀ tail : List Event} {o : VirtualCluster} : h = h₀ ++ tail → (∀ e ∈ tail, isTry e = true) →
      exitHistory h₀ = h₀ → Exit Γ cfg rt key h₀ o.status →
        Permitted Γ cfg rt key h (.api (.updateVirtualClusterStatus o))
  | deleteSecret {v : VirtualCluster} {secret : Secret} :
    Doomed key h v → Saw h (.api (.getSecret v.secretKey)) (.ok secret) →
      secret.metadata.ownerUID = v.metadata.uid → Permitted Γ cfg rt key h (.api (.deleteSecret secret.metadata.key))
  | deleteInstance {v : VirtualCluster} {managedCluster : String} {work : ManifestWork} : Doomed key h v →
      Saw h (.api (.getWork (v.instanceKey managedCluster))) (.ok work) → work.metadata.ownerUID = v.metadata.uid →
      Permitted Γ cfg rt key h (.api (.deleteWork work.metadata.key))
  | deleteFoundation {v : VirtualCluster} {managedCluster : String} {work : ManifestWork} : Doomed key h v →
      WorkGone h (v.instanceKey managedCluster) → Saw h (.api (.getWork (v.foundationKey managedCluster))) (.ok work) →
      managedCluster ≠ "" → work.metadata.ownerUID = v.metadata.uid →
      Permitted Γ cfg rt key h (.api (.deleteWork work.metadata.key))
  | release {v : VirtualCluster} {managedCluster : String} :
    Doomed key h v → SecretGone v h → LooksIn v h managedCluster →
      WorkGone h (v.instanceKey managedCluster) → WorkGone h (v.foundationKey managedCluster) →
      Permitted Γ cfg rt key h (.api (.updateVirtualCluster v.released))

end KubeCell
