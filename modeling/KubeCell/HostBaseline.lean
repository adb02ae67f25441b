import KubeCell.ChildObserver
import KubeCell.Lib.Rounds
import KubeCell.World

/-!
# The baseline of a host

`EvaluateBaseline` of `internal/provider/host/baseline.go`, and `ObserveBaseline` of `internal/provider/ocm/proxy.go`:
the parts of the baseline that a Cell relies on are read from the host one after the other, over the proxy, and what
was read is evaluated. A host goes on changing between two reads, so the observation is a program of calls.
-/

namespace KubeCell

/-- `platform.K3kControllerNamespace`. -/
def Platform.k3kControllerNamespace : String := "k3k-system"

/-! ## Objects of the host -/

/-- A namespace, with its phase. -/
structure HostNamespace where
  metadata : ObjectMeta
  phase : String := ""

/-- A definition of a custom resource. -/
structure CustomResourceDefinition where
  metadata : ObjectMeta
  conditions : List Condition := []

/-- A deployment. -/
structure Deployment where
  metadata : ObjectMeta
  replicas : Option Int := none
  observedGeneration : Nat := 0
  availableReplicas : Int := 0

/-- A daemon set. -/
structure DaemonSet where
  metadata : ObjectMeta
  templateLabels : StringMap := ∅
  desiredNumberScheduled : Int := 0
  numberReady : Int := 0
  updatedNumberScheduled : Int := 0

/-- A driver of storage. -/
structure CSIDriver where
  metadata : ObjectMeta

/-! ## The evaluation -/

/-- `BaselineInputs`. -/
structure BaselineInputs where
  k3kNamespaceExists : Bool
  k3kCRDs : List CustomResourceDefinition
  k3kDeployments : List Deployment
  topoLVMNamespaceExists : Bool
  topoLVMDeployments : List Deployment
  topoLVMNodeDaemonSets : List DaemonSet
  topoLVMLvmdDaemonSets : List DaemonSet
  topoLVMStorageClasses : List StorageClassSettings
  topoLVMCSIDrivers : List CSIDriver
  nodes : List Node

/-- `validTopoLVMStorageClass`. -/
def validTopoLVMStorageClass (classes : List StorageClassSettings) : Bool :=
  classes.any fun storageClass =>
    storageClass.provisioner == "topolvm.io" && storageClass.volumeBindingMode == some "WaitForFirstConsumer"

/-- `validTopoLVMCSIDriver`. -/
def validTopoLVMCSIDriver (drivers : List CSIDriver) : Bool :=
  drivers.any fun driver => driver.metadata.name == "topolvm.io"

/-- `establishedCRD`. -/
def establishedCRD (crds : List CustomResourceDefinition) (name : String) : Bool :=
  crds.any fun crd =>
    crd.metadata.name == name && crd.conditions.any fun condition =>
      condition.type == "Established" && condition.status == .true

/-- `availableDeployment`: one that is not known to be behind its generation, and has a replica. -/
def availableDeployment (deployments : List Deployment) : Bool :=
  deployments.any fun deployment =>
    !(deployment.replicas.isSome && decide (deployment.observedGeneration < deployment.metadata.generation)) &&
      decide (deployment.availableReplicas ≥ 1)

/-- `readyDaemonSet`. -/
def readyDaemonSet (daemonSets : List DaemonSet) : Bool :=
  daemonSets.any fun daemonSet =>
    decide (daemonSet.desiredNumberScheduled > 0) && daemonSet.numberReady == daemonSet.desiredNumberScheduled &&
      daemonSet.updatedNumberScheduled == daemonSet.desiredNumberScheduled

/-- What the loop over the conditions of a node has found so far: whether it is ready, and whether its
network is unavailable. -/
structure NetworkState where
  ready : Bool := false
  networkUnavailable : Bool := false

/-- One condition of a node: a later one of the same type counts. -/
def NetworkState.add (state : NetworkState) (condition : Condition) : NetworkState :=
  if condition.type = "Ready" then { state with ready := condition.status == .true }
  else if condition.type = "NetworkUnavailable" then { state with networkUnavailable := condition.status == .true }
  else state

/-- `networkReadyNode`. -/
def networkReadyNode (nodes : List Node) : Bool :=
  nodes.any fun node =>
    let state := node.conditions.foldl NetworkState.add {}
    state.ready && !state.networkUnavailable

/-- `EvaluateBaseline`. -/
def evaluateBaseline (inputs : BaselineInputs) : BaselineObservation :=
  { namespaceReady := inputs.k3kNamespaceExists
    k3kCRDsReady := establishedCRD inputs.k3kCRDs "clusters.k3k.io" &&
      establishedCRD inputs.k3kCRDs "virtualclusterpolicies.k3k.io"
    controllerReady := availableDeployment inputs.k3kDeployments
    cniReady := networkReadyNode inputs.nodes
    topoLVMReady := inputs.topoLVMNamespaceExists && availableDeployment inputs.topoLVMDeployments &&
      readyDaemonSet inputs.topoLVMNodeDaemonSets && readyDaemonSet inputs.topoLVMLvmdDaemonSets &&
      validTopoLVMStorageClass inputs.topoLVMStorageClasses && validTopoLVMCSIDriver inputs.topoLVMCSIDrivers }

/-! ## The observation -/

/-- The calls to the API server of the host; a selector asks for the value of a label. -/
inductive BaselineCall where
  | getNamespace (name : String)
  | listCustomResourceDefinitions
  | listDeployments (ns : String) (selector : String × String)
  | listDaemonSets (ns : String) (selector : String × String)
  | listStorageClasses
  | listCSIDrivers
  | listNodes

/-- What a call reads. -/
abbrev BaselineCall.Out : BaselineCall → Type
  | .getNamespace _ => HostNamespace
  | .listCustomResourceDefinitions => List CustomResourceDefinition
  | .listDeployments _ _ => List Deployment
  | .listDaemonSets _ _ => List DaemonSet
  | .listStorageClasses => List StorageClassSettings
  | .listCSIDrivers => List CSIDriver
  | .listNodes => List Node

/-- What a call is answered with. -/
abbrev BaselineCall.Res (call : BaselineCall) : Type := Except Err call.Out

/-- A program of such calls. -/
abbrev BaselineAction (α : Type) : Type := Prog BaselineCall BaselineCall.Res α

/-- One call. -/
def readHost (call : BaselineCall) : BaselineAction (Except Err call.Out) := Prog.perform call

/-- `topoLVMComponent`. -/
def topoLVMComponent (daemonSet : DaemonSet) (component : String) : Bool :=
  if daemonSet.metadata.labels.get "app.kubernetes.io/component" = component ∨
      daemonSet.templateLabels.get "app.kubernetes.io/component" = component then true
  else if component = "node" then daemonSet.metadata.name == "topolvm-node"
  else component == "lvmd" && hasPrefix daemonSet.metadata.name "topolvm-lvmd-"

/-- `splitTopoLVMDaemonSets`; a daemon set may be of both kinds. -/
def splitTopoLVMDaemonSets (daemonSets : List DaemonSet) : List DaemonSet × List DaemonSet :=
  daemonSets.foldl (fun (node, lvmd) daemonSet =>
    (if topoLVMComponent daemonSet "node" then node ++ [daemonSet] else node,
      if topoLVMComponent daemonSet "lvmd" then lvmd ++ [daemonSet] else lvmd)) ([], [])

/-- `filterK3kCRDs`. -/
def filterK3kCRDs (crds : List CustomResourceDefinition) : List CustomResourceDefinition :=
  crds.filter fun crd => crd.metadata.name == "clusters.k3k.io" || crd.metadata.name == "virtualclusterpolicies.k3k.io"

/-- The namespace of TopoLVM, with its deployments and daemon sets when it is there. -/
structure TopoLVMObjects where
  phase : String
  deployments : List Deployment
  nodeDaemonSets : List DaemonSet
  lvmdDaemonSets : List DaemonSet

/-- The part of `ObserveBaseline` about the namespace of TopoLVM: that it is not there is no error. -/
def observeTopoLVM : BaselineAction (Except Err (Option TopoLVMObjects)) := do
  match ← readHost (.getNamespace "topolvm-system") with
  | .error e => return if e.isNotFound then .ok none else .error (e.wrap "read TopoLVM namespace")
  | .ok ns =>
    match ← readHost (.listDeployments "topolvm-system" ("app.kubernetes.io/name", "topolvm")) with
    | .error e => return .error (e.wrap "list TopoLVM Deployments")
    | .ok deployments =>
      match ← readHost (.listDaemonSets "topolvm-system" ("app.kubernetes.io/name", "topolvm")) with
      | .error e => return .error (e.wrap "list TopoLVM node DaemonSets")
      | .ok daemonSets =>
        let (node, lvmd) := splitTopoLVMDaemonSets daemonSets
        return .ok (some { phase := ns.phase, deployments := deployments, nodeDaemonSets := node, lvmdDaemonSets := lvmd })

/-- The last part of `ObserveBaseline`: storage, nodes and the evaluation. -/
def finishBaseline (ns : HostNamespace) (crds : List CustomResourceDefinition) (deployments : List Deployment)
    (topolvm : Option TopoLVMObjects) : BaselineAction (Except Err BaselineObservation) := do
  match ← readHost .listStorageClasses with
  | .error e => return .error (e.wrap "list StorageClasses")
  | .ok storageClasses =>
    match ← readHost .listCSIDrivers with
    | .error e => return .error (e.wrap "list CSIDrivers")
    | .ok csiDrivers =>
      match ← readHost .listNodes with
      | .error e => return .error (e.wrap "list Host Nodes")
      | .ok nodes =>
        return .ok (evaluateBaseline
          { k3kNamespaceExists := ns.phase == "Active"
            k3kCRDs := filterK3kCRDs crds
            k3kDeployments := deployments
            topoLVMNamespaceExists := topolvm.any (·.phase == "Active")
            topoLVMDeployments := (topolvm.map (·.deployments)).getD []
            topoLVMNodeDaemonSets := (topolvm.map (·.nodeDaemonSets)).getD []
            topoLVMLvmdDaemonSets := (topolvm.map (·.lvmdDaemonSets)).getD []
            topoLVMStorageClasses := storageClasses
            topoLVMCSIDrivers := csiDrivers
            nodes := nodes })

/-- `RESTBaselineReader`: which of its two clients it has. -/
structure RESTBaselineReader where
  hasClient : Bool := false
  hasExtensions : Bool := false
  deriving DecidableEq, Repr

/-- `ObserveBaseline`. -/
def RESTBaselineReader.observeBaseline (r : RESTBaselineReader) : BaselineAction (Except Err BaselineObservation) := do
  if !r.hasClient || !r.hasExtensions then return .error (errorf "host baseline reader is not configured")
  match ← readHost (.getNamespace Platform.k3kControllerNamespace) with
  | .error e => return .error (e.wrap s!"read K3k namespace {Platform.k3kControllerNamespace}")
  | .ok ns =>
    match ← readHost .listCustomResourceDefinitions with
    | .error e => return .error (e.wrap "list K3k CRDs")
    | .ok crds =>
      match ← readHost (.listDeployments Platform.k3kControllerNamespace ("app.kubernetes.io/name", "k3k")) with
      | .error e => return .error (e.wrap "list K3k controller Deployments")
      | .ok deployments =>
        match ← observeTopoLVM with
        | .error e => return .error e
        | .ok topolvm => finishBaseline ns crds deployments topolvm

/-! ## The host that is observed -/

/-- The objects of a host that the observation reads. -/
structure HostObjects where
  namespaces : List HostNamespace := []
  customResourceDefinitions : List CustomResourceDefinition := []
  deployments : List Deployment := []
  daemonSets : List DaemonSet := []
  storageClasses : List StorageClassSettings := []
  csiDrivers : List CSIDriver := []
  nodes : List Node := []

/-- The object is in the namespace and has the label that a selector asks for. -/
def ObjectMeta.selected (m : ObjectMeta) (ns : String) (selector : String × String) : Bool :=
  m.ns == ns && AList.lookup selector.1 m.labels == some selector.2

/-- The namespace with a name. -/
def HostObjects.findNamespace (host : HostObjects) (name : String) : Option HostNamespace :=
  host.namespaces.find? (·.metadata.name == name)

/-- How the API server of a host answers. -/
def HostObjects.serve (host : HostObjects) : (call : BaselineCall) → call.Res
  | .getNamespace name =>
    match host.findNamespace name with
    | some ns => .ok ns
    | none => .error errNotFound
  | .listCustomResourceDefinitions => .ok host.customResourceDefinitions
  | .listDeployments ns selector => .ok (host.deployments.filter (·.metadata.selected ns selector))
  | .listDaemonSets ns selector => .ok (host.daemonSets.filter (·.metadata.selected ns selector))
  | .listStorageClasses => .ok host.storageClasses
  | .listCSIDrivers => .ok host.csiDrivers
  | .listNodes => .ok host.nodes

/-- What a call over the proxy may be answered with: reads change nothing, and fail only where failures may occur. -/
inductive HostObjects.Exec (failing : Prop) : HostObjects → (call : BaselineCall) → call.Res → HostObjects → Prop where
  | served (host : HostObjects) (call : BaselineCall) : Exec failing host call (host.serve call) host
  | failed (host : HostObjects) (call : BaselineCall) (e : Err) :
    failing → e.reason = .other → Exec failing host call (.error e) host

end KubeCell
