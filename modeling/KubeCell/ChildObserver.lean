import KubeCell.Inventory
import KubeCell.Platform
import KubeCell.Lib.Attempts
import KubeCell.Lib.Text

/-!
# Observing a child cluster

`ResourceObserver` of `internal/provider/k3k/child_observer.go` and `RewriteKubeconfigEndpoint` of
`internal/provider/k3k/kubeconfig.go`. The kubeconfig that K3k leaves on the host is pointed at one address
after the other until the child cluster behind it passes every probe. The YAML library, the host and the child
clusters are parameters.
-/

namespace KubeCell

/-- An error that no API server reports. -/
def errorf (message : String) : Err := ⟨.other, message⟩

/-- An error with a text in front, which keeps its cause. -/
def Err.wrap (e : Err) (text : String) : Err := { e with message := text ++ ": " ++ e.message }

/-! ## Documents -/

/-- A decoded document; a map is what looking up its keys gives. -/
inductive Doc where
  | null
  | bool (value : Bool)
  | number (literal : String)
  | string (value : String)
  | list (items : List Doc)
  | map (fields : String → Option Doc)

/-- A `map[string]any`. -/
abbrev Fields : Type := String → Option Doc

/-- `sigs.k8s.io/yaml`. -/
structure Yaml where
  unmarshal : List UInt8 → Except Err Fields
  marshal : Fields → Except Err (List UInt8)

/-- The loop of `RewriteKubeconfigEndpoint`, from the cluster with the given index on. -/
def rewriteClusters (endpoint : String) (index : Nat) : List Doc → Except Err (List Doc)
  | [] => .ok []
  | .map clusterEntry :: rest =>
    match clusterEntry "cluster" with
    | some (.map clusterConfig) => do
      let clusters ← rewriteClusters endpoint (index + 1) rest
      return .map (Function.update clusterEntry "cluster"
        (some (.map (Function.update clusterConfig "server" (some (.string endpoint)))))) :: clusters
    | _ => .error (errorf s!"kubeconfig cluster {index} has no cluster data")
  | _ => .error (errorf s!"kubeconfig cluster {index} is malformed")

/-- What `RewriteKubeconfigEndpoint` does to a decoded kubeconfig. -/
def rewriteServers (config : Fields) (endpoint : String) : Except Err Fields :=
  match config "clusters" with
  | some (.list clusters) => do
    if clusters = [] then throw (errorf "kubeconfig has no clusters")
    if endpoint = "" then throw (errorf "endpoint is empty")
    let rewritten ← rewriteClusters endpoint 0 clusters
    return Function.update config "clusters" (some (.list rewritten))
  | _ => .error (errorf "kubeconfig has no clusters")

/-- `RewriteKubeconfigEndpoint`. -/
def rewriteKubeconfigEndpoint (yaml : Yaml) (input : List UInt8) (endpoint : String) : Except Err (List UInt8) := do
  let config ← (yaml.unmarshal input).mapError (·.wrap "parse kubeconfig")
  let rewritten ← rewriteServers config endpoint
  (yaml.marshal rewritten).mapError (·.wrap "marshal kubeconfig")

/-! ## The observer -/

/-- A storage class with the settings that the observer compares. -/
structure StorageClassSettings extends StorageClass where
  volumeBindingMode : Option String := none
  reclaimPolicy : Option String := none
  allowVolumeExpansion : Option Bool := none

/-- `RenderChildStorageClass`. -/
def renderChildStorageClass (name : String) : Except Err StorageClassSettings := do
  if name = "" then throw (errorf "storage class name is required")
  return { metadata := { name := name, labels := .ofList [("kubecell.io/managed", "true")] }, provisioner := "topolvm.io"
           volumeBindingMode := some Platform.volumeBindingMode, reclaimPolicy := some Platform.reclaimPolicy
           allowVolumeExpansion := some Platform.allowVolumeExpansion }

/-- `HostReader`. -/
structure HostReader where
  getSecret : String → String → Except Err Secret
  getService : String → String → Except Err Service
  getStorageClass : String → Except Err (Option StorageClassSettings)

/-- `ChildClientFactory` with what its clients of type `χ` answer, in the attempt with the given number. -/
structure ChildClientFactory (χ : Type) where
  new : Nat → List UInt8 → String → Except Err χ
  ready : Nat → χ → Except Err Unit
  listNodes : Nat → χ → Except Err (Option (List Node))
  ensureStorageClass : Nat → χ → StorageClassSettings → Except Err Unit

/-- `ResourceObservation`. -/
structure ResourceObservation (χ : Type) where
  kubeconfig : List UInt8
  sourceSecretName : String
  nodePort : Int
  endpoint : String := ""
  apiReady : Bool := false
  logicalNodeName : String := ""
  logicalNodeReady : Bool := false
  storageClassReady : Bool := false
  client : Option χ := none

/-- `ResourceObserver`; what is not configured is `none`. -/
structure ResourceObserver (χ : Type) where
  reader : Option HostReader
  clientFactory : Option (ChildClientFactory χ)

/-- `isOwnedByK3kCluster`. -/
def isOwnedByK3kCluster (secret : Secret) (clusterName : String) : Bool :=
  secret.metadata.ownerReferences.any fun owner =>
    owner.kind == "Cluster" && owner.name == clusterName && hasPrefix owner.apiVersion "k3k.io/"

/-- `ObserveResources`. -/
def ResourceObserver.observeResources {χ : Type} (o : ResourceObserver χ) (cluster : VirtualCluster) :
    Except Err (ResourceObservation χ) := do
  let some reader := o.reader | throw (errorf "host reader is not configured")
  let ns := cluster.status.resolved.hostNamespace
  let name := cluster.status.resolved.k3kClusterName
  if ns = "" ∨ name = "" then throw (errorf "resolved Host namespace and K3k cluster name are required")
  let secretName := "k3k-" ++ name ++ "-kubeconfig"
  let secret ← (reader.getSecret ns secretName).mapError (·.wrap s!"read Child kubeconfig Secret {ns}/{secretName}")
  let kubeconfig := (secret.data.lookup "kubeconfig.yaml").getD []
  if kubeconfig = [] then throw (errorf s!"child kubeconfig Secret {ns}/{secretName} has no kubeconfig.yaml")
  let uid := secret.metadata.labels.get "kubecell.io/virtual-cluster-uid"
  if uid ≠ "" ∧ uid ≠ cluster.metadata.uid then
    throw (errorf s!"child kubeconfig Secret {ns}/{secretName} belongs to VirtualCluster UID {uid.quote}, want {cluster.metadata.uid.quote}")
  if uid = "" ∧ !isOwnedByK3kCluster secret name then
    throw (errorf s!"child kubeconfig Secret {ns}/{secretName} is not owned by K3k Cluster {name.quote}")
  let serviceName := "k3k-" ++ name ++ "-service"
  let service ← (reader.getService ns serviceName).mapError (·.wrap s!"read Child API Service {ns}/{serviceName}")
  match service.ports.find? fun port => port.port == 443 && port.nodePort > 0 with
  | some port => return { kubeconfig := kubeconfig, sourceSecretName := secretName, nodePort := port.nodePort }
  | none => throw (errorf s!"child API Service {ns}/{serviceName} has no NodePort for port 443")

/-- `readyNode`. -/
def readyNode : Option (List Node) → Except Err Node
  | none | some [] => .error (errorf "child logical Node list is empty")
  | some nodes =>
    match nodes.find? nodeReady with
    | some node => .ok node
    | none => .error (errorf "no Child logical Node is Ready")

/-- `net.JoinHostPort`. -/
def joinHostPort (host port : String) : String :=
  if ':' ∈ host.toList then "[" ++ host ++ "]:" ++ port else host ++ ":" ++ port

/-- The endpoint behind an address. -/
def childEndpoint (address : String) (nodePort : Int) : String := "https://" ++ joinHostPort address (toString nodePort)

/-- The probes of one attempt: a client is made, the API is ready, a node is ready, and the storage class is there. -/
def ChildClientFactory.probe {χ : Type} (factory : ChildClientFactory χ) (storageClass : StorageClassSettings)
    (attempt : Nat) (kubeconfig : List UInt8) (endpoint : String) : Except Err (χ × Node) := do
  let child ← factory.new attempt kubeconfig endpoint
  factory.ready attempt child
  let nodes ← factory.listNodes attempt child
  let node ← readyNode nodes
  factory.ensureStorageClass attempt child storageClass
  return (child, node)

/-- One turn of the loop of `Observe`. -/
def observeAddress {χ : Type} (yaml : Yaml) (factory : ChildClientFactory χ) (storageClass : StorageClassSettings)
    (observation : ResourceObservation χ) (attempt : Nat) (address : String) : Turn Err (ResourceObservation χ) :=
  let endpoint := childEndpoint address observation.nodePort
  match rewriteKubeconfigEndpoint yaml observation.kubeconfig endpoint with
  | .error rewriteErr => .ended rewriteErr
  | .ok rewritten =>
    match factory.probe storageClass attempt rewritten endpoint with
    | .error e => .failed e
    | .ok (child, node) =>
      .done { observation with
        kubeconfig := rewritten, endpoint := endpoint, apiReady := true, client := some child,
          logicalNodeName := node.metadata.name
        logicalNodeReady := true, storageClassReady := true }

/-- `Observe`. -/
def ResourceObserver.observe {χ : Type} (yaml : Yaml) (o : ResourceObserver χ) (cluster : VirtualCluster)
    (addresses : List String) :
    Except Err (ResourceObservation χ) := do
  let observation ← o.observeResources cluster
  let some factory := o.clientFactory | throw (errorf "child client factory is not configured")
  let mapping := cluster.status.resolved.storage
  let storageClass ← (renderChildStorageClass mapping.childName).mapError (·.wrap "render Child StorageClass")
  let some reader := o.reader | throw (errorf "host reader is not configured")
  let hostStorageClass ← (reader.getStorageClass mapping.hostName).mapError
    (·.wrap s!"read Host TopoLVM StorageClass {mapping.hostName.quote}")
  if !hostStorageClass.any fun c =>
    c.provisioner == "topolvm.io" && c.volumeBindingMode == some "WaitForFirstConsumer" then
    throw (errorf s!"host StorageClass {mapping.hostName.quote} is not a certified TopoLVM WaitForFirstConsumer class")
  if addresses = [] then throw (errorf "at least one Child API address is required")
  tryEach (observeAddress yaml factory storageClass observation)
    (fun lastErr => (lastErr.getD (errorf "%!w(<nil>)")).wrap
      "child API probe failed for all addresses") 0 none addresses

end KubeCell
