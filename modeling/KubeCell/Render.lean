import KubeCell.Resolution

/-!
# Rendering

`internal/render`: the manifests of the host objects of a VirtualCluster. The source builds untyped maps; here each
kind of object is a constructor with the fields that are rendered. Quantities are rendered as they print.
-/

namespace KubeCell

/-- `render.Names`. -/
structure Names where
  hostNamespace : String
  k3kCluster : String
  hostAPIAddresses : List String := []
  foundationWork : String
  instanceWork : String
  adminKubeconfig : String
  deriving DecidableEq, Repr

/-- The names of a VirtualCluster, as the reconciler hands them to the renderer. -/
def VirtualCluster.renderNames (v : VirtualCluster) (addresses : List String) : Names :=
  { hostNamespace := v.names.hostNamespace, k3kCluster := v.names.k3kCluster, hostAPIAddresses := addresses
    foundationWork := v.names.foundationWork, instanceWork := v.names.instanceWork,
      adminKubeconfig := v.names.adminKubeconfig }

/-- A peer of a network policy rule: pods with these labels, or a block of addresses. -/
inductive NetworkPolicyPeer where
  | podSelector (matchLabels : List (String × String))
  | ipBlock (cidr : String)
  deriving DecidableEq, Repr

/-- A port of a network policy rule. -/
structure NetworkPolicyPort where
  protocol : String
  port : Int
  deriving DecidableEq, Repr

/-- A rule of a network policy; a part that is not rendered is `none`. -/
structure NetworkPolicyRule where
  peers : Option (List NetworkPolicyPeer) := none
  ports : Option (List NetworkPolicyPort) := none
  deriving DecidableEq, Repr

/-- The specification of a network policy; a section that is not rendered is `none`. -/
structure NetworkPolicySpec where
  podSelector : List (String × String) := []
  ingress : Option (List NetworkPolicyRule) := none
  egress : Option (List NetworkPolicyRule) := none
  deriving DecidableEq, Repr

/-- The specification of a K3k cluster. -/
structure K3kClusterSpec where
  mode : String
  version : String
  serverArgs : List String
  persistenceType : String
  storageClassName : String
  storageRequestSize : String
  serverResources : StringMap
  workerResources : StringMap

/-- A rule of a mirrored ingress. -/
structure MirrorRule where
  host : String
  path : String
  pathType : String
  serviceName : String
  port : Int
  deriving DecidableEq, Repr

/-- A rendered host object. -/
inductive Manifest where
  | namespaceObject (metadata : ObjectMeta)
  | resourceQuota (metadata : ObjectMeta) (hard : StringMap)
  | limitRange (metadata : ObjectMeta) (limitType : String) (default defaultRequest : StringMap)
  | networkPolicy (metadata : ObjectMeta) (spec : NetworkPolicySpec)
  | role (metadata : ObjectMeta) (apiGroups resources verbs : List String)
  | roleBinding (metadata : ObjectMeta) (roleRef subjectName subjectNamespace : String)
  | k3kCluster (metadata : ObjectMeta) (spec : K3kClusterSpec)
  | virtualClusterPolicy (metadata : ObjectMeta) (allowedMode : String) (hard : StringMap)
    (podSecurityAdmissionLevel : String)
  | service (metadata : ObjectMeta) (protocol : String) (port targetPort : Int)
  | endpoints (metadata : ObjectMeta) (subsets : List EndpointSubset)
  | ingress (metadata : ObjectMeta) (ingressClassName : String) (rules : List MirrorRule)

/-- `quantityMap`. -/
def quantityMap (values : ResourceList) : StringMap := GoMap.ofList (values.entries.map fun e => (e.1, e.2.string))

/-- A quantity is rendered as it prints. -/
theorem lookup_quantityMap (quantities : ResourceList) (name : String) :
    AList.lookup name (quantityMap quantities) = (AList.lookup name quantities).map Quantity.string := by
  have hentries : ∀ l : List (Sigma fun _ : String => Quantity),
      AList.lookup name (GoMap.ofList (l.map fun e => (e.1, e.2.string))) = (l.dlookup name).map Quantity.string := by
    intro l
    induction l with
    | nil => rfl
    | cons e l ih =>
      obtain ⟨key, q⟩ := e
      rw [List.map_cons, GoMap.ofList, List.foldr_cons]
      by_cases hkey : name = key
      · subst hkey
        rw [AList.lookup_insert, List.dlookup_cons_eq, Option.map_some]
      · rw [AList.lookup_insert_ne hkey, List.dlookup_cons_ne _ _ hkey]
        exact ih
  exact hentries quantities.entries

/-- `merge`: the entries of both maps, those of the second first. -/
def merge (left right : StringMap) : StringMap := right.entries.foldl (fun result e => result.insert e.1 e.2) left

/-- The metadata of a rendered object. -/
def objectMeta (name ns : String) (labels : StringMap) : ObjectMeta := { name := name, ns := ns, labels := labels }

/-- The ownership labels of the objects of a VirtualCluster. -/
def VirtualCluster.ownedLabels (v : VirtualCluster) (resolved : ResolvedSnapshot) : StringMap :=
  ownedHostLabels v.spec.cellRef.name v.metadata.ns v.metadata.name v.metadata.uid resolved.profileHash

/-- `ipPeers`. -/
def ipPeers (addresses : List String) : List NetworkPolicyPeer :=
  (addresses.filter fun address => trimSpace address.toList ≠ []).map fun address => .ipBlock (address ++ "/32")

/-- `acceleratorKeyList`. -/
def acceleratorKeyList (keys : List String) : String := ",".intercalate (sortStrings keys)

/-- A rule for one TCP port and some peers. -/
def tcpRule (peers : List NetworkPolicyPeer) (port : Int) : NetworkPolicyRule :=
  { peers := some peers, ports := some [⟨"TCP", port⟩] }

/-- `RenderFoundation`. -/
def renderFoundation (cluster : VirtualCluster) (resolved : ResolvedSnapshot) (names : Names) : List Manifest :=
  let labels := cluster.ownedLabels resolved
  let owned (name : String) : ObjectMeta := objectMeta name names.hostNamespace labels
  let containerDefaults := quantityMap Platform.defaultContainerResources
  let agent : List (String × String) := [("cluster", names.k3kCluster), ("type", "agent")]
  let server : List (String × String) := [("role", "server")]
  let policyLabels : StringMap := GoMap.ofList
    [("kubecell.io/virtual-cluster-uid", cluster.metadata.uid),
      ("kubecell.io/profile-name", resolved.machineProfileName),
      ("policy.k3k.io/policy-name", names.k3kCluster)]
  let policyAnnotations : StringMap := GoMap.ofList
    [("kubecell.io/profile-label-key", Platform.profileLabelKey),
      ("kubecell.io/storage-class-names", resolved.storage.childName),
      ("kubecell.io/allowed-resource-names", acceleratorKeyList resolved.acceleratorKeys)]
  [.namespaceObject
      { name := names.hostNamespace
        labels := merge (merge labels policyLabels)
          (GoMap.ofList [("pod-security.kubernetes.io/enforce", Platform.podSecurityEnforceLevel)])
        annotations := policyAnnotations },
    .resourceQuota (owned "kubecell-workload") (quantityMap resolved.quota),
    .limitRange (owned "kubecell-defaults") "Container" containerDefaults containerDefaults,
    .networkPolicy (owned "kubecell-default-deny") {},
    .networkPolicy (owned "kubecell-dns-allow") { egress := some [{ ports := some [⟨"UDP", 53⟩, ⟨"TCP", 53⟩] }] },
    .networkPolicy (owned "kubecell-child-api-allow")
      { podSelector := server, ingress := some [{}], egress := some [tcpRule [.podSelector agent] 10250] },
    .networkPolicy (owned "kubecell-shared-agent-egress")
      { podSelector := agent
        ingress := some [tcpRule [.podSelector server] 10250]
        egress := some [tcpRule [.ipBlock "10.43.0.1/32"] 443, tcpRule (ipPeers names.hostAPIAddresses) 6443,
          tcpRule [.podSelector server] 6443] },
    .role (owned "kubecell-portforward") [""] ["pods/portforward"] ["create"],
    .roleBinding (owned "kubecell-portforward") "kubecell-portforward"
      ("k3k-" ++ names.k3kCluster ++ "-kubelet") names.hostNamespace]

/-- The server arguments, with one for each host address that is not there yet. -/
def serverArgs (addresses : List String) : List String :=
  addresses.foldl
    (fun arguments address =>
      if containsString arguments ("--tls-san=" ++ address) then arguments else arguments ++ ["--tls-san=" ++ address])
    Platform.serverArgs

/-- `RenderK3kCluster`. -/
def renderK3kCluster (cluster : VirtualCluster) (resolved : ResolvedSnapshot) (names : Names) : Manifest :=
  .k3kCluster (objectMeta names.k3kCluster names.hostNamespace (cluster.ownedLabels resolved))
    { mode := "shared"
      version := resolved.k3kChildVersion
      serverArgs := serverArgs names.hostAPIAddresses
      persistenceType := "dynamic"
      storageClassName := resolved.storage.hostName
      storageRequestSize := "2Gi"
      serverResources := quantityMap Platform.controlPlaneReservation
      workerResources := quantityMap Platform.reflectedSystemReservation }

/-! ## The ingress mirror -/

/-- `ChildIngressBackend`. -/
structure ChildIngressBackend where
  ingress : Ingress
  service : Option Service
  endpoints : Option Endpoints

/-- The ingress is of the class that is mirrored. -/
def Ingress.isMirrored (ingress : Ingress) : Bool := ingress.ingressClassName == some Platform.ingressClassName

/-- The paths of an ingress that lead to a service, in order, over all rules. -/
def Ingress.servicePaths (ingress : Ingress) : List (HTTPIngressPath × IngressServiceBackend) :=
  (ingress.rules.flatMap fun rule => rule.http.getD []).filterMap fun path =>
    path.service.map fun backend => (path, backend)

/-- `mirrorServicePort`. -/
def mirrorServicePort (service : Option Service) (port : ServiceBackendPort) : Option Int :=
  if port.number > 0 then some port.number
  else
    match service with
    | none => none
    | some service =>
      if port.name = "" then none
      else (service.ports.find? fun servicePort =>
        servicePort.name == port.name && decide (servicePort.port > 0)).map (·.port)

/-- `truncateName`. -/
def truncateName (value : String) : String := String.ofList (truncateDNS value.toList)

/-- The name of the host service of a path that is mirrored with a port. -/
def mirrorServiceName (ingress : Ingress) (backend : IngressServiceBackend) (port : Int) : String :=
  truncateName ("ing-" ++ ingress.metadata.name ++ "-" ++ backend.name ++ "-" ++ toString port)

/-- The name of the host ingress of a child ingress. -/
def hostIngressName (ingress : Ingress) : String := truncateName (ingress.metadata.ns ++ "-" ++ ingress.metadata.name)

/-- `mirrorService`. -/
def mirrorService (name ns : String) (labels : StringMap) (port : Int) : Manifest :=
  .service (objectMeta name ns labels) "TCP" port port

/-- `mirrorEndpoints`: the addresses are copied, the names of the ports are not. -/
def mirrorEndpoints (name ns : String) (labels : StringMap) (source : Option Endpoints) : Manifest :=
  .endpoints (objectMeta name ns labels)
    (((source.map (·.subsets)).getD []).map fun subset =>
      { addresses := subset.addresses, ports := subset.ports.map fun port => { port with name := "" } })

/-- `mirrorRule`. -/
def mirrorRule (hostname : String) (path : HTTPIngressPath) (serviceName : String) (port : Int) : MirrorRule :=
  { host := hostname
    path := path.path
    pathType := if (path.pathType.getD "") ≠ "" then path.pathType.getD "" else "ImplementationSpecific"
    serviceName := serviceName
    port := port }

/-- `mirrorIngress`. -/
def mirrorIngress (name ns : String) (labels : StringMap) (rules : List MirrorRule) : Manifest :=
  .ingress { objectMeta name ns labels with annotations := GoMap.ofList [("kubernetes.io/ingress.class", Platform.ingressClassName)] }
    Platform.ingressClassName rules

/-- What the renderer has gathered: the names of the services it has made, the services and endpoints, and the rules
of each host ingress, in the order the host ingresses were met in. -/
structure MirrorState where
  seen : List String := []
  objects : List Manifest := []
  pending : List (String × List MirrorRule) := []

/-- Add a rule to the host ingress of a name. -/
def addPending (name : String) (rule : MirrorRule) : List (String × List MirrorRule) → List (String × List MirrorRule)
  | [] => [(name, [rule])]
  | (other, rules) :: rest =>
    if other = name then (other, rules ++ [rule]) :: rest else (other, rules) :: addPending name rule rest

/-- One turn of the inner loop: one path of the ingress of a backend. -/
def mirrorPath (ns : String) (labels : StringMap) (hostname : String) (backend : ChildIngressBackend)
    (state : MirrorState) (path : HTTPIngressPath × IngressServiceBackend) : MirrorState :=
  match mirrorServicePort backend.service path.2.port with
  | none => state
  | some port =>
    let serviceName := mirrorServiceName backend.ingress path.2 port
    let state :=
      if state.seen.contains serviceName then state
      else
        { state with
          seen := state.seen ++ [serviceName]
          objects := state.objects ++
            [mirrorService serviceName ns labels port, mirrorEndpoints serviceName ns labels backend.endpoints] }
    { state with
      pending := addPending (hostIngressName backend.ingress)
        (mirrorRule hostname path.1 serviceName port) state.pending }

/-- One turn of the outer loop: one backend. -/
def mirrorBackend (clusterName appsSuffix ns : String) (labels : StringMap) (state : MirrorState)
    (backend : ChildIngressBackend) : MirrorState :=
  if backend.ingress.isMirrored then
    backend.ingress.servicePaths.foldl
      (mirrorPath ns labels (backend.ingress.metadata.name ++ "." ++ clusterName ++ "." ++ appsSuffix) backend) state
  else state

/-- `RenderIngressMirror`. -/
def renderIngressMirror (cluster : VirtualCluster) (resolved : ResolvedSnapshot) (appsSuffix : String)
    (backends : List ChildIngressBackend) : Except String (List Manifest) :=
  if trimSpace appsSuffix.toList = [] then .error "apps suffix is required"
  else if resolved.hostNamespace = "" then .error "resolved Host namespace is required"
  else
    let labels := cluster.ownedLabels resolved
    let state := backends.foldl (mirrorBackend cluster.metadata.name appsSuffix resolved.hostNamespace labels) {}
    .ok (state.objects ++ state.pending.map fun entry => mirrorIngress entry.1 resolved.hostNamespace labels entry.2)

/-! ## Collecting the backends -/

/-- What the collector reads from a child cluster; how an answer is got is left open. -/
structure ChildClient (m : Type → Type) where
  listIngresses : m (Except Err (List Ingress))
  getService : (ns name : String) → m (Except Err Service)
  getEndpoints : (ns name : String) → m (Except Err Endpoints)

/-- What the collector has gathered: the services and endpoints it has read, by namespace and name, and the backends. -/
structure Collected where
  services : GoMap Service := ∅
  endpoints : GoMap Endpoints := ∅
  backends : List ChildIngressBackend := []

variable {m : Type → Type} [Monad m]

/-- A read that is made once: what was read before, or what the read answers. -/
def readOnce {α : Type} (cache : GoMap α) (key : String) (read : m (Except Err α)) : m (Except Err α) :=
  match AList.lookup key cache with
  | some value => pure (.ok value)
  | none => read

/-- One turn of the collector: one path of one ingress. -/
def collectPath (client : ChildClient m) (ingress : Ingress) (state : Collected)
    (path : HTTPIngressPath × IngressServiceBackend) : m Collected := do
  let key := ingress.metadata.ns ++ "/" ++ path.2.name
  match ← readOnce state.services key (client.getService ingress.metadata.ns path.2.name) with
  | .error _ => return state
  | .ok service =>
    let state := { state with services := state.services.insert key service }
    match ← readOnce state.endpoints key (client.getEndpoints ingress.metadata.ns path.2.name) with
    | .error _ => return { state with backends := state.backends ++ [⟨ingress, some service, none⟩] }
    | .ok endpoints =>
      return { state with
        endpoints := state.endpoints.insert key endpoints
        backends := state.backends ++ [⟨ingress, some service, some endpoints⟩] }

/-- `mirrorChildIngresses`. -/
def mirrorChildIngresses (cluster : VirtualCluster) (resolved : ResolvedSnapshot) (appsSuffix : String)
    (client : ChildClient m) : m (Except String (List Manifest)) := do
  if trimSpace appsSuffix.toList = [] then return .ok []
  match ← client.listIngresses with
  | .error e => return .error ("list Child ingresses: " ++ e.message)
  | .ok items =>
    let collected ← (items.filter (·.isMirrored)).foldlM
      (fun state ingress => ingress.servicePaths.foldlM (collectPath client ingress) state) {}
    return renderIngressMirror cluster resolved appsSuffix collected.backends

end KubeCell
