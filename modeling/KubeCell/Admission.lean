import KubeCell.Helpers
import KubeCell.Lib.Text

/-!
# Host admission

The webhook in front of pod creation on the host (`internal/admission`): it reads the policy off the namespace, sorts
the pod into one of three classes by its labels and annotations, and allows, patches or denies it. A map is looped
over in the order of its entries, and the two reflected system resources in the order cpu, memory.
-/

namespace KubeCell

/-- `admission.Policy`. -/
structure Policy where
  ns : String
  virtualClusterUID : String
  profileLabelKey : String
  profileName : String
  allowedStorageNodes : List String := []
  storageClassNames : List String
  allowedResourceNames : List String
  k3kClusterName : String
  reflectedSystem : ResourceList

/-- The keys the webhook reads. -/
def k3kAgentNameLabel : String := "k3k.io/agentName"
@[inherit_doc k3kAgentNameLabel] def k3kResourceNamespace : String := "k3k.io/namespace"
@[inherit_doc k3kAgentNameLabel] def k3kPolicyNameLabel : String := "policy.k3k.io/policy-name"
@[inherit_doc k3kAgentNameLabel] def labelProfileLabelKey : String := "kubecell.io/profile-label-key"
@[inherit_doc k3kAgentNameLabel] def labelProfileName : String := "kubecell.io/profile-name"
@[inherit_doc k3kAgentNameLabel] def annotationStorageClass : String := "kubecell.io/storage-class-names"
@[inherit_doc k3kAgentNameLabel] def annotationAllowedResources : String := "kubecell.io/allowed-resource-names"
@[inherit_doc k3kAgentNameLabel] def annotationReflectedSystemCPU : String := "kubecell.io/reflected-system-cpu"
@[inherit_doc k3kAgentNameLabel] def annotationReflectedSystemMemory : String := "kubecell.io/reflected-system-memory"
@[inherit_doc k3kAgentNameLabel] def labelHostname : String := "kubernetes.io/hostname"

/-- The namespace of a child cluster that holds its system pods. -/
def childSystemNamespace : String := "kube-system"

/-! ## The classes of pods -/

/-- `isReflectedWorkloadPod`. -/
def isReflectedWorkloadPod (pod : Pod) (policy : Policy) : Bool :=
  policy.k3kClusterName != "" && pod.metadata.labels.get k3kClusterNameLabel != "" &&
    pod.metadata.annotations.get k3kResourceNamespace != ""

/-- `isK3kInfrastructurePod`. -/
def isK3kInfrastructurePod (pod : Pod) (policy : Policy) : Bool :=
  policy.k3kClusterName != "" && pod.metadata.labels.get "cluster" == policy.k3kClusterName &&
    (pod.metadata.labels.get "role" == "server" || pod.metadata.labels.get "type" == "agent")

/-- `isReflectedSystemPod`. -/
def isReflectedSystemPod (pod : Pod) (policy : Policy) : Bool :=
  policy.k3kClusterName != "" && pod.metadata.labels.get k3kClusterNameLabel == policy.k3kClusterName &&
    pod.metadata.annotations.get k3kResourceNamespace == childSystemNamespace

/-! ## Validation -/

/-- `isExtendedDevice`. -/
def isExtendedDevice (name : String) : Bool := name.toList.contains '/'

/-- The violations of one device of a container. -/
def deviceViolations (resources : ResourceRequirements) (policy : Policy) (name : String) : List String :=
  if !isExtendedDevice name then []
  else if policy.allowedResourceNames ≠ [] ∧ !containsString policy.allowedResourceNames name then
    [s!"device {name} is not allowed by the resolved profile"]
  else
    match AList.lookup name resources.requests, AList.lookup name resources.limits with
    | some request, some limit =>
      (if !request.equal limit then [s!"device request and limit differ for {name}"] else []) ++
        (if request.asInt64.isNone ∨ request.value ≤ 0 then [s!"device {name} must use a positive integer quantity"] else [])
    | _, _ => [s!"device {name} must define both request and limit"]

/-- `validateDeviceResources`. -/
def validateDeviceResources (resources : ResourceRequirements) (policy : Policy) : List String :=
  (resources.requests.keys ++ resources.limits.keys.filter fun name => !resources.requests.keys.contains name).flatMap
    (deviceViolations resources policy)

/-- `isK3kGeneratedPreferredAffinity`. -/
def isK3kGeneratedPreferredAffinity (preferred : PreferredSchedulingTerm) (pod : Pod) : Bool :=
  if pod.metadata.labels.get k3kAgentNameLabel = "" ∨ preferred.weight ≠ 100 then false
  else if preferred.preference.matchFields ≠ [] then false
  else
    match preferred.preference.matchExpressions with
    | [expression] =>
      expression.key == labelHostname && expression.operator == "In" &&
        expression.values == [pod.metadata.labels.get k3kAgentNameLabel]
    | _ => false

/-- `isK3kGeneratedToleration`. -/
def isK3kGeneratedToleration (toleration : Toleration) : Bool :=
  toleration.operator == "Exists" && toleration.effect == "NoExecute" && toleration.tolerationSeconds == some 300 &&
    (toleration.key == "node.kubernetes.io/not-ready" || toleration.key == "node.kubernetes.io/unreachable")

/-- `allowedStorageNodeValues`. -/
def allowedStorageNodeValues (expression : NodeSelectorRequirement) (allowed : List String) : Bool :=
  if expression.operator ≠ "In" ∨ expression.values = [] ∨ allowed = [] then false
  else expression.values.all (containsString allowed)

/-- The violation of one required node expression. -/
def expressionViolations (policy : Policy) (expression : NodeSelectorRequirement) : List String :=
  if expression.key = policy.profileLabelKey then
    if expression.operator ≠ "In" ∨ expression.values ≠ [policy.profileName] then
      ["profile node affinity conflicts with resolved profile"]
    else []
  else if expression.key = labelHostname then
    if !allowedStorageNodeValues expression policy.allowedStorageNodes then
      ["node affinity references an unapproved storage locality"]
    else []
  else ["physical node affinity override is forbidden"]

/-- `validateAffinity`. -/
def validateAffinity (affinity : Option Affinity) (pod : Pod) (policy : Policy) : List String :=
  match affinity with
  | none => []
  | some affinity =>
    (if affinity.podAffinity.isSome || affinity.podAntiAffinity.isSome then
      ["pod affinity and anti-affinity are forbidden"] else []) ++
    match affinity.nodeAffinity with
    | none => []
    | some nodeAffinity =>
      (nodeAffinity.preferred.flatMap fun preferred =>
        if !isK3kGeneratedPreferredAffinity preferred pod then ["preferred node affinity is not K3k-generated"]
          else []) ++
      (nodeAffinity.required.getD []).flatMap fun term => term.matchExpressions.flatMap (expressionViolations policy)

/-- The violations of one container. -/
def containerViolations (policy : Policy) (container : Container) : List String :=
  (match container.securityContext with
    | none => []
    | some context =>
      (if context.privileged = some true then ["privileged containers are forbidden"] else []) ++
        (if (context.capabilitiesAdd.getD []) ≠ [] then ["added capabilities are forbidden"] else [])) ++
  (container.hostPorts.flatMap fun port => if port ≠ 0 then ["hostPort is forbidden"] else []) ++
  validateDeviceResources container.resources policy

/-- `ValidateReflectedPod`. -/
def validateReflectedPod (pod : Pod) (policy : Policy) : List String :=
  (if pod.metadata.ns ≠ policy.ns then ["pod namespace is outside resolved policy"] else []) ++
  (if pod.metadata.labels.get labelVirtualClusterUID ≠ policy.virtualClusterUID ∧
    !isReflectedWorkloadPod pod policy then
    ["virtual cluster UID does not match resolved policy"] else []) ++
  (if isReflectedWorkloadPod pod policy ∧ pod.metadata.labels.get k3kClusterNameLabel ≠ policy.k3kClusterName then
    ["reflected Pod K3k cluster does not match resolved policy"] else []) ++
  (if pod.hostNetwork then ["hostNetwork is forbidden"] else []) ++
  (if pod.hostPID then ["hostPID is forbidden"] else []) ++
  (if pod.hostIPC then ["hostIPC is forbidden"] else []) ++
  (if pod.hostUsers = some false then ["host user namespace is forbidden"] else []) ++
  (if pod.nodeName ≠ "" then ["physical nodeName is forbidden"] else []) ++
  (if pod.nodeSelector.isSome then ["physical nodeSelector is forbidden"] else []) ++
  validateAffinity pod.affinity pod policy ++
  (pod.tolerations.flatMap fun toleration =>
    if !isK3kGeneratedToleration toleration then ["arbitrary tolerations are forbidden"] else []) ++
  (pod.volumes.flatMap fun volume => if volume.hostPath.isSome then [Platform.hostPathDenyMessage] else []) ++
  (pod.initContainers ++ pod.containers).flatMap (containerViolations policy)

/-- `ValidateReflectedPodWithoutPlacement`. -/
def validateReflectedPodWithoutPlacement (pod : Pod) (policy : Policy) : List String := validateReflectedPod pod policy

/-! ## Mutation -/

/-- `resourcesEqual`. -/
def resourcesEqual (left right : ResourceList) : Bool :=
  left.entries.length == right.entries.length &&
    right.entries.all fun e =>
      match AList.lookup e.1 left with
      | some got => got.equal e.2
      | none => false

/-- What a container of a native K3k pod inherits from the pod, and whether it does. -/
def inheritResources (podResources : ResourceRequirements) (container : Container) : Container × Bool :=
  let inherited := ({ container with resources := ⟨podResources.requests, podResources.limits⟩ }, true)
  if container.resources.requests.entries = [] ∧ container.resources.limits.entries = [] then inherited
  else if resourcesEqual container.resources.requests Platform.defaultContainerResources ∧
      resourcesEqual container.resources.limits Platform.defaultContainerResources then inherited
  else (container, false)

/-- `MutateK3kInfraPodResources`: the pod afterwards, and whether it changed. -/
def mutateK3kInfraPodResources (pod : Pod) : Pod × Bool :=
  match pod.resources with
  | none => (pod, false)
  | some resources =>
    if resources.requests.entries = [] ∨ resources.limits.entries = [] then (pod, false)
    else
      let initContainers := pod.initContainers.map (inheritResources resources)
      let containers := pod.containers.map (inheritResources resources)
      ({ pod with initContainers := initContainers.map (·.1), containers := containers.map (·.1) },
        (initContainers ++ containers).any (·.2))

/-- One reserved resource of a container of a reflected system pod. -/
def reserveResource (reservation : ResourceList) (resources : ResourceRequirements) (name : String) :
    ResourceRequirements × Bool :=
  match AList.lookup name reservation with
  | none => (resources, false)
  | some reserved =>
    match AList.lookup name resources.requests, AList.lookup name resources.limits with
    | none, none => (⟨resources.requests.insert name reserved, resources.limits.insert name reserved⟩, true)
    | none, some limit =>
      let request := if reserved.value > limit.value then limit else reserved
      (⟨resources.requests.insert name request, resources.limits⟩, true)
    | some request, none =>
      let limit := if reserved.value < request.value then request else reserved
      (⟨resources.requests, resources.limits.insert name limit⟩, true)
    | some _, some _ => (resources, false)

/-- The reserved resources of a container of a reflected system pod. -/
def reserveContainer (reservation : ResourceList) (container : Container) : Container × Bool :=
  let (resources, cpuChanged) := reserveResource reservation container.resources "cpu"
  let (resources, memoryChanged) := reserveResource reservation resources "memory"
  ({ container with resources := resources }, cpuChanged || memoryChanged)

/-- `MutateReflectedSystemPod`. -/
def mutateReflectedSystemPod (pod : Pod) (reservation : ResourceList) : Pod × Bool :=
  if pod.metadata.annotations.get k3kResourceNamespace ≠ childSystemNamespace ∨
      pod.metadata.labels.get k3kClusterNameLabel = "" ∨ reservation.entries = [] then (pod, false)
  else
    let initContainers := pod.initContainers.map (reserveContainer reservation)
    let containers := pod.containers.map (reserveContainer reservation)
    ({ pod with initContainers := initContainers.map (·.1), containers := containers.map (·.1) },
      (initContainers ++ containers).any (·.2))

/-- The required node expression of the profile. -/
def profileRequirement (policy : Policy) : NodeSelectorRequirement :=
  { key := policy.profileLabelKey, operator := "In", values := [policy.profileName] }

/-- `hasRequirement`. -/
def hasRequirement (term : NodeSelectorTerm) (key value : String) : Bool :=
  term.matchExpressions.any fun expression =>
    expression.key == key && expression.operator == "In" && expression.values == [value]

/-- `addProfileAffinity`: the pod afterwards, and whether it changed. -/
def addProfileAffinity (pod : Pod) (policy : Policy) : Pod × Bool :=
  let affinity := pod.affinity.getD {}
  let nodeAffinity := affinity.nodeAffinity.getD {}
  let withRequired (required : List NodeSelectorTerm) : Pod :=
    { pod with affinity := some { affinity with nodeAffinity := some { nodeAffinity with required := some required } } }
  let desired : List NodeSelectorTerm := [{ matchExpressions := [profileRequirement policy] }]
  match nodeAffinity.required with
  | none => (withRequired desired, true)
  | some [] => (withRequired desired, true)
  | some terms =>
    let missing (term : NodeSelectorTerm) : Bool := !hasRequirement term policy.profileLabelKey policy.profileName
    (withRequired (terms.map fun term =>
      if missing term then { term with matchExpressions := term.matchExpressions ++ [profileRequirement policy] }
        else term),
      terms.any missing)

/-- `MutateReflectedSystemPodForPolicy`. -/
def mutateReflectedSystemPodForPolicy (pod : Pod) (policy : Policy) : Except String (Pod × Bool) :=
  if !isReflectedSystemPod pod policy then .error "reflected system Pod does not match resolved K3k cluster"
  else
    let (pod, changed) := mutateReflectedSystemPod pod policy.reflectedSystem
    let (pod, affinityChanged) := addProfileAffinity pod policy
    .ok (pod, changed || affinityChanged)

/-- `MutateReflectedPod`. -/
def mutateReflectedPod (pod : Pod) (policy : Policy) : Except String (Pod × Bool) :=
  let violations := validateReflectedPodWithoutPlacement pod policy
  if violations ≠ [] then .error s!"pod rejected: {goList violations}"
  else .ok (addProfileAffinity pod policy)

/-! ## The handler -/

/-- What the webhook reads from the host API. -/
structure HostAdmissionReader where
  getNamespace : String → Except Err ObjectMeta
  getClaim : NamespacedName → Except Err PersistentVolumeClaim
  getVolume : String → Except Err PersistentVolume

/-- An admission request: the namespace it is for, and the pod it decodes to. -/
structure AdmissionRequest where
  ns : String
  object : Except String Pod

/-- An admission response; a pod that is allowed as it is and a pod that is patched are both allowed. -/
inductive AdmissionResponse where
  | errored (code : Nat) (message : String)
  | denied (message : String)
  | allowed (message : String)
  | patched (pod : Pod) (message : String)

/-- The pod that is admitted, if the response allows the request for `pod`. -/
def AdmissionResponse.admitted (pod : Pod) : AdmissionResponse → Option Pod
  | .allowed _ => some pod
  | .patched updated _ => some updated
  | .errored _ _ | .denied _ => none

/-- `splitCSV`. -/
def splitCSV (value : String) : List String :=
  ((splitAtChar ',' value.toList).map trimSpace).filterMap fun item =>
    if item = [] then none else some (String.ofList item)

/-- One reflected system resource of a namespace. -/
def parseReflectedSystemResource (Γ : Ctx) (annotations : StringMap) (annotationKey name : String)
    (result : ResourceList) :
    Except String ResourceList :=
  let value := String.ofList (trimSpace (annotations.get annotationKey).toList)
  if value = "" then .ok result
  else
    match Γ.parseQuantity value with
    | none =>
      .error s!"invalid {annotationKey} annotation {goSyntax value}: quantities must match the regular expression"
    | some quantity =>
      if quantity.value ≤ 0 then
        .error s!"invalid {annotationKey} annotation {goSyntax value}: quantity must be positive"
      else .ok (result.insert name quantity)

/-- `ParseReflectedSystemResources`. -/
def parseReflectedSystemResources (Γ : Ctx) (annotations : StringMap) : Except String ResourceList := do
  let result ← parseReflectedSystemResource Γ annotations annotationReflectedSystemCPU "cpu" ∅
  parseReflectedSystemResource Γ annotations annotationReflectedSystemMemory "memory" result

/-- `storageNode`. -/
def storageNode (pv : PersistentVolume) : Option String :=
  ((pv.nodeAffinity.getD []).flatMap (·.matchExpressions)).findSome? fun expression =>
    if expression.key = labelHostname ∧ expression.operator = "In" then
      match expression.values with
      | [value] => some value
      | _ => none
    else none

/-- The node one claim of a pod is bound to, if it is. -/
def claimNode (reader : HostAdmissionReader) (ns : String) (policy : Policy) (claimName : String) :
    Except String (Option String) :=
  match reader.getClaim ⟨ns, claimName⟩ with
  | .error e =>
    if e.isNotFound then .error s!"pvc {ns}/{claimName} is not visible to Host admission"
    else .error s!"read PVC {ns}/{claimName}: {e.message}"
  | .ok claim =>
    match claim.storageClassName with
    | none => .error s!"pvc {ns}/{claim.metadata.name} does not use an approved StorageClass"
    | some storageClass =>
      if !containsString policy.storageClassNames storageClass then
        .error s!"pvc {ns}/{claim.metadata.name} does not use an approved StorageClass"
      else if claim.volumeName = "" then .ok none
      else
        match reader.getVolume claim.volumeName with
        | .error e =>
          if e.isNotFound then
            .error s!"pv {claim.volumeName} for PVC {ns}/{claim.metadata.name} is not visible to Host admission"
          else .error s!"read PV {claim.volumeName}: {e.message}"
        | .ok pv => .ok (storageNode pv)

/-- `resolveStorageNodes`: the nodes, sorted and without duplicates. -/
def resolveStorageNodes (reader : HostAdmissionReader) (ns : String) (pod : Pod) (policy : Policy) :
    Except String (List String) :=
  let claims := pod.volumes.filterMap (·.persistentVolumeClaim)
  if policy.storageClassNames = [] then
    match claims with
    | claim :: _ => .error s!"pvc {claim} has no resolved StorageClass mapping"
    | [] => .ok []
  else do
    let nodes ← claims.mapM (claimNode reader ns policy)
    return sortStrings (nodes.filterMap id).dedup

/-- The policy a namespace with the UID label carries. -/
def namespacePolicy (Γ : Ctx) (ns : String) (metadata : ObjectMeta) : Except String Policy := do
  let reflectedSystem ← parseReflectedSystemResources Γ metadata.annotations
  let policy : Policy :=
    { ns := ns
      virtualClusterUID := metadata.labels.get labelVirtualClusterUID
      profileLabelKey := metadata.annotations.get labelProfileLabelKey
      profileName := metadata.labels.get labelProfileName
      storageClassNames := splitCSV (metadata.annotations.get annotationStorageClass)
      allowedResourceNames := splitCSV (metadata.annotations.get annotationAllowedResources)
      k3kClusterName := metadata.labels.get k3kPolicyNameLabel
      reflectedSystem := reflectedSystem }
  if policy.profileLabelKey = "" ∨ policy.profileName = "" then .error "KubeCell workload policy is incomplete"
  else .ok policy

/-- What is done with a pod under a complete policy. -/
def handlePod (reader : HostAdmissionReader) (ns : String) (pod : Pod) (policy : Policy) : AdmissionResponse :=
  if isK3kInfrastructurePod pod policy then
    let (pod, inherited) := mutateK3kInfraPodResources pod
    if inherited then .patched pod "K3k infrastructure Pod inherited pod-level resources"
    else .allowed "K3k infrastructure Pod is outside reflected workload policy"
  else if isReflectedSystemPod pod policy then
    match mutateReflectedSystemPodForPolicy pod policy with
    | .error e => .denied e
    | .ok (pod, _) => .patched pod "reserved reflected system resources and resolved profile affinity applied"
  else
    match resolveStorageNodes reader ns pod policy with
    | .error e => .denied e
    | .ok storageNodes =>
      let policy := { policy with allowedStorageNodes := storageNodes }
      let violations := validateReflectedPodWithoutPlacement pod policy
      if violations ≠ [] then .denied s!"Host workload rejected: {goList violations}"
      else
        match mutateReflectedPod pod policy with
        | .error e => .denied e
        | .ok (pod, _) => .patched pod "resolved profile and storage affinity applied"

/-- `HostWorkloadWebhook.Handle`. -/
def handle (Γ : Ctx) (reader : HostAdmissionReader) (request : AdmissionRequest) : AdmissionResponse :=
  match request.object with
  | .error e => .errored 400 e
  | .ok pod =>
    match reader.getNamespace request.ns with
    | .error e => .errored 500 s!"read workload namespace: {e.message}"
    | .ok metadata =>
      if metadata.labels.get labelVirtualClusterUID = "" then .allowed "namespace is outside KubeCell policy"
      else
        match namespacePolicy Γ request.ns metadata with
        | .error e => .denied e
        | .ok policy => handlePod reader request.ns pod policy

end KubeCell
