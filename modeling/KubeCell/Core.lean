import KubeCell.Lib.Quantity

/-!
# The Kubernetes objects

The parts of the Kubernetes objects that the controllers and webhooks read or write: metadata, conditions, the objects
of the host cluster (nodes, pods, volumes, services) and of a child cluster (ingresses and their backends). An optional
field of the API, a pointer there, is an `Option`. Times are instants on a clock, and `0` is the time that is not set.
-/

namespace KubeCell

/-- An instant. -/
abbrev Time : Type := Nat

/-- The name of an object, with its namespace. -/
structure NamespacedName where
  ns : String
  name : String
  deriving DecidableEq, Repr

/-- What an error of the API server says about its cause. -/
inductive Reason where
  | notFound | conflict | alreadyExists | other
  deriving DecidableEq, Repr

/-- An error: its cause and its text. -/
structure Err where
  reason : Reason
  message : String
  deriving DecidableEq, Repr

/-- `apierrors.IsNotFound`. -/
def Err.isNotFound (e : Err) : Bool := e.reason == .notFound

/-- `apierrors.IsConflict`. -/
def Err.isConflict (e : Err) : Bool := e.reason == .conflict

/-- A reference from an object to the object that owns it. -/
structure OwnerReference where
  apiVersion : String
  kind : String
  name : String
  uid : String
  deriving DecidableEq, Repr

/-- The metadata of an object. -/
structure ObjectMeta where
  name : String
  ns : String := ""
  uid : String := ""
  resourceVersion : Nat := 0
  generation : Nat := 0
  deletionTimestamp : Option Time := none
  finalizers : List String := []
  labels : StringMap := ∅
  annotations : StringMap := ∅
  ownerReferences : List OwnerReference := []

/-- The name an object is stored under. -/
def ObjectMeta.key (m : ObjectMeta) : NamespacedName := ⟨m.ns, m.name⟩

/-- The state of a condition. -/
inductive ConditionStatus where
  | true | false | unknown
  deriving DecidableEq, Repr

/-- A condition of an object's status. -/
structure Condition where
  type : String
  status : ConditionStatus
  reason : String := ""
  message : String := ""
  observedGeneration : Nat := 0
  lastTransitionTime : Time := 0
  deriving DecidableEq, Repr

/-! ## Nodes and pods -/

/-- An address of a node. -/
structure NodeAddress where
  type : String
  address : String
  deriving DecidableEq, Repr

/-- A node of the host cluster. -/
structure Node where
  metadata : ObjectMeta
  conditions : List Condition := []
  addresses : List NodeAddress := []
  capacity : ResourceList := ∅
  allocatable : ResourceList := ∅

/-- The requests and limits of a container or of a whole pod. -/
structure ResourceRequirements where
  requests : ResourceList := ∅
  limits : ResourceList := ∅

/-- The security settings of a container that the host webhook looks at. -/
structure SecurityContext where
  privileged : Option Bool := none
  capabilitiesAdd : Option (List String) := none
  deriving DecidableEq, Repr

/-- A container of a pod; an init container that is restarted always goes on beside the containers. -/
structure Container where
  name : String := ""
  securityContext : Option SecurityContext := none
  hostPorts : List Int := []
  resources : ResourceRequirements := {}
  restartPolicy : Option String := none

/-- The template of the claim that is created for a generic ephemeral volume. -/
structure PersistentVolumeClaimTemplate where
  storageClassName : Option String := none
  deriving DecidableEq, Repr

/-- A generic ephemeral volume. -/
structure EphemeralVolumeSource where
  volumeClaimTemplate : Option PersistentVolumeClaimTemplate := none
  deriving DecidableEq, Repr

/-- A volume of a pod: the sources that are looked at, by the path or the claim they name, and
those that create a claim. -/
structure Volume where
  name : String := ""
  hostPath : Option String := none
  persistentVolumeClaim : Option String := none
  ephemeral : Option EphemeralVolumeSource := none
  deriving DecidableEq, Repr

/-- A requirement on the labels, or on the fields, of a node. -/
structure NodeSelectorRequirement where
  key : String
  operator : String
  values : List String
  deriving DecidableEq, Repr

/-- A term of a node selector: all its requirements hold. -/
structure NodeSelectorTerm where
  matchExpressions : List NodeSelectorRequirement := []
  matchFields : List NodeSelectorRequirement := []
  deriving DecidableEq, Repr

/-- A preferred term with its weight. -/
structure PreferredSchedulingTerm where
  weight : Int
  preference : NodeSelectorTerm
  deriving DecidableEq, Repr

/-- The node affinity of a pod; the required part is a list of terms, one of which holds. -/
structure NodeAffinity where
  required : Option (List NodeSelectorTerm) := none
  preferred : List PreferredSchedulingTerm := []
  deriving DecidableEq, Repr

/-- The affinity of a pod; of affinity to pods only its presence is looked at. -/
structure Affinity where
  nodeAffinity : Option NodeAffinity := none
  podAffinity : Option String := none
  podAntiAffinity : Option String := none
  deriving DecidableEq, Repr

/-- A toleration of a pod. -/
structure Toleration where
  key : String := ""
  operator : String := ""
  effect : String := ""
  tolerationSeconds : Option Int := none
  deriving DecidableEq, Repr

/-- The phase of a pod; a pod that has not been seen yet has none. -/
inductive PodPhase where
  | unset | pending | running | succeeded | failed | unknown
  deriving DecidableEq, Repr

/-- A pod of the host cluster. -/
structure Pod where
  metadata : ObjectMeta
  hostNetwork : Bool := false
  hostPID : Bool := false
  hostIPC : Bool := false
  hostUsers : Option Bool := none
  nodeName : String := ""
  nodeSelector : Option StringMap := none
  affinity : Option Affinity := none
  tolerations : List Toleration := []
  volumes : List Volume := []
  initContainers : List Container := []
  containers : List Container := []
  resources : Option ResourceRequirements := none
  overhead : ResourceList := ∅
  phase : PodPhase := .unset

/-! ## Storage -/

/-- A persistent volume; its node affinity is the list of its required terms. -/
structure PersistentVolume where
  metadata : ObjectMeta
  bound : Bool := false
  storageClassName : String := ""
  capacity : ResourceList := ∅
  nodeAffinity : Option (List NodeSelectorTerm) := none

/-- A claim on a persistent volume. -/
structure PersistentVolumeClaim where
  metadata : ObjectMeta
  storageClassName : Option String := none
  volumeName : String := ""

/-- A storage class. -/
structure StorageClass where
  metadata : ObjectMeta
  provisioner : String := ""
  parameters : StringMap := ∅

/-- A resource quota as the host reports it. -/
structure ResourceQuota where
  metadata : ObjectMeta
  hard : ResourceList := ∅
  used : ResourceList := ∅

/-! ## Services, endpoints and ingresses -/

/-- A port of a service. -/
structure ServicePort where
  name : String := ""
  port : Int
  nodePort : Int := 0
  deriving DecidableEq, Repr

/-- A service. -/
structure Service where
  metadata : ObjectMeta
  ports : List ServicePort := []

/-- An address that serves a service. -/
structure EndpointAddress where
  ip : String
  hostname : String := ""
  nodeName : Option String := none
  deriving DecidableEq, Repr

/-- A port on which the addresses of a subset serve. -/
structure EndpointPort where
  name : String := ""
  port : Int
  protocol : String := "TCP"
  deriving DecidableEq, Repr

/-- Addresses that serve on the same ports. -/
structure EndpointSubset where
  addresses : List EndpointAddress := []
  ports : List EndpointPort := []
  deriving DecidableEq, Repr

/-- The endpoints of a service. -/
structure Endpoints where
  metadata : ObjectMeta
  subsets : List EndpointSubset := []

/-- A reference to a port of a service, by name or by number. -/
structure ServiceBackendPort where
  name : String := ""
  number : Int := 0
  deriving DecidableEq, Repr

/-- The service an ingress path leads to. -/
structure IngressServiceBackend where
  name : String
  port : ServiceBackendPort
  deriving DecidableEq, Repr

/-- A path of an ingress rule. -/
structure HTTPIngressPath where
  path : String := ""
  pathType : Option String := none
  service : Option IngressServiceBackend := none
  deriving DecidableEq, Repr

/-- A rule of an ingress: its host and, if it has an HTTP part, its paths. -/
structure IngressRule where
  host : String := ""
  http : Option (List HTTPIngressPath) := none
  deriving DecidableEq, Repr

/-- An ingress of a child cluster. -/
structure Ingress where
  metadata : ObjectMeta
  ingressClassName : Option String := none
  rules : List IngressRule := []

/-- A secret. -/
structure Secret where
  metadata : ObjectMeta
  data : GoMap (List UInt8) := ∅
  type : String := "Opaque"

/-! ## Finding things in lists -/

/-- Some member of the list is the target. -/
def containsString (values : List String) (target : String) : Bool := values.any (· == target)

/-- The list without the members that are the target. -/
def removeString (values : List String) (target : String) : List String := values.filter (· != target)

end KubeCell
