import KubeCell.Platform
import Mathlib.Data.List.DropRight

/-!
# Helpers of the controllers

`internal/controller/helpers`: the names derived from a VirtualCluster, the ownership labels, the bookkeeping of
conditions, and the effective requests of a pod. Object names and UIDs are ASCII, as the API server requires, so a
character is a byte in them.
-/

namespace KubeCell

/-! ## Names -/

/-- The names derived from a VirtualCluster. -/
structure VirtualClusterNames where
  hostNamespace : String
  k3kCluster : String
  foundationWork : String
  instanceWork : String
  adminKubeconfig : String
  deriving DecidableEq, Repr

/-- `strings.Trim(value, "-")`. -/
def trimDashes (value : List Char) : List Char := (value.dropWhile (· == '-')).rdropWhile (· == '-')

/-- A character a DNS name may hold. -/
def isDNSChar (c : Char) : Bool := ('a' ≤ c && c ≤ 'z') || ('0' ≤ c && c ≤ '9') || c == '-'

/-- Each run of characters that a DNS name may not hold is replaced by one dash; `inRun` says that
such a run is going on. -/
def replaceRuns : Bool → List Char → List Char
  | _, [] => []
  | inRun, c :: cs =>
    if isDNSChar c then c :: replaceRuns false cs
    else if inRun then replaceRuns true cs
    else '-' :: replaceRuns true cs

/-- `dnsSlug`. -/
def dnsSlug (value : List Char) : List Char := trimDashes (replaceRuns false (value.map Char.toLower))

/-- `truncateDNS`, and `render.truncateName`, which is the same function. -/
def truncateDNS (value : List Char) : List Char :=
  if value.length ≤ 63 then trimDashes value else trimDashes (value.take 63)

/-- The first eight characters of a UID, in lower case. -/
def uidPart (uid : String) : List Char := (uid.toList.map Char.toLower).take 8

/-- The slug of namespace and name, cut so that the host namespace it goes into has at most 63 characters. -/
def hostSlug (ns name uid : String) : List Char :=
  let slug := dnsSlug (ns ++ "-" ++ name).toList
  let maxSlug := max 1 (63 - 3 - 1 - (uidPart uid).length)
  if slug.length > maxSlug then trimDashes (slug.take maxSlug) else slug

/-- `NamesForVirtualCluster`. -/
def namesForVirtualCluster (ns name uid : String) : VirtualClusterNames :=
  let uidPart := String.ofList (uidPart uid)
  let hostNamespace := "kc-" ++ String.ofList (hostSlug ns name uid) ++ "-" ++ uidPart
  { hostNamespace := hostNamespace
    k3kCluster := "kc-" ++ uidPart
    foundationWork := hostNamespace ++ "-foundation"
    instanceWork := hostNamespace ++ "-instance"
    adminKubeconfig :=
      "kubecell-" ++ String.ofList (truncateDNS (dnsSlug name.toList)) ++ "-" ++ uidPart ++ "-admin-kubeconfig" }

/-- The names derived from a VirtualCluster object. -/
def VirtualCluster.names (v : VirtualCluster) : VirtualClusterNames :=
  namesForVirtualCluster v.metadata.ns v.metadata.name v.metadata.uid

example : namesForVirtualCluster "Team_A" "Training.VC" "0123456789abcdef" =
    { hostNamespace := "kc-team-a-training-vc-01234567", k3kCluster := "kc-01234567",
      foundationWork := "kc-team-a-training-vc-01234567-foundation",
        instanceWork := "kc-team-a-training-vc-01234567-instance",
      adminKubeconfig := "kubecell-training-vc-01234567-admin-kubeconfig" } := by decide +kernel

/-- The two Works of a VirtualCluster have different names. -/
theorem foundationWork_ne_instanceWork (v : VirtualCluster) : v.names.foundationWork ≠ v.names.instanceWork := by
  intro h
  simp only [VirtualCluster.names, namesForVirtualCluster, String.append_right_inj] at h
  exact absurd h (by decide)

/-- A derived host namespace is never empty. -/
theorem hostNamespace_ne_empty (v : VirtualCluster) : v.names.hostNamespace ≠ "" := by
  intro h
  have := congrArg String.toList h
  simp [VirtualCluster.names, namesForVirtualCluster, String.toList_append] at this

/-- The name of the instance Work is never empty. -/
theorem instanceWork_ne_empty (v : VirtualCluster) : v.names.instanceWork ≠ "" := by
  intro h
  have := congrArg String.toList h
  simp [VirtualCluster.names, namesForVirtualCluster, String.toList_append] at this

/-- The name of the foundation Work is never empty. -/
theorem foundationWork_ne_empty (v : VirtualCluster) : v.names.foundationWork ≠ "" := by
  intro h
  have := congrArg String.toList h
  simp [VirtualCluster.names, namesForVirtualCluster, String.toList_append] at this

/-! ## Hashes -/

/-- A byte as two hexadecimal digits. -/
def hexByte (b : UInt8) : List Char := [Nat.digitChar (b.toNat / 16), Nat.digitChar (b.toNat % 16)]

/-- `hex.EncodeToString`. -/
def hexEncode (bytes : List UInt8) : String := String.ofList (bytes.flatMap hexByte)

/-- One character of a string in Go syntax. -/
def goEscape (c : Char) : List Char :=
  if c = '"' then ['\\', '"'] else if c = '\\' then ['\\', '\\'] else if c = '\n' then ['\\', 'n']
  else if c = '\t' then ['\\', 't'] else if c = '\r' then ['\\', 'r'] else [c]

/-- A string in Go syntax, as `%#v` prints it. -/
def goSyntax (value : String) : String := String.ofList ('"' :: value.toList.flatMap goEscape ++ ['"'])

/-- `ProfileHash` of a string: the first eight bytes of the digest of its Go syntax, in hexadecimal. -/
def profileHash (Γ : Ctx) (value : String) : String :=
  hexEncode ((Γ.sha256 (goSyntax value).toUTF8.data.toList).take 8)

/-! ## Labels -/

/-- The label keys. -/
def labelManagedBy : String := "app.kubernetes.io/managed-by"
@[inherit_doc labelManagedBy] def labelCellName : String := "kubecell.io/cell-name"
@[inherit_doc labelManagedBy] def labelVirtualClusterName : String := "kubecell.io/virtual-cluster-name"
@[inherit_doc labelManagedBy] def labelVirtualClusterNamespace : String := "kubecell.io/virtual-cluster-namespace"
@[inherit_doc labelManagedBy] def labelVirtualClusterUID : String := "kubecell.io/virtual-cluster-uid"
@[inherit_doc labelManagedBy] def labelExecutionMode : String := "kubecell.io/execution-mode"
@[inherit_doc labelManagedBy] def labelProfileHash : String := "kubecell.io/profile-hash"
@[inherit_doc labelManagedBy] def k3kClusterNameLabel : String := "k3k.io/clusterName"

/-- The values of the two labels that are the same on every object. -/
def managedByKubecell : String := "kubecell"
@[inherit_doc managedByKubecell] def executionModeShared : String := "shared-virtual-kubelet"

/-- `OwnedHostLabels`. -/
def ownedHostLabels (cellName clusterNamespace clusterName clusterUID profileHash : String) : StringMap :=
  GoMap.ofList
    [(labelManagedBy, managedByKubecell), (labelCellName, cellName), (labelVirtualClusterName, clusterName),
      (labelVirtualClusterNamespace, clusterNamespace), (labelVirtualClusterUID, clusterUID),
      (labelExecutionMode, executionModeShared), (labelProfileHash, profileHash)]

/-- `MatchesOwnedHostLabels`. -/
def matchesOwnedHostLabels (labels : StringMap) (cellName clusterNamespace clusterName clusterUID : String) : Bool :=
  labels.get labelManagedBy == managedByKubecell && labels.get labelCellName == cellName &&
    labels.get labelVirtualClusterNamespace == clusterNamespace && labels.get labelVirtualClusterName == clusterName &&
    labels.get labelVirtualClusterUID == clusterUID && labels.get labelExecutionMode == executionModeShared

/-- The UID of the VirtualCluster an object is labelled with; empty when it carries no such label. -/
def ObjectMeta.ownerUID (m : ObjectMeta) : String := m.labels.get labelVirtualClusterUID

/-- The ownership labels carry the UID they are made for. -/
theorem ownedHostLabels_uid (a b c uid h : String) :
    (ownedHostLabels a b c uid h).get labelVirtualClusterUID = uid := by
  simp [ownedHostLabels, GoMap.ofList, StringMap.get, labelManagedBy, labelCellName, labelVirtualClusterName,
    labelVirtualClusterNamespace, labelVirtualClusterUID]

/-! ## Conditions -/

/-- `SetCondition`: a condition replaces the one of its type and keeps its transition time unless the status changes. -/
def setCondition (conditions : List Condition) (desired : Condition) (now : Time) : List Condition :=
  let desired := if desired.lastTransitionTime = 0 then { desired with lastTransitionTime := now } else desired
  match conditions with
  | [] => [desired]
  | c :: cs =>
    if c.type ≠ desired.type then c :: setCondition cs desired now
    else if c.status = desired.status then { desired with lastTransitionTime := c.lastTransitionTime } :: cs
    else desired :: cs

/-- `conditionStatus`. -/
def conditionStatus (value : Bool) : ConditionStatus := if value then .true else .false

/-- `conditionTrue`, and `managedClusterCondition`: the first condition of the type is true. -/
def conditionTrue (conditions : List Condition) (conditionType : String) : Bool :=
  match conditions.find? (·.type == conditionType) with
  | some c => c.status == .true
  | none => false

theorem conditionTrue_cons (c : Condition) (cs : List Condition) (conditionType : String) :
    conditionTrue (c :: cs) conditionType =
      if c.type = conditionType then c.status == .true else conditionTrue cs conditionType := by
  by_cases htype : c.type = conditionType <;> simp [conditionTrue, htype]

/-- Setting a condition sets the one of its type, and no other. -/
theorem conditionTrue_setCondition (conditions : List Condition) (desired : Condition) (now : Time)
    (conditionType : String) :
    conditionTrue (setCondition conditions desired now) conditionType =
      if desired.type = conditionType then desired.status == .true else conditionTrue conditions conditionType := by
  induction conditions generalizing desired with
  | nil =>
    rw [setCondition]
    split_ifs with htime htype htype <;> simp [conditionTrue, htype]
  | cons c cs ih =>
    rw [setCondition]
    generalize hset : (if desired.lastTransitionTime = 0 then { desired with lastTransitionTime := now } else desired) = set
    have htype : set.type = desired.type := by rw [← hset]; split_ifs <;> rfl
    have hstatus : set.status = desired.status := by rw [← hset]; split_ifs <;> rfl
    rw [htype, hstatus]
    by_cases hsame : c.type = desired.type
    · rw [if_neg (not_not.mpr hsame)]
      split_ifs with hstays hof hof <;> simp_all [conditionTrue_cons]
    · rw [if_pos hsame, conditionTrue_cons, conditionTrue_cons, ih, htype, hstatus]
      by_cases hc : c.type = conditionType
      · simp [hc, show desired.type ≠ conditionType from fun heq => hsame (hc.trans heq.symm)]
      · simp [hc]

/-! ## Effective requests -/

/-- The largest request of an init container for each resource. -/
def initMaximum (initContainers : List Container) : ResourceList :=
  initContainers.foldl
    (fun maximum container =>
      container.resources.requests.entries.foldl
        (fun maximum e =>
          match maximum.lookup e.1 with
          | none => maximum.insert e.1 e.2
          | some current => if e.2.value > current.value then maximum.insert e.1 e.2 else maximum)
        maximum)
    ∅

/-- `EffectivePodRequests`: the sum over the containers, raised to what the largest init container
asks for, plus overhead. -/
def effectivePodRequests (pod : Pod) : ResourceList :=
  let result := pod.containers.foldl (fun result c => result.addAll c.resources.requests) ∅
  let result := (initMaximum pod.initContainers).entries.foldl
    (fun result e => if e.2.value > (ResourceList.qty result e.1).value then result.insert e.1 e.2 else result) result
  ResourceList.addAll result pod.overhead

end KubeCell
