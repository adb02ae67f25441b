import KubeCell.Api

/-!
# The platform constants

The locked versions, names and reservations of `internal/platform`, the certified child versions of
`internal/provider/profile`, and the functions of other packages that the controllers call and that this
model takes as given (`Ctx`).
-/

namespace KubeCell

/-- The functions the program takes from other packages: the SHA-256 digest of some bytes, the host name in a URL
(none when the URL does not parse), and the quantity a string denotes (none when it denotes none). -/
structure Ctx where
  sha256 : List UInt8 → List UInt8
  urlHostname : String → Option String
  parseQuantity : String → Option Quantity

namespace Platform

/-- `platform.K3kVersion`. -/
def k3kVersion : String := "v1.2.0"

/-- `platform.ChildK3sVersion`. -/
def childK3sVersion : String := "v1.34.2+k3s1"

/-- `platform.HostK3sVersion`. -/
def hostK3sVersion : String := "v1.36.3+k3s1"

/-- `platform.ProfileLabelKey`. -/
def profileLabelKey : String := "hardware.kubecell.io/profile"

/-- `platform.IngressClassName`. -/
def ingressClassName : String := "kubecell"

/-- `platform.PodSecurityEnforceLevel`. -/
def podSecurityEnforceLevel : String := "baseline"

/-- `platform.NodePortMin` and `platform.NodePortMax`. -/
def nodePortMin : Int := 30000
@[inherit_doc nodePortMin] def nodePortMax : Int := 32767

/-- `platform.HostPathDenyMessage`. -/
def hostPathDenyMessage : String :=
  "hostPath volumes are not supported in KubeCell shared-mode namespaces; use a PVC with the mapped TopoLVM StorageClass"

/-- `platform.VolumeBindingMode`, `platform.ReclaimPolicy` and `platform.AllowVolumeExpansion`. -/
def volumeBindingMode : String := "WaitForFirstConsumer"
@[inherit_doc volumeBindingMode] def reclaimPolicy : String := "Retain"
@[inherit_doc volumeBindingMode] def allowVolumeExpansion : Bool := true

/-- `platform.ServerArgs`. -/
def serverArgs : List String := ["--disable=traefik", "--disable=local-storage"]

/-- `ReservationPolicyIncludedInHostQuota`. -/
def reservationPolicyIncludedInHostQuota : String := "IncludedInHostQuota"

/-- `platform.ControlPlaneReservation`. -/
def controlPlaneReservation : ResourceList := GoMap.ofList [("cpu", .milli 500), ("memory", .mebi 1024)]

/-- `platform.ReflectedSystemReservation`. -/
def reflectedSystemReservation : ResourceList := GoMap.ofList [("cpu", .milli 100), ("memory", .mebi 256)]

/-- `platform.DefaultContainerResources`: the reflected system reservation, by construction. -/
def defaultContainerResources : ResourceList := reflectedSystemReservation

/-- `platform.CombinedReservation`: both reservations, added up. -/
def combinedReservation : ResourceList :=
  reflectedSystemReservation.entries.foldl
    (fun combined e =>
      match combined.lookup e.1 with
      | some existing => combined.insert e.1 (existing.add e.2)
      | none => combined.insert e.1 e.2)
    controlPlaneReservation

end Platform

/-- A child version: as published, as K3k spells it, and as an image tag. -/
structure ChildVersion where
  canonical : String
  k3kSpec : String
  imageTag : String
  deriving DecidableEq, Repr

/-- `profile.ResolveChildVersion`: the certified child versions. -/
def resolveChildVersion (canonical : String) : Except String ChildVersion :=
  if canonical = "v1.34.2+k3s1" then
    .ok { canonical := "v1.34.2+k3s1", k3kSpec := "v1.34.2-k3s1", imageTag := "v1.34.2-k3s1" }
  else .error s!"child K3s version {canonical} is not certified for the selected K3k provider"

end KubeCell
