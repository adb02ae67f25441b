import KubeCell.Validation

/-!
# Resolution

`internal/controller/resolution.go`: what a VirtualCluster is resolved to against a Cell and a class, the fingerprint
kept in the snapshot, and the comparison of two snapshots that detects drift. The loop over a quota runs in the order
of its entries, and so does the choice of the error that is reported.
-/

namespace KubeCell

/-- The resource a quota key is about, without its prefixes. -/
def quotaBaseName (resourceName : String) : String := cutPrefix (cutPrefix resourceName "requests.") "limits."

/-- The check of one quota entry against the devices of the profile. -/
def checkDeviceEntitlement (machineProfile : MachineProfile) (resourceName : String)
    (quantity : Quantity) : Except String Unit :=
  if !hasPrefix resourceName "requests." && !hasPrefix resourceName "limits." then .ok ()
  else if !isExtendedBaseName (quotaBaseName resourceName) then .ok ()
  else if machineProfile.devices.any fun device => device.resourceName == quotaBaseName resourceName then
    if quantity.value ≤ 0 ∨ quantity.asInt64.isNone then
      .error s!"device entitlement {goSyntax resourceName} must be a positive integer"
    else .ok ()
  else
    .error s!"device entitlement {goSyntax resourceName} is not declared by machine profile {goSyntax machineProfile.name}"
where
  /-- `strings.Contains(baseName, "/")`. -/
  isExtendedBaseName (baseName : String) : Bool := baseName.toList.contains '/'

/-- The check that a device is entitled by an equal request and limit, or by neither. -/
def checkDevicePair (hard : ResourceList) (device : DeviceContract) : Except String Unit :=
  let failed : Except String Unit :=
    .error s!"device entitlement for {goSyntax device.resourceName} must have equal request and limit"
  match AList.lookup ("requests." ++ device.resourceName) hard,
    AList.lookup ("limits." ++ device.resourceName) hard with
  | none, none => .ok ()
  | some request, some limit => if request.equal limit then .ok () else failed
  | _, _ => failed

/-- The text whose hash is the fingerprint. -/
def fingerprintText (machineProfile : MachineProfile) (quota : ResourceList) (storageClass : String) : String :=
  "\n".intercalate
    (["profile=" ++ machineProfile.name, "storage=" ++ storageClass] ++
      machineProfile.devices.map (fun device => "device=" ++ device.name ++ "/" ++ device.resourceName) ++
      (sortStrings quota.keys).map fun key => key ++ "=" ++ (quota.qty key).string)

/-- `profileFingerprint`. -/
def profileFingerprint (Γ : Ctx) (machineProfile : MachineProfile) (quota : ResourceList)
    (storageClass : String) : String :=
  profileHash Γ (fingerprintText machineProfile quota storageClass)

/-- `resolveVirtualCluster`. -/
def resolveVirtualCluster (Γ : Ctx) (cell : Cell) (virtualNodeClass : VirtualNodeClass) :
    Except String ResolvedSnapshot := do
  let machineProfile := cell.spec.machineProfile
  let hard := virtualNodeClass.spec.workloadHard
  if machineProfile.name = "" then throw "cell machine profile is not declared"
  hard.entries.forM fun e => checkDeviceEntitlement machineProfile e.1 e.2
  machineProfile.devices.forM (checkDevicePair hard)
  let childProvider ← resolveChildVersion Platform.childK3sVersion
  return {
    cellUID := cell.metadata.uid
    managedClusterName := cell.spec.managedClusterRef.name
    classUID := virtualNodeClass.metadata.uid
    profileHash := profileFingerprint Γ machineProfile hard virtualNodeClass.spec.storageClassName
    machineProfileName := machineProfile.name
    k3kVersion := Platform.k3kVersion
    childK3sVersion := childProvider.canonical
    k3kChildVersion := childProvider.k3kSpec
    childImageTag := childProvider.imageTag
    quota := hard
    reservation :=
      { controlPlane := Platform.controlPlaneReservation
        reflectedSystem := Platform.reflectedSystemReservation
        policy := Platform.reservationPolicyIncludedInHostQuota }
    acceleratorKeys := machineProfile.devices.map (·.resourceName)
    storage :=
      { childName := virtualNodeClass.spec.storageClassName
        hostName := virtualNodeClass.spec.storageClassName
        volumeBindingMode := Platform.volumeBindingMode
        reclaimPolicy := Platform.reclaimPolicy
        allowVolumeExpansion := Platform.allowVolumeExpansion } }

/-- `Semantic.DeepEqual` on reservations. -/
def ReservationSpec.semanticEqual (a b : ReservationSpec) : Bool :=
  ResourceList.semanticEqual a.controlPlane b.controlPlane &&
    ResourceList.semanticEqual a.reflectedSystem b.reflectedSystem &&
    a.policy == b.policy

/-- `sameResolvedProvider`. -/
def sameResolvedProvider (current desired : ResolvedSnapshot) : Bool :=
  current.cellUID == desired.cellUID &&
  current.managedClusterName == desired.managedClusterName &&
  current.classUID == desired.classUID &&
  current.profileHash == desired.profileHash &&
  current.machineProfileName == desired.machineProfileName &&
  current.k3kVersion == desired.k3kVersion &&
  current.childK3sVersion == desired.childK3sVersion &&
  current.k3kChildVersion == desired.k3kChildVersion &&
  current.childImageTag == desired.childImageTag &&
  current.hostNamespace == desired.hostNamespace &&
  current.k3kClusterName == desired.k3kClusterName &&
  ResourceList.semanticEqual current.quota desired.quota &&
  current.reservation.semanticEqual desired.reservation &&
  current.storage == desired.storage &&
  current.acceleratorKeys == desired.acceleratorKeys &&
  current.hostPathTenantName == desired.hostPathTenantName &&
  current.hostPathTenantRoot == desired.hostPathTenantRoot

/-- The snapshot of a VirtualCluster: what it is resolved to, with its derived names. -/
def VirtualCluster.snapshot (v : VirtualCluster) (resolved : ResolvedSnapshot) : ResolvedSnapshot :=
  { resolved with hostNamespace := v.names.hostNamespace, k3kClusterName := v.names.k3kCluster }

end KubeCell
