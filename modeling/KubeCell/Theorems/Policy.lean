import KubeCell.Lemmas.Names
import KubeCell.Lemmas.Resolution
import KubeCell.Render
import KubeCell.Theorems.Admission
import KubeCell.Theorems.Drift

/-!
# The policy of a host namespace

The renderer of the management cluster writes the policy of a VirtualCluster into the labels and annotations of its
host namespace, and the host webhook reads it back. What survives the way, and what a pod may ask for under it.
-/

namespace KubeCell

open AdmissionAux NamesAux ResolutionAux

/-- The policy says what the VirtualCluster was resolved to, except for the reservation of its system pods. -/
structure Policy.Matches (policy : Policy) (v : VirtualCluster) (resolved : ResolvedSnapshot) : Prop where
  virtualClusterUID : policy.virtualClusterUID = v.metadata.uid
  profileLabelKey : policy.profileLabelKey = Platform.profileLabelKey
  profileName : policy.profileName = resolved.machineProfileName
  storageClassNames : policy.storageClassNames = [resolved.storage.childName]
  allowedResourceNames : policy.allowedResourceNames = sortStrings resolved.acceleratorKeys
  k3kClusterName : policy.k3kClusterName = v.names.k3kCluster

namespace PolicyAux

variable {Γ : Ctx} {v : VirtualCluster} {cell : Cell} {virtualNodeClass : VirtualNodeClass}
  {resolved : ResolvedSnapshot} {addresses : List String} {ns : String} {metadata stored : ObjectMeta}

/-- A resource that no annotation reserves is not reserved. -/
theorem parseReflectedSystemResource_absent {annotations : StringMap} {annotationKey : String}
    (habsent : annotations.get annotationKey = "")
    (name : String) (result : ResourceList) :
      parseReflectedSystemResource Γ annotations annotationKey name result = .ok result := by
  simp [parseReflectedSystemResource, habsent, trimSpace]

/-- The labels of the policy are on the namespace. -/
theorem labels_rendered
    (hmetadata : .namespaceObject metadata ∈ renderFoundation v resolved (v.renderNames addresses)) :
    metadata.labels.get labelVirtualClusterUID = v.metadata.uid ∧
      metadata.labels.get labelProfileName = resolved.machineProfileName ∧
      metadata.labels.get k3kPolicyNameLabel = v.names.k3kCluster := by
  simp only [renderFoundation, List.mem_cons, reduceCtorEq, or_false, Manifest.namespaceObject.injEq,
    List.not_mem_nil] at hmetadata
  subst hmetadata
  refine ⟨?_, ?_, ?_⟩ <;>
    simp [StringMap.get, merge, GoMap.ofList, VirtualCluster.renderNames, labelVirtualClusterUID, labelProfileName,
      k3kPolicyNameLabel]

/-- So are its annotations, and there are no others. -/
theorem annotations_rendered
    (hmetadata : .namespaceObject metadata ∈ renderFoundation v resolved (v.renderNames addresses)) :
    metadata.annotations.get labelProfileLabelKey = Platform.profileLabelKey ∧
      metadata.annotations.get annotationStorageClass = resolved.storage.childName ∧
      metadata.annotations.get annotationAllowedResources = acceleratorKeyList resolved.acceleratorKeys ∧
      metadata.annotations.get annotationReflectedSystemCPU = "" ∧
      metadata.annotations.get annotationReflectedSystemMemory = "" := by
  simp only [renderFoundation, List.mem_cons, reduceCtorEq, or_false, Manifest.namespaceObject.injEq,
    List.not_mem_nil] at hmetadata
  subst hmetadata
  refine ⟨?_, ?_, ?_, ?_, ?_⟩ <;>
    simp [StringMap.get, GoMap.ofList, annotationReflectedSystemCPU, annotationReflectedSystemMemory,
      labelProfileLabelKey,
      annotationStorageClass, annotationAllowedResources, -AList.insert_empty]

/-- What the webhook reads of a namespace with the labels and annotations that are rendered. -/
theorem namespacePolicy_rendered
    (hmetadata : .namespaceObject metadata ∈ renderFoundation v resolved (v.renderNames addresses))
    (hlabels : stored.labels = metadata.labels) (hannotations : stored.annotations = metadata.annotations)
    (hprofile : resolved.machineProfileName ≠ "") :
    namespacePolicy Γ ns stored = .ok
      { ns := ns, virtualClusterUID := v.metadata.uid, profileLabelKey := Platform.profileLabelKey
        profileName := resolved.machineProfileName, storageClassNames := splitCSV resolved.storage.childName
        allowedResourceNames := splitCSV (acceleratorKeyList resolved.acceleratorKeys)
        k3kClusterName := v.names.k3kCluster, reflectedSystem := ∅ } := by
  obtain ⟨huid, hname, hcluster⟩ := labels_rendered hmetadata
  obtain ⟨hkey, hstorage, hallowed, hcpu, hmemory⟩ := annotations_rendered hmetadata
  rw [← hlabels] at huid hname hcluster
  rw [← hannotations] at hkey hstorage hallowed hcpu hmemory
  have hreflected : parseReflectedSystemResources Γ stored.annotations = .ok ∅ := by
    rw [parseReflectedSystemResources, parseReflectedSystemResource_absent hcpu]
    dsimp only [bind, Except.bind]
    exact parseReflectedSystemResource_absent hmemory "memory" ∅
  have hcomplete : ¬(Platform.profileLabelKey = "" ∨ resolved.machineProfileName = "") := by
    simp [Platform.profileLabelKey, hprofile]
  rw [namespacePolicy, hreflected]
  simp only [bind, Except.bind, huid, hname, hcluster, hkey, hstorage, hallowed, if_neg hcomplete]

/-- The devices of a Cell that passes validation have names of extended resources. -/
theorem extended_of_validateCellSpec {spec : CellSpec} (hspec : validateCellSpec spec = []) {device : DeviceContract}
    (hdevice : device ∈ spec.machineProfile.devices) :
    device.resourceName ≠ "" ∧ isExtendedResourceName device.resourceName = true := by
  rw [validateCellSpec, List.append_eq_nil_iff] at hspec
  have hvalid := List.flatMap_eq_nil_iff.mp hspec.2 device hdevice
  rw [validateDeviceContract, List.append_eq_nil_iff, ite_violation_eq_nil, ite_violation_eq_nil] at hvalid
  obtain ⟨hrequired, hextended⟩ := hvalid
  have hname : device.resourceName ≠ "" := fun hempty => hrequired (Or.inr hempty)
  exact ⟨hname, by simpa [hname] using hextended⟩

/-- The keys of the devices are read back as they are written. -/
theorem splitCSV_acceleratorKeyList (hspec : validateCellSpec cell.spec = []) :
    splitCSV (acceleratorKeyList (cell.spec.machineProfile.devices.map (·.resourceName))) =
      sortStrings (cell.spec.machineProfile.devices.map (·.resourceName)) := by
  refine splitCSV_intercalate fun key hkey => ?_
  obtain ⟨device, hdevice, rfl⟩ := List.mem_map.mp (mem_sortStrings.mp hkey)
  obtain ⟨hname, hextended⟩ := extended_of_validateCellSpec hspec hdevice
  exact ⟨hname, nameChar_of_extended hextended⟩

/-- The storage class of a class that passes validation is read back as it is written. -/
theorem splitCSV_storageClassName {spec : VirtualNodeClassSpec} (hspec : validateVirtualNodeClassSpec spec = []) :
    splitCSV spec.storageClassName = [spec.storageClassName] := by
  rw [validateVirtualNodeClassSpec, List.append_eq_nil_iff] at hspec
  obtain ⟨hstorage, -⟩ := hspec
  split_ifs at hstorage with hempty hname
  have hvalid : isDNS1123Subdomain spec.storageClassName = [] := not_not.mp hname
  have hcsv : splitCSV (",".intercalate [spec.storageClassName]) = [spec.storageClassName] := by
    refine splitCSV_intercalate fun value hvalue => ?_
    rw [List.mem_singleton.mp hvalue]
    exact ⟨hempty, fun c hc => (nameChar_of_subdomain hvalid c hc).1⟩
  exact hcsv

end PolicyAux

open PolicyAux

/-- Of every VirtualCluster, Cell and class that pass validation and resolve, the webhook reads back the policy as it
was resolved, except for the reservation of the system pods: that is not rendered, and is never read back. -/
theorem policy_reservation_lost (Γ : Ctx) (v : VirtualCluster) (cell : Cell) (virtualNodeClass : VirtualNodeClass)
    (resolved : ResolvedSnapshot) (addresses : List String) (ns : String) (metadata : ObjectMeta)
    (hcell : cell.validateCreate = .ok ()) (hclass : virtualNodeClass.validateCreate = .ok ())
    (hresolves : resolveVirtualCluster Γ cell virtualNodeClass = .ok resolved)
    (hmetadata : .namespaceObject metadata ∈ renderFoundation v (v.snapshot resolved) (v.renderNames addresses)) :
    (∃ policy, namespacePolicy Γ ns metadata = .ok policy ∧ policy.Matches v resolved) ∧
      ¬∃ policy, namespacePolicy Γ ns metadata = .ok policy ∧ policy.Matches v resolved ∧
        ResourceList.semanticEqual policy.reflectedSystem resolved.reservation.reflectedSystem = true := by
  obtain ⟨hchecks, rfl⟩ := (resolveVirtualCluster_ok_iff ..).mp hresolves
  rw [Cell.validateCreate, validationError_ok_iff, List.append_eq_nil_iff] at hcell
  rw [VirtualNodeClass.validateCreate, validationError_ok_iff] at hclass
  have hpolicy : namespacePolicy Γ ns metadata = .ok _ := namespacePolicy_rendered hmetadata rfl rfl hchecks.profile
  refine ⟨⟨_, hpolicy, rfl, rfl, rfl, splitCSV_storageClassName hclass, splitCSV_acceleratorKeyList hcell.1, rfl⟩, ?_⟩
  rintro ⟨policy, hread, -, hreservation⟩
  obtain rfl := Except.ok.inj (hpolicy.symm.trans hread)
  have hcpu : (AList.lookup "cpu" (∅ : ResourceList)).map Quantity.value =
      (AList.lookup "cpu" Platform.reflectedSystemReservation).map Quantity.value :=
    (ResourceList.semanticEqual_iff _ _).mp hreservation "cpu"
  exact absurd hcpu (by decide)

/-! ## Devices -/

/-- The container asks for a resource, by a request or by a limit. -/
def Container.AsksFor (c : Container) (name : String) : Prop := name ∈ c.resources.requests ∨ name ∈ c.resources.limits

/-- Some container of the pod asks for an extended resource. -/
def Pod.AsksForDevice (pod : Pod) : Prop :=
  ∃ c ∈ pod.initContainers ++ pod.containers, ∃ name, isExtendedDevice name = true ∧ c.AsksFor name

/-- The container asks for a device by an equal request and limit, of a positive whole number. -/
def Container.WholeDevice (c : Container) (name : String) : Prop :=
  ∃ request limit n, AList.lookup name c.resources.requests = some request ∧
    AList.lookup name c.resources.limits = some limit ∧
    request.equal limit = true ∧ request.asInt64 = some n ∧ 0 < n

/-- Every extended resource that a container of the pod asks for is one of the keys, and is asked
for as a whole device. -/
def Pod.DevicesWithin (pod : Pod) (keys : List String) : Prop :=
  ∀ c ∈ pod.initContainers ++ pod.containers, ∀ name, isExtendedDevice name = true → c.AsksFor name → name ∈ keys ∧
    c.WholeDevice name

namespace PolicyAux

variable {policy : Policy} {c : Container} {name : String}

/-- Adding the profile affinity changes no container. -/
theorem addProfileAffinity_containers (pod : Pod) (policy : Policy) :
    (addProfileAffinity pod policy).1.initContainers = pod.initContainers ∧
      (addProfileAffinity pod policy).1.containers = pod.containers := by
  unfold addProfileAffinity
  dsimp only
  split <;> exact ⟨rfl, rfl⟩

/-- A quantity that is positive and a 64-bit whole number is a positive one. -/
theorem asInt64_pos {q : Quantity} (hvalue : ¬q.value ≤ 0) (hwhole : q.asInt64.isNone = false) :
    ∃ n, q.asInt64 = some n ∧ 0 < n := by
  rw [Option.isNone_eq_false_iff, Option.isSome_iff_exists] at hwhole
  obtain ⟨n, hn⟩ := hwhole
  have := Quantity.value_of_asInt64 hn
  exact ⟨n, hn, by omega⟩

/-- A device the validator finds nothing wrong with. -/
theorem device_of_valid (hvalid : containerViolations policy c = []) (hdevice : isExtendedDevice name = true)
    (hasks : c.AsksFor name) :
    (policy.allowedResourceNames ≠ [] → name ∈ policy.allowedResourceNames) ∧ c.WholeDevice name := by
  have hviolations : deviceViolations c.resources policy name = [] := by
    rw [containerViolations, List.append_eq_nil_iff, validateDeviceResources] at hvalid
    refine List.flatMap_eq_nil_iff.mp hvalid.2 name (List.mem_append.mpr ?_)
    by_cases hrequest : name ∈ c.resources.requests.keys
    · exact Or.inl hrequest
    · rcases hasks with hasks | hasks
      · exact absurd hasks hrequest
      · exact Or.inr (List.mem_filter.mpr ⟨hasks, by simpa using hrequest⟩)
  rw [deviceViolations, if_neg (by simp [hdevice])] at hviolations
  split_ifs at hviolations with hforbidden
  constructor
  · intro hlist
    by_contra hname
    refine hforbidden ⟨hlist, ?_⟩
    simp only [containsString, Bool.not_eq_true', List.any_eq_false, beq_iff_eq]
    rintro x hx rfl
    exact hname hx
  · split at hviolations
    · rename_i request limit hrequest hlimit
      simp only [List.append_eq_nil_iff, ite_violation_eq_nil, not_or] at hviolations
      obtain ⟨hequal, hwhole, hpositive⟩ := hviolations
      obtain ⟨n, hn, hpos⟩ := asInt64_pos hpositive (Bool.eq_false_iff.mpr hwhole)
      exact ⟨request, limit, n, hrequest, hlimit, by simpa using hequal, hn, hpos⟩
    · cases hviolations

end PolicyAux

/-- In the namespace that is rendered for a VirtualCluster on a Cell that passes validation, a pod that is
admitted as a workload asks only for devices of the Cell, and for whole ones, exactly when the Cell has a device
or the pod asks for none. -/
theorem devices_within_iff (Γ : Ctx) (reader : HostAdmissionReader) (v : VirtualCluster) (cell : Cell)
    (virtualNodeClass : VirtualNodeClass) (resolved : ResolvedSnapshot) (addresses : List String) (ns : String)
    (metadata stored : ObjectMeta) (policy : Policy) (pod admitted : Pod) (hcell : validateCellSpec cell.spec = [])
    (hresolves : resolveVirtualCluster Γ cell virtualNodeClass = .ok resolved)
    (hmetadata : .namespaceObject metadata ∈ renderFoundation v (v.snapshot resolved) (v.renderNames addresses))
    (hlabels : stored.labels = metadata.labels) (hannotations : stored.annotations = metadata.annotations)
    (hstored : reader.getNamespace ns = .ok stored) (huid : v.metadata.uid ≠ "")
      (hpolicy : namespacePolicy Γ ns stored = .ok policy)
    (hnative : isK3kInfrastructurePod pod policy = false) (hsystem : isReflectedSystemPod pod policy = false)
    (hadmitted : (handle Γ reader ⟨ns, .ok pod⟩).admitted pod = some admitted) :
    admitted.DevicesWithin resolved.acceleratorKeys ↔ (cell.spec.machineProfile.devices = [] → ¬pod.AsksForDevice) := by
  obtain ⟨hchecks, rfl⟩ := (resolveVirtualCluster_ok_iff ..).mp hresolves
  have hread := (namespacePolicy_rendered hmetadata hlabels hannotations hchecks.profile).symm.trans hpolicy
  have huid' : stored.labels.get labelVirtualClusterUID ≠ "" := by
    rwa [hlabels, (labels_rendered hmetadata).1]
  have hhandle : handle Γ reader ⟨ns, .ok pod⟩ = handlePod reader ns pod policy := by
    simp only [handle, hstored, if_neg huid', hpolicy]
  rw [hhandle] at hadmitted
  obtain ⟨storageNodes, -, hvalid, rfl⟩ := handlePod_workload_valid reader ns hnative hsystem hadmitted
  obtain ⟨hinit, hcontainers⟩ := addProfileAffinity_containers pod { policy with allowedStorageNodes := storageNodes }
  have hkeys : policy.allowedResourceNames = sortStrings (cell.spec.machineProfile.devices.map (·.resourceName)) := by
    obtain rfl := Except.ok.inj hread
    exact splitCSV_acceleratorKeyList hcell
  rw [Pod.DevicesWithin, hinit, hcontainers]
  constructor
  · rintro hwithin hnone ⟨c, hc, name, hdevice, hasks⟩
    have hname : name ∈ cell.spec.machineProfile.devices.map (·.resourceName) := (hwithin c hc name hdevice hasks).1
    rw [hnone] at hname
    cases hname
  · intro hnone c hc name hdevice hasks
    rw [validateReflectedPod, List.append_eq_nil_iff] at hvalid
    obtain ⟨hallowed, hwhole⟩ := device_of_valid (List.flatMap_eq_nil_iff.mp hvalid.2 c hc) hdevice hasks
    refine ⟨?_, hwhole⟩
    rw [hkeys] at hallowed
    refine mem_sortStrings.mp (hallowed fun hempty => ?_)
    have hdevices : cell.spec.machineProfile.devices = [] := by
      have hlength := congrArg List.length hempty
      rw [sortStrings, List.length_insertionSort, List.length_map] at hlength
      exact List.length_eq_zero_iff.mp hlength
    exact hnone hdevices ⟨c, hc, name, hdevice, hasks⟩

/-! ## A sample -/

namespace PolicyAux

open DriftAux (sampleCell sampleClass sampleCluster gibi)

/-- The sample Cell with the given devices. -/
def cellWith (devices : List DeviceContract) : Cell := { sampleCell with spec.machineProfile.devices := devices }

/-- What the sample VirtualCluster is resolved to on it. -/
def resolvedWith (devices : List DeviceContract) : ResolvedSnapshot :=
  resolvedOf DriftAux.sampleCtx (cellWith devices) (sampleClass gibi)

/-- The host namespace that is rendered for it. -/
def namespaceWith (devices : List DeviceContract) : ObjectMeta :=
  match renderFoundation sampleCluster (sampleCluster.snapshot (resolvedWith devices))
    (sampleCluster.renderNames []) with
  | .namespaceObject metadata :: _ => metadata
  | _ => { name := "" }

theorem namespaceWith_mem (devices : List DeviceContract) : .namespaceObject (namespaceWith devices) ∈
    renderFoundation sampleCluster (sampleCluster.snapshot (resolvedWith devices)) (sampleCluster.renderNames []) :=
  List.mem_cons_self

/-- A host with that namespace. -/
def readerWith (devices : List DeviceContract) : HostAdmissionReader :=
  { sampleReader with getNamespace := fun _ => .ok (namespaceWith devices) }

/-- The device of the samples. -/
def ascend : DeviceContract := ⟨"ascend", "huawei.com/Ascend910"⟩

/-- The sample class resolves, with or without the device. -/
theorem resolves_with {devices : List DeviceContract} (hdevices : devices = [] ∨ devices = [ascend]) :
    resolveVirtualCluster DriftAux.sampleCtx (cellWith devices) (sampleClass gibi) = .ok (resolvedWith devices) := by
  refine (resolveVirtualCluster_ok_iff ..).mpr
    ⟨⟨?_, DriftAux.sample_entitlements _ gibi, fun device hdevice => ?_⟩, rfl⟩
  · simp [cellWith, sampleCell]
  · rcases hdevices with rfl | rfl
    · nomatch hdevice
    · obtain rfl := List.mem_singleton.mp hdevice
      simp [checkDevicePair, sampleClass, ascend, GoMap.ofList, -AList.insert_empty]

/-- A pod of the sample VirtualCluster that asks for one device. -/
def devicePod (name : String) : Pod :=
  let one : ResourceList := GoMap.ofList [(name, .newQuantity 1 .decimalSI)]
  { samplePod [("app", "train")] [] with
    metadata.ns := sampleCluster.names.hostNamespace
    containers := [{ name := "train", resources := { requests := one, limits := one } }] }

/-- The policy of the rendered namespace. -/
def policyWith (devices : List DeviceContract) : Policy :=
  { ns := sampleCluster.names.hostNamespace, virtualClusterUID := sampleCluster.metadata.uid
    profileLabelKey := Platform.profileLabelKey, profileName := "gpu", storageClassNames := splitCSV "topolvm"
    allowedResourceNames := splitCSV (acceleratorKeyList (devices.map (·.resourceName)))
    k3kClusterName := sampleCluster.names.k3kCluster, reflectedSystem := ∅ }

theorem namespacePolicy_with (devices : List DeviceContract) :
    namespacePolicy DriftAux.sampleCtx sampleCluster.names.hostNamespace (namespaceWith devices) = .ok
      (policyWith devices) :=
  namespacePolicy_rendered (namespaceWith_mem devices) rfl rfl
    (by simp [VirtualCluster.snapshot, resolvedWith, resolvedOf, cellWith, sampleCell])

end PolicyAux

open DriftAux (sampleCell sampleClass sampleCluster gibi)

/-- The reservation of the sample VirtualCluster is not read back. -/
theorem policy_reservation_false :
    ¬∀ (Γ : Ctx) (v : VirtualCluster) (cell : Cell) (virtualNodeClass : VirtualNodeClass) (resolved : ResolvedSnapshot)
      (addresses : List String) (ns : String) (metadata : ObjectMeta), cell.validateCreate = .ok () →
      virtualNodeClass.validateCreate = .ok () → resolveVirtualCluster Γ cell virtualNodeClass = .ok resolved →
      .namespaceObject metadata ∈ renderFoundation v (v.snapshot resolved) (v.renderNames addresses) →
      ∃ policy, namespacePolicy Γ ns metadata = .ok policy ∧ policy.Matches v resolved ∧
        ResourceList.semanticEqual policy.reflectedSystem resolved.reservation.reflectedSystem = true := by
  intro hall
  obtain ⟨policy, hread, -, hreservation⟩ := hall DriftAux.sampleCtx sampleCluster (cellWith []) (sampleClass gibi) _ []
    sampleCluster.names.hostNamespace _ (by decide +kernel) (by decide +kernel) (resolves_with (Or.inl rfl))
      (namespaceWith_mem [])
  obtain rfl := Except.ok.inj ((namespacePolicy_with []).symm.trans hread)
  exact absurd hreservation (by decide)

/-- The policy of the sample VirtualCluster is read back, but for its reservation. -/
theorem policy_reservation_sample :
    (∃ policy, namespacePolicy DriftAux.sampleCtx sampleCluster.names.hostNamespace
      (namespaceWith [ascend]) = .ok policy ∧
        policy.Matches sampleCluster (resolvedWith [ascend])) ∧
      ¬∃ policy, namespacePolicy DriftAux.sampleCtx sampleCluster.names.hostNamespace
        (namespaceWith [ascend]) = .ok policy ∧
        policy.Matches sampleCluster (resolvedWith [ascend]) ∧
        ResourceList.semanticEqual policy.reflectedSystem (resolvedWith [ascend]).reservation.reflectedSystem = true :=
  policy_reservation_lost DriftAux.sampleCtx sampleCluster (cellWith [ascend]) (sampleClass gibi) _ [] _ _
    (by decide +kernel)
    (by decide +kernel) (resolves_with (Or.inr rfl)) (namespaceWith_mem [ascend])

/-- On a Cell without devices a pod is admitted that asks for one. -/
theorem devices_within_false :
    ¬∀ (Γ : Ctx) (reader : HostAdmissionReader) (v : VirtualCluster) (cell : Cell) (virtualNodeClass : VirtualNodeClass)
      (resolved : ResolvedSnapshot) (addresses : List String) (ns : String) (metadata stored : ObjectMeta)
        (policy : Policy)
      (pod admitted : Pod), validateCellSpec cell.spec = [] →
        resolveVirtualCluster Γ cell virtualNodeClass = .ok resolved →
      .namespaceObject metadata ∈ renderFoundation v (v.snapshot resolved) (v.renderNames addresses) →
      stored.labels = metadata.labels → stored.annotations = metadata.annotations →
        reader.getNamespace ns = .ok stored →
      v.metadata.uid ≠ "" → namespacePolicy Γ ns stored = .ok policy → isK3kInfrastructurePod pod policy = false →
      isReflectedSystemPod pod policy = false → (handle Γ reader ⟨ns, .ok pod⟩).admitted pod = some admitted →
      admitted.DevicesWithin resolved.acceleratorKeys := by
  intro hall
  obtain ⟨hallowed, hnative, hsystem⟩ : ((handle DriftAux.sampleCtx (readerWith []) ⟨sampleCluster.names.hostNamespace,
      .ok (devicePod "nvidia.com/gpu")⟩).admitted (devicePod "nvidia.com/gpu")).map (fun admitted =>
        admitted.containers.any fun c => (AList.lookup "nvidia.com/gpu" c.resources.requests).isSome) = some true ∧
      isK3kInfrastructurePod (devicePod "nvidia.com/gpu") (policyWith []) = false ∧
      isReflectedSystemPod (devicePod "nvidia.com/gpu") (policyWith []) = false := by decide +kernel
  obtain ⟨admitted, hadmitted, hasks⟩ := Option.map_eq_some_iff.mp hallowed
  have hwithin := hall _ (readerWith []) sampleCluster (cellWith []) (sampleClass gibi) _ [] _ _ _ _ _ admitted
    (by decide +kernel)
    (resolves_with (Or.inl rfl)) (namespaceWith_mem []) rfl rfl rfl (by decide)
      (namespacePolicy_with []) hnative hsystem hadmitted
  obtain ⟨c, hc, hrequest⟩ := List.any_eq_true.mp hasks
  have hkey := (hwithin c (List.mem_append_right _ hc) "nvidia.com/gpu" (by decide)
    (Or.inl (AList.lookup_isSome.mp hrequest))).1
  nomatch hkey

/-- On a Cell with a device a pod is admitted that asks for it, and for a whole one. -/
theorem devices_within_sample :
    ∃ admitted, (handle DriftAux.sampleCtx (readerWith [ascend]) ⟨sampleCluster.names.hostNamespace,
        .ok (devicePod "huawei.com/Ascend910")⟩).admitted (devicePod "huawei.com/Ascend910") = some admitted ∧
      admitted.DevicesWithin ["huawei.com/Ascend910"] := by
  obtain ⟨hallowed, hnative, hsystem⟩ :
    ((handle DriftAux.sampleCtx (readerWith [ascend]) ⟨sampleCluster.names.hostNamespace,
      .ok (devicePod "huawei.com/Ascend910")⟩).admitted (devicePod "huawei.com/Ascend910")).isSome = true ∧
      isK3kInfrastructurePod (devicePod "huawei.com/Ascend910") (policyWith [ascend]) = false ∧
      isReflectedSystemPod (devicePod "huawei.com/Ascend910") (policyWith [ascend]) = false := by decide +kernel
  obtain ⟨admitted, hadmitted⟩ := Option.isSome_iff_exists.mp hallowed
  exact ⟨admitted, hadmitted, (devices_within_iff _ (readerWith [ascend]) sampleCluster (cellWith [ascend])
    (sampleClass gibi) _ [] _ _ _ _ _
    admitted (by decide +kernel) (resolves_with (Or.inr rfl)) (namespaceWith_mem [ascend]) rfl rfl rfl (by decide)
    (namespacePolicy_with [ascend]) hnative hsystem hadmitted).mpr fun hnone => nomatch hnone⟩

end KubeCell
