import KubeCell.Theorems.Accelerators

/-!
# Classes that are admitted

The webhook admits a class when its quota pairs requests with equal limits, all positive, of resources that are
allowed. Resolution reads the same keys on its own: it asks in addition that what a class is entitled to of a device
is a whole number, and it trims both prefixes of a key, where validation trims one. So a class can be admitted and
still resolve on no Cell.
-/

namespace KubeCell

/-- The class resolves on the Cell, and its quota can be rendered. -/
def Usable (Γ : Ctx) (rt : Runtime) (cell : Cell) (virtualNodeClass : VirtualNodeClass) : Prop :=
  (∃ snap, resolveVirtualCluster Γ cell virtualNodeClass = .ok snap) ∧
    (hostQuotaCheck rt virtualNodeClass).status = .passed

/-- The machine profile declares a device. -/
def MachineProfile.Declares (profile : MachineProfile) (name : String) : Prop :=
  ∃ device ∈ profile.devices, device.resourceName = name

open AcceleratorsAux EvaluatorAux OwnUsageAux ResolutionAux

namespace UsableAux

variable {cell : Cell} {virtualNodeClass : VirtualNodeClass} {name : String} {q : Quantity}

/-! ## The keys of a quota -/

/-- Of a request the prefix of a limit is trimmed too. -/
theorem quotaBaseName_requests (name : String) : quotaBaseName ("requests." ++ name) = cutPrefix name "limits." := by
  rw [quotaBaseName, cutPrefix_append]

/-- What is left of the name of an extended resource holds its slash. -/
theorem isExtendedBaseName_cutPrefix (h : isExtendedResourceName name = true) :
    checkDeviceEntitlement.isExtendedBaseName (cutPrefix name "limits.") = true := by
  have hslash := isExtendedBaseName_of_extended h
  cases hprefix : hasPrefix name "limits." with
  | false => rwa [cutPrefix_eq_self hprefix]
  | true =>
    rw [← append_cutPrefix hprefix] at hslash
    have hmem : '/' ∈ "limits.".toList ++ (cutPrefix name "limits.").toList := by
      simpa [checkDeviceEntitlement.isExtendedBaseName] using hslash
    rcases List.mem_append.mp hmem with hbad | hrest
    · exact absurd hbad (by decide)
    · simpa [checkDeviceEntitlement.isExtendedBaseName] using hrest

/-- The check of an entry of a resource that is no device does nothing. -/
theorem checkDeviceEntitlement_base (profile : MachineProfile) (hname : name ∈ baseResources) (q : Quantity) :
    checkDeviceEntitlement profile ("requests." ++ name) q = .ok () ∧
      checkDeviceEntitlement profile ("limits." ++ name) q = .ok () := by
  have hbase : checkDeviceEntitlement.isExtendedBaseName (quotaBaseName ("requests." ++ name)) = false ∧
      checkDeviceEntitlement.isExtendedBaseName (quotaBaseName ("limits." ++ name)) = false := by
    rw [quotaBaseName_limits, quotaBaseName_requests]
    simp only [baseResources, List.mem_cons, List.not_mem_nil, or_false] at hname
    rcases hname with rfl | rfl | rfl <;> decide +kernel
  unfold checkDeviceEntitlement
  simp [hbase]

/-- The check of an entry of a device. -/
theorem checkDeviceEntitlement_device_iff (profile : MachineProfile) {key : String}
    (hkey : hasPrefix key "requests." = true ∨ hasPrefix key "limits." = true)
    (hbase : checkDeviceEntitlement.isExtendedBaseName (quotaBaseName key) = true) (hpositive : 0 < q.value) :
    checkDeviceEntitlement profile key q = .ok () ↔ profile.Declares (quotaBaseName key) ∧ q.asInt64.isSome := by
  unfold checkDeviceEntitlement
  rw [if_neg (by rcases hkey with h | h <;> simp [h]), if_neg (by simp [hbase])]
  have hdeclares : (profile.devices.any fun device => device.resourceName == quotaBaseName key) = true ↔
      profile.Declares (quotaBaseName key) := by simp [MachineProfile.Declares]
  split_ifs with hdeclared hbad
  · simp only [false_iff, not_and, Bool.not_eq_true, Option.isSome_eq_false_iff]
    exact fun _ => hbad.resolve_left (not_le.mpr hpositive)
  · simp only [true_iff]
    exact ⟨hdeclares.mp hdeclared, Option.isSome_iff_ne_none.mpr fun hnone => hbad (Or.inr (by rw [hnone]; rfl))⟩
  · simp only [false_iff, not_and]
    exact fun h => absurd (hdeclares.mpr h) hdeclared

/-! ## A class that passes validation -/

/-- A valid class asks for as much of a device as it allows. -/
theorem pairs_of_valid (hclass : validateVirtualNodeClassSpec virtualNodeClass.spec = []) (device : DeviceContract) :
    checkDevicePair virtualNodeClass.spec.workloadHard device = .ok () := by
  have hlimit : ∀ limit, AList.lookup
    ("limits." ++ device.resourceName) virtualNodeClass.spec.workloadHard = some limit →
      ∃ request, AList.lookup ("requests." ++ device.resourceName) virtualNodeClass.spec.workloadHard =
        some request := by
    intro limit hlookup
    obtain ⟨name, hkey | hkey, hentry⟩ := validEntry_of_valid hclass hlookup
    · exact absurd hkey.symm (requests_ne_limits name device.resourceName)
    · obtain ⟨request, hrequest, -⟩ := hentry.request
      exact ⟨request, by rwa [(String.append_right_inj _).mp hkey]⟩
  unfold checkDevicePair
  cases hrequest : AList.lookup ("requests." ++ device.resourceName) virtualNodeClass.spec.workloadHard with
  | none =>
    cases hlookup : AList.lookup ("limits." ++ device.resourceName) virtualNodeClass.spec.workloadHard with
    | none => rfl
    | some limit =>
      obtain ⟨request, hsome⟩ := hlimit limit hlookup
      rw [hrequest] at hsome
      nomatch hsome
  | some request =>
    obtain ⟨limit, hlookup, hvalue⟩ := (validEntry_of_request hclass hrequest).limit
    rw [hlookup]
    exact if_pos ((Quantity.equal_iff ..).mpr hvalue.symm)

/-- A valid class passes the check of the host quota. -/
theorem hostQuotaCheck_of_valid (rt : Runtime) (hclass : validateVirtualNodeClassSpec virtualNodeClass.spec = []) :
    (hostQuotaCheck rt virtualNodeClass).status = .passed := by
  rw [hostQuotaCheck_passed_iff]
  intro key q hq
  obtain ⟨name, rfl | rfl, hentry⟩ := validEntry_of_valid hclass hq
  · obtain ⟨limit, hlimit, hvalue⟩ := hentry.limit
    have hequal : limit.equal q = true := (Quantity.equal_iff ..).mpr hvalue
    rw [lacksEqualLimit, cutPrefix_append, hlimit]
    simp only [hequal, Bool.not_true, Bool.and_false]
  · have hrequests : hasPrefix ("limits." ++ name) "requests." = false := by
      rw [hasPrefix, String.toList_append]
      rfl
    simp only [lacksEqualLimit, hrequests, Bool.false_and]

/-- What resolution asks of a class that passes validation: of every extended resource it is entitled to. -/
theorem resolves_iff (hclass : validateVirtualNodeClassSpec virtualNodeClass.spec = [])
    (hprofile : cell.spec.machineProfile.name ≠ "") :
    Resolves cell virtualNodeClass ↔
      ∀ name request limit, isExtendedResourceName name = true →
        AList.lookup ("requests." ++ name) virtualNodeClass.spec.workloadHard = some request →
        AList.lookup ("limits." ++ name) virtualNodeClass.spec.workloadHard = some limit →
        (request.asInt64.isSome ∧ limit.asInt64.isSome) ∧
          cell.spec.machineProfile.Declares name ∧ cell.spec.machineProfile.Declares (cutPrefix name "limits.") := by
  constructor
  · intro hresolves name request limit hextended hrequest hlimit
    have hentry := validEntry_of_request hclass hrequest
    have hpositive : 0 < limit.value := by
      obtain ⟨limit', hlimit', hvalue⟩ := hentry.limit
      obtain rfl : limit' = limit := Option.some.inj (hlimit'.symm.trans hlimit)
      exact hvalue ▸ hentry.positive
    have hrequestChecked := hresolves.entitlements ⟨_, request⟩ (AList.mem_lookup_iff.mp hrequest)
    have hlimitChecked := hresolves.entitlements ⟨_, limit⟩ (AList.mem_lookup_iff.mp hlimit)
    rw [checkDeviceEntitlement_device_iff _ (Or.inl (hasPrefix_append _ _))
      (by rw [quotaBaseName_requests]; exact isExtendedBaseName_cutPrefix hextended) hentry.positive,
      quotaBaseName_requests] at hrequestChecked
    rw [checkDeviceEntitlement_device_iff _ (Or.inr (hasPrefix_append _ _))
      (by rw [quotaBaseName_limits]; exact isExtendedBaseName_of_extended hextended) hpositive,
      quotaBaseName_limits] at hlimitChecked
    exact ⟨⟨hrequestChecked.2, hlimitChecked.2⟩, hlimitChecked.1, hrequestChecked.1⟩
  · intro h
    refine ⟨hprofile, fun e he => ?_, fun device _ => pairs_of_valid hclass device⟩
    obtain ⟨key, q⟩ := e
    have hq : AList.lookup key virtualNodeClass.spec.workloadHard = some q := AList.mem_lookup_iff.mpr he
    obtain ⟨name, hkey, hentry⟩ := validEntry_of_valid hclass hq
    rcases hentry.allowed with hbase | hextended
    · rcases hkey with rfl | rfl
      · exact (checkDeviceEntitlement_base _ hbase q).1
      · exact (checkDeviceEntitlement_base _ hbase q).2
    · obtain ⟨request, hrequest, -⟩ := hentry.request
      obtain ⟨limit, hlimit, -⟩ := hentry.limit
      obtain ⟨⟨hwholeRequest, hwholeLimit⟩, hdeclared, htrimmed⟩ := h name request limit hextended hrequest hlimit
      rcases hkey with rfl | rfl
      · obtain rfl : request = q := Option.some.inj (hrequest.symm.trans hq)
        refine (checkDeviceEntitlement_device_iff _ (Or.inl (hasPrefix_append _ _)) ?_ hentry.positive).mpr
          ⟨?_, hwholeRequest⟩
        · rw [quotaBaseName_requests]
          exact isExtendedBaseName_cutPrefix hextended
        · rwa [quotaBaseName_requests]
      · obtain rfl : limit = q := Option.some.inj (hlimit.symm.trans hq)
        refine (checkDeviceEntitlement_device_iff _ (Or.inr (hasPrefix_append _ _)) ?_ hentry.positive).mpr
          ⟨?_, hwholeLimit⟩
        · rw [quotaBaseName_limits]
          exact isExtendedBaseName_of_extended hextended
        · rwa [quotaBaseName_limits]

theorem profile_of_valid (hcell : validateCellSpec cell.spec = []) : cell.spec.machineProfile.name ≠ "" := by
  intro hname
  simp [validateCellSpec, hname] at hcell

end UsableAux

open UsableAux

/-- A class and a Cell that pass validation, where the profile declares what the class is entitled to, are usable
together exactly when each extended resource is entitled to in 64-bit whole numbers, and one whose name starts like a
limit is declared without that too. Request and limit are of one value, but each may be held in its own way. -/
theorem usable_iff (Γ : Ctx) (rt : Runtime) (cell : Cell) (virtualNodeClass : VirtualNodeClass)
    (hclass : validateVirtualNodeClassSpec virtualNodeClass.spec = []) (hcell : validateCellSpec cell.spec = [])
    (hdeclared : ∀ name, isExtendedResourceName name = true → "requests." ++ name ∈ virtualNodeClass.spec.workloadHard →
      cell.spec.machineProfile.Declares name) :
    Usable Γ rt cell virtualNodeClass ↔
      ∀ name request limit, isExtendedResourceName name = true →
        AList.lookup ("requests." ++ name) virtualNodeClass.spec.workloadHard = some request →
        AList.lookup ("limits." ++ name) virtualNodeClass.spec.workloadHard = some limit →
        (request.asInt64.isSome ∧ limit.asInt64.isSome) ∧ ∀ rest, name = "limits." ++ rest →
          cell.spec.machineProfile.Declares rest := by
  have hresolves : (∃ snap, resolveVirtualCluster Γ cell virtualNodeClass = .ok snap) ↔
    Resolves cell virtualNodeClass := by
    simp only [resolveVirtualCluster_ok_iff, exists_and_left, exists_eq, and_true]
  rw [Usable, hresolves, resolves_iff hclass (profile_of_valid hcell)]
  refine (and_iff_left (hostQuotaCheck_of_valid rt hclass)).trans (forall₃_congr fun name request limit =>
    forall₃_congr fun hextended hrequest _ => and_congr_right fun _ => ?_)
  have hname : cell.spec.machineProfile.Declares name :=
    hdeclared name hextended (AList.lookup_isSome.mp (by rw [hrequest]; rfl))
  constructor
  · rintro ⟨-, htrimmed⟩ rest rfl
    rwa [cutPrefix_append] at htrimmed
  · intro hrest
    refine ⟨hname, ?_⟩
    cases hprefix : hasPrefix name "limits." with
    | false => rwa [cutPrefix_eq_self hprefix]
    | true => exact hrest _ (append_cutPrefix hprefix).symm

/-- A class that is entitled to one accelerator, on a Cell that declares it. -/
theorem usable_iff_sample : Usable sampleCtx sampleRuntime gpuCell gpuClass := by
  have hname : ∀ name, "requests." ++ name ∈ gpuClass.spec.workloadHard → name = gpu := by
    intro name hmem
    have hkeys : "requests." ++ name ∈ ["requests." ++ gpu, "limits." ++ gpu] := hmem
    simp only [List.mem_cons, List.not_mem_nil, or_false] at hkeys
    rcases hkeys with h | h
    · exact (String.append_right_inj _).mp h
    · exact absurd h (requests_ne_limits name gpu)
  refine (usable_iff sampleCtx sampleRuntime gpuCell gpuClass (by decide +kernel)
    (by decide +kernel) fun name _ hmem => ?_).mpr
    fun name request limit _ hrequest hlimit => ?_
  · rw [hname name hmem]
    exact ⟨{ name := "gpu", resourceName := gpu }, by decide +kernel, rfl⟩
  · obtain rfl := hname name (AList.lookup_isSome.mp (by rw [hrequest]; rfl))
    rw [show AList.lookup ("requests." ++ gpu) gpuClass.spec.workloadHard =
      some (.newQuantity 1 .decimalSI) by decide +kernel,
      Option.some.injEq] at hrequest
    rw [show AList.lookup ("limits." ++ gpu) gpuClass.spec.workloadHard =
      some (.newQuantity 1 .decimalSI) by decide +kernel,
      Option.some.injEq] at hlimit
    subst hrequest hlimit
    refine ⟨by decide +kernel, fun rest hrest => ?_⟩
    have := congrArg String.toList hrest
    rw [String.toList_append] at this
    exact nomatch (List.cons.inj this).1

/-- One accelerator written in thousandths is admitted where one is, and does not resolve. -/
example :
    let thousandths : VirtualNodeClass :=
      { gpuClass with
        spec.workloadHard := GoMap.ofList
          [("requests." ++ gpu, Quantity.milli 1000), ("limits." ++ gpu, Quantity.newQuantity 1 .decimalSI)] }
    validateVirtualNodeClassSpec thousandths.spec = [] ∧
      (resolveVirtualCluster sampleCtx gpuCell thousandths).isOk = false := by
  decide +kernel

/-- A class that is entitled to one and a half accelerators is admitted, and does not resolve. -/
theorem usable_false :
    ¬∀ (Γ : Ctx) (rt : Runtime) (cell : Cell) (virtualNodeClass : VirtualNodeClass),
      validateVirtualNodeClassSpec virtualNodeClass.spec = [] → validateCellSpec cell.spec = [] →
      (∀ name, isExtendedResourceName name = true → "requests." ++ name ∈ virtualNodeClass.spec.workloadHard →
        cell.spec.machineProfile.Declares name) →
      Usable Γ rt cell virtualNodeClass := by
  intro h
  let half : VirtualNodeClass :=
    { gpuClass with
      spec.workloadHard := GoMap.ofList
        [("requests." ++ gpu, Quantity.milli 1500), ("limits." ++ gpu, Quantity.milli 1500)] }
  obtain ⟨⟨snap, hsnap⟩, -⟩ := h sampleCtx sampleRuntime gpuCell half (by decide +kernel)
    (by decide +kernel) fun name _ hmem => by
    have hkeys : "requests." ++ name ∈ ["requests." ++ gpu, "limits." ++ gpu] := hmem
    simp only [List.mem_cons, List.not_mem_nil, or_false] at hkeys
    rcases hkeys with h | h
    · rw [(String.append_right_inj _).mp h]
      exact ⟨{ name := "gpu", resourceName := gpu }, by decide +kernel, rfl⟩
    · exact absurd h (requests_ne_limits name gpu)
  have herror : (resolveVirtualCluster sampleCtx gpuCell half).isOk = false := by decide +kernel
  rw [hsnap] at herror
  nomatch herror

end KubeCell
