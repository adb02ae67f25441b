import KubeCell.Inventory
import KubeCell.Lib.Checks
import KubeCell.Resolution

/-!
# What resolution does

When resolution succeeds, what it answers then, and what the fingerprint in the answer tells about the quota.
-/

namespace KubeCell

namespace ResolutionAux

/-! ## A quota that passes validation -/

/-- What validation says of a resource with a quantity in a quota: it is allowed, and asked for
and limited by as much. -/
structure ValidEntry (hard : ResourceList) (name : String) (q : Quantity) : Prop where
  positive : 0 < q.value
  allowed : name ∈ baseResources ∨ isExtendedResourceName name = true
  request : ∃ request, AList.lookup ("requests." ++ name) hard = some request ∧ request.value = q.value
  limit : ∃ limit, AList.lookup ("limits." ++ name) hard = some limit ∧ limit.value = q.value

/-- A key of a quota has one of the two prefixes. -/
theorem requests_ne_limits (name name' : String) : "requests." ++ name ≠ "limits." ++ name' := by
  intro h
  have := congrArg String.toList h
  simp only [String.toList_append] at this
  nomatch (List.cons.inj this).1

/-- Of a limit only the one prefix is trimmed. -/
theorem quotaBaseName_limits (name : String) : quotaBaseName ("limits." ++ name) = name := by
  have hrequests : hasPrefix ("limits." ++ name) "requests." = false := by
    rw [hasPrefix, String.toList_append]
    rfl
  rw [quotaBaseName, cutPrefix_eq_self hrequests, cutPrefix_append]

/-- The counterpart of a key that passes validation is there, with the same value. -/
theorem counterpart_of_errors {hard : ResourceList} {name pre other : String} {q : Quantity}
    (h : counterpartErrors hard (pre ++ name) q pre other = []) :
    ∃ counterpart, AList.lookup (other ++ name) hard = some counterpart ∧ counterpart.value = q.value := by
  rw [counterpartErrors, if_pos (hasPrefix_append _ _), resourceNameWithPrefix, cutPrefix_append] at h
  dsimp only at h
  split at h
  · nomatch h
  · rename_i counterpart hlookup
    split_ifs at h with hequal
    exact ⟨counterpart, hlookup, ((Quantity.equal_iff ..).mp hequal).symm⟩

/-- Every entry of a quota that passes validation is a request or a limit of a resource, with its counterpart. -/
theorem validEntry_of_valid {spec : VirtualNodeClassSpec} (hclass : validateVirtualNodeClassSpec spec = [])
    {key : String} {q : Quantity} (hq : AList.lookup key spec.workloadHard = some q) :
    ∃ name, (key = "requests." ++ name ∨ key = "limits." ++ name) ∧ ValidEntry spec.workloadHard name q := by
  rw [validateVirtualNodeClassSpec, List.append_eq_nil_iff] at hclass
  have herrors := List.flatMap_eq_nil_iff.mp hclass.2 ⟨key, q⟩ (AList.mem_lookup_iff.mp hq)
  simp only [quotaEntryErrors, List.append_eq_nil_iff] at herrors
  obtain ⟨⟨⟨hsign, hlimit⟩, hrequest⟩, hkey⟩ := herrors
  have hpositive : 0 < q.value := by
    split_ifs at hsign with hnot
    exact not_le.mp hnot
  have hvalid : validQuotaResourceKey key = true := by
    split_ifs at hkey with hinvalid
    simpa using hinvalid
  have hallowed : ∀ name, (name == "cpu" || name == "memory" || name == "ephemeral-storage" ||
      isExtendedResourceName name) = true →
      name ∈ baseResources ∨ isExtendedResourceName name = true := by
    intro name h
    simp only [Bool.or_eq_true, beq_iff_eq] at h
    simp only [baseResources, List.mem_cons, List.not_mem_nil, or_false]
    tauto
  unfold validQuotaResourceKey at hvalid
  dsimp only at hvalid
  split_ifs at hvalid with hrequests hlimits
  · obtain ⟨name, rfl⟩ : ∃ name, key = "requests." ++ name := ⟨_, (append_cutPrefix hrequests).symm⟩
    rw [cutPrefix_append] at hvalid
    exact ⟨name, Or.inl rfl, hpositive, hallowed name hvalid, ⟨q, hq, rfl⟩, counterpart_of_errors hlimit⟩
  · obtain ⟨name, rfl⟩ : ∃ name, key = "limits." ++ name := ⟨_, (append_cutPrefix hlimits).symm⟩
    rw [cutPrefix_append] at hvalid
    exact ⟨name, Or.inr rfl, hpositive, hallowed name hvalid, counterpart_of_errors hrequest, ⟨q, hq, rfl⟩⟩

/-- The entry of a request that passes validation. -/
theorem validEntry_of_request {spec : VirtualNodeClassSpec}
    (hclass : validateVirtualNodeClassSpec spec = []) {name : String}
    {q : Quantity} (hq : AList.lookup ("requests." ++ name) spec.workloadHard = some q) :
      ValidEntry spec.workloadHard name q := by
  obtain ⟨name', hkey | hkey, hentry⟩ := validEntry_of_valid hclass hq
  · rwa [(String.append_right_inj _).mp hkey]
  · exact absurd hkey (requests_ne_limits name name')

/-- A counterpart with the same value is no error. -/
theorem counterpartErrors_eq_nil {hard : ResourceList} {name pre other : String} {q counterpart : Quantity}
    (hlookup : AList.lookup (other ++ name) hard = some counterpart) (hvalue : counterpart.value = q.value) :
    counterpartErrors hard (pre ++ name) q pre other = [] := by
  have hequal : q.equal counterpart = true := (Quantity.equal_iff ..).mpr hvalue.symm
  rw [counterpartErrors, if_pos (hasPrefix_append _ _), resourceNameWithPrefix, cutPrefix_append]
  simp [hlookup, hequal]

theorem counterpartErrors_of_not_prefix {hard : ResourceList} {key pre other : String} {q : Quantity}
    (h : hasPrefix key pre = false) :
    counterpartErrors hard key q pre other = [] := by
  rw [counterpartErrors, h]
  rfl

/-- A quota all of whose entries are valid passes validation. -/
theorem valid_of_validEntry {spec : VirtualNodeClassSpec} (hstorage : isDNS1123Subdomain spec.storageClassName = [])
    (h : ∀ key q, AList.lookup key spec.workloadHard = some q →
      ∃ name, (key = "requests." ++ name ∨ key = "limits." ++ name) ∧ ValidEntry spec.workloadHard name q) :
    validateVirtualNodeClassSpec spec = [] := by
  rw [validateVirtualNodeClassSpec, List.append_eq_nil_iff]
  refine ⟨?_, List.flatMap_eq_nil_iff.mpr fun e he => ?_⟩
  · rw [if_neg, if_neg (not_not.mpr hstorage)]
    intro hempty
    rw [hempty] at hstorage
    exact absurd hstorage (by decide)
  · obtain ⟨key, q⟩ := e
    obtain ⟨name, hkey, hentry⟩ := h key q (AList.mem_lookup_iff.mpr he)
    obtain ⟨request, hrequest, hrequestValue⟩ := hentry.request
    obtain ⟨limit, hlimit, hlimitValue⟩ := hentry.limit
    have hallowed : (name == "cpu" || name == "memory" || name == "ephemeral-storage" || isExtendedResourceName
      name) = true := by
      have hname := hentry.allowed
      simp only [baseResources, List.mem_cons, List.not_mem_nil, or_false] at hname
      simp only [Bool.or_eq_true, beq_iff_eq]
      tauto
    have hlimits : hasPrefix ("limits." ++ name) "requests." = false := by
      rw [hasPrefix, String.toList_append]
      rfl
    have hrequests : hasPrefix ("requests." ++ name) "limits." = false := by
      rw [hasPrefix, String.toList_append]
      rfl
    simp only [quotaEntryErrors, List.append_eq_nil_iff]
    rcases hkey with rfl | rfl
    · refine ⟨⟨⟨if_neg (not_le.mpr hentry.positive), counterpartErrors_eq_nil hlimit hlimitValue⟩,
        counterpartErrors_of_not_prefix hrequests⟩, ?_⟩
      simp only [validQuotaResourceKey, hasPrefix_append, if_true, cutPrefix_append, hallowed]
      rfl
    · refine ⟨⟨⟨if_neg (not_le.mpr hentry.positive), counterpartErrors_of_not_prefix hlimits⟩,
        counterpartErrors_eq_nil hrequest hrequestValue⟩, ?_⟩
      simp only [validQuotaResourceKey, hasPrefix_append, if_true, cutPrefix_append, hallowed, hlimits]
      rfl

/-! ## Resolution -/

/-- The name of an extended resource holds a slash. -/
theorem isExtendedBaseName_of_extended {name : String} (h : isExtendedResourceName name = true) :
    checkDeviceEntitlement.isExtendedBaseName name = true := by
  rw [isExtendedResourceName, splitAtChar_eq_splitOn] at h
  split at h
  · rename_i domain part hparts
    have hjoin : ['/'].intercalate (name.toList.splitOn '/') = name.toList := List.intercalate_splitOn '/'
    rw [hparts] at hjoin
    simp [checkDeviceEntitlement.isExtendedBaseName, ← hjoin, List.intercalate]
  · nomatch h

/-- The snapshot of a Cell and a class that resolve. -/
def resolvedOf (Γ : Ctx) (cell : Cell) (virtualNodeClass : VirtualNodeClass) : ResolvedSnapshot where
  cellUID := cell.metadata.uid
  managedClusterName := cell.spec.managedClusterRef.name
  classUID := virtualNodeClass.metadata.uid
  profileHash :=
    profileFingerprint Γ cell.spec.machineProfile virtualNodeClass.spec.workloadHard
      virtualNodeClass.spec.storageClassName
  machineProfileName := cell.spec.machineProfile.name
  k3kVersion := Platform.k3kVersion
  childK3sVersion := "v1.34.2+k3s1"
  k3kChildVersion := "v1.34.2-k3s1"
  childImageTag := "v1.34.2-k3s1"
  quota := virtualNodeClass.spec.workloadHard
  reservation :=
    { controlPlane := Platform.controlPlaneReservation
      reflectedSystem := Platform.reflectedSystemReservation
      policy := Platform.reservationPolicyIncludedInHostQuota }
  acceleratorKeys := cell.spec.machineProfile.devices.map (·.resourceName)
  storage :=
    { childName := virtualNodeClass.spec.storageClassName
      hostName := virtualNodeClass.spec.storageClassName
      volumeBindingMode := Platform.volumeBindingMode
      reclaimPolicy := Platform.reclaimPolicy
      allowVolumeExpansion := Platform.allowVolumeExpansion }

/-- The Cell and the class resolve: the profile is named and every entitlement of a device passes its checks. -/
structure Resolves (cell : Cell) (virtualNodeClass : VirtualNodeClass) : Prop where
  profile : cell.spec.machineProfile.name ≠ ""
  entitlements : ∀ e ∈ virtualNodeClass.spec.workloadHard.entries,
    checkDeviceEntitlement cell.spec.machineProfile e.1 e.2 = .ok ()
  pairs : ∀ device ∈ cell.spec.machineProfile.devices,
    checkDevicePair virtualNodeClass.spec.workloadHard device = .ok ()

/-- Resolution succeeds exactly when its checks do, and with what. -/
theorem resolveVirtualCluster_ok_iff (Γ : Ctx) (cell : Cell) (virtualNodeClass : VirtualNodeClass)
    (snap : ResolvedSnapshot) :
    resolveVirtualCluster Γ cell virtualNodeClass = .ok snap ↔
      Resolves cell virtualNodeClass ∧ snap = resolvedOf Γ cell virtualNodeClass := by
  have hchild : resolveChildVersion Platform.childK3sVersion = .ok
    ⟨"v1.34.2+k3s1", "v1.34.2-k3s1", "v1.34.2-k3s1"⟩ := by
    simp [resolveChildVersion, Platform.childK3sVersion]
  unfold resolveVirtualCluster
  simp only [hchild]
  by_cases hname : cell.spec.machineProfile.name = ""
  · simp only [hname, if_true]
    refine ⟨nofun, fun h => absurd hname h.1.profile⟩
  · simp only [hname, if_false]
    cases hent : virtualNodeClass.spec.workloadHard.entries.forM fun e =>
        checkDeviceEntitlement cell.spec.machineProfile e.1 e.2 with
    | error e =>
      refine ⟨nofun, fun h => ?_⟩
      rw [Checks.forM_eq_ok.mpr h.1.entitlements] at hent
      nomatch hent
    | ok _ =>
      cases hpair : cell.spec.machineProfile.devices.forM (checkDevicePair virtualNodeClass.spec.workloadHard) with
      | error e =>
        refine ⟨nofun, fun h => ?_⟩
        rw [Checks.forM_eq_ok.mpr h.1.pairs] at hpair
        nomatch hpair
      | ok _ =>
        have hres : Resolves cell virtualNodeClass := ⟨hname, Checks.forM_eq_ok.mp hent, Checks.forM_eq_ok.mp hpair⟩
        constructor
        · intro h
          exact ⟨hres, (Except.ok.inj h).symm⟩
        · rintro ⟨-, rfl⟩
          rfl

end ResolutionAux
end KubeCell
