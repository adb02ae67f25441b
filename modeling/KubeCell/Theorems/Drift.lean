import KubeCell.Lemmas.Resolution
import Mathlib.Logic.Relation

namespace KubeCell

/-!
# Admitted updates and drift

While a live VirtualCluster refers to them, the validators admit only updates of the Cell and of the class that
keep what was resolved, but they compare quantities by value, and the snapshot holds a hash of quantities as they
are printed. So after admitted updates the reconciler sees no drift exactly when every quantity of the class is
printed as it was, and the devices are still held as whole numbers: a quantity may be printed as before and yet be
refused by the resolver.
-/

open ResolutionAux

/-- An update of a Cell that is admitted while the Cell is referenced. -/
def CellUpdate (cell cell' : Cell) : Prop :=
  cell'.metadata.uid = cell.metadata.uid ∧ cell'.validateUpdate cell true = .ok ()

/-- An update of a class that is admitted while the class is referenced. -/
def ClassUpdate (virtualNodeClass virtualNodeClass' : VirtualNodeClass) : Prop :=
  virtualNodeClass'.metadata.uid = virtualNodeClass.metadata.uid ∧
    virtualNodeClass'.validateUpdate virtualNodeClass true = .ok ()

/-- The quantities of two quotas are printed alike. -/
def PrintsSame (hard hard' : ResourceList) : Prop :=
  ∀ name, (AList.lookup name hard).map Quantity.string = (AList.lookup name hard').map Quantity.string

/-- The devices a quota entitles to are held as 64-bit whole numbers. -/
def WholeDevices (hard : ResourceList) : Prop :=
  ∀ key q, AList.lookup key hard = some q → (hasPrefix key "requests." || hasPrefix key "limits.") = true →
    checkDeviceEntitlement.isExtendedBaseName (quotaBaseName key) = true → q.asInt64.isSome

/-- The text the fingerprint of a Cell and a class hashes. -/
def fingerprintOf (cell : Cell) (virtualNodeClass : VirtualNodeClass) : String :=
  fingerprintText cell.spec.machineProfile virtualNodeClass.spec.workloadHard virtualNodeClass.spec.storageClassName

namespace DriftAux

/-- What admitted updates keep of a class: its identity, its storage class and the values of its quota. -/
structure SameClass (k k' : VirtualNodeClass) : Prop where
  uid : k'.metadata.uid = k.metadata.uid
  storageClass : k'.spec.storageClassName = k.spec.storageClassName
  values : ∀ name, (AList.lookup name k.spec.workloadHard).map Quantity.value =
    (AList.lookup name k'.spec.workloadHard).map Quantity.value

/-- An admitted update keeps the specification of a Cell. -/
theorem spec_of_cellUpdate {c c' : Cell} (h : CellUpdate c c') :
    c'.spec = c.spec ∧ c'.metadata.uid = c.metadata.uid := by
  obtain ⟨huid, h⟩ := h
  simp only [Cell.validateUpdate, Bool.not_true, Bool.false_eq_true, if_false, validationError_ok_iff,
    List.append_eq_nil_iff] at h
  obtain ⟨⟨-, href⟩, hprofile⟩ := h
  refine ⟨?_, huid⟩
  obtain ⟨_, ⟨ref, ⟨name, devices⟩⟩, _⟩ := c
  obtain ⟨_, ⟨ref', ⟨name', devices'⟩⟩, _⟩ := c'
  simp only [ite_eq_right_iff, List.cons_ne_self, imp_false, not_not, not_or] at href hprofile
  obtain ⟨hname, hdevices⟩ := hprofile
  simp [href, hname, hdevices]

/-- Admitted updates keep the specification of a Cell. -/
theorem spec_of_cellUpdates {c c' : Cell} (h : Relation.ReflTransGen CellUpdate c c') :
    c'.spec = c.spec ∧ c'.metadata.uid = c.metadata.uid := by
  induction h with
  | refl => exact ⟨rfl, rfl⟩
  | tail _ hu ih =>
    obtain ⟨hs, huid⟩ := spec_of_cellUpdate hu
    exact ⟨hs.trans ih.1, huid.trans ih.2⟩

/-- An admitted update keeps the values of a class. -/
theorem sameClass_of_classUpdate {k k' : VirtualNodeClass} (h : ClassUpdate k k') : SameClass k k' := by
  obtain ⟨huid, h⟩ := h
  simp only [VirtualNodeClass.validateUpdate, Bool.not_true, Bool.false_eq_true, if_false, validationError_ok_iff,
    List.append_eq_nil_iff] at h
  have heq : k.spec.semanticEqual k'.spec = true := by simpa using h.2
  simp only [VirtualNodeClassSpec.semanticEqual, Bool.and_eq_true, beq_iff_eq, ResourceList.semanticEqual_iff] at heq
  exact ⟨huid, heq.2.symm, heq.1⟩

/-- Admitted updates keep the values of a class. -/
theorem sameClass_of_classUpdates {k k' : VirtualNodeClass}
    (h : Relation.ReflTransGen ClassUpdate k k') : SameClass k k' := by
  induction h with
  | refl => exact ⟨rfl, rfl, fun _ => rfl⟩
  | tail _ hu ih =>
    have hs := sameClass_of_classUpdate hu
    exact ⟨hs.uid.trans ih.uid, hs.storageClass.trans ih.storageClass, fun name => (ih.values name).trans
      (hs.values name)⟩

/-- A device that passes the check is held as a whole number, and one of the same value passes it
when it is held so too. -/
theorem checkDeviceEntitlement_of_value (profile : MachineProfile) {key : String} {q q' : Quantity}
    (h : q.value = q'.value) (hq : checkDeviceEntitlement profile key q = .ok ()) :
    checkDeviceEntitlement profile key q' = .ok () ↔
      ((hasPrefix key "requests." || hasPrefix key "limits.") = true →
        checkDeviceEntitlement.isExtendedBaseName (quotaBaseName key) = true → q'.asInt64.isSome) := by
  unfold checkDeviceEntitlement at hq ⊢
  rw [← h]
  by_cases hprefix : (hasPrefix key "requests." || hasPrefix key "limits.") = true
  · have hkey : ¬(!hasPrefix key "requests." && !hasPrefix key "limits.") = true := by
      simpa [imp_iff_not_or] using hprefix
    rw [if_neg hkey] at hq ⊢
    by_cases hextended : checkDeviceEntitlement.isExtendedBaseName (quotaBaseName key) = true
    · rw [if_neg (by simp [hextended])] at hq ⊢
      split_ifs at hq with hdeclared hbad
      rw [if_pos hdeclared]
      split_ifs with hbad'
      · refine iff_of_false nofun fun hwhole => ?_
        have hnone := hbad'.resolve_left fun hneg => hbad (.inl hneg)
        exact Option.not_isSome_iff_eq_none.mpr (Option.isNone_iff_eq_none.mp hnone) (hwhole hprefix hextended)
      · exact iff_of_true rfl fun _ _ => Option.isSome_iff_ne_none.mpr fun hnone => hbad' (.inr (by rw [hnone]; rfl))
    · rw [if_pos (by simpa using hextended)]
      exact iff_of_true rfl fun _ h => absurd h hextended
  · rw [if_pos (by simpa using hprefix)]
    exact iff_of_true rfl fun h => absurd h hprefix

/-- The check of a pair of entitlements looks at values only. -/
theorem checkDevicePair_congr {hard hard' : ResourceList}
    (h : ∀ name, (AList.lookup name hard).map Quantity.value = (AList.lookup name hard').map Quantity.value)
    (device : DeviceContract) : checkDevicePair hard device = checkDevicePair hard' device := by
  have hr := h ("requests." ++ device.resourceName)
  have hl := h ("limits." ++ device.resourceName)
  unfold checkDevicePair
  revert hr hl
  rcases AList.lookup ("requests." ++ device.resourceName) hard with _ | r <;>
    rcases AList.lookup ("requests." ++ device.resourceName) hard' with _ | r' <;>
    rcases AList.lookup ("limits." ++ device.resourceName) hard with _ | l <;>
    rcases AList.lookup ("limits." ++ device.resourceName) hard' with _ | l' <;> simp +contextual [Quantity.equal]

/-- What resolves keeps resolving under admitted updates exactly when the devices are still held as whole numbers. -/
theorem resolves_of_same {c c' : Cell} {k k' : VirtualNodeClass} (hc : c'.spec = c.spec) (hk : SameClass k k')
    (h : Resolves c k) : Resolves c' k' ↔ WholeDevices k'.spec.workloadHard := by
  have hentry : ∀ key q', AList.lookup key k'.spec.workloadHard = some q' →
      (checkDeviceEntitlement c.spec.machineProfile key q' = .ok () ↔
        ((hasPrefix key "requests." || hasPrefix key "limits.") = true →
          checkDeviceEntitlement.isExtendedBaseName (quotaBaseName key) = true → q'.asInt64.isSome)) := by
    intro key q' hq'
    have hvalue := hk.values key
    rw [hq'] at hvalue
    obtain ⟨q, hq, hqv⟩ := Option.map_eq_some_iff.mp hvalue
    exact checkDeviceEntitlement_of_value _ hqv (h.entitlements ⟨key, q⟩ (AList.mem_lookup_iff.mp hq))
  constructor
  · intro h' key q' hq'
    exact (hentry key q' hq').mp (hc ▸ h'.entitlements ⟨key, q'⟩ (AList.mem_lookup_iff.mp hq'))
  · intro hwhole
    refine ⟨hc ▸ h.profile, fun e he => ?_, fun device hdevice => ?_⟩
    · have hlookup : AList.lookup e.1 k'.spec.workloadHard = some e.2 := AList.mem_lookup_iff.mpr he
      rw [hc]
      exact (hentry e.1 e.2 hlookup).mpr (hwhole e.1 e.2 hlookup)
    · rw [← checkDevicePair_congr hk.values]
      exact h.pairs device (hc ▸ hdevice)

/-- Quotas with the same resources list the same keys, sorted. -/
theorem sorted_keys_eq {k k' : VirtualNodeClass} (hk : SameClass k k') :
    sortStrings k.spec.workloadHard.keys = sortStrings k'.spec.workloadHard.keys :=
  sortStrings_eq_of_perm (ResourceList.keys_perm_of_lookup fun name => by
    simpa using congrArg Option.isSome (hk.values name))

/-- The lines of a fingerprint: how each starts, and the key whose quantity it ends in, if it does. -/
def lines (machineProfile : MachineProfile) (quota : ResourceList) (storageClass : String) :
    List (List Char × Option String) :=
  [(("profile=" ++ machineProfile.name).toList, none), (("storage=" ++ storageClass).toList, none)] ++
    machineProfile.devices.map (fun device =>
      (("device=" ++ device.name ++ "/" ++ device.resourceName).toList, none)) ++
    (sortStrings quota.keys).map fun key => ((key ++ "=").toList, some key)

/-- What a line of a fingerprint ends in. -/
def lineValue (quota : ResourceList) (line : List Char × Option String) : List Char :=
  match line.2 with
  | none => []
  | some key => (quota.qty key).string.toList

/-- A line ends the same when the quantities are printed alike. -/
theorem lineValue_congr {quota quota' : ResourceList} (h : PrintsSame quota quota') (line : List Char × Option String) :
    lineValue quota line = lineValue quota' line := by
  cases hline : line.2 with
  | none => simp [lineValue, hline]
  | some key =>
    have := h key
    simp only [lineValue, hline, ResourceList.qty]
    cases hq : AList.lookup key quota with
    | none =>
      rw [hq] at this
      rw [Option.map_eq_none_iff.mp this.symm]
    | some q =>
      rw [hq] at this
      obtain ⟨q', hq', hprint⟩ := Option.map_eq_some_iff.mp this.symm
      simp [hq', hprint]

/-- The text of a fingerprint is its lines. -/
theorem fingerprintText_toList (machineProfile : MachineProfile) (quota : ResourceList) (storageClass : String) :
    (fingerprintText machineProfile quota storageClass).toList =
      ['\n'].intercalate ((lines machineProfile quota storageClass).map fun line =>
        line.1 ++ lineValue quota line) := by
  simp [fingerprintText, lines, lineValue, String.toList_intercalate, Function.comp_def]

/-- After admitted updates the fingerprint is of the same text exactly when every quantity is printed as it was. -/
theorem fingerprintOf_eq_iff {c c' : Cell} {k k' : VirtualNodeClass} (hc : c'.spec = c.spec) (hk : SameClass k k') :
    fingerprintOf c k = fingerprintOf c' k' ↔ PrintsSame k.spec.workloadHard k'.spec.workloadHard := by
  have hlines : lines c'.spec.machineProfile k'.spec.workloadHard k'.spec.storageClassName =
      lines c.spec.machineProfile k.spec.workloadHard k.spec.storageClassName := by
    simp only [lines, hc, hk.storageClass, sorted_keys_eq hk]
  rw [← String.toList_inj, fingerprintOf, fingerprintOf, fingerprintText_toList, fingerprintText_toList, hlines]
  constructor
  · intro h name
    have hvalue := intercalate_values_inj (fun line _ => ?_) h
    · cases hlookup : AList.lookup name k.spec.workloadHard with
      | none =>
        have := hk.values name
        rw [hlookup] at this
        rw [Option.map_eq_none_iff.mp this.symm]
      | some q =>
        have hmem : ((name ++ "=").toList, some name) ∈
            lines c.spec.machineProfile k.spec.workloadHard k.spec.storageClassName := by
          refine List.mem_append_right _ (List.mem_map.mpr ⟨name, mem_sortStrings.mpr ?_, rfl⟩)
          exact AList.mem_keys.mp (AList.lookup_isSome.mp (by simp [hlookup]))
        obtain ⟨q', hq', -⟩ := Option.map_eq_some_iff.mp ((hk.values name).symm.trans (congrArg _ hlookup))
        have := hvalue _ hmem
        simp only [lineValue, ResourceList.qty, hlookup, hq', Option.getD_some, String.toList_inj] at this
        simp [hq', this]
    · cases hline : line.2 with
      | none => simp [lineValue, hline]
      | some key => simp [lineValue, hline, Quantity.newline_not_mem_string]
  · intro h
    congr 1
    refine List.map_congr_left fun line _ => ?_
    rw [lineValue_congr h]

/-- After admitted updates two snapshots are told apart by the fingerprint alone. -/
theorem sameResolvedProvider_iff (Γ : Ctx) (v : VirtualCluster) {c c' : Cell} {k k' : VirtualNodeClass}
    (hc : c'.spec = c.spec) (huid : c'.metadata.uid = c.metadata.uid) (hk : SameClass k k') :
    sameResolvedProvider (v.snapshot (resolvedOf Γ c k)) (v.snapshot (resolvedOf Γ c' k')) = true ↔
      profileHash Γ (fingerprintOf c k) = profileHash Γ (fingerprintOf c' k') := by
  have hquota : ResourceList.semanticEqual k.spec.workloadHard k'.spec.workloadHard = true :=
    (ResourceList.semanticEqual_iff _ _).mpr hk.values
  have hself : ∀ l : ResourceList, ResourceList.semanticEqual l l = true := fun l =>
    (ResourceList.semanticEqual_iff l l).mpr fun _ => rfl
  simp [sameResolvedProvider, VirtualCluster.snapshot, resolvedOf, hc, huid, hk.uid, hk.storageClass, hquota, hself,
    ReservationSpec.semanticEqual, profileFingerprint, fingerprintOf]

end DriftAux

open DriftAux

/-- After updates that are admitted while the VirtualCluster refers to the Cell and the class, resolving again gives a
snapshot that is the same as the stored one exactly when every quantity of the class is printed as it was and devices
are still held as whole numbers. -/
theorem admitted_updates_no_drift_iff (Γ : Ctx) (v : VirtualCluster) (cell cell' : Cell)
    (virtualNodeClass virtualNodeClass' : VirtualNodeClass) (stored : ResolvedSnapshot)
    (hstored : resolveVirtualCluster Γ cell virtualNodeClass = .ok stored)
    (hcell : Relation.ReflTransGen CellUpdate cell cell')
    (hclass : Relation.ReflTransGen ClassUpdate virtualNodeClass virtualNodeClass')
    (hfree : profileHash Γ (fingerprintOf cell virtualNodeClass) = profileHash Γ
      (fingerprintOf cell' virtualNodeClass') → fingerprintOf cell virtualNodeClass =
        fingerprintOf cell' virtualNodeClass') :
    (∃ resolved, resolveVirtualCluster Γ cell' virtualNodeClass' = .ok resolved ∧
      sameResolvedProvider (v.snapshot stored) (v.snapshot resolved) = true) ↔
      PrintsSame virtualNodeClass.spec.workloadHard virtualNodeClass'.spec.workloadHard ∧
        WholeDevices virtualNodeClass'.spec.workloadHard := by
  obtain ⟨hspec, huid⟩ := spec_of_cellUpdates hcell
  have hk := sameClass_of_classUpdates hclass
  obtain ⟨hres, rfl⟩ := (resolveVirtualCluster_ok_iff _ _ _ _).mp hstored
  rw [← fingerprintOf_eq_iff hspec hk, ← resolves_of_same hspec hk hres]
  constructor
  · rintro ⟨resolved, hresolved, hsame⟩
    obtain ⟨hres', rfl⟩ := (resolveVirtualCluster_ok_iff _ _ _ _).mp hresolved
    exact ⟨hfree ((sameResolvedProvider_iff Γ v hspec huid hk).mp hsame), hres'⟩
  · rintro ⟨heq, hres'⟩
    refine ⟨_, (resolveVirtualCluster_ok_iff _ _ _ _).mpr ⟨hres', rfl⟩, ?_⟩
    exact (sameResolvedProvider_iff Γ v hspec huid hk).mpr (congrArg _ heq)

namespace DriftAux

/-- A Cell with a profile of no devices. -/
def sampleCell : Cell :=
  { metadata := { name := "cell-a", ns := managementNamespace, uid := "cell-uid" }
    spec := { managedClusterRef := { name := "mc-a" }, machineProfile := { name := "gpu" } } }

/-- A class that entitles to `memory`. -/
def sampleClass (memory : Quantity) : VirtualNodeClass :=
  { metadata := { name := "small", uid := "class-uid" }
    spec :=
      { workloadHard := GoMap.ofList [("requests.memory", memory), ("limits.memory", memory)]
        storageClassName := "topolvm" } }

/-- A VirtualCluster on `sampleCell`. -/
def sampleCluster : VirtualCluster :=
  { metadata := { name := "team", ns := managementNamespace, uid := "01234567-aaaa" }
    spec := { cellRef := { name := "cell-a", ns := managementNamespace }, classRef := { name := "small" } } }

/-- A gibibyte as `1Gi`, and as `1073741824`. -/
def gibi : Quantity := .mebi 1024
@[inherit_doc gibi] def gibiDecimal : Quantity := .newQuantity 1073741824 .decimalSI

/-- The digests of the two fingerprints of `sampleCell` with a class of a gibibyte. -/
def sampleSha256 (data : List UInt8) : List UInt8 :=
  if data = (goSyntax (fingerprintOf sampleCell (sampleClass gibi))).toUTF8.data.toList then
    [191, 255, 252, 218, 203, 143, 189, 234, 237, 245, 132, 29, 33, 151, 186, 41, 190, 44, 33, 91, 181, 95, 180, 91,
      77, 25, 192, 72, 164, 235, 197, 81]
  else if data = (goSyntax (fingerprintOf sampleCell (sampleClass gibiDecimal))).toUTF8.data.toList then
    [104, 245, 116, 210, 48, 80, 5, 150, 77, 116, 70, 52, 21, 61, 92, 224, 43, 148, 158, 194, 252, 131, 94, 111, 223,
      124, 202, 12, 86, 165, 69, 196]
  else []

/-- The digests of the two fingerprints, and no other function of another package is called. -/
def sampleCtx : Ctx := ⟨sampleSha256, fun _ => none, fun _ => none⟩

example : fingerprintOf sampleCell (sampleClass gibi) =
    "profile=gpu\nstorage=topolvm\nlimits.memory=1Gi\nrequests.memory=1Gi" := by decide +kernel
example : fingerprintOf sampleCell (sampleClass gibiDecimal) =
    "profile=gpu\nstorage=topolvm\nlimits.memory=1073741824\nrequests.memory=1073741824" := by decide +kernel

/-- The sample class asks for no device. -/
theorem sample_entitlements (machineProfile : MachineProfile) (memory : Quantity) :
    ∀ e ∈ (sampleClass memory).spec.workloadHard.entries, checkDeviceEntitlement machineProfile e.1 e.2 = .ok () := by
  intro e he
  have hmem : e = ⟨"requests.memory", memory⟩ ∨ e = ⟨"limits.memory", memory⟩ := by
    simpa [sampleClass, GoMap.ofList] using he
  have hrequests : checkDeviceEntitlement.isExtendedBaseName (quotaBaseName "requests.memory") = false := by
    decide +kernel
  have hlimits : checkDeviceEntitlement.isExtendedBaseName (quotaBaseName "limits.memory") = false := by decide +kernel
  rcases hmem with rfl | rfl
  · simp [checkDeviceEntitlement, hrequests]
  · simp [checkDeviceEntitlement, hlimits]

/-- The samples resolve. -/
theorem sample_resolves (memory : Quantity) : Resolves sampleCell (sampleClass memory) :=
  ⟨by decide, sample_entitlements _ memory, fun _ hdevice => nomatch hdevice⟩

/-- Writing a gibibyte in another way is an admitted update of the class. -/
theorem sample_classUpdate : ClassUpdate (sampleClass gibi) (sampleClass gibiDecimal) := by
  refine ⟨rfl, ?_⟩
  decide +kernel

end DriftAux

/-- An admitted update of the class that only writes a quantity in another way is seen as drift. -/
theorem admitted_updates_no_drift_false :
    ¬∀ (Γ : Ctx) (v : VirtualCluster) (cell cell' : Cell) (virtualNodeClass virtualNodeClass' : VirtualNodeClass)
      (stored : ResolvedSnapshot), resolveVirtualCluster Γ cell virtualNodeClass = .ok stored →
      Relation.ReflTransGen CellUpdate cell cell' →
        Relation.ReflTransGen ClassUpdate virtualNodeClass virtualNodeClass' →
      ∃ resolved, resolveVirtualCluster Γ cell' virtualNodeClass' = .ok resolved ∧
        sameResolvedProvider (v.snapshot stored) (v.snapshot resolved) = true := by
  intro h
  obtain ⟨resolved, hresolved, hsame⟩ := h sampleCtx sampleCluster sampleCell sampleCell (sampleClass gibi)
    (sampleClass gibiDecimal) _ ((resolveVirtualCluster_ok_iff _ _ _ _).mpr ⟨sample_resolves gibi, rfl⟩) .refl
    (.single sample_classUpdate)
  obtain ⟨-, rfl⟩ := (resolveVirtualCluster_ok_iff _ _ _ _).mp hresolved
  have hhash := (sameResolvedProvider_iff sampleCtx sampleCluster rfl rfl
    (sameClass_of_classUpdate sample_classUpdate)).mp hsame
  exact absurd hhash (by decide +kernel)

/-- The Cell is labelled and the class is written in thousandths, which are printed as before: the snapshot is kept. -/
theorem admitted_updates_no_drift_sample :
    let cell' : Cell := { sampleCell with metadata.labels := AList.singleton "team" "blue" }
    let thousandths : VirtualNodeClass := sampleClass (.milli 1073741824000)
    ∃ resolved, resolveVirtualCluster sampleCtx cell' thousandths = .ok resolved ∧
      sameResolvedProvider (sampleCluster.snapshot (resolvedOf sampleCtx sampleCell (sampleClass gibiDecimal)))
        (sampleCluster.snapshot resolved) = true := by
  have hcell : CellUpdate sampleCell { sampleCell with metadata.labels := AList.singleton "team" "blue" } :=
    ⟨rfl, by decide +kernel⟩
  have hclass : ClassUpdate (sampleClass gibiDecimal) (sampleClass (.milli 1073741824000)) := ⟨rfl, by decide +kernel⟩
  refine (admitted_updates_no_drift_iff sampleCtx sampleCluster sampleCell _ (sampleClass gibiDecimal)
    (sampleClass (.milli 1073741824000)) _
      ((resolveVirtualCluster_ok_iff _ _ _ _).mpr ⟨sample_resolves gibiDecimal, rfl⟩)
    (.single hcell) (.single hclass) fun _ => by decide +kernel).mpr ⟨fun name => ?_, fun key q hq _ hextended => ?_⟩
  · by_cases hname : name ∈ (sampleClass gibiDecimal).spec.workloadHard
    · have hmem : name ∈ ["requests.memory", "limits.memory"] := hname
      simp only [List.mem_cons, List.not_mem_nil, or_false] at hmem
      rcases hmem with rfl | rfl <;> decide +kernel
    · have hname' : name ∉ (sampleClass (.milli 1073741824000)).spec.workloadHard := hname
      rw [AList.lookup_eq_none.mpr hname, AList.lookup_eq_none.mpr hname']
  · have hmem : key ∈ ["requests.memory", "limits.memory"] := AList.lookup_isSome.mp (by rw [hq]; rfl)
    simp only [List.mem_cons, List.not_mem_nil, or_false] at hmem
    rcases hmem with rfl | rfl <;> exact absurd hextended (by decide +kernel)

end KubeCell
