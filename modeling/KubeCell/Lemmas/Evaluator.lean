import KubeCell.Evaluator
import Mathlib.Data.Finset.Card
import Mathlib.Data.Int.Interval

/-!
# When a check fails

The outcome of each check and of the decision, said of the data they look at. None of it depends on the clock or on
the order in which maps are visited.
-/

namespace KubeCell

/-- What a check says, but for its text and its time. -/
def PlanCheck.verdict (check : PlanCheck) : String × CheckStatus × String := (check.name, check.status, check.reason)

theorem PlanCheck.verdict_status (check : PlanCheck) : check.verdict.2.1 = check.status := rfl

namespace EvaluatorAux

@[simp] theorem planCheck_status (rt : Runtime) (name : String) (status : CheckStatus) (reason message : String) :
    (planCheck rt name status reason message).status = status := rfl

/-! ## The decision -/

/-- What the loop comes to: the decision at its start stands when all checks passed. -/
theorem decisionLoop_eq (decision : PlanDecision) (checks : List PlanCheck) :
    decisionLoop decision checks =
      if checks.any (·.status == .failed) then .rejected else if checks.any (·.status == .unknown) then .unknown
        else decision := by
  induction checks generalizing decision with
  | nil => rfl
  | cons check checks ih =>
    rw [decisionLoop, ih]
    cases hstatus : check.status with
    | passed => simp [hstatus]
    | failed => simp [hstatus]
    | unknown =>
      -- overwritten by the same decision, or not at all
      simp [hstatus]

/-- The decision over checks: rejected when one failed, else unknown when one is unknown or there
is none, else accepted. -/
theorem planDecision_eq (checks : List PlanCheck) :
    planDecision checks =
      if checks.any (·.status == .failed) then .rejected
      else if checks.any (·.status == .unknown) || checks.isEmpty then .unknown else .accepted := by
  cases checks with
  | nil => rfl
  | cons check checks =>
    rw [planDecision, List.length_cons, if_neg (Nat.succ_ne_zero _), decisionLoop_eq, List.isEmpty_cons, Bool.or_false]

/-- The decision over checks is rejected when one failed. -/
theorem planDecision_rejected_iff (checks : List PlanCheck) :
    planDecision checks = .rejected ↔ ∃ check ∈ checks, check.status = .failed := by
  rw [planDecision_eq]
  split_ifs with hfailed hunknown <;> simpa using hfailed

/-- The decision over checks is unknown when none failed and one is unknown. -/
theorem planDecision_unknown_iff {checks : List PlanCheck} (hne : checks ≠ []) :
    planDecision checks = .unknown ↔ (∀ check ∈ checks, check.status ≠ .failed) ∧ ∃ check ∈ checks,
      check.status = .unknown := by
  rw [planDecision_eq]
  split_ifs with hfailed hunknown
  · simp only [false_iff, not_and]
    intro hnone
    obtain ⟨check, hcheck, hstatus⟩ := List.any_eq_true.mp hfailed
    exact absurd (beq_iff_eq.mp hstatus) (hnone check hcheck)
  · simp only [true_iff]
    refine ⟨by simpa using hfailed, ?_⟩
    simpa [hne] using hunknown
  · simp only [false_iff, not_and]
    intro _
    simpa [hne] using hunknown

/-- The decision over checks is accepted when each passed. -/
theorem planDecision_accepted_iff {checks : List PlanCheck} (hne : checks ≠ []) :
    planDecision checks = .accepted ↔ ∀ check ∈ checks, check.status = .passed := by
  have hcases : planDecision checks = .accepted ↔ planDecision checks ≠ .rejected ∧ planDecision checks ≠ .unknown := by
    cases planDecision checks <;> simp
  rw [hcases, Ne, planDecision_rejected_iff, Ne, planDecision_unknown_iff hne]
  constructor
  · rintro ⟨hfailed, hunknown⟩ check hcheck
    have hnone : ∀ check ∈ checks, check.status ≠ .failed := fun c hc hstatus => hfailed ⟨c, hc, hstatus⟩
    cases hstatus : check.status with
    | passed => rfl
    | failed => exact absurd hstatus (hnone check hcheck)
    | unknown => exact absurd ⟨hnone, check, hcheck, hstatus⟩ hunknown
  · intro hpassed
    refine ⟨?_, ?_⟩
    · rintro ⟨check, hcheck, hstatus⟩
      simp [hpassed check hcheck] at hstatus
    · rintro ⟨-, check, hcheck, hstatus⟩
      simp [hpassed check hcheck] at hstatus

/-- The checks of an evaluation are those that are made, sorted. -/
theorem checks_eq (Γ : Ctx) (rt : Runtime) (cell : Cell) (virtualNodeClass : VirtualNodeClass) :
    (evaluateVirtualClusterPlan Γ rt cell virtualNodeClass).checks =
      (planChecks Γ rt cell virtualNodeClass).insertionSort fun a b => a.name ≤ b.name := by
  unfold evaluateVirtualClusterPlan finalizePlanEvaluation
  dsimp only
  split <;> rfl

/-- The decision of an evaluation is the one over its checks. -/
theorem decision_eq (Γ : Ctx) (rt : Runtime) (cell : Cell) (virtualNodeClass : VirtualNodeClass) :
    (evaluateVirtualClusterPlan Γ rt cell virtualNodeClass).decision =
      planDecision (evaluateVirtualClusterPlan Γ rt cell virtualNodeClass).checks := by
  rw [checks_eq]
  unfold evaluateVirtualClusterPlan finalizePlanEvaluation
  dsimp only
  split <;> rfl

theorem mem_checks {Γ : Ctx} {rt : Runtime} {cell : Cell} {virtualNodeClass : VirtualNodeClass} {check : PlanCheck} :
    check ∈ (evaluateVirtualClusterPlan Γ rt cell virtualNodeClass).checks ↔
      check ∈ planChecks Γ rt cell virtualNodeClass := by
  rw [checks_eq, List.mem_insertionSort]

/-- There is always a check. -/
theorem checks_ne_nil (Γ : Ctx) (rt : Runtime) (cell : Cell) (virtualNodeClass : VirtualNodeClass) :
    (evaluateVirtualClusterPlan Γ rt cell virtualNodeClass).checks ≠ [] := by
  refine List.ne_nil_of_mem (a := cellAvailabilityCheck rt cell) (mem_checks.mpr ?_)
  unfold planChecks
  split <;> simp

/-- The decision is rejected when a check failed. -/
theorem rejected_iff (Γ : Ctx) (rt : Runtime) (cell : Cell) (virtualNodeClass : VirtualNodeClass) :
    (evaluateVirtualClusterPlan Γ rt cell virtualNodeClass).decision = .rejected ↔
      ∃ check ∈ planChecks Γ rt cell virtualNodeClass, check.status = .failed := by
  rw [decision_eq, planDecision_rejected_iff]
  simp only [mem_checks]

/-- The decision is accepted when every check passed. -/
theorem accepted_iff (Γ : Ctx) (rt : Runtime) (cell : Cell) (virtualNodeClass : VirtualNodeClass) :
    (evaluateVirtualClusterPlan Γ rt cell virtualNodeClass).decision = .accepted ↔
      ∀ check ∈ planChecks Γ rt cell virtualNodeClass, check.status = .passed := by
  rw [decision_eq, planDecision_accepted_iff (checks_ne_nil Γ rt cell virtualNodeClass)]
  simp only [mem_checks]

/-! ## The checks -/

/-- A check that is not decided unless a condition holds. -/
theorem unlessUnknown_verdict (rt : Runtime) (name : String) (holds : Bool) (r m r' m' : String) :
    (unlessUnknown rt name holds r m r' m').verdict = if holds then (name, .passed, r) else (name, .unknown, r') := by
  cases holds <;> rfl

/-- A check that is not decided unless a condition holds does not fail. -/
theorem unlessUnknown_not_failed (rt : Runtime) (name : String) (holds : Bool) (r m r' m' : String) :
    (unlessUnknown rt name holds r m r' m').status ≠ .failed := by
  unfold unlessUnknown
  split_ifs <;> simp

/-- The check of the versions looks at the one that was observed. -/
theorem lockedVersionCheck_verdict (rt : Runtime) (cell : Cell) :
    (lockedVersionCheck rt cell).verdict =
      if cell.status.provider.k3kVersion = "" then ("LockedVersions", .unknown, "VersionNotObserved")
      else if cell.status.provider.k3kVersion ≠ Platform.k3kVersion then ("LockedVersions", .failed,
        "UnsupportedVersionProfile")
      else ("LockedVersions", .passed, "LockedVersionProfile") := by
  unfold lockedVersionCheck
  dsimp only
  split_ifs <;> rfl

/-- A check of capacity looks at values. -/
theorem capacityCheck_verdict (rt : Runtime) (name : String) (inventory : InventoryStatus) (required : Quantity) :
    (capacityCheck rt name inventory required).verdict =
      if inventory.allocatable.value = 0 ∧ inventory.availableEstimate.value = 0 then
        (name, .unknown, "InventoryMissing")
      else if inventory.availableEstimate.value < required.value then (name, .failed, "InsufficientCapacity")
      else (name, .passed, "CapacityAvailable") := by
  unfold capacityCheck
  split_ifs <;> rfl

/-- A check of capacity fails when something can be had and less is available than required. -/
theorem capacityCheck_failed_iff (rt : Runtime) (name : String) (inventory : InventoryStatus) (required : Quantity) :
    (capacityCheck rt name inventory required).status = .failed ↔
      ¬(inventory.allocatable.value = 0 ∧ inventory.availableEstimate.value = 0) ∧
        inventory.availableEstimate.value < required.value := by
  unfold capacityCheck
  split_ifs with h₁ h₂
  · simp [h₁]
  · simp [h₁, h₂]
  · simp [h₂]

/-- A check of capacity passes when something can be had and no less is available than required. -/
theorem capacityCheck_passed_iff (rt : Runtime) (name : String) (inventory : InventoryStatus) (required : Quantity) :
    (capacityCheck rt name inventory required).status = .passed ↔
      ¬(inventory.allocatable.value = 0 ∧ inventory.availableEstimate.value = 0) ∧
        required.value ≤ inventory.availableEstimate.value := by
  unfold capacityCheck
  split_ifs with h₁ h₂
  · simp [h₁]
  · simp [h₁, h₂]
  · simp [h₁, not_lt.mp h₂]

/-- The request for a resource is the quota for it. -/
theorem lookup_entitlementRequests (hard : ResourceList) (name : String) :
    AList.lookup name (entitlementRequests hard) = AList.lookup ("requests." ++ name) hard := by
  have hloop : ∀ (l : List (Sigma fun _ : String => Quantity)) (result : ResourceList), l.NodupKeys →
      AList.lookup name (l.foldl (fun result e =>
        let trimmed := cutPrefix e.1 "requests."
        if trimmed = e.1 then result else result.insert trimmed e.2) result) =
      (l.dlookup ("requests." ++ name)).or (AList.lookup name result) := by
    intro l
    induction l with
    | nil => exact fun _ _ => rfl
    | cons e l ih =>
      intro result hnodup
      obtain ⟨key, q⟩ := e
      obtain ⟨hfresh, hnodup'⟩ := List.nodupKeys_cons.mp hnodup
      rw [List.foldl_cons, ih _ hnodup']
      dsimp only
      by_cases hkey : "requests." ++ name = key
      · subst hkey
        rw [if_neg (cutPrefix_append_ne (by decide) name), cutPrefix_append, List.dlookup_eq_none.mpr hfresh,
          List.dlookup_cons_eq]
        simp
      · rw [List.dlookup_cons_ne _ _ hkey]
        congr 1
        split_ifs with htrim
        · rfl
        · refine AList.lookup_insert_ne fun hname => hkey ?_
          rw [hname]
          exact append_cutPrefix (hasPrefix_of_cutPrefix_ne htrim)
  have hentries := hloop hard.entries ∅ hard.nodupKeys
  rw [AList.lookup_empty, Option.or_none] at hentries
  exact hentries

/-- The quantity that is requested of a resource. -/
theorem qty_entitlementRequests {hard : ResourceList} {name : String} {q : Quantity}
    (hq : AList.lookup ("requests." ++ name) hard = some q) :
    (entitlementRequests hard).qty name = q := by
  rw [ResourceList.qty, lookup_entitlementRequests, hq, Option.getD_some]

/-- The request for a device is the entitlement to it, for the devices of the profile only. -/
theorem lookup_acceleratorRequests (cell : Cell) (virtualNodeClass : VirtualNodeClass) (name : String) (q : Quantity) :
    AList.lookup name (acceleratorRequests cell virtualNodeClass) = some q ↔
      (∃ device ∈ cell.spec.machineProfile.devices, device.resourceName = name) ∧
        q = (entitlementRequests virtualNodeClass.spec.workloadHard).qty name := by
  have hloop : ∀ (devices : List DeviceContract) (result : ResourceList),
      AList.lookup name (devices.foldl (fun result contract => result.insert contract.resourceName
        ((entitlementRequests virtualNodeClass.spec.workloadHard).qty contract.resourceName)) result) =
      if ∃ device ∈ devices, device.resourceName = name then
        some ((entitlementRequests virtualNodeClass.spec.workloadHard).qty name)
      else AList.lookup name result := by
    intro devices
    induction devices with
    | nil => simp
    | cons device devices ih =>
      intro result
      rw [List.foldl_cons, ih]
      by_cases hrest : ∃ device ∈ devices, device.resourceName = name
      · rw [if_pos hrest, if_pos (by simpa using Or.inr hrest)]
      · rw [if_neg hrest]
        by_cases hname : device.resourceName = name
        · subst hname
          rw [if_pos (by simp), AList.lookup_insert]
        · rw [if_neg (by simpa [hname] using hrest), AList.lookup_insert_ne (Ne.symm hname)]
  rw [acceleratorRequests, hloop]
  split_ifs with h
  · rw [Option.some.injEq, eq_comm]
    exact ⟨fun hq => ⟨h, hq⟩, fun hq => hq.2⟩
  · simp [h]

/-- Every request is covered by some node, if it is one. -/
def AllCovered (nodes : List CellNodeStatus) (requests : List (String × Quantity)) : Prop :=
  ∀ e ∈ requests, e.2.value ≠ 0 → ∃ node ∈ nodes, nodeCovers e.1 e.2 node = true

instance (nodes : List CellNodeStatus) (requests : List (String × Quantity)) : Decidable (AllCovered nodes requests) :=
  inferInstanceAs (Decidable (∀ e ∈ requests, e.2.value ≠ 0 → ∃ node ∈ nodes, nodeCovers e.1 e.2 node = true))

theorem allCovered_cons (nodes : List CellNodeStatus) (name : String) (required : Quantity)
    (requests : List (String × Quantity)) :
    AllCovered nodes ((name, required) :: requests) ↔
      (required.value ≠ 0 → nodes.any (nodeCovers name required) = true) ∧ AllCovered nodes requests := by
  simp only [AllCovered, List.forall_mem_cons, List.any_eq_true]

/-- The loop over accelerators: whichever request it stops at, it stops with the same verdict. -/
theorem acceleratorLoop_verdict (rt : Runtime) (nodes : List CellNodeStatus) (requests : List (String × Quantity)) :
    (acceleratorLoop rt nodes requests).verdict =
      if AllCovered nodes requests then ("Accelerators", .passed, "LocalCapacityAvailable")
      else if nodes = [] then ("Accelerators", .unknown, "ProfileLocalityUnknown")
      else ("Accelerators", .failed, "InsufficientLocalCapacity") := by
  induction requests with
  | nil => exact (if_pos (show AllCovered nodes [] from nofun)).symm
  | cons e requests ih =>
    obtain ⟨name, required⟩ := e
    unfold acceleratorLoop
    simp only [allCovered_cons]
    split_ifs with hzero hcovers hempty <;> simp_all [PlanCheck.verdict, planCheck]

/-- The loop over accelerators fails when there is a node and some request is covered by none. -/
theorem acceleratorLoop_failed_iff (rt : Runtime) (nodes : List CellNodeStatus) (requests : List (String × Quantity)) :
    (acceleratorLoop rt nodes requests).status = .failed ↔ nodes ≠ [] ∧ ¬AllCovered nodes requests := by
  rw [← PlanCheck.verdict_status, acceleratorLoop_verdict]
  split_ifs <;> simp [*]

/-- The loop over accelerators passes when every request is covered by some node. -/
theorem acceleratorLoop_passed_iff (rt : Runtime) (nodes : List CellNodeStatus) (requests : List (String × Quantity)) :
    (acceleratorLoop rt nodes requests).status = .passed ↔ AllCovered nodes requests := by
  rw [← PlanCheck.verdict_status, acceleratorLoop_verdict]
  split_ifs with hcovered hempty <;> simp [hcovered]

/-- The quota check: whichever request without an equal limit it stops at, it stops with the same verdict. -/
theorem hostQuotaCheck_verdict (rt : Runtime) (virtualNodeClass : VirtualNodeClass) :
    (hostQuotaCheck rt virtualNodeClass).verdict =
      if virtualNodeClass.spec.workloadHard.entries.any fun e =>
        lacksEqualLimit virtualNodeClass.spec.workloadHard (e.1, e.2) then
        ("HostQuota", .failed, "QuotaContractInvalid")
      else ("HostQuota", .passed, "QuotaContractValid") := by
  have hany : (virtualNodeClass.spec.workloadHard.entries.any fun e =>
    lacksEqualLimit virtualNodeClass.spec.workloadHard (e.1, e.2)) =
      ((rt.range virtualNodeClass.spec.workloadHard).find?
        (lacksEqualLimit virtualNodeClass.spec.workloadHard)).isSome := by
    rw [Bool.eq_iff_iff, rt.find?_range_isSome, List.any_eq_true]
    constructor
    · rintro ⟨e, he, hlacks⟩
      exact ⟨e.1, e.2, AList.mem_lookup_iff.mpr he, hlacks⟩
    · rintro ⟨key, q, hq, hlacks⟩
      exact ⟨⟨key, q⟩, AList.mem_lookup_iff.mp hq, hlacks⟩
  rw [hany]
  unfold hostQuotaCheck
  cases (rt.range virtualNodeClass.spec.workloadHard).find? (lacksEqualLimit virtualNodeClass.spec.workloadHard) <;> rfl

/-- The quota check passes when every request has an equal limit. -/
theorem hostQuotaCheck_passed_iff (rt : Runtime) (virtualNodeClass : VirtualNodeClass) :
    (hostQuotaCheck rt virtualNodeClass).status = .passed ↔
      ∀ key q, AList.lookup key virtualNodeClass.spec.workloadHard = some q →
        lacksEqualLimit virtualNodeClass.spec.workloadHard (key, q) = false := by
  rw [← PlanCheck.verdict_status, hostQuotaCheck_verdict]
  split_ifs with hany
  · simp only [false_iff, not_forall]
    obtain ⟨e, he, hlacks⟩ := List.any_eq_true.mp hany
    exact ⟨e.1, e.2, AList.mem_lookup_iff.mpr he, by simp [hlacks]⟩
  · simp only [true_iff]
    intro key q hq
    by_contra hlacks
    exact hany (List.any_eq_true.mpr ⟨⟨key, q⟩, AList.mem_lookup_iff.mp hq, by simpa using hlacks⟩)

/-- Some node is known to have free capacity of a class. -/
def hasFreeNode (storage : StorageInventoryStatus) : Bool :=
  storage.nodes.entries.any fun e => e.2.freeCapacityKnown && e.2.fresh && e.2.freeCapacity.any fun q =>
    decide (q.value > 0)

/-- The storage check: whichever node with free capacity it stops at, it stops with the same verdict. -/
theorem storageCheck_verdict (rt : Runtime) (cell : Cell) (virtualNodeClass : VirtualNodeClass) :
    (storageCheck rt cell virtualNodeClass).verdict =
      match AList.lookup virtualNodeClass.spec.storageClassName cell.status.storageInventory with
      | none => ("TopoLVM", .unknown, "PhysicalCapacityUnknown")
      | some storage =>
        if !storage.freeCapacityKnown || !storage.fresh || storage.freeCapacity.isNone then
          ("TopoLVM", .unknown, "PhysicalCapacityUnknown")
        else if hasFreeNode storage then ("TopoLVM", .passed, "StorageLocalityAvailable")
        else ("TopoLVM", .unknown, "StorageLocalityUnknown") := by
  unfold storageCheck
  dsimp only
  cases AList.lookup virtualNodeClass.spec.storageClassName cell.status.storageInventory with
  | none => rfl
  | some storage =>
    have hany : ((rt.range storage.nodes).any fun e =>
        e.2.freeCapacityKnown && e.2.fresh && e.2.freeCapacity.any fun q => decide (q.value > 0)) =
          hasFreeNode storage := by
      rw [hasFreeNode, Bool.eq_iff_iff, List.any_eq_true, List.any_eq_true]
      constructor
      · rintro ⟨⟨name, node⟩, hnode, hfree⟩
        exact ⟨⟨name, node⟩, AList.mem_lookup_iff.mp ((rt.mem_range _ _ _).mp hnode), hfree⟩
      · rintro ⟨e, he, hfree⟩
        exact ⟨(e.1, e.2), (rt.mem_range _ _ _).mpr (AList.mem_lookup_iff.mpr he), hfree⟩
    dsimp only
    rw [hany]
    split_ifs <;> rfl

/-- The ports of the range that are taken. -/
def usedPorts (cell : Cell) : List Int :=
  (cell.status.nodePorts.allocated.filter fun port =>
    decide (Platform.nodePortMin ≤ port ∧ port ≤ Platform.nodePortMax)).dedup

/-- The node port check looks at whether the ports are known, and how many of the range are taken. -/
theorem nodePortCheck_verdict (rt : Runtime) (cell : Cell) :
    (nodePortCheck rt cell).verdict =
      if !cell.status.nodePorts.fresh then ("NodePort", .unknown, "NodePortInventoryStale")
      else if ((usedPorts cell).length : Int) ≥ Platform.nodePortMax - Platform.nodePortMin + 1 then
        ("NodePort", .failed, "NodePortRangeExhausted")
      else ("NodePort", .passed, "NodePortAvailable") := by
  unfold nodePortCheck usedPorts
  dsimp only
  split_ifs <;> rfl

/-- A list has as many different members of a set as the set has exactly when it has all of them. -/
theorem card_le_length_dedup_iff {α : Type} [DecidableEq α] (s : Finset α) (l : List α) :
    s.card ≤ (l.filter (· ∈ s)).dedup.length ↔ ∀ x ∈ s, x ∈ l := by
  have hsubset : (l.filter (· ∈ s)).toFinset ⊆ s := by
    intro x hx
    simpa using (List.mem_filter.mp (List.mem_toFinset.mp hx)).2
  rw [← List.card_toFinset]
  constructor
  · intro hcard x hx
    rw [← Finset.eq_of_subset_of_card_le hsubset hcard, List.mem_toFinset] at hx
    exact (List.mem_filter.mp hx).1
  · intro hall
    refine Finset.card_le_card fun x hx => ?_
    exact List.mem_toFinset.mpr (List.mem_filter.mpr ⟨hall x hx, by simpa using hx⟩)

/-- The range is full when every port of it is allocated. -/
theorem usedPorts_full_iff (cell : Cell) :
    ((usedPorts cell).length : Int) ≥ Platform.nodePortMax - Platform.nodePortMin + 1 ↔
    ∀ port, Platform.nodePortMin ≤ port → port ≤ Platform.nodePortMax → port ∈ cell.status.nodePorts.allocated := by
  have hused : usedPorts cell =
      (cell.status.nodePorts.allocated.filter (· ∈ Finset.Icc Platform.nodePortMin Platform.nodePortMax)).dedup := by
    simp only [usedPorts, Finset.mem_Icc]
  have hcard : ((Finset.Icc Platform.nodePortMin Platform.nodePortMax).card : Int) =
    Platform.nodePortMax - Platform.nodePortMin + 1 := by
    rw [Int.card_Icc]
    rfl
  rw [hused, ge_iff_le, ← hcard, Nat.cast_le, card_le_length_dedup_iff]
  simp only [Finset.mem_Icc, and_imp]

/-- The node port check fails when the ports are known, and all of the range are allocated. -/
theorem nodePortCheck_failed_iff (rt : Runtime) (cell : Cell) : (nodePortCheck rt cell).status = .failed ↔
    cell.status.nodePorts.fresh = true ∧
      ∀ port, Platform.nodePortMin ≤ port → port ≤ Platform.nodePortMax → port ∈ cell.status.nodePorts.allocated := by
  rw [← PlanCheck.verdict_status, nodePortCheck_verdict, ← usedPorts_full_iff]
  split_ifs with hstale hfull <;> simp_all

/-- The node port check passes when the ports are known, and one of the range is free. -/
theorem nodePortCheck_passed_iff (rt : Runtime) (cell : Cell) : (nodePortCheck rt cell).status = .passed ↔
    cell.status.nodePorts.fresh = true ∧
      ∃ port, Platform.nodePortMin ≤ port ∧ port ≤ Platform.nodePortMax ∧ port ∉ cell.status.nodePorts.allocated := by
  have hfree : (∃ port, Platform.nodePortMin ≤ port ∧ port ≤ Platform.nodePortMax ∧
    port ∉ cell.status.nodePorts.allocated) ↔
      ¬((usedPorts cell).length : Int) ≥ Platform.nodePortMax - Platform.nodePortMin + 1 := by
    rw [usedPorts_full_iff]
    push Not
    rfl
  rw [← PlanCheck.verdict_status, nodePortCheck_verdict, hfree]
  split_ifs with hstale hfull <;> simp_all

end EvaluatorAux
end KubeCell
