import KubeCell.Lemmas.CellRuns
import KubeCell.Lemmas.Evaluator
import KubeCell.Theorems.CellStatus

/-!
# How old the inventory is

An evaluation reports a time for the inventory it has used. What it reports is the time of its own check, while the
nodes, the storage and the node ports of the Cell carry the times at which they were observed.
-/

namespace KubeCell

open CellWalkAux EvaluatorAux

/-- The times at which parts of the inventory were observed; a time that was never set is none. -/
def CellStatus.observationTimes (status : CellStatus) : List Time :=
  (status.nodes.map (·.observedAt) ++ status.storageInventory.entries.map (·.2.observedAt) ++
    [status.nodePorts.observedAt]).filter (· ≠ 0)

/-- If the evaluation reports a fresh inventory with a time, no part of the inventory was observed before that time. -/
def DatesInventory (evaluation : PlanEvaluation) (status : CellStatus) : Prop :=
  evaluation.inventoryFresh = true → ∀ observed, evaluation.inventoryObservedAt = some observed →
    ∀ time ∈ status.observationTimes, observed ≤ time

namespace DatedAux

/-! ## The time of a check -/

section

variable (rt : Runtime) (cell : Cell) (virtualNodeClass : VirtualNodeClass)

/-- A check of a name, made at the time of the evaluation. -/
def MadeAs (name : String) (check : PlanCheck) : Prop := check.name = name ∧ check.observedAt = rt.now

/-- A check is dated at the time of the evaluation. -/
theorem madeAs_planCheck (name : String) (status : CheckStatus) (reason message : String) :
    MadeAs rt name (planCheck rt name status reason message) := ⟨rfl, rfl⟩

/-- So is one that may be unknown. -/
theorem madeAs_unlessUnknown (name : String) (holds : Bool) (r m r' m' : String) :
    MadeAs rt name (unlessUnknown rt name holds r m r' m') := by
  rw [unlessUnknown]
  split_ifs <;> exact madeAs_planCheck ..

/-- So is that of the versions. -/
theorem madeAs_lockedVersionCheck : MadeAs rt "LockedVersions" (lockedVersionCheck rt cell) := by
  rw [lockedVersionCheck]
  split_ifs <;> exact madeAs_planCheck ..

/-- So is that of the capacity. -/
theorem madeAs_capacityCheck (name : String) (inventory : InventoryStatus) (required : Quantity) :
    MadeAs rt name (capacityCheck rt name inventory required) := by
  rw [capacityCheck]
  split_ifs <;> exact madeAs_planCheck ..

/-- So is that of the accelerators, wherever its loop stops. -/
theorem madeAs_acceleratorLoop (nodes : List CellNodeStatus) (requests : List (String × Quantity)) :
    MadeAs rt "Accelerators" (acceleratorLoop rt nodes requests) := by
  induction requests with
  | nil => exact madeAs_planCheck ..
  | cons request requests ih =>
    rw [acceleratorLoop]
    split_ifs
    · exact ih
    · exact ih
    · exact madeAs_planCheck ..
    · exact madeAs_planCheck ..

/-- So is that of the host quota. -/
theorem madeAs_hostQuotaCheck : MadeAs rt "HostQuota" (hostQuotaCheck rt virtualNodeClass) := by
  rw [hostQuotaCheck]
  split <;> exact madeAs_planCheck ..

/-- So is that of the storage. -/
theorem madeAs_storageCheck : MadeAs rt "TopoLVM" (storageCheck rt cell virtualNodeClass) := by
  rw [storageCheck]
  split
  · exact madeAs_planCheck ..
  · split_ifs <;> exact madeAs_planCheck ..

theorem madeAs_nodePortCheck : MadeAs rt "NodePort" (nodePortCheck rt cell) := by
  rw [nodePortCheck]
  by_cases hfresh : (!cell.status.nodePorts.fresh) = true
  · rw [if_pos hfresh]
    exact madeAs_planCheck ..
  · rw [if_neg hfresh]
    dsimp only
    split_ifs <;> exact madeAs_planCheck ..

/-- Every check is made at the time of the evaluation, and one of them is the check of the inventory. -/
theorem check_of_mem {check : PlanCheck} (h : check ∈ planChecks Γ rt cell virtualNodeClass) :
    check.observedAt = rt.now ∧ (check.name = "InventoryFresh" → check = inventoryFreshnessCheck rt cell) := by
  -- a check that is made under another name is not the one of the inventory
  have hother : ∀ {name}, name ≠ "InventoryFresh" → ∀ {check}, MadeAs rt name check →
      check.observedAt = rt.now ∧ (check.name = "InventoryFresh" → check = inventoryFreshnessCheck rt cell) := by
    intro name hname check hmade
    exact ⟨hmade.2, fun heq => absurd (hmade.1.symm.trans heq) hname⟩
  have hgeneral : ∀ {check}, check ∈
    [cellAvailabilityCheck rt cell, leaseFreshnessCheck rt cell, hostBaselineCheck rt cell,
      inventoryFreshnessCheck rt cell, lockedVersionCheck rt cell] →
      check.observedAt = rt.now ∧ (check.name = "InventoryFresh" → check = inventoryFreshnessCheck rt cell) := by
    intro check hcheck
    simp only [List.mem_cons, List.not_mem_nil, or_false] at hcheck
    rcases hcheck with rfl | rfl | rfl | rfl | rfl
    · exact hother (by decide) (madeAs_unlessUnknown rt "CellAvailable" ..)
    · exact hother (by decide) (madeAs_unlessUnknown rt "OCMLeaseFresh" ..)
    · exact hother (by decide) (madeAs_unlessUnknown rt "HostBaseline" ..)
    · exact ⟨(madeAs_unlessUnknown rt "InventoryFresh" ..).2, fun _ => rfl⟩
    · exact hother (by decide) (madeAs_lockedVersionCheck rt cell)
  rw [planChecks] at h
  cases hresolved : resolveVirtualCluster Γ cell virtualNodeClass with
  | error e =>
    rw [hresolved] at h
    rcases List.mem_cons.mp h with rfl | h
    · exact hother (by decide) (madeAs_planCheck rt "ResolvedProfile" ..)
    · exact hgeneral h
  | ok resolved =>
    rw [hresolved] at h
    rcases List.mem_append.mp h with h | h
    · rcases List.mem_append.mp h with h | h
      · rcases List.mem_cons.mp h with rfl | h
        · exact hother (by decide) (madeAs_planCheck rt "ResolvedProfile" ..)
        · exact hgeneral h
      · rcases List.mem_append.mp h with h | h
        · obtain ⟨name, hname, rfl⟩ := List.mem_map.mp h
          have hdecided : ∀ name ∈ baseResources, nameToPlanCheck name ≠ "InventoryFresh" := by decide
          exact hother (hdecided name hname) (madeAs_capacityCheck ..)
        · obtain rfl := List.mem_singleton.mp h
          exact hother (by decide) (madeAs_acceleratorLoop ..)
    · simp only [List.mem_cons, List.not_mem_nil, or_false] at h
      rcases h with rfl | rfl | rfl
      · exact hother (by decide) (madeAs_hostQuotaCheck ..)
      · exact hother (by decide) (madeAs_storageCheck ..)
      · exact hother (by decide) (madeAs_nodePortCheck ..)

/-- The check of the inventory is made. -/
theorem inventoryFreshnessCheck_mem : inventoryFreshnessCheck rt cell ∈ planChecks Γ rt cell virtualNodeClass := by
  rw [planChecks]
  split <;> simp

/-- What an evaluation reports of the inventory: it is fresh when the Cell says so, and the time is
that of the evaluation. -/
theorem evaluation_inventory (Γ : Ctx) :
    ((evaluateVirtualClusterPlan Γ rt cell virtualNodeClass).inventoryFresh = true ↔
      conditionTrue cell.status.conditions "InventoryFresh" = true) ∧
    ((evaluateVirtualClusterPlan Γ rt cell virtualNodeClass).inventoryFresh = true →
      (evaluateVirtualClusterPlan Γ rt cell virtualNodeClass).inventoryObservedAt = some rt.now) := by
  rw [evaluateVirtualClusterPlan, finalizePlanEvaluation]
  dsimp only
  cases hfound : ((planChecks Γ rt cell virtualNodeClass).insertionSort fun a b => a.name ≤ b.name).find? fun check =>
      check.name == "InventoryFresh" && check.status == .passed with
  | some check =>
    have hmem := List.mem_of_find?_eq_some hfound
    rw [List.mem_insertionSort] at hmem
    obtain ⟨hnow, hcheck⟩ := check_of_mem rt cell virtualNodeClass hmem
    have hboth := List.find?_some hfound
    simp only [Bool.and_eq_true, beq_iff_eq] at hboth
    refine ⟨iff_of_true rfl ?_, fun _ => congrArg some hnow⟩
    rw [← CellStatusAux.inventoryFreshnessCheck_passed_iff rt, ← hcheck hboth.1]
    exact hboth.2
  | none =>
    refine ⟨iff_of_false nofun fun hfresh => ?_, nofun⟩
    rw [List.find?_eq_none] at hfound
    have hnot := hfound (inventoryFreshnessCheck rt cell)
      ((List.mem_insertionSort _).mpr (inventoryFreshnessCheck_mem rt cell virtualNodeClass))
    rw [← CellStatusAux.inventoryFreshnessCheck_passed_iff rt] at hfresh
    have hname : (inventoryFreshnessCheck rt cell).name = "InventoryFresh" :=
      (madeAs_unlessUnknown rt "InventoryFresh" ..).1
    simp [hname, hfresh] at hnot

end

/-! ## The times of a status -/

/-- No part of the inventory was observed after a time. -/
structure Dated (t : Time) (status : CellStatus) : Prop where
  nodes : ∀ node ∈ status.nodes, node.observedAt ≤ t
  storage : ∀ name entry, AList.lookup name status.storageInventory = some entry → entry.observedAt ≤ t
  nodePorts : status.nodePorts.observedAt ≤ t

/-- A storage inventory that was not observed after a time. -/
def StorageDated (t : Time) (inventory : GoMap StorageInventoryStatus) : Prop :=
  ∀ name entry, AList.lookup name inventory = some entry → entry.observedAt ≤ t

section

variable {Γ : Ctx} {rt : Runtime} {t : Time}

/-- An entry that is not of the future may be added. -/
theorem StorageDated.insert {inventory : GoMap StorageInventoryStatus} (h : StorageDated t inventory) (name : String)
    {entry : StorageInventoryStatus} (hentry : entry.observedAt ≤ t) :
    StorageDated t (inventory.insert name entry) := by
  intro name' entry' hlookup
  by_cases hname : name' = name
  · subst hname
    rw [AList.lookup_insert, Option.some.injEq] at hlookup
    exact hlookup ▸ hentry
  · rw [AList.lookup_insert_ne hname] at hlookup
    exact h name' entry' hlookup

/-- An entry that is not there has no time. -/
theorem StorageDated.getD {inventory : GoMap StorageInventoryStatus} (h : StorageDated t inventory) (name : String) :
    ((AList.lookup name inventory).getD {}).observedAt ≤ t := by
  cases hlookup : AList.lookup name inventory with
  | none => exact Nat.zero_le t
  | some entry => exact h name entry hlookup

/-- The storage that is counted in a round is dated in that round. -/
theorem storageAccount_dated (hnow : rt.now ≤ t) (pvs : List PersistentVolume) (classByName : GoMap StorageClass)
    (nodes : List Node) (eligible : List String) :
    StorageDated t (storageAccount Γ rt pvs classByName nodes eligible).inventory := by
  have hempty : StorageDated t (emptyStorage rt classByName) :=
    List.foldlRecOn (motive := StorageDated t) _ _ (fun name entry hlookup => nomatch hlookup)
      fun inventory hinventory e _ => hinventory.insert _ hnow
  have hvolumes : StorageDated t (pvs.foldl (addVolume classByName) (emptyStorage rt classByName)) := by
    refine List.foldlRecOn (motive := StorageDated t) _ _ hempty fun inventory hinventory pv _ => ?_
    rw [addVolume]
    split_ifs
    · exact hinventory
    · exact hinventory.insert _ (hinventory.getD _)
  refine List.foldlRecOn (motive := fun account : StorageAccount => StorageDated t account.inventory) _ _ hvolumes
    fun account haccount node _ => ?_
  refine List.foldlRecOn (motive := fun account : StorageAccount => StorageDated t account.inventory) _ _ haccount
    fun account haccount e _ => ?_
  rw [addStorageCapacity]
  split
  · exact haccount
  · exact haccount.insert _ (haccount.getD _)

/-- The storage inventory is not of the future. -/
theorem projectStorageInventory_dated (hnow : rt.now ≤ t) (reader : StorageReader) (nodes : List Node)
    (statuses : List CellNodeStatus) :
    StorageDated t (projectStorageInventory Γ rt reader nodes statuses).inventory := by
  have hnone : StorageDated t ∅ := fun name entry hlookup => nomatch hlookup
  unfold projectStorageInventory
  rcases reader.persistentVolumes with e | pvs
  · exact hnone
  rcases reader.persistentVolumeClaims with e | claims
  · exact hnone
  rcases reader.storageClasses with e | classes
  · exact hnone
  dsimp only
  have haccount : StorageDated t
    (storageAccount Γ rt pvs (topolvmClasses classes) nodes (eligibleNodes statuses)).inventory :=
    storageAccount_dated hnow pvs _ nodes _
  split
  · exact haccount
  · rename_i name entry hfound
    have hentry := (rt.mem_range _ _ _).mp (List.mem_of_find?_eq_some hfound)
    exact haccount.insert _ (haccount name entry hentry)

/-- The nodes that are projected in a round are dated in that round. -/
theorem projectNodes_dated (hnow : rt.now ≤ t) {cell : Cell} (h : Dated t cell.status) (nodes : List Node)
    (pods : Option (List Pod)) (names : List String) : Dated t (projectNodes rt cell nodes pods names).status where
  nodes status hstatus := by
    rw [projectNodes, sortNodes, List.mem_insertionSort] at hstatus
    obtain ⟨node, -, rfl⟩ := List.mem_map.mp hstatus
    rw [nodeStatus]
    split_ifs <;> exact hnow
  storage name entry hlookup := nomatch hlookup
  nodePorts := h.nodePorts

/-- So is the whole inventory. -/
theorem projectInventory_dated (hnow : rt.now ≤ t) {cell : Cell} (h : Dated t cell.status) (reader : InventoryReader)
    (nodes : List Node) (pods : Option (List Pod)) (names : List String) :
    Dated t (projectInventory Γ rt cell reader nodes pods names).1.status := by
  have hnodes := projectNodes_dated hnow h nodes pods names
  rw [projectInventory]
  dsimp only
  split_ifs
  · exact ⟨hnodes.nodes, hnodes.storage, hnodes.nodePorts⟩
  · cases reader.storage with
    | none => exact ⟨hnodes.nodes, hnodes.storage, hnodes.nodePorts⟩
    | some storage =>
      have hstorage := projectStorageInventory_dated (Γ := Γ) hnow storage nodes
        (projectNodes rt cell nodes pods names).status.nodes
      dsimp only
      cases (projectStorageInventory Γ rt storage nodes
        (projectNodes rt cell nodes pods names).status.nodes).failure with
      | some failure => exact ⟨hnodes.nodes, hstorage, hnodes.nodePorts⟩
      | none =>
        cases reader.services with
        | none => exact ⟨hnodes.nodes, hstorage, hnow⟩
        | some services =>
          cases services with
          | error e => exact ⟨hnodes.nodes, hstorage, hnow⟩
          | ok services => exact ⟨hnodes.nodes, hstorage, hnow⟩

/-- Nor is a status with what a source has projected. -/
theorem projectSource_dated (hnow : rt.now ≤ t) {cell : Cell} (h : Dated t cell.status) (source : InventorySource)
    (names : List String) :
    Dated t (projectSource Γ rt cell source names).1.status := by
  have hkept : ∀ e : Err, Dated t (cell.setCondition rt "InventoryFresh" .false "HostReadFailed" e.message).status :=
    fun e => ⟨h.nodes, h.storage, h.nodePorts⟩
  rw [projectSource]
  cases source.nodes with
  | error e => exact hkept e
  | ok nodes =>
    cases source.pods with
    | none => exact projectInventory_dated hnow h ..
    | some pods =>
      cases pods with
      | error e => exact hkept e
      | ok pods => exact projectInventory_dated hnow h ..

/-- The end of a round leaves the times alone. -/
theorem settled_dated {cell : Cell} (h : Dated t cell.status) (connection : Connection)
    (providerReady inventoryReady : Bool) :
    Dated t (cell.settled rt connection providerReady inventoryReady).status := by
  rw [Cell.settled]
  dsimp only
  split_ifs <;> exact ⟨h.nodes, h.storage, h.nodePorts⟩

/-- Rounds whose clocks are not after a time observe nothing after it. -/
theorem dated_kept (Γ : Ctx) (t : Time) : KeptByExits Γ (fun rt => rt.now ≤ t) (Dated t) where
  empty := ⟨fun node hnode => (nomatch hnode), fun name entry hlookup => (nomatch hlookup), Nat.zero_le t⟩
  exit := by
    intro rt cell h status hnow hdated hexit
    have hprobed : ∀ {probed connection providerReady}, Probed cell probed connection providerReady →
      Dated t probed.status := by
      intro probed connection providerReady hprobed
      obtain ⟨hnodes, hstorage, hports⟩ := hprobed.inventory
      exact ⟨hnodes ▸ hdated.nodes, hstorage ▸ hdated.storage, hports ▸ hdated.nodePorts⟩
    cases hexit with
    | missing => exact ⟨hdated.nodes, hdated.storage, hdated.nodePorts⟩
    | unlisted h' =>
      have hkept := hprobed h'
      exact ⟨hkept.nodes, hkept.storage, hkept.nodePorts⟩
    | @settled _ e probed surveyed connection providerReady inventoryReady h' _ _ hsurveyed =>
      refine settled_dated ?_ connection providerReady inventoryReady
      generalize houtcome : (surveyed, inventoryReady) = outcome at hsurveyed
      cases hsurveyed with
      | unread =>
        cases houtcome
        have hkept := hprobed h'
        exact ⟨hkept.nodes, hkept.storage, hkept.nodePorts⟩
      | read source =>
        have hsource := projectSource_dated (Γ := Γ) hnow (hprobed h') source
        rw [show surveyed = (surveyed, inventoryReady).1 from rfl, houtcome]
        exact hsource _
  blocked := fun _ hdated => ⟨hdated.nodes, hdated.storage, hdated.nodePorts⟩

/-- The times of a dated status are not after the time. -/
theorem Dated.le {status : CellStatus} (h : Dated t status) {time : Time}
    (htime : time ∈ status.observationTimes) : time ≤ t := by
  rw [CellStatus.observationTimes, List.mem_filter, List.mem_append, List.mem_append] at htime
  obtain ⟨(hnode | hstorage) | hports, -⟩ := htime
  · obtain ⟨node, hmem, rfl⟩ := List.mem_map.mp hnode
    exact h.nodes node hmem
  · obtain ⟨e, he, rfl⟩ := List.mem_map.mp hstorage
    exact h.storage e.1 e.2 (AList.mem_lookup_iff.mpr he)
  · rw [List.mem_singleton.mp hports]
    exact h.nodePorts

end

end DatedAux

open CellRunsAux DatedAux

/-- After rounds for a Cell whose clocks are not after a time, an evaluation at that time never dates old inventory as
new, exactly when the Cell does not say that its inventory is fresh or all of it was observed at that very time. -/
theorem inventory_dated_iff (Γ : Ctx) (cfg : CellConfig) (key : NamespacedName) (env : World → World → Prop)
    (t : Time) (henv : ∀ w w', env w w' → CellStatusKept key w w')
    {s : Sys World Event Call Call.Res (Except Err Result)}
    (hs : Sys.Reachable (clockedCellSystem Γ cfg key env fun rt => rt.now ≤ t) (StoredStatus (Dated t) key) s)
    {cell : Cell} (hcell : s.world.cells.find key = some cell) (rt : Runtime) (hnow : rt.now = t)
    (virtualNodeClass : VirtualNodeClass) :
    DatesInventory (evaluateVirtualClusterPlan Γ rt cell virtualNodeClass) cell.status ↔
      (conditionTrue cell.status.conditions "InventoryFresh" = true →
        ∀ time ∈ cell.status.observationTimes, time = t) := by
  have hdated : Dated t cell.status := (holds_of_reachable (dated_kept Γ t) henv hs).1 cell hcell
  obtain ⟨hfresh, hobserved⟩ := evaluation_inventory rt cell virtualNodeClass Γ
  constructor
  · intro h hcondition time htime
    have hreported := hfresh.mpr hcondition
    have hle := h hreported rt.now (hobserved hreported) time htime
    exact le_antisymm (hdated.le htime) (hnow ▸ hle)
  · intro h hreported observed hsome time htime
    rw [hobserved hreported, Option.some.injEq] at hsome
    rw [h (hfresh.mp hreported) time htime, ← hsome, hnow]

namespace DatedAux

open SampleAux CellSampleAux

/-- The management cluster with a new Cell, its ManagedCluster and a lease. -/
def cellWorld : World :=
  { cells := Store.empty.put (cellIn .pending [])
    managedClusters := Store.empty.put managedCluster
    leases := Store.empty.put { metadata := { name := "managed-cluster-lease", ns := "mc-a" }, renewTime := some 990 } }

/-- The Cell of the sample is stored. -/
theorem find_cellWorld : cellWorld.cells.find DriftAux.sampleCell.key = some (cellIn .pending []) :=
  (Store.find_put _ _ _).trans (if_pos rfl)

/-- A round for the Cell, in which everything is found ready. -/
def firstRound : World × List Event × Action (Except Err Result) :=
  Prog.drive (World.answer fun call => cellAnswer (cellIn .pending []) (.ok managedCluster) (.ok []) (.host call))
    event 8 cellWorld
    (cellReconcile sampleCtx cellConfig sampleRuntime DriftAux.sampleCell.key)

/-- A clock at a time. -/
def clockAt (now : Time) : Runtime := { sampleRuntime with now := now }

/-- The first round of the sample Cell is reachable. -/
theorem reachable_firstRound {t : Time} (ht : sampleRuntime.now ≤ t) :
    Sys.Reachable (clockedCellSystem sampleCtx cellConfig DriftAux.sampleCell.key
      (fun _ _ => False) fun rt => rt.now ≤ t)
      (StoredStatus (Dated t) DriftAux.sampleCell.key) ⟨firstRound.1, none⟩ := by
  have hinit : StoredStatus (Dated t) DriftAux.sampleCell.key cellWorld := by
    intro cell hcell
    rw [find_cellWorld, Option.some.injEq] at hcell
    rw [← hcell]
    have hempty := (dated_kept sampleCtx t).empty
    exact ⟨hempty.nodes, hempty.storage, hempty.nodePorts⟩
  exact Sys.Reachable.wholeRound (.init hinit) ⟨sampleRuntime, ht, rfl⟩
    (Prog.runs_drive (World.exec_answer _) 8 cellWorld _)

/-- The round has observed the inventory at its time. -/
theorem firstRound_cell : ∃ cell, firstRound.1.cells.find DriftAux.sampleCell.key = some cell ∧
    conditionTrue cell.status.conditions "InventoryFresh" = true ∧ cell.status.observationTimes = [1000, 1000] := by
  have hdecided : (firstRound.1.cells.find DriftAux.sampleCell.key).map (fun cell =>
      (conditionTrue cell.status.conditions "InventoryFresh", cell.status.observationTimes)) =
        some (true, [1000, 1000]) := by
    decide +kernel
  obtain ⟨cell, hcell, hboth⟩ := Option.map_eq_some_iff.mp hdecided
  exact ⟨cell, hcell, (Prod.mk.inj hboth).1, (Prod.mk.inj hboth).2⟩

end DatedAux

open SampleAux CellSampleAux

/-- An evaluation that is made later than the round reports its own time. -/
theorem inventory_dated_false :
    ¬∀ (Γ : Ctx) (cfg : CellConfig) (key : NamespacedName) (env : World → World → Prop) (t : Time)
      (s : Sys World Event Call Call.Res (Except Err Result)) (cell : Cell) (rt : Runtime)
        (virtualNodeClass : VirtualNodeClass),
      (∀ w w', env w w' → CellStatusKept key w w') →
      Sys.Reachable (clockedCellSystem Γ cfg key env fun rt => rt.now ≤ t) (StoredStatus (Dated t) key) s →
      s.world.cells.find key = some cell → rt.now = t →
      DatesInventory (evaluateVirtualClusterPlan Γ rt cell virtualNodeClass) cell.status := by
  intro hall
  obtain ⟨cell, hcell, hfresh, htimes⟩ := firstRound_cell
  have hdates := hall _ _ _ _ 2000 _ cell (clockAt 2000) readyClass (fun _ _ hfalse => hfalse.elim)
    (reachable_firstRound (by decide)) hcell rfl
  obtain ⟨hreported, hobserved⟩ := evaluation_inventory (clockAt 2000) cell readyClass sampleCtx
  have hle := hdates (hreported.mpr hfresh) 2000 (hobserved (hreported.mpr hfresh)) 1000 (by rw [htimes]; decide)
  exact absurd hle (by decide)

/-- An evaluation that is made in the same second reports the time of the inventory. -/
theorem inventory_dated_sample :
    ∃ cell, firstRound.1.cells.find DriftAux.sampleCell.key = some cell ∧
      (evaluateVirtualClusterPlan sampleCtx (clockAt 1000) cell readyClass).inventoryFresh = true ∧
      DatesInventory (evaluateVirtualClusterPlan sampleCtx (clockAt 1000) cell readyClass) cell.status := by
  obtain ⟨cell, hcell, hfresh, htimes⟩ := firstRound_cell
  have hiff := inventory_dated_iff _ _ _ _ 1000 (fun _ _ hfalse => hfalse.elim) (reachable_firstRound le_rfl) hcell
    (clockAt 1000) rfl readyClass
  refine ⟨cell, hcell, (evaluation_inventory (clockAt 1000) cell readyClass sampleCtx).1.mpr hfresh,
    hiff.mpr fun _ time htime => ?_⟩
  rw [htimes] at htime
  simpa using htime

end KubeCell
