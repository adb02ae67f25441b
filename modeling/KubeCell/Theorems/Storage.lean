import Mathlib.Data.List.Dedup
import KubeCell.Theorems.OwnUsage

/-!
# The free capacity of storage

The projection of storage adds up, class by class, the free capacity that the ready nodes of the profile report, and
then goes over the classes to withdraw what is not reported by all of them. It stops at the first class it withdraws.
So when there is another one, what is left depends on the order in which the map is visited, and may say of a part of
the capacity that it is all of it.
-/

namespace KubeCell

/-- The free capacity that a node reports for a class. -/
def reported (Γ : Ctx) (storageClass : StorageClass) (node : Node) : Option Quantity :=
  (topolvmNodeCapacity Γ node (storageClass.parameters.get "topolvm.io/device-class")).map (·.1)

/-- The loop over the nodes; at each of them the classes are visited in an order of its own. -/
inductive CapacityRun (Γ : Ctx) (classByName : GoMap StorageClass) :
    List Node → StorageAccount → StorageAccount → Prop where
  | nil (account : StorageAccount) : CapacityRun Γ classByName [] account account
  | cons {node : Node} {nodes : List Node} {account account' : StorageAccount} (order : Runtime)
      (rest : CapacityRun Γ classByName nodes
        ((order.range classByName).foldl (fun account e => addStorageCapacity Γ node account e.2) account) account') :
      CapacityRun Γ classByName (node :: nodes) account account'

/-- The last loop, in an order. -/
def settleStorage (order : Runtime) (account : StorageAccount) (eligible : List String) :
    GoMap StorageInventoryStatus :=
  match (order.range account.inventory).find? (incomplete account eligible) with
  | none => account.inventory
  | some (name, entry) =>
    account.inventory.insert name { entry with freeCapacity := none, freeCapacityKnown := false, fresh := false }

/-- The storage account before the loop over the nodes. -/
def volumeAccount (rt : Runtime) (pvs : List PersistentVolume) (classByName : GoMap StorageClass) : StorageAccount :=
  { inventory := pvs.foldl (addVolume classByName) (emptyStorage rt classByName) }

/-- An inventory that the projection of storage may leave, whatever the order of its loops over maps. -/
def StorageRun (Γ : Ctx) (rt : Runtime) (pvs : List PersistentVolume) (classes : List StorageClass) (nodes : List Node)
    (eligible : List String) (inventory : GoMap StorageInventoryStatus) : Prop :=
  ∃ account order, CapacityRun Γ (topolvmClasses classes)
    (nodes.filter fun node => containsString eligible node.metadata.name)
    (volumeAccount rt pvs (topolvmClasses classes)) account ∧ inventory = settleStorage order account eligible

/-- A class whose free capacity is known and fresh is reported by every node, and has the sum of what they report. -/
def KnownComplete (Γ : Ctx) (classByName : GoMap StorageClass) (nodes : List Node)
    (inventory : GoMap StorageInventoryStatus) : Prop :=
  ∀ name entry, AList.lookup name inventory = some entry → entry.freeCapacityKnown = true → entry.fresh = true →
    ∃ storageClass, AList.lookup name classByName = some storageClass ∧
      (∀ node ∈ nodes, (reported Γ storageClass node).isSome) ∧
      entry.freeCapacity.map Quantity.value = some ((nodes.filterMap (reported Γ storageClass)).map Quantity.value).sum

/-- Whatever the order of loops, what is known of storage is complete, and it is the same. -/
def StorageComplete (Γ : Ctx) (rt : Runtime) (pvs : List PersistentVolume) (classes : List StorageClass)
    (nodes : List Node) (profile : MachineProfile) (eligible : List String) : Prop :=
  (∀ inventory, StorageRun Γ rt pvs classes nodes eligible inventory →
    KnownComplete Γ (topolvmClasses classes) (nodes.filter (profileNodeReady profile)) inventory) ∧
  ∀ inventory inventory', StorageRun Γ rt pvs classes nodes eligible inventory →
    StorageRun Γ rt pvs classes nodes eligible inventory' →
    ∀ name, AList.lookup name inventory = AList.lookup name inventory'

/-- Some node reports the class. -/
def ReportedBySome (Γ : Ctx) (nodes : List Node) (storageClass : StorageClass) : Prop :=
  ∃ node ∈ nodes, (reported Γ storageClass node).isSome

/-- Every node reports the class, and there is one. -/
def ReportedByAll (Γ : Ctx) (nodes : List Node) (storageClass : StorageClass) : Prop :=
  nodes ≠ [] ∧ ∀ node ∈ nodes, (reported Γ storageClass node).isSome

/-- A class that some of the nodes report, but not all, is the only one that not all report. -/
def OnlyPartly (Γ : Ctx) (classByName : GoMap StorageClass) (nodes : List Node) : Prop :=
  ∀ name storageClass name' storageClass', AList.lookup name classByName = some storageClass →
    AList.lookup name' classByName = some storageClass' → ReportedBySome Γ nodes storageClass →
      ¬ReportedByAll Γ nodes storageClass →
    ¬ReportedByAll Γ nodes storageClass' → name' = name

open InventoryAux OwnUsageAux

namespace StorageAux

variable {Γ : Ctx} {classByName : GoMap StorageClass} {storageClass : StorageClass} {name : String} {nodes : List Node}
  {account account' : StorageAccount} {eligible : List String} {entry : StorageInventoryStatus}

/-! ## One class of the account -/

/-- What the account says of a class: its entry, and the number of nodes that report it. -/
def accountAt (account : StorageAccount) (name : String) : Option StorageInventoryStatus × Nat :=
  (AList.lookup name account.inventory, (AList.lookup name account.capacityNodeCount).getD 0)

/-- What one node changes of a class. -/
def withNodeCapacity (Γ : Ctx) (storageClass : StorageClass) (current : Option StorageInventoryStatus × Nat)
    (node : Node) :
    Option StorageInventoryStatus × Nat :=
  match topolvmNodeCapacity Γ node (storageClass.parameters.get "topolvm.io/device-class") with
  | none => current
  | some (capacity, source) =>
    (some (withCapacity node.metadata.name capacity source (current.1.getD {})), current.2 + 1)

/-- What one class on one node does to the account of a class. -/
theorem accountAt_addStorageCapacity (node : Node) (account : StorageAccount) (storageClass : StorageClass)
    (name : String) :
    accountAt (addStorageCapacity Γ node account storageClass) name =
      if storageClass.metadata.name = name then withNodeCapacity Γ storageClass (accountAt account name) node
      else accountAt account name := by
  unfold addStorageCapacity withNodeCapacity
  dsimp only
  cases topolvmNodeCapacity Γ node (storageClass.parameters.get "topolvm.io/device-class") with
  | none => simp
  | some report =>
    split_ifs with hname
    · subst hname
      simp [accountAt]
    · simp [accountAt, AList.lookup_insert_ne (Ne.symm hname)]

/-- A loop over classes leaves the others alone. -/
theorem accountAt_foldl_of_notMem (node : Node) {classes : List (String × StorageClass)}
    (hkeys : ∀ e ∈ classes, e.2.metadata.name = e.1) (account : StorageAccount) (hname : name ∉ classes.map (·.1)) :
    accountAt (classes.foldl (fun account e => addStorageCapacity Γ node account e.2) account) name =
      accountAt account name := by
  induction classes generalizing account with
  | nil => rfl
  | cons e classes ih =>
    rw [List.map_cons, List.mem_cons, not_or] at hname
    rw [List.foldl_cons, ih (fun e' he' => hkeys e' (List.mem_cons_of_mem _ he')) _ hname.2,
      accountAt_addStorageCapacity, if_neg]
    intro heq
    exact hname.1 (heq.symm.trans (hkeys e List.mem_cons_self))

/-- A loop over classes changes each of them once. -/
theorem accountAt_foldl_of_mem (node : Node) {classes : List (String × StorageClass)}
    (hkeys : ∀ e ∈ classes, e.2.metadata.name = e.1) (hnodup : (classes.map (·.1)).Nodup) (account : StorageAccount)
    (hmem : (name, storageClass) ∈ classes) :
    accountAt (classes.foldl (fun account e => addStorageCapacity Γ node account e.2) account) name =
      withNodeCapacity Γ storageClass (accountAt account name) node := by
  induction classes generalizing account with
  | nil => nomatch hmem
  | cons e classes ih =>
    obtain ⟨hhead, hnodup⟩ := List.nodup_cons.mp hnodup
    have hkey := hkeys e List.mem_cons_self
    have hrest : ∀ e' ∈ classes, e'.2.metadata.name = e'.1 := fun e' he' => hkeys e' (List.mem_cons_of_mem _ he')
    rw [List.foldl_cons]
    rcases List.mem_cons.mp hmem with rfl | hmem
    · rw [accountAt_foldl_of_notMem node hrest _ hhead, accountAt_addStorageCapacity, if_pos hkey]
    · rw [ih hrest hnodup _ hmem, accountAt_addStorageCapacity, if_neg]
      intro heq
      exact hhead (List.mem_map.mpr ⟨_, hmem, heq.symm.trans hkey⟩)

/-- The loop over the nodes changes each class node by node, whatever the orders. -/
theorem accountAt_run
    (hkeys : ∀ name storageClass, AList.lookup name classByName = some storageClass → storageClass.metadata.name = name)
    {nodes : List Node} {account account' : StorageAccount} (hrun : CapacityRun Γ classByName nodes account account')
    (name : String) :
    accountAt account' name =
      match AList.lookup name classByName with
      | some storageClass => nodes.foldl (withNodeCapacity Γ storageClass) (accountAt account name)
      | none => accountAt account name := by
  induction hrun with
  | nil account => cases AList.lookup name classByName <;> rfl
  | @cons node nodes account account' order _ ih =>
    have horder : ∀ e ∈ order.range classByName, e.2.metadata.name = e.1 :=
      fun e he => hkeys e.1 e.2 ((order.mem_range _ _ _).mp he)
    rw [ih]
    cases hname : AList.lookup name classByName with
    | some storageClass =>
      rw [accountAt_foldl_of_mem node horder (order.nodup_range classByName) account
        ((order.mem_range _ _ _).mpr hname)]
      rfl
    | none =>
      refine accountAt_foldl_of_notMem node horder account fun hmem => ?_
      obtain ⟨e, he, rfl⟩ := List.mem_map.mp hmem
      rw [(order.mem_range _ e.1 e.2).mp he] at hname
      nomatch hname

/-! ## What the nodes report -/

/-- The parts of an entry that say how much is free. -/
structure FreeIs (entry : StorageInventoryStatus) (reports : List Quantity) : Prop where
  known : entry.freeCapacityKnown = !reports.isEmpty
  fresh : entry.fresh = !reports.isEmpty
  free : entry.freeCapacity.map Quantity.value = if reports.isEmpty then none else some (reports.map Quantity.value).sum

theorem filterMap_reported_eq_nil :
    nodes.filterMap (reported Γ storageClass) = [] ↔ ¬ReportedBySome Γ nodes storageClass := by
  rw [List.filterMap_eq_nil_iff, ReportedBySome]
  constructor
  · rintro hnone ⟨node, hnode, hsome⟩
    rw [hnone node hnode] at hsome
    nomatch hsome
  · intro h node hnode
    exact Option.not_isSome_iff_eq_none.mp fun hsome => h ⟨node, hnode, hsome⟩

/-- All was reported if every node reports. -/
theorem length_reported : (nodes.filterMap (reported Γ storageClass)).length = nodes.length ↔
    ∀ node ∈ nodes, (reported Γ storageClass node).isSome := by
  rw [List.length_filterMap_eq_countP, List.countP_eq_length]

/-- A class after the loop over the nodes: its entry says what they report, and the count how many do. -/
theorem freeIs_foldl (nodes : List Node) (entry : StorageInventoryStatus) {reports : List Quantity}
    (h : FreeIs entry reports) :
    ∃ entry', nodes.foldl (withNodeCapacity Γ storageClass) (some entry, reports.length) =
        (some entry', (reports ++ nodes.filterMap (reported Γ storageClass)).length) ∧
      FreeIs entry' (reports ++ nodes.filterMap (reported Γ storageClass)) := by
  induction nodes generalizing entry reports with
  | nil => exact ⟨entry, by simp, by simpa using h⟩
  | cons node nodes ih =>
    rw [List.foldl_cons]
    cases hreport : topolvmNodeCapacity Γ node (storageClass.parameters.get "topolvm.io/device-class") with
    | none =>
      have hnone : reported Γ storageClass node = none := by rw [reported, hreport]; rfl
      rw [List.filterMap_cons_none hnone]
      simp only [withNodeCapacity, hreport]
      exact ih entry h
    | some report =>
      obtain ⟨capacity, source⟩ := report
      have hsome : reported Γ storageClass node = some capacity := by rw [reported, hreport]; rfl
      have hnext : FreeIs (withCapacity node.metadata.name capacity source entry) (reports ++ [capacity]) := by
        refine ⟨by simp [withCapacity], by simp [withCapacity], ?_⟩
        have hvalue : (entry.freeCapacity.getD (.newQuantity 0 capacity.format)).value =
          (reports.map Quantity.value).sum := by
          have hfree := h.free
          by_cases hempty : reports.isEmpty = true
          · rw [if_pos hempty, Option.map_eq_none_iff] at hfree
            rw [hfree, List.isEmpty_iff.mp hempty]
            simp
          · rw [if_neg hempty] at hfree
            obtain ⟨free, hentry, hvalue⟩ := Option.map_eq_some_iff.mp hfree
            rw [hentry]
            exact hvalue
        simp [withCapacity, hvalue]
      have hstep := ih (withCapacity node.metadata.name capacity source entry) hnext
      rw [List.filterMap_cons_some hsome, List.append_cons]
      simp only [withNodeCapacity, hreport, Option.getD_some]
      rw [List.length_append] at hstep
      exact hstep

/-! ## The last loop -/

/-- An entry of which nothing is known to be free any more. -/
def withdraw (entry : StorageInventoryStatus) : StorageInventoryStatus :=
  { entry with freeCapacity := none, freeCapacityKnown := false, fresh := false }

theorem withdraw_of_freeIs_nil (h : FreeIs entry []) : withdraw entry = entry := by
  have hknown : entry.freeCapacityKnown = false := h.known
  have hfresh : entry.fresh = false := h.fresh
  have hfree : entry.freeCapacity = none := Option.map_eq_none_iff.mp h.free
  rw [withdraw, ← hknown, ← hfree]
  congr 1
  exact hknown.trans hfresh.symm

/-- The last loop withdraws an entry at most, and only one that is incomplete. -/
theorem settleStorage_cases (order : Runtime) (account : StorageAccount) (eligible : List String) :
    (settleStorage order account eligible = account.inventory ∧
        ∀ name entry, AList.lookup name account.inventory = some entry →
          ¬incomplete account eligible (name, entry) = true) ∨
      ∃ name entry, AList.lookup name account.inventory = some entry ∧
        incomplete account eligible (name, entry) = true ∧
        settleStorage order account eligible = account.inventory.insert name (withdraw entry) := by
  unfold settleStorage
  cases hfound : (order.range account.inventory).find? (incomplete account eligible) with
  | none =>
    exact Or.inl ⟨rfl, fun name entry hentry => List.find?_eq_none.mp hfound _ ((order.mem_range _ _ _).mpr hentry)⟩
  | some found =>
    exact Or.inr ⟨found.1, found.2, (order.mem_range _ _ _).mp (List.mem_of_find?_eq_some hfound),
      List.find?_some hfound, rfl⟩

/-- The order that visits a key first. -/
def first (rt : Runtime) (key : String) : Runtime where
  now := rt.now
  visit keys := if key ∈ keys then key :: keys.erase key else keys
  perm keys := by
    split_ifs with hmem
    · exact (List.perm_cons_erase hmem).symm
    · exact .refl _

/-- The loop that visits an incomplete class first withdraws that one. -/
theorem settleStorage_first (rt : Runtime) (hentry : AList.lookup name account.inventory = some entry)
    (hincomplete : incomplete account eligible (name, entry) = true) :
    settleStorage (first rt name) account eligible = account.inventory.insert name (withdraw entry) := by
  have hmem : name ∈ account.inventory.keys := AList.mem_keys.mp (AList.lookup_isSome.mp (by rw [hentry]; rfl))
  have hrange : (first rt name).range account.inventory =
      (name, entry) :: (account.inventory.keys.erase name).filterMap fun key =>
        (AList.lookup key account.inventory).map fun value => (key, value) := by
    rw [Runtime.range, first]
    dsimp only
    rw [if_pos hmem, List.filterMap_cons_some (by rw [hentry]; rfl)]
  rw [settleStorage, hrange, List.find?_cons_of_pos hincomplete]
  rfl

/-- The loop always has a run. -/
theorem exists_run (rt : Runtime) (classByName : GoMap StorageClass) (nodes : List Node) (account : StorageAccount) :
    ∃ account', CapacityRun Γ classByName nodes account account' := by
  induction nodes generalizing account with
  | nil => exact ⟨account, .nil account⟩
  | cons node nodes ih =>
    obtain ⟨account', hrun⟩ := ih ((rt.range classByName).foldl
      (fun account e => addStorageCapacity Γ node account e.2) account)
    exact ⟨account', .cons rt hrun⟩

/-! ## The account before the nodes -/

/-- The entries of an inventory are those of the classes, and nothing is known to be free. -/
def Unfilled (classByName : GoMap StorageClass) (inventory : GoMap StorageInventoryStatus) : Prop :=
  ∀ name, match AList.lookup name inventory with
    | some entry => (AList.lookup name classByName).isSome ∧ FreeIs entry []
    | none => AList.lookup name classByName = none

theorem unfilled_emptyStorage (rt : Runtime) (classByName : GoMap StorageClass) :
    Unfilled classByName (emptyStorage rt classByName) := by
  intro name
  have h := GoMap.lookup_foldl_update
    (fun _ _ (storageClass : StorageClass) =>
      ({ provisioner := storageClass.provisioner, observedAt := rt.now } : StorageInventoryStatus))
    classByName ∅ name
  rw [emptyStorage, h]
  cases AList.lookup name classByName with
  | none => rfl
  | some storageClass => exact ⟨rfl, rfl, rfl, rfl⟩

/-- A volume does not fill what is free. -/
theorem Unfilled.addVolume {inventory : GoMap StorageInventoryStatus} (h : Unfilled classByName inventory)
    (pv : PersistentVolume) :
    Unfilled classByName (KubeCell.addVolume classByName inventory pv) := by
  unfold KubeCell.addVolume
  split_ifs with hskip
  · exact h
  · intro name
    by_cases hname : name = pv.storageClassName
    · subst hname
      rw [AList.lookup_insert]
      have hknown : (AList.lookup pv.storageClassName classByName).isSome := by
        simp only [Bool.or_eq_true, not_or, Bool.not_eq_true, Option.isNone_eq_false_iff] at hskip
        exact hskip.2
      have hentry := h pv.storageClassName
      cases hlookup : AList.lookup pv.storageClassName inventory with
      | none =>
        rw [hlookup] at hentry
        rw [hentry] at hknown
        nomatch hknown
      | some entry =>
        rw [hlookup] at hentry
        exact ⟨hknown, hentry.2.known, hentry.2.fresh, hentry.2.free⟩
    · rw [AList.lookup_insert_ne hname]
      exact h name

theorem unfilled_volumeAccount (rt : Runtime) (pvs : List PersistentVolume) (classByName : GoMap StorageClass) :
    Unfilled classByName (volumeAccount rt pvs classByName).inventory :=
  List.foldlRecOn pvs _ (unfilled_emptyStorage rt classByName) fun _ h pv _ => h.addVolume pv

/-- The classes stand under their names. -/
theorem metadataName_topolvmClasses (classes : List StorageClass) :
    ∀ name storageClass, AList.lookup name (topolvmClasses classes) = some storageClass →
      storageClass.metadata.name = name := by
  have hstep : ∀ (l : List StorageClass) (result : GoMap StorageClass),
      (∀ name storageClass, AList.lookup name result = some storageClass → storageClass.metadata.name = name) →
      ∀ name storageClass, AList.lookup name
        (l.foldl (fun result storageClass => result.insert storageClass.metadata.name storageClass)
        result) = some storageClass → storageClass.metadata.name = name := by
    intro l
    induction l with
    | nil => exact fun _ h => h
    | cons added l ih =>
      intro result h
      refine ih _ fun name storageClass hlookup => ?_
      by_cases hname : name = added.metadata.name
      · subst hname
        rw [AList.lookup_insert, Option.some.injEq] at hlookup
        rw [hlookup]
      · rw [AList.lookup_insert_ne hname] at hlookup
        exact h name storageClass hlookup
  exact hstep _ ∅ nofun

/-! ## The account after the nodes -/

section Run

variable {rt : Runtime} {pvs : List PersistentVolume} {classes : List StorageClass}
  (hrun : CapacityRun Γ (topolvmClasses classes) nodes (volumeAccount rt pvs (topolvmClasses classes)) account)
  (hrun' : CapacityRun Γ (topolvmClasses classes) nodes (volumeAccount rt pvs (topolvmClasses classes)) account')

include hrun

/-- What a run leaves of a class. -/
theorem account_of_run (name : String) :
    match AList.lookup name (topolvmClasses classes) with
    | some storageClass =>
      (∃ entry, AList.lookup name account.inventory = some entry ∧
        FreeIs entry (nodes.filterMap (reported Γ storageClass))) ∧
        (AList.lookup name account.capacityNodeCount).getD 0 = (nodes.filterMap (reported Γ storageClass)).length
    | none => AList.lookup name account.inventory = none := by
  have hat := accountAt_run (metadataName_topolvmClasses classes) hrun name
  have hbefore := unfilled_volumeAccount rt pvs (topolvmClasses classes) name
  cases hname : AList.lookup name (topolvmClasses classes) with
  | none =>
    rw [hname] at hat
    have hinventory : AList.lookup name account.inventory = AList.lookup name
      (volumeAccount rt pvs (topolvmClasses classes)).inventory :=
      congrArg (·.1) hat
    cases hlookup : AList.lookup name (volumeAccount rt pvs (topolvmClasses classes)).inventory with
    | none => exact hinventory.trans hlookup
    | some entry =>
      rw [hlookup, hname] at hbefore
      nomatch hbefore.1
  | some storageClass =>
    rw [hname] at hat
    cases hlookup : AList.lookup name (volumeAccount rt pvs (topolvmClasses classes)).inventory with
    | none =>
      rw [hlookup, hname] at hbefore
      nomatch hbefore
    | some entry =>
      rw [hlookup] at hbefore
      obtain ⟨entry', hfold, hfree⟩ := freeIs_foldl (Γ := Γ) nodes entry hbefore.2
      have hstart : accountAt (volumeAccount rt pvs (topolvmClasses classes)) name = (some entry, 0) := by
        rw [accountAt, hlookup]
        rfl
      dsimp only at hat
      rw [hstart] at hat
      have hend := hat.trans hfold
      exact ⟨⟨entry', congrArg (·.1) hend, hfree⟩, congrArg (·.2) hend⟩

/-- A class has an entry, which says what the nodes report, and a count of them. -/
theorem entry_of_class (hclass : AList.lookup name (topolvmClasses classes) = some storageClass) :
    (∃ entry, AList.lookup name account.inventory = some entry ∧
      FreeIs entry (nodes.filterMap (reported Γ storageClass))) ∧
      (AList.lookup name account.capacityNodeCount).getD 0 = (nodes.filterMap (reported Γ storageClass)).length := by
  have hafter := account_of_run hrun name
  rwa [hclass] at hafter

/-- The entries are those of the classes, and say what the nodes report. -/
theorem class_of_entry (hentry : AList.lookup name account.inventory = some entry) :
    ∃ storageClass, AList.lookup name (topolvmClasses classes) = some storageClass ∧
      FreeIs entry (nodes.filterMap (reported Γ storageClass)) := by
  have hafter := account_of_run hrun name
  cases hclass : AList.lookup name (topolvmClasses classes) with
  | none =>
    rw [hclass, hentry] at hafter
    nomatch hafter
  | some storageClass =>
    obtain ⟨⟨entry', hentry', hfree⟩, -⟩ := entry_of_class hrun hclass
    obtain rfl : entry = entry' := Option.some.inj (hentry.symm.trans hentry')
    exact ⟨storageClass, rfl, hfree⟩

include hrun' in
/-- All runs leave the same of every class. -/
theorem account_unique (name : String) : accountAt account name = accountAt account' name :=
  (accountAt_run (metadataName_topolvmClasses classes) hrun name).trans
    (accountAt_run (metadataName_topolvmClasses classes) hrun' name).symm

/-! ## The classes the last loop withdraws -/

/-- A class is incomplete when a node does not report it, or there is none. -/
theorem incomplete_iff (hlength : eligible.length = nodes.length)
    (hclass : AList.lookup name (topolvmClasses classes) = some storageClass)
    (hentry : AList.lookup name account.inventory = some entry) :
    incomplete account eligible (name, entry) = true ↔ ¬ReportedByAll Γ nodes storageClass := by
  obtain ⟨⟨entry', hentry', hfree⟩, hcount⟩ := entry_of_class hrun hclass
  obtain rfl : entry = entry' := Option.some.inj (hentry.symm.trans hentry')
  unfold incomplete
  dsimp only
  rw [hcount, hlength, hfree.known, Bool.not_not, Bool.or_eq_true, bne_iff_ne, List.isEmpty_iff, Ne,
    length_reported, ReportedByAll]
  constructor
  · rintro (hempty | hmissing) ⟨hne, hall⟩
    · rw [← List.length_eq_zero_iff, length_reported.mpr hall] at hempty
      exact hne (List.length_eq_zero_iff.mp hempty)
    · exact hmissing hall
  · intro h
    by_cases hnil : nodes = []
    · exact Or.inl (by rw [hnil]; rfl)
    · exact Or.inr fun hall => h ⟨hnil, hall⟩

/-- When one class alone can be partly reported, the last loop withdraws what is incomplete, whatever its order. -/
theorem lookup_settleStorage (hlength : eligible.length = nodes.length)
    (honly : OnlyPartly Γ (topolvmClasses classes) nodes) (order : Runtime) (name : String) :
    AList.lookup name (settleStorage order account eligible) =
      (AList.lookup name account.inventory).map fun entry =>
        if incomplete account eligible (name, entry) = true then withdraw entry else entry := by
  cases hentry : AList.lookup name account.inventory with
  | none =>
    rcases settleStorage_cases order account eligible with ⟨hsettled, -⟩ | ⟨name', entry', hentry', -, hsettled⟩
    · rw [hsettled, hentry]
      rfl
    · have hname : name ≠ name' := by
        rintro rfl
        rw [hentry] at hentry'
        nomatch hentry'
      rw [hsettled, AList.lookup_insert_ne hname, hentry]
      rfl
  | some entry =>
    dsimp only [Option.map_some]
    rcases settleStorage_cases order account
      eligible with ⟨hsettled, hcomplete⟩ | ⟨name', entry', hentry', hincomplete', hsettled⟩
    · rw [hsettled, hentry, if_neg (hcomplete name entry hentry)]
    · rw [hsettled]
      by_cases hname : name = name'
      · subst hname
        obtain rfl : entry = entry' := Option.some.inj (hentry.symm.trans hentry')
        rw [AList.lookup_insert, if_pos hincomplete']
      · rw [AList.lookup_insert_ne hname, hentry]
        split_ifs with hincomplete
        · -- Another incomplete class was withdrawn, so no node reports this one.
          obtain ⟨storageClass, hclass, hfree⟩ := class_of_entry hrun hentry
          obtain ⟨storageClass', hclass', -⟩ := class_of_entry hrun hentry'
          have hnone : ¬ReportedBySome Γ nodes storageClass := by
            intro hsome
            exact hname (honly name storageClass name' storageClass' hclass hclass' hsome
              ((incomplete_iff hrun hlength hclass hentry).mp hincomplete)
              ((incomplete_iff hrun hlength hclass' hentry').mp hincomplete')).symm
          rw [filterMap_reported_eq_nil.mpr hnone] at hfree
          rw [withdraw_of_freeIs_nil hfree]
        · rfl

/-- A known entry is one that every node reports. -/
theorem knownComplete_settleStorage (hlength : eligible.length = nodes.length)
    (honly : OnlyPartly Γ (topolvmClasses classes) nodes) (order : Runtime) :
    KnownComplete Γ (topolvmClasses classes) nodes (settleStorage order account eligible) := by
  intro name settled hsettled hknown _
  rw [lookup_settleStorage hrun hlength honly] at hsettled
  obtain ⟨entry, hentry, rfl⟩ := Option.map_eq_some_iff.mp hsettled
  obtain ⟨storageClass, hclass, hfree⟩ := class_of_entry hrun hentry
  by_cases hincomplete : incomplete account eligible (name, entry) = true
  · rw [if_pos hincomplete] at hknown
    nomatch hknown
  · rw [if_neg hincomplete] at hknown ⊢
    have hall : ReportedByAll Γ nodes storageClass := by
      by_contra hnot
      exact hincomplete ((incomplete_iff hrun hlength hclass hentry).mpr hnot)
    have hnonempty : ¬(nodes.filterMap (reported Γ storageClass)).isEmpty = true := by
      have := hfree.known.symm.trans hknown
      simpa using this
    refine ⟨storageClass, hclass, hall.2, ?_⟩
    rw [hfree.free, if_neg hnonempty]

include hrun' in
/-- The inventories of two runs are the same. -/
theorem settleStorage_unique (hlength : eligible.length = nodes.length)
    (honly : OnlyPartly Γ (topolvmClasses classes) nodes) (order order' : Runtime) (name : String) :
    AList.lookup name (settleStorage order account eligible) = AList.lookup name
      (settleStorage order' account' eligible) := by
  have hat := account_unique hrun hrun' name
  have hentry : AList.lookup name account.inventory = AList.lookup name account'.inventory := congrArg (·.1) hat
  have hcount : (AList.lookup name account.capacityNodeCount).getD 0 =
    (AList.lookup name account'.capacityNodeCount).getD 0 :=
    congrArg (·.2) hat
  have hincomplete : ∀ entry, incomplete account eligible (name, entry) = incomplete account' eligible
    (name, entry) := by
    intro entry
    unfold incomplete
    dsimp only
    rw [hcount]
  rw [lookup_settleStorage hrun hlength honly, lookup_settleStorage hrun' hlength honly, hentry]
  exact congrArg (Option.map · _) (funext fun entry => by rw [hincomplete])

/-! ## An order that leaves a part for the whole -/

/-- A partly reported class stays known when another class is withdrawn in its place. -/
theorem onlyPartly_of_known (hlength : eligible.length = nodes.length)
    (hknown : ∀ order, KnownComplete Γ (topolvmClasses classes) nodes (settleStorage order account eligible)) :
    OnlyPartly Γ (topolvmClasses classes) nodes := by
  intro name storageClass name' storageClass' hclass hclass' hsome hnot hnot'
  by_contra hname
  obtain ⟨⟨entry, hentry, hfree⟩, -⟩ := entry_of_class hrun hclass
  obtain ⟨⟨entry', hentry', -⟩, -⟩ := entry_of_class hrun hclass'
  have hsettled := settleStorage_first rt hentry' ((incomplete_iff hrun hlength hclass' hentry').mpr hnot')
  have hkept : AList.lookup name (settleStorage (first rt name') account eligible) = some entry := by
    rw [hsettled, AList.lookup_insert_ne (Ne.symm hname), hentry]
  have hnonempty : (nodes.filterMap (reported Γ storageClass)).isEmpty = false := by
    rw [← Bool.not_eq_true, List.isEmpty_iff, filterMap_reported_eq_nil, not_not]
    exact hsome
  obtain ⟨storageClass'', hclass'', hall, -⟩ := hknown (first rt name') name entry hkept
    (by rw [hfree.known, hnonempty]; rfl) (by rw [hfree.fresh, hnonempty]; rfl)
  obtain rfl : storageClass = storageClass'' := Option.some.inj (hclass.symm.trans hclass'')
  obtain ⟨node, hnode, -⟩ := hsome
  exact hnot ⟨List.ne_nil_of_mem hnode, hall⟩

end Run

/-! ## The ready nodes of the profile -/

variable (rt : Runtime) (cell : Cell) (pods : Option (List Pod)) (clusterNames : List String)

/-- The ready nodes are those of the profile. -/
theorem mem_eligibleNodes (key : String) :
    key ∈ eligibleNodes (projectNodes rt cell nodes pods clusterNames).status.nodes ↔
      ∃ node ∈ nodes, profileNodeReady cell.spec.machineProfile node = true ∧ node.metadata.name = key := by
  rw [eligibleNodes, List.mem_dedup, List.mem_map]
  simp only [List.mem_filter, projectNodes, sortNodes, List.mem_insertionSort, List.mem_map]
  constructor
  · rintro ⟨status, ⟨⟨node, hnode, rfl⟩, hready⟩, rfl⟩
    exact ⟨node, hnode, nodeStatus_ready .. ▸ hready, (nodeStatus_name ..).symm⟩
  · rintro ⟨node, hnode, hready, rfl⟩
    exact ⟨_, ⟨⟨node, hnode, rfl⟩, (nodeStatus_ready ..).trans hready⟩, nodeStatus_name ..⟩

/-- The eligible nodes are those of the profile that are ready. -/
theorem filter_eligibleNodes (hnames : (nodes.map (·.metadata.name)).Nodup) :
    (nodes.filter fun node =>
        containsString (eligibleNodes (projectNodes rt cell nodes pods clusterNames).status.nodes) node.metadata.name) =
      nodes.filter (profileNodeReady cell.spec.machineProfile) := by
  refine List.filter_congr fun node hnode => ?_
  rw [Bool.eq_iff_iff, containsString, List.any_beq', List.elem_iff, mem_eligibleNodes]
  constructor
  · rintro ⟨node', hnode', hready, hname⟩
    rw [List.inj_on_of_nodup_map hnames hnode hnode' hname.symm]
    exact hready
  · exact fun hready => ⟨node, hnode, hready, rfl⟩

theorem length_eligibleNodes (hnames : (nodes.map (·.metadata.name)).Nodup) :
    (eligibleNodes (projectNodes rt cell nodes pods clusterNames).status.nodes).length =
      (nodes.filter (profileNodeReady cell.spec.machineProfile)).length := by
  have hperm : (eligibleNodes (projectNodes rt cell nodes pods clusterNames).status.nodes).Perm
      ((nodes.filter (profileNodeReady cell.spec.machineProfile)).map (·.metadata.name)) := by
    refine (List.perm_ext_iff_of_nodup (List.nodup_dedup _)
      (hnames.sublist (List.filter_sublist.map _))).mpr fun key => ?_
    rw [List.mem_map]
    simp only [List.mem_filter, and_assoc]
    exact mem_eligibleNodes rt cell pods clusterNames key
  rw [hperm.length_eq, List.length_map]

variable {rt}

/-! ## The projection is one of the runs -/

variable {pvs : List PersistentVolume} {classes : List StorageClass}

/-- The order the entries of a map stand in. -/
def inOrder (rt : Runtime) : Runtime := { now := rt.now, visit := id, perm := List.Perm.refl }

/-- The sample runtime visits a map in its order. -/
theorem range_inOrder {V : Type} (rt : Runtime) (m : GoMap V) :
    (inOrder rt).range m = m.entries.map fun e => (e.1, e.2) := by
  obtain ⟨l, hl⟩ := m
  have hlookup : ∀ e ∈ l, (AList.lookup e.1 (⟨l, hl⟩ : GoMap V)).map (fun value => (e.1, value)) = some (e.1, e.2) := by
    intro e he
    rw [AList.mem_lookup_iff.mpr (show (⟨e.1, e.2⟩ : Σ _ : String, V) ∈ l from he)]
    rfl
  rw [Runtime.range, show (inOrder rt).visit (AList.keys ⟨l, hl⟩) = l.map Sigma.fst from rfl, List.filterMap_map]
  exact (List.filterMap_congr hlookup).trans (congrFun List.filterMap_eq_map l)

/-- The account is what the loop comes to. -/
theorem run_storageAccount (classByName : GoMap StorageClass) (eligible : List String) :
    CapacityRun Γ classByName (nodes.filter fun node => containsString eligible node.metadata.name)
      (volumeAccount rt pvs classByName)
      (storageAccount Γ rt pvs classByName nodes eligible) := by
  rw [storageAccount, volumeAccount]
  generalize ({ inventory := pvs.foldl (addVolume classByName) (emptyStorage rt classByName) } : StorageAccount) =
    account
  induction nodes.filter fun node => containsString eligible node.metadata.name generalizing account with
  | nil => exact .nil account
  | cons node ready ih =>
    refine .cons (inOrder rt) ?_
    rw [range_inOrder, List.foldl_map]
    exact ih _

/-- So is the inventory that is projected. -/
theorem storageRun_projectStorageInventory (pvcs : List PersistentVolumeClaim) (statuses : List CellNodeStatus) :
    StorageRun Γ rt pvs classes nodes (eligibleNodes statuses)
      (projectStorageInventory Γ rt ⟨.ok pvs, .ok pvcs, .ok classes⟩ nodes statuses).inventory := by
  refine ⟨_, rt, run_storageAccount _ _, ?_⟩
  unfold projectStorageInventory settleStorage
  dsimp only
  cases (rt.range (storageAccount Γ rt pvs (topolvmClasses classes) nodes (eligibleNodes statuses)).inventory).find?
    _ <;> rfl

/-! ## A sample -/

/-- A TopoLVM class of the device class of its name. -/
def deviceClass (name : String) : StorageClass :=
  { metadata := { name := name }, provisioner := "topolvm.io", parameters := GoMap.ofList [("topolvm.io/device-class", name)] }

/-- A ready node of the profile that reports 64Gi for some device classes. -/
def reportingNode (name : String) (deviceClasses : List String) : Node :=
  { metadata :=
      { name := name, labels := GoMap.ofList [(Platform.profileLabelKey, "cpu")]
        annotations := GoMap.ofList (deviceClasses.map fun device => ("capacity.topolvm.io/" ++ device, "64Gi")) }
    conditions := [{ type := "Ready", status := .true }] }

end StorageAux

open StorageAux

/-- What the projection of storage leaves is complete and the same in every order exactly when a class that some of
the ready nodes of the profile report, but not all, is the only class that not all of them report. -/
theorem storage_complete_iff (Γ : Ctx) (rt : Runtime) (cell : Cell) (nodes : List Node) (pods : Option (List Pod))
    (clusterNames : List String) (pvs : List PersistentVolume) (pvcs : List PersistentVolumeClaim)
    (classes : List StorageClass) (hnames : (nodes.map (·.metadata.name)).Nodup) :
    let statuses := (projectNodes rt cell nodes pods clusterNames).status.nodes
    let profile := cell.spec.machineProfile
    StorageRun Γ rt pvs classes nodes (eligibleNodes statuses)
        (projectStorageInventory Γ rt ⟨.ok pvs, .ok pvcs, .ok classes⟩ nodes statuses).inventory ∧
      (StorageComplete Γ rt pvs classes nodes profile (eligibleNodes statuses) ↔
        OnlyPartly Γ (topolvmClasses classes) (nodes.filter (profileNodeReady profile))) := by
  have hready := filter_eligibleNodes rt cell pods clusterNames hnames
  have hlength := length_eligibleNodes rt cell pods clusterNames hnames
  refine ⟨storageRun_projectStorageInventory pvcs _, fun hcomplete => ?_, fun honly => ⟨?_, ?_⟩⟩
  · obtain ⟨account, hrun⟩ := exists_run (Γ := Γ) rt (topolvmClasses classes)
      (nodes.filter (profileNodeReady cell.spec.machineProfile))
      (volumeAccount rt pvs (topolvmClasses classes))
    refine onlyPartly_of_known hrun hlength fun order => hcomplete.1 _ ⟨account, order, ?_, rfl⟩
    rw [hready]
    exact hrun
  · rintro inventory ⟨account, order, hrun, rfl⟩
    rw [hready] at hrun
    exact knownComplete_settleStorage hrun hlength honly order
  · rintro inventory inventory' ⟨account, order, hrun, rfl⟩ ⟨account', order', hrun', rfl⟩
    rw [hready] at hrun hrun'
    exact settleStorage_unique hrun hrun' hlength honly order order'

/-- With one class, which one of two nodes reports, all orders withdraw it. -/
theorem storage_complete_iff_sample :
    let nodes := [reportingNode "node-a" ["fast"], reportingNode "node-b" []]
    StorageComplete sampleCtx sampleRuntime [] [deviceClass "fast"] nodes sampleCell.spec.machineProfile
      (eligibleNodes (projectNodes sampleRuntime sampleCell nodes none []).status.nodes) := by
  refine (storage_complete_iff sampleCtx sampleRuntime sampleCell _ none [] [] [] [deviceClass "fast"]
    (by decide +kernel)).2.mpr ?_
  have hname : ∀ name storageClass, AList.lookup name (topolvmClasses [deviceClass "fast"]) = some storageClass →
    name = "fast" := by
    intro name storageClass hclass
    by_contra hne
    rw [show topolvmClasses [deviceClass "fast"] = AList.insert "fast" (deviceClass "fast") ∅ from rfl,
      AList.lookup_insert_ne hne] at hclass
    nomatch hclass
  intro name storageClass name' storageClass' hclass hclass' _ _ _
  rw [hname name storageClass hclass, hname name' storageClass' hclass']

/-- Of two nodes one reports the first of two classes, and none the second. The loop that visits the second first
leaves what the one node reports as the free capacity of the first. -/
theorem storage_complete_false :
    ¬∀ (Γ : Ctx) (rt : Runtime) (cell : Cell) (nodes : List Node) (pods : Option (List Pod))
      (clusterNames : List String)
      (pvs : List PersistentVolume) (classes : List StorageClass), (nodes.map (·.metadata.name)).Nodup →
      StorageComplete Γ rt pvs classes nodes cell.spec.machineProfile
        (eligibleNodes (projectNodes rt cell nodes pods clusterNames).status.nodes) := by
  intro h
  let nodes := [reportingNode "node-a" ["fast"], reportingNode "node-b" []]
  let order := first sampleRuntime "slow"
  let left := (projectStorageInventory sampleCtx order
    ⟨.ok [], .ok [], .ok [deviceClass "fast", deviceClass "slow"]⟩ nodes
    (projectNodes order sampleCell nodes none []).status.nodes).inventory
  have hknown := (h sampleCtx order sampleCell nodes none [] [] [deviceClass "fast", deviceClass "slow"]
    (by decide +kernel)).1 left
    (storageRun_projectStorageInventory [] _) "fast"
  have hleft : (AList.lookup "fast" left).map (fun entry => (entry.freeCapacityKnown, entry.fresh)) =
    some (true, true) := by
    decide +kernel
  obtain ⟨entry, hentry, hflags⟩ := Option.map_eq_some_iff.mp hleft
  obtain ⟨storageClass, hclass, hall, -⟩ := hknown entry hentry (congrArg (·.1) hflags) (congrArg (·.2) hflags)
  have hmissing : (AList.lookup "fast" (topolvmClasses [deviceClass "fast", deviceClass "slow"])).map
      (fun storageClass => (reported sampleCtx storageClass (reportingNode "node-b" [])).isSome) = some false := by
    decide +kernel
  rw [hclass, Option.map_some, Option.some.injEq] at hmissing
  have hsome := hall (reportingNode "node-b" [])
    (List.mem_filter.mpr ⟨List.mem_cons_of_mem _ List.mem_cons_self, by decide +kernel⟩)
  rw [hmissing] at hsome
  nomatch hsome

end KubeCell
