import KubeCell.CellRound
import KubeCell.Lemmas.Round

/-!
# Every call of a round for a Cell is permitted

What the parts of a round leave alone of a Cell, and the walk through `cellReconcile`: one lemma for each of its
parts, from the last to the first.
-/

namespace KubeCell

open Prog RoundAux

/-- Every call of the program is permitted to a round for the Cell, and the value it ends with is related to
the history at the end. -/
abbrev CellSafe (Γ : Ctx) (rt : Runtime) (key : NamespacedName) {α : Type} (Q : List Event → α → Prop) (p : Action α)
    (h : List Event) : Prop :=
  Guarded event (CellPermitted Γ rt key) Q p h

namespace CellWalkAux

variable {Γ : Ctx} {cfg : CellConfig} {rt : Runtime} {key : NamespacedName} {α : Type} {Q : List Event → α → Prop}
  {h : List Event} {cell probed : Cell}

/-! ## Conditions -/

/-- Setting a condition of a Cell sets the one of its type, and no other. -/
@[simp] theorem conditionTrue_set (cell : Cell) (rt : Runtime) (conditionType : String) (status : ConditionStatus)
    (reason message other : String) :
    conditionTrue (cell.setCondition rt conditionType status reason message).status.conditions other =
      if conditionType = other then status == .true else conditionTrue cell.status.conditions other :=
  conditionTrue_setCondition ..

@[simp] theorem set_metadata (cell : Cell) (rt : Runtime) (conditionType : String) (status : ConditionStatus)
    (reason message : String) :
    (cell.setCondition rt conditionType status reason message).metadata = cell.metadata := rfl

@[simp] theorem set_spec (cell : Cell) (rt : Runtime) (conditionType : String) (status : ConditionStatus)
    (reason message : String) :
    (cell.setCondition rt conditionType status reason message).spec = cell.spec := rfl

@[simp] theorem set_phase (cell : Cell) (rt : Runtime) (conditionType : String) (status : ConditionStatus)
    (reason message : String) :
    (cell.setCondition rt conditionType status reason message).status.phase = cell.status.phase := rfl

@[simp] theorem set_managedCluster (cell : Cell) (rt : Runtime) (conditionType : String) (status : ConditionStatus)
    (reason message : String) :
    (cell.setCondition rt conditionType status reason message).status.managedCluster = cell.status.managedCluster := rfl

@[simp] theorem set_provider (cell : Cell) (rt : Runtime) (conditionType : String) (status : ConditionStatus)
    (reason message : String) :
    (cell.setCondition rt conditionType status reason message).status.provider = cell.status.provider := rfl

/-- What is found of the ManagedCluster goes into its own part of the status, and into one condition. -/
theorem connected_frame (cell : Cell) (rt : Runtime) (managedCluster : ManagedCluster) (connection : Connection) :
    Probed cell { cell.connected rt managedCluster connection with status.provider := { k3kVersion := Platform.k3kVersion } } connection
      false := by
  rw [Cell.connected]
  cases hlease : connection.lease with
  | error e => exact ⟨rfl, rfl, rfl, rfl, rfl, rfl, rfl, nofun, by simp, rfl, rfl, rfl, rfl⟩
  | ok lease =>
    dsimp only
    split_ifs
    · exact ⟨rfl, rfl, rfl, rfl, rfl, rfl, rfl, nofun, by simp, rfl, rfl, rfl, rfl⟩
    · exact ⟨rfl, rfl, rfl, rfl, rfl, rfl, rfl, nofun, rfl, rfl, rfl, rfl, rfl⟩

/-- The first half of a round: what is found of the ManagedCluster, then at most one condition on the
baseline, then the baseline. -/
theorem probed_of_stages (cell : Cell) (rt : Runtime) (managedCluster : ManagedCluster) (connection : Connection)
    (baseline : Baseline)
    {between : Cell} (hbetween : between = cell.connected rt managedCluster connection ∨
      ∃ reason message, between = (cell.connected rt managedCluster connection).setCondition rt "ProviderReady" .false
        reason message) :
    Probed cell (between.withBaseline rt baseline) connection baseline.observation.ready := by
  have hframe := connected_frame cell rt managedCluster connection
  generalize cell.connected rt managedCluster connection = connected at hbetween hframe
  have hfresh : conditionTrue between.status.conditions "InventoryFresh" =
    conditionTrue cell.status.conditions "InventoryFresh" := by
    rcases hbetween with rfl | ⟨reason, message, rfl⟩
    · exact hframe.fresh
    · rw [conditionTrue_set]
      exact hframe.fresh
  have hrest : between.metadata = connected.metadata ∧ between.spec = connected.spec ∧
      between.status.phase = connected.status.phase ∧ between.status.managedCluster =
        connected.status.managedCluster := by
    rcases hbetween with rfl | ⟨reason, message, rfl⟩ <;> exact ⟨rfl, rfl, rfl, rfl⟩
  obtain ⟨hmetadata, hspec, hphase, hmanaged⟩ := hrest
  have hinventory : between.status.nodes = cell.status.nodes ∧ between.status.storageInventory =
    cell.status.storageInventory ∧
      between.status.nodePorts = cell.status.nodePorts := by
    rcases hbetween with rfl | ⟨reason, message, rfl⟩ <;> exact hframe.inventory
  rw [Cell.withBaseline]
  dsimp only
  split_ifs with hready hobserved
  · exact ⟨hmetadata.trans hframe.metadata, hspec.trans hframe.spec, hphase.trans hframe.phase,
      hmanaged ▸ hframe.joined,
      hmanaged ▸ hframe.available, hmanaged ▸ hframe.leaseFresh, rfl,
        fun _ => by simp, by simpa using hfresh, rfl, hinventory⟩
  · exact ⟨hmetadata.trans hframe.metadata, hspec.trans hframe.spec, hphase.trans hframe.phase,
      hmanaged ▸ hframe.joined,
      hmanaged ▸ hframe.available, hmanaged ▸ hframe.leaseFresh, rfl,
        fun h => absurd h hready, by simpa using hfresh, rfl, hinventory⟩
  · exact ⟨hmetadata.trans hframe.metadata, hspec.trans hframe.spec, hphase.trans hframe.phase,
      hmanaged ▸ hframe.joined,
      hmanaged ▸ hframe.available, hmanaged ▸ hframe.leaseFresh, rfl, fun h => absurd h hready, hfresh, rfl, hinventory⟩

/-! ## The inventory -/

/-- What the projection of an inventory leaves alone, and what it says about the inventory. -/
structure Projects (Γ : Ctx) (rt : Runtime) (cell : Cell) (source : InventorySource) (names : List String)
    (outcome : Cell × Bool) : Prop where
  metadata : outcome.1.metadata = cell.metadata
  spec : outcome.1.spec = cell.spec
  phase : outcome.1.status.phase = cell.status.phase
  managedCluster : outcome.1.status.managedCluster = cell.status.managedCluster
  provider : outcome.1.status.provider = cell.status.provider
  conditions : ∀ conditionType, conditionType ≠ "InventoryFresh" → conditionType ≠ "AcceleratorReady" →
    conditionType ≠ "NodePortInventoryFresh" →
    conditionTrue outcome.1.status.conditions conditionType = conditionTrue cell.status.conditions conditionType
  fresh : outcome.2 = true → conditionTrue outcome.1.status.conditions "InventoryFresh" = true
  overlooked : Overlooks Γ rt cell source names → outcome.2 = false ∧
    conditionTrue outcome.1.status.conditions "InventoryFresh" = conditionTrue cell.status.conditions "InventoryFresh"
  noticed : ¬Overlooks Γ rt cell source names → outcome.2 = false →
    conditionTrue outcome.1.status.conditions "InventoryFresh" = false

/-- What is overlooked, of the nodes and pods that were listed. -/
theorem overlooks_iff {source : InventorySource} {nodes : List Node} {pods : Option (List Pod)} {names : List String}
    (hlisted : source.listed = some (nodes, pods)) :
    Overlooks Γ rt cell source names ↔ (projectNodes rt cell nodes pods names).status.nodes.any (·.ready) = false ∨
      (projectNodes rt cell nodes pods names).status.nodes.any (·.ready) = true ∧ ∃ storage e,
        source.reader.storage = some storage ∧
        (projectStorageInventory Γ rt storage nodes
          (projectNodes rt cell nodes pods names).status.nodes).failure = none ∧
        source.reader.services = some (.error e) := by
  constructor
  · intro hoverlooks
    cases hoverlooks with
    | unready hlisted' hready =>
      cases hlisted.symm.trans hlisted'
      exact Or.inl hready
    | services hlisted' hready hstorage hcomplete hservices =>
      cases hlisted.symm.trans hlisted'
      exact Or.inr ⟨hready, _, _, hstorage, hcomplete, hservices⟩
  · rintro (hready | ⟨hready, storage, e, hstorage, hcomplete, hservices⟩)
    · exact .unready hlisted hready
    · exact .services hlisted hready hstorage hcomplete hservices

/-- The projection of nodes and pods that were listed. -/
theorem projects_projectInventory {source : InventorySource} {nodes : List Node} {pods : Option (List Pod)}
    {names : List String} (hlisted : source.listed = some (nodes, pods)) :
    Projects Γ rt cell source names (projectInventory Γ rt cell source.reader nodes pods names) := by
  have hoverlooks : Overlooks Γ rt cell source names ↔ _ := overlooks_iff hlisted
  have hconditions : (projectNodes rt cell nodes pods names).status.conditions = cell.status.conditions := rfl
  rw [projectInventory]
  dsimp only
  cases hready : (projectNodes rt cell nodes pods names).status.nodes.any (·.ready) with
  | false =>
    rw [hready] at hoverlooks
    refine ⟨rfl, rfl, rfl, rfl, rfl, fun t _ ht _ => ?_, nofun, fun _ => ⟨rfl, ?_⟩,
      fun hno => absurd (hoverlooks.mpr (Or.inl rfl)) hno⟩
    · simp [Ne.symm ht, hconditions]
    · simp [hconditions]
  | true =>
    rw [hready] at hoverlooks
    cases hstorage : source.reader.storage with
    | none =>
      have hno : ¬Overlooks Γ rt cell source names := by simp [hoverlooks, hstorage]
      refine ⟨rfl, rfl, rfl, rfl, rfl, fun t ht _ _ => ?_, nofun, fun hyes => absurd hyes hno, fun _ _ => ?_⟩
      · simp [Ne.symm ht, hconditions]
      · simp
    | some storage =>
      dsimp only
      cases hfailure : (projectStorageInventory Γ rt storage nodes
        (projectNodes rt cell nodes pods names).status.nodes).failure with
      | some failure =>
        have hno : ¬Overlooks Γ rt cell source names := by simp [hoverlooks, hstorage, hfailure]
        refine ⟨rfl, rfl, rfl, rfl, rfl, fun t ht _ _ => ?_, nofun, fun hyes => absurd hyes hno, fun _ _ => ?_⟩
        · simp [Ne.symm ht, hconditions]
        · simp
      | none =>
        cases hservices : source.reader.services with
        | none =>
          have hno : ¬Overlooks Γ rt cell source names := by simp [hoverlooks, hservices]
          refine ⟨rfl, rfl, rfl, rfl, rfl, fun t ht hacc hport => ?_, fun _ => ?_, fun hyes => absurd hyes hno, nofun⟩
          · simp [Ne.symm ht, Ne.symm hacc, Ne.symm hport, hconditions]
          · simp
        | some services =>
          cases services with
          | error e =>
            have hyes : Overlooks Γ rt cell source names :=
              hoverlooks.mpr (Or.inr ⟨rfl, storage, e, hstorage, hfailure, hservices⟩)
            refine ⟨rfl, rfl, rfl, rfl, rfl, fun t _ _ hport => ?_, nofun, fun _ => ⟨rfl, ?_⟩,
              fun hno => absurd hyes hno⟩
            · simp [Ne.symm hport, hconditions]
            · simp [hconditions]
          | ok services =>
            have hno : ¬Overlooks Γ rt cell source names := by simp [hoverlooks, hservices]
            refine ⟨rfl, rfl, rfl, rfl, rfl, fun t ht hacc _ => ?_, fun _ => ?_, fun hyes => absurd hyes hno, nofun⟩
            · simp [Ne.symm ht, Ne.symm hacc, hconditions]
            · simp

/-- A failure to list that the projection reports. -/
theorem projects_unlisted {source : InventorySource} {names : List String} {e : Err} (hlisted : source.listed = none) :
    Projects Γ rt cell source names
      (cell.setCondition rt "InventoryFresh" .false "HostReadFailed" e.message, false) := by
  have hno : ¬Overlooks Γ rt cell source names := by
    intro hyes
    cases hyes with
    | unready hsome => nomatch hlisted.symm.trans hsome
    | services hsome => nomatch hlisted.symm.trans hsome
  refine ⟨rfl, rfl, rfl, rfl, rfl, fun t ht _ _ => ?_, nofun, fun hyes => absurd hyes hno, fun _ _ => ?_⟩
  · simp [Ne.symm ht]
  · simp

/-- The projection of whatever a reader answers. -/
theorem projects_projectSource (cell : Cell) (source : InventorySource) (names : List String) :
    Projects Γ rt cell source names (projectSource Γ rt cell source names) := by
  rw [projectSource]
  cases hnodes : source.nodes with
  | error e => exact projects_unlisted (by simp [InventorySource.listed, hnodes])
  | ok nodes =>
    cases hpods : source.pods with
    | none => exact projects_projectInventory (by simp [InventorySource.listed, hnodes, hpods])
    | some pods =>
      cases pods with
      | error e => exact projects_unlisted (by simp [InventorySource.listed, hnodes, hpods])
      | ok pods => exact projects_projectInventory (by simp [InventorySource.listed, hnodes, hpods])

/-! ## Calls -/

/-- A call to the API server, and what comes after it. -/
theorem cellSafe_api (call : ApiCall) (f : Except Err call.Res → Action α) :
    CellSafe Γ rt key Q (api call >>= f) h ↔
      CellPermitted Γ rt key h (.api call) ∧ ∀ r, CellSafe Γ rt key Q (f r) (h ++ [event (.api call) r]) := Iff.rfl

/-- A call to a host, and what comes after it; it is always permitted. -/
theorem cellSafe_host (call : HostCall) (f : call.Res → Action α) :
    CellSafe Γ rt key Q (host call >>= f) h ↔ ∀ r, CellSafe Γ rt key Q (f r) (h ++ [event (.host call) r]) :=
  ⟨fun hsafe => hsafe.2, fun hsafe => ⟨.host call, hsafe⟩⟩

/-- The Cell that a round works on does not change as it goes on. -/
theorem Opened.append (hopened : Opened key h cell) (t : List Event) : Opened key (h ++ t) cell := by
  cases hopened with
  | read hdeleting hheld => exact .read hdeleting hheld
  | adopted hdeleting hheld => exact .adopted hdeleting hheld

theorem Closing.append (hclosing : Closing key h cell) (t : List Event) : Closing key (h ++ t) cell := by
  cases hclosing with
  | read hdeleting hheld => exact .read hdeleting hheld

/-- A call to the API server leaves the baseline unread. -/
theorem not_baselineRead_api (hunread : ¬BaselineRead h) (call : ApiCall) (r : Except Err call.Res) :
    ¬BaselineRead (h ++ [event (.api call) r]) := by
  rintro ⟨cell, observation, hsaw⟩
  rcases List.mem_append.mp hsaw with hold | hnew
  · exact hunread ⟨cell, observation, hold⟩
  · have hcall : Call.host (.observeBaseline cell) = .api call := congrArg Sigma.fst (List.mem_singleton.mp hnew)
    nomatch hcall

/-! ## Writing the status -/

/-- Ending a round with a status that it may end with is permitted. -/
theorem cellSafe_persistCell {desired : Cell} (requeueAfter : Nat) (hcut : cellExitHistory h = h)
    (hexit : Opened key h cell ∧ CellExit Γ rt cell h desired.status ∨
      Closing key h cell ∧ ¬BaselineRead h ∧ desired.status = (cell.blocked rt).status)
    (hmetadata : desired.metadata = cell.metadata) :
    CellSafe Γ rt key (fun _ _ => True) (persistCell desired requeueAfter) h := by
  have htry : ∀ h', (∃ tail, h' = h ++ tail ∧ ∀ e ∈ tail, isCellStatusCall e = true) →
      CellSafe Γ rt key (fun h' r => ∀ e, r = .error e → e.isConflict = true →
        ∃ tail, h' = h ++ tail ∧ ∀ e ∈ tail, isCellStatusCall e = true) (tryUpdateCellStatus desired) h' := by
    rintro h' ⟨tail, rfl, htail⟩
    have hsnoc : ∀ (l : List Event) (e : Event), (∀ e ∈ l, isCellStatusCall e = true) → isCellStatusCall e = true →
        ∀ e' ∈ l ++ [e], isCellStatusCall e' = true := by
      intro l e hl he e' he'
      rcases List.mem_append.mp he' with he' | he'
      · exact hl e' he'
      · rwa [List.mem_singleton.mp he']
    have hkey : desired.key = cell.key := by rw [Cell.key, hmetadata]
    rw [tryUpdateCellStatus, cellSafe_api]
    refine ⟨.read rfl, fun r => ?_⟩
    have hread := hsnoc tail (event (.api (.getCell desired.key)) r) htail rfl
    rw [List.append_assoc]
    cases r with
    | error e => exact fun _ _ _ => ⟨_, rfl, hread⟩
    | ok current =>
      dsimp only
      rw [cellSafe_api]
      have hsaw : Saw (h ++ (tail ++ [event (.api (.getCell desired.key)) (.ok current)])) (.api (.getCell cell.key))
        (.ok current) := by
        rw [← List.append_assoc, hkey]
        exact saw_last _ _ _
      refine ⟨.persist rfl hread hcut hexit hsaw rfl, fun r => ?_⟩
      rw [List.append_assoc]
      cases r with
      | error e => exact fun _ _ _ => ⟨_, rfl, hsnoc _ _ hread rfl⟩
      | ok stored => exact fun _ hfailed => nomatch hfailed
  rw [persistCell, CellSafe, guarded_bind]
  refine (guarded_retry htry 4 ⟨[], (List.append_nil h).symm, fun e he => nomatch he⟩).mono (fun _ _ hp => hp) ?_
  rintro h' (e | ⟨⟩) - <;> trivial

/-- A history that ends with another call is not cut. -/
theorem cellExitHistory_last (h : List Event) (e : Event) (he : isCellStatusCall e = false) :
    cellExitHistory (h ++ [e]) = h ++ [e] :=
  List.rdropWhile_concat_neg _ _ _ (by simp [he])

/-! ## Deletion -/

/-- The calls of a deletion are permitted. -/
theorem cellSafe_deletion (hclosing : Closing key h cell) (hunread : ¬BaselineRead h) :
    CellSafe Γ rt key (fun _ _ => True) (cellReconcileDeletion rt cell) h := by
  rw [cellReconcileDeletion]
  split_ifs with hheld
  · trivial
  · rw [cellSafe_api]
    refine ⟨.read rfl, fun r => ?_⟩
    cases r with
    | error e => trivial
    | ok clusters =>
      dsimp only
      have hclosing' := Closing.append hclosing [event (.api .listVirtualClusters) (.ok clusters)]
      split_ifs with href
      · exact cellSafe_persistCell 15 (cellExitHistory_last _ _ rfl)
          (Or.inr ⟨hclosing', not_baselineRead_api hunread _ _, rfl⟩) rfl
      · rw [cellSafe_api]
        refine ⟨.release hclosing' (saw_last _ _ _) (by simpa using href), fun r => ?_⟩
        cases r <;> trivial

/-! ## The round -/

/-- The inventory is observed at the last answer, and the round ends with what is made of it. -/
theorem cellSafe_settle {connection : Connection} {providerReady : Bool} {clusters : List VirtualCluster} {e : Event}
    {outcome : Cell × Bool} {requeueAfter : Nat} (hopened : Opened key h cell)
    (hprobed : Probed cell probed connection providerReady) (hlisted : listedClusters (h ++ [e]) = clusters)
    (hmissing : ∀ name answer, e ≠ event (.api (.getManagedCluster name)) answer)
    (hunlisted : ∀ e', e ≠ event (.api .listVirtualClusters) (.error e')) (hcall : isCellStatusCall e = false)
    (hsurveyed : Surveyed Γ rt probed (clusterNames cell clusters) e outcome)
    (hmetadata : outcome.1.metadata = probed.metadata) :
    CellSafe Γ rt key (fun _ _ => True)
      (persistCell (outcome.1.settled rt connection providerReady outcome.2) requeueAfter) (h ++ [e]) := by
  subst hlisted
  refine cellSafe_persistCell _ (cellExitHistory_last _ _ hcall)
    (Or.inl ⟨Opened.append hopened _, .settled hprobed hmissing hunlisted hsurveyed⟩) ?_
  rw [Cell.settled]
  split_ifs <;> exact hmetadata.trans hprobed.metadata

/-- The names of the clusters of a Cell depend on its name only. -/
theorem clusterNames_of_metadata (hmetadata : probed.metadata = cell.metadata) (clusters : List VirtualCluster) :
    clusterNames probed clusters = clusterNames cell clusters := by
  simp [clusterNames, VirtualCluster.refersTo, hmetadata]

/-- The clusters that were listed last count. -/
theorem listedClusters_list (h : List Event) (clusters : List VirtualCluster) :
    listedClusters (h ++ [event (.api .listVirtualClusters) (.ok clusters)]) = clusters := by
  simp [listedClusters, event]

/-- Calls to the host list no clusters. -/
theorem listedClusters_host (h : List Event) (call : HostCall) (r : call.Res) :
    listedClusters (h ++ [event (.host call) r]) = listedClusters h := by
  simp [listedClusters, event]

/-- From the inventory on, all calls are permitted. -/
theorem cellSafe_inventoryStage {connection : Connection} {providerReady : Bool} (hopened : Opened key h cell)
    (hprobed : Probed cell probed connection providerReady) :
    CellSafe Γ rt key (fun _ _ => True) (inventoryStage Γ cfg rt probed connection providerReady) h := by
  rw [inventoryStage, cellSafe_api]
  refine ⟨.read rfl, fun r => ?_⟩
  cases r with
  | error e =>
    exact cellSafe_persistCell 10 (cellExitHistory_last _ _ rfl)
      (Or.inl ⟨Opened.append hopened _, .unlisted hprobed⟩) hprobed.metadata
  | ok clusters =>
    dsimp only
    rw [clusterNames_of_metadata hprobed.metadata]
    generalize (if connection.joined && connection.available then 30 else 10) = requeueAfter
    have hlist := listedClusters_list h clusters
    have hopened' := Opened.append hopened [event (.api .listVirtualClusters) (.ok clusters)]
    -- the reader answers, whichever reader it is
    have hask : ∀ h', Opened key h' cell → listedClusters h' = clusters →
        CellSafe Γ rt key (fun _ _ => True) (askInventory Γ rt probed (clusterNames cell clusters) >>= fun outcome =>
          persistCell (outcome.1.settled rt connection providerReady outcome.2) requeueAfter) h' := by
      intro h' hopened hlisted
      rw [askInventory, Prog.bind_assoc, cellSafe_host]
      intro source
      exact cellSafe_settle hopened hprobed ((listedClusters_host ..).trans hlisted)
        (fun _ _ heq => nomatch congrArg Sigma.fst heq)
        (fun _ heq => nomatch congrArg Sigma.fst heq) rfl (.read source)
          (projects_projectSource probed source _).metadata
    rw [observeInventory]
    split_ifs with hreader hfactory
    · exact hask _ hopened' hlist
    · rw [Prog.bind_assoc, cellSafe_host]
      intro r
      have hlisted := (listedClusters_host _ (.inventoryReaderForCell probed) r).trans hlist
      match r with
      | .error e =>
        exact cellSafe_settle hopened' hprobed hlisted (fun _ _ heq => nomatch congrArg Sigma.fst heq)
          (fun _ heq => nomatch congrArg Sigma.fst heq) rfl
            (.unread _ _ fun _ heq => nomatch congrArg Sigma.fst heq) rfl
      | .ok none =>
        exact cellSafe_settle hopened' hprobed hlisted (fun _ _ heq => nomatch congrArg Sigma.fst heq)
          (fun _ heq => nomatch congrArg Sigma.fst heq) rfl
            (.unread _ _ fun _ heq => nomatch congrArg Sigma.fst heq) rfl
      | .ok (some ()) => exact hask _ (Opened.append hopened' _) hlisted
    · exact cellSafe_settle hopened hprobed hlist (fun _ _ heq => nomatch congrArg Sigma.fst heq)
        (fun _ heq => by cases heq) rfl
        (.unread _ _ fun _ heq => nomatch congrArg Sigma.fst heq) rfl

/-- So they are from the baseline on. -/
theorem cellSafe_baselineStage {managedCluster : ManagedCluster} {connection : Connection}
    (hopened : Opened key h cell) :
    CellSafe Γ rt key (fun _ _ => True)
      (baselineStage Γ cfg rt (cell.connected rt managedCluster connection) connection) h := by
  -- what comes after the baseline, whatever was found of it
  have hnext : ∀ h' between baseline, Opened key h' cell → (between = cell.connected rt managedCluster connection ∨
      ∃ reason message, between = (cell.connected rt managedCluster connection).setCondition rt "ProviderReady" .false
        reason message) →
      CellSafe Γ rt key (fun _ _ => True)
        (inventoryStage Γ cfg rt (between.withBaseline rt baseline) connection baseline.observation.ready) h' :=
    fun h' between baseline hopened hbetween =>
      cellSafe_inventoryStage hopened (probed_of_stages cell rt managedCluster connection baseline hbetween)
  have hask : ∀ h', Opened key h' cell →
      CellSafe Γ rt key (fun _ _ => True)
        (askBaseline rt (cell.connected rt managedCluster connection) >>= fun outcome =>
        inventoryStage Γ cfg rt (outcome.1.withBaseline rt outcome.2) connection outcome.2.observation.ready) h' := by
    intro h' hopened
    rw [askBaseline, Prog.bind_assoc, cellSafe_host]
    intro r
    cases r with
    | error e => exact hnext _ _ _ (Opened.append hopened _) (Or.inr ⟨_, _, rfl⟩)
    | ok observed =>
      exact hnext _ _ { observation := observed, observed := true } (Opened.append hopened _) (Or.inl rfl)
  rw [baselineStage, observeBaseline]
  split_ifs with hreader hfactory
  · exact hask h hopened
  · rw [Prog.bind_assoc, cellSafe_host]
    intro r
    have hopened' := Opened.append hopened
      [event (.host (.baselineReaderForCell (cell.connected rt managedCluster connection))) r]
    match r with
    | .error e => exact hnext _ _ _ hopened' (Or.inr ⟨_, _, rfl⟩)
    | .ok none => exact hnext _ _ _ hopened' (Or.inr ⟨_, _, rfl⟩)
    | .ok (some ()) => exact hask _ hopened'
  · exact hnext _ _ _ hopened (Or.inr ⟨_, _, rfl⟩)

/-- So they are from the reading of the managed cluster on. -/
theorem cellSafe_managedClusterStage (hopened : Opened key h cell) (hunread : ¬BaselineRead h) :
    CellSafe Γ rt key (fun _ _ => True) (managedClusterStage Γ cfg rt cell) h := by
  rw [managedClusterStage, cellSafe_api]
  refine ⟨.read rfl, fun r => ?_⟩
  cases r with
  | error e =>
    dsimp only
    split_ifs with he
    · trivial
    · exact cellSafe_persistCell 10 (cellExitHistory_last _ _ rfl)
        (Or.inl ⟨Opened.append hopened _, .missing (by simpa using he) hunread⟩) rfl
  | ok managedCluster =>
    dsimp only
    have hopened' := Opened.append hopened
      [event (.api (.getManagedCluster cell.spec.managedClusterRef.name)) (.ok managedCluster)]
    rw [managedClusterLeaseFresh, Prog.bind_assoc, cellSafe_api]
    refine ⟨.read rfl, fun r => ?_⟩
    cases r with
    | error e => exact cellSafe_baselineStage (Opened.append hopened' _)
    | ok lease =>
      dsimp only
      cases lease.renewTime with
      | none => exact cellSafe_baselineStage (Opened.append hopened' _)
      | some renewTime => exact cellSafe_baselineStage (Opened.append hopened' _)

end CellWalkAux

open CellWalkAux

/-- Every call of a round for a Cell is permitted. -/
theorem cellSafe_reconcile (Γ : Ctx) (cfg : CellConfig) (rt : Runtime) (key : NamespacedName) :
    CellSafe Γ rt key (fun _ _ => True) (cellReconcile Γ cfg rt key) [] := by
  rw [cellReconcile, cellSafe_api]
  refine ⟨.read rfl, fun r => ?_⟩
  cases r with
  | error e => trivial
  | ok cell =>
    dsimp only
    have hunread : ¬BaselineRead ([] ++ [event (.api (.getCell key)) (.ok cell)]) :=
      not_baselineRead_api (fun ⟨_, _, hsaw⟩ => nomatch hsaw) _ _
    split_ifs with hdeleting hheld
    · by_cases hheld : cell.held = true
      · exact cellSafe_deletion (.read hdeleting hheld) hunread
      · rw [cellReconcileDeletion, if_pos (by simpa [Cell.held] using hheld)]
        trivial
    · rw [cellSafe_api]
      refine ⟨.adopt rfl (by simpa using hdeleting) (by simpa [Cell.held] using hheld), fun r => ?_⟩
      cases r with
      | error e => trivial
      | ok stored =>
        exact cellSafe_managedClusterStage (.adopted (by simpa using hdeleting) (by simpa [Cell.held] using hheld))
          (not_baselineRead_api hunread _ _)
    · exact cellSafe_managedClusterStage (.read (by simpa using hdeleting) (by simpa [Cell.held] using hheld)) hunread

end KubeCell
