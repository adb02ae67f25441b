import KubeCell.Lemmas.CellWalk
import KubeCell.Theorems.Ready

/-!
# The status of a Cell

What a round for a Cell leaves in its status, over all its exits: whether a Ready agrees with the rest of the status,
and whether the condition on the inventory speaks of this round.
-/

namespace KubeCell

open RoundAux CellWalkAux

/-- A Ready that agrees with the rest of the status: the ManagedCluster, the five parts of the
baseline, and the conditions. -/
structure CellStatus.Consistent (status : CellStatus) : Prop where
  managedCluster : status.managedCluster.joined = true ∧ status.managedCluster.available = true ∧
    status.managedCluster.leaseFresh = true
  provider : status.provider.namespaceReady = true ∧ status.provider.k3kCRDsReady = true ∧
    status.provider.controllerReady = true ∧
    status.provider.cniReady = true ∧ status.provider.topoLVMReady = true
  conditions : ∀ conditionType ∈ ["Joined", "Available", "ProviderReady", "InventoryFresh"],
    conditionTrue status.conditions conditionType = true

/-- The round started with a Ready, and ends at a failure to list the VirtualClusters. -/
def Unlisted (key : NamespacedName) (h : List Event) : Prop :=
  ∃ cell h' e, Opened key h cell ∧ cell.status.phase = .ready ∧
    cellExitHistory h = h' ++ [event (.api .listVirtualClusters) (.error e)]

/-- The answers of a reader were projected as the last thing before the status was written, and the
inventory was complete. -/
def Projected (Γ : Ctx) (rt : Runtime) (key : NamespacedName) (h : List Event) : Prop :=
  ∃ cell h' source nodes pods, Opened key h cell ∧ cellExitHistory h = h' ++ [event (.host .readInventory) source] ∧
    source.listed = some (nodes, pods) ∧
    (projectInventory Γ rt cell source.reader nodes pods
      (clusterNames cell (listedClusters (cellExitHistory h)))).2 = true

/-- The round ends without a complete inventory and without saying so: the ManagedCluster is not there, or the
projection overlooks that something is missing. -/
def Unnoticed (Γ : Ctx) (rt : Runtime) (cell : Cell) (h : List Event) : Prop :=
  (∃ h' name e, h = h' ++ [event (.api (.getManagedCluster name)) (.error e)]) ∨
    ∃ h' source, h = h' ++ [event (.host .readInventory) source] ∧
      Overlooks Γ rt cell source (clusterNames cell (listedClusters h))

namespace CellStatusAux

variable {Γ : Ctx} {rt : Runtime} {key : NamespacedName} {h tail : List Event} {cell cell' probed : Cell}

/-- The Cell a round works on is the one it has read, or the one it got back. -/
theorem Opened.unique (hopened : Opened key h cell) (hopened' : Opened key h cell') : cell = cell' := by
  cases hopened with
  | read _ hheld =>
    cases hopened' with
    | read => rfl
    | adopted _ hheld' => simp [hheld] at hheld'
  | adopted _ hheld =>
    cases hopened' with
    | read _ hheld' => simp [hheld] at hheld'
    | adopted => rfl

/-- A round works on a Cell that is being deleted, or on one that is not. -/
theorem Opened.not_closing (hopened : Opened key h cell) : ¬Closing key h cell' := by
  intro hclosing
  cases hopened with
  | read hdeleting =>
    cases hclosing with
    | read hdeleting' => simp [hdeleting] at hdeleting'
  | adopted hdeleting =>
    cases hclosing with
    | read hdeleting' => simp [hdeleting] at hdeleting'

/-- The history is cut where the writing of the status starts. -/
theorem cellExitHistory_tail (hexit : cellExitHistory h = h) (htail : ∀ e ∈ tail, isCellStatusCall e = true) :
    cellExitHistory (h ++ tail) = h := by
  unfold cellExitHistory at hexit ⊢
  induction tail using List.reverseRecOn with
  | nil => simpa using hexit
  | append_singleton tail e ih =>
    rw [← List.append_assoc, List.rdropWhile_concat_pos _ _ _ (htail e (by simp))]
    exact ih fun e' he' => htail e' (by simp [he'])

/-- Writing the status reads no baseline. -/
theorem baselineRead_tail (htail : ∀ e ∈ tail, isCellStatusCall e = true) :
    BaselineRead (h ++ tail) ↔ BaselineRead h := by
  constructor
  · rintro ⟨cell, observation, hsaw⟩
    rcases List.mem_append.mp hsaw with hold | hnew
    · exact ⟨cell, observation, hold⟩
    · nomatch htail _ hnew
  · rintro ⟨cell, observation, hsaw⟩
    exact ⟨cell, observation, List.mem_append_left _ hsaw⟩

/-- A status that a round writes: it ends a round that works on a Cell, or one that deletes it. -/
theorem exit_of_persisted {cfg : CellConfig} {o stored : Cell} {q : Action (Except Err Result)}
    (hrun : Prog.Reaches event (cellReconcile Γ cfg rt key)
      (h ++ [event (.api (.updateCellStatus o)) (.ok stored)]) q) :
    (∃ cell, Opened key h cell ∧ CellExit Γ rt cell (cellExitHistory h) o.status) ∨
      ∃ cell, Closing key h cell ∧ ¬BaselineRead h ∧ o.status = (cell.blocked rt).status := by
  obtain ⟨call, answer, hevent, hpermitted⟩ := (cellSafe_reconcile Γ cfg rt key).reaches_last hrun
  obtain rfl : Call.api (.updateCellStatus o) = call := congrArg Sigma.fst hevent
  rw [List.nil_append] at hpermitted
  cases hpermitted with
  | read hread => nomatch hread
  | @persist h₀ tail cell _ _ heq htail hcut hexit =>
    subst heq
    rw [cellExitHistory_tail hcut htail]
    rcases hexit with ⟨hopened, hexit⟩ | ⟨hclosing, hunread, hstatus⟩
    · exact Or.inl ⟨cell, Opened.append hopened tail, hexit⟩
    · exact Or.inr ⟨cell, Closing.append hclosing tail, mt (baselineRead_tail htail).mp hunread, hstatus⟩

/-! ## The phase -/

/-- The phase at the end of a round is Ready exactly when everything was found ready. -/
theorem settled_phase (cell : Cell) (rt : Runtime) (connection : Connection) (providerReady inventoryReady : Bool) :
    (cell.settled rt connection providerReady inventoryReady).status.phase = .ready ↔
      connection.joined = true ∧ connection.available = true ∧ providerReady = true ∧ inventoryReady = true := by
  rw [Cell.settled]
  split_ifs with hall <;> simp_all

/-- What the end of a round adds to the conditions is about the ManagedCluster. -/
theorem settled_condition (cell : Cell) (rt : Runtime) (connection : Connection) (providerReady inventoryReady : Bool)
    {conditionType : String} (hjoined : conditionType ≠ "Joined") (havailable : conditionType ≠ "Available") :
    conditionTrue (cell.settled rt connection providerReady inventoryReady).status.conditions conditionType =
      conditionTrue cell.status.conditions conditionType := by
  rw [Cell.settled]
  split_ifs <;> simp [Ne.symm hjoined, Ne.symm havailable]

/-- A Cell of which everything was found ready is consistent. -/
theorem consistent_settled {surveyed : Cell} {connection : Connection} {providerReady : Bool}
    (hprobed : Probed cell probed connection providerReady)
      (hmanaged : surveyed.status.managedCluster = probed.status.managedCluster)
    (hprovider : surveyed.status.provider = probed.status.provider)
    (hcondition : conditionTrue surveyed.status.conditions "ProviderReady" =
      conditionTrue probed.status.conditions "ProviderReady")
    (hfresh : conditionTrue surveyed.status.conditions "InventoryFresh" = true) (hjoined : connection.joined = true)
    (havailable : connection.available = true) (hready : providerReady = true) :
    (surveyed.settled rt connection providerReady true).status.Consistent := by
  have hlease : connection.leaseFresh = true := by
    rw [Connection.available, Bool.and_eq_true] at havailable
    exact havailable.2
  have hparts := hprobed.provider.symm.trans hready
  simp only [Bool.and_eq_true, and_assoc] at hparts
  rw [Cell.settled, if_pos (by simp [hjoined, havailable, hready])]
  refine ⟨?_, ?_, ?_⟩
  · simp [hmanaged, hprobed.joined, hprobed.available, hprobed.leaseFresh, hjoined, havailable, hlease]
  · simpa [hprovider] using hparts
  · simp [hcondition, hprobed.providerReady hready, hfresh]

/-- The projection that is made at the end of a round was complete only if the answers of a reader were projected. -/
theorem surveyed_ready {names : List String} {e : Event} {surveyed : Cell}
    (hsurveyed : Surveyed Γ rt probed names e (surveyed, true)) :
    surveyed.status.managedCluster = probed.status.managedCluster ∧ surveyed.status.provider = probed.status.provider ∧
      conditionTrue surveyed.status.conditions "ProviderReady" =
        conditionTrue probed.status.conditions "ProviderReady" ∧
      conditionTrue surveyed.status.conditions "InventoryFresh" = true := by
  generalize houtcome : (surveyed, true) = outcome at hsurveyed
  cases hsurveyed with
  | unread => nomatch (Prod.mk.inj houtcome).2
  | read source =>
    have hprojects : Projects Γ rt probed source names _ := projects_projectSource probed source names
    rw [← houtcome] at hprojects
    exact ⟨hprojects.managedCluster, hprojects.provider, hprojects.conditions _ (by decide) (by decide) (by decide),
      hprojects.fresh rfl⟩

end CellStatusAux

open CellStatusAux

/-- In every round for a Cell, whatever the status it starts with and whatever it is answered: a status that is
written with the phase Ready agrees with itself, exactly when the round does not start with a Ready and end at a
failure to list the VirtualClusters. -/
theorem cell_ready_consistent_iff (Γ : Ctx) (cfg : CellConfig) (rt : Runtime) (key : NamespacedName) {h : List Event}
    {o stored : Cell} {q : Action (Except Err Result)}
    (hrun : Prog.Reaches event (cellReconcile Γ cfg rt key)
      (h ++ [event (.api (.updateCellStatus o)) (.ok stored)]) q) :
    (o.status.phase = .ready → o.status.Consistent) ↔ ¬Unlisted key h := by
  rcases exit_of_persisted hrun with ⟨cell, hopened, hexit⟩ | ⟨cell, hclosing, -, hstatus⟩
  · generalize hhistory : cellExitHistory h = h₀ at hexit
    generalize hstatus : o.status = status at hexit
    have hunlisted : Unlisted key h ↔ cell.status.phase = .ready ∧
      ∃ h' e, h₀ = h' ++ [event (.api .listVirtualClusters) (.error e)] := by
      constructor
      · rintro ⟨cell', h', e, hopened', hready, hlast⟩
        obtain rfl := Opened.unique hopened hopened'
        exact ⟨hready, h', e, hhistory ▸ hlast⟩
      · rintro ⟨hready, h', e, hlast⟩
        exact ⟨cell, h', e, hopened, hready, hhistory.trans hlast⟩
    rw [hunlisted]
    cases hexit with
    | missing =>
      refine iff_of_true (fun hready => nomatch hready) ?_
      rintro ⟨-, h', e, hlast⟩
      exact nomatch congrArg Sigma.fst (List.append_inj_right' hlast rfl |> List.singleton_inj.mp)
    | unlisted hprobed =>
      rw [set_phase, hprobed.phase]
      constructor
      · rintro hconsistent ⟨hready, -⟩
        have hfresh := (hconsistent hready).conditions "InventoryFresh" (by simp)
        simp at hfresh
      · exact fun hnot hready => absurd ⟨hready, _, _, rfl⟩ hnot
    | @settled h' e probed surveyed connection providerReady inventoryReady hprobed _ hlisted hsurveyed =>
      refine iff_of_true (fun hready => ?_) ?_
      · obtain ⟨hjoined, havailable, hprovider, rfl⟩ := (settled_phase ..).mp hready
        obtain ⟨hmanaged, hparts, hcondition, hfresh⟩ := surveyed_ready hsurveyed
        exact consistent_settled hprobed hmanaged hparts hcondition hfresh hjoined havailable hprovider
      · rintro ⟨-, h'', e', hlast⟩
        exact hlisted e' (List.singleton_inj.mp (List.append_inj_right' hlast rfl))
  · refine iff_of_true (fun hready => ?_) ?_
    · rw [hstatus] at hready
      nomatch hready
    · rintro ⟨cell', -, -, hopened, -⟩
      exact Opened.not_closing hopened hclosing

namespace CellStatusAux

variable {Γ : Ctx} {rt : Runtime} {key : NamespacedName} {h : List Event} {cell probed : Cell}

/-! ## The condition on the inventory -/

/-- The nodes that are projected depend on the specification of the Cell only. -/
theorem projectNodes_nodes (hspec : probed.spec = cell.spec) (nodes : List Node) (pods : Option (List Pod))
    (names : List String) :
    (projectNodes rt probed nodes pods names).status.nodes = (projectNodes rt cell nodes pods names).status.nodes := by
  simp only [projectNodes, hspec]

/-- So does what the projection overlooks. -/
theorem overlooks_congr (hspec : probed.spec = cell.spec) {source : InventorySource} {names : List String}
    (hoverlooks : Overlooks Γ rt cell source names) : Overlooks Γ rt probed source names := by
  cases hoverlooks with
  | unready hlisted hready => exact .unready hlisted (by rwa [projectNodes_nodes hspec])
  | services hlisted hready hstorage hcomplete hservices =>
    exact .services hlisted (by rwa [projectNodes_nodes hspec]) hstorage (by rwa [projectNodes_nodes hspec]) hservices

/-- So does whether the inventory is complete. -/
theorem projectInventory_complete (hspec : probed.spec = cell.spec) (reader : InventoryReader) (nodes : List Node)
    (pods : Option (List Pod)) (names : List String) :
    (projectInventory Γ rt probed reader nodes pods names).2 =
      (projectInventory Γ rt cell reader nodes pods names).2 := by
  rw [projectInventory, projectInventory]
  dsimp only
  rw [projectNodes_nodes hspec nodes pods names]
  split_ifs
  · rfl
  · cases reader.storage with
    | none => rfl
    | some storage =>
      dsimp only
      cases (projectStorageInventory Γ rt storage nodes
        (projectNodes rt cell nodes pods names).status.nodes).failure with
      | some failure => rfl
      | none =>
        cases reader.services with
        | none => rfl
        | some services => cases services <;> rfl

/-- The inventory is complete only when a reader fails to list neither nodes nor pods, and is then
what is made of them. -/
theorem projectSource_complete_iff (hspec : probed.spec = cell.spec) (source : InventorySource) (names : List String) :
    (projectSource Γ rt probed source names).2 = true ↔ ∃ nodes pods, source.listed = some (nodes, pods) ∧
      (projectInventory Γ rt cell source.reader nodes pods names).2 = true := by
  rw [projectSource]
  cases hnodes : source.nodes with
  | error e => simp [InventorySource.listed, hnodes]
  | ok nodes =>
    cases hpods : source.pods with
    | none => simp [InventorySource.listed, hnodes, hpods, projectInventory_complete hspec]
    | some pods =>
      cases pods with
      | error e => simp [InventorySource.listed, hnodes, hpods]
      | ok pods => simp [InventorySource.listed, hnodes, hpods, projectInventory_complete hspec]

/-- The check of the evaluator passes exactly when the condition is true. -/
theorem inventoryFreshnessCheck_passed_iff (rt : Runtime) (cell : Cell) :
    (inventoryFreshnessCheck rt cell).status = .passed ↔
      conditionTrue cell.status.conditions "InventoryFresh" = true := by
  rw [inventoryFreshnessCheck, unlessUnknown]
  split_ifs with hfresh <;> simp [planCheck, hfresh]

/-- The last call of a history is one call. -/
theorem last_inj {h h' : List Event} {e e' : Event} (heq : h ++ [e] = h' ++ [e']) : e = e' :=
  List.singleton_inj.mp (List.append_inj_right' heq rfl)

/-- An answer of a reader is one answer. -/
theorem source_inj {source source' : InventorySource}
    (heq : event (.host .readInventory) source = event (.host .readInventory) source') :
    source = source' := by
  cases heq
  rfl

/-! ### The end of a round and its inventory -/

/-- The last thing that a round did was to project the inventory, and it was complete. -/
def Completed (Γ : Ctx) (rt : Runtime) (cell : Cell) (h : List Event) : Prop :=
  ∃ h' source nodes pods, h = h' ++ [event (.host .readInventory) source] ∧ source.listed = some (nodes, pods) ∧
    (projectInventory Γ rt cell source.reader nodes pods (clusterNames cell (listedClusters h))).2 = true

/-- For the Cell that a round works on, that is what is asked. -/
theorem projected_iff (hopened : Opened key h cell) :
    Projected Γ rt key h ↔ Completed Γ rt cell (cellExitHistory h) := by
  constructor
  · rintro ⟨cell', h', source, nodes, pods, hopened', hrest⟩
    obtain rfl := Opened.unique hopened hopened'
    exact ⟨h', source, nodes, pods, hrest⟩
  · rintro ⟨h', source, nodes, pods, hrest⟩
    exact ⟨cell, h', source, nodes, pods, hopened, hrest⟩

/-- Nothing is complete where something else was done last. -/
theorem not_completed {e : Event} (hother : ∀ source, e ≠ event (.host .readInventory) source) :
    ¬Completed Γ rt cell (h ++ [e]) := by
  rintro ⟨h', source, nodes, pods, hlast, -⟩
  exact hother source (last_inj hlast)

/-- Where a reader answered last, its answer decides. -/
theorem completed_iff (hspec : probed.spec = cell.spec) (source : InventorySource) :
    Completed Γ rt cell (h ++ [event (.host .readInventory) source]) ↔ (projectSource Γ rt probed source
      (clusterNames cell (listedClusters (h ++ [event (.host .readInventory) source])))).2 = true := by
  rw [projectSource_complete_iff hspec]
  constructor
  · rintro ⟨h', source', nodes, pods, hlast, hrest⟩
    obtain rfl := source_inj (last_inj hlast)
    exact ⟨nodes, pods, hrest⟩
  · rintro ⟨nodes, pods, hrest⟩
    exact ⟨h, source, nodes, pods, rfl, hrest⟩

/-- A round notices that it has no inventory, unless the ManagedCluster was missing or a reader answered last. -/
theorem not_unnoticed {e : Event} (hmissing : ∀ name err, e ≠ event (.api (.getManagedCluster name)) (.error err))
    (hother : ∀ source, e ≠ event (.host .readInventory) source) : ¬Unnoticed Γ rt cell (h ++ [e]) := by
  rintro (⟨h', name, err, hlast⟩ | ⟨h', source, hlast, -⟩)
  · exact hmissing name err (last_inj hlast)
  · exact hother source (last_inj hlast)

/-- Where a reader answered last, the projection may overlook it. -/
theorem unnoticed_iff (hspec : probed.spec = cell.spec) (source : InventorySource) :
    Unnoticed Γ rt cell (h ++ [event (.host .readInventory) source]) ↔ Overlooks Γ rt probed source
      (clusterNames cell (listedClusters (h ++ [event (.host .readInventory) source]))) := by
  constructor
  · rintro (⟨h', name, err, hlast⟩ | ⟨h', source', hlast, hoverlooks⟩)
    · cases congrArg Sigma.fst (last_inj hlast)
    · obtain rfl := source_inj (last_inj hlast)
      exact overlooks_congr hspec hoverlooks
  · exact fun hoverlooks => Or.inr ⟨h, source, rfl, overlooks_congr hspec.symm hoverlooks⟩

/-- A survey says whether the inventory is complete, unless the round was fresh and does not notice. -/
theorem fresh_of_surveyed {e : Event} {surveyed : Cell} {inventoryReady : Bool} (hspec : probed.spec = cell.spec)
    (hmissing : ∀ name answer, e ≠ event (.api (.getManagedCluster name)) answer)
    (hsurveyed : Surveyed Γ rt probed (clusterNames cell (listedClusters (h ++ [e]))) e (surveyed, inventoryReady)) :
    (conditionTrue surveyed.status.conditions "InventoryFresh" = true ↔ Completed Γ rt cell (h ++ [e])) ↔
      ¬(conditionTrue probed.status.conditions "InventoryFresh" = true ∧ Unnoticed Γ rt cell (h ++ [e])) := by
  generalize houtcome : (surveyed, inventoryReady) = outcome at hsurveyed
  cases hsurveyed with
  | unread reason message hunread =>
    cases houtcome
    exact iff_of_true (iff_of_false (by simp) (not_completed hunread)) fun hboth =>
      not_unnoticed (fun name err => hmissing name _) hunread hboth.2
  | read source =>
    rw [unnoticed_iff hspec, completed_iff hspec]
    generalize clusterNames cell (listedClusters (h ++ [event (.host .readInventory) source])) = names at houtcome ⊢
    have hprojects : Projects Γ rt probed source names _ := projects_projectSource probed source names
    rw [← houtcome] at hprojects ⊢
    by_cases hoverlooks : Overlooks Γ rt probed source names
    · obtain ⟨hready, hkept⟩ := hprojects.overlooked hoverlooks
      simp only at hready hkept
      simp [hready, hkept, hoverlooks]
    · refine iff_of_true ?_ fun hboth => hoverlooks hboth.2
      cases inventoryReady with
      | true => exact iff_of_true (hprojects.fresh rfl) rfl
      | false => exact iff_of_false (by simpa using hprojects.noticed hoverlooks rfl) nofun

/-- So does every end of a round that works on a Cell. -/
theorem fresh_of_exit {status : CellStatus} (hexit : CellExit Γ rt cell h status) :
    (conditionTrue status.conditions "InventoryFresh" = true ↔ Completed Γ rt cell h) ↔
      ¬(conditionTrue cell.status.conditions "InventoryFresh" = true ∧ Unnoticed Γ rt cell h) := by
  cases hexit with
  | @missing h' name e he =>
    have hkept : conditionTrue (cell.disconnected rt).status.conditions "InventoryFresh" =
        conditionTrue cell.status.conditions "InventoryFresh" := by
      rw [Cell.disconnected, conditionTrue_set, if_neg (by decide)]
    have hnone : ¬Completed Γ rt cell (h' ++ [event (.api (.getManagedCluster name)) (.error e)]) :=
      not_completed fun source heq => by cases congrArg Sigma.fst heq
    have hunnoticed : Unnoticed Γ rt cell (h' ++ [event (.api (.getManagedCluster name)) (.error e)]) :=
      Or.inl ⟨h', name, e, rfl⟩
    rw [hkept, iff_false_right hnone, and_iff_left hunnoticed]
  | @unlisted h' e probed connection providerReady hprobed =>
    have hother : ∀ source, event (.api .listVirtualClusters) (.error e) ≠ event (.host .readInventory) source :=
      fun source heq => by cases congrArg Sigma.fst heq
    refine iff_of_true (iff_of_false (by simp) (not_completed hother)) fun hboth => not_unnoticed
      (fun name err heq => ?_) hother hboth.2
    cases congrArg Sigma.fst heq
  | @settled h' e probed surveyed connection providerReady inventoryReady hprobed hmissing _ hsurveyed =>
    rw [settled_condition _ _ _ _ _ (by decide) (by decide), ← hprobed.fresh]
    exact fresh_of_surveyed hprobed.spec hmissing hsurveyed

end CellStatusAux

/-- In every round that works on a Cell, whatever the status it starts with and whatever it is answered: the status
that is written says that the inventory is fresh when the inventory was projected completely in this round, and only
then (so that the check of the evaluator never passes on another inventory), exactly when the round does not start
with a fresh inventory and end without noticing that it has none. -/
theorem inventory_fresh_iff (Γ : Ctx) (cfg : CellConfig) (rt rt' : Runtime) (key : NamespacedName) {h : List Event}
    {cell o stored : Cell} {q : Action (Except Err Result)}
    (hrun : Prog.Reaches event (cellReconcile Γ cfg rt key) (h ++ [event (.api (.updateCellStatus o)) (.ok stored)]) q)
    (hopened : Opened key h cell) :
    ((conditionTrue o.status.conditions "InventoryFresh" = true ↔ Projected Γ rt key h) ∧
        ((inventoryFreshnessCheck rt' o).status = .passed → Projected Γ rt key h)) ↔
      ¬(conditionTrue cell.status.conditions "InventoryFresh" = true ∧ Unnoticed Γ rt cell (cellExitHistory h)) := by
  rw [inventoryFreshnessCheck_passed_iff, and_iff_left_of_imp Iff.mp, projected_iff hopened]
  rcases exit_of_persisted hrun with ⟨cell', hopened', hexit⟩ | ⟨cell', hclosing, -⟩
  · obtain rfl := Opened.unique hopened hopened'
    exact fresh_of_exit hexit
  · exact absurd hclosing (Opened.not_closing hopened)

/-! ## A sample -/

namespace CellSampleAux

open SampleAux

/-- A reconciler of Cells with its own readers. -/
def cellConfig : CellConfig := { hasInventoryReader := true, hasBaselineReader := true }

/-- The sample Cell, with the finalizer, in a phase and with some conditions. -/
def cellIn (phase : CellPhase) (conditions : List Condition) : Cell :=
  { DriftAux.sampleCell with
    metadata.finalizers := [cellFinalizer]
    status := { phase := phase, conditions := conditions } }

/-- A ready node of the machine profile of the sample Cell. -/
def profileNode : Node :=
  { sampleNode with metadata.labels := GoMap.ofList [(Platform.profileLabelKey, "gpu")] }

/-- A ManagedCluster that is joined and available. -/
def managedCluster : ManagedCluster :=
  { metadata := { name := "mc-a", uid := "mc-uid" }
    conditions := [{ type := "ManagedClusterJoined", status := .true },
      { type := "ManagedClusterConditionAvailable", status := .true }] }

/-- What a round for a Cell is answered, given the Cell, its ManagedCluster and the list of VirtualClusters. -/
def cellAnswer (cell : Cell) (managedCluster : Except Err ManagedCluster)
    (clusters : Except Err (List VirtualCluster)) :
    (call : Call) → call.Res
  | .api (.getCell _) => .ok cell
  | .api (.updateCellStatus o) => .ok o
  | .api (.getManagedCluster _) => managedCluster
  | .api (.getLease _) => .ok { metadata := { name := "managed-cluster-lease" }, renewTime := some 990 }
  | .api .listVirtualClusters => clusters
  | .api _ => .error errNotFound
  | .host (.observeBaseline _) =>
    .ok { namespaceReady := true, k3kCRDsReady := true, controllerReady := true, cniReady := true, topoLVMReady := true }
  | .host .readInventory =>
    { nodes := .ok [profileNode]
      pods := some (.ok [])
      reader :=
        { storage := some { persistentVolumes := .ok [], persistentVolumeClaims := .ok [], storageClasses := .ok [] }
          services := some (.ok []) } }
  | .host call => sampleHost (.ok []) (.ok {}) call

/-- The first calls of a round for the sample Cell, answered by a function. -/
def cellRound (answer : (call : Call) → call.Res) (n : Nat) : List Event × Action (Except Err Result) :=
  (Prog.drive (fun (w : Unit) call => (answer call, w)) event n ()
    (cellReconcile sampleCtx cellConfig sampleRuntime DriftAux.sampleCell.key)).2

/-- Which is something the round may do. -/
theorem reaches_cellRound (answer : (call : Call) → call.Res) (n : Nat) :
    Prog.Reaches event (cellReconcile sampleCtx cellConfig sampleRuntime DriftAux.sampleCell.key) (cellRound answer n).1
      (cellRound answer n).2 :=
  Prog.reaches_drive _ n () _

/-- The status that the last call of a history has written. -/
def lastCellStatus (h : List Event) : Option CellStatus :=
  match h.getLast? with
  | some ⟨.api (.updateCellStatus o), .ok _⟩ => some o.status
  | _ => none

/-- Its last call has written it. -/
theorem eq_append_of_lastCellStatus {h : List Event} {status : CellStatus} (hlast : lastCellStatus h = some status) :
    ∃ h₀ o stored, h = h₀ ++ [event (.api (.updateCellStatus o)) (.ok stored)] ∧ o.status = status := by
  rw [lastCellStatus] at hlast
  split at hlast
  · rename_i o stored heq
    obtain ⟨h₀, rfl⟩ := List.getLast?_eq_some_iff.mp heq
    exact ⟨h₀, o, stored, rfl, Option.some.inj hlast⟩
  · nomatch hlast

/-- A round that reads a Cell with the finalizer works on it. -/
theorem opened_of_head {h rest : List Event} {cell o stored : Cell} {key : NamespacedName}
    (hdeleting : cell.deleting = false) (hheld : cell.held = true)
    (heq : event (.api (.getCell key)) (.ok cell) :: rest = h ++ [event (.api (.updateCellStatus o)) (.ok stored)]) :
    Opened key h cell := by
  cases h with
  | nil => nomatch congrArg Sigma.fst (List.cons.inj heq).1
  | cons e h =>
    obtain ⟨rfl, -⟩ := List.cons.inj heq
    exact .read hdeleting hheld

/-- The conditions of a Cell whose inventory was fresh. -/
def freshConditions : List Condition := [{ type := "InventoryFresh", status := .true }]

/-- A round for a Cell that is Ready, and cannot list the VirtualClusters. -/
def unlistedRound : List Event × Action (Except Err Result) :=
  cellRound (cellAnswer (cellIn .ready freshConditions) (.ok managedCluster) (.error ⟨.other, "timeout"⟩)) 7

/-- The event is no reading of the inventory. -/
def leavesInventory (e : Event) : Bool :=
  match e.1 with
  | .host .readInventory => false
  | _ => true

/-- A round for a Cell whose inventory was fresh, and whose ManagedCluster is gone. -/
def lostRound : List Event × Action (Except Err Result) :=
  cellRound (cellAnswer (cellIn .ready freshConditions) (.error errNotFound) (.ok [])) 4

/-- A round for a new Cell that finds everything ready. -/
def readyRound : List Event × Action (Except Err Result) :=
  cellRound (cellAnswer (cellIn .pending []) (.ok managedCluster) (.ok [])) 8

end CellSampleAux

open SampleAux CellSampleAux

/-- A Cell that is Ready stays so when the VirtualClusters cannot be listed, with an inventory that is not fresh. -/
theorem cell_ready_consistent_false :
    ¬∀ (Γ : Ctx) (cfg : CellConfig) (rt : Runtime) (key : NamespacedName) (h : List Event) (o stored : Cell)
      (q : Action (Except Err Result)),
      Prog.Reaches event (cellReconcile Γ cfg rt key) (h ++ [event (.api (.updateCellStatus o)) (.ok stored)]) q →
      o.status.phase = .ready → o.status.Consistent := by
  intro hall
  have hwritten : (lastCellStatus unlistedRound.1).map
    (fun status => (status.phase, conditionTrue status.conditions "InventoryFresh")) =
      some (.ready, false) := by decide +kernel
  obtain ⟨status, hlast, hstatus⟩ := Option.map_eq_some_iff.mp hwritten
  obtain ⟨h, o, stored, heq, rfl⟩ := eq_append_of_lastCellStatus hlast
  obtain ⟨hready, hstale⟩ := Prod.mk.inj hstatus
  have hrun : Prog.Reaches event _ unlistedRound.1 _ := reaches_cellRound _ 7
  rw [heq] at hrun
  have hfresh := (hall _ _ _ _ h o stored _ hrun hready).conditions "InventoryFresh" (by simp)
  rw [hstale] at hfresh
  nomatch hfresh

/-- A round that starts without a Ready and finds everything ready writes a Ready that agrees with
the rest of the status. -/
theorem cell_ready_consistent_sample :
    ∃ (h : List Event) (o stored : Cell) (q : Action (Except Err Result)),
      Prog.Reaches event (cellReconcile sampleCtx cellConfig sampleRuntime DriftAux.sampleCell.key)
        (h ++ [event (.api (.updateCellStatus o)) (.ok stored)]) q ∧
      o.status.phase = .ready ∧ o.status.Consistent := by
  have hwritten : (lastCellStatus readyRound.1).map (·.phase) = some .ready := by decide +kernel
  obtain ⟨status, hlast, hready⟩ := Option.map_eq_some_iff.mp hwritten
  obtain ⟨h, o, stored, heq, rfl⟩ := eq_append_of_lastCellStatus hlast
  have hopened : Opened DriftAux.sampleCell.key h (cellIn .pending []) := opened_of_head rfl (by decide) heq
  have hrun : Prog.Reaches event _ readyRound.1 _ := reaches_cellRound _ 8
  rw [heq] at hrun
  refine ⟨h, o, stored, _, hrun, hready, (cell_ready_consistent_iff _ _ _ _ hrun).mpr ?_ hready⟩
  rintro ⟨cell, -, -, hopened', hphase, -⟩
  obtain rfl := Opened.unique hopened hopened'
  nomatch hphase

/-- A Cell whose inventory was fresh says so when its ManagedCluster is gone, although nothing of
the host was looked at. -/
theorem inventory_fresh_false :
    ¬∀ (Γ : Ctx) (cfg : CellConfig) (rt : Runtime) (key : NamespacedName) (h : List Event) (cell o stored : Cell)
      (q : Action (Except Err Result)),
      Prog.Reaches event (cellReconcile Γ cfg rt key) (h ++ [event (.api (.updateCellStatus o)) (.ok stored)]) q →
      Opened key h cell → (conditionTrue o.status.conditions "InventoryFresh" = true ↔ Projected Γ rt key h) := by
  intro hall
  obtain ⟨hwritten, hunread⟩ : (lastCellStatus lostRound.1).map
    (fun status => conditionTrue status.conditions "InventoryFresh") =
      some true ∧ lostRound.1.all leavesInventory = true := by decide +kernel
  obtain ⟨status, hlast, hfresh⟩ := Option.map_eq_some_iff.mp hwritten
  obtain ⟨h, o, stored, heq, rfl⟩ := eq_append_of_lastCellStatus hlast
  have hopened : Opened DriftAux.sampleCell.key h (cellIn .ready freshConditions) := opened_of_head rfl (by decide) heq
  have hrun : Prog.Reaches event _ lostRound.1 _ := reaches_cellRound _ 4
  rw [heq] at hrun hunread
  obtain ⟨-, h', source, -, -, -, hexit, -⟩ := (hall _ _ _ _ h _ o stored _ hrun hopened).mp hfresh
  have hread : event (.host .readInventory) source ∈ h := by
    refine (List.rdropWhile_prefix isCellStatusCall h).subset ?_
    rw [cellExitHistory] at hexit
    rw [hexit]
    simp
  exact Bool.false_ne_true (List.all_eq_true.mp hunread _ (List.mem_append_left _ hread))

/-- A round for a Cell without a fresh inventory says that the inventory is fresh exactly when it was
projected completely. -/
theorem inventory_fresh_sample :
    ∃ (h : List Event) (o stored : Cell) (q : Action (Except Err Result)),
      Prog.Reaches event (cellReconcile sampleCtx cellConfig sampleRuntime DriftAux.sampleCell.key)
        (h ++ [event (.api (.updateCellStatus o)) (.ok stored)]) q ∧
      conditionTrue o.status.conditions "InventoryFresh" = true ∧
        Projected sampleCtx sampleRuntime DriftAux.sampleCell.key h := by
  have hwritten : (lastCellStatus readyRound.1).map
    (fun status => conditionTrue status.conditions "InventoryFresh") = some true := by
    decide +kernel
  obtain ⟨status, hlast, hfresh⟩ := Option.map_eq_some_iff.mp hwritten
  obtain ⟨h, o, stored, heq, rfl⟩ := eq_append_of_lastCellStatus hlast
  have hopened : Opened DriftAux.sampleCell.key h (cellIn .pending []) := opened_of_head rfl (by decide) heq
  have hrun : Prog.Reaches event _ readyRound.1 _ := reaches_cellRound _ 8
  rw [heq] at hrun
  refine ⟨h, o, stored, _, hrun, hfresh, ((inventory_fresh_iff _ _ _ sampleRuntime _ hrun hopened).mpr ?_).1.mp hfresh⟩
  rintro ⟨hstale, -⟩
  nomatch hstale

end KubeCell
