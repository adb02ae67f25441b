import KubeCell.Lemmas.CellWalk
import KubeCell.Lemmas.Effects
import KubeCell.Lemmas.Inventory
import KubeCell.System
import KubeCell.Theorems.Ready
import KubeCell.Validation

/-!
# Which Cell a VirtualCluster refers to

Four places of the code ask whether a VirtualCluster refers to a Cell: the round of the VirtualCluster looks the
Cell up, the inventory counts the pods of the VirtualClusters on the Cell, the deletion of the Cell waits for
them, and the webhook keeps the specification of a Cell that is in use. They agree as long as the reference names
the namespace of the Cells.
-/

namespace KubeCell

open CellWalkAux EffectsAux InventoryAux RoundAux

/-- A VirtualCluster and a Cell that were admitted, where the one refers to the other by its name and by the
namespace of all Cells. -/
structure Refers (v : VirtualCluster) (cell : Cell) : Prop where
  clusterAdmitted : v.default.validateCreate = .ok ()
  cellAdmitted : cell.validateCreate = .ok ()
  cellNs : cell.metadata.ns = managementNamespace
  name : v.spec.cellRef.name = cell.metadata.name
  ns : v.spec.cellRef.ns = managementNamespace

/-- The VirtualCluster exists, with the reference it was created with: no update changes it. -/
def Present (v : VirtualCluster) (w : World) (current : VirtualCluster) : Prop :=
  w.virtualClusters.find v.key = some current ∧ current.spec.cellRef = v.spec.cellRef

@[inherit_doc Present] def IsPresent (v : VirtualCluster) (w : World) : Prop := ∃ current, Present v w current

/-- The inventory counts a pod: the pod is not passed over, and if it runs, what it asks for of a resource is
in what is requested. -/
def InventoryCounts (cell : Cell) (clusters : List VirtualCluster) (pod : Pod) : Prop :=
  countsPod (clusterNames cell clusters) pod = true ∧ (pod.phase ≠ .pending → ∀ (pods : List Pod) (name : String),
    (inventoryEntry (accountPods (clusterNames cell clusters) (some (pod :: pods))).inventory name).requested.value =
      (inventoryEntry (accountPods (clusterNames cell clusters) (some pods)).inventory name).requested.value +
        ((effectivePodRequests pod).qty name).value)

namespace ReferencesAux

variable {v current : VirtualCluster} {cell : Cell} {w w' : World} {key : NamespacedName} {h : List Event}

/-- The name it refers to is that of the Cell. -/
theorem cellKey_of_refers (href : Refers v cell) (hcellRef : current.spec.cellRef = v.spec.cellRef) :
    current.cellKey = cell.key := by
  rw [VirtualCluster.cellKey, hcellRef, href.name, href.ns, ← href.cellNs]
  rfl

/-- It refers to every object under the name of the Cell. -/
theorem refersTo_of_refers (href : Refers v cell) (hcellRef : current.spec.cellRef = v.spec.cellRef) {cell' : Cell}
    (hkey : cell'.key = cell.key) : current.refersTo cell' = true := by
  have hname : cell'.metadata.name = cell.metadata.name := congrArg NamespacedName.name hkey
  have hns : cell'.metadata.ns = cell.metadata.ns := congrArg NamespacedName.ns hkey
  simp [VirtualCluster.refersTo, hcellRef, hname, hns, href.name, href.ns, href.cellNs]

/-! ## The inventory -/

/-- The pods of a K3k cluster that is counted are counted. -/
theorem inventoryCounts_of_mem {clusters : List VirtualCluster} {pod : Pod}
    (hmem : pod.metadata.labels.get k3kClusterNameLabel ∈ clusterNames cell clusters)
    (hsucceeded : pod.phase ≠ .succeeded) (hfailed : pod.phase ≠ .failed) : InventoryCounts cell clusters pod := by
  have hcounts : countsPod (clusterNames cell clusters) pod = true := by
    simp [countsPod, containsString, hmem, hsucceeded, hfailed]
  refine ⟨hcounts, fun hpending pods name => ?_⟩
  have hrunning : pod.running (clusterNames cell clusters) = true := by simp [Pod.running, hcounts, hpending]
  have hentry : ∀ pods : List Pod,
      (inventoryEntry (accountPods (clusterNames cell clusters) (some pods)).inventory name).requested.value =
        runningRequests (clusterNames cell clusters) pods name := by
    intro pods
    have hamounts := amounts_inventoryEntry (accountPods (clusterNames cell clusters) (some pods)).inventory name
    rw [accountPods, Option.getD_some, inventoryAmounts_accountPods, foldl_withPod] at hamounts
    exact (congrArg Amounts.requested hamounts).trans (zero_add _)
  rw [hentry, hentry, runningRequests_cons, if_pos hrunning]
  ring

/-! ## The deletion -/

/-- A call that a round for a Cell may issue leaves the VirtualClusters alone. -/
theorem virtualClusters_of_exec {Γ : Ctx} {rt : Runtime} {call : Call} {r : call.Res}
    (hp : CellPermitted Γ rt key h call) (hx : World.Exec w call r w') : w'.virtualClusters = w.virtualClusters := by
  have hserve : ∀ call, CellPermitted Γ rt key h (.api call) → (w.serve call).2.virtualClusters =
    w.virtualClusters := by
    intro call hp
    cases hp with
    | read hread => cases call <;> first | rfl | nomatch hread
    | adopt => rfl
    | release => rfl
    | persist => rfl
  cases hx with
  | served call => exact hserve call hp
  | unavailable => rfl
  | lost call => exact hserve call hp
  | host => rfl

/-- What the history of a round for the Cell tells: the Cells it has read are under the name it is for, and the
VirtualCluster is among those it has listed. -/
structure Listed (v : VirtualCluster) (key : NamespacedName) (h : List Event) : Prop where
  read : ∀ cell, Saw h (.api (.getCell key)) (.ok cell) → cell.key = key
  listed : ∀ clusters, Saw h (.api .listVirtualClusters) (.ok clusters) → ∃ current ∈ clusters,
    current.spec.cellRef = v.spec.cellRef

/-- One more call, in a world with the VirtualCluster. -/
theorem Listed.step (hlisted : Listed v key h) (hpresent : Present v w current) {call : Call} {r : call.Res}
    (hx : World.Exec w call r w') : Listed v key (h ++ [event call r]) := by
  constructor
  · intro cell hsaw
    rcases saw_snoc hsaw with hold | hnew
    · exact hlisted.read cell hold
    · cases hnew
      obtain ⟨hr, -⟩ := served_of_ok hx
      exact Store.find_keyed (Store.get_ok_iff.mp hr)
  · intro clusters hsaw
    rcases saw_snoc hsaw with hold | hnew
    · exact hlisted.listed clusters hold
    · cases hnew
      obtain ⟨hr, -⟩ := served_of_ok hx
      cases hr
      exact ⟨current, Store.mem_list_of_find hpresent.1, hpresent.2⟩

/-- In a world where the VirtualCluster exists, whatever else happens, a round for the Cell never
takes its finalizer away. -/
theorem held_of_updateCell (Γ : Ctx) (cfg : CellConfig) (href : Refers v cell)
    {s : Sys World Event Call Call.Res (Except Err Result)}
    (hs : Sys.Reachable (cellSystem Γ cfg cell.key fun _ w' => IsPresent v w') (IsPresent v) s) {o : Cell}
    {next : Except Err Cell → Action (Except Err Result)}
    (hround : s.round = some (h, .call (.api (.updateCell o)) next)) :
    o.held = true := by
  have hholds := Sys.invariant (I := IsPresent v) (K := fun _ h => Listed v cell.key h)
    (G := fun h call => ∃ rt, CellPermitted Γ rt cell.key h call) (fun w hw => hw)
    (fun w _ => ⟨fun cell hsaw => (List.not_mem_nil hsaw).elim, fun clusters hsaw => (List.not_mem_nil hsaw).elim⟩)
    (by
      rintro p ⟨rt, rfl⟩
      exact (cellSafe_reconcile Γ cfg rt cell.key).mono (fun h call hp => ⟨rt, hp⟩) fun h a hq => hq)
    (fun w w' henv _ => ⟨henv, fun h hlisted => hlisted⟩)
    (by
      rintro w call r w' h ⟨current, hpresent⟩ hlisted ⟨rt, hp⟩ hx
      refine ⟨⟨current, ?_, hpresent.2⟩, hlisted.step hpresent hx⟩
      rw [virtualClusters_of_exec hp hx]
      exact hpresent.1)
    hs
  obtain ⟨hlisted, ⟨rt, hp⟩, -⟩ := hholds.2 h _ hround
  cases hp with
  | read hread => nomatch hread
  | adopt => simp [Cell.held, Cell.adopted, containsString]
  | @release closing clusters hclosing hsaw hnone =>
    -- the VirtualCluster was listed, and it refers to the Cell that is deleted
    obtain ⟨current, hmem, hcellRef⟩ := hlisted.listed clusters hsaw
    have hkey : closing.key = cell.key := by
      cases hclosing with
      | read => exact hlisted.read closing List.mem_cons_self
    have hrefers := refersTo_of_refers href hcellRef hkey
    rw [List.any_eq_false] at hnone
    exact absurd hrefers (hnone current hmem)

end ReferencesAux

open ReferencesAux

/-- Whether a VirtualCluster refers to a Cell is the same to all: as long as it exists, the lookup finds the Cell and
the Cell keeps its finalizer, the inventory counts its pods once its K3k cluster is recorded, and the webhook takes
the Cell as in use until it is deleted. -/
theorem references_agree (Γ : Ctx) (cfg : CellConfig) (v : VirtualCluster) (cell : Cell) (href : Refers v cell) :
    (∀ w current, Present v w current → w.cells.find cell.key = some cell →
      (w.serve (.getCell current.cellKey)).1 = .ok cell) ∧
    (∀ w current, Present v w current → current.status.resolved.k3kClusterName ≠ "" → ∀ pod : Pod,
      pod.metadata.labels.get k3kClusterNameLabel = current.status.resolved.k3kClusterName →
      pod.phase ≠ .succeeded → pod.phase ≠ .failed → InventoryCounts cell w.virtualClusters.list pod) ∧
    (∀ (s : Sys World Event Call Call.Res (Except Err Result)),
      Sys.Reachable (cellSystem Γ cfg cell.key fun _ w' => IsPresent v w') (IsPresent v) s →
      ∀ h o next, s.round = some (h, .call (.api (.updateCell o)) next) → o.held = true) ∧
    (∀ w current, Present v w current → current.deleting = false →
      isCellReferenced w.virtualClusters.list cell.metadata.name = true) := by
  refine ⟨fun w current hpresent hcell => ?_, fun w current hpresent hname pod hlabel hsucceeded hfailed => ?_,
    fun s hs h o next hround => held_of_updateCell Γ cfg href hs hround, fun w current hpresent hdeleting => ?_⟩
  · rw [cellKey_of_refers href hpresent.2]
    exact Store.get_ok_iff.mpr hcell
  · refine inventoryCounts_of_mem ?_ hsucceeded hfailed
    rw [hlabel]
    have hrefers := refersTo_of_refers href hpresent.2 rfl
    exact List.mem_map.mpr ⟨current,
      List.mem_filter.mpr ⟨Store.mem_list_of_find hpresent.1, by simp [hrefers, hname]⟩, rfl⟩
  · refine List.any_eq_true.mpr ⟨current, Store.mem_list_of_find hpresent.1, ?_⟩
    simp [hdeleting, hpresent.2, href.name]

namespace ReferencesAux

open SampleAux

/-- The sample VirtualCluster, deleted and waiting for its finalizer. -/
def deletedCluster : VirtualCluster := { clusterIn .ready {} with metadata.deletionTimestamp := some 1 }

/-- A running pod of the K3k cluster of the sample VirtualCluster. -/
def clusterPod : Pod :=
  { metadata := { name := "web-0", labels := GoMap.ofList [(k3kClusterNameLabel, DriftAux.sampleCluster.names.k3kCluster)] }
    phase := .running }

/-- The sample VirtualCluster refers to the sample Cell, also when it has been deleted. -/
theorem refers_sample : Refers DriftAux.sampleCluster readyCell ∧ Refers deletedCluster readyCell := by
  constructor <;> exact ⟨by decide +kernel, by decide +kernel, rfl, rfl, rfl⟩

end ReferencesAux

open SampleAux

/-- The lookup of the sample VirtualCluster finds the sample Cell, and the webhook takes it as in use. -/
theorem references_agree_sample :
    ((sampleWorld DriftAux.sampleCluster []).serve (.getCell DriftAux.sampleCluster.cellKey)).1 = .ok readyCell ∧
      isCellReferenced (sampleWorld DriftAux.sampleCluster []).virtualClusters.list "cell-a" = true := by
  have hagree := references_agree sampleCtx {} DriftAux.sampleCluster readyCell refers_sample.1
  have hpresent : Present DriftAux.sampleCluster (sampleWorld DriftAux.sampleCluster []) DriftAux.sampleCluster :=
    ⟨find_sampleWorld DriftAux.sampleCluster [], rfl⟩
  exact ⟨hagree.1 _ _ hpresent ((Store.find_put _ _ _).trans (if_pos rfl)), hagree.2.2.2 _ _ hpresent rfl⟩

/-- The webhook does not take the Cell of a VirtualCluster that waits for its finalizer as in use, and the inventory
does not count the pods of one whose K3k cluster is not recorded yet. -/
theorem references_agree_false :
    (¬∀ (w : World) (v : VirtualCluster) (cell : Cell), Refers v cell → w.virtualClusters.find v.key = some v →
      w.cells.find cell.key = some cell → isCellReferenced w.virtualClusters.list cell.metadata.name = true) ∧
    ¬∀ (w : World) (v : VirtualCluster) (cell : Cell) (pod : Pod), Refers v cell →
      w.virtualClusters.find v.key = some v →
      w.cells.find cell.key = some cell → pod.metadata.labels.get k3kClusterNameLabel = v.names.k3kCluster →
        pod.phase = .running →
      InventoryCounts cell w.virtualClusters.list pod := by
  have hcell : ∀ v, (sampleWorld v []).cells.find readyCell.key = some readyCell :=
    fun v => (Store.find_put _ _ _).trans (if_pos rfl)
  constructor
  · intro hall
    have hreferenced := hall (sampleWorld deletedCluster []) deletedCluster readyCell refers_sample.2
      (find_sampleWorld _ _) (hcell _)
    exact absurd hreferenced (by decide +kernel)
  · intro hall
    have hcounts := hall (sampleWorld DriftAux.sampleCluster []) DriftAux.sampleCluster readyCell
      clusterPod refers_sample.1
      (find_sampleWorld _ _) (hcell _) (by decide +kernel) rfl
    exact absurd hcounts.1 (by decide +kernel)

end KubeCell
