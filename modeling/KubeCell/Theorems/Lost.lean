import KubeCell.Lemmas.CellWalk
import KubeCell.Lemmas.Effects
import KubeCell.Lemmas.Provision
import KubeCell.Lib.Versions
import KubeCell.PlanReconcile
import KubeCell.Theorems.Ready

/-!
# No update is lost

The reconcilers put a finalizer on the objects they look after and take it away again, each time by writing back
the whole object as it was read at the start of the round. Others change the same objects in between: users
their specifications and labels, other controllers their own finalizers. However the steps are interleaved,
nothing of theirs is undone.
-/

namespace KubeCell

open CellWalkAux EffectsAux Prog RoundAux

/-- The stores change as the API server changes them: whatever is written gets a version that was
never given out before. -/
structure World.Advances (w w' : World) : Prop where
  virtualClusters : w.virtualClusters.Advances w.version w'.version w'.virtualClusters
  cells : w.cells.Advances w.version w'.version w'.cells

/-- All objects carry versions that have been given out. -/
structure World.Dated (w : World) : Prop where
  virtualClusters : w.virtualClusters.Dated w.version
  cells : w.cells.Dated w.version

/-- The rounds of the three reconcilers for whatever objects, in a world that changes by itself as `env` says. -/
def controllers (Γ : Ctx) (cfg : Config) (cellCfg : CellConfig) (env : World → World → Prop) :
    Sys.Model World Event Call Call.Res (Except Err Result) where
  exec := World.Exec
  obs := event
  env := env
  starts p := ∃ rt key, p = reconcile Γ cfg rt key ∨ p = cellReconcile Γ cellCfg rt key ∨ p = planReconcile Γ rt key

/-- Of the metadata only the version and one finalizer differ. -/
structure LeavesMeta (finalizer : String) (before after : ObjectMeta) : Prop where
  rest : after = { before with resourceVersion := after.resourceVersion, finalizers := after.finalizers }
  finalizers : removeString after.finalizers finalizer = removeString before.finalizers finalizer

/-- Nothing of the objects of a store is changed but the version, the status and one finalizer; an object goes away
only when it is being deleted and no other finalizer is left on it; and none appears. -/
structure Preserves {α σ : Type} [Resource α] (finalizer : String) (spec : α → σ) (s s' : Store α) : Prop where
  kept : ∀ key o, s.find key = some o →
    (∃ o', s'.find key = some o' ∧ spec o' = spec o ∧ LeavesMeta finalizer (Resource.metadata o)
      (Resource.metadata o')) ∨
      s'.find key = none ∧ Store.terminating o = true ∧ removeString (Resource.metadata o).finalizers finalizer = []
  made : ∀ key, s.find key = none → s'.find key = none

namespace LostAux

variable {α σ : Type} [Resource α] {finalizer : String} {spec : α → σ} {s : Store α} {w w' : World} {h : List Event}

theorem preserves_refl (finalizer : String) (spec : α → σ) (s : Store α) : Preserves finalizer spec s s :=
  ⟨fun _ o ho => Or.inl ⟨o, ho, rfl, rfl, rfl⟩, fun _ ho => ho⟩

/-- An object takes the place of the one under its name. -/
theorem preserves_put {o o' : α} (ho : s.find (Resource.metadata o').key = some o) (hspec : spec o' = spec o)
    (hleaves : LeavesMeta finalizer (Resource.metadata o) (Resource.metadata o')) :
    Preserves finalizer spec s (s.put o') := by
  refine ⟨fun key current hcurrent => Or.inl ?_, fun key hnone => ?_⟩
  · rw [Store.find_put]
    split_ifs with hkey
    · rw [hkey, ho] at hcurrent
      cases hcurrent
      exact ⟨o', rfl, hspec, hleaves⟩
    · exact ⟨current, hcurrent, rfl, rfl, rfl⟩
  · rw [Store.find_put]
    split_ifs with hkey
    · rw [hkey, ho] at hnone
      cases hnone
    · exact hnone

/-- What goes away was being deleted, with no other finalizer left on it. -/
theorem preserves_remove {key : NamespacedName} {o : α} (ho : s.find key = some o)
    (hterminating : Store.terminating o = true)
    (hfinalizers : removeString (Resource.metadata o).finalizers finalizer = []) :
    Preserves finalizer spec s (s.remove key) := by
  refine ⟨fun key' current hcurrent => ?_, fun key' hnone => ?_⟩
  · rw [Store.find_remove]
    split_ifs with hkey
    · rw [hkey, ho] at hcurrent
      cases hcurrent
      exact Or.inr ⟨rfl, hterminating, hfinalizers⟩
    · exact Or.inl ⟨current, hcurrent, rfl, rfl, rfl⟩
  · rw [Store.find_remove]
    split_ifs
    · rfl
    · exact hnone

/-- Writing a status leaves everything else alone, whatever was read before. -/
theorem preserves_updateStatus
    (hstatus : ∀ (version : Nat) (current o : α), spec (Store.withStatus version current o) = spec current)
    (version : Nat) (o : α) : Preserves finalizer spec s (s.updateStatus version o).2 := by
  rcases s.updateStatus_cases version o with ⟨e, heq⟩ | ⟨current, hfind, heq⟩
  · rw [heq]
    exact preserves_refl finalizer spec s
  · rw [heq]
    refine preserves_put ?_ (hstatus version current o) ?_
    · rw [Store.metadata_withStatus]
      exact (Store.find_keyed hfind).symm ▸ hfind
    · rw [Store.metadata_withStatus]
      exact ⟨rfl, rfl⟩

/-- Writing an object back of which only the finalizer was changed since it was read. -/
theorem preserves_update {o edited : α} {version : Nat} (hcited : s.Cited version o)
    (hedited : Resource.metadata edited =
      { Resource.metadata o with finalizers := (Resource.metadata edited).finalizers })
    (hfinalizers : removeString (Resource.metadata edited).finalizers finalizer = removeString
      (Resource.metadata o).finalizers finalizer)
    (hspec : spec (Store.asUpdated version o edited) = spec o) :
    Preserves finalizer spec s (s.update version edited).2 := by
  have hkey : (Resource.metadata edited).key = (Resource.metadata o).key := by
    rw [hedited]
    rfl
  have hversion : (Resource.metadata edited).resourceVersion = (Resource.metadata o).resourceVersion := by rw [hedited]
  rcases Store.update_of_cited hcited hkey hversion with hsame | ⟨hfind, hput | ⟨hterminating, hnone, hremove⟩⟩
  · rw [hsame]
    exact preserves_refl finalizer spec s
  · rw [hput]
    refine preserves_put ?_ hspec ?_
    · rw [Store.metadata_asUpdated]
      exact hkey ▸ hfind
    · rw [Store.metadata_asUpdated, hedited]
      exact ⟨rfl, hfinalizers⟩
  · rw [hremove]
    refine preserves_remove hfind hterminating ?_
    rw [← hfinalizers, hnone]
    rfl

/-! ## What the rounds write back -/

/-- An object is written back only with the finalizer added to it, or taken away, since it was read. -/
def WritesBack (h : List Event) : Call → Prop
  | .api (.updateVirtualCluster o) =>
    ∃ key v, Saw h (.api (.getVirtualCluster key)) (.ok v) ∧ (o = v.adopted ∨ o = v.released)
  | .api (.updateCell o) => ∃ key cell, Saw h (.api (.getCell key)) (.ok cell) ∧ (o = cell.adopted ∨ o = cell.released)
  | _ => True

/-- A round writes back what it has read. -/
theorem writesBack_of_permitted {Γ : Ctx} {cfg : Config} {rt : Runtime} {key : NamespacedName} {call : Call}
    (hp : Permitted Γ cfg rt key h call) : WritesBack h call := by
  cases hp with
  | host call => trivial
  | @read call hread => cases call <;> trivial
  | @adopt v hh => exact ⟨key, v, by rw [hh]; exact List.mem_singleton.mpr rfl, Or.inl rfl⟩
  | foundation _ _ _ hwrite => cases hwrite <;> trivial
  | instanceWork _ _ _ hwrite => cases hwrite <;> trivial
  | @release v _ hdoomed =>
    cases hdoomed with
    | read => exact ⟨key, v, List.mem_cons_self, Or.inr rfl⟩
  | _ => trivial

theorem writesBack_of_cellPermitted {Γ : Ctx} {rt : Runtime} {key : NamespacedName} {call : Call}
    (hp : CellPermitted Γ rt key h call) :
    WritesBack h call := by
  cases hp with
  | host call => trivial
  | @read call hread => cases call <;> trivial
  | @adopt cell hh => exact ⟨key, cell, by rw [hh]; exact List.mem_singleton.mpr rfl, Or.inl rfl⟩
  | @release cell _ hclosing =>
    cases hclosing with
    | read => exact ⟨key, cell, List.mem_cons_self, Or.inr rfl⟩
  | persist => trivial

/-- The rounds for plans write nothing back. -/
theorem writesBack_planReconcile (Γ : Ctx) (rt : Runtime) (key : NamespacedName) :
    Guarded event WritesBack (fun _ _ => True) (planReconcile Γ rt key) [] := by
  have htry : ∀ (desired : VirtualClusterPlan) (h : List Event),
      Guarded event WritesBack (fun _ _ => True) (tryUpdatePlanStatus desired) h := by
    intro desired h
    refine ⟨trivial, fun r => ?_⟩
    cases r with
    | error e => trivial
    | ok current =>
      refine ⟨trivial, fun r => ?_⟩
      cases r <;> trivial
  have hpersist : ∀ (desired : VirtualClusterPlan) (h : List Event),
      Guarded event WritesBack (fun _ _ => True) (persistPlan desired) h := by
    intro desired h
    rw [persistPlan, guarded_bind]
    refine (guarded_retry (fun h _ => (htry desired h).mono (fun _ _ hp => hp) fun _ _ _ _ _ _ =>
      trivial) 4 trivial).mono
      (fun _ _ hp => hp) fun h' r _ => ?_
    cases r <;> trivial
  rw [planReconcile, guarded_api]
  refine ⟨trivial, fun r => ?_⟩
  cases r with
  | error e => trivial
  | ok plan =>
    dsimp only
    split_ifs
    · trivial
    · rw [planReferences, Prog.bind_assoc]
      refine ⟨trivial, fun r => ?_⟩
      cases r with
      | error e => exact hpersist _ _
      | ok cell =>
        refine ⟨trivial, fun r => ?_⟩
        cases r <;> exact hpersist _ _

/-! ## What a round knows -/

/-- The objects that a round has read stand unchanged while their versions do. -/
structure Knows (w : World) (h : List Event) : Prop where
  virtualClusters : ∀ key v, Saw h (.api (.getVirtualCluster key)) (.ok v) → w.virtualClusters.Cited w.version v
  cells : ∀ key cell, Saw h (.api (.getCell key)) (.ok cell) → w.cells.Cited w.version cell

theorem knows_nil (w : World) : Knows w [] :=
  ⟨fun _ _ hsaw => absurd hsaw List.not_mem_nil, fun _ _ hsaw => absurd hsaw List.not_mem_nil⟩

/-- What was read has a version that is not given out again. -/
theorem Knows.versioned (hknows : Knows w h) (hv : World.Advances w w') : Knows w' h :=
  ⟨fun key v hsaw => (hknows.virtualClusters key v hsaw).advances hv.virtualClusters,
    fun key cell hsaw => (hknows.cells key cell hsaw).advances hv.cells⟩

theorem dated_versioned (hdated : w.Dated) (hv : World.Advances w w') : w'.Dated :=
  ⟨hdated.virtualClusters.advances hv.virtualClusters, hdated.cells.advances hv.cells⟩

/-- Every call is answered by a change with versions of its own, if by any. -/
theorem versioned_exec {call : Call} {r : call.Res} (hx : World.Exec w call r w') : World.Advances w w' := by
  have hserve : ∀ call : ApiCall, World.Advances w (w.serve call).2 := by
    intro call
    cases call with
    | updateVirtualCluster o => exact ⟨Store.advances_update _ _ _, .skip _ _⟩
    | updateVirtualClusterStatus o => exact ⟨Store.advances_updateStatus _ _ _, .skip _ _⟩
    | updateCell o => exact ⟨.skip _ _, Store.advances_update _ _ _⟩
    | updateCellStatus o => exact ⟨.skip _ _, Store.advances_updateStatus _ _ _⟩
    | createWork | patchWork | deleteWork | createSecret | updateSecret | deleteSecret | updateVirtualClusterPlanStatus =>
      exact ⟨.skip _ _, .skip _ _⟩
    | _ => exact ⟨.refl _ _, .refl _ _⟩
  cases hx with
  | served call => exact hserve call
  | unavailable => exact ⟨.refl _ _, .refl _ _⟩
  | lost call => exact hserve call
  | host => exact ⟨.refl _ _, .refl _ _⟩

/-- What a round reads it knows. -/
theorem Knows.call {call : Call} {r : call.Res} (hdated : w.Dated) (hknows : Knows w h) (hx : World.Exec w call r w') :
    Knows w' (h ++ [event call r]) := by
  have hknows' := hknows.versioned (versioned_exec hx)
  refine ⟨fun key v hsaw => ?_, fun key cell hsaw => ?_⟩
  · rcases List.mem_append.mp hsaw with hsaw | hsaw
    · exact hknows'.virtualClusters key v hsaw
    · cases List.mem_singleton.mp hsaw
      obtain ⟨hr, rfl⟩ := served_of_ok hx
      exact Store.cited_of_find hdated.virtualClusters (Store.get_ok_iff.mp hr)
  · rcases List.mem_append.mp hsaw with hsaw | hsaw
    · exact hknows'.cells key cell hsaw
    · cases List.mem_singleton.mp hsaw
      obtain ⟨hr, rfl⟩ := served_of_ok hx
      exact Store.cited_of_find hdated.cells (Store.get_ok_iff.mp hr)

/-! ## One call -/

/-- Removing a string that was just added comes to removing it. -/
theorem removeString_append_self (values : List String) (target : String) :
    removeString (values ++ [target]) target = removeString values target := by
  simp [removeString]

/-- Removing twice comes to removing once. -/
theorem removeString_removeString (values : List String) (target : String) :
    removeString (removeString values target) target = removeString values target := by
  simp [removeString]

/-- A VirtualCluster is written back. -/
theorem preserves_updateVirtualCluster {v o : VirtualCluster} (hcited : w.virtualClusters.Cited w.version v)
    (ho : o = v.adopted ∨ o = v.released) :
    Preserves virtualClusterFinalizer VirtualCluster.spec w.virtualClusters
      (w.virtualClusters.update w.version o).2 := by
  rcases ho with rfl | rfl
  · exact preserves_update hcited rfl (removeString_append_self _ _) rfl
  · exact preserves_update hcited rfl (removeString_removeString _ _) rfl

/-- A Cell is written back. -/
theorem preserves_updateCell {cell o : Cell} (hcited : w.cells.Cited w.version cell)
    (ho : o = cell.adopted ∨ o = cell.released) :
    Preserves cellFinalizer Cell.spec w.cells (w.cells.update w.version o).2 := by
  rcases ho with rfl | rfl
  · exact preserves_update hcited rfl (removeString_append_self _ _) rfl
  · exact preserves_update hcited rfl (removeString_removeString _ _) rfl

/-- A call that writes back what was read loses no update of another. -/
theorem preserves_exec {call : Call} {r : call.Res} (hknows : Knows w h) (hwrites : WritesBack h call)
    (hx : World.Exec w call r w') :
    Preserves virtualClusterFinalizer VirtualCluster.spec w.virtualClusters w'.virtualClusters ∧
      Preserves cellFinalizer Cell.spec w.cells w'.cells := by
  have hserve : ∀ call : ApiCall, WritesBack h (.api call) →
      Preserves virtualClusterFinalizer VirtualCluster.spec w.virtualClusters (w.serve call).2.virtualClusters ∧
        Preserves cellFinalizer Cell.spec w.cells (w.serve call).2.cells := by
    intro call hwrites
    cases call with
    | updateVirtualCluster o =>
      obtain ⟨key, v, hsaw, ho⟩ := hwrites
      exact ⟨preserves_updateVirtualCluster (hknows.virtualClusters key v hsaw) ho, preserves_refl _ _ _⟩
    | updateVirtualClusterStatus o => exact ⟨preserves_updateStatus (fun _ _ _ => rfl) _ _, preserves_refl _ _ _⟩
    | updateCell o =>
      obtain ⟨key, cell, hsaw, ho⟩ := hwrites
      exact ⟨preserves_refl _ _ _, preserves_updateCell (hknows.cells key cell hsaw) ho⟩
    | updateCellStatus o => exact ⟨preserves_refl _ _ _, preserves_updateStatus (fun _ _ _ => rfl) _ _⟩
    | _ => exact ⟨preserves_refl _ _ _, preserves_refl _ _ _⟩
  cases hx with
  | served call => exact hserve call hwrites
  | unavailable => exact ⟨preserves_refl _ _ _, preserves_refl _ _ _⟩
  | lost call => exact hserve call hwrites
  | host => exact ⟨preserves_refl _ _ _, preserves_refl _ _ _⟩

end LostAux

open LostAux

/-- In every run of the reconcilers among others who change the objects as they like, each call of a round leaves all
VirtualClusters and all Cells as the others have left them, but for the status and the finalizer of the reconciler. -/
theorem no_update_lost (Γ : Ctx) (cfg : Config) (cellCfg : CellConfig) (env : World → World → Prop)
    (henv : ∀ w w', env w w' → World.Advances w w') {s : Sys World Event Call Call.Res (Except Err Result)}
    (hreach : Sys.Reachable (controllers Γ cfg cellCfg env) World.Dated s) {h : List Event} {call : Call}
    {next : call.Res → Action (Except Err Result)} (hround : s.round = some (h, .call call next)) {r : call.Res}
    {w' : World} (hx : World.Exec s.world call r w') :
    Preserves virtualClusterFinalizer VirtualCluster.spec s.world.virtualClusters w'.virtualClusters ∧
      Preserves cellFinalizer Cell.spec s.world.cells w'.cells := by
  have hholds : Sys.Holds (controllers Γ cfg cellCfg env) World.Dated Knows WritesBack s := by
    refine Sys.invariant (fun _ hw => hw) (fun w _ => knows_nil w) ?_ ?_ ?_ hreach
    · rintro p ⟨rt, key, rfl | rfl | rfl⟩
      · exact (safe_reconcile Γ cfg rt key).mono (fun _ _ => writesBack_of_permitted) fun _ _ _ => trivial
      · exact (cellSafe_reconcile Γ cellCfg rt key).mono (fun _ _ => writesBack_of_cellPermitted) fun _ _ _ => trivial
      · exact writesBack_planReconcile Γ rt key
    · exact fun w w' he hdated => ⟨dated_versioned hdated (henv w w' he),
        fun h hknows => hknows.versioned (henv w w' he)⟩
    · exact fun w call r w' h hdated hknows _ hx => ⟨dated_versioned hdated (versioned_exec hx), hknows.call hdated hx⟩
  obtain ⟨hknows, hguarded⟩ := hholds.2 h _ hround
  exact preserves_exec hknows hguarded.1 hx

namespace LostAux

open SampleAux

/-- The sample VirtualCluster before any round, and with a label that its user has put on it meanwhile. -/
def plainWorld : World := sampleWorld DriftAux.sampleCluster []
@[inherit_doc plainWorld] def labelledWorld : World :=
  { plainWorld.next with
    virtualClusters := plainWorld.virtualClusters.put
      { DriftAux.sampleCluster with metadata.labels := GoMap.ofList [("team", "blue")], metadata.resourceVersion := 1 } }

/-- The versions of the sample world are dated. -/
theorem dated_plainWorld : plainWorld.Dated := by
  refine ⟨fun key v hv => ?_, fun key cell hcell => ?_⟩
  · rw [plainWorld, sampleWorld, Store.find_put] at hv
    split_ifs at hv
    · cases hv
      exact Nat.zero_lt_one
    · cases hv
  · rw [plainWorld, sampleWorld, Store.find_put] at hcell
    split_ifs at hcell
    · cases hcell
      exact Nat.zero_lt_one
    · cases hcell

/-- The round has read the VirtualCluster without the label, and is about to give it the finalizer. -/
theorem reachable_labelledWorld : ∃ next : Except Err VirtualCluster → Action (Except Err Result),
    Sys.Reachable (controllers sampleCtx sampleConfig {} World.Advances) World.Dated
      ⟨labelledWorld, some ([event (.api (.getVirtualCluster DriftAux.sampleCluster.key)) (.ok DriftAux.sampleCluster)],
        .call (.api (.updateVirtualCluster DriftAux.sampleCluster.adopted)) next)⟩ := by
  have hread : World.Exec plainWorld (.api (.getVirtualCluster DriftAux.sampleCluster.key))
    (.ok DriftAux.sampleCluster) plainWorld := by
    have hserved := World.Exec.served plainWorld (.getVirtualCluster DriftAux.sampleCluster.key)
    have hget : plainWorld.virtualClusters.get DriftAux.sampleCluster.key = .ok DriftAux.sampleCluster :=
      Store.get_ok_iff.mpr (find_sampleWorld _ _)
    rwa [World.serve, hget] at hserved
  have hlabelled : World.Advances plainWorld labelledWorld := ⟨Store.advances_put rfl, .skip _ _⟩
  refine ⟨_, .step (.step (.step (.init dated_plainWorld)
    (.start ⟨sampleRuntime, DriftAux.sampleCluster.key, Or.inl rfl⟩))
    (.call hread)) (.env hlabelled)⟩

end LostAux

theorem no_update_lost_sample :
    Preserves virtualClusterFinalizer VirtualCluster.spec labelledWorld.virtualClusters
      (labelledWorld.serve (.updateVirtualCluster DriftAux.sampleCluster.adopted)).2.virtualClusters := by
  obtain ⟨next, hreach⟩ := reachable_labelledWorld
  exact (no_update_lost _ _ _ World.Advances (fun _ _ h => h) hreach rfl (World.Exec.served _ _)).1

end KubeCell
