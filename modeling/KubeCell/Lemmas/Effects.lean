import KubeCell.Lemmas.Provision
import KubeCell.System

/-!
# What the calls of a round change

Each permitted call changes at most one store of the world, and in one of a few ways. Every invariant of the
reconciler is derived from these inversions, store by store.
-/

namespace KubeCell

open RoundAux ProvisionAux

/-- The gate a round has passed before it writes the Work of a name. -/
inductive Gate (Γ : Ctx) (rt : Runtime) (key : NamespacedName) (h : List Event) (v : VirtualCluster) (cell : Cell) :
    NamespacedName → Prop where
  | foundation : HostGate Γ rt key h v cell → Gate Γ rt key h v cell (v.foundationKey cell.spec.managedClusterRef.name)
  | instanceWork : InstanceGate Γ rt key h v cell →
    Gate Γ rt key h v cell (v.instanceKey cell.spec.managedClusterRef.name)

/-- What a round has seen before it requests the deletion of the Work of a name. -/
inductive Condemned (h : List Event) (v : VirtualCluster) : NamespacedName → Prop where
  | instanceWork (managedCluster : String) : Condemned h v (v.instanceKey managedCluster)
  | foundation {managedCluster : String} : managedCluster ≠ "" → WorkGone h (v.instanceKey managedCluster) →
      Condemned h v (v.foundationKey managedCluster)

section Steps

variable (Γ : Ctx) (rt : Runtime) (key : NamespacedName) (h : List Event)

/-- What a call does to the Works. -/
inductive WorksStep (works : Store ManifestWork) : Store ManifestWork → Prop where
  | kept : WorksStep works works
  | created {v : VirtualCluster} {cell : Cell} {workKey : NamespacedName} {desired : ManifestWork} (version : Nat) :
      Gate Γ rt key h v cell workKey → Unpersisted h → IsWorkOf v workKey desired → works.find workKey = none →
      WorksStep works (works.put (Store.asCreated version desired))
  | merged {v : VirtualCluster} {cell : Cell} {workKey : NamespacedName} {desired seen current : ManifestWork}
    (version : Nat) :
      Gate Γ rt key h v cell workKey → Unpersisted h → IsWorkOf v workKey desired →
      Saw h (.api (.getWork workKey)) (.ok seen) → seen.metadata.ownerUID = v.metadata.uid →
        works.find workKey = some current →
      WorksStep works (works.put (mergeWork version current desired))
  | removed {v : VirtualCluster} {workKey : NamespacedName} {seen : ManifestWork} :
    Doomed key h v → Condemned h v workKey →
      Saw h (.api (.getWork workKey)) (.ok seen) → seen.metadata.ownerUID = v.metadata.uid →
      WorksStep works (works.remove seen.metadata.key)
  | marked {v : VirtualCluster} {workKey : NamespacedName} {seen current : ManifestWork}
    (version : Nat) : Doomed key h v →
      Condemned h v workKey → Saw h (.api (.getWork workKey)) (.ok seen) → seen.metadata.ownerUID = v.metadata.uid →
      works.find seen.metadata.key = some current → WorksStep works (works.put (Store.asDeleted version current))

/-- What a call does to the Secrets. -/
inductive SecretsStep (secrets : Store Secret) : Store Secret → Prop where
  | kept : SecretsStep secrets secrets
  | created {v : VirtualCluster} {data : List UInt8} (version : Nat) : Live key h v → secrets.find v.secretKey = none →
      SecretsStep secrets (secrets.put (Store.asCreated version (adminSecret v data)))
  | updated {v : VirtualCluster} {o current : Secret} (version : Nat) : Live key h v →
      (∃ child ∈ observations h, child.published Γ true) → (∃ data resourceVersion, o = { adminSecret v data with
        metadata.resourceVersion := resourceVersion }) → secrets.find v.secretKey = some current →
      SecretsStep secrets (secrets.put (Store.asUpdated version current o))
  | vacated {v : VirtualCluster} : Live key h v → (∃ child ∈ observations h, child.published Γ true) →
      SecretsStep secrets (secrets.remove v.secretKey)
  | removed {v : VirtualCluster} {seen : Secret} : Doomed key h v → Saw h (.api (.getSecret v.secretKey)) (.ok seen) →
      seen.metadata.ownerUID = v.metadata.uid → SecretsStep secrets (secrets.remove seen.metadata.key)
  | marked {v : VirtualCluster} {seen current : Secret} (version : Nat) : Doomed key h v →
      Saw h (.api (.getSecret v.secretKey)) (.ok seen) → seen.metadata.ownerUID = v.metadata.uid →
      secrets.find seen.metadata.key = some current → current.metadata.finalizers ≠ [] →
      SecretsStep secrets (secrets.put (Store.asDeleted version current))

/-- What a call does to the VirtualClusters; `e` is the call with its answer. -/
inductive ClustersStep (cfg : Config) (e : Event) (clusters : Store VirtualCluster) : Store VirtualCluster → Prop where
  | kept : ClustersStep cfg e clusters clusters
  | adopted {v current : VirtualCluster} (version : Nat) : h = [event (.api (.getVirtualCluster key)) (.ok v)] →
    v.deleting = false →
      v.held = false → clusters.find v.key = some current →
      ClustersStep cfg e clusters (clusters.put (Store.asUpdated version current v.adopted))
  | persisted {h₀ tail : List Event} {o current : VirtualCluster} (version : Nat) :
    h = h₀ ++ tail → (∀ e ∈ tail, isTry e = true) →
      Exit Γ cfg rt key h₀ o.status → clusters.find o.key = some current →
      (∃ answer, e = event (.api (.updateVirtualClusterStatus o)) answer) → isTry e = false →
      ClustersStep cfg e clusters (clusters.put (Store.withStatus version current o))
  | released {v : VirtualCluster} {managedCluster : String} {clusters' : Store VirtualCluster} :
    Doomed key h v → SecretGone v h →
      LooksIn v h managedCluster → WorkGone h (v.instanceKey managedCluster) →
        WorkGone h (v.foundationKey managedCluster) →
      (∃ version current, clusters.find v.key = some current ∧
        clusters' = clusters.put (Store.asUpdated version current v.released)) ∨
        clusters' = clusters.remove v.key →
      ClustersStep cfg e clusters clusters'

/-- What a call does to the world: to at most one of the stores, in one of these ways, and never to the
Cells and the classes. -/
structure Effects (cfg : Config) (e : Event) (w w' : World) : Prop where
  works : WorksStep Γ rt key h w.works w'.works
  secrets : SecretsStep Γ key h w.secrets w'.secrets
  clusters : ClustersStep Γ rt key h cfg e w.virtualClusters w'.virtualClusters
  cells : w'.cells = w.cells
  classes : w'.virtualNodeClasses = w.virtualNodeClasses

end Steps

namespace EffectsAux

variable {Γ : Ctx} {cfg : Config} {rt : Runtime} {key : NamespacedName} {h : List Event} {e : Event} {w w' : World}

theorem Effects.refl : Effects Γ rt key h cfg e w w := ⟨.kept, .kept, .kept, rfl, rfl⟩

/-- A write of a Work that is permitted, by the server. -/
theorem effects_work {v : VirtualCluster} {cell : Cell} {workKey : NamespacedName} {desired : ManifestWork}
    {call : ApiCall} (hgate : Gate Γ rt key h v cell workKey) (hnone : Unpersisted h)
    (hwork : IsWorkOf v workKey desired) (hwrite : WorkWrite h v desired call) :
    Effects Γ rt key h cfg e w (w.serve call).2 := by
  have hkey := IsWorkOf.metadata_key hwork
  cases hwrite with
  | create =>
    rcases Store.create_cases w.works w.version desired with ⟨e, heq⟩ | ⟨hfind, heq⟩
    · refine ⟨?_, .kept, .kept, rfl, rfl⟩
      rw [World.serve, heq]
      exact .kept
    · refine ⟨?_, .kept, .kept, rfl, rfl⟩
      rw [World.serve, heq]
      exact .created _ hgate hnone hwork (hkey ▸ hfind)
  | patch hsaw howner =>
    rcases Store.apply_cases w.works mergeWork w.version desired with ⟨hfind, heq⟩ | ⟨current, hfind, heq⟩
    · refine ⟨?_, .kept, .kept, rfl, rfl⟩
      rw [World.serve, heq]
      exact .created _ hgate hnone hwork (hkey ▸ hfind)
    · refine ⟨?_, .kept, .kept, rfl, rfl⟩
      rw [World.serve, heq]
      exact .merged _ hgate hnone hwork (hkey ▸ hsaw) howner (hkey ▸ hfind)

/-- The deletion of a Work that is permitted, by the server. -/
theorem effects_deleteWork {v : VirtualCluster} {workKey : NamespacedName} {seen : ManifestWork}
    (hdoomed : Doomed key h v) (hcondemned : Condemned h v workKey)
    (hsaw : Saw h (.api (.getWork workKey)) (.ok seen)) (howner : seen.metadata.ownerUID = v.metadata.uid) :
    Effects Γ rt key h cfg e w (w.serve (.deleteWork seen.metadata.key)).2 := by
  refine ⟨?_, .kept, .kept, rfl, rfl⟩
  rw [World.serve]
  dsimp only
  rcases Store.delete_cases w.works w.version seen.metadata.key with ⟨⟨e, heq⟩, -⟩ | ⟨current, hfind, -, hcases⟩
  · rw [heq]
    exact .kept
  · rcases hcases with ⟨-, heq⟩ | ⟨-, -, heq⟩ | ⟨-, -, heq⟩ <;> rw [heq]
    · exact .removed hdoomed hcondemned hsaw howner
    · exact .kept
    · exact .marked _ hdoomed hcondemned hsaw howner hfind

/-- What the server does with a call that is permitted, whether its answer gets through or not. -/
theorem effects_serve {call : ApiCall} {r : Except Err call.Res} (hp : Permitted Γ cfg rt key h (.api call))
    (hr : r = (w.serve call).1 ∨ ∃ e, r = .error e ∧ e.reason = .other) :
    Effects Γ rt key h cfg (event (.api call) r) w (w.serve call).2 := by
  cases hp with
  | read hread =>
    cases call with
    | getVirtualCluster | listVirtualClusters | getCell | getVirtualNodeClass | getWork | getSecret =>
      exact Effects.refl
    | _ => nomatch hread
  | @adopt v hh hdeleting hheld =>
    refine ⟨.kept, .kept, ?_, rfl, rfl⟩
    rw [World.serve]
    dsimp only
    rcases Store.update_cases w.virtualClusters w.version
      v.adopted with ⟨e, heq⟩ | ⟨current, hfind, -, heq | ⟨hfinalizers, -⟩⟩
    · rw [heq]
      exact .kept
    · rw [heq]
      exact .adopted _ hh hdeleting hheld hfind
    · exact absurd hfinalizers (by simp [Resource.metadata, VirtualCluster.adopted])
  | foundation hgate hnone hwork hwrite => exact effects_work (.foundation hgate) hnone hwork hwrite
  | instanceWork hgate hnone hwork hwrite => exact effects_work (.instanceWork hgate) hnone hwork hwrite
  | @createSecret v data hlive =>
    refine ⟨.kept, ?_, .kept, rfl, rfl⟩
    rw [World.serve]
    dsimp only
    rcases Store.create_cases w.secrets w.version (adminSecret v data) with ⟨e, heq⟩ | ⟨hfind, heq⟩ <;> rw [heq]
    · exact .kept
    · exact .created _ hlive hfind
  | @updateSecret v data seen hlive hsaw hpublished =>
    refine ⟨.kept, ?_, .kept, rfl, rfl⟩
    rw [World.serve]
    dsimp only
    rcases Store.update_cases w.secrets w.version
      { adminSecret v data with metadata.resourceVersion := seen.metadata.resourceVersion } with
      ⟨e, heq⟩ | ⟨current, hfind, -, heq | ⟨-, heq⟩⟩ <;> rw [heq]
    · exact .kept
    · exact .updated _ hlive hpublished ⟨_, _, rfl⟩ hfind
    · exact .vacated hlive hpublished
  | @persist h₀ tail o hh htry _ hexit =>
    refine ⟨.kept, .kept, ?_, rfl, rfl⟩
    rw [World.serve]
    dsimp only
    rcases Store.updateStatus_cases w.virtualClusters w.version o with ⟨e, heq⟩ | ⟨current, hfind, heq⟩ <;> rw [heq]
    · exact .kept
    · refine .persisted _ hh htry hexit hfind ⟨r, rfl⟩ ?_
      rcases hr with rfl | ⟨e, rfl, he⟩
      · rw [World.serve, heq]
        rfl
      · simp [isTry, event, Err.isConflict, he]
  | @deleteSecret v seen hdoomed hsaw howner =>
    refine ⟨.kept, ?_, .kept, rfl, rfl⟩
    rw [World.serve]
    dsimp only
    rcases Store.delete_cases w.secrets w.version seen.metadata.key with ⟨⟨e, heq⟩, -⟩ | ⟨current, hfind, -, hcases⟩
    · rw [heq]
      exact .kept
    · rcases hcases with ⟨-, heq⟩ | ⟨-, -, heq⟩ | ⟨hne, -, heq⟩ <;> rw [heq]
      · exact .removed hdoomed hsaw howner
      · exact .kept
      · exact .marked _ hdoomed hsaw howner hfind hne
  | deleteInstance hdoomed hsaw howner => exact effects_deleteWork hdoomed (.instanceWork _) hsaw howner
  | deleteFoundation hdoomed hgone hsaw hne howner =>
    exact effects_deleteWork hdoomed (.foundation hne hgone) hsaw howner
  | @release v managedCluster hdoomed hsecret hlooks hinstance hfoundation =>
    refine ⟨.kept, .kept, ?_, rfl, rfl⟩
    rw [World.serve]
    dsimp only
    rcases Store.update_cases w.virtualClusters w.version
      v.released with ⟨e, heq⟩ | ⟨current, hfind, -, heq | ⟨-, heq⟩⟩ <;> rw [heq]
    · exact .kept
    · exact .released hdoomed hsecret hlooks hinstance hfoundation (Or.inl ⟨_, current, hfind, rfl⟩)
    · exact .released hdoomed hsecret hlooks hinstance hfoundation (Or.inr rfl)

/-- What the world does with a call that is permitted. -/
theorem effects_of_permitted {call : Call} {r : call.Res} (hp : Permitted Γ cfg rt key h call)
    (hx : World.Exec w call r w') :
    Effects Γ rt key h cfg (event call r) w w' := by
  cases hx with
  | served call => exact effects_serve hp (Or.inl rfl)
  | unavailable call e he => exact Effects.refl
  | lost call e he => exact effects_serve hp (Or.inr ⟨e, rfl, he⟩)
  | host call answer => exact Effects.refl

/-! ## The labels of written Works -/

/-- A map that is merged over another has its own entries in the result. -/
theorem lookup_merge {left right : StringMap} {name value : String} (hright : AList.lookup name right = some value) :
    AList.lookup name (merge left right) = some value := by
  have hloop : ∀ (l : List (Sigma fun _ : String => String)) (m : StringMap), l.NodupKeys →
      AList.lookup name (l.foldl (fun result e => result.insert e.1 e.2) m) = (List.dlookup name l).or
        (AList.lookup name m) := by
    intro l
    induction l with
    | nil => exact fun m _ => rfl
    | cons e l ih =>
      obtain ⟨name', value'⟩ := e
      intro m hnodup
      rw [List.foldl_cons, ih _ (List.nodupKeys_of_nodupKeys_cons hnodup)]
      by_cases hname : name = name'
      · subst hname
        have hnone : List.dlookup name l = none := List.dlookup_eq_none.mpr (List.notMem_keys_of_nodupKeys_cons hnodup)
        rw [hnone, AList.lookup_insert, List.dlookup_cons_eq]
        rfl
      · have hcons : List.dlookup name (⟨name', value'⟩ :: l) = List.dlookup name l := List.dlookup_cons_ne l _ hname
        rw [AList.lookup_insert_ne hname, hcons]
  rw [merge, hloop _ _ right.nodupKeys]
  exact congrArg (Option.or · _) hright

/-- A Work that a round writes over another is labelled with the UID. -/
theorem mergeWork_ownerUID {v : VirtualCluster} {workKey : NamespacedName} {desired : ManifestWork}
    (hwork : IsWorkOf v workKey desired) (version : Nat) (current : ManifestWork) :
    (mergeWork version current desired).metadata.ownerUID = v.metadata.uid := by
  obtain ⟨resolved, hmetadata⟩ := hwork
  have hlabel : AList.lookup labelVirtualClusterUID desired.metadata.labels = some v.metadata.uid := by
    rw [hmetadata]
    simp [VirtualCluster.ownedLabels, ownedHostLabels, GoMap.ofList, labelManagedBy, labelCellName,
      labelVirtualClusterName,
      labelVirtualClusterNamespace, labelVirtualClusterUID]
  have hmerged : AList.lookup labelVirtualClusterUID (mergeWork version current desired).metadata.labels =
    some v.metadata.uid :=
    lookup_merge hlabel
  rw [ObjectMeta.ownerUID, StringMap.get, hmerged]
  rfl

/-! ## What answers say about the world -/

/-- An answer that is not the failure of a server that is not available is what the server answers. -/
theorem served_of_exec {call : ApiCall} {r : Except Err call.Res} (hx : World.Exec w (.api call) r w')
    (hr : ∀ e, r = .error e → e.reason ≠ .other) : r = (w.serve call).1 ∧ w' = (w.serve call).2 := by
  cases hx with
  | served => exact ⟨rfl, rfl⟩
  | unavailable _ e he => exact absurd he (hr _ rfl)
  | lost _ e he => exact absurd he (hr _ rfl)

/-- An answer without an error was served. -/
theorem served_of_ok {call : ApiCall} {a : call.Res} (hx : World.Exec w (.api call) (.ok a) w') :
    (w.serve call).1 = .ok a ∧ w' = (w.serve call).2 := by
  obtain ⟨hr, hw⟩ := served_of_exec hx fun e he => nomatch he
  exact ⟨hr.symm, hw⟩

/-- So was one that an object is missing: no call that was lost is answered so. -/
theorem served_of_notFound {call : ApiCall} {e : Err} (hx : World.Exec w (.api call) (.error e) w')
    (he : e.isNotFound = true) :
    (w.serve call).1 = .error e ∧ w' = (w.serve call).2 := by
  obtain ⟨hr, hw⟩ := served_of_exec hx fun e' he' hother => by
    cases he'
    simp [Err.isNotFound, hother] at he
  exact ⟨hr.symm, hw⟩

/-- The server answers a read with what is stored. -/
theorem find_of_getWork {workKey : NamespacedName} {work : ManifestWork}
    (hx : World.Exec w (.api (.getWork workKey)) (.ok work) w') :
    w.works.find workKey = some work ∧ w' = w := by
  obtain ⟨hr, hw⟩ := served_of_ok hx
  exact ⟨Store.get_ok_iff.mp hr, hw⟩

@[inherit_doc find_of_getWork] theorem none_of_getWork {workKey : NamespacedName} {e : Err}
    (hx : World.Exec w (.api (.getWork workKey)) (.error e) w') (he : e.isNotFound = true) :
    w.works.find workKey = none ∧ w' = w := by
  obtain ⟨hr, hw⟩ := served_of_notFound hx he
  exact ⟨(Store.get_error_iff.mp hr).1, hw⟩

@[inherit_doc find_of_getWork] theorem find_of_getSecret {secretKey : NamespacedName} {secret : Secret}
    (hx : World.Exec w (.api (.getSecret secretKey)) (.ok secret) w') :
    w.secrets.find secretKey = some secret ∧ w' = w := by
  obtain ⟨hr, hw⟩ := served_of_ok hx
  exact ⟨Store.get_ok_iff.mp hr, hw⟩

@[inherit_doc find_of_getWork] theorem none_of_getSecret {secretKey : NamespacedName} {e : Err}
    (hx : World.Exec w (.api (.getSecret secretKey)) (.error e) w') (he : e.isNotFound = true) :
    w.secrets.find secretKey = none ∧ w' = w := by
  obtain ⟨hr, hw⟩ := served_of_notFound hx he
  exact ⟨(Store.get_error_iff.mp hr).1, hw⟩

@[inherit_doc find_of_getWork] theorem find_of_getVirtualCluster {clusterKey : NamespacedName} {v : VirtualCluster}
    (hx : World.Exec w (.api (.getVirtualCluster clusterKey)) (.ok v) w') :
    w.virtualClusters.find clusterKey = some v ∧ w' = w := by
  obtain ⟨hr, hw⟩ := served_of_ok hx
  exact ⟨Store.get_ok_iff.mp hr, hw⟩

@[inherit_doc find_of_getWork] theorem find_of_getCell {cellKey : NamespacedName} {cell : Cell}
    (hx : World.Exec w (.api (.getCell cellKey)) (.ok cell) w') : w.cells.find cellKey = some cell ∧ w' = w := by
  obtain ⟨hr, hw⟩ := served_of_ok hx
  exact ⟨Store.get_ok_iff.mp hr, hw⟩

end EffectsAux

/-! ## Who is who -/

/-- What is known of the names of things: the VirtualCluster under the name of `u` is `u`, in the world and in the
answers of the round, and each object was read under its own name. -/
structure Identity (u : VirtualCluster) (w : World) (h : List Event) : Prop where
  stored : ∀ v, w.virtualClusters.find u.key = some v → Same u v
  read : ∀ v, Saw h (.api (.getVirtualCluster u.key)) (.ok v) → Same u v
  updated : ∀ o v, Saw h (.api (.updateVirtualCluster o)) (.ok v) → Same u v
  works : ∀ workKey work, Saw h (.api (.getWork workKey)) (.ok work) → work.metadata.key = workKey
  secrets : ∀ secretKey secret, Saw h (.api (.getSecret secretKey)) (.ok secret) → secret.metadata.key = secretKey

namespace EffectsAux

variable {u v : VirtualCluster}

/-- The same object has the same names of what it owns. -/
theorem Same.names (hsame : Same u v) : v.names = u.names := by
  have hkey : v.metadata.ns = u.metadata.ns ∧ v.metadata.name = u.metadata.name := by
    simpa [VirtualCluster.key, ObjectMeta.key] using hsame.key
  rw [VirtualCluster.names, hkey.1, hkey.2, hsame.uid, VirtualCluster.names]

/-- It has the same Secret. -/
theorem Same.secretKey (hsame : Same u v) : v.secretKey = u.secretKey := by
  have hkey : v.metadata.ns = u.metadata.ns := congrArg NamespacedName.ns hsame.key
  rw [VirtualCluster.secretKey, hkey, Same.names hsame, VirtualCluster.secretKey]

/-- It has the same foundation Work in a managed cluster. -/
theorem Same.foundationKey (hsame : Same u v) (managedCluster : String) :
    v.foundationKey managedCluster = u.foundationKey managedCluster := by
  rw [VirtualCluster.foundationKey, Same.names hsame, VirtualCluster.foundationKey]

/-- It has the same instance Work there. -/
theorem Same.instanceKey (hsame : Same u v) (managedCluster : String) :
    v.instanceKey managedCluster = u.instanceKey managedCluster := by
  rw [VirtualCluster.instanceKey, Same.names hsame, VirtualCluster.instanceKey]

theorem Same.cellKey (hsame : Same u v) : v.cellKey = u.cellKey := by
  rw [VirtualCluster.cellKey, hsame.spec, VirtualCluster.cellKey]

variable {Γ : Ctx} {cfg : Config} {rt : Runtime} {h : List Event} {w w' : World}

/-- A round that provisions works on the object that is stored. -/
theorem Identity.live (hid : Identity u w h) (hlive : Live u.key h v) : Same u v := by
  cases hlive with
  | read => exact hid.read _ (List.mem_cons_self ..)
  | adopted => exact hid.updated _ _ (List.mem_cons_of_mem _ (List.mem_cons_self ..))

theorem Identity.doomed (hid : Identity u w h) (hdoomed : Doomed u.key h v) : Same u v := by
  cases hdoomed with
  | read => exact hid.read _ (List.mem_cons_self ..)

/-- At the start of a round only the world is known. -/
theorem Identity.start (hstored : ∀ v, w.virtualClusters.find u.key = some v → Same u v) : Identity u w [] :=
  ⟨hstored, fun _ hsaw => (List.not_mem_nil hsaw).elim, fun _ _ hsaw => (List.not_mem_nil hsaw).elim,
    fun _ _ hsaw => (List.not_mem_nil hsaw).elim, fun _ _ hsaw => (List.not_mem_nil hsaw).elim⟩

/-- What an update of a VirtualCluster stores is the VirtualCluster that was there. -/
theorem Same.asUpdated {current o : VirtualCluster} (hcurrent : Same u current) (ho : Same u o) (version : Nat) :
    Same u (Store.asUpdated version current o) := by
  refine ⟨?_, ?_, ho.spec⟩
  · exact ho.key
  · exact hcurrent.uid

/-- Adding the finalizer leaves the object the same. -/
theorem Same.adopted (hsame : Same u v) : Same u v.adopted := ⟨hsame.key, hsame.uid, hsame.spec⟩

theorem Same.released (hsame : Same u v) : Same u v.released := ⟨hsame.key, hsame.uid, hsame.spec⟩

/-- A call changes nothing about which VirtualCluster is stored. -/
theorem Identity.stored_step (hid : Identity u w h) {e : Event} (heffects : Effects Γ rt u.key h cfg e w w') :
    ∀ v, w'.virtualClusters.find u.key = some v → Same u v := by
  have hput : ∀ o, Same u o → ∀ v, (w.virtualClusters.put o).find u.key = some v → Same u v := by
    intro o ho v hfind
    rw [Store.find_put] at hfind
    split_ifs at hfind
    · exact Option.some.inj hfind ▸ ho
    · exact hid.stored v hfind
  have hstep := heffects.clusters
  generalize w'.virtualClusters = clusters' at hstep ⊢
  cases hstep with
  | kept => exact hid.stored
  | @adopted v current version hh _ _ hfind =>
    have hv : Same u v := hid.read v (hh ▸ List.mem_singleton.mpr rfl)
    exact hput _ (Same.asUpdated (hid.stored _ (hv.key ▸ hfind)) (Same.adopted hv) version)
  | @persisted h₀ tail o current version _ _ _ hfind _ _ =>
    intro v hv
    rw [Store.find_put] at hv
    split_ifs at hv with hkey
    · cases hv
      have hkey' : u.key = current.key := hkey
      have hcurrent : current.key = o.key := Store.find_keyed hfind
      have hsame := hid.stored current (hkey'.trans hcurrent ▸ hfind)
      exact ⟨hsame.key, hsame.uid, hsame.spec⟩
    · exact hid.stored v hv
  | @released v managedCluster clusters' hdoomed _ _ _ _ hclusters =>
    have hv := Identity.doomed hid hdoomed
    rcases hclusters with ⟨version, current, hfind, heq⟩ | heq <;> rw [heq]
    · exact hput _ (Same.asUpdated (hid.stored _ (hv.key ▸ hfind)) (Same.released hv) version)
    · intro v' hv'
      rw [Store.find_remove] at hv'
      split_ifs at hv'
      exact hid.stored v' hv'

/-- An update of a VirtualCluster that a round may issue is of the VirtualCluster of the round. -/
theorem Identity.update (hid : Identity u w h) {o : VirtualCluster}
    (hp : Permitted Γ cfg rt u.key h (.api (.updateVirtualCluster o))) :
    Same u o := by
  cases hp with
  | read hread => nomatch hread
  | adopt hh => exact Same.adopted (hid.read _ (hh ▸ List.mem_singleton.mpr rfl))
  | foundation _ _ _ hwrite => nomatch hwrite
  | instanceWork _ _ _ hwrite => nomatch hwrite
  | release hdoomed => exact Same.released (Identity.doomed hid hdoomed)

/-- A call keeps what is known of the names. -/
theorem Identity.step (hid : Identity u w h) {call : Call} {r : call.Res} (hp : Permitted Γ cfg rt u.key h call)
    (hx : World.Exec w call r w') : Identity u w' (h ++ [event call r]) := by
  refine ⟨Identity.stored_step hid (effects_of_permitted hp hx), ?_, ?_, ?_, ?_⟩
  · intro v hsaw
    rcases saw_snoc hsaw with hsaw | heq
    · exact hid.read v hsaw
    · cases heq
      exact hid.stored v (find_of_getVirtualCluster hx).1
  · intro o v hsaw
    rcases saw_snoc hsaw with hsaw | heq
    · exact hid.updated o v hsaw
    · cases heq
      have ho := Identity.update hid hp
      obtain ⟨hr, -⟩ := served_of_ok hx
      rcases Store.update_cases w.virtualClusters w.version o with ⟨e, herror⟩ | ⟨current, hfind, hok, -⟩
      · rw [World.serve, herror] at hr
        nomatch hr
      · rw [World.serve, hok, Except.ok.injEq] at hr
        exact hr ▸ Same.asUpdated (hid.stored _ (ho.key ▸ hfind)) ho _
  · intro workKey work hsaw
    rcases saw_snoc hsaw with hsaw | heq
    · exact hid.works workKey work hsaw
    · cases heq
      exact Store.find_keyed (find_of_getWork hx).1
  · intro secretKey secret hsaw
    rcases saw_snoc hsaw with hsaw | heq
    · exact hid.secrets secretKey secret hsaw
    · cases heq
      exact Store.find_keyed (find_of_getSecret hx).1

end EffectsAux
end KubeCell
