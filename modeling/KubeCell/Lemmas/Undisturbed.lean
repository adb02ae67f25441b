import KubeCell.Lib.Progress
import KubeCell.Lemmas.Effects
import KubeCell.Lemmas.Publish

/-!
# Rounds that nothing disturbs

What the parts of a round do when the server answers every call and nobody else changes anything in between: one
equation for each part, with the world it leaves behind.
-/

namespace KubeCell

open Prog RoundAux EffectsAux

/-- What a round leaves behind when every call is served and nothing happens in between; `hosts` says what the host
and child clusters answer. -/
def World.afterRound (w : World) (Γ : Ctx) (cfg : Config) (rt : Runtime) (hosts : (call : HostCall) → call.Res)
    (key : NamespacedName) :
    World :=
  ((reconcile Γ cfg rt key).eval (World.answer hosts) w).2

namespace Store

variable {α : Type} [Resource α] {s : Store α} {o current : α}

theorem get_of_find {key : NamespacedName} (hfind : s.find key = some o) : s.get key = .ok o := get_ok_iff.mpr hfind

/-- What is not stored is not found. -/
theorem get_of_missing {key : NamespacedName} (hfind : s.find key = none) : s.get key = .error errNotFound :=
  get_error_iff.mpr ⟨hfind, rfl⟩

/-- Writing a status back against the current version succeeds. -/
theorem updateStatus_of_find (hfind : s.find (Resource.metadata o).key = some current)
    (hversion : (Resource.metadata o).resourceVersion = (Resource.metadata current).resourceVersion) (version : Nat) :
    s.updateStatus version o = (.ok (withStatus version current o), s.put (withStatus version current o)) := by
  rw [updateStatus, hfind]
  dsimp only
  rw [if_neg (not_not.mpr hversion)]

end Store

namespace UndisturbedAux

variable {hosts : (call : HostCall) → call.Res} {α : Type} {w : World}

/-- A call to the API server is served before what comes after it. -/
theorem eval_api (call : ApiCall) (f : Except Err call.Res → Action α) :
    eval (World.answer hosts) (api call >>= f) w = eval (World.answer hosts) (f (w.serve call).1)
      (w.serve call).2 := rfl

/-- A call to the host changes nothing. -/
theorem eval_host (call : HostCall) (f : call.Res → Action α) :
    eval (World.answer hosts) (host call >>= f) w = eval (World.answer hosts) (f (hosts call)) w := rfl

/-- A call to the API server, with what it is answered. -/
theorem eval_api_of_serve {call : ApiCall} {f : Except Err call.Res → Action α} {r : Except Err call.Res} {w₁ : World}
    (hserve : w.serve call = (r, w₁)) :
    eval (World.answer hosts) (api call >>= f) w = eval (World.answer hosts) (f r) w₁ := by
  rw [eval_api, hserve]

/-- The last call of a round. -/
theorem eval_api_last {call : ApiCall} {f : Except Err call.Res → Action α} (hf : ∀ r, ∃ a, f r = .ret a) :
    (eval (World.answer hosts) (api call >>= f) w).2 = (w.serve call).2 := by
  obtain ⟨a, ha⟩ := hf (w.serve call).1
  rw [eval_api, ha, eval_ret]

/-! ## Writing the status -/

/-- The world after a status was put on a VirtualCluster. -/
def World.withStatusOf (w : World) (current : VirtualCluster) (status : VirtualClusterStatus) : World :=
  { w.next with virtualClusters := w.virtualClusters.put (Store.withStatus w.version current { current with status := status }) }

/-- Without others the first try to write a status succeeds. -/
theorem eval_persist {desired current : VirtualCluster} (hfind : w.virtualClusters.find desired.key = some current)
    (requeueAfter : Option Nat) : eval (World.answer hosts) (persist desired requeueAfter) w =
      (.ok { requeueAfter := requeueAfter }, World.withStatusOf w current desired.status) := by
  have hget : w.serve (.getVirtualCluster desired.key) = (.ok current, w) := by
    rw [World.serve, Store.get_of_find hfind]
  have hkey : current.key = desired.key := Store.find_keyed hfind
  have hupdate : w.serve (.updateVirtualClusterStatus { current with status := desired.status }) =
      (.ok (Store.withStatus w.version current { current with status := desired.status }),
        World.withStatusOf w current desired.status) := by
    have hcurrent : w.virtualClusters.find (Resource.metadata { current with status := desired.status }).key =
      some current := by
      rw [← hfind, ← hkey]
      rfl
    rw [World.serve, Store.updateStatus_of_find hcurrent rfl]
    rfl
  rw [persist, updateVirtualClusterStatus, retryOnConflict, tryUpdateStatus]
  simp only [bind_assoc]
  rw [eval_api, hget]
  dsimp only
  rw [bind_assoc, eval_api, hupdate]
  rfl

/-- Writing a status changes the VirtualClusters only. -/
theorem works_persist (w : World) (desired : VirtualCluster) (requeueAfter : Option Nat) :
    (eval (World.answer hosts) (persist desired requeueAfter) w).2.works = w.works := by
  refine Neutral.eval_keeps (N := fun call => (∃ key, call = .api (.getVirtualCluster key)) ∨
    ∃ o, call = .api (.updateVirtualClusterStatus o)) World.works ?_
    (StagesAux.neutral_status (fun key => Or.inl ⟨key, rfl⟩) (fun o => Or.inr ⟨o, rfl⟩) desired requeueAfter) w
  rintro w call (⟨key, rfl⟩ | ⟨o, rfl⟩) <;> rfl

/-! ## Writing Works and the Secret -/

/-- The ownership labels of a VirtualCluster. -/
theorem lookup_ownedLabels (u : VirtualCluster) (resolved : ResolvedSnapshot) :
    AList.lookup labelManagedBy (u.ownedLabels resolved) = some managedByKubecell ∧
      AList.lookup labelCellName (u.ownedLabels resolved) = some u.spec.cellRef.name ∧
      AList.lookup labelVirtualClusterNamespace (u.ownedLabels resolved) = some u.metadata.ns ∧
      AList.lookup labelVirtualClusterName (u.ownedLabels resolved) = some u.metadata.name ∧
      AList.lookup labelVirtualClusterUID (u.ownedLabels resolved) = some u.metadata.uid ∧
      AList.lookup labelExecutionMode (u.ownedLabels resolved) = some executionModeShared := by
  simp [VirtualCluster.ownedLabels, ownedHostLabels, GoMap.ofList, labelManagedBy, labelCellName,
    labelVirtualClusterName,
    labelVirtualClusterNamespace, labelVirtualClusterUID, labelExecutionMode]

/-- The Work carries the ownership labels of the VirtualCluster. -/
def Ours (u : VirtualCluster) (work : ManifestWork) : Prop :=
  matchesOwnedHostLabels work.metadata.labels u.spec.cellRef.name u.metadata.ns u.metadata.name u.metadata.uid = true

/-- A Work with the labels of its owner is ours. -/
theorem ours_of_labels {u : VirtualCluster} (resolved : ResolvedSnapshot) {work : ManifestWork}
    (hlabels : ∀ name value, AList.lookup name (u.ownedLabels resolved) = some value →
      AList.lookup name work.metadata.labels = some value) : Ours u work := by
  obtain ⟨hmanaged, hcell, hns, hname, huid, hmode⟩ := lookup_ownedLabels u resolved
  simp [Ours, matchesOwnedHostLabels, StringMap.get, hlabels _ _ hmanaged, hlabels _ _ hcell, hlabels _ _ hns,
    hlabels _ _ hname,
    hlabels _ _ huid, hlabels _ _ hmode]

variable (hosts) in
/-- A Work is written where there is none, or over one with the labels of the VirtualCluster; what
OCM says of it is kept. -/
theorem eval_createOrUpdateWork (desired : ManifestWork) {u : VirtualCluster} {resolved : ResolvedSnapshot}
    (hlabels : desired.metadata.labels = u.ownedLabels resolved)
    (hours : ∀ work, w.works.find desired.metadata.key = some work → Ours u work) :
    ∃ work, eval (World.answer hosts) (createOrUpdateWork desired) w =
      (.ok (), { w.next with works := w.works.put work }) ∧
      work.metadata.key = desired.metadata.key ∧ Ours u work ∧
      ∀ current, w.works.find desired.metadata.key = some current → work.conditions = current.conditions := by
  rw [createOrUpdateWork, eval_api, World.serve]
  cases hfind : w.works.find desired.metadata.key with
  | none =>
    refine ⟨Store.asCreated w.version desired, ?_, rfl, ?_, fun current h => by cases h⟩
    · have hcreate : w.works.create w.version desired = (.ok (Store.asCreated w.version desired),
          w.works.put (Store.asCreated w.version desired)) := by
        rw [Store.create]
        simp only [Resource.metadata, hfind]
      rw [Store.get_of_missing hfind]
      change eval (World.answer hosts) (api (.createWork desired) >>= _) w = _
      rw [eval_api, World.serve, hcreate]
      rfl
    · refine ours_of_labels resolved fun name value hlookup => ?_
      rw [← hlabels] at hlookup
      exact hlookup
  | some current =>
    refine ⟨mergeWork w.version current desired, ?_, Store.find_keyed hfind, ?_, ?_⟩
    · obtain ⟨-, hcell, hns, hname, huid, -⟩ := lookup_ownedLabels u resolved
      have howner := hours current hfind
      have hget : ∀ name value, AList.lookup name (u.ownedLabels resolved) = some value →
        desired.metadata.labels.get name = value := by
        intro name value hlookup
        rw [StringMap.get, hlabels, hlookup]
        rfl
      have huid' : current.metadata.labels.get labelVirtualClusterUID = u.metadata.uid := by
        simp only [Ours, matchesOwnedHostLabels, Bool.and_eq_true, beq_iff_eq] at howner
        exact howner.1.2
      have hvalid : validateWorkReference current (desired.metadata.labels.get labelVirtualClusterUID) = .ok () := by
        rw [hget _ _ huid, validateWorkReference, if_neg (not_not.mpr huid')]
      have hmatches : matchesOwnedHostLabels current.metadata.labels (desired.metadata.labels.get labelCellName)
          (desired.metadata.labels.get labelVirtualClusterNamespace)
            (desired.metadata.labels.get labelVirtualClusterName)
          (desired.metadata.labels.get labelVirtualClusterUID) = true := by
        rw [hget _ _ huid, hget _ _ hcell, hget _ _ hns, hget _ _ hname]
        exact howner
      rw [Store.get_of_find hfind]
      dsimp only
      rw [hvalid]
      dsimp only
      rw [if_neg (by rw [hmatches]; decide), eval_api, World.serve, Store.apply]
      simp only [Resource.metadata, hfind]
      rfl
    · refine ours_of_labels resolved fun name value hlookup => ?_
      rw [← hlabels] at hlookup
      exact lookup_merge hlookup
    · intro found hfound
      cases hfound
      rfl

variable (hosts) in
/-- The Secret is written, and nothing else changes. -/
theorem eval_publishAdminKubeconfig (Γ : Ctx) (cluster : VirtualCluster) (data : List UInt8)
    (sourceSecretName endpoint : String) (w : World) :
    ∃ observed version secrets, eval (World.answer hosts)
      (publishAdminKubeconfig Γ cluster data sourceSecretName endpoint) w =
      (.ok (cluster.withCredential Γ sourceSecretName endpoint observed),
        { w with version := version, secrets := secrets }) := by
  rw [publishAdminKubeconfig]
  dsimp only
  rw [eval_api, World.serve]
  cases hfind : w.secrets.find (adminSecret cluster data).metadata.key with
  | none =>
    refine ⟨0, w.version + 1, (w.secrets.create w.version (adminSecret cluster data)).2, ?_⟩
    have hcreate : (w.secrets.create w.version (adminSecret cluster data)).1 =
        .ok (Store.asCreated w.version (adminSecret cluster data)) := by
      rw [Store.create]
      simp only [Resource.metadata, hfind]
    rw [Store.get_of_missing hfind]
    change eval (World.answer hosts) (api (.createSecret (adminSecret cluster data)) >>= _) w = _
    rw [eval_api, World.serve]
    dsimp only
    rw [hcreate]
    rfl
  | some current =>
    let desired : Secret := { adminSecret cluster data with metadata.resourceVersion := current.metadata.resourceVersion }
    refine ⟨current.metadata.resourceVersion, w.version + 1, (w.secrets.update w.version desired).2, ?_⟩
    have hupdate : (w.secrets.update w.version desired).1 = .ok (Store.asUpdated w.version current desired) :=
      Store.update_ok (o := desired) hfind rfl rfl _
    rw [Store.get_of_find hfind]
    dsimp only
    rw [eval_api, World.serve]
    dsimp only
    rw [hupdate]
    rfl

end UndisturbedAux
end KubeCell
