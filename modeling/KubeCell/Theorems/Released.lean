import KubeCell.Lemmas.Undisturbed
import KubeCell.Theorems.Orphans

/-!
# A deletion comes to its end

A VirtualCluster whose deletion was requested is released in every run in which rounds keep coming through undisturbed
and OCM completes the deletions it was asked for, whatever happens to the other rounds: calls may fail, answers may be
lost and rounds may be cut off.
-/

namespace KubeCell

open Prog RoundAux ProvisionAux EffectsAux EnvironmentAux OwnedAux UndisturbedAux

/-- Nothing stands in the way of the deletion of `u` in the namespace of a ManagedCluster: the Works and the Secret
under its names are its own, and the ManagedCluster is known from the snapshot, or from the Cell. -/
structure Clear (u : VirtualCluster) (managedCluster : String) (w : World) : Prop where
  instanceWork : ∀ work, w.works.find (u.instanceKey managedCluster) = some work →
    work.metadata.ownerUID = u.metadata.uid
  foundation : ∀ work, w.works.find (u.foundationKey managedCluster) = some work →
    work.metadata.ownerUID = u.metadata.uid
  secret : ∀ secret, w.secrets.find u.secretKey = some secret → secret.metadata.ownerUID = u.metadata.uid
  known : u.status.resolved.managedClusterName = managedCluster ∧ managedCluster ≠ "" ∨
    u.status.resolved.managedClusterName = "" ∧ ∃ cell, w.cells.find u.cellKey = some cell ∧
      cell.spec.managedClusterRef.name = managedCluster

/-- The Work under a name, as the deletion looks for it. -/
def standing (works : Store ManifestWork) (key : NamespacedName) : Option ManifestWork :=
  if key.ns = "" then none else works.find key

/-- What is still to be done about the Work under a name: its deletion is to be requested, or to be
completed, or nothing. -/
def pending (works : Store ManifestWork) (key : NamespacedName) : Nat :=
  match standing works key with
  | none => 0
  | some work => if Store.terminating work then 1 else 2

/-- What is still to be done about the Works of `u`. -/
def pendingWorks (u : VirtualCluster) (managedCluster : String) (w : World) : Nat :=
  pending w.works (u.instanceKey managedCluster) + pending w.works (u.foundationKey managedCluster)

/-- `u` is gone, or does not carry the finalizer any more. -/
def Freed (u : VirtualCluster) (w : World) : Prop := ∀ v, w.virtualClusters.find u.key = some v → v.held = false

namespace ReleasedAux

variable {Γ : Ctx} {cfg : Config} {rt : Runtime} {hosts : (call : HostCall) → call.Res} {u v : VirtualCluster}
  {w w' : World} {managedCluster : String} {h : List Event}

/-! ## An undisturbed round of the deletion -/

variable (hosts) in
/-- The Secret is gone or on its way, and nothing else changes. -/
theorem eval_deleteOwnedSecret {ns name uid : String} (hname : name ≠ "")
    (howner : ∀ secret, w.secrets.find ⟨ns, name⟩ = some secret → secret.metadata.ownerUID = uid) :
    ∃ version secrets, eval (World.answer hosts) (deleteOwnedSecret ns name uid) w =
      (.ok (), { w with version := version, secrets := secrets }) := by
  rw [deleteOwnedSecret, if_neg hname, eval_api]
  cases hfind : w.secrets.find ⟨ns, name⟩ with
  | none =>
    refine ⟨w.version, w.secrets, ?_⟩
    rw [World.serve, Store.get_of_missing hfind]
    rfl
  | some secret =>
    have hlabel : secret.metadata.labels.get labelVirtualClusterUID = uid := howner secret hfind
    have hkey : secret.metadata.key = ⟨ns, name⟩ := Store.find_keyed hfind
    refine ⟨w.version + 1, (w.secrets.delete w.version secret.metadata.key).2, ?_⟩
    rw [World.serve, Store.get_of_find hfind]
    dsimp only
    rw [if_neg (not_not.mpr hlabel), eval_api, World.serve]
    rcases Store.delete_cases w.secrets w.version secret.metadata.key with ⟨-, hmissing⟩ | ⟨current, -, hok, -⟩
    · rw [hkey, hfind] at hmissing
      cases hmissing
    · dsimp only
      rw [hok]
      rfl

variable (hosts) in
/-- Looking for a Work changes nothing, and one that is not there is no error. -/
theorem eval_getWork (w : World) (key : NamespacedName) (hname : key.name ≠ "") :
    (eval (World.answer hosts) (getWork key.ns key.name) w).2 = w ∧
      orMissing (eval (World.answer hosts) (getWork key.ns key.name) w).1 = .ok (standing w.works key) := by
  unfold getWork standing
  by_cases hns : key.ns = ""
  · rw [if_pos (Or.inl hns), if_pos hns]
    exact ⟨rfl, rfl⟩
  · rw [if_neg (by simp [hns, hname]), if_neg hns, eval_api, World.serve]
    dsimp only
    cases hfind : w.works.find key with
    | none =>
      have hget : w.works.get ⟨key.ns, key.name⟩ = .error errNotFound := Store.get_of_missing hfind
      rw [hget]
      exact ⟨rfl, rfl⟩
    | some work =>
      have hget : w.works.get ⟨key.ns, key.name⟩ = .ok work := Store.get_of_find hfind
      rw [hget]
      exact ⟨rfl, rfl⟩

/-- The deletion goes on with the Works that stand. -/
theorem eval_deleteWorks (w : World) (v : VirtualCluster) (managedCluster : String) :
    eval (World.answer hosts) (deleteWorks rt v managedCluster) w =
      eval (World.answer hosts) (deleteInOrder rt v (standing w.works (v.instanceKey managedCluster))
        (standing w.works (v.foundationKey managedCluster))) w := by
  obtain ⟨hworld, hinstance⟩ := eval_getWork hosts w (v.instanceKey managedCluster) (instanceWork_ne_empty v)
  obtain ⟨hworld', hfoundation⟩ := eval_getWork hosts w (v.foundationKey managedCluster) (foundationWork_ne_empty v)
  rw [VirtualCluster.instanceKey] at hworld hinstance
  rw [VirtualCluster.foundationKey] at hworld' hfoundation
  rw [deleteWorks, eval_bind, hworld, eval_bind, hworld', hinstance, hfoundation]
  rfl

variable (Γ cfg rt hosts) in
/-- An undisturbed round of the deletion comes to the Works, with nothing changed but the Secret. -/
theorem afterRound_doomed (hclear : Clear u managedCluster w) (hfind : w.virtualClusters.find u.key = some v)
    (hsame : Same u v) (hresolved : v.status.resolved = u.status.resolved) (hdeleting : v.deleting = true)
    (hheld : v.held = true) :
    ∃ version secrets, w.afterRound Γ cfg rt hosts u.key =
      (eval (World.answer hosts) (deleteInOrder rt v (standing w.works (u.instanceKey managedCluster))
        (standing w.works (u.foundationKey managedCluster))) { w with version := version, secrets := secrets }).2 := by
  have hname : v.names.adminKubeconfig ≠ "" := by
    intro hempty
    have := congrArg String.toList hempty
    simp [VirtualCluster.names, namesForVirtualCluster, String.toList_append] at this
  have howner : ∀ secret, w.secrets.find ⟨v.metadata.ns, v.names.adminKubeconfig⟩ = some secret →
      secret.metadata.ownerUID = v.metadata.uid := by
    intro secret hsecret
    have hkey : w.secrets.find v.secretKey = some secret := hsecret
    rw [Same.secretKey hsame] at hkey
    exact (hclear.secret secret hkey).trans hsame.uid.symm
  obtain ⟨version, secrets, hsecret⟩ := eval_deleteOwnedSecret hosts hname howner
  have hcontains : containsString v.metadata.finalizers virtualClusterFinalizer = true := hheld
  have hgone : ∀ managedCluster, eval (World.answer hosts) (deleteWorks rt v managedCluster)
      { w with version := version, secrets := secrets } =
      eval (World.answer hosts) (deleteInOrder rt v (standing w.works (u.instanceKey managedCluster))
        (standing w.works (u.foundationKey managedCluster))) { w with version := version, secrets := secrets } := by
    intro managedCluster
    rw [eval_deleteWorks, Same.instanceKey hsame, Same.foundationKey hsame]
  refine ⟨version, secrets, ?_⟩
  rw [World.afterRound, reconcile, eval_api, World.serve, Store.get_of_find hfind]
  dsimp only
  rw [if_pos hdeleting, reconcileDeletion, hcontains]
  simp only [Bool.not_true, Bool.false_eq_true, if_false]
  rw [eval_bind, hsecret]
  dsimp only
  rcases hclear.known with ⟨hname, hne⟩ | ⟨hempty, cell, hcell, hname⟩
  · rw [if_neg (by rw [hresolved, hname]; exact hne), hresolved, hname, hgone]
  · rw [if_pos (by rw [hresolved, hempty]), eval_api, World.serve]
    have hget : w.cells.get v.cellKey = .ok cell := Store.get_of_find (Same.cellKey hsame ▸ hcell)
    dsimp only
    rw [hget]
    dsimp only
    rw [hname, hgone]

/-! ## What is still to be done -/

/-- Less is to be done about a Work that has gone, or is on its way. -/
def Fades (key : NamespacedName) (works works' : Store ManifestWork) : Prop :=
  ∀ work', works'.find key = some work' → ∃ work, works.find key = some work ∧
    work'.metadata.ownerUID = work.metadata.ownerUID ∧ (Store.terminating work = true → Store.terminating work' = true)

theorem Fades.refl (key : NamespacedName) (works : Store ManifestWork) : Fades key works works :=
  fun work h => ⟨work, h, rfl, id⟩

theorem Fades.trans {key : NamespacedName} {works works' works'' : Store ManifestWork} (h : Fades key works works')
    (h' : Fades key works' works'') : Fades key works works'' := by
  intro work'' hwork''
  obtain ⟨work', hwork', howner', hterminating'⟩ := h' work'' hwork''
  obtain ⟨work, hwork, howner, hterminating⟩ := h work' hwork'
  exact ⟨work, hwork, howner'.trans howner, hterminating' ∘ hterminating⟩

/-- A Work that is removed has faded. -/
theorem fades_remove (key key' : NamespacedName) (works : Store ManifestWork) :
    Fades key works (works.remove key') := by
  intro work' hwork'
  rw [Store.find_remove] at hwork'
  split_ifs at hwork'
  exact ⟨work', hwork', rfl, id⟩

/-- A Work is put in the place of one with the same owner. -/
theorem fades_put {works : Store ManifestWork} (work work' : ManifestWork)
    (hfind : works.find work'.metadata.key = some work) (howner : work'.metadata.ownerUID = work.metadata.ownerUID)
    (hterminating : Store.terminating work = true → Store.terminating work' = true) (key : NamespacedName) :
    Fades key works (works.put work') := by
  intro found hfound
  rw [Store.find_put] at hfound
  split_ifs at hfound with hkey
  · cases hfound
    exact ⟨work, hkey ▸ hfind, howner, hterminating⟩
  · exact ⟨found, hfound, rfl, id⟩

theorem pending_le {key : NamespacedName} {works works' : Store ManifestWork} (h : Fades key works works') :
    pending works' key ≤ pending works key := by
  unfold pending standing
  by_cases hns : key.ns = ""
  · rw [if_pos hns, if_pos hns]
  · rw [if_neg hns, if_neg hns]
    cases hfind' : works'.find key with
    | none => exact Nat.zero_le _
    | some work' =>
      obtain ⟨work, hfind, -, hterminating⟩ := h work' hfind'
      rw [hfind]
      dsimp only
      split_ifs with hafter hbefore hbefore
      · exact le_rfl
      · exact Nat.le_succ 1
      · exact absurd (hterminating hbefore) hafter
      · exact le_rfl

/-- A deletion that is requested for the first time is a step ahead. -/
theorem pending_delete {works : Store ManifestWork} {key : NamespacedName} {work : ManifestWork}
    (hwork : standing works key = some work) (halive : Store.terminating work = false) (version : Nat) :
    pending (works.delete version key).2 key < pending works key := by
  unfold standing at hwork
  split_ifs at hwork with hns
  have hbefore : pending works key = 2 := by
    rw [pending, standing, if_neg hns, hwork]
    dsimp only
    rw [halive]
    rfl
  rw [hbefore]
  unfold pending standing
  rw [if_neg hns]
  rcases Store.delete_cases works version key with ⟨-, hmissing⟩ | ⟨current, hfind, -, hcases⟩
  · rw [hwork] at hmissing
    cases hmissing
  · rw [hwork, Option.some.injEq] at hfind
    subst hfind
    rcases hcases with ⟨-, heq⟩ | ⟨-, hterminating, -⟩ | ⟨-, -, heq⟩
    · rw [heq, Store.find_remove, if_pos rfl]
      decide
    · rw [halive] at hterminating
      cases hterminating
    · have hkey : key = (Resource.metadata (Store.asDeleted version work)).key := (Store.find_keyed hwork).symm
      rw [heq, Store.find_put, if_pos hkey]
      exact Nat.lt_succ_self 1

/-- Deleting another Work makes no difference. -/
theorem pending_delete_other {works : Store ManifestWork} {key key' : NamespacedName} (hne : key' ≠ key)
    (version : Nat) :
    pending (works.delete version key).2 key' = pending works key' := by
  have hfind : (works.delete version key).2.find key' = works.find key' := by
    rcases Store.delete_cases works version key with ⟨⟨e, heq⟩, -⟩ | ⟨current, hfind, -, hcases⟩
    · rw [heq]
    · rcases hcases with ⟨-, heq⟩ | ⟨-, -, heq⟩ | ⟨-, -, heq⟩
      · rw [heq, Store.find_remove, if_neg hne]
      · rw [heq]
      · have hkey : key' ≠ (Resource.metadata (Store.asDeleted version current)).key := by
          rw [Store.metadata_asDeleted]
          intro h
          exact hne (h.trans (Store.find_keyed hfind))
        rw [heq, Store.find_put, if_neg hkey]
  rw [pending, pending, standing, standing, hfind]

/-! ## What an undisturbed round achieves -/

/-- A plan about Works of the VirtualCluster is not blocked. -/
theorem buildDeletionPlan_owned (instanceWork foundation : Option ManifestWork) {uid : String} (huid : uid ≠ "")
    (hinstance : ∀ work, instanceWork = some work → work.metadata.ownerUID = uid)
    (hfoundation : ∀ work, foundation = some work → work.metadata.ownerUID = uid) :
    (buildDeletionPlan instanceWork foundation uid).blocked = false := by
  unfold buildDeletionPlan
  rw [if_neg]
  simp only [List.any_eq_true, List.mem_append, Option.mem_toList, Bool.or_eq_true, beq_iff_eq, bne_iff_ne,
    not_exists, not_and, not_or,
    not_not]
  rintro work (hwork | hwork)
  · exact ⟨huid, hinstance work hwork⟩
  · exact ⟨huid, hfoundation work hwork⟩

/-- Requesting a deletion leaves the Works as the server does. -/
theorem works_requestDeletion {work : ManifestWork} (hfind : w.works.find work.metadata.key = some work)
    (reason message : String) :
    (eval (World.answer hosts) (requestDeletion rt v work reason message) w).2.works =
      (w.works.delete w.version work.metadata.key).2 := by
  rw [requestDeletion, eval_api, World.serve]
  rcases Store.delete_cases w.works w.version work.metadata.key with ⟨-, hmissing⟩ | ⟨current, -, hok, -⟩
  · rw [hfind] at hmissing
    cases hmissing
  · dsimp only
    rw [hok]
    exact works_persist _ _ _

/-- Taking the finalizer away succeeds, and then it is gone. -/
theorem held_released (hfind : w.virtualClusters.find v.key = some v) (version : Nat) :
    ∀ v', (w.virtualClusters.update version v.released).2.find v.key = some v' → v'.held = false := by
  have hadded : (v.released.metadata.finalizers.any fun f => !containsString v.metadata.finalizers f) = false := by
    simp only [VirtualCluster.released, removeString, containsString, List.any_eq_false, List.mem_filter]
    rintro f ⟨hf, -⟩
    simpa using hf
  have hkey : v.released.metadata.key = v.key := rfl
  intro v' hv'
  unfold Store.update at hv'
  simp only [Resource.metadata, hkey, hfind] at hv'
  rw [if_neg (by simp [VirtualCluster.released]), hadded] at hv'
  simp only [Bool.and_false, Bool.false_eq_true, if_false] at hv'
  split_ifs at hv'
  · rw [Store.find_remove, if_pos rfl] at hv'
    cases hv'
  · have hstored : v.key = (Resource.metadata (Store.asUpdated version v v.released)).key := rfl
    rw [Store.find_put, if_pos hstored, Option.some.injEq] at hv'
    subst hv'
    exact AnchoredAux.released_held v

variable (Γ cfg rt hosts) in
/-- An undisturbed round gets ahead with the Works, or waits for one whose deletion was requested, or
takes the finalizer away. -/
theorem afterRound_progress (huid : u.metadata.uid ≠ "") (hclear : Clear u managedCluster w)
    (hfind : w.virtualClusters.find u.key = some v) (hsame : Same u v)
      (hresolved : v.status.resolved = u.status.resolved)
    (hdeleting : v.deleting = true) (hheld : v.held = true) :
    pendingWorks u managedCluster (w.afterRound Γ cfg rt hosts u.key) < pendingWorks u managedCluster w ∨
      (∃ work, (standing w.works (u.instanceKey managedCluster) = some work ∨
        standing w.works (u.foundationKey managedCluster) = some work) ∧ Store.terminating work = true) ∨
      Freed u (w.afterRound Γ cfg rt hosts u.key) := by
  obtain ⟨version, secrets, hround⟩ := afterRound_doomed Γ cfg rt hosts hclear hfind hsame hresolved
    hdeleting hheld
  have hne : u.foundationKey managedCluster ≠ u.instanceKey managedCluster := fun heq =>
    foundationWork_ne_instanceWork u (congrArg NamespacedName.name heq)
  have hstands : ∀ {key : NamespacedName} {work : ManifestWork}, standing w.works key = some work →
      w.works.find key = some work ∧ work.metadata.key = key := by
    intro key work hwork
    unfold standing at hwork
    split_ifs at hwork
    exact ⟨hwork, Store.find_keyed hwork⟩
  have hplan := buildDeletionPlan_owned (standing w.works (u.instanceKey managedCluster))
    (standing w.works (u.foundationKey managedCluster)) huid
    (fun work hwork => hclear.instanceWork work (hstands hwork).1) fun work hwork => hclear.foundation work
      (hstands hwork).1
  unfold deleteInOrder at hround
  dsimp only at hround
  rw [hsame.uid, hplan] at hround
  simp only [Bool.false_eq_true, if_false] at hround
  cases hinstance : standing w.works (u.instanceKey managedCluster) with
  | some work =>
    obtain ⟨hwork, hkey⟩ := hstands hinstance
    by_cases hterminating : Store.terminating work = true
    · exact Or.inr (Or.inl ⟨work, Or.inl rfl, hterminating⟩)
    · left
      rw [hinstance] at hround
      dsimp only at hround
      have hworks := congrArg World.works hround
      rw [works_requestDeletion (hkey ▸ hwork), hkey] at hworks
      rw [pendingWorks, pendingWorks, hworks, pending_delete_other hne]
      exact Nat.add_lt_add_right (pending_delete hinstance (by simpa using hterminating) _) _
  | none =>
    cases hfoundation : standing w.works (u.foundationKey managedCluster) with
    | some work =>
      obtain ⟨hwork, hkey⟩ := hstands hfoundation
      by_cases hterminating : Store.terminating work = true
      · exact Or.inr (Or.inl ⟨work, Or.inr rfl, hterminating⟩)
      · left
        rw [hinstance, hfoundation] at hround
        dsimp only at hround
        have hworks := congrArg World.works hround
        rw [works_requestDeletion (hkey ▸ hwork), hkey] at hworks
        rw [pendingWorks, pendingWorks, hworks, pending_delete_other hne.symm]
        exact Nat.add_lt_add_left (pending_delete hfoundation (by simpa using hterminating) _) _
    | none =>
      right
      right
      rw [hinstance, hfoundation] at hround
      dsimp only at hround
      rw [Freed, hround, eval_api_last (by rintro (e | o) <;> exact ⟨_, rfl⟩)]
      have hreleased := held_released (w := w) (v := v) (hsame.key ▸ hfind) version
      rw [hsame.key] at hreleased
      exact hreleased

/-! ## What every step keeps -/

/-- What holds of the world while `u` is being deleted. -/
structure Dying (u : VirtualCluster) (managedCluster : String) (w : World) : Prop where
  stored : ∀ v, w.virtualClusters.find u.key = some v → Same u v ∧ v.deleting = true ∧
    v.status.resolved = u.status.resolved
  clear : Clear u managedCluster w

/-- What the answers of a round of the deletion tell. -/
structure DyingRound (u : VirtualCluster) (w : World) (h : List Event) : Prop where
  identity : Identity u w h
  read : ∀ v, Saw h (.api (.getVirtualCluster u.key)) (.ok v) → v.deleting = true ∧
    v.status.resolved = u.status.resolved

/-- What a step leaves of what is to be done about `u`. -/
structure Wanes (u : VirtualCluster) (managedCluster : String) (w w' : World) : Prop where
  instanceWork : Fades (u.instanceKey managedCluster) w.works w'.works
  foundation : Fades (u.foundationKey managedCluster) w.works w'.works
  freed : Freed u w → Freed u w'

theorem Wanes.refl (w : World) : Wanes u managedCluster w w := ⟨Fades.refl _ _, Fades.refl _ _, id⟩

theorem Wanes.trans {w'' : World} (h : Wanes u managedCluster w w') (h' : Wanes u managedCluster w' w'') :
    Wanes u managedCluster w w'' :=
  ⟨h.instanceWork.trans h'.instanceWork, h.foundation.trans h'.foundation, h'.freed ∘ h.freed⟩

/-- Works that fade stay clear. -/
theorem Clear.fades (hclear : Clear u managedCluster w)
    (hinstance : Fades (u.instanceKey managedCluster) w.works w'.works)
    (hfoundation : Fades (u.foundationKey managedCluster) w.works w'.works)
    (hsecret : ∀ secret', w'.secrets.find u.secretKey = some secret' → ∃ secret, w.secrets.find u.secretKey =
      some secret ∧ secret'.metadata.ownerUID = secret.metadata.ownerUID)
    (hcells : w'.cells = w.cells) : Clear u managedCluster w' := by
  refine ⟨fun work' hwork' => ?_, fun work' hwork' => ?_, fun secret' hsecret' => ?_, hcells ▸ hclear.known⟩
  · obtain ⟨work, hwork, howner, -⟩ := hinstance work' hwork'
    exact howner.trans (hclear.instanceWork work hwork)
  · obtain ⟨work, hwork, howner, -⟩ := hfoundation work' hwork'
    exact howner.trans (hclear.foundation work hwork)
  · obtain ⟨secret, hfind, howner⟩ := hsecret secret' hsecret'
    exact howner.trans (hclear.secret secret hfind)

/-- What OCM does to a Work. -/
theorem fades_ocm {works works' : Store ManifestWork} (hstep : OcmStep works works') (key : NamespacedName) :
    Fades key works works' := by
  cases hstep with
  | @report work reported hfind hkey hlabels hdeletion =>
    refine fades_put work reported (hkey ▸ hfind) ?_ (fun h => (congrArg Option.isSome hdeletion).trans h) key
    rw [ObjectMeta.ownerUID, hlabels, ObjectMeta.ownerUID]
  | complete => exact fades_remove _ _ _

/-- The environment keeps what holds while `u` is being deleted, and leaves no more to be done. -/
theorem Dying.environment {Others : World → World → Prop}
    (hothers : ∀ w w', Others w w' → Clear u managedCluster w → Clear u managedCluster w')
    (hI : Dying u managedCluster w) (henv : Environment u Others w w') :
    Dying u managedCluster w' ∧ Wanes u managedCluster w w' := by
  have hmoves := moves_of_environment henv
  have hstored : ∀ v', w'.virtualClusters.find u.key = some v' →
      Same u v' ∧ v'.deleting = true ∧ v'.status.resolved = u.status.resolved := by
    intro v' hv'
    obtain ⟨v, hv, hspec, hstatus, -, huid, hdeleting⟩ := hmoves.cluster v' hv'
    obtain ⟨hsame, hdying, hresolved⟩ := hI.stored v hv
    exact ⟨⟨Store.find_keyed hv', huid.trans hsame.uid, hspec.trans hsame.spec⟩, hdeleting hdying, hstatus ▸ hresolved⟩
  have hfreed : Freed u w → Freed u w' := by
    intro hbefore v' hv'
    obtain ⟨v, hv, -, -, hfinalizers, -⟩ := hmoves.cluster v' hv'
    rw [VirtualCluster.held, hfinalizers]
    exact hbefore v hv
  cases henv with
  | ocm hstep =>
    have hfades := fades_ocm hstep
    exact ⟨⟨hstored, Clear.fades hI.clear (hfades _) (hfades _) (fun secret h => ⟨secret, h, rfl⟩) rfl⟩, hfades _,
      hfades _, hfreed⟩
  | delete =>
    exact ⟨⟨hstored, Clear.fades hI.clear (Fades.refl _ _) (Fades.refl _ _)
      (fun secret h => ⟨secret, h, rfl⟩) rfl⟩, Fades.refl _ _,
      Fades.refl _ _, hfreed⟩
  | others hworks hcluster hother =>
    have hclear := hothers _ _ hother hI.clear
    have hsame : ∀ key, (∀ work, w'.works.find key = some work → work.metadata.ownerUID = u.metadata.uid) →
      Fades key w.works w'.works :=
      fun key howner work' hwork' => ⟨work', (hworks key work' (howner work' hwork')).mp hwork', rfl, id⟩
    exact ⟨⟨hstored, hclear⟩, hsame _ hclear.instanceWork, hsame _ hclear.foundation, hfreed⟩

/-- A round of the deletion provisions nothing. -/
theorem DyingRound.not_live (hK : DyingRound u w h) : ¬Live u.key h v := by
  intro hlive
  cases hlive with
  | read hdeleting =>
    have := (hK.read _ (List.mem_cons_self ..)).1
    rw [hdeleting] at this
    cases this
  | adopted hdeleting =>
    have := (hK.read _ (List.mem_cons_self ..)).1
    rw [hdeleting] at this
    cases this

/-- A call of a round of the deletion lets Works fade, and writes none. -/
theorem DyingRound.works (hK : DyingRound u w h) {e : Event} (heffects : Effects Γ rt u.key h cfg e w w')
    (key : NamespacedName) :
    Fades key w.works w'.works := by
  have hstep := heffects.works
  generalize w'.works = works' at hstep ⊢
  cases hstep with
  | kept => exact Fades.refl _ _
  | created _ hgate => exact absurd (Gate.toHostGate hgate).live (DyingRound.not_live hK)
  | merged _ hgate => exact absurd (Gate.toHostGate hgate).live (DyingRound.not_live hK)
  | removed => exact fades_remove _ _ _
  | @marked v workKey seen current version _ _ _ _ hfind =>
    have hkey : current.metadata.key = seen.metadata.key := Store.find_keyed hfind
    have hcurrent : w.works.find current.metadata.key = some current := by rw [hkey, hfind]
    exact fades_put current (Store.asDeleted version current) hcurrent rfl (fun _ => rfl) key

/-- It publishes no credential: the Secret that stands afterwards stood before, with its owner. -/
theorem DyingRound.secrets (hK : DyingRound u w h) {e : Event} (heffects : Effects Γ rt u.key h cfg e w w') :
    ∀ secret', w'.secrets.find u.secretKey = some secret' → ∃ secret, w.secrets.find u.secretKey = some secret ∧
      secret'.metadata.ownerUID = secret.metadata.ownerUID := by
  intro secret' hsecret'
  have hstep := heffects.secrets
  generalize w'.secrets = secrets' at hstep hsecret'
  cases hstep with
  | kept => exact ⟨secret', hsecret', rfl⟩
  | created _ hlive => exact absurd hlive (DyingRound.not_live hK)
  | updated _ hlive => exact absurd hlive (DyingRound.not_live hK)
  | vacated hlive => exact absurd hlive (DyingRound.not_live hK)
  | removed =>
    rw [Store.find_remove] at hsecret'
    split_ifs at hsecret'
    exact ⟨secret', hsecret', rfl⟩
  | @marked v seen current version _ _ _ hfind =>
    rw [Store.find_put] at hsecret'
    split_ifs at hsecret' with hkey
    · cases hsecret'
      have hkeyed : current.metadata.key = seen.metadata.key := Store.find_keyed hfind
      exact ⟨current, (hkey.trans hkeyed) ▸ hfind, rfl⟩
    · exact ⟨secret', hsecret', rfl⟩

/-- What a step leaves of `u`: it is still being deleted, with its snapshot, and it is not held again. -/
structure Lingers (u : VirtualCluster) (clusters clusters' : Store VirtualCluster) : Prop where
  stored : ∀ v', clusters'.find u.key = some v' → v'.deleting = true ∧ v'.status.resolved = u.status.resolved
  freed : (∀ v, clusters.find u.key = some v → v.held = false) → ∀ v', clusters'.find u.key = some v' → v'.held = false

/-- It lingers when something is written in its place that is being deleted with its snapshot, and not held again. -/
theorem Dying.put (hI : Dying u managedCluster w) {o : VirtualCluster}
    (ho : u.key = (Resource.metadata o).key → o.deleting = true ∧ o.status.resolved = u.status.resolved)
    (hheld : u.key = (Resource.metadata o).key → (∀ v, w.virtualClusters.find u.key = some v → v.held = false) →
      o.held = false) :
    Lingers u w.virtualClusters (w.virtualClusters.put o) := by
  constructor
  · intro v' hv'
    rw [Store.find_put] at hv'
    split_ifs at hv' with hat
    · cases hv'
      exact ho hat
    · exact (hI.stored v' hv').2
  · intro hbefore v' hv'
    rw [Store.find_put] at hv'
    split_ifs at hv' with hat
    · cases hv'
      exact hheld hat hbefore
    · exact hbefore v' hv'

/-- So it does when something is removed. -/
theorem Dying.remove (hI : Dying u managedCluster w) (key : NamespacedName) :
    Lingers u w.virtualClusters (w.virtualClusters.remove key) := by
  constructor
  · intro v' hv'
    rw [Store.find_remove] at hv'
    split_ifs at hv'
    exact (hI.stored v' hv').2
  · intro hbefore v' hv'
    rw [Store.find_remove] at hv'
    split_ifs at hv'
    exact hbefore v' hv'

/-- The status that a round of the deletion writes has the snapshot of `u`. -/
theorem DyingRound.resolved (hK : DyingRound u w h) {h₀ tail : List Event} {status : VirtualClusterStatus}
    (hh : h = h₀ ++ tail) (hexit : Exit Γ cfg rt u.key h₀ status) : status.resolved = u.status.resolved := by
  cases hexit with
  | live hlive => exact absurd (hh ▸ Live.append hlive tail) (DyingRound.not_live hK)
  | @doomed v hdoomed hresolved _ =>
    have hv : Saw h (.api (.getVirtualCluster u.key)) (.ok v) := by
      rw [hh]
      cases hdoomed
      exact List.mem_append_left _ (List.mem_cons_self ..)
    exact hresolved.trans (hK.read v hv).2

/-- A call of a round of the deletion lets `u` linger. -/
theorem Dying.clusters (hI : Dying u managedCluster w) (hK : DyingRound u w h) {e : Event}
    (heffects : Effects Γ rt u.key h cfg e w w') : Lingers u w.virtualClusters w'.virtualClusters := by
  have hstep := heffects.clusters
  generalize w'.virtualClusters = clusters' at hstep ⊢
  cases hstep with
  | kept => exact ⟨fun v hv => (hI.stored v hv).2, id⟩
  | @adopted v current version hh hdeleting _ hfind =>
    have := (hK.read v (hh ▸ List.mem_singleton.mpr rfl)).1
    rw [hdeleting] at this
    cases this
  | @persisted h₀ tail o current version hh _ hexit hfind _ _ =>
    have hkey : current.key = o.key := Store.find_keyed hfind
    refine Dying.put hI (fun hat => ?_) fun hat hbefore => ?_
    · have hat' : u.key = o.key := hat.trans hkey
      exact ⟨(hI.stored current (hat' ▸ hfind)).2.1, DyingRound.resolved hK hh hexit⟩
    · have hat' : u.key = o.key := hat.trans hkey
      exact hbefore current (hat' ▸ hfind)
  | @released v _ clusters' hdoomed _ _ _ _ hclusters =>
    have hv := Identity.doomed hK.identity hdoomed
    rcases hclusters with ⟨version, current, hfind, rfl⟩ | rfl
    · exact Dying.put hI (fun _ => (hI.stored current (hv.key ▸ hfind)).2) fun _ _ => AnchoredAux.released_held v
    · exact Dying.remove hI _

/-- A call of a round of the deletion keeps what holds, and leaves no more to be done. -/
theorem Dying.call (hI : Dying u managedCluster w) (hK : DyingRound u w h) {call : Call} {r : call.Res}
    (hp : Permitted Γ cfg rt u.key h call) (hx : World.Exec w call r w') :
    Dying u managedCluster w' ∧ DyingRound u w' (h ++ [event call r]) ∧ Wanes u managedCluster w w' := by
  have heffects := effects_of_permitted hp hx
  have hidentity := Identity.step hK.identity hp hx
  have hworks := DyingRound.works hK heffects
  have hclusters := Dying.clusters hI hK heffects
  have hclear := Clear.fades hI.clear (hworks _) (hworks _) (DyingRound.secrets hK heffects) heffects.cells
  refine ⟨⟨fun v hv => ⟨hidentity.stored v hv, hclusters.stored v hv⟩, hclear⟩, ⟨hidentity, fun v hsaw => ?_⟩,
    hworks _, hworks _,
    hclusters.freed⟩
  rcases saw_snoc hsaw with hsaw | heq
  · exact hK.read v hsaw
  · cases heq
    exact (hI.stored v (find_of_getVirtualCluster hx).1).2

variable {Others : World → World → Prop} {run : Nat → Sys World Event Call Call.Res (Except Err Result)}

/-- Along a run, what holds while `u` is being deleted goes on to hold. -/
theorem holds_run (hothers : ∀ w w', Others w w' → Clear u managedCluster w → Clear u managedCluster w')
    (hinit : (run 0).round = none) (hdying : Dying u managedCluster (run 0).world)
    (hstep : ∀ n, Sys.Step (system Γ cfg u Others) (run n) (run (n + 1))) (n : Nat) :
    Sys.Holds (system Γ cfg u Others) (Dying u managedCluster) (DyingRound u)
      (fun h call => ∃ rt, Permitted Γ cfg rt u.key h call)
      (run n) := by
  have hreach : Sys.Reachable (system Γ cfg u Others) (· = (run 0).world) (run n) := by
    induction n with
    | zero =>
      have hzero : run 0 = ⟨(run 0).world, none⟩ := by rw [← hinit]
      rw [hzero]
      exact .init rfl
    | succ n ih => exact .step ih (hstep n)
  refine Sys.invariant (fun w hw => hw ▸ hdying)
    (fun w hI => ⟨Identity.start fun v hv => (hI.stored v hv).1, fun v hsaw => (List.not_mem_nil hsaw).elim⟩) ?_ ?_ ?_
      hreach
  · rintro p ⟨rt, rfl⟩
    exact (safe_reconcile Γ cfg rt u.key).mono (fun h call hp => ⟨rt, hp⟩) fun _ _ _ => trivial
  · intro w w' henv hI
    exact ⟨(Dying.environment hothers hI henv).1,
      fun h hK => ⟨Moves.identity (moves_of_environment henv) hK.identity, hK.read⟩⟩
  · rintro w call r w' h hI hK ⟨rt, hp⟩ hx
    obtain ⟨hI', hK', -⟩ := Dying.call hI hK hp hx
    exact ⟨hI', hK'⟩

/-- Along a run, what is to be done about `u` does not get more. -/
theorem wanes_run (hothers : ∀ w w', Others w w' → Clear u managedCluster w → Clear u managedCluster w')
    (hinit : (run 0).round = none) (hdying : Dying u managedCluster (run 0).world)
    (hstep : ∀ n, Sys.Step (system Γ cfg u Others) (run n) (run (n + 1))) {n m : Nat} (hle : n ≤ m) :
    Wanes u managedCluster (run n).world (run m).world := by
  have hone : ∀ n, Wanes u managedCluster (run n).world (run (n + 1)).world := by
    intro n
    obtain ⟨hI, hround⟩ := holds_run hothers hinit hdying hstep n
    have hnext := hstep n
    generalize run n = s at hI hround hnext ⊢
    generalize run (n + 1) = s' at hnext ⊢
    cases hnext with
    | env henv => exact (Dying.environment hothers hI henv).2
    | start => exact Wanes.refl _
    | call hx =>
      obtain ⟨hK, ⟨rt, hp⟩, -⟩ := hround _ _ rfl
      exact (Dying.call hI hK hp hx).2.2
    | stop => exact Wanes.refl _
  exact persists_of_step (fun n => (run n).world) (fun k hk => hk.trans (hone k)) hle (Wanes.refl _)

end ReleasedAux

open ReleasedAux

/-- A VirtualCluster that is being deleted is released for good, in every run in which, again and again, a round comes
through undisturbed, and OCM completes the deletions of its Works that were requested. -/
theorem deletion_completes (Γ : Ctx) (cfg : Config) {u : VirtualCluster} {managedCluster : String}
    {Others : World → World → Prop}
    {run : Nat → Sys World Event Call Call.Res (Except Err Result)} (huid : u.metadata.uid ≠ "")
      (hdeleting : u.deleting = true)
    (hothers : ∀ w w', Others w w' → Clear u managedCluster w → Clear u managedCluster w')
      (hinit : (run 0).round = none)
    (hstored : (run 0).world.virtualClusters.find u.key = some u) (hclear : Clear u managedCluster (run 0).world)
    (hstep : ∀ n, Sys.Step (system Γ cfg u Others) (run n) (run (n + 1)))
    (hrounds : ∀ n, ∃ m ≥ n, ∃ m' ≥ m, ∃ rt hosts, (run m').world = (run m).world.afterRound Γ cfg rt hosts u.key)
    (hocm : ∀ n work, ((run n).world.works.find (u.instanceKey managedCluster) = some work ∨
      (run n).world.works.find (u.foundationKey managedCluster) = some work) → Store.terminating work = true →
      ∃ m ≥ n, (run m).world.works.find work.metadata.key = none) :
    ∃ n, ∀ m ≥ n, Freed u (run m).world := by
  have hdying : Dying u managedCluster (run 0).world := by
    refine ⟨fun v hv => ?_, hclear⟩
    rw [hstored, Option.some.injEq] at hv
    subst hv
    exact ⟨⟨rfl, rfl, rfl⟩, hdeleting, rfl⟩
  have hwanes : ∀ {n m : Nat}, n ≤ m → Wanes u managedCluster (run n).world (run m).world :=
    wanes_run hothers hinit hdying hstep
  -- released once is released for good
  suffices hprogress : ∀ n, ∃ m ≥ n, Freed u (run m).world ∨
      pendingWorks u managedCluster (run m).world < pendingWorks u managedCluster (run n).world by
    obtain ⟨n, -, hn⟩ := eventually_of_rank (fun n => (run n).world) (pendingWorks u managedCluster) hprogress 0
    exact ⟨n, fun m hm => (hwanes hm).freed hn⟩
  intro n
  obtain ⟨m, hm, m', hm', rt, hosts, hround⟩ := hrounds n
  have hle : ∀ {a b : Nat}, a ≤ b → pendingWorks u managedCluster (run b).world ≤
    pendingWorks u managedCluster (run a).world :=
    fun hab => Nat.add_le_add (pending_le (hwanes hab).instanceWork) (pending_le (hwanes hab).foundation)
  by_cases hfreed : Freed u (run m).world
  · exact ⟨m, hm, Or.inl hfreed⟩
  · obtain ⟨v, hv, hheld⟩ : ∃ v, (run m).world.virtualClusters.find u.key = some v ∧ v.held = true := by
      simpa [Freed] using hfreed
    obtain ⟨hI, -⟩ := holds_run hothers hinit hdying hstep m
    obtain ⟨hsame, hdying', hresolved⟩ := hI.stored v hv
    rcases afterRound_progress Γ cfg rt hosts huid hI.clear hv hsame hresolved hdying' hheld with
      hdrop | ⟨work, hwork, hterminating⟩ | hreleased
    · exact ⟨m', le_trans hm hm', Or.inr (hround ▸ lt_of_lt_of_le hdrop (hle hm))⟩
    · -- the round waits for OCM
      have hpending : ∀ {key : NamespacedName}, standing (run m).world.works key = some work →
          (run m).world.works.find key = some work ∧ ∀ k, (run k).world.works.find work.metadata.key = none →
            pending (run k).world.works key < pending (run m).world.works key := by
        intro key hstands
        have hbefore : pending (run m).world.works key = 1 := by rw [pending, hstands]; exact if_pos hterminating
        unfold standing at hstands
        split_ifs at hstands with hns
        refine ⟨hstands, fun k hgone => ?_⟩
        have hkey : work.metadata.key = key := Store.find_keyed hstands
        rw [hbefore, pending, standing, if_neg hns, ← hkey, hgone]
        exact Nat.zero_lt_one
      rcases hwork with hwork | hwork
      · obtain ⟨hfind, hless⟩ := hpending hwork
        obtain ⟨k, hk, hgone⟩ := hocm m work (Or.inl hfind) hterminating
        exact ⟨k, le_trans hm hk, Or.inr (lt_of_lt_of_le (Nat.add_lt_add_of_lt_of_le (hless k hgone)
          (pending_le (hwanes hk).foundation)) (hle hm))⟩
      · obtain ⟨hfind, hless⟩ := hpending hwork
        obtain ⟨k, hk, hgone⟩ := hocm m work (Or.inr hfind) hterminating
        exact ⟨k, le_trans hm hk, Or.inr
          (lt_of_lt_of_le (Nat.add_lt_add_of_le_of_lt (pending_le (hwanes hk).instanceWork)
          (hless k hgone)) (hle hm))⟩
    · exact ⟨m', le_trans hm hm', Or.inl (hround ▸ hreleased)⟩

namespace SampleAux

/-- The sample VirtualCluster that is being deleted. -/
def dyingCluster : VirtualCluster :=
  { clusterIn .ready {} with metadata.deletionTimestamp := some 900 }

/-- Its Works, which OCM has to clean up after. -/
def dyingWorks : List ManifestWork :=
  sampleWorks.map fun work => { work with metadata.finalizers := ["cluster.open-cluster-management.io/manifest-work-cleanup"] }

/-- The world with its Works and its Secret. -/
def dyingWorld : World :=
  { sampleWorld dyingCluster dyingWorks with secrets := Store.empty.put (adminSecret dyingCluster []) }

/-- The world after an undisturbed round. -/
def afterSample (w : World) : World := (sampleRound w emptyHost 20).1

/-- The world after OCM has completed the deletion of the Work under a name. -/
def completed (key : NamespacedName) (w : World) : World := { w.next with works := w.works.remove key }

/-- The worlds before the second and the third round: OCM has completed the deletion of the instance Work, and that
of the foundation Work. -/
def instanceGone : World := completed (dyingCluster.instanceKey "mc-a") (afterSample dyingWorld)
@[inherit_doc instanceGone] def worksGone : World :=
  completed (dyingCluster.foundationKey "mc-a") (afterSample instanceGone)

/-- A round of the sample by itself. -/
def sampleTrail (w : World) : List (Sys World Event Call Call.Res (Except Err Result)) :=
  ⟨w, none⟩ :: Sys.trail (World.answer emptyHost) event 20 w []
    (reconcile sampleCtx sampleConfig sampleRuntime DriftAux.sampleCluster.key)

/-- Three rounds, and nothing after them. -/
def dyingStates : List (Sys World Event Call Call.Res (Except Err Result)) :=
  sampleTrail dyingWorld ++ (sampleTrail instanceGone ++ sampleTrail worksGone)
@[inherit_doc dyingStates] def dyingRun : Nat → Sys World Event Call Call.Res (Except Err Result) :=
  Sys.along dyingStates ⟨afterSample worksGone, none⟩

/-- What the rounds come to: in turn, the deletion of each Work is requested, and in the end the
VirtualCluster is gone as well. -/
theorem dyingStates_facts :
    (((afterSample dyingWorld).works.find (dyingCluster.instanceKey "mc-a")).map Store.terminating = some true ∧
      ((afterSample instanceGone).works.find (dyingCluster.foundationKey "mc-a")).map Store.terminating = some true) ∧
    (afterSample worksGone).works.find (dyingCluster.instanceKey "mc-a") = none ∧
      (afterSample worksGone).works.find (dyingCluster.foundationKey "mc-a") = none ∧
      (afterSample worksGone).virtualClusters.find dyingCluster.key = none := by
  simp only [← Option.isNone_iff_eq_none]
  decide +kernel

/-- What stands under the names of the sample VirtualCluster is its own. -/
theorem clear_dyingWorld : Clear dyingCluster "mc-a" dyingWorld := by
  have howners : (dyingWorld.works.find (dyingCluster.instanceKey "mc-a")).map (·.metadata.ownerUID) =
    some dyingCluster.metadata.uid ∧
      (dyingWorld.works.find (dyingCluster.foundationKey "mc-a")).map (·.metadata.ownerUID) =
        some dyingCluster.metadata.uid ∧
      (dyingWorld.secrets.find dyingCluster.secretKey).map (·.metadata.ownerUID) = some dyingCluster.metadata.uid := by
    decide +kernel
  obtain ⟨hinstance, hfoundation, hsecret⟩ := howners
  refine ⟨fun work hwork => ?_, fun work hwork => ?_, fun secret hfind => ?_, Or.inl ⟨rfl, by decide⟩⟩
  · rwa [hwork, Option.map_some, Option.some.injEq] at hinstance
  · rwa [hwork, Option.map_some, Option.some.injEq] at hfoundation
  · rwa [hfind, Option.map_some, Option.some.injEq] at hsecret

/-- It ends where the world has come to. -/
theorem getLast?_sampleTrail (w : World) : (sampleTrail w).getLast? = some ⟨afterSample w, none⟩ := by
  rw [sampleTrail, List.getLast?_cons, Sys.getLast?_trail]
  rfl

/-- Each round by itself is part of a run. -/
theorem isChain_sampleTrail (w : World) :
    (sampleTrail w).IsChain (Sys.Step (system sampleCtx sampleConfig dyingCluster fun w w' => w' = w)) := by
  refine List.isChain_cons.mpr ⟨fun s hs => ?_, Sys.isChain_trail (World.exec_answer emptyHost) 20 w [] _⟩
  rw [Sys.head?_trail, Option.mem_some_iff] at hs
  exact hs ▸ .start ⟨sampleRuntime, rfl⟩

/-- OCM completes a deletion that was requested. -/
theorem step_completed {w : World} {key : NamespacedName} (h : (w.works.find key).map Store.terminating = some true) :
    Sys.Step (system sampleCtx sampleConfig dyingCluster fun w w' => w' = w) ⟨w, none⟩ ⟨completed key w, none⟩ := by
  obtain ⟨work, hfind, hterminating⟩ := Option.map_eq_some_iff.mp h
  exact .env (.ocm (.complete hfind hterminating))

/-- The three rounds, with what OCM does in between, are a run. -/
theorem step_dyingRun (n : Nat) :
    Sys.Step (system sampleCtx sampleConfig dyingCluster fun w w' => w' = w) (dyingRun n) (dyingRun (n + 1)) := by
  obtain ⟨⟨hinstance, hfoundation⟩, -⟩ := dyingStates_facts
  have hrest : Sys.Step (system sampleCtx sampleConfig dyingCluster fun w w' => w' = w) ⟨afterSample worksGone, none⟩
      ⟨afterSample worksGone, none⟩ := .env (.others (fun _ _ _ => Iff.rfl) rfl rfl)
  refine Sys.step_along ?_ hrest n
  refine List.isChain_append.mpr ⟨List.isChain_append.mpr ⟨isChain_sampleTrail _, List.isChain_append.mpr
    ⟨isChain_sampleTrail _, isChain_sampleTrail _, fun s hs t ht => ?_⟩, fun s hs t ht => ?_⟩,
      List.isChain_singleton _, fun s hs t ht => ?_⟩
  · rw [getLast?_sampleTrail, Option.mem_some_iff] at hs
    obtain rfl := Option.some.inj ht
    exact hs ▸ step_completed hfoundation
  · rw [getLast?_sampleTrail, Option.mem_some_iff] at hs
    obtain rfl := Option.some.inj ht
    exact hs ▸ step_completed hinstance
  · obtain rfl := Option.some.inj ht
    rw [dyingStates, List.getLast?_append, List.getLast?_append, getLast?_sampleTrail, Option.some_or, Option.some_or,
      Option.mem_some_iff] at hs
    exact hs ▸ hrest

/-- A round for a VirtualCluster that is not there changes nothing. -/
theorem afterRound_missing {w : World} {key : NamespacedName} (hfind : w.virtualClusters.find key = none) (Γ : Ctx)
    (cfg : Config) (rt : Runtime) (hosts : (call : HostCall) → call.Res) : w.afterRound Γ cfg rt hosts key = w := by
  rw [World.afterRound, reconcile, eval_api, World.serve, Store.get_of_missing hfind]
  rfl

end SampleAux

open SampleAux

/-- The sample deletion comes to its end: it starts with both Works and the Secret, and OCM completes the
deletion of the Works. -/
theorem deletion_completes_sample : ∃ n, ∀ m ≥ n, Freed dyingCluster (dyingRun m).world := by
  obtain ⟨-, hinstance, hfoundation, hgone⟩ := dyingStates_facts
  have hothers : ∀ w w' : World, w' = w → Clear dyingCluster "mc-a" w → Clear dyingCluster "mc-a" w' :=
    fun w w' h hclear => h ▸ hclear
  have hend : ∀ n, dyingRun (n + dyingStates.length) = ⟨afterSample worksGone, none⟩ := fun n =>
    Sys.along_of_le _ (Nat.le_add_left _ n)
  refine deletion_completes sampleCtx sampleConfig (by decide +kernel) rfl hothers rfl
    (find_sampleWorld dyingCluster dyingWorks) clear_dyingWorld
    step_dyingRun (fun n => ⟨n + dyingStates.length, Nat.le_add_right _ _, _, le_rfl, sampleRuntime, emptyHost, ?_⟩) ?_
  · rw [hend, afterRound_missing hgone]
  · intro n work hwork _
    refine ⟨n + dyingStates.length, Nat.le_add_right _ _, ?_⟩
    rw [hend]
    rcases hwork with hwork | hwork
    · have hkey : work.metadata.key = dyingCluster.instanceKey "mc-a" := Store.find_keyed hwork
      rwa [hkey]
    · have hkey : work.metadata.key = dyingCluster.foundationKey "mc-a" := Store.find_keyed hwork
      rwa [hkey]

end KubeCell
