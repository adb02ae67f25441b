import KubeCell.Theorems.Released

/-!
# Provisioning comes to its end

A VirtualCluster whose references can be provisioned becomes Ready within three undisturbed rounds, and stays so, when
OCM applies the Works that stand between the rounds and the host and the child cluster answer: the first round writes
the foundation Work, the second the instance Work, and the third observes the child cluster. It does not matter which
status an earlier history has left.
-/

namespace KubeCell

open Prog RoundAux ProvisionAux EffectsAux UndisturbedAux

/-- The Work is applied and not degraded, as a summary says it. -/
def ManifestWork.settled (work : ManifestWork) : Bool := (summarizeWork work).applied && !(summarizeWork work).failed

/-- A Work of `u` stands under a name. -/
def Stands (u : VirtualCluster) (works : Store ManifestWork) (key : NamespacedName) : Prop :=
  ∃ work, works.find key = some work ∧ Ours u work

/-- What a round finds outside the API server when nothing is wrong: the plan is accepted, the host has an address,
and the child cluster is observed with all its parts ready and with an endpoint that names a host, if it has one. -/
structure Attended (Γ : Ctx) (cfg : Config) (rt : Runtime) (hosts : (call : HostCall) → call.Res) (u : VirtualCluster)
    (cell : Cell) (virtualNodeClass : VirtualNodeClass) : Prop where
  accepted : (evaluateVirtualClusterPlan Γ rt cell virtualNodeClass).decision = .accepted
  reader : cfg.hasHostReaderFactory = true ∧ hosts (.hostReaderForCell cell) = .ok ()
  nodes : ∃ nodes, hosts .listNodes = .ok nodes ∧ discoverHostAPIAddresses nodes ≠ []
  observer : cfg.hasChildObserver = true ∨ cfg.hasChildObserverFactory = true ∧
    hosts (.childObserverForCell cell) = .ok ()
  child : ∀ cluster addresses, ∃ child, hosts (.observe cluster addresses) = .ok child ∧ child.allReady = true ∧
    (child.nodePort > 0 → child.endpoint ≠ "" → (Γ.urlHostname child.endpoint).getD "" ≠ "")
  pods : ∃ pods, hosts (.listPods u.names.hostNamespace) = .ok pods

/-- What a round finds in the API server when nothing is wrong: the VirtualCluster, not being deleted and without
drift, its Cell, its class, and no Work of others under its names. -/
structure Provided (u : VirtualCluster) (cell : Cell) (virtualNodeClass : VirtualNodeClass)
    (resolved : ResolvedSnapshot) (w : World) : Prop where
  stored : ∃ v, w.virtualClusters.find u.key = some v ∧ Same u v ∧ v.deleting = false ∧
    (v.status.resolved.hostNamespace = "" ∨ sameResolvedProvider v.status.resolved (u.snapshot resolved) = true)
  readCell : w.cells.find u.cellKey = some cell
  readClass : w.virtualNodeClasses.find ⟨"", u.spec.classRef.name⟩ = some virtualNodeClass
  foundation : ∀ work, w.works.find (u.foundationKey cell.spec.managedClusterRef.name) = some work → Ours u work
  instanceWork : ∀ work, w.works.find (u.instanceKey cell.spec.managedClusterRef.name) = some work → Ours u work

/-- Between two rounds OCM applies the Works of `u` that stand, and nobody else touches what the
rounds of `u` look at. -/
structure Synced (u : VirtualCluster) (managedCluster : String) (w w' : World) : Prop where
  clusters : w'.virtualClusters.find u.key = w.virtualClusters.find u.key
  cells : w'.cells.find u.cellKey = w.cells.find u.cellKey
  classes : w'.virtualNodeClasses = w.virtualNodeClasses
  applied : ∀ key, key = u.foundationKey managedCluster ∨ key = u.instanceKey managedCluster →
    ∀ work, w.works.find key = some work →
    ∃ work', w'.works.find key = some work' ∧ work'.metadata.labels = work.metadata.labels ∧ work'.settled = true
  absent : ∀ key, key = u.foundationKey managedCluster ∨ key = u.instanceKey managedCluster → w.works.find key = none →
    w'.works.find key = none

namespace ConvergesAux

variable {Γ : Ctx} {cfg : Config} {rt : Runtime} {hosts : (call : HostCall) → call.Res}
  {u cluster cluster' : VirtualCluster} {w w' : World} {target : Target} {foundationSummary : WorkSummary}
  {instanceCurrent : ManifestWork}

/-- The program ends by writing the status of `cluster` in the world `w'`. -/
def EndsAt (hosts : (call : HostCall) → call.Res) (p : Action (Except Err Result)) (w : World)
    (cluster : VirtualCluster) (w' : World) : Prop :=
  ∃ requeueAfter, eval (World.answer hosts) p w = eval (World.answer hosts) (persist cluster requeueAfter) w'

/-- What the parts of a round keep of the VirtualCluster they work on. -/
structure Kept (cluster cluster' : VirtualCluster) : Prop where
  metadata : cluster'.metadata = cluster.metadata
  spec : cluster'.spec = cluster.spec
  resolved : cluster'.status.resolved = cluster.status.resolved

theorem Kept.refl (cluster : VirtualCluster) : Kept cluster cluster := ⟨rfl, rfl, rfl⟩

theorem Kept.trans {cluster'' : VirtualCluster} (h : Kept cluster cluster') (h' : Kept cluster' cluster'') :
    Kept cluster cluster'' :=
  ⟨h'.metadata.trans h.metadata, h'.spec.trans h.spec, h'.resolved.trans h.resolved⟩

theorem Kept.same (h : Kept cluster cluster') (hsame : Same u cluster) : Same u cluster' := by
  refine ⟨?_, ?_, h.spec.trans hsame.spec⟩
  · rw [VirtualCluster.key, h.metadata, ← VirtualCluster.key, hsame.key]
  · rw [h.metadata, hsame.uid]

/-- Setting a condition keeps the object and its snapshot. -/
theorem kept_setConditionIf (holds : Bool) (conditionType : String) (status : ConditionStatus)
    (reason message : String) :
    Kept cluster (cluster.setConditionIf holds rt conditionType status reason message) := by
  unfold VirtualCluster.setConditionIf
  split_ifs
  · exact ⟨rfl, rfl, rfl⟩
  · exact Kept.refl _

theorem kept_withPhase (cluster : VirtualCluster) : Kept cluster (cluster.withPhase rt) := by
  unfold VirtualCluster.withPhase
  split_ifs
  · exact ⟨rfl, rfl, rfl⟩
  · exact ⟨rfl, rfl, rfl⟩

/-- What the parts of a round leave of the world. -/
structure Through (w w' : World) : Prop where
  clusters : w'.virtualClusters = w.virtualClusters
  cells : w'.cells = w.cells
  classes : w'.virtualNodeClasses = w.virtualNodeClasses

theorem Through.refl (w : World) : Through w w := ⟨rfl, rfl, rfl⟩

theorem Through.trans {w'' : World} (h : Through w w') (h' : Through w' w'') : Through w w'' :=
  ⟨h'.clusters.trans h.clusters, h'.cells.trans h.cells, h'.classes.trans h.classes⟩

/-! ## The end of a round -/

variable (rt hosts) in
/-- The phase that is decided: Ready when the child cluster in the status is. -/
theorem endsAt_decidePhase (w : World) (cluster : VirtualCluster) (foundationSummary instanceSummary : WorkSummary)
    (hasObserver : Bool) :
    ∃ cluster', EndsAt hosts (decidePhase rt cluster foundationSummary instanceSummary hasObserver) w cluster' w ∧
      Kept cluster cluster' ∧ (cluster.status.child.allReady = true → cluster'.status.phase = .ready) := by
  refine ⟨_, ⟨some 5, rfl⟩, ?_, fun hready => ?_⟩
  · exact (((kept_withPhase cluster).trans (kept_setConditionIf _ _ _ _ _)).trans (kept_setConditionIf _ _ _ _ _)).trans
      (kept_setConditionIf _ _ _ _ _)
  · have hkept : ∀ (cluster : VirtualCluster) (holds : Bool) (conditionType : String) (status : ConditionStatus)
        (reason message : String), (cluster.setConditionIf holds rt conditionType status reason message).status.phase =
          cluster.status.phase := by
      intro cluster holds conditionType status reason message
      unfold VirtualCluster.setConditionIf
      split_ifs <;> rfl
    rw [hkept, hkept, hkept, VirtualCluster.withPhase, if_pos hready]
    rfl

/-- What stands under the name of the instance Work when it is written or decided upon. -/
inductive Current (u : VirtualCluster) (works : Store ManifestWork) (key : NamespacedName) : ManifestWork → Prop where
  | missing : works.find key = none → Current u works key emptyWork
  | found {work : ManifestWork} : works.find key = some work → Ours u work → Current u works key work

/-- Where a part of a round ends: the instance Work stands, and nothing else has changed. -/
def Finishes (hosts : (call : HostCall) → call.Res) (p : Action (Except Err Result)) (u cluster : VirtualCluster)
    (key : NamespacedName) (w : World) (ready : Prop) : Prop :=
  ∃ cluster' w', EndsAt hosts p w cluster' w' ∧ Kept cluster cluster' ∧ Through w w' ∧
    (∀ other, other ≠ key → w'.works.find other = w.works.find other) ∧ Stands u w'.works key ∧
      (ready → cluster'.status.phase = .ready)

/-- The same object gives the same labels to what it owns. -/
theorem ownedLabels_of_same (hsame : Same u cluster) (resolved : ResolvedSnapshot) :
    cluster.ownedLabels resolved = u.ownedLabels resolved := by
  have hkey : cluster.metadata.ns = u.metadata.ns ∧ cluster.metadata.name = u.metadata.name := by
    simpa [VirtualCluster.key, ObjectMeta.key] using hsame.key
  rw [VirtualCluster.ownedLabels, hsame.spec, hkey.1, hkey.2, hsame.uid, VirtualCluster.ownedLabels]

/-- The instance Work is written, or stands already, and the phase is decided. -/
theorem finishes_writeInstance (rt : Runtime) (foundationSummary : WorkSummary) (hsame : Same u cluster)
    (hname : target.names.instanceWork = u.names.instanceWork)
    (hcurrent : Current u w.works (u.instanceKey target.managedCluster) instanceCurrent) (hasObserver : Bool)
    (mirrored : List Manifest) (observedOK mirrorOK : Bool) :
    Finishes hosts (writeInstance rt cluster target foundationSummary instanceCurrent hasObserver mirrored observedOK
      mirrorOK) u cluster
      (u.instanceKey target.managedCluster) w (cluster.status.child.allReady = true) := by
  unfold writeInstance
  dsimp only
  split_ifs with hwrite
  · have hkey : (buildInstanceWork cluster target.resolved target.names target.managedCluster mirrored).metadata.key =
        u.instanceKey target.managedCluster := by
      rw [VirtualCluster.instanceKey, ← hname]
      rfl
    have hours : ∀ work, w.works.find (buildInstanceWork cluster target.resolved target.names target.managedCluster
        mirrored).metadata.key = some work → Ours u work := by
      rw [hkey]
      intro work hwork
      cases hcurrent with
      | missing hnone => rw [hnone] at hwork; cases hwork
      | found hfind hours => exact Option.some.inj (hfind.symm.trans hwork) ▸ hours
    obtain ⟨work, heval, hwork, howner, -⟩ := eval_createOrUpdateWork hosts _
      (ownedLabels_of_same hsame target.resolved) hours
    have hfind : (w.works.put work).find (u.instanceKey target.managedCluster) = some work :=
      (Store.find_put _ _ _).trans (if_pos (hkey.symm.trans hwork.symm))
    obtain ⟨cluster', hends, hkept, hready⟩ := endsAt_decidePhase rt hosts { w.next with works := w.works.put work }
      (cluster.withInstance work) foundationSummary (summarizeWork work) hasObserver
    obtain ⟨requeueAfter, hends⟩ := hends
    refine ⟨cluster', { w.next with works := w.works.put work }, ⟨requeueAfter, ?_⟩,
      ⟨hkept.metadata, hkept.spec, hkept.resolved⟩,
      ⟨rfl, rfl, rfl⟩, fun other hother => ?_, ⟨work, hfind, howner⟩, hready⟩
    · rw [eval_bind, heval]
      dsimp only
      rw [eval_api, World.serve, hkey, Store.get_of_find hfind]
      exact hends
    · exact (Store.find_put _ _ _).trans (if_neg fun heq => hother (heq.trans (hwork.trans hkey)))
  · obtain ⟨cluster', hends, hkept, hready⟩ := endsAt_decidePhase rt hosts w cluster foundationSummary
      (summarizeWork instanceCurrent) hasObserver
    refine ⟨cluster', w, hends, hkept, Through.refl w, fun _ _ => rfl, ?_, hready⟩
    cases hcurrent with
    | missing => exact absurd (Or.inl rfl) hwrite
    | found hfind hours => exact ⟨instanceCurrent, hfind, hours⟩

/-- A part of a round that comes down to another one. -/
theorem Finishes.of_eval {p q : Action (Except Err Result)} {cluster₁ : VirtualCluster} {w₁ : World}
    {key : NamespacedName} {ready ready₁ : Prop}
    (heval : eval (World.answer hosts) p w = eval (World.answer hosts) q w₁) (hkept : Kept cluster cluster₁)
    (hthrough : Through w w₁) (hworks : w₁.works = w.works) (hready : ready → ready₁)
    (hq : Finishes hosts q u cluster₁ key w₁ ready₁) :
    Finishes hosts p u cluster key w ready := by
  obtain ⟨cluster', w', ⟨requeueAfter, hends⟩, hkept', hthrough', hothers, hstands, hphase⟩ := hq
  refine ⟨cluster', w', ⟨requeueAfter, heval.trans hends⟩, hkept.trans hkept', hthrough.trans hthrough',
    fun other hother => ?_, hstands,
    hphase ∘ hready⟩
  rw [hothers other hother, hworks]

/-! ## Observation -/

variable (hosts) in
/-- Reading from the host and from the child cluster changes nothing. -/
theorem eval_reads {β : Type} {p : Action β} (hp : Neutral readsOnly p) (w : World) :
    (eval (World.answer hosts) p w).2 = w := by
  refine Neutral.eval_keeps id (fun w call hreads => ?_) hp w
  cases call with
  | api call => exact hreads.elim
  | host call => rfl

section Observation

variable (hsame : Same u cluster) (hname : target.names.instanceWork = u.names.instanceWork)
  (hcurrent : Current u w.works (u.instanceKey target.managedCluster) instanceCurrent) (child : ChildObservation)

include hsame hname hcurrent

/-- The mirror is read, and the instance Work stands. -/
theorem finishes_mirrorStage (cfg : Config) (rt : Runtime) (foundationSummary : WorkSummary) :
    Finishes hosts (mirrorStage cfg rt target foundationSummary instanceCurrent cluster child) u cluster
      (u.instanceKey target.managedCluster) w (cluster.status.child.allReady = true) := by
  unfold mirrorStage
  split_ifs
  · have hworld := eval_reads hosts (neutral_mirror cluster target.resolved cfg.appsSuffix) w
    generalize hanswer : (eval (World.answer hosts)
      (mirrorChildIngresses cluster target.resolved cfg.appsSuffix childClient) w).1 = answer
    cases answer with
    | error e =>
      refine Finishes.of_eval ?_ (Kept.refl _) (Through.refl _) rfl id
        (finishes_writeInstance rt foundationSummary hsame hname hcurrent true [] true false)
      rw [eval_bind, hworld, hanswer]
    | ok fetched =>
      refine Finishes.of_eval ?_ (Kept.refl _) (Through.refl _) rfl id
        (finishes_writeInstance rt foundationSummary hsame hname hcurrent true fetched true true)
      rw [eval_bind, hworld, hanswer]
  · exact finishes_writeInstance rt foundationSummary hsame hname hcurrent true [] true false

/-- The Pods are listed, and the round goes on. -/
theorem finishes_placementStage (cfg : Config) (rt : Runtime) (foundationSummary : WorkSummary)
    (hpods : ∃ pods, hosts (.listPods target.resolved.hostNamespace) = .ok pods) :
    Finishes hosts (placementStage cfg rt target foundationSummary instanceCurrent cluster child) u cluster
      (u.instanceKey target.managedCluster) w (cluster.status.child.allReady = true) := by
  unfold placementStage
  split_ifs
  · obtain ⟨pods, hpods⟩ := hpods
    let placements := (eval (World.answer hosts) (projectPlacements rt volumeReader target.resolved.hostNamespace
      cluster.status.resolved.k3kClusterName pods) w).1
    have hworld := eval_reads hosts (neutral_placements rt target.resolved.hostNamespace
      cluster.status.resolved.k3kClusterName pods) w
    have hplaced : Same u { cluster with status.placements := placements } := ⟨hsame.key, hsame.uid, hsame.spec⟩
    have hkept : Kept cluster { cluster with status.placements := placements } := ⟨rfl, rfl, rfl⟩
    refine Finishes.of_eval ?_ hkept (Through.refl _) rfl id
      (finishes_mirrorStage hplaced hname hcurrent child cfg rt foundationSummary)
    rw [eval_host, hpods]
    dsimp only
    rw [eval_bind, hworld]
  · exact finishes_mirrorStage hsame hname hcurrent child cfg rt foundationSummary

/-- The credential is published, and the round goes on. -/
theorem finishes_credentialStage (Γ : Ctx) (cfg : Config) (rt : Runtime) (foundationSummary : WorkSummary)
    (hpods : ∃ pods, hosts (.listPods target.resolved.hostNamespace) = .ok pods)
    (hendpoint : child.nodePort > 0 → child.endpoint ≠ "" → (Γ.urlHostname child.endpoint).getD "" ≠ "") :
    Finishes hosts (credentialStage Γ cfg rt target foundationSummary instanceCurrent cluster child) u cluster
      (u.instanceKey target.managedCluster) w (cluster.status.child.allReady = true) := by
  unfold credentialStage
  dsimp only
  split_ifs with hpublish hhostname
  · exact absurd hhostname (hendpoint hpublish.1 hpublish.2)
  · obtain ⟨observed, version, secrets, heval⟩ := eval_publishAdminKubeconfig hosts Γ cluster child.kubeconfig
      child.sourceSecretName child.endpoint w
    let published : VirtualCluster :=
      (cluster.withCredential Γ child.sourceSecretName child.endpoint observed).setCondition rt
      "ChildIdentityReady" .true "CredentialPublished" "Child administrator kubeconfig was published"
    let endpoint : VirtualCluster :=
      { published with
        status.endpoint := { address := (Γ.urlHostname child.endpoint).getD ""
                             nodePort := child.nodePort
                             urlHash := profileHash Γ child.endpoint } }
    have hpublished : Same u endpoint := ⟨hsame.key, hsame.uid, hsame.spec⟩
    have hplaced := finishes_placementStage (w := { w with version := version, secrets := secrets }) hpublished hname
      hcurrent child cfg rt
      foundationSummary hpods
    have hkept : Kept cluster endpoint := ⟨rfl, rfl, rfl⟩
    have hthrough : Through w { w with version := version, secrets := secrets } := ⟨rfl, rfl, rfl⟩
    refine Finishes.of_eval ?_ hkept hthrough rfl id hplaced
    rw [eval_bind, heval]
  · exact finishes_placementStage hsame hname hcurrent child cfg rt foundationSummary hpods

end Observation

variable (rt foundationSummary) in
/-- The child cluster is observed when the instance Work is applied. -/
theorem finishes_observeChild (hsame : Same u cluster) (hname : target.names.instanceWork = u.names.instanceWork)
    (hcurrent : Current u w.works (u.instanceKey target.managedCluster) instanceCurrent)
    (hpods : ∃ pods, hosts (.listPods target.resolved.hostNamespace) = .ok pods)
    (hchild : ∀ cluster addresses, ∃ child, hosts (.observe cluster addresses) = .ok child ∧ child.allReady = true ∧
      (child.nodePort > 0 → child.endpoint ≠ "" → (Γ.urlHostname child.endpoint).getD "" ≠ "")) :
    Finishes hosts (observeChild Γ cfg rt target foundationSummary instanceCurrent cluster true) u cluster
      (u.instanceKey target.managedCluster) w (isApplied instanceCurrent = true) := by
  unfold observeChild
  split_ifs with happlied
  · obtain ⟨child, hobserve, hready, hendpoint⟩ := hchild cluster target.names.hostAPIAddresses
    have hobserved : Same u (cluster.observed rt child) := ⟨hsame.key, hsame.uid, hsame.spec⟩
    have hkept : Kept cluster (cluster.observed rt child) := ⟨rfl, rfl, rfl⟩
    refine Finishes.of_eval ?_ hkept (Through.refl _) rfl (fun _ => hready)
      (finishes_credentialStage hobserved hname hcurrent child Γ cfg rt foundationSummary hpods hendpoint)
    rw [eval_host, hobserve]
  · refine Finishes.of_eval rfl (Kept.refl _) (Through.refl _) rfl (fun hyes => absurd ⟨hyes, rfl⟩ happlied)
      (finishes_writeInstance rt foundationSummary hsame hname hcurrent true [] false false)

variable (rt foundationSummary) in
/-- There is an observer, and the child is observed. -/
theorem finishes_selectObserver (hsame : Same u cluster) (hname : target.names.instanceWork = u.names.instanceWork)
    (hcurrent : Current u w.works (u.instanceKey target.managedCluster) instanceCurrent)
    (hpods : ∃ pods, hosts (.listPods target.resolved.hostNamespace) = .ok pods)
    (hchild : ∀ cluster addresses, ∃ child, hosts (.observe cluster addresses) = .ok child ∧ child.allReady = true ∧
      (child.nodePort > 0 → child.endpoint ≠ "" → (Γ.urlHostname child.endpoint).getD "" ≠ ""))
    (hobserver : cfg.hasChildObserver = true ∨ cfg.hasChildObserverFactory = true ∧
      hosts (.childObserverForCell target.cell) = .ok ()) :
    Finishes hosts (selectObserver Γ cfg rt target foundationSummary instanceCurrent cluster) u cluster
      (u.instanceKey target.managedCluster) w (isApplied instanceCurrent = true) := by
  have hobserve : Finishes hosts (observeChild Γ cfg rt target foundationSummary instanceCurrent cluster true) u cluster
      (u.instanceKey target.managedCluster) w (isApplied instanceCurrent = true) :=
    finishes_observeChild rt foundationSummary hsame hname hcurrent hpods hchild
  unfold selectObserver
  split_ifs with hfactory
  · obtain ⟨hno, hyes⟩ := hfactory
    rcases hobserver with hset | ⟨-, hmade⟩
    · simp [hset] at hno
    · refine Finishes.of_eval ?_ (Kept.refl _) (Through.refl _) rfl id hobserve
      rw [eval_host, hmade]
  · have hset : cfg.hasChildObserver = true := by
      rcases hobserver with hset | ⟨hmade, -⟩
      · exact hset
      · by_contra hno
        exact hfactory ⟨by simpa using hno, hmade⟩
    rw [hset]
    exact hobserve

/-- The round goes on with an instance Work that is not degraded, and ends with one that is. -/
theorem finishes_instanceStage (hsame : Same u cluster) (hname : target.names.instanceWork = u.names.instanceWork)
    (hcurrent : Current u w.works (u.instanceKey target.managedCluster) instanceCurrent)
    (hpods : ∃ pods, hosts (.listPods target.resolved.hostNamespace) = .ok pods)
    (hchild : ∀ cluster addresses, ∃ child, hosts (.observe cluster addresses) = .ok child ∧ child.allReady = true ∧
      (child.nodePort > 0 → child.endpoint ≠ "" → (Γ.urlHostname child.endpoint).getD "" ≠ ""))
    (hobserver : cfg.hasChildObserver = true ∨ cfg.hasChildObserverFactory = true ∧
      hosts (.childObserverForCell target.cell) = .ok ()) :
    Finishes hosts (instanceStage Γ cfg rt target foundationSummary instanceCurrent cluster) u cluster
      (u.instanceKey target.managedCluster) w (instanceCurrent.settled = true) := by
  have hselect : ∀ quota, Finishes hosts (selectObserver Γ cfg rt target foundationSummary instanceCurrent
      ((cluster.withInstance instanceCurrent).withQuota rt target quota)) u cluster
        (u.instanceKey target.managedCluster) w
      (instanceCurrent.settled = true) := by
    intro quota
    have hkept : Kept cluster ((cluster.withInstance instanceCurrent).withQuota rt target quota) := by
      unfold VirtualCluster.withQuota
      dsimp only
      split_ifs <;> exact ⟨rfl, rfl, rfl⟩
    refine Finishes.of_eval rfl hkept (Through.refl _) rfl (fun hsettled => ?_)
      (finishes_selectObserver rt foundationSummary (hkept.same hsame) hname hcurrent hpods hchild hobserver)
    exact isApplied_of_summary (Bool.and_eq_true_iff.mp hsettled).1
  unfold instanceStage
  dsimp only
  split_ifs with hfailed hreader
  · refine ⟨_, w, ⟨some 10, rfl⟩, ⟨rfl, rfl, rfl⟩, Through.refl w, fun _ _ => rfl, ?_, fun hsettled => ?_⟩
    · cases hcurrent with
      | missing => cases hfailed
      | found hfind hours => exact ⟨instanceCurrent, hfind, hours⟩
    · simp [ManifestWork.settled, hfailed] at hsettled
  · cases hquota : hosts (.getResourceQuota target.resolved.hostNamespace "kubecell-workload") with
    | error e =>
      refine Finishes.of_eval ?_ (Kept.refl _) (Through.refl _) rfl id (hselect none)
      rw [eval_host, hquota]
    | ok quota =>
      refine Finishes.of_eval ?_ (Kept.refl _) (Through.refl _) rfl id (hselect quota)
      rw [eval_host, hquota]
  · exact hselect none

/-! ## The whole round -/

/-- A settled Work stands under a name. -/
def StandsSettled (works : Store ManifestWork) (key : NamespacedName) : Prop :=
  ∃ work, works.find key = some work ∧ work.settled = true

/-- Where a round ends: the foundation Work stands, the instance Work does when the foundation Work was settled
before, and the VirtualCluster is Ready when both were. -/
def Completes (hosts : (call : HostCall) → call.Res) (p : Action (Except Err Result)) (u cluster : VirtualCluster)
    (managedCluster : String) (w : World) (founded ready : Prop) : Prop :=
  ∃ cluster' w', EndsAt hosts p w cluster' w' ∧ Kept cluster cluster' ∧ Through w w' ∧
    Stands u w'.works (u.foundationKey managedCluster) ∧
    (∀ work, w'.works.find (u.instanceKey managedCluster) = some work → Ours u work) ∧
    (founded → Stands u w'.works (u.instanceKey managedCluster)) ∧ (ready → cluster'.status.phase = .ready)

section Stages

variable {cell : Cell} {virtualNodeClass : VirtualNodeClass}

/-- With its foundation Work settled the round finishes; without, it waits. -/
theorem completes_foundationStage (hattended : Attended Γ cfg rt hosts u cell virtualNodeClass) (hsame : Same u cluster)
    (hcell : target.cell = cell) (hname : target.names.instanceWork = u.names.instanceWork)
    (hns : target.resolved.hostNamespace = u.names.hostNamespace) {foundation : ManifestWork}
    (hfoundation : w.works.find (u.foundationKey target.managedCluster) = some foundation) (hours : Ours u foundation)
    (hinstance : ∀ work, w.works.find (u.instanceKey target.managedCluster) = some work → Ours u work) :
    Completes hosts (foundationStage Γ cfg rt cluster target foundation) u cluster target.managedCluster w
      (foundation.settled = true)
      (foundation.settled = true ∧ StandsSettled w.works (u.instanceKey target.managedCluster)) := by
  have hne : u.foundationKey target.managedCluster ≠ u.instanceKey target.managedCluster := fun heq =>
    foundationWork_ne_instanceWork u (congrArg NamespacedName.name heq)
  unfold foundationStage
  dsimp only
  split_ifs with hfailed happlied
  · have hnot : ¬foundation.settled = true := by simp [ManifestWork.settled, hfailed]
    exact ⟨_, w, ⟨some 10, rfl⟩, ⟨rfl, rfl, rfl⟩, Through.refl w, ⟨foundation, hfoundation, hours⟩, hinstance,
      fun h => absurd h hnot, fun h => absurd h.1 hnot⟩
  · have hnot : ¬foundation.settled = true := by
      simpa [ManifestWork.settled] using fun h => absurd h (by simpa using happlied)
    exact ⟨_, w, ⟨some 5, rfl⟩, ⟨rfl, rfl, rfl⟩, Through.refl w, ⟨foundation, hfoundation, hours⟩, hinstance,
      fun h => absurd h hnot, fun h => absurd h.1 hnot⟩
  · let referred : VirtualCluster :=
      { cluster with status.workRefs.foundation := applyWorkStatus (workReference foundation) foundation }
    have hreferred : Same u referred := ⟨hsame.key, hsame.uid, hsame.spec⟩
    have hfinish : ∀ instanceCurrent, Current u w.works (u.instanceKey target.managedCluster) instanceCurrent →
        Finishes hosts (instanceStage Γ cfg rt target (summarizeWork foundation) instanceCurrent referred) u referred
          (u.instanceKey target.managedCluster) w (instanceCurrent.settled = true) := fun instanceCurrent hcurrent =>
      finishes_instanceStage hreferred hname hcurrent (hns ▸ hattended.pods) hattended.child
        (hcell ▸ hattended.observer)
    have hkey : u.instanceKey target.managedCluster = ⟨target.managedCluster, target.names.instanceWork⟩ := by
      rw [VirtualCluster.instanceKey, hname]
    have hcomplete : ∀ instanceCurrent, Current u w.works (u.instanceKey target.managedCluster) instanceCurrent →
        (StandsSettled w.works (u.instanceKey target.managedCluster) → instanceCurrent.settled = true) →
        Completes hosts (instanceStage Γ cfg rt target (summarizeWork foundation) instanceCurrent referred) u cluster
          target.managedCluster w (foundation.settled = true)
          (foundation.settled = true ∧ StandsSettled w.works (u.instanceKey target.managedCluster)) := by
      intro instanceCurrent hcurrent hsettled
      obtain ⟨cluster', w', hends, hkept, hthrough, hothers, hstands, hready⟩ := hfinish instanceCurrent hcurrent
      refine ⟨cluster', w', hends, ⟨hkept.metadata, hkept.spec, hkept.resolved⟩, hthrough, ⟨foundation, ?_, hours⟩,
        fun work hwork => ?_,
        fun _ => hstands, fun h => hready (hsettled h.2)⟩
      · rw [hothers _ hne, hfoundation]
      · obtain ⟨work', hwork', hours'⟩ := hstands
        exact Option.some.inj (hwork'.symm.trans hwork) ▸ hours'
    cases hfind : w.works.find (u.instanceKey target.managedCluster) with
    | none =>
      have hnot : StandsSettled w.works (u.instanceKey target.managedCluster) → emptyWork.settled = true := by
        rintro ⟨work, hwork, -⟩
        cases hfind.symm.trans hwork
      have hmissing := hcomplete emptyWork (.missing hfind) hnot
      rw [hkey] at hfind
      obtain ⟨cluster', w', ⟨requeueAfter, hends⟩, hrest⟩ := hmissing
      refine ⟨cluster', w', ⟨requeueAfter, ?_⟩, hrest⟩
      rw [eval_api, World.serve, Store.get_of_missing hfind]
      exact hends
    | some instanceCurrent =>
      have hsettled : StandsSettled w.works (u.instanceKey target.managedCluster) → instanceCurrent.settled = true := by
        rintro ⟨work, hwork, hsettled⟩
        exact Option.some.inj (hwork.symm.trans hfind) ▸ hsettled
      have hfound := hcomplete instanceCurrent (.found hfind (hinstance instanceCurrent hfind)) hsettled
      rw [hkey] at hfind
      obtain ⟨cluster', w', ⟨requeueAfter, hends⟩, hrest⟩ := hfound
      refine ⟨cluster', w', ⟨requeueAfter, ?_⟩, hrest⟩
      rw [eval_api, World.serve, Store.get_of_find hfind]
      exact hends

/-- The foundation Work stands after it was written. -/
theorem completes_writeFoundation (hattended : Attended Γ cfg rt hosts u cell virtualNodeClass) (hsame : Same u cluster)
    (hcell : target.cell = cell) {addresses : List String} (hnames : target.names = cluster.renderNames addresses)
    (hns : target.resolved.hostNamespace = u.names.hostNamespace)
    (hfoundation : ∀ work, w.works.find (u.foundationKey target.managedCluster) = some work → Ours u work)
    (hinstance : ∀ work, w.works.find (u.instanceKey target.managedCluster) = some work → Ours u work) :
    Completes hosts (writeFoundation Γ cfg rt cluster target) u cluster target.managedCluster w
      (StandsSettled w.works (u.foundationKey target.managedCluster))
      (StandsSettled w.works (u.foundationKey target.managedCluster) ∧
        StandsSettled w.works (u.instanceKey target.managedCluster)) := by
  have hname : target.names.instanceWork = u.names.instanceWork := by rw [hnames, ← Same.names hsame]; rfl
  have hkey : (buildFoundationWork cluster target.resolved target.names target.managedCluster).metadata.key =
      u.foundationKey target.managedCluster := by
    rw [VirtualCluster.foundationKey, ← Same.names hsame, hnames]
    rfl
  have hne : u.instanceKey target.managedCluster ≠ u.foundationKey target.managedCluster := fun heq =>
    foundationWork_ne_instanceWork u (congrArg NamespacedName.name heq).symm
  obtain ⟨work, heval, hwork, hours, hconditions⟩ := eval_createOrUpdateWork hosts
    (buildFoundationWork cluster target.resolved target.names target.managedCluster)
      (ownedLabels_of_same hsame target.resolved)
    (hkey ▸ hfoundation)
  rw [hkey] at hwork hconditions
  have hfind : (w.works.put work).find (u.foundationKey target.managedCluster) = some work :=
    (Store.find_put _ _ _).trans (if_pos hwork.symm)
  have hsame' : (w.works.put work).find (u.instanceKey target.managedCluster) =
      w.works.find (u.instanceKey target.managedCluster) :=
    (Store.find_put _ _ _).trans (if_neg fun heq => hne (heq.trans hwork))
  obtain ⟨cluster', w', ⟨requeueAfter, hends⟩, hkept, hthrough, hstands, howner, hfounded, hready⟩ :=
    completes_foundationStage (w := { w.next with works := w.works.put work }) hattended hsame hcell
      hname hns hfind hours
      (hsame'.symm ▸ hinstance)
  have hsettled : StandsSettled w.works (u.foundationKey target.managedCluster) → work.settled = true := by
    rintro ⟨current, hcurrent, hsettled⟩
    rw [ManifestWork.settled, summarizeWork, hconditions current hcurrent]
    exact hsettled
  refine ⟨cluster', w', ⟨requeueAfter, ?_⟩, hkept,
    ⟨hthrough.clusters, hthrough.cells, hthrough.classes⟩, hstands, howner,
    fun h => hfounded (hsettled h), fun h => hready ⟨hsettled h.1, ?_⟩⟩
  · rw [writeFoundation, eval_bind, heval]
    dsimp only
    rw [eval_api, World.serve, hkey, Store.get_of_find hfind]
    exact hends
  · obtain ⟨instanceWork, hinstanceWork, hhealthy⟩ := h.2
    exact ⟨instanceWork, hsame'.trans hinstanceWork, hhealthy⟩

/-- A part of a round that comes down to another one. -/
theorem Completes.of_eval {p q : Action (Except Err Result)} {cluster₁ : VirtualCluster} {managedCluster : String}
    {founded ready : Prop} (heval : eval (World.answer hosts) p w = eval (World.answer hosts) q w)
    (hkept : Kept cluster cluster₁) (hq : Completes hosts q u cluster₁ managedCluster w founded ready) :
    Completes hosts p u cluster managedCluster w founded ready := by
  obtain ⟨cluster', w', ⟨requeueAfter, hends⟩, hkept', hrest⟩ := hq
  exact ⟨cluster', w', ⟨requeueAfter, heval.trans hends⟩, hkept.trans hkept', hrest⟩

/-- The plan is accepted, and the round goes on. -/
theorem completes_planStage (hattended : Attended Γ cfg rt hosts u cell virtualNodeClass) (hsame : Same u cluster)
    {resolved : ResolvedSnapshot} (hns : resolved.hostNamespace = u.names.hostNamespace)
    (hfoundation : ∀ work, w.works.find (u.foundationKey cell.spec.managedClusterRef.name) = some work → Ours u work)
    (hinstance : ∀ work, w.works.find (u.instanceKey cell.spec.managedClusterRef.name) = some work → Ours u work) :
    Completes hosts (planStage Γ cfg rt cluster cell virtualNodeClass resolved) u cluster
      cell.spec.managedClusterRef.name w
      (StandsSettled w.works (u.foundationKey cell.spec.managedClusterRef.name))
      (StandsSettled w.works (u.foundationKey cell.spec.managedClusterRef.name) ∧
        StandsSettled w.works (u.instanceKey cell.spec.managedClusterRef.name)) := by
  obtain ⟨nodes, hnodes, haddresses⟩ := hattended.nodes
  let feasible : VirtualCluster := { cluster with
    status.feasibilityChecks := (evaluateVirtualClusterPlan Γ rt cell virtualNodeClass).checks }.setCondition rt
      "Feasible" .true "Accepted"
      "current Cell inventory accepts the provisioning envelope"
  have hfeasible : Same u feasible := ⟨hsame.key, hsame.uid, hsame.spec⟩
  let target : Target := { cell := cell, resolved := resolved, names := feasible.renderNames (discoverHostAPIAddresses nodes) }
  have hcell : target.cell = cell := rfl
  have hkept : Kept cluster feasible := ⟨rfl, rfl, rfl⟩
  refine Completes.of_eval ?_ hkept (completes_writeFoundation hattended hfeasible hcell rfl hns hfoundation hinstance)
  unfold planStage
  dsimp only
  rw [hattended.accepted]
  dsimp only
  rw [hostStage, if_pos hattended.reader.1, eval_host, hattended.reader.2]
  dsimp only
  rw [eval_host, hnodes]
  dsimp only
  rw [addressStage, if_neg haddresses]

/-- A snapshot does not differ from itself. -/
theorem sameResolvedProvider_refl (snapshot : ResolvedSnapshot) : sameResolvedProvider snapshot snapshot = true := by
  have hlist : ∀ l : ResourceList, ResourceList.semanticEqual l l = true := fun l =>
    (ResourceList.semanticEqual_iff l l).mpr fun _ => rfl
  simp [sameResolvedProvider, ReservationSpec.semanticEqual, hlist]

/-- The VirtualCluster has no snapshot yet, or the one its references resolve to. -/
def NoDrift (u : VirtualCluster) (resolved : ResolvedSnapshot) (cluster : VirtualCluster) : Prop :=
  cluster.status.resolved.hostNamespace = "" ∨ sameResolvedProvider cluster.status.resolved (u.snapshot resolved) = true

/-- The Cell and the class are found, and resolve to what is stored. -/
theorem completes_referenceStage (hattended : Attended Γ cfg rt hosts u cell virtualNodeClass)
    {resolved : ResolvedSnapshot}
    (hresolves : resolveVirtualCluster Γ cell virtualNodeClass = .ok resolved) (hready : cell.status.phase = .ready)
    (hsame : Same u cluster) (hdrift : NoDrift u resolved cluster) (hcell : w.cells.find u.cellKey = some cell)
    (hclass : w.virtualNodeClasses.find ⟨"", u.spec.classRef.name⟩ = some virtualNodeClass)
    (hfoundation : ∀ work, w.works.find (u.foundationKey cell.spec.managedClusterRef.name) = some work → Ours u work)
    (hinstance : ∀ work, w.works.find (u.instanceKey cell.spec.managedClusterRef.name) = some work → Ours u work) :
    ∃ cluster₁, cluster₁.metadata = cluster.metadata ∧ NoDrift u resolved cluster₁ ∧
      Completes hosts (referenceStage Γ cfg rt cluster) u cluster₁ cell.spec.managedClusterRef.name w
        (StandsSettled w.works (u.foundationKey cell.spec.managedClusterRef.name))
        (StandsSettled w.works (u.foundationKey cell.spec.managedClusterRef.name) ∧
          StandsSettled w.works (u.instanceKey cell.spec.managedClusterRef.name)) := by
  let validated : VirtualCluster :=
    { cluster with status.observedGeneration := cluster.metadata.generation }.validated rt
  have hvalidated : Same u validated := ⟨hsame.key, hsame.uid, hsame.spec⟩
  have hsnapshot : validated.snapshot resolved = u.snapshot resolved := by
    rw [VirtualCluster.snapshot, Same.names hvalidated, VirtualCluster.snapshot]
  have heval : eval (World.answer hosts) (referenceStage Γ cfg rt cluster) w =
      eval (World.answer hosts) (snapshotStage Γ cfg rt validated cell virtualNodeClass (u.snapshot resolved)) w := by
    have hgetCell : w.cells.get ({ cluster with status.observedGeneration := cluster.metadata.generation } :
      VirtualCluster).cellKey =
        .ok cell := Store.get_of_find ((Same.cellKey hvalidated).symm ▸ hcell)
    have hgetClass : w.virtualNodeClasses.get ⟨"", cluster.spec.classRef.name⟩ = .ok virtualNodeClass :=
      Store.get_of_find (hsame.spec.symm ▸ hclass)
    rw [referenceStage]
    dsimp only
    rw [eval_api, World.serve, hgetCell]
    dsimp only
    rw [eval_api, World.serve, hgetClass]
    dsimp only
    rw [if_neg (not_not.mpr hready), resolveStage, hresolves]
    dsimp only
    rw [← hsnapshot]
    rfl
  have hns : (u.snapshot resolved).hostNamespace = u.names.hostNamespace := rfl
  have hdrift' : NoDrift u resolved validated := hdrift
  by_cases hempty : validated.status.resolved.hostNamespace = ""
  · have hkept : Same u { validated with status.resolved := u.snapshot resolved } := ⟨hsame.key, hsame.uid, hsame.spec⟩
    refine ⟨{ validated with status.resolved := u.snapshot resolved }, rfl, Or.inr (sameResolvedProvider_refl _),
      Completes.of_eval ?_ (Kept.refl _) (completes_planStage hattended hkept hns hfoundation hinstance)⟩
    rw [heval, snapshotStage, if_pos hempty]
  · have hprovider := hdrift'.resolve_left hempty
    refine ⟨validated, rfl, hdrift', Completes.of_eval ?_ (Kept.refl _)
      (completes_planStage hattended hvalidated hns hfoundation hinstance)⟩
    have hsame' : (!sameResolvedProvider validated.status.resolved (u.snapshot resolved)) = false := by
      rw [Bool.not_eq_false']
      exact hprovider
    rw [heval, snapshotStage, if_neg hempty, hsame']
    rfl

variable (Γ cfg rt hosts) in
/-- The finalizer is added where it is missing, and then the references are looked at. -/
theorem eval_adopt {v : VirtualCluster} (hfind : w.virtualClusters.find u.key = some v) (hsame : Same u v)
    (hdeleting : v.deleting = false) :
    ∃ v₁ w₁, eval (World.answer hosts) (reconcile Γ cfg rt u.key) w = eval (World.answer hosts)
      (referenceStage Γ cfg rt v₁) w₁ ∧
      w₁.virtualClusters.find u.key = some v₁ ∧ Same u v₁ ∧ v₁.deleting = false ∧ v₁.status = v.status ∧
        w₁.works = w.works ∧
      w₁.cells = w.cells ∧ w₁.virtualNodeClasses = w.virtualNodeClasses := by
  rw [reconcile, eval_api, World.serve, Store.get_of_find hfind]
  dsimp only
  rw [if_neg (by simp [hdeleting])]
  by_cases hheld : v.held = true
  · refine ⟨v, w, ?_, hfind, hsame, hdeleting, rfl, rfl, rfl, rfl⟩
    rw [if_neg (by rw [VirtualCluster.held] at hheld; rw [hheld]; decide)]
  · let v₁ : VirtualCluster := Store.asUpdated w.version v v.adopted
    have hupdate : w.virtualClusters.update w.version v.adopted = (.ok v₁, w.virtualClusters.put v₁) := by
      have hstored : w.virtualClusters.find (Resource.metadata v.adopted).key = some v := by
        rw [← hfind, ← hsame.key]
        rfl
      have halive : Store.terminating v = false := hdeleting
      rw [Store.update, hstored]
      simp only [halive, Bool.false_and, Bool.false_eq_true, if_false]
      exact if_neg (not_not.mpr rfl)
    have hkey : u.key = v₁.key := hsame.key.symm
    refine ⟨v₁, { w.next with virtualClusters := w.virtualClusters.put v₁ }, ?_,
      (Store.find_put _ _ _).trans (if_pos hkey),
      Same.asUpdated hsame (Same.adopted hsame) _, hdeleting, rfl, rfl, rfl, rfl⟩
    have hserve : w.serve (.updateVirtualCluster v.adopted) =
      (.ok v₁, { w.next with virtualClusters := w.virtualClusters.put v₁ }) := by
      rw [World.serve, hupdate]
    rw [if_pos (by rw [VirtualCluster.held] at hheld; simpa using hheld)]
    exact eval_api_of_serve hserve

/-- What an undisturbed round leaves behind when nothing is wrong. -/
theorem afterRound_provided (hattended : Attended Γ cfg rt hosts u cell virtualNodeClass) {resolved : ResolvedSnapshot}
    (hresolves : resolveVirtualCluster Γ cell virtualNodeClass = .ok resolved) (hready : cell.status.phase = .ready)
    (hprovided : Provided u cell virtualNodeClass resolved w) :
    Provided u cell virtualNodeClass resolved (w.afterRound Γ cfg rt hosts u.key) ∧
      Stands u (w.afterRound Γ cfg rt hosts u.key).works (u.foundationKey cell.spec.managedClusterRef.name) ∧
      (StandsSettled w.works (u.foundationKey cell.spec.managedClusterRef.name) →
        Stands u (w.afterRound Γ cfg rt hosts u.key).works (u.instanceKey cell.spec.managedClusterRef.name)) ∧
      (StandsSettled w.works (u.foundationKey cell.spec.managedClusterRef.name) →
        StandsSettled w.works (u.instanceKey cell.spec.managedClusterRef.name) →
        ∃ v, (w.afterRound Γ cfg rt hosts u.key).virtualClusters.find u.key = some v ∧ v.status.phase = .ready) := by
  obtain ⟨v, hfind, hsame, hdeleting, hdrift⟩ := hprovided.stored
  obtain ⟨v₁, w₁, heval, hfind₁, hsame₁, hdeleting₁, hstatus₁, hworks₁, hcells₁, hclasses₁⟩ := eval_adopt Γ cfg rt
    hosts hfind hsame hdeleting
  have hdrift₁ : NoDrift u resolved v₁ := by
    rw [NoDrift, hstatus₁]
    exact hdrift
  obtain ⟨cluster₁, hmetadata, hnodrift, cluster', w', ⟨requeueAfter, hends⟩, hkept, hthrough, hfoundation, hours,
    hinstance, hphase⟩ :=
    completes_referenceStage (w := w₁) hattended hresolves hready hsame₁ hdrift₁ (hcells₁ ▸ hprovided.readCell)
      (hclasses₁ ▸ hprovided.readClass) (hworks₁ ▸ hprovided.foundation) (hworks₁ ▸ hprovided.instanceWork)
  rw [hworks₁] at hinstance hphase
  have hstored : w'.virtualClusters.find cluster'.key = some v₁ := by
    rw [hthrough.clusters, VirtualCluster.key, hkept.metadata, hmetadata, ← VirtualCluster.key, hsame₁.key, hfind₁]
  have hafter : w.afterRound Γ cfg rt hosts u.key = World.withStatusOf w' v₁ cluster'.status := by
    rw [World.afterRound, heval, hends, eval_persist hstored]
  let after : VirtualCluster := Store.withStatus w'.version v₁ { v₁ with status := cluster'.status }
  have hkey : u.key = after.key := hsame₁.key.symm
  have hfind' : (World.withStatusOf w' v₁ cluster'.status).virtualClusters.find u.key = some after :=
    (Store.find_put _ _ _).trans (if_pos hkey)
  have hnodrift' : NoDrift u resolved after := by
    have hresolved : after.status.resolved = cluster₁.status.resolved := hkept.resolved
    rw [NoDrift, hresolved]
    exact hnodrift
  rw [hafter]
  refine ⟨⟨⟨after, hfind', ⟨hsame₁.key, hsame₁.uid, hsame₁.spec⟩, hdeleting₁, hnodrift'⟩, ?_, ?_, ?_, hours⟩,
    hfoundation, hinstance,
    fun hfounded hinstanced => ⟨after, hfind', hphase ⟨hfounded, hinstanced⟩⟩⟩
  · exact (congrArg (Store.find · u.cellKey) (hthrough.cells.trans hcells₁)).trans hprovided.readCell
  · exact (congrArg (Store.find · _) (hthrough.classes.trans hclasses₁)).trans hprovided.readClass
  · intro work hwork
    obtain ⟨work', hwork', hours'⟩ := hfoundation
    exact Option.some.inj (hwork'.symm.trans hwork) ▸ hours'

/-- What OCM makes of it. -/
theorem Synced.settles {managedCluster : String} (hsynced : Synced u managedCluster w w') {key : NamespacedName}
    (hkey : key = u.foundationKey managedCluster ∨ key = u.instanceKey managedCluster)
    (hstands : Stands u w.works key) :
    StandsSettled w'.works key := by
  obtain ⟨work, hwork, -⟩ := hstands
  obtain ⟨work', hwork', -, hsettled⟩ := hsynced.applied key hkey work hwork
  exact ⟨work', hwork', hsettled⟩

/-- What a round needs is still there after the steps of the agents. -/
theorem Provided.synced {resolved : ResolvedSnapshot} (hprovided : Provided u cell virtualNodeClass resolved w)
    (hsynced : Synced u cell.spec.managedClusterRef.name w w') : Provided u cell virtualNodeClass resolved w' := by
  have hours : ∀ key, key = u.foundationKey cell.spec.managedClusterRef.name ∨
    key = u.instanceKey cell.spec.managedClusterRef.name →
      (∀ work, w.works.find key = some work → Ours u work) → ∀ work', w'.works.find key = some work' →
        Ours u work' := by
    intro key hkey hbefore work' hwork'
    cases hfind : w.works.find key with
    | none =>
      rw [hsynced.absent key hkey hfind] at hwork'
      cases hwork'
    | some work =>
      obtain ⟨work'', hwork'', hlabels, -⟩ := hsynced.applied key hkey work hfind
      rw [hwork'', Option.some.injEq] at hwork'
      subst hwork'
      rw [Ours, hlabels]
      exact hbefore work hfind
  refine ⟨?_, ?_, ?_, hours _ (Or.inl rfl) hprovided.foundation, hours _ (Or.inr rfl) hprovided.instanceWork⟩
  · rw [hsynced.clusters]
    exact hprovided.stored
  · rw [hsynced.cells]
    exact hprovided.readCell
  · rw [hsynced.classes]
    exact hprovided.readClass

end Stages

end ConvergesAux

open ConvergesAux

/-- Along a run of undisturbed rounds, between which OCM applies the Works that stand, a VirtualCluster that can be
provisioned is Ready after the third round and from then on, whatever status it started with. -/
theorem provisioning_converges (Γ : Ctx) (cfg : Config) {u : VirtualCluster} {cell : Cell}
    {virtualNodeClass : VirtualNodeClass} {resolved : ResolvedSnapshot}
    (hresolves : resolveVirtualCluster Γ cell virtualNodeClass = .ok resolved) (hready : cell.status.phase = .ready)
    {run : Nat → World} {rt : Nat → Runtime} {hosts : Nat → (call : HostCall) → call.Res}
    (hinit : Provided u cell virtualNodeClass resolved (run 0))
    (hattended : ∀ n, Attended Γ cfg (rt n) (hosts n) u cell virtualNodeClass)
    (hsynced : ∀ n, Synced u cell.spec.managedClusterRef.name
      ((run n).afterRound Γ cfg (rt n) (hosts n) u.key) (run (n + 1))) :
    ∀ n ≥ 3, ∃ v, (run n).virtualClusters.find u.key = some v ∧ v.status.phase = .ready := by
  have hprovided : ∀ n, Provided u cell virtualNodeClass resolved (run n) := by
    intro n
    induction n with
    | zero => exact hinit
    | succ n ih => exact Provided.synced (afterRound_provided (hattended n) hresolves hready ih).1 (hsynced n)
  have hround := fun n => afterRound_provided (hattended n) hresolves hready (hprovided n)
  have hfounded : ∀ n ≥ 1, StandsSettled (run n).works (u.foundationKey cell.spec.managedClusterRef.name) := by
    intro n hn
    obtain ⟨n, rfl⟩ : ∃ k, n = k + 1 := ⟨n - 1, by omega⟩
    exact Synced.settles (hsynced n) (Or.inl rfl) (hround n).2.1
  have hinstanced : ∀ n ≥ 2, StandsSettled (run n).works (u.instanceKey cell.spec.managedClusterRef.name) := by
    intro n hn
    obtain ⟨n, rfl⟩ : ∃ k, n = k + 1 := ⟨n - 1, by omega⟩
    exact Synced.settles (hsynced n) (Or.inr rfl) ((hround n).2.2.1 (hfounded n (by omega)))
  intro n hn
  obtain ⟨n, rfl⟩ : ∃ k, n = k + 1 := ⟨n - 1, by omega⟩
  obtain ⟨v, hfind, hphase⟩ := (hround n).2.2.2 (hfounded n (by omega)) (hinstanced n (by omega))
  exact ⟨v, (hsynced n).clusters.trans hfind, hphase⟩

namespace SampleAux

/-- A child cluster that is ready, with an endpoint. -/
def readyChild : ChildObservation :=
  { apiReady := true, logicalNodeReady := true, storageClassReady := true, nodePort := 31000, endpoint := "https://10.0.0.1:31000" }

/-- The world after OCM has applied the Works of the sample VirtualCluster that stand. -/
def World.applied (w : World) : World :=
  { w with
    works := reportApplied (reportApplied w.works (freshCluster.foundationKey "mc-a"))
      (freshCluster.instanceKey "mc-a") }

/-- A run of undisturbed rounds, from a status of an earlier refusal and without Works. -/
def provisioningRun : Nat → World
  | 0 => sampleWorld (clusterIn .failed {}) []
  | n + 1 => World.applied ((provisioningRun n).afterRound sampleCtx sampleConfig sampleRuntime
      (sampleHost (.ok [sampleNode]) (.ok readyChild)) freshCluster.key)

/-- The agent reports one Work applied. -/
theorem find_reportApplied (works : Store ManifestWork) (key key' : NamespacedName) :
    (reportApplied works key).find key' =
      if key' = key then (works.find key').map ({ · with conditions := [{ type := "Applied", status := .true }] })
      else works.find key' := by
  unfold reportApplied
  cases hfind : works.find key with
  | none =>
    split_ifs with hkey
    · rw [hkey, hfind]
      rfl
    · rfl
  | some work =>
    have hkeyed : work.metadata.key = key := Store.find_keyed hfind
    have hput := Store.find_put works { work with conditions := [{ type := "Applied", status := .true }] } key'
    simp only [Resource.metadata, hkeyed] at hput
    dsimp only
    rw [hput]
    split_ifs with hkey
    · rw [hkey, hfind]
      rfl
    · rfl

/-- The agents report the Works of the sample applied. -/
theorem synced_applied (w : World) : Synced freshCluster "mc-a" w (World.applied w) := by
  have hne : freshCluster.foundationKey "mc-a" ≠ freshCluster.instanceKey "mc-a" := fun heq =>
    foundationWork_ne_instanceWork freshCluster (congrArg NamespacedName.name heq)
  have hfind : ∀ key, key = freshCluster.foundationKey "mc-a" ∨ key = freshCluster.instanceKey "mc-a" →
      (World.applied w).works.find key = (w.works.find key).map
        ({ · with conditions := [{ type := "Applied", status := .true }] }) := by
    rintro key (rfl | rfl)
    · exact (find_reportApplied _ _ _).trans ((if_neg hne).trans ((find_reportApplied _ _ _).trans (if_pos rfl)))
    · refine (find_reportApplied _ _ _).trans ((if_pos rfl).trans ?_)
      rw [find_reportApplied, if_neg hne.symm]
  refine ⟨rfl, rfl, rfl, fun key hkey work hwork => ?_, fun key hkey hnone => ?_⟩
  · refine ⟨{ work with conditions := [{ type := "Applied", status := .true }] }, ?_, rfl, rfl⟩
    rw [hfind key hkey, hwork]
    rfl
  · rw [hfind key hkey, hnone]
    rfl

end SampleAux

open SampleAux

/-- The sample VirtualCluster, which an earlier round has refused, is Ready after the third round. -/
theorem provisioning_converges_sample :
    ∃ v, (provisioningRun 3).virtualClusters.find freshCluster.key = some v ∧ v.status.phase = .ready := by
  obtain ⟨hprofile, hentitlements, hpairs⟩ := DriftAux.sample_resolves DriftAux.gibi
  have hsample : ResolutionAux.Resolves readyCell readyClass := ⟨hprofile, hentitlements, hpairs⟩
  have hresolves : resolveVirtualCluster sampleCtx readyCell readyClass = .ok
    (ResolutionAux.resolvedOf sampleCtx readyCell readyClass) :=
    (ResolutionAux.resolveVirtualCluster_ok_iff _ _ _ _).mpr ⟨hsample, rfl⟩
  have hstored : (provisioningRun 0).virtualClusters.find freshCluster.key = some (clusterIn .failed {}) :=
    find_sampleWorld (clusterIn .failed {}) []
  have hattended : Attended sampleCtx sampleConfig sampleRuntime
    (sampleHost (.ok [sampleNode]) (.ok readyChild)) freshCluster readyCell
      readyClass := by
    refine ⟨by decide +kernel, ⟨rfl, rfl⟩, ⟨[sampleNode], rfl, by decide +kernel⟩, Or.inl rfl, fun _ _ => ⟨readyChild,
      rfl, rfl, ?_⟩, [],
      rfl⟩
    decide +kernel
  suffices hready : ∀ n ≥ 3, ∃ v, (provisioningRun n).virtualClusters.find freshCluster.key = some v ∧
    v.status.phase = .ready from
    hready 3 le_rfl
  refine provisioning_converges sampleCtx sampleConfig hresolves rfl ⟨?_, ?_, ?_, ?_, ?_⟩
    (fun _ => hattended) fun n => synced_applied _
  · exact ⟨clusterIn .failed {}, hstored, ⟨rfl, rfl, rfl⟩, rfl, Or.inr (sameResolvedProvider_refl _)⟩
  · exact (Store.find_put _ _ _).trans (if_pos (by decide +kernel))
  · exact (Store.find_put _ _ _).trans (if_pos (by decide +kernel))
  · intro work hwork
    cases hwork
  · intro work hwork
    cases hwork

end KubeCell
