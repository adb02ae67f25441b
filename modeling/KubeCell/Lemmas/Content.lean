import KubeCell.Content
import KubeCell.Lemmas.Provision

/-!
# Every write of a round is what it should be

A second walk through `reconcile`, for what is written: one lemma for each of its parts, from the last to the first.
What is carried along differs from the VirtualCluster of the round in its status only.
-/

namespace KubeCell

open Prog RoundAux ProvisionAux

/-- Every call of the program writes what it should. -/
abbrev Grounded (Γ : Ctx) (cfg : Config) (key : NamespacedName) {α : Type} (Q : List Event → α → Prop) (p : Action α)
    (h : List Event) : Prop :=
  Guarded event (Writes Γ cfg key) Q p h

namespace ContentAux

variable {Γ : Ctx} {cfg : Config} {rt : Runtime} {key : NamespacedName} {α β : Type} {Q : List Event → α → Prop}
  {h : List Event} {v cluster : VirtualCluster} {target : Target}

/-- Nothing is asked of the end. -/
abbrev Anything (_ : List Event) (_ : α) : Prop := True

/-- What a round works on does not change as it goes on. -/
theorem Began.append (hbegan : Began key h v) (t : List Event) : Began key (h ++ t) v :=
  hbegan.imp (Live.append · t) (Doomed.append · t)

theorem Basis.append (hbasis : Basis Γ key h v target) (t : List Event) : Basis Γ key (h ++ t) v target := by
  obtain ⟨virtualNodeClass, resolved, hsaw, hresolve, heq⟩ := hbasis.resolved
  exact ⟨Live.append hbasis.live t, Saw.append hbasis.readCell t,
    ⟨virtualNodeClass, resolved, Saw.append hsaw t, hresolve, heq⟩,
    hbasis.same, hbasis.names⟩

/-- What differs from a VirtualCluster in its status only. -/
structure Like (v cluster : VirtualCluster) : Prop where
  metadata : cluster.metadata = v.metadata
  spec : cluster.spec = v.spec

/-- The status may change. -/
theorem Like.change (hlike : Like v cluster) {cluster' : VirtualCluster}
    (hmetadata : cluster'.metadata = cluster.metadata) (hspec : cluster'.spec = cluster.spec) : Like v cluster' :=
  ⟨hmetadata.trans hlike.metadata, hspec.trans hlike.spec⟩

/-- The names of the Works and of the Secret are those of the VirtualCluster that was read. -/
theorem Like.names (hlike : Like v cluster) : cluster.names = v.names := by
  rw [VirtualCluster.names, hlike.metadata, VirtualCluster.names]

/-- So are the names that go into the manifests. -/
theorem Like.renderNames (hlike : Like v cluster) (addresses : List String) :
    cluster.renderNames addresses = v.renderNames addresses := by
  rw [VirtualCluster.renderNames, hlike.names, VirtualCluster.renderNames]

/-- So are the labels of what it owns. -/
theorem Like.ownedLabels (hlike : Like v cluster) (resolved : ResolvedSnapshot) :
    cluster.ownedLabels resolved = v.ownedLabels resolved := by
  rw [VirtualCluster.ownedLabels, hlike.metadata, hlike.spec, VirtualCluster.ownedLabels]

/-- The Works do not depend on the status, nor does the mirror. -/
theorem Like.foundation (hlike : Like v cluster) (resolved : ResolvedSnapshot) (names : Names)
    (managedCluster : String) :
    buildFoundationWork cluster resolved names managedCluster =
      buildFoundationWork v resolved names managedCluster := by
  simp only [buildFoundationWork, workLabels, renderFoundation, hlike.ownedLabels, hlike.metadata]

@[inherit_doc Like.foundation] theorem Like.instanceWork (hlike : Like v cluster) (resolved : ResolvedSnapshot)
    (names : Names) (managedCluster : String) (mirrored : List Manifest) :
    buildInstanceWork cluster resolved names managedCluster mirrored =
      buildInstanceWork v resolved names managedCluster mirrored := by
  simp only [buildInstanceWork, workLabels, renderK3kCluster, hlike.ownedLabels]

@[inherit_doc Like.foundation] theorem Like.mirror (hlike : Like v cluster) (resolved : ResolvedSnapshot)
    (appsSuffix : String) :
    mirrorChildIngresses cluster resolved appsSuffix childClient =
      mirrorChildIngresses v resolved appsSuffix childClient := by
  simp only [mirrorChildIngresses, renderIngressMirror, hlike.ownedLabels, hlike.metadata]

/-! ## Calls -/

/-- A call that writes neither a status nor a Work, and what comes after it. -/
theorem grounded_api {call : ApiCall} (hplain : call.isPlain = true) {f : Except Err call.Res → Action α}
    (hf : ∀ r, Grounded Γ cfg key Q (f r) (h ++ [event (.api call) r])) : Grounded Γ cfg key Q (api call >>= f) h :=
  ⟨.plain hplain, hf⟩

/-- A call to a host or child cluster, and what comes after it. -/
theorem grounded_host {call : HostCall} {f : call.Res → Action α}
    (hf : ∀ r, Grounded Γ cfg key Q (f r) (h ++ [event (.host call) r])) : Grounded Γ cfg key Q (host call >>= f) h :=
  ⟨.host call, hf⟩

/-- A program, and what comes after it whatever its calls are answered. -/
theorem grounded_bind {p : Action β} {f : β → Action α} {P : β → Prop}
    (hp : Grounded Γ cfg key (fun h' b => (∃ t, h' = h ++ t) ∧ P b) p h)
    (hf : ∀ t b, P b → Grounded Γ cfg key Q (f b) (h ++ t)) : Grounded Γ cfg key Q (p >>= f) h := by
  rw [Grounded, guarded_bind]
  refine hp.mono (fun _ _ hw => hw) ?_
  rintro _ b ⟨⟨t, rfl⟩, hb⟩
  exact hf t b hb

/-- A status is put on the object as it is now. -/
theorem grounded_persist (hbegan : Began key h v) (hlike : Like v cluster) (requeueAfter : Option Nat) :
    Grounded Γ cfg key Anything (persist cluster requeueAfter) h := by
  have htry : ∀ h', Began key h' v →
    Grounded Γ cfg key (fun h' r => ∀ e, r = .error e → e.isConflict = true → Began key h' v)
      (tryUpdateStatus cluster) h' := by
    intro h' hbegan
    have hkey : cluster.key = v.key := by rw [VirtualCluster.key, hlike.metadata]
    refine grounded_api rfl fun r => ?_
    have hbegan' := Began.append hbegan [event (.api (.getVirtualCluster cluster.key)) r]
    cases r with
    | error e => exact fun _ _ _ => hbegan'
    | ok current =>
      refine ⟨.status hbegan' (hkey ▸ saw_last _ _ _) rfl, fun r => ?_⟩
      cases r with
      | error e => exact fun _ _ _ => Began.append hbegan' _
      | ok stored => exact fun _ hfailed => nomatch hfailed
  rw [persist, Grounded, Prog.guarded_bind]
  refine (guarded_retry htry 4 hbegan).mono (fun _ _ hw => hw) ?_
  rintro h' (e | ⟨⟩) - <;> trivial

/-- Programs that only read go through, and what they end with is what they end with by themselves. -/
theorem grounded_reads {p : Action β} (hp : Neutral readsOnly p) (h : List Event) :
    Grounded Γ cfg key (fun h' b => ∃ t, h' = h ++ t ∧ Reaches event p t (.ret b)) p h := by
  induction p generalizing h with
  | ret b => exact ⟨[], (List.append_nil h).symm, .refl _⟩
  | call call next ih =>
    have hwrites : Writes Γ cfg key h call := by
      cases call with
      | api call => exact hp.1.elim
      | host call => exact .host call
    refine ⟨hwrites, fun r => ?_⟩
    refine Guarded.mono (fun _ _ hw => hw) ?_ (ih r (hp.2 r) _)
    rintro _ b ⟨t, rfl, hreaches⟩
    exact ⟨event call r :: t, by simp, .call r hreaches⟩

/-! ## Deletion -/

/-- The status of a deletion. -/
theorem grounded_cleanup (hbegan : Began key h v) (status : ConditionStatus) (reason message : String)
    (requeueAfter : Option Nat) :
    Grounded Γ cfg key Anything (persist (v.cleanup rt status reason message) requeueAfter) h := by
  have hlike : Like v (v.cleanup rt status reason message) := ⟨rfl, rfl⟩
  exact grounded_persist hbegan hlike requeueAfter

/-- Deleting the Secret writes no Work. -/
theorem grounded_deleteOwnedSecret (ns name uid : String) (h : List Event) :
    Grounded Γ cfg key (fun h' _ => (∃ t, h' = h ++ t) ∧ True) (deleteOwnedSecret ns name uid) h := by
  unfold deleteOwnedSecret
  split_ifs
  · exact ⟨⟨[], (List.append_nil h).symm⟩, trivial⟩
  · refine grounded_api rfl fun r => ?_
    cases r with
    | error e => exact ⟨⟨_, rfl⟩, trivial⟩
    | ok secret =>
      dsimp only
      split_ifs
      · exact ⟨⟨_, rfl⟩, trivial⟩
      · refine grounded_api rfl fun r => ?_
        cases r <;> exact ⟨⟨_, List.append_assoc _ _ _⟩, trivial⟩

theorem grounded_getWork (ns name : String) (h : List Event) :
    Grounded Γ cfg key (fun h' _ => (∃ t, h' = h ++ t) ∧ True) (getWork ns name) h := by
  unfold getWork
  split_ifs
  · exact ⟨⟨[], (List.append_nil h).symm⟩, trivial⟩
  · refine grounded_api rfl fun r => ?_
    cases r <;> exact ⟨⟨_, rfl⟩, trivial⟩

/-- A deletion removes Works and writes none. -/
theorem grounded_deleteInOrder (hbegan : Began key h v) (instanceWork foundation : Option ManifestWork) :
    Grounded Γ cfg key Anything (deleteInOrder rt v instanceWork foundation) h := by
  have hrequest : ∀ work reason message, Grounded Γ cfg key Anything (requestDeletion rt v work reason message) h := by
    intro work reason message
    refine grounded_api rfl fun r => ?_
    have hbegan' := Began.append hbegan [event (.api (.deleteWork work.metadata.key)) r]
    cases r with
    | error e =>
      dsimp only
      split_ifs
      · trivial
      · exact grounded_cleanup hbegan' _ _ _ _
    | ok _ => exact grounded_cleanup hbegan' _ _ _ _
  unfold deleteInOrder
  dsimp only
  split_ifs
  · exact grounded_cleanup hbegan _ _ _ _
  · match instanceWork, foundation with
    | some work, _ => exact hrequest work _ _
    | none, some work => exact hrequest work _ _
    | none, none =>
      refine grounded_api rfl fun r => ?_
      cases r <;> trivial

/-- No Work is written in a whole round of a deletion. -/
theorem grounded_reconcileDeletion (hbegan : Began key h v) :
    Grounded Γ cfg key Anything (reconcileDeletion rt v) h := by
  have hworks : ∀ managedCluster h', Began key h' v →
    Grounded Γ cfg key Anything (deleteWorks rt v managedCluster) h' := by
    intro managedCluster h' hbegan'
    refine grounded_bind (grounded_getWork _ _ _) fun t r _ => ?_
    refine grounded_bind (grounded_getWork _ _ _) fun t' r' _ => ?_
    cases orMissing r with
    | error e => trivial
    | ok instanceWork =>
      cases orMissing r' with
      | error e => trivial
      | ok foundation => exact grounded_deleteInOrder (Began.append (Began.append hbegan' t) t') _ _
  unfold reconcileDeletion
  split_ifs with hheld hempty
  · trivial
  · refine grounded_bind (grounded_deleteOwnedSecret _ _ _ _) fun t r _ => ?_
    have hbegan := Began.append hbegan t
    cases r with
    | error e => trivial
    | ok _ =>
      refine grounded_api rfl fun r => ?_
      cases r with
      | error e => exact grounded_cleanup (Began.append hbegan _) _ _ _ _
      | ok referenced => exact hworks _ _ (Began.append hbegan _)
  · refine grounded_bind (grounded_deleteOwnedSecret _ _ _ _) fun t r _ => ?_
    cases r with
    | error e => trivial
    | ok _ => exact hworks _ _ (Began.append hbegan t)

/-! ## Writing the Works -/

/-- `createOrUpdateWork` writes the Work it is given. -/
theorem grounded_createOrUpdateWork {desired : ManifestWork}
    (hwrite : ∀ t call, writesWork desired call → Writes Γ cfg key (h ++ t) (.api call)) :
    Grounded Γ cfg key (fun h' _ => (∃ t, h' = h ++ t) ∧ True) (createOrUpdateWork desired) h := by
  unfold createOrUpdateWork
  dsimp only
  refine grounded_api rfl fun r => ?_
  cases r with
  | error e =>
    dsimp only
    split_ifs
    · exact ⟨⟨_, rfl⟩, trivial⟩
    · refine ⟨hwrite _ _ (Or.inl rfl), fun r => ?_⟩
      cases r <;> exact ⟨⟨_, List.append_assoc _ _ _⟩, trivial⟩
  | ok current =>
    dsimp only
    cases validateWorkReference current (desired.metadata.labels.get labelVirtualClusterUID) with
    | error e => exact ⟨⟨_, rfl⟩, trivial⟩
    | ok _ =>
      dsimp only
      split_ifs
      · exact ⟨⟨_, rfl⟩, trivial⟩
      · refine ⟨hwrite _ _ (Or.inr rfl), fun r => ?_⟩
        cases r <;> exact ⟨⟨_, List.append_assoc _ _ _⟩, trivial⟩

section Instance

variable {foundationSummary : WorkSummary} {instanceCurrent : ManifestWork}

/-- The instance Work was read, or was not found and is taken as the empty one. -/
def InstanceRead (h : List Event) (v : VirtualCluster) (target : Target) (instanceCurrent : ManifestWork) : Prop :=
  (∃ e : Err, e.isNotFound = true ∧ Saw h (.api (.getWork (v.instanceKey target.managedCluster))) (.error e)) ∨
    Saw h (.api (.getWork (v.instanceKey target.managedCluster))) (.ok instanceCurrent)

/-- What a round knows once both Works were read. -/
structure Stage (Γ : Ctx) (key : NamespacedName) (h : List Event) (v : VirtualCluster) (target : Target)
    (instanceCurrent : ManifestWork) : Prop where
  basis : Basis Γ key h v target
  read : InstanceRead h v target instanceCurrent

theorem Stage.append (hstage : Stage Γ key h v target instanceCurrent) (t : List Event) :
    Stage Γ key (h ++ t) v target instanceCurrent := by
  refine ⟨Basis.append hstage.basis t, ?_⟩
  exact hstage.read.imp (fun ⟨e, he, hsaw⟩ => ⟨e, he, Saw.append hsaw t⟩) (Saw.append · t)

/-- The round works on the VirtualCluster that it provisions. -/
theorem Stage.began (hstage : Stage Γ key h v target instanceCurrent) : Began key h v := Or.inl hstage.basis.live

/-- Deciding the phase writes the status, in the name of what was read. -/
theorem grounded_decidePhase (hbegan : Began key h v) (hlike : Like v cluster) (instanceSummary : WorkSummary)
    (hasObserver : Bool) :
    Grounded Γ cfg key Anything (decidePhase rt cluster foundationSummary instanceSummary hasObserver) h := by
  refine grounded_persist hbegan ⟨?_, ?_⟩ (some 5)
  · rw [(setConditionIf_frame _ _ _ _ _ _ _).1, (setConditionIf_frame _ _ _ _ _ _ _).1,
      (setConditionIf_frame _ _ _ _ _ _ _).1,
      (withPhase_frame _ _).1, hlike.metadata]
  · rw [(setConditionIf_frame _ _ _ _ _ _ _).2.1, (setConditionIf_frame _ _ _ _ _ _ _).2.1,
      (setConditionIf_frame _ _ _ _ _ _ _).2.1,
      (withPhase_frame _ _).2.1, hlike.spec]

/-- The instance Work is written where there was none, and else with a mirror that was collected. -/
theorem grounded_writeInstance (hstage : Stage Γ key h v target instanceCurrent) (hlike : Like v cluster)
    (hasObserver : Bool) (mirrored : List Manifest) (observedOK mirrorOK : Bool)
    (hmirror : mirrored = [] ∧ mirrorOK = false ∨ MirrorSource cfg h v target mirrored) :
    Grounded Γ cfg key Anything
      (writeInstance rt cluster target foundationSummary instanceCurrent hasObserver mirrored observedOK
        mirrorOK) h := by
  unfold writeInstance
  split_ifs with hwritten
  · have hsource : MirrorSource cfg h v target mirrored := by
      rcases hmirror with ⟨hempty, hfailed⟩ | hsource
      · rcases hwritten with hunnamed | ⟨-, hok⟩
        · rcases hstage.read with ⟨e, he, hsaw⟩ | hsaw
          · exact .missing he hsaw hempty
          · exact .unnamed hsaw hunnamed hempty
        · rw [hfailed] at hok
          nomatch hok
      · exact hsource
    have hsource' : ∀ t, MirrorSource cfg (h ++ t) v target mirrored := by
      intro t
      cases hsource with
      | missing he hsaw hempty => exact .missing he (Saw.append hsaw t) hempty
      | unnamed hsaw hname hempty => exact .unnamed (Saw.append hsaw t) hname hempty
      | collected hmem hreaches => exact .collected (fun e he => List.mem_append_left t (hmem e he)) hreaches
    dsimp only
    rw [hlike.instanceWork]
    refine grounded_bind (grounded_createOrUpdateWork fun t call hcall =>
      .instanceWork (Basis.append hstage.basis t) (hsource' t) hcall) fun t r _ => ?_
    have hstage := hstage.append t
    cases r with
    | error e => trivial
    | ok _ =>
      refine grounded_api rfl fun r => ?_
      have hstage := hstage.append
        [event (.api (.getWork (buildInstanceWork v target.resolved target.names target.managedCluster
          mirrored).metadata.key)) r]
      cases r with
      | error e => exact grounded_persist hstage.began hlike _
      | ok refreshed =>
        refine grounded_decidePhase hstage.began ?_ _ _
        exact hlike.change rfl rfl
  · exact grounded_decidePhase hstage.began hlike _ _

/-- The instance Work that is written after the mirror is rendered from what was read of the child. -/
theorem grounded_mirrorStage (hstage : Stage Γ key h v target instanceCurrent) (hlike : Like v cluster)
    (child : ChildObservation) :
    Grounded Γ cfg key Anything (mirrorStage cfg rt target foundationSummary instanceCurrent cluster child) h := by
  unfold mirrorStage
  split_ifs
  · rw [Grounded, Prog.guarded_bind]
    refine (grounded_reads (neutral_mirror cluster target.resolved cfg.appsSuffix) h).mono (fun _ _ hw => hw) ?_
    rintro _ r ⟨t, rfl, hreaches⟩
    rw [hlike.mirror] at hreaches
    cases r with
    | error e => exact grounded_writeInstance (hstage.append t) hlike _ _ _ _ (Or.inl ⟨rfl, rfl⟩)
    | ok fetched =>
      exact grounded_writeInstance (hstage.append t) hlike _ _ _ _
        (Or.inr (.collected (fun e he => List.mem_append_right h he) hreaches))
  · exact grounded_writeInstance hstage hlike _ _ _ _ (Or.inl ⟨rfl, rfl⟩)

/-- The placements go into the status, and not into the Work. -/
theorem grounded_placementStage (hstage : Stage Γ key h v target instanceCurrent) (hlike : Like v cluster)
    (child : ChildObservation) :
    Grounded Γ cfg key Anything (placementStage cfg rt target foundationSummary instanceCurrent cluster child) h := by
  unfold placementStage
  split_ifs
  · refine grounded_host fun r => ?_
    have hstage := hstage.append [event (.host (.listPods target.resolved.hostNamespace)) r]
    cases r with
    | error e =>
      refine grounded_persist hstage.began ?_ _
      exact hlike.change rfl rfl
    | ok pods =>
      dsimp only
      rw [Grounded, Prog.guarded_bind]
      refine (grounded_reads (neutral_placements _ _ _ _) _).mono (fun _ _ hw => hw) ?_
      rintro _ placements ⟨t, rfl, -⟩
      refine grounded_mirrorStage (hstage.append t) ?_ child
      exact hlike.change rfl rfl
  · exact grounded_mirrorStage hstage hlike child

/-- Publishing the kubeconfig changes the status only. -/
theorem grounded_publishAdminKubeconfig (hlike : Like v cluster) (data : List UInt8)
    (sourceSecretName endpoint : String) (h : List Event) :
    Grounded Γ cfg key (fun h' r => (∃ t, h' = h ++ t) ∧ ∀ cluster', r = .ok cluster' → Like v cluster')
      (publishAdminKubeconfig Γ cluster data sourceSecretName endpoint) h := by
  have hfailed : ∀ (e : Err) (cluster' : VirtualCluster), Except.error e = Except.ok cluster' → Like v cluster' := by
    simp
  unfold publishAdminKubeconfig
  dsimp only
  refine grounded_api rfl fun r => ?_
  cases r with
  | error e =>
    dsimp only
    split_ifs
    · exact ⟨⟨_, rfl⟩, hfailed e⟩
    · refine grounded_api rfl fun r => ?_
      cases r with
      | error e => exact ⟨⟨_, List.append_assoc _ _ _⟩, hfailed e⟩
      | ok _ =>
        refine ⟨⟨_, List.append_assoc _ _ _⟩, fun cluster' hcluster' => ?_⟩
        cases hcluster'
        exact hlike.change rfl rfl
  | ok current =>
    refine grounded_api rfl fun r => ?_
    cases r with
    | error e => exact ⟨⟨_, List.append_assoc _ _ _⟩, hfailed e⟩
    | ok _ =>
      refine ⟨⟨_, List.append_assoc _ _ _⟩, fun cluster' hcluster' => ?_⟩
      cases hcluster'
      exact hlike.change rfl rfl

/-- The credential goes into the Secret of the VirtualCluster. -/
theorem grounded_credentialStage (hstage : Stage Γ key h v target instanceCurrent) (hlike : Like v cluster)
    (child : ChildObservation) :
    Grounded Γ cfg key Anything (credentialStage Γ cfg rt target foundationSummary instanceCurrent
      cluster child) h := by
  unfold credentialStage
  split_ifs
  · dsimp only
    split_ifs
    · refine grounded_persist hstage.began ?_ _
      exact hlike.change rfl rfl
    · refine grounded_bind (grounded_publishAdminKubeconfig hlike _ _ _ _) fun t r hr => ?_
      cases r with
      | error e => trivial
      | ok cluster' =>
        refine grounded_placementStage (hstage.append t) ?_ child
        exact (hr cluster' rfl).change rfl rfl
  · exact grounded_placementStage hstage hlike child

/-- Without an observation nothing is mirrored. -/
theorem grounded_observeChild (hstage : Stage Γ key h v target instanceCurrent) (hlike : Like v cluster)
    (hasObserver : Bool) :
    Grounded Γ cfg key Anything (observeChild Γ cfg rt target foundationSummary instanceCurrent cluster
      hasObserver) h := by
  unfold observeChild
  split_ifs
  · refine grounded_host fun r => ?_
    have hstage := hstage.append [event (.host (.observe cluster target.names.hostAPIAddresses)) r]
    cases r with
    | error e =>
      refine grounded_persist hstage.began ?_ _
      exact hlike.change rfl rfl
    | ok child =>
      refine grounded_credentialStage hstage ?_ child
      exact hlike.change rfl rfl
  · exact grounded_writeInstance hstage hlike _ _ _ _ (Or.inl ⟨rfl, rfl⟩)

/-- The observer decides whether there is one. -/
theorem grounded_selectObserver (hstage : Stage Γ key h v target instanceCurrent) (hlike : Like v cluster) :
    Grounded Γ cfg key Anything (selectObserver Γ cfg rt target foundationSummary instanceCurrent cluster) h := by
  unfold selectObserver
  split_ifs
  · refine grounded_host fun r => ?_
    have hstage := hstage.append [event (.host (.childObserverForCell target.cell)) r]
    cases r with
    | error e =>
      refine grounded_persist hstage.began ?_ _
      exact hlike.change rfl rfl
    | ok _ => exact grounded_observeChild hstage hlike _
  · exact grounded_observeChild hstage hlike _

/-- The quota of the host namespace goes into the status. -/
theorem Like.withQuota (hlike : Like v cluster) (quota : Option ResourceQuota) :
    Like v (cluster.withQuota rt target quota) := by
  unfold VirtualCluster.withQuota
  dsimp only
  split_ifs <;> exact hlike.change rfl rfl

/-- From the instance Work on, every write is grounded. -/
theorem grounded_instanceStage (hstage : Stage Γ key h v target instanceCurrent) (hlike : Like v cluster) :
    Grounded Γ cfg key Anything (instanceStage Γ cfg rt target foundationSummary instanceCurrent cluster) h := by
  have hlike : Like v (cluster.withInstance instanceCurrent) := hlike.change rfl rfl
  unfold instanceStage
  dsimp only
  split_ifs
  · refine grounded_persist hstage.began ?_ _
    exact hlike.change rfl rfl
  · refine grounded_host fun r => ?_
    have hstage := hstage.append [event (.host (.getResourceQuota target.resolved.hostNamespace "kubecell-workload")) r]
    cases r with
    | error e => exact grounded_selectObserver hstage (hlike.withQuota _)
    | ok quota => exact grounded_selectObserver hstage (hlike.withQuota _)
  · exact grounded_selectObserver hstage (hlike.withQuota _)

end Instance

/-! ## From the references to the Works -/

/-- So is every write from the foundation Work on, once that was read. -/
theorem grounded_foundationStage (hbasis : Basis Γ key h v target) (hlike : Like v cluster)
    (foundation : ManifestWork) :
    Grounded Γ cfg key Anything (foundationStage Γ cfg rt cluster target foundation) h := by
  have hbegan : Began key h v := Or.inl hbasis.live
  unfold foundationStage
  dsimp only
  split_ifs
  · refine grounded_persist hbegan ?_ _
    exact hlike.change rfl rfl
  · refine grounded_persist hbegan ?_ _
    exact hlike.change rfl rfl
  · obtain ⟨addresses, hnames⟩ := hbasis.names
    have hkey : (⟨target.managedCluster, target.names.instanceWork⟩ : NamespacedName) =
      v.instanceKey target.managedCluster := by
      rw [hnames]
      rfl
    rw [hkey]
    refine grounded_api rfl fun r => ?_
    have hbasis' := Basis.append hbasis [event (.api (.getWork (v.instanceKey target.managedCluster))) r]
    cases r with
    | error e =>
      dsimp only
      split_ifs with he
      · trivial
      · refine grounded_instanceStage ⟨hbasis', Or.inl ⟨e, by simpa using he, saw_last _ _ _⟩⟩ ?_
        exact hlike.change rfl rfl
    | ok instanceCurrent =>
      refine grounded_instanceStage ⟨hbasis', Or.inr (saw_last _ _ _)⟩ ?_
      exact hlike.change rfl rfl

/-- The foundation Work is rendered from the Cell and from what was resolved. -/
theorem grounded_writeFoundation (hbasis : Basis Γ key h v target) (hlike : Like v cluster) :
    Grounded Γ cfg key Anything (writeFoundation Γ cfg rt cluster target) h := by
  unfold writeFoundation
  dsimp only
  rw [hlike.foundation]
  refine grounded_bind (grounded_createOrUpdateWork fun t call hcall => .foundation
    (Basis.append hbasis t) hcall) fun t r _ => ?_
  have hbasis := Basis.append hbasis t
  cases r with
  | error e => trivial
  | ok _ =>
    refine grounded_api rfl fun r => ?_
    have hbasis := Basis.append hbasis
      [event (.api (.getWork (buildFoundationWork v target.resolved target.names target.managedCluster).metadata.key))
        r]
    cases r with
    | error e => exact grounded_persist (Or.inl hbasis.live) hlike _
    | ok foundation => exact grounded_foundationStage hbasis hlike foundation

/-- What a round has settled on before it looks for the addresses of the host. -/
theorem grounded_hostStage {cell : Cell} {resolved : ResolvedSnapshot}
    (hbasis : ∀ t addresses, Basis Γ key (h ++ t) v
      { cell := cell, resolved := resolved, names := v.renderNames addresses })
    (hlive : Live key h v) (hlike : Like v cluster) :
    Grounded Γ cfg key Anything (hostStage Γ cfg rt cluster cell resolved) h := by
  have haddress : ∀ t addresses, Grounded Γ cfg key Anything
    (addressStage Γ cfg rt cluster cell resolved addresses) (h ++ t) := by
    intro t addresses
    unfold addressStage
    split_ifs
    · refine grounded_persist (Or.inl (Live.append hlive t)) ?_ _
      exact hlike.change rfl rfl
    · rw [hlike.renderNames]
      exact grounded_writeFoundation (hbasis t addresses) hlike
  unfold hostStage
  split_ifs
  · refine grounded_host fun r => ?_
    cases r with
    | error e =>
      refine grounded_persist (Or.inl (Live.append hlive _)) ?_ _
      exact hlike.change rfl rfl
    | ok _ =>
      refine grounded_host fun r => ?_
      rw [List.append_assoc]
      cases r with
      | error e =>
        refine grounded_persist (Or.inl (Live.append hlive _)) ?_ _
        exact hlike.change rfl rfl
      | ok nodes => exact haddress _ _
  · have := haddress [] []
    rwa [List.append_nil] at this

/-- From the plan on, every write is grounded. -/
theorem grounded_planStage {cell : Cell} {virtualNodeClass : VirtualNodeClass} {resolved : ResolvedSnapshot}
    (hbasis : ∀ t addresses, Basis Γ key (h ++ t) v
      { cell := cell, resolved := resolved, names := v.renderNames addresses })
    (hlive : Live key h v) (hlike : Like v cluster) :
    Grounded Γ cfg key Anything (planStage Γ cfg rt cluster cell virtualNodeClass resolved) h := by
  unfold planStage
  dsimp only
  cases (evaluateVirtualClusterPlan Γ rt cell virtualNodeClass).decision with
  | rejected =>
    refine grounded_persist (Or.inl hlive) ?_ _
    exact hlike.change rfl rfl
  | unknown =>
    refine grounded_persist (Or.inl hlive) ?_ _
    exact hlike.change rfl rfl
  | accepted =>
    refine grounded_hostStage hbasis hlive ?_
    exact hlike.change rfl rfl

/-- The names and the snapshot that the Works are rendered from are computed here, if they are not stored. -/
theorem grounded_resolveStage {cell : Cell} {virtualNodeClass : VirtualNodeClass} (hlive : Live key h v)
    (hlike : Like v cluster) (hstored : cluster.status.resolved = v.status.resolved)
    (hcell : Saw h (.api (.getCell v.cellKey)) (.ok cell))
    (hclass : Saw h (.api (.getVirtualNodeClass v.spec.classRef.name)) (.ok virtualNodeClass)) :
    Grounded Γ cfg key Anything (resolveStage Γ cfg rt cluster cell virtualNodeClass) h := by
  unfold resolveStage
  cases hresolve : resolveVirtualCluster Γ cell virtualNodeClass with
  | error e =>
    refine grounded_persist (Or.inl hlive) ?_ _
    exact hlike.change rfl rfl
  | ok resolved =>
    dsimp only
    have hsnapshot : cluster.snapshot resolved = v.snapshot resolved := by
      rw [VirtualCluster.snapshot, hlike.names, VirtualCluster.snapshot]
    have hbasis : (v.status.resolved.hostNamespace = "" ∨ sameResolvedProvider v.status.resolved
      (v.snapshot resolved) = true) →
        ∀ t addresses, Basis Γ key (h ++ t) v
          { cell := cell, resolved := v.snapshot resolved, names := v.renderNames addresses } := by
      intro hsame t addresses
      refine Basis.append ?_ t
      exact ⟨hlive, hcell, ⟨virtualNodeClass, resolved, hclass, hresolve, rfl⟩, hsame, ⟨addresses, rfl⟩⟩
    have hvalidated : (cluster.validated rt).status.resolved = v.status.resolved := by
      simp only [VirtualCluster.validated, setCondition_resolved, hstored]
    unfold snapshotStage
    rw [hvalidated, hsnapshot]
    split_ifs with hempty hdrift
    · refine grounded_planStage (hbasis (Or.inl hempty)) hlive ?_
      exact hlike.change rfl rfl
    · refine grounded_persist (Or.inl hlive) ?_ _
      exact hlike.change rfl rfl
    · refine grounded_planStage (hbasis (Or.inr (by simpa using hdrift))) hlive ?_
      exact hlike.change rfl rfl

/-- The Cell and the class that a round renders from are those that it has read. -/
theorem grounded_referenceStage (hlive : Live key h v) : Grounded Γ cfg key Anything (referenceStage Γ cfg rt v) h := by
  unfold referenceStage
  dsimp only
  refine grounded_api rfl fun r => ?_
  cases r with
  | error e => trivial
  | ok cell =>
    refine grounded_api rfl fun r => ?_
    cases r with
    | error e => trivial
    | ok virtualNodeClass =>
      have hlive := Live.append (Live.append hlive [event (.api (.getCell v.cellKey)) (.ok cell)])
        [event (.api (.getVirtualNodeClass v.spec.classRef.name)) (.ok virtualNodeClass)]
      dsimp only
      split_ifs
      · refine grounded_persist (Or.inl hlive) ?_ _
        exact ⟨rfl, rfl⟩
      · refine grounded_resolveStage hlive ?_ rfl (Saw.append (saw_last _ _ _) _) (saw_last _ _ _)
        exact ⟨rfl, rfl⟩

end ContentAux

open ContentAux

/-- Every call of a round writes what it should. -/
theorem grounded_reconcile (Γ : Ctx) (cfg : Config) (rt : Runtime) (key : NamespacedName) :
    Grounded Γ cfg key (fun _ _ => True) (reconcile Γ cfg rt key) [] := by
  unfold reconcile
  refine grounded_api rfl fun r => ?_
  cases r with
  | error e => trivial
  | ok v =>
    dsimp only
    split_ifs with hdeleting hheld
    · by_cases hheld : v.held = true
      · exact grounded_reconcileDeletion (Or.inr (.read hdeleting hheld))
      · rw [reconcileDeletion, if_pos (by simpa [VirtualCluster.held] using hheld)]
        trivial
    · refine grounded_api rfl fun r => ?_
      cases r with
      | error e => trivial
      | ok v' =>
        exact grounded_referenceStage (.adopted (by simpa using hdeleting) (by simpa [VirtualCluster.held] using hheld))
    · exact grounded_referenceStage (.read (by simpa using hdeleting) (by simpa [VirtualCluster.held] using hheld))

end KubeCell
