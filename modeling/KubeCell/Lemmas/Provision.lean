import KubeCell.Lemmas.Walk

/-!
# Every call of a provisioning round is permitted

The walk through the parts of `reconcile` after the deletion branch, from the last to the first.
-/

namespace KubeCell

open Prog RoundAux WalkAux

namespace ProvisionAux

variable {Γ : Ctx} {cfg : Config} {rt : Runtime} {key : NamespacedName} {α : Type} {Q : List Event → α → Prop}
  {h : List Event}

/-! ## What is carried along -/

/-- The history has grown by quiet calls. -/
def Extends (h h' : List Event) : Prop := ∃ t, h' = h ++ t ∧ ∀ e ∈ t, quietCall e.1 = true

/-- No quiet call is made. -/
theorem Extends.refl (h : List Event) : Extends h h := ⟨[], (List.append_nil h).symm, fun _ he => nomatch he⟩

theorem Extends.snoc {h h' : List Event} (hext : Extends h h') (call : Call) (r : call.Res)
    (hquiet : quietCall call = true) :
    Extends h (h' ++ [event call r]) := by
  obtain ⟨t, rfl, ht⟩ := hext
  refine ⟨t ++ [event call r], List.append_assoc _ _ _, fun e he => ?_⟩
  rcases List.mem_append.mp he with he | he
  · exact ht e he
  · rw [List.mem_singleton.mp he]
    exact hquiet

/-- Quiet calls observe no child cluster. -/
theorem Extends.observations {h h' : List Event} (hext : Extends h h') : observations h' = observations h := by
  obtain ⟨t, rfl, ht⟩ := hext
  induction t using List.reverseRecOn with
  | nil => rw [List.append_nil]
  | append_singleton t e ih =>
    rw [← List.append_assoc, ← ih fun e' he' => ht e' (by simp [he'])]
    exact observations_quiet _ e.1 e.2 (ht e (by simp))

theorem Extends.unpersisted {h h' : List Event} (hext : Extends h h') (hnone : Unpersisted h) : Unpersisted h' := by
  obtain ⟨t, rfl, ht⟩ := hext
  intro o answer hsaw
  rcases List.mem_append.mp hsaw with hsaw | hsaw
  · exact hnone o answer hsaw
  · have := ht _ hsaw
    nomatch this

/-- The round works on `v` and carries it along as `cluster`, which differs in its status only; nothing has been
written to the status yet. -/
structure Carries (Γ : Ctx) (key : NamespacedName) (h : List Event) (v cluster : VirtualCluster) : Prop where
  live : Live key h v
  metadata : cluster.metadata = v.metadata
  spec : cluster.spec = v.spec
  snapshot : SnapshotFrom Γ v h cluster.status.resolved
  unpersisted : Unpersisted h

variable {v cluster : VirtualCluster} {h' : List Event}

/-- What a round carries along is not changed by quiet calls. -/
theorem Carries.extend (hc : Carries Γ key h v cluster) (hext : Extends h h') : Carries Γ key h' v cluster := by
  have hnone := hext.unpersisted hc.unpersisted
  obtain ⟨t, rfl, -⟩ := hext
  exact ⟨Live.append hc.live t, hc.metadata, hc.spec, SnapshotFrom.append hc.snapshot t, hnone⟩

/-- The status may change, as long as the snapshot stays. -/
theorem Carries.change (hc : Carries Γ key h v cluster) {cluster' : VirtualCluster}
    (hmetadata : cluster'.metadata = cluster.metadata) (hspec : cluster'.spec = cluster.spec)
    (hresolved : cluster'.status.resolved = cluster.status.resolved) :
    Carries Γ key h v cluster' :=
  ⟨hc.live, hmetadata.trans hc.metadata, hspec.trans hc.spec, by rw [hresolved]; exact hc.snapshot, hc.unpersisted⟩

/-- The derived names do not depend on the status. -/
theorem Carries.names (hc : Carries Γ key h v cluster) : cluster.names = v.names := by
  rw [VirtualCluster.names, hc.metadata, VirtualCluster.names]

/-- Nor do the ownership labels. -/
theorem Carries.ownedLabels (hc : Carries Γ key h v cluster) (resolved : ResolvedSnapshot) :
    cluster.ownedLabels resolved = v.ownedLabels resolved := by
  rw [VirtualCluster.ownedLabels, hc.metadata, hc.spec, VirtualCluster.ownedLabels]

@[simp] theorem setCondition_metadata (cluster : VirtualCluster) (rt : Runtime) (conditionType : String)
    (status : ConditionStatus) (reason message : String) :
    (cluster.setCondition rt conditionType status reason message).metadata = cluster.metadata := rfl

@[simp] theorem setCondition_spec (cluster : VirtualCluster) (rt : Runtime) (conditionType : String)
    (status : ConditionStatus) (reason message : String) :
    (cluster.setCondition rt conditionType status reason message).spec = cluster.spec := rfl

@[simp] theorem setCondition_resolved (cluster : VirtualCluster) (rt : Runtime) (conditionType : String)
    (status : ConditionStatus) (reason message : String) :
    (cluster.setCondition rt conditionType status reason message).status.resolved = cluster.status.resolved := rfl

@[simp] theorem setCondition_phase (cluster : VirtualCluster) (rt : Runtime) (conditionType : String)
    (status : ConditionStatus) (reason message : String) :
    (cluster.setCondition rt conditionType status reason message).status.phase = cluster.status.phase := rfl

@[simp] theorem setCondition_child (cluster : VirtualCluster) (rt : Runtime) (conditionType : String)
    (status : ConditionStatus) (reason message : String) :
    (cluster.setCondition rt conditionType status reason message).status.child = cluster.status.child := rfl

/-! ## The ends of a round -/

/-- A round may end with a phase other than Ready where no stale end is. -/
theorem Carries.exit_phase (hc : Carries Γ key h v cluster) (hphase : cluster.status.phase ≠ .ready)
    (hstale : ¬Stale Γ cfg rt v h) : Exit Γ cfg rt key h cluster.status :=
  .live hc.live hc.unpersisted hc.snapshot (fun hready => absurd hready hphase) fun hs => absurd hs hstale

/-- A round that has observed no ready child cluster may end with the phase it started with, where a
stale end is what that is. -/
theorem Carries.exit_kept (hc : Carries Γ key h v cluster) (hphase : cluster.status.phase = v.status.phase)
    (hobs : ∀ child ∈ observations h, child.allReady = false) (hstale : Stale Γ cfg rt v h ↔ v.status.phase = .ready) :
    Exit Γ cfg rt key h cluster.status := by
  refine .live hc.live hc.unpersisted hc.snapshot (fun hready => Or.inr (hstale.mpr (hphase ▸ hready))) fun hs =>
    ⟨hphase.trans (hstale.mp hs), ?_⟩
  rintro ⟨-, child, hmem, hall⟩
  simp [hobs child hmem] at hall

/-- What a round knows of the child cluster: what an earlier round knew, or what it has observed itself,
with both Works healthy. -/
inductive ChildFrom (key : NamespacedName) (h : List Event) (v : VirtualCluster)
    (child : ChildClusterObservation) : Prop where
  | kept : observations h = [] → child = v.status.child → ChildFrom key h v child
  | seen {observation : ChildObservation} : observations h = [observation] → child.allReady = observation.allReady →
      WorksHealthy key h → ChildFrom key h v child

theorem WorksHealthy.append (hhealthy : WorksHealthy key h) (t : List Event) : WorksHealthy key (h ++ t) := by
  obtain ⟨v, managedCluster, hlive, ⟨foundation, hfoundation, hf⟩, ⟨work, hwork, hw⟩⟩ := hhealthy
  exact ⟨v, managedCluster, Live.append hlive t, ⟨foundation, Saw.append hfoundation t, hf⟩,
    ⟨work, Saw.append hwork t, hw⟩⟩

/-- What the status says of the child comes from the same place after quiet calls. -/
theorem ChildFrom.extend {child : ChildClusterObservation} (hchild : ChildFrom key h v child) (hext : Extends h h') :
    ChildFrom key h' v child := by
  have hobs := hext.observations
  obtain ⟨t, rfl, -⟩ := hext
  cases hchild with
  | kept hnone heq => exact .kept (hobs.trans hnone) heq
  | seen hseen heq hhealthy => exact .seen (hobs.trans hseen) heq (WorksHealthy.append hhealthy t)

/-- A round that knows of the child cluster may end with the phase it started with, where a stale end is one with no
ready child cluster observed. -/
theorem Carries.exit_seen (hc : Carries Γ key h v cluster) (hphase : cluster.status.phase = v.status.phase)
    {child : ChildClusterObservation} (hchild : ChildFrom key h v child)
    (hstale : Stale Γ cfg rt v h ↔ v.status.phase = .ready ∧ ∀ child ∈ observations h, child.allReady = false) :
    Exit Γ cfg rt key h cluster.status := by
  cases hchild with
  | kept hnone _ =>
    refine hc.exit_kept hphase (by simp [hnone]) (hstale.trans ?_)
    simp [hnone]
  | @seen observation hseen _ hhealthy =>
    cases hall : observation.allReady with
    | true =>
      refine .live hc.live hc.unpersisted hc.snapshot
        (fun _ => Or.inl ⟨hhealthy, observation, by simp [hseen], hall⟩) fun hs => ?_
      have := (hstale.mp hs).2 observation (by simp [hseen])
      rw [hall] at this
      nomatch this
    | false =>
      refine hc.exit_kept hphase (by simp [hseen, hall]) (hstale.trans ?_)
      simp [hseen, hall]

/-- The phase that is decided. -/
theorem withPhase_phase (cluster : VirtualCluster) (rt : Runtime) :
    (cluster.withPhase rt).status.phase = if cluster.status.child.allReady then .ready else .provisioning := by
  unfold VirtualCluster.withPhase
  split_ifs <;> rfl

/-- Deciding the phase changes the phase and the conditions only. -/
theorem withPhase_frame (cluster : VirtualCluster) (rt : Runtime) :
    (cluster.withPhase rt).metadata = cluster.metadata ∧ (cluster.withPhase rt).spec = cluster.spec ∧
      (cluster.withPhase rt).status.resolved = cluster.status.resolved := by
  unfold VirtualCluster.withPhase
  split_ifs <;> exact ⟨rfl, rfl, rfl⟩

/-- A condition that is set in some cases leaves everything else. -/
theorem setConditionIf_frame (cluster : VirtualCluster) (holds : Bool) (rt : Runtime) (conditionType : String)
    (status : ConditionStatus) (reason message : String) :
    let changed := cluster.setConditionIf holds rt conditionType status reason message
    changed.metadata = cluster.metadata ∧ changed.spec = cluster.spec ∧
      changed.status.resolved = cluster.status.resolved ∧
      changed.status.phase = cluster.status.phase := by
  unfold VirtualCluster.setConditionIf
  dsimp only
  split_ifs <;> exact ⟨rfl, rfl, rfl, rfl⟩

/-- The last part, where a stale end is one that decides from the child cluster of an earlier round. -/
theorem safe_decidePhase (hc : Carries Γ key h v cluster) (hchild : ChildFrom key h v cluster.status.child)
    (hcut : exitHistory h = h) (hstale : Stale Γ cfg rt v h ↔ v.status.child.allReady = true ∧ observations h = [])
    (foundationSummary instanceSummary : WorkSummary) (hasObserver : Bool) :
    Safe Γ cfg rt key (fun _ _ => True) (decidePhase rt cluster foundationSummary instanceSummary hasObserver) h := by
  refine safe_persist hcut ?_
  generalize hdesired : ((((cluster.withPhase rt).setConditionIf foundationSummary.applied rt _ _ _
    _).setConditionIf _ rt _ _ _
    _).setConditionIf (!hasObserver) rt _ _ _ _) = desired
  have hresolved : desired.status.resolved = cluster.status.resolved := by
    rw [← hdesired, (setConditionIf_frame _ _ _ _ _ _ _).2.2.1, (setConditionIf_frame _ _ _ _ _ _ _).2.2.1,
      (setConditionIf_frame _ _ _ _ _ _ _).2.2.1, (withPhase_frame _ _).2.2]
  have hphase : desired.status.phase = if cluster.status.child.allReady then .ready else .provisioning := by
    rw [← hdesired, (setConditionIf_frame _ _ _ _ _ _ _).2.2.2, (setConditionIf_frame _ _ _ _ _ _ _).2.2.2,
      (setConditionIf_frame _ _ _ _ _ _ _).2.2.2, withPhase_phase]
  refine .live hc.live hc.unpersisted (hresolved ▸ hc.snapshot) (fun hready => ?_) fun hs => ?_
  · have hall : cluster.status.child.allReady = true := by
      by_contra hnot
      rw [hphase, if_neg hnot] at hready
      nomatch hready
    cases hchild with
    | kept hnone heq => exact Or.inr (hstale.mpr ⟨heq ▸ hall, hnone⟩)
    | @seen observation hseen heq hhealthy => exact Or.inl ⟨hhealthy, observation, by simp [hseen], heq ▸ hall⟩
  · obtain ⟨hall, hnone⟩ := hstale.mp hs
    cases hchild with
    | kept _ heq =>
      refine ⟨by rw [hphase, heq, if_pos hall], ?_⟩
      rintro ⟨-, child, hmem, -⟩
      simp [hnone] at hmem
    | seen hseen _ _ => simp [hnone] at hseen

/-! ## Writing the Works -/

/-- The gate of the host Works stays open after quiet calls. -/
theorem HostGate.extend {cell : Cell} (hgate : HostGate Γ rt key h v cell) (hext : Extends h h') :
    HostGate Γ rt key h' v cell := by
  obtain ⟨t, rfl, -⟩ := hext
  exact HostGate.append hgate t

/-- So does that of the instance Work. -/
theorem InstanceGate.extend {cell : Cell} (hgate : InstanceGate Γ rt key h v cell) (hext : Extends h h') :
    InstanceGate Γ rt key h' v cell := by
  obtain ⟨t, rfl, -⟩ := hext
  exact InstanceGate.append hgate t

/-- A Work of the VirtualCluster is labelled with its UID, and is stored under the name it is meant for. -/
theorem IsWorkOf.ownerUID {workKey : NamespacedName} {desired : ManifestWork} (hwork : IsWorkOf v workKey desired) :
    desired.metadata.ownerUID = v.metadata.uid := by
  obtain ⟨resolved, hmetadata⟩ := hwork
  rw [ObjectMeta.ownerUID, hmetadata]
  exact ownedHostLabels_uid _ _ _ _ _

@[inherit_doc IsWorkOf.ownerUID] theorem IsWorkOf.metadata_key {workKey : NamespacedName} {desired : ManifestWork}
    (hwork : IsWorkOf v workKey desired) : desired.metadata.key = workKey := by
  obtain ⟨resolved, hmetadata⟩ := hwork
  rw [hmetadata]
  rfl

/-- `createOrUpdateWork` writes the Work in a permitted way, and the write is the last thing it
does when it succeeds. -/
theorem safe_createOrUpdateWork {workKey : NamespacedName} {desired : ManifestWork} (hwork : IsWorkOf v workKey desired)
    (hwrite : ∀ h' call, Extends h h' → WorkWrite h' v desired call → Permitted Γ cfg rt key h' (.api call)) :
    Safe Γ cfg rt key
      (fun h' r => r = .ok () → Extends h h' ∧ Wrote h' desired ∧ ∃ h'' call answer,
        h' = h'' ++ [event (.api call) answer] ∧
        ∃ desired, call = .createWork desired ∨ call = .patchWork desired)
      (createOrUpdateWork desired) h := by
  unfold createOrUpdateWork
  dsimp only
  rw [safe_api]
  refine ⟨.read rfl, fun r => ?_⟩
  have hext := (Extends.refl h).snoc (.api (.getWork desired.metadata.key)) r rfl
  cases r with
  | error e =>
    dsimp only
    split_ifs
    · exact nofun
    · rw [safe_api]
      refine ⟨hwrite _ _ hext .create, fun r => ?_⟩
      have hext := hext.snoc (.api (.createWork desired)) r rfl
      cases r with
      | error e => exact nofun
      | ok stored => exact fun _ => ⟨hext, Or.inl ⟨stored, saw_last _ _ _⟩, _, _, _, rfl, desired, Or.inl rfl⟩
  | ok current =>
    dsimp only
    cases hvalid : validateWorkReference current (desired.metadata.labels.get labelVirtualClusterUID) with
    | error e => exact nofun
    | ok _ =>
      dsimp only
      split_ifs
      · exact nofun
      · have howner : current.metadata.ownerUID = v.metadata.uid := by
          rw [← IsWorkOf.ownerUID hwork]
          unfold validateWorkReference at hvalid
          split_ifs at hvalid with hsame
          exact not_not.mp hsame
        rw [safe_api]
        refine ⟨hwrite _ _ hext (.patch (saw_last _ _ _) howner), fun r => ?_⟩
        have hext := hext.snoc (.api (.patchWork desired)) r rfl
        cases r with
        | error e => exact nofun
        | ok stored => exact fun _ => ⟨hext, Or.inr ⟨stored, saw_last _ _ _⟩, _, _, _, rfl, desired, Or.inr rfl⟩

section Instance

variable {target : Target} {foundationSummary : WorkSummary} {instanceCurrent : ManifestWork}

/-- The instance Work is written where that is permitted, and the round ends. -/
theorem safe_writeInstance (hc : Carries Γ key h v cluster) (hphase : cluster.status.phase = v.status.phase)
    (hchild : ChildFrom key h v cluster.status.child) (hgate : InstanceGate Γ rt key h v target.cell)
    (hnames : target.names.instanceWork = v.names.instanceWork) (hcut : exitHistory h = h)
    (hstale : Stale Γ cfg rt v h ↔ v.status.child.allReady = true ∧ observations h = []) (hasObserver : Bool)
    (mirrored : List Manifest) (observedOK mirrorOK : Bool) :
    Safe Γ cfg rt key (fun _ _ => True)
      (writeInstance rt cluster target foundationSummary instanceCurrent hasObserver mirrored observedOK
        mirrorOK) h := by
  unfold writeInstance
  split_ifs with hwritten
  · generalize hdesired : buildInstanceWork cluster target.resolved target.names target.managedCluster
      mirrored = desired
    have hwork : IsWorkOf v (v.instanceKey target.managedCluster) desired := by
      refine ⟨target.resolved, ?_⟩
      rw [← hdesired, buildInstanceWork, workLabels, hc.ownedLabels, hnames]
      rfl
    dsimp only
    rw [Safe, guarded_bind]
    refine (safe_createOrUpdateWork hwork fun h' call hext hcall =>
      .instanceWork (InstanceGate.extend hgate hext) (hext.unpersisted hc.unpersisted) hwork hcall).mono
        (fun _ _ hp => hp) ?_
    rintro h₁ (e | ⟨⟩) hpost
    · trivial
    · obtain ⟨hext, -, h₂, call, answer, hlast, hcall⟩ := hpost rfl
      refine ⟨.read rfl, fun r => ?_⟩
      have hext' := hext.snoc (.api (.getWork desired.metadata.key)) r rfl
      have hobs : observations (h₁ ++ [event (.api (.getWork desired.metadata.key)) r]) = observations h₁ :=
        observations_quiet _ _ _ rfl
      cases r with
      | error e =>
        refine safe_persist (exitHistory_last _ _ rfl) ((hc.extend hext').exit_seen hphase (hchild.extend hext') ?_)
        rw [stale_append, hobs]
        rfl
      | ok refreshed =>
        have hc' : Carries Γ key _ v (cluster.withInstance refreshed) := (hc.extend hext').change rfl rfl rfl
        refine safe_decidePhase hc' (hchild.extend hext') (exitHistory_last _ _ rfl) ?_ _ _ _
        rw [stale_append, hobs]
        refine ⟨fun hs => ⟨hs.1, hs.2.1⟩, fun hs => ⟨hs.1, hs.2, ?_, h₂, call, answer, hlast, hcall⟩⟩
        rw [IsWorkOf.metadata_key hwork]
        rfl
  · exact safe_decidePhase hc hchild hcut hstale _ _ _

/-! ## Observation -/

/-- A call that only reads volumes of the host, or the child cluster. -/
def readsOnly : Call → Prop
  | .host .listIngresses | .host (.getService _ _) | .host (.getEndpoints _ _) | .host (.getPersistentVolumeClaim _ _)
  | .host (.getPersistentVolume _) => True
  | _ => False

/-- Such a call is quiet, writes no status, and is no stale end. -/
theorem readsOnly_quiet {call : Call} (hcall : readsOnly call) (r : call.Res) :
    quietCall call = true ∧ isStatusCall (event call r) = false ∧ ¬StaleAt Γ cfg rt v h (event call r) := by
  cases call with
  | api call => exact hcall.elim
  | host call =>
    cases call with
    | listIngresses | getService | getEndpoints | getPersistentVolumeClaim | getPersistentVolume => exact ⟨rfl, rfl, id⟩
    | _ => exact hcall.elim

/-- Nothing but reading, and then what comes after it. -/
theorem safe_reads {β : Type} {p : Action β} (hp : Neutral readsOnly p) {f : β → Action α} (hcut : exitHistory h = h)
    (hstale : ¬Stale Γ cfg rt v h)
    (hnext : ∀ h' b, Extends h h' → exitHistory h' = h' → ¬Stale Γ cfg rt v h' → Safe Γ cfg rt key Q (f b) h') :
    Safe Γ cfg rt key Q (p >>= f) h := by
  rw [Safe, guarded_bind]
  refine hp.guarded (J := fun h' => Extends h h' ∧ exitHistory h' = h' ∧ ¬Stale Γ cfg rt v h') ?_ ?_
    ⟨Extends.refl h, hcut, hstale⟩ fun h' b hJ => hnext h' b hJ.1 hJ.2.1 hJ.2.2
  · intro h' call _ hcall
    cases call with
    | api call => exact hcall.elim
    | host call => exact .host call
  · rintro h' call r ⟨hext, -, -⟩ hcall
    obtain ⟨hquiet, hstatus, hnot⟩ := readsOnly_quiet (Γ := Γ) (h := h') (v := v) hcall r
    exact ⟨hext.snoc call r hquiet, exitHistory_last _ _ hstatus, by rwa [stale_append]⟩

/-- Collecting the mirror only reads. -/
theorem neutral_mirror (cluster : VirtualCluster) (resolved : ResolvedSnapshot) (appsSuffix : String) :
    Neutral readsOnly (mirrorChildIngresses cluster resolved appsSuffix childClient) := by
  have hcall : ∀ call : HostCall, readsOnly (.host call) → Neutral readsOnly (host call) := fun call hreads =>
    ⟨hreads, fun _ => trivial⟩
  have honce : ∀ {β : Type} (cache : GoMap β) (cacheKey : String) (read : Action (Except Err β)),
    Neutral readsOnly read →
      Neutral readsOnly (readOnce cache cacheKey read) := by
    intro β cache cacheKey read hread
    unfold readOnce
    split
    · trivial
    · exact hread
  have hpath : ∀ ingress state path, Neutral readsOnly (collectPath childClient ingress state path) := by
    intro ingress state path
    refine (honce _ _ _ (hcall (.getService ingress.metadata.ns path.2.name) trivial)).bind ?_
    rintro (e | service)
    · trivial
    · refine (honce _ _ _ (hcall (.getEndpoints ingress.metadata.ns path.2.name) trivial)).bind ?_
      rintro (e | endpoints) <;> trivial
  unfold mirrorChildIngresses
  split_ifs
  · trivial
  · refine (hcall .listIngresses trivial).bind ?_
    rintro (e | items)
    · trivial
    · exact Neutral.bind (Neutral.foldlM (fun state ingress => Neutral.foldlM (hpath ingress) _ _) _ _)
        fun collected => trivial

/-- Projecting the placements only reads. -/
theorem neutral_placements (rt : Runtime) (ns k3kClusterName : String) (pods : List Pod) :
    Neutral readsOnly (projectPlacements rt volumeReader ns k3kClusterName pods) := by
  have hvolume : ∀ failureLayer placement volume,
    Neutral readsOnly (placeVolume volumeReader ns failureLayer placement volume) := by
    intro failureLayer placement volume
    unfold placeVolume
    split
    · trivial
    · refine ⟨trivial, fun r => ?_⟩
      rcases r with _ | _ | claim
      · trivial
      · trivial
      · change Neutral readsOnly (if claim.volumeName = "" then _ else _)
        split_ifs
        · trivial
        · refine ⟨trivial, fun r => ?_⟩
          rcases r with _ | _ | pv
          · trivial
          · trivial
          · dsimp only [Prog.bind]
            cases pvLocalNode pv <;> trivial
  exact Neutral.bind (Neutral.mapM (fun pod => Neutral.foldlM (hvolume _) _ _) _) fun placements => trivial

/-- Once the child cluster was observed, an end that is not stale is not one without an observation either. -/
theorem stale_iff_of_seen {observation : ChildObservation} (hseen : observations h = [observation])
    (hnot : ¬Stale Γ cfg rt v h) :
    Stale Γ cfg rt v h ↔ v.status.child.allReady = true ∧ observations h = [] := by
  simp [hnot, hseen]

/-- What the parts after the observation start from. -/
structure Observed (Γ : Ctx) (cfg : Config) (rt : Runtime) (key : NamespacedName) (h : List Event)
    (v cluster : VirtualCluster) (target : Target) (child : ChildObservation) : Prop where
  carries : Carries Γ key h v cluster
  phase : cluster.status.phase = v.status.phase
  seen : observations h = [child]
  ready : cluster.status.child.allReady = child.allReady
  healthy : WorksHealthy key h
  gate : InstanceGate Γ rt key h v target.cell
  names : target.names.instanceWork = v.names.instanceWork
  cut : exitHistory h = h

variable {child : ChildObservation}

/-- What was observed is what the status says of the child. -/
theorem Observed.childFrom (ho : Observed Γ cfg rt key h v cluster target child) :
    ChildFrom key h v cluster.status.child :=
  .seen ho.seen ho.ready ho.healthy

/-- Quiet calls leave what was observed. -/
theorem Observed.extend (ho : Observed Γ cfg rt key h v cluster target child) (hext : Extends h h')
    (hcut : exitHistory h' = h') :
    Observed Γ cfg rt key h' v cluster target child := by
  have hhealthy : WorksHealthy key h' := by
    obtain ⟨t, rfl, -⟩ := hext
    exact WorksHealthy.append ho.healthy t
  exact ⟨ho.carries.extend hext, ho.phase, hext.observations.trans ho.seen, ho.ready, hhealthy,
    InstanceGate.extend ho.gate hext,
    ho.names, hcut⟩

/-- One quiet call leaves what was observed. -/
theorem Observed.step (ho : Observed Γ cfg rt key h v cluster target child) (call : Call) (r : call.Res)
    (hquiet : quietCall call = true) (hstatus : isStatusCall (event call r) = false) :
    Observed Γ cfg rt key (h ++ [event call r]) v cluster target child :=
  ho.extend ((Extends.refl h).snoc call r hquiet) (exitHistory_last _ _ hstatus)

/-- The status may change, as long as the phase, the child cluster and the snapshot stay. -/
theorem Observed.change (ho : Observed Γ cfg rt key h v cluster target child) {cluster' : VirtualCluster}
    (hmetadata : cluster'.metadata = cluster.metadata) (hspec : cluster'.spec = cluster.spec)
    (hresolved : cluster'.status.resolved = cluster.status.resolved)
    (hphase : cluster'.status.phase = cluster.status.phase) (hchild : cluster'.status.child = cluster.status.child) :
    Observed Γ cfg rt key h v cluster' target child :=
  ⟨ho.carries.change hmetadata hspec hresolved, hphase.trans ho.phase, ho.seen, hchild ▸ ho.ready, ho.healthy,
    ho.gate, ho.names,
    ho.cut⟩

/-- The mirror, and the rest. -/
theorem safe_mirrorStage (ho : Observed Γ cfg rt key h v cluster target child) (hnot : ¬Stale Γ cfg rt v h) :
    Safe Γ cfg rt key (fun _ _ => True)
      (mirrorStage cfg rt target foundationSummary instanceCurrent cluster child) h := by
  have hwrite : ∀ {h'} (mirrored : List Manifest) (mirrorOK : Bool), Observed Γ cfg rt key h' v cluster target child →
      ¬Stale Γ cfg rt v h' → Safe Γ cfg rt key (fun _ _ => True)
        (writeInstance rt cluster target foundationSummary instanceCurrent true mirrored true mirrorOK) h' :=
    fun mirrored mirrorOK ho' hnot' => safe_writeInstance ho'.carries ho'.phase ho'.childFrom ho'.gate ho'.names ho'.cut
      (stale_iff_of_seen ho'.seen hnot') true mirrored true mirrorOK
  unfold mirrorStage
  split_ifs
  · refine safe_reads (neutral_mirror _ _ _) ho.cut hnot ?_
    rintro h' (e | fetched) hext hcut hnot'
    · exact hwrite [] false (ho.extend hext hcut) hnot'
    · exact hwrite fetched true (ho.extend hext hcut) hnot'
  · exact hwrite [] false ho hnot

/-- The placements, and the rest. -/
theorem safe_placementStage (ho : Observed Γ cfg rt key h v cluster target child) (hnot : ¬Stale Γ cfg rt v h) :
    Safe Γ cfg rt key (fun _ _ => True)
      (placementStage cfg rt target foundationSummary instanceCurrent cluster child) h := by
  unfold placementStage
  split_ifs
  · rw [safe_host]
    intro r
    have hext := (Extends.refl h).snoc (.host (.listPods target.resolved.hostNamespace)) r rfl
    cases r with
    | error e =>
      have hc : Carries Γ key _ v (cluster.setCondition rt "HostReadReady" .false "PlacementReadFailed" e.message) :=
        (ho.carries.extend hext).change rfl rfl rfl
      refine safe_persist (exitHistory_last _ _ rfl) (hc.exit_seen ho.phase (ho.childFrom.extend hext) ?_)
      rw [stale_append, observations_quiet _ _ _ rfl]
      rfl
    | ok pods =>
      have hnone : ¬Stale Γ cfg rt v (h ++ [event (.host (.listPods target.resolved.hostNamespace)) (.ok pods)]) := by
        rw [stale_append]
        exact id
      refine safe_reads (neutral_placements _ _ _ _) (exitHistory_last _ _ rfl) hnone ?_
      intro h' placements hext' hcut hnot'
      have ho' := (ho.step (.host (.listPods target.resolved.hostNamespace)) (.ok pods) rfl rfl).extend hext' hcut
      exact safe_mirrorStage (ho'.change rfl rfl rfl rfl rfl) hnot'
  · exact safe_mirrorStage ho hnot

/-- The Secret of a VirtualCluster does not depend on its status. -/
theorem Carries.adminSecret (hc : Carries Γ key h v cluster) (data : List UInt8) :
    adminSecret cluster data = adminSecret v data := by
  rw [KubeCell.adminSecret, hc.names, hc.metadata, KubeCell.adminSecret]

/-- `publishAdminKubeconfig` writes the Secret, and the write is the last thing it does when it succeeds. -/
theorem safe_publishAdminKubeconfig (ho : Observed Γ cfg rt key h v cluster target child)
    (hpublished : child.published Γ true) :
    Safe Γ cfg rt key
      (fun h' r => ∀ cluster', r = .ok cluster' → Observed Γ cfg rt key h' v cluster' target child ∧
        ¬Stale Γ cfg rt v h')
      (publishAdminKubeconfig Γ cluster child.kubeconfig child.sourceSecretName child.endpoint) h := by
  unfold publishAdminKubeconfig
  dsimp only
  rw [ho.carries.adminSecret, safe_api]
  refine ⟨.read rfl, fun r => ?_⟩
  have ho := ho.step (.api (.getSecret (adminSecret v child.kubeconfig).metadata.key)) r rfl rfl
  have hcredential : ∀ {h'} (observed : Nat), Observed Γ cfg rt key h' v cluster target child →
      Observed Γ cfg rt key h' v (cluster.withCredential Γ child.sourceSecretName child.endpoint
        observed) target child :=
    fun _ ho' => ho'.change rfl rfl rfl rfl rfl
  cases r with
  | error e =>
    dsimp only
    split_ifs
    · exact fun _ hok => nomatch hok
    · rw [safe_api]
      refine ⟨.createSecret ho.carries.live, fun r => ?_⟩
      cases r with
      | error e => exact fun _ hok => nomatch hok
      | ok stored =>
        rintro _ ⟨⟩
        refine ⟨hcredential 0 (ho.step _ _ rfl rfl), ?_⟩
        rw [stale_append]
        exact id
  | ok current =>
    dsimp only
    rw [safe_api]
    refine ⟨.updateSecret ho.carries.live (saw_last _ _ _) ⟨child, by simp [ho.seen], hpublished⟩, fun r => ?_⟩
    cases r with
    | error e => exact fun _ hok => nomatch hok
    | ok stored =>
      rintro _ ⟨⟩
      refine ⟨hcredential _ (ho.step _ _ rfl rfl), ?_⟩
      rw [stale_append]
      exact id

/-- The credential, and the rest; a stale end here is one with an endpoint that is not valid. -/
theorem safe_credentialStage (ho : Observed Γ cfg rt key h v cluster target child)
    (hstale : Stale Γ cfg rt v h ↔ v.status.phase = .ready ∧ child.allReady = false ∧ child.published Γ false) :
    Safe Γ cfg rt key (fun _ _ => True)
      (credentialStage Γ cfg rt target foundationSummary instanceCurrent cluster child) h := by
  unfold credentialStage
  split_ifs with hendpoint
  · dsimp only
    split_ifs with hhostname
    · have hc : Carries Γ key h v (cluster.setCondition rt "Credential" .false "CredentialInvalid"
        "Child endpoint is not a valid URL") :=
        ho.carries.change rfl rfl rfl
      refine safe_persist ho.cut (hc.exit_seen ho.phase ho.childFrom ?_)
      have hpublished : child.published Γ false := ⟨hendpoint.1, hendpoint.2, by simpa using hhostname⟩
      simp [hstale, hpublished, ho.seen]
    · have hpublished : child.published Γ true := ⟨hendpoint.1, hendpoint.2, by simpa using hhostname⟩
      rw [Safe, guarded_bind]
      refine (safe_publishAdminKubeconfig ho hpublished).mono (fun _ _ hp => hp) ?_
      rintro h' (e | cluster') hpost
      · trivial
      · obtain ⟨ho', hnot⟩ := hpost cluster' rfl
        exact safe_placementStage (ho'.change rfl rfl rfl rfl rfl) hnot
  · refine safe_placementStage ho ?_
    rw [hstale]
    rintro ⟨-, -, hport, hne, -⟩
    exact hendpoint ⟨hport, hne⟩

/-- What the parts before the observation start from. -/
structure Unobserved (Γ : Ctx) (key : NamespacedName) (h : List Event) (v cluster : VirtualCluster) : Prop where
  carries : Carries Γ key h v cluster
  phase : cluster.status.phase = v.status.phase
  child : cluster.status.child = v.status.child
  none : observations h = []

/-- Quiet calls observe nothing. -/
theorem Unobserved.extend (hu : Unobserved Γ key h v cluster) (hext : Extends h h') :
    Unobserved Γ key h' v cluster :=
  ⟨hu.carries.extend hext, hu.phase, hu.child, hext.observations.trans hu.none⟩

/-- One quiet call observes nothing. -/
theorem Unobserved.step (hu : Unobserved Γ key h v cluster) (call : Call) (r : call.Res)
    (hquiet : quietCall call = true) :
    Unobserved Γ key (h ++ [event call r]) v cluster :=
  hu.extend ((Extends.refl h).snoc call r hquiet)

/-- The status may change, as long as the phase, the child cluster and the snapshot stay. -/
theorem Unobserved.change (hu : Unobserved Γ key h v cluster) {cluster' : VirtualCluster}
    (hmetadata : cluster'.metadata = cluster.metadata) (hspec : cluster'.spec = cluster.spec)
    (hresolved : cluster'.status.resolved = cluster.status.resolved)
    (hphase : cluster'.status.phase = cluster.status.phase) (hchild : cluster'.status.child = cluster.status.child) :
    Unobserved Γ key h v cluster' :=
  ⟨hu.carries.change hmetadata hspec hresolved, hphase.trans hu.phase, hchild.trans hu.child, hu.none⟩

/-- A round without an observation may end with the phase it started with, where that is a stale end. -/
theorem Unobserved.exit_kept (hu : Unobserved Γ key h v cluster)
    (hstale : Stale Γ cfg rt v h ↔ v.status.phase = .ready) :
    Exit Γ cfg rt key h cluster.status :=
  hu.carries.exit_kept hu.phase (by simp [hu.none]) hstale

/-- What was read of the instance Work, if it is applied. -/
def InstanceRead (h : List Event) (v : VirtualCluster) (managedCluster : String)
    (instanceCurrent : ManifestWork) : Prop :=
  isApplied instanceCurrent = true → Saw h (.api (.getWork (v.instanceKey managedCluster))) (.ok instanceCurrent) ∧
    (summarizeWork instanceCurrent).failed = false

theorem InstanceRead.append {managedCluster : String} (hread : InstanceRead h v managedCluster instanceCurrent)
    (t : List Event) :
    InstanceRead (h ++ t) v managedCluster instanceCurrent :=
  fun happlied => ⟨Saw.append (hread happlied).1 t, (hread happlied).2⟩

/-- The observation, and the rest; without an observation, a stale end is one that decides from the child
cluster of an earlier round. -/
theorem safe_observeChild (hu : Unobserved Γ key h v cluster) (hgate : InstanceGate Γ rt key h v target.cell)
    (hnames : target.names.instanceWork = v.names.instanceWork)
    (hread : InstanceRead h v target.managedCluster instanceCurrent) (hcut : exitHistory h = h)
    (hstale : Stale Γ cfg rt v h ↔ v.status.child.allReady = true ∧ observations h = []) (hasObserver : Bool) :
    Safe Γ cfg rt key (fun _ _ => True)
      (observeChild Γ cfg rt target foundationSummary instanceCurrent cluster hasObserver) h := by
  unfold observeChild
  split_ifs with hobserve
  · rw [safe_host]
    intro r
    have happend : ∀ r, Carries Γ key
      (h ++ [event (.host (.observe cluster target.names.hostAPIAddresses)) r]) v cluster := by
      intro r
      refine ⟨Live.append hu.carries.live _, hu.carries.metadata, hu.carries.spec,
        SnapshotFrom.append hu.carries.snapshot _, ?_⟩
      intro o answer hsaw
      rcases List.mem_append.mp hsaw with hsaw | hsaw
      · exact hu.carries.unpersisted o answer hsaw
      · nomatch congrArg Sigma.fst (List.mem_singleton.mp hsaw)
    cases r with
    | error e =>
      have hc : Carries Γ key _ v (cluster.unobserved rt e) := (happend (.error e)).change rfl rfl rfl
      refine safe_persist (exitHistory_last _ _ rfl) (hc.exit_phase ?_ (by rw [stale_append]; exact id))
      unfold VirtualCluster.unobserved
      dsimp only
      split_ifs with hphase
      · nofun
      · exact hphase
    | ok child =>
      obtain ⟨hsaw, hfailed⟩ := hread hobserve.1
      have hhealthy : WorksHealthy key
        (h ++ [event (.host (.observe cluster target.names.hostAPIAddresses)) (.ok child)]) :=
        ⟨v, target.managedCluster, (happend _).live, (InstanceGate.append hgate _).foundation, instanceCurrent,
          Saw.append hsaw _,
          by simp [ManifestWork.healthy, hobserve.1, hfailed]⟩
      have hseen : observations (h ++
        [event (.host (.observe cluster target.names.hostAPIAddresses)) (.ok child)]) = [child] := by
        rw [observations_append, hu.none]
        rfl
      have ho : Observed Γ cfg rt key _ v (cluster.observed rt child) target child :=
        ⟨(happend (.ok child)).change rfl rfl rfl, hu.phase, hseen, rfl, hhealthy, InstanceGate.append hgate _, hnames,
          exitHistory_last _ _ rfl⟩
      exact safe_credentialStage ho (by rw [stale_append]; rfl)
  · exact safe_writeInstance hu.carries hu.phase
      (.kept hu.none hu.child) hgate hnames hcut hstale hasObserver [] false false

/-- The choice of the observer, and the rest. -/
theorem safe_selectObserver (hu : Unobserved Γ key h v cluster) (hgate : InstanceGate Γ rt key h v target.cell)
    (hnames : target.names.instanceWork = v.names.instanceWork)
    (hread : InstanceRead h v target.managedCluster instanceCurrent) (hcut : exitHistory h = h)
    (hstale : Stale Γ cfg rt v h ↔ v.status.child.allReady = true ∧ observations h = []) :
    Safe Γ cfg rt key (fun _ _ => True)
      (selectObserver Γ cfg rt target foundationSummary instanceCurrent cluster) h := by
  unfold selectObserver
  split_ifs
  · rw [safe_host]
    intro r
    have hu' := hu.step (.host (.childObserverForCell target.cell)) r rfl
    cases r with
    | error e =>
      have hu'' : Unobserved Γ key _ v
        (cluster.setCondition rt "HostReadReady" .false "HostReaderUnavailable" e.message) :=
        hu'.change rfl rfl rfl rfl rfl
      exact safe_persist (exitHistory_last _ _ rfl) (hu''.exit_kept (by rw [stale_append]; rfl))
    | ok _ =>
      refine safe_observeChild hu' (InstanceGate.append hgate _) hnames (InstanceRead.append hread _)
        (exitHistory_last _ _ rfl) ?_ true
      rw [stale_append, observations_quiet _ _ _ rfl]
      rfl
  · exact safe_observeChild hu hgate hnames hread hcut hstale _

/-- Taking over the quota changes neither phase, child cluster nor snapshot. -/
theorem withQuota_frame (rt : Runtime) (target : Target) (cluster : VirtualCluster) (quota : Option ResourceQuota) :
    let changed := cluster.withQuota rt target quota
    changed.metadata = cluster.metadata ∧ changed.spec = cluster.spec ∧
      changed.status.resolved = cluster.status.resolved ∧
      changed.status.phase = cluster.status.phase ∧ changed.status.child = cluster.status.child := by
  unfold VirtualCluster.withQuota
  dsimp only
  split_ifs <;> exact ⟨rfl, rfl, rfl, rfl, rfl⟩

/-- The instance Work was read, and the rest. -/
theorem safe_instanceStage (hu : Unobserved Γ key h v cluster) (hcut : exitHistory h = h)
    (hnames : target.names.instanceWork = v.names.instanceWork)
    (hgate : (summarizeWork instanceCurrent).failed = false → InstanceGate Γ rt key h v target.cell)
    (hread : (summarizeWork instanceCurrent).failed = false → InstanceRead h v target.managedCluster instanceCurrent)
    (hnot : (summarizeWork instanceCurrent).failed = true → ¬Stale Γ cfg rt v h)
    (hreader : cfg.hasHostReaderFactory = true) :
    Safe Γ cfg rt key (fun _ _ => True)
      (instanceStage Γ cfg rt target foundationSummary instanceCurrent cluster) h := by
  unfold instanceStage
  dsimp only
  split_ifs with hfailed
  · have hc : Carries Γ key h v ({ cluster.withInstance instanceCurrent with status.phase := .degraded }.setCondition rt
        "InstanceReady" .false "WorkFailed"
        (boundedWorkMessage (summarizeWork instanceCurrent).message "Instance ManifestWork is degraded")) :=
      hu.carries.change rfl rfl rfl
    exact safe_persist hcut (hc.exit_phase nofun (hnot hfailed))
  · have hok : (summarizeWork instanceCurrent).failed = false := by simpa using hfailed
    rw [safe_host]
    intro r
    have hnext : ∀ quota, Safe Γ cfg rt key (fun _ _ => True)
        (selectObserver Γ cfg rt target foundationSummary instanceCurrent
          ((cluster.withInstance instanceCurrent).withQuota rt target quota))
        (h ++ [event (.host (.getResourceQuota target.resolved.hostNamespace "kubecell-workload")) r]) := by
      intro quota
      obtain ⟨hmetadata, hspec, hresolved, hphase, hchild⟩ := withQuota_frame rt target
        (cluster.withInstance instanceCurrent) quota
      have hu' := (hu.step (.host (.getResourceQuota target.resolved.hostNamespace "kubecell-workload")) r rfl).change
        hmetadata hspec hresolved hphase hchild
      refine safe_selectObserver hu' (InstanceGate.append (hgate hok) _) hnames (InstanceRead.append (hread hok) _)
        (exitHistory_last _ _ rfl) ?_
      rw [stale_append, observations_quiet _ _ _ rfl]
      rfl
    cases r <;> exact hnext _

end Instance

/-! ## The foundation Work -/

/-- A Work that was not found is neither applied nor degraded. -/
theorem emptyWork_conditions : isApplied emptyWork = false ∧ (summarizeWork emptyWork).failed = false := ⟨rfl, rfl⟩

/-- The foundation Work was read back, and the rest. -/
theorem safe_foundationStage {target : Target} {foundation desired : ManifestWork} (hu : Unobserved Γ key h v cluster)
    (hgate : HostGate Γ rt key h v target.cell) (hnames : target.names.instanceWork = v.names.instanceWork)
    (hreader : cfg.hasHostReaderFactory = true) (hwork : IsWorkOf v (v.foundationKey target.managedCluster) desired)
    (hwrote : Wrote h desired) :
    Safe Γ cfg rt key (fun _ _ => True) (foundationStage Γ cfg rt cluster target foundation)
      (h ++ [event (.api (.getWork (v.foundationKey target.managedCluster))) (.ok foundation)]) := by
  generalize hlast : h ++ [event (.api (.getWork (v.foundationKey target.managedCluster))) (.ok foundation)] = h₁
  have hu₁ : Unobserved Γ key h₁ v
      { cluster with status.workRefs.foundation := applyWorkStatus (workReference foundation) foundation } :=
    hlast ▸ (hu.step (.api (.getWork (v.foundationKey target.managedCluster))) (.ok foundation) rfl).change
      rfl rfl rfl rfl rfl
  have hgate₁ : HostGate Γ rt key h₁ v target.cell := hlast ▸ HostGate.append hgate _
  have hwrote₁ : Wrote h₁ desired := hlast ▸ Wrote.append hwrote _
  have hsaw₁ : Saw h₁ (.api (.getWork (v.foundationKey target.managedCluster))) (.ok foundation) :=
    hlast ▸ saw_last _ _ _
  have hcut₁ : exitHistory h₁ = h₁ := hlast ▸ exitHistory_last _ _ rfl
  have hnot₁ : ¬Stale Γ cfg rt v h₁ := by
    rw [← hlast, stale_append]
    rintro ⟨-, -, hname, -⟩
    exact foundationWork_ne_instanceWork v hname
  unfold foundationStage
  dsimp only
  split_ifs with hfailed happlied
  · refine safe_persist hcut₁ (Carries.exit_phase (hu₁.carries.change rfl rfl rfl) nofun hnot₁)
  · refine safe_persist hcut₁ (Carries.exit_phase (hu₁.carries.change rfl rfl rfl) nofun hnot₁)
  · have hhealthy : foundation.healthy = true := by
      have happlied : (summarizeWork foundation).applied = true := by simpa using happlied
      simp [ManifestWork.healthy, isApplied_of_summary happlied, hfailed]
    have hkey : (⟨target.managedCluster, target.names.instanceWork⟩ : NamespacedName) =
      v.instanceKey target.managedCluster := by
      rw [hnames, VirtualCluster.instanceKey]
    rw [hkey, safe_api]
    refine ⟨.read rfl, fun r => ?_⟩
    have hu₂ := hu₁.step (.api (.getWork (v.instanceKey target.managedCluster))) r rfl
    have hfoundation : ∃ work, Saw (h₁ ++ [event (.api (.getWork (v.instanceKey target.managedCluster))) r])
        (.api (.getWork (v.foundationKey target.managedCluster))) (.ok work) ∧ work.healthy = true :=
      ⟨foundation, Saw.append hsaw₁ _, hhealthy⟩
    cases r with
    | error e =>
      dsimp only
      split_ifs with he
      · trivial
      · refine safe_instanceStage hu₂ (exitHistory_last _ _ rfl) hnames (fun _ => ?_)
          (fun _ happlied => ?_) nofun hreader
        · exact ⟨HostGate.append hgate₁ _, ⟨desired, hwork, Wrote.append hwrote₁ _⟩, hfoundation,
            Or.inl ⟨e, by simpa using he, saw_last _ _ _⟩⟩
        · rw [emptyWork_conditions.1] at happlied
          nomatch happlied
    | ok instanceCurrent =>
      refine safe_instanceStage hu₂ (exitHistory_last _ _ rfl) hnames (fun hok => ?_)
        (fun hok _ => ⟨saw_last _ _ _, hok⟩) (fun _ => ?_) hreader
      · exact ⟨HostGate.append hgate₁ _, ⟨desired, hwork, Wrote.append hwrote₁ _⟩, hfoundation,
          Or.inr ⟨instanceCurrent, saw_last _ _ _, hok⟩⟩
      · rw [stale_append, ← hlast]
        rintro ⟨-, -, -, h', call, answer, heq, desired', hcall⟩
        have hcalls := congrArg Sigma.fst (List.append_singleton_inj.mp heq).2
        rcases hcall with rfl | rfl <;> nomatch hcalls

/-- The foundation Work is written, and the rest. -/
theorem safe_writeFoundation {target : Target} (hu : Unobserved Γ key h v cluster)
    (hgate : HostGate Γ rt key h v target.cell) (hreader : cfg.hasHostReaderFactory = true)
    (hname : target.names.foundationWork = v.names.foundationWork)
    (hnames : target.names.instanceWork = v.names.instanceWork) :
    Safe Γ cfg rt key (fun _ _ => True) (writeFoundation Γ cfg rt cluster target) h := by
  unfold writeFoundation
  generalize hdesired : buildFoundationWork cluster target.resolved target.names target.managedCluster = desired
  have hwork : IsWorkOf v (v.foundationKey target.managedCluster) desired := by
    refine ⟨target.resolved, ?_⟩
    rw [← hdesired, buildFoundationWork, workLabels, hu.carries.ownedLabels, hname]
    rfl
  dsimp only
  rw [Safe, guarded_bind]
  refine (safe_createOrUpdateWork hwork fun h' call hext hcall =>
    .foundation (HostGate.extend hgate hext) (hext.unpersisted hu.carries.unpersisted) hwork hcall).mono
      (fun _ _ hp => hp) ?_
  rintro h₁ (e | ⟨⟩) hpost
  · trivial
  · obtain ⟨hext, hwrote, -⟩ := hpost rfl
    dsimp only
    rw [IsWorkOf.metadata_key hwork]
    refine ⟨.read rfl, fun r => ?_⟩
    cases r with
    | error e =>
      have hu₁ := (hu.extend hext).step (.api (.getWork (v.foundationKey target.managedCluster))) (.error e) rfl
      refine safe_persist (exitHistory_last _ _ rfl) (hu₁.exit_kept ?_)
      have hnone : observations h₁ = [] := (hu.extend hext).none
      rw [stale_append]
      simp [StaleAt, event, hnone]
    | ok foundation =>
      exact safe_foundationStage (hu.extend hext) (HostGate.extend hgate hext) hnames hreader hwork hwrote

/-! ## The references -/

/-- The host must have an address, and the rest. -/
theorem safe_addressStage {cell : Cell} {resolved : ResolvedSnapshot} {addresses : List String}
    (hu : Unobserved Γ key h v cluster) (hcut : exitHistory h = h)
    (hstale : addresses = [] → (Stale Γ cfg rt v h ↔ v.status.phase = .ready))
    (hgate : addresses ≠ [] → HostGate Γ rt key h v cell)
    (hreader : addresses ≠ [] → cfg.hasHostReaderFactory = true) :
    Safe Γ cfg rt key (fun _ _ => True) (addressStage Γ cfg rt cluster cell resolved addresses) h := by
  unfold addressStage
  split_ifs with hempty
  · have hu' : Unobserved Γ key h v (cluster.setCondition rt "HostReadReady" .false "HostAddressNotFound"
        "no Ready Host node with an InternalIP was observed") := hu.change rfl rfl rfl rfl rfl
    exact safe_persist hcut (hu'.exit_kept (hstale hempty))
  · refine safe_writeFoundation hu (hgate hempty) (hreader hempty) ?_ ?_
    · rw [← hu.carries.names]
      rfl
    · rw [← hu.carries.names]
      rfl

/-- The nodes of the host are read, and the rest. -/
theorem safe_hostStage {cell : Cell} {resolved : ResolvedSnapshot} (hu : Unobserved Γ key h v cluster)
    (hgate : PlanGate Γ rt key h v cell) (hcut : exitHistory h = h)
    (hstale : cfg.hasHostReaderFactory = false → (Stale Γ cfg rt v h ↔ v.status.phase = .ready)) :
    Safe Γ cfg rt key (fun _ _ => True) (hostStage Γ cfg rt cluster cell resolved) h := by
  unfold hostStage
  split_ifs with hreader
  · rw [safe_host]
    intro r
    have hu₁ := hu.step (.host (.hostReaderForCell cell)) r rfl
    cases r with
    | error e =>
      have hu' : Unobserved Γ key _ v
        (cluster.setCondition rt "HostReadReady" .false "HostReaderUnavailable" e.message) :=
        hu₁.change rfl rfl rfl rfl rfl
      exact safe_persist (exitHistory_last _ _ rfl) (hu'.exit_kept (by rw [stale_append]; rfl))
    | ok _ =>
      dsimp only
      rw [safe_host]
      intro r
      have hu₂ := hu₁.step (.host .listNodes) r rfl
      cases r with
      | error e =>
        have hu' : Unobserved Γ key _ v
          (cluster.setCondition rt "HostReadReady" .false "HostNodeReadFailed" e.message) :=
          hu₂.change rfl rfl rfl rfl rfl
        exact safe_persist (exitHistory_last _ _ rfl) (hu'.exit_kept (by rw [stale_append]; rfl))
      | ok nodes =>
        refine safe_addressStage hu₂ (exitHistory_last _ _ rfl) (fun hempty => ?_) (fun hne => ?_) fun _ => hreader
        · rw [stale_append]
          simp [StaleAt, event, hempty]
        · exact ⟨PlanGate.append (PlanGate.append hgate _) _, nodes, saw_last _ _ _, hne⟩
  · exact safe_addressStage hu hcut (fun _ => hstale (by simpa using hreader))
      (fun hne => absurd rfl hne) fun hne => absurd rfl hne

/-- The plan is evaluated, and the rest; a stale end here is one without a host reader. -/
theorem safe_planStage {cell : Cell} {virtualNodeClass : VirtualNodeClass} {resolved : ResolvedSnapshot}
    (hu : Unobserved Γ key h v cluster) (hcell : Saw h (.api (.getCell v.cellKey)) (.ok cell))
    (hclass : Saw h (.api (.getVirtualNodeClass v.spec.classRef.name)) (.ok virtualNodeClass))
    (hcut : exitHistory h = h)
    (hstale : Stale Γ cfg rt v h ↔ v.status.phase = .ready ∧ cfg.hasHostReaderFactory = false ∧
      Provisionable Γ rt v cell virtualNodeClass)
    (hplan : (evaluateVirtualClusterPlan Γ rt cell virtualNodeClass).decision = .accepted →
      Provisionable Γ rt v cell virtualNodeClass) :
    Safe Γ cfg rt key (fun _ _ => True) (planStage Γ cfg rt cluster cell virtualNodeClass resolved) h := by
  have hrefused : (evaluateVirtualClusterPlan Γ rt cell virtualNodeClass).decision ≠ .accepted →
    ¬Stale Γ cfg rt v h := by
    intro hdecision hs
    exact hdecision (hstale.mp hs).2.2.accepted
  unfold planStage
  dsimp only
  cases hdecision : (evaluateVirtualClusterPlan Γ rt cell virtualNodeClass).decision with
  | rejected =>
    exact safe_persist hcut (Carries.exit_phase (hu.carries.change rfl rfl rfl) nofun (hrefused (by simp [hdecision])))
  | unknown =>
    exact safe_persist hcut (Carries.exit_phase (hu.carries.change rfl rfl rfl) nofun (hrefused (by simp [hdecision])))
  | accepted =>
    have hprovisionable := hplan hdecision
    refine safe_hostStage (hu.change rfl rfl rfl rfl rfl)
      ⟨hu.carries.live, hcell, virtualNodeClass, hclass, hprovisionable⟩ hcut
      fun hreader => ?_
    simp [hstale, hreader, hprovisionable]

/-- The snapshot is kept or compared, and the rest. -/
theorem safe_snapshotStage {cell : Cell} {virtualNodeClass : VirtualNodeClass} {resolved : ResolvedSnapshot}
    (hu : Unobserved Γ key h v cluster) (hkept : cluster.status.resolved = v.status.resolved)
    (hcell : Saw h (.api (.getCell v.cellKey)) (.ok cell))
    (hclass : Saw h (.api (.getVirtualNodeClass v.spec.classRef.name)) (.ok virtualNodeClass))
    (hcut : exitHistory h = h) (hready : cell.status.phase = .ready)
    (hresolve : resolveVirtualCluster Γ cell virtualNodeClass = .ok resolved)
    (hstale : Stale Γ cfg rt v h ↔ v.status.phase = .ready ∧ cfg.hasHostReaderFactory = false ∧
      Provisionable Γ rt v cell virtualNodeClass) :
    Safe Γ cfg rt key (fun _ _ => True)
      (snapshotStage Γ cfg rt cluster cell virtualNodeClass (v.snapshot resolved)) h := by
  unfold snapshotStage
  rw [hkept]
  split_ifs with hempty hdrift
  · have hc : Carries Γ key h v { cluster with status.resolved := v.snapshot resolved } :=
      ⟨hu.carries.live, hu.carries.metadata, hu.carries.spec,
        Or.inr ⟨hempty, cell, virtualNodeClass, resolved, hcell, hresolve, rfl⟩, hu.carries.unpersisted⟩
    have hu' : Unobserved Γ key h v { cluster with status.resolved := v.snapshot resolved } :=
      ⟨hc, hu.phase, hu.child, hu.none⟩
    exact safe_planStage hu' hcell hclass hcut hstale fun haccepted =>
      ⟨hready, ⟨resolved, hresolve, Or.inl hempty⟩, haccepted⟩
  · refine safe_persist hcut (Carries.exit_phase (hu.carries.change rfl rfl rfl) nofun ?_)
    rw [hstale]
    rintro ⟨-, -, hprovisionable⟩
    obtain ⟨resolved', hok, hsame⟩ := hprovisionable.resolves
    rw [hresolve, Except.ok.injEq] at hok
    rw [← hok] at hsame
    rcases hsame with hsame | hsame
    · exact hempty hsame
    · simp [hsame] at hdrift
  · exact safe_planStage hu hcell hclass hcut hstale fun haccepted =>
      ⟨hready, ⟨resolved, hresolve, Or.inr (by simpa using hdrift)⟩, haccepted⟩

/-- The references are resolved, and the rest. -/
theorem safe_resolveStage {cell : Cell} {virtualNodeClass : VirtualNodeClass} (hu : Unobserved Γ key h v cluster)
    (hkept : cluster.status.resolved = v.status.resolved) (hcell : Saw h (.api (.getCell v.cellKey)) (.ok cell))
    (hclass : Saw h (.api (.getVirtualNodeClass v.spec.classRef.name)) (.ok virtualNodeClass))
    (hcut : exitHistory h = h) (hready : cell.status.phase = .ready)
    (hstale : Stale Γ cfg rt v h ↔ v.status.phase = .ready ∧ cfg.hasHostReaderFactory = false ∧
      Provisionable Γ rt v cell virtualNodeClass) :
    Safe Γ cfg rt key (fun _ _ => True) (resolveStage Γ cfg rt cluster cell virtualNodeClass) h := by
  unfold resolveStage
  cases hresolve : resolveVirtualCluster Γ cell virtualNodeClass with
  | error e =>
    refine safe_persist hcut (Carries.exit_phase (hu.carries.change rfl rfl rfl) nofun ?_)
    rw [hstale]
    rintro ⟨-, -, hprovisionable⟩
    obtain ⟨resolved, hok, -⟩ := hprovisionable.resolves
    rw [hresolve] at hok
    nomatch hok
  | ok resolved =>
    have hsnapshot : cluster.snapshot resolved = v.snapshot resolved := by
      rw [VirtualCluster.snapshot, hu.carries.names, VirtualCluster.snapshot]
    dsimp only
    rw [hsnapshot]
    exact safe_snapshotStage (hu.change rfl rfl rfl rfl rfl) hkept hcell hclass hcut hready hresolve hstale

/-- The Cell and the class are read, and the rest. -/
theorem safe_referenceStage (hlive : Live key h v) (hunpersisted : Unpersisted h) (hnone : observations h = []) :
    Safe Γ cfg rt key (fun _ _ => True) (referenceStage Γ cfg rt v) h := by
  unfold referenceStage
  dsimp only
  have hu : Unobserved Γ key h v { v with status.observedGeneration := v.metadata.generation } :=
    ⟨⟨hlive, rfl, rfl, Or.inl rfl, hunpersisted⟩, rfl, rfl, hnone⟩
  rw [safe_api]
  refine ⟨.read rfl, fun r => ?_⟩
  have hu₁ := hu.step (.api (.getCell v.cellKey)) r rfl
  cases r with
  | error e => trivial
  | ok cell =>
    dsimp only
    rw [safe_api]
    refine ⟨.read rfl, fun r => ?_⟩
    have hu₂ := hu₁.step (.api (.getVirtualNodeClass v.spec.classRef.name)) r rfl
    cases r with
    | error e => trivial
    | ok virtualNodeClass =>
      have hstale : Stale Γ cfg rt v (h ++ [event (.api (.getCell v.cellKey)) (.ok cell)] ++
          [event (.api (.getVirtualNodeClass v.spec.classRef.name)) (.ok virtualNodeClass)]) ↔
          v.status.phase = .ready ∧ cfg.hasHostReaderFactory = false ∧ Provisionable Γ rt v cell virtualNodeClass := by
        rw [stale_append]
        refine ⟨?_, fun ⟨hphase, hreader, hprovisionable⟩ => ⟨hphase, hreader, h, cell, rfl, hprovisionable⟩⟩
        rintro ⟨hphase, hreader, h', cell', heq, hprovisionable⟩
        have hevent := eq_of_heq (Sigma.mk.inj (List.append_singleton_inj.mp heq).2).2
        rw [Except.ok.inj hevent]
        exact ⟨hphase, hreader, hprovisionable⟩
      dsimp only
      split_ifs with hready
      · exact safe_persist (exitHistory_last _ _ rfl)
          (Carries.exit_phase (hu₂.carries.change rfl rfl rfl) nofun fun hs =>
          hready (hstale.mp hs).2.2.ready)
      · exact safe_resolveStage hu₂ rfl (Saw.append (saw_last _ _ _) _) (saw_last _ _ _) (exitHistory_last _ _ rfl)
          (not_not.mp hready) hstale

end ProvisionAux

open ProvisionAux

/-- Every call of a round is permitted by its history, whatever the answers are. -/
theorem safe_reconcile (Γ : Ctx) (cfg : Config) (rt : Runtime) (key : NamespacedName) :
    Safe Γ cfg rt key (fun _ _ => True) (reconcile Γ cfg rt key) [] := by
  unfold reconcile
  rw [safe_api]
  refine ⟨.read rfl, fun r => ?_⟩
  rw [List.nil_append]
  cases r with
  | error e => trivial
  | ok v =>
    have hread : ∀ o answer, ¬Saw [event (.api (.getVirtualCluster key)) (.ok v)]
      (.api (.updateVirtualClusterStatus o)) answer :=
      fun o answer hsaw => by cases congrArg Sigma.fst (List.mem_singleton.mp hsaw)
    dsimp only
    split_ifs with hdeleting hheld
    · exact safe_reconcileDeletion hdeleting
    · have hdeleting : v.deleting = false := by simpa using hdeleting
      have hheld : v.held = false := by simpa [VirtualCluster.held] using hheld
      rw [safe_api]
      refine ⟨.adopt rfl hdeleting hheld, fun r => ?_⟩
      cases r with
      | error e => trivial
      | ok v' =>
        refine safe_referenceStage (.adopted hdeleting hheld) (fun o answer hsaw => ?_) rfl
        rcases List.mem_append.mp hsaw with hsaw | hsaw
        · exact hread o answer hsaw
        · cases congrArg Sigma.fst (List.mem_singleton.mp hsaw)
    · exact safe_referenceStage (.read (by simpa using hdeleting)
        (by simpa [VirtualCluster.held] using hheld)) hread rfl

end KubeCell
