import KubeCell.Lib.Issued
import KubeCell.Theorems.Drift
import KubeCell.Theorems.Lost
import KubeCell.Theorems.Snapshot
import KubeCell.Theorems.Vouched

/-!
# What has drifted was replaced

The webhooks let nobody change what a VirtualCluster refers to, nor what its Cell and its class say while it refers to
them, and a round compares what they resolve to with the snapshot it keeps. Over whole runs this means: what a round
finds to have drifted was taken away and made again under the same name, or is only written in another way.
-/

namespace KubeCell

open DriftAux EffectsAux LostAux Prog PublishAux ResolutionAux RoundAux SnapshotAux StagesAux VouchedAux

/-- The name under which the class of a VirtualCluster stands. -/
def VirtualCluster.classKey (v : VirtualCluster) : NamespacedName := ⟨"", v.spec.classRef.name⟩

/-- What happens between the calls of the rounds of `u`: users change `u`, Cells and classes as the webhooks admit,
which list the VirtualClusters as they are stored; other controllers write no specifications; and nobody takes the
name of `u` when it is gone. -/
inductive AdmittedStep (u : VirtualCluster) : World → World → Prop where
  | edited {w : World} {v v' : VirtualCluster} : w.virtualClusters.find u.key = some v → v'.key = u.key →
      v'.metadata.uid = v.metadata.uid → v'.deleting = v.deleting → v'.status = v.status →
        v'.validateUpdate v = .ok () →
      AdmittedStep u w { w.next with virtualClusters := w.virtualClusters.put v' }
  | deleted {w : World} : AdmittedStep u w
    { w.next with virtualClusters := (w.virtualClusters.delete w.version u.key).2 }
  | cellCreated {w : World} {cell : Cell} : cell.validateCreate = .ok () →
      AdmittedStep u w { w.next with cells := (w.cells.create w.version cell).2 }
  | cellUpdated {w : World} {cell cell' : Cell} : w.cells.find cell'.metadata.key = some cell →
    cell'.metadata.uid = cell.metadata.uid →
      cellValidatorValidateUpdate w.virtualClusters.list cell cell' = .ok () →
      AdmittedStep u w { w.next with cells := w.cells.put cell' }
  | cellReported {w : World} {cell cell' : Cell} : w.cells.find cell'.metadata.key = some cell →
      cell'.metadata.uid = cell.metadata.uid → cell'.spec = cell.spec →
        AdmittedStep u w { w.next with cells := w.cells.put cell' }
  | cellRemoved {w : World} {key : NamespacedName} : AdmittedStep u w { w.next with cells := w.cells.remove key }
  | classCreated {w : World} {virtualNodeClass : VirtualNodeClass} : virtualNodeClass.validateCreate = .ok () →
      AdmittedStep u w { w.next with virtualNodeClasses := (w.virtualNodeClasses.create w.version virtualNodeClass).2 }
  | classUpdated {w : World} {virtualNodeClass virtualNodeClass' : VirtualNodeClass} :
      w.virtualNodeClasses.find virtualNodeClass'.metadata.key = some virtualNodeClass →
      virtualNodeClass'.metadata.uid = virtualNodeClass.metadata.uid →
      virtualNodeClassValidatorValidateUpdate w.virtualClusters.list virtualNodeClass virtualNodeClass' = .ok () →
      AdmittedStep u w { w.next with virtualNodeClasses := w.virtualNodeClasses.put virtualNodeClass' }
  | classRemoved {w : World} {key : NamespacedName} :
      AdmittedStep u w { w.next with virtualNodeClasses := w.virtualNodeClasses.remove key }
  | rest {w w' : World} : w.version ≤ w'.version → w'.virtualClusters.find u.key = w.virtualClusters.find u.key →
    w'.cells = w.cells →
      w'.virtualNodeClasses = w.virtualNodeClasses → AdmittedStep u w w'

/-- The world before the first round: what stands under the name of `u` is `u`, without a snapshot, and the Cells and
classes carry UIDs that the server does not give out again. -/
structure Unresolved (u : VirtualCluster) (w : World) : Prop where
  stored : ∀ v, w.virtualClusters.find u.key = some v → Same u v ∧ v.status.resolved.hostNamespace = ""
  cells : w.cells.Registered u.cellKey w.version
  classes : w.virtualNodeClasses.Registered u.classKey w.version

/-- `u` is there, and its deletion was not requested. -/
def Alive (u : VirtualCluster) (w : World) : Prop := ∃ v, w.virtualClusters.find u.key = some v ∧ v.deleting = false

/-- The Cell and the class that a VirtualCluster with a snapshot refers to: as long as they are the same objects they
resolve unless a device is not written as a whole number any more, and what they resolve to is the same but for the
way in which quantities are written. -/
structure Faithful (Γ : Ctx) (v : VirtualCluster) (cell : Cell) (virtualNodeClass : VirtualNodeClass) : Prop where
  resolves : cell.metadata.uid = v.status.resolved.cellUID → virtualNodeClass.metadata.uid =
    v.status.resolved.classUID →
    ((∃ resolved, resolveVirtualCluster Γ cell virtualNodeClass = .ok resolved) ↔
      WholeDevices virtualNodeClass.spec.workloadHard)
  same : ∀ resolved, resolveVirtualCluster Γ cell virtualNodeClass = .ok resolved →
    (sameResolvedProvider v.status.resolved (v.snapshot resolved) = true ↔
      cell.metadata.uid = v.status.resolved.cellUID ∧ virtualNodeClass.metadata.uid = v.status.resolved.classUID ∧
        profileHash Γ (fingerprintOf cell virtualNodeClass) = v.status.resolved.profileHash)
  printed : cell.metadata.uid = v.status.resolved.cellUID → virtualNodeClass.metadata.uid = v.status.resolved.classUID →
    PrintsSame v.status.resolved.quota virtualNodeClass.spec.workloadHard →
      profileHash Γ (fingerprintOf cell virtualNodeClass) = v.status.resolved.profileHash

namespace ReplacedAux

variable {Γ : Ctx} {cfg : Config} {rt : Runtime} {u v cluster : VirtualCluster} {w w' : World} {h : List Event}
  {snapshot : ResolvedSnapshot}

/-! ## The snapshots a round writes -/

/-- A status that is written holds the snapshot. -/
def retaining (snapshot : ResolvedSnapshot) : Call → Prop
  | .api (.updateVirtualClusterStatus o) => o.status.resolved = snapshot
  | _ => True

/-- A quiet call writes no snapshot. -/
theorem retaining_of_quiet (call : Call) (hquiet : quietCall call = true) : retaining snapshot call := by
  unfold retaining
  split
  · cases hquiet
  · trivial

/-- The program writes no statuses with another snapshot. -/
abbrev Retains (snapshot : ResolvedSnapshot) {α : Type} (p : Action α) : Prop := Neutral (retaining snapshot) p

/-- A round may end with the snapshot that it has. -/
theorem retains_persist {desired : VirtualCluster} (hkept : desired.status.resolved = snapshot)
    (requeueAfter : Option Nat) :
    Retains snapshot (persist desired requeueAfter) := by
  refine neutral_writing (fun _ => trivial) (fun o ho => ?_) requeueAfter
  change o.status.resolved = snapshot
  rw [ho, hkept]

/-- Deciding the phase leaves the snapshot. -/
theorem retains_decidePhase (hkept : cluster.status.resolved = snapshot)
    (foundationSummary instanceSummary : WorkSummary) (hasObserver : Bool) :
    Retains snapshot (decidePhase rt cluster foundationSummary instanceSummary hasObserver) := by
  have hset : ∀ (cluster : VirtualCluster) (holds : Bool) (conditionType : String) (status : ConditionStatus)
    (reason message : String),
      (cluster.setConditionIf holds rt conditionType status reason message).status.resolved = cluster.status.resolved :=
    fun cluster holds conditionType status reason message =>
      (ProvisionAux.setConditionIf_frame cluster holds rt conditionType status reason message).2.2.1
  refine retains_persist ?_ _
  rw [hset, hset, hset, (ProvisionAux.withPhase_frame cluster rt).2.2, hkept]

/-- What the stages do after the observation leaves the snapshot as it is. -/
theorem observing_retains {foundationSummary : WorkSummary} :
    Observing Γ rt foundationSummary (fun _ p => Retains snapshot p) (fun _ c => c.status.resolved = snapshot)
      (fun _ _ c => c.status.resolved = snapshot) where
  walk := walk_neutral retaining_of_quiet
  extend _ hkept := hkept
  extendO _ hkept := hkept
  invalid hkept := retains_persist (by exact hkept) _
  unpublished hkept := hkept
  published hkept _ _ := hkept
  unplaced hkept := retains_persist (by exact hkept) _
  placed _ hkept := hkept
  unrefreshed hkept := retains_persist hkept _
  refreshed _ hkept := hkept
  decided _ hkept := retains_decidePhase hkept _ _ _

/-- So does what they do before it. -/
theorem founding_retains :
    Founding Γ cfg rt (fun _ p => Retains snapshot p) (fun _ c => c.status.resolved = snapshot)
      (fun _ c => c.status.resolved = snapshot)
      (fun _ c => c.status.resolved = snapshot) where
  walk := walk_neutral retaining_of_quiet
  extendT _ hkept := hkept
  extendS _ hkept := hkept
  extendQ _ hkept := hkept
  unread _ _ hkept := retains_persist (by exact hkept) _
  unrefreshed hkept := retains_persist hkept _
  foundationFailed _ _ hkept := retains_persist (by exact hkept) _
  foundationPending _ hkept := retains_persist (by exact hkept) _
  founded _ _ hkept := hkept
  instanceFailed _ _ hkept := retains_persist (by exact hkept) _
  limited _ target quota hkept := (ProvisionAux.withQuota_frame rt target _ quota).2.2.1.trans hkept
  unwatched _ hkept := retains_persist (by exact hkept) _
  observed _ _ hasObserver _ hkept :=
    observing_retains.observeChild (h := []) (Q := fun _ c => c.status.resolved = snapshot)
      (fun hnext => ⟨trivial, hnext⟩)
      (fun hkept => retains_persist (by exact hkept) _) (fun hkept => hkept) (fun hkept => hkept) hkept hasObserver

/-- From the plan on, the snapshot stays. -/
theorem retains_planStage (hkept : cluster.status.resolved = snapshot) (cell : Cell)
    (virtualNodeClass : VirtualNodeClass) (resolved : ResolvedSnapshot) :
    Retains snapshot (planStage Γ cfg rt cluster cell virtualNodeClass resolved) := by
  unfold planStage
  dsimp only
  cases (evaluateVirtualClusterPlan Γ rt cell virtualNodeClass).decision with
  | rejected =>
    refine retains_persist ?_ _
    exact hkept
  | unknown =>
    refine retains_persist ?_ _
    exact hkept
  | accepted =>
    refine founding_retains.hostStage (h := []) ?_ cell resolved
    exact hkept

/-- Where the snapshot in a status that is written comes from: it is the one that the round has read, or the Cell and
the class that the round has read resolve to it. -/
def Sourced (Γ : Ctx) (v : VirtualCluster) (h : List Event) (snapshot : ResolvedSnapshot) : Prop :=
  snapshot = v.status.resolved ∨ ∃ cell virtualNodeClass resolved, Saw h (.api (.getCell v.cellKey)) (.ok cell) ∧
    Saw h (.api (.getVirtualNodeClass v.spec.classRef.name)) (.ok virtualNodeClass) ∧
      resolveVirtualCluster Γ cell virtualNodeClass = .ok resolved ∧ snapshot = v.snapshot resolved

theorem Sourced.append (hsourced : Sourced Γ v h snapshot) (t : List Event) : Sourced Γ v (h ++ t) snapshot := by
  rcases hsourced with heq | ⟨cell, virtualNodeClass, resolved, hcell, hclass, hresolves, heq⟩
  · exact Or.inl heq
  · exact Or.inr ⟨cell, virtualNodeClass, resolved, Saw.append hcell t, Saw.append hclass t, hresolves, heq⟩

/-- The snapshots that a round writes come from what it has read, unless it is about a deletion. -/
def Snaps (Γ : Ctx) (key : NamespacedName) (h : List Event) : Call → Prop
  | .api (.updateVirtualClusterStatus o) => (∃ v, Doomed key h v) ∨ ∃ v, Live key h v ∧ Sourced Γ v h o.status.resolved
  | _ => True

variable {key : NamespacedName}

/-- A program that writes a snapshot with a source. -/
theorem snaps_of_retains {α : Type} {p : Action α} (hlive : Live key h v) (hsourced : Sourced Γ v h snapshot)
    (hp : Retains snapshot p) :
    Guarded event (Snaps Γ key) (fun _ _ => True) p h := by
  refine Neutral.guarded (J := fun h => Live key h v ∧ Sourced Γ v h snapshot) ?_ ?_ hp
    ⟨hlive, hsourced⟩ fun _ _ _ => trivial
  · rintro h call ⟨hlive, hsourced⟩ hcall
    cases call with
    | host => trivial
    | api call =>
      cases call with
      | updateVirtualClusterStatus o =>
        have hsame : o.status.resolved = snapshot := hcall
        exact Or.inr ⟨v, hlive, hsame ▸ hsourced⟩
      | _ => trivial
  · exact fun h call r hJ _ => ⟨Live.append hJ.1 _, Sourced.append hJ.2 _⟩

/-- Nothing is asked of a round that is about a deletion. -/
theorem snaps_of_doomed {α : Type} (hdoomed : Doomed key h v) (p : Action α) :
    Guarded event (Snaps Γ key) (fun _ _ => True) p h := by
  induction p generalizing h with
  | ret a => trivial
  | call call next ih =>
    refine ⟨?_, fun r => ih r (Doomed.append hdoomed _)⟩
    cases call with
    | host => trivial
    | api call =>
      cases call with
      | updateVirtualClusterStatus o => exact Or.inl ⟨v, hdoomed⟩
      | _ => trivial

/-- The resolution keeps the snapshot that the round has read, or takes the one that the references resolve to. -/
theorem snaps_resolveStage {cell : Cell} {virtualNodeClass : VirtualNodeClass} (hlive : Live key h v)
    (hnames : cluster.names = v.names) (hkept : cluster.status.resolved = v.status.resolved)
    (hcell : Saw h (.api (.getCell v.cellKey)) (.ok cell))
    (hclass : Saw h (.api (.getVirtualNodeClass v.spec.classRef.name)) (.ok virtualNodeClass)) :
    Guarded event (Snaps Γ key) (fun _ _ => True) (resolveStage Γ cfg rt cluster cell virtualNodeClass) h := by
  unfold resolveStage
  cases hresolves : resolveVirtualCluster Γ cell virtualNodeClass with
  | error e =>
    refine snaps_of_retains hlive (Or.inl rfl) (retains_persist ?_ _)
    exact hkept
  | ok resolved =>
    have hvalidated : (cluster.validated rt).status.resolved = v.status.resolved := hkept
    have hsnapshot : cluster.snapshot resolved = v.snapshot resolved := by
      rw [VirtualCluster.snapshot, hnames, VirtualCluster.snapshot]
    dsimp only
    unfold snapshotStage
    split_ifs
    · -- the snapshot of this round is kept
      refine snaps_of_retains hlive (Or.inr ⟨cell, virtualNodeClass, resolved, hcell, hclass, hresolves, rfl⟩)
        (retains_planStage ?_ _ _ _)
      exact hsnapshot
    · refine snaps_of_retains hlive (Or.inl rfl) (retains_persist ?_ _)
      exact hvalidated
    · exact snaps_of_retains hlive (Or.inl rfl) (retains_planStage hvalidated _ _ _)

/-- From the reading of the references on, every snapshot has a source. -/
theorem snaps_referenceStage (hlive : Live key h v) :
    Guarded event (Snaps Γ key) (fun _ _ => True) (referenceStage Γ cfg rt v) h := by
  refine ⟨trivial, fun r => ?_⟩
  cases r with
  | error e => trivial
  | ok cell =>
    refine ⟨trivial, fun r => ?_⟩
    cases r with
    | error e => trivial
    | ok virtualNodeClass =>
      have hlive' := Live.append (Live.append hlive [event (.api (.getCell v.cellKey)) (.ok cell)])
        [event (.api (.getVirtualNodeClass v.spec.classRef.name)) (.ok virtualNodeClass)]
      dsimp only
      split_ifs
      · refine snaps_of_retains hlive' (Or.inl rfl) (retains_persist ?_ _)
        rfl
      · exact snaps_resolveStage hlive' rfl rfl (Saw.append (saw_last _ _ _) _) (saw_last _ _ _)

/-- In a whole round every snapshot has a source. -/
theorem snaps_reconcile (Γ : Ctx) (cfg : Config) (rt : Runtime) (key : NamespacedName) :
    Guarded event (Snaps Γ key) (fun _ _ => True) (reconcile Γ cfg rt key) [] := by
  refine ⟨trivial, fun r => ?_⟩
  cases r with
  | error e => trivial
  | ok v =>
    change Guarded _ _ _ (if v.deleting then reconcileDeletion rt
      v else if !v.held then _ else referenceStage Γ cfg rt v) _
    split_ifs with hdeleting hheld
    · by_cases hheld : v.held = true
      · exact snaps_of_doomed (.read hdeleting hheld) _
      · rw [Bool.not_eq_true] at hheld
        have hcontains : containsString v.metadata.finalizers virtualClusterFinalizer = false := hheld
        rw [reconcileDeletion, hcontains]
        trivial
    · rw [Bool.not_eq_true] at hdeleting
      rw [Bool.not_eq_true'] at hheld
      refine ⟨trivial, fun r => ?_⟩
      cases r with
      | error e => trivial
      | ok v' => exact snaps_referenceStage (.adopted hdeleting hheld)
    · rw [Bool.not_eq_true] at hdeleting
      exact snaps_referenceStage (.read hdeleting (by simpa using hheld))

/-! ## The Cell and the class -/

/-- A Cell whose specification is the same. -/
def SameSpec (cell cell' : Cell) : Prop := cell'.spec = cell.spec

theorem SameSpec.refl (cell : Cell) : SameSpec cell cell := rfl

theorem SameSpec.trans {c₁ c₂ c₃ : Cell} (h : SameSpec c₁ c₂) (h' : SameSpec c₂ c₃) : SameSpec c₁ c₃ := Eq.trans h' h

theorem SameClass.refl (k : VirtualNodeClass) : SameClass k k := ⟨rfl, rfl, fun _ => rfl⟩

theorem SameClass.trans {k₁ k₂ k₃ : VirtualNodeClass} (h : SameClass k₁ k₂) (h' : SameClass k₂ k₃) : SameClass k₁ k₃ :=
  ⟨h'.uid.trans h.uid, h'.storageClass.trans h.storageClass, fun name => (h.values name).trans (h'.values name)⟩

/-- What the references of `u` resolve to stays as it was, for as long as they are the same objects. -/
structure Intact (u : VirtualCluster) (w w' : World) : Prop where
  cells : Store.Follows SameSpec u.cellKey w.version w.cells w'.version w'.cells
  classes : Store.Follows SameClass u.classKey w.version w.virtualNodeClasses w'.version w'.virtualNodeClasses

/-- Nobody has changed either of them. -/
theorem intact_of_same (hle : w.version ≤ w'.version) (hcells : w'.cells = w.cells)
    (hclasses : w'.virtualNodeClasses = w.virtualNodeClasses) : Intact u w w' :=
  ⟨Store.follows_of_find SameSpec.refl hle (by rw [hcells]), Store.follows_of_find SameClass.refl hle
    (by rw [hclasses])⟩

/-- As long as `u` is there, the webhooks see to it. -/
theorem intact_of_admitted (hcluster : IsCluster u w) (halive : Alive u w)
    (hstep : AdmittedStep u w w') : Intact u w w' := by
  obtain ⟨v, hv, hdeleting⟩ := halive
  have hspec : v.spec = u.spec := (hcluster v hv).spec
  have hnext : w.version ≤ w.next.version := Nat.le_succ _
  have hcells : ∀ {s : Store VirtualNodeClass},
    Store.Follows SameClass u.classKey w.version w.virtualNodeClasses w.next.version s →
      Intact u w { w.next with virtualNodeClasses := s } :=
        fun hclasses => ⟨Store.follows_of_find SameSpec.refl hnext rfl, hclasses⟩
  have hclasses : ∀ {s : Store Cell}, Store.Follows SameSpec u.cellKey w.version w.cells w.next.version s →
      Intact u w { w.next with cells := s } := fun hcells => ⟨hcells, Store.follows_of_find SameClass.refl hnext rfl⟩
  cases hstep with
  | edited => exact intact_of_same hnext rfl rfl
  | deleted => exact intact_of_same hnext rfl rfl
  | cellCreated => exact hclasses (Store.follows_create SameSpec.refl _ _ _)
  | @cellUpdated cell cell' hfind huid hadmitted =>
    refine hclasses (Store.follows_put SameSpec.refl hnext hfind huid fun hkey => ?_)
    have hname : cell'.metadata.name = u.spec.cellRef.name := congrArg NamespacedName.name hkey
    have hreferenced : isCellReferenced w.virtualClusters.list cell'.metadata.name = true := by
      refine List.any_eq_true.mpr ⟨v, Store.mem_list_of_find hv, ?_⟩
      simp [hdeleting, hspec, hname]
    rw [cellValidatorValidateUpdate, hreferenced] at hadmitted
    exact (spec_of_cellUpdate ⟨huid, hadmitted⟩).1
  | @cellReported cell cell' hfind huid hsame =>
    exact hclasses (Store.follows_put SameSpec.refl hnext hfind huid fun _ => hsame)
  | cellRemoved => exact hclasses (Store.follows_remove SameSpec.refl hnext _ _)
  | classCreated => exact hcells (Store.follows_create SameClass.refl _ _ _)
  | @classUpdated k k' hfind huid hadmitted =>
    refine hcells (Store.follows_put SameClass.refl hnext hfind huid fun hkey => ?_)
    have hname : k'.metadata.name = u.spec.classRef.name := congrArg NamespacedName.name hkey
    have hreferenced : isClassReferenced w.virtualClusters.list k'.metadata.name = true := by
      refine List.any_eq_true.mpr ⟨v, Store.mem_list_of_find hv, ?_⟩
      simp [hdeleting, hspec, hname]
    rw [virtualNodeClassValidatorValidateUpdate, hreferenced] at hadmitted
    exact sameClass_of_classUpdate ⟨huid, hadmitted⟩
  | classRemoved => exact hcells (Store.follows_remove SameClass.refl hnext _ _)
  | rest hle _ hcells hclasses => exact intact_of_same hle hcells hclasses

/-- What stands under the name of `u` stood there before, with the same references and the same status. -/
theorem before_of_admitted (hstep : AdmittedStep u w w') {v' : VirtualCluster}
    (hv' : w'.virtualClusters.find u.key = some v') :
    ∃ v, w.virtualClusters.find u.key = some v ∧ Same v v' ∧ v'.status = v.status ∧
      (v'.deleting = false → v.deleting = false) := by
  have hkept : w.virtualClusters.find u.key = some v' → ∃ v, w.virtualClusters.find u.key = some v ∧ Same v v' ∧
    v'.status = v.status ∧
      (v'.deleting = false → v.deleting = false) := fun hv => ⟨v', hv, ⟨rfl, rfl, rfl⟩, rfl, id⟩
  cases hstep with
  | @edited v after hfind hkey huid hdeleting hstatus hadmitted =>
    dsimp only at hv'
    rw [Store.find_put] at hv'
    split_ifs at hv' with hat
    · cases hv'
      have hspec : v'.spec = v.spec := by
        simp only [VirtualCluster.validateUpdate, validationError_ok_iff, List.append_eq_nil_iff,
          validateVirtualClusterUpdate,
          ite_eq_right_iff, List.cons_ne_self, imp_false, not_not] at hadmitted
        obtain ⟨-, hcell, hclass⟩ := hadmitted
        cases hv : v.spec with
        | mk cellRef classRef =>
          rw [hv] at hcell hclass
          dsimp only at hcell hclass
          rw [hcell, hclass]
      exact ⟨v, hfind, ⟨hkey.trans (Store.find_keyed hfind).symm, huid, hspec⟩, hstatus,
        fun hfalse => hdeleting ▸ hfalse⟩
    · exact hkept hv'
  | deleted =>
    obtain ⟨v, hv, hspec, hstatus, -, huid,
      hdeleting⟩ := (EnvironmentAux.delete_cluster w.virtualClusters w.version).1 v' hv'
    refine ⟨v, hv, ⟨(Store.find_keyed hv').trans (Store.find_keyed hv).symm, huid, hspec⟩, hstatus, fun hfalse => ?_⟩
    rw [hdeleting] at hfalse
    cases hfalse
  | rest _ hcluster => exact hkept (hcluster ▸ hv')
  | _ => exact hkept hv'

/-- Nobody brings `u` back. -/
theorem alive_of_admitted (hstep : AdmittedStep u w w') (halive : Alive u w') : Alive u w := by
  obtain ⟨v', hv', hdeleting⟩ := halive
  obtain ⟨v, hv, -, -, hback⟩ := before_of_admitted hstep hv'
  exact ⟨v, hv, hback hdeleting⟩

theorem alive_of_effects {e : Event} (hid : Identity u w h) (heffects : Effects Γ rt u.key h cfg e w w')
    (halive : Alive u w') :
    Alive u w := by
  obtain ⟨v', hv', hdeleting⟩ := halive
  obtain ⟨v, hv, hsame⟩ := OwnedAux.clusters_deleting hid heffects.clusters hv'
  exact ⟨v, hv, hsame ▸ hdeleting⟩

/-! ## What a snapshot was made of -/

/-- The Cell and the class stand as they were, wherever they still are, and the round has read them so. -/
structure Grounds (u : VirtualCluster) (w : World) (h : List Event) (cell : Cell)
    (virtualNodeClass : VirtualNodeClass) : Prop where
  cells : w.cells.Tracks SameSpec u.cellKey w.version cell
  classes : w.virtualNodeClasses.Tracks SameClass u.classKey w.version virtualNodeClass
  readCells : ∀ current, Saw h (.api (.getCell u.cellKey)) (.ok current) → current.metadata.uid = cell.metadata.uid →
    SameSpec cell current
  readClasses : ∀ current, Saw h (.api (.getVirtualNodeClass u.spec.classRef.name)) (.ok current) →
    current.metadata.uid = virtualNodeClass.metadata.uid → SameClass virtualNodeClass current

section Grounds

variable {cell : Cell} {virtualNodeClass : VirtualNodeClass}

/-- The class that a call returns is stored. -/
theorem find_of_getClass {name : String}
    (hx : World.Exec w (.api (.getVirtualNodeClass name)) (.ok virtualNodeClass) w') :
    w.virtualNodeClasses.find ⟨"", name⟩ = some virtualNodeClass := by
  obtain ⟨hr, -⟩ := served_of_ok hx
  exact Store.get_ok_iff.mp hr

/-- The ground of a snapshot stays, as long as the Cells and classes are only changed as the webhooks admit. -/
theorem Grounds.intact (hgrounds : Grounds u w h cell virtualNodeClass) (hintact : Intact u w w') :
    Grounds u w' h cell virtualNodeClass :=
  ⟨hgrounds.cells.follows (fun _ _ _ => SameSpec.trans) hintact.cells,
    hgrounds.classes.follows (fun _ _ _ => SameClass.trans) hintact.classes, hgrounds.readCells, hgrounds.readClasses⟩

/-- What is read now stands now. -/
theorem Grounds.read (hgrounds : Grounds u w h cell virtualNodeClass) {call : Call} {r : call.Res}
    (hx : World.Exec w call r w') :
    Grounds u w (h ++ [event call r]) cell virtualNodeClass := by
  refine ⟨hgrounds.cells, hgrounds.classes, fun current hsaw huid => ?_, fun current hsaw huid => ?_⟩
  · rcases saw_snoc hsaw with hold | heq
    · exact hgrounds.readCells current hold huid
    · cases heq
      exact hgrounds.cells.same current (find_of_getCell hx).1 huid
  · rcases saw_snoc hsaw with hold | heq
    · exact hgrounds.readClasses current hold huid
    · cases heq
      exact hgrounds.classes.same current (find_of_getClass hx) huid

/-- A round that has read neither of them. -/
theorem grounds_of_unread (hcells : w.cells.Tracks SameSpec u.cellKey w.version cell)
    (hclasses : w.virtualNodeClasses.Tracks SameClass u.classKey w.version virtualNodeClass)
    (hcell : ∀ current, ¬Saw h (.api (.getCell u.cellKey)) (.ok current))
    (hclass : ∀ current, ¬Saw h (.api (.getVirtualNodeClass u.spec.classRef.name)) (.ok current)) :
    Grounds u w h cell virtualNodeClass :=
  ⟨hcells, hclasses, fun current hsaw _ => absurd hsaw (hcell current), fun current hsaw _ => absurd hsaw
    (hclass current)⟩

/-- The ground of a snapshot does not rest on what the round has read. -/
theorem Grounds.start (hgrounds : Grounds u w h cell virtualNodeClass) : Grounds u w [] cell virtualNodeClass :=
  grounds_of_unread hgrounds.cells hgrounds.classes (fun _ => List.not_mem_nil) fun _ => List.not_mem_nil

end Grounds

/-- A snapshot, if it is one, was made of a Cell and a class that stand as they were. -/
def MadeOf (Γ : Ctx) (u : VirtualCluster) (w : World) (h : List Event) (snapshot : ResolvedSnapshot) : Prop :=
  snapshot.hostNamespace ≠ "" → ∃ cell virtualNodeClass, Resolves cell virtualNodeClass ∧
    snapshot = u.snapshot (resolvedOf Γ cell virtualNodeClass) ∧ Grounds u w h cell virtualNodeClass

/-- What a snapshot was made of may be said with less. -/
theorem MadeOf.imp {h' : List Event} (hmade : MadeOf Γ u w h snapshot)
    (himp : ∀ cell virtualNodeClass, Grounds u w h cell virtualNodeClass → Grounds u w' h' cell virtualNodeClass) :
    MadeOf Γ u w' h' snapshot := by
  intro hsnapshot
  obtain ⟨cell, virtualNodeClass, hresolves, heq, hgrounds⟩ := hmade hsnapshot
  exact ⟨cell, virtualNodeClass, hresolves, heq, himp cell virtualNodeClass hgrounds⟩

/-- The snapshot is computed from what does not change of `u`. -/
theorem snapshot_of_same (hsame : Same u v) (resolved : ResolvedSnapshot) :
    v.snapshot resolved = u.snapshot resolved := by
  rw [VirtualCluster.snapshot, Same.names hsame, VirtualCluster.snapshot]

theorem classKey_of_same (hsame : Same u v) : v.classKey = u.classKey := by
  rw [VirtualCluster.classKey, hsame.spec, VirtualCluster.classKey]

/-- What is the same object is as it was, so it resolves to the same but for the way in which it is written. -/
theorem faithful_of_same {cell₀ cell : Cell} {class₀ virtualNodeClass : VirtualNodeClass}
    (hresolves : Resolves cell₀ class₀) (hsnapshot : v.status.resolved = v.snapshot (resolvedOf Γ cell₀ class₀))
    (hcell : cell.metadata.uid = cell₀.metadata.uid → SameSpec cell₀ cell)
    (hclass : virtualNodeClass.metadata.uid = class₀.metadata.uid → SameClass class₀ virtualNodeClass) :
    Faithful Γ v cell virtualNodeClass := by
  have hcellUID : v.status.resolved.cellUID = cell₀.metadata.uid := by
    rw [hsnapshot]
    rfl
  have hclassUID : v.status.resolved.classUID = class₀.metadata.uid := by
    rw [hsnapshot]
    rfl
  have hhash : v.status.resolved.profileHash = profileHash Γ (fingerprintOf cell₀ class₀) := by
    rw [hsnapshot]
    rfl
  have hquota : v.status.resolved.quota = class₀.spec.workloadHard := by
    rw [hsnapshot]
    rfl
  refine ⟨fun hc hk => ?_, fun resolved hresolved => ⟨fun hsame => ?_, fun hsame => ?_⟩, fun hc hk hprints => ?_⟩
  · rw [← resolves_of_same (hcell (hc.trans hcellUID)) (hclass (hk.trans hclassUID)) hresolves]
    simp only [resolveVirtualCluster_ok_iff, exists_and_left, exists_eq, and_true]
  · obtain ⟨-, rfl⟩ := (resolveVirtualCluster_ok_iff _ _ _ _).mp hresolved
    simp only [sameResolvedProvider, Bool.and_eq_true, beq_iff_eq, and_assoc] at hsame
    obtain ⟨hc, -, hk, hh, -⟩ := hsame
    exact ⟨hc.symm, hk.symm, hh.symm⟩
  · obtain ⟨-, rfl⟩ := (resolveVirtualCluster_ok_iff _ _ _ _).mp hresolved
    obtain ⟨hc, hk, hh⟩ := hsame
    have huid := hc.trans hcellUID
    rw [hsnapshot]
    exact (sameResolvedProvider_iff Γ v (hcell huid) huid (hclass (hk.trans hclassUID))).mpr (hhash.symm.trans hh.symm)
  · rw [hquota] at hprints
    have htext := (fingerprintOf_eq_iff (hcell (hc.trans hcellUID)) (hclass (hk.trans hclassUID))).mpr hprints
    rw [hhash, htext]

/-! ## Runs -/

/-- The snapshot that is stored was made of what stands as it was, as long as `u` is there. -/
structure Rooted (Γ : Ctx) (u : VirtualCluster) (w : World) : Prop where
  cluster : IsCluster u w
  cells : Alive u w → w.cells.Registered u.cellKey w.version
  classes : Alive u w → w.virtualNodeClasses.Registered u.classKey w.version
  stands : Alive u w → ∀ v, w.virtualClusters.find u.key = some v → MadeOf Γ u w [] v.status.resolved

/-- So was the snapshot that the round works with, and what the round has read stands as it was. -/
structure RootedRound (Γ : Ctx) (u : VirtualCluster) (w : World) (h : List Event) : Prop where
  identity : Identity u w h
  undoomed : Alive u w → ∀ v, ¬Doomed u.key h v
  readCells : Alive u w → ∀ cell, Saw h (.api (.getCell u.cellKey)) (.ok cell) →
    w.cells.Tracks SameSpec u.cellKey w.version cell
  readClasses : Alive u w → ∀ virtualNodeClass,
    Saw h (.api (.getVirtualNodeClass u.spec.classRef.name)) (.ok virtualNodeClass) →
      w.virtualNodeClasses.Tracks SameClass u.classKey w.version virtualNodeClass
  live : Alive u w → ∀ v, Live u.key h v → MadeOf Γ u w h v.status.resolved

theorem Rooted.start (hrooted : Rooted Γ u w) : RootedRound Γ u w [] := by
  refine ⟨Identity.start hrooted.cluster, fun _ v hdoomed => ?_, fun _ _ hsaw => absurd hsaw List.not_mem_nil,
    fun _ _ hsaw => absurd hsaw List.not_mem_nil, fun _ v hlive => ?_⟩
  · cases hdoomed
  · cases hlive

/-- The webhooks see to it as long as `u` is there afterwards. -/
theorem Rooted.intact (hrooted : Rooted Γ u w) (hstep : AdmittedStep u w w') (halive : Alive u w') : Intact u w w' :=
  intact_of_admitted hrooted.cluster (alive_of_admitted hstep halive) hstep

/-- Steps of others, as the webhooks admit them, leave the stored snapshot on its ground. -/
theorem Rooted.admitted (hrooted : Rooted Γ u w) (hstep : AdmittedStep u w w') : Rooted Γ u w' := by
  have hback : Alive u w' → Alive u w := alive_of_admitted hstep
  refine ⟨fun v' hv' => ?_, fun halive => (hrooted.cells (hback halive)).follows (hrooted.intact hstep halive).cells,
    fun halive => (hrooted.classes (hback halive)).follows (hrooted.intact hstep halive).classes,
      fun halive v' hv' => ?_⟩
  · obtain ⟨v, hv, hsame, -⟩ := before_of_admitted hstep hv'
    exact Same.trans (hrooted.cluster v hv) hsame
  · obtain ⟨v, hv, -, hstatus, -⟩ := before_of_admitted hstep hv'
    rw [hstatus]
    exact (hrooted.stands (hback halive) v hv).imp fun _ _ hgrounds => hgrounds.intact (hrooted.intact hstep halive)

/-- They leave the round on its ground, too. -/
theorem RootedRound.admitted (hrooted : Rooted Γ u w) (hround : RootedRound Γ u w h) (hstep : AdmittedStep u w w') :
    RootedRound Γ u w' h := by
  have hback : Alive u w' → Alive u w := alive_of_admitted hstep
  refine ⟨?_, fun halive => hround.undoomed (hback halive), fun halive cell hsaw => ?_,
    fun halive virtualNodeClass hsaw => ?_,
    fun halive v hlive => ?_⟩
  · exact ⟨(hrooted.admitted hstep).cluster, hround.identity.read, hround.identity.updated, hround.identity.works,
      hround.identity.secrets⟩
  · exact (hround.readCells (hback halive) cell hsaw).follows (fun _ _ _ => SameSpec.trans)
      (hrooted.intact hstep halive).cells
  · exact (hround.readClasses (hback halive) virtualNodeClass hsaw).follows (fun _ _ _ => SameClass.trans)
      (hrooted.intact hstep halive).classes
  · exact (hround.live (hback halive) v hlive).imp fun _ _ hgrounds => hgrounds.intact (hrooted.intact hstep halive)

/-- A snapshot that the round writes was made of what stands as it was. -/
theorem RootedRound.written (hround : RootedRound Γ u w h) (halive : Alive u w) {o : VirtualCluster}
    (hsnaps : Snaps Γ u.key h (.api (.updateVirtualClusterStatus o))) : MadeOf Γ u w [] o.status.resolved := by
  rcases hsnaps with ⟨v, hdoomed⟩ | ⟨v, hlive, heq | ⟨cell, virtualNodeClass, resolved, hcell, hclass, hresolved, heq⟩⟩
  · exact absurd hdoomed (hround.undoomed halive v)
  · rw [heq]
    exact (hround.live halive v hlive).imp fun _ _ hgrounds => hgrounds.start
  · have hsame := Identity.live hround.identity hlive
    obtain ⟨hresolves, rfl⟩ := (resolveVirtualCluster_ok_iff _ _ _ _).mp hresolved
    rw [Same.cellKey hsame] at hcell
    rw [hsame.spec] at hclass
    refine fun _ => ⟨cell, virtualNodeClass, hresolves, heq.trans (snapshot_of_same hsame _), ?_⟩
    exact grounds_of_unread (hround.readCells halive cell hcell) (hround.readClasses halive virtualNodeClass hclass)
      (fun _ => List.not_mem_nil) fun _ => List.not_mem_nil

/-- The calls before a round works on a VirtualCluster. -/
theorem Live.snoc_first {e : Event} (hlive : Live key (h ++ [e]) v) :
    Live key h v ∨ ∀ e' ∈ h ++ [e], e'.1 = .api (.getVirtualCluster key) ∨
      ∃ o, e'.1 = .api (.updateVirtualCluster o) := by
  rcases h with _ | ⟨e', _ | ⟨e'', h⟩⟩
  · cases hlive
    refine Or.inr fun e' he' => Or.inl ?_
    rw [List.mem_singleton.mp he']
    rfl
  · cases hlive with
    | read hdeleting hheld => exact Or.inl (.read hdeleting hheld)
    | adopted =>
      refine Or.inr fun e' he' => ?_
      rcases List.mem_cons.mp he' with rfl | he'
      · exact Or.inl rfl
      · rw [List.mem_singleton.mp he']
        exact Or.inr ⟨_, rfl⟩
  · simp only [List.cons_append] at hlive
    generalize h ++ [e] = rest at hlive
    cases hlive with
    | read hdeleting hheld => exact Or.inl (.read hdeleting hheld)
    | adopted hdeleting hheld => exact Or.inl (.adopted hdeleting hheld)

/-- A round is about a deletion only if the deletion was requested. -/
theorem Doomed.deleting (hdoomed : Doomed key h v) : v.deleting = true := by
  cases hdoomed
  assumption

/-- A call of the round keeps the invariant. -/
theorem Rooted.call (hrooted : Rooted Γ u w) (hround : RootedRound Γ u w h) {call : Call} {r : call.Res}
    (hp : Permitted Γ cfg rt u.key h call) (hsnaps : Snaps Γ u.key h call) (hx : World.Exec w call r w') :
    Rooted Γ u w' ∧ RootedRound Γ u w' (h ++ [event call r]) := by
  have heffects := effects_of_permitted hp hx
  have hid' := Identity.step hround.identity hp hx
  have hback : Alive u w' → Alive u w := alive_of_effects hround.identity heffects
  have hintact : Intact u w w' :=
    intact_of_same (versioned_exec hx).virtualClusters.later heffects.cells heffects.classes
  have hrooted' : Rooted Γ u w' := by
    refine ⟨hid'.stored, fun halive => (hrooted.cells (hback halive)).follows hintact.cells,
      fun halive => (hrooted.classes (hback halive)).follows hintact.classes, fun halive v' hv' => ?_⟩
    rcases status_of_call hx hv' with ⟨v, hv, hstatus⟩ | ⟨o, rfl, hstatus⟩
    · rw [hstatus]
      exact (hrooted.stands (hback halive) v hv).imp fun _ _ hgrounds => hgrounds.intact hintact
    · rw [hstatus]
      exact (hround.written (hback halive) hsnaps).imp fun _ _ hgrounds => hgrounds.intact hintact
  refine ⟨hrooted', hid', fun halive v hdoomed => ?_, fun halive cell hsaw => ?_,
    fun halive virtualNodeClass hsaw => ?_,
    fun halive v hlive => ?_⟩
  · rcases AnchoredAux.find_of_doomed hx hdoomed with hold | hstored
    · exact hround.undoomed (hback halive) v hold
    · obtain ⟨v', hv', hdeleting⟩ := halive
      cases hstored.symm.trans hv'
      rw [Doomed.deleting hdoomed] at hdeleting
      cases hdeleting
  · refine Store.Tracks.follows (fun _ _ _ => SameSpec.trans) ?_ hintact.cells
    rcases saw_snoc hsaw with hold | heq
    · exact hround.readCells (hback halive) cell hold
    · cases heq
      exact Store.tracks_of_find SameSpec.refl (hrooted.cells (hback halive)) (find_of_getCell hx).1
  · refine Store.Tracks.follows (fun _ _ _ => SameClass.trans) ?_ hintact.classes
    rcases saw_snoc hsaw with hold | heq
    · exact hround.readClasses (hback halive) virtualNodeClass hold
    · cases heq
      exact Store.tracks_of_find SameClass.refl (hrooted.classes (hback halive)) (find_of_getClass hx)
  · by_cases hold : Live u.key h v
    · exact (hround.live (hback halive) v hold).imp fun _ _ hgrounds => (hgrounds.read hx).intact hintact
    · -- the round has just read what is stored, and nothing else
      have hstored := ((AnchoredAux.stays_of_live hround.identity hp hx hlive).resolve_left hold).1
      have hfirst := (Live.snoc_first hlive).resolve_left hold
      refine (hrooted'.stands halive v hstored).imp fun _ _ hgrounds =>
        grounds_of_unread hgrounds.cells hgrounds.classes ?_ ?_
      · intro current hsaw
        rcases hfirst _ hsaw with heq | ⟨o, heq⟩ <;> cases heq
      · intro current hsaw
        rcases hfirst _ hsaw with heq | ⟨o, heq⟩ <;> cases heq

/-- Without a snapshot there is nothing to be shown. -/
theorem rooted_of_unresolved (hunresolved : Unresolved u w) : Rooted Γ u w := by
  refine ⟨fun v hv => (hunresolved.stored v hv).1, fun _ => hunresolved.cells, fun _ => hunresolved.classes,
    fun _ v hv hsnapshot => ?_⟩
  exact absurd (hunresolved.stored v hv).2 hsnapshot

end ReplacedAux

open ReplacedAux

/-- In every run of the rounds for a VirtualCluster, each cut off anywhere and with its calls answered or lost in any
way, among others whose changes the webhooks admit: until its deletion is requested, what it refers to agrees with the
snapshot that is stored, and what a round has read agrees with the snapshot that the round works with. -/
theorem drift_means_replaced (Γ : Ctx) (cfg : Config) (u : VirtualCluster)
    {s : Sys World Event Call Call.Res (Except Err Result)}
    (hs : Sys.Reachable (clusterSystem Γ cfg u.key (AdmittedStep u)) (Unresolved u) s) (halive : Alive u s.world) :
    (∀ v cell virtualNodeClass, s.world.virtualClusters.find u.key = some v → v.status.resolved.hostNamespace ≠ "" →
      s.world.cells.find v.cellKey = some cell → s.world.virtualNodeClasses.find v.classKey = some virtualNodeClass →
        Faithful Γ v cell virtualNodeClass) ∧
      ∀ h p v cell virtualNodeClass, s.round = some (h, p) → Live u.key h v → v.status.resolved.hostNamespace ≠ "" →
        Saw h (.api (.getCell v.cellKey)) (.ok cell) → Saw h (.api (.getVirtualNodeClass v.spec.classRef.name))
          (.ok virtualNodeClass) →
          Faithful Γ v cell virtualNodeClass := by
  have hholds := Sys.invariant (I := Rooted Γ u) (K := RootedRound Γ u)
    (G := fun h call => (∃ rt, Permitted Γ cfg rt u.key h call) ∧ Snaps Γ u.key h call) (fun _ => rooted_of_unresolved)
    (fun _ => Rooted.start) ?_ ?_ ?_ hs
  · obtain ⟨hrooted, hround⟩ := hholds
    refine ⟨fun v cell virtualNodeClass hv hsnapshot hcell hclass => ?_,
      fun h p v cell virtualNodeClass hp hlive hsnapshot hcell hclass => ?_⟩
    · have hsame := hrooted.cluster v hv
      obtain ⟨cell₀, class₀, hresolves, heq, hgrounds⟩ := hrooted.stands halive v hv hsnapshot
      rw [Same.cellKey hsame] at hcell
      rw [classKey_of_same hsame] at hclass
      exact faithful_of_same hresolves (heq.trans (snapshot_of_same hsame _).symm) (hgrounds.cells.same cell hcell)
        (hgrounds.classes.same virtualNodeClass hclass)
    · obtain ⟨hrootedRound, -⟩ := hround h p hp
      have hsame := Identity.live hrootedRound.identity hlive
      obtain ⟨cell₀, class₀, hresolves, heq, hgrounds⟩ := hrootedRound.live halive v hlive hsnapshot
      rw [Same.cellKey hsame] at hcell
      rw [hsame.spec] at hclass
      exact faithful_of_same hresolves (heq.trans (snapshot_of_same hsame _).symm) (hgrounds.readCells cell hcell)
        (hgrounds.readClasses virtualNodeClass hclass)
  · rintro p ⟨rt, rfl⟩
    exact ((safe_reconcile Γ cfg rt u.key).and (snaps_reconcile Γ cfg rt u.key)).mono (fun _ _ hp => ⟨⟨rt, hp.1⟩, hp.2⟩)
      fun _ _ _ => trivial
  · exact fun w w' hstep hrooted => ⟨hrooted.admitted hstep, fun h hround => hround.admitted hrooted hstep⟩
  · rintro w call r w' h hrooted hround ⟨⟨rt, hp⟩, hsnaps⟩ hx
    exact hrooted.call hround hp hsnaps hx

namespace ReplacedAux

open SampleAux

/-- A first round of the sample VirtualCluster, after which its snapshot is stored. -/
def resolvedRound : World × List Event × Action (Except Err Result) :=
  sampleRound plainWorld (sampleHost (.ok [sampleNode]) (.ok {})) 15

/-- The round that resolves the sample runs. -/
theorem runs_resolvedRound :
    Prog.Runs World.Exec event plainWorld (reconcile SampleAux.sampleCtx sampleConfig sampleRuntime sampleCluster.key)
      resolvedRound.2.1
      resolvedRound.1 resolvedRound.2.2 := by
  rw [resolvedRound]
  -- with the number of calls in place, the unifier would compute the round
  generalize 15 = n
  exact runs_sampleRound _ _ n

/-- The UIDs of the samples are not given out by the server. -/
theorem issued_of_head {uid : String} (hhead : uid.toList.head? ≠ some 'u') (version : Nat) : Issued version uid := by
  rintro n rfl
  refine absurd ?_ hhead
  rw [String.toList_append]
  rfl

/-- The sample begins without a snapshot. -/
theorem unresolved_plainWorld : Unresolved sampleCluster plainWorld := by
  refine ⟨fun v hv => ?_, fun cell hcell => ?_, fun virtualNodeClass hclass => ?_⟩
  · cases (find_sampleWorld sampleCluster []).symm.trans hv
    exact ⟨⟨rfl, rfl, rfl⟩, rfl⟩
  · rw [plainWorld, sampleWorld, Store.find_put] at hcell
    split_ifs at hcell
    · cases hcell
      exact issued_of_head (by decide) _
    · cases hcell
  · rw [plainWorld, sampleWorld, Store.find_put] at hclass
    split_ifs at hclass
    · cases hclass
      exact issued_of_head (by decide) _
    · cases hclass

/-- The world after that round, in which the class is written in other words, as the webhook admits it. -/
def rewrittenWorld : World :=
  { resolvedRound.1.next with virtualNodeClasses := resolvedRound.1.virtualNodeClasses.put (sampleClass gibiDecimal) }

/-- The webhook admits that the memory of the class is written in another way. -/
theorem rewritten_admitted : AdmittedStep sampleCluster resolvedRound.1 rewrittenWorld := by
  have hstored : (resolvedRound.1.virtualNodeClasses.find (sampleClass gibiDecimal).metadata.key).map
    (fun virtualNodeClass =>
      (decide ((sampleClass gibiDecimal).metadata.uid = virtualNodeClass.metadata.uid),
        decide (virtualNodeClassValidatorValidateUpdate resolvedRound.1.virtualClusters.list virtualNodeClass
          (sampleClass gibiDecimal) = .ok ()))) = some (true, true) := by decide +kernel
  obtain ⟨virtualNodeClass, hfind, hfacts⟩ := Option.map_eq_some_iff.mp hstored
  simp only [Prod.mk.injEq, decide_eq_true_eq] at hfacts
  exact .classUpdated hfind hfacts.1 hfacts.2

end ReplacedAux

open SampleAux

/-- After the first round of the sample VirtualCluster its class is written in other words. It is the same object and
agrees with the snapshot that is stored, although it is not printed alike. -/
theorem drift_means_replaced_sample :
    ∃ v cell virtualNodeClass, rewrittenWorld.virtualClusters.find sampleCluster.key = some v ∧
      rewrittenWorld.cells.find v.cellKey = some cell ∧ rewrittenWorld.virtualNodeClasses.find v.classKey =
        some virtualNodeClass ∧
        v.status.resolved.hostNamespace ≠ "" ∧ virtualNodeClass.metadata.uid = v.status.resolved.classUID ∧
          ¬PrintsSame v.status.resolved.quota virtualNodeClass.spec.workloadHard ∧
            Faithful SampleAux.sampleCtx v cell virtualNodeClass := by
  have hstored : (rewrittenWorld.virtualClusters.find sampleCluster.key).map (fun v =>
      (v.deleting, decide (v.status.resolved.hostNamespace = ""), (rewrittenWorld.cells.find v.cellKey).isSome,
        (rewrittenWorld.virtualNodeClasses.find v.classKey).map fun virtualNodeClass =>
          (decide (virtualNodeClass.metadata.uid = v.status.resolved.classUID),
            decide ((AList.lookup "requests.memory" v.status.resolved.quota).map Quantity.string =
              (AList.lookup "requests.memory" virtualNodeClass.spec.workloadHard).map Quantity.string)))) =
      some (false, false, true, some (true, false)) := by decide +kernel
  obtain ⟨v, hv, hfacts⟩ := Option.map_eq_some_iff.mp hstored
  simp only [Prod.mk.injEq, decide_eq_false_iff_not] at hfacts
  obtain ⟨hdeleting, hsnapshot, hcell, hclass⟩ := hfacts
  obtain ⟨cell, hcell⟩ := Option.isSome_iff_exists.mp hcell
  obtain ⟨virtualNodeClass, hclass, hfacts⟩ := Option.map_eq_some_iff.mp hclass
  simp only [Prod.mk.injEq, decide_eq_true_eq, decide_eq_false_iff_not] at hfacts
  have hstart : (clusterSystem SampleAux.sampleCtx sampleConfig sampleCluster.key (AdmittedStep sampleCluster)).starts
      (reconcile SampleAux.sampleCtx sampleConfig sampleRuntime sampleCluster.key) := ⟨sampleRuntime, rfl⟩
  have hinit : Sys.Reachable (clusterSystem SampleAux.sampleCtx sampleConfig sampleCluster.key
    (AdmittedStep sampleCluster))
      (Unresolved sampleCluster) ⟨plainWorld, none⟩ := .init unresolved_plainWorld
  -- about any world that the round leads to, so that the unifier does not compute this one
  have hled : ∀ {w w' : World} {h : List Event} {q : Action (Except Err Result)}, Prog.Runs World.Exec event plainWorld
      (reconcile SampleAux.sampleCtx sampleConfig sampleRuntime sampleCluster.key) h w q →
        AdmittedStep sampleCluster w w' →
      w'.virtualClusters.find sampleCluster.key = some v → w'.cells.find v.cellKey = some cell →
      w'.virtualNodeClasses.find v.classKey = some virtualNodeClass →
        Faithful SampleAux.sampleCtx v cell virtualNodeClass :=
    fun hruns hadmitted hv hcell hclass => (drift_means_replaced SampleAux.sampleCtx sampleConfig sampleCluster
      (((hinit.step (.start hstart)).runs hruns).step (.env hadmitted))
        ⟨v, hv, hdeleting⟩).1 v cell virtualNodeClass hv hsnapshot
        hcell hclass
  exact ⟨v, cell, virtualNodeClass, hv, hcell, hclass, hsnapshot, hfacts.1, fun hprints => hfacts.2
    (hprints "requests.memory"),
    hled runs_resolvedRound rewritten_admitted hv hcell hclass⟩

end KubeCell
