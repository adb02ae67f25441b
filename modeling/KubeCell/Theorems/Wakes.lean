import KubeCell.Lemmas.Stages
import KubeCell.Theorems.Ready

/-!
# No round goes to sleep on unfinished business

A round that ends without an error and without a time after which it is called again leaves nothing to be done: the
object is gone, or released, or its references were refused. That holds whatever the calls are answered, and it is
exactly when a round goes to sleep.
-/

namespace KubeCell

open Prog RoundAux StagesAux

/-- The references of a VirtualCluster are refused: the Cell is ready, and they do not resolve, or differ from the
snapshot that is kept, or the plan is rejected. -/
inductive Refused (Γ : Ctx) (rt : Runtime) (v : VirtualCluster) (cell : Cell)
    (virtualNodeClass : VirtualNodeClass) : Prop where
  | unresolved {e : String} : cell.status.phase = .ready → resolveVirtualCluster Γ cell virtualNodeClass = .error e →
      Refused Γ rt v cell virtualNodeClass
  | drifted {resolved : ResolvedSnapshot} :
    cell.status.phase = .ready → resolveVirtualCluster Γ cell virtualNodeClass = .ok resolved →
      v.status.resolved.hostNamespace ≠ "" → sameResolvedProvider v.status.resolved (v.snapshot resolved) = false →
      Refused Γ rt v cell virtualNodeClass
  | rejected {resolved : ResolvedSnapshot} :
    cell.status.phase = .ready → resolveVirtualCluster Γ cell virtualNodeClass = .ok resolved →
      (v.status.resolved.hostNamespace = "" ∨ sameResolvedProvider v.status.resolved (v.snapshot resolved) = true) →
      (evaluateVirtualClusterPlan Γ rt cell virtualNodeClass).decision = .rejected →
        Refused Γ rt v cell virtualNodeClass

/-- The first calls of a round that provisions: the VirtualCluster is read with the finalizer, or given it. -/
inductive Opening (key : NamespacedName) : List Event → VirtualCluster → Prop where
  | read {v : VirtualCluster} : v.deleting = false → v.held = true →
    Opening key [event (.api (.getVirtualCluster key)) (.ok v)] v
  | adopted {v₀ v : VirtualCluster} : v₀.deleting = false → v₀.held = false →
      Opening key [event (.api (.getVirtualCluster key)) (.ok v₀),
        event (.api (.updateVirtualCluster v₀.adopted)) (.ok v)] v

/-- The histories after which nothing is left to be done until somebody changes the VirtualCluster. -/
inductive AtRest (Γ : Ctx) (rt : Runtime) (key : NamespacedName) : List Event → Prop where
  | missing {e : Err} : e.isNotFound = true → AtRest Γ rt key [event (.api (.getVirtualCluster key)) (.error e)]
  | unheld {v : VirtualCluster} :
    v.deleting = true → v.held = false → AtRest Γ rt key [event (.api (.getVirtualCluster key)) (.ok v)]
  | released {v stored : VirtualCluster} {h : List Event} : v.deleting = true → v.held = true →
      AtRest Γ rt key (event (.api (.getVirtualCluster key)) (.ok v) ::
        (h ++ [event (.api (.updateVirtualCluster v.released)) (.ok stored)]))
  | refused {v : VirtualCluster} {cell : Cell} {virtualNodeClass : VirtualNodeClass} {opening h : List Event} :
    Opening key opening v →
      Refused Γ rt v cell virtualNodeClass → AtRest Γ rt key (opening ++ event (.api (.getCell v.cellKey)) (.ok cell) ::
        event (.api (.getVirtualNodeClass v.spec.classRef.name)) (.ok virtualNodeClass) :: h)

namespace WakesAux

variable {Γ : Ctx} {cfg : Config} {rt : Runtime} {key : NamespacedName} {v cluster : VirtualCluster} {h : List Event}

/-- Whatever its calls are answered, the program ends so. -/
abbrev Always {α : Type} (R : α → Prop) (p : Action α) : Prop := Ends event (fun _ => True) R p

/-- A round that ends without an error is called again after a while. -/
def Awake (r : Except Err Result) : Prop := ∀ result, r = .ok result → result.requeueAfter ≠ none

/-- A round that ends without an error is called again after a while, unless something holds. -/
def AwakeUnless (P : Prop) (r : Except Err Result) : Prop := ∀ result, r = .ok result → (result.requeueAfter = none ↔ P)

theorem always_true {α : Type} (p : Action α) : Always (fun _ => True) p := fun _ _ _ _ => trivial

/-- A round that has failed is called again. -/
theorem awake_error (e : Err) : Awake (.error e) := fun _ h => by cases h

/-! ## Provisioning -/

/-- A round that ends by writing its status asks for the time that it was given. -/
theorem always_persist (desired : VirtualCluster) (requeueAfter : Option Nat) :
    Always (fun r => ∀ result, r = .ok result → result.requeueAfter = requeueAfter) (persist desired requeueAfter) := by
  refine (always_true (updateVirtualClusterStatus desired)).bind fun r _ => ?_
  cases r with
  | error e => exact ends_ret fun result h => by cases h
  | ok _ =>
    refine ends_ret fun result h => ?_
    cases h
    rfl

/-- With a time, it is called again. -/
theorem awake_persist (desired : VirtualCluster) (seconds : Nat) : Always Awake (persist desired (some seconds)) := by
  intro h r hreach hK result hok
  rw [always_persist desired (some seconds) h r hreach hK result hok]
  exact Option.some_ne_none seconds

/-- A round that has failed is called again, and what a call is answered makes no difference. -/
theorem walk_awake : Walk fun _ p => Always Awake p where
  failed _ e := ends_ret (awake_error e)
  call _ hnext := ends_call fun r _ => hnext r

/-- However a round ends after the observation, it is called again. -/
theorem observing_awake {foundationSummary : WorkSummary} :
    Observing Γ rt foundationSummary (fun _ p => Always Awake p) (fun _ _ => True) (fun _ _ _ => True) where
  walk := walk_awake
  extend _ _ := trivial
  extendO _ _ := trivial
  invalid _ := awake_persist _ _
  unpublished _ := trivial
  published _ _ _ := trivial
  unplaced _ := awake_persist _ _
  placed _ _ := trivial
  unrefreshed _ := awake_persist _ _
  refreshed _ _ := trivial
  decided _ _ := awake_persist _ _

/-- However it ends before, too. -/
theorem founding_awake :
    Founding Γ cfg rt (fun _ p => Always Awake p) (fun _ _ => True) (fun _ _ => True) (fun _ _ => True) where
  walk := walk_awake
  extendT _ _ := trivial
  extendS _ _ := trivial
  extendQ _ _ := trivial
  unread _ _ _ := awake_persist _ _
  unrefreshed _ := awake_persist _ _
  foundationFailed _ _ _ := awake_persist _ _
  foundationPending _ _ := awake_persist _ _
  founded _ _ _ := trivial
  instanceFailed _ _ _ := awake_persist _ _
  limited _ _ _ _ := trivial
  unwatched _ _ := awake_persist _ _
  observed _ _ hasObserver _ _ :=
    observing_awake.observeChild (h := []) (Q := fun _ _ => True) (fun hnext => ends_call fun r _ => hnext r)
      (fun _ => awake_persist _ _) (fun _ => trivial) (fun _ => trivial) trivial hasObserver

/-! ## The decision about the references -/

/-- A round that is called again may be said to be, unless something holds that does not. -/
theorem awakeUnless_of_awake {P : Prop} {p : Action (Except Err Result)} (hp : Always Awake p) (hnot : ¬P) :
    Always (AwakeUnless P) p :=
  fun h r hreach hK result hok => iff_of_false (hp h r hreach hK result hok) hnot

/-- Without a time it sleeps, and may. -/
theorem awakeUnless_persist {P : Prop} (desired : VirtualCluster) (hP : P) :
    Always (AwakeUnless P) (persist desired none) :=
  fun h r hreach hK result hok => iff_of_true (always_persist desired none h r hreach hK result hok) hP

/-- The plan of references that resolve without drift decides. -/
theorem awakeUnless_planStage {cell : Cell} {virtualNodeClass : VirtualNodeClass} {resolved : ResolvedSnapshot}
    (hready : cell.status.phase = .ready) (hresolves : resolveVirtualCluster Γ cell virtualNodeClass = .ok resolved)
    (hdrift : v.status.resolved.hostNamespace = "" ∨ sameResolvedProvider v.status.resolved
      (v.snapshot resolved) = true)
    (cluster : VirtualCluster) (snapshot : ResolvedSnapshot) :
    Always (AwakeUnless (Refused Γ rt v cell virtualNodeClass))
      (planStage Γ cfg rt cluster cell virtualNodeClass snapshot) := by
  have hrefused : Refused Γ rt v cell virtualNodeClass →
    (evaluateVirtualClusterPlan Γ rt cell virtualNodeClass).decision = .rejected := by
    intro h
    cases h with
    | unresolved _ herror =>
      rw [hresolves] at herror
      cases herror
    | drifted _ hresolves' hne hdiffers =>
      rw [hresolves, Except.ok.injEq] at hresolves'
      subst hresolves'
      rcases hdrift with hempty | hsame
      · exact absurd hempty hne
      · rw [hdiffers] at hsame
        cases hsame
    | rejected _ _ _ hdecision => exact hdecision
  unfold planStage
  dsimp only
  cases hdecision : (evaluateVirtualClusterPlan Γ rt cell virtualNodeClass).decision with
  | rejected => exact awakeUnless_persist _ (.rejected hready hresolves hdrift hdecision)
  | unknown =>
    refine awakeUnless_of_awake (awake_persist _ _) fun h => ?_
    rw [hrefused h] at hdecision
    cases hdecision
  | accepted =>
    refine awakeUnless_of_awake (founding_awake.hostStage (h := []) trivial _ _) fun h => ?_
    rw [hrefused h] at hdecision
    cases hdecision

/-- From the resolution on, a round sleeps if and only if the references are refused. -/
theorem awakeUnless_resolveStage {cell : Cell} {virtualNodeClass : VirtualNodeClass}
    (hready : cell.status.phase = .ready) (hsnapshot : cluster.status.resolved = v.status.resolved)
    (hnames : ∀ resolved, cluster.snapshot resolved = v.snapshot resolved) :
    Always (AwakeUnless (Refused Γ rt v cell virtualNodeClass))
      (resolveStage Γ cfg rt cluster cell virtualNodeClass) := by
  have hkept : (cluster.validated rt).status.resolved = v.status.resolved := hsnapshot
  unfold resolveStage
  cases hresolves : resolveVirtualCluster Γ cell virtualNodeClass with
  | error e => exact awakeUnless_persist _ (.unresolved hready hresolves)
  | ok resolved =>
    dsimp only
    unfold snapshotStage
    rw [hkept, hnames]
    split_ifs with hempty hdiffers
    · exact awakeUnless_planStage hready hresolves (Or.inl hempty) _ _
    · exact awakeUnless_persist _ (.drifted hready hresolves hempty (by simpa using hdiffers))
    · exact awakeUnless_planStage hready hresolves (Or.inr (by simpa using hdiffers)) _ _

/-- Once the VirtualCluster is read, a round that ends without an error has read its references. -/
theorem reaches_referenceStage {result : Result}
    (hreach : Reaches event (referenceStage Γ cfg rt v) h (.ret (.ok result))) :
    ∃ cell virtualNodeClass h', h = event (.api (.getCell v.cellKey)) (.ok cell) ::
      event (.api (.getVirtualNodeClass v.spec.classRef.name)) (.ok virtualNodeClass) :: h' ∧
      (result.requeueAfter = none ↔ Refused Γ rt v cell virtualNodeClass) := by
  cases hreach with
  | @call _ _ r h _ hrest =>
    cases r with
    | error e => cases hrest
    | ok cell =>
      cases hrest with
      | @call _ _ r h _ hrest =>
        cases r with
        | error e => cases hrest
        | ok virtualNodeClass =>
          refine ⟨cell, virtualNodeClass, h, rfl, ?_⟩
          have hends : Always (AwakeUnless (Refused Γ rt v cell virtualNodeClass)) (if cell.status.phase ≠ .ready then
              persist ({ v with status.observedGeneration := v.metadata.generation, status.phase := .degraded }.setCondition rt
                "CellSelected" .false "CellNotReady" "referenced Cell is not ready") (some 10)
              else resolveStage Γ cfg rt { v with status.observedGeneration := v.metadata.generation } cell
                virtualNodeClass) := by
            split_ifs with hready
            · refine awakeUnless_of_awake (awake_persist _ _) fun h => ?_
              cases h with
              | unresolved h => exact hready h
              | drifted h => exact hready h
              | rejected h => exact hready h
            · exact awakeUnless_resolveStage (not_not.mp hready) rfl fun _ => rfl
          exact hends h _ hrest (fun _ _ => trivial) result rfl

/-! ## The deletion -/

/-- A program of which nothing is asked before it ends. -/
abbrev Leaves {α : Type} (Q : List Event → α → Prop) (p : Action α) (h : List Event) : Prop :=
  Guarded event (fun _ _ => True) Q p h

/-- Nothing is said of the end either. -/
theorem leaves_true {α : Type} (p : Action α) (h : List Event) : Leaves (fun _ _ => True) p h :=
  guarded_of_forall (fun _ _ => trivial) (fun _ _ => trivial) p h

/-- The tries of a call succeed when one of them does. -/
theorem leaves_retryOnConflict {P : List Event → Prop} {f : Action (Except Err Unit)}
    (hf : ∀ h, Leaves (fun h' r => r = .ok () → P h') f h) (n : Nat) (h : List Event) :
    Leaves (fun h' r => r = .ok () → P h') (retryOnConflict f n) h := by
  induction n generalizing h with
  | zero => exact hf h
  | succ n ih =>
    rw [retryOnConflict, Leaves, guarded_bind]
    refine (hf h).mono (fun _ _ _ => trivial) fun h' r hr => ?_
    cases r with
    | ok _ => exact hr
    | error e =>
      dsimp only
      split_ifs
      · exact ih h'
      · intro hok
        cases hok

/-- The last call of a round that ends with a status has written it. -/
def WroteLast (h : List Event) : Prop :=
  ∃ h' o stored, h = h' ++ [event (.api (.updateVirtualClusterStatus o)) (.ok stored)]

/-- A round that ends without an error has written its status last. -/
theorem leaves_persist (desired : VirtualCluster) (requeueAfter : Option Nat) (h : List Event) :
    Leaves (fun h' r => ∀ result, r = .ok result → result.requeueAfter = requeueAfter ∧ WroteLast h')
      (persist desired requeueAfter) h := by
  have htry : ∀ h, Leaves (fun h' r => r = .ok () → WroteLast h') (tryUpdateStatus desired) h := by
    intro h
    refine ⟨trivial, fun r => ?_⟩
    cases r with
    | error e =>
      intro hok
      cases hok
    | ok current =>
      refine ⟨trivial, fun r => ?_⟩
      cases r with
      | error e =>
        intro hok
        cases hok
      | ok stored => exact fun _ => ⟨_, _, stored, rfl⟩
  rw [persist, Leaves, guarded_bind]
  refine (leaves_retryOnConflict htry 4 h).mono (fun _ _ _ => trivial) fun h' r hr => ?_
  cases r with
  | error e =>
    intro result hok
    cases hok
  | ok _ =>
    intro result hok
    cases hok
    exact ⟨rfl, hr rfl⟩

/-- The last call of the deletion takes the finalizer away. -/
def ReleasedLast (v : VirtualCluster) (h : List Event) : Prop :=
  ∃ h' stored, h = h' ++ [event (.api (.updateVirtualCluster v.released)) (.ok stored)]

/-- A round of the deletion is called again after a while, unless its last call takes the finalizer away. -/
def Tends (v : VirtualCluster) (h : List Event) (r : Except Err Result) : Prop :=
  ∀ result, r = .ok result → (result.requeueAfter = none ↔ ReleasedLast v h)

/-- A deletion that ends with its status and a time is called again. -/
theorem tends_persist (desired : VirtualCluster) (seconds : Nat) (h : List Event) :
    Leaves (Tends v) (persist desired (some seconds)) h := by
  refine (leaves_persist desired (some seconds) h).mono (fun _ _ _ => trivial) fun h' r hr result hok => ?_
  obtain ⟨hrequeue, h₁, o, stored, hlast⟩ := hr result hok
  refine iff_of_false (by rw [hrequeue]; exact Option.some_ne_none seconds) ?_
  rintro ⟨h₂, stored', hlast'⟩
  obtain ⟨-, hevent⟩ := List.append_singleton_inj.mp (hlast.symm.trans hlast')
  cases hevent

/-- Nothing is asked of one that has failed. -/
theorem tends_error (e : Err) (h : List Event) : Tends v h (.error e) := fun _ hok => by cases hok

/-- A deletion sleeps once the finalizer is gone, and not before. -/
theorem tends_deleteInOrder (instanceWork foundation : Option ManifestWork) (h : List Event) :
    Leaves (Tends v) (deleteInOrder rt v instanceWork foundation) h := by
  have hrequest : ∀ (work : ManifestWork) (reason message : String) (h : List Event),
      Leaves (Tends v) (requestDeletion rt v work reason message) h := by
    intro work reason message h
    refine ⟨trivial, fun r => ?_⟩
    cases r with
    | error e =>
      change Leaves (Tends v) (if !e.isNotFound then _ else _) _
      split_ifs
      · exact tends_error e _
      · exact tends_persist _ _ _
    | ok _ => exact tends_persist _ _ _
  unfold deleteInOrder
  dsimp only
  split_ifs
  · exact tends_persist _ _ _
  · cases instanceWork with
    | some work => exact hrequest _ _ _ _
    | none =>
      cases foundation with
      | some work => exact hrequest _ _ _ _
      | none =>
        refine ⟨trivial, fun r => ?_⟩
        cases r with
        | error e => exact tends_error e _
        | ok stored =>
          intro result hok
          cases hok
          exact iff_of_true rfl ⟨h, stored, rfl⟩

/-- So it does from the reading of the Works on. -/
theorem tends_deleteWorks (managedCluster : String) (h : List Event) :
    Leaves (Tends v) (deleteWorks rt v managedCluster) h := by
  rw [deleteWorks, Leaves, guarded_bind]
  refine (leaves_true _ h).mono (fun _ _ _ => trivial) fun h' instanceWork _ => ?_
  rw [guarded_bind]
  refine (leaves_true _ h').mono (fun _ _ _ => trivial) fun h'' foundation _ => ?_
  cases orMissing instanceWork with
  | error e => exact tends_error e _
  | ok instanceWork =>
    cases orMissing foundation with
    | error e => exact tends_error e _
    | ok foundation => exact tends_deleteInOrder _ _ _

/-- So does a whole round of the deletion. -/
theorem tends_reconcileDeletion (hheld : v.held = true) (h : List Event) :
    Leaves (Tends v) (reconcileDeletion rt v) h := by
  have hcontains : containsString v.metadata.finalizers virtualClusterFinalizer = true := hheld
  rw [reconcileDeletion, hcontains]
  simp only [Bool.not_true, Bool.false_eq_true, if_false]
  rw [Leaves, guarded_bind]
  refine (leaves_true _ h).mono (fun _ _ _ => trivial) fun h' r _ => ?_
  cases r with
  | error e => exact tends_error e _
  | ok _ =>
    dsimp only
    split_ifs
    · refine ⟨trivial, fun r => ?_⟩
      cases r with
      | error e => exact tends_persist _ _ _
      | ok referenced => exact tends_deleteWorks _ _
    · exact tends_deleteWorks _ _

/-! ## Reading a history back -/

/-- The histories of rounds that provision tell the references apart. -/
theorem refused_of_atRest {opening : List Event} {cell : Cell} {virtualNodeClass : VirtualNodeClass}
    (hopening : Opening key opening v)
    (hrest : AtRest Γ rt key (opening ++ event (.api (.getCell v.cellKey)) (.ok cell) :: event
      (.api (.getVirtualNodeClass v.spec.classRef.name)) (.ok virtualNodeClass) :: h)) :
    Refused Γ rt v cell virtualNodeClass := by
  generalize hevents : opening ++ event (.api (.getCell v.cellKey)) (.ok cell) ::
    event (.api (.getVirtualNodeClass v.spec.classRef.name)) (.ok virtualNodeClass) :: h = events at hrest
  cases hopening with
  | read hlive hheld =>
    cases hrest with
    | missing => cases hevents
    | unheld => cases hevents
    | released hdeleting hheld' =>
      injection hevents with hfirst
      cases hfirst
      rw [hdeleting] at hlive
      cases hlive
    | refused hopening' hrefused =>
      cases hopening' with
      | read =>
        cases hevents
        exact hrefused
      | adopted => cases hevents
  | adopted hlive hheld =>
    cases hrest with
    | missing => cases hevents
    | unheld => cases hevents
    | released hdeleting hheld' =>
      injection hevents with hfirst
      cases hfirst
      rw [hdeleting] at hlive
      cases hlive
    | refused hopening' hrefused =>
      cases hopening' with
      | read => cases hevents
      | adopted =>
        cases hevents
        exact hrefused

/-- A round that finds the VirtualCluster being deleted. -/
theorem requeues_of_deleting {result : Result} (hdeleting : v.deleting = true)
    (hreach : Reaches event (reconcileDeletion rt v) h (.ret (.ok result))) :
    result.requeueAfter = none ↔ AtRest Γ rt key (event (.api (.getVirtualCluster key)) (.ok v) :: h) := by
  by_cases hheld : v.held = true
  · have hends : Tends v ([] ++ h) (.ok result) := (tends_reconcileDeletion hheld []).reaches hreach
    rw [hends result rfl, List.nil_append]
    constructor
    · rintro ⟨h', stored, rfl⟩
      exact .released hdeleting hheld
    · intro hrest
      generalize hevents : event (.api (.getVirtualCluster key)) (.ok v) :: h = events at hrest
      cases hrest with
      | missing => cases hevents
      | unheld _ hunheld =>
        cases hevents
        rw [hheld] at hunheld
        cases hunheld
      | released =>
        cases hevents
        exact ⟨_, _, rfl⟩
      | refused hopening =>
        cases hopening with
        | read hlive =>
          cases hevents
          rw [hdeleting] at hlive
          cases hlive
        | adopted hlive =>
          cases hevents
          rw [hdeleting] at hlive
          cases hlive
  · rw [Bool.not_eq_true] at hheld
    have hcontains : containsString v.metadata.finalizers virtualClusterFinalizer = false := hheld
    rw [reconcileDeletion, hcontains] at hreach
    cases hreach
    exact iff_of_true rfl (.unheld hdeleting hheld)

end WakesAux

open WakesAux

/-- Whatever the calls of a round are answered: when it ends without an error, it is called again after a while,
unless nothing is left to be done, and then it is not. -/
theorem requeues_unless_at_rest (Γ : Ctx) (cfg : Config) (rt : Runtime) (key : NamespacedName) {h : List Event}
    {result : Result} (hrun : Reaches event (reconcile Γ cfg rt key) h (.ret (.ok result))) :
    result.requeueAfter = none ↔ AtRest Γ rt key h := by
  have hopened : ∀ {opening h : List Event} {v : VirtualCluster}, Opening key opening v →
      Reaches event (referenceStage Γ cfg rt v) h (.ret (.ok result)) →
        (result.requeueAfter = none ↔ AtRest Γ rt key (opening ++ h)) := by
    intro opening h v hopening hreach
    obtain ⟨cell, virtualNodeClass, h', rfl, hiff⟩ := reaches_referenceStage hreach
    rw [hiff]
    exact ⟨fun hrefused => .refused hopening hrefused, fun hrest => refused_of_atRest hopening hrest⟩
  cases hrun with
  | @call _ _ r h _ hrest =>
    cases r with
    | error e =>
      change Reaches event (.ret (if e.isNotFound then Except.ok ({} : Result) else .error e)) h _ at hrest
      split_ifs at hrest with hmissing
      · cases hrest
        exact iff_of_true rfl (.missing hmissing)
      · cases hrest
    | ok v =>
      change Reaches event (if v.deleting then reconcileDeletion rt v else if !v.held then _ else referenceStage Γ cfg
        rt v) h _ at hrest
      split_ifs at hrest with hdeleting hheld
      · exact requeues_of_deleting hdeleting hrest
      · rw [Bool.not_eq_true] at hdeleting
        rw [Bool.not_eq_true'] at hheld
        cases hrest with
        | @call _ _ r h _ hrest =>
          cases r with
          | error e => cases hrest
          | ok v' => exact hopened (.adopted hdeleting hheld) hrest
      · rw [Bool.not_eq_true] at hdeleting
        exact hopened (.read hdeleting (by simpa using hheld)) hrest

namespace WakesAux

open SampleAux

/-- A round for a Cell that declares no machine profile. -/
def undeclaredRound : World × List Event × Action (Except Err Result) :=
  sampleRound { sampleWorld (clusterIn .ready {}) [] with cells := Store.empty.put { readyCell with spec.machineProfile.name := "" } }
    (sampleHost (.ok [sampleNode]) (.ok {})) 5

/-- When a program that has ended without an error is called again. -/
def calledAgain : Action (Except Err Result) → Option (Option Nat)
  | .ret (.ok result) => some result.requeueAfter
  | _ => none

/-- What is left of a round that is over is its result. -/
theorem eq_ret_of_calledAgain {p : Action (Except Err Result)} {seconds : Option Nat}
    (hp : calledAgain p = some seconds) :
    ∃ result, p = .ret (.ok result) ∧ result.requeueAfter = seconds := by
  cases p with
  | call op next => cases hp
  | ret r =>
    cases r with
    | error e => cases hp
    | ok result => exact ⟨result, rfl, Option.some.inj hp⟩

/-- The round over a device that the Cell does not declare is a round of the sample. -/
theorem reaches_undeclaredRound :
    Reaches event (reconcile sampleCtx sampleConfig sampleRuntime DriftAux.sampleCluster.key)
    undeclaredRound.2.1 undeclaredRound.2.2 := by
  rw [undeclaredRound]
  generalize 5 = n
  exact Prog.reaches_drive _ n _ _

end WakesAux

theorem requeues_unless_at_rest_sample :
    AtRest SampleAux.sampleCtx SampleAux.sampleRuntime DriftAux.sampleCluster.key undeclaredRound.2.1 := by
  have hagain : calledAgain undeclaredRound.2.2 = some none := by decide +kernel
  obtain ⟨result, hend, hnone⟩ := eq_ret_of_calledAgain hagain
  exact (requeues_unless_at_rest _ _ _ _ (hend ▸ reaches_undeclaredRound)).mp hnone

end KubeCell
