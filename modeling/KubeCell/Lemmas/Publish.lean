import KubeCell.Lemmas.Stages

/-!
# What follows an observation

A round that observes a child cluster with an endpoint goes on by publishing its kubeconfig. The only call that
observes is in `observeChild`, and what comes after it observes nothing.
-/

namespace KubeCell

open Prog ProvisionAux RoundAux StagesAux

namespace PublishAux

/-- The program goes on by reading the Secret of a VirtualCluster, and by writing it over what it reads. -/
def Publishes (rest : Action (Except Err Result)) : Prop :=
  ∃ (cluster : VirtualCluster) (data : List UInt8) (next : Except Err Secret → Action (Except Err Result)),
    rest = .call (.api (.getSecret cluster.secretKey)) next ∧
    ∀ current : Secret, ∃ next', next (.ok current) = .call (.api (.updateSecret
      { adminSecret cluster data with metadata.resourceVersion := current.metadata.resourceVersion })) next'

/-- An observation of a published child cluster is followed by publishing the kubeconfig. -/
def Publishing (Γ : Ctx) : (call : Call) → call.Res → Action (Except Err Result) → Prop
  | .host (.observe _ _), .ok child, rest => child.published Γ true → Publishes rest
  | _, _, _ => True

/-- A call that is no observation of the child cluster. -/
def noObservation : Call → Prop
  | .host (.observe _ _) => False
  | _ => True

variable {Γ : Ctx} {cfg : Config} {rt : Runtime}

/-- Nothing is asked after a call that observes nothing. -/
theorem publishing_of_noObservation (call : Call) (r : call.Res) (rest : Action (Except Err Result))
    (hcall : noObservation call) :
    Publishing Γ call r rest := by
  cases call with
  | api call => trivial
  | host call =>
    cases call with
    | observe => exact hcall.elim
    | _ => trivial

/-- What observes nothing may come first. -/
theorem answered_bind {α : Type} {p : Action α} (hp : Neutral noObservation p) {f : α → Action (Except Err Result)}
    (hf : ∀ a, Answered (Publishing Γ) (f a)) : Answered (Publishing Γ) (p >>= f) :=
  hp.answered_bind publishing_of_noObservation hf

/-- Nothing is asked of a part that observes nothing. -/
theorem answered_of_neutral {p : Action (Except Err Result)} (hp : Neutral noObservation p) :
    Answered (Publishing Γ) p :=
  hp.answered publishing_of_noObservation

/-- No call to the API server observes the child. -/
theorem neutral_api (call : ApiCall) : Neutral noObservation (api call) := ⟨trivial, fun _ => trivial⟩

theorem noObservation_of_quiet (call : Call) (hquiet : quietCall call = true) : noObservation call := by
  cases call with
  | api call => trivial
  | host call =>
    cases call with
    | observe => cases hquiet
    | _ => trivial

theorem neutral_persist (desired : VirtualCluster) (requeueAfter : Option Nat) :
    Neutral noObservation (persist desired requeueAfter) :=
  neutral_status (fun _ => trivial) (fun _ => trivial) desired requeueAfter

/-! ## The stages -/

section Stages

variable {target : Target} {foundationSummary : WorkSummary} {instanceCurrent : ManifestWork}

/-- After the observation there is no other. -/
theorem observing_neutral :
    Observing Γ rt foundationSummary (fun _ p => Neutral noObservation p) (fun _ _ => True) (fun _ _ _ => True) where
  walk := walk_neutral noObservation_of_quiet
  extend _ _ := trivial
  extendO _ _ := trivial
  invalid _ := neutral_persist _ _
  unpublished _ := trivial
  published _ _ _ := trivial
  unplaced _ := neutral_persist _ _
  placed _ _ := trivial
  unrefreshed _ := neutral_persist _ _
  refreshed _ _ := trivial
  decided _ _ := neutral_persist _ _

/-- Writing the instance Work observes nothing. -/
theorem neutral_writeInstance (Γ : Ctx) (cluster : VirtualCluster) (hasObserver : Bool) (mirrored : List Manifest)
    (observedOK mirrorOK : Bool) :
    Neutral noObservation
      (writeInstance rt cluster target foundationSummary instanceCurrent hasObserver mirrored observedOK mirrorOK) :=
  (observing_neutral (Γ := Γ)).writeInstance (h := []) trivial mirrored observedOK mirrorOK

/-- Nor does anything else after the observation. -/
theorem neutral_credentialStage (cluster : VirtualCluster) (child : ChildObservation) :
    Neutral noObservation (credentialStage Γ cfg rt target foundationSummary instanceCurrent cluster child) :=
  observing_neutral.credentialStage (h := []) trivial

/-- A child cluster that is published has its kubeconfig published. -/
theorem publishes_credentialStage (cluster : VirtualCluster) (child : ChildObservation)
    (hpublished : child.published Γ true) :
    Publishes (credentialStage Γ cfg rt target foundationSummary instanceCurrent cluster child) := by
  obtain ⟨hport, hendpoint, hhost⟩ := hpublished
  unfold credentialStage
  rw [if_pos ⟨hport, hendpoint⟩]
  dsimp only
  rw [if_neg (of_decide_eq_true hhost)]
  exact ⟨cluster, child.kubeconfig, _, rfl, fun current => ⟨_, rfl⟩⟩

/-- An observation is answered by a publication, where there is something to publish. -/
theorem answered_observeChild (cluster : VirtualCluster) (hasObserver : Bool) :
    Answered (Publishing Γ) (observeChild Γ cfg rt target foundationSummary instanceCurrent cluster hasObserver) := by
  unfold observeChild
  split_ifs
  · intro r
    cases r with
    | error e => exact ⟨trivial, answered_of_neutral (neutral_persist _ _)⟩
    | ok child => exact ⟨publishes_credentialStage _ child, answered_of_neutral (neutral_credentialStage _ _)⟩
  · exact answered_of_neutral (neutral_writeInstance Γ _ _ _ _ _)

end Stages

/-- Up to the observation all calls are quiet. -/
theorem founding_answered :
    Founding Γ cfg rt (fun _ p => Answered (Publishing Γ) p) (fun _ _ => True) (fun _ _ => True) (fun _ _ => True) where
  walk :=
    { failed := fun _ _ => trivial
      call := fun hquiet hnext r => ⟨publishing_of_noObservation _ _ _ (noObservation_of_quiet _ hquiet), hnext r⟩ }
  extendT _ _ := trivial
  extendS _ _ := trivial
  extendQ _ _ := trivial
  unread _ _ _ := answered_of_neutral (neutral_persist _ _)
  unrefreshed _ := answered_of_neutral (neutral_persist _ _)
  foundationFailed _ _ _ := answered_of_neutral (neutral_persist _ _)
  foundationPending _ _ := answered_of_neutral (neutral_persist _ _)
  founded _ _ _ := trivial
  instanceFailed _ _ _ := answered_of_neutral (neutral_persist _ _)
  limited _ _ _ _ := trivial
  unwatched _ _ := answered_of_neutral (neutral_persist _ _)
  observed _ _ _ _ _ := answered_observeChild _ _

/-- After the resolution, an observation is answered by a publication, too. -/
theorem answered_resolveStage (cluster : VirtualCluster) (cell : Cell) (virtualNodeClass : VirtualNodeClass) :
    Answered (Publishing Γ) (resolveStage Γ cfg rt cluster cell virtualNodeClass) := by
  have hplan : ∀ cluster resolved, Answered (Publishing Γ)
    (planStage Γ cfg rt cluster cell virtualNodeClass resolved) := by
    intro cluster resolved
    unfold planStage
    dsimp only
    cases (evaluateVirtualClusterPlan Γ rt cell virtualNodeClass).decision with
    | rejected => exact answered_of_neutral (neutral_persist _ _)
    | unknown => exact answered_of_neutral (neutral_persist _ _)
    | accepted => exact founding_answered.hostStage (h := []) trivial cell resolved
  unfold resolveStage
  cases resolveVirtualCluster Γ cell virtualNodeClass with
  | error e => exact answered_of_neutral (neutral_persist _ _)
  | ok resolved =>
    dsimp only
    unfold snapshotStage
    split_ifs
    · exact hplan _ _
    · exact answered_of_neutral (neutral_persist _ _)
    · exact hplan _ _

/-- So it is after the reading of the references. -/
theorem answered_referenceStage (cluster : VirtualCluster) :
    Answered (Publishing Γ) (referenceStage Γ cfg rt cluster) := by
  refine answered_bind (neutral_api _) fun r => ?_
  cases r with
  | error e => trivial
  | ok cell =>
    refine answered_bind (neutral_api _) fun r => ?_
    cases r with
    | error e => trivial
    | ok virtualNodeClass =>
      dsimp only
      split_ifs
      · exact answered_of_neutral (neutral_persist _ _)
      · exact answered_resolveStage _ _ _

/-- The deletion observes nothing. -/
theorem neutral_reconcileDeletion (v : VirtualCluster) : Neutral noObservation (reconcileDeletion rt v) := by
  have hdeleting : Deleting rt v (fun _ p => Neutral noObservation p) fun _ => True :=
    { walk := walk_neutral noObservation_of_quiet
      extend := fun _ _ => trivial
      cleaned := fun _ _ _ _ _ => neutral_persist _ _
      done := fun _ _ => trivial }
  exact hdeleting.reconcileDeletion (h := []) fun _ => trivial

/-- In every round an observation of a published child cluster is followed by publishing the kubeconfig. -/
theorem answered_reconcile (Γ : Ctx) (cfg : Config) (rt : Runtime) (key : NamespacedName) :
    Answered (Publishing Γ) (reconcile Γ cfg rt key) := by
  refine answered_bind (neutral_api _) fun r => ?_
  cases r with
  | error e => trivial
  | ok v =>
    dsimp only
    split_ifs
    · exact answered_of_neutral (neutral_reconcileDeletion _)
    · refine answered_bind (neutral_api _) fun r => ?_
      cases r with
      | error e => trivial
      | ok v => exact answered_referenceStage _
    · exact answered_referenceStage _

end PublishAux

end KubeCell
