import KubeCell.Reconcile

/-!
# The plan reconciler

`internal/controller/virtualclusterplan_controller.go`: a round of `VirtualClusterPlanReconciler.Reconcile`,
as a program of calls. A plan is evaluated once, against the Cell and the class it refers to, and what comes
out is kept in its status.
-/

namespace KubeCell

/-- The name a plan is stored under. -/
abbrev VirtualClusterPlan.key (plan : VirtualClusterPlan) : NamespacedName := plan.metadata.key

/-- The plan has been deleted. -/
def VirtualClusterPlan.deleting (plan : VirtualClusterPlan) : Bool := plan.metadata.deletionTimestamp.isSome

/-! ## The evaluation -/

/-- `planResolvedSummary`. -/
def planResolvedSummary (resolved : ResolvedSnapshot) (virtualNodeClass : VirtualNodeClass) :
    VirtualClusterPlanResolvedSummary :=
  { cellUID := resolved.cellUID
    managedClusterName := resolved.managedClusterName
    classUID := resolved.classUID
    profileHash := resolved.profileHash
    machineProfileName := resolved.machineProfileName
    k3kVersion := resolved.k3kVersion
    childK3sVersion := resolved.childK3sVersion
    workloadRequests := entitlementRequests virtualNodeClass.spec.workloadHard
    reservation := Platform.combinedReservation
    storageClassName := virtualNodeClass.spec.storageClassName }

/-- The summary of an evaluation; it is empty when the references do not resolve. -/
def planSummary (Γ : Ctx) (cell : Cell) (virtualNodeClass : VirtualNodeClass) : VirtualClusterPlanResolvedSummary :=
  match resolveVirtualCluster Γ cell virtualNodeClass with
  | .error _ => {}
  | .ok resolved => planResolvedSummary resolved virtualNodeClass

/-- The evaluation of a plan whose references cannot be read. -/
def unreferencedEvaluation (rt : Runtime) (e : Err) : PlanEvaluation :=
  finalizePlanEvaluation rt [planCheck rt "References" .unknown "ReferenceUnavailable" e.message]

/-- The plan with the outcome of its evaluation. -/
def VirtualClusterPlan.evaluated (plan : VirtualClusterPlan) (evaluation : PlanEvaluation)
    (summary : VirtualClusterPlanResolvedSummary) :
    VirtualClusterPlan :=
  { plan with
    status :=
      { observedGeneration := plan.metadata.generation
        phase := some evaluation.decision
        decision := some evaluation.decision
        checks := evaluation.checks
        resolved := summary
        inventoryObservedAt := evaluation.inventoryObservedAt
        inventoryFresh := evaluation.inventoryFresh
        expiresAt := evaluation.expiresAt } }

/-! ## Writing the status -/

/-- One try of `updateVirtualClusterPlanStatus`: the status is put on the object as it is now. -/
def tryUpdatePlanStatus (desired : VirtualClusterPlan) : Action (Except Err Unit) := do
  match ← api (.getVirtualClusterPlan desired.key) with
  | .error e => return .error e
  | .ok current =>
    match ← api (.updateVirtualClusterPlanStatus { current with status := desired.status }) with
    | .error e => return .error e
    | .ok _ => return .ok ()

/-- `updateVirtualClusterPlanStatus`. -/
def updateVirtualClusterPlanStatus (desired : VirtualClusterPlan) : Action (Except Err Unit) :=
  retryOnConflict (tryUpdatePlanStatus desired) 4

/-- The end of a round. -/
def persistPlan (desired : VirtualClusterPlan) : Action (Except Err Result) := do
  match ← updateVirtualClusterPlanStatus desired with
  | .error e => return .error e
  | .ok () => return .ok {}

/-! ## The round -/

/-- The Cell and the class a plan refers to are read, the class only once the Cell was. -/
def planReferences (spec : VirtualClusterSpec) : Action (Except Err (Cell × VirtualNodeClass)) := do
  match ← api (.getCell ⟨spec.cellRef.ns, spec.cellRef.name⟩) with
  | .error e => return .error e
  | .ok cell =>
    match ← api (.getVirtualNodeClass spec.classRef.name) with
    | .error e => return .error e
    | .ok virtualNodeClass => return .ok (cell, virtualNodeClass)

/-- `VirtualClusterPlanReconciler.Reconcile`. -/
def planReconcile (Γ : Ctx) (rt : Runtime) (key : NamespacedName) : Action (Except Err Result) := do
  match ← api (.getVirtualClusterPlan key) with
  | .error e => return if e.isNotFound then .ok {} else .error e
  | .ok plan =>
    if plan.deleting then return .ok {}
    match ← planReferences plan.spec.virtualCluster with
    | .error e => persistPlan (plan.evaluated (unreferencedEvaluation rt e) {})
    | .ok (cell, virtualNodeClass) =>
      persistPlan (plan.evaluated (evaluateVirtualClusterPlan Γ rt cell virtualNodeClass)
        (planSummary Γ cell virtualNodeClass))

end KubeCell
