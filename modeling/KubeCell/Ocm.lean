import KubeCell.Render
import KubeCell.Lib.Store

/-!
# Works

`internal/provider/ocm/works.go` and the part of `feedback.go` the reconciler uses: the two ManifestWorks of a
VirtualCluster, and what their conditions say. A manifest is kept as the rendered object; that it is marshalled to
JSON on the way is left out.
-/

namespace KubeCell

/-- A rule that has one field of an applied object reported back. -/
structure ManifestConfigOption where
  group : String := ""
  resource : String
  name : String
  ns : String
  jsonPaths : List (String × String)
  deriving DecidableEq, Repr

/-- A ManifestWork: the manifests it carries to the ManagedCluster whose namespace it is in, and what
the agent says of them. -/
structure ManifestWork where
  metadata : ObjectMeta
  manifests : List Manifest := []
  manifestConfigs : List ManifestConfigOption := []
  conditions : List Condition := []

instance : Resource ManifestWork where
  metadata := ManifestWork.metadata
  withMetadata o m := { o with metadata := m }
  withStatusOf o source := { o with conditions := (source.map (·.conditions)).getD [] }
  metadata_withMetadata _ _ := rfl
  metadata_withStatusOf _ _ := rfl

/-- `workLabels`. -/
def workLabels (cluster : VirtualCluster) (resolved : ResolvedSnapshot) : StringMap := cluster.ownedLabels resolved

/-- `BuildFoundationWork`. -/
def buildFoundationWork (cluster : VirtualCluster) (resolved : ResolvedSnapshot) (names : Names)
    (managedClusterName : String) :
    ManifestWork :=
  { metadata := { name := names.foundationWork, ns := managedClusterName, labels := workLabels cluster resolved }
    manifests := renderFoundation cluster resolved names }

/-- `renderVirtualClusterPolicy`. -/
def renderVirtualClusterPolicy (resolved : ResolvedSnapshot) (names : Names) (labels : StringMap) : Manifest :=
  .virtualClusterPolicy { name := names.k3kCluster, labels := labels } "shared" (quantityMap resolved.quota)
    Platform.podSecurityEnforceLevel

/-- `instanceFeedback`. -/
def instanceFeedback (names : Names) : List ManifestConfigOption :=
  [{ group := "k3k.io", resource := "clusters", name := names.k3kCluster, ns := names.hostNamespace
     jsonPaths := [("phase", ".status.phase")] },
   { resource := "services", name := "k3k-" ++ names.k3kCluster ++ "-service", ns := names.hostNamespace
     jsonPaths := [("nodePort", ".spec.ports[0].nodePort")] }]

/-- `BuildInstanceWork`. -/
def buildInstanceWork (cluster : VirtualCluster) (resolved : ResolvedSnapshot) (names : Names)
    (managedClusterName : String) (mirrored : List Manifest) : ManifestWork :=
  { metadata := { name := names.instanceWork, ns := managedClusterName, labels := workLabels cluster resolved }
    manifests := renderK3kCluster cluster resolved names ::
      renderVirtualClusterPolicy resolved names (workLabels cluster resolved) :: mirrored
    manifestConfigs := instanceFeedback names }

/-! ## Conditions -/

/-- `hasCondition`. -/
def hasCondition (conditions : List Condition) (conditionType : String) (status : ConditionStatus) : Bool :=
  conditions.any fun condition => condition.type == conditionType && condition.status == status

/-- `IsApplied`. -/
def isApplied (work : ManifestWork) : Bool := hasCondition work.conditions "Applied" .true

/-- `WorkSummary`. -/
structure WorkSummary where
  applied : Bool := false
  progressing : Bool := false
  failed : Bool := false
  message : String := ""
  deriving DecidableEq, Repr

/-- One condition of the summary; a later condition of a type takes the place of an earlier one. -/
def addCondition (summary : WorkSummary) (condition : Condition) : WorkSummary :=
  if condition.type = "Applied" then { summary with applied := condition.status == .true }
  else if condition.type = "Progressing" then { summary with progressing := condition.status == .true }
  else if condition.type = "Degraded" then
    { summary with
      failed := condition.status == .true
      message := if condition.message ≠ "" then condition.message else summary.message }
  else summary

/-- `SummarizeWork`. -/
def summarizeWork (work : ManifestWork) : WorkSummary := work.conditions.foldl addCondition {}

/-- A Work that is summarized as applied has a condition that says so. -/
theorem isApplied_of_summary {work : ManifestWork} (h : (summarizeWork work).applied = true) :
    isApplied work = true := by
  have hloop : ∀ (conditions : List Condition) (summary : WorkSummary),
    (conditions.foldl addCondition summary).applied = true →
      summary.applied = true ∨ hasCondition conditions "Applied" .true = true := by
    intro conditions
    induction conditions with
    | nil => exact fun summary h => Or.inl h
    | cons condition conditions ih =>
      intro summary h
      rcases ih (addCondition summary condition) h with happlied | hrest
      · by_cases htype : condition.type = "Applied"
        · rw [addCondition, if_pos htype] at happlied
          exact Or.inr (by simp_all [hasCondition])
        · rw [addCondition, if_neg htype] at happlied
          left
          split_ifs at happlied <;> exact happlied
      · exact Or.inr (by simp_all [hasCondition])
  rcases hloop work.conditions {} h with h | h
  · nomatch h
  · exact h

/-- `applyWorkStatus`, of a reference. -/
def applyWorkStatus (reference : WorkReference) (work : ManifestWork) : WorkReference :=
  let summary := summarizeWork work
  { reference with applied := summary.applied, progressing := summary.progressing, failed := summary.failed }

/-- `workReference`. -/
def workReference (work : ManifestWork) : WorkReference :=
  { ns := work.metadata.ns, name := work.metadata.name, uid := work.metadata.uid }

/-- Two maps have the same entries. -/
def StringMap.same (a b : StringMap) : Bool :=
  (a.entries.all fun e => decide (AList.lookup e.1 b = some e.2)) && b.entries.all fun e =>
    decide (AList.lookup e.1 a = some e.2)

/-- The metadata of two rendered objects is the same. -/
def ObjectMeta.same (a b : ObjectMeta) : Bool :=
  a.name == b.name && a.ns == b.ns && StringMap.same a.labels b.labels && StringMap.same a.annotations b.annotations

/-- Two rendered objects are the same. -/
def Manifest.same : Manifest → Manifest → Bool
  | .namespaceObject m, .namespaceObject m' => m.same m'
  | .resourceQuota m hard, .resourceQuota m' hard' => m.same m' && StringMap.same hard hard'
  | .limitRange m limitType default request, .limitRange m' limitType' default' request' =>
    m.same m' && limitType == limitType' && StringMap.same default default' && StringMap.same request request'
  | .networkPolicy m spec, .networkPolicy m' spec' => m.same m' && spec == spec'
  | .role m groups resources verbs, .role m' groups' resources' verbs' =>
    m.same m' && groups == groups' && resources == resources' && verbs == verbs'
  | .roleBinding m roleRef name ns, .roleBinding m' roleRef' name' ns' =>
    m.same m' && roleRef == roleRef' && name == name' && ns == ns'
  | .k3kCluster m spec, .k3kCluster m' spec' =>
    m.same m' && spec.mode == spec'.mode && spec.version == spec'.version && spec.serverArgs == spec'.serverArgs &&
      spec.persistenceType == spec'.persistenceType && spec.storageClassName == spec'.storageClassName &&
      spec.storageRequestSize == spec'.storageRequestSize &&
      StringMap.same spec.serverResources spec'.serverResources &&
      StringMap.same spec.workerResources spec'.workerResources
  | .virtualClusterPolicy m mode hard level, .virtualClusterPolicy m' mode' hard' level' =>
    m.same m' && mode == mode' && StringMap.same hard hard' && level == level'
  | .service m protocol port target, .service m' protocol' port' target' =>
    m.same m' && protocol == protocol' && port == port' && target == target'
  | .endpoints m subsets, .endpoints m' subsets' => m.same m' && subsets == subsets'
  | .ingress m className rules, .ingress m' className' rules' => m.same m' && className == className' && rules == rules'
  | _, _ => false

/-- Two Works carry the same manifests, with the same feedback rules. -/
def ManifestWork.sameContent (work work' : ManifestWork) : Bool :=
  work.manifests.length == work'.manifests.length && ((work.manifests.zip work'.manifests).all fun m => m.1.same m.2) &&
    work.manifestConfigs == work'.manifestConfigs

/-- What applying a Work with forced ownership takes over: its labels, its manifests and its feedback rules. The
server counts the contents a Work has had as its generation. -/
def mergeWork (version : Nat) (current desired : ManifestWork) : ManifestWork :=
  { current with
    metadata :=
      { current.metadata with
        labels := merge current.metadata.labels desired.metadata.labels
        resourceVersion := version
        generation := current.metadata.generation + if current.sameContent desired then 0 else 1 }
    manifests := desired.manifests
    manifestConfigs := desired.manifestConfigs }

/-! ## Ownership -/

/-- `ValidateWorkReference`, of a Work that was read, without a UID of the Work to compare. -/
def validateWorkReference (work : ManifestWork) (expectedClusterUID : String) : Except Err Unit :=
  if work.metadata.labels.get labelVirtualClusterUID ≠ expectedClusterUID then
    .error ⟨.other, s!"work {work.metadata.ns}/{work.metadata.name} has foreign VirtualCluster UID"⟩
  else .ok ()

/-- `DeletionPlan`; of its steps nothing is used. -/
structure DeletionPlan where
  blocked : Bool := false
  reason : String := ""
  deriving DecidableEq, Repr

/-- `BuildDeletionPlan`. -/
def buildDeletionPlan (instanceWork foundation : Option ManifestWork) (expectedUID : String) : DeletionPlan :=
  if (instanceWork.toList ++ foundation.toList).any fun work =>
      expectedUID == "" || work.metadata.labels.get labelVirtualClusterUID != expectedUID then
    { blocked := true, reason := "foreign or UID-mismatched Work" }
  else {}

end KubeCell
