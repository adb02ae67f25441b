import KubeCell.Lemmas.Evaluator
import KubeCell.Theorems.Transitions

/-!
# What a stored status vouches for

Rounds end in many places, and most of them write the status as it has become by then, with what earlier rounds have
left in it. Whatever the calls are answered and wherever the rounds are cut off, what is stored agrees with itself:
each condition is there once, the numbers of the quota add up, the endpoint is the one of the credential, and a
VirtualCluster that is said to be ready has been cleared.
-/

namespace KubeCell

open EffectsAux Prog RoundAux StagesAux TransitionsAux

/-- What is reserved of a resource under the key of a quota, in nano units. -/
def reserved (reservation : ResourceList) (name : String) : Int :=
  ((reservationForQuotaKey reservation name).getD .zero).value

/-- The numbers of an observed quota add up: what is left of a resource is what is neither used nor reserved,
but not less than nothing, and the reservation is exceeded when what is used and what is reserved of some
resource is more than there is. -/
structure HostClusterObservation.Accounted (host : HostClusterObservation) : Prop where
  headroom : host.quotaReady = true → ∀ name limit, AList.lookup name host.quotaHard = some limit →
    ∃ left, AList.lookup name host.tenantHeadroom = some left ∧
      left.value = max 0 (limit.value - (host.quotaUsed.qty name).value - reserved host.reservation name)
  nothingElse : ∀ name, AList.lookup name host.quotaHard = none → AList.lookup name host.tenantHeadroom = none
  exceeded : host.reservationExceeded = true ↔ host.quotaReady = true ∧ ∃ name limit current,
    AList.lookup name host.quotaHard = some limit ∧ AList.lookup name host.quotaUsed = some current ∧
      limit.value < current.value + reserved host.reservation name

namespace VirtualClusterStatus

/-- The references of the VirtualCluster were accepted: they resolved to the snapshot that is kept, and
every check has passed. -/
structure Cleared (status : VirtualClusterStatus) : Prop where
  snapshot : status.resolved.hostNamespace ≠ ""
  conditions : ∀ type ∈ ["Validated", "CellSelected", "ProviderReady", "Feasible"],
    statusOf status.conditions type = some .true
  checks : ∀ check ∈ status.feasibilityChecks, check.status = .passed

/-- The foundation Work was applied and not degraded when it was last read. -/
structure Founded (status : VirtualClusterStatus) : Prop where
  applied : status.workRefs.foundation.applied = true
  notFailed : status.workRefs.foundation.failed = false
  condition : statusOf status.conditions "FoundationReady" = some .true

/-- The endpoint is published with the credential for it, or neither is. -/
def Published (status : VirtualClusterStatus) : Prop :=
  status.endpoint = {} ∧ status.credential = {} ∨
    status.endpoint.address ≠ "" ∧ 0 < status.endpoint.nodePort ∧
      status.endpoint.urlHash = status.credential.endpointHash

/-- What holds of a status while it is worked on. -/
structure Coherent (status : VirtualClusterStatus) : Prop where
  distinct : (status.conditions.map (·.type)).Nodup
  accounted : status.host.Accounted
  quota : statusOf status.conditions "HostQuotaReady" = some .true → status.host.quotaReady = true
  exceeded : statusOf status.conditions "ReservationExceeded" = some .true ↔ status.host.reservationExceeded = true
  published : status.Published

/-- What holds of a status that is stored. -/
structure Vouched (status : VirtualClusterStatus) : Prop extends Coherent status where
  ready : status.phase = .ready → status.Cleared ∧ status.Founded

end VirtualClusterStatus

/-- The status of the VirtualCluster under a name is left alone, or the VirtualCluster is new. -/
def ClusterStatusKept (key : NamespacedName) (w w' : World) : Prop :=
  ∀ v', w'.virtualClusters.find key = some v' →
    v'.status = {} ∨ ∃ v, w.virtualClusters.find key = some v ∧ v'.status = v.status

namespace VouchedAux

open VirtualClusterStatus

/-! ## The quota -/

/-- The headroom of a resource is what its limit leaves, and never less than nothing. -/
theorem headroom_value (used reservation : ResourceList) (name : String) (limit : Quantity) :
    (headroom used reservation name limit).value = max 0
      (limit.value - (used.qty name).value - reserved reservation name) := by
  unfold headroom reserved ResourceList.qty
  cases AList.lookup name used <;> cases reservationForQuotaKey reservation name <;> dsimp only <;> split_ifs <;>
    simp_all [Quantity.newQuantity] <;> omega

/-- There is headroom for the resources that have a limit. -/
theorem lookup_tenantHeadroom (hard used reservation : ResourceList) (name : String) :
    AList.lookup name (tenantHeadroom hard used reservation) = (AList.lookup name hard).map
      (headroom used reservation name) := by
  rw [tenantHeadroom, GoMap.lookup_foldl_update fun name _ limit => headroom used reservation name limit]
  cases AList.lookup name hard <;> rfl

/-- The reservation is exceeded where what is used and what is reserved do not fit the limit together. -/
theorem reservationExceeded_iff (hard used reservation : ResourceList) :
    reservationExceeded hard used reservation = true ↔ ∃ name limit current, AList.lookup name hard = some limit ∧
      AList.lookup name used = some current ∧ limit.value < current.value + reserved reservation name := by
  rw [reservationExceeded, List.any_eq_true]
  constructor
  · rintro ⟨⟨name, current⟩, hmem, hover⟩
    dsimp only at hover
    cases hlimit : AList.lookup name hard with
    | none =>
      rw [hlimit] at hover
      cases hover
    | some limit =>
      rw [hlimit] at hover
      refine ⟨name, limit, current, hlimit, AList.mem_lookup_iff.mpr hmem, ?_⟩
      have hless : (limit.sub ((reservationForQuotaKey reservation name).getD .zero)).value < current.value := by
        simpa using hover
      rw [Quantity.sub_value] at hless
      rw [reserved]
      omega
  · rintro ⟨name, limit, current, hlimit, hcurrent, hover⟩
    refine ⟨⟨name, current⟩, AList.mem_lookup_iff.mp hcurrent, ?_⟩
    dsimp only
    rw [hlimit]
    rw [reserved] at hover
    simp only [Quantity.sub_value, gt_iff_lt, decide_eq_true_eq]
    omega

/-- What the status says of the host quota is what was observed, with the reservation taken off. -/
theorem accounted_projectHostQuota (observation : HostClusterObservation) (reservation : ReservationSpec) :
    (projectHostQuota observation reservation).Accounted := by
  unfold projectHostQuota
  dsimp only
  split_ifs with hunread
  · refine ⟨fun hready => ?_, fun _ _ => rfl, ?_⟩
    · cases hready
    · simp
  · refine ⟨fun _ name limit hlimit => ?_, fun name hnone => ?_, ?_⟩
    · refine ⟨_, ?_, headroom_value _ _ name limit⟩
      rw [lookup_tenantHeadroom, hlimit, Option.map_some]
    · rw [lookup_tenantHeadroom, hnone, Option.map_none]
    · rw [reservationExceeded_iff]
      simp

/-! ## Setting conditions -/

/-- Setting a condition brings no other type. -/
theorem mem_types_setCondition {conditions : List Condition} {desired : Condition} {now : Time} {type : String}
    (hmem : type ∈ (setCondition conditions desired now).map (·.type)) :
    type ∈ conditions.map (·.type) ∨ type = desired.type := by
  induction conditions generalizing desired with
  | nil =>
    have hnil : setCondition [] desired now = [stamped desired now] := rfl
    rw [hnil, List.map_singleton, List.mem_singleton, stamped_type] at hmem
    exact Or.inr hmem
  | cons c cs ih =>
    rw [setCondition_cons] at hmem
    rw [List.map_cons, List.mem_cons]
    split_ifs at hmem with hother
    · rw [List.map_cons, List.mem_cons] at hmem
      rcases hmem with rfl | hmem
      · exact Or.inl (Or.inl rfl)
      · rw [← stamped_type desired now]
        exact (ih hmem).imp_left Or.inr
    · rw [List.map_cons, List.mem_cons] at hmem
      exact hmem.elim Or.inr fun hmem => Or.inl (Or.inr hmem)
    · rw [List.map_cons, List.mem_cons, stamped_type] at hmem
      exact hmem.elim Or.inr fun hmem => Or.inl (Or.inr hmem)

/-- A condition is set in the place of the one of its type, or at the end. -/
theorem nodup_setCondition {conditions : List Condition} (hnodup : (conditions.map (·.type)).Nodup)
    (desired : Condition) (now : Time) :
    ((setCondition conditions desired now).map (·.type)).Nodup := by
  induction conditions generalizing desired with
  | nil => exact List.nodup_singleton _
  | cons c cs ih =>
    rw [List.map_cons, List.nodup_cons] at hnodup
    rw [setCondition_cons]
    split_ifs with hother
    · rw [List.map_cons, List.nodup_cons]
      refine ⟨fun hmem => ?_, ih hnodup.2 _⟩
      rcases mem_types_setCondition hmem with hmem | heq
      · exact hnodup.1 hmem
      · exact hother (heq.trans (stamped_type desired now))
    · rw [List.map_cons, List.nodup_cons]
      exact ⟨not_not.mp hother ▸ hnodup.1, hnodup.2⟩
    · rw [List.map_cons, List.nodup_cons, stamped_type]
      exact ⟨not_not.mp hother ▸ hnodup.1, hnodup.2⟩

variable {Γ : Ctx} {cfg : Config} {rt : Runtime} {key : NamespacedName} {cluster : VirtualCluster}
  {status : VirtualClusterStatus}

/-- Setting a condition leaves the statuses of the others. -/
theorem statusOf_setCluster {conditionType type : String} (hne : conditionType ≠ type) (value : ConditionStatus)
    (reason message : String) :
    statusOf (cluster.setCondition rt conditionType value reason message).status.conditions type =
      statusOf cluster.status.conditions type := by
  rw [statusOf_cluster, if_neg hne]

/-- A condition that is not about the quota. -/
theorem Coherent.set (hcoherent : Coherent cluster.status) {conditionType : String}
    (hquota : conditionType ≠ "HostQuotaReady")
    (hexceeded : conditionType ≠ "ReservationExceeded") (value : ConditionStatus) (reason message : String) :
    Coherent (cluster.setCondition rt conditionType value reason message).status where
  distinct := nodup_setCondition hcoherent.distinct _ _
  accounted := hcoherent.accounted
  quota htrue := hcoherent.quota (by rwa [statusOf_setCluster hquota] at htrue)
  exceeded := by
    rw [statusOf_setCluster hexceeded]
    exact hcoherent.exceeded
  published := hcoherent.published

/-- The quota is said not to be ready. -/
theorem Coherent.setNotReady (hcoherent : Coherent cluster.status) (reason message : String) :
    Coherent (cluster.setCondition rt "HostQuotaReady" .false reason message).status where
  distinct := nodup_setCondition hcoherent.distinct _ _
  accounted := hcoherent.accounted
  quota htrue := by
    rw [statusOf_cluster, if_pos rfl] at htrue
    cases htrue
  exceeded := by
    rw [statusOf_setCluster (by decide)]
    exact hcoherent.exceeded
  published := hcoherent.published

/-- The quota is put into the status with the conditions that tell of it. -/
theorem Coherent.withQuota (hcoherent : Coherent cluster.status) (target : Target) (quota : Option ResourceQuota) :
    Coherent (cluster.withQuota rt target quota).status := by
  unfold VirtualCluster.withQuota
  dsimp only
  generalize hhost : projectHostQuota _ target.resolved.reservation = host
  have haccounted : host.Accounted := hhost ▸ accounted_projectHostQuota _ _
  have hready : conditionStatus host.quotaReady = .true → host.quotaReady = true := by
    cases host.quotaReady
    · exact fun h => by cases h
    · exact fun _ => rfl
  split_ifs with hexceeded
  · refine ⟨nodup_setCondition (nodup_setCondition hcoherent.distinct _ _) _ _, haccounted, fun htrue => ?_, ?_,
      hcoherent.published⟩
    · rw [statusOf_setCluster (by decide), statusOf_cluster, if_pos rfl] at htrue
      exact hready (Option.some.inj htrue)
    · rw [statusOf_cluster, if_pos rfl]
      exact iff_of_true rfl hexceeded
  · refine ⟨nodup_setCondition (nodup_setCondition hcoherent.distinct _ _) _ _, haccounted, fun htrue => ?_, ?_,
      hcoherent.published⟩
    · rw [statusOf_setCluster (by decide), statusOf_cluster, if_pos rfl] at htrue
      exact hready (Option.some.inj htrue)
    · rw [statusOf_cluster, if_pos rfl]
      exact iff_of_false (fun h => by cases h) hexceeded

/-- Nothing else is changed with the quota. -/
theorem statusOf_withQuota (target : Target) (quota : Option ResourceQuota) {type : String}
    (hquota : "HostQuotaReady" ≠ type)
    (hexceeded : "ReservationExceeded" ≠ type) :
    statusOf (cluster.withQuota rt target quota).status.conditions type = statusOf cluster.status.conditions type := by
  unfold VirtualCluster.withQuota
  dsimp only
  split_ifs <;> rw [statusOf_setCluster hexceeded, statusOf_setCluster hquota]

/-- The quota of the host namespace goes into the conditions and into the status of the host, and nowhere else. -/
theorem withQuota_status (rt : Runtime) (cluster : VirtualCluster) (target : Target) (quota : Option ResourceQuota) :
    ∃ conditions host, (cluster.withQuota rt target quota).status =
      { cluster.status with conditions := conditions, host := host } := by
  unfold VirtualCluster.withQuota
  dsimp only
  split_ifs
  · exact ⟨_, _, rfl⟩
  · exact ⟨_, _, rfl⟩

/-- The endpoint is put into the status together with the credential. -/
theorem Coherent.withEndpoint (Γ : Ctx) (hcoherent : Coherent cluster.status)
    (sourceSecretName endpoint hostname : String) (observed : Nat)
    (nodePort : Int) (hhostname : hostname ≠ "") (hport : 0 < nodePort) :
    Coherent { (cluster.withCredential Γ sourceSecretName endpoint observed).status with
      endpoint := { address := hostname, nodePort := nodePort, urlHash := profileHash Γ endpoint } } :=
  ⟨hcoherent.distinct, hcoherent.accounted, hcoherent.quota, hcoherent.exceeded, Or.inr ⟨hhostname, hport, rfl⟩⟩

/-- A condition of a later stage does not undo what was cleared. -/
theorem Cleared.set (hcleared : Cleared cluster.status) {conditionType : String}
    (hother : conditionType ∉ ["Validated", "CellSelected", "ProviderReady", "Feasible"]) (value : ConditionStatus)
    (reason message : String) :
    Cleared (cluster.setCondition rt conditionType value reason message).status where
  snapshot := hcleared.snapshot
  conditions type htype := by
    have hne : conditionType ≠ type := fun heq => hother (heq ▸ htype)
    rw [statusOf_setCluster hne]
    exact hcleared.conditions type htype
  checks := hcleared.checks

/-- Only the condition of the foundation is looked at. -/
theorem Founded.set (hfounded : Founded cluster.status) {conditionType : String}
    (hother : conditionType ≠ "FoundationReady")
    (value : ConditionStatus) (reason message : String) :
    Founded (cluster.setCondition rt conditionType value reason message).status where
  applied := hfounded.applied
  notFailed := hfounded.notFailed
  condition := (statusOf_setCluster hother value reason message).trans hfounded.condition

/-! ## The status of a round that provisions -/

/-- The conditions that the rest of a status is held against. -/
def watched : List String :=
  ["Validated", "CellSelected", "ProviderReady", "Feasible", "HostQuotaReady", "ReservationExceeded", "FoundationReady"]

/-- The VirtualCluster until its foundation Work is read: what earlier rounds have left holds. -/
structure Awaiting (status : VirtualClusterStatus) : Prop where
  coherent : Coherent status
  founded : status.phase = .ready → Founded status

/-- The VirtualCluster once its foundation Work is read applied and not degraded. -/
structure Standing (status : VirtualClusterStatus) : Prop where
  coherent : Coherent status
  cleared : Cleared status
  applied : status.workRefs.foundation.applied = true
  notFailed : status.workRefs.foundation.failed = false
  condition : status.phase = .ready → statusOf status.conditions "FoundationReady" = some .true

/-- A status that waits for the foundation is vouched for once the early conditions are cleared. -/
theorem Awaiting.vouched (hawaiting : Awaiting status) (hcleared : Cleared status) : Vouched status :=
  ⟨hawaiting.coherent, fun hready => ⟨hcleared, hawaiting.founded hready⟩⟩

/-- A status that stands on its foundation is vouched for. -/
theorem Standing.vouched (hstanding : Standing status) : Vouched status :=
  ⟨hstanding.coherent, fun hready =>
    ⟨hstanding.cleared, hstanding.applied, hstanding.notFailed, hstanding.condition hready⟩⟩

/-- A status that does not say that the VirtualCluster is ready. -/
theorem vouched_of_ne (hcoherent : Coherent status) (hphase : status.phase ≠ .ready) : Vouched status :=
  ⟨hcoherent, fun hready => absurd hready hphase⟩

/-- A condition that nobody watches is none of those that are watched. -/
theorem ne_of_unwatched {conditionType type : String} (hunwatched : conditionType ∉ watched) (htype : type ∈ watched) :
    conditionType ≠ type := fun heq => hunwatched (heq ▸ htype)

/-- A condition that nobody watches changes nothing for a status that waits. -/
theorem Awaiting.set (hawaiting : Awaiting cluster.status) {conditionType : String}
    (hunwatched : conditionType ∉ watched) (value : ConditionStatus) (reason message : String) :
    Awaiting (cluster.setCondition rt conditionType value reason message).status where
  coherent := Coherent.set hawaiting.coherent (ne_of_unwatched hunwatched (by decide))
    (ne_of_unwatched hunwatched (by decide)) _ _ _
  founded hready := Founded.set (hawaiting.founded hready) (ne_of_unwatched hunwatched (by decide)) _ _ _

theorem Standing.set (hstanding : Standing cluster.status) {conditionType : String}
    (hunwatched : conditionType ∉ watched) (value : ConditionStatus) (reason message : String) :
    Standing (cluster.setCondition rt conditionType value reason message).status where
  coherent := Coherent.set hstanding.coherent (ne_of_unwatched hunwatched (by decide))
    (ne_of_unwatched hunwatched (by decide)) _ _ _
  cleared := Cleared.set hstanding.cleared
    (fun hmem => hunwatched (List.mem_append_left ["HostQuotaReady", "ReservationExceeded",
    "FoundationReady"] hmem)) _ _ _
  applied := hstanding.applied
  notFailed := hstanding.notFailed
  condition hready := (statusOf_setCluster (ne_of_unwatched hunwatched (by decide)) _ _ _).trans
    (hstanding.condition hready)

/-! ## The statuses that a round writes -/

/-- A call that writes no other statuses than those that are vouched for. -/
def vouching : Call → Prop
  | .api (.updateVirtualClusterStatus o) => Vouched o.status
  | _ => True

/-- A quiet call writes nothing that had to be vouched for. -/
theorem vouching_of_quiet (call : Call) (hquiet : quietCall call = true) : vouching call := by
  unfold vouching
  split
  · cases hquiet
  · trivial

/-- The program writes no other statuses than those that are vouched for. -/
abbrev Vouches {α : Type} (p : Action α) : Prop := Neutral vouching p

/-- A round may end with a status that is vouched for. -/
theorem vouches_persist {desired : VirtualCluster} (hvouched : Vouched desired.status) (requeueAfter : Option Nat) :
    Vouches (persist desired requeueAfter) := by
  refine neutral_writing (fun _ => trivial) (fun o ho => ?_) requeueAfter
  change Vouched o.status
  rw [ho]
  exact hvouched

/-- The end of a round that takes the phase away from ready last. -/
theorem vouches_withPhase {phase : VirtualClusterPhase} (hcoherent : Coherent cluster.status) (hphase : phase ≠ .ready)
    (requeueAfter : Option Nat) : Vouches (persist { cluster with status.phase := phase } requeueAfter) := by
  have hchanged : Coherent { cluster.status with phase := phase } := { hcoherent with }
  exact vouches_persist (vouched_of_ne hchanged hphase) requeueAfter

/-- A condition that is set or not. -/
theorem Standing.setIf (hstanding : Standing cluster.status) {conditionType : String}
    (hunwatched : conditionType ∉ watched) (holds : Bool) (value : ConditionStatus) (reason message : String) :
    Standing (cluster.setConditionIf holds rt conditionType value reason message).status := by
  unfold VirtualCluster.setConditionIf
  split_ifs
  · exact Standing.set hstanding hunwatched value reason message
  · exact hstanding

/-- The phase is decided: with the foundation Work applied, everything is vouched for. -/
theorem vouches_decidePhase (hstanding : Standing cluster.status) {foundationSummary : WorkSummary}
    (happlied : foundationSummary.applied = true) (instanceSummary : WorkSummary) (hasObserver : Bool) :
    Vouches (decidePhase rt cluster foundationSummary instanceSummary hasObserver) := by
  have hphase : Coherent (cluster.withPhase rt).status ∧ Cleared (cluster.withPhase rt).status ∧
      (cluster.withPhase rt).status.workRefs = cluster.status.workRefs := by
    unfold VirtualCluster.withPhase
    split_ifs
    · refine ⟨?_, ?_, rfl⟩
      · refine Coherent.set (Coherent.set (Coherent.set ?_ (by decide) (by decide) _ _ _) (by decide)
          (by decide) _ _ _) (by decide)
          (by decide) _ _ _
        exact { hstanding.coherent with }
      · refine Cleared.set (Cleared.set (Cleared.set ?_ (by decide) _ _ _) (by decide) _ _ _) (by decide) _ _ _
        exact { hstanding.cleared with }
    · exact ⟨{ hstanding.coherent with }, { hstanding.cleared with }, rfl⟩
  obtain ⟨hcoherent, hcleared, hworks⟩ := hphase
  refine vouches_persist (Standing.setIf (Standing.setIf ?_ (by decide) _ _ _ _) (by decide) _ _ _ _).vouched _
  unfold VirtualCluster.setConditionIf
  rw [if_pos happlied]
  exact {
    coherent := Coherent.set hcoherent (by decide) (by decide) _ _ _
    cleared := Cleared.set hcleared (by decide) _ _ _
    applied := (congrArg (·.foundation.applied) hworks).trans hstanding.applied
    notFailed := (congrArg (·.foundation.failed) hworks).trans hstanding.notFailed
    condition := fun _ => by rw [statusOf_cluster, if_pos rfl] }

/-- What was observed of the child leaves the status standing. -/
theorem Standing.observed (hstanding : Standing cluster.status) (child : ChildObservation) :
    Standing (cluster.observed rt child).status := by
  unfold VirtualCluster.observed
  refine Standing.set (Standing.set (Standing.set ?_ (by decide) _ _ _) (by decide) _ _ _) (by decide) _ _ _
  have hread : Standing (cluster.setCondition rt "HostReadReady" .true "HostObjectsRead"
      "Child Secret and Service were read through the Host observation path").status := hstanding.set (by decide) _ _ _
  exact ⟨{ hread.coherent with }, { hread.cleared with }, hread.applied, hread.notFailed, hread.condition⟩

/-- So does an observation that failed. -/
theorem Standing.unobserved (hstanding : Standing cluster.status) (e : Err) :
    Standing (cluster.unobserved rt e).status := by
  have hset : Standing ((((cluster.setCondition rt "HostReadReady" .false "HostReadFailed" e.message).setCondition rt
    "APIAccessible" .false
      "ChildProbeFailed" e.message).setCondition rt "LogicalNodeReady" .false "ChildProbeFailed"
        e.message).setCondition rt "StorageReady"
      .false "ChildProbeFailed" e.message).status :=
    Standing.set (Standing.set (Standing.set (hstanding.set (by decide) _ _ _) (by decide) _ _ _) (by decide) _ _ _)
      (by decide) _ _ _
  refine ⟨{ hset.coherent with }, { hset.cleared with }, hset.applied, hset.notFailed, fun hready => hset.condition ?_⟩
  unfold VirtualCluster.unobserved at hready
  dsimp only at hready
  split_ifs at hready
  exact hready

/-- So does the quota of the host namespace. -/
theorem Standing.withQuota (hstanding : Standing cluster.status) (target : Target) (quota : Option ResourceQuota) :
    Standing (cluster.withQuota rt target quota).status := by
  have hcoherent : Coherent (cluster.withQuota rt target quota).status :=
    Coherent.withQuota hstanding.coherent target quota
  have hconditions : ∀ type ∈ ["Validated", "CellSelected", "ProviderReady", "Feasible"],
      statusOf (cluster.withQuota rt target quota).status.conditions type = some .true := by
    intro type htype
    rw [statusOf_withQuota target quota]
    · exact hstanding.cleared.conditions type htype
    · rintro rfl
      exact absurd htype (by decide)
    · rintro rfl
      exact absurd htype (by decide)
  have hfoundation : statusOf (cluster.withQuota rt target quota).status.conditions "FoundationReady" =
      statusOf cluster.status.conditions "FoundationReady" := statusOf_withQuota target quota (by decide) (by decide)
  obtain ⟨conditions, host, hstatus⟩ := withQuota_status rt cluster target quota
  rw [hstatus] at hcoherent hconditions hfoundation ⊢
  exact ⟨hcoherent, ⟨hstanding.cleared.snapshot, hconditions, hstanding.cleared.checks⟩, hstanding.applied,
    hstanding.notFailed,
    fun hready => hfoundation.trans (hstanding.condition hready)⟩

/-! ## The stages -/

/-- A call that writes no status may come first. -/
theorem vouches_call {call : ApiCall} (hcall : noStatus call) {α : Type} {f : Except Err call.Res → Action α}
    (hf : ∀ r, Vouches (f r)) :
    Vouches (api call >>= f) :=
  ⟨vouching_of_quiet _ (quiet_of_noStatus call hcall), hf⟩

/-- What the stages do after the observation leaves the VirtualCluster standing. -/
theorem observing_vouches {foundationSummary : WorkSummary} (happlied : foundationSummary.applied = true) :
    Observing Γ rt foundationSummary (fun _ p => Vouches p) (fun _ c => Standing c.status)
      (fun _ _ c => Standing c.status) where
  walk := walk_neutral vouching_of_quiet
  extend _ hstanding := hstanding
  extendO _ hstanding := hstanding
  invalid hstanding := vouches_persist (Standing.set hstanding (by decide) _ _ _).vouched _
  unpublished hstanding := hstanding
  published := by
    intro h c sourceSecretName endpoint hostname observed nodePort hstanding hhostname hport
    have hstored : Standing { c.withCredential Γ sourceSecretName endpoint observed with
        status.endpoint := { address := hostname, nodePort := nodePort, urlHash := profileHash Γ endpoint } }.status :=
      ⟨Coherent.withEndpoint Γ hstanding.coherent sourceSecretName endpoint hostname observed nodePort hhostname hport,
        { hstanding.cleared with }, hstanding.applied, hstanding.notFailed, hstanding.condition⟩
    -- the condition is set between the two, and looks at neither
    exact hstored.set (by decide) _ _ _
  unplaced hstanding := vouches_persist (Standing.set hstanding (by decide) _ _ _).vouched _
  placed _ hstanding :=
    ⟨{ hstanding.coherent with }, { hstanding.cleared with }, hstanding.applied, hstanding.notFailed,
      hstanding.condition⟩
  unrefreshed hstanding := vouches_persist hstanding.vouched _
  refreshed _ hstanding :=
    ⟨{ hstanding.coherent with }, { hstanding.cleared with }, hstanding.applied, hstanding.notFailed,
      hstanding.condition⟩
  decided _ hstanding := vouches_decidePhase hstanding happlied _ _

/-- What the stages do before the observation lets what earlier rounds have left hold, until the foundation
Work is read applied. -/
theorem founding_vouches :
    Founding Γ cfg rt (fun _ p => Vouches p) (fun _ c => Awaiting c.status ∧ Cleared c.status)
      (fun _ c => Standing c.status)
      (fun _ c => Standing c.status) where
  walk := walk_neutral vouching_of_quiet
  extendT _ hcluster := hcluster
  extendS _ hstanding := hstanding
  extendQ _ hstanding := hstanding
  unread _ _ := fun ⟨hawaiting, hcleared⟩ =>
    vouches_persist ((Awaiting.set hawaiting (by decide) _ _ _).vouched (Cleared.set hcleared (by decide) _ _ _)) _
  unrefreshed := fun ⟨hawaiting, hcleared⟩ => vouches_persist (hawaiting.vouched hcleared) _
  foundationFailed _ _ := by
    rintro ⟨hawaiting, -⟩
    refine vouches_persist (vouched_of_ne (Coherent.setNotReady (Coherent.set ?_ (by decide) (by decide) _ _ _) _ _)
      fun h => by cases h) _
    exact { hawaiting.coherent with }
  foundationPending _ := by
    rintro ⟨hawaiting, -⟩
    refine vouches_persist (vouched_of_ne (Coherent.setNotReady (Coherent.set ?_ (by decide) (by decide) _ _ _) _ _)
      fun h => by cases h) _
    exact { hawaiting.coherent with }
  founded hnotFailed happlied := fun ⟨hawaiting, hcleared⟩ =>
    ⟨{ hawaiting.coherent with }, { hcleared with }, happlied, hnotFailed,
      fun hready => (hawaiting.founded hready).condition⟩
  instanceFailed _ _ hstanding := by
    refine vouches_persist (vouched_of_ne (Coherent.set ?_ (by decide) (by decide) _ _ _) fun h => by cases h) _
    exact { hstanding.coherent with }
  limited work target quota hstanding := by
    refine Standing.withQuota ?_ target quota
    exact ⟨{ hstanding.coherent with }, { hstanding.cleared with }, hstanding.applied, hstanding.notFailed,
      hstanding.condition⟩
  unwatched _ hstanding := vouches_persist (Standing.set hstanding (by decide) _ _ _).vouched _
  observed _ _ hasObserver happlied hstanding :=
    (observing_vouches happlied).observeChild (h := []) (Q := fun _ c => Standing c.status)
      (fun hnext => ⟨trivial, hnext⟩)
      (fun hstanding => vouches_persist (Standing.unobserved hstanding _).vouched _)
        (fun hstanding => Standing.observed hstanding _)
      (fun hstanding => hstanding) hstanding hasObserver

/-- From the plan on, with the earlier conditions true, everything that is written is vouched for. -/
theorem vouches_planStage (hawaiting : Awaiting cluster.status) (hsnapshot : cluster.status.resolved.hostNamespace ≠ "")
    (hvalidated : ∀ type ∈ ["Validated", "CellSelected", "ProviderReady"],
      statusOf cluster.status.conditions type = some .true)
    (cell : Cell) (virtualNodeClass : VirtualNodeClass) (resolved : ResolvedSnapshot) :
    Vouches (planStage Γ cfg rt cluster cell virtualNodeClass resolved) := by
  have hset : ∀ checks value reason message,
    Awaiting ({ cluster with status.feasibilityChecks := checks }.setCondition rt "Feasible" value
      reason message).status := by
    intro checks value reason message
    refine ⟨Coherent.set ?_ (by decide) (by decide) _ _ _, fun hready => Founded.set ?_ (by decide) _ _ _⟩
    · exact { hawaiting.coherent with }
    · exact { hawaiting.founded hready with }
  unfold planStage
  dsimp only
  cases hdecision : (evaluateVirtualClusterPlan Γ rt cell virtualNodeClass).decision with
  | rejected => exact vouches_withPhase (hset _ _ _ _).coherent (by decide) _
  | unknown => exact vouches_withPhase (hset _ _ _ _).coherent (by decide) _
  | accepted =>
    have hpassed : ∀ check ∈ (evaluateVirtualClusterPlan Γ rt cell virtualNodeClass).checks, check.status = .passed :=
      fun check hcheck =>
      (EvaluatorAux.accepted_iff Γ rt cell virtualNodeClass).mp hdecision check (EvaluatorAux.mem_checks.mp hcheck)
    refine founding_vouches.hostStage (h := []) ⟨hset _ _ _ _, hsnapshot, fun type htype => ?_, hpassed⟩ cell resolved
    rw [statusOf_cluster]
    split_ifs with heq
    · rfl
    · refine hvalidated type ?_
      simp only [List.mem_cons, List.not_mem_nil, or_false] at htype ⊢
      exact htype.imp_right fun hrest => hrest.imp_right fun hlast => hlast.resolve_right (Ne.symm heq)

/-- So it is from the resolution on. -/
theorem vouches_resolveStage (hawaiting : Awaiting cluster.status) (cell : Cell) (virtualNodeClass : VirtualNodeClass) :
    Vouches (resolveStage Γ cfg rt cluster cell virtualNodeClass) := by
  unfold resolveStage
  cases resolveVirtualCluster Γ cell virtualNodeClass with
  | error e =>
    exact vouches_withPhase (Coherent.set hawaiting.coherent (by decide) (by decide) _ _ _) (by decide) _
  | ok resolved =>
    have hvalidated : ∀ type ∈ ["Validated", "CellSelected", "ProviderReady"],
        statusOf (cluster.validated rt).status.conditions type = some .true := by
      intro type htype
      simp only [List.mem_cons, List.not_mem_nil, or_false] at htype
      unfold VirtualCluster.validated
      rw [statusOf_cluster, statusOf_cluster, statusOf_cluster]
      obtain rfl | rfl | rfl := htype <;> rfl
    have hset : Awaiting (cluster.validated rt).status := by
      refine ⟨Coherent.set (Coherent.set (Coherent.set ?_ (by decide) (by decide) _ _ _) (by decide)
        (by decide) _ _ _) (by decide)
        (by decide) _ _ _, fun hready => Founded.set
          (Founded.set (Founded.set ?_ (by decide) _ _ _) (by decide) _ _ _) (by decide) _ _ _⟩
      · exact hawaiting.coherent
      · exact hawaiting.founded hready
    dsimp only
    unfold snapshotStage
    split_ifs with hempty hdrift
    · have hkept : Awaiting { cluster.validated rt with status.resolved := (cluster.validated rt).snapshot resolved }.status :=
        ⟨{ hset.coherent with }, fun hready => { hset.founded hready with }⟩
      exact vouches_planStage hkept (hostNamespace_ne_empty cluster) hvalidated cell virtualNodeClass _
    · exact vouches_withPhase (Coherent.set hset.coherent (by decide) (by decide) _ _ _) (by decide) _
    · exact vouches_planStage hset hempty hvalidated cell virtualNodeClass _

/-- And from the reading of the references on, whatever earlier rounds have left. -/
theorem vouches_referenceStage {v : VirtualCluster} (hvouched : Vouched v.status) :
    Vouches (referenceStage Γ cfg rt v) := by
  have hawaiting : Awaiting { v with status.observedGeneration := v.metadata.generation }.status :=
    ⟨{ hvouched.toCoherent with }, fun hready => { (hvouched.ready hready).2 with }⟩
  refine vouches_call (by trivial) fun r => ?_
  cases r with
  | error e => trivial
  | ok cell =>
    refine vouches_call (by trivial) fun r => ?_
    cases r with
    | error e => trivial
    | ok virtualNodeClass =>
      dsimp only
      split_ifs
      · refine vouches_persist (vouched_of_ne (Coherent.set ?_ (by decide) (by decide) _ _ _) fun h => by cases h) _
        exact { hawaiting.coherent with }
      · exact vouches_resolveStage hawaiting cell virtualNodeClass

/-! ## Deletion -/

/-- The deletion leaves what earlier rounds have left, but for the phase. -/
theorem deleting_vouches {v : VirtualCluster} (hvouched : Vouched v.status) :
    Deleting rt v (fun _ p => Vouches p) fun _ => True where
  walk := walk_neutral vouching_of_quiet
  extend _ _ := trivial
  cleaned _ _ _ _ _ := by
    refine vouches_persist (vouched_of_ne (Coherent.set ?_ (by decide) (by decide) _ _ _) fun h => by cases h) _
    exact { hvouched.toCoherent with }
  done _ _ := trivial

/-! ## Runs -/

/-- The round works on a VirtualCluster whose status is vouched for. -/
def Trusts (key : NamespacedName) (h : List Event) : Prop := ∀ v, Began key h v → Vouched v.status

/-- As long as what was read is vouched for, what is written is too. -/
def Upholds (key : NamespacedName) (h : List Event) (call : Call) : Prop := Trusts key h → vouching call

theorem Began.of_append {h t : List Event} {v : VirtualCluster} (hbegan : Began key h v) : Began key (h ++ t) v :=
  hbegan.imp (Live.append · t) (Doomed.append · t)

/-- Once a round works on something that stays so, its calls are as they are if that is vouched for. -/
theorem upholds_of_vouches {α : Type} {p : Action α} {h : List Event} {v : VirtualCluster} (hbegan : Began key h v)
    (hp : Vouched v.status → Vouches p) : Guarded event (Upholds key) (fun _ _ => True) p h := by
  by_cases hvouched : Vouched v.status
  · have hG : ∀ h call, True → vouching call → Upholds key h call := fun h call _ hcall _ => hcall
    exact Neutral.guarded hG (fun _ _ _ _ _ => trivial) (hp hvouched) trivial fun _ _ _ => trivial
  · -- what the round works on is not vouched for, and nothing is asked of it
    induction p generalizing h with
    | ret a => trivial
    | call op next ih =>
      refine ⟨fun htrusts => absurd (htrusts v hbegan) hvouched, fun r => ih r (Began.of_append hbegan) ?_⟩
      exact fun hv => absurd hv hvouched

/-- The whole round writes what is vouched for, as long as what it has read is. -/
theorem upholds_reconcile (Γ : Ctx) (cfg : Config) (rt : Runtime) (key : NamespacedName) :
    Guarded event (Upholds key) (fun _ _ => True) (reconcile Γ cfg rt key) [] := by
  refine ⟨fun _ => trivial, fun r => ?_⟩
  cases r with
  | error e => trivial
  | ok v =>
    change Guarded _ _ _ (if v.deleting then reconcileDeletion rt
      v else if !v.held then _ else referenceStage Γ cfg rt v) _
    split_ifs with hdeleting hheld
    · by_cases hheld : v.held = true
      · refine upholds_of_vouches (Or.inr (.read hdeleting hheld)) fun hvouched => ?_
        exact (deleting_vouches hvouched).reconcileDeletion (h := []) fun _ => trivial
      · rw [Bool.not_eq_true] at hheld
        have hcontains : containsString v.metadata.finalizers virtualClusterFinalizer = false := hheld
        rw [reconcileDeletion, hcontains]
        trivial
    · rw [Bool.not_eq_true] at hdeleting
      rw [Bool.not_eq_true'] at hheld
      refine ⟨fun _ => trivial, fun r => ?_⟩
      cases r with
      | error e => trivial
      | ok v' => exact upholds_of_vouches (Or.inl (.adopted hdeleting hheld)) vouches_referenceStage
    · rw [Bool.not_eq_true] at hdeleting
      exact upholds_of_vouches (Or.inl (.read hdeleting (by simpa using hheld))) vouches_referenceStage

/-- The status that is stored under a name is vouched for. -/
def Trusted (key : NamespacedName) (w : World) : Prop := ∀ v, w.virtualClusters.find key = some v → Vouched v.status

/-- The status of a VirtualCluster that was just created is vouched for. -/
theorem vouched_empty : Vouched {} := by
  refine ⟨⟨List.nodup_nil, ⟨fun h => ?_, fun _ _ => rfl, ?_⟩, fun h => ?_, ?_, Or.inl ⟨rfl, rfl⟩⟩, fun h => ?_⟩
  · cases h
  · simp
  · cases h
  · simp [statusOf]
  · cases h

/-- Where the status is left alone, or the object is new, what is stored stays vouched for. -/
theorem Trusted.kept {w w' : World} (htrusted : Trusted key w)
    (hkept : ClusterStatusKept key w w') : Trusted key w' := by
  intro v' hv'
  rcases hkept v' hv' with hnew | ⟨v, hv, hsame⟩
  · rw [hnew]
    exact vouched_empty
  · rw [hsame]
    exact htrusted v hv

/-- The status that stands under a name after a call stood there before, or it is the one that was written. -/
theorem status_of_call {w w' : World} {call : Call} {r : call.Res} (hx : World.Exec w call r w') {v' : VirtualCluster}
    (hv' : w'.virtualClusters.find key = some v') :
    (∃ v, w.virtualClusters.find key = some v ∧ v'.status = v.status) ∨
      ∃ o, call = .api (.updateVirtualClusterStatus o) ∧ v'.status = o.status := by
  have hserve : ∀ call : ApiCall, (w.serve call).2.virtualClusters.find key = some v' →
      (∃ v, w.virtualClusters.find key = some v ∧ v'.status = v.status) ∨
        ∃ o, Call.api call = .api (.updateVirtualClusterStatus o) ∧ v'.status = o.status := by
    intro call hv
    cases call with
    | updateVirtualCluster o =>
      rcases Store.update_cases w.virtualClusters w.version
        o with ⟨e, hfailed⟩ | ⟨current, hcurrent, -, hput | ⟨-, hgone⟩⟩
      · rw [World.serve, hfailed] at hv
        exact Or.inl ⟨v', hv, rfl⟩
      · rw [World.serve] at hv
        dsimp only at hv
        rw [hput, Store.find_put] at hv
        split_ifs at hv with hkey
        · cases hv
          exact Or.inl ⟨current, hkey ▸ hcurrent, rfl⟩
        · exact Or.inl ⟨v', hv, rfl⟩
      · rw [World.serve] at hv
        dsimp only at hv
        rw [hgone, Store.find_remove] at hv
        split_ifs at hv
        exact Or.inl ⟨v', hv, rfl⟩
    | updateVirtualClusterStatus o =>
      rcases Store.updateStatus_cases w.virtualClusters w.version o with ⟨e, hfailed⟩ | ⟨current, hcurrent, hput⟩
      · rw [World.serve, hfailed] at hv
        exact Or.inl ⟨v', hv, rfl⟩
      · rw [World.serve, hput] at hv
        dsimp only at hv
        rw [Store.find_put] at hv
        split_ifs at hv
        · cases hv
          exact Or.inr ⟨o, rfl, rfl⟩
        · exact Or.inl ⟨v', hv, rfl⟩
    | _ => exact Or.inl ⟨v', hv, rfl⟩
  cases hx with
  | served call => exact hserve call hv'
  | unavailable => exact Or.inl ⟨v', hv', rfl⟩
  | lost call => exact hserve call hv'
  | host => exact Or.inl ⟨v', hv', rfl⟩

/-- A call leaves the status under a name alone, or it writes one that is vouched for. -/
theorem Trusted.exec {w w' : World} {call : Call} {r : call.Res} (htrusted : Trusted key w) (hcall : vouching call)
    (hx : World.Exec w call r w') : Trusted key w' := by
  intro v' hv'
  rcases status_of_call hx hv' with ⟨v, hv, hsame⟩ | ⟨o, rfl, hwritten⟩
  · rw [hsame]
    exact htrusted v hv
  · rw [hwritten]
    exact hcall

/-- What the history of a round tells: it has read what stands under its name, and what it works on is vouched for. -/
structure Believes (key : NamespacedName) (h : List Event) : Prop where
  named : ∀ v, Saw h (.api (.getVirtualCluster key)) (.ok v) → v.key = key
  trusts : Trusts key h

theorem believes_nil (key : NamespacedName) : Believes key [] := by
  refine ⟨fun v hsaw => absurd hsaw List.not_mem_nil, fun v hbegan => ?_⟩
  rcases hbegan with hlive | hdoomed
  · cases hlive
  · cases hdoomed

/-- What a call reads of the VirtualCluster is vouched for, because what is stored is. -/
theorem Believes.snoc {w w' : World} {h : List Event} {call : Call} {r : call.Res} (hbelieves : Believes key h)
    (htrusted : Trusted key w) (hx : World.Exec w call r w') : Believes key (h ++ [event call r]) := by
  constructor
  · intro v hsaw
    rcases saw_snoc hsaw with hold | hnew
    · exact hbelieves.named v hold
    · cases hnew
      exact Store.find_keyed (find_of_getVirtualCluster hx).1
  · intro v hbegan
    rcases Began.snoc_cases hbegan with hold | heq | ⟨v₀, hread, heq⟩
    · exact hbelieves.trusts v hold
    · cases heq
      exact htrusted v (find_of_getVirtualCluster hx).1
    · cases heq
      have hkey : v₀.adopted.key = key := hbelieves.named v₀ hread
      obtain ⟨hok, -⟩ := served_of_ok hx
      rw [World.serve] at hok
      dsimp only at hok
      rcases Store.update_cases w.virtualClusters w.version
        v₀.adopted with ⟨e, hfailed⟩ | ⟨current, hcurrent, hupdated, -⟩
      · rw [hfailed] at hok
        cases hok
      · cases hupdated.symm.trans hok
        exact htrusted current (hkey ▸ hcurrent)

end VouchedAux

open VouchedAux

/-- In every run of the rounds for a VirtualCluster, each cut off anywhere and with its calls answered or lost in
any way, among others that leave its status alone: the status that is stored agrees with itself, and one that
says Ready was cleared. -/
theorem stored_status_vouched (Γ : Ctx) (cfg : Config) (key : NamespacedName) {env : World → World → Prop}
    {init : World → Prop} (henv : ∀ w w', env w w' → ClusterStatusKept key w w')
    (hinit : ∀ w, init w → ∀ v, w.virtualClusters.find key = some v → v.status.Vouched)
    {s : Sys World Event Call Call.Res (Except Err Result)} (hs : Sys.Reachable (clusterSystem Γ cfg key env) init s)
    {v : VirtualCluster} (hv : s.world.virtualClusters.find key = some v) : v.status.Vouched := by
  have hholds := Sys.invariant (I := Trusted key) (K := fun _ h => Believes key h) (G := Upholds key) hinit
    (fun _ _ => believes_nil key)
    ?_ ?_ ?_ hs
  · exact hholds.1 v hv
  · rintro p ⟨rt, rfl⟩
    exact upholds_reconcile Γ cfg rt key
  · exact fun w w' hstep htrusted => ⟨htrusted.kept (henv w w' hstep), fun _ hbelieves => hbelieves⟩
  · intro w call r w' h htrusted hbelieves hupholds hx
    exact ⟨htrusted.exec (hupholds hbelieves.trusts) hx, hbelieves.snoc htrusted hx⟩

open SampleAux

/-- The round that finds everything ready for the sample VirtualCluster leaves a status that says
so, and is vouched for. -/
theorem stored_status_vouched_sample :
    ∃ v, happyRound.1.virtualClusters.find DriftAux.sampleCluster.key = some v ∧ v.status.phase = .ready ∧
      v.status.Vouched := by
  have hready : (happyRound.1.virtualClusters.find DriftAux.sampleCluster.key).map (·.status.phase) =
    some .ready := by decide +kernel
  obtain ⟨v, hv, hphase⟩ := Option.map_eq_some_iff.mp hready
  have hstart : (clusterSystem sampleCtx sampleConfig DriftAux.sampleCluster.key fun _ _ => False).starts
      (reconcile sampleCtx sampleConfig sampleRuntime DriftAux.sampleCluster.key) := ⟨sampleRuntime, rfl⟩
  have hinit : Sys.Reachable (clusterSystem sampleCtx sampleConfig DriftAux.sampleCluster.key fun _ _ => False)
      (· = sampleWorld (clusterIn .provisioning {}) sampleWorks)
        ⟨sampleWorld (clusterIn .provisioning {}) sampleWorks, none⟩ := .init rfl
  have hsample : ∀ w, w = sampleWorld (clusterIn .provisioning {}) sampleWorks →
    ∀ v, w.virtualClusters.find DriftAux.sampleCluster.key =
      some v → v.status.Vouched := by
    rintro w rfl v hv
    cases (find_sampleWorld (clusterIn .provisioning {}) sampleWorks).symm.trans hv
    exact vouched_of_ne { vouched_empty.toCoherent with } fun h => by cases h
  -- about any world that the round leads to, so that the unifier does not compute this one
  have hled : ∀ {w : World} {h : List Event} {q : Action (Except Err Result)}, Prog.Runs World.Exec event
      (sampleWorld (clusterIn .provisioning {}) sampleWorks)
      (reconcile sampleCtx sampleConfig sampleRuntime DriftAux.sampleCluster.key) h w q →
      w.virtualClusters.find DriftAux.sampleCluster.key = some v → v.status.Vouched := fun hruns hv =>
    stored_status_vouched _ _ _ (fun _ _ h => h.elim) hsample ((hinit.step (.start hstart)).runs hruns) hv
  exact ⟨v, hv, hphase, hled runs_happyRound hv⟩

end KubeCell
