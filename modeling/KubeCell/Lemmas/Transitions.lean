import KubeCell.Content
import KubeCell.Lemmas.Anchored
import KubeCell.Lemmas.Publish

/-!
# Transition times in a round

A round sets conditions one after the other on the VirtualCluster it has read, some of them twice, and writes the
status once. What it writes tells the transition times truly, unless a condition goes away from the status it was read
with and comes back to it.
-/

namespace KubeCell

open AnchoredAux Prog ProvisionAux RoundAux StagesAux

/-- The status of a condition, if it is there. -/
def statusOf (conditions : List Condition) (type : String) : Option ConditionStatus :=
  (conditions.find? (·.type == type)).map (·.status)

/-- The transition time of a condition, if it is there. -/
def transitionTime (conditions : List Condition) (type : String) : Option Time :=
  (conditions.find? (·.type == type)).map (·.lastTransitionTime)

/-- The transition time of every condition is kept with its status, and is the given time when
the status has changed. -/
def Truthful (now : Time) (before after : List Condition) : Prop :=
  ∀ type, (statusOf after type = statusOf before type → transitionTime after type = transitionTime before type) ∧
    (statusOf after type ≠ statusOf before type → transitionTime after type = some now)

/-- The round has learned what makes it set a condition away from the status it was read with, and back: the
references of a VirtualCluster that is not validated have drifted, or the pods cannot be listed for one whose
host could not be read. -/
inductive Relapses (Γ : Ctx) (key : NamespacedName) (h : List Event) : Prop where
  | drift {v : VirtualCluster} {cell : Cell} {virtualNodeClass : VirtualNodeClass}
    {resolved : ResolvedSnapshot} : Live key h v →
      statusOf v.status.conditions "Validated" = some .false → Saw h (.api (.getCell v.cellKey)) (.ok cell) →
      cell.status.phase = .ready → Saw h (.api (.getVirtualNodeClass v.spec.classRef.name)) (.ok virtualNodeClass) →
      resolveVirtualCluster Γ cell virtualNodeClass = .ok resolved → v.status.resolved.hostNamespace ≠ "" →
      sameResolvedProvider v.status.resolved (v.snapshot resolved) = false → Relapses Γ key h
  | placement {v : VirtualCluster} {ns : String} {e : Err} : Live key h v →
      statusOf v.status.conditions "HostReadReady" = some .false →
        Saw h (.host (.listPods ns)) (.error e) → Relapses Γ key h

/-- A status is written once, and tells the transition times truly against what was read, or the round relapses. -/
def Stamps (Γ : Ctx) (rt : Runtime) (key : NamespacedName) (h : List Event) : Call → Prop
  | .api (.updateVirtualClusterStatus o) => Unwritten h ∧ ∃ v, Began key h v ∧
      (Relapses Γ key h ∨ Truthful rt.now v.status.conditions o.status.conditions)
  | _ => True

/-- The program stamps what it writes. -/
abbrev Stamped (Γ : Ctx) (rt : Runtime) (key : NamespacedName) {α : Type} (p : Action α) (h : List Event) : Prop :=
  Guarded event (Stamps Γ rt key) (fun _ _ => True) p h

namespace TransitionsAux

/-! ## Setting conditions -/

/-- The status of a condition is that of the first entry of its type. -/
theorem statusOf_cons (c : Condition) (cs : List Condition) (type : String) :
    statusOf (c :: cs) type = if c.type = type then some c.status else statusOf cs type := by
  by_cases htype : c.type = type <;> simp [statusOf, htype]

theorem transitionTime_cons (c : Condition) (cs : List Condition) (type : String) :
    transitionTime (c :: cs) type = if c.type = type then some c.lastTransitionTime else transitionTime cs type := by
  by_cases htype : c.type = type <;> simp [transitionTime, htype]

/-- A condition with the time it is set at. -/
def stamped (desired : Condition) (now : Time) : Condition :=
  if desired.lastTransitionTime = 0 then { desired with lastTransitionTime := now } else desired

/-- A condition is set at the first entry of its type, and the entries before it stay. -/
theorem setCondition_cons (c : Condition) (cs : List Condition) (desired : Condition) (now : Time) :
    setCondition (c :: cs) desired now =
      if c.type ≠ desired.type then c :: setCondition cs (stamped desired now) now
      else if c.status = desired.status then { desired with lastTransitionTime := c.lastTransitionTime } :: cs
      else stamped desired now :: cs := by
  rw [setCondition, stamped]
  by_cases hunset : desired.lastTransitionTime = 0 <;> simp [hunset]

theorem stamped_type (desired : Condition) (now : Time) : (stamped desired now).type = desired.type := by
  rw [stamped]
  split_ifs <;> rfl

theorem stamped_status (desired : Condition) (now : Time) : (stamped desired now).status = desired.status := by
  rw [stamped]
  split_ifs <;> rfl

/-- A stamp that stands is not renewed. -/
theorem stamped_stamped (desired : Condition) (now : Time) :
    stamped (stamped desired now) now = stamped desired now := by
  by_cases hunset : desired.lastTransitionTime = 0 <;> simp [stamped, hunset]

/-- What setting a condition does to the statuses: it changes the one that was set. -/
theorem statusOf_setCondition (conditions : List Condition) (desired : Condition) (now : Time) (type : String) :
    statusOf (setCondition conditions desired now) type =
      if desired.type = type then some desired.status else statusOf conditions type := by
  induction conditions generalizing desired with
  | nil =>
    have hnil : setCondition [] desired now = [stamped desired now] := rfl
    rw [hnil, statusOf_cons, stamped_type, stamped_status]
  | cons c cs ih =>
    rw [setCondition_cons]
    by_cases hsame : c.type = desired.type
    · rw [if_neg (not_not.mpr hsame)]
      split_ifs with hstays hof hof <;> simp [statusOf_cons, stamped_type, stamped_status, hsame, hof]
    · rw [if_pos hsame, statusOf_cons, statusOf_cons, ih, stamped_type, stamped_status]
      by_cases hof : desired.type = type
      · rw [if_pos hof, if_pos hof, if_neg fun heq => hsame (heq.trans hof.symm)]
      · rw [if_neg hof, if_neg hof]

/-- What it does to the times: that of the condition is kept with its status, and otherwise it is the present. -/
theorem transitionTime_setCondition (conditions : List Condition) (desired : Condition) (now : Time) (type : String) :
    transitionTime (setCondition conditions desired now) type =
      if desired.type = type then
        if statusOf conditions type = some desired.status then transitionTime conditions type
        else some (stamped desired now).lastTransitionTime
      else transitionTime conditions type := by
  induction conditions generalizing desired with
  | nil =>
    have hnil : setCondition [] desired now = [stamped desired now] := rfl
    have hnone : ¬statusOf [] type = some desired.status := nofun
    rw [hnil, transitionTime_cons, stamped_type, if_neg hnone]
  | cons c cs ih =>
    rw [setCondition_cons]
    by_cases hsame : c.type = desired.type
    · rw [if_neg (not_not.mpr hsame)]
      split_ifs with hstays hof hkept hof hkept <;>
        simp_all [transitionTime_cons, statusOf_cons, stamped_type]
    · rw [if_pos hsame, transitionTime_cons, transitionTime_cons, statusOf_cons, ih, stamped_type,
        stamped_status, stamped_stamped]
      by_cases hof : desired.type = type
      · have hother : ¬c.type = type := fun heq => hsame (heq.trans hof.symm)
        rw [if_pos hof, if_pos hof, if_neg hother, if_neg hother, if_neg hother]
      · rw [if_neg hof, if_neg hof]

theorem Truthful.refl (now : Time) (conditions : List Condition) : Truthful now conditions conditions :=
  fun _ => ⟨fun _ => rfl, fun hne => absurd rfl hne⟩

/-- Setting a condition is truthful unless it comes back to the status it was read with. -/
theorem Truthful.set {now : Time} {before after : List Condition} (h : Truthful now before after) {desired : Condition}
    (hunset : desired.lastTransitionTime = 0)
    (hback : statusOf before desired.type = some desired.status → statusOf after desired.type = some desired.status) :
    Truthful now before (setCondition after desired now) := by
  intro type
  rw [statusOf_setCondition, transitionTime_setCondition, stamped, if_pos hunset]
  by_cases htype : desired.type = type
  · subst htype
    rw [if_pos rfl, if_pos rfl]
    by_cases hsame : statusOf after desired.type = some desired.status
    · rw [if_pos hsame]
      exact hsame ▸ h desired.type
    · rw [if_neg hsame]
      exact ⟨fun heq => absurd (hback heq.symm) hsame, fun _ => rfl⟩
  · rw [if_neg htype, if_neg htype]
    exact h type

/-! ## Calls and histories -/

section

variable {Γ : Ctx} {cfg : Config} {rt : Runtime} {key : NamespacedName} {h : List Event} {v cluster : VirtualCluster}
  {α : Type}

theorem Relapses.append (hrelapses : Relapses Γ key h) (t : List Event) : Relapses Γ key (h ++ t) := by
  cases hrelapses with
  | drift hlive hstatus hcell hready hclass hresolved hkept hdrift =>
    exact .drift (Live.append hlive t) hstatus (Saw.append hcell t) hready (Saw.append hclass t) hresolved hkept hdrift
  | placement hlive hstatus hpods => exact .placement (Live.append hlive t) hstatus (Saw.append hpods t)

/-- A call that writes no status. -/
def plain : Call → Prop
  | .api apiCall => noStatus apiCall
  | .host _ => True

/-- Nothing is asked of a call that writes no status. -/
theorem stamps_of_plain {call : Call} (hplain : plain call) : Stamps Γ rt key h call := by
  unfold Stamps
  split
  · exact hplain.elim
  · trivial

/-- After such a call nothing was written yet. -/
theorem Unwritten.snoc (hunwritten : Unwritten h) {call : Call} (hplain : plain call) (r : call.Res) :
    Unwritten (h ++ [event call r]) := by
  intro o answer hsaw
  rcases saw_snoc hsaw with hsaw | heq
  · exact hunwritten o answer hsaw
  · cases heq
    exact hplain.elim

/-- A call that writes no status, and what comes after it. -/
theorem stamped_api {call : ApiCall} {f : Except Err call.Res → Action α} (hunwritten : Unwritten h)
    (hplain : plain (.api call))
    (hnext : ∀ r, Unwritten (h ++ [event (.api call) r]) → Stamped Γ rt key (f r) (h ++ [event (.api call) r])) :
    Stamped Γ rt key (api call >>= f) h :=
  ⟨stamps_of_plain hplain, fun r => hnext r (Unwritten.snoc hunwritten hplain r)⟩

/-- Ending a round with a status that is truthful, or after a relapse. -/
theorem stamped_persist {desired : VirtualCluster} {requeueAfter : Option Nat} (hunwritten : Unwritten h)
    (hbegan : Began key h v)
    (hlaw : Relapses Γ key h ∨ Truthful rt.now v.status.conditions desired.status.conditions) :
    Stamped Γ rt key (persist desired requeueAfter) h := by
  rw [persist, Stamped, guarded_bind]
  have happend : ∀ {h'} t, Began key h' v → Began key (h' ++ t) v :=
    fun t hb => hb.imp (Live.append · t) (Doomed.append · t)
  have hretry : Stamped Γ rt key (retryOnConflict (tryUpdateStatus desired) 4) h := by
    refine guarded_retry (T := fun h' => Unwritten h' ∧ Began key h' v ∧
      (Relapses Γ key h' ∨ Truthful rt.now v.status.conditions desired.status.conditions)) ?_ 4
        ⟨hunwritten, hbegan, hlaw⟩
    rintro h' ⟨hunwritten, hbegan, hlaw⟩
    refine ⟨trivial, fun r => ?_⟩
    have hread : Unwritten (h' ++ [event (.api (.getVirtualCluster desired.key)) r]) :=
      Unwritten.snoc hunwritten (by trivial) r
    have hlaw' := hlaw.imp_left (Relapses.append · [event (.api (.getVirtualCluster desired.key)) r])
    cases r with
    | error e => exact fun _ _ _ => ⟨hread, happend _ hbegan, hlaw'⟩
    | ok current =>
      refine ⟨⟨hread, v, happend _ hbegan, hlaw'⟩, fun r => ?_⟩
      cases r with
      | ok stored =>
        intro _ hfailed
        cases hfailed
      | error e =>
        intro e' he' hconflict
        cases he'
        refine ⟨?_, happend _ (happend _ hbegan), hlaw'.imp_left (Relapses.append · _)⟩
        -- the one event that writes a status is the one that met a conflict
        intro o answer hsaw
        rcases saw_snoc hsaw with hsaw | heq
        · exact hread o answer hsaw
        · cases heq
          exact hconflict
  refine hretry.mono (fun _ _ hp => hp) ?_
  rintro h' (e | ⟨⟩) - <;> trivial

/-! ## What a round has set so far -/

/-- The round has set conditions of these types only, and truthfully. -/
structure Touched (now : Time) (types : List String) (before after : List Condition) : Prop where
  truthful : Truthful now before after
  untouched : ∀ type, type ∉ types → statusOf after type = statusOf before type

theorem Touched.refl (now : Time) (conditions : List Condition) : Touched now [] conditions conditions :=
  ⟨Truthful.refl now conditions, fun _ _ => rfl⟩

/-- What is not among the types that were touched stands as it stood. -/
theorem Touched.others {now : Time} {types others : List String} {before after : List Condition}
    (htouched : Touched now types before after) (hdisjoint : ∀ type ∈ others, type ∉ types) :
    ∀ type ∈ others, statusOf after type = statusOf before type :=
  fun type htype => htouched.untouched type (hdisjoint type htype)

/-- The statuses of a VirtualCluster after one of its conditions was set. -/
theorem statusOf_cluster (conditionType : String) (status : ConditionStatus) (reason message type : String) :
    statusOf (cluster.setCondition rt conditionType status reason message).status.conditions type =
      if conditionType = type then some status else statusOf cluster.status.conditions type :=
  statusOf_setCondition _ _ _ _

/-- A condition may be set again, unless that takes it back to where it stood before it was moved. -/
theorem truthful_set {before : List Condition} (htruthful : Truthful rt.now before cluster.status.conditions)
    {conditionType : String} {status : ConditionStatus}
    (hback : statusOf before conditionType = some status →
      statusOf cluster.status.conditions conditionType = some status)
    (reason message : String) :
    Truthful rt.now before (cluster.setCondition rt conditionType status reason message).status.conditions :=
  Truthful.set htruthful rfl hback

/-- A condition that the round sets for the first time. -/
theorem Touched.set {types : List String} {before : List Condition}
    (htouched : Touched rt.now types before cluster.status.conditions) (conditionType : String)
    (hnew : conditionType ∉ types) (status : ConditionStatus) (reason message : String) :
    Touched rt.now (conditionType :: types) before
      (cluster.setCondition rt conditionType status reason message).status.conditions where
  truthful := truthful_set htouched.truthful (fun hbefore => (htouched.untouched _ hnew).trans hbefore) reason message
  untouched type htype := by
    rw [List.mem_cons, not_or] at htype
    rw [statusOf_cluster, if_neg (Ne.symm htype.1)]
    exact htouched.untouched type htype.2

/-- What the last part of a round may rely on: the Works were not spoken of, the parts of the child cluster are said
to be ready if they were observed so, and the host is spoken of only with an observer. -/
structure Observes (rt : Runtime) (v cluster : VirtualCluster) (hasObserver : Bool) : Prop where
  truthful : Truthful rt.now v.status.conditions cluster.status.conditions
  works : ∀ type ∈ ["FoundationReady", "InstanceReady"],
    statusOf cluster.status.conditions type = statusOf v.status.conditions type
  parts : cluster.status.child.allReady = true → ∀ type ∈ ["APIAccessible", "LogicalNodeReady", "StorageReady"],
    statusOf v.status.conditions type = some .true → statusOf cluster.status.conditions type = some .true
  host : hasObserver = false → statusOf cluster.status.conditions "HostReadReady" =
    statusOf v.status.conditions "HostReadReady"

/-- Deciding the phase says once more that the parts are ready, and leaves the other conditions alone. -/
theorem observes_withPhase {hasObserver : Bool} (hobserves : Observes rt v cluster hasObserver) :
    Truthful rt.now v.status.conditions (cluster.withPhase rt).status.conditions ∧
      ∀ type ∈ ["FoundationReady", "InstanceReady", "HostReadReady"],
        statusOf (cluster.withPhase rt).status.conditions type = statusOf cluster.status.conditions type := by
  unfold VirtualCluster.withPhase
  split_ifs with hall
  · have hparts := hobserves.parts hall
    refine ⟨truthful_set (truthful_set (truthful_set hobserves.truthful (hparts _ (by simp)) _ _) ?_ _ _) ?_ _ _,
      fun type htype => ?_⟩
    · intro hbefore
      rw [statusOf_cluster, if_neg (by decide)]
      exact hparts _ (by simp) hbefore
    · intro hbefore
      rw [statusOf_cluster, if_neg (by decide), statusOf_cluster, if_neg (by decide)]
      exact hparts _ (by simp) hbefore
    · simp only [List.mem_cons, List.not_mem_nil, or_false] at htype
      rw [statusOf_cluster, statusOf_cluster, statusOf_cluster]
      obtain rfl | rfl | rfl := htype <;> rfl
  · exact ⟨hobserves.truthful, fun _ _ => rfl⟩

/-- A condition that is only set in some cases may be set again in the same way. -/
theorem truthful_setConditionIf {before : List Condition}
    (htruthful : Truthful rt.now before cluster.status.conditions) {holds : Bool} {conditionType : String}
    {status : ConditionStatus}
    (hback : holds = true → statusOf before conditionType = some status →
      statusOf cluster.status.conditions conditionType = some status)
    (reason message : String) :
    Truthful rt.now before (cluster.setConditionIf holds rt conditionType status reason message).status.conditions := by
  unfold VirtualCluster.setConditionIf
  split_ifs with hholds
  · exact truthful_set htruthful (hback hholds) reason message
  · exact htruthful

/-- The other conditions stand in either case. -/
theorem statusOf_setConditionIf {holds : Bool} {conditionType type : String} (hne : conditionType ≠ type)
    (status : ConditionStatus) (reason message : String) :
    statusOf (cluster.setConditionIf holds rt conditionType status reason message).status.conditions type =
      statusOf cluster.status.conditions type := by
  unfold VirtualCluster.setConditionIf
  split_ifs
  · rw [statusOf_cluster, if_neg hne]
  · rfl

/-! ## The stages -/

/-- The last conditions of a round are set once. -/
theorem stamped_decidePhase {foundationSummary instanceSummary : WorkSummary} {hasObserver : Bool}
    (hunwritten : Unwritten h) (hlive : Live key h v) (hobserves : Observes rt v cluster hasObserver) :
    Stamped Γ rt key (decidePhase rt cluster foundationSummary instanceSummary hasObserver) h := by
  obtain ⟨hphase, hothers⟩ := observes_withPhase hobserves
  refine stamped_persist hunwritten (Or.inl hlive) (Or.inr ?_)
  refine truthful_setConditionIf (truthful_setConditionIf (truthful_setConditionIf hphase ?_ _ _) ?_ _ _) ?_ _ _
  · intro _ hbefore
    rw [hothers _ (by simp), hobserves.works _ (by simp)]
    exact hbefore
  · intro _ hbefore
    rw [statusOf_setConditionIf (by decide), hothers _ (by simp), hobserves.works _ (by simp)]
    exact hbefore
  · intro hnone hbefore
    rw [statusOf_setConditionIf (by decide), statusOf_setConditionIf (by decide), hothers _ (by simp),
      hobserves.host (by simpa using hnone)]
    exact hbefore

/-- The round works on `v`, and has written no status yet. -/
structure Unstamped (key : NamespacedName) (h : List Event) (v : VirtualCluster) : Prop where
  unwritten : Unwritten h
  live : Live key h v

theorem Unwritten.extend (hunwritten : Unwritten h) (hext : Extends h h') : Unwritten h' := by
  obtain ⟨t, rfl, hquiet⟩ := hext
  intro o answer hsaw
  rcases List.mem_append.mp hsaw with hsaw | hsaw
  · exact hunwritten o answer hsaw
  · cases hquiet _ hsaw

/-- After quiet calls the round may still write its one status. -/
theorem Unstamped.extend (hunstamped : Unstamped key h v) (hext : Extends h h') : Unstamped key h' v := by
  have hunwritten := Unwritten.extend hunstamped.unwritten hext
  obtain ⟨t, rfl, -⟩ := hext
  exact ⟨hunwritten, Live.append hunstamped.live t⟩

/-- A call to the host writes no status. -/
theorem Unstamped.host (hunstamped : Unstamped key h v) (call : HostCall) (r : call.Res) :
    Unstamped key (h ++ [event (.host call) r]) v := by
  have hplain : plain (.host call) := trivial
  exact ⟨Unwritten.snoc hunstamped.unwritten hplain r, Live.append hunstamped.live _⟩

/-- The status that is written has moved no time that it should not. -/
theorem Unstamped.persist {desired : VirtualCluster} {requeueAfter : Option Nat} (hunstamped : Unstamped key h v)
    (htruthful : Truthful rt.now v.status.conditions desired.status.conditions) :
    Stamped Γ rt key (persist desired requeueAfter) h :=
  stamped_persist hunstamped.unwritten (Or.inl hunstamped.live) (Or.inr htruthful)

/-- Nothing is asked of a quiet call. -/
theorem stamps_of_quiet (h : List Event) (call : Call) (hquiet : quietCall call = true) : Stamps Γ rt key h call := by
  unfold Stamps
  split
  · cases hquiet
  · trivial

section Observation

variable {target : Target} {foundationSummary : WorkSummary} {instanceCurrent : ManifestWork}

/-- After the observation the last part may rely on what it has to, and neither the credential nor the
identity was spoken of. -/
theorem observing_stamped : Observing Γ rt foundationSummary (fun h p => Stamped Γ rt key p h)
    (fun h c => Unstamped key h v ∧ Observes rt v c true ∧
      ∀ type ∈ ["Credential", "ChildIdentityReady"], statusOf c.status.conditions type =
        statusOf v.status.conditions type)
    (fun b h c => Unstamped key h v ∧ Observes rt v c b) where
  walk := walk_guarded stamps_of_quiet
  extend hext := And.imp_left (Unstamped.extend · hext)
  extendO hext := And.imp_left (Unstamped.extend · hext)
  invalid := by
    rintro h c ⟨hunstamped, hobserves, huntouched⟩
    exact hunstamped.persist (truthful_set hobserves.truthful
      (fun hbefore => (huntouched _ (by simp)).trans hbefore) _ _)
  unpublished := fun ⟨hunstamped, hobserves, _⟩ => ⟨hunstamped, hobserves⟩
  published := by
    rintro h c sourceSecretName endpoint hostname observed nodePort ⟨hunstamped, hobserves, huntouched⟩ - -
    refine ⟨hunstamped, ?_, fun type htype => ?_, fun hall type htype hbefore => ?_, nofun⟩
    · have hcredential : Truthful rt.now v.status.conditions
          (c.withCredential Γ sourceSecretName endpoint observed).status.conditions := hobserves.truthful
      exact truthful_set hcredential (fun hbefore => (huntouched _ (by simp)).trans hbefore) _ _
    · refine (statusOf_cluster ..).trans ((if_neg ?_).trans (hobserves.works type htype))
      rintro rfl
      simp at htype
    · refine (statusOf_cluster ..).trans ((if_neg ?_).trans (hobserves.parts hall type htype hbefore))
      rintro rfl
      simp at htype
  unplaced := by
    rintro h c ns e ⟨hunstamped, hobserves⟩
    obtain ⟨hunwritten, hlive⟩ := hunstamped.host (.listPods ns) (.error e)
    refine stamped_persist hunwritten (Or.inl hlive) ?_
    -- the host was said to be read a moment ago
    by_cases hfalse : statusOf v.status.conditions "HostReadReady" = some .false
    · exact Or.inl (.placement hlive hfalse (saw_last _ _ _))
    · exact Or.inr (truthful_set hobserves.truthful (fun hbefore => absurd hbefore hfalse) _ _)
  placed _ := And.imp_right fun hobserves => ⟨hobserves.truthful, hobserves.works, hobserves.parts, hobserves.host⟩
  unrefreshed := fun ⟨hunstamped, hobserves⟩ => hunstamped.persist hobserves.truthful
  refreshed _ := And.imp_right fun hobserves => ⟨hobserves.truthful, hobserves.works, hobserves.parts, hobserves.host⟩
  decided _ := fun ⟨hunstamped, hobserves⟩ => stamped_decidePhase hunstamped.unwritten hunstamped.live hobserves

/-- The types of the conditions that a round sets before it turns to the host. -/
def feasibleTypes : List String := ["Feasible", "ProviderReady", "CellSelected", "Validated"]

/-- The types of the conditions that a round sets before it observes the child cluster. -/
def quotaTypes : List String := "ReservationExceeded" :: "HostQuotaReady" :: feasibleTypes

/-- The types of the conditions that an observation of the child cluster sets. -/
def childTypes : List String := ["StorageReady", "LogicalNodeReady", "APIAccessible", "HostReadReady"]

/-- An observation sets the conditions of the child once. -/
theorem touched_observed (htouched : Touched rt.now quotaTypes v.status.conditions cluster.status.conditions)
    (child : ChildObservation) :
    Touched rt.now (childTypes ++ quotaTypes) v.status.conditions (cluster.observed rt child).status.conditions := by
  refine Touched.set (Touched.set (Touched.set ?_ _ (by decide) _ _ _) _ (by decide) _ _ _) _ (by decide) _ _ _
  exact Touched.set htouched _ (by decide) _ _ _

theorem touched_unobserved (htouched : Touched rt.now quotaTypes v.status.conditions cluster.status.conditions)
    (e : Err) :
    Touched rt.now (childTypes ++ quotaTypes) v.status.conditions (cluster.unobserved rt e).status.conditions := by
  refine Touched.set (Touched.set (Touched.set ?_ _ (by decide) _ _ _) _ (by decide) _ _ _) _ (by decide) _ _ _
  exact Touched.set htouched _ (by decide) _ _ _

/-- The parts that were observed to be ready are said to be so. -/
theorem observes_observed (htouched : Touched rt.now quotaTypes v.status.conditions cluster.status.conditions)
    (child : ChildObservation) :
    Observes rt v (cluster.observed rt child) true := by
  have htouched' := touched_observed htouched child
  refine ⟨htouched'.truthful, Touched.others htouched' (by decide), fun hall type htype _ => ?_, nofun⟩
  change (child.apiReady && child.logicalNodeReady && child.storageClassReady) = true at hall
  simp only [Bool.and_eq_true] at hall
  obtain ⟨⟨hapi, hnode⟩, hstorage⟩ := hall
  unfold VirtualCluster.observed
  simp only [List.mem_cons, List.not_mem_nil, or_false] at htype
  obtain rfl | rfl | rfl := htype <;> simp [statusOf_cluster, conditionStatus, hapi, hnode, hstorage]

/-- From the observation on, the conditions are set once. -/
theorem stamped_observeChild {hasObserver : Bool} (hunstamped : Unstamped key h v)
    (htouched : Touched rt.now quotaTypes v.status.conditions cluster.status.conditions) :
    Stamped Γ rt key (observeChild Γ cfg rt target foundationSummary instanceCurrent cluster hasObserver) h := by
  refine (observing_stamped (v := v)).observeChild
    (Q := fun h c => Unstamped key h v ∧ Touched rt.now quotaTypes v.status.conditions c.status.conditions)
    (fun hnext => ⟨trivial, hnext⟩) ?_ ?_ ?_ ⟨hunstamped, htouched⟩ hasObserver
  · rintro h addresses c e ⟨hunstamped, htouched⟩
    exact (hunstamped.host _ _).persist (touched_unobserved htouched e).truthful
  · rintro h addresses c child ⟨hunstamped, htouched⟩
    exact ⟨hunstamped.host _ _, observes_observed htouched child,
      Touched.others (touched_observed htouched child) (by decide)⟩
  · rintro h c b ⟨hunstamped, htouched⟩
    have hparts : ∀ type ∈ ["APIAccessible", "LogicalNodeReady", "StorageReady"],
        statusOf c.status.conditions type = statusOf v.status.conditions type := Touched.others htouched (by decide)
    exact ⟨hunstamped, htouched.truthful, Touched.others htouched (by decide),
      fun _ type htype hbefore => (hparts type htype).trans hbefore, fun _ => htouched.untouched _ (by decide)⟩

/-- The quota of the host namespace sets its own condition only. -/
theorem touched_withQuota (htouched : Touched rt.now feasibleTypes v.status.conditions cluster.status.conditions)
    (quota : Option ResourceQuota) :
    Touched rt.now quotaTypes v.status.conditions (cluster.withQuota rt target quota).status.conditions := by
  unfold VirtualCluster.withQuota
  dsimp only
  split_ifs <;> exact Touched.set (Touched.set htouched _ (by decide) _ _ _) _ (by decide) _ _ _

end Observation

/-- Before the observation every condition is set for the first time. -/
theorem founding_stamped : Founding Γ cfg rt (fun h p => Stamped Γ rt key p h)
    (fun h c => Unstamped key h v ∧ Touched rt.now feasibleTypes v.status.conditions c.status.conditions)
    (fun h c => Unstamped key h v ∧ Touched rt.now feasibleTypes v.status.conditions c.status.conditions)
    (fun h c => Unstamped key h v ∧ Touched rt.now quotaTypes v.status.conditions c.status.conditions) where
  walk := walk_guarded stamps_of_quiet
  extendT hext := And.imp_left (Unstamped.extend · hext)
  extendS hext := And.imp_left (Unstamped.extend · hext)
  extendQ hext := And.imp_left (Unstamped.extend · hext)
  unread _ _ := fun ⟨hunstamped, htouched⟩ => hunstamped.persist (Touched.set htouched _ (by decide) _ _ _).truthful
  unrefreshed := fun ⟨hunstamped, htouched⟩ => hunstamped.persist htouched.truthful
  foundationFailed _ _ := fun ⟨hunstamped, htouched⟩ =>
    hunstamped.persist (Touched.set (Touched.set htouched _ (by decide) _ _ _) _ (by decide) _ _ _).truthful
  foundationPending _ := fun ⟨hunstamped, htouched⟩ =>
    hunstamped.persist (Touched.set (Touched.set htouched _ (by decide) _ _ _) _ (by decide) _ _ _).truthful
  founded _ _ hcluster := hcluster
  instanceFailed _ _ := fun ⟨hunstamped, htouched⟩ => hunstamped.persist
    (Touched.set htouched _ (by decide) _ _ _).truthful
  limited work target quota := by
    rintro ⟨hunstamped, htouched⟩
    refine ⟨hunstamped, touched_withQuota ?_ quota⟩
    exact htouched
  unwatched _ := fun ⟨hunstamped, htouched⟩ => hunstamped.persist (Touched.set htouched _ (by decide) _ _ _).truthful
  observed _ _ _ _ := fun ⟨hunstamped, htouched⟩ => stamped_observeChild hunstamped htouched

section Stages

variable {cell : Cell} {virtualNodeClass : VirtualNodeClass} {resolved : ResolvedSnapshot}

/-- The types of the conditions that are set once the references are resolved. -/
def validatedTypes : List String := ["ProviderReady", "CellSelected", "Validated"]

/-- From the plan on, the conditions are set once. -/
theorem stamped_planStage (hunwritten : Unwritten h) (hlive : Live key h v)
    (htouched : Touched rt.now validatedTypes v.status.conditions cluster.status.conditions) :
    Stamped Γ rt key (planStage Γ cfg rt cluster cell virtualNodeClass resolved) h := by
  unfold planStage
  dsimp only
  split
  · exact stamped_persist hunwritten (Or.inl hlive) (Or.inr (Touched.set htouched _ (by decide) _ _ _).truthful)
  · exact stamped_persist hunwritten (Or.inl hlive) (Or.inr (Touched.set htouched _ (by decide) _ _ _).truthful)
  · refine (founding_stamped (v := v)).hostStage ?_ cell resolved
    exact ⟨⟨hunwritten, hlive⟩, Touched.set htouched _ (by decide) _ _ _⟩

/-- The one place where a condition that was just set is set to the contrary: references that resolve have drifted. -/
theorem stamped_snapshotStage (hunwritten : Unwritten h) (hlive : Live key h v)
    (htouched : Touched rt.now validatedTypes v.status.conditions cluster.status.conditions)
    (hdrift : statusOf v.status.conditions "Validated" = some .false → cluster.status.resolved.hostNamespace ≠ "" →
      sameResolvedProvider cluster.status.resolved resolved = false → Relapses Γ key h) :
    Stamped Γ rt key (snapshotStage Γ cfg rt cluster cell virtualNodeClass resolved) h := by
  unfold snapshotStage
  split_ifs with hkept hsame
  · exact stamped_planStage hunwritten hlive htouched
  · refine stamped_persist hunwritten (Or.inl hlive) ?_
    by_cases hfalse : statusOf v.status.conditions "Validated" = some .false
    · exact Or.inl (hdrift hfalse hkept (by simpa using hsame))
    · exact Or.inr (truthful_set htouched.truthful (fun hbefore => absurd hbefore hfalse) _ _)
  · exact stamped_planStage hunwritten hlive htouched

/-- From the resolution on, the conditions are set once, but for that relapse. -/
theorem stamped_resolveStage (hunwritten : Unwritten h) (hlive : Live key h v)
    (hcell : Saw h (.api (.getCell v.cellKey)) (.ok cell)) (hready : cell.status.phase = .ready)
    (hclass : Saw h (.api (.getVirtualNodeClass v.spec.classRef.name)) (.ok virtualNodeClass)) (generation : Nat) :
    Stamped Γ rt key (resolveStage Γ cfg rt
      { v with status.observedGeneration := generation } cell virtualNodeClass) h := by
  have hread : Touched rt.now [] v.status.conditions
    { v with status.observedGeneration := generation }.status.conditions :=
    Touched.refl rt.now v.status.conditions
  unfold resolveStage
  cases hresolve : resolveVirtualCluster Γ cell virtualNodeClass with
  | error e => exact stamped_persist hunwritten (Or.inl hlive) (Or.inr (Touched.set hread _ (by decide) _ _ _).truthful)
  | ok resolved =>
    refine stamped_snapshotStage hunwritten hlive ?_ fun hfalse hkept hdrift => ?_
    · exact Touched.set (Touched.set (Touched.set hread _ (by decide) _ _ _) _ (by decide) _ _ _) _ (by decide) _ _ _
    · exact .drift hlive hfalse hcell hready hclass hresolve hkept hdrift

/-- So they are from the reading of the references on. -/
theorem stamped_referenceStage (hunwritten : Unwritten h) (hlive : Live key h v) :
    Stamped Γ rt key (referenceStage Γ cfg rt v) h := by
  unfold referenceStage
  refine stamped_api hunwritten (by trivial) fun r hunwritten' => ?_
  have hlive' := Live.append hlive [event _ r]
  cases r with
  | error e => trivial
  | ok cell =>
    have hcell := saw_last h (.api (.getCell v.cellKey)) (.ok cell)
    refine stamped_api hunwritten' (by trivial) fun r hunwritten'' => ?_
    have hlive'' := Live.append hlive' [event _ r]
    cases r with
    | error e => trivial
    | ok virtualNodeClass =>
      dsimp only
      split_ifs with hready
      · exact stamped_persist hunwritten'' (Or.inl hlive'')
          (Or.inr (Touched.set (Touched.refl rt.now v.status.conditions) _ (by decide) _ _ _).truthful)
      · exact stamped_resolveStage hunwritten'' hlive'' (Saw.append hcell _) (not_not.mp hready) (saw_last _ _ _) _

end Stages

/-! ## The deletion -/

/-- The deletion sets one condition, on the VirtualCluster that it has read. -/
theorem deleting_stamped : Deleting rt v (fun h p => Stamped Γ rt key p h) (fun h => Unwritten h ∧ Doomed key h v) where
  walk := walk_guarded stamps_of_quiet
  extend hext := fun ⟨hunwritten, hdoomed⟩ => by
    have hunwritten := Unwritten.extend hunwritten hext
    obtain ⟨t, rfl, -⟩ := hext
    exact ⟨hunwritten, Doomed.append hdoomed t⟩
  cleaned _ _ _ _ := fun ⟨hunwritten, hdoomed⟩ => stamped_persist hunwritten (Or.inr hdoomed)
    (Or.inr (Touched.set (Touched.refl rt.now v.status.conditions) _ (by decide) _ _ _).truthful)
  done _ _ := trivial

end

end TransitionsAux

open TransitionsAux

/-- A round stamps what it writes, whatever the answers are. -/
theorem stamped_reconcile (Γ : Ctx) (cfg : Config) (rt : Runtime) (key : NamespacedName) :
    Stamped Γ rt key (reconcile Γ cfg rt key) [] := by
  have hnone : Unwritten [] := fun _ _ hsaw => nomatch hsaw
  unfold reconcile
  refine stamped_api hnone (by trivial) fun r hunwritten => ?_
  rw [List.nil_append] at hunwritten ⊢
  cases r with
  | error e => trivial
  | ok v =>
    dsimp only
    split_ifs with hdeleting hheld
    · exact deleting_stamped.reconcileDeletion fun hheld => ⟨hunwritten, .read hdeleting hheld⟩
    · have hdeleting : v.deleting = false := by simpa using hdeleting
      have hheld : v.held = false := by simpa [VirtualCluster.held] using hheld
      refine stamped_api hunwritten (by trivial) fun r hunwritten' => ?_
      cases r with
      | error e => trivial
      | ok v' => exact stamped_referenceStage hunwritten' (.adopted hdeleting hheld)
    · exact stamped_referenceStage hunwritten
        (.read (by simpa using hdeleting) (by simpa [VirtualCluster.held] using hheld))

end KubeCell
