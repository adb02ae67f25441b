import KubeCell.Lemmas.Publish

/-!
# Past the foundation gate

What a round has read when it goes past the foundation gate, and when it observes the child cluster: the foundation
Work, read back right after the round has written it, and the instance Work, read right after that.
-/

namespace KubeCell

open Prog RoundAux ProvisionAux PublishAux StagesAux

/-- A call by which a round goes past the foundation gate: it reads or writes the instance Work, or
observes the child cluster. -/
def VirtualCluster.goesPast (v : VirtualCluster) : Call → Bool
  | .api (.getWork key) => key.name == v.names.instanceWork
  | .api (.createWork o) | .api (.patchWork o) => o.metadata.name == v.names.instanceWork
  | .host (.observe _ _) => true
  | _ => false

/-- The round has written the foundation Work, and then read it back; `rest` is what came after that. -/
structure ReadBack (key : NamespacedName) (h : List Event) (v : VirtualCluster) (managedCluster : String)
    (foundation : ManifestWork) (rest : List Event) : Prop where
  live : Live key h v
  history : ∃ h₀ desired e, h = h₀ ++ e :: event (.api (.getWork (v.foundationKey managedCluster)))
    (.ok foundation) :: rest ∧
    desired.metadata.key = v.foundationKey managedCluster ∧ Wrote [e] desired

/-- A round that goes past the foundation gate with this call trusts the foundation Work it has read back, and one
that observes the child cluster trusts, besides, the instance Work it has read then. -/
def Relies (Trusts : ManifestWork → Prop) (key : NamespacedName) (h : List Event) (call : Call) : Prop :=
  ∀ v, Live key h v → v.goesPast call = true → ∃ managedCluster foundation rest,
    ReadBack key h v managedCluster foundation rest ∧
    Trusts foundation ∧ ∀ cluster addresses, call = .host (.observe cluster addresses) → ∃ instanceWork rest',
      rest = event (.api (.getWork (v.instanceKey managedCluster))) (.ok instanceWork) :: rest' ∧ Trusts instanceWork

namespace GateAux

theorem ReadBack.append {key : NamespacedName} {h : List Event} {v : VirtualCluster} {managedCluster : String}
    {foundation : ManifestWork} {rest : List Event} (hback : ReadBack key h v managedCluster foundation rest)
    (t : List Event) :
    ReadBack key (h ++ t) v managedCluster foundation (rest ++ t) := by
  obtain ⟨h₀, desired, e, heq, hkey, hwrote⟩ := hback.history
  exact ⟨Live.append hback.live t, h₀, desired, e, by simp [heq], hkey, hwrote⟩

/-- What is trusted is something the round has read. -/
theorem Relies.read_mono {Trusts Trusts' : ManifestWork → Prop} {key : NamespacedName} {h : List Event} {call : Call}
    (hrelies : Relies Trusts key h call)
    (hread : ∀ workKey work, Saw h (.api (.getWork workKey)) (.ok work) → Trusts work → Trusts' work) :
    Relies Trusts' key h call := by
  intro v hlive hpast
  obtain ⟨managedCluster, foundation, rest, hback, hfoundation, hobserved⟩ := hrelies v hlive hpast
  obtain ⟨h₀, desired, e, heq, -, -⟩ := hback.history
  refine ⟨managedCluster, foundation, rest, hback, hread (v.foundationKey managedCluster) foundation ?_ hfoundation, ?_⟩
  · rw [heq]
    exact List.mem_append_right _ (List.mem_cons_of_mem _ List.mem_cons_self)
  · intro cluster addresses hcall
    obtain ⟨instanceWork, rest', rfl, hinstance⟩ := hobserved cluster addresses hcall
    refine ⟨instanceWork, rest', rfl, hread (v.instanceKey managedCluster) instanceWork ?_ hinstance⟩
    rw [heq]
    exact List.mem_append_right _ (List.mem_cons_of_mem _ (List.mem_cons_of_mem _ List.mem_cons_self))

/-- The program relies on Works that are applied. -/
abbrev Gated (key : NamespacedName) {α : Type} (Q : List Event → α → Prop) (p : Action α) (h : List Event) : Prop :=
  Guarded event (Relies (fun work => isApplied work = true) key) Q p h

variable {Γ : Ctx} {cfg : Config} {rt : Runtime} {key : NamespacedName} {h : List Event} {v : VirtualCluster}

/-- What a program that begins with a call relies on. -/
theorem gated_api {α : Type} {Q : List Event → α → Prop} (call : ApiCall) (f : Except Err call.Res → Action α) :
    Gated key Q (api call >>= f) h ↔ Relies (fun work => isApplied work = true) key h (.api call) ∧
      ∀ r, Gated key Q (f r) (h ++ [event (.api call) r]) := Iff.rfl

/-- A call that stays before the gate. -/
theorem relies_of_not_past {Trusts : ManifestWork → Prop} {call : Call} (hlive : Live key h v)
    (hcall : v.goesPast call = false) :
    Relies Trusts key h call := by
  intro v' hlive' hpast
  rw [Live.unique hlive' hlive, hcall] at hpast
  nomatch hpast

/-- A program that stays before the gate. -/
theorem gated_before {α : Type} {Q : List Event → α → Prop} {p : Action α}
    (hp : Neutral (fun call => v.goesPast call = false) p) (hlive : Live key h v)
    (hQ : ∀ h' a, Live key h' v → Q h' a) : Gated key Q p h := by
  refine Neutral.guarded (J := fun h => Live key h v) ?_ ?_ hp hlive hQ
  · intro h call hlive hcall
    exact relies_of_not_past hlive hcall
  · intro h call answer hlive _
    exact Live.append hlive _

/-- The end of a round relies on nothing. -/
theorem gated_persist (hlive : Live key h v) (desired : VirtualCluster) (requeueAfter : Option Nat) :
    Gated key (fun _ _ => True) (persist desired requeueAfter) h :=
  gated_before (v := v) (neutral_status (fun _ => rfl) (fun _ => rfl) desired requeueAfter) hlive fun _ _ _ => trivial

section Past

variable {managedCluster : String} {foundation : ManifestWork} {rest : List Event}

/-- A call past the gate that observes nothing. -/
theorem relies_of_readBack {Trusts : ManifestWork → Prop} {call : Call}
    (hback : ReadBack key h v managedCluster foundation rest) (htrusts : Trusts foundation)
    (hcall : noObservation call) : Relies Trusts key h call := by
  intro v' hlive' _
  obtain rfl := Live.unique hback.live hlive'
  refine ⟨managedCluster, foundation, rest, hback, htrusts, ?_⟩
  rintro cluster addresses rfl
  exact hcall.elim

/-- A program past the gate that observes nothing. -/
theorem gated_past {α : Type} {p : Action α} (hp : Neutral noObservation p)
    (hback : ReadBack key h v managedCluster foundation rest) (happlied : isApplied foundation = true) :
    Gated key (fun _ _ => True) p h := by
  refine Neutral.guarded (J := fun h => ∃ rest, ReadBack key h v managedCluster foundation rest) ?_ ?_ hp
    ⟨rest, hback⟩ fun _ _ _ => trivial
  · rintro h call ⟨rest, hback⟩ hcall
    exact relies_of_readBack hback happlied hcall
  · rintro h call answer ⟨rest, hback⟩ -
    exact ⟨_, ReadBack.append hback _⟩

variable {target : Target} {foundationSummary : WorkSummary} {instanceCurrent : ManifestWork}

/-- The instance Work that the round goes on with was read right after the foundation Work, if it is applied. -/
def ReadNext (v : VirtualCluster) (managedCluster : String) (rest : List Event)
    (instanceCurrent : ManifestWork) : Prop :=
  isApplied instanceCurrent = true →
    ∃ rest', rest = event (.api (.getWork (v.instanceKey managedCluster))) (.ok instanceCurrent) :: rest'

theorem ReadNext.append (hnext : ReadNext v managedCluster rest instanceCurrent) (t : List Event) :
    ReadNext v managedCluster (rest ++ t) instanceCurrent := by
  intro happlied
  obtain ⟨rest', rfl⟩ := hnext happlied
  exact ⟨rest' ++ t, rfl⟩

/-- The child is observed once the foundation Work was read applied. -/
theorem gated_observeChild (hback : ReadBack key h v managedCluster foundation rest)
    (happlied : isApplied foundation = true) (hnext : ReadNext v managedCluster rest instanceCurrent)
    (cluster : VirtualCluster) (hasObserver : Bool) :
    Gated key (fun _ _ => True) (observeChild Γ cfg rt target foundationSummary instanceCurrent cluster
      hasObserver) h := by
  unfold observeChild
  split_ifs with hobserve
  · obtain ⟨rest', hrest⟩ := hnext hobserve.1
    constructor
    · intro v' hlive' _
      obtain rfl := Live.unique hback.live hlive'
      exact ⟨managedCluster, foundation, rest, hback, happlied,
        fun _ _ _ => ⟨instanceCurrent, rest', hrest, hobserve.1⟩⟩
    · intro r
      cases r with
      | error e => exact gated_past (neutral_persist _ _) (ReadBack.append hback _) happlied
      | ok child => exact gated_past (neutral_credentialStage _ _) (ReadBack.append hback _) happlied
  · exact gated_past (neutral_writeInstance Γ _ _ _ _ _) hback happlied

theorem gated_selectObserver (hback : ReadBack key h v managedCluster foundation rest)
    (happlied : isApplied foundation = true) (hnext : ReadNext v managedCluster rest instanceCurrent)
    (cluster : VirtualCluster) :
    Gated key (fun _ _ => True) (selectObserver Γ cfg rt target foundationSummary instanceCurrent cluster) h := by
  unfold selectObserver
  split_ifs
  · refine ⟨relies_of_readBack hback happlied trivial, fun r => ?_⟩
    cases r with
    | error e => exact gated_past (neutral_persist _ _) (ReadBack.append hback _) happlied
    | ok _ => exact gated_observeChild (ReadBack.append hback _) happlied (ReadNext.append hnext _) _ _
  · exact gated_observeChild hback happlied hnext _ _

/-- The instance Work is looked at then. -/
theorem gated_instanceStage (hback : ReadBack key h v managedCluster foundation rest)
    (happlied : isApplied foundation = true) (hnext : ReadNext v managedCluster rest instanceCurrent)
    (cluster : VirtualCluster) :
    Gated key (fun _ _ => True) (instanceStage Γ cfg rt target foundationSummary instanceCurrent cluster) h := by
  unfold instanceStage
  dsimp only
  split_ifs
  · exact gated_past (neutral_persist _ _) hback happlied
  · refine ⟨relies_of_readBack hback happlied trivial, fun r => ?_⟩
    cases r <;> exact gated_selectObserver (ReadBack.append hback _) happlied (ReadNext.append hnext _) _
  · exact gated_selectObserver hback happlied hnext _

end Past

/-! ## Before the gate -/

/-- The foundation Work is written before the gate, and the write is the last call of one that succeeds. -/
theorem gated_createOrUpdateWork (hlive : Live key h v) {desired : ManifestWork}
    (hname : desired.metadata.name ≠ v.names.instanceWork) :
    Gated key (fun h' r => Live key h' v ∧ (r = .ok () → ∃ h₀ e, h' = h₀ ++ [e] ∧ Wrote [e] desired))
      (createOrUpdateWork desired) h := by
  have hget : v.goesPast (.api (.getWork desired.metadata.key)) = false := beq_false_of_ne hname
  have hcreate : v.goesPast (.api (.createWork desired)) = false := beq_false_of_ne hname
  have hpatch : v.goesPast (.api (.patchWork desired)) = false := beq_false_of_ne hname
  unfold createOrUpdateWork
  dsimp only
  rw [gated_api]
  refine ⟨relies_of_not_past hlive hget, fun r => ?_⟩
  have hlive := Live.append hlive [event (.api (.getWork desired.metadata.key)) r]
  cases r with
  | error e =>
    dsimp only
    split_ifs
    · exact ⟨hlive, nofun⟩
    · rw [gated_api]
      refine ⟨relies_of_not_past hlive hcreate, fun r => ?_⟩
      cases r with
      | error e => exact ⟨Live.append hlive _, nofun⟩
      | ok stored => exact ⟨Live.append hlive _, fun _ => ⟨_, _, rfl, Or.inl ⟨stored, List.mem_singleton_self _⟩⟩⟩
  | ok current =>
    dsimp only
    cases validateWorkReference current (desired.metadata.labels.get labelVirtualClusterUID) with
    | error e => exact ⟨hlive, nofun⟩
    | ok _ =>
      dsimp only
      split_ifs
      · exact ⟨hlive, nofun⟩
      · rw [gated_api]
        refine ⟨relies_of_not_past hlive hpatch, fun r => ?_⟩
        cases r with
        | error e => exact ⟨Live.append hlive _, nofun⟩
        | ok stored => exact ⟨Live.append hlive _, fun _ => ⟨_, _, rfl, Or.inr ⟨stored, List.mem_singleton_self _⟩⟩⟩

variable {cluster : VirtualCluster}

/-- The foundation Work that was read back decides whether the round goes on. -/
theorem gated_foundationStage {target : Target} {foundation : ManifestWork}
    (hinstance : target.names.instanceWork = v.names.instanceWork)
    (hback : ReadBack key h v target.managedCluster foundation []) :
    Gated key (fun _ _ => True) (foundationStage Γ cfg rt cluster target foundation) h := by
  unfold foundationStage
  dsimp only
  split_ifs with hfailed hwaiting
  · exact gated_persist hback.live _ _
  · exact gated_persist hback.live _ _
  · have happlied : isApplied foundation = true := isApplied_of_summary (by simpa using hwaiting)
    rw [gated_api]
    refine ⟨relies_of_readBack hback happlied trivial, fun r => ?_⟩
    have hback := ReadBack.append hback [event (.api (.getWork ⟨target.managedCluster, target.names.instanceWork⟩)) r]
    cases r with
    | error e =>
      dsimp only
      split_ifs
      · trivial
      · refine gated_instanceStage hback happlied (fun happlied => ?_) _
        rw [emptyWork_conditions.1] at happlied
        nomatch happlied
    | ok instanceCurrent =>
      refine gated_instanceStage hback happlied (fun _ => ⟨[], ?_⟩) _
      rw [VirtualCluster.instanceKey, ← hinstance]
      rfl

/-- Writing the foundation Work relies on nothing, and it is read back at once. -/
theorem gated_writeFoundation {target : Target} (hlive : Live key h v)
    (hfoundation : target.names.foundationWork = v.names.foundationWork)
    (hinstance : target.names.instanceWork = v.names.instanceWork) :
    Gated key (fun _ _ => True) (writeFoundation Γ cfg rt cluster target) h := by
  have hname : (buildFoundationWork cluster target.resolved target.names target.managedCluster).metadata.name ≠
    v.names.instanceWork := by
    intro heq
    exact foundationWork_ne_instanceWork v (hfoundation.symm.trans heq)
  have hkey : (buildFoundationWork cluster target.resolved target.names target.managedCluster).metadata.key =
      v.foundationKey target.managedCluster := by
    rw [VirtualCluster.foundationKey, ← hfoundation]
    rfl
  unfold writeFoundation
  dsimp only
  refine (guarded_bind _ _ _).mpr ?_
  refine (gated_createOrUpdateWork hlive hname).mono (fun _ _ hrelies => hrelies) ?_
  rintro h' r ⟨hlive', hwrote⟩
  cases r with
  | error e => trivial
  | ok _ =>
    obtain ⟨h₀, e, rfl, hwritten⟩ := hwrote rfl
    refine ⟨relies_of_not_past hlive' (beq_false_of_ne hname), fun r => ?_⟩
    have hread := Live.append hlive' [event (.api (.getWork (buildFoundationWork cluster target.resolved target.names
      target.managedCluster).metadata.key)) r]
    cases r with
    | error e => exact gated_persist hread _ _
    | ok foundation =>
      refine gated_foundationStage hinstance ⟨hread, h₀, _, e, ?_, hkey, hwritten⟩
      rw [hkey]
      simp

/-- The names of the Works depend on the identity of a VirtualCluster only. -/
theorem names_congr {v' : VirtualCluster} (h : cluster.metadata = v'.metadata) : cluster.names = v'.names := by
  rw [VirtualCluster.names, VirtualCluster.names, h]

/-- Nothing before the foundation Work relies on a Work. -/
theorem gated_addressStage (hlive : Live key h v) (hmetadata : cluster.metadata = v.metadata) (cell : Cell)
    (resolved : ResolvedSnapshot) (addresses : List String) :
    Gated key (fun _ _ => True) (addressStage Γ cfg rt cluster cell resolved addresses) h := by
  unfold addressStage
  split_ifs
  · exact gated_persist hlive _ _
  · have hnames := names_congr hmetadata
    exact gated_writeFoundation hlive (congrArg VirtualClusterNames.foundationWork hnames)
      (congrArg VirtualClusterNames.instanceWork hnames)

/-- Nor does the reading of the nodes. -/
theorem gated_hostStage (hlive : Live key h v) (hmetadata : cluster.metadata = v.metadata) (cell : Cell)
    (resolved : ResolvedSnapshot) :
    Gated key (fun _ _ => True) (hostStage Γ cfg rt cluster cell resolved) h := by
  unfold hostStage
  split_ifs
  · refine ⟨relies_of_not_past hlive rfl, fun r => ?_⟩
    cases r with
    | error e => exact gated_persist (Live.append hlive _) _ _
    | ok _ =>
      refine ⟨relies_of_not_past (Live.append hlive _) rfl, fun r => ?_⟩
      cases r with
      | error e => exact gated_persist (Live.append (Live.append hlive _) _) _ _
      | ok nodes => exact gated_addressStage (Live.append (Live.append hlive _) _) hmetadata _ _ _
  · exact gated_addressStage hlive hmetadata _ _ _

/-- Nor does the plan. -/
theorem gated_planStage (hlive : Live key h v) (hmetadata : cluster.metadata = v.metadata) (cell : Cell)
    (virtualNodeClass : VirtualNodeClass) (resolved : ResolvedSnapshot) :
    Gated key (fun _ _ => True) (planStage Γ cfg rt cluster cell virtualNodeClass resolved) h := by
  unfold planStage
  dsimp only
  cases (evaluateVirtualClusterPlan Γ rt cell virtualNodeClass).decision with
  | rejected => exact gated_persist hlive _ _
  | unknown => exact gated_persist hlive _ _
  | accepted =>
    refine gated_hostStage hlive ?_ _ _
    exact hmetadata

/-- Nor does the resolution. -/
theorem gated_resolveStage (hlive : Live key h v) (hmetadata : cluster.metadata = v.metadata) (cell : Cell)
    (virtualNodeClass : VirtualNodeClass) :
    Gated key (fun _ _ => True) (resolveStage Γ cfg rt cluster cell virtualNodeClass) h := by
  unfold resolveStage
  cases resolveVirtualCluster Γ cell virtualNodeClass with
  | error e => exact gated_persist hlive _ _
  | ok resolved =>
    dsimp only
    unfold snapshotStage
    have hvalidated : (cluster.validated rt).metadata = v.metadata := hmetadata
    split_ifs
    · refine gated_planStage hlive ?_ _ _ _
      exact hvalidated
    · exact gated_persist hlive _ _
    · exact gated_planStage hlive hvalidated _ _ _

/-- Nor does the reading of the references. -/
theorem gated_referenceStage (hlive : Live key h v) : Gated key (fun _ _ => True) (referenceStage Γ cfg rt v) h := by
  unfold referenceStage
  dsimp only
  rw [gated_api]
  refine ⟨relies_of_not_past hlive rfl, fun r => ?_⟩
  cases r with
  | error e => trivial
  | ok cell =>
    have hlive := Live.append hlive [event (.api (.getCell v.cellKey)) (.ok cell)]
    rw [gated_api]
    refine ⟨relies_of_not_past hlive rfl, fun r => ?_⟩
    have hlive := Live.append hlive [event (.api (.getVirtualNodeClass v.spec.classRef.name)) r]
    cases r with
    | error e => trivial
    | ok virtualNodeClass =>
      dsimp only
      split_ifs
      · exact gated_persist hlive _ _
      · refine gated_resolveStage hlive ?_ _ _
        rfl

/-- A round for a VirtualCluster that is being deleted goes past nothing. -/
theorem gated_reconcileDeletion (hdoomed : Doomed key h v) :
    Gated key (fun _ _ => True) (reconcileDeletion rt v) h := by
  refine Neutral.guarded (J := fun h => Doomed key h v) ?_ ?_ (neutral_reconcileDeletion v) hdoomed fun _ _ _ => trivial
  · intro h call hdoomed _ v' hlive
    exact absurd hdoomed (Live.not_doomed hlive)
  · intro h call answer hdoomed _
    exact Doomed.append hdoomed _

/-- In every round: who goes past the foundation gate has read a foundation Work that says it is applied, and who
observes the child cluster an instance Work that does. -/
theorem gated_reconcile (Γ : Ctx) (cfg : Config) (rt : Runtime) (key : NamespacedName) :
    Gated key (fun _ _ => True) (reconcile Γ cfg rt key) [] := by
  unfold reconcile
  rw [gated_api]
  refine ⟨fun v hlive => (nomatch hlive), fun r => ?_⟩
  rw [List.nil_append]
  cases r with
  | error e => trivial
  | ok v =>
    dsimp only
    split_ifs with hdeleting hheld
    · by_cases hheld : v.held = true
      · exact gated_reconcileDeletion (.read hdeleting hheld)
      · unfold reconcileDeletion
        rw [if_pos (by simpa [VirtualCluster.held] using hheld)]
        trivial
    · have hdeleting : v.deleting = false := by simpa using hdeleting
      have hheld : v.held = false := by simpa [VirtualCluster.held] using hheld
      rw [gated_api]
      constructor
      · -- the round has not begun to work on anything
        intro v' hlive
        cases hlive with
        | read _ hheld' => simp [hheld] at hheld'
      · intro r
        cases r with
        | error e => trivial
        | ok v' => exact gated_referenceStage (.adopted hdeleting hheld)
    · exact gated_referenceStage (.read (by simpa using hdeleting) (by simpa [VirtualCluster.held] using hheld))

end GateAux

end KubeCell
