import KubeCell.CellReconcile
import KubeCell.HostBaseline

/-!
# What is observed of a host that changes

The baseline of a host is read in up to nine calls, and the host may change between any two of them, so there need not
be a moment at which the host looked as it was observed. What an observation does tell is bounded by what was there
all along and by what was there at some time: a part that was there throughout is never missed, and a part that was
never there is never reported.
-/

namespace KubeCell

/-! ## The parts of the baseline -/

/-- What a Cell relies on a host to have. -/
inductive BaselinePart where
  | k3kNamespace | clusterDefinition | policyDefinition | controller | network
  | topolvmNamespace | topolvmDeployment | topolvmNode | topolvmLvmd | storageClass | csiDriver
  deriving DecidableEq, Repr

/-- The status of the last condition of a type. -/
def lastStatus (conditions : List Condition) (type : String) : Option ConditionStatus :=
  (conditions.reverse.find? (·.type = type)).map (·.status)

/-- The deployment is up to date, as far as can be told, and has a replica. -/
def Deployment.Available (d : Deployment) : Prop :=
  (d.replicas ≠ none → d.metadata.generation ≤ d.observedGeneration) ∧ 1 ≤ d.availableReplicas

/-- All pods of the daemon set are up to date and ready, and there are some. -/
def DaemonSet.Ready (d : DaemonSet) : Prop :=
  0 < d.desiredNumberScheduled ∧ d.numberReady = d.desiredNumberScheduled ∧
    d.updatedNumberScheduled = d.desiredNumberScheduled

namespace HostObjects

/-- There is an active namespace of that name. -/
def HasNamespace (host : HostObjects) (name : String) : Prop :=
  ∃ ns, host.findNamespace name = some ns ∧ ns.phase = "Active"

/-- There is an established definition of that name. -/
def HasDefinition (host : HostObjects) (name : String) : Prop :=
  ∃ crd ∈ host.customResourceDefinitions, crd.metadata.name = name ∧ ∃ c ∈ crd.conditions,
    c.type = "Established" ∧ c.status = .true

/-- There is an available deployment of an application in a namespace. -/
def HasDeployment (host : HostObjects) (ns app : String) : Prop :=
  ∃ d ∈ host.deployments, d.metadata.selected ns ("app.kubernetes.io/name", app) = true ∧ d.Available

/-- There is a ready daemon set of a component of TopoLVM. -/
def HasTopoLVM (host : HostObjects) (component : String) : Prop :=
  ∃ d ∈ host.daemonSets,
    d.metadata.selected "topolvm-system" ("app.kubernetes.io/name", "topolvm") = true ∧
      topoLVMComponent d component = true ∧ d.Ready

/-- The host has a part of the baseline. -/
def Has (host : HostObjects) : BaselinePart → Prop
  | .k3kNamespace => host.HasNamespace "k3k-system"
  | .clusterDefinition => host.HasDefinition "clusters.k3k.io"
  | .policyDefinition => host.HasDefinition "virtualclusterpolicies.k3k.io"
  | .controller => host.HasDeployment "k3k-system" "k3k"
  | .network =>
    ∃ n ∈ host.nodes, lastStatus n.conditions "Ready" = some .true ∧
      lastStatus n.conditions "NetworkUnavailable" ≠ some .true
  | .topolvmNamespace => host.HasNamespace "topolvm-system"
  | .topolvmDeployment => host.HasDeployment "topolvm-system" "topolvm"
  | .topolvmNode => host.HasTopoLVM "node"
  | .topolvmLvmd => host.HasTopoLVM "lvmd"
  | .storageClass =>
    ∃ s ∈ host.storageClasses, s.provisioner = "topolvm.io" ∧ s.volumeBindingMode = some "WaitForFirstConsumer"
  | .csiDriver => ∃ d ∈ host.csiDrivers, d.metadata.name = "topolvm.io"

/-- The host has the parts `lo`, and no parts but `hi`. -/
def Within (lo hi : Set BaselinePart) (host : HostObjects) : Prop :=
  lo ⊆ {part | host.Has part} ∧ {part | host.Has part} ⊆ hi

end HostObjects

/-- A flag that is set when all of some parts are there throughout, and only when each of them
was there at some time. -/
def Shown (lo hi parts : Set BaselinePart) (flag : Bool) : Prop :=
  (parts ⊆ lo → flag = true) ∧ (flag = true → parts ⊆ hi)

/-- Each flag of an observation is shown as the parts it stands for. -/
structure Reports (lo hi : Set BaselinePart) (o : BaselineObservation) : Prop where
  namespaceReady : Shown lo hi {.k3kNamespace} o.namespaceReady
  k3kCRDsReady : Shown lo hi ({.clusterDefinition} ∪ {.policyDefinition}) o.k3kCRDsReady
  controllerReady : Shown lo hi {.controller} o.controllerReady
  cniReady : Shown lo hi {.network} o.cniReady
  topoLVMReady : Shown lo hi
    ({.topolvmNamespace} ∪ {.topolvmDeployment} ∪ {.topolvmNode} ∪ {.topolvmLvmd} ∪ {.storageClass} ∪
      {.csiDriver}) o.topoLVMReady
  ready : Shown lo hi Set.univ o.ready

/-- What is recorded of a call. -/
def baselineEvent (call : BaselineCall) (r : call.Res) : (call : BaselineCall) × call.Res := ⟨call, r⟩

namespace ProbedAux

/-! ## The evaluation reads the parts -/

theorem lastStatus_append (conditions : List Condition) (c : Condition) (type : String) :
    lastStatus (conditions ++ [c]) type = if c.type = type then some c.status else lastStatus conditions type := by
  by_cases hc : c.type = type
  · simp [lastStatus, hc]
  · simp [lastStatus, hc]

/-- The loop over the conditions of a node ends with the last of each type. -/
theorem foldl_networkState (conditions : List Condition) :
    conditions.foldl NetworkState.add {} =
      { ready := lastStatus conditions "Ready" == some .true
        networkUnavailable := lastStatus conditions "NetworkUnavailable" == some .true } := by
  induction conditions using List.reverseRecOn with
  | nil => rfl
  | append_singleton conditions c ih =>
    rw [List.foldl_append, ih, List.foldl_cons, List.foldl_nil, lastStatus_append, lastStatus_append]
    unfold NetworkState.add
    by_cases hready : c.type = "Ready"
    · simp [hready]
    · by_cases hnetwork : c.type = "NetworkUnavailable"
      · simp [hnetwork]
      · simp [hready, hnetwork]

/-- The network is ready when a node says so. -/
theorem networkReadyNode_iff (host : HostObjects) : networkReadyNode host.nodes = true ↔ host.Has .network := by
  simp [networkReadyNode, foldl_networkState, HostObjects.Has]

/-- The check of the storage classes finds what the part stands for. -/
theorem validTopoLVMStorageClass_iff (host : HostObjects) :
    validTopoLVMStorageClass host.storageClasses = true ↔ host.Has .storageClass := by
  simp [validTopoLVMStorageClass, HostObjects.Has]

theorem validTopoLVMCSIDriver_iff (host : HostObjects) :
    validTopoLVMCSIDriver host.csiDrivers = true ↔ host.Has .csiDriver := by
  simp [validTopoLVMCSIDriver, HostObjects.Has]

/-- Leaving out other definitions does not matter for the two that are looked for. -/
theorem establishedCRD_iff (host : HostObjects) {name : String}
    (hname : name = "clusters.k3k.io" ∨ name = "virtualclusterpolicies.k3k.io") :
    establishedCRD (filterK3kCRDs host.customResourceDefinitions) name = true ↔ host.HasDefinition name := by
  simp only [establishedCRD, filterK3kCRDs, HostObjects.HasDefinition, List.any_eq_true,
    List.mem_filter, Bool.or_eq_true,
    Bool.and_eq_true, beq_iff_eq]
  constructor
  · rintro ⟨crd, ⟨hcrd, -⟩, heq, hestablished⟩
    exact ⟨crd, hcrd, heq, hestablished⟩
  · rintro ⟨crd, hcrd, heq, hestablished⟩
    exact ⟨crd, ⟨hcrd, heq ▸ hname⟩, heq, hestablished⟩

/-- The check of a Deployment finds what the part stands for. -/
theorem availableDeployment_iff (host : HostObjects) (ns app : String) :
    availableDeployment (host.deployments.filter (·.metadata.selected ns ("app.kubernetes.io/name", app))) = true ↔
      host.HasDeployment ns app := by
  have hone : ∀ d : Deployment, (!(d.replicas.isSome && decide (d.observedGeneration < d.metadata.generation)) &&
      decide (d.availableReplicas ≥ 1)) = true ↔ d.Available := by
    intro d
    cases hreplicas : d.replicas <;> simp [Deployment.Available, hreplicas]
  simp only [availableDeployment, HostObjects.HasDeployment, List.any_eq_true, List.mem_filter, hone, and_assoc]

/-- Splitting the daemon sets is picking those of each component. -/
theorem splitTopoLVMDaemonSets_eq (daemonSets : List DaemonSet) :
    splitTopoLVMDaemonSets daemonSets =
      (daemonSets.filter (topoLVMComponent · "node"), daemonSets.filter (topoLVMComponent · "lvmd")) := by
  unfold splitTopoLVMDaemonSets
  induction daemonSets using List.reverseRecOn with
  | nil => rfl
  | append_singleton daemonSets d ih =>
    rw [List.foldl_append, ih, List.filter_append, List.filter_append]
    cases hnode : topoLVMComponent d "node" <;> cases hlvmd : topoLVMComponent d "lvmd" <;> simp [hnode, hlvmd]

/-- The daemon sets that are listed. -/
def listed (host : HostObjects) : List DaemonSet :=
  host.daemonSets.filter (·.metadata.selected "topolvm-system" ("app.kubernetes.io/name", "topolvm"))

theorem readyDaemonSet_iff (host : HostObjects) (component : String) :
    readyDaemonSet ((listed host).filter (topoLVMComponent · component)) = true ↔ host.HasTopoLVM component := by
  simp only [readyDaemonSet, listed, HostObjects.HasTopoLVM, DaemonSet.Ready, List.any_eq_true, List.mem_filter,
    Bool.and_eq_true,
    decide_eq_true_eq, beq_iff_eq, and_assoc, gt_iff_lt]

/-- The first half of the DaemonSets is that of the nodes. -/
theorem nodeDaemonSets_iff (host : HostObjects) :
    readyDaemonSet (splitTopoLVMDaemonSets (listed host)).1 = true ↔ host.Has .topolvmNode := by
  rw [splitTopoLVMDaemonSets_eq]
  exact readyDaemonSet_iff host "node"

/-- The second half is that of the volume manager. -/
theorem lvmdDaemonSets_iff (host : HostObjects) :
    readyDaemonSet (splitTopoLVMDaemonSets (listed host)).2 = true ↔ host.Has .topolvmLvmd := by
  rw [splitTopoLVMDaemonSets_eq]
  exact readyDaemonSet_iff host "lvmd"

/-! ## Flags of parts -/

section

variable {lo hi : Set BaselinePart} {failing : Prop}

/-- A flag that one host, at the moment it was read, sets for a part. -/
theorem shown_of_iff {host : HostObjects} {part : BaselinePart} {flag : Bool} (hwithin : host.Within lo hi)
    (hflag : flag = true ↔ host.Has part) : Shown lo hi {part} flag := by
  constructor
  · intro hpart
    exact hflag.mpr (hwithin.1 (hpart rfl))
  · rintro hset _ rfl
    exact hwithin.2 (hflag.mp hset)

/-- Two flags together show both parts. -/
theorem shown_and {parts parts' : Set BaselinePart} {flag flag' : Bool} (h : Shown lo hi parts flag)
    (h' : Shown lo hi parts' flag') :
    Shown lo hi (parts ∪ parts') (flag && flag') := by
  constructor
  · intro hsub
    rw [h.1 (Set.subset_union_left.trans hsub), h'.1 (Set.subset_union_right.trans hsub), Bool.and_self]
  · intro hset
    obtain ⟨hflag, hflag'⟩ := Bool.and_eq_true_iff.mp hset
    exact Set.union_subset (h.2 hflag) (h'.2 hflag')

/-- A flag that is not set, for parts one of which was not there throughout. -/
theorem shown_false {parts : Set BaselinePart} {part : BaselinePart} (hmem : part ∈ parts) (hmissing : part ∉ lo) :
    Shown lo hi parts false := by
  constructor
  · intro hsub
    exact absurd (hsub hmem) hmissing
  · intro hset
    cases hset

/-- What the flags stand for is all of the baseline. -/
theorem union_parts : ({.k3kNamespace} ∪ ({.clusterDefinition} ∪ {.policyDefinition}) ∪ {.controller} ∪ {.network} ∪
    ({.topolvmNamespace} ∪ {.topolvmDeployment} ∪ {.topolvmNode} ∪ {.topolvmLvmd} ∪ {.storageClass} ∪ {.csiDriver}) :
      Set BaselinePart) =
      Set.univ := by
  refine Set.eq_univ_of_forall fun part => ?_
  cases part <;> simp

/-! ## The walk through the observation -/

/-- A call is answered by a host within the bounds, or fails. -/
def Tells (lo hi : Set BaselinePart) (failing : Prop) (e : (call : BaselineCall) × call.Res) : Prop :=
  (∃ host : HostObjects, host.Within lo hi ∧ e.2 = host.serve e.1) ∨
    (failing ∧ ∃ error : Err, error.reason = .other ∧ e.2 = .error error)

/-- What the observation ends with. -/
def Outcome (lo hi : Set BaselinePart) (failing : Prop) (result : Except Err BaselineObservation) : Prop :=
  (∃ observation, result = .ok observation ∧ Reports lo hi observation) ∨
    ∃ e, result = .error e ∧ (failing ∨ BaselinePart.k3kNamespace ∉ lo)

/-- What is read of TopoLVM, as the parts of the baseline. -/
inductive TopoLVMTold (lo hi : Set BaselinePart) (failing : Prop) : Except Err (Option TopoLVMObjects) → Prop where
  | missing : BaselinePart.topolvmNamespace ∉ lo → TopoLVMTold lo hi failing (.ok none)
  | found {objects : TopoLVMObjects} : Shown lo hi {.topolvmNamespace} (objects.phase == "Active") →
      Shown lo hi {.topolvmDeployment} (availableDeployment objects.deployments) →
      Shown lo hi {.topolvmNode} (readyDaemonSet objects.nodeDaemonSets) →
      Shown lo hi {.topolvmLvmd} (readyDaemonSet objects.lvmdDaemonSets) →
        TopoLVMTold lo hi failing (.ok (some objects))
  | failed (e : Err) : failing → TopoLVMTold lo hi failing (.error e)

/-- A namespace is there when it is active. -/
theorem namespace_iff {host : HostObjects} {name : String} {ns : HostNamespace}
    (hfind : host.findNamespace name = some ns) :
    (ns.phase == "Active") = true ↔ host.HasNamespace name := by
  simp [HostObjects.HasNamespace, hfind]

/-- The rule for a read: the host answers it as it is then, or it fails. -/
theorem ends_read {α : Type} {R : α → Prop} {call : BaselineCall} {next : Except Err call.Out → BaselineAction α}
    (hserved : ∀ host : HostObjects, host.Within lo hi → Prog.Ends baselineEvent (Tells lo hi failing) R
      (next (host.serve call)))
    (hfailed : failing → ∀ e : Err, e.reason = .other → Prog.Ends baselineEvent (Tells lo hi failing) R
      (next (.error e))) :
    Prog.Ends baselineEvent (Tells lo hi failing) R (readHost call >>= next) := by
  refine Prog.ends_call fun answer htells => ?_
  rcases htells with ⟨host, hwithin, heq⟩ | ⟨hfailing, e, hother, heq⟩
  · obtain rfl : answer = host.serve call := heq
    exact hserved host hwithin
  · obtain rfl : answer = .error e := heq
    exact hfailed hfailing e hother

/-- A namespace that is missing is not found. -/
theorem serve_getNamespace_none {host : HostObjects} {name : String} (hfind : host.findNamespace name = none) :
    host.serve (.getNamespace name) = .error errNotFound := by
  simp [HostObjects.serve, hfind]

/-- One that is there is returned. -/
theorem serve_getNamespace_some {host : HostObjects} {name : String} {ns : HostNamespace}
    (hfind : host.findNamespace name = some ns) :
    host.serve (.getNamespace name) = .ok ns := by
  simp [HostObjects.serve, hfind]

/-- A namespace that is not there is none of the parts. -/
theorem not_mem_lo_of_none {host : HostObjects} {name : String} {part : BaselinePart} (hwithin : host.Within lo hi)
    (hpart : host.Has part → host.HasNamespace name) (hfind : host.findNamespace name = none) : part ∉ lo := by
  intro hmem
  obtain ⟨ns, hns, -⟩ := hpart (hwithin.1 hmem)
  rw [hfind] at hns
  cases hns

/-- What is told of the storage is true of the host. -/
theorem ends_observeTopoLVM :
    Prog.Ends baselineEvent (Tells lo hi failing) (TopoLVMTold lo hi failing) observeTopoLVM := by
  refine ends_read (fun host hwithin => ?_) fun hfailing e hother => ?_
  · cases hfind : host.findNamespace "topolvm-system" with
    | none =>
      rw [serve_getNamespace_none hfind]
      exact Prog.ends_ret (.missing (not_mem_lo_of_none hwithin id hfind))
    | some ns =>
      rw [serve_getNamespace_some hfind]
      have hnamespace : Shown lo hi {.topolvmNamespace} (ns.phase == "Active") :=
        shown_of_iff hwithin (namespace_iff hfind)
      refine ends_read (fun host hwithin => ?_) fun hfailing e _ => Prog.ends_ret (.failed _ hfailing)
      have hdeployment : Shown lo hi {.topolvmDeployment} _ :=
        shown_of_iff hwithin (availableDeployment_iff host "topolvm-system" "topolvm")
      refine ends_read (fun host hwithin => ?_) fun hfailing e _ => Prog.ends_ret (.failed _ hfailing)
      have hnode := shown_of_iff hwithin (nodeDaemonSets_iff host)
      have hlvmd := shown_of_iff hwithin (lvmdDaemonSets_iff host)
      exact Prog.ends_ret (.found hnamespace hdeployment hnode hlvmd)
  · have hfound : e.isNotFound = false := by simp [Err.isNotFound, hother]
    refine Prog.ends_ret ?_
    rw [hfound]
    exact .failed _ hfailing

/-- The flag for TopoLVM, of what was read. -/
theorem shown_topoLVM {topolvm : Option TopoLVMObjects} {storageClass csiDriver : Bool}
    (htold : TopoLVMTold lo hi failing (.ok topolvm)) (hclass : Shown lo hi {.storageClass} storageClass)
    (hdriver : Shown lo hi {.csiDriver} csiDriver) :
    Shown lo hi ({.topolvmNamespace} ∪ {.topolvmDeployment} ∪ {.topolvmNode} ∪ {.topolvmLvmd} ∪
      {.storageClass} ∪ {.csiDriver})
      (topolvm.any (·.phase == "Active") && availableDeployment ((topolvm.map (·.deployments)).getD []) &&
        readyDaemonSet ((topolvm.map (·.nodeDaemonSets)).getD []) && readyDaemonSet
          ((topolvm.map (·.lvmdDaemonSets)).getD []) &&
        storageClass && csiDriver) := by
  cases htold with
  | missing hmissing => exact shown_false (by simp) hmissing
  | found hnamespace hdeployment hnode hlvmd =>
    exact shown_and (shown_and (shown_and (shown_and (shown_and hnamespace hdeployment) hnode) hlvmd) hclass) hdriver

/-- The last reads, after the others have been told. -/
theorem ends_finishBaseline {ns : HostNamespace} {crds : List CustomResourceDefinition} {deployments : List Deployment}
    {topolvm : Option TopoLVMObjects} (hnamespace : Shown lo hi {.k3kNamespace} (ns.phase == "Active"))
    (hcluster : Shown lo hi {.clusterDefinition} (establishedCRD (filterK3kCRDs crds) "clusters.k3k.io"))
    (hpolicy : Shown lo hi {.policyDefinition} (establishedCRD (filterK3kCRDs crds) "virtualclusterpolicies.k3k.io"))
    (hcontroller : Shown lo hi {.controller} (availableDeployment deployments))
      (htold : TopoLVMTold lo hi failing (.ok topolvm)) :
    Prog.Ends baselineEvent (Tells lo hi failing) (Outcome lo hi failing)
      (finishBaseline ns crds deployments topolvm) := by
  refine ends_read (fun host hwithin => ?_) fun hfailing e _ => Prog.ends_ret (Or.inr ⟨_, rfl, Or.inl hfailing⟩)
  have hclass := shown_of_iff hwithin (validTopoLVMStorageClass_iff host)
  refine ends_read (fun host hwithin => ?_) fun hfailing e _ => Prog.ends_ret (Or.inr ⟨_, rfl, Or.inl hfailing⟩)
  have hdriver := shown_of_iff hwithin (validTopoLVMCSIDriver_iff host)
  refine ends_read (fun host hwithin => ?_) fun hfailing e _ => Prog.ends_ret (Or.inr ⟨_, rfl, Or.inl hfailing⟩)
  have hnetwork := shown_of_iff hwithin (networkReadyNode_iff host)
  have htopolvm := shown_topoLVM htold hclass hdriver
  have hcrds := shown_and hcluster hpolicy
  have hready := shown_and (shown_and (shown_and (shown_and hnamespace hcrds) hcontroller) hnetwork) htopolvm
  rw [union_parts] at hready
  exact Prog.ends_ret (Or.inl ⟨_, rfl, ⟨hnamespace, hcrds, hcontroller, hnetwork, htopolvm, hready⟩⟩)

/-- All that is told of the baseline is true of the host. -/
theorem ends_observeBaseline :
    Prog.Ends baselineEvent (Tells lo hi failing) (Outcome lo hi failing)
      (RESTBaselineReader.mk true true).observeBaseline := by
  refine ends_read (fun host hwithin => ?_) fun hfailing e _ => Prog.ends_ret (Or.inr ⟨_, rfl, Or.inl hfailing⟩)
  cases hfind : host.findNamespace Platform.k3kControllerNamespace with
  | none =>
    rw [serve_getNamespace_none hfind]
    exact Prog.ends_ret (Or.inr ⟨_, rfl, Or.inr (not_mem_lo_of_none hwithin id hfind)⟩)
  | some ns =>
    rw [serve_getNamespace_some hfind]
    have hnamespace : Shown lo hi {.k3kNamespace} (ns.phase == "Active") := shown_of_iff hwithin (namespace_iff hfind)
    refine ends_read (fun host hwithin => ?_) fun hfailing e _ => Prog.ends_ret (Or.inr ⟨_, rfl, Or.inl hfailing⟩)
    have hcluster : Shown lo hi {.clusterDefinition} _ := shown_of_iff hwithin (establishedCRD_iff host (Or.inl rfl))
    have hpolicy : Shown lo hi {.policyDefinition} _ := shown_of_iff hwithin (establishedCRD_iff host (Or.inr rfl))
    refine ends_read (fun host hwithin => ?_) fun hfailing e _ => Prog.ends_ret (Or.inr ⟨_, rfl, Or.inl hfailing⟩)
    have hcontroller : Shown lo hi {.controller} _ :=
      shown_of_iff hwithin (availableDeployment_iff host "k3k-system" "k3k")
    refine ends_observeTopoLVM.bind fun told htold => ?_
    cases htold with
    | failed e hfailing => exact Prog.ends_ret (Or.inr ⟨_, rfl, Or.inl hfailing⟩)
    | missing hmissing => exact ends_finishBaseline hnamespace hcluster hpolicy hcontroller (.missing hmissing)
    | found h₁ h₂ h₃ h₄ => exact ends_finishBaseline hnamespace hcluster hpolicy hcontroller (.found h₁ h₂ h₃ h₄)

/-- In a run among changes within the bounds, each call is answered by a host within the bounds. -/
theorem tells_of_runs {host host' : HostObjects} {α : Type} {p q : BaselineAction α}
    {h : List ((call : BaselineCall) × call.Res)} (hwithin : host.Within lo hi)
    (hrun : Prog.Runs (Prog.Amid (fun _ next => next.Within lo hi) (HostObjects.Exec failing)) baselineEvent
      host p h host' q) :
    ∀ e ∈ h, Tells lo hi failing e := by
  induction hrun with
  | refl => simp
  | @call host₀ host₁ _ call next r h q hexec _ ih =>
    obtain ⟨host₂, henv, hexec⟩ := hexec
    have hwithin₂ : host₂.Within lo hi := by
      cases henv with
      | refl => exact hwithin
      | tail _ hlast => exact hlast
    have hanswer : Tells lo hi failing (baselineEvent call r) ∧ host₁ = host₂ := by
      cases hexec with
      | served => exact ⟨Or.inl ⟨_, hwithin₂, rfl⟩, rfl⟩
      | failed e hfailing hother => exact ⟨Or.inr ⟨hfailing, e, hother, rfl⟩, rfl⟩
    obtain ⟨htells, rfl⟩ := hanswer
    intro e he
    rcases List.mem_cons.mp he with rfl | he
    · exact htells
    · exact ih hwithin₂ e he

end

end ProbedAux

open ProbedAux in
/-- While a host changes between the reads in any way that keeps it between two sets of parts, an observation reports
a flag when the parts it stands for were there throughout, and only when each was there at some time; it ends in an
error only when a read fails or the namespace of K3k was not there throughout. -/
theorem baseline_probed {lo hi : Set BaselinePart} {failing : Prop} {host host' : HostObjects}
    {h : List ((call : BaselineCall) × call.Res)} {result : Except Err BaselineObservation}
    (hwithin : host.Within lo hi)
    (hrun : Prog.Runs (Prog.Amid (fun _ next => next.Within lo hi) (HostObjects.Exec failing)) baselineEvent host
      (RESTBaselineReader.mk true true).observeBaseline h host' (.ret result)) :
    (∃ observation, result = .ok observation ∧ Reports lo hi observation) ∨
      ∃ e, result = .error e ∧ (failing ∨ BaselinePart.k3kNamespace ∉ lo) :=
  ends_observeBaseline h result hrun.reaches (tells_of_runs hwithin hrun)

namespace ProbedAux

def sampleMeta (ns name app : String) : ObjectMeta :=
  { name := name, ns := ns, labels := .ofList [("app.kubernetes.io/name", app)] }

def sampleDaemonSet (name : String) : DaemonSet :=
  { metadata := sampleMeta "topolvm-system" name "topolvm", desiredNumberScheduled := 1, numberReady := 1, updatedNumberScheduled := 1 }

/-- A host with all of the baseline. -/
def probedHost : HostObjects where
  namespaces := [{ metadata := { name := "k3k-system" }, phase := "Active" },
    { metadata := { name := "topolvm-system" }, phase := "Active" }]
  customResourceDefinitions := ["clusters.k3k.io", "virtualclusterpolicies.k3k.io"].map fun name =>
    { metadata := { name := name }, conditions := [{ type := "Established", status := .true }] }
  deployments := [{ metadata := sampleMeta "k3k-system" "k3k" "k3k", availableReplicas := 1 },
    { metadata := sampleMeta "topolvm-system" "topolvm-controller" "topolvm", availableReplicas := 1 }]
  daemonSets := [sampleDaemonSet "topolvm-node", sampleDaemonSet "topolvm-lvmd-0"]
  storageClasses := [{ metadata := { name := "topolvm" }, provisioner := "topolvm.io", volumeBindingMode := some "WaitForFirstConsumer" }]
  csiDrivers := [{ metadata := { name := "topolvm.io" } }]
  nodes := [{ metadata := { name := "node-a" }, conditions := [{ type := "Ready", status := .true }] }]

/-- The sample host has every part. -/
theorem has_probedHost (part : BaselinePart) : probedHost.Has part := by
  cases part with
  | k3kNamespace => exact ⟨_, rfl, rfl⟩
  | clusterDefinition => exact (establishedCRD_iff probedHost (Or.inl rfl)).mp (by decide)
  | policyDefinition => exact (establishedCRD_iff probedHost (Or.inr rfl)).mp (by decide)
  | controller => exact (availableDeployment_iff probedHost _ _).mp (by decide)
  | network => exact (networkReadyNode_iff probedHost).mp (by decide)
  | topolvmNamespace => exact ⟨_, rfl, rfl⟩
  | topolvmDeployment => exact (availableDeployment_iff probedHost _ _).mp (by decide)
  | topolvmNode => exact (readyDaemonSet_iff probedHost _).mp (by decide)
  | topolvmLvmd => exact (readyDaemonSet_iff probedHost _).mp (by decide)
  | storageClass => exact (validTopoLVMStorageClass_iff probedHost).mp (by decide)
  | csiDriver => exact (validTopoLVMCSIDriver_iff probedHost).mp (by decide)

theorem within_probedHost : probedHost.Within Set.univ Set.univ :=
  ⟨fun part _ => has_probedHost part, Set.subset_univ _⟩

/-- The host answers every call as it is. -/
def serveHost (host : HostObjects) (call : BaselineCall) : call.Res × HostObjects := (host.serve call, host)

/-- The observation of that host. -/
def probedRun :
    HostObjects × List ((call : BaselineCall) × call.Res) × BaselineAction (Except Err BaselineObservation) :=
  Prog.drive serveHost baselineEvent 9 probedHost (RESTBaselineReader.mk true true).observeBaseline

/-- The reader runs against the sample host. -/
theorem runs_probedRun :
    Prog.Runs (Prog.Amid (fun _ next => next.Within Set.univ Set.univ) (HostObjects.Exec False)) baselineEvent
    probedHost (RESTBaselineReader.mk true true).observeBaseline probedRun.2.1 probedRun.1 probedRun.2.2 :=
  Prog.runs_drive (fun host call => ⟨host, .refl, .served host call⟩) 9 _ _

end ProbedAux

open ProbedAux in
theorem baseline_probed_sample : ∃ result, probedRun.2.2 = .ret result ∧
    ((∃ observation, result = .ok observation ∧ Reports Set.univ Set.univ observation) ∨
      ∃ e, result = .error e ∧ (False ∨ BaselinePart.k3kNamespace ∉ (Set.univ : Set BaselinePart))) := by
  have hended : ∃ result, probedRun.2.2 = .ret result := ⟨_, rfl⟩
  obtain ⟨result, hresult⟩ := hended
  have hrun := runs_probedRun
  rw [hresult] at hrun
  exact ⟨result, hresult, baseline_probed within_probedHost hrun⟩

end KubeCell
