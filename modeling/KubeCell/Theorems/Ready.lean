import KubeCell.Lemmas.Provision
import KubeCell.Theorems.Drift

/-!
# Ready

When a round may write the phase Ready: the phase is decided from what is in the status, and many exits of a round
keep what an earlier round put there.
-/

namespace KubeCell

open RoundAux

namespace ReadyAux

variable {key : NamespacedName} {h t : List Event} {v : VirtualCluster}

/-- Writing the status reads no Work. -/
theorem saw_getWork_append_iff (ht : ∀ e ∈ t, isStatusCall e = true) {workKey : NamespacedName} {work : ManifestWork} :
    Saw (h ++ t) (.api (.getWork workKey)) (.ok work) ↔ Saw h (.api (.getWork workKey)) (.ok work) := by
  refine ⟨fun hsaw => ?_, fun hsaw => Saw.append hsaw t⟩
  rcases List.mem_append.mp hsaw with hsaw | hsaw
  · exact hsaw
  · nomatch ht _ hsaw

/-- Writing the status observes no child cluster. -/
theorem observations_status (ht : ∀ e ∈ t, isStatusCall e = true) : observations (h ++ t) = observations h := by
  rw [observations_append, List.append_right_eq_self]
  refine List.filterMap_eq_nil_iff.mpr fun e he => ?_
  have hstatus := ht e he
  obtain ⟨call, answer⟩ := e
  cases call with
  | api call => rfl
  | host call => nomatch hstatus

/-- What Ready stands for is settled before the status is written. -/
theorem fresh_append_iff (hlive : Live key h v) (ht : ∀ e ∈ t, isStatusCall e = true) :
    Fresh key (h ++ t) ↔ Fresh key h := by
  constructor
  · rintro ⟨⟨v', managedCluster, hlive', hworks⟩, hchild⟩
    obtain rfl := Live.unique (Live.append hlive t) hlive'
    simp only [saw_getWork_append_iff ht] at hworks
    rw [observations_status ht] at hchild
    exact ⟨⟨v, managedCluster, hlive, hworks⟩, hchild⟩
  · rintro ⟨⟨v', managedCluster, hlive', hworks⟩, hchild⟩
    refine ⟨⟨v', managedCluster, Live.append hlive' t, ?_⟩, ?_⟩
    · simpa only [saw_getWork_append_iff ht] using hworks
    · rwa [observations_status ht]

/-- Only a VirtualCluster that was Ready, or had a child cluster with all its parts ready, can end stale. -/
theorem Stale.ready {Γ : Ctx} {cfg : Config} {rt : Runtime} (hstale : Stale Γ cfg rt v h) :
    v.status.phase = .ready ∨ v.status.child.allReady = true := by
  obtain ⟨h', ⟨call, answer⟩, -, hat⟩ := hstale
  unfold StaleAt at hat
  split at hat
  all_goals first
    | exact Or.inl hat
    | exact Or.inl hat.1
    | exact Or.inr hat.1
    | exact hat.elim

end ReadyAux

open ReadyAux

/-- In every round, whatever the status it starts with and whatever it is answered: a status that is written with
the phase Ready is written after both Works were read applied and not degraded and the child cluster was observed
with all its parts ready, exactly when the round does not end where it keeps a Ready, or decides from a child
cluster, of an earlier round. -/
theorem ready_fresh_iff (Γ : Ctx) (cfg : Config) (rt : Runtime) (key : NamespacedName) {h : List Event}
    {o stored : VirtualCluster} {q : Action (Except Err Result)}
    (hrun : Prog.Reaches event (reconcile Γ cfg rt key)
      (h ++ [event (.api (.updateVirtualClusterStatus o)) (.ok stored)]) q) :
    (o.status.phase = .ready → Fresh key h) ↔ ¬∃ v, Live key h v ∧ Stale Γ cfg rt v (exitHistory h) := by
  obtain ⟨call, answer, hevent, hpermitted⟩ := (safe_reconcile Γ cfg rt key).reaches_last hrun
  obtain rfl : Call.api (.updateVirtualClusterStatus o) = call := congrArg Sigma.fst hevent
  rw [List.nil_append] at hpermitted
  cases hpermitted with
  | read hread => nomatch hread
  | foundation _ _ _ hwrite => nomatch hwrite
  | instanceWork _ _ _ hwrite => nomatch hwrite
  | @persist h₀ tail _ heq htry hexit hstatus =>
    subst heq
    have htail : ∀ e ∈ tail, isStatusCall e = true := fun e he => isStatusCall_of_isTry (htry e he)
    rw [exitHistory_tail hexit htail]
    cases hstatus with
    | @live v hlive _ _ hsound hexact =>
      rw [fresh_append_iff hlive htail]
      constructor
      · rintro hready ⟨v', hlive', hstale⟩
        obtain rfl := Live.unique (Live.append hlive tail) hlive'
        obtain ⟨hphase, hnot⟩ := hexact hstale
        exact hnot (hready hphase)
      · intro hnot hphase
        exact (hsound hphase).resolve_right fun hstale => hnot ⟨v, Live.append hlive tail, hstale⟩
    | @doomed v hdoomed _ hphase =>
      refine iff_of_true (fun hready => ?_) ?_
      · rw [hphase] at hready
        nomatch hready
      · rintro ⟨v', hlive', -⟩
        exact Live.not_doomed hlive' (Doomed.append hdoomed tail)

/-! ## A sample -/

namespace SampleAux

/-- The digests that the samples ask for, and the host name in the one URL they hold. -/
def sampleCtx : Ctx where
  sha256 data :=
    if data = (goSyntax "https://10.0.0.1:31000").toUTF8.data.toList then
      [96, 222, 112, 22, 80, 146, 83, 24, 37, 103, 227, 86, 219, 25, 144, 220, 146, 50, 127, 150, 19, 129, 58, 71,
        188, 120, 175, 2, 85, 184, 31, 198]
    else DriftAux.sampleSha256 data
  urlHostname url := if url = "https://10.0.0.1:31000" then some "10.0.0.1" else none
  parseQuantity _ := none

/-- A clock at a time, and maps visited in the order they stand in. -/
def sampleRuntime : Runtime := ⟨1000, id, List.Perm.refl⟩

/-- A reconciler with a reader of the host and an observer of the child cluster. -/
def sampleConfig : Config := { hasChildObserver := true, hasHostReaderFactory := true }

/-- The sample Cell with an inventory that accepts the sample class. -/
def readyCell : Cell :=
  let inventory : InventoryStatus := { allocatable := .mebi 16384, availableEstimate := .mebi 16384 }
  let free : StorageNodeInventoryStatus :=
    { freeCapacity := some (.mebi 65536), freeCapacityKnown := true, fresh := true }
  { DriftAux.sampleCell with
    status :=
      { phase := .ready
        conditions := [{ type := "InventoryFresh", status := .true }]
        managedCluster := { joined := true, available := true, leaseFresh := true }
        provider :=
          { k3kVersion := Platform.k3kVersion, namespaceReady := true, k3kCRDsReady := true, controllerReady := true
            cniReady := true, topoLVMReady := true }
        inventory := GoMap.ofList [("cpu", inventory), ("memory", inventory), ("ephemeral-storage", inventory)]
        storageInventory := GoMap.ofList
          [("topolvm",
            { freeCapacity := some (.mebi 65536), freeCapacityKnown := true, fresh := true
              nodes := GoMap.ofList [("node-a", free)] })]
        nodePorts := { fresh := true } } }

/-- The sample class. -/
def readyClass : VirtualNodeClass := DriftAux.sampleClass DriftAux.gibi

/-- What the sample VirtualCluster is resolved to. -/
def sampleSnapshot : ResolvedSnapshot :=
  DriftAux.sampleCluster.snapshot (ResolutionAux.resolvedOf sampleCtx readyCell readyClass)

/-- The sample VirtualCluster, with the finalizer, in a phase and with what an earlier round saw
of its child cluster. -/
def clusterIn (phase : VirtualClusterPhase) (child : ChildClusterObservation) : VirtualCluster :=
  { DriftAux.sampleCluster with
    metadata.finalizers := [virtualClusterFinalizer]
    status := { phase := phase, resolved := sampleSnapshot, child := child } }

/-- The management cluster with a VirtualCluster and some Works. -/
def sampleWorld (v : VirtualCluster) (works : List ManifestWork) : World :=
  { virtualClusters := Store.empty.put v
    cells := Store.empty.put readyCell
    virtualNodeClasses := Store.empty.put readyClass
    works := works.foldl Store.put .empty }

/-- The sample VirtualCluster is stored. -/
theorem find_sampleWorld (v : VirtualCluster) (works : List ManifestWork) :
    (sampleWorld v works).virtualClusters.find v.key = some v :=
  (Store.find_put _ _ _).trans (if_pos rfl)

/-- A host that answers with the given nodes, and the given child cluster. -/
def sampleHost (nodes : Except Err (List Node)) (child : Except Err ChildObservation) : (call : HostCall) → call.Res
  | .hostReaderForCell _ => .ok ()
  | .childObserverForCell _ => .ok ()
  | .listNodes => nodes
  | .observe _ _ => child
  | .getResourceQuota _ _ => .ok none
  | .listPods _ => .ok []
  | .getPersistentVolumeClaim _ _ => .ok none
  | .getPersistentVolume _ => .ok none
  | .listIngresses => .ok []
  | .getService _ _ => .error errNotFound
  | .getEndpoints _ _ => .error errNotFound
  | .baselineReaderForCell _ => .ok none
  | .observeBaseline _ => .ok {}
  | .inventoryReaderForCell _ => .ok none
  | .readInventory => { nodes := nodes, pods := none, reader := { storage := none, services := none } }

/-- The first calls of a round for the sample VirtualCluster. -/
def sampleRound (w : World) (hosts : (call : HostCall) → call.Res) (n : Nat) :
    World × List Event × Action (Except Err Result) :=
  Prog.drive (World.answer hosts) event n w
    (reconcile sampleCtx sampleConfig sampleRuntime DriftAux.sampleCluster.key)

/-- Which is something the round may do. -/
theorem runs_sampleRound (w : World) (hosts : (call : HostCall) → call.Res) (n : Nat) :
    Prog.Runs World.Exec event w (reconcile sampleCtx sampleConfig sampleRuntime DriftAux.sampleCluster.key)
      (sampleRound w hosts n).2.1 (sampleRound w hosts n).1 (sampleRound w hosts n).2.2 :=
  Prog.runs_drive (World.exec_answer hosts) n w _

/-- The VirtualCluster the first call of a history answers. -/
def firstRead (h : List Event) : Option VirtualCluster :=
  match h.head? with
  | some ⟨.api (.getVirtualCluster _), .ok v⟩ => some v
  | _ => none

/-- A round that reads the finalizer works on the VirtualCluster it has read. -/
theorem Live.firstRead {key : NamespacedName} {h : List Event} {v : VirtualCluster} (hlive : Live key h v)
    (hheld : (SampleAux.firstRead h).map (·.held) = some true) : SampleAux.firstRead h = some v := by
  cases hlive with
  | read => rfl
  | adopted _ hheld' =>
    rw [SampleAux.firstRead, List.head?_cons] at hheld
    simp [event, hheld'] at hheld

/-- The status that the last call of a history has written. -/
def lastWritten (h : List Event) : Option VirtualClusterStatus :=
  match h.getLast? with
  | some ⟨.api (.updateVirtualClusterStatus o), .ok _⟩ => some o.status
  | _ => none

/-- Its last call has written it. -/
theorem eq_append_of_lastWritten {h : List Event} {status : VirtualClusterStatus}
    (hlast : lastWritten h = some status) :
    ∃ h₀ o stored, h = h₀ ++ [event (.api (.updateVirtualClusterStatus o)) (.ok stored)] ∧ o.status = status := by
  rw [lastWritten] at hlast
  split at hlast
  · rename_i o stored heq
    obtain ⟨h₀, rfl⟩ := List.getLast?_eq_some_iff.mp heq
    exact ⟨h₀, o, stored, rfl, Option.some.inj hlast⟩
  · nomatch hlast

/-- A node with an address. -/
def sampleNode : Node :=
  { metadata := { name := "node-a" }
    conditions := [{ type := "Ready", status := .true }]
    addresses := [⟨"InternalIP", "10.0.0.1"⟩] }

/-- The two Works of the sample VirtualCluster, applied. -/
def sampleWorks : List ManifestWork :=
  let names := DriftAux.sampleCluster.renderNames ["10.0.0.1"]
  let applied : List Condition := [{ type := "Applied", status := .true }]
  [{ buildFoundationWork DriftAux.sampleCluster sampleSnapshot names "mc-a" with conditions := applied },
    { buildInstanceWork DriftAux.sampleCluster sampleSnapshot names "mc-a" [] with conditions := applied }]

/-- A round whose host cannot list its nodes. -/
def blindRound : World × List Event × Action (Except Err Result) :=
  sampleRound (sampleWorld (clusterIn .ready {}) []) (sampleHost (.error ⟨.other, "timeout"⟩) (.ok {})) 7

/-- A round that finds everything ready. -/
def happyRound : World × List Event × Action (Except Err Result) :=
  sampleRound (sampleWorld (clusterIn .provisioning {}) sampleWorks)
    (sampleHost (.ok [sampleNode]) (.ok { apiReady := true, logicalNodeReady := true, storageClassReady := true })) 15

theorem runs_happyRound :
    Prog.Runs World.Exec event (sampleWorld (clusterIn .provisioning {}) sampleWorks)
      (reconcile sampleCtx sampleConfig sampleRuntime DriftAux.sampleCluster.key) happyRound.2.1 happyRound.1
        happyRound.2.2 := by
  rw [happyRound]
  -- with the number of calls in place, the unifier would compute the round
  generalize 15 = n
  exact runs_sampleRound _ _ n

end SampleAux

open SampleAux

/-- A VirtualCluster that is Ready stays so when the host cannot list its nodes, although
nothing of it was looked at. -/
theorem ready_fresh_false :
    ¬∀ (Γ : Ctx) (cfg : Config) (rt : Runtime) (key : NamespacedName) (h : List Event) (o stored : VirtualCluster)
      (q : Action (Except Err Result)),
      Prog.Reaches event (reconcile Γ cfg rt key) (h ++ [event (.api (.updateVirtualClusterStatus o)) (.ok stored)]) q →
      o.status.phase = .ready → Fresh key h := by
  intro hall
  obtain ⟨hphase, hchild⟩ : (lastWritten blindRound.2.1).map (·.phase) = some .ready ∧
    (observations blindRound.2.1).length = 0 := by
    decide +kernel
  obtain ⟨status, hlast, hready⟩ := Option.map_eq_some_iff.mp hphase
  obtain ⟨h, o, stored, heq, rfl⟩ := eq_append_of_lastWritten hlast
  have hrun := (runs_sampleRound _ _ _).reaches (h := blindRound.2.1)
  rw [heq] at hrun hchild
  obtain ⟨child, hmem, -⟩ := (hall _ _ _ _ h o stored _ hrun hready).child
  rw [observations_append, List.length_append, Nat.add_eq_zero_iff, List.length_eq_zero_iff] at hchild
  rw [hchild.1] at hmem
  nomatch hmem

/-- A round that starts without a Ready and finds everything ready writes a Ready that is fresh. -/
theorem ready_fresh_sample :
    ∃ (h : List Event) (o stored : VirtualCluster) (q : Action (Except Err Result)),
      Prog.Reaches event (reconcile sampleCtx sampleConfig sampleRuntime DriftAux.sampleCluster.key)
        (h ++ [event (.api (.updateVirtualClusterStatus o)) (.ok stored)]) q ∧
      o.status.phase = .ready ∧ Fresh DriftAux.sampleCluster.key h := by
  obtain ⟨hphase, hheld, hnew⟩ : (lastWritten happyRound.2.1).map (·.phase) = some .ready ∧
      (firstRead happyRound.2.1).map (·.held) = some true ∧
      (firstRead happyRound.2.1).map (fun v => (v.status.phase, v.status.child.allReady)) =
        some (.provisioning, false) := by
    decide +kernel
  obtain ⟨status, hlast, hready⟩ := Option.map_eq_some_iff.mp hphase
  obtain ⟨h, o, stored, heq, rfl⟩ := eq_append_of_lastWritten hlast
  have hrun := runs_happyRound.reaches
  rw [heq] at hrun
  refine ⟨h, o, stored, _, hrun, hready, (ready_fresh_iff _ _ _ _ hrun).mpr ?_ hready⟩
  rintro ⟨v, hlive, hstale⟩
  have hlive' : Live DriftAux.sampleCluster.key happyRound.2.1 v := heq ▸ Live.append hlive _
  rw [Live.firstRead hlive' hheld, Option.map_some, Option.some.injEq, Prod.mk.injEq] at hnew
  rcases Stale.ready hstale with hready' | hchild
  · rw [hready'] at hnew
    nomatch hnew.1
  · rw [hchild] at hnew
    nomatch hnew.2

end KubeCell
