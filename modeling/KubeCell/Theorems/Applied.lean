import KubeCell.Lemmas.Gate
import KubeCell.Theorems.Snapshot

/-!
# Applied, and of what

A Work is taken to be applied when it has a condition that says so, whatever generation the condition was observed at.
A round has just written the foundation Work when it reads it back, so the condition may still be one of the content
before; where a write that changes a Work finds it without the condition, and OCM tells of the generation there is,
what a round relies on is current.
-/

namespace KubeCell

open EffectsAux GateAux PublishAux RoundAux

/-- Every condition that says the Work is applied was observed at the generation it has. -/
def ManifestWork.Current (work : ManifestWork) : Prop :=
  ∀ condition ∈ work.conditions, condition.type = "Applied" → condition.status = .true →
    condition.observedGeneration = work.metadata.generation

instance (work : ManifestWork) : Decidable work.Current :=
  inferInstanceAs (Decidable (∀ condition ∈ work.conditions, condition.type = "Applied" → condition.status = .true →
    condition.observedGeneration = work.metadata.generation))

/-- The Work is applied, at the generation it has. -/
def ManifestWork.AppliedNow (work : ManifestWork) : Prop := isApplied work = true ∧ work.Current

/-- A Work as OCM leaves it when it reports on it. -/
def ManifestWork.reported (work : ManifestWork) (version : Nat) (finalizers : List String)
    (conditions : List Condition) : ManifestWork :=
  { work with metadata := { work.metadata with resourceVersion := version, finalizers := finalizers }, conditions := conditions }

/-- What happens between the calls of the rounds: OCM reports on a Work, and what it newly says to be applied is a
generation that `tells` relates to the one the Work has; a call of some other round is answered, if `condition` holds
of it; or somebody changes what is not a Work, or takes Works away. -/
inductive Interleaved (condition : World → Call → Bool) (tells : Nat → Nat → Prop) : World → World → Prop where
  | report {w : World} {work : ManifestWork} (finalizers : List String) (conditions : List Condition) :
      w.works.find work.metadata.key = some work →
      (∀ c ∈ conditions, c.type = "Applied" → c.status = .true →
        c ∈ work.conditions ∨ tells c.observedGeneration work.metadata.generation) →
      Interleaved condition tells w { w.next with works := w.works.put (work.reported w.version finalizers conditions) }
  | elsewhere {w w' : World} {call : Call} {answer : call.Res} : condition w call = true → World.Exec w call answer w' →
      Interleaved condition tells w w'
  | others {w w' : World} : (∀ key work, w'.works.find key = some work → w.works.find key = some work) →
      Interleaved condition tells w w'

/-- The rounds of the VirtualCluster under a name, amid OCM and all the others, in the runs whose
calls meet a condition. -/
def interleavedSystem (Γ : Ctx) (cfg : Config) (key : NamespacedName) (condition : World → Call → Bool)
    (tells : Nat → Nat → Prop) :
    Sys.Model World Event Call Call.Res (Except Err Result) :=
  { clusterSystem Γ cfg key (Interleaved condition tells) with
    exec := fun w call answer w' => condition w call = true ∧ World.Exec w call answer w' }

/-- No Work says that it is applied at a generation it does not have. -/
def WorksCurrent (w : World) : Prop := ∀ key work, w.works.find key = some work → work.Current

/-- A call that changes the content of a Work finds it without a condition that says it is applied. -/
def changesUnapplied (w : World) : Call → Bool
  | .api (.patchWork desired) =>
    (w.works.find desired.metadata.key).all fun current => current.sameContent desired || !isApplied current
  | _ => true

namespace AppliedAux

/-- The Works whose deletion was not requested are current. -/
def Kept (w : World) : Prop := ∀ key work, w.works.find key = some work → Store.terminating work = false → work.Current

/-- The Works that the round has read were, if their deletion was not requested. -/
def ReadKept (h : List Event) : Prop :=
  ∀ key work, Saw h (.api (.getWork key)) (.ok work) → Store.terminating work = false → work.Current

variable {w w' : World}

/-- A Work that is not applied is current. -/
theorem current_of_not_applied {work : ManifestWork} (h : isApplied work = false) : work.Current := by
  intro condition hmem htype hstatus
  have happlied : isApplied work = true := List.any_eq_true.mpr ⟨condition, hmem, by simp [htype, hstatus]⟩
  rw [h] at happlied
  nomatch happlied

/-- So is one that was just created. -/
theorem current_asCreated (version : Nat) (work : ManifestWork) : (Store.asCreated version work).Current := nofun

/-- A patch that changes nothing, or finds the Work unapplied. -/
theorem current_mergeWork {current desired : ManifestWork} (version : Nat) (hcurrent : current.Current)
    (h : current.sameContent desired = true ∨ isApplied current = false) :
    (mergeWork version current desired).Current := by
  rcases h with hsame | happlied
  · intro condition hmem htype hstatus
    rw [mergeWork, hsame]
    exact hcurrent condition hmem htype hstatus
  · exact current_of_not_applied happlied

/-- A current Work may be written. -/
theorem Kept.put {work : ManifestWork} (hkept : Kept w) (hwork : Store.terminating work = false → work.Current) :
    Kept { w.next with works := w.works.put work } := by
  intro key o hfind
  rw [Store.find_put] at hfind
  split_ifs at hfind
  · cases hfind
    exact hwork
  · exact hkept key o hfind

theorem Kept.remove (hkept : Kept w) (key : NamespacedName) : Kept { w.next with works := w.works.remove key } := by
  intro key' o hfind
  rw [Store.find_remove] at hfind
  split_ifs at hfind
  exact hkept key' o hfind

/-- A call that the API server answers. -/
theorem Kept.serve (hkept : Kept w) {call : ApiCall} (hcondition : changesUnapplied w (.api call) = true) :
    Kept (w.serve call).2 := by
  cases call with
  | createWork desired =>
    dsimp only [World.serve]
    rcases Store.create_cases w.works w.version desired with ⟨e, heq⟩ | ⟨-, heq⟩
    · rw [heq]
      exact hkept
    · rw [heq]
      exact hkept.put fun _ => current_asCreated _ _
  | patchWork desired =>
    dsimp only [World.serve]
    rcases Store.apply_cases w.works mergeWork w.version desired with ⟨-, heq⟩ | ⟨current, hfind, heq⟩
    · rw [heq]
      exact hkept.put fun _ => current_asCreated _ _
    · rw [heq]
      have hchange : current.sameContent desired = true ∨ isApplied current = false := by
        have hfind' : w.works.find desired.metadata.key = some current := hfind
        simpa [changesUnapplied, hfind'] using hcondition
      exact hkept.put fun hlive => current_mergeWork _ (hkept _ _ hfind hlive) hchange
  | deleteWork key =>
    dsimp only [World.serve]
    rcases Store.delete_cases w.works w.version key with ⟨⟨e, heq⟩, -⟩ | ⟨current, hfind, -, hcases⟩
    · rw [heq]
      exact hkept
    · rcases hcases with ⟨-, heq⟩ | ⟨-, -, heq⟩ | ⟨-, -, heq⟩
      · rw [heq]
        exact hkept.remove key
      · rw [heq]
        exact hkept
      · rw [heq]
        refine hkept.put fun hlive => ?_
        simp [Store.terminating] at hlive
  | _ => exact hkept

/-- A call that changes no applied Work keeps them current. -/
theorem Kept.exec (hkept : Kept w) {call : Call} {answer : call.Res} (hcondition : changesUnapplied w call = true)
    (hexec : World.Exec w call answer w') : Kept w' := by
  cases hexec with
  | served call => exact hkept.serve hcondition
  | unavailable => exact hkept
  | lost call => exact hkept.serve hcondition
  | host => exact hkept

/-- So does any number of such calls. -/
theorem Kept.interleaved (hkept : Kept w) (henv : Interleaved changesUnapplied (· = ·) w w') : Kept w' := by
  cases henv with
  | report finalizers conditions hfind htells =>
    refine hkept.put fun hlive condition hmem htype hstatus => ?_
    rcases htells condition hmem htype hstatus with hbefore | htold
    · exact hkept _ _ hfind hlive condition hbefore htype hstatus
    · exact htold
  | elsewhere hcondition hexec => exact hkept.exec hcondition hexec
  | others hless =>
    intro key work hfind
    exact hkept key work (hless key work hfind)

/-- What a round reads is what is kept. -/
theorem ReadKept.exec {h : List Event} (hread : ReadKept h) (hkept : Kept w) {call : Call} {answer : call.Res}
    (hexec : World.Exec w call answer w') : ReadKept (h ++ [event call answer]) := by
  intro key work hsaw
  rcases saw_snoc hsaw with hsaw | heq
  · exact hread key work hsaw
  · cases heq
    exact hkept key work (find_of_getWork hexec).1

end AppliedAux

open AppliedAux

/-- In a run in which each change of a Work finds it without the condition that says it is applied, and OCM says so
only of the generation there is: a round that goes past the foundation gate has read back a foundation Work that is
applied at the generation it has, and one that observes the child cluster an instance Work that is, unless their
deletion was requested. -/
theorem applied_at_generation (Γ : Ctx) (cfg : Config) (key : NamespacedName) {w : World} {h : List Event}
    {call : Call} {next : call.Res → Action (Except Err Result)}
    (hreachable : Sys.Reachable (interleavedSystem Γ cfg key changesUnapplied (· = ·)) WorksCurrent
      ⟨w, some (h, .call call next)⟩) :
    Relies (fun work => Store.terminating work = false → work.AppliedNow) key h call := by
  have hholds : Sys.Holds (interleavedSystem Γ cfg key changesUnapplied (· = ·)) Kept (fun _ => ReadKept)
      (Relies (fun work => isApplied work = true) key) ⟨w, some (h, .call call next)⟩ := by
    refine Sys.invariant ?_ ?_ ?_ ?_ ?_ hreachable
    · intro w hw key work hfind _
      exact hw key work hfind
    · intro w _ key work hsaw
      nomatch hsaw
    · rintro p ⟨rt, rfl⟩
      exact gated_reconcile Γ cfg rt key
    · intro w w' henv hkept
      exact ⟨hkept.interleaved henv, fun h hread => hread⟩
    · rintro w call answer w' h hkept hread - ⟨hcondition, hexec⟩
      exact ⟨hkept.exec hcondition hexec, hread.exec hkept hexec⟩
  obtain ⟨hread, hguarded⟩ := hholds.2 h _ rfl
  exact Relies.read_mono hguarded.1 fun key work hsaw happlied hlive => ⟨happlied, hread key work hsaw hlive⟩

/-! ## A sample -/

namespace AppliedAux

open SampleAux SnapshotAux

/-- The VirtualCluster that a round goes on with after its first call. -/
def liveRead (key : NamespacedName) : List Event → Option VirtualCluster
  | ⟨.api (.getVirtualCluster key'), .ok v⟩ :: _ =>
    if key' = key ∧ v.deleting = false ∧ v.held = true then some v else none
  | _ => none

/-- A round that has read the object to provision provisions it. -/
theorem live_of_liveRead {key : NamespacedName} {h : List Event} {v : VirtualCluster}
    (hread : liveRead key h = some v) : Live key h v := by
  unfold liveRead at hread
  split at hread
  · split_ifs at hread with hgoes
    obtain ⟨rfl, hdeleting, hheld⟩ := hgoes
    obtain rfl := Option.some.inj hread
    exact .read hdeleting hheld
  · cases hread

/-- The Work that a round has read right after a write. -/
def readBack : Event → Event → Option ManifestWork
  | ⟨.api (.createWork _), _⟩, ⟨.api (.getWork _), .ok work⟩ | ⟨.api (.patchWork _), _⟩,
    ⟨.api (.getWork _), .ok work⟩ => some work
  | _, _ => none

/-- The Works that a round has read so. -/
def readBacks : List Event → List ManifestWork
  | e :: e' :: rest => (readBack e e').toList ++ readBacks (e' :: rest)
  | _ => []

/-- What was read back before counts later, too. -/
theorem readBacks_cons (e : Event) (h : List Event) : readBacks h ⊆ readBacks (e :: h) := by
  cases h with
  | nil => exact List.nil_subset _
  | cons e' rest => exact List.subset_append_right _ _

theorem readBacks_append (h₀ h : List Event) : readBacks h ⊆ readBacks (h₀ ++ h) := by
  induction h₀ with
  | nil => exact List.Subset.refl _
  | cons e h₀ ih => exact fun work hwork => readBacks_cons e _ (ih hwork)

/-- The foundation Work that was read back is one of them. -/
theorem ReadBack.mem_readBacks {key : NamespacedName} {h : List Event} {v : VirtualCluster} {managedCluster : String}
    {foundation : ManifestWork} {rest : List Event} (hback : ReadBack key h v managedCluster foundation rest) :
    foundation ∈ readBacks h := by
  obtain ⟨h₀, desired, e, rfl, -, hwrote⟩ := hback.history
  refine readBacks_append h₀ _ (List.mem_append_left _ ?_)
  rcases hwrote with ⟨stored, hsaw⟩ | ⟨stored, hsaw⟩
  · rw [← List.mem_singleton.mp hsaw]
    exact List.mem_singleton.mpr rfl
  · rw [← List.mem_singleton.mp hsaw]
    exact List.mem_singleton.mpr rfl

/-- A round for the sample VirtualCluster. -/
def sampleReconcile : Action (Except Err Result) :=
  reconcile sampleCtx sampleConfig sampleRuntime DriftAux.sampleCluster.key

theorem sampleReconcile_eq : sampleReconcile = reconcile sampleCtx sampleConfig sampleRuntime resolvedCluster.key := rfl

/-- The foundation Work of the sample VirtualCluster on a host with one address, applied. -/
def appliedFoundation : ManifestWork :=
  let work := buildFoundationWork DriftAux.sampleCluster sampleSnapshot
    (DriftAux.sampleCluster.renderNames ["10.0.0.1"]) "mc-a"
  { work with
    metadata.generation := 1
    conditions := [{ type := "Applied", status := .true, observedGeneration := 1 }] }

/-- The management cluster with it. -/
def appliedWorld : World := sampleWorld resolvedCluster [appliedFoundation]

/-- A round, on a host with this address, up to where it creates the instance Work. -/
def instanceRound (address : String) : World × List Event × Action (Except Err Result) :=
  Prog.drive (World.answer (hostAt address)) event 11 appliedWorld sampleReconcile

/-- What is left of a round goes past the foundation gate with its next call. -/
def passesGate (key : NamespacedName) (h : List Event) (q : Action (Except Err Result)) : Bool :=
  match liveRead key h, q with
  | some v, .call call _ => v.goesPast call
  | _, _ => false

/-- A program that passes the gate makes a call beyond it. -/
theorem exists_of_passesGate {key : NamespacedName} {h : List Event} {q : Action (Except Err Result)}
    (hpasses : passesGate key h q = true) :
    ∃ v call next, q = .call call next ∧ Live key h v ∧ v.goesPast call = true := by
  unfold passesGate at hpasses
  split at hpasses
  · rename_i v call next hread
    exact ⟨v, call, next, rfl, live_of_liveRead hread, hpasses⟩
  · nomatch hpasses

/-- What is stored says that it is applied at its generation. -/
theorem worksCurrent_appliedWorld : WorksCurrent appliedWorld := by
  intro key work hfind
  have hput : appliedWorld.works.find key =
    if key = appliedFoundation.metadata.key then some appliedFoundation else none :=
    Store.find_put _ _ _
  rw [hput] at hfind
  split_ifs at hfind
  cases hfind
  intro condition hmem _ _
  rw [List.mem_singleton.mp hmem]
  rfl

/-- A round whose calls meet the condition is part of a run. -/
theorem reachable_drive {Γ : Ctx} {cfg : Config} {rt : Runtime} {key : NamespacedName} {condition : World → Call → Bool}
    {hosts : (call : HostCall) → call.Res} {n : Nat} {w : World} {p : Action (Except Err Result)}
    {round : World × List Event × Action (Except Err Result)} (tells : Nat → Nat → Prop) (hinit : WorksCurrent w)
    (hp : p = reconcile Γ cfg rt key) (hround : Prog.drive (World.answer hosts) event n w p = round)
    (hcalls : Prog.driveAll (World.answer hosts) condition n w p = true) :
    Sys.Reachable (interleavedSystem Γ cfg key condition tells) WorksCurrent
      ⟨round.1, some (round.2.1, round.2.2)⟩ := by
  have hstart : (interleavedSystem Γ cfg key condition tells).starts p := ⟨rt, hp⟩
  have hserve : ∀ w call, condition w call = true → (interleavedSystem Γ cfg key condition tells).exec w call
      (World.answer hosts w call).1 (World.answer hosts w call).2 :=
    fun w call hcondition => ⟨hcondition, World.exec_answer hosts w call⟩
  rw [← hround]
  exact ((Sys.Reachable.init hinit).step (.start hstart)).runs (Prog.runs_drive_of_all hserve n w p hcalls)

end AppliedAux

/-- The host of the sample VirtualCluster gets another address: the round patches the foundation Work, reads it back
applied as it was before, and creates the instance Work. -/
theorem applied_at_generation_false :
    ¬∀ (Γ : Ctx) (cfg : Config) (key : NamespacedName) (w : World) (h : List Event) (call : Call)
      (next : call.Res → Action (Except Err Result)),
      Sys.Reachable (interleavedSystem Γ cfg key (fun _ _ => true) (· ≤ ·)) WorksCurrent
        ⟨w, some (h, .call call next)⟩ →
      Relies ManifestWork.AppliedNow key h call := by
  intro hall
  have hround : Prog.drive (World.answer (SnapshotAux.hostAt "10.0.0.2")) event 11 appliedWorld sampleReconcile =
      instanceRound "10.0.0.2" := rfl
  have hreachable := reachable_drive (· ≤ ·) worksCurrent_appliedWorld sampleReconcile_eq hround
    (Prog.driveAll_true _ _ _ _)
  obtain ⟨hpasses, hstale⟩ :
      passesGate SnapshotAux.resolvedCluster.key (instanceRound "10.0.0.2").2.1 (instanceRound "10.0.0.2").2.2 = true ∧
        ∀ work ∈ readBacks (instanceRound "10.0.0.2").2.1, ¬work.Current := by decide +kernel
  obtain ⟨v, call, next, hnext, hlive, hpast⟩ := exists_of_passesGate hpasses
  rw [hnext] at hreachable
  obtain ⟨_, foundation, _, hback, hnow, -⟩ := hall _ _ _ _ _ _ _ hreachable v hlive hpast
  exact hstale foundation (ReadBack.mem_readBacks hback) hnow.2

/-- On a host that keeps its address, the round goes past the gate with a foundation Work that is applied as it is. -/
theorem applied_at_generation_sample :
    ∃ v call next, (instanceRound "10.0.0.1").2.2 = .call call next ∧ Live SnapshotAux.resolvedCluster.key
      (instanceRound "10.0.0.1").2.1 v ∧
      v.goesPast call = true ∧
      Relies (fun work => Store.terminating work = false → work.AppliedNow) SnapshotAux.resolvedCluster.key
        (instanceRound "10.0.0.1").2.1 call := by
  obtain ⟨hpasses, hcalls⟩ :
      passesGate SnapshotAux.resolvedCluster.key (instanceRound "10.0.0.1").2.1 (instanceRound "10.0.0.1").2.2 = true ∧
        Prog.driveAll (World.answer (SnapshotAux.hostAt "10.0.0.1")) changesUnapplied 11 appliedWorld
          sampleReconcile = true := by
    decide +kernel
  have hround : Prog.drive (World.answer (SnapshotAux.hostAt "10.0.0.1")) event 11 appliedWorld sampleReconcile =
      instanceRound "10.0.0.1" := rfl
  have hreachable := reachable_drive (· = ·) worksCurrent_appliedWorld sampleReconcile_eq hround hcalls
  obtain ⟨v, call, next, hnext, hlive, hpast⟩ := exists_of_passesGate hpasses
  rw [hnext] at hreachable
  exact ⟨v, call, next, hnext, hlive, hpast, applied_at_generation _ _ _ hreachable⟩

end KubeCell
