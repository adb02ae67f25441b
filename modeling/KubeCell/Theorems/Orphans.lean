import KubeCell.Lemmas.Anchored
import KubeCell.Theorems.Ordering

/-!
# Nothing is left behind

When the deletion takes the finalizer of a VirtualCluster away, none of its Works is left in the namespace of any
ManagedCluster, and its Secret is gone. Everything depends on the Cell naming the same ManagedCluster until a snapshot
is written: the validator of the Cells sees to it as long as the VirtualCluster is not being deleted, and no longer.
-/

namespace KubeCell

/-- The finalizer of `u` is taken away. -/
structure Releases (u : VirtualCluster) (w w' : World) : Prop where
  before : ∃ v, w.virtualClusters.find u.key = some v ∧ v.held = true
  after : ∀ v, w'.virtualClusters.find u.key = some v → v.held = false

/-- Neither a Work nor a Secret is labelled with the UID of `u`, in no namespace. -/
structure NothingLeft (u : VirtualCluster) (w : World) : Prop where
  works : ∀ key work, ¬Owns u w.works key work
  secrets : ∀ key secret, w.secrets.find key = some secret → secret.metadata.ownerUID ≠ u.metadata.uid

/-- Over every run of rounds, each cut off anywhere, with the deletion of the VirtualCluster, what OCM does, and
updates of Cells that the validator admits, of which none moves the Cell while the VirtualCluster is being deleted
without a snapshot: when the finalizer is taken away, nothing of the VirtualCluster is left. -/
theorem release_leaves_nothing (Γ : Ctx) (cfg : Config) (u : VirtualCluster)
    {s s' : Sys World Event Call Call.Res (Except Err Result)}
    (hs : Sys.Reachable (system Γ cfg u (CellChanges u (KeepsManagedCluster u))) (Unprovisioned u) s)
    (hstep : Sys.Step (system Γ cfg u (CellChanges u (KeepsManagedCluster u))) s s')
    (hreleases : Releases u s.world s'.world) :
    NothingLeft u s'.world := by
  obtain ⟨hI, -⟩ := AnchoredAux.holds_of_reachable (hs.step hstep)
  have hreleased : ∀ v, ¬AnchoredAux.Stays u s'.world v := by
    rintro v ⟨hfind, hheld⟩
    rw [hreleases.after v hfind] at hheld
    nomatch hheld
  refine ⟨fun key work hown => ?_, fun key secret hfind howner => ?_⟩
  · obtain ⟨v, -, hstays, -⟩ := hI.works key work hown
    exact hreleased v hstays
  · obtain ⟨-, -, v, hstays⟩ := hI.secrets key secret hfind howner
    exact hreleased v hstays

namespace SampleAux

/-- The sample VirtualCluster with the finalizer, before its first round. -/
def freshCluster : VirtualCluster := { DriftAux.sampleCluster with metadata.finalizers := [virtualClusterFinalizer] }

/-- The world before its first round has nothing of it. -/
theorem unprovisioned_sampleWorld : Unprovisioned freshCluster (sampleWorld freshCluster []) := by
  refine ⟨fun v hv => ?_, fun key work hown => (nomatch hown.1), fun key secret hfind => (nomatch hfind),
    fun cell hcell => ?_⟩
  · rw [find_sampleWorld, Option.some.injEq] at hv
    exact hv ▸ ⟨⟨rfl, rfl, rfl⟩, rfl⟩
  · have hput : (sampleWorld freshCluster []).cells.find freshCluster.cellKey = some readyCell :=
      (Store.find_put _ _ _).trans (if_pos (by decide +kernel))
    obtain rfl : readyCell = cell := Option.some.inj (hput.symm.trans hcell)
    decide +kernel

/-- The world after a first round that is cut off when it has written the foundation Work, and after the
VirtualCluster is deleted. -/
def cutWorld : World :=
  let w := (sampleRound (sampleWorld freshCluster []) emptyHost 7).1
  { w.next with virtualClusters := (w.virtualClusters.delete w.version freshCluster.key).2 }

/-- A run leads there, whatever the updates of the Cells have to keep. -/
theorem reachable_cutWorld (Keeps : World → Cell → Cell → Prop) :
    Sys.Reachable (system sampleCtx sampleConfig freshCluster (CellChanges freshCluster Keeps))
      (Unprovisioned freshCluster)
      ⟨cutWorld, none⟩ := by
  have hfirst := (Sys.Reachable.init (M := system sampleCtx sampleConfig freshCluster (CellChanges freshCluster Keeps))
    unprovisioned_sampleWorld).wholeRound ⟨sampleRuntime, rfl⟩ (runs_sampleRound _ emptyHost 7)
  exact hfirst.step (.env .delete)

/-- The sample Cell on another ManagedCluster. -/
def movedCell : Cell := { readyCell with spec.managedClusterRef := { name := "mc-b" } }

/-- The world after the Cell is moved, while the VirtualCluster is being deleted. -/
def movedWorld : World := { cutWorld.next with cells := cutWorld.cells.put movedCell }

/-- A run leads there, when the updates of the Cells have nothing to keep. -/
theorem reachable_movedWorld :
    Sys.Reachable (system sampleCtx sampleConfig freshCluster (CellChanges freshCluster fun _ _ _ => True))
      (Unprovisioned freshCluster) ⟨movedWorld, none⟩ := by
  have hcell : cutWorld.cells.find movedCell.metadata.key = some readyCell :=
    (Store.find_put _ _ _).trans (if_pos (by decide +kernel))
  refine (reachable_cutWorld _).step (.env (.others (fun _ _ _ => Iff.rfl) rfl (.updated hcell ?_ trivial)))
  decide +kernel

/-- The world after a first round of the deletion, which finds the Work. -/
def cleanedWorld : World := (sampleRound cutWorld emptyHost 20).1

/-- What a round of the sample has come to after some calls. -/
def sampleState (w : World) (n : Nat) : Sys World Event Call Call.Res (Except Err Result) :=
  ⟨(sampleRound w emptyHost n).1, some (sampleRound w emptyHost n).2⟩

/-- Where a round of the sample is before a call of its own, and what the call does. -/
theorem reachable_sampleState {u : VirtualCluster} {Others : World → World → Prop} {init : World → Prop} {w : World}
    (hw : Sys.Reachable (system sampleCtx sampleConfig u Others) init ⟨w, none⟩)
    (hkey : u.key = DriftAux.sampleCluster.key) (n : Nat) (hcall : (sampleRound w emptyHost n).2.2.isCall = true) :
    Sys.Reachable (system sampleCtx sampleConfig u Others) init (sampleState w n) ∧
      Sys.Step (system sampleCtx sampleConfig u Others) (sampleState w n) (sampleState w (n + 1)) := by
  have hstart : (system sampleCtx sampleConfig u Others).starts
      (reconcile sampleCtx sampleConfig sampleRuntime DriftAux.sampleCluster.key) := ⟨sampleRuntime, hkey ▸ rfl⟩
  refine ⟨(hw.step (.start hstart)).runs (runs_sampleRound w emptyHost n), ?_⟩
  exact Sys.step_drive (M := system sampleCtx sampleConfig u Others) (World.exec_answer emptyHost) n w _ hcall

/-- Whether the finalizer is there. -/
def heldIn (w : World) : Option Bool := (w.virtualClusters.find freshCluster.key).map (·.held)

theorem releases_of_heldIn {w w' : World} (hbefore : heldIn w = some true) (hafter : heldIn w' = none) :
    Releases freshCluster w w' := by
  obtain ⟨v, hfind, hheld⟩ := Option.map_eq_some_iff.mp hbefore
  refine ⟨⟨v, hfind, hheld⟩, fun v' hfind' => ?_⟩
  rw [Option.map_eq_none_iff.mp hafter] at hfind'
  cases hfind'

end SampleAux

open SampleAux

/-- Two rounds of the deletion, after a first round that was cut off when it had written the
foundation Work, leave nothing. -/
theorem release_leaves_nothing_sample :
    Releases freshCluster (sampleState cleanedWorld 5).world (sampleState cleanedWorld 6).world ∧
      NothingLeft freshCluster (sampleState cleanedWorld 6).world := by
  have hcleaned := (reachable_cutWorld (KeepsManagedCluster freshCluster)).wholeRound ⟨sampleRuntime, rfl⟩
    (runs_sampleRound cutWorld emptyHost 20)
  obtain ⟨hcall, hbefore, hafter⟩ : (sampleRound cleanedWorld emptyHost 5).2.2.isCall = true ∧
      heldIn (sampleState cleanedWorld 5).world = some true ∧ heldIn (sampleState cleanedWorld 6).world =
        none := by decide +kernel
  obtain ⟨hs, hstep⟩ := reachable_sampleState hcleaned rfl 5 hcall
  have hreleases := releases_of_heldIn hbefore hafter
  exact ⟨hreleases, release_leaves_nothing sampleCtx sampleConfig freshCluster hs hstep hreleases⟩

/-- A Cell that is moved while the VirtualCluster is being deleted takes the deletion to another namespace, and the
foundation Work of a round that was cut off before it wrote its status is left in the first. -/
theorem release_leaves_nothing_false :
    ¬∀ (Γ : Ctx) (cfg : Config) (u : VirtualCluster) (s s' : Sys World Event Call Call.Res (Except Err Result)),
      Sys.Reachable (system Γ cfg u (CellChanges u fun _ _ _ => True)) (Unprovisioned u) s →
      Sys.Step (system Γ cfg u (CellChanges u fun _ _ _ => True)) s s' → Releases u s.world s'.world →
        NothingLeft u s'.world := by
  intro hall
  obtain ⟨hcall, hbefore, hafter, howner⟩ : (sampleRound movedWorld emptyHost 5).2.2.isCall = true ∧
      heldIn (sampleState movedWorld 5).world = some true ∧ heldIn (sampleState movedWorld 6).world = none ∧
      ((sampleState movedWorld 6).world.works.find (freshCluster.foundationKey "mc-a")).map (·.metadata.ownerUID) =
        some freshCluster.metadata.uid := by decide +kernel
  obtain ⟨hs, hstep⟩ := reachable_sampleState reachable_movedWorld rfl 5 hcall
  obtain ⟨work, hwork, huid⟩ := Option.map_eq_some_iff.mp howner
  exact (hall _ _ _ _ _ hs hstep (releases_of_heldIn hbefore hafter)).works _ work ⟨hwork, huid⟩

end KubeCell
