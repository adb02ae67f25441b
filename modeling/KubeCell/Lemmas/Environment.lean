import KubeCell.Lemmas.Effects

/-!
# What the others change

Between the calls of a round the Works of a VirtualCluster are only reported on, or taken away when their deletion was
requested, and the VirtualCluster itself is only marked for deletion.
-/

namespace KubeCell

open RoundAux EffectsAux

/-- What the environment does to what belongs to `u`. -/
structure Moves (u : VirtualCluster) (w w' : World) : Prop where
  -- no Work of `u` comes up, and none changes whether it waits for its deletion
  back : ∀ key work', Owns u w'.works key work' →
    ∃ work, Owns u w.works key work ∧ Store.terminating work' = Store.terminating work
  -- no Work of `u` goes, unless its deletion was requested
  forth : ∀ key work, Owns u w.works key work → Store.terminating work = false → ∃ work', Owns u w'.works key work'
  -- `u` may be marked for deletion, and goes only when it has no finalizers
  cluster : ∀ v', w'.virtualClusters.find u.key = some v' → ∃ v, w.virtualClusters.find u.key = some v ∧
    v'.spec = v.spec ∧
    v'.status = v.status ∧ v'.metadata.finalizers = v.metadata.finalizers ∧ v'.metadata.uid = v.metadata.uid ∧
    (v.deleting = true → v'.deleting = true)
  kept : ∀ v, w.virtualClusters.find u.key = some v → v.metadata.finalizers ≠ [] →
    ∃ v', w'.virtualClusters.find u.key = some v'

namespace EnvironmentAux

variable {u v : VirtualCluster} {w w' : World} {Others : World → World → Prop}

/-- What OCM does to the Works of `u`. -/
theorem OcmStep.works {works works' : Store ManifestWork} (hstep : OcmStep works works') :
    (∀ key work', Owns u works' key work' → ∃ work, Owns u works key work ∧
      Store.terminating work' = Store.terminating work) ∧
      ∀ key work, Owns u works key work → Store.terminating work = false → ∃ work', Owns u works' key work' := by
  cases hstep with
  | @report work reported hfind hkey hlabels hdeletion =>
    have howner : reported.metadata.ownerUID = work.metadata.ownerUID := by
      rw [ObjectMeta.ownerUID, hlabels, ObjectMeta.ownerUID]
    have hterminating : Store.terminating reported = Store.terminating work := congrArg Option.isSome hdeletion
    constructor
    · rintro key work' ⟨hfind', howner'⟩
      rw [Store.find_put] at hfind'
      split_ifs at hfind' with hat
      · cases hfind'
        exact ⟨work, ⟨by rw [hat]; exact hkey ▸ hfind, howner ▸ howner'⟩, hterminating⟩
      · exact ⟨work', ⟨hfind', howner'⟩, rfl⟩
    · rintro key work' ⟨hfind', howner'⟩ -
      by_cases hat : key = reported.metadata.key
      · refine ⟨reported, (Store.find_put _ _ _).trans (if_pos hat), ?_⟩
        rw [hat, hkey, hfind, Option.some.injEq] at hfind'
        rw [howner, hfind', howner']
      · exact ⟨work', (Store.find_put _ _ _).trans ((if_neg hat).trans hfind'), howner'⟩
  | @complete gone work hfind hterminating =>
    constructor
    · rintro key work' ⟨hfind', howner'⟩
      rw [Store.find_remove] at hfind'
      split_ifs at hfind' with hat
      exact ⟨work', ⟨hfind', howner'⟩, rfl⟩
    · rintro key work' ⟨hfind', howner'⟩ halive
      refine ⟨work', (Store.find_remove _ _ _).trans ((if_neg ?_).trans hfind'), howner'⟩
      rintro rfl
      rw [hfind, Option.some.injEq] at hfind'
      rw [hfind', halive] at hterminating
      cases hterminating

/-- What is left of `u` when its deletion is requested. -/
theorem delete_cluster (clusters : Store VirtualCluster) (version : Nat) :
    (∀ v', (clusters.delete version u.key).2.find u.key = some v' → ∃ v, clusters.find u.key = some v ∧
      v'.spec = v.spec ∧
        v'.status = v.status ∧ v'.metadata.finalizers = v.metadata.finalizers ∧ v'.metadata.uid = v.metadata.uid ∧
        v'.deleting = true) ∧
      ∀ v, clusters.find u.key = some v → v.metadata.finalizers ≠ [] →
        ∃ v', (clusters.delete version u.key).2.find u.key = some v' := by
  rcases Store.delete_cases clusters version u.key with ⟨⟨e, heq⟩, hnone⟩ | ⟨current, hfind, -, hcases⟩
  · rw [heq]
    exact ⟨fun v' hv' => (nomatch hnone.symm.trans hv'), fun v hv => (nomatch hnone.symm.trans hv)⟩
  · rcases hcases with ⟨hfinalizers, heq⟩ | ⟨-, hterminating, heq⟩ | ⟨-, -, heq⟩ <;> rw [heq]
    · rw [Store.find_remove, if_pos rfl]
      refine ⟨fun v' hv' => (nomatch hv'), fun v hv hne => ?_⟩
      rw [hfind, Option.some.injEq] at hv
      exact absurd (hv ▸ hfinalizers) hne
    · refine ⟨fun v' hv' => ?_, fun v hv _ => ⟨v, hv⟩⟩
      rw [hfind, Option.some.injEq] at hv'
      subst hv'
      exact ⟨current, hfind, rfl, rfl, rfl, rfl, hterminating⟩
    · have hkey : u.key = current.key := (Store.find_keyed hfind).symm
      have hput : (clusters.put (Store.asDeleted version current)).find u.key =
        some (Store.asDeleted version current) :=
        (Store.find_put _ _ _).trans (if_pos hkey)
      rw [hput]
      refine ⟨fun v' hv' => ?_, fun _ _ _ => ⟨_, rfl⟩⟩
      cases hv'
      exact ⟨current, hfind, rfl, rfl, rfl, rfl, rfl⟩

/-- The environment does no more than that. -/
theorem moves_of_environment (henv : Environment u Others w w') : Moves u w w' := by
  cases henv with
  | ocm hstep =>
    obtain ⟨hback, hforth⟩ := OcmStep.works (u := u) hstep
    exact ⟨hback, hforth, fun v' hv' => ⟨v', hv', rfl, rfl, rfl, rfl, id⟩, fun v hv _ => ⟨v, hv⟩⟩
  | delete =>
    obtain ⟨hcluster, hkept⟩ := delete_cluster (u := u) w.virtualClusters w.version
    refine ⟨fun key work' hwork => ⟨work', hwork, rfl⟩, fun key work hwork _ => ⟨work, hwork⟩, fun v' hv' => ?_, hkept⟩
    obtain ⟨v, hv, hspec, hstatus, hfinalizers, huid, hdeleting⟩ := hcluster v' hv'
    exact ⟨v, hv, hspec, hstatus, hfinalizers, huid, fun _ => hdeleting⟩
  | others hworks hcluster _ =>
    refine ⟨fun key work' hwork => ⟨work', ⟨(hworks key work' hwork.2).mp hwork.1, hwork.2⟩, rfl⟩,
      fun key work hwork _ => ⟨work, (hworks key work hwork.2).mpr hwork.1, hwork.2⟩, fun v' hv' => ?_,
        fun v hv _ => ?_⟩
    · exact ⟨v', hcluster ▸ hv', rfl, rfl, rfl, rfl, id⟩
    · exact ⟨v, hcluster ▸ hv⟩

/-- The environment changes nothing about which VirtualCluster is stored, and the answers of a
round stay what they were. -/
theorem Moves.identity {h : List Event} (hmoves : Moves u w w') (hid : Identity u w h) : Identity u w' h := by
  refine ⟨fun v' hv' => ?_, hid.read, hid.updated, hid.works, hid.secrets⟩
  obtain ⟨v, hv, hspec, -, -, huid, -⟩ := hmoves.cluster v' hv'
  have hsame := hid.stored v hv
  exact ⟨Store.find_keyed hv', huid.trans hsame.uid, hspec.trans hsame.spec⟩

end EnvironmentAux
end KubeCell
