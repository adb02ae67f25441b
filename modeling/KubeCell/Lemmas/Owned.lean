import KubeCell.Lemmas.Environment

/-!
# The Works of a VirtualCluster

Where the Works labelled with the UID of a VirtualCluster come from under the calls of its
rounds, and which of them stay.
-/

namespace KubeCell

open RoundAux ProvisionAux EffectsAux

/-- The round has read the VirtualCluster, and it was not being deleted. -/
inductive Begun (key : NamespacedName) : List Event → Prop where
  | read {v : VirtualCluster} {rest : List Event} : v.deleting = false →
      Begun key (event (.api (.getVirtualCluster key)) (.ok v) :: rest)

namespace OwnedAux

variable {Γ : Ctx} {cfg : Config} {rt : Runtime} {u v : VirtualCluster} {cell : Cell} {w w' : World} {h t : List Event}
  {key : NamespacedName}

/-- A round that provisions has begun. -/
theorem Live.begun (hlive : Live key h v) : Begun key h := by
  cases hlive with
  | read hdeleting => exact .read hdeleting
  | adopted hdeleting => exact .read hdeleting

theorem Begun.of_append (hbegun : Begun key (h ++ t)) (hne : h ≠ []) : Begun key h := by
  cases h with
  | nil => exact absurd rfl hne
  | cons e h =>
    rw [List.cons_append] at hbegun
    generalize h ++ t = rest at hbegun
    cases hbegun with
    | read hdeleting => exact .read hdeleting

/-- A round that has begun to provision does not delete. -/
theorem Begun.not_doomed (hbegun : Begun key h) : ¬Doomed key h v := by
  intro hdoomed
  cases hbegun with
  | read hdeleting =>
    cases hdoomed with
    | read hdeleting' _ => simp [hdeleting] at hdeleting'

/-- Either gate opens with that of the host. -/
theorem Gate.toHostGate {workKey : NamespacedName} (hgate : Gate Γ rt key h v cell workKey) :
    HostGate Γ rt key h v cell := by
  cases hgate with
  | foundation hgate => exact hgate
  | instanceWork hgate => exact hgate.toHostGate

/-- A Work of `u` after a call was there before, is one whose deletion is requested now, or was
written behind its gate. -/
theorem works_origin (hid : Identity u w h) (hstep : WorksStep Γ rt u.key h w.works w'.works) {work' : ManifestWork}
    (hown : Owns u w'.works key work') :
    (∃ work, Owns u w.works key work ∧ Store.terminating work' = Store.terminating work) ∨
      (∃ work v, Owns u w.works key work ∧ Doomed u.key h v ∧ Condemned h v key) ∨
      ∃ v cell, Gate Γ rt u.key h v cell key ∧ Unpersisted h ∧
        (Store.terminating work' = false ∨ ∃ seen current, Saw h (.api (.getWork key)) (.ok seen) ∧
          seen.metadata.ownerUID = u.metadata.uid ∧ w.works.find key = some current ∧
          Store.terminating work' = Store.terminating current) := by
  obtain ⟨hfind', howner'⟩ := hown
  generalize w'.works = works' at hstep hfind'
  cases hstep with
  | kept => exact Or.inl ⟨work', ⟨hfind', howner'⟩, rfl⟩
  | @created v cell workKey desired version hgate hnone hwork _ =>
    rw [Store.find_put] at hfind'
    split_ifs at hfind' with hkey
    · cases hfind'
      have hwritten : desired.metadata.key = workKey := IsWorkOf.metadata_key hwork
      have hkey' : key = workKey := hkey.trans hwritten
      exact Or.inr (Or.inr ⟨v, cell, hkey' ▸ hgate, hnone, Or.inl rfl⟩)
    · exact Or.inl ⟨work', ⟨hfind', howner'⟩, rfl⟩
  | @merged v cell workKey desired seen current version hgate hnone hwork hsaw howner hfind =>
    rw [Store.find_put] at hfind'
    split_ifs at hfind' with hkey
    · cases hfind'
      have hkeyed : current.metadata.key = workKey := Store.find_keyed hfind
      obtain rfl : key = workKey := hkey.trans hkeyed
      have huid := (Identity.live hid (Gate.toHostGate hgate).live).uid
      exact Or.inr (Or.inr ⟨v, cell, hgate, hnone, Or.inr ⟨seen, current, hsaw, howner.trans huid, hfind, rfl⟩⟩)
    · exact Or.inl ⟨work', ⟨hfind', howner'⟩, rfl⟩
  | @removed v workKey seen hdoomed _ hsaw howner =>
    rw [Store.find_remove] at hfind'
    split_ifs at hfind' with hkey
    exact Or.inl ⟨work', ⟨hfind', howner'⟩, rfl⟩
  | @marked v workKey seen current version hdoomed hcondemned hsaw howner hfind =>
    rw [Store.find_put] at hfind'
    split_ifs at hfind' with hkey
    · cases hfind'
      have hkeyed : current.metadata.key = seen.metadata.key := Store.find_keyed hfind
      obtain rfl : key = workKey := hkey.trans (hkeyed.trans (hid.works _ _ hsaw))
      exact Or.inr (Or.inl ⟨current, v, ⟨hid.works _ _ hsaw ▸ hfind, howner'⟩, hdoomed, hcondemned⟩)
    · exact Or.inl ⟨work', ⟨hfind', howner'⟩, rfl⟩

/-- A Work of `u` is there after a call, as one that waits for its deletion or not, unless the call
requests its deletion. -/
theorem works_survive (hid : Identity u w h) (hstep : WorksStep Γ rt u.key h w.works w'.works) {work : ManifestWork}
    (hown : Owns u w.works key work) :
    (∃ work', Owns u w'.works key work' ∧ Store.terminating work' = Store.terminating work) ∨
      ∃ v, Doomed u.key h v ∧ Condemned h v key := by
  obtain ⟨hfind', howner'⟩ := hown
  generalize w'.works = works' at hstep ⊢
  cases hstep with
  | kept => exact Or.inl ⟨work, ⟨hfind', howner'⟩, rfl⟩
  | @created v cell workKey desired version _ _ hwork hnone =>
    refine Or.inl ⟨work, ⟨(Store.find_put _ _ _).trans ((if_neg fun hkey => ?_).trans hfind'), howner'⟩, rfl⟩
    have hwritten : desired.metadata.key = workKey := IsWorkOf.metadata_key hwork
    have hkey' : key = workKey := hkey.trans hwritten
    rw [hkey', hnone] at hfind'
    nomatch hfind'
  | @merged v cell workKey desired seen current version hgate hnone hwork hsaw howner hfind =>
    have hkeyed : current.metadata.key = workKey := Store.find_keyed hfind
    by_cases hkey : key = workKey
    · subst hkey
      rw [hfind, Option.some.injEq] at hfind'
      subst hfind'
      have huid := (Identity.live hid (Gate.toHostGate hgate).live).uid
      exact Or.inl ⟨_, ⟨(Store.find_put _ _ _).trans (if_pos hkeyed.symm),
        (mergeWork_ownerUID hwork version current).trans huid⟩, rfl⟩
    · exact Or.inl ⟨work, ⟨(Store.find_put _ _ _).trans
        ((if_neg fun heq => hkey (heq.trans hkeyed)).trans hfind'), howner'⟩, rfl⟩
  | @removed v workKey seen hdoomed hcondemned hsaw howner =>
    by_cases hkey : key = workKey
    · exact Or.inr ⟨v, hdoomed, hkey ▸ hcondemned⟩
    · exact Or.inl ⟨work, ⟨(Store.find_remove _ _ _).trans
        ((if_neg fun heq => hkey (heq.trans (hid.works _ _ hsaw))).trans hfind'), howner'⟩, rfl⟩
  | @marked v workKey seen current version hdoomed hcondemned hsaw howner hfind =>
    have hkeyed : current.metadata.key = workKey := (Store.find_keyed hfind).trans (hid.works _ _ hsaw)
    by_cases hkey : key = workKey
    · exact Or.inr ⟨v, hdoomed, hkey ▸ hcondemned⟩
    · exact Or.inl ⟨work, ⟨(Store.find_put _ _ _).trans
        ((if_neg fun heq => hkey (heq.trans hkeyed)).trans hfind'), howner'⟩, rfl⟩

/-- A call keeps whether `u` is being deleted. -/
theorem clusters_deleting (hid : Identity u w h) {e : Event}
    (hstep : ClustersStep Γ rt u.key h cfg e w.virtualClusters w'.virtualClusters)
    {v' : VirtualCluster} (hfind' : w'.virtualClusters.find u.key = some v') :
    ∃ v, w.virtualClusters.find u.key = some v ∧ v'.deleting = v.deleting := by
  generalize w'.virtualClusters = clusters' at hstep hfind'
  cases hstep with
  | kept => exact ⟨v', hfind', rfl⟩
  | @adopted v current version hh _ _ hfind =>
    have hv : Same u v := hid.read v (hh ▸ List.mem_singleton.mpr rfl)
    rw [Store.find_put] at hfind'
    split_ifs at hfind' with hkey
    · cases hfind'
      exact ⟨current, hv.key ▸ hfind, rfl⟩
    · exact ⟨v', hfind', rfl⟩
  | @persisted h₀ tail o current version _ _ _ hfind _ _ =>
    rw [Store.find_put] at hfind'
    split_ifs at hfind' with hkey
    · cases hfind'
      have hcurrent : current.key = o.key := Store.find_keyed hfind
      have hkey' : u.key = o.key := hkey.trans hcurrent
      exact ⟨current, hkey' ▸ hfind, rfl⟩
    · exact ⟨v', hfind', rfl⟩
  | @released v managedCluster clusters' hdoomed _ _ _ _ hclusters =>
    have hv := Identity.doomed hid hdoomed
    rcases hclusters with ⟨version, current, hfind, heq⟩ | heq <;> rw [heq] at hfind'
    · rw [Store.find_put] at hfind'
      split_ifs at hfind' with hkey
      · cases hfind'
        exact ⟨current, hv.key ▸ hfind, rfl⟩
      · exact ⟨v', hfind', rfl⟩
    · rw [Store.find_remove] at hfind'
      split_ifs at hfind'
      exact ⟨v', hfind', rfl⟩

/-- What a write of a Work writes, and the gate it is behind. -/
theorem gate_of_permitted {desired : ManifestWork} {call : ApiCall}
    (hcall : call = .createWork desired ∨ call = .patchWork desired) (hp : Permitted Γ cfg rt key h (.api call)) :
    ∃ v cell, Gate Γ rt key h v cell desired.metadata.key ∧ IsWorkOf v desired.metadata.key desired := by
  have hwritten : ∀ {v : VirtualCluster} {cell : Cell} {workKey : NamespacedName} {written : ManifestWork},
      Gate Γ rt key h v cell workKey → IsWorkOf v workKey written → WorkWrite h v written call →
      ∃ v cell, Gate Γ rt key h v cell desired.metadata.key ∧ IsWorkOf v desired.metadata.key desired := by
    intro v cell workKey written hgate hwork hwrite
    have heq : written = desired := by
      rcases hcall with rfl | rfl <;> cases hwrite <;> rfl
    subst heq
    obtain rfl := IsWorkOf.metadata_key hwork
    exact ⟨v, cell, hgate, hwork⟩
  cases hp with
  | foundation hgate _ hwork hwrite => exact hwritten (.foundation hgate) hwork hwrite
  | instanceWork hgate _ hwork hwrite => exact hwritten (.instanceWork hgate) hwork hwrite
  | read hread => rcases hcall with rfl | rfl <;> nomatch hread
  | _ => rcases hcall with heq | heq <;> nomatch heq

end OwnedAux
end KubeCell
