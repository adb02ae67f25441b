import KubeCell.Lemmas.Undisturbed
import KubeCell.Theorems.Tenants

/-!
# Every change of a Work wakes its VirtualCluster

The rounds for a VirtualCluster wait for what OCM reports on its Works, and are asked for by the labels that the Works
carry. Whatever the rounds for all VirtualClusters and everybody else do, these labels lead to the VirtualCluster
whose UID is on the Work.
-/

namespace KubeCell

open EffectsAux IdentityAux Prog ProvisionAux RoundAux TenantsAux UndisturbedAux

/-- The Works that are labelled with the UID of `u` are labelled with its name. -/
def Addressed (u : VirtualCluster) (w : World) : Prop :=
  ∀ key work, Owns u w.works key work → work.metadata.labels.get labelVirtualClusterNamespace = u.metadata.ns ∧
    work.metadata.labels.get labelVirtualClusterName = u.metadata.name

/-- Whatever stands under a name, it is labelled with the UID of `u`. -/
def OnlyOurs (u : VirtualCluster) (works : Store ManifestWork) (key : NamespacedName) : Prop :=
  ∀ work, works.find key = some work → work.metadata.ownerUID = u.metadata.uid

namespace WokenAux

variable {Γ : Ctx} {cfg : Config} {rt : Runtime} {u v : VirtualCluster} {key : NamespacedName} {w w' : World}
  {h : List Event}

/-- What is written with the labels of a VirtualCluster is labelled with its name. -/
theorem labels_of_owned (resolved : ResolvedSnapshot) {labels : StringMap}
    (hlabels : ∀ name value, AList.lookup name (v.ownedLabels resolved) = some value →
      AList.lookup name labels = some value) :
    labels.get labelVirtualClusterNamespace = v.metadata.ns ∧ labels.get labelVirtualClusterName = v.metadata.name := by
  obtain ⟨-, -, hns, hname, -⟩ := lookup_ownedLabels v resolved
  rw [StringMap.get, StringMap.get, hlabels _ _ hns, hlabels _ _ hname]
  exact ⟨rfl, rfl⟩

/-- A call of a round writes no Work with the UID of `u` and another name: who has the UID is `u`. -/
theorem addressed_call (hseparate : Separate u key h) (haddressed : Addressed u w)
    (hstep : WorksStep Γ rt key h w.works w'.works) :
    Addressed u w' := by
  have hput : ∀ {work : ManifestWork}, (work.metadata.ownerUID = u.metadata.uid →
      work.metadata.labels.get labelVirtualClusterNamespace = u.metadata.ns ∧
        work.metadata.labels.get labelVirtualClusterName = u.metadata.name) →
      ∀ workKey o, Owns u (w.works.put work) workKey o →
        o.metadata.labels.get labelVirtualClusterNamespace = u.metadata.ns ∧
        o.metadata.labels.get labelVirtualClusterName = u.metadata.name := by
    rintro work hwork workKey o ⟨ho, howner⟩
    rw [Store.find_put] at ho
    split_ifs at ho
    · cases ho
      exact hwork howner
    · exact haddressed workKey o ⟨ho, howner⟩
  have hnamed : ∀ {v : VirtualCluster}, Live key h v → v.metadata.uid = u.metadata.uid →
      v.metadata.ns = u.metadata.ns ∧ v.metadata.name = u.metadata.name := by
    intro v hlive huid
    have hkey : key = u.key := by
      by_contra hkey
      exact (hseparate.began hkey (Or.inl hlive)).uid huid
    have hsame : v.key = u.key := (key_of_began hseparate.truthful (Or.inl hlive)).trans hkey
    simpa [VirtualCluster.key, ObjectMeta.key] using hsame
  intro workKey o howns
  generalize w'.works = works' at hstep howns
  cases hstep with
  | kept => exact haddressed workKey o howns
  | @created v cell workKey' desired version hgate _ hwork _ =>
    obtain ⟨hlive, -⟩ := name_of_gate hgate
    refine hput (fun huid => ?_) workKey o howns
    obtain ⟨hns, hname⟩ := hnamed hlive ((created_work hwork version).2.symm.trans huid)
    obtain ⟨resolved, hmetadata⟩ := hwork
    rw [← hns, ← hname]
    refine labels_of_owned resolved fun name value hlookup => ?_
    have hlabels : (Store.asCreated version desired).metadata.labels = desired.metadata.labels := rfl
    rw [hlabels, hmetadata]
    exact hlookup
  | @merged v cell workKey' desired seen current version hgate _ hwork _ _ hcurrent =>
    obtain ⟨hlive, -⟩ := name_of_gate hgate
    refine hput (fun huid => ?_) workKey o howns
    obtain ⟨hns, hname⟩ := hnamed hlive ((mergeWork_ownerUID hwork version current).symm.trans huid)
    obtain ⟨resolved, hmetadata⟩ := hwork
    rw [← hns, ← hname]
    refine labels_of_owned resolved fun name value hlookup => ?_
    refine lookup_merge ?_
    rw [hmetadata]
    exact hlookup
  | removed =>
    obtain ⟨ho, howner⟩ := howns
    rw [Store.find_remove] at ho
    split_ifs at ho
    exact haddressed workKey o ⟨ho, howner⟩
  | @marked v workKey' seen current version _ _ _ _ hcurrent =>
    refine hput (fun huid => ?_) workKey o howns
    exact haddressed seen.metadata.key current ⟨hcurrent, huid⟩

/-- OCM and everybody else leave the labels of a Work alone, or the whole Work. -/
theorem addressed_env (haddressed : Addressed u w) (henv : Surroundings u w w') : Addressed u w' := by
  rintro workKey o ⟨ho, howner⟩
  cases henv with
  | @ocm works hstep =>
    change works.find workKey = some o at ho
    cases hstep with
    | @report work reported hfind hkey hlabels _ =>
      rw [Store.find_put] at ho
      split_ifs at ho
      · cases ho
        rw [ObjectMeta.ownerUID, hlabels] at howner
        rw [hlabels]
        exact haddressed _ work ⟨hfind, howner⟩
      · exact haddressed workKey o ⟨ho, howner⟩
    | complete =>
      rw [Store.find_remove] at ho
      split_ifs at ho
      exact haddressed workKey o ⟨ho, howner⟩
  | delete => exact haddressed workKey o ⟨ho, howner⟩
  | others hsame => exact haddressed workKey o ⟨(hsame workKey o howner).mp ho, howner⟩

/-- The labels lead to `u` in every state of a run. -/
theorem addressed_tenants {init : World → Prop} (hinit : ∀ w, init w → Distinct u w ∧ Addressed u w)
    {s : Pool NamespacedName World Event Call Call.Res (Except Err Result)}
    (hs : Pool.Reachable (tenants Γ cfg u) init s) :
    Addressed u s.world :=
  (holds_of_kept hinit addressed_call addressed_env hs).1.2

/-- A Work that is addressed to its owner asks for a round of the owner. -/
theorem requestsForWork_of_addressed {work : ManifestWork} (hns : u.metadata.ns ≠ "") (hname : u.metadata.name ≠ "")
    (haddressed : Addressed u w) (howns : Owns u w.works key work) : requestsForWork work = [u.key] := by
  obtain ⟨hnamespace, hcalled⟩ := haddressed key work howns
  rw [requestsForWork, hnamespace, hcalled]
  exact if_neg (not_or.mpr ⟨hns, hname⟩)

end WokenAux

open WokenAux

/-- Among the rounds for any number of VirtualClusters and everybody else, every step that changes a Work with the UID
of `u`, makes it or takes it away asks for a round for `u`, and for no other unless the Work changes hands. -/
theorem work_changes_wake (Γ : Ctx) (cfg : Config) (u : VirtualCluster) (hns : u.metadata.ns ≠ "")
    (hname : u.metadata.name ≠ "")
    {init : World → Prop} (hinit : ∀ w, init w → Distinct u w ∧ Addressed u w)
    {s s' : Pool NamespacedName World Event Call Call.Res (Except Err Result)}
      (hs : Pool.Reachable (tenants Γ cfg u) init s)
    (hstep : Pool.Step (tenants Γ cfg u) s s') (key : NamespacedName) :
    ((∃ work, Owns u s.world.works key work ∨ Owns u s'.world.works key work) →
      u.key ∈ watchRequests (s.world.works.find key) (s'.world.works.find key)) ∧
    (OnlyOurs u s.world.works key → OnlyOurs u s'.world.works key →
      ∀ request ∈ watchRequests (s.world.works.find key) (s'.world.works.find key), request = u.key) := by
  have hbefore : Addressed u s.world := addressed_tenants hinit hs
  have hafter : Addressed u s'.world := addressed_tenants hinit (hs.step hstep)
  constructor
  · rintro ⟨work, howns | howns⟩
    · refine List.mem_flatMap.mpr ⟨work, List.mem_append_left _ (Option.mem_toList.mpr howns.1), ?_⟩
      rw [requestsForWork_of_addressed hns hname hbefore howns]
      exact List.mem_singleton_self _
    · refine List.mem_flatMap.mpr ⟨work, List.mem_append_right _ (Option.mem_toList.mpr howns.1), ?_⟩
      rw [requestsForWork_of_addressed hns hname hafter howns]
      exact List.mem_singleton_self _
  · intro hours hours' request hrequest
    obtain ⟨work, hwork, hrequest⟩ := List.mem_flatMap.mp hrequest
    rcases List.mem_append.mp hwork with hwork | hwork
    · rw [Option.mem_toList] at hwork
      rw [requestsForWork_of_addressed hns hname hbefore ⟨hwork, hours work hwork⟩] at hrequest
      exact List.mem_singleton.mp hrequest
    · rw [Option.mem_toList] at hwork
      rw [requestsForWork_of_addressed hns hname hafter ⟨hwork, hours' work hwork⟩] at hrequest
      exact List.mem_singleton.mp hrequest

namespace WokenAux

open SampleAux

/-- The foundation Work of the sample VirtualCluster, and what OCM reports on it. -/
def sampleFoundation : ManifestWork :=
  buildFoundationWork DriftAux.sampleCluster sampleSnapshot (DriftAux.sampleCluster.renderNames ["10.0.0.1"]) "mc-a"
@[inherit_doc sampleFoundation] def reportedFoundation : ManifestWork :=
  { sampleFoundation with conditions := [{ type := "Applied", status := .true }] }

/-- The management cluster with that Work only. -/
def foundedWorld : World := sampleWorld DriftAux.sampleCluster [sampleFoundation]

/-- In the sample the foundation Work is the only one. -/
theorem find_foundedWorld (key : NamespacedName) :
    foundedWorld.works.find key = if key = sampleFoundation.metadata.key then some sampleFoundation else none :=
  Store.find_put _ _ _

theorem addressed_foundedWorld :
    Distinct DriftAux.sampleCluster foundedWorld ∧ Addressed DriftAux.sampleCluster foundedWorld := by
  refine ⟨fun key v hv hkey => ?_, fun key work howns => ?_⟩
  · rw [foundedWorld, sampleWorld, Store.find_put] at hv
    split_ifs at hv with hat
    · exact absurd hat hkey
    · cases hv
  · obtain ⟨hfind, -⟩ := howns
    rw [find_foundedWorld] at hfind
    split_ifs at hfind
    cases hfind
    exact labels_of_owned sampleSnapshot fun _ _ hlookup => hlookup

end WokenAux

/-- OCM's report on the foundation Work of the sample VirtualCluster asks for a round for it. -/
theorem work_changes_wake_sample :
    DriftAux.sampleCluster.key ∈ watchRequests (some sampleFoundation) (some reportedFoundation) := by
  have hfind : foundedWorld.works.find sampleFoundation.metadata.key = some sampleFoundation :=
    (find_foundedWorld _).trans (if_pos rfl)
  have hreport : OcmStep foundedWorld.works (foundedWorld.works.put reportedFoundation) := .report hfind rfl rfl rfl
  have hstep : Pool.Step (tenants SampleAux.sampleCtx SampleAux.sampleConfig DriftAux.sampleCluster)
    ⟨foundedWorld, fun _ => none⟩
      ⟨{ foundedWorld.next with works := foundedWorld.works.put reportedFoundation },
        fun _ => none⟩ := .env (.ocm hreport)
  have hinit : ∀ w, w = foundedWorld → Distinct DriftAux.sampleCluster w ∧ Addressed DriftAux.sampleCluster w :=
    fun w hw => hw ▸ addressed_foundedWorld
  have hwakes := (work_changes_wake _ _ _ (by decide) (by decide) hinit
    (.init rfl) hstep sampleFoundation.metadata.key).1
  have hafter : (foundedWorld.works.put reportedFoundation).find sampleFoundation.metadata.key =
    some reportedFoundation :=
    (Store.find_put _ _ _).trans (if_pos rfl)
  rw [hfind, hafter] at hwakes
  exact hwakes ⟨sampleFoundation, Or.inl ⟨hfind, by decide +kernel⟩⟩

end KubeCell
