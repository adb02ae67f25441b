import KubeCell.Lemmas.Content
import KubeCell.Lemmas.Environment
import KubeCell.Lib.Pool
import KubeCell.Theorems.Identity

/-!
# Tenants side by side

The results about one VirtualCluster take everything else for its environment, and ask of it that it leaves the
VirtualCluster and its Works alone. Here that is proved of the reconciler itself: of the rounds it runs at the
same time for all the other VirtualClusters. So each tenant is, among any number of others, in a state that it
also reaches without them.
-/

namespace KubeCell

open EffectsAux IdentityAux Prog ProvisionAux RoundAux

/-- Another VirtualCluster has an identity of its own and a host namespace of its own. -/
structure SeparateFrom (u v : VirtualCluster) : Prop where
  uid : v.metadata.uid ≠ u.metadata.uid
  hostNamespace : v.names.hostNamespace ≠ u.names.hostNamespace

/-- All other VirtualClusters are separate from `u`. -/
def Distinct (u : VirtualCluster) (w : World) : Prop :=
  ∀ key v, w.virtualClusters.find key = some v → key ≠ u.key → SeparateFrom u v

/-- The Works that are labelled with the UID of `u` stand under the names that are derived from it. -/
def UnderOwnNames (u : VirtualCluster) (w : World) : Prop :=
  ∀ key work, Owns u w.works key work → key.name = u.names.foundationWork ∨ key.name = u.names.instanceWork

/-- What happens in the world besides the rounds: OCM handles all Works, users delete VirtualClusters, and whatever else
is done leaves `u` and what is labelled with its UID alone, and makes no VirtualCluster that cannot be told from it. -/
inductive Surroundings (u : VirtualCluster) : World → World → Prop where
  | ocm {w : World} {works : Store ManifestWork} :
    OcmStep w.works works → Surroundings u w { w.next with works := works }
  | delete {w : World} (key : NamespacedName) : Surroundings u w
      { w.next with virtualClusters := (w.virtualClusters.delete w.version key).2 }
  | others {w w' : World} : SameOwned u.metadata.uid w.works w'.works →
      w'.virtualClusters.find u.key = w.virtualClusters.find u.key → Distinct u w' → Surroundings u w w'

/-- The rounds for all VirtualClusters side by side, each with its own clock and order of maps. -/
def tenants (Γ : Ctx) (cfg : Config) (u : VirtualCluster) :
    Pool.Model NamespacedName World Event Call Call.Res (Except Err Result) where
  exec := World.Exec
  obs := event
  env := Surroundings u
  starts key p := ∃ rt, p = reconcile Γ cfg rt key

namespace TenantsAux

variable {Γ : Ctx} {cfg : Config} {rt : Runtime} {u v : VirtualCluster} {key : NamespacedName} {w w' : World}
  {h : List Event}

/-! ## Names -/

/-- The names of Works of one kind are told apart by the host namespace, and those of the two kinds by their endings. -/
theorem SeparateFrom.works (hseparate : SeparateFrom u v) {name : String}
    (hname : name = v.names.foundationWork ∨ name = v.names.instanceWork) :
    name ≠ u.names.foundationWork ∧ name ≠ u.names.instanceWork := by
  have hne := hseparate.hostNamespace
  have hends : ∀ a b : String, a ++ "-foundation" ≠ b ++ "-instance" := by
    intro a b heq
    have hlast := congrArg (fun s => s.toList.getLast?) heq
    simp at hlast
  rcases hname with rfl | rfl
  · refine ⟨fun heq => hne ?_, hends _ _⟩
    simpa [VirtualCluster.names, namesForVirtualCluster] using heq
  · refine ⟨fun heq => hends _ _ heq.symm, fun heq => hne ?_⟩
    simpa [VirtualCluster.names, namesForVirtualCluster] using heq

/-- The names depend on the key and the UID. -/
theorem names_of_same (hkey : v.key = u.key) (huid : v.metadata.uid = u.metadata.uid) : v.names = u.names := by
  have hmetadata : v.metadata.ns = u.metadata.ns ∧ v.metadata.name = u.metadata.name := by
    simpa [VirtualCluster.key, ObjectMeta.key] using hkey
  rw [VirtualCluster.names, hmetadata.1, hmetadata.2, huid, VirtualCluster.names]

/-- Whoever has the name and the identity of a separate VirtualCluster is separate. -/
theorem SeparateFrom.of_same {v' : VirtualCluster} (hseparate : SeparateFrom u v) (hkey : v'.key = v.key)
    (huid : v'.metadata.uid = v.metadata.uid) : SeparateFrom u v' := by
  refine ⟨?_, ?_⟩
  · rw [huid]
    exact hseparate.uid
  · rw [names_of_same hkey huid]
    exact hseparate.hostNamespace

/-- What a call leaves under the other names was there before, under the same names and with the same identities. -/
theorem distinct_of_keeps (hdistinct : Distinct u w)
    (hkeeps : ∀ key, w.virtualClusters.Keeps key w'.virtualClusters) : Distinct u w' := by
  intro key v' hv' hkey
  obtain ⟨v, hv, huid⟩ := hkeeps key v' hv'
  exact SeparateFrom.of_same (hdistinct key v hv hkey) ((Store.find_keyed hv').trans (Store.find_keyed hv).symm) huid

/-! ## What a round knows -/

/-- The round was answered by some world, and when it is for another VirtualCluster, that is a separate one. -/
structure Separate (u : VirtualCluster) (key : NamespacedName) (h : List Event) : Prop where
  truthful : IdentityAux.Truthful h
  read : key ≠ u.key → ∀ v, Saw h (.api (.getVirtualCluster key)) (.ok v) → SeparateFrom u v
  updated : key ≠ u.key → ∀ o v, Saw h (.api (.updateVirtualCluster o)) (.ok v) → SeparateFrom u v

theorem Separate.nil (u : VirtualCluster) (key : NamespacedName) : Separate u key [] :=
  ⟨fun _ he => absurd he List.not_mem_nil, fun _ _ hsaw => absurd hsaw List.not_mem_nil, fun _ _ _ hsaw =>
    absurd hsaw List.not_mem_nil⟩

/-- The object that it works on is another one. -/
theorem Separate.began (hseparate : Separate u key h) (hkey : key ≠ u.key)
    (hbegan : Began key h v) : SeparateFrom u v := by
  rcases hbegan with hlive | hdoomed
  · cases hlive with
    | read => exact hseparate.read hkey _ List.mem_cons_self
    | adopted => exact hseparate.updated hkey _ _ (List.mem_cons_of_mem _ List.mem_cons_self)
  · cases hdoomed with
    | read => exact hseparate.read hkey _ List.mem_cons_self

/-- An update that a round may issue is of the VirtualCluster under its name. -/
theorem key_of_permitted (htruthful : IdentityAux.Truthful h) {o : VirtualCluster}
    (hp : Permitted Γ cfg rt key h (.api (.updateVirtualCluster o))) : o.key = key := by
  cases hp with
  | read hread => cases hread
  | @adopt v hh =>
    have hkey : v.key = key := key_of_getVirtualCluster htruthful (hh ▸ List.mem_singleton.mpr rfl)
    exact hkey
  | foundation _ _ _ hwrite => cases hwrite
  | instanceWork _ _ _ hwrite => cases hwrite
  | @release v _ hdoomed =>
    have hkey : v.key = key := key_of_began htruthful (Or.inr hdoomed)
    exact hkey

/-- A call leaves the round separate. -/
theorem Separate.call {call : Call} {r : call.Res} (hdistinct : Distinct u w) (hseparate : Separate u key h)
    (hp : Permitted Γ cfg rt key h call) (hx : World.Exec w call r w') : Separate u key (h ++ [event call r]) := by
  refine ⟨?_, fun hkey v hsaw => ?_, fun hkey o v hsaw => ?_⟩
  · intro e he
    rcases List.mem_append.mp he with he | he
    · exact hseparate.truthful e he
    · rw [List.mem_singleton.mp he]
      exact ⟨w, w', hx⟩
  · rcases saw_snoc hsaw with hsaw | heq
    · exact hseparate.read hkey v hsaw
    · cases heq
      exact hdistinct key v (find_of_getVirtualCluster hx).1 hkey
  · rcases saw_snoc hsaw with hsaw | heq
    · exact hseparate.updated hkey o v hsaw
    · cases heq
      obtain ⟨hr, -⟩ := served_of_ok hx
      rcases Store.update_cases w.virtualClusters w.version o with ⟨e, herror⟩ | ⟨current, hfind, hok, -⟩
      · rw [World.serve, herror] at hr
        cases hr
      · rw [World.serve, hok, Except.ok.injEq] at hr
        have ho : o.key ≠ u.key := by
          rw [key_of_permitted hseparate.truthful hp]
          exact hkey
        subst hr
        exact SeparateFrom.of_same (hdistinct _ current hfind ho) (Store.find_keyed hfind).symm rfl

/-! ## The Works of others -/

/-- Writing what another one owns leaves what is owned by `uid`. -/
theorem sameOwned_put {uid : String} {works : Store ManifestWork} {work : ManifestWork}
    (hbefore : ∀ o, works.find work.metadata.key = some o → o.metadata.ownerUID ≠ uid)
    (hafter : work.metadata.ownerUID ≠ uid) :
    SameOwned uid works (works.put work) := by
  intro key o howner
  rw [Store.find_put]
  split_ifs with hkey
  · refine iff_of_false (fun heq => ?_) fun heq => ?_
    · cases heq
      exact hafter howner
    · exact hbefore o (hkey ▸ heq) howner
  · exact Iff.rfl

theorem sameOwned_remove {uid : String} {works : Store ManifestWork} {key : NamespacedName}
    (hbefore : ∀ o, works.find key = some o → o.metadata.ownerUID ≠ uid) : SameOwned uid works (works.remove key) := by
  intro key' o howner
  rw [Store.find_remove]
  split_ifs with hkey
  · refine iff_of_false (fun heq => by cases heq) fun heq => ?_
    exact hbefore o (hkey ▸ heq) howner
  · exact Iff.rfl

/-- A Work that is written has one of the two names of its owner. -/
theorem name_of_gate {cell : Cell} {workKey : NamespacedName} (hgate : Gate Γ rt key h v cell workKey) :
    Live key h v ∧ (workKey.name = v.names.foundationWork ∨ workKey.name = v.names.instanceWork) := by
  cases hgate with
  | foundation hgate => exact ⟨hgate.live, Or.inl rfl⟩
  | instanceWork hgate => exact ⟨hgate.live, Or.inr rfl⟩

theorem name_of_condemned {workKey : NamespacedName} (hcondemned : Condemned h v workKey) :
    workKey.name = v.names.foundationWork ∨ workKey.name = v.names.instanceWork := by
  cases hcondemned with
  | instanceWork => exact Or.inr rfl
  | foundation => exact Or.inl rfl

/-- A Work that was read stands under the name it was read by. -/
theorem key_of_getWork (htruthful : IdentityAux.Truthful h) {workKey : NamespacedName} {work : ManifestWork}
    (hsaw : Saw h (.api (.getWork workKey)) (.ok work)) : work.metadata.key = workKey := by
  obtain ⟨w, w', hx⟩ := htruthful _ hsaw
  exact Store.find_keyed (find_of_getWork hx).1

/-- A Work is created under its name, with the UID of its VirtualCluster. -/
theorem created_work {workKey : NamespacedName} {desired : ManifestWork} (hwork : IsWorkOf v workKey desired)
    (version : Nat) :
    (Store.asCreated version desired).metadata.key = workKey ∧ (Store.asCreated version desired).metadata.ownerUID =
      v.metadata.uid := by
  have hkey := IsWorkOf.metadata_key hwork
  have howner := IsWorkOf.ownerUID hwork
  exact ⟨hkey, howner⟩

/-- A round for another VirtualCluster changes no Work that is labelled with the UID of `u`. -/
theorem sameOwned_of_worksStep {works works' : Store ManifestWork} (hkey : key ≠ u.key) (hseparate : Separate u key h)
    (hown : ∀ workKey work, Owns u works workKey work → workKey.name = u.names.foundationWork ∨
      workKey.name = u.names.instanceWork)
    (hstep : WorksStep Γ rt key h works works') : SameOwned u.metadata.uid works works' := by
  -- under the names of the other one no Work is labelled with the UID of `u`
  have hnone : ∀ {v : VirtualCluster} {workKey : NamespacedName}, Began key h v →
      (workKey.name = v.names.foundationWork ∨ workKey.name = v.names.instanceWork) →
      ∀ o, works.find workKey = some o → o.metadata.ownerUID ≠ u.metadata.uid := by
    intro v workKey hbegan hname o ho howner
    obtain ⟨hfoundation, hinstance⟩ := SeparateFrom.works (hseparate.began hkey hbegan) hname
    exact (hown workKey o ⟨ho, howner⟩).elim hfoundation hinstance
  cases hstep with
  | kept => exact fun _ _ _ => Iff.rfl
  | @created v cell workKey desired version hgate _ hwork _ =>
    obtain ⟨hlive, hname⟩ := name_of_gate hgate
    obtain ⟨hat, howner⟩ := created_work hwork version
    refine sameOwned_put ?_ ?_
    · rw [hat]
      exact hnone (Or.inl hlive) hname
    · rw [howner]
      exact (hseparate.began hkey (Or.inl hlive)).uid
  | @merged v cell workKey desired seen current version hgate _ hwork _ _ hcurrent =>
    obtain ⟨hlive, hname⟩ := name_of_gate hgate
    refine sameOwned_put ?_ ?_
    · have hat : (mergeWork version current desired).metadata.key = workKey := Store.find_keyed hcurrent
      rw [hat]
      exact hnone (Or.inl hlive) hname
    · rw [mergeWork_ownerUID hwork]
      exact (hseparate.began hkey (Or.inl hlive)).uid
  | @removed v workKey seen hdoomed hcondemned hsaw _ =>
    rw [key_of_getWork hseparate.truthful hsaw]
    exact sameOwned_remove (hnone (Or.inr hdoomed) (name_of_condemned hcondemned))
  | @marked v workKey seen current version hdoomed hcondemned hsaw _ hcurrent =>
    rw [key_of_getWork hseparate.truthful hsaw] at hcurrent
    have hbefore := hnone (Or.inr hdoomed) (name_of_condemned hcondemned)
    have hat : (Store.asDeleted version current).metadata.key = workKey := Store.find_keyed hcurrent
    refine sameOwned_put ?_ (hbefore current hcurrent)
    rw [hat]
    exact hbefore

/-! ## The VirtualClusters of others -/

/-- A round leaves alone what does not stand under its name. -/
theorem find_of_exec {call : Call} {r : call.Res} (hname : key ≠ u.key) (htruthful : IdentityAux.Truthful h)
    (hp : Permitted Γ cfg rt key h call) (hwrites : Writes Γ cfg key h call) (hx : World.Exec w call r w') :
    w'.virtualClusters.find u.key = w.virtualClusters.find u.key := by
  have hput : ∀ o : VirtualCluster, o.key = key → (w.virtualClusters.put o).find u.key =
    w.virtualClusters.find u.key := by
    intro o ho
    rw [Store.find_put, if_neg]
    intro hsame
    exact hname (ho.symm.trans hsame.symm)
  have hserve : ∀ call : ApiCall, Permitted Γ cfg rt key h (.api call) → Writes Γ cfg key h (.api call) →
      (w.serve call).2.virtualClusters.find u.key = w.virtualClusters.find u.key := by
    intro call hp hwrites
    cases call with
    | updateVirtualCluster o =>
      have ho := key_of_permitted htruthful hp
      change (w.virtualClusters.update w.version o).2.find u.key = _
      rcases Store.update_cases w.virtualClusters w.version o with ⟨e, heq⟩ | ⟨current, -, -, heq | ⟨-, heq⟩⟩
      · rw [heq]
      · rw [heq]
        exact hput _ ho
      · rw [heq, Store.find_remove, if_neg]
        intro hsame
        exact hname (ho.symm.trans hsame.symm)
    | updateVirtualClusterStatus o =>
      have ho := target_of_writes htruthful hwrites
      change (w.virtualClusters.updateStatus w.version o).2.find u.key = _
      rcases Store.updateStatus_cases w.virtualClusters w.version o with ⟨e, heq⟩ | ⟨current, hfind, heq⟩
      · rw [heq]
      · rw [heq]
        exact hput _ ((Store.find_keyed hfind).trans ho)
    | _ => rfl
  cases hx with
  | served call => exact hserve call hp hwrites
  | unavailable => rfl
  | lost call => exact hserve call hp hwrites
  | host => rfl

/-! ## The invariant -/

/-- Works labelled with the UID of `u` are made under its names only: by a round for `u`, as all
others have another UID. -/
theorem underOwnNames_call (hseparate : Separate u key h) (hown : UnderOwnNames u w)
    (hstep : WorksStep Γ rt key h w.works w'.works) :
    UnderOwnNames u w' := by
  have hput : ∀ {work : ManifestWork}, (work.metadata.ownerUID = u.metadata.uid →
      work.metadata.key.name = u.names.foundationWork ∨ work.metadata.key.name = u.names.instanceWork) →
      ∀ workKey o, Owns u (w.works.put work) workKey o → workKey.name = u.names.foundationWork ∨
        workKey.name = u.names.instanceWork := by
    rintro work hwork workKey o ⟨ho, howner⟩
    rw [Store.find_put] at ho
    split_ifs at ho with hat
    · cases ho
      rw [hat]
      exact hwork howner
    · exact hown workKey o ⟨ho, howner⟩
  -- who writes Works with the UID of `u` is `u`
  have hnames : ∀ {v : VirtualCluster} {workKey : NamespacedName}, Began key h v → v.metadata.uid = u.metadata.uid →
      (workKey.name = v.names.foundationWork ∨ workKey.name = v.names.instanceWork) →
      workKey.name = u.names.foundationWork ∨ workKey.name = u.names.instanceWork := by
    intro v workKey hbegan huid hname
    have hkey : key = u.key := by
      by_contra hkey
      exact (hseparate.began hkey hbegan).uid huid
    rw [names_of_same ((key_of_began hseparate.truthful hbegan).trans hkey) huid] at hname
    exact hname
  intro workKey o howns
  generalize w'.works = works' at hstep howns
  cases hstep with
  | kept => exact hown workKey o howns
  | @created v cell workKey' desired version hgate _ hwork _ =>
    obtain ⟨hlive, hname⟩ := name_of_gate hgate
    obtain ⟨hat, howner⟩ := created_work hwork version
    refine hput (fun huid => ?_) workKey o howns
    rw [hat]
    exact hnames (Or.inl hlive) (howner.symm.trans huid) hname
  | @merged v cell workKey' desired seen current version hgate _ hwork _ _ hcurrent =>
    obtain ⟨hlive, hname⟩ := name_of_gate hgate
    have hat : (mergeWork version current desired).metadata.key = workKey' := Store.find_keyed hcurrent
    refine hput (fun huid => ?_) workKey o howns
    rw [hat]
    exact hnames (Or.inl hlive) ((mergeWork_ownerUID hwork version current).symm.trans huid) hname
  | removed =>
    obtain ⟨ho, howner⟩ := howns
    rw [Store.find_remove] at ho
    split_ifs at ho
    exact hown workKey o ⟨ho, howner⟩
  | @marked v workKey' seen current version _ _ _ _ hcurrent =>
    have hat : (Store.asDeleted version current).metadata.key = seen.metadata.key := Store.find_keyed hcurrent
    refine hput (fun huid => ?_) workKey o howns
    rw [hat]
    exact hown seen.metadata.key current ⟨hcurrent, huid⟩

/-- What others do leaves the Works under their own names. -/
theorem underOwnNames_env (hown : UnderOwnNames u w) (henv : Surroundings u w w') : UnderOwnNames u w' := by
  intro workKey o howns
  cases henv with
  | @ocm works hstep =>
    obtain ⟨work, hwork, -⟩ := (EnvironmentAux.OcmStep.works hstep).1 workKey o howns
    exact hown workKey work hwork
  | delete => exact hown workKey o howns
  | others hsame => exact hown workKey o ⟨(hsame workKey o howns.2).mp howns.1, howns.2⟩

/-- A deletion puts no other object under a name. -/
theorem keeps_delete {α : Type} [Resource α] (s : Store α) (version : Nat) (key key' : NamespacedName) :
    Store.Keeps key' s (s.delete version key).2 := by
  rcases s.delete_cases version key with ⟨⟨e, heq⟩, -⟩ | ⟨current, hfind, -, ⟨-, heq⟩ | ⟨-, -, heq⟩ | ⟨-, -, heq⟩⟩
  · rw [heq]
    exact Store.Keeps.refl key' s
  · rw [heq]
    intro o ho
    rw [Store.find_remove] at ho
    split_ifs at ho
    exact ⟨o, ho, rfl⟩
  · rw [heq]
    exact Store.Keeps.refl key' s
  · rw [heq]
    have hkey : (Resource.metadata (Store.asDeleted version current)).key = key := by
      rw [Store.metadata_asDeleted]
      exact Store.find_keyed hfind
    exact Store.keeps_put current (hkey.symm ▸ hfind) (by rw [Store.metadata_asDeleted]) key'

/-- What others do leaves the object distinct. -/
theorem distinct_env (hdistinct : Distinct u w) (henv : Surroundings u w w') : Distinct u w' := by
  cases henv with
  | ocm => exact hdistinct
  | delete key => exact distinct_of_keeps hdistinct fun key' => keeps_delete _ _ _ _
  | others _ _ hdistinct' => exact hdistinct'

/-- Seen from `u`, its surroundings are an environment. -/
theorem environment_of_surroundings (henv : Surroundings u w w') : Environment u (fun _ _ => True) w w' := by
  cases henv with
  | ocm hstep => exact .ocm hstep
  | delete key =>
    by_cases hkey : key = u.key
    · subst hkey
      exact .delete
    · refine .others (fun _ _ _ => Iff.rfl) ?_ trivial
      change (w.virtualClusters.delete w.version key).2.find u.key = _
      rcases w.virtualClusters.delete_cases w.version
        key with ⟨⟨e, heq⟩, -⟩ | ⟨current, hfind, -, ⟨-, heq⟩ | ⟨-, -, heq⟩ | ⟨-, -, heq⟩⟩
      · rw [heq]
      · rw [heq, Store.find_remove, if_neg (Ne.symm hkey)]
      · rw [heq]
      · have hat : (Store.asDeleted w.version current).key = key := Store.find_keyed hfind
        rw [heq, Store.find_put, if_neg]
        intro hsame
        exact hkey (hat.symm.trans hsame.symm)
  | others hsame hfind _ => exact .others hsame hfind trivial

/-- The calls a round for a VirtualCluster may issue. -/
def Issues (Γ : Ctx) (cfg : Config) (key : NamespacedName) (h : List Event) (call : Call) : Prop :=
  (∃ rt, Permitted Γ cfg rt key h call) ∧ Writes Γ cfg key h call

/-- Among all tenants holds what the calls keep that are made on separate histories, and what the
surroundings of `u` keep. -/
theorem holds_of_kept {I : World → Prop} {init : World → Prop} (hinit : ∀ w, init w → Distinct u w ∧ I w)
    (hcall : ∀ {rt key w w' h}, Separate u key h → I w → WorksStep Γ rt key h w.works w'.works → I w')
    (henv : ∀ {w w'}, I w → Surroundings u w w' → I w')
    {s : Pool NamespacedName World Event Call Call.Res (Except Err Result)}
    (hs : Pool.Reachable (tenants Γ cfg u) init s) :
    Pool.Holds (tenants Γ cfg u) (fun w => Distinct u w ∧ I w) (fun key _ h => Separate u key h) (Issues Γ cfg) s := by
  refine Pool.invariant hinit (fun key _ _ => Separate.nil u key) ?_ ?_ ?_ hs
  · rintro key p ⟨rt, rfl⟩
    exact ((safe_reconcile Γ cfg rt key).and (grounded_reconcile Γ cfg rt key)).mono
      (fun _ _ hp => ⟨⟨rt, hp.1⟩, hp.2⟩) fun _ _ _ => trivial
  · rintro w w' hsurroundings ⟨hdistinct, hI⟩
    exact ⟨⟨distinct_env hdistinct hsurroundings, henv hI hsurroundings⟩, fun _ _ hseparate => hseparate⟩
  · rintro key w call r w' h ⟨hdistinct, hI⟩ hseparate ⟨⟨rt, hp⟩, -⟩ hx
    have hkeeps : ∀ key', w.virtualClusters.Keeps key' w'.virtualClusters := fun key' => (keeps_exec key' hx).2.1
    exact ⟨⟨distinct_of_keeps hdistinct hkeeps, hcall hseparate hI (effects_of_permitted hp hx).works⟩,
      hseparate.call hdistinct hp hx, fun _ _ _ hothers => hothers⟩

/-- All tenants keep to their own names. -/
theorem holds_tenants {init : World → Prop} (hinit : ∀ w, init w → Distinct u w ∧ UnderOwnNames u w)
    {s : Pool NamespacedName World Event Call Call.Res (Except Err Result)}
    (hs : Pool.Reachable (tenants Γ cfg u) init s) :
    Pool.Holds (tenants Γ cfg u) (fun w => Distinct u w ∧ UnderOwnNames u w) (fun key _ h => Separate u key h)
      (Issues Γ cfg) s :=
  holds_of_kept hinit underOwnNames_call underOwnNames_env hs

end TenantsAux

open TenantsAux

/-- Among the rounds for any number of other VirtualClusters, interleaved in any way, each VirtualCluster is in a state
that it reaches by itself: what is proved of one VirtualCluster and an environment is true of all tenants at once. -/
theorem tenants_project (Γ : Ctx) (cfg : Config) (u : VirtualCluster) {init : World → Prop}
    (hinit : ∀ w, init w → Distinct u w ∧ UnderOwnNames u w)
    {s : Pool NamespacedName World Event Call Call.Res (Except Err Result)}
    (hs : Pool.Reachable (tenants Γ cfg u) init s) :
    Sys.Reachable (system Γ cfg u fun _ _ => True) init ⟨s.world, s.rounds u.key⟩ := by
  refine Pool.Reachable.project (i := u.key) (fun s => holds_tenants hinit)
    (fun w w' _ => environment_of_surroundings) ?_ hs
  rintro key hkey w call r w' h ⟨-, hown⟩ hseparate ⟨⟨rt, hp⟩, hwrites⟩ hx
  exact .others (sameOwned_of_worksStep hkey hseparate hown (effects_of_permitted hp hx).works)
    (find_of_exec hkey hseparate.truthful hp hwrites hx) trivial

namespace TenantsAux

open SampleAux

/-- A second VirtualCluster, and the management cluster with both. -/
def otherCluster : VirtualCluster :=
  { DriftAux.sampleCluster with metadata.name := "other", metadata.uid := "89abcdef-bbbb" }
@[inherit_doc otherCluster] def pairWorld : World :=
  { sampleWorld DriftAux.sampleCluster [] with virtualClusters := (Store.empty.put DriftAux.sampleCluster).put otherCluster }

/-- The first calls of a round for the second one, which give it the finalizer. -/
def otherRound : World × List Event × Action (Except Err Result) :=
  Prog.drive (World.answer (sampleHost (.ok [sampleNode]) (.ok {}))) event 2 pairWorld
    (reconcile sampleCtx sampleConfig sampleRuntime otherCluster.key)

/-- The two objects of the sample are distinct. -/
theorem distinct_pairWorld :
    Distinct DriftAux.sampleCluster pairWorld ∧ UnderOwnNames DriftAux.sampleCluster pairWorld := by
  have hother : SeparateFrom DriftAux.sampleCluster otherCluster := ⟨by decide +kernel, by decide +kernel⟩
  refine ⟨fun key v hv hkey => ?_, fun key work hwork => ?_⟩
  · rw [pairWorld, Store.find_put, Store.find_put] at hv
    split_ifs at hv with hat hat'
    · cases hv
      exact hother
    · exact absurd hat' hkey
    · cases hv
  · cases hwork.1

/-- It is reached in the pool, where no round runs for the first one. -/
theorem reachable_otherRound : ∃ rounds : NamespacedName → Option (List Event × Action (Except Err Result)),
    rounds DriftAux.sampleCluster.key = none ∧ Pool.Reachable (tenants sampleCtx sampleConfig DriftAux.sampleCluster)
      (fun w => Distinct DriftAux.sampleCluster w ∧ UnderOwnNames DriftAux.sampleCluster w) ⟨otherRound.1, rounds⟩ := by
  have hother : DriftAux.sampleCluster.key ≠ otherCluster.key := by decide
  refine ⟨Function.update (fun _ => none) otherCluster.key (some otherRound.2), Function.update_of_ne hother .., ?_⟩
  have hinit : Pool.Reachable (tenants sampleCtx sampleConfig DriftAux.sampleCluster)
      (fun w => Distinct DriftAux.sampleCluster w ∧ UnderOwnNames DriftAux.sampleCluster w)
        ⟨pairWorld, fun _ => none⟩ :=
    .init distinct_pairWorld
  have hstarted := Pool.Reachable.step hinit (.start (i := otherCluster.key) rfl ⟨sampleRuntime, rfl⟩)
  rw [otherRound]
  generalize 2 = n
  exact Pool.Reachable.runs hstarted (Prog.runs_drive (World.exec_answer _) n _ _)

end TenantsAux

theorem tenants_project_sample :
    (otherRound.1.virtualClusters.find otherCluster.key).map (·.held) = some true ∧
      Sys.Reachable (system SampleAux.sampleCtx SampleAux.sampleConfig DriftAux.sampleCluster fun _ _ => True)
        (fun w => Distinct DriftAux.sampleCluster w ∧ UnderOwnNames DriftAux.sampleCluster w) ⟨otherRound.1, none⟩ := by
  refine ⟨by decide +kernel, ?_⟩
  obtain ⟨rounds, hnone, hreach⟩ := reachable_otherRound
  rw [← hnone]
  exact tenants_project _ _ _ (fun _ h => h) hreach

end KubeCell
