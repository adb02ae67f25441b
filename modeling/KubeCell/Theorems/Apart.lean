import KubeCell.Lemmas.Undisturbed
import KubeCell.Lib.Pool
import KubeCell.Semantics
import KubeCell.Theorems.DerivedNames
import KubeCell.Theorems.Snapshot

/-!
# Tenants apart on a host

Many VirtualClusters share a host, and what OCM puts there for them is what stands in their Works. Here: whatever the
rounds for all VirtualClusters do side by side, no two Works for a host ever claim one object of it, be they of two
tenants or of the same one.
-/

namespace KubeCell

open ContentAux EffectsAux MirrorAux Prog UndisturbedAux

/-! ## Objects of a host -/

/-- The kinds of objects that are put on a host. -/
inductive HostKind where
  | namespaceObject | resourceQuota | limitRange | networkPolicy | role | roleBinding
  | k3kCluster | virtualClusterPolicy | service | endpoints | ingress
  deriving DecidableEq, Repr

/-- The kind of a rendered object. -/
def Manifest.kind : Manifest → HostKind
  | .namespaceObject _ => .namespaceObject
  | .resourceQuota _ _ => .resourceQuota
  | .limitRange _ _ _ _ => .limitRange
  | .networkPolicy _ _ => .networkPolicy
  | .role _ _ _ _ => .role
  | .roleBinding _ _ _ _ => .roleBinding
  | .k3kCluster _ _ => .k3kCluster
  | .virtualClusterPolicy _ _ _ _ => .virtualClusterPolicy
  | .service _ _ _ _ => .service
  | .endpoints _ _ => .endpoints
  | .ingress _ _ _ => .ingress

/-- What a rendered object is known by on a host. -/
def Manifest.identity (m : Manifest) : HostKind × String × String := (m.kind, m.metadata.ns, m.metadata.name)

/-- The kinds that a foundation Work is made of; the others are in an instance Work. -/
def HostKind.founding : HostKind → Bool
  | .namespaceObject | .resourceQuota | .limitRange | .networkPolicy | .role | .roleBinding => true
  | .k3kCluster | .virtualClusterPolicy | .service | .endpoints | .ingress => false

/-- The object lies in the host namespace of a tenant, or is that namespace, or the policy of its K3k cluster. -/
def Manifest.BelongsTo (m : Manifest) (names : VirtualClusterNames) : Prop :=
  match m.kind with
  | .namespaceObject => m.metadata.name = names.hostNamespace
  | .virtualClusterPolicy => m.metadata.name = names.k3kCluster
  | _ => m.metadata.ns = names.hostNamespace

/-! ## Works of tenants -/

/-- The Work passes for one of KubeCell. -/
def ManifestWork.Managed (work : ManifestWork) : Prop := work.metadata.labels.get labelManagedBy = managedByKubecell

/-- The Work passes for one of the VirtualCluster. -/
structure ManifestWork.LabelledFor (work : ManifestWork) (u : VirtualCluster) : Prop where
  managed : work.Managed
  ns : work.metadata.labels.get labelVirtualClusterNamespace = u.metadata.ns
  name : work.metadata.labels.get labelVirtualClusterName = u.metadata.name
  uid : work.metadata.labels.get labelVirtualClusterUID = u.metadata.uid

/-- The names of the tenant that a Work is labelled for. -/
def ManifestWork.tenantNames (work : ManifestWork) : VirtualClusterNames :=
  namesForVirtualCluster (work.metadata.labels.get labelVirtualClusterNamespace)
    (work.metadata.labels.get labelVirtualClusterName)
    (work.metadata.labels.get labelVirtualClusterUID)

/-- A Work of that name with these objects is the foundation Work or the instance Work of a tenant, and has
only what belongs there. -/
structure Carries (names : VirtualClusterNames) (name : String) (manifests : List Manifest) : Prop where
  named : name = names.foundationWork ∨ name = names.instanceWork
  belongs : ∀ m ∈ manifests, m.BelongsTo names
  founding : ∀ m ∈ manifests, m.kind.founding = true ↔ name = names.foundationWork

/-- The Works that pass for Works of KubeCell carry only what belongs to the tenants they are labelled for. -/
def WorksConfined (w : World) : Prop :=
  ∀ key work, w.works.find key = some work → work.Managed → Carries work.tenantNames work.metadata.name work.manifests

/-- Everybody but the rounds: no Work that passes for one of KubeCell is made, and on those that stand labels and
objects are left as they are. OCM works so, and so do the rounds for Cells and plans. -/
def LeavesWorks (w w' : World) : Prop :=
  ∀ key work', w'.works.find key = some work' → work'.Managed → ∃ work, w.works.find key = some work ∧
    work'.metadata.labels = work.metadata.labels ∧ work'.manifests = work.manifests

/-- The rounds for all VirtualClusters side by side, among others that leave the Works alone. -/
def sharedHub (Γ : Ctx) (cfg : Config) : Pool.Model NamespacedName World Event Call Call.Res (Except Err Result) where
  exec := World.Exec
  obs := event
  env := LeavesWorks
  starts key p := ∃ rt, p = reconcile Γ cfg rt key

namespace ApartAux

variable {Γ : Ctx} {cfg : Config} {u v : VirtualCluster} {key : NamespacedName} {w w' : World} {h : List Event}
  {target : Target}

/-! ## What is rendered belongs to its tenant -/

/-- Names that are handed to the renderer are those of the VirtualCluster. -/
theorem carries_foundation (v : VirtualCluster) (resolved : ResolvedSnapshot) (addresses : List String) :
    Carries v.names v.names.foundationWork (renderFoundation v resolved (v.renderNames addresses)) := by
  refine ⟨Or.inl rfl, ?_, ?_⟩
  · intro m hm
    simp only [renderFoundation, List.mem_cons, List.not_mem_nil, or_false] at hm
    rcases hm with rfl | rfl | rfl | rfl | rfl | rfl | rfl | rfl | rfl <;> rfl
  · intro m hm
    simp only [renderFoundation, List.mem_cons, List.not_mem_nil, or_false] at hm
    rcases hm with rfl | rfl | rfl | rfl | rfl | rfl | rfl | rfl | rfl <;> exact iff_of_true rfl rfl

/-- What is mirrored lies in the host namespace. -/
theorem mirrored_of_source {mirrored : List Manifest} (hsource : MirrorSource cfg h v target mirrored) :
    ∀ m ∈ mirrored, m.metadata.ns = target.resolved.hostNamespace ∧
      (m.kind = .service ∨ m.kind = .endpoints ∨ m.kind = .ingress) := by
  have hrendered : ∀ {resolved : ResolvedSnapshot} {appsSuffix : String} {backends : List ChildIngressBackend},
      renderIngressMirror v resolved appsSuffix backends = .ok mirrored →
      ∀ m ∈ mirrored, m.metadata.ns = resolved.hostNamespace ∧
        (m.kind = .service ∨ m.kind = .endpoints ∨ m.kind = .ingress) := by
    intro resolved appsSuffix backends hrender
    unfold renderIngressMirror at hrender
    split_ifs at hrender
    cases hrender
    intro m hm
    rcases List.mem_append.mp hm with hm | hm
    · exact forall_mirrorBackends (P := fun m => m.metadata.ns = resolved.hostNamespace ∧
        (m.kind = .service ∨ m.kind = .endpoints ∨ m.kind = .ingress)) (fun _ _ => ⟨rfl, Or.inl rfl⟩)
        (fun _ _ => ⟨rfl, Or.inr (Or.inl rfl)⟩) backends m hm
    · obtain ⟨entry, -, rfl⟩ := List.mem_map.mp hm
      exact ⟨rfl, Or.inr (Or.inr rfl)⟩
  cases hsource with
  | missing _ _ hempty => simp [hempty]
  | unnamed _ _ hempty => simp [hempty]
  | collected _ hreaches =>
    rcases SnapshotAux.rendered_of_collected hreaches with hempty | ⟨backends, hrender⟩
    · simp [hempty]
    · exact hrendered hrender

/-- The instance Work carries what belongs to its owner. -/
theorem carries_instance (hbasis : Basis Γ key h v target) {mirrored : List Manifest}
    (hsource : MirrorSource cfg h v target mirrored) :
    Carries v.names v.names.instanceWork
      (buildInstanceWork v target.resolved target.names target.managedCluster mirrored).manifests := by
  obtain ⟨addresses, hnames⟩ := hbasis.names
  obtain ⟨-, resolved, -, -, hresolved⟩ := hbasis.resolved
  have hns : target.resolved.hostNamespace = v.names.hostNamespace := by rw [hresolved]; rfl
  have hne : ¬v.names.instanceWork = v.names.foundationWork := (foundationWork_ne_instanceWork v).symm
  have hmirrored := mirrored_of_source hsource
  refine ⟨Or.inr rfl, ?_, ?_⟩
  · intro m hm
    simp only [buildInstanceWork, List.mem_cons] at hm
    rcases hm with rfl | rfl | hm
    · rw [hnames]
      rfl
    · rw [hnames]
      rfl
    · obtain ⟨hat, hkind⟩ := hmirrored m hm
      rw [Manifest.BelongsTo]
      rcases hkind with hkind | hkind | hkind <;> rw [hkind] <;> exact hat.trans hns
  · intro m hm
    simp only [buildInstanceWork, List.mem_cons] at hm
    rcases hm with rfl | rfl | hm
    · exact iff_of_false (by simp [renderK3kCluster, Manifest.kind, HostKind.founding]) hne
    · exact iff_of_false (by simp [renderVirtualClusterPolicy, Manifest.kind, HostKind.founding]) hne
    · obtain ⟨-, hkind⟩ := hmirrored m hm
      refine iff_of_false ?_ hne
      rcases hkind with hkind | hkind | hkind <;> rw [hkind] <;> decide

/-! ## The labels of a Work -/

/-- A Work that has the labels of a VirtualCluster, perhaps among others. -/
theorem tenantNames_of_labels {work : ManifestWork} {resolved : ResolvedSnapshot}
    (hlabels : ∀ name value, AList.lookup name (v.ownedLabels resolved) = some value →
      AList.lookup name work.metadata.labels = some value) : work.tenantNames = v.names := by
  obtain ⟨-, -, hns, hname, huid, -⟩ := lookup_ownedLabels v resolved
  simp [ManifestWork.tenantNames, StringMap.get, hlabels _ _ hns, hlabels _ _ hname, hlabels _ _ huid,
    VirtualCluster.names]

/-- A Work that is written carries what belongs to its tenant, whatever stood in its place. -/
theorem carries_written {desired : ManifestWork} {resolved : ResolvedSnapshot}
    (hlabels : desired.metadata.labels = v.ownedLabels resolved)
    (hcarries : Carries v.names desired.metadata.name desired.manifests) (version : Nat) :
    Carries (Store.asCreated version desired).tenantNames desired.metadata.name desired.manifests ∧
      ∀ current, Carries (mergeWork version current desired).tenantNames desired.metadata.name desired.manifests := by
  have hnames : ∀ work : ManifestWork, (∀ name value, AList.lookup name desired.metadata.labels = some value →
      AList.lookup name work.metadata.labels = some value) →
        Carries work.tenantNames desired.metadata.name desired.manifests := by
    intro work hwork
    rw [hlabels] at hwork
    rw [tenantNames_of_labels hwork]
    exact hcarries
  exact ⟨hnames _ fun _ _ => id, fun current => hnames _ fun _ _ => lookup_merge⟩

/-- What a round writes as a Work has the labels of its VirtualCluster, and carries what belongs to it. -/
theorem desired_of_writes {call : ApiCall} (hwrites : Writes Γ cfg key h (.api call)) {desired : ManifestWork}
    (hcall : writesWork desired call) : ∃ (v : VirtualCluster) (resolved : ResolvedSnapshot),
      desired.metadata.labels = v.ownedLabels resolved ∧ Carries v.names desired.metadata.name desired.manifests := by
  have hsame : ∀ desired', writesWork desired' call → desired = desired' := by
    intro desired' hcall'
    rcases hcall with rfl | rfl <;> rcases hcall' with heq | heq <;> cases heq <;> rfl
  cases hwrites with
  | plain hplain => rcases hcall with rfl | rfl <;> cases hplain
  | status => rcases hcall with hcall | hcall <;> cases hcall
  | @foundation v target _ hbasis hcall' =>
    obtain ⟨addresses, hnames⟩ := hbasis.names
    rw [hsame _ hcall', hnames]
    exact ⟨v, target.resolved, rfl, carries_foundation v target.resolved addresses⟩
  | @instanceWork v target mirrored _ hbasis hsource hcall' =>
    obtain ⟨addresses, hnames⟩ := hbasis.names
    have hcarries := carries_instance hbasis hsource
    rw [hsame _ hcall']
    refine ⟨v, target.resolved, rfl, ?_⟩
    rw [hnames] at hcarries ⊢
    exact hcarries

/-! ## The invariant -/

/-- A Work that carries what belongs to its owner may be written. -/
theorem confined_put {works : Store ManifestWork} {work : ManifestWork}
    (hI : ∀ key work, works.find key = some work → work.Managed →
      Carries work.tenantNames work.metadata.name work.manifests)
    (hwork : work.Managed → Carries work.tenantNames work.metadata.name work.manifests) :
    ∀ key o, (works.put work).find key = some o → o.Managed → Carries o.tenantNames o.metadata.name o.manifests := by
  intro key o ho
  rw [Store.find_put] at ho
  split_ifs at ho
  · cases ho
    exact hwork
  · exact hI key o ho

/-- A call that only writes such Works leaves them confined. -/
theorem confined_serve (hI : WorksConfined w) {call : ApiCall} (hwrites : Writes Γ cfg key h (.api call)) :
    WorksConfined (w.serve call).2 := by
  cases call with
  | createWork desired =>
    obtain ⟨v, resolved, hlabels, hcarries⟩ := desired_of_writes hwrites (Or.inl rfl)
    rcases Store.create_cases w.works w.version desired with ⟨e, heq⟩ | ⟨-, heq⟩
    · rw [WorksConfined, World.serve, heq]
      exact hI
    · rw [WorksConfined, World.serve, heq]
      exact confined_put hI fun _ => (carries_written hlabels hcarries w.version).1
  | patchWork desired =>
    obtain ⟨v, resolved, hlabels, hcarries⟩ := desired_of_writes hwrites (Or.inr rfl)
    rcases Store.apply_cases w.works mergeWork w.version desired with ⟨-, heq⟩ | ⟨current, hfind, heq⟩
    · rw [WorksConfined, World.serve, heq]
      exact confined_put hI fun _ => (carries_written hlabels hcarries w.version).1
    · have hname : current.metadata.name = desired.metadata.name :=
        congrArg NamespacedName.name (Store.find_keyed hfind)
      have hmerged := (carries_written hlabels hcarries w.version).2 current
      rw [← hname] at hmerged
      rw [WorksConfined, World.serve, heq]
      exact confined_put hI fun _ => hmerged
  | deleteWork workKey =>
    rcases Store.delete_cases w.works w.version
      workKey with ⟨⟨e, heq⟩, -⟩ | ⟨current, hfind, -, ⟨-, heq⟩ | ⟨-, -, heq⟩ | ⟨-, -, heq⟩⟩
    · rw [WorksConfined, World.serve, heq]
      exact hI
    · rw [WorksConfined, World.serve, heq]
      intro key' o ho
      rw [Store.find_remove] at ho
      split_ifs at ho
      exact hI key' o ho
    · rw [WorksConfined, World.serve, heq]
      exact hI
    · rw [WorksConfined, World.serve, heq]
      exact confined_put hI (hI workKey current hfind)
  | _ => exact hI

/-- A call leaves them confined also when its answer is lost. -/
theorem confined_exec (hI : WorksConfined w) {call : Call} {r : call.Res} (hwrites : Writes Γ cfg key h call)
    (hx : World.Exec w call r w') : WorksConfined w' := by
  cases hx with
  | served call => exact confined_serve hI hwrites
  | unavailable => exact hI
  | lost call => exact confined_serve hI hwrites
  | host => exact hI

/-- So does what leaves the Works alone. -/
theorem confined_env (hI : WorksConfined w) (henv : LeavesWorks w w') : WorksConfined w' := by
  intro key work' hwork' hmanaged'
  obtain ⟨work, hwork, hlabels, hmanifests⟩ := henv key work' hwork' hmanaged'
  have hmanaged : work.Managed := by rw [ManifestWork.Managed, ← hlabels]; exact hmanaged'
  have hname : work'.metadata.name = work.metadata.name :=
    congrArg NamespacedName.name ((Store.find_keyed hwork').trans (Store.find_keyed hwork).symm)
  have hnames : work'.tenantNames = work.tenantNames := by
    rw [ManifestWork.tenantNames, hlabels, ManifestWork.tenantNames]
  rw [hname, hnames, hmanifests]
  exact hI key work hwork hmanaged

variable (Γ cfg) in
/-- The Works stay confined, whatever the rounds do side by side. -/
theorem confined_of_reachable {init : World → Prop} (hinit : ∀ w, init w → WorksConfined w)
    {s : Pool NamespacedName World Event Call Call.Res (Except Err Result)}
    (hs : Pool.Reachable (sharedHub Γ cfg) init s) :
    WorksConfined s.world := by
  refine (Pool.invariant (I := WorksConfined) (K := fun _ _ _ => True)
    (G := fun key h call => Writes Γ cfg key h call) hinit
    (fun _ _ _ => trivial) ?_ (fun w w' henv hI => ⟨confined_env hI henv, fun _ _ _ => trivial⟩)
    (fun key w call r w' h hI _ hwrites hx => ⟨confined_exec hI hwrites hx, trivial, fun _ _ _ _ => trivial⟩) hs).1
  rintro key p ⟨rt, rfl⟩
  exact grounded_reconcile Γ cfg rt key

/-! ## Two Works -/

/-- The objects of two tenants are different objects. -/
theorem identity_ne_of_apart {m m' : Manifest} (hapart : NamesApart u v) (hm : m.BelongsTo u.names)
    (hm' : m'.BelongsTo v.names) :
    m.identity ≠ m'.identity := by
  intro heq
  simp only [Manifest.identity, Prod.mk.injEq] at heq
  obtain ⟨hkind, hns, hname⟩ := heq
  rw [Manifest.BelongsTo, hkind, hns, hname] at hm
  rw [Manifest.BelongsTo] at hm'
  cases hcase : m'.kind <;> rw [hcase] at hm hm'
  case namespaceObject => exact hapart.hostNamespace (hm.symm.trans hm')
  case virtualClusterPolicy => exact hapart.k3kCluster (hm.symm.trans hm')
  all_goals exact hapart.hostNamespace (hm.symm.trans hm')

/-- The objects of the two Works of a tenant are of different kinds. -/
theorem identity_ne_of_names {names : VirtualClusterNames} {name name' : String}
    {manifests manifests' : List Manifest} (hcarries : Carries names name manifests)
    (hcarries' : Carries names name' manifests') (hne : name ≠ name') {m m' : Manifest} (hm : m ∈ manifests)
    (hm' : m' ∈ manifests') : m.identity ≠ m'.identity := by
  intro heq
  have hkind : m.kind = m'.kind := congrArg Prod.fst heq
  have hfounding := hcarries.founding m hm
  rw [hkind, hcarries'.founding m' hm'] at hfounding
  rcases hcarries.named with hname | hname
  · exact hne (hname.trans (hfounding.mpr hname).symm)
  · rcases hcarries'.named with hname' | hname'
    · exact hne ((hfounding.mp hname').trans hname'.symm)
    · exact hne (hname.trans hname'.symm)

/-- The labels of a Work tell the names of its owner. -/
theorem tenantNames_of_labelledFor {work : ManifestWork} (hlabelled : work.LabelledFor u) :
    work.tenantNames = u.names := by
  rw [ManifestWork.tenantNames, hlabelled.ns, hlabelled.name, hlabelled.uid, VirtualCluster.names]

end ApartAux

open ApartAux in
/-- In every state that the rounds for all VirtualClusters reach side by side, two Works for a host claim no object of
it both: not when they are of two VirtualClusters whose UIDs start differently, and not when they are of one. -/
theorem host_objects_apart (Γ : Ctx) (cfg : Config) {init : World → Prop} (hinit : ∀ w, init w → WorksConfined w)
    {s : Pool NamespacedName World Event Call Call.Res (Except Err Result)}
    (hs : Pool.Reachable (sharedHub Γ cfg) init s) {u v : VirtualCluster} (hu : u.Stored) (hv : v.Stored)
    (htenants : u = v ∨ u.uidStart ≠ v.uidStart) {managedCluster name name' : String} (hne : name ≠ name')
    {work work' : ManifestWork} (hwork : s.world.works.find ⟨managedCluster, name⟩ = some work)
    (hwork' : s.world.works.find ⟨managedCluster, name'⟩ = some work') (hlabelled : work.LabelledFor u)
    (hlabelled' : work'.LabelledFor v) :
    (∀ m ∈ work.manifests, m.BelongsTo u.names) ∧ ∀ m ∈ work.manifests, ∀ m' ∈ work'.manifests,
      m.identity ≠ m'.identity := by
  have hI := confined_of_reachable Γ cfg hinit hs
  have hcarries := hI _ work hwork hlabelled.managed
  have hcarries' := hI _ work' hwork' hlabelled'.managed
  have hname : work.metadata.name = name := congrArg NamespacedName.name (Store.find_keyed hwork)
  have hname' : work'.metadata.name = name' := congrArg NamespacedName.name (Store.find_keyed hwork')
  rw [tenantNames_of_labelledFor hlabelled, hname] at hcarries
  rw [tenantNames_of_labelledFor hlabelled', hname'] at hcarries'
  refine ⟨hcarries.belongs, fun m hm m' hm' => ?_⟩
  rcases htenants with rfl | hstart
  · exact identity_ne_of_names hcarries hcarries' hne hm hm'
  · exact identity_ne_of_apart (DerivedNamesAux.namesApart hu hv hstart) (hcarries.belongs m hm)
      (hcarries'.belongs m' hm')

namespace ApartAux

open SampleAux

/-- Two VirtualClusters that carry the finalizer, and the management cluster with both. -/
def firstTenant : VirtualCluster :=
  { DriftAux.sampleCluster with
    metadata.uid := "01234567-89ab-4cde-8f01-23456789abcd", metadata.finalizers := [virtualClusterFinalizer] }
@[inherit_doc firstTenant] def secondTenant : VirtualCluster :=
  { firstTenant with metadata.name := "other", metadata.uid := "76543210-89ab-4cde-8f01-23456789abcd" }
@[inherit_doc firstTenant] def sharedWorld : World :=
  { sampleWorld firstTenant [] with virtualClusters := (Store.empty.put firstTenant).put secondTenant }

/-- A round up to where the foundation Work has been written. -/
def founding (w : World) (v : VirtualCluster) : World × List Event × Action (Except Err Result) :=
  Prog.drive (World.answer (sampleHost (.ok [sampleNode]) (.ok {}))) event 7 w
    (reconcile sampleCtx sampleConfig sampleRuntime v.key)

/-- The world after such a round for each. -/
def sharedAfter : World := (founding (founding sharedWorld firstTenant).1 secondTenant).1

/-- The two VirtualClusters of the sample may be stored, and have other UIDs. -/
theorem stored_tenants : firstTenant.Stored ∧ secondTenant.Stored ∧ firstTenant.uidStart ≠ secondTenant.uidStart := by
  refine ⟨⟨by decide +kernel, by decide +kernel, by decide +kernel⟩,
    ⟨by decide +kernel, by decide +kernel, by decide +kernel⟩, ?_⟩
  decide +kernel

/-- The first calls of a round of a tenant are reachable. -/
theorem reachable_founding {w : World} {rounds : NamespacedName → Option (List Event × Action (Except Err Result))}
    {v : VirtualCluster} (hs : Pool.Reachable (sharedHub sampleCtx sampleConfig) WorksConfined ⟨w, rounds⟩)
    (hnone : rounds v.key = none) :
    Pool.Reachable (sharedHub sampleCtx sampleConfig) WorksConfined
      ⟨(founding w v).1, Function.update rounds v.key (some (founding w v).2)⟩ := by
  have hstarted := Pool.Reachable.step hs (.start hnone ⟨sampleRuntime, rfl⟩)
  rw [founding]
  generalize 7 = n
  exact Pool.Reachable.runs hstarted (Prog.runs_drive (World.exec_answer _) n _ _)

/-- So are those of both tenants of the sample. -/
theorem reachable_sharedAfter :
    ∃ rounds, Pool.Reachable (sharedHub sampleCtx sampleConfig) WorksConfined ⟨sharedAfter, rounds⟩ := by
  have hconfined : WorksConfined sharedWorld := by
    intro key work hwork
    cases hwork
  have hne : secondTenant.key ≠ firstTenant.key := by decide
  have hfirst := reachable_founding (v := firstTenant) (.init hconfined) rfl
  exact ⟨_, reachable_founding hfirst (Function.update_of_ne hne ..)⟩

/-- The foundation Work of a tenant, after both rounds. -/
def foundationOf (v : VirtualCluster) : Option ManifestWork :=
  sharedAfter.works.find ⟨readyCell.spec.managedClusterRef.name, v.names.foundationWork⟩

/-- It stands, with nine objects, and is labelled for the tenant. -/
theorem exists_foundationOf (v : VirtualCluster) (hv : v = firstTenant ∨ v = secondTenant) :
    ∃ work, foundationOf v = some work ∧ work.LabelledFor v ∧ work.manifests.length = 9 := by
  have hlabels : ∀ v ∈ [firstTenant, secondTenant], (foundationOf v).map (fun work =>
      (work.metadata.labels.get labelManagedBy, work.metadata.labels.get labelVirtualClusterNamespace,
        work.metadata.labels.get labelVirtualClusterName, work.metadata.labels.get labelVirtualClusterUID,
          work.manifests.length)) =
      some (managedByKubecell, v.metadata.ns, v.metadata.name, v.metadata.uid, 9) := by
    simp only [List.forall_mem_cons, List.not_mem_nil, false_implies, implies_true, and_true]
    exact ⟨by decide +kernel, by decide +kernel⟩
  obtain ⟨work, hwork, heq⟩ := Option.map_eq_some_iff.mp (hlabels v (by simpa using hv))
  simp only [Prod.mk.injEq] at heq
  obtain ⟨hmanaged, hns, hname, huid, hlength⟩ := heq
  exact ⟨work, hwork, ⟨hmanaged, hns, hname, huid⟩, hlength⟩

end ApartAux

open ApartAux in
theorem host_objects_apart_sample :
    ∃ work work', foundationOf firstTenant = some work ∧ foundationOf secondTenant = some work' ∧
    work.manifests.length = 9 ∧ work'.manifests.length = 9 ∧ (∀ m ∈ work.manifests, m.BelongsTo firstTenant.names) ∧
    ∀ m ∈ work.manifests, ∀ m' ∈ work'.manifests, m.identity ≠ m'.identity := by
  obtain ⟨rounds, hreach⟩ := reachable_sharedAfter
  obtain ⟨hfirst, hsecond, hstart⟩ := stored_tenants
  obtain ⟨work, hwork, hlabelled, hlength⟩ := exists_foundationOf firstTenant (Or.inl rfl)
  obtain ⟨work', hwork', hlabelled', hlength'⟩ := exists_foundationOf secondTenant (Or.inr rfl)
  have hne : firstTenant.names.foundationWork ≠ secondTenant.names.foundationWork := by decide +kernel
  obtain ⟨hbelongs, hapart⟩ := host_objects_apart SampleAux.sampleCtx SampleAux.sampleConfig
    (fun _ h => h) hreach hfirst hsecond
    (Or.inr hstart) hne hwork hwork' hlabelled hlabelled'
  exact ⟨work, work', hwork, hwork', hlength, hlength', hbelongs, hapart⟩

end KubeCell
