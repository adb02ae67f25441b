import KubeCell.Lemmas.Anchored
import KubeCell.Lemmas.Content
import KubeCell.Lemmas.Mirror
import KubeCell.Theorems.Drift
import KubeCell.Theorems.Ready

/-!
# The snapshot is frozen

What a VirtualCluster was resolved to is kept in its status, and later rounds go on only while they resolve to the
same. The two are compared field by field; what is rendered of the quota is how its quantities print, and of that
only the fingerprint tells.
-/

namespace KubeCell

open AnchoredAux EffectsAux MirrorAux ResolutionAux RoundAux

/-! ## Works that are the same -/

/-- Two rendered objects are equal; maps are equal when they have the same entries. -/
inductive Manifest.Equal : Manifest → Manifest → Prop where
  | refl (m : Manifest) : Manifest.Equal m m
  | resourceQuota (metadata : ObjectMeta) {hard hard' : StringMap} :
    (∀ name, AList.lookup name hard = AList.lookup name hard') →
      Manifest.Equal (.resourceQuota metadata hard) (.resourceQuota metadata hard')
  | virtualClusterPolicy (metadata : ObjectMeta) (allowedMode level : String) {hard hard' : StringMap} :
      (∀ name, AList.lookup name hard = AList.lookup name hard') →
      Manifest.Equal (.virtualClusterPolicy metadata allowedMode hard level)
        (.virtualClusterPolicy metadata allowedMode hard' level)

/-- The rule for the API of the host, without the addresses. -/
def NetworkPolicyRule.withoutAddresses (rule : NetworkPolicyRule) : NetworkPolicyRule :=
  if rule.ports = some [⟨"TCP", 6443⟩] then
    { rule with
      peers := rule.peers.map fun peers => peers.filter fun
        | .ipBlock _ => false
        | .podSelector _ => true }
  else rule

/-- A manifest without the peers of the agents' egress that come from the addresses of the host. -/
def Manifest.withoutPeers : Manifest → Option Manifest
  | .networkPolicy metadata spec =>
    if metadata.name = "kubecell-shared-agent-egress" then
      some (.networkPolicy metadata { spec with egress := spec.egress.map fun rules => rules.map (·.withoutAddresses) })
    else some (.networkPolicy metadata spec)
  | m => some m

/-- A manifest without the server arguments that come from the addresses of the host; nothing of a
mirrored object is left. -/
def Manifest.withoutMirror : Manifest → Option Manifest
  | .k3kCluster metadata spec =>
    some (.k3kCluster metadata { spec with serverArgs := spec.serverArgs.filter fun argument => !hasPrefix argument "--tls-san=" })
  | .service _ _ _ _ | .endpoints _ _ | .ingress _ _ _ => none
  | m => some m

/-- Two Works are equal, except for what `keep` takes away. -/
structure SameWork (keep : Manifest → Option Manifest) (work work' : ManifestWork) : Prop where
  metadata : work.metadata = work'.metadata
  manifests : List.Forall₂ Manifest.Equal (work.manifests.filterMap keep) (work'.manifests.filterMap keep)
  manifestConfigs : work.manifestConfigs = work'.manifestConfigs
  conditions : work.conditions = work'.conditions

/-! ## Runs -/

/-- Others do what they want, but leave the identity, the specification and the snapshot of `u`
alone while it is there. -/
def Spares (u : VirtualCluster) (w w' : World) : Prop :=
  ∀ v', w'.virtualClusters.find u.key = some v' →
    ∃ v, w.virtualClusters.find u.key = some v ∧ Same v v' ∧ v'.status.resolved = v.status.resolved

/-- The VirtualCluster under the name of `u` is `u`. -/
def IsCluster (u : VirtualCluster) (w : World) : Prop := ∀ v, w.virtualClusters.find u.key = some v → Same u v

/-- The VirtualCluster under the name of `u` is `u`, and was resolved to the snapshot. -/
def Settled (u : VirtualCluster) (snapshot : ResolvedSnapshot) (w : World) : Prop :=
  ∀ v, w.virtualClusters.find u.key = some v → Same u v ∧ v.status.resolved = snapshot

/-- The Cells that were read in a history. -/
def cellsRead (h : List Event) : List Cell :=
  h.filterMap fun
    | ⟨.api (.getCell _), .ok cell⟩ => some cell
    | _ => none

/-- The classes that were read in a history. -/
def classesRead (h : List Event) : List VirtualNodeClass :=
  h.filterMap fun
    | ⟨.api (.getVirtualNodeClass _), .ok virtualNodeClass⟩ => some virtualNodeClass
    | _ => none

/-- The texts whose hashes a round of this history may compare: the fingerprints of the Cells with the classes. -/
def fingerprintsRead (h : List Event) : List String :=
  (cellsRead h).flatMap fun cell => (classesRead h).map (fingerprintOf cell)

/-- The hash is free of collisions between the fingerprints of two histories. -/
def CollisionFreeReads (Γ : Ctx) (h h' : List Event) : Prop :=
  ∀ text ∈ fingerprintsRead h, ∀ text' ∈ fingerprintsRead h', profileHash Γ text = profileHash Γ text' → text = text'

/-- The Work that a round is about to write. -/
def workToWrite : Action (Except Err Result) → Option ManifestWork
  | .call (.api (.createWork desired)) _ | .call (.api (.patchWork desired)) _ => some desired
  | _ => none

namespace SnapshotAux

/-! ## What the fingerprint tells -/

/-- The lines of a fingerprint before those of the quota. -/
def profileLines (machineProfile : MachineProfile) (storageClass : String) : List (List Char) :=
  [("profile=" ++ machineProfile.name).toList, ("storage=" ++ storageClass).toList] ++
    machineProfile.devices.map fun device => ("device=" ++ device.name ++ "/" ++ device.resourceName).toList

/-- The lines of the quota. -/
def quotaLines (keys : List String) (quota : ResourceList) : List (List Char) :=
  keys.map fun key => (key ++ "=").toList ++ (quota.qty key).string.toList

/-- A fingerprint is of these lines. -/
theorem fingerprintText_toList (machineProfile : MachineProfile) (quota : ResourceList) (storageClass : String) :
    (fingerprintText machineProfile quota storageClass).toList =
      ['\n'].intercalate (profileLines machineProfile storageClass ++ quotaLines (sortStrings quota.keys) quota) := by
  simp [fingerprintText, profileLines, quotaLines, String.toList_intercalate, Function.comp_def]

/-- Two quotas with the same values have the same fingerprint, in whatever profiles, only if they print alike. -/
theorem printsSame_of_fingerprint {machineProfile machineProfile' : MachineProfile} {quota quota' : ResourceList}
    {storageClass storageClass' : String} (hvalues : ResourceList.semanticEqual quota quota' = true)
    (htext : fingerprintText machineProfile quota storageClass = fingerprintText machineProfile' quota' storageClass') :
    PrintsSame quota quota' := by
  rw [ResourceList.semanticEqual_iff] at hvalues
  have hkeys : sortStrings quota.keys = sortStrings quota'.keys :=
    sortStrings_eq_of_perm (ResourceList.keys_perm_of_lookup
      fun name => by simpa using congrArg Option.isSome (hvalues name))
  have hstring : ∀ q : ResourceList, ∀ key ∈ sortStrings quota.keys, '\n' ∉ (q.qty key).string.toList :=
    fun q key _ => Quantity.newline_not_mem_string _
  -- the quota is what stands after as many line ends as its keys make up
  have hquota : ∀ key ∈ sortStrings quota.keys, (quota.qty key).string.toList = (quota'.qty key).string.toList := by
    intro key hkey
    have hne : ∀ q : ResourceList, quotaLines (sortStrings quota.keys) q ≠ [] := by
      intro q hnil
      rw [List.map_eq_nil_iff.mp hnil] at hkey
      nomatch hkey
    have hlines := congrArg String.toList htext
    rw [fingerprintText_toList, fingerprintText_toList, ← hkeys, intercalate_append _ (by simp [profileLines]) (hne _),
      intercalate_append _ (by simp [profileLines]) (hne _)] at hlines
    have hcount : ∀ q : ResourceList, (['\n'].intercalate (quotaLines (sortStrings quota.keys) q)).count '\n' =
        (['\n'].intercalate ((sortStrings quota.keys).map fun key => (key ++ "=").toList)).count '\n' :=
      fun q => count_intercalate_values _ (hstring q)
    have hsame := eq_of_append_sep_count hlines ((hcount quota).trans (hcount quota').symm)
    exact intercalate_values_inj (fun key hkey => ⟨hstring quota key hkey, hstring quota' key hkey⟩) hsame key hkey
  intro name
  have hvalue := hvalues name
  cases hlookup : AList.lookup name quota with
  | none =>
    rw [hlookup] at hvalue
    rw [Option.map_eq_none_iff.mp hvalue.symm]
  | some q =>
    rw [hlookup] at hvalue
    obtain ⟨q', hlookup', -⟩ := Option.map_eq_some_iff.mp hvalue.symm
    have hmem : name ∈ sortStrings quota.keys :=
      mem_sortStrings.mpr (AList.mem_keys.mp (AList.lookup_isSome.mp (by simp [hlookup])))
    have hprint := hquota name hmem
    simp only [ResourceList.qty, hlookup, hlookup', Option.getD_some, String.toList_inj] at hprint
    simp [hlookup', hprint]

/-! ## What the Works are built from -/

/-- The server arguments that do not come from the addresses are the platform's. -/
theorem serverArgs_withoutAddresses (addresses : List String) :
    (serverArgs addresses).filter (fun argument => !hasPrefix argument "--tls-san=") = Platform.serverArgs := by
  refine List.foldlRecOn (motive := fun arguments : List String =>
    arguments.filter (fun argument => !hasPrefix argument "--tls-san=") = Platform.serverArgs) addresses _
      (by decide +kernel) ?_
  intro arguments hfilter address _
  split_ifs
  · exact hfilter
  · rw [List.filter_append, hfilter]
    simp [hasPrefix_append]

/-- Nothing is left of a mirror. -/
theorem withoutMirror_of_rendered {v : VirtualCluster} {resolved : ResolvedSnapshot} {appsSuffix : String}
    {backends : List ChildIngressBackend} {objects : List Manifest}
    (h : renderIngressMirror v resolved appsSuffix backends = .ok objects) :
    objects.filterMap Manifest.withoutMirror = [] := by
  unfold renderIngressMirror at h
  split_ifs at h
  cases h
  rw [List.filterMap_append, List.append_eq_nil_iff, List.filterMap_eq_nil_iff, List.filterMap_eq_nil_iff]
  constructor
  · exact forall_mirrorBackends (fun _ _ => rfl) (fun _ _ => rfl) backends
  · intro m hm
    obtain ⟨entry, -, rfl⟩ := List.mem_map.mp hm
    rfl

/-- What two rounds render is the same: all but the addresses of the host. -/
structure SameBasis (v v' : VirtualCluster) (target target' : Target) : Prop where
  names : v.names = v'.names
  labels : v.ownedLabels target.resolved = v'.ownedLabels target'.resolved
  uid : v.metadata.uid = v'.metadata.uid
  managedCluster : target.managedCluster = target'.managedCluster
  profileName : target.resolved.machineProfileName = target'.resolved.machineProfileName
  storage : target.resolved.storage = target'.resolved.storage
  acceleratorKeys : target.resolved.acceleratorKeys = target'.resolved.acceleratorKeys
  childVersion : target.resolved.k3kChildVersion = target'.resolved.k3kChildVersion
  quota : PrintsSame target.resolved.quota target'.resolved.quota

section

variable {v v' : VirtualCluster} {target target' : Target}

/-- The quotas of both are rendered alike. -/
theorem SameBasis.hard (hsame : SameBasis v v' target target') (name : String) :
    AList.lookup name (quantityMap target.resolved.quota) = AList.lookup name (quantityMap target'.resolved.quota) := by
  rw [lookup_quantityMap, lookup_quantityMap]
  exact hsame.quota name

/-- Without the peers a foundation is rendered as for a host without addresses. -/
theorem renderFoundation_withoutPeers (v : VirtualCluster) (resolved : ResolvedSnapshot) (addresses : List String) :
    (renderFoundation v resolved (v.renderNames addresses)).filterMap Manifest.withoutPeers =
      renderFoundation v resolved (v.renderNames []) := by
  have hpeers : (ipPeers addresses).filter (fun | .ipBlock _ => false | .podSelector _ => true) = [] := by
    rw [List.filter_eq_nil_iff]
    intro peer hpeer
    obtain ⟨address, -, rfl⟩ := List.mem_map.mp hpeer
    simp
  have hnone : ipPeers [] = [] := rfl
  simp [renderFoundation, Manifest.withoutPeers, NetworkPolicyRule.withoutAddresses, tcpRule, hpeers, hnone, objectMeta,
    VirtualCluster.renderNames]

/-- Two foundation Works of the same basis are the same without the peers. -/
theorem sameWork_foundation (hsame : SameBasis v v' target target') {addresses addresses' : List String}
    (hnames : target.names = v.renderNames addresses) (hnames' : target'.names = v'.renderNames addresses') :
    SameWork Manifest.withoutPeers (buildFoundationWork v target.resolved target.names target.managedCluster)
      (buildFoundationWork v' target'.resolved target'.names target'.managedCluster) := by
  have hrendered : v.renderNames [] = v'.renderNames [] := by
    rw [VirtualCluster.renderNames, hsame.names, VirtualCluster.renderNames]
  refine ⟨?_, ?_, by simp only [buildFoundationWork], by simp only [buildFoundationWork]⟩
  · simp only [buildFoundationWork, workLabels, hnames, hnames', VirtualCluster.renderNames, hsame.names, hsame.labels,
      hsame.managedCluster]
  · rw [buildFoundationWork, buildFoundationWork, hnames, hnames', renderFoundation_withoutPeers,
      renderFoundation_withoutPeers,
      hrendered]
    simp only [renderFoundation, hsame.labels, hsame.uid, hsame.profileName, hsame.storage, hsame.acceleratorKeys]
    refine .cons (.refl _) (.cons (.resourceQuota _ hsame.hard) ?_)
    exact List.forall₂_same.mpr fun m _ => .refl m

/-- Two instance Works of the same basis are the same without the arguments and the mirrors. -/
theorem sameWork_instance (hsame : SameBasis v v' target target') {addresses addresses' : List String}
    {mirrored mirrored' : List Manifest} (hnames : target.names = v.renderNames addresses)
    (hnames' : target'.names = v'.renderNames addresses') (hmirrored : mirrored.filterMap Manifest.withoutMirror = [])
    (hmirrored' : mirrored'.filterMap Manifest.withoutMirror = []) :
    SameWork Manifest.withoutMirror (buildInstanceWork v target.resolved target.names target.managedCluster mirrored)
      (buildInstanceWork v' target'.resolved target'.names target'.managedCluster mirrored') := by
  refine ⟨?_, ?_, ?_, by simp only [buildInstanceWork]⟩
  · simp only [buildInstanceWork, workLabels, hnames, hnames', VirtualCluster.renderNames, hsame.names, hsame.labels,
      hsame.managedCluster]
  · simp only [buildInstanceWork, renderK3kCluster, renderVirtualClusterPolicy, workLabels, Manifest.withoutMirror,
      List.filterMap_cons,
      hmirrored, hmirrored', serverArgs_withoutAddresses, hnames, hnames', VirtualCluster.renderNames,
        hsame.names, hsame.labels,
      hsame.childVersion, hsame.storage]
    exact .cons (.refl _) (.cons (.virtualClusterPolicy _ _ _ hsame.hard) .nil)
  · simp only [buildInstanceWork, instanceFeedback, hnames, hnames', VirtualCluster.renderNames, hsame.names]

end

/-- What a round has settled on, when the VirtualCluster was resolved before: it is the snapshot, and its fingerprint
is of what the round has read. -/
structure Matches (Γ : Ctx) (h : List Event) (snapshot : ResolvedSnapshot) (target : Target) : Prop where
  same : sameResolvedProvider snapshot target.resolved = true
  managedCluster : target.resolved.managedClusterName = target.managedCluster
  read : ∃ virtualNodeClass, fingerprintOf target.cell virtualNodeClass ∈ fingerprintsRead h ∧
    target.resolved.profileHash = profileHash Γ (fingerprintOf target.cell virtualNodeClass) ∧
    target.resolved.quota = virtualNodeClass.spec.workloadHard

variable {Γ : Ctx} {cfg : Config} {rt : Runtime} {u v v' : VirtualCluster} {snapshot : ResolvedSnapshot}
  {target target' : Target} {h h' : List Event} {e : Event} {w w' : World}

/-- A round that has settled on something matches the snapshot. -/
theorem matches_of_basis {key : NamespacedName} (hbasis : Basis Γ key h v target)
    (hresolved : v.status.resolved = snapshot)
    (hsnapshot : snapshot.hostNamespace ≠ "") : Matches Γ h snapshot target := by
  obtain ⟨virtualNodeClass, resolved, hclass, hresolves, htarget⟩ := hbasis.resolved
  obtain ⟨-, rfl⟩ := (resolveVirtualCluster_ok_iff _ _ _ _).mp hresolves
  have hcell : target.cell ∈ cellsRead h := List.mem_filterMap.mpr ⟨_, hbasis.readCell, rfl⟩
  have hclass' : virtualNodeClass ∈ classesRead h := List.mem_filterMap.mpr ⟨_, hclass, rfl⟩
  refine ⟨?_, ?_, virtualNodeClass, List.mem_flatMap.mpr ⟨_, hcell, List.mem_map_of_mem hclass'⟩, ?_, ?_⟩
  · rw [← hresolved]
    exact hbasis.same.resolve_left (hresolved ▸ hsnapshot)
  all_goals
    rw [htarget]
    simp only [VirtualCluster.snapshot, resolvedOf, profileFingerprint, fingerprintOf, Target.managedCluster]

/-- Two rounds that match the same snapshot render the same, if their fingerprints do not collide. -/
theorem sameBasis_of_matches (hv : Same u v) (hv' : Same u v') (hmatches : Matches Γ h snapshot target)
    (hmatches' : Matches Γ h' snapshot target') (hfree : CollisionFreeReads Γ h h') :
    SameBasis v v' target target' := by
  have hsame := hmatches.same
  have hsame' := hmatches'.same
  simp only [sameResolvedProvider, Bool.and_eq_true, beq_iff_eq, and_assoc] at hsame hsame'
  obtain ⟨-, hmanaged, -, hhash, hprofile, -, -, hchild, -, -, -, hquota, -, hstorage, haccelerators, -, -⟩ := hsame
  obtain ⟨-, hmanaged', -, hhash', hprofile', -, -, hchild', -, -, -, hquota', -, hstorage',
    haccelerators', -, -⟩ := hsame'
  have hhashes : target.resolved.profileHash = target'.resolved.profileHash := hhash.symm.trans hhash'
  have hname := congrArg NamespacedName.name (hv.key.trans hv'.key.symm)
  have hns := congrArg NamespacedName.ns (hv.key.trans hv'.key.symm)
  have huid : v.metadata.uid = v'.metadata.uid := hv.uid.trans hv'.uid.symm
  refine ⟨(Same.names hv).trans (Same.names hv').symm, ?_, huid, ?_, hprofile.symm.trans hprofile',
    hstorage.symm.trans hstorage',
    haccelerators.symm.trans haccelerators', hchild.symm.trans hchild', ?_⟩
  · rw [VirtualCluster.ownedLabels, VirtualCluster.ownedLabels, hv.spec, hv'.spec, huid, hhashes]
    exact congrArg₂ (fun ns name =>
      ownedHostLabels u.spec.cellRef.name ns name v'.metadata.uid target'.resolved.profileHash) hns hname
  · rw [← hmatches.managedCluster, ← hmatches'.managedCluster, ← hmanaged, ← hmanaged']
  · -- the values are those of the snapshot, and the fingerprints are of the same text
    obtain ⟨virtualNodeClass, hread, hprint, hhard⟩ := hmatches.read
    obtain ⟨virtualNodeClass', hread', hprint', hhard'⟩ := hmatches'.read
    have htext := hfree _ hread _ hread' (by rw [← hprint, ← hprint', hhashes])
    have hvalues : ResourceList.semanticEqual target.resolved.quota target'.resolved.quota = true := by
      rw [ResourceList.semanticEqual_iff] at hquota hquota' ⊢
      exact fun name => (hquota name).symm.trans (hquota' name)
    rw [hhard, hhard'] at hvalues ⊢
    exact printsSame_of_fingerprint hvalues htext

/-! ## The snapshot over a run -/

theorem Same.trans {x y z : VirtualCluster} (hxy : Same x y) (hyz : Same y z) : Same x z :=
  ⟨hyz.key.trans hxy.key, hyz.uid.trans hxy.uid, hyz.spec.trans hxy.spec⟩

/-- Others do not change who is who. -/
theorem Identity.spares (hid : Identity u w h) (hspares : Spares u w w') : Identity u w' h := by
  refine ⟨fun v' hv' => ?_, hid.read, hid.updated, hid.works, hid.secrets⟩
  obtain ⟨v, hv, hsame, -⟩ := hspares v' hv'
  exact Same.trans (hid.stored v hv) hsame

/-- Others leave the snapshot settled. -/
theorem Settled.spares (hsettled : Settled u snapshot w) (hspares : Spares u w w') : Settled u snapshot w' := by
  intro v' hv'
  obtain ⟨v, hv, hsame, hresolved⟩ := hspares v' hv'
  exact ⟨Same.trans (hsettled v hv).1 hsame, hresolved.trans (hsettled v hv).2⟩

/-- The VirtualCluster whose status a round is about to write. -/
def Working (key : NamespacedName) (h : List Event) (v : VirtualCluster) : Prop :=
  Live key h v ∧ Unwritten h ∨ Doomed key h v

/-- A round that works with the snapshot ends with it. -/
theorem resolved_of_exit (hsnapshot : snapshot.hostNamespace ≠ "")
    (hworking : ∀ v, Working u.key h v → v.status.resolved = snapshot)
    {h₀ tail : List Event} {status : VirtualClusterStatus} (hh : h = h₀ ++ tail) (htry : ∀ e ∈ tail, isTry e = true)
    (hexit : Exit Γ cfg rt u.key h₀ status) : status.resolved = snapshot := by
  subst hh
  cases hexit with
  | @live v hlive hnone hfrom _ _ =>
    have hunwritten := unwritten_of_tries hnone htry
    have hresolved := hworking v (Or.inl ⟨Live.append hlive tail, hunwritten⟩)
    rcases hfrom with heq | ⟨hempty, -⟩
    · exact heq.trans hresolved
    · rw [hresolved] at hempty
      exact absurd hempty hsnapshot
  | doomed hdoomed hresolved _ => exact hresolved.trans (hworking _ (Or.inr (Doomed.append hdoomed tail)))

/-- A call of a round that works with the snapshot, if the VirtualCluster is there, leaves it settled. -/
theorem Settled.call (hsettled : Settled u snapshot w) (hsnapshot : snapshot.hostNamespace ≠ "") (hid : Identity u w h)
    (hworking : ∀ current, w.virtualClusters.find u.key = some current → ∀ v, Working u.key h v →
      v.status.resolved = snapshot)
    (heffects : Effects Γ rt u.key h cfg e w w') : Settled u snapshot w' := by
  intro v' hv'
  refine ⟨Identity.stored_step hid heffects v' hv', ?_⟩
  cases clusterStep_of_clusters hid heffects.clusters with
  | kept heq => exact (hsettled v' (heq ▸ hv')).2
  | adopted _ _ _ hbefore hafter _ hstatus =>
    rw [Option.some.inj (hv'.symm.trans hafter), hstatus]
    exact (hsettled _ hbefore).2
  | persisted hh htry hexit hbefore hafter _ _ _ =>
    rw [Option.some.inj (hv'.symm.trans hafter)]
    exact resolved_of_exit hsnapshot (hworking _ hbefore) hh htry hexit
  | released _ _ _ _ _ hafter =>
    obtain ⟨-, current, hbefore, hstatus⟩ := hafter v' hv'
    rw [hstatus]
    exact (hsettled current hbefore).2

/-- What a round works with, whatever it is, is still stored, if the VirtualCluster is there. -/
structure Tracked (u : VirtualCluster) (w : World) (h : List Event) : Prop where
  identity : Identity u w h
  stored : ∀ v, Working u.key h v → ∀ current, w.virtualClusters.find u.key = some current →
    current.status.resolved = v.status.resolved

/-- Steps of others leave the round on its track. -/
theorem Tracked.spares (htracked : Tracked u w h) (hspares : Spares u w w') : Tracked u w' h := by
  refine ⟨Identity.spares htracked.identity hspares, fun v hworking v' hv' => ?_⟩
  obtain ⟨current, hcurrent, -, hresolved⟩ := hspares v' hv'
  exact hresolved.trans (htracked.stored v hworking current hcurrent)

/-- A call leaves the round on its track. -/
theorem Tracked.call (htracked : Tracked u w h) {call : Call} {r : call.Res} (hp : Permitted Γ cfg rt u.key h call)
    (hx : World.Exec w call r w') : Tracked u w' (h ++ [event call r]) := by
  have hid := htracked.identity
  refine ⟨Identity.step hid hp hx, fun v hworking v' hv' => ?_⟩
  have hold : Working u.key h v ∨ w'.virtualClusters.find u.key = some v := by
    rcases hworking with ⟨hlive, hunwritten⟩ | hdoomed
    · refine (stays_of_live hid hp hx hlive).imp (fun hlive => Or.inl ⟨hlive, ?_⟩) And.left
      exact fun o answer hsaw => hunwritten o answer (Saw.append hsaw _)
    · exact (find_of_doomed hx hdoomed).imp_left Or.inr
  rcases hold with hold | hstored
  · cases clusterStep_of_clusters hid (effects_of_permitted hp hx).clusters with
    | kept heq => exact htracked.stored v hold v' (heq ▸ hv')
    | adopted _ _ _ hbefore hafter _ hstatus =>
      rw [Option.some.inj (hv'.symm.trans hafter), hstatus]
      exact htracked.stored v hold _ hbefore
    | @persisted h₀ tail current after hh htry hexit hbefore hafter _ hwrite hwritten =>
      -- the status has been written just now, so the round is one of a deletion
      obtain rfl : after = v' := Option.some.inj (hafter.symm.trans hv')
      obtain ⟨o, answer, he⟩ := hwrite
      rcases hworking with ⟨-, hunwritten⟩ | hdoomed
      · rw [he] at hunwritten hwritten
        rw [hunwritten o answer (saw_last h _ answer)] at hwritten
        nomatch hwritten
      · have hdoomed' : Doomed u.key h v := by
          rcases hold with ⟨hlive, -⟩ | hdoomed'
          · exact absurd hdoomed (Live.not_doomed (Live.append hlive _))
          · exact hdoomed'
        subst hh
        cases hexit with
        | live hlive => exact absurd hdoomed' (Live.not_doomed (Live.append hlive tail))
        | doomed hdoomed₀ hresolved _ => rw [hresolved, Doomed.unique (Doomed.append hdoomed₀ tail) hdoomed']
    | released _ _ _ _ _ hafter =>
      obtain ⟨-, current, hbefore, hstatus⟩ := hafter v' hv'
      rw [hstatus]
      exact htracked.stored v hold current hbefore
  · rw [Option.some.inj (hstored.symm.trans hv')]

/-- In a round that starts with the snapshot settled, the VirtualCluster was read with it. -/
structure SettledRound (u : VirtualCluster) (snapshot : ResolvedSnapshot) (w : World) (h : List Event) : Prop where
  identity : Identity u w h
  began : ∀ v, Began u.key h v → v.status.resolved = snapshot

/-- A call leaves the snapshot settled. -/
theorem SettledRound.call (hround : SettledRound u snapshot w h) (hsettled : Settled u snapshot w)
    (hsnapshot : snapshot.hostNamespace ≠ "")
    {call : Call} {r : call.Res} (hp : Permitted Γ cfg rt u.key h call) (hx : World.Exec w call r w') :
    Settled u snapshot w' ∧ SettledRound u snapshot w' (h ++ [event call r]) := by
  have hid := hround.identity
  have hsettled' : Settled u snapshot w' := by
    refine Settled.call hsettled hsnapshot hid (fun _ _ v hworking => hround.began v ?_) (effects_of_permitted hp hx)
    exact hworking.imp And.left id
  refine ⟨hsettled', Identity.step hid hp hx, fun v hbegan => ?_⟩
  have hold : Began u.key h v ∨ w'.virtualClusters.find u.key = some v := by
    rcases hbegan with hlive | hdoomed
    · exact (stays_of_live hid hp hx hlive).imp Or.inl And.left
    · exact (find_of_doomed hx hdoomed).imp_left Or.inr
  rcases hold with hold | hstored
  · exact hround.began v hold
  · exact (hsettled' v hstored).2

/-- The rounds of `u` among others that spare it. -/
abbrev rounds (Γ : Ctx) (cfg : Config) (u : VirtualCluster) : Sys.Model World Event Call Call.Res (Except Err Result) :=
  clusterSystem Γ cfg u.key (Spares u)

/-- In every reachable state the running round works with what is stored. -/
theorem tracked_of_reachable {s : Sys World Event Call Call.Res (Except Err Result)}
    (hs : Sys.Reachable (rounds Γ cfg u) (IsCluster u) s) :
    Sys.Holds (rounds Γ cfg u) (IsCluster u) (Tracked u) (fun h call => ∃ rt, Permitted Γ cfg rt u.key h call) s := by
  refine Sys.invariant (fun w hw => hw) (fun w hI => ?_) ?_ (fun w w' henv hI => ⟨?_, fun h hK => ?_⟩)
    (fun w call r w' h hI hK hG hx => ?_) hs
  · exact ⟨Identity.start hI, fun v hworking => hworking.elim
      (fun hlive => nomatch hlive.1) fun hdoomed => nomatch hdoomed⟩
  · rintro p ⟨rt, rfl⟩
    exact (safe_reconcile Γ cfg rt u.key).mono (fun h call hp => ⟨rt, hp⟩) fun _ _ _ => trivial
  · exact (Identity.spares (Identity.start hI) henv).stored
  · exact Tracked.spares hK henv
  · obtain ⟨rt, hp⟩ := hG
    have hK' := Tracked.call hK hp hx
    exact ⟨hK'.identity.stored, hK'⟩

/-- A step of the system keeps a snapshot that is settled. -/
theorem settled_step (hsnapshot : snapshot.hostNamespace ≠ "")
    {s s' : Sys World Event Call Call.Res (Except Err Result)}
    (hs : Sys.Reachable (rounds Γ cfg u) (IsCluster u) s) (hsettled : Settled u snapshot s.world)
    (hstep : Sys.Step (rounds Γ cfg u) s s') : Settled u snapshot s'.world := by
  obtain ⟨-, hround⟩ := tracked_of_reachable hs
  cases hstep with
  | env henv => exact Settled.spares hsettled henv
  | start => exact hsettled
  | @call w w' h call next r hx =>
    obtain ⟨htracked, ⟨rt, hp⟩, -⟩ := hround h _ rfl
    refine Settled.call hsettled hsnapshot htracked.identity (fun current hcurrent v hworking => ?_)
      (effects_of_permitted hp hx)
    exact (htracked.stored v hworking current hcurrent).symm.trans (hsettled current hcurrent).2
  | stop => exact hsettled

/-- In every state that is reached from a settled snapshot, between rounds, the running round works with it. -/
theorem settled_of_reachable (hsnapshot : snapshot.hostNamespace ≠ "")
    {s : Sys World Event Call Call.Res (Except Err Result)}
    (hs : Sys.Reachable (rounds Γ cfg u) (Settled u snapshot) s) :
    Sys.Holds (rounds Γ cfg u) (Settled u snapshot) (SettledRound u snapshot)
      (fun h call => ∃ rt, Permitted Γ cfg rt u.key h call ∧ Writes Γ cfg u.key h call) s := by
  refine Sys.invariant (fun w hw => hw) (fun w hI => ?_) ?_
    (fun w w' henv hI => ⟨Settled.spares hI henv, fun h hK => ?_⟩)
    (fun w call r w' h hI hK hG hx => ?_) hs
  · exact ⟨Identity.start fun v hv => (hI v hv).1, fun v hbegan => hbegan.elim
      (fun hlive => nomatch hlive) fun hdoomed => nomatch hdoomed⟩
  · rintro p ⟨rt, rfl⟩
    exact ((safe_reconcile Γ cfg rt u.key).and (grounded_reconcile Γ cfg rt u.key)).mono
      (fun h call hp => ⟨rt, hp⟩) fun _ _ _ => trivial
  · exact ⟨Identity.spares hK.identity henv, hK.began⟩
  · obtain ⟨rt, hp, -⟩ := hG
    exact SettledRound.call hK hI hsnapshot hp hx

/-- What a round writes as a Work is built on what it has settled on. -/
inductive Built (Γ : Ctx) (cfg : Config) (key : NamespacedName) (h : List Event) (desired : ManifestWork) : Prop where
  | foundation {v : VirtualCluster} {target : Target} : Basis Γ key h v target →
      desired = buildFoundationWork v target.resolved target.names target.managedCluster → Built Γ cfg key h desired
  | instanceWork {v : VirtualCluster} {target : Target} {mirrored : List Manifest} : Basis Γ key h v target →
      mirrored.filterMap Manifest.withoutMirror = [] →
      desired = buildInstanceWork v target.resolved target.names target.managedCluster mirrored →
        Built Γ cfg key h desired

/-- A mirror that was collected, whatever was answered, is rendered. -/
theorem rendered_of_collected {resolved : ResolvedSnapshot} {appsSuffix : String} {reads : List Event}
    {mirrored : List Manifest}
    (hreaches : Prog.Reaches event (mirrorChildIngresses v resolved appsSuffix childClient) reads
      (.ret (.ok mirrored))) :
    mirrored = [] ∨ ∃ backends, renderIngressMirror v resolved appsSuffix backends = .ok mirrored := by
  have hguarded : Prog.Guarded event (fun _ _ => True) (fun _ r => ∀ mirrored, r = .ok mirrored →
      mirrored = [] ∨ ∃ backends, renderIngressMirror v resolved appsSuffix backends = .ok mirrored)
      (mirrorChildIngresses v resolved appsSuffix childClient) [] := by
    unfold mirrorChildIngresses
    split_ifs
    · intro mirrored hmirrored
      exact Or.inl (Except.ok.inj hmirrored).symm
    · refine ⟨trivial, fun r => ?_⟩
      cases r with
      | error e => exact fun mirrored hmirrored => nomatch hmirrored
      | ok items =>
        change Prog.Guarded event _ _ (List.foldlM _ _ _ >>= _) _
        rw [Prog.guarded_bind]
        exact Prog.guarded_of_forall (fun _ _ => trivial)
          (fun _ collected mirrored hmirrored => Or.inr ⟨collected.backends, hmirrored⟩) _ _
  exact hguarded.reaches hreaches mirrored rfl

/-- Nothing is left of what an instance Work is written with besides the K3k cluster. -/
theorem withoutMirror_of_source {mirrored : List Manifest} (hsource : MirrorSource cfg h v target mirrored) :
    mirrored.filterMap Manifest.withoutMirror = [] := by
  cases hsource with
  | missing _ _ hempty => rw [hempty, List.filterMap_nil]
  | unnamed _ _ hempty => rw [hempty, List.filterMap_nil]
  | collected _ hreaches =>
    rcases rendered_of_collected hreaches with hempty | ⟨backends, hrendered⟩
    · rw [hempty, List.filterMap_nil]
    · exact withoutMirror_of_rendered hrendered

/-- What a round is about to write as a Work is built so. -/
theorem built_of_guarded {G : List Event → Call → Prop} {key : NamespacedName}
    (hG : ∀ call, G h call → Writes Γ cfg key h call) {p : Action (Except Err Result)}
    (hp : Prog.Guarded event G (fun _ _ => True) p h) {desired : ManifestWork}
    (hdesired : workToWrite p = some desired) : Built Γ cfg key h desired := by
  have hwrites : ∀ call next, p = .call (.api call) next → writesWork desired call → Built Γ cfg key h desired := by
    rintro call next rfl hcall
    have hsame : ∀ desired', writesWork desired' call → desired = desired' := by
      intro desired' hcall'
      rcases hcall with rfl | rfl <;> rcases hcall' with heq | heq <;> cases heq <;> rfl
    cases hG _ hp.1 with
    | plain hplain => rcases hcall with rfl | rfl <;> nomatch hplain
    | status => rcases hcall with hcall | hcall <;> nomatch hcall
    | foundation hbasis hcall' => exact .foundation hbasis (hsame _ hcall')
    | instanceWork hbasis hsource hcall' =>
      exact .instanceWork hbasis (withoutMirror_of_source hsource) (hsame _ hcall')
  unfold workToWrite at hdesired
  split at hdesired
  · cases hdesired
    exact hwrites _ _ rfl (Or.inl rfl)
  · cases hdesired
    exact hwrites _ _ rfl (Or.inr rfl)
  · nomatch hdesired

/-- What a later round has settled on. -/
theorem SettledRound.basis (hround : SettledRound u snapshot w h) (hsnapshot : snapshot.hostNamespace ≠ "")
    (hbasis : Basis Γ u.key h v target) :
    Same u v ∧ Matches Γ h snapshot target ∧ ∃ addresses, target.names = v.renderNames addresses :=
  ⟨Identity.live hround.identity hbasis.live, matches_of_basis hbasis
    (hround.began v (Or.inl hbasis.live)) hsnapshot, hbasis.names⟩

/-- A foundation Work of a later round. -/
theorem SettledRound.foundation (hround : SettledRound u snapshot w h) (hsnapshot : snapshot.hostNamespace ≠ "")
    {desired : ManifestWork}
    (hbuilt : Built Γ cfg u.key h desired) (hname : desired.metadata.name = u.names.foundationWork) :
    ∃ v target addresses, Same u v ∧ Matches Γ h snapshot target ∧ target.names = v.renderNames addresses ∧
      desired = buildFoundationWork v target.resolved target.names target.managedCluster := by
  cases hbuilt with
  | foundation hbasis heq =>
    obtain ⟨hsame, hmatches, addresses, hnames⟩ := hround.basis hsnapshot hbasis
    exact ⟨_, _, addresses, hsame, hmatches, hnames, heq⟩
  | instanceWork hbasis _ heq =>
    obtain ⟨hsame, -, addresses, hnames⟩ := hround.basis hsnapshot hbasis
    rw [heq, buildInstanceWork, hnames, VirtualCluster.renderNames, Same.names hsame] at hname
    exact absurd hname.symm (foundationWork_ne_instanceWork u)

/-- An instance Work of a later round. -/
theorem SettledRound.instanceWork (hround : SettledRound u snapshot w h) (hsnapshot : snapshot.hostNamespace ≠ "")
    {desired : ManifestWork}
    (hbuilt : Built Γ cfg u.key h desired) (hname : desired.metadata.name = u.names.instanceWork) :
    ∃ v target addresses mirrored, Same u v ∧ Matches Γ h snapshot target ∧ target.names = v.renderNames addresses ∧
      mirrored.filterMap Manifest.withoutMirror = [] ∧
      desired = buildInstanceWork v target.resolved target.names target.managedCluster mirrored := by
  cases hbuilt with
  | foundation hbasis heq =>
    obtain ⟨hsame, -, addresses, hnames⟩ := hround.basis hsnapshot hbasis
    rw [heq, buildFoundationWork, hnames, VirtualCluster.renderNames, Same.names hsame] at hname
    exact absurd hname (foundationWork_ne_instanceWork u)
  | instanceWork hbasis hmirrored heq =>
    obtain ⟨hsame, hmatches, addresses, hnames⟩ := hround.basis hsnapshot hbasis
    exact ⟨_, _, addresses, _, hsame, hmatches, hnames, hmirrored, heq⟩

end SnapshotAux

open SnapshotAux

/-- Once a VirtualCluster is resolved, its snapshot never changes, whatever happens to the Cell and the class; and
what any two later rounds write as its foundation Work, and as its instance Work, is equal except for what comes from
the addresses of the host and the mirror, if the hash is free of collisions between the fingerprints of the two. -/
theorem snapshot_frozen (Γ : Ctx) (cfg : Config) (u : VirtualCluster) (snapshot : ResolvedSnapshot)
    (hsnapshot : snapshot.hostNamespace ≠ "") :
    (∀ s s', Sys.Reachable (clusterSystem Γ cfg u.key (Spares u)) (IsCluster u) s → Settled u snapshot s.world →
      Relation.ReflTransGen (Sys.Step (clusterSystem Γ cfg u.key (Spares u))) s s' → Settled u snapshot s'.world) ∧
    ∀ s s' h h' p p' desired desired', Sys.Reachable (clusterSystem Γ cfg u.key (Spares u)) (Settled u snapshot) s →
      Sys.Reachable (clusterSystem Γ cfg u.key (Spares u)) (Settled u snapshot) s' → s.round = some (h, p) →
        s'.round = some (h', p') →
      workToWrite p = some desired → workToWrite p' = some desired' → CollisionFreeReads Γ h h' →
      (desired.metadata.name = u.names.foundationWork → desired'.metadata.name = u.names.foundationWork →
        SameWork Manifest.withoutPeers desired desired') ∧
      (desired.metadata.name = u.names.instanceWork → desired'.metadata.name = u.names.instanceWork →
        SameWork Manifest.withoutMirror desired desired') := by
  constructor
  · intro s s' hs hsettled hsteps
    have hboth : Sys.Reachable (clusterSystem Γ cfg u.key (Spares u)) (IsCluster u) s' ∧
      Settled u snapshot s'.world := by
      induction hsteps with
      | refl => exact ⟨hs, hsettled⟩
      | tail _ hstep ih => exact ⟨.step ih.1 hstep, settled_step hsnapshot ih.1 ih.2 hstep⟩
    exact hboth.2
  · intro s s' h h' p p' desired desired' hs hs' hround hround' hdesired hdesired' hfree
    obtain ⟨hK, hp⟩ := (settled_of_reachable hsnapshot hs).2 h p hround
    obtain ⟨hK', hp'⟩ := (settled_of_reachable hsnapshot hs').2 h' p' hround'
    have hbuilt := built_of_guarded (fun call ⟨_, _, hwrites⟩ => hwrites) hp hdesired
    have hbuilt' := built_of_guarded (fun call ⟨_, _, hwrites⟩ => hwrites) hp' hdesired'
    constructor
    · intro hname hname'
      obtain ⟨v, target, addresses, hsame, hmatches, hnames, rfl⟩ := hK.foundation hsnapshot hbuilt hname
      obtain ⟨v', target', addresses', hsame', hmatches', hnames', rfl⟩ := hK'.foundation hsnapshot hbuilt' hname'
      exact sameWork_foundation (sameBasis_of_matches hsame hsame' hmatches hmatches' hfree) hnames hnames'
    · intro hname hname'
      obtain ⟨v, target, addresses, mirrored, hsame, hmatches, hnames, hmirrored, rfl⟩ := hK.instanceWork
        hsnapshot hbuilt hname
      obtain ⟨v', target', addresses', mirrored', hsame', hmatches', hnames', hmirrored', rfl⟩ :=
        hK'.instanceWork hsnapshot hbuilt' hname'
      exact sameWork_instance (sameBasis_of_matches hsame hsame' hmatches hmatches' hfree) hnames hnames'
        hmirrored hmirrored'

namespace SnapshotAux

open SampleAux

/-- The sample VirtualCluster after it was resolved. -/
def resolvedCluster : VirtualCluster := clusterIn .provisioning {}

/-- A host with one address. -/
def hostAt (address : String) : (call : HostCall) → call.Res :=
  sampleHost (.ok [{ sampleNode with addresses := [⟨"InternalIP", address⟩] }]) (.ok {})

/-- A round for it, on this host, up to where it writes the foundation Work. -/
def foundingRound (address : String) : World × List Event × Action (Except Err Result) :=
  sampleRound (sampleWorld resolvedCluster []) (hostAt address) 6

/-- Which a run leads to. -/
theorem reachable_foundingRound (address : String) :
    Sys.Reachable (clusterSystem sampleCtx sampleConfig resolvedCluster.key (Spares resolvedCluster))
      (Settled resolvedCluster sampleSnapshot) ⟨(foundingRound address).1,
        some ((foundingRound address).2.1, (foundingRound address).2.2)⟩ := by
  have hinit : Settled resolvedCluster sampleSnapshot (sampleWorld resolvedCluster []) := by
    intro v hv
    rw [find_sampleWorld, Option.some.injEq] at hv
    exact hv ▸ ⟨⟨rfl, rfl, rfl⟩, rfl⟩
  have hstart : (clusterSystem sampleCtx sampleConfig resolvedCluster.key (Spares resolvedCluster)).starts
      (reconcile sampleCtx sampleConfig sampleRuntime DriftAux.sampleCluster.key) := ⟨sampleRuntime, rfl⟩
  have hreachable := ((Sys.Reachable.init hinit).step (.start hstart)).runs
    (runs_sampleRound (sampleWorld resolvedCluster []) (hostAt address) 6)
  rw [List.nil_append] at hreachable
  rw [foundingRound]
  exact hreachable

end SnapshotAux

open SampleAux

/-- The sample VirtualCluster gets the same foundation Work on a host that has got another address,
except for the peers. -/
theorem snapshot_frozen_sample :
    ∃ desired desired', workToWrite (foundingRound "10.0.0.1").2.2 = some desired ∧
      workToWrite (foundingRound "10.0.0.2").2.2 = some desired' ∧ SameWork Manifest.withoutPeers desired desired' := by
  have hrounds : ∀ address ∈ ["10.0.0.1", "10.0.0.2"],
      (workToWrite (foundingRound address).2.2).map (·.metadata.name) = some resolvedCluster.names.foundationWork ∧
        fingerprintsRead (foundingRound address).2.1 = [fingerprintOf readyCell readyClass] := by decide +kernel
  obtain ⟨hwritten, hreads⟩ := hrounds "10.0.0.1" (by simp)
  obtain ⟨hwritten', hreads'⟩ := hrounds "10.0.0.2" (by simp)
  obtain ⟨desired, hdesired, hname⟩ := Option.map_eq_some_iff.mp hwritten
  obtain ⟨desired', hdesired', hname'⟩ := Option.map_eq_some_iff.mp hwritten'
  have hfree : CollisionFreeReads sampleCtx (foundingRound "10.0.0.1").2.1 (foundingRound "10.0.0.2").2.1 := by
    intro text htext text' htext' _
    rw [hreads, List.mem_singleton] at htext
    rw [hreads', List.mem_singleton] at htext'
    rw [htext, htext']
  exact ⟨desired, desired', hdesired, hdesired',
    ((snapshot_frozen sampleCtx sampleConfig resolvedCluster sampleSnapshot (by decide +kernel)).2
    _ _ _ _ _ _ _ _ (reachable_foundingRound "10.0.0.1")
      (reachable_foundingRound "10.0.0.2") rfl rfl hdesired hdesired' hfree).1
    hname hname'⟩

end KubeCell
