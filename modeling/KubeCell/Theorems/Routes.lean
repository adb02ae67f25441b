import KubeCell.Lemmas.Content
import KubeCell.Lemmas.Owned
import KubeCell.Theorems.Mirror
import KubeCell.Theorems.Ready

/-!
# Routes that stay published

The mirror is written only when it was collected, so that a read that fails takes no route away. This is so for the
list of ingresses; a service or endpoints that cannot be read are left out of a mirror that is written all the same.
-/

namespace KubeCell

open EffectsAux OwnedAux RoundAux

/-! ## What is published -/

/-- The services of a Work, by name and port. -/
def mirrorServices (objects : List Manifest) : List (String × Int) :=
  objects.filterMap fun
    | .service metadata _ port _ => some (metadata.name, port)
    | _ => none

/-- The rules of the ingresses of a Work, by the name of the ingress. -/
def mirrorRoutes (objects : List Manifest) : List (String × MirrorRule) :=
  objects.flatMap fun
    | .ingress metadata _ rules => rules.map fun rule => (metadata.name, rule)
    | _ => []

/-- The addresses of the endpoints of a Work, by the name of the endpoints. -/
def mirrorAddresses (objects : List Manifest) : List (String × EndpointAddress) :=
  objects.flatMap fun
    | .endpoints metadata subsets => (subsets.flatMap (·.addresses)).map fun address => (metadata.name, address)
    | _ => []

/-- Nothing that was published is taken away. -/
structure KeepsRoutes (before after : List Manifest) : Prop where
  services : mirrorServices before ⊆ mirrorServices after
  routes : mirrorRoutes before ⊆ mirrorRoutes after
  addresses : mirrorAddresses before ⊆ mirrorAddresses after

/-! ## What the child cluster answers -/

/-- The objects of a child cluster that the mirror is about. -/
structure ChildObjects where
  ingresses : List Ingress
  service : (ns name : String) → Option Service
  endpoints : (ns name : String) → Option Endpoints

/-- A read of one object is answered with it, or it is not found. -/
def ReadsAs {α : Type} (o : Option α) (answer : Except Err α) : Prop :=
  match o with
  | some value => answer = .ok value
  | none => ∃ e : Err, answer = .error e ∧ e.isNotFound = true

/-- A read has failed. -/
def Failed {α : Type} (answer : Except Err α) : Prop := ∃ e : Err, answer = .error e ∧ e.isNotFound = false

/-- The reads of the child cluster tell what it has, except for those that have failed. -/
def Tells (c : ChildObjects) : Event → Prop
  | ⟨.host .listIngresses, answer⟩ => answer = .ok c.ingresses ∨ Failed answer
  | ⟨.host (.getService ns name), answer⟩ => ReadsAs (c.service ns name) answer ∨ Failed answer
  | ⟨.host (.getEndpoints ns name), answer⟩ => ReadsAs (c.endpoints ns name) answer ∨ Failed answer
  | _ => True

/-- A read of a backend, which is a service or endpoints, has failed. -/
def BackendFailed : Event → Prop
  | ⟨.host (.getService _ _), answer⟩ => Failed answer
  | ⟨.host (.getEndpoints _ _), answer⟩ => Failed answer
  | _ => False

/-- The Work carries a mirror of the child cluster, as a round for the VirtualCluster has collected and written it,
whose reads of backends did not fail. -/
def Published (c : ChildObjects) (cfg : Config) (u : VirtualCluster) (work : ManifestWork) : Prop :=
  ∃ v resolved names managedCluster mirrored reads, Same u v ∧
    Prog.Reaches event (mirrorChildIngresses v resolved cfg.appsSuffix childClient) reads (.ret (.ok mirrored)) ∧
    (∀ e ∈ reads, Tells c e ∧ ¬BackendFailed e) ∧
    work.manifests = (buildInstanceWork v resolved names managedCluster mirrored).manifests

/-- The Work under the name is still there, unless the VirtualCluster is being deleted, and carries all that
`work` has published. -/
def RoutesKept (u : VirtualCluster) (managedCluster : String) (work : ManifestWork) (w : World) : Prop :=
  (∀ work', w.works.find (u.instanceKey managedCluster) = some work' → KeepsRoutes work.manifests work'.manifests) ∧
    (u.deleting = false → (w.works.find (u.instanceKey managedCluster)).isSome = true)

namespace RoutesAux

/-- The Services of two lists of manifests are those of both. -/
theorem mirrorServices_append (l l' : List Manifest) :
    mirrorServices (l ++ l') = mirrorServices l ++ mirrorServices l' :=
  List.filterMap_append

/-- So are their routes. -/
theorem mirrorRoutes_append (l l' : List Manifest) :
    mirrorRoutes (l ++ l') = mirrorRoutes l ++ mirrorRoutes l' := List.flatMap_append

theorem mirrorAddresses_append (l l' : List Manifest) :
    mirrorAddresses (l ++ l') = mirrorAddresses l ++ mirrorAddresses l' :=
  List.flatMap_append

/-! ## What is collected -/

/-- The child cluster, answering every read. -/
def client (c : ChildObjects) : ChildClient Id where
  listIngresses := pure (.ok c.ingresses)
  getService ns name := pure ((c.service ns name).elim (.error errNotFound) .ok)
  getEndpoints ns name := pure ((c.endpoints ns name).elim (.error errNotFound) .ok)

/-- One turn of the collector, for the child cluster. -/
def collectOne (c : ChildObjects) (ingress : Ingress) (state : Collected)
    (path : HTTPIngressPath × IngressServiceBackend) : Collected :=
  (collectPath (client c) ingress state path).run

/-- What is collected of the child cluster. -/
def collected (c : ChildObjects) : Collected :=
  (c.ingresses.filter (·.isMirrored)).foldl
    (fun state ingress => ingress.servicePaths.foldl (collectOne c ingress) state) {}

/-- Two answers are of the same object, or both are errors. -/
def Alike {α : Type} (answer answer' : Except Err α) : Prop :=
  (∃ value, answer = .ok value ∧ answer' = .ok value) ∨ ∃ e e', answer = .error e ∧ answer' = .error e'

/-- An answer that reads as what is there is like it. -/
theorem alike_of_readsAs {α : Type} {o : Option α} {answer : Except Err α} (h : ReadsAs o answer) :
    Alike answer (o.elim (.error errNotFound) .ok) := by
  cases o with
  | some value => exact Or.inl ⟨value, h, rfl⟩
  | none =>
    obtain ⟨e, heq, -⟩ := h
    exact Or.inr ⟨e, errNotFound, heq, rfl⟩

/-- A read that is made once, with a child cluster that tells what it has. -/
theorem ends_readOnce {α : Type} {K : Event → Prop} {read : Action (Except Err α)} {o : Option α}
    (hread : Prog.Ends event K (ReadsAs o) read) (cache : GoMap α) (key : String) :
    Prog.Ends event K (fun answer => Alike answer
      (readOnce cache key (pure (o.elim (.error errNotFound) .ok) : Id _)).run)
      (readOnce cache key read) := by
  unfold readOnce
  cases AList.lookup key cache with
  | some value => exact Prog.ends_ret (Or.inl ⟨value, rfl, rfl⟩)
  | none => exact fun h a hr hK => alike_of_readsAs (hread h a hr hK)

section

variable (c : ChildObjects)

/-- A read of a Service that does not fail tells what is there. -/
theorem ends_getService (ns name : String) :
    Prog.Ends event (fun e => Tells c e ∧ ¬BackendFailed e) (ReadsAs (c.service ns name))
      (childClient.getService ns name) :=
  Prog.ends_call fun _ hread => Prog.ends_ret (hread.1.resolve_right hread.2)

/-- So does a read of Endpoints. -/
theorem ends_getEndpoints (ns name : String) :
    Prog.Ends event (fun e => Tells c e ∧ ¬BackendFailed e) (ReadsAs (c.endpoints ns name))
      (childClient.getEndpoints ns name) :=
  Prog.ends_call fun _ hread => Prog.ends_ret (hread.1.resolve_right hread.2)

/-- One turn of the collector. -/
theorem ends_collectPath (ingress : Ingress) (state : Collected) (path : HTTPIngressPath × IngressServiceBackend) :
    Prog.Ends event (fun e => Tells c e ∧ ¬BackendFailed e) (· = collectOne c ingress state path)
      (collectPath childClient ingress state path) := by
  unfold collectOne collectPath
  refine (ends_readOnce (ends_getService c _ _) state.services _).bind ?_
  rintro _ (⟨service, rfl, hpure⟩ | ⟨e, e', rfl, hpure⟩)
  · rw [Id.run_bind, client, hpure]
    refine (ends_readOnce (ends_getEndpoints c _ _) state.endpoints _).bind ?_
    rintro _ (⟨endpoints, rfl, hpure'⟩ | ⟨e, e', rfl, hpure'⟩)
    · dsimp only
      rw [Id.run_bind, hpure']
      exact Prog.ends_ret rfl
    · dsimp only
      rw [Id.run_bind, hpure']
      exact Prog.ends_ret rfl
  · rw [Id.run_bind, client, hpure]
    exact Prog.ends_ret rfl

/-- When no read of a backend fails, a mirror is collected of everything, or there is nothing to mirror. -/
theorem ends_mirror (v : VirtualCluster) (resolved : ResolvedSnapshot) (appsSuffix : String) :
    Prog.Ends event (fun e => Tells c e ∧ ¬BackendFailed e) (fun answer => ∀ mirrored, answer = .ok mirrored →
      trimSpace appsSuffix.toList = [] ∧ mirrored = [] ∨ renderIngressMirror v resolved appsSuffix
        (collected c).backends = .ok mirrored)
      (mirrorChildIngresses v resolved appsSuffix childClient) := by
  unfold mirrorChildIngresses
  split_ifs with hsuffix
  · refine Prog.ends_ret fun mirrored hmirrored => Or.inl ⟨hsuffix, ?_⟩
    exact (Except.ok.inj hmirrored).symm
  · refine Prog.ends_call fun answer hread => ?_
    rcases hread.1 with rfl | ⟨e, rfl, -⟩
    · have hcollect : Prog.Ends event (fun e => Tells c e ∧ ¬BackendFailed e) (· = collected c)
          ((c.ingresses.filter (·.isMirrored)).foldlM
            (fun state ingress => ingress.servicePaths.foldlM (collectPath childClient ingress) state) {}) :=
        Prog.ends_foldlM (fun state ingress => Prog.ends_foldlM (ends_collectPath c ingress) _ _) _ _
      refine hcollect.bind ?_
      rintro _ rfl
      exact Prog.ends_ret fun mirrored hmirrored => Or.inr hmirrored
    · exact Prog.ends_ret fun mirrored hmirrored => nomatch hmirrored

end

/-! ## What is rendered -/

/-- What two renderers have gathered is the same, in their own namespaces and with their own labels. -/
structure SameMirror (state state' : MirrorState) : Prop where
  seen : state.seen = state'.seen
  pending : state.pending = state'.pending
  services : mirrorServices state.objects = mirrorServices state'.objects
  addresses : mirrorAddresses state.objects = mirrorAddresses state'.objects
  routes : mirrorRoutes state.objects = mirrorRoutes state'.objects

section

variable {ns ns' : String} {labels labels' : StringMap}

/-- The same path leads to the same mirror. -/
theorem SameMirror.path {state state' : MirrorState} (hsame : SameMirror state state') (hostname : String)
    (backend : ChildIngressBackend) (path : HTTPIngressPath × IngressServiceBackend) :
    SameMirror (mirrorPath ns labels hostname backend state path)
      (mirrorPath ns' labels' hostname backend state' path) := by
  unfold mirrorPath
  cases mirrorServicePort backend.service path.2.port with
  | none => exact hsame
  | some port =>
    dsimp only
    rw [← hsame.seen]
    split_ifs
    · exact ⟨hsame.seen, by rw [hsame.pending], hsame.services, hsame.addresses, hsame.routes⟩
    · refine ⟨rfl, by rw [hsame.pending], ?_, ?_, ?_⟩
      · rw [mirrorServices_append, mirrorServices_append, hsame.services]
        rfl
      · rw [mirrorAddresses_append, mirrorAddresses_append, hsame.addresses]
        rfl
      · rw [mirrorRoutes_append, mirrorRoutes_append, hsame.routes]
        rfl

theorem SameMirror.backend {state state' : MirrorState} (hsame : SameMirror state state')
    (clusterName appsSuffix : String) (backend : ChildIngressBackend) :
    SameMirror (mirrorBackend clusterName appsSuffix ns labels state backend)
      (mirrorBackend clusterName appsSuffix ns' labels' state' backend) := by
  unfold mirrorBackend
  split_ifs
  · exact List.foldl_rel hsame fun path _ state state' hsame => SameMirror.path hsame _ backend path
  · exact hsame

/-- Two renderers of the same backends for the same VirtualCluster gather the same. -/
theorem sameMirror_backends (clusterName appsSuffix ns ns' : String) (labels labels' : StringMap)
    (backends : List ChildIngressBackend) :
    SameMirror (backends.foldl (mirrorBackend clusterName appsSuffix ns labels) {})
      (backends.foldl (mirrorBackend clusterName appsSuffix ns' labels') {}) := by
  refine List.foldl_rel ⟨rfl, rfl, rfl, rfl, rfl⟩ fun backend _ state state' hsame => ?_
  exact SameMirror.backend hsame clusterName appsSuffix backend

/-- The services of ingresses are none. -/
theorem mirrorServices_pending (pending : List (String × List MirrorRule)) :
    mirrorServices (pending.map fun entry => mirrorIngress entry.1 ns labels entry.2) = [] := by
  rw [mirrorServices, List.filterMap_eq_nil_iff]
  intro m hm
  obtain ⟨entry, -, rfl⟩ := List.mem_map.mp hm
  rfl

/-- The Ingresses at the end have no addresses. -/
theorem mirrorAddresses_pending (pending : List (String × List MirrorRule)) :
    mirrorAddresses (pending.map fun entry => mirrorIngress entry.1 ns labels entry.2) = [] := by
  rw [mirrorAddresses, List.flatMap_eq_nil_iff]
  intro m hm
  obtain ⟨entry, -, rfl⟩ := List.mem_map.mp hm
  rfl

/-- They have the rules that were collected. -/
theorem mirrorRoutes_pending (pending : List (String × List MirrorRule)) :
    mirrorRoutes (pending.map fun entry => mirrorIngress entry.1 ns labels entry.2) =
      pending.flatMap fun entry => entry.2.map fun rule => (entry.1, rule) := by
  rw [mirrorRoutes, List.flatMap_map]
  rfl

end

/-- Two renderings of the same backends for the same VirtualCluster publish the same. -/
theorem keepsRoutes_of_rendered {v v' : VirtualCluster} {resolved resolved' : ResolvedSnapshot} {appsSuffix : String}
    {backends : List ChildIngressBackend} {objects objects' : List Manifest}
    (hname : v.metadata.name = v'.metadata.name)
    (h : renderIngressMirror v resolved appsSuffix backends = .ok objects)
    (h' : renderIngressMirror v' resolved' appsSuffix backends = .ok objects') : KeepsRoutes objects objects' := by
  unfold renderIngressMirror at h h'
  split_ifs at h
  split_ifs at h'
  cases h
  cases h'
  have hsame := sameMirror_backends v.metadata.name appsSuffix resolved.hostNamespace resolved'.hostNamespace
    (v.ownedLabels resolved)
    (v'.ownedLabels resolved') backends
  rw [← hname]
  refine ⟨?_, ?_, ?_⟩
  · rw [mirrorServices_append, mirrorServices_append, mirrorServices_pending, mirrorServices_pending, hsame.services]
    exact List.Subset.refl _
  · rw [mirrorRoutes_append, mirrorRoutes_append, mirrorRoutes_pending, mirrorRoutes_pending,
      hsame.routes, hsame.pending]
    exact List.Subset.refl _
  · rw [mirrorAddresses_append, mirrorAddresses_append, mirrorAddresses_pending,
      mirrorAddresses_pending, hsame.addresses]
    exact List.Subset.refl _

/-- Two mirrors of the same child cluster, when services and endpoints can be read, publish the same. -/
theorem keepsRoutes_of_collected {c : ChildObjects} {v v' : VirtualCluster}
    (hname : v.metadata.name = v'.metadata.name) {resolved resolved' : ResolvedSnapshot} {appsSuffix : String}
    {reads reads' : List Event} {mirrored mirrored' : List Manifest}
    (hreaches : Prog.Reaches event (mirrorChildIngresses v resolved appsSuffix childClient) reads (.ret (.ok mirrored)))
    (htells : ∀ e ∈ reads, Tells c e ∧ ¬BackendFailed e)
    (hreaches' : Prog.Reaches event (mirrorChildIngresses v' resolved' appsSuffix childClient) reads'
      (.ret (.ok mirrored')))
    (htells' : ∀ e ∈ reads', Tells c e ∧ ¬BackendFailed e) : KeepsRoutes mirrored mirrored' := by
  have hmirror := ends_mirror c v resolved appsSuffix _ _ hreaches htells mirrored rfl
  have hmirror' := ends_mirror c v' resolved' appsSuffix _ _ hreaches' htells' mirrored' rfl
  rcases hmirror with ⟨-, hempty⟩ | hrendered
  · rw [hempty]
    exact ⟨List.nil_subset _, List.nil_subset _, List.nil_subset _⟩
  · rcases hmirror' with ⟨hsuffix, -⟩ | hrendered'
    · rw [renderIngressMirror, if_pos hsuffix] at hrendered
      cases hrendered
    · exact keepsRoutes_of_rendered hname hrendered hrendered'

/-! ## What a round does to the Work -/

variable {Γ : Ctx} {cfg : Config} {rt : Runtime} {u : VirtualCluster} {key : NamespacedName} {h : List Event}
  {w w' : World}

/-- A write of a Work leaves the others, and of the one it writes it takes the manifests over. -/
theorem find_of_writesWork {desired : ManifestWork} {call : ApiCall} (hcall : writesWork desired call)
    (key : NamespacedName) :
    (w.serve call).2.works.find key = w.works.find key ∨ key = desired.metadata.key ∧
      ∃ work', (w.serve call).2.works.find key = some work' ∧ work'.manifests = desired.manifests := by
  have hput : ∀ work', work'.metadata.key = desired.metadata.key → work'.manifests = desired.manifests →
      (w.works.put work').find key = w.works.find key ∨ key = desired.metadata.key ∧
        ∃ work'', (w.works.put work').find key = some work'' ∧ work''.manifests = desired.manifests := by
    intro work' hkey hmanifests
    by_cases heq : key = work'.metadata.key
    · exact Or.inr ⟨heq.trans hkey, work', (Store.find_put _ _ _).trans (if_pos heq), hmanifests⟩
    · exact Or.inl ((Store.find_put _ _ _).trans (if_neg heq))
  rcases hcall with rfl | rfl
  · rw [World.serve]
    rcases Store.create_cases w.works w.version desired with ⟨e, heq⟩ | ⟨-, heq⟩ <;> rw [heq]
    · exact Or.inl rfl
    · exact hput _ rfl rfl
  · rw [World.serve]
    rcases Store.apply_cases w.works mergeWork w.version desired with ⟨-, heq⟩ | ⟨current, hfind, heq⟩ <;> rw [heq]
    · exact hput _ rfl rfl
    · exact hput _ (Store.find_keyed hfind) rfl

/-- The deletion of a Work keeps the manifests of what is left. -/
theorem manifests_of_deleteWork (deleted key : NamespacedName) {work' : ManifestWork}
    (hfind : (w.serve (.deleteWork deleted)).2.works.find key = some work') :
    ∃ work, w.works.find key = some work ∧ work'.manifests = work.manifests := by
  rw [World.serve] at hfind
  dsimp only at hfind
  rcases Store.delete_cases w.works w.version
    deleted with ⟨⟨e, heq⟩, -⟩ | ⟨current, hcurrent, -, ⟨-, heq⟩ | ⟨-, -, heq⟩ | ⟨-, -, heq⟩⟩ <;>
    rw [heq] at hfind
  · exact ⟨work', hfind, rfl⟩
  · rw [Store.find_remove] at hfind
    split_ifs at hfind
    exact ⟨work', hfind, rfl⟩
  · exact ⟨work', hfind, rfl⟩
  · rw [Store.find_put] at hfind
    split_ifs at hfind with hkey
    · cases hfind
      have hkeyed : current.metadata.key = deleted := Store.find_keyed hcurrent
      have hkey' : key = current.metadata.key := hkey
      exact ⟨current, by rw [hkey', hkeyed, hcurrent], rfl⟩
    · exact ⟨work', hfind, rfl⟩

/-- What a call of a round does to the Work of a name: nothing, or it is a step of a deletion, or it
has written the Work. -/
inductive WorkStep (Γ : Ctx) (cfg : Config) (u : VirtualCluster) (h : List Event) (key : NamespacedName)
    (w w' : World) : Prop where
  | kept : w'.works.find key = w.works.find key → WorkStep Γ cfg u h key w w'
  | doomed {v : VirtualCluster} : Doomed u.key h v →
      (∀ work', w'.works.find key = some work' → ∃ work, w.works.find key = some work ∧
        work'.manifests = work.manifests) →
      WorkStep Γ cfg u h key w w'
  | foundation {v : VirtualCluster} {target : Target} : Basis Γ u.key h v target → key.name = v.names.foundationWork →
      WorkStep Γ cfg u h key w w'
  | instanceWork {v : VirtualCluster} {target : Target} {mirrored : List Manifest} {work' : ManifestWork} :
    Basis Γ u.key h v target →
      MirrorSource cfg h v target mirrored → key = v.instanceKey target.managedCluster →
        w'.works.find key = some work' →
      work'.manifests = (buildInstanceWork v target.resolved target.names target.managedCluster mirrored).manifests →
      WorkStep Γ cfg u h key w w'

/-- What the server does to the Work of a name. -/
theorem workStep_serve {call : ApiCall} (hp : Permitted Γ cfg rt u.key h (.api call))
    (hw : Writes Γ cfg u.key h (.api call)) :
    WorkStep Γ cfg u h key w (w.serve call).2 := by
  cases hw with
  | plain hplain =>
    cases call with
    | deleteWork deleted =>
      have hdoomed : ∃ v, Doomed u.key h v := by
        cases hp with
        | read hread => nomatch hread
        | deleteInstance hdoomed => exact ⟨_, hdoomed⟩
        | deleteFoundation hdoomed => exact ⟨_, hdoomed⟩
        | foundation _ _ _ hwrite => nomatch hwrite
        | instanceWork _ _ _ hwrite => nomatch hwrite
      obtain ⟨v, hdoomed⟩ := hdoomed
      exact .doomed hdoomed fun work' hfind => manifests_of_deleteWork deleted key hfind
    | createWork => nomatch hplain
    | patchWork => nomatch hplain
    | _ => exact .kept rfl
  | status => exact .kept rfl
  | @foundation v target _ hbasis hcall =>
    rcases find_of_writesWork (w := w) hcall key with hkept | ⟨hkey, -⟩
    · exact .kept hkept
    · obtain ⟨addresses, hnames⟩ := hbasis.names
      refine .foundation hbasis ?_
      rw [hkey, buildFoundationWork, hnames]
      rfl
  | @instanceWork v target mirrored _ hbasis hsource hcall =>
    rcases find_of_writesWork (w := w) hcall key with hkept | ⟨hkey, work', hfind, hmanifests⟩
    · exact .kept hkept
    · obtain ⟨addresses, hnames⟩ := hbasis.names
      refine .instanceWork hbasis hsource ?_ hfind hmanifests
      rw [hkey, buildInstanceWork, hnames]
      rfl

/-- What the world does to the Work of a name. -/
theorem workStep_of_exec (key : NamespacedName) {call : Call} {r : call.Res} (hp : Permitted Γ cfg rt u.key h call)
    (hw : Writes Γ cfg u.key h call) (hx : World.Exec w call r w') : WorkStep Γ cfg u h key w w' := by
  cases hx with
  | served call => exact workStep_serve hp hw
  | unavailable => exact .kept rfl
  | lost call => exact workStep_serve hp hw
  | host => exact .kept rfl

/-- What holds in a round: the Work under `key` carries what `work` has published. -/
structure RoutesRound (c : ChildObjects) (u : VirtualCluster) (key : NamespacedName) (work : ManifestWork)
    (w : World) (h : List Event) : Prop where
  identity : Identity u w h
  stored : ∀ v, w.virtualClusters.find u.key = some v → v.deleting = u.deleting
  read : ∀ v, Saw h (.api (.getVirtualCluster u.key)) (.ok v) → v.deleting = u.deleting
  found : u.deleting = false → ∀ e, Saw h (.api (.getWork key)) (.error e) → e.isNotFound = false
  there : u.deleting = false → (w.works.find key).isSome = true
  kept : (∀ e ∈ h, Tells c e ∧ ¬BackendFailed e) → ∀ work', w.works.find key = some work' →
    KeepsRoutes work.manifests work'.manifests

section

variable {c : ChildObjects} {work : ManifestWork} {v : VirtualCluster} {managedCluster : String}

/-- A round that provisions is not about a deletion. -/
theorem RoutesRound.live (hround : RoutesRound c u key work w h) (hlive : Live u.key h v) : u.deleting = false := by
  cases hlive with
  | read hdeleting => exact (hround.read _ List.mem_cons_self).symm.trans hdeleting
  | adopted hdeleting => exact (hround.read _ List.mem_cons_self).symm.trans hdeleting

theorem RoutesRound.doomed (hround : RoutesRound c u key work w h)
    (hdoomed : Doomed u.key h v) : u.deleting = true := by
  cases hdoomed with
  | read hdeleting => exact (hround.read _ List.mem_cons_self).symm.trans hdeleting

/-- The foundation Work has another name. -/
theorem RoutesRound.not_foundation (hround : RoutesRound c u (u.instanceKey managedCluster) work w h)
    (hlive : Live u.key h v) :
    (u.instanceKey managedCluster).name ≠ v.names.foundationWork := by
  rw [Same.names (Identity.live hround.identity hlive)]
  exact (foundationWork_ne_instanceWork u).symm

/-- The mirror an instance Work is written with where there is one was collected. -/
theorem RoutesRound.collected (hround : RoutesRound c u (u.instanceKey managedCluster) work w h) {target : Target}
    {mirrored : List Manifest} (hlive : Live u.key h v) (hsource : MirrorSource cfg h v target mirrored)
    (hkey : u.instanceKey managedCluster = v.instanceKey target.managedCluster) :
    ∃ reads, (∀ e ∈ reads, e ∈ h) ∧
      Prog.Reaches event (mirrorChildIngresses v target.resolved cfg.appsSuffix childClient) reads
        (.ret (.ok mirrored)) := by
  cases hsource with
  | missing he hsaw =>
    rw [← hkey] at hsaw
    rw [hround.found (hround.live hlive) _ hsaw] at he
    nomatch he
  | unnamed hsaw hunnamed =>
    have hname := congrArg NamespacedName.name (hround.identity.works _ _ hsaw)
    exact absurd (hname.symm.trans hunnamed) (instanceWork_ne_empty v)
  | collected hmem hreaches => exact ⟨_, hmem, hreaches⟩

/-- A call of a round keeps what holds in it. -/
theorem RoutesRound.call (hpublished : Published c cfg u work)
    (hround : RoutesRound c u (u.instanceKey managedCluster) work w h) {call : Call} {r : call.Res}
    (hp : Permitted Γ cfg rt u.key h call) (hw : Writes Γ cfg u.key h call) (hx : World.Exec w call r w') :
    RoutesRound c u (u.instanceKey managedCluster) work w' (h ++ [event call r]) := by
  have hid := hround.identity
  have hstep := workStep_of_exec (u.instanceKey managedCluster) hp hw hx
  refine ⟨Identity.step hid hp hx, fun v' hv' => ?_, fun v hsaw => ?_, fun hlive e hsaw => ?_, fun hlive => ?_,
    fun htells work' hwork' => ?_⟩
  · obtain ⟨v, hv, hdeleting⟩ := clusters_deleting hid (effects_of_permitted hp hx).clusters hv'
    exact hdeleting.trans (hround.stored v hv)
  · rcases saw_snoc hsaw with hsaw | heq
    · exact hround.read v hsaw
    · cases heq
      exact hround.stored v (find_of_getVirtualCluster hx).1
  · rcases saw_snoc hsaw with hsaw | heq
    · exact hround.found hlive e hsaw
    · cases heq
      by_contra hfound
      have hthere := hround.there hlive
      rw [(none_of_getWork hx (Bool.not_eq_false _ ▸ hfound)).1] at hthere
      nomatch hthere
  · cases hstep with
    | kept heq => exact heq ▸ hround.there hlive
    | doomed hdoomed =>
      rw [hround.doomed hdoomed] at hlive
      nomatch hlive
    | foundation hbasis hname => exact absurd hname (hround.not_foundation hbasis.live)
    | instanceWork _ _ _ hfind _ => rw [hfind, Option.isSome_some]
  · have hkept := hround.kept fun e he => htells e (List.mem_append_left _ he)
    cases hstep with
    | kept heq => exact hkept work' (heq ▸ hwork')
    | doomed _ hmanifests =>
      obtain ⟨before, hbefore, heq⟩ := hmanifests work' hwork'
      exact heq ▸ hkept before hbefore
    | foundation hbasis hname => exact absurd hname (hround.not_foundation hbasis.live)
    | @instanceWork v target mirrored _ hbasis hsource hkey hfind hmanifests =>
      obtain rfl := Option.some.inj (hfind.symm.trans hwork')
      obtain ⟨reads, hmem, hreaches⟩ := hround.collected hbasis.live hsource hkey
      obtain ⟨v₀, resolved₀, names₀, managedCluster₀, mirrored₀, reads₀, hsame₀, hreaches₀, htells₀,
        hmanifests₀⟩ := hpublished
      have hname : v₀.metadata.name = v.metadata.name :=
        congrArg NamespacedName.name (hsame₀.key.trans (Identity.live hid hbasis.live).key.symm)
      have hkeeps := keepsRoutes_of_collected hname hreaches₀ htells₀ hreaches
        fun e he => htells e (List.mem_append_left _ (hmem e he))
      rw [hmanifests₀, hmanifests]
      exact ⟨hkeeps.services, hkeeps.routes, hkeeps.addresses⟩

/-- Before its first call a round has done nothing. -/
theorem RoutesRound.start (hcluster : w.virtualClusters.find u.key = some u)
    (hwork : w.works.find (u.instanceKey managedCluster) = some work) :
    RoutesRound c u (u.instanceKey managedCluster) work w [] := by
  refine ⟨Identity.start fun v hv => ?_, fun v hv => ?_, fun _ hsaw => (List.not_mem_nil hsaw).elim,
    fun _ _ hsaw => (List.not_mem_nil hsaw).elim, fun _ => ?_, fun _ work' hwork' => ?_⟩
  · exact Option.some.inj (hcluster.symm.trans hv) ▸ ⟨rfl, rfl, rfl⟩
  · exact Option.some.inj (hcluster.symm.trans hv) ▸ rfl
  · rw [hwork, Option.isSome_some]
  · exact Option.some.inj (hwork.symm.trans hwork') ▸ ⟨List.Subset.refl _, List.Subset.refl _, List.Subset.refl _⟩

end

/-! ## Reads that fail -/

open SampleAux

/-- A child cluster with an ingress that leads to one service. -/
def webObjects : ChildObjects where
  ingresses := [MirrorAux.webIngress ["front"]]
  service ns name := some ((MirrorAux.webCluster ["front"]).service ns name)
  endpoints ns name := some ((MirrorAux.webCluster ["front"]).endpoints ns name)

/-- The reads of the mirror. -/
inductive ChildRead where
  | listIngresses
  | getService
  | getEndpoints
  deriving DecidableEq, Repr

/-- The host of this child cluster, where the reads of one kind fail, or none. -/
def childHost (failing : Option ChildRead) : (call : HostCall) → call.Res
  | .listIngresses => if failing = some .listIngresses then .error ⟨.other, "timeout"⟩ else .ok webObjects.ingresses
  | .getService ns name =>
    if failing = some .getService then .error ⟨.other, "timeout"⟩
      else .ok ((MirrorAux.webCluster ["front"]).service ns name)
  | .getEndpoints ns name =>
    if failing = some .getEndpoints then .error ⟨.other, "timeout"⟩
      else .ok ((MirrorAux.webCluster ["front"]).endpoints ns name)
  | call => sampleHost (.ok [sampleNode]) (.ok { apiReady := true, hasClient := true }) call

/-- It tells what the child cluster has. -/
theorem tells_childHost (failing : Option ChildRead) (call : HostCall) :
    Tells webObjects (event (.host call) (childHost failing call)) := by
  have hfailed : ∀ {α : Type}, Failed (.error ⟨.other, "timeout"⟩ : Except Err α) := ⟨_, rfl, rfl⟩
  cases call with
  | listIngresses =>
    simp only [Tells, event, childHost]
    split_ifs with hfails
    · exact Or.inr hfailed
    · exact Or.inl rfl
  | getService ns name =>
    simp only [Tells, event, childHost]
    split_ifs with hfails
    · exact Or.inr hfailed
    · exact Or.inl rfl
  | getEndpoints ns name =>
    simp only [Tells, event, childHost]
    split_ifs with hfails
    · exact Or.inr hfailed
    · exact Or.inl rfl
  | _ => trivial

/-- Its backends can be read unless they are what fails. -/
theorem readable_childHost {failing : Option ChildRead} (hservice : failing ≠ some .getService)
    (hendpoints : failing ≠ some .getEndpoints) (call : HostCall) :
    ¬BackendFailed (event (.host call) (childHost failing call)) := by
  have hread : ∀ {α : Type} (value : α), ¬Failed (.ok value : Except Err α) := by
    rintro α value ⟨e, heq, -⟩
    cases heq
  cases call with
  | getService ns name =>
    simp only [BackendFailed, event, childHost, if_neg hservice]
    exact hread _
  | getEndpoints ns name =>
    simp only [BackendFailed, event, childHost, if_neg hendpoints]
    exact hread _
  | _ => exact id

/-- What every answer of this host is, every answer of a program on it is. -/
theorem holds_drive {K : Event → Prop} {failing : Option ChildRead}
    (hhost : ∀ call, K (event (.host call) (childHost failing call))) (hapi : ∀ call r, K (event (.api call) r))
    {α : Type} (n : Nat) (w : World) (p : Action α) :
    ∀ e ∈ (Prog.drive (World.answer (childHost failing)) event n w p).2.1, K e := by
  intro e he
  obtain ⟨w, call, rfl⟩ := Prog.mem_drive _ n w p he
  cases call with
  | api call => exact hapi call _
  | host call => exact hhost call

/-- A reconciler that mirrors. -/
def mirrorConfig : Config := { sampleConfig with appsSuffix := "apps.example.com" }

/-- The sample VirtualCluster after it was resolved. -/
def mirroredCluster : VirtualCluster := clusterIn .provisioning {}

/-- The collection of a mirror when every read is answered. -/
def collection : World × List Event × Action (Except String (List Manifest)) :=
  Prog.drive (World.answer (childHost none)) event 3 (sampleWorld mirroredCluster [])
    (mirrorChildIngresses mirroredCluster sampleSnapshot mirrorConfig.appsSuffix childClient)

/-- What a program that ends with a mirror ends with. -/
def endMirror : Action (Except String (List Manifest)) → Option (List Manifest)
  | .ret (.ok mirrored) => some mirrored
  | _ => none

/-- The mirror. -/
def webMirror : List Manifest := (endMirror collection.2.2).getD []

/-- The instance Work with the mirror, applied. -/
def webWork : ManifestWork :=
  { buildInstanceWork DriftAux.sampleCluster sampleSnapshot (DriftAux.sampleCluster.renderNames ["10.0.0.1"]) "mc-a" webMirror with
    conditions := [{ type := "Applied", status := .true }] }

/-- The foundation Work, applied. -/
def webFoundation : ManifestWork :=
  { buildFoundationWork DriftAux.sampleCluster sampleSnapshot (DriftAux.sampleCluster.renderNames ["10.0.0.1"]) "mc-a" with
    conditions := [{ type := "Applied", status := .true }] }

/-- The management cluster with both Works. -/
def mirroredWorld : World := sampleWorld mirroredCluster [webFoundation, webWork]

/-- A round there, where the reads of one kind fail. -/
def failingRound (failing : ChildRead) : World × List Event × Action (Except Err Result) :=
  Prog.drive (World.answer (childHost (some failing))) event 18 mirroredWorld
    (reconcile sampleCtx mirrorConfig sampleRuntime mirroredCluster.key)

/-- The Work carries the mirror. -/
theorem published_webWork : Published webObjects mirrorConfig mirroredCluster webWork := by
  have hsome : (endMirror collection.2.2).isSome = true := by decide +kernel
  obtain ⟨mirrored, hmirrored⟩ := Option.isSome_iff_exists.mp hsome
  have hend : collection.2.2 = .ret (.ok mirrored) := by
    unfold endMirror at hmirrored
    split at hmirrored
    · rename_i heq
      rw [heq, Option.some.inj hmirrored]
    · nomatch hmirrored
  have hmirror : webMirror = mirrored := by rw [webMirror, hmirrored, Option.getD_some]
  have hreaches : Prog.Reaches event
    (mirrorChildIngresses mirroredCluster sampleSnapshot mirrorConfig.appsSuffix childClient)
      collection.2.1 collection.2.2 := Prog.reaches_drive _ 3 _ _
  rw [hend, ← hmirror] at hreaches
  exact ⟨mirroredCluster, sampleSnapshot, DriftAux.sampleCluster.renderNames ["10.0.0.1"], "mc-a",
    webMirror, collection.2.1,
    ⟨rfl, rfl, rfl⟩, hreaches, holds_drive
      (fun call => ⟨tells_childHost none call, readable_childHost (by decide) (by decide) call⟩)
      (fun _ _ => ⟨trivial, id⟩) 3 _ _, rfl⟩

/-- The Work is stored. -/
theorem find_webWork : mirroredWorld.works.find (mirroredCluster.instanceKey "mc-a") = some webWork :=
  (Store.find_put _ _ _).trans (if_pos rfl)

/-- It is a run of the reconciler. -/
theorem runs_failingRound (failing : ChildRead) :
    Prog.Runs World.Exec event mirroredWorld (reconcile sampleCtx mirrorConfig sampleRuntime mirroredCluster.key)
      (failingRound failing).2.1 (failingRound failing).1 (failingRound failing).2.2 := by
  rw [failingRound]
  -- with the number of calls in place, the unifier would compute the round
  generalize 18 = n
  exact Prog.runs_drive (World.exec_answer (childHost (some failing))) n mirroredWorld _

/-- Its answers tell what the child cluster has. -/
theorem tells_failingRound (failing : ChildRead) : ∀ e ∈ (failingRound failing).2.1, Tells webObjects e := by
  rw [failingRound]
  generalize 18 = n
  exact holds_drive (tells_childHost (some failing)) (fun _ _ => trivial) n mirroredWorld _

/-- The list of ingresses has failed. -/
def listFailed : Event → Bool
  | ⟨.host .listIngresses, .error _⟩ => true
  | _ => false

/-- What is published by the Work of a world. -/
def publishedIn (w : World) : Option (List (String × Int) × List (String × EndpointAddress)) :=
  (w.works.find (mirroredCluster.instanceKey "mc-a")).map fun work =>
    (mirrorServices work.manifests, mirrorAddresses work.manifests)

/-- When reads of services fail the service is taken away, and when reads of endpoints fail its address is. -/
theorem not_kept_failingRound (failing : ChildRead) (hfailing : failing ≠ .listIngresses) :
    ¬RoutesKept mirroredCluster "mc-a" webWork (failingRound failing).1 := by
  have hbefore : mirrorServices webWork.manifests = [("ing-web-front-80", 80)] ∧
      mirrorAddresses webWork.manifests = [("ing-web-front-80", { ip := "10.42.0.5" })] := by decide +kernel
  have hafter : publishedIn (failingRound .getService).1 = some ([], []) ∧
      publishedIn (failingRound .getEndpoints).1 = some ([("ing-web-front-80", 80)], []) := by decide +kernel
  intro hkept
  cases failing with
  | listIngresses => exact hfailing rfl
  | getService =>
    obtain ⟨work', hwork', hpublished⟩ := Option.map_eq_some_iff.mp hafter.1
    have hkeeps := (hkept.1 work' hwork').services
    rw [hbefore.1, (Prod.mk.inj hpublished).1] at hkeeps
    exact absurd (hkeeps List.mem_cons_self) List.not_mem_nil
  | getEndpoints =>
    obtain ⟨work', hwork', hpublished⟩ := Option.map_eq_some_iff.mp hafter.2
    have hkeeps := (hkept.1 work' hwork').addresses
    rw [hbefore.2, (Prod.mk.inj hpublished).2] at hkeeps
    exact absurd (hkeeps List.mem_cons_self) List.not_mem_nil

end RoutesAux

open RoutesAux

/-- In a round for a VirtualCluster whose instance Work carries a mirror of the child cluster, as it still is, reads
that fail take nothing away that the Work has published, wherever the round is cut off, as long as the reads of
services and endpoints are answered. -/
theorem failures_harmless_of_readable (Γ : Ctx) (cfg : Config) (rt : Runtime) (u : VirtualCluster) (c : ChildObjects)
    (managedCluster : String) (work : ManifestWork) (w w' : World) (h : List Event) (q : Action (Except Err Result))
    (hcluster : w.virtualClusters.find u.key = some u) (hwork : w.works.find (u.instanceKey managedCluster) = some work)
    (hpublished : Published c cfg u work) (hrun : Prog.Runs World.Exec event w (reconcile Γ cfg rt u.key) h w' q)
    (htells : ∀ e ∈ h, Tells c e) (hreadable : ∀ e ∈ h, ¬BackendFailed e) : RoutesKept u managedCluster work w' := by
  have hguarded := (safe_reconcile Γ cfg rt u.key).and (grounded_reconcile Γ cfg rt u.key)
  have hround := (Prog.Runs.invariant (K := RoutesRound c u (u.instanceKey managedCluster) work)
    (fun w call r w' h hround hG hx => hround.call hpublished hG.1 hG.2 hx) hguarded
      (RoutesRound.start hcluster hwork) hrun).1
  exact ⟨hround.kept fun e he => ⟨htells e he, hreadable e he⟩, hround.there⟩

open SampleAux

/-- The list of ingresses fails in a round, and the mirror stays. -/
theorem failures_harmless_sample :
    (failingRound .listIngresses).2.1.any listFailed = true ∧
      RoutesKept mirroredCluster "mc-a" webWork (failingRound .listIngresses).1 := by
  refine ⟨?_, failures_harmless_of_readable sampleCtx mirrorConfig sampleRuntime mirroredCluster webObjects "mc-a"
    webWork mirroredWorld _
    _ _ (find_sampleWorld mirroredCluster [webFoundation, webWork]) find_webWork published_webWork
      (runs_failingRound .listIngresses)
    (tells_failingRound .listIngresses) ?_⟩
  · decide +kernel
  · rw [failingRound]
    generalize 18 = n
    exact holds_drive (fun call => readable_childHost (by decide) (by decide) call) (fun _ _ => id) n mirroredWorld _

/-- A read of a service that fails takes away what leads there, and so does a read of endpoints. -/
theorem failures_harmless_false :
    ¬∀ (Γ : Ctx) (cfg : Config) (rt : Runtime) (u : VirtualCluster) (c : ChildObjects) (managedCluster : String)
      (work : ManifestWork)
      (w w' : World) (h : List Event) (q : Action (Except Err Result)), w.virtualClusters.find u.key = some u →
      w.works.find (u.instanceKey managedCluster) = some work → Published c cfg u work →
      Prog.Runs World.Exec event w (reconcile Γ cfg rt u.key) h w' q → (∀ e ∈ h, Tells c e) →
        RoutesKept u managedCluster work w' := by
  intro hharmless
  have hkept : ∀ failing, RoutesKept mirroredCluster "mc-a" webWork (failingRound failing).1 := fun failing =>
    hharmless sampleCtx mirrorConfig sampleRuntime mirroredCluster webObjects "mc-a" webWork mirroredWorld _ _ _
      (find_sampleWorld mirroredCluster [webFoundation, webWork]) find_webWork published_webWork
        (runs_failingRound failing)
      (tells_failingRound failing)
  exact not_kept_failingRound .getService (by decide) (hkept .getService)

end KubeCell
