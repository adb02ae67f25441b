import KubeCell.Render

/-!
# The two loops of the ingress mirror

The collector hands the renderer one backend for each path, and the renderer goes over all paths of the ingress again
for each of them. So what is rendered comes from attempts: a path `via` whose service and endpoints are at hand, and a
path that is mirrored with them. The objects of a name are those of the first attempt of that name.
-/

namespace KubeCell

/-- A child cluster in which every service and endpoints that is asked for can be read. A namespace holds no slash. -/
structure ChildCluster where
  ingresses : List Ingress
  service : (ns name : String) → Service
  endpoints : (ns name : String) → Endpoints
  namespaces : ∀ ingress ∈ ingresses, '/' ∉ ingress.metadata.ns.toList

/-- The client of a child cluster that answers every read. -/
def ChildCluster.client (c : ChildCluster) : ChildClient Id where
  listIngresses := pure (.ok c.ingresses)
  getService ns name := pure (.ok (c.service ns name))
  getEndpoints ns name := pure (.ok (c.endpoints ns name))

/-- A child cluster in which every service that is asked for can be read, while endpoints can be read or not. -/
structure ServingCluster where
  ingresses : List Ingress
  service : (ns name : String) → Service
  endpoints : (ns name : String) → Except Err Endpoints
  namespaces : ∀ ingress ∈ ingresses, '/' ∉ ingress.metadata.ns.toList

/-- The client of a child cluster that answers every read of a service. -/
def ServingCluster.client (c : ServingCluster) : ChildClient Id where
  listIngresses := pure (.ok c.ingresses)
  getService ns name := pure (.ok (c.service ns name))
  getEndpoints ns name := pure (c.endpoints ns name)

/-- A child cluster in which everything can be read is one in which the services can. -/
def ChildCluster.serving (c : ChildCluster) : ServingCluster where
  ingresses := c.ingresses
  service := c.service
  endpoints ns name := .ok (c.endpoints ns name)
  namespaces := c.namespaces

/-- One attempt to mirror a path: the path is mirrored with the service and the endpoints of the path `via`, and
`port` is what that service gives to the port the path refers to. -/
structure Attempt where
  ingress : Ingress
  via : IngressServiceBackend
  path : HTTPIngressPath
  backend : IngressServiceBackend
  port : Int

namespace Attempt

variable (a : Attempt)

/-- The name of the host service of an attempt. -/
def serviceName : String := mirrorServiceName a.ingress a.backend a.port

/-- The hostname of an attempt. -/
def hostname (clusterName appsSuffix : String) : String :=
  a.ingress.metadata.name ++ "." ++ clusterName ++ "." ++ appsSuffix

/-- The rule of an attempt. -/
def rule (clusterName appsSuffix : String) : MirrorRule :=
  mirrorRule (a.hostname clusterName appsSuffix) a.path a.serviceName a.port

end Attempt

/-- The attempts for one ingress and one path whose service and endpoints are at hand. -/
def ChildCluster.attemptsVia (c : ChildCluster) (ingress : Ingress)
    (via : HTTPIngressPath × IngressServiceBackend) : List Attempt :=
  ingress.servicePaths.filterMap fun path =>
    (mirrorServicePort (some (c.service ingress.metadata.ns via.2.name)) path.2.port).map fun port =>
      ⟨ingress, via.2, path.1, path.2, port⟩

/-- The attempts for a child cluster, in the order they are made in. -/
def ChildCluster.attempts (c : ChildCluster) : List Attempt :=
  (c.ingresses.filter (·.isMirrored)).flatMap fun ingress => ingress.servicePaths.flatMap (c.attemptsVia ingress)

/-- The addresses of endpoints. -/
def Endpoints.addresses (e : Endpoints) : List EndpointAddress := e.subsets.flatMap (·.addresses)

/-- The port of a manifest that is a host service of a name. -/
def Manifest.servicePort (name : String) : Manifest → Option Int
  | .service metadata _ port _ => if metadata.name = name then some port else none
  | _ => none

/-- The addresses of a manifest that is host endpoints of a name. -/
def Manifest.endpointAddresses (name : String) : Manifest → Option (List EndpointAddress)
  | .endpoints metadata subsets => if metadata.name = name then some (subsets.flatMap (·.addresses)) else none
  | _ => none

/-- The port of the host service of a name. -/
def hostServicePort (objects : List Manifest) (name : String) : Option Int := objects.findSome? (·.servicePort name)

/-- The addresses of the host endpoints of a name. -/
def hostAddresses (objects : List Manifest) (name : String) : Option (List EndpointAddress) :=
  objects.findSome? (·.endpointAddresses name)

namespace MirrorAux

/-! ## The collector -/

/-- The backend the collector makes of a path. -/
def backendOf (c : ServingCluster) (ingress : Ingress)
    (path : HTTPIngressPath × IngressServiceBackend) : ChildIngressBackend :=
  ⟨ingress, some (c.service ingress.metadata.ns path.2.name), (c.endpoints ingress.metadata.ns path.2.name).toOption⟩

/-- Where everything can be read, the backend has endpoints. -/
theorem backendOf_serving (c : ChildCluster) (ingress : Ingress) (path : HTTPIngressPath × IngressServiceBackend) :
    backendOf c.serving ingress path =
      ⟨ingress, some (c.service ingress.metadata.ns path.2.name),
        some (c.endpoints ingress.metadata.ns path.2.name)⟩ := rfl

/-- A cache by namespace and name holds only what the child cluster has. -/
def Cached {α : Type} (cache : GoMap α) (value : (ns name : String) → Except Err α) : Prop :=
  ∀ ns name : String, '/' ∉ ns.toList → ∀ x, AList.lookup (ns ++ "/" ++ name) cache = some x → value ns name = .ok x

/-- A key tells its namespace and its name. -/
theorem key_inj {ns ns' name name' : String} (h : '/' ∉ ns.toList) (h' : '/' ∉ ns'.toList)
    (heq : ns ++ "/" ++ name = ns' ++ "/" ++ name') : ns = ns' ∧ name = name' := by
  have := congrArg String.toList heq
  simp only [String.toList_append, List.append_assoc] at this
  obtain ⟨hns, hname⟩ := append_sep_inj h h' this
  exact ⟨String.toList_inj.mp hns, String.toList_inj.mp hname⟩

/-- A read through a cache answers what the child cluster has. -/
theorem readOnce_cached {α : Type} {cache : GoMap α} {value : (ns name : String) → Except Err α}
    (h : Cached cache value) {ns : String} (hns : '/' ∉ ns.toList) (name : String) :
    readOnce cache (ns ++ "/" ++ name) (pure (value ns name) : Id _) = pure (value ns name) := by
  unfold readOnce
  split
  · rename_i x hx
    rw [h ns name hns x hx]
  · rfl

/-- What is read is put into the cache. -/
theorem Cached.insert {α : Type} {cache : GoMap α} {value : (ns name : String) → Except Err α}
    (h : Cached cache value) {ns name : String} (hns : '/' ∉ ns.toList) {x : α} (hx : value ns name = .ok x) :
    Cached (cache.insert (ns ++ "/" ++ name) x) value := by
  intro ns' name' hns' x' hx'
  by_cases hkey : ns' ++ "/" ++ name' = ns ++ "/" ++ name
  · obtain ⟨rfl, rfl⟩ := key_inj hns' hns hkey
    rw [AList.lookup_insert, Option.some.injEq] at hx'
    rw [hx, hx']
  · rw [AList.lookup_insert_ne hkey] at hx'
    exact h ns' name' hns' x' hx'

/-- The caches of the collector hold only what the child cluster has. -/
def CollectedFrom (c : ServingCluster) (state : Collected) : Prop :=
  Cached state.services (fun ns name => .ok (c.service ns name)) ∧ Cached state.endpoints c.endpoints

/-- One turn of the collector adds the backend of the path. -/
theorem collectPath_client (c : ServingCluster) {ingress : Ingress} (hns : '/' ∉ ingress.metadata.ns.toList)
    {state : Collected} (h : CollectedFrom c state) (path : HTTPIngressPath × IngressServiceBackend) :
    ∃ state' : Collected, collectPath c.client ingress state path = pure state' ∧ CollectedFrom c state' ∧
      state'.backends = state.backends ++ [backendOf c ingress path] := by
  have hservices : Cached (state.services.insert (ingress.metadata.ns ++ "/" ++ path.2.name)
    (c.service ingress.metadata.ns path.2.name))
      fun ns name => .ok (c.service ns name) := h.1.insert hns rfl
  have hservice := readOnce_cached h.1 hns path.2.name
  have hendpoints := readOnce_cached h.2 hns path.2.name
  unfold collectPath
  simp only [ServingCluster.client, hservice, pure_bind, hendpoints]
  cases hread : c.endpoints ingress.metadata.ns path.2.name with
  | error e => exact ⟨_, rfl, ⟨hservices, h.2⟩, by simp [backendOf, hread, Except.toOption]⟩
  | ok endpoints => exact ⟨_, rfl, ⟨hservices, h.2.insert hns hread⟩, by simp [backendOf, hread, Except.toOption]⟩

/-- The paths of an ingress add their backends. -/
theorem collectPaths_client (c : ServingCluster) {ingress : Ingress} (hns : '/' ∉ ingress.metadata.ns.toList)
    (paths : List (HTTPIngressPath × IngressServiceBackend)) {state : Collected} (h : CollectedFrom c state) :
    ∃ state' : Collected, paths.foldlM (collectPath c.client ingress) state = pure state' ∧ CollectedFrom c state' ∧
      state'.backends = state.backends ++ paths.map (backendOf c ingress) := by
  induction paths generalizing state with
  | nil => exact ⟨state, rfl, h, by simp⟩
  | cons path rest ih =>
    obtain ⟨state₁, heq₁, h₁, hb₁⟩ := collectPath_client c hns h path
    obtain ⟨state₂, heq₂, h₂, hb₂⟩ := ih h₁
    refine ⟨state₂, ?_, h₂, by simp [hb₂, hb₁]⟩
    rw [List.foldlM_cons, heq₁, pure_bind, heq₂]

/-- The ingresses add the backends of their paths. -/
theorem collectIngresses_client (c : ServingCluster) (ingresses : List Ingress)
    (hns : ∀ ingress ∈ ingresses, '/' ∉ ingress.metadata.ns.toList) {state : Collected} (h : CollectedFrom c state) :
    ∃ state' : Collected,
      ingresses.foldlM (fun state ingress => ingress.servicePaths.foldlM (collectPath c.client ingress) state)
        state = pure state' ∧
      CollectedFrom c state' ∧
      state'.backends = state.backends ++ ingresses.flatMap fun ingress => ingress.servicePaths.map
        (backendOf c ingress) := by
  induction ingresses generalizing state with
  | nil => exact ⟨state, rfl, h, by simp⟩
  | cons ingress rest ih =>
    obtain ⟨state₁, heq₁, h₁, hb₁⟩ := collectPaths_client c (hns ingress List.mem_cons_self) ingress.servicePaths h
    obtain ⟨state₂, heq₂, h₂, hb₂⟩ := ih (fun i hi => hns i (List.mem_cons_of_mem _ hi)) h₁
    refine ⟨state₂, ?_, h₂, by simp [hb₂, hb₁]⟩
    rw [List.foldlM_cons, heq₁, pure_bind, heq₂]

/-- The backends the collector makes of a child cluster. -/
def backends (c : ServingCluster) : List ChildIngressBackend :=
  (c.ingresses.filter (·.isMirrored)).flatMap fun ingress => ingress.servicePaths.map (backendOf c ingress)

/-- The mirror of a child cluster is what is rendered for these backends. -/
theorem mirrorChildIngresses_serving (c : ServingCluster) (cluster : VirtualCluster) (resolved : ResolvedSnapshot)
    (appsSuffix : String) (hsuffix : trimSpace appsSuffix.toList ≠ []) :
    (mirrorChildIngresses cluster resolved appsSuffix c.client).run = renderIngressMirror cluster resolved appsSuffix
      (backends c) := by
  have hcached : CollectedFrom c {} := ⟨nofun, nofun⟩
  obtain ⟨state, hstate, -, hbackends⟩ := collectIngresses_client c (c.ingresses.filter (·.isMirrored))
    (fun i hi => c.namespaces i (List.mem_filter.mp hi).1) hcached
  have hlist : c.client.listIngresses = pure (.ok c.ingresses) := rfl
  rw [mirrorChildIngresses, if_neg hsuffix, hlist, pure_bind]
  dsimp only
  rw [hstate, pure_bind, Id.run_pure, hbackends, List.nil_append, backends]

/-! ## The renderer -/

/-- A port that is found is one. -/
theorem mirrorServicePort_pos {service : Option Service} {port : ServiceBackendPort} {number : Int}
    (h : mirrorServicePort service port = some number) : 0 < number := by
  unfold mirrorServicePort at h
  by_cases hnumber : port.number > 0
  · rw [if_pos hnumber, Option.some.injEq] at h
    exact h ▸ hnumber
  · rw [if_neg hnumber] at h
    cases service with
    | none => nomatch h
    | some service =>
      dsimp only at h
      split_ifs at h
      obtain ⟨found, hfound, rfl⟩ := Option.map_eq_some_iff.mp h
      have hpos := List.find?_some hfound
      simp only [Bool.and_eq_true, decide_eq_true_eq] at hpos
      exact hpos.2

section

variable (ns : String) (labels : StringMap) (hostname : String) (state : MirrorState) {backend : ChildIngressBackend}
  {path : HTTPIngressPath × IngressServiceBackend}

/-- A path without a port does nothing. -/
theorem mirrorPath_none (hport : mirrorServicePort backend.service path.2.port = none) :
    mirrorPath ns labels hostname backend state path = state := by
  rw [mirrorPath, hport]

/-- What a path with a port does to the names and the objects: it adds those of its name, if these are not there. -/
theorem mirrorPath_some {port : Int} (hport : mirrorServicePort backend.service path.2.port = some port) :
    (mirrorServiceName backend.ingress path.2 port ∈ state.seen ∧
      (mirrorPath ns labels hostname backend state path).seen = state.seen ∧
      (mirrorPath ns labels hostname backend state path).objects = state.objects) ∨
    (mirrorServiceName backend.ingress path.2 port ∉ state.seen ∧
      (mirrorPath ns labels hostname backend state path).seen = state.seen ++
        [mirrorServiceName backend.ingress path.2 port] ∧
      (mirrorPath ns labels hostname backend state path).objects = state.objects ++
        [mirrorService (mirrorServiceName backend.ingress path.2 port) ns labels port,
          mirrorEndpoints (mirrorServiceName backend.ingress path.2 port) ns labels backend.endpoints]) := by
  rw [mirrorPath, hport]
  dsimp only
  by_cases hseen : mirrorServiceName backend.ingress path.2 port ∈ state.seen
  · left
    simp [hseen]
  · right
    simp [hseen]

/-- What is pending after a path with a port. -/
theorem pending_mirrorPath {port : Int} (hport : mirrorServicePort backend.service path.2.port = some port) :
    (mirrorPath ns labels hostname backend state path).pending = addPending (hostIngressName backend.ingress)
      (mirrorRule hostname path.1 (mirrorServiceName backend.ingress path.2 port) port) state.pending := by
  rw [mirrorPath, hport]
  dsimp only
  split_ifs <;> rfl

end

section

variable {P : Manifest → Prop} {clusterName appsSuffix ns : String} {labels : StringMap} {state : MirrorState}

/-- What holds of every Service and of all Endpoints that a path may add holds of the objects after it. -/
theorem forall_mirrorPath (hservice : ∀ name port, P (mirrorService name ns labels port))
    (hendpoints : ∀ name endpoints, P (mirrorEndpoints name ns labels endpoints))
    (h : ∀ manifest ∈ state.objects, P manifest) (hostname : String) (backend : ChildIngressBackend)
    (path : HTTPIngressPath × IngressServiceBackend) :
    ∀ manifest ∈ (mirrorPath ns labels hostname backend state path).objects, P manifest := by
  cases hport : mirrorServicePort backend.service path.2.port with
  | none =>
    rw [mirrorPath_none ns labels hostname state hport]
    exact h
  | some port =>
    rcases mirrorPath_some ns labels hostname state hport with ⟨-, -, hobjects⟩ | ⟨-, -, hobjects⟩
    · rw [hobjects]
      exact h
    · rw [hobjects]
      intro manifest hmanifest
      rcases List.mem_append.mp hmanifest with hold | hnew
      · exact h manifest hold
      · simp only [List.mem_cons, List.not_mem_nil, or_false] at hnew
        rcases hnew with rfl | rfl
        · exact hservice _ _
        · exact hendpoints _ _

/-- It holds of all objects that backends add; the rules are still pending then. -/
theorem forall_mirrorBackends (hservice : ∀ name port, P (mirrorService name ns labels port))
    (hendpoints : ∀ name endpoints, P (mirrorEndpoints name ns labels endpoints))
    (backends : List ChildIngressBackend) :
    ∀ manifest ∈ (backends.foldl (mirrorBackend clusterName appsSuffix ns labels) {}).objects, P manifest := by
  refine List.foldlRecOn (motive := fun state : MirrorState => ∀ manifest ∈ state.objects, P manifest)
    backends _ (by simp) ?_
  intro state hstate backend _
  unfold mirrorBackend
  split_ifs
  · exact List.foldlRecOn (motive := fun state : MirrorState => ∀ manifest ∈ state.objects, P manifest)
      backend.ingress.servicePaths _ hstate
      fun state hstate path _ => forall_mirrorPath hservice hendpoints hstate _ backend path
  · exact hstate

end

/-- What one attempt adds. -/
def mirrorAttempt (c : ChildCluster) (clusterName appsSuffix ns : String) (labels : StringMap) (state : MirrorState)
    (a : Attempt) :
    MirrorState :=
  let state :=
    if state.seen.contains a.serviceName then state
    else
      { state with
        seen := state.seen ++ [a.serviceName]
        objects := state.objects ++
          [mirrorService a.serviceName ns labels a.port,
            mirrorEndpoints a.serviceName ns labels (some (c.endpoints a.ingress.metadata.ns a.via.name))] }
  { state with pending := addPending (hostIngressName a.ingress) (a.rule clusterName appsSuffix) state.pending }

/-- The two loops of the renderer are one loop over the attempts. -/
theorem mirrorBackends_eq (c : ChildCluster) (clusterName appsSuffix ns : String) (labels : StringMap)
    (state : MirrorState) :
    (backends c.serving).foldl (mirrorBackend clusterName appsSuffix ns labels) state =
      c.attempts.foldl (mirrorAttempt c clusterName appsSuffix ns labels) state := by
  simp only [backends, ChildCluster.attempts, List.foldl_flatMap, List.foldl_map]
  refine List.foldl_ext _ _ _ fun state ingress hingress => List.foldl_ext _ _ _ fun state path _ => ?_
  have hclass : ingress.isMirrored = true := (List.mem_filter.mp hingress).2
  simp only [mirrorBackend, backendOf_serving, hclass, if_true, ChildCluster.attemptsVia, List.foldl_filterMap]
  refine List.foldl_ext _ _ _ fun state path' _ => ?_
  unfold mirrorPath
  split
  · rename_i hport
    simp [hport]
  · rename_i port hport
    simp only [hport, Option.map_some]
    rfl

/-- The names that were seen are those with objects. -/
structure Written (state : MirrorState) : Prop where
  port : ∀ name, name ∈ state.seen ↔ (hostServicePort state.objects name).isSome
  addresses : ∀ name, name ∈ state.seen ↔ (hostAddresses state.objects name).isSome

variable {c : ChildCluster} {clusterName appsSuffix ns : String} {labels : StringMap}

/-- The port of a name after one attempt. -/
theorem hostServicePort_mirrorAttempt {state : MirrorState} (h : Written state) (a : Attempt) (name : String) :
    hostServicePort (mirrorAttempt c clusterName appsSuffix ns labels state a).objects name =
      (hostServicePort state.objects name).or (if a.serviceName = name then some a.port else none) := by
  unfold mirrorAttempt
  by_cases hseen : a.serviceName ∈ state.seen
  · simp only [List.contains_iff_mem.mpr hseen, if_true]
    split_ifs with hname
    · obtain ⟨port, hport⟩ := Option.isSome_iff_exists.mp ((h.port name).mp (hname ▸ hseen))
      simp [hport]
    · simp
  · simp [hseen, hostServicePort, mirrorService, mirrorEndpoints, objectMeta, Manifest.servicePort, List.findSome?]
    split_ifs <;> rfl

/-- The addresses of a name after one attempt. -/
theorem hostAddresses_mirrorAttempt {state : MirrorState} (h : Written state) (a : Attempt) (name : String) :
    hostAddresses (mirrorAttempt c clusterName appsSuffix ns labels state a).objects name =
      (hostAddresses state.objects name).or
        (if a.serviceName = name then some (c.endpoints a.ingress.metadata.ns a.via.name).addresses else none) := by
  unfold mirrorAttempt
  by_cases hseen : a.serviceName ∈ state.seen
  · simp only [List.contains_iff_mem.mpr hseen, if_true]
    split_ifs with hname
    · obtain ⟨addresses, haddresses⟩ := Option.isSome_iff_exists.mp ((h.addresses name).mp (hname ▸ hseen))
      simp [haddresses]
    · simp
  · simp [hseen, hostAddresses, mirrorService, mirrorEndpoints, objectMeta, Endpoints.addresses,
      Manifest.endpointAddresses,
      List.findSome?, List.flatMap_map]
    split_ifs <;> rfl

/-- An attempt writes its name. -/
theorem mem_seen_mirrorAttempt {state : MirrorState} (a : Attempt) (name : String) :
    name ∈ (mirrorAttempt c clusterName appsSuffix ns labels state a).seen ↔ name ∈ state.seen ∨
      a.serviceName = name := by
  unfold mirrorAttempt
  by_cases hseen : a.serviceName ∈ state.seen
  · simp only [List.contains_iff_mem.mpr hseen, if_true]
    exact ⟨Or.inl, fun h => h.elim id fun heq => heq ▸ hseen⟩
  · simp [hseen, eq_comm]

/-- An attempt keeps what was seen and what was written together. -/
theorem Written.mirrorAttempt {state : MirrorState} (h : Written state) (a : Attempt) :
    Written (MirrorAux.mirrorAttempt c clusterName appsSuffix ns labels state a) := by
  refine ⟨fun name => ?_, fun name => ?_⟩
  · rw [mem_seen_mirrorAttempt, hostServicePort_mirrorAttempt h, h.port name]
    by_cases hname : a.serviceName = name <;> simp [hname]
  · rw [mem_seen_mirrorAttempt, hostAddresses_mirrorAttempt h, h.addresses name]
    by_cases hname : a.serviceName = name <;> simp [hname]

/-- The port of a name after all attempts is that of the first attempt of that name. -/
theorem hostServicePort_attempts (l : List Attempt) {state : MirrorState} (h : Written state) (name : String) :
    hostServicePort (l.foldl (mirrorAttempt c clusterName appsSuffix ns labels) state).objects name =
      (hostServicePort state.objects name).or ((l.find? fun a => a.serviceName == name).map (·.port)) := by
  induction l generalizing state with
  | nil => simp
  | cons a l ih =>
    rw [List.foldl_cons, ih (h.mirrorAttempt a), hostServicePort_mirrorAttempt h, Option.or_assoc, List.find?_cons]
    by_cases hname : a.serviceName = name
    · simp [hname]
    · simp [hname, beq_eq_false_iff_ne.mpr hname]

/-- The addresses of a name after all attempts are those the first attempt of that name had at hand. -/
theorem hostAddresses_attempts (l : List Attempt) {state : MirrorState} (h : Written state) (name : String) :
    hostAddresses (l.foldl (mirrorAttempt c clusterName appsSuffix ns labels) state).objects name =
      (hostAddresses state.objects name).or
        ((l.find? fun a => a.serviceName == name).map fun a =>
          (c.endpoints a.ingress.metadata.ns a.via.name).addresses) := by
  induction l generalizing state with
  | nil => simp
  | cons a l ih =>
    rw [List.foldl_cons, ih (h.mirrorAttempt a), hostAddresses_mirrorAttempt h, Option.or_assoc, List.find?_cons]
    by_cases hname : a.serviceName = name
    · simp [hname]
    · simp [hname, beq_eq_false_iff_ne.mpr hname]

/-! ## The rules -/

/-- A rule that is pending for some host ingress. -/
def IsPending (state : MirrorState) (rule : MirrorRule) : Prop := ∃ entry ∈ state.pending, rule ∈ entry.2

/-- Adding a rule adds the name of its host ingress, if it is not there. -/
theorem names_addPending (name : String) (rule : MirrorRule) (pending : List (String × List MirrorRule)) :
    (addPending name rule pending).map (·.1) =
      if name ∈ pending.map (·.1) then pending.map (·.1) else pending.map (·.1) ++ [name] := by
  induction pending with
  | nil => rfl
  | cons entry rest ih =>
    obtain ⟨other, rules⟩ := entry
    rw [addPending]
    by_cases hother : other = name
    · simp [hother]
    · rw [if_neg hother, List.map_cons, ih]
      by_cases hrest : name ∈ rest.map (·.1)
      · simp [hrest]
      · simp [hrest, Ne.symm hother]

/-- Adding a rule keeps the rules that are pending, and adds it. -/
theorem mem_addPending (name : String) (rule : MirrorRule) (pending : List (String × List MirrorRule))
    (r : MirrorRule) :
    (∃ entry ∈ addPending name rule pending, r ∈ entry.2) ↔ r = rule ∨ ∃ entry ∈ pending, r ∈ entry.2 := by
  induction pending with
  | nil => simp [addPending]
  | cons entry rest ih =>
    unfold addPending
    split_ifs
    · simp only [List.mem_cons, exists_eq_or_imp, List.mem_append, List.not_mem_nil, or_false]
      tauto
    · simp only [List.mem_cons, exists_eq_or_imp, ih]
      tauto

/-- The rules pending after all attempts are theirs, and those from before. -/
theorem isPending_attempts (l : List Attempt) (state : MirrorState) (r : MirrorRule) :
    IsPending (l.foldl (mirrorAttempt c clusterName appsSuffix ns labels) state) r ↔
      (∃ a ∈ l, r = a.rule clusterName appsSuffix) ∨ IsPending state r := by
  induction l generalizing state with
  | nil => simp
  | cons a l ih =>
    have hstep : IsPending (mirrorAttempt c clusterName appsSuffix ns labels state a) r ↔
        r = a.rule clusterName appsSuffix ∨ IsPending state r := by
      have hpending : (mirrorAttempt c clusterName appsSuffix ns labels state a).pending =
          addPending (hostIngressName a.ingress) (a.rule clusterName appsSuffix) state.pending := by
        unfold mirrorAttempt
        split_ifs <;> rfl
      rw [IsPending, hpending]
      exact mem_addPending _ _ _ _
    rw [List.foldl_cons, ih, hstep]
    simp only [List.mem_cons, exists_eq_or_imp]
    rw [or_assoc, or_left_comm]

end MirrorAux
end KubeCell
