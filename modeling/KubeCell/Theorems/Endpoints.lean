import KubeCell.Theorems.Mirror

namespace KubeCell

/-!
# The ports of mirrored endpoints

The host endpoints of a path get every port of every subset of the child endpoints, without its name. So they
serve the port the path refers to, and nothing else, exactly when the child endpoints have no port for
another port of the service.
-/

open MirrorAux

/-- A path refers to a port of a service, by its number or by its name. -/
inductive ServiceBackendPort.RefersTo (port : ServiceBackendPort) (service : Service)
    (servicePort : ServicePort) : Prop where
  | byNumber (hmem : servicePort ∈ service.ports) (hpos : 0 < servicePort.port)
    (hnumber : port.number = servicePort.port)
  | byName (hmem : servicePort ∈ service.ports) (hpos : 0 < servicePort.port) (hnumber : port.number = 0)
    (hname : port.name ≠ "")
      (heq : servicePort.name = port.name)

/-- A subset of endpoints is valid: where it has several ports, they all have names. -/
def EndpointSubset.Valid (subset : EndpointSubset) : Prop :=
  1 < subset.ports.length → ∀ port ∈ subset.ports, port.name ≠ ""

/-- Endpoints are valid for a service: every subset is valid, and its ports have the names of ports of
the service, each once. -/
structure Endpoints.ValidFor (endpoints : Endpoints) (service : Service) : Prop where
  valid : ∀ subset ∈ endpoints.subsets, subset.Valid
  backed : ∀ subset ∈ endpoints.subsets, ∀ port ∈ subset.ports, ∃ servicePort ∈ service.ports,
    servicePort.name = port.name
  apart : ∀ subset ∈ endpoints.subsets, (subset.ports.map (·.name)).Nodup

/-- Where a port leads: its number and its protocol. -/
def EndpointPort.target (port : EndpointPort) : Int × String := (port.port, port.protocol)

/-- The ports of a subset that back a port of the service. -/
def EndpointSubset.backing (subset : EndpointSubset) (servicePort : ServicePort) : List EndpointPort :=
  subset.ports.filter fun port => port.name == servicePort.name

/-- The subsets serve one port of the service: each has exactly the ports that back it in the child
endpoints, and each is valid. -/
structure ServesPort (endpoints : Endpoints) (servicePort : ServicePort) (subsets : List EndpointSubset) : Prop where
  exactly : List.Forall₂ (fun subset source => subset.ports.map (·.target) =
    (source.backing servicePort).map (·.target))
    subsets endpoints.subsets
  valid : ∀ subset ∈ subsets, subset.Valid

/-- The subsets of a manifest that is host endpoints of a name. -/
def Manifest.endpointSubsets (name : String) : Manifest → Option (List EndpointSubset)
  | .endpoints metadata subsets => if metadata.name = name then some subsets else none
  | _ => none

/-- The host endpoints of a name. -/
def hostEndpoints (objects : List Manifest) (name : String) : List (List EndpointSubset) :=
  objects.filterMap (·.endpointSubsets name)

/-- The backend has a path whose host service has the name. -/
def ChildIngressBackend.Takes (backend : ChildIngressBackend) (name : String) : Prop :=
  backend.ingress.isMirrored = true ∧ ∃ path ∈ backend.ingress.servicePaths, ∃ port,
    mirrorServicePort backend.service path.2.port = some port ∧ mirrorServiceName backend.ingress path.2 port = name

/-- The child endpoints have no port but those that back the port of the service. -/
def Endpoints.OnlyBacks (endpoints : Endpoints) (servicePort : ServicePort) : Prop :=
  ∀ subset ∈ endpoints.subsets, ∀ port ∈ subset.ports, port.name = servicePort.name

namespace EndpointsAux

/-- A port a path refers to is found. -/
theorem mirrorServicePort_of_refersTo {port : ServiceBackendPort} {service : Service} {servicePort : ServicePort}
    (h : port.RefersTo service servicePort) : ∃ number, mirrorServicePort (some service) port = some number := by
  unfold mirrorServicePort
  cases h with
  | byNumber hmem hpos hnumber =>
    rw [if_pos (hnumber ▸ hpos)]
    exact ⟨_, rfl⟩
  | byName hmem hpos hnumber hname heq =>
    rw [if_neg (by omega)]
    dsimp only
    rw [if_neg hname]
    have hfound : (service.ports.find? fun p => p.name == port.name && decide (p.port > 0)).isSome :=
      List.find?_isSome.mpr ⟨servicePort, hmem, by simp [heq, hpos]⟩
    obtain ⟨found, hfound⟩ := Option.isSome_iff_exists.mp hfound
    exact ⟨found.port, by rw [hfound, Option.map_some]⟩

/-- What the subsets of child endpoints become. -/
def stripped (endpoints : Option Endpoints) : List EndpointSubset :=
  ((endpoints.map (·.subsets)).getD []).map fun subset =>
    { addresses := subset.addresses, ports := subset.ports.map fun port => { port with name := "" } }

/-- The names that were seen are those with host endpoints. -/
def Told (state : MirrorState) (name : String) (subsets : List EndpointSubset) : Prop :=
  name ∈ state.seen ∧ hostEndpoints state.objects name = [subsets]

@[inherit_doc Told] def Untold (state : MirrorState) (name : String) : Prop :=
  name ∉ state.seen ∧ hostEndpoints state.objects name = []

section

variable {ns : String} {labels : StringMap} {hostname name : String} {backend : ChildIngressBackend}
  {state : MirrorState} {path : HTTPIngressPath × IngressServiceBackend} {subsets : List EndpointSubset}

/-- The host endpoints of a name with those of one more path. -/
theorem hostEndpoints_append (objects : List Manifest) (serviceName name : String) (port : Int)
    (endpoints : Option Endpoints) :
    hostEndpoints (objects ++ [mirrorService serviceName ns labels port,
      mirrorEndpoints serviceName ns labels endpoints]) name =
      hostEndpoints objects name ++ if serviceName = name then [stripped endpoints] else [] := by
  rw [hostEndpoints, List.filterMap_append, ← hostEndpoints]
  by_cases hname : serviceName = name
  · simp [mirrorService, mirrorEndpoints, Manifest.endpointSubsets, objectMeta, hname, stripped]
  · simp [mirrorService, mirrorEndpoints, Manifest.endpointSubsets, objectMeta, hname]

/-- What was told stays. -/
theorem told_mirrorPath (h : Told state name subsets) :
    Told (mirrorPath ns labels hostname backend state path) name subsets := by
  cases hport : mirrorServicePort backend.service path.2.port with
  | none =>
    rw [mirrorPath_none ns labels hostname state hport]
    exact h
  | some port =>
    obtain ⟨-, hseen, hobjects⟩ | ⟨hnew, hseen, hobjects⟩ := mirrorPath_some ns labels hostname state hport
    · exact ⟨hseen ▸ h.1, hobjects ▸ h.2⟩
    · have hname : mirrorServiceName backend.ingress path.2 port ≠ name := by
        rintro rfl
        exact hnew h.1
      refine ⟨hseen ▸ List.mem_append_left _ h.1, ?_⟩
      rw [hobjects, hostEndpoints_append, if_neg hname, List.append_nil, h.2]

/-- The first path of a name tells its endpoints; a path of another name does not. -/
theorem untold_mirrorPath (ns : String) (labels : StringMap) (hostname : String) (backend : ChildIngressBackend)
    (path : HTTPIngressPath × IngressServiceBackend) (h : Untold state name) :
    (Told (mirrorPath ns labels hostname backend state path) name (stripped backend.endpoints) ∧
      ∃ port, mirrorServicePort backend.service path.2.port = some port ∧
        mirrorServiceName backend.ingress path.2 port = name) ∨
    (Untold (mirrorPath ns labels hostname backend state path) name ∧
      ∀ port, mirrorServicePort backend.service path.2.port = some port →
        mirrorServiceName backend.ingress path.2 port ≠ name) := by
  cases hport : mirrorServicePort backend.service path.2.port with
  | none =>
    rw [mirrorPath_none ns labels hostname state hport]
    exact Or.inr ⟨h, fun port hsome => nomatch hsome⟩
  | some port =>
    obtain ⟨hold, hseen, hobjects⟩ | ⟨hnew, hseen, hobjects⟩ := mirrorPath_some ns labels hostname state hport
    · refine Or.inr ⟨⟨hseen ▸ h.1, hobjects ▸ h.2⟩, ?_⟩
      rintro port' hport' rfl
      cases hport'
      exact h.1 hold
    · by_cases hname : mirrorServiceName backend.ingress path.2 port = name
      · refine Or.inl ⟨⟨?_, ?_⟩, port, rfl, hname⟩
        · rw [hseen, hname]
          simp
        · rw [hobjects, hostEndpoints_append, if_pos hname, h.2, List.nil_append]
      · refine Or.inr ⟨⟨?_, ?_⟩, ?_⟩
        · rw [hseen]
          intro hmem
          rcases List.mem_append.mp hmem with hold | hnew
          · exact h.1 hold
          · exact hname (List.mem_singleton.mp hnew).symm
        · rw [hobjects, hostEndpoints_append, if_neg hname, h.2, List.append_nil]
        · intro port' hport'
          cases hport'
          exact hname

/-- What was told stays over all paths of a backend. -/
theorem told_mirrorBackend {clusterName appsSuffix : String} (h : Told state name subsets) :
    Told (mirrorBackend clusterName appsSuffix ns labels state backend) name subsets := by
  unfold mirrorBackend
  split_ifs
  · exact List.foldlRecOn (motive := fun state => Told state name subsets) _ _ h fun state hstate path _ =>
      told_mirrorPath hstate
  · exact h

/-- After some paths of a backend, the name has the endpoints of the backend if one of them takes it. -/
theorem untold_paths (paths : List (HTTPIngressPath × IngressServiceBackend)) (h : Untold state name) :
    Untold (paths.foldl (mirrorPath ns labels hostname backend) state) name ∧ (∀ path ∈ paths, ∀ port,
      mirrorServicePort backend.service path.2.port = some port →
        mirrorServiceName backend.ingress path.2 port ≠ name) ∨
    Told (paths.foldl (mirrorPath ns labels hostname backend) state) name (stripped backend.endpoints) ∧
      ∃ path ∈ paths, ∃ port,
      mirrorServicePort backend.service path.2.port = some port ∧
        mirrorServiceName backend.ingress path.2 port = name := by
  induction paths generalizing state with
  | nil => exact Or.inl ⟨h, fun path hpath => nomatch hpath⟩
  | cons path paths ih =>
    rw [List.foldl_cons]
    obtain ⟨htold, port, hport, hname⟩ | ⟨huntold, hother⟩ := untold_mirrorPath ns labels hostname backend path h
    · right
      refine ⟨?_, path, List.mem_cons_self, port, hport, hname⟩
      exact List.foldlRecOn (motive := fun state => Told state name _) _ _ htold fun state hstate path _ =>
        told_mirrorPath hstate
    · obtain ⟨huntold', hothers⟩ | ⟨htold, path', hpath', htakes⟩ := ih huntold
      · exact Or.inl ⟨huntold', List.forall_mem_cons.mpr ⟨hother, hothers⟩⟩
      · exact Or.inr ⟨htold, path', List.mem_cons_of_mem _ hpath', htakes⟩

/-- A backend that takes a name gives it its endpoints, and one that does not leaves it alone. -/
theorem untold_mirrorBackend (clusterName appsSuffix ns : String) (labels : StringMap) (backend : ChildIngressBackend)
    (h : Untold state name) :
    Untold (mirrorBackend clusterName appsSuffix ns labels state backend) name ∧ ¬backend.Takes name ∨
    Told (mirrorBackend clusterName appsSuffix ns labels state backend) name (stripped backend.endpoints) ∧
      backend.Takes name := by
  unfold mirrorBackend
  split_ifs with hclass
  · obtain ⟨huntold, hothers⟩ | ⟨htold, htakes⟩ := untold_paths backend.ingress.servicePaths h
    · refine Or.inl ⟨huntold, ?_⟩
      rintro ⟨-, path, hpath, port, hport, hname⟩
      exact hothers path hpath port hport hname
    · exact Or.inr ⟨htold, hclass, htakes⟩
  · exact Or.inl ⟨h, fun htakes => hclass htakes.1⟩

/-- Of the backends, the first that takes a name gives it its endpoints. -/
theorem told_backends {clusterName appsSuffix : String} {before : List ChildIngressBackend}
    (hfirst : ∀ b ∈ before, ¬b.Takes name) (htakes : backend.Takes name) (after : List ChildIngressBackend)
    (h : Untold state name) :
    Told ((before ++ backend :: after).foldl (mirrorBackend clusterName appsSuffix ns labels) state) name
      (stripped backend.endpoints) := by
  induction before generalizing state with
  | nil =>
    obtain ⟨-, hnot⟩ | ⟨htold, -⟩ := untold_mirrorBackend clusterName appsSuffix ns labels backend h
    · exact absurd htakes hnot
    · exact List.foldlRecOn (motive := fun state => Told state name _) after _ htold fun state hstate b _ =>
        told_mirrorBackend hstate
  | cons b before ih =>
    rw [List.forall_mem_cons] at hfirst
    obtain ⟨huntold, -⟩ | ⟨-, hb⟩ := untold_mirrorBackend clusterName appsSuffix ns labels b h
    · exact ih hfirst.2 huntold
    · exact absurd hb hfirst.1

/-- An ingress is no endpoints. -/
theorem hostEndpoints_pending (objects : List Manifest) (pending : List (String × List MirrorRule)) (name : String) :
    hostEndpoints (objects ++ pending.map fun entry => mirrorIngress entry.1 ns labels entry.2) name =
      hostEndpoints objects name := by
  rw [hostEndpoints, List.filterMap_append, ← hostEndpoints, List.filterMap_map]
  have hnone : ((·.endpointSubsets name) ∘ fun entry : String × List MirrorRule =>
    mirrorIngress entry.1 ns labels entry.2) =
      fun _ => (none : Option (List EndpointSubset)) := rfl
  rw [hnone, List.filterMap_none, List.append_nil]

end

/-- Endpoints without names are valid exactly when no subset has more than one port. -/
theorem stripped_valid_iff (endpoints : Endpoints) :
    (∀ subset ∈ stripped (some endpoints), subset.Valid) ↔ ∀ subset ∈ endpoints.subsets, subset.ports.length ≤ 1 := by
  rw [stripped, Option.map_some, Option.getD_some, List.forall_mem_map]
  refine forall₂_congr fun subset _ => ?_
  rw [EndpointSubset.Valid, List.length_map, List.forall_mem_map]
  constructor
  · intro hvalid
    by_contra hlen
    obtain ⟨port, hport⟩ := List.exists_mem_of_length_pos (l := subset.ports) (by omega)
    exact hvalid (by omega) port hport rfl
  · intro hlen hmany
    omega

/-- A list is as long as what is kept of it exactly when all of it is kept. -/
theorem stripped_exactly_iff (endpoints : Endpoints) (servicePort : ServicePort) :
    List.Forall₂ (fun subset source => subset.ports.map (·.target) = (source.backing servicePort).map (·.target))
      (stripped (some endpoints)) endpoints.subsets ↔ endpoints.OnlyBacks servicePort := by
  rw [stripped, Option.map_some, Option.getD_some, List.forall₂_map_left_iff, List.forall₂_same, Endpoints.OnlyBacks]
  refine forall₂_congr fun subset _ => ?_
  rw [List.map_map, EndpointSubset.backing]
  constructor
  · intro heq
    have hlen := congrArg List.length heq
    rw [List.length_map, List.length_map] at hlen
    simpa using List.length_filter_eq_length_iff.mp hlen.symm
  · intro hall
    rw [List.filter_eq_self.mpr fun port hport => beq_iff_eq.mpr (hall port hport)]
    rfl

/-- Endpoints that back one port of a service have one port at most in each subset. -/
theorem length_le_one_of_onlyBacks {service : Service} {endpoints : Endpoints} (hvalid : endpoints.ValidFor service)
    {servicePort : ServicePort} (h : endpoints.OnlyBacks servicePort) :
    ∀ subset ∈ endpoints.subsets, subset.ports.length ≤ 1 := by
  intro subset hsubset
  have hnodup := hvalid.apart subset hsubset
  rw [List.map_eq_replicate_iff.mpr (h subset hsubset), List.nodup_replicate] at hnodup
  exact hnodup

/-- What endpoints become serves one port of the service exactly when they back only that port. -/
theorem stripped_serves_iff {service : Service} {endpoints : Endpoints} (hvalid : endpoints.ValidFor service)
    (servicePort : ServicePort) :
    ServesPort endpoints servicePort (stripped (some endpoints)) ↔ endpoints.OnlyBacks servicePort := by
  constructor
  · intro h
    exact (stripped_exactly_iff endpoints servicePort).mp h.exactly
  · intro h
    exact ⟨(stripped_exactly_iff endpoints servicePort).mpr h,
      (stripped_valid_iff endpoints).mpr (length_le_one_of_onlyBacks hvalid h)⟩

end EndpointsAux

open EndpointsAux

/-- The host endpoints that are rendered for a path serve the port of the service the path refers to, and no other,
exactly when the child endpoints have no port that backs another port of the service. -/
theorem mirror_endpoints_serve_iff (cluster : VirtualCluster) (resolved : ResolvedSnapshot) (appsSuffix : String)
    (hsuffix : trimSpace appsSuffix.toList ≠ []) (hns : resolved.hostNamespace ≠ "")
    (before after : List ChildIngressBackend) (ingress : Ingress) (service : Service) (endpoints : Endpoints)
    (path : HTTPIngressPath × IngressServiceBackend) (servicePort : ServicePort)
    (hclass : ingress.isMirrored = true) (hpath : path ∈ ingress.servicePaths)
      (hrefers : path.2.port.RefersTo service servicePort)
    (hvalid : endpoints.ValidFor service) :
    ∃ port, mirrorServicePort (some service) path.2.port = some port ∧
      ((∀ b ∈ before, ¬b.Takes (mirrorServiceName ingress path.2 port)) →
        ∃ objects subsets,
          renderIngressMirror cluster resolved appsSuffix
            (before ++ ⟨ingress, some service, some endpoints⟩ :: after) = .ok objects ∧
          hostEndpoints objects (mirrorServiceName ingress path.2 port) = [subsets] ∧
          (ServesPort endpoints servicePort subsets ↔ endpoints.OnlyBacks servicePort)) := by
  obtain ⟨port, hport⟩ := mirrorServicePort_of_refersTo hrefers
  refine ⟨port, hport, fun hfirst => ?_⟩
  have htakes : (⟨ingress, some service, some endpoints⟩ : ChildIngressBackend).Takes
    (mirrorServiceName ingress path.2 port) :=
    ⟨hclass, path, hpath, port, hport, rfl⟩
  have huntold : Untold {} (mirrorServiceName ingress path.2 port) := ⟨List.not_mem_nil, rfl⟩
  rw [renderIngressMirror, if_neg hsuffix, if_neg hns]
  refine ⟨_, stripped (some endpoints), rfl, ?_, stripped_serves_iff hvalid servicePort⟩
  rw [hostEndpoints_pending]
  exact (told_backends hfirst htakes after huntold).2

namespace EndpointsAux

/-- A service of the ports 80, named `http`, and 9090, named `metrics`, for which a pod serves on the given ports. -/
def twoPorts : Service :=
  { metadata := { name := "front", ns := "default" }, ports := [{ name := "http", port := 80 }, { name := "metrics", port := 9090 }] }
@[inherit_doc twoPorts] def podServing (ports : List EndpointPort) : Endpoints :=
  { metadata := { name := "front", ns := "default" }, subsets := [{ addresses := [{ ip := "10.42.0.5" }], ports := ports }] }

/-- A path to port 80 of the service. -/
def frontPath : HTTPIngressPath × IngressServiceBackend :=
  ({ path := "/front", service := some ⟨"front", { number := 80 }⟩ }, ⟨"front", { number := 80 }⟩)

/-- The sample path refers to the first port. -/
theorem frontPath_refersTo : frontPath.2.port.RefersTo twoPorts { name := "http", port := 80 } :=
  .byNumber List.mem_cons_self (by decide) rfl

/-- The Endpoints may have only one of the ports. -/
theorem podServing_http_valid : (podServing [{ name := "http", port := 8080 }]).ValidFor twoPorts where
  valid := by simp [podServing, EndpointSubset.Valid]
  backed := by simp [podServing, twoPorts]
  apart := by simp [podServing]

/-- They may have both of the ports. -/
theorem podServing_both_valid :
    (podServing [{ name := "http", port := 8080 }, { name := "metrics", port := 9090 }]).ValidFor twoPorts where
  valid := by simp [podServing, EndpointSubset.Valid]
  backed := by simp [podServing, twoPorts]
  apart := by simp [podServing]

end EndpointsAux

/-- The endpoints of a service of two ports get both, without names. -/
theorem mirror_endpoints_serve_false :
    ¬∀ (cluster : VirtualCluster) (resolved : ResolvedSnapshot) (appsSuffix : String) (ingress : Ingress)
      (service : Service)
      (endpoints : Endpoints) (path : HTTPIngressPath × IngressServiceBackend) (servicePort : ServicePort) (port : Int)
      (objects : List Manifest) (subsets : List EndpointSubset),
      ingress.isMirrored = true → path ∈ ingress.servicePaths → path.2.port.RefersTo service servicePort →
        endpoints.ValidFor service →
      mirrorServicePort (some service) path.2.port = some port →
      renderIngressMirror cluster resolved appsSuffix [⟨ingress, some service, some endpoints⟩] = .ok objects →
      subsets ∈ hostEndpoints objects (mirrorServiceName ingress path.2 port) →
        ServesPort endpoints servicePort subsets := by
  intro h
  have hserves := h teamCluster { hostNamespace := "kc-team-01234567" } "apps.example.com"
    (webIngress ["front"]) twoPorts _ frontPath _ 80
    _ [{ addresses := [{ ip := "10.42.0.5" }], ports := [{ port := 8080 }, { port := 9090 }] }] (by decide)
      (by decide +kernel)
    frontPath_refersTo podServing_both_valid rfl rfl (by decide +kernel)
  exact hserves.valid _ List.mem_cons_self (by decide) _ List.mem_cons_self rfl

/-- A pod that serves the port of the path only is mirrored as it should be. -/
theorem mirror_endpoints_serve_sample :
    ∃ objects subsets,
      renderIngressMirror teamCluster { hostNamespace := "kc-team-01234567" } "apps.example.com"
        [⟨webIngress ["front"], some twoPorts, some (podServing [{ name := "http", port := 8080 }])⟩] = .ok objects ∧
      hostEndpoints objects "ing-web-front-80" = [subsets] ∧
      ServesPort (podServing [{ name := "http", port := 8080 }]) { name := "http", port := 80 } subsets := by
  obtain ⟨port, hport, himp⟩ := mirror_endpoints_serve_iff teamCluster
    { hostNamespace := "kc-team-01234567" } "apps.example.com"
    (by decide) (by decide) [] [] (webIngress ["front"]) twoPorts
      (podServing [{ name := "http", port := 8080 }]) frontPath
    { name := "http", port := 80 } (by decide) (by decide +kernel) frontPath_refersTo podServing_http_valid
  obtain ⟨objects, subsets, hobjects, hsubsets, hiff⟩ := himp nofun
  obtain rfl : 80 = port := Option.some.inj hport
  refine ⟨objects, subsets, hobjects, hsubsets, hiff.mpr ?_⟩
  simp [Endpoints.OnlyBacks, podServing]

end KubeCell
