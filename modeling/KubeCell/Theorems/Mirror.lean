import KubeCell.Lemmas.Mirror

namespace KubeCell

/-!
# Where mirrored traffic goes

A path is mirrored not only with its own service and endpoints but with those of every path of its ingress, and of the
attempts that give the same name to the host service the first one decides the objects. So every rule leads to the
backend of its path exactly when that first attempt agrees with the path's own backend.
-/

open MirrorAux

/-- The rule is generated from the path `path` of the ingress, which leads to `backend`: some path of the ingress is
at hand whose service gives a port to the path. -/
def GeneratedFrom (c : ChildCluster) (clusterName appsSuffix : String) (ingress : Ingress) (path : HTTPIngressPath)
    (backend : IngressServiceBackend) (rule : MirrorRule) : Prop :=
  ∃ a ∈ c.attempts, a.ingress = ingress ∧ a.path = path ∧ a.backend = backend ∧ rule = a.rule clusterName appsSuffix

/-- The rule leads to the backend of its path: the host endpoints it names have exactly the addresses of the child
endpoints, and the host service it names has the port that the child service gives to the port the path refers to. -/
def LeadsTo (c : ChildCluster) (objects : List Manifest) (rule : MirrorRule) (ns : String)
    (backend : IngressServiceBackend) : Prop :=
  (∃ port, hostServicePort objects rule.serviceName = some port ∧
    mirrorServicePort (some (c.service ns backend.name)) backend.port = some port) ∧
  ∃ addresses, hostAddresses objects rule.serviceName = some addresses ∧
    ∀ address, address ∈ addresses ↔ address ∈ (c.endpoints ns backend.name).addresses

/-- Every rule of every host ingress leads to the backend of the path it is generated from. -/
def MirrorsRight (c : ChildCluster) (clusterName appsSuffix : String) (objects : List Manifest) : Prop :=
  ∀ metadata className rules, Manifest.ingress metadata className rules ∈ objects → ∀ rule ∈ rules,
    ∀ ingress path backend, GeneratedFrom c clusterName appsSuffix ingress path backend rule →
      LeadsTo c objects rule ingress.metadata.ns backend

/-- For two paths of one mirrored ingress, the service of the first of which gives a port to the second: the first
attempt, over all mirrored ingresses, of the same host service name has the port that the own service of the second
path gives to it, and has at hand the addresses of the own endpoints of the second path. -/
def Consistent (c : ChildCluster) : Prop :=
  ∀ a ∈ c.attempts, ∀ b, (c.attempts.find? fun b => b.serviceName == a.serviceName) = some b →
    mirrorServicePort (some (c.service a.ingress.metadata.ns a.backend.name)) a.backend.port = some b.port ∧
    ∀ address, address ∈ (c.endpoints b.ingress.metadata.ns b.via.name).addresses ↔
      address ∈ (c.endpoints a.ingress.metadata.ns a.backend.name).addresses

namespace MirrorAux

/-- The objects mirrored for a child cluster: those of the attempts, and an ingress for each entry that is pending. -/
def mirrored (c : ChildCluster) (clusterName appsSuffix ns : String) (labels : StringMap) : List Manifest :=
  let state := c.attempts.foldl (mirrorAttempt c clusterName appsSuffix ns labels) {}
  state.objects ++ state.pending.map fun entry => mirrorIngress entry.1 ns labels entry.2

/-- What the two loops render for a child cluster. -/
theorem mirrorChildIngresses_client (c : ChildCluster) (cluster : VirtualCluster) (resolved : ResolvedSnapshot)
    (appsSuffix : String) (hsuffix : trimSpace appsSuffix.toList ≠ []) (hns : resolved.hostNamespace ≠ "") :
    (mirrorChildIngresses cluster resolved appsSuffix c.client).run =
      .ok (mirrored c cluster.metadata.name appsSuffix resolved.hostNamespace (cluster.ownedLabels resolved)) := by
  have hclient : c.client = c.serving.client := rfl
  rw [hclient, mirrorChildIngresses_serving c.serving cluster resolved appsSuffix hsuffix, renderIngressMirror,
    if_neg hsuffix, if_neg hns]
  simp only [mirrorBackends_eq, mirrored]

/-- Nothing is written at the start. -/
theorem written_init : Written {} := ⟨fun _ => by simp [hostServicePort], fun _ => by simp [hostAddresses]⟩

variable {c : ChildCluster} {clusterName appsSuffix ns : String} {labels : StringMap}

/-- An ingress is no host service. -/
theorem servicePort_pending (pending : List (String × List MirrorRule)) (name : String) :
    (pending.map fun entry => mirrorIngress entry.1 ns labels entry.2).findSome? (·.servicePort name) = none := by
  refine List.findSome?_eq_none_iff.mpr fun manifest hmem => ?_
  obtain ⟨entry, -, rfl⟩ := List.mem_map.mp hmem
  rfl

/-- An ingress is no host endpoints. -/
theorem endpointAddresses_pending (pending : List (String × List MirrorRule)) (name : String) :
    (pending.map fun entry => mirrorIngress entry.1 ns labels entry.2).findSome? (·.endpointAddresses name) = none := by
  refine List.findSome?_eq_none_iff.mpr fun manifest hmem => ?_
  obtain ⟨entry, -, rfl⟩ := List.mem_map.mp hmem
  rfl

/-- The port of a host service that is mirrored. -/
theorem hostServicePort_mirrored (name : String) :
    hostServicePort (mirrored c clusterName appsSuffix ns labels) name =
      (c.attempts.find? fun a => a.serviceName == name).map (·.port) := by
  rw [hostServicePort, mirrored, List.findSome?_append, servicePort_pending, Option.or_none]
  exact (hostServicePort_attempts c.attempts written_init name).trans (by simp [hostServicePort])

/-- The addresses of host endpoints that are mirrored. -/
theorem hostAddresses_mirrored (name : String) :
    hostAddresses (mirrored c clusterName appsSuffix ns labels) name =
      (c.attempts.find? fun a => a.serviceName == name).map fun a =>
        (c.endpoints a.ingress.metadata.ns a.via.name).addresses := by
  rw [hostAddresses, mirrored, List.findSome?_append, endpointAddresses_pending, Option.or_none]
  exact (hostAddresses_attempts c.attempts written_init name).trans (by simp [hostAddresses])

/-- The rule of every attempt is in some host ingress. -/
theorem exists_ingress_of_attempt {a : Attempt} (ha : a ∈ c.attempts) :
    ∃ metadata className rules, Manifest.ingress metadata className rules ∈
      mirrored c clusterName appsSuffix ns labels ∧
      a.rule clusterName appsSuffix ∈ rules := by
  have hpending : IsPending (c.attempts.foldl (mirrorAttempt c clusterName appsSuffix ns labels) {})
      (a.rule clusterName appsSuffix) := (isPending_attempts c.attempts {} _).mpr (Or.inl ⟨a, ha, rfl⟩)
  obtain ⟨entry, hentry, hrule⟩ := hpending
  exact ⟨_, _, entry.2, List.mem_append_right _ (List.mem_map.mpr ⟨entry, hentry, rfl⟩), hrule⟩

/-- A rule of an attempt leads to the backend of its path exactly when the first attempt of its name
agrees with that backend. -/
theorem leadsTo_iff {a b : Attempt} (hb : (c.attempts.find? fun b => b.serviceName == a.serviceName) = some b) :
    LeadsTo c (mirrored c clusterName appsSuffix ns labels)
      (a.rule clusterName appsSuffix) a.ingress.metadata.ns a.backend ↔
      mirrorServicePort (some (c.service a.ingress.metadata.ns a.backend.name)) a.backend.port = some b.port ∧
      ∀ address, address ∈ (c.endpoints b.ingress.metadata.ns b.via.name).addresses ↔
        address ∈ (c.endpoints a.ingress.metadata.ns a.backend.name).addresses := by
  have hname : (a.rule clusterName appsSuffix).serviceName = a.serviceName := rfl
  simp only [LeadsTo, hname, hostServicePort_mirrored, hostAddresses_mirrored, hb, Option.map_some, Option.some.injEq,
    exists_eq_left']

/-- Every rule that is mirrored leads to its backend exactly when the first attempts agree with the backends. -/
theorem mirrorsRight_iff (c : ChildCluster) (clusterName appsSuffix ns : String) (labels : StringMap) :
    MirrorsRight c clusterName appsSuffix (mirrored c clusterName appsSuffix ns labels) ↔ Consistent c := by
  refine ⟨fun hright a ha b hb => ?_, ?_⟩
  · obtain ⟨metadata, className, rules, hingress, hrule⟩ := exists_ingress_of_attempt ha
    exact (leadsTo_iff hb).mp (hright metadata className rules hingress _ hrule _ _ _ ⟨a, ha, rfl, rfl, rfl, rfl⟩)
  · rintro hcons metadata className rules - rule - ingress path backend ⟨a, ha, rfl, rfl, rfl, rfl⟩
    have hfound : (c.attempts.find? fun b => b.serviceName == a.serviceName).isSome :=
      List.find?_isSome.mpr ⟨a, ha, by simp⟩
    obtain ⟨b, hb⟩ := Option.isSome_iff_exists.mp hfound
    exact (leadsTo_iff hb).mpr (hcons a ha b hb)

end MirrorAux

/-- What is mirrored of a child cluster, all of whose backends can be read, leads every rule to the backend of its path
exactly when the first attempt of each host service name agrees with the own backends of the paths of that name. -/
theorem mirror_leads_to_backend_iff (c : ChildCluster) (cluster : VirtualCluster) (resolved : ResolvedSnapshot)
    (appsSuffix : String) (hsuffix : trimSpace appsSuffix.toList ≠ []) (hns : resolved.hostNamespace ≠ "") :
    ∃ objects, (mirrorChildIngresses cluster resolved appsSuffix c.client).run = .ok objects ∧
      (MirrorsRight c cluster.metadata.name appsSuffix objects ↔ Consistent c) := by
  exact ⟨_, mirrorChildIngresses_client c cluster resolved appsSuffix hsuffix hns, mirrorsRight_iff c _ _ _ _⟩

namespace MirrorAux

/-- An ingress `web` with a path for each of the given services, on port 80 of each. -/
def webIngress (services : List String) : Ingress :=
  { metadata := { name := "web", ns := "default" }
    ingressClassName := some "kubecell"
    rules := [{ http := some (services.map fun name => { path := "/" ++ name, service := some ⟨name, { number := 80 }⟩ }) }] }

/-- A child cluster with `webIngress`, and an address of its own for each service. -/
def webCluster (services : List String) : ChildCluster where
  ingresses := [webIngress services]
  service ns name := { metadata := { name := name, ns := ns }, ports := [{ port := 80 }] }
  endpoints ns name :=
    { metadata := { name := name, ns := ns }
      subsets := [{ addresses := [{ ip := "10.42.0." ++ toString name.length }], ports := [{ port := 8080 }] }] }
  namespaces := by simp [webIngress]

/-- A VirtualCluster named `team`. -/
def teamCluster : VirtualCluster :=
  { metadata := { name := "team", ns := managementNamespace, uid := "01234567-aaaa" }
    spec := { cellRef := { name := "cell-a", ns := managementNamespace }, classRef := { name := "small" } } }

/-- The attempts for two services: each path is mirrored with the endpoints of both. -/
theorem attempts_pair (first second : String) : (webCluster [first, second]).attempts =
    let path (name : String) : HTTPIngressPath := { path := "/" ++ name, service := some ⟨name, { number := 80 }⟩ }
    let attempt (via name : String) : Attempt :=
      ⟨webIngress [first, second], ⟨via, { number := 80 }⟩, path name, ⟨name, { number := 80 }⟩, 80⟩
    [attempt first first, attempt first second, attempt second first, attempt second second] := rfl

end MirrorAux

/-- An ingress with two paths to two services: the second path is mirrored to the endpoints of the first. -/
theorem mirror_leads_to_backend_false :
    ¬∀ (c : ChildCluster) (cluster : VirtualCluster) (resolved : ResolvedSnapshot) (appsSuffix : String)
      (objects : List Manifest), trimSpace appsSuffix.toList ≠ [] → resolved.hostNamespace ≠ "" →
      (mirrorChildIngresses cluster resolved appsSuffix c.client).run = .ok objects →
      MirrorsRight c cluster.metadata.name appsSuffix objects := by
  intro h
  have hright := h (webCluster ["front", "api"]) teamCluster
    { hostNamespace := "kc-team-01234567" } "apps.example.com" _
    (by decide) (by decide) (mirrorChildIngresses_client _ _ _ _ (by decide) (by decide))
  have hcons := (mirrorsRight_iff _ _ _ _ _).mp hright
  rw [Consistent, attempts_pair] at hcons
  have := (hcons _ (List.mem_cons_of_mem _ List.mem_cons_self) _ rfl).2 { ip := "10.42.0.5" }
  exact absurd this (by decide +kernel)

/-- An ingress with two paths to services whose addresses agree is mirrored to the endpoints of both. -/
theorem mirror_leads_to_backend_sample :
    ∃ objects, (mirrorChildIngresses teamCluster { hostNamespace := "kc-team-01234567" } "apps.example.com"
        (webCluster ["front", "store"]).client).run = .ok objects ∧
      MirrorsRight (webCluster ["front", "store"]) "team" "apps.example.com" objects := by
  obtain ⟨objects, hok, hiff⟩ := mirror_leads_to_backend_iff (webCluster ["front", "store"]) teamCluster
    { hostNamespace := "kc-team-01234567" } "apps.example.com" (by decide) (by decide)
  refine ⟨objects, hok, hiff.mpr fun a ha b hb => ?_⟩
  rw [attempts_pair] at ha hb
  -- the host service of a path is the one of its own attempt or of the other path's, whose endpoints
  -- have the same addresses
  simp only [List.mem_cons, List.not_mem_nil, or_false] at ha
  rcases ha with rfl | rfl | rfl | rfl
  · obtain rfl := Option.some.inj (Eq.trans (Eq.symm hb) rfl)
    exact ⟨rfl, fun _ => Iff.rfl⟩
  · obtain rfl := Option.some.inj (Eq.trans (Eq.symm hb) rfl)
    exact ⟨rfl, fun _ => Iff.rfl⟩
  · obtain rfl := Option.some.inj (Eq.trans (Eq.symm hb) rfl)
    exact ⟨rfl, fun _ => Iff.rfl⟩
  · obtain rfl := Option.some.inj (Eq.trans (Eq.symm hb) rfl)
    exact ⟨rfl, fun _ => Iff.rfl⟩

end KubeCell
