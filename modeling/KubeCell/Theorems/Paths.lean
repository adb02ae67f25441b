import KubeCell.Lib.Loops
import KubeCell.Theorems.Mirror

namespace KubeCell

/-!
# Every path once

The collector hands the renderer a backend for each path of an ingress, and the renderer goes over all its paths for
each backend. So an ingress is mirrored path by path exactly when no path finds its port in the service of another.
-/

open MirrorAux Loops

/-- What a path, and a host rule, say to those who use it: the path and its type. -/
def HTTPIngressPath.shown (path : HTTPIngressPath) : String × String :=
  (path.path, if path.pathType.getD "" ≠ "" then path.pathType.getD "" else "ImplementationSpecific")
@[inherit_doc HTTPIngressPath.shown] def MirrorRule.shown (rule : MirrorRule) : String × String :=
  (rule.path, rule.pathType)

/-- The rules of the host ingress of a name. -/
def hostRules (objects : List Manifest) (name : String) : List MirrorRule :=
  objects.flatMap fun
    | .ingress metadata _ rules => if metadata.name = name then rules else []
    | _ => []

/-- The port that the service of one path of an ingress gives to another path of it. -/
def ServingCluster.portVia (c : ServingCluster) (ingress : Ingress)
    (via path : HTTPIngressPath × IngressServiceBackend) : Option Int :=
  mirrorServicePort (some (c.service ingress.metadata.ns via.2.name)) path.2.port

/-- The paths of an ingress that lead to a port of their service, in order. -/
def ServingCluster.resolvedPaths (c : ServingCluster) (ingress : Ingress) : List (String × String) :=
  ingress.servicePaths.filterMap fun path => (c.portVia ingress path path).map fun _ => path.1.shown

/-- Every host ingress has one rule for each path of its ingress that leads to a port of its service, in order, and no
other rule; a host ingress whose name several ingresses share has the rules of one after the other. -/
def MirrorsOnce (c : ServingCluster) (objects : List Manifest) : Prop :=
  ∀ name, (hostRules objects name).map (·.shown) =
    (c.ingresses.filter fun ingress => ingress.isMirrored && hostIngressName ingress == name).flatMap c.resolvedPaths

/-- In no mirrored ingress does the service of one path give a port to another path. -/
def PathsApart (c : ServingCluster) : Prop :=
  ∀ ingress ∈ c.ingresses, ingress.isMirrored = true →
    ingress.servicePaths.Pairwise fun p q => c.portVia ingress p q = none ∧ c.portVia ingress q p = none

namespace PathsAux

/-- The rules that are pending for the host ingress of a name. -/
def pendingRules (pending : List (String × List MirrorRule)) (name : String) : List MirrorRule :=
  pending.flatMap fun entry => if entry.1 = name then entry.2 else []

theorem pendingRules_cons (entry : String × List MirrorRule) (rest : List (String × List MirrorRule)) (name : String) :
    pendingRules (entry :: rest) name = (if entry.1 = name then entry.2 else []) ++ pendingRules rest name := rfl

/-- There is one entry for each name. -/
def OneEach (pending : List (String × List MirrorRule)) : Prop := (pending.map (·.1)).Nodup

theorem oneEach_addPending {pending : List (String × List MirrorRule)} (h : OneEach pending) (name : String)
    (rule : MirrorRule) :
    OneEach (addPending name rule pending) := by
  rw [OneEach, names_addPending]
  split_ifs with hmem
  · exact h
  · rw [List.nodup_append]
    refine ⟨h, by simp, ?_⟩
    intro a ha b hb
    rw [List.mem_singleton] at hb
    rintro rfl
    exact hmem (hb ▸ ha)

/-- A rule is added at the end of the rules of its host ingress. -/
theorem pendingRules_addPending {pending : List (String × List MirrorRule)} (h : OneEach pending) (name' : String)
    (rule : MirrorRule) (name : String) :
    pendingRules (addPending name' rule pending) name =
      pendingRules pending name ++ if name' = name then [rule] else [] := by
  induction pending with
  | nil => simp [addPending, pendingRules]
  | cons entry rest ih =>
    obtain ⟨other, rules⟩ := entry
    obtain ⟨hother, hrest⟩ := List.nodup_cons.mp h
    rw [addPending]
    by_cases heq : other = name'
    · subst heq
      rw [if_pos rfl]
      -- the rest has no entry of this name
      have hnone : pendingRules rest other = [] := by
        rw [pendingRules, List.flatMap_eq_nil_iff]
        intro entry hentry
        rw [if_neg]
        intro hname
        exact hother (List.mem_map.mpr ⟨entry, hentry, hname⟩)
      rw [pendingRules_cons, pendingRules_cons]
      by_cases hname : other = name
      · subst hname
        simp [hnone]
      · simp [hname]
    · rw [if_neg heq, pendingRules_cons, ih hrest, pendingRules_cons, List.append_assoc]

section

variable {clusterName appsSuffix ns : String} {labels : StringMap}

/-- What a path of a backend shows in its host ingress. -/
def shownVia (backend : ChildIngressBackend) (path : HTTPIngressPath × IngressServiceBackend) :
    Option (String × String) :=
  (mirrorServicePort backend.service path.2.port).map fun _ => path.1.shown

/-- What is shown so far in the host ingress of a name. -/
def shown (state : MirrorState) (name : String) : List (String × String) :=
  (pendingRules state.pending name).map (·.shown)

/-- A path adds a rule to the host ingress of its ingress. -/
theorem shown_mirrorPath (ns : String) (labels : StringMap) (hostname : String) {backend : ChildIngressBackend}
    {state : MirrorState} (h : OneEach state.pending) (path : HTTPIngressPath × IngressServiceBackend) :
    OneEach (mirrorPath ns labels hostname backend state path).pending ∧ ∀ name,
      shown (mirrorPath ns labels hostname backend state path) name =
        shown state name ++ if hostIngressName backend.ingress = name then (shownVia backend path).toList else [] := by
  unfold shownVia
  cases hport : mirrorServicePort backend.service path.2.port with
  | none =>
    rw [mirrorPath_none ns labels hostname state hport]
    exact ⟨h, fun name => by simp⟩
  | some port =>
    have hpending := pending_mirrorPath ns labels hostname state hport
    refine ⟨hpending ▸ oneEach_addPending h _ _, fun name => ?_⟩
    rw [shown, hpending, pendingRules_addPending h, List.map_append, ← shown]
    split_ifs <;> rfl

/-- A backend adds a rule for each of its paths that its service gives a port to. -/
theorem shown_mirrorBackend (clusterName appsSuffix ns : String) (labels : StringMap) {state : MirrorState}
    (h : OneEach state.pending) {backend : ChildIngressBackend} (hclass : backend.ingress.isMirrored = true) :
    OneEach (mirrorBackend clusterName appsSuffix ns labels state backend).pending ∧ ∀ name,
      shown (mirrorBackend clusterName appsSuffix ns labels state backend) name =
        shown state name ++ if hostIngressName backend.ingress = name then backend.ingress.servicePaths.filterMap
          (shownVia backend) else [] := by
  rw [mirrorBackend, if_pos hclass]
  generalize backend.ingress.metadata.name ++ "." ++ clusterName ++ "." ++ appsSuffix = hostname
  generalize backend.ingress.servicePaths = paths
  induction paths generalizing state with
  | nil => exact ⟨h, fun name => by simp⟩
  | cons path paths ih =>
    obtain ⟨hone, hshown⟩ := shown_mirrorPath ns labels hostname h path
    obtain ⟨hone', hshown'⟩ := ih hone
    refine ⟨hone', fun name => ?_⟩
    rw [List.foldl_cons, hshown', hshown, List.append_assoc, List.filterMap_cons]
    split_ifs
    · cases shownVia backend path <;> rfl
    · rfl

/-- The backends add their rules in turn. -/
theorem shown_backends {backends : List ChildIngressBackend}
    (hclass : ∀ backend ∈ backends, backend.ingress.isMirrored = true) {state : MirrorState}
    (h : OneEach state.pending) (name : String) :
    shown (backends.foldl (mirrorBackend clusterName appsSuffix ns labels) state) name =
      shown state name ++ (backends.filter fun backend =>
        hostIngressName backend.ingress == name).flatMap fun backend =>
        backend.ingress.servicePaths.filterMap (shownVia backend) := by
  induction backends generalizing state with
  | nil => simp
  | cons backend backends ih =>
    obtain ⟨hone, hshown⟩ := shown_mirrorBackend clusterName appsSuffix ns labels h (hclass backend List.mem_cons_self)
    rw [List.foldl_cons, ih (fun b hb => hclass b (List.mem_cons_of_mem _ hb)) hone, hshown, List.append_assoc,
      List.filter_cons]
    by_cases hname : hostIngressName backend.ingress = name
    · simp [hname]
    · simp [hname]

/-- The services and endpoints are no rules, and the ingresses are those that were pending. -/
theorem hostRules_append (objects : List Manifest) (hobjects : ∀ manifest ∈ objects, ∀ m c r, manifest ≠ .ingress m c r)
    (pending : List (String × List MirrorRule)) (name : String) :
    hostRules (objects ++ pending.map fun entry => mirrorIngress entry.1 ns labels entry.2) name =
      pendingRules pending name := by
  have hnone : hostRules objects name = [] := by
    rw [hostRules, List.flatMap_eq_nil_iff]
    intro manifest hmanifest
    cases manifest with
    | ingress m c r => exact absurd rfl (hobjects _ hmanifest m c r)
    | _ => rfl
  rw [hostRules, List.flatMap_append, ← hostRules, hnone, List.nil_append, List.flatMap_map]
  rfl

end

/-- The attempts on the paths of an ingress: what a path shows with the service of another. -/
def attempt (c : ServingCluster) (ingress : Ingress) (via path : HTTPIngressPath × IngressServiceBackend) :
    Option (String × String) :=
  (c.portVia ingress via path).map fun _ => path.1.shown

theorem shownVia_backendOf (c : ServingCluster) (ingress : Ingress) (via : HTTPIngressPath × IngressServiceBackend) :
    shownVia (backendOf c ingress via) = attempt c ingress via := rfl

/-- What the backends of a child cluster show in the host ingress of a name: for each ingress,
all paths for each path. -/
theorem shown_of_backends (c : ServingCluster) (name : String) :
    ((backends c).filter fun backend => hostIngressName backend.ingress == name).flatMap (fun backend =>
        backend.ingress.servicePaths.filterMap (shownVia backend)) =
      (c.ingresses.filter fun ingress => ingress.isMirrored && hostIngressName ingress == name).flatMap fun ingress =>
        crossed (attempt c ingress) ingress.servicePaths := by
  rw [backends]
  induction c.ingresses with
  | nil => rfl
  | cons ingress rest ih =>
    rw [List.filter_cons, List.filter_cons]
    cases hclass : ingress.isMirrored with
    | false => simpa using ih
    | true =>
      rw [if_pos rfl, List.flatMap_cons, List.filter_append, List.flatMap_append, ih, List.filter_map]
      by_cases hname : hostIngressName ingress = name
      · have hall : ((fun backend : ChildIngressBackend => hostIngressName backend.ingress == name) ∘ backendOf c
          ingress) = fun _ => true := by
          funext path
          simp [backendOf, hname]
        simp only [hall, List.filter_true, List.flatMap_map, shownVia_backendOf, hname, beq_self_eq_true,
          Bool.and_self, if_true,
          List.flatMap_cons, crossed]
        rfl
      · have hnone : ((fun backend : ChildIngressBackend => hostIngressName backend.ingress == name) ∘ backendOf c
          ingress) = fun _ => false := by
          funext path
          simp [backendOf, hname]
        simp [hnone, hname]

section

variable {clusterName appsSuffix ns : String} {labels : StringMap}

/-- No host ingress is among the objects of the services. -/
def NoIngress (state : MirrorState) : Prop := ∀ manifest ∈ state.objects, ∀ m c r, manifest ≠ .ingress m c r

/-- Before the end no Ingress is made. -/
theorem noIngress_backends (backends : List ChildIngressBackend) :
    NoIngress (backends.foldl (mirrorBackend clusterName appsSuffix ns labels) {}) :=
  forall_mirrorBackends (fun _ _ _ _ _ => nofun) (fun _ _ _ _ _ => nofun) backends

end

/-- What the host ingress of a name shows after all. -/
theorem shown_of_rendered (c : ServingCluster) {cluster : VirtualCluster} {resolved : ResolvedSnapshot}
    {appsSuffix : String} {objects : List Manifest}
    (h : renderIngressMirror cluster resolved appsSuffix (backends c) = .ok objects) (name : String) :
    (hostRules objects name).map (·.shown) =
      (c.ingresses.filter fun ingress => ingress.isMirrored && hostIngressName ingress == name).flatMap fun ingress =>
        crossed (attempt c ingress) ingress.servicePaths := by
  have hclass : ∀ backend ∈ backends c, backend.ingress.isMirrored = true := by
    intro backend hbackend
    obtain ⟨ingress, hingress, hpath⟩ := List.mem_flatMap.mp hbackend
    obtain ⟨path, -, rfl⟩ := List.mem_map.mp hpath
    exact (List.mem_filter.mp hingress).2
  unfold renderIngressMirror at h
  split_ifs at h
  cases h
  have hone : OneEach ({} : MirrorState).pending := List.nodup_nil
  rw [hostRules_append _ (noIngress_backends _), ← shown, shown_backends hclass hone, shown_of_backends]
  rfl

end PathsAux

open PathsAux

/-- A child cluster whose services can be read is mirrored path by path exactly when no path finds its port in the
service of another path of its ingress. -/
theorem mirrors_once_iff (c : ServingCluster) (cluster : VirtualCluster) (resolved : ResolvedSnapshot)
    (appsSuffix : String)
    (hsuffix : trimSpace appsSuffix.toList ≠ []) (hns : resolved.hostNamespace ≠ "") :
    ∃ objects, (mirrorChildIngresses cluster resolved appsSuffix c.client).run = .ok objects ∧
      (MirrorsOnce c objects ↔ PathsApart c) := by
  obtain ⟨objects, hobjects⟩ : ∃ objects, renderIngressMirror cluster resolved appsSuffix
    (backends c) = .ok objects := by
    rw [renderIngressMirror, if_neg hsuffix, if_neg hns]
    exact ⟨_, rfl⟩
  refine ⟨objects, by rw [mirrorChildIngresses_serving c cluster resolved appsSuffix hsuffix, hobjects], ?_⟩
  have huncrossed : ∀ ingress : Ingress, Uncrossed (attempt c ingress) ingress.servicePaths ↔
      ingress.servicePaths.Pairwise fun p q => c.portVia ingress p q = none ∧ c.portVia ingress q p = none := by
    intro ingress
    simp only [Uncrossed, attempt, Option.map_eq_none_iff]
  -- for each name, the two loops are compared ingress by ingress
  have hnames : MirrorsOnce c objects ↔ ∀ name, ∀ ingress ∈ c.ingresses.filter fun ingress =>
      ingress.isMirrored && hostIngressName ingress == name, Uncrossed (attempt c ingress) ingress.servicePaths := by
    refine forall_congr' fun name => ?_
    rw [shown_of_rendered c hobjects name]
    exact flatMap_crossed_iff (attempt c) Ingress.servicePaths _
  rw [hnames]
  constructor
  · intro h ingress hingress hclass
    have hmem : ingress ∈ c.ingresses.filter fun i => i.isMirrored && hostIngressName i == hostIngressName ingress :=
      List.mem_filter.mpr ⟨hingress, by simp [hclass]⟩
    exact (huncrossed ingress).mp (h (hostIngressName ingress) ingress hmem)
  · intro h name ingress hingress
    obtain ⟨hmem, hboth⟩ := List.mem_filter.mp hingress
    exact (huncrossed ingress).mpr (h ingress hmem (Bool.and_eq_true_iff.mp hboth).1)

/-- An ingress with two paths gets four rules. -/
theorem mirrors_once_false :
    ¬∀ (c : ServingCluster) (cluster : VirtualCluster) (resolved : ResolvedSnapshot) (appsSuffix : String)
      (objects : List Manifest),
      (mirrorChildIngresses cluster resolved appsSuffix c.client).run = .ok objects → MirrorsOnce c objects := by
  intro h
  obtain ⟨objects, hobjects, hiff⟩ :
    ∃ objects, (mirrorChildIngresses teamCluster { hostNamespace := "kc-team-01234567" } "apps.example.com"
      (webCluster ["front", "api"]).serving.client).run = .ok objects ∧
      (hostRules objects "default-web").length = 4 := ⟨_, rfl, by decide +kernel⟩
  have honce := congrArg List.length (h (webCluster ["front", "api"]).serving _ _ _ objects hobjects "default-web")
  rw [List.length_map, hiff] at honce
  exact absurd honce (by decide +kernel)

namespace PathsAux

/-- A child cluster with an ingress of two paths, each to the port of its name of a service of its own. -/
def namedCluster : ServingCluster where
  ingresses :=
    [{ webIngress [] with
        rules := [{ http := some (["http", "grpc"].map fun port =>
          { path := "/" ++ port, service := some ⟨"svc-" ++ port, { name := port }⟩ }) }] }]
  service ns name :=
    { metadata := { name := name, ns := ns }, ports := [{ name := String.ofList (name.toList.drop 4), port := 80 }] }
  endpoints _ _ := .error ⟨.notFound, "not found"⟩
  namespaces := by simp [webIngress]

end PathsAux

/-- An ingress with two paths gets two rules when neither service has the port of the other path. -/
theorem mirrors_once_sample :
    ∃ objects, (mirrorChildIngresses teamCluster { hostNamespace := "kc-team-01234567" } "apps.example.com"
      namedCluster.client).run = .ok objects ∧ MirrorsOnce namedCluster objects := by
  obtain ⟨objects, hobjects, hiff⟩ := mirrors_once_iff namedCluster teamCluster { hostNamespace := "kc-team-01234567" }
    "apps.example.com" (by decide) (by decide)
  refine ⟨objects, hobjects, hiff.mpr fun ingress hingress _ => ?_⟩
  rw [List.mem_singleton.mp hingress]
  exact List.pairwise_pair.mpr ⟨by decide +kernel, by decide +kernel⟩

end KubeCell
