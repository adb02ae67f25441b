import KubeCell.ChildObserver
import KubeCell.Lib.Checks

/-!
# The kubeconfig that is published

The kubeconfig that the observer returns names the endpoint that passed the probes, in every one of its clusters,
and is the document of the host for the rest. Rewriting is described by a relation between documents that says of
every key what becomes of it.
-/

namespace KubeCell

/-- A cluster entry, and the entry with another server: the two agree on every other key. -/
def ClusterAt (endpoint : String) (source result : Doc) : Prop :=
  ∃ entry config entry' config', source = .map entry ∧ entry "cluster" = some (.map config) ∧ result = .map entry' ∧
    entry' "cluster" = some (.map config') ∧ config' "server" = some (.string endpoint) ∧
    (∀ key, key ≠ "server" → config' key = config key) ∧ ∀ key, key ≠ "cluster" → entry' key = entry key

/-- A document, and the document with the server of every cluster set: nothing else differs. -/
structure PointsAt (endpoint : String) (source result : Fields) : Prop where
  clusters : ∃ items items', source "clusters" = some (.list items) ∧ items ≠ [] ∧
    result "clusters" = some (.list items') ∧
    List.Forall₂ (ClusterAt endpoint) items items'
  rest : ∀ key, key ≠ "clusters" → result key = source key

/-- The clusters of a document are a non-empty list of maps, each with a cluster map. -/
def HasClusters (config : Fields) : Prop :=
  ∃ items, config "clusters" = some (.list items) ∧ items ≠ [] ∧
    ∀ item ∈ items, ∃ entry data, item = .map entry ∧ entry "cluster" = some (.map data)

/-- The library writes what it has read, with the servers set, so that reading it gives the same document. -/
def Yaml.RoundTrips (yaml : Yaml) : Prop :=
  ∀ source config endpoint rewritten, yaml.unmarshal source = .ok config →
    rewriteServers config endpoint = .ok rewritten →
    ∃ output, yaml.marshal rewritten = .ok output ∧ yaml.unmarshal output = .ok rewritten

/-- What has to be right before the addresses are tried. -/
structure HostObserved {χ : Type} (o : ResourceObserver χ) (cluster : VirtualCluster)
    (observation : ResourceObservation χ) (factory : ChildClientFactory χ)
    (storageClass : StorageClassSettings) : Prop where
  resources : o.observeResources cluster = .ok observation
  configured : o.clientFactory = some factory
  rendered : renderChildStorageClass cluster.status.resolved.storage.childName = .ok storageClass
  certified : ∃ reader hostClass, o.reader = some reader ∧
    reader.getStorageClass cluster.status.resolved.storage.hostName = .ok (some hostClass) ∧
    hostClass.provisioner = "topolvm.io" ∧ hostClass.volumeBindingMode = some "WaitForFirstConsumer"

/-- The attempt at an address passes the four probes, with the kubeconfig rewritten for this address. -/
structure Passes {χ : Type} (yaml : Yaml) (factory : ChildClientFactory χ) (storageClass : StorageClassSettings)
    (observation : ResourceObservation χ) (attempt : Nat) (address : String) (kubeconfig : List UInt8) (client : χ)
    (node : Node) : Prop where
  rewritten : rewriteKubeconfigEndpoint yaml observation.kubeconfig
    (childEndpoint address observation.nodePort) = .ok kubeconfig
  created : factory.new attempt kubeconfig (childEndpoint address observation.nodePort) = .ok client
  ready : factory.ready attempt client = .ok ()
  nodes : ∃ nodes, factory.listNodes attempt client = .ok (some nodes) ∧ nodes.find? nodeReady = some node
  stored : factory.ensureStorageClass attempt client storageClass = .ok ()

namespace PublishedAux

open Checks

/-! ## Rewriting a document -/

/-- What an entry of a kubeconfig becomes: its server is the endpoint, and the rest stays. -/
theorem clusterAt_map_iff {endpoint : String} {entry : Fields} {result : Doc} :
    ClusterAt endpoint (.map entry) result ↔ ∃ config, entry "cluster" = some (.map config) ∧
      result = .map (Function.update entry "cluster"
        (some (.map (Function.update config "server" (some (.string endpoint)))))) := by
  constructor
  · rintro ⟨_, config, entry', config', hentry, hconfig, rfl, hconfig', hserver, hdata, hkeys⟩
    cases hentry
    have hc : config' = Function.update config "server" (some (.string endpoint)) :=
      Function.eq_update_iff.mpr ⟨hserver, hdata⟩
    have he : entry' = Function.update entry "cluster" (some (.map config')) :=
      Function.eq_update_iff.mpr ⟨hconfig', hkeys⟩
    exact ⟨config, hconfig, by rw [he, hc]⟩
  · rintro ⟨config, hconfig, rfl⟩
    exact ⟨entry, config, _, _, rfl, hconfig, rfl, Function.update_self .., Function.update_self ..,
      fun key h => Function.update_of_ne h .., fun key h => Function.update_of_ne h ..⟩

/-- A second server takes the place of the first. -/
theorem clusterAt_clusterAt_iff {first second : String} {x y z : Doc} (h : ClusterAt first x y) :
    ClusterAt second y z ↔ ClusterAt second x z := by
  obtain ⟨entry, -, -, -, rfl, -⟩ := id h
  obtain ⟨config, hconfig, rfl⟩ := clusterAt_map_iff.mp h
  rw [clusterAt_map_iff, clusterAt_map_iff]
  constructor
  · rintro ⟨config', hconfig', rfl⟩
    rw [Function.update_self] at hconfig'
    cases hconfig'
    exact ⟨config, hconfig, by rw [Function.update_idem, Function.update_idem]⟩
  · rintro ⟨config', hconfig', rfl⟩
    cases hconfig.symm.trans hconfig'
    exact ⟨_, Function.update_self .., by rw [Function.update_idem, Function.update_idem]⟩

/-- After one rewrite, another one comes to the same as without the first, entry by entry. -/
theorem forall₂_clusterAt_iff {first second : String} {xs ys zs : List Doc} (h : List.Forall₂ (ClusterAt first) xs ys) :
    List.Forall₂ (ClusterAt second) ys zs ↔ List.Forall₂ (ClusterAt second) xs zs := by
  induction h generalizing zs with
  | nil => rfl
  | cons hxy _ ih => cases zs with
    | nil => simp
    | cons z zs => rw [List.forall₂_cons, List.forall₂_cons, clusterAt_clusterAt_iff hxy, ih]

/-- So it does for a whole kubeconfig. -/
theorem pointsAt_pointsAt_iff {first second : String} {a b c : Fields} (h : PointsAt first a b) :
    PointsAt second b c ↔ PointsAt second a c := by
  obtain ⟨items, items', ha, hne, hb, hitems⟩ := h.clusters
  have hne' : items' ≠ [] := by
    rintro rfl
    cases hitems
    exact hne rfl
  constructor
  · rintro ⟨⟨ys, zs, hys, -, hzs, hyz⟩, hrest⟩
    cases hb.symm.trans hys
    exact ⟨⟨items, zs, ha, hne, hzs, (forall₂_clusterAt_iff hitems).mp hyz⟩, fun key hkey => (hrest key hkey).trans
      (h.rest key hkey)⟩
  · rintro ⟨⟨xs, zs, hxs, -, hzs, hxz⟩, hrest⟩
    cases ha.symm.trans hxs
    exact ⟨⟨items', zs, hb, hne', hzs, (forall₂_clusterAt_iff hitems).mpr hxz⟩,
      fun key hkey => (hrest key hkey).trans (h.rest key hkey).symm⟩

/-- The loop over the clusters rewrites each of them. -/
theorem rewriteClusters_eq_ok {endpoint : String} {index : Nat} {items items' : List Doc} :
    rewriteClusters endpoint index items = .ok items' ↔ List.Forall₂ (ClusterAt endpoint) items items' := by
  -- Along the recursion of the loop: only the last two cases are errors.
  induction items generalizing index items' with
  | nil => simp [rewriteClusters, eq_comm]
  | cons item rest ih =>
    cases item with
    | map entry =>
      rw [rewriteClusters]
      split
      case h_1 config hconfig =>
        rw [bind_eq_ok]
        constructor
        · rintro ⟨clusters, hclusters, h⟩
          cases h
          exact .cons (clusterAt_map_iff.mpr ⟨config, hconfig, rfl⟩) (ih.mp hclusters)
        · intro h
          obtain ⟨z, zs, hz, hzs, rfl⟩ := List.forall₂_cons_left_iff.mp h
          obtain ⟨config', hconfig', rfl⟩ := clusterAt_map_iff.mp hz
          cases hconfig.symm.trans hconfig'
          exact ⟨zs, ih.mpr hzs, rfl⟩
      case h_2 hnone =>
        refine ⟨nofun, fun h => ?_⟩
        obtain ⟨z, zs, hz, -, -⟩ := List.forall₂_cons_left_iff.mp h
        obtain ⟨config, hconfig, -⟩ := clusterAt_map_iff.mp hz
        exact (hnone config hconfig).elim
    | _ =>
      refine ⟨nofun, fun h => ?_⟩
      obtain ⟨z, zs, ⟨_, _, _, _, hmap, -⟩, -, -⟩ := List.forall₂_cons_left_iff.mp h
      cases hmap

/-- Rewriting a document is what the relation says. -/
theorem rewriteServers_eq_ok {config rewritten : Fields} {endpoint : String} :
    rewriteServers config endpoint = .ok rewritten ↔ endpoint ≠ "" ∧ PointsAt endpoint config rewritten := by
  unfold rewriteServers
  split
  case h_1 items hitems =>
    rw [ite_throw_eq_ok, ite_throw_eq_ok, bind_eq_ok]
    constructor
    · rintro ⟨hne, hendpoint, items', hitems', h⟩
      cases h
      exact ⟨hendpoint, ⟨items, items', hitems, hne, Function.update_self .., rewriteClusters_eq_ok.mp hitems'⟩,
        fun key hkey => Function.update_of_ne hkey ..⟩
    · rintro ⟨hendpoint, ⟨xs, items', hxs, hne, hitems', hforall⟩, hrest⟩
      cases hitems.symm.trans hxs
      refine ⟨hne, hendpoint, items', rewriteClusters_eq_ok.mpr hforall, ?_⟩
      rw [Function.eq_update_iff.mpr ⟨hitems', hrest⟩]
      rfl
  case h_2 hnone =>
    refine ⟨nofun, fun ⟨_, ⟨items, _, hitems, _⟩, _⟩ => (hnone items hitems).elim⟩

/-- A list can be related if each of its items can. -/
theorem exists_forall₂_iff {R : Doc → Doc → Prop} {xs : List Doc} :
    (∃ ys, List.Forall₂ R xs ys) ↔ ∀ x ∈ xs, ∃ y, R x y := by
  induction xs with
  | nil => simp
  | cons x xs ih =>
    rw [List.forall_mem_cons, ← ih]
    constructor
    · rintro ⟨_, _ | ⟨hx, hxs⟩⟩
      exact ⟨⟨_, hx⟩, _, hxs⟩
    · rintro ⟨⟨y, hx⟩, ys, hxs⟩
      exact ⟨y :: ys, .cons hx hxs⟩

/-- An entry can be rewritten if it has a cluster. -/
theorem exists_clusterAt_iff {endpoint : String} {item : Doc} :
    (∃ result, ClusterAt endpoint item result) ↔ ∃ entry config, item = .map entry ∧
      entry "cluster" = some (.map config) := by
  constructor
  · rintro ⟨_, entry, config, _, _, hitem, hconfig, -⟩
    exact ⟨entry, config, hitem, hconfig⟩
  · rintro ⟨entry, config, rfl, hconfig⟩
    exact ⟨_, clusterAt_map_iff.mpr ⟨config, hconfig, rfl⟩⟩

/-- A kubeconfig can be rewritten if all its entries have one. -/
theorem exists_pointsAt_iff {config : Fields} {endpoint : String} :
    (∃ rewritten, PointsAt endpoint config rewritten) ↔ HasClusters config := by
  constructor
  · rintro ⟨_, ⟨items, items', hitems, hne, -, hforall⟩, -⟩
    exact ⟨items, hitems, hne, fun item hitem => exists_clusterAt_iff.mp
      (exists_forall₂_iff.mp ⟨items', hforall⟩ item hitem)⟩
  · rintro ⟨items, hitems, hne, hmaps⟩
    obtain ⟨items', hforall⟩ := exists_forall₂_iff.mpr fun item hitem => exists_clusterAt_iff.mpr (hmaps item hitem)
    exact ⟨Function.update config "clusters" (some (.list items')),
      ⟨items, items', hitems, hne, Function.update_self .., hforall⟩, fun key hkey => Function.update_of_ne hkey ..⟩

/-! ## Rewriting a kubeconfig -/

variable {yaml : Yaml}

/-- Where the library round-trips, what is returned is read as the rewritten document. -/
theorem rewriteKubeconfigEndpoint_eq_ok (hyaml : yaml.RoundTrips) {input output : List UInt8} {endpoint : String}
    (h : rewriteKubeconfigEndpoint yaml input endpoint = .ok output) :
    ∃ source result, yaml.unmarshal input = .ok source ∧
      yaml.unmarshal output = .ok result ∧ endpoint ≠ "" ∧ PointsAt endpoint source result := by
  obtain ⟨source, hsource, h⟩ := bind_eq_ok.mp h
  obtain ⟨result, hresult, h⟩ := bind_eq_ok.mp h
  rw [mapError_eq_ok] at hsource h
  obtain ⟨output', houtput, hread⟩ := hyaml _ _ _ _ hsource hresult
  cases h.symm.trans houtput
  obtain ⟨hendpoint, hpoints⟩ := rewriteServers_eq_ok.mp hresult
  exact ⟨source, result, hsource, hread, hendpoint, hpoints⟩

/-- The rewrite succeeds if there is an endpoint and the text is a kubeconfig with clusters. -/
theorem exists_rewriteKubeconfigEndpoint_iff (hyaml : yaml.RoundTrips) {input : List UInt8} {endpoint : String} :
    (∃ output, rewriteKubeconfigEndpoint yaml input endpoint = .ok output) ↔
      endpoint ≠ "" ∧ ∃ source, yaml.unmarshal input = .ok source ∧ HasClusters source := by
  constructor
  · rintro ⟨output, h⟩
    obtain ⟨source, result, hsource, -, hendpoint, hpoints⟩ := rewriteKubeconfigEndpoint_eq_ok hyaml h
    exact ⟨hendpoint, source, hsource, exists_pointsAt_iff.mp ⟨result, hpoints⟩⟩
  · rintro ⟨hendpoint, source, hsource, hclusters⟩
    obtain ⟨result, hpoints⟩ := exists_pointsAt_iff.mpr hclusters
    have hresult := rewriteServers_eq_ok.mpr ⟨hendpoint, hpoints⟩
    obtain ⟨output, houtput, -⟩ := hyaml _ _ _ _ hsource hresult
    exact ⟨output, bind_eq_ok.mpr ⟨source, mapError_eq_ok.mpr hsource,
      bind_eq_ok.mpr ⟨result, hresult, mapError_eq_ok.mpr houtput⟩⟩⟩

/-- On documents with clusters, rewriting to the empty endpoint is the one refusal. -/
theorem rewriteServers_congr {first second : String} {source result : Fields} (h : PointsAt first source result) :
    rewriteServers result second = rewriteServers source second := by
  by_cases hsecond : second = ""
  · obtain ⟨items, items', hsource, hne, hresult, hforall⟩ := h.clusters
    have hne' : items' ≠ [] := by
      rintro rfl
      cases hforall
      exact hne rfl
    simp only [rewriteServers, hsource, hresult, hne, hne', hsecond, ↓reduceIte]
    rfl
  · obtain ⟨final, hfinal⟩ := exists_pointsAt_iff.mpr (exists_pointsAt_iff.mp ⟨result, h⟩)
    rw [rewriteServers_eq_ok.mpr ⟨hsecond, hfinal⟩]
    exact rewriteServers_eq_ok.mpr ⟨hsecond, (pointsAt_pointsAt_iff h).mpr hfinal⟩

/-- Of two rewrites the last counts. -/
theorem rewriteKubeconfigEndpoint_twice (hyaml : yaml.RoundTrips) {input middle : List UInt8} {first : String}
    (second : String) (h : rewriteKubeconfigEndpoint yaml input first = .ok middle) :
    rewriteKubeconfigEndpoint yaml middle second = rewriteKubeconfigEndpoint yaml input second := by
  obtain ⟨source, result, hsource, hresult, -, hpoints⟩ := rewriteKubeconfigEndpoint_eq_ok hyaml h
  simp only [rewriteKubeconfigEndpoint, hsource, hresult, Except.mapError, rewriteServers_congr hpoints,
    bind, Except.bind]

/-! ## The attempts -/

variable {χ : Type} {factory : ChildClientFactory χ} {storageClass : StorageClassSettings}
  {observation : ResourceObservation χ}

/-- The node that is taken is the first one that is ready. -/
theorem readyNode_eq_ok {nodes : Option (List Node)} {node : Node} :
    readyNode nodes = .ok node ↔ ∃ l, nodes = some l ∧ l.find? nodeReady = some node := by
  unfold readyNode
  split
  case h_1 => exact ⟨nofun, fun ⟨_, h, _⟩ => nomatch h⟩
  case h_2 =>
    refine ⟨nofun, fun ⟨l, h, hfind⟩ => ?_⟩
    cases h
    cases hfind
  case h_3 l hl =>
    cases hfind : l.find? nodeReady with
    | none => exact ⟨nofun, fun ⟨_, h, h'⟩ => by cases h; cases hfind.symm.trans h'⟩
    | some x =>
      exact ⟨fun h => by cases h; exact ⟨l, rfl, hfind⟩, fun ⟨_, h, h'⟩ => by cases h; cases hfind.symm.trans h'; rfl⟩

/-- A probe passes when each of its four steps does. -/
theorem probe_eq_ok {attempt : Nat} {kubeconfig : List UInt8} {endpoint : String} {client : χ} {node : Node} :
    factory.probe storageClass attempt kubeconfig endpoint = .ok (client, node) ↔
      factory.new attempt kubeconfig endpoint = .ok client ∧ factory.ready attempt client = .ok () ∧
      (∃ nodes, factory.listNodes attempt client = .ok (some nodes) ∧ nodes.find? nodeReady = some node) ∧
      factory.ensureStorageClass attempt client storageClass = .ok () := by
  simp only [ChildClientFactory.probe, bind_eq_ok, readyNode_eq_ok]
  constructor
  · rintro ⟨child, hnew, ⟨⟩, hready, nodes, hnodes, n, ⟨l, rfl, hn⟩, ⟨⟩, hstored, h⟩
    cases h
    exact ⟨hnew, hready, ⟨l, hnodes, hn⟩, hstored⟩
  · rintro ⟨hnew, hready, ⟨l, hnodes, hn⟩, hstored⟩
    exact ⟨client, hnew, (), hready, some l, hnodes, node, ⟨l, rfl, hn⟩, (), hstored, rfl⟩

/-- What the observer returns for an attempt that passes. -/
def published (observation : ResourceObservation χ) (address : String) (kubeconfig : List UInt8) (client : χ)
    (node : Node) :
    ResourceObservation χ :=
  { observation with
    kubeconfig := kubeconfig, endpoint := childEndpoint address observation.nodePort, apiReady := true,
      client := some client
    logicalNodeName := node.metadata.name, logicalNodeReady := true, storageClassReady := true }

/-- An address ends the search if the probe passes there, and what is published is its endpoint. -/
theorem observeAddress_eq_done {attempt : Nat} {address : String} {result : ResourceObservation χ} :
    observeAddress yaml factory storageClass observation attempt address = .done result ↔
      ∃ kubeconfig client node, Passes yaml factory storageClass observation attempt address kubeconfig client node ∧
        result = published observation address kubeconfig client node := by
  constructor
  · intro h
    simp only [observeAddress] at h
    split at h
    case h_1 => cases h
    case h_2 rewritten hrewritten =>
      split at h
      case h_1 => cases h
      case h_2 child node hprobe =>
        obtain ⟨hnew, hready, hnodes, hstored⟩ := probe_eq_ok.mp hprobe
        cases h
        exact ⟨rewritten, child, node, ⟨hrewritten, hnew, hready, hnodes, hstored⟩, rfl⟩
  · rintro ⟨kubeconfig, client, node, h, rfl⟩
    simp only [observeAddress, h.rewritten, probe_eq_ok.mpr ⟨h.created, h.ready, h.nodes, h.stored⟩]
    rfl

/-- An attempt fails when the kubeconfig could be rewritten and a probe does not pass. -/
theorem observeAddress_eq_failed {attempt : Nat} {address : String} :
    (∃ e, observeAddress yaml factory storageClass observation attempt address = .failed e) ↔
      (∃ kubeconfig, rewriteKubeconfigEndpoint yaml observation.kubeconfig
        (childEndpoint address observation.nodePort) = .ok kubeconfig) ∧
      ¬∃ kubeconfig client node, Passes yaml factory storageClass observation attempt address kubeconfig
        client node := by
  simp only [observeAddress]
  cases hrewrite : rewriteKubeconfigEndpoint yaml observation.kubeconfig
    (childEndpoint address observation.nodePort) with
  | error e => exact iff_of_false (fun ⟨_, h⟩ => nomatch h) fun ⟨⟨_, h⟩, _⟩ => nomatch h
  | ok rewritten =>
    cases hprobe : factory.probe storageClass attempt rewritten (childEndpoint address observation.nodePort) with
    | error e =>
      refine iff_of_true ⟨e, by simp only [hprobe]⟩ ⟨⟨rewritten, rfl⟩, ?_⟩
      rintro ⟨kubeconfig, client, node, h⟩
      cases hrewrite.symm.trans h.rewritten
      cases hprobe.symm.trans (probe_eq_ok.mpr ⟨h.created, h.ready, h.nodes, h.stored⟩)
    | ok result =>
      obtain ⟨client, node⟩ := result
      obtain ⟨hnew, hready, hnodes, hstored⟩ := probe_eq_ok.mp hprobe
      exact iff_of_false (by simp [hprobe]) fun h =>
        h.2 ⟨rewritten, client, node, hrewrite, hnew, hready, hnodes, hstored⟩

theorem childEndpoint_ne_empty (address : String) (nodePort : Int) : childEndpoint address nodePort ≠ "" := by
  unfold childEndpoint
  intro h
  simp at h

/-- Whether a kubeconfig can be rewritten does not depend on the address. -/
theorem exists_rewritten_of_address (hyaml : yaml.RoundTrips) {input : List UInt8} {nodePort : Int} {address : String}
    (other : String)
    (h : ∃ output, rewriteKubeconfigEndpoint yaml input (childEndpoint address nodePort) = .ok output) :
    ∃ output, rewriteKubeconfigEndpoint yaml input (childEndpoint other nodePort) = .ok output := by
  rw [exists_rewriteKubeconfigEndpoint_iff hyaml] at h ⊢
  exact ⟨childEndpoint_ne_empty other nodePort, h.2⟩

/-- The observer returns what the first attempt that does not fail returns. -/
theorem observe_eq_ok {o : ResourceObserver χ} {cluster : VirtualCluster} {addresses : List String}
    {result : ResourceObservation χ} :
    o.observe yaml cluster addresses = .ok result ↔
      ∃ observation factory storageClass, HostObserved o cluster observation factory storageClass ∧
        ∃ before address after, addresses = before ++ address :: after ∧
          observeAddress yaml factory storageClass observation before.length address = .done result ∧
          ∀ i (h : i < before.length), ∃ e,
            observeAddress yaml factory storageClass observation i before[i] = .failed e := by
  constructor
  · intro h
    obtain ⟨observation, hresources, h⟩ := bind_eq_ok.mp h
    split at h
    case h_2 => cases h
    case h_1 factory hfactory =>
      obtain ⟨storageClass, hrendered, h⟩ := bind_eq_ok.mp h
      split at h
      case h_2 => cases h
      case h_1 reader hreader =>
        obtain ⟨hostClass, hhost, h⟩ := bind_eq_ok.mp h
        rw [mapError_eq_ok] at hrendered hhost
        rw [ite_throw_eq_ok, ite_throw_eq_ok, tryEach_eq_ok] at h
        obtain ⟨hcertified, -, h⟩ := h
        simp only [Nat.zero_add] at h
        cases hostClass with
        | none => simp at hcertified
        | some hostClass =>
          have hclass : hostClass.provisioner = "topolvm.io" ∧ hostClass.volumeBindingMode =
            some "WaitForFirstConsumer" := by
            simpa using hcertified
          exact ⟨observation, factory, storageClass,
            ⟨hresources, hfactory, hrendered, reader, hostClass, hreader, hhost, hclass⟩, h⟩
  · rintro ⟨observation, factory, storageClass,
      ⟨hresources, hfactory, hrendered, reader, hostClass, hreader, hhost, hcertified⟩, h⟩
    refine bind_eq_ok.mpr ⟨observation, hresources, ?_⟩
    simp only [hfactory]
    refine bind_eq_ok.mpr ⟨storageClass, mapError_eq_ok.mpr hrendered, ?_⟩
    simp only [hreader]
    refine bind_eq_ok.mpr ⟨some hostClass, mapError_eq_ok.mpr hhost, ?_⟩
    rw [ite_throw_eq_ok, ite_throw_eq_ok, tryEach_eq_ok]
    obtain ⟨before, address, after, rfl, -⟩ := id h
    exact ⟨by simp [hcertified], by simp, by simpa only [Nat.zero_add] using h⟩

end PublishedAux

open PublishedAux

/-- The observer succeeds exactly when the host is as it should be and an address passes the four probes. It returns
what the first such address gives: its endpoint, its client, and the kubeconfig of the host with the server of every
cluster set to this endpoint and nothing else changed. Rewriting refuses nothing but an empty endpoint and a document
without clusters, and forgets earlier endpoints. -/
theorem published_kubeconfig_probed {χ : Type} (yaml : Yaml) (hyaml : yaml.RoundTrips) :
    (∀ (o : ResourceObserver χ) (cluster : VirtualCluster) (addresses : List String) (result : ResourceObservation χ),
      o.observe yaml cluster addresses = .ok result ↔
        ∃ observation factory storageClass, HostObserved o cluster observation factory storageClass ∧
          ∃ before address after client node, addresses = before ++ address :: after ∧
            Passes yaml factory storageClass observation before.length address result.kubeconfig client node ∧
            (∀ i (h : i < before.length), ¬∃ kubeconfig client node,
              Passes yaml factory storageClass observation i before[i] kubeconfig client node) ∧
            result.endpoint = "https://" ++ joinHostPort address (toString observation.nodePort) ∧
            result.client = some client ∧
            (∃ source document, yaml.unmarshal observation.kubeconfig = .ok source ∧
              yaml.unmarshal result.kubeconfig = .ok document ∧
              PointsAt result.endpoint source document) ∧
            result = { observation with
              kubeconfig := result.kubeconfig, endpoint := result.endpoint, apiReady := true, client := result.client
              logicalNodeName := node.metadata.name, logicalNodeReady := true, storageClassReady := true }) ∧
    (∀ (input : List UInt8) (endpoint : String),
      (∃ output, rewriteKubeconfigEndpoint yaml input endpoint = .ok output) ↔
      endpoint ≠ "" ∧ ∃ source, yaml.unmarshal input = .ok source ∧ HasClusters source) ∧
    (∀ (input output : List UInt8) (endpoint : String), rewriteKubeconfigEndpoint yaml input endpoint = .ok output →
      ∃ source document, yaml.unmarshal input = .ok source ∧ yaml.unmarshal output = .ok document ∧
        PointsAt endpoint source document) ∧
    ∀ (input middle : List UInt8) (first second : String), rewriteKubeconfigEndpoint yaml input first = .ok middle →
      rewriteKubeconfigEndpoint yaml middle second = rewriteKubeconfigEndpoint yaml input second := by
  refine ⟨fun o cluster addresses result => ?_, fun input endpoint => exists_rewriteKubeconfigEndpoint_iff hyaml,
    fun input output endpoint h => ?_, fun input middle first second h =>
      rewriteKubeconfigEndpoint_twice hyaml second h⟩
  · rw [observe_eq_ok]
    constructor
    · rintro ⟨observation, factory, storageClass, hhost, before, address, after, haddresses, hdone, hfailed⟩
      obtain ⟨kubeconfig, client, node, hpasses, rfl⟩ := observeAddress_eq_done.mp hdone
      obtain ⟨source, document, hsource, hdocument, -, hpoints⟩ := rewriteKubeconfigEndpoint_eq_ok hyaml
        hpasses.rewritten
      exact ⟨observation, factory, storageClass, hhost, before, address, after, client, node, haddresses, hpasses,
        fun i hi => (observeAddress_eq_failed.mp (hfailed i hi)).2, rfl, rfl,
          ⟨source, document, hsource, hdocument, hpoints⟩, rfl⟩
    · rintro ⟨observation, factory, storageClass, hhost, before, address, after, client, node, haddresses, hpasses,
        hbefore, hendpoint,
        hclient, -, hresult⟩
      refine ⟨observation, factory, storageClass, hhost, before, address, after, haddresses, ?_, fun i hi => ?_⟩
      · refine observeAddress_eq_done.mpr ⟨result.kubeconfig, client, node, hpasses, ?_⟩
        rw [hendpoint, hclient] at hresult
        exact hresult
      · exact observeAddress_eq_failed.mpr ⟨exists_rewritten_of_address hyaml _ ⟨_, hpasses.rewritten⟩, hbefore i hi⟩
  · obtain ⟨source, document, hsource, hdocument, -, hpoints⟩ := rewriteKubeconfigEndpoint_eq_ok hyaml h
    exact ⟨source, document, hsource, hdocument, hpoints⟩

namespace PublishedSampleAux

open Checks

/-- A kubeconfig with one cluster. -/
def kubeconfigDocument (server : String) : Fields := fun key =>
  if key = "clusters" then
    some (.list [.map fun key =>
      if key = "cluster" then some (.map fun key => if key = "server" then some (.string server) else none)
      else if key = "name" then some (.string "child") else none])
  else none

def kubeconfigHead : List Char := "clusters:\n- cluster:\n    server: ".toList

def kubeconfigTail : List Char := "\n  name: child\n".toList

/-- The text of the kubeconfig. -/
def kubeconfigText (server : String) : List UInt8 :=
  (String.ofList (kubeconfigHead ++ server.toList ++ kubeconfigTail)).toUTF8.data.toList

/-- The server that a text of this form names. -/
def serverOf (text : List Char) : List Char :=
  (text.drop kubeconfigHead.length).take (text.length - kubeconfigHead.length - kubeconfigTail.length)

/-- The library on kubeconfigs of this form. -/
def kubeconfigYaml : Yaml where
  unmarshal bytes :=
    match String.fromUTF8? ⟨⟨bytes⟩⟩ with
    | none => .error (errorf "yaml: invalid Unicode character")
    | some text =>
      if text.toList = kubeconfigHead ++ serverOf text.toList ++ kubeconfigTail then
        .ok (kubeconfigDocument (String.ofList (serverOf text.toList)))
      else .error (errorf "yaml: did not find expected key")
  marshal config :=
    match config "clusters" with
    | some (.list [.map entry]) =>
      match entry "cluster" with
      | some (.map data) =>
        match data "server" with
        | some (.string server) => .ok (kubeconfigText server)
        | _ => .error (errorf "yaml: unsupported value")
      | _ => .error (errorf "yaml: unsupported value")
    | _ => .error (errorf "yaml: unsupported value")

/-- The bytes of a text are read as the text. -/
theorem fromUTF8?_bytes (text : String) : String.fromUTF8? ⟨⟨text.toUTF8.data.toList⟩⟩ = some text := by
  rw [String.fromUTF8?]
  exact dif_pos text.isValidUTF8

/-- The sample text reads as the sample document. -/
theorem unmarshal_kubeconfigText (server : String) :
    kubeconfigYaml.unmarshal (kubeconfigText server) = .ok (kubeconfigDocument server) := by
  have htext : String.fromUTF8? ⟨⟨kubeconfigText server⟩⟩ =
    some (String.ofList (kubeconfigHead ++ server.toList ++ kubeconfigTail)) := by
    rw [kubeconfigText]
    exact fromUTF8?_bytes _
  have hserver : serverOf (kubeconfigHead ++ server.toList ++ kubeconfigTail) = server.toList := by
    simp [serverOf]
  simp only [kubeconfigYaml, htext, String.toList_ofList, hserver, if_true, String.ofList_toList]

/-- The sample document is written as the sample text. -/
theorem marshal_kubeconfigDocument (server : String) :
    kubeconfigYaml.marshal (kubeconfigDocument server) = .ok (kubeconfigText server) :=
  rfl

/-- Another server goes into the sample document. -/
theorem pointsAt_kubeconfigDocument (server endpoint : String) :
    PointsAt endpoint (kubeconfigDocument server) (kubeconfigDocument endpoint) := by
  refine ⟨⟨_, _, rfl, by simp, rfl, .cons ⟨_, _, _, _, rfl, rfl, rfl, rfl, rfl, fun key hkey => ?_,
    fun key hkey => ?_⟩ .nil⟩,
    fun key hkey => ?_⟩
  · simp [hkey]
  · simp [hkey]
  · simp [kubeconfigDocument, hkey]

/-- The sample reader reads back what it writes. -/
theorem roundTrips_kubeconfigYaml : kubeconfigYaml.RoundTrips := by
  intro source config endpoint rewritten hsource hrewritten
  obtain ⟨server, rfl⟩ : ∃ server, config = kubeconfigDocument server := by
    simp only [kubeconfigYaml] at hsource
    split at hsource
    · cases hsource
    · split at hsource <;> cases hsource
      exact ⟨_, rfl⟩
  obtain ⟨hendpoint, hpoints⟩ := rewriteServers_eq_ok.mp hrewritten
  have hdocument := rewriteServers_eq_ok.mpr ⟨hendpoint, pointsAt_kubeconfigDocument server endpoint⟩
  cases hrewritten.symm.trans hdocument
  exact ⟨kubeconfigText endpoint, marshal_kubeconfigDocument endpoint, unmarshal_kubeconfigText endpoint⟩

/-- The endpoint in the kubeconfig that K3k writes. -/
def localServer : String := "https://127.0.0.1:6443"

def sampleChildCluster : VirtualCluster where
  metadata := { name := "vc", ns := "team", uid := "u-1" }
  spec := ⟨{ name := "cell" }, { name := "class" }⟩
  status :=
    { resolved :=
        { hostNamespace := "kc-team", k3kClusterName := "kc-1", storage := { childName := "topolvm", hostName := "topolvm" } } }

def sampleReader : HostReader where
  getSecret _ name := .ok { metadata := { name := name, labels := .ofList [("kubecell.io/virtual-cluster-uid", "u-1")] }
                            data := .ofList [("kubeconfig.yaml", kubeconfigText localServer)] }
  getService _ name := .ok { metadata := { name := name }, ports := [{ port := 443, nodePort := 30443 }] }
  getStorageClass name := .ok (some { metadata := { name := name }, provisioner := "topolvm.io"
                                      volumeBindingMode := some "WaitForFirstConsumer" })

def readyChildNode : Node :=
  { metadata := { name := "child-node" }, conditions := [{ type := "Ready", status := .true }] }

/-- Clients that know their endpoint; the first is not ready. -/
def sampleFactory : ChildClientFactory String where
  new _ _ endpoint := .ok endpoint
  ready attempt _ := if attempt = 0 then .error (errorf "connection refused") else .ok ()
  listNodes _ _ := .ok (some [readyChildNode])
  ensureStorageClass _ _ _ := .ok ()

def sampleObserver : ResourceObserver String := ⟨some sampleReader, some sampleFactory⟩

/-- What the host says of the child cluster. -/
def sampleResources : ResourceObservation String where
  kubeconfig := kubeconfigText localServer
  sourceSecretName := "k3k-kc-1-kubeconfig"
  nodePort := 30443

/-- What the sample host has of the child. -/
theorem observeResources_sample : sampleObserver.observeResources sampleChildCluster = .ok sampleResources := by
  rfl

theorem rewrite_sample (endpoint : String) (h : endpoint ≠ "") :
    rewriteKubeconfigEndpoint kubeconfigYaml (kubeconfigText localServer) endpoint = .ok (kubeconfigText endpoint) := by
  refine bind_eq_ok.mpr ⟨kubeconfigDocument localServer, mapError_eq_ok.mpr (unmarshal_kubeconfigText localServer), ?_⟩
  have hpoints := pointsAt_kubeconfigDocument localServer endpoint
  refine bind_eq_ok.mpr ⟨kubeconfigDocument endpoint, rewriteServers_eq_ok.mpr ⟨h, hpoints⟩, ?_⟩
  exact mapError_eq_ok.mpr (marshal_kubeconfigDocument endpoint)

theorem hostObserved_sample :
    ∃ storageClass, HostObserved sampleObserver sampleChildCluster sampleResources sampleFactory storageClass :=
  ⟨_, observeResources_sample, rfl, rfl, _, _, rfl, rfl, rfl, rfl⟩

/-- The second attempt passes the probes, and the first does not. -/
theorem passes_sample (storageClass : StorageClassSettings) (address : String) :
    Passes kubeconfigYaml sampleFactory storageClass sampleResources 1 address
      (kubeconfigText (childEndpoint address 30443))
      (childEndpoint address 30443) readyChildNode where
  rewritten := rewrite_sample _ (childEndpoint_ne_empty address 30443)
  created := rfl
  ready := rfl
  nodes := ⟨[readyChildNode], rfl, rfl⟩
  stored := rfl

/-- No address of the sample passes at the first attempt. -/
theorem not_passes_sample (storageClass : StorageClassSettings) (address : String) : ¬∃ kubeconfig client node,
    Passes kubeconfigYaml sampleFactory storageClass sampleResources 0 address kubeconfig client node := by
  rintro ⟨_, _, _, h⟩
  cases h.ready

end PublishedSampleAux

open PublishedSampleAux

/-- The first of two addresses is not ready: the kubeconfig is published with the second. -/
theorem published_kubeconfig_probed_sample : kubeconfigYaml.RoundTrips ∧ ∃ result,
    sampleObserver.observe kubeconfigYaml sampleChildCluster ["10.0.0.1", "10.0.0.2"] = .ok result ∧
    result.endpoint = "https://10.0.0.2:30443" ∧ result.kubeconfig = kubeconfigText "https://10.0.0.2:30443" := by
  obtain ⟨storageClass, hhost⟩ := hostObserved_sample
  have hpasses := passes_sample storageClass "10.0.0.2"
  have hpoints := pointsAt_kubeconfigDocument localServer (childEndpoint "10.0.0.2" 30443)
  have hendpoint : childEndpoint "10.0.0.2" 30443 = "https://10.0.0.2:30443" := by decide +kernel
  rw [hendpoint] at hpasses hpoints
  refine ⟨roundTrips_kubeconfigYaml, { sampleResources with
    kubeconfig := kubeconfigText "https://10.0.0.2:30443", endpoint := "https://10.0.0.2:30443", apiReady := true
    client := some "https://10.0.0.2:30443", logicalNodeName := readyChildNode.metadata.name, logicalNodeReady := true
    storageClassReady := true }, ?_, rfl, rfl⟩
  refine ((published_kubeconfig_probed kubeconfigYaml roundTrips_kubeconfigYaml).1 _ _ _ _).mpr
    ⟨sampleResources, sampleFactory, storageClass, hhost, ["10.0.0.1"], "10.0.0.2", [], _, _, rfl, hpasses,
      fun i hi => ?_, hendpoint.symm,
      rfl, ⟨_, _, unmarshal_kubeconfigText localServer, unmarshal_kubeconfigText _, hpoints⟩, rfl⟩
  obtain rfl : i = 0 := by simpa using hi
  exact not_passes_sample storageClass _

end KubeCell
