import KubeCell.Theorems.OwnUsage

/-!
# The projected inventory and its aggregate

`projectInventory` adds pods and nodes one by one to a map and computes again, at every node, what is available of
each resource. What it ends with is the sum over the ready nodes of the profile and over the pods, in whatever order
they are listed, and the same as `AggregateResourceInventory` finds on its own.
-/

namespace KubeCell

/-- The values of the aggregate of one resource. -/
def ResourceInventory.amounts (inventory : ResourceInventory) : Amounts :=
  { capacity := inventory.capacity.value
    allocatable := inventory.allocatable.value
    requested := inventory.requested.value
    pending := inventory.pending.value
    availableEstimate := inventory.availableEstimate.value }

/-- Two resource lists have the same resources, with the same values. -/
def ResourceList.SameValues (a b : ResourceList) : Prop :=
  ∀ name, (AList.lookup name a).map Quantity.value = (AList.lookup name b).map Quantity.value

/-- Two statuses of a node, but for their times and the formats of their quantities. -/
structure CellNodeStatus.Same (a b : CellNodeStatus) : Prop where
  name : a.name = b.name
  profile : a.profile = b.profile
  ready : a.ready = b.ready
  readinessReasons : a.readinessReasons = b.readinessReasons
  capacity : a.capacity.SameValues b.capacity
  allocatable : a.allocatable.SameValues b.allocatable
  activeRequested : a.activeRequested.SameValues b.activeRequested
  pendingRequested : a.pendingRequested.SameValues b.pendingRequested

/-- The reference of an inventory: the sums over nodes and pods, and what is left of them. -/
def referenceAmounts (nodes : List Node) (pods : List Pod) (clusterNames : List String) (name : String) : Amounts :=
  let allocatable := (nodes.map fun node => (node.allocatable.qty name).value).sum
  let requested := runningRequests clusterNames pods name
  { capacity := (nodes.map fun node => (node.capacity.qty name).value).sum
    allocatable := allocatable
    requested := requested
    pending := waitingRequests clusterNames pods name
    availableEstimate := max 0 (allocatable - requested) }

open InventoryAux

namespace AggregateAux

/-! ## The sums -/

/-- A node without a resource adds nothing to a sum. -/
theorem sum_filter_of_zero {α : Type} (l : List α) (p : α → Bool) (f : α → Int) (h : ∀ x ∈ l, p x = false → f x = 0) :
    ((l.filter p).map f).sum = (l.map f).sum := by
  induction l with
  | nil => rfl
  | cons x l ih =>
    have ih := ih fun y hy => h y (List.mem_cons_of_mem _ hy)
    cases hx : p x with
    | true => rw [List.filter_cons_of_pos hx, List.map_cons, List.map_cons, List.sum_cons, List.sum_cons, ih]
    | false =>
      rw [List.filter_cons_of_neg (by simp [hx]), List.map_cons, List.sum_cons, h x List.mem_cons_self hx, zero_add, ih]

/-- The entry of a resource that a ready node of the profile has. -/
theorem inventoryAmounts_eq_reference (rt : Runtime) (cell : Cell) {nodes : List Node} (pods : List Pod)
    (clusterNames : List String) (hkeys : ∀ node ∈ nodes, ∀ key ∈ node.allocatable, key ∈ node.capacity)
    {name : String} (hname : name ∈ cell.spec.machineProfile.resources)
    (hhas : ∃ node ∈ nodes.filter (profileNodeReady cell.spec.machineProfile), name ∈ node.capacity) :
    inventoryAmounts (projectNodes rt cell nodes (some pods) clusterNames).status.inventory name =
      some (referenceAmounts (nodes.filter (profileNodeReady cell.spec.machineProfile)) pods clusterNames name) := by
  have hfilter : nodes.filter (contributes cell.spec.machineProfile name) =
      (nodes.filter (profileNodeReady cell.spec.machineProfile)).filter fun node =>
        (AList.lookup name node.capacity).isSome := by
    rw [List.filter_filter]
    exact List.filter_congr fun node _ => by simp [contributes, hname, Bool.and_comm]
  have hne : nodes.filter (contributes cell.spec.machineProfile name) ≠ [] := by
    obtain ⟨node, hnode, hcapacity⟩ := hhas
    rw [hfilter]
    exact List.ne_nil_of_mem (List.mem_filter.mpr ⟨hnode, AList.lookup_isSome.mpr hcapacity⟩)
  have hcapacity : ∀ node : Node, (AList.lookup name node.capacity).isSome = false →
    (node.capacity.qty name).value = 0 := by
    intro node hnone
    have hlookup : AList.lookup name node.capacity = none := by simpa using hnone
    rw [ResourceList.qty, hlookup]
    rfl
  have hallocatable : ∀ node ∈ nodes.filter (profileNodeReady cell.spec.machineProfile),
      (AList.lookup name node.capacity).isSome = false → (node.allocatable.qty name).value = 0 := by
    intro node hnode hnone
    have hmem : name ∉ node.allocatable := by
      intro hmem
      rw [AList.lookup_isSome.mpr (hkeys node (List.mem_filter.mp hnode).1 name hmem)] at hnone
      cases hnone
    rw [ResourceList.qty, AList.lookup_eq_none.mpr hmem]
    rfl
  rw [inventoryAmounts_projectNodes, foldl_withNode, if_neg hne, foldl_withPod, hfilter]
  dsimp only
  rw [sum_filter_of_zero _ _ _ fun node _ => hcapacity node, sum_filter_of_zero _ _ _ hallocatable]
  simp [referenceAmounts]

/-! ## The aggregate -/

theorem addFound_value (total : Quantity) (source : ResourceList) (name : String) :
    (addFound total source name).value = total.value + (source.qty name).value := by
  unfold addFound ResourceList.qty
  cases AList.lookup name source <;> simp

/-- The nodes add up. -/
theorem amounts_aggregateNodes (nodes : List Node) (name : String) (result : ResourceInventory) :
    (nodes.foldl (aggregateNode name) result).amounts =
      { result.amounts with
        capacity := result.amounts.capacity + (nodes.map fun node => (node.capacity.qty name).value).sum
        allocatable := result.amounts.allocatable +
          (nodes.map fun node => (node.allocatable.qty name).value).sum } := by
  induction nodes generalizing result with
  | nil => simp
  | cons node nodes ih =>
    rw [List.foldl_cons, ih]
    simp [aggregateNode, ResourceInventory.amounts, addFound_value, add_assoc]

/-- One pod of the aggregate, in values. -/
theorem amounts_aggregatePod (cluster name : String) (result : ResourceInventory) (pod : Pod) :
    (aggregatePod cluster name result pod).amounts =
      { result.amounts with
        requested := result.amounts.requested + runningRequests [cluster] [pod] name
        pending := result.amounts.pending + waitingRequests [cluster] [pod] name } := by
  unfold aggregatePod runningRequests waitingRequests Pod.running Pod.waiting countsPod
  by_cases hcluster : pod.metadata.labels.get k3kClusterNameLabel = cluster
  · cases hphase : pod.phase <;> simp [hcluster, hphase, containsString, ResourceInventory.amounts]
  · have hother : ¬cluster = pod.metadata.labels.get k3kClusterNameLabel := fun h => hcluster h.symm
    simp [hcluster, hother, containsString]

/-- All Pods of the aggregate, in values. -/
theorem amounts_aggregatePods (pods : List Pod) (cluster name : String) (result : ResourceInventory) :
    (pods.foldl (aggregatePod cluster name) result).amounts =
      { result.amounts with
        requested := result.amounts.requested + runningRequests [cluster] pods name
        pending := result.amounts.pending + waitingRequests [cluster] pods name } := by
  induction pods generalizing result with
  | nil => simp [runningRequests, waitingRequests]
  | cons pod pods ih =>
    have hrunning : runningRequests [cluster] (pod :: pods) name =
        runningRequests [cluster] [pod] name + runningRequests [cluster] pods name :=
          runningRequests_append _ [pod] pods name
    have hwaiting : waitingRequests [cluster] (pod :: pods) name =
        waitingRequests [cluster] [pod] name + waitingRequests [cluster] pods name := by
      simp only [waitingRequests, ← List.sum_append, ← List.map_append, ← List.filter_append, List.singleton_append]
    rw [List.foldl_cons, ih, amounts_aggregatePod, hrunning, hwaiting]
    simp [add_assoc]

/-- Nodes and Pods together are the reference. -/
theorem amounts_aggregate (nodes : List Node) (pods : List Pod) (cluster name : String) :
    (aggregateResourceInventory nodes pods cluster name).amounts = referenceAmounts nodes pods [cluster] name := by
  have hpods := amounts_aggregatePods pods cluster name (nodes.foldl (aggregateNode name) {})
  rw [amounts_aggregateNodes] at hpods
  have hzero : (({} : ResourceInventory)).amounts = {} := by decide
  rw [hzero] at hpods
  simp only [zero_add] at hpods
  have hclamp : ∀ result : ResourceInventory,
      (if (result.allocatable.sub result.requested).value < 0 then Quantity.newQuantity 0 result.allocatable.format
        else result.allocatable.sub result.requested).value = max 0
          (result.amounts.allocatable - result.amounts.requested) := by
    intro result
    split_ifs with hneg
    · rw [Quantity.newQuantity_zero_value]
      exact (max_eq_left (le_of_lt hneg)).symm
    · exact (max_eq_right (not_lt.mp hneg)).symm
  have hestimate : (aggregateResourceInventory nodes pods cluster name).amounts =
      let counted := (pods.foldl (aggregatePod cluster name) (nodes.foldl (aggregateNode name) {})).amounts
      { counted with availableEstimate := max 0 (counted.allocatable - counted.requested) } := by
    unfold aggregateResourceInventory
    dsimp only
    rw [← hclamp]
    rfl
  rw [hestimate, hpods]
  rfl

/-! ## The order of the pods -/

/-- What the pods on a node ask for of a resource, if it is there. -/
def nodeAmount (byNode : GoMap ResourceList) (nodeName name : String) : Option Int :=
  (AList.lookup name ((AList.lookup nodeName byNode).getD ∅)).map Quantity.value

/-- What is held on a node with one more pod. -/
def withHeld (counts : Pod → Bool) (nodeName name : String) (current : Option Int) (pod : Pod) : Option Int :=
  if counts pod && pod.nodeName != "" && pod.nodeName == nodeName then
    Option.merge (· + ·) current ((AList.lookup name (effectivePodRequests pod)).map Quantity.value)
  else current

/-- The order of two additions makes no difference, also where nothing is there to be added. -/
theorem merge_right_comm (a b c : Option Int) :
    Option.merge (· + ·) (Option.merge (· + ·) a b) c = Option.merge (· + ·) (Option.merge (· + ·) a c) b := by
  cases a <;> cases b <;> cases c <;> simp [add_comm, add_left_comm]

instance (counts : Pod → Bool) (nodeName name : String) : RightCommutative (withHeld counts nodeName name) where
  right_comm current pod pod' := by
    unfold withHeld
    split_ifs
    · exact merge_right_comm _ _ _
    · rfl
    · rfl
    · rfl

/-- What adding to one node does to the amounts of a node. -/
theorem nodeAmount_addResourceList (byNode : GoMap ResourceList) (nodeName other name : String)
    (values : ResourceList) :
    nodeAmount (addResourceList byNode nodeName values) other name =
      if nodeName = other then
        Option.merge (· + ·) (nodeAmount byNode other name) ((AList.lookup name values).map Quantity.value)
      else nodeAmount byNode other name := by
  unfold nodeAmount addResourceList
  split_ifs with h
  · subst h
    rw [AList.lookup_insert, Option.getD_some, ResourceList.lookup_addAll_value]
  · rw [AList.lookup_insert_ne (Ne.symm h)]

/-- One pod: what is held on a node grows where the pod is counted there. -/
theorem nodeAmount_accountPod (clusterNames : List String) (account : PodAccount) (pod : Pod) (nodeName name : String) :
    nodeAmount (accountPod clusterNames account pod).activeByNode nodeName name =
        withHeld (·.running clusterNames) nodeName name (nodeAmount account.activeByNode nodeName name) pod ∧
      nodeAmount (accountPod clusterNames account pod).pendingByNode nodeName name =
        withHeld (·.waiting clusterNames) nodeName name (nodeAmount account.pendingByNode nodeName name) pod := by
  unfold accountPod withHeld Pod.running Pod.waiting
  cases hcounts : countsPod clusterNames pod with
  | false => simp [hcounts]
  | true =>
    by_cases hpending : pod.phase = .pending <;> by_cases hempty : pod.nodeName = "" <;>
      simp [hcounts, hpending, hempty, nodeAmount_addResourceList]

/-- What is held on a node does not depend on the order of the pods. -/
theorem nodeAmount_perm (clusterNames : List String) {pods pods' : List Pod} (h : pods.Perm pods')
    (nodeName name : String) :
    nodeAmount (accountPods clusterNames (some pods)).activeByNode nodeName name =
        nodeAmount (accountPods clusterNames (some pods')).activeByNode nodeName name ∧
      nodeAmount (accountPods clusterNames (some pods)).pendingByNode nodeName name =
        nodeAmount (accountPods clusterNames (some pods')).pendingByNode nodeName name := by
  have hactive : ∀ pods : List Pod, nodeAmount (accountPods clusterNames (some pods)).activeByNode nodeName name =
      pods.foldl (withHeld (·.running clusterNames) nodeName name) none := fun pods =>
    (List.foldl_hom (fun account : PodAccount => nodeAmount account.activeByNode nodeName name) fun account pod =>
      (nodeAmount_accountPod clusterNames account pod nodeName name).1.symm).symm
  have hpending : ∀ pods : List Pod, nodeAmount (accountPods clusterNames (some pods)).pendingByNode nodeName name =
      pods.foldl (withHeld (·.waiting clusterNames) nodeName name) none := fun pods =>
    (List.foldl_hom (fun account : PodAccount => nodeAmount account.pendingByNode nodeName name) fun account pod =>
      (nodeAmount_accountPod clusterNames account pod nodeName name).2.symm).symm
  rw [hactive, hactive, hpending, hpending]
  exact ⟨h.foldl_eq _, h.foldl_eq _⟩

/-- The order of the Pods makes no difference for a node. -/
theorem nodeStatus_same (rt rt' : Runtime) (profile : MachineProfile) (clusterNames : List String)
    {pods pods' : List Pod} (h : pods.Perm pods') (node : Node) :
    (nodeStatus rt profile (accountPods clusterNames (some pods)) node).Same
      (nodeStatus rt' profile (accountPods clusterNames (some pods')) node) := by
  unfold nodeStatus
  split_ifs
  · exact ⟨rfl, rfl, rfl, rfl, fun _ => rfl, fun _ => rfl, fun _ => rfl, fun _ => rfl⟩
  · exact ⟨rfl, rfl, rfl, rfl, fun _ => rfl, fun _ => rfl,
      fun name => (nodeAmount_perm clusterNames h node.metadata.name name).1,
      fun name => (nodeAmount_perm clusterNames h node.metadata.name name).2⟩

/-! ## The order of the nodes -/

/-- Nodes sorted by name. -/
def sortedByName (nodes : List Node) : List Node := nodes.insertionSort fun a b => a.metadata.name ≤ b.metadata.name

/-- Nodes with different names are sorted in one way. -/
theorem sortedByName_perm {nodes nodes' : List Node} (hnames : (nodes.map (·.metadata.name)).Nodup)
    (h : nodes.Perm nodes') :
    sortedByName nodes = sortedByName nodes' := by
  have : Std.Total fun a b : Node => a.metadata.name ≤ b.metadata.name :=
    ⟨fun a b => le_total a.metadata.name b.metadata.name⟩
  have : IsTrans Node fun a b => a.metadata.name ≤ b.metadata.name := ⟨fun _ _ _ => le_trans⟩
  have hperm : (sortedByName nodes).Perm (sortedByName nodes') :=
    (List.perm_insertionSort _ nodes).trans (h.trans (List.perm_insertionSort _ nodes').symm)
  refine List.Perm.eq_of_pairwise (fun a b ha hb hab hba => ?_) (List.pairwise_insertionSort _ nodes)
    (List.pairwise_insertionSort _ nodes') hperm
  exact List.inj_on_of_nodup_map hnames ((List.mem_insertionSort _).mp ha)
    (h.mem_iff.mpr ((List.mem_insertionSort _).mp hb)) (le_antisymm hab hba)

/-- The nodes may be sorted before or after. -/
theorem sortNodes_nodeStatus (rt : Runtime) (profile : MachineProfile) (account : PodAccount) (nodes : List Node) :
    sortNodes (nodes.map (nodeStatus rt profile account)) = (sortedByName nodes).map (nodeStatus rt profile account) :=
  (List.map_insertionSort (fun a b : Node => a.metadata.name ≤ b.metadata.name)
    (fun a b : CellNodeStatus => a.name ≤ b.name) _ nodes
    fun a _ b _ => by rw [nodeStatus_name, nodeStatus_name]).symm

end AggregateAux

open AggregateAux OwnUsageAux

/-- The inventory is the sum over the ready nodes of the profile and over the pods, and what the aggregate says of a
single cluster; it does not depend on the order of nodes and pods, and neither do the statuses of the nodes. -/
theorem inventory_eq_reference (Γ : Ctx) (rt : Runtime) (cell : Cell) (reader : InventoryReader) (nodes : List Node)
    (pods : List Pod) (clusterNames : List String) (hnames : (nodes.map (·.metadata.name)).Nodup)
    (hkeys : ∀ node ∈ nodes, ∀ key ∈ node.allocatable, key ∈ node.capacity) :
    let ready := nodes.filter (profileNodeReady cell.spec.machineProfile)
    let projected := (projectInventory Γ rt cell reader nodes (some pods) clusterNames).1.status
    (∀ name ∈ cell.spec.machineProfile.resources, (∃ node ∈ ready, name ∈ node.capacity) →
      inventoryAmounts projected.inventory name = some (referenceAmounts ready pods clusterNames name) ∧
        ∀ cluster, clusterNames = [cluster] →
          inventoryAmounts projected.inventory name =
            some (aggregateResourceInventory ready pods cluster name).amounts) ∧
    ∀ rt' nodes' pods', nodes.Perm nodes' → pods.Perm pods' →
      let projected' := (projectInventory Γ rt' cell reader nodes' (some pods') clusterNames).1.status
      (∀ name, inventoryAmounts projected.inventory name = inventoryAmounts projected'.inventory name) ∧
        List.Forall₂ CellNodeStatus.Same projected.nodes projected'.nodes := by
  obtain ⟨-, -, -, hinventory, hnodes⟩ := projectInventory_frame Γ rt cell reader nodes (some pods) clusterNames
  dsimp only at hinventory hnodes ⊢
  rw [hinventory, hnodes]
  refine ⟨fun name hname hhas => ?_, fun rt' nodes' pods' hpermNodes hpermPods => ?_⟩
  · have hreference := inventoryAmounts_eq_reference rt cell pods clusterNames hkeys hname hhas
    refine ⟨hreference, fun cluster hcluster => ?_⟩
    rw [hreference, hcluster, amounts_aggregate]
  · obtain ⟨-, -, -, hinventory', hnodes'⟩ := projectInventory_frame Γ rt' cell reader nodes' (some pods') clusterNames
    rw [hinventory', hnodes']
    refine ⟨fun name => ?_, ?_⟩
    · rw [inventoryAmounts_projectNodes, inventoryAmounts_projectNodes, hpermPods.foldl_eq, hpermNodes.foldl_eq]
    · simp only [projectNodes]
      rw [sortNodes_nodeStatus, sortNodes_nodeStatus, ← sortedByName_perm hnames hpermNodes, List.forall₂_map_left_iff,
        List.forall₂_map_right_iff]
      exact List.forall₂_same.mpr fun node _ => nodeStatus_same rt rt' _ clusterNames hpermPods node

namespace AggregateAux

/-- A node of the given name and number of processors, with a pod on it that asks for two. -/
def namedNode (name : String) (cpu : Int) : Node := { sampleNode cpu with metadata.name := name }
@[inherit_doc namedNode] def podOn (name : String) : Pod :=
  { samplePod with metadata.name := "train-" ++ name, nodeName := name }

/-- Two nodes, of which the first has less than the pods ask for. -/
def sampleNodes : List Node := [namedNode "node-a" 1, namedNode "node-b" 8]

/-- A pod on each of them, and one that waits. -/
def samplePods : List Pod := [podOn "node-a", podOn "node-b", { podOn "" with phase := .pending }]

end AggregateAux

/-- Of the nine processors of two nodes two pods hold four, and a third waits for two. After the first node nothing is
left; what is left after both does not depend on the order of nodes and pods. -/
theorem inventory_eq_reference_sample :
    let cpu (nodes : List Node) (pods : List Pod) : Option Amounts :=
      inventoryAmounts (projectInventory sampleCtx sampleRuntime sampleCell sampleReader nodes (some pods)
        ["kc-01234567"]).1.status.inventory "cpu"
    cpu sampleNodes samplePods = some (aggregateResourceInventory
        (sampleNodes.filter (profileNodeReady sampleCell.spec.machineProfile)) samplePods "kc-01234567" "cpu").amounts ∧
      cpu sampleNodes samplePods = cpu sampleNodes.reverse samplePods.reverse := by
  have hkeys : ∀ node ∈ sampleNodes, ∀ key ∈ node.allocatable, key ∈ node.capacity := by
    intro node hnode key hkey
    simp only [sampleNodes, List.mem_cons, List.not_mem_nil, or_false] at hnode
    rcases hnode with rfl | rfl <;> exact hkey
  obtain ⟨hreference, horder⟩ := inventory_eq_reference sampleCtx sampleRuntime sampleCell sampleReader
    sampleNodes samplePods
    ["kc-01234567"] (by decide +kernel) hkeys
  refine ⟨(hreference "cpu" (by decide +kernel) (by decide +kernel)).2 "kc-01234567" rfl, ?_⟩
  exact (horder sampleRuntime sampleNodes.reverse samplePods.reverse (List.reverse_perm _).symm
    (List.reverse_perm _).symm).1 "cpu"

end KubeCell
