import KubeCell.Theorems.OwnUsage
import Mathlib.Algebra.Order.BigOperators.Group.List

/-!
# Accelerators that are bound already

The projection keeps, for each node, what its running pods and what its waiting pods ask for. The check of
accelerators takes the first from what the node can allocate and leaves the second out, so a pod that the scheduler
has bound to a node but that does not run yet does not keep its accelerators from being promised again.
-/

namespace KubeCell

/-- What the waiting pods that are bound to a node ask for of a resource. -/
def waitingOn (clusterNames : List String) (pods : List Pod) (nodeName name : String) : Int :=
  waitingRequests clusterNames (pods.filter fun pod => pod.nodeName != "" && pod.nodeName == nodeName) name

/-- What all counted pods that are bound to a node ask for of a resource. -/
def boundOn (clusterNames : List String) (pods : List Pod) (nodeName name : String) : Int :=
  ((pods.filter fun pod => countsPod clusterNames pod && pod.nodeName != "" && pod.nodeName == nodeName).map fun pod =>
    ((effectivePodRequests pod).qty name).value).sum

/-- The class is entitled to a device of the profile. -/
def EntitledTo (cell : Cell) (virtualNodeClass : VirtualNodeClass) (device : DeviceContract) : Prop :=
  device ∈ cell.spec.machineProfile.devices ∧
    ((entitlementRequests virtualNodeClass.spec.workloadHard).qty device.resourceName).value ≠ 0

/-- Some ready node of the profile has room for the devices the class is entitled to, beside what is held on it. -/
def RoomFor (cell : Cell) (nodes : List Node) (virtualNodeClass : VirtualNodeClass) (device : DeviceContract)
    (held : String → Int) : Prop :=
  ∃ node ∈ nodes, profileNodeReady cell.spec.machineProfile node = true ∧
    ((entitlementRequests virtualNodeClass.spec.workloadHard).qty device.resourceName).value ≤
      (node.allocatable.qty device.resourceName).value - held node.metadata.name

/-- Where the check of accelerators passes, there is room for each beside all pods that are bound. -/
def NotPromisedAgain (Γ : Ctx) (rt : Runtime) (cell : Cell) (reader : InventoryReader) (nodes : List Node)
    (pods : List Pod) (clusterNames : List String) (virtualNodeClass : VirtualNodeClass) : Prop :=
  let projected := (projectInventory Γ rt cell reader nodes (some pods) clusterNames).1
  (acceleratorCheck rt projected projected.spec.machineProfile.name
    (acceleratorRequests projected virtualNodeClass)).status =
      .passed →
    ∀ device, EntitledTo cell virtualNodeClass device →
      RoomFor cell nodes virtualNodeClass device fun node => boundOn clusterNames pods node device.resourceName

/-- No pod that is bound to a ready node of the profile and still waits there asks for a device that the
class is entitled to. -/
def NoneWaiting (cell : Cell) (nodes : List Node) (pods : List Pod) (clusterNames : List String)
    (virtualNodeClass : VirtualNodeClass) : Prop :=
  ∀ node ∈ nodes, profileNodeReady cell.spec.machineProfile node = true →
    ∀ pod ∈ pods, pod.waiting clusterNames = true → pod.nodeName ≠ "" → pod.nodeName = node.metadata.name →
      ∀ device, EntitledTo cell virtualNodeClass device → ((effectivePodRequests pod).qty device.resourceName).value ≤ 0

/-- What a node has left of a resource beside what runs there. -/
def leftOn (clusterNames : List String) (pods : List Pod) (node : Node) (name : String) : Int :=
  (node.allocatable.qty name).value - runningOn clusterNames pods node.metadata.name name

/-- Of each device, some ready node of the profile has as much left beside what runs and what waits there as any
has beside what runs. -/
def Undiminished (cell : Cell) (nodes : List Node) (pods : List Pod) (clusterNames : List String) : Prop :=
  ∀ device ∈ cell.spec.machineProfile.devices, ∀ node ∈ nodes, profileNodeReady cell.spec.machineProfile node = true →
    0 < leftOn clusterNames pods node device.resourceName →
      ∃ other ∈ nodes, profileNodeReady cell.spec.machineProfile other = true ∧
        leftOn clusterNames pods node device.resourceName ≤
          leftOn clusterNames pods other device.resourceName - waitingOn clusterNames pods other.metadata.name
            device.resourceName

/-- The class is entitled to no negative amount of a device. -/
def PositivelyEntitled (cell : Cell) (virtualNodeClass : VirtualNodeClass) : Prop :=
  ∀ device, EntitledTo cell virtualNodeClass device →
    0 < ((entitlementRequests virtualNodeClass.spec.workloadHard).qty device.resourceName).value

open EvaluatorAux InventoryAux OwnUsageAux

namespace AcceleratorsAux

/-- What is counted runs or waits. -/
theorem sum_counted (clusterNames : List String) (pods : List Pod) (name : String) :
    ((pods.filter (countsPod clusterNames)).map fun pod => ((effectivePodRequests pod).qty name).value).sum =
      runningRequests clusterNames pods name + waitingRequests clusterNames pods name := by
  unfold runningRequests waitingRequests
  induction pods with
  | nil => rfl
  | cons pod pods ih =>
    cases hcounts : countsPod clusterNames pod with
    | false => simpa [hcounts, Pod.running, Pod.waiting] using ih
    | true =>
      by_cases hpending : pod.phase = .pending
      · have hrunning : pod.running clusterNames = false := by simp [Pod.running, hpending]
        have hwaiting : pod.waiting clusterNames = true := by simp [Pod.waiting, hcounts, hpending]
        simp only [List.filter_cons, hcounts, hrunning, hwaiting, if_true, Bool.false_eq_true, if_false,
          List.map_cons, List.sum_cons, ih]
        omega
      · have hrunning : pod.running clusterNames = true := by simp [Pod.running, hcounts, hpending]
        have hwaiting : pod.waiting clusterNames = false := by simp [Pod.waiting, hpending]
        simp only [List.filter_cons, hcounts, hrunning, hwaiting, if_true, Bool.false_eq_true, if_false,
          List.map_cons, List.sum_cons, ih]
        omega

/-- What is bound to a node runs there or waits there. -/
theorem boundOn_eq (clusterNames : List String) (pods : List Pod) (nodeName name : String) :
    boundOn clusterNames pods nodeName name =
      runningOn clusterNames pods nodeName name + waitingOn clusterNames pods nodeName name := by
  rw [runningOn, waitingOn, ← sum_counted, List.filter_filter]
  simp only [boundOn, Bool.and_assoc]

section

variable {Γ : Ctx} {rt : Runtime} {cell : Cell} {reader : InventoryReader} {nodes : List Node} {pods : List Pod}
  {clusterNames : List String} {virtualNodeClass : VirtualNodeClass}

/-- The check of accelerators passes when there is room for each beside what runs. -/
theorem passed_iff :
    (let projected := (projectInventory Γ rt cell reader nodes (some pods) clusterNames).1;
      (acceleratorCheck rt projected projected.spec.machineProfile.name
        (acceleratorRequests projected virtualNodeClass)).status =
        .passed) ↔
      ∀ device, EntitledTo cell virtualNodeClass device →
        RoomFor cell nodes virtualNodeClass device fun node =>
          runningOn clusterNames pods node device.resourceName := by
  have hcovered := allCovered_projected_iff Γ rt cell reader nodes pods clusterNames virtualNodeClass
  dsimp only at hcovered ⊢
  rw [acceleratorCheck, acceleratorLoop_passed_iff, hcovered]
  constructor
  · rintro h device ⟨hdevice, hrequired⟩
    obtain ⟨node, hnode, hready, hroom⟩ := h device hdevice hrequired
    exact ⟨node, hnode, hready, le_sub_iff_add_le'.mpr hroom⟩
  · intro h device hdevice hrequired
    obtain ⟨node, hnode, hready, hroom⟩ := h device ⟨hdevice, hrequired⟩
    exact ⟨node, hnode, hready, le_sub_iff_add_le'.mp hroom⟩

/-- So what is claimed is that room beside what runs is room beside what waits as well. -/
theorem notPromisedAgain_iff :
    NotPromisedAgain Γ rt cell reader nodes pods clusterNames virtualNodeClass ↔
      ((∀ device, EntitledTo cell virtualNodeClass device →
          RoomFor cell nodes virtualNodeClass device fun node => runningOn clusterNames pods node device.resourceName) →
        ∀ device, EntitledTo cell virtualNodeClass device →
          RoomFor cell nodes virtualNodeClass device fun node =>
            runningOn clusterNames pods node device.resourceName + waitingOn clusterNames pods node
              device.resourceName) := by
  have hpassed := @passed_iff Γ rt cell reader nodes pods clusterNames virtualNodeClass
  unfold NotPromisedAgain
  simp only [boundOn_eq]
  dsimp only at hpassed ⊢
  rw [hpassed]

/-- Where no waiting pod asks for a device, nothing of it waits. -/
theorem waitingOn_nonpos (hnone : NoneWaiting cell nodes pods clusterNames virtualNodeClass) {node : Node}
    (hnode : node ∈ nodes) (hready : profileNodeReady cell.spec.machineProfile node = true) {device : DeviceContract}
    (hentitled : EntitledTo cell virtualNodeClass device) :
    waitingOn clusterNames pods node.metadata.name device.resourceName ≤ 0 := by
  refine (List.sum_le_card_nsmul _ 0 fun n hn => ?_).trans_eq (nsmul_zero _)
  obtain ⟨pod, hpod, rfl⟩ := List.mem_map.mp hn
  obtain ⟨hbound, hwaiting⟩ := List.mem_filter.mp hpod
  obtain ⟨hmem, hname⟩ := List.mem_filter.mp hbound
  simp only [Bool.and_eq_true, bne_iff_ne, beq_iff_eq] at hname
  exact hnone node hnode hready pod hmem hwaiting hname.1 hname.2 device hentitled

/-- A class that is entitled to an amount of one resource. -/
def entitledClass (name : String) (amount : Int) : VirtualNodeClass :=
  { metadata := { name := "one" }
    spec := { workloadHard := AList.singleton ("requests." ++ name) ⟨amount, .decimalSI, .int64 0⟩, storageClassName := "" } }

theorem qty_entitledClass (name other : String) (amount : Int) :
    ((entitlementRequests (entitledClass name amount).spec.workloadHard).qty other).value =
      if other = name then amount else 0 := by
  rw [ResourceList.qty, lookup_entitlementRequests, entitledClass, ← AList.insert_empty]
  split_ifs with heq
  · rw [heq, AList.lookup_insert]
    rfl
  · rw [AList.lookup_insert_ne fun h => heq ((String.append_right_inj _).mp h)]
    rfl

end

end AcceleratorsAux

open AcceleratorsAux

/-- Accelerators are not promised again to a class for whose devices no pod waits on a ready node; and to no class at
all exactly when waiting pods leave, of each device, as much on some ready node as there is on any beside what runs. -/
theorem not_promised_again_iff (Γ : Ctx) (rt : Runtime) (cell : Cell) (reader : InventoryReader) (nodes : List Node)
    (pods : List Pod) (clusterNames : List String) :
    (∀ virtualNodeClass, NoneWaiting cell nodes pods clusterNames virtualNodeClass →
      NotPromisedAgain Γ rt cell reader nodes pods clusterNames virtualNodeClass) ∧
    ((∀ virtualNodeClass, PositivelyEntitled cell virtualNodeClass →
        NotPromisedAgain Γ rt cell reader nodes pods clusterNames virtualNodeClass) ↔
      Undiminished cell nodes pods clusterNames) := by
  refine ⟨fun virtualNodeClass hnone => ?_, fun h device hdevice node hnode hready hleft => ?_,
    fun h virtualNodeClass hpositive => ?_⟩
  · refine notPromisedAgain_iff.mpr fun hfits device hentitled => ?_
    obtain ⟨node, hnode, hready, hroom⟩ := hfits device hentitled
    have := waitingOn_nonpos hnone hnode hready hentitled
    refine ⟨node, hnode, hready, ?_⟩
    dsimp only at hroom ⊢
    omega
  · -- the class that is entitled to all that the node has left
    have hqty := qty_entitledClass device.resourceName
    have hnamed : ∀ d, EntitledTo cell
      (entitledClass device.resourceName (leftOn clusterNames pods node device.resourceName)) d →
        d.resourceName = device.resourceName := by
      rintro d ⟨-, hne⟩
      by_contra hother
      exact hne (by rw [hqty, if_neg hother])
    obtain ⟨other, hother, hotherReady, hroom⟩ := notPromisedAgain_iff.mp
      (h _ fun d hd => by rwa [hqty, if_pos (hnamed d hd)])
      (fun d hd => ⟨node, hnode, hready, by rw [hqty, if_pos (hnamed d hd), hnamed d hd, leftOn]⟩) device
      ⟨hdevice, by rw [hqty, if_pos rfl]; omega⟩
    rw [hqty, if_pos rfl] at hroom
    refine ⟨other, hother, hotherReady, hroom.trans (le_of_eq ?_)⟩
    rw [leftOn, sub_add_eq_sub_sub]
  · refine notPromisedAgain_iff.mpr fun hfits device hentitled => ?_
    obtain ⟨node, hnode, hready, hroom⟩ := hfits device hentitled
    dsimp only at hroom
    have hleft := hpositive device hentitled
    obtain ⟨other, hother, hotherReady, hle⟩ := h device hentitled.1 node hnode hready (by rw [leftOn]; omega)
    refine ⟨other, hother, hotherReady, ?_⟩
    simp only [leftOn] at hle
    dsimp only
    omega

namespace AcceleratorsAux

/-- The resource of the accelerators of the sample. -/
def gpu : String := "nvidia.com/gpu"

/-- A Cell whose profile has one device. -/
def gpuCell : Cell :=
  { sampleCell with spec.machineProfile := { name := "gpu", devices := [{ name := "gpu", resourceName := gpu }] } }

/-- A ready node with one accelerator. -/
def gpuNode : Node :=
  { metadata := { name := "node-a", labels := GoMap.ofList [(Platform.profileLabelKey, "gpu")] }
    conditions := [{ type := "Ready", status := .true }]
    capacity := GoMap.ofList [(gpu, .newQuantity 1 .decimalSI)]
    allocatable := GoMap.ofList [(gpu, .newQuantity 1 .decimalSI)] }

/-- A pod that is bound to the node, and whose images are still pulled. -/
def gpuPod : Pod :=
  { metadata := { name := "train", labels := GoMap.ofList [(k3kClusterNameLabel, "kc-01234567")] }
    nodeName := "node-a"
    containers := [{ resources := { requests := GoMap.ofList [(gpu, .newQuantity 1 .decimalSI)] } }]
    phase := .pending }

/-- A class that is entitled to one accelerator. -/
def gpuClass : VirtualNodeClass :=
  { metadata := { name := "gpu", uid := "class-uid" }
    spec :=
      { workloadHard := GoMap.ofList [("requests." ++ gpu, .newQuantity 1 .decimalSI), ("limits." ++ gpu, .newQuantity 1 .decimalSI)]
        storageClassName := "topolvm" } }

end AcceleratorsAux

/-- A pod starts on one of two nodes with an accelerator each: the other one is promised, and is free. -/
theorem not_promised_again_sample :
    NotPromisedAgain sampleCtx sampleRuntime gpuCell sampleReader
      [gpuNode, { gpuNode with metadata.name := "node-b" }] [gpuPod]
      ["kc-01234567"] gpuClass := by
  refine (not_promised_again_iff sampleCtx sampleRuntime gpuCell sampleReader
    [gpuNode, { gpuNode with metadata.name := "node-b" }]
    [gpuPod] ["kc-01234567"]).2.mpr ?_ gpuClass fun device hentitled => ?_
  · unfold Undiminished
    decide +kernel
  · rw [List.mem_singleton.mp hentitled.1]
    decide +kernel

/-- The only accelerator of a Cell is promised while a pod that is bound to it starts. -/
theorem not_promised_again_false :
    ¬∀ (Γ : Ctx) (rt : Runtime) (cell : Cell) (reader : InventoryReader) (nodes : List Node) (pods : List Pod)
      (clusterNames : List String) (virtualNodeClass : VirtualNodeClass),
      NotPromisedAgain Γ rt cell reader nodes pods clusterNames virtualNodeClass := by
  intro h
  have hroom := h sampleCtx sampleRuntime gpuCell sampleReader [gpuNode] [gpuPod] ["kc-01234567"] gpuClass
    (by decide +kernel)
    { name := "gpu", resourceName := gpu } ⟨by decide +kernel, by decide +kernel⟩
  exact absurd hroom (by unfold RoomFor; decide +kernel)

end KubeCell
