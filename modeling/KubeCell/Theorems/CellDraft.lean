import Mathlib.Data.List.Dedup
import KubeCell.Commands
import KubeCell.Lemmas.Names

/-!
# The draft of a Cell

The installer writes a Cell from the nodes of a host: its profile is the label they carry, its devices are what they
offer. A label of Kubernetes may hold capital letters and underscores, which the name of a machine profile may not;
apart from that the draft is what the webhook admits.
-/

namespace KubeCell

/-- What a node that the API server returns has: a legal value for its profile label, and legal names
for extended resources. -/
structure Node.Legal (node : Node) : Prop where
  label : node.metadata.labels.get Platform.profileLabelKey = "" ∨
    qualifiedNamePart (node.metadata.labels.get Platform.profileLabelKey).toList = []
  resources : ∀ key ∈ node.allocatable, '/' ∈ key.toList → isQualifiedName key = []

/-- The Cell that a draft is written as. -/
def CellDraft.cell (draft : CellDraft) : Cell :=
  { metadata := { name := draft.name }
    spec := { managedClusterRef := { name := draft.name }, machineProfile := { name := draft.profileName, devices := draft.devices } } }

/-- A draft is written, as a Cell that passes validation, and says what the nodes are labelled with and offer. -/
structure CellDraft.Admissible (Γ : InstallerCtx) (nodes : List Node) (draft : CellDraft) : Prop where
  rendered : ∃ text, renderCellYAML Γ draft = .ok text ∧ Γ.marshalCell draft.cell = .ok text
  valid : validateCellSpec draft.cell.spec = []
  profile : ∀ node ∈ nodes, node.metadata.labels.get Platform.profileLabelKey = draft.profileName
  sorted : (draft.devices.map (·.resourceName)).Pairwise (· < ·)
  devices : ∀ key, key ∈ draft.devices.map (·.resourceName) ↔
    '/' ∈ key.toList ∧ ∃ node ∈ nodes, ∃ quantity, AList.lookup key node.allocatable = some quantity ∧
      0 < quantity.value

open Checks NamesAux

namespace CellDraftAux

variable {Γ : InstallerCtx} {nodes : List Node} {profile : String} {devices : List DeviceContract}

/-! ## Sets as sorted lists -/

/-- A sorted set has the same members. -/
theorem mem_sortedSet (values : List String) (value : String) : value ∈ sortedSet values ↔ value ∈ values := by
  rw [sortedSet, List.mem_insertionSort, List.mem_dedup]

/-- A sorted set is sorted, without duplicates. -/
theorem pairwise_sortedSet (values : List String) : (sortedSet values).Pairwise (· < ·) := by
  have hle : (sortedSet values).Pairwise (· ≤ ·) := List.pairwise_insertionSort _ _
  have hne : (sortedSet values).Pairwise (· ≠ ·) :=
    ((List.perm_insertionSort _ _).nodup_iff).mpr (List.nodup_dedup values)
  exact hle.imp₂ (fun _ _ h h' => lt_of_le_of_ne h h') hne

/-! ## Names of Kubernetes -/

/-- The name part of a qualified name is not empty, and has the characters of names. -/
theorem nameChar_of_namePart {name : List Char} (h : qualifiedNamePart name = []) :
    name ≠ [] ∧ ∀ c ∈ name, isNameChar c = true := by
  rw [qualifiedNamePart, List.append_eq_nil_iff] at h
  obtain ⟨hlength, hchars⟩ := h
  split_ifs at hlength hchars with hnil _ hall
  refine ⟨hnil, fun c hc => ?_⟩
  simp only [Bool.and_eq_true, List.all_eq_true] at hall
  simp [isNameChar, hall.1.1 c hc]

/-- A text of the characters of names is not blank. -/
theorem isBlank_of_nameChar {value : String} (hne : value ≠ "") (h : ∀ c ∈ value.toList, isNameChar c = true) :
    isBlank value = false := by
  rw [isBlank, trimSpace_eq_self fun c hc => (nameChar_plain (h c hc)).1]
  simpa using hne

/-- A qualified name with a slash is the name of an extended resource, and its device is named by what
stands after the slash. -/
theorem discoveredDevice_of_qualified {key : String} (hkey : isQualifiedName key = []) (hslash : '/' ∈ key.toList) :
    isExtendedResourceName key = true ∧ (discoveredDevice key).resourceName = key ∧
      isBlank (discoveredDevice key).name = false := by
  have hkey' := hkey
  rw [isQualifiedName] at hkey'
  split at hkey'
  · rename_i part hparts
    obtain ⟨before, after, htext⟩ := List.append_of_mem hslash
    rw [splitAtChar_eq_splitOn, htext, List.splitOn_append_cons_self] at hparts
    have hbefore := List.length_pos_iff.mpr (List.splitOn_ne_nil '/' before)
    have hafter := List.length_pos_iff.mpr (List.splitOn_ne_nil '/' after)
    have hlength := congrArg List.length hparts
    rw [List.length_append, List.length_singleton] at hlength
    omega
  · rename_i domain name hparts
    rw [List.append_eq_nil_iff] at hkey'
    obtain ⟨hdomain, hname⟩ := hkey'
    obtain ⟨hnonempty, hchars⟩ := nameChar_of_namePart hname
    split_ifs at hdomain with hnil
    refine ⟨?_, ?_, ?_⟩
    · rw [isExtendedResourceName, hparts]
      simp [hnil, hnonempty, hkey, List.map_eq_nil_iff.mp hdomain]
    · rw [discoveredDevice, hparts]
    · rw [discoveredDevice, hparts]
      refine isBlank_of_nameChar ?_ (by simpa using hchars)
      simpa using hnonempty
  · cases hkey'

/-- A discovered device keeps its resource. -/
theorem resourceName_discoveredDevice (key : String) : (discoveredDevice key).resourceName = key := by
  unfold discoveredDevice
  split <;> rfl

/-! ## Discovery -/

/-- What a discovery has seen. -/
theorem discoverCellDraft_ok {nodesJSON : List UInt8} (hnodes : Γ.unmarshalNodes nodesJSON = .ok nodes)
    (h : discoverCellDraft Γ nodesJSON = .ok (profile, devices)) :
    nodes ≠ [] ∧ profile ≠ "" ∧ (∀ node ∈ nodes, nodeProfile node = profile) ∧
      devices = (sortedSet (nodes.flatMap nodeDevices)).map discoveredDevice := by
  rw [discoverCellDraft, hnodes] at h
  obtain ⟨_, hmap, h⟩ := bind_eq_ok.mp h
  cases hmap
  rw [ite_throw_eq_ok] at h
  obtain ⟨hnonempty, h⟩ := h
  dsimp only at h
  split at h
  · nomatch h
  · rename_i hnone
    split at h
    · rename_i found hset
      cases h
      have hprofile : ∀ node ∈ nodes, nodeProfile node = profile := by
        intro node hnode
        have hmem := (mem_sortedSet (nodes.map nodeProfile) (nodeProfile node)).mpr (List.mem_map_of_mem hnode)
        rw [hset, List.mem_singleton] at hmem
        exact hmem
      have hne : nodes ≠ [] := fun hnil => hnonempty (by rw [hnil]; rfl)
      refine ⟨hne, ?_, hprofile, rfl⟩
      obtain ⟨node, hnode⟩ := List.exists_mem_of_ne_nil nodes hne
      rw [← hprofile node hnode]
      simpa using List.find?_eq_none.mp hnone node hnode
    · nomatch h

/-- The profile of a legal node is its label. -/
theorem nodeProfile_of_legal {node : Node} (h : node.Legal) :
    nodeProfile node = node.metadata.labels.get Platform.profileLabelKey := by
  rcases h.label with hempty | hlabel
  · rw [nodeProfile, hempty]
    rfl
  · rw [nodeProfile, trimSpace_eq_self fun c hc => (nameChar_plain ((nameChar_of_namePart hlabel).2 c hc)).1,
      String.ofList_toList]

/-- The device keys are those that some node offers. -/
theorem mem_nodeDevices (node : Node) (key : String) : key ∈ nodeDevices node ↔
    '/' ∈ key.toList ∧ ∃ quantity, AList.lookup key node.allocatable = some quantity ∧ 0 < quantity.value := by
  simp only [nodeDevices, List.mem_map, List.mem_filter, Bool.and_eq_true, List.contains_iff_mem, decide_eq_true_eq]
  constructor
  · rintro ⟨e, ⟨hmem, hslash, hpos⟩, rfl⟩
    exact ⟨hslash, e.2, AList.mem_lookup_iff.mpr hmem, hpos⟩
  · rintro ⟨hslash, quantity, hlookup, hpos⟩
    exact ⟨⟨key, quantity⟩, ⟨AList.mem_lookup_iff.mp hlookup, hslash, hpos⟩, rfl⟩

/-- The devices of a draft are named by the resources of the nodes, in order. -/
theorem resourceNames_discovered (keys : List String) : (keys.map discoveredDevice).map (·.resourceName) = keys := by
  rw [List.map_map]
  exact (List.map_congr_left fun key _ => resourceName_discoveredDevice key).trans (List.map_id keys)

/-- Every device of a draft from legal nodes is one that the webhook admits, and that is written. -/
theorem discovered_legal (hlegal : ∀ node ∈ nodes, node.Legal) {device : DeviceContract}
    (hdevice : device ∈ (sortedSet (nodes.flatMap nodeDevices)).map discoveredDevice) :
    validateDeviceContract device = [] ∧ isBlank device.name = false ∧ isBlank device.resourceName = false := by
  obtain ⟨key, hkey, rfl⟩ := List.mem_map.mp hdevice
  rw [mem_sortedSet, List.mem_flatMap] at hkey
  obtain ⟨node, hnode, hkey⟩ := hkey
  obtain ⟨hslash, quantity, hlookup, -⟩ := (mem_nodeDevices node key).mp hkey
  have hmem : key ∈ node.allocatable := AList.lookup_isSome.mp (by rw [hlookup]; rfl)
  obtain ⟨hextended, hname, hblank⟩ := discoveredDevice_of_qualified
    ((hlegal node hnode).resources key hmem hslash) hslash
  have hne : key ≠ "" := by
    rintro rfl
    simp at hslash
  have hresource : isBlank key = false := isBlank_of_nameChar hne (nameChar_of_extended hextended)
  have hshort : (discoveredDevice key).name ≠ "" := by
    intro h
    rw [h] at hblank
    exact absurd hblank (by decide)
  refine ⟨?_, hblank, by rwa [hname]⟩
  simp [validateDeviceContract, hname, hne, hshort, hextended]

/-- A draft without blank names is written as its Cell. -/
theorem renderCellYAML_ok {draft : CellDraft} {text : String} (hname : isBlank draft.name = false)
    (hprofile : isBlank draft.profileName = false)
    (hdevices : ∀ device ∈ draft.devices, isBlank device.name = false ∧ isBlank device.resourceName = false)
    (htext : Γ.marshalCell draft.cell = .ok text) : renderCellYAML Γ draft = .ok text := by
  have hany : (draft.devices.any fun device => isBlank device.name || isBlank device.resourceName) = false := by
    rw [List.any_eq_false]
    intro device hdevice
    simp [hdevices device hdevice]
  rw [renderCellYAML, hname, hprofile, hany, ← CellDraft.cell, htext]
  rfl

end CellDraftAux

open CellDraftAux

/-- From the nodes of an API server a draft comes that is written, admitted and true of them, exactly when their
profile label is one that the webhook takes as the name of a machine profile. -/
theorem cell_draft_admissible_iff (Γ : InstallerCtx) (nodesJSON : List UInt8) (nodes : List Node)
    (name profile : String) (devices : List DeviceContract) (hnodes : Γ.unmarshalNodes nodesJSON = .ok nodes)
    (hlegal : ∀ node ∈ nodes, node.Legal) (hdiscover : discoverCellDraft Γ nodesJSON = .ok (profile, devices))
    (hname : isDNS1123Subdomain name = []) (hmarshal : ∀ cell, ∃ text, Γ.marshalCell cell = .ok text) :
    CellDraft.Admissible Γ nodes ⟨name, profile, devices⟩ ↔
      ∀ node ∈ nodes, isDNS1123Subdomain (node.metadata.labels.get Platform.profileLabelKey) = [] := by
  obtain ⟨hne, hprofile, hlabels, rfl⟩ := discoverCellDraft_ok hnodes hdiscover
  have hlabel : ∀ node ∈ nodes, node.metadata.labels.get Platform.profileLabelKey = profile := by
    intro node hnode
    rw [← nodeProfile_of_legal (hlegal node hnode)]
    exact hlabels node hnode
  constructor
  · intro h node hnode
    rw [hlabel node hnode]
    have hvalid := h.valid
    simp only [validateCellSpec, List.append_eq_nil_iff] at hvalid
    by_contra hsubdomain
    exact absurd hvalid.1.2 (by simp [CellDraft.cell, hprofile, hsubdomain])
  · intro h
    obtain ⟨first, hfirst⟩ := List.exists_mem_of_ne_nil nodes hne
    have hsubdomain : isDNS1123Subdomain profile = [] := hlabel first hfirst ▸ h first hfirst
    have hnonempty : name ≠ "" := by
      rintro rfl
      exact absurd hname (by decide)
    have hnameBlank := isBlank_of_nameChar hnonempty fun c hc => (nameChar_of_subdomain hname c hc).1
    have hprofileBlank := isBlank_of_nameChar hprofile fun c hc => (nameChar_of_subdomain hsubdomain c hc).1
    obtain ⟨text, htext⟩ := hmarshal
      (CellDraft.cell ⟨name, profile, (sortedSet (nodes.flatMap nodeDevices)).map discoveredDevice⟩)
    refine ⟨⟨text, ?_, htext⟩, ?_, hlabel, ?_, ?_⟩
    · refine renderCellYAML_ok hnameBlank hprofileBlank (fun device hdevice => ?_) htext
      exact (discovered_legal hlegal hdevice).2
    · simp only [validateCellSpec, List.append_eq_nil_iff]
      refine ⟨⟨by simp [CellDraft.cell, hnonempty], by simp [CellDraft.cell, hprofile, hsubdomain]⟩, ?_⟩
      exact List.flatMap_eq_nil_iff.mpr fun device hdevice => (discovered_legal hlegal hdevice).1
    · rw [resourceNames_discovered]
      exact pairwise_sortedSet _
    · intro key
      rw [resourceNames_discovered, mem_sortedSet, List.mem_flatMap]
      constructor
      · rintro ⟨node, hnode, hkey⟩
        obtain ⟨hslash, hoffer⟩ := (mem_nodeDevices node key).mp hkey
        exact ⟨hslash, node, hnode, hoffer⟩
      · rintro ⟨hslash, node, hnode, hoffer⟩
        exact ⟨node, hnode, (mem_nodeDevices node key).mpr ⟨hslash, hoffer⟩⟩

namespace CellDraftAux

/-- A node with one GPU, labelled with a profile. -/
def gpuNode (label : String) : Node :=
  { metadata := { name := "node-a", labels := AList.singleton Platform.profileLabelKey label }
    allocatable := AList.singleton "nvidia.com/gpu" (.newQuantity 1 .decimalSI) }

/-- An installer that reads the one node, and writes a Cell as YAML. -/
def gpuInstaller (label : String) : InstallerCtx :=
  { sha256 := fun _ => []
    urlHostname := fun _ => none
    parseQuantity := fun _ => none
    version := "dev"
    unmarshalManifest := fun _ => .error "unknown"
    unmarshalNodes := fun _ => .ok [gpuNode label]
    unmarshalCell := fun _ => .error "unknown"
    marshalCell := fun cell => .ok
      ("apiVersion: kubecell.io/v1alpha1\nkind: Cell\nmetadata:\n  name: " ++ cell.metadata.name ++
      "\nspec:\n  machineProfile:\n    devices:\n" ++
      String.join (cell.spec.machineProfile.devices.map fun device =>
        "    - name: " ++ device.name ++ "\n      resourceName: " ++ device.resourceName ++ "\n") ++
      "    name: " ++ cell.spec.machineProfile.name ++ "\n  managedClusterRef:\n    name: " ++
        cell.spec.managedClusterRef.name ++
      "\nstatus:\n  managedCluster: \x7b\x7d\n  nodePorts:\n    observedAt: null\n  provider: \x7b\x7d\n")
    marshalClass := fun _ => .error "unknown" }

/-- The sample node is legal if its label is. -/
theorem legal_gpuNode {label : String} (hlabel : qualifiedNamePart label.toList = []) : (gpuNode label).Legal := by
  refine ⟨.inr hlabel, fun key hkey _ => ?_⟩
  rw [AList.mem_keys] at hkey
  obtain rfl := List.mem_singleton.mp hkey
  decide +kernel

/-- The sample node is the only one. -/
theorem forall_gpuNodes {label : String} {P : Node → Prop} (h : P (gpuNode label)) :
    ∀ node ∈ [gpuNode label], P node := by
  intro node hnode
  rwa [List.mem_singleton.mp hnode]

end CellDraftAux

theorem cell_draft_admissible_sample :
    CellDraft.Admissible (gpuInstaller "a100") [gpuNode "a100"] ⟨"host-a", "a100", [⟨"gpu", "nvidia.com/gpu"⟩]⟩ := by
  refine (cell_draft_admissible_iff (gpuInstaller "a100") [] [gpuNode "a100"] "host-a" "a100"
    [⟨"gpu", "nvidia.com/gpu"⟩]
    rfl (forall_gpuNodes (legal_gpuNode ?_)) rfl ?_ fun _ => ⟨_, rfl⟩).mpr (forall_gpuNodes ?_) <;> decide +kernel

/-- The label A100_80GB is legal for a node, and not legal as the name of a machine profile. -/
theorem cell_draft_admissible_false :
    ¬∀ (Γ : InstallerCtx) (nodesJSON : List UInt8) (nodes : List Node) (name profile : String)
      (devices : List DeviceContract),
      Γ.unmarshalNodes nodesJSON = .ok nodes → (∀ node ∈ nodes, node.Legal) → discoverCellDraft Γ nodesJSON = .ok
        (profile, devices) →
      isDNS1123Subdomain name = [] → (∀ cell, ∃ text, Γ.marshalCell cell = .ok text) →
      CellDraft.Admissible Γ nodes ⟨name, profile, devices⟩ := by
  intro h
  have hvalid := (h (gpuInstaller "A100_80GB") [] [gpuNode "A100_80GB"] "host-a" "A100_80GB"
    [⟨"gpu", "nvidia.com/gpu"⟩] rfl
    (forall_gpuNodes (legal_gpuNode (by decide +kernel))) rfl (by decide +kernel) fun _ => ⟨_, rfl⟩).valid
  revert hvalid
  decide +kernel

end KubeCell
