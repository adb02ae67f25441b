import KubeCell.Commands
import KubeCell.Lemmas.Inventory
import KubeCell.Theorems.Usable

/-!
# The draft of a class

The installer writes a class from the inventory of a Cell. The inventory holds what the nodes of the profile
offer and also whatever the pods ask for, and a quantity of it may be nothing, or a fraction; a class may be
entitled to none of these.
-/

namespace KubeCell

/-- A resource that the projection of an inventory meets: a pod asks for it, or a ready node of the profile has it. -/
def Inventoried (profile : MachineProfile) (nodes : List Node) (pods : List Pod) (clusterNames : List String)
    (name : String) : Prop :=
  (∃ pod ∈ pods, countsPod clusterNames pod = true ∧ name ∈ effectivePodRequests pod) ∨
    ∃ node ∈ nodes, InventoryAux.contributes profile name node = true

/-- What the ready nodes of the profile can allocate of a resource together, added up node by node. -/
def offered (profile : MachineProfile) (nodes : List Node) (name : String) : Quantity :=
  (nodes.filter (InventoryAux.contributes profile name)).foldl
    (fun total node => total.add (node.allocatable.qty name)) .zero

/-- A class says what another one does, with the quantities that `ParseQuantity` makes of the written ones. -/
structure VirtualNodeClass.ReadAs (Γ : Ctx) (read written : VirtualNodeClass) : Prop where
  storage : read.spec.storageClassName = written.spec.storageClassName
  hard : ∀ key, AList.lookup key read.spec.workloadHard =
    (AList.lookup key written.spec.workloadHard).bind fun q => Γ.parseQuantity q.string

/-- The quantities of a list can be read once they are written, and are positive then exactly when they were. -/
def ReadsSign (Γ : Ctx) (quantities : ResourceList) : Prop :=
  ∀ name q, AList.lookup name quantities = some q → ∃ q', Γ.parseQuantity q.string = some q' ∧
    (0 < q'.value ↔ 0 < q.value)

/-- A quantity that is written and read again is a 64-bit whole number. -/
def ReadsWhole (Γ : Ctx) (q : Quantity) : Prop := ((Γ.parseQuantity q.string).bind Quantity.asInt64).isSome = true

/-- The class with a StorageClass filled in. -/
def VirtualNodeClass.withStorage (virtualNodeClass : VirtualNodeClass) (storageClassName : String) : VirtualNodeClass :=
  { virtualNodeClass with spec.storageClassName := storageClassName }

/-- The entries of the quota for one entry of the inventory. -/
def addPair (hard : ResourceList) (e : Σ _ : String, InventoryStatus) : ResourceList :=
  (hard.insert ("requests." ++ e.1) e.2.allocatable).insert ("limits." ++ e.1) e.2.allocatable

/-- The quota of an inventory. -/
def suggestedHard (inventory : GoMap InventoryStatus) : ResourceList := inventory.entries.foldl addPair ∅

/-- The class that is written. -/
def suggestedClass (cell : Cell) (className : String) : VirtualNodeClass :=
  { metadata := { name := className }, spec := { workloadHard := suggestedHard cell.status.inventory, storageClassName := "" } }

/-- What is written of a class is read back as the same, each quantity on its own. -/
def ClassReadsBack (Γ : InstallerCtx) (readClass : String → Except String VirtualNodeClass)
    (written : VirtualNodeClass) : Prop :=
  ReadsSign Γ.toCtx written.spec.workloadHard ∧
    ∃ text read, Γ.marshalClass written = .ok text ∧ readClass text = .ok read ∧ read.ReadAs Γ.toCtx written

/-- A class is written for the Cell, and is admitted and resolves on it once it has a StorageClass. -/
def DraftAdmissible (Γ : InstallerCtx) (readClass : String → Except String VirtualNodeClass) (cell : Cell)
    (className storageClassName : String) : Prop :=
  ∃ text draft, suggestClassYAML Γ cell className = .ok text ∧ readClass text = .ok draft ∧
    validateVirtualNodeClassSpec (draft.withStorage storageClassName).spec = [] ∧
    ∃ snap, resolveVirtualCluster Γ.toCtx cell (draft.withStorage storageClassName) = .ok snap

open Checks InventoryAux ResolutionAux UsableAux

namespace ClassDraftAux

/-! ## The quota that is written -/

/-- When a class is suggested, and which text. -/
theorem suggestClassYAML_ok {Γ : InstallerCtx} {cell : Cell} {className text : String} :
    suggestClassYAML Γ cell className = .ok text ↔
      isBlank className = false ∧ cell.status.inventory.entries ≠ [] ∧
        Γ.marshalClass (suggestedClass cell className) = .ok text := by
  unfold suggestClassYAML
  rw [ite_throw_eq_ok, ite_throw_eq_ok, Bool.not_eq_true, List.length_eq_zero_iff]
  refine and_congr_right fun _ => and_congr_right fun _ => ?_
  change (Γ.marshalClass (suggestedClass cell className)).mapError _ = _ ↔ _
  cases Γ.marshalClass (suggestedClass cell className) with
  | error e => exact iff_of_false nofun nofun
  | ok written => exact Iff.rfl

/-- One more pair. -/
theorem lookup_addPair (hard : ResourceList) (e : Σ _ : String, InventoryStatus) (name : String) :
    AList.lookup ("requests." ++ name) (addPair hard e) =
        (if name = e.1 then some e.2.allocatable else AList.lookup ("requests." ++ name) hard) ∧
      AList.lookup ("limits." ++ name) (addPair hard e) =
        if name = e.1 then some e.2.allocatable else AList.lookup ("limits." ++ name) hard := by
  unfold addPair
  rw [AList.lookup_insert_ne (requests_ne_limits name e.1)]
  split_ifs with heq
  · rw [heq]
    exact ⟨AList.lookup_insert _, AList.lookup_insert _⟩
  · have hrequests : "requests." ++ name ≠ "requests." ++ e.1 := fun h => heq ((String.append_right_inj _).mp h)
    have hlimits : "limits." ++ name ≠ "limits." ++ e.1 := fun h => heq ((String.append_right_inj _).mp h)
    rw [AList.lookup_insert_ne hrequests, AList.lookup_insert_ne hlimits, AList.lookup_insert_ne
      (Ne.symm (requests_ne_limits e.1 name))]
    exact ⟨rfl, rfl⟩

/-- What the loop over the inventory leaves under the two keys of a resource. -/
theorem lookup_foldl_addPair {entries : List (Σ _ : String, InventoryStatus)} (hnodup : entries.NodupKeys)
    (hard : ResourceList) (name : String) :
    AList.lookup ("requests." ++ name) (entries.foldl addPair hard) =
        ((entries.dlookup name).map (·.allocatable)).or (AList.lookup ("requests." ++ name) hard) ∧
      AList.lookup ("limits." ++ name) (entries.foldl addPair hard) =
        ((entries.dlookup name).map (·.allocatable)).or (AList.lookup ("limits." ++ name) hard) := by
  induction entries generalizing hard with
  | nil => exact ⟨rfl, rfl⟩
  | cons e entries ih =>
    obtain ⟨hnew, hrest⟩ := List.nodupKeys_cons.mp hnodup
    obtain ⟨hrequests, hlimits⟩ := ih hrest (addPair hard e)
    rw [List.foldl_cons, hrequests, hlimits, (lookup_addPair hard e name).1, (lookup_addPair hard e name).2]
    by_cases heq : name = e.1
    · subst heq
      rw [List.dlookup_eq_none.mpr hnew, List.dlookup_cons_eq]
      simp
    · rw [List.dlookup_cons_ne _ _ heq, if_neg heq, if_neg heq]
      exact ⟨rfl, rfl⟩

/-- A resource of the inventory is asked for and limited by what can be allocated of it. -/
theorem lookup_suggestedHard (inventory : GoMap InventoryStatus) (name : String) :
    AList.lookup ("requests." ++ name) (suggestedHard inventory) = (AList.lookup name inventory).map (·.allocatable) ∧
      AList.lookup ("limits." ++ name) (suggestedHard inventory) = (AList.lookup name inventory).map
        (·.allocatable) := by
  obtain ⟨hrequests, hlimits⟩ := lookup_foldl_addPair inventory.nodupKeys ∅ name
  rw [AList.lookup_empty, Option.or_none] at hrequests hlimits
  exact ⟨hrequests, hlimits⟩

/-- The keys of the suggestion are those of its resources. -/
theorem key_of_suggestedHard {inventory : GoMap InventoryStatus} {key : String} (h : key ∈ suggestedHard inventory) :
    ∃ name, key = "requests." ++ name ∨ key = "limits." ++ name := by
  have hfold : ∀ (entries : List (Σ _ : String, InventoryStatus)) (hard : ResourceList),
    key ∈ entries.foldl addPair hard →
      key ∈ hard ∨ ∃ name, key = "requests." ++ name ∨ key = "limits." ++ name := by
    intro entries
    induction entries with
    | nil => exact fun _ hmem => .inl hmem
    | cons e entries ih =>
      intro hard hmem
      rcases ih _ hmem with hpair | hname
      · rcases (AList.mem_insert _).mp hpair with hlimits | hpair
        · exact .inr ⟨e.1, .inr hlimits⟩
        · rcases (AList.mem_insert _).mp hpair with hrequests | hhard
          · exact .inr ⟨e.1, .inl hrequests⟩
          · exact .inl hhard
      · exact .inr hname
  exact (hfold inventory.entries ∅ h).resolve_left (AList.notMem_empty key)

/-! ## The class that is read -/

section

variable {Γ : Ctx} {draft : VirtualNodeClass} {inventory : GoMap InventoryStatus}

/-- The quota of a class that is read back, resource by resource. -/
structure Pairs (Γ : Ctx) (draft : VirtualNodeClass) (inventory : GoMap InventoryStatus) : Prop where
  keys : ∀ key ∈ draft.spec.workloadHard, ∃ name, key = "requests." ++ name ∨ key = "limits." ++ name
  requests : ∀ name, AList.lookup ("requests." ++ name) draft.spec.workloadHard =
    (AList.lookup name inventory).bind fun entry => Γ.parseQuantity entry.allocatable.string
  limits : ∀ name, AList.lookup ("limits." ++ name) draft.spec.workloadHard =
    (AList.lookup name inventory).bind fun entry => Γ.parseQuantity entry.allocatable.string
  sign : ∀ name entry, AList.lookup name inventory = some entry →
    ∃ q, Γ.parseQuantity entry.allocatable.string = some q ∧ (0 < q.value ↔ 0 < entry.allocatable.value)

/-- What is read back pairs the requests with the limits. -/
theorem pairs_of_readAs {written : VirtualNodeClass} (hwritten : written.spec.workloadHard = suggestedHard inventory)
    (hsign : ReadsSign Γ written.spec.workloadHard) (h : draft.ReadAs Γ written) : Pairs Γ draft inventory := by
  refine ⟨fun key hkey => ?_, fun name => ?_, fun name => ?_, fun name entry hentry => ?_⟩
  · have hread := h.hard key
    obtain ⟨q, hq⟩ := Option.isSome_iff_exists.mp (AList.lookup_isSome.mpr hkey)
    rw [hq, eq_comm, Option.bind_eq_some_iff, hwritten] at hread
    obtain ⟨q', hq', -⟩ := hread
    exact key_of_suggestedHard (AList.lookup_isSome.mp (by rw [hq']; rfl))
  · rw [h.hard, hwritten, (lookup_suggestedHard inventory name).1, Option.bind_map]
    rfl
  · rw [h.hard, hwritten, (lookup_suggestedHard inventory name).2, Option.bind_map]
    rfl
  · refine hsign ("requests." ++ name) entry.allocatable ?_
    rw [hwritten, (lookup_suggestedHard inventory name).1, hentry]
    rfl

/-- The storage class does not matter for that. -/
theorem Pairs.withStorage (h : Pairs Γ draft inventory) (storageClassName : String) :
    Pairs Γ (draft.withStorage storageClassName) inventory :=
  ⟨h.keys, h.requests, h.limits, h.sign⟩

/-- The pair of a resource of the inventory is of one quantity. -/
theorem Pairs.pair (h : Pairs Γ draft inventory) {name : String} {entry : InventoryStatus}
    (hentry : AList.lookup name inventory = some entry) :
    ∃ q, Γ.parseQuantity entry.allocatable.string = some q ∧ (0 < q.value ↔ 0 < entry.allocatable.value) ∧
      AList.lookup ("requests." ++ name) draft.spec.workloadHard = some q ∧
      AList.lookup ("limits." ++ name) draft.spec.workloadHard = some q := by
  obtain ⟨q, hq, hsign⟩ := h.sign name entry hentry
  exact ⟨q, hq, hsign, by rw [h.requests, hentry, Option.bind_some, hq], by rw [h.limits, hentry, Option.bind_some, hq]⟩

/-- An entry of the quota is of a resource of the inventory. -/
theorem Pairs.entry (h : Pairs Γ draft inventory) {name key : String} {q : Quantity}
    (hkey : key = "requests." ++ name ∨ key = "limits." ++ name)
    (hq : AList.lookup key draft.spec.workloadHard = some q) :
    ∃ entry, AList.lookup name inventory = some entry ∧ Γ.parseQuantity entry.allocatable.string = some q := by
  rcases hkey with rfl | rfl
  · rwa [h.requests, Option.bind_eq_some_iff] at hq
  · rwa [h.limits, Option.bind_eq_some_iff] at hq

/-- It is admitted when every resource of the inventory may be part of a quota, and can be allocated. -/
theorem valid_iff (h : Pairs Γ draft inventory) (hstorage : isDNS1123Subdomain draft.spec.storageClassName = []) :
    validateVirtualNodeClassSpec draft.spec = [] ↔
      ∀ name entry, AList.lookup name inventory = some entry →
        0 < entry.allocatable.value ∧ (name ∈ baseResources ∨ isExtendedResourceName name = true) := by
  constructor
  · intro hvalid name entry hentry
    obtain ⟨q, -, hsign, hrequest, -⟩ := h.pair hentry
    have hvalidEntry := validEntry_of_request hvalid hrequest
    exact ⟨hsign.mp hvalidEntry.positive, hvalidEntry.allowed⟩
  · intro hentries
    refine valid_of_validEntry hstorage fun key q hq => ?_
    obtain ⟨name, hkey⟩ := h.keys key (AList.lookup_isSome.mp (by rw [hq]; rfl))
    obtain ⟨entry, hentry, hread⟩ := h.entry hkey hq
    obtain ⟨q', hread', hsign, hrequest, hlimit⟩ := h.pair hentry
    obtain rfl : q = q' := Option.some.inj (hread.symm.trans hread')
    obtain ⟨hpositive, hallowed⟩ := hentries name entry hentry
    exact ⟨name, hkey, hsign.mpr hpositive, hallowed, ⟨q, hrequest, rfl⟩, ⟨q, hlimit, rfl⟩⟩

/-- A resource of the inventory may be part of a class for the Cell. -/
def Grants (Γ : Ctx) (profile : MachineProfile) (name : String) (total : Quantity) : Prop :=
  0 < total.value ∧ (name ∈ baseResources ∨ isExtendedResourceName name = true ∧ ReadsWhole Γ total ∧
    profile.Declares name ∧ profile.Declares (cutPrefix name "limits."))

/-- It is admitted and resolves when, besides, each extended resource of the inventory is a whole number
of a declared device. -/
theorem valid_and_resolves_iff (cell : Cell) (h : Pairs Γ draft inventory)
    (hstorage : isDNS1123Subdomain draft.spec.storageClassName = []) :
    (validateVirtualNodeClassSpec draft.spec = [] ∧ ∃ snap, resolveVirtualCluster Γ cell draft = .ok snap) ↔
      cell.spec.machineProfile.name ≠ "" ∧
        ∀ name entry, AList.lookup name inventory = some entry →
          Grants Γ cell.spec.machineProfile name entry.allocatable := by
  have hresolves : (∃ snap, resolveVirtualCluster Γ cell draft = .ok snap) ↔ Resolves cell draft := by
    simp only [resolveVirtualCluster_ok_iff, exists_and_left, exists_eq, and_true]
  rw [hresolves]
  constructor
  · rintro ⟨hvalid, hresolved⟩
    refine ⟨hresolved.profile, fun name entry hentry => ?_⟩
    obtain ⟨hpositive, hallowed⟩ := (valid_iff h hstorage).mp hvalid name entry hentry
    refine ⟨hpositive, hallowed.imp_right fun hextended => ?_⟩
    obtain ⟨q, hread, -, hrequest, hlimit⟩ := h.pair hentry
    obtain ⟨⟨hwhole, -⟩, hdeclared, htrimmed⟩ :=
      (resolves_iff hvalid hresolved.profile).mp hresolved name q q hextended hrequest hlimit
    exact ⟨hextended, by rw [ReadsWhole, hread]; exact hwhole, hdeclared, htrimmed⟩
  · rintro ⟨hprofile, hentries⟩
    have hvalid : validateVirtualNodeClassSpec draft.spec = [] := (valid_iff h hstorage).mpr fun name entry hentry =>
      ⟨(hentries name entry hentry).1, (hentries name entry hentry).2.imp_right fun hdevice => hdevice.1⟩
    refine ⟨hvalid, (resolves_iff hvalid hprofile).mpr fun name request limit hextended hrequest hlimit => ?_⟩
    obtain ⟨entry, hentry, hread⟩ := h.entry (.inl rfl) hrequest
    obtain ⟨entry', hentry', hread'⟩ := h.entry (.inr rfl) hlimit
    obtain rfl : entry = entry' := Option.some.inj (hentry.symm.trans hentry')
    rcases (hentries name entry hentry).2 with hbase | ⟨-, hwhole, hdeclared, htrimmed⟩
    · simp only [baseResources, List.mem_cons, List.not_mem_nil, or_false] at hbase
      rcases hbase with rfl | rfl | rfl <;> exact absurd hextended (by decide)
    · have hrequestWhole := hwhole
      rw [ReadsWhole, hread] at hrequestWhole
      rw [ReadsWhole, hread'] at hwhole
      exact ⟨⟨hrequestWhole, hwhole⟩, hdeclared, htrimmed⟩

end

/-! ## The inventory that is projected -/

variable {rt : Runtime} {cell : Cell} {nodes : List Node} {pods : Option (List Pod)} {clusterNames : List String}

/-- A resource is met among the pods when one of those that count asks for it. -/
theorem isSome_foldl_withPod (clusterNames : List String) (pods : List Pod) (name : String) (current : Option Amounts) :
    (pods.foldl (withPod clusterNames name) current).isSome = true ↔
      current.isSome = true ∨ ∃ pod ∈ pods, countsPod clusterNames pod = true ∧ name ∈ effectivePodRequests pod := by
  induction pods generalizing current with
  | nil => simp
  | cons pod pods ih =>
    have hpod : (withPod clusterNames name current pod).isSome = true ↔
        current.isSome = true ∨ countsPod clusterNames pod = true ∧ name ∈ effectivePodRequests pod := by
      unfold withPod
      rw [← AList.lookup_isSome]
      cases countsPod clusterNames pod <;> cases AList.lookup name (effectivePodRequests pod) <;> simp
    rw [List.foldl_cons, ih, hpod, or_assoc]
    simp only [List.mem_cons, or_and_right, exists_or, exists_eq_left]

/-- What can be allocated of a resource, as an inventory has it. -/
def allocatableOf (inventory : GoMap InventoryStatus) (name : String) : Quantity :=
  (inventoryEntry inventory name).allocatable

/-- Pods do not change what can be allocated. -/
theorem allocatableOf_accountPod (clusterNames : List String) (account : PodAccount) (pod : Pod) (name : String) :
    allocatableOf (accountPod clusterNames account pod).inventory name = allocatableOf account.inventory name := by
  have hupdate : ∀ (update : InventoryStatus → Quantity → InventoryStatus) (requests : ResourceList),
      (∀ entry q, (update entry q).allocatable = entry.allocatable) →
        allocatableOf (updateEntries account.inventory update requests) name =
          allocatableOf account.inventory name := by
    intro update requests hkept
    have h := GoMap.lookup_foldl_update (fun _ current q => update (current.getD {}) q) requests account.inventory name
    simp only [allocatableOf, inventoryEntry, updateEntries] at h ⊢
    rw [h]
    cases AList.lookup name requests with
    | none => rfl
    | some q => exact hkept _ q
  unfold accountPod
  cases countsPod clusterNames pod with
  | false => rfl
  | true =>
    rw [Bool.not_true, if_neg Bool.false_ne_true]
    by_cases hpending : pod.phase = .pending
    · rw [if_pos hpending]
      exact hupdate _ _ fun _ _ => rfl
    · rw [if_neg hpending]
      exact hupdate _ _ fun _ _ => rfl

/-- A node adds what it can allocate, if it is one that offers the resource. -/
theorem allocatableOf_addNode (rt : Runtime) (profile : MachineProfile) (account : PodAccount)
    (inventory : GoMap InventoryStatus) (node : Node) (name : String) :
    allocatableOf (addNode inventory (nodeStatus rt profile account node)) name =
      if contributes profile name node then (allocatableOf inventory name).add (node.allocatable.qty name)
      else allocatableOf inventory name := by
  unfold addNode
  rw [nodeStatus_ready]
  cases hready : profileNodeReady profile node with
  | false => rw [if_neg Bool.false_ne_true, if_neg (by simp [contributes, hready])]
  | true =>
    rw [if_pos rfl, nodeStatus_of_ready rt account hready]
    dsimp only
    generalize hstatus : ({ observeNode rt node profile.name profile.devices with
        activeRequested := (AList.lookup node.metadata.name account.activeByNode).getD ∅
        pendingRequested := (AList.lookup node.metadata.name account.pendingByNode).getD ∅ } : CellNodeStatus) = status
    have hcapacity : (observeNode rt node profile.name profile.devices).capacity =
      copyResources profile.resources node.capacity := rfl
    have hallocatable : status.allocatable = copyResources profile.resources node.allocatable := by rw [← hstatus]; rfl
    have h := GoMap.lookup_foldl_update (fun key current q => addNodeResource status (current.getD {}) key q)
      (copyResources profile.resources node.capacity) inventory name
    rw [hcapacity]
    simp only [allocatableOf, inventoryEntry] at h ⊢
    rw [h, lookup_copyResources]
    by_cases hname : name ∈ profile.resources
    · rw [if_pos hname]
      cases hq : AList.lookup name node.capacity with
      | none => rw [if_neg (by simp [contributes, hq])]
      | some q =>
        rw [if_pos (by simp [contributes, hready, hname, hq]),
          ← qty_copyResources hname node.allocatable, ← hallocatable]
        rfl
    · rw [if_neg hname, if_neg (by simp [contributes, hname])]

/-- What the inventory says of a resource: it is there when a pod asks for it or a node has it, with
what the nodes offer. -/
theorem lookup_projectNodes (name : String) :
    ((AList.lookup name (projectNodes rt cell nodes pods clusterNames).status.inventory).isSome = true ↔
      Inventoried cell.spec.machineProfile nodes (pods.getD []) clusterNames name) ∧
    ∀ entry, AList.lookup name (projectNodes rt cell nodes pods clusterNames).status.inventory = some entry →
      entry.allocatable = offered cell.spec.machineProfile nodes name := by
  have hsame : projectNodes rt cell nodes pods clusterNames = projectNodes rt cell nodes
    (some (pods.getD [])) clusterNames := rfl
  constructor
  · have hamounts := inventoryAmounts_projectNodes rt cell nodes (pods.getD []) clusterNames name
    rw [← hsame, foldl_withNode] at hamounts
    have hisSome : (AList.lookup name (projectNodes rt cell nodes pods clusterNames).status.inventory).isSome =
        (inventoryAmounts (projectNodes rt cell nodes pods clusterNames).status.inventory name).isSome := by
      rw [inventoryAmounts, Option.isSome_map]
    have hnodes : nodes.filter (contributes cell.spec.machineProfile name) ≠ [] ↔
        ∃ node ∈ nodes, contributes cell.spec.machineProfile name node = true := by
      rw [ne_eq, List.filter_eq_nil_iff]
      simp
    rw [hisSome, hamounts, Inventoried, ← hnodes]
    split_ifs with hnil
    · rw [isSome_foldl_withPod]
      simp [hnil]
    · simp [hnil]
  · intro entry hentry
    have hpods : allocatableOf (accountPods clusterNames pods).inventory name = .zero := by
      rw [accountPods]
      refine List.foldlRecOn (motive := fun account : PodAccount =>
        allocatableOf account.inventory name = .zero) _ _ rfl
        fun account haccount pod _ => ?_
      rw [allocatableOf_accountPod, haccount]
    have hfold : allocatableOf (projectNodes rt cell nodes pods clusterNames).status.inventory name =
        nodes.foldl (fun total node => if contributes cell.spec.machineProfile name node then total.add
          (node.allocatable.qty name)
          else total) (allocatableOf (accountPods clusterNames pods).inventory name) := by
      simp only [projectNodes, List.foldl_map]
      exact (List.foldl_hom (fun inventory => allocatableOf inventory name) fun inventory node =>
        (allocatableOf_addNode rt cell.spec.machineProfile _ inventory node name).symm).symm
    rw [offered, List.foldl_filter, ← hpods, ← hfold, allocatableOf, inventoryEntry, hentry]
    rfl

/-- What is offered by some node is a resource the nodes are asked for. -/
theorem mem_resources_of_offered {profile : MachineProfile} {name : String}
    (h : 0 < (offered profile nodes name).value) :
    name ∈ profile.resources := by
  have hnodes : nodes.filter (contributes profile name) ≠ [] := by
    intro hnil
    rw [offered, hnil] at h
    exact lt_irrefl 0 h
  obtain ⟨node, hnode⟩ := List.exists_mem_of_ne_nil _ hnodes
  have hcontributes := (List.mem_filter.mp hnode).2
  simp only [contributes, Bool.and_eq_true, decide_eq_true_eq] at hcontributes
  exact hcontributes.1

/-- A map has an entry if one can be looked up. -/
theorem entries_ne_nil_iff {inventory : GoMap InventoryStatus} :
    inventory.entries ≠ [] ↔ ∃ name, (AList.lookup name inventory).isSome = true := by
  simp only [AList.lookup_isSome, AList.mem_keys, AList.keys, List.keys]
  constructor
  · intro hne
    obtain ⟨e, he⟩ := List.exists_mem_of_ne_nil _ hne
    exact ⟨e.1, List.mem_map_of_mem he⟩
  · rintro ⟨name, hname⟩ hnil
    rw [hnil] at hname
    nomatch hname

/-- What the entries of the inventory have to be, in terms of nodes and pods. -/
theorem grants_iff (Γ : Ctx) {profile : MachineProfile} {inventory : GoMap InventoryStatus} {present : String → Prop}
    (hlookup : ∀ name, ((AList.lookup name inventory).isSome = true ↔ present name) ∧
      ∀ entry, AList.lookup name inventory = some entry → entry.allocatable = offered profile nodes name) :
    (∀ name entry, AList.lookup name inventory = some entry → Grants Γ profile name entry.allocatable) ↔
      ∀ name, present name → 0 < (offered profile nodes name).value ∧
        (name ∈ baseResources ∨ isExtendedResourceName name = true ∧ ReadsWhole Γ (offered profile nodes name) ∧
          profile.Declares (cutPrefix name "limits.")) := by
  constructor
  · intro h name hname
    obtain ⟨entry, hentry⟩ := Option.isSome_iff_exists.mp ((hlookup name).1.mpr hname)
    obtain ⟨hpositive, hkind⟩ := h name entry hentry
    rw [(hlookup name).2 entry hentry] at hpositive hkind
    exact ⟨hpositive, hkind.imp_right fun ⟨hextended, hwhole, _, htrimmed⟩ => ⟨hextended, hwhole, htrimmed⟩⟩
  · intro h name entry hentry
    obtain ⟨hpositive, hkind⟩ := h name ((hlookup name).1.mp (by rw [hentry]; rfl))
    rw [Grants, (hlookup name).2 entry hentry]
    refine ⟨hpositive, ?_⟩
    rcases List.mem_append.mp (mem_resources_of_offered hpositive) with hbase | hdevice
    · exact .inl hbase
    · exact hkind.imp_right fun ⟨hextended, hwhole, htrimmed⟩ => ⟨hextended, hwhole, List.mem_map.mp hdevice, htrimmed⟩

end ClassDraftAux

open ClassDraftAux

/-- The draft of a class from a projected inventory is admitted and resolves, once it has a StorageClass,
exactly when there is something in the inventory and all of it is offered by the nodes, as resources of a quota
that the Cell declares. -/
theorem class_draft_admissible_iff (Γ : InstallerCtx) (rt : Runtime) (cell : Cell) (reader : InventoryReader)
    (nodes : List Node) (pods : Option (List Pod)) (clusterNames : List String)
    (readClass : String → Except String VirtualNodeClass) (className storageClassName : String)
    (hyaml : ClassReadsBack Γ readClass
      (suggestedClass (projectInventory Γ.toCtx rt cell reader nodes pods clusterNames).1 className))
    (hname : isBlank className = false) (hstorage : isDNS1123Subdomain storageClassName = []) :
    DraftAdmissible Γ readClass (projectInventory Γ.toCtx rt cell reader nodes pods clusterNames).1 className
      storageClassName ↔
      cell.spec.machineProfile.name ≠ "" ∧
        (∃ name, Inventoried cell.spec.machineProfile nodes (pods.getD []) clusterNames name) ∧
        ∀ name, Inventoried cell.spec.machineProfile nodes (pods.getD []) clusterNames name →
          0 < (offered cell.spec.machineProfile nodes name).value ∧
            (name ∈ baseResources ∨ isExtendedResourceName name = true ∧
              ReadsWhole Γ.toCtx (offered cell.spec.machineProfile nodes name) ∧
              cell.spec.machineProfile.Declares (cutPrefix name "limits.")) := by
  obtain ⟨-, hspec, -, hinventory, -⟩ := projectInventory_frame Γ.toCtx rt cell reader nodes pods clusterNames
  generalize (projectInventory Γ.toCtx rt cell reader nodes pods clusterNames).1 = projected at hspec hinventory hyaml ⊢
  have hlookup : ∀ name, ((AList.lookup name projected.status.inventory).isSome = true ↔
      Inventoried cell.spec.machineProfile nodes (pods.getD []) clusterNames name) ∧
      ∀ entry, AList.lookup name projected.status.inventory = some entry →
        entry.allocatable = offered cell.spec.machineProfile nodes name := by
    rw [hinventory]
    exact lookup_projectNodes
  have hsome : projected.status.inventory.entries ≠ [] ↔
      ∃ name, Inventoried cell.spec.machineProfile nodes (pods.getD []) clusterNames name :=
    entries_ne_nil_iff.trans (exists_congr fun name => (hlookup name).1)
  obtain ⟨hsign, text, read, hwritten, hread, hreadAs⟩ := hyaml
  have hdraft := valid_and_resolves_iff projected
    ((pairs_of_readAs rfl hsign hreadAs).withStorage storageClassName) hstorage
  rw [← grants_iff Γ.toCtx hlookup, ← hsome, ← hspec]
  constructor
  · rintro ⟨text', draft, htext, hreads, hvalid, hresolves⟩
    obtain ⟨-, hentries, hwritten'⟩ := suggestClassYAML_ok.mp htext
    obtain rfl : text = text' := Except.ok.inj (hwritten.symm.trans hwritten')
    obtain rfl : read = draft := Except.ok.inj (hread.symm.trans hreads)
    obtain ⟨hprofile, hgrants⟩ := hdraft.mp ⟨hvalid, hresolves⟩
    exact ⟨hprofile, hentries, hgrants⟩
  · rintro ⟨hprofile, hentries, hgrants⟩
    obtain ⟨hvalid, hresolves⟩ := hdraft.mpr ⟨hprofile, hgrants⟩
    exact ⟨text, read, suggestClassYAML_ok.mpr ⟨hname, hentries, hwritten⟩, hread, hvalid, hresolves⟩

namespace ClassDraftAux

open AcceleratorsAux OwnUsageAux

/-- A ready node with processors and an accelerator. -/
def trainingNode : Node :=
  { gpuNode with
    capacity := GoMap.ofList [("cpu", .newQuantity 8 .decimalSI), (gpu, .newQuantity 1 .decimalSI)]
    allocatable := GoMap.ofList [("cpu", .newQuantity 8 .decimalSI), (gpu, .newQuantity 1 .decimalSI)] }

/-- A running pod that asks for some of a resource. -/
def podAsking (name : String) : Pod :=
  { gpuPod with phase := .running, containers := [{ resources := { requests := AList.singleton name (.newQuantity 1 .decimalSI) } }] }

/-- The Cell with the inventory of the node and the pod. -/
def trainingCell (pod : Pod) : Cell :=
  (projectInventory sampleCtx sampleRuntime gpuCell sampleReader [trainingNode] (some [pod]) ["kc-01234567"]).1

/-- An installer that writes the draft for the node. -/
def draftInstaller : InstallerCtx :=
  { toCtx :=
      { sampleCtx with
        parseQuantity := fun text =>
          [("0", Quantity.zero), ("1", .newQuantity 1 .decimalSI), ("8", .newQuantity 8 .decimalSI)].lookup text }
    version := "dev"
    unmarshalManifest := fun _ => .error "unknown"
    unmarshalNodes := fun _ => .error "unknown"
    unmarshalCell := fun _ => .error "unknown"
    marshalCell := fun _ => .error "unknown"
    marshalClass := fun written => .ok
      ("apiVersion: kubecell.io/v1alpha1\nkind: VirtualNodeClass\nmetadata:\n  name: " ++ written.metadata.name ++
      "\nspec:\n  entitlement:\n    workloadHard:\n" ++
      String.join ((sortStrings written.spec.workloadHard.keys).map fun key =>
        "      " ++ key ++ ": \"" ++ (written.spec.workloadHard.qty key).string ++ "\"\n") ++
      "  storageClassName: \"\"\nstatus: \x7b\x7d\n") }

/-- A class that is read entry by entry, as it was written. -/
theorem classReadsBack_draft {written : VirtualNodeClass}
    (hread : (written.spec.workloadHard.entries.all fun e =>
      draftInstaller.parseQuantity e.2.string == some e.2) = true) :
    ClassReadsBack draftInstaller (fun _ => .ok written) written := by
  have hentry : ∀ key q, AList.lookup key written.spec.workloadHard = some q →
    draftInstaller.parseQuantity q.string = some q :=
    fun key q hq => beq_iff_eq.mp (List.all_eq_true.mp hread ⟨key, q⟩ (AList.mem_lookup_iff.mp hq))
  refine ⟨fun key q hq => ⟨q, hentry key q hq, Iff.rfl⟩, _, written, rfl, rfl, rfl, fun key => ?_⟩
  cases hq : AList.lookup key written.spec.workloadHard with
  | none => rfl
  | some q => exact (hentry key q hq).symm

/-- The resources that are met: those of the node, and that of the pod. -/
theorem inventoried_training {asked name : String} (hkeys : (effectivePodRequests (podAsking asked)).keys = [asked])
    (h : Inventoried gpuCell.spec.machineProfile [trainingNode] [podAsking asked] ["kc-01234567"] name) :
      name ∈ [asked, "cpu", gpu] := by
  rcases h with ⟨pod, hpod, -, hname⟩ | ⟨node, hnode, hcontributes⟩
  · rw [List.mem_singleton.mp hpod, AList.mem_keys, hkeys, List.mem_singleton] at hname
    rw [hname]
    exact List.mem_cons_self
  · rw [List.mem_singleton.mp hnode, contributes, Bool.and_eq_true, Bool.and_eq_true, AList.lookup_isSome,
      AList.mem_keys] at hcontributes
    exact List.mem_cons_of_mem _ hcontributes.2.2

end ClassDraftAux

open AcceleratorsAux OwnUsageAux

theorem class_draft_admissible_sample :
    DraftAdmissible draftInstaller (fun _ => .ok (suggestedClass (trainingCell (podAsking gpu)) "small"))
      (trainingCell (podAsking gpu))
      "small"
      "topolvm" := by
  refine (class_draft_admissible_iff draftInstaller sampleRuntime gpuCell sampleReader [trainingNode]
    (some [podAsking gpu]) ["kc-01234567"]
    _ "small" "topolvm" (classReadsBack_draft (by decide +kernel)) (by decide +kernel) (by decide +kernel)).mpr
    ⟨by decide, ⟨"cpu", .inr ⟨trainingNode, ?_, ?_⟩⟩, fun name hname => ?_⟩
  · exact List.mem_singleton_self _
  · decide +kernel
  · have hgpu : 0 < (offered gpuCell.spec.machineProfile [trainingNode] gpu).value ∧ isExtendedResourceName gpu = true ∧
        ReadsWhole draftInstaller.toCtx (offered gpuCell.spec.machineProfile [trainingNode] gpu) ∧
          cutPrefix gpu "limits." = gpu := by
      unfold ReadsWhole
      decide +kernel
    have hnames := inventoried_training (by decide +kernel) hname
    simp only [List.mem_cons, List.not_mem_nil, or_false] at hnames
    rcases hnames with rfl | rfl | rfl
    · exact ⟨hgpu.1, .inr ⟨hgpu.2.1, hgpu.2.2.1, { name := "gpu", resourceName := gpu }, List.mem_singleton_self _,
        hgpu.2.2.2.symm⟩⟩
    · exact ⟨by decide +kernel, .inl (by decide)⟩
    · exact ⟨hgpu.1, .inr ⟨hgpu.2.1, hgpu.2.2.1, { name := "gpu", resourceName := gpu }, List.mem_singleton_self _,
        hgpu.2.2.2.symm⟩⟩

/-- A pod asks for large pages, which the nodes of the profile are not asked for. -/
theorem class_draft_admissible_false :
    ¬∀ (Γ : InstallerCtx) (rt : Runtime) (cell : Cell) (reader : InventoryReader) (nodes : List Node)
      (pods : Option (List Pod))
      (clusterNames : List String) (readClass : String → Except String VirtualNodeClass)
        (className storageClassName : String),
      ClassReadsBack Γ readClass (suggestedClass
        (projectInventory Γ.toCtx rt cell reader nodes pods clusterNames).1 className) →
      isBlank className = false → isDNS1123Subdomain storageClassName = [] →
      (projectInventory Γ.toCtx rt cell reader nodes pods clusterNames).1.status.nodes.any (·.ready) = true →
      DraftAdmissible Γ readClass (projectInventory Γ.toCtx rt cell reader nodes pods clusterNames).1 className
        storageClassName := by
  intro h
  obtain ⟨text, draft, -, hread, hvalid, -⟩ := h draftInstaller sampleRuntime gpuCell sampleReader [trainingNode]
    (some [podAsking "hugepages-2Mi"]) ["kc-01234567"] _ "small" "topolvm" (classReadsBack_draft (by decide +kernel))
      (by decide +kernel) (by decide +kernel)
    (by decide +kernel)
  cases hread
  revert hvalid
  decide +kernel

end KubeCell
