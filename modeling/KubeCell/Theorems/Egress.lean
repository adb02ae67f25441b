import KubeCell.Host
import KubeCell.Lib.Ip
import KubeCell.Semantics

/-!
# Where agents reach the API server of the host

The agents of a K3k cluster may connect to port 6443 of the addresses of the host. Each is rendered as a block of 32
bits, which is one address of IPv4, and 2^96 addresses of IPv6; and no address at all is rendered as no restriction.
-/

namespace KubeCell

/-- The internal addresses of a node are addresses. -/
def Node.HasIPs (node : Node) : Prop :=
  ∀ address ∈ node.addresses, address.type = "InternalIP" → address.address ≠ "" →
    (parseIP address.address.toList).isSome

/-- The address of a ready node that is taken for it. -/
def readyAddress (node : Node) : Option String := if saysReady node then internalIP node else none

/-- The rule for the API port of the host among the rules of the policy for agents. -/
def agentAPIRule (objects : List Manifest) : Option NetworkPolicyRule :=
  objects.findSome? fun
    | .networkPolicy metadata spec =>
      if metadata.name = "kubecell-shared-agent-egress" then
        (spec.egress.getD []).find? fun rule => rule.ports = some [⟨"TCP", 6443⟩]
      else none
    | _ => none

/-- A rule lets connections to port 6443 of an address through. -/
def NetworkPolicyRule.opensAPI (rule : NetworkPolicyRule) (ip : IPAddr) : Bool :=
  rule.permits (fun cidr _ => (parseCIDR cidr.toList).any (·.contains ip))
    { peer := {}, protocol := "TCP", port := 6443 }

/-- The rule opens the API port of the addresses of ready nodes and of no others, by blocks that are valid. -/
structure OpensExactly (rule : NetworkPolicyRule) (nodes : List Node) : Prop where
  opens : ∀ ip, rule.opensAPI ip = true ↔ ∃ node ∈ nodes, ∃ address, readyAddress node = some address ∧
    parseIP address.toList = some ip
  valid : ∀ cidr, .ipBlock cidr ∈ rule.peers.getD [] → (parseCIDR cidr.toList).isSome

namespace EgressAux

open IpAux

variable {nodes : List Node}

/-- The addresses are those of the nodes that are ready. -/
theorem mem_discoverHostAPIAddresses {address : String} :
    address ∈ discoverHostAPIAddresses nodes ↔ ∃ node ∈ nodes, readyAddress node = some address := by
  simp only [discoverHostAPIAddresses, List.mem_map, List.mem_insertionSort, List.mem_filterMap, List.mem_filter,
    Option.map_eq_some_iff]
  constructor
  · rintro ⟨_, ⟨node, ⟨hnode, hready⟩, _, haddress, rfl⟩, rfl⟩
    exact ⟨node, hnode, by rw [readyAddress, if_pos hready, haddress]⟩
  · rintro ⟨node, hnode, haddress⟩
    rw [readyAddress] at haddress
    split_ifs at haddress with hready
    exact ⟨_, ⟨node, ⟨hnode, hready⟩, _, haddress, rfl⟩, rfl⟩

/-- What is taken for a node's address is one of its addresses. -/
theorem parse_readyAddress {node : Node} {address : String} (hips : node.HasIPs)
    (h : readyAddress node = some address) :
    ∃ ip, parseIP address.toList = some ip := by
  rw [readyAddress] at h
  split_ifs at h
  obtain ⟨entry, hentry, rfl⟩ := Option.map_eq_some_iff.mp h
  have hinternal := List.find?_some hentry
  simp only [Bool.and_eq_true, beq_iff_eq, bne_iff_ne, ne_eq] at hinternal
  exact Option.isSome_iff_exists.mp (hips entry (List.mem_of_find?_eq_some hentry) hinternal.1 hinternal.2)

/-- The rule of the rendered policy. -/
theorem agentAPIRule_render (cluster : VirtualCluster) (resolved : ResolvedSnapshot) (names : Names) :
    agentAPIRule (renderFoundation cluster resolved names) = some (tcpRule (ipPeers names.hostAPIAddresses) 6443) := by
  simp [agentAPIRule, renderFoundation, objectMeta, tcpRule]

/-- The block that is rendered for an address. -/
def hostBlock (ip : IPAddr) : IPBlock := ⟨ip, 32, by cases ip.family <;> decide⟩

/-- An address makes a block of its own. -/
theorem parseCIDR_hostBlock {address : String} {ip : IPAddr} (h : parseIP address.toList = some ip) :
    parseCIDR (address ++ "/32").toList = some (hostBlock ip) := by
  have hbits : parseNumber 10 3 ['3', '2'] = some 32 := by decide
  rw [String.toList_append]
  exact parseCIDR_append h hbits (by decide) (hostBlock ip).le

/-- An address is not blank. -/
theorem ipPeers_eq {addresses : List String} (h : ∀ address ∈ addresses, ∃ ip, parseIP address.toList = some ip) :
    ipPeers addresses = addresses.map fun address => .ipBlock (address ++ "/32") := by
  rw [ipPeers, List.filter_eq_self.mpr]
  intro address haddress
  obtain ⟨ip, hip⟩ := h address haddress
  simpa using trimSpace_of_parseIP hip

/-- The rule opens the blocks of the addresses, and everything where there are none. -/
theorem opensAPI_iff {addresses : List String} (h : ∀ address ∈ addresses, ∃ ip, parseIP address.toList = some ip)
    (ip : IPAddr) :
    (tcpRule (ipPeers addresses) 6443).opensAPI ip = true ↔
      addresses = [] ∨ ∃ address ∈ addresses, ∃ own, parseIP address.toList = some own ∧
        (hostBlock own).contains ip = true := by
  have hports : (tcpRule (ipPeers addresses) 6443).ports.getD [] = [⟨"TCP", 6443⟩] := rfl
  have hpeers : (tcpRule (ipPeers addresses) 6443).peers.getD [] = addresses.map fun address => .ipBlock
    (address ++ "/32") := ipPeers_eq h
  simp only [NetworkPolicyRule.opensAPI, NetworkPolicyRule.permits, hports, hpeers, List.any_map,
    Bool.and_eq_true, Bool.or_eq_true,
    decide_eq_true_eq, List.map_eq_nil_iff, List.any_eq_true, Function.comp_apply, NetworkPolicyPeer.covers]
  refine (and_iff_left (.inr ⟨_, List.mem_singleton_self _, by decide⟩)).trans
    (or_congr_right (exists_congr fun address => ?_))
  refine and_congr_right fun haddress => ?_
  obtain ⟨own, hown⟩ := h address haddress
  rw [parseCIDR_hostBlock hown, Option.any_some, hown]
  simp

/-- Where the whole block of an IPv6 address is node addresses, there are more nodes than a slice holds. -/
theorem length_of_v6 {own : IPAddr} (hfamily : own.family = .v6)
    (h : ∀ ip, (hostBlock own).contains ip = true →
      ∃ node ∈ nodes, ∃ address, readyAddress node = some address ∧ parseIP address.toList = some ip) :
    2 ^ 96 ≤ nodes.length := by
  have hmem : ∀ ip, (hostBlock own).contains ip = true →
      ip ∈ nodes.filterMap fun node => (readyAddress node).bind fun address => parseIP address.toList := by
    intro ip hip
    obtain ⟨node, hnode, address, haddress, hparse⟩ := h ip hip
    exact List.mem_filterMap.mpr ⟨node, hnode, by rw [haddress, Option.bind_some, hparse]⟩
  have hbits : (hostBlock own).address.family.bits - (hostBlock own).length = 96 := by rw [hostBlock, hfamily]; rfl
  have hlength := pow_le_length hmem
  rw [hbits] at hlength
  exact hlength.trans (List.length_filterMap_le _ _)

end EgressAux

open EgressAux IpAux

/-- The API port is open to exactly the addresses of the ready nodes when there are some and they
are addresses of IPv4. -/
theorem opens_exactly_iff (cluster : VirtualCluster) (resolved : ResolvedSnapshot) (nodes : List Node)
    (hslice : nodes.length < 2 ^ 63) (hips : ∀ node ∈ nodes, node.HasIPs) :
    ∃ rule, agentAPIRule (renderFoundation cluster resolved
      (cluster.renderNames (discoverHostAPIAddresses nodes))) = some rule ∧
      (OpensExactly rule nodes ↔ (∃ node ∈ nodes, ∃ address, readyAddress node = some address) ∧
        ∀ node ∈ nodes, ∀ address, readyAddress node = some address →
          (parseIP address.toList).map (·.family) = some .v4) := by
  refine ⟨_, agentAPIRule_render cluster resolved _, ?_⟩
  have haddresses : ∀ address ∈ discoverHostAPIAddresses nodes, ∃ ip, parseIP address.toList = some ip := by
    intro address haddress
    obtain ⟨node, hnode, hready⟩ := mem_discoverHostAPIAddresses.mp haddress
    exact parse_readyAddress (hips node hnode) hready
  have hopens := opensAPI_iff haddresses
  change OpensExactly (tcpRule (ipPeers (discoverHostAPIAddresses nodes)) 6443) nodes ↔ _
  constructor
  · intro h
    constructor
    · by_contra hnone
      -- Without an address everything is open.
      have hempty : discoverHostAPIAddresses nodes = [] := List.eq_nil_iff_forall_not_mem.mpr fun address haddress => by
        obtain ⟨node, hnode, hready⟩ := mem_discoverHostAPIAddresses.mp haddress
        exact hnone ⟨node, hnode, address, hready⟩
      obtain ⟨node, hnode, address, hready, -⟩ := (h.opens ⟨.v4, 0, by decide⟩).mp ((hopens _).mpr (.inl hempty))
      exact hnone ⟨node, hnode, address, hready⟩
    · intro node hnode address haddress
      obtain ⟨own, hown⟩ := parse_readyAddress (hips node hnode) haddress
      rw [hown, Option.map_some, Option.some.injEq]
      cases hfamily : own.family with
      | v4 => rfl
      | v6 =>
        have hlength := length_of_v6 hfamily fun ip hip => (h.opens ip).mp ((hopens ip).mpr
          (.inr ⟨address, mem_discoverHostAPIAddresses.mpr ⟨node, hnode, haddress⟩, own, hown, hip⟩))
        omega
  · rintro ⟨⟨first, hfirst, address, haddress⟩, hv4⟩
    constructor
    · intro ip
      rw [hopens ip, or_iff_right (List.ne_nil_of_mem (mem_discoverHostAPIAddresses.mpr ⟨first, hfirst, haddress⟩))]
      constructor
      · rintro ⟨address, hmem, own, hown, hcontains⟩
        obtain ⟨node, hnode, hready⟩ := mem_discoverHostAPIAddresses.mp hmem
        have hfamily := hv4 node hnode address hready
        rw [hown, Option.map_some, Option.some.injEq] at hfamily
        have hsame := (contains_iff_eq (hostBlock own) (by rw [hostBlock, hfamily]; rfl) ip).mp hcontains
        exact ⟨node, hnode, address, hready, by rw [hown, hsame]; rfl⟩
      · rintro ⟨node, hnode, address, hready, hip⟩
        have hfamily := hv4 node hnode address hready
        rw [hip, Option.map_some, Option.some.injEq] at hfamily
        refine ⟨address, mem_discoverHostAPIAddresses.mpr ⟨node, hnode, hready⟩, ip, hip, ?_⟩
        exact (contains_iff_eq (hostBlock ip) (by rw [hostBlock, hfamily]; rfl) ip).mpr rfl
    · intro cidr hcidr
      obtain ⟨address, hmem, hcidr⟩ := List.mem_map.mp (ipPeers_eq haddresses ▸ hcidr)
      obtain ⟨ip, hip⟩ := haddresses address hmem
      cases hcidr
      rw [parseCIDR_hostBlock hip]
      rfl

namespace EgressAux

/-- A VirtualCluster, and a ready node with an internal address. -/
def egressCluster : VirtualCluster :=
  { metadata := { name := "team", ns := managementNamespace, uid := "01234567-aaaa" }
    spec := { cellRef := { name := "cell-a", ns := managementNamespace }, classRef := { name := "small" } } }
@[inherit_doc egressCluster] def nodeAt (address : String) : Node :=
  { metadata := { name := "node-a" }
    conditions := [{ type := "Ready", status := .true }]
    addresses := [⟨"InternalIP", address⟩] }

theorem hasIPs_nodeAt {address : String} (h : (parseIP address.toList).isSome = true) :
    ∀ node ∈ [nodeAt address], node.HasIPs := by
  intro node hnode entry hentry _ _
  rw [List.mem_singleton.mp hnode] at hentry
  rw [List.mem_singleton.mp hentry]
  exact h

end EgressAux

theorem opens_exactly_sample :
    ∃ rule, agentAPIRule (renderFoundation egressCluster {}
      (egressCluster.renderNames (discoverHostAPIAddresses [nodeAt "10.0.0.1"]))) =
      some rule ∧ OpensExactly rule [nodeAt "10.0.0.1"] := by
  obtain ⟨rule, hrule, hiff⟩ := opens_exactly_iff egressCluster {} [nodeAt "10.0.0.1"] (by decide)
    (hasIPs_nodeAt (by decide +kernel))
  refine ⟨rule, hrule, hiff.mpr ⟨⟨_, List.mem_singleton_self _, "10.0.0.1", by decide +kernel⟩,
    fun node hnode address haddress => ?_⟩⟩
  rw [List.mem_singleton.mp hnode] at haddress
  cases haddress
  decide +kernel

/-- A node with an address of IPv6: the port is open to its neighbours too. -/
theorem opens_exactly_false :
    ¬∀ (cluster : VirtualCluster) (resolved : ResolvedSnapshot) (nodes : List Node), nodes.length < 2 ^ 63 →
      (∀ node ∈ nodes, node.HasIPs) →
      ∃ rule, agentAPIRule (renderFoundation cluster resolved
        (cluster.renderNames (discoverHostAPIAddresses nodes))) = some rule ∧
        OpensExactly rule nodes := by
  intro h
  obtain ⟨rule, hrule, hexactly⟩ := h egressCluster {} [nodeAt "fd00::1"] (by decide)
    (hasIPs_nodeAt (by decide +kernel))
  obtain rfl := Option.some.inj ((agentAPIRule_render egressCluster {} _).symm.trans hrule)
  -- fd00::2
  obtain ⟨node, hnode, address, haddress, hip⟩ :=
    (hexactly.opens ⟨.v6, 0xfd000000000000000000000000000002, by decide⟩).mp (by decide +kernel)
  rw [List.mem_singleton.mp hnode] at haddress
  cases haddress
  revert hip
  decide +kernel

end KubeCell
