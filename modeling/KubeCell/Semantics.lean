import KubeCell.Render

/-!
# What the host cluster makes of it

The meaning that Kubernetes gives to the parts of the objects that are rendered or patched: which nodes the scheduler
takes for the required node affinity of a pod, which traffic the network policies of a namespace let through, and
which values the API server takes for labels. None of this is code of the repository; it follows the documented
behaviour of the scheduler, of the network plugin and of the API server.
-/

namespace KubeCell

/-! ## Node affinity -/

/-- `strconv.ParseInt` in base ten, for 64 bits. -/
def parseInt64 (value : String) : Option Int :=
  let digits (sign : Int) (ds : List Char) : Option Int :=
    if ds = [] ∨ !ds.all Char.isDigit then none
    else
      let n := sign * (ds.foldl (fun n d => 10 * n + (d.toNat - '0'.toNat : Nat)) 0 : Nat)
      if -(2 ^ 63) ≤ n ∧ n < 2 ^ 63 then some n else none
  match value.toList with
  | '-' :: ds => digits (-1) ds
  | '+' :: ds => digits 1 ds
  | ds => digits 1 ds

/-- The requirement holds of the value of a label, if the label is there; a requirement that is not well
formed holds of nothing. -/
def NodeSelectorRequirement.holdsOf (r : NodeSelectorRequirement) (label : Option String) : Bool :=
  let compared (related : Int → Int → Bool) : Bool :=
    match r.values, label with
    | [bound], some value =>
      match parseInt64 value, parseInt64 bound with
      | some value, some bound => related value bound
      | _, _ => false
    | _, _ => false
  if r.operator = "In" then label.any r.values.contains
  else if r.operator = "NotIn" then r.values ≠ [] && !label.any r.values.contains
  else if r.operator = "Exists" then r.values = [] && label.isSome
  else if r.operator = "DoesNotExist" then r.values = [] && label.isNone
  else if r.operator = "Gt" then compared fun value bound => decide (value > bound)
  else if r.operator = "Lt" then compared fun value bound => decide (value < bound)
  else false

/-- The requirement holds of a field of a node; the only field is the name. -/
def NodeSelectorRequirement.holdsOfField (r : NodeSelectorRequirement) (node : ObjectMeta) : Bool :=
  let field := if r.key = "metadata.name" then node.name else ""
  match r.values with
  | [value] => (r.operator == "In" && field == value) || (r.operator == "NotIn" && field != value)
  | _ => false

/-- The node satisfies a term: all its requirements hold, and it has one. -/
def NodeSelectorTerm.selects (term : NodeSelectorTerm) (node : ObjectMeta) : Bool :=
  !(term.matchExpressions.isEmpty && term.matchFields.isEmpty) &&
    (term.matchExpressions.all fun r => r.holdsOf (AList.lookup r.key node.labels)) &&
    term.matchFields.all fun r => r.holdsOfField node

/-- The required part of the node affinity of a pod. -/
def Pod.requiredTerms (pod : Pod) : Option (List NodeSelectorTerm) :=
  (pod.affinity.bind (·.nodeAffinity)).bind (·.required)

/-- The node satisfies the required node affinity of a pod: one of the terms, where there are any at all. -/
def Pod.mayRunOn (pod : Pod) (node : ObjectMeta) : Bool :=
  match pod.requiredTerms with
  | none => true
  | some terms => terms.any (·.selects node)

/-! ## Network policies -/

/-- The other end of a connection: its address, and its labels when it is a pod of the same namespace. -/
structure Peer where
  labels : Option StringMap := none
  address : String := ""

/-- A connection of a pod, on a port of the end that is connected to. -/
structure Traffic where
  peer : Peer
  protocol : String
  port : Int

/-- The labels hold all that a selector asks for. -/
def selectsLabels (matchLabels : List (String × String)) (labels : StringMap) : Bool :=
  matchLabels.all fun e => AList.lookup e.1 labels == some e.2

section NetworkPolicies

-- which addresses a block of addresses contains
variable (contains : (cidr address : String) → Bool)

/-- A peer of a rule covers the other end; a pod selector without a namespace selects pods of the
namespace of the policy. -/
def NetworkPolicyPeer.covers (peer : Peer) : NetworkPolicyPeer → Bool
  | .podSelector matchLabels => peer.labels.any (selectsLabels matchLabels)
  | .ipBlock cidr => contains cidr peer.address

/-- A rule lets a connection through; a list of peers or ports that is missing or empty leaves them open. -/
def NetworkPolicyRule.permits (rule : NetworkPolicyRule) (traffic : Traffic) : Bool :=
  (rule.peers.getD [] = [] || (rule.peers.getD []).any (·.covers contains traffic.peer)) &&
    (rule.ports.getD [] = [] || (rule.ports.getD []).any fun p =>
      p.protocol == traffic.protocol && p.port == traffic.port)

/-- A rule of some of the policies that select the labels lets a connection through; without any such policy
nothing is held back. -/
def someRulePermits (rules : NetworkPolicySpec → List NetworkPolicyRule) (policies : List NetworkPolicySpec)
    (labels : StringMap) (traffic : Traffic) : Bool :=
  let selecting := policies.filter fun policy => selectsLabels policy.podSelector labels
  selecting.isEmpty || selecting.any fun policy => (rules policy).any (·.permits contains traffic)

/-- A pod with the labels may be connected to. All policies are about ingress, as `policyTypes` is defaulted. -/
def ingressAllowed (policies : List NetworkPolicySpec) (labels : StringMap) (traffic : Traffic) : Bool :=
  someRulePermits contains (·.ingress.getD []) policies labels traffic

/-- A pod with the labels may connect. The policies with an egress section are about egress, as
`policyTypes` is defaulted. -/
def egressAllowed (policies : List NetworkPolicySpec) (labels : StringMap) (traffic : Traffic) : Bool :=
  someRulePermits contains (·.egress.getD []) (policies.filter fun policy => policy.egress.getD [] ≠ []) labels traffic

end NetworkPolicies

/-- The network policies of a namespace among objects. -/
def networkPolicies (objects : List Manifest) (ns : String) : List NetworkPolicySpec :=
  objects.filterMap fun
    | .networkPolicy metadata spec => if metadata.ns = ns then some spec else none
    | _ => none

/-! ## Labels -/

/-- A name that a service may have: a DNS label that starts with a letter. -/
def isDNS1035Label (name : List Char) : Bool :=
  decide (name.length ≤ 63) && name.all (fun c => isLowerAlnum c || c == '-') &&
    name.head?.any (fun c => 'a' ≤ c && c ≤ 'z') &&
    name.getLast?.any isLowerAlnum

/-- A value that the API server takes for a label. -/
def isLabelValue (value : String) : Bool :=
  value.length ≤ 63 &&
    (value == "" || (value.toList.all
      (fun c => isAlnum c || c == '-' || c == '_' || c == '.') && value.toList.head?.any isAlnum &&
      value.toList.getLast?.any isAlnum))

/-- A digit of a UUID. -/
def isHexDigit (c : Char) : Bool := ('0' ≤ c && c ≤ '9') || ('a' ≤ c && c ≤ 'f')

/-- A UUID, as the API server gives one to every object. -/
def isUUID (uid : String) : Bool :=
  let parts := splitAtChar '-' uid.toList
  parts.map List.length == [8, 4, 4, 4, 12] && parts.all (·.all isHexDigit)

/-- The metadata of a rendered object. -/
def Manifest.metadata : Manifest → ObjectMeta
  | .namespaceObject metadata => metadata
  | .resourceQuota metadata _ => metadata
  | .limitRange metadata _ _ _ => metadata
  | .networkPolicy metadata _ => metadata
  | .role metadata _ _ _ => metadata
  | .roleBinding metadata _ _ _ => metadata
  | .k3kCluster metadata _ => metadata
  | .virtualClusterPolicy metadata _ _ _ => metadata
  | .service metadata _ _ _ => metadata
  | .endpoints metadata _ => metadata
  | .ingress metadata _ _ => metadata

end KubeCell
