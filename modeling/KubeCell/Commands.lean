import KubeCell.Bundle

/-!
# What the installer would run

The commands the installer builds for a target from a release bundle, the checks of its doctor, and the drafts it
renders. Building a command runs nothing.
-/

namespace KubeCell

/-- `Command`. -/
structure Command where
  program : String
  args : List String
  deriving DecidableEq, Repr

/-- `InstallTarget`. -/
inductive InstallTarget where
  | management | host
  deriving DecidableEq, Repr

/-- `LifecycleOperation`. -/
inductive LifecycleOperation where
  | upgrade | rollback | uninstall
  deriving DecidableEq, Repr

/-- The operation, as it is printed. -/
def LifecycleOperation.text : LifecycleOperation → String
  | .upgrade => "upgrade"
  | .rollback => "rollback"
  | .uninstall => "uninstall"

/-- The target, as it is printed. -/
def InstallTarget.text : InstallTarget → String
  | .management => "management"
  | .host => "host"

/-- `ParseTarget`. -/
def parseTarget (value : String) : Except String InstallTarget :=
  if lowerText value = "management" then .ok .management
  else if lowerText value = "host" then .ok .host
  else .error s!"unsupported install target {goSyntax value}"

/-- `ParseLifecycleOperation`. -/
def parseLifecycleOperation (value : String) : Except String LifecycleOperation :=
  if lowerText value = "upgrade" then .ok .upgrade
  else if lowerText value = "rollback" then .ok .rollback
  else if lowerText value = "uninstall" then .ok .uninstall
  else .error s!"unsupported lifecycle operation {goSyntax value}"

/-- `InstallPlan`. -/
def installPlan : InstallTarget → List String
  | .management => ["preflight", "ocm-hub", "ocm-addons", "kubecell-management", "readiness"]
  | .host => ["preflight", "ocm-join", "managedcluster-approval", "kubecell-host", "readiness"]

/-! ## Installing -/

/-- `imageSetArgs`; none for an image that is not pinned by a digest. -/
def imageSetArgs (image : String) : Option (List String) :=
  match splitText image "@sha256:" with
  | [repository, digest] => some ["--set", "image.repository=" ++ repository, "--set", "image.digest=sha256:" ++ digest]
  | _ => none

/-- The release is installed, or upgraded, with its image. -/
def helmUpgrade (release chart : String) (imageArgs : List String) : Command :=
  { program := "helm", args := ["upgrade", "--install", release, chart, "--namespace", "kubecell-system", "--create-namespace"] ++ imageArgs }

/-- `ManagementInstallCommands`. -/
def managementInstallCommands (ocmBundle managementChart kubecellCRDs image : String) : List Command :=
  match imageSetArgs image with
  | none => []
  | some imageArgs =>
    [ { program := "kubectl", args := ["apply", "--server-side", "--filename", kubecellCRDs] },
      { program := "kubectl", args := ["wait", "--for=condition=Established", "--timeout=5m", "--filename", kubecellCRDs] },
      { program := "kubectl", args := ["apply", "--server-side", "--filename", ocmBundle] },
      { program := "kubectl", args := ["wait", "--for=condition=Available", "--timeout=10m", "-n", "open-cluster-management",
          "deployment/cluster-manager"] },
      helmUpgrade "kubecell-management" managementChart imageArgs ]

/-- The words of the command to join with, with the path of the bundle in them. -/
def joinWords (bundle : ReleaseBundle) : List String :=
  bundle.compatibility.ocmJoinCommand.map fun value =>
    replaceAll value "\x7b\x7bOCMJoinBundlePath\x7d\x7d" bundle.ocmJoinBundlePath

/-- `HostInstallCommands`. -/
def hostInstallCommands (bundle : ReleaseBundle) : List Command :=
  match imageSetArgs bundle.controllerImage, joinWords bundle with
  | some imageArgs, program :: args => [ { program, args }, helmUpgrade "kubecell-host" bundle.hostChart imageArgs ]
  | _, _ => []

/-- `LifecycleCommands`. -/
def lifecycleCommands (operation : LifecycleOperation) (target : InstallTarget) (bundle : ReleaseBundle)
    (revision : Int) : List Command :=
  let release := if target = .host then "kubecell-host" else "kubecell-management"
  let chart := if target = .host then bundle.hostChart else bundle.managementChart
  match operation with
  | .upgrade =>
    match imageSetArgs bundle.controllerImage with
    | none => []
    | some imageArgs =>
      [ { program := "kubectl", args := ["apply", "--server-side", "--filename", bundle.kubecellCRDPath] },
        helmUpgrade release chart imageArgs ]
  | .rollback =>
    [ { program := "helm", args := ["rollback", release, toString revision, "--namespace", "kubecell-system", "--wait", "--timeout", "10m"] } ]
  | .uninstall =>
    [ { program := "helm", args := ["uninstall", release, "--namespace", "kubecell-system", "--wait", "--timeout", "10m"] } ]

/-! ## The doctor -/

/-- `DoctorCheck`. -/
structure DoctorCheck where
  id : String
  command : Command
  deriving DecidableEq, Repr

/-- A check that is one call of `kubectl`. -/
def kubectlCheck (id : String) (args : List String) : DoctorCheck := { id, command := { program := "kubectl", args } }

/-- `shCheck`. -/
def shCheck (id script : String) : DoctorCheck := { id, command := { program := "sh", args := ["-c", script] } }

/-- The number a label spells, in the arithmetic of 64-bit integers; none when the label holds anything but digits. -/
def octetValue (octet : List Char) : Option (BitVec 64) :=
  octet.foldlM
    (fun value r => if r < '0' ∨ '9' < r then none else some (value * 10 + BitVec.ofNat 64 (r.toNat - '0'.toNat))) 0

/-- A label is the number of an address. -/
def isOctet (octet : List Char) : Bool :=
  match octetValue octet with
  | none => false
  | some value => !((255#64).slt value || (octet.length > 1 && octet.head? == some '0'))

/-- `hostedEntryIP`. -/
def hostedEntryIP (suffix : String) : String :=
  let parts := splitAtChar '.' suffix.toList
  if parts.length < 5 then ""
  else if (parts.take 4).all isOctet then String.ofList (['.'].intercalate (parts.take 4))
  else ""

/-- `hostDNSCheck`. -/
def hostDNSCheck (appsSuffix : String) : DoctorCheck :=
  let probe := "probe." ++ appsSuffix
  let ip := hostedEntryIP appsSuffix
  if ip ≠ "" then shCheck "H8" ("nslookup " ++ probe ++ " | grep -q \"Address: " ++ ip ++ "\"")
  else { id := "H8", command := { program := "nslookup", args := [probe] } }

/-- `BundleCheckReport`. -/
def bundleCheckReport (bundle : ReleaseBundle) : List String :=
  [ s!"B1 manifest parse: PASS (appsSuffix={bundle.compatibility.appsSuffix})",
    s!"B2 artifact digests: PASS ({bundle.compatibility.artifactDigests.entries.length} artifacts verified)",
    s!"B3 locked versions: PASS (k3k={bundle.compatibility.k3kVersion} child={bundle.compatibility.childK3sVersion} " ++
      "image-digest-pinned)" ]

/-- The nodes offer the device. -/
def deviceCheck (device : String) : DoctorCheck :=
  shCheck "H3" ("values=\"$(kubectl get nodes -o jsonpath=\"\x7b.items[*].status.allocatable['" ++ device ++
    "']\x7d\")\"; test -n \"$values\" && for v in $values; do [ \"$v\" -gt 0 ] || exit 1; done")

/-- The checks of a management cluster, after the first two. -/
def managementChecks : List DoctorCheck :=
  [ kubectlCheck "M3" ["get", "crd", "managedclusters.cluster.open-cluster-management.io"],
    kubectlCheck "M3" ["get", "crd", "manifestworks.work.open-cluster-management.io"],
    kubectlCheck "M4" ["auth", "can-i", "create", "manifestworks.work.open-cluster-management.io", "--all-namespaces"],
    kubectlCheck "M5" ["-n", "open-cluster-management", "wait", "--for=condition=Available", "--timeout=60s",
      "deployment/cluster-manager"] ]

/-- The checks of a host cluster, after the first two and without its devices. -/
def hostChecks (appsSuffix : String) : List DoctorCheck :=
  [ kubectlCheck "H2" ["get", "crd", "clusters.k3k.io"],
    kubectlCheck "H2" ["-n", "k3k-system", "wait", "--for=condition=Available", "--timeout=60s", "deployment", "--all"],
    kubectlCheck "H3" ["wait", "--for=condition=Ready", "--timeout=60s", "nodes", "--all"],
    shCheck "H3" ("test -n \"$(kubectl get nodes -o jsonpath=\"\x7b.items[*].metadata.labels['hardware.kubecell.io/profile']\x7d\")\" && " ++
      "test \"$(kubectl get nodes -o jsonpath=\"\x7b.items[*].metadata.labels['hardware.kubecell.io/profile']\x7d\" | " ++
      "tr ' ' '\\n' | sort -u | wc -l | tr -d ' ')\" = 1"),
    shCheck "H4" ("test -n \"$(kubectl get sc -o jsonpath=\"\x7b.items[?(@.provisioner=='topolvm.io' && " ++
      "@.volumeBindingMode=='WaitForFirstConsumer')].metadata.name\x7d\")\""),
    shCheck "H4" "test -z \"$(kubectl get sc -o jsonpath=\"\x7b.items[?(@.provisioner=='rancher.io/local-path')].metadata.name\x7d\")\"",
    shCheck "H4" ("found=\"\"; for nn in $(kubectl get deployment -A -o jsonpath='\x7brange .items[*]\x7d\x7b.metadata.namespace\x7d/" ++
      "\x7b.metadata.name\x7d\x7b\"\\n\"\x7d\x7bend\x7d' | grep 'topolvm-controller$'); do found=\"$nn\"; kubectl -n \"$\x7bnn%%/*\x7d\" " ++
      "wait --for=condition=Available --timeout=60s \"deployment/$\x7bnn##*/\x7d\" || exit 1; done; test -n \"$found\""),
    shCheck "H4" "kubectl get nodes -o jsonpath=\"\x7b.items[*].metadata.annotations\x7d\" | grep -q \"capacity.topolvm.io\"",
    shCheck "H5" "test \"$(kubectl get ds -A -o jsonpath=\"\x7b.items[?(@.metadata.name=='traefik')].status.numberAvailable\x7d\")\" -gt 0",
    shCheck "H5" ("kubectl get pods -A -o jsonpath=\"\x7b.items[*].spec.containers[*].ports[*].hostPort\x7d\" | tr ' ' '\\n' | " ++
      "grep -q \"^80$\""),
    shCheck "H5" ("kubectl get pods -A -o jsonpath=\"\x7b.items[*].spec.containers[*].ports[*].hostPort\x7d\" | tr ' ' '\\n' | " ++
      "grep -v \"^$\" | grep -v \"^80$\" | grep -v \"^443$\" | grep -q . && exit 1 || exit 0"),
    kubectlCheck "H6" ["get", "mutatingwebhookconfigurations", "kubecell-host-mutating-webhook"],
    shCheck "H6" ("test \"$(kubectl get deployment -A -o jsonpath=\"\x7b.items[?(@.metadata.name=='kubecell-host-webhook')]" ++
      ".status.conditions[?(@.type=='Available')].status\x7d\")\" = True"),
    shCheck "H7" ("kubectl get --raw /version | tr -d ' \"' | grep -q \"gitVersion:" ++
      Platform.hostK3sVersion ++ "\""),
    shCheck "H7" ("kubectl -n k3k-system get deployment -o jsonpath=\"\x7b.items[*].spec.template.spec.containers[*].image\x7d\" | " ++
      "grep -q \"" ++ Platform.k3kVersion ++ "\""),
    hostDNSCheck appsSuffix ]

/-- `DoctorCommandsWithDevices`. -/
def doctorCommandsWithDevices (target : InstallTarget) (bundle : ReleaseBundle)
    (devices : List String) : List DoctorCheck :=
  let chart := if target = .host then bundle.hostChart else bundle.managementChart
  let render : Command := { program := "helm", args := ["template", "kubecell-preflight", chart, "--namespace", "kubecell-system"] }
  match target with
  | .management =>
    kubectlCheck "M1" ["version", "--request-timeout=10s"] :: { id := "M2", command := render } :: managementChecks
  | .host =>
    kubectlCheck "H1" ["version", "--request-timeout=10s"] :: { id := "H1", command := render } ::
      hostChecks bundle.compatibility.appsSuffix ++ (devices.filter fun device => !isBlank device).map deviceCheck

/-! ## Drafts -/

/-- `CellDraft`. -/
structure CellDraft where
  name : String
  profileName : String
  devices : List DeviceContract

/-- `RenderCellYAML`. -/
def renderCellYAML (Γ : InstallerCtx) (draft : CellDraft) : Except String String := do
  if isBlank draft.name then throw "cell name is required and must equal the approved ManagedCluster name"
  if isBlank draft.profileName then throw "machine profile name is required"
  if draft.devices.any fun device => isBlank device.name || isBlank device.resourceName then
    throw "device contract requires name and resourceName"
  (Γ.marshalCell
    { metadata := { name := draft.name },
      spec := { managedClusterRef := { name := draft.name }, machineProfile := { name := draft.profileName, devices := draft.devices } } }
    ).mapError fun e => s!"marshal Cell: {e}"

/-- `SuggestClassYAML`. -/
def suggestClassYAML (Γ : InstallerCtx) (cell : Cell) (className : String) : Except String String := do
  if isBlank className then throw "class name is required"
  if cell.status.inventory.entries.length = 0 then
    throw s!"cell {goSyntax cell.metadata.name} has no observed inventory"
  let hard := cell.status.inventory.entries.foldl (fun (hard : ResourceList) e =>
    (hard.insert ("requests." ++ e.1) e.2.allocatable).insert ("limits." ++ e.1) e.2.allocatable) ∅
  (Γ.marshalClass { metadata := { name := className }, spec := { workloadHard := hard, storageClassName := "" } }).mapError fun e =>
    s!"marshal VirtualNodeClass: {e}"

/-- The profile a node is labelled with. -/
def nodeProfile (node : Node) : String :=
  String.ofList (trimSpace (node.metadata.labels.get Platform.profileLabelKey).toList)

/-- The device keys a node offers. -/
def nodeDevices (node : Node) : List String :=
  (node.allocatable.entries.filter fun e => e.1.toList.contains '/' && 0 < e.2.value).map Sigma.fst

/-- The contract for a device key. -/
def discoveredDevice (key : String) : DeviceContract :=
  match splitAtChar '/' key.toList with
  | [_, name] => { name := String.ofList name, resourceName := key }
  | _ => { name := key, resourceName := key }

/-- The strings without repetitions, in the order of `sort.Strings`. -/
def sortedSet (values : List String) : List String := values.dedup.insertionSort (· ≤ ·)

/-- `DiscoverCellDraft`. -/
def discoverCellDraft (Γ : InstallerCtx) (nodesJSON : List UInt8) : Except String (String × List DeviceContract) := do
  let nodes ← (Γ.unmarshalNodes nodesJSON).mapError fun e => s!"parse nodes: {e}"
  if nodes.isEmpty then throw "no nodes observed"
  match nodes.find? fun node => nodeProfile node = "" with
  | some node => throw s!"node {goSyntax node.metadata.name} misses profile label {goSyntax Platform.profileLabelKey}"
  | none =>
    match sortedSet (nodes.map nodeProfile) with
    | [profile] => return (profile, (sortedSet (nodes.flatMap nodeDevices)).map discoveredDevice)
    | names => throw (s!"nodes carry {names.length} profile values " ++ goSyntax (",".intercalate names) ++
        ", want exactly one (single-profile constraint)")

/-! ## Commands of a bundle that is loaded -/

/-- An image that passes is one the charts can be set to. -/
theorem imageSetArgs_of_validateImmutableImage {image : String} (h : validateImmutableImage image = .ok ()) :
    ∃ imageArgs, imageSetArgs image = some imageArgs := by
  unfold validateImmutableImage at h
  split at h
  · rename_i repository digest hsplit
    exact ⟨_, by rw [imageSetArgs, hsplit]⟩
  · exact nomatch h

/-- The host commands of a bundle that is loaded: one to join with, and one for the chart. -/
theorem hostInstallCommands_of_loaded {Γ : InstallerCtx} {fs : FileSystem} {root : String} {bundle : ReleaseBundle}
    (h : loadReleaseBundle Γ fs root = .ok bundle) :
    ∃ join chart, hostInstallCommands bundle = [join, chart] := by
  obtain ⟨hcompat, himage⟩ := loadReleaseBundle_ok h
  obtain ⟨imageArgs, hargs⟩ := imageSetArgs_of_validateImmutableImage himage
  have hjoin := ocmJoinCommand_of_validateCompatibility hcompat
  cases hwords : joinWords bundle with
  | nil => exact absurd (List.map_eq_nil_iff.mp hwords) hjoin
  | cons program args => exact ⟨_, _, by rw [hostInstallCommands, hargs, hwords]⟩

end KubeCell
