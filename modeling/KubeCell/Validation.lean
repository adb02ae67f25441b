import KubeCell.Helpers
import KubeCell.Lib.Text

/-!
# Validation

`api/v1alpha1/validation.go` and `webhooks.go`, the validators of `internal/admission/kubecell_webhooks.go` that call
them, and the check of the suffix of all hostnames, which the controller makes when it starts (`internal/installer`).
A validator answers with the errors it finds, and `validationError` joins them. The loop over a quota runs in the
order of its entries. An error is its text.
-/

namespace KubeCell

/-! ## Names of the Kubernetes API -/

/-- A character that a label of a DNS name starts and ends with. -/
def isLowerAlnum (c : Char) : Bool := ('a' ≤ c && c ≤ 'z') || ('0' ≤ c && c ≤ '9')

/-- A label of a DNS name. -/
def isDNSLabel (label : List Char) : Bool :=
  label.all (fun c => isLowerAlnum c || c == '-') && label.head?.any isLowerAlnum && label.getLast?.any isLowerAlnum

/-- `validation.IsDNS1123Subdomain`: the errors of a name. -/
def isDNS1123Subdomain (value : String) : List String :=
  (if value.length > 253 then ["must be no more than 253 characters"] else []) ++
  (if (splitAtChar '.' value.toList).all isDNSLabel then []
    else ["a lowercase RFC 1123 subdomain must consist of lower case alphanumeric characters, '-' or '.', " ++
      "and must start and end with an alphanumeric character"])

/-- A character that the name part of a qualified name starts and ends with. -/
def isAlnum (c : Char) : Bool := isLowerAlnum c || ('A' ≤ c && c ≤ 'Z')

/-- The errors of the name part of a qualified name. -/
def qualifiedNamePart (name : List Char) : List String :=
  (if name = [] then ["name part must be non-empty"]
    else if name.length > 63 then ["name part must be no more than 63 characters"] else []) ++
  (if name.all (fun c => isAlnum c || c == '-' || c == '_' || c == '.') && name.head?.any isAlnum &&
      name.getLast?.any isAlnum then []
    else ["name part must consist of alphanumeric characters, '-', '_' or '.', " ++
      "and must start and end with an alphanumeric character"])

/-- `validation.IsQualifiedName`: the errors of a name with an optional prefix. -/
def isQualifiedName (value : String) : List String :=
  match splitAtChar '/' value.toList with
  | [name] => qualifiedNamePart name
  | [pre, name] =>
    (if pre = [] then ["prefix part must be non-empty"]
      else (isDNS1123Subdomain (String.ofList pre)).map ("prefix part " ++ ·)) ++ qualifiedNamePart name
  | _ =>
    ["a qualified name must consist of alphanumeric characters, '-', '_' or '.', with an optional DNS subdomain prefix and '/'"]

/-! ## Specifications -/

/-- `isExtendedResourceName`. -/
def isExtendedResourceName (value : String) : Bool :=
  match splitAtChar '/' value.toList with
  | [domain, name] =>
    domain ≠ [] && name ≠ [] && (isDNS1123Subdomain (String.ofList domain)).isEmpty && (isQualifiedName value).isEmpty
  | _ => false

/-- `validateDeviceContract`. -/
def validateDeviceContract (device : DeviceContract) : List String :=
  (if device.name = "" ∨ device.resourceName = "" then ["device name and resourceName are required"] else []) ++
  (if device.resourceName ≠ "" ∧ !isExtendedResourceName device.resourceName then
    [s!"device {goSyntax device.name} resourceName {goSyntax device.resourceName} must be a qualified extended resource"] else [])

/-- `ValidateCellSpec`. -/
def validateCellSpec (spec : CellSpec) : List String :=
  (if spec.managedClusterRef.name = "" then ["managedClusterRef.name is required"] else []) ++
  (if spec.machineProfile.name = "" then ["machineProfile.name is required"]
    else if isDNS1123Subdomain spec.machineProfile.name ≠ [] then
      [s!"machineProfile {goSyntax spec.machineProfile.name}: " ++
        "; ".intercalate (isDNS1123Subdomain spec.machineProfile.name)]
    else []) ++
  spec.machineProfile.devices.flatMap validateDeviceContract

/-- `resourceNameWithPrefix`. -/
def resourceNameWithPrefix (value pre replacement : String) : String := replacement ++ cutPrefix value pre

/-- `validQuotaResourceKey`. -/
def validQuotaResourceKey (value : String) : Bool :=
  let validName (resourceName : String) : Bool :=
    resourceName == "cpu" || resourceName == "memory" || resourceName == "ephemeral-storage" ||
      isExtendedResourceName resourceName
  if hasPrefix value "requests." then validName (cutPrefix value "requests.")
  else if hasPrefix value "limits." then validName (cutPrefix value "limits.")
  else false

/-- The error of a quota key whose counterpart, with the other of the two prefixes, is missing or has another value. -/
def counterpartErrors (hard : ResourceList) (key : String) (quantity : Quantity)
    (pre counterpart : String) : List String :=
  if hasPrefix key pre then
    let other := resourceNameWithPrefix key pre counterpart
    match AList.lookup other hard with
    | none => [s!"workloadHard[{goSyntax key}] must equal {goSyntax other}"]
    | some q => if quantity.equal q then [] else [s!"workloadHard[{goSyntax key}] must equal {goSyntax other}"]
  else []

/-- The errors of one entry of a quota. -/
def quotaEntryErrors (hard : ResourceList) (key : String) (quantity : Quantity) : List String :=
  (if quantity.value ≤ 0 then [s!"workloadHard[{goSyntax key}] must be positive"] else []) ++
  counterpartErrors hard key quantity "requests." "limits." ++
  counterpartErrors hard key quantity "limits." "requests." ++
  (if !validQuotaResourceKey key then [s!"workloadHard[{goSyntax key}] is not an allowed quota resource"] else [])

/-- `ValidateVirtualNodeClassSpec`. -/
def validateVirtualNodeClassSpec (spec : VirtualNodeClassSpec) : List String :=
  (if spec.storageClassName = "" then ["storageClassName is required"]
    else if isDNS1123Subdomain spec.storageClassName ≠ [] then
      [s!"storageClassName {goSyntax spec.storageClassName}: " ++
        "; ".intercalate (isDNS1123Subdomain spec.storageClassName)]
    else []) ++
  spec.workloadHard.entries.flatMap fun e => quotaEntryErrors spec.workloadHard e.1 e.2

/-- `ValidateVirtualClusterSpec`. -/
def validateVirtualClusterSpec (spec : VirtualClusterSpec) : List String :=
  (if spec.cellRef.name = "" then ["cellRef.name is required"] else []) ++
  (if spec.classRef.name = "" then ["classRef.name is required"] else [])

/-- `ValidateVirtualClusterUpdate`. -/
def validateVirtualClusterUpdate (oldSpec newSpec : VirtualClusterSpec) : List String :=
  (if oldSpec.cellRef ≠ newSpec.cellRef then ["cellRef is immutable"] else []) ++
  (if oldSpec.classRef ≠ newSpec.classRef then ["classRef is immutable"] else [])

/-! ## The suffix of hostnames -/

/-- One label of the suffix; the first fault is reported. -/
def appsSuffixLabel (value : String) (label : List Char) : Except String Unit := do
  if label.length = 0 ∨ label.length > 63 then throw s!"appsSuffix {goSyntax value} has an empty or overlong label"
  match label.find? fun c => !(isLowerAlnum c || c == '-') with
  | some c => throw s!"appsSuffix {goSyntax value} contains illegal character '{c}'"
  | none => pure ()
  if label.head? = some '-' ∨ label.getLast? = some '-' then
    throw s!"appsSuffix {goSyntax value} has a label with leading or trailing hyphen"

/-- `ValidateAppsSuffix`; a value with a scheme holds a slash. -/
def validateAppsSuffix (value : String) : Except String Unit := do
  if trimSpace value.toList = [] then throw "appsSuffix is required"
  if value ≠ value.toLower then throw s!"appsSuffix {goSyntax value} must be lowercase"
  if value.toList.contains '/' then throw s!"appsSuffix {goSyntax value} must be a bare domain without scheme or path"
  if value.toList.contains ':' then throw s!"appsSuffix {goSyntax value} must not contain a port"
  if value.utf8ByteSize > 253 then throw s!"appsSuffix {goSyntax value} exceeds 253 characters"
  (splitAtChar '.' value.toList).forM (appsSuffixLabel value)

example : (validateAppsSuffix "apps.example.com").isOk = true ∧
    (validateAppsSuffix "https://apps.example.com").isOk = false ∧
    (validateAppsSuffix "apps..com").isOk = false := by decide +kernel

/-! ## Objects -/

/-- `validationError`. -/
def validationError (kind : String) (errors : List String) : Except String Unit :=
  if errors = [] then .ok () else .error (kind ++ " validation failed: " ++ "; ".intercalate errors)

/-- An object passes validation when no error is found. -/
theorem validationError_ok_iff (kind : String) (errors : List String) :
    validationError kind errors = .ok () ↔ errors = [] := by
  unfold validationError
  split_ifs with h <;> simp [h]

/-- The error of an object that is made in a namespace other than the management namespace. -/
def namespaceErrors (kind ns : String) : List String :=
  if ns ≠ "" ∧ ns ≠ managementNamespace then [s!"{kind} must be created in namespace {goSyntax managementNamespace}"]
    else []

/-- `VirtualCluster.Default`: nothing is defaulted. -/
def VirtualCluster.default (r : VirtualCluster) : VirtualCluster := r

/-- `VirtualCluster.ValidateCreate`. -/
def VirtualCluster.validateCreate (r : VirtualCluster) : Except String Unit :=
  validationError "VirtualCluster" (validateVirtualClusterSpec r.spec ++ namespaceErrors "virtualCluster" r.metadata.ns)

/-- `VirtualCluster.ValidateUpdate`. -/
def VirtualCluster.validateUpdate (r previous : VirtualCluster) : Except String Unit :=
  validationError "VirtualCluster"
    (validateVirtualClusterSpec r.spec ++ validateVirtualClusterUpdate previous.spec r.spec)

/-- `Cell.ValidateCreate`. -/
def Cell.validateCreate (r : Cell) : Except String Unit :=
  validationError "Cell" (validateCellSpec r.spec ++ namespaceErrors "cell" r.metadata.ns)

/-- `Cell.ValidateUpdate`; `sameDeviceContracts` is equality of the lists of devices. -/
def Cell.validateUpdate (r previous : Cell) (referenced : Bool) : Except String Unit :=
  if !referenced then validationError "Cell" (validateCellSpec r.spec)
  else
    validationError "Cell"
      (validateCellSpec r.spec ++
      (if previous.spec.managedClusterRef ≠ r.spec.managedClusterRef then
        ["managedClusterRef is immutable while referenced by a VirtualCluster"] else []) ++
      (if previous.spec.machineProfile.name ≠ r.spec.machineProfile.name ∨
          previous.spec.machineProfile.devices ≠ r.spec.machineProfile.devices then
        ["machineProfile name and device contracts are immutable while referenced by a VirtualCluster"] else []))

/-- `VirtualNodeClass.ValidateCreate`. -/
def VirtualNodeClass.validateCreate (r : VirtualNodeClass) : Except String Unit :=
  validationError "VirtualNodeClass" (validateVirtualNodeClassSpec r.spec)

/-- `Semantic.DeepEqual` on the specifications of classes. -/
def VirtualNodeClassSpec.semanticEqual (a b : VirtualNodeClassSpec) : Bool :=
  ResourceList.semanticEqual a.workloadHard b.workloadHard && a.storageClassName == b.storageClassName

/-- `VirtualNodeClass.ValidateUpdate`. -/
def VirtualNodeClass.validateUpdate (r previous : VirtualNodeClass) (referenced : Bool) : Except String Unit :=
  if !referenced then validationError "VirtualNodeClass" (validateVirtualNodeClassSpec r.spec)
  else
    validationError "VirtualNodeClass"
      (validateVirtualNodeClassSpec r.spec ++
      (if !previous.spec.semanticEqual r.spec then
        ["virtualNodeClass spec is immutable while referenced by a VirtualCluster"] else []))

/-! ## The validators of the management webhooks -/

/-- `isCellReferenced`, over the VirtualClusters the client lists. -/
def isCellReferenced (clusters : List VirtualCluster) (name : String) : Bool :=
  clusters.any fun item => !item.deleting && item.spec.cellRef.name == name

/-- `isClassReferenced`. -/
def isClassReferenced (clusters : List VirtualCluster) (name : String) : Bool :=
  clusters.any fun item => !item.deleting && item.spec.classRef.name == name

/-- `CellValidator.ValidateUpdate`. -/
def cellValidatorValidateUpdate (clusters : List VirtualCluster) (oldObject newObject : Cell) : Except String Unit :=
  newObject.validateUpdate oldObject (isCellReferenced clusters newObject.metadata.name)

/-- `VirtualNodeClassValidator.ValidateUpdate`. -/
def virtualNodeClassValidatorValidateUpdate (clusters : List VirtualCluster) (oldObject newObject : VirtualNodeClass) :
    Except String Unit :=
  newObject.validateUpdate oldObject (isClassReferenced clusters newObject.metadata.name)

/-- `VirtualClusterValidator.ValidateCreate`. -/
def virtualClusterValidatorValidateCreate (clusters : List VirtualCluster)
    (object : VirtualCluster) : Except String Unit :=
  match object.validateCreate with
  | .error e => .error e
  | .ok () =>
    match clusters.find? fun existing => existing.metadata.name == object.metadata.name && !existing.deleting with
    | some existing =>
      .error (s!"virtualCluster name {goSyntax object.metadata.name} is already active in namespace " ++
        s!"{goSyntax existing.metadata.ns}; names must be globally unique")
    | none => .ok ()

end KubeCell
