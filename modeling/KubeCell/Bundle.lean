import KubeCell.Digest
import KubeCell.Lib.Checks
import KubeCell.Validation

/-!
# The release bundle

`LoadReleaseBundle` of the installer: a release directory is accepted when its compatibility manifest is complete, when
the paths the manifest names stay in the directory, when the controller image is pinned by a digest, and when every
artifact has the digest the manifest records. What the loader reads of the file system is a parameter (`FileSystem`).
-/

namespace KubeCell

/-- `CompatibilityManifest`. -/
structure CompatibilityManifest where
  kubecellVersion : String
  k3kVersion : String
  childK3sVersion : String
  ocmVersion : String
  ocmBundleDigest : String
  artifactDigests : StringMap := ∅
  ocmJoinCommand : List String
  ocmBundlePath : String
  ocmJoinBundlePath : String
  kubecellCRDPath : String
  managementChartPath : String
  hostChartPath : String
  controllerImage : String
  hostProfiles : List String
  appsSuffix : String
  hostBaselineCommands : List String := []
  k3kChartPath : String := ""
  topoLVMPath : String := ""
  traefikPath : String := ""
  devicePluginPath : String := ""

/-- `ReleaseBundle`. -/
structure ReleaseBundle where
  root : String
  compatibility : CompatibilityManifest
  ocmBundlePath : String
  ocmJoinBundlePath : String
  kubecellCRDPath : String
  managementChart : String
  hostChart : String
  controllerImage : String

/-- The functions the installer takes from other packages, besides those of the controllers: reading a manifest, the
nodes or a Cell from a file, and writing a Cell or a class. The version is set when the installer is built. -/
structure InstallerCtx extends Ctx where
  version : String
  unmarshalManifest : List UInt8 → Except String CompatibilityManifest
  unmarshalNodes : List UInt8 → Except String (List Node)
  unmarshalCell : List UInt8 → Except String Cell
  marshalCell : Cell → Except String String
  marshalClass : VirtualNodeClass → Except String String

/-- What the installer finds in the file system: the working directory, and what is at a path when it is read, looked
up, resolved or digested. -/
structure FileSystem where
  getwd : Except String String
  readFile : String → Except String (List UInt8)
  stat : String → Except String Unit
  evalSymlinks : String → Except String String
  artifact : String → Artifact

/-! ## Paths -/

/-- One element of a path that is cleaned, with the elements before it, the last one first. -/
def cleanElement (rooted : Bool) (stack : List (List Char)) (element : List Char) : List (List Char) :=
  if element = [] ∨ element = ['.'] then stack
  else if element = ['.', '.'] then
    match stack with
    | [] => if rooted then [] else [element]
    | top :: rest => if top = ['.', '.'] then element :: stack else rest
  else element :: stack

/-- `filepath.Clean`. -/
def cleanPath (path : String) : String :=
  let rooted := path.toList.head? == some '/'
  let elements := ((splitAtChar '/' path.toList).foldl (cleanElement rooted) []).reverse
  let cleaned := (if rooted then ['/'] else []) ++ ['/'].intercalate elements
  if cleaned = [] then "." else String.ofList cleaned

/-- `filepath.Join` of two elements. -/
def joinPath (first second : String) : String :=
  if first = "" then (if second = "" then "" else cleanPath second) else cleanPath (first ++ "/" ++ second)

/-- `filepath.Abs`. -/
def absPath (fs : FileSystem) (path : String) : Except String String :=
  if path.toList.head? = some '/' then .ok (cleanPath path) else fs.getwd.map fun wd => joinPath wd path

example : cleanPath "bundle//charts/./../crds/" = "bundle/crds" ∧ cleanPath "/../a" = "/a" ∧
    cleanPath "a/../.." = ".." ∧
    joinPath "/srv/release" "../secret" = "/srv/secret" := by decide +kernel

/-- `bundlePath`. -/
def bundlePath (fs : FileSystem) (root relative label : String) : Except String String := do
  if isBlank relative then throw s!"{label} path is required"
  let rootAbs ← absPath fs root
  let pathAbs ← absPath fs (joinPath root relative)
  if pathAbs ≠ rootAbs ∧ ¬hasPrefix pathAbs (rootAbs ++ "/") then
    throw s!"{label} path escapes release bundle: {goSyntax relative}"
  (fs.stat pathAbs).mapError fun e => s!"{label} {goSyntax relative} is unavailable: {e}"
  let resolvedRoot ← (fs.evalSymlinks rootAbs).mapError fun e => s!"resolve release bundle root: {e}"
  let resolvedPath ← (fs.evalSymlinks pathAbs).mapError fun e => s!"resolve {label}: {e}"
  if resolvedPath ≠ resolvedRoot ∧ ¬hasPrefix resolvedPath (resolvedRoot ++ "/") then
    throw s!"{label} resolves outside release bundle: {goSyntax relative}"
  return resolvedPath

/-! ## The manifest -/

/-- One template of a baseline command. -/
def validateBaselineTemplate (template : String) : Except String Unit := do
  if isBlank template then throw "host baseline command template must not be blank"
  if countText template "\x7b\x7b" ≠ countText template "\x7d\x7d" then
    throw s!"host baseline command template has unbalanced placeholders: {goSyntax template}"

/-- `ValidateCompatibility`. -/
def validateCompatibility (manifest : CompatibilityManifest) : Except String Unit := do
  if manifest.kubecellVersion = "" then throw "kubecell version is required"
  if manifest.k3kVersion ≠ Platform.k3kVersion then
    throw s!"k3k version {goSyntax manifest.k3kVersion} is not the certified Shared Mode baseline"
  if manifest.childK3sVersion ≠ Platform.childK3sVersion then
    throw s!"child K3s version {goSyntax manifest.childK3sVersion} is not the certified target"
  if manifest.ocmVersion = "" ∨ manifest.ocmBundleDigest = "" then throw "ocm version and bundle digest are required"
  if manifest.hostProfiles = [] then throw "at least one Host compatibility profile is required"
  if manifest.ocmJoinCommand = [] then throw "ocm join command is required"
  validateAppsSuffix manifest.appsSuffix
  manifest.hostBaselineCommands.forM validateBaselineTemplate

/-- A digit of a hexadecimal number, in either case. -/
def isHexByte (b : UInt8) : Bool := (48 ≤ b && b ≤ 57) || (97 ≤ b && b ≤ 102) || (65 ≤ b && b ≤ 70)

/-- `validateImmutableImage`. -/
def validateImmutableImage (image : String) : Except String Unit :=
  match splitText image "@sha256:" with
  | [repository, digest] =>
    if repository = "" ∨ digest.utf8ByteSize ≠ 64 then
      .error "controllerImage must be an immutable sha256 image reference"
    else
      match digest.toUTF8.data.toList.find? fun b => !isHexByte b with
      | some b => .error s!"controllerImage must contain a hexadecimal sha256 digest: encoding/hex: invalid byte: {b}"
      | none => .ok ()
  | _ => .error "controllerImage must be an immutable sha256 image reference"

/-- `verifyLegacyOCMBundleDigest`. -/
def verifyLegacyOCMBundleDigest (Γ : Ctx) (fs : FileSystem) (path expected : String) : Except String Unit := do
  let data ← (fs.readFile path).mapError fun e => s!"read OCM bundle: {e}"
  let actual := sha256Hex Γ data
  if actual ≠ cutPrefix expected "sha256:" then
    throw s!"ocm bundle digest mismatch: got sha256:{actual}, want {expected}"

/-- One of the baseline artifacts, which a manifest may leave out. -/
def addBaseline (fs : FileSystem) (root : String) (artifacts : StringMap) (baseline : String × String) :
    Except String StringMap :=
  if isBlank baseline.2 then .ok artifacts
  else (bundlePath fs root baseline.2 baseline.1).map fun resolved => artifacts.insert baseline.2 resolved

/-- `LoadReleaseBundle`. -/
def loadReleaseBundle (Γ : InstallerCtx) (fs : FileSystem) (root : String) : Except String ReleaseBundle := do
  if isBlank root then throw "release bundle path is required"
  let data ← (fs.readFile (joinPath root "compatibility.yaml")).mapError fun e => s!"read compatibility manifest: {e}"
  let manifest ← (Γ.unmarshalManifest data).mapError fun e => s!"parse compatibility manifest: {e}"
  validateCompatibility manifest
  let ocmPath ← bundlePath fs root manifest.ocmBundlePath "OCM bundle"
  let managementPath ← bundlePath fs root manifest.managementChartPath "Management Chart"
  let hostPath ← bundlePath fs root manifest.hostChartPath "Host Chart"
  validateImmutableImage manifest.controllerImage
  let joinPath ← bundlePath fs root manifest.ocmJoinBundlePath "OCM join bundle"
  let crdPath ← bundlePath fs root manifest.kubecellCRDPath "KubeCell CRD bundle"
  let artifacts ← [("K3k chart", manifest.k3kChartPath), ("TopoLVM baseline", manifest.topoLVMPath),
      ("Traefik baseline", manifest.traefikPath), ("Device Plugin baseline", manifest.devicePluginPath)].foldlM
        (addBaseline fs root)
    (GoMap.ofList [(manifest.hostChartPath, hostPath), (manifest.managementChartPath, managementPath),
      (manifest.kubecellCRDPath, crdPath), (manifest.ocmJoinBundlePath, joinPath), (manifest.ocmBundlePath, ocmPath)])
  artifacts.entries.forM fun artifact =>
    (verifyArtifactDigest Γ.toCtx artifact.1 (fs.artifact artifact.2) manifest.artifactDigests).mapError
      DigestError.message
  verifyLegacyOCMBundleDigest Γ.toCtx fs ocmPath manifest.ocmBundleDigest
  return { root := root, compatibility := manifest, ocmBundlePath := ocmPath, ocmJoinBundlePath := joinPath, kubecellCRDPath := crdPath,
           managementChart := managementPath, hostChart := hostPath, controllerImage := manifest.controllerImage }

/-! ## What is accepted -/

open Checks

/-- A bundle that is loaded carries the manifest it was checked with. -/
theorem loadReleaseBundle_ok {Γ : InstallerCtx} {fs : FileSystem} {root : String} {bundle : ReleaseBundle}
    (h : loadReleaseBundle Γ fs root = .ok bundle) :
    validateCompatibility bundle.compatibility = .ok () ∧ validateImmutableImage bundle.controllerImage = .ok () := by
  simp only [loadReleaseBundle, ite_throw_eq_ok, bind_eq_ok] at h
  obtain ⟨-, data, -, manifest, -, _, hcompat, ocm, -, management, -, host, -, _, himage, join, -, crd, -,
    artifacts, -, -, -, -, -, hret⟩ := h
  cases hret
  exact ⟨hcompat, himage⟩

/-- A manifest that passes has a command to join with. -/
theorem ocmJoinCommand_of_validateCompatibility {manifest : CompatibilityManifest}
    (h : validateCompatibility manifest = .ok ()) :
    manifest.ocmJoinCommand ≠ [] := by
  simp only [validateCompatibility, ite_throw_eq_ok] at h
  exact h.2.2.2.2.2.1

end KubeCell
