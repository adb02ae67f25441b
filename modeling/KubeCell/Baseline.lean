import Mathlib.Data.List.AList
import KubeCell.Bundle
import KubeCell.Lib.Placeholders
import KubeCell.Lib.Utf8

/-!
# Baseline commands

`RenderHostBaselineCommands` and `HostBaselineVars` of `internal/installer/installer.go`, on the strings of Go. The
loop over the variables goes through a map, so each template meets them in an order of its own.
-/

namespace KubeCell

/-- The braces of placeholders. -/
def byteBraces : Braces UInt8 := ⟨0x7B, 0x7D, by decide⟩

/-- The variables that templates name, with their values. -/
abbrev VarTable : Type := AList fun _ : GoString => GoString

/-- The orders in which the loop goes through a table, for one template after the other. -/
structure Visits (vars : VarTable) where
  order : Nat → List (Σ _ : GoString, GoString)
  perm : ∀ index, (order index).Perm vars.entries

/-- `unresolved placeholder in baseline command`, of the template. -/
structure UnresolvedPlaceholder where
  template : GoString
  deriving DecidableEq, Repr

def UnresolvedPlaceholder.text (quoted : String) : String := s!"unresolved placeholder in baseline command: {quoted}"

/-- The loop over the variables: each is replaced in what the ones before have left. -/
def replaceVars (order : List (Σ _ : GoString, GoString)) (template : GoString) : GoString :=
  order.foldl (fun rendered var => replaceText (byteBraces.placeholder var.1) var.2 0 rendered) template

/-- One template of `RenderHostBaselineCommands`. -/
def renderHostBaselineCommand (order : List (Σ _ : GoString, GoString)) (template : GoString) :
    Except UnresolvedPlaceholder GoString := do
  let rendered := replaceVars order template
  if [0x7B, 0x7B] <:+: rendered ∨ [0x7D, 0x7D] <:+: rendered then throw ⟨template⟩
  return rendered

/-- `RenderHostBaselineCommands`, from the template with the given index on. -/
def renderHostBaselineCommandsFrom (order : Nat → List (Σ _ : GoString, GoString)) (index : Nat) :
    List GoString → Except UnresolvedPlaceholder (List GoString)
  | [] => return []
  | template :: rest => do
    let rendered ← renderHostBaselineCommand (order index) template
    let result ← renderHostBaselineCommandsFrom order (index + 1) rest
    return rendered :: result

def renderHostBaselineCommands (vars : VarTable) (visits : Visits vars) (templates : List GoString) :
    Except UnresolvedPlaceholder (List GoString) := renderHostBaselineCommandsFrom visits.order 0 templates

/-- `HostBaselineVars`. -/
def hostBaselineVars (manifest : CompatibilityManifest) (nodeName : GoString) : VarTable where
  entries :=
    [⟨.ofText "HOST_K3S_VERSION", .ofText Platform.hostK3sVersion⟩,
      ⟨.ofText "HOST_PROFILE", .ofText (manifest.hostProfiles.headD "")⟩,
      ⟨.ofText "HOST_NODE_NAME", nodeName⟩, ⟨.ofText "APPS_SUFFIX", .ofText manifest.appsSuffix⟩]
  nodupKeys := by
    simp only [List.NodupKeys, List.keys, List.map_cons, List.map_nil]
    decide +kernel

end KubeCell
