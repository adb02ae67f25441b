import KubeCell.Lib.Utf8

/-!
# The suffix of hostnames, byte by byte

`ValidateAppsSuffix` of `internal/installer/installer.go` on the strings of Go, which hold any bytes: it compares with
the lower case of the value, searches it, splits it at dots, and goes over the characters of each label.
-/

namespace KubeCell

/-- Why a suffix is refused. -/
inductive AppsSuffixError where
  | required
  | notLowercase
  | notBare
  | port
  | tooLong
  | label
  | character (r : Nat)
  | hyphen
  deriving DecidableEq, Repr

/-- The text of the error, of the quoted value and of a quoted character. -/
def AppsSuffixError.text (quoted : String) (quotedRune : Nat → String) : AppsSuffixError → String
  | .required => "appsSuffix is required"
  | .notLowercase => s!"appsSuffix {quoted} must be lowercase"
  | .notBare => s!"appsSuffix {quoted} must be a bare domain without scheme or path"
  | .port => s!"appsSuffix {quoted} must not contain a port"
  | .tooLong => s!"appsSuffix {quoted} exceeds 253 characters"
  | .label => s!"appsSuffix {quoted} has an empty or overlong label"
  | .character r => s!"appsSuffix {quoted} contains illegal character {quotedRune r}"
  | .hyphen => s!"appsSuffix {quoted} has a label with leading or trailing hyphen"

namespace GoString

/-- The characters of a label: `a` to `z`, `0` to `9` and the hyphen, by their code points. -/
def legalRune (r : Nat) : Bool := (0x61 ≤ r && r ≤ 0x7A) || (0x30 ≤ r && r ≤ 0x39) || r == 0x2D

/-- One label of the suffix; the first fault is reported. -/
def appsSuffixLabel (label : GoString) : Except AppsSuffixError Unit := do
  if label.length = 0 ∨ label.length > 63 then throw .label
  match (runes 0 label).find? fun r => !legalRune r with
  | some r => throw (.character r)
  | none => pure ()
  if [0x2D].isPrefixOf label ∨ [0x2D].isSuffixOf label then throw .hyphen

/-- `ValidateAppsSuffix`; a value with a scheme holds a slash. -/
def validateAppsSuffix (unicodeToLower : Nat → Nat) (value : GoString) : Except AppsSuffixError Unit := do
  if isAllSpace value then throw .required
  if value ≠ toLower unicodeToLower value then throw .notLowercase
  if value.contains 0x2F then throw .notBare
  if value.contains 0x3A then throw .port
  if value.length > 253 then throw .tooLong
  (value.splitOn 0x2E).forM appsSuffixLabel

example : validateAppsSuffix id (ofText "apps.example.com") = .ok () ∧
    validateAppsSuffix id (ofText "Apps.example.com") = .error .notLowercase ∧
    validateAppsSuffix id [0x61, 0xC3] = .error .notLowercase ∧ validateAppsSuffix id (ofText "é.com") = .error
      (.character 0xE9) := by
  decide +kernel

end GoString

end KubeCell
