import KubeCell.Helpers
import KubeCell.Lib.Text
import Mathlib.Data.List.Lex

/-!
# Digests of release artifacts

`digestPath` and `verifyArtifactDigest` of the installer: an artifact of a release is a file or a directory, and is
accepted when its digest is the one the release manifest records. A directory is digested as one stream, its files in
the order of their paths.
-/

namespace KubeCell

/-- A path relative to the directory it is in, as bytes. -/
abbrev Path : Type := List UInt8

/-- The order of paths that `sort.Strings` sorts by: byte by byte. -/
def pathLe (p q : Path) : Bool := decide (p.map UInt8.toNat ≤ q.map UInt8.toNat)

/-- The first path sorts strictly before the second. -/
def pathLt (p q : Path) : Prop := p.map UInt8.toNat < q.map UInt8.toNat

instance (p q : Path) : Decidable (pathLt p q) := inferInstanceAs (Decidable (p.map UInt8.toNat < q.map UInt8.toNat))

/-- What the walk over a directory meets besides directories. -/
inductive WalkEntry where
  | regular (data : List UInt8)
  | symlink
  | special
  deriving DecidableEq, Repr

/-- What is at the path of an artifact: nothing that can be read, a symlink, a file, or a directory with the
entries of a walk over it. -/
inductive Artifact where
  | unreadable (message : String)
  | symlink
  | file (data : List UInt8)
  | directory (entries : List (Path × WalkEntry))
  deriving DecidableEq, Repr

/-- An error of the installer, with the path it names, if it names one. -/
structure DigestError where
  message : String
  path : Path := []
  deriving DecidableEq, Repr

/-- `sha256Hex`. -/
def sha256Hex (Γ : Ctx) (data : List UInt8) : String := hexEncode (Γ.sha256 data)

/-- The regular files among the entries of a walk, as the walk collects them; a symlink ends it. -/
def collectFiles : List (Path × WalkEntry) → Except DigestError (List (Path × List UInt8))
  | [] => .ok []
  | (current, .symlink) :: _ => .error ⟨"symlink is not a supported release artifact", current⟩
  | (_, .special) :: rest => collectFiles rest
  | (current, .regular data) :: rest => (collectFiles rest).map ((current, data) :: ·)

/-- The bytes that are hashed for the sorted files of a directory: each path, a NUL byte, and the contents. -/
def digestStream : List (Path × List UInt8) → List UInt8
  | [] => []
  | (relative, data) :: rest => relative ++ 0 :: (data ++ digestStream rest)

/-- `digestPath`. -/
def digestPath (Γ : Ctx) : Artifact → Except DigestError String
  | .unreadable message => .error ⟨message, []⟩
  | .symlink => .error ⟨"symlink is not a supported release artifact", []⟩
  | .file data => .ok (sha256Hex Γ data)
  | .directory entries =>
    (collectFiles entries).map fun files => sha256Hex Γ (digestStream (files.mergeSort fun a b => pathLe a.1 b.1))

/-- `verifyArtifactDigest`. -/
def verifyArtifactDigest (Γ : Ctx) (relative : String) (artifact : Artifact) (expectedDigests : StringMap) :
    Except DigestError Unit :=
  match AList.lookup relative expectedDigests with
  | none => .error ⟨s!"artifact digest is required for {goSyntax relative}", []⟩
  | some expected =>
    if trimSpace expected.toList = [] then .error ⟨s!"artifact digest is required for {goSyntax relative}", []⟩
    else
      match digestPath Γ artifact with
      | .error e => .error ⟨s!"digest {goSyntax relative}: {e.message}", e.path⟩
      | .ok actual =>
        if actual.toList ≠ trimPrefix expected.toList "sha256:".toList then
          .error ⟨s!"artifact digest mismatch for {goSyntax relative}: got sha256:{actual}, want {expected}", []⟩
        else .ok ()

/-! ## Directories as maps -/

/-- A release directory: a finite map from relative paths, which are not empty and hold no NUL byte, to contents.
The map is its list of entries in the order of the paths, so two directories are equal when they have the same files
with the same contents. -/
structure Directory where
  files : List (Path × List UInt8)
  sorted : files.Pairwise fun a b => pathLt a.1 b.1
  paths : ∀ f ∈ files, f.1 ≠ [] ∧ 0 ∉ f.1

/-- The artifact is the directory: a walk over it meets no symlink, and meets exactly its files, in some order. -/
def Artifact.IsDirectory (a : Artifact) (D : Directory) : Prop :=
  ∃ entries files, a = .directory entries ∧ collectFiles entries = .ok files ∧ files.Perm D.files

/-- The bytes hashed for a directory. -/
def Directory.stream (D : Directory) : List UInt8 := digestStream D.files

end KubeCell
