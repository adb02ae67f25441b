import KubeCell.Digest

namespace KubeCell

/-!
# Which directories a digest identifies

The stream that is hashed marks where a path ends but not where the contents of a file do. So a directory of two or
more files is never identified by its stream, the empty directory always is, and a directory of one file is unless the
contents of the file can be read as contents followed by another path, a NUL byte and more contents.
-/

namespace DigestAux

/-- The stream of a directory with a first file. -/
theorem digestStream_cons (p : Path) (c : List UInt8) (rest : List (Path × List UInt8)) :
    digestStream ((p, c) :: rest) = p ++ 0 :: (c ++ digestStream rest) := rfl

/-- Two directories with the same files are equal. -/
theorem directory_ext {D D' : Directory} (h : D'.files = D.files) : D' = D := by
  cases D
  cases D'
  simpa using h

/-- The order of paths is antisymmetric. -/
theorem pathLe_antisymm {p q : Path} (h : pathLe p q = true) (h' : pathLe q p = true) : p = q := by
  simp only [pathLe, decide_eq_true_eq] at h h'
  have := le_antisymm h h'
  exact List.map_injective_iff.mpr (fun a b hab => UInt8.toNat_inj.mp hab) this

/-- A directory has one file at a path. -/
theorem file_unique {D : Directory} {a b : Path × List UInt8} (ha : a ∈ D.files) (hb : b ∈ D.files) (h : a.1 = b.1) :
    a = b := by
  have hnodup : (D.files.map Prod.fst).Nodup :=
    List.pairwise_map.mpr (D.sorted.imp fun {x y} hlt hxy => by simp [pathLt, hxy] at hlt)
  exact List.inj_on_of_nodup_map hnodup ha hb h

/-- Files that are those of a directory, in any order, are sorted to the map. -/
theorem sorted_eq {D : Directory} {files : List (Path × List UInt8)} (h : files.Perm D.files) :
    files.mergeSort (fun a b => pathLe a.1 b.1) = D.files := by
  have hperm := (List.mergeSort_perm files fun a b => pathLe a.1 b.1).trans h
  have hle : D.files.Pairwise fun a b => pathLe a.1 b.1 = true :=
    D.sorted.imp fun hlt => by simpa [pathLe] using le_of_lt hlt
  refine List.Perm.eq_of_pairwise ?_ ?_ hle hperm
  · intro a b ha hb hab hba
    exact file_unique (hperm.mem_iff.mp ha) hb (pathLe_antisymm hab hba)
  · refine List.pairwise_mergeSort (fun a b c hab hbc => ?_) (fun a b => ?_) files
    · simp only [pathLe, decide_eq_true_eq] at hab hbc ⊢
      exact le_trans hab hbc
    · simp only [pathLe, Bool.or_eq_true, decide_eq_true_eq]
      exact le_total _ _

/-- The digest of an artifact that is a directory is the digest of the stream of the directory. -/
theorem digestPath_of_isDirectory (Γ : Ctx) {a : Artifact} {D : Directory} (h : a.IsDirectory D) :
    digestPath Γ a = .ok (sha256Hex Γ D.stream) := by
  obtain ⟨entries, files, rfl, hfiles, hperm⟩ := h
  simp only [digestPath, hfiles, Except.map, sorted_eq hperm, Directory.stream]

/-- A hexadecimal digit tells its value. -/
theorem digitChar_inj : ∀ x < 16, ∀ y < 16, Nat.digitChar x = Nat.digitChar y → x = y := by decide

/-- The digits of a byte tell the byte. -/
theorem hexByte_injective : Function.Injective hexByte := by
  intro a b h
  simp only [hexByte, List.cons.injEq, and_true] at h
  have ha := UInt8.toNat_lt a
  have hb := UInt8.toNat_lt b
  have hdiv := digitChar_inj _ (by omega) _ (by omega) h.1
  have hmod := digitChar_inj _ (by omega) _ (by omega) h.2
  exact UInt8.toNat_inj.mp (by omega)

/-- Bytes are read back from their hexadecimal digits. -/
theorem hexEncode_injective : Function.Injective hexEncode := by
  intro a b h
  have h' : a.flatMap hexByte = b.flatMap hexByte := String.ofList_injective h
  clear h
  induction a generalizing b with
  | nil =>
    cases b with
    | nil => rfl
    | cons y b => simp [hexByte] at h'
  | cons x a ih =>
    cases b with
    | nil => simp [hexByte] at h'
    | cons y b =>
      simp only [List.flatMap_cons] at h'
      obtain ⟨hx, ht⟩ := List.append_inj h' rfl
      rw [hexByte_injective hx, ih ht]

end DigestAux

open DigestAux

/-- The contents of a file at `p` can be read as contents, another path that sorts after `p`, a NUL
byte, and more contents. -/
def HoldsHeader (p : Path) (c : List UInt8) : Prop :=
  ∃ c₁ q c₂, c = c₁ ++ q ++ 0 :: c₂ ∧ q ≠ [] ∧ 0 ∉ q ∧ pathLt p q

/-- The directory is empty, or has one file, and the contents of that file hold no header of another file. -/
def Directory.Unambiguous (D : Directory) : Prop :=
  match D.files with
  | [] => True
  | [(p, c)] => ¬HoldsHeader p c
  | _ => False

/-- A release manifest that records the digest of a directory under a path. -/
def RecordsDigest (Γ : Ctx) (expectedDigests : StringMap) (relative : String) (D : Directory) : Prop :=
  AList.lookup relative expectedDigests = some ("sha256:" ++ sha256Hex Γ D.stream)

namespace DigestAux

/-- The directory of one file. -/
def singleton (p : Path) (c : List UInt8) (hp : p ≠ [] ∧ 0 ∉ p) : Directory where
  files := [(p, c)]
  sorted := List.pairwise_singleton _ _
  paths := by simpa using hp

/-- The directory of two files. -/
def pair (p : Path) (c : List UInt8) (q : Path) (d : List UInt8) (hp : p ≠ [] ∧ 0 ∉ p) (hq : q ≠ [] ∧ 0 ∉ q)
    (hlt : pathLt p q) : Directory where
  files := [(p, c), (q, d)]
  sorted := by simpa using hlt
  paths := by simpa using ⟨hp, hq⟩

/-- Only the empty directory has the empty stream. -/
theorem files_of_stream_nil {D : Directory} (h : D.stream = []) : D.files = [] := by
  rw [Directory.stream] at h
  cases hf : D.files with
  | nil => rfl
  | cons f rest => simp [hf, digestStream] at h

/-- A directory whose stream is that of one file has that file first, and what follows is in the
contents of that file. -/
theorem files_of_stream_singleton {D : Directory} {p : Path} {c : List UInt8} (hp : 0 ∉ p)
    (h : D.stream = p ++ 0 :: c) : ∃ c' rest, D.files = (p, c') :: rest ∧ c = c' ++ digestStream rest := by
  rw [Directory.stream] at h
  cases hf : D.files with
  | nil => simp [hf, digestStream] at h
  | cons f rest =>
    obtain ⟨p', c'⟩ := f
    rw [hf, digestStream_cons] at h
    have hp' : 0 ∉ p' := (D.paths (p', c') (by simp [hf])).2
    obtain ⟨rfl, hr⟩ := append_sep_inj hp' hp h
    exact ⟨c', rest, rfl, hr.symm⟩

/-- A directory of two or more files has the stream of the directory with its first file alone,
holding all that follows. -/
theorem not_identifies_of_two {D : Directory} {p q : Path} {c d : List UInt8} {rest : List (Path × List UInt8)}
    (hf : D.files = (p, c) :: (q, d) :: rest) : ∃ D' : Directory, D'.stream = D.stream ∧ D' ≠ D := by
  have hp := D.paths (p, c) (by simp [hf])
  refine ⟨singleton p (c ++ digestStream ((q, d) :: rest)) hp, ?_, fun heq => ?_⟩
  · simp [Directory.stream, singleton, hf, digestStream]
  · have := congrArg (fun D => D.files.length) heq
    simp [singleton, hf] at this

/-- A directory of one file whose contents hold the header of another has the stream of the directory of the two. -/
theorem not_identifies_of_header {D : Directory} {p : Path} {c : List UInt8} (hf : D.files = [(p, c)])
    (hc : HoldsHeader p c) : ∃ D' : Directory, D'.stream = D.stream ∧ D' ≠ D := by
  obtain ⟨c₁, q, c₂, rfl, hq, hq0, hlt⟩ := hc
  have hp := D.paths (p, _) (by rw [hf]; exact List.mem_singleton_self _)
  refine ⟨pair p c₁ q c₂ hp ⟨hq, hq0⟩ hlt, ?_, fun heq => ?_⟩
  · simp [Directory.stream, pair, hf, digestStream]
  · have := congrArg (fun D => D.files.length) heq
    simp [pair, hf] at this

/-- An unambiguous directory is the only one with its stream. -/
theorem eq_of_stream_eq {D D' : Directory} (hD : D.Unambiguous) (h : D'.stream = D.stream) : D' = D := by
  apply directory_ext
  unfold Directory.Unambiguous at hD
  split at hD
  · rename_i hf
    have : D.stream = [] := by simp [Directory.stream, hf, digestStream]
    rw [hf, files_of_stream_nil (h.trans this)]
  · rename_i p c hf
    have hp := D.paths (p, c) (by simp [hf])
    have hstream : D'.stream = p ++ 0 :: c := by rw [h]; simp [Directory.stream, hf, digestStream]
    obtain ⟨c', rest, hf', hc⟩ := files_of_stream_singleton hp.2 hstream
    cases rest with
    | nil => rw [hf', hf, hc, digestStream, List.append_nil]
    | cons f rest =>
      -- a second file of `D'` starts with a header, and that header stands in the contents of the only file of `D`
      obtain ⟨q, d⟩ := f
      have hq := D'.paths (q, d) (by simp [hf'])
      have hlt : pathLt p q := (List.pairwise_cons.mp (hf' ▸ D'.sorted)).1 (q, d) List.mem_cons_self
      refine absurd ⟨c', q, d ++ digestStream rest, ?_, hq.1, hq.2, hlt⟩ hD
      rw [hc, digestStream_cons, List.append_assoc]
  · exact hD.elim

/-- A directory is told from every other by its stream exactly when it is unambiguous. -/
theorem stream_identifies_iff (D : Directory) : (∀ D' : Directory, D'.stream = D.stream → D' = D) ↔ D.Unambiguous := by
  refine ⟨fun h => ?_, fun hD D' => eq_of_stream_eq hD⟩
  unfold Directory.Unambiguous
  split
  · trivial
  · rename_i p c hf
    intro hc
    obtain ⟨D', hs, hne⟩ := not_identifies_of_header hf hc
    exact hne (h D' hs)
  · rename_i h₀ h₁
    rcases hf : D.files with _ | ⟨⟨p, c⟩, _ | ⟨⟨q, d⟩, rest⟩⟩
    · exact h₀ hf
    · exact h₁ p c hf
    · obtain ⟨D', hs, hne⟩ := not_identifies_of_two hf
      exact hne (h D' hs)

/-- An artifact that is a directory is accepted exactly when its stream has the recorded digest. -/
theorem verifyArtifactDigest_iff (Γ : Ctx) {expectedDigests : StringMap} {relative : String} {D D' : Directory}
    {a : Artifact} (hrec : RecordsDigest Γ expectedDigests relative D) (ha : a.IsDirectory D') :
    verifyArtifactDigest Γ relative a expectedDigests = .ok () ↔ Γ.sha256 D'.stream = Γ.sha256 D.stream := by
  have hspace : trimSpace ("sha256:" ++ sha256Hex Γ D.stream).toList ≠ [] := by
    rw [String.toList_append]
    intro h
    have hs : isSpace 's' = false := by decide
    have := List.rdropWhile_eq_nil_iff.mp h 's' (by simp [hs])
    exact absurd this (by decide)
  have htrim : trimPrefix ("sha256:" ++ sha256Hex Γ D.stream).toList "sha256:".toList =
    (sha256Hex Γ D.stream).toList := by
    simp [trimPrefix]
  rw [RecordsDigest] at hrec
  simp only [verifyArtifactDigest, hrec, if_neg hspace, digestPath_of_isDirectory Γ ha, htrim, ne_eq, String.toList_inj]
  have hhex : sha256Hex Γ D'.stream = sha256Hex Γ D.stream ↔ Γ.sha256 D'.stream = Γ.sha256 D.stream :=
    hexEncode_injective.eq_iff
  by_cases h : Γ.sha256 D'.stream = Γ.sha256 D.stream
  · simp [hhex.mpr h, h]
  · simp [mt hhex.mp h, h]

end DigestAux

/-- No other directory has a stream with the digest of this one. -/
def CollisionFree (Γ : Ctx) (D : Directory) : Prop :=
  ∀ D' : Directory, Γ.sha256 D'.stream = Γ.sha256 D.stream → D'.stream = D.stream

/-- A recorded directory is identified by the bytes that are hashed, and by the check of an artifact against the
recorded digest, exactly when it is empty, or has one file and the contents of that file hold no header of another. -/
theorem digest_identifies_iff (Γ : Ctx) (D : Directory) (hfree : CollisionFree Γ D) (expectedDigests : StringMap)
    (relative : String) (hrec : RecordsDigest Γ expectedDigests relative D) :
    ((∀ D' : Directory, D'.stream = D.stream → D' = D) ∧
      ∀ (a : Artifact) (D' : Directory), a.IsDirectory D' → verifyArtifactDigest Γ relative a expectedDigests = .ok () →
        D' = D) ↔ D.Unambiguous := by
  rw [stream_identifies_iff]
  refine ⟨fun h => h.1, fun hD => ⟨hD, fun a D' ha hok => ?_⟩⟩
  exact eq_of_stream_eq hD (hfree D' ((verifyArtifactDigest_iff Γ hrec ha).mp hok))

/-- The bytes hashed for a directory do not tell it from every other: two files in one directory and
one file in the other. -/
theorem digest_identifies_false :
    ¬∀ D D' : Directory, D'.stream = D.stream → D' = D := by
  intro h
  -- the files `a` holding `1` and `b` holding `2`, and the file `a` holding `1b`, a NUL byte and `2`
  have := h (pair [97] [49] [98] [50] (by decide) (by decide) (by decide))
    (singleton [97] [49, 98, 0, 50] (by decide)) rfl
  exact absurd (congrArg (fun D => D.files.length) this) (by decide)

namespace DigestAux

/-- The directory of the one file `crd.yaml` that holds `kind: Cell`. -/
def crdDirectory : Directory :=
  singleton [99, 114, 100, 46, 121, 97, 109, 108] [107, 105, 110, 100, 58, 32, 67, 101, 108, 108, 10] (by decide)

/-- The digest of the stream of `crdDirectory`; every other stream keeps all its bytes, and is longer than a digest. -/
def crdSha256 (data : List UInt8) : List UInt8 :=
  if data = crdDirectory.stream then
    [154, 176, 213, 76, 174, 94, 68, 54, 202, 247, 107, 253, 113, 147, 184, 201, 5, 168, 141, 54, 146, 131, 98, 207,
      222, 114, 35, 127, 95, 95, 169, 181]
  else List.replicate 33 0 ++ data

/-- No stream collides with that of `crdDirectory`. -/
theorem crdSha256_collisionFree : CollisionFree ⟨crdSha256, fun _ => none, fun _ => none⟩ crdDirectory := by
  intro D' h
  by_contra hne
  have := congrArg List.length h
  simp [crdSha256, if_neg hne] at this

/-- A file whose contents hold no NUL byte holds no header. -/
theorem not_holdsHeader_of_not_mem {p : Path} {c : List UInt8} (h : 0 ∉ c) : ¬HoldsHeader p c := by
  rintro ⟨c₁, q, c₂, rfl, -⟩
  exact h (by simp)

end DigestAux

/-- A directory that is identified by its recorded digest. -/
theorem crdDirectory_identified :
    crdDirectory.Unambiguous ∧ ∀ (a : Artifact) (D' : Directory), a.IsDirectory D' →
      verifyArtifactDigest ⟨crdSha256, fun _ => none, fun _ => none⟩ "crds" a
        (GoMap.ofList [("crds", "sha256:9ab0d54cae5e4436caf76bfd7193b8c905a88d36928362cfde72237f5f5fa9b5")]) = .ok () →
      D' = crdDirectory := by
  have hD : crdDirectory.Unambiguous := not_holdsHeader_of_not_mem (by decide)
  refine ⟨hD, ((digest_identifies_iff _ crdDirectory crdSha256_collisionFree _ "crds" ?_).mpr hD).2⟩
  rw [RecordsDigest]
  decide +kernel

end KubeCell
