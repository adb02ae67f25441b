import KubeCell.Lib.Versions

/-!
# Identities that are given out once

A name may become free and be taken again, by another object. What tells the two apart is the UID, which the server
makes from the version of the creation: no version comes back, and so no UID does. What is known of an object that was
seen (`Store.Tracks`) is therefore known of whatever stands under its name with its UID, for as long as the changes in
between keep it (`Store.Follows`).
-/

namespace KubeCell

/-- The server does not give the UID out from the version on. -/
def Issued (version : Nat) (uid : String) : Prop := ∀ n, uid = s!"uid-{n}" → n < version

/-- A UID that is not given out any more is not given out later. -/
theorem Issued.mono {version version' : Nat} {uid : String} (h : Issued version uid)
    (hle : version ≤ version') : Issued version' uid :=
  fun n hn => lt_of_lt_of_le (h n hn) hle

/-- UIDs of different versions differ. -/
theorem uid_injective {n m : Nat} (h : s!"uid-{n}" = s!"uid-{m}") : n = m := by
  have hrepr : Nat.repr n = Nat.repr m := by simpa using h
  have hdigits := congrArg String.toList hrepr
  rw [Nat.toList_repr, Nat.toList_repr] at hdigits
  rw [← Nat.ofDigitChars_ten_toDigits (n := n), hdigits, Nat.ofDigitChars_ten_toDigits]

/-- The UIDs of earlier versions are not given out any more. -/
theorem issued_of_lt {n version : Nat} (hlt : n < version) : Issued version s!"uid-{n}" := by
  intro m hm
  rwa [← uid_injective hm]

namespace Store

variable {α : Type} [Resource α] {R : α → α → Prop} {key : NamespacedName} {s s' : Store α} {version version' : Nat}
  {o : α}

/-- What stands under the name afterwards is what stood there before, changed as `R` says, or it was made in between. -/
structure Follows (R : α → α → Prop) (key : NamespacedName) (version : Nat) (s : Store α) (version' : Nat)
    (s' : Store α) : Prop where
  later : version ≤ version'
  either : ∀ o', s'.find key = some o' →
    (∃ o, s.find key = some o ∧ (Resource.metadata o').uid = (Resource.metadata o).uid ∧ R o o') ∨
      ∃ n, version ≤ n ∧ n < version' ∧ (Resource.metadata o').uid = s!"uid-{n}"

/-- What stands under the name carries a UID that was given out. -/
def Registered (key : NamespacedName) (s : Store α) (version : Nat) : Prop :=
  ∀ o, s.find key = some o → Issued version (Resource.metadata o).uid

/-- Whatever stands under the name with the UID of an object that was seen is as `R` says. -/
structure Tracks (R : α → α → Prop) (key : NamespacedName) (s : Store α) (version : Nat) (o : α) : Prop where
  issued : Issued version (Resource.metadata o).uid
  same : ∀ current, s.find key = some current →
    (Resource.metadata current).uid = (Resource.metadata o).uid → R o current

/-- The UIDs in a store were given out, also after a step. -/
theorem Registered.follows (hs : Registered key s version) (hf : Follows R key version s version' s') :
    Registered key s' version' := by
  intro o' ho'
  rcases hf.either o' ho' with ⟨o, ho, huid, -⟩ | ⟨n, -, hlt, huid⟩
  · rw [huid]
    exact (hs o ho).mono hf.later
  · rw [huid]
    exact issued_of_lt hlt

theorem tracks_of_find (hrefl : ∀ o, R o o) (hs : Registered key s version) (h : s.find key = some o) :
    Tracks R key s version o := by
  refine ⟨hs o h, fun current hcurrent _ => ?_⟩
  rw [h] at hcurrent
  cases hcurrent
  exact hrefl o

/-- Whoever changes the store, what is known of an object that was seen stays known. -/
theorem Tracks.follows (htrans : ∀ a b c, R a b → R b c → R a c) (ht : Tracks R key s version o)
    (hf : Follows R key version s version' s') : Tracks R key s' version' o := by
  refine ⟨ht.issued.mono hf.later, fun o' ho' hsame => ?_⟩
  rcases hf.either o' ho' with ⟨current, hcurrent, huid, hR⟩ | ⟨n, hle, -, huid⟩
  · exact htrans _ _ _ (ht.same current hcurrent (huid.symm.trans hsame)) hR
  · -- an object that was made in between has a UID of its own
    have hlt := ht.issued n (hsame.symm.trans huid)
    omega

/-! ## Changes of a store -/

/-- A step that leaves an entry follows it. -/
theorem follows_of_find (hrefl : ∀ o, R o o) (hle : version ≤ version') (hsame : s'.find key = s.find key) :
    Follows R key version s version' s' :=
  ⟨hle, fun o' ho' => Or.inl ⟨o', hsame ▸ ho', rfl, hrefl o'⟩⟩

/-- So does one that changes it as is allowed. -/
theorem follows_put {o' : α} (hrefl : ∀ o, R o o) (hle : version ≤ version')
    (ho : s.find (Resource.metadata o').key = some o) (huid : (Resource.metadata o').uid = (Resource.metadata o).uid)
    (hR : (Resource.metadata o').key = key → R o o') :
    Follows R key version s version' (s.put o') := by
  refine ⟨hle, fun current hcurrent => Or.inl ?_⟩
  rw [find_put] at hcurrent
  split_ifs at hcurrent with hkey
  · cases hcurrent
    exact ⟨o, hkey ▸ ho, huid, hR hkey.symm⟩
  · exact ⟨current, hcurrent, rfl, hrefl current⟩

/-- So does one that creates an object. -/
theorem follows_create (hrefl : ∀ o, R o o) (s : Store α) (version : Nat) (o : α) :
    Follows R key version s (version + 1) (s.create version o).2 := by
  rcases create_cases s version o with ⟨e, heq⟩ | ⟨-, heq⟩
  · rw [heq]
    exact follows_of_find hrefl (Nat.le_succ _) rfl
  · rw [heq]
    refine ⟨Nat.le_succ _, fun current hcurrent => ?_⟩
    rw [find_put] at hcurrent
    split_ifs at hcurrent
    · cases hcurrent
      exact Or.inr ⟨version, le_rfl, Nat.lt_succ_self _, by rw [metadata_asCreated]⟩
    · exact Or.inl ⟨current, hcurrent, rfl, hrefl current⟩

theorem follows_remove (hrefl : ∀ o, R o o) (hle : version ≤ version') (s : Store α) (gone : NamespacedName) :
    Follows R key version s version' (s.remove gone) := by
  refine ⟨hle, fun current hcurrent => ?_⟩
  rw [find_remove] at hcurrent
  split_ifs at hcurrent
  exact Or.inl ⟨current, hcurrent, rfl, hrefl current⟩

end Store
end KubeCell
