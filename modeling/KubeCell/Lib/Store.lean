import KubeCell.Core

/-!
# A store of versioned objects

What an API server does with the objects of one kind: it keeps each under its name, gives it a new version on every
change, refuses a change that was made against an old version, and takes an object that still has finalizers away only
when the last of them is gone. Nothing here depends on the kind; a kind comes in through `Resource`.

The operations take the version the change is to get, and answer as the server does.
-/

namespace KubeCell

/-- A kind of objects: where its metadata is, and how the part of it that is a subresource of its own, the status, is
taken over from another object (or is empty, when there is none to take it from). -/
class Resource (α : Type) where
  metadata : α → ObjectMeta
  withMetadata : α → ObjectMeta → α
  withStatusOf : α → Option α → α
  metadata_withMetadata : ∀ o m, metadata (withMetadata o m) = m
  metadata_withStatusOf : ∀ o source, metadata (withStatusOf o source) = metadata o

/-- The objects of one kind, each under its own name. -/
structure Store (α : Type) [Resource α] where
  objects : AList fun _ : NamespacedName => α
  keyed : ∀ key o, AList.lookup key objects = some o → (Resource.metadata o).key = key

/-- The errors of the server, by their cause. -/
def errNotFound : Err := ⟨.notFound, "not found"⟩
@[inherit_doc errNotFound] def errAlreadyExists : Err := ⟨.alreadyExists, "already exists"⟩
@[inherit_doc errNotFound] def errConflict : Err := ⟨.conflict, "the object has been modified"⟩
@[inherit_doc errNotFound] def errForbidden : Err :=
  ⟨.other, "no new finalizers can be added if the object is being deleted"⟩

namespace Store

variable {α : Type} [Resource α]

/-- The object under a name. -/
def find (s : Store α) (key : NamespacedName) : Option α := AList.lookup key s.objects

/-- All objects. -/
def list (s : Store α) : List α := s.objects.entries.map (·.2)

/-- The store without objects. -/
def empty : Store α := ⟨∅, fun _ _ h => nomatch h⟩

/-- Store an object under its name. -/
def put (s : Store α) (o : α) : Store α where
  objects := s.objects.insert (Resource.metadata o).key o
  keyed key o' h := by
    by_cases hkey : key = (Resource.metadata o).key
    · subst hkey
      rw [AList.lookup_insert, Option.some.injEq] at h
      rw [h]
    · rw [AList.lookup_insert_ne hkey] at h
      exact s.keyed key o' h

/-- Take the object under a name away. -/
def remove (s : Store α) (key : NamespacedName) : Store α where
  objects := s.objects.erase key
  keyed key' o h := by
    by_cases hkey : key' = key
    · subst hkey
      rw [AList.lookup_erase] at h
      nomatch h
    · rw [AList.lookup_erase_ne hkey] at h
      exact s.keyed key' o h

/-- Reading an object. -/
def get (s : Store α) (key : NamespacedName) : Except Err α :=
  match s.find key with
  | some o => .ok o
  | none => .error errNotFound

/-- An object as it is stored when it is created: the server sets its version and its identity,
and its status is empty. -/
def asCreated (version : Nat) (o : α) : α :=
  let o := Resource.withStatusOf o none
  Resource.withMetadata o
    { Resource.metadata o with
      uid := s!"uid-{version}", resourceVersion := version, generation := 1, deletionTimestamp := none }

/-- Creating an object. -/
def create (s : Store α) (version : Nat) (o : α) : Except Err α × Store α :=
  match s.find (Resource.metadata o).key with
  | some _ => (.error errAlreadyExists, s)
  | none => (.ok (asCreated version o), s.put (asCreated version o))

/-- An object as it is stored when it takes the place of `current`: the server keeps what is not
the writer's to change. -/
def asUpdated (version : Nat) (current o : α) : α :=
  let o := Resource.withStatusOf o (some current)
  Resource.withMetadata o
    { Resource.metadata o with
      uid := (Resource.metadata current).uid, resourceVersion := version,
        generation := (Resource.metadata current).generation
      deletionTimestamp := (Resource.metadata current).deletionTimestamp }

/-- The object waits for its finalizers to go. -/
def terminating (o : α) : Bool := (Resource.metadata o).deletionTimestamp.isSome

/-- Writing an object back: against the current version only, and an object that waits for its finalizers gets no new
ones and goes with the last of them. The specification is left alone by those who write so, and so is the generation. -/
def update (s : Store α) (version : Nat) (o : α) : Except Err α × Store α :=
  match s.find (Resource.metadata o).key with
  | none => (.error errNotFound, s)
  | some current =>
    if (Resource.metadata o).resourceVersion ≠ (Resource.metadata current).resourceVersion then (.error errConflict, s)
    else if terminating current &&
        (Resource.metadata o).finalizers.any fun f => !containsString (Resource.metadata current).finalizers f then
      (.error errForbidden, s)
    else if terminating current && (Resource.metadata o).finalizers.isEmpty then
      (.ok (asUpdated version current o), s.remove (Resource.metadata o).key)
    else (.ok (asUpdated version current o), s.put (asUpdated version current o))

/-- An object with the status of another, and a new version. -/
def withStatus (version : Nat) (current o : α) : α :=
  let current := Resource.withStatusOf current (some o)
  Resource.withMetadata current { Resource.metadata current with resourceVersion := version }

/-- Writing the status of an object back, against the current version only. -/
def updateStatus (s : Store α) (version : Nat) (o : α) : Except Err α × Store α :=
  match s.find (Resource.metadata o).key with
  | none => (.error errNotFound, s)
  | some current =>
    if (Resource.metadata o).resourceVersion ≠ (Resource.metadata current).resourceVersion then (.error errConflict, s)
    else (.ok (withStatus version current o), s.put (withStatus version current o))

/-- Applying an object, by a rule that says what is taken over from it: where there is none, it is created. -/
def apply (s : Store α) (merge : Nat → α → α → α) (version : Nat) (o : α) : Except Err α × Store α :=
  match s.find (Resource.metadata o).key with
  | none => (.ok (asCreated version o), s.put (asCreated version o))
  | some current => (.ok (merge version current o), s.put (merge version current o))

/-- An object whose deletion has been requested, which makes a generation of its own. -/
def asDeleted (version : Nat) (o : α) : α :=
  Resource.withMetadata o
    { Resource.metadata o with
      deletionTimestamp := some version, resourceVersion := version,
        generation := (Resource.metadata o).generation + 1 }

/-- Requesting the deletion of an object: without finalizers it is gone at once. -/
def delete (s : Store α) (version : Nat) (key : NamespacedName) : Except Err Unit × Store α :=
  match s.find key with
  | none => (.error errNotFound, s)
  | some current =>
    if (Resource.metadata current).finalizers.isEmpty then (.ok (), s.remove key)
    else if terminating current then (.ok (), s)
    else (.ok (), s.put (asDeleted version current))

/-! ## What is stored afterwards -/

/-- What is found stands under its key. -/
theorem find_keyed {s : Store α} {key : NamespacedName} {o : α} (h : s.find key = some o) :
    (Resource.metadata o).key = key :=
  s.keyed key o h

@[simp] theorem find_empty (key : NamespacedName) : (empty : Store α).find key = none := rfl

/-- What writing does to a lookup. -/
theorem find_put (s : Store α) (o : α) (key : NamespacedName) :
    (s.put o).find key = if key = (Resource.metadata o).key then some o else s.find key := by
  unfold find put
  split_ifs with h
  · rw [h, AList.lookup_insert]
  · rw [AList.lookup_insert_ne h]

theorem find_remove (s : Store α) (key key' : NamespacedName) :
    (s.remove key).find key' = if key' = key then none else s.find key' := by
  unfold find remove
  split_ifs with h
  · rw [h, AList.lookup_erase]
  · rw [AList.lookup_erase_ne h]

/-- A stored object is among all objects. -/
theorem mem_list_of_find {s : Store α} {key : NamespacedName} {o : α} (h : s.find key = some o) : o ∈ s.list :=
  List.mem_map.mpr ⟨⟨key, o⟩, AList.mem_lookup_iff.mp h, rfl⟩

@[simp] theorem metadata_asCreated (version : Nat) (o : α) : Resource.metadata (asCreated version o) =
    { Resource.metadata o with
      uid := s!"uid-{version}", resourceVersion := version, generation := 1, deletionTimestamp := none } := by
  simp [asCreated, Resource.metadata_withMetadata, Resource.metadata_withStatusOf]

@[simp] theorem metadata_asUpdated (version : Nat) (current o : α) : Resource.metadata (asUpdated version current o) =
    { Resource.metadata o with
      uid := (Resource.metadata current).uid, resourceVersion := version,
        generation := (Resource.metadata current).generation
      deletionTimestamp := (Resource.metadata current).deletionTimestamp } := by
  simp [asUpdated, Resource.metadata_withMetadata, Resource.metadata_withStatusOf]

@[simp] theorem metadata_withStatus (version : Nat) (current o : α) : Resource.metadata (withStatus version current o) =
    { Resource.metadata current with resourceVersion := version } := by
  simp [withStatus, Resource.metadata_withMetadata, Resource.metadata_withStatusOf]

@[simp] theorem metadata_asDeleted (version : Nat) (o : α) : Resource.metadata (asDeleted version o) =
    { Resource.metadata o with
      deletionTimestamp := some version, resourceVersion := version,
        generation := (Resource.metadata o).generation + 1 } := by
  simp [asDeleted, Resource.metadata_withMetadata]

/-- Reading succeeds with the object that is stored, and fails when there is none. -/
theorem get_ok_iff {s : Store α} {key : NamespacedName} {o : α} : s.get key = .ok o ↔ s.find key = some o := by
  unfold get
  cases s.find key <;> simp

/-- A read fails if nothing is there. -/
theorem get_error_iff {s : Store α} {key : NamespacedName} {e : Err} :
    s.get key = .error e ↔ s.find key = none ∧ e = errNotFound := by
  unfold get
  cases s.find key <;> simp [eq_comm]

/-! ## What each operation can do -/

/-- Creating fails and changes nothing, or stores the object where there was none. -/
theorem create_cases (s : Store α) (version : Nat) (o : α) :
    (∃ e, s.create version o = (.error e, s)) ∨
      s.find (Resource.metadata o).key = none ∧
        s.create version o = (.ok (asCreated version o), s.put (asCreated version o)) := by
  unfold create
  cases h : s.find (Resource.metadata o).key with
  | some _ => exact Or.inl ⟨_, rfl⟩
  | none => exact Or.inr ⟨rfl, rfl⟩

/-- Writing back fails and changes nothing, or takes the place of the object, which goes when it waited
for its finalizers only. -/
theorem update_cases (s : Store α) (version : Nat) (o : α) :
    (∃ e, s.update version o = (.error e, s)) ∨
      ∃ current, s.find (Resource.metadata o).key = some current ∧
        (s.update version o).1 = .ok (asUpdated version current o) ∧
        ((s.update version o).2 = s.put (asUpdated version current o) ∨
          (Resource.metadata o).finalizers = [] ∧ (s.update version o).2 = s.remove (Resource.metadata o).key) := by
  unfold update
  cases h : s.find (Resource.metadata o).key with
  | none => exact Or.inl ⟨_, rfl⟩
  | some current =>
    dsimp only
    split_ifs with hversion hadded hlast
    · exact Or.inl ⟨_, rfl⟩
    · exact Or.inl ⟨_, rfl⟩
    · simp only [Bool.and_eq_true, List.isEmpty_iff] at hlast
      exact Or.inr ⟨current, rfl, rfl, Or.inr ⟨hlast.2, rfl⟩⟩
    · exact Or.inr ⟨current, rfl, rfl, Or.inl rfl⟩

/-- Writing back against the current version, and without finalizers, succeeds. -/
theorem update_ok {s : Store α} {o current : α} (h : s.find (Resource.metadata o).key = some current)
    (hversion : (Resource.metadata o).resourceVersion = (Resource.metadata current).resourceVersion)
    (hfinalizers : (Resource.metadata o).finalizers = []) (version : Nat) :
    (s.update version o).1 = .ok (asUpdated version current o) := by
  unfold update
  rw [h]
  dsimp only
  rw [if_neg (by simp [hversion]), if_neg (by simp [hfinalizers])]
  split_ifs <;> rfl

/-- Writing a status back fails and changes nothing, or gives the object the status. -/
theorem updateStatus_cases (s : Store α) (version : Nat) (o : α) :
    (∃ e, s.updateStatus version o = (.error e, s)) ∨
      ∃ current, s.find (Resource.metadata o).key = some current ∧
        s.updateStatus version o = (.ok (withStatus version current o), s.put (withStatus version current o)) := by
  unfold updateStatus
  cases h : s.find (Resource.metadata o).key with
  | none => exact Or.inl ⟨_, rfl⟩
  | some current =>
    dsimp only
    split_ifs
    · exact Or.inl ⟨_, rfl⟩
    · exact Or.inr ⟨current, rfl, rfl⟩

/-- Applying stores the object where there was none, and merges it otherwise. -/
theorem apply_cases (s : Store α) (merge : Nat → α → α → α) (version : Nat) (o : α) :
    s.find (Resource.metadata o).key = none ∧
        s.apply merge version o = (.ok (asCreated version o), s.put (asCreated version o)) ∨
      ∃ current, s.find (Resource.metadata o).key = some current ∧
        s.apply merge version o = (.ok (merge version current o), s.put (merge version current o)) := by
  unfold apply
  cases h : s.find (Resource.metadata o).key with
  | none => exact Or.inl ⟨rfl, rfl⟩
  | some current => exact Or.inr ⟨current, rfl, rfl⟩

/-- Requesting a deletion fails and changes nothing, or takes the object away, or marks it. -/
theorem delete_cases (s : Store α) (version : Nat) (key : NamespacedName) :
    (∃ e, s.delete version key = (.error e, s)) ∧ s.find key = none ∨
      ∃ current, s.find key = some current ∧ (s.delete version key).1 = .ok () ∧
        ((Resource.metadata current).finalizers = [] ∧ (s.delete version key).2 = s.remove key ∨
          (Resource.metadata current).finalizers ≠ [] ∧ terminating current = true ∧ (s.delete version key).2 = s ∨
          (Resource.metadata current).finalizers ≠ [] ∧ terminating current = false ∧
            (s.delete version key).2 = s.put (asDeleted version current)) := by
  unfold delete
  cases h : s.find key with
  | none => exact Or.inl ⟨⟨_, rfl⟩, rfl⟩
  | some current =>
    refine Or.inr ⟨current, rfl, ?_⟩
    dsimp only
    split_ifs with hfinalizers hterminating
    · exact ⟨rfl, Or.inl ⟨List.isEmpty_iff.mp hfinalizers, rfl⟩⟩
    · exact ⟨rfl, Or.inr (Or.inl ⟨fun hnil => hfinalizers (List.isEmpty_iff.mpr hnil), hterminating, rfl⟩)⟩
    · exact ⟨rfl, Or.inr (Or.inr ⟨fun hnil => hfinalizers
        (List.isEmpty_iff.mpr hnil), by simpa using hterminating, rfl⟩)⟩

/-! ## Identity -/

/-- Whatever stands under the name afterwards is the object that stood there before. -/
def Keeps (key : NamespacedName) (s s' : Store α) : Prop :=
  ∀ o', s'.find key = some o' → ∃ o, s.find key = some o ∧ (Resource.metadata o').uid = (Resource.metadata o).uid

theorem Keeps.refl (key : NamespacedName) (s : Store α) : Keeps key s s := fun o' h => ⟨o', h, rfl⟩

theorem Keeps.trans {key : NamespacedName} {s s' s'' : Store α} (h : Keeps key s s')
    (h' : Keeps key s' s'') : Keeps key s s'' := by
  intro o'' ho''
  obtain ⟨o', ho', huid'⟩ := h' o'' ho''
  obtain ⟨o, ho, huid⟩ := h o' ho'
  exact ⟨o, ho, huid'.trans huid⟩

/-- Storing an object with the identity of the one that stands under its name. -/
theorem keeps_put {s : Store α} {o : α} (current : α) (h : s.find (Resource.metadata o).key = some current)
    (huid : (Resource.metadata o).uid = (Resource.metadata current).uid) (key : NamespacedName) :
    Keeps key s (s.put o) := by
  intro o' ho'
  rw [find_put] at ho'
  split_ifs at ho' with hkey
  · cases ho'
    exact ⟨current, hkey ▸ h, huid⟩
  · exact ⟨o', ho', rfl⟩

/-- Writing back keeps who stands under a name. -/
theorem keeps_update (s : Store α) (version : Nat) (o : α) (key : NamespacedName) :
    Keeps key s (s.update version o).2 := by
  rcases update_cases s version o with ⟨e, heq⟩ | ⟨current, hfind, -, hput | ⟨-, hremove⟩⟩
  · rw [heq]
    exact Keeps.refl key s
  · rw [hput]
    refine keeps_put current ?_ ?_ key
    · rw [metadata_asUpdated]
      exact hfind
    · rw [metadata_asUpdated]
  · rw [hremove]
    intro o' ho'
    rw [find_remove] at ho'
    split_ifs at ho'
    exact ⟨o', ho', rfl⟩

/-- So does writing a status back. -/
theorem keeps_updateStatus (s : Store α) (version : Nat) (o : α) (key : NamespacedName) :
    Keeps key s (s.updateStatus version o).2 := by
  rcases updateStatus_cases s version o with ⟨e, heq⟩ | ⟨current, hfind, heq⟩
  · rw [heq]
    exact Keeps.refl key s
  · rw [heq]
    have hkey : (Resource.metadata current).key = (Resource.metadata o).key := find_keyed hfind
    refine keeps_put current ?_ ?_ key
    · rw [metadata_withStatus]
      exact hkey.symm ▸ hfind
    · rw [metadata_withStatus]

end Store
end KubeCell
