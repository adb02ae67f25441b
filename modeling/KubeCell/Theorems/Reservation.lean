import KubeCell.Admission

/-!
# The reservation of reflected system pods

The containers of a reflected system pod are given requests and limits of the reservation where they have declared
none. A value that is missing is put on the right side of the one that is there, so a request is never above its
limit, and what a container has declared stays as it is.
-/

namespace KubeCell

/-- The resources that a reservation fills. -/
def reservedResources : List String := ["cpu", "memory"]

/-- Where both are there, the request of a resource is not above its limit. -/
def ResourceRequirements.OrderedAt (resources : ResourceRequirements) (name : String) : Prop :=
  ∀ request limit, AList.lookup name resources.requests = some request →
    AList.lookup name resources.limits = some limit →
    request.value ≤ limit.value

/-- The resources of a container after a reservation, against those it had before. -/
structure Filled (reservation : ResourceList) (before after : ResourceRequirements) : Prop where
  both : ∀ name ∈ reservedResources, name ∈ reservation → name ∈ after.requests ∧ name ∈ after.limits
  requests : ∀ name request, AList.lookup name before.requests = some request →
    AList.lookup name after.requests = some request
  limits : ∀ name limit, AList.lookup name before.limits = some limit → AList.lookup name after.limits = some limit
  others : ∀ name, name ∉ reservedResources → AList.lookup name after.requests = AList.lookup name before.requests ∧
    AList.lookup name after.limits = AList.lookup name before.limits
  ordered : ∀ name, before.OrderedAt name → after.OrderedAt name
  undeclared : ∀ name ∈ reservedResources, ∀ reserved, AList.lookup name reservation = some reserved →
    name ∉ before.requests → name ∉ before.limits →
      AList.lookup name after.requests = some reserved ∧ AList.lookup name after.limits = some reserved

/-- A container after a reservation: only its resources differ. -/
def FilledContainer (reservation : ResourceList) (before after : Container) : Prop :=
  after = { before with resources := after.resources } ∧ Filled reservation before.resources after.resources

namespace ReservationAux

/-- The request of a resource after its reservation, from what is reserved and what was declared. -/
def filledRequest : Option Quantity → Option Quantity → Option Quantity → Option Quantity
  | some reserved, none, none => some reserved
  | some reserved, none, some limit => some (if reserved.value > limit.value then limit else reserved)
  | _, request, _ => request

/-- The limit of a resource after its reservation. -/
def filledLimit : Option Quantity → Option Quantity → Option Quantity → Option Quantity
  | some reserved, none, none => some reserved
  | some reserved, some request, none => some (if reserved.value < request.value then request else reserved)
  | _, _, limit => limit

variable {reservation : ResourceList} {resources : ResourceRequirements} {name : String}

/-! ## One resource -/

/-- A reservation changes the resource it is for, and no other. -/
theorem lookup_reserveResource (reservation : ResourceList) (resources : ResourceRequirements) (name key : String) :
    AList.lookup key (reserveResource reservation resources name).1.requests =
      (if key = name then filledRequest (AList.lookup name reservation) (AList.lookup name resources.requests)
        (AList.lookup name resources.limits) else AList.lookup key resources.requests) ∧
    AList.lookup key (reserveResource reservation resources name).1.limits =
      (if key = name then filledLimit (AList.lookup name reservation) (AList.lookup name resources.requests)
        (AList.lookup name resources.limits) else AList.lookup key resources.limits) := by
  unfold reserveResource
  by_cases hkey : key = name
  · subst hkey
    rw [if_pos rfl, if_pos rfl]
    cases AList.lookup key reservation with
    | none => exact ⟨by simp [filledRequest], by simp [filledLimit]⟩
    | some reserved =>
      cases hrequest : AList.lookup key resources.requests <;> cases hlimit : AList.lookup key resources.limits <;>
        simp [filledRequest, filledLimit, hrequest, hlimit]
  · rw [if_neg hkey, if_neg hkey]
    cases AList.lookup name reservation with
    | none => exact ⟨rfl, rfl⟩
    | some reserved =>
      cases AList.lookup name resources.requests <;> cases AList.lookup name resources.limits <;>
        simp [AList.lookup_insert_ne hkey]

/-- A resource that is not reserved, or has both values, is left as it is. -/
theorem reserveResource_of_complete
    (h : name ∈ reservation → name ∈ resources.requests ∧ name ∈ resources.limits) :
    reserveResource reservation resources name = (resources, false) := by
  unfold reserveResource
  cases hreserved : AList.lookup name reservation with
  | none => rfl
  | some reserved =>
    obtain ⟨hrequest, hlimit⟩ := h (AList.lookup_isSome.mp (by rw [hreserved]; rfl))
    obtain ⟨request, hrequest⟩ := Option.isSome_iff_exists.mp (AList.lookup_isSome.mpr hrequest)
    obtain ⟨limit, hlimit⟩ := Option.isSome_iff_exists.mp (AList.lookup_isSome.mpr hlimit)
    simp only [hrequest, hlimit]

/-! ## One container -/

/-- The resources of a container after the reservation: the two reserved resources are filled,
each from its own values. -/
theorem lookup_reserveContainer (reservation : ResourceList) (container : Container) (key : String) :
    AList.lookup key (reserveContainer reservation container).1.resources.requests =
      (if key ∈ reservedResources then filledRequest (AList.lookup key reservation)
        (AList.lookup key container.resources.requests)
        (AList.lookup key container.resources.limits) else AList.lookup key container.resources.requests) ∧
    AList.lookup key (reserveContainer reservation container).1.resources.limits =
      (if key ∈ reservedResources then filledLimit (AList.lookup key reservation)
        (AList.lookup key container.resources.requests)
        (AList.lookup key container.resources.limits) else AList.lookup key container.resources.limits) := by
  have hmemory := lookup_reserveResource reservation
    (reserveResource reservation container.resources "cpu").1 "memory" key
  have hcpu := lookup_reserveResource reservation container.resources "cpu" key
  have hkept := lookup_reserveResource reservation container.resources "cpu" "memory"
  rw [if_neg (by decide), if_neg (by decide)] at hkept
  rw [hkept.1, hkept.2, hcpu.1, hcpu.2] at hmemory
  show AList.lookup key (reserveResource reservation
    (reserveResource reservation container.resources "cpu").1 "memory").1.requests = _ ∧
    AList.lookup key (reserveResource reservation
      (reserveResource reservation container.resources "cpu").1 "memory").1.limits = _
  rw [hmemory.1, hmemory.2]
  by_cases hm : key = "memory"
  · subst hm
    simp [reservedResources]
  · by_cases hc : key = "cpu"
    · subst hc
      simp [reservedResources]
    · simp [reservedResources, hm, hc]

/-- What the filled values are, whatever was reserved and declared. -/
theorem filled_isSome (reserved : Quantity) (request limit : Option Quantity) :
    (filledRequest (some reserved) request limit).isSome ∧ (filledLimit (some reserved) request limit).isSome := by
  cases request <;> cases limit <;> exact ⟨rfl, rfl⟩

/-- A request that is there stays. -/
theorem filledRequest_some (reserved limit : Option Quantity) (request : Quantity) :
    filledRequest reserved (some request) limit = some request := by
  cases reserved <;> rfl

/-- So does a limit that is there. -/
theorem filledLimit_some (reserved request : Option Quantity) (limit : Quantity) :
    filledLimit reserved request (some limit) = some limit := by
  cases reserved <;> cases request <;> rfl

/-- The missing value is chosen on the right side of the other one. -/
theorem filled_ordered {reserved request limit : Option Quantity}
    (h : ∀ r l, request = some r → limit = some l → r.value ≤ l.value) {r l : Quantity}
    (hr : filledRequest reserved request limit = some r)
    (hl : filledLimit reserved request limit = some l) : r.value ≤ l.value := by
  cases reserved with
  | none => exact h r l hr hl
  | some reserved =>
    cases request with
    | none =>
      cases limit with
      | none =>
        cases hr
        cases hl
        exact le_refl _
      | some limit =>
        cases hr
        cases hl
        split_ifs with hgt
        · exact le_refl _
        · exact not_lt.mp hgt
    | some request =>
      cases limit with
      | none =>
        cases hr
        cases hl
        split_ifs with hlt
        · exact le_refl _
        · exact not_lt.mp hlt
      | some limit => exact h r l hr hl

/-- A container is filled by its reservation. -/
theorem filled_reserveContainer (reservation : ResourceList) (container : Container) :
    FilledContainer reservation container (reserveContainer reservation container).1 := by
  refine ⟨rfl, ?_⟩
  constructor
  case both =>
    intro name hname hreserved
    obtain ⟨reserved, hlookup⟩ := Option.isSome_iff_exists.mp (AList.lookup_isSome.mpr hreserved)
    obtain ⟨hrequests, hlimits⟩ := lookup_reserveContainer reservation container name
    rw [if_pos hname, hlookup] at hrequests hlimits
    have hsome := filled_isSome reserved (AList.lookup name container.resources.requests)
      (AList.lookup name container.resources.limits)
    exact ⟨AList.lookup_isSome.mp (by rw [hrequests]; exact hsome.1), AList.lookup_isSome.mp
      (by rw [hlimits]; exact hsome.2)⟩
  case requests =>
    intro name request hrequest
    rw [(lookup_reserveContainer reservation container name).1, hrequest, filledRequest_some, ite_self]
  case limits =>
    intro name limit hlimit
    rw [(lookup_reserveContainer reservation container name).2, hlimit, filledLimit_some, ite_self]
  case others =>
    intro name hname
    obtain ⟨hrequests, hlimits⟩ := lookup_reserveContainer reservation container name
    rw [if_neg hname] at hrequests hlimits
    exact ⟨hrequests, hlimits⟩
  case ordered =>
    intro name hbefore request limit hrequest hlimit
    obtain ⟨hrequests, hlimits⟩ := lookup_reserveContainer reservation container name
    rw [hrequests] at hrequest
    rw [hlimits] at hlimit
    by_cases hname : name ∈ reservedResources
    · rw [if_pos hname] at hrequest hlimit
      exact filled_ordered hbefore hrequest hlimit
    · rw [if_neg hname] at hrequest hlimit
      exact hbefore request limit hrequest hlimit
  case undeclared =>
    intro name hname reserved hreserved hrequest hlimit
    obtain ⟨hrequests, hlimits⟩ := lookup_reserveContainer reservation container name
    rw [if_pos hname, hreserved, AList.lookup_eq_none.mpr hrequest, AList.lookup_eq_none.mpr hlimit]
      at hrequests hlimits
    exact ⟨hrequests, hlimits⟩

/-- A container that has been filled is not filled again. -/
theorem reserveContainer_of_filled {before after : Container} (h : FilledContainer reservation before after) :
    reserveContainer reservation after = (after, false) := by
  have hcpu : reserveResource reservation after.resources "cpu" = (after.resources, false) :=
    reserveResource_of_complete (h.2.both "cpu" (by decide))
  have hmemory : reserveResource reservation after.resources "memory" = (after.resources, false) :=
    reserveResource_of_complete (h.2.both "memory" (by decide))
  simp only [reserveContainer, hcpu, hmemory, Bool.or_self]

/-! ## The containers of a pod -/

/-- Every container is filled by its reservation. -/
theorem forall₂_filled (reservation : ResourceList) (containers : List Container) :
    List.Forall₂ (FilledContainer reservation) containers
      ((containers.map (reserveContainer reservation)).map (·.1)) := by
  rw [List.map_map, List.forall₂_map_right_iff]
  exact List.forall₂_same.mpr fun container _ => filled_reserveContainer reservation container

/-- A filled container is not changed again. -/
theorem map_reserveContainer_of_filled {before after : List Container}
    (h : List.Forall₂ (FilledContainer reservation) before after) :
    after.map (reserveContainer reservation) = after.map fun container => (container, false) := by
  induction h with
  | nil => rfl
  | cons hfilled _ ih => rw [List.map_cons, List.map_cons, reserveContainer_of_filled hfilled, ih]

/-- With nothing reserved there is nothing to fill. -/
theorem filledContainer_refl (h : reservation.entries = []) (container : Container) :
    FilledContainer reservation container container := by
  have hnone : ∀ name, name ∉ reservation := by
    intro name hmem
    have : name ∈ reservation.entries.keys := hmem
    rw [h] at this
    nomatch this
  refine ⟨rfl, ?_⟩
  constructor
  case both => exact fun name _ hreserved => absurd hreserved (hnone name)
  case requests => exact fun _ _ hrequest => hrequest
  case limits => exact fun _ _ hlimit => hlimit
  case others => exact fun _ _ => ⟨rfl, rfl⟩
  case ordered => exact fun _ hbefore => hbefore
  case undeclared =>
    intro name _ reserved hreserved
    exact absurd (AList.lookup_isSome.mp (by rw [hreserved]; rfl)) (hnone name)

end ReservationAux

open ReservationAux

/-- The reservation fills the containers of a reflected system pod and changes nothing else of it; a second
time it changes nothing. -/
theorem reservation_fills (pod : Pod) (reservation : ResourceList)
    (hnamespace : pod.metadata.annotations.get k3kResourceNamespace = childSystemNamespace)
    (hcluster : pod.metadata.labels.get k3kClusterNameLabel ≠ "") :
    ∃ initContainers containers, (mutateReflectedSystemPod pod reservation).1 =
        { pod with initContainers := initContainers, containers := containers } ∧
      List.Forall₂ (FilledContainer reservation) pod.initContainers initContainers ∧
      List.Forall₂ (FilledContainer reservation) pod.containers containers ∧
      mutateReflectedSystemPod (mutateReflectedSystemPod pod reservation).1 reservation =
        ((mutateReflectedSystemPod pod reservation).1, false) := by
  by_cases hempty : reservation.entries = []
  · have hkept : mutateReflectedSystemPod pod reservation = (pod, false) := if_pos (Or.inr (Or.inr hempty))
    rw [hkept]
    have hrefl : ∀ containers : List Container, List.Forall₂ (FilledContainer reservation) containers containers :=
      fun containers =>
      List.forall₂_same.mpr fun container _ => filledContainer_refl hempty container
    exact ⟨pod.initContainers, pod.containers, rfl, hrefl _, hrefl _, hkept⟩
  · have hfirst : ∀ target : Pod, target.metadata = pod.metadata →
        ¬(target.metadata.annotations.get k3kResourceNamespace ≠ childSystemNamespace ∨
          target.metadata.labels.get k3kClusterNameLabel = "" ∨ reservation.entries = []) := by
      intro target hmetadata
      rw [hmetadata]
      rintro (h | h | h)
      · exact h hnamespace
      · exact hcluster h
      · exact hempty h
    have hinit := forall₂_filled reservation pod.initContainers
    have hcontainers := forall₂_filled reservation pod.containers
    rw [mutateReflectedSystemPod, if_neg (hfirst pod rfl)]
    refine ⟨_, _, rfl, hinit, hcontainers, ?_⟩
    rw [mutateReflectedSystemPod, if_neg (hfirst _ rfl)]
    dsimp only
    rw [map_reserveContainer_of_filled hinit, map_reserveContainer_of_filled hcontainers]
    simp

/-- A pod with one container that has declared a request of one processor, under a reservation of half a processor. -/
theorem reservation_fills_sample :
    let pod : Pod :=
      { metadata :=
          { name := "dns"
            annotations := GoMap.ofList [(k3kResourceNamespace, childSystemNamespace)]
            labels := GoMap.ofList [(k3kClusterNameLabel, "vc-1")] }
        containers := [{ name := "dns", resources := ⟨GoMap.ofList [("cpu", Quantity.milli 1000)], ∅⟩ }] }
    let reservation : ResourceList := GoMap.ofList [("cpu", Quantity.milli 500)]
    (mutateReflectedSystemPod pod reservation).1.containers.map (fun c => AList.lookup "cpu" c.resources.limits) =
        [some (Quantity.milli 1000)] ∧
      mutateReflectedSystemPod (mutateReflectedSystemPod pod reservation).1 reservation =
        ((mutateReflectedSystemPod pod reservation).1, false) := by
  intro pod reservation
  obtain ⟨_, _, _, _, _, hsecond⟩ := reservation_fills pod reservation (by decide +kernel) (by decide +kernel)
  exact ⟨by decide +kernel, hsecond⟩

end KubeCell
