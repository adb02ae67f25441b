import KubeCell.Helpers

/-!
# What a pod is accounted for

`EffectivePodRequests` against what the scheduler reserves for a pod. The scheduler counts an init container that is
restarted always with the containers, and with the init containers that start after it; and it takes the request of
the pod itself, where there is one, in place of all that. The account knows neither: it takes the sum of the
containers or the largest init container.
-/

namespace KubeCell

/-- What a container asks for of a resource. -/
def Container.request (container : Container) (name : String) : Int := (container.resources.requests.qty name).value

/-- An init container that goes on running beside the containers. -/
def Container.restartable (container : Container) : Bool := container.restartPolicy == some "Always"

/-- What containers ask for of a resource together. -/
def requestSum (containers : List Container) (name : String) : Int := (containers.map (·.request name)).sum

/-- What each ordinary init container needs while it runs: its request, and those of the restartable
ones that run by then. -/
def initPeaks (name : String) : Int → List Container → List Int
  | _, [] => []
  | running, container :: rest =>
    if container.restartable then initPeaks name (running + container.request name) rest
    else (container.request name + running) :: initPeaks name running rest

/-- The request of the pod itself for a resource, where the scheduler looks at it. -/
def Pod.podLevelRequest (pod : Pod) (name : String) : Option Quantity :=
  if name = "cpu" ∨ name = "memory" then pod.resources.bind fun resources => AList.lookup name resources.requests
    else none

/-- All that the containers and the restartable init containers of a pod ask for. -/
def Pod.runningRequest (pod : Pod) (name : String) : Int :=
  requestSum pod.containers name + requestSum (pod.initContainers.filter (·.restartable)) name

/-- What the scheduler reserves for a pod of a resource. -/
def Pod.schedulerRequest (pod : Pod) (name : String) : Int :=
  (match pod.podLevelRequest name with
    | some request => request.value
    | none => (initPeaks name 0 pod.initContainers).foldl max (pod.runningRequest name)) + (pod.overhead.qty name).value

/-- The account of a pod is never below what the scheduler reserves, and is the same for a pod without
the two newer features. -/
def Pod.Accounted (pod : Pod) : Prop :=
  (∀ name, pod.schedulerRequest name ≤ ((effectivePodRequests pod).qty name).value) ∧
    ((∀ container ∈ pod.initContainers, container.restartable = false) → (∀ name, pod.podLevelRequest name = none) →
      ∀ name, ((effectivePodRequests pod).qty name).value = pod.schedulerRequest name)

/-- The containers together, or one init container alone, ask for as much of a resource. -/
def Pod.Asks (pod : Pod) (name : String) (amount : Int) : Prop :=
  amount ≤ requestSum pod.containers name ∨
    ∃ container ∈ pod.initContainers, ∃ request, AList.lookup name container.resources.requests = some request ∧
      amount ≤ request.value

/-- The request of the pod itself, or else all that runs at a time, is covered by the containers or
by one init container. -/
def Pod.Covered (pod : Pod) : Prop :=
  ∀ name,
    match pod.podLevelRequest name with
    | some request => pod.Asks name request.value
    | none => pod.Asks name (pod.runningRequest name) ∧ ∀ peak ∈ initPeaks name 0 pod.initContainers, pod.Asks name peak

namespace AccountingAux

/-! ## The largest init container -/

/-- The larger of what is kept and what comes. -/
def larger (current : Option Quantity) (quantity : Quantity) : Option Quantity :=
  match current with
  | none => some quantity
  | some current => if quantity.value > current.value then some quantity else some current

/-- A bound is below the larger of two if it is below one of them. -/
theorem le_larger_iff (current : Option Quantity) (quantity : Quantity) (amount : Int) :
    (∃ q, larger current quantity = some q ∧ amount ≤ q.value) ↔
      (∃ q, current = some q ∧ amount ≤ q.value) ∨ amount ≤ quantity.value := by
  cases current with
  | none => simp [larger]
  | some current =>
    simp only [larger]
    split_ifs with h <;> simp only [Option.some.injEq, exists_eq_left'] <;> omega

/-- One request of an init container against what is kept. -/
def raise (maximum : ResourceList) (e : Σ _ : String, Quantity) : ResourceList :=
  match AList.lookup e.1 maximum with
  | none => maximum.insert e.1 e.2
  | some current => if e.2.value > current.value then maximum.insert e.1 e.2 else maximum

/-- What raising one entry does to a lookup. -/
theorem lookup_raise (maximum : ResourceList) (e : Σ _ : String, Quantity) (key : String) :
    AList.lookup key (raise maximum e) =
      if key = e.1 then larger (AList.lookup e.1 maximum) e.2 else AList.lookup key maximum := by
  unfold raise
  by_cases hkey : key = e.1
  · subst hkey
    rw [if_pos rfl]
    cases hcurrent : AList.lookup e.1 maximum with
    | none => simp [larger]
    | some current =>
      simp only [larger]
      split_ifs with h
      · simp
      · exact hcurrent
  · rw [if_neg hkey]
    cases AList.lookup e.1 maximum with
    | none => exact AList.lookup_insert_ne hkey
    | some current =>
      dsimp only
      split_ifs with h
      · exact AList.lookup_insert_ne hkey
      · rfl

/-- One init container reaches an amount, or what is kept already did. -/
theorem le_raised_iff (maximum requests : ResourceList) (name : String) (amount : Int) :
    (∃ q, AList.lookup name (requests.entries.foldl raise maximum) = some q ∧ amount ≤ q.value) ↔
      (∃ q, AList.lookup name maximum = some q ∧ amount ≤ q.value) ∨
        ∃ request, AList.lookup name requests = some request ∧ amount ≤ request.value := by
  rw [GoMap.lookup_foldl_step raise (fun _ => larger) lookup_raise]
  cases AList.lookup name requests with
  | none => simp
  | some quantity => simp only [le_larger_iff, Option.some.injEq, exists_eq_left']

/-- What an init container asks for at least is what the largest one asks for at least. -/
theorem le_initMaximum_iff (initContainers : List Container) (name : String) (amount : Int) :
    (∃ q, AList.lookup name (initMaximum initContainers) = some q ∧ amount ≤ q.value) ↔
      ∃ container ∈ initContainers, ∃ request, AList.lookup name container.resources.requests = some request ∧
        amount ≤ request.value := by
  have hloop : ∀ (containers : List Container) (maximum : ResourceList),
      (∃ q, AList.lookup name
          (containers.foldl (fun maximum container => container.resources.requests.entries.foldl raise maximum)
            maximum) = some q ∧
          amount ≤ q.value) ↔
        (∃ q, AList.lookup name maximum = some q ∧ amount ≤ q.value) ∨
          ∃ container ∈ containers, ∃ request, AList.lookup name container.resources.requests = some request ∧
            amount ≤ request.value := by
    intro containers
    induction containers with
    | nil => simp
    | cons container rest ih =>
      intro maximum
      rw [List.foldl_cons, ih, le_raised_iff, or_assoc]
      simp only [List.mem_cons, exists_eq_or_imp]
  rw [show initMaximum initContainers =
    initContainers.foldl (fun maximum container => container.resources.requests.entries.foldl raise maximum)
      ∅ from rfl, hloop]
  simp

/-! ## The account -/

/-- The requests of the containers add up. -/
theorem qty_sum (containers : List Container) (result : ResourceList) (name : String) :
    ((containers.foldl (fun result c => result.addAll c.resources.requests) result).qty name).value =
      (result.qty name).value + requestSum containers name := by
  induction containers generalizing result with
  | nil => simp [requestSum]
  | cons container rest ih =>
    rw [List.foldl_cons, ih, ResourceList.qty_addAll_value, add_assoc]
    rfl

/-- One request of the largest init container against the sum. -/
theorem lookup_raiseSum (result : ResourceList) (e : Σ _ : String, Quantity) (key : String) :
    AList.lookup key (if e.2.value > (ResourceList.qty result e.1).value then result.insert e.1 e.2 else result) =
      if key = e.1 then if e.2.value > ((AList.lookup e.1 result).getD Quantity.zero).value then some e.2
        else AList.lookup e.1 result
      else AList.lookup key result := by
  by_cases hlt : e.2.value > ((AList.lookup e.1 result).getD Quantity.zero).value
  · rw [ResourceList.qty, if_pos hlt, if_pos hlt]
    split_ifs with hkey
    · rw [hkey, AList.lookup_insert]
    · exact AList.lookup_insert_ne hkey
  · rw [ResourceList.qty, if_neg hlt, if_neg hlt]
    split_ifs with hkey
    · rw [hkey]
    · rfl

/-- The sum is raised to the largest init container where that is larger. -/
theorem qty_raised (maximum result : ResourceList) (name : String) :
    ((maximum.entries.foldl
        (fun result e => if e.2.value > (ResourceList.qty result e.1).value then result.insert e.1 e.2 else result)
          result).qty name).value =
      match AList.lookup name maximum with
      | some quantity => max quantity.value (result.qty name).value
      | none => (result.qty name).value := by
  rw [ResourceList.qty, GoMap.lookup_foldl_step _
    (fun _ current (quantity : Quantity) =>
      if quantity.value > (current.getD Quantity.zero).value then some quantity else current)
    lookup_raiseSum]
  cases AList.lookup name maximum with
  | none => rfl
  | some quantity =>
    dsimp only
    rw [ResourceList.qty]
    split_ifs with hlt
    · exact (max_eq_left (le_of_lt hlt)).symm
    · exact (max_eq_right (not_lt.mp hlt)).symm

/-- The account of a pod reaches an amount when its containers together or one of its init containers do. -/
theorem le_effective_iff (pod : Pod) (name : String) (amount : Int) :
    amount + (pod.overhead.qty name).value ≤ ((effectivePodRequests pod).qty name).value ↔ pod.Asks name amount := by
  unfold effectivePodRequests Pod.Asks
  rw [ResourceList.qty_addAll_value, qty_raised, qty_sum, ResourceList.qty_empty, Quantity.zero_value, zero_add,
    add_le_add_iff_right,
    ← le_initMaximum_iff]
  cases AList.lookup name (initMaximum pod.initContainers) with
  | none => simp
  | some quantity => simp [or_comm]

/-! ## The scheduler -/

/-- A bound is above a maximum if it is above everything. -/
theorem foldl_max_le_iff (peaks : List Int) (first bound : Int) :
    peaks.foldl max first ≤ bound ↔ first ≤ bound ∧ ∀ peak ∈ peaks, peak ≤ bound := by
  rw [List.max?_le_iff (show (first :: peaks).max? = some (peaks.foldl max first) from rfl)]
  simp

/-- Without a restartable init container the ordinary ones run alone. -/
theorem initPeaks_ordinary {initContainers : List Container}
    (h : ∀ container ∈ initContainers, container.restartable = false) (name : String) :
    initPeaks name 0 initContainers = initContainers.map (·.request name) := by
  induction initContainers with
  | nil => rfl
  | cons container rest ih =>
    rw [initPeaks, if_neg (by simp [h container List.mem_cons_self]),
      ih fun c hc => h c (List.mem_cons_of_mem _ hc), add_zero]
    rfl

/-- Without the two newer features the scheduler reserves what some of the containers ask for. -/
theorem effective_le_scheduler {pod : Pod} (hinit : ∀ container ∈ pod.initContainers, container.restartable = false)
    {name : String} (hpod : pod.podLevelRequest name = none) :
    ((effectivePodRequests pod).qty name).value ≤ pod.schedulerRequest name := by
  have hreached : pod.Asks name (((effectivePodRequests pod).qty name).value - (pod.overhead.qty name).value) :=
    (le_effective_iff pod name _).mp (by omega)
  have hbound : requestSum pod.containers name ≤ (initPeaks name 0 pod.initContainers).foldl max
    (pod.runningRequest name) ∧
      ∀ container ∈ pod.initContainers,
        container.request name ≤ (initPeaks name 0 pod.initContainers).foldl max (pod.runningRequest name) := by
    have hle := (foldl_max_le_iff (initPeaks name 0 pod.initContainers) (pod.runningRequest name) _).mp (le_refl _)
    refine ⟨le_trans (le_of_eq ?_) hle.1, fun container hcontainer => hle.2 _ ?_⟩
    · have hnone : pod.initContainers.filter (·.restartable) = [] :=
        List.filter_eq_nil_iff.mpr fun c hc => by simp [hinit c hc]
      rw [Pod.runningRequest, hnone]
      simp [requestSum]
    · rw [initPeaks_ordinary hinit]
      exact List.mem_map_of_mem hcontainer
  unfold Pod.schedulerRequest
  rw [hpod]
  dsimp only
  rcases hreached with hsum | ⟨container, hcontainer, request, hrequest, hle⟩
  · have := hbound.1
    omega
  · have := hbound.2 container hcontainer
    rw [Container.request, ResourceList.qty, hrequest, Option.getD_some] at this
    omega

/-- When the account covers what the scheduler reserves. -/
theorem scheduler_le_iff (pod : Pod) (name : String) :
    pod.schedulerRequest name ≤ ((effectivePodRequests pod).qty name).value ↔
      match pod.podLevelRequest name with
      | some request => pod.Asks name request.value
      | none =>
        pod.Asks name (pod.runningRequest name) ∧ ∀ peak ∈ initPeaks name 0 pod.initContainers, pod.Asks name peak := by
  unfold Pod.schedulerRequest
  cases pod.podLevelRequest name with
  | some request => exact le_effective_iff pod name _
  | none =>
    dsimp only
    rw [← le_sub_iff_add_le, foldl_max_le_iff]
    simp only [le_sub_iff_add_le, le_effective_iff]

end AccountingAux

open AccountingAux

/-- A pod is accounted for as the scheduler does exactly when its containers or one init container ask for
all that runs at a time. -/
theorem accounted_iff (pod : Pod) : pod.Accounted ↔ pod.Covered := by
  constructor
  · rintro ⟨hnever, _⟩ name
    exact (scheduler_le_iff pod name).mp (hnever name)
  · intro hcovered
    have hnever : ∀ name, pod.schedulerRequest name ≤ ((effectivePodRequests pod).qty name).value := fun name =>
      (scheduler_le_iff pod name).mpr (hcovered name)
    exact ⟨hnever, fun hinit hpod name => le_antisymm (effective_le_scheduler hinit (hpod name)) (hnever name)⟩

/-- A container and a restartable init container that each ask for one processor are accounted for as one. -/
theorem accounted_false : ¬ ∀ pod : Pod, pod.Accounted := by
  intro h
  let one : ResourceRequirements := ⟨GoMap.ofList [("cpu", Quantity.milli 1000)], ∅⟩
  have hpod := (h
    { metadata := { name := "training" }
      initContainers := [{ name := "proxy", resources := one, restartPolicy := some "Always" }]
      containers := [{ name := "main", resources := one }] }).1 "cpu"
  exact absurd hpod (by decide +kernel)

end KubeCell
