import KubeCell.Lemmas.CellWalk
import KubeCell.Lemmas.Content
import KubeCell.Lemmas.Effects
import KubeCell.PlanReconcile
import KubeCell.Theorems.Ready

/-!
# Whose status is written

A round computes a status from the object it has read and writes it, by name, onto the object it finds when it is
done. Between the two others may delete the object and create another one under its name.
-/

namespace KubeCell

open CellWalkAux EffectsAux Prog RoundAux

/-- Whatever else the step does, the object under the name is not replaced by another one. -/
def Unreplaced {α : Type} [Resource α] (store : World → Store α) (key : NamespacedName) (w w' : World) : Prop :=
  (store w).Keeps key (store w')

/-- The metadata of an object whose specification was changed. -/
def ObjectMeta.respecified (metadata : ObjectMeta) (version : Nat) : ObjectMeta :=
  { metadata with generation := metadata.generation + 1, resourceVersion := version }

/-- What other clients do to Cells, VirtualClusters and plans: they delete them, create them, and change
their specifications. -/
inductive ClientStep : World → World → Prop where
  | deleteCell (w : World) (key : NamespacedName) :
    ClientStep w { w.next with cells := (w.cells.delete w.version key).2 }
  | createCell (w : World) (o : Cell) : ClientStep w { w.next with cells := (w.cells.create w.version o).2 }
  | updateCell (w : World) {current o : Cell} : w.cells.find current.key = some current →
      o.metadata = current.metadata.respecified w.version → o.status = current.status →
      ClientStep w { w.next with cells := w.cells.put o }
  | deleteVirtualCluster (w : World) (key : NamespacedName) :
      ClientStep w { w.next with virtualClusters := (w.virtualClusters.delete w.version key).2 }
  | createVirtualCluster (w : World) (o : VirtualCluster) :
      ClientStep w { w.next with virtualClusters := (w.virtualClusters.create w.version o).2 }
  | updateVirtualCluster (w : World) {current o : VirtualCluster} : w.virtualClusters.find current.key = some current →
      o.metadata = current.metadata.respecified w.version → o.status = current.status →
      ClientStep w { w.next with virtualClusters := w.virtualClusters.put o }
  | deletePlan (w : World) (key : NamespacedName) :
      ClientStep w { w.next with virtualClusterPlans := (w.virtualClusterPlans.delete w.version key).2 }
  | createPlan (w : World) (o : VirtualClusterPlan) :
      ClientStep w { w.next with virtualClusterPlans := (w.virtualClusterPlans.create w.version o).2 }
  | updatePlan (w : World) {current o : VirtualClusterPlan} : w.virtualClusterPlans.find current.key = some current →
      o.metadata = current.metadata.respecified w.version → o.status = current.status →
      ClientStep w { w.next with virtualClusterPlans := w.virtualClusterPlans.put o }

namespace IdentityAux

/-- The history is of calls that were answered by some world. -/
def Truthful (h : List Event) : Prop := ∀ e ∈ h, ∃ w w', World.Exec w e.1 e.2 w'

/-- A kind of objects with a status: where they are stored, which event is a read of the one under a name, and which
is a write of a status, with the object it was put on and what was stored. -/
structure StatusKind (α : Type) [Resource α] where
  store : World → Store α
  readOf : NamespacedName → Event → Option α
  writeOf : Event → Option (α × α)
  keeps : ∀ {w w' : World} {call : Call} {r : call.Res} (key : NamespacedName), World.Exec w call r w' →
    (store w).Keeps key (store w')
  read : ∀ {w w' : World} {call : Call} {r : call.Res} {key : NamespacedName} {o : α}, World.Exec w call r w' →
    readOf key (event call r) = some o → (store w).find key = some o ∧ w' = w
  write : ∀ {w w' : World} {call : Call} {r : call.Res} {o stored : α}, World.Exec w call r w' →
    writeOf (event call r) = some (o, stored) →
    ∃ current, (store w).find (Resource.metadata o).key = some current ∧ (Resource.metadata stored).uid =
      (Resource.metadata current).uid

variable {α : Type} [Resource α] (kind : StatusKind α) {key : NamespacedName} {w w' : World} {h : List Event}

/-- What the history of a round tells about identities: the object under the name is the one that was read first, and
so were those a status was written to. -/
structure Identified (key : NamespacedName) (w : World) (h : List Event) : Prop where
  truthful : Truthful h
  stored : ∀ first, h.head?.bind (kind.readOf key) = some first → ∀ o, (kind.store w).find key = some o →
    (Resource.metadata o).uid = (Resource.metadata first).uid
  written : ∀ first, h.head?.bind (kind.readOf key) = some first → ∀ e ∈ h, ∀ o stored,
    kind.writeOf e = some (o, stored) →
    (Resource.metadata stored).uid = (Resource.metadata first).uid

variable {kind}

/-- A change by others that does not disturb the name. -/
theorem Identified.env (hid : Identified kind key w h) (henv : Relation.ReflTransGen (Unreplaced kind.store key) w w') :
    Identified kind key w' h := by
  have hkeeps : (kind.store w).Keeps key (kind.store w') := by
    induction henv with
    | refl => exact Store.Keeps.refl key _
    | tail _ hstep ih => exact ih.trans hstep
  refine ⟨hid.truthful, fun first hfirst o' ho' => ?_, hid.written⟩
  obtain ⟨o, ho, huid⟩ := hkeeps o' ho'
  exact huid.trans (hid.stored first hfirst o ho)

/-- One more call, which writes statuses under the name only. -/
theorem Identified.call (hid : Identified kind key w h) {call : Call} {r : call.Res} (hx : World.Exec w call r w')
    (htarget : ∀ o stored, kind.writeOf (event call r) = some (o, stored) → (Resource.metadata o).key = key) :
    Identified kind key w' (h ++ [event call r]) := by
  have htruthful : Truthful (h ++ [event call r]) := by
    intro e he
    rcases List.mem_append.mp he with he | he
    · exact hid.truthful e he
    · rw [List.mem_singleton.mp he]
      exact ⟨w, w', hx⟩
  -- the object that was read first is the one that stood under the name before the call
  have hbefore : ∀ first, (h ++ [event call r]).head?.bind (kind.readOf key) = some first →
    ∀ o, (kind.store w).find key = some o →
      (Resource.metadata o).uid = (Resource.metadata first).uid := by
    intro first hfirst o ho
    cases h with
    | nil =>
      obtain ⟨hfind, -⟩ := kind.read hx hfirst
      cases hfind.symm.trans ho
      rfl
    | cons e h => exact hid.stored first hfirst o ho
  refine ⟨htruthful, fun first hfirst o' ho' => ?_, fun first hfirst e he o stored hwrite => ?_⟩
  · obtain ⟨o, ho, huid⟩ := kind.keeps key hx o' ho'
    exact huid.trans (hbefore first hfirst o ho)
  · rcases List.mem_append.mp he with he | he
    · cases h with
      | nil => nomatch he
      | cons e' h => exact hid.written first hfirst e he o stored hwrite
    · rw [List.mem_singleton.mp he] at hwrite
      obtain ⟨current, hcurrent, huid⟩ := kind.write hx hwrite
      rw [htarget o stored hwrite] at hcurrent
      exact huid.trans (hbefore first hfirst current hcurrent)

/-- The rule for a round that writes statuses under its name only, among others that do not disturb that name: the
objects it writes a status to are the one it has read first. -/
theorem uid_of_written (kind : StatusKind α) {p q : Action (Except Err Result)} {G : List Event → Call → Prop}
    (hp : Guarded event G (fun _ _ => True) p [])
    (htarget : ∀ h call (r : call.Res) o stored, Truthful h → G h call → kind.writeOf (event call r) =
      some (o, stored) → (Resource.metadata o).key = key)
    (hrun : Runs (Amid (Unreplaced kind.store key) World.Exec) event w p h w' q) (first : α)
    (hfirst : h.head?.bind (kind.readOf key) = some first) {e : Event} (he : e ∈ h) {o stored : α}
    (hwrite : kind.writeOf e = some (o, stored)) :
    (Resource.metadata stored).uid = (Resource.metadata first).uid := by
  have hstart : Identified kind key w [] :=
    ⟨fun e he => (List.not_mem_nil he).elim, fun first hfirst => (nomatch hfirst), fun first hfirst => (nomatch hfirst)⟩
  have hinv := Runs.invariant (K := Identified kind key) (fun w call r w' h hid hG hx => ?_) hp hstart hrun
  · exact hinv.1.written first hfirst e he o stored hwrite
  · obtain ⟨w₁, henv, hexec⟩ := hx
    exact (hid.env henv).call hexec fun o stored hwrite => htarget h call r o stored hid.truthful hG hwrite

/-! ## The three kinds -/

/-- No call of the reconcilers replaces an object of the three kinds by another one. -/
theorem keeps_exec {call : Call} {r : call.Res} (key : NamespacedName) (hx : World.Exec w call r w') :
    w.cells.Keeps key w'.cells ∧ w.virtualClusters.Keeps key w'.virtualClusters ∧
      w.virtualClusterPlans.Keeps key w'.virtualClusterPlans := by
  have hserve : ∀ call : ApiCall, w.cells.Keeps key (w.serve call).2.cells ∧
      w.virtualClusters.Keeps key (w.serve call).2.virtualClusters ∧
      w.virtualClusterPlans.Keeps key (w.serve call).2.virtualClusterPlans := by
    intro call
    cases call with
    | updateVirtualCluster o => exact ⟨.refl _ _, Store.keeps_update _ _ _ _, .refl _ _⟩
    | updateVirtualClusterStatus o => exact ⟨.refl _ _, Store.keeps_updateStatus _ _ _ _, .refl _ _⟩
    | updateCell o => exact ⟨Store.keeps_update _ _ _ _, .refl _ _, .refl _ _⟩
    | updateCellStatus o => exact ⟨Store.keeps_updateStatus _ _ _ _, .refl _ _, .refl _ _⟩
    | updateVirtualClusterPlanStatus o => exact ⟨.refl _ _, .refl _ _, Store.keeps_updateStatus _ _ _ _⟩
    | _ => exact ⟨.refl _ _, .refl _ _, .refl _ _⟩
  cases hx with
  | served call => exact hserve call
  | unavailable => exact ⟨.refl _ _, .refl _ _, .refl _ _⟩
  | lost call => exact hserve call
  | host => exact ⟨.refl _ _, .refl _ _, .refl _ _⟩

/-- A status that was written was put on the object under its name. -/
theorem find_of_updateStatus {s : Store α} {version : Nat} {o stored : α}
    (h : (s.updateStatus version o).1 = .ok stored) :
    ∃ current, s.find (Resource.metadata o).key = some current ∧ (Resource.metadata stored).uid =
      (Resource.metadata current).uid := by
  rcases s.updateStatus_cases version o with ⟨e, heq⟩ | ⟨current, hfind, heq⟩
  · rw [heq] at h
    nomatch h
  · rw [heq] at h
    cases h
    exact ⟨current, hfind, by rw [Store.metadata_withStatus]⟩

/-- Cells. -/
def cellKind : StatusKind Cell where
  store := World.cells
  readOf key e :=
    match e with
    | ⟨.api (.getCell name), .ok cell⟩ => if name = key then some cell else none
    | _ => none
  writeOf e :=
    match e with
    | ⟨.api (.updateCellStatus o), .ok stored⟩ => some (o, stored)
    | _ => none
  keeps key hx := (keeps_exec key hx).1
  read hx hread := by
    split at hread
    · rename_i name cell heq
      cases heq
      split_ifs at hread with hname
      cases hread
      obtain ⟨hr, hw⟩ := served_of_ok hx
      exact ⟨hname ▸ Store.get_ok_iff.mp hr, hw⟩
    · nomatch hread
  write hx hwrite := by
    split at hwrite
    · rename_i o stored heq
      cases heq
      cases hwrite
      exact find_of_updateStatus (served_of_ok hx).1
    · nomatch hwrite

/-- VirtualClusters. -/
def virtualClusterKind : StatusKind VirtualCluster where
  store := World.virtualClusters
  readOf key e :=
    match e with
    | ⟨.api (.getVirtualCluster name), .ok v⟩ => if name = key then some v else none
    | _ => none
  writeOf e :=
    match e with
    | ⟨.api (.updateVirtualClusterStatus o), .ok stored⟩ => some (o, stored)
    | _ => none
  keeps key hx := (keeps_exec key hx).2.1
  read hx hread := by
    split at hread
    · rename_i name v heq
      cases heq
      split_ifs at hread with hname
      cases hread
      obtain ⟨hr, hw⟩ := served_of_ok hx
      exact ⟨hname ▸ Store.get_ok_iff.mp hr, hw⟩
    · nomatch hread
  write hx hwrite := by
    split at hwrite
    · rename_i o stored heq
      cases heq
      cases hwrite
      exact find_of_updateStatus (served_of_ok hx).1
    · nomatch hwrite

/-- Plans. -/
def planKind : StatusKind VirtualClusterPlan where
  store := World.virtualClusterPlans
  readOf key e :=
    match e with
    | ⟨.api (.getVirtualClusterPlan name), .ok plan⟩ => if name = key then some plan else none
    | _ => none
  writeOf e :=
    match e with
    | ⟨.api (.updateVirtualClusterPlanStatus o), .ok stored⟩ => some (o, stored)
    | _ => none
  keeps key hx := (keeps_exec key hx).2.2
  read hx hread := by
    split at hread
    · rename_i name plan heq
      cases heq
      split_ifs at hread with hname
      cases hread
      obtain ⟨hr, hw⟩ := served_of_ok hx
      exact ⟨hname ▸ Store.get_ok_iff.mp hr, hw⟩
    · nomatch hread
  write hx hwrite := by
    split at hwrite
    · rename_i o stored heq
      cases heq
      cases hwrite
      exact find_of_updateStatus (served_of_ok hx).1
    · nomatch hwrite

/-! ## Where the rounds write -/

/-- What is written back stands under the name it is written to. -/
theorem key_of_update {s : Store α} {version : Nat} {o stored : α} (h : (s.update version o).1 = .ok stored) :
    (Resource.metadata stored).key = (Resource.metadata o).key := by
  rcases s.update_cases version o with ⟨e, heq⟩ | ⟨current, -, heq, -⟩
  · rw [heq] at h
    nomatch h
  · cases heq.symm.trans h
    rw [Store.metadata_asUpdated]
    rfl

/-- A Cell that was read stands under the name it was read by. -/
theorem key_of_getCell (htruthful : Truthful h) {name : NamespacedName} {cell : Cell}
    (hsaw : Saw h (.api (.getCell name)) (.ok cell)) :
    cell.key = name := by
  obtain ⟨w, w', hx⟩ := htruthful _ hsaw
  exact Store.find_keyed (Store.get_ok_iff.mp (served_of_ok hx).1)

/-- The Cell of a round stands under the name the round is for. -/
theorem key_of_cellRound (htruthful : Truthful h) {cell : Cell}
    (hcell : Opened key h cell ∨ Closing key h cell) : cell.key = key := by
  rcases hcell with hopened | hclosing
  · cases hopened with
    | read => exact key_of_getCell htruthful List.mem_cons_self
    | @adopted cell₀ _ rest =>
      obtain ⟨w, w', hx⟩ := htruthful (event (.api (.updateCell cell₀.adopted)) (.ok cell)) (by simp)
      have hkey : cell₀.key = key := key_of_getCell htruthful List.mem_cons_self
      exact (key_of_update (served_of_ok hx).1).trans hkey
  · cases hclosing with
    | read => exact key_of_getCell htruthful List.mem_cons_self

/-- A round for a Cell writes the status of the Cell under its name. -/
theorem target_of_cellPermitted {Γ : Ctx} {rt : Runtime} (htruthful : Truthful h) {o : Cell}
    (hp : CellPermitted Γ rt key h (.api (.updateCellStatus o))) : o.key = key := by
  cases hp with
  | read hread => nomatch hread
  | @persist h₀ tail cell current _ heq _ _ hround hsaw hcurrent =>
    have hround' : Opened key h cell ∨ Closing key h cell := by
      rw [heq]
      exact hround.imp (fun hopened => Opened.append hopened.1 tail) fun hclosing => Closing.append hclosing.1 tail
    have hkey : o.key = current.key := by rw [hcurrent]
    rw [hkey, key_of_getCell htruthful hsaw, key_of_cellRound htruthful hround']

/-- A VirtualCluster that was read stands under the name it was read by. -/
theorem key_of_getVirtualCluster (htruthful : Truthful h) {name : NamespacedName} {v : VirtualCluster}
    (hsaw : Saw h (.api (.getVirtualCluster name)) (.ok v)) : v.key = name := by
  obtain ⟨w, w', hx⟩ := htruthful _ hsaw
  exact Store.find_keyed (Store.get_ok_iff.mp (served_of_ok hx).1)

/-- The VirtualCluster of a round stands under the name the round is for. -/
theorem key_of_began (htruthful : Truthful h) {v : VirtualCluster} (hbegan : Began key h v) : v.key = key := by
  rcases hbegan with hlive | hdoomed
  · cases hlive with
    | read => exact key_of_getVirtualCluster htruthful List.mem_cons_self
    | @adopted v₀ _ rest =>
      obtain ⟨w, w', hx⟩ := htruthful (event (.api (.updateVirtualCluster v₀.adopted)) (.ok v)) (by simp)
      have hkey : v₀.key = key := key_of_getVirtualCluster htruthful List.mem_cons_self
      exact (key_of_update (served_of_ok hx).1).trans hkey
  · cases hdoomed with
    | read => exact key_of_getVirtualCluster htruthful List.mem_cons_self

/-- A round for a VirtualCluster writes the status of the VirtualCluster under its name. -/
theorem target_of_writes {Γ : Ctx} {cfg : Config} (htruthful : Truthful h) {o : VirtualCluster}
    (hp : Writes Γ cfg key h (.api (.updateVirtualClusterStatus o))) : o.key = key := by
  cases hp with
  | plain hplain => nomatch hplain
  | @status v current _ hbegan hsaw hcurrent =>
    have hkey : o.key = current.key := by rw [hcurrent]
    rw [hkey, key_of_getVirtualCluster htruthful hsaw, key_of_began htruthful hbegan]
  | foundation _ hcall => rcases hcall with hcall | hcall <;> nomatch hcall
  | instanceWork _ _ hcall => rcases hcall with hcall | hcall <;> nomatch hcall

/-- What a round for a plan writes a status to: the plan it has read again under the name of the one it has read. -/
def PlanTarget (key : NamespacedName) (h : List Event) : Call → Prop
  | .api (.updateVirtualClusterPlanStatus o) => ∃ plan current, Saw h (.api (.getVirtualClusterPlan key)) (.ok plan) ∧
      Saw h (.api (.getVirtualClusterPlan plan.key)) (.ok current) ∧ o = { current with status := o.status }
  | _ => True

/-- A round for a plan writes its status so. -/
theorem planTarget_reconcile (Γ : Ctx) (rt : Runtime) (key : NamespacedName) :
    Guarded event (PlanTarget key) (fun _ _ => True) (planReconcile Γ rt key) [] := by
  have hpersist : ∀ (h : List Event) (plan desired : VirtualClusterPlan),
    Saw h (.api (.getVirtualClusterPlan key)) (.ok plan) →
      desired.key = plan.key → Guarded event (PlanTarget key) (fun _ _ => True) (persistPlan desired) h := by
    intro h plan desired hsaw hkey
    have htry : ∀ h', Saw h' (.api (.getVirtualClusterPlan key)) (.ok plan) →
        Guarded event (PlanTarget key) (fun h' r => ∀ e, r = .error e → e.isConflict = true →
          Saw h' (.api (.getVirtualClusterPlan key)) (.ok plan)) (tryUpdatePlanStatus desired) h' := by
      intro h' hsaw
      refine ⟨trivial, fun r => ?_⟩
      have hsaw := Saw.append hsaw [event (.api (.getVirtualClusterPlan desired.key)) r]
      cases r with
      | error e => exact fun _ _ _ => hsaw
      | ok current =>
        refine ⟨⟨plan, current, hsaw, hkey ▸ saw_last _ _ _, rfl⟩, fun r => ?_⟩
        cases r with
        | error e => exact fun _ _ _ => Saw.append hsaw _
        | ok stored => exact fun _ hfailed => nomatch hfailed
    rw [persistPlan, guarded_bind]
    refine (guarded_retry htry 4 hsaw).mono (fun _ _ hp => hp) ?_
    rintro h' (e | ⟨⟩) - <;> trivial
  rw [planReconcile, guarded_api]
  refine ⟨trivial, fun r => ?_⟩
  cases r with
  | error e => trivial
  | ok plan =>
    dsimp only
    split_ifs
    · trivial
    · rw [planReferences, Prog.bind_assoc]
      refine ⟨trivial, fun r => ?_⟩
      have hsaw : ∀ t, Saw ([event (.api (.getVirtualClusterPlan key)) (.ok plan)] ++ t)
        (.api (.getVirtualClusterPlan key)) (.ok plan) :=
        fun t => List.mem_cons_self
      cases r with
      | error e => exact hpersist _ plan _ (hsaw _) rfl
      | ok cell =>
        refine ⟨trivial, fun r => ?_⟩
        cases r with
        | error e => exact hpersist _ plan _ (Saw.append (hsaw _) _) rfl
        | ok virtualNodeClass => exact hpersist _ plan _ (Saw.append (hsaw _) _) rfl

/-- A round for a plan writes the status of the plan under its name. -/
theorem target_of_planTarget (htruthful : Truthful h) {o : VirtualClusterPlan}
    (hp : PlanTarget key h (.api (.updateVirtualClusterPlanStatus o))) : o.key = key := by
  have hread : ∀ {name : NamespacedName} {plan : VirtualClusterPlan},
    Saw h (.api (.getVirtualClusterPlan name)) (.ok plan) →
      plan.key = name := by
    intro name plan hsaw
    obtain ⟨w, w', hx⟩ := htruthful _ hsaw
    exact Store.find_keyed (Store.get_ok_iff.mp (served_of_ok hx).1)
  obtain ⟨plan, current, hplan, hcurrent, heq⟩ := hp
  have hkey : o.key = current.key := by rw [heq]
  rw [hkey, hread hcurrent, hread hplan]

end IdentityAux

open IdentityAux

/-- A round of any of the three reconcilers writes the status of the object it has read, as long as nobody replaces
the object under that name while the round runs; everything else may happen in between, and any call may fail. -/
theorem status_same_object (Γ : Ctx) (rt : Runtime) (key : NamespacedName) (w w' : World) (h : List Event)
    (q : Action (Except Err Result)) :
    (∀ cfg cell rest, Runs (Amid (Unreplaced World.cells key) World.Exec) event w (cellReconcile Γ cfg rt key) h w' q →
      h = event (.api (.getCell key)) (.ok cell) :: rest →
      ∀ o stored, Saw h (.api (.updateCellStatus o)) (.ok stored) → stored.metadata.uid = cell.metadata.uid) ∧
    (∀ cfg v rest, Runs (Amid (Unreplaced World.virtualClusters key) World.Exec) event w
      (reconcile Γ cfg rt key) h w' q →
      h = event (.api (.getVirtualCluster key)) (.ok v) :: rest →
      ∀ o stored, Saw h (.api (.updateVirtualClusterStatus o)) (.ok stored) → stored.metadata.uid = v.metadata.uid) ∧
    (∀ plan rest, Runs (Amid (Unreplaced World.virtualClusterPlans key) World.Exec) event w
      (planReconcile Γ rt key) h w' q →
      h = event (.api (.getVirtualClusterPlan key)) (.ok plan) :: rest →
      ∀ o stored, Saw h (.api (.updateVirtualClusterPlanStatus o)) (.ok stored) →
        stored.metadata.uid = plan.metadata.uid) := by
  refine ⟨?_, ?_, ?_⟩
  · intro cfg cell rest hrun hfirst o stored hsaw
    refine uid_of_written cellKind (cellSafe_reconcile Γ cfg rt key) ?_ hrun cell ?_ hsaw rfl
    · intro h call r o stored htruthful hp hwrite
      simp only [cellKind] at hwrite
      split at hwrite
      · rename_i heq
        cases heq
        cases hwrite
        exact target_of_cellPermitted htruthful hp
      · nomatch hwrite
    · simp [hfirst, cellKind, event]
  · intro cfg v rest hrun hfirst o stored hsaw
    refine uid_of_written virtualClusterKind (grounded_reconcile Γ cfg rt key) ?_ hrun v ?_ hsaw rfl
    · intro h call r o stored htruthful hp hwrite
      simp only [virtualClusterKind] at hwrite
      split at hwrite
      · rename_i heq
        cases heq
        cases hwrite
        exact target_of_writes htruthful hp
      · nomatch hwrite
    · simp [hfirst, virtualClusterKind, event]
  · intro plan rest hrun hfirst o stored hsaw
    refine uid_of_written planKind (planTarget_reconcile Γ rt key) ?_ hrun plan ?_ hsaw rfl
    · intro h call r o stored htruthful hp hwrite
      simp only [planKind] at hwrite
      split at hwrite
      · rename_i heq
        cases heq
        cases hwrite
        exact target_of_planTarget htruthful hp
      · nomatch hwrite
    · simp [hfirst, planKind, event]

namespace IdentityAux

open SampleAux

/-- A plan for the sample Cell and class. -/
def samplePlan : VirtualClusterPlan :=
  { metadata := { name := "plan", ns := managementNamespace, uid := "plan-uid", generation := 1, resourceVersion := 1 }
    spec := { virtualCluster := DriftAux.sampleCluster.spec } }

/-- Another plan of that name, for a Cell that does not exist. -/
def otherPlan : VirtualClusterPlan :=
  { metadata := { name := "plan", ns := managementNamespace }
    spec := { virtualCluster := { DriftAux.sampleCluster.spec with cellRef.name := "cell-b" } } }

/-- The management cluster with the plan. -/
def planWorld : World :=
  { sampleWorld DriftAux.sampleCluster [] with virtualClusterPlans := Store.empty.put samplePlan }

/-- Another client deletes the plan. -/
def withoutPlan (w : World) : World :=
  { w.next with virtualClusterPlans := (w.virtualClusterPlans.delete w.version samplePlan.key).2 }

/-- Another client creates the other plan. -/
def withOtherPlan (w : World) : World :=
  { w.next with virtualClusterPlans := (w.virtualClusterPlans.create w.version otherPlan).2 }

/-- The first status that is written to the plan comes when another client has deleted it and created the other one. -/
def disturb (w : World) : (call : Call) → call.Res × World
  | .api (.updateVirtualClusterPlanStatus o) =>
    if o.metadata.uid = "plan-uid" then (withOtherPlan (withoutPlan w)).serve (.updateVirtualClusterPlanStatus o)
    else w.serve (.updateVirtualClusterPlanStatus o)
  | other => w.answer (sampleHost (.ok []) (.ok {})) other

/-- This is something that happens among clients that delete and create plans. -/
theorem amid_disturb (w : World) (call : Call) :
    Amid ClientStep World.Exec w call (disturb w call).1 (disturb w call).2 := by
  have hanswer : Amid ClientStep World.Exec w call (w.answer (sampleHost (.ok []) (.ok {})) call).1
      (w.answer (sampleHost (.ok []) (.ok {})) call).2 := ⟨w, .refl, World.exec_answer _ w call⟩
  cases call with
  | host call => exact hanswer
  | api call =>
    cases call with
    | updateVirtualClusterPlanStatus o =>
      rw [disturb]
      split_ifs
      · refine ⟨withOtherPlan (withoutPlan w), ?_, .served _ _⟩
        exact .tail (.single (.deletePlan w samplePlan.key)) (.createPlan (withoutPlan w) otherPlan)
      · exact hanswer
    | _ => exact hanswer

/-- What the last call of a history has stored, when it was a status of a plan. -/
def lastPlan (h : List Event) : Option VirtualClusterPlan :=
  match h.getLast? with
  | some ⟨.api (.updateVirtualClusterPlanStatus _), .ok stored⟩ => some stored
  | _ => none

/-- The round for the plan among these clients, up to its end. -/
def disturbedRound : World × List Event × Action (Except Err Result) :=
  drive disturb event 7 planWorld (planReconcile sampleCtx sampleRuntime samplePlan.key)

/-- The round for the plan when nobody is in its way. -/
def quietRound : World × List Event × Action (Except Err Result) :=
  drive (World.answer (sampleHost (.ok []) (.ok {}))) event 5 planWorld
    (planReconcile sampleCtx sampleRuntime samplePlan.key)

/-- What the last call has stored was seen. -/
theorem saw_of_lastPlan {stored : VirtualClusterPlan} (hlast : lastPlan h = some stored) :
    ∃ o, Saw h (.api (.updateVirtualClusterPlanStatus o)) (.ok stored) := by
  rw [lastPlan] at hlast
  split at hlast
  · rename_i o stored heq
    cases hlast
    obtain ⟨h₀, rfl⟩ := List.getLast?_eq_some_iff.mp heq
    exact ⟨o, saw_last _ _ _⟩
  · nomatch hlast

end IdentityAux

open SampleAux

/-- A plan that is created while the round of its predecessor runs gets the decision on it, and
it counts as observed. -/
theorem status_same_object_false :
    (¬∀ (Γ : Ctx) (rt : Runtime) (key : NamespacedName) (w w' : World) (h : List Event) (q : Action (Except Err Result))
      (plan : VirtualClusterPlan) (rest : List Event) (o stored : VirtualClusterPlan),
      Runs (Amid ClientStep World.Exec) event w (planReconcile Γ rt key) h w' q →
      h = event (.api (.getVirtualClusterPlan key)) (.ok plan) :: rest →
      Saw h (.api (.updateVirtualClusterPlanStatus o)) (.ok stored) → stored.metadata.uid = plan.metadata.uid) ∧
    ¬∀ (Γ : Ctx) (rt : Runtime) (key : NamespacedName) (w w' : World) (h : List Event) (q : Action (Except Err Result))
      (plan : VirtualClusterPlan) (rest : List Event) (o stored : VirtualClusterPlan),
      Runs (Amid ClientStep World.Exec) event w (planReconcile Γ rt key) h w' q →
      h = event (.api (.getVirtualClusterPlan key)) (.ok plan) :: rest →
      Saw h (.api (.updateVirtualClusterPlanStatus o)) (.ok stored) → stored.metadata.uid ≠ plan.metadata.uid →
      stored.spec ≠ plan.spec → stored.status.observedGeneration = stored.metadata.generation →
        stored.status.decision ≠ some .accepted := by
  have hwritten : ((lastPlan disturbedRound.2.1).map fun stored =>
      (stored.metadata.uid, stored.spec.virtualCluster.cellRef.name, stored.status.observedGeneration,
        stored.metadata.generation,
        stored.status.decision)) = some ("uid-2", "cell-b", 1, 1, some .accepted) := by decide +kernel
  obtain ⟨stored, hlast, hstored⟩ := Option.map_eq_some_iff.mp hwritten
  obtain ⟨o, hsaw⟩ := saw_of_lastPlan hlast
  simp only [Prod.mk.injEq] at hstored
  obtain ⟨huid, hcell, hobserved, hgeneration, hdecision⟩ := hstored
  have hrun : Runs (Amid ClientStep World.Exec) event planWorld (planReconcile sampleCtx sampleRuntime samplePlan.key)
      disturbedRound.2.1 disturbedRound.1 disturbedRound.2.2 := runs_drive amid_disturb 7 _ _
  have hne : stored.metadata.uid ≠ samplePlan.metadata.uid := by
    rw [huid]
    decide
  constructor
  · intro hall
    exact hne (hall _ _ _ _ _ _ _ samplePlan _ o stored hrun rfl hsaw)
  · intro hall
    refine hall _ _ _ _ _ _ _ samplePlan _ o stored hrun rfl hsaw hne ?_ (hobserved.trans hgeneration.symm) hdecision
    intro hspec
    rw [hspec] at hcell
    exact absurd hcell (by decide)

/-- The round for the sample plan writes its status to it when nobody is in its way. -/
theorem status_same_object_sample :
    ∃ o stored, Saw quietRound.2.1 (.api (.updateVirtualClusterPlanStatus o)) (.ok stored) ∧
      stored.metadata.uid = "plan-uid" := by
  have hwritten : (lastPlan quietRound.2.1).isSome = true := by decide +kernel
  obtain ⟨stored, hlast⟩ := Option.isSome_iff_exists.mp hwritten
  obtain ⟨o, hsaw⟩ := saw_of_lastPlan hlast
  have hrun : Runs (Amid (Unreplaced World.virtualClusterPlans samplePlan.key) World.Exec) event planWorld
      (planReconcile sampleCtx sampleRuntime samplePlan.key) quietRound.2.1 quietRound.1 quietRound.2.2 :=
    runs_drive (fun w call => ⟨w, .refl, World.exec_answer _ w call⟩) 5 _ _
  exact ⟨o, stored, hsaw, (status_same_object sampleCtx sampleRuntime samplePlan.key planWorld
    quietRound.1 quietRound.2.1
    quietRound.2.2).2.2 samplePlan _ hrun rfl o stored hsaw⟩

end KubeCell
