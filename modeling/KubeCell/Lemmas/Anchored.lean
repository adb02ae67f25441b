import KubeCell.Lemmas.Owned
import KubeCell.Lemmas.Resolution

/-!
# Where the deletion looks

The deletion looks for the Works of a VirtualCluster in one namespace only: the one of the snapshot in the status, or,
when none was written, the one that the Cell names now. This module finds the invariant that keeps all of them there.
-/

namespace KubeCell

open Prog RoundAux ProvisionAux EffectsAux EnvironmentAux OwnedAux ResolutionAux

/-- What the others do to the Cells, and to what belongs to `u`: a Cell is updated as the validator admits it and as
`Keeps` says, its status is written, or neither the Cell of `u` is touched nor a Secret of `u`. -/
inductive CellChanges (u : VirtualCluster) (Keeps : World → Cell → Cell → Prop) : World → World → Prop where
  | updated {w : World} {cell cell' : Cell} : w.cells.find cell'.metadata.key = some cell →
      cellValidatorValidateUpdate w.virtualClusters.list cell cell' = .ok () → Keeps w cell cell' →
      CellChanges u Keeps w { w.next with cells := w.cells.put cell' }
  | reported {w : World} {cell cell' : Cell} : w.cells.find cell'.metadata.key = some cell → cell'.spec = cell.spec →
      CellChanges u Keeps w { w.next with cells := w.cells.put cell' }
  | rest {w w' : World} : w'.cells.find u.cellKey = w.cells.find u.cellKey →
    SameOwned u.metadata.uid w.secrets w'.secrets →
      CellChanges u Keeps w w'

/-- The Cell of `u` keeps its ManagedCluster as long as `u` is being deleted without a snapshot in its status. -/
def KeepsManagedCluster (u : VirtualCluster) (w : World) (cell cell' : Cell) : Prop :=
  ∀ v, w.virtualClusters.find u.key = some v → v.deleting = true → v.status.resolved.managedClusterName = "" →
    cell'.metadata.key = u.cellKey → cell'.spec.managedClusterRef.name = cell.spec.managedClusterRef.name

/-- The world before the first round: whatever stands under the name of `u` is `u`, without a snapshot, it has no
Works and no Secret, and its Cell is valid. -/
structure Unprovisioned (u : VirtualCluster) (w : World) : Prop where
  stored : ∀ v, w.virtualClusters.find u.key = some v → Same u v ∧ v.status.resolved = {}
  works : ∀ key work, ¬Owns u w.works key work
  secrets : ∀ key secret, w.secrets.find key = some secret → secret.metadata.ownerUID ≠ u.metadata.uid
  cells : ∀ cell, w.cells.find u.cellKey = some cell → validateCellSpec cell.spec = []

namespace AnchoredAux

variable {Γ : Ctx} {cfg : Config} {rt : Runtime} {u v : VirtualCluster} {w w' : World} {h : List Event} {e : Event}

/-! ## Cells -/

/-- A Cell that is valid names a ManagedCluster. -/
theorem managedCluster_ne_empty {spec : CellSpec} (hvalid : validateCellSpec spec = []) :
    spec.managedClusterRef.name ≠ "" := by
  intro hempty
  simp [validateCellSpec, hempty] at hvalid

/-- An update of a Cell that the validator admits names a ManagedCluster, and the same one while
the Cell is referenced. -/
theorem cellUpdate_admitted {clusters : List VirtualCluster} {cell cell' : Cell}
    (hadmitted : cellValidatorValidateUpdate clusters cell cell' = .ok ()) :
    cell'.spec.managedClusterRef.name ≠ "" ∧
      (isCellReferenced clusters cell'.metadata.name = true → cell'.spec.managedClusterRef =
        cell.spec.managedClusterRef) := by
  rw [cellValidatorValidateUpdate, Cell.validateUpdate] at hadmitted
  cases hreferenced : isCellReferenced clusters cell'.metadata.name with
  | false =>
    rw [hreferenced] at hadmitted
    simp only [Bool.not_false, if_true, validationError_ok_iff] at hadmitted
    exact ⟨managedCluster_ne_empty hadmitted, fun h => nomatch h⟩
  | true =>
    rw [hreferenced] at hadmitted
    simp only [Bool.not_true, Bool.false_eq_true, if_false, validationError_ok_iff, List.append_eq_nil_iff] at hadmitted
    obtain ⟨⟨hvalid, href⟩, -⟩ := hadmitted
    refine ⟨managedCluster_ne_empty hvalid, fun _ => ?_⟩
    simp only [ite_eq_right_iff, List.cons_ne_self, imp_false, not_not] at href
    exact href.symm

/-- What the environment does to the Cell of `u` and to its Secret. -/
structure CellMoves (u : VirtualCluster) (w w' : World) : Prop where
  named : (∀ cell, w.cells.find u.cellKey = some cell → cell.spec.managedClusterRef.name ≠ "") →
    ∀ cell', w'.cells.find u.cellKey = some cell' → cell'.spec.managedClusterRef.name ≠ ""
  same : ∀ v cell, w.virtualClusters.find u.key = some v → Same u v → v.status.resolved.managedClusterName = "" →
    w.cells.find u.cellKey = some cell →
    ∃ cell', w'.cells.find u.cellKey = some cell' ∧ cell'.spec.managedClusterRef.name = cell.spec.managedClusterRef.name
  secrets : SameOwned u.metadata.uid w.secrets w'.secrets

/-- A change of one Cell, that names a ManagedCluster and, while `u` has no snapshot, the same one. -/
theorem cellMoves_put {cell cell' : Cell} (hfind : w.cells.find cell'.metadata.key = some cell)
    (hnamed : cell.spec.managedClusterRef.name ≠ "" → cell'.spec.managedClusterRef.name ≠ "")
    (hsame : ∀ v, w.virtualClusters.find u.key = some v → Same u v → v.status.resolved.managedClusterName = "" →
      cell'.metadata.key = u.cellKey → cell'.spec.managedClusterRef.name = cell.spec.managedClusterRef.name) :
    CellMoves u w { w.next with cells := w.cells.put cell' } := by
  refine ⟨fun hall cell₁ hcell₁ => ?_, fun v cell₀ hv hu hempty hcell₀ => ?_, fun _ _ _ => Iff.rfl⟩
  · rw [Store.find_put] at hcell₁
    split_ifs at hcell₁ with hkey
    · cases hcell₁
      exact hnamed (hall cell (hkey ▸ hfind))
    · exact hall cell₁ hcell₁
  · by_cases hkey : u.cellKey = cell'.metadata.key
    · rw [hkey, hfind, Option.some.injEq] at hcell₀
      subst hcell₀
      exact ⟨cell', (Store.find_put _ _ _).trans (if_pos hkey), hsame v hv hu hempty hkey.symm⟩
    · exact ⟨cell₀, (Store.find_put _ _ _).trans ((if_neg hkey).trans hcell₀), rfl⟩

/-- The Cell of `u` names the same ManagedCluster while `u` has no snapshot: the validator sees to it until `u` is
deleted, and the condition does afterwards. -/
theorem cellMoves_of_environment
    (henv : Environment u (CellChanges u (KeepsManagedCluster u)) w w') : CellMoves u w w' := by
  have hkept : ∀ {w'' : World}, w''.cells.find u.cellKey = w.cells.find u.cellKey →
      SameOwned u.metadata.uid w.secrets w''.secrets → CellMoves u w w'' := by
    intro w'' hcells hsecrets
    exact ⟨fun hall cell' hcell' => hall cell' (hcells ▸ hcell'), fun v cell _ _ _ hcell =>
      ⟨cell, hcells ▸ hcell, rfl⟩, hsecrets⟩
  cases henv with
  | ocm _ => exact hkept rfl fun _ _ _ => Iff.rfl
  | delete => exact hkept rfl fun _ _ _ => Iff.rfl
  | others _ _ hothers =>
    cases hothers with
    | @updated cell cell' hfind hadmitted hkeeps =>
      obtain ⟨hnamed, href⟩ := cellUpdate_admitted hadmitted
      refine cellMoves_put hfind (fun _ => hnamed) fun v hv hu hempty hkey => ?_
      cases hdeleting : v.deleting with
      | true => exact hkeeps v hv hdeleting hempty hkey
      | false =>
        have hreferenced : isCellReferenced w.virtualClusters.list cell'.metadata.name = true := by
          refine List.any_eq_true.mpr ⟨v, Store.mem_list_of_find hv, ?_⟩
          have hname : cell'.metadata.name = u.spec.cellRef.name := congrArg NamespacedName.name hkey
          simp [hdeleting, hu.spec, hname]
        exact congrArg ObjectReference.name (href hreferenced)
    | @reported cell cell' hfind hspec =>
      exact cellMoves_put hfind (fun hnamed => hspec ▸ hnamed) fun _ _ _ _ _ => hspec ▸ rfl
    | rest hcells hsecrets => exact hkept hcells hsecrets

/-! ## The invariant -/

/-- `v` is stored and carries the finalizer. -/
def Stays (u : VirtualCluster) (w : World) (v : VirtualCluster) : Prop :=
  w.virtualClusters.find u.key = some v ∧ v.held = true

/-- The deletion of `v` would look in the namespace of a ManagedCluster. -/
def AnchoredAt (u : VirtualCluster) (w : World) (v : VirtualCluster) (managedCluster : String) : Prop :=
  managedCluster ≠ "" ∧ (v.status.resolved.managedClusterName = managedCluster ∨
    v.status.resolved.managedClusterName = "" ∧
    ∃ cell, w.cells.find u.cellKey = some cell ∧ cell.spec.managedClusterRef.name = managedCluster)

/-- A snapshot is empty, or names a ManagedCluster. -/
def Proper (v : VirtualCluster) : Prop :=
  v.status.resolved.hostNamespace = "" → v.status.resolved.managedClusterName = ""

/-- `u` carries the finalizer, and its deletion would look for a Work under this name. -/
def Sheltered (u : VirtualCluster) (w : World) (key : NamespacedName) : Prop :=
  ∃ v managedCluster, Stays u w v ∧ AnchoredAt u w v managedCluster ∧
    (key = u.foundationKey managedCluster ∨ key = u.instanceKey managedCluster)

/-- What holds between the calls: the Works of `u`, and its Secret, are there only while `u` carries the finalizer,
and where its deletion would look for them. -/
structure Anchored (u : VirtualCluster) (w : World) : Prop where
  stored : ∀ v, w.virtualClusters.find u.key = some v → Same u v
  proper : ∀ v, w.virtualClusters.find u.key = some v → Proper v
  cells : ∀ cell, w.cells.find u.cellKey = some cell → cell.spec.managedClusterRef.name ≠ ""
  works : ∀ key work, Owns u w.works key work → Sheltered u w key
  secrets : ∀ key secret, w.secrets.find key = some secret → secret.metadata.ownerUID = u.metadata.uid →
    key = u.secretKey ∧ secret.metadata.finalizers = [] ∧ ∃ v, Stays u w v

/-- The status was not written so far: every try met a conflict. -/
def Unwritten (h : List Event) : Prop :=
  ∀ o answer, Saw h (.api (.updateVirtualClusterStatus o)) answer →
    isTry (event (.api (.updateVirtualClusterStatus o)) answer) = true

/-- The deletion has been told that the Secret is not there, or has deleted it. -/
def SecretAnswered (u : VirtualCluster) (h : List Event) : Prop :=
  (∃ e : Err, e.isNotFound = true ∧ (Saw h (.api (.getSecret u.secretKey)) (.error e) ∨
    Saw h (.api (.deleteSecret u.secretKey)) (.error e))) ∨ Saw h (.api (.deleteSecret u.secretKey)) (.ok ())

/-- What the answers of a round still tell about the world. -/
structure AnchoredRound (u : VirtualCluster) (w : World) (h : List Event) : Prop where
  identity : Identity u w h
  proper : ∀ v, Saw h (.api (.getVirtualCluster u.key)) (.ok v) → Proper v
  cells : ∀ cell, Saw h (.api (.getCell u.cellKey)) (.ok cell) → cell.spec.managedClusterRef.name ≠ "" ∧
    ∀ v, Stays u w v → v.status.resolved.managedClusterName = "" →
      ∃ cell', w.cells.find u.cellKey = some cell' ∧ cell'.spec.managedClusterRef.name =
        cell.spec.managedClusterRef.name
  -- a round that provisions holds on to the finalizer, and to the snapshot until it writes one
  live : ∀ v, Live u.key h v → ∃ v', Stays u w v' ∧ (Unwritten h → v'.status.resolved = v.status.resolved)
  -- a deletion finds the snapshot it has read, and nothing that it has not found before
  doomed : ∀ v, Doomed u.key h v → ∀ v', Stays u w v' → v'.status.resolved = v.status.resolved
  gone : ∀ v key e, Doomed u.key h v → e.isNotFound = true → Saw h (.api (.getWork key)) (.error e) →
    ∀ work, ¬Owns u w.works key work
  secret : ∀ v, Doomed u.key h v → SecretAnswered u h → ∀ secret, w.secrets.find u.secretKey = some secret →
    secret.metadata.ownerUID ≠ u.metadata.uid

/-! ## The environment -/

/-- A VirtualCluster with the finalizer keeps it, and its status. -/
theorem Stays.moves (hmoves : Moves u w w') (hstays : Stays u w v) : ∃ v', Stays u w' v' ∧ v'.status = v.status := by
  have hne : v.metadata.finalizers ≠ [] := by
    intro hnil
    have := hstays.2
    rw [VirtualCluster.held, hnil] at this
    cases this
  obtain ⟨v', hv'⟩ := hmoves.kept v hstays.1 hne
  obtain ⟨before, hbefore, -, hstatus, hfinalizers, -, -⟩ := hmoves.cluster v' hv'
  obtain rfl : v = before := Option.some.inj (hstays.1.symm.trans hbefore)
  refine ⟨v', ⟨hv', ?_⟩, hstatus⟩
  rw [VirtualCluster.held, hfinalizers]
  exact hstays.2

/-- Where a VirtualCluster has the finalizer, it had it before, with the same status. -/
theorem Stays.moves_back (hmoves : Moves u w w') (hstays : Stays u w' v) :
    ∃ before, Stays u w before ∧ v.status = before.status := by
  obtain ⟨before, hbefore, -, hstatus, hfinalizers, -, -⟩ := hmoves.cluster v hstays.1
  refine ⟨before, ⟨hbefore, ?_⟩, hstatus⟩
  rw [VirtualCluster.held, ← hfinalizers]
  exact hstays.2

/-- Steps of others leave the object anchored. -/
theorem Anchored.moves (hI : Anchored u w) (hmoves : Moves u w w') (hcells : CellMoves u w w') : Anchored u w' := by
  refine ⟨(Moves.identity hmoves (Identity.start hI.stored)).stored, fun v' hv' => ?_, hcells.named hI.cells,
    fun key work' hown => ?_, fun key secret hsecret howner => ?_⟩
  · obtain ⟨v, hv, -, hstatus, -⟩ := hmoves.cluster v' hv'
    rw [Proper, hstatus]
    exact hI.proper v hv
  · obtain ⟨work, hwork, -⟩ := hmoves.back key work' hown
    obtain ⟨v, managedCluster, hstays, ⟨hne, hanchored⟩, hkey⟩ := hI.works key work hwork
    obtain ⟨v', hstays', hstatus⟩ := Stays.moves hmoves hstays
    refine ⟨v', managedCluster, hstays', ⟨hne, ?_⟩, hkey⟩
    rw [hstatus]
    rcases hanchored with hsnapshot | ⟨hempty, cell, hcell, hname⟩
    · exact Or.inl hsnapshot
    · obtain ⟨cell', hcell', hname'⟩ := hcells.same v cell hstays.1 (hI.stored v hstays.1) hempty hcell
      exact Or.inr ⟨hempty, cell', hcell', hname'.trans hname⟩
  · obtain ⟨hkey, hfinalizers, v, hstays⟩ := hI.secrets key secret
      ((hcells.secrets key secret howner).mp hsecret) howner
    obtain ⟨v', hstays', -⟩ := Stays.moves hmoves hstays
    exact ⟨hkey, hfinalizers, v', hstays'⟩

/-- Steps of others leave the round that works on it anchored. -/
theorem AnchoredRound.moves (hK : AnchoredRound u w h) (hmoves : Moves u w w') (hcells : CellMoves u w w') :
    AnchoredRound u w' h := by
  refine ⟨Moves.identity hmoves hK.identity, hK.proper, fun cell hsaw => ?_, fun v hlive => ?_,
    fun v hdoomed v' hstays => ?_,
    fun v key e hdoomed he hsaw work' hown => ?_, fun v hdoomed hanswered secret hsecret howner => ?_⟩
  · obtain ⟨hne, hcell⟩ := hK.cells cell hsaw
    refine ⟨hne, fun v' hstays' hempty => ?_⟩
    obtain ⟨v, hstays, hstatus⟩ := Stays.moves_back hmoves hstays'
    rw [hstatus] at hempty
    obtain ⟨cell', hcell', hname⟩ := hcell v hstays hempty
    obtain ⟨cell'', hcell'', hname'⟩ := hcells.same v cell' hstays.1 (hK.identity.stored v hstays.1) hempty hcell'
    exact ⟨cell'', hcell'', hname'.trans hname⟩
  · obtain ⟨v', hstays, hresolved⟩ := hK.live v hlive
    obtain ⟨v'', hstays', hstatus⟩ := Stays.moves hmoves hstays
    exact ⟨v'', hstays', fun hunwritten => hstatus ▸ hresolved hunwritten⟩
  · obtain ⟨before, hbefore, hstatus⟩ := Stays.moves_back hmoves hstays
    rw [hstatus]
    exact hK.doomed v hdoomed before hbefore
  · obtain ⟨work, hwork, -⟩ := hmoves.back key work' hown
    exact hK.gone v key e hdoomed he hsaw work hwork
  · exact hK.secret v hdoomed hanswered secret ((hcells.secrets _ secret howner).mp hsecret) howner

/-! ## The calls of a round -/

/-- The deletion takes the finalizer away. -/
theorem released_held (v : VirtualCluster) : v.released.held = false := by
  simp [VirtualCluster.held, VirtualCluster.released, removeString, containsString]

/-- An adopted object has the finalizer. -/
theorem adopted_held (v : VirtualCluster) : v.adopted.held = true := by
  simp [VirtualCluster.held, VirtualCluster.adopted, containsString]

/-- What a call does to `u`, as it stands in the store before and after: `e` is the call with its answer. -/
inductive ClusterStep (Γ : Ctx) (cfg : Config) (rt : Runtime) (key : NamespacedName) (h : List Event) (e : Event)
    (before after : Option VirtualCluster) : Prop where
  | kept : after = before → ClusterStep Γ cfg rt key h e before after
  | adopted {v current v' : VirtualCluster} : h = [event (.api (.getVirtualCluster key)) (.ok v)] → v.held = false →
      v.deleting = false → before = some current → after = some v' → v'.held = true → v'.status = current.status →
      ClusterStep Γ cfg rt key h e before after
  | persisted {h₀ tail : List Event} {current v' : VirtualCluster} : h = h₀ ++ tail → (∀ e ∈ tail, isTry e = true) →
      Exit Γ cfg rt key h₀ v'.status → before = some current → after = some v' → v'.held = current.held →
      (∃ o answer, e = event (.api (.updateVirtualClusterStatus o)) answer) → isTry e = false →
      ClusterStep Γ cfg rt key h e before after
  | released {v : VirtualCluster} {managedCluster : String} :
    Doomed key h v → SecretGone v h → LooksIn v h managedCluster →
      WorkGone h (v.instanceKey managedCluster) → WorkGone h (v.foundationKey managedCluster) →
      (∀ v', after = some v' → v'.held = false ∧ ∃ current, before = some current ∧ v'.status = current.status) →
      ClusterStep Γ cfg rt key h e before after

/-- The calls of a round, at the name of `u`. -/
theorem clusterStep_of_clusters (hid : Identity u w h)
    (hstep : ClustersStep Γ rt u.key h cfg e w.virtualClusters w'.virtualClusters) :
    ClusterStep Γ cfg rt u.key h e (w.virtualClusters.find u.key) (w'.virtualClusters.find u.key) := by
  generalize w'.virtualClusters = clusters' at hstep ⊢
  cases hstep with
  | kept => exact .kept rfl
  | @adopted v current version hh hdeleting hheld hfind =>
    have hv : Same u v := hid.read v (hh ▸ List.mem_singleton.mpr rfl)
    have hput : (w.virtualClusters.put (Store.asUpdated version current v.adopted)).find u.key =
        some (Store.asUpdated version current v.adopted) := (Store.find_put _ _ _).trans (if_pos hv.key.symm)
    have hbefore : w.virtualClusters.find u.key = some current := hv.key ▸ hfind
    exact .adopted hh hheld hdeleting hbefore hput (adopted_held v) rfl
  | @persisted h₀ tail o current version hh htry hexit hfind he hwritten =>
    by_cases hkey : u.key = o.key
    · have hkeyed : current.key = o.key := Store.find_keyed hfind
      have hput : (w.virtualClusters.put (Store.withStatus version current o)).find u.key =
        some (Store.withStatus version current o) :=
        (Store.find_put _ _ _).trans (if_pos (hkey.trans hkeyed.symm))
      have hbefore : w.virtualClusters.find u.key = some current := hkey ▸ hfind
      obtain ⟨answer, he⟩ := he
      have hstatus : (Store.withStatus version current o).status = o.status := rfl
      exact .persisted hh htry (hstatus ▸ hexit) hbefore hput rfl ⟨o, answer, he⟩ hwritten
    · have hkeyed : current.key = o.key := Store.find_keyed hfind
      exact .kept ((Store.find_put _ _ _).trans (if_neg fun heq => hkey (heq.trans hkeyed)))
  | @released v managedCluster clusters' hdoomed hsecret hlooks hinstance hfoundation hclusters =>
    refine .released hdoomed hsecret hlooks hinstance hfoundation fun v' hv' => ?_
    have hv := Identity.doomed hid hdoomed
    rcases hclusters with ⟨version, current, hfind, heq⟩ | heq <;> rw [heq] at hv'
    · have hput : (w.virtualClusters.put (Store.asUpdated version current v.released)).find u.key =
          some (Store.asUpdated version current v.released) := (Store.find_put _ _ _).trans (if_pos hv.key.symm)
      obtain rfl := Option.some.inj (hput.symm.trans hv')
      exact ⟨released_held v, current, hv.key ▸ hfind, rfl⟩
    · rw [Store.find_remove, if_pos hv.key.symm] at hv'
      nomatch hv'

/-- A deletion works on one VirtualCluster. -/
theorem Doomed.unique {key : NamespacedName} {v' : VirtualCluster} (hv : Doomed key h v)
    (hv' : Doomed key h v') : v = v' := by
  cases hv with
  | read => cases hv' with
    | read => rfl

/-- Tries that meet conflicts write nothing. -/
theorem unwritten_of_tries {h₀ tail : List Event} (hnone : Unpersisted h₀) (htry : ∀ e ∈ tail, isTry e = true) :
    Unwritten (h₀ ++ tail) := by
  intro o answer hsaw
  rcases List.mem_append.mp hsaw with hsaw | hsaw
  · exact absurd hsaw (hnone o answer)
  · exact htry _ hsaw

/-- A status that is written at the end of a round is proper, and its snapshot is the one that is stored, or is of the
Cell that the round has read, and none is stored. -/
theorem snapshot_of_exit (hK : AnchoredRound u w h) {h₀ tail : List Event} {status : VirtualClusterStatus}
    {current : VirtualCluster} (hh : h = h₀ ++ tail) (htry : ∀ e ∈ tail, isTry e = true)
    (hexit : Exit Γ cfg rt u.key h₀ status) (hfind : w.virtualClusters.find u.key = some current)
    (hproper : Proper current) :
    (status.resolved.hostNamespace = "" → status.resolved.managedClusterName = "") ∧
      ((current.held = true → status.resolved = current.status.resolved) ∨
        current.status.resolved.managedClusterName = "" ∧
        ∃ cell, Saw h (.api (.getCell u.cellKey)) (.ok cell) ∧
          status.resolved.managedClusterName = cell.spec.managedClusterRef.name) := by
  subst hh
  cases hexit with
  | @live v hlive hnone hsnapshot _ _ =>
    have hunwritten := unwritten_of_tries hnone htry
    obtain ⟨stored, hstays, hresolved⟩ := hK.live v (Live.append hlive tail)
    obtain rfl : stored = current := Option.some.inj (hstays.1.symm.trans hfind)
    rcases hsnapshot with heq | ⟨hempty, cell, virtualNodeClass, resolved, hcell, hresolves, heq⟩
    · rw [heq, ← hresolved hunwritten]
      exact ⟨hproper, Or.inl fun _ => rfl⟩
    · have hsame := Identity.live hK.identity (Live.append hlive tail)
      obtain ⟨-, rfl⟩ := (resolveVirtualCluster_ok_iff _ _ _ _).mp hresolves
      rw [heq]
      rw [← hresolved hunwritten] at hempty
      exact ⟨fun hnamespace => absurd hnamespace (hostNamespace_ne_empty v),
        Or.inr ⟨hproper hempty, cell, Same.cellKey hsame ▸ Saw.append hcell tail, rfl⟩⟩
  | @doomed v hdoomed hresolved _ =>
    have hread : Saw h₀ (.api (.getVirtualCluster u.key)) (.ok v) := by
      cases hdoomed with
      | read => exact List.mem_cons_self ..
    rw [hresolved]
    exact ⟨hK.proper v (Saw.append hread tail),
      Or.inl fun hheld => (hK.doomed v (Doomed.append hdoomed tail) current ⟨hfind, hheld⟩).symm⟩

/-- The finalizer stays over a call, with the snapshot or with a new one where there was none, unless the
deletion takes it away. -/
theorem stays_call (hI : Anchored u w) (hK : AnchoredRound u w h)
    (hstep : ClusterStep Γ cfg rt u.key h e (w.virtualClusters.find u.key) (w'.virtualClusters.find u.key))
    (hstays : Stays u w v) :
    (∃ v', Stays u w' v' ∧ v'.status.resolved = v.status.resolved) ∨
      (∃ v' cell, Stays u w' v' ∧ v.status.resolved.managedClusterName = "" ∧
        Saw h (.api (.getCell u.cellKey)) (.ok cell) ∧
        v'.status.resolved.managedClusterName = cell.spec.managedClusterRef.name ∧
        (∃ o answer, e = event (.api (.updateVirtualClusterStatus o)) answer) ∧ isTry e = false) ∨
      ∃ v₀ managedCluster, Doomed u.key h v₀ ∧ SecretGone v₀ h ∧ LooksIn v₀ h managedCluster ∧
        WorkGone h (v₀.instanceKey managedCluster) ∧ WorkGone h (v₀.foundationKey managedCluster) := by
  obtain ⟨hfind, hheld⟩ := hstays
  cases hstep with
  | kept heq => exact Or.inl ⟨v, ⟨heq.trans hfind, hheld⟩, rfl⟩
  | @adopted _ current v' _ _ _ hbefore hafter hheld' hstatus =>
    obtain rfl : current = v := Option.some.inj (hbefore.symm.trans hfind)
    exact Or.inl ⟨v', ⟨hafter, hheld'⟩, congrArg _ hstatus⟩
  | @persisted h₀ tail current v' hh htry hexit hbefore hafter hheld' he hwritten =>
    obtain rfl : current = v := Option.some.inj (hbefore.symm.trans hfind)
    have hstays' : Stays u w' v' := ⟨hafter, hheld'.trans hheld⟩
    rcases (snapshot_of_exit hK hh htry hexit hfind (hI.proper _ hfind)).2 with heq | ⟨hempty, cell, hcell, hname⟩
    · exact Or.inl ⟨v', hstays', heq hheld⟩
    · exact Or.inr (Or.inl ⟨v', cell, hstays', hempty, hcell, hname, he, hwritten⟩)
  | @released v₀ managedCluster hdoomed hsecret hlooks hinstance hfoundation _ =>
    exact Or.inr (Or.inr ⟨v₀, managedCluster, hdoomed, hsecret, hlooks, hinstance, hfoundation⟩)

/-- Where the deletion has looked when it takes the finalizer away. -/
theorem not_owns_of_looksIn (hK : AnchoredRound u w h) {v₀ : VirtualCluster} {managedCluster : String}
    (hdoomed : Doomed u.key h v₀) (hlooks : LooksIn v₀ h managedCluster)
    (hinstance : WorkGone h (v₀.instanceKey managedCluster))
    (hfoundation : WorkGone h (v₀.foundationKey managedCluster)) {key : NamespacedName}
    (hsheltered : Sheltered u w key) (work : ManifestWork) : ¬Owns u w.works key work := by
  obtain ⟨v, anchor, hstays, ⟨hne, hanchored⟩, hkey⟩ := hsheltered
  have hsame := Identity.doomed hK.identity hdoomed
  have hresolved := hK.doomed v₀ hdoomed v hstays
  rw [hresolved] at hanchored
  obtain rfl : managedCluster = anchor := by
    cases hlooks with
    | snapshot heq hne' =>
      rcases hanchored with hsnapshot | ⟨hempty, -⟩
      · exact heq.symm.trans hsnapshot
      · exact absurd (heq.symm.trans hempty) hne'
    | @cell cell hempty hsaw hname =>
      rcases hanchored with hsnapshot | ⟨-, stored, hstored, hanchor⟩
      · exact absurd (hsnapshot.symm.trans hempty) hne
      · rw [Same.cellKey hsame] at hsaw
        obtain ⟨stored', hstored', hname'⟩ := (hK.cells cell hsaw).2 v hstays (hresolved ▸ hempty)
        obtain rfl : stored = stored' := Option.some.inj (hstored.symm.trans hstored')
        exact hname.symm.trans (hname'.symm.trans hanchor)
  have hgone : ∀ {workKey : NamespacedName}, workKey.ns = managedCluster → WorkGone h workKey →
    ¬Owns u w.works workKey work := by
    intro workKey hns hgone
    rcases hgone with hempty | ⟨e, he, hsaw⟩
    · exact absurd (hns.symm.trans hempty) hne
    · exact hK.gone v₀ workKey e hdoomed he hsaw work
  rcases hkey with rfl | rfl
  · rw [← Same.foundationKey hsame]
    exact hgone rfl hfoundation
  · rw [← Same.instanceKey hsame]
    exact hgone rfl hinstance

/-- What a round writes behind its gate its deletion would find. -/
theorem sheltered_of_gate (hI : Anchored u w) (hK : AnchoredRound u w h) {cell : Cell} {key : NamespacedName}
    (hgate : Gate Γ rt u.key h v cell key) (hnone : Unpersisted h) : Sheltered u w key := by
  have hhost := Gate.toHostGate hgate
  have hsame := Identity.live hK.identity hhost.live
  obtain ⟨stored, hstays, hresolved⟩ := hK.live v hhost.live
  have hresolved := hresolved fun o answer hsaw => absurd hsaw (hnone o answer)
  have hread := hhost.readCell
  rw [Same.cellKey hsame] at hread
  obtain ⟨hne, hcell⟩ := hK.cells cell hread
  refine ⟨stored, cell.spec.managedClusterRef.name, hstays, ⟨hne, ?_⟩, ?_⟩
  · by_cases hempty : stored.status.resolved.managedClusterName = ""
    · exact Or.inr ⟨hempty, hcell stored hstays hempty⟩
    · -- there is a snapshot, and the round has compared it with the Cell
      obtain ⟨virtualNodeClass, -, hplan⟩ := hhost.plan
      obtain ⟨resolved, hresolves, hmatch⟩ := hplan.resolves
      obtain ⟨-, rfl⟩ := (resolveVirtualCluster_ok_iff _ _ _ _).mp hresolves
      rw [← hresolved] at hmatch
      rcases hmatch with hnamespace | hmatch
      · exact absurd (hI.proper stored hstays.1 hnamespace) hempty
      · simp only [sameResolvedProvider, Bool.and_eq_true, beq_iff_eq] at hmatch
        exact Or.inl (by tauto)
  · cases hgate with
    | foundation => exact Or.inl (Same.foundationKey hsame _)
    | instanceWork => exact Or.inr (Same.instanceKey hsame _)

/-- A call leaves a name sheltered, unless it takes the finalizer away, and then no Work stands there. -/
theorem sheltered_call (hI : Anchored u w) (hK : AnchoredRound u w h) (heffects : Effects Γ rt u.key h cfg e w w')
    {key : NamespacedName} (hsheltered : Sheltered u w key)
    (hdeletion : ∀ v, Doomed u.key h v → ∃ work, Owns u w.works key work) : Sheltered u w' key := by
  have hstep := clusterStep_of_clusters hK.identity heffects.clusters
  have hsheltered' := hsheltered
  obtain ⟨v, managedCluster, hstays, ⟨hne, hanchored⟩, hkey⟩ := hsheltered'
  rcases stays_call hI hK hstep hstays with ⟨v', hstays', hresolved⟩ | ⟨v', cell, hstays', hempty, hcell, hname, -, -⟩ |
    ⟨v₀, looked, hdoomed, -, hlooks, hinstance, hfoundation⟩
  · refine ⟨v', managedCluster, hstays', ⟨hne, ?_⟩, hkey⟩
    rw [hresolved, heffects.cells]
    exact hanchored
  · refine ⟨v', managedCluster, hstays', ⟨hne, Or.inl (hname.trans ?_)⟩, hkey⟩
    rcases hanchored with hsnapshot | ⟨-, stored, hstored, hanchor⟩
    · exact absurd (hsnapshot.symm.trans hempty) hne
    · obtain ⟨stored', hstored', hname'⟩ := (hK.cells cell hcell).2 v hstays hempty
      obtain rfl : stored = stored' := Option.some.inj (hstored.symm.trans hstored')
      exact hname'.symm.trans hanchor
  · obtain ⟨work, hown⟩ := hdeletion v₀ hdoomed
    exact absurd hown (not_owns_of_looksIn hK hdoomed hlooks hinstance hfoundation hsheltered work)

/-- A Secret of `u` after a call was there before, or is written by a round that provisions. -/
theorem secrets_origin (hI : Anchored u w) (hid : Identity u w h) (hstep : SecretsStep Γ u.key h w.secrets w'.secrets)
    {key : NamespacedName} {secret : Secret} (hfind : w'.secrets.find key = some secret)
    (howner : secret.metadata.ownerUID = u.metadata.uid) :
    w.secrets.find key = some secret ∨ key = u.secretKey ∧ secret.metadata.finalizers = [] ∧ ∃ v, Live u.key h v := by
  generalize w'.secrets = secrets' at hstep hfind
  -- the Secret of the VirtualCluster is put, be it new or not
  have hput : ∀ (v : VirtualCluster) (stored : Secret), Live u.key h v → stored.metadata.key = v.secretKey →
      stored.metadata.finalizers = [] → (w.secrets.put stored).find key = some secret →
      w.secrets.find key = some secret ∨ key = u.secretKey ∧ secret.metadata.finalizers = [] ∧ ∃ v, Live u.key h v := by
    intro v stored hlive hstored hfinalizers hfind
    rw [Store.find_put] at hfind
    split_ifs at hfind with hkey
    · cases hfind
      have hkey' : key = v.secretKey := hkey.trans hstored
      exact Or.inr ⟨hkey'.trans (Same.secretKey (Identity.live hid hlive)), hfinalizers, v, hlive⟩
    · exact Or.inl hfind
  cases hstep with
  | kept => exact Or.inl hfind
  | @created v data version hlive _ => exact hput v _ hlive rfl rfl hfind
  | @updated v o current version hlive _ ho _ =>
    obtain ⟨data, resourceVersion, rfl⟩ := ho
    exact hput v _ hlive rfl rfl hfind
  | @vacated v hlive _ =>
    rw [Store.find_remove] at hfind
    split_ifs at hfind
    exact Or.inl hfind
  | @removed v seen hdoomed _ _ =>
    rw [Store.find_remove] at hfind
    split_ifs at hfind
    exact Or.inl hfind
  | @marked v seen current version hdoomed _ _ hcurrent hfinalizers =>
    rw [Store.find_put] at hfind
    split_ifs at hfind with hkey
    · cases hfind
      exact absurd (hI.secrets _ current hcurrent howner).2.1 hfinalizers
    · exact Or.inl hfind

/-- A Secret that is found gone stays gone as far as the deletion is concerned. -/
theorem secretAnswered_of_gone (hid : Identity u w h) {v₀ : VirtualCluster} (hdoomed : Doomed u.key h v₀)
    (hgone : SecretGone v₀ h) :
    SecretAnswered u h := by
  have hkey := Same.secretKey (Identity.doomed hid hdoomed)
  cases hgone with
  | missing he hsaw => exact Or.inl ⟨_, he, Or.inl (hkey ▸ hsaw)⟩
  | @deleted secret hread hsaw =>
    rw [hid.secrets _ secret hread, hkey] at hsaw
    exact Or.inr hsaw
  | @vanished secret e he hread hsaw =>
    rw [hid.secrets _ secret hread, hkey] at hsaw
    exact Or.inl ⟨e, he, Or.inr hsaw⟩

/-- A call of a round leaves the object anchored. -/
theorem Anchored.call (hI : Anchored u w) (hK : AnchoredRound u w h)
    (heffects : Effects Γ rt u.key h cfg e w w') : Anchored u w' := by
  have hid := hK.identity
  have hstep := clusterStep_of_clusters hid heffects.clusters
  refine ⟨Identity.stored_step hid heffects, fun v' hv' => ?_, heffects.cells ▸ hI.cells, fun key work' hown => ?_,
    fun key secret hfind howner => ?_⟩
  · cases hstep with
    | kept heq => exact hI.proper v' (heq ▸ hv')
    | @adopted _ current after _ _ _ hbefore hafter _ hstatus =>
      obtain rfl : after = v' := Option.some.inj (hafter.symm.trans hv')
      rw [Proper, hstatus]
      exact hI.proper current hbefore
    | @persisted h₀ tail current after hh htry hexit hbefore hafter _ _ _ =>
      obtain rfl : after = v' := Option.some.inj (hafter.symm.trans hv')
      exact (snapshot_of_exit hK hh htry hexit hbefore (hI.proper current hbefore)).1
    | released _ _ _ _ _ hafter =>
      obtain ⟨-, current, hbefore, hstatus⟩ := hafter v' hv'
      rw [Proper, hstatus]
      exact hI.proper current hbefore
  · rcases works_origin hid heffects.works
      hown with ⟨work, hwork, -⟩ | ⟨work, v, hwork, -, -⟩ | ⟨v, cell, hgate, hnone, -⟩
    · exact sheltered_call hI hK heffects (hI.works key work hwork) fun _ _ => ⟨work, hwork⟩
    · exact sheltered_call hI hK heffects (hI.works key work hwork) fun _ _ => ⟨work, hwork⟩
    · exact sheltered_call hI hK heffects (sheltered_of_gate hI hK hgate hnone) fun _ hdoomed =>
        absurd hdoomed (Live.not_doomed (Gate.toHostGate hgate).live)
  · -- the Secret is where the deletion looks for it, and the finalizer goes only after the Secret
    have hkept : ∀ v, Stays u w v → (∀ v₀, Doomed u.key h v₀ → w.secrets.find u.secretKey = some secret) →
      ∃ v', Stays u w' v' := by
      intro v hstays hdeletion
      rcases stays_call hI hK hstep hstays with ⟨v', hstays', -⟩ | ⟨v', -, hstays', -⟩ | ⟨v₀, -, hdoomed, hgone, -⟩
      · exact ⟨v', hstays'⟩
      · exact ⟨v', hstays'⟩
      · exact absurd howner (hK.secret v₀ hdoomed (secretAnswered_of_gone hid hdoomed hgone) secret
          (hdeletion v₀ hdoomed))
    rcases secrets_origin hI hid heffects.secrets hfind howner with hbefore | ⟨hkey, hfinalizers, v, hlive⟩
    · obtain ⟨hkey, hfinalizers, v, hstays⟩ := hI.secrets key secret hbefore howner
      exact ⟨hkey, hfinalizers, hkept v hstays fun _ _ => hkey ▸ hbefore⟩
    · obtain ⟨v', hstays, -⟩ := hK.live v hlive
      exact ⟨hkey, hfinalizers, hkept v' hstays fun v₀ hdoomed => absurd hdoomed (Live.not_doomed hlive)⟩

/-- A deletion that is told that the Secret is not there, or that it is deleted, finds no Secret of `u` afterwards. -/
theorem secret_answered_now (hI : Anchored u w) {call : ApiCall} {r : Except Err call.Res}
    (hx : World.Exec w (.api call) r w')
    (hnow : (∃ e : Err, e.isNotFound = true ∧
      (event (.api call) r = event (.api (.getSecret u.secretKey)) (.error e) ∨
        event (.api call) r = event (.api (.deleteSecret u.secretKey)) (.error e))) ∨
          event (.api call) r = event (.api (.deleteSecret u.secretKey)) (.ok ()))
    {secret : Secret} (hfind : w'.secrets.find u.secretKey = some secret) :
    secret.metadata.ownerUID ≠ u.metadata.uid := by
  intro howner
  rcases hnow with ⟨e, he, heq | heq⟩ | heq <;> cases heq
  · obtain ⟨hnone, rfl⟩ := none_of_getSecret hx he
    cases hnone.symm.trans hfind
  · obtain ⟨hr, rfl⟩ := served_of_notFound hx he
    rw [World.serve] at hr hfind
    dsimp only at hr hfind
    rcases Store.delete_cases w.secrets w.version u.secretKey with ⟨⟨e, heq⟩, hnone⟩ | ⟨current, -, hok, -⟩
    · rw [heq, hnone] at hfind
      cases hfind
    · cases hok.symm.trans hr
  · obtain ⟨hr, rfl⟩ := served_of_ok hx
    rw [World.serve] at hr hfind
    dsimp only at hr hfind
    rcases Store.delete_cases w.secrets w.version u.secretKey with ⟨⟨e, heq⟩, hnone⟩ | ⟨current, hcurrent, -, hcases⟩
    · rw [heq, hnone] at hfind
      cases hfind
    · -- a Secret of `u` has no finalizers, so that it goes at once
      have hfinalizers : current.metadata.ownerUID = u.metadata.uid → current.metadata.finalizers = [] := fun howner =>
        (hI.secrets _ current hcurrent howner).2.1
      rcases hcases with ⟨-, heq⟩ | ⟨hne, -, heq⟩ | ⟨hne, -, heq⟩ <;> rw [heq] at hfind
      · rw [Store.find_remove, if_pos rfl] at hfind
        cases hfind
      · obtain rfl : current = secret := Option.some.inj (hcurrent.symm.trans hfind)
        exact hne (hfinalizers howner)
      · have hkeyed : current.metadata.key = u.secretKey := Store.find_keyed hcurrent
        rw [Store.find_put, if_pos (show u.secretKey =
          (Resource.metadata (Store.asDeleted w.version current)).key from hkeyed.symm),
          Option.some.injEq] at hfind
        subst hfind
        exact hne (hfinalizers howner)

/-- A VirtualCluster that carries the finalizer and has no snapshot after a call was so before, or is
given the finalizer now. -/
theorem stays_back (hI : Anchored u w) (hK : AnchoredRound u w h)
    (hstep : ClusterStep Γ cfg rt u.key h e (w.virtualClusters.find u.key) (w'.virtualClusters.find u.key))
      {v' : VirtualCluster}
    (hstays : Stays u w' v') (hempty : v'.status.resolved.managedClusterName = "") :
    (∃ v, Stays u w v ∧ v.status.resolved.managedClusterName = "") ∨
      ∃ v, h = [event (.api (.getVirtualCluster u.key)) (.ok v)] := by
  obtain ⟨hfind, hheld⟩ := hstays
  cases hstep with
  | kept heq => exact Or.inl ⟨v', ⟨heq ▸ hfind, hheld⟩, hempty⟩
  | adopted hh => exact Or.inr ⟨_, hh⟩
  | @persisted h₀ tail current after hh htry hexit hbefore hafter hheld' _ _ =>
    obtain rfl : after = v' := Option.some.inj (hafter.symm.trans hfind)
    have hcurrent : current.held = true := hheld'.symm.trans hheld
    refine Or.inl ⟨current, ⟨hbefore, hcurrent⟩, ?_⟩
    rcases (snapshot_of_exit hK hh htry hexit hbefore (hI.proper current hbefore)).2 with heq | ⟨hnone, -⟩
    · rw [← heq hcurrent]
      exact hempty
    · exact hnone
  | released _ _ _ _ _ hafter =>
    rw [(hafter v' hfind).1] at hheld
    nomatch hheld

/-- What a round that provisions works on it worked on before the last answer, or it is what is stored now. -/
theorem stays_of_live (hid : Identity u w h) {call : Call} {r : call.Res} (hp : Permitted Γ cfg rt u.key h call)
    (hx : World.Exec w call r w') (hlive : Live u.key (h ++ [event call r]) v) : Live u.key h v ∨ Stays u w' v := by
  rcases Live.snoc_cases hlive with hlive | ⟨heq, hheld⟩ | ⟨v₀, heq⟩
  · exact Or.inl hlive
  · cases heq
    obtain ⟨hfind, rfl⟩ := find_of_getVirtualCluster hx
    exact Or.inr ⟨hfind, hheld⟩
  · cases heq
    obtain ⟨hr, rfl⟩ := served_of_ok hx
    have hsame := Identity.update hid hp
    rcases Store.update_cases w.virtualClusters w.version
      v₀.adopted with ⟨e, herror⟩ | ⟨current, hfind, hok, hput | ⟨hnil, -⟩⟩
    · rw [World.serve, herror] at hr
      cases hr
    · rw [World.serve, hok, Except.ok.injEq] at hr
      subst hr
      refine Or.inr ⟨?_, adopted_held v₀⟩
      rw [World.serve]
      dsimp only
      rw [hput]
      exact (Store.find_put _ _ _).trans (if_pos hsame.key.symm)
    · exact absurd hnil (by simp [Resource.metadata, VirtualCluster.adopted])

@[inherit_doc stays_of_live] theorem find_of_doomed {call : Call} {r : call.Res} (hx : World.Exec w call r w')
    (hdoomed : Doomed u.key (h ++ [event call r]) v) : Doomed u.key h v ∨ w'.virtualClusters.find u.key = some v := by
  by_cases hne : h = []
  · subst hne
    generalize he : event call r = e at hdoomed
    cases hdoomed with
    | read =>
      cases he
      obtain ⟨hfind, rfl⟩ := find_of_getVirtualCluster hx
      exact Or.inr hfind
  · exact Or.inl (Doomed.of_append hdoomed hne)

/-- A history in which something was seen is not empty. -/
theorem ne_nil_of_saw {call : Call} {answer : call.Res} (hsaw : Saw h call answer) : h ≠ [] := by
  rintro rfl
  exact List.not_mem_nil hsaw

/-- That the Secret is gone was answered before the last call, or it is answered now. -/
theorem secretAnswered_snoc (hanswered : SecretAnswered u (h ++ [e])) :
    h ≠ [] ∧ SecretAnswered u h ∨
      ((∃ err : Err, err.isNotFound = true ∧ (e = event (.api (.getSecret u.secretKey)) (.error err) ∨
        e = event (.api (.deleteSecret u.secretKey)) (.error err))) ∨
          e = event (.api (.deleteSecret u.secretKey)) (.ok ())) := by
  rcases hanswered with ⟨err, herr, hsaw | hsaw⟩ | hsaw <;> rcases saw_snoc hsaw with hsaw | heq
  · exact Or.inl ⟨ne_nil_of_saw hsaw, Or.inl ⟨err, herr, Or.inl hsaw⟩⟩
  · exact Or.inr (Or.inl ⟨err, herr, Or.inl heq⟩)
  · exact Or.inl ⟨ne_nil_of_saw hsaw, Or.inl ⟨err, herr, Or.inr hsaw⟩⟩
  · exact Or.inr (Or.inl ⟨err, herr, Or.inr heq⟩)
  · exact Or.inl ⟨ne_nil_of_saw hsaw, Or.inr hsaw⟩
  · exact Or.inr (Or.inr heq)

section Call

variable {call : Call} {r : call.Res} (hK : AnchoredRound u w h) (hp : Permitted Γ cfg rt u.key h call)
  (hx : World.Exec w call r w')

include hK hp hx

/-- After a call, the Cell that the round has read still stands as long as there is no snapshot. -/
theorem AnchoredRound.cells_call (hI : Anchored u w) {cell : Cell}
    (hsaw : Saw (h ++ [event call r]) (.api (.getCell u.cellKey)) (.ok cell)) :
    cell.spec.managedClusterRef.name ≠ "" ∧ ∀ v, Stays u w' v → v.status.resolved.managedClusterName = "" →
      ∃ cell', w'.cells.find u.cellKey = some cell' ∧ cell'.spec.managedClusterRef.name =
        cell.spec.managedClusterRef.name := by
  have heffects := effects_of_permitted hp hx
  have hstep := clusterStep_of_clusters hK.identity heffects.clusters
  rcases saw_snoc hsaw with hsaw | heq
  · obtain ⟨hne, hcell⟩ := hK.cells cell hsaw
    refine ⟨hne, fun v' hstays hempty => ?_⟩
    rw [heffects.cells]
    rcases stays_back hI hK hstep hstays hempty with ⟨v, hstays', hempty'⟩ | ⟨v, rfl⟩
    · exact hcell v hstays' hempty'
    · nomatch congrArg Sigma.fst (List.mem_singleton.mp hsaw)
  · cases heq
    obtain ⟨hfind, rfl⟩ := find_of_getCell hx
    exact ⟨hI.cells cell hfind, fun _ _ _ => ⟨cell, hfind, rfl⟩⟩

/-- A round that provisions still holds on to the finalizer, and to the snapshot until it writes one. -/
theorem AnchoredRound.live_call (hI : Anchored u w) (hlive : Live u.key (h ++ [event call r]) v) :
    ∃ v', Stays u w' v' ∧ (Unwritten (h ++ [event call r]) → v'.status.resolved = v.status.resolved) := by
  have hstep := clusterStep_of_clusters hK.identity (effects_of_permitted hp hx).clusters
  rcases stays_of_live hK.identity hp hx hlive with hlive | hstored
  · obtain ⟨stored, hstays, hresolved⟩ := hK.live v hlive
    rcases stays_call hI hK hstep hstays with ⟨v', hstays', heq⟩ | ⟨v', -, hstays', -, -, -,
      ⟨o, answer, he⟩, hwritten⟩ |
      ⟨v₀, -, hdoomed, -⟩
    · exact ⟨v', hstays', fun hunwritten => heq.trans
        (hresolved fun o answer hsaw => hunwritten o answer (Saw.append hsaw _))⟩
    · refine ⟨v', hstays', fun hunwritten => ?_⟩
      rw [he] at hunwritten hwritten
      rw [hunwritten o answer (saw_last h _ answer)] at hwritten
      nomatch hwritten
    · exact absurd hdoomed (Live.not_doomed hlive)
  · exact ⟨v, hstored, fun _ => rfl⟩

/-- A deletion still finds the snapshot that it has read. -/
theorem AnchoredRound.doomed_call (hdoomed : Doomed u.key (h ++ [event call r]) v) {v' : VirtualCluster}
    (hstays : Stays u w' v') :
    v'.status.resolved = v.status.resolved := by
  have hstep := clusterStep_of_clusters hK.identity (effects_of_permitted hp hx).clusters
  rcases find_of_doomed hx hdoomed with hdoomed' | hstored
  · obtain ⟨hfind, hheld⟩ := hstays
    cases hstep with
    | kept heq => exact hK.doomed v hdoomed' v' ⟨heq ▸ hfind, hheld⟩
    | adopted hh _ hdeleting =>
      subst hh
      cases hdoomed' with
      | read hdeleting' => simp [hdeleting] at hdeleting'
    | @persisted h₀ tail current after hh _ hexit hbefore hafter _ _ _ =>
      obtain rfl : after = v' := Option.some.inj (hafter.symm.trans hfind)
      subst hh
      cases hexit with
      | live hlive => exact absurd hdoomed' (Live.not_doomed (Live.append hlive tail))
      | doomed hdoomed₀ hresolved _ =>
        rw [hresolved, Doomed.unique (Doomed.append hdoomed₀ tail) hdoomed']
    | released _ _ _ _ _ hafter =>
      rw [(hafter v' hfind).1] at hheld
      nomatch hheld
  · rw [Option.some.inj (hstored.symm.trans hstays.1)]

/-- A Work that a deletion has found gone is still gone. -/
theorem AnchoredRound.gone_call (hdoomed : Doomed u.key (h ++ [event call r]) v) {key : NamespacedName} {err : Err}
    (herr : err.isNotFound = true) (hsaw : Saw (h ++ [event call r]) (.api (.getWork key)) (.error err))
    (work : ManifestWork) :
    ¬Owns u w'.works key work := by
  intro hown
  rcases saw_snoc hsaw with hsaw | heq
  · have hdoomed' := Doomed.of_append hdoomed (ne_nil_of_saw hsaw)
    rcases works_origin hK.identity
      (effects_of_permitted hp hx).works hown with ⟨work, hwork, -⟩ | ⟨work, v, hwork, -, -⟩ |
      ⟨v, cell, hgate, -, -⟩
    · exact hK.gone _ key err hdoomed' herr hsaw work hwork
    · exact hK.gone _ key err hdoomed' herr hsaw work hwork
    · exact Live.not_doomed (Gate.toHostGate hgate).live hdoomed'
  · cases heq
    obtain ⟨hnone, rfl⟩ := none_of_getWork hx herr
    nomatch hnone.symm.trans hown.1

/-- So is the Secret, once that was answered. -/
theorem AnchoredRound.secret_call (hI : Anchored u w) (hdoomed : Doomed u.key (h ++ [event call r]) v)
    (hanswered : SecretAnswered u (h ++ [event call r])) {secret : Secret}
    (hfind : w'.secrets.find u.secretKey = some secret) :
    secret.metadata.ownerUID ≠ u.metadata.uid := by
  intro howner
  rcases secretAnswered_snoc hanswered with ⟨hne, hanswered⟩ | hnow
  · have hdoomed' := Doomed.of_append hdoomed hne
    rcases secrets_origin hI hK.identity
      (effects_of_permitted hp hx).secrets hfind howner with hbefore | ⟨-, -, v₀, hlive⟩
    · exact hK.secret v hdoomed' hanswered secret hbefore howner
    · exact Live.not_doomed hlive hdoomed'
  · cases call with
    | api call => exact secret_answered_now hI hx hnow hfind howner
    | host call => rcases hnow with ⟨e, -, heq | heq⟩ | heq <;> nomatch congrArg Sigma.fst heq

end Call

/-- A call of a round leaves the round anchored. -/
theorem AnchoredRound.call (hI : Anchored u w) (hK : AnchoredRound u w h) {call : Call} {r : call.Res}
    (hp : Permitted Γ cfg rt u.key h call) (hx : World.Exec w call r w') :
    AnchoredRound u w' (h ++ [event call r]) where
  identity := Identity.step hK.identity hp hx
  proper v hsaw := by
    rcases saw_snoc hsaw with hsaw | heq
    · exact hK.proper v hsaw
    · cases heq
      exact hI.proper v (find_of_getVirtualCluster hx).1
  cells _ hsaw := AnchoredRound.cells_call hK hp hx hI hsaw
  live _ hlive := AnchoredRound.live_call hK hp hx hI hlive
  doomed _ hdoomed _ hstays := AnchoredRound.doomed_call hK hp hx hdoomed hstays
  gone _ _ _ hdoomed herr hsaw work := AnchoredRound.gone_call hK hp hx hdoomed herr hsaw work
  secret _ hdoomed hanswered _ hfind := AnchoredRound.secret_call hK hp hx hI hdoomed hanswered hfind

/-- What holds in every reachable state. -/
theorem holds_of_reachable {s : Sys World Event Call Call.Res (Except Err Result)}
    (hs : Sys.Reachable (system Γ cfg u (CellChanges u (KeepsManagedCluster u))) (Unprovisioned u) s) :
    Sys.Holds (system Γ cfg u (CellChanges u (KeepsManagedCluster u))) (Anchored u) (AnchoredRound u)
      (fun h call => ∃ rt, Permitted Γ cfg rt u.key h call) s := by
  refine Sys.invariant (fun w hw => ?_) (fun w hI => ?_) ?_ (fun w w' henv hI => ?_)
    (fun w call r w' h hI hK hG hx => ?_) hs
  · refine ⟨fun v hv => (hw.stored v hv).1, fun v hv _ => ?_, fun cell hcell => managedCluster_ne_empty
      (hw.cells cell hcell),
      fun key work hown => absurd hown (hw.works key work), fun key secret hfind howner => absurd howner
        (hw.secrets key secret hfind)⟩
    rw [(hw.stored v hv).2]
  · exact ⟨Identity.start hI.stored, fun _ hsaw => (List.not_mem_nil hsaw).elim,
      fun _ hsaw => (List.not_mem_nil hsaw).elim,
      fun _ hlive => (nomatch hlive), fun _ hdoomed => (nomatch hdoomed), fun _ _ _ hdoomed => (nomatch hdoomed),
      fun _ hdoomed => (nomatch hdoomed)⟩
  · rintro p ⟨rt, rfl⟩
    exact (safe_reconcile Γ cfg rt u.key).mono (fun h call hp => ⟨rt, hp⟩) fun _ _ _ => trivial
  · have hmoves := moves_of_environment henv
    have hcells := cellMoves_of_environment henv
    exact ⟨Anchored.moves hI hmoves hcells, fun h hK => AnchoredRound.moves hK hmoves hcells⟩
  · obtain ⟨rt, hp⟩ := hG
    exact ⟨Anchored.call hI hK (effects_of_permitted hp hx), AnchoredRound.call hI hK hp hx⟩

end AnchoredAux
end KubeCell
