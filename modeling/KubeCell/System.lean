import KubeCell.CellReconcile
import KubeCell.Round

/-!
# The reconciler among the others

The rounds of one VirtualCluster, in a world that changes under them: OCM reports on Works and completes
their deletion, a user deletes the VirtualCluster, and everybody else does what is none of its business,
within what a result asks of them.
-/

namespace KubeCell

/-- What OCM does with the Works: it reports on one, or sets and clears its own finalizers on it, and it takes one
away whose deletion was requested when the host has been cleaned up. -/
inductive OcmStep (works : Store ManifestWork) : Store ManifestWork → Prop where
  | report {work reported : ManifestWork} : works.find work.metadata.key = some work →
    reported.metadata.key = work.metadata.key →
      reported.metadata.labels = work.metadata.labels →
      reported.metadata.deletionTimestamp = work.metadata.deletionTimestamp → OcmStep works (works.put reported)
  | complete {key : NamespacedName} {work : ManifestWork} : works.find key = some work → Store.terminating work = true →
      OcmStep works (works.remove key)

/-- The objects of a store that are labelled with the UID are the same in another. -/
def SameOwned {α : Type} [Resource α] (uid : String) (s s' : Store α) : Prop :=
  ∀ key o, (Resource.metadata o).ownerUID = uid → (s'.find key = some o ↔ s.find key = some o)

/-- A Work of the VirtualCluster stands under a name. -/
def Owns (u : VirtualCluster) (works : Store ManifestWork) (key : NamespacedName) (work : ManifestWork) : Prop :=
  works.find key = some work ∧ work.metadata.ownerUID = u.metadata.uid

/-- The same VirtualCluster, at another time. -/
structure Same (u v : VirtualCluster) : Prop where
  key : v.key = u.key
  uid : v.metadata.uid = u.metadata.uid
  spec : v.spec = u.spec

/-- What happens to the world between the calls of the rounds of `u`: `Others` says what else changes when it is
neither OCM nor the user of `u`. -/
inductive Environment (u : VirtualCluster) (Others : World → World → Prop) : World → World → Prop where
  | ocm {w : World} {works : Store ManifestWork} :
    OcmStep w.works works → Environment u Others w { w.next with works := works }
  | delete {w : World} : Environment u Others w
      { w.next with virtualClusters := (w.virtualClusters.delete w.version u.key).2 }
  | others {w w' : World} : SameOwned u.metadata.uid w.works w'.works →
      w'.virtualClusters.find u.key = w.virtualClusters.find u.key → Others w w' → Environment u Others w w'

/-- The rounds of `u`, each with its own clock and order of maps. -/
def system (Γ : Ctx) (cfg : Config) (u : VirtualCluster) (Others : World → World → Prop) :
    Sys.Model World Event Call Call.Res (Except Err Result) where
  exec := World.Exec
  obs := event
  env := Environment u Others
  starts p := ∃ rt, p = reconcile Γ cfg rt u.key

/-- The rounds of the VirtualCluster under a name, in a world that changes by itself as `env` says. -/
def clusterSystem (Γ : Ctx) (cfg : Config) (key : NamespacedName) (env : World → World → Prop) :
    Sys.Model World Event Call Call.Res (Except Err Result) where
  exec := World.Exec
  obs := event
  env := env
  starts p := ∃ rt, p = reconcile Γ cfg rt key

/-- The rounds of the Cell under a name, in a world that changes by itself as `env` says. -/
def cellSystem (Γ : Ctx) (cfg : CellConfig) (key : NamespacedName) (env : World → World → Prop) :
    Sys.Model World Event Call Call.Res (Except Err Result) where
  exec := World.Exec
  obs := event
  env := env
  starts p := ∃ rt, p = cellReconcile Γ cfg rt key

/-- The rounds of the Cell under a name whose clocks are as `clock` says, in a world that changes by
itself as `env` says. -/
def clockedCellSystem (Γ : Ctx) (cfg : CellConfig) (key : NamespacedName) (env : World → World → Prop)
    (clock : Runtime → Prop) :
    Sys.Model World Event Call Call.Res (Except Err Result) where
  exec := World.Exec
  obs := event
  env := env
  starts p := ∃ rt, clock rt ∧ p = cellReconcile Γ cfg rt key

/-- The status of the Cell under a name is left alone, or the Cell is new. -/
def CellStatusKept (key : NamespacedName) (w w' : World) : Prop :=
  ∀ cell', w'.cells.find key = some cell' → cell'.status = {} ∨ ∃ cell, w.cells.find key = some cell ∧
    cell'.status = cell.status

/-! ## Watching Works -/

/-- What `SetupWithManager` maps a Work to: the VirtualCluster that its labels name. -/
def requestsForWork (work : ManifestWork) : List NamespacedName :=
  let ns := work.metadata.labels.get labelVirtualClusterNamespace
  let name := work.metadata.labels.get labelVirtualClusterName
  if ns = "" ∨ name = "" then [] else [⟨ns, name⟩]

/-- The rounds that a change of a Work asks for: the Work is mapped as it was and as it is. -/
def watchRequests (before after : Option ManifestWork) : List NamespacedName :=
  (before.toList ++ after.toList).flatMap requestsForWork

end KubeCell
