import KubeCell.Round

/-!
# What a round writes

`Round` says when a round may write; this module says what: on which object a status is put, and from what the two
Works are built (`Writes`). That rounds write nothing else is proved in `Lemmas.Content`.
-/

namespace KubeCell

/-- The round works on the VirtualCluster, deleted or not. -/
def Began (key : NamespacedName) (h : List Event) (v : VirtualCluster) : Prop := Live key h v ∨ Doomed key h v

/-- What a round has settled on comes from the Cell and the class it has read, and is what the VirtualCluster was
resolved to, if it was. -/
structure Basis (Γ : Ctx) (key : NamespacedName) (h : List Event) (v : VirtualCluster) (target : Target) : Prop where
  live : Live key h v
  readCell : Saw h (.api (.getCell v.cellKey)) (.ok target.cell)
  resolved : ∃ virtualNodeClass resolved, Saw h (.api (.getVirtualNodeClass v.spec.classRef.name))
    (.ok virtualNodeClass) ∧
    resolveVirtualCluster Γ target.cell virtualNodeClass = .ok resolved ∧ target.resolved = v.snapshot resolved
  same : v.status.resolved.hostNamespace = "" ∨ sameResolvedProvider v.status.resolved target.resolved = true
  names : ∃ addresses, target.names = v.renderNames addresses

/-- What an instance Work is written with besides the K3k cluster: a mirror that was collected in this round, or
nothing where there was no Work. -/
inductive MirrorSource (cfg : Config) (h : List Event) (v : VirtualCluster) (target : Target)
    (mirrored : List Manifest) : Prop where
  | missing {e : Err} : e.isNotFound = true → Saw h (.api (.getWork (v.instanceKey target.managedCluster))) (.error e) →
      mirrored = [] → MirrorSource cfg h v target mirrored
  | unnamed {work : ManifestWork} : Saw h (.api (.getWork (v.instanceKey target.managedCluster))) (.ok work) →
      work.metadata.name = "" → mirrored = [] → MirrorSource cfg h v target mirrored
  | collected {reads : List Event} : (∀ e ∈ reads, e ∈ h) →
      Prog.Reaches event (mirrorChildIngresses v target.resolved cfg.appsSuffix childClient) reads
        (.ret (.ok mirrored)) →
      MirrorSource cfg h v target mirrored

/-- A call that writes neither a status nor a Work. -/
def ApiCall.isPlain : ApiCall → Bool
  | .updateVirtualClusterStatus _ | .createWork _ | .patchWork _ => false
  | _ => true

/-- The calls that write a Work. -/
def writesWork (desired : ManifestWork) (call : ApiCall) : Prop :=
  call = .createWork desired ∨ call = .patchWork desired

/-- The calls of a round, with what they write. -/
inductive Writes (Γ : Ctx) (cfg : Config) (key : NamespacedName) (h : List Event) : Call → Prop where
  | host (call : HostCall) : Writes Γ cfg key h (.host call)
  | plain {call : ApiCall} : call.isPlain = true → Writes Γ cfg key h (.api call)
  | status {v current o : VirtualCluster} : Began key h v → Saw h (.api (.getVirtualCluster v.key)) (.ok current) →
      o = { current with status := o.status } → Writes Γ cfg key h (.api (.updateVirtualClusterStatus o))
  | foundation {v : VirtualCluster} {target : Target} {call : ApiCall} : Basis Γ key h v target →
      writesWork (buildFoundationWork v target.resolved target.names target.managedCluster) call →
        Writes Γ cfg key h (.api call)
  | instanceWork {v : VirtualCluster} {target : Target} {mirrored : List Manifest} {call : ApiCall} :
    Basis Γ key h v target →
      MirrorSource cfg h v target mirrored →
      writesWork (buildInstanceWork v target.resolved target.names target.managedCluster mirrored) call →
        Writes Γ cfg key h (.api call)

end KubeCell
