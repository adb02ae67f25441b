import KubeCell.Lemmas.Provision

/-!
# The walk over the stages of a round

What is proved of every round of a VirtualCluster is proved of its stages, from the last to the first, and what
a stage does is always the same: it makes quiet calls, ends with an error, puts the status it carries along to
the server, or goes on to the next stage. It is said here once. A property of programs is carried from stage to
stage with what is known of the VirtualCluster there, and for each of the few changes that a stage makes to it
there is one thing to be shown.
-/

namespace KubeCell

open Prog ProvisionAux RoundAux

namespace StagesAux

variable {Γ : Ctx} {cfg : Config} {rt : Runtime} {P : List Event → Action (Except Err Result) → Prop}
  {h h' : List Event} {cluster : VirtualCluster}

/-! ## Parts that make quiet calls only -/

/-- A call to the API server that writes no status of a VirtualCluster. -/
def noStatus : ApiCall → Prop
  | .updateVirtualClusterStatus _ => False
  | _ => True

/-- The program neither writes a status nor observes the child cluster. -/
abbrev Quiet {α : Type} (p : Action α) : Prop := Neutral (fun call => quietCall call = true) p

/-- Calls to the API server that write no status are quiet. -/
theorem quiet_of_noStatus (call : ApiCall) (hcall : noStatus call) : quietCall (.api call) = true := by
  cases call with
  | updateVirtualClusterStatus => exact hcall.elim
  | _ => rfl

/-- So are those that only read the host. -/
theorem quiet_of_readsOnly (call : Call) (hcall : readsOnly call) : quietCall call = true := by
  cases call with
  | api call => exact hcall.elim
  | host call =>
    cases call with
    | observe => exact hcall.elim
    | _ => rfl

section Parts

variable {N : Call → Prop} (hN : ∀ call, noStatus call → N (.api call))

include hN

/-- A call that writes no status may be made wherever such calls may. -/
theorem neutral_call {call : ApiCall} (hcall : noStatus call) : Neutral N (api call) :=
  ⟨hN call hcall, fun _ => trivial⟩

/-- Creating or updating a Work writes no status. -/
theorem neutral_createOrUpdateWork (desired : ManifestWork) : Neutral N (createOrUpdateWork desired) := by
  refine (neutral_call hN (by trivial)).bind fun r => ?_
  cases r with
  | error e =>
    dsimp only
    split_ifs
    · trivial
    · refine (neutral_call hN (by trivial)).bind fun r => ?_
      cases r <;> trivial
  | ok current =>
    dsimp only
    cases validateWorkReference current (desired.metadata.labels.get labelVirtualClusterUID) with
    | error e => trivial
    | ok _ =>
      dsimp only
      split_ifs
      · trivial
      · refine (neutral_call hN (by trivial)).bind fun r => ?_
        cases r <;> trivial

/-- Nor does reading a Work. -/
theorem neutral_getWork (ns name : String) : Neutral N (getWork ns name) := by
  unfold getWork
  split_ifs
  · trivial
  · refine (neutral_call hN (by trivial)).bind fun r => ?_
    cases r <;> trivial

/-- Nor deleting the Secret. -/
theorem neutral_deleteOwnedSecret (ns name uid : String) : Neutral N (deleteOwnedSecret ns name uid) := by
  unfold deleteOwnedSecret
  split_ifs
  · trivial
  · refine (neutral_call hN (by trivial)).bind fun r => ?_
    cases r with
    | error e => trivial
    | ok secret =>
      dsimp only
      split_ifs
      · trivial
      · refine (neutral_call hN (by trivial)).bind fun r => ?_
        cases r <;> trivial

/-- Nor publishing the kubeconfig. -/
theorem neutral_publishAdminKubeconfig (cluster : VirtualCluster) (data : List UInt8)
    (sourceSecretName endpoint : String) :
    Neutral N (publishAdminKubeconfig Γ cluster data sourceSecretName endpoint) := by
  refine (neutral_call hN (by trivial)).bind fun r => ?_
  cases r with
  | error e =>
    dsimp only
    split_ifs
    · trivial
    · refine (neutral_call hN (by trivial)).bind fun r => ?_
      cases r <;> trivial
  | ok current =>
    refine (neutral_call hN (by trivial)).bind fun r => ?_
    cases r <;> trivial

end Parts

/-- The end of a round writes the status that it is given, and no other. -/
theorem neutral_writing {N : Call → Prop} {desired : VirtualCluster} (hget : ∀ key, N (.api (.getVirtualCluster key)))
    (hwrite : ∀ o : VirtualCluster, o.status = desired.status → N (.api (.updateVirtualClusterStatus o)))
    (requeueAfter : Option Nat) :
    Neutral N (persist desired requeueAfter) := by
  have htry : Neutral N (tryUpdateStatus desired) := by
    refine ⟨hget _, fun r => ?_⟩
    cases r with
    | error e => trivial
    | ok current =>
      refine ⟨hwrite _ rfl, fun r => ?_⟩
      cases r <;> trivial
  have hretry : ∀ n, Neutral N (retryOnConflict (tryUpdateStatus desired) n) := by
    intro n
    induction n with
    | zero => exact htry
    | succ n ih =>
      refine htry.bind fun r => ?_
      cases r with
      | ok _ => trivial
      | error e =>
        dsimp only
        split_ifs
        · exact ih
        · trivial
  refine (hretry 4).bind fun r => ?_
  cases r <;> trivial

/-- The end of a round only reads the VirtualCluster and writes its status. -/
theorem neutral_status {N : Call → Prop} (hget : ∀ key, N (.api (.getVirtualCluster key)))
    (hupdate : ∀ o, N (.api (.updateVirtualClusterStatus o))) (desired : VirtualCluster) (requeueAfter : Option Nat) :
    Neutral N (persist desired requeueAfter) :=
  neutral_writing hget (fun o _ => hupdate o) requeueAfter

/-- What publishing the kubeconfig leads to: the credential is in the status. -/
theorem ends_publishAdminKubeconfig (data : List UInt8) (sourceSecretName endpoint : String) :
    Ends event (fun _ => True)
      (fun r => ∀ cluster', r = .ok cluster' → ∃ observed,
        cluster' = cluster.withCredential Γ sourceSecretName endpoint observed)
      (publishAdminKubeconfig Γ cluster data sourceSecretName endpoint) := by
  have hok : ∀ observed, Ends event (fun _ => True) (fun r => ∀ cluster', r = .ok cluster' → ∃ observed,
      cluster' = cluster.withCredential Γ sourceSecretName endpoint observed)
      (.ret (.ok (cluster.withCredential Γ sourceSecretName endpoint observed)) : Action
        (Except Err VirtualCluster)) := by
    intro observed
    refine ends_ret fun cluster' hcluster' => ⟨observed, ?_⟩
    cases hcluster'
    rfl
  have herror : ∀ e, Ends event (fun _ => True) (fun r => ∀ cluster', r = .ok cluster' → ∃ observed,
      cluster' = cluster.withCredential Γ sourceSecretName endpoint observed)
      (.ret (.error e) : Action (Except Err VirtualCluster)) :=
        fun e => ends_ret fun cluster' hcluster' => by cases hcluster'
  refine ends_call fun r _ => ?_
  cases r with
  | error e =>
    change Ends event (fun _ => True) _ (if !e.isNotFound then _ else _)
    split_ifs
    · exact herror e
    · refine ends_call fun r _ => ?_
      cases r with
      | error e => exact herror e
      | ok _ => exact hok 0
  | ok current =>
    refine ends_call fun r _ => ?_
    cases r with
    | error e => exact herror e
    | ok _ => exact hok _

/-! ## The rules of a walk -/

/-- A property of what is left of a round, given its history: errors have it, and a quiet call may come first. -/
structure Walk (P : List Event → Action (Except Err Result) → Prop) : Prop where
  failed (h : List Event) (e : Err) : P h (.ret (.error e))
  call {h : List Event} {call : Call} {next : call.Res → Action (Except Err Result)} : quietCall call = true →
    (∀ r, P (h ++ [event call r]) (next r)) → P h (.call call next)

theorem Extends.trans {h'' : List Event} (hfirst : Extends h h') (hsecond : Extends h' h'') : Extends h h'' := by
  obtain ⟨t, rfl, ht⟩ := hfirst
  obtain ⟨t', rfl, ht'⟩ := hsecond
  refine ⟨t ++ t', List.append_assoc .., fun e he => ?_⟩
  rcases List.mem_append.mp he with he | he
  · exact ht e he
  · exact ht' e he

/-- What is asked of every call of a program is a property for a walk, if quiet calls have it. -/
theorem walk_neutral {N : Call → Prop} (hN : ∀ call, quietCall call = true → N call) : Walk fun _ p => Neutral N p where
  failed _ _ := trivial
  call hquiet hnext := ⟨hN _ hquiet, hnext⟩

/-- So is what is asked of every call with its history. -/
theorem walk_guarded {G : List Event → Call → Prop} (hG : ∀ h call, quietCall call = true → G h call) :
    Walk fun h p => Guarded event G (fun _ _ => True) p h where
  failed _ _ := trivial
  call hquiet hnext := ⟨hG _ _ hquiet, hnext⟩

/-- So may a quiet part, with what it ends with. -/
theorem Walk.quiet (hwalk : Walk P) {α : Type} {p : Action α} {f : α → Action (Except Err Result)} {R : α → Prop}
    (hp : Quiet p) (hends : Ends event (fun _ => True) R p)
    (hnext : ∀ h' a, Extends h h' → R a → P h' (f a)) : P h (p >>= f) := by
  induction p generalizing h with
  | ret a => exact hnext h a (Extends.refl h) (hends [] a (.refl _) fun _ _ => trivial)
  | call call next ih =>
    refine hwalk.call hp.1 fun r => ih r (hp.2 r) (fun t a hreaches _ => ?_) fun h' a hext hR => ?_
    · exact hends (event call r :: t) a (.call r hreaches) fun _ _ => trivial
    · exact hnext h' a (Extends.trans ((Extends.refl h).snoc call r hp.1) hext) hR

/-- Whatever a quiet part ends with. -/
theorem Walk.bind (hwalk : Walk P) {α : Type} {p : Action α} {f : α → Action (Except Err Result)} (hp : Quiet p)
    (hnext : ∀ h' a, Extends h h' → P h' (f a)) : P h (p >>= f) :=
  hwalk.quiet (R := fun _ => True) hp (fun _ _ _ _ => trivial) fun h' a hext _ => hnext h' a hext

/-- A quiet call extends the history. -/
theorem Extends.last (h : List Event) {call : Call} (r : call.Res) (hquiet : quietCall call = true) :
    Extends h (h ++ [event call r]) := (Extends.refl h).snoc call r hquiet

/-! ## From the observation of the child cluster on -/

/-- What carries a property through the stages after the observation: what is known of the VirtualCluster before its
credential is published (`C`), and from there on (`O`, with or without an observer), is kept by quiet calls and by
what the stages do to it, and the statuses that a round may end with have the property. -/
structure Observing (Γ : Ctx) (rt : Runtime) (foundationSummary : WorkSummary)
    (P : List Event → Action (Except Err Result) → Prop) (C : List Event → VirtualCluster → Prop)
    (O : Bool → List Event → VirtualCluster → Prop) : Prop where
  walk : Walk P
  extend {h h' : List Event} {c : VirtualCluster} : Extends h h' → C h c → C h' c
  extendO {b : Bool} {h h' : List Event} {c : VirtualCluster} : Extends h h' → O b h c → O b h' c
  invalid {h : List Event} {c : VirtualCluster} : C h c →
    P h (persist (c.setCondition rt "Credential" .false "CredentialInvalid" "Child endpoint is not a valid URL")
      (some 5))
  unpublished {h : List Event} {c : VirtualCluster} : C h c → O true h c
  published {h : List Event} {c : VirtualCluster} {sourceSecretName endpoint hostname : String} {observed : Nat}
    {nodePort : Int} : C h c →
    hostname ≠ "" → 0 < nodePort →
      let c' := (c.withCredential Γ sourceSecretName endpoint observed).setCondition rt "ChildIdentityReady" .true
        "CredentialPublished"
        "Child administrator kubeconfig was published"
      O true h { c' with
        status.endpoint := { address := hostname, nodePort := nodePort, urlHash := profileHash Γ endpoint } }
  unplaced {h : List Event} {c : VirtualCluster} {ns : String} {e : Err} :
    O true h c → P (h ++ [event (.host (.listPods ns)) (.error e)])
    (persist (c.setCondition rt "HostReadReady" .false "PlacementReadFailed" e.message) (some 5))
  placed {h : List Event} {c : VirtualCluster} (placements : List WorkloadPlacement) : O true h c →
    O true h { c with status.placements := placements }
  unrefreshed {b : Bool} {h : List Event} {c : VirtualCluster} : O b h c → P h (persist c (some 5))
  refreshed {b : Bool} {h : List Event} {c : VirtualCluster} (work : ManifestWork) :
    O b h c → O b h (c.withInstance work)
  decided {b : Bool} {h : List Event} {c : VirtualCluster} (instanceSummary : WorkSummary) : O b h c →
    P h (decidePhase rt c foundationSummary instanceSummary b)

namespace Observing

variable {C : List Event → VirtualCluster → Prop} {O : Bool → List Event → VirtualCluster → Prop} {target : Target}
  {foundationSummary : WorkSummary} {instanceCurrent : ManifestWork} {child : ChildObservation}
  (hobserving : Observing Γ rt foundationSummary P C O)

include hobserving

/-- Writing the instance Work goes on to the decision. -/
theorem writeInstance {hasObserver : Bool} (hcluster : O hasObserver h cluster) (mirrored : List Manifest)
    (observedOK mirrorOK : Bool) :
    P h (writeInstance rt cluster target foundationSummary instanceCurrent hasObserver mirrored
      observedOK mirrorOK) := by
  unfold KubeCell.writeInstance
  split_ifs
  · refine hobserving.walk.bind (neutral_createOrUpdateWork quiet_of_noStatus _) fun h' r hext => ?_
    have hcluster := hobserving.extendO hext hcluster
    cases r with
    | error e => exact hobserving.walk.failed h' e
    | ok _ =>
      refine hobserving.walk.call rfl fun r => ?_
      have hcluster := hobserving.extendO (Extends.last h' r rfl) hcluster
      cases r with
      | error e => exact hobserving.unrefreshed hcluster
      | ok refreshed => exact hobserving.decided _ (hobserving.refreshed refreshed hcluster)
  · exact hobserving.decided _ hcluster

/-- Mirroring only reads, and goes on to the instance Work. -/
theorem mirrorStage (hcluster : O true h cluster) :
    P h (mirrorStage cfg rt target foundationSummary instanceCurrent cluster child) := by
  unfold KubeCell.mirrorStage
  split_ifs
  · refine hobserving.walk.bind ((neutral_mirror _ _ _).mono quiet_of_readsOnly) fun h' r hext => ?_
    have hcluster := hobserving.extendO hext hcluster
    cases r with
    | error e => exact hobserving.writeInstance hcluster _ _ _
    | ok fetched => exact hobserving.writeInstance hcluster _ _ _
  · exact hobserving.writeInstance hcluster _ _ _

/-- The placements are read and recorded, unless the Pods cannot be listed. -/
theorem placementStage (hcluster : O true h cluster) :
    P h (placementStage cfg rt target foundationSummary instanceCurrent cluster child) := by
  unfold KubeCell.placementStage
  split_ifs
  · refine hobserving.walk.call rfl fun r => ?_
    cases r with
    | error e => exact hobserving.unplaced hcluster
    | ok pods =>
      have hread := hobserving.extendO
        (@Extends.last h (.host (.listPods target.resolved.hostNamespace)) (.ok pods) rfl) hcluster
      change P _ (projectPlacements rt volumeReader target.resolved.hostNamespace
        cluster.status.resolved.k3kClusterName pods >>= _)
      refine hobserving.walk.bind ((neutral_placements _ _ _ _).mono quiet_of_readsOnly) fun h' placements hext => ?_
      exact hobserving.mirrorStage (hobserving.placed placements (hobserving.extendO hext hread))
  · exact hobserving.mirrorStage hcluster

/-- The credential is published, unless the endpoint of the child is no URL. -/
theorem credentialStage (hcluster : C h cluster) :
    P h (credentialStage Γ cfg rt target foundationSummary instanceCurrent cluster child) := by
  unfold KubeCell.credentialStage
  dsimp only
  split_ifs with hendpoint hinvalid
  · exact hobserving.invalid hcluster
  · refine hobserving.walk.quiet (neutral_publishAdminKubeconfig quiet_of_noStatus _ _ _ _)
      (ends_publishAdminKubeconfig _ _ _)
      fun h' r hext hr => ?_
    cases r with
    | error e => exact hobserving.walk.failed h' e
    | ok published =>
      obtain ⟨observed, rfl⟩ := hr published rfl
      exact hobserving.placementStage (hobserving.published (hobserving.extend hext hcluster) hinvalid hendpoint.1)
  · exact hobserving.placementStage (hobserving.unpublished hcluster)

/-- The observation itself, of which a walk may ask more than of a quiet call. -/
theorem observeChild {Q : List Event → VirtualCluster → Prop}
    (hobserve : ∀ {h addresses c} {next : Except Err ChildObservation → Action (Except Err Result)},
      (∀ r, P (h ++ [event (.host (.observe c addresses)) r]) (next r)) →
        P h (.call (.host (.observe c addresses)) next))
    (hfailed : ∀ {h addresses c e}, Q h c → P (h ++ [event (.host (.observe c addresses)) (.error e)])
      (persist (c.unobserved rt e) (some 5)))
    (hobserved : ∀ {h addresses c child}, Q h c → C (h ++ [event (.host (.observe c addresses)) (.ok child)])
      (c.observed rt child))
    (hunobserved : ∀ {h c b}, Q h c → O b h c) (hcluster : Q h cluster) (hasObserver : Bool) :
    P h (observeChild Γ cfg rt target foundationSummary instanceCurrent cluster hasObserver) := by
  unfold KubeCell.observeChild
  split_ifs
  · refine hobserve fun r => ?_
    cases r with
    | error e => exact hfailed hcluster
    | ok child => exact hobserving.credentialStage (hobserved hcluster)
  · exact hobserving.writeInstance (hunobserved hcluster) _ _ _

end Observing

/-! ## Up to the observation of the child cluster -/

/-- What carries a property through the stages before the observation: what is known of the VirtualCluster until its
foundation Work is read applied (`T`), until its instance Work is looked at (`S`), and then (`Q`). -/
structure Founding (Γ : Ctx) (cfg : Config) (rt : Runtime) (P : List Event → Action (Except Err Result) → Prop)
    (T S Q : List Event → VirtualCluster → Prop) : Prop where
  walk : Walk P
  extendT {h h' : List Event} {c : VirtualCluster} : Extends h h' → T h c → T h' c
  extendS {h h' : List Event} {c : VirtualCluster} : Extends h h' → S h c → S h' c
  extendQ {h h' : List Event} {c : VirtualCluster} : Extends h h' → Q h c → Q h' c
  unread {h : List Event} {c : VirtualCluster} (reason message : String) : T h c →
    P h (persist (c.setCondition rt "HostReadReady" .false reason message) (some 10))
  unrefreshed {h : List Event} {c : VirtualCluster} : T h c → P h (persist c (some 5))
  foundationFailed {h : List Event} {c : VirtualCluster} (foundation : ManifestWork) (message : String) : T h c →
    P h (persist (({ c with
        status.workRefs.foundation := applyWorkStatus (workReference foundation) foundation
        status.phase := .degraded }.setCondition rt "FoundationReady" .false "WorkFailed" message).setCondition
          rt "HostQuotaReady"
      .false "WorkFailed" "Host quota foundation was not applied") (some 10))
  foundationPending {h : List Event} {c : VirtualCluster} (foundation : ManifestWork) : T h c →
    P h (persist (({ c with
        status.workRefs.foundation := applyWorkStatus (workReference foundation) foundation
        status.phase := .provisioning }.setCondition rt "FoundationReady" .false "WorkProgressing"
      "Foundation ManifestWork is not Applied").setCondition rt "HostQuotaReady" .false "WorkProgressing"
      "Host quota foundation is not Applied") (some 5))
  founded {h : List Event} {c : VirtualCluster} {foundation : ManifestWork} :
    (summarizeWork foundation).failed = false →
    (summarizeWork foundation).applied = true → T h c →
      S h { c with status.workRefs.foundation := applyWorkStatus (workReference foundation) foundation }
  instanceFailed {h : List Event} {c : VirtualCluster} (work : ManifestWork) (message : String) : S h c →
    P h (persist ({ c.withInstance work with status.phase := .degraded }.setCondition rt "InstanceReady" .false
      "WorkFailed" message)
      (some 10))
  limited {h : List Event} {c : VirtualCluster} (work : ManifestWork) (target : Target)
    (quota : Option ResourceQuota) : S h c →
    Q h ((c.withInstance work).withQuota rt target quota)
  unwatched {h : List Event} {c : VirtualCluster} (message : String) : Q h c →
    P h (persist (c.setCondition rt "HostReadReady" .false "HostReaderUnavailable" message) (some 10))
  observed {h : List Event} {c : VirtualCluster} {foundationSummary : WorkSummary} (target : Target)
    (instanceCurrent : ManifestWork)
    (hasObserver : Bool) : foundationSummary.applied = true → Q h c →
      P h (observeChild Γ cfg rt target foundationSummary instanceCurrent c hasObserver)

namespace Founding

variable {T S Q : List Event → VirtualCluster → Prop} (hfounding : Founding Γ cfg rt P T S Q)

include hfounding

section Instance

variable {target : Target} {foundationSummary : WorkSummary} {instanceCurrent : ManifestWork}
  (happlied : foundationSummary.applied = true)

include happlied

/-- Without a reader of the host the round ends before the observation. -/
theorem selectObserver (hcluster : Q h cluster) :
    P h (selectObserver Γ cfg rt target foundationSummary instanceCurrent cluster) := by
  unfold KubeCell.selectObserver
  split_ifs
  · refine hfounding.walk.call rfl fun r => ?_
    have hcluster := hfounding.extendQ (Extends.last h r rfl) hcluster
    cases r with
    | error e => exact hfounding.unwatched _ hcluster
    | ok _ => exact hfounding.observed _ _ _ happlied hcluster
  · exact hfounding.observed _ _ _ happlied hcluster

/-- An instance Work that has failed ends the round; otherwise the quota is recorded. -/
theorem instanceStage (hcluster : S h cluster) :
    P h (instanceStage Γ cfg rt target foundationSummary instanceCurrent cluster) := by
  unfold KubeCell.instanceStage
  dsimp only
  split_ifs
  · exact hfounding.instanceFailed _ _ hcluster
  · refine hfounding.walk.call rfl fun r => ?_
    have hcluster := hfounding.extendS (Extends.last h r rfl) hcluster
    cases r with
    | error e => exact hfounding.selectObserver happlied (hfounding.limited _ _ _ hcluster)
    | ok quota => exact hfounding.selectObserver happlied (hfounding.limited _ _ _ hcluster)
  · exact hfounding.selectObserver happlied (hfounding.limited _ _ _ hcluster)

end Instance

/-- The round goes on when the foundation Work is applied and has not failed. -/
theorem foundationStage (hcluster : T h cluster) (target : Target) (foundation : ManifestWork) :
    P h (foundationStage Γ cfg rt cluster target foundation) := by
  unfold KubeCell.foundationStage
  dsimp only
  split_ifs with hfailed hpending
  · exact hfounding.foundationFailed _ _ hcluster
  · exact hfounding.foundationPending _ hcluster
  · have happlied : (summarizeWork foundation).applied = true := by simpa using hpending
    have hcluster := hfounding.founded (by simpa using hfailed) happlied hcluster
    refine hfounding.walk.call rfl fun r => ?_
    have hcluster := hfounding.extendS (Extends.last h r rfl) hcluster
    cases r with
    | error e =>
      change P _ (if !e.isNotFound then _ else _)
      split_ifs
      · exact hfounding.walk.failed _ e
      · exact hfounding.instanceStage happlied hcluster
    | ok instanceCurrent => exact hfounding.instanceStage happlied hcluster

/-- The foundation Work is written and read again. -/
theorem addressStage (hcluster : T h cluster) (cell : Cell) (resolved : ResolvedSnapshot) (addresses : List String) :
    P h (addressStage Γ cfg rt cluster cell resolved addresses) := by
  unfold KubeCell.addressStage
  split_ifs
  · exact hfounding.unread _ _ hcluster
  · refine hfounding.walk.bind (neutral_createOrUpdateWork quiet_of_noStatus _) fun h' r hext => ?_
    have hcluster := hfounding.extendT hext hcluster
    cases r with
    | error e => exact hfounding.walk.failed h' e
    | ok _ =>
      refine hfounding.walk.call rfl fun r => ?_
      have hcluster := hfounding.extendT (Extends.last h' r rfl) hcluster
      cases r with
      | error e => exact hfounding.unrefreshed hcluster
      | ok foundation => exact hfounding.foundationStage hcluster _ foundation

/-- The addresses of the nodes come first. -/
theorem hostStage (hcluster : T h cluster) (cell : Cell) (resolved : ResolvedSnapshot) :
    P h (hostStage Γ cfg rt cluster cell resolved) := by
  unfold KubeCell.hostStage
  split_ifs
  · refine hfounding.walk.call rfl fun r => ?_
    have hcluster := hfounding.extendT (Extends.last h r rfl) hcluster
    cases r with
    | error e => exact hfounding.unread _ _ hcluster
    | ok _ =>
      refine hfounding.walk.call rfl fun r => ?_
      have hcluster := hfounding.extendT (Extends.last _ r rfl) hcluster
      cases r with
      | error e => exact hfounding.unread _ _ hcluster
      | ok nodes => exact hfounding.addressStage hcluster cell resolved _
  · exact hfounding.addressStage hcluster cell resolved []

end Founding

/-! ## The deletion -/

/-- What carries a property through the deletion of `v`: what is known of it is kept by quiet calls, and the statuses
of a deletion have the property, as has an end without an error. -/
structure Deleting (rt : Runtime) (v : VirtualCluster) (P : List Event → Action (Except Err Result) → Prop)
    (D : List Event → Prop) : Prop where
  walk : Walk P
  extend {h h' : List Event} : Extends h h' → D h → D h'
  cleaned {h : List Event} (status : ConditionStatus) (reason message : String) (requeueAfter : Option Nat) : D h →
    P h (persist (v.cleanup rt status reason message) requeueAfter)
  done (h : List Event) (result : Result) : P h (.ret (.ok result))

namespace Deleting

variable {v : VirtualCluster} {D : List Event → Prop} (hdeleting : Deleting rt v P D)

include hdeleting

/-- A deletion that was requested is recorded, as is one that had nothing to delete. -/
theorem requestDeletion (hv : D h) (work : ManifestWork) (reason message : String) :
    P h (requestDeletion rt v work reason message) := by
  refine hdeleting.walk.call rfl fun r => ?_
  have hv := hdeleting.extend (Extends.last h r rfl) hv
  cases r with
  | error e =>
    change P _ (if !e.isNotFound then _ else _)
    split_ifs
    · exact hdeleting.walk.failed _ e
    · exact hdeleting.cleaned _ _ _ _ hv
  | ok _ => exact hdeleting.cleaned _ _ _ _ hv

/-- The instance Work goes first, then the foundation Work, then the finalizer. -/
theorem deleteInOrder (hv : D h) (instanceWork foundation : Option ManifestWork) :
    P h (deleteInOrder rt v instanceWork foundation) := by
  unfold KubeCell.deleteInOrder
  dsimp only
  split_ifs
  · exact hdeleting.cleaned _ _ _ _ hv
  · cases instanceWork with
    | some work => exact hdeleting.requestDeletion hv work _ _
    | none =>
      cases foundation with
      | some work => exact hdeleting.requestDeletion hv work _ _
      | none =>
        refine hdeleting.walk.call rfl fun r => ?_
        cases r with
        | error e => exact hdeleting.walk.failed _ e
        | ok _ => exact hdeleting.done _ _

/-- Both Works are read before one is deleted. -/
theorem deleteWorks (hv : D h) (managedClusterName : String) : P h (deleteWorks rt v managedClusterName) := by
  refine hdeleting.walk.bind (neutral_getWork quiet_of_noStatus _ _) fun h₁ instanceWork hext => ?_
  refine hdeleting.walk.bind (neutral_getWork quiet_of_noStatus _ _) fun h₂ foundation hext' => ?_
  have hv := hdeleting.extend hext' (hdeleting.extend hext hv)
  cases orMissing instanceWork with
  | error e => exact hdeleting.walk.failed _ e
  | ok instanceWork =>
    cases orMissing foundation with
    | error e => exact hdeleting.walk.failed _ e
    | ok foundation => exact hdeleting.deleteInOrder hv _ _

/-- Without the finalizer nothing has to be known. -/
theorem reconcileDeletion (hv : v.held = true → D h) : P h (reconcileDeletion rt v) := by
  have hsecret : Quiet (deleteOwnedSecret v.metadata.ns v.names.adminKubeconfig v.metadata.uid) :=
    neutral_deleteOwnedSecret quiet_of_noStatus _ _ _
  unfold KubeCell.reconcileDeletion
  split_ifs with hreleased hunresolved
  · exact hdeleting.done _ _
  · have hv := hv (by simpa [VirtualCluster.held] using hreleased)
    refine hdeleting.walk.bind hsecret fun h₁ r hext => ?_
    have hv := hdeleting.extend hext hv
    cases r with
    | error e => exact hdeleting.walk.failed _ e
    | ok _ =>
      refine hdeleting.walk.call rfl fun r => ?_
      have hv := hdeleting.extend (Extends.last h₁ r rfl) hv
      cases r with
      | error e => exact hdeleting.cleaned _ _ _ _ hv
      | ok referenced => exact hdeleting.deleteWorks hv _
  · have hv := hv (by simpa [VirtualCluster.held] using hreleased)
    refine hdeleting.walk.bind hsecret fun h₁ r hext => ?_
    cases r with
    | error e => exact hdeleting.walk.failed _ e
    | ok _ => exact hdeleting.deleteWorks (hdeleting.extend hext hv) _

end Deleting

end StagesAux
end KubeCell
