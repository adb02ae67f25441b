import KubeCell.Lemmas.Owned
import KubeCell.Theorems.Ready

/-!
# The order of the Works

A round writes a Work only behind its gate, and over all rounds, with their deletion, the instance Work is never there
without the foundation Work.
-/

namespace KubeCell

open Prog RoundAux ProvisionAux EffectsAux EnvironmentAux OwnedAux

/-- The world before the first round: whatever stands under the name of `u` is `u`, and it has no Works. -/
structure NoWorks (u : VirtualCluster) (w : World) : Prop where
  stored : ∀ v, w.virtualClusters.find u.key = some v → Same u v
  works : ∀ key work, ¬Owns u w.works key work

namespace OrderingAux

variable {Γ : Ctx} {cfg : Config} {rt : Runtime} {u v : VirtualCluster} {w w' : World} {h : List Event}

/-- The two Works never have one name. -/
theorem foundationKey_ne_instanceKey (u : VirtualCluster) (a b : String) : u.foundationKey a ≠ u.instanceKey b :=
  fun heq =>
  foundationWork_ne_instanceWork u (congrArg NamespacedName.name heq)

/-- What holds of the Works between the calls: a Work of `u` waits for its deletion only when `u` does, and an
instance Work stands beside a foundation Work that does not. -/
structure Ordered (u : VirtualCluster) (w : World) : Prop where
  stored : ∀ v, w.virtualClusters.find u.key = some v → Same u v
  doomed : ∀ key work, Owns u w.works key work → Store.terminating work = true →
    ∀ v, w.virtualClusters.find u.key = some v → v.deleting = true
  ordered : ∀ ns work, Owns u w.works (u.instanceKey ns) work →
    ∃ foundation, Owns u w.works (u.foundationKey ns) foundation ∧ Store.terminating foundation = false

/-- What the answers of a round still tell about the Works. -/
structure OrderedRound (u : VirtualCluster) (w : World) (h : List Event) : Prop where
  identity : Identity u w h
  -- a round that has begun with `u` not being deleted finds what it has seen and written
  begun : Begun u.key h → ∀ key work, Owns u w.works key work → Store.terminating work = false
  seen : Begun u.key h → ∀ key work, Saw h (.api (.getWork key)) (.ok work) → work.metadata.ownerUID = u.metadata.uid →
    ∃ work, Owns u w.works key work
  wrote : Begun u.key h → ∀ desired, Wrote h desired → ∃ work, Owns u w.works desired.metadata.key work
  -- a deletion does not find what it has not found before
  gone : ∀ v key e, Doomed u.key h v → e.isNotFound = true → Saw h (.api (.getWork key)) (.error e) →
    ∀ work, ¬Owns u w.works key work
  doomed : ∀ v, Doomed u.key h v → ∀ v', w.virtualClusters.find u.key = some v' → v'.deleting = true

/-! ## The environment -/

/-- Steps of others leave the Works in order. -/
theorem Ordered.moves (hI : Ordered u w) (hmoves : Moves u w w') : Ordered u w' := by
  refine ⟨?_, fun key work' hown hterminating v' hv' => ?_, fun ns work' hown => ?_⟩
  · exact (Moves.identity hmoves (Identity.start hI.stored)).stored
  · obtain ⟨work, hwork, heq⟩ := hmoves.back key work' hown
    obtain ⟨v, hv, -, -, -, -, hdeleting⟩ := hmoves.cluster v' hv'
    exact hdeleting (hI.doomed key work hwork (heq ▸ hterminating) v hv)
  · obtain ⟨work, hwork, -⟩ := hmoves.back _ work' hown
    obtain ⟨foundation, hfoundation, halive⟩ := hI.ordered ns work hwork
    obtain ⟨foundation', hfoundation'⟩ := hmoves.forth _ foundation hfoundation halive
    refine ⟨foundation', hfoundation', ?_⟩
    obtain ⟨before, hbefore, heq⟩ := hmoves.back _ foundation' hfoundation'
    rw [hfoundation.1.symm.trans hbefore.1 |> Option.some.inj] at halive
    exact heq.trans halive

/-- They leave the round in order. -/
theorem OrderedRound.moves (hK : OrderedRound u w h) (hmoves : Moves u w w') : OrderedRound u w' h := by
  have hforth : Begun u.key h → ∀ key, (∃ work, Owns u w.works key work) → ∃ work', Owns u w'.works key work' := by
    rintro hbegun key ⟨work, hwork⟩
    exact hmoves.forth key work hwork (hK.begun hbegun key work hwork)
  refine ⟨Moves.identity hmoves hK.identity, fun hbegun key work' hown => ?_, fun hbegun key work hsaw howner => ?_,
    fun hbegun desired hwrote => ?_, fun v key e hdoomed he hsaw work' hown => ?_, fun v hdoomed v' hv' => ?_⟩
  · obtain ⟨work, hwork, heq⟩ := hmoves.back key work' hown
    exact heq.trans (hK.begun hbegun key work hwork)
  · exact hforth hbegun key (hK.seen hbegun key work hsaw howner)
  · exact hforth hbegun _ (hK.wrote hbegun desired hwrote)
  · obtain ⟨work, hwork, -⟩ := hmoves.back key work' hown
    exact hK.gone v key e hdoomed he hsaw work hwork
  · obtain ⟨before, hbefore, -, -, -, -, hdeleting⟩ := hmoves.cluster v' hv'
    exact hdeleting (hK.doomed v hdoomed before hbefore)

/-! ## The calls of a round -/

/-- A Work of `u` that waits for its deletion after a call did so before, or the call requests it. -/
theorem terminating_origin (hK : OrderedRound u w h) (hstep : WorksStep Γ rt u.key h w.works w'.works)
    {key : NamespacedName} {work' : ManifestWork} (hown : Owns u w'.works key work')
    (hterminating : Store.terminating work' = true) :
    (∃ work, Owns u w.works key work ∧ Store.terminating work = true) ∨ ∃ v, Doomed u.key h v := by
  rcases works_origin hK.identity hstep
    hown with ⟨work, hwork, heq⟩ | ⟨work, v, -, hdoomed, -⟩ | ⟨v, cell, hgate, -, hfresh⟩
  · exact Or.inl ⟨work, hwork, heq ▸ hterminating⟩
  · exact Or.inr ⟨v, hdoomed⟩
  · rcases hfresh with halive | ⟨seen, current, hsaw, howner, hfind, heq⟩
    · rw [halive] at hterminating
      nomatch hterminating
    · obtain ⟨work, hwork⟩ := hK.seen (Live.begun (Gate.toHostGate hgate).live) key seen hsaw howner
      rw [hfind.symm.trans hwork.1 |> Option.some.inj, hterminating] at heq
      exact Or.inl ⟨work, hwork, heq.symm⟩

/-- A call of a round leaves the Works in order. -/
theorem Ordered.call (hI : Ordered u w) (hK : OrderedRound u w h) {e : Event}
    (heffects : Effects Γ rt u.key h cfg e w w') :
    Ordered u w' := by
  have hid := hK.identity
  refine ⟨Identity.stored_step hid heffects, fun key work' hown hterminating v' hv' => ?_, fun ns work' hown => ?_⟩
  · obtain ⟨v, hv, heq⟩ := clusters_deleting hid heffects.clusters hv'
    rw [heq]
    rcases terminating_origin hK heffects.works hown hterminating with ⟨work, hwork, hterminating⟩ | ⟨v₀, hdoomed⟩
    · exact hI.doomed key work hwork hterminating v hv
    · exact hK.doomed v₀ hdoomed v hv
  · -- the foundation Work beside an instance Work is not touched by a deletion
    have hstays : ∀ foundation, Owns u w.works (u.foundationKey ns) foundation → Store.terminating foundation = false →
        (∀ v, Doomed u.key h v → ∃ work, Owns u w.works (u.instanceKey ns) work) →
        ∃ foundation', Owns u w'.works (u.foundationKey ns) foundation' ∧ Store.terminating foundation' = false := by
      intro foundation hfoundation halive hinstance
      rcases works_survive hid heffects.works
        hfoundation with ⟨foundation', hfoundation', heq⟩ | ⟨v, hdoomed, hcondemned⟩
      · exact ⟨foundation', hfoundation', heq.trans halive⟩
      · have hsame := Identity.doomed hid hdoomed
        obtain ⟨work, hwork⟩ := hinstance v hdoomed
        generalize hkey : u.foundationKey ns = key at hcondemned
        cases hcondemned with
        | instanceWork managedCluster =>
          rw [Same.instanceKey hsame] at hkey
          exact absurd hkey (foundationKey_ne_instanceKey u _ _)
        | @foundation managedCluster hne hgone =>
          rw [Same.foundationKey hsame] at hkey
          obtain rfl : ns = managedCluster := congrArg NamespacedName.ns hkey
          rw [Same.instanceKey hsame] at hgone
          rcases hgone with hempty | ⟨e, he, hsaw⟩
          · exact absurd hempty hne
          · exact absurd hwork (hK.gone v _ e hdoomed he hsaw work)
    rcases works_origin hid heffects.works hown with ⟨work, hwork, -⟩ | ⟨work, v, hwork, -, -⟩ | ⟨v, cell, hgate, -, -⟩
    · obtain ⟨foundation, hfoundation, halive⟩ := hI.ordered ns work hwork
      exact hstays foundation hfoundation halive fun _ _ => ⟨work, hwork⟩
    · obtain ⟨foundation, hfoundation, halive⟩ := hI.ordered ns work hwork
      exact hstays foundation hfoundation halive fun _ _ => ⟨work, hwork⟩
    · -- the instance Work is written now, after the foundation Work was
      have hlive := (Gate.toHostGate hgate).live
      have hbegun := Live.begun hlive
      have hsame := Identity.live hid hlive
      generalize hkey : u.instanceKey ns = key at hgate
      cases hgate with
      | foundation hgate =>
        rw [Same.foundationKey hsame] at hkey
        exact absurd hkey.symm (foundationKey_ne_instanceKey u _ _)
      | instanceWork hgate =>
        rw [Same.instanceKey hsame] at hkey
        obtain ⟨desired, hdesired, hwrote⟩ := hgate.written
        obtain ⟨foundation, hfoundation⟩ := hK.wrote hbegun desired hwrote
        obtain rfl : ns = cell.spec.managedClusterRef.name := congrArg NamespacedName.ns hkey
        rw [IsWorkOf.metadata_key hdesired, Same.foundationKey hsame] at hfoundation
        exact hstays foundation hfoundation (hK.begun hbegun _ foundation hfoundation) fun v hdoomed =>
          absurd hdoomed (Begun.not_doomed hbegun)

/-- A Work that was written now stands under its name. -/
theorem owns_of_write (hid : Identity u w h) {desired stored : ManifestWork} {call : ApiCall} {r : Except Err call.Res}
    (hp : Permitted Γ cfg rt u.key h (.api call)) (hx : World.Exec w (.api call) r w')
    (hevent : event (.api call) r = event (.api (.createWork desired)) (.ok stored) ∨
      event (.api call) r = event (.api (.patchWork desired)) (.ok stored)) :
    ∃ work, Owns u w'.works desired.metadata.key work := by
  have howner : ∀ {call : ApiCall}, call = .createWork desired ∨ call = .patchWork desired →
      Permitted Γ cfg rt u.key h (.api call) → ∃ v, IsWorkOf v desired.metadata.key desired ∧
        v.metadata.uid = u.metadata.uid := by
    intro call hcall hp
    obtain ⟨v, cell, hgate, hwork⟩ := gate_of_permitted hcall hp
    exact ⟨v, hwork, (Identity.live hid (Gate.toHostGate hgate).live).uid⟩
  have hput : ∀ (work : ManifestWork), work.metadata.key = desired.metadata.key →
      (w.works.put work).find desired.metadata.key = some work :=
        fun work hkey => (Store.find_put _ _ _).trans (if_pos hkey.symm)
  rcases hevent with hevent | hevent <;> cases hevent
  · obtain ⟨v, hwork, huid⟩ := howner (Or.inl rfl) hp
    obtain ⟨hr, rfl⟩ := served_of_ok hx
    rw [World.serve] at hr ⊢
    rcases Store.create_cases w.works w.version desired with ⟨e, heq⟩ | ⟨-, heq⟩ <;> rw [heq] at hr ⊢
    · cases hr
    · exact ⟨_, hput _ rfl, (IsWorkOf.ownerUID hwork).trans huid⟩
  · obtain ⟨v, hwork, huid⟩ := howner (Or.inr rfl) hp
    obtain ⟨hr, rfl⟩ := served_of_ok hx
    rw [World.serve] at hr ⊢
    rcases Store.apply_cases w.works mergeWork w.version
      desired with ⟨-, heq⟩ | ⟨current, hfind, heq⟩ <;> rw [heq] at hr ⊢
    · exact ⟨_, hput _ rfl, (IsWorkOf.ownerUID hwork).trans huid⟩
    · have hkeyed : current.metadata.key = desired.metadata.key := Store.find_keyed hfind
      exact ⟨_, hput _ hkeyed, (mergeWork_ownerUID hwork _ current).trans huid⟩

/-- A call of a round leaves the round in order. -/
theorem OrderedRound.call (hI : Ordered u w) (hK : OrderedRound u w h) {call : Call} {r : call.Res}
    (hp : Permitted Γ cfg rt u.key h call) (hx : World.Exec w call r w') : OrderedRound u w' (h ++ [event call r]) := by
  have hid := hK.identity
  have heffects := effects_of_permitted hp hx
  have hsurvive : Begun u.key h → ∀ key, (∃ work, Owns u w.works key work) → ∃ work', Owns u w'.works key work' := by
    rintro hbegun key ⟨work, hwork⟩
    rcases works_survive hid heffects.works hwork with ⟨work', hwork', -⟩ | ⟨v, hdoomed, -⟩
    · exact ⟨work', hwork'⟩
    · exact absurd hdoomed (Begun.not_doomed hbegun)
  have hnonempty : ∀ {call : Call} {answer : call.Res}, Saw h call answer → h ≠ [] := by
    rintro call answer hsaw rfl
    exact List.not_mem_nil hsaw
  refine ⟨Identity.step hid hp hx, fun hbegun key work' hown => ?_, fun hbegun key seen hsaw howner => ?_,
    fun hbegun desired hwrote => ?_, fun v key e hdoomed he hsaw work' hown => ?_, fun v hdoomed v' hv' => ?_⟩
  · rw [← Bool.not_eq_true]
    intro hterminating
    by_cases hne : h = []
    · subst hne
      cases hbegun with
      | read hdeleting =>
        obtain ⟨hfind, rfl⟩ := find_of_getVirtualCluster hx
        rw [hI.doomed key work' hown hterminating _ hfind] at hdeleting
        nomatch hdeleting
    · have hbegun' := Begun.of_append hbegun hne
      rcases terminating_origin hK heffects.works hown hterminating with ⟨work, hwork, hterminating'⟩ | ⟨v, hdoomed⟩
      · rw [hK.begun hbegun' key work hwork] at hterminating'
        nomatch hterminating'
      · exact absurd hdoomed (Begun.not_doomed hbegun')
  · rcases saw_snoc hsaw with hsaw | heq
    · have hbegun' := Begun.of_append hbegun (hnonempty hsaw)
      exact hsurvive hbegun' key (hK.seen hbegun' key seen hsaw howner)
    · cases heq
      obtain ⟨hfind, rfl⟩ := find_of_getWork hx
      exact ⟨seen, hfind, howner⟩
  · have hwritten : (∃ call answer, Saw h call answer) ∧ Wrote h desired ∨ ∃ stored,
        event call r = event (.api (.createWork desired)) (.ok stored) ∨
          event call r = event (.api (.patchWork desired)) (.ok stored) := by
      rcases hwrote with ⟨stored, hsaw⟩ | ⟨stored, hsaw⟩ <;> rcases saw_snoc hsaw with hsaw | heq
      · exact Or.inl ⟨⟨_, _, hsaw⟩, Or.inl ⟨stored, hsaw⟩⟩
      · exact Or.inr ⟨stored, Or.inl heq⟩
      · exact Or.inl ⟨⟨_, _, hsaw⟩, Or.inr ⟨stored, hsaw⟩⟩
      · exact Or.inr ⟨stored, Or.inr heq⟩
    rcases hwritten with ⟨⟨_, _, hsaw⟩, hwrote⟩ | ⟨stored, hevent⟩
    · have hbegun' := Begun.of_append hbegun (hnonempty hsaw)
      exact hsurvive hbegun' _ (hK.wrote hbegun' desired hwrote)
    · cases call with
      | api call => exact owns_of_write hid hp hx hevent
      | host call => rcases hevent with hevent | hevent <;> nomatch congrArg Sigma.fst hevent
  · rcases saw_snoc hsaw with hsaw | heq
    · have hdoomed' := Doomed.of_append hdoomed (hnonempty hsaw)
      rcases works_origin hid heffects.works
        hown with ⟨work, hwork, -⟩ | ⟨work, v, hwork, -, -⟩ | ⟨v, cell, hgate, -, -⟩
      · exact hK.gone _ key e hdoomed' he hsaw work hwork
      · exact hK.gone _ key e hdoomed' he hsaw work hwork
      · exact Begun.not_doomed (Live.begun (Gate.toHostGate hgate).live) hdoomed'
    · cases heq
      obtain ⟨hnone, rfl⟩ := none_of_getWork hx he
      nomatch hnone.symm.trans hown.1
  · by_cases hne : h = []
    · subst hne
      cases hdoomed with
      | read hdeleting =>
        obtain ⟨hfind, rfl⟩ := find_of_getVirtualCluster hx
        rw [hfind.symm.trans hv' |> Option.some.inj] at hdeleting
        exact hdeleting
    · obtain ⟨before, hbefore, heq⟩ := clusters_deleting hid heffects.clusters hv'
      exact heq.trans (hK.doomed v (Doomed.of_append hdoomed hne) before hbefore)

/-- What holds in every reachable state. -/
theorem holds_of_reachable {Others : World → World → Prop} {s : Sys World Event Call Call.Res (Except Err Result)}
    (hs : Sys.Reachable (system Γ cfg u Others) (NoWorks u) s) :
    Sys.Holds (system Γ cfg u Others) (Ordered u) (OrderedRound u)
      (fun h call => ∃ rt, Permitted Γ cfg rt u.key h call) s := by
  refine Sys.invariant (fun w hw => ?_) (fun w hI => ?_) ?_ (fun w w' henv hI => ?_)
    (fun w call r w' h hI hK hG hx => ?_) hs
  · exact ⟨hw.stored, fun key work hown => absurd hown (hw.works key work), fun ns work hown => absurd hown
      (hw.works _ work)⟩
  · exact ⟨Identity.start hI.stored, fun hbegun => (nomatch hbegun), fun hbegun => (nomatch hbegun),
      fun hbegun => (nomatch hbegun),
      fun _ _ _ hdoomed => (nomatch hdoomed), fun _ hdoomed => (nomatch hdoomed)⟩
  · rintro p ⟨rt, rfl⟩
    exact (safe_reconcile Γ cfg rt u.key).mono (fun h call hp => ⟨rt, hp⟩) fun _ _ _ => trivial
  · have hmoves := moves_of_environment henv
    exact ⟨Ordered.moves hI hmoves, fun h hK => OrderedRound.moves hK hmoves⟩
  · obtain ⟨rt, hp⟩ := hG
    exact ⟨Ordered.call hI hK (effects_of_permitted hp hx), OrderedRound.call hI hK hp hx⟩

end OrderingAux

open OrderingAux

/-- Over every run of rounds, each cut off anywhere, with the reports and completed deletions of OCM, the deletion
of the VirtualCluster and any change to what is not its own: a Work is created or applied only behind its gate,
which the round itself has passed, and whenever the instance Work stands in the namespace of a ManagedCluster, so
does the foundation Work. -/
theorem works_ordered (Γ : Ctx) (cfg : Config) (u : VirtualCluster)
    {s : Sys World Event Call Call.Res (Except Err Result)}
    (hs : Sys.Reachable (system Γ cfg u fun _ _ => True) (NoWorks u) s) :
    (∀ h call next desired, s.round = some (h, .call (.api call) next) →
      (call = .createWork desired ∨ call = .patchWork desired) →
      ∃ rt v cell, Prog.Reaches event (reconcile Γ cfg rt u.key) h (.call (.api call) next) ∧
        (desired.metadata.name = u.names.foundationWork ∧ HostGate Γ rt u.key h v cell ∨
          desired.metadata.name = u.names.instanceWork ∧ InstanceGate Γ rt u.key h v cell)) ∧
      ∀ ns work, Owns u s.world.works (u.instanceKey ns) work → ∃ foundation,
        Owns u s.world.works (u.foundationKey ns) foundation := by
  obtain ⟨hI, hround⟩ := holds_of_reachable hs
  refine ⟨fun h call next desired heq hcall => ?_, fun ns work hown => ?_⟩
  · obtain ⟨p, ⟨rt, rfl⟩, hreaches⟩ := hs.round heq
    have hsafe := (safe_reconcile Γ cfg rt u.key).reaches hreaches
    rw [List.nil_append] at hsafe
    obtain ⟨v, cell, hgate, hwork⟩ := gate_of_permitted hcall hsafe.1
    have hsame := Identity.live (hround h _ heq).1.identity (Gate.toHostGate hgate).live
    refine ⟨rt, v, cell, hreaches, ?_⟩
    generalize hkey : desired.metadata.key = workKey at hgate
    have hname : desired.metadata.name = workKey.name := congrArg NamespacedName.name hkey
    cases hgate with
    | foundation hgate =>
      exact Or.inl ⟨hname.trans (congrArg VirtualClusterNames.foundationWork (Same.names hsame)), hgate⟩
    | instanceWork hgate =>
      exact Or.inr ⟨hname.trans (congrArg VirtualClusterNames.instanceWork (Same.names hsame)), hgate⟩
  · obtain ⟨foundation, hfoundation, -⟩ := hI.ordered ns work hown
    exact ⟨foundation, hfoundation⟩

namespace SampleAux

/-- The Works after OCM has reported one as applied. -/
def reportApplied (works : Store ManifestWork) (key : NamespacedName) : Store ManifestWork :=
  match works.find key with
  | some work => works.put { work with conditions := [{ type := "Applied", status := .true }] }
  | none => works

/-- Which is something OCM does. -/
theorem ocmStep_reportApplied {works : Store ManifestWork} {key : NamespacedName}
    (hfind : (works.find key).isSome = true) :
    OcmStep works (reportApplied works key) := by
  obtain ⟨work, hwork⟩ := Option.isSome_iff_exists.mp hfind
  rw [reportApplied, hwork]
  have hkeyed : work.metadata.key = key := Store.find_keyed hwork
  have hreported : works.find work.metadata.key = some work := hkeyed.symm ▸ hwork
  exact .report hreported rfl rfl rfl

/-- The host of a child cluster that is not there yet. -/
def emptyHost : (call : HostCall) → call.Res := sampleHost (.ok [sampleNode]) (.error ⟨.other, "not found"⟩)

/-- The world after a first round, which writes the foundation Work, and after OCM has applied it. -/
def foundedWorld : World :=
  let w := (sampleRound (sampleWorld (clusterIn .provisioning {}) []) emptyHost 20).1
  { w.next with works := reportApplied w.works (DriftAux.sampleCluster.foundationKey "mc-a") }

/-- The world after a second round. -/
def instancedWorld : World := (sampleRound foundedWorld emptyHost 20).1

/-- A run leads there. -/
theorem reachable_instancedWorld :
    Sys.Reachable (system sampleCtx sampleConfig (clusterIn .provisioning {}) fun _ _ => True)
    (NoWorks (clusterIn .provisioning {})) ⟨instancedWorld, none⟩ := by
  have hinit : NoWorks (clusterIn .provisioning {}) (sampleWorld (clusterIn .provisioning {}) []) := by
    refine ⟨fun v hv => ?_, fun key work hown => nomatch hown.1⟩
    rw [find_sampleWorld, Option.some.injEq] at hv
    exact hv ▸ ⟨rfl, rfl, rfl⟩
  have hstart : (system sampleCtx sampleConfig (clusterIn .provisioning {}) fun _ _ => True).starts
      (reconcile sampleCtx sampleConfig sampleRuntime DriftAux.sampleCluster.key) := ⟨sampleRuntime, rfl⟩
  have hfirst := (Sys.Reachable.init hinit).wholeRound hstart (runs_sampleRound _ emptyHost 20)
  exact (hfirst.step (.env (.ocm (ocmStep_reportApplied (by decide +kernel))))).wholeRound hstart
    (runs_sampleRound foundedWorld emptyHost 20)

end SampleAux

open SampleAux

/-- After two rounds, with a report of OCM in between, the instance Work stands beside the foundation Work. -/
theorem works_ordered_sample :
    ∃ foundation, Owns (clusterIn .provisioning {}) instancedWorld.works
      (DriftAux.sampleCluster.foundationKey "mc-a") foundation := by
  have howner : (instancedWorld.works.find (DriftAux.sampleCluster.instanceKey "mc-a")).map (·.metadata.ownerUID) =
      some "01234567-aaaa" := by decide +kernel
  obtain ⟨work, hwork, huid⟩ := Option.map_eq_some_iff.mp howner
  exact (works_ordered sampleCtx sampleConfig (clusterIn .provisioning {}) reachable_instancedWorld).2 "mc-a"
    work ⟨hwork, huid⟩

end KubeCell
