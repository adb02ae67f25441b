import KubeCell.Lemmas.Effects
import KubeCell.Lemmas.Publish
import KubeCell.Theorems.Ready

/-!
# Ownership

Whose Works and Secrets a round may touch: those that carry the UID of its VirtualCluster.
-/

namespace KubeCell

open Prog RoundAux ProvisionAux EffectsAux PublishAux

/-- Every Work and every Secret that is not labelled with the UID is as it was. -/
structure Untouched (uid : String) (w w' : World) : Prop where
  works : ∀ key work, w.works.find key = some work → work.metadata.ownerUID ≠ uid → w'.works.find key = some work
  secrets : ∀ key secret, w.secrets.find key = some secret → secret.metadata.ownerUID ≠ uid →
    w'.secrets.find key = some secret

/-- A Secret that is not labelled with the UID of the VirtualCluster stands where its kubeconfig is published. -/
def ForeignSecret (w : World) (v : VirtualCluster) : Prop :=
  ∃ secret, w.secrets.find v.secretKey = some secret ∧ secret.metadata.ownerUID ≠ v.metadata.uid

/-- No call of the round to the API server failed without a cause. -/
def Undisturbed (h : List Event) : Prop := ∀ call e, Saw h (.api call) (.error e) → e.reason ≠ .other

namespace OwnershipAux

variable {Γ : Ctx} {cfg : Config} {rt : Runtime} {u : VirtualCluster} {w₀ w w' : World} {h : List Event}

theorem adminSecret_ownerUID (v : VirtualCluster) (data : List UInt8) :
    (adminSecret v data).metadata.ownerUID = v.metadata.uid := by
  have hkey : labelVirtualClusterUID ≠ labelManagedBy := by decide
  simp [adminSecret, ObjectMeta.ownerUID, GoMap.ofList, StringMap.get, AList.lookup_insert_ne hkey, -AList.insert_empty]

/-- A call leaves the Work of a name alone, unless there was none, or one that the round has read with the UID. -/
theorem works_frame (hid : Identity u w h) (hstep : WorksStep Γ rt u.key h w.works w'.works) (key : NamespacedName) :
    w'.works.find key = w.works.find key ∨ w.works.find key = none ∨
      ∃ seen, Saw h (.api (.getWork key)) (.ok seen) ∧ seen.metadata.ownerUID = u.metadata.uid := by
  generalize w'.works = works' at hstep ⊢
  cases hstep with
  | kept => exact Or.inl rfl
  | @created v cell workKey desired version hgate _ hwork hnone =>
    rw [Store.find_put]
    split_ifs with hkey
    · have hkey' : key = desired.metadata.key := hkey
      rw [hkey', IsWorkOf.metadata_key hwork]
      exact Or.inr (Or.inl hnone)
    · exact Or.inl rfl
  | @merged v cell workKey desired seen current version hgate _ _ hsaw howner hfind =>
    rw [Store.find_put]
    split_ifs with hkey
    · have hkeyed : current.metadata.key = workKey := Store.find_keyed hfind
      have hkey' : key = workKey := hkey.trans hkeyed
      have hlive : Live u.key h v := by
        cases hgate with | foundation hgate => exact hgate.live | instanceWork hgate => exact hgate.live
      exact Or.inr (Or.inr ⟨seen, hkey' ▸ hsaw, howner.trans (Identity.live hid hlive).uid⟩)
    · exact Or.inl rfl
  | @removed v workKey seen hdoomed _ hsaw howner =>
    rw [Store.find_remove]
    split_ifs with hkey
    · have hkey' : key = workKey := hkey.trans (hid.works _ _ hsaw)
      exact Or.inr (Or.inr ⟨seen, hkey' ▸ hsaw, howner.trans (Identity.doomed hid hdoomed).uid⟩)
    · exact Or.inl rfl
  | @marked v workKey seen current version hdoomed _ hsaw howner hfind =>
    rw [Store.find_put]
    split_ifs with hkey
    · have hkey' : key = workKey := hkey.trans ((Store.find_keyed hfind).trans (hid.works _ _ hsaw))
      exact Or.inr (Or.inr ⟨seen, hkey' ▸ hsaw, howner.trans (Identity.doomed hid hdoomed).uid⟩)
    · exact Or.inl rfl

/-- The round has published the kubeconfig over the Secret of a name. -/
structure Overwritten (Γ : Ctx) (u : VirtualCluster) (w : World) (h : List Event)
    (secretKey : NamespacedName) : Prop where
  key : secretKey = u.secretKey
  live : ∃ v, Live u.key h v
  published : ∃ child ∈ observations h, child.published Γ true
  owned : ∀ secret, w.secrets.find secretKey = some secret → secret.metadata.ownerUID = u.metadata.uid

/-- A call leaves the Secret of a name alone, unless there was none and the round puts its own there, or one that the
deletion has read with the UID, or the kubeconfig is published over it. -/
theorem secrets_frame (hid : Identity u w h) (hstep : SecretsStep Γ u.key h w.secrets w'.secrets)
    (key : NamespacedName) :
    w'.secrets.find key = w.secrets.find key ∨
      (w.secrets.find key = none ∧ ∀ secret, w'.secrets.find key = some secret →
        secret.metadata.ownerUID = u.metadata.uid) ∨
      (∃ v seen, Doomed u.key h v ∧ Saw h (.api (.getSecret key)) (.ok seen) ∧
        seen.metadata.ownerUID = u.metadata.uid) ∨
      Overwritten Γ u w' h key := by
  generalize hsecrets : w'.secrets = secrets' at hstep ⊢
  have hover : ∀ v, Live u.key h v → (∃ child ∈ observations h, child.published Γ true) → key = v.secretKey →
      (∀ secret, secrets'.find key = some secret → secret.metadata.ownerUID = u.metadata.uid) →
        Overwritten Γ u w' h key :=
    fun v hlive hpublished hkey howned =>
      ⟨hkey.trans (Same.secretKey (Identity.live hid hlive)), ⟨v, hlive⟩, hpublished, hsecrets ▸ howned⟩
  cases hstep with
  | kept => exact Or.inl rfl
  | @created v data version hlive hnone =>
    rw [Store.find_put]
    split_ifs with hkey
    · have hkey' : key = v.secretKey := hkey
      refine Or.inr (Or.inl ⟨hkey' ▸ hnone, fun secret hsecret => ?_⟩)
      rw [← Option.some.inj hsecret, ← (Identity.live hid hlive).uid]
      exact adminSecret_ownerUID v data
    · exact Or.inl rfl
  | @updated v o current version hlive hpublished ho hfind =>
    obtain ⟨data, resourceVersion, rfl⟩ := ho
    rw [Store.find_put]
    split_ifs with hkey
    · refine Or.inr (Or.inr (Or.inr (hover v hlive hpublished hkey fun secret hsecret => ?_)))
      rw [Store.find_put, if_pos hkey, Option.some.injEq] at hsecret
      rw [← hsecret, ← (Identity.live hid hlive).uid]
      exact adminSecret_ownerUID v data
    · exact Or.inl rfl
  | @vacated v hlive hpublished =>
    rw [Store.find_remove]
    split_ifs with hkey
    · refine Or.inr (Or.inr (Or.inr (hover v hlive hpublished hkey fun secret hsecret => ?_)))
      rw [Store.find_remove, if_pos hkey] at hsecret
      nomatch hsecret
    · exact Or.inl rfl
  | @removed v seen hdoomed hsaw howner =>
    rw [Store.find_remove]
    split_ifs with hkey
    · have hkey' : key = v.secretKey := hkey.trans (hid.secrets _ _ hsaw)
      exact Or.inr (Or.inr (Or.inl ⟨v, seen, hdoomed, hkey' ▸ hsaw, howner.trans (Identity.doomed hid hdoomed).uid⟩))
    · exact Or.inl rfl
  | @marked v seen current version hdoomed hsaw howner hfind _ =>
    rw [Store.find_put]
    split_ifs with hkey
    · have hkey' : key = v.secretKey := hkey.trans ((Store.find_keyed hfind).trans (hid.secrets _ _ hsaw))
      exact Or.inr (Or.inr (Or.inl ⟨v, seen, hdoomed, hkey' ▸ hsaw, howner.trans (Identity.doomed hid hdoomed).uid⟩))
    · exact Or.inl rfl

/-- What a round has done so far, compared with the world `w₀` it started in: every Work of others is as it was,
and so is every Secret of others unless the kubeconfig was published over it; and what the round has read of
others is what there was. -/
structure Scoped (Γ : Ctx) (u : VirtualCluster) (w₀ w : World) (h : List Event) : Prop where
  identity : Identity u w h
  works : ∀ key work, w₀.works.find key = some work → work.metadata.ownerUID ≠ u.metadata.uid →
    w.works.find key = some work
  secrets : ∀ key secret, w₀.secrets.find key = some secret → secret.metadata.ownerUID ≠ u.metadata.uid →
    w.secrets.find key = some secret ∨ Overwritten Γ u w h key
  seenWorks : ∀ key seen work, Saw h (.api (.getWork key)) (.ok seen) → w₀.works.find key = some work →
    work.metadata.ownerUID ≠ u.metadata.uid → seen = work
  seenSecrets : ∀ v key seen secret, Doomed u.key h v → Saw h (.api (.getSecret key)) (.ok seen) →
    w₀.secrets.find key = some secret → secret.metadata.ownerUID ≠ u.metadata.uid → seen = secret

/-- Before its first call a round has done nothing. -/
theorem Scoped.start (hu : w.virtualClusters.find u.key = some u) : Scoped Γ u w w [] where
  identity := Identity.start fun v hv => by
    rw [hu] at hv
    cases hv
    exact ⟨rfl, rfl, rfl⟩
  works := fun _ _ hwork _ => hwork
  secrets := fun _ _ hsecret _ => Or.inl hsecret
  seenWorks := fun _ _ _ hsaw => (List.not_mem_nil hsaw).elim
  seenSecrets := fun _ _ _ _ hdoomed => nomatch hdoomed

/-- A Secret that was overwritten stays so. -/
theorem Overwritten.step (hid : Identity u w h) {key : NamespacedName} (hover : Overwritten Γ u w h key) {call : Call}
    {r : call.Res} (hp : Permitted Γ cfg rt u.key h call) (hx : World.Exec w call r w') :
    Overwritten Γ u w' (h ++ [event call r]) key := by
  obtain ⟨hkey, ⟨v, hlive⟩, ⟨child, hmem, hpublished⟩, howned⟩ := hover
  refine ⟨hkey, ⟨v, Live.append hlive _⟩, ⟨child, ?_, hpublished⟩, fun secret hsecret => ?_⟩
  · rw [observations_append]
    exact List.mem_append_left _ hmem
  · rcases secrets_frame hid (effects_of_permitted hp hx).secrets
      key with heq | ⟨-, hcreated⟩ | ⟨v', seen, hdoomed, -⟩ | hover'
    · exact howned secret (heq ▸ hsecret)
    · exact hcreated secret hsecret
    · exact absurd hdoomed (Live.not_doomed hlive)
    · exact hover'.owned secret hsecret

/-- A call of a round keeps to this. -/
theorem Scoped.step (hs : Scoped Γ u w₀ w h) {call : Call} {r : call.Res} (hp : Permitted Γ cfg rt u.key h call)
    (hx : World.Exec w call r w') : Scoped Γ u w₀ w' (h ++ [event call r]) := by
  have heffects := effects_of_permitted hp hx
  refine ⟨Identity.step hs.identity hp hx, ?_, ?_, ?_, ?_⟩
  · intro key work hwork howner
    have hfind := hs.works key work hwork howner
    rcases works_frame hs.identity heffects.works key with heq | hnone | ⟨seen, hsaw, hseen⟩
    · exact heq.trans hfind
    · rw [hfind] at hnone
      nomatch hnone
    · rw [hs.seenWorks key seen work hsaw hwork howner] at hseen
      exact absurd hseen howner
  · intro key secret hsecret howner
    rcases hs.secrets key secret hsecret howner with hfind | hover
    · rcases secrets_frame hs.identity heffects.secrets
        key with heq | ⟨hnone, -⟩ | ⟨v, seen, hdoomed, hsaw, hseen⟩ | hover
      · exact Or.inl (heq.trans hfind)
      · rw [hfind] at hnone
        nomatch hnone
      · rw [hs.seenSecrets v key seen secret hdoomed hsaw hsecret howner] at hseen
        exact absurd hseen howner
      · obtain ⟨hkey, ⟨v, hlive⟩, ⟨child, hmem, hpublished⟩, howned⟩ := hover
        refine Or.inr ⟨hkey, ⟨v, Live.append hlive _⟩, ⟨child, ?_, hpublished⟩, howned⟩
        rw [observations_append]
        exact List.mem_append_left _ hmem
    · exact Or.inr (Overwritten.step hs.identity hover hp hx)
  · intro key seen work hsaw hwork howner
    rcases saw_snoc hsaw with hsaw | heq
    · exact hs.seenWorks key seen work hsaw hwork howner
    · cases heq
      have := hs.works key work hwork howner
      rw [(find_of_getWork hx).1] at this
      exact Option.some.inj this
  · intro v key seen secret hdoomed hsaw hsecret howner
    have hne : h ≠ [] := by
      rintro rfl
      rcases saw_snoc hsaw with hsaw | heq
      · exact List.not_mem_nil hsaw
      · cases heq
        nomatch hdoomed
    have hdoomed' := Doomed.of_append hdoomed hne
    rcases saw_snoc hsaw with hsaw | heq
    · exact hs.seenSecrets v key seen secret hdoomed' hsaw hsecret howner
    · cases heq
      rcases hs.secrets key secret hsecret howner with hfind | hover
      · rw [(find_of_getSecret hx).1] at hfind
        exact Option.some.inj hfind
      · obtain ⟨v', hlive⟩ := hover.live
        exact absurd hdoomed' (Live.not_doomed hlive)

/-- An observation is in the history as the answer of an observer. -/
theorem saw_of_mem_observations {child : ChildObservation} (hmem : child ∈ observations h) :
    ∃ cluster addresses, Saw h (.host (.observe cluster addresses)) (.ok child) := by
  obtain ⟨e, he, hchild⟩ := List.mem_filterMap.mp hmem
  split at hchild
  · rename_i cluster addresses child'
    cases hchild
    exact ⟨cluster, addresses, he⟩
  · nomatch hchild

/-- The rest of a round that has overwritten a Secret does not undo it. -/
theorem Overwritten.run {q p : Action (Except Err Result)} {h' : List Event} {key : NamespacedName}
    (hs : Scoped Γ u w₀ w h) (hover : Overwritten Γ u w h key) (hp : Safe Γ cfg rt u.key (fun _ _ => True) p h)
    (hrun : Runs World.Exec event w p h' w' q) :
    Overwritten Γ u w' (h ++ h') key := by
  have hcall : ∀ w call r w' h, Scoped Γ u w₀ w h ∧ Overwritten Γ u w h key → Permitted Γ cfg rt u.key h call →
      World.Exec w call r w' → Scoped Γ u w₀ w' (h ++ [event call r]) ∧ Overwritten Γ u w' (h ++ [event call r]) key :=
    fun _ _ _ _ _ ⟨hs, hover⟩ hp hx => ⟨Scoped.step hs hp hx, Overwritten.step hs.identity hover hp hx⟩
  exact (Runs.invariant hcall hp ⟨hs, hover⟩ hrun).1.2

/-- The Secret a round writes its kubeconfig to is the one of its VirtualCluster. -/
theorem published_of_permitted (hid : Identity u w h) {cluster : VirtualCluster} {data : List UInt8}
    {secretKey : NamespacedName} {current : Secret}
    (hp : Permitted Γ cfg rt u.key (h ++ [event (.api (.getSecret secretKey)) (.ok current)])
      (.api (.updateSecret { adminSecret cluster data with metadata.resourceVersion := current.metadata.resourceVersion }))) :
    cluster.secretKey = u.secretKey ∧ cluster.metadata.uid = u.metadata.uid := by
  generalize ho : { adminSecret cluster data with metadata.resourceVersion := current.metadata.resourceVersion } =
    o at hp
  have hkey : cluster.secretKey = o.metadata.key := ho ▸ rfl
  have huid : o.metadata.ownerUID = cluster.metadata.uid := ho ▸ adminSecret_ownerUID cluster data
  cases hp with
  | read hread => nomatch hread
  | foundation _ _ _ hwrite => nomatch hwrite
  | instanceWork _ _ _ hwrite => nomatch hwrite
  | @updateSecret v data' seen hlive _ _ =>
    have hlive := Live.of_snoc hlive (fun heq => nomatch heq) fun o heq => nomatch heq
    have hsame := Identity.live hid hlive
    exact ⟨hkey.trans (Same.secretKey hsame), huid.symm.trans ((adminSecret_ownerUID v data').trans hsame.uid)⟩

/-- What is stored after an update against the current version is not what was stored before, when the owner changes. -/
theorem update_ne {secrets : Store Secret} {secret o : Secret} {key : NamespacedName} {version : Nat}
    (hkey : o.metadata.key = key) (howner : secret.metadata.ownerUID ≠ o.metadata.ownerUID)
    (hfind : secrets.find key = some secret) (hversion : o.metadata.resourceVersion = secret.metadata.resourceVersion)
    (hfinalizers : o.metadata.finalizers = []) :
    (secrets.update version o).2.find key ≠ some secret := by
  subst hkey
  rcases Store.update_cases secrets version o with ⟨e, herror⟩ | ⟨current, -, -, heq | ⟨-, heq⟩⟩
  · have hok := Store.update_ok hfind hversion hfinalizers version
    rw [herror] at hok
    nomatch hok
  · intro hkept
    rw [heq, Store.find_put] at hkept
    split_ifs at hkept with hkey
    · exact howner (Option.some.inj hkept ▸ rfl)
    · exact hkey rfl
  · intro hkept
    rw [heq, Store.find_remove] at hkept
    split_ifs at hkept with hkey
    exact hkey rfl

/-- A round that has observed a published child cluster, and is neither cut off nor disturbed, overwrites the Secret
that stands where the kubeconfig is published. -/
theorem overwritten_of_published {p q : Action (Except Err Result)} {h' : List Event} {secret : Secret}
    (hs : Scoped Γ u w₀ w h) (hp : Safe Γ cfg rt u.key (fun _ _ => True) p h) (hpublishes : Publishes p)
    (hrun : Runs World.Exec event w p h' w' q) (hdone : ∃ result, q = .ret result) (hundisturbed : Undisturbed h')
    (hsecret : w₀.secrets.find u.secretKey = some secret) (howner : secret.metadata.ownerUID ≠ u.metadata.uid) :
    Overwritten Γ u w' (h ++ h') u.secretKey := by
  rcases hs.secrets _ secret hsecret howner with hfind | hover
  · obtain ⟨result, rfl⟩ := hdone
    obtain ⟨cluster, data, next, rfl, hnext⟩ := hpublishes
    obtain ⟨next', hnext'⟩ := hnext secret
    obtain ⟨hkey, huid⟩ : cluster.secretKey = u.secretKey ∧ cluster.metadata.uid = u.metadata.uid := by
      have hp := hp.2 (.ok secret)
      rw [hnext'] at hp
      exact published_of_permitted hs.identity hp.1
    -- the Secret is read
    cases hrun with
    | @call _ w₁ _ _ _ r h₁ _ hx hrun =>
      obtain ⟨hr, rfl⟩ := served_of_exec hx fun e he => hundisturbed _ e (by rw [← he]; exact List.mem_cons_self ..)
      obtain rfl : r = .ok secret := hr.trans (Store.get_ok_iff.mpr (hkey ▸ hfind))
      have hs₁ := Scoped.step hs hp.1 hx
      have hp₁ := hp.2 (.ok secret)
      rw [hnext'] at hrun hp₁
      -- and written over
      cases hrun with
      | @call _ w₂ _ _ _ r h₂ _ hx hrun =>
        obtain ⟨hr, rfl⟩ := served_of_exec hx fun e he => hundisturbed _ e
          (by rw [← he]; exact List.mem_cons_of_mem _ (List.mem_cons_self ..))
        have hs₂ := Scoped.step hs₁ hp₁.1 hx
        have hover := (hs₂.secrets _ secret hsecret howner).resolve_left fun hkept => ?_
        · have := Overwritten.run hs₂ hover (hp₁.2 r) hrun
          simpa using this
        · refine absurd hkept (update_ne hkey (fun hsame => howner (hsame.trans ?_)) hfind rfl rfl)
          exact (adminSecret_ownerUID cluster data).trans huid
  · exact Overwritten.run hs hover hp hrun

end OwnershipAux

open OwnershipAux

/-- In every round, cut off anywhere, with any call failing: the Works and Secrets without the UID of the VirtualCluster
stay as they are, unless a Secret of others stands where the kubeconfig is published and the round observes a published
child cluster. In a round that is neither cut off nor disturbed, they stay as they are exactly then. -/
theorem untouched_iff (Γ : Ctx) (cfg : Config) (rt : Runtime) (key : NamespacedName) {w w' : World} {v : VirtualCluster}
    {h : List Event} {q : Action (Except Err Result)} (hv : w.virtualClusters.find key = some v)
    (hrun : Prog.Runs World.Exec event w (reconcile Γ cfg rt key) h w' q) :
    (¬(ForeignSecret w v ∧ ∃ child ∈ observations h, child.published Γ true) → Untouched v.metadata.uid w w') ∧
      ((∃ result, q = .ret result) → Undisturbed h →
        (Untouched v.metadata.uid w w' ↔ ¬(ForeignSecret w v ∧ ∃ child ∈ observations h, child.published Γ true))) := by
  obtain rfl : v.key = key := Store.find_keyed hv
  have hcall : ∀ w₁ call r w₂ h, Scoped Γ v w w₁ h → Permitted Γ cfg rt v.key h call → World.Exec w₁ call r w₂ →
      Scoped Γ v w w₂ (h ++ [event call r]) := fun _ _ _ _ _ hs hp hx => Scoped.step hs hp hx
  have henough : ¬(ForeignSecret w v ∧ ∃ child ∈ observations h, child.published Γ true) →
    Untouched v.metadata.uid w w' := by
    intro hnot
    have hs := (Runs.invariant hcall (safe_reconcile Γ cfg rt v.key) (Scoped.start hv) hrun).1
    rw [List.nil_append] at hs
    refine ⟨hs.works, fun secretKey secret hsecret howner =>
      (hs.secrets _ secret hsecret howner).resolve_right fun hover => hnot ?_⟩
    exact ⟨⟨secret, hover.key ▸ hsecret, howner⟩, hover.published⟩
  refine ⟨henough, fun hdone hundisturbed => ⟨?_, henough⟩⟩
  rintro huntouched ⟨⟨secret, hsecret, howner⟩, child, hmem, hpublished⟩
  -- the round is cut where the child cluster was observed
  obtain ⟨cluster, addresses, hsaw⟩ := saw_of_mem_observations hmem
  obtain ⟨h₁, h₂, rfl⟩ := List.append_of_mem hsaw
  rw [← List.singleton_append, ← List.append_assoc] at hrun hundisturbed
  obtain ⟨w₁, p₁, hfirst, hsecond⟩ := hrun.split
  obtain ⟨hs, hp⟩ := Runs.invariant hcall (safe_reconcile Γ cfg rt v.key) (Scoped.start hv) hfirst
  obtain ⟨call, r, hevent, hpublishing⟩ := (answered_reconcile Γ cfg rt v.key).reaches_last hfirst.reaches
  cases hevent
  have hover := overwritten_of_published hs hp (hpublishing hpublished) hsecond hdone
    (fun call e hsaw => hundisturbed call e (List.mem_append_right _ hsaw)) hsecret howner
  exact howner (hover.owned secret (huntouched.secrets _ secret hsecret howner))

namespace SampleAux

/-- A Secret of another VirtualCluster, whose UID starts alike, with the given name. -/
def foreignSecret (name : String) : Secret :=
  { metadata :=
      { name := name, ns := managementNamespace
        labels := GoMap.ofList [(labelManagedBy, managedByKubecell), (labelVirtualClusterUID, "01234567-bbbb")] } }

/-- A Work of that VirtualCluster, on the same host. -/
def foreignWork : ManifestWork :=
  { metadata :=
      { name := "kc-other-89abcdef-foundation", ns := "mc-a"
        labels := GoMap.ofList [(labelManagedBy, managedByKubecell), (labelVirtualClusterUID, "01234567-bbbb")] } }

/-- The management cluster with that Secret and that Work, the VirtualCluster and its Works. -/
def foreignWorld (secretName : String) : World :=
  { sampleWorld (clusterIn .provisioning {}) (foreignWork :: sampleWorks) with
    secrets := Store.empty.put (foreignSecret secretName) }

/-- A round that finds the child cluster published. -/
def publishedRound (secretName : String) : World × List Event × Action (Except Err Result) :=
  sampleRound (foreignWorld secretName)
    (sampleHost (.ok [sampleNode])
      (.ok { apiReady := true, nodePort := 31000, endpoint := "https://10.0.0.1:31000" })) 13

theorem runs_publishedRound (secretName : String) :
    Prog.Runs World.Exec event (foreignWorld secretName)
      (reconcile sampleCtx sampleConfig sampleRuntime DriftAux.sampleCluster.key)
      (publishedRound secretName).2.1 (publishedRound secretName).1 (publishedRound secretName).2.2 := by
  rw [publishedRound]
  -- with the number of calls in place, the unifier would compute the round
  generalize 13 = n
  exact runs_sampleRound (foreignWorld secretName) _ n

end SampleAux

open SampleAux

/-- Publishing the kubeconfig overwrites the Secret of another VirtualCluster. -/
theorem untouched_false :
    ¬∀ (Γ : Ctx) (cfg : Config) (rt : Runtime) (key : NamespacedName) (w w' : World)
      (v : VirtualCluster) (h : List Event)
      (q : Action (Except Err Result)), w.virtualClusters.find key = some v →
      Prog.Runs World.Exec event w (reconcile Γ cfg rt key) h w' q → Untouched v.metadata.uid w w' := by
  intro hall
  -- it stands where the kubeconfig is published
  let secret := foreignSecret "kubecell-team-01234567-admin-kubeconfig"
  have huntouched := hall _ _ _ _ (foreignWorld secret.metadata.name) (publishedRound secret.metadata.name).1
    (clusterIn .provisioning {})
    (publishedRound secret.metadata.name).2.1 (publishedRound secret.metadata.name).2.2
    (find_sampleWorld (clusterIn .provisioning {}) (foreignWork :: sampleWorks))
      (runs_publishedRound secret.metadata.name)
  have hsecret := huntouched.secrets secret.metadata.key secret rfl (by decide +kernel)
  have howner : ((publishedRound secret.metadata.name).1.secrets.find secret.metadata.key).map (·.metadata.ownerUID) =
      some "01234567-aaaa" := by decide +kernel
  rw [hsecret] at howner
  exact absurd howner (by decide +kernel)

/-- A round that publishes the kubeconfig beside the Secret and the Work of another VirtualCluster
leaves both as they are. -/
theorem untouched_sample :
    Untouched "01234567-aaaa" (foreignWorld "kubecell-other-89abcdef-admin-kubeconfig")
      (publishedRound "kubecell-other-89abcdef-admin-kubeconfig").1 := by
  have hfind : (foreignWorld "kubecell-other-89abcdef-admin-kubeconfig").virtualClusters.find
    (clusterIn .provisioning {}).key =
      some (clusterIn .provisioning {}) := find_sampleWorld (clusterIn .provisioning {}) (foreignWork :: sampleWorks)
  refine (untouched_iff sampleCtx sampleConfig sampleRuntime _ hfind
    (runs_publishedRound "kubecell-other-89abcdef-admin-kubeconfig")).1 ?_
  rintro ⟨⟨secret, hsecret, -⟩, -⟩
  have hnone : ((foreignWorld "kubecell-other-89abcdef-admin-kubeconfig").secrets.find
    (clusterIn .provisioning {}).secretKey).isNone := by
    decide +kernel
  rw [hsecret, Option.isNone_some] at hnone
  exact absurd hnone Bool.false_ne_true

end KubeCell
