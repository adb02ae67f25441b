import KubeCell.Lemmas.Round

/-!
# Every call of a round is permitted

The walk through `reconcile`: one lemma for each of its parts, from the last to the first.
-/

namespace KubeCell

open Prog RoundAux

/-- Every call of the program is permitted, and the value it ends with is related to the history at the end. -/
abbrev Safe (Γ : Ctx) (cfg : Config) (rt : Runtime) (key : NamespacedName) {α : Type} (Q : List Event → α → Prop)
    (p : Action α) (h : List Event) : Prop :=
  Guarded event (Permitted Γ cfg rt key) Q p h

namespace WalkAux

variable {Γ : Ctx} {cfg : Config} {rt : Runtime} {key : NamespacedName} {α : Type} {Q : List Event → α → Prop}
  {h : List Event}

/-- A call to the API server, and what comes after it. -/
theorem safe_api (call : ApiCall) (f : Except Err call.Res → Action α) :
    Safe Γ cfg rt key Q (api call >>= f) h ↔
      Permitted Γ cfg rt key h (.api call) ∧ ∀ r, Safe Γ cfg rt key Q (f r) (h ++ [event (.api call) r]) := Iff.rfl

/-- A call to a host or child cluster, and what comes after it; it is always permitted. -/
theorem safe_host (call : HostCall) (f : call.Res → Action α) :
    Safe Γ cfg rt key Q (host call >>= f) h ↔ ∀ r, Safe Γ cfg rt key Q (f r) (h ++ [event (.host call) r]) :=
  ⟨fun hsafe => hsafe.2, fun hsafe => ⟨.host call, hsafe⟩⟩

/-! ## Writing the status -/

/-- One try to write a status that a round may end with is permitted, and another one may follow when it fails. -/
theorem safe_tryUpdateStatus {h₀ tail : List Event} {desired : VirtualCluster} (htail : ∀ e ∈ tail, isTry e = true)
    (hcut : exitHistory h₀ = h₀) (hexit : Exit Γ cfg rt key h₀ desired.status) :
    Safe Γ cfg rt key (fun h' r => ∀ e, r = .error e → e.isConflict = true → ∃ tail', h' = h₀ ++ tail' ∧
      ∀ e ∈ tail', isTry e = true)
      (tryUpdateStatus desired) (h₀ ++ tail) := by
  have hsnoc : ∀ (l : List Event) (e : Event), (∀ e ∈ l, isTry e = true) → isTry e = true → ∀ e' ∈ l ++ [e],
    isTry e' = true := by
    intro l e hl he e' he'
    rcases List.mem_append.mp he' with he' | he'
    · exact hl e' he'
    · rwa [List.mem_singleton.mp he']
  rw [tryUpdateStatus, safe_api]
  refine ⟨.read rfl, fun r => ?_⟩
  have hread := hsnoc tail (event (.api (.getVirtualCluster desired.key)) r) htail rfl
  rw [List.append_assoc]
  cases r with
  | error e => exact fun _ _ _ => ⟨_, rfl, hread⟩
  | ok current =>
    dsimp only
    rw [safe_api]
    refine ⟨.persist rfl hread hcut hexit, fun r => ?_⟩
    rw [List.append_assoc]
    cases r with
    | error e =>
      intro e' he' hconflict
      cases he'
      exact ⟨_, rfl, hsnoc _ _ hread hconflict⟩
    | ok stored => exact fun _ hfailed => nomatch hfailed

/-- The tries of a status that a round may end with are permitted. -/
theorem safe_retry {h₀ tail : List Event} {desired : VirtualCluster} (htail : ∀ e ∈ tail, isTry e = true)
    (hcut : exitHistory h₀ = h₀) (hexit : Exit Γ cfg rt key h₀ desired.status) (n : Nat) :
    Safe Γ cfg rt key (fun _ _ => True) (retryOnConflict (tryUpdateStatus desired) n) (h₀ ++ tail) := by
  refine guarded_retry (T := fun h => ∃ tail, h = h₀ ++ tail ∧ ∀ e ∈ tail, isTry e = true) ?_ n ⟨tail, rfl, htail⟩
  rintro h' ⟨tail', rfl, htail'⟩
  exact safe_tryUpdateStatus htail' hcut hexit

/-- Ending a round with a status that it may end with is permitted. -/
theorem safe_persist {desired : VirtualCluster} {requeueAfter : Option Nat} (hcut : exitHistory h = h)
    (hexit : Exit Γ cfg rt key h desired.status) :
    Safe Γ cfg rt key (fun _ _ => True) (persist desired requeueAfter) h := by
  rw [persist, Safe, guarded_bind]
  have hnil : ∀ e ∈ ([] : List Event), isTry e = true := fun e he => nomatch he
  have := safe_retry hnil hcut hexit 4
  rw [List.append_nil] at this
  refine this.mono (fun _ _ hp => hp) ?_
  rintro h' (e | ⟨⟩) - <;> trivial

/-! ## Deletion -/

section Deletion

variable {v : VirtualCluster}

/-- A status of a deletion may be written at any point of it. -/
theorem safe_cleanup (hdoomed : Doomed key h v) (hcut : exitHistory h = h) (status : ConditionStatus)
    (reason message : String) (requeueAfter : Option Nat) :
    Safe Γ cfg rt key (fun _ _ => True) (persist (v.cleanup rt status reason message) requeueAfter) h :=
  safe_persist hcut (.doomed hdoomed rfl rfl)

/-- `deleteOwnedSecret` deletes the Secret only when it is labelled with the UID, and succeeds only
when the Secret is gone. -/
theorem safe_deleteOwnedSecret (hdoomed : Doomed key h v) :
    Safe Γ cfg rt key (fun h' r => r = .ok () → Doomed key h' v ∧ SecretGone v h' ∧ exitHistory h' = h')
      (deleteOwnedSecret v.metadata.ns v.names.adminKubeconfig v.metadata.uid) h := by
  have hname : v.names.adminKubeconfig ≠ "" := by
    intro hempty
    have := congrArg String.toList hempty
    simp [VirtualCluster.names, namesForVirtualCluster, String.toList_append] at this
  rw [deleteOwnedSecret, if_neg hname, safe_api]
  refine ⟨.read rfl, fun r => ?_⟩
  cases r with
  | error e =>
    intro hok
    refine ⟨Doomed.append hdoomed _, ?_, exitHistory_last _ _ rfl⟩
    by_cases he : e.isNotFound = true
    · exact .missing he (saw_last _ _ _)
    · simp [he] at hok
  | ok secret =>
    dsimp only
    split_ifs with howner
    · intro hok
      cases hok
    · rw [safe_api]
      have hsaw : Saw (h ++ [event (.api (.getSecret v.secretKey)) (.ok secret)])
        (.api (.getSecret v.secretKey)) (.ok secret) :=
        saw_last _ _ _
      refine ⟨.deleteSecret (Doomed.append hdoomed _) hsaw (not_not.mp howner), fun r => ?_⟩
      cases r with
      | error e =>
        intro hok
        refine ⟨Doomed.append (Doomed.append hdoomed _) _, ?_, exitHistory_last _ _ rfl⟩
        by_cases he : e.isNotFound = true
        · exact .vanished he (Saw.append hsaw _) (saw_last _ _ _)
        · simp [he] at hok
      | ok _ =>
        exact fun _ => ⟨Doomed.append (Doomed.append hdoomed _) _, .deleted (Saw.append hsaw _) (saw_last _ _ _),
          exitHistory_last _ _ rfl⟩

/-- What the deletion makes of the answer of `getWork`: a Work that was read, one that is gone, or an error. -/
def Found (h : List Event) (workKey : NamespacedName) : Except Err (Option ManifestWork) → Prop
  | .ok (some work) => Saw h (.api (.getWork workKey)) (.ok work) ∧ workKey.ns ≠ ""
  | .ok none => WorkGone h workKey
  | .error _ => True

theorem Found.append {workKey : NamespacedName} {r : Except Err (Option ManifestWork)} (hfound : Found h workKey r)
    (t : List Event) :
    Found (h ++ t) workKey r := by
  match r with
  | .ok (some work) => exact ⟨Saw.append hfound.1 t, hfound.2⟩
  | .ok none => exact WorkGone.append hfound t
  | .error _ => trivial

/-- `getWork`, and then what comes after it. -/
theorem safe_getWork (hcut : exitHistory h = h) {workKey : NamespacedName} (hname : workKey.name ≠ "")
    {f : Except Err (Option ManifestWork) → Action α}
    (hnext : ∀ t r, exitHistory (h ++ t) = h ++ t → Found (h ++ t) workKey (orMissing r) →
      Safe Γ cfg rt key Q (f r) (h ++ t)) :
    Safe Γ cfg rt key Q (getWork workKey.ns workKey.name >>= f) h := by
  unfold getWork
  by_cases hns : workKey.ns = ""
  · rw [if_pos (Or.inl hns)]
    have := hnext [] (.ok none) (by rwa [List.append_nil]) (Or.inl hns)
    rwa [List.append_nil] at this
  · rw [if_neg (by simp [hns, hname])]
    refine ⟨.read rfl, fun r => ?_⟩
    cases r with
    | ok work => exact hnext _ (.ok (some work)) (exitHistory_last _ _ rfl) ⟨saw_last _ _ _, hns⟩
    | error e =>
      refine hnext _ (.error e) (exitHistory_last _ _ rfl) ?_
      by_cases he : e.isNotFound = true
      · rw [orMissing, if_pos he]
        exact Or.inr ⟨e, he, saw_last _ _ _⟩
      · rw [orMissing, if_neg he]
        trivial

/-- Requesting the deletion of a Work that is permitted to be deleted. -/
theorem safe_requestDeletion {work : ManifestWork} (hdoomed : Doomed key h v)
    (hdelete : Permitted Γ cfg rt key h (.api (.deleteWork work.metadata.key))) (reason message : String) :
    Safe Γ cfg rt key (fun _ _ => True) (requestDeletion rt v work reason message) h := by
  rw [requestDeletion, safe_api]
  refine ⟨hdelete, fun r => ?_⟩
  have hcleanup : ∀ r, Safe Γ cfg rt key (fun _ _ => True) (persist (v.cleanup rt .false reason message) (some 5))
      (h ++ [event (.api (.deleteWork work.metadata.key)) r]) := fun r =>
    safe_cleanup (Doomed.append hdoomed _) (exitHistory_last _ _ rfl) _ _ _ _
  cases r with
  | ok _ => exact hcleanup _
  | error e =>
    dsimp only
    split_ifs
    · trivial
    · exact hcleanup _

/-- A plan that is not blocked is about Works labelled with the UID. -/
theorem ownerUID_of_not_blocked {instanceWork foundation : Option ManifestWork} {uid : String}
    (h : (buildDeletionPlan instanceWork foundation uid).blocked = false) :
    ∀ work, instanceWork = some work ∨ foundation = some work → work.metadata.ownerUID = uid := by
  intro work hwork
  unfold buildDeletionPlan at h
  split_ifs at h with hany
  simp only [List.any_eq_true, Bool.or_eq_true, beq_iff_eq, bne_iff_ne, not_exists, not_and, not_or, not_not] at hany
  exact (hany work (by rcases hwork with rfl | rfl <;> simp)).2

/-- The deletion with what was found of the two Works: the instance Work goes first, and the finalizer last. -/
theorem safe_deleteInOrder {managedCluster : String} (hdoomed : Doomed key h v) (hsecret : SecretGone v h)
    (hlooks : LooksIn v h managedCluster) (hcut : exitHistory h = h) {instanceWork foundation : Option ManifestWork}
    (hinstance : Found h (v.instanceKey managedCluster) (.ok instanceWork))
    (hfoundation : Found h (v.foundationKey managedCluster) (.ok foundation)) :
    Safe Γ cfg rt key (fun _ _ => True) (deleteInOrder rt v instanceWork foundation) h := by
  unfold deleteInOrder
  dsimp only
  split_ifs with hblocked
  · exact safe_cleanup hdoomed hcut _ _ _ _
  · have howner := ownerUID_of_not_blocked (by simpa using hblocked)
    match instanceWork, foundation with
    | some work, _ =>
      exact safe_requestDeletion hdoomed (.deleteInstance hdoomed hinstance.1 (howner work (Or.inl rfl))) _ _
    | none, some work =>
      exact safe_requestDeletion hdoomed
        (.deleteFoundation hdoomed hinstance hfoundation.1 hfoundation.2 (howner work (Or.inr rfl))) _ _
    | none, none =>
      refine ⟨.release hdoomed hsecret hlooks hinstance hfoundation, fun r => ?_⟩
      cases r <;> trivial

/-- The deletion in the namespace it looks in. -/
theorem safe_deleteWorks {managedCluster : String} (hdoomed : Doomed key h v) (hsecret : SecretGone v h)
    (hlooks : LooksIn v h managedCluster) (hcut : exitHistory h = h) :
    Safe Γ cfg rt key (fun _ _ => True) (deleteWorks rt v managedCluster) h := by
  unfold deleteWorks
  have hinstanceName : (v.instanceKey managedCluster).name ≠ "" := instanceWork_ne_empty v
  have hfoundationName : (v.foundationKey managedCluster).name ≠ "" := foundationWork_ne_empty v
  refine safe_getWork hcut hinstanceName fun t r hcut₁ hinstance => ?_
  refine safe_getWork hcut₁ hfoundationName fun t' r' hcut₂ hfoundation => ?_
  have hinstance := Found.append hinstance t'
  have hdoomed := Doomed.append (Doomed.append hdoomed t) t'
  have hsecret := SecretGone.append (SecretGone.append hsecret t) t'
  have hlooks := LooksIn.append (LooksIn.append hlooks t) t'
  cases hr : orMissing r with
  | error e => trivial
  | ok instanceWork =>
    cases hr' : orMissing r' with
    | error e => trivial
    | ok foundation =>
      rw [hr] at hinstance
      rw [hr'] at hfoundation
      exact safe_deleteInOrder hdoomed hsecret hlooks hcut₂ hinstance hfoundation

/-- The deletion. -/
theorem safe_reconcileDeletion (hdeleting : v.deleting = true) :
    Safe Γ cfg rt key (fun _ _ => True) (reconcileDeletion rt v) [event (.api (.getVirtualCluster key)) (.ok v)] := by
  unfold reconcileDeletion
  by_cases hheld : v.held = true
  · have hdoomed : Doomed key [event (.api (.getVirtualCluster key)) (.ok v)] v := .read hdeleting hheld
    rw [VirtualCluster.held] at hheld
    rw [hheld]
    simp only [Bool.not_true, Bool.false_eq_true, if_false]
    rw [Safe, guarded_bind]
    refine (safe_deleteOwnedSecret hdoomed).mono (fun _ _ hp => hp) ?_
    rintro h' (e | ⟨⟩) hgone
    · trivial
    · obtain ⟨hdoomed, hsecret, hcut⟩ := hgone rfl
      dsimp only
      split_ifs with hempty
      · refine ⟨.read rfl, fun r => ?_⟩
        cases r with
        | error e => exact safe_cleanup (Doomed.append hdoomed _) (exitHistory_last _ _ rfl) _ _ _ _
        | ok referenced =>
          exact safe_deleteWorks (Doomed.append hdoomed _) (SecretGone.append hsecret _)
            (.cell hempty (saw_last _ _ _) rfl)
            (exitHistory_last _ _ rfl)
      · exact safe_deleteWorks hdoomed hsecret (.snapshot rfl hempty) hcut
  · rw [VirtualCluster.held] at hheld
    simp only [hheld, Bool.not_false, if_true]
    trivial

end Deletion

end WalkAux
end KubeCell
