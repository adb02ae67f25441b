import KubeCell.Round

/-!
# Histories

How what a history says fares when the history grows, and how the parts of a round that only read, or only write the
status, are walked through.
-/

namespace KubeCell

namespace RoundAux

/-! ## Growing histories -/

theorem Saw.append {h : List Event} {call : Call} {answer : call.Res} (hsaw : Saw h call answer) (t : List Event) :
    Saw (h ++ t) call answer :=
  List.mem_append_left _ hsaw

theorem saw_last (h : List Event) (call : Call) (answer : call.Res) : Saw (h ++ [event call answer]) call answer :=
  List.mem_append_right _ (List.mem_singleton.mpr rfl)

/-- What a longer history holds it held before, or it is its last event. -/
theorem saw_snoc {h : List Event} {call call' : Call} {answer : call.Res} {answer' : call'.Res}
    (hsaw : Saw (h ++ [event call answer]) call' answer') :
    Saw h call' answer' ∨ event call answer = event call' answer' := by
  rcases List.mem_append.mp hsaw with hsaw | hsaw
  · exact Or.inl hsaw
  · exact Or.inr (List.mem_singleton.mp hsaw).symm

theorem Live.append {key : NamespacedName} {h : List Event} {v : VirtualCluster} (hlive : Live key h v)
    (t : List Event) :
    Live key (h ++ t) v := by
  cases hlive with
  | read hdeleting hheld => exact .read hdeleting hheld
  | adopted hdeleting hheld => exact .adopted hdeleting hheld

theorem Doomed.append {key : NamespacedName} {h : List Event} {v : VirtualCluster} (hdoomed : Doomed key h v)
    (t : List Event) :
    Doomed key (h ++ t) v := by
  cases hdoomed with
  | read hdeleting hheld => exact .read hdeleting hheld

/-- What a round works on is known once the first answers are in. -/
theorem Doomed.of_append {key : NamespacedName} {h t : List Event} {v : VirtualCluster}
    (hdoomed : Doomed key (h ++ t) v) (hne : h ≠ []) : Doomed key h v := by
  cases h with
  | nil => exact absurd rfl hne
  | cons e h =>
    rw [List.cons_append] at hdoomed
    generalize h ++ t = rest at hdoomed
    cases hdoomed with
    | read hdeleting hheld => exact .read hdeleting hheld

/-- What a round that provisions works on it worked on before the last answer, or the last answer tells. -/
theorem Live.snoc_cases {key : NamespacedName} {h : List Event} {e : Event} {v : VirtualCluster}
    (hlive : Live key (h ++ [e]) v) :
    Live key h v ∨ e = event (.api (.getVirtualCluster key)) (.ok v) ∧ v.held = true ∨
      ∃ v₀ : VirtualCluster, e = event (.api (.updateVirtualCluster v₀.adopted)) (.ok v) := by
  match h with
  | [] =>
    cases hlive with
    | read _ hheld => exact Or.inr (Or.inl ⟨rfl, hheld⟩)
  | [e'] =>
    cases hlive with
    | read hdeleting hheld => exact Or.inl (.read hdeleting hheld)
    | adopted => exact Or.inr (Or.inr ⟨_, rfl⟩)
  | e' :: e'' :: h =>
    simp only [List.cons_append] at hlive
    generalize h ++ [e] = rest at hlive
    cases hlive with
    | read hdeleting hheld => exact Or.inl (.read hdeleting hheld)
    | adopted hdeleting hheld => exact Or.inl (.adopted hdeleting hheld)

@[inherit_doc Live.snoc_cases] theorem Live.of_snoc {key : NamespacedName} {h : List Event} {call : Call}
    {answer : call.Res} {v : VirtualCluster} (hlive : Live key (h ++ [event call answer]) v)
    (hget : call ≠ .api (.getVirtualCluster key))
    (hupdate : ∀ o, call ≠ .api (.updateVirtualCluster o)) : Live key h v := by
  rcases Live.snoc_cases hlive with hlive | ⟨heq, -⟩ | ⟨v₀, heq⟩
  · exact hlive
  · exact absurd (congrArg Sigma.fst heq) hget
  · exact absurd (congrArg Sigma.fst heq) (hupdate _)

/-- A round works on one VirtualCluster. -/
theorem Live.unique {key : NamespacedName} {h : List Event} {v v' : VirtualCluster} (hv : Live key h v)
    (hv' : Live key h v') :
    v = v' := by
  cases hv with
  | read hdeleting hheld =>
    cases hv' with
    | read => rfl
    | adopted _ hheld' => simp [hheld] at hheld'
  | adopted hdeleting hheld =>
    cases hv' with
    | read _ hheld' => simp [hheld] at hheld'
    | adopted => rfl

/-- A round works on a VirtualCluster that is being deleted, or on one that is not. -/
theorem Live.not_doomed {key : NamespacedName} {h : List Event} {v v' : VirtualCluster}
    (hv : Live key h v) : ¬Doomed key h v' := by
  intro hv'
  cases hv with
  | read hdeleting hheld =>
    cases hv' with
    | read hdeleting' _ => simp [hdeleting] at hdeleting'
  | adopted hdeleting hheld =>
    cases hv' with
    | read hdeleting' _ => simp [hdeleting] at hdeleting'

variable {Γ : Ctx} {cfg : Config} {rt : Runtime} {key : NamespacedName} {h : List Event} {v : VirtualCluster}
  {cell : Cell}

/-- The gate of the plan stays open. -/
theorem PlanGate.append (hgate : PlanGate Γ rt key h v cell) (t : List Event) : PlanGate Γ rt key (h ++ t) v cell := by
  obtain ⟨virtualNodeClass, hclass, hplan⟩ := hgate.plan
  exact ⟨Live.append hgate.live t, Saw.append hgate.readCell t, virtualNodeClass, Saw.append hclass t, hplan⟩

theorem HostGate.append (hgate : HostGate Γ rt key h v cell) (t : List Event) : HostGate Γ rt key (h ++ t) v cell := by
  obtain ⟨nodes, hnodes, haddresses⟩ := hgate.addresses
  exact ⟨PlanGate.append hgate.toPlanGate t, nodes, Saw.append hnodes t, haddresses⟩

theorem Wrote.append {desired : ManifestWork} (hwrote : Wrote h desired) (t : List Event) : Wrote (h ++ t) desired := by
  rcases hwrote with ⟨stored, hsaw⟩ | ⟨stored, hsaw⟩
  · exact Or.inl ⟨stored, Saw.append hsaw t⟩
  · exact Or.inr ⟨stored, Saw.append hsaw t⟩

theorem InstanceGate.append (hgate : InstanceGate Γ rt key h v cell) (t : List Event) :
    InstanceGate Γ rt key (h ++ t) v cell := by
  obtain ⟨desired, hdesired, hwrote⟩ := hgate.written
  obtain ⟨work, hwork, hhealthy⟩ := hgate.foundation
  refine ⟨HostGate.append hgate.toHostGate t, ⟨desired, hdesired, Wrote.append hwrote t⟩,
    ⟨work, Saw.append hwork t, hhealthy⟩, ?_⟩
  rcases hgate.instanceWork with ⟨e, he, hsaw⟩ | ⟨work, hsaw, hfailed⟩
  · exact Or.inl ⟨e, he, Saw.append hsaw t⟩
  · exact Or.inr ⟨work, Saw.append hsaw t, hfailed⟩

theorem SnapshotFrom.append {snapshot : ResolvedSnapshot} (hsnap : SnapshotFrom Γ v h snapshot) (t : List Event) :
    SnapshotFrom Γ v (h ++ t) snapshot := by
  rcases hsnap with heq | ⟨hempty, cell, virtualNodeClass, resolved, hcell, hresolved, heq⟩
  · exact Or.inl heq
  · exact Or.inr ⟨hempty, cell, virtualNodeClass, resolved, Saw.append hcell t, hresolved, heq⟩

theorem SecretGone.append (hgone : SecretGone v h) (t : List Event) : SecretGone v (h ++ t) := by
  cases hgone with
  | missing he hsaw => exact .missing he (Saw.append hsaw t)
  | deleted hread hsaw => exact .deleted (Saw.append hread t) (Saw.append hsaw t)
  | vanished he hread hsaw => exact .vanished he (Saw.append hread t) (Saw.append hsaw t)

theorem LooksIn.append {managedCluster : String} (hlooks : LooksIn v h managedCluster) (t : List Event) :
    LooksIn v (h ++ t) managedCluster := by
  cases hlooks with
  | snapshot heq hne => exact .snapshot heq hne
  | cell hempty hsaw heq => exact .cell hempty (Saw.append hsaw t) heq

theorem WorkGone.append {workKey : NamespacedName} (hgone : WorkGone h workKey) (t : List Event) :
    WorkGone (h ++ t) workKey := by
  rcases hgone with hempty | ⟨e, he, hsaw⟩
  · exact Or.inl hempty
  · exact Or.inr ⟨e, he, Saw.append hsaw t⟩

/-! ## Observations and exits -/

theorem observations_append (h t : List Event) :
    observations (h ++ t) = observations h ++ observations t := List.filterMap_append

/-- A call that neither writes the status nor observes the child cluster. -/
def quietCall : Call → Bool
  | .api (.updateVirtualClusterStatus _) | .host (.observe _ _) => false
  | _ => true

/-- A quiet call adds no observation. -/
theorem observations_quiet (h : List Event) (call : Call) (answer : call.Res) (hquiet : quietCall call = true) :
    observations (h ++ [event call answer]) = observations h := by
  rw [observations_append, List.append_right_eq_self]
  cases call with
  | api call => rfl
  | host call =>
    cases call with
    | observe cluster addresses => nomatch hquiet
    | _ => rfl

/-- A try makes calls that write the status. -/
theorem isStatusCall_of_isTry {e : Event} (he : isTry e = true) : isStatusCall e = true := by
  unfold isTry at he
  split at he
  · rfl
  · rfl
  · nomatch he

/-- A history that ends with another call is not cut. -/
theorem exitHistory_last (h : List Event) (e : Event) (he : isStatusCall e = false) :
    exitHistory (h ++ [e]) = h ++ [e] :=
  List.rdropWhile_concat_neg _ _ _ (by simp [he])

/-- The calls of the status at the end are cut. -/
theorem exitHistory_tail {h t : List Event} (hh : exitHistory h = h) (ht : ∀ e ∈ t, isStatusCall e = true) :
    exitHistory (h ++ t) = h := by
  unfold exitHistory at hh ⊢
  induction t using List.reverseRecOn with
  | nil => simpa using hh
  | append_singleton t e ih =>
    rw [← List.append_assoc, List.rdropWhile_concat_pos _ _ _ (ht e (by simp))]
    exact ih fun e' he' => ht e' (by simp [he'])

/-- A call to the API server, and what comes after it. -/
theorem guarded_api {α : Type} {G : List Event → Call → Prop} {Q : List Event → α → Prop} (call : ApiCall)
    (f : Except Err call.Res → Action α) (h : List Event) :
    Prog.Guarded event G Q (api call >>= f) h ↔
      G h (.api call) ∧ ∀ r, Prog.Guarded event G Q (f r) (h ++ [event (.api call) r]) := Iff.rfl

/-- The rule for tries: when each of them is guarded from where it may start, and another one may start from where it
met a conflict, all of them are guarded. -/
theorem guarded_retry {G : List Event → Call → Prop} {T : List Event → Prop} {f : Action (Except Err Unit)}
    (hf : ∀ h, T h → Prog.Guarded event G (fun h' r => ∀ e, r = .error e → e.isConflict = true → T h') f h) (n : Nat)
    {h : List Event} (hT : T h) : Prog.Guarded event G (fun _ _ => True) (retryOnConflict f n) h := by
  induction n generalizing h with
  | zero => exact (hf h hT).mono (fun _ _ hp => hp) fun _ _ _ => trivial
  | succ n ih =>
    rw [retryOnConflict, Prog.guarded_bind]
    refine (hf h hT).mono (fun _ _ hp => hp) fun h' r hnext => ?_
    cases r with
    | ok _ => trivial
    | error e =>
      dsimp only
      split_ifs with hconflict
      · exact ih (hnext e rfl hconflict)
      · trivial

/-- Whether a round ends stale is read off its last answer. -/
theorem stale_append (h : List Event) (e : Event) : Stale Γ cfg rt v (h ++ [e]) ↔ StaleAt Γ cfg rt v h e := by
  constructor
  · rintro ⟨h', e', heq, hstale⟩
    obtain ⟨rfl, rfl⟩ := List.append_singleton_inj.mp heq
    exact hstale
  · exact fun hstale => ⟨h, e, rfl, hstale⟩

end RoundAux
end KubeCell
