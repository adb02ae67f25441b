import Mathlib.Data.List.Chain
import KubeCell.Lemmas.Transitions
import KubeCell.Theorems.Ready

/-!
# Transition times over the rounds

Rounds for a VirtualCluster persist one status after the other. Between any two that follow each other, the
transition time of a condition is kept with its status, and is the time of the later round when the status has
changed, as long as no round relapses.
-/

namespace KubeCell

open AnchoredAux EffectsAux Prog RoundAux TransitionsAux

/-- A status that was persisted: in which round, at what time, and with which conditions. -/
structure PersistedStatus where
  round : Nat
  clock : Time
  conditions : List Condition

/-- What is written down of the rounds: how many have started, the time of the last of them, and the
statuses they have persisted. -/
structure Diary where
  round : Nat := 0
  clock : Time := 0
  log : List PersistedStatus := []

/-- Write down the conditions that were persisted, if there are any. -/
def Diary.record (diary : Diary) (conditions : Option (List Condition)) : Diary :=
  { diary with log := diary.log ++ (conditions.map (PersistedStatus.mk diary.round diary.clock)).toList }

section

variable (Γ : Ctx) (cfg : Config) (key : NamespacedName) (uid : String)

/-- The conditions that a call has persisted in a VirtualCluster: none when the server was not available, or
has refused the call. -/
def persistedBy (w w' : World) : Call → Option (List Condition)
  | .api (.updateVirtualClusterStatus o) =>
    if w'.version = w.version then none
    else
      match (w.virtualClusters.updateStatus w.version o).1 with
      | .ok stored => if stored.key = key ∧ stored.metadata.uid = uid then some stored.status.conditions else none
      | .error _ => none
  | _ => none

/-- Runs of the rounds for a name, with the statuses of the VirtualCluster with a UID that they persist: the world
may change by itself as `env` says, which may depend on what was persisted so far, and a round goes on as long as
its history is `Good`. -/
inductive Run (env : List PersistedStatus → World → World → Prop) (Good : List Event → Prop) :
    Sys World Event Call Call.Res (Except Err Result) → Diary → Prop where
  | init (w : World) : Run env Good ⟨w, none⟩ {}
  | env {w w' : World} {o : Option (List Event × Action (Except Err Result))} {diary : Diary} :
    Run env Good ⟨w, o⟩ diary →
      env diary.log w w' → Run env Good ⟨w', o⟩ diary
  | start {w : World} {diary : Diary} (rt : Runtime) : Run env Good ⟨w, none⟩ diary →
      Run env Good ⟨w, some ([], reconcile Γ cfg rt key)⟩ { diary with round := diary.round + 1, clock := rt.now }
  | call {w w' : World} {h : List Event} {call : Call} {next : call.Res → Action (Except Err Result)} {r : call.Res}
    {diary : Diary} :
      Run env Good ⟨w, some (h, .call call next)⟩ diary → Good h → World.Exec w call r w' →
      Run env Good ⟨w', some (h ++ [event call r], next r)⟩ (diary.record (persistedBy key uid w w' call))
  | stop {w : World} {o : List Event × Action (Except Err Result)} {diary : Diary} : Run env Good ⟨w, some o⟩ diary →
      Run env Good ⟨w, none⟩ diary

/-- The VirtualCluster with the UID was there before, with the same conditions. -/
def LeavesConditions (w w' : World) : Prop :=
  ∀ v', w'.virtualClusters.find key = some v' → v'.metadata.uid = uid →
    ∃ v, w.virtualClusters.find key = some v ∧ v.metadata.uid = uid ∧ v'.status.conditions = v.status.conditions

end

/-- A status that is persisted after another: by a later round, and with the transition times kept or of that round. -/
structure Follows (earlier later : PersistedStatus) : Prop where
  round : earlier.round < later.round
  times : Truthful later.clock earlier.conditions later.conditions

namespace TransitionsAux

/-! ## What a call persists -/

section

variable {Γ : Ctx} {cfg : Config} {key : NamespacedName} {uid : String} {w w' : World} {h : List Event}

theorem LeavesConditions.refl (w : World) : LeavesConditions key uid w w := fun v' hv' huid => ⟨v', hv', huid, rfl⟩

/-- A call has persisted the conditions of a status that was asked for. -/
structure Persists (key : NamespacedName) (uid : String) (w w' : World) (o : VirtualCluster) : Prop where
  current : ∃ current, w.virtualClusters.find key = some current ∧ current.metadata.uid = uid
  stored : ∀ v', w'.virtualClusters.find key = some v' → v'.status.conditions = o.status.conditions

/-- An update without the status leaves the conditions. -/
theorem leaves_update (w : World) (o : VirtualCluster) :
    LeavesConditions key uid w (w.serve (.updateVirtualCluster o)).2 := by
  rcases Store.update_cases w.virtualClusters w.version o with ⟨e, hfailed⟩ | ⟨current, hcurrent, -, hput | ⟨-, hgone⟩⟩
  · rw [World.serve, hfailed]
    exact LeavesConditions.refl w
  · intro v' hv' huid
    rw [World.serve] at hv'
    dsimp only at hv'
    rw [hput, Store.find_put] at hv'
    split_ifs at hv' with hkey
    · cases hv'
      exact ⟨current, hkey ▸ hcurrent, huid, rfl⟩
    · exact ⟨v', hv', huid, rfl⟩
  · intro v' hv' huid
    rw [World.serve] at hv'
    dsimp only at hv'
    rw [hgone, Store.find_remove] at hv'
    split_ifs at hv'
    exact ⟨v', hv', huid, rfl⟩

/-- Writing a status stores its conditions, or leaves those that are stored. -/
theorem persists_or_leaves (key : NamespacedName) (uid : String) (w : World) (o : VirtualCluster) :
    (persistedBy key uid w (w.serve (.updateVirtualClusterStatus o)).2 (.api (.updateVirtualClusterStatus o)) = none ∧
      LeavesConditions key uid w (w.serve (.updateVirtualClusterStatus o)).2) ∨
    (persistedBy key uid w (w.serve (.updateVirtualClusterStatus o)).2 (.api (.updateVirtualClusterStatus o)) =
      some o.status.conditions ∧
      (∃ stored, (w.serve (.updateVirtualClusterStatus o)).1 = .ok stored) ∧
      Persists key uid w (w.serve (.updateVirtualClusterStatus o)).2 o) := by
  have hversion : ¬(w.serve (.updateVirtualClusterStatus o)).2.version = w.version := Nat.succ_ne_self w.version
  rw [persistedBy, if_neg hversion]
  rcases Store.updateStatus_cases w.virtualClusters w.version o with ⟨e, hfailed⟩ | ⟨current, hcurrent, hput⟩
  · rw [World.serve, hfailed]
    exact Or.inl ⟨rfl, LeavesConditions.refl w⟩
  · rw [World.serve, hput]
    dsimp only
    by_cases hours : (Store.withStatus w.version current o).key = key ∧
      (Store.withStatus w.version current o).metadata.uid = uid
    · rw [if_pos hours]
      refine Or.inr ⟨rfl, ⟨_, rfl⟩, ⟨current, ?_, hours.2⟩, fun v' hv' => ?_⟩
      · have hkey : o.key = key := (Store.find_keyed hcurrent).symm.trans hours.1
        exact hkey ▸ hcurrent
      · have hstored := (Store.find_put w.virtualClusters _ key).trans (if_pos hours.1.symm)
        cases hstored.symm.trans hv'
        rfl
    · rw [if_neg hours]
      refine Or.inl ⟨rfl, fun v' hv' huid => ?_⟩
      rw [Store.find_put] at hv'
      split_ifs at hv' with hkey
      · cases hv'
        exact absurd ⟨hkey.symm, huid⟩ hours
      · exact ⟨v', hv', huid, rfl⟩

/-- A call leaves the conditions alone, or it is one that persists them; what is written in that
case is not tried again. -/
theorem exec_cases (key : NamespacedName) (uid : String) {call : Call} {r : call.Res} (hx : World.Exec w call r w') :
    (persistedBy key uid w w' call = none ∧ LeavesConditions key uid w w') ∨
      ∃ o, call = .api (.updateVirtualClusterStatus o) ∧ isTry (event call r) = false ∧
        persistedBy key uid w w' call = some o.status.conditions ∧ Persists key uid w w' o := by
  have hserved : ∀ (call : ApiCall) (r : Except Err call.Res),
    (r = (w.serve call).1 ∨ ∃ e, r = .error e ∧ e.reason = .other) →
      (persistedBy key uid w (w.serve call).2 (.api call) = none ∧ LeavesConditions key uid w (w.serve call).2) ∨
        ∃ o, Call.api call = .api (.updateVirtualClusterStatus o) ∧ isTry (event (.api call) r) = false ∧
          persistedBy key uid w (w.serve call).2 (.api call) = some o.status.conditions ∧
            Persists key uid w (w.serve call).2 o := by
    intro call r hr
    cases call with
    | updateVirtualCluster o => exact Or.inl ⟨rfl, leaves_update w o⟩
    | updateVirtualClusterStatus o =>
      rcases persists_or_leaves key uid w o with hleaves | ⟨hpersisted, ⟨stored, hstored⟩, hpersists⟩
      · exact Or.inl hleaves
      · refine Or.inr ⟨o, rfl, ?_, hpersisted, hpersists⟩
        rcases hr with rfl | ⟨e, rfl, he⟩
        · rw [hstored]
          rfl
        · simp [isTry, event, Err.isConflict, he]
    | _ => exact Or.inl ⟨rfl, LeavesConditions.refl w⟩
  cases hx with
  | served call => exact hserved call _ (Or.inl rfl)
  | unavailable call e he =>
    refine Or.inl ⟨?_, LeavesConditions.refl w⟩
    unfold persistedBy
    split
    · rw [if_pos rfl]
    · rfl
  | lost call e he => exact hserved call _ (Or.inr ⟨e, rfl, he⟩)
  | host call => exact Or.inl ⟨rfl, LeavesConditions.refl w⟩

/-! ## What the history tells about the stored conditions -/

/-- What a round works on it worked on before the last answer, or the last answer tells. -/
theorem Began.snoc_cases {e : Event} {v : VirtualCluster} (hbegan : Began key (h ++ [e]) v) :
    Began key h v ∨ e = event (.api (.getVirtualCluster key)) (.ok v) ∨
      ∃ v₀ : VirtualCluster, Saw h (.api (.getVirtualCluster key)) (.ok v₀) ∧
        e = event (.api (.updateVirtualCluster v₀.adopted)) (.ok v) := by
  match h with
  | [] =>
    rcases hbegan with hlive | hdoomed
    · cases hlive with
      | read => exact Or.inr (Or.inl rfl)
    · cases hdoomed with
      | read => exact Or.inr (Or.inl rfl)
  | [e'] =>
    rcases hbegan with hlive | hdoomed
    · cases hlive with
      | read hdeleting hheld => exact Or.inl (Or.inl (.read hdeleting hheld))
      | adopted => exact Or.inr (Or.inr ⟨_, List.mem_singleton_self _, rfl⟩)
    · exact Or.inl (Or.inr (Doomed.of_append hdoomed (List.cons_ne_nil _ _)))
  | e' :: e'' :: h =>
    refine Or.inl ?_
    rcases hbegan with hlive | hdoomed
    · simp only [List.cons_append] at hlive
      generalize h ++ [e] = rest at hlive
      cases hlive with
      | read hdeleting hheld => exact Or.inl (.read hdeleting hheld)
      | adopted hdeleting hheld => exact Or.inl (.adopted hdeleting hheld)
    · exact Or.inr (Doomed.of_append hdoomed (List.cons_ne_nil _ _))

/-- What the history of the running round still tells: it has read what stands under its name, and before it writes a
status the earlier ones are of earlier rounds, and the conditions are still those that it works on. -/
structure Abreast (key : NamespacedName) (uid : String) (w : World) (diary : Diary) (h : List Event) : Prop where
  named : ∀ v, Saw h (.api (.getVirtualCluster key)) (.ok v) → v.key = key
  earlier : Unwritten h → ∀ entry ∈ diary.log, entry.round < diary.round
  stored : Unwritten h → diary.log ≠ [] → ∀ v, Began key h v → ∀ v', w.virtualClusters.find key = some v' →
    v'.metadata.uid = uid →
    v'.status.conditions = v.status.conditions

theorem Unwritten.of_append {t : List Event} (hunwritten : Unwritten (h ++ t)) : Unwritten h :=
  fun o answer hsaw => hunwritten o answer (Saw.append hsaw t)

/-- The names under which a round has read. -/
theorem Abreast.named_snoc {diary : Diary} (habreast : Abreast key uid w diary h) {call : Call} {r : call.Res}
    (hx : World.Exec w call r w') :
    ∀ v, Saw (h ++ [event call r]) (.api (.getVirtualCluster key)) (.ok v) → v.key = key := by
  intro v hsaw
  rcases saw_snoc hsaw with hold | hnew
  · exact habreast.named v hold
  · cases hnew
    exact Store.find_keyed (find_of_getVirtualCluster hx).1

/-- What a round works on from now on is what stands there now. -/
theorem stored_adopted {v₀ v v' : VirtualCluster} (hkey : v₀.key = key)
    (hx : World.Exec w (.api (.updateVirtualCluster v₀.adopted)) (.ok v) w')
    (hv' : w'.virtualClusters.find key = some v') : v' = v := by
  obtain ⟨hok, rfl⟩ := served_of_ok hx
  rw [World.serve] at hok hv'
  dsimp only at hok hv'
  rcases Store.update_cases w.virtualClusters w.version
    v₀.adopted with ⟨e, hfailed⟩ | ⟨current, -, hupdated, hput | ⟨-, hgone⟩⟩
  · rw [hfailed] at hok
    cases hok
  · cases hupdated.symm.trans hok
    rw [hput, Store.find_put] at hv'
    split_ifs at hv' with hat
    · exact (Option.some.inj hv').symm
    · exact absurd hkey.symm hat
  · rw [hgone, Store.find_remove] at hv'
    split_ifs at hv' with hat
    exact absurd hkey.symm hat

/-- A call that leaves the conditions alone. -/
theorem Abreast.leaves {diary : Diary} (habreast : Abreast key uid w diary h) {call : Call} {r : call.Res}
    (hx : World.Exec w call r w') (hleaves : LeavesConditions key uid w w') :
    Abreast key uid w' diary (h ++ [event call r]) := by
  refine ⟨Abreast.named_snoc habreast hx, fun hunwritten => habreast.earlier (Unwritten.of_append hunwritten), ?_⟩
  intro hunwritten hlog v hbegan v' hv' huid
  rcases Began.snoc_cases hbegan with hbegan | heq | ⟨v₀, hsaw, heq⟩
  · obtain ⟨v'', hv'', huid'', hconditions⟩ := hleaves v' hv' huid
    rw [hconditions]
    exact habreast.stored (Unwritten.of_append hunwritten) hlog v hbegan v'' hv'' huid''
  · cases heq
    obtain ⟨hfind, hsame⟩ := find_of_getVirtualCluster hx
    rw [hsame, hfind] at hv'
    cases hv'
    rfl
  · cases heq
    rw [stored_adopted (habreast.named v₀ hsaw) hx hv']

/-! ## Runs -/

/-- What holds in every state of a run: the statuses follow each other, the last of them is the one that is stored,
and the running round stamps what it writes with the time of the diary. -/
structure InStep (Γ : Ctx) (key : NamespacedName) (uid : String)
    (s : Sys World Event Call Call.Res (Except Err Result)) (diary : Diary) : Prop where
  chain : diary.log.IsChain Follows
  rounds : ∀ entry ∈ diary.log, entry.round ≤ diary.round
  last : ∀ entry ∈ diary.log.getLast?, ∀ v, s.world.virtualClusters.find key = some v → v.metadata.uid = uid →
    v.status.conditions = entry.conditions
  running : ∀ h p, s.round = some (h, p) → Abreast key uid s.world diary h ∧ ∃ rt :
    Runtime, rt.now = diary.clock ∧ Stamped Γ rt key p h

/-- A step that stores no conditions leaves the diary. -/
theorem record_none (diary : Diary) : diary.record none = diary := by
  rw [Diary.record, Option.map_none, Option.toList_none, List.append_nil]

/-- Steps of others leave the diary in step, as long as they leave the conditions. -/
theorem InStep.env {o : Option (List Event × Action (Except Err Result))} {diary : Diary}
    (hin : InStep Γ key uid ⟨w, o⟩ diary) (hleaves : diary.log ≠ [] → LeavesConditions key uid w w') :
    InStep Γ key uid ⟨w', o⟩ diary := by
  refine ⟨hin.chain, hin.rounds, fun entry hentry v' hv' huid => ?_, fun h p hround => ?_⟩
  · have hlog : diary.log ≠ [] := List.ne_nil_of_mem (List.mem_of_mem_getLast? hentry)
    obtain ⟨v, hv, huid, hconditions⟩ := hleaves hlog v' hv' huid
    exact hconditions.trans (hin.last entry hentry v hv huid)
  · obtain ⟨habreast, hstamped⟩ := hin.running h p hround
    refine ⟨⟨habreast.named, habreast.earlier, fun hunwritten hlog v hbegan v' hv' huid => ?_⟩, hstamped⟩
    obtain ⟨v'', hv'', huid'', hconditions⟩ := hleaves hlog v' hv' huid
    exact hconditions.trans (habreast.stored hunwritten hlog v hbegan v'' hv'' huid'')

theorem InStep.start {diary : Diary} (hin : InStep Γ key uid ⟨w, none⟩ diary) (rt : Runtime) :
    InStep Γ key uid ⟨w, some ([], reconcile Γ cfg rt key)⟩
      { diary with round := diary.round + 1, clock := rt.now } := by
  refine ⟨hin.chain, fun entry hentry => Nat.le_succ_of_le (hin.rounds entry hentry), hin.last, fun h p hround => ?_⟩
  cases hround
  refine ⟨⟨fun v hsaw => (nomatch hsaw), fun _ entry hentry => Nat.lt_succ_of_le
    (hin.rounds entry hentry), ?_⟩, rt, rfl,
    stamped_reconcile Γ cfg rt key⟩
  rintro - - v (hlive | hdoomed)
  · nomatch hlive
  · nomatch hdoomed

/-- A call that persists a status writes the next entry. -/
theorem InStep.persists {call : Call} {next : call.Res → Action (Except Err Result)} {r : call.Res} {diary : Diary}
    {o : VirtualCluster} (hin : InStep Γ key uid ⟨w, some (h, .call call next)⟩ diary) (hgood : ¬Relapses Γ key h)
    (hx : World.Exec w call r w') (hcall : call = .api (.updateVirtualClusterStatus o))
    (hdone : isTry (event call r) = false) (hpersists : Persists key uid w w' o) :
    InStep Γ key uid ⟨w', some (h ++ [event call r], next r)⟩ (diary.record (some o.status.conditions)) := by
  obtain ⟨habreast, rt, hnow, hstamps, hnext⟩ := hin.running h _ rfl
  subst hcall
  obtain ⟨hunwritten, v, hbegan, hlaw⟩ := hstamps
  have htruthful := hlaw.resolve_left hgood
  have hwritten : ¬Unwritten (h ++ [event (.api (.updateVirtualClusterStatus o)) r]) := by
    intro hnot
    exact absurd (hnot o r (saw_last _ _ _)) (by simp [hdone])
  obtain ⟨current, hcurrent, huid⟩ := hpersists.current
  refine ⟨List.IsChain.append hin.chain (List.isChain_singleton _) ?_, ?_, ?_, ?_⟩
  · rintro earlier hearlier later ⟨⟩
    have hlog : diary.log ≠ [] := List.ne_nil_of_mem (List.mem_of_mem_getLast? hearlier)
    refine ⟨habreast.earlier hunwritten earlier (List.mem_of_mem_getLast? hearlier), ?_⟩
    rw [← hin.last earlier hearlier current hcurrent huid,
      habreast.stored hunwritten hlog v hbegan current hcurrent huid, ← hnow]
    exact htruthful
  · intro entry hentry
    rcases List.mem_append.mp hentry with hold | hnew
    · exact hin.rounds entry hold
    · rw [List.mem_singleton.mp hnew]
      exact Nat.le_refl diary.round
  · intro entry hentry v' hv' _
    have hlast : (diary.record (some o.status.conditions)).log.getLast? =
      some ⟨diary.round, diary.clock, o.status.conditions⟩ :=
      List.getLast?_concat
    rw [hlast] at hentry
    cases hentry
    exact hpersists.stored v' hv'
  · intro h' p hround
    cases hround
    exact ⟨⟨Abreast.named_snoc habreast hx, fun hnot => absurd hnot hwritten, fun hnot => absurd hnot hwritten⟩,
      rt, hnow, hnext r⟩

/-- A call of a round goes into the diary, if it stores conditions. -/
theorem InStep.call {call : Call} {next : call.Res → Action (Except Err Result)} {r : call.Res} {diary : Diary}
    (hin : InStep Γ key uid ⟨w, some (h, .call call next)⟩ diary) (hgood : ¬Relapses Γ key h)
    (hx : World.Exec w call r w') :
    InStep Γ key uid ⟨w', some (h ++ [event call r], next r)⟩ (diary.record (persistedBy key uid w w' call)) := by
  rcases exec_cases key uid hx with ⟨hnone, hleaves⟩ | ⟨o, hcall, hdone, hpersisted, hpersists⟩
  · rw [hnone, record_none]
    obtain ⟨habreast, rt, hnow, -, hnext⟩ := hin.running h _ rfl
    refine ⟨hin.chain, hin.rounds, fun entry hentry v' hv' huid => ?_, fun h' p hround => ?_⟩
    · obtain ⟨v, hv, huid, hconditions⟩ := hleaves v' hv' huid
      exact hconditions.trans (hin.last entry hentry v hv huid)
    · cases hround
      exact ⟨Abreast.leaves habreast hx hleaves, rt, hnow, hnext r⟩
  · rw [hpersisted]
    exact InStep.persists hin hgood hx hcall hdone hpersists

/-- A run in which no round relapses is in step. -/
theorem inStep_of_run {env : List PersistedStatus → World → World → Prop}
    (henv : ∀ log w w', env log w w' → log ≠ [] → LeavesConditions key uid w w')
    {s : Sys World Event Call Call.Res (Except Err Result)} {diary : Diary}
    (hrun : Run Γ cfg key uid env (fun h => ¬Relapses Γ key h) s diary) : InStep Γ key uid s diary := by
  induction hrun with
  | init w =>
    exact ⟨List.isChain_nil, fun entry hentry => (nomatch hentry), fun entry hentry => (nomatch hentry),
      fun h p hround => (nomatch hround)⟩
  | env _ hstep ih => exact InStep.env ih (henv _ _ _ hstep)
  | start rt _ ih => exact InStep.start ih rt
  | call _ hgood hx ih => exact InStep.call ih hgood hx
  | stop _ ih => exact ⟨ih.chain, ih.rounds, ih.last, fun h p hround => (nomatch hround)⟩

end

end TransitionsAux

/-- In every run of rounds, in a world where nobody else writes the conditions of the VirtualCluster, and in which no
round goes on after it has relapsed, the statuses that are persisted follow each other with true transition times. -/
theorem transition_times_truthful (Γ : Ctx) (cfg : Config) (key : NamespacedName) (uid : String)
    (env : List PersistedStatus → World → World → Prop)
    (henv : ∀ log w w', env log w w' → log ≠ [] → LeavesConditions key uid w w')
    {s : Sys World Event Call Call.Res (Except Err Result)} {diary : Diary}
    (hrun : Run Γ cfg key uid env (fun h => ¬Relapses Γ key h) s diary) : diary.log.IsChain Follows :=
  (inStep_of_run henv hrun).chain

namespace TransitionsAux

open SampleAux

/-! ## Sample runs -/

/-- Answer a call with given answers of the hosts, and write down what it persists. -/
def keepDiary (hosts : (call : HostCall) → call.Res) (key : NamespacedName) (uid : String) (w : World × Diary)
    (call : Call) :
    call.Res × (World × Diary) :=
  ((w.1.answer hosts call).1, (w.1.answer hosts call).2,
    w.2.record (persistedBy key uid w.1 (w.1.answer hosts call).2 call))

section

variable {Γ : Ctx} {cfg : Config} {key : NamespacedName} {uid : String}
  {env : List PersistedStatus → World → World → Prop} {Good : List Event → Prop}
  {hosts : (call : HostCall) → call.Res}

/-- A round that goes on by itself. -/
theorem run_drive (n : Nat) {h : List Event} {p : Action (Except Err Result)} {w : World} {diary : Diary}
    (hrun : Run Γ cfg key uid env Good ⟨w, some (h, p)⟩ diary)
    (hgood : ∀ m, Good (h ++ (drive (keepDiary hosts key uid) event m (w, diary) p).2.1)) :
    Run Γ cfg key uid env Good
      ⟨(drive (keepDiary hosts key uid) event n (w, diary) p).1.1,
        some (h ++ (drive (keepDiary hosts key uid) event n (w, diary) p).2.1,
          (drive (keepDiary hosts key uid) event n (w, diary) p).2.2)⟩
      (drive (keepDiary hosts key uid) event n (w, diary) p).1.2 := by
  induction n generalizing h p w diary with
  | zero => simpa [drive] using hrun
  | succ n ih =>
    cases p with
    | ret a => simpa [drive] using hrun
    | call call next =>
      have hfirst := Run.call hrun (by simpa [drive] using hgood 0) (World.exec_answer hosts w call)
      have hrest := ih hfirst fun m => by simpa [drive, keepDiary] using hgood (m + 1)
      simpa [drive, keepDiary] using hrest

/-- The world and the diary after the first calls of a round of the sample VirtualCluster at a time. -/
def sampleRoundAt (hosts : (call : HostCall) → call.Res) (now : Time) (n : Nat) (w : World × Diary) :
    (World × Diary) × List Event × Action (Except Err Result) :=
  drive (keepDiary hosts DriftAux.sampleCluster.key DriftAux.sampleCluster.metadata.uid) event n
    (w.1, { w.2 with round := w.2.round + 1, clock := now })
    (reconcile sampleCtx sampleConfig { sampleRuntime with now := now } DriftAux.sampleCluster.key)

/-- The calls of the sample round, one after the other, are a run. -/
theorem run_sampleRoundAt (now : Time) (n : Nat) {w : World × Diary}
    (hrun : Run sampleCtx sampleConfig DriftAux.sampleCluster.key DriftAux.sampleCluster.metadata.uid env
      Good ⟨w.1, none⟩ w.2)
    (hgood : ∀ m, Good (sampleRoundAt hosts now m w).2.1) :
    Run sampleCtx sampleConfig DriftAux.sampleCluster.key DriftAux.sampleCluster.metadata.uid env Good
      ⟨(sampleRoundAt hosts now n w).1.1, none⟩ (sampleRoundAt hosts now n w).1.2 :=
  .stop (run_drive n (.start { sampleRuntime with now := now } hrun) hgood)

/-- The first answer of a sample round. -/
theorem firstRead_sampleRoundAt (now : Time) (m : Nat) (w : World × Diary) :
    firstRead (sampleRoundAt hosts now (m + 1) w).2.1 = w.1.virtualClusters.find DriftAux.sampleCluster.key := by
  have hfirst : firstRead (sampleRoundAt hosts now (m + 1) w).2.1 =
      firstRead [event (.api (.getVirtualCluster DriftAux.sampleCluster.key))
        (w.1.virtualClusters.get DriftAux.sampleCluster.key)] := rfl
  rw [hfirst, Store.get]
  cases w.1.virtualClusters.find DriftAux.sampleCluster.key <;> rfl

/-- A round does not relapse that reads a VirtualCluster with the finalizer, validated and with its host read. -/
theorem not_relapses {h : List Event} {v : VirtualCluster} (hread : firstRead h = some v) (hheld : v.held = true)
    (hvalidated : statusOf v.status.conditions "Validated" ≠ some .false)
    (hhost : statusOf v.status.conditions "HostReadReady" ≠ some .false) : ¬Relapses Γ key h := by
  have hlive : ∀ v', Live key h v' → v' = v := fun v' hlive =>
    Option.some.inj ((Live.firstRead hlive (by rw [hread, Option.map_some, hheld])).symm.trans hread)
  rintro (⟨hdrift, hfalse, -⟩ | ⟨hplacement, hfalse, -⟩)
  · exact hvalidated (hlive _ hdrift ▸ hfalse)
  · exact hhost (hlive _ hplacement ▸ hfalse)

/-- No call of the sample round relapses. -/
theorem not_relapses_sampleRoundAt (now : Time) {w : World × Diary} {v : VirtualCluster}
    (hfind : w.1.virtualClusters.find DriftAux.sampleCluster.key = some v) (hheld : v.held = true)
    (hvalidated : statusOf v.status.conditions "Validated" ≠ some .false)
    (hhost : statusOf v.status.conditions "HostReadReady" ≠ some .false) (m : Nat) :
    ¬Relapses Γ DriftAux.sampleCluster.key (sampleRoundAt hosts now m w).2.1 := by
  cases m with
  | zero => rintro (⟨hlive, -⟩ | ⟨hlive, -⟩) <;> nomatch hlive
  | succ m => exact not_relapses ((firstRead_sampleRoundAt now m w).trans hfind) hheld hvalidated hhost

/-- Two rounds of a sample, five calls each. -/
def twoRounds (w : World) : World × Diary :=
  (sampleRoundAt (sampleHost (.ok []) (.ok {})) 2000 5
    (sampleRoundAt (sampleHost (.ok []) (.ok {})) 1000 5 (w, {})).1).1

/-- A class whose memory is written in another way after the sample VirtualCluster was resolved. -/
def driftedWorld : World :=
  { sampleWorld (clusterIn .ready {}) [] with virtualNodeClasses := Store.empty.put (DriftAux.sampleClass DriftAux.gibiDecimal) }

/-- The second of two rounds that find the drift gives the condition its own time. -/
theorem log_drifted : (twoRounds driftedWorld).2.log.map (fun entry =>
    (statusOf entry.conditions "Validated", transitionTime entry.conditions "Validated")) =
      [(some .false, some 1000), (some .false, some 2000)] := by
  decide +kernel

/-- A sample whose Cell is not ready. -/
def waitingWorld : World := { sampleWorld (clusterIn .ready {}) [] with cells := Store.empty.put DriftAux.sampleCell }

/-- The second of two rounds that find the Cell not ready keeps the time. -/
theorem log_waiting : (twoRounds waitingWorld).2.log.map (fun entry => (entry.clock,
    statusOf entry.conditions "CellSelected", transitionTime entry.conditions "CellSelected")) =
      [(1000, some .false, some 1000), (2000, some .false, some 1000)] := by
  decide +kernel

/-- Two statuses of which the later gives a condition another time with the same status do not follow each other. -/
theorem not_follows {earlier later : PersistedStatus} {type : String} {status : ConditionStatus} {t t' : Time}
    (hearlier : (statusOf earlier.conditions type, transitionTime earlier.conditions type) = (some status, some t))
    (hlater : (statusOf later.conditions type, transitionTime later.conditions type) = (some status, some t'))
    (hne : t ≠ t') :
    ¬Follows earlier later := by
  obtain ⟨hstatus, htime⟩ := Prod.mk.inj hearlier
  obtain ⟨hstatus', htime'⟩ := Prod.mk.inj hlater
  intro hfollows
  have hkept := (hfollows.times type).1 (hstatus'.trans hstatus.symm)
  rw [htime, htime', Option.some.injEq] at hkept
  exact hne hkept.symm

theorem run_twoRounds {w : World} (hfirst : ∀ m, Good (sampleRoundAt (sampleHost (.ok []) (.ok {})) 1000 m (w, {})).2.1)
    (hsecond : ∀ m, Good (sampleRoundAt (sampleHost (.ok []) (.ok {})) 2000 m
      (sampleRoundAt (sampleHost (.ok []) (.ok {})) 1000 5 (w, {})).1).2.1) :
    Run sampleCtx sampleConfig DriftAux.sampleCluster.key DriftAux.sampleCluster.metadata.uid env Good
      ⟨(twoRounds w).1, none⟩ (twoRounds w).2 := by
  rw [twoRounds]
  -- with the number of calls in place, the unifier would compute the rounds
  generalize 5 = n at hsecond ⊢
  exact run_sampleRoundAt 2000 n (run_sampleRoundAt 1000 n (.init w) hfirst) hsecond

end

end TransitionsAux

open SampleAux

/-- A round that finds the drift of a VirtualCluster which is said not to be validated gives that condition
a new transition time. -/
theorem transition_times_truthful_false :
    ¬∀ (Γ : Ctx) (cfg : Config) (key : NamespacedName) (uid : String)
      (env : List PersistedStatus → World → World → Prop)
      (s : Sys World Event Call Call.Res (Except Err Result)) (diary : Diary),
      (∀ log w w', env log w w' → log ≠ [] → LeavesConditions key uid w w') →
        Run Γ cfg key uid env (fun _ => True) s diary →
      diary.log.IsChain Follows := by
  intro hall
  have hchain := hall _ _ _ _ (fun _ _ _ => False) _ _ (fun _ _ _ hfalse => hfalse.elim)
    (run_twoRounds (w := driftedWorld) (fun _ => trivial) fun _ => trivial)
  obtain ⟨earlier, rest, hlog, hearlier, hrest⟩ := List.map_eq_cons_iff.mp log_drifted
  obtain ⟨later, rest', hlog', hlater, -⟩ := List.map_eq_cons_iff.mp hrest
  rw [hlog, hlog', List.isChain_cons_cons] at hchain
  exact not_follows hearlier hlater (by decide) hchain.1

/-- Two rounds that find the Cell not ready: the second keeps the transition time of the first. -/
theorem transition_times_truthful_sample :
    ((twoRounds waitingWorld).2.log.map fun entry => (entry.clock, statusOf entry.conditions "CellSelected",
      transitionTime entry.conditions "CellSelected")) =
        [(1000, some .false, some 1000), (2000, some .false, some 1000)] ∧
      (twoRounds waitingWorld).2.log.IsChain Follows := by
  refine ⟨log_waiting, transition_times_truthful sampleCtx sampleConfig _ _ (fun _ _ _ => False)
    (fun _ _ _ hfalse => hfalse.elim)
    (run_twoRounds (fun m => ?_) fun m => ?_)⟩
  · exact not_relapses_sampleRoundAt 1000 (find_sampleWorld (clusterIn .ready {}) []) rfl (by decide) (by decide) m
  · have hread : ((sampleRoundAt (sampleHost (.ok []) (.ok {})) 1000 5 (waitingWorld, {})).1.1.virtualClusters.find
        DriftAux.sampleCluster.key).map (fun v =>
          (v.held, statusOf v.status.conditions "Validated", statusOf v.status.conditions "HostReadReady")) =
            some (true, none, none) := by
      decide +kernel
    obtain ⟨v, hfind, hall⟩ := Option.map_eq_some_iff.mp hread
    simp only [Prod.mk.injEq] at hall
    obtain ⟨hheld, hvalidated, hhost⟩ := hall
    exact not_relapses_sampleRoundAt 2000 hfind hheld (by simp [hvalidated]) (by simp [hhost]) m

end KubeCell
