import KubeCell.Lemmas.CellRuns
import KubeCell.Theorems.Dated

/-!
# Which version the host runs

The evaluator compares the version of K3k that the status of the Cell records with the locked one. No round ever
reads the version of the host: past the ManagedCluster a round records the locked version itself, whether it could
read the baseline or not.
-/

namespace KubeCell

open CellRunsAux CellStatusAux CellWalkAux RoundAux

/-- What the check of the locked version is to say, when a status is written: it passes only on a host that was read
in this round and runs that version; a host that no round has read yet is not observed; and a host that was read and
runs another version fails. -/
structure VersionChecked (hostVersion : String) (check : PlanCheck) (h record : List Event) : Prop where
  passed : check.status = .passed → BaselineRead h ∧ hostVersion = Platform.k3kVersion
  unobserved : ¬BaselineRead record → check.status = .unknown ∧ check.reason = "VersionNotObserved"
  drifted : BaselineRead h → hostVersion ≠ Platform.k3kVersion → check.status = .failed

/-- The round ends before it comes to the baseline: the Cell is being deleted, or its ManagedCluster is not there. -/
def EndsEarly (key : NamespacedName) (h : List Event) : Prop :=
  (∃ cell, Closing key h cell) ∨ ∃ h' name e, cellExitHistory h = h' ++
    [event (.api (.getManagedCluster name)) (.error e)]

/-- A round that ends early works on a Cell without a recorded version, and one that does not reads the baseline of a
host that runs the locked version. -/
def VersionKnown (hostVersion : String) (key : NamespacedName) (h : List Event) : Prop :=
  (EndsEarly key h → ∀ cell, Opened key h cell ∨ Closing key h cell → cell.status.provider.k3kVersion = "") ∧
    (¬EndsEarly key h → BaselineRead h ∧ hostVersion = Platform.k3kVersion)

/-- The version that a status records is the locked one, or there is none. -/
def Versioned (status : CellStatus) : Prop :=
  status.provider.k3kVersion = "" ∨ status.provider.k3kVersion = Platform.k3kVersion

namespace VersionsAux

variable {Γ : Ctx} {rt : Runtime} {key : NamespacedName} {h : List Event} {cell cell' o : Cell}

/-- The Cell that a round deletes is the one it has read. -/
theorem Closing.unique (hclosing : Closing key h cell) (hclosing' : Closing key h cell') : cell = cell' := by
  cases hclosing with
  | read =>
    cases hclosing' with
    | read => rfl

/-- The end of a round leaves what it has observed of the provider. -/
theorem settled_provider (cell : Cell) (rt : Runtime) (connection : Connection) (providerReady inventoryReady : Bool) :
    (cell.settled rt connection providerReady inventoryReady).status.provider = cell.status.provider := by
  rw [Cell.settled]
  dsimp only
  split_ifs <;> rfl

theorem surveyed_provider {names : List String} {e : Event} {outcome : Cell × Bool}
    (h : Surveyed Γ rt cell names e outcome) :
    outcome.1.status.provider = cell.status.provider := by
  cases h with
  | unread => rfl
  | read source => exact (projects_projectSource cell source names).provider

/-- The version at the end of a round: as it was where the ManagedCluster is not there, and the locked one elsewhere. -/
theorem version_of_exit {status : CellStatus} (hexit : CellExit Γ rt cell h status) :
    (∃ h' name e, h = h' ++ [event (.api (.getManagedCluster name)) (.error e)]) ∧ ¬BaselineRead h ∧
        status.provider.k3kVersion = cell.status.provider.k3kVersion ∨
      (∀ h' name e, h ≠ h' ++ [event (.api (.getManagedCluster name)) (.error e)]) ∧ status.provider.k3kVersion =
        Platform.k3kVersion := by
  cases hexit with
  | missing _ hunread => exact Or.inl ⟨⟨_, _, _, rfl⟩, not_baselineRead_api hunread _ _, rfl⟩
  | unlisted hprobed =>
    refine Or.inr ⟨fun h' name e heq => ?_, ?_⟩
    · nomatch congrArg Sigma.fst (last_inj heq)
    · rw [set_provider, hprobed.version]
  | settled hprobed hmissing _ hsurveyed =>
    refine Or.inr ⟨fun h' name e heq => hmissing name _ (last_inj heq), ?_⟩
    rw [settled_provider, surveyed_provider hsurveyed, hprobed.version]

/-- Every round records the locked version, or none. -/
theorem versioned_kept (Γ : Ctx) : KeptByExits Γ (fun _ => True) Versioned where
  empty := Or.inl rfl
  exit := by
    intro rt cell h status _ hversioned hexit
    rcases version_of_exit hexit with ⟨-, -, hkept⟩ | ⟨-, hlocked⟩
    · rw [Versioned, hkept]
      exact hversioned
    · exact Or.inr hlocked
  blocked := fun _ hversioned => hversioned

/-- Without a version the check is unknown. -/
theorem lockedVersionCheck_none (rt : Runtime) (h : o.status.provider.k3kVersion = "") :
    (lockedVersionCheck rt o).status = .unknown ∧ (lockedVersionCheck rt o).reason = "VersionNotObserved" := by
  rw [lockedVersionCheck, h, if_pos rfl]
  exact ⟨rfl, rfl⟩

/-- With the locked one it passes. -/
theorem lockedVersionCheck_locked (h : o.status.provider.k3kVersion = Platform.k3kVersion) :
    (lockedVersionCheck rt o).status = .passed := by
  have hsome : Platform.k3kVersion ≠ "" := by decide
  rw [lockedVersionCheck, h, if_neg hsome, if_neg (not_not_intro rfl)]
  rfl

/-- A status without a version: the round ends early. -/
theorem checked_early (hearly : EndsEarly key h) (hunread : ¬BaselineRead h)
    (hon : Opened key h cell ∨ Closing key h cell)
    (hunique : ∀ cell', Opened key h cell' ∨ Closing key h cell' → cell' = cell) (hversioned : Versioned cell.status)
    (hkept : o.status.provider.k3kVersion = cell.status.provider.k3kVersion) (hostVersion : String)
    (record : List Event) :
    VersionChecked hostVersion (lockedVersionCheck rt o) h record ↔ VersionKnown hostVersion key h := by
  have hknown : VersionKnown hostVersion key h ↔ cell.status.provider.k3kVersion = "" := by
    constructor
    · exact fun hknown => hknown.1 hearly cell hon
    · intro hnone
      refine ⟨fun _ cell' hon' => ?_, fun hnot => absurd hearly hnot⟩
      rw [hunique cell' hon']
      exact hnone
  rw [hknown]
  constructor
  · intro hchecked
    rcases hversioned with hnone | hlocked
    · exact hnone
    · have hread := (hchecked.passed (lockedVersionCheck_locked (hkept.trans hlocked))).1
      exact absurd hread hunread
  · intro hnone
    obtain ⟨hunknown, hreason⟩ := lockedVersionCheck_none rt (hkept.trans hnone)
    refine ⟨fun hpassed => ?_, fun _ => ⟨hunknown, hreason⟩, fun hread => absurd hread hunread⟩
    rw [hunknown] at hpassed
    nomatch hpassed

/-- A status with the locked version: the round does not end early. -/
theorem checked_late (hlate : ¬EndsEarly key h) (hlocked : o.status.provider.k3kVersion = Platform.k3kVersion)
    (hostVersion : String) {record : List Event} (hrecord : ∀ e ∈ h, e ∈ record) :
    VersionChecked hostVersion (lockedVersionCheck rt o) h record ↔ VersionKnown hostVersion key h := by
  have hpassed : (lockedVersionCheck rt o).status = .passed := lockedVersionCheck_locked hlocked
  constructor
  · intro hchecked
    exact ⟨fun hearly => absurd hearly hlate, fun _ => hchecked.passed hpassed⟩
  · rintro ⟨-, hknown⟩
    obtain ⟨hread, hversion⟩ := hknown hlate
    refine ⟨fun _ => ⟨hread, hversion⟩, fun hunobserved => ?_, fun _ hdrifted => absurd hversion hdrifted⟩
    obtain ⟨cell, observation, hsaw⟩ := hread
    exact absurd ⟨cell, observation, hrecord _ hsaw⟩ hunobserved

end VersionsAux

open VersionsAux

/-- In every run of rounds for a Cell, whatever version the host runs, the check of the locked version says of a
status that is written what it is to say, exactly when a round that ends early works on a Cell without a recorded
version, and one that does not reads the baseline of a host that runs the locked version. -/
theorem locked_version_iff (Γ : Ctx) (cfg : CellConfig) (key : NamespacedName) (env : World → World → Prop)
    (henv : ∀ w w', env w w' → CellStatusKept key w w') (hostVersion : String) (rt : Runtime)
    {s : Sys (World × List Event) Event Call Call.Res (Except Err Result)}
    (hs : Sys.Reachable (cellSystem Γ cfg key env).recorded (fun w => StoredStatus Versioned key w.1 ∧ w.2 = []) s)
    {h : List Event} {o : Cell} {next : Except Err Cell → Action (Except Err Result)}
    (hround : s.round = some (h, .call (.api (.updateCellStatus o)) next)) :
    VersionChecked hostVersion (lockedVersionCheck rt o) h s.world.2 ↔ VersionKnown hostVersion key h := by
  have hrecord := hs.mem_record hround
  have hsystem : cellSystem Γ cfg key env = clockedCellSystem Γ cfg key env fun _ => True := by
    simp [cellSystem, clockedCellSystem]
  have hforgotten : Sys.Reachable (clockedCellSystem Γ cfg key env fun _ => True)
    (StoredStatus Versioned key) s.forget := by
    rw [hsystem] at hs
    exact hs.forget fun w hw => hw.1
  obtain ⟨hseen, ⟨rt', -, hp⟩, -⟩ := (holds_of_reachable (versioned_kept Γ) henv hforgotten).2 h _ hround
  cases hp with
  | read hread => nomatch hread
  | @persist h₀ tail cell current _ heq htail hcut hexit =>
    subst heq
    have hcut' := cellExitHistory_tail hcut htail
    have hread : BaselineRead (h₀ ++ tail) ↔ BaselineRead h₀ := baselineRead_tail htail
    rcases hexit with ⟨hopened, hexit⟩ | ⟨hclosing, hunread, hstatus⟩
    · have hopened' := Opened.append hopened tail
      rcases version_of_exit hexit with ⟨⟨h', name, e, hlast⟩, hunread, hkept⟩ | ⟨hnot, hlocked⟩
      · refine checked_early (Or.inr ⟨h', name, e, hcut'.trans hlast⟩) (mt hread.mp hunread) (Or.inl hopened') ?_
          (SeenStatus.opened hseen hopened') hkept hostVersion s.world.2
        rintro cell' (hopened'' | hclosing)
        · exact Opened.unique hopened'' hopened'
        · exact absurd hclosing (Opened.not_closing hopened')
      · refine checked_late ?_ hlocked hostVersion hrecord
        rintro (⟨cell', hclosing⟩ | ⟨h', name, e, hlast⟩)
        · exact Opened.not_closing hopened' hclosing
        · exact hnot h' name e (hcut'.symm.trans hlast)
    · have hclosing' := Closing.append hclosing tail
      refine checked_early (Or.inl ⟨cell, hclosing'⟩) (mt hread.mp hunread) (Or.inr hclosing') ?_
        (SeenStatus.closing hseen hclosing').2 (by rw [hstatus]; rfl) hostVersion s.world.2
      rintro cell' (hopened | hclosing'')
      · exact absurd hclosing' (Opened.not_closing hopened)
      · exact Closing.unique hclosing'' hclosing'

namespace VersionsAux

open DatedAux SampleAux CellSampleAux

/-- A round for a new Cell that has read everything and is about to write its status, with the record of the run. -/
def recordedRound : (World × List Event) × List Event × Action (Except Err Result) :=
  Prog.drive (Sys.record (World.answer fun call => cellAnswer (cellIn .pending []) (.ok managedCluster) (.ok [])
    (.host call)) event) event 7
    (cellWorld, []) (cellReconcile sampleCtx cellConfig sampleRuntime DriftAux.sampleCell.key)

/-- The round of the sample is reachable. -/
theorem reachable_recordedRound :
    Sys.Reachable (cellSystem sampleCtx cellConfig DriftAux.sampleCell.key fun _ _ => False).recorded
      (fun w => StoredStatus Versioned DriftAux.sampleCell.key w.1 ∧ w.2 = [])
        ⟨recordedRound.1, some recordedRound.2⟩ := by
  have hinit : StoredStatus Versioned DriftAux.sampleCell.key cellWorld := by
    intro cell hcell
    rw [find_cellWorld, Option.some.injEq] at hcell
    exact hcell ▸ Or.inl rfl
  have hstart : Sys.Reachable (cellSystem sampleCtx cellConfig DriftAux.sampleCell.key fun _ _ => False).recorded
      (fun w => StoredStatus Versioned DriftAux.sampleCell.key w.1 ∧ w.2 = [])
      ⟨(cellWorld, []), some ([], cellReconcile sampleCtx cellConfig sampleRuntime DriftAux.sampleCell.key)⟩ :=
    .step (.init ⟨hinit, rfl⟩) (.start ⟨sampleRuntime, rfl⟩)
  have hexec : ∀ w op, (cellSystem sampleCtx cellConfig DriftAux.sampleCell.key fun _ _ => False).recorded.exec w op
      (Sys.record (World.answer fun call => cellAnswer (cellIn .pending []) (.ok managedCluster) (.ok [])
        (.host call)) event w op).1
      (Sys.record (World.answer fun call => cellAnswer (cellIn .pending []) (.ok managedCluster) (.ok [])
        (.host call)) event w op).2 :=
    fun w op => ⟨World.exec_answer _ w.1 op, rfl⟩
  exact hstart.runs (Prog.runs_drive hexec 7 (cellWorld, []) _)

/-- The status that a program writes next. -/
def writesNext : Action (Except Err Result) → Option Cell
  | .call (.api (.updateCellStatus o)) _ => some o
  | _ => none

/-- A program that writes next makes that call. -/
theorem call_of_writesNext {p : Action (Except Err Result)} (hwrites : writesNext p = some o) :
    ∃ next, p = .call (.api (.updateCellStatus o)) next := by
  unfold writesNext at hwrites
  split at hwrites
  · cases hwrites
    exact ⟨_, rfl⟩
  · cases hwrites

/-- The round writes a status next on which the check passes. -/
theorem recordedRound_writes :
    ∃ o next, recordedRound.2 = (recordedRound.2.1, .call (.api (.updateCellStatus o)) next) ∧
    (lockedVersionCheck sampleRuntime o).status = .passed := by
  have hdecided : (writesNext recordedRound.2.2).map (fun o => (lockedVersionCheck sampleRuntime o).status) =
    some .passed := by
    decide +kernel
  obtain ⟨o, hwrites, hpassed⟩ := Option.map_eq_some_iff.mp hdecided
  obtain ⟨next, hnext⟩ := call_of_writesNext hwrites
  exact ⟨o, next, by rw [← hnext], hpassed⟩

/-- The events of a round that tell whether it has read the baseline, and how it ends. -/
def isBaselineAnswer : Event → Bool
  | ⟨.host (.observeBaseline _), .ok _⟩ => true
  | _ => false
@[inherit_doc isBaselineAnswer] def isManagedClusterAnswer : Event → Bool
  | ⟨.api (.getManagedCluster _), _⟩ => true
  | _ => false
@[inherit_doc isBaselineAnswer] def isDeletedCell : Event → Bool
  | ⟨.api (.getCell _), .ok cell⟩ => cell.deleting
  | _ => false

/-- The baseline was read if one of the answers is about it. -/
theorem baselineRead_of_any (hany : h.any isBaselineAnswer = true) : BaselineRead h := by
  obtain ⟨e, he, hread⟩ := List.any_eq_true.mp hany
  unfold isBaselineAnswer at hread
  split at hread
  · exact ⟨_, _, he⟩
  · nomatch hread

/-- A round that has read the managed cluster has not ended early. -/
theorem not_endsEarly (hdeleted : h.head?.map isDeletedCell = some false)
    (hlast : (cellExitHistory h).getLast?.map isManagedClusterAnswer = some false) : ¬EndsEarly key h := by
  rintro (⟨cell, hclosing⟩ | ⟨h', name, e, hexit⟩)
  · cases hclosing with
    | read hdeleting =>
      rw [List.head?_cons, Option.map_some, Option.some.injEq] at hdeleted
      exact absurd (hdeleting.symm.trans hdeleted) (by decide)
  · rw [hexit, List.getLast?_concat, Option.map_some, Option.some.injEq] at hlast
    nomatch hlast

end VersionsAux

open DatedAux SampleAux CellSampleAux

/-- A round that has read the baseline of a host that runs another version writes a status on which the check passes. -/
theorem locked_version_false :
    ¬∀ (Γ : Ctx) (cfg : CellConfig) (key : NamespacedName) (env : World → World → Prop)
      (hostVersion : String) (rt : Runtime)
      (s : Sys (World × List Event) Event Call Call.Res (Except Err Result)) (h : List Event) (o : Cell)
      (next : Except Err Cell → Action (Except Err Result)),
      (∀ w w', env w w' → CellStatusKept key w w') →
      Sys.Reachable (cellSystem Γ cfg key env).recorded (fun w => StoredStatus Versioned key w.1 ∧ w.2 = []) s →
      s.round = some (h, .call (.api (.updateCellStatus o)) next) →
      VersionChecked hostVersion (lockedVersionCheck rt o) h s.world.2 := by
  intro hall
  obtain ⟨o, next, hnext, hpassed⟩ := recordedRound_writes
  have hchecked := hall _ _ _ _ "v1.1.0" sampleRuntime _ _ o next
    (fun _ _ hfalse => hfalse.elim) reachable_recordedRound (congrArg some hnext)
  exact absurd (hchecked.passed hpassed).2 (by decide)

/-- A round that has read the baseline of a host that runs the locked version writes a status on
which the check says so. -/
theorem locked_version_sample :
    ∃ o next, recordedRound.2 = (recordedRound.2.1, .call (.api (.updateCellStatus o)) next) ∧
      VersionChecked Platform.k3kVersion (lockedVersionCheck sampleRuntime o) recordedRound.2.1 recordedRound.1.2 := by
  obtain ⟨o, next, hnext, -⟩ := recordedRound_writes
  have hiff := locked_version_iff _ _ _ _
    (fun _ _ hfalse => hfalse.elim) Platform.k3kVersion sampleRuntime reachable_recordedRound
    (congrArg some hnext)
  obtain ⟨hread, hdeleted, hlast⟩ : recordedRound.2.1.any isBaselineAnswer = true ∧
      recordedRound.2.1.head?.map isDeletedCell = some false ∧
      (cellExitHistory recordedRound.2.1).getLast?.map isManagedClusterAnswer = some false := by decide +kernel
  exact ⟨o, next, hnext, hiff.mpr ⟨fun hearly => absurd hearly (not_endsEarly hdeleted hlast),
    fun _ => ⟨baselineRead_of_any hread, rfl⟩⟩⟩

end KubeCell
