import KubeCell.Slices
import KubeCell.Theorems.Confirmed

/-!
# When the installer panics

The guards of the installer stand in other functions than its slices. Every slice is in range but one: a lifecycle
operation slices two arguments after its target without asking whether they are there.
-/

namespace KubeCell

/-- In some world the program ends with a panic. -/
def Panics (p : InstallerProg Outcome) : Prop := ∃ h, p.Reaches answeredCall h (.ret .panicked)

/-- A lifecycle operation on a target, with fewer than two arguments after it. -/
def LacksBundle (args : List String) : Prop :=
  ∃ operation targetName rest, args = operation :: targetName :: rest ∧
    operation ∈ ["upgrade", "rollback", "uninstall"] ∧
    lowerText targetName ∈ ["management", "host"] ∧ rest.length < 2

/-- The lists of commands of a bundle have something in them. -/
def HasCommands (bundle : ReleaseBundle) : Prop :=
  managementInstallCommands bundle.ocmBundlePath bundle.managementChart bundle.kubecellCRDPath
    bundle.controllerImage ≠ [] ∧
    (∃ commands, Sliced.hostInstallCommands bundle = some commands ∧ commands ≠ []) ∧
    ∀ operation target revision, lifecycleCommands operation target bundle revision ≠ []

namespace PanicsAux

/-! ## Programs that do not panic -/

/-- However the world answers, the program does not panic. -/
abbrev Calm (p : InstallerProg Outcome) : Prop :=
  ∀ h, Prog.Guarded answeredCall (fun _ _ => True) (fun _ outcome => outcome ≠ Outcome.panicked) p h

/-- A program that stays calm does not panic. -/
theorem not_panics_of_calm {p : InstallerProg Outcome} (hp : Calm p) : ¬Panics p :=
  fun ⟨_, hreaches⟩ => (hp []).reaches hreaches rfl

/-- It may fail. -/
theorem calm_failed (message : String) : Calm (pure (.failed message)) := fun _ => nofun

/-- It may be done. -/
theorem calm_done : Calm (pure .done) := fun _ => nofun

/-- It may call, if it stays calm after every answer. -/
theorem calm_call {call : InstallerCall} {next : call.Answer → InstallerProg Outcome}
    (hnext : ∀ answer, Calm (next answer)) :
    Calm (.call call next) :=
  fun _ => ⟨trivial, fun answer => hnext answer _⟩

/-- A guard that is met ends the program with an error. -/
theorem calm_unless {p : Prop} [Decidable p] {message : String} {next : InstallerProg Outcome}
    (hnext : ¬p → Calm next) :
    Calm (if p then pure (.failed message) else next) := by
  by_cases hp : p
  · rw [if_pos hp]
    exact calm_failed message
  · rw [if_neg hp]
    exact hnext hp

/-- A step that may fail is calm, if what comes after it is whenever it does not fail. -/
theorem calm_orFail {α : Type} {result : Except String α} {next : α → InstallerProg Outcome}
    (hnext : ∀ a, result = .ok a → Calm (next a)) : Calm (orFail result next) := by
  cases result with
  | error e => exact calm_failed e
  | ok a => exact hnext a rfl

/-- It may print. -/
theorem calm_printing {text : String} {next : InstallerProg Outcome} (hnext : Calm next) : Calm (printing text next) :=
  calm_call fun _ => calm_orFail fun _ _ => hnext

/-- It may print several lines. -/
theorem calm_printingAll (texts : List String) {next : InstallerProg Outcome} (hnext : Calm next) :
    Calm (printingAll texts next) := by
  induction texts with
  | nil => exact hnext
  | cons text rest ih => exact calm_printing ih

/-- It may execute commands in their order. -/
theorem calm_runAll {α : Type} {line : α → String} {command : α → Command} {failure : α → String → String}
    {execute : Bool} (items : List α) : Calm (runAll line command failure execute items) := by
  induction items with
  | nil => exact calm_done
  | cons item rest ih =>
    refine calm_printing ?_
    cases execute with
    | false => exact ih
    | true =>
      refine calm_call fun ran => ?_
      cases ran with
      | error e => exact calm_failed _
      | ok _ => exact ih

/-- What comes after a bundle was loaded may rely on what the loader has checked. -/
theorem calm_loadingBundle {Γ : InstallerCtx} {root : String} {next : ReleaseBundle → InstallerProg Outcome}
    (hnext : ∀ fs bundle, loadReleaseBundle Γ fs root = .ok bundle → Calm (next bundle)) :
    Calm (loadingBundle Γ root next) :=
  calm_call fun fs => calm_orFail fun bundle hload => hnext fs bundle hload

/-! ## The functions of the installer -/

/-- It may print a Cell. -/
theorem calm_printCell (Γ : InstallerCtx) (options : InstallOptions) (profile : String)
    (devices : List DeviceContract) :
    Calm (printCell Γ options profile devices) :=
  calm_orFail fun _ _ => calm_printing calm_done

theorem calm_readNodesJSON (nodesFile kubeconfig : String) {next : Except String (List UInt8) → InstallerProg Outcome}
    (hnext : ∀ nodesJSON, Calm (next nodesJSON)) : Calm (readNodesJSON nodesFile kubeconfig >>= next) := by
  unfold readNodesJSON
  by_cases hblank : isBlank nodesFile = true
  · rw [if_pos hblank]
    exact calm_call fun _ => hnext _
  · rw [if_neg hblank]
    exact calm_call fun _ => hnext _

/-- The step for a Cell stays calm. -/
theorem calm_runCellStep (Γ : InstallerCtx) (options : InstallOptions) : Calm (runCellStep Γ options) := by
  refine calm_unless fun _ => calm_unless fun _ => calm_orFail fun overrides _ => ?_
  split
  · refine calm_readNodesJSON _ _ fun nodesJSON => ?_
    exact calm_orFail fun _ _ => calm_orFail fun _ _ => calm_printCell Γ options _ _
  · exact calm_printCell Γ options _ _

/-- So does the suggestion of a class. -/
theorem calm_runSuggestClass (Γ : InstallerCtx) (args : List String) : Calm (runSuggestClass Γ args) := by
  refine calm_orFail fun options _ => calm_unless fun _ => calm_call fun data => ?_
  exact calm_orFail fun _ _ => calm_orFail fun _ _ => calm_orFail fun _ _ => calm_printing calm_done

theorem calm_runDoctor (Γ : InstallerCtx) (args : List String) : Calm (runDoctor Γ args) := by
  cases args with
  | nil => exact calm_failed _
  | cons targetName rest =>
    refine calm_orFail fun target _ => calm_orFail fun options _ => calm_unless fun _ =>
      calm_loadingBundle fun fs bundle _ => ?_
    exact calm_printingAll _ (calm_printingAll _ (calm_runAll _))

/-- The commands of a bundle that is loaded can be sliced: there are two of them on a host. -/
theorem installCommands_of_loaded {Γ : InstallerCtx} {fs : FileSystem} {root : String} {bundle : ReleaseBundle}
    (h : loadReleaseBundle Γ fs root = .ok bundle) (target : InstallTarget) (step : String) :
    ∃ commands, installCommands target step bundle = some commands := by
  cases target with
  | management => exact ⟨_, rfl⟩
  | host =>
    obtain ⟨join, chart, hcommands⟩ := hostInstallCommands_of_loaded h
    simp only [installCommands, hcommands]
    split_ifs with hjoin _ hchart
    · simp at *
    · exact ⟨_, rfl⟩
    · simp at *
    · exact ⟨_, rfl⟩
    · exact ⟨_, rfl⟩

theorem calm_runInstallWithExecutor (Γ : InstallerCtx) (targetName : String) (args : List String) :
    Calm (runInstallWithExecutor Γ targetName args) := by
  refine calm_orFail fun options _ => ?_
  by_cases hcell : targetName = "host" ∧ options.step = "cell"
  · rw [if_pos hcell]
    exact calm_runCellStep Γ options
  rw [if_neg hcell]
  refine calm_unless fun _ => calm_unless fun _ => calm_unless fun _ => calm_unless fun _ => calm_unless fun _ => ?_
  refine calm_loadingBundle fun fs bundle hload => calm_orFail fun target _ => ?_
  obtain ⟨commands, hcommands⟩ := installCommands_of_loaded hload target options.step
  rw [hcommands]
  cases commands with
  | nil => exact calm_failed _
  | cons first rest => exact calm_runAll _

/-- A lifecycle operation with enough arguments does not panic. -/
theorem calm_runLifecycle (Γ : InstallerCtx) (operationName : String) {args : List String}
    (h : ∀ target, parseTarget (args.headD "") = .ok target → 3 ≤ args.length) :
      Calm (runLifecycle Γ operationName args) := by
  refine calm_unless fun _ => calm_orFail fun target htarget => calm_orFail fun operation _ => ?_
  rw [if_neg (Nat.not_lt.mpr (h target htarget))]
  refine calm_orFail fun bundlePath _ => calm_orFail fun options _ => calm_unless fun _ =>
    calm_loadingBundle fun fs bundle _ => ?_
  cases lifecycleCommands operation target bundle options.revision with
  | nil => exact calm_failed _
  | cons first rest => exact calm_runAll _

theorem parseTarget_isOk_iff (value : String) :
    (∃ target, parseTarget value = .ok target) ↔ lowerText value ∈ ["management", "host"] := by
  unfold parseTarget
  by_cases hmanagement : lowerText value = "management"
  · rw [if_pos hmanagement]
    exact iff_of_true ⟨_, rfl⟩ (by simp [hmanagement])
  · rw [if_neg hmanagement]
    by_cases hhost : lowerText value = "host"
    · rw [if_pos hhost]
      exact iff_of_true ⟨_, rfl⟩ (by simp [hhost])
    · rw [if_neg hhost]
      exact iff_of_false (fun ⟨_, h⟩ => nomatch h) (by simp [hmanagement, hhost])

/-- The whole command line stays calm, unless the bundle is lacking. -/
theorem calm_run (Γ : InstallerCtx) {args : List String} (h : ¬LacksBundle args) : Calm (run Γ args) := by
  cases args with
  | nil => exact calm_failed _
  | cons command rest =>
    unfold run
    dsimp only
    split_ifs with _ _ _ _ _ _ hlifecycle hempty
    · exact calm_printing calm_done
    · exact calm_runSuggestClass Γ rest
    · split
      · exact calm_call fun _ => calm_orFail fun _ _ => calm_printing calm_done
      · exact calm_failed _
    · exact calm_runDoctor Γ rest
    · split
      · exact calm_orFail fun _ _ => calm_printingAll _ calm_done
      · exact calm_failed _
    · exact calm_runInstallWithExecutor Γ command rest
    · exact calm_failed _
    · refine calm_runLifecycle Γ command fun target htarget => ?_
      obtain ⟨targetName, rest, rfl⟩ := List.exists_cons_of_ne_nil hempty
      by_contra hshort
      refine h ⟨command, targetName, rest,
        rfl, by simpa using hlifecycle, (parseTarget_isOk_iff _).mp ⟨target, htarget⟩, ?_⟩
      simp only [List.length_cons] at hshort
      omega
    · exact calm_failed _

/-- A lifecycle operation without a bundle panics before it has done anything. -/
theorem run_of_lacksBundle (Γ : InstallerCtx) {args : List String} (h : LacksBundle args) :
    run Γ args = .ret .panicked := by
  obtain ⟨command, targetName, rest, rfl, hcommand, htarget, hshort⟩ := h
  obtain ⟨target, htarget⟩ := (parseTarget_isOk_iff targetName).mpr htarget
  have hlength : ¬((targetName :: rest).length < 1 ∨ (targetName :: rest).length > 6) := by
    simp only [List.length_cons]
    omega
  have hlifecycle : ∃ operation, parseLifecycleOperation command = .ok operation := by
    simp only [List.mem_cons, List.not_mem_nil, or_false] at hcommand
    obtain rfl | rfl | rfl := hcommand
    · exact ⟨.upgrade, by decide⟩
    · exact ⟨.rollback, by decide⟩
    · exact ⟨.uninstall, by decide⟩
  obtain ⟨operation, hoperation⟩ := hlifecycle
  have hpanic : runLifecycle Γ command (targetName :: rest) = .ret .panicked := by
    rw [runLifecycle, if_neg hlength, List.headD_cons, htarget, hoperation]
    exact if_pos (by simp only [List.length_cons]; omega)
  rw [← hpanic]
  simp only [List.mem_cons, List.not_mem_nil, or_false] at hcommand
  obtain rfl | rfl | rfl := hcommand <;> simp [run]

/-- A bundle that was loaded has the commands that its operations look up. -/
theorem hasCommands_of_loaded {Γ : InstallerCtx} {fs : FileSystem} {root : String} {bundle : ReleaseBundle}
    (h : loadReleaseBundle Γ fs root = .ok bundle) : HasCommands bundle := by
  obtain ⟨imageArgs, hargs⟩ := imageSetArgs_of_validateImmutableImage (loadReleaseBundle_ok h).2
  obtain ⟨join, chart, hhost⟩ := hostInstallCommands_of_loaded h
  refine ⟨by simp [managementInstallCommands, hargs], ⟨_, Sliced.hostInstallCommands_eq bundle, by simp [hhost]⟩,
    fun operation target revision => ?_⟩
  cases operation with
  | upgrade => simp [lifecycleCommands, hargs]
  | rollback => simp [lifecycleCommands]
  | uninstall => simp [lifecycleCommands]

end PanicsAux

open PanicsAux

/-- No slice of the installer is out of range, and no bundle that is loaded has an empty list of commands, exactly
when the arguments are not a lifecycle operation that lacks its bundle. -/
theorem never_panics_iff (Γ : InstallerCtx) (args : List String) :
    (¬Panics (Sliced.run Γ args) ∧ ∀ fs root bundle, loadReleaseBundle Γ fs root = .ok bundle → HasCommands bundle) ↔
      ¬LacksBundle args := by
  rw [Sliced.run_eq]
  constructor
  · rintro ⟨hcalm, -⟩ hlacks
    refine hcalm ⟨[], ?_⟩
    rw [run_of_lacksBundle Γ hlacks]
    exact .refl _
  · exact fun h => ⟨not_panics_of_calm (calm_run Γ h), fun fs root bundle hload => hasCommands_of_loaded hload⟩

/-- `upgrade management` panics. -/
theorem never_panics_false : ¬∀ (Γ : InstallerCtx) (args : List String), ¬Panics (Sliced.run Γ args) := by
  intro h
  refine h InstallerSampleAux.sampleInstaller ["upgrade", "management"] ⟨[], ?_⟩
  rw [Sliced.run_eq, run_of_lacksBundle _ ⟨"upgrade", "management", [], rfl, by simp, by decide, by simp⟩]
  exact .refl _

end KubeCell
