import KubeCell.Installer

/-!
# The slices of the installer

`run` of the installer and the functions it dispatches to once more, where each index and each slice of a list is a
step of its own: the program panics when it is out of range, whether or not a guard stands before it. The arguments
fill their slice, so its capacity is its length. `Sliced.run_eq` says that this is `run`.
-/

namespace KubeCell

/-- `list[i:j]`, if it is in range. -/
def goSlice {α : Type} (list : List α) (i j : Nat) : Option (List α) :=
  if i ≤ j ∧ j ≤ list.length then some ((list.take j).drop i) else none

/-- The program panics when an index or a slice is out of range. -/
def orPanic {α : Type} (result : Option α) (next : α → InstallerProg Outcome) : InstallerProg Outcome :=
  match result with
  | none => pure .panicked
  | some a => next a

namespace Sliced

/-- `runDoctor`. -/
def runDoctor (Γ : InstallerCtx) (args : List String) : InstallerProg Outcome :=
  if args.length < 1 then
    pure (.failed "doctor requires management or host, --bundle, optional --dry-run, and repeatable --device for host")
  else
    orPanic args[0]? fun targetName =>
    orFail (parseTarget targetName) fun target =>
    orPanic (goSlice args 1 args.length) fun rest =>
    orFail (parseFlags doctorFlags rest {}) fun options =>
    if isBlank options.bundle then pure (.failed "doctor requires --bundle <release-directory>")
    else
      loadingBundle Γ options.bundle fun bundle =>
      printingAll ((bundleCheckReport bundle).map (· ++ "\n"))
        (printingAll
          (if target = .host ∧ options.devices = [] then
            ["H3 devices: skipped (pass --device KEY to enforce per-node device capacity)\n"]
          else [])
          (runChecks (!options.dryRun) (doctorCommandsWithDevices target bundle options.devices)))

/-- `HostInstallCommands`. -/
def hostInstallCommands (bundle : ReleaseBundle) : Option (List Command) :=
  match imageSetArgs bundle.controllerImage with
  | none => some []
  | some imageArgs =>
    if bundle.compatibility.ocmJoinCommand.length = 0 then some []
    else do
      let joinArgs := joinWords bundle
      let program ← joinArgs[0]?
      let args ← goSlice joinArgs 1 joinArgs.length
      return [ { program, args }, helmUpgrade "kubecell-host" bundle.hostChart imageArgs ]

/-- The commands of a target, at a step. -/
def installCommands (target : InstallTarget) (step : String) (bundle : ReleaseBundle) : Option (List Command) :=
  match target with
  | .management =>
    some (managementInstallCommands bundle.ocmBundlePath bundle.managementChart bundle.kubecellCRDPath
      bundle.controllerImage)
  | .host => do
    let commands ← hostInstallCommands bundle
    if step = "join" then goSlice commands 0 1
    else if step = "chart" then goSlice commands 1 commands.length
    else some commands

/-- `runInstallWithExecutor`. -/
def runInstallWithExecutor (Γ : InstallerCtx) (targetName : String) (args : List String) : InstallerProg Outcome :=
  orFail (parseFlags installFlags args {}) fun options =>
  if targetName = "host" ∧ options.step = "cell" then runCellStep Γ options
  else if options.bundle = "" then pure (.failed s!"{targetName} requires --bundle <release-directory>")
  else if options.apply ∧ ¬options.confirm then pure (.failed "--apply requires --confirm")
  else if options.apply ∧ options.dryRun then pure (.failed "--apply cannot be combined with --dry-run")
  else if targetName = "host" ∧ options.apply ∧ options.step = "all" then
    pure (.failed "host apply requires --step=join or --step=chart; approve the ManagedCluster between steps")
  else if targetName = "host" ∧ options.step ≠ "all" ∧ options.step ≠ "join" ∧ options.step ≠ "chart" then
    pure (.failed s!"unsupported Host installation step {goSyntax options.step}")
  else
    loadingBundle Γ options.bundle fun bundle =>
    orFail (parseTarget targetName) fun target =>
    orPanic (installCommands target options.step bundle) fun commands =>
    if commands.length = 0 then
      pure (.failed s!"no commands generated for {targetName} (check bundle image and join command)")
    else runCommands (options.apply && !options.dryRun) commands

/-- `bundleFlag`. -/
def bundleFlag (args : List String) (next : String → InstallerProg Outcome) : InstallerProg Outcome :=
  if args.length ≠ 2 then pure (.failed "--bundle <release-directory> is required")
  else
    orPanic args[0]? fun flag =>
    orPanic args[1]? fun path =>
    if flag ≠ "--bundle" ∨ isBlank path then pure (.failed "--bundle <release-directory> is required") else next path

/-- `runLifecycle`. -/
def runLifecycle (Γ : InstallerCtx) (operationName : String) (args : List String) : InstallerProg Outcome :=
  if args.length < 1 ∨ args.length > 6 then pure (.failed s!"{operationName} requires target, --bundle, and --confirm")
  else
    orPanic args[0]? fun targetName =>
    orFail (parseTarget targetName) fun target =>
    orFail (parseLifecycleOperation operationName) fun operation =>
    orPanic (goSlice args 1 3) fun flag =>
    bundleFlag flag fun bundlePath =>
    orPanic (goSlice args 3 args.length) fun rest =>
    orFail (rest.foldlM lifecycleArg {}) fun options =>
    if !options.confirmed then pure (.failed s!"--confirm is required for {operation.text}")
    else
      loadingBundle Γ bundlePath fun bundle =>
      let commands := lifecycleCommands operation target bundle options.revision
      if commands.length = 0 then
        pure (.failed s!"no commands generated for {operation.text} {target.text} (check bundle image)")
      else runCommands true commands

/-- `run`. -/
def run (Γ : InstallerCtx) (args : List String) : InstallerProg Outcome :=
  if args.length = 0 then
    pure (.failed "command is required: management, host, doctor, version, plan, suggest-class, or digest")
  else
    orPanic args[0]? fun command =>
    if command = "version" then printing (Γ.version ++ "\n") (pure .done)
    else if command = "suggest-class" then orPanic (goSlice args 1 args.length) (runSuggestClass Γ)
    else if command = "digest" then
      if args.length ≠ 2 then pure (.failed "digest requires an artifact path")
      else
        orPanic args[1]? fun path => do
          let artifact ← InstallerProg.digest path
          orFail ((digestPath Γ.toCtx artifact).mapError DigestError.message) fun digest =>
            printing s!"sha256:{digest}\n" (pure .done)
    else if command = "doctor" then orPanic (goSlice args 1 args.length) (runDoctor Γ)
    else if command = "plan" then
      if args.length ≠ 2 then pure (.failed "plan requires management or host")
      else
        orPanic args[1]? fun targetName =>
        orFail (parseTarget targetName) fun target => printingAll ((installPlan target).map (· ++ "\n")) (pure .done)
    else if command = "management" ∨ command = "host" then
      orPanic (goSlice args 1 args.length) (runInstallWithExecutor Γ command)
    else if command = "upgrade" ∨ command = "rollback" ∨ command = "uninstall" then
      if args.length < 2 then pure (.failed s!"{command} requires management or host")
      else orPanic (goSlice args 1 args.length) (runLifecycle Γ command)
    else pure (.failed ("unknown command " ++ goSyntax (" ".intercalate args)))

/-! ## The same program -/

@[simp] theorem goSlice_tail {α : Type} (a : α) (list : List α) :
    goSlice (a :: list) 1 (list.length + 1) = some list := by
  simp [goSlice]

/-- The doctor of the slices is the one of the source. -/
theorem runDoctor_eq (Γ : InstallerCtx) (args : List String) : runDoctor Γ args = KubeCell.runDoctor Γ args := by
  cases args with
  | nil => rfl
  | cons targetName rest => simp [runDoctor, KubeCell.runDoctor, orPanic]

/-- The words to join with are as many as the manifest has. -/
theorem hostInstallCommands_eq (bundle : ReleaseBundle) :
    hostInstallCommands bundle = some (KubeCell.hostInstallCommands bundle) := by
  unfold hostInstallCommands KubeCell.hostInstallCommands
  cases imageSetArgs bundle.controllerImage with
  | none => rfl
  | some imageArgs =>
    have hlength : (joinWords bundle).length = bundle.compatibility.ocmJoinCommand.length := List.length_map ..
    cases hwords : joinWords bundle with
    | nil => simp [← hlength, hwords]
    | cons program args => simp [← hlength, hwords]

/-- The commands of an installation are those of the source. -/
theorem installCommands_eq (target : InstallTarget) (step : String) (bundle : ReleaseBundle) :
    installCommands target step bundle = KubeCell.installCommands target step bundle := by
  cases target with
  | management => rfl
  | host =>
    simp only [installCommands, KubeCell.installCommands, hostInstallCommands_eq, Option.bind_eq_bind, Option.bind_some]
    cases KubeCell.hostInstallCommands bundle <;> simp [goSlice]

/-- So is the installation. -/
theorem runInstallWithExecutor_eq (Γ : InstallerCtx) (targetName : String) (args : List String) :
    runInstallWithExecutor Γ targetName args = KubeCell.runInstallWithExecutor Γ targetName args := by
  refine congrArg (orFail _) (funext fun options => ?_)
  iterate 6 refine ite_congr rfl (fun _ => rfl) fun _ => ?_
  refine congrArg (loadingBundle Γ _) (funext fun bundle => congrArg (orFail _) (funext fun target => ?_))
  rw [installCommands_eq]
  cases KubeCell.installCommands target options.step bundle with
  | none => rfl
  | some commands => cases commands <;> rfl

/-- So is the reading of the bundle flag. -/
theorem bundleFlag_eq (args : List String) (next : String → InstallerProg Outcome) :
    bundleFlag args next = orFail (KubeCell.bundleFlag args) next := by
  match args with
  | [] => rfl
  | [_] => rfl
  | [flag, path] =>
    by_cases hpath : flag ≠ "--bundle" ∨ isBlank path <;> simp [bundleFlag, KubeCell.bundleFlag, orPanic, orFail, hpath]
  | _ :: _ :: _ :: _ => simp [bundleFlag, KubeCell.bundleFlag, orFail]

/-- Of the slices of a lifecycle operation only the first can be out of range: it needs two
arguments after the target. -/
theorem runLifecycle_eq (Γ : InstallerCtx) (operationName : String) (args : List String) :
    runLifecycle Γ operationName args = KubeCell.runLifecycle Γ operationName args := by
  refine ite_congr rfl (fun _ => rfl) fun hlength => ?_
  obtain ⟨targetName, rest, rfl⟩ := List.exists_cons_of_length_pos (by omega : 0 < args.length)
  refine congrArg (orFail _) (funext fun target => congrArg (orFail _) (funext fun operation => ?_))
  by_cases hshort : (targetName :: rest).length < 3
  · rw [if_pos hshort, goSlice, if_neg (by omega)]
    rfl
  · have hflag : goSlice (targetName :: rest) 1 3 = some (((targetName :: rest).drop 1).take 2) := by
      rw [goSlice, if_pos (by omega), List.drop_take]
    have hrest : goSlice (targetName :: rest) 3 (targetName :: rest).length = some ((targetName :: rest).drop 3) := by
      rw [goSlice, if_pos (by omega), List.take_length]
    rw [if_neg hshort, hflag]
    simp only [orPanic, bundleFlag_eq, hrest]
    refine congrArg (orFail _) (funext fun bundlePath => congrArg (orFail _) (funext fun options => ?_))
    refine ite_congr rfl (fun _ => rfl) fun _ => congrArg (loadingBundle Γ _) (funext fun bundle => ?_)
    cases lifecycleCommands operation target bundle options.revision <;> rfl

/-- What the slices are taken of is long enough wherever `run` itself takes one. -/
theorem run_eq (Γ : InstallerCtx) (args : List String) : run Γ args = KubeCell.run Γ args := by
  cases args with
  | nil => rfl
  | cons command rest =>
    have htail : goSlice (command :: rest) 1 (command :: rest).length = some rest := goSlice_tail command rest
    have hdoctor : runDoctor Γ = KubeCell.runDoctor Γ := funext (runDoctor_eq Γ)
    have hinstall : runInstallWithExecutor Γ = KubeCell.runInstallWithExecutor Γ :=
      funext₂ (runInstallWithExecutor_eq Γ)
    have hlifecycle : runLifecycle Γ = KubeCell.runLifecycle Γ := funext₂ (runLifecycle_eq Γ)
    rw [run, if_neg (by simp), htail, hdoctor, hinstall, hlifecycle]
    refine ite_congr rfl (fun _ => rfl) fun _ => ite_congr rfl (fun _ => rfl) fun _ => ite_congr rfl
      (fun _ => ?_) fun _ =>
      ite_congr rfl (fun _ => rfl) fun _ => ite_congr rfl (fun _ => ?_) fun _ => ite_congr rfl (fun _ => rfl) fun _ =>
      ite_congr rfl (fun _ => ?_) fun _ => rfl
    · match rest with
      | [] => rfl
      | [path] => rfl
      | _ :: _ :: _ => simp
    · match rest with
      | [] => rfl
      | [targetName] => rfl
      | _ :: _ :: _ => simp
    · cases rest <;> rfl

end Sliced

end KubeCell
