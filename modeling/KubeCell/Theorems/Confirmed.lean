import KubeCell.Installer
import KubeCell.Lib.Rounds

/-!
# The installer executes only what was confirmed

What the executor of the installer is asked to run, over every argument vector, every release directory and every
answer of the world: only after a bundle was loaded, only what the flags confirm, in the order of the commands, and
nothing after a command that failed.
-/

namespace KubeCell

/-- A call of the installer with its answer. -/
abbrev InstallerEvent : Type := (call : InstallerCall) × call.Answer

/-- The event of a call that was answered. -/
def answeredCall (call : InstallerCall) (answer : call.Answer) : InstallerEvent := ⟨call, answer⟩

/-- The command of an event of the executor, and how it ended. -/
def InstallerEvent.ran : InstallerEvent → Option (Command × Except String Unit)
  | ⟨.run command, answer⟩ => some (command, answer)
  | _ => none

/-- The commands the executor was asked to run, in order, and how each ended. -/
def executed (h : List InstallerEvent) : List (Command × Except String Unit) := h.filterMap InstallerEvent.ran

/-- The commands, each of which ended well. -/
def succeeded (commands : List Command) : List (Command × Except String Unit) :=
  commands.map fun command => (command, .ok ())

/-- After the calls of `h`, the program asks the executor to run the command. -/
def Executes (p : InstallerProg Outcome) (h : List InstallerEvent) (command : Command) : Prop :=
  ∃ next, Prog.Reaches answeredCall p h (.call (.run command) next)

/-- The bundle was loaded from a directory. -/
def LoadedFrom (Γ : InstallerCtx) (root : String) (h : List InstallerEvent) (bundle : ReleaseBundle) : Prop :=
  ∃ fs, answeredCall .files fs ∈ h ∧ loadReleaseBundle Γ fs root = .ok bundle

/-- It is the command's turn: the commands before it in the list, and no others, were run, and they ended well. -/
def InTurn (commands : List Command) (h : List InstallerEvent) (command : Command) : Prop :=
  ∃ before after, commands = before ++ command :: after ∧ executed h = succeeded before

/-- The installation of a target is to be applied with these commands. -/
structure Applies (Γ : InstallerCtx) (targetName : String) (args : List String) (h : List InstallerEvent)
    (commands : List Command) (options : InstallOptions) (bundle : ReleaseBundle)
    (target : InstallTarget) : Prop where
  parsed : parseFlags installFlags args {} = .ok options
  apply : options.apply = true ∧ ∃ arg ∈ args, turnsOn "apply" arg = true
  confirm : options.confirm = true ∧ ∃ arg ∈ args, turnsOn "confirm" arg = true
  dryRun : options.dryRun = false
  loaded : LoadedFrom Γ options.bundle h bundle
  named : parseTarget targetName = .ok target
  built : installCommands target options.step bundle = some commands
  step : targetName = "host" → ∃ join chart, hostInstallCommands bundle = [join, chart] ∧
    (options.step = "join" ∧ commands = [join] ∨ options.step = "chart" ∧ commands = [chart])

/-- A lifecycle operation is to be applied with these commands. -/
structure Confirms (Γ : InstallerCtx) (operationName : String) (args : List String) (h : List InstallerEvent)
    (commands : List Command) (bundlePath : String) (bundle : ReleaseBundle) : Prop where
  confirm : "--confirm" ∈ args
  path : bundleFlag ((args.drop 1).take 2) = .ok bundlePath
  loaded : LoadedFrom Γ bundlePath h bundle
  built : ∃ operation target revision, parseLifecycleOperation operationName = .ok operation ∧
    parseTarget (args.headD "") = .ok target ∧ commands = lifecycleCommands operation target bundle revision

/-- The doctor is to make the checks of these commands. -/
structure Examines (Γ : InstallerCtx) (args : List String) (h : List InstallerEvent) (commands : List Command)
    (options : DoctorOptions) (bundle : ReleaseBundle) : Prop where
  parsed : parseFlags doctorFlags args.tail {} = .ok options
  dryRun : options.dryRun = false
  loaded : LoadedFrom Γ options.bundle h bundle
  built : ∃ target, parseTarget (args.headD "") = .ok target ∧
    commands = (doctorCommandsWithDevices target bundle options.devices).map DoctorCheck.command

/-- What an installation is to run. -/
def Applied (Γ : InstallerCtx) (targetName : String) (args : List String) (h : List InstallerEvent)
    (commands : List Command) : Prop :=
  ∃ options bundle target, Applies Γ targetName args h commands options bundle target

/-- What a lifecycle operation is to run. -/
def Confirmed (Γ : InstallerCtx) (operationName : String) (args : List String) (h : List InstallerEvent)
    (commands : List Command) : Prop :=
  ∃ bundlePath bundle, Confirms Γ operationName args h commands bundlePath bundle

/-- What the doctor is to run. -/
def Examined (Γ : InstallerCtx) (args : List String) (h : List InstallerEvent) (commands : List Command) : Prop :=
  ∃ options bundle, Examines Γ args h commands options bundle

/-- The program asks the executor for such commands only, each in its turn, and has run all of them when it ends well;
when there are none it runs nothing. -/
def ExecutesOnly (p : InstallerProg Outcome) (K : List InstallerEvent → List Command → Prop) : Prop :=
  (∀ h command, Executes p h command → ∃ commands, K h commands ∧ InTurn commands h command) ∧
    ∀ h, p.Reaches answeredCall h (.ret .done) →
      (∃ commands, K h commands ∧ executed h = succeeded commands) ∨ (executed h = [] ∧ ∀ commands, ¬K h commands)

namespace ConfirmedAux

/-! ## Histories -/

@[simp] theorem executed_nil : executed [] = [] := rfl

@[simp] theorem executed_append (h h' : List InstallerEvent) : executed (h ++ h') = executed h ++ executed h' := by
  simp [executed]

@[simp] theorem executed_run (command : Command) (answer : (InstallerCall.run command).Answer) :
    executed [answeredCall (.run command) answer] = [(command, answer)] := rfl

@[simp] theorem executed_print (text : String) (answer : (InstallerCall.print text).Answer) :
    executed [answeredCall (.print text) answer] = [] := rfl

@[simp] theorem executed_files (fs : InstallerCall.files.Answer) : executed [answeredCall .files fs] = [] := rfl

/-- A call that is not one of the executor. -/
def Quiet : InstallerCall → Prop
  | .run _ => False
  | _ => True

/-- A quiet call executes nothing. -/
theorem executed_quiet {call : InstallerCall} (hquiet : Quiet call) (answer : call.Answer) :
    executed [answeredCall call answer] = [] := by
  cases call with
  | run command => exact hquiet.elim
  | _ => rfl

theorem succeeded_append (before : List Command) (command : Command) :
    succeeded (before ++ [command]) = succeeded before ++ [(command, .ok ())] := by
  simp [succeeded]

/-- What a history says of the commands to run stays as the history grows. -/
def Stays (K : List InstallerEvent → List Command → Prop) : Prop := ∀ h e commands, K h commands → K (h ++ [e]) commands

/-- A bundle that was loaded stays so. -/
theorem LoadedFrom.snoc {Γ : InstallerCtx} {root : String} {h : List InstallerEvent} {bundle : ReleaseBundle}
    (hl : LoadedFrom Γ root h bundle) (e : InstallerEvent) : LoadedFrom Γ root (h ++ [e]) bundle := by
  obtain ⟨fs, hmem, hload⟩ := hl
  exact ⟨fs, List.mem_append_left _ hmem, hload⟩

/-! ## Walking through a program -/

/-- A command is run in its turn. -/
def Permits (K : List InstallerEvent → List Command → Prop) (h : List InstallerEvent) : InstallerCall → Prop
  | .run command => ∃ commands, K h commands ∧ InTurn commands h command
  | _ => True

/-- A program that ends well has run all the commands, or there were none to run. -/
def Completes (K : List InstallerEvent → List Command → Prop) (h : List InstallerEvent) : Outcome → Prop
  | .done =>
    (∃ commands, K h commands ∧ executed h = succeeded commands) ∨ (executed h = [] ∧ ∀ commands, ¬K h commands)
  | _ => True

/-- The program runs its commands in turn. -/
abbrev Runs (K : List InstallerEvent → List Command → Prop) (p : InstallerProg Outcome)
    (h : List InstallerEvent) : Prop :=
  Prog.Guarded answeredCall (Permits K) (Completes K) p h

variable {K : List InstallerEvent → List Command → Prop} {h : List InstallerEvent}

/-- Nothing is asked of a quiet call. -/
theorem permits_of_quiet {call : InstallerCall} (hquiet : Quiet call) : Permits K h call := by
  cases call with
  | run command => exact hquiet.elim
  | _ => trivial

/-- A run that has failed executes nothing more. -/
theorem runs_failed (message : String) : Runs K (pure (.failed message)) h := trivial

/-- A guard that is met ends the program with an error. -/
theorem runs_unless {p : Prop} [Decidable p] {message : String} {next : InstallerProg Outcome}
    (hnext : ¬p → Runs K next h) :
    Runs K (if p then pure (.failed message) else next) h := by
  by_cases hp : p
  · rw [if_pos hp]
    exact runs_failed message
  · rw [if_neg hp]
    exact hnext hp

/-- A step that fails ends the program. -/
theorem runs_orFail {α : Type} {result : Except String α} {next : α → InstallerProg Outcome}
    (hnext : ∀ a, result = .ok a → Runs K (next a) h) : Runs K (orFail result next) h := by
  cases result with
  | error e => exact runs_failed e
  | ok a => exact hnext a rfl

/-- Printing runs nothing. -/
theorem runs_printing {text : String} {next : InstallerProg Outcome}
    (hnext : ∀ printed, Runs K next (h ++ [answeredCall (.print text) printed])) :
    Runs K (printing text next) h := by
  refine ⟨trivial, fun printed => ?_⟩
  exact runs_orFail fun _ _ => hnext printed

/-- The loop: with the commands before the rest run, and nothing else, the rest is run in turn. -/
theorem runs_runAll {α : Type} {line : α → String} {command : α → Command} {failure : α → String → String}
    (hK : Stays K) {commands before : List Command} {items : List α} (hk : K h commands)
    (hcommands : commands = before ++ items.map command) (hexec : executed h = succeeded before) :
    Runs K (runAll line command failure true items) h := by
  induction items generalizing before h with
  | nil =>
    refine Or.inl ⟨commands, hk, ?_⟩
    simpa [hcommands] using hexec
  | cons item rest ih =>
    refine runs_printing fun printed => ?_
    have hprinted : executed (h ++ [answeredCall (.print (line item)) printed]) = succeeded before := by
      rw [executed_append, executed_print, List.append_nil, hexec]
    refine ⟨⟨commands, hK _ _ _ hk, before, rest.map command, by simpa using hcommands, hprinted⟩, fun ran => ?_⟩
    cases ran with
    | error e => exact runs_failed _
    | ok _ =>
      refine ih (hK _ _ _ (hK _ _ _ hk)) (?_ : commands = (before ++ [command item]) ++ rest.map command) ?_
      · simpa using hcommands
      · rw [executed_append, hprinted, succeeded_append]
        rfl

/-- The loop of a dry run. -/
theorem runs_dry {α : Type} {line : α → String} {command : α → Command} {failure : α → String → String}
    {items : List α} (hno : ∀ h commands, ¬K h commands) (hexec : executed h = []) :
    Runs K (runAll line command failure false items) h := by
  induction items generalizing h with
  | nil => exact Or.inr ⟨hexec, hno h⟩
  | cons item rest ih =>
    refine runs_printing fun printed => ih ?_
    rw [executed_append, executed_print, List.append_nil, hexec]

/-- Loading a bundle runs nothing; what comes after it may rely on the bundle. -/
theorem runs_loadingBundle {Γ : InstallerCtx} {root : String} {next : ReleaseBundle → InstallerProg Outcome}
    (hexec : executed h = [])
    (hnext : ∀ h' bundle, LoadedFrom Γ root h' bundle → executed h' = [] → Runs K (next bundle) h') :
    Runs K (loadingBundle Γ root next) h := by
  refine ⟨trivial, fun fs => runs_orFail fun bundle hload => ?_⟩
  refine hnext _ bundle ⟨fs, List.mem_append_right _ List.mem_cons_self, hload⟩ ?_
  rw [executed_append, executed_files, hexec, List.append_nil]

/-- Printing some texts runs nothing and keeps what was loaded. -/
theorem runs_printingAll {Γ : InstallerCtx} {root : String} {bundle : ReleaseBundle} {next : InstallerProg Outcome}
    (hnext : ∀ h', LoadedFrom Γ root h' bundle → executed h' = [] → Runs K next h') (texts : List String)
    (hload : LoadedFrom Γ root h bundle) (hexec : executed h = []) : Runs K (printingAll texts next) h := by
  induction texts generalizing h with
  | nil => exact hnext h hload hexec
  | cons text rest ih =>
    refine runs_printing fun printed => ih (LoadedFrom.snoc hload _) ?_
    rw [executed_append, executed_print, hexec, List.append_nil]

/-- A program without calls of the executor runs nothing. -/
theorem runs_of_quiet {p : InstallerProg Outcome} (hp : p.Neutral Quiet) (hno : ∀ h commands, ¬K h commands)
    (hexec : executed h = []) :
    Runs K p h := by
  refine Prog.Neutral.guarded (J := fun h => executed h = [])
    (fun h call _ (hquiet : Quiet call) => permits_of_quiet hquiet) ?_ hp hexec ?_
  · intro h call answer hexec hquiet
    rw [executed_append, executed_quiet hquiet, hexec, List.append_nil]
  · intro h outcome hexec
    cases outcome with
    | done => exact Or.inr ⟨hexec, hno h⟩
    | _ => trivial

/-- A step that may fail is quiet if what comes after it is. -/
theorem quiet_orFail {α : Type} {result : Except String α} {next : α → InstallerProg Outcome}
    (hnext : ∀ a, (next a).Neutral Quiet) :
    (orFail result next).Neutral Quiet := by
  cases result with
  | error e => trivial
  | ok a => exact hnext a

/-- Printing is quiet. -/
theorem quiet_printing {text : String} {next : InstallerProg Outcome} (hnext : next.Neutral Quiet) :
    (printing text next).Neutral Quiet :=
  ⟨trivial, fun _ => quiet_orFail fun _ => hnext⟩

/-- So is reading the nodes. -/
theorem quiet_readNodesJSON (nodesFile kubeconfig : String) : (readNodesJSON nodesFile kubeconfig).Neutral Quiet := by
  unfold readNodesJSON
  by_cases hblank : isBlank nodesFile = true
  · rw [if_pos hblank]
    exact ⟨trivial, fun _ => trivial⟩
  · rw [if_neg hblank]
    exact ⟨trivial, fun _ => trivial⟩

theorem quiet_printCell (Γ : InstallerCtx) (options : InstallOptions) (profile : String)
    (devices : List DeviceContract) :
    (printCell Γ options profile devices).Neutral Quiet :=
  quiet_orFail fun _ => quiet_printing trivial

/-- The step that renders a Cell leaves the executor alone. -/
theorem quiet_runCellStep (Γ : InstallerCtx) (options : InstallOptions) : (runCellStep Γ options).Neutral Quiet := by
  unfold runCellStep
  split_ifs
  · trivial
  · trivial
  · refine quiet_orFail fun overrides => ?_
    split
    · refine (quiet_readNodesJSON _ _).bind fun nodesJSON => ?_
      exact quiet_orFail fun _ => quiet_orFail fun _ => quiet_printCell ..
    · exact quiet_printCell ..

/-- Printing several lines is quiet. -/
theorem quiet_printingAll (texts : List String) : (printingAll texts (pure .done)).Neutral Quiet := by
  induction texts with
  | nil => trivial
  | cons text rest ih => exact quiet_printing ih

/-- The class that is suggested is only printed. -/
theorem quiet_runSuggestClass (Γ : InstallerCtx) (args : List String) : (runSuggestClass Γ args).Neutral Quiet := by
  refine quiet_orFail fun options => ?_
  split
  · trivial
  · exact ⟨trivial, fun _ => quiet_orFail fun _ => quiet_orFail fun _ => quiet_orFail fun _ => quiet_printing trivial⟩

/-- A program that asks the executor for a command has such a call. -/
theorem not_quiet_of_executes {p : InstallerProg Outcome} {command : Command}
    (hx : Executes p h command) : ¬p.Neutral Quiet := by
  intro hp
  obtain ⟨next, hreaches⟩ := hx
  have hguarded : Prog.Guarded answeredCall (fun _ call => Quiet call) (fun _ _ => True) p [] :=
    Prog.Neutral.guarded (J := fun _ => True) (fun _ _ _ hquiet => hquiet)
      (fun _ _ _ _ _ => trivial) hp trivial fun _ _ _ => trivial
  exact (hguarded.reaches hreaches).1

/-! ## Flags -/

/-- No other flag says that commands are applied. -/
theorem only_apply : ∀ flag ∈ installFlags, OnlyBy "apply" InstallOptions.apply flag := by
  simp [installFlags, OnlyBy]

theorem only_confirm : ∀ flag ∈ installFlags, OnlyBy "confirm" InstallOptions.confirm flag := by
  simp [installFlags, OnlyBy]

/-- A lifecycle operation is confirmed by an argument. -/
theorem confirm_mem {args : List String} {options result : LifecycleOptions}
    (h : args.foldlM lifecycleArg options = .ok result) (hconfirmed : result.confirmed = true) :
    options.confirmed = true ∨ "--confirm" ∈ args := by
  induction args generalizing options with
  | nil =>
    cases h
    exact Or.inl hconfirmed
  | cons arg rest ih =>
    rw [List.foldlM_cons] at h
    obtain ⟨options', harg, hrest⟩ := Checks.bind_eq_ok.mp h
    rcases ih hrest with hbefore | hmem
    · by_cases hconfirm : arg = "--confirm"
      · exact Or.inr (hconfirm ▸ List.mem_cons_self)
      · left
        rw [lifecycleArg, if_neg hconfirm] at harg
        split_ifs at harg
        split at harg
        · split_ifs at harg
          cases harg
          exact hbefore
        · nomatch harg
    · exact Or.inr (List.mem_cons_of_mem _ hmem)

/-! ## The three functions -/

/-- An installation that was applied and confirmed stays so. -/
theorem stays_applied (Γ : InstallerCtx) (targetName : String) (args : List String) :
    Stays (Applied Γ targetName args) := by
  rintro h e commands ⟨options, bundle, target, happlies⟩
  exact ⟨options, bundle, target, { happlies with loaded := LoadedFrom.snoc happlies.loaded e }⟩

/-- So does an operation that was confirmed. -/
theorem stays_confirmed (Γ : InstallerCtx) (operationName : String) (args : List String) :
    Stays (Confirmed Γ operationName args) := by
  rintro h e commands ⟨bundlePath, bundle, hconfirms⟩
  exact ⟨bundlePath, bundle, { hconfirms with loaded := LoadedFrom.snoc hconfirms.loaded e }⟩

/-- So do the checks of the doctor. -/
theorem stays_examined (Γ : InstallerCtx) (args : List String) : Stays (Examined Γ args) := by
  rintro h e commands ⟨options, bundle, hexamines⟩
  exact ⟨options, bundle, { hexamines with loaded := LoadedFrom.snoc hexamines.loaded e }⟩

/-- The commands of a host step: the one to join with, or the one of the chart. -/
theorem installCommands_host {Γ : InstallerCtx} {root step : String} {bundle : ReleaseBundle} {commands : List Command}
    (hload : LoadedFrom Γ root h bundle) (hstep : step = "join" ∨ step = "chart")
    (hcommands : installCommands .host step bundle = some commands) :
    ∃ join chart, hostInstallCommands bundle = [join, chart] ∧
      (step = "join" ∧ commands = [join] ∨ step = "chart" ∧ commands = [chart]) := by
  obtain ⟨fs, -, hload⟩ := hload
  obtain ⟨join, chart, hhost⟩ := hostInstallCommands_of_loaded hload
  refine ⟨join, chart, hhost, ?_⟩
  rcases hstep with rfl | rfl
  · simp [installCommands, hhost] at hcommands
    exact Or.inl ⟨rfl, hcommands.symm⟩
  · simp [installCommands, hhost] at hcommands
    exact Or.inr ⟨rfl, hcommands.symm⟩

/-- Nothing is applied in a dry run, nor at the step that renders a Cell. -/
theorem not_applied {Γ : InstallerCtx} {targetName : String} {args : List String} {options : InstallOptions}
    (hparsed : parseFlags installFlags args {} = .ok options)
    (hgap : (options.apply && !options.dryRun) = false ∨ targetName = "host" ∧ options.step = "cell")
      (h : List InstallerEvent)
    (commands : List Command) : ¬Applied Γ targetName args h commands := by
  rintro ⟨options', bundle, target, happlies⟩
  obtain rfl : options = options' := Except.ok.inj (hparsed.symm.trans happlies.parsed)
  rcases hgap with hdry | ⟨hhost, hcell⟩
  · rw [happlies.apply.1, happlies.dryRun] at hdry
    exact nomatch hdry
  · obtain ⟨join, chart, -, hstep⟩ := happlies.step hhost
    rcases hstep with ⟨hjoin, -⟩ | ⟨hchart, -⟩
    · exact absurd (hcell.symm.trans hjoin) (by decide)
    · exact absurd (hcell.symm.trans hchart) (by decide)

/-- An installation runs what is applied and confirmed. -/
theorem runs_runInstallWithExecutor (Γ : InstallerCtx) (targetName : String) (args : List String) :
    Runs (Applied Γ targetName args) (runInstallWithExecutor Γ targetName args) [] := by
  refine runs_orFail fun options hparsed => ?_
  by_cases hcell : targetName = "host" ∧ options.step = "cell"
  · rw [if_pos hcell]
    exact runs_of_quiet (quiet_runCellStep Γ options) (not_applied hparsed (Or.inr hcell)) rfl
  rw [if_neg hcell]
  refine runs_unless fun hblank => runs_unless fun hconfirm => runs_unless fun hdry => runs_unless fun hall =>
    runs_unless fun hstep => ?_
  refine runs_loadingBundle rfl fun h bundle hload hexec => runs_orFail fun target htarget => ?_
  cases hbuilt : installCommands target options.step bundle with
  | none => trivial
  | some commands =>
    cases commands with
    | nil => exact runs_failed _
    | cons first rest =>
      cases hexecute : options.apply && !options.dryRun with
      | false => exact runs_dry (not_applied hparsed (Or.inl hexecute)) hexec
      | true =>
        obtain ⟨happly, hlive⟩ : options.apply = true ∧ options.dryRun = false := by simpa using hexecute
        refine runs_runAll (stays_applied Γ targetName args) ⟨options, bundle, target, ?_⟩
          (by simp : first :: rest = [] ++ (first :: rest).map id) hexec
        have hconfirmed : options.confirm = true := by
          by_contra hunconfirmed
          exact hconfirm ⟨happly, hunconfirmed⟩
        refine { parsed := hparsed, apply := ⟨happly, ?_⟩, confirm := ⟨hconfirmed, ?_⟩, dryRun := hlive, loaded := hload, named := htarget,
                 built := hbuilt, step := fun hhost => ?_ }
        · exact (turnsOn_of_parseFlags only_apply hparsed happly).resolve_left nofun
        · exact (turnsOn_of_parseFlags only_confirm hparsed hconfirmed).resolve_left nofun
        · subst hhost
          obtain rfl : InstallTarget.host = target := Except.ok.inj htarget
          refine installCommands_host hload ?_ hbuilt
          by_contra hother
          push Not at hother
          exact hstep ⟨rfl, fun hstep => hall ⟨rfl, happly, hstep⟩, hother.1, hother.2⟩

/-- A lifecycle operation runs what is confirmed. -/
theorem runs_runLifecycle (Γ : InstallerCtx) (operationName : String) (args : List String) :
    Runs (Confirmed Γ operationName args) (runLifecycle Γ operationName args) [] := by
  refine runs_unless fun hlength => runs_orFail fun target htarget => runs_orFail fun operation hoperation => ?_
  by_cases hshort : args.length < 3
  · rw [if_pos hshort]
    trivial
  rw [if_neg hshort]
  refine runs_orFail fun bundlePath hpath => runs_orFail fun options hoptions => runs_unless fun hunconfirmed => ?_
  refine runs_loadingBundle rfl fun h bundle hload hexec => ?_
  have hconfirm : "--confirm" ∈ args := by
    rcases confirm_mem hoptions (by simpa using hunconfirmed) with habsurd | hmem
    · exact nomatch habsurd
    · exact List.mem_of_mem_drop hmem
  cases hbuilt : lifecycleCommands operation target bundle options.revision with
  | nil => exact runs_failed _
  | cons first rest =>
    refine runs_runAll (stays_confirmed Γ operationName args) ⟨bundlePath, bundle, hconfirm, hpath, hload, ?_⟩
      (by simp : first :: rest = [] ++ (first :: rest).map id) hexec
    exact ⟨operation, target, options.revision, hoperation, htarget, hbuilt.symm⟩

/-- The doctor runs its checks unless the run is dry. -/
theorem runs_runDoctor (Γ : InstallerCtx) (args : List String) : Runs (Examined Γ args) (runDoctor Γ args) [] := by
  cases args with
  | nil => exact runs_failed _
  | cons targetName args =>
    refine runs_orFail fun target htarget => runs_orFail fun options hparsed => runs_unless fun hblank => ?_
    refine runs_loadingBundle rfl fun h bundle hload hexec => ?_
    refine runs_printingAll (fun h hload hexec => runs_printingAll
      (fun h hload hexec => ?_) _ hload hexec) _ hload hexec
    cases hdry : options.dryRun with
    | true =>
      refine runs_dry ?_ hexec
      rintro h commands ⟨options', bundle, hexamines⟩
      obtain rfl : options = options' := Except.ok.inj (hparsed.symm.trans hexamines.parsed)
      exact absurd (hdry.symm.trans hexamines.dryRun) (by decide)
    | false =>
      exact runs_runAll (stays_examined Γ (targetName :: args))
        ⟨options, bundle, hparsed, hdry, hload, target, htarget, rfl⟩
        (List.nil_append _).symm hexec

/-- What a walk through a program says of its runs. -/
theorem Runs.executesOnly {p : InstallerProg Outcome} (hp : Runs K p []) : ExecutesOnly p K := by
  constructor
  · rintro h command ⟨next, hreaches⟩
    exact (hp.reaches hreaches).1
  · intro h hreaches
    exact hp.reaches hreaches

end ConfirmedAux

open ConfirmedAux

/-- The installer executes only what was confirmed: an installation what is applied and confirmed and, for a host, the
one command of its step; a lifecycle operation what is confirmed; the doctor its checks, unless the run is dry. Each
of them runs its commands after a bundle was loaded, in their order, and none after one that failed. -/
theorem executes_only_confirmed (Γ : InstallerCtx) :
    (∀ targetName args, ExecutesOnly (runInstallWithExecutor Γ targetName args) (Applied Γ targetName args)) ∧
      (∀ operationName args, ExecutesOnly (runLifecycle Γ operationName args) (Confirmed Γ operationName args)) ∧
      ∀ args, ExecutesOnly (runDoctor Γ args) (Examined Γ args) := by
  refine ⟨fun targetName args => ?_, fun operationName args => ?_, fun args => ?_⟩
  · exact Runs.executesOnly (runs_runInstallWithExecutor Γ targetName args)
  · exact Runs.executesOnly (runs_runLifecycle Γ operationName args)
  · exact Runs.executesOnly (runs_runDoctor Γ args)

/-- The command line asks the executor for nothing besides: it dispatches by the exact name of a
target or an operation. -/
theorem executes_of_run {Γ : InstallerCtx} {args : List String} {h : List InstallerEvent} {command : Command}
    (hx : Executes (run Γ args) h command) :
    ∃ name rest, args = name :: rest ∧
      ((name = "management" ∨ name = "host") ∧ Executes (runInstallWithExecutor Γ name rest) h command ∨
        name = "doctor" ∧ Executes (runDoctor Γ rest) h command ∨
        (name = "upgrade" ∨ name = "rollback" ∨ name = "uninstall") ∧
          Executes (runLifecycle Γ name rest) h command) := by
  cases args with
  | nil => exact (not_quiet_of_executes hx trivial).elim
  | cons name rest =>
    refine ⟨name, rest, rfl, ?_⟩
    simp only [run] at hx
    split at hx
    · exact (not_quiet_of_executes hx (quiet_printing trivial)).elim
    split at hx
    · exact (not_quiet_of_executes hx (quiet_runSuggestClass Γ rest)).elim
    split at hx
    · split at hx
      · exact (not_quiet_of_executes hx ⟨trivial, fun _ => quiet_orFail fun _ => quiet_printing trivial⟩).elim
      · exact (not_quiet_of_executes hx trivial).elim
    split at hx
    · rename_i hdoctor
      exact Or.inr (Or.inl ⟨hdoctor, hx⟩)
    split at hx
    · split at hx
      · exact (not_quiet_of_executes hx (quiet_orFail fun target => quiet_printingAll _)).elim
      · exact (not_quiet_of_executes hx trivial).elim
    split at hx
    · rename_i htarget
      exact Or.inl ⟨htarget, hx⟩
    split at hx
    · rename_i hoperation
      split at hx
      · exact (not_quiet_of_executes hx trivial).elim
      · exact Or.inr (Or.inr ⟨hoperation, hx⟩)
    · exact (not_quiet_of_executes hx trivial).elim

namespace InstallerSampleAux

/-- The digest of an empty file, as it is recorded. -/
def emptyDigest : String := "sha256:e3b0c44298fc1c149afbf4c8996fb92427ae41e4649b934ca495991b7852b855"

/-- The manifest of a release whose artifacts are empty files. -/
def sampleManifest : CompatibilityManifest :=
  { kubecellVersion := "v0.1.0"
    k3kVersion := "v1.2.0"
    childK3sVersion := "v1.34.2+k3s1"
    ocmVersion := "v1.0.0"
    ocmBundleDigest := emptyDigest
    artifactDigests := GoMap.ofList [("manifests", emptyDigest), ("chart", emptyDigest)]
    ocmJoinCommand := ["clusteradm", "join", "--bundle", "\x7b\x7bOCMJoinBundlePath\x7d\x7d"]
    ocmBundlePath := "manifests"
    ocmJoinBundlePath := "manifests"
    kubecellCRDPath := "manifests"
    managementChartPath := "chart"
    hostChartPath := "chart"
    controllerImage := "registry.example.com/kubecell@" ++ emptyDigest
    hostProfiles := ["gpu"]
    appsSuffix := "apps.example.com" }

/-- Its file. -/
def sampleManifestFile : List UInt8 :=
  ("kubecellVersion: v0.1.0\nk3kVersion: v1.2.0\nchildK3sVersion: v1.34.2+k3s1\nocmVersion: v1.0.0\nocmBundleDigest: " ++ emptyDigest ++
    "\nartifactDigests:\n  manifests: " ++ emptyDigest ++ "\n  chart: " ++ emptyDigest ++
    "\nocmJoinCommand: [clusteradm, join, --bundle, '\x7b\x7bOCMJoinBundlePath\x7d\x7d']\nocmBundlePath: manifests\n" ++
    "ocmJoinBundlePath: manifests\nkubecellCRDPath: manifests\nmanagementChartPath: chart\nhostChartPath: chart\n" ++
    "controllerImage: registry.example.com/kubecell@" ++
    emptyDigest ++ "\nhostProfiles: [gpu]\nappsSuffix: apps.example.com\n").toUTF8.data.toList

/-- The digest of no bytes. -/
def emptySha256 : List UInt8 :=
  [0xe3, 0xb0, 0xc4, 0x42, 0x98, 0xfc, 0x1c, 0x14, 0x9a, 0xfb, 0xf4, 0xc8, 0x99, 0x6f, 0xb9, 0x24, 0x27, 0xae, 0x41,
    0xe4, 0x64, 0x9b,
    0x93, 0x4c, 0xa4, 0x95, 0x99, 0x1b, 0x78, 0x52, 0xb8, 0x55]

/-- An installer that digests nothing but empty files, and reads no manifest but the sample. -/
def sampleInstaller : InstallerCtx :=
  { sha256 := fun _ => emptySha256
    urlHostname := fun _ => none
    parseQuantity := fun _ => none
    version := "dev"
    unmarshalManifest := fun _ => .ok sampleManifest
    unmarshalNodes := fun _ => .error "unknown"
    unmarshalCell := fun _ => .error "unknown"
    marshalCell := fun _ => .error "unknown"
    marshalClass := fun _ => .error "unknown" }

/-- A release directory without symlinks: the manifest, and empty files. -/
def sampleFiles : FileSystem :=
  { getwd := .ok "/root"
    readFile := fun path => if path = "/srv/release/compatibility.yaml" then .ok sampleManifestFile else .ok []
    stat := fun _ => .ok ()
    evalSymlinks := .ok
    artifact := fun _ => .file [] }

/-- The sample directory, and a terminal and commands that never fail. -/
def sampleAnswer : (call : InstallerCall) → call.Answer
  | .files => sampleFiles
  | .print _ => .ok ()
  | .run _ => .ok ()
  | .output _ => .error "unknown"
  | .readFile _ => .error "unknown"
  | .digest _ => .file []

/-- The arguments of an operator who joins a host. -/
def joinArgs : List String := ["--bundle", "/srv/release", "--step=join", "--apply", "-confirm=true"]

/-- The command the program is about to run. -/
def nextCommand : InstallerProg Outcome → Option Command
  | .call (.run command) _ => some command
  | _ => none

/-- A command that is next is executed. -/
theorem executes_of_nextCommand {p q : InstallerProg Outcome} {h : List InstallerEvent} {command : Command}
    (hreaches : p.Reaches answeredCall h q) (hnext : nextCommand q = some command) : Executes p h command := by
  unfold nextCommand at hnext
  split at hnext
  · cases hnext
    exact ⟨_, hreaches⟩
  · nomatch hnext

/-- The first calls of a program, answered from the sample. -/
def sampleRun (n : Nat) (p : InstallerProg Outcome) : List InstallerEvent × InstallerProg Outcome :=
  (Prog.drive (fun (w : Unit) call => (sampleAnswer call, w)) answeredCall n () p).2

/-- The calls of the sample run are those of the program. -/
theorem reaches_sampleRun (n : Nat) (p : InstallerProg Outcome) :
    p.Reaches answeredCall (sampleRun n p).1 (sampleRun n p).2 :=
  Prog.reaches_drive _ n () p

end InstallerSampleAux

open InstallerSampleAux

/-- An operator who joins a host has the command to join with run, and it was applied and confirmed. -/
theorem executes_only_confirmed_sample :
    ∃ h, Executes (runInstallWithExecutor sampleInstaller "host" joinArgs) h
        { program := "clusteradm", args := ["join", "--bundle", "/srv/release/manifests"] } ∧
      ∃ commands, Applied sampleInstaller "host" joinArgs h commands ∧
        InTurn commands h { program := "clusteradm", args := ["join", "--bundle", "/srv/release/manifests"] } := by
  have hnext : nextCommand (sampleRun 2 (runInstallWithExecutor sampleInstaller "host" joinArgs)).2 =
      some { program := "clusteradm", args := ["join", "--bundle", "/srv/release/manifests"] } := by decide +kernel
  have hexecutes := executes_of_nextCommand (reaches_sampleRun 2 _) hnext
  exact ⟨_, hexecutes, ((executes_only_confirmed sampleInstaller).1 "host" joinArgs).1 _ _ hexecutes⟩

end KubeCell
