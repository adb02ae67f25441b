import KubeCell.Commands
import KubeCell.Lib.Flags
import KubeCell.Lib.Prog

/-!
# The command line of the installer

`run` of the installer and the functions it dispatches to, as programs of calls: printing, reading files, and running
commands. Every call may fail. A slice that is out of range ends the program with a panic.
-/

namespace KubeCell

/-- The calls of the installer. `files` stands for all that one load of a bundle reads; `run` is a command the
executor runs, and `output` a command whose output is read without the executor. -/
inductive InstallerCall where
  | files
  | print (text : String)
  | run (command : Command)
  | output (command : Command)
  | readFile (path : String)
  | digest (path : String)

/-- What a call is answered with. -/
def InstallerCall.Answer : InstallerCall → Type
  | .files => FileSystem
  | .print _ => Except String Unit
  | .run _ => Except String Unit
  | .output _ => Except String (List UInt8)
  | .readFile _ => Except String (List UInt8)
  | .digest _ => Artifact

/-- How the installer ends. -/
inductive Outcome where
  | done
  | failed (message : String)
  | panicked
  deriving DecidableEq, Repr

/-- A part of the installer that ends with a value. -/
abbrev InstallerProg (α : Type) : Type := Prog InstallerCall InstallerCall.Answer α

namespace InstallerProg

/-- The calls, as programs. -/
def files : InstallerProg FileSystem := Prog.perform InstallerCall.files
@[inherit_doc files] def print (text : String) : InstallerProg (Except String Unit) :=
  Prog.perform (InstallerCall.print text)
@[inherit_doc files] def run (command : Command) : InstallerProg (Except String Unit) :=
  Prog.perform (InstallerCall.run command)
@[inherit_doc files] def output (command : Command) : InstallerProg (Except String (List UInt8)) :=
  Prog.perform (InstallerCall.output command)
@[inherit_doc files] def readFile (path : String) : InstallerProg (Except String (List UInt8)) :=
  Prog.perform (InstallerCall.readFile path)
@[inherit_doc files] def digest (path : String) : InstallerProg Artifact := Prog.perform (InstallerCall.digest path)

end InstallerProg

/-- The program ends with an error, or goes on. -/
def orFail {α : Type} (result : Except String α) (next : α → InstallerProg Outcome) : InstallerProg Outcome :=
  match result with
  | .error e => pure (.failed e)
  | .ok a => next a

/-- A text is printed before the program goes on. -/
def printing (text : String) (next : InstallerProg Outcome) : InstallerProg Outcome := do
  let printed ← InstallerProg.print text
  orFail printed fun _ => next

/-- The texts are printed one after the other before the program goes on. -/
def printingAll (texts : List String) (next : InstallerProg Outcome) : InstallerProg Outcome :=
  texts.foldr printing next

/-- The loop over commands: each is printed and, unless the run is dry, run; the first failure ends it. -/
def runAll {α : Type} (line : α → String) (command : α → Command) (failure : α → String → String) (execute : Bool) :
    List α → InstallerProg Outcome
  | [] => pure .done
  | item :: rest =>
    printing (line item)
      (if execute then do
        let ran ← InstallerProg.run (command item)
        match ran with
        | .error e => pure (.failed (failure item e))
        | .ok () => runAll line command failure execute rest
      else runAll line command failure execute rest)

/-- A command as it is printed. -/
def Command.text (command : Command) : String := command.program ++ " " ++ " ".intercalate command.args

/-- The loop of an installation and of a lifecycle operation. -/
def runCommands (execute : Bool) (commands : List Command) : InstallerProg Outcome :=
  runAll (fun command => s!"$ {command.text}\n") id (fun command e => s!"run {command.program}: {e}") execute commands

/-- `LoadReleaseBundle`, on the files it finds. -/
def loadingBundle (Γ : InstallerCtx) (root : String) (next : ReleaseBundle → InstallerProg Outcome) :
    InstallerProg Outcome := do
  let fs ← InstallerProg.files
  orFail (loadReleaseBundle Γ fs root) next

/-! ## Doctor -/

/-- The flags of the doctor. -/
structure DoctorOptions where
  bundle : String := ""
  dryRun : Bool := false
  devices : List String := []
  deriving DecidableEq, Repr

@[inherit_doc DoctorOptions]
def doctorFlags : List (Flag DoctorOptions) :=
  [ ⟨"bundle", .value fun v o => { o with bundle := v }⟩,
    ⟨"dry-run", .bool fun b o => { o with dryRun := b }⟩,
    ⟨"device", .value fun v o => { o with devices := o.devices ++ [v] }⟩ ]

/-- The loop over the checks. -/
def runChecks (execute : Bool) (checks : List DoctorCheck) : InstallerProg Outcome :=
  runAll (fun check => s!"[{check.id}] $ {check.command.text}\n") DoctorCheck.command
    (fun check e => s!"doctor check {check.id} ({check.command.program}): {e}") execute checks

/-- `runDoctor`. -/
def runDoctor (Γ : InstallerCtx) (args : List String) : InstallerProg Outcome :=
  match args with
  | [] =>
    pure (.failed "doctor requires management or host, --bundle, optional --dry-run, and repeatable --device for host")
  | targetName :: args =>
    orFail (parseTarget targetName) fun target =>
    orFail (parseFlags doctorFlags args {}) fun options =>
    if isBlank options.bundle then pure (.failed "doctor requires --bundle <release-directory>")
    else
      loadingBundle Γ options.bundle fun bundle =>
      printingAll ((bundleCheckReport bundle).map (· ++ "\n"))
        (printingAll
          (if target = .host ∧ options.devices = [] then
            ["H3 devices: skipped (pass --device KEY to enforce per-node device capacity)\n"]
          else [])
          (runChecks (!options.dryRun) (doctorCommandsWithDevices target bundle options.devices)))

/-! ## Installing -/

/-- The flags of an installation. -/
structure InstallOptions where
  bundle : String := ""
  apply : Bool := false
  confirm : Bool := false
  step : String := "all"
  dryRun : Bool := false
  cell : String := ""
  profile : String := ""
  nodesFile : String := ""
  kubeconfig : String := ""
  devices : List String := []
  deriving DecidableEq, Repr

@[inherit_doc InstallOptions]
def installFlags : List (Flag InstallOptions) :=
  [ ⟨"bundle", .value fun v o => { o with bundle := v }⟩,
    ⟨"apply", .bool fun b o => { o with apply := b }⟩,
    ⟨"confirm", .bool fun b o => { o with confirm := b }⟩,
    ⟨"step", .value fun v o => { o with step := v }⟩,
    ⟨"dry-run", .bool fun b o => { o with dryRun := b }⟩,
    ⟨"cell", .value fun v o => { o with cell := v }⟩,
    ⟨"profile", .value fun v o => { o with profile := v }⟩,
    ⟨"nodes-file", .value fun v o => { o with nodesFile := v }⟩,
    ⟨"kubeconfig", .value fun v o => { o with kubeconfig := v }⟩,
    ⟨"device", .value fun v o => { o with devices := o.devices ++ [v] }⟩ ]

/-- One `--device`, as a contract: the text before the first equals sign, and the text after it. -/
def parseDeviceFlag (value : String) : Except String DeviceContract :=
  let name := value.toList.takeWhile (· ≠ '=')
  let resource := (value.toList.dropWhile (· ≠ '=')).tail
  if ¬value.toList.contains '=' ∨ trimSpace name = [] ∨ trimSpace resource = [] then
    .error s!"invalid --device {goSyntax value}, want name=resourceName"
  else .ok { name := String.ofList (trimSpace name), resourceName := String.ofList (trimSpace resource) }

/-- `parseDeviceFlags`. -/
def parseDeviceFlags (values : List String) : Except String (List DeviceContract) := values.mapM parseDeviceFlag

/-- `readNodesJSON`. -/
def readNodesJSON (nodesFile kubeconfig : String) : InstallerProg (Except String (List UInt8)) := do
  if isBlank nodesFile then
    let selected := if isBlank kubeconfig then [] else ["--kubeconfig", kubeconfig]
    let data ← InstallerProg.output { program := "kubectl", args := selected ++ ["get", "nodes", "-o", "json"] }
    return data.mapError fun e =>
      s!"discover host nodes: {e} (hint: use --nodes-file or point the kubeconfig context at the host)"
  else
    let data ← InstallerProg.readFile nodesFile
    return data.mapError fun e => s!"read nodes file: {e}"

/-- The rendered Cell, with what the operator is told about it. -/
def printCell (Γ : InstallerCtx) (options : InstallOptions) (profile : String) (devices : List DeviceContract) :
    InstallerProg Outcome :=
  orFail (renderCellYAML Γ { name := options.cell, profileName := profile, devices }) fun rendered =>
  printing (rendered ++ "# Cell name must equal the approved ManagedCluster name.\n# Review and apply with: kubectl apply -f <this file>\n")
    (pure .done)

/-- `runCellStep`. -/
def runCellStep (Γ : InstallerCtx) (options : InstallOptions) : InstallerProg Outcome :=
  if isBlank options.cell then
    pure (.failed "--step=cell requires --cell <name> equal to the approved ManagedCluster name")
  else if options.apply then pure (.failed "--step=cell only renders YAML; apply it with kubectl after review")
  else
    let profile := String.ofList (trimSpace options.profile.toList)
    orFail (parseDeviceFlags options.devices) fun overrides =>
    if profile = "" ∨ overrides = [] then do
      let nodesJSON ← readNodesJSON options.nodesFile options.kubeconfig
      orFail nodesJSON fun nodesJSON =>
      orFail (discoverCellDraft Γ nodesJSON) fun discovered =>
      printCell Γ options (if profile = "" then discovered.1 else profile)
        (if overrides = [] then discovered.2 else overrides)
    else printCell Γ options profile overrides

/-- The commands of a target, at a step; none when a slice is out of range. -/
def installCommands (target : InstallTarget) (step : String) (bundle : ReleaseBundle) : Option (List Command) :=
  match target with
  | .management =>
    some (managementInstallCommands bundle.ocmBundlePath bundle.managementChart bundle.kubecellCRDPath
      bundle.controllerImage)
  | .host =>
    let commands := hostInstallCommands bundle
    if step = "join" then (if commands.length < 1 then none else some (commands.take 1))
    else if step = "chart" then (if commands.length < 1 then none else some (commands.drop 1))
    else some commands

/-- `runInstallWithExecutor`. -/
def runInstallWithExecutor (Γ : InstallerCtx) (targetName : String) (args : List String) : InstallerProg Outcome :=
  orFail (parseFlags installFlags args {}) fun options =>
  if targetName = "host" ∧ options.step = "cell" then runCellStep Γ options
  else if options.bundle = "" then pure (.failed s!"{targetName} requires --bundle <release-directory>")
  else if options.apply ∧ ¬options.confirm then pure (.failed "--apply requires --confirm")
  else if options.apply ∧ options.dryRun then pure (.failed "--apply cannot be combined with --dry-run")
  else if targetName = "host" ∧ options.apply ∧ options.step = "all" then
    pure (.failed "host apply requires --step=join or --step=chart; approve the ManagedCluster between steps")
  else if targetName = "host" ∧ options.step ≠ "all" ∧ options.step ≠ "join" ∧ options.step ≠ "chart" then
    pure (.failed s!"unsupported Host installation step {goSyntax options.step}")
  else
    loadingBundle Γ options.bundle fun bundle =>
    orFail (parseTarget targetName) fun target =>
    match installCommands target options.step bundle with
    | none => pure .panicked
    | some [] => pure (.failed s!"no commands generated for {targetName} (check bundle image and join command)")
    | some commands => runCommands (options.apply && !options.dryRun) commands

/-! ## Lifecycle operations -/

/-- `bundleFlag`. -/
def bundleFlag (args : List String) : Except String String :=
  match args with
  | [flag, path] =>
    if flag ≠ "--bundle" ∨ isBlank path then .error "--bundle <release-directory> is required" else .ok path
  | _ => .error "--bundle <release-directory> is required"

/-- `fmt.Sscanf` of one decimal number: white space but no newline before it, a sign, and digits;
what follows is not read. -/
def scanInt (value : List Char) : Option Int :=
  let rest := value.dropWhile fun c => isSpace c && c ≠ '\n'
  let negative := rest.head? = some '-'
  let digits := ((if negative ∨ rest.head? = some '+' then rest.tail else rest).takeWhile Char.isDigit)
  let magnitude : Int := digits.foldl (fun n d => 10 * n + (d.toNat - '0'.toNat : Nat)) (0 : Nat)
  let n := if negative then -magnitude else magnitude
  if digits = [] ∨ n < -9223372036854775808 ∨ 9223372036854775807 < n then none else some n

/-- What the arguments of a lifecycle operation ask for. -/
structure LifecycleOptions where
  confirmed : Bool := false
  revision : Int := 1
  deriving DecidableEq, Repr

/-- One argument after the bundle. -/
def lifecycleArg (options : LifecycleOptions) (arg : String) : Except String LifecycleOptions :=
  if arg = "--confirm" then .ok { options with confirmed := true }
  else if hasPrefix arg "--revision=" then
    match scanInt (cutPrefix arg "--revision=").toList with
    | some revision => if revision < 1 then .error "invalid --revision" else .ok { options with revision }
    | none => .error "invalid --revision"
  else .error s!"unknown flag {goSyntax arg}"

/-- `runLifecycle`. -/
def runLifecycle (Γ : InstallerCtx) (operationName : String) (args : List String) : InstallerProg Outcome :=
  if args.length < 1 ∨ args.length > 6 then pure (.failed s!"{operationName} requires target, --bundle, and --confirm")
  else
    orFail (parseTarget (args.headD "")) fun target =>
    orFail (parseLifecycleOperation operationName) fun operation =>
    if args.length < 3 then pure .panicked
    else
      orFail (bundleFlag ((args.drop 1).take 2)) fun bundlePath =>
      orFail ((args.drop 3).foldlM lifecycleArg {}) fun options =>
      if !options.confirmed then pure (.failed s!"--confirm is required for {operation.text}")
      else
        loadingBundle Γ bundlePath fun bundle =>
        match lifecycleCommands operation target bundle options.revision with
        | [] => pure (.failed s!"no commands generated for {operation.text} {target.text} (check bundle image)")
        | commands => runCommands true commands

/-! ## Dispatch -/

/-- The flags of a suggestion. -/
structure SuggestOptions where
  cellFile : String := ""
  name : String := ""

@[inherit_doc SuggestOptions]
def suggestFlags : List (Flag SuggestOptions) :=
  [ ⟨"cell-file", .value fun v o => { o with cellFile := v }⟩, ⟨"name", .value fun v o => { o with name := v }⟩ ]

/-- `runSuggestClass`. -/
def runSuggestClass (Γ : InstallerCtx) (args : List String) : InstallerProg Outcome :=
  orFail (parseFlags suggestFlags args {}) fun options =>
  if isBlank options.cellFile ∨ isBlank options.name then
    pure (.failed "suggest-class requires --cell-file <path> and --name <class>")
  else do
    let data ← InstallerProg.readFile options.cellFile
    orFail (data.mapError fun e => s!"read cell file: {e}") fun data =>
    orFail ((Γ.unmarshalCell data).mapError fun e => s!"parse cell file: {e}") fun cell =>
    orFail (suggestClassYAML Γ cell options.name) fun rendered =>
    printing (rendered ++ "# workloadHard mirrors observed allocatable: trim the numbers\n" ++
      "# to the tenant envelope, then fill storageClassName with the certified host class.\n") (pure .done)

/-- `run`. -/
def run (Γ : InstallerCtx) (args : List String) : InstallerProg Outcome :=
  match args with
  | [] => pure (.failed "command is required: management, host, doctor, version, plan, suggest-class, or digest")
  | command :: rest =>
    if command = "version" then printing (Γ.version ++ "\n") (pure .done)
    else if command = "suggest-class" then runSuggestClass Γ rest
    else if command = "digest" then
      match rest with
      | [path] => do
        let artifact ← InstallerProg.digest path
        orFail ((digestPath Γ.toCtx artifact).mapError DigestError.message) fun digest =>
          printing s!"sha256:{digest}\n" (pure .done)
      | _ => pure (.failed "digest requires an artifact path")
    else if command = "doctor" then runDoctor Γ rest
    else if command = "plan" then
      match rest with
      | [targetName] =>
        orFail (parseTarget targetName) fun target => printingAll ((installPlan target).map (· ++ "\n")) (pure .done)
      | _ => pure (.failed "plan requires management or host")
    else if command = "management" ∨ command = "host" then runInstallWithExecutor Γ command rest
    else if command = "upgrade" ∨ command = "rollback" ∨ command = "uninstall" then
      if rest = [] then pure (.failed s!"{command} requires management or host") else runLifecycle Γ command rest
    else pure (.failed ("unknown command " ++ goSyntax (" ".intercalate args)))

end KubeCell
