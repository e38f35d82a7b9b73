-- The commands of the program, each as a run: what it does, what it shows, and how it fails. Every
-- failure says first what could not be done and then why.
import ApkForge.CommandLine.Screen
import ApkForge.Progress

namespace ApkForge.CommandLine

/-- The host of a run: its tools and variables, how many processors it has, where a private
directory can be made, and how the time that a thing took is written. -/
structure Host (ρ : Type) where
  runner : Runner ρ
  env : Environment
  cpus : Nat
  scratch : Path
  time : String

/-! ## Components -/

/-- Why the components of a run are not known. -/
inductive ComponentsFault where
  | unreadable (file : Path) (fault : FileFault)
  | notNames (file : Path)
deriving DecidableEq, Repr

/-- What a fault in the components says first, and the cause it gives. -/
def ComponentsFault.failure : ComponentsFault → Failure
  | .unreadable file fault =>
    ⟨"Failed to read components file " ++ file.text, [fault.message]⟩
  | .notNames file =>
    ⟨"Components file " ++ file.text ++ " is not a JSON array of type names", ["malformed JSON"]⟩

/-- The component types named on the line and in the file, each once. -/
def ComponentArgs.collect (args : ComponentArgs) (tree : FileTree) (start : Place) :
    Except ComponentsFault NameSet :=
  match args.file with
  | none => .ok (NameSet.ofList args.components)
  | some file =>
    match tree.readText start file with
    | .error fault => .error (.unreadable file fault)
    | .ok text =>
      match (Json.parse? text).bind Json.strings? with
      | none => .error (.notNames file)
      | some more => .ok (NameSet.ofList (args.components ++ more))

/-- The options of a build: what the line says, else the configuration, else customs. -/
def BuildArgs.options (args : BuildArgs) (projectDir : Path) (config : Config)
    (env : Environment) : BuildOptions where
  companion := args.companion
  keystore := args.keystore.getD (projectDir.join "android.keystore")
  heap := args.ram.getD config.toolHeap
  dexCache :=
    if args.noDexCache then none
    else some ((args.dexCache.or config.dex.cache).getD env.dexCacheDir)

/-- How much is logged. -/
def Settings.logDirective (s : Settings) : String :=
  match s.verbose with
  | 0 => "warn"
  | 1 => "info"
  | _ => "debug"

namespace Act

variable {ρ : Type}

/-- The component types of a run. -/
def collectTypes (args : ComponentArgs) : Act ρ (List String) := do
  let w ← workspace
  match args.collect w.tree w.start with
  | .ok types => return types.toList
  | .error fault => throw fault.failure

/-- The project in a directory. -/
def loadProject (dir : Path) : Act ρ Project := do
  let w ← workspace
  expect ("Failed to load project at " ++ dir.text) ProjectError.message
    (Project.load w.tree w.start dir)

/-! ## Building -/

/-- The end of a build, as JSON. -/
def buildJson (project : Project) (verdict : Build.Verdict) (out : String) (progress : Nat) :
    Json :=
  let apk := (BuildLayout.mk project.buildDir).archive project.name
  .obj [("apk", if verdict.ok then .str apk.text else .null), ("errors", .str verdict.err),
    ("output", .str out), ("progress", .num (toString progress)), ("project", .str project.name),
    ("status", .str (if verdict.ok then "success" else "error")),
    ("user_errors", .str verdict.userErrors)]

/-- The end of a build. A talkative run shows all that the build said, one that is not quiet only
what a failed build said. -/
def showBuild (project : Project) (verdict : Build.Verdict) (out : String) (progress : Nat) :
    Act ρ Unit := do
  let s ← settings
  let failed : Failure := ⟨"Build of " ++ project.name ++ " failed", []⟩
  if s.json then
    printJson (buildJson project verdict out progress)
    if !verdict.ok then throw failed
  else
    if !s.quiet && (s.verbose > 0 || !verdict.ok) then
      print out
      printError verdict.err
    if !verdict.ok then
      printError verdict.userErrors
      throw failed
    success ("Built " ++ ((BuildLayout.mk project.buildDir).archive project.name).text)

/-- A project is built. -/
def build (host : Host ρ) (config : Config) (dir : Path) (args : BuildArgs) : Act ρ Unit := do
  let types ← collectTypes args.components
  let project ← loadProject dir
  let services := Services.ofConfig host.runner host.env
    (Toolchain.detect host.env config.runtime.javaHome) config
  let result ← withResources config.filesDir host.scratch
    (inSession (Build.run services project types (args.options dir config host.env)).run)
  let events := (← get).session.events
  showBuild project (Build.verdict result)
    (String.join ((Event.notices events).map (Notice.render host.time)))
    (Event.progressAfter Progress.initial events)

/-! ## Inspecting -/

/-- Names in a row. -/
def row (names : NameSet) : String :=
  if names.isEmpty then "(none)" else Text.join ", " names.toList

/-- A report in words. The manifest is shown even to the quiet. -/
def showReport (r : InspectReport) : Act ρ Unit := do
  info ("Project " ++ r.project ++ " (" ++ r.mainClass ++ ")")
  detail ("Sources: " ++ Text.join ", " r.sources)
  detail ("Built-in components: " ++ row r.builtin)
  detail ("Extensions: " ++ row r.extensions)
  if r.robot then detail "Robot controller build"
  r.requirements.toList.forM fun (category, byType) => do
    printLine ""
    info category
    byType.toList.forM fun (component, names) => detail (component ++ ": " ++ row names)
  match r.manifest with
  | some manifest => printLine ("\n" ++ manifest)
  | none => return ()

/-- A project is looked at. -/
def inspect (host : Host ρ) (config : Config) (dir : Path) (components : ComponentArgs)
    (companion withManifest : Bool) : Act ρ Unit := do
  let types ← collectTypes components
  let project ← loadProject dir
  let report ← withResources config.filesDir host.scratch do
    let catalog ← work "Failed to load component catalog" BuildError.message Components.loadCatalog
    work ("Failed to inspect " ++ project.name) BuildError.message
      (InspectReport.make project types catalog config.robot.identity companion withManifest)
  if (← settings).json then printJson report.toJson else showReport report

/-! ## The host -/

/-- A check in words. -/
def showCheck (c : Check) : Act ρ Unit := do
  let optional := if c.required then "" else " [optional]"
  if c.passed then
    let version := (c.version.map fun v => " (" ++ v ++ ")").getD ""
    printLine ("  " ++ goodMark ++ c.name ++ version ++ optional)
  else
    printLine ("  " ++ badMark ++ c.name ++ optional)
    c.error.toList.forM fun e => detail ("Error: " ++ e)
    c.suggestion.toList.forM fun s => detail ("Suggestion: " ++ s)

/-- How many of all checks have passed. -/
def tally (r : DoctorReport) : String := toString r.passedCount ++ "/" ++ toString r.checks.length

/-- The checks of a host in words. -/
def showChecks (host : HostFamily) (filesDir : Path) (r : DoctorReport) : Act ρ Unit := do
  info ("Checking build host (" ++ host.name ++ ", runtime files in " ++ filesDir.text ++ ")")
  printLine ""
  r.checks.forM showCheck
  if !r.configIssues.isEmpty then
    printLine ""
    warning "Configuration issues:"
    r.configIssues.forM fun issue => detail ("• " ++ issue)
  printLine ""
  if r.allPassed then success ("All checks passed (" ++ tally r ++ ")")
  else if r.failedRequired.isEmpty then
    warning (tally r ++ " checks passed (only robot controller builds are affected)")
  else printLine (badMark ++ tally r ++ " checks passed")

/-- The checks of a host as JSON. -/
def checksJson (host : HostFamily) (r : DoctorReport) : Json :=
  let status := if r.allPassed then "success"
    else if r.failedRequired.isEmpty then "warning" else "error"
  .obj [("host", .str host.name), ("passed_count", .num (toString r.passedCount)),
    ("report", r.toJson), ("status", .str status),
    ("total_count", .num (toString r.checks.length))]

/-- The host is checked. -/
def doctor (host : Host ρ) (config : Config) : Act ρ Unit := do
  let toolchain := Toolchain.detect host.env config.runtime.javaHome
  let services := Services.ofConfig host.runner host.env toolchain config
  let report ← withResources config.filesDir host.scratch
    (inSession (Doctor.run services config host.cpus))
  let s ← settings
  if s.json then printJson (checksJson toolchain.host report)
  else if s.quiet then
    report.failedRequired.forM fun c => printErrorLine (badMark ++ "Missing required: " ++ c.name)
  else showChecks toolchain.host config.filesDir report
  if !report.failedRequired.isEmpty then
    throw ⟨toString report.failedRequired.length ++
      " required check(s) failed. Run 'yailbuild doctor' for details.", []⟩

/-! ## Configuration -/

/-- The configuration is shown. -/
def showConfig (config : Config) (path : Path) : Act ρ Unit := do
  let w ← workspace
  let there := w.tree.hasEntry w.start path
  if (← settings).json then
    printJson (.obj [("config", config.toJson), ("exists", .bool there), ("path", .str path.text)])
  else
    printLine ("# " ++ if there then path.text else "defaults (" ++ path.text ++ " not found)")
    print config.write

/-- A configuration with all defaults is written. -/
def initConfig (path : Path) (force : Bool) : Act ρ Unit := do
  let w ← workspace
  if w.tree.hasEntry w.start path && !force then
    throw ⟨path.text ++ " already exists. Use --force to overwrite it.", []⟩
  work ("Failed to write " ++ path.text) ConfigError.message (Config.populated.save path)
  success ("Wrote " ++ path.text)
  detail "Set [runtime] files_dir to the directory holding files/ and tools/"

/-! ## Cleaning -/

/-- What was removed, as JSON. -/
def removedJson (removed : List String) : Json :=
  .obj [("removed", .arr (removed.map .str)), ("status", .str "success")]

/-- What a build made is removed. -/
def clean (dir : Path) : Act ρ Unit := do
  let project ← loadProject dir
  let w ← workspace
  let json := (← settings).json
  if !Clean.hasArtifacts w.tree w.start project.buildDir then
    if json then printLine (removedJson []).compact else success "Nothing to clean"
  else
    let report ← work ("Failed to clean build output in " ++ project.buildDir.text)
      FilesError.message (Clean.run project.buildDir)
    if json then printLine (removedJson report.removed).compact
    else
      success ("Cleaned " ++ project.buildDir.text)
      report.removed.forM fun name => detail ("Removed " ++ name)

/-! ## All commands -/

/-- A request is met. -/
def meet (host : Host ρ) (config : Config) (path : Path) : Request → Act ρ Unit
  | .build dir args => build host config dir args
  | .inspect dir components companion manifest =>
    inspect host config dir components companion manifest
  | .doctor => doctor host config
  | .showConfig => showConfig config path
  | .initConfig force => initConfig path force
  | .clean dir => clean dir

/-- A request is met under the configuration of the run. -/
def serve (host : Host ρ) (request : Request) : Act ρ Unit := do
  let path := (← settings).config.getD host.env.configFile
  let w ← workspace
  let config ← expect ("Failed to load configuration " ++ path.text) ConfigError.message
    (Config.load w.tree w.start path)
  meet host config path request

end Act

/-- What a run leaves: its exit, what it showed, the tools and the tree. -/
structure Finished (ρ : Type) where
  exit : Nat
  stdout : String
  stderr : String
  tools : ρ
  tree : FileTree

/-- A request is met from start to end. A failure is shown last and makes the exit 1. -/
def Host.execute {ρ : Type} (host : Host ρ) (settings : Settings) (request : Request)
    (start : Place) (tools : ρ) (tree : FileTree) : Finished ρ :=
  let session : Session ρ :=
    { workspace := { start, tree, resources := { root := ⟨""⟩, scratch := host.scratch }
                     locator := Locator.ofAssets ⟨""⟩ }, tools }
  let act : StateM (Screen ρ) Nat := do
    match ← ExceptT.run (Act.serve host request) with
    | .ok () => return 0
    | .error failure =>
      let _ ← ExceptT.run (Act.report failure)
      return 1
  let (exit, screen) := act.run { settings, session }
  { exit, stdout := screen.stdout, stderr := screen.stderr, tools := screen.session.tools
    tree := screen.session.workspace.tree }

end ApkForge.CommandLine
