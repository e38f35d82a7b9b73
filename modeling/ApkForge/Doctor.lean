-- Whether a host can build: its Java tools, the runtime files, and what the configuration asks of
-- it. Each check says what it looked for and, when it fails, what would help.
import ApkForge.Build
import ApkForge.Version

namespace ApkForge

/-- One check. -/
structure Check where
  name : String
  passed : Bool
  version : Option String := none
  error : Option String := none
  suggestion : Option String := none
  required : Bool
deriving DecidableEq, Repr, Inhabited

/-- All checks, and what is doubtful in the configuration. -/
structure DoctorReport where
  checks : List Check
  configIssues : List String
deriving DecidableEq, Repr, Inhabited

namespace DoctorReport

/-- Every check that is required has passed. -/
def requiredPassed (r : DoctorReport) : Bool :=
  (r.checks.filter Check.required).all Check.passed

/-- Every check has passed and the configuration is in order. -/
def allPassed (r : DoctorReport) : Bool := r.checks.all Check.passed && r.configIssues.isEmpty

/-- How many checks have passed. -/
def passedCount (r : DoctorReport) : Nat := (r.checks.filter Check.passed).length

/-- How many checks have failed. -/
def failedCount (r : DoctorReport) : Nat := (r.checks.filter fun c => !c.passed).length

/-- The required checks that have failed. -/
def failedRequired (r : DoctorReport) : List Check :=
  r.checks.filter fun c => c.required && !c.passed

/-- A text that may be missing, as JSON. -/
def textJson (text : Option String) : Json := (text.map Json.str).getD .null

/-- A check as JSON. -/
def checkJson (c : Check) : Json :=
  .obj [("error", textJson c.error), ("name", .str c.name), ("passed", .bool c.passed),
    ("required", .bool c.required), ("suggestion", textJson c.suggestion),
    ("version", textJson c.version)]

/-- The report as JSON. -/
def toJson (r : DoctorReport) : Json :=
  .obj [("checks", .arr (r.checks.map checkJson)),
    ("config_issues", .arr (r.configIssues.map .str))]

end DoctorReport

namespace Doctor

variable {ρ : Type}

/-! ## Tools -/

/-- The version of a program, if it starts and tells one. -/
def toolVersion (runner : Runner ρ) (tool : Path) : StateM (Session ρ) (Option String) := do
  let s ← get
  let w := s.workspace
  let (answer, tools, tree) :=
    runner.answer { program := tool.text, args := ["-version"] } none w.start s.tools w.tree
  set { s with workspace := { w with tree }, tools }
  match answer with
  | .error _ => return none
  | .ok output =>
    return Version.find? (Utf8.decodeLossy output.stdout ++ Utf8.decodeLossy output.stderr)

/-- The check of a Java tool. -/
def checkJavaTool (s : Services ρ) (name : String) : StateM (Session ρ) Check := do
  let w := (← get).workspace
  match s.toolchain.javaTool s.env w.tree w.start name with
  | .ok path =>
    return { name, passed := true, version := ← toolVersion s.runner path, required := true }
  | .error e =>
    return {
      name, passed := false, error := some e.message, required := true
      suggestion := some "Install a JDK and set [runtime] java_home or JAVA_HOME" }

/-! ## Runtime files -/

/-- The check of a runtime file. -/
def checkResource (w : Workspace) (logical : String) (required : Bool) : Check :=
  if Resources.has logical w then { name := logical, passed := true, required }
  else
    { name := logical, passed := false, required
      error := some ("Not found under " ++ w.resources.root.text)
      suggestion :=
        some "Point [runtime] files_dir at the build server's runtime files" }

/-- The runtime files that every build needs. -/
def neededFiles : List String :=
  [Build.kawaJar, Build.acraJar, Build.componentsJar, Build.androidJar, "files/dx.jar",
    "files/runtime.scm", Components.catalogFile, Icon.defaultIcon]

/-- The runtime file that only robot controllers need. -/
def robotKeystore : String := "files/ftc.debug.keystore"

/-- The check of a tool among the runtime files. -/
def checkHostTool (w : Workspace) (host : HostFamily) (name : String) : Check :=
  match host.resource name with
  | .ok logical => checkResource w logical true
  | .error e => { name, passed := false, error := some e.message, required := true }

/-! ## Configuration -/

/-- What is doubtful in a configuration, on a host with so many processors. -/
def configIssues (c : Config) (cpus : Nat) (w : Workspace) : List String :=
  let concurrent := c.memoryBudget / max c.toolHeap 1
  (if w.tree.isDir w.start (c.filesDir.join "files") then []
    else ["Runtime files directory '" ++ c.filesDir.text ++ "' has no 'files' subdirectory"]) ++
  (if c.toolHeap > c.memoryBudget then
      ["child_process_ram_mb (" ++ toString c.toolHeap ++ ") exceeds memory_budget_mb (" ++
        toString c.memoryBudget ++ "); builds will run one tool at a time"]
    else []) ++
  (if concurrent > cpus then
      ["memory_budget_mb allows " ++ toString concurrent ++
        " concurrent compiler JVMs but this host has " ++ toString cpus ++ " CPUs"]
    else []) ++
  (if c.firstDexCap == 0 then
      ["first_dex_cap is 0; every library goes to the second dex container"]
    else [])

/-! ## The whole -/

/-- All checks of a host with so many processors. -/
def run (s : Services ρ) (c : Config) (cpus : Nat) : StateM (Session ρ) DoctorReport := do
  let javaTools ← ["java", "jarsigner", "javac"].mapM (checkJavaTool s)
  let w := (← get).workspace
  let files := neededFiles.map (fun f => checkResource w f true) ++
    [checkResource w robotKeystore false]
  let tools := ["aapt", "zipalign"].map (checkHostTool w s.toolchain.host)
  return { checks := javaTools ++ files ++ tools, configIssues := configIssues c cpus w }

end Doctor

end ApkForge
