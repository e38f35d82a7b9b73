-- The configuration of the program: five sections of settings, each of which may be left out. It is
-- read from a TOML file and written back as one; a setting that is not there takes its default
-- only when it is asked for.
import ApkForge.Fault
import ApkForge.Format.Json
import ApkForge.Format.Toml.Reader
import ApkForge.Format.Toml.Writer
import ApkForge.Workspace

namespace ApkForge

/-! ## Sections -/

/-- Where the runtime files and the Java tools are. -/
structure RuntimeSettings where
  filesDir : Option Path := none
  javaHome : Option Path := none
deriving DecidableEq, Repr, Inhabited

/-- How much memory tools may take, in megabytes. -/
structure MemorySettings where
  perTool : Option Nat := none
  budget : Option Nat := none
deriving DecidableEq, Repr, Inhabited

/-- How code is converted. -/
structure DexSettings where
  firstCap : Option Nat := none
  startupLibraries : List String := []
  cache : Option Path := none
deriving DecidableEq, Repr, Inhabited

/-- How many seconds the tools of a phase may take. -/
structure TimeoutSettings where
  compile : Option Nat := none
  dex : Option Nat := none
  package : Option Nat := none
  sign : Option Nat := none
deriving DecidableEq, Repr, Inhabited

/-- How a robot controller names itself. -/
structure RobotSettings where
  package : Option String := none
  versionCode : Option String := none
  versionName : Option String := none
  minSdk : Option String := none
  targetSdk : Option String := none
deriving DecidableEq, Repr, Inhabited

/-- The whole configuration. -/
structure Config where
  runtime : RuntimeSettings := {}
  memory : MemorySettings := {}
  dex : DexSettings := {}
  timeouts : TimeoutSettings := {}
  robot : RobotSettings := {}
deriving DecidableEq, Repr, Inhabited

/-! ## Defaults -/

/-- The timeouts in force, in seconds. -/
structure Timeouts where
  compile : Nat
  dex : Nat
  package : Nat
  sign : Nat
deriving DecidableEq, Repr, Inhabited

/-- A tool that converts code has as long as one that compiles it. -/
def TimeoutSettings.resolve (s : TimeoutSettings) : Timeouts where
  compile := s.compile.getD 900
  dex := s.dex.getD 900
  package := s.package.getD 300
  sign := s.sign.getD 120

/-- The names of the robot controller in force. -/
structure RobotIdentity where
  package : String
  versionCode : String
  versionName : String
  minSdk : String
  targetSdk : String
deriving DecidableEq, Repr, Inhabited

/-- The names of the robot controller, with defaults for those not set. -/
def RobotSettings.identity (s : RobotSettings) : RobotIdentity where
  package := s.package.getD "com.qualcomm.ftcrobotcontroller"
  versionCode := s.versionCode.getD "21"
  versionName := s.versionName.getD "3.5"
  minSdk := s.minSdk.getD "19"
  targetSdk := s.targetSdk.getD "19"

namespace Config

/-- The directory of the runtime files. -/
def filesDir (c : Config) : Path := c.runtime.filesDir.getD ⟨"."⟩

/-- The memory of one tool. -/
def toolHeap (c : Config) : Nat := c.memory.perTool.getD 2048

/-- The memory of all tools together. -/
def memoryBudget (c : Config) : Nat := c.memory.budget.getD 2048

/-- How many libraries the first container takes besides those that start the app. -/
def firstDexCap (c : Config) : Nat := c.dex.firstCap.getD 12

/-- The configuration with its defaults written out. -/
def populated : Config :=
  let timeouts := TimeoutSettings.resolve {}
  let robot := RobotSettings.identity {}
  { runtime := { filesDir := some (filesDir {}) }
    memory := { perTool := some (toolHeap {}), budget := some (memoryBudget {}) }
    dex := { firstCap := some (firstDexCap {}) }
    timeouts :=
      { compile := some timeouts.compile, dex := some timeouts.dex
        package := some timeouts.package, sign := some timeouts.sign }
    robot :=
      { package := some robot.package, versionCode := some robot.versionCode
        versionName := some robot.versionName, minSdk := some robot.minSdk
        targetSdk := some robot.targetSdk } }

/-! ## Reading -/

/-- A setting of a section, which may be missing from a table. A section may also be an array, which
gives its settings by position and leaves none out. A date counts as a section without settings. -/
def optional {α : Type} (section_ : Toml) (position : Nat) (key : String)
    (read : Toml → Option α) : Option (Option α) :=
  match section_ with
  | .table fields =>
    match fields.lookup key with
    | none => some none
    | some value => (read value).map some
  | .array items => (items[position]?).bind fun value => (read value).map some
  | .date => some none
  | _ => none

/-- A setting that takes a default where it is missing, in a table as well as in an array. -/
def orElse {α : Type} (section_ : Toml) (position : Nat) (key : String)
    (read : Toml → Option α) (default : α) : Option α :=
  let value? := match section_ with
    | .table fields => fields.lookup key
    | .array items => items[position]?
    | _ => none
  match value? with
  | none => some default
  | some value => read value

/-- A text. -/
def text? : Toml → Option String
  | .str s => some s
  | _ => none

/-- A path, written as a text. -/
def path? (v : Toml) : Option Path := (text? v).map Path.mk

/-- A whole number from 0 to below `bound`. -/
def below? (bound : Nat) : Toml → Option Nat
  | .int (.ofNat n) => if n < bound then some n else none
  | _ => none

/-- A number of 32 bits. -/
def word? : Toml → Option Nat := below? 4294967296

/-- A number of 64 bits. -/
def long? : Toml → Option Nat := below? 18446744073709551616

/-- Texts in an array. -/
def texts? : Toml → Option (List String)
  | .array items => items.mapM text?
  | _ => none

/-- The section of the runtime. -/
def runtime? (v : Toml) : Option RuntimeSettings := do
  let filesDir ← optional v 0 "files_dir" path?
  let javaHome ← optional v 1 "java_home" path?
  return { filesDir, javaHome }

/-- The section of memory limits. -/
def memory? (v : Toml) : Option MemorySettings := do
  let perTool ← optional v 0 "child_process_ram_mb" word?
  let budget ← optional v 1 "memory_budget_mb" word?
  return { perTool, budget }

/-- The section of conversion. -/
def dex? (v : Toml) : Option DexSettings := do
  let firstCap ← optional v 0 "first_dex_cap" long?
  let startupLibraries ← orElse v 1 "startup_libraries" texts? []
  let cache ← optional v 2 "cache" path?
  return { firstCap, startupLibraries, cache }

/-- The section of timeouts. -/
def timeouts? (v : Toml) : Option TimeoutSettings := do
  let compile ← optional v 0 "compile" long?
  let dex ← optional v 1 "dex" long?
  let package ← optional v 2 "package" long?
  let sign ← optional v 3 "sign" long?
  return { compile, dex, package, sign }

/-- The section of the robot controller. -/
def robot? (v : Toml) : Option RobotSettings := do
  let package ← optional v 0 "package" text?
  let versionCode ← optional v 1 "version_code" text?
  let versionName ← optional v 2 "version_name" text?
  let minSdk ← optional v 3 "min_sdk" text?
  let targetSdk ← optional v 4 "target_sdk" text?
  return { package, versionCode, versionName, minSdk, targetSdk }

/-- A section of the document, or its default where the document has none. -/
def sectionOf {α : Type} (document : Toml) (key : String) (read : Toml → Option α) (default : α) :
    Option α :=
  match Toml.field? key document with
  | none => some default
  | some value => read value

/-- The configuration in a document. Keys that are not settings are passed over. -/
def ofToml? (document : Toml) : Option Config := do
  let runtime ← sectionOf document "runtime" runtime? {}
  let memory ← sectionOf document "limits" memory? {}
  let dex ← sectionOf document "dex" dex? {}
  let timeouts ← sectionOf document "timeouts" timeouts? {}
  let robot ← sectionOf document "robot" robot? {}
  return { runtime, memory, dex, timeouts, robot }

/-- The configuration in a text. -/
def parse? (text : String) : Option Config := (Toml.parse? text).bind ofToml?

/-! ## Writing -/

/-- A row for a setting that is set. -/
def row {α : Type} (key : String) (write : α → String) (value : Option α) :
    List (String × String) :=
  match value with
  | some v => [(key, write v)]
  | none => []

/-- A path as a text. -/
def writePath (p : Path) : String := Toml.writeString p.text

/-- A whole number. -/
def writeNumber (n : Nat) : String := toString n

/-- The rows of each section. -/
def rows (c : Config) : List (String × List (String × String)) :=
  [("runtime",
      row "files_dir" writePath c.runtime.filesDir ++ row "java_home" writePath c.runtime.javaHome),
    ("limits",
      row "child_process_ram_mb" writeNumber c.memory.perTool ++
        row "memory_budget_mb" writeNumber c.memory.budget),
    ("dex",
      row "first_dex_cap" writeNumber c.dex.firstCap ++
        [("startup_libraries", Toml.writeStrings c.dex.startupLibraries)] ++
        row "cache" writePath c.dex.cache),
    ("timeouts",
      row "compile" writeNumber c.timeouts.compile ++ row "dex" writeNumber c.timeouts.dex ++
        row "package" writeNumber c.timeouts.package ++ row "sign" writeNumber c.timeouts.sign),
    ("robot",
      row "package" Toml.writeString c.robot.package ++
        row "version_code" Toml.writeString c.robot.versionCode ++
        row "version_name" Toml.writeString c.robot.versionName ++
        row "min_sdk" Toml.writeString c.robot.minSdk ++
        row "target_sdk" Toml.writeString c.robot.targetSdk)]

/-- The configuration as a document. Every section has its header; a setting that is not set is
left out. -/
def write (c : Config) : String := Toml.writeTables c.rows

/-- The numbers that are set. -/
def numbers (c : Config) : List Nat :=
  [c.memory.perTool, c.memory.budget, c.dex.firstCap, c.timeouts.compile, c.timeouts.dex,
    c.timeouts.package, c.timeouts.sign].filterMap id

/-- A document holds the numbers that are set. Its numbers have 64 bits with a sign, so there are
some that a setting may take but that cannot be written. -/
def fits (c : Config) : Bool := c.numbers.all fun n => (Toml.int64? n).isSome

/-- A setting as JSON, which shows one that is not set as null. -/
def shown {α : Type} (show_ : α → Json) (value : Option α) : Json := (value.map show_).getD .null

/-- A path as JSON. -/
def shownPath : Option Path → Json := shown fun p => .str p.text

/-- A number as JSON. -/
def shownNumber : Option Nat → Json := shown fun n => .num (toString n)

/-- A text as JSON. -/
def shownText : Option String → Json := shown .str

/-- The configuration as JSON, with all settings. Sections and settings are in the order of their
names. -/
def toJson (c : Config) : Json :=
  .obj [("dex", .obj [("cache", shownPath c.dex.cache),
      ("first_dex_cap", shownNumber c.dex.firstCap),
      ("startup_libraries", .arr (c.dex.startupLibraries.map .str))]),
    ("limits", .obj [("child_process_ram_mb", shownNumber c.memory.perTool),
      ("memory_budget_mb", shownNumber c.memory.budget)]),
    ("robot", .obj [("min_sdk", shownText c.robot.minSdk), ("package", shownText c.robot.package),
      ("target_sdk", shownText c.robot.targetSdk),
      ("version_code", shownText c.robot.versionCode),
      ("version_name", shownText c.robot.versionName)]),
    ("runtime", .obj [("files_dir", shownPath c.runtime.filesDir),
      ("java_home", shownPath c.runtime.javaHome)]),
    ("timeouts", .obj [("compile", shownNumber c.timeouts.compile),
      ("dex", shownNumber c.timeouts.dex), ("package", shownNumber c.timeouts.package),
      ("sign", shownNumber c.timeouts.sign)])]

end Config

/-! ## Files -/

/-- A configuration file that cannot be used. -/
inductive ConfigError where
  | unreadable (path : Path) (fault : FileFault)
  | unwritable (path : Path) (fault : FileFault)
  | malformed (path : Path)
deriving DecidableEq, Repr

/-- The words for a configuration file that cannot be used. -/
def ConfigError.message : ConfigError → String
  | .unreadable path fault =>
    "Failed to read config file '" ++ path.text ++ "': " ++ fault.message
  | .unwritable path fault =>
    "Failed to write config file '" ++ path.text ++ "': " ++ fault.message
  | .malformed path => "Failed to parse config file '" ++ path.text ++ "': malformed TOML"

namespace Config

/-- The configuration in a file. Without the file all settings are unset. -/
def load (tree : FileTree) (start : Place) (path : Path) : Except ConfigError Config :=
  if tree.hasEntry start path then
    match tree.readText start path with
    | .error fault => .error (.unreadable path fault)
    | .ok text =>
      match parse? text with
      | some config => .ok config
      | none => .error (.malformed path)
  else .ok {}

/-- The directory of a file, with all above it. -/
def makeRoom (path : Path) : Task ConfigError Unit :=
  match path.parent? with
  | none => pure ()
  | some parent => do
    let w ← MonadState.get
    let (made, tree) := w.tree.makeDirs w.start parent
    set { w with tree }
    match made with
    | .ok () => pure ()
    | .error fault => throw (.unwritable parent fault)

/-- The configuration written to a file, in a directory made for it. A configuration that no
document holds is found out when the directory is there. -/
def save (config : Config) (path : Path) : Task ConfigError Unit := do
  makeRoom path
  if config.fits then
    Task.change fun start tree =>
      (tree.write start path (Utf8.encode config.write)).mapError (.unwritable path)
  else throw (.malformed path)

end Config

end ApkForge
