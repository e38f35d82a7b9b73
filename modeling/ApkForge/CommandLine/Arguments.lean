-- The command line of this program: its commands and switches, and what a line asks for once it is
-- scanned.
import ApkForge.CommandLine.Switches
import ApkForge.Environment

namespace ApkForge.CommandLine

/-! ## Requests -/

/-- How results are shown, and which configuration is used. -/
structure Settings where
  verbose : Nat := 0
  quiet : Bool := false
  json : Bool := false
  config : Option Path := none
deriving DecidableEq, Repr, Inhabited

/-- The components named on the line or in a file. -/
structure ComponentArgs where
  components : List String := []
  file : Option Path := none
deriving DecidableEq, Repr, Inhabited

/-- What a build is told on the line. -/
structure BuildArgs where
  components : ComponentArgs := {}
  companion : Bool := false
  keystore : Option Path := none
  ram : Option Nat := none
  dexCache : Option Path := none
  noDexCache : Bool := false
deriving DecidableEq, Repr, Inhabited

/-- What a line asks for. -/
inductive Request where
  | build (project : Path) (args : BuildArgs)
  | inspect (project : Path) (components : ComponentArgs) (companion manifest : Bool)
  | doctor
  | showConfig
  | initConfig (force : Bool)
  | clean (project : Path)
deriving DecidableEq, Repr, Inhabited

/-! ## Commands -/

/-- The switch for the configuration. -/
def configSwitch : Switch := { name := "config", effect := .takes .path false }

/-- The switches that every command has. -/
def everywhere : List Switch := [
  { name := "verbose", letter := some 'v', effect := .counts },
  { name := "quiet", letter := some 'q', effect := .sets },
  { name := "json", effect := .sets },
  configSwitch,
  { name := "help", letter := some 'h', effect := .help },
  { name := "version", letter := some 'V', effect := .version }]

/-- The switches that name components. -/
def componentSwitches : List Switch := [
  { name := "component", letter := some 'c', effect := .takes .text true },
  { name := "components-file", effect := .takes .path false }]

/-- The project, which is named without a switch. -/
def projectArgument : Switch := { name := "project", effect := .takes .path false }

/-- A command that works on a project. -/
def projectCommand (name : String) (switches : List Switch) (excludes : List (String × String)) :
    Spec :=
  .command name (switches ++ everywhere) (some projectArgument) excludes [] false

/-- A command that takes switches only. -/
def plainCommand (name : String) (switches : List Switch) : Spec :=
  .command name (switches ++ everywhere) none [] [] false

/-- A switch that is there or not. -/
def marker (name : String) : Switch := { name, effect := .sets }

/-- All commands. -/
def program : Spec :=
  .command "" everywhere none [] [
    projectCommand "build" (componentSwitches ++ [marker "companion",
      { name := "keystore", effect := .takes .path false },
      { name := "ram", effect := .takes .number false },
      { name := "dex-cache", effect := .takes .path false }, marker "no-dex-cache"])
      [("dex-cache", "no-dex-cache")],
    projectCommand "inspect" (componentSwitches ++ [marker "companion", marker "manifest"]) [],
    plainCommand "doctor" [],
    .command "config" everywhere none [] [plainCommand "show" [],
      plainCommand "init" [{ name := "force", letter := some 'f', effect := .sets }]] true,
    projectCommand "clean" [] []] false

/-! ## Reading -/

/-- The last value that was given for a switch. -/
def value? (given : List (String × String)) (name : String) : Option String :=
  given.reverse.lookup name

/-- A switch was given. -/
def isGiven (given : List (String × String)) (name : String) : Bool := (value? given name).isSome

/-- The values that were given for a switch. -/
def values (given : List (String × String)) (name : String) : List String :=
  (given.filter fun g => g.1 == name).map Prod.snd

/-- What the innermost command that was given a switch was given for it. -/
def innermost (levels : Levels) (name : String) : List String :=
  ((levels.reverse.map fun level => values level.2 name).find? fun vs => !vs.isEmpty).getD []

/-- The settings of a line. The innermost command decides, and the environment where no command
names a configuration. -/
def settingsOf (levels : Levels) (env : Environment) : Settings where
  verbose := min (innermost levels "verbose").length 255
  quiet := !(innermost levels "quiet").isEmpty
  json := !(innermost levels "json").isEmpty
  config := ((innermost levels "config").getLast?.or (env.get? "YAILBUILD_CONFIG")).map Path.mk

/-- The project of a line; without one it is the directory at hand. -/
def projectOf (given : List (String × String)) : Path := ⟨(value? given "project").getD "."⟩

/-- The components of a line. -/
def componentsOf (given : List (String × String)) : ComponentArgs where
  components := values given "component"
  file := (value? given "components-file").map Path.mk

/-- What a build is told. -/
def buildArgsOf (given : List (String × String)) : BuildArgs where
  components := componentsOf given
  companion := isGiven given "companion"
  keystore := (value? given "keystore").map Path.mk
  ram := (value? given "ram").bind fun v => (Scan.number? v).map Int.toNat
  dexCache := (value? given "dex-cache").map Path.mk
  noDexCache := isGiven given "no-dex-cache"

/-- The request of a line; none when it names no command. -/
def requestOf : List (String × List (String × String)) → Option Request
  | [("build", given)] => some (.build (projectOf given) (buildArgsOf given))
  | [("inspect", given)] =>
    some (.inspect (projectOf given) (componentsOf given) (isGiven given "companion")
      (isGiven given "manifest"))
  | [("doctor", _)] => some .doctor
  | [("config", _), ("show", _)] => some .showConfig
  | [("config", _), ("init", given)] => some (.initConfig (isGiven given "force"))
  | [("clean", given)] => some (.clean (projectOf given))
  | _ => none

/-- A line read: its settings, and its request if it has one. -/
def parse (env : Environment) (args : List String) : Except Usage (Settings × Option Request) := do
  let outside := ((env.get? "YAILBUILD_CONFIG").map fun v => (configSwitch, v)).toList
  let levels ← scan outside args program {}
  return (settingsOf levels env, requestOf levels.tail)

end ApkForge.CommandLine
