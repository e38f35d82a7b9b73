-- The variables that a run starts with, and the directories and programs that they name. A variable
-- of the program's own wins over the host's customs.
import ApkForge.FileTree

namespace ApkForge

/-- The variables of a run. -/
structure Environment where
  vars : List (String × String)
deriving Inhabited, Repr

namespace Environment

/-- The value of a variable. -/
def get? (e : Environment) (name : String) : Option String := e.vars.lookup name

/-! ## Directories -/

/-- The name of the program in the directories of the user. -/
def programName : String := "yailbuild"

/-- The home of the user, or the home of a user without one. -/
def home (e : Environment) : Path :=
  match e.get? "HOME" with
  | some dir => if dir == "" then ⟨"/root"⟩ else ⟨dir⟩
  | none => ⟨"/root"⟩

/-- A directory of the program: the one its own variable names, else one below the directory that
the host's variable names if that is absolute, else one below the user's home. -/
def directory (e : Environment) (own hosts fallback : String) : Path :=
  match e.get? own with
  | some dir => ⟨dir⟩
  | none =>
    match (e.get? hosts).filter fun dir => Path.isAbsolute ⟨dir⟩ with
    | some dir => Path.join ⟨dir⟩ programName
    | none => (e.home.join fallback).join programName

/-- Where caches are kept. -/
def cacheDir (e : Environment) : Path :=
  e.directory "YAILBUILD_CACHE_DIR" "XDG_CACHE_HOME" ".cache"

/-- Where the configuration is kept. -/
def configDir (e : Environment) : Path :=
  e.directory "YAILBUILD_CONFIG_DIR" "XDG_CONFIG_HOME" ".config"

/-- Where converted libraries are kept. -/
def dexCacheDir (e : Environment) : Path := e.cacheDir.join "dex-cache"

/-- The configuration file. -/
def configFile (e : Environment) : Path := e.configDir.join "config.toml"

/-! ## Programs -/

/-- A directory of the search path with a leading `~` replaced by the home that the environment
names. Where it names none the directory stays as it is. -/
def expandHome (e : Environment) (dir : Path) : Path :=
  match (e.get? "HOME").filter fun home => home != "", dir.parts with
  | some home, .name "~" :: rest => Path.joinAll ⟨home⟩ (rest.map Path.Part.text)
  | _, _ => dir

/-- The directories in which programs are looked for. -/
def searchPath (e : Environment) : List Path :=
  match e.get? "PATH" with
  | none => []
  | some dirs => (Text.split ':' dirs).map fun dir => e.expandHome ⟨dir⟩

/-- A path names a file that can be executed. -/
def isProgram (tree : FileTree) (start : Place) (p : Path) : Bool :=
  match tree.stat start p with
  | .ok (_, .file _ executable) => executable
  | _ => false

/-- The first program of a name on the search path. -/
def which? (e : Environment) (tree : FileTree) (start : Place) (name : String) : Option Path :=
  (e.searchPath.map fun dir => dir.join name).find? (isProgram tree start)

end Environment

end ApkForge
