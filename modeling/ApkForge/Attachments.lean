-- The files that components bring into an app: native libraries by the processor they are for, and
-- assets. Files of extensions are kept apart, one directory a type.
import ApkForge.Requirements

namespace ApkForge.Attachments

/-- The processor that a native library is for, told by the end of its name, and the name without
that end. -/
def abiTarget (library : String) : String × String :=
  match Text.dropTail? "-v7a" library with
  | some name => ("armeabi-v7a", name)
  | none => ("armeabi", library)

/-- The directories of native libraries. -/
def abiDirs : List String := ["armeabi", "armeabi-v7a"]

/-- The directory below `dir` for files of a type. -/
def nested (dir : Path) (typeName : String) : Origin → Path
  | .builtin => dir
  | .extension => (dir.join "external_comps").join typeName

/-- The names of all components in a category, one after the other. -/
def entries (needs : RequirementMap) : List (String × String) :=
  needs.toList.flatMap fun row => row.2.toList.map fun name => (row.1, name)

/-- A native library copied to the directory of its processor. -/
def copyLibrary (sets : ComponentSets) (libsDir : Path) (entry : String × String) :
    Task Cause Unit := do
  let (abi, name) := abiTarget entry.2
  let (source, origin) ← Components.resolve sets entry.1 (abi ++ "/" ++ name)
  let target := (nested (libsDir.join abi) entry.1 origin).join name
  Task.explain .files (Task.copy source target)

/-- The native libraries of an app. Both directories are there afterwards, with or without any. -/
def nativeLibraries (needs : RequirementMap) (sets : ComponentSets) (libsDir : Path) :
    Task BuildError Unit :=
  Task.explain (.stage .nativeCode) do
    Task.explain .files (abiDirs.forM fun abi => Task.makeDirs (libsDir.join abi))
    (entries needs).forM (copyLibrary sets libsDir)

/-- An asset copied to the directory of component assets. -/
def copyAsset (sets : ComponentSets) (componentDir : Path) (entry : String × String) :
    Task Cause Unit := do
  let (source, origin) ← Components.resolve sets entry.1 entry.2
  let target := (nested componentDir entry.1 origin).join entry.2
  Task.explain .files (Task.copy source target)

/-- The assets of the components of an app. -/
def assets (needs : RequirementMap) (sets : ComponentSets) (assetsDir : Path) :
    Task BuildError Unit :=
  Task.explain (.stage .assets) do
    let componentDir := assetsDir.join "component"
    Task.explain .files (Task.makeDirs componentDir)
    (entries needs).forM (copyAsset sets componentDir)

end ApkForge.Attachments
