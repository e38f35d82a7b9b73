-- What a robot controller brings from the runtime files: resources, assets and native libraries,
-- each named in a list, and the packages whose resource classes are generated and compiled.
import ApkForge.Workspace

namespace ApkForge.RobotFiles

/-! ## Lists -/

/-- The entries of a list with commas between them. Blank entries count for nothing. -/
def parseList (text : String) : List String :=
  ((Text.split ',' text).map Text.trim).filter fun entry => entry != ""

/-- One entry copied, if it may be. -/
def copyEntry (sourceDir : String) (targetDir : Path) (check : String → Except Cause Unit)
    (entry : String) : Task Cause Unit := do
  match check entry with
  | .error cause => throw cause
  | .ok () =>
    let source ← Task.explain .resource (Resources.get (sourceDir ++ "/" ++ entry))
    Task.explain .files (Task.copy source (targetDir.join entry))

/-- All entries of a list copied, in order; the number of entries. -/
def copyListed (list sourceDir : String) (targetDir : Path) (check : String → Except Cause Unit) :
    Task BuildError Nat :=
  Task.explain (.stage .resources) do
    let text ← Task.explain .resource (Resources.readText list)
    let entries := parseList text
    entries.forM (copyEntry sourceDir targetDir check)
    return entries.length

/-- Every entry may be copied. -/
def anyEntry (_ : String) : Except Cause Unit := .ok ()

/-- A native library must lie in the directory of a processor. -/
def abiEntry (entry : String) : Except Cause Unit :=
  if Text.beginsWith "armeabi/" entry || Text.beginsWith "armeabi-v7a/" entry then .ok ()
  else .error (.foreignLibrary entry)

/-- The resources of the controller. -/
def copyResources (resDir : Path) : Task BuildError Nat :=
  copyListed "files/ftc/res.list" "files/ftc/res" resDir anyEntry

/-- The assets of the controller. Their directory is there afterwards, with or without any. -/
def copyAssets (assetsDir : Path) : Task BuildError Nat := do
  Task.explain (fun e => .stage .resources (.files e)) (Task.makeDirs assetsDir)
  copyListed "files/ftc/assets.list" "files/ftc/assets" assetsDir anyEntry

/-- The native libraries of the controller. -/
def copyNativeLibraries (libsDir : Path) : Task BuildError Nat :=
  copyListed "files/ftc/libs.list" "files/ftc/libs" (libsDir.join "lib") abiEntry

/-! ## Resource classes -/

/-- The packages whose resource classes are generated. -/
def resourcePackages : List String :=
  ["com.google.blocks", "com.qualcomm.ftccommon", "com.qualcomm.hardware",
    "com.qualcomm.robotcore", "org.firstinspires.inspection"]

/-- The source of the resource class of a package. -/
def resourceClassFile (genDir : Path) (package : String) : Path :=
  (genDir.joinAll (Text.split '.' package)).join "R.java"

/-- Generates the resource class of a package. -/
def generateCommand (aapt androidJar resDir manifest genDir : Path) (package : String) :
    Command where
  program := aapt.text
  args := ["package", "-f", "-m", "-I", androidJar.text, "-S", resDir.text, "-M", manifest.text,
    "-J", genDir.text, "--custom-package", package]

/-- Compiles resource classes. -/
def compileCommand (javac classesDir : Path) (sources : List Path) : Command where
  program := javac.text
  args := ["-d", classesDir.text, "-source", "1.7", "-target", "1.7"] ++ sources.map Path.text

end ApkForge.RobotFiles
