-- Everything that can go wrong, as causes. Each kind of failure is a type of its own with one
-- function for its wording; a failed build names the stage it failed in and the cause.
import ApkForge.Tool

namespace ApkForge

/-! ## Files -/

/-- An operation on files that failed, with its path. -/
inductive FilesError where
  | notMade (path : Path) (fault : FileFault)
  | dirNotRemoved (path : Path) (fault : FileFault)
  | notWritten (path : Path) (fault : FileFault)
  | notRemoved (path : Path) (fault : FileFault)
  | notRead (path : Path) (fault : FileFault)
  | notCopied (source target : Path) (fault : FileFault)
deriving DecidableEq, Repr

/-- The words for a failed operation on files. -/
def FilesError.message : FilesError → String
  | .notMade path fault =>
    "Failed to create directory '" ++ path.text ++ "': " ++ fault.message
  | .dirNotRemoved path fault =>
    "Failed to remove directory '" ++ path.text ++ "': " ++ fault.message
  | .notWritten path fault => "Failed to write file '" ++ path.text ++ "': " ++ fault.message
  | .notRemoved path fault => "Failed to remove file '" ++ path.text ++ "': " ++ fault.message
  | .notRead path fault => "Failed to read file '" ++ path.text ++ "': " ++ fault.message
  | .notCopied source target fault =>
    "Failed to copy '" ++ source.text ++ "' to '" ++ target.text ++ "': " ++ fault.message

/-! ## Parts of a build -/

/-- A project that cannot be loaded. -/
inductive ProjectError where
  | propertiesNotFound (path : Path)
  | missingProperty (key : String)
  | invalidMainClass (main : String)
  | mainSourceMissing (main : String)
  | files (error : FilesError)
deriving DecidableEq, Repr

/-- The words for a project that cannot be loaded. -/
def ProjectError.message : ProjectError → String
  | .propertiesNotFound path => "Project properties not found at '" ++ path.text ++ "'"
  | .missingProperty key => "Project properties are missing required key '" ++ key ++ "'"
  | .invalidMainClass main => "Main class '" ++ main ++ "' is not a qualified class name"
  | .mainSourceMissing main => "No source file found for main class '" ++ main ++ "'"
  | .files error => error.message

/-- Build info that cannot be used. -/
inductive CatalogError where
  | malformed (origin : String)
  | notStrings (component field : String)
  | missingField (component field : String)
deriving DecidableEq, Repr

/-- The words for build info that cannot be used. -/
def CatalogError.message : CatalogError → String
  | .malformed origin => "Malformed build info in '" ++ origin ++ "': malformed JSON"
  | .notStrings component field =>
    "Malformed build info in '" ++ component ++ "': '" ++ field ++ "' is not an array of strings"
  | .missingField component field =>
    "Component '" ++ component ++ "' has no '" ++ field ++ "' field"

/-- An extension that cannot be found. -/
inductive LocatorError where
  | notFound (component : String) (tried : List Path)
  | descriptorMissing (component : String) (dir : Path)
  | unqualified (component : String)
deriving DecidableEq, Repr

/-- The words for an extension that cannot be found. -/
def LocatorError.message : LocatorError → String
  | .notFound component tried =>
    "No extension directory for '" ++ component ++ "' (looked in " ++
      Text.join ", " (tried.map Path.text) ++ ")"
  | .descriptorMissing component dir =>
    "Extension '" ++ component ++ "' has no build info descriptor in '" ++ dir.text ++ "'"
  | .unqualified component => "Component type '" ++ component ++ "' is not a qualified name"

/-- A runtime file that cannot be had. -/
inductive ResourceError where
  | notFound (logical : String) (path : Path)
  | notMaterialized (logical : String) (error : FilesError)
deriving DecidableEq, Repr

/-- The words for a runtime file that cannot be had. -/
def ResourceError.message : ResourceError → String
  | .notFound logical path =>
    "Resource '" ++ logical ++ "' not found at '" ++ path.text ++ "'"
  | .notMaterialized logical error =>
    "Failed to materialize resource '" ++ logical ++ "': " ++ error.message

/-- A tool that cannot be had on this host. -/
inductive ToolchainError where
  | toolNotFound (tool : String) (searched : List Path)
  | unsupportedHost (tool os : String)
deriving DecidableEq, Repr

/-- The words for a tool that cannot be had. -/
def ToolchainError.message : ToolchainError → String
  | .toolNotFound tool searched =>
    "Cannot find '" ++ tool ++ "' (searched " ++ Text.join ", " (searched.map Path.text) ++
      " and PATH)"
  | .unsupportedHost tool os => "Cannot run " ++ tool ++ " on OS " ++ os

/-! ## Builds -/

/-- The stages of a build that can fail. -/
inductive Stage where
  | extensions
  | permissions
  | libraries
  | nativeLibraries
  | assets
  | activities
  | broadcastReceivers
  | broadcastReceiver
  | animation
  | resources
  | manifest
  | nativeCode
  | compile
  | javac
  | dx
  | aapt
  | apkBuilder
  | jarSigner
  | zipAlign
deriving DecidableEq, Repr

/-- All stages. -/
def Stage.all : List Stage :=
  [.extensions, .permissions, .libraries, .nativeLibraries, .assets, .activities,
    .broadcastReceivers, .broadcastReceiver, .animation, .resources, .manifest, .nativeCode,
    .compile, .javac, .dx, .aapt, .apkBuilder, .jarSigner, .zipAlign]

/-- The name of a stage as users read it. -/
def Stage.label : Stage → String
  | .extensions => "Extensions"
  | .permissions => "Permissions"
  | .libraries => "Libraries"
  | .nativeLibraries => "Native Libraries"
  | .assets => "Assets"
  | .activities => "Activities"
  | .broadcastReceivers => "BroadcastReceivers"
  | .broadcastReceiver => "BroadcastReceiver"
  | .animation => "Animation"
  | .resources => "Resources"
  | .manifest => "manifest"
  | .nativeCode => "Native Code"
  | .compile => "Compile"
  | .javac => "Javac"
  | .dx => "DX"
  | .aapt => "AAPT"
  | .apkBuilder => "ApkBuilder"
  | .jarSigner => "JarSigner"
  | .zipAlign => "ZIPALIGN"

/-- Why a stage failed. -/
inductive Cause where
  | files (error : FilesError)
  | catalog (error : CatalogError)
  | locator (error : LocatorError)
  | resource (error : ResourceError)
  | toolchain (error : ToolchainError)
  | runner (error : RunFault)
  | tool (output : ToolOutput)
  | unknownType (component : String)
  | separatorInPath
  | foreignLibrary (entry : String)
  | secondDexFailed
  | dexFailed
  | notAnImage
  | said (reason : String)
deriving DecidableEq, Repr

/-- The words for the cause of a failed stage. -/
def Cause.message : Cause → String
  | .files error => error.message
  | .catalog error => error.message
  | .locator error => error.message
  | .resource error => error.message
  | .toolchain error => error.message
  | .runner error => error.message
  | .tool output => output.failureReason
  | .unknownType component =>
    "component type '" ++ component ++ "' is neither built in nor an extension"
  | .separatorInPath => "path segment contains separator `:`"
  | .foreignLibrary entry =>
    "library " ++ entry ++ " does not belong in armeabi or armeabi-v7a"
  | .secondDexFailed => "failed to build classes2.dex"
  | .dexFailed => "dex merge failed with fewer libraries"
  | .notAnImage => "not a supported image"
  | .said reason => reason

/-- Why a build failed. -/
inductive BuildError where
  | noUserCode
  | icon (icon : String) (cause : Cause)
  | compilation (unit : String)
  | stage (stage : Stage) (cause : Cause)
deriving DecidableEq, Repr

namespace BuildError

/-- The words for a failed build. -/
def message : BuildError → String
  | .noUserCode => "no user code exists in any source file"
  | .icon name cause => "icon '" ++ name ++ "' cannot be used: " ++ cause.message
  | .compilation unit => "compilation of '" ++ unit ++ "' produced no class file"
  | .stage s cause => s.label ++ " stage failed: " ++ cause.message

/-- The stage that failed, if it was one. -/
def failedStage? : BuildError → Option Stage
  | .stage s _ => some s
  | _ => none

/-- What the user of the app is told. -/
def userMessage : BuildError → String
  | .noUserCode => "Error: No user code exists.\n"
  | .icon name _ =>
    "Error: Your build failed because " ++ name ++
      " cannot be used as the application icon.\n"
  | .compilation unit =>
    "Error: Your build failed due to an error when compiling " ++ unit ++ ".\n"
  | .stage s _ =>
    "Error: Your build failed due to an error in the " ++ s.label ++
      " stage, not because of an error in your program.\n"

end BuildError

end ApkForge
