-- Which paths a run can look at, so that an outer layer knows what to load before the run. They are
-- found step by step: what the line names, what the configuration names, what the project names.
import ApkForge.CommandLine.Commands

namespace ApkForge.CommandLine

namespace Reach

/-- The configuration file of a run. -/
def configFile (settings : Settings) (env : Environment) : Path :=
  settings.config.getD env.configFile

/-- The project that a request is about. -/
def project? : Request → Option Path
  | .build dir _ => some dir
  | .inspect dir _ _ _ => some dir
  | .clean dir => some dir
  | _ => none

/-- The paths that a request names, besides its project. -/
def named : Request → List Path
  | .build _ args => args.components.file.toList ++ args.keystore.toList ++ args.dexCache.toList
  | .inspect _ components _ _ => components.file.toList
  | _ => []

/-- Where a Java tool may be. -/
def javaTools (config : Config) (env : Environment) : List Path :=
  let toolchain := Toolchain.detect env config.runtime.javaHome
  ["java", "jarsigner", "javac"].flatMap fun tool =>
    toolchain.candidates tool ++ env.searchPath.map fun dir => dir.join tool

/-- The paths that a configuration names. -/
def configured (config : Config) (env : Environment) : List Path :=
  [config.filesDir.join "files", config.filesDir.join "tools",
    config.dex.cache.getD env.dexCacheDir] ++ javaTools config env

/-- The directories that the properties of a project name. -/
def ofProject (tree : FileTree) (start : Place) (root : Path) : List Path :=
  match tree.readText start (Project.propertiesFile root) with
  | .error _ => []
  | .ok text =>
    let props := Properties.parse text
    [Project.directory root props "source" "../src",
      Project.directory root props "assets" "../assets",
      Project.directory root props "build" "../build"]

end Reach

end ApkForge.CommandLine
