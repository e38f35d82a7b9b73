-- Where a build puts what it makes. All of it lies in seven places of the build directory, and
-- cleaning takes away just these.
import ApkForge.Workspace

namespace ApkForge

/-- The places of a build directory. -/
structure BuildLayout where
  root : Path
deriving DecidableEq, Repr, Inhabited

namespace BuildLayout

/-- The resources of the app. -/
def res (l : BuildLayout) : Path := l.root.join "res"

/-- The pictures among the resources. -/
def drawable (l : BuildLayout) : Path := l.res.join "drawable"

/-- The animations among the resources. -/
def anim (l : BuildLayout) : Path := l.res.join "anim"

/-- The compiled classes. -/
def classes (l : BuildLayout) : Path := l.root.join "classes"

/-- The generated sources. -/
def gen (l : BuildLayout) : Path := l.root.join "gen"

/-- What later steps need no more. -/
def tmp (l : BuildLayout) : Path := l.root.join "tmp"

/-- The finished archives. -/
def deploy (l : BuildLayout) : Path := l.root.join "deploy"

/-- The native libraries. -/
def libs (l : BuildLayout) : Path := l.root.join "libs"

/-- The manifest of the app. -/
def manifest (l : BuildLayout) : Path := l.root.join "AndroidManifest.xml"

/-- The archive of resources. -/
def intermediateArchive (l : BuildLayout) (name : String) : Path := l.deploy.join (name ++ ".ap_")

/-- The archive of the app. -/
def archive (l : BuildLayout) (name : String) : Path := l.deploy.join (name ++ ".apk")

/-- The names of all that a build makes, directly below the build directory. -/
def generatedNames : List String :=
  ["res", "classes", "gen", "tmp", "deploy", "libs", "AndroidManifest.xml"]

/-- All that a build makes. -/
def generated (l : BuildLayout) : List Path := generatedNames.map l.root.join

end BuildLayout

/-- What cleaning took away, and what was not there. -/
structure CleanReport where
  removed : List String := []
  skipped : List String := []
deriving DecidableEq, Repr, Inhabited

namespace Clean

/-- The name of a place as seen from the build directory. -/
def shownName (buildDir path : Path) : String := (Path.relative? buildDir path).getD path.text

/-- One place taken away if it is there, be it a directory or a file. -/
def cleanOne (path : Path) : Task FilesError Bool := do
  if ← Task.isDir path then
    Task.clearAway path
    return true
  else if ← Task.isFile path then
    Task.change fun start tree => (tree.removeFile start path).mapError (.dirNotRemoved path)
    return true
  else return false

/-- Places taken away one after the other. -/
def cleanAll (buildDir : Path) : List Path → CleanReport → Task FilesError CleanReport
  | [], report => return report
  | path :: rest, report => do
    let name := shownName buildDir path
    if ← cleanOne path then
      cleanAll buildDir rest { report with removed := report.removed ++ [name] }
    else cleanAll buildDir rest { report with skipped := report.skipped ++ [name] }

/-- All that builds made taken away from a build directory. -/
def run (buildDir : Path) : Task FilesError CleanReport :=
  cleanAll buildDir (BuildLayout.generated ⟨buildDir⟩) {}

/-- A build directory holds something that a build made. -/
def hasArtifacts (tree : FileTree) (start : Place) (buildDir : Path) : Bool :=
  (BuildLayout.generated ⟨buildDir⟩).any fun path => tree.hasEntry start path

end Clean

end ApkForge
