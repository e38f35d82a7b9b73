-- The program: what a run can look at is loaded from the disk, the run is computed, and what it
-- changed is written back. Nothing is decided here.
import ApkForge.Changes
import ApkForge.CommandLine.Help
import ApkForge.CommandLine.Reach
import ApkForge.Script.Runner

namespace ApkForge.Disk

open CommandLine

/-- The variables that a run can see. -/
def variableNames : List String :=
  ["JAVA_HOME", "PATH", "HOME", "XDG_CACHE_HOME", "XDG_CONFIG_HOME", "YAILBUILD_CACHE_DIR",
    "YAILBUILD_CONFIG_DIR", "YAILBUILD_CONFIG"]

/-- The variables of this run. -/
def environment : IO Environment := do
  let found ← variableNames.filterMapM fun name => do
    return (← IO.getEnv name).map fun value => (name, value)
  return ⟨found⟩

/-- The place that a path names, seen from another. -/
def placeOf (start : Place) (p : Path) : Place :=
  let absolute := if p.isAbsolute then p else Path.join ⟨"/" ++ Text.join "/" start⟩ p.text
  absolute.normalize.parts.filterMap fun part => match part with
    | .name n => some n
    | _ => none

/-- The path of a place. -/
def textOf (place : Place) : String := "/" ++ Text.join "/" place

/-- A file counts as executable when it begins as a script, since nothing else can be run. -/
def isScript (content : Bytes) : Bool := content.take 2 == [35, 33]

/-- A tree with all that the disk has at a place and below it. -/
partial def load (tree : FileTree) (place : Place) : IO FileTree := do
  try
    let path ← IO.FS.realPath (textOf place)
    if ← path.isDir then
      let mut tree := match tree.at? place with
        | some .dir => tree
        | _ => tree.putWithParents place .dir
      for entry in ← path.readDir do
        tree ← load tree (place ++ [entry.fileName])
      return tree
    else if ← path.pathExists then
      let content := (← IO.FS.readBinFile path).toList
      return tree.putWithParents place (.file content (isScript content))
    else return tree
  catch _ => return tree

/-- A tree with all that the disk has at paths. -/
def loadAll (start : Place) (tree : FileTree) (paths : List Path) : IO FileTree :=
  paths.foldlM (fun tree p => load tree (placeOf start p)) tree

/-- A change of the tree is made on the disk. -/
def apply (change : Place × FileTree.Change) : IO Unit := do
  let path := textOf change.1
  match change.2 with
  | .added .dir => IO.FS.createDirAll path
  | .changed .dir => return ()
  | .gone .dir => IO.FS.removeDirAll path
  | .gone _ => IO.FS.removeFile path
  | .added (.file content _) => IO.FS.writeBinFile path ⟨content.toArray⟩
  | .changed (.file content _) => IO.FS.writeBinFile path ⟨content.toArray⟩
  | _ => return ()

/-- What changed, in an order in which each change can be made: what is gone from the leaves up,
what is new from the root down. -/
def inOrder (changes : List (Place × FileTree.Change)) : List (Place × FileTree.Change) :=
  let isGone := fun (c : Place × FileTree.Change) => match c.2 with
    | .gone _ => true
    | _ => false
  sortBy (fun a b => decide (b.1.length < a.1.length)) (changes.filter isGone) ++
    sortBy (fun a b => decide (a.1.length < b.1.length)) (changes.filter fun c => !isGone c)

/-- How many processors the host has, as far as it tells. -/
def processors : IO Nat := do
  try
    let text ← IO.FS.readFile "/proc/cpuinfo"
    return max 1 ((Text.lines text).filter (Text.beginsWith "processor")).length
  catch _ => return 1

/-- A request is met on the disk. -/
def serve (env : Environment) (settings : Settings) (request : Request) : IO UInt32 := do
  let start := placeOf [] ⟨(← IO.currentDir).toString⟩
  let host : Host Unit :=
    { runner := Script.runner env, env, cpus := ← processors, scratch := ⟨"/tmp/.yailbuild"⟩
      time := "0.000" }
  let tree := FileTree.empty.putWithParents start .dir
  let tree ← loadAll start tree
    (Reach.configFile settings env :: (Reach.named request ++ (Reach.project? request).toList))
  let config := (Config.load tree start (Reach.configFile settings env)).toOption.getD {}
  let tree ← loadAll start tree (Reach.configured config env)
  let tree ← loadAll start tree
    (((Reach.project? request).map (Reach.ofProject tree start)).getD [])
  let finished := host.execute settings request start () tree
  (inOrder (FileTree.changes tree finished.tree [])).forM apply
  IO.print finished.stdout
  IO.eprint finished.stderr
  return UInt32.ofNat finished.exit

end ApkForge.Disk

/-- The program with its arguments. -/
def main (args : List String) : IO UInt32 := do
  let env ← ApkForge.Disk.environment
  match ApkForge.CommandLine.parse env args with
  | .error usage =>
    IO.print usage.streams.1
    IO.eprint usage.streams.2
    return UInt32.ofNat usage.exit
  | .ok (_, none) =>
    IO.print ApkForge.CommandLine.helpText
    return 0
  | .ok (settings, some request) => ApkForge.Disk.serve env settings request
