-- What a build works on: the tree of files, the cache of runtime files and the memory of where
-- extensions were found. Tasks change it and may fail; what a task did before it failed stays.
import ApkForge.Fault

namespace ApkForge

/-- The cache of runtime files. A file is copied once to a private directory and found there
from then on. -/
structure Resources where
  root : Path
  scratch : Path
  held : List (String × Path) := []
  copies : Nat := 0
deriving Inhabited

/-- Where extensions are looked for, and where they were found. -/
structure Locator where
  root : Path
  found : List (String × Path) := []
  probes : Nat := 0
deriving Inhabited

/-- The tree and the memories of one build, with the directory that relative paths start at. -/
structure Workspace where
  start : Place
  tree : FileTree
  resources : Resources
  locator : Locator
deriving Inhabited

/-- Work on a workspace that may fail with an `ε`. -/
abbrev Task (ε α : Type) := ExceptT ε (StateM Workspace) α

namespace Task

/-- The task with its failures explained in other terms. -/
def explain {ε δ α : Type} (f : ε → δ) (task : Task ε α) : Task δ α := ExceptT.adapt f task

/-- A question about the workspace, which changes nothing. -/
def ask {ε α : Type} (f : Workspace → α) : Task ε α := do return f (← get)

/-- A change of the tree that may fail; a failed change leaves the tree as it was. -/
def change {ε : Type} (f : Place → FileTree → Except ε FileTree) : Task ε Unit := do
  let w ← get
  match f w.start w.tree with
  | .ok tree => set { w with tree }
  | .error e => throw e

/-- A path names a file. -/
def isFile {ε : Type} (p : Path) : Task ε Bool := ask fun w => w.tree.isFile w.start p

/-- A path names a directory. -/
def isDir {ε : Type} (p : Path) : Task ε Bool := ask fun w => w.tree.isDir w.start p

/-- A directory with all above it. -/
def makeDirs (p : Path) : Task FilesError Unit := do
  let w ← get
  let (result, tree) := w.tree.makeDirs w.start p
  set { w with tree }
  match result with
  | .ok () => return ()
  | .error fault => throw (.notMade p fault)

/-- The directory that a path lies in, with all above it. -/
def makeParent (p : Path) : Task FilesError Unit :=
  match p.parent? with
  | some parent => makeDirs parent
  | none => return ()

/-- A file with its content, in a directory made for it. -/
def writeBytes (p : Path) (content : Bytes) : Task FilesError Unit := do
  makeParent p
  change fun start tree => (tree.write start p content).mapError (.notWritten p)

/-- A file with a text. -/
def writeText (p : Path) (text : String) : Task FilesError Unit := writeBytes p (Utf8.encode text)

/-- The bytes of a file. -/
def readBytes (p : Path) : Task FilesError Bytes := do
  let w ← get
  match w.tree.read w.start p with
  | .ok bytes => return bytes
  | .error fault => throw (.notRead p fault)

/-- The text of a file. -/
def readText (p : Path) : Task FilesError String := do
  let w ← get
  match w.tree.readText w.start p with
  | .ok text => return text
  | .error fault => throw (.notRead p fault)

/-- A file copied to another place, in a directory made for it. -/
def copy (source target : Path) : Task FilesError Unit := do
  makeParent target
  change fun start tree => (tree.copy start source target).mapError (.notCopied source target)

/-- A file removed, if it is there. -/
def removeFile (p : Path) : Task FilesError Unit := do
  if (← ask fun w => w.tree.hasEntry w.start p) then
    change fun start tree => (tree.removeFile start p).mapError (.notRemoved p)

/-- A directory that is there removed with all below it. -/
def clearAway (p : Path) : Task FilesError Unit := do
  let w ← get
  let (result, tree) := w.tree.removeDir w.start p
  set { w with tree }
  match result with
  | .ok () => return ()
  | .error fault => throw (.dirNotRemoved p fault)

/-- A directory removed with all below it, if it is there. -/
def removeDir (p : Path) : Task FilesError Unit := do
  if (← ask fun w => w.tree.hasEntry w.start p) then clearAway p

end Task

/-! ## Runtime files -/

namespace Resources

/-- The key of a runtime file: its name without slashes in front. -/
def key (logical : String) : String :=
  String.ofList (logical.toList.dropWhile (· == '/'))

/-- Where a runtime file is kept. -/
def source (r : Resources) (logical : String) : Path := r.root.join (key logical)

/-- A cache over `root`, with its private directory made. -/
def opened (root scratch : Path) (tree : FileTree) : Resources × FileTree :=
  ({ root, scratch }, (tree.makeDirs [] scratch).2)

/-- The tree after the private directory is gone. -/
def closed (r : Resources) (tree : FileTree) : FileTree :=
  (tree.removeDir [] r.scratch).2

/-- A runtime file is there. -/
def has (logical : String) (w : Workspace) : Bool :=
  w.tree.isFile w.start (w.resources.source logical)

/-- The private copy of a runtime file, made on first use. -/
def get (logical : String) : Task ResourceError Path := do
  let w ← MonadState.get
  let r := w.resources
  let k := key logical
  match r.held.lookup k with
  | some path => return path
  | none =>
    let source := r.source k
    if !w.tree.isFile w.start source then throw (.notFound k source)
    let target := (r.scratch.join (toString r.copies)).join (source.name?.getD "resource")
    set { w with resources := { r with copies := r.copies + 1 } }
    Task.explain (.notMaterialized k) do
      Task.copy source target
      Task.change fun start tree =>
        (tree.makeExecutable start target).mapError (.notCopied source target)
    modify fun w => { w with resources := { w.resources with held := (k, target) :: r.held } }
    return target

/-- The text of a runtime file. -/
def readText (logical : String) : Task ResourceError String := do
  let w ← MonadState.get
  let source := w.resources.source logical
  match w.tree.readText w.start source with
  | .ok text => return text
  | .error _ => throw (.notFound (key logical) source)

end Resources

/-! ## Extensions -/

namespace Locator

/-- The directory of an extension that holds its files. -/
def filesDirName : String := "files"

/-- A locator over the assets of a project. -/
def ofAssets (assetsDir : Path) : Locator := { root := assetsDir.join "external_comps" }

/-- The directories in which an extension may lie: its own, then that of its package. -/
def candidates (l : Locator) (component package : String) : List Path :=
  [l.root.join component, l.root.join package]

/-- A candidate counts when it holds a directory of files. -/
def accepts (w : Workspace) (candidate : Path) : Bool :=
  w.tree.isDir w.start (candidate.join filesDirName)

/-- The first candidate that counts, with the number of candidates looked at. -/
def search (w : Workspace) : List Path → Nat → Option Path × Nat
  | [], n => (none, n)
  | c :: rest, n => if accepts w c then (some c, n + 1) else search w rest (n + 1)

/-- The directory of an extension. Once found it is not looked for again. -/
def locate (component : String) : Task LocatorError Path := do
  let w ← MonadState.get
  let l := w.locator
  match l.found.lookup component with
  | some dir => return dir
  | none =>
    match Text.cutLast? '.' component with
    | none => throw (.unqualified component)
    | some (package, _) =>
      let tried := l.candidates component package
      let (dir?, probes) := search w tried l.probes
      match dir? with
      | some dir =>
        set { w with locator := { l with probes, found := (component, dir) :: l.found } }
        return dir
      | none =>
        set { w with locator := { l with probes } }
        throw (.notFound component tried)

/-- The directory of an extension's files. -/
def filesDir (component : String) : Task LocatorError Path := do
  return (← locate component).join filesDirName

/-- The names of the two descriptors, the one for several components first. -/
def descriptorNames : List String := ["component_build_infos.json", "component_build_info.json"]

/-- The descriptor of an extension. -/
def descriptor (component : String) : Task LocatorError Path := do
  let files ← filesDir component
  let w ← MonadState.get
  match (descriptorNames.map files.join).find? fun p => w.tree.isFile w.start p with
  | some p => return p
  | none => throw (.descriptorMissing component files)

/-- The archive of an extension's code. It need not be there. -/
def runtimeJar (component : String) : Task LocatorError Path := do
  return (← filesDir component).join "AndroidRuntime.jar"

/-- A file of an extension. It need not be there. -/
def file (component relative : String) : Task LocatorError Path := do
  return (← filesDir component).join relative

end Locator

/-- A workspace over a tree. Its cache has `scratch` for itself. -/
def Workspace.opened (start : Place) (tree : FileTree) (filesDir scratch : Path) : Workspace :=
  let (resources, tree) := Resources.opened filesDir scratch tree
  { start, tree, resources, locator := Locator.ofAssets ⟨""⟩ }

end ApkForge
