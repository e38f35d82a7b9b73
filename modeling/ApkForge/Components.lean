-- The components that an app uses: which of them the catalog knows, which are extensions, and
-- where the files of each come from.
import ApkForge.Catalog
import ApkForge.Workspace

namespace ApkForge

/-- The types that an app uses, built in or from extensions. -/
structure ComponentSets where
  builtin : NameSet
  extensions : NameSet
deriving Inhabited

namespace ComponentSets

/-- No types. -/
def none : ComponentSets := ⟨NameSet.empty, NameSet.empty⟩

/-- One more type, which is built in when the catalog has it. -/
def add (catalog : Catalog) (s : ComponentSets) (typeName : String) : ComponentSets :=
  if catalog.contains typeName then { s with builtin := s.builtin.insert typeName }
  else { s with extensions := s.extensions.insert typeName }

/-- The requested types, parted by the catalog. -/
def partition (requested : List String) (catalog : Catalog) : ComponentSets :=
  requested.foldl (add catalog) none

/-- The app uses a type. -/
def uses (s : ComponentSets) (typeName : String) : Bool :=
  s.builtin.contains typeName || s.extensions.contains typeName

/-- The app uses a type that is built in. -/
def hasBuiltin (s : ComponentSets) (typeName : String) : Bool := s.builtin.contains typeName

end ComponentSets

/-- Where the file of a component comes from. -/
inductive Origin where
  | builtin
  | extension
deriving DecidableEq, Repr

namespace Components

/-- A file of a component: a runtime file for a type that is built in, a file of its directory for
an extension. -/
def resolve (sets : ComponentSets) (typeName relative : String) : Task Cause (Path × Origin) :=
  if sets.hasBuiltin typeName then do
    let path ← Task.explain .resource (Resources.get ("files/" ++ relative))
    return (path, .builtin)
  else if sets.extensions.contains typeName then do
    let path ← Task.explain .locator (Locator.file typeName relative)
    return (path, .extension)
  else throw (.unknownType typeName)

/-- The build infos of extensions, those already `read` left out. A descriptor that several types
share is read once. -/
def loadInfos : List String → List Path → Task BuildError (List ComponentInfo)
  | [], _ => return []
  | typeName :: rest, read => do
    let fail := BuildError.stage .extensions
    let path ← Task.explain (fun e => fail (.locator e)) (Locator.descriptor typeName)
    if read.any path.same then loadInfos rest read
    else do
      let text ← Task.explain (fun e => fail (.files e)) (Task.readText path)
      match ComponentInfo.parseDescriptor path.text text with
      | .error e => throw (fail (.catalog e))
      | .ok infos => return infos ++ (← loadInfos rest (path :: read))

/-- The build infos of all extensions that an app uses. -/
def extensionInfos (sets : ComponentSets) : Task BuildError (List ComponentInfo) :=
  loadInfos sets.extensions.toList []

/-- The runtime file that holds the catalog. -/
def catalogFile : String := "files/simple_components_build_info.json"

/-- The catalog among the runtime files. -/
def loadCatalog : Task BuildError Catalog := do
  let fail := BuildError.stage .extensions
  let text ← Task.explain (fun e => fail (.resource e)) (Resources.readText catalogFile)
  match Catalog.parse catalogFile text with
  | .error e => throw (fail (.catalog e))
  | .ok catalog => return catalog

end Components

end ApkForge
