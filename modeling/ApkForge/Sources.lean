-- The source files of a project. A file's place below the source directory is its qualified name,
-- and that name says which class file it compiles to.
import ApkForge.Sorting
import ApkForge.Workspace

namespace ApkForge

/-- A source file and its qualified name. -/
structure SourceFile where
  qualifiedName : String
  path : Path
deriving DecidableEq, Repr, Inhabited

/-- The package of a qualified name; a name without dots is in the empty package. -/
def packageOf (qualifiedName : String) : String :=
  match Text.cutLast? '.' qualifiedName with
  | some (package, _) => package
  | none => ""

/-- The last part of a qualified name. -/
def unitOf (qualifiedName : String) : String :=
  match Text.cutLast? '.' qualifiedName with
  | some (_, unit) => unit
  | none => qualifiedName

namespace SourceFile

/-- The last part of the qualified name. -/
def unitName (s : SourceFile) : String := unitOf s.qualifiedName

/-- The class file of a source, below the directory of classes. -/
def classFile (s : SourceFile) : Path :=
  (Path.joinAll ⟨""⟩ (Text.split '.' s.qualifiedName)).withExtension "class"

/-! ## Discovery -/

/-- The extension of source files. -/
def sourceExtension : String := "yail"

/-- The files below a directory, by their names from that directory down: entries of a directory in
ascending order, each with all below it. The depth of the tree bounds the walk. -/
def filesBelow (tree : FileTree) : Nat → Place → List String → List (List String)
  | 0, _, _ => []
  | fuel + 1, dir, names =>
    (sortBy (fun m n => m < n) (tree.children dir)).flatMap fun name =>
      match tree.at? (dir ++ [name]) with
      | some .dir => filesBelow tree fuel (dir ++ [name]) (names ++ [name])
      | some (.file _ _) => [names ++ [name]]
      | _ => []

/-- The qualified name of a file below the source directory: its names, the last without the
extension. A file name of dots alone keeps the dot before its extension. -/
def qualifiedNameOf (names : List String) : String :=
  let stem := (Path.cutExtension (names.getLast?.getD "")).1
  Text.join "." (names.dropLast ++ [if stem == "." then ".." else stem])

/-- The sources below a directory, by qualified name. -/
def discover (tree : FileTree) (start : Place) (dir : Path) : Except FilesError (List SourceFile) :=
  match tree.stat start dir with
  | .ok (place, .dir) =>
    let found := filesBelow tree (tree.entries.length + 1) place []
    let sources := found.filter fun names =>
      (names.getLast?.bind fun name => (Path.cutExtension name).2) == some sourceExtension
    .ok (sortBy (fun s t => s.qualifiedName < t.qualifiedName)
      (sources.map fun names => ⟨qualifiedNameOf names, dir.joinAll names⟩))
  | _ => .error (.notRead dir (.said "source directory does not exist"))

end SourceFile

end ApkForge
