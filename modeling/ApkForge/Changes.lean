-- What has changed between two trees: the entries below a place that are new, changed or gone.
import ApkForge.FileTree
import ApkForge.Sorting

namespace ApkForge.FileTree

/-- How an entry differs between two trees. -/
inductive Change where
  | added (entry : Entry)
  | changed (entry : Entry)
  | gone (entry : Entry)
deriving DecidableEq, Repr

/-- The entries below a place, by their places seen from there. -/
def entriesBelow (tree : FileTree) (place : Place) : List (Place × Entry) :=
  tree.entries.filterMap fun (p, entry) =>
    match Text.dropHead? place p with
    | some (n :: ns) => some (n :: ns, entry)
    | _ => none

/-- A file and another one of the same content, or two directories. -/
def sameContent : Entry → Entry → Bool
  | .file a _, .file b _ => a == b
  | .dir, .dir => true
  | .sink, .sink => true
  | _, _ => false

/-- An entry that makes way for one of the other kind is gone, and the other is new. -/
def sameKind : Entry → Entry → Bool
  | .file _ _, .file _ _ => true
  | .dir, .dir => true
  | .sink, .sink => true
  | _, _ => false

/-- What has changed below a place. -/
def changes (before after : FileTree) (place : Place) : List (Place × Change) :=
  let old := before.entriesBelow place
  let new := after.entriesBelow place
  (old.filterMap fun (p, e) =>
    match new.lookup p with
    | some f => if sameKind e f then none else some (p, .gone e)
    | none => some (p, .gone e)) ++
  new.filterMap fun (p, e) =>
    match old.lookup p with
    | none => some (p, .added e)
    | some f =>
      if !sameKind f e then some (p, .added e)
      else if sameContent f e then none
      else some (p, .changed e)

/-- The path of an entry seen from the place; a directory ends with a slash. -/
def pathBelow (place : Place) (entry : Entry) : String :=
  Text.join "/" place ++ match entry with
    | .dir => "/"
    | _ => ""

/-- The size of a file, after a blank. -/
def sizeText : Entry → String
  | .file content _ => " " ++ toString content.length
  | _ => ""

/-- The path that a change is about. -/
def changedPath : Place × Change → String
  | (p, .added e) => pathBelow p e
  | (p, .changed e) => pathBelow p e
  | (p, .gone e) => pathBelow p e

/-- A change on a line: its sign, its path, and the size of what is there now. -/
def changeLine (change : Place × Change) : String :=
  match change.2 with
  | .added e => "+ " ++ changedPath change ++ sizeText e
  | .changed e => "~ " ++ changedPath change ++ sizeText e
  | .gone _ => "- " ++ changedPath change

/-- What has changed below a place, in the order of the paths. -/
def changeLines (before after : FileTree) (place : Place) : List String :=
  let sorted := sortBy (fun a b => decide (changedPath a < changedPath b))
    (changes before after place)
  sorted.map changeLine

end ApkForge.FileTree
