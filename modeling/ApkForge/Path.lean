-- Paths as text. A path keeps the text it was written with, and is read as a list of parts; two
-- texts with the same parts name the same file. Nothing here looks at any file.
import ApkForge.Text.Split

namespace ApkForge

/-- A path, as it was written. -/
structure Path where
  text : String
deriving DecidableEq, Repr, Inhabited

namespace Path

/-! ## Parts -/

/-- One part of a path: the root, a leading `.`, a step up, or a name. -/
inductive Part where
  | root
  | here
  | up
  | name (text : String)
deriving DecidableEq, Repr

/-- The text of a part. -/
def Part.text : Part → String
  | .root => "/"
  | .here => "."
  | .up => ".."
  | .name s => s

/-- The part that a segment after the first stands for. Empty segments and `.` stand for none. -/
def partOf : String → Option Part
  | "" => none
  | "." => none
  | ".." => some .up
  | s => some (.name s)

/-- The parts of a path cut at slashes. Only a first segment can be the root or `.`. -/
def partsOf : List String → List Part
  | [] => []
  | [""] => []
  | "" :: rest => .root :: rest.filterMap partOf
  | "." :: rest => .here :: rest.filterMap partOf
  | segments => segments.filterMap partOf

/-- The parts of a path. -/
def parts (p : Path) : List Part := partsOf (Text.split '/' p.text)

/-- A path starts at the root. -/
def isAbsolute (p : Path) : Bool := Text.beginsWith "/" p.text

/-- Two paths name the same file for every tree: they have the same parts. -/
def same (p q : Path) : Bool := p.parts == q.parts

/-- Parts written as a path, with single slashes. -/
def ofParts : List Part → Path
  | .root :: rest => ⟨"/" ++ Text.join "/" (rest.map Part.text)⟩
  | parts => ⟨Text.join "/" (parts.map Part.text)⟩

/-! ## Growing a path -/

/-- The path below `p` that `q` names. An absolute `q` stands alone. -/
def join (p : Path) (q : String) : Path :=
  if Text.beginsWith "/" q then ⟨q⟩
  else if p.text == "" || Text.endsWith "/" p.text then ⟨p.text ++ q⟩
  else ⟨p.text ++ "/" ++ q⟩

/-- The path below `p` through several names. -/
def joinAll (p : Path) (names : List String) : Path := names.foldl join p

/-! ## Taking a path apart -/

/-- The last part, if it is a name. -/
def name? (p : Path) : Option String :=
  match p.parts.getLast? with
  | some (.name s) => some s
  | _ => none

/-- A file name as stem and extension. A name whose only dot comes first has no extension. -/
def cutExtension (name : String) : String × Option String :=
  match Text.cutLast? '.' name with
  | some (stem, ext) => if stem == "" then (name, none) else (stem, some ext)
  | none => (name, none)

/-- The extension of the file name, without its dot. -/
def extension? (p : Path) : Option String := p.name?.bind fun n => (cutExtension n).2

/-- A segment that names nothing: after the first, an empty one or `.`. -/
def isIdle (s : String) : Bool := s == "" || s == "."

/-- The segments, last first, without the idle ones at the end. -/
def dropIdle : List String → List String
  | [] => []
  | [s] => [s]
  | s :: t :: rest => if isIdle s then dropIdle (t :: rest) else s :: t :: rest

/-- The path that holds `p`; none for the empty path and the root. -/
def parent? (p : Path) : Option Path :=
  match dropIdle (Text.split '/' p.text).reverse with
  | [] => none
  | [""] => none
  | [_] => some ⟨""⟩
  | _ :: rest =>
    match (dropIdle rest).reverse with
    | [""] => some ⟨"/"⟩
    | segments => some ⟨Text.join "/" segments⟩

/-- The path with the extension of its file name replaced; an empty `ext` leaves none. A path
without a file name stays. -/
def withExtension (p : Path) (ext : String) : Path :=
  match p.name?, dropIdle (Text.split '/' p.text).reverse with
  | some name, _ :: rest =>
    let stem := (cutExtension name).1
    let last := if ext == "" then stem else stem ++ "." ++ ext
    ⟨Text.join "/" (rest.reverse ++ [last])⟩
  | _, _ => p

/-- The parts of `p` below `base`, if `p` lies there. -/
def below? (base p : Path) : Option (List Part) := Text.dropHead? base.parts p.parts

/-- The text of `p` seen from `base`, if `p` lies below it. -/
def relative? (base p : Path) : Option String :=
  (below? base p).map fun parts => Text.join "/" (parts.map Part.text)

/-! ## Normal form -/

/-- One part laid on a normal path, whose last part comes first: `.` stays away, and `..` takes
back a name, stops at the root, and otherwise piles up. -/
def settle (stack : List Part) : Part → List Part
  | .here => stack
  | .up =>
    match stack with
    | .name _ :: rest => rest
    | .root :: _ => stack
    | _ => .up :: stack
  | .root => [.root]
  | .name s => .name s :: stack

/-- The parts of the normal form, last first. -/
def settled (parts : List Part) : List Part := parts.foldl settle []

/-- The path without `.` and without `..` after a name. The empty path is `.`. -/
def normalize (p : Path) : Path :=
  match (settled p.parts).reverse with
  | [] => ⟨"."⟩
  | parts => ofParts parts

end Path

end ApkForge
