-- The host's programs that show what files there are and what is known of them.
import ApkForge.Script.Builtin.Variables
import ApkForge.Script.Program.Making

namespace ApkForge.Script.Program

open Work

/-! ## Listing -/

/-- The size of what stands at a place. -/
def sizeOf : Kind → Nat
  | .file content _ => content.length
  | .dir => 4096
  | .link target => target.utf8ByteSize
  | _ => 0

/-- The letter of a kind of file. -/
def kindLetter : Kind → Char
  | .dir => 'd'
  | .link _ => 'l'
  | .device _ => 'c'
  | _ => '-'

/-- A name as a listing shows it, with a sign for what it is. -/
def listedName (m : Machine) (c : Call) (place : Place) (kind : Kind) (name : String) : String :=
  let sign := match kind with
    | .dir => if c.has 'F' || c.has 'p' then "/" else ""
    | .link _ => if c.has 'F' then "@" else ""
    | .file _ _ => if c.has 'F' && m.world.disk.mode place &&& 73 != 0 then "*" else ""
    | _ => ""
  let name := if c.has 'q' then name.map fun ch => if ch.toNat < 32 then '?' else ch else name
  (if c.has 'Q' then Builtin.inDoubleQuotes name else name) ++ sign

/-- A text brought to a width from the left. -/
def toRight (width : Nat) (text : String) : String :=
  String.ofList (List.replicate (width - text.length) ' ') ++ text

/-- A file that is listed. -/
structure Listed where
  name : String
  place : Place
  kind : Kind

/-- Files in the order of a listing. -/
def ordered (m : Machine) (c : Call) (files : List Listed) : List Listed :=
  let disk := m.world.disk
  let byName := sortBy (fun (a b : Listed) => decide (a.name < b.name)) files
  let sorted := if c.has 'U' || c.has 'f' then files
    else match c.last? "tS" with
      | some 't' =>
        sortBy (fun (a b : Listed) => decide (disk.stampAt b.place < disk.stampAt a.place)) byName
      | some 'S' => sortBy (fun (a b : Listed) => decide (sizeOf b.kind < sizeOf a.kind)) byName
      | _ => byName
  if c.has 'r' then sorted.reverse else sorted

/-- When a place was changed, with the time of day for the last half year and the year else. -/
def changedText (w : World) (place : Place) : String :=
  let changed := w.changedAt place
  let isRecent := w.now - 15778476 < changed && changed ≤ w.now
  Calendar.shown changed (if isRecent then "%b %e %H:%M" else "%b %e  %Y")

/-- The lines that show files. -/
def listingLines (m : Machine) (c : Call) (files : List Listed) : List String :=
  let shown := files.map fun f => listedName m c f.place f.kind f.name
  if c.has 'l' then
    let widest := ((files.map fun f => (toString (sizeOf f.kind)).length)).foldl max 0
    files.map fun f =>
      let links := match f.kind with
        | .dir => "2"
        | _ => "1"
      let target := match f.kind with
        | .link target => " -> " ++ Octet.ofText target
        | _ => ""
      String.singleton (kindLetter f.kind) ++ modeLetters (m.world.disk.mode f.place) ++ " " ++
          links ++
        " root root " ++ toRight widest (toString (sizeOf f.kind)) ++ " " ++
        changedText m.world f.place ++ " " ++ listedName m c f.place f.kind f.name ++
        target
  else if c.has 'm' then
    if shown.isEmpty then [] else [Text.join ", " shown]
  else shown

/-- What is in a directory, as a listing shows it. -/
def inside (m : Machine) (c : Call) (place : Place) : List Listed :=
  let all := c.has 'a' || c.has 'f'
  let names := (m.world.disk.names place).filter fun name =>
    all || c.has 'A' || !Text.beginsWith "." name
  let dots := if all then [⟨".", place, .dir⟩, ⟨"..", place.dropLast, .dir⟩] else []
  ordered m c (dots ++ names.map fun name =>
    let next := place ++ [Octet.toText name]
    ⟨name, next, (m.world.disk.at? next).getD .dir⟩)

/-- The parts of a listing for a directory: its own, and with `-R` those of the directories in
it. -/
def directoryParts (m : Machine) (c : Call) (headed : Bool) : Nat → String → Place → List String
  | 0, _, _ => []
  | fuel + 1, path, place =>
    let files := inside m c place
    let heading := if headed then path ++ ":\n" else ""
    let total := if c.has 'l' then "total " ++
        toString ((files.map fun f => (sizeOf f.kind + 4095) / 4096 * 4).foldl (· + ·) 0) ++ "\n"
      else ""
    let own := heading ++ total ++ Octet.unlines (listingLines m c files)
    if !c.has 'R' then [own]
    else
      let dirs := files.filter fun f => f.kind == .dir && f.name != "." && f.name != ".."
      own :: dirs.flatMap fun f => directoryParts m c true fuel (below path f.name) f.place

/-- The options of listings. -/
def listOptions : Options :=
  { flags := "aAdlhrtRSFp1UfmiskgoGnNqQLHCxcuvXbD"
    valued := "wI"
    long := [("all", 'a'), ("almost-all", 'A'), ("directory", 'd'), ("recursive", 'R'),
      ("reverse", 'r'), ("color", 'K'), ("classify", 'F'), ("human-readable", 'h'),
      ("quote-name", 'Q'), ("ignore", 'I'), ("group-directories-first", 'E'), ("time-style", 'Y'),
      ("format", 'V'), ("sort", 'W')] }

/-- Files by their names and directories by the names in them. -/
def ls (self : String) (args : List String) : Work Unit :=
  calledOr (misusedAs 2 self) listOptions args fun c => do
    let m ← get
    let paths := if c.operands.isEmpty then ["."] else c.operands
    ends 0
    let found ← paths.filterMapM fun path => do
      let followed := m.stat path
      let seen := if c.has 'l' || c.has 'd' || c.has 'F' then m.stat path false else followed
      let seen := match seen with
        | .error _ => m.stat path false
        | found => found
      match seen with
      | .ok (place, kind) => return some (⟨path, place, kind⟩ : Listed)
      | .error fault =>
        tells self ("cannot access " ++ named path ++ ": " ++ Streams.words fault)
        ends 2
        return none
    let sorted := ordered m c found
    let isDir := fun (f : Listed) => f.kind == .dir && !c.has 'd'
    let files := listingLines m c (sorted.filter fun f => !isDir f)
    let headed := paths.length > 1 || c.has 'R'
    let dirs := (sorted.filter isDir).flatMap fun f => directoryParts m c headed 200 f.name f.place
    let parts := (if files.isEmpty then [] else [Octet.unlines files]) ++ dirs
    print (Text.join "\n" parts)

/-! ## Links and places -/

/-- The place that a path leads to, where the last names need not exist. -/
def resolved (m : Machine) (needs : Char) (path : String) : Except FileFault Place := do
  let arrival := m.world.disk.walk m.here path
  match needs with
  | 'm' =>
    let origin := if Text.beginsWith "/" path then [] else m.here
    let step := fun (place : Place) (segment : String) =>
      if segment == "" || segment == "." then place
      else if segment == ".." then place.dropLast
      else match m.world.disk.follow true 20000 Disk.mostLinks place [segment] with
        | .ok next => next
        | .error _ => place ++ [segment]
    return (Text.split '/' (Octet.toText path)).foldl step origin
  | 'e' => return (← m.stat path).1
  | _ =>
    let place := (← arrival).place
    if place != [] then m.world.disk.stand place.dropLast
    return place

/-- What a link leads to is shown, or the place that it ends at. -/
def readlink (self : String) (args : List String) : Work Unit :=
  called self { flags := "fenmqsvz", long := [("canonicalize", 'f'),
    ("canonicalize-existing", 'e'), ("canonicalize-missing", 'm'), ("no-newline", 'n'),
    ("quiet", 'q'), ("silent", 's'), ("verbose", 'v'), ("zero", 'z')] } args fun c => do
    if c.operands.isEmpty then misused self "missing operand"
    else
      ends 0
      let finish := if c.has 'n' && c.operands.length == 1 then "" else if c.has 'z' then "\x00"
        else "\n"
      c.operands.forM fun path => do
        let m ← get
        let text : Except FileFault String := match c.last? "fem" with
          | some needs => (resolved m needs path).map Disk.pathOf
          | none =>
            match m.stat path false with
            | .ok (_, .link target) => .ok (Octet.ofText target)
            | .ok _ => .error .invalidArgument
            | .error fault => .error fault
        match text with
        | .ok text => print (text ++ finish)
        | .error fault =>
          if c.has 'v' then tells self (namedFirst path ++ ": " ++ Streams.words fault)
          ends 1

/-- A place as seen from another one. -/
def relativeTo (origin place : Place) : String :=
  let shared := ((origin.zip place).takeWhile fun p => p.1 == p.2).length
  let ups := List.replicate (origin.length - shared) ".."
  let names := ups ++ (place.drop shared).map Octet.ofText
  if names.isEmpty then "." else Text.join "/" names

/-- Places are shown as absolute paths, or as seen from a directory. -/
def realpath (self : String) (args : List String) : Work Unit :=
  called self { flags := "emLPqsz", valued := "RB", long := [("canonicalize-existing", 'e'),
    ("canonicalize-missing", 'm'), ("quiet", 'q'), ("strip", 's'), ("no-symlinks", 's'),
    ("relative-to", 'R'), ("relative-base", 'B'), ("zero", 'z')] } args fun c => do
    if c.operands.isEmpty then misused self "missing operand"
    else
      ends 0
      c.operands.forM fun path => do
        let m ← get
        let place := if c.has 's' then
            let origin := if Text.beginsWith "/" path then [] else m.here
            .ok ((Text.split '/' (Octet.toText path)).foldl (fun (place : Place) segment =>
              if segment == "" || segment == "." then place
              else if segment == ".." then place.dropLast else place ++ [segment]) origin)
          else resolved m ((c.last? "em").getD 'f') path
        match place with
        | .ok place =>
          match (c.value? 'R').bind fun dir => (resolved m 'm' dir).toOption with
          | some origin => printLine (relativeTo origin place)
          | none => printLine (Disk.pathOf place)
        | .error fault =>
          if !c.has 'q' then tells self (namedFirst path ++ ": " ++ Streams.words fault)
          ends 1

/-! ## What is known of files -/

/-- The words for a kind of file. -/
def kindWords : Kind → String
  | .dir => "directory"
  | .link _ => "symbolic link"
  | .device _ => "character special file"
  | .file content _ => if content.isEmpty then "regular empty file" else "regular file"
  | .program _ => "regular file"

/-- What a letter of a form stands for. -/
def statLetter (m : Machine) (path : String) (place : Place) (kind : Kind) (c : Char) : String :=
  let mode := m.world.disk.mode place
  match c with
  | 'n' => path
  | 's' => toString (sizeOf kind)
  | 'a' => String.ofList (Nat.toDigits 8 mode)
  | 'A' => String.singleton (kindLetter kind) ++ modeLetters mode
  | 'F' => kindWords kind
  | 'u' => "0"
  | 'g' => "0"
  | 'U' => "root"
  | 'G' => "root"
  | 'h' => "1"
  | 'N' => named path
  | 'x' => Calendar.shown (m.world.changedAt place) "%F %T.%N %z"
  | 'y' => Calendar.shown (m.world.changedAt place) "%F %T.%N %z"
  | 'z' => Calendar.shown m.world.now "%F %T.%N %z"
  | 'X' => toString (m.world.changedAt place)
  | 'Y' => toString (m.world.changedAt place)
  | 'Z' => toString m.world.now
  | '%' => "%"
  | c => "%" ++ String.singleton c

/-- A form with what its letters stand for. -/
def statForm (letter : Char → String) : List Char → String
  | [] => ""
  | '%' :: c :: cs => letter c ++ statForm letter cs
  | c :: cs => String.singleton c ++ statForm letter cs

/-- What is known of files is shown in a form. -/
def stat (self : String) (args : List String) : Work Unit :=
  called self { flags := "Lft", valued := "cP", long := [("format", 'c'), ("printf", 'P'),
    ("dereference", 'L'), ("terse", 't'), ("file-system", 'f')] } args fun c =>
    forSome self "operand" (fun path => do
      let m ← get
      match m.stat path (c.has 'L') with
      | .error fault => return some ("cannot statx " ++ named path ++ ": " ++ Streams.words fault)
      | .ok (place, kind) =>
        let letter := statLetter m path place kind
        match c.value? 'P', c.value? 'c' with
        | some form, _ =>
          let (cs, _) := Printing.unescape .program (form.length + 1) form.toList
          print (statForm letter cs)
        | none, form =>
          printLine (statForm letter (form.getD "  File: %n\n  Size: %s  %F").toList)
        return none) c.operands

end ApkForge.Script.Program
