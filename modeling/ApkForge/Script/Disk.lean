-- Files as a script finds them. Over the tree lie what only scripts know of: symbolic links,
-- devices, the host's own programs, modes and times. When a script has ended only the tree is left,
-- where a link has become what it led to.
import ApkForge.FileTree
import ApkForge.Sorting
import ApkForge.Script.Octet

namespace ApkForge.Script

/-- A device: one that swallows all, one that gives zeros, one that is always full, or a stream that
is open already. -/
inductive Device where
  | sink
  | zero
  | full
  | stream (number : Nat)
deriving DecidableEq, Repr

/-- What a script finds at a place. -/
inductive Kind where
  | file (content : Bytes) (executable : Bool)
  | dir
  | device (device : Device)
  | program (name : String)
  | link (target : String)
deriving DecidableEq, Repr

/-- The programs of the host. -/
def hostPrograms : List String :=
  ["sh", "dash", "bash", "[", "arch", "awk", "base64", "basename", "cat", "chmod", "cksum",
    "cmp", "comm", "cp", "cut", "date", "dd", "diff", "dirname", "echo", "egrep", "env", "expand",
    "expr", "false", "fgrep", "find", "fold", "grep", "head", "hostname", "id", "install",
    "join", "link", "ln", "ls", "mawk", "md5sum", "mkdir", "mktemp", "mv", "nice", "nl", "nohup",
    "nproc", "od", "paste", "printenv", "printf", "pwd", "readlink", "realpath", "rev", "rm",
    "rmdir", "sed", "seq", "sha1sum", "sha256sum", "sleep", "sort", "stat", "sync", "tac",
    "tail", "tee", "test", "timeout", "touch", "tr", "true", "truncate", "tty", "uname",
    "unexpand", "uniq",
    "unlink", "wc", "which", "whoami", "xargs", "yes"]

/-- The directories of the host's own programs. -/
def programDirectories : List Place := [["bin"], ["usr", "bin"]]

/-- The device at a place. -/
def device? : Place → Option Device
  | ["dev", "null"] => some .sink
  | ["dev", "zero"] => some .zero
  | ["dev", "full"] => some .full
  | ["dev", "stdin"] => some (.stream 0)
  | ["dev", "stdout"] => some (.stream 1)
  | ["dev", "stderr"] => some (.stream 2)
  | ["dev", "fd", number] => number.toNat?.map Device.stream
  | ["proc", "self", "fd", number] => number.toNat?.map Device.stream
  | _ => none

/-- The directories of the devices that are streams. -/
def streamDirectories : List Place := [["dev", "fd"], ["proc", "self"], ["proc", "self", "fd"]]

/-- The host's program at a place. -/
def hostProgram? (place : Place) : Option String := do
  let name ← place.getLast?
  if programDirectories.contains place.dropLast && hostPrograms.contains name then
      some name else none

/-- Files with all that scripts know of them. `stamps` are the times of changes, in millionths of a
second since the start; each change that is made takes one of them. -/
structure Disk where
  tree : FileTree
  links : List (Place × String) := []
  modes : List (Place × Nat) := []
  stamps : List (Place × Int) := []
  changes : Nat := 0
deriving Inhabited

namespace Disk

/-! ## By place -/

/-- What stands at a place. -/
def at? (d : Disk) (place : Place) : Option Kind :=
  match d.tree.at? place with
  | some (.file content executable) => some (.file content executable)
  | some .dir => some .dir
  | some .sink => some (.device .sink)
  | none =>
    match d.links.lookup place with
    | some target => some (.link target)
    | none =>
      if streamDirectories.contains place then some .dir
      else ((device? place).map Kind.device).or ((hostProgram? place).map Kind.program)

/-- The rights that a file has unless it was given others. -/
def usualMode : Kind → Nat
  | .file _ executable => if executable then 493 else 420
  | .link _ => 511
  | .device _ => 438
  | _ => 493

/-- The rights at a place. -/
def mode (d : Disk) (place : Place) : Nat :=
  (d.modes.lookup place).getD (((d.at? place).map usualMode).getD 0)

/-- When a place was changed last. -/
def stampAt (d : Disk) (place : Place) : Int := (d.stamps.lookup place).getD 0

/-- A place is changed at a time. -/
def stamped (d : Disk) (place : Place) (stamp : Int) : Disk :=
  { d with stamps := (place, stamp) :: d.stamps.filter fun s => s.1 != place }

/-- A place is changed now. -/
def touch (d : Disk) (place : Place) : Disk :=
  { d with changes := d.changes + 1 }.stamped place (Int.ofNat (d.changes + 1))

/-- A place and all below it are changed now. -/
def touchAll (d : Disk) (place : Place) : Disk :=
  let stamps := d.stamps.filter fun s => (Text.dropHead? place s.1).isNone
  let touched := (d.tree.entries.map Prod.fst ++ d.links.map Prod.fst).filter fun p =>
    (Text.dropHead? place p).isSome
  { d with changes := d.changes + 1
           stamps := touched.map (·, Int.ofNat (d.changes + 1)) ++ stamps }

/-- A place with rights of its own. -/
def setMode (d : Disk) (place : Place) (mode : Nat) : Disk :=
  let modes := (place, mode) :: d.modes.filter fun m => m.1 != place
  match d.tree.at? place with
  | some (.file content _) =>
    { d with modes, tree := d.tree.put place (.file content (mode &&& 73 != 0)) }
  | _ => { d with modes }

/-- A file with new content. What is no file stays as it is. -/
def write (d : Disk) (place : Place) (content : Bytes) : Disk :=
  match d.tree.at? place with
  | some (.file _ executable) =>
    { d with tree := d.tree.put place (.file content executable) }.touch place
  | some _ => d
  | none => { d with tree := d.tree.put place (.file content false) }.touch place

/-- A new directory. -/
def addDir (d : Disk) (place : Place) : Disk :=
  { d with tree := d.tree.put place .dir }.touch place

/-- Without a place and all below it. -/
def prune (d : Disk) (place : Place) : Disk :=
  let keep := fun (p : Place) => (Text.dropHead? place p).isNone
  { d with tree := d.tree.prune place, links := d.links.filter fun e => keep e.1
           modes := d.modes.filter fun e => keep e.1, stamps := d.stamps.filter fun e => keep e.1 }

/-- The names directly below a place, in order. -/
def names (d : Disk) (place : Place) : List String :=
  let links := d.links.filterMap fun l => match Text.dropHead? place l.1 with
    | some [name] => some name
    | _ => none
  sortBy (fun a b => decide (a < b)) ((d.tree.children place ++ links).map Octet.ofText)

/-- All that stands at and below one place at another as well. -/
def graft (d : Disk) (origin target : Place) : Disk :=
  let moved := fun (place : Place) => (Text.dropHead? origin place).map fun below => target ++ below
  let both := fun {α : Type} (entries : List (Place × α)) =>
    entries.filterMap (fun e => (moved e.1).map fun place => (place, e.2)) ++ entries
  let tree := d.tree.entries.foldl (fun tree e => match moved e.1 with
    | some place => tree.put place e.2
    | none => tree) d.tree
  { d with tree, links := both d.links, modes := both d.modes, stamps := both d.stamps }

/-! ## Walking a path -/

/-- How many links a path may lead through. -/
def mostLinks : Nat := 40

/-- A step is taken from a directory only. -/
def stand (d : Disk) (place : Place) : Except FileFault Unit :=
  match d.at? place with
  | some .dir => .ok ()
  | some _ => .error .notDirectory
  | none => .error .missing

/-- Segments walked from a place. A link in the middle is followed, one at the end only if
`followsLast`. -/
def follow (d : Disk) (followsLast : Bool) :
    Nat → Nat → Place → List String → Except FileFault Place
  | 0, _, _, _ => .error .tooManyLinks
  | _, _, place, [] => .ok place
  | fuel + 1, links, place, s :: rest =>
    if s == "" then follow d followsLast fuel links place rest
    else do
      d.stand place
      if s == "." then follow d followsLast fuel links place rest
      else if s == ".." then follow d followsLast fuel links place.dropLast rest
      else if s.utf8ByteSize > FileTree.longestName then throw .nameTooLong
      else
        let next := place ++ [s]
        match d.at? next with
        | some (.link target) =>
          if rest.isEmpty && !followsLast then return next
          else if links == 0 then throw .tooManyLinks
          else if target == "" then throw .missing
          else
            let origin := if Text.beginsWith "/" target then [] else place
            follow d followsLast fuel (links - 1) origin (Text.split '/' target ++ rest)
        | _ => follow d followsLast fuel links next rest

/-- Where a path leads. The last name need not exist. -/
def walk (d : Disk) (start : Place) (path : String) (followsLast : Bool := true) :
    Except FileFault FileTree.Arrival :=
  let path := Octet.toText path
  if path == "" then .error .missing
  else if path.utf8ByteSize > FileTree.longestPath then .error .nameTooLong
  else do
    let segments := Text.split '/' path
    let origin := if Text.beginsWith "/" path then [] else start
    let place ← d.follow followsLast (segments.length + 20000) mostLinks origin segments
    let last := segments.getLast?.getD ""
    return ⟨place, last == "" || last == "." || last == ".."⟩

/-- What a path names. -/
def stat (d : Disk) (start : Place) (path : String) (followsLast : Bool := true) :
    Except FileFault (Place × Kind) := do
  let arrival ← d.walk start path followsLast
  match d.at? arrival.place with
  | none => .error .missing
  | some .dir => .ok (arrival.place, .dir)
  | some kind => if arrival.wantsDir then .error .notDirectory else .ok (arrival.place, kind)

/-- A path names something. -/
def has (d : Disk) (start : Place) (path : String) : Bool := (d.stat start path).toOption.isSome

/-- A path names a directory. -/
def isDir (d : Disk) (start : Place) (path : String) : Bool :=
  match d.stat start path with
  | .ok (_, .dir) => true
  | _ => false

/-- The bytes of a file. -/
def read (d : Disk) (start : Place) (path : String) : Except FileFault Bytes := do
  match ← d.stat start path with
  | (_, .file content _) => return content
  | (_, .dir) => throw .isDirectory
  | _ => return []

/-- The place that something new takes, which must be free. -/
def free (d : Disk) (start : Place) (path : String) : Except FileFault FileTree.Arrival := do
  let arrival ← d.walk start path false
  if (d.at? arrival.place).isSome then throw .exists
  d.stand arrival.place.dropLast
  return arrival

/-- One new directory. -/
def makeDir (d : Disk) (start : Place) (path : String) : Except FileFault Disk := do
  return d.addDir (← d.free start path).place

/-- A new link. -/
def makeLink (d : Disk) (start : Place) (target path : String) : Except FileFault Disk := do
  let arrival ← d.free start path
  if arrival.wantsDir then throw .missing
  return { d with links := (arrival.place, Octet.toText target) :: d.links }.touch arrival.place

/-- The place that a file to be written takes, and what stands there. -/
def writable (d : Disk) (start : Place) (path : String) :
    Except FileFault (Place × Option Kind) := do
  let arrival ← d.walk start path
  match d.at? arrival.place with
  | some .dir => throw .isDirectory
  | some kind => if arrival.wantsDir then throw .notDirectory else return (arrival.place, some kind)
  | none =>
    d.stand arrival.place.dropLast
    if arrival.wantsDir then throw .isDirectory else return (arrival.place, none)

/-- The place of a path as an absolute path. -/
def pathOf (place : Place) : String := Octet.ofText ("/" ++ Text.join "/" place)

/-! ## The end -/

/-- The tree with a copy of what a link leads to in its place. -/
def settleLink (d : Disk) (tree : FileTree) (link : Place × String) : FileTree :=
  match d.follow true 20000 mostLinks link.1.dropLast (link.1.getLast?.toList) with
  | .error _ => tree
  | .ok origin =>
    match d.tree.at? origin with
    | some (.file content executable) => tree.put link.1 (.file content executable)
    | some .dir => d.tree.entries.foldl (fun tree e => match Text.dropHead? origin e.1 with
        | some below => tree.put (link.1 ++ below) e.2
        | none => tree) tree
    | _ => tree

/-- The tree that is left. -/
def settled (d : Disk) : FileTree := d.links.foldl d.settleLink d.tree

end Disk

end ApkForge.Script
