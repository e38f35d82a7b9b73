-- A tree of files as a value. Files and directories are kept in one list by their place, the names
-- from the root down, so that reading after writing is one equation. Operations on paths follow
-- the rules of the host for what is missing, what is a file and what is a directory.
import ApkForge.Path
import ApkForge.Text.Utf8

namespace ApkForge

/-- Where a file or directory stands: the names from the root down to it. -/
abbrev Place := List String

/-- What stands at a place. The sink is neither a file nor a directory: it reads as empty and takes
whatever is written. -/
inductive Entry where
  | file (content : Bytes) (executable : Bool)
  | dir
  | sink
deriving DecidableEq, Repr

/-- Files and directories by place. The root is always a directory. -/
structure FileTree where
  entries : List (Place × Entry)
deriving Repr, Inhabited

/-- Why an operation on files fails. -/
inductive FileFault where
  | missing
  | notDirectory
  | isDirectory
  | notEmpty
  | busy
  | exists
  | denied
  | invalidArgument
  | nameTooLong
  | tooManyLinks
  | nulInName
  | notUtf8
  | notRegular
  | wholeTree
  | notProgram
  | nulInData
  | said (reason : String)
deriving DecidableEq, Repr

/-- The words for a fault. -/
def FileFault.message : FileFault → String
  | .missing => "No such file or directory (os error 2)"
  | .notDirectory => "Not a directory (os error 20)"
  | .isDirectory => "Is a directory (os error 21)"
  | .notEmpty => "Directory not empty (os error 39)"
  | .busy => "Device or resource busy (os error 16)"
  | .exists => "File exists (os error 17)"
  | .denied => "Permission denied (os error 13)"
  | .invalidArgument => "Invalid argument (os error 22)"
  | .nameTooLong => "File name too long (os error 36)"
  | .tooManyLinks => "Too many levels of symbolic links (os error 40)"
  | .nulInName => "file name contained an unexpected NUL byte"
  | .notUtf8 => "stream did not contain valid UTF-8"
  | .notRegular =>
    "the source path is neither a regular file nor a symlink to a regular file"
  | .wholeTree => "failed to create whole tree"
  | .notProgram => "Exec format error (os error 8)"
  | .nulInData => "nul byte found in provided data"
  | .said reason => reason

namespace FileTree

/-! ## By place -/

/-- The tree with nothing in it. -/
def empty : FileTree := ⟨[]⟩

/-- What stands at a place. -/
def at? (t : FileTree) (place : Place) : Option Entry :=
  match place with
  | [] => some .dir
  | _ => t.entries.lookup place

/-- The tree with `entry` at a place. -/
def put (t : FileTree) (place : Place) (entry : Entry) : FileTree :=
  ⟨(place, entry) :: t.entries.filter fun e => e.1 != place⟩

/-- The tree without a place and all that lies below it. -/
def prune (t : FileTree) (place : Place) : FileTree :=
  ⟨t.entries.filter fun e => (Text.dropHead? place e.1).isNone⟩

/-- The tree without what lies below a place. -/
def hollow (t : FileTree) (place : Place) : FileTree :=
  ⟨t.entries.filter fun e => e.1 == place || (Text.dropHead? place e.1).isNone⟩

/-- The tree without one entry. -/
def drop (t : FileTree) (place : Place) : FileTree :=
  ⟨t.entries.filter fun e => e.1 != place⟩

/-- The names that stand directly below a place. -/
def children (t : FileTree) (place : Place) : List String :=
  t.entries.filterMap fun e =>
    match Text.dropHead? place e.1 with
    | some [name] => some name
    | _ => none

/-- A place with all the directories above it. -/
def putWithParents (t : FileTree) (place : Place) (entry : Entry) : FileTree :=
  let above := (List.range place.length).map fun n => place.take n
  let t := above.foldl (fun t p => match t.at? p with
    | some .dir => t
    | _ => t.put p .dir) t
  t.put place entry

theorem at?_put_self (t : FileTree) {place : Place} (h : place ≠ []) (entry : Entry) :
    (t.put place entry).at? place = some entry := by
  cases place with
  | nil => exact absurd rfl h
  | cons n ns => simp [at?, put]

theorem lookup_filter_ne (place other : Place) (h : other ≠ place)
    (es : List (Place × Entry)) :
    (es.filter fun e => e.1 != place).lookup other = es.lookup other := by
  induction es with
  | nil => rfl
  | cons e es ih =>
    obtain ⟨at_, entry⟩ := e
    by_cases he : at_ = place
    · have hne : (other == place) = false := by simp [h]
      subst he
      simp [List.lookup_cons, hne, ih]
    · have keep : (at_ != place) = true := by simp [he]
      by_cases ho : (other == at_) = true
      · simp [List.filter, keep, List.lookup_cons, ho]
      · simp only [Bool.not_eq_true] at ho
        simp [List.filter, keep, List.lookup_cons, ho, ih]

/-- Writing at one place leaves every other place as it was. -/
theorem at?_put_of_ne (t : FileTree) {place other : Place} (h : other ≠ place) (entry : Entry) :
    (t.put place entry).at? other = t.at? other := by
  cases other with
  | nil => rfl
  | cons n ns =>
    have hne : ((n :: ns) == place) = false := by simp [h]
    simp [at?, put, List.lookup_cons, hne, lookup_filter_ne place (n :: ns) h]

/-! ## Walking a path -/

/-- Where a walk over a path ends: a place, and whether the path asks for a directory there. -/
structure Arrival where
  place : Place
  wantsDir : Bool

/-- The longest name that the host takes, in bytes. -/
def longestName : Nat := 255

/-- The longest path that the host takes, in bytes. -/
def longestPath : Nat := 4095

/-- A step is taken from a directory only. -/
def stand (t : FileTree) (place : Place) : Except FileFault Unit :=
  match t.at? place with
  | some .dir => .ok ()
  | some _ => .error .notDirectory
  | none => .error .missing

/-- One segment of a path, walked from a place. -/
def step (t : FileTree) (place : Place) (segment : String) : Except FileFault Place :=
  if segment == "" then .ok place
  else do
    t.stand place
    if segment == "." then .ok place
    else if segment == ".." then .ok place.dropLast
    else if segment.utf8ByteSize > longestName then .error .nameTooLong
    else .ok (place ++ [segment])

/-- A path walked segment by segment. The last name need not exist. -/
def walk (t : FileTree) (start : Place) (p : Path) : Except FileFault Arrival :=
  if p.text == "" then .error .missing
  else if p.text.toList.contains '\x00' then .error .nulInName
  else if p.text.utf8ByteSize > longestPath then .error .nameTooLong
  else do
    let segments := Text.split '/' p.text
    let origin := if p.isAbsolute then [] else start
    let place ← segments.foldlM (t.step) origin
    match segments.getLast? with
    | some last => .ok ⟨place, last == "" || last == "." || last == ".."⟩
    | none => .ok ⟨place, false⟩

/-- What a path names. -/
def stat (t : FileTree) (start : Place) (p : Path) : Except FileFault (Place × Entry) := do
  let arrival ← t.walk start p
  match t.at? arrival.place with
  | none => .error .missing
  | some .dir => .ok (arrival.place, .dir)
  | some entry => if arrival.wantsDir then .error .notDirectory else .ok (arrival.place, entry)

/-- A path names something. -/
def hasEntry (t : FileTree) (start : Place) (p : Path) : Bool :=
  match t.stat start p with
  | .ok _ => true
  | .error _ => false

/-- A path names a file. -/
def isFile (t : FileTree) (start : Place) (p : Path) : Bool :=
  match t.stat start p with
  | .ok (_, .file _ _) => true
  | _ => false

/-- A path names a directory. -/
def isDir (t : FileTree) (start : Place) (p : Path) : Bool :=
  match t.stat start p with
  | .ok (_, .dir) => true
  | _ => false

/-! ## Operations on paths -/

/-- The bytes of a file. -/
def read (t : FileTree) (start : Place) (p : Path) : Except FileFault Bytes := do
  match ← t.stat start p with
  | (_, .file content _) => .ok content
  | (_, .dir) => .error .isDirectory
  | (_, .sink) => .ok []

/-- The text of a file. -/
def readText (t : FileTree) (start : Place) (p : Path) : Except FileFault String := do
  match Utf8.decode? (← t.read start p) with
  | some text => .ok text
  | none => .error .notUtf8

/-- One new directory. What lies above it must be there. -/
def makeDir (t : FileTree) (start : Place) (p : Path) : Except FileFault FileTree := do
  let arrival ← t.walk start p
  match t.at? arrival.place with
  | some _ => .error .exists
  | none => do
    t.stand arrival.place.dropLast
    .ok (t.put arrival.place .dir)

/-- A directory and all above it, with as many paths still to make as `fuel` counts. A directory
that is there already is no fault. -/
def makeDirsIn (start : Place) : Nat → FileTree → Path → Except FileFault Unit × FileTree
  | 0, t, _ => (.error .wholeTree, t)
  | fuel + 1, t, p =>
    if p.parts.isEmpty then (.ok (), t)
    else
      let again (t : FileTree) : Except FileFault Unit × FileTree :=
        match t.makeDir start p with
        | .ok t => (.ok (), t)
        | .error fault => if t.isDir start p then (.ok (), t) else (.error fault, t)
      match t.makeDir start p with
      | .ok t => (.ok (), t)
      | .error .missing =>
        match p.parent? with
        | none => (.error .wholeTree, t)
        | some above =>
          match makeDirsIn start fuel t above with
          | (.ok (), t) => again t
          | (.error fault, t) => (.error fault, t)
      | .error fault => if t.isDir start p then (.ok (), t) else (.error fault, t)

/-- A directory and all above it. -/
def makeDirs (t : FileTree) (start : Place) (p : Path) : Except FileFault Unit × FileTree :=
  makeDirsIn start (p.text.length + 2) t p

/-- An entry with new content. A file stays as executable as it was, and the sink keeps nothing. -/
def holding (content : Bytes) : Entry → Entry
  | .file _ executable => .file content executable
  | entry => entry

/-- The place that a file to be written takes, and what stands there, a file if there was
nothing. -/
def writable (t : FileTree) (start : Place) (p : Path) : Except FileFault (Place × Entry) := do
  let arrival ← t.walk start p
  match t.at? arrival.place with
  | some .dir => .error .isDirectory
  | some entry =>
    if arrival.wantsDir then .error .isDirectory else .ok (arrival.place, entry)
  | none => do
    t.stand arrival.place.dropLast
    if arrival.wantsDir then .error .isDirectory else .ok (arrival.place, .file [] false)

/-- A file with new content. -/
def write (t : FileTree) (start : Place) (p : Path) (content : Bytes) :
    Except FileFault FileTree := do
  let (place, entry) ← t.writable start p
  .ok (t.put place (holding content entry))

/-- A file copied over another, which becomes as executable as the first. The target is emptied
before the source is read, so a file copied onto itself is empty. -/
def copy (t : FileTree) (start : Place) (source target : Path) : Except FileFault FileTree := do
  match ← t.stat start source with
  | (origin, .file content executable) => do
    match ← t.writable start target with
    | (place, .file _ _) =>
      .ok (t.put place (.file (if place = origin then [] else content) executable))
    | _ => .ok t
  | _ => .error .notRegular

/-- One file removed. -/
def removeFile (t : FileTree) (start : Place) (p : Path) : Except FileFault FileTree := do
  match ← t.stat start p with
  | (_, .dir) => .error .isDirectory
  | (place, _) => .ok (t.drop place)

/-- An empty directory removed by its path. A path that ends in `.` removes nothing, one that ends
in `..` would remove a directory that is not empty. -/
def removeEmpty (t : FileTree) (start : Place) (p : Path) : Except FileFault FileTree := do
  match (Text.split '/' p.text).reverse.dropWhile fun segment => segment == "" with
  | [] => .error .busy
  | last :: before =>
    if last == "." || last == ".." then do
      if !before.isEmpty then
        let above ← t.walk start ⟨Text.join "/" (before.reverse ++ [""])⟩
        t.stand above.place
      .error (if last == "." then .invalidArgument else .notEmpty)
    else do
      match ← t.stat start p with
      | (place, .dir) =>
        if (t.children place).isEmpty then .ok (t.drop place) else .error .notEmpty
      | _ => .error .notDirectory

/-- A directory removed with all that lies below it. What lies below goes first; when the path then
leads nowhere any more, that is no fault. -/
def removeDir (t : FileTree) (start : Place) (p : Path) : Except FileFault Unit × FileTree :=
  match t.stat start p with
  | .error fault => (.error fault, t)
  | .ok (place, .dir) =>
    let t := t.hollow place
    match t.removeEmpty start p with
    | .ok t => (.ok (), t)
    | .error .missing => (.ok (), t)
    | .error fault => (.error fault, t)
  | .ok _ => (.error .notDirectory, t)

/-- A file made executable. -/
def makeExecutable (t : FileTree) (start : Place) (p : Path) : Except FileFault FileTree := do
  match ← t.stat start p with
  | (place, .file content _) => .ok (t.put place (.file content true))
  | _ => .ok t

/-! ## The host -/

/-- The directories that every host has. -/
def hostDirectories : List Place :=
  [["bin"], ["dev"], ["etc"], ["home"], ["lib"], ["opt"], ["proc"], ["root"], ["run"], ["sbin"],
    ["sys"], ["tmp"], ["usr"], ["usr", "bin"], ["usr", "lib"], ["usr", "local"], ["usr", "sbin"],
    ["usr", "share"], ["var"], ["var", "tmp"]]

/-- The tree of a host on which nothing has been made yet. -/
def host : FileTree :=
  ⟨(["dev", "null"], .sink) :: hostDirectories.map fun place => (place, .dir)⟩

end FileTree

end ApkForge
