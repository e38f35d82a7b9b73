-- What the host runs when a program is started: a shell or one of the host's own programs. A file
-- that can be run names its interpreter in its first line, which is started with the file.
import ApkForge.Script.Machine

namespace ApkForge.Script

/-- A program that is found, with the name and the arguments that it is started with. -/
inductive Image where
  | shell (rich : Bool) (self : String) (args : List String)
  | program (name self : String) (args : List String)
deriving DecidableEq, Repr

namespace Image

/-- The program of the host by its name. -/
def ofHost (name self : String) (args : List String) : Image :=
  if name == "sh" || name == "dash" then .shell false self args
  else if name == "bash" then .shell true self args
  else .program name self args

/-- How many bytes of a file are looked at for its first line. -/
def lineRoom : Nat := 256

/-- The interpreter that a first line names, with the one argument that it may give. -/
def interpreter? (content : Bytes) : Option (String × List String) :=
  match content with
  | 35 :: 33 :: rest =>
    let line := (Octet.ofBytes ((rest.take (lineRoom - 2)).takeWhile fun b =>
      b != 10 && b != 0)).toList
    let line := ((line.dropWhile Octet.isBlank).reverse.dropWhile Octet.isBlank).reverse
    let name := line.takeWhile fun c => !Octet.isBlank c
    let argument := (line.drop name.length).dropWhile Octet.isBlank
    if name.isEmpty then none
    else some (String.ofList name, if argument.isEmpty then [] else [String.ofList argument])
  | _ => none

/-- The program at a path, called by a name and started with arguments. Interpreters may be scripts
too, so deep. -/
def load (disk : Disk) (here : Place) :
    Nat → String → String → List String → Except FileFault Image
  | 0, _, _, _ => .error .tooManyLinks
  | depth + 1, self, path, args => do
    match ← disk.stat here path with
    | (_, .program name) => return ofHost name self args
    | (place, .file content _) =>
      if disk.mode place &&& 73 == 0 then throw .denied
      match interpreter? content with
      | none => throw .notProgram
      | some (interpreter, more) =>
        load disk here depth interpreter interpreter (more ++ path :: args)
    | _ => throw .denied

/-- How many scripts may interpret one another. -/
def deepest : Nat := 5

/-- The path of a name in a directory of a search path. -/
def pathIn (dir name : String) : String := if dir == "" then name else dir ++ "/" ++ name

/-- The first path of a name on a search path at which a program can be started. A file that may not
be run is passed over and reported last; one whose interpreter is missing is passed over. -/
def search (disk : Disk) (here : Place) (name : String) :
    FileFault → List String → Except FileFault String
  | fault, [] => .error fault
  | fault, dir :: dirs =>
    let path := pathIn dir name
    match load disk here deepest name path [] with
    | .ok _ => .ok path
    | .error .missing => search disk here name fault dirs
    | .error .notDirectory => search disk here name fault dirs
    | .error .denied => search disk here name .denied dirs
    | .error .notProgram => .ok path
    | .error other => .error other

/-- Where programs are searched for if no path says so. -/
def usualPath : String := "/usr/local/sbin:/usr/local/bin:/usr/sbin:/usr/bin:/sbin:/bin"

/-- The directories in which a machine searches for programs. -/
def searchPath (m : Machine) : List String := Text.split ':' ((m.var "PATH").getD usualPath)

/-- The path of a program: its name, or where it is found in directories. -/
def pathOf (disk : Disk) (here : Place) (dirs : List String) (name : String) :
    Except FileFault String :=
  if name.toList.contains '/' then .ok name else search disk here name .missing dirs

/-- There is a file at a path that may be run, whether or not it can be. -/
def isRunnable (disk : Disk) (here : Place) (path : String) : Bool :=
  match disk.stat here path with
  | .ok (_, .program _) => true
  | .ok (place, .file _ _) => disk.mode place &&& 73 != 0
  | _ => false

/-- The paths of a name in directories at which there are files that may be run. -/
def runnables (disk : Disk) (here : Place) (dirs : List String) (name : String) : List String :=
  (dirs.map fun dir => pathIn dir name).filter (isRunnable disk here)

/-- Where a shell finds a name: at the first file that may be run. If there is none, a rich shell
takes the first file that has the name, and a plain one says whether there was any. -/
def lookUp (disk : Disk) (here : Place) (rich : Bool) (dirs : List String) (name : String) :
    Except FileFault String :=
  if name.toList.contains '/' then .ok name
  else match runnables disk here dirs name with
    | path :: _ => .ok path
    | [] =>
      match (dirs.map fun dir => pathIn dir name).filter (disk.has here) with
      | [] => .error .missing
      | path :: _ =>
        if !rich then .error .denied
        else if disk.isDir here path then .error .missing
        else .ok path

/-- The longest argument, and the most room for all arguments. -/
def longestArg : Nat := 131071

/-- The program at a path, unless its arguments are too long. -/
def loadFor (m : Machine) (self path : String) (args : List String) : Except FileFault Image :=
  if (self :: args).any fun a => decide (longestArg < a.length) then
    .error (.said "Argument list too long (os error 7)")
  else load m.world.disk m.here deepest self path args

/-- The program of a command, unless its arguments are too long. -/
def findFor (m : Machine) (name : String) (args : List String) : Except FileFault Image := do
  loadFor m name (← pathOf m.world.disk m.here (searchPath m) name) args

/-- The program of a command that a plain shell found at a path, from where it goes on searching. -/
def findFrom (m : Machine) (name path : String) (args : List String) : Except FileFault Image := do
  let dirs := (searchPath m).dropWhile fun dir => pathIn dir name != path
  loadFor m name (← pathOf m.world.disk m.here dirs name) args

end Image

end ApkForge.Script
