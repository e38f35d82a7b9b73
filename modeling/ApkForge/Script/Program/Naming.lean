-- The host's programs that take names apart and that tell where a script runs: the parts of paths,
-- the user, the host, and the environment.
import ApkForge.Script.Program.Making

namespace ApkForge.Script.Program

open Work

/-! ## Parts of paths -/

/-- The last name of a path without an end that it has besides something else. -/
def withoutEnd (name ending : String) : String :=
  match Text.dropTail? ending name with
  | some "" => name
  | some stem => stem
  | none => name

/-- The last names of paths are shown. -/
def basename (self : String) (args : List String) : Work Unit :=
  called self { flags := "az", valued := "s", endEarly := true, long := [("multiple", 'a'),
    ("suffix", 's'), ("zero", 'z')] } args fun c => do
    let lineEnd := if c.has 'z' then "\x00" else "\n"
    let shown := fun (path ending : String) => print (withoutEnd (lastName path) ending ++ lineEnd)
    if c.operands.isEmpty then misused self "missing operand"
    else if c.has 'a' || c.has 's' then
      c.operands.forM fun path => shown path ((c.value? 's').getD "")
      ends 0
    else match c.operands with
      | _ :: _ :: extra :: _ => misused self ("extra operand " ++ named extra)
      | path :: rest =>
        shown path (rest.headD "")
        ends 0
      | [] => ends 0

/-- The path that holds the last name of a path. -/
def parentPath (path : String) : String :=
  let cut := fun (cs : List Char) => cs.dropWhile (· == '/')
  let turned := cut path.toList.reverse
  let before := turned.dropWhile (· != '/')
  if turned.isEmpty then if path == "" then "." else "/"
  else if before.isEmpty then "."
  else
    let kept := cut before
    if kept.isEmpty then "/" else String.ofList kept.reverse

/-- The paths that hold others are shown. -/
def dirname (self : String) (args : List String) : Work Unit :=
  called self { flags := "z", long := [("zero", 'z')] } args fun c => do
    if c.operands.isEmpty then misused self "missing operand"
    else
      c.operands.forM fun path => print (parentPath path ++ if c.has 'z' then "\x00" else "\n")
      ends 0

/-! ## Places -/

/-- The directory that the program was started in is shown. -/
def pwd (self : String) (args : List String) : Work Unit :=
  called self { flags := "LP", long := [("logical", 'L'), ("physical", 'P')] } args fun c => do
    let m ← get
    if !c.operands.isEmpty then tells self "ignoring non-option arguments"
    let own := m.value "PWD"
    let isRight := Text.beginsWith "/" own && !Text.endsWith "/." own &&
      (m.world.disk.walk [] own).toOption.map FileTree.Arrival.place == some m.here
    printLine (if c.has 'L' && isRight then own else Disk.pathOf m.here)
    ends 0

/-- The paths at which programs are found. -/
def which (_self : String) (args : List String) : Work Unit := do
  let m ← get
  let isAll := args.head? == some "-a"
  let names := if isAll then args.tail else args
  ends (if names.isEmpty then 1 else 0)
  names.forM fun name => do
    let runs := fun (path : String) => match m.stat path with
      | .ok (_, .program _) => true
      | .ok (place, .file _ _) => m.world.disk.mode place &&& 73 != 0
      | _ => false
    let paths := if name.toList.contains '/' then [name]
      else (Text.split ':' (m.value "PATH")).map fun dir =>
        below (if dir == "" then "." else dir) name
    let found := if name == "" then [] else paths.filter runs
    match found with
    | [] => ends 1
    | first :: _ => (if isAll then found else [first]).forM printLine

/-! ## The environment -/

/-- Variables as lines, each with its end. -/
def environmentText (m : Machine) (lineEnd : String) : String :=
  String.join (m.environment.reverse.map fun v => v.1 ++ "=" ++ v.2 ++ lineEnd)

/-- Variables are shown: those that are named, or all. -/
def printenv (self : String) (args : List String) : Work Unit :=
  calledOr (misusedAs 2 self) { flags := "0", long := [("null", '0')], endEarly := true } args
    fun c => do
    let m ← get
    let lineEnd := if c.has '0' then "\x00" else "\n"
    if c.operands.isEmpty then
      print (environmentText m lineEnd)
      ends 0
    else
      let values := c.operands.filterMap fun name => m.environment.lookup name
      print (String.join (values.map (· ++ lineEnd)))
      endsAs (values.length == c.operands.length)

/-! ## The user and the host -/

/-- A program that says one thing, and takes no operands. -/
def saying (self : String) (args : List String) (text : String) : Work Unit :=
  called self {} args fun c => do
    match c.operands with
    | extra :: _ => misused self ("extra operand " ++ named extra)
    | [] =>
      printLine text
      ends 0

/-- The user's name is shown. -/
def whoami (self : String) (args : List String) : Work Unit := saying self args "root"

/-- The kind of machine is shown. -/
def arch (self : String) (args : List String) : Work Unit := saying self args "x86_64"

/-- The user is shown by names and numbers. -/
def id (self : String) (args : List String) : Work Unit :=
  called self { flags := "ugGnrz", long := [("user", 'u'), ("group", 'g'), ("groups", 'G'),
    ("name", 'n'), ("real", 'r'), ("zero", 'z')] } args fun c => do
    let choices := "ugG".toList.filter c.has
    if choices.length > 1 then fails self "cannot print \x22only\x22 of more than one choice" 1
    else if choices.isEmpty && (c.has 'n' || c.has 'r') then
      fails self "cannot print only names or real IDs in default format" 1
    else
      let shown := if choices.isEmpty then "uid=0(root) gid=0(root) groups=0(root)"
        else if c.has 'n' then "root"
        else "0"
      ends 0
      (if c.operands.isEmpty then ["root"] else c.operands).forM fun user => do
        if user == "root" || user == "0" then printLine shown
        else fails self (named user ++ ": no such user") 1

/-- The host's name is shown. -/
def hostname (_self : String) (_args : List String) : Work Unit := do
  printLine "localhost"
  ends 0

/-- What the host is is shown, in a fixed order. -/
def uname (self : String) (args : List String) : Work Unit :=
  called self { flags := "asnrvmpio", long := [("all", 'a'), ("kernel-name", 's'),
    ("nodename", 'n'), ("kernel-release", 'r'), ("kernel-version", 'v'), ("machine", 'm'),
    ("processor", 'p'), ("hardware-platform", 'i'), ("operating-system", 'o')] } args fun c => do
    match c.operands with
    | extra :: _ => misused self ("extra operand " ++ named extra)
    | [] =>
      let parts := [('s', "Linux"), ('n', "localhost"), ('r', "4.4.0"),
        ('v', "#1 SMP Sun Jan 10 15:06:54 PST 2016"), ('m', "x86_64"), ('p', "x86_64"),
        ('i', "x86_64"), ('o', "GNU/Linux")]
      let wanted := if c.has 'a' then parts
        else if c.options.isEmpty then parts.take 1
        else parts.filter fun p => c.has p.1
      printLine (Text.join " " (wanted.map Prod.snd))
      ends 0

/-- The number of processors is shown. -/
def nproc (self : String) (args : List String) : Work Unit :=
  called self { valued := "i", long := [("all", 'a'), ("ignore", 'i')] } args fun _ => do
    printLine "4"
    ends 0

/-- The input is no terminal. -/
def tty (self : String) (args : List String) : Work Unit :=
  calledOr (misusedAs 2 self) { flags := "s", long := [("silent", 's'), ("quiet", 's')] } args
    fun c => do
    if !c.has 's' then printLine "not a tty"
    ends 1

end ApkForge.Script.Program
