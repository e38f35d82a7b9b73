-- The state of a shell while it runs a script: its variables and arguments, where it stands and
-- where its streams lead. A shell is plain or rich, and the two differ in what they know and in the
-- words of their complaints.
import ApkForge.Script.Node
import ApkForge.Script.Number
import ApkForge.Script.World

namespace ApkForge.Script

/-! ## Variables -/

/-- What a variable holds: a text, a list with gaps, or a table. -/
inductive Value where
  | text (s : String)
  | list (elements : List (Nat × String))
  | table (entries : List (String × String))
deriving DecidableEq, Repr, Inhabited

/-- An element of a list or a table, or the first of it. -/
def Value.element? (v : Value) (key : String) : Option String :=
  match v with
  | .text s => if key == "0" then some s else none
  | .list elements => key.toNat?.bind fun index => elements.lookup index
  | .table entries => entries.lookup key

/-- The elements of a value, in order. -/
def Value.elements : Value → List String
  | .text s => [s]
  | .list elements => elements.map Prod.snd
  | .table entries => entries.map Prod.snd

/-- The keys of a value, in order. -/
def Value.keys : Value → List String
  | .text _ => ["0"]
  | .list elements => elements.map fun e => toString e.1
  | .table entries => entries.map Prod.fst

/-- A variable, with what becomes of values given to it. One that refers holds the name of another,
which it stands for. -/
structure Variable where
  value : Option Value := none
  shared : Bool := false
  fixed : Bool := false
  whole : Bool := false
  upper : Bool := false
  lower : Bool := false
  refers : Bool := false
deriving Inhabited

/-- What a command that the script defined has of its own: its name, and what variables held before
that it made its own. -/
structure Frame where
  name : String
  hidden : List (String × Option Variable) := []
deriving Inhabited

/-- What was called and has not ended: its name, the line of the call, and the file that it is
in. -/
structure Caller where
  name : String
  line : Nat
  file : String
deriving Inhabited

/-- A shell while it runs. -/
structure Machine where
  world : World
  rich : Bool := false
  isShell : Bool := false
  name : String := ""
  args : List String := []
  vars : List (String × Variable) := []
  functions : List (String × Node) := []
  homes : List (String × String) := []
  callers : List Caller := []
  nested : Nat := 0
  command : String := ""
  seed : Nat := 1
  drawn : Nat := 0
  aliases : List (String × String) := []
  insets : List (Nat × Word) := []
  nextInset : Nat := 0
  here : Place := []
  streams : List (Nat × Nat) := [(0, 0), (1, 1), (2, 2)]
  status : Nat := 0
  statuses : List Nat := []
  lastJob : Option Nat := none
  process : Nat := firstProcess
  programs : Nat := 0
  shell : Nat := firstProcess
  frames : List Frame := []
  sourced : Nat := 0
  loops : Nat := 0
  options : List String := []
  asked : Bool := false
  traps : List (String × String) := []
  within : String := ""
  label : String := ""
  level : Nat := 0
  outputStatus : Option Nat := none
  hashed : List (String × String × Nat) := []
  borrowed : List Nat := []
  given : List String := []
  lastArg : String := ""
  stack : List Place := []
  line : Nat := 0
  readTo : Nat := 0
  shift : Nat := 0
  mask : Nat := 18
  optionAt : Nat := 0
deriving Inhabited

/-- How a command leaves what is around it: it goes to the end or the next turn of so many loops, or
back to what called a command; the script ends, or the rest of its line is dropped; a signal ends
the process; or it takes too long. -/
inductive Leave where
  | loop (again : Bool) (count : Nat)
  | back
  | exit
  | discard
  | killed (process signal : Nat)
  | late
deriving DecidableEq, Repr, Inhabited

/-- Work of a shell. -/
abbrev Work (α : Type) := ExceptT Leave (StateM Machine) α

namespace Machine

/-! ## Options -/

/-- The options that have letters. -/
def optionLetters : List (Char × String) :=
  [('a', "allexport"), ('b', "notify"), ('C', "noclobber"), ('e', "errexit"), ('f', "noglob"),
    ('h', "hashall"), ('m', "monitor"), ('n', "noexec"), ('u', "nounset"), ('v', "verbose"),
    ('x', "xtrace"), ('E', "errtrace"), ('T', "functrace"), ('B', "braceexpand"), ('k', "keyword"),
    ('p', "privileged"), ('P', "physical"), ('t', "onecmd"), ('I', "ignoreeof"), ('V', "vi"),
    ('i', "interactive"), ('s', "stdin"), ('c', "command"), ('H', "histexpand"),
        ('r', "restricted")]

/-- The letters that a plain shell knows. -/
def plainLetters : List Char := "aCefIimnsuvVxbE".toList

/-- An option is on. -/
def has (m : Machine) (option : String) : Bool := m.options.contains option

/-- An option that is turned on or off. -/
def setOption (on : Bool) (m : Machine) (option : String) : Machine :=
  let others := m.options.filter (· != option)
  { m with options := if on then others ++ [option] else others }

/-- The letters of the options that are on. -/
def letters (m : Machine) : String :=
  let order := if m.rich then "abefhkmnptuvxBCEHPTcs" else "efImnsxvVECabuc"
  String.ofList (order.toList.filter fun c => ((optionLetters.lookup c).map m.has).getD false)

/-! ## Values -/

/-- The name that a name stands for in the end. -/
def target (m : Machine) (name : String) : String :=
  let rec go : Nat → String → String
    | 0, name => name
    | fuel + 1, name =>
      match m.vars.lookup name with
      | some { refers := true, value := some (.text other), .. } =>
        if other == "" then name else go fuel other
      | _ => name
  if m.rich then go 8 name else name

/-- The variable that a name is given to itself, even if it stands for another. -/
def own? (m : Machine) (name : String) : Option Variable := m.vars.lookup name

/-- A variable by its name. -/
def var? (m : Machine) (name : String) : Option Variable := m.vars.lookup (m.target name)

/-- The file that is run. -/
def file (m : Machine) : String := if m.within == "" then m.name else m.within

/-- What a rich shell knows at any time without being given it. -/
def present? (m : Machine) (name : String) : Option Value :=
  let number := fun (n : Int) => some (Value.text (toString n))
  let list := fun (texts : List String) =>
    some (Value.list ((List.range texts.length).zip texts))
  let seconds := Int.ofNat (m.world.clock / 1000)
  match name with
  | "LINENO" => number m.line
  | "FUNCNAME" =>
    if m.callers.isEmpty then none else list (m.callers.map Caller.name ++ ["main"])
  | "BASH_LINENO" => list (m.callers.map (fun c => toString c.line) ++ ["0"])
  | "BASH_SOURCE" => list (m.callers.map Caller.file ++ [m.name])
  | "BASH_SUBSHELL" => number m.nested
  | "BASHPID" => number m.process
  | "BASH_COMMAND" => some (.text m.command)
  | "_" => some (.text m.lastArg)
  | "RANDOM" => number m.drawn
  | "SECONDS" =>
    let base := match (m.vars.lookup name).bind Variable.value with
      | some (.text t) => t.toInt?.getD 0
      | _ => 0
    number (base + seconds)
  | "EPOCHSECONDS" => number (World.epoch + seconds)
  | "BASH_VERSINFO" => list ["5", "2", "15", "1", "release", "x86_64-pc-linux-gnu"]
  | "GROUPS" => list ["0"]
  | "DIRSTACK" => list (Disk.pathOf m.here :: m.stack.map Disk.pathOf)
  | _ => none

/-- What a variable holds. -/
def held? (m : Machine) (name : String) : Option Value :=
  let name := m.target name
  (if m.rich then m.present? name else none).or ((m.vars.lookup name).bind Variable.value)

/-- One more number is drawn by chance. -/
def draw (m : Machine) : Machine :=
  let step := fun (seed : Nat) =>
    let last := if seed == 0 then 123459876 else seed
    let high := last / 127773
    let t := 16807 * Int.ofNat (last - 127773 * high) - 2836 * Int.ofNat high
    (if t < 0 then t + 2147483647 else t).toNat
  let number := fun (seed : Nat) => ((seed / 65536) ^^^ (seed % 65536)) % 32768
  let first := step m.seed
  let seed := if number first == m.drawn then step first else first
  { m with seed, drawn := number seed }

/-- What a variable holds as a text. -/
def var (m : Machine) (name : String) : Option String := (m.held? name).bind fun v => v.element? "0"

/-- The value of a parameter. -/
def value? (m : Machine) (name : String) : Option String :=
  match name with
  | "?" => some (toString m.status)
  | "#" => some (toString m.args.length)
  | "$" => some (toString m.shell)
  | "!" => m.lastJob.map toString
  | "-" => some m.letters
  | "0" => some m.name
  | "*" =>
    let between := ((m.var "IFS").getD " ").toList.head?.map String.singleton
    if m.args.isEmpty then none else some (Text.join (between.getD "") m.args)
  | "@" => if m.args.isEmpty then none else some (Text.join " " m.args)
  | _ =>
    match name.toNat? with
    | some n => m.args[n - 1]?
    | none => m.var name

/-- The value of a parameter, empty where it has none. -/
def value (m : Machine) (name : String) : String := (m.value? name).getD ""

/-- The signs at which values are cut. -/
def cutters (m : Machine) : List Char := ((m.var "IFS").getD " \t\n").toList

/-- A variable changed. One that is not there yet is made. -/
def changeVar (m : Machine) (name : String) (change : Variable → Variable) : Machine :=
  let name := m.target name
  let old := (m.var? name).getD { shared := m.has "allexport" }
  { m with vars := (name, change old) :: m.vars.filter fun v => v.1 != name }

/-- Where a table keeps a key: entries are listed in this order, newer ones first. -/
def slotOf (key : String) : Nat :=
  key.toList.foldl (fun n c => (n * 16777619 % 4294967296) ^^^ (c.toNat % 256)) 2166136261 % 1024

/-- Where a plain shell keeps a variable: variables are passed on in this order, older ones
first. -/
def plainSlotOf (name : String) : Nat :=
  let sum := (name.toList.map Char.toNat).foldl (· + ·) 0
  ((name.toList.head?.map Char.toNat).getD 0 * 16 + sum) % 39

/-- A table with one more entry. -/
def addEntry (key text : String) : List (String × String) → List (String × String)
  | [] => [(key, text)]
  | e :: es => if slotOf key ≤ slotOf e.1 then (key, text) :: e :: es else e :: addEntry key text es

/-- A table with one entry changed. -/
def setEntry (key text : String) (entries : List (String × String)) : List (String × String) :=
  if entries.any fun e => e.1 == key then
    entries.map fun e => if e.1 == key then (key, text) else e
  else addEntry key text entries

/-- A variable with a text as its value, or as the first element of it. -/
def put (m : Machine) (name text : String) : Machine :=
  let m := if name == "OPTIND" then { m with optionAt := 0 }
    else if name == "PATH" then { m with hashed := [] }
    else if name == "RANDOM" && m.rich then { m with seed := text.toNat?.getD 0, drawn := 0 }
    else m
  let text := if name == "SECONDS" && m.rich then
      toString (text.toInt?.getD 0 - Int.ofNat (m.world.clock / 1000))
    else text
  m.changeVar name fun v =>
    let text := if v.upper then text.map Char.toUpper
      else if v.lower then text.map Char.toLower else text
    let shared := v.shared || m.has "allexport"
    match v.value with
    | some (.list elements) =>
      { v with shared, value := some (.list ((0, text) :: elements.filter fun e => e.1 != 0)) }
    | some (.table entries) =>
      { v with shared, value := some (.table (setEntry "0" text entries)) }
    | _ => { v with shared, value := some (.text text) }

/-- A variable with another value as a whole. -/
def putValue (m : Machine) (name : String) (value : Value) : Machine :=
  m.changeVar name fun v => { v with value := some value }

/-- A list with one element changed. -/
def insertAt (index : Nat) (text : String) : List (Nat × String) → List (Nat × String)
  | [] => [(index, text)]
  | e :: es =>
    if e.1 < index then e :: insertAt index text es
    else if e.1 == index then (index, text) :: es
    else (index, text) :: e :: es

/-- A variable with one element changed. -/
def putAt (m : Machine) (name key text : String) : Machine :=
  m.changeVar name fun v =>
    match v.value with
    | some (.table entries) => { v with value := some (.table (setEntry key text entries)) }
    | some (.list elements) =>
      { v with value := some (.list (insertAt (key.toNat?.getD 0) text elements)) }
    | some (.text s) =>
      { v with value := some (.list (insertAt (key.toNat?.getD 0) text [(0, s)])) }
    | none => { v with value := some (.list [(key.toNat?.getD 0, text)]) }

/-- Without a variable. -/
def drop (m : Machine) (name : String) : Machine :=
  { m with vars := m.vars.filter fun v => v.1 != name }

/-- A variable as it was before, if it was there. -/
def restore (m : Machine) (v : String × Option Variable) : Machine :=
  let m := m.drop v.1
  match v.2 with
  | some old => { m with vars := (v.1, old) :: m.vars }
  | none => m

/-- A variable may not change. -/
def isFixed (m : Machine) (name : String) : Bool := ((m.var? name).map Variable.fixed).getD false

/-- A variable that is passed on takes the place of one with its name, or is the last one. -/
def share (m : Machine) (name value : String) : Machine :=
  let new : Variable := { value := some (.text value), shared := true }
  if (m.vars.lookup name).isSome then
    { m with vars := m.vars.map fun v => if v.1 == name then (name, new) else v }
  else { m with vars := (name, new) :: m.vars }

/-- The variables that programs get, with their values. -/
def environment (m : Machine) : List (String × String) :=
  m.vars.filterMap fun v =>
    if v.2.shared then (v.2.value.bind fun value => value.element? "0").map fun text => (v.1, text)
    else none

/-! ## Files -/

/-- What a path names. A stream that is not open is not there. -/
def stat (m : Machine) (path : String) (followsLast : Bool := true) :
    Except FileFault (Place × Kind) := do
  match ← m.world.disk.stat m.here path followsLast with
  | (place, .device (.stream n)) =>
    if (m.streams.lookup n).isSome then return (place, .device (.stream n)) else throw .missing
  | found => return found

/-- The files changed. -/
def withDisk (m : Machine) (disk : Disk) : Machine := { m with world := { m.world with disk } }

end Machine

namespace Work

/-! ## Streams -/

/-- The stream is not open. -/
def isOpen (stream : Nat) : Work Bool := return ((← get).streams.lookup stream).isSome

/-- Text on a stream. A pipe that nobody reads ends the process. -/
def writeTo (stream : Nat) (text : String) : Work World.Written := do
  let m ← get
  match m.streams.lookup stream with
  | none => return if text == "" then .taken else .notWritable
  | some id =>
    if text == "" then return .taken
    let (written, world) := m.world.write id text
    set { m with world }
    if written == .broken then throw (.killed m.process 13)
    return written

/-- Text on the output stream. -/
def print (text : String) : Work Unit := do
  let _ ← writeTo 1 text

/-- A line on the output stream. -/
def printLine (text : String) : Work Unit := print (text ++ "\n")

/-- A complaint on the error stream. -/
def complain (text : String) : Work Unit := do
  let _ ← writeTo 2 (text ++ "\n")

/-- A complaint of a command about the line that the shell has come to. A rich shell names the file
that it is in. -/
def say (words : String) : Work Unit := do
  let m ← get
  if m.rich then
    complain (m.file ++ ": line " ++ toString m.line ++ ": " ++ words)
  else complain (m.name ++ ": " ++ toString m.line ++ ": " ++ words)

/-- A complaint of the shell itself about the line that it has come to. -/
def report (words : String) : Work Unit := do
  let m ← get
  say ((if m.rich then "" else m.within) ++ words)

/-- The command ends with a status and the script goes on. -/
def ends (status : Nat) : Work Unit := modify fun m => { m with status }

/-- The command ends well or badly. -/
def endsAs (holds : Bool) : Work Unit := ends (if holds then 0 else 1)

/-- The script ends with a status. -/
def exits {α : Type} (status : Nat) : Work α := do
  ends status
  throw .exit

/-- A mistake in a word or a variable: a plain shell ends, a rich one drops the line. -/
def mistake {α : Type} (words : String) : Work α := do
  report words
  if (← get).rich then
    ends 1
    throw .discard
  else exits 2

/-- A complaint, after which the command has failed with the status of the kind of shell. -/
def failsWith (words : String) : Work Unit := do
  report words
  ends (if (← get).rich then 1 else 2)

/-! ## Time -/

/-- Time passes, until it is too late. -/
def wait (milliseconds : Nat) : Work Unit := do
  let m ← get
  let clock := m.world.clock + milliseconds
  match m.world.limit.filter fun limit => decide (limit ≤ clock) with
  | some limit =>
    set { m with world := m.world.pass limit }
    throw .late
  | none => set { m with world := m.world.pass clock }

/-- The command does not come to an end. -/
def giveUp {α : Type} : Work α := do
  modify fun m => { m with world := m.world.pass (m.world.limit.getD m.world.clock) }
  throw .late

/-- What the process writes goes into a pipe that is not read to its end. -/
def feedsPipe (m : Machine) : Bool :=
  match ((m.streams.lookup 1).bind fun id => m.world.files.lookup id).map OpenFile.target with
  | some (.gather (some _)) => true
  | _ => false

/-- One more turn of a loop is taken, of which there are not endlessly many. -/
def takeTurn : Work Unit := do
  let m ← get
  if m.world.turns == 0 then
    if feedsPipe m then throw (.killed m.process 13) else giveUp
  set { m with world := { m.world with turns := m.world.turns - 1 } }

/-- All is waited for that is to come from a stream, and taken. -/
def readAll (stream : Nat) : Work String := do
  let m ← get
  match m.streams.lookup stream with
  | none => return ""
  | some id =>
    let (text, clock) := m.world.rest id
    let late := (m.world.limit.map fun limit => decide (limit ≤ clock)).getD false
    if late then giveUp
    set { m with world := (m.world.finish id).pass clock }
    return text

/-- Text up to a character that ends it is taken from a stream, with whether the end was there. -/
def readUpTo (stream : Nat) (last : Char) : Work (String × Bool) := do
  let m ← get
  match m.streams.lookup stream with
  | none => return ("", false)
  | some id =>
    let (text, clock) := m.world.rest id
    let front := text.toList.takeWhile (· != last)
    let found := front.length < text.length
    if found then
      let world := m.world.take id (front.length + 1)
      set { m with world := world.pass world.clock }
    else
      let late := (m.world.limit.map fun limit => decide (limit ≤ clock)).getD false
      if late then giveUp
      set { m with world := (m.world.finish id).pass clock }
    return (String.ofList front, found)

/-! ## Variables -/

/-- A variable gets a value, unless it may not change. -/
def assign (name text : String) : Work Unit := do
  let m ← get
  if m.isFixed name then
    if m.rich then mistake (name ++ ": readonly variable")
    else mistake (name ++ ": is read only")
  set (m.put name text)

/-! ## What comes of work -/

/-- What comes of work, a result or a way to leave. -/
def outcome {α : Type} (act : Work α) : Work (Except Leave α) := ExceptT.lift act.run

/-- Work that is done, and what comes after it in any case. -/
def andThen {α : Type} (act : Work α) (after : Work Unit) : Work α := do
  let result ← outcome act
  after
  match result with
  | .ok a => return a
  | .error leave => throw leave

end Work

end ApkForge.Script
