-- What the host's programs have in common: how they are started, how they complain, how they read
-- their options, and where their text comes from.
import ApkForge.Script.Builtin.Basic
import ApkForge.Script.Image

namespace ApkForge.Script

open Work

/-- How a program starts another one: by its name, with arguments. It is waited for, and leaves its
status; or it cannot be started. -/
structure Launcher where
  start : String → List String → Work (Option FileFault)

namespace Program

/-! ## Complaints -/

/-- A name in the quotes of messages. -/
def named (name : String) : String :=
  "'" ++ String.join (name.toList.map Printing.quotedChar) ++ "'"

/-- A name that begins a message, in quotes only if a shell would need them. -/
def namedFirst (name : String) : String := Printing.wordInQuotes name

/-- A program says something about itself. -/
def tells (self words : String) : Work Unit := complain (self ++ ": " ++ words)

/-- A program says what is wrong and fails. -/
def fails (self words : String) (status : Nat) : Work Unit := do
  tells self words
  ends status

/-- A program that was called the wrong way. -/
def misusedAs (status : Nat) (self what : String) : Work Unit := do
  tells self what
  complain ("Try '" ++ self ++ " --help' for more information.")
  ends status

/-- A program that was called the wrong way. -/
def misused (self what : String) : Work Unit := misusedAs 1 self what

/-! ## Options -/

/-- The options of a program: letters that stand alone, letters that take a value, the letters that
long names stand for, and whether options end at the first operand. -/
structure Options where
  flags : String := ""
  valued : String := ""
  long : List (String × Char) := []
  endEarly : Bool := false
deriving Inhabited

/-- What a program was called with: its options in their order, with their values, and its
operands. -/
structure Call where
  options : List (Char × String) := []
  operands : List String := []
deriving Inhabited

namespace Call

/-- An option is given. -/
def has (c : Call) (letter : Char) : Bool := c.options.any fun o => o.1 == letter

/-- The value of an option, the last one that is given. -/
def value? (c : Call) (letter : Char) : Option String :=
  (c.options.reverse.find? fun o => o.1 == letter).map Prod.snd

/-- The values of an option, in their order. -/
def values (c : Call) (letter : Char) : List String :=
  (c.options.filter fun o => o.1 == letter).map Prod.snd

/-- The last option given of some. -/
def last? (c : Call) (letters : String) : Option Char :=
  (c.options.reverse.find? fun o => letters.toList.contains o.1).map Prod.fst

end Call

/-- Why a call is wrong: an option is not known, or lacks its value, or has one too many. -/
inductive Miscall where
  | unknown (letter : Char)
  | unknownLong (text : String)
  | lacking (letter : Char)
  | lackingLong (name : String)
  | ambiguous (text : String)
  | noValue (name : String)
deriving Repr, Inhabited

/-- The words for a wrong call. -/
def Miscall.words : Miscall → String
  | .unknown letter => "invalid option -- '" ++ String.singleton letter ++ "'"
  | .unknownLong text => "unrecognized option '" ++ text ++ "'"
  | .lacking letter => "option requires an argument -- '" ++ String.singleton letter ++ "'"
  | .lackingLong name => "option '--" ++ name ++ "' requires an argument"
  | .ambiguous text => "option '" ++ text ++ "' is ambiguous"
  | .noValue name => "option '--" ++ name ++ "' doesn't allow an argument"

/-- A long option, perhaps with its value after a sign, and the arguments after it. -/
def longOption (o : Options) (text : String) (args : List String) :
    Except Miscall ((Char × String) × List String) :=
  let (name, value?) := match Text.split '=' text with
    | [] => (text, none)
    | [only] => (only, none)
    | name :: rest => (name, some (Text.join "=" rest))
  let fits := match o.long.filter fun l => l.1 == name with
    | [] => o.long.filter fun l => Text.beginsWith name l.1
    | exact => exact
  match fits with
  | [] => .error (.unknownLong ("--" ++ text))
  | (full, letter) :: others =>
    if others.any fun l => l.2 != letter then .error (.ambiguous ("--" ++ text))
    else if o.valued.toList.contains letter then
      match value?, args with
      | some value, args => .ok ((letter, value), args)
      | none, value :: args => .ok ((letter, value), args)
      | none, [] => .error (.lackingLong full)
    else match value? with
      | some value => if letter.isUpper || letter.isDigit then .ok ((letter, value), args)
        else .error (.noValue full)
      | none => .ok ((letter, ""), args)

/-- The arguments of a program as a call. -/
def read (o : Options) : Nat → List String → Except Miscall Call
  | 0, args => .ok { operands := args }
  | _, [] => .ok {}
  | fuel + 1, arg :: args =>
    let with_ := fun (option : Char × String) (rest : List String) =>
      (read o fuel rest).map fun c => { c with options := option :: c.options }
    match arg.toList with
    | ['-', '-'] => .ok { operands := args }
    | '-' :: '-' :: cs => do
      let (option, rest) ← longOption o (String.ofList cs) args
      with_ option rest
    | '-' :: c :: cs =>
      if o.valued.toList.contains c then
        match cs, args with
        | [], value :: args => with_ (c, value) args
        | [], [] => .error (.lacking c)
        | cs, args => with_ (c, String.ofList cs) args
      else if o.flags.toList.contains c then
        with_ (c, "") (if cs.isEmpty then args else String.ofList ('-' :: cs) :: args)
      else .error (.unknown c)
    | _ =>
      if o.endEarly then .ok { operands := arg :: args }
      else (read o fuel args).map fun c => { c with operands := arg :: c.operands }

/-- The length of all arguments, which bounds how many options they hold. -/
def roomFor (args : List String) : Nat :=
  (args.map String.length).foldl (· + ·) 1 + args.length

/-- A program is called with options that it knows; else it says what is wrong. -/
def calledOr (wrong : String → Work Unit) (o : Options) (args : List String)
    (act : Call → Work Unit) : Work Unit := do
  match read o (roomFor args) args with
  | .ok call => act call
  | .error fault => wrong fault.words

/-- A program is called with options that it knows. -/
def called (self : String) (o : Options) (args : List String) (act : Call → Work Unit) :
    Work Unit :=
  calledOr (misused self) o args act

/-! ## Text -/

/-- The bytes of a file as a text. -/
def textOf (m : Machine) (path : String) : Except FileFault String :=
  (m.world.disk.read m.here path).map Octet.ofBytes

/-- The text at a path, or of the input for `-`. -/
def inputOf (path : String) : Work (Except FileFault String) := do
  let m ← get
  if path == "-" then return .ok (← readAll 0)
  match m.stat path with
  | .ok (_, .device (.stream n)) => return .ok (← readAll n)
  | .ok (_, .device .sink) => return .ok ""
  | .ok (_, .device _) => return .ok (String.ofList (List.replicate 65536 '\x00'))
  | .error fault => return .error fault
  | .ok _ => return textOf m path

/-- Something is done with the text of each file, or of the input if there is none. The program
fails if one cannot be read. -/
def forTexts (self : String) (complaint : String → FileFault → String) (paths : List String)
    (act : String → String → Work Unit) : Work Unit := do
  ends 0
  (if paths.isEmpty then ["-"] else paths).forM fun path => do
    match ← inputOf path with
    | .ok text => act path text
    | .error fault =>
      tells self (complaint path fault)
      ends 1

/-- The words for a file that cannot be opened or read. -/
def unreadable (path : String) (fault : FileFault) : String :=
  namedFirst path ++ ": " ++ Streams.words fault

/-- The texts of all files together. -/
def allText (self : String) (complaint : String → FileFault → String) (paths : List String) :
    Work String := do
  ends 0
  let texts ← (if paths.isEmpty then ["-"] else paths).mapM fun path => do
    match ← inputOf path with
    | .ok text => return text
    | .error fault =>
      tells self (complaint path fault)
      ends 1
      return ""
  return String.join texts

/-- Text is written to a file. -/
def writeFile (path text : String) : Work (Option FileFault) := do
  let m ← get
  match m.world.disk.writable m.here path with
  | .error fault => return some fault
  | .ok (_, some (.device (.stream n))) =>
    let _ ← writeTo n text
    return none
  | .ok (_, some (.device _)) => return none
  | .ok (_, some (.program _)) => return some .denied
  | .ok (place, found) =>
    if found.isNone then Streams.makeFile place
    modify fun m => m.withDisk (m.world.disk.write place (Octet.toBytes text))
    return none

end Program

end ApkForge.Script
