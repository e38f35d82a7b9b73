-- The simplest commands of a shell: printing and testing; and how commands complain. A mistake in
-- one of the special commands ends a script of a plain shell.
import ApkForge.Script.Calendar
import ApkForge.Script.Child
import ApkForge.Script.Testing

namespace ApkForge.Script.Builtin

open Work

/-! ## Complaints -/

/-- The commands whose mistakes end a script of a plain shell, and whose variables stay. -/
def special : List String :=
  [":", ".", "break", "continue", "eval", "exec", "exit", "export", "readonly", "return", "set",
    "shift", "times", "trap", "unset"]

/-- A command says what is wrong and fails, with one status in a plain and another in a rich shell.
A special one ends a plain script. -/
def failsAs (self : String) (plain rich : Nat) (words : String) : Work Unit := do
  say (self ++ ": " ++ words)
  if (← get).rich then ends rich
  else if special.contains self then exits plain
  else ends plain

/-- A command says what is wrong, in the words of its kind of shell. -/
def wrong (self plain rich : String) : Work Unit := do
  failsAs self 2 1 (if (← get).rich then rich else plain)

/-- An option that a command does not know. A rich shell tells how it is used. -/
def illegalOption (self : String) (letter : Char) (usage : String) : Work Unit := do
  if (← get).rich then
    say (self ++ ": -" ++ String.singleton letter ++ ": invalid option")
    complain (self ++ ": usage: " ++ usage)
    ends 2
  else failsAs self 2 2 ("Illegal option -" ++ String.singleton letter)

/-- The options in front of arguments, letters after a dash, and the other arguments. -/
def cutOptions : List String → List Char × List String
  | [] => ([], [])
  | arg :: args =>
    match arg.toList with
    | '-' :: c :: cs =>
      if arg == "--" then ([], args)
      else
        let (letters, rest) := cutOptions args
        (c :: cs ++ letters, rest)
    | _ => ([], arg :: args)

/-- A command is done with its options, unless one of them is unknown. -/
def withOptions (self known usage : String) (args : List String)
    (act : List Char → List String → Work Unit) : Work Unit := do
  let (letters, rest) := cutOptions args
  match letters.find? fun c => !known.toList.contains c with
  | some c => illegalOption self c usage
  | none => act letters rest

/-- A number that a command is given. -/
def illegalNumber (self text : String) : Work Unit :=
  wrong self ("Illegal number: " ++ text) (text ++ ": numeric argument required")

/-! ## Printing -/

/-- What a shell prints goes to the output stream; it fails if that cannot be written. -/
def printAs (self text : String) : Work Bool := do
  let written ← writeTo 1 text
  if written == .taken then return true
  if (← get).rich then
    say (self ++ ": write error: " ++
      (if written == .noRoom then "No space left on device" else "Bad file descriptor"))
  else say (self ++ ": " ++ self ++ ": I/O error")
  return false

/-- The kind of shell as a printer. -/
def printer (m : Machine) : Printing.Printer := if m.rich then .rich else .plain

/-- Arguments are printed. -/
def echo (args : List String) : Work Unit := do
  endsAs (← printAs "echo" (Printing.echo (printer (← get)) args))

/-- The seconds that an argument gives as a time: -1 is now. -/
def timeText (m : Machine) (form text : String) : String :=
  let now := m.world.now
  let seconds := match text.toInt? with
    | some n => if n < 0 then now else n
    | none => now
  Calendar.shown seconds (if form == "" then "%X" else form)

/-- Printing by a format, into a variable if one is named. -/
def printf (args : List String) : Work Unit := do
  let m ← get
  let usage : Work Unit := do
    if m.rich then complain "printf: usage: printf [-v var] format [arguments]"
    else say "printf: usage: printf format [arg ...]"
    ends 2
  let printed := fun (put : String → Work Bool) (form : String) (args : List String) => do
    let (text, complaints, broken) := Printing.format (printer m) (timeText m) form args
    let written ← put text
    complaints.forM fun c => say ("printf: " ++ c.1)
    match broken with
    | some words =>
      say ("printf: " ++ words)
      ends (if m.rich then 1 else 2)
    | none => endsAs (written && !complaints.any Prod.snd)
  let toVariable := fun (name text : String) => do
    assign name text
    return true
  match if args.head? == some "--" then args.tail else args with
  | [] => usage
  | "-v" :: name :: form :: rest =>
    if m.rich then printed (toVariable name) form rest
    else illegalOption "printf" 'v' ""
  | form :: rest =>
    match form.toList with
    | '-' :: c :: _ =>
      if args.head? == some form then
        illegalOption "printf" c "printf [-v var] format [arguments]"
      else printed (printAs "printf") form rest
    | _ => printed (printAs "printf") form rest

/-! ## Testing -/

/-- A test as a command. -/
def test (self : String) (args : List String) : Work Unit := do
  let m ← get
  match Testing.tested m args with
  | .ok holds => endsAs holds
  | .error fault =>
    say (self ++ ": " ++ fault.words (printer m) args)
    ends 2

/-- A test in brackets. -/
def bracketed (args : List String) : Work Unit := do
  if args.getLast? == some "]" then test "[" args.dropLast
  else
    say (if (← get).rich then "[: missing \x60]'" else "[: missing ]")
    ends 2

end ApkForge.Script.Builtin
