-- The commands of a shell that end loops, functions and scripts, that send and await signals, and
-- that give commands other names.
import ApkForge.Script.Builtin.Variables

namespace ApkForge.Script.Builtin

open Work

/-! ## Ways out -/

/-- A status that a command is given, or the one that the shell has. -/
def statusFor (self : String) (args : List String) (act : Nat → Work Unit) : Work Unit := do
  let m ← get
  match args with
  | [] => act m.status
  | text :: more =>
    if m.rich then
      match Number.decimal? text with
      | none =>
        say (self ++ ": " ++ text ++ ": numeric argument required")
        act 2
      | some n =>
        if !more.isEmpty then
          say (self ++ ": too many arguments")
          ends 1
          throw .discard
        act (Int.emod n 256).toNat
    else match Number.count? text with
      | some n => act n
      | none => illegalNumber self text

/-- The script ends. -/
def exit (args : List String) : Work Unit := statusFor "exit" args fun status => exits status

/-- What the script defined, or a text that is run in place, ends. -/
def return_ (args : List String) : Work Unit := do
  let m ← get
  if m.rich && m.frames.isEmpty && m.sourced == 0 then
    say "return: can only \x60return' from a function or sourced script"
    ends 2
  else statusFor "return" args fun status => do
    ends status
    throw .back

/-- As many loops are left, or begin their next turn, as there are or as are wanted. -/
def leaveLoops (self : String) (again : Bool) (args : List String) : Work Unit := do
  let m ← get
  let leave := fun (n : Nat) => do
    ends 0
    if m.loops == 0 then
      if m.rich then
        say (self ++ ": only meaningful in a \x60for', \x60while', or \x60until' loop")
    else throw (.loop again (min n m.loops))
  match args with
  | [] => leave 1
  | text :: _ =>
    match Number.decimal? text with
    | none =>
      if m.rich then
        say (self ++ ": " ++ text ++ ": numeric argument required")
        exits 128
      else illegalNumber self text
    | some n =>
      if 0 < n then leave n.toNat
      else if m.rich then
        say (self ++ ": " ++ text ++ ": loop count out of range")
        ends 1
        if 0 < m.loops then throw (.loop false m.loops)
      else illegalNumber self text

/-! ## Signals -/

/-- The signal that a text means: by its number or its name. A rich shell takes small letters and a
longer name too. -/
def signal? (rich : Bool) (text : String) : Option String :=
  match text.toNat? with
  | some n => signals[n]?
  | none =>
    let name := if rich then text.map Char.toUpper else text
    let name := if rich then (String.ofList <$> Text.dropHead? "SIG".toList name.toList).getD name
      else name
    if signals.contains name || (rich && ["ERR", "DEBUG", "RETURN"].contains name) then some name
    else none

/-- The name of a signal in a listing of traps. -/
def trapName (rich : Bool) (signal : String) : String :=
  let isSignal := signals.contains signal && signal != "EXIT"
  if rich && isSignal then "SIG" ++ signal else signal

/-- Signals in columns, with their numbers. -/
def signalTable : String :=
  let entry := fun (n : Nat) =>
    let number := toString n
    String.ofList (List.replicate (2 - number.length) ' ') ++ number ++ ") SIG" ++ signals.getD n ""
  let shown := (List.range 32).drop 1
  String.join (shown.map fun n =>
    entry n ++ (if n % 5 == 0 || n == 31 then "\n" else "\t"))

/-- The traps that are set are shown. -/
def listTraps (names : List String) : Work Unit := do
  let m ← get
  (signals ++ ["ERR", "DEBUG", "RETURN"]).forM fun signal =>
    match m.traps.lookup signal with
    | some text =>
      if names.isEmpty || names.contains signal then
        printLine ("trap -- " ++ inQuotes text ++ " " ++ trapName m.rich signal)
      else return ()
    | none => return ()
  ends 0

/-- Text is kept to be run at the end of the script or when a signal comes. -/
def trap (args : List String) : Work Unit := do
  let m ← get
  withOptions "trap" (if m.rich then "lp" else "") "trap [-lp] [[arg] signal_spec ...]"
    (if args.head? == some "-" then "--" :: args else args) fun letters rest => do
      if letters.contains 'l' then
        print signalTable
        ends 0
      else if rest.isEmpty || letters.contains 'p' then
        listTraps (rest.filterMap (signal? m.rich))
      else
        let resets := rest.length == 1 || ((rest.headD "").toNat?).isSome
        let (action, names) := if resets && rest.head? != some "-" then ("-", rest)
          else (rest.headD "", rest.tail)
        ends 0
        names.forM fun name => do
          match signal? m.rich name with
          | none =>
            if m.rich then say ("trap: " ++ name ++ ": invalid signal specification")
            else complain ("trap: " ++ name ++ ": bad trap")
            ends 1
          | some signal =>
            modify fun m =>
              let others := m.traps.filter fun t => t.1 != signal
              { m with traps := if action == "-" then others else (signal, action) :: others }

/-- How signals are sent. -/
def killUsage (rich : Bool) : String :=
  if rich then
    "kill: usage: kill [-s sigspec | -n signum | -sigspec] pid | jobspec ... or kill -l [sigspec]"
  else "kill: Usage: kill [-s sigspec | -signum | -sigspec] [pid | job]... or\nkill -l [exitstatus]"

/-- Signals are listed, or one of them is named by a number or a status. -/
def listSignals (args : List String) : Work Unit := do
  let m ← get
  if args.isEmpty then
    if m.rich then print signalTable
    else (signals.drop 1).foldl (fun act name => act *> printLine name) (printLine "0")
    ends 0
  else
    ends 0
    args.forM fun arg => do
      let number := arg.toNat?.map fun n => if 128 < n then n - 128 else n
      match number with
      | some n =>
        if n < 32 && (n != 0 || m.rich) then printLine (signals.getD n "")
        else if m.rich then
          say ("kill: " ++ arg ++ ": invalid signal specification")
          ends 1
        else failsAs "kill" 2 1 ("invalid signal number or exit status: " ++ arg)
      | none =>
        match (signal? true arg).filter fun _ => m.rich with
        | some signal => printLine (toString (signalNumber signal))
        | none =>
          wrong "kill" ("Illegal number: " ++ arg) (arg ++ ": invalid signal specification")

/-- The process that a text means: by its number, or as one that was not waited for. -/
def processOf (m : Machine) (text : String) : Option Nat :=
  match text.toList with
  | '%' :: cs =>
    let own := m.world.jobs.filter fun j => j.parent == m.process && !j.gone
    match (String.ofList cs).toNat? with
    | some n => if n == 0 then none else (own[n - 1]?).map Job.process
    | none => own.getLast?.map Job.process
  | _ => Number.count? text

/-- A signal is sent to a process. This process, if it is the one, does what it keeps for the
signal, or ends. -/
def send (perform : String → Work Unit) (signal text : String) : Work Unit := do
  let m ← get
  let unknown := fun (plain rich : String) => failsAs "kill" 1 1 (if m.rich then rich else plain)
  match processOf m text with
  | none =>
    if Text.beginsWith "%" text then
        wrong "kill" ("No such job: " ++ text) (text ++ ": no such job")
    else if (m.rich && Text.beginsWith "-" text) then
        unknown "" ("(" ++ text ++ ") - No such process")
    else wrong "kill" ("Illegal number: " ++ text) (text ++
        ": arguments must be process or job IDs")
  | some process =>
    let number := signalNumber signal
    if process == m.process || process == m.shell then
      if signal == "EXIT" then return ()
      match if signal == "KILL" then none else m.traps.lookup signal with
      | some text => if process == m.process then perform text
      | none => if !idleSignals.contains signal then throw (.killed process number)
    else
      match m.world.jobs.find? fun j => j.process == process && !j.gone with
      | some _ =>
        if signal != "EXIT" && !idleSignals.contains signal then
          set { m with world := m.world.stop process number }
      | none => unknown "No such process\n" ("(" ++ text ++ ") - No such process")

/-- A signal is sent to processes. -/
def sendAll (perform : String → Work Unit) (signal : String) (targets : List String) :
    Work Unit := do
  if targets.isEmpty then
    let m ← get
    if m.rich then complain (killUsage true) else say (killUsage false)
    ends 2
  else
    ends 0
    targets.forM (send perform signal)

/-- A signal is sent, one that ends a process if none is named. -/
def kill (perform : String → Work Unit) (args : List String) : Work Unit := do
  let m ← get
  let named := fun (name : String) (targets : List String) =>
    match signal? m.rich name with
    | some signal => sendAll perform signal targets
    | none =>
      wrong "kill" ("invalid signal number or name: " ++ name) (name ++
          ": invalid signal specification")
  match args with
  | "-l" :: rest => listSignals rest
  | "-L" :: rest => listSignals rest
  | "-s" :: name :: targets => named name targets
  | "-n" :: name :: targets => named name targets
  | "--" :: targets => sendAll perform "TERM" targets
  | first :: rest =>
    match first.toList with
    | '-' :: c :: cs =>
      let name := String.ofList (c :: cs)
      let targets := if rest.head? == some "--" then rest.tail else rest
      match signal? m.rich name with
      | some signal => sendAll perform signal targets
      | none =>
        wrong "kill" ("Illegal option -" ++ String.singleton c)
          (name ++ ": invalid signal specification")
    | _ => sendAll perform "TERM" args
  | [] => sendAll perform "TERM" []

/-! ## Processes that were not waited for -/

/-- Processes are waited for. -/
def wait (args : List String) : Work Unit := do
  let m ← get
  let own := m.world.jobs.filter fun j => j.parent == m.process && !j.gone
  match args with
  | [] =>
    Child.waitForAll
    ends 0
  | ["-n"] =>
    match sortBy (fun (a b : Job) => decide (a.finish < b.finish)) own with
    | first :: _ => ends ((← Child.waitFor first.process).getD 127)
    | [] => ends 127
  | args =>
    args.forM fun text => do
      match processOf (← get) text with
      | none =>
        if Text.beginsWith "%" text then
            wrong "wait" ("No such job: " ++ text) (text ++ ": no such job")
        else
          wrong "wait" ("Illegal number: " ++ text) ("\x60" ++ text ++
              "': not a pid or valid job spec")
      | some process =>
        match ← Child.waitFor process with
        | some status => ends status
        | none =>
          if m.rich then
            say ("wait: pid " ++ toString process ++ " is not a child of this shell")
          ends 127

/-- The processes that were not waited for cannot be taken up again in a script. -/
def resume (self : String) (_args : List String) : Work Unit := do
  if (← get).rich then
    say (self ++ ": no job control")
    ends 1
  else
    say (self ++ ": No current job")
    ends 2

/-- A process that was not waited for is let go of. -/
def disown (args : List String) : Work Unit := do
  let m ← get
  if args.isEmpty && !m.world.jobs.any fun j => j.parent == m.process && !j.gone then
    say "disown: current: no such job"
    ends 1
  else ends 0

/-- The time that the script has worked, which is none. -/
def times (_args : List String) : Work Unit := do
  let zero := if (← get).rich then "0m0.000s 0m0.000s" else "0m0.000000s 0m0.000000s"
  printLine zero
  printLine zero
  ends 0

/-! ## Other names -/

/-- Commands get other names, or these are shown. -/
def alias_ (args : List String) : Work Unit := do
  let m ← get
  let args := if args.head? == some "-p" || args.head? == some "--" then args.tail else args
  let front := if m.rich then "alias " else ""
  let shown := fun (a : String × String) => printLine (front ++ a.1 ++ "=" ++ inQuotes a.2)
  if args.isEmpty then (sortBy (fun a b => decide (a.1 < b.1)) m.aliases).forM shown
  ends 0
  args.forM fun arg => do
    let (name, value?) := cutDefinition arg
    match value? with
    | some value =>
      modify fun m => { m with aliases := (name, value) :: m.aliases.filter fun a => a.1 != name }
    | none =>
      match m.aliases.lookup name with
      | some value => shown (name, value)
      | none =>
        if m.rich then say ("alias: " ++ name ++ ": not found")
        else complain ("alias: " ++ name ++ " not found")
        ends 1

/-- Commands lose their other names. -/
def unalias (args : List String) : Work Unit :=
  withOptions "unalias" "a" "unalias [-a] name [name ...]" args fun letters names => do
    ends 0
    if letters.contains 'a' then modify fun m => { m with aliases := [] }
    else names.forM fun name => do
      let m ← get
      if (m.aliases.lookup name).isSome then
        set { m with aliases := m.aliases.filter fun a => a.1 != name }
      else
        if m.rich then say ("unalias: " ++ name ++ ": not found")
        else complain ("unalias: " ++ name ++ " not found")
        ends 1

/-! ## Options of a rich shell -/

/-- The options that a rich shell has besides those with letters. -/
def shellOptions : List String :=
  ["autocd", "cdspell", "checkhash", "checkwinsize", "cmdhist", "dotglob", "execfail",
    "expand_aliases", "extglob", "failglob", "globstar", "inherit_errexit", "lastpipe",
        "nocaseglob",
    "nocasematch", "nullglob", "promptvars", "shift_verbose", "sourcepath", "xpg_echo"]

/-- Such options are turned on or off, asked for or shown. -/
def shopt (args : List String) : Work Unit :=
  withOptions "shopt" "supqo" "shopt [-pqsu] [-o] [optname ...]" args fun letters names => do
    let m ← get
    let known := if letters.contains 'o' then optionNames true else shellOptions
    ends 0
    let sets := letters.contains 's' || letters.contains 'u'
    if names.isEmpty && !letters.contains 'q' then
      known.forM fun name =>
        if sets && m.has name != letters.contains 's' then return ()
        else printLine (column 15 name ++ "\t" ++ (if m.has name then "on" else "off"))
    names.forM fun name => do
      if !known.contains name then
        say ("shopt: " ++ name ++ ": invalid shell option name")
        ends 1
      else if sets then modify fun m => m.setOption (letters.contains 's') name
      else
        if !m.has name then ends 1
        if !letters.contains 'q' then
          printLine (if letters.contains 'p' then
              "shopt " ++ (if m.has name then "-s " else "-u ") ++ name
            else column 15 name ++ "\t" ++ (if m.has name then "on" else "off"))

end ApkForge.Script.Builtin
