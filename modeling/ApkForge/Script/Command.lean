-- Simple commands: what their words mean, which command their name means, and how it is started.
import ApkForge.Script.Builtin.Table
import ApkForge.Script.Program.Table
import ApkForge.Script.Running
import ApkForge.Script.Trace

namespace ApkForge.Script

open Work

/-! ## New processes -/

/-- The variables that a shell has besides those that it is given. -/
def Machine.ownVars (rich : Bool) : List (String × String) :=
  [("IFS", " \t\n"), ("OPTIND", "1"), ("PS4", "+ "), ("PPID", "4710")] ++
    if rich then
      [("BASH", "/bin/bash"), ("BASH_VERSION", "5.2.15(1)-release"), ("UID", "0"), ("EUID", "0"),
        ("OSTYPE", "linux-gnu"), ("HOSTTYPE", "x86_64"), ("HOSTNAME", "localhost"),
        ("MACHTYPE", "x86_64-pc-linux-gnu"), ("OPTERR", "1")]
    else []

/-- The variables that a program gets, the last one first. A shell passes them on in the order in
which it keeps them, a rich one those that were set for the program before the others. -/
def Machine.passed (m : Machine) : List (String × Variable) :=
  let kept := m.vars.filter fun v => v.2.shared && v.2.value.isSome
  let sorted := fun (slot : String → Nat) (vars : List (String × Variable)) =>
    sortBy (fun a b => decide (slot a.1 < slot b.1)) vars
  if !m.isShell then kept
  else if m.rich then
    let (own, others) := kept.partition fun v => m.given.contains v.1
    (sorted (fun name => Machine.slotOf name % 4) own ++ sorted Machine.slotOf others).reverse
  else (sorted Machine.plainSlotOf kept.reverse).reverse

/-- The machine of a new program: it has the shared variables only. -/
def Machine.fresh (m : Machine) (name : String) : Machine :=
  let plain := m.passed.map fun v =>
    (v.1, { value := (v.2.value.bind fun value => value.element? "0").map Value.text
            shared := true : Variable })
  { world := m.world, rich := false, name, vars := plain, here := m.here, streams := m.streams
    process := m.process, programs := m.programs, shell := m.process, mask := m.mask
    traps := m.traps.filter fun t => t.2 == "" }

/-- The machine of a new shell, which has variables of its own. -/
def Machine.asShell (m : Machine) (rich : Bool) : Machine :=
  let isOwn := fun (v : String × Variable) =>
    ["IFS", "OPTIND", "PS4", "PPID"].contains v.1
  let own := (Machine.ownVars rich).map fun v =>
    (v.1, { value := some (Value.text v.2) : Variable })
  let kept := m.vars.filter fun v => !isOwn v
  let path := if (kept.lookup "PATH").isSome then []
    else [("PATH", { value := some (Value.text Image.usualPath) : Variable })]
  let isRight := match (kept.lookup "PWD").bind Variable.value with
    | some (.text pwd) =>
      Text.beginsWith "/" pwd &&
        ((m.world.disk.walk [] pwd).toOption.map FileTree.Arrival.place) == some m.here
    | _ => false
  let level := (((kept.lookup "SHLVL").bind Variable.value).map fun v => match v with
    | .text t => (t.toInt?.getD 0)
    | _ => 0).getD 0
  let usual := if rich then ["hashall", "braceexpand", "interactive-comments"] else []
  let m :=
    { m with rich, isShell := true, vars := kept ++ own ++ path, options := usual ++ m.options }
  let m := if rich then m.changeVar "SHLVL" fun v =>
      { v with value := some (.text (toString (level + 1))), shared := true } else m
  if isRight then m
  else m.changeVar "PWD" fun v =>
    { v with value := some (.text (Disk.pathOf m.here)), shared := true }

/-! ## Shells as programs -/

/-- How a shell was called: the options that it turns on or off, the text of a command, and what
else it was given. -/
structure Invocation where
  options : List (Bool × String) := []
  isCommand : Bool := false
  fromInput : Bool := false
  rest : List String := []
deriving Inhabited

/-- The options of a shell from its arguments, or what is wrong with them. -/
def Invocation.read (rich : Bool) : Nat → List String → Invocation → Except String Invocation
  | 0, args, i => .ok { i with rest := args }
  | _, [], i => .ok i
  | fuel + 1, arg :: args, i =>
    match arg.toList with
    | ['-'] => .ok { i with rest := args }
    | ['-', '-'] => .ok { i with rest := args }
    | sign :: c :: cs =>
      let next := if cs.isEmpty then args else String.ofList (sign :: cs) :: args
      if sign != '-' && sign != '+' then .ok { i with rest := arg :: args }
      else if rich && c == '-' then
        if ["--norc", "--noprofile", "--posix", "--login", "--verbose", "--noediting",
            "--restricted"].contains arg then Invocation.read rich fuel args i
        else .error (arg ++ ": invalid option")
      else if c == 'c' then Invocation.read rich fuel next { i with isCommand := true }
      else if c == 's' then Invocation.read rich fuel next { i with fromInput := true }
      else if c == 'l' then Invocation.read rich fuel next i
      else if c == 'o' then
        match args with
        | name :: after =>
          let next := if cs.isEmpty then after else String.ofList (sign :: cs) :: after
          if (Builtin.optionNames rich).contains name then
            Invocation.read rich fuel next { i with options := i.options ++ [(sign == '-', name)] }
          else .error
            (if rich then name ++ ": invalid option name" else "Illegal option -o " ++ name)
        | [] => .ok i
      else match Machine.optionLetters.lookup c with
        | some name =>
          if !rich && !Machine.plainLetters.contains c then
            .error ("Illegal option " ++ String.ofList ['-', c])
          else
            let options := i.options ++ [(sign == '-', name)]
            Invocation.read rich fuel next { i with options }
        | none =>
          .error (if rich then String.ofList [sign, c] ++ ": invalid option"
            else "Illegal option " ++ String.ofList ['-', c])
    | _ => .ok { i with rest := arg :: args }

/-- How a rich shell is called. -/
def richUsage : String :=
  "Usage:\tbash [GNU long option] [option] ...\n" ++
    "\tbash [GNU long option] [option] script-file ...\n" ++
    "GNU long options:\n\t--debug\n\t--debugger\n\t--dump-po-strings\n" ++
    "\t--dump-strings\n\t--help\n" ++
    "\t--init-file\n\t--login\n\t--noediting\n\t--noprofile\n\t--norc\n\t--posix\n" ++
    "\t--pretty-print\n\t--rcfile\n\t--restricted\n\t--verbose\n\t--version\nShell options:\n" ++
    "\t-ilrsD or -c command or -O shopt_option\t\t(invocation only)\n" ++
    "\t-abefhkmnptuvxBCEHPT or -o option"

/-- The text of a script is run to its end. -/
def runWhole (run : Run) (text : String) : Work Unit := withEnding run do
  match ← runText run text with
  | .unread status => ends status
  | _ => return ()

/-- A shell is run with arguments. -/
def runShell (run : Run) (rich : Bool) (self : String) (args : List String) : Work Unit := do
  modify fun m => { m.asShell rich with name := self, lastArg := (m.var "_").getD self }
  let wrong := fun (words : String) (status : Nat) => do
    complain (self ++ (if rich then ": " else ": 0: ") ++ words)
    ends status
  match Invocation.read rich (Program.roomFor args) args {} with
  | .error words =>
    wrong words 2
    if rich then complain richUsage
  | .ok i =>
    modify fun m => i.options.foldl (fun m o => m.setOption o.1 o.2) m
    if i.isCommand then
      match i.rest with
      | [] =>
        wrong (if rich then "-c: option requires an argument" else "-c requires an argument") 2
      | text :: rest =>
        modify fun m => { m with name := rest.headD self, args := rest.tail
                                 label := if rich then "-c: " else "" }
        runWhole run text
    else match if i.fromInput then none else i.rest.head? with
      | none =>
        modify fun m => { m with args := i.rest }
        runWhole run (← readAll 0)
      | some file =>
        modify fun m => { m with name := file, args := i.rest.tail }
        modify fun m => if rich then m.put "BASH_SOURCE" file else m
        match ← Program.inputOf file with
        | .ok text => runWhole run text
        | .error .isDirectory => if rich then wrong (file ++ ": Is a directory") 126 else ends 0
        | .error fault =>
          if rich then wrong (file ++ ": " ++ Streams.words fault) 127
          else wrong (Streams.openFault false false file fault) 2

/-! ## Starting programs -/

/-- The file that a name means as a program, which names no interpreter itself. -/
def plainScript (m : Machine) (rich : Bool) (name : String) (args : List String) : Image :=
  let path := (Image.pathOf m.world.disk m.here (Image.searchPath m) name).toOption
  .shell rich (if rich then "bash" else "/bin/sh") (path.getD name :: args)

mutual

/-- A program that is found is run, in a process that it has for itself, so deep. -/
def begin (run : Run) : Nat → Image → Work Unit
  | 0, _ => giveUp
  | depth + 1, image => do
    modify fun m => { m with programs := m.programs + 1 }
    match image with
    | .shell rich self args => runShell run rich self args
    | .program name self args =>
      modify fun m => { m with name := self }
      match Program.find? (launcher run depth) name self with
      | some act => act args
      | none => ends 127

/-- How programs start others. A file that names no interpreter is a script. -/
def launcher (run : Run) : Nat → Launcher
  | 0 => ⟨fun _ _ => giveUp⟩
  | depth + 1 => ⟨fun name args => do
    match Image.findFor (← get) name args with
    | .ok image =>
      let ending ← Child.process (fun m => m.fresh name) (begin run depth image)
      match ending.signal with
      | some signal => throw (.killed (← get).process signal)
      | none => ends ending.status
      return none
    | .error .notProgram =>
      let ending ← Child.process (fun m => m.fresh name)
        (begin run depth (plainScript (← get) false name args))
      ends ending.status
      return none
    | .error fault => return some fault⟩

end

/-- How many programs may start one another. -/
def mostPrograms : Nat := 40

/-- A program that is found is run as a process of its own. A rich shell tells it the path. -/
def startImage (run : Run) (path : String) (image : Image) : Work Unit := do
  let prepare := fun (m : Machine) =>
    if m.rich then (m.fresh m.name).share "_" path else m.fresh m.name
  let ending ← Child.process prepare (begin run mostPrograms image)
  Child.tell ending
  ends ending.status

/-- A program that is found takes the place of the shell. -/
def becomeImage (run : Run) (image : Image) : Work Unit := do
  modify fun m => m.fresh m.name
  begin run mostPrograms image
  throw .exit

/-- The status and words for a program that cannot be started, at a path or nowhere. -/
def startFault (m : Machine) (path : Option String) (fault : FileFault) : Nat × String :=
  match path with
  | none =>
    if m.rich then (127, "command not found")
    else (127, if fault == .denied then Streams.words fault else "not found")
  | some path =>
    if !m.rich then
      if fault == .missing || fault == .notDirectory then (127, "not found")
      else (126, Streams.words fault)
    else match fault with
      | .missing =>
        (127, if m.world.disk.has m.here path then "cannot execute: required file not found"
          else Streams.words fault)
      | .denied =>
        (126, if m.world.disk.isDir m.here path then "Is a directory" else "Permission denied")
      | other => (126, Streams.words other)

/-- A path at which a program was found before, from the directory that it is run in. -/
def dotted (m : Machine) (path : String) : String :=
  let fromHere := "./" ++ path
  if !Text.beginsWith "/" path && !Text.beginsWith "./" path &&
    Image.isRunnable m.world.disk m.here fromHere then fromHere else path

/-- Where a shell finds a program: where it was found before, in a rich shell, or on the search
path. -/
def lookedUp (m : Machine) (name : String) : Except FileFault String :=
  match if m.rich then m.hashed.lookup name else none with
  | some (path, _) => .ok (dotted m path)
  | none => Image.lookUp m.world.disk m.here m.rich (Image.searchPath m) name

/-- The path at which a program was found is remembered, with how often it is used. -/
def remember (name : String) (uses : Nat) : Work Unit := do
  let m ← get
  if !name.toList.contains '/' then
    let others := m.hashed.filter fun h => h.1 != name
    match m.hashed.lookup name with
    | some (path, before) =>
      if m.rich then set { m with hashed := others ++ [(name, path, before + 1)] }
    | none =>
      match Image.lookUp m.world.disk m.here m.rich (Image.searchPath m) name with
      | .ok path => set { m with hashed := others ++ [(name, path, uses)] }
      | .error _ => return ()

/-- A program by its name and where a shell found it, if it can be started. A plain shell goes on
from there. -/
def findProgram (m : Machine) (name path : String) (args : List String) : Except FileFault Image :=
  let found := if m.rich then Image.loadFor m name path args
    else Image.findFrom m name path args
  match found with
  | .error .notProgram => .ok (plainScript m m.rich (if m.rich then path else name) args)
  | found => found

/-- A program by its name is started. -/
def startNamed (run : Run) (name : String) (args : List String) : Work Unit := do
  let m ← get
  let refuse := fun (path : Option String) (fault : FileFault) => do
    let (status, words) := startFault m path fault
    report ((if m.rich then path.getD name else name) ++ ": " ++ words)
    ends status
  match lookedUp m name with
  | .error fault => refuse none fault
  | .ok path =>
    remember name 1
    match findProgram m name path args with
    | .ok image => startImage run path image
    | .error fault => refuse (some path) fault

/-- A path from the root. -/
def fromRoot (m : Machine) (path : String) : String :=
  if Text.beginsWith "/" path then path else
    let shown := if Text.beginsWith "./" path then String.ofList (path.toList.drop 2) else path
    Disk.pathOf m.here ++ "/" ++ shown

/-- A program by its name takes the place of the shell, or the script ends. -/
def becomeNamed (run : Run) (name : String) (args : List String) : Work Unit := do
  let m ← get
  if !m.rich then
    match Image.findFor m name args with
    | .ok image => becomeImage run image
    | .error .notProgram => becomeImage run (plainScript m false name args)
    | .error fault =>
      let (status, words) := startFault m (some name) fault
      say ("exec: " ++ name ++ ": " ++ words)
      exits status
  else match lookedUp m name with
    | .error _ =>
      say ("exec: " ++ name ++ ": not found")
      exits 127
    | .ok path =>
      let path := fromRoot m path
      match findProgram m name path args with
      | .ok image =>
        modify fun m => if (m.var? "SHLVL").isNone then m
          else m.put "SHLVL" (toString ((((m.var "SHLVL").bind String.toInt?).getD 0) - 1))
        becomeImage run image
      | .error fault =>
        let (status, words) := startFault m (some path) fault
        say (path ++ ": " ++ words)
        if status != 127 then say ("exec: " ++ path ++ ": cannot execute: " ++ words)
        exits status

/-! ## What names mean -/

/-- The path of a program that a name means. A plain shell takes a path as it is. -/
def programPath? (m : Machine) (name : String) : Option String :=
  if name.toList.contains '/' then
    let fits := if m.rich then Image.isRunnable m.world.disk m.here name
      else (m.world.disk.stat m.here name).toOption.isSome
    if fits then some name else none
  else if m.rich && (m.hashed.lookup name).isSome then (lookedUp m name).toOption
  else (Image.runnables m.world.disk m.here (Image.searchPath m) name).head?

/-- What a name means as a command: which kind, and its text. -/
def meaningOf (m : Machine) (name : String) : Option (String × String) :=
  if let some value := m.aliases.lookup name then some ("alias", value)
  else if isReserved m.rich name then some ("keyword", name)
  else if (m.functions.lookup name).isSome then some ("function", name)
  else if Builtin.isKnown m.rich name then some ("builtin", name)
  else (programPath? m name).map fun path => ("file", path)

/-- What a name means as a command, in words. -/
def meaningWords (m : Machine) (name kind text : String) : String :=
  match kind with
  | "alias" => if m.rich then name ++ " is aliased to \x60" ++ text ++ "'"
    else name ++ " is an alias for " ++ text
  | "keyword" => name ++ " is a shell keyword"
  | "function" => if m.rich then name ++ " is a function" else name ++ " is a shell function"
  | "builtin" =>
    if !m.rich && Builtin.special.contains name then name ++ " is a special shell builtin"
    else name ++ " is a shell builtin"
  | _ => name ++ " is " ++ text

/-- What a name means as a command first, in words. -/
def describe (m : Machine) (name : String) : Option String :=
  (meaningOf m name).map fun (kind, text) =>
    if kind == "file" && (m.hashed.lookup name).isSome then
      if m.rich then name ++ " is hashed (" ++ text ++ ")"
      else name ++ " is a tracked alias for " ++ text
    else meaningWords m name kind text

/-- All that a name means as a command, in the order in which it would be taken. -/
def meaningsOf (m : Machine) (name : String) : List (String × String) :=
  let first := match meaningOf m name with
    | some (kind, text) => if kind == "file" then [] else [(kind, text)]
    | none => []
  let builtin := if first.any (fun f => f.1 != "builtin") && Builtin.isKnown m.rich name
    then [("builtin", name)] else []
  let files := if name.toList.contains '/' then (programPath? m name).toList
    else Image.runnables m.world.disk m.here (Image.searchPath m) name
  first ++ builtin ++ files.map fun path => ("file", path)

/-- A name that was found before is used once more. -/
def useAgain (name : String) : Work Unit := do
  let m ← get
  if m.rich && (m.hashed.lookup name).isSome &&
      ((meaningOf m name).map Prod.fst) == some "file" then
    remember name 0

/-- What names mean as commands is shown. -/
def describeAll (self : String) (names : List String) : Work Unit := do
  ends 0
  names.forM fun name => do
    let m ← get
    useAgain name
    match describe m name with
    | some text => printLine text
    | none =>
      if m.rich then
        say (self ++ ": " ++ name ++ ": not found")
        ends 1
      else
        printLine (name ++ ": not found")
        ends 127

/-- The command that a name means, as it could be written. -/
def whereIs (m : Machine) (name : String) : Option String :=
  (meaningOf m name).map fun (kind, text) =>
    if kind == "alias" then "alias " ++ name ++ "=" ++ Builtin.inQuotes text else text

/-- The commands that names mean are shown. -/
def showWhere (names : List String) : Work Unit := do
  ends 0
  names.forM fun name => do
    let m ← get
    useAgain name
    match whereIs m name with
    | some text => printLine text
    | none => ends (if m.rich then 1 else 127)

/-- What names mean as commands, in the forms that a rich shell knows. -/
def typeOf (args : List String) : Work Unit := do
  let m ← get
  if !m.rich then describeAll "type" args
  else
    let usage := "type [-afptP] name [name ...]"
    Builtin.withOptions "type" "afptP" usage args fun letters names => do
    ends 0
    names.forM fun name => do
      let m ← get
      let meanings :=
        if letters.contains 'P' then
          let files := (meaningsOf m name).filter fun f => f.1 == "file"
          if letters.contains 'a' then files else files.take 1
        else if letters.contains 'a' then meaningsOf m name
        else (meaningOf m name).toList
      if !letters.contains 'a' then useAgain name
      if meanings.isEmpty then
        if !letters.any "tpP".toList.contains then say ("type: " ++ name ++ ": not found")
        ends 1
      else if letters.contains 't' then meanings.forM fun f => printLine f.1
      else if letters.contains 'p' || letters.contains 'P' then
        (meanings.filter fun f => f.1 == "file").forM fun f => printLine f.2
      else if letters.contains 'a' then
        meanings.forM fun f => printLine (meaningWords m name f.1 f.2)
      else printLine ((describe m name).getD "")

/-- Where programs were found is shown, or looked up. -/
def hash (args : List String) : Work Unit := do
  let m ← get
  match args with
  | [] =>
    if m.rich then
      if m.hashed.isEmpty then printLine "hash: hash table empty"
      else
        printLine "hits\tcommand"
        m.hashed.forM fun h =>
          printLine (Calendar.padded ' ' 4 (h.2.2 : Nat) ++ "\t" ++ h.2.1)
    else m.hashed.forM fun h => printLine h.2.1
    ends 0
  | ["-r"] => set { m with hashed := [], status := 0 }
  | names =>
    ends 0
    names.forM fun name => do
      modify fun m => { m with hashed := m.hashed.filter fun h => h.1 != name }
      match programPath? (← get) name with
      | some _ => remember name 0
      | none =>
        if !Builtin.isKnown m.rich name then
          let (_, words) := startFault m none
            (match lookedUp m name with | .error fault => fault | .ok _ => .missing)
          say ("hash: " ++ name ++ ": " ++ if m.rich then "not found" else words)
          ends 1

/-! ## Commands -/

/-- A command that the script defined, with its own arguments and local variables. -/
def call (run : Run) (name : String) (body : Node) (args : List String) : Work Unit := do
  let m ← get
  let home := (m.homes.lookup name).getD m.file
  set { m with args, loops := 0, shift := 0, frames := { name } :: m.frames
               callers := ⟨name, m.line, home⟩ :: m.callers
               within := if m.rich then if home == m.name then "" else home else m.within }
  let restore : Work Unit := modify fun now =>
    let hidden := (now.frames.head?.map Frame.hidden).getD []
    { hidden.foldl Machine.restore now with
      args := m.args, loops := m.loops, shift := m.shift, frames := m.frames
      callers := m.callers, within := m.within, line := m.line }
  let atReturn : Work Unit := do
    let now ← get
    let text? := now.traps.lookup "RETURN"
    if m.rich && (text? != m.traps.lookup "RETURN" || now.has "functrace") then
      match text? with
      | some text => perform run (now.line - 1) text
      | none => pure ()
  match ← outcome (run body) with
  | .ok () =>
    atReturn
    restore
  | .error .back =>
    atReturn
    restore
  | .error leave =>
    restore
    throw leave

/-- The text of a file that is run in place. A name without a slash is searched for. -/
def sourceOf (m : Machine) (file : String) : Except FileFault String :=
  if file.toList.contains '/' then Program.textOf m file
  else
    let paths := (Text.split ':' (m.value "PATH")).map fun dir => Image.pathIn dir file
    let paths := if m.rich then paths ++ [file] else paths
    match paths.findSome? fun path => (Program.textOf m path).toOption with
    | some text => .ok text
    | none => .error .missing

/-- A command that runs a file in place gets none. -/
def sourceNothing (self : String) : Work Unit := do
  if (← get).rich then
    say (self ++ ": filename argument required")
    complain (self ++ ": usage: " ++ self ++ " filename [arguments]")
  ends 2

/-- The call that is being answered is shown, or one further out. -/
def callerOf (args : List String) : Work Unit := do
  let m ← get
  let names := m.callers.map Caller.name ++ ["main"]
  let files := m.callers.map Caller.file ++ [m.name]
  let lines := m.callers.map Caller.line
  match args with
  | [] =>
    match lines.head? with
    | none => printLine "0 NULL"
    | some line => printLine (toString line ++ " " ++ files.getD 1 "")
    ends 0
  | arg :: _ =>
    match arg.toNat? with
    | none => Builtin.failsAs "caller" 2 1 (arg ++ ": invalid number")
    | some n =>
      match lines[n]? with
      | some line =>
        printLine (toString line ++ " " ++ names.getD (n + 1) "" ++ " " ++ files.getD (n + 1) "")
        ends 0
      | none => ends 1

/-- A file is run in place. -/
def source (run : Run) (self file : String) (args : List String) : Work Unit := do
  let m ← get
  match sourceOf m file with
  | .ok text =>
    let inside := fun (m : Machine) =>
      { m with within := if m.rich then file else file ++ ": ", label := "", shift := 0
               sourced := m.sourced + 1, callers := ⟨"source", m.line, file⟩ :: m.callers
               args := if m.rich && !args.isEmpty then args else m.args }
    let restore : Work Unit := modify fun now =>
      let now := { now with callers := m.callers }
      if m.rich && !args.isEmpty then { now with args := m.args } else now
    match ← outcome (andThen (inPlace run inside text) restore) with
    | .ok () => return ()
    | .error .back => return ()
    | .error leave => throw leave
  | .error fault =>
    if m.rich && m.world.disk.isDir m.here file then
      say (self ++ ": " ++ file ++ ": is a directory")
      ends 1
    else if m.rich then
      say (file ++ ": " ++ Streams.words fault)
      ends 1
    else
      say (self ++ ": " ++ if file.toList.contains '/' then Streams.openFault false false file fault
        else file ++ ": not found")
      exits 2

/-- Arguments as a text of the script. -/
def evaluate (run : Run) (args : List String) : Work Unit := do
  let text := Text.join " " args
  let inside := fun (m : Machine) =>
    if m.rich then { m with label := "eval: ", shift := m.line - 1 }
    else { m with within := "eval: " }
  inPlace run inside text

mutual

/-- A command that the script did not define: one that runs other text, one that the shell knows, or
a program; so deep. -/
def known (run : Run) (name : String) (args : List Argument) : Nat → Work Unit
  | 0 => giveUp
  | depth + 1 => do
    let m ← get
    let texts := args.map Argument.written
    match name, texts with
    | "eval", texts => evaluate run texts
    | ".", file :: rest => source run "." file rest
    | ".", [] => sourceNothing "."
    | "source", file :: rest =>
      if m.rich then source run "source" file rest else startNamed run name texts
    | "source", [] => if m.rich then sourceNothing "source" else startNamed run name []
    | "caller", texts =>
      if m.rich then callerOf texts else startNamed run name texts
    | "exec", name :: rest => becomeNamed run name rest
    | "exec", [] => ends 0
    | "command", texts => commandAs run texts args depth
    | "builtin", [] => if m.rich then ends 0 else startNamed run "builtin" []
    | "builtin", name :: _ =>
      if !m.rich then startNamed run "builtin" texts
      else if Builtin.isKnown true name then known run name (args.drop 1) depth
      else
        say ("builtin: " ++ name ++ ": not a shell builtin")
        ends 1
    | "type", names => typeOf names
    | "hash", names => hash names
    | "kill", texts => Builtin.kill (perform run 0) texts
    | name, texts =>
      if m.rich && Builtin.declarers.contains name then Builtin.declare name args
      else match Builtin.known? m.rich name with
        | some act => act texts
        | none => startNamed run name texts

/-- A command that is not one that the script defined, or what such a command would be. -/
def commandAs (run : Run) (texts : List String) (args : List Argument) : Nat → Work Unit
  | 0 => giveUp
  | depth + 1 => do
    match texts with
    | [] => ends 0
    | "-p" :: rest => do
      let path := (← get).own? "PATH"
      modify fun m => m.put "PATH" Image.usualPath
      andThen (commandAs run rest (args.drop 1) depth) (modify fun m => m.restore ("PATH", path))
    | "--" :: rest => commandAs run rest (args.drop 1) depth
    | "-v" :: names => do showWhere (if (← get).rich then names else names.take 1)
    | "-V" :: names => do describeAll "command" (if (← get).rich then names else names.take 1)
    | name :: _ =>
      match name.toList with
      | '-' :: c :: _ => Builtin.illegalOption "command" c "command [-pVv] command [arg ...]"
      | _ => known run name (args.drop 1) depth

end

/-- How often a command may name another. -/
def mostNames : Nat := 40

/-- A command by its name: one that the script defined, or another. -/
def command (run : Run) (name : String) (args : List Argument) : Work Unit := do
  match (← get).functions.lookup name with
  | some body => call run name body (args.map Argument.written)
  | none => known run name args mostNames

/-! ## Simple commands -/

/-- A command keeps assignments among its arguments whole. -/
def declares (rich : Bool) (name : String) : Bool :=
  if rich then Builtin.declarers.contains name else ["export", "readonly", "local"].contains name

/-- The words of a command filled in from left to right. -/
def arguments (f : Filler) : Bool → Bool → List Word → Work (List Argument)
  | _, _, [] => return []
  | isFirst, declaring, w :: ws => do
    let rich := (← get).rich
    match if declaring then w.assigned? rich else none with
    | some a =>
      let s ← Setting.fill f a
      let rest ← arguments f false true ws
      return (if rich then .setting s else .text s.written) :: rest
    | none =>
      let texts ← f.args [w]
      let names := isFirst && (texts.isEmpty || texts == ["command"])
      let declaring := declaring || (isFirst && texts.head?.any (declares rich))
      return texts.map Argument.text ++ (← arguments f names declaring ws)

/-- A setting as it is traced. -/
def tracedSetting (rich : Bool) (s : Setting) : String :=
  match s.given with
  | .text t => if rich && t != "" then ({ s with given := .text (traced t) } : Setting).written
    else s.written
  | .elements list =>
    let item := fun (text : String) =>
      if text == "" || text.toList.any isTraceQuoted then "\x22" ++ text ++ "\x22" else text
    ({ s with given := .elements (list.map fun e => (e.1, item e.2)) } : Setting).written

/-- A traced script shows a command. A rich shell has a line for each variable. -/
def trace (streams : List (Nat × Nat)) (settings : List Setting) (args : List Argument) :
    Work Unit := do
  let m ← get
  if m.rich then
    settings.forM fun s => traceLine streams (tracedSetting true s)
    if !args.isEmpty then
      traceLine streams (Text.join " " (args.map fun a => traced a.written))
  else if !(settings.isEmpty && args.isEmpty) then
    traceLine streams (Text.join " " (settings.map Setting.written ++ args.map Argument.written))

/-- Variables that hold for one command and are passed on to it. -/
def withVariables (f : Filler) (assigned : List Assigned) (act : List Setting → Work Unit) :
    Work Unit := do
  if assigned.isEmpty then act []
  else
    let m ← get
    let names := assigned.map fun
      | .mk name _ _ _ => name
    let restore : Work Unit := modify fun now =>
      names.foldl (fun now name => now.restore (name, m.own? name)) { now with given := m.given }
    andThen (do
      let settings ← Setting.applyAll f assigned
      modify fun m => { m with given := names }
      modify fun m => names.foldl (fun m name => m.changeVar name fun v =>
        { v with shared := true }) m
      act settings) restore

/-- The command whose redirections stay. Alone it only moves streams. -/
def execute (run : Run) (f : Filler) (assigned : List Assigned) (args : List Argument)
    (redirects : List Redirect) : Work Unit := do
  let before ← get
  match ← Streams.redirectAll f redirects with
  | some complaint =>
    failsWith complaint
    if !before.rich then exits 2
    else if !args.isEmpty then exits 1
  | none =>
    let settings ← Setting.applyAll f assigned
    trace before.streams settings (.text "exec" :: args)
    match args.map Argument.written with
    | "-a" :: _ :: name :: rest => becomeNamed run name rest
    | "-c" :: name :: rest =>
      modify fun m => { m with vars := m.vars.map fun v => (v.1, { v.2 with shared := false }) }
      becomeNamed run name rest
    | "--" :: name :: rest => becomeNamed run name rest
    | name :: rest =>
      if !settings.isEmpty then
        modify fun m => settings.foldl
          (fun m s => m.changeVar s.name fun v => { v with shared := true }) m
      becomeNamed run name rest
    | [] => ends 0

/-- A simple command. Without words it sets variables, and its status is that of the last output
that was asked for. Its words are filled in before its streams are moved, its variables after. -/
def simple (run : Run) (line : Nat) (assigned : List Assigned) (words : List Word)
    (redirects : List Redirect) : Work Unit := do
  modify fun m => { m with line := line + m.shift, outputStatus := none }
  let f := filler run
  let before ← get
  let args ← arguments f true false words
  match args with
  | [] =>
    Streams.within f redirects do
      let settings ← Setting.applyAll f assigned
      trace before.streams settings []
      ends ((← get).outputStatus.getD 0)
      if before.rich then modify fun m => { m with lastArg := "" }
  | first :: rest =>
    let name := first.written
    let isDefined := ((← get).functions.lookup name).isSome
    if name == "exec" && !isDefined then execute run f assigned rest redirects
    else
      let isSpecial := !before.rich && Builtin.special.contains name && !isDefined
      let act : Work Unit :=
        if isSpecial then do
          let settings ← Setting.applyAll f assigned
          trace before.streams settings args
          command run name rest
        else withVariables f assigned fun settings => do
          trace before.streams settings args
          command run name rest
      Streams.withinOr f redirects act (if isSpecial then exits 2 else return ())
      if before.rich then
        modify fun m => { m with lastArg := ((args.getLast?.map Argument.written).getD "") }
  modify fun m =>
    let new := m.borrowed.filter fun n => !before.borrowed.contains n
    { m with
      streams := m.streams.filter (fun s => !new.contains s.1), borrowed := before.borrowed }

end ApkForge.Script
