-- The host's programs that start others: with another environment, with a limit of time, or with
-- arguments from the input.
import ApkForge.Script.Program.Lines
import ApkForge.Script.Program.Naming
import ApkForge.Script.Program.Speaking

namespace ApkForge.Script.Program

open Work

/-! ## Starting -/

/-- How a program that was started came out: it could not be, it ended with a status, or a signal
ended it. -/
inductive Outcome where
  | fault (f : FileFault)
  | status (n : Nat)
  | signal (n : Nat)
deriving Inhabited

/-- A program is started and waited for, whatever ends it. -/
def started (launcher : Launcher) (name : String) (args : List String) : Work Outcome := do
  match ← outcome (launcher.start name args) with
  | .ok (some fault) => return .fault fault
  | .ok none => return .status (← get).status
  | .error (.killed process signal) =>
    if process == (← get).process then return .signal signal else throw (.killed process signal)
  | .error leave => throw leave

/-- The status of a program that could not be started. -/
def faultStatus (fault : FileFault) : Nat := if fault == .missing then 127 else 126

/-- A program takes the place of this one; what is said if it cannot be started. -/
def becoming (launcher : Launcher) (complaint : String → String) (name : String)
    (args : List String) : Work Unit := do
  match ← launcher.start name args with
  | none => pure ()
  | some fault =>
    complain (complaint (Streams.words fault))
    ends (faultStatus fault)

/-! ## Another environment -/

/-- A text in words, with quotes and escapes as in a shell, and variables in braces. -/
def splitWords (m : Machine) : Nat → Option Char → Option String → List Char →
    Except String (List String)
  | 0, _, word, _ => .ok word.toList
  | fuel + 1, quote, word, cs =>
    let add := fun (text : String) (rest : List Char) =>
      splitWords m fuel quote (some (word.getD "" ++ text)) rest
    match quote, cs with
    | some _, [] => .error "no terminating quote in -S string"
    | none, [] => .ok word.toList
    | some q, c :: rest =>
      if c == q then splitWords m fuel none (some (word.getD "")) rest
      else if c == '\\' then
        match rest with
        | d :: rest =>
          if q == '\x27' && d != '\x27' && d != '\\' then add (String.ofList ['\\', d]) rest
          else add (escaped d) rest
        | [] => .error "no terminating quote in -S string"
      else if c == '$' && q == '\x22' then variable_ add rest
      else add (String.singleton c) rest
    | none, c :: rest =>
      if Octet.isSpace c then
        match word with
        | some w => (splitWords m fuel none none rest).map (w :: ·)
        | none => splitWords m fuel none none rest
      else if c == '\x27' || c == '\x22' then splitWords m fuel (some c) (some (word.getD "")) rest
      else if c == '#' && word.isNone then .ok []
      else if c == '$' then variable_ add rest
      else if c == '\\' then
        match rest with
        | 'c' :: _ => .ok word.toList
        | '_' :: rest =>
          match word with
          | some w => (splitWords m fuel none none rest).map (w :: ·)
          | none => splitWords m fuel none none rest
        | d :: rest => add (escaped d) rest
        | [] => .error "invalid backslash at end of string in -S"
      else add (String.singleton c) rest
where
  /-- What a letter after a backslash stands for. -/
  escaped (d : Char) : String :=
    match [('n', '\n'), ('t', '\t'), ('r', '\r'), ('f', '\x0c'), ('v', '\x0b'),
        ('_', ' ')].lookup d with
    | some c => String.singleton c
    | none => String.singleton d
  /-- A variable in braces. -/
  variable_ (add : String → List Char → Except String (List String))
      (cs : List Char) : Except String (List String) :=
    match cs with
    | '\x7b' :: rest =>
      let name := rest.takeWhile (· != '\x7d')
      add (m.value (String.ofList name)) (rest.drop (name.length + 1))
    | _ => .error "only $\x7bVARNAME\x7d expansion is supported, error at: $"

/-- The arguments with a text that holds several in their places. -/
def unpacked (m : Machine) : Nat → List String → Except String (List String)
  | 0, args => .ok args
  | _, [] => .ok []
  | fuel + 1, arg :: args =>
    let words := fun (text : String) (rest : List String) => do
      let ws ← splitWords m (text.length + 1) none none text.toList
      unpacked m fuel (ws ++ rest)
    match arg.toList with
    | '-' :: 'S' :: [] => match args with
      | text :: rest => words text rest
      | [] => .ok [arg]
    | '-' :: 'S' :: cs => words (String.ofList cs) args
    | '-' :: 'v' :: 'S' :: [] => match args with
      | text :: rest => words text rest
      | [] => .ok [arg]
    | '-' :: 'v' :: 'S' :: cs => words (String.ofList cs) args
    | '-' :: 'i' :: 'S' :: [] => match args with
      | text :: rest => (words text rest).map ("-i" :: ·)
      | [] => .ok [arg]
    | '-' :: _ :: _ =>
      if ["-u", "-C", "--unset", "--chdir"].contains arg then
        match args with
        | value :: rest => (unpacked m fuel rest).map fun others => arg :: value :: others
        | [] => .ok [arg]
      else if arg == "--" then .ok (arg :: args)
      else if Text.beginsWith "--split-string=" arg then
          words (String.ofList (arg.toList.drop 15)) args
      else (unpacked m fuel args).map (arg :: ·)
    | _ => .ok (arg :: args)

/-- A program is started with another environment, or the environment is shown. -/
def env (launcher : Launcher) (self : String) (args : List String) : Work Unit := do
  let m ← get
  match unpacked m (args.length + 5) args with
  | .error words => fails self words 125
  | .ok args =>
    let wrong := fun (what : String) =>
      misusedAs 125 self (if what == Miscall.words (.unknown ' ') then
        what ++ "\n" ++ self ++ ": use -[v]S to pass options in shebang lines" else what)
    let options : Options := { flags := "iv0", valued := "uC", endEarly := true
                               long := [("ignore-environment", 'i'), ("unset", 'u'), ("null", '0'),
        ("chdir", 'C'), ("debug", 'v')] }
    calledOr wrong options args fun c => do
      let (isEmpty, operands) := match c.operands with
        | "-" :: rest => (true, rest)
        | operands => (c.has 'i', operands)
      if isEmpty then modify fun m => { m with vars := [] }
      modify fun m => (c.values 'u').foldl Machine.drop m
      let isSetting := fun (text : String) => text.toList.contains '='
      let settings := operands.takeWhile isSetting
      settings.forM fun s => do
        let name := String.ofList (s.toList.takeWhile (· != '='))
        modify fun m => m.share name (String.ofList (s.toList.drop (name.length + 1)))
      let moved ← match c.value? 'C' with
        | none => pure none
        | some dir => do
          match (← get).stat dir with
          | .ok (place, .dir) =>
            modify fun m => { m with here := place }
            pure none
          | .ok _ => pure (some (dir, FileFault.notDirectory))
          | .error fault => pure (some (dir, fault))
      match moved, operands.drop settings.length with
      | some (dir, fault), _ =>
        fails self ("cannot change directory to " ++ named dir ++ ": " ++ Streams.words fault) 125
      | none, [] =>
        let lineEnd := if c.has '0' then "\x00" else "\n"
        let m ← get
        print (environmentText m lineEnd)
        ends 0
      | none, name :: rest =>
        if c.has '0' then misusedAs 125 self "cannot specify --null (-0) with command"
        else becoming launcher (fun words => self ++ ": " ++ named name ++ ": " ++ words ++
          if name.toList.any Octet.isSpace then
            "\n" ++ self ++ ": use -[v]S to pass options in shebang lines"
          else "") name rest

/-- A program is started with less priority. -/
def nice (launcher : Launcher) (self : String) (args : List String) : Work Unit :=
  let options : Options := { valued := "n", endEarly := true, long := [("adjustment", 'n')] }
  let args := match args with
    | first :: rest => match first.toList with
      | '-' :: cs =>
        if cs != [] && cs.all Char.isDigit then "-n" :: String.ofList cs :: rest else args
      | _ => args
    | [] => []
  calledOr (misusedAs 125 self) options args fun c => do
    match c.operands, (c.value? 'n').map Number.decimal? with
    | _, some none =>
      fails self ("invalid adjustment " ++ named ((c.value? 'n').getD "")) 125
    | [], some (some _) => misusedAs 125 self "a command must be given with an adjustment"
    | [], none =>
      printLine "0"
      ends 0
    | name :: rest, _ =>
      becoming launcher (fun words => self ++ ": " ++ named name ++ ": " ++ words) name rest

/-- A program is started that a hangup does not end. -/
def nohup (launcher : Launcher) (self : String) (args : List String) : Work Unit :=
  calledOr (misusedAs 125 self) { endEarly := true } args fun c => do
    match c.operands with
    | [] => misusedAs 125 self "missing operand"
    | name :: rest =>
      becoming launcher (fun words =>
        self ++ ": failed to run command " ++ named name ++ ": " ++ words)
        name rest

/-! ## A limit of time -/

/-- The number of a signal that is named. -/
def signalOf? (text : String) : Option Nat :=
  let name := (text.map Char.toUpper)
  match name.toNat? with
  | some n => if n < 65 then some n else none
  | none =>
    let plain := if Text.beginsWith "SIG" name then String.ofList (name.toList.drop 3) else name
    signals.idxOf? plain

/-- A program is started that has so much time. -/
def timeout (launcher : Launcher) (self : String) (args : List String) : Work Unit :=
  calledOr (misusedAs 125 self) { flags := "pfv", valued := "ks", endEarly := true
                                  long := [("preserve-status", 'p'), ("foreground", 'f'),
      ("verbose", 'v'), ("kill-after", 'k'), ("signal", 's')] } args fun c => do
    let misfit := fun (text : String) => misusedAs 125 self ("invalid time interval " ++ named text)
    let signal := (c.value? 's').map signalOf?
    match c.operands with
    | time :: name :: rest =>
      if signal == some none then
        misusedAs 125 self (named ((c.value? 's').getD "") ++ ": invalid signal")
      else if ((c.value? 'k').map fun t => (milliseconds? t).isNone) == some true then
        misfit ((c.value? 'k').getD "")
      else match milliseconds? time with
        | none => misfit time
        | some length =>
          let number := signal.join.getD 15
          let m ← get
          let deadline := m.world.clock + length
          let before := m.world.limit
          let isFirst := length != 0 &&
              (before.map fun limit => decide (deadline < limit)).getD true
          let restore : Work Unit :=
            modify fun m => { m with world := { m.world with limit := before } }
          if isFirst then
            modify fun m => { m with world := { m.world with limit := some deadline } }
          match ← outcome (started launcher name rest) with
          | .ok result =>
            restore
            match result with
            | .status n => ends n
            | .signal n => throw (.killed (← get).process n)
            | .fault fault =>
              tells self ("failed to run command " ++ named name ++ ": " ++ Streams.words fault)
              ends (faultStatus fault)
          | .error .late =>
            restore
            if !isFirst then throw .late
            if c.has 'v' then
              tells self ("sending signal " ++ signals.getD number "" ++ " to command " ++
                  named name)
            if number == 9 then throw (.killed (← get).process 9)
            ends (if c.has 'p' then 128 + number else 124)
          | .error leave =>
            restore
            throw leave
    | _ =>
      complain ("Try '" ++ self ++ " --help' for more information.")
      ends 125

/-! ## Arguments from the input -/

/-- The words of a line of the input, with quotes and escapes; `quote` is the one that is open. The
words are those on one line, with whether the line goes on in the next. -/
def inputWords : Nat → Option Char → Option String → List Char → Except String (List String)
  | 0, _, word, _ => .ok word.toList
  | fuel + 1, quote, word, cs =>
    let add := fun (c : Char) (rest : List Char) =>
      inputWords fuel quote (some (word.getD "" ++ String.singleton c)) rest
    let open_ := fun (q : Char) => .error ("unmatched " ++
      (if q == '\x27' then "single" else "double") ++
      " quote; by default quotes are special to xargs unless you use the -0 option")
    match quote, cs with
    | some q, [] => open_ q
    | none, [] => .ok word.toList
    | some q, c :: rest =>
      if c == q then inputWords fuel none (some (word.getD "")) rest
      else if c == '\n' then open_ q
      else add c rest
    | none, c :: rest =>
      if c == '\x27' || c == '\x22' then inputWords fuel (some c) (some (word.getD "")) rest
      else if c == '\\' then
        match rest with
        | d :: rest => add d rest
        | [] => .ok word.toList
      else if Octet.isBlank c || c == '\n' then
        match word with
        | some w => (inputWords fuel none none rest).map (w :: ·)
        | none => inputWords fuel none none rest
      else add c rest

/-- Every place of a text in another one is taken by a third. -/
def replacedIn (what other text : String) : String :=
  Pattern.replace (Regex.literal what.toList) true other text

/-- How programs are started with what was read. -/
structure Feeding where
  launcher : Launcher
  self : String
  name : String
  traces : Bool

/-- A program is started with arguments, and its status is added to what came of those before. Says
whether others may follow. -/
def Feeding.feed (f : Feeding) (args : List String) : Work Bool := do
  let before := (← get).status
  if f.traces then complain (Text.join " " ((f.name :: args).map namedFirst))
  match ← started f.launcher f.name args with
  | .fault fault =>
    tells f.self (f.name ++ ": " ++ Streams.words fault)
    ends (faultStatus fault)
    return false
  | .status 255 =>
    tells f.self (f.name ++ ": exited with status 255; aborting")
    ends 124
    return false
  | .status n =>
    ends (if n == 0 then before else 123)
    return true
  | .signal n =>
    tells f.self (f.name ++ ": terminated by signal " ++ toString n)
    ends 125
    return false

/-- Programs are started one after the other, up to one that may have none after it. -/
def Feeding.feedAll (f : Feeding) : List (List String) → Work Unit
  | [] => return ()
  | args :: rest => do
    if ← f.feed args then feedAll f rest

/-- The option that has a value only in the same argument stands for one with a long name. -/
def looseOptions : List String → List String
  | [] => []
  | arg :: rest =>
    match arg.toList with
    | ['-', 'i'] => "-I" :: "\x7b\x7d" :: rest
    | '-' :: c :: _ =>
      if arg == "--" then arg :: rest
      else if "IndLaEPs".toList.contains c && arg.length == 2 then
        match rest with
        | value :: rest => arg :: value :: looseOptions rest
        | [] => [arg]
      else arg :: looseOptions rest
    | _ => arg :: rest

/-- A program is started with arguments from the input. -/
def xargs (launcher : Launcher) (self : String) (args : List String) : Work Unit :=
  calledOr (fun what => do
    tells self what
    complain ("Try '" ++ self ++ " --help' for more information.")
    ends 1) { flags := "0rtpxo", valued := "IndLaEPs", endEarly := true
              long := [("null", '0'), ("no-run-if-empty", 'r'), ("verbose", 't'),
      ("max-args", 'n'), ("max-lines", 'L'), ("delimiter", 'd'), ("arg-file", 'a'),
      ("max-procs", 'P'), ("replace", 'I'), ("exit", 'x'), ("max-chars", 's')] }
    (looseOptions args) fun c => do
    let text ← match c.value? 'a' with
      | none => inputOf "-"
      | some path => inputOf path
    match text with
    | .error fault =>
      fails self ("Cannot open input file " ++ named ((c.value? 'a').getD "") ++ ": " ++
        Streams.words fault) 1
    | .ok text =>
      ends 0
      let name := c.operands.headD "echo"
      let first := c.operands.tail
      let f : Feeding := { launcher, self, name, traces := c.has 't' }
      let sign := if c.has '0' then some '\x00' else (c.value? 'd').map fun d => match d.toList with
        | ['\\', 'n'] => '\n'
        | ['\\', 't'] => '\t'
        | ['\\', '0'] => '\x00'
        | d :: _ => d
        | [] => '\x00'
      let quoted := fun (t : String) => inputWords (t.length + 1) none none t.toList
      let items : Except String (List (List String)) := match sign with
        | some sign =>
          let parts := Text.split sign text
          let parts := if parts.getLast? == some "" then parts.dropLast else parts
          .ok (parts.map fun p => [p])
        | none =>
          if c.has 'I' then
            ((bareLines text).map Octet.trim).filter (· != "") |>.mapM fun line =>
              (quotedLine line).map fun word => [word]
          else if c.has 'L' then (bareLines text).mapM quoted
          else (quoted text).map fun words => words.map fun w => [w]
      match items with
      | .error words => fails self words 1
      | .ok items =>
        let items := items.filter fun i => !i.isEmpty
        let items := match c.value? 'E' with
          | some last => items.takeWhile fun i => !i.contains last
          | none => items
        match c.value? 'I' with
        | some mark =>
          f.feedAll (items.map fun i => first.map (replacedIn mark (i.headD "")))
        | none =>
          let per := match c.last? "nL" with
            | some letter => max 1 (numberOf c letter 1)
            | none => max 1 items.length
          let groups := (cutInto per (items.length + 1) items).map fun g => first ++ g.flatten
          if items.isEmpty then
            if !c.has 'r' then f.feedAll [first]
          else f.feedAll groups
where
  /-- A line as one item, with its quotes and escapes undone. -/
  quotedLine (line : String) : Except String String := do
    let ws ← inputWords (3 * line.length + 1) none none
      (line.toList.flatMap fun c => if Octet.isBlank c then ['\\', c] else [c])
    return String.join ws
  /-- A list in groups of a size. -/
  cutInto (size : Nat) : Nat → List (List String) → List (List (List String))
    | 0, _ => []
    | _, [] => []
    | fuel + 1, l => l.take size :: cutInto size fuel (l.drop size)

end ApkForge.Script.Program
