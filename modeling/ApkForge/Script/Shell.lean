-- Running commands. A command changes the state of the shell, and leaves what is around it only in
-- the ways that there are; commands are run by one function, nested at most as deep as it is told.
import ApkForge.Script.Command
import ApkForge.Script.Condition

namespace ApkForge.Script

open Work

/-! ## Failures -/

/-- A part that is asked how it ends, so that its failure ends no script. -/
def whileAsked (act : Work Unit) : Work Unit := do
  let m ← get
  set { m with asked := true }
  andThen act (modify fun now => { now with asked := m.asked })

/-- A text that is trapped by a name is run, in which it is not trapped itself. -/
def performTrap (run : Run) (name : String) : Work Unit := do
  let m ← get
  match m.traps.lookup name with
  | some text =>
    modify fun now => { now with traps := m.traps.filter fun t => t.1 != name }
    perform run (m.line - 1) text
    modify fun now =>
      if (now.traps.lookup name).isSome then now
      else { now with traps := (name, text) :: now.traps }
  | none => return ()

/-- A rich shell may run a text before each command. -/
def beforeCommand (run : Run) (line : Nat) : Work Unit := do
  let m ← get
  if m.rich && (m.frames.isEmpty || m.has "functrace") && (m.traps.lookup "DEBUG").isSome then
    set { m with line := line + m.shift }
    performTrap run "DEBUG"

/-- A failure that nobody asked for is trapped, and ends a strict script. -/
def strictly (run : Run) (act : Work Unit) : Work Unit := do
  act
  let m ← get
  if m.rich then modify fun m => m.putValue "PIPESTATUS" (.list [(0, toString m.status)])
  if m.status != 0 && !m.asked then
    if m.rich && (m.frames.isEmpty || m.has "errtrace") then performTrap run "ERR"
    if m.has "errexit" then throw .exit

/-! ## Loops -/

/-- One turn of a loop, and whether another one may follow. -/
def turn (body : Work Unit) : Work Bool := do
  takeTurn
  match ← outcome body with
  | .ok () => return true
  | .error (.loop again count) =>
    if count ≤ 1 then return again else throw (.loop again (count - 1))
  | .error leave => throw leave

/-- A part of a script that is within one more loop. -/
def inLoop (act : Work Unit) : Work Unit := do
  let m ← get
  set { m with loops := m.loops + 1 }
  andThen act (modify fun now => { now with loops := m.loops })

/-- Turns for texts, each of which a variable holds in its turn. The head is traced. -/
def forTexts (name head : String) (body : Work Unit) : List String → Work Unit
  | [] => return ()
  | text :: rest => do
    traceHead head
    assign name text
    if ← turn body then forTexts name head body rest

/-- The most turns that a loop may take. -/
def mostTurns : Nat := 1000000

/-- Turns as long as a condition says so. The status is that of the last turn. -/
def repeated (untilTrue : Bool) (condition body : Work Unit) : Nat → Nat → Work Unit
  | 0, _ => giveUp
  | left + 1, status => do
    let goesOn ← turn do
      whileAsked condition
      if ((← get).status == 0) == untilTrue then
        ends status
        throw (.loop false 1)
      body
    if goesOn then repeated untilTrue condition body left (← get).status

/-- Turns as long as a sum is not zero; another sum follows each. -/
def counted (condition step : Work (Option Int)) (body : Work Unit) : Nat → Nat → Work Unit
  | 0, _ => giveUp
  | left + 1, status => do
    match ← condition with
    | none => ends 1
    | some 0 => ends status
    | some _ =>
      if ← turn body then
        let status := (← get).status
        let _ ← step
        counted condition step body left status

/-- A menu of texts, from which lines of the input choose. -/
def choices (name : String) (texts : List String) (body : Work Unit) : Nat → Bool → Work Unit
  | 0, _ => giveUp
  | left + 1, shows => do
    let m ← get
    if shows then
      (List.range texts.length).forM fun i =>
        complain (toString (i + 1) ++ ") " ++ texts.getD i "")
    let _ ← writeTo 2 ((m.var "PS3").getD "#? ")
    let (line, found) ← readUpTo 0 '\n'
    if !found then
      printLine ""
      ends 1
    else
      assign "REPLY" line
      match (Octet.trim line).toNat?, Octet.trim line with
      | _, "" => choices name texts body left true
      | n, _ =>
        let chosen := n.bind fun n => if n == 0 then none else texts[n - 1]?
        assign name (chosen.getD "")
        if ← turn body then choices name texts body left false

/-! ## Choices -/

/-- A text fits one of several patterns. -/
def fitsAny (f : Filler) (text : String) : List Word → Work Bool
  | [] => return false
  | p :: ps => do
    let m ← get
    let pattern := Filler.patternOf m (← f.pattern p)
    if Pattern.fits pattern text then return true else fitsAny f text ps

/-- The bodies of the arms that are run: the first with a pattern that a text fits, and those that
it leads on to. -/
def runArms (run : Run) (f : Filler) (text : String) (falls : Bool) :
    List (List Word × Node × String) → Work Unit
  | [] => return ()
  | (patterns, body, sign) :: arms => do
    let fits ← if falls then pure true else fitsAny f text patterns
    if !fits then runArms run f text false arms
    else
      run body
      match sign with
      | ";&" => runArms run f text true arms
      | ";;&" => runArms run f text false arms
      | _ => return ()

/-! ## Pipes -/

/-- The status of a pipe: that of its last part, or of the last that failed. -/
def pipeStatus (m : Machine) (statuses : List Nat) : Nat :=
  if m.has "pipefail" then ((statuses.filter (· != 0)).getLast?).getD 0
  else statuses.getLast?.getD 0

/-- Commands of which each reads what the one before it writes. -/
def runPipe (run : Run) (parts : List Node) : Work Unit := do
  let start := (← get).world.clock
  let endings ← Child.piped start none (parts.map fun part => withEnding run (run part))
  let m ← get
  if m.rich then (endings.drop (endings.length - 1)).forM Child.tell
  else endings.forM Child.tell
  ends (pipeStatus m (endings.map Child.Ending.status))
  if m.rich then
    modify fun m => m.putValue "PIPESTATUS" (.list ((List.range endings.length).zip
      (endings.map fun e => toString e.status)))

/-- The status turned round. -/
def negate : Work Unit := modify fun m => { m with status := if m.status == 0 then 1 else 0 }

/-! ## The whole -/

/-- How many processes or programs are started before it is taken that they never end to start
others. -/
def mostNested : Nat := 60

/-- Runs a command, nested at most as deep as `depth`. A process that nests deeper is killed; if
many were started before it, they go on to start others and do not come to an end. -/
def run : Nat → Run
  | 0, _ => do
    let m ← get
    if firstProcess + mostNested < m.process || mostNested < m.programs then giveUp
    else throw (.killed m.process 11)
  | depth + 1, node => do
    let below := run depth
    let f := filler below
    let atLine := fun (line : Nat) => modify fun (m : Machine) => { m with line := line + m.shift }
    match node with
    | .simple line assigned words redirects =>
      if (← get).rich then
        modify fun m => { m with command := commandSource assigned words redirects }
        beforeCommand below line
      strictly below (simple below line assigned words redirects)
    | .list items => items.forM below
    | .both first second =>
      whileAsked (below first)
      if (← get).status == 0 then below second
    | .either first second =>
      whileAsked (below first)
      if (← get).status != 0 then below second
    | .pipe negated parts =>
      let act := match parts with
        | [only] => below only
        | parts => runPipe below parts
      if negated then
        whileAsked act
        negate
      else
        act
        let m ← get
        strictly below (return ())
        if m.rich then modify fun now => now.restore ("PIPESTATUS", m.var? "PIPESTATUS")
    | .inner line body =>
      atLine line
      strictly below (Child.part (withEnding below (below body)))
    | .apart body => Child.apart (withEnding below (below body))
    | .choice condition yes no =>
      whileAsked (below condition)
      if (← get).status == 0 then below yes
      else
        ends 0
        below no
    | .loop untilTrue condition body =>
      inLoop (repeated untilTrue (below condition) (below body) mostTurns 0)
    | .each line name words body =>
      atLine line
      let texts ← match words with
        | some ws => f.args ws
        | none => pure (← get).args
      ends 0
      let head := "for " ++ name ++ " in " ++
        ((words.map wordsWritten).getD "\x22$@\x22")
      inLoop (forTexts name head (below body) texts)
    | .counted line first condition step body =>
      atLine line
      match ← sumOf f false first with
      | none => ends 1
      | some _ =>
        let test := sumOf f false condition
        inLoop (counted test (sumOf f false step) (below body) mostTurns 0)
    | .menu line name words body =>
      atLine line
      let texts ← match words with
        | some ws => f.args ws
        | none => pure (← get).args
      ends 0
      inLoop (choices name texts (below body) mostTurns true)
    | .cases line word arms =>
      atLine line
      traceHead ("case " ++ Word.source word ++ " in")
      let text ← f.one word
      ends 0
      runArms below f text false arms
    | .define _ name body =>
      modify fun m =>
        { m with functions := (name, body) :: m.functions.filter fun d => d.1 != name
                 homes := (name, m.file) :: m.homes.filter fun h => h.1 != name
                 status := 0 }
    | .redirected line body redirects =>
      if 0 < line then atLine line
      Streams.withinOr f redirects (below body) (strictly below (return ()))
    | .test line condition =>
      atLine line
      beforeCommand below line
      strictly below (testCondition f condition)
    | .sum line text =>
      atLine line
      beforeCommand below line
      strictly below do
        match ← sumOf f true text with
        | some n => endsAs (n != 0)
        | none => ends 1

/-- How deep the commands of a script are nested at most. -/
def mostDepth : Nat := 1200

end ApkForge.Script
