-- Running texts: a script is read line by line, and each line is run before the next is read. Texts
-- come from files, from words that are filled in, and from commands that run them in place.
import ApkForge.Script.Assign
import ApkForge.Script.Child
import ApkForge.Script.Reading.Commands

namespace ApkForge.Script

open Work

/-- What runs a command. -/
abbrev Run := Node → Work Unit

/-! ## Lines -/

/-- What stands in a text before a place: the word that ends there, or the sign that begins
there. -/
def wordBefore (text : String) (place : Nat) : String :=
  let start := (text.toList.take place).reverse.takeWhile (· != '\n') |>.length
  let line := (text.toList.drop (place - start)).takeWhile (· != '\n') ++ ['\n']
  let isBlank := fun (c : Char) => c == ' ' || c == '\t' || c == '\n'
  let front := ((line.take (start + 1)).reverse.dropWhile isBlank)
  match front with
  | [] => ""
  | c :: _ =>
    if ";|&".toList.contains c then String.singleton c
    else String.ofList (front.takeWhile fun d => !" \n\t;|&".toList.contains d).reverse

/-- A text that cannot be read is told of. A rich shell shows the line. -/
def tellUnread (text : String) (fault : Unread) : Work Unit := do
  let m ← get
  if m.rich then
    let file := m.file
    let front := fun (line : Nat) =>
      file ++ ": " ++ m.label ++ "line " ++ toString (line + m.shift) ++ ": "
    match fault.first with
    | some (line, words) => complain (front line ++ words)
    | none => pure ()
    match fault.near with
    | some left =>
      complain (front fault.line ++ "syntax error near \x60" ++
        wordBefore text (text.length - left) ++ "'")
    | none => complain (front fault.line ++ fault.words)
    if fault.showsLine then
      let line := (Text.split '\n' text).getD (fault.line - 1) ""
      complain (front fault.line ++ "\x60" ++ line ++ "'")
  else complain (m.name ++ ": " ++ toString fault.line ++ ": " ++ m.within ++ fault.words)

/-- How the running of a text ends: there was nothing to run, it was run, or the rest of it cannot
be read. -/
inductive Ending where
  | empty
  | done
  | unread (status : Nat)
deriving DecidableEq, Repr, Inhabited

/-- The lines of a text are run, from where its source stands. In a rich shell a mistake ends only
its line. -/
def runLines (run : Run) (text : String) : Nat → Bool → Source → Work Ending
  | 0, any, _ => return if any then .done else .empty
  | fuel + 1, any, s => do
    let m ← get
    let left := s.rest
    let aliases := if !m.rich || m.has "expand_aliases" then m.aliases else []
    let (line, s) := Read.nextLine.run
      { s with aliases, rich := m.rich, grouped := m.has "extglob", insets := []
               nextInset := m.nextInset, warnings := [] }
    set { m with insets := s.insets ++ m.insets, nextInset := s.nextInset, readTo := s.line }
    if m.rich then
      s.warnings.forM fun w => complain (m.name ++ ": line " ++ toString w.1 ++ ": " ++ w.2)
    match line with
    | .ok none =>
      if m.has "verbose" then let _ ← writeTo 2 (String.ofList left)
      return if any then .done else .empty
    | .error fault =>
      tellUnread text fault
      return .unread fault.status
    | .ok (some node) =>
      if m.has "verbose" then
        let _ ← writeTo 2 (String.ofList (left.take (left.length - s.rest.length)))
      if m.has "noexec" then runLines run text fuel any s
      else
        match ← outcome (run node) with
        | .ok () => runLines run text fuel true s
        | .error .discard =>
          if m.process != m.shell then throw .exit
          runLines run text fuel true s
        | .error leave => throw leave

/-- A text is run. A rich shell ends its last line. -/
def runText (run : Run) (text : String) : Work Ending := do
  let text := if (← get).rich && text != "" && !Text.endsWith "\n" text then text ++ "\n" else text
  runLines run text (text.length + 1) false { rest := text.toList }

/-- A text as part of the script. What complaints in it begin with is given, and its lines are
counted from one. -/
def inPlace (run : Run) (set_ : Machine → Machine) (text : String) : Work Unit := do
  let m ← get
  set (set_ { m with level := m.level + 1 })
  let restore : Work Unit := modify fun now =>
    { now with within := m.within, label := m.label, shift := m.shift, readTo := m.readTo
               level := m.level, sourced := m.sourced }
  let ended ← andThen (runText run text) restore
  match ended with
  | .empty => ends 0
  | .done => return ()
  | .unread status => if m.rich then ends status else exits status

/-! ## Endings -/

/-- A text that is run for a signal or at the end leaves the status as it was. Its lines are counted
after so many others. -/
def perform (run : Run) (shift : Nat) (text : String) : Work Unit := do
  let m ← get
  set { m with shift }
  let restore : Work Unit := modify fun now => { now with shift := m.shift, line := m.line }
  let _ ← andThen (runText run text) restore
  if m.rich then modify fun now => now.restore ("PIPESTATUS", m.var? "PIPESTATUS")
  ends m.status

/-- Work with what it asks to be run at its end, which keeps the status unless it ends the script
itself. A process that is killed or late gets to no end. -/
def withEnding (run : Run) (act : Work Unit) : Work Unit := do
  let result ← outcome act
  match result with
  | .error (.killed process signal) => throw (.killed process signal)
  | .error .late => throw .late
  | _ =>
    let m ← get
    match m.traps.lookup "EXIT" with
    | none => return ()
    | some text =>
      set { m with traps := m.traps.filter fun t => t.1 != "EXIT", loops := 0, shift := 0 }
      match ← outcome (perform run 0 text) with
      | .error (.killed process signal) => throw (.killed process signal)
      | .error .late => throw .late
      | _ => return ()

/-! ## Scripts in words -/

/-- The machine of a script in a word, which begins on a line. -/
def Machine.inWord (line : Nat) (m : Machine) : Machine :=
  let strict := m.has "errexit" && (!m.rich || m.has "inherit_errexit")
  let m := { m with level := m.level + 1, loops := 0
                    shift := if m.rich then m.line - line else m.shift }
  if strict then m else m.setOption false "errexit"

/-- What a script in a word does. One that only names a file shows it, in a rich shell. -/
def inWord (run : Run) (line : Nat) (body : Node) : Work Unit := do
  let m ← get
  modify (Machine.inWord line)
  match body with
  | .simple _ [] [] [.file stream "<" target] =>
    if m.rich then
      let filler : Filler := ⟨fun _ _ => return "", fun _ _ => return ""⟩
      Streams.within filler [.file stream "<" target] (do print (← readAll (match stream with
          | .number n => n
          | _ => 0)))
    else withEnding run (run body)
  | _ => withEnding run (run body)

/-- What a script writes, as the text that is filled in for it. -/
def outputOf (run : Run) (line : Nat) (body : Node) : Work String := do
  let (ending, text) ← Child.output (inWord run line body)
  modify fun m => { m with outputStatus := some ending.status
                           status := if m.rich then ending.status else m.status }
  return Octet.dropLineEnds (String.ofList (text.toList.filter (· != '\x00')))

/-- The highest stream that is free. -/
def freeStream (m : Machine) : Nat :=
  ((List.range 53).map (63 - ·)).find? (fun n => (m.streams.lookup n).isNone) |>.getD 10

/-- A file that leads to what a script writes. What is written to a script goes nowhere. -/
def streamFor (run : Run) (writes : Bool) (body : Node) : Work String := do
  if writes then return "/dev/null"
  let start := (← get).world.clock
  let (_, parts, last) ← Child.gathered none fun id =>
    Child.process (fun m => Child.withoutTraps (Child.writingTo 1 id m)) (withEnding run (run body))
  let m ← get
  let stream := freeStream m
  let (id, world) := m.world.openNew { target := .supply parts last, writes := false }
  set { m with world := { world with clock := start }, streams := (stream, id) :: m.streams
               borrowed := stream :: m.borrowed }
  return "/dev/fd/" ++ toString stream

/-- What fills in the words of a script. -/
def filler (run : Run) : Filler := ⟨outputOf run, streamFor run⟩

end ApkForge.Script
