-- Processes of their own: parts of a script, pipes, and what is not waited for. A process leaves
-- only files, output and a status behind.
import ApkForge.Script.Stream

namespace ApkForge.Script

open Work

/-! ## Signals -/

/-- The signals by their numbers. -/
def signals : List String :=
  ["EXIT", "HUP", "INT", "QUIT", "ILL", "TRAP", "ABRT", "BUS", "FPE", "KILL", "USR1", "SEGV",
    "USR2", "PIPE", "ALRM", "TERM", "STKFLT", "CHLD", "CONT", "STOP", "TSTP", "TTIN", "TTOU", "URG",
    "XCPU", "XFSZ", "VTALRM", "PROF", "WINCH", "IO", "PWR", "SYS"]

/-- The number of a signal. -/
def signalNumber (name : String) : Nat := (signals.idxOf? name).getD 0

/-- The signals that end no process. -/
def idleSignals : List String := ["CHLD", "CONT", "URG", "WINCH", "STOP", "TSTP", "TTIN", "TTOU"]

/-- The words for a signal that ended a process. -/
def signalWords (number : Nat) : String :=
  match signals.getD number "" with
  | "HUP" => "Hangup"
  | "INT" => "Interrupt"
  | "QUIT" => "Quit"
  | "ILL" => "Illegal instruction"
  | "TRAP" => "Trace/breakpoint trap"
  | "ABRT" => "Aborted"
  | "BUS" => "Bus error"
  | "FPE" => "Floating point exception"
  | "KILL" => "Killed"
  | "USR1" => "User defined signal 1"
  | "SEGV" => "Segmentation fault"
  | "USR2" => "User defined signal 2"
  | "PIPE" => "Broken pipe"
  | "ALRM" => "Alarm clock"
  | "TERM" => "Terminated"
  | "XCPU" => "CPU time limit exceeded"
  | "XFSZ" => "File size limit exceeded"
  | "VTALRM" => "Virtual timer expired"
  | "PROF" => "Profiling timer expired"
  | "IO" => "I/O possible"
  | "PWR" => "Power failure"
  | "SYS" => "Bad system call"
  | other => "Unknown signal " ++ other

namespace Child

/-! ## Processes that are waited for -/

/-- How a process ended: with its status, or by a signal. -/
structure Ending where
  status : Nat
  signal : Option Nat := none
deriving Inhabited

/-- The highest number that a process may have. -/
def lastNumber : Nat := 25000

/-- A process does some work on a state of its own. What it does to files and streams stays. -/
def process (prepare : Machine → Machine) (act : Work Unit) : Work Ending := do
  let m ← get
  let number := m.world.lastProcess + 1
  if lastNumber < number then giveUp
  let world := { m.world with lastProcess := number }
  let (result, child) := act.run (prepare { m with world, process := number })
  set { m with world := child.world }
  let ended : Ending := { status := child.status % 256 }
  match result with
  | .ok () => return ended
  | .error .late => throw .late
  | .error (.killed target signal) =>
    if target == number || target == child.process then
      return { status := 128 + signal, signal := some signal }
    else throw (.killed target signal)
  | .error _ => return ended

/-- What a plain shell says about a process that a signal ended. -/
def tell (e : Ending) : Work Unit := do
  match e.signal with
  | none => return ()
  | some signal =>
    if signal == 2 || signal == 13 then return ()
    let m ← get
    if !m.rich || signal == 15 then complain (signalWords signal)
    else
      report (toString (m.world.lastProcess) ++ " " ++ signalWords signal)

/-- The machine of a part of a script that is a process of its own. Traps are not kept, except those
that do nothing. -/
def withoutTraps (m : Machine) : Machine :=
  { m with traps := m.traps.filter fun t => t.2 == "", nested := m.nested + 1 }

/-- A part of a script as a process of its own, which is waited for. -/
def part (act : Work Unit) : Work Unit := do
  let ending ← process withoutTraps act
  tell ending
  ends ending.status

/-! ## What a process writes -/

/-- A machine whose output goes to another open stream. -/
def writingTo (stream id : Nat) (m : Machine) : Machine :=
  { m with streams := (stream, id) :: m.streams.filter fun s => s.1 != stream }

/-- What a process writes to its output, with the times, and when the last that may write to it
ended. Output of others stays what it is. -/
def gathered (room : Option Nat) (run : Nat → Work Ending) :
    Work (Ending × List (Nat × String) × Nat) := do
  let m ← get
  let (id, world) := m.world.openNew { target := .gather room }
  set { m with world := { world with events := [] } }
  let result ← outcome (run id)
  let now ← get
  let last := now.world.lastWriter [id]
  let world := now.world.pass last
  let parts := world.writtenTo id
  let others := world.events.filter fun e => e.file != id
  let clock := now.world.clock
  set { now with world := { world with
    events := others ++ m.world.events, files := world.files.filter fun f => f.1 != id, clock } }
  match result with
  | .ok ending => return (ending, parts, last)
  | .error leave => throw leave

/-- The output of a process as a text. -/
def output (act : Work Unit) : Work (Ending × String) := do
  let (ending, parts, last) ← gathered none fun id =>
    process (fun m => withoutTraps (writingTo 1 id m)) act
  modify fun m => { m with world := m.world.pass last }
  return (ending, String.join (parts.map Prod.snd))

/-! ## Pipes -/

/-- The room of a pipe: a process that writes more without end is not waited for. -/
def pipeRoom : Nat := 4000000

/-- The turns that a process may take that writes to a pipe. -/
def pipeTurns : Nat := 60000

/-- The parts of a pipe one after the other, each with what the one before wrote. All begin at the
same time, and all are waited for. -/
def piped (start : Nat) : Option Nat → List (Work Unit) → Work (List Ending)
  | _, [] => return []
  | input, [last] => do
    let ending ← process (fun m =>
      withoutTraps ((input.map fun id => writingTo 0 id m).getD m)) last
    return [ending]
  | input, part :: rest => do
    let turns := (← get).world.turns
    modify fun m => { m with world := { m.world with turns := min turns pipeTurns } }
    let (ending, parts, last) ← gathered (some pipeRoom) fun id =>
      process (fun m =>
        withoutTraps (writingTo 1 id ((input.map fun id => writingTo 0 id m).getD m))) part
    let m ← get
    let finish := m.world.clock
    let left := turns - (min turns pipeTurns - m.world.turns)
    let (id, world) := m.world.openNew { target := .supply parts last, writes := false }
    set { m with world := { world with clock := start, turns := left } }
    let endings ← piped start (some id) rest
    modify fun m => { m with world := m.world.pass (max finish m.world.clock) }
    return ending :: endings

/-! ## Processes that are not waited for -/

/-- The open streams that a process has. -/
def openStreams (m : Machine) : List Nat := m.streams.map Prod.snd

/-- A process that is not waited for. It is run at once, and what it does is seen in time. -/
def apart (act : Work Unit) : Work Unit := do
  let m ← get
  let number := m.world.lastProcess + 1
  let world := { m.world with lastProcess := number, events := [], jobs := [], moments := [] }
  let quiet := fun (m : Machine) =>
    let (id, world) := m.world.openNew { target := .sink }
    writingTo 0 id { m with world }
  let start := quiet (withoutTraps { m with world, process := number })
  let (result, child) := act.run start
  let signal := match result with
    | .error (.killed target signal) => if target == number then some signal else none
    | _ => none
  let status := match signal with
    | some n => 128 + n
    | none => child.status % 256
  let finish := match result with
    | .error .late => (m.world.limit.getD child.world.clock) + 1
    | _ => child.world.clock
  let job : Job :=
    { process := number, parent := m.process, finish, status, signal, events := child.world.events
      moments := ((child.world.clock, child.world.disk) :: child.world.moments).reverse
      before := m.world.disk, files := openStreams m }
  let moved := child.world.files.filter fun f => (m.world.files.lookup f.1).isSome
  let files := m.world.files.map fun f => (f.1, (moved.lookup f.1).getD f.2)
  set { m with
    world := { m.world with
      jobs := m.world.jobs ++ [job] ++ child.world.jobs, lastProcess := child.world.lastProcess
      nextFile := child.world.nextFile, files }
    lastJob := some number, status := 0 }

/-- All processes that this one began are waited for. -/
def waitForAll : Work Unit := do
  let m ← get
  let own := m.world.jobs.filter fun j => j.parent == m.process
  let last := (own.map Job.finish).foldl max m.world.clock
  Work.wait (last - m.world.clock)
  modify fun m => { m with world := { m.world with
    jobs := m.world.jobs.map fun j =>
      if j.parent == m.process then { j with gone := true } else j } }

/-- A process that this one began is waited for; its status, if there is such a process. -/
def waitFor (number : Nat) : Work (Option Nat) := do
  let m ← get
  match m.world.jobs.find? fun j => j.process == number && j.parent == m.process with
  | none => return none
  | some job =>
    Work.wait (job.finish - m.world.clock)
    if !job.gone then
      if !m.rich then tell { status := job.status, signal := job.signal }
    modify fun m => { m with world := { m.world with
      jobs := m.world.jobs.map fun j =>
        if j.process == number then { j with gone := true } else j } }
    return some job.status

end Child

end ApkForge.Script
