-- A session of builds: the workspace, the state of the tools, the catalog once it is read, and a
-- record of all that happens. A step of a build works on a session and may fail.
import ApkForge.Components
import ApkForge.Gate

namespace ApkForge

/-- What a build tells its user. -/
inductive Notice where
  | heading (text : String)
  | output (text : String)
  | took (what : String)
  | finished
deriving DecidableEq, Repr

/-- The words of a notice, with `time` for how long a thing took. -/
def Notice.render (time : String) : Notice → String
  | .heading text => "________" ++ text ++ "\n"
  | .output text => text
  | .took what => what ++ " time: " ++ time ++ " seconds\n"
  | .finished => "Build finished in " ++ time ++ " seconds\n"

/-- What happens in a session. -/
inductive Event where
  | called (command : Command) (seconds : Nat) (answer : Answer)
  | reached (percent : Nat)
  | noted (notice : Notice)
  | acquired (heap : Nat)
  | released (heap : Nat)
  | merged (output : Path) (inputs : List Path) (outcome : Except BuildError Bool)

/-- A session over tools with a state of type `ρ`. Events are in the order they happened. -/
structure Session (ρ : Type) where
  workspace : Workspace
  tools : ρ
  catalog : Option Catalog := none
  events : List Event := []

/-- A session with one more event. -/
def Session.add {ρ : Type} (e : Event) (s : Session ρ) : Session ρ :=
  { s with events := s.events ++ [e] }

/-- A step of a build over tools with a state of type `ρ`. What it did before it failed stays. -/
abbrev Step (ρ α : Type) := ExceptT BuildError (StateM (Session ρ)) α

namespace Step

variable {ρ α : Type}

/-- Work on the files of a session. -/
def work (task : Task BuildError α) : Step ρ α := do
  let s ← MonadState.get
  let (result, workspace) := task.run s.workspace
  MonadState.set { s with workspace }
  match result with
  | .ok a => return a
  | .error e => throw e

/-- Work that belongs to a stage. -/
def within (stage : Stage) (task : Task Cause α) : Step ρ α :=
  work (Task.explain (.stage stage) task)

/-- Work on files that belongs to a stage. -/
def onFiles (stage : Stage) (task : Task FilesError α) : Step ρ α :=
  within stage (Task.explain .files task)

/-- A runtime file that a stage needs. -/
def resource (stage : Stage) (logical : String) : Step ρ Path :=
  within stage (Task.explain .resource (Resources.get logical))

/-- A tool that a stage needs, looked for among the files. -/
def tool (stage : Stage) (find : FileTree → Place → Except ToolchainError α) : Step ρ α := do
  let s ← MonadState.get
  match find s.workspace.tree s.workspace.start with
  | .ok a => return a
  | .error e => throw (.stage stage (.toolchain e))

/-- Records an event. -/
def record (e : Event) : Step ρ Unit := modify (Session.add e)

/-- Says what comes next. -/
def say (text : String) : Step ρ Unit := record (.noted (.heading text))

/-- Says that something has ended, and how long it took. -/
def sayTook (what : String) : Step ρ Unit := record (.noted (.took what))

/-- Sets the progress. -/
def reach (percent : Nat) : Step ρ Unit := record (.reached percent)

/-- Calls a tool. Only a tool that gives no answer fails the stage. -/
def call (runner : Runner ρ) (stage : Stage) (command : Command) (seconds : Nat) :
    Step ρ ToolOutput := do
  let s ← MonadState.get
  let w := s.workspace
  let (answer, tools, tree) := runner.answer command (some (1000 * seconds)) w.start s.tools w.tree
  MonadState.set { s with workspace := { w with tree }, tools }
  record (.called command seconds answer)
  match answer with
  | .ok output => return output
  | .error e => throw (.stage stage (.runner e))

/-- Calls a tool that must succeed. -/
def callSuccessfully (runner : Runner ρ) (stage : Stage) (command : Command) (seconds : Nat) :
    Step ρ Unit := do
  let output ← call runner stage command seconds
  if !output.success then throw (.stage stage (.tool output))

/-- A step taken while a share of the memory is held. The share is given back however the step
ends. -/
def holding (heap : Nat) (step : Step ρ α) : Step ρ α := ExceptT.mk do
  modify (Session.add (.acquired heap))
  let result ← step.run
  modify (Session.add (.released heap))
  return result

/-- A step whose end goes on record, however it ends. -/
def noting (note : Except BuildError α → Event) (step : Step ρ α) : Step ρ α := ExceptT.mk do
  let result ← step.run
  modify (Session.add (note result))
  return result

end Step

namespace Event

/-- The progress after events: the last value set, or `initial`. -/
def progressAfter (initial : Nat) (events : List Event) : Nat :=
  events.foldl (fun now e => match e with
    | .reached percent => percent
    | _ => now) initial

/-- The notices among events. -/
def notices (events : List Event) : List Notice :=
  events.filterMap fun e => match e with
    | .noted notice => some notice
    | _ => none

/-- The megabytes of a gate that are free after one build has taken and given back shares. -/
def availableAfter (gate : Gate) (events : List Event) : Nat :=
  events.foldl (fun now e => match e with
    | .acquired heap => now - gate.share heap
    | .released heap => now + gate.share heap
    | _ => now) gate.available

end Event

end ApkForge
