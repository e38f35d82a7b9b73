-- What a run of the command line shows. Text goes to two streams as the settings want it, and a run
-- that fails ends with its error and the causes of it.
import ApkForge.CommandLine.Arguments
import ApkForge.Doctor

namespace ApkForge.CommandLine

/-- A run that failed: what could not be done, and the causes, outermost first. -/
structure Failure where
  message : String
  causes : List String := []
deriving DecidableEq, Repr, Inhabited

/-- A run: how it is shown, what it has shown on its two streams, and what it works on. -/
structure Screen (ρ : Type) where
  settings : Settings
  stdout : String := ""
  stderr : String := ""
  session : Session ρ

/-- A part of a run, over tools with a state of type `ρ`. What it showed before it failed stays. -/
abbrev Act (ρ α : Type) := ExceptT Failure (StateM (Screen ρ)) α

namespace Act

variable {ρ α : Type}

/-! ## Showing -/

/-- Text on the output stream. -/
def print (text : String) : Act ρ Unit := modify fun s => { s with stdout := s.stdout ++ text }

/-- A line on the output stream. -/
def printLine (text : String) : Act ρ Unit := print (text ++ "\n")

/-- Text on the error stream. -/
def printError (text : String) : Act ρ Unit := modify fun s => { s with stderr := s.stderr ++ text }

/-- A line on the error stream. -/
def printErrorLine (text : String) : Act ρ Unit := printError (text ++ "\n")

/-- The settings of the run. -/
def settings : Act ρ Settings := do return (← get).settings

/-- Something that is shown unless the run is quiet. -/
def unlessQuiet (act : Act ρ Unit) : Act ρ Unit := do
  if !(← settings).quiet then act

/-- The mark of what went well. -/
def goodMark : String := "✓ "

/-- The mark of what went wrong. -/
def badMark : String := "✗ "

/-- Something went well. -/
def success (text : String) : Act ρ Unit := unlessQuiet (printLine (goodMark ++ text))

/-- Something to know. -/
def info (text : String) : Act ρ Unit := unlessQuiet (printLine ("ℹ " ++ text))

/-- Something to beware of. -/
def warning (text : String) : Act ρ Unit := unlessQuiet (printErrorLine ("⚠ " ++ text))

/-- More about the line above. -/
def detail (text : String) : Act ρ Unit := unlessQuiet (printLine ("    " ++ text))

/-- A value as JSON, one member a line. -/
def printJson (value : Json) : Act ρ Unit := printLine (value.pretty 0)

/-- A failure, as JSON on one line or in words. -/
def report (failure : Failure) : Act ρ Unit := do
  if (← settings).json then
    printErrorLine (Json.compact (.obj [("causes", .arr (failure.causes.map .str)),
      ("error", .str failure.message), ("status", .str "error")]))
  else
    printErrorLine (badMark ++ failure.message)
    failure.causes.forM fun cause => printErrorLine ("    caused by: " ++ cause)

/-! ## Working -/

/-- The workspace of the run. -/
def workspace : Act ρ Workspace := do return (← get).session.workspace

/-- Work on the workspace. A failure is explained by what could not be done. -/
def work {ε : Type} (context : String) (words : ε → String) (task : Task ε α) : Act ρ α := do
  let s ← get
  let (result, workspace) := task.run s.session.workspace
  set { s with session := { s.session with workspace } }
  match result with
  | .ok a => return a
  | .error e => throw { message := context, causes := [words e] }

/-- A result that explains its failure by what could not be done. -/
def expect {ε : Type} (context : String) (words : ε → String) (result : Except ε α) : Act ρ α :=
  match result with
  | .ok a => return a
  | .error e => throw { message := context, causes := [words e] }

/-- A part of the session that cannot fail. -/
def inSession (act : StateM (Session ρ) α) : Act ρ α := do
  let s ← get
  let (a, session) := act.run s.session
  set { s with session }
  return a

/-- A part of the run with a cache of runtime files of its own, which is gone afterwards. -/
def withResources (filesDir scratch : Path) (act : Act ρ α) : Act ρ α := ExceptT.mk do
  modify fun s =>
    let w := s.session.workspace
    { s with session := { s.session with
        workspace := Workspace.opened w.start w.tree filesDir scratch } }
  let result ← act.run
  modify fun s =>
    let w := s.session.workspace
    { s with session := { s.session with
        workspace := { w with tree := w.resources.closed w.tree } } }
  return result

end Act

end ApkForge.CommandLine
