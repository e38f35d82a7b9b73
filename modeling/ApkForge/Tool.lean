-- The programs that a build starts: what is asked of a tool, what comes back, and why no answer
-- may come. A runner is any function that answers a command and may change the tree of files.
import ApkForge.FileTree
import ApkForge.Text.Blank

namespace ApkForge

/-- A program with its arguments, and the directory it starts in if that is fixed. -/
structure Command where
  program : String
  args : List String := []
  startIn : Option Path := none
deriving DecidableEq, Repr, Inhabited

namespace Command

/-- The program and its arguments with single blanks between them. -/
def display (c : Command) : String := Text.join " " (c.program :: c.args)

/-- One of the arguments is exactly `arg`. -/
def hasArg (c : Command) (arg : String) : Bool := c.args.contains arg

end Command

/-- What a finished tool leaves: its two streams, and its exit code unless a signal ended it. -/
structure ToolOutput where
  stdout : Bytes := []
  stderr : Bytes := []
  exit : Option Int := some 0
deriving DecidableEq, Repr

namespace ToolOutput

/-- A tool that printed nothing. -/
def exited (code : Int) : ToolOutput := { exit := some code }

/-- A tool succeeds with exit code 0 and in no other way. -/
def success (o : ToolOutput) : Bool := o.exit == some 0

/-- The last line that is not blank, trimmed. -/
def lastWords (text : String) : Option String :=
  ((Text.lines text).map Text.trim).reverse.find? fun line => line != ""

/-- Why a tool failed: its exit and the last words on its error stream. -/
def failureReason (o : ToolOutput) : String :=
  let status := match o.exit with
    | some code => "exit status " ++ toString code
    | none => "terminated by signal"
  match lastWords (Utf8.decodeLossy o.stderr) with
  | some line => status ++ ": " ++ line
  | none => status

end ToolOutput

/-- Why a tool gave no answer. -/
inductive RunFault where
  | notStarted (program reason : String)
  | notCollected (program reason : String)
  | timedOut (program : String) (seconds : Nat)
deriving DecidableEq, Repr

/-- The words for a missing answer. -/
def RunFault.message : RunFault → String
  | .notStarted program reason => "Failed to start '" ++ program ++ "': " ++ reason
  | .notCollected program reason =>
    "Failed to collect output of '" ++ program ++ "': " ++ reason
  | .timedOut program seconds =>
    "'" ++ program ++ "' timed out after " ++ toString seconds ++ " seconds"

/-- What a tool answers. -/
abbrev Answer := Except RunFault ToolOutput

/-- Answers a command, given the milliseconds it may take, if they are limited, and the directory
that relative paths start at. It works on a state of its own and may change the tree. -/
structure Runner (ρ : Type) where
  answer : Command → Option Nat → Place → ρ → FileTree → Answer × ρ × FileTree

end ApkForge
