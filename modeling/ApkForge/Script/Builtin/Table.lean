-- The commands that a shell does itself, by their names.
import ApkForge.Script.Builtin.Declare
import ApkForge.Script.Builtin.Leaving
import ApkForge.Script.Builtin.Places

namespace ApkForge.Script.Builtin

open Work

/-- A command with options that needs no arguments. -/
def ignoring (status : Nat) (_args : List String) : Work Unit := ends status

/-- The commands that every shell does itself. -/
def find? : String → Option (List String → Work Unit)
  | ":" => some (ignoring 0)
  | "true" => some (ignoring 0)
  | "false" => some (ignoring 1)
  | "echo" => some echo
  | "printf" => some printf
  | "test" => some (test "test")
  | "[" => some bracketed
  | "read" => some read
  | "cd" => some cd
  | "pwd" => some pwd
  | "umask" => some umask
  | "ulimit" => some ulimit
  | "export" => some export_
  | "readonly" => some readonly
  | "local" => some keepLocal
  | "unset" => some unset
  | "set" => some setOptions
  | "shift" => some shift
  | "getopts" => some getopts
  | "exit" => some exit
  | "return" => some return_
  | "break" => some (leaveLoops "break" false)
  | "continue" => some (leaveLoops "continue" true)
  | "trap" => some trap
  | "wait" => some wait
  | "jobs" => some (ignoring 0)
  | "fg" => some (resume "fg")
  | "bg" => some (resume "bg")
  | "times" => some times
  | "alias" => some alias_
  | "unalias" => some unalias
  | _ => none
where
  /-- Variables of a plain shell get back what they hold when what the script defined has ended. -/
  keepLocal (args : List String) : Work Unit := do
    if (← get).frames.isEmpty then
      say "local: not in a function"
      exits 2
    else forDefinitions "local" args fun name value? => do
      hide name
      setIfGiven "local" name value?

/-- The commands that only a rich shell does itself. -/
def findRich? : String → Option (List String → Work Unit)
  | "let" => some let_
  | "mapfile" => some (mapfile "mapfile")
  | "readarray" => some (mapfile "readarray")
  | "shopt" => some shopt
  | "pushd" => some pushd
  | "popd" => some popd
  | "dirs" => some dirs
  | "logout" => some fun _ => failsAs "logout" 1 1 "not login shell: use \x60exit'"
  | "disown" => some disown
  | "suspend" => some (ignoring 1)
  | "history" => some (ignoring 0)
  | "enable" => some (ignoring 0)
  | "complete" => some (ignoring 0)
  | "bind" => some (ignoring 0)
  | name =>
    if declarers.contains name then some fun args => declare name (args.map Argument.text) else none

/-- The commands that a shell does itself because they run others. -/
def runners (rich : Bool) : List String :=
  ["eval", ".", "exec", "command", "type", "hash", "kill"] ++
    if rich then ["source", "builtin", "caller"] else []

/-- What a shell does for a command that it knows. -/
def known? (rich : Bool) (name : String) : Option (List String → Work Unit) :=
  if rich then (findRich? name).or (find? name) else find? name

/-- A shell knows a command. -/
def isKnown (rich : Bool) (name : String) : Bool :=
  (runners rich).contains name || (known? rich name).isSome

end ApkForge.Script.Builtin
