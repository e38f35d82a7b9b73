-- The complaints of the compiler, counted. A complaint is a line that begins with a file, a line
-- and a column; it is a warning if the text after them says so.
import ApkForge.Text.Digit
import ApkForge.Text.Split

namespace ApkForge

/-- How many warnings and errors there are. -/
structure Diagnostics where
  warnings : Nat := 0
  errors : Nat := 0
deriving DecidableEq, Repr, Inhabited

namespace Diagnostics

/-- A colon and a number taken from the front. -/
def takeNumber : List Char → Option (List Char)
  | ':' :: rest =>
    let after := rest.dropWhile Text.isDigit
    if after.length < rest.length then some after else none
  | _ => none

/-- The message after a line and a column, if the text begins with them. -/
def takePosition (cs : List Char) : Option (List Char) :=
  match (takeNumber cs).bind takeNumber with
  | some (':' :: ' ' :: message) => some message
  | _ => none

/-- The message of a complaint: what follows the first position that has a file before it. -/
def message? : List Char → Option (List Char)
  | [] => none
  | _ :: rest =>
    match takePosition rest with
    | some message => some message
    | none => message? rest

/-- The beginning of a warning. -/
def warningMark : List Char := "warning - ".toList

/-- The counts with one more line. -/
def addLine (d : Diagnostics) (line : String) : Diagnostics :=
  match message? line.toList with
  | none => d
  | some message =>
    if (Text.dropHead? warningMark message).isSome then { d with warnings := d.warnings + 1 }
    else { d with errors := d.errors + 1 }

/-- The complaints in a text. -/
def count (text : String) : Diagnostics := (Text.lines text).foldl addLine {}

end Diagnostics

end ApkForge
