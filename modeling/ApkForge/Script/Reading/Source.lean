-- Where the reader of a script stands: the text that is left, its line, and the texts that begin
-- after the next line end. A rich shell reads more than a plain one does and complains in other
-- words.
import ApkForge.Script.Node

namespace ApkForge.Script

/-- A token of a script. A redirection may name the stream that it moves. -/
inductive Token where
  | word (word : Word)
  | sign (text : String)
  | redirect (stream : Moved) (sign : String)
  | lineEnd
  | finish
deriving Inhabited

/-- A text that stands in the script itself: its number, whether tabs in front of its lines are
dropped, the line that ends it, and the line that asked for it. -/
structure Inset where
  number : Nat
  dropsTabs : Bool
  last : Word
  line : Nat
deriving Inhabited

/-- Why a text is no script: what to say about which line, whether that line is shown, and the
status of a script that ends there. Something may be said first; and the words may be about what
stands where so many characters are left. -/
structure Unread where
  line : Nat
  words : String
  showsLine : Bool := false
  status : Nat := 2
  first : Option (Nat × String) := none
  near : Option Nat := none
deriving Inhabited

/-- A script while it is read. A token that was read ahead waits with its line. -/
structure Source where
  rest : List Char
  line : Nat := 1
  rich : Bool := false
  grouped : Bool := false
  ahead : Option (Nat × Token) := none
  pending : List Inset := []
  insets : List (Nat × Word) := []
  nextInset : Nat := 0
  aliases : List (String × String) := []
  expanding : List (String × Nat) := []
  warnings : List (Nat × String) := []
deriving Inhabited

/-- Reading from the front of a script. -/
abbrev Read (α : Type) := ExceptT Unread (StateM Source) α

namespace Read

/-! ## Characters -/

/-- The next character, which stays. -/
def peek? : Read (Option Char) := return (← get).rest.head?

/-- The character after the next. -/
def peekSecond? : Read (Option Char) := return (← get).rest[1]?

/-- So many characters are taken, and their line ends are counted. -/
def skip (n : Nat) : Read Unit :=
  modify fun s => { s with rest := s.rest.drop n, line := s.line + (s.rest.take n).count '\n' }

/-- The characters as long as they fit. -/
def takeWhile (fits : Char → Bool) : Read String := do
  let text := (← get).rest.takeWhile fits
  skip text.length
  return String.ofList text

/-- A text is taken if it comes next. -/
def takeIf (text : String) : Read Bool := do
  if (Text.dropHead? text.toList (← get).rest).isSome then
    skip text.length
    return true
  else return false

/-- The steps that are enough to read all that is left. -/
def fuel : Read Nat := return 2 * (← get).rest.length + 4

/-- What a step gives, as long as it gives something. -/
def gather {α : Type} (step : Read (Option α)) : Nat → Read (List α)
  | 0 => return []
  | n + 1 => do
    match ← step with
    | none => return []
    | some a => return a :: (← gather step n)

/-- What a step gives, as long as it gives something, to the end of the script at most. -/
def gatherAll {α : Type} (step : Read (Option α)) : Read (List α) := do
  gather step (← fuel)

/-- What is read if all of it can be; else nothing is taken. -/
def attempt {α : Type} (act : Read α) : Read (Option α) := do
  let s ← get
  match act.run s with
  | (.ok a, next) =>
    set next
    return some a
  | (.error _, _) => return none

/-- A part of the script that is a text of its own. -/
def within {α : Type} (text : List Char) (line : Nat) (act : Read α) : Read α := do
  let s ← get
  set { s with rest := text, line, ahead := none, pending := [] }
  let a ← act
  modify fun inner =>
    { inner with rest := s.rest, line := s.line, ahead := s.ahead, pending := s.pending }
  return a

/-! ## Faults -/

/-- The script cannot be read any further, for this reason. -/
def stop {α : Type} (fault : Unread) : Read α := throw fault

/-- The script cannot be read, for a reason told on a line. -/
def failAt {α : Type} (line : Nat) (plain rich : String) (status : Nat := 2) : Read α := do
  if (← get).rich then stop { line, words := rich, status }
  else stop { line, words := "Syntax error: " ++ plain }

/-- The script cannot be read any further. -/
def fail {α : Type} (plain rich : String) : Read α := do
  failAt (← get).line plain rich

/-- The words of a rich shell about what is never closed. -/
def unmatched (sign : String) : String :=
  "unexpected EOF while looking for matching \x60" ++ sign ++ "'"

/-- Commands are nested too deep. -/
def tooDeep {α : Type} : Read α := fail "too deep" "too deep"

end Read

/-! ## Tokens in messages -/

/-- The words with a meaning of their own where a command may begin. -/
def reserved : List String :=
  ["!", "case", "do", "done", "elif", "else", "esac", "fi", "for", "if", "in", "then", "until",
    "while", "\x7b", "\x7d"]

/-- Those that only a rich shell knows. -/
def richReserved : List String := ["[[", "]]", "function", "select", "time"]

/-- A word has a meaning of its own. -/
def isReserved (rich : Bool) (word : String) : Bool :=
  reserved.contains word || (rich && richReserved.contains word)

/-- A text in the quotes of messages about tokens. -/
def quotedName (text : String) : String := "\x22" ++ text ++ "\x22"

namespace Token

/-- The name of a token in messages. A reserved word is named only where it has its meaning. -/
def name (anyWord : Bool) : Token → String
  | .word w =>
    match w.plain? with
    | some s => if reserved.contains s && !anyWord then quotedName s else "word"
    | none => "word"
  | .sign s => quotedName s
  | .redirect _ _ => "redirection"
  | .lineEnd => "newline"
  | .finish => "end of file"

/-- A token as it is written. -/
def written : Token → String
  | .word w => w.raw
  | .sign s => s
  | .redirect _ s => s
  | .lineEnd => "newline"
  | .finish => ""

/-- A token is this plain word. -/
def isWord (text : String) : Token → Bool
  | .word w => w.plain? == some text
  | _ => false

/-- A token is this sign. -/
def isSign (text : String) : Token → Bool
  | .sign s => s == text
  | _ => false

/-- A token is the end of a line. -/
def isLineEnd : Token → Bool
  | .lineEnd => true
  | _ => false

/-- A token is the end of the script. -/
def isFinish : Token → Bool
  | .finish => true
  | _ => false

end Token

/-- The script does not go on as it should. A line end counts to the next line. -/
def Read.unexpected {α : Type} (anyWord : Bool) (expected : Option String) (line : Nat)
    (t : Token) : Read α := do
  if (← get).rich then
    if t.isFinish then stop { line, words := "syntax error: unexpected end of file" }
    let words := "syntax error near unexpected token \x60" ++ t.written ++ "'"
    stop { line, words, showsLine := true }
  else
    let wanted := match expected with
      | some s => " (expecting " ++ s ++ ")"
      | none => ""
    let words := "Syntax error: " ++ t.name anyWord ++ " unexpected" ++ wanted
    stop { line := if t.isLineEnd then line + 1 else line, words }

end ApkForge.Script
