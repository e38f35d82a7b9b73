-- Reading rules: what is still to be read and what is known of what was, the tokens that come next,
-- and the names. A name stands for a value or for a table, never for both.
import ApkForge.Script.Rules.Node
import ApkForge.Script.Rules.Sought

namespace ApkForge.Script.Rules

/-- What is wrong with rules, and whether nothing can be read after it. -/
structure Fault where
  words : String
  isLast : Bool := false
deriving Inhabited

/-- What is still to be read, and what is known of what was: how many parentheses and braces are
open, whether something is printed, the values of the command that is being read and its name, how
many loops are around, what names were used for, and what was wrong. -/
structure Reading where
  tokens : List (Token × Nat)
  line : Nat := 1
  parens : Nat := 0
  braces : Nat := 0
  printing : Bool := false
  own : List String := []
  within : String := ""
  mayNext : Bool := false
  loops : Nat := 0
  uses : List ((String × Spot) × Bool) := []
  passed : List ((String × Spot) × (String × Spot)) := []
  calls : List (String × Nat × Nat) := []
  faults : List String := []
deriving Inhabited

/-- Reading that may fail. -/
abbrev Read (α : Type) := ExceptT Fault (StateM Reading) α

namespace Read

/-! ## Tokens -/

/-- The token that comes next. -/
def peek : Read Token := do
  return ((← get).tokens.head?.map Prod.fst).getD .finish

/-- The line of the token that comes next. -/
def lineHere : Read Nat := do
  let r ← get
  return (r.tokens.head?.map Prod.snd).getD r.line

/-- The next token is passed. -/
def skip : Read Unit := modify fun r =>
  match r.tokens with
  | (_, line) :: rest => { r with tokens := rest, line }
  | [] => r

/-- Line ends are passed. -/
def skipLines : Read Unit := modify fun r =>
  { r with tokens := r.tokens.dropWhile fun t => t.1 == .lineEnd }

/-- Reading fails at the line that comes next. -/
def fails {α : Type} (words : String) : Read α := do
  throw { words := "line " ++ toString (← lineHere) ++ ": " ++ words }

/-- The next token has no place where it stands. -/
def misplaced {α : Type} : Read α := do
  let r ← get
  let t ← peek
  let ends := t == .lineEnd || t == .sign ";" || t == .sign "\x7d" || t == .finish
  match t with
  | .bad words => throw { words, isLast := true }
  | _ =>
    if ends && r.parens > 0 then fails ("missing ) near " ++ t.shown)
    else if t == .finish && r.braces > 0 then
      let line ← lineHere
      let place := "line " ++ toString line ++ ": "
      throw { words := place ++ "missing \x7d near end of file", isLast := true }
    else if t == .sign ")" && r.parens == 0 then fails "extra ')'"
    else if t == .sign "\x7d" && r.braces == 0 then fails "extra '\x7d'"
    else fails ("syntax error at or near " ++ t.shown)

/-- The next token is a sign. -/
def isSign (s : String) : Read Bool := return (← peek) == .sign s

/-- A sign is passed if it comes next. -/
def takeSign (s : String) : Read Bool := do
  if ← isSign s then
    skip
    return true
  else return false

/-- A sign must come next, and is passed. -/
def expect (s : String) : Read Unit := do
  if !(← takeSign s) then misplaced

/-- A parenthesis is opened. -/
def opens : Read Unit := do
  expect "("
  modify fun r => { r with parens := r.parens + 1 }

/-- A parenthesis is closed. -/
def closes : Read Unit := do
  expect ")"
  modify fun r => { r with parens := r.parens - 1 }

/-! ## Names -/

/-- Where a name leads. -/
def spotOf (name : String) : Read Spot := do
  match (← get).own.idxOf? name with
  | some index => return .own index
  | none => return .named name

/-- The place of a name in what is known of its use. -/
def keyOf (spot : Spot) : Read (String × Spot) := do
  match spot with
  | .named _ => return ("", spot)
  | .own _ => return ((← get).within, spot)

/-- A name is used for a table, or for a value; it cannot be both. -/
def used (name : String) (asTable : Bool) : Read Spot := do
  let spot ← spotOf name
  let key ← keyOf spot
  match (← get).uses.lookup key with
  | some before =>
    if before != asTable then
      let what := match spot, before with
        | .named _, true => "array "
        | .named _, false => "variable "
        | .own _, true => "local array "
        | .own _, false => "local variable "
      fails ("illegal reference to " ++ what ++ name)
  | none => modify fun r => { r with uses := (key, asTable) :: r.uses }
  return spot

/-- A name comes next, and is passed. -/
def name : Read String := do
  match ← peek with
  | .name s =>
    skip
    return s
  | _ => misplaced

end Read

end ApkForge.Script.Rules
