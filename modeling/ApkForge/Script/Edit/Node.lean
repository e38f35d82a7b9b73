-- The language of the program that edits lines of text, as trees: commands with the lines that they
-- are meant for.
import ApkForge.Regex.Reader

namespace ApkForge.Script.Edit

/-- An expression that is looked for; none stands for the one that was looked for last. -/
structure Sought where
  expression : Option Regex
  folds : Bool := false
  byLine : Bool := false
deriving Inhabited

/-- Which line is meant: by its number, the last one, one in which an expression occurs, or every so
many from one on. -/
inductive Spot where
  | line (number : Nat)
  | last
  | having (what : Sought)
  | every (first step : Nat)
deriving Inhabited

/-- Where a stretch of lines ends: at a spot, after so many lines more, or at a line whose number
can be divided. -/
inductive Finish where
  | spot (s : Spot)
  | after (count : Nat)
  | multiple (of : Nat)
deriving Inhabited

/-- The lines that a command is meant for. -/
structure Lines where
  first : Option Spot := none
  finish : Option Finish := none
  negated : Bool := false
deriving Inhabited

/-- A piece of a text that takes the place of a match: text, what a group matched, or a change of
the cases of what follows. -/
inductive Piece where
  | text (cs : List Char)
  | group (number : Nat)
  | cases (letter : Char)
deriving Inhabited

/-- A substitution. -/
structure Substitution where
  what : Sought
  pieces : List Piece
  from_ : Nat := 1
  all : Bool := false
  shows : Nat := 0
  file : Option String := none
deriving Inhabited

/-- When a jump is made: always, or if a substitution was made before, or if none was. -/
inductive When where
  | always
  | changed
  | unchanged
deriving DecidableEq, Repr, Inhabited

/-- What a command does. -/
inductive Verb where
  | enter
  | leave
  | nothing
  | number
  | append (text : String)
  | insert (text : String)
  | change (text : String)
  | label (name : String)
  | jump (on : When) (target : String)
  | delete
  | deleteFirst
  | fileName
  | recall
  | recallMore
  | keep
  | keepMore
  | swap
  | list (width : Option Nat)
  | next
  | nextMore
  | show_
  | showFirst
  | quit (status : Nat) (silently : Bool)
  | readFile (path : String)
  | readLine (path : String)
  | substitute (s : Substitution)
  | write (path : String) (firstOnly : Bool)
  | translate (table : List (Char × Char))
  | empty
deriving Inhabited

/-- A command with the lines that it is meant for. -/
structure Command where
  lines : Lines
  verb : Verb
deriving Inhabited

end ApkForge.Script.Edit
