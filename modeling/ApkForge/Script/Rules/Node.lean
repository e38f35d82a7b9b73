-- The language of the program that works on records by rules, as trees. A rule says for which
-- records something is done, and what.

namespace ApkForge.Script.Rules

/-- Where a value or a table is kept: under a name, or in a place that a call has of its own. -/
inductive Spot where
  | named (name : String)
  | own (index : Nat)
deriving DecidableEq, Repr, Inhabited

/-- What is done with two numbers. -/
inductive Operation where
  | plus
  | minus
  | times
  | divided
  | rest
  | power
deriving DecidableEq, Repr, Inhabited

/-- How two values are compared. -/
inductive Relation where
  | less
  | atMost
  | equal
  | unequal
  | greater
  | atLeast
deriving DecidableEq, Repr, Inhabited

/-- The relation holds between values in an order. -/
def Relation.holds (r : Relation) (o : Ordering) : Bool :=
  match r with
  | .less => o == .lt
  | .atMost => o != .gt
  | .equal => o == .eq
  | .unequal => o != .eq
  | .greater => o == .gt
  | .atLeast => o != .lt

/-- Where a line is read from: the records that the rules work on, a file, or what a command
writes. -/
inductive Origin where
  | records
  | file
  | command
deriving DecidableEq, Repr, Inhabited

/-- Where text goes that is printed: to the output, to a file, to its end, or to a command. -/
inductive Direction where
  | output
  | file
  | fileEnd
  | command
deriving DecidableEq, Repr, Inhabited

/-- An expression. A pattern alone says whether it fits the record. -/
inductive Expr where
  | number (x : Float)
  | text (s : String)
  | pattern (s : String)
  | held (spot : Spot)
  | element (table : Spot) (keys : List Expr)
  | field (index : Expr)
  | put (target : Expr) (op : Option Operation) (value : Expr)
  | step (target : Expr) (up first : Bool)
  | negative (e : Expr)
  | positive (e : Expr)
  | opposite (e : Expr)
  | sum (op : Operation) (a b : Expr)
  | joined (a b : Expr)
  | compare (r : Relation) (a b : Expr)
  | all (a b : Expr)
  | any (a b : Expr)
  | choose (test yes no : Expr)
  | fits (negated : Bool) (text what : Expr)
  | has (table : Spot) (keys : List Expr)
  | call (name : String) (args : List Expr)
  | known (name : String) (args : List Expr)
  | line (origin : Origin) (name target : Option Expr)
deriving Inhabited

/-- A thing can be given a value. -/
def Expr.isPlace : Expr → Bool
  | .held _ => true
  | .element _ _ => true
  | .field _ => true
  | _ => false

/-- A step of what is done. -/
inductive Step where
  | value (e : Expr)
  | print (formatted : Bool) (args : List Expr) (direction : Direction) (name : Option Expr)
  | block (steps : List Step)
  | choose (test : Expr) (yes : Step) (no : Option Step)
  | turns (testsFirst : Bool) (test : Option Expr) (after : Option Step) (body : Step)
  | each (target : Expr) (table : Spot) (body : Step)
  | stop
  | again
  | next
  | nextFile
  | exit (status : Option Expr)
  | back (value : Option Expr)
  | delete (table : Spot) (keys : Option (List Expr))
deriving Inhabited

/-- For which records something is done: for each, for those with which an expression holds, or for
stretches of them. Something may also be done before all records and after them. -/
inductive Pattern where
  | start
  | finish
  | always
  | when (e : Expr)
  | between (first last : Expr)
deriving Inhabited

/-- A rule. One that does not say what is done shows the record. -/
structure Rule where
  pattern : Pattern
  body : Option Step
deriving Inhabited

/-- A command of the rules' own: how many values it takes, and what it does. -/
structure Command where
  name : String
  size : Nat
  body : Step
deriving Inhabited

/-- Rules with the commands that they use. Where a command takes tables is known by its name and the
number of the value. -/
structure Program where
  rules : List Rule
  commands : List Command
  tables : List (String × Spot)
deriving Inhabited

namespace Program

/-- A command by its name. -/
def command? (p : Program) (name : String) : Option Command :=
  p.commands.find? fun c => c.name == name

/-- A command has a table in a place. -/
def takesTable (p : Program) (name : String) (index : Nat) : Bool :=
  p.tables.contains (name, .own index)

end Program

end ApkForge.Script.Rules
