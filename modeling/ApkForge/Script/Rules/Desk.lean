-- What rules work with: values and tables by their names, the record with its fields, and what is
-- still to be read. Fields are cut when they are asked for, and the record is put together again
-- when one of them has changed.
import ApkForge.Script.Rules.Datum
import ApkForge.Script.Rules.Sought
import Std.Data.HashMap

namespace ApkForge.Script.Rules

/-! ## Tables -/

/-- An entry of a table: its value, when it was used last, and the number that is its key, if it is
one. -/
structure Entry where
  value : Datum
  used : Nat
  whole : Option Nat := none
deriving Inhabited

/-- A table, with a count of its uses. -/
structure Table where
  entries : Std.HashMap String Entry := {}
  uses : Nat := 0
deriving Inhabited

namespace Table

/-- How many entries a table has. -/
def size (t : Table) : Nat := t.entries.size

/-- A table with an entry that was used. -/
def touch (key : String) : Table → Table
  | ⟨entries, uses⟩ => ⟨entries.modify key fun e => { e with used := uses }, uses + 1⟩

/-- A table with one entry changed. -/
def put (key : String) (whole : Option Nat) (value : Datum) : Table → Table
  | ⟨entries, uses⟩ =>
    match entries.get? key with
    | some e =>
      let used := if whole.isSome then e.used else uses
      ⟨entries.insert key { e with value, used }, uses + 1⟩
    | none => ⟨entries.insert key { value, used := uses, whole }, uses + 1⟩

/-- A table without an entry. -/
def erase (key : String) : Table → Table
  | ⟨entries, uses⟩ => ⟨entries.erase key, uses⟩

/-- A table of texts that are counted from one. -/
def ofList (values : List Datum) : Table :=
  let (n, entries) := values.foldl (fun (n, (m : Std.HashMap String Entry)) v =>
    (n + 1, m.insert (toString n) { value := v, used := n, whole := some n }))
    (1, ({} : Std.HashMap String Entry))
  { entries, uses := n }

/-- The number by which a key finds its drawer. -/
def hashOf (key : String) : Nat :=
  key.toList.foldl (fun n c => (n ^^^ (c.toNat % 256)) * 16777619 % 4294967296) 2166136261

/-- How many drawers a table of a size has. There are twice as many when there would be more than so
many entries in each. -/
def drawers (size : Nat) : Nat :=
  let rec go : Nat → Nat → Nat
    | 0, n => n
    | fuel + 1, n => if 12 * n < size then go fuel (2 * n) else n
  go 32 64

/-- The keys of a table in its order: drawer by drawer, in each of them the last used first. Keys
that are numbers lie the other way round by what they have beyond the drawers. -/
def keys (t : Table) : List String :=
  let count := drawers t.size
  let rank := fun (key : String) (e : Entry) =>
    let behind := match e.whole with
      | some n => (0, count - 1 - n % count, e.used)
      | none => (1, t.uses - e.used, 0)
    (hashOf key % count, behind, key)
  let ranked := t.entries.fold (fun l key e => rank key e :: l) []
  let before := fun (a b : Nat × (Nat × Nat × Nat) × String) =>
    let x := [a.1, a.2.1.1, a.2.1.2.1, a.2.1.2.2]
    let y := [b.1, b.2.1.1, b.2.1.2.1, b.2.1.2.2]
    decide (x < y)
  (ranked.mergeSort fun a b => !before b a).map fun r => r.2.2

end Table

/-! ## Where text is cut -/

/-- The first match of an expression that is not empty, from a position on. -/
def firstFull (e : Regex) (s : Regex.Subject) : Nat → Nat → Option Regex.Match
  | 0, _ => none
  | fuel + 1, position =>
    match e.search s position with
    | none => none
    | some m => if m.finish == m.start then firstFull e s fuel (m.start + 1) else some m

/-- The parts of a text from a position on, between matches of an expression. -/
def cutAt (e : Regex) (s : Regex.Subject) : Nat → Nat → List String
  | 0, start => [String.ofList (s.text.extract start s.text.size).toList]
  | fuel + 1, start =>
    match firstFull e s (s.text.size + 1 - start) start with
    | none => [String.ofList (s.text.extract start s.text.size).toList]
    | some m => String.ofList (s.text.extract start m.start).toList :: cutAt e s fuel m.finish

/-- The parts of a text between matches of an expression; an empty text has none. -/
def cutBy (e : Regex) (text : String) : List String :=
  if text == "" then []
  else
    let s : Regex.Subject := { text := text.toList.toArray }
    cutAt e s (s.text.size + 1) 0

/-- What divides a text: blanks, nothing so that each character stands alone, a character, or
matches of an expression. -/
inductive Divider where
  | blanks
  | nothing
  | sign (c : Char)
  | matches_ (e : Regex)
deriving Inhabited

/-- The parts of a text. -/
def Divider.cut (d : Divider) (text : String) : List String :=
  match d with
  | .blanks => Octet.words text
  | .nothing => text.toList.map String.singleton
  | .sign c => if text == "" then [] else Text.split c text
  | .matches_ e => cutBy e text

/-! ## Records -/

/-- What ends a record: a character, an empty line, or a match of an expression. -/
inductive Ender where
  | sign (c : Char)
  | emptyLine
  | match_ (e : Regex)
deriving Inhabited

/-- The lines in front of an empty one, or of the end, and what follows the empty lines. -/
def paragraph : Nat → List Char → List Char → List Char × List Char
  | 0, read, cs => (read.reverse, cs)
  | _, read, [] => ((read.dropWhile (· == '\n')).reverse, [])
  | fuel + 1, read, c :: cs =>
    if c == '\n' && cs.head? == some '\n' then (read.reverse, cs.dropWhile (· == '\n'))
    else paragraph fuel (c :: read) cs

/-- The first record of a text that has not come to its end, and the rest. -/
def Ender.cut (e : Ender) (cs : List Char) : Option (String × List Char) :=
  match e with
  | .sign c =>
    if cs.isEmpty then none
    else
      let front := cs.takeWhile (· != c)
      some (String.ofList front, (cs.drop front.length).tail)
  | .emptyLine =>
    match cs.dropWhile (· == '\n') with
    | [] => none
    | cs =>
      let (front, rest) := paragraph (cs.length + 1) [] cs
      some (String.ofList front, rest)
  | .match_ e =>
    if cs.isEmpty then none
    else
      let s : Regex.Subject := { text := cs.toArray }
      match firstFull e s (s.text.size + 1) 0 with
      | some m => some (String.ofList (cs.take m.start), cs.drop m.finish)
      | none => some (String.ofList cs, [])

/-! ## The state -/

/-- A place that a call has of its own: a value, or the name of a table. -/
inductive Own where
  | value (d : Datum)
  | table (name : String)
deriving Inhabited

/-- Something that text is written to: a file on a stream, or a command that gets it in the end. -/
structure Outlet where
  name : String
  stream : Option Nat
  parts : List String := []
deriving Inhabited

/-- Something that lines are read from: a file, or what a command wrote, which ended with a
status. -/
structure Inlet where
  name : String
  rest : List Char
  status : Option Nat := none
deriving Inhabited

/-- What rules work with. Numbers by chance are drawn from the last ones. -/
structure Desk where
  self : String := "awk"
  values : Std.HashMap String Datum := {}
  tables : Std.HashMap String Table := {}
  own : Array Own := #[]
  calls : Nat := 0
  record : String := ""
  fields : Option (Array Datum) := none
  isStale : Bool := false
  patterns : Std.HashMap String Regex := {}
  source : Option (List Char) := none
  nextArgument : Nat := 1
  readsInput : Bool := true
  stretches : List Nat := []
  outlets : List Outlet := []
  inlets : List Inlet := []
  pending : List String := []
  pendingSize : Nat := 0
  status : Nat := 0
  seed : Nat := 0
  chance : Array Nat := #[]
deriving Inhabited

namespace Desk

/-- A value by its name, as a text. -/
def textOf (d : Desk) (name : String) : String :=
  match d.values.getD name .nothing with
  | .text s => s
  | .given s => s
  | .number x => Datum.numberText "%.6g" x
  | .nothing => ""

/-- The form of numbers in texts. -/
def form (d : Desk) : String := d.textOf "CONVFMT"

/-- A number that counts records. -/
def countOf (d : Desk) (name : String) : Float := (d.values.getD name .nothing).toNumber

/-- One record more has been read. -/
def countOne (d : Desk) (name : String) : Desk :=
  { d with values := d.values.insert name (.number (d.countOf name + 1)) }

/-! ## Chance -/

/-- The numbers that chance begins with. -/
def sown (seed : Nat) : Array Nat :=
  let first := if seed % 4294967296 == 0 then 1 else seed % 4294967296
  let step := fun (last : Int) =>
    let t := 16807 * Int.tmod last 127773 - 2836 * Int.tdiv last 127773
    if t < 0 then t + 2147483647 else t
  let signed := if first ≥ 2147483648 then Int.ofNat first - 4294967296 else Int.ofNat first
  let r := (List.range 30).foldl (fun (r : Array Int) _ => r.push (step (r.back?.getD 1))) #[signed]
  let r := r.map fun (n : Int) => (n % 4294967296).toNat
  let r := (List.range 3).foldl (fun (r : Array Nat) i => r.push (r.getD i 0)) r
  (List.range 310).foldl (fun (r : Array Nat) _ => next r) r
where
  /-- The numbers with one more. -/
  next (r : Array Nat) : Array Nat :=
    r.push ((r.getD (r.size - 31) 0 + r.getD (r.size - 3) 0) % 4294967296)

/-- A number between 0 and 1 that is drawn by chance. -/
def draw (d : Desk) : Float × Desk :=
  let r := if d.chance.isEmpty then sown d.seed else d.chance
  let r := sown.next r
  let x := Float.ofNat (r.back?.getD 0 / 2) / 2147483647
  (x, { d with chance := r.extract (r.size - 31) r.size })

end Desk

end ApkForge.Script.Rules
