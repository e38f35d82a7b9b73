-- The host's program that shows what differs between two texts. As many lines as possible are kept,
-- and what stands between them is shown as changed.
import ApkForge.Script.Calendar
import ApkForge.Script.Program.Lines

namespace ApkForge.Script.Program

open Work

namespace Difference

/-! ## Changes -/

/-- A change: the lines before it in both texts, and those that are taken out and put in. -/
structure Change where
  oldStart : Nat
  newStart : Nat
  old : List String
  new : List String
deriving Repr, Inhabited

/-- How many lines can be kept from a line on, for each place in the other text. `below` says so for
the line after it. -/
def lengthsOf (same : String → String → Bool) (x : String) : List String → List Nat → List Nat
  | y :: ys, d :: ds =>
    let rest := lengthsOf same x ys ds
    (if same x y then ds.headD 0 + 1 else max d (rest.headD 0)) :: rest
  | _, _ => [0]

/-- How many lines can be kept from each place in two texts. -/
def table (same : String → String → Bool) (a b : List String) : Array (Array Nat) :=
  let last := List.replicate (b.length + 1) 0
  let rows := a.foldr (fun x rows => lengthsOf same x b (rows.headD []) :: rows) [last]
  (rows.map List.toArray).toArray

/-- The changes from one text to another; `open_` is the change that the lines read last belong
to. -/
def walk (same : String → String → Bool) (t : Array (Array Nat)) :
    Nat → Nat → Nat → Option Change → List String → List String → List Change
  | 0, _, _, open_, _, _ => open_.toList
  | fuel + 1, i, j, open_, a, b =>
    let current := open_.getD ⟨i, j, [], []⟩
    let length := fun (i j : Nat) => (t.getD i #[]).getD j 0
    let drop := fun (x : String) (xs : List String) =>
      walk same t fuel (i + 1) j (some { current with old := x :: current.old }) xs b
    let add := fun (y : String) (ys : List String) =>
      walk same t fuel i (j + 1) (some { current with new := y :: current.new }) a ys
    match a, b with
    | [], [] => open_.toList
    | x :: xs, [] => drop x xs
    | [], y :: ys => add y ys
    | x :: xs, y :: ys =>
      if same x y then open_.toList ++ walk same t fuel (i + 1) (j + 1) none xs ys
      else if length i (j + 1) ≤ length (i + 1) j then drop x xs
      else add y ys

/-- The number of lines that two texts have in common in front. -/
def common (same : String → String → Bool) : List String → List String → Nat
  | x :: xs, y :: ys => if same x y then common same xs ys + 1 else 0
  | _, _ => 0

/-- The most pairs of lines that are compared. -/
def mostPairs : Nat := 4000000

/-- The changes from one text to another. -/
def changes (same : String → String → Bool) (a b : List String) : List Change :=
  let front := common same a b
  let a := a.drop front
  let b := b.drop front
  let back := common same a.reverse b.reverse
  let a := a.take (a.length - back)
  let b := b.take (b.length - back)
  let found := if a.isEmpty && b.isEmpty then []
    else if mostPairs < a.length * b.length then [⟨0, 0, a.reverse, b.reverse⟩]
    else walk same (table same a b) (a.length + b.length + 1) 0 0 none a b
  found.map fun c =>
    ⟨c.oldStart + front, c.newStart + front, c.old.reverse, c.new.reverse⟩

/-! ## Layouts -/

/-- The lines of a text, each with its end. The last one says so if it has none. -/
def linesOf (text : String) : List String :=
  let (ls, ended) := Octet.lines text
  let full := ls.map (· ++ "\n")
  if ended then full
  else full.dropLast ++ [ls.getLast?.getD "" ++ "\n\\ No newline at end of file\n"]

/-- Lines with a mark in front of each. -/
def marked (mark : String) (ls : List String) : String := String.join (ls.map (mark ++ ·))

/-- The numbers of the first and the last of some lines, or of the one before if there are none. -/
def range (start count : Nat) : String :=
  if count ≤ 1 then toString (start + count)
  else toString (start + 1) ++ "," ++ toString (start + count)

/-- A change in the plain layout. -/
def Change.plain (c : Change) : String :=
  let letter := if c.old.isEmpty then "a" else if c.new.isEmpty then "d" else "c"
  range c.oldStart c.old.length ++ letter ++ range c.newStart c.new.length ++ "\n" ++
    marked "< " c.old ++ (if c.old.isEmpty || c.new.isEmpty then "" else "---\n") ++
        marked "> " c.new

/-- Changes in groups whose contexts meet. -/
def grouped (context : Nat) : List Change → List (List Change)
  | [] => []
  | c :: cs =>
    match grouped context cs with
    | (d :: ds) :: groups =>
      if d.oldStart ≤ c.oldStart + c.old.length + 2 * context then (c :: d :: ds) :: groups
      else [c] :: (d :: ds) :: groups
    | groups => [c] :: groups

/-- The place of a group: where it starts and how many lines it has. -/
def place (start count : Nat) : String :=
  if count == 1 then toString (start + 1)
  else toString (if count == 0 then start else start + 1) ++ "," ++ toString count

/-- The lines of a group with those between its changes, from a line of the old text on. -/
def groupLines (old : List String) (finish : Nat) : Nat → List Change → String
  | line, [] => marked " " ((old.drop line).take (finish - line))
  | line, c :: cs =>
    marked " " ((old.drop line).take (c.oldStart - line)) ++ marked "-" c.old ++ marked "+" c.new ++
      groupLines old finish (c.oldStart + c.old.length) cs

/-- A group of changes with lines around them. -/
def together (context : Nat) (old : List String) (group : List Change) : String :=
  match group.head?, group.getLast? with
  | some first, some last =>
    let start := first.oldStart - context
    let newStart := first.newStart - (first.oldStart - start)
    let finish := min old.length (last.oldStart + last.old.length + context)
    let count := finish - start
    let newCount := count + (group.map fun c => c.new.length).foldl (· + ·) 0 -
      (group.map fun c => c.old.length).foldl (· + ·) 0
    "@@ -" ++ place start count ++ " +" ++ place newStart newCount ++ " @@\n" ++
      groupLines old finish start group
  | _, _ => ""

/-! ## Texts that count as the same -/

/-- A line as it is compared: cases may not count, nor how many blanks there are, nor blanks at
all. -/
def compared (c : Call) (line : String) : String :=
  let line := if c.has 'i' then line.map Char.toLower else line
  if c.has 'w' then String.ofList (line.toList.filter fun ch => !Octet.isSpace ch)
  else if c.has 'b' then Text.join " " (Octet.words line)
  else line

end Difference

open Difference

/-- The options of the program that shows differences. -/
def diffOptions : Options :=
  { flags := "uqsiwbrNaBct", valued := "UL"
    long := [("unified", 'u'), ("brief", 'q'), ("report-identical-files", 's'),
        ("ignore-case", 'i'),
      ("ignore-all-space", 'w'), ("ignore-space-change", 'b'), ("recursive", 'r'),
      ("new-file", 'N'), ("text", 'a'), ("label", 'L'), ("normal", 'n')] }

/-- What differs between two texts is shown. -/
def diffTexts (c : Call) (head first second a b : String) : Work Unit := do
  let same := fun (x y : String) => compared c x == compared c y
  let old := linesOf a
  let found := if a == b then [] else changes same old (linesOf b)
  if found.isEmpty then
    if c.has 's' then printLine ("Files " ++ first ++ " and " ++ second ++ " are identical")
  else
    ends 1
    if c.has 'q' then printLine ("Files " ++ first ++ " and " ++ second ++ " differ")
    else if c.has 'u' || c.has 'U' then
      let context := if c.has 'U' then numberOf c 'U' 3 else 3
      let m ← get
      let stamp := "\t" ++ Calendar.shown m.world.now
        "%Y-%m-%d %H:%M:%S.000000000 +0000"
      let labels := c.values 'L'
      print (head ++ "--- " ++ labels.getD 0 (first ++ stamp) ++ "\n+++ " ++
        labels.getD 1 (second ++ stamp) ++ "\n" ++
        String.join ((grouped context found).map (together context old)))
    else print (head ++ String.join (found.map Change.plain))

/-- Two files are compared, or the files of two directories, so deep. -/
def diffPaths (c : Call) (self command : String) : Nat → String → String → String → Work Unit
  | 0, _, _, _ => return ()
  | fuel + 1, head, first, second => do
    let m ← get
    let isDir := fun (path : String) => path != "-" && m.world.disk.isDir m.here path
    let worse := fun (fault : FileFault) (path : String) => do
      tells self (path ++ ": " ++ Streams.words fault)
      ends 2
    match isDir first, isDir second with
    | true, true =>
      let namesIn := fun (path : String) => match m.stat path with
        | .ok (place, _) => m.world.disk.names place
        | .error _ => []
      let own := namesIn first
      let others := namesIn second
      let all := sortBy (fun a b => decide (a < b)) (own ++ others).eraseDups
      all.forM fun name => do
        if !others.contains name then
          printLine ("Only in " ++ first ++ ": " ++ name)
          ends (max 1 (← get).status)
        else if !own.contains name then
          printLine ("Only in " ++ second ++ ": " ++ name)
          ends (max 1 (← get).status)
        else
          let a := below first name
          let b := below second name
          if isDir a && isDir b && !c.has 'r' then
            printLine ("Common subdirectories: " ++ a ++ " and " ++ b)
          else
            let before := (← get).status
            ends 0
            diffPaths c self command fuel (command ++ " " ++ a ++ " " ++ b ++ "\n") a b
            ends (max before (← get).status)
    | true, false => diffPaths c self command fuel head (below first (lastName second)) second
    | false, true => diffPaths c self command fuel head first (below second (lastName first))
    | false, false =>
      let a ← inputOf first
      let b ← if first == second then pure a else inputOf second
      match a, b with
      | .error fault, .error other =>
        worse fault first
        worse other second
      | .error fault, _ => worse fault first
      | _, .error fault => worse fault second
      | .ok a, .ok b => diffTexts c head first second a b

/-- What differs between two files is shown. -/
def diff (self : String) (args : List String) : Work Unit :=
  let wrong := fun (what : String) => do
    tells self what
    tells self ("Try '" ++ self ++ " --help' for more information.")
    ends 2
  calledOr wrong diffOptions args fun c => do
    match c.operands with
    | [] => wrong ("missing operand after " ++ named self)
    | [only] => wrong ("missing operand after " ++ named only)
    | [first, second] =>
      ends 0
      let given := args.filter fun arg => Text.beginsWith "-" arg && arg != "-"
      diffPaths c self (Text.join " " (self :: given)) 100 "" first second
    | _ :: _ :: extra :: _ => wrong ("extra operand " ++ named extra)

end ApkForge.Script.Program
