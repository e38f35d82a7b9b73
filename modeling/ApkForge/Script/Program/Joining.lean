-- The host's programs that take the lines of two ordered texts together: what the texts share and
-- what each has alone, and lines with the same field as one. Both texts are read side by side, and
-- a line that is out of order is complained of when it is read.
import ApkForge.Script.Program.Sorting

namespace ApkForge.Script.Program

open Work

/-! ## Two texts -/

/-- Whether the order of two texts is checked: not at all, after the first line that is found in one
of them only, or always. -/
inductive OrderCheck where
  | never
  | unpaired
  | always
deriving DecidableEq, Repr, Inhabited

/-- The check that a call asks for. -/
def OrderCheck.ofCall (c : Call) : OrderCheck :=
  match c.last? "NO" with
  | some 'N' => .never
  | some _ => .always
  | none => .unpaired

/-- What comes out of two texts: a line, or that one of them is out of order. -/
inductive Finding where
  | line (text : String)
  | fault (words : String)
deriving Repr, Inhabited

/-- The findings are told. A fault lets the program fail, at once if the order is always checked. -/
def tellFindings (self : String) (check : OrderCheck) (lineEnd : String) (found : List Finding) :
    Work Unit := do
  found.forM fun f => match f with
    | .line text => print (text ++ lineEnd)
    | .fault words => tells self words
  let isFault := fun (f : Finding) => match f with
    | .fault _ => true
    | .line _ => false
  if found.any isFault then
    if check != .always then tells self "input is not in sorted order"
    ends 1
  else ends 0

/-- The texts of two operands. -/
def twoTexts (self : String) (status : Nat) (a b : String)
    (act : String → String → Work Unit) : Work Unit := do
  match ← inputOf a, ← inputOf b with
  | .ok x, .ok y => act x y
  | .error fault, _ => fails self (unreadable a fault) status
  | _, .error fault => fails self (unreadable b fault) status

/-- A program with two operands. -/
def withTwo (self : String) (c : Call) (act : String → String → Work Unit) : Work Unit :=
  match c.operands with
  | [a, b] => act a b
  | [] => misused self "missing operand"
  | [a] => misused self ("missing operand after " ++ named a)
  | _ :: _ :: extra :: _ => misused self ("extra operand " ++ named extra)

/-! ## Shared lines -/

/-- One of two ordered texts: the lines that are left, and the two before them, the latest first. -/
structure Side where
  rest : List String
  past : List String := []

/-- A side behind its next line, and whether that or the one after it is out of order. -/
def Side.next (s : Side) : Side × Bool :=
  match s.rest with
  | [] => (s, false)
  | line :: rest =>
    let isWrong := match rest, s.past with
      | next :: _, _ => decide (next < line)
      | [], before :: _ => decide (line < before)
      | [], [] => false
    ({ rest, past := [line] }, isWrong)

/-- The lines of two ordered texts with where they were found: in the first, in the second, or in
both. `faults` are the texts that were complained of. A fault is numbered 0. -/
def paired (check : OrderCheck) : Nat → Bool → List Nat → Side → Side → List (Nat × String)
  | 0, _, _, _, _ => []
  | fuel + 1, seen, faults, a, b =>
    let go := fun (n : Nat) (line : String) =>
      let seen := seen || n != 3
      let checks := check == .always || (check == .unpaired && seen)
      let (a, wrongA) := if n == 2 then (a, false) else a.next
      let (b, wrongB) := if n == 1 then (b, false) else b.next
      let new := ([(1, wrongA), (2, wrongB)].filter fun (k, wrong) =>
        checks && wrong && !faults.contains k).map Prod.fst
      let told := new.map fun k => (0, "file " ++ toString k ++ " is not in sorted order")
      if check == .always && !new.isEmpty then (n, line) :: told.take 1
      else (n, line) :: (told ++ paired check fuel seen (faults ++ new) a b)
    match a.rest, b.rest with
    | [], [] => []
    | x :: _, [] => go 1 x
    | [], y :: _ => go 2 y
    | x :: _, y :: _ => if x == y then go 3 x else if x < y then go 1 x else go 2 y

/-- What two ordered texts have of their own and what they share, in columns. -/
def comm (self : String) (args : List String) : Work Unit :=
  called self { flags := "123iz", valued := "D", long := [("output-delimiter", 'D'),
    ("nocheck-order", 'N'), ("check-order", 'O'), ("total", 'T'), ("zero-terminated", 'z')] } args
    fun c =>
    withTwo self c fun a b => twoTexts self 1 a b fun x y => do
      let (xs, ys) := (bareParts (lineSign c) x, bareParts (lineSign c) y)
      let gap := match c.value? 'D' with
        | some "" => "\x00"
        | given => given.getD "\t"
      let check := OrderCheck.ofCall c
      let hides := fun (n : Nat) => c.has (Char.ofNat (48 + n))
      let lines := paired check (xs.length + ys.length + 1) false [] { rest := xs } { rest := ys }
      let found := lines.filterMap fun (n, line) =>
        if n == 0 then some (.fault line)
        else if hides n then none
        else
          let before := ((List.range n).drop 1).filter fun k => !hides k
          some (.line (String.join (before.map fun _ => gap) ++ line))
      let isCut := check == .always && lines.any fun l => l.1 == 0
      let sums := [1, 2, 3].map fun n => toString (lines.filter fun l => l.1 == n).length
      let total := if c.has 'T' && !isCut then [Finding.line (Text.join gap (sums ++ ["total"]))]
        else []
      tellFindings self check (String.singleton (lineSign c)) (found ++ total)

/-! ## Joined lines -/

/-- A line with its number and its fields. -/
structure Row where
  number : Nat
  text : String
  fields : List String
deriving Inhabited

/-- A part of a joined line: the field by which lines are joined, or one of the first or the second
text. -/
inductive Part where
  | shared
  | first (field : Nat)
  | second (field : Nat)
deriving Repr, Inhabited

/-- What is shown of joined lines: all fields, so many of each text, or those that are listed. -/
inductive RowForm where
  | all
  | counted (first second : Nat)
  | listed (places : List Part)
deriving Repr, Inhabited

/-- How the lines of two texts are joined. -/
structure Joining where
  names : String × String
  fields : Nat × Nat
  check : OrderCheck
  folds : Bool
  gap : String
  filler : String
  form : RowForm
  showsPairs : Bool
  alone : List Nat

namespace Joining

/-- The field of a line of the first or the second text by which it is joined. -/
def key (j : Joining) (file : Nat) (r : Row) : String :=
  let text := r.fields.getD (if file == 1 then j.fields.1 else j.fields.2) ""
  if j.folds then text.map Char.toUpper else text

/-- A field as it is shown. -/
def filled (j : Joining) (fields : List String) (n : Nat) : String :=
  let text := fields.getD n ""
  if text == "" then j.filler else text

/-- A joined line, of which one half may be missing. -/
def row (j : Joining) (a b : Option Row) : Finding :=
  let (first, second) := ((a.map Row.fields).getD [], (b.map Row.fields).getD [])
  let shared := if a.isSome then j.filled first j.fields.1 else j.filled second j.fields.2
  let others := fun (fields : List String) (own count : Nat) =>
    ((List.range count).filter (· != own)).map (j.filled fields)
  .line (Text.join j.gap (match j.form with
    | .all => shared :: (others first j.fields.1 first.length ++
        others second j.fields.2 second.length)
    | .counted m n => shared :: (others first j.fields.1 m ++ others second j.fields.2 n)
    | .listed places => places.map fun p => match p with
      | .shared => shared
      | .first n => j.filled first n
      | .second n => j.filled second n))

/-- The first of some lines that follow one another and are out of order, if it was not complained
of the text before. -/
def outOfOrder (j : Joining) (file : Nat) (seen : Bool) (faults : List Nat) (rows : List Row) :
    List Finding :=
  if faults.contains file || j.check == .never || (j.check == .unpaired && !seen) then []
  else match (rows.zip (rows.drop 1)).find? fun (a, b) => j.key file b < j.key file a with
    | none => []
    | some (_, r) =>
      [.fault ((if file == 1 then j.names.1 else j.names.2) ++ ":" ++ toString r.number ++
        ": is not sorted: " ++ r.text)]

/-- The lines of a text that is left alone. -/
def left (j : Joining) (file : Nat) (seen : Bool) (faults : List Nat) :
    List Row → List Finding
  | [] => []
  | r :: rest =>
    let shows := j.alone.contains file
    let own := if !shows then []
      else [if file == 1 then j.row (some r) none else j.row none (some r)]
    let told := j.outOfOrder file seen faults (r :: rest.take 1)
    let faults := if told.isEmpty then faults else file :: faults
    if !told.isEmpty && j.check == .always then own ++ told
    else if faults.contains file && !shows then own ++ told
    else own ++ told ++ left j file seen faults rest

/-- The lines of two texts side by side. -/
def findings (j : Joining) : Nat → Bool → List Nat → List Row → List Row → List Finding
  | 0, _, _, _, _ => []
  | fuel + 1, seen, faults, a :: as, b :: bs =>
    let (x, y) := (j.key 1 a, j.key 2 b)
    if x == y then
      let first := a :: as.takeWhile fun r => j.key 1 r == y
      let second := b :: bs.takeWhile fun r => j.key 2 r == x
      let toldA := j.outOfOrder 1 seen faults ((a :: as).take (first.length + 1))
      let toldB := j.outOfOrder 2 seen faults ((b :: bs).take (second.length + 1))
      let told := toldA ++ toldB
      let faults := (if toldA.isEmpty then [] else [1]) ++ (if toldB.isEmpty then [] else [2]) ++
        faults
      if j.check == .always && !told.isEmpty then told.take 1
      else
        let pairs := if j.showsPairs then
            first.flatMap fun r => second.map fun s => j.row (some r) (some s)
          else []
        told ++ pairs ++ findings j fuel seen faults ((a :: as).drop first.length)
          ((b :: bs).drop second.length)
    else
      let file := if x < y then 1 else 2
      let own := if !j.alone.contains file then []
        else [if file == 1 then j.row (some a) none else j.row none (some b)]
      let told := j.outOfOrder file seen faults
        (if file == 1 then a :: as.take 1 else b :: bs.take 1)
      let faults := if told.isEmpty then faults else file :: faults
      if j.check == .always && !told.isEmpty then own ++ told
      else own ++ told ++ findings j fuel true faults (if file == 1 then as else a :: as)
        (if file == 1 then b :: bs else bs)
  | _, seen, faults, as, bs =>
    let reads := fun (file : Nat) =>
      j.alone.contains file || (j.check != .never && faults.length < 2)
    (if reads 1 then left j 1 seen faults as else []) ++
      (if reads 2 then left j 2 seen faults bs else [])

end Joining

/-- The number of a field, counted from one. -/
def fieldNumber (text : String) : Except String Nat :=
  match if text.toList.all Char.isDigit then text.toNat? else none with
  | some (n + 1) => .ok n
  | _ => .error ("invalid field number: " ++ named text)

/-- A place by its text. -/
def Part.read (text : String) : Except String Part :=
  match text.toList with
  | ['0'] => .ok .shared
  | '1' :: '.' :: cs => (fieldNumber (String.ofList cs)).map .first
  | '2' :: '.' :: cs => (fieldNumber (String.ofList cs)).map .second
  | c :: _ =>
    .error ((if "012".toList.contains c then "invalid field specifier: "
      else "invalid file number in field spec: ") ++ named text)
  | [] => .error ("invalid file number in field spec: " ++ named text)

/-- The options of a call to join, or what is wrong with one. -/
def Joining.ofCall (c : Call) (a b : String) : Except String Joining := do
  let alone ← (c.options.filter fun o => o.1 == 'a' || o.1 == 'v').mapM fun (_, text) =>
    match text with
    | "1" => pure 1
    | "2" => pure 2
    | _ => throw ("invalid field number: " ++ named text)
  let field := fun (letter : Char) => match c.value? letter with
    | some text => fieldNumber text
    | none => ((c.value? 'j').map fieldNumber).getD (pure 0)
  let fields := (← field '1', ← field '2')
  let sign := (c.value? 't').getD " "
  if sign.length > 1 && sign != "\\0" then throw ("multi-character tab " ++ named sign)
  let form ← match c.value? 'o' with
    | none => pure RowForm.all
    | some "auto" => pure (RowForm.counted 0 0)
    | some text => do
      let parts := text.map fun ch => if ch == ' ' || ch == '\t' then ',' else ch
      let places ← (Text.split ',' parts).mapM Part.read
      pure (RowForm.listed places)
  return { names := (a, b), fields, check := .ofCall c, folds := c.has 'i'
           gap := if sign == "" then "\n" else if sign == "\\0" then "\x00" else sign
           filler := (c.value? 'e').getD "", form, showsPairs := !c.has 'v', alone }

/-- The fields of a line with blanks between them. Blanks at its end are followed by an empty
one. -/
def blankFields (line : String) : List String :=
  let cs := line.toList.dropWhile Octet.isBlank
  let parts := (Text.split ' ' (String.ofList (cs.map fun ch => if ch == '\t' then ' ' else ch)))
  parts.dropLast.filter (· != "") ++ (if cs.isEmpty then [] else parts.getLast?.toList)

/-- Lines of two texts with the same field are put together. -/
def join (self : String) (args : List String) : Work Unit :=
  called self { flags := "iz", valued := "t12javeo", long := [("ignore-case", 'i'),
    ("check-order", 'O'), ("nocheck-order", 'N'), ("header", 'H'), ("zero-terminated", 'z')] } args
    fun c =>
    withTwo self c fun a b => match Joining.ofCall c a b with
    | .error words => fails self words 1
    | .ok j => twoTexts self 1 a b fun x y => do
      let rows := fun (text : String) =>
        let lines := bareParts (lineSign c) text
        ((List.range lines.length).zip lines).map fun (i, line) =>
          let fields := match c.value? 't' with
            | none => blankFields line
            | some _ => Text.split (j.gap.toList.headD '\n') line
          { number := i + 1, text := line, fields : Row }
      let (as, bs) := (rows x, rows y)
      let j := match j.form with
        | .counted _ _ =>
          let count := fun (rows : List Row) => ((rows.head?.map Row.fields).getD []).length
          { j with form := .counted (count as) (count bs) }
        | _ => j
      let hasHeader := c.has 'H' && !(as.isEmpty && bs.isEmpty)
      let header := if hasHeader then [j.row as.head? bs.head?] else []
      let (as, bs) := if hasHeader then (as.drop 1, bs.drop 1) else (as, bs)
      tellFindings self j.check (String.singleton (lineSign c))
        (header ++ j.findings (as.length + bs.length + 1) false [] as bs)

end ApkForge.Script.Program
