-- The host's programs that number lines, cut long ones, and exchange tabs and blanks: those to
-- which it matters in which column of a line a character stands.
import ApkForge.Script.Program.Lines

namespace ApkForge.Script.Program

open Work

/-! ## Numbering -/

/-- Which lines are numbered: all, those with text, none, or those in which an expression
matches. -/
inductive Numbered where
  | all
  | filled
  | none
  | matching (e : Regex)

/-- The lines that a text stands for, or what is wrong with it. -/
def Numbered.read (what text : String) : Except String Numbered :=
  match text.toList with
  | ['a'] => .ok .all
  | ['t'] => .ok .filled
  | ['n'] => .ok .none
  | 'p' :: cs => match Regex.ofBasic (String.ofList cs) with
    | .ok e => .ok (.matching e)
    | .error fault => .error fault.words
  | _ => .error ("invalid " ++ what ++ " numbering style: " ++ named text)

/-- How the lines of a text are numbered. A text has pages with a head, a body and a foot, which
begin at lines of their own. -/
structure Numbering where
  head : Numbered
  body : Numbered
  foot : Numbered
  start : Int
  step : Int
  blanks : Nat
  resets : Bool
  width : Nat
  gap : String
  format : String
  mark : String

namespace Numbering

/-- A number in its column. -/
def shown (f : Numbering) (n : Int) : String :=
  let digits := toString n
  let fill := fun (c : Char) => String.ofList (List.replicate (f.width - digits.length) c)
  (match f.format with
  | "ln" => digits ++ fill ' '
  | "rz" => if n < 0 then "-" ++ fill '0' ++ toString n.natAbs else fill '0' ++ digits
  | _ => fill ' ' ++ digits) ++ f.gap

/-- The lines with their numbers: `n` is the next one, and `empty` counts the empty lines before. -/
def lines (f : Numbering) (style : Numbered) (n : Int) (empty : Nat) : List String → List String
  | [] => []
  | line :: rest =>
    let again := if f.resets then f.start else n
    if f.mark != "" && line == f.mark ++ f.mark ++ f.mark then "" :: lines f f.head again empty rest
    else if f.mark != "" && line == f.mark ++ f.mark then "" :: lines f f.body again empty rest
    else if f.mark != "" && line == f.mark then "" :: lines f f.foot again empty rest
    else
      let plain := fun (empty : Nat) =>
        (String.ofList (List.replicate (f.width + f.gap.length) ' ') ++ line) ::
          lines f style n empty rest
      let counted := fun (empty : Nat) =>
        (f.shown n ++ line) :: lines f style (n + f.step) empty rest
      match style with
      | .none => plain empty
      | .filled => if line == "" then plain empty else counted empty
      | .matching e => if Regex.occurs e false line then counted empty else plain empty
      | .all =>
        if f.blanks ≤ 1 then counted empty
        else if line != "" || empty + 1 == f.blanks then counted 0
        else plain (empty + 1)

end Numbering

/-- A whole number that may have a sign, and is not less than another. -/
def wholeAtLeast (least : Int) (what text : String) : Except String Int :=
  let wrong := "invalid " ++ what ++ ": " ++ named text
  match Number.readWhole? text.toList with
  | some (n, []) =>
    if n < least then .error (wrong ++ ": Numerical result out of range") else .ok n
  | _ => .error wrong

/-- The numbering that a call asks for, or what is wrong with it. The second kind of fault is told
with how the program is called. -/
def Numbering.ofCall (c : Call) : Except (String ⊕ String) Numbering := do
  let style := fun (letter : Char) (what usual : String) =>
    (Numbered.read what ((c.value? letter).getD usual)).mapError Sum.inr
  let number := fun (letter : Char) (least : Int) (what : String) (usual : Int) =>
    match c.value? letter with
    | some text => (wholeAtLeast least what text).mapError Sum.inl
    | none => .ok usual
  let far : Int := -9223372036854775808
  let start ← number 'v' far "starting line number" 1
  let step ← number 'i' far "line number increment" 1
  let blanks ← number 'l' 1 "line number of blank lines" 1
  let width ← number 'w' 1 "line number field width" 6
  let format := (c.value? 'n').getD "rn"
  if !(["ln", "rn", "rz"].contains format) then
    throw (.inr ("invalid line numbering format: " ++ named format))
  let mark := match ((c.value? 'd').getD "\\:").toList with
    | [first] => [first, ':']
    | cs => cs
  return { head := ← style 'h' "header" "n", body := ← style 'b' "body" "t"
           foot := ← style 'f' "footer" "n", start, step, blanks := blanks.toNat
           resets := !c.has 'p', width := width.toNat, gap := (c.value? 's').getD "\t", format
           mark := String.ofList mark }

/-- Lines are numbered. -/
def nl (self : String) (args : List String) : Work Unit :=
  called self { flags := "p", valued := "bvinwsdfhl", long := [("body-numbering", 'b'),
    ("header-numbering", 'h'), ("footer-numbering", 'f'), ("starting-line-number", 'v'),
    ("line-increment", 'i'), ("number-format", 'n'), ("number-width", 'w'),
    ("number-separator", 's'), ("join-blank-lines", 'l'), ("no-renumber", 'p'),
    ("section-delimiter", 'd')] } args fun c => do
    match Numbering.ofCall c with
    | .error (.inl words) => fails self words 1
    | .error (.inr words) => misused self words
    | .ok f =>
      let text ← allText self unreadable c.operands
      print (Octet.unlines (f.lines f.body f.start 0 (bareLines text)))

/-! ## Widths -/

/-- The column behind a character. -/
def columnAfter (bytes : Bool) (column : Nat) (c : Char) : Nat :=
  if bytes then column + 1
  else if c == '\x08' then column - 1
  else if c == '\r' then 0
  else if c == '\t' then column + 8 - column % 8
  else column + 1

/-- The characters of a line cut where it gets too wide. `line` is what was taken since the last
cut, backwards, and `column` is where it ends. A cut is made after the last blank where that is
wanted. -/
def folded (width : Nat) (bytes atBlanks : Bool) (line : List Char) (column : Nat) :
    List Char → List Char
  | [] => line.reverse
  | c :: cs =>
    let columnOf := fun (line : List Char) => line.reverse.foldl (columnAfter bytes) 0
    if columnAfter bytes column c ≤ width then
      folded width bytes atBlanks (c :: line) (columnAfter bytes column c) cs
    else
      let behind := if atBlanks then line.takeWhile fun d => !Octet.isBlank d else line
      let (front, kept) := if behind.length == line.length then (line, [])
        else (line.drop behind.length, behind)
      if columnAfter bytes (columnOf kept) c ≤ width || kept.isEmpty then
        front.reverse ++ (if front.isEmpty then [] else ['\n']) ++
          folded width bytes atBlanks (c :: kept) (columnAfter bytes (columnOf kept) c) cs
      else
        front.reverse ++ ['\n'] ++ kept.reverse ++ ['\n'] ++
          folded width bytes atBlanks [c] (columnAfter bytes 0 c) cs

/-- The arguments with a number after a dash as the value of an option. -/
def withDashNumber (letter : String) (args : List String) : List String :=
  args.map fun arg => match arg.toList with
    | '-' :: c :: _ => if c.isDigit then "-" ++ letter ++ String.ofList arg.toList.tail else arg
    | _ => arg

/-- Lines are cut where they are too long. -/
def fold (self : String) (args : List String) : Work Unit :=
  called self { flags := "bs", valued := "w", long := [("width", 'w'), ("spaces", 's'),
    ("bytes", 'b')] } (withDashNumber "w" args) fun c => do
    match wholeAtLeast 1 "number of columns" ((c.value? 'w').getD "80") with
    | .error words => fails self words 1
    | .ok width =>
      let text ← allText self unreadable c.operands
      print (String.join ((endedLines text).map fun line =>
        String.ofList (folded width.toNat (c.has 'b') (c.has 's') [] 0 (bare line).toList) ++
          (if Text.endsWith "\n" line then "\n" else "")))

/-! ## Tabs -/

/-- Where tabs lead: to the stops of a list, and behind them to multiples of a size, counted from
the start of the line or from the last stop. -/
structure Stops where
  list : List Nat
  size : Nat
  fromLast : Bool

/-- The next stop behind a column, if there is one. -/
def Stops.after? (s : Stops) (column : Nat) : Option Nat :=
  match s.list.find? fun stop => column < stop with
  | some stop => some stop
  | none =>
    let base := if s.fromLast then s.list.getLastD 0 else 0
    if s.size == 0 then none else some (column + s.size - (column - base) % s.size)

/-- The stops of a text: numbers with commas or blanks between them. The last one may have a sign
for how it is repeated, and a single one is repeated in any case. -/
def Stops.read (text : String) : Except String Stops := do
  let parts := (Text.split ',' (text.map fun ch => if Octet.isBlank ch then ',' else ch)).filter
    (· != "")
  let numbers ← parts.mapM fun part => do
    let (sign, cs) := match part.toList with
      | '/' :: cs => (some '/', cs)
      | '+' :: cs => (some '+', cs)
      | cs => (none, cs)
    let rest := cs.dropWhile Char.isDigit
    match rest with
    | [] => return (sign, Number.ofDigits 10 cs)
    | c :: _ =>
      if c == '/' || c == '+' then
        throw ("'" ++ String.singleton c ++ "' specifier not at start of number: " ++
          named (String.ofList rest))
      else throw ("tab size contains invalid character(s): " ++ named (String.ofList rest))
  let (signed, plain) := numbers.partition fun n => n.1.isSome
  let list := plain.map Prod.snd
  if list.contains 0 then throw "tab size cannot be 0"
  if (list.zip (list.drop 1)).any fun (a, b) => b ≤ a then throw "tab sizes must be ascending"
  match signed.getLast?, list with
  | some (sign, n), list => return { list, size := n, fromLast := sign == some '+' }
  | none, [n] => return { list := [], size := n, fromLast := false }
  | none, [] => return { list, size := 8, fromLast := false }
  | none, list => return { list, size := 0, fromLast := false }

/-- A line with its tabs as blanks. `converts` says that tabs are still exchanged: with `leading`
only those in front are. -/
def untabbed (s : Stops) (leading : Bool) (converts : Bool) (column : Nat) : List Char → List Char
  | [] => []
  | c :: cs =>
    let more := converts && (!leading || Octet.isBlank c)
    if c == '\n' then c :: untabbed s leading true 0 cs
    else if !converts then c :: untabbed s leading false column cs
    else if c == '\t' then
      let stop := (s.after? column).getD (column + 1)
      List.replicate (stop - column) ' ' ++ untabbed s leading more stop cs
    else c :: untabbed s leading more (if c == '\x08' then column - 1 else column + 1) cs

/-- Tabs become blanks. -/
def expand (self : String) (args : List String) : Work Unit :=
  called self { flags := "i", valued := "t", long := [("tabs", 't'), ("initial", 'i')] }
    (withDashNumber "t" args) fun c => do
    match Stops.read (Text.join "," (c.values 't')) with
    | .error words => fails self words 1
    | .ok stops =>
      let text ← allText self unreadable c.operands
      print (String.ofList (untabbed stops (c.has 'i') true 0 text.toList))

/-- Blanks that may become a tab: how many wait, whether the first of them stands right before a
stop, and whether the character before was blank. -/
structure Waiting where
  blanks : List Char := []
  beforeStop : Bool := false
  afterBlank : Bool := true

/-- The characters that wait, as they are shown. -/
def Waiting.shown (w : Waiting) : List Char :=
  if 1 < w.blanks.length && w.beforeStop then '\t' :: w.blanks.drop 1 else w.blanks

/-- A text with blanks that lead to a stop as tabs. With `leading` only those in front become
tabs. -/
def tabbed (s : Stops) (leading : Bool) (converts : Bool) (w : Waiting) (column : Nat) :
    List Char → List Char
  | [] => w.shown
  | c :: cs =>
    if c == '\n' then w.shown ++ c :: tabbed s leading true {} 0 cs
    else if !converts then c :: tabbed s leading false {} column cs
    else if !Octet.isBlank c then
      w.shown ++ c :: tabbed s leading (!leading) { afterBlank := false }
        (if c == '\x08' then column - 1 else column + 1) cs
    else match s.after? column with
      | none => w.shown ++ c :: tabbed s leading false {} column cs
      | some stop =>
        let kept := if w.beforeStop then ['\t'] else []
        if c == '\t' then
          kept ++ c :: tabbed s leading true {} stop cs
        else if w.afterBlank && column + 1 == stop then
          kept ++ '\t' :: tabbed s leading true {} (column + 1) cs
        else tabbed s leading true
          { blanks := w.blanks ++ [c], beforeStop := w.beforeStop || column + 1 == stop }
          (column + 1) cs

/-- Blanks become tabs. -/
def unexpand (self : String) (args : List String) : Work Unit :=
  called self { flags := "aF", valued := "t", long := [("tabs", 't'), ("all", 'a'),
    ("first-only", 'F')] } (withDashNumber "t" args) fun c => do
    match Stops.read (Text.join "," (c.values 't')) with
    | .error words => fails self words 1
    | .ok stops =>
      let leading := c.has 'F' || !(c.has 'a' || c.has 't')
      let text ← allText self unreadable c.operands
      print (String.ofList (tabbed stops leading true {} 0 text.toList))

end ApkForge.Script.Program
