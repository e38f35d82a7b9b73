-- The commands that rules know without defining them, as far as they need only values.
import ApkForge.Script.Calendar
import ApkForge.Script.Rules.Act

namespace ApkForge.Script.Rules

namespace Known

/-! ## Numbers -/

/-- What is left of a division, with the sign of what is divided. -/
def restOf (x y : Float) : Float :=
  if x.isFinite && y.isFinite && y != 0 then
    match Decimal.ofFloat x, Decimal.ofFloat y with
    | .finite negative n d, .finite _ n' d' =>
      let left := Decimal.finite negative ((n * d') % (n' * d)) (d * d')
      left.toFloat
    | _, _ => 0
  else if x.isFinite && y.isInf then x
  else 0.0 / 0.0

/-- What is done with two numbers. -/
def operate (op : Operation) (x y : Float) : Float :=
  match op with
  | .plus => x + y
  | .minus => x - y
  | .times => x * y
  | .divided => x / y
  | .rest => restOf x y
  | .power => Float.pow x y

/-- A number without its part after the point. -/
def wholePart (x : Float) : Float := if x < 0 then x.ceil else x.floor

/-- A number rounded to the nearest whole one, of two to the even one. -/
def nearest (x : Float) : Float :=
  let low := x.floor
  let gap := x - low
  if gap < 0.5 then low
  else if gap > 0.5 then low + 1
  else if restOf low 2 == 0 then low else low + 1

/-! ## Texts -/

/-- The part of a text from a place on, so many characters at most. -/
def part (text : String) (start : Float) (length : Option Float) : String :=
  let size := Float.ofNat text.length + 1
  let first := nearest start
  let last := match length with
    | none => size
    | some n => nearest (start + n)
  let low := if first < 1 then 1 else first
  let high := if last < size then last else size
  if low < high then
    String.ofList ((text.toList.drop (low.toUInt64.toNat - 1)).take (high - low).toUInt64.toNat)
  else ""

/-- The place of a text in another one, counted from one; 0 if it is not there. -/
def placeOf (text what : String) : Nat :=
  let wanted := what.toList
  let rec go : Nat → List Char → Nat
    | n, [] => if wanted.isEmpty then n else 0
    | n, c :: cs => if wanted.isPrefixOf (c :: cs) then n else go (n + 1) cs
  if text == "" then 0 else go 1 text.toList

/-- A text with its letters changed; letters beyond the plain ones stay. -/
def changed (change : Char → Char) (text : String) : String := text.map change

/-! ## Replacing -/

/-- A piece of what takes the place of a match: a text, or the match itself. -/
inductive Piece where
  | text (cs : List Char)
  | whole
deriving Inhabited

/-- The pieces of a text that takes the place of a match. A backslash keeps the sign for the match
as it is, and another backslash. -/
def pieces : Nat → List Char → List Char → List Piece
  | 0, read, _ => [.text read.reverse]
  | _, read, [] => [.text read.reverse]
  | fuel + 1, read, c :: cs =>
    if c == '\\' && cs.head? == some '&' then pieces fuel ('&' :: read) cs.tail
    else if c == '\\' && cs.head? == some '\\' then pieces fuel ('\\' :: read) cs.tail
    else if c == '&' then .text read.reverse :: .whole :: pieces fuel [] cs
    else pieces fuel (c :: read) cs

/-- What takes the place of a match, put in front of what was done, the characters last to first. -/
def filled (s : Regex.Subject) (m : Regex.Match) (ps : List Piece) (out : List Char) : List Char :=
  ps.foldl (fun out p => match p with
    | .text cs => cs.reverse ++ out
    | .whole => (s.text.extract m.start m.finish).toList.reverse ++ out) out

/-- A text with matches from a position on replaced, the characters last to first, and how many
there were. The last match before ended at `before`. -/
def replaced (s : Regex.Subject) (e : Regex) (ps : List Piece) (all : Bool) :
    Nat → Nat → Option Nat → List Char → Nat → List Char × Nat
  | 0, _, _, out, count => (out, count)
  | fuel + 1, position, before, out, count =>
    let tail := fun (from_ : Nat) => (s.text.extract from_ s.text.size).toList.reverse
    match e.search s position with
    | none => (tail position ++ out, count)
    | some m =>
      let out := (s.text.extract position m.start).toList.reverse ++ out
      let step := fun (out : List Char) (count : Nat) =>
        if m.finish != m.start then replaced s e ps all fuel m.finish (some m.finish) out count
        else match s.text[m.start]? with
          | some c => replaced s e ps all fuel (m.start + 1) (some m.finish) (c :: out) count
          | none => (out, count)
      if m.finish == m.start && before == some m.start then step out count
      else
        let out := filled s m ps out
        if all then step out (count + 1) else (tail m.finish ++ out, count + 1)

/-- A text with the first match replaced, or all of them, and how many were. -/
def substituted (e : Regex) (all : Bool) (by_ text : String) : String × Nat :=
  let s : Regex.Subject := { text := text.toList.toArray }
  let ps := pieces (by_.length + 1) [] by_.toList
  let (out, count) := replaced s e ps all (2 * s.text.size + 2) 0 none [] 0
  (String.ofList out.reverse, count)

/-! ## Commands of values alone -/

/-- Seconds since the beginning of 1970. -/
def now : Act Int := do
  let m ← (getThe Machine : Work Machine)
  return m.world.now

/-- Values in a format, the first of them; the rules end at what is wrong with it. -/
def formatted (name : String) (args : List Datum) (told : String → Act Unit) : Act String := do
  match args with
  | [] => return ""
  | shape :: rest =>
    let d ← get
    let shape := shape.toText d.form
    match Datum.formatted d.form shape rest with
    | (text, none) => return text
    | (text, some .lacking) =>
      told text
      Act.fault ("not enough arguments passed to " ++ name ++ "(\x22" ++ shape ++ "\x22)")
    | (text, some (.improper n)) =>
      told text
      Act.fault ("improper conversion(number " ++ toString n ++ ") in " ++ name ++ "(\x22" ++
        shape ++ "\x22)")

/-- A command that is known, with its values. -/
def run (launcher : Launcher) (name : String) (args : List Datum) : Act Datum := do
  let form := (← get).form
  let text := fun (i : Nat) => (args.getD i .nothing).toText form
  let number := fun (i : Nat) => (args.getD i .nothing).toNumber
  let ofFloat := fun (f : Float → Float) => return Datum.number (f (number 0))
  match name with
  | "length" =>
    let s ← if args.isEmpty then Act.record else pure (text 0)
    return .number (Float.ofNat s.length)
  | "substr" =>
    return .text (part (text 0) (number 1) (args[2]?.map Datum.toNumber))
  | "index" => return .number (Float.ofNat (placeOf (text 0) (text 1)))
  | "tolower" => return .text (changed Char.toLower (text 0))
  | "toupper" => return .text (changed Char.toUpper (text 0))
  | "sprintf" => return .text (← formatted "sprintf" args fun _ => return ())
  | "sin" => ofFloat Float.sin
  | "cos" => ofFloat Float.cos
  | "exp" => ofFloat Float.exp
  | "log" => ofFloat Float.log
  | "sqrt" => ofFloat Float.sqrt
  | "int" => ofFloat wholePart
  | "atan2" => return .number (Float.atan2 (number 0) (number 1))
  | "rand" =>
    let (x, d) := (← get).draw
    set d
    return .number x
  | "srand" =>
    let old := (← get).seed
    let new ← if args.isEmpty then now else pure (Datum.truncated (number 0))
    modify fun d => { d with seed := (new % 4294967296).toNat, chance := #[] }
    return .number (Float.ofNat old)
  | "system" =>
    Act.flushOutput
    Act.flushOutlets
    return .number (Float.ofNat (← Act.runCommand launcher (text 0)))
  | "close" => return .number (Float.ofInt (← Act.close launcher (text 0)))
  | "fflush" =>
    Act.flushOutput
    Act.flushOutlets
    return .number 0
  | "systime" => return .number (Float.ofInt (← now))
  | "strftime" =>
    let seconds ← if args.length < 2 then now else pure (Datum.truncated (number 1))
    return .text (Calendar.shown seconds (if args.isEmpty then "%c" else text 0))
  | "mktime" =>
    match (Octet.words (text 0)).map String.toInt? with
    | some y :: some month :: some day :: some h :: some min :: some s :: _ =>
      let days := Calendar.daysBefore y month.toNat day.toNat
      return .number (Float.ofInt (days * 86400 + h * 3600 + min * 60 + s))
    | _ => return .number (-1)
  | _ => return .nothing

end Known

end ApkForge.Script.Rules
