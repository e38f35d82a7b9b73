-- The values that rules work on. A text that was given from outside counts as a number if it looks
-- like one, and nothing is both an empty text and zero.
import ApkForge.Script.Printing
import ApkForge.Script.Rules.Node

namespace ApkForge.Script.Rules

/-- A value. -/
inductive Datum where
  | nothing
  | number (x : Float)
  | text (s : String)
  | given (s : String)
deriving Inhabited

namespace Datum

/-! ## Numbers -/

/-- A number without a part after the point, of a size that is written in full. -/
def isWhole (x : Float) : Bool := x == x.floor && x.abs < 18446744073709551616

/-- A whole number. -/
def wholeOf (x : Float) : Int :=
  let n := Int.ofNat x.abs.toUInt64.toNat
  if x < 0 then -n else n

/-- A number as a fraction of whole numbers, rounded to zero and within bounds. -/
def truncated (x : Float) : Int :=
  match Decimal.ofFloat x with
  | .finite negative n d =>
    let q := Int.ofNat (n / d)
    max (-9223372036854775808) (min 18446744073709551615 (if negative then -q else q))
  | .infinite false => 9223372036854775807
  | _ => -9223372036854775808

/-- The number at the front of a text. -/
def leading (s : String) : Float :=
  let cs := s.toList
  if cs.length < 16 && !cs.isEmpty && cs.all Char.isDigit then
    Float.ofNat (Number.ofDigits 10 cs)
  else match Decimal.read? cs with
    | some (x, _) => x.toFloat
    | none => 0

/-- A text looks like a number, with blanks around it. -/
def looksNumeric (s : String) : Bool :=
  let cs := s.toList
  if cs.all Char.isDigit then !cs.isEmpty
  else match Decimal.read? cs with
    | some (_, rest) => rest.all Octet.isSpace && !cs.any fun c => c == 'x' || c == 'X'
    | none => false

/-- The truth of a relation. -/
def ofBool (b : Bool) : Datum := .number (if b then 1 else 0)

/-- A value as a number. -/
def toNumber : Datum → Float
  | .nothing => 0
  | .number x => x
  | .text s => leading s
  | .given s => leading s

/-- A value is a number, or may be taken for one. -/
def isNumeric : Datum → Bool
  | .nothing => true
  | .number _ => true
  | .text _ => false
  | .given s => looksNumeric s

/-- A value holds as a test. -/
def holds : Datum → Bool
  | .nothing => false
  | .number x => x != 0
  | .text s => s != ""
  | .given s => if looksNumeric s then leading s != 0 else s != ""

/-! ## Formats -/

/-- What is wrong with a format: values are missing, or a letter means nothing. -/
inductive Misfit where
  | lacking
  | improper (number : Nat)
deriving Inhabited

/-- A number as a format's letter shows it. -/
def laidOut (f : Printing.Layout) (letter : Char) (x : Float) : String :=
  let exact := Decimal.ofFloat x
  match letter, exact with
  | 'd', .finite _ _ _ => whole (truncated x)
  | 'i', .finite _ _ _ => whole (truncated x)
  | 'o', .finite _ _ _ => unsigned 8 "0"
  | 'u', .finite _ _ _ => unsigned 10 ""
  | 'x', .finite _ _ _ => unsigned 16 "0x"
  | 'X', .finite _ _ _ => unsigned 16 "0X"
  | _, .none =>
    Printing.pad f (if letter.isUpper then "-NAN" else "-nan")
  | _, _ => Printing.layOutDecimal f (if "eEfFgG".toList.contains letter then letter else 'f') exact
where
  /-- A whole number with its sign. -/
  whole (n : Int) : String :=
    Printing.layOut f (Printing.signOf f (n < 0)) "" (Nat.toDigits 10 n.natAbs)
  /-- A whole number without a sign, in a base. -/
  unsigned (base : Nat) (mark : String) : String :=
    let n := truncated x
    let n := if n < 0 then (18446744073709551616 + n).toNat else n.toNat
    let ds := Nat.toDigits base n
    let ds := if letter == 'X' then ds.map Char.toUpper else ds
    Printing.layOut f "" (if f.marked && n != 0 then mark else "") ds

/-- A number in a form that is asked for, `%.6g` as a rule. Whole numbers are written in full. -/
def numberText (form : String) (x : Float) : String :=
  if isWhole x then toString (wholeOf x)
  else
    let (f, cs) := Printing.flags {} (form.toList.dropWhile (· != '%')).tail
    let width := cs.takeWhile Char.isDigit
    let cs := cs.drop width.length
    let (places, cs) := match cs with
      | '.' :: rest => (some (rest.takeWhile Char.isDigit), rest.dropWhile Char.isDigit)
      | _ => (none, cs)
    let f := { f with width := Number.ofDigits 10 width
                      precision := places.map (Number.ofDigits 10) }
    laidOut f (cs.headD 'g') x ++ String.ofList cs.tail

/-- A value as a text, with the form for numbers. -/
def toText (form : String) : Datum → String
  | .nothing => ""
  | .number x => numberText form x
  | .text s => s
  | .given s => s

/-- How two values stand to each other: as numbers if both can be numbers, else as texts. -/
def order (form : String) (a b : Datum) : Ordering :=
  if a.isNumeric && b.isNumeric then
    let x := a.toNumber
    let y := b.toNumber
    if x < y then .lt else if y < x then .gt else .eq
  else
    let s := a.toText form
    let t := b.toText form
    if s < t then .lt else if s == t then .eq else .gt

/-- A width or a number of places: digits, or the next value for a star. -/
def measure (cs : List Char) (args : List Datum) :
    Except Misfit (Option Int × List Char × List Datum) :=
  match cs with
  | '*' :: rest =>
    match args with
    | a :: args => .ok (some (truncated a.toNumber), rest, args)
    | [] => .error .lacking
  | _ =>
    let digits := cs.takeWhile Char.isDigit
    .ok (if digits.isEmpty then none else some (Int.ofNat (Number.ofDigits 10 digits)),
      cs.drop digits.length, args)

/-- How a value is laid out, read behind a percent sign, with what follows and the values left. -/
def layout (cs : List Char) (args : List Datum) :
    Except Misfit (Printing.Layout × List Char × List Datum) := do
  let (f, cs) := Printing.flags {} cs
  let (width, cs, args) ← measure cs args
  let width := width.getD 0
  let f := { f with width := width.natAbs, left := f.left || width < 0 }
  match cs with
  | '.' :: rest =>
    let (places, rest, args) ← measure rest args
    let places := places.getD 0
    return ({ f with precision := if places < 0 then none else some places.toNat }, rest, args)
  | _ => return (f, cs, args)

/-- A value by the letter of a format. -/
def converted (form : String) (f : Printing.Layout) (letter : Char) (a : Datum) : String :=
  match letter with
  | 's' =>
    let s := a.toText form
    Printing.pad f (match f.precision with
      | some n => String.ofList (s.toList.take n)
      | none => s)
  | 'c' =>
    let asNumber := match a with
      | .number _ => true
      | .given s => looksNumeric s
      | _ => false
    Printing.pad f (if asNumber then
        String.singleton (Char.ofNat (truncated a.toNumber % 256).toNat)
      else String.singleton ((a.toText form).toList.headD '\x00'))
  | _ => laidOut f letter a.toNumber

/-- What values give in a format, the parts newest first, up to the first thing that is wrong. -/
def fill (form : String) :
    Nat → Nat → List String → List Char → List Datum → List String × Option Misfit
  | 0, _, out, _, _ => (out, none)
  | _, _, out, [], _ => (out, none)
  | fuel + 1, count, out, c :: cs, args =>
    if c != '%' then
      let plain := cs.takeWhile (· != '%')
      fill form fuel count (String.ofList (c :: plain) :: out) (cs.drop plain.length) args
    else if cs.head? == some '%' then fill form fuel count ("%" :: out) cs.tail args
    else match layout cs args with
      | .error wrong => (out, some wrong)
      | .ok (f, cs, args) =>
        match args, cs.dropWhile "hlL".toList.contains with
        | [], _ => (out, some .lacking)
        | _, [] => (out, some (.improper count))
        | a :: args, letter :: rest =>
          if "cdioxXueEfFgGs".toList.contains letter then
            fill form fuel (count + 1) (converted form f letter a :: out) rest args
          else (out, some (.improper count))

/-- The text of values in a format, up to the first thing that is wrong. -/
def formatted (form shape : String) (args : List Datum) : String × Option Misfit :=
  let (out, wrong) := fill form (shape.length + 1) 1 [] shape.toList args
  (String.join out.reverse, wrong)

end Datum

end ApkForge.Script.Rules
