-- Numbers with decimals as scripts read and print them: exact fractions, the doubles nearest to
-- them, and their digits in the usual three layouts.
import ApkForge.Script.Number
import ApkForge.Script.Octet

namespace ApkForge.Script

/-- A number as a fraction with its sign, an infinity, or none at all. -/
inductive Decimal where
  | finite (negative : Bool) (n d : Nat)
  | infinite (negative : Bool)
  | none
deriving DecidableEq, Repr, Inhabited

namespace Decimal

/-! ## Reading -/

/-- A text begins with a word in any case. -/
def dropWord? (word : String) (cs : List Char) : Option (List Char) :=
  let front := (cs.take word.length).map Char.toLower
  if front == word.toList then some (cs.drop word.length) else Option.none

/-- The exponent at the front of a text, after its letter, and what follows; 0 if there is none. -/
def exponent (letter : Char) (cs : List Char) : Int × List Char :=
  match cs with
  | c :: rest =>
    if c.toLower != letter then (0, cs)
    else
      let negative := rest.head? == some '-'
      let digits := if negative || rest.head? == some '+' then rest.tail else rest
      let number := digits.takeWhile Char.isDigit
      if number.isEmpty then (0, cs)
      else
        let n := Int.ofNat (min (Number.ofDigits 10 (number.take 6)) 20000)
        (if negative then -n else n, digits.drop number.length)
  | [] => (0, cs)

/-- Digits in a base with a point among them: their number, how many follow the point, and the
rest; none if there are no digits. -/
def pointed? (base : Nat) (cs : List Char) : Option (Nat × Nat × List Char) :=
  let isDigit := Number.isDigitIn base
  let front := cs.takeWhile isDigit
  let rest := cs.dropWhile isDigit
  let (after, rest) := match rest with
    | '.' :: more => (more.takeWhile isDigit, more.dropWhile isDigit)
    | _ => ([], rest)
  if front.isEmpty && after.isEmpty then Option.none
  else some (Number.ofDigits base (front ++ after), after.length, rest)

/-- A fraction times a power of a base. -/
def scaled (negative : Bool) (m base : Nat) (e : Int) : Decimal :=
  if e ≥ 0 then .finite negative (m * Nat.pow base e.toNat) 1
  else .finite negative m (Nat.pow base (-e).toNat)

/-- The number at the front of a text, after blanks, and what follows it. -/
def read? (cs : List Char) : Option (Decimal × List Char) :=
  let cs := cs.dropWhile Octet.isSpace
  let negative := cs.head? == some '-'
  let cs := if negative || cs.head? == some '+' then cs.tail else cs
  match dropWord? "infinity" cs, dropWord? "inf" cs, dropWord? "nan" cs with
  | some rest, _, _ => some (.infinite negative, rest)
  | Option.none, some rest, _ => some (.infinite negative, rest)
  | Option.none, Option.none, some rest => some (.none, rest)
  | Option.none, Option.none, Option.none =>
    let hex := (dropWord? "0x" cs).bind (pointed? 16)
    match hex with
    | some (m, places, rest) =>
      let (e, rest) := exponent 'p' rest
      some (scaled negative m 2 (e - 4 * Int.ofNat places), rest)
    | Option.none =>
      (pointed? 10 cs).map fun (m, places, rest) =>
        let (e, rest) := exponent 'e' rest
        (scaled negative m 10 (e - Int.ofNat places), rest)

/-! ## Rounding -/

/-- A quotient rounded to the nearest whole number; of two to the even one. -/
def rounded (n d : Nat) : Nat :=
  let q := n / d
  let twice := 2 * (n % d)
  if twice > d || (twice == d && q % 2 == 1) then q + 1 else q

/-- The nearest double of a number. -/
def toDouble (x : Decimal) : Decimal :=
  match x with
  | .finite negative n d =>
    if n == 0 then x
    else
      let guess := Int.ofNat n.log2 - Int.ofNat d.log2 - 53
      let shifted := fun (e : Int) =>
        if e ≥ 0 then (n, d * Nat.pow 2 e.toNat) else (n * Nat.pow 2 (-e).toNat, d)
      let fits := fun (e : Int) => let (a, b) := shifted e; a / b < Nat.pow 2 53
      let e := max (if fits guess then guess else if fits (guess + 1) then guess + 1 else guess + 2)
        (-1074)
      let (a, b) := shifted e
      let m := rounded a b
      if e > 971 || (e == 971 && m ≥ Nat.pow 2 53) then .infinite negative
      else scaled negative m 2 e
  | other => other

/-- The number that a double is. -/
def ofFloat (x : Float) : Decimal :=
  let bits := x.toBits.toNat
  let negative := bits / Nat.pow 2 63 == 1
  let e := bits / Nat.pow 2 52 % 2048
  let m := bits % Nat.pow 2 52
  if e == 2047 then if m == 0 then .infinite negative else .none
  else if e == 0 then scaled negative m 2 (-1074)
  else scaled negative (m + Nat.pow 2 52) 2 (Int.ofNat e - 1075)

/-- The double nearest to a number. -/
def toFloat (x : Decimal) : Float :=
  match x.toDouble with
  | .none => 0.0 / 0.0
  | .infinite negative => if negative then -1.0 / 0.0 else 1.0 / 0.0
  | .finite negative n d =>
    let value := if d == 1 then Float.ofScientific n false 0
      else Float.scaleB (Float.ofNat n) (-(Int.ofNat d.log2))
    if negative then -value else value

/-! ## Layouts -/

/-- Whole digits and so many after a point. -/
def fixed (places : Nat) (keepsPoint : Bool) (n d : Nat) : String :=
  let q := toString (rounded (n * Nat.pow 10 places) d)
  let digits := List.replicate (places + 1 - q.length) '0' ++ q.toList
  let cut := digits.length - places
  String.ofList (digits.take cut) ++
    (if places == 0 && !keepsPoint then "" else "." ++ String.ofList (digits.drop cut))

/-- The power of ten of the first digit of a fraction that is not 0. -/
def magnitude (n d : Nat) : Int :=
  let guess := Int.ofNat (toString n).length - Int.ofNat (toString d).length
  let reaches := if guess ≥ 0 then d * Nat.pow 10 guess.toNat ≤ n
    else d ≤ n * Nat.pow 10 (-guess).toNat
  if reaches then guess else guess - 1

/-- The digits of a fraction, one more than `places`, and the power of ten of the first. -/
def digits (places : Nat) (n d : Nat) : String × Int :=
  if n == 0 then (String.ofList (List.replicate (places + 1) '0'), 0)
  else
    let at_ := fun (e : Int) =>
      let shift := Int.ofNat places - e
      if shift ≥ 0 then rounded (n * Nat.pow 10 shift.toNat) d
      else rounded n (d * Nat.pow 10 (-shift).toNat)
    let e := magnitude n d
    let q := toString (at_ e)
    if q.length > places + 1 then (toString (at_ (e + 1)), e + 1) else (q, e)

/-- An exponent with its sign and at least two digits. -/
def exponentText (e : Int) : String :=
  let digits := toString e.natAbs
  (if e < 0 then "-" else "+") ++ (if digits.length < 2 then "0" ++ digits else digits)

/-- One digit, so many after a point, and an exponent. -/
def scientific (places : Nat) (keepsPoint : Bool) (n d : Nat) : String :=
  let (ds, e) := digits places n d
  let tail := String.ofList ds.toList.tail
  String.ofList (ds.toList.take 1) ++ (if places == 0 && !keepsPoint then "" else "." ++ tail) ++
    "e" ++ exponentText e

/-- A text without the zeros at the end of its decimals. -/
def dropZeros (text : String) : String :=
  if text.toList.contains '.' then
    String.ofList
      ((text.toList.reverse.dropWhile (· == '0')).dropWhile (· == '.')).reverse
  else text

/-- So many digits that count, in the shorter of the other two layouts. -/
def general (precision : Nat) (keepsPoint : Bool) (n d : Nat) : String :=
  let p := max precision 1
  let (_, e) := digits (p - 1) n d
  let trim := fun (text : String) => if keepsPoint then text else dropZeros text
  if e < -4 || e ≥ Int.ofNat p then
    let text := scientific (p - 1) keepsPoint n d
    let mantissa := String.ofList (text.toList.takeWhile (· != 'e'))
    trim mantissa ++ String.ofList (text.toList.drop mantissa.length)
  else trim (fixed (Int.ofNat p - 1 - e).toNat keepsPoint n d)

/-- A fraction in sixteens and a power of two. -/
def hexadecimal (n d : Nat) : String :=
  if n == 0 then "0x0p+0"
  else
    let e := Int.ofNat n.log2 - Int.ofNat d.log2
    let e := if (if e ≥ 0 then d * Nat.pow 2 e.toNat ≤ n else d ≤ n * Nat.pow 2 (-e).toNat) then e
      else e - 1
    let (a, b) := if e ≥ 0 then (n, d * Nat.pow 2 e.toNat) else (n * Nat.pow 2 (-e).toNat, d)
    let tail := rounded ((a - b) * Nat.pow 2 52) b
    let ds := Nat.toDigits 16 tail
    let ds := List.replicate (13 - ds.length) '0' ++ ds
    let ds := (ds.reverse.dropWhile (· == '0')).reverse
    "0x1" ++ (if ds.isEmpty then "" else "." ++ String.ofList ds) ++ "p" ++
      (if e < 0 then "-" else "+") ++ toString e.natAbs

/-- The sign of a number. -/
def isNegative : Decimal → Bool
  | .finite negative _ _ => negative
  | .infinite negative => negative
  | .none => false

/-- A number without its sign by the letter of a layout. -/
def layOut (letter : Char) (precision : Option Nat) (keepsPoint : Bool) (x : Decimal) : String :=
  match x with
  | .none => "nan"
  | .infinite _ => "inf"
  | .finite _ n d =>
    match letter with
    | 'f' => fixed (precision.getD 6) keepsPoint n d
    | 'e' => scientific (precision.getD 6) keepsPoint n d
    | 'a' => hexadecimal n d
    | _ => general (precision.getD 6) keepsPoint n d

end Decimal

end ApkForge.Script
