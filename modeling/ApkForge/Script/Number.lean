-- Whole numbers as the commands of a shell read them: a base may be named in front, and what
-- follows the last digit is left over.
namespace ApkForge.Script.Number

/-- A character that may stand before a number. -/
def isBlank (c : Char) : Bool := c == ' ' || c == '\t' || c == '\n'

/-- What a digit of any base counts. -/
def digitValue? (c : Char) : Option Nat :=
  if c.isDigit then some (c.toNat - '0'.toNat)
  else if 'a' ≤ c && c ≤ 'f' then some (c.toNat - 'a'.toNat + 10)
  else if 'A' ≤ c && c ≤ 'F' then some (c.toNat - 'A'.toNat + 10)
  else none

/-- A character is a digit in a base. -/
def isDigitIn (base : Nat) (c : Char) : Bool :=
  ((digitValue? c).map fun n => decide (n < base)).getD false

/-- The number of digits in a base. -/
def ofDigits (base : Nat) (cs : List Char) : Nat :=
  cs.foldl (fun n c => n * base + (digitValue? c).getD 0) 0

/-- The number at the front of a text, and what follows it. `0x` and `0` in front name a base. -/
def read (cs : List Char) : Nat × List Char :=
  let inBase := fun (base : Nat) (cs : List Char) =>
    (ofDigits base (cs.takeWhile (isDigitIn base)), cs.dropWhile (isDigitIn base))
  match cs with
  | '0' :: x :: c :: rest =>
    if (x == 'x' || x == 'X') && isDigitIn 16 c then inBase 16 (c :: rest)
    else inBase 8 (x :: c :: rest)
  | '0' :: rest => inBase 8 rest
  | cs => inBase 10 cs

/-- The whole number at the front of a text, with its sign, and what follows it; none if no digit
comes first. -/
def readWhole? (cs : List Char) : Option (Int × List Char) :=
  let cs := cs.dropWhile isBlank
  let negative := cs.head? == some '-'
  let digits := if negative || cs.head? == some '+' then cs.tail else cs
  if !(digits.head?.map Char.isDigit).getD false then none
  else
    let (n, rest) := read digits
    some (if negative then -Int.ofNat n else Int.ofNat n, rest)

/-- The whole number in base ten that a text is, with blanks around it. -/
def decimal? (text : String) : Option Int :=
  let cs := (text.toList.dropWhile isBlank).reverse.dropWhile isBlank |>.reverse
  let negative := cs.head? == some '-'
  let digits := if negative || cs.head? == some '+' then cs.tail else cs
  if digits.isEmpty || !digits.all Char.isDigit then none
  else
    let n := ofDigits 10 digits
    some (if negative then -Int.ofNat n else Int.ofNat n)

/-- The number that a text is, if it is not negative. -/
def count? (text : String) : Option Nat :=
  match decimal? text with
  | some (.ofNat n) => some n
  | _ => none

end ApkForge.Script.Number
