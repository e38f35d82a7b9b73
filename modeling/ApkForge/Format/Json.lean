-- JSON values, read and written. The reader takes exactly the grammar of the standard, nests at
-- most 127 deep and refuses a number beyond the range of a double; the writer has a compact
-- form and a form with one member a line.
import ApkForge.Format.Double

namespace ApkForge

/-- A JSON value. An object keeps its members as they were written, repeats included. -/
inductive Json where
  | null
  | bool (b : Bool)
  | num (digits : String)
  | str (s : String)
  | arr (items : List Json)
  | obj (members : List (String × Json))
deriving Inhabited, Repr

namespace Json

/-! ## Reading -/

/-- The deepest nesting that the reader follows. -/
def deepest : Nat := 127

/-- The blanks that may stand between tokens. -/
def isGap (c : Char) : Bool := c == ' ' || c == '\n' || c == '\r' || c == '\t'

/-- The text without the blanks at its front. -/
def skip (cs : List Char) : List Char := cs.dropWhile isGap

/-- The value of a hexadecimal digit. -/
def hexDigit? (c : Char) : Option Nat :=
  if '0' ≤ c && c ≤ '9' then some (c.toNat - '0'.toNat)
  else if 'a' ≤ c && c ≤ 'f' then some (c.toNat - 'a'.toNat + 10)
  else if 'A' ≤ c && c ≤ 'F' then some (c.toNat - 'A'.toNat + 10)
  else none

/-- Four hexadecimal digits and the text after them. -/
def hex4 : List Char → Option (Nat × List Char)
  | a :: b :: c :: d :: rest => do
    let a ← hexDigit? a
    let b ← hexDigit? b
    let c ← hexDigit? c
    let d ← hexDigit? d
    some (((a * 16 + b) * 16 + c) * 16 + d, rest)
  | _ => none

/-- The character of a `\u` escape. A high surrogate must be followed by the escape of a low
one, and no low one stands alone. -/
def unicodeEscape (cs : List Char) : Option (Char × List Char) := do
  let (n, rest) ← hex4 cs
  if 0xdc00 ≤ n && n ≤ 0xdfff then none
  else if 0xd800 ≤ n && n ≤ 0xdbff then
    match rest with
    | '\\' :: 'u' :: rest => do
      let (m, rest) ← hex4 rest
      if 0xdc00 ≤ m && m ≤ 0xdfff then
        some (Char.ofNat (0x10000 + (n - 0xd800) * 1024 + (m - 0xdc00)), rest)
      else none
    | _ => none
  else some (Char.ofNat n, rest)

/-- The character of a one-letter escape. -/
def shortEscape? : Char → Option Char
  | '\x22' => some '\x22'
  | '\\' => some '\\'
  | '/' => some '/'
  | 'b' => some '\x08'
  | 'f' => some '\x0c'
  | 'n' => some '\n'
  | 'r' => some '\r'
  | 't' => some '\t'
  | _ => none

/-- The rest of a string after its opening quote, read into `acc`, whose last character comes
first. -/
def readString : Nat → List Char → List Char → Option (String × List Char)
  | 0, _, _ => none
  | _ + 1, _, [] => none
  | fuel + 1, acc, c :: rest =>
    if c == '\x22' then some (String.ofList acc.reverse, rest)
    else if c == '\\' then
      match rest with
      | 'u' :: rest =>
        match unicodeEscape rest with
        | some (u, rest) => readString fuel (u :: acc) rest
        | none => none
      | e :: rest =>
        match shortEscape? e with
        | some u => readString fuel (u :: acc) rest
        | none => none
      | [] => none
    else if c.toNat < 0x20 then none
    else readString fuel (c :: acc) rest

/-- The digits at the front. -/
def digits (cs : List Char) : List Char × List Char := cs.span Char.isDigit

/-- The number that decimal digits spell. -/
def decimal (cs : List Char) : Nat := cs.foldl (fun n c => n * 10 + (c.toNat - '0'.toNat)) 0

/-- The largest number that digits are read into. -/
def mostDigits : Nat := 18446744073709551615

/-- The largest exponent that is read. -/
def mostExponent : Nat := 2147483647

/-- Digits read one after the other as long as the number stays in bounds, and how many were. -/
def accumulate : Nat → Nat → List Char → Nat × Nat
  | n, count, [] => (n, count)
  | n, count, c :: rest =>
    let m := n * 10 + (c.toNat - '0'.toNat)
    if m > mostDigits then (n, count) else accumulate m (count + 1) rest

/-- A number is refused if its digits times its power of ten are beyond the doubles. Digits that are
too many count as zeros before the point and not at all after it. -/
def outOfRange (whole fraction : List Char) (negative : Bool) (exponent : List Char) : Bool :=
  let (m, count) := accumulate 0 0 whole
  let (m, behind) := accumulate m 0 fraction
  let x := decimal exponent
  if x > mostExponent then m != 0 && !negative
  else
    let shift : Int := Int.ofNat (whole.length - count) - Int.ofNat behind
    Double.productTooLarge m (if negative then shift - Int.ofNat x else shift + Int.ofNat x)

/-- A number at the front, as it was written. -/
def readNumber (cs : List Char) : Option (String × List Char) := do
  let body := match cs with
    | '-' :: rest => rest
    | _ => cs
  let (whole, rest) := digits body
  match whole with
  | [] => none
  | '0' :: _ :: _ => none
  | _ =>
    let (fraction, rest) ← (match rest with
      | '.' :: more =>
        let (f, after) := digits more
        if f.isEmpty then none else some (f, after)
      | _ => some ([], rest))
    let (exponent, rest) ← (match rest with
      | c :: more =>
        if c == 'e' || c == 'E' then
          let (negative, more) := match more with
            | '+' :: m => (false, m)
            | '-' :: m => (true, m)
            | _ => (false, more)
          let (x, after) := digits more
          if x.isEmpty then none else some ((negative, x), after)
        else some ((false, []), rest)
      | [] => some ((false, []), rest))
    if outOfRange whole fraction exponent.1 exponent.2 then none
    else some (String.ofList (cs.take (cs.length - rest.length)), rest)

mutual

/-- A value at the front; `depth` counts the levels still allowed. -/
def readValue : Nat → Nat → List Char → Option (Json × List Char)
  | 0, _, _ => none
  | fuel + 1, depth, cs =>
    match skip cs with
    | 'n' :: 'u' :: 'l' :: 'l' :: rest => some (.null, rest)
    | 't' :: 'r' :: 'u' :: 'e' :: rest => some (.bool true, rest)
    | 'f' :: 'a' :: 'l' :: 's' :: 'e' :: rest => some (.bool false, rest)
    | '[' :: rest =>
      match depth with
      | 0 => none
      | depth + 1 =>
        match skip rest with
        | ']' :: rest => some (.arr [], rest)
        | rest =>
          match readItems fuel depth rest with
          | some (items, rest) => some (.arr items, rest)
          | none => none
    | '\x7b' :: rest =>
      match depth with
      | 0 => none
      | depth + 1 =>
        match skip rest with
        | '\x7d' :: rest => some (.obj [], rest)
        | rest =>
          match readMembers fuel depth rest with
          | some (members, rest) => some (.obj members, rest)
          | none => none
    | '\x22' :: rest =>
      match readString (rest.length + 1) [] rest with
      | some (s, rest) => some (.str s, rest)
      | none => none
    | cs =>
      match readNumber cs with
      | some (n, rest) => some (.num n, rest)
      | none => none

/-- The items of an array up to its closing bracket. -/
def readItems : Nat → Nat → List Char → Option (List Json × List Char)
  | 0, _, _ => none
  | fuel + 1, depth, cs =>
    match readValue fuel depth cs with
    | none => none
    | some (v, rest) =>
      match skip rest with
      | ']' :: rest => some ([v], rest)
      | ',' :: rest =>
        match readItems fuel depth rest with
        | some (vs, rest) => some (v :: vs, rest)
        | none => none
      | _ => none

/-- The members of an object up to its closing brace. -/
def readMembers : Nat → Nat → List Char → Option (List (String × Json) × List Char)
  | 0, _, _ => none
  | fuel + 1, depth, cs =>
    match skip cs with
    | '\x22' :: rest =>
      match readString (rest.length + 1) [] rest with
      | none => none
      | some (key, rest) =>
        match skip rest with
        | ':' :: rest =>
          match readValue fuel depth rest with
          | none => none
          | some (v, rest) =>
            match skip rest with
            | '\x7d' :: rest => some ([(key, v)], rest)
            | ',' :: rest =>
              match readMembers fuel depth rest with
              | some (ms, rest) => some ((key, v) :: ms, rest)
              | none => none
            | _ => none
        | _ => none
    | _ => none

end

/-- The value that a text holds, if it holds one and nothing else. -/
def parse? (text : String) : Option Json :=
  let cs := text.toList
  match readValue (2 * cs.length + 2) deepest cs with
  | some (v, rest) => if (skip rest).isEmpty then some v else none
  | none => none

/-! ## Looking into a value -/

/-- The text of a string value. -/
def string? : Json → Option String
  | .str s => some s
  | _ => none

/-- The items of an array. -/
def items? : Json → Option (List Json)
  | .arr items => some items
  | _ => none

/-- The strings of an array that holds strings only. -/
def strings? (v : Json) : Option (List String) := v.items?.bind fun items => items.mapM string?

/-! ## Writing -/

/-- A hexadecimal digit in lower case. -/
def hexChar (n : Nat) : Char := if n < 10 then Char.ofNat (48 + n) else Char.ofNat (87 + n)

/-- A character inside a written string. -/
def escape (c : Char) : List Char :=
  if c == '\x22' then ['\\', '\x22']
  else if c == '\\' then ['\\', '\\']
  else if c == '\n' then ['\\', 'n']
  else if c == '\r' then ['\\', 'r']
  else if c == '\t' then ['\\', 't']
  else if c == '\x08' then ['\\', 'b']
  else if c == '\x0c' then ['\\', 'f']
  else if c.toNat < 0x20 then ['\\', 'u', '0', '0', hexChar (c.toNat / 16), hexChar (c.toNat % 16)]
  else [c]

/-- A written string with its quotes. -/
def quoted (s : String) : String := String.ofList ('\x22' :: s.toList.flatMap escape ++ ['\x22'])

/-- A line break and the indent of a level. -/
def newline (level : Nat) : String := "\n" ++ String.ofList (List.replicate (2 * level) ' ')

mutual

/-- A value without blanks. -/
def compact : Json → String
  | .null => "null"
  | .bool b => if b then "true" else "false"
  | .num digits => digits
  | .str s => quoted s
  | .arr items => "[" ++ compactItems items ++ "]"
  | .obj members => "\x7b" ++ compactMembers members ++ "\x7d"

/-- Items with commas between them. -/
def compactItems : List Json → String
  | [] => ""
  | [v] => compact v
  | v :: w :: rest => compact v ++ "," ++ compactItems (w :: rest)

/-- Members with commas between them. -/
def compactMembers : List (String × Json) → String
  | [] => ""
  | [(k, v)] => quoted k ++ ":" ++ compact v
  | (k, v) :: m :: rest => quoted k ++ ":" ++ compact v ++ "," ++ compactMembers (m :: rest)

end

mutual

/-- A value with one item or member a line, two blanks deeper at each level. -/
def pretty (level : Nat) : Json → String
  | .arr (v :: rest) => "[" ++ prettyItems (level + 1) (v :: rest) ++ newline level ++ "]"
  | .obj (m :: rest) =>
    "\x7b" ++ prettyMembers (level + 1) (m :: rest) ++ newline level ++ "\x7d"
  | .arr [] => "[]"
  | .obj [] => "\x7b\x7d"
  | .null => "null"
  | .bool b => if b then "true" else "false"
  | .num digits => digits
  | .str s => quoted s

/-- Items, each on its line. -/
def prettyItems (level : Nat) : List Json → String
  | [] => ""
  | [v] => newline level ++ pretty level v
  | v :: w :: rest => newline level ++ pretty level v ++ "," ++ prettyItems level (w :: rest)

/-- Members, each on its line. -/
def prettyMembers (level : Nat) : List (String × Json) → String
  | [] => ""
  | [(k, v)] => newline level ++ quoted k ++ ": " ++ pretty level v
  | (k, v) :: m :: rest =>
    newline level ++ quoted k ++ ": " ++ pretty level v ++ "," ++ prettyMembers level (m :: rest)

end

end Json

end ApkForge
