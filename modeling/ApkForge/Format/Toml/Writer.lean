-- Writing TOML: keys with values under headers. A string is written without escapes where one of
-- the four forms of strings allows it, and an array with more than one item has one item a line.

namespace ApkForge.Toml

/-! ## Strings -/

/-- How many times a character stands in a row at most; `now` counts the row that ends here. -/
def longestRun (q : Char) : Nat → List Char → Nat
  | now, [] => now
  | now, c :: rest => if c == q then longestRun q (now + 1) rest else max now (longestRun q 0 rest)

/-- A control character that only an escape can write. -/
def needsEscape (c : Char) : Bool :=
  (c.toNat ≤ 0x1f && c != '\t' && c != '\n') || c.toNat == 0x7f

/-- How a string is written: between quotes of one kind, which are tripled in the wide forms. -/
inductive Form where
  | basic
  | literal
  | wideBasic
  | wideLiteral
deriving DecidableEq, Repr

/-- The form of a string: the first of basic, literal, wide basic and wide literal that needs no
escape, apart from that of a tab. A string that needs escapes in all of them is basic. -/
def Form.of (cs : List Char) : Form :=
  let breaks := cs.contains '\n'
  let coded := cs.any needsEscape
  let slashed := cs.contains '\\'
  if !coded && !slashed && !breaks && longestRun '\x22' 0 cs == 0 then .basic
  else if !coded && !breaks && longestRun '\x27' 0 cs == 0 then .literal
  else if !coded && !slashed && longestRun '\x22' 0 cs ≤ 2 then .wideBasic
  else if !coded && longestRun '\x27' 0 cs ≤ 2 then .wideLiteral
  else if breaks then .wideBasic
  else .basic

/-- A hexadecimal digit in upper case. -/
def upperHex (n : Nat) : Char := if n < 10 then Char.ofNat (48 + n) else Char.ofNat (55 + n)

/-- A character other than a quote inside a basic string. A line break stands for itself in the wide
form. -/
def writeChar (wide : Bool) (c : Char) : List Char :=
  if c == '\x08' then ['\\', 'b']
  else if c == '\t' then ['\\', 't']
  else if c == '\n' then if wide then ['\n'] else ['\\', 'n']
  else if c == '\x0c' then ['\\', 'f']
  else if c == '\r' then ['\\', 'r']
  else if c == '\\' then ['\\', '\\']
  else if c.toNat ≤ 0x1f || c.toNat == 0x7f then
    ['\\', 'u', '0', '0', upperHex (c.toNat / 16), upperHex (c.toNat % 16)]
  else [c]

/-- The inside of a basic string. In the wide form two quotes may stand in a row; `row` counts those
that do. -/
def writeInside (wide : Bool) : Nat → List Char → List Char
  | _, [] => []
  | row, c :: rest =>
    if c != '\x22' then writeChar wide c ++ writeInside wide 0 rest
    else if wide && row < 2 then c :: writeInside wide (row + 1) rest
    else '\\' :: c :: writeInside wide 0 rest

/-- A string in its form. A wide form has a line break after its opening quotes if the string has
any. -/
def writeString (s : String) : String :=
  let cs := s.toList
  let first := if cs.contains '\n' then "\n" else ""
  match Form.of cs with
  | .basic => "\"" ++ String.ofList (writeInside false 0 cs) ++ "\""
  | .literal => "'" ++ s ++ "'"
  | .wideBasic => "\"\"\"" ++ first ++ String.ofList (writeInside true 0 cs) ++ "\"\"\""
  | .wideLiteral => "'''" ++ first ++ s ++ "'''"

/-! ## Tables -/

/-- Strings as an array. -/
def writeStrings : List String → String
  | [] => "[]"
  | [s] => "[" ++ writeString s ++ "]"
  | ss => "[" ++ String.join (ss.map fun s => "\n    " ++ writeString s ++ ",") ++ "\n]"

/-- A header and the keys below it. -/
def writeTable (name : String) (pairs : List (String × String)) : String :=
  "[" ++ name ++ "]\n" ++ String.join (pairs.map fun p => p.1 ++ " = " ++ p.2 ++ "\n")

/-- Tables with a blank line between them. -/
def writeTables : List (String × List (String × String)) → String
  | [] => ""
  | [(name, pairs)] => writeTable name pairs
  | (name, pairs) :: t :: rest => writeTable name pairs ++ "\n" ++ writeTables (t :: rest)

end ApkForge.Toml
