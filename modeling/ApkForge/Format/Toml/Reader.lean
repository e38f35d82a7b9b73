-- Reading TOML. The document is a run of lines; each line is blank, a header, or a key with its
-- value. A text outside the grammar, or one that defines a key twice, has no value.
import ApkForge.Format.Json
import ApkForge.Format.Toml.Value

namespace ApkForge.Toml

/-! ## Blanks, comments and line ends -/

/-- The text without blanks at its front. -/
def skip (cs : List Char) : List Char := cs.dropWhile fun c => c == ' ' || c == '\t'

/-- A character that may stand in a comment. -/
def inComment (c : Char) : Bool := c == '\t' || (0x20 ≤ c.toNat && c.toNat != 0x7f)

/-- The text after a comment, if one starts here. -/
def skipComment : List Char → List Char
  | '#' :: rest => rest.dropWhile inComment
  | cs => cs

/-- The text after a line break. -/
def lineBreak? : List Char → Option (List Char)
  | '\n' :: rest => some rest
  | '\r' :: '\n' :: rest => some rest
  | _ => none

/-- The text after the end of a line: blanks, a comment and a break, or the end of the text. -/
def lineEnd? (cs : List Char) : Option (List Char) :=
  match skipComment (skip cs) with
  | [] => some []
  | cs => lineBreak? cs

/-- The text without blanks, comments and line breaks at its front. -/
def skipLines : Nat → List Char → List Char
  | 0, cs => cs
  | fuel + 1, cs =>
    match skip cs with
    | '#' :: rest =>
      match lineBreak? (rest.dropWhile inComment) with
      | some rest => skipLines fuel rest
      | none => '#' :: rest
    | cs =>
      match lineBreak? cs with
      | some rest => skipLines fuel rest
      | none => cs

/-! ## Strings -/

/-- A character that stands for itself in a basic string. -/
def isBasic (c : Char) : Bool :=
  c == '\t' || (0x20 ≤ c.toNat && c != '\x22' && c != '\\' && c.toNat != 0x7f)

/-- A character that may stand in a literal string. -/
def isLiteral (c : Char) : Bool :=
  c == '\t' || (0x20 ≤ c.toNat && c != '\x27' && c.toNat != 0x7f)

/-- The number of `n` hexadecimal digits. -/
def hexNumber : Nat → Nat → List Char → Option (Nat × List Char)
  | 0, acc, cs => some (acc, cs)
  | _ + 1, _, [] => none
  | n + 1, acc, c :: rest =>
    match Json.hexDigit? c with
    | some d => hexNumber n (acc * 16 + d) rest
    | none => none

/-- The character with a number, if it is one. -/
def scalar? (n : Nat) : Option Char :=
  if n < 0xd800 || (0xe000 ≤ n && n < 0x110000) then some (Char.ofNat n) else none

/-- The character of an escape after its backslash. -/
def escape : List Char → Option (Char × List Char)
  | 'b' :: rest => some ('\x08', rest)
  | 'f' :: rest => some ('\x0c', rest)
  | 'n' :: rest => some ('\n', rest)
  | 'r' :: rest => some ('\r', rest)
  | 't' :: rest => some ('\t', rest)
  | '\x22' :: rest => some ('\x22', rest)
  | '\\' :: rest => some ('\\', rest)
  | 'u' :: rest => do
    let (n, rest) ← hexNumber 4 0 rest
    some (← scalar? n, rest)
  | 'U' :: rest => do
    let (n, rest) ← hexNumber 8 0 rest
    some (← scalar? n, rest)
  | _ => none

/-- A basic string after its quote. The last character read comes first in `acc`. -/
def basicString : Nat → List Char → List Char → Option (String × List Char)
  | 0, _, _ => none
  | _ + 1, _, [] => none
  | fuel + 1, acc, c :: rest =>
    if c == '\x22' then some (String.ofList acc.reverse, rest)
    else if c == '\\' then
      match escape rest with
      | some (e, rest) => basicString fuel (e :: acc) rest
      | none => none
    else if isBasic c then basicString fuel (c :: acc) rest
    else none

/-- A literal string after its quote. -/
def literalString (cs : List Char) : Option (String × List Char) :=
  let (body, rest) := cs.span isLiteral
  match rest with
  | '\x27' :: rest => some (String.ofList body, rest)
  | _ => none

/-- The closing quotes of a string of several lines: three, and up to two more that belong to
the string. -/
def closing (quote : Char) (cs : List Char) : Option ((List Char) × List Char) :=
  let n := (cs.takeWhile (· == quote)).length
  if n < 3 then none
  else if n ≤ 5 then some (List.replicate (n - 3) quote, cs.drop n)
  else some (List.replicate 2 quote, cs.drop 5)

/-- The text after the blanks and line breaks that an escaped line end swallows. -/
def swallow : Nat → List Char → List Char
  | 0, cs => cs
  | fuel + 1, cs =>
    match lineBreak? (skip cs) with
    | some rest => swallow fuel rest
    | none => skip cs

/-- A basic string of several lines after its quotes. -/
def basicLines : Nat → List Char → List Char → Option (String × List Char)
  | 0, _, _ => none
  | _ + 1, _, [] => none
  | fuel + 1, acc, c :: rest =>
    match closing '\x22' (c :: rest) with
    | some (more, rest) => some (String.ofList (acc.reverse ++ more), rest)
    | none =>
      if c == '\x22' then basicLines fuel (c :: acc) rest
      else if c == '\\' then
        match lineBreak? (skip rest) with
        | some rest => basicLines fuel acc (swallow rest.length rest)
        | none =>
          match escape rest with
          | some (e, rest) => basicLines fuel (e :: acc) rest
          | none => none
      else if isBasic c then basicLines fuel (c :: acc) rest
      else match lineBreak? (c :: rest) with
        | some rest => basicLines fuel ('\n' :: acc) rest
        | none => none

/-- A literal string of several lines after its quotes. -/
def literalLines : Nat → List Char → List Char → Option (String × List Char)
  | 0, _, _ => none
  | _ + 1, _, [] => none
  | fuel + 1, acc, c :: rest =>
    match closing '\x27' (c :: rest) with
    | some (more, rest) => some (String.ofList (acc.reverse ++ more), rest)
    | none =>
      if c == '\x27' || isLiteral c then literalLines fuel (c :: acc) rest
      else match lineBreak? (c :: rest) with
        | some rest => literalLines fuel ('\n' :: acc) rest
        | none => none

/-- A string of several lines starts after a line break that follows its quotes. -/
def afterBreak (cs : List Char) : List Char := (lineBreak? cs).getD cs

/-- A string in any of the four forms. -/
def string : List Char → Option (String × List Char)
  | '\x22' :: '\x22' :: '\x22' :: rest => basicLines (rest.length + 1) [] (afterBreak rest)
  | '\x22' :: rest => basicString (rest.length + 1) [] rest
  | '\x27' :: '\x27' :: '\x27' :: rest => literalLines (rest.length + 1) [] (afterBreak rest)
  | '\x27' :: rest => literalString rest
  | _ => none

/-! ## Keys -/

/-- A character of a key without quotes. -/
def isBare (c : Char) : Bool := c.isAlphanum || c == '_' || c == '-'

/-- One part of a key. -/
def simpleKey (cs : List Char) : Option (String × List Char) :=
  match cs with
  | '\x22' :: rest => basicString (rest.length + 1) [] rest
  | '\x27' :: rest => literalString rest
  | _ =>
    let (name, rest) := cs.span isBare
    if name.isEmpty then none else some (String.ofList name, rest)

/-- The longest dotted key. -/
def longestKey : Nat := 79

/-- The parts of a dotted key, with the blanks around them. -/
def keyParts : Nat → List Char → Option ((List String) × List Char)
  | 0, _ => none
  | fuel + 1, cs =>
    match simpleKey (skip cs) with
    | none => none
    | some (name, rest) =>
      match skip rest with
      | '.' :: rest =>
        match keyParts fuel rest with
        | some (names, rest) => some (name :: names, rest)
        | none => none
      | rest => some ([name], rest)

/-- A dotted key. -/
def key (cs : List Char) : Option ((List String) × List Char) := keyParts longestKey cs

/-! ## Numbers and dates -/

/-- Digits with single underscores between them. -/
def grouped (isDigit : Char → Bool) : Nat → List Char → Option ((List Char) × List Char)
  | 0, _ => none
  | fuel + 1, cs =>
    match cs with
    | c :: rest =>
      if isDigit c then
        match rest with
        | '_' :: more =>
          match grouped isDigit fuel more with
          | some (ds, rest) => some (c :: ds, rest)
          | none => none
        | _ =>
          match grouped isDigit fuel rest with
          | some (ds, rest) => some (c :: ds, rest)
          | none => some ([c], rest)
      else none
    | [] => none

/-- Digits with single underscores between them, as many as there are. -/
def group (isDigit : Char → Bool) (cs : List Char) : Option ((List Char) × List Char) :=
  grouped isDigit (cs.length + 1) cs

/-- The number that digits of a base spell. -/
def inBase (base : Nat) (ds : List Char) : Nat :=
  ds.foldl (fun n c => n * base + (Json.hexDigit? c).getD 0) 0

/-- An integer of sixty-four bits. -/
def int64? (n : Int) : Option Int :=
  if -9223372036854775808 ≤ n && n < 9223372036854775808 then some n else none

/-- A prefixed integer: its digits follow `0x`, `0o` or `0b`. -/
def prefixed (base : Nat) (isDigit : Char → Bool) (cs : List Char) : Option (Toml × List Char) := do
  let (ds, rest) ← group isDigit cs
  some (.int (← int64? (inBase base ds)), rest)

/-- Two digits within bounds. -/
def twoDigits (lo hi : Nat) : List Char → Option (Nat × List Char)
  | a :: b :: rest =>
    if a.isDigit && b.isDigit then
      let n := Json.decimal [a, b]
      if lo ≤ n && n ≤ hi then some (n, rest) else none
    else none
  | _ => none

/-- The days of a month. -/
def daysIn (year month : Nat) : Nat :=
  if month == 2 then
    if year % 4 == 0 && (year % 100 != 0 || year % 400 == 0) then 29 else 28
  else if month == 4 || month == 6 || month == 9 || month == 11 then 30
  else 31

/-- A time of day. -/
def time (cs : List Char) : Option (Unit × List Char) := do
  let (_, rest) ← twoDigits 0 23 cs
  match rest with
  | ':' :: rest => do
    let (_, rest) ← twoDigits 0 59 rest
    match rest with
    | ':' :: rest => do
      let (_, rest) ← twoDigits 0 60 rest
      match rest with
      | '.' :: more =>
        let (f, after) := Json.digits more
        if f.isEmpty then none else some ((), after)
      | _ => some ((), rest)
    | _ => none
  | _ => none

/-- An offset from universal time. -/
def offset (cs : List Char) : Option (Unit × List Char) :=
  match cs with
  | 'Z' :: rest => some ((), rest)
  | 'z' :: rest => some ((), rest)
  | c :: rest =>
    if c == '+' || c == '-' then do
      let (_, rest) ← twoDigits 0 23 rest
      match rest with
      | ':' :: rest => do
        let (_, rest) ← twoDigits 0 59 rest
        some ((), rest)
      | _ => none
    else none
  | [] => none

/-- True when a date starts here: four digits and a hyphen. -/
def startsDate : List Char → Bool
  | a :: b :: c :: d :: '-' :: _ => a.isDigit && b.isDigit && c.isDigit && d.isDigit
  | _ => false

/-- True when a time starts here: two digits and a colon. -/
def startsTime : List Char → Bool
  | a :: b :: ':' :: _ => a.isDigit && b.isDigit
  | _ => false

/-- A date, with a time and an offset if they follow. -/
def dateTime (cs : List Char) : Option (Toml × List Char) := do
  let year := Json.decimal (cs.take 4)
  let (month, rest) ← twoDigits 1 12 (cs.drop 5)
  match rest with
  | '-' :: rest => do
    let (_, rest) ← twoDigits 1 (daysIn year month) rest
    match rest with
    | c :: more =>
      if c == 'T' || c == 't' || (c == ' ' && startsTime more) then do
        let (_, rest) ← time more
        match offset rest with
        | some (_, rest) => some (.date, rest)
        | none => some (.date, rest)
      else some (.date, rest)
    | [] => some (.date, [])
  | _ => none

/-- The fraction and exponent of a float, after its whole part: whether there was any, the digits
of the fraction, and the exponent. -/
def floatTail (cs : List Char) : Option ((Bool × List Char × Int) × List Char) := do
  let (fraction, rest) ← (match cs with
    | '.' :: more =>
      match group Char.isDigit more with
      | some (ds, after) => some (ds, after)
      | none => none
    | _ => some ([], cs))
  match rest with
  | c :: more =>
    if c == 'e' || c == 'E' then do
      let (negative, more) := match more with
        | '+' :: m => (false, m)
        | '-' :: m => (true, m)
        | _ => (false, more)
      let (x, after) ← group Char.isDigit more
      let e : Int := if negative then -Int.ofNat (Json.decimal x) else Int.ofNat (Json.decimal x)
      some ((true, fraction, e), after)
    else some ((!fraction.isEmpty, fraction, 0), rest)
  | [] => some ((!fraction.isEmpty, fraction, 0), [])

/-- An integer or a float with an optional sign. -/
def number (cs : List Char) : Option (Toml × List Char) := do
  let (negative, body) := match cs with
    | '+' :: rest => (false, rest)
    | '-' :: rest => (true, rest)
    | _ => (false, cs)
  match body with
  | 'i' :: 'n' :: 'f' :: rest => some (.float, rest)
  | 'n' :: 'a' :: 'n' :: rest => some (.float, rest)
  | c :: more =>
    let (whole, rest) ← if c == '0' then some (['0'], more) else group Char.isDigit body
    let ((isFloat, fraction, e), rest) ← floatTail rest
    if isFloat then
      if !negative && Double.tooLarge (Json.decimal (whole ++ fraction)) (e - fraction.length) then
        none
      else some (.float, rest)
    else
      let n : Int := Json.decimal whole
      some (.int (← int64? (if negative then -n else n)), rest)
  | [] => none

/-! ## Values -/

/-- The deepest nesting of arrays and inline tables. -/
def deepest : Nat := 79

mutual

/-- A value; `depth` counts the levels still allowed. -/
def value : Nat → Nat → List Char → Option (Toml × List Char)
  | 0, _, _ => none
  | fuel + 1, depth, cs =>
    match cs with
    | '[' :: rest =>
      match depth with
      | 0 => none
      | depth + 1 =>
        match items fuel depth (skipLines rest.length rest) with
        | some (vs, rest) => some (.array vs, rest)
        | none => none
    | '\x7b' :: rest =>
      match depth with
      | 0 => none
      | depth + 1 =>
        match skip rest with
        | '\x7d' :: rest => some (.table [], rest)
        | rest =>
          match pairs fuel depth rest with
          | some (ps, rest) =>
            match defineAll [] ps with
            | some fields => some (.table (finishFields fields), rest)
            | none => none
          | none => none
    | 't' :: 'r' :: 'u' :: 'e' :: rest => some (.bool true, rest)
    | 'f' :: 'a' :: 'l' :: 's' :: 'e' :: rest => some (.bool false, rest)
    | 'i' :: 'n' :: 'f' :: rest => some (.float, rest)
    | 'n' :: 'a' :: 'n' :: rest => some (.float, rest)
    | '0' :: 'x' :: rest => prefixed 16 (fun c => (Json.hexDigit? c).isSome) rest
    | '0' :: 'o' :: rest => prefixed 8 (fun c => '0' ≤ c && c ≤ '7') rest
    | '0' :: 'b' :: rest => prefixed 2 (fun c => c == '0' || c == '1') rest
    | c :: _ =>
      if c == '\x22' || c == '\x27' then
        match string cs with
        | some (s, rest) => some (.str s, rest)
        | none => none
      else if startsDate cs then dateTime cs
      else if startsTime cs then
        match time cs with
        | some (_, rest) => some (.date, rest)
        | none => none
      else number cs
    | [] => none

/-- The items of an array up to its bracket, blanks skipped before them. -/
def items : Nat → Nat → List Char → Option ((List Toml) × List Char)
  | 0, _, _ => none
  | fuel + 1, depth, cs =>
    match cs with
    | ']' :: rest => some ([], rest)
    | _ =>
      match value fuel depth cs with
      | none => none
      | some (v, rest) =>
        match skipLines rest.length rest with
        | ']' :: rest => some ([v], rest)
        | ',' :: rest =>
          match items fuel depth (skipLines rest.length rest) with
          | some (vs, rest) => some (v :: vs, rest)
          | none => none
        | _ => none

/-- The keys and values of an inline table up to its brace. -/
def pairs : Nat → Nat → List Char → Option ((List (List String × Toml)) × List Char)
  | 0, _, _ => none
  | fuel + 1, depth, cs =>
    match key cs with
    | none => none
    | some (path, rest) =>
      match skip rest with
      | '=' :: rest =>
        match value fuel depth (skip rest) with
        | none => none
        | some (v, rest) =>
          match skip rest with
          | '\x7d' :: rest => some ([(path, v)], rest)
          | ',' :: rest =>
            match pairs fuel depth rest with
            | some (ps, rest) => some ((path, v) :: ps, rest)
            | none => none
          | _ => none
      | _ => none

end

/-! ## The document -/

/-- One part of a document: the keys before any header, or a header with its keys. -/
structure Section where
  path : List String
  repeated : Bool
  pairs : List (List String × Toml)

/-- The header of a table, or of one of an array of tables. -/
def header (cs : List Char) : Option ((List String × Bool) × List Char) :=
  match cs with
  | '[' :: '[' :: rest =>
    match key rest with
    | some (path, ']' :: ']' :: rest) => some ((path, true), rest)
    | _ => none
  | '[' :: rest =>
    match key rest with
    | some (path, ']' :: rest) => some ((path, false), rest)
    | _ => none
  | _ => none

/-- A key with its value. -/
def pair (cs : List Char) : Option ((List String × Toml) × List Char) := do
  let (path, rest) ← key cs
  match skip rest with
  | '=' :: rest => do
    let (v, rest) ← value (2 * rest.length + 2) deepest (skip rest)
    some ((path, v), rest)
  | _ => none

/-- The sections of a document, the open one last; its keys are kept last first. -/
def sections : Nat → Section → List Char → Option (List Section)
  | 0, _, _ => none
  | fuel + 1, now, cs =>
    match skip cs with
    | [] => some [now]
    | '#' :: rest =>
      match rest.dropWhile inComment with
      | [] => some [now]
      | rest =>
        match lineBreak? rest with
        | some rest => sections fuel now rest
        | none => none
    | '[' :: rest =>
      match header ('[' :: rest) with
      | none => none
      | some ((path, repeated), rest) =>
        match lineEnd? rest with
        | none => none
        | some rest =>
          match sections fuel ⟨path, repeated, []⟩ rest with
          | some later => some (now :: later)
          | none => none
    | c :: rest =>
      match lineBreak? (c :: rest) with
      | some rest => sections fuel now rest
      | none =>
        match pair (c :: rest) with
        | none => none
        | some (p, rest) =>
          match lineEnd? rest with
          | some rest => sections fuel { now with pairs := p :: now.pairs } rest
          | none => none

/-- One section added to the document. -/
def addSection (root : Fields) (s : Section) : Option Fields :=
  if s.path.isEmpty then defineAll root s.pairs.reverse
  else if s.repeated then addToTables root s.path s.pairs.reverse
  else addTable root s.path s.pairs.reverse

/-- The table that a text spells, if it spells one. -/
def parse? (text : String) : Option Toml := do
  let cs := match text.toList with
    | c :: rest => if c == '\ufeff' then rest else c :: rest
    | [] => []
  let parts ← sections (cs.length + 1) ⟨[], false, []⟩ cs
  let fields ← parts.foldlM addSection []
  some (.table (finishFields fields))

end ApkForge.Toml
