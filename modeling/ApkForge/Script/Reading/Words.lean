-- Reading the words of a script. A word ends at a blank or a sign; within quotes and braces it goes
-- on to what closes them. A script within a word is read by what reads the whole.
import ApkForge.Script.Reading.Source

namespace ApkForge.Script.Read

/-! ## Ends -/

/-- What a text that is read as a word goes on to: a blank or a sign between commands, a closing
quote, a closing brace outside or inside of quotes, a closing bracket, a blank only, or the end. -/
inductive Until where
  | sign
  | quote
  | brace (inQuotes : Bool)
  | bracket
  | blank
  | finish
deriving DecidableEq

namespace Until

/-- A character that ends a word between commands. -/
def isSignChar (c : Char) : Bool := " \t\n;&|<>()".toList.contains c

/-- A character ends the text. -/
def ends (u : Until) (c : Char) : Bool :=
  match u with
  | .sign => isSignChar c
  | .quote => c == '\x22'
  | .brace _ => c == '\x7d'
  | .bracket => c == ']'
  | .blank => c == ' ' || c == '\t' || c == '\n'
  | .finish => false

/-- The end is taken with the text. -/
def isTaken : Until → Bool
  | .sign => false
  | .blank => false
  | .finish => false
  | _ => true

/-- The text is in double quotes. -/
def isQuoted : Until → Bool
  | .quote => true
  | .brace inQuotes => inQuotes
  | .finish => true
  | _ => false

/-- A character stands for itself. -/
def isPlain (u : Until) (c : Char) : Bool :=
  !u.ends c && c != '$' && c != '\x60' && c != '\\' &&
    (match u with
      | .quote => true
      | .finish => true
      | .brace true => c != '\x22'
      | _ => c != '\x22' && c != '\x27')

/-- A character that a backslash makes stand for itself in a text in double quotes. -/
def isEscaped (u : Until) (c : Char) : Bool :=
  c == '$' || c == '\x60' || c == '\\' ||
    (match u with
      | .quote => c == '\x22'
      | .brace _ => c == '\x22' || c == '\x7d'
      | _ => false)

end Until

/-- A text as a piece. -/
def textPiece (inQuotes : Bool) (text : String) : Piece :=
  if inQuotes then .quoted text else .plain text

/-! ## Escapes of a rich shell -/

/-- The value of up to so many digits in a base at the front of a text, and what follows. -/
def digitsIn (base most : Nat) (cs : List Char) : Option (Nat × List Char) :=
  let value? := fun (c : Char) =>
    (if c.isDigit then some (c.toNat - '0'.toNat)
      else if 'a' ≤ c.toLower && c.toLower ≤ 'f' then some (c.toLower.toNat - 'a'.toNat + 10)
      else none).filter (· < base)
  let digits := (cs.take most).takeWhile fun c => (value? c).isSome
  if digits.isEmpty then none
  else some (digits.foldl (fun n c => n * base + (value? c).getD 0) 0, cs.drop digits.length)

/-- The characters for a code: only those of a byte's lower half stand for themselves. -/
def codeText (n : Nat) : List Char :=
  if n < 128 then [Char.ofNat n]
  else
    let digits := (Nat.toDigits 16 n).map Char.toUpper
    let width := if n < 65536 then 4 else 8
    (if n < 65536 then ['\\', 'u'] else ['\\', 'U']) ++
      List.replicate (width - digits.length) '0' ++ digits

/-- The characters of `$'…'` up to its end, and what follows it. -/
def ansiQuoted : Nat → List Char → List Char → Option (List Char × List Char)
  | 0, _, _ => none
  | _, _, [] => none
  | _, read, '\x27' :: rest => some (read.reverse, rest)
  | fuel + 1, read, '\\' :: c :: rest =>
    let byte := fun (n : Nat) => Char.ofNat (n % 256)
    let coded := fun (base most : Nat) (cs : List Char) =>
      match digitsIn base most cs with
      | some (n, rest) => ansiQuoted fuel (byte n :: read) rest
      | none => ansiQuoted fuel (c :: '\\' :: read) rest
    let encoded := fun (most : Nat) =>
      match digitsIn 16 most rest with
      | some (n, rest) =>
        ansiQuoted fuel ((codeText n).reverse ++ read) rest
      | none => ansiQuoted fuel (c :: '\\' :: read) rest
    match c with
    | 'n' => ansiQuoted fuel ('\n' :: read) rest
    | 't' => ansiQuoted fuel ('\t' :: read) rest
    | 'r' => ansiQuoted fuel ('\r' :: read) rest
    | 'a' => ansiQuoted fuel (byte 7 :: read) rest
    | 'b' => ansiQuoted fuel (byte 8 :: read) rest
    | 'e' => ansiQuoted fuel (byte 27 :: read) rest
    | 'E' => ansiQuoted fuel (byte 27 :: read) rest
    | 'f' => ansiQuoted fuel (byte 12 :: read) rest
    | 'v' => ansiQuoted fuel (byte 11 :: read) rest
    | 'x' => coded 16 2 rest
    | 'u' => encoded 4
    | 'U' => encoded 8
    | _ =>
      if "\\'\x22?".toList.contains c then ansiQuoted fuel (c :: read) rest
      else if '0' ≤ c && c ≤ '7' then coded 8 3 (c :: rest)
      else ansiQuoted fuel (c :: '\\' :: read) rest
  | fuel + 1, read, c :: rest => ansiQuoted fuel (c :: read) rest

/-! ## Scripts within words -/

/-- The text up to a back quote that is not escaped, with the escapes in it undone, and what
follows. Within double quotes a double quote may be escaped too. -/
def backQuoted (inQuotes : Bool) : List Char → List Char → Option (List Char × List Char)
  | _, [] => none
  | read, '\\' :: c :: cs =>
    if c == '\x60' || c == '\\' || c == '$' || (inQuotes && c == '\x22') then
      backQuoted inQuotes (c :: read) cs
    else backQuoted inQuotes (c :: '\\' :: read) cs
  | read, c :: cs =>
    if c == '\x60' then some (read.reverse, cs) else backQuoted inQuotes (c :: read) cs

/-- What reads scripts within words: one up to a closing parenthesis, and one to the end of a
text. -/
structure Inner where
  closed : Read Node
  whole : Read Node

/-- A script in back quotes, after the first of them. -/
def backQuote (inner : Inner) (inQuotes : Bool) : Read Piece := do
  let s ← get
  match backQuoted inQuotes [] s.rest with
  | none =>
    failAt (if s.rich then s.line else s.line + s.rest.count '\n') "EOF in backquote substitution"
      (unmatched "\x60")
  | some (text, rest) =>
    skip (s.rest.length - rest.length)
    return .output inQuotes 1 (← within text 1 inner.whole)

/-! ## Words -/

/-- What began on a line is never closed. A plain shell finds out at the end. -/
def neverClosed {α : Type} (line : Nat) (plain rich : String) : Read α := do
  let s ← get
  failAt (if s.rich then line else s.line + s.rest.count '\n') plain rich

/-- A quote, a brace or a bracket is never closed. -/
def unclosed {α : Type} (u : Until) (line : Nat) : Read α := do
  let rich := match u with
    | .quote => unmatched "\x22"
    | .brace _ => unmatched "\x7d"
    | _ => unmatched "]"
  let plain := match u with
    | .brace false => "Missing '\x7d'"
    | _ => "Unterminated quoted string"
  neverClosed line plain rich

/-- The name of a parameter between braces: a name, a number or a sign. -/
def paramName : Read String := do
  match ← peek? with
  | none => return ""
  | some c =>
    if c.isDigit then takeWhile Char.isDigit
    else if isNameChar c then takeWhile isNameChar
    else if isSign c then
      skip 1
      return String.singleton c
    else return ""

mutual

/-- The pieces of a text up to its end. -/
def pieces (inner : Inner) (u : Until) (line fuel : Nat) : Read Word :=
  match fuel with
  | 0 => unclosed u line
  | fuel + 1 => do
    match ← peek? with
    | none => if u.isTaken then unclosed u line else return []
    | some c =>
      if u.ends c then
        if u.isTaken then skip 1
        return []
      let front ← piece inner u fuel c
      return front ++ (← pieces inner u line fuel)
termination_by structural fuel

/-- The pieces that begin with a character, which is not taken yet. -/
def piece (inner : Inner) (u : Until) (fuel : Nat) (c : Char) : Read Word :=
  match fuel with
  | 0 => unclosed u 0
  | fuel + 1 => do
    if u.isPlain c then return [textPiece u.isQuoted (← takeWhile u.isPlain)]
    skip 1
    let line := (← get).line
    if c == '\x27' then
      let text ← takeWhile fun d => d != '\x27'
      if (← peek?).isNone then neverClosed line "Unterminated quoted string" (unmatched "'")
      skip 1
      return [.quoted text]
    else if c == '\x22' then
      let inside ← pieces inner .quote line fuel
      return if inside.isEmpty then [.quoted ""] else inside
    else if c == '\x60' then return [← backQuote inner u.isQuoted]
    else if c == '$' then dollar inner u fuel
    else
      match ← peek? with
      | none => return [.quoted "\\"]
      | some '\n' =>
        skip 1
        return []
      | some d =>
        skip 1
        if u.isQuoted && !u.isEscaped d then return [.quoted (String.ofList ['\\', d])]
        else return [.quoted (String.singleton d)]
termination_by structural fuel

/-- What a dollar sign begins. A sign that begins nothing is text. -/
def dollar (inner : Inner) (u : Until) (fuel : Nat) : Read Word :=
  match fuel with
  | 0 => unclosed u 0
  | fuel + 1 => do
    let s ← get
    let inQuotes := u.isQuoted
    match s.rest with
    | '(' :: '(' :: _ =>
      let sum : Read Word := do
        skip 2
        return [.sum inQuotes (← sumText inner s.line 0 fuel)]
      if s.rich then
        match ← attempt sum with
        | some word => return word
        | none => skip 1
      else return ← sum
      return [.output inQuotes s.line (← inner.closed)]
    | '(' :: _ =>
      skip 1
      return [.output inQuotes s.line (← inner.closed)]
    | '\x7b' :: _ =>
      skip 1
      return [← braced inner inQuotes s.line fuel]
    | c :: rest =>
      if isSign c || c.isDigit then
        skip 1
        return [.param inQuotes (String.singleton c) none .bare]
      else if isNameChar c then return [.param inQuotes (← takeWhile isNameChar) none .none]
      else if s.rich && !inQuotes && c == '\x27' then
        match ansiQuoted (rest.length + 1) [] rest with
        | some (text, left) =>
          skip (s.rest.length - left.length)
          return [.quoted (String.ofList text)]
        | none => failAt s.line "" (unmatched "'")
      else if s.rich && !inQuotes && c == '\x22' then return []
      else return [textPiece inQuotes "$"]
    | [] => return [textPiece inQuotes "$"]
termination_by structural fuel

/-- The text of a sum up to its two closing parentheses; `depth` counts those open in it. -/
def sumText (inner : Inner) (line depth fuel : Nat) : Read Word :=
  match fuel with
  | 0 => unclosed .quote line
  | fuel + 1 => do
    match ← peek? with
    | none => neverClosed line "Missing '))'" (unmatched ")")
    | some c =>
      let taken := fun (depth : Nat) (text : String) => do
        skip 1
        let rest ← sumText inner line depth fuel
        return if text == "" then rest else Piece.plain text :: rest
      if c == '(' then taken (depth + 1) "("
      else if c == ')' then
        if depth > 0 then taken (depth - 1) ")"
        else if (← peekSecond?) == some ')' then
          skip 2
          return []
        else if (← get).rich then fail "" ""
        else taken 0 ")"
      else if c == '\x22' then taken depth ""
      else if c == '$' || c == '\x60' || c == '\\' then
        let front ← piece inner .finish fuel c
        return front ++ (← sumText inner line depth fuel)
      else
        let text ← takeWhile fun d => !"()\x22$\x60\\".toList.contains d
        return .plain text :: (← sumText inner line depth fuel)
termination_by structural fuel

/-- A parameter between braces, after the first of them. -/
def braced (inner : Inner) (inQuotes : Bool) (line fuel : Nat) : Read Piece :=
  match fuel with
  | 0 => unclosed (.brace inQuotes) line
  | fuel + 1 => do
    let s ← get
    let next := s.rest[1]?
    if s.rest.head? == some '#' && next != some '\x7d' then
      let isSize ← attempt do
        skip 1
        let name ← paramName
        if name == "" then fail "" ""
        let index ← indexOf inner fuel
        if !(← takeIf "\x7d") then fail "" ""
        return Piece.size inQuotes name index
      if let some piece := isSize then return piece
    if s.rich && s.rest.head? == some '!' && (next.map fun c => isNameChar c || isSign c).getD false
        && next != some '-' then
      skip 1
      let name ← paramName
      for sign in ["@", "*"] do
        if ← takeIf ("[" ++ sign ++ "]\x7d") then return .keys inQuotes name sign
        if ← takeIf (sign ++ "\x7d") then return .names inQuotes name sign
      let index ← indexOf inner fuel
      return .through inQuotes name index (← changeOf inner inQuotes line fuel)
    let name ← paramName
    let index ← indexOf inner fuel
    let change ← changeOf inner inQuotes line fuel
    let isBad := match change with
      | .bad _ => true
      | _ => name == ""
    let text := String.ofList (s.rest.take (s.rest.length - (← get).rest.length))
    return .param inQuotes name index (if isBad then .bad ("$\x7b" ++ text) else change)
termination_by structural fuel

/-- The index of an element, if one comes next. -/
def indexOf (inner : Inner) (fuel : Nat) : Read (Option Word) :=
  match fuel with
  | 0 => return none
  | fuel + 1 => do
    let s ← get
    if s.rich && s.rest.head? == some '[' then
      skip 1
      return some (← pieces inner .bracket s.line fuel)
    else return none
termination_by structural fuel

/-- The change of a parameter, with the closing brace. -/
def changeOf (inner : Inner) (inQuotes : Bool) (line fuel : Nat) : Read Change :=
  match fuel with
  | 0 => unclosed (.brace inQuotes) line
  | fuel + 1 => do
    let s ← get
    let word := fun (quoted : Bool) => pieces inner (.brace quoted) line fuel
    let after := fun (n : Nat) (quoted : Bool) => do
      skip n
      word quoted
    let emptyToo := s.rest.head? == some ':'
    let start := if emptyToo then 1 else 0
    match s.rest.drop start with
    | '-' :: _ => return .orElse emptyToo false (← after (start + 1) inQuotes)
    | '=' :: _ => return .orElse emptyToo true (← after (start + 1) inQuotes)
    | '?' :: _ => return .orFail emptyToo (← after (start + 1) inQuotes)
    | '+' :: _ => return .ifSet emptyToo (← after (start + 1) inQuotes)
    | _ =>
      match s.rest with
      | '\x7d' :: _ =>
        skip 1
        return .none
      | '#' :: '#' :: _ => return .withoutFront true (← after 2 false)
      | '#' :: _ => return .withoutFront false (← after 1 false)
      | '%' :: '%' :: _ => return .withoutEnd true (← after 2 false)
      | '%' :: _ => return .withoutEnd false (← after 1 false)
      | _ =>
        if !s.rich then
          modify fun s => { s with rest := s.rest.drop (start + 1) }
          let _ ← word inQuotes
          return .bad ""
        match s.rest with
        | ':' :: _ =>
          let whole ← after 1 false
          match Word.cutAt ':' whole with
          | some (first, length) => return .slice first (some length)
          | none => return .slice whole none
        | '/' :: c :: _ =>
          let sign := if c == '/' || c == '#' || c == '%' then String.singleton c else ""
          let whole ← after (1 + sign.length) false
          match Word.cutAt '/' whole with
          | some (pattern, other) => return .replace sign pattern other
          | none => return .replace sign whole []
        | '^' :: '^' :: _ => return .letters true true (← after 2 false)
        | '^' :: _ => return .letters true false (← after 1 false)
        | ',' :: ',' :: _ => return .letters false true (← after 2 false)
        | ',' :: _ => return .letters false false (← after 1 false)
        | '@' :: c :: '\x7d' :: _ =>
          skip 3
          return .shown c
        | _ =>
          let _ ← word inQuotes
          return .bad ""

termination_by structural fuel

end

/-- A whole text as one word, in which only dollar signs, back quotes and backslashes mean
something. -/
def insetWord (inner : Inner) (text : String) : Read Word :=
  within text.toList 1 do pieces inner .finish 1 (← fuel)

end ApkForge.Script.Read
