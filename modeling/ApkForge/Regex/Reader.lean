-- Regular expressions as they are written. In the basic form the signs of groups, alternatives and
-- counts follow a backslash; in the extended form they stand alone.
import ApkForge.Regex.Basic

namespace ApkForge.Regex

/-- What is wrong with an expression. -/
inductive Fault where
  | invalid
  | bracket
  | group
  | closing
  | brace
  | braceContent
  | again
  | trailing
  | nothingBefore
  | className
  | range
deriving DecidableEq, Repr, Inhabited

/-- The words for what is wrong with an expression. -/
def Fault.words : Fault → String
  | .invalid => "Invalid regular expression"
  | .bracket => "Unmatched [, [^, [:, [., or [="
  | .group => "Unmatched ( or \\("
  | .closing => "Unmatched ) or \\)"
  | .brace => "Unmatched \\\x7b"
  | .braceContent => "Invalid content of \\\x7b\\\x7d"
  | .again => "Invalid back reference"
  | .trailing => "Trailing backslash"
  | .nothingBefore => "Invalid preceding regular expression"
  | .className => "Invalid character class name"
  | .range => "Invalid range end"

/-! ## Sets of characters -/

/-- The ranges of the classes of characters that have names. -/
def classes : List (String × List (Char × Char)) :=
  [("alpha", [('a', 'z'), ('A', 'Z')]), ("digit", [('0', '9')]),
    ("alnum", [('a', 'z'), ('A', 'Z'), ('0', '9')]), ("upper", [('A', 'Z')]),
    ("lower", [('a', 'z')]), ("space", [(' ', ' '), ('\t', '\r')]),
    ("blank", [(' ', ' '), ('\t', '\t')]),
    ("punct", [('!', '/'), (':', '@'), ('[', '\x60'), ('\x7b', '~')]),
    ("print", [(' ', '~')]), ("graph", [('!', '~')]),
    ("cntrl", [('\x00', '\x1f'), ('\x7f', '\x7f')]),
    ("xdigit", [('0', '9'), ('a', 'f'), ('A', 'F')])]

/-- The name between `[:` and `:]`, or another such pair of signs, and what follows it. -/
def enclosedName (sign : Char) : List Char → Option (List Char × List Char)
  | [] => none
  | [_] => none
  | a :: b :: rest =>
    if a == sign && b == ']' then some ([], rest)
    else (enclosedName sign (b :: rest)).map fun (name, rest) => (a :: name, rest)

/-- One end of a range in brackets. A backslash begins an escape only where `escapes` knows it. -/
def rangeEnd (escapes : Char → Option Char) : List Char → Option (Char × List Char)
  | '[' :: '.' :: rest => (enclosedName '.' rest).bind fun (name, rest) =>
      name.head?.map fun c => (c, rest)
  | '\\' :: c :: rest =>
    match escapes c with
    | some d => some (d, rest)
    | none => some ('\\', c :: rest)
  | c :: rest => some (c, rest)
  | [] => none

/-- The ranges between brackets, and what follows them. A closing bracket that comes first is one of
the characters. -/
def bracketRanges (escapes : Char → Option Char) :
    Nat → Bool → List (Char × Char) → List Char → Except Fault (List (Char × Char) × List Char)
  | 0, _, _, _ => .error .bracket
  | _, _, _, [] => .error .bracket
  | fuel + 1, first, read, c :: cs =>
    if c == ']' && !first then .ok (read, cs)
    else if c == '[' && cs.head? == some ':' then
      match enclosedName ':' cs.tail with
      | some (name, rest) =>
        match classes.lookup (String.ofList name) with
        | some ranges => bracketRanges escapes fuel false (read ++ ranges) rest
        | none => .error .className
      | none => .error .bracket
    else if c == '[' && cs.head? == some '=' then
      match enclosedName '=' cs.tail with
      | some (name, rest) =>
        bracketRanges escapes fuel false (read ++ name.map fun d => (d, d)) rest
      | none => .error .bracket
    else match rangeEnd escapes (c :: cs) with
      | none => .error .bracket
      | some (low, '-' :: d :: rest) =>
        if d == ']' then bracketRanges escapes fuel false (read ++ [(low, low)]) ('-' :: d :: rest)
        else match rangeEnd escapes (d :: rest) with
          | none => .error .bracket
          | some (high, rest) =>
            if high < low then .error .range
            else bracketRanges escapes fuel false (read ++ [(low, high)]) rest
      | some (low, rest) => bracketRanges escapes fuel false (read ++ [(low, low)]) rest

/-- The set after an opening bracket, and what follows it. -/
def bracketSet (escapes : Char → Option Char) (cs : List Char) :
    Except Fault (CharSet × List Char) := do
  let (negated, cs) := match cs with
    | '^' :: rest => (true, rest)
    | _ => (false, cs)
  if cs.isEmpty then throw .invalid
  let (ranges, rest) ← bracketRanges escapes (cs.length + 1) true [] cs
  return (⟨negated, ranges⟩, rest)

/-! ## Expressions -/

/-- The form that an expression is written in. Escapes may stand for characters, in brackets too. A
strict form has no place for a count after nothing or after another count, nor for a closing sign
that was never opened. -/
structure Form where
  extended : Bool
  escapes : Char → Option Char := fun _ => none
  inBrackets : Bool := false
  strict : Bool := false

/-- A piece of an expression: a sign with a meaning, or a character or set. -/
inductive Sign where
  | opens
  | closes
  | bar
  | star
  | plus
  | question
  | brace
  | caret
  | dollar
  | item (e : Regex)
deriving DecidableEq, Repr, Inhabited

/-- What a letter after a backslash stands for in both forms. -/
def letterItem? : Char → Option Regex
  | 'w' => some (.one ⟨false, [('a', 'z'), ('A', 'Z'), ('0', '9'), ('_', '_')]⟩)
  | 'W' => some (.one ⟨true, [('a', 'z'), ('A', 'Z'), ('0', '9'), ('_', '_')]⟩)
  | 's' => some (.one ⟨false, [(' ', ' '), ('\t', '\r')]⟩)
  | 'S' => some (.one ⟨true, [(' ', ' '), ('\t', '\r')]⟩)
  | 'b' => some (.edge true true)
  | 'B' => some .noEdge
  | '<' => some (.edge true false)
  | '>' => some (.edge false true)
  | '\x60' => some .start
  | '\x27' => some .finish
  | _ => none

/-- The sign that a character is in the extended form. -/
def signOf? : Char → Option Sign
  | '(' => some .opens
  | ')' => some .closes
  | '|' => some .bar
  | '+' => some .plus
  | '?' => some .question
  | '\x7b' => some .brace
  | _ => none

/-- The next piece of an expression, and what follows it. -/
def nextSign (form : Form) : List Char → Except Fault (Sign × List Char)
  | [] => .error .trailing
  | '\\' :: [] => .error .trailing
  | '\\' :: c :: rest =>
    match form.escapes c with
    | some d => .ok (.item (.one (.single d)), rest)
    | none =>
      if c.isDigit && c != '0' then .ok (.item (.again (c.toNat - '0'.toNat)), rest)
      else match letterItem? c, if form.extended then none else signOf? c with
        | _, some sign => .ok (sign, rest)
        | some item, none => .ok (.item item, rest)
        | none, none => .ok (.item (.one (.single c)), rest)
  | '[' :: rest => do
    let (set, rest) ← bracketSet (if form.inBrackets then form.escapes else fun _ => none) rest
    return (.item (.one set), rest)
  | '.' :: rest => .ok (.item (.one .all), rest)
  | '*' :: rest => .ok (.star, rest)
  | '^' :: rest => .ok (.caret, rest)
  | '$' :: rest => .ok (.dollar, rest)
  | c :: rest =>
    match if form.extended then signOf? c else none with
    | some sign => .ok (sign, rest)
    | none => .ok (.item (.one (.single c)), rest)

/-- The numbers of a count, after its opening brace, and what follows its closing one. -/
def count (form : Form) (cs : List Char) : Except Fault (Nat × Option Nat × List Char) :=
  let number := fun (cs : List Char) => (String.ofList (cs.takeWhile Char.isDigit)).toNat?
  let low := number cs
  let rest := cs.dropWhile Char.isDigit
  let (high, rest) := match rest with
    | ',' :: more => (number more, more.dropWhile Char.isDigit)
    | _ => (low, rest)
  let closed := match rest with
    | '\x7d' :: rest => if form.extended then some rest else none
    | '\\' :: '\x7d' :: rest => if form.extended then none else some rest
    | _ => none
  match closed with
  | none => .error (if rest.isEmpty then .brace else .braceContent)
  | some rest =>
    if low.isNone && cs.head? != some ',' then .error .braceContent
    else if (high.map fun h => decide (h < low.getD 0)).getD false then .error .braceContent
    else .ok (low.getD 0, high, rest)

/-- An anchor at the end of the basic form stands before the end, a closing sign or a bar. -/
def endsHere (form : Form) (cs : List Char) : Bool :=
  cs.isEmpty || match nextSign form cs with
    | .ok (.closes, _) => true
    | .ok (.bar, _) => true
    | _ => false

/-- What is read of a branch: its parts, the last first, and the number of the next group. -/
structure Branch where
  parts : List Regex := []
  nextGroup : Nat
deriving Inhabited

/-- The parts of a branch one after the other. -/
def Branch.whole (b : Branch) : Regex := b.parts.foldl (fun r p => .both p r) .empty

/-- The last part of a branch taken so many times. -/
def Branch.repeated (b : Branch) (least : Nat) (most : Option Nat) : Option Branch :=
  match b.parts with
  | p :: ps => some { b with parts := .turns p least most :: ps }
  | [] => none

/-- The last part of a branch is taken several times. -/
def Branch.endsInTurns (b : Branch) : Bool :=
  match b.parts with
  | .turns _ _ _ :: _ => true
  | _ => false

mutual

/-- Alternatives up to a closing sign or the end, with the number of the next group, and the
rest. -/
def readAlternatives (form : Form) (inGroup : Bool) :
    Nat → Nat → List Char → Except Fault (Regex × Nat × List Char)
  | 0, _, _ => .error .group
  | fuel + 1, nextGroup, cs => do
    let (branch, rest) ← readBranch form inGroup fuel { nextGroup } cs
    if rest.isEmpty then return (branch.whole, branch.nextGroup, rest)
    match ← nextSign form rest with
    | (.bar, more) =>
      let (other, nextGroup, rest) ← readAlternatives form inGroup fuel branch.nextGroup more
      return (.either branch.whole other, nextGroup, rest)
    | _ => return (branch.whole, branch.nextGroup, rest)

/-- A branch up to a bar, a closing sign or the end. -/
def readBranch (form : Form) (inGroup : Bool) :
    Nat → Branch → List Char → Except Fault (Branch × List Char)
  | 0, _, _ => .error .group
  | _, b, [] => .ok (b, [])
  | fuel + 1, b, c :: cs => do
    let add := fun (b : Branch) (e : Regex) => { b with parts := e :: b.parts }
    let plain := fun (d : Char) (rest : List Char) =>
      readBranch form inGroup fuel (add b (.one (.single d))) rest
    let times := fun (least : Nat) (most : Option Nat) (rest : List Char) =>
      match b.repeated least most with
      | some r =>
        if form.strict && !form.extended && b.endsInTurns then throw .nothingBefore
        else readBranch form inGroup fuel r rest
      | none =>
        if !form.extended then plain c rest
        else if form.strict then throw .nothingBefore
        else readBranch form inGroup fuel b rest
    let (sign, rest) ← nextSign form (c :: cs)
    match sign with
    | .bar => return (b, c :: cs)
    | .closes =>
      if inGroup then return (b, c :: cs)
      else if form.extended && !form.strict then plain ')' rest
      else throw .closing
    | .opens =>
      let number := b.nextGroup
      let (body, nextGroup, rest) ← readAlternatives form true fuel (number + 1) rest
      if rest.isEmpty then throw .group
      let (closing, rest) ← nextSign form rest
      if closing != .closes then throw .group
      readBranch form inGroup fuel { add b (.group number body) with nextGroup } rest
    | .star => times 0 none rest
    | .plus => times 1 none rest
    | .question => times 0 (some 1) rest
    | .brace =>
      match count form rest with
      | .ok (least, most, rest) =>
        if b.parts.isEmpty && !form.extended then throw .nothingBefore
        else times least most rest
      | .error fault =>
        if form.extended && (fault == .braceContent || fault == .brace) then plain '\x7b' rest
        else throw fault
    | .caret =>
      if form.extended || b.parts.isEmpty then readBranch form inGroup fuel (add b .start) rest
      else plain '^' rest
    | .dollar =>
      if form.extended || endsHere form rest then readBranch form inGroup fuel (add b .finish) rest
      else plain '$' rest
    | .item (.again n) =>
      if n ≥ b.nextGroup then throw .again
      else readBranch form inGroup fuel (add b (.again n)) rest
    | .item e => readBranch form inGroup fuel (add b e) rest

end

/-- In the basic form a star that comes first stands for itself. So does one after an anchor. -/
def starFirst : List Char → List Char
  | '*' :: rest => '\\' :: '*' :: rest
  | '^' :: '*' :: rest => '^' :: '\\' :: '*' :: rest
  | '\\' :: '(' :: '*' :: rest => '\\' :: '(' :: '\\' :: '*' :: starFirst rest
  | '\\' :: '(' :: '^' :: '*' :: rest => '\\' :: '(' :: '^' :: '\\' :: '*' :: starFirst rest
  | '\\' :: '|' :: '*' :: rest => '\\' :: '|' :: '\\' :: '*' :: starFirst rest
  | cs => cs

/-- The expression that a text is. -/
def read (form : Form) (text : String) : Except Fault Regex := do
  let cs := if form.extended then text.toList else starFirst text.toList
  let (e, _, _) ← readAlternatives form false (2 * cs.length + 2) 1 cs
  return e

/-- The expression of a text in the basic form. -/
def ofBasic (text : String) : Except Fault Regex := read { extended := false } text

/-- The expression of a text in the extended form. -/
def ofExtended (text : String) : Except Fault Regex := read { extended := true } text

end ApkForge.Regex
