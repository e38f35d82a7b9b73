-- Reading the language of the program that edits lines. A mistake is told with the number of
-- characters that were read up to it.
import ApkForge.Script.Edit.Node
import ApkForge.Script.Number
import ApkForge.Script.Octet

namespace ApkForge.Script.Edit

/-! ## Reading on -/

/-- What is still to be read, and how many characters were. -/
structure Cursor where
  rest : List Char
  count : Nat := 0
deriving Inhabited

/-- What is wrong with a text, and how many characters were read up to it. -/
structure Fault where
  count : Nat
  words : String
deriving Inhabited

/-- Reading that may fail. -/
abbrev Reading (α : Type) := StateT Cursor (Except Fault) α

/-- Reading fails here. -/
def fail {α : Type} (words : String) : Reading α := do throw ⟨(← get).count, words⟩

/-- So many characters are taken. -/
def skip (n : Nat) : Reading Unit :=
  modify fun c => ⟨c.rest.drop n, c.count + min n c.rest.length⟩

/-- The next character, if there is one. -/
def next : Reading (Option Char) := do
  let c := (← get).rest.head?
  skip 1
  return c

/-- The characters that fit in front. -/
def while_ (fits : Char → Bool) : Reading (List Char) := do
  let cs := (← get).rest.takeWhile fits
  skip cs.length
  return cs

/-- Blanks are passed over. -/
def blanks : Reading Unit := do let _ ← while_ Octet.isBlank

/-- The next character after blanks. -/
def nextFilled : Reading (Option Char) := do
  blanks
  next

/-- The next character is looked at. -/
def peek : Reading (Option Char) := return (← get).rest.head?

/-- A number. -/
def number : Reading Nat := do
  return (String.ofList (← while_ Char.isDigit)).toNat?.getD 0

/-! ## Texts between signs -/

/-- The characters of brackets up to the closing one, with it. -/
def bracketed : Nat → List Char → List Char → List Char
  | 0, read, _ => read
  | _, read, [] => read
  | fuel + 1, read, c :: cs =>
    let named := fun (sign : Char) =>
      let name := cs.tail.takeWhile (· != sign)
      bracketed fuel (read ++ c :: sign :: name ++ [sign]) (cs.drop (name.length + 2))
    if c == '\n' then read
    else if c == ']' then read ++ [c]
    else if c == '[' && (cs.head? == some ':' || cs.head? == some '.' || cs.head? == some '=') then
      named (cs.headD ':')
    else bracketed fuel (read ++ [c]) cs

/-- The brackets in front of a text as a whole, after the opening one. A closing one that comes
first is one of the characters. -/
def brackets (cs : List Char) : List Char :=
  let front := match cs with
    | '^' :: ']' :: _ => ['^', ']']
    | '^' :: _ => ['^']
    | ']' :: _ => [']']
    | _ => []
  bracketed (cs.length + 1) front (cs.drop front.length)

/-- A text up to a sign that is not escaped, with how many characters it took; none if the sign does
not come on the line. In expressions brackets are kept whole. -/
def upTo (sign : Char) (isExpression : Bool) :
    Nat → List Char → List Char → Option (List Char × Nat)
  | 0, _, _ => none
  | _, _, [] => none
  | fuel + 1, read, c :: cs =>
    let more := fun (taken : List Char) (n : Nat) (rest : List Char) =>
      (upTo sign isExpression fuel (taken.reverse ++ read) rest).map fun (cs, m) => (cs, m + n)
    if c == sign then some (read.reverse, 1)
    else if c == '\n' then none
    else if c == '\\' then
      match cs with
      | [] => none
      | d :: rest =>
        if d == '\n' && isExpression then more ['\n'] 2 rest
        else if d == 'n' && isExpression && d != sign then more ['\\', 'n'] 2 rest
        else if d == sign && !(d == '&' && !isExpression) then more [d] 2 rest
        else more [c, d] 2 rest
    else if c == '[' && isExpression then
      let inside := brackets cs
      more (c :: inside) (inside.length + 1) (cs.drop inside.length)
    else more [c] 1 cs

/-- A text up to a sign. -/
def textUpTo (sign : Char) (isExpression : Bool) : Reading (Option (List Char)) := do
  let c ← get
  match upTo sign isExpression (c.rest.length + 1) [] c.rest with
  | some (cs, n) =>
    skip n
    return some cs
  | none =>
    let _ ← while_ fun ch => ch != '\n' || c.rest.isEmpty
    return none

/-! ## Escapes -/

/-- What a letter after a backslash stands for. -/
def escape? : Char → Option Char
  | 'n' => some '\n'
  | 't' => some '\t'
  | 'f' => some '\x0c'
  | 'v' => some '\x0b'
  | 'a' => some '\x07'
  | 'r' => some '\r'
  | _ => none

/-- The digits of an escape by number: in which base, and how many at most. -/
def numbered? : Char → Option (Nat × Nat)
  | 'd' => some (10, 3)
  | 'o' => some (8, 3)
  | 'x' => some (16, 2)
  | _ => none

/-- Escapes by number become characters; one with a meaning of its own keeps a backslash. -/
def withNumbers (special : List Char) : Nat → List Char → List Char
  | 0, cs => cs
  | _, [] => []
  | fuel + 1, '\\' :: d :: rest =>
    match numbered? d with
    | none => '\\' :: d :: withNumbers special fuel rest
    | some (base, most) =>
      let digits := (rest.take most).takeWhile (Number.isDigitIn base)
      if digits.isEmpty then '\\' :: d :: withNumbers special fuel rest
      else
        let c := Char.ofNat (Number.ofDigits base digits % 256)
        (if special.contains c then ['\\', c] else [c]) ++
          withNumbers special fuel (rest.drop digits.length)
  | fuel + 1, c :: rest => c :: withNumbers special fuel rest

/-- An expression from its text. -/
def sought (extended folds byLine : Bool) (cs : List Char) : Reading Sought := do
  if cs.isEmpty then return { expression := none, folds, byLine }
  let cs := withNumbers "*.[]^$\\+?()\x7b\x7d|/".toList (cs.length + 1) cs
  let form : Regex.Form := { extended, escapes := escape?, inBrackets := true, strict := true }
  match Regex.read form (String.ofList cs) with
  | .ok e => return { expression := some e, folds, byLine }
  | .error fault => fail fault.words

/-- The pieces of a text that takes the place of a match. -/
def pieces : Nat → List Char → List Piece
  | 0, _ => []
  | _, [] => []
  | fuel + 1, '&' :: rest => .group 0 :: pieces fuel rest
  | fuel + 1, '\\' :: d :: rest =>
    if d.isDigit then .group (d.toNat - '0'.toNat) :: pieces fuel rest
    else if "ULElu".toList.contains d then .cases d :: pieces fuel rest
    else .text [(escape? d).getD d] :: pieces fuel rest
  | fuel + 1, c :: rest => .text [c] :: pieces fuel rest

/-! ## Lines -/

/-- The flags after an expression of an address: whether cases do not count, and whether lines have
ends of their own. -/
def addressFlags : Nat → Bool → Bool → Reading (Bool × Bool)
  | 0, folds, byLine => return (folds, byLine)
  | fuel + 1, folds, byLine => do
    let before ← get
    match ← nextFilled with
    | some 'I' => addressFlags fuel true byLine
    | some 'M' => addressFlags fuel folds true
    | _ =>
      set before
      return (folds, byLine)

/-- A spot in front of what is read, if one is there. -/
def spot? (extended : Bool) : Reading (Option Spot) := do
  let before ← get
  match ← nextFilled with
  | some '$' => return some .last
  | some c =>
    if c == '/' || c == '\\' then
      let sign ← if c == '/' then pure (some '/') else next
      match sign with
      | none => fail "unterminated address regex"
      | some sign =>
        match ← textUpTo sign true with
        | none => fail "unterminated address regex"
        | some cs =>
          let (folds, byLine) ← addressFlags 5 false false
          return some (.having (← sought extended folds byLine cs))
    else if c.isDigit then
      set before
      blanks
      let first ← number
      let here ← get
      if (← nextFilled) == some '~' then
        blanks
        let step ← number
        return some (if step == 0 then .line first else .every first step)
      set here
      return some (.line first)
    else if c == '+' || c == '~' then fail "invalid usage of +N or ~N as first address"
    else
      set before
      return none
  | none => return none

/-- Where a stretch of lines ends. -/
def finish (extended : Bool) : Reading Finish := do
  let before ← get
  match ← nextFilled with
  | some '+' =>
    blanks
    return .after (← number)
  | some '~' =>
    blanks
    return .multiple (← number)
  | _ =>
    set before
    match ← spot? extended with
    | some s => return .spot s
    | none =>
      blanks
      fail "unexpected \x60,'"

/-- The lines that a command is meant for, and the character that follows. -/
def lines (extended : Bool) : Reading (Lines × Option Char) := do
  match ← spot? extended with
  | none => return ({}, ← nextFilled)
  | some first =>
    let c ← nextFilled
    let (finish?, c) ← if c == some ',' then do
        let f ← finish extended
        pure (some f, ← nextFilled)
      else pure (none, c)
    let isZero := match first with
      | .line 0 => true
      | _ => false
    let mayBeZero := match finish? with
      | some (.spot (.having _)) => true
      | _ => false
    if isZero && !mayBeZero then fail "invalid usage of line address 0"
    if c == some '!' then
      let c ← nextFilled
      if c == some '!' then fail "multiple \x60!'s"
      return ({ first := some first, finish := finish?, negated := true }, c)
    return ({ first := some first, finish := finish? }, c)

/-! ## Commands -/

/-- A command has ended. -/
def ended : Reading Unit := do
  let before ← get
  match ← nextFilled with
  | none => return ()
  | some '\n' => return ()
  | some ';' => return ()
  | some '}' => set before
  | some '#' => set before
  | some _ => fail "extra characters after command"

/-- The text of a command up to the end of its line. A backslash keeps the end of a line, or
begins an escape. -/
def ownText : Nat → List Char → Reading (List Char)
  | 0, read => return read.reverse
  | fuel + 1, read => do
    match ← next with
    | none => return read.reverse
    | some '\n' => return ('\n' :: read).reverse
    | some '\\' =>
      match ← next with
      | none => return read.reverse
      | some c => ownText fuel ((escape? c).getD c :: read)
    | some c => ownText fuel (c :: read)

/-- The text that a command adds: on its own line, or on the lines after a backslash. -/
def addedText : Reading String := do
  let c ← nextFilled
  if c.isNone then fail "expected \\ after \x60a', \x60c' or \x60i'"
  if c == some '\\' then
    let before ← get
    blanks
    if (← peek) == some '\n' then
      skip 1
      if (← peek).isNone then return "\n"
    else set before
    if (← peek).isNone then return ""
  else modify fun cur => ⟨c.toList ++ cur.rest, cur.count - 1⟩
  let length := (← get).rest.length
  let cs ← ownText (length + 1) []
  let text := String.ofList cs
  return if Text.endsWith "\n" text then text else text ++ "\n"

/-- A label up to a blank or a semicolon. -/
def labelName (endsAtBrace : Bool) : Reading String := do
  blanks
  let cs ← while_ fun c => !Octet.isSpace c && c != ';' && !(endsAtBrace && c == '}')
  return String.ofList cs

/-- The name of a file up to the end of the line. -/
def pathName : Reading String := do
  blanks
  let cs ← while_ (· != '\n')
  skip 1
  if cs.isEmpty then fail "missing filename in r/R/w/W commands"
  return String.ofList cs

/-- The flags of a substitution. -/
def flags : Nat → Substitution → Bool → Reading Substitution
  | 0, s, _ => return s
  | fuel + 1, s, hasNumber => do
    let before ← get
    match ← next with
    | none => return s
    | some c =>
      match c with
      | 'g' =>
        if s.all then fail "multiple \x60g' options to \x60s' command"
        flags fuel { s with all := true } hasNumber
      | 'p' =>
        if s.shows > 0 then fail "multiple \x60p' options to \x60s' command"
        flags fuel { s with shows := 1 } hasNumber
      | 'i' => flags fuel { s with what := { s.what with folds := true } } hasNumber
      | 'I' => flags fuel { s with what := { s.what with folds := true } } hasNumber
      | 'm' => flags fuel { s with what := { s.what with byLine := true } } hasNumber
      | 'M' => flags fuel { s with what := { s.what with byLine := true } } hasNumber
      | 'e' => flags fuel s hasNumber
      | ' ' => flags fuel s hasNumber
      | 'w' =>
        let path ← pathName
        return { s with file := some path }
      | '\n' => return s
      | ';' => return s
      | '}' =>
        set before
        return s
      | '#' =>
        set before
        return s
      | _ =>
        if c.isDigit then
          set before
          let n ← number
          if n == 0 then fail "number option to \x60s' command may not be zero"
          if hasNumber then fail "multiple number options to \x60s' command"
          flags fuel { s with from_ := n } true
        else fail "unknown option to \x60s'"

/-- A substitution, after its letter. -/
def substitution (extended : Bool) : Reading Substitution := do
  match ← next with
  | none => fail "unterminated \x60s' command"
  | some sign =>
    match ← textUpTo sign true with
    | none => fail "unterminated \x60s' command"
    | some what =>
      match ← textUpTo sign false with
      | none => fail "unterminated \x60s' command"
      | some other =>
        let other := withNumbers ['&', '\\'] (other.length + 1) other
        let ps := pieces (other.length + 1) other
        let s ← flags 20 { what := { expression := none }, pieces := ps } false
        let what ← sought extended s.what.folds s.what.byLine what
        let most := ps.foldl (fun n p => match p with
          | .group m => max n m
          | _ => n) 0
        let known := (what.expression.map Regex.groupCount).getD 9
        if known < most then
          fail ("invalid reference \\" ++ toString most ++ " on \x60s' command's RHS")
        return { s with what }

/-- The characters of an exchange with their escapes undone. -/
def unescaped : List Char → List Char
  | '\\' :: '\\' :: rest => '\\' :: unescaped rest
  | '\\' :: c :: rest => (escape? c).getD c :: unescaped rest
  | c :: rest => c :: unescaped rest
  | [] => []

/-- An exchange of characters, after its letter. -/
def exchange : Reading (List (Char × Char)) := do
  match ← next with
  | none => fail "unterminated \x60y' command"
  | some sign =>
    match ← textUpTo sign false with
    | none => fail "unterminated \x60y' command"
    | some a =>
      match ← textUpTo sign false with
      | none => fail "unterminated \x60y' command"
      | some b =>
        let a := unescaped (withNumbers ['\\'] (a.length + 1) a)
        let b := unescaped (withNumbers ['\\'] (b.length + 1) b)
        if a.length != b.length then fail "strings for \x60y' command are different lengths"
        return a.zip b

/-- The commands that consist of a letter. -/
def plainVerb? : Char → Option Verb
  | '=' => some .number
  | 'd' => some .delete
  | 'D' => some .deleteFirst
  | 'F' => some .fileName
  | 'g' => some .recall
  | 'G' => some .recallMore
  | 'h' => some .keep
  | 'H' => some .keepMore
  | 'x' => some .swap
  | 'n' => some .next
  | 'N' => some .nextMore
  | 'p' => some .show_
  | 'P' => some .showFirst
  | 'z' => some .empty
  | _ => none

/-- A number, if one follows. -/
def number? : Reading (Option Nat) := do
  blanks
  match ← peek with
  | some c => if c.isDigit then return some (← number) else return none
  | none => return none

/-- What a command does, from its letter on. `depth` is the number of blocks that are open. -/
def verb (extended : Bool) (depth : Nat) (l : Lines) (c : Char) : Reading Verb := do
  let then_ := fun (v : Verb) => do
    ended
    return v
  match plainVerb? c with
  | some v => then_ v
  | none =>
    match c with
    | '{' => return .enter
    | '}' =>
      if depth == 0 then fail "unexpected \x60\x7d'"
      if l.first.isSome then fail "\x7d doesn't want any addresses"
      then_ .leave
    | '#' =>
      if l.first.isSome then fail "comments don't accept any addresses"
      let _ ← while_ (· != '\n')
      return .nothing
    | 'a' => return .append (← addedText)
    | 'i' => return .insert (← addedText)
    | 'c' => return .change (← addedText)
    | ':' =>
      if l.first.isSome then fail ": doesn't want any addresses"
      let name ← labelName false
      if name == "" then fail "\x22:\x22 lacks a label"
      return .label name
    | 'b' =>
      let name ← labelName true
      then_ (.jump .always name)
    | 't' =>
      let name ← labelName true
      then_ (.jump .changed name)
    | 'T' =>
      let name ← labelName true
      then_ (.jump .unchanged name)
    | 'l' =>
      let width ← number?
      then_ (.list width)
    | 'L' =>
      let _ ← number?
      then_ .nothing
    | 'q' =>
      if l.finish.isSome then fail "command only uses one address"
      let status ← number?
      then_ (.quit (status.getD 0) false)
    | 'Q' =>
      if l.finish.isSome then fail "command only uses one address"
      let status ← number?
      then_ (.quit (status.getD 0) true)
    | 'r' => return .readFile (← pathName)
    | 'R' => return .readLine (← pathName)
    | 'w' => return .write (← pathName) false
    | 'W' => return .write (← pathName) true
    | 's' => return .substitute (← substitution extended)
    | 'y' =>
      let table ← exchange
      then_ (.translate table)
    | 'v' =>
      let _ ← labelName true
      then_ .nothing
    | _ => fail ("unknown command: \x60" ++ String.singleton c ++ "'")

/-- All commands of a text, after those read before, with the blocks that are left open. -/
def commands (extended : Bool) : Nat → Nat → List Command → Reading (Nat × List Command)
  | 0, depth, read => return (depth, read.reverse)
  | fuel + 1, depth, read => do
    let _ ← while_ fun c => Octet.isSpace c || c == ';'
    if (← peek).isNone then return (depth, read.reverse)
    let (l, c) ← lines extended
    match c with
    | none => fail "missing command"
    | some c =>
      let v ← verb extended depth l c
      let depth := match v with
        | .enter => depth + 1
        | .leave => depth - 1
        | _ => depth
      commands extended fuel depth (⟨l, v⟩ :: read)

/-- The commands of one text after those of others. -/
def readText (extended : Bool) (depth : Nat) (text : String) :
    Except Fault (Nat × List Command) :=
  ((commands extended (text.length + 1) depth []).run ⟨text.toList, 0⟩).map Prod.fst

/-- A label to which a command jumps and that is not there. -/
def missingLabel? (cs : List Command) : Option String :=
  let labels := cs.filterMap fun c => match c.verb with
    | .label name => some name
    | _ => none
  cs.findSome? fun c => match c.verb with
    | .jump _ target => if target != "" && !labels.contains target then some target else none
    | _ => none

end ApkForge.Script.Edit
