-- The tokens of a script: words, the signs between commands, redirections and line ends. A line
-- end brings the texts that the line asked for.
import ApkForge.Script.Reading.Words

namespace ApkForge.Script.Read

/-! ## Texts in the script -/

/-- The lines of a text up to the one that ends it, each with its end, and whether that was
found. -/
def insetLines (dropsTabs : Bool) (last : String) : Nat → Read (List String × Bool)
  | 0 => return ([], false)
  | n + 1 => do
    if (← peek?).isNone then return ([], false)
    let line ← takeWhile fun c => c != '\n'
    let ended ← takeIf "\n"
    let line := if dropsTabs then String.ofList (line.toList.dropWhile (· == '\t')) else line
    if line == last then return ([], true)
    let (others, found) ← insetLines dropsTabs last n
    return ((if ended then line ++ "\n" else line) :: others, found)

/-- One text that begins here. It is filled in unless the line that ends it was given in quotes. -/
def readInset (inner : Inner) (e : Inset) : Read Unit := do
  let (lines, found) ← insetLines e.dropsTabs e.last.raw (← fuel)
  let text := String.join lines
  let word ← if e.last.hasQuotes then pure [.quoted text] else insetWord inner text
  modify fun s => { s with insets := (e.number, word) :: s.insets }
  if !found then modify fun s =>
    { s with warnings := s.warnings ++ [(s.line - 1, "warning: here-document at line " ++
      toString e.line ++ " delimited by end-of-file (wanted \x60" ++ e.last.raw ++ "')")] }

/-- The texts that begin here. -/
def readInsets (inner : Inner) : Read Unit := do
  let pending := (← get).pending
  modify fun s => { s with pending := [] }
  pending.forM (readInset inner)

/-! ## Words with more in them -/

/-- The word so far is the front of an assignment. -/
def awaitsValue (word : Word) : Bool :=
  match word.assigned? true with
  | some (.mk _ _ _ []) => true
  | _ => false

/-- The word so far ends in a sign that may stand before a group of patterns. -/
def awaitsGroup (word : Word) : Bool :=
  match word.getLast? with
  | some (.plain s) => (s.toList.getLast?.map "?*+@!".toList.contains).getD false
  | _ => false

/-- The text of a group of patterns up to its closing parenthesis. -/
def groupText : Nat → Nat → Read String
  | 0, _ => return ""
  | n + 1, depth => do
    match ← peek? with
    | none => unclosed .bracket (← get).line
    | some c =>
      skip 1
      let text := String.singleton c
      if c == ')' && depth == 0 then return text
      let depth := if c == '(' then depth + 1 else if c == ')' then depth - 1 else depth
      return text ++ (← groupText n depth)

/-- Blanks, comments and joined lines are passed over. -/
def skipBlanks : Nat → Read Unit
  | 0 => return ()
  | n + 1 => do
    let _ ← takeWhile Octet.isBlank
    if ← takeIf "\\\n" then skipBlanks n
    else if (← peek?) == some '#' then
      let _ ← takeWhile fun c => c != '\n'

/-- The word that comes next. A rich shell reads lists of elements after the front of an assignment,
scripts that stand for files, and groups of patterns. -/
def wordFrom (inner : Inner) : Nat → Word → Read Word
  | 0, read => return read
  | n + 1, read => do
    let word := read ++ (← pieces inner .sign (← get).line (← fuel))
    let s ← get
    if !s.rich then return word
    match s.rest with
    | '(' :: _ =>
      if s.grouped && awaitsGroup word then
        skip 1
        wordFrom inner n (word ++ [.plain ("(" ++ (← groupText s.rest.length 0))])
      else if awaitsValue word then
        skip 1
        return word ++ [.elements (← gatherAll (element s.line))]
      else return word
    | sign :: '(' :: _ =>
      if sign == '<' || sign == '>' then
        skip 2
        wordFrom inner n (word ++ [.stream (sign == '>') (← inner.closed)])
      else return word
    | _ => return word
where
  /-- The next element of a list, unless the list is closed. -/
  element (line : Nat) : Read (Option (Option Word × Word)) := do
    let _ ← gatherAll do
      skipBlanks (← fuel)
      if ← takeIf "\n" then return some () else return none
    if ← takeIf ")" then return none
    if (← peek?).isNone then failAt line "" (unmatched ")") 1
    let s ← get
    let keyed ← attempt do
      if !(← takeIf "[") then fail "" ""
      let key ← pieces inner .bracket s.line (← fuel)
      if !(← takeIf "=") then fail "" ""
      return (some key, ← pieces inner .sign s.line (← fuel))
    if keyed.isSome then return keyed
    let word ← pieces inner .sign s.line (← fuel)
    if word.isEmpty then
      let sign := String.ofList (s.rest.take 1)
      unexpected false none s.line (.sign sign)
    return some (none, word)

/-! ## Tokens -/

/-- The signs that redirect a stream, longer ones first. -/
def redirectSigns (rich : Bool) : List String :=
  if rich then ["<<<", "<<-", "<<", "&>>", "&>", ">>", ">&", ">|", "<&", "<>", ">", "<"]
  else ["<<-", "<<", ">>", ">&", ">|", "<&", "<>", ">", "<"]

/-- The signs between commands, longer ones first. -/
def commandSigns (rich : Bool) : List String :=
  if rich then [";;&", "&&", "||", "|&", ";;", ";&", ";", "&", "|", "(", ")"]
  else ["&&", "||", ";;", ";", "&", "|", "(", ")"]

/-- The first sign of a list that the script goes on with. -/
def signOf (signs : List String) : Read (Option String) := do
  let rest := (← get).rest
  match signs.find? fun s => (Text.dropHead? s.toList rest).isSome with
  | some sign =>
    skip sign.length
    return some sign
  | none => return none

/-- The name of a variable in braces, in a rich shell. -/
def heldName : Read String := do
  if (← get).rich && (← takeIf "\x7b") then
    let name ← takeWhile isNameChar
    if isName name && (← takeIf "\x7d") then return name else fail "" ""
  else return ""

/-- A redirection with digits or a variable right before it. -/
def redirectToken : Read (Option Token) := attempt do
  let held ← heldName
  let digits ← if held == "" then takeWhile Char.isDigit else pure ""
  let s ← get
  if s.rich && (s.rest.head? == some '<' || s.rest.head? == some '>') && s.rest[1]? == some '(' &&
      digits == "" && held == "" then
    fail "" ""
  match ← signOf (redirectSigns s.rich) with
  | some sign =>
    if (digits != "" || held != "") && Text.beginsWith "&" sign then fail "" ""
    let moved := if held != "" then .held held
      else match digits.toNat? with
        | some n => .number n
        | none => .usual
    return Token.redirect moved sign
  | none => fail "" ""

/-- The next token with its line. A line end brings the texts that begin after it. -/
def token (inner : Inner) : Read (Nat × Token) := do
  match (← get).ahead with
  | some read =>
    modify fun s => { s with ahead := none }
    return read
  | none =>
    skipBlanks (← fuel)
    let s ← get
    match s.rest with
    | [] =>
      if !s.pending.isEmpty then readInsets inner
      return (s.line, .finish)
    | '\n' :: _ =>
      skip 1
      readInsets inner
      return (s.line, .lineEnd)
    | _ =>
      if let some redirect ← redirectToken then return (s.line, redirect)
      if let some sign ← signOf (commandSigns s.rich) then return (s.line, .sign sign)
      return (s.line, .word (← wordFrom inner s.rest.length []))

/-- A token is put back. -/
def putBack (t : Nat × Token) : Read Unit := modify fun s => { s with ahead := some t }

/-- The next token, which stays. -/
def peekToken (inner : Inner) : Read (Nat × Token) := do
  let t ← token inner
  putBack t
  return t

/-- The next token after line ends, which stays. -/
def skipLines (inner : Inner) : Read Unit := do
  let _ ← gatherAll do
    let t ← token inner
    if t.2.isLineEnd then return some ()
    putBack t
    return none

/-- The text of an alias is read in its place, unless it is being read already. -/
def expandAlias (word : Word) : Read Bool := do
  let s ← get
  let inUse := s.expanding.filter fun e => e.2 < s.rest.length
  match word.plain?.bind fun name => (s.aliases.lookup name).map fun text => (name, text) with
  | some (name, text) =>
    if (inUse.map Prod.fst).contains name then return false
    set { s with rest := text.toList ++ s.rest, ahead := none
                 expanding := (name, s.rest.length) :: inUse }
    return true
  | none => return false

/-- Aliases where a command begins are replaced by their texts. -/
def expandAliases (inner : Inner) : Nat → Read Unit
  | 0 => return ()
  | n + 1 => do
    match ← peekToken inner with
    | (_, .word word) => if ← expandAlias word then expandAliases inner n
    | _ => return ()

end ApkForge.Script.Read
