-- Reading the commands of a script: lists, pipes, loops and choices, simple commands and their
-- redirections. One step reads the commands of one depth, given what reads those below.
import ApkForge.Script.Reading.Tokens

namespace ApkForge.Script.Read

/-- What reads the commands of the depth below: a list, which may be empty, and one command; and the
scripts within words. -/
structure Below where
  list : Bool → Read Node
  command : Read Node
  inner : Inner

namespace Below

/-! ## What must come next -/

/-- The next token. -/
def token (b : Below) : Read (Nat × Token) := Read.token b.inner

/-- The next token, which stays. -/
def peek (b : Below) : Read (Nat × Token) := Read.peekToken b.inner

/-- The token that comes next is taken if it is this plain word. -/
def takeWord (b : Below) (text : String) : Read Bool := do
  let t ← b.token
  if t.2.isWord text then return true
  putBack t
  return false

/-- The token that comes next is taken if it is this sign. -/
def takeSign (b : Below) (text : String) : Read Bool := do
  let t ← b.token
  if t.2.isSign text then return true
  putBack t
  return false

/-- A plain word that must come next, after line ends. -/
def expectWord (b : Below) (text : String) : Read Unit := do
  skipLines b.inner
  let t ← b.token
  if !t.2.isWord text then unexpected false (some (quotedName text)) t.1 t.2

/-- A sign that must come next. -/
def expectSign (b : Below) (anyWord : Bool) (text : String) : Read Unit := do
  let t ← b.token
  if !t.2.isSign text then unexpected anyWord (some (quotedName text)) t.1 t.2

/-! ## Redirections -/

/-- The target of a redirection. A text in the script waits for the next line end. -/
def target (b : Below) (stream : Moved) (sign : String) : Read Redirect := do
  match ← b.token with
  | (line, .word word) =>
    if sign == "<<" || sign == "<<-" then
      let number := (← get).nextInset
      modify fun s => { s with nextInset := number + 1
                               pending := s.pending ++ [⟨number, sign == "<<-", word, line⟩] }
      return .inset stream number
    else return .file stream sign word
  | (line, t) => unexpected true none line t

/-- Redirections as far as they come next. -/
def redirects (b : Below) : Read (List Redirect) := gatherAll do
  match ← b.token with
  | (_, .redirect stream sign) => return some (← b.target stream sign)
  | t =>
    putBack t
    return none

/-! ## Simple commands -/

/-- The parts of a simple command. -/
structure Simple where
  assigned : List Assigned := []
  words : List Word := []
  redirects : List Redirect := []

/-- One more part of a simple command, if one comes next. -/
def part (b : Below) (p : Simple) : Read (Option Simple) := do
  let rich := (← get).rich
  match ← b.token with
  | (_, .word word) =>
    match if p.words.isEmpty then word.assigned? rich else none with
    | some a => return some { p with assigned := p.assigned ++ [a] }
    | none => return some { p with words := p.words ++ [word] }
  | (_, .redirect stream sign) =>
    let redirect ← b.target stream sign
    return some { p with redirects := p.redirects ++ [redirect] }
  | t =>
    putBack t
    return none

/-- The parts of a simple command, after those that are read. -/
def parts (b : Below) : Nat → Simple → Read Simple
  | 0, p => return p
  | n + 1, p => do
    if p.words.isEmpty then expandAliases b.inner 20
    match ← b.part p with
    | some p => parts b n p
    | none => return p

/-! ## Definitions -/

/-- A definition after its name. -/
def definition (b : Below) (line : Nat) (name : String) : Read Node := do
  skipLines b.inner
  let body ← b.command
  return .define line name body

/-- The commands that may not be defined anew by a plain shell. -/
def special : List String :=
  [":", ".", "break", "continue", "eval", "exec", "exit", "export", "readonly", "return", "set",
    "shift", "times", "trap", "unset"]

/-- A simple command, or a definition if its name stands before parentheses. A rich shell counts it
to the line in which its second word ends. -/
def simple (b : Below) : Read Node := do
  let first ← b.token
  let s ← get
  match first with
  | (start, .word word) =>
    let second ← b.token
    let now := (← get).line
    let line := if !s.rich then start else if second.2.isLineEnd then second.1 else now
    if second.2.isSign "(" && (word.assigned? s.rich).isNone then
      b.expectSign true ")"
      let name := word.plain?.getD ""
      if !s.rich && (!isName name || special.contains name) then
        failAt (← get).line "Bad function name" ""
      b.definition line name
    else if second.2.isSign "(" then unexpected false none second.1 second.2
    else
      let start : Simple := match word.assigned? s.rich with
        | some a => { assigned := [a] }
        | none => { words := [word] }
      putBack second
      let p ← b.parts (← fuel) start
      return .simple line p.assigned p.words p.redirects
  | (line, .redirect stream sign) =>
    let redirect ← b.target stream sign
    let p ← b.parts (← fuel) { redirects := [redirect] }
    return .simple line p.assigned p.words p.redirects
  | (line, t) => unexpected false none line t

/-! ## Choices and loops -/

/-- A choice, after its first word. -/
def choice (b : Below) : Nat → Read Node
  | 0 => tooDeep
  | n + 1 => do
    let condition ← b.list false
    b.expectWord "then"
    let yes ← b.list false
    if ← b.takeWord "elif" then return .choice condition yes (← choice b n)
    else if ← b.takeWord "else" then
      let no ← b.list false
      b.expectWord "fi"
      return .choice condition yes no
    else
      b.expectWord "fi"
      return .choice condition yes (.list [])

/-- The body of a loop between its words. -/
def body (b : Below) : Read Node := do
  b.expectWord "do"
  let body ← b.list false
  b.expectWord "done"
  return body

/-- A loop, after its first word. -/
def loop (b : Below) (untilTrue : Bool) : Read Node := do
  let condition ← b.list false
  return .loop untilTrue condition (← b.body)

/-- The words that come next. -/
def words (b : Below) : Read (List Word) := gatherAll do
  match ← b.token with
  | (_, .word word) => return some word
  | t =>
    putBack t
    return none

/-- A loop over words, after its first word: its variable, its words and its body. -/
def overWords (b : Below) (make : Nat → String → Option (List Word) → Node → Node) : Read Node := do
  let t ← b.token
  let name := match t.2 with
    | .word word => word.plain?.getD ""
    | _ => ""
  if !isName name then
    let line := if t.2.isLineEnd then t.1 + 1 else t.1
    failAt line "Bad for loop variable" ("\x60" ++ t.2.written ++ "': not a valid identifier") 1
  skipLines b.inner
  let isNamed ← b.takeWord "in"
  let list ← if isNamed then b.words else pure []
  let end_ ← b.token
  if !(end_.2.isSign ";" || end_.2.isLineEnd) then
    if isNamed then unexpected true none end_.1 end_.2
    putBack end_
  if (← get).rich && (← (do skipLines b.inner; b.takeWord "\x7b")) then
    let body ← b.list false
    b.expectWord "\x7d"
    return make t.1 name (if isNamed then some list else none) body
  return make t.1 name (if isNamed then some list else none) (← b.body)

/-- The text up to two closing parentheses, if it is closed by both. -/
def sumText? (b : Below) : Read (Option Word) := attempt do
  let s ← get
  if s.ahead.isSome || s.rest.head? != some '(' then fail "" ""
  skip 1
  Read.sumText b.inner s.line 0 (← fuel)

/-- A counting loop, after its first word, if one comes next. -/
def counting? (b : Below) : Read (Option Node) := do
  let s ← get
  if !s.rich then return none
  let t ← b.token
  if !t.2.isSign "(" then
    putBack t
    return none
  match ← b.sumText? with
  | none =>
    set s
    return none
  | some text =>
    let (first, rest) := (Word.cutAt ';' text).getD (text, [])
    let (condition, step) := (Word.cutAt ';' rest).getD (rest, [])
    let _ ← b.takeSign ";"
    if ← (do skipLines b.inner; b.takeWord "\x7b") then
      let body ← b.list false
      b.expectWord "\x7d"
      return some (.counted t.1 first condition step body)
    return some (.counted t.1 first condition step (← b.body))

/-- The patterns of an arm, up to its closing parenthesis. -/
def patterns (b : Below) : Nat → Read (List Word)
  | 0 => tooDeep
  | n + 1 => do
    let t ← b.token
    match t.2 with
    | .finish => unexpected true (some (quotedName ")")) t.1 t.2
    | .word word =>
      if ← b.takeSign "|" then return word :: (← patterns b n)
      b.expectSign true ")"
      return [word]
    | other =>
      if (← get).rich then unexpected false none t.1 other
      b.expectSign true ")"
      return []

/-- The signs that end an arm. -/
def armSigns : List String := [";;", ";&", ";;&"]

/-- The next arm of a choice by patterns, unless its last word comes. -/
def arms (b : Below) : Nat → Read (List (List Word × Node × String))
  | 0 => tooDeep
  | n + 1 => do
    skipLines b.inner
    if ← b.takeWord "esac" then return []
    let _ ← b.takeSign "("
    let patterns ← b.patterns (← fuel)
    let body ← b.list true
    skipLines b.inner
    if ← b.takeWord "esac" then return [(patterns, body, ";;")]
    match ← b.token with
    | (line, .sign s) =>
      if armSigns.contains s then return (patterns, body, s) :: (← arms b n)
      else unexpected false (some (quotedName ";;")) line (.sign s)
    | (line, t) => unexpected false (some (quotedName ";;")) line t

/-- A choice by patterns, after its first word. -/
def cases (b : Below) : Read Node := do
  match ← b.token with
  | (line, .word word) =>
    b.expectWord "in"
    return .cases line word (← b.arms (← fuel))
  | (line, t) => unexpected true (some "word") line t

/-! ## Conditions of a rich shell -/

/-- The signs of conditions that stand before one operand. -/
def unarySigns : List String :=
  ["-a", "-b", "-c", "-d", "-e", "-f", "-g", "-h", "-k", "-n", "-o", "-p", "-r", "-s", "-t", "-u",
    "-v", "-w", "-x", "-z", "-G", "-L", "-N", "-O", "-R", "-S"]

/-- The signs of conditions that stand between two operands. -/
def binarySigns : List String :=
  ["=", "==", "!=", "=~", "<", ">", "-eq", "-ne", "-lt", "-le", "-gt", "-ge", "-nt", "-ot", "-ef"]

/-- A condition does not go on as it should, at a token. -/
def badCondition {α : Type} (first : Option (Nat × String)) (t : Nat × Token) : Read α := do
  let s ← get
  let left := s.rest.length + (if t.2.isLineEnd then 1 else 0)
  stop { line := t.1, words := "", showsLine := true, first, near := some left }

/-- A token stands where an operand or a sign should stand. -/
def misplaced {α : Type} (t : Nat × Token) (named unnamed : String) : Read α := do
  let line := t.1
  match t.2 with
  | .word word =>
    if word.plain? == some "]]" then badCondition (some (line, named.replace "%" "]]")) t
    else badCondition (some (line, unnamed)) t
  | other => badCondition (some (line, named.replace "%" other.written)) t

/-- The operand after a sign. One that is an expression goes on to a blank. -/
def operand (b : Below) (sign : String) : Read Word := do
  if sign == "=~" then
    skipBlanks (← fuel)
    pieces b.inner .blank (← get).line (← fuel)
  else
    let t ← b.token
    let wrong := misplaced t "unexpected argument \x60%' to conditional binary operator"
      "unexpected argument to conditional binary operator"
    match t.2 with
    | .word word => if word.plain? == some "]]" then wrong else return word
    | _ => wrong

/-- The sign between two operands that comes next. -/
def binarySign? (b : Below) : Read (Option String) := do
  let t ← b.token
  let sign? := match t.2 with
    | .word word => word.plain?.filter binarySigns.contains
    | .redirect .usual sign => if sign == "<" || sign == ">" then some sign else none
    | _ => none
  if sign?.isNone then putBack t
  return sign?

/-- The first operand of a condition may stand alone before a token. -/
def mayStandAlone (t : Token) : Bool :=
  t.isWord "]]" || t.isSign "&&" || t.isSign "||" || t.isSign ")"

mutual

/-- Conditions of which one has to hold. -/
def anyOf (b : Below) (n : Nat) : Read Condition :=
  match n with
  | 0 => tooDeep
  | n + 1 => do
    let first ← allOf b n
    skipLines b.inner
    if ← b.takeSign "||" then return .either first (← anyOf b n)
    return first
termination_by structural n

/-- Conditions that all have to hold. -/
def allOf (b : Below) (n : Nat) : Read Condition :=
  match n with
  | 0 => tooDeep
  | n + 1 => do
    let first ← oneOf b n
    skipLines b.inner
    if ← b.takeSign "&&" then return .both first (← allOf b n)
    return first
termination_by structural n

/-- One condition. -/
def oneOf (b : Below) (n : Nat) : Read Condition :=
  match n with
  | 0 => tooDeep
  | n + 1 => do
    skipLines b.inner
    if ← b.takeWord "!" then return .not (← oneOf b n)
    if ← b.takeSign "(" then
      let condition ← anyOf b n
      skipLines b.inner
      let t ← b.token
      if !t.2.isSign ")" then
        misplaced t "unexpected token \x60%', expected \x60)'" "expected \x60)'"
      return condition
    let t ← b.token
    match t.2 with
    | .word word =>
      if word.plain? == some "]]" then badCondition none t
      let unary? := word.plain?.filter unarySigns.contains
      match ← b.binarySign? with
      | some sign => return .binary sign word (← b.operand sign)
      | none =>
        let next ← b.peek
        match unary?, next.2 with
        | some sign, .word operand =>
          if operand.plain? == some "]]" then
            misplaced next "unexpected argument \x60%' to conditional unary operator" ""
          let _ ← b.token
          return .unary sign operand
        | some _, _ =>
          misplaced next "unexpected argument \x60%' to conditional unary operator" ""
        | none, other =>
          if mayStandAlone other then return .unary "-n" word
          let wanted := "conditional binary operator expected"
          misplaced next ("unexpected token \x60%', " ++ wanted) wanted
    | _ => misplaced t "unexpected token \x60%' in conditional command" ""
termination_by structural n

end

/-- A condition in double brackets, after the first of them. -/
def condition (b : Below) (line : Nat) : Read Node := do
  let s ← get
  set { s with grouped := true }
  let condition ← b.anyOf (← fuel)
  modify fun now => { now with grouped := s.grouped }
  skipLines b.inner
  let t ← b.token
  if t.2.isFinish then
    stop { line, words := "unexpected EOF while looking for \x60]]'"
           first := none }
  if !t.2.isWord "]]" then
    let words := "syntax error in conditional expression"
    badCondition (some (line, match t.2 with
      | .word _ => words
      | other => words ++ ": unexpected token \x60" ++ other.written ++ "'")) t
  return .test line condition

/-! ## One command -/

/-- A command that holds commands, if the word that comes next begins one. -/
def compound? (b : Below) (line : Nat) (word : String) : Read (Option Node) := do
  let rich := (← get).rich
  match word with
  | "\x7b" =>
    let body ← b.list false
    b.expectWord "\x7d"
    return some body
  | "if" => return some (← b.choice (← fuel))
  | "while" => return some (← b.loop false)
  | "until" => return some (← b.loop true)
  | "for" =>
    if let some node ← b.counting? then return some node
    return some (← b.overWords .each)
  | "case" => return some (← b.cases)
  | "select" => if rich then return some (← b.overWords .menu) else return none
  | "[[" => if rich then return some (← b.condition line) else return none
  | "function" =>
    if !rich then return none
    match ← b.token with
    | (line, .word name) =>
      if ← b.takeSign "(" then b.expectSign false ")"
      return some (← b.definition line name.raw)
    | (line, t) => unexpected false none line t
  | _ => return none

/-- A command that holds commands in parentheses, or a sum of a rich shell. -/
def parenthesized (b : Below) (line : Nat) : Read Node := do
  if (← get).rich then
    if let some text ← b.sumText? then return .sum line text
  let body ← b.list false
  b.expectSign false ")"
  return .inner line body

/-- One command with its redirections. -/
def oneCommand (b : Below) : Read Node := do
  expandAliases b.inner 20
  let t ← b.token
  let compound : Option Node ← match t.2 with
    | .sign "(" => do pure (some (← b.parenthesized t.1))
    | .word word =>
      match word.plain? with
      | none => pure none
      | some text => do
        let node? ← b.compound? t.1 text
        if node?.isNone && isReserved (← get).rich text && text != "in" && text != "time" then
          unexpected false none t.1 t.2
        pure node?
    | _ => pure none
  match compound with
  | none =>
    putBack t
    b.simple
  | some (.define line name body) => return .define line name body
  | some node =>
    let redirects ← b.redirects
    return if redirects.isEmpty then node else .redirected t.1 node redirects

/-! ## Lists -/

/-- The commands after the first of a pipe. -/
def pipeRest (b : Below) : Read (List Node) := gatherAll do
  if ← b.takeSign "|" then
    skipLines b.inner
    return some (← b.command)
  else return none

/-- Both streams of a command led into a pipe. -/
def withErrors (node : Node) : Node :=
  .redirected 0 node [.file (.number 2) ">&" [.plain "1"]]

/-- Commands of which each reads what the one before it writes. -/
def pipe (b : Below) : Read Node := do
  let negated ← b.takeWord "!"
  if (← get).rich && (← b.takeWord "time") then pure ()
  let first ← b.command
  if (← get).rich && (← b.takeSign "|&") then
    skipLines b.inner
    let second ← b.command
    return .pipe negated (withErrors first :: second :: (← b.pipeRest))
  let others ← b.pipeRest
  return if others.isEmpty && !negated then first else .pipe negated (first :: others)

/-- Pipes of which each is run only if those before say so, after the first. -/
def chainRest (b : Below) : Nat → Node → Read Node
  | 0, node => return node
  | n + 1, node => do
    if ← b.takeSign "&&" then
      skipLines b.inner
      chainRest b n (.both node (← b.pipe))
    else if ← b.takeSign "||" then
      skipLines b.inner
      chainRest b n (.either node (← b.pipe))
    else return node

/-- Pipes of which each is run only if those before say so. -/
def chain (b : Below) : Read Node := do
  let first ← b.pipe
  b.chainRest (← fuel) first

/-- The words that end a list of commands. -/
def closers : List String := ["then", "elif", "else", "fi", "do", "done", "esac", "\x7d"]

/-- A list of commands ends before a token. -/
def endsList : Token → Bool
  | .sign s => s == ")" || armSigns.contains s
  | .word w => (w.plain?.map closers.contains).getD false
  | .finish => true
  | _ => false

/-- The commands of a list after the first, up to a token that ends it. -/
def listRest (b : Below) : Nat → Read (List Node)
  | 0 => return []
  | n + 1 => do
    let node ← b.chain
    let t ← b.token
    let node := if t.2.isSign "&" then .apart node else node
    if t.2.isSign "&" || t.2.isSign ";" || t.2.isLineEnd then
      skipLines b.inner
      if endsList (← b.peek).2 then return [node]
      return node :: (← listRest b n)
    else
      putBack t
      return [node]

/-- One node for several. -/
def ofList : List Node → Node
  | [node] => node
  | nodes => .list nodes

/-- A list of commands up to what closes it. -/
def commandList (b : Below) (mayBeEmpty : Bool) : Read Node := do
  skipLines b.inner
  let t ← b.peek
  if t.2.isFinish || (mayBeEmpty && endsList t.2) then return .list []
  return ofList (← b.listRest (← fuel))

/-- The commands of one line, after the first ones of it. -/
def lineRest (b : Below) : Nat → Read (List Node)
  | 0 => return []
  | n + 1 => do
    let node ← b.chain
    let t ← b.token
    let node := if t.2.isSign "&" then .apart node else node
    if t.2.isLineEnd then return [node]
    else if t.2.isFinish then
      putBack t
      return [node]
    else if t.2.isSign "&" || t.2.isSign ";" then
      let next ← b.token
      if next.2.isLineEnd then return [node]
      putBack next
      if next.2.isFinish then return [node]
      return node :: (← lineRest b n)
    else unexpected false none t.1 t.2

end Below

/-! ## The whole -/

/-- What is to be read: a list, a command, or all commands of a line. -/
inductive Goal where
  | list (mayBeEmpty : Bool)
  | command
  | line

/-- What reads scripts within words, given what reads lists. -/
def innerOf (list : Bool → Read Node) : Inner :=
  let last : Inner := ⟨tooDeep, tooDeep⟩
  let closed : Read Node := do
    modify fun s => { s with ahead := none }
    let node ← list true
    let t ← token last
    if t.2.isSign ")" then return node
    if (← get).rich && t.2.isFinish then failAt t.1 "" (unmatched ")")
    unexpected false (some (quotedName ")")) t.1 t.2
  let whole : Read Node := do
    let node ← list true
    let t ← token last
    if t.2.isFinish || !(← get).rich then return node
    unexpected false none t.1 t.2
  ⟨closed, whole⟩

/-- Reads commands that are nested no deeper than `depth`. -/
def commandsAt : Nat → Goal → Read Node
  | 0, _ => tooDeep
  | depth + 1, goal =>
    let list := fun (mayBeEmpty : Bool) => commandsAt depth (.list mayBeEmpty)
    let below : Below := ⟨list, commandsAt depth .command, innerOf list⟩
    match goal with
    | .list mayBeEmpty => below.commandList mayBeEmpty
    | .command => below.oneCommand
    | .line => do return Below.ofList (← below.lineRest (← fuel))

/-- How deep commands may be nested in a script. -/
def mostDepth : Nat := 1000

/-- The commands of the next line that has any, if there is one. -/
def nextLine : Read (Option Node) := do
  let inner := innerOf fun mayBeEmpty => commandsAt mostDepth (.list mayBeEmpty)
  skipLines inner
  if (← peekToken inner).2.isFinish then return none
  return some (← commandsAt mostDepth .line)

end ApkForge.Script.Read
