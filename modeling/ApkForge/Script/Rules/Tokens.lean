-- The words and signs of the language of rules. A slash begins an expression to look for unless it
-- stands behind a value; what cannot be a token stays among them with what is wrong.
import ApkForge.Script.Decimal

namespace ApkForge.Script.Rules

/-- A word or sign. A name that a parenthesis follows at once is one of a command. -/
inductive Token where
  | number (text : String)
  | text (s : String)
  | pattern (s : String)
  | name (s : String)
  | command (s : String)
  | known (s : String)
  | word (s : String)
  | sign (s : String)
  | lineEnd
  | finish
  | bad (words : String)
deriving DecidableEq, Repr, Inhabited

namespace Token

/-- The words with a meaning of their own. -/
def words : List String :=
  ["BEGIN", "END", "function", "if", "else", "while", "for", "do", "in", "delete", "break",
    "continue", "next", "nextfile", "exit", "return", "getline", "print", "printf"]

/-- The commands that are known without being defined. -/
def knownCommands : List String :=
  ["length", "substr", "index", "split", "sub", "gsub", "match", "sprintf", "sin", "cos", "atan2",
    "exp", "log", "sqrt", "int", "rand", "srand", "tolower", "toupper", "system", "close",
    "fflush", "systime", "strftime", "mktime"]

/-- The signs, the longer ones first. -/
def signs : List String :=
  ["&&", "||", "==", "!=", "<=", ">=", ">>", "+=", "-=", "*=", "/=", "%=", "^=", "++", "--", "!~",
    "\x7b", "\x7d", "(", ")", "[", "]", ";", ",", "?", ":", "=", "<", ">", "~", "!", "+", "-", "*",
    "/", "%", "^", "|", "$"]

/-- A value may end with the token, so that a slash behind it divides. -/
def endsValue : Token → Bool
  | .number _ => true
  | .text _ => true
  | .name _ => true
  | .known _ => true
  | .sign s => [")", "]", "$", "++", "--"].contains s
  | _ => false

/-- How a token is named in complaints. -/
def shown : Token → String
  | .number t => t
  | .text s => s
  | .pattern s => "/" ++ s ++ "/"
  | .name s => s
  | .command s => s
  | .known s => s
  | .word s => s
  | .sign s => s
  | .lineEnd => "end of line"
  | .finish => "end of file"
  | .bad words => words

/-! ## Texts and patterns -/

/-- A text up to its closing quote, with the line ends that a backslash takes out counted, and the
rest; none if it is not closed on its line. -/
def quoted : Nat → List Char → Nat → List Char → Option (List Char × Nat × List Char)
  | 0, _, _, _ => none
  | _, _, _, [] => none
  | fuel + 1, read, lines, c :: cs =>
    if c == '\x22' then some (read.reverse, lines, cs)
    else if c == '\n' then none
    else if c == '\\' then
      match cs with
      | '\n' :: rest => quoted fuel read (lines + 1) rest
      | d :: rest => quoted fuel (d :: c :: read) lines rest
      | [] => none
    else quoted fuel (c :: read) lines cs

/-- The octal digits in front, three at most. -/
def octal (cs : List Char) : List Char :=
  (cs.take 3).takeWhile fun c => '0' ≤ c && c ≤ '7'

/-- The character of an escape by a number, and the rest: three octal digits at most, or two in
sixteens after an `x`. -/
def numbered? (cs : List Char) : Option (Char × List Char) :=
  let digits := octal cs
  let sixteens := ((cs.drop 1).take 2).takeWhile (Number.isDigitIn 16)
  if !digits.isEmpty then
    some (Char.ofNat (Number.ofDigits 8 digits % 256), cs.drop digits.length)
  else if cs.head? == some 'x' && !sixteens.isEmpty then
    some (Char.ofNat (Number.ofDigits 16 sixteens), cs.drop (sixteens.length + 1))
  else none

/-- A text with its escapes undone. One that means nothing stays. -/
def unescaped : Nat → List Char → List Char
  | 0, cs => cs
  | _, [] => []
  | fuel + 1, c :: cs =>
    if c != '\\' then c :: unescaped fuel cs
    else match numbered? cs with
      | some (d, rest) => d :: unescaped fuel rest
      | none => match cs with
        | [] => ['\\']
        | d :: rest =>
          match [('\x22', '\x22'), ('\\', '\\'), ('/', '/'), ('a', '\x07'), ('b', '\x08'),
              ('f', '\x0c'), ('n', '\n'), ('r', '\r'), ('t', '\t'), ('v', '\x0b')].lookup d with
          | some e => e :: unescaped fuel rest
          | none => c :: d :: unescaped fuel rest

/-- An expression to look for up to its slash, and the rest; none if it is not closed on its line.
Between brackets a slash is one of the characters. -/
def slashed : Nat → Bool → List Char → List Char → Option (List Char × List Char)
  | 0, _, _, _ => none
  | _, _, _, [] => none
  | fuel + 1, inside, read, c :: cs =>
    if c == '\n' then none
    else if c == '/' && !inside then some (read.reverse, cs)
    else if c == '\\' then
      match cs with
      | '/' :: rest => slashed fuel inside ('/' :: read) rest
      | '\n' :: rest => slashed fuel inside read rest
      | d :: rest => slashed fuel inside (d :: c :: read) rest
      | [] => none
    else if c == '[' && !inside then
      match cs with
      | '^' :: ']' :: rest => slashed fuel true (']' :: '^' :: c :: read) rest
      | ']' :: rest => slashed fuel true (']' :: c :: read) rest
      | _ => slashed fuel true (c :: read) cs
    else if c == '[' && inside && [':', '.', '='].contains (cs.headD ' ') then
      let sign := cs.headD ' '
      let name := cs.tail.takeWhile fun d => d != ']' && d != '\n'
      if name.getLast? == some sign then
        slashed fuel true (']' :: name.reverse ++ sign :: c :: read) (cs.drop (name.length + 2))
      else slashed fuel true (c :: read) cs
    else slashed fuel (inside && c != ']') (c :: read) cs

/-- The front of a text in a complaint. -/
def beginning (cs : List Char) : String :=
  String.ofList ((cs.takeWhile (· != '\n')).take 10) ++ " ..."

/-! ## Tokens -/

/-- A name begins with the character. -/
def opensName (c : Char) : Bool := c.isAlpha || c == '_'

/-- A number at the front of a text, and the rest. -/
def numeral? (cs : List Char) : Option (List Char × List Char) :=
  let front := cs.takeWhile Char.isDigit
  let rest := cs.drop front.length
  let (places, rest) := match rest with
    | '.' :: more => ('.' :: more.takeWhile Char.isDigit, more.dropWhile Char.isDigit)
    | _ => ([], rest)
  if front.isEmpty && places.length < 2 then none
  else
    let (_, after) := Decimal.exponent 'e' rest
    let exponent := rest.take (rest.length - after.length)
    some (front ++ places ++ exponent, after)

/-- The token of a word. -/
def ofWord (commands : List String) (word : String) (next : Option Char) : Token :=
  if words.contains word then .word word
  else if knownCommands.contains word then .known word
  else if next == some '(' || commands.contains word then .command word
  else .name word

/-- The tokens of a text, each with its line. -/
def read (commands : List String) : Nat → Nat → Token → List Char → List (Token × Nat)
  | 0, line, _, _ => [(.finish, line)]
  | _, line, _, [] => [(.finish, line)]
  | fuel + 1, line, last, c :: cs =>
    let on := fun (t : Token) (rest : List Char) => (t, line) :: read commands fuel line t rest
    let stop := fun (words : String) => [(Token.bad words, line), (.finish, line)]
    let place := "line " ++ toString line ++ ": "
    if c == '\n' then (.lineEnd, line) :: read commands fuel (line + 1) .lineEnd cs
    else if Octet.isSpace c then read commands fuel line last cs
    else if c == '#' then read commands fuel line last (cs.dropWhile (· != '\n'))
    else if c == '\\' && cs.head? == some '\n' then read commands fuel (line + 1) last cs.tail
    else if c == '\\' && cs.take 2 == ['\r', '\n'] then
      read commands fuel (line + 1) last (cs.drop 2)
    else if c == '\x22' then
      match quoted (cs.length + 1) [] 0 cs with
      | some (raw, lines, rest) =>
        let t := Token.text (String.ofList (unescaped (raw.length + 1) raw))
        (t, line) :: read commands fuel (line + lines) t rest
      | none => stop (place ++ "runaway string constant \x22" ++ beginning cs)
    else if c == '/' && !last.endsValue then
      match slashed (cs.length + 1) false [] cs with
      | some (raw, rest) => on (.pattern (String.ofList raw)) rest
      | none => stop (place ++ "runaway regular expression /" ++ beginning cs)
    else if opensName c then
      let raw := (c :: cs).takeWhile fun d => opensName d || d.isDigit
      let rest := (c :: cs).drop raw.length
      on (ofWord commands (String.ofList raw) rest.head?) rest
    else match numeral? (c :: cs) with
      | some (raw, rest) => on (.number (String.ofList raw)) rest
      | none =>
        match signs.find? fun s => s.toList.isPrefixOf (c :: cs) with
        | some s => on (.sign s) ((c :: cs).drop s.length)
        | none => stop (toString line ++ ": unexpected character '" ++ String.singleton c ++ "'")

/-- The names of the commands that a text defines. -/
def defined (text : String) : List String :=
  let ws := (text.toList.splitBy fun a b =>
    (opensName a || a.isDigit) == (opensName b || b.isDigit) &&
        !Octet.isSpace a == !Octet.isSpace b)
  let ws := (ws.map String.ofList).filter fun w => !w.toList.all Octet.isSpace
  (ws.zip ws.tail).filterMap fun (a, b) =>
    if a == "function" && (b.toList.head?.map opensName).getD false then some b else none

/-- The tokens of a text. -/
def ofText (text : String) : List (Token × Nat) :=
  read (defined text) (text.length + 2) 1 .lineEnd text.toList

end Token

end ApkForge.Script.Rules
