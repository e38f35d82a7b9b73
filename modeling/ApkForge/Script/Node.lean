-- The commands of a shell script as trees. A word is a list of pieces, some quoted and some to be
-- filled in; what is filled in may be a script itself, so words and commands are one family.
import ApkForge.Script.Octet

namespace ApkForge.Script

/-! ## Trees -/

/-- The stream that a redirection moves: the usual one for its sign, one by its number, or a new one
whose number a variable gets. -/
inductive Moved where
  | usual
  | number (n : Nat)
  | held (name : String)
deriving DecidableEq, Repr, Inhabited

mutual

/-- A piece of a word. A piece within double quotes is not cut at blanks once it is filled in. -/
inductive Piece where
  | plain (text : String)
  | quoted (text : String)
  | param (inQuotes : Bool) (name : String) (index : Option (List Piece)) (change : Change)
  | size (inQuotes : Bool) (name : String) (index : Option (List Piece))
  | through (inQuotes : Bool) (name : String) (index : Option (List Piece)) (change : Change)
  | keys (inQuotes : Bool) (name sign : String)
  | names (inQuotes : Bool) (front sign : String)
  | output (inQuotes : Bool) (line : Nat) (body : Node)
  | sum (inQuotes : Bool) (text : List Piece)
  | elements (items : List (Option (List Piece) × List Piece))
  | stream (writes : Bool) (body : Node)

/-- A change of a parameter that is filled in. One that is bare stands without braces. -/
inductive Change where
  | none
  | bare
  | orElse (emptyToo assigns : Bool) (word : List Piece)
  | orFail (emptyToo : Bool) (word : List Piece)
  | ifSet (emptyToo : Bool) (word : List Piece)
  | withoutFront (longest : Bool) (pattern : List Piece)
  | withoutEnd (longest : Bool) (pattern : List Piece)
  | slice (start : List Piece) (length : Option (List Piece))
  | replace (sign : String) (pattern other : List Piece)
  | letters (upper all : Bool) (pattern : List Piece)
  | shown (letter : Char)
  | bad (text : String)

/-- A stream that is moved elsewhere for a command: to what a word names, or to a text in the script
by its number. -/
inductive Redirect where
  | file (stream : Moved) (sign : String) (target : List Piece)
  | inset (stream : Moved) (number : Nat)

/-- An operand of a condition in double brackets. -/
inductive Condition where
  | unary (sign : String) (word : List Piece)
  | binary (sign : String) (a b : List Piece)
  | not (a : Condition)
  | both (a b : Condition)
  | either (a b : Condition)

/-- A command. Those that can fail know their line. A command set `apart` is not waited for. -/
inductive Node where
  | simple (line : Nat) (assigned : List Assigned) (words : List (List Piece))
      (redirects : List Redirect)
  | pipe (negated : Bool) (parts : List Node)
  | both (first second : Node)
  | either (first second : Node)
  | list (items : List Node)
  | inner (line : Nat) (body : Node)
  | apart (body : Node)
  | choice (condition yes no : Node)
  | loop (untilTrue : Bool) (condition body : Node)
  | each (line : Nat) (name : String) (words : Option (List (List Piece))) (body : Node)
  | counted (line : Nat) (first condition step : List Piece) (body : Node)
  | menu (line : Nat) (name : String) (words : Option (List (List Piece))) (body : Node)
  | cases (line : Nat) (word : List Piece)
      (arms : List (List (List Piece) × Node × String))
  | define (line : Nat) (name : String) (body : Node)
  | redirected (line : Nat) (body : Node) (redirects : List Redirect)
  | test (line : Nat) (condition : Condition)
  | sum (line : Nat) (text : List Piece)

/-- A value for a variable, or for an element of it. -/
inductive Assigned where
  | mk (name : String) (index : Option (List Piece)) (appends : Bool) (value : List Piece)

end

instance : Inhabited Node := ⟨.list []⟩

instance : Inhabited Piece := ⟨.plain ""⟩

instance : Inhabited Condition := ⟨.unary "" []⟩

/-- A word of a script. -/
abbrev Word := List Piece

/-! ## Names -/

/-- A character that may stand in a name. -/
def isNameChar (c : Char) : Bool := c.isAlphanum || c == '_'

/-- A name of a variable: letters, digits and `_`, no digit first. -/
def isName (text : String) : Bool :=
  match text.toList with
  | [] => false
  | c :: cs => !c.isDigit && (c :: cs).all isNameChar

/-- The parameters whose names are signs. -/
def isSign (c : Char) : Bool := "@*#?$!-".toList.contains c

/-! ## Words -/

namespace Word

/-- The text of a word that is plain only. -/
def plain? : Word → Option String
  | [.plain s] => some s
  | _ => none

/-- A part of a word is in quotes. -/
def hasQuotes (word : Word) : Bool :=
  word.any fun p => match p with
    | .quoted _ => true
    | _ => false

/-- The characters of a word that is not filled in. -/
def raw (word : Word) : String :=
  String.join (word.map fun p => match p with
    | .plain s => s
    | .quoted s => s
    | .param _ name _ _ => "$" ++ name
    | _ => "")

/-- A piece as it could be written, with whether it stands in quotes. -/
def pieceSource : Piece → Bool × String
  | .plain s => (false, s)
  | .quoted s => (true, s)
  | .param inQuotes name none .bare => (inQuotes, "$" ++ name)
  | .param inQuotes name none .none => (inQuotes, "$" ++ name)
  | .param inQuotes name _ _ => (inQuotes, "$\x7b" ++ name ++ "\x7d")
  | .size inQuotes name _ => (inQuotes, "$\x7b#" ++ name ++ "\x7d")
  | .output inQuotes _ _ => (inQuotes, "$(...)")
  | _ => (false, "")

/-- A word as it could be written, with double quotes around what is quoted. -/
def source (word : Word) : String :=
  let (text, isOpen) := word.foldl (fun (text, isOpen) p =>
    let (inQuotes, own) := pieceSource p
    (text ++ (if inQuotes != isOpen then "\x22" else "") ++ own, inQuotes)) ("", false)
  if isOpen then text ++ "\x22" else text

/-- A word asks for the output of a script. -/
def hasOutput (word : Word) : Bool :=
  word.any fun p => match p with
    | .output _ _ _ => true
    | _ => false

/-- The pieces before an unquoted character on the level of the word, and those after it. -/
def cutAt (c : Char) : Word → Option (Word × Word)
  | [] => none
  | .plain s :: rest =>
    let front := s.toList.takeWhile fun d => d != c
    match s.toList.dropWhile fun d => d != c with
    | [] => (cutAt c rest).map fun (before, after) => (.plain s :: before, after)
    | _ :: tail =>
      let piece := fun (cs : List Char) =>
        if cs.isEmpty then [] else [Piece.plain (String.ofList cs)]
      some (piece front, piece tail ++ rest)
  | p :: rest => (cutAt c rest).map fun (before, after) => (p :: before, after)

end Word

/-- A stream that is moved, as it could be written. -/
def Redirect.source : Redirect → String
  | .file moved sign target =>
    let front := match moved with
      | .usual => ""
      | .number n => toString n
      | .held name => "\x7b" ++ name ++ "\x7d"
    front ++ sign ++ (if sign.toList.contains '&' then "" else " ") ++ Word.source target
  | .inset _ _ => "<<"

/-- A simple command as it could be written. -/
def commandSource (assigned : List Assigned) (words : List Word) (redirects : List Redirect) :
    String :=
  let settings := assigned.map fun
    | .mk name _ appends value => name ++ (if appends then "+=" else "=") ++ Word.source value
  " ".intercalate (settings ++ words.map Word.source ++ redirects.map Redirect.source)

/-- The value of an assignment after its name: it may be added to what the variable holds. -/
def afterName (name : String) (index : Option Word) (word : Word) : Option Assigned :=
  match word with
  | .plain s :: rest =>
    let value := fun (cs : List Char) =>
      if cs.isEmpty then rest else .plain (String.ofList cs) :: rest
    match s.toList with
    | '=' :: cs => some (.mk name index false (value cs))
    | '+' :: '=' :: cs => some (.mk name index true (value cs))
    | _ => none
  | _ => none

/-- A word that gives a variable a value, taken apart. Only a rich shell knows elements and values
that are added. -/
def Word.assigned? (rich : Bool) (word : Word) : Option Assigned :=
  match word with
  | .plain s :: rest =>
    let name := String.ofList (s.toList.takeWhile isNameChar)
    let tail := s.toList.drop name.length
    let after := if tail.isEmpty then rest else .plain (String.ofList tail) :: rest
    if !isName name then none
    else match tail with
      | '=' :: _ => afterName name none after
      | '+' :: _ => if rich then afterName name none after else none
      | '[' :: _ =>
        if !rich then none
        else do
          let (_, inside) ← Word.cutAt '[' after
          let (index, value) ← Word.cutAt ']' inside
          afterName name (some index) value
      | _ => none
  | _ => none

end ApkForge.Script
