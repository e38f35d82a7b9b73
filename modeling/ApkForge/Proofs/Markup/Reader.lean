-- Markup read back, independently of how it is written: characters to tokens by a machine that
-- goes over the text once, and tokens to elements by a stack of open ones. White space between tags
-- is passed over, that of a value is kept, and references stand for the characters they name.
import ApkForge.Text.Blank

namespace ApkForge.Markup

/-! ## Tokens -/

/-- A tag while it is read: its name and the attributes so far. -/
structure Head where
  name : List Char
  attrs : List (String × String) := []

/-- What markup is made of. -/
inductive Token where
  | opens (name : String) (attrs : List (String × String))
  | stands (name : String) (attrs : List (String × String))
  | closes (name : String)
  | letter (c : Char)
  | instruction (text : String)
deriving DecidableEq, Repr

/-- Where the machine is. It keeps what it has read of the token at hand. -/
inductive State where
  | between
  | reference (name : List Char)
  | angle
  | bang (seen : List Char)
  | comment (dashes : Nat)
  | cdata (brackets : Nat)
  | instruction (text : List Char)
  | closing (name : List Char)
  | closed (name : List Char)
  | name (head : Head)
  | gap (head : Head)
  | attr (head : Head) (key : List Char)
  | equals (head : Head) (key : List Char)
  | quote (head : Head) (key : List Char)
  | value (head : Head) (key : List Char) (mark : Char) (text : List Char)
  | valueRef (head : Head) (key : List Char) (mark : Char) (text name : List Char)
  | after (head : Head)
  | slash (head : Head)

/-- White space of markup. -/
def isSpace (c : Char) : Bool := c == ' ' || c == '\n' || c == '\t' || c == '\r'

/-- A character that may stand in a name. -/
def isNameChar (c : Char) : Bool :=
  !(isSpace c || ['<', '>', '&', '/', '=', '!', '?', '\x22', '\x27'].contains c)

/-- The number that digits spell. -/
def number? (base : Nat) (digits : List Char) : Option Nat :=
  let value (c : Char) : Option Nat :=
    if c.isDigit then some (c.toNat - 48)
    else if base == 16 && 'a' ≤ c && c ≤ 'f' then some (c.toNat - 87)
    else if base == 16 && 'A' ≤ c && c ≤ 'F' then some (c.toNat - 55)
    else none
  if digits.isEmpty then none
  else digits.foldlM (fun n c => (value c).map fun d => base * n + d) 0

/-- The character that a reference stands for. -/
def dereference? : List Char → Option Char
  | ['a', 'm', 'p'] => some '&'
  | ['l', 't'] => some '<'
  | ['g', 't'] => some '>'
  | ['q', 'u', 'o', 't'] => some '\x22'
  | ['a', 'p', 'o', 's'] => some '\x27'
  | '#' :: 'x' :: digits => (number? 16 digits).bind fun n =>
    if n.isValidChar then some (Char.ofNat n) else none
  | '#' :: digits => (number? 10 digits).bind fun n =>
    if n.isValidChar then some (Char.ofNat n) else none
  | _ => none

/-- The head with one more attribute, unless it has one of that name. -/
def Head.add? (head : Head) (key value : List Char) : Option Head :=
  if (head.attrs.map Prod.fst).contains (String.ofList key) then none
  else some { head with attrs := head.attrs ++ [(String.ofList key, String.ofList value)] }

/-- The token of a head whose tag opens. -/
def Head.opens (head : Head) : Token := .opens (String.ofList head.name) head.attrs

/-- The token of a head whose tag stands alone. -/
def Head.stands (head : Head) : Token := .stands (String.ofList head.name) head.attrs

/-- What a comment begins with, after its bracket and its mark. -/
def commentMark : List Char := ['-', '-']

/-- What text that is taken as it is begins with, after its bracket and its mark. -/
def cdataMark : List Char := ['[', 'C', 'D', 'A', 'T', 'A', '[']

/-- A head that may end here: by a bracket, by a slash or by white space before an attribute. -/
def endHead (head : Head) (c : Char) : Option (List Token × State) :=
  if c == '>' then some ([head.opens], .between)
  else if c == '/' then some ([], .slash head)
  else if isSpace c then some ([], .gap head)
  else none

/-- One character read. None when markup cannot go on like this. -/
def step : State → Char → Option (List Token × State)
  | .between, c =>
    if c == '<' then some ([], .angle)
    else if c == '&' then some ([], .reference [])
    else if isSpace c then some ([], .between)
    else some ([.letter c], .between)
  | .reference name, c =>
    if c == ';' then (dereference? name).map fun found => ([.letter found], .between)
    else some ([], .reference (name ++ [c]))
  | .angle, c =>
    if c == '/' then some ([], .closing [])
    else if c == '!' then some ([], .bang [])
    else if c == '?' then some ([], .instruction [])
    else if isNameChar c then some ([], .name ⟨[c], []⟩)
    else none
  | .bang seen, c =>
    if seen ++ [c] == commentMark then some ([], .comment 0)
    else if seen ++ [c] == cdataMark then some ([], .cdata 0)
    else if (seen ++ [c]).isPrefixOf commentMark || (seen ++ [c]).isPrefixOf cdataMark then
      some ([], .bang (seen ++ [c]))
    else none
  | .comment dashes, c =>
    if dashes == 2 then if c == '>' then some ([], .between) else none
    else if c == '-' then some ([], .comment (dashes + 1))
    else some ([], .comment 0)
  | .cdata brackets, c =>
    if c == ']' then
      if brackets == 2 then some ([.letter ']'], .cdata 2) else some ([], .cdata (brackets + 1))
    else if c == '>' && brackets == 2 then some ([], .between)
    else some (List.replicate brackets (.letter ']') ++ [.letter c], .cdata 0)
  | .instruction text, c =>
    if c == '>' && text.getLast? == some '?' then
      some ([.instruction (String.ofList text.dropLast)], .between)
    else some ([], .instruction (text ++ [c]))
  | .closing name, c =>
    if isNameChar c then some ([], .closing (name ++ [c]))
    else if name.isEmpty then none
    else if c == '>' then some ([.closes (String.ofList name)], .between)
    else if isSpace c then some ([], .closed name)
    else none
  | .closed name, c =>
    if c == '>' then some ([.closes (String.ofList name)], .between)
    else if isSpace c then some ([], .closed name)
    else none
  | .name head, c =>
    if isNameChar c then some ([], .name { head with name := head.name ++ [c] })
    else endHead head c
  | .gap head, c => if isNameChar c then some ([], .attr head [c]) else endHead head c
  | .attr head key, c =>
    if isNameChar c then some ([], .attr head (key ++ [c]))
    else if c == '=' then some ([], .quote head key)
    else if isSpace c then some ([], .equals head key)
    else none
  | .equals head key, c =>
    if c == '=' then some ([], .quote head key)
    else if isSpace c then some ([], .equals head key)
    else none
  | .quote head key, c =>
    if c == '\x22' || c == '\x27' then some ([], .value head key c [])
    else if isSpace c then some ([], .quote head key)
    else none
  | .value head key mark text, c =>
    if c == mark then (head.add? key text).map fun head => ([], .after head)
    else if c == '<' then none
    else if c == '&' then some ([], .valueRef head key mark text [])
    else some ([], .value head key mark (text ++ [c]))
  | .valueRef head key mark text name, c =>
    if c == ';' then
      (dereference? name).map fun found => ([], .value head key mark (text ++ [found]))
    else some ([], .valueRef head key mark text (name ++ [c]))
  | .after head, c => endHead head c
  | .slash head, c => if c == '>' then some ([head.stands], .between) else none

/-- Characters read from a state on: the tokens on the way and the state at the end. -/
def run (s : State) : List Char → Option (List Token × State)
  | [] => some ([], s)
  | c :: rest => (step s c).bind fun now => (run now.2 rest).map fun later =>
    (now.1 ++ later.1, later.2)

/-- A text leads from a state to another, with tokens on the way. -/
def Leads (s : State) (text : String) (tokens : List Token) (s' : State) : Prop :=
  run s text.toList = some (tokens, s')

/-! ## Elements -/

/-- What markup says. -/
inductive Node where
  | element (name : String) (attrs : List (String × String)) (children : List Node)
  | letter (c : Char)
  | instruction (text : String)
deriving Repr

/-- The name of an element. -/
def Node.name? : Node → Option String
  | .element name _ _ => some name
  | _ => none

/-- The value of an attribute of an element of some name. -/
def Node.value? (name key : String) : Node → Option String
  | .element found attrs _ => if found = name then attrs.lookup key else none
  | _ => none

/-- An open element: its name, its attributes, and what came before it in its parent. -/
structure Frame where
  name : String
  attrs : List (String × String)
  before : List Node

/-- Open elements, the innermost first, with the children so far of the innermost. -/
abbrev Growth := List Frame × List Node

/-- A token taken in. A tag must close the innermost open element. -/
def grow : Growth → Token → Option Growth
  | (frames, nodes), .opens name attrs => some (⟨name, attrs, nodes⟩ :: frames, [])
  | (frames, nodes), .stands name attrs => some (frames, nodes ++ [.element name attrs []])
  | (frame :: frames, nodes), .closes name =>
    if name = frame.name then
      some (frames, frame.before ++ [.element frame.name frame.attrs nodes])
    else none
  | ([], _), .closes _ => none
  | (frames, nodes), .letter c => some (frames, nodes ++ [.letter c])
  | (frames, nodes), .instruction text => some (frames, nodes ++ [.instruction text])

/-- Tokens taken in, in order. -/
def growAll (g : Growth) (tokens : List Token) : Option Growth := tokens.foldlM grow g

/-- The nodes of a text: none when it is no markup, breaks off within a token, or leaves an element
open. -/
def read (text : String) : Option (List Node) :=
  match run .between text.toList with
  | some (tokens, .between) =>
    match growAll ([], []) tokens with
    | some ([], nodes) => some nodes
    | _ => none
  | _ => none

end ApkForge.Markup
