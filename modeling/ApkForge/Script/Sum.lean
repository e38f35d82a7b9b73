-- Sums in a shell script: whole numbers of 64 bits, variables, and operators with their usual
-- precedence. A sum may set variables. A rich shell knows elements, powers and steps besides, and
-- takes the value of a variable as a sum of its own.
import ApkForge.Script.Node
import ApkForge.Script.Number

namespace ApkForge.Script

/-- A sum. Its names may have the index of an element. -/
inductive Sum where
  | number (n : Int64)
  | name (name : String) (index : Option Sum)
  | front (sign : String) (a : Sum)
  | pair (sign : String) (a b : Sum) (left : Nat)
  | choice (a b c : Sum)
  | store (name : String) (index : Option Sum) (sign : String) (a : Sum)
  | step (name : String) (index : Option Sum) (before : Bool) (up : Bool)
deriving Inhabited

namespace Sum

/-- What is wrong with a sum: something else is expected in it, it divides by zero, a power is
negative, digits do not fit their base, or a variable in it holds no number. `left` counts the
tokens from where it is wrong. -/
inductive Fault where
  | expected (what : String) (left : Nat)
  | byZero (left : Nat)
  | negativePower
  | badDigits (left : Nat)
  | noNumber (text : String)
  | within (text : String) (words : String)
deriving DecidableEq, Repr, Inhabited

/-! ## Tokens -/

/-- A token of a sum. -/
inductive Part where
  | number (n : Int64)
  | badNumber
  | name (name : String)
  | sign (text : String)
deriving DecidableEq, Repr

/-- A token with the text from its beginning on. -/
abbrev Parts := List (Part × String)

/-- A whole number of 64 bits, the nearest one if there are not enough. -/
def nearest (n : Int) : Int64 :=
  if n < -9223372036854775808 then Int64.ofInt (-9223372036854775808)
  else if 9223372036854775807 < n then Int64.ofInt 9223372036854775807
  else Int64.ofInt n

/-- What a digit counts in a base named in front of it. -/
def digitOf (base : Nat) (c : Char) : Option Nat :=
  let value? := if c.isDigit then some (c.toNat - '0'.toNat)
    else if 'a' ≤ c && c ≤ 'z' then some (c.toNat - 'a'.toNat + 10)
    else if 'A' ≤ c && c ≤ 'Z' then some (c.toNat - 'A'.toNat + (if base ≤ 36 then 10 else 36))
    else if c == '@' then some 62
    else if c == '_' then some 63
    else none
  value?.filter (· < base)

/-- Digits in a base, all of which must fit it. -/
def inBase (base : Nat) (digits : List Char) : Part :=
  match digits.mapM (digitOf base) with
  | some values => .number (Int64.ofNat (values.foldl (fun n d => n * base + d) 0))
  | none => .badNumber

/-- The number that the front of a text is for a rich shell, with how many characters it takes. -/
def richNumber (cs : List Char) : Part × Nat :=
  let run := cs.takeWhile fun c => c.isAlphanum || c == '@' || c == '_' || c == '#'
  let part := match run.takeWhile fun c => c != '#', run.dropWhile fun c => c != '#' with
    | base, _ :: digits =>
      let base := (String.ofList base).toNat?.getD 0
      if base < 2 || 64 < base then Part.badNumber else inBase base digits
    | '0' :: 'x' :: digits, [] => inBase 16 digits
    | '0' :: 'X' :: digits, [] => inBase 16 digits
    | '0' :: digits, [] => inBase 8 digits
    | digits, [] => inBase 10 digits
  (part, run.length)

/-- The signs that combine two numbers, and how strongly. -/
def strengths : List (String × Nat) :=
  [(",", 1), ("||", 3), ("&&", 4), ("|", 5), ("^", 6), ("&", 7), ("==", 8), ("!=", 8), ("<", 9),
    ("<=", 9), (">", 9), (">=", 9), ("<<", 10), (">>", 10), ("+", 11), ("-", 11), ("*", 12),
    ("/", 12), ("%", 12), ("**", 13)]

/-- The signs that combine a variable with a number and set it, each with what it combines by. -/
def storing : List (String × String) :=
  [("=", ""), ("+=", "+"), ("-=", "-"), ("*=", "*"), ("/=", "/"), ("%=", "%"), ("<<=", "<<"),
    (">>=", ">>"), ("&=", "&"), ("|=", "|"), ("^=", "^")]

/-- The signs of sums, longer ones first. -/
def signs : List String :=
  ["<<=", ">>=", "<<", ">>", "<=", ">=", "==", "!=", "&&", "||", "+=", "-=", "*=", "/=", "%=", "&=",
    "|=", "^=", "+", "-", "*", "/", "%", "<", ">", "!", "~", "(", ")", "&", "|", "^", "?", ":", "="]

/-- The signs that only a rich shell knows. -/
def richSigns : List String := ["**", "++", "--"]

/-- The first sign of a list that a text begins with. -/
def signAt (signs : List String) (cs : List Char) : Option String :=
  signs.find? fun s => (Text.dropHead? s.toList cs).isSome

/-- The tokens of a sum. A character that is in no token is a sign that fits nowhere. What follows
the name of a table in brackets belongs to the name. -/
def parts (rich : Bool) (tables : List String) : Nat → List Char → Parts
  | 0, _ => []
  | _, [] => []
  | fuel + 1, c :: cs =>
    let here := String.ofList (c :: cs)
    let rest := fun (n : Nat) => parts rich tables fuel ((c :: cs).drop n)
    if Number.isBlank c then rest 1
    else if c.isDigit && rich then
      let (part, taken) := richNumber (c :: cs)
      (part, here) :: rest taken
    else if c.isDigit then
      let (n, after) := Number.read (c :: cs)
      (.number (nearest (Int.ofNat n)), here) :: rest (cs.length + 1 - after.length)
    else if isNameChar c then
      let name := String.ofList ((c :: cs).takeWhile isNameChar)
      let after := (c :: cs).drop name.length
      let key := after.takeWhile fun d => d != ']'
      if tables.contains name && after.head? == some '[' && key.length < after.length then
        (.name (name ++ String.ofList key ++ "]"), here) :: rest (name.length + key.length + 1)
      else (.name name, here) :: rest name.length
    else
      let signs := if rich then richSigns ++ signs ++ [",", "[", "]"] else signs
      match signAt signs (c :: cs) with
      | some sign => (.sign sign, here) :: rest sign.length
      | none => [(.sign "", here)]

/-- The names in a text as a sum that do not only get a value in it. -/
def namesRead (tables : List String) (text : String) : List String :=
  let ps := (parts true tables (text.length + 1) text.toList).map Prod.fst
  (ps.zip (ps.drop 1 ++ [.sign ""])).filterMap fun (p, next) => match p, next with
    | .name _, .sign "=" => none
    | .name _, .sign "[" => none
    | .name s, _ => some s
    | _, _ => none

/-! ## Reading -/

/-- Reading from the front of tokens. -/
abbrev Reading := Except Fault

/-- Something else is expected here. -/
def expect {α : Type} (what : String) (ps : Parts) : Reading (α × Parts) :=
  .error (.expected what ps.length)

mutual

/-- A number, a variable, a sum in parentheses, or one with a sign in front. -/
def readOne (fuel : Nat) (ps : Parts) : Reading (Sum × Parts) :=
  match fuel with
  | 0 => expect "EOF" ps
  | fuel + 1 =>
    match ps with
    | (.number n, _) :: rest => .ok (.number n, rest)
    | (.badNumber, _) :: _ => .error (.badDigits ps.length)
    | (.name s, _) :: rest => do
      let (index, rest) ← readIndex fuel rest
      match rest with
      | (.sign "++", _) :: rest => return (.step s index false true, rest)
      | (.sign "--", _) :: rest => return (.step s index false false, rest)
      | rest => return (.name s index, rest)
    | (.sign "(", _) :: rest => do
      let (a, rest) ← readFrom fuel 0 rest
      match rest with
      | (.sign ")", _) :: rest => return (a, rest)
      | _ => expect "')'" rest
    | (.sign s, _) :: rest => do
      if s == "++" || s == "--" then
        match rest with
        | (.name other, _) :: rest =>
          let (index, rest) ← readIndex fuel rest
          return (.step other index true (s == "++"), rest)
        | rest =>
          let (a, rest) ← readOne fuel rest
          return (if s == "--" then .front "-" (.front "-" a) else a, rest)
      else if ["-", "+", "!", "~"].contains s then
        let (a, rest) ← readOne fuel rest
        return (.front s a, rest)
      else expect "primary" ps
    | [] => expect "primary" ps
termination_by structural fuel

/-- The index of an element, if one comes next. -/
def readIndex (fuel : Nat) (ps : Parts) : Reading (Option Sum × Parts) :=
  match fuel with
  | 0 => expect "EOF" ps
  | fuel + 1 =>
    match ps with
    | (.sign "[", _) :: rest => do
      let (a, rest) ← readFrom fuel 0 rest
      match rest with
      | (.sign "]", _) :: rest => return (some a, rest)
      | _ => expect "']'" rest
    | ps => .ok (none, ps)
termination_by structural fuel

/-- Numbers between signs that bind at least so strongly; a choice and a new value bind weaker than
any pair but a sequence. -/
def readFrom (fuel least : Nat) (ps : Parts) : Reading (Sum × Parts) :=
  match fuel with
  | 0 => expect "EOF" ps
  | fuel + 1 => do
    let (a, rest) ← readOne fuel ps
    match a, rest with
    | .name s index, (.sign sign, _) :: more =>
      if least ≤ 2 && storing.any fun e => e.1 == sign then
        let (value, rest) ← readFrom fuel 2 more
        readMore fuel least (.store s index sign value) rest
      else readMore fuel least a rest
    | a, rest => readMore fuel least a rest
termination_by structural fuel

/-- What is combined with a sum that is read already. -/
def readMore (fuel least : Nat) (a : Sum) (ps : Parts) : Reading (Sum × Parts) :=
  match fuel with
  | 0 => expect "EOF" ps
  | fuel + 1 =>
    match ps with
    | (.sign "?", _) :: rest =>
      if least > 2 then .ok (a, ps)
      else do
        let (b, rest) ← readFrom fuel 0 rest
        match rest with
        | (.sign ":", _) :: rest =>
          let (c, rest) ← readFrom fuel 2 rest
          readMore fuel least (.choice a b c) rest
        | _ => expect "':'" rest
    | (.sign s, _) :: rest =>
      match strengths.find? fun e => e.1 == s && least ≤ e.2 with
      | none => .ok (a, ps)
      | some (_, strength) => do
        let next := if s == "**" then strength else strength + 1
        let (b, after) ← readFrom fuel next rest
        readMore fuel least (.pair s a b rest.length) after
    | _ => .ok (a, ps)
termination_by structural fuel

end

/-- The sum that tokens are. -/
def ofParts (ps : Parts) : Except Fault Sum := do
  match ← readFrom (6 * ps.length + 8) 0 ps with
  | (a, []) => return a
  | (_, rest) => throw (.expected "EOF" rest.length)

/-! ## Faults -/

/-- The text from the token that so many are left from. -/
def textFrom (ps : Parts) (left : Nat) : String :=
  ((ps[ps.length - left]?.or ps.getLast?).map Prod.snd).getD ""

/-- The words of a plain shell for what is wrong with a text as a sum. -/
def Fault.words (text : String) : Fault → String
  | .expected what _ => "arithmetic expression: expecting " ++ what ++ ": \x22" ++ text ++ "\x22"
  | .byZero _ => "arithmetic expression: division by zero: \x22" ++ text ++ "\x22"
  | .noNumber held => "Illegal number: " ++ held
  | _ => "arithmetic expression: expecting EOF: \x22" ++ text ++ "\x22"

/-- What a rich shell says is expected. -/
def expectedWords (rest : String) : String → String
  | "primary" => "syntax error: operand expected"
  | "EOF" =>
    match rest.toList.head? with
    | some c =>
      if c.isAlphanum || c == '_' || c == '(' || c == ')' then "syntax error in expression"
      else "syntax error: invalid arithmetic operator"
    | none => "syntax error in expression"
  | "')'" => "missing \x60)'"
  | "':'" => "\x60:' expected for conditional expression"
  | _ => "bad array subscript"

/-- The words of a rich shell for what is wrong with a text as a sum. -/
def Fault.richWords (text : String) (ps : Parts) (fault : Fault) : String :=
  let said := fun (words : String) (left : Nat) =>
    text ++ ": " ++ words ++ " (error token is \x22" ++ textFrom ps left ++ "\x22)"
  match fault with
  | .expected what left => said (expectedWords (textFrom ps left) what) left
  | .byZero left => said "division by 0" left
  | .negativePower => said "exponent less than 0" 0
  | .badDigits left => said "value too great for base" left
  | .noNumber held => held
  | .within _ words => words

/-! ## Counting -/

/-- A truth as a number. -/
def truth (b : Bool) : Int64 := if b then 1 else 0

/-- A number with a sign in front. -/
def applied (sign : String) (a : Int64) : Int64 :=
  match sign with
  | "-" => 0 - a
  | "!" => truth (a == 0)
  | "~" => -1 - a
  | _ => a

/-- A power with a whole exponent. -/
def power (a : Int64) (n : Nat) : Int64 := Int64.ofInt (Int.pow a.toInt n)

/-- Two numbers combined by a sign. Nothing is divided by zero. -/
def combine (sign : String) (left : Nat) (a b : Int64) : Except Fault Int64 :=
  match sign with
  | "==" => .ok (truth (a == b))
  | "!=" => .ok (truth (a != b))
  | "<" => .ok (truth (a < b))
  | "<=" => .ok (truth (a ≤ b))
  | ">" => .ok (truth (b < a))
  | ">=" => .ok (truth (b ≤ a))
  | "+" => .ok (a + b)
  | "-" => .ok (a - b)
  | "*" => .ok (a * b)
  | "/" => if b == 0 then .error (.byZero left) else .ok (a / b)
  | "%" => if b == 0 then .error (.byZero left) else .ok (a % b)
  | "<<" => .ok (a <<< b)
  | ">>" => .ok (a >>> b)
  | "&" => .ok (a &&& b)
  | "|" => .ok (a ||| b)
  | "^" => .ok (a ^^^ b)
  | "**" => if b < 0 then .error .negativePower else .ok (power a (b.toInt.toNat % 4096))
  | _ => .ok b

/-- A variable or an element of one. -/
abbrev Target := String × Option Int

/-- Variables set so far, newest first. -/
abbrev Stored := List (Target × String)

/-- The number of a text, with what it sets itself. -/
abbrev Meaning := String → Stored → Except Fault (Int64 × Stored)

/-- The number that a text is by itself; none if it is none. An empty text counts as 0. -/
def numberIn (text : String) : Option Int64 :=
  match ((text.toList.dropWhile Number.isBlank).reverse.dropWhile Number.isBlank).reverse with
  | [] => some 0
  | cs =>
    match Number.readWhole? cs with
    | some (n, []) => some (nearest n)
    | _ => none

/-- The number of a variable. -/
def lookUp (value : Target → String) (meaning : Meaning) (stored : Stored) (target : Target) :
    Except Fault (Int64 × Stored) :=
  meaning ((stored.lookup target).getD (value target)) stored

/-- The number of a sum, with the variables that it sets. What is not needed is not counted. -/
def count (value : Target → String) (meaning : Meaning) :
    Sum → Stored → Except Fault (Int64 × Stored)
  | .number n, stored => .ok (n, stored)
  | .name s index, stored => do
    let (index, stored) ← match index with
      | some a => do
        let (n, stored) ← count value meaning a stored
        pure (some n.toInt, stored)
      | none => pure (none, stored)
    lookUp value meaning stored (s, index)
  | .front sign a, stored => do
    let (n, stored) ← count value meaning a stored
    return (applied sign n, stored)
  | .pair sign a b left, stored => do
    let (n, stored) ← count value meaning a stored
    if sign == "&&" && n == 0 then return (0, stored)
    else if sign == "||" && n != 0 then return (1, stored)
    else
      let (m, stored) ← count value meaning b stored
      if sign == "&&" || sign == "||" then return (truth (m != 0), stored)
      return (← combine sign left n m, stored)
  | .choice a b c, stored => do
    let (n, stored) ← count value meaning a stored
    if n != 0 then count value meaning b stored else count value meaning c stored
  | .store s index sign a, stored => do
    let (index, stored) ← match index with
      | some a => do
        let (n, stored) ← count value meaning a stored
        pure (some n.toInt, stored)
      | none => pure (none, stored)
    let (n, stored) ← count value meaning a stored
    let combiner := (storing.lookup sign).getD ""
    if combiner == "" then return (n, ((s, index), toString n.toInt) :: stored)
    let (held, stored) ← lookUp value meaning stored (s, index)
    let n ← combine combiner 0 held n
    return (n, ((s, index), toString n.toInt) :: stored)
  | .step s index before up, stored => do
    let (index, stored) ← match index with
      | some a => do
        let (n, stored) ← count value meaning a stored
        pure (some n.toInt, stored)
      | none => pure (none, stored)
    let (held, stored) ← lookUp value meaning stored (s, index)
    let next := if up then held + 1 else held - 1
    return (if before then next else held, ((s, index), toString next.toInt) :: stored)

/-- The number of a text for a plain shell: what a variable holds must be a number. -/
def plainMeaning : Meaning := fun text stored =>
  match numberIn text with
  | some n => .ok (n, stored)
  | none => .error (.noNumber text)

/-- The number of a text for a rich shell: what a variable holds is a sum, so deep. -/
def richMeaning (tables : List String) (value : Target → String) : Nat → Meaning
  | 0 => fun text _ => .error (.noNumber (text ++ ": expression recursion level exceeded"))
  | depth + 1 => fun text stored =>
    let ps := parts true tables (text.length + 1) text.toList
    if ps.isEmpty then .ok (0, stored)
    else match ofParts ps with
      | .error fault => .error (.within text (fault.richWords text ps))
      | .ok a => (count value (richMeaning tables value depth) a stored).mapError fun fault =>
          .within text (fault.richWords text ps)

/-- The value of a text as a sum, with the variables that it sets, or what to say about it. -/
def value (rich : Bool) (tables : List String) (value : Target → String) (text : String) :
    Except String (Int × Stored) :=
  let told := fun (result : Except Fault (Int64 × Stored)) (words : Fault → String) =>
    match result with
    | .ok (n, stored) => Except.ok (n.toInt, stored)
    | .error fault => .error (words fault)
  if rich then
    told (richMeaning tables value 200 text []) fun fault => fault.richWords text []
  else
    let counted := do
      count value plainMeaning (← ofParts (parts false [] (text.length + 1) text.toList)) []
    told counted fun fault => fault.words text

end Sum

end ApkForge.Script
