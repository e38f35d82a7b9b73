-- What a test says: about texts, numbers and files, joined by signs. Arguments are read from left
-- to right, and a sign means what its place lets it mean.
import ApkForge.Script.Machine
import ApkForge.Script.Printing

namespace ApkForge.Script.Testing

/-! ## Files -/

/-- A file has one of these rights for someone. -/
def hasRight (m : Machine) (path : String) (bits : Nat) : Bool :=
  match m.stat path with
  | .ok (place, _) => m.world.disk.mode place &&& bits != 0
  | .error _ => false

/-- What stands at a path, if anything. -/
def kind? (m : Machine) (path : String) (followsLast : Bool := true) : Option Kind :=
  (m.stat path followsLast).toOption.map Prod.snd

/-- A test of a path by a sign. -/
def fileTest (m : Machine) (sign path : String) : Option Bool :=
  let kind := kind? m path
  match sign with
  | "-e" => some kind.isSome
  | "-a" => some kind.isSome
  | "-f" => some (match kind with
    | some (.file _ _) => true
    | some (.program _) => true
    | _ => false)
  | "-d" => some (kind == some .dir)
  | "-r" => some kind.isSome
  | "-w" => some kind.isSome
  | "-O" => some kind.isSome
  | "-G" => some kind.isSome
  | "-x" => some (kind == some .dir || hasRight m path 73)
  | "-u" => some (hasRight m path 2048)
  | "-g" => some (hasRight m path 1024)
  | "-k" => some (hasRight m path 512)
  | "-s" => some (match kind with
    | some (.file content _) => !content.isEmpty
    | some (.device _) => false
    | other => other.isSome)
  | "-c" => some (match kind with
    | some (.device _) => true
    | _ => false)
  | "-h" => some (isLink ())
  | "-L" => some (isLink ())
  | "-b" => some false
  | "-p" => some false
  | "-S" => some false
  | "-t" => some false
  | "-N" => some false
  | _ => none
where
  /-- The path is a link. -/
  isLink (_ : Unit) : Bool :=
    match kind? m path false with
    | some (.link _) => true
    | _ => false

/-- A test of one argument by a sign. -/
def unary (m : Machine) (sign arg : String) : Bool :=
  match sign with
  | "-n" => arg != ""
  | "-z" => arg == ""
  | "-v" =>
    match Text.split '[' arg with
    | [name, index] =>
      let key := (Text.dropTail? "]" index).getD index
      if key == "@" || key == "*" then ((m.held? name).map fun v => !v.elements.isEmpty).getD false
      else ((m.held? name).bind fun v => v.element? key).isSome
    | _ => (m.value? arg).isSome
  | "-o" => m.has arg
  | _ => (fileTest m sign arg).getD false

/-- A file is newer than another. -/
def isNewer (m : Machine) (a b : String) : Bool :=
  let stamp := fun (path : String) =>
    (m.stat path).toOption.map fun found => m.world.disk.stampAt found.1
  match stamp a, stamp b with
  | some x, some y => y < x
  | some _, none => m.rich
  | none, _ => false

/-- Two paths name the same file. -/
def isSame (m : Machine) (a b : String) : Bool :=
  match m.stat a, m.stat b with
  | .ok (x, _), .ok (y, _) => x == y
  | _, _ => false

/-! ## Arguments -/

/-- The signs before one argument. -/
def unarySigns (rich : Bool) : List String :=
  ["-r", "-w", "-x", "-e", "-f", "-d", "-c", "-b", "-p", "-u", "-g", "-k", "-s", "-t", "-z", "-n",
    "-h", "-O", "-G", "-L", "-S"] ++ if rich then ["-v", "-N"] else []

/-- The signs between two arguments. -/
def binarySigns (rich : Bool) : List String :=
  ["=", "!=", "<", ">", "-eq", "-ne", "-ge", "-gt", "-le", "-lt", "-nt", "-ot", "-ef"] ++
    if rich then ["=="] else []

/-- What is wrong with a test. -/
inductive Fault where
  | noNumber (text : String)
  | noOperator (text : String)
  | noArgument (sign : String)
  | notClosed
deriving DecidableEq, Repr, Inhabited

/-- The words for what is wrong with a test of some arguments. -/
def Fault.words (who : Printing.Printer) (args : List String) (fault : Fault) : String :=
  match who, fault with
  | .plain, .noNumber text => "Illegal number: " ++ text
  | .plain, .noOperator text => text ++ ": unexpected operator"
  | .plain, .noArgument sign => sign ++ ": argument expected"
  | .plain, .notClosed => "closing paren expected"
  | .rich, .noNumber text => text ++ ": integer expression expected"
  | .rich, .notClosed => "\x60)' expected"
  | .program, .noNumber text => "invalid integer '" ++ text ++ "'"
  | .program, fault =>
    match args with
    | [_, b] => "missing argument after '" ++ b ++ "'"
    | ["!", _, b] => "missing argument after '" ++ b ++ "'"
    | [_, b, _] => "'" ++ b ++ "': binary operator expected"
    | a :: b :: c :: d :: _ =>
      if fault == .notClosed then "')' expected"
      else "extra argument '" ++ (if (binarySigns true).contains b then d
        else if (unarySigns true).contains a then c else b) ++ "'"
    | _ => "argument expected"
  | .rich, _ =>
    match args with
    | [a, _] => a ++ ": unary operator expected"
    | [_, b, _] => b ++ ": binary operator expected"
    | _ :: _ :: _ :: _ :: _ => "too many arguments"
    | _ => "argument expected"

/-- The number that an argument of a test is. -/
def numberOf (text : String) : Except Fault Int :=
  match Number.decimal? text with
  | some n => .ok n
  | none => .error (.noNumber text)

/-- A test of two arguments by the sign between them. -/
def binary (m : Machine) (a sign b : String) : Except Fault Bool :=
  let compare := fun (f : Int → Int → Bool) => do return f (← numberOf a) (← numberOf b)
  match sign with
  | "=" => .ok (a == b)
  | "==" => .ok (a == b)
  | "!=" => .ok (a != b)
  | "<" => .ok (a < b)
  | ">" => .ok (b < a)
  | "-eq" => compare fun x y => x == y
  | "-ne" => compare fun x y => x != y
  | "-lt" => compare fun x y => x < y
  | "-le" => compare fun x y => x ≤ y
  | "-gt" => compare fun x y => y < x
  | "-ge" => compare fun x y => y ≤ x
  | "-nt" => .ok (isNewer m a b)
  | "-ot" => .ok (isNewer m b a)
  | _ => .ok (isSame m a b)

/-- What an argument of a test means where it stands. -/
inductive Meaning where
  | nothing
  | operand
  | unary (sign : String)
  | binary (sign : String)
  | not
  | and
  | or
  | opens
  | closes
deriving DecidableEq, Repr

/-- What the first of some arguments means. A sign before one argument is an operand where it has
none, and where a sign between two arguments follows. -/
def meaning (rich : Bool) : List String → Meaning
  | [] => .nothing
  | t :: rest =>
    if (unarySigns rich).contains t then
      match rest with
      | [] => .operand
      | [_] => .unary t
      | b :: _ => if (binarySigns rich).contains b then .operand else .unary t
    else if (binarySigns rich).contains t then .binary t
    else match t with
      | "!" => .not
      | "-a" => .and
      | "-o" => .or
      | "(" => if rest.isEmpty then .operand else .opens
      | ")" => .closes
      | _ => .operand

/-- A test that was read: whether it holds, and the arguments from its last one on. -/
abbrev Tested := Except Fault (Bool × List String)

mutual

/-- Tests of which one holds. -/
def anyOf (m : Machine) : Nat → Meaning → List String → Tested
  | 0, _, _ => .error .notClosed
  | fuel + 1, first, args => do
    let (a, last) ← allOf m fuel first args
    if meaning m.rich last.tail != .or then .ok (a, last)
    else do
      let rest := last.drop 2
      let (b, last) ← anyOf m fuel (meaning m.rich rest) rest
      .ok (a || b, last)

/-- Tests that all hold. -/
def allOf (m : Machine) : Nat → Meaning → List String → Tested
  | 0, _, _ => .error .notClosed
  | fuel + 1, first, args => do
    let (a, last) ← oneTest m fuel first args
    if meaning m.rich last.tail != .and then .ok (a, last)
    else do
      let rest := last.drop 2
      let (b, last) ← allOf m fuel (meaning m.rich rest) rest
      .ok (a && b, last)

/-- One test at the front of arguments. -/
def oneTest (m : Machine) : Nat → Meaning → List String → Tested
  | 0, _, _ => .error .notClosed
  | fuel + 1, first, args =>
    match first, args with
    | .nothing, _ => .ok (false, args)
    | .not, _ :: rest => do
      let (holds, last) ←
        oneTest m fuel (meaning m.rich rest) (if rest.isEmpty then args else rest)
      .ok (!holds, last)
    | .opens, _ :: rest =>
      if meaning m.rich rest == .closes then .ok (false, rest)
      else do
        let (holds, last) ← anyOf m fuel (meaning m.rich rest) rest
        if meaning m.rich last.tail == .closes then .ok (holds, last.tail)
        else .error .notClosed
    | .unary sign, _ :: arg :: rest => .ok (unary m sign arg, arg :: rest)
    | .unary sign, _ => .error (.noArgument sign)
    | _, a :: rest =>
      match meaning m.rich rest, rest with
      | .binary sign, _ :: b :: rest => do .ok (← binary m a sign b, b :: rest)
      | .binary sign, _ => .error (.noArgument sign)
      | _, _ => .ok (a != "", args)
    | _, [] => .ok (false, [])

end

/-- What a test says, or what is wrong with it. Three arguments with a sign in the middle are
compared; a negation of few arguments and parentheses around them come off first. -/
def tested (m : Machine) : List String → Except Fault Bool
  | [] => .ok false
  | ["!", a, b] =>
    if (binarySigns m.rich).contains a then whole .operand ["!", a, b]
    else (tested m [a, b]).map fun holds => !holds
  | ["!", a, b, c] => (tested m [a, b, c]).map fun holds => !holds
  | [a, b, c] =>
    if (binarySigns m.rich).contains b then whole .operand [a, b, c]
    else if a == "(" && c == ")" then whole (meaning m.rich [b]) [b]
    else whole (meaning m.rich [a, b, c]) [a, b, c]
  | [a, b, c, d] =>
    if a == "(" && d == ")" then whole (meaning m.rich [b, c]) [b, c]
    else whole (meaning m.rich [a, b, c, d]) [a, b, c, d]
  | args => whole (meaning m.rich args) args
where
  /-- Arguments read as one test. -/
  whole (first : Meaning) (args : List String) : Except Fault Bool := do
    let (holds, last) ← anyOf m (4 * args.length + 4) first args
    match last with
    | a :: _ :: _ => .error (.noOperator a)
    | _ => .ok holds

end ApkForge.Script.Testing
