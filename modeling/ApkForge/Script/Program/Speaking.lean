-- The host's programs that shells do themselves as well, that compute, and that tell the time or
-- let it pass.
import ApkForge.Script.Program.Making

namespace ApkForge.Script.Program

open Work

/-! ## Printing and testing -/

/-- Arguments are printed. -/
def echo (_self : String) (args : List String) : Work Unit := do
  endsAs ((← writeTo 1 (Printing.echo .program args)) == .taken)

/-- Arguments are printed by a format. -/
def printf (self : String) (args : List String) : Work Unit := do
  match if args.head? == some "--" then args.tail else args with
  | [] => misused self "missing operand"
  | form :: rest =>
    let (text, complaints, broken) := Printing.format .program (fun _ _ => "") form rest
    complaints.forM fun c => tells self c.1
    print text
    match Printing.leftOver? .program form rest with
    | some extra => tells self ("warning: ignoring excess arguments, starting with " ++ named extra)
    | none => pure ()
    match broken with
    | some words => fails self words 1
    | none => endsAs !(complaints.any Prod.snd)

/-- A test as a program. -/
def test (self : String) (args : List String) : Work Unit := do
  match Testing.tested { ← get with rich := true } args with
  | .ok holds => endsAs holds
  | .error fault => fails self (fault.words .program args) 2

/-- A test in brackets. -/
def bracketed (self : String) (args : List String) : Work Unit := do
  if args.getLast? == some "]" then test self args.dropLast
  else fails self "missing ']'" 2

/-! ## Computing -/

/-- What is wrong with an expression, or with what it computes. -/
inductive Misreckoning where
  | lacking (after : String)
  | surplus (text : String)
  | unexpectedClose
  | unclosed (after : String)
  | unclosedBefore (text : String)
  | noNumber
  | byZero
  | wrongPattern (words : String)
deriving Repr, Inhabited

/-- The words for what is wrong with an expression. -/
def Misreckoning.words : Misreckoning → String
  | .lacking after => "syntax error: missing argument after " ++ named after
  | .surplus text => "syntax error: unexpected argument " ++ named text
  | .unexpectedClose => "syntax error: unexpected ')'"
  | .unclosed after => "syntax error: expecting ')' after " ++ named after
  | .unclosedBefore text => "syntax error: expecting ')' instead of " ++ named text
  | .noNumber => "non-integer argument"
  | .byZero => "division by zero"
  | .wrongPattern words => words

/-- The whole number that a text is. -/
def wholeOf (text : String) : Option Int :=
  let digits := match text.toList with
    | '-' :: cs => cs
    | cs => cs
  if digits.isEmpty || !digits.all Char.isDigit then none
  else
    let n := Int.ofNat (Number.ofDigits 10 digits)
    some (if Text.beginsWith "-" text then -n else n)

/-- A value that counts as false: an empty text or a zero. -/
def isNull (text : String) : Bool := text == "" || wholeOf text == some 0

/-- Two values are compared, as numbers if both are. -/
def compared (sign a b : String) : Bool :=
  let order := match wholeOf a, wholeOf b with
    | some x, some y => compare x y
    | _, _ => compare a b
  match sign with
  | "<" => order == .lt
  | "<=" => order != .gt
  | "=" => order == .eq
  | "==" => order == .eq
  | "!=" => order != .eq
  | ">=" => order != .lt
  | _ => order == .gt

/-- A text is matched from its front: the first group of the expression, or how much matched. -/
def frontMatch (text pattern : String) : Except Misreckoning String := do
  match Regex.ofBasic pattern with
  | .error fault => throw (.wrongPattern fault.words)
  | .ok e =>
    let s : Regex.Subject := { text := text.toList.toArray }
    let hasGroup := e.groupCount > 0
    match e.matchAt s 0 with
    | none => return if hasGroup then "" else "0"
    | some found =>
      return if hasGroup then found.text s 1 else toString (found.finish - found.start)

/-- Two values are joined by a sign. -/
def reckoned (sign a b : String) : Except Misreckoning String :=
  match sign with
  | "|" => .ok (if !isNull a then a else if !isNull b then b else "0")
  | "&" => .ok (if isNull a || isNull b then "0" else a)
  | ":" => frontMatch a b
  | _ =>
    if ["<", "<=", "=", "==", "!=", ">=", ">"].contains sign then
      .ok (if compared sign a b then "1" else "0")
    else match wholeOf a, wholeOf b with
      | some x, some y =>
        match sign with
        | "+" => .ok (toString (x + y))
        | "-" => .ok (toString (x - y))
        | "*" => .ok (toString (x * y))
        | "/" => if y == 0 then .error .byZero else .ok (toString (Int.tdiv x y))
        | _ => if y == 0 then .error .byZero else .ok (toString (Int.tmod x y))
      | _, _ => .error .noNumber

/-- The signs of each level, from those that bind least. -/
def levelSigns : Nat → List String
  | 0 => ["|"]
  | 1 => ["&"]
  | 2 => ["<", "<=", "=", "==", "!=", ">=", ">"]
  | 3 => ["+", "-"]
  | 4 => ["*", "/", "%"]
  | _ => [":"]

/-- How many levels of signs there are. -/
def levelCount : Nat := 6

/-- The part of a text from a position on, so long. -/
def partOf (text start length : String) : String :=
  match wholeOf start, wholeOf length with
  | some i, some n =>
    if i ≤ 0 || n ≤ 0 then ""
    else String.ofList ((text.toList.drop (i.toNat - 1)).take n.toNat)
  | _, _ => ""

mutual

/-- The value of what signs of a level and of those that bind more join, and the arguments after
it. `before` is the argument before. -/
def reckon (level : Nat) (before : String) (args : List String) (fuel : Nat) :
    Except Misreckoning (String × String × List String) :=
  match fuel with
  | 0 => .error (.lacking before)
  | fuel + 1 => do
    if level ≥ levelCount then reckonTerm before args fuel
    else
      let (value, before, rest) ← reckon (level + 1) before args fuel
      reckonMore level value before rest fuel
termination_by structural fuel

/-- A value joined with those that follow. -/
def reckonMore (level : Nat) (value before : String) (args : List String) (fuel : Nat) :
    Except Misreckoning (String × String × List String) :=
  match fuel, args with
  | 0, _ => .error (.lacking before)
  | _, [] => .ok (value, before, [])
  | fuel + 1, sign :: rest => do
    if (levelSigns level).contains sign then
      let (other, before, rest) ← reckon (level + 1) sign rest fuel
      reckonMore level (← reckoned sign value other) before rest fuel
    else return (value, before, sign :: rest)
termination_by structural fuel

/-- A value: an argument, an expression in parentheses, or what a word computes. -/
def reckonTerm (before : String) (args : List String) (fuel : Nat) :
    Except Misreckoning (String × String × List String) :=
  match fuel, args with
  | 0, _ => .error (.lacking before)
  | _, [] => .error (.lacking before)
  | fuel + 1, arg :: rest => do
    let next := fun (before : String) (rest : List String) =>
      reckon levelCount before rest fuel
    match arg with
    | "(" =>
      let (value, before, rest) ← reckon 0 arg rest fuel
      match rest with
      | ")" :: rest => return (value, ")", rest)
      | [] => throw (.unclosed before)
      | other :: _ => throw (.unclosedBefore other)
    | ")" => throw .unexpectedClose
    | "+" =>
      match rest with
      | quoted :: rest => return (quoted, quoted, rest)
      | [] => throw (.lacking "+")
    | "length" =>
      let (value, before, rest) ← next arg rest
      return (toString value.length, before, rest)
    | "match" =>
      let (a, before, rest) ← next arg rest
      let (b, before, rest) ← next before rest
      return (← frontMatch a b, before, rest)
    | "index" =>
      let (a, before, rest) ← next arg rest
      let (b, before, rest) ← next before rest
      let position := (a.toList.findIdx? fun c => b.toList.contains c).map (· + 1)
      return (toString (position.getD 0), before, rest)
    | "substr" =>
      let (a, before, rest) ← next arg rest
      let (b, before, rest) ← next before rest
      let (n, before, rest) ← next before rest
      return (partOf a b n, before, rest)
    | _ => return (arg, arg, rest)
termination_by structural fuel

end

/-- An expression is computed from arguments and its value shown. -/
def expr (self : String) (args : List String) : Work Unit := do
  match if args.head? == some "--" then args.tail else args with
  | [] => misusedAs 2 self "missing operand"
  | args =>
    match reckon 0 "" args (10 * args.length + 10) with
    | .error fault => fails self fault.words 2
    | .ok (_, _, extra :: _) =>
      fails self (if extra == ")" then Misreckoning.unexpectedClose.words
        else (Misreckoning.surplus extra).words) 2
    | .ok (value, _, []) =>
      printLine value
      endsAs !(isNull value)

/-! ## Time -/

/-- How many milliseconds an interval with the unit of its last letter has. -/
def unit? : Char → Option Nat
  | 's' => some 1000
  | 'm' => some 60000
  | 'h' => some 3600000
  | 'd' => some 86400000
  | _ => none

/-- An interval, a number perhaps with a unit, in milliseconds. -/
def milliseconds? (text : String) : Option Nat := do
  let (number, rest) ← Decimal.read? text.toList
  let unit ← match rest with
    | [] => some 1000
    | [letter] => unit? letter
    | _ => none
  match number with
  | .finite negative n d =>
    if (negative && n != 0) || Text.endsWith "x" text then none else some ((n * unit + d - 1) / d)
  | .infinite false => some (Nat.pow 10 12)
  | _ => none

/-- Time passes. -/
def sleep (self : String) (args : List String) : Work Unit :=
  called self { endEarly := false } args fun c => do
    let wrong := c.operands.filter fun arg => (milliseconds? arg).isNone
    match wrong.reverse with
    | last :: before =>
      before.reverse.forM fun arg => tells self ("invalid time interval " ++ named arg)
      misused self ("invalid time interval " ++ named last)
    | [] =>
      if c.operands.isEmpty then misused self "missing operand"
      else
        wait ((c.operands.filterMap milliseconds?).foldl (· + ·) 0)
        ends 0

/-- The forms of a date with so much of its time, by the names of what is shown. -/
def isoForms : List (String × String) :=
  [("hours", "%Y-%m-%dT%H%:z"), ("minutes", "%Y-%m-%dT%H:%M%:z"), ("date", "%Y-%m-%d"),
    ("seconds", "%Y-%m-%dT%H:%M:%S%:z"), ("ns", "%Y-%m-%dT%H:%M:%S,%N%:z")]

/-- The same for another standard. -/
def mailForms : List (String × String) :=
  [("date", "%Y-%m-%d"), ("seconds", "%Y-%m-%d %H:%M:%S%:z"), ("ns", "%Y-%m-%d %H:%M:%S.%N%:z")]

/-- The form by its name, or what is wrong with the name. -/
def formNamed (option : String) (forms : List (String × String)) (name : String) :
    Except String String :=
  match forms.lookup name with
  | some form => .ok form
  | none =>
    let valid := forms.map fun f => "\n  - " ++ named f.1
    .error ("invalid argument " ++ named name ++ " for " ++ named option ++
      "\nValid arguments are:" ++ String.join valid)

/-- The forms that the options of a call ask for. -/
def dateForms (c : Call) : Except String (List String) :=
  c.options.filterMapM fun (letter, value) => match letter with
    | 'I' => (formNamed "--iso-8601" isoForms (if value == "" then "date" else value)).map some
    | '3' => (formNamed "--rfc-3339" mailForms value).map some
    | 'R' => pure (some "%a, %d %b %Y %H:%M:%S %z")
    | _ => pure none

/-- A date is shown in a form: now, or one that is given. -/
def date (self : String) (args : List String) : Work Unit :=
  called self { flags := "uR", valued := "drsf3", long := [("utc", 'u'), ("universal", 'u'),
    ("date", 'd'), ("reference", 'r'), ("rfc-email", 'R'), ("iso-8601", 'I'), ("set", 's'),
    ("rfc-3339", '3')] } (args.flatMap isoLong) fun c => do
    let m ← get
    let now := m.world.now
    let isGiven := c.has 'd' || c.has 'r' || c.has 's'
    let wrong : Option (String × Bool) := match c.operands with
      | _ :: extra :: _ => some ("extra operand " ++ named extra, true)
      | [other] =>
        if Text.beginsWith "+" other then none
        else if isGiven then
          some ("the argument " ++ named other ++ " lacks a leading '+';\n" ++
            "when using an option to specify date(s), any non-option\n" ++
            "argument must be a format string beginning with '+'", true)
        else some ("invalid date " ++ named other, false)
      | [] => none
    let seconds : Except String (Int × Nat) := match c.value? 'r', c.value? 'd' with
      | some path, _ => match m.stat path with
        | .ok (place, _) => .ok (m.world.changedAt place, 0)
        | .error fault => .error (namedFirst path ++ ": " ++ Streams.words fault)
      | none, some text => match Moment.read? now text with
        | some found => .ok found
        | none => .error ("invalid date " ++ named text)
      | none, none => .ok (now, m.world.clock % 1000 * 1000000)
    match dateForms c, wrong, seconds with
    | .error words, _, _ => misused self words
    | .ok (_ :: _ :: _), _, _ => fails self "multiple output formats specified" 1
    | _, some (words, true), _ => misused self words
    | _, some (words, false), _ => fails self words 1
    | _, none, .error words => fails self words 1
    | .ok forms, none, .ok (seconds, nanos) =>
      if !forms.isEmpty && !c.operands.isEmpty then
        fails self "multiple output formats specified" 1
      else
        let form := match c.operands, forms with
          | form :: _, _ => String.ofList form.toList.tail
          | [], form :: _ => form
          | [], [] => "%a %b %e %H:%M:%S %Z %Y"
        printLine (Calendar.shownAt seconds nanos form)
        ends 0
where
  /-- The short option for a form may have its value behind it. -/
  isoLong (arg : String) : List String :=
    match arg.toList with
    | ['-', 'I'] => ["--iso-8601"]
    | '-' :: 'I' :: cs => ["--iso-8601=" ++ String.ofList cs]
    | _ => [arg]

end ApkForge.Script.Program
