-- The commands of a rich shell that declare variables: what they hold, what becomes of values given
-- to them, and where they are known; and sums as commands.
import ApkForge.Script.Assign
import ApkForge.Script.Builtin.Variables

namespace ApkForge.Script.Builtin

open Work

/-- The commands that declare variables. Assignments among their arguments stay whole. -/
def declarers : List String := ["declare", "typeset", "local", "export", "readonly"]

/-- How the commands that declare variables are used. -/
def declareUsage (self : String) : String :=
  if self == "export" then "export [-fn] [name[=value] ...] or export -p"
  else if self == "readonly" then "readonly [-aAf] [name[=value] ...] or readonly -p"
  else if self == "local" then "local [option] name[=value] ..."
  else self ++ " [-aAfFgiIlnrtux] [name[=value] ...] or " ++ self ++ " -p [-aAfFilnrtux] [name ...]"

/-- The letters that a command that declares variables knows. -/
def declareLetters (self : String) : List Char :=
  if self == "export" then "fnp".toList
  else if self == "readonly" then "aAfp".toList
  else "aAfFgiIlnrtuxp".toList

/-- The letters of options, each with whether it is turned on, and the arguments after them. -/
def cutSigned : List Argument → List (Bool × Char) × List Argument
  | [] => ([], [])
  | .text s :: rest =>
    match s.toList with
    | ['-', '-'] => ([], rest)
    | sign :: c :: cs =>
      if sign == '-' || sign == '+' then
        let (more, others) := cutSigned rest
        ((c :: cs).map (fun d => (sign == '-', d)) ++ more, others)
      else ([], .text s :: rest)
    | _ => ([], .text s :: rest)
  | rest => ([], rest)

/-- What an argument declares: a name, perhaps with a value. -/
def declaredBy : Argument → String × Option Setting
  | .setting s => (s.name, some s)
  | .text t =>
    match cutDefinition t with
    | (name, none) => (name, none)
    | (name, some value) =>
      let (name, appends) := match Text.dropTail? "+" name with
        | some front => (front, true)
        | none => (name, false)
      match Text.split '[' name with
      | [front, index] =>
        let key := Text.dropTail? "]" index
        (front, some { name := front, key, appends, given := .text value })
      | _ => (name, some { name, appends, given := .text value })

/-- A variable with one letter of a declaration turned on or off. -/
def withLetter (v : Variable) (on : Bool) (c : Char) : Variable :=
  match c with
  | 'x' => { v with shared := on }
  | 'r' => { v with fixed := v.fixed || on }
  | 'i' => { v with whole := on }
  | 'u' => { v with upper := on, lower := v.lower && !on }
  | 'l' => { v with lower := on, upper := v.upper && !on }
  | 'a' =>
    match v.value with
    | none => { v with value := some (.list []) }
    | some (.text s) => { v with value := some (.list [(0, s)]) }
    | _ => v
  | 'A' =>
    match v.value with
    | some (.table _) => v
    | _ => { v with value := some (.table []) }
  | _ => v

/-- A variable is declared: known here only, then with what is special about it, then with its
value; it is fixed last. -/
def declareOne (self : String) (isLocal : Bool) (letters : List (Bool × Char)) (arg : Argument) :
    Work Unit := do
  let (name, setting?) := declaredBy arg
  if !isName name then
    say (self ++ ": \x60" ++ arg.written ++ "': not a valid identifier")
    return ← ends 1
  if setting?.isSome && (← get).isFixed name then
    say (self ++ ": " ++ name ++ ": readonly variable")
    return ← ends 1
  if isLocal then
    let m ← get
    let isNew := match m.frames with
      | f :: _ => !f.hidden.any fun h => h.1 == name
      | [] => false
    hide name
    if isNew then modify fun m => m.drop name
  let kinds := letters.filter fun l => l.2 != 'r'
  if letters.contains (true, 'n') then
    let other := match setting? with
      | some { given := .text other, .. } => some (Value.text other)
      | _ => none
    modify fun m => (m.drop name).changeVar name fun v => { v with value := other, refers := true }
  else
    modify fun m => m.changeVar name fun v => kinds.foldl (fun v l => withLetter v l.1 l.2) v
    match setting? with
    | some s => s.apply
    | none => pure ()
  if letters.contains (true, 'r') then
    modify fun m => m.changeVar name fun v => { v with fixed := true }

/-- Declarations of variables are shown. -/
def showDeclared (self : String) (fits : Variable → Bool) (args : List Argument) : Work Unit := do
  if args.isEmpty then listVariables self fits
  else
    ends 0
    args.forM fun arg => do
      match (← get).var? arg.written with
      | some v => printLine (declaration arg.written v)
      | none =>
        say (self ++ ": " ++ arg.written ++ ": not found")
        ends 1

/-- What a listing of variables with some letters holds. -/
def fitsLetters (letters : List (Bool × Char)) (v : Variable) : Bool :=
  letters.all fun l => match l.2 with
    | 'x' => v.shared
    | 'r' => v.fixed
    | 'i' => v.whole
    | 'a' => (v.value matches some (.list _))
    | 'A' => (v.value matches some (.table _))
    | _ => true

/-- Commands that the script defined are shown by their names. -/
def showFunctions (args : List Argument) : Work Unit := do
  let m ← get
  let known := sortBy (fun a b => decide (a < b)) (m.functions.map Prod.fst)
  let names := args.map Argument.written
  if names.isEmpty then known.forM fun name => printLine ("declare -f " ++ name)
  else (names.filter known.contains).forM printLine
  endsAs (names.all known.contains)

/-- Variables are declared, or shown. -/
def declare (self : String) (args : List Argument) : Work Unit := do
  let m ← get
  let (letters, rest) := cutSigned args
  match letters.find? fun l => !(declareLetters self).contains l.2 with
  | some (_, c) => illegalOption self c (declareUsage self)
  | none =>
    if self == "local" && m.frames.isEmpty then
      say "local: can only be used in a function"
      return ← ends 1
    let letters := match self with
      | "export" => letters.filter (fun l => l.2 == 'p' || l.2 == 'f') ++
          [(!letters.contains (true, 'n'), 'x')]
      | "readonly" => letters ++ [(true, 'r')]
      | _ => letters
    let has := fun (c : Char) => letters.any fun l => l.2 == c
    if has 'F' || has 'f' then showFunctions rest
    else if has 'p' || rest.isEmpty then
      if self == "local" then
        let own := (m.frames.head?.map fun f => f.hidden.map Prod.fst).getD []
        showDeclared self (fun _ => true) (own.reverse.map Argument.text)
      else if !has 'p' && letters.isEmpty then listValues
      else showDeclared self (fitsLetters letters) rest
    else
      ends 0
      let isLocal := (self == "local" || self == "declare" || self == "typeset") &&
        !m.frames.isEmpty && !has 'g'
      rest.forM (declareOne self isLocal letters)

/-- Sums as arguments; the last says whether the command ends well. -/
def letSums : List String → Work Unit
  | [] => return ()
  | arg :: rest => do
    match ← Filler.count? arg with
    | .ok n =>
      endsAs (n != 0)
      letSums rest
    | .error words =>
      say ("let: " ++ words)
      ends 1

/-- Sums as a command. -/
def let_ (args : List String) : Work Unit := do
  if args.isEmpty then
    say "let: expression expected"
    ends 1
  else letSums args

end ApkForge.Script.Builtin
