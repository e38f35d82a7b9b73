-- Reading the expressions of rules. What binds most closely is read first; a sign that leads to a
-- file ends what is printed.
import ApkForge.Script.Rules.Reader.Basic

namespace ApkForge.Script.Rules

namespace Read

/-- The signs that give a value, with what is done before. -/
def putSigns : List (String × Option Operation) :=
  [("=", none), ("+=", some .plus), ("-=", some .minus), ("*=", some .times), ("/=", some .divided),
    ("%=", some .rest), ("^=", some .power)]

/-- The signs that compare. -/
def relations : List (String × Relation) :=
  [("<", .less), ("<=", .atMost), ("==", .equal), ("!=", .unequal), (">", .greater),
      (">=", .atLeast)]

/-- A value can begin with the token, behind another one. -/
def opensValue : Token → Bool
  | .number _ => true
  | .text _ => true
  | .pattern _ => true
  | .name _ => true
  | .command _ => true
  | .known _ => true
  | .sign s => ["(", "$", "!", "++", "--"].contains s
  | _ => false

/-- The number of a numeral. -/
def numberOf (text : String) : Float :=
  match Decimal.read? text.toList with
  | some (x, _) => x.toFloat
  | none => 0

/-- How many values the known commands take at least and at most. -/
def sizes : List (String × Nat × Nat) :=
  [("length", 0, 1), ("substr", 2, 3), ("index", 2, 2), ("split", 2, 3), ("sub", 2, 3),
    ("gsub", 2, 3), ("match", 2, 2), ("sprintf", 1, 255), ("sin", 1, 1), ("cos", 1, 1),
    ("atan2", 2, 2), ("exp", 1, 1), ("log", 1, 1), ("sqrt", 1, 1), ("int", 1, 1), ("rand", 0, 0),
    ("srand", 0, 1), ("tolower", 1, 1), ("toupper", 1, 1), ("system", 1, 1), ("close", 1, 1),
    ("fflush", 0, 1), ("systime", 0, 0), ("strftime", 0, 3), ("mktime", 1, 1)]

/-- How closely operators bind that have a value on both sides: the higher the closer. Values that
stand side by side are joined at 5. -/
def joinLevel : Nat := 5

/-- The level above which only signs in front of values are left. -/
def topLevel : Nat := 8

/-- A name that is all of a value. -/
def bareName? : Read (Option String) := do
  match (← get).tokens with
  | (.name s, _) :: (.sign ",", _) :: _ => return some s
  | (.name s, _) :: (.sign ")", _) :: _ => return some s
  | _ => return none

mutual

/-- An expression. -/
def expr (fuel : Nat) : Read Expr := do
  match fuel with
  | 0 => misplaced
  | fuel + 1 =>
    let test ← level fuel 0
    if ← takeSign "?" then
      skipLines
      let yes ← expr fuel
      skipLines
      expect ":"
      skipLines
      return .choose test yes (← expr fuel)
    else return test
termination_by structural fuel

/-- An expression whose operators bind so closely or more. -/
def level (fuel : Nat) (n : Nat) : Read Expr := do
  match fuel with
  | 0 => misplaced
  | fuel + 1 =>
    if topLevel ≤ n then unary fuel
    else
      let first ← level fuel (n + 1)
      let op := match ← peek with
        | .sign s => putSigns.lookup s
        | _ => none
      match op with
      | some op =>
        if n == joinLevel && first.isPlace then
          skip
          skipLines
          return .put first op (← expr fuel)
        else more fuel n first
      | none => more fuel n first
termination_by structural fuel

/-- What follows a value at a level. -/
def more (fuel : Nat) (n : Nat) (left : Expr) : Read Expr := do
  match fuel with
  | 0 => misplaced
  | fuel + 1 =>
    let t ← peek
    let with_ := fun (build : Expr → Expr) => do
      skip
      skipLines
      more fuel n (build (← level fuel (n + 1)))
    match n, t with
    | 0, .sign "||" => with_ (.any left)
    | 1, .sign "&&" => with_ (.all left)
    | 2, .word "in" =>
      skip
      more fuel n (.has (← used (← name) true) [left])
    | 3, .sign "~" => with_ (.fits false left)
    | 3, .sign "!~" => with_ (.fits true left)
    | 4, .sign s =>
      match relations.lookup s with
      | some r =>
        let m ← get
        if s == ">" && m.printing && m.parens == 0 then return left
        else with_ (.compare r left)
      | none => return left
    | 5, t =>
      if opensValue t then more fuel n (.joined left (← level fuel (n + 1)))
      else return left
    | 6, .sign "+" => with_ (.sum .plus left)
    | 6, .sign "-" => with_ (.sum .minus left)
    | 7, .sign "*" => with_ (.sum .times left)
    | 7, .sign "/" => with_ (.sum .divided left)
    | 7, .sign "%" => with_ (.sum .rest left)
    | _, _ => return left
termination_by structural fuel

/-- A value with signs in front, or one that is read from a command. -/
def unary (fuel : Nat) : Read Expr := do
  match fuel with
  | 0 => misplaced
  | fuel + 1 =>
    if ← takeSign "!" then return .opposite (← unary fuel)
    else if ← takeSign "-" then return .negative (← unary fuel)
    else if ← takeSign "+" then return .positive (← unary fuel)
    else fromCommand fuel (← power fuel)
termination_by structural fuel

/-- A value that may name a command to read from. -/
def fromCommand (fuel : Nat) (e : Expr) : Read Expr := do
  match fuel with
  | 0 => misplaced
  | fuel + 1 =>
    match (← get).tokens with
    | (.sign "|", _) :: (.word "getline", _) :: _ =>
      skip
      skip
      fromCommand fuel (.line .command (some e) (← target? fuel))
    | _ => return e
termination_by structural fuel

/-- The place that a line is read into, if one is named. -/
def target? (fuel : Nat) : Read (Option Expr) := do
  match fuel with
  | 0 => misplaced
  | fuel + 1 =>
    match ← peek with
    | .name _ => return some (← primary fuel)
    | .sign "$" => return some (← primary fuel)
    | _ => return none
termination_by structural fuel

/-- A value with its power. -/
def power (fuel : Nat) : Read Expr := do
  match fuel with
  | 0 => misplaced
  | fuel + 1 =>
    let e ← primary fuel
    let base ← if e.isPlace then do
        if ← takeSign "++" then pure (.step e true false)
        else if ← takeSign "--" then pure (.step e false false)
        else pure e
      else pure e
    if ← takeSign "^" then
      match ← peek with
      | .sign s =>
        if ["-", "+", "!"].contains s then return .sum .power base (← unary fuel)
        else return .sum .power base (← power fuel)
      | _ => return .sum .power base (← power fuel)
    else return base
termination_by structural fuel

/-- Expressions between commas, up to a closing sign. -/
def list (fuel : Nat) : Read (List Expr) := do
  match fuel with
  | 0 => misplaced
  | fuel + 1 =>
    let e ← expr fuel
    if ← takeSign "," then
      skipLines
      return e :: (← list fuel)
    else return [e]
termination_by structural fuel

/-- The values that a command of the rules' own is given. A bare name may be that of a table. -/
def given (fuel : Nat) (command : String) (index : Nat) : Read (List Expr) := do
  match fuel with
  | 0 => misplaced
  | fuel + 1 =>
    if ← isSign ")" then return []
    let e ← match ← bareName? with
      | some s => do
        skip
        let spot ← spotOf s
        let key ← keyOf spot
        modify fun r => { r with passed := (key, (command, .own index)) :: r.passed }
        pure (.held spot)
      | none => expr fuel
    if ← takeSign "," then
      skipLines
      return e :: (← given fuel command (index + 1))
    else return [e]
termination_by structural fuel

/-- What a known command is given. -/
def givenKnown (fuel : Nat) (command : String) : Read (List Expr) := do
  match fuel with
  | 0 => misplaced
  | fuel + 1 =>
    if ← isSign ")" then return []
    else if command == "split" then
      let text ← expr fuel
      expect ","
      skipLines
      let table ← used (← name) true
      if ← takeSign "," then
        skipLines
        return [text, .held table, ← expr fuel]
      else return [text, .held table]
    else if command == "length" then
      match ← bareName? with
      | some s =>
        skip
        return [.held (← spotOf s)]
      | none => list fuel
    else list fuel
termination_by structural fuel

/-- A value that no operator divides. -/
def primary (fuel : Nat) : Read Expr := do
  match fuel with
  | 0 => misplaced
  | fuel + 1 =>
    match ← peek with
    | .number t =>
      skip
      return .number (numberOf t)
    | .text s =>
      skip
      return .text s
    | .pattern s =>
      match Sought.read s with
      | .ok _ =>
        skip
        return .pattern s
      | .error words =>
        let line ← lineHere
        throw { words := "line " ++ toString line ++ ": " ++ words, isLast := true }
    | .name s =>
      skip
      if ← takeSign "[" then
        let table ← used s true
        let m ← get
        set { m with printing := false }
        let keys ← list fuel
        modify fun r => { r with printing := m.printing }
        expect "]"
        return .element table keys
      else return .held (← used s false)
    | .command s =>
      let line ← lineHere
      skip
      opens
      let args ← given fuel s 0
      closes
      modify fun r => { r with calls := (s, args.length, line) :: r.calls }
      return .call s args
    | .known s =>
      let line ← lineHere
      skip
      if !(← isSign "(") then
        if s == "length" || s == "fflush" || s == "srand" || s == "rand" then return .known s []
        else misplaced
      else
        opens
        let args ← givenKnown fuel s
        closes
        match sizes.lookup s with
        | some (least, most) =>
          if args.length < least || most < args.length then
            throw { words := "line " ++ toString line ++
              ": wrong number of arguments in call to " ++ s }
          else return .known s args
        | none => return .known s args
    | .word "getline" =>
      skip
      let target ← target? fuel
      if ← takeSign "<" then return .line .file (some (← power fuel)) target
      else return .line .records none target
    | .sign "(" =>
      opens
      let items ← list fuel
      closes
      match items with
      | [e] => return e
      | items =>
        if (← peek) == .word "in" then
          skip
          return .has (← used (← name) true) items
        else misplaced
    | .sign "$" =>
      skip
      match ← peek with
      | .sign s =>
        if ["-", "+", "!"].contains s then return .field (← unary fuel)
        else return .field (← primary fuel)
      | _ => return .field (← primary fuel)
    | .sign "++" =>
      skip
      let e ← primary fuel
      if e.isPlace then return .step e true true else misplaced
    | .sign "--" =>
      skip
      let e ← primary fuel
      if e.isPlace then return .step e false true else misplaced
    | .sign "-" => unary fuel
    | .sign "+" => unary fuel
    | .sign "!" => unary fuel
    | _ => misplaced
termination_by structural fuel

end

end Read

end ApkForge.Script.Rules
