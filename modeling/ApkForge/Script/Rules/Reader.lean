-- Reading rules and the commands that they define as a whole. Which names stand for tables is known
-- when all has been read.
import ApkForge.Script.Rules.Reader.Steps

namespace ApkForge.Script.Rules

namespace Read

/-- The names of the values that a command takes. -/
def ownNames : Nat → Read (List String)
  | 0 => misplaced
  | fuel + 1 => do
    if ← isSign ")" then return []
    let s ← name
    if ← takeSign "," then
      skipLines
      return s :: (← ownNames fuel)
    else return [s]

/-- The end of a rule or command: blocks need nothing behind them. -/
def endsRule : Read Unit := do
  match ← peek with
  | .sign ";" => skip
  | _ => return ()

/-- A command of the rules' own. -/
def command (fuel : Nat) : Read Command := do
  skip
  let s ← match ← peek with
    | .command s => do
      skip
      pure s
    | _ => misplaced
  opens
  let own ← ownNames fuel
  closes
  skipLines
  modify fun r => { r with own, within := s, mayNext := true }
  let body ← block fuel
  modify fun r => { r with own := [], within := "", mayNext := false }
  endsRule
  return { name := s, size := own.length, body }

/-- What a rule does, if it says so. -/
def body? (fuel : Nat) : Read (Option Step) := do
  modify fun r => { r with mayNext := true }
  let body ← if ← isSign "\x7b" then do
      let body ← block fuel
      endsRule
      pure (some body)
    else do
      match ← peek with
      | .finish => pure ()
      | _ => separator
      pure none
  modify fun r => { r with mayNext := false }
  return body

/-- A rule. -/
def rule (fuel : Nat) : Read Rule := do
  match ← peek with
  | .word "BEGIN" =>
    skip
    let body ← block fuel
    endsRule
    return { pattern := .start, body := some body }
  | .word "END" =>
    skip
    let body ← block fuel
    endsRule
    return { pattern := .finish, body := some body }
  | .sign "\x7b" => return { pattern := .always, body := ← body? fuel }
  | _ =>
    let first ← expr fuel
    if ← takeSign "," then
      skipLines
      let last ← expr fuel
      return { pattern := .between first last, body := ← body? fuel }
    else return { pattern := .when first, body := ← body? fuel }

/-- All rules and commands. -/
def all (size : Nat) : Nat → List Rule → List Command → Read (List Rule × List Command)
  | 0, _, _ => misplaced
  | fuel + 1, rules, commands => do
    modify fun r => { r with
      tokens := r.tokens.dropWhile fun t => t.1 == .lineEnd || t.1 == .sign ";" }
    let count := (← get).faults.length
    passExtra
    if count < (← get).faults.length && (← peek) == .lineEnd then misplaced
    match ← peek with
    | .finish => return (rules.reverse, commands.reverse)
    | .word "function" =>
      let c ← command size
      if commands.any fun d => d.name == c.name then
        throw { words := "line " ++ toString (← get).line ++ ": redefinition of " ++ c.name }
      all size fuel rules (c :: commands)
    | _ => all size fuel ((← rule size) :: rules) commands

/-- The spots that hold tables: those used so, and those given to commands that take tables. -/
def tablesOf (passed : List ((String × Spot) × (String × Spot))) :
    Nat → List (String × Spot) → List (String × Spot)
  | 0, known => known
  | fuel + 1, known =>
    let new := passed.filterMap fun (from_, into) =>
      if known.contains into && !known.contains from_ then some from_ else none
    if new.isEmpty then known else tablesOf passed fuel (known ++ new.eraseDups)

/-- The fault of a call: the command is not defined, or takes fewer values. -/
def callFault? (commands : List Command) (last : Nat) (call : String × Nat × Nat) : Option String :=
  match commands.find? fun c => c.name == call.1 with
  | none => some ("line " ++ toString last ++ ": function " ++ call.1 ++ " never defined")
  | some c =>
    if c.size < call.2.1 then
      some ("line " ++ toString call.2.2 ++ ": too many arguments in call to " ++ call.1)
    else none

end Read

/-- The program that a text is, or what is wrong with it. -/
def Program.read (text : String) : Except (List String) Program :=
  let tokens := Token.ofText text
  let fuel := 16 * tokens.length + 64
  let (result, r) := (Read.all fuel fuel [] []).run.run { tokens }
  match result with
  | .error fault => .error (r.faults ++ if fault.words == "" then [] else [fault.words])
  | .ok (rules, commands) =>
    let last := (tokens.getLast?.map Prod.snd).getD 1
    let faults := if r.faults.isEmpty then r.calls.reverse.filterMap (Read.callFault? commands last)
      else r.faults
    if faults.isEmpty then
      let used := (r.uses.filter fun u => u.2).map Prod.fst
      .ok { rules, commands, tables := Read.tablesOf r.passed r.passed.length used }
    else .error faults

end ApkForge.Script.Rules
