-- Reading the steps of rules. After a mistake reading goes on behind the step that it is in.
import ApkForge.Script.Rules.Reader.Expressions

namespace ApkForge.Script.Rules

namespace Read

/-! ## Simple steps -/

/-- A brace that nothing opened is told of and passed. -/
def passExtra : Read Unit := do
  let r ← get
  match r.tokens with
  | (.sign "\x7d", line) :: rest =>
    if r.braces == 0 then
      let words := "line " ++ toString line ++ ": extra '\x7d'"
      set { r with tokens := rest, line, faults := r.faults ++ [words] }
  | _ => return ()

/-- A step ends here: behind it a line ends, or a block. -/
def separator : Read Unit := do
  passExtra
  match ← peek with
  | .lineEnd => skipLines
  | .sign ";" =>
    skip
    skipLines
  | .sign "\x7d" => return ()
  | _ => misplaced

/-- Nothing more stands in the step. -/
def endsStep : Read Bool := do
  match ← peek with
  | .lineEnd => return true
  | .finish => return true
  | .sign s => return s == ";" || s == "\x7d"
  | _ => return false

/-- The tokens behind the parenthesis that is opened first. -/
def behindParens : Nat → List (Token × Nat) → List (Token × Nat)
  | _, [] => []
  | depth, (t, _) :: ts =>
    if t == .sign "(" then behindParens (depth + 1) ts
    else if t == .sign ")" then if depth ≤ 1 then ts else behindParens (depth - 1) ts
    else behindParens depth ts

/-- What is printed stands between parentheses as a whole. -/
def printsGroup : Read Bool := do
  let r ← get
  match r.tokens with
  | (.sign "(", _) :: _ =>
    match (behindParens 0 r.tokens).head?.map Prod.fst with
    | none => return false
    | some .lineEnd => return true
    | some .finish => return true
    | some (.sign s) => return [";", "\x7d", ">", ">>", "|"].contains s
    | some _ => return false
  | _ => return false

/-- What is printed, and where to. -/
def printed (fuel : Nat) (formatted : Bool) : Read Step := do
  let line ← lineHere
  skip
  let args ← if ← printsGroup then do
      opens
      let args ← if ← isSign ")" then pure [] else list fuel
      closes
      pure args
    else if ← endsStep then pure []
    else
      match ← peek with
      | .sign s =>
        if [">", ">>", "|"].contains s then pure []
        else
          modify fun r => { r with printing := true }
          list fuel
      | _ =>
        modify fun r => { r with printing := true }
        list fuel
  modify fun r => { r with printing := false }
  if formatted && args.isEmpty then
    throw { words := "line " ++ toString line ++ ": no arguments in call to printf" }
  let direction ← if ← takeSign ">" then pure Direction.file
    else if ← takeSign ">>" then pure Direction.fileEnd
    else if ← takeSign "|" then pure Direction.command
    else pure Direction.output
  let target ← if direction == .output then pure none else do pure (some (← expr fuel))
  separator
  return .print formatted args direction target

/-- Reading inside a loop. -/
def inLoop {α : Type} (act : Read α) : Read α := do
  modify fun r => { r with loops := r.loops + 1 }
  let x ← act
  modify fun r => { r with loops := r.loops - 1 }
  return x

/-- The rest of a step that could not be read is passed. -/
def recover : Read Unit := modify fun r =>
  let rest := r.tokens.dropWhile fun t =>
    t.1 != .lineEnd && t.1 != .sign ";" && t.1 != .sign "\x7d" && t.1 != .finish
  { r with tokens := rest, parens := 0, printing := false }

/-- The most mistakes that are told. -/
def mostFaults : Nat := 5

/-- Reading whose failure is kept, unless nothing can be read after it. -/
def kept {α : Type} (act : Read α) (otherwise : α) : Read α := do
  let result ← ExceptT.lift act.run
  match result with
  | .ok x => return x
  | .error fault =>
    modify fun r => { r with faults := r.faults ++ [fault.words] }
    if fault.isLast || mostFaults ≤ (← get).faults.length then
      throw { words := "", isLast := true }
    recover
    return otherwise

/-- An expression between parentheses, in front of a step. -/
def condition (fuel : Nat) : Read Expr := do
  opens
  let test ← expr fuel
  closes
  skipLines
  return test

mutual

/-- A step. -/
def step (fuel : Nat) : Read Step := do
  match fuel with
  | 0 => misplaced
  | fuel + 1 =>
    let simple := fun (s : Step) => do
      skip
      separator
      return s
    let value? := do
      skip
      if ← endsStep then
        separator
        return none
      let e ← expr fuel
      separator
      return some e
    match ← peek with
    | .sign "\x7b" => block fuel
    | .sign ";" =>
      skip
      skipLines
      return .block []
    | .word "if" =>
      skip
      let test ← condition fuel
      let yes ← step fuel
      match (← get).tokens.dropWhile fun t => t.1 == .lineEnd || t.1 == .sign ";" with
      | (.word "else", _) :: rest =>
        modify fun r => { r with tokens := rest }
        skipLines
        return .choose test yes (some (← step fuel))
      | _ => return .choose test yes none
    | .word "while" =>
      skip
      let test ← condition fuel
      return .turns true (some test) none (← inLoop (step fuel))
    | .word "do" =>
      skip
      skipLines
      let body ← inLoop (step fuel)
      skipLines
      if (← peek) != .word "while" then misplaced
      skip
      opens
      let test ← expr fuel
      closes
      separator
      return .turns false (some test) none body
    | .word "for" =>
      skip
      loop fuel
    | .word "break" =>
      if (← get).loops == 0 then fails "break statement outside of loop"
      simple .stop
    | .word "continue" =>
      if (← get).loops == 0 then fails "continue statement outside of loop"
      simple .again
    | .word "next" =>
      if !(← get).mayNext then fails "improper use of next"
      simple .next
    | .word "nextfile" =>
      if !(← get).mayNext then fails "improper use of nextfile"
      simple .nextFile
    | .word "exit" => return .exit (← value?)
    | .word "return" =>
      if (← get).within == "" then fails "return outside function body"
      return .back (← value?)
    | .word "delete" =>
      skip
      let table ← used (← name) true
      if ← takeSign "[" then
        let keys ← list fuel
        expect "]"
        separator
        return .delete table (some keys)
      else
        separator
        return .delete table none
    | .word "print" => printed fuel false
    | .word "printf" => printed fuel true
    | _ =>
      let e ← expr fuel
      separator
      return .value e
termination_by structural fuel

/-- A loop through the keys of a table, or one with its own counting. -/
def loop (fuel : Nat) : Read Step := do
  match fuel with
  | 0 => misplaced
  | fuel + 1 =>
    match (← get).tokens with
    | (.sign "(", _) :: (.name key, _) :: (.word "in", _) :: (.name table, _) :: (.sign ")", _) ::
        rest =>
      let target ← used key false
      let table ← used table true
      modify fun r => { r with tokens := rest }
      skipLines
      return .each (.held target) table (← inLoop (step fuel))
    | _ =>
      opens
      let first ← if ← isSign ";" then pure none else do pure (some (← expr fuel))
      expect ";"
      skipLines
      let test ← if ← isSign ";" then pure none else do pure (some (← expr fuel))
      expect ";"
      skipLines
      let after ← if ← isSign ")" then pure none else do pure (some (← expr fuel))
      closes
      skipLines
      let body ← inLoop (step fuel)
      let turns := Step.turns true test (after.map Step.value) body
      match first with
      | some e => return .block [.value e, turns]
      | none => return turns
termination_by structural fuel

/-- Steps between braces. -/
def block (fuel : Nat) : Read Step := do
  match fuel with
  | 0 => misplaced
  | fuel + 1 =>
    expect "\x7b"
    modify fun r => { r with braces := r.braces + 1 }
    let body ← steps fuel
    expect "\x7d"
    modify fun r => { r with braces := r.braces - 1 }
    return .block body
termination_by structural fuel

/-- The steps up to the end of a block. -/
def steps (fuel : Nat) : Read (List Step) := do
  match fuel with
  | 0 => misplaced
  | fuel + 1 =>
    skipLines
    match ← peek with
    | .sign "\x7d" => return []
    | .sign ";" =>
      skip
      steps fuel
    | .finish => misplaced
    | _ =>
      let first ← kept (step fuel) (.block [])
      return first :: (← steps fuel)
termination_by structural fuel

end

end Read

end ApkForge.Script.Rules
