-- Running rules: expressions give values, steps are done one after the other, and the rules are
-- tried for each record.
import ApkForge.Script.Rules.Known

namespace ApkForge.Script.Rules

open Act

/-- The rules that run, and how they start commands. -/
structure Running where
  program : Program
  launcher : Launcher

/-! ## Loops -/

/-- The most turns that a loop takes. -/
def mostTurns : Nat := 10000000

/-- A loop. `tests` says whether the next turn must be asked for. -/
def turnsOf (test : Act Bool) (body after : Act Unit) : Nat → Bool → Act Unit
  | 0, _ => do (Work.giveUp : Work Unit)
  | fuel + 1, tests => do
    let goes ← if tests then test else pure true
    if goes then
      if fuel % 4 == 0 then Work.takeTurn
      match ← outcome body with
      | .ok () =>
        after
        turnsOf test body after fuel true
      | .error .again =>
        after
        turnsOf test body after fuel true
      | .error .stop => return ()
      | .error way => throw way

/-- A loop through keys. -/
def eachOf (put : String → Act Unit) (body : Act Unit) : List String → Act Unit
  | [] => return ()
  | key :: keys => do
    put key
    match ← outcome body with
    | .ok () => eachOf put body keys
    | .error .again => eachOf put body keys
    | .error .stop => return ()
    | .error way => throw way

/-! ## Values -/

/-- A key of a table, and the number that it is. -/
def keyText (values : List Datum) : Act (String × Option Nat) := do
  let d ← get
  match values with
  | [.number x] =>
    if Datum.isWhole x then
      return (toString (Datum.wholeOf x), if x < 0 then none else some (Datum.wholeOf x).toNat)
    else return (Datum.numberText d.form x, none)
  | values => return (Text.join (d.textOf "SUBSEP") (values.map (Datum.toText d.form)), none)

/-- The words for calls that are nested too deep. -/
def tooDeep : String := "program limit exceeded: eval stack size=1024"

mutual

/-- The value of an expression, nested at most so deep. -/
def value (r : Running) (fuel : Nat) (e : Expr) : Act Datum := do
  match fuel with
  | 0 => breaks tooDeep
  | fuel + 1 =>
    match e with
    | .number x => return .number x
    | .text s => return .text s
    | .pattern s => return .ofBool ((← sought s).occurs false (← record))
    | .held spot => held spot
    | .element spot keys =>
      let (key, whole) ← keyText (← values r fuel keys)
      entry (← tableName spot) key whole
    | .field index => field (← fieldNumber (← value r fuel index).toNumber)
    | .put target op e =>
      match op with
      | none =>
        let v ← value r fuel e
        put r fuel target v
        return v
      | some op =>
        let new ← value r fuel e
        let old ← value r fuel target
        let v := Datum.number (Known.operate op old.toNumber new.toNumber)
        put r fuel target v
        return v
    | .step target up first =>
      let old := (← value r fuel target).toNumber
      let new := if up then old + 1 else old - 1
      put r fuel target (.number new)
      return .number (if first then new else old)
    | .negative e => return .number (-(← value r fuel e).toNumber)
    | .positive e => return .number (← value r fuel e).toNumber
    | .opposite e => return .ofBool (!(← value r fuel e).holds)
    | .sum op a b =>
      let x ← value r fuel a
      let y ← value r fuel b
      return .number (Known.operate op x.toNumber y.toNumber)
    | .joined a b =>
      let x ← textOf (← value r fuel a)
      let y ← textOf (← value r fuel b)
      return .text (x ++ y)
    | .compare relation a b =>
      let x ← value r fuel a
      let y ← value r fuel b
      return .ofBool (relation.holds (Datum.order (← get).form x y))
    | .all a b =>
      if (← value r fuel a).holds then return .ofBool (← value r fuel b).holds
      else return .ofBool false
    | .any a b =>
      if (← value r fuel a).holds then return .ofBool true
      else return .ofBool (← value r fuel b).holds
    | .choose test yes no =>
      if (← value r fuel test).holds then value r fuel yes else value r fuel no
    | .fits negated text what =>
      let s ← textOf (← value r fuel text)
      let e ← expression r fuel what
      return .ofBool (e.occurs false s != negated)
    | .has spot keys =>
      let (key, _) ← keyText (← values r fuel keys)
      return .ofBool ((← table (← tableName spot)).entries.contains key)
    | .call name args => call r fuel name args
    | .known name args => known r fuel name args
    | .line origin name target => line r fuel origin name target
termination_by structural fuel

/-- The values of expressions. -/
def values (r : Running) (fuel : Nat) (es : List Expr) : Act (List Datum) := do
  match fuel with
  | 0 => breaks tooDeep
  | fuel + 1 =>
    match es with
    | [] => return []
    | e :: rest =>
      let v ← value r fuel e
      return v :: (← values r fuel rest)
termination_by structural fuel

/-- The expression that is looked for. -/
def expression (r : Running) (fuel : Nat) (e : Expr) : Act Regex := do
  match fuel with
  | 0 => breaks tooDeep
  | fuel + 1 =>
    match e with
    | .pattern s => sought s
    | e => sought (← textOf (← value r fuel e))
termination_by structural fuel

/-- A place gets a value. -/
def put (r : Running) (fuel : Nat) (target : Expr) (v : Datum) : Act Unit := do
  match fuel with
  | 0 => breaks tooDeep
  | fuel + 1 =>
    match target with
    | .held spot => setHeld spot v
    | .field index => setField (← fieldNumber (← value r fuel index).toNumber) v
    | .element spot keys =>
      let (key, whole) ← keyText (← values r fuel keys)
      changeTable (← tableName spot) (Table.put key whole v)
    | _ => return ()
termination_by structural fuel

/-- What a command of the rules' own is given for its places, from one on. -/
def givenTo (r : Running) (fuel : Nat) (c : Command) (index : Nat) (args : List Expr) :
    Act (List Own) := do
  match fuel with
  | 0 => breaks tooDeep
  | fuel + 1 =>
    if c.size ≤ index then return []
    let own ← if r.program.takesTable c.name index then
        match args with
        | .held spot :: _ => pure (Own.table (← tableName spot))
        | _ => do
          modify fun d => { d with calls := d.calls + 1 }
          pure (Own.table ("#" ++ toString (← get).calls))
      else match args with
        | e :: _ => pure (Own.value (← value r fuel e))
        | [] => pure (Own.value .nothing)
    return own :: (← givenTo r fuel c (index + 1) args.tail)
termination_by structural fuel

/-- A command of the rules' own is called. -/
def call (r : Running) (fuel : Nat) (name : String) (args : List Expr) : Act Datum := do
  match fuel with
  | 0 => breaks tooDeep
  | fuel + 1 =>
    match r.program.command? name with
    | none => return .nothing
    | some c =>
      let before := (← get).own
      let own ← givenTo r fuel c 0 args
      modify fun d => { d with own := own.toArray }
      let result ← outcome (run r fuel c.body)
      modify fun d => { d with own := before }
      match result with
      | .ok () => return .nothing
      | .error (.back v) => return v
      | .error way => throw way
termination_by structural fuel

/-- A command that is known without being defined is called. -/
def known (r : Running) (fuel : Nat) (name : String) (args : List Expr) : Act Datum := do
  match fuel with
  | 0 => breaks tooDeep
  | fuel + 1 =>
    match name, args with
    | "length", [.held spot] =>
      let isTable := match spot, (← get).own with
        | .named _, _ => r.program.tables.contains ("", spot)
        | .own index, own => match own[index]? with
          | some (.table _) => true
          | _ => false
      if isTable then return .number (Float.ofNat (← table (← tableName spot)).size)
      else return .number (Float.ofNat (← textOf (← held spot)).length)
    | "split", text :: .held spot :: more =>
      let s ← textOf (← value r fuel text)
      let divider ← match more with
        | [] => dividerOf ((← get).textOf "FS")
        | .pattern e :: _ => pure (.matches_ (← sought e))
        | e :: _ => dividerOf (← textOf (← value r fuel e))
      let parts := divider.cut s
      setTable (← tableName spot) (Table.ofList (parts.map Datum.given))
      return .number (Float.ofNat parts.length)
    | "match", [text, what] =>
      let s ← textOf (← value r fuel text)
      let e ← expression r fuel what
      let (start, length) := match e.search { text := s.toList.toArray } 0 with
        | some m => (Float.ofNat (m.start + 1), Float.ofNat (m.finish - m.start))
        | none => (0, -1)
      setNamed "RSTART" (.number start)
      setNamed "RLENGTH" (.number length)
      return .number start
    | "sub", what :: by_ :: more => replace r fuel false what by_ more
    | "gsub", what :: by_ :: more => replace r fuel true what by_ more
    | name, args => Known.run r.launcher name (← values r fuel args)
termination_by structural fuel

/-- Matches in a place are replaced, in the record if no place is named. -/
def replace (r : Running) (fuel : Nat) (all : Bool) (what by_ : Expr) (more : List Expr) :
    Act Datum := do
  match fuel with
  | 0 => breaks tooDeep
  | fuel + 1 =>
    let e ← expression r fuel what
    let new ← textOf (← value r fuel by_)
    let target := more.headD (.field (.number 0))
    let old ← textOf (← value r fuel target)
    let (text, count) := Known.substituted e all new old
    if count > 0 then put r fuel target (.text text)
    return .number (Float.ofNat count)
termination_by structural fuel

/-- A line is read, into a place or into the record; the value is 1 if there was one, 0 at the end,
and -1 if it cannot be read. -/
def line (r : Running) (fuel : Nat) (origin : Origin) (name target : Option Expr) : Act Datum := do
  match fuel with
  | 0 => breaks tooDeep
  | fuel + 1 =>
    let text : Except Int String ← match origin, name with
      | .records, _ => do
        match ← countedRecord with
        | some text => pure (.ok text)
        | none => pure (.error 0)
      | origin, some e => do
        lineFrom r.launcher (origin == .command) (← textOf (← value r fuel e))
      | _, none => pure (.error (-1))
    match text with
    | .error n => return .number (Float.ofInt n)
    | .ok text =>
      match target with
      | none => setRecord text
      | some target => put r fuel target (.given text)
      return .number 1
termination_by structural fuel

/-- A step is done. -/
def run (r : Running) (fuel : Nat) (s : Step) : Act Unit := do
  match fuel with
  | 0 => breaks tooDeep
  | fuel + 1 =>
    match s with
    | .value e => let _ ← value r fuel e
    | .print formatted args direction name => printed r fuel formatted args direction name
    | .block steps => runAll r fuel steps
    | .choose test yes no =>
      if (← value r fuel test).holds then run r fuel yes
      else match no with
        | some no => run r fuel no
        | none => return ()
    | .turns testsFirst test after body =>
      let asked := match test with
        | some e => do return (← value r fuel e).holds
        | none => return true
      let then_ := match after with
        | some s => run r fuel s
        | none => return ()
      turnsOf asked (run r fuel body) then_ mostTurns testsFirst
    | .each target spot body =>
      let keys := (← table (← tableName spot)).keys
      eachOf (fun key => put r fuel target (.given key)) (run r fuel body) keys
    | .stop => throw .stop
    | .again => throw .again
    | .next => throw .next
    | .nextFile => throw .nextFile
    | .exit status =>
      match status with
      | some e =>
        let n := Datum.truncated (← value r fuel e).toNumber
        modify fun d => { d with status := (n % 256).toNat }
      | none => pure ()
      throw .exit
    | .back result =>
      match result with
      | some e => throw (.back (← value r fuel e))
      | none => throw (.back .nothing)
    | .delete spot keys =>
      let name ← tableName spot
      match keys with
      | none => setTable name {}
      | some keys =>
        let (key, _) ← keyText (← values r fuel keys)
        changeTable name (Table.erase key)
termination_by structural fuel

/-- Steps are done one after the other. -/
def runAll (r : Running) (fuel : Nat) (steps : List Step) : Act Unit := do
  match fuel with
  | 0 => breaks tooDeep
  | fuel + 1 =>
    match steps with
    | [] => return ()
    | s :: rest =>
      run r fuel s
      runAll r fuel rest
termination_by structural fuel

/-- Values are printed, with signs between and behind them or in a format. -/
def printed (r : Running) (fuel : Nat) (formatted : Bool) (args : List Expr)
    (direction : Direction) (name : Option Expr) : Act Unit := do
  match fuel with
  | 0 => breaks tooDeep
  | fuel + 1 =>
    let vs ← values r fuel args
    let target ← match name with
      | some e => textOf (← value r fuel e)
      | none => pure ""
    if formatted then
      printTo direction target (← Known.formatted "printf" vs (printTo direction target))
    else
      let d ← get
      let texts ← if vs.isEmpty then do pure [← record]
        else pure (vs.map (Datum.toText (d.textOf "OFMT")))
      printTo direction target (Text.join (d.textOf "OFS") texts ++ d.textOf "ORS")
termination_by structural fuel

end

/-! ## Rules -/

/-- How deep values and steps are nested at most. -/
def mostDepth : Nat := 3000

/-- A rule without steps shows the record. -/
def bodyOf (rule : Rule) : Step := rule.body.getD (.print false [] .output none)

/-- A rule is meant for the record. A stretch goes from a record with which one expression holds to
one with which another does. -/
def isMeant (r : Running) (index : Nat) (rule : Rule) : Act Bool := do
  match rule.pattern with
  | .start => return false
  | .finish => return false
  | .always => return true
  | .when e => return (← value r mostDepth e).holds
  | .between first last =>
    let inside := (← get).stretches.contains index
    let begins ← if inside then pure true else do pure (← value r mostDepth first).holds
    if !begins then return false
    let ends := (← value r mostDepth last).holds
    modify fun d =>
      let others := d.stretches.filter (· != index)
      { d with stretches := if ends then others else index :: others }
    return true

/-- The rules are tried for a record, one after the other. -/
def tryRules (r : Running) : List (Nat × Rule) → Act Unit
  | [] => return ()
  | (index, rule) :: rest => do
    if ← isMeant r index rule then run r mostDepth (bodyOf rule)
    tryRules r rest

/-- The rules are tried for each record that is left. -/
def tryAll (r : Running) (rules : List (Nat × Rule)) : Nat → Act Unit
  | 0 => return ()
  | fuel + 1 => do
    match ← countedRecord with
    | none => return ()
    | some text =>
      setRecord text
      match ← outcome (tryRules r rules) with
      | .ok () => tryAll r rules fuel
      | .error .next => tryAll r rules fuel
      | .error .nextFile =>
        modify fun d => { d with source := none }
        tryAll r rules fuel
      | .error way => throw way

/-- The rules before all records, or after them. -/
def bodiesOf (p : Program) (isWanted : Pattern → Bool) : List Step :=
  (p.rules.filter fun rule => isWanted rule.pattern).map bodyOf

/-- A rule is for the time before all records. -/
def isStart : Pattern → Bool
  | .start => true
  | _ => false

/-- A rule is for the time after all records. -/
def isFinish : Pattern → Bool
  | .finish => true
  | _ => false

/-- The rules are run from the beginning to the end. One that asks for the end gets to those for the
time after all records, unless it is one of them. -/
def runProgram (r : Running) : Act Unit := do
  let p := r.program
  let numbered := (List.range p.rules.length).zip p.rules
  let main := numbered.filter fun n => !isStart n.2.pattern && !isFinish n.2.pattern
  let finish := bodiesOf p isFinish
  let first ← outcome do
    (bodiesOf p isStart).forM (run r mostDepth)
    if !main.isEmpty || !finish.isEmpty then tryAll r main mostTurns
  let goesOn := match first with
    | .error .broken => false
    | _ => true
  if goesOn then
    let _ ← outcome (finish.forM (run r mostDepth))
  closeAll r.launcher

end ApkForge.Script.Rules
