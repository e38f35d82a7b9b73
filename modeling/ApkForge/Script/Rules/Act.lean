-- What rules do to the world around them: they read records and lines, print to files and commands,
-- and complain. Printed text is kept back until there is enough of it or someone else may write.
import ApkForge.Script.Program.Starting
import ApkForge.Script.Rules.Desk

namespace ApkForge.Script.Rules

/-- How a step leaves what is around it: for the next record or file, for the end of all rules, for
the end or the next turn of a loop, or for the caller with a value. After a fault nothing more is
done. -/
inductive Way where
  | next
  | nextFile
  | exit
  | broken
  | stop
  | again
  | back (value : Datum)
deriving Inhabited

/-- Work of rules. -/
abbrev Act (α : Type) := ExceptT Way (StateT Desk Work) α

namespace Act

/-! ## Complaints -/

/-- What comes of work, a result or a way to leave. -/
def outcome {α : Type} (act : Act α) : Act (Except Way α) := ExceptT.lift act.run

/-- Something is said on the stream of complaints. -/
def tells (words : String) : Act Unit := do
  Work.complain ((← get).self ++ ": " ++ words)

/-- A fault that ends all. -/
def breaks {α : Type} (words : String) : Act α := do
  tells words
  modify fun d => { d with status := 2 }
  throw .broken

/-- A fault of the rules at the record that they have come to. -/
def fault {α : Type} (words : String) : Act α := do
  let d ← get
  let count := fun (name : String) => Datum.numberText "%.6g" (d.countOf name)
  let file := d.textOf "FILENAME"
  breaks ("run time error: " ++ words ++ "\n\tFILENAME=\x22" ++ file ++ "\x22 FNR=" ++
    count "FNR" ++ " NR=" ++ count "NR")

/-! ## Expressions that are looked for -/

/-- The expression that a text is. -/
def sought (text : String) : Act Regex := do
  match (← get).patterns.get? text with
  | some e => return e
  | none =>
    match Sought.read text with
    | .ok e =>
      modify fun d => { d with patterns := d.patterns.insert text e }
      return e
    | .error words => fault words

/-- What a text divides others at. -/
def dividerOf (text : String) : Act Divider := do
  match text.toList with
  | [] => return .nothing
  | [' '] => return .blanks
  | [c] => return .sign c
  | _ => return .matches_ (← sought text)

/-- What a text says that ends records. -/
def enderOf (text : String) : Act Ender := do
  match text.toList with
  | [] => return .emptyLine
  | [c] => return .sign c
  | _ => return .match_ (← sought text)

/-! ## The record -/

/-- The fields of the record. -/
def fields : Act (Array Datum) := do
  let d ← get
  match d.fields with
  | some fields => return fields
  | none =>
    let parts := (← dividerOf (d.textOf "FS")).cut d.record
    let fields := (parts.map Datum.given).toArray
    modify fun d => { d with fields := some fields }
    return fields

/-- The record as a text. -/
def record : Act String := do
  let d ← get
  if d.isStale then
    let fields := (d.fields.getD #[]).toList
    let text := Text.join (d.textOf "OFS") (fields.map (Datum.toText d.form))
    set { d with record := text, isStale := false }
    return text
  else return d.record

/-- Another record. -/
def setRecord (text : String) : Act Unit :=
  modify fun d => { d with record := text, fields := none, isStale := false }

/-- A number of a field, or of fields. -/
def fieldNumber (x : Float) : Act Nat := do
  let n := Datum.truncated x
  if n < 0 then fault ("negative field index $" ++ toString n)
  else if n > 100000 then
    breaks ("program limit exceeded: maximum number of fields size=32767")
  else return n.toNat

/-- The value of a field; the record itself is field 0. -/
def field (n : Nat) : Act Datum := do
  if n == 0 then return .given (← record)
  else return (← fields).getD (n - 1) .nothing

/-- So many fields, empty ones at the end. -/
def setCount (n : Nat) : Act Unit := do
  let fields ← fields
  let fields := if n < fields.size then fields.extract 0 n
    else fields ++ (List.replicate (n - fields.size) (Datum.text "")).toArray
  modify fun d => { d with fields := some fields, isStale := true }

/-- A field with another value. -/
def setField (n : Nat) (value : Datum) : Act Unit := do
  if n == 0 then setRecord (value.toText (← get).form)
  else
    let present ← fields
    if present.size < n then setCount n
    modify fun d => { d with
      fields := d.fields.map fun fields => fields.setIfInBounds (n - 1) value
      isStale := true }

/-! ## Values -/

/-- A value by its name. -/
def named (name : String) : Act Datum := do
  if name == "NF" then return .number (Float.ofNat (← fields).size)
  else return (← get).values.getD name .nothing

/-- A name gets a value. -/
def setNamed (name : String) (value : Datum) : Act Unit := do
  if name == "NF" then setCount (← fieldNumber value.toNumber)
  else
    if name == "FS" then let _ ← fields
    modify fun d => { d with values := d.values.insert name value }

/-- What is kept in a place. -/
def held (spot : Spot) : Act Datum := do
  match spot with
  | .named name => named name
  | .own index =>
    match (← get).own[index]? with
    | some (.value v) => return v
    | _ => return .nothing

/-- A place gets a value. -/
def setHeld (spot : Spot) (value : Datum) : Act Unit := do
  match spot with
  | .named name => setNamed name value
  | .own index => modify fun d => { d with own := d.own.setIfInBounds index (.value value) }

/-- The name of the table in a place. -/
def tableName (spot : Spot) : Act String := do
  match spot with
  | .named name => return name
  | .own index =>
    match (← get).own[index]? with
    | some (.table name) => return name
    | _ => return ""

/-- A table by its name. -/
def table (name : String) : Act Table := do return (← get).tables.getD name {}

/-- Another table under a name. -/
def setTable (name : String) (t : Table) : Act Unit :=
  modify fun d => { d with tables := d.tables.insert name t }

/-- A table changes where it is. -/
def changeTable (name : String) (change : Table → Table) : Act Unit :=
  modify fun d =>
    let tables := d.tables
    let d := { d with tables := {} }
    { d with tables := tables.alter name fun t => some (change (t.getD {})) }

/-- The value of an entry of a table. One that is not there is made, and one that is counts as
used. -/
def entry (name key : String) (whole : Option Nat) : Act Datum := do
  match (((← get).tables.get? name).bind fun t => t.entries.get? key) with
  | some e =>
    if whole.isNone then changeTable name (Table.touch key)
    return e.value
  | none =>
    changeTable name (Table.put key whole .nothing)
    return .nothing

/-- A value as a text. -/
def textOf (value : Datum) : Act String := do return value.toText (← get).form

/-- A setting among the arguments: a name and a value, if it is one. -/
def setting? (text : String) : Option (String × String) :=
  let name := text.toList.takeWhile (· != '=')
  let isName := (name.head?.map Token.opensName).getD false &&
    name.all fun c => Token.opensName c || c.isDigit
  if isName && name.length < text.length then
    let value := text.toList.drop (name.length + 1)
    some (String.ofList name, String.ofList (Token.unescaped (value.length + 1) value))
  else none

/-! ## Printing -/

/-- What was kept back is printed. -/
def flushOutput : Act Unit := do
  let d ← get
  if !d.pending.isEmpty then
    set { d with pending := [], pendingSize := 0 }
    Work.print (String.join d.pending.reverse)

/-- What was kept back for files is written. -/
def flushOutlets : Act Unit := do
  let d ← get
  d.outlets.forM fun o => match o.stream with
    | some stream => do
      if !o.parts.isEmpty then
        let _ ← Work.writeTo stream (String.join o.parts.reverse)
    | none => return ()
  let emptied := fun (o : Outlet) => if o.stream.isSome then { o with parts := [] } else o
  set { d with outlets := d.outlets.map emptied }

/-- The room for text that is kept back. -/
def room : Nat := 4096

/-- Text is printed. -/
def print (text : String) : Act Unit := do
  modify fun d => { d with
    pending := text :: d.pending, pendingSize := d.pendingSize + text.length }
  if room ≤ (← get).pendingSize then flushOutput

/-- The words for a file that cannot be opened. -/
def unopened (name : String) (fault : FileFault) : String :=
  "cannot open " ++ name ++ " (" ++ Streams.words fault ++ ")"

/-- A file is opened to write into it, on a stream of its own. -/
def openFile (name : String) (atEnd : Bool) : Act Nat := do
  let m ← (getThe Machine : Work Machine)
  let stream := Streams.newStream m
  let how : Streams.Opening := { writes := true, appends := atEnd, empties := !atEnd }
  match ← Streams.leadToFile stream how name with
  | none => return stream
  | some fault =>
    breaks ("cannot open \x22" ++ name ++ "\x22 for output (" ++ Streams.words fault ++ ")")

/-- Text goes to a file or a command. -/
def printTo (direction : Direction) (name text : String) : Act Unit := do
  if direction == .output then print text
  else if direction != .command && (name == "/dev/stdout" || name == "-") then print text
  else if direction != .command && name == "/dev/stderr" then let _ ← Work.writeTo 2 text
  else
    if !((← get).outlets.any fun o => o.name == name) then
      let stream ← if direction == .command then pure none
        else do pure (some (← openFile name (direction == .fileEnd)))
      modify fun d => { d with outlets := { name, stream } :: d.outlets }
    let added := fun (o : Outlet) =>
      if o.name == name then { o with parts := text :: o.parts } else o
    modify fun d => { d with outlets := d.outlets.map added }

/-! ## Commands -/

/-- How a command ended, as a number. -/
def endingNumber : Program.Outcome → Nat
  | .status n => n
  | .signal n => 256 + n
  | .fault f => Program.faultStatus f

/-- A command is run by a shell, and waited for. -/
def runCommand (launcher : Launcher) (command : String) : Act Nat := do
  return endingNumber (← Program.started launcher "/bin/sh" ["-c", command])

/-- A command is run with a text as its input. -/
def runWith (launcher : Launcher) (command text : String) : Act Nat := do
  let m ← (getThe Machine : Work Machine)
  let before := m.streams
  Streams.leadToText 0 text
  let n ← runCommand launcher command
  modifyThe Machine fun m => { m with streams := before }
  return n

/-- What a command writes, and how it ends. -/
def outputOf (launcher : Launcher) (command : String) : Act (Nat × String) := do
  let act : Work Unit := do
    Work.ends (endingNumber (← Program.started launcher "/bin/sh" ["-c", command]))
  let (ending, text) ← Child.output act
  return (ending.status, text)

/-- Something that was written to is closed; how it ended. -/
def closeOutlet (launcher : Launcher) (o : Outlet) : Act Nat := do
  match o.stream with
  | some stream =>
    let _ ← Work.writeTo stream (String.join o.parts.reverse)
    Streams.close stream
    return 0
  | none => runWith launcher o.name (String.join o.parts.reverse)

/-- All that was written to is closed, what was used last first. -/
def closeAll (launcher : Launcher) : Act Unit := do
  let outlets := (← get).outlets
  modify fun d => { d with outlets := [] }
  outlets.forM fun o => do
    let _ ← closeOutlet launcher o
  flushOutput

/-- What has a name is closed; how it ended, or -1 if nothing has the name. -/
def close (launcher : Launcher) (name : String) : Act Int := do
  let d ← get
  match d.outlets.find? fun o => o.name == name, d.inlets.find? fun i => i.name == name with
  | some o, _ =>
    set { d with outlets := d.outlets.filter fun o => o.name != name }
    flushOutput
    return Int.ofNat (← closeOutlet launcher o)
  | none, some i =>
    set { d with inlets := d.inlets.filter fun i => i.name != name }
    return Int.ofNat (i.status.getD 0)
  | none, none => return -1

/-! ## Reading -/

/-- The next argument that names a file is opened; a setting is made when its turn comes. Says
whether there is something to read. -/
def openNext : Nat → Act Bool
  | 0 => return false
  | fuel + 1 => do
    let d ← get
    let last := Datum.truncated ((d.values.getD "ARGC" .nothing).toNumber)
    if last ≤ Int.ofNat d.nextArgument then
      if !d.readsInput then return false
      setNamed "FILENAME" (.given "-")
      setNamed "FNR" (.number 0)
      let text ← Work.readAll 0
      modify fun d => { d with readsInput := false, source := some text.toList }
      return true
    else
      let key := toString d.nextArgument
      let arg := ((((← table "ARGV").entries.get? key).map Entry.value).getD .nothing).toText d.form
      set { d with nextArgument := d.nextArgument + 1 }
      if arg == "" then openNext fuel
      else match setting? arg with
        | some (name, value) =>
          setNamed name (.given value)
          openNext fuel
        | none =>
          setNamed "FILENAME" (.given arg)
          setNamed "FNR" (.number 0)
          match ← Program.inputOf arg with
          | .ok text =>
            modify fun d => { d with source := some text.toList, readsInput := false }
            return true
          | .error .isDirectory => breaks "read error (Is a directory)"
          | .error fault => breaks (unopened arg fault)

/-- The next record that the rules work on. -/
def nextRecord : Nat → Act (Option String)
  | 0 => return none
  | fuel + 1 => do
    let d ← get
    match d.source with
    | none =>
      if ← openNext (fuel + 1) then nextRecord fuel else return none
    | some cs =>
      match (← enderOf (d.textOf "RS")).cut cs with
      | some (text, rest) =>
        modify fun d => { d with source := some rest }
        return some text
      | none =>
        modify fun d => { d with source := none }
        nextRecord fuel

/-- The most files that are looked at for a record. -/
def mostFiles : Nat := 100000

/-- The next record, counted. -/
def countedRecord : Act (Option String) := do
  match ← nextRecord mostFiles with
  | none => return none
  | some text =>
    modify fun d => (d.countOne "NR").countOne "FNR"
    return some text

/-- What has a name is opened to read lines from it; says whether it could be. -/
def openInlet (launcher : Launcher) (isCommand : Bool) (name : String) : Act Bool := do
  if (← get).inlets.any fun i => i.name == name then return true
  if isCommand then
    flushOutput
    flushOutlets
    let (status, text) ← outputOf launcher name
    let inlet : Inlet := { name, rest := text.toList, status := some status }
    modify fun d => { d with inlets := inlet :: d.inlets }
    return true
  else
    let path := if name == "/dev/stdin" then "-" else name
    match ← Program.inputOf path with
    | .ok text =>
      modify fun d => { d with inlets := { name, rest := text.toList } :: d.inlets }
      return true
    | .error _ => return false

/-- A line from what has a name; `-1` says that it cannot be read and `0` that it has come to its
end. -/
def lineFrom (launcher : Launcher) (isCommand : Bool) (name : String) :
    Act (Except Int String) := do
  if !(← openInlet launcher isCommand name) then return .error (-1)
  let d ← get
  match d.inlets.find? fun i => i.name == name with
  | none => return .error (-1)
  | some i =>
    match (← enderOf (d.textOf "RS")).cut i.rest with
    | none => return .error 0
    | some (text, rest) =>
      let moved := fun (j : Inlet) => if j.name == name then { j with rest } else j
      modify fun d => { d with inlets := d.inlets.map moved }
      return .ok text

end Act

end ApkForge.Script.Rules
