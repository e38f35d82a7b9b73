-- Streams that lead elsewhere for a command: to a file, to where another stream leads, or to a text
-- in the script.
import ApkForge.Script.Fill

namespace ApkForge.Script

open Work

namespace Streams

/-- A stream that leads to something that was opened for it. -/
def lead (stream : Nat) (file : OpenFile) : Work Unit := modify fun m =>
  let (id, world) := m.world.openNew file
  { m with world, streams := (stream, id) :: m.streams.filter fun s => s.1 != stream }

/-- A stream that leads where another one leads. -/
def leadLike (stream other : Nat) : Work Bool := do
  let m ← get
  match m.streams.lookup other with
  | none => return false
  | some id =>
    set { m with streams := (stream, id) :: m.streams.filter fun s => s.1 != stream }
    return true

/-- A stream that is closed. -/
def close (stream : Nat) : Work Unit :=
  modify fun m => { m with streams := m.streams.filter fun s => s.1 != stream }

/-- The words for a fault, as the host says them. -/
def words (fault : FileFault) : String :=
  let text := String.ofList (fault.message.toList.takeWhile fun c => c != '(')
  (Text.dropTail? " " text).getD text

/-- Why a file cannot be opened, as a shell says it. -/
def openFault (rich creates : Bool) (target : String) (fault : FileFault) : String :=
  if rich then target ++ ": " ++ words fault
  else
    let reason := if fault == .missing || fault == .notDirectory then
        if creates then "Directory nonexistent" else "No such file"
      else words fault
    (if creates then "cannot create " else "cannot open ") ++ target ++ ": " ++ reason

/-- How a file is opened. -/
structure Opening where
  reads : Bool := false
  writes : Bool := false
  appends : Bool := false
  empties : Bool := false
  onlyNew : Bool := false

/-- A stream that leads to a device. -/
def leadToDevice (stream : Nat) (how : Opening) (device : Device) : Work Bool := do
  let file := fun (target : Target) => lead stream { target, reads := how.reads
                                                     writes := how.writes }
  match device with
  | .sink => file .sink
  | .zero => file .zero
  | .full => file .full
  | .stream other => return ← leadLike stream other
  return true

/-- A new file with the rights that the shell leaves to it. -/
def makeFile (place : Place) : Work Unit := modify fun m =>
  let disk := m.world.disk.write place []
  let mode := 438 &&& (511 - m.mask % 512)
  m.withDisk (if mode == 420 then disk else disk.setMode place mode)

/-- A stream that leads to a file; what to say if it cannot. -/
def leadToFile (stream : Nat) (how : Opening) (path : String) : Work (Option FileFault) := do
  let m ← get
  let opened := fun (place : Place) =>
    lead stream { target := .file place, appends := how.appends, reads := how.reads
                  writes := how.writes }
  if !how.writes then
    match m.stat path with
    | .error fault => return some fault
    | .ok (_, .device device) =>
      return if ← leadToDevice stream how device then none else some .missing
    | .ok (place, _) =>
      opened place
      return none
  else match m.world.disk.writable m.here path with
    | .error fault => return some fault
    | .ok (_, some (.device device)) =>
      return if ← leadToDevice stream how device then none else some .missing
    | .ok (place, some _) =>
      if how.onlyNew then return some .exists
      if how.empties then modify fun m => m.withDisk (m.world.disk.write place [])
      opened place
      return none
    | .ok (place, none) =>
      makeFile place
      opened place
      return none

/-- How a sign opens a file. -/
def opening? (noClobber : Bool) : String → Option Opening
  | ">" => some { writes := true, empties := true, onlyNew := noClobber }
  | ">|" => some { writes := true, empties := true }
  | ">>" => some { writes := true, appends := true }
  | "<" => some { reads := true }
  | "<>" => some { reads := true, writes := true }
  | "&>" => some { writes := true, empties := true }
  | "&>>" => some { writes := true, appends := true }
  | _ => none

/-- The stream that a sign moves if none is named. -/
def streamOf (sign : String) : Nat := if Text.beginsWith "<" sign then 0 else 1

/-- A stream that leads to a text. -/
def leadToText (stream : Nat) (text : String) : Work Unit :=
  lead stream { target := .supply [(0, text)] 0, writes := false }

/-- A redirection to a file by its sign; what to say if it fails. -/
def toFile (stream : Nat) (sign path : String) : Work (Option String) := do
  let m ← get
  match opening? (m.has "noclobber") sign with
  | none => return none
  | some how =>
    match ← leadToFile stream how path with
    | some fault =>
      if m.rich && how.onlyNew && fault == .exists then
        return some (path ++ ": cannot overwrite existing file")
      else return some (openFault m.rich how.writes path fault)
    | none =>
      if Text.beginsWith "&" sign then let _ ← leadLike 2 stream
      return none

/-- A redirection to where a numbered stream leads; what to say if it fails. -/
def toStream (stream : Nat) (sign raw text : String) : Work (Option String) := do
  let m ← get
  if text == "-" then
    close stream
    return none
  let moves := text.length > 1 && Text.endsWith "-" text
  let number := if moves && m.rich then String.ofList text.toList.dropLast else text
  let isNumber := number != "" && number.toList.all Char.isDigit
  if m.rich && !isNumber then
    if sign == ">&" then return ← toFile stream "&>" text
    return some (raw ++ ": ambiguous redirect")
  if !m.rich && (!isNumber || number.length > 1) then
    modify fun m => { m with line := m.readTo }
    report "Syntax error: Bad fd number"
    exits 2
  let other := number.toNat?.getD 0
  if ← leadLike stream other then
    if moves && other != stream then close other
    return none
  else return some ((if m.rich then raw else number) ++ ": Bad file descriptor")

/-- The lowest stream that a variable may get and that is free. -/
def newStream (m : Machine) : Nat :=
  ((List.range 240).map (10 + ·)).find? (fun n => (m.streams.lookup n).isNone) |>.getD 10

/-- The number of the stream that is moved. A variable gets the number of a new one, unless its
stream is to be closed. -/
def numberOf (moved : Moved) (usual : Nat) (closes : Bool) : Work Nat := do
  match moved with
  | .usual => return usual
  | .number n => return n
  | .held name =>
    let m ← get
    if closes then return (m.value name).toNat?.getD usual
    let n := newStream m
    assign name (toString n)
    return n

/-- One redirection; what to say if it fails. -/
def redirect (f : Filler) (r : Redirect) : Work (Option String) := do
  match r with
  | .inset stream number =>
    match (← get).insets.lookup number with
    | some word =>
      leadToText (← numberOf stream 0 false) (← f.one word)
      return none
    | none => return none
  | .file stream sign target =>
    let rich := (← get).rich
    let closes := Word.plain? target == some "-"
    if sign == "<<<" then
      let stream ← numberOf stream 0 false
      leadToText stream ((← f.one target) ++ "\n")
      return none
    let text ← if rich then do
        let texts ← f.args [target]
        match texts with
        | [only] => pure (some only)
        | _ => pure none
      else do pure (some (← f.one target))
    match text with
    | none => return some (Word.raw target ++ ": ambiguous redirect")
    | some text =>
      let stream ← numberOf stream (streamOf sign) closes
      if sign == ">&" || sign == "<&" then toStream stream sign (Word.raw target) text
      else toFile stream sign text

/-- Redirections from left to right, up to the first that fails. -/
def redirectAll (f : Filler) : List Redirect → Work (Option String)
  | [] => return none
  | r :: rs => do
    match ← redirect f r with
    | some complaint => return some complaint
    | none => redirectAll f rs

/-- Work with redirections, which end with it. If one fails something else is done after a
complaint. -/
def withinOr (f : Filler) (redirects : List Redirect) (act otherwise : Work Unit) : Work Unit := do
  if redirects.isEmpty then act
  else
    let m ← get
    let restore : Work Unit := modify fun now => { now with streams := m.streams }
    match ← outcome (redirectAll f redirects) with
    | .ok none => andThen act restore
    | .ok (some complaint) =>
      restore
      failsWith complaint
      otherwise
    | .error leave =>
      restore
      throw leave

/-- Work with redirections, which end with it. If one fails the work is not done. -/
def within (f : Filler) (redirects : List Redirect) (act : Work Unit) : Work Unit :=
  withinOr f redirects act (return ())

end Streams

end ApkForge.Script
