-- What the processes of a run share: the files, the streams that are open, the time, and all that
-- was written when. A process that was not waited for has run already; what it did is known with
-- the time, and is seen when that has come.
import ApkForge.Script.Disk

namespace ApkForge.Script

/-- Where an open stream leads: to one of the two outputs of the run, to a device, to a file, or to
the two ends of a pipe. A pipe that nobody reads to its end has room for so much; what comes out of
one is known with the time it comes at. -/
inductive Target where
  | output (isError : Bool)
  | sink
  | zero
  | full
  | file (place : Place)
  | gather (room : Option Nat)
  | supply (parts : List (Nat × String)) (endsAt : Nat)
deriving Repr, Inhabited

/-- A stream that is open. -/
structure OpenFile where
  target : Target
  position : Nat := 0
  appends : Bool := false
  reads : Bool := true
  writes : Bool := true
deriving Inhabited

/-- Text that was written to an open stream. -/
structure Event where
  time : Nat
  file : Nat
  text : String
deriving Inhabited

/-- A process that was not waited for yet: the process that began it, when it ends and how, what it
writes, and how it leaves the files at which time. -/
structure Job where
  process : Nat
  parent : Nat
  finish : Nat
  status : Nat
  signal : Option Nat := none
  events : List Event := []
  moments : List (Nat × Disk) := []
  before : Disk
  files : List Nat := []
  ended : Bool := false
  gone : Bool := false
deriving Inhabited

/-- The number of the first process of a run. -/
def firstProcess : Nat := 4711

/-- What the processes of a run share. What was written is kept newest first. -/
structure World where
  disk : Disk
  files : List (Nat × OpenFile) := []
  nextFile : Nat := 10
  events : List Event := []
  clock : Nat := 0
  limit : Option Nat := none
  turns : Nat := 300000
  lastProcess : Nat := firstProcess
  jobs : List Job := []
  moments : List (Nat × Disk) := []
deriving Inhabited

namespace World

/-- Seconds since the beginning of 1970, at which a run begins. -/
def epoch : Int := 1700000000

/-- The time of day that it is in a run, in seconds since the beginning of 1970. -/
def now (w : World) : Int := epoch + Int.ofNat (w.clock / 1000)

/-- When a place was changed last, in seconds since the beginning of 1970. -/
def changedAt (w : World) (place : Place) : Int :=
  epoch + Int.fdiv (w.disk.stampAt place) 1000000

/-- How long ago a place was changed last, in millionths of a second. -/
def ageOf (w : World) (place : Place) : Int :=
  Int.ofNat (w.clock * 1000 + w.disk.changes + 1) - w.disk.stampAt place

/-! ## Streams -/

/-- A new open stream. -/
def openNew (w : World) (file : OpenFile) : Nat × World :=
  (w.nextFile, { w with files := (w.nextFile, file) :: w.files, nextFile := w.nextFile + 1 })

/-- An open stream that has changed. -/
def update (w : World) (id : Nat) (file : OpenFile) : World :=
  { w with files := (id, file) :: w.files.filter fun f => f.1 != id }

/-- A text put over part of another, which is made as long as it must be. -/
def overlay (old : Bytes) (position : Nat) (new : Bytes) : Bytes :=
  if position == old.length then old ++ new
  else
    old.take position ++ List.replicate (position - old.length) 0 ++ new ++
      old.drop (position + new.length)

/-- What becomes of a text that is written: it is taken, there is no room on the device, the stream
cannot be written, or nobody reads the pipe any more. -/
inductive Written where
  | taken
  | noRoom
  | notWritable
  | broken
deriving DecidableEq, Repr

/-- Text written to an open stream. -/
def write (w : World) (id : Nat) (text : String) : Written × World :=
  match w.files.lookup id with
  | none => (.notWritable, w)
  | some file =>
    let noted := { w with events := ⟨w.clock, id, text⟩ :: w.events }
    if !file.writes then (.notWritable, w)
    else match file.target with
    | .output _ => (.taken, noted)
    | .gather none => (.taken, noted)
    | .gather (some room) =>
      if room < text.length then (.broken, w)
      else (.taken, noted.update id { file with target := .gather (some (room - text.length)) })
    | .sink => (.taken, w)
    | .zero => (.taken, w)
    | .full => (.noRoom, w)
    | .supply _ _ => (.notWritable, w)
    | .file place =>
      match w.disk.tree.at? place with
      | some (.file content _) =>
        let bytes := Octet.toBytes text
        let position := if file.appends then content.length else file.position
        let disk := w.disk.write place (overlay content position bytes)
        (.taken, { w.update id { file with position := position + bytes.length } with disk })
      | _ => (.taken, w)

/-- The text that is still to come from a stream, and the time at which it has come. -/
def rest (w : World) (id : Nat) : String × Nat :=
  match w.files.lookup id with
  | none => ("", w.clock)
  | some file =>
    match file.target with
    | .file place =>
      match w.disk.tree.at? place with
      | some (.file content _) => (Octet.ofBytes (content.drop file.position), w.clock)
      | _ => ("", w.clock)
    | .supply parts endsAt => (String.join (parts.map Prod.snd), max w.clock endsAt)
    | .zero => (String.ofList (List.replicate 65536 '\x00'), w.clock)
    | .full => (String.ofList (List.replicate 65536 '\x00'), w.clock)
    | _ => ("", w.clock)

/-- The parts of a supply without so many characters in front, and when the last of them came. -/
def dropSupply : Nat → Nat → List (Nat × String) → List (Nat × String) × Nat
  | time, _, [] => ([], time)
  | time, 0, parts => (parts, time)
  | time, n, (at_, text) :: parts =>
    let time := max time at_
    if n < text.length then ((at_, String.ofList (text.toList.drop n)) :: parts, time)
    else dropSupply time (n - text.length) parts

/-- So many characters of a stream are taken. -/
def take (w : World) (id n : Nat) : World :=
  match w.files.lookup id with
  | none => w
  | some file =>
    match file.target with
    | .file _ => w.update id { file with position := file.position + n }
    | .supply parts endsAt =>
      let (parts, clock) := dropSupply w.clock n parts
      { w.update id { file with target := .supply parts endsAt } with clock }
    | _ => w

/-- The end of a stream has come. -/
def finish (w : World) (id : Nat) : World :=
  match w.files.lookup id with
  | none => w
  | some file =>
    match file.target with
    | .supply _ endsAt =>
      { w.update id { file with target := .supply [] endsAt } with clock := max w.clock endsAt }
    | .file place =>
      match w.disk.tree.at? place with
      | some (.file content _) => w.update id { file with position := content.length }
      | _ => w
    | _ => w

/-! ## Time -/

/-- What has changed from one state of the files to another, done to a third. -/
def replay (old new target : Disk) : Disk :=
  let gone := fun {α : Type} (before after : List (Place × α)) =>
    before.filterMap fun e => if (after.lookup e.1).isNone then some e.1 else none
  let disk := (gone old.tree.entries new.tree.entries ++ gone old.links new.links).foldl
    Disk.prune target
  let added := new.tree.entries.filter fun e => old.tree.entries.lookup e.1 != some e.2
  let links := new.links.filter fun e => old.links.lookup e.1 != some e.2
  let disk := added.foldr (fun e (d : Disk) =>
    { d with tree := d.tree.put e.1 e.2 }.touch e.1) disk
  { disk with links := links ++ disk.links
              modes := (new.modes.filter fun e => old.modes.lookup e.1 != some e.2) ++ disk.modes }

/-- What a process that was not waited for has done up to now is seen. -/
def advanceJob (w : World) (j : Job) : World × Job :=
  let due := j.moments.filter fun m => m.1 ≤ w.clock
  let (disk, before) := due.foldl
    (fun (disk, before) m => (replay before m.2 disk, m.2)) (w.disk, j.before)
  let ended := j.finish ≤ w.clock
  let events := if ended && !j.ended then j.events ++ w.events else w.events
  ({ w with disk, events },
    { j with before, ended, moments := j.moments.filter fun m => w.clock < m.1
             events := if ended then [] else j.events })

/-- What all processes that were not waited for have done up to now is seen. -/
def advance (w : World) : World :=
  let jobs := w.jobs
  jobs.foldl (fun w j => let (w, j) := w.advanceJob j; { w with jobs := w.jobs ++ [j] })
    { w with jobs := [] }

/-- Time passes. -/
def pass (w : World) (clock : Nat) : World :=
  advance { w with clock := max w.clock clock, moments := (w.clock, w.disk) :: w.moments }

/-- A process that was not waited for ends now. -/
def stop (w : World) (process signal : Nat) : World :=
  let stopped := fun (j : Job) =>
    if j.process == process && !j.ended then
      { j with finish := w.clock, status := 128 + signal, signal := some signal
               events := j.events.filter fun e => e.time ≤ w.clock
               moments := j.moments.filter fun m => m.1 ≤ w.clock }
    else j
  advance { w with jobs := w.jobs.map stopped }

/-- What was written to a stream, in the order of time. -/
def writtenTo (w : World) (id : Nat) : List (Nat × String) :=
  let own := (w.events.filter fun e => e.file == id).reverse
  sortBy (fun a b => decide (a.1 < b.1)) (own.map fun e => (e.time, e.text))

/-- When the last process has ended that may still write to one of these streams. -/
def lastWriter (w : World) (ids : List Nat) : Nat :=
  ((w.jobs.filter fun j => j.files.any ids.contains).map Job.finish).foldl max w.clock

end World

end ApkForge.Script
