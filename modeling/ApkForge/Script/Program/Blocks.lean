-- The host's program that copies bytes in blocks.
import ApkForge.Script.Program.Lines

namespace ApkForge.Script.Program

open Work

namespace Blocks

/-! ## Its arguments -/

/-- How bytes are copied: from where, where to, in blocks of which sizes, how many of them, how many
are passed over at both ends, how they are changed, and how much is told. -/
structure Job where
  input : Option String := none
  output : Option String := none
  inSize : Nat := 512
  outSize : Nat := 512
  count : Option Nat := none
  skip : Nat := 0
  seek : Nat := 0
  changes : List String := []
  status : String := ""
deriving Inhabited

/-- What a letter behind a number multiplies it by. -/
def factors : List (String × Nat) :=
  [("", 1), ("c", 1), ("w", 2), ("b", 512), ("k", 1024), ("K", 1024), ("KiB", 1024), ("kB", 1000),
    ("KB", 1000), ("M", 1048576), ("MiB", 1048576), ("MB", 1000000), ("G", 1073741824),
    ("GiB", 1073741824), ("GB", 1000000000)]

/-- A number with a letter behind it. -/
def plainNumber? (text : String) : Option Nat := do
  let digits := text.toList.takeWhile Char.isDigit
  let n ← (String.ofList digits).toNat?
  let factor ← factors.lookup (String.ofList (text.toList.drop digits.length))
  return n * factor

/-- Numbers between signs of multiplication. -/
def number? (text : String) : Option Nat := do
  let parts ← (Text.split 'x' text).mapM plainNumber?
  return parts.foldl (· * ·) 1

/-- The changes that are known. -/
def knownChanges : List String :=
  ["ascii", "ebcdic", "ibm", "block", "unblock", "lcase", "ucase", "sparse", "swab", "sync",
    "excl", "nocreat", "notrunc", "noerror", "fdatasync", "fsync"]

/-- What is wrong with an argument, and whether help is named. -/
structure Wrong where
  words : String
  offersHelp : Bool := true

/-- A job with one more argument. -/
def withArgument (j : Job) (arg : String) : Except Wrong Job := do
  let key := String.ofList (arg.toList.takeWhile (· != '='))
  let value := String.ofList (arg.toList.drop (key.length + 1))
  let unknown : Except Wrong Job := .error ⟨"unrecognized operand " ++ named arg, true⟩
  if !arg.toList.contains '=' then unknown
  else
    let number ← match key with
      | "bs" | "ibs" | "obs" | "count" | "skip" | "seek" | "iseek" | "oseek" | "cbs" =>
        match number? value with
        | some n =>
          if n == 0 && ["bs", "ibs", "obs", "cbs"].contains key then
            .error ⟨"invalid number: " ++ named value, false⟩
          else pure n
        | none => .error ⟨"invalid number: " ++ named value, false⟩
      | _ => pure 0
    match key with
    | "if" => return { j with input := some value }
    | "of" => return { j with output := some value }
    | "bs" => return { j with inSize := number, outSize := number }
    | "ibs" => return { j with inSize := number }
    | "obs" => return { j with outSize := number }
    | "cbs" => return j
    | "count" => return { j with count := some number }
    | "skip" | "iseek" => return { j with skip := number }
    | "seek" | "oseek" => return { j with seek := number }
    | "iflag" | "oflag" => return j
    | "conv" =>
      let parts := Text.split ',' value
      match parts.find? fun p => !knownChanges.contains p with
      | some other => throw ⟨"invalid conversion: " ++ named other, true⟩
      | none => return { j with changes := j.changes ++ parts }
    | "status" =>
      if ["none", "noxfer", "progress"].contains value then return { j with status := value }
      else throw ⟨"invalid status level: " ++ named value, true⟩
    | _ => unknown

/-! ## Copying -/

/-- Characters two by two, each pair the other way round. -/
def swapped : List Char → List Char
  | a :: b :: rest => b :: a :: swapped rest
  | rest => rest

/-- Bytes as they are written. -/
def Job.changed (j : Job) (text : String) : String :=
  let text := if j.changes.contains "sync" && text.length % j.inSize != 0 then
      text ++ String.ofList (List.replicate (j.inSize - text.length % j.inSize) '\x00')
    else text
  let text := if j.changes.contains "swab" then String.ofList (swapped text.toList) else text
  let text := if j.changes.contains "ucase" then text.map Char.toUpper else text
  if j.changes.contains "lcase" then text.map Char.toLower else text

/-- Full blocks and parts of one. -/
def blocks (size length : Nat) : String :=
  toString (length / size) ++ "+" ++ (if length % size == 0 then "0" else "1")

/-- A number of bytes with a unit, each so many times as large as the one before. -/
def amount (base : Nat) (units : List String) (n : Nat) : String :=
  let rec go : Nat → List String → Nat × String
    | scale, [unit] => (scale, unit)
    | scale, unit :: more => if n < scale * base then (scale, unit) else go (scale * base) more
    | scale, [] => (scale, "")
  let (scale, unit) := go 1 units
  let tenths := Decimal.rounded (10 * n) scale
  if scale == 1 then toString n ++ " " ++ unit
  else if tenths < 100 then toString (tenths / 10) ++ "." ++ toString (tenths % 10) ++ " " ++ unit
  else toString (Decimal.rounded n scale) ++ " " ++ unit

/-- How many bytes were copied, in words. -/
def copiedWords (n : Nat) : String :=
  let plain := amount 1000 ["B", "kB", "MB", "GB"] n
  let binary := amount 1024 ["B", "KiB", "MiB", "GiB"] n
  let sizes := if n < 1000 then ""
    else if n < 1024 then " (" ++ plain ++ ")"
    else " (" ++ plain ++ ", " ++ binary ++ ")"
  let rate := amount 1000 ["B/s", "kB/s", "MB/s", "GB/s"] (n * 10000)
  toString n ++ (if n == 1 then " byte" else " bytes") ++ sizes ++ " copied, 0.0001 s, " ++ rate

/-- So many bytes of a stream. -/
def taken (stream n : Nat) : Work String := do
  let m ← get
  match m.streams.lookup stream with
  | none => return ""
  | some id =>
    let (text, _) := m.world.rest id
    if n < text.length then
      let world := m.world.take id n
      set { m with world := world.pass world.clock }
      return String.ofList (text.toList.take n)
    else readAll stream

/-- The bytes that are copied, or what is wrong. -/
def Job.source (j : Job) : Work (Except FileFault String) := do
  let limit := j.count.map fun n => (j.skip + n) * j.inSize
  let cut := fun (text : String) =>
    let cs := text.toList.drop (j.skip * j.inSize)
    String.ofList (match j.count with
      | some n => cs.take (n * j.inSize)
      | none => cs)
  let fromStream := fun (n : Nat) => do
    let text ← match limit with
      | some most => taken n most
      | none => readAll n
    return Except.ok (cut text)
  match j.input with
  | none => fromStream 0
  | some path =>
    let m ← get
    match m.stat path with
    | .ok (_, .device (.stream n)) => fromStream n
    | .ok (_, .device .sink) => return .ok ""
    | .ok (_, .device _) =>
      match j.count with
      | some n => return .ok (String.ofList (List.replicate (n * j.inSize) '\x00'))
      | none => giveUp
    | .ok _ => return (textOf m path).map cut
    | .error fault => return .error fault

/-- Bytes are put where they are to go, or it is said why they cannot be. -/
def Job.deliver (j : Job) (text : String) : Work (Option FileFault) := do
  match j.output with
  | none =>
    print text
    return none
  | some path =>
    let m ← get
    let old := ((textOf m path).toOption.getD "").toList
    let start := j.seek * j.outSize
    let front := old.take start ++ List.replicate (start - old.length) '\x00'
    let back := if j.changes.contains "notrunc" then old.drop (start + text.length) else []
    if j.changes.contains "excl" && m.world.disk.has m.here path then return some .exists
    else if j.changes.contains "nocreat" && !m.world.disk.has m.here path then return some .missing
    else writeFile path (String.ofList (front ++ text.toList ++ back))

/-- The bytes are copied. -/
def Job.run (j : Job) (self : String) : Work Unit := do
  match ← j.source with
  | .error .isDirectory =>
    fails self ("error reading " ++ named (j.input.getD "") ++ ": Is a directory") 1
  | .error fault =>
    fails self ("failed to open " ++ named (j.input.getD "") ++ ": " ++ Streams.words fault) 1
  | .ok text =>
    let new := j.changed text
    match ← j.deliver new with
    | some fault =>
      fails self ("failed to open " ++ named (j.output.getD "") ++ ": " ++ Streams.words fault) 1
    | none =>
      ends 0
      if j.status != "none" then
        complain (blocks j.inSize text.length ++ " records in")
        complain (blocks j.outSize new.length ++ " records out")
        if j.status != "noxfer" then complain (copiedWords new.length)

end Blocks

/-- Bytes are copied in blocks. -/
def dd (self : String) (args : List String) : Work Unit := do
  match args.foldlM Blocks.withArgument {} with
  | .error wrong => if wrong.offersHelp then misused self wrong.words else fails self wrong.words 1
  | .ok j => j.run self

end ApkForge.Script.Program
