-- Command lines in general: commands with commands below them, switches, and one argument without a
-- switch. A line is scanned from left to right; a value is checked when the next switch or the end
-- of its command is reached, so of two faults the one that shows first need not be the first.
import ApkForge.Text.Split

namespace ApkForge.CommandLine

/-! ## What a command takes -/

/-- The values of a switch: any text, a path that is not empty, or a whole number of 32 bits. -/
inductive ValueKind where
  | text
  | path
  | number
deriving DecidableEq, Repr

/-- What a switch does. -/
inductive Effect where
  | sets
  | counts
  | takes (kind : ValueKind) (many : Bool)
  | help
  | version
deriving DecidableEq, Repr

/-- A switch, by its long name and perhaps a letter. -/
structure Switch where
  name : String
  letter : Option Char := none
  effect : Effect
deriving DecidableEq, Repr

/-- A command: its switches, the argument without a switch that it may take, two switches that
exclude each other, and the commands below it, one of which it may need. -/
inductive Spec where
  | command (name : String) (switches : List Switch) (argument : Option Switch)
      (excludes : List (String × String)) (inner : List Spec) (needsInner : Bool)

namespace Spec

/-- The name of a command. -/
def name : Spec → String
  | command n _ _ _ _ _ => n

/-- The switches of a command. -/
def switches : Spec → List Switch
  | command _ s _ _ _ _ => s

/-- The argument without a switch. -/
def argument : Spec → Option Switch
  | command _ _ a _ _ _ => a

/-- The switches that exclude each other. -/
def excludes : Spec → List (String × String)
  | command _ _ _ e _ _ => e

/-- The commands below a command. -/
def inner : Spec → List Spec
  | command _ _ _ _ b _ => b

/-- A command without one of the commands below it is not whole. -/
def needsInner : Spec → Bool
  | command _ _ _ _ _ n => n

/-- A command below, by its name. -/
def find? (spec : Spec) (name : String) : Option Spec := spec.inner.find? fun s => s.name == name

/-- A command below, or the help that goes with commands below. -/
def hasInner (spec : Spec) (name : String) : Bool :=
  (spec.find? name).isSome || (!spec.inner.isEmpty && name == "help")

end Spec

/-! ## What can be wrong -/

/-- Why a line is not run: it asks for help or the version, or it is wrong. -/
inductive Usage where
  | help
  | version
  | helpOnMissing
  | missingCommand
  | unknownCommand
  | unknownArgument
  | badValue
  | missingValue
  | conflict
  | unwantedValue
deriving DecidableEq, Repr

/-- The exit of a line that is not run. -/
def Usage.exit : Usage → Nat
  | .help => 0
  | .version => 0
  | _ => 2

/-! ## Scanning -/

/-- A command while it is scanned: what was given, the switch whose value is not checked yet with
its values, and whether that switch waits for one. After `--` nothing is a switch. -/
structure Scan where
  given : List (String × String) := []
  pending : Option (Switch × List String) := none
  waits : Bool := false
  placed : Bool := false
  literal : Bool := false

namespace Scan

/-- A decimal number with an optional sign. -/
def number? (s : String) : Option Int :=
  let digits? := fun (cs : List Char) =>
    if cs.isEmpty || !cs.all Char.isDigit then none
    else some (cs.foldl (fun n c => n * 10 + (c.toNat - '0'.toNat)) 0)
  match s.toList with
  | '-' :: cs => (digits? cs).map fun n => -(Int.ofNat n)
  | '+' :: cs => (digits? cs).map Int.ofNat
  | cs => (digits? cs).map Int.ofNat

/-- A value that its kind allows. -/
def checkValue (kind : ValueKind) (value : String) : Except Usage Unit :=
  match kind with
  | .text => .ok ()
  | .path => if value == "" then .error .missingValue else .ok ()
  | .number =>
    match number? value with
    | some n => if 0 ≤ n && n < 4294967296 then .ok () else .error .badValue
    | none => .error .badValue

/-- A switch was given already. -/
def has (s : Scan) (name : String) : Bool := s.given.any fun g => g.1 == name

/-- A switch with its value among what was given. Only some switches may be given again. -/
def add (s : Scan) (switch : Switch) (value : String) : Except Usage Scan :=
  let added := { s with given := s.given ++ [(switch.name, value)] }
  match switch.effect with
  | .help => .error .help
  | .version => .error .version
  | .counts => .ok added
  | .sets => if s.has switch.name then .error .conflict else .ok added
  | .takes kind many =>
    if !many && s.has switch.name then .error .conflict
    else (checkValue kind value).map fun _ => added

/-- The switch whose value was not checked yet is settled. -/
def settle (s : Scan) : Except Usage Scan :=
  match s.pending with
  | none => .ok s
  | some (_, []) => .error .missingValue
  | some (switch, value :: _) => { s with pending := none, waits := false }.add switch value

/-- A switch that takes a value, which may be attached. -/
def takeValue (s : Scan) (switch : Switch) (attached : Option String) : Except Usage Scan := do
  let s ← s.settle
  match attached with
  | some value => s.add switch value
  | none => return { s with pending := some (switch, []), waits := true }

/-- A switch by its long name. -/
def long (s : Scan) (spec : Spec) (name : String) (attached : Option String) :
    Except Usage Scan :=
  match spec.switches.find? fun w => w.name == name with
  | none => .error .unknownArgument
  | some switch =>
    match switch.effect, attached with
    | .takes _ _, _ => s.takeValue switch attached
    | _, some _ => .error .unwantedValue
    | _, none => do (← s.settle).add switch ""

/-- Switches by their letters. What follows the letter of a switch that takes a value is its
value, with or without `=`. -/
def letters (spec : Spec) : Scan → List Char → Except Usage Scan
  | s, [] => .ok s
  | s, c :: rest =>
    match spec.switches.find? fun w => w.letter == some c with
    | none => .error .unknownArgument
    | some switch =>
      match switch.effect with
      | .takes _ _ =>
        let attached := match rest with
          | [] => none
          | '=' :: value => some (String.ofList value)
          | value => some (String.ofList value)
        s.takeValue switch attached
      | _ => do letters spec (← (← s.settle).add switch "") rest

/-- An argument that is no switch: a value that is waited for, or the argument of the command. -/
def place (s : Scan) (spec : Spec) (value : String) : Except Usage Scan :=
  match spec.argument with
  | some argument =>
    if s.placed then .error .unknownArgument
    else do
      let s ← s.settle
      return { s with pending := some (argument, [value]), placed := true }
  | none =>
    if spec.inner.isEmpty || (s.literal && spec.hasInner value) then .error .unknownArgument
    else .error .unknownCommand

/-- A long switch cut at its `=`. -/
def cutAttached (cs : List Char) : String × Option String :=
  match cs.dropWhile fun c => c != '=' with
  | [] => (String.ofList cs, none)
  | _ :: value => (String.ofList (cs.takeWhile fun c => c != '='), some (String.ofList value))

/-- One argument of a command. -/
def argument (s : Scan) (spec : Spec) (arg : String) : Except Usage Scan :=
  if s.literal then s.place spec arg
  else match arg.toList with
    | ['-', '-'] => .ok { s with literal := true }
    | '-' :: '-' :: cs => let (name, attached) := cutAttached cs; s.long spec name attached
    | '-' :: c :: cs => letters spec s (c :: cs)
    | _ =>
      match s.waits, s.pending with
      | true, some (switch, _) =>
        .ok { s with pending := some (switch, [arg]), waits := false }
      | _, _ => s.place spec arg

/-- The end of a command: its last value is settled, what the environment gives is checked, and
what is missing or excluded is found. `fromOutside` are switches with values from outside the
line. -/
def finish (s : Scan) (spec : Spec) (fromOutside : List (Switch × String)) (wentInside : Bool) :
    Except Usage (List (String × String)) := do
  let s ← s.settle
  let outside := fromOutside.filter fun o => !s.has o.1.name
  outside.forM fun o =>
    match o.1.effect with
    | .takes kind _ => checkValue kind o.2
    | _ => .ok ()
  if !wentInside && spec.needsInner then
    throw (if s.given.isEmpty && outside.isEmpty then .helpOnMissing else .missingCommand)
  if spec.excludes.any fun e => s.has e.1 && s.has e.2 then throw .conflict
  return s.given

/-- Help on a command below, found by its names. -/
def helpOn : Spec → List String → Usage
  | _, [] => .help
  | spec, name :: rest =>
    match spec.find? name with
    | some inner => helpOn inner rest
    | none => if spec.hasInner name && rest.isEmpty then .help else .unknownCommand

end Scan

/-- What a line gave each of its commands, by the names of the commands, outermost first. -/
abbrev Levels := List (String × List (String × String))

/-- The rest of a line, scanned for a command and those below it. -/
def scan (fromOutside : List (Switch × String)) :
    List String → Spec → Scan → Except Usage Levels
  | [], spec, s => do return [(spec.name, ← s.finish spec fromOutside false)]
  | arg :: rest, spec, s =>
    if !s.literal && !s.waits && spec.hasInner arg then
      match spec.find? arg with
      | none => .error (Scan.helpOn spec rest)
      | some command => do
        let levels ← scan fromOutside rest command {}
        return (spec.name, ← s.finish spec fromOutside true) :: levels
    else do scan fromOutside rest spec (← s.argument spec arg)

end ApkForge.CommandLine
