-- Editing lines by commands. Each line of the input is read into the space that commands work on,
-- and is shown when they have come to their end. What is done depends on the texts alone.
import ApkForge.Script.Edit.Node
import ApkForge.Script.Octet

namespace ApkForge.Script.Edit

/-! ## Texts -/

/-- A line without its end, with whether it had one. -/
structure Line where
  text : String
  ended : Bool
deriving Inhabited

/-- A text that is edited: its name, and its lines, or what is said when it cannot be read; a text
that breaks off ends all. -/
inductive Source where
  | lines (name : String) (ls : List Line)
  | missing (status : Nat) (words : String)
  | broken (words : String)
deriving Inhabited

/-- The lines of a text, which end with a sign. -/
def linesOf (sign : Char) (text : String) : List Line :=
  let parts := Text.split sign text
  let front := parts.dropLast.map fun t => (⟨t, true⟩ : Line)
  match parts.getLast? with
  | some "" => front
  | some last => front ++ [⟨last, false⟩]
  | none => []

/-- How lines are edited. -/
structure Job where
  self : String
  commands : Array Command
  quiet : Bool := false
  separate : Bool := false
  inPlace : Bool := false
  sign : Char := '\n'
  width : Nat := 70
  fileText : String → Option String

/-- What is shown when the commands have come to their end: a text, or a file. -/
inductive Appended where
  | text (t : String)
  | file (path : String)
  | line (l : Line)
deriving Inhabited

/-- What is written where: to the output, to the stream of complaints, or to a file. -/
inductive Sink where
  | output
  | complaint
  | file (path : String)
deriving DecidableEq, Repr, Inhabited

/-- How far a stretch of lines has come: it ends at a line with a number, or where an end is
found. -/
inductive Stretch where
  | closed
  | upTo (number : Nat)
  | looking
deriving DecidableEq, Repr, Inhabited

/-- The state while lines are edited: the space that is worked on and the one that is kept, the line
that was read, what is still to come, and what was written, the newest first. -/
structure Desk where
  space : String := ""
  kept : String := ""
  keptEnded : Bool := true
  number : Nat := 0
  ended : Bool := true
  name : String := "-"
  rest : List Line := []
  sources : List Source
  stretches : List (Nat × Stretch) := []
  appended : List Appended := []
  changed : Bool := false
  lastSought : Option Regex := none
  written : List (Sink × String) := []
  owing : List Sink := []
  partly : List (String × List Line) := []
  status : Nat := 0
deriving Inhabited

namespace Desk

/-! ## Writing -/

/-- Where the lines go: to the output, or into the text that is edited. -/
def out (j : Job) (d : Desk) : Sink := if j.inPlace then .file d.name else .output

/-- The end of the line before is written if it is still missing. -/
def settle (j : Job) (d : Desk) (sink : Sink) : Desk :=
  if d.owing.contains sink then
    { d with written := (sink, String.singleton j.sign) :: d.written
             owing := d.owing.filter (· != sink) }
  else d

/-- A text is written somewhere, behind the end of the line before. -/
def write (j : Job) (d : Desk) (sink : Sink) (text : String) : Desk :=
  if text == "" then d
  else
    let d := d.settle j sink
    { d with written := (sink, text) :: d.written }

/-- A line is written somewhere. The last line of a text has no end if it had none there. -/
def writeLine (j : Job) (d : Desk) (sink : Sink) (text : String) : Desk :=
  if d.ended then d.write j sink (text ++ String.singleton j.sign)
  else
    let d := if text == "" then d else d.write j sink text
    { d with owing := sink :: d.owing }

/-- Where the name of a file leads. -/
def sinkOf (path : String) : Sink :=
  if path == "/dev/stdout" then .output
  else if path == "/dev/stderr" then .complaint
  else .file path

/-- What was to be shown at the end of the commands is shown. -/
def flush (j : Job) (d : Desk) : Desk :=
  let d := d.appended.foldl (fun (d : Desk) a =>
    let d := d.settle j (d.out j)
    match a with
    | .text t => d.write j (d.out j) t
    | .line l => d.write j (d.out j) (if l.ended then l.text ++ "\n" else l.text)
    | .file path => match j.fileText path with
      | some t => d.write j (d.out j) t
      | none => d) d
  { d with appended := [] }

/-! ## Reading -/

/-- A text has lines. -/
def hasLines : Source → Bool
  | .lines _ ls => !ls.isEmpty
  | _ => false

/-- The line that was read is the last one. -/
def isLast (j : Job) (d : Desk) : Bool :=
  d.rest.isEmpty && (j.separate || !d.sources.any hasLines)

/-- The next line, if there is one; texts that cannot be read are told. `none` in the second place
says that all ends here. -/
def nextLine (j : Job) : Nat → Desk → Desk × Option Line × Bool
  | 0, d => (d, none, false)
  | fuel + 1, d =>
    match d.rest with
    | l :: ls => ({ d with rest := ls, number := d.number + 1, ended := l.ended }, some l, false)
    | [] =>
      match d.sources with
      | [] => (d, none, false)
      | .lines name ls :: sources =>
        let d := if j.separate then { d with number := 0, stretches := [] } else d
        let written := if j.inPlace then (.file name, "") :: d.written else d.written
        nextLine j fuel { d with rest := ls, name, sources, written
                                 owing := if j.inPlace then [] else d.owing }
      | .missing status words :: sources =>
        nextLine j fuel { d.write j .complaint words with sources, status }
      | .broken words :: _ =>
        ({ d.write j .complaint words with sources := [], status := 4 }, none, true)

/-- Another line is read. -/
def readLine (j : Job) (d : Desk) : Desk × Option Line × Bool :=
  nextLine j (d.sources.length + 2) d

/-! ## Lines that are meant -/

/-- An expression, or the one that was looked for last, occurs in the space. -/
def finds (d : Desk) (s : Sought) : Desk × Option Bool :=
  match s.expression.or d.lastSought with
  | none => (d, none)
  | some e =>
    let subject : Regex.Subject :=
      { text := d.space.toList.toArray, folds := s.folds, byLine := s.byLine }
    ({ d with lastSought := some e }, some (e.search subject 0).isSome)

/-- The line is meant by a spot; none if nothing was looked for before. -/
def isAt (j : Job) (d : Desk) : Spot → Desk × Option Bool
  | .line n => (d, some (d.number == n))
  | .last => (d, some (d.isLast j))
  | .having what => d.finds what
  | .every first step =>
    (d, some (first ≤ d.number && (d.number - first) % step == 0))

/-- A stretch begins here; where it will end, or that it ends at once. -/
def begins (d : Desk) : Finish → Stretch
  | .spot (.line n) => if n ≤ d.number then .closed else .upTo n
  | .spot _ => .looking
  | .after 0 => .closed
  | .after n => .upTo (d.number + n)
  | .multiple n =>
    if n == 0 then .closed else .upTo ((d.number / n + 1) * n)

/-- The line lies in a stretch from one spot to an end. -/
def inStretch (j : Job) (d : Desk) (index : Nat) (first : Spot) (finish : Finish) :
    Desk × Option Bool :=
  let put := fun (d : Desk) (s : Stretch) =>
    { d with stretches := (index, s) :: d.stretches.filter fun e => e.1 != index }
  let fromStart := match first with
    | .line 0 => true
    | _ => false
  match (d.stretches.lookup index).getD (if fromStart then .looking else .closed) with
  | .closed =>
    match d.isAt j first with
    | (d, some true) => (put d (d.begins finish), some true)
    | other => other
  | .upTo n => (put d (if n ≤ d.number then .closed else .upTo n), some (d.number ≤ n))
  | .looking =>
    match finish with
    | .spot s =>
      match d.isAt j s with
      | (d, some true) => (put d .closed, some true)
      | (d, some false) => (put d .looking, some true)
      | other => other
    | _ => (put d .closed, some true)

/-- The line is one that a command is meant for. -/
def isMeant (j : Job) (d : Desk) (index : Nat) (l : Lines) : Desk × Option Bool :=
  match l.first with
  | none => (d, some true)
  | some first =>
    let (d, holds) := match l.finish with
      | none => d.isAt j first
      | some finish => d.inStretch j index first finish
    (d, holds.map (· != l.negated))

/-! ## Substituting -/

/-- A character in the case that is wanted once, or else in the one that is wanted on. -/
def cased (on once : Char) (c : Char) : Char :=
  if once == 'u' then c.toUpper else if once == 'l' then c.toLower
  else if on == 'U' then c.toUpper else if on == 'L' then c.toLower else c

/-- Pieces filled in, the characters last to first. -/
def fill (s : Regex.Subject) (m : Regex.Match) :
    Char → Char → List Char → List Piece → List Char
  | _, _, out, [] => out
  | on, _, out, .cases c :: ps =>
    if c == 'u' || c == 'l' then fill s m on c out ps else fill s m c 'E' out ps
  | on, once, out, p :: ps =>
    let cs := match p with
      | .text cs => cs
      | .group n => (m.text s n).toList
      | .cases _ => []
    match cs with
    | [] => fill s m on once out ps
    | c :: rest => fill s m on 'E' ((rest.map (cased on 'E')).reverse ++ cased on once c :: out) ps

/-- The space with matches from a position on replaced, the characters last to first; `count`
matches came before, and the last of them ended at `before`. -/
def replaced (s : Regex.Subject) (e : Regex) (r : Substitution) :
    Nat → Nat → Nat → Option Nat → List Char → Bool → List Char × Bool
  | 0, _, _, _, out, any => (out, any)
  | fuel + 1, position, count, before, out, any =>
    let tail := fun (from_ : Nat) => (s.text.extract from_ s.text.size).toList.reverse
    match e.search s position with
    | none => (tail position ++ out, any)
    | some m =>
      let out := (s.text.extract position m.start).toList.reverse ++ out
      let isEmpty := m.finish == m.start
      let step := fun (count : Nat) (out : List Char) (any : Bool) =>
        if !isEmpty then replaced s e r fuel m.finish count (some m.finish) out any
        else match s.text[m.start]? with
          | some c => replaced s e r fuel (m.start + 1) count (some m.finish) (c :: out) any
          | none => (out, any)
      if isEmpty && before == some m.start then step count out any
      else if count + 1 < r.from_ then
        step (count + 1) ((s.text.extract m.start m.finish).toList.reverse ++ out) any
      else
        let out := fill s m 'E' 'E' out r.pieces
        if r.all then step (count + 1) out true
        else (tail m.finish ++ out, true)

/-- A substitution is made in the space; none if nothing was looked for before. -/
def substitute (j : Job) (d : Desk) (r : Substitution) : Option Desk :=
  match r.what.expression.or d.lastSought with
  | none => none
  | some e =>
    let s : Regex.Subject :=
      { text := d.space.toList.toArray, folds := r.what.folds
        byLine := r.what.byLine && j.sign == '\n' }
    let (out, any) := replaced s e r (2 * s.text.size + 2) 0 0 none [] false
    let d := { d with lastSought := some e }
    if !any then some d
    else
      let d := { d with space := String.ofList out.reverse, changed := true }
      let d := if r.shows > 0 then d.writeLine j (d.out j) d.space else d
      match r.file with
      | some path => some (d.writeLine j (sinkOf path) d.space)
      | none => some d

/-! ## Listing -/

/-- A character of a listing. -/
def listed (c : Char) : String :=
  match [('\\', "\\\\"), ('\x07', "\\a"), ('\x08', "\\b"), ('\x0c', "\\f"), ('\n', "\\n"),
      ('\r', "\\r"), ('\t', "\\t"), ('\x0b', "\\v")].lookup c with
  | some s => s
  | none =>
    if 32 ≤ c.toNat && c.toNat < 127 then String.singleton c
    else
      let ds := Nat.toDigits 8 c.toNat
      "\\" ++ String.ofList (List.replicate (3 - ds.length) '0' ++ ds)

/-- A listing in lines of a width, which a backslash continues. -/
def listing (width : Nat) (text : String) : String :=
  let (out, _) := text.toList.foldl (fun (out, column) c =>
    let s := listed c
    if width > 0 && width - 1 < column + s.length then (s :: "\\\n" :: out, s.length)
    else (s :: out, column + s.length)) ([], 0)
  String.join out.reverse ++ "$\n"

/-! ## Commands -/

/-- How the commands come to their end for a line: it is shown, or not, or they begin again with
what is left of it; or all ends, with the line shown or not; or nothing was looked for before. -/
inductive Turn where
  | shown
  | dropped
  | again
  | quits (silently : Bool) (status : Nat)
  | broken
  | nothingSought
deriving Inhabited

/-- The index of the command after the block that begins at an index. -/
def afterBlock (cs : Array Command) : Nat → Nat → Nat → Nat
  | 0, _, index => index
  | fuel + 1, depth, index =>
    match cs[index]? with
    | none => index
    | some c => match c.verb with
      | .enter => afterBlock cs fuel (depth + 1) (index + 1)
      | .leave => if depth ≤ 1 then index + 1 else afterBlock cs fuel (depth - 1) (index + 1)
      | _ => afterBlock cs fuel depth (index + 1)

/-- The index of a label, or behind the last command. -/
def indexOf (cs : Array Command) (target : String) : Nat :=
  if target == "" then cs.size
  else (cs.findIdx? fun c => match c.verb with
    | .label name => name == target
    | _ => false).getD cs.size

/-- The front of the space up to the end of its first line, and what follows. -/
def firstLine (text : String) : String × Option String :=
  let front := text.toList.takeWhile (· != '\n')
  (String.ofList front,
    if front.length < text.length then some (String.ofList (text.toList.drop (front.length + 1)))
    else none)

/-- The first line of the space is written somewhere. -/
def writeFirst (j : Job) (d : Desk) (sink : Sink) : Desk :=
  match firstLine d.space with
  | (line, some _) => d.write j sink (line ++ "\n")
  | (line, none) => d.writeLine j sink line

/-- The commands from an index on are done. -/
def run (j : Job) : Nat → Nat → Desk → Desk × Option Turn
  | 0, _, d => (d, none)
  | fuel + 1, index, d =>
    match j.commands[index]? with
    | none => (d, some .shown)
    | some c =>
      match d.isMeant j index c.lines with
      | (d, none) => (d, some .nothingSought)
      | (d, some false) =>
        match c.verb with
        | .enter => run j fuel (afterBlock j.commands (j.commands.size + 1) 0 index) d
        | _ => run j fuel (index + 1) d
      | (d, some true) =>
        let on := fun (d : Desk) => run j fuel (index + 1) d
        match c.verb with
        | .number => on (d.write j (d.out j) (toString d.number ++ "\n"))
        | .append t => on { d with appended := d.appended ++ [.text t] }
        | .insert t => on (d.write j (d.out j) t)
        | .change t =>
          let goesOn := match d.stretches.lookup index with
            | some .closed => false
            | some _ => true
            | none => false
          let d := if goesOn && c.lines.finish.isSome && !c.lines.negated then d
            else d.write j (d.out j) t
          (d, some .dropped)
        | .jump on_ target =>
          let jumps := match on_ with
            | .always => true
            | .changed => d.changed
            | .unchanged => !d.changed
          let d := if on_ == .always then d else { d with changed := false }
          if jumps then run j fuel (indexOf j.commands target) d else on d
        | .delete => (d, some .dropped)
        | .deleteFirst =>
          match firstLine d.space with
          | (_, none) => (d, some .dropped)
          | (_, some rest) => ({ d with space := rest }, some .again)
        | .fileName => on (d.write j (d.out j) (d.name ++ "\n"))
        | .recall => on { d with space := d.kept, ended := d.keptEnded }
        | .recallMore => on { d with space := d.space ++ "\n" ++ d.kept, ended := d.keptEnded }
        | .keep => on { d with kept := d.space, keptEnded := d.ended }
        | .keepMore => on { d with kept := d.kept ++ "\n" ++ d.space, keptEnded := d.ended }
        | .swap => on { d with space := d.kept, kept := d.space, ended := d.keptEnded
                               keptEnded := d.ended }
        | .list width => on (d.write j (d.out j) (listing ((width.getD j.width)) d.space))
        | .next =>
          if d.isLast j then (d, some (.quits false 0))
          else
            let d := if j.quiet then d else d.writeLine j (d.out j) d.space
            match (d.flush j).readLine j with
            | (d, some l, _) => on { d with space := l.text }
            | (d, none, true) => (d, some .broken)
            | (d, none, false) => (d, some (.quits true 0))
        | .nextMore =>
          if d.isLast j then (d, some (.quits false 0))
          else
            match (d.flush j).readLine j with
            | (d, some l, _) => on { d with space := d.space ++ String.singleton j.sign ++ l.text }
            | (d, none, true) => (d, some .broken)
            | (d, none, false) => (d, some (.quits false 0))
        | .show_ => on (d.writeLine j (d.out j) d.space)
        | .showFirst => on (d.writeFirst j (d.out j))
        | .quit status silently => (d, some (.quits silently status))
        | .readFile path => on { d with appended := d.appended ++ [.file path] }
        | .readLine path =>
          let ls := (d.partly.lookup path).getD (linesOf '\n' ((j.fileText path).getD ""))
          let partly := (path, ls.tail) :: d.partly.filter fun p => p.1 != path
          let added := match ls.head? with
            | some l => [Appended.line l]
            | none => []
          on { d with partly, appended := d.appended ++ added }
        | .substitute r =>
          match d.substitute j r with
          | some d => on d
          | none => (d, some .nothingSought)
        | .write path firstOnly =>
          if firstOnly then on (d.writeFirst j (sinkOf path))
          else on (d.writeLine j (sinkOf path) d.space)
        | .translate table => on { d with space := d.space.map fun ch => (table.lookup ch).getD ch }
        | .empty => on { d with space := "" }
        | _ => on d

/-- The steps that the commands may take for a line. -/
def mostSteps : Nat := 200000

/-- The words for an expression that stands for the last one when there was none. -/
def nothingSoughtWords : String := "-e expression #1, char 0: no previous regular expression"

/-- The lines that are left are edited. `reads` says whether a new one is read first. Says whether
all came to an end. -/
def cycles (j : Job) : Nat → Bool → Desk → Desk × Bool
  | 0, _, d => (d, false)
  | fuel + 1, reads, d =>
    let (d, goesOn) := if !reads then (d, true)
      else match d.readLine j with
        | (d, some l, _) => ({ d with space := l.text }, true)
        | (d, none, _) => (d, false)
    if !goesOn then (d, true)
    else
      let d := { d with changed := if reads then false else d.changed }
      let shown := fun (d : Desk) => if j.quiet then d else d.writeLine j (d.out j) d.space
      match d.run j mostSteps 0 with
      | (d, none) => (d, false)
      | (d, some .shown) => cycles j fuel true ((shown d).flush j)
      | (d, some .dropped) => cycles j fuel true (d.flush j)
      | (d, some .again) => cycles j fuel false (d.flush j)
      | (d, some .broken) => (d, true)
      | (d, some (.quits silently status)) =>
        let d := if silently then d else (shown d).flush j
        let d := if j.inPlace then d.rest.foldl (fun (d : Desk) l =>
            ({ d with ended := l.ended }).writeLine j (d.out j) l.text) d else d
        ({ d with status := if status == 0 then d.status else status }, true)
      | (d, some .nothingSought) =>
        let words := j.self ++ ": " ++ nothingSoughtWords ++ "\n"
        ({ d.write j .complaint words with status := 1 }, true)

end Desk

end ApkForge.Script.Edit
