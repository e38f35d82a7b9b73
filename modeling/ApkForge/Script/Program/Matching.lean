-- The host's program that shows the lines of texts in which an expression matches. Of all places
-- where one of its expressions matches the first counts, and there the longest.
import ApkForge.Script.Program.Lines

namespace ApkForge.Script.Program

open Work

/-! ## What is looked for -/

/-- What is looked for in lines: expressions, whether cases count, and whether a match has to be a
word or the line. -/
structure Wanted where
  expressions : List Regex
  folds : Bool := false
  isWord : Bool := false
  isLine : Bool := false
  negated : Bool := false

namespace Wanted

/-- Where the matches that begin at a position may end. -/
def endsAt (w : Wanted) (s : Regex.Subject) (position : Nat) : List Nat :=
  let reached := w.expressions.flatMap fun e => (Regex.reach s e { position }).map fun r =>
    r.position
  let fits := fun (finish : Nat) =>
    if w.isLine then position == 0 && finish == s.text.size
    else if w.isWord then !s.afterWord position && !s.inWord finish
    else true
  reached.filter fits

/-- The first match from a position on; `left` counts the positions to try. -/
def findFrom (w : Wanted) (s : Regex.Subject) : Nat → Nat → Option (Nat × Nat)
  | 0, _ => none
  | left + 1, position =>
    match (w.endsAt s position).max? with
    | some finish => some (position, finish)
    | none => findFrom w s left (position + 1)

/-- The first match in a line from a position on. -/
def find? (w : Wanted) (s : Regex.Subject) (position : Nat) : Option (Nat × Nat) :=
  w.findFrom s (s.text.size + 1 - position) position

/-- A line as what is searched. -/
def subject (w : Wanted) (line : String) : Regex.Subject :=
  { text := line.toList.toArray, folds := w.folds }

/-- A line is one of those that are wanted. -/
def selects (w : Wanted) (line : String) : Bool := (w.find? (w.subject line) 0).isSome != w.negated

/-- The parts of a line that match and are not empty, with their positions. -/
def parts (w : Wanted) (s : Regex.Subject) : Nat → Nat → List (Nat × String)
  | 0, _ => []
  | fuel + 1, position =>
    match w.find? s position with
    | none => []
    | some (start, finish) =>
      if finish == start then if s.text.size < start + 1 then [] else parts w s fuel (start + 1)
      else (start, String.ofList (s.text.extract start finish).toList) :: parts w s fuel finish

end Wanted

/-! ## Lines -/

/-- A line of a text, with its number and its position. -/
structure TextLine where
  number : Nat
  offset : Nat
  text : String
deriving Inhabited

/-- The lines of a text with their numbers and positions. -/
def numbered (sign : Char) (text : String) : List TextLine :=
  let parts := Text.split sign text
  let parts := if parts.getLast? == some "" then parts.dropLast else parts
  let (lines, _, _) := parts.foldl (fun (lines, number, offset) part =>
    ((⟨number, offset, part⟩ : TextLine) :: lines, number + 1, offset + part.length + 1)) ([], 1, 0)
  lines.reverse

/-- The lines that are wanted, so many at most, and what follows the last of them. -/
def selected (w : Wanted) : Option Nat → List TextLine → List TextLine
  | _, [] => []
  | some 0, _ => []
  | most, line :: rest =>
    if w.selects line.text then line :: selected w (most.map (· - 1)) rest
    else selected w most rest

/-! ## Showing -/

/-- How lines are shown: with what before them, and with how many lines around them. -/
structure Showing where
  name : Option String := none
  nameEnd : String := ":"
  numbers : Bool := false
  offsets : Bool := false
  onlyParts : Bool := false
  before : Nat := 0
  after : Nat := 0
  separates : Bool := false
  lineEnd : String := "\n"

/-- A line with what stands before it. The sign tells lines that are wanted from those around. -/
def Showing.line (s : Showing) (sign : String) (number offset : Nat) (text : String) : String :=
  ((s.name.map fun name => name ++ (if s.nameEnd == ":" then sign else s.nameEnd)).getD "") ++
    (if s.numbers then toString number ++ sign else "") ++
    (if s.offsets then toString offset ++ sign else "") ++ text ++ s.lineEnd

/-- Lines shown with those around them. `last` is the number of the line that was shown last. -/
def Showing.lines (s : Showing) (w : Wanted) (chosen : List Nat) :
    Option Nat → List TextLine → List String
  | _, [] => []
  | last, l :: rest =>
    let isChosen := chosen.contains l.number
    let isNear := chosen.any fun n => l.number ≤ n + s.after && n ≤ l.number + s.before
    if !isNear then lines s w chosen last rest
    else
      let apart := s.separates && (last.map fun n => decide (n + 1 < l.number)).getD false
      let shown :=
        if s.onlyParts then
          if isChosen && !w.negated then
            String.join ((w.parts (w.subject l.text) (l.text.length + 1) 0).map fun p =>
              s.line ":" l.number (l.offset + p.1) p.2)
          else ""
        else s.line (if isChosen then ":" else "-") l.number l.offset l.text
      (if apart then "--\n" else "") :: shown :: lines s w chosen (some l.number) rest

/-! ## The program -/

/-- A name fits a pattern of names. -/
def fitsPattern (pattern name : String) : Bool :=
  Pattern.fits (Pattern.ofMarked true false (pattern.toList.map fun c => (c, false))) name

/-- The files of a directory and of those below it, each with its path. -/
def filesBelow (m : Machine) : Nat → String → List String
  | 0, _ => []
  | fuel + 1, path =>
    match m.stat path with
    | .ok (place, .dir) => (m.world.disk.names place).flatMap fun name =>
        match m.world.disk.at? (place ++ [Octet.toText name]) with
        | some (.link _) => []
        | _ => filesBelow m fuel (below path name)
    | _ => [path]

/-- The program was called in a way that it does not know. -/
def grepMisused (self words : String) : Work Unit := do
  if words != "" then tells self words
  complain "Usage: grep [OPTION]... PATTERNS [FILE]..."
  complain "Try 'grep --help' for more information."
  ends 2

/-- The options of the program. -/
def grepOptions : Options :=
  { flags := "EFGPivycnlLqsowxhHrRabzZTUI"
    valued := "efmABCd"
    long := [("extended-regexp", 'E'), ("fixed-strings", 'F'), ("basic-regexp", 'G'),
      ("perl-regexp", 'P'), ("ignore-case", 'i'), ("no-ignore-case", '1'), ("invert-match", 'v'),
      ("count", 'c'), ("line-number", 'n'), ("files-with-matches", 'l'),
      ("files-without-match", 'L'), ("quiet", 'q'), ("silent", 'q'), ("no-messages", 's'),
      ("only-matching", 'o'), ("word-regexp", 'w'), ("line-regexp", 'x'), ("no-filename", 'h'),
      ("with-filename", 'H'), ("recursive", 'r'), ("dereference-recursive", 'R'), ("text", 'a'),
      ("byte-offset", 'b'), ("null-data", 'z'), ("null", 'Z'), ("initial-tab", 'T'),
      ("regexp", 'e'), ("file", 'f'), ("max-count", 'm'), ("after-context", 'A'),
      ("before-context", 'B'), ("context", 'C'), ("color", '2'), ("colour", '2'),
      ("line-buffered", '3'), ("include", '5'), ("exclude", '6'), ("exclude-dir", '7'),
      ("binary-files", '4'), ("directories", 'd')] }

/-- A number of lines after a dash is an option. -/
def withContext (args : List String) : List String :=
  args.map fun arg => match arg.toList with
    | '-' :: cs => if !cs.isEmpty && cs.all Char.isDigit then "-C" ++ String.ofList cs else arg
    | _ => arg

/-- An expression looks like the name of a class of characters in one bracket only. -/
def isBareClass (text : String) : Bool :=
  Text.beginsWith "[:" text && Text.endsWith ":]" text && text.length > 4

/-- The lines of a text in which expressions match are shown, or counted, or only asked for. Says
whether there was one. -/
def grepText (self : String) (c : Call) (w : Wanted) (s : Showing) (path text : String) :
    Work Bool := do
  let shownName := if path == "-" then "(standard input)" else path
  let lines := numbered (if c.has 'z' then '\x00' else '\n') text
  let most := (c.value? 'm').bind String.toNat?
  let isQuick := c.has 'q' || c.has 'l' || c.has 'L'
  let found := selected w (if isQuick then
      (some 1).min (most.orElse fun _ => some 1) else most) lines
  let any := !found.isEmpty
  let isBinary := !c.has 'a' && !c.has 'z' && text.toList.contains '\x00'
  let nameLine := shownName ++ (if c.has 'Z' then "\x00" else "\n")
  if c.has 'q' then return any
  if c.has 'l' then
    if any then print nameLine
  else if c.has 'L' then
    if !any then print nameLine
  else if c.has 'c' then
    print ((s.name.map fun name => name ++ s.nameEnd).getD "" ++ toString found.length ++ "\n")
  else if isBinary then
    if any && !(c.has 'o' && c.has 'v') then
      tells self (shownName ++ ": binary file matches")
  else
    let lines := match most, found.getLast? with
      | some n, some last =>
        if found.length < n then lines else lines.filter fun l => l.number ≤ last.number + s.after
      | some _, none => []
      | none, _ => lines
    print (String.join (s.lines w (found.map TextLine.number) none lines))
  return any

/-- The files that are searched, and whether there may be several. -/
def grepPaths (c : Call) : Work (List String × Bool) := do
  let m ← get
  let recursive := c.has 'r' || c.has 'R'
  let fits := fun (path : String) =>
    let matching := fun (pattern : String) =>
      fitsPattern pattern (lastName path)
    let included := c.values '5'
    (included.isEmpty || included.any matching) && !(c.values '6').any matching
  if !recursive then
    return (if c.operands.isEmpty then ["-"] else c.operands, c.operands.length > 1)
  else if c.operands.isEmpty then
    let names := m.world.disk.names m.here
    return ((names.flatMap (filesBelow m 64)).filter fits, true)
  else
    let isMany := c.operands.length > 1 || c.operands.any (m.world.disk.isDir m.here)
    return (c.operands.flatMap fun path =>
      if m.world.disk.isDir m.here path then (filesBelow m 64 path).filter fits else [path], isMany)

/-- Lines in which an expression matches are shown. -/
def grepAs (self kind : String) (args : List String) : Work Unit :=
  calledOr (grepMisused self) { grepOptions with valued := grepOptions.valued ++ "5674" }
    (withContext args) fun c => do
    let m ← get
    let given := (c.values 'e').flatMap (Text.split '\n')
    let files := (c.values 'f').map fun path => (textOf m path).map bareLines
    match files.find? fun f => match f with
        | .error _ => true
        | .ok _ => false with
    | some (.error fault) => fails self ((c.values 'f').headD "" ++ ": " ++ Streams.words fault) 2
    | _ =>
      let hasPatterns := c.has 'e' || c.has 'f'
      if !hasPatterns && c.operands.isEmpty then grepMisused self ""
      else
        let patterns := if hasPatterns then given ++ files.flatMap fun f => f.toOption.getD []
          else Text.split '\n' (c.operands.headD "")
        let c := if hasPatterns then c else { c with operands := c.operands.tail }
        let kind := ((c.last? "EFGP").map String.singleton).getD kind
        let reader := fun (pattern : String) =>
          if kind == "F" then .ok (Regex.literal pattern.toList)
          else if kind == "G" then Regex.ofBasic pattern
          else Regex.ofExtended pattern
        let number? := fun (letter : Char) => (c.value? letter).map String.toNat?
        let wrongContext := ['A', 'B', 'C'].find? fun letter => number? letter == some none
        if number? 'm' == some none && c.value? 'm' != some "-1" then
          fails self "invalid max count" 2
        else if let some letter := wrongContext then
          fails self ((c.value? letter).getD "" ++ ": invalid context length argument") 2
        else if kind != "F" && patterns.any isBareClass then
          fails self "character class syntax is [[:space:]], not [:space:]" 2
        else match patterns.mapM reader with
          | .error fault => fails self fault.words 2
          | .ok expressions =>
            if kind == "E" && patterns.any fun p =>
              Text.beginsWith "*" p || Text.beginsWith "+" p ||
                Text.beginsWith "?" p then
              patterns.forM fun p => match p.toList with
                | sign :: _ =>
                  if "*+?".toList.contains sign then
                    tells self ("warning: " ++ String.singleton sign ++ " at start of expression")
                  else return ()
                | [] => return ()
            let w : Wanted :=
              { expressions, folds := (c.has 'i' || c.has 'y') && !c.has '1', isWord := c.has 'w'
                isLine := c.has 'x', negated := c.has 'v' }
            let (paths, isMany) ← grepPaths c
            let around := fun (letter : Char) =>
              ((number? letter).join.orElse fun _ => (number? 'C').join).getD 0
            let namesShown := (isMany || c.has 'H') && !(c.last? "hH" == some 'h')
            let (any, failed) ← paths.foldlM (fun (any, failed) path => do
              if c.has 'q' && any then return (any, failed)
              let shownName := if path == "-" then "(standard input)" else path
              let s : Showing :=
                { name := if namesShown then some shownName else none
                  nameEnd := if c.has 'Z' then "\x00" else ":", numbers := c.has 'n'
                  offsets := c.has 'b', onlyParts := c.has 'o', before := around 'B'
                  after := around 'A', separates := c.has 'A' || c.has 'B' || c.has 'C'
                  lineEnd := if c.has 'z' then "\x00" else "\n" }
              match ← inputOf path with
              | .ok text => return ((← grepText self c w s path text) || any, failed)
              | .error fault =>
                if !c.has 's' then tells self (path ++ ": " ++ Streams.words fault)
                return (any, true)) (false, false)
            ends (if failed && !(c.has 'q' && any) then 2 else if any then 0 else 1)

/-- Lines in which an expression of the basic form matches are shown. -/
def grep (self : String) (args : List String) : Work Unit := grepAs self "G" args

/-- Lines in which an expression of the extended form matches are shown. -/
def egrep (_self : String) (args : List String) : Work Unit := grepAs "grep" "E" args

/-- Lines in which a text occurs are shown. -/
def fgrep (_self : String) (args : List String) : Work Unit := grepAs "grep" "F" args

end ApkForge.Script.Program
