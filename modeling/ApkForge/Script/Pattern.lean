-- Patterns of a shell: any text, any character, a choice of characters. A pattern is read as a
-- regular expression, and what a quote held stands for itself.
import ApkForge.Regex.Reader
import ApkForge.Script.Disk

namespace ApkForge.Script

/-- A character of a word that was filled in, with whether it was quoted. -/
abbrev Marked := Char × Bool

/-- The characters of a marked text. -/
def unmarked (ms : List Marked) : String := String.ofList (ms.map Prod.fst)

namespace Pattern

/-! ## Reading -/

/-- The characters of a choice up to its closing bracket, as they are written, and what follows.
What was quoted follows a backslash. -/
def choice : Nat → Bool → List Marked → Option (List Char × List Marked)
  | 0, _, _ => none
  | _, _, [] => none
  | fuel + 1, first, (c, quoted) :: cs =>
    let more := fun (read : List Char) (rest : List Marked) =>
      (choice fuel false rest).map fun (others, rest) => (read ++ others, rest)
    if quoted then more ['\\', c] cs
    else if c == ']' && !first then some ([']'], cs)
    else if c == '[' && (cs.head?.map Prod.fst) == some ':' then
      match Regex.enclosedName ':' (cs.tail.map Prod.fst) with
      | some (name, _) => more ("[:".toList ++ name ++ ":]".toList) (cs.drop (name.length + 3))
      | none => more ['\\', c] cs
    else if c == '\\' then
      match cs with
      | (d, _) :: rest => more ['\\', d] rest
      | [] => none
    else more [c] cs

/-- The set after an opening bracket, and what follows it; none if the bracket is never closed. A
rich shell knows two signs for the other characters. -/
def set? (rich : Bool) (cs : List Marked) : Option (Regex × List Marked) :=
  let (negated, inside) := match cs with
    | ('!', false) :: rest => (true, rest)
    | ('^', false) :: rest => if rich then (true, rest) else (false, cs)
    | _ => (false, cs)
  match choice (inside.length + 1) true inside with
  | none => none
  | some (read, rest) =>
    let isSet := Regex.bracketRanges some (read.length + 1) true [] read
    match isSet with
    | .ok (ranges, _) => some (.one ⟨negated, ranges⟩, rest)
    | .error _ => some (.one ⟨false, []⟩, rest)

/-- Any text. -/
def anyText : Regex := .turns (.one .all) 0 none

/-- The alternatives of a group up to its closing parenthesis, and what follows. -/
def alternatives : Nat → Nat → List Marked → List (List Marked) → List Marked →
    Option (List (List Marked) × List Marked)
  | 0, _, _, _, _ => none
  | _, _, _, _, [] => none
  | fuel + 1, depth, read, done, (c, quoted) :: cs =>
    let more := fun (depth : Nat) =>
      alternatives fuel depth ((c, quoted) :: read) done cs
    if quoted then more depth
    else if c == '(' then more (depth + 1)
    else if c == ')' then
      if depth == 0 then some ((read.reverse :: done).reverse, cs) else more (depth - 1)
    else if c == '|' && depth == 0 then alternatives fuel 0 [] (read.reverse :: done) cs
    else more depth

/-- What the sign in front of a group makes of it: a number of turns, or what is unlike it. -/
def grouping? : Char → Option (Regex → Regex)
  | '?' => some fun e => .turns e 0 (some 1)
  | '*' => some fun e => .turns e 0 none
  | '+' => some fun e => .turns e 1 none
  | '@' => some id
  | '!' => some .unlike
  | _ => none

/-- The expression of a pattern. A bracket that is never closed stands for itself, and groups count
only where they are `grouped`. -/
def parts (rich grouped : Bool) : Nat → List Marked → Regex
  | 0, _ => .empty
  | _, [] => .empty
  | fuel + 1, (c, quoted) :: cs =>
    let exactly := fun (d : Char) (rest : List Marked) =>
      Regex.both (.one (.single d)) (parts rich grouped fuel rest)
    let group := if grouped && !quoted && cs.head? == some ('(', false) then
        match grouping? c, alternatives cs.length 0 [] [] cs.tail with
        | some made, some (choices, rest) => some (made, choices, rest)
        | _, _ => none
      else none
    match group with
    | some (made, choices, rest) =>
      let body := (choices.map (parts rich grouped fuel)).foldr
        (fun a b => match b with
          | none => some a
          | some b => some (Regex.either a b)) none
      .both (made (body.getD .empty)) (parts rich grouped fuel rest)
    | none =>
      if quoted then exactly c cs
      else if c == '*' then .both anyText (parts rich grouped fuel cs)
      else if c == '?' then .both (.one .all) (parts rich grouped fuel cs)
      else if c == '\\' then
        match cs with
        | (d, _) :: rest => exactly d rest
        | [] => exactly c []
      else if c == '[' then
        match set? rich cs with
        | some (set, rest) => .both set (parts rich grouped fuel rest)
        | none => exactly c cs
      else exactly c cs

/-- A word as a pattern. -/
def ofMarked (rich grouped : Bool) (cs : List Marked) : Regex :=
  parts rich grouped (cs.length + 1) cs

/-! ## Matching -/

/-- The lengths of the fronts of a text that a pattern matches. -/
def fronts (p : Regex) (cs : List Char) : List Nat :=
  (Regex.reach { text := cs.toArray } p { position := 0 }).map Regex.Reached.position

/-- A text matches a pattern as a whole. -/
def fits (p : Regex) (text : String) : Bool := (fronts p text.toList).contains text.length

/-- The longest or the shortest of some lengths. -/
def best? (longest : Bool) (lengths : List Nat) : Option Nat :=
  if longest then lengths.max? else lengths.min?

/-- The text without the shortest front that matches, or without the longest. -/
def dropFront (longest : Bool) (p : Regex) (text : String) : String :=
  match best? longest (fronts p text.toList) with
  | some n => String.ofList (text.toList.drop n)
  | none => text

/-- The expression that matches what is written the other way round. -/
def mirrored : Regex → Regex
  | .both a b => .both (mirrored b) (mirrored a)
  | .either a b => .either (mirrored a) (mirrored b)
  | .group n body => .group n (mirrored body)
  | .turns body least most => .turns (mirrored body) least most
  | .unlike body => .unlike (mirrored body)
  | .start => .finish
  | .finish => .start
  | e => e

/-- The text without the shortest end that matches, or without the longest. -/
def dropEnd (longest : Bool) (p : Regex) (text : String) : String :=
  let turned := text.toList.reverse
  match best? longest (fronts (mirrored p) turned) with
  | some n => String.ofList (turned.drop n).reverse
  | none => text

/-- The text with what a pattern matches replaced: the first match or all of them, and of each the
longest. -/
def replace (p : Regex) (all : Bool) (other : String) (text : String) : String :=
  let subject : Regex.Subject := { text := text.toList.toArray }
  let rec go : Nat → Nat → List Char → List Char
    | 0, _, read => read
    | fuel + 1, position, read =>
      match p.search subject position with
      | none => read ++ (subject.text.extract position subject.text.size).toList
      | some m =>
        let before := (subject.text.extract position m.start).toList
        let rest := (subject.text.extract m.finish subject.text.size).toList
        if m.start == m.finish then
          match rest with
          | [] => read ++ before
          | c :: _ => go fuel (m.finish + 1) (read ++ before ++ [c])
        else if all then go fuel m.finish (read ++ before ++ other.toList)
        else read ++ before ++ other.toList ++ rest
  String.ofList (go (text.length + 2) 0 [])

/-! ## Files -/

/-- How words are matched with files: as a rich shell does, with groups, and with a sign for all
directories below. -/
structure Globbing where
  rich : Bool := false
  grouped : Bool := false
  deep : Bool := false
  hidden : Bool := false

/-- A word has a sign that makes it a pattern, or a group. -/
def isPattern (grouped : Bool) (cs : List Marked) : Bool :=
  let pairs := cs.zip (cs.drop 1)
  cs.any (fun m => !m.2 && (m.1 == '*' || m.1 == '?' || m.1 == '[')) ||
    (grouped && pairs.any fun p => p.2 == ('(', false) && !p.1.2 && (grouping? p.1.1).isSome)

/-- The segments of a word cut at its slashes. -/
def segments : List Marked → List (List Marked)
  | [] => [[]]
  | m :: ms =>
    match segments ms with
    | [] => [[m]]
    | s :: ss => if m.1 == '/' then [] :: s :: ss else (m :: s) :: ss

/-- The names below a place that match a pattern. A leading dot is matched by a dot. -/
def namesAt (g : Globbing) (disk : Disk) (place : Place) (pattern : List Marked) : List String :=
  let p := ofMarked g.rich g.grouped pattern
  let isDotted := (pattern.head?.map Prod.fst) == some '.'
  let showsHidden := isDotted || g.hidden
  let names := if isDotted then "." :: ".." :: disk.names place else disk.names place
  names.filter fun name => (showsHidden || !Text.beginsWith "." name) && fits p name

/-- The paths below a directory, as deep as there is fuel, with whether each is a directory. -/
def treeBelow (g : Globbing) (disk : Disk) : Nat → Place → String → List (String × Bool)
  | 0, _, _ => []
  | fuel + 1, place, read =>
    let names := (disk.names place).filter fun name => g.hidden || !Text.beginsWith "." name
    names.flatMap fun name =>
      let below := place ++ [name]
      let isDir := disk.at? below == some .dir
      (read ++ name, isDir) ::
        if isDir then treeBelow g disk fuel below (read ++ name ++ "/") else []

/-- How deep directories are looked through. -/
def deepestTree : Nat := 60

/-- The characters of a segment, without the backslashes that hide others. -/
def plainSegment : List Marked → List Char
  | ('\\', false) :: (c, _) :: rest => c :: plainSegment rest
  | (c, _) :: rest => c :: plainSegment rest
  | [] => []

/-- The paths that segments match below a path that is read already. -/
def pathsFrom (g : Globbing) (disk : Disk) (start : Place) :
    List (List Marked) → String → List String
  | [], read => if (disk.stat start read false).toOption.isSome then [read] else []
  | s :: ss, read =>
    let slash := if ss.isEmpty then "" else "/"
    let base := match disk.stat start (if read == "" then "." else read) with
      | .ok (place, .dir) => some place
      | _ => none
    if g.deep && s == [('*', false), ('*', false)] then
      let all := (base.map fun place => treeBelow g disk deepestTree place read).getD []
      if ss.isEmpty then (if read == "" then [] else [read]) ++ all.map Prod.fst
      else (read :: ((all.filter Prod.snd).map fun d => d.1 ++ "/")).flatMap fun path =>
        pathsFrom g disk start ss path
    else
      let names := if isPattern g.grouped s then
          (base.map fun place => namesAt g disk place s).getD []
        else [String.ofList (plainSegment s)]
      names.flatMap fun name => pathsFrom g disk start ss (read ++ name ++ slash)

/-- The paths that a word matches, in order; the word itself where it matches none. -/
def paths (g : Globbing) (disk : Disk) (start : Place) (word : List Marked) :
    Option (List String) :=
  if !isPattern g.grouped word then none
  else match pathsFrom g disk start (segments word) "" with
    | [] => none
    | found => some (sortBy (fun a b => decide (a < b)) found)

end Pattern

end ApkForge.Script
