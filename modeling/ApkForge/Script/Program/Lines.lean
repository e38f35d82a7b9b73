-- The host's programs that show, count, cut and join the lines of texts.
import ApkForge.Script.Program.Making

namespace ApkForge.Script.Program

open Work

/-! ## Lines -/

/-- The parts of a text, each with the sign that ends it if it has one. -/
def partsEnded (sign : Char) (text : String) : List String :=
  let parts := Text.split sign text
  parts.dropLast.map (· ++ String.singleton sign) ++ parts.getLast?.toList.filter (· != "")

/-- The lines of a text, each with its end if it has one. -/
def endedLines (text : String) : List String := partsEnded '\n' text

/-- The parts of a text without the sign that ends them. -/
def bareParts (sign : Char) (text : String) : List String :=
  let parts := Text.split sign text
  parts.dropLast ++ parts.getLast?.toList.filter (· != "")

/-- A line without its end. -/
def bare (line : String) : String := (Text.dropTail? "\n" line).getD line

/-- The lines of a text without their ends. -/
def bareLines (text : String) : List String := (Octet.lines text).1

/-- A number brought to a width. -/
def column (width n : Nat) : String :=
  let digits := toString n
  String.ofList (List.replicate (width - digits.length) ' ') ++ digits

/-! ## Showing whole texts -/

/-- How a text is shown: with numbers, without repeated empty lines, with signs for what is not
seen. -/
structure Display where
  numbers : Bool := false
  onlyFilled : Bool := false
  squeezes : Bool := false
  ends : Bool := false
  tabs : Bool := false
  controls : Bool := false

/-- A character shown by signs that are seen. -/
def seen (d : Display) (c : Char) : String :=
  let n := c.toNat
  let low := fun (n : Nat) =>
    if n < 32 then String.ofList ['^', Char.ofNat (n + 64)]
    else if n == 127 then "^?" else String.singleton (Char.ofNat n)
  if c == '\t' then if d.tabs then "^I" else "\t"
  else if c == '\n' then "\n"
  else if !d.controls then String.singleton c
  else if n < 128 then low n
  else "M-" ++ low (n - 128)

/-- Lines shown, from a number on. `afterEmpty` says that the line before was empty. -/
def displayed (d : Display) : Nat → Bool → List String → List String × Nat × Bool
  | n, afterEmpty, [] => ([], n, afterEmpty)
  | n, afterEmpty, line :: rest =>
    let isEmpty := line == "\n"
    if d.squeezes && isEmpty && afterEmpty then displayed d n true rest
    else
      let counts := if d.onlyFilled then !isEmpty else d.numbers
      let front := if counts then column 6 n ++ "\t" else ""
      let body := String.join ((bare line).toList.map (seen d))
      let finish := if Text.endsWith "\n" line then (if d.ends then "$\n" else "\n") else ""
      let (others, n, afterEmpty) := displayed d (if counts then n + 1 else n) isEmpty rest
      ((front ++ body ++ finish) :: others, n, afterEmpty)

/-- Texts are shown one after the other. -/
def cat (self : String) (args : List String) : Work Unit :=
  called self { flags := "nbsETAvetu", long := [("number", 'n'), ("number-nonblank", 'b'),
    ("squeeze-blank", 's'), ("show-ends", 'E'), ("show-tabs", 'T'), ("show-all", 'A'),
    ("show-nonprinting", 'v')] } args fun c => do
    let d : Display :=
      { numbers := c.has 'n', onlyFilled := c.has 'b', squeezes := c.has 's'
        ends := c.has 'E' || c.has 'A' || c.has 'e', tabs := c.has 'T' || c.has 'A' || c.has 't'
        controls := "vAet".toList.any c.has }
    let isPlain := c.options.all fun o => o.1 == 'u'
    if isPlain then
      ends 0
      (if c.operands.isEmpty then ["-"] else c.operands).forM fun path => do
        match ← inputOf path with
        | .ok text =>
          if (← writeTo 1 text) != .taken then
            tells self "write error: No space left on device"
            ends 1
        | .error fault =>
          tells self (unreadable path fault)
          ends 1
    else
      let text ← allText self unreadable c.operands
      print (String.join (displayed d 1 false (endedLines text)).1)

/-- A text in parts, each of which begins with the text between them, but for the first one. -/
def partsBegun (between text : String) : List String :=
  match text.splitOn between with
  | [] => []
  | first :: rest => first :: rest.map (between ++ ·)

/-- A text in parts, each of which ends with the text between them, but for the last one. -/
def partsClosed (between text : String) : List String :=
  let parts := text.splitOn between
  parts.dropLast.map (· ++ between) ++ parts.getLast?.toList

/-- A text is shown from its last part to its first. -/
def tac (self : String) (args : List String) : Work Unit :=
  called self { flags := "br", valued := "s", long := [("before", 'b'), ("regex", 'r'),
    ("separator", 's')] } args fun c => do
    let between := (c.value? 's').filter (· != "") |>.getD "\n"
    let complaint := fun (path : String) (fault : FileFault) => match fault with
      | .isDirectory => namedFirst path ++ ": read error: Invalid argument"
      | fault => "failed to open " ++ named path ++ " for reading: " ++ Streams.words fault
    forTexts self complaint c.operands fun _ text =>
      print (String.join ((if c.has 'b' then partsBegun between text
        else partsClosed between text).reverse))

/-- Lines are shown from their last character to their first. -/
def rev (self : String) (args : List String) : Work Unit :=
  called self {} args fun c =>
    forTexts (lastName self) (fun path fault =>
      "cannot open " ++ path ++ ": " ++ Streams.words fault)
      c.operands fun _ text => print (String.join ((endedLines text).map fun line =>
        String.ofList (bare line).toList.reverse ++ (if Text.endsWith "\n" line then "\n" else "")))

/-! ## Fronts and ends -/

/-- What a letter behind a number counts in. -/
def unitOf? : List Char → Option Nat
  | [] => some 1
  | ['b'] => some 512
  | letter :: rest =>
    let power := ("KMGTPEZY".toList.takeWhile (· != letter.toUpper)).length
    if !"kKmMGTPEZY".toList.contains letter then none
    else match rest with
      | [] => some (Nat.pow 1024 (power + 1))
      | ['i', 'B'] => some (Nat.pow 1024 (power + 1))
      | ['B'] => some (Nat.pow 1000 (power + 1))
      | _ => none

/-- A number of lines or bytes, behind blanks and a plus. A letter alone counts once. -/
def amount? (text : String) : Option Nat :=
  let unsigned := match text.toList.dropWhile Octet.isSpace with
    | '+' :: cs => cs
    | cs => cs
  let digits := unsigned.takeWhile Char.isDigit
  if digits.isEmpty then if text == "" then none else unitOf? text.toList
  else (unitOf? (unsigned.drop digits.length)).map (Number.ofDigits 10 digits * ·)

/-- The most lines or bytes that are counted. -/
def mostCounted : Nat := 18446744073709551615

/-- A front or an end of a text: how many lines or bytes it has, or how many are left out. -/
structure Extent where
  bytes : Bool
  isRest : Bool
  count : Nat
deriving Repr, Inhabited

namespace Extent

/-- The extent that a call asks for, or what is wrong with it. `isRestBehind` is the sign for all
but so many, and `signs` are those that do not belong to the number. -/
def ofCall (isRestBehind : Char) (signs : List Char) (c : Call) : Except String Extent :=
  let (bytes, text) := match c.last? "nc" with
    | some 'c' => (true, (c.value? 'c').getD "")
    | _ => (false, (c.value? 'n').getD "10")
  let isRest := text.toList.head? == some isRestBehind
  let number := match text.toList with
    | sign :: cs => if signs.contains sign then String.ofList cs else text
    | [] => text
  let wrong := "invalid number of " ++ (if bytes then "bytes" else "lines") ++ ": " ++ named number
  match amount? number with
  | none => .error wrong
  | some n =>
    if n > mostCounted then .error (wrong ++ ": Value too large for defined data type")
    else .ok { bytes, isRest, count := n }

/-- The front of a text. -/
def front (e : Extent) (sign : Char) (text : String) : String :=
  let kept := fun (size : Nat) => if e.isRest then size - e.count else e.count
  if e.bytes then String.ofList (text.toList.take (kept text.length))
  else
    let lines := partsEnded sign text
    String.join (lines.take (kept lines.length))

/-- The end of a text. -/
def back (e : Extent) (sign : Char) (text : String) : String :=
  let dropped := fun (size : Nat) => if e.isRest then e.count - 1 else size - e.count
  if e.bytes then String.ofList (text.toList.drop (dropped text.length))
  else
    let lines := partsEnded sign text
    String.join (lines.drop (dropped lines.length))

end Extent

/-- Something is shown of several texts, under their names. -/
def headed (self : String) (c : Call) (act : String → Work Unit) : Work Unit := do
  ends 0
  let shows := match c.last? "qv" with
    | some letter => letter == 'v'
    | none => c.operands.length > 1
  let heading := fun (isFirst : Bool) (path : String) =>
    if shows then
      print ((if isFirst then "" else "\n") ++ "==> " ++
        (if path == "-" then "standard input" else path) ++ " <==\n")
    else pure ()
  let _ ← (if c.operands.isEmpty then ["-"] else c.operands).foldlM (fun isFirst path => do
    match ← inputOf path with
    | .ok text =>
      heading isFirst path
      act text
      return false
    | .error .isDirectory =>
      heading isFirst path
      tells self ("error reading " ++ named path ++ ": " ++ Streams.words .isDirectory)
      ends 1
      return false
    | .error fault =>
      tells self ("cannot open " ++ named path ++ " for reading: " ++ Streams.words fault)
      ends 1
      return isFirst) true

/-- The options of the programs for fronts and ends. A digit is read as an option to be refused. -/
def frontOptions : Options :=
  { flags := "qvz0123456789"
    valued := "nc"
    long := [("lines", 'n'), ("bytes", 'c'), ("quiet", 'q'), ("silent", 'q'), ("verbose", 'v'),
      ("zero-terminated", 'z')] }

/-- The options of the program for ends, which can also wait for more. -/
def backOptions : Options :=
  { frontOptions with
    flags := frontOptions.flags ++ "fFR"
    valued := frontOptions.valued ++ "sp"
    long := frontOptions.long ++ [("follow", 'f'), ("retry", 'R'), ("sleep-interval", 's'),
      ("pid", 'p')] }

/-- What ends a line for a call. -/
def lineSign (c : Call) : Char := if c.has 'z' then '\x00' else '\n'

/-- The arguments with a number in the first one, behind a dash and before letters, as options. Or a
letter that cannot stand there. -/
def frontArguments : List String → Except Char (List String)
  | [] => .ok []
  | arg :: rest =>
    match arg.toList with
    | '-' :: c :: cs =>
      if !c.isDigit then .ok (arg :: rest)
      else
        let digits := (c :: cs).takeWhile Char.isDigit
        let letters := (c :: cs).drop digits.length
        match letters.find? fun letter => !"cbkmlqvz".toList.contains letter with
        | some letter => .error letter
        | none =>
          let what := match letters.reverse.find? "cbkml".toList.contains with
            | none => "-n"
            | some letter => if letter == 'l' then "-n" else "-c"
          let unit := match letters.reverse.find? "cbkm".toList.contains with
            | some letter => if letter == 'c' then "" else String.singleton letter
            | none => ""
          .ok ((what ++ String.ofList digits ++ unit) ::
            ((letters.filter "qvz".toList.contains).map fun letter =>
              "-" ++ String.singleton letter)
              ++ rest)
    | _ => .ok (arg :: rest)

/-- The fronts of texts are shown. -/
def head (self : String) (args : List String) : Work Unit := do
  let trailing := fun (letter : Char) =>
    misused self ("invalid trailing option -- " ++ String.singleton letter)
  match frontArguments args with
  | .error letter => trailing letter
  | .ok args =>
    called self frontOptions args fun c => do
      match c.options.find? fun o => o.1.isDigit, Extent.ofCall '-' ['-'] c with
      | some (letter, _), _ => trailing letter
      | none, .error wrong => fails self wrong 1
      | none, .ok e =>
        if c.operands.isEmpty && !e.bytes && !e.isRest && !c.has 'v' then
          ends 0
          forFew (lineSign c) e.count
        else headed self c fun text => print (e.front (lineSign c) text)
where
  /-- So many lines of the input are shown, and the rest is left to others. -/
  forFew (sign : Char) : Nat → Work Unit
    | 0 => return ()
    | n + 1 => do
      let (line, found) ← readUpTo 0 sign
      print (if found then line ++ String.singleton sign else line)
      if found then forFew sign n

/-- A single argument before at most one file that says where the end begins: a plus or a dash, a
number and letters. -/
def backArgument? (arg : String) : Option (List String) :=
  match arg.toList with
  | sign :: cs =>
    let digits := cs.takeWhile Char.isDigit
    let letters := cs.drop digits.length
    let (unit, waits) := match letters with
      | letter :: more =>
        if "bcl".toList.contains letter then (some letter, more) else (none, letters)
      | [] => (none, [])
    let isCut := sign == '+' || (sign == '-' && !cs.isEmpty && cs != ['c'])
    if isCut && (waits == [] || waits == ['f']) then
      let count := if digits.isEmpty then "10" else String.ofList digits
      let what := if unit == some 'b' || unit == some 'c' then "-c" else "-n"
      some ((what ++ (if sign == '+' then "+" else "") ++ count ++
        (if unit == some 'b' then "b" else "")) :: (if waits == [] then [] else ["-f"]))
    else none
  | [] => none

/-- The arguments with the first one as options if it says where the end begins. -/
def backArguments (args : List String) : List String :=
  match args with
  | [arg] => (backArgument? arg).getD args
  | [arg, file] =>
    if Text.beginsWith "-" file && file != "-" && file != "--" then args
    else ((backArgument? arg).map (· ++ [file])).getD args
  | [arg, "--", file] => ((backArgument? arg).map (· ++ ["--", file])).getD args
  | args => args

/-- The ends of texts are shown. -/
def tail (self : String) (args : List String) : Work Unit :=
  called self backOptions (backArguments args) fun c => do
    match c.options.find? fun o => o.1.isDigit, Extent.ofCall '+' ['-'] c with
    | some (letter, _), _ =>
      fails self ("option used in invalid context -- " ++ String.singleton letter) 1
    | none, .error wrong => fails self wrong 1
    | none, .ok e =>
      let follows := c.has 'f' || c.has 'F'
      if c.has 'R' && !follows then
        tells self "warning: --retry ignored; --retry is useful only when following"
      if c.has 'p' && !follows then
        tells self "warning: PID ignored; --pid=PID is useful only when following"
      headed self c fun text => print (e.back (lineSign c) text)
      if follows then giveUp

/-! ## Counting -/

/-- The number of words in a text. -/
def wordCount (text : String) : Nat := (Octet.words text).length

/-- The most columns that a line takes, of those before, of the line at hand so far, and of the rest
of a text. -/
def longest (most column : Nat) : List Char → Nat
  | [] => max most column
  | c :: cs =>
    if c == '\n' || c == '\r' || c == '\x0c' then longest (max most column) 0 cs
    else if c == '\t' then longest most (column + 8 - column % 8) cs
    else if ' ' ≤ c && c ≤ '~' then longest most (column + 1) cs
    else longest most column cs

/-- The counts of a text: lines, words, characters, bytes and the longest line. -/
def counts (text : String) : List (Char × Nat) :=
  [('l', text.toList.count '\n'), ('w', wordCount text), ('m', text.length), ('c', text.length),
    ('L', longest 0 0 text.toList)]

/-- The counts that are wanted, in columns. -/
def countLine (width : Nat) (letters : List Char) (cs : List (Char × Nat)) (name : String) :
    String :=
  let shown := letters.map fun letter => column width ((cs.lookup letter).getD 0)
  Text.join " " shown ++ (if name == "" then "" else " " ++ name)

/-- Lines, words and bytes are counted. -/
def wc (self : String) (args : List String) : Work Unit :=
  called self { flags := "lwcmL", long := [("lines", 'l'), ("words", 'w'), ("bytes", 'c'),
    ("chars", 'm'), ("max-line-length", 'L')] } args fun c => do
    let m ← get
    let wanted := "lwmcL".toList.filter c.has
    let letters := if wanted.isEmpty then ['l', 'w', 'c'] else wanted
    let paths := if c.operands.isEmpty then ["-"] else c.operands
    let isFile := fun (path : String) =>
      if path != "-" then match m.stat path with
        | .ok (_, .file content _) => some content.length
        | .ok _ => none
        | .error _ => some 0
      else match ((m.streams.lookup 0).bind fun id =>
        m.world.files.lookup id).map OpenFile.target with
        | some (.file place) =>
          match m.world.disk.tree.at? place with
          | some (.file content _) => some content.length
          | _ => none
        | _ => none
    let sizes := paths.map isFile
    let least := if sizes.any Option.isNone then 7 else 1
    let total := (sizes.filterMap id).foldl (· + ·) 0
    let width := if paths.length == 1 && letters.length == 1 then 1
      else max least (toString total).length
    ends 0
    let sums ← paths.foldlM (fun sums path => do
      let show_ := fun (text : String) => do
        let own := counts text
        printLine (countLine width letters own (if c.operands.isEmpty then "" else path))
        return sums.map fun s =>
          let n := (own.lookup s.1).getD 0
          (s.1, if s.1 == 'L' then max s.2 n else s.2 + n)
      match ← inputOf path with
      | .ok text => show_ text
      | .error fault =>
        tells self (unreadable path fault)
        ends 1
        if fault == .isDirectory then show_ "" else return sums) (counts "")
    if paths.length > 1 then printLine (countLine width letters sums "total")

/-- The value of an option as a number. -/
def numberOf (c : Call) (letter : Char) (usual : Nat) : Nat :=
  ((c.value? letter).bind String.toNat?).getD usual

/-! ## Side by side -/

/-- Lists side by side, as long as one of them goes on. -/
def abreast : Nat → List (List String) → List (List String)
  | 0, _ => []
  | fuel + 1, lists =>
    if lists.all List.isEmpty then []
    else lists.map (fun l => l.headD "") :: abreast fuel (lists.map List.tail)

/-- Texts joined by signs that are taken in turn. -/
def joinedBy (signs : List String) : Nat → List String → String
  | _, [] => ""
  | _, [last] => last
  | i, a :: rest => a ++ (signs.getD (i % max 1 signs.length) "") ++ joinedBy signs (i + 1) rest

/-- The signs of a list of delimiters, with escapes. A backslash at the end escapes nothing. -/
def delimiters? : List Char → Option (List String)
  | [] => some []
  | ['\\'] => none
  | '\\' :: '0' :: cs => (delimiters? cs).map ("" :: ·)
  | '\\' :: c :: cs =>
    let sign := match "bfnrtv".toList.idxOf? c with
      | some i => "\x08\x0c\n\r\t\x0b".toList.getD i c
      | none => c
    (delimiters? cs).map (String.singleton sign :: ·)
  | c :: cs => (delimiters? cs).map (String.singleton c :: ·)

/-- Lines of several texts are put side by side, or all lines of each one after the other. -/
def paste (self : String) (args : List String) : Work Unit :=
  called self { flags := "sz", valued := "d", long := [("delimiters", 'd'), ("serial", 's'),
    ("zero-terminated", 'z')] } args fun c => do
    let paths := if c.operands.isEmpty then ["-"] else c.operands
    let signs := (c.value? 'd').getD "\t"
    match delimiters? signs.toList with
    | none => fails self ("delimiter list ends with an unescaped backslash: " ++ signs) 1
    | some signs =>
      let lineEnd := String.singleton (lineSign c)
      let linesOf := bareParts (lineSign c)
      ends 0
      let dashes := (paths.filter (· == "-")).length
      let input ← if dashes == 0 then pure [] else do pure (linesOf (← readAll 0))
      let lists ← paths.filterMapM fun path => do
        if path == "-" then return some none
        match ← inputOf path with
        | .ok text => return some (some (linesOf text))
        | .error fault =>
          tells self (unreadable path fault)
          ends 1
          return if fault == .isDirectory then some (some []) else none
      if (← get).status == 0 || c.has 's' then
        let share := fun (i : Nat) =>
          ((List.range input.length).filter fun n => n % max 1 dashes == i).map fun n =>
            input.getD n ""
        let (lists, _) := lists.foldl (fun (lists, i) l => match l with
          | some l => (l :: lists, i)
          | none =>
            let own := if !c.has 's' then share i else if i == 0 then input else []
            (own :: lists, i + 1)) ([], 0)
        let lists := lists.reverse
        let shown := if c.has 's' then lists
          else abreast ((lists.map List.length).foldl max 0) lists
        print (String.join (shown.map fun parts => joinedBy signs 0 parts ++ lineEnd))

/-! ## Making lines -/

/-- A line is repeated as long as somebody reads it. -/
def yes (_self : String) (args : List String) : Work Unit := do
  let m ← get
  let line := (if args.isEmpty then "y" else Text.join " " args) ++ "\n"
  if feedsPipe m then
    print (String.join (List.replicate (200000 / line.length + 1) line))
    throw (.killed m.process 13)
  else giveUp

/-- The decimal places of a number as it is written. -/
def places (text : String) : Nat :=
  match Text.split '.' text with
  | [_, part] => part.length
  | _ => 0

/-- A number with decimals as a whole number of parts of one. -/
def scaled? (scale : Nat) (text : String) : Option Int := do
  let (x, rest) ← Decimal.read? text.toList
  if !rest.isEmpty || text == "" then none
  match x with
  | .finite negative n d =>
    let n := n * Nat.pow 10 scale / d
    some (if negative then -(Int.ofNat n) else Int.ofNat n)
  | _ => none

/-- Numbers from one to another by a step. -/
def stepsOf (last step : Int) : Nat → Int → List Int
  | 0, _ => []
  | fuel + 1, n =>
    if (0 < step && last < n) || (step < 0 && n < last) then []
    else n :: stepsOf last step fuel (n + step)

/-- A whole number of parts as a number with so many decimals. -/
def scaledText (scale : Nat) (n : Int) : String :=
  let digits := toString n.natAbs
  let digits := String.ofList (List.replicate (scale + 1 - digits.length) '0') ++ digits
  let cs := digits.toList
  let whole := String.ofList (cs.take (cs.length - scale))
  let sign := if n < 0 then "-" else ""
  sign ++ whole ++ (if scale == 0 then "" else
    "." ++ String.ofList (cs.drop (cs.length - scale)))

/-- A number with zeros in front to a width. -/
def zeroed (width : Nat) (text : String) : String :=
  match text.toList with
  | '-' :: cs => "-" ++ String.ofList (List.replicate (width - text.length) '0' ++ cs)
  | cs => String.ofList (List.replicate (width - text.length) '0' ++ cs)

/-- The options in front of numbers, which may have a sign themselves. -/
def beforeNumbers : List String → List String
  | [] => []
  | arg :: rest =>
    match arg.toList with
    | ['-', '-'] => arg :: rest
    | '-' :: c :: cs =>
      let takesValue := arg == "--separator" || arg == "--format" ||
        (c != '-' && ((c :: cs).dropWhile (· == 'w') == ['s'] ||
          (c :: cs).dropWhile (· == 'w') == ['f']))
      if c.isDigit || c == '.' then "--" :: arg :: rest
      else if takesValue then match rest with
        | value :: rest => arg :: value :: beforeNumbers rest
        | [] => [arg]
      else arg :: beforeNumbers rest
    | _ => arg :: rest

/-- What is wrong with the format of a number. -/
def numberFormatFault? (form : String) : Option String :=
  let wrong := fun (words : String) => some ("format " ++ named form ++ " " ++ words)
  match directive? form.toList with
  | none => wrong "has no % directive"
  | some cs =>
    let cs := cs.dropWhile "-+#0 '".toList.contains
    let cs := cs.dropWhile Char.isDigit
    let cs := match cs with
      | '.' :: cs => cs.dropWhile Char.isDigit
      | cs => cs
    let cs := match cs with
      | 'L' :: cs => cs
      | cs => cs
    match cs with
    | [] => wrong "ends in %"
    | letter :: rest =>
      if !"efgaEFGA".toList.contains letter then
        wrong ("has unknown %" ++ String.singleton letter ++ " directive")
      else if (directive? rest).isSome then wrong "has too many % directives"
      else none
where
  /-- What follows the first percent sign that does not stand for itself. -/
  directive? : List Char → Option (List Char)
    | '%' :: '%' :: cs => directive? cs
    | '%' :: cs => some cs
    | _ :: cs => directive? cs
    | [] => none

/-- A number as an argument: it may be too large to count to. -/
def isEndless (text : String) : Bool :=
  match Decimal.read? text.toList with
  | some (.infinite false, []) => true
  | _ => false

/-- The most numbers that a sequence has. -/
def mostNumbers : Nat := 200000

/-- Numbers are shown one after the other. -/
def seq (self : String) (args : List String) : Work Unit :=
  called self
    { flags := "w", valued := "sf", endEarly := true, long := [("separator", 's'), ("format", 'f'),
      ("equal-width", 'w')] } (beforeNumbers args) fun c => do
    let run := fun (first step last : String) => do
      let scale := max (places first) (places step)
      let value? := fun (t : String) =>
        if isEndless t then some (Int.ofNat mostCounted) else scaled? scale t
      let isNothing := fun (t : String) => match Decimal.read? t.toList with
        | some (.none, []) => true
        | _ => false
      match [first, step, last].find? fun t => (value? t).isNone with
      | some bad =>
        misused self (if isNothing bad then "invalid " ++ named "not-a-number" ++ " argument: " ++
            named bad
          else "invalid floating point argument: " ++ named bad)
      | none =>
        let value := fun (t : String) => (value? t).getD 0
        if value step == 0 then misused self ("invalid Zero increment value: " ++ named step)
        else match (c.value? 'f').bind numberFormatFault? with
        | some words => fails self words 1
        | none =>
          if c.has 'w' && c.has 'f' then
            misused self "format string may not be specified when printing equal width strings"
          else
            let numbers := stepsOf (value last) (value step) mostNumbers (value first)
            let texts := numbers.map (scaledText scale)
            let texts := if c.has 'w' then
                let width := (texts.map String.length).foldl max 0
                texts.map (zeroed width)
              else match c.value? 'f' with
                | some form => texts.map fun t =>
                    (Printing.format .program (fun _ _ => "") form [t]).1
                | none => texts
            ends 0
            if !texts.isEmpty then print (Text.join ((c.value? 's').getD "\n") texts ++ "\n")
            if isEndless last then
              let m ← get
              if feedsPipe m then throw (.killed m.process 13) else giveUp
    match c.operands with
    | [] => misused self "missing operand"
    | [last] => run "1" "1" last
    | [first, last] => run first "1" last
    | [first, step, last] => run first step last
    | _ :: _ :: _ :: extra :: _ => misused self ("extra operand " ++ named extra)

/-! ## Several targets -/

/-- The input is shown and written to files. -/
def tee (self : String) (args : List String) : Work Unit :=
  called self { flags := "aip", long := [("append", 'a'), ("ignore-interrupts", 'i')] } args
    fun c => do
    ends 0
    let m ← get
    let opened ← c.operands.filterMapM fun path => do
      let old := if c.has 'a' then ((textOf m path).toOption.getD "") else ""
      match ← writeFile path old with
      | some fault =>
        tells self (unreadable path fault)
        ends 1
        return none
      | none => return some (path, old)
    let text ← readAll 0
    print text
    opened.forM fun (path, old) => do
      let isStream := match (← get).stat path with
        | .ok (_, .device _) => true
        | _ => false
      if !isStream || text != "" then
        let _ ← writeFile path (if isStream then text else old ++ text)

end ApkForge.Script.Program
