-- The host's programs that order lines and show repeated ones once.
import ApkForge.Script.Program.Lines

namespace ApkForge.Script.Program

open Work

/-! ## Numbers in lines -/

/-- A number at the front of a text: whether it is negative, its digits, and how many of them are
decimals. -/
structure Quantity where
  negative : Bool
  digits : Nat
  places : Nat
deriving Inhabited

/-- The number at the front of a text, which is 0 without digits, and what follows it. -/
def quantity (text : List Char) : Quantity × List Char :=
  let cs := text.dropWhile Octet.isBlank
  let (negative, cs) := match cs with
    | '-' :: cs => (true, cs)
    | cs => (false, cs)
  let whole := cs.takeWhile Char.isDigit
  let rest := cs.drop whole.length
  let (part, rest) := match rest with
    | '.' :: cs => (cs.takeWhile Char.isDigit, cs.dropWhile Char.isDigit)
    | cs => ([], cs)
  let digits := Number.ofDigits 10 (whole ++ part)
  (⟨negative && digits != 0, digits, part.length⟩, rest)

/-- Two whole numbers in their order. -/
def order (a b : Nat) : Ordering := if a < b then .lt else if b < a then .gt else .eq

/-- Two numbers in their order. -/
def Quantity.compare (a b : Quantity) : Ordering :=
  let size := order (a.digits * Nat.pow 10 b.places) (b.digits * Nat.pow 10 a.places)
  match a.negative, b.negative with
  | false, false => size
  | true, true => size.swap
  | true, false => .lt
  | false, true => .gt

/-- Two numbers with letters for how much they count, in their order. -/
def compareScaled (a b : List Char) : Ordering :=
  let rank := fun (rest : List Char) => match rest with
    | c :: _ => match ['K', 'M', 'G', 'T', 'P', 'E'].idxOf? c.toUpper with
      | some i => i + 1
      | none => 0
    | [] => 0
  let (x, restX) := quantity a
  let (y, restY) := quantity b
  let (rankX, rankY) :=
    (if x.digits == 0 then 0 else rank restX, if y.digits == 0 then 0 else rank restY)
  match x.negative, y.negative with
  | false, false => (order rankX rankY).then (x.compare y)
  | true, true => (order rankY rankX).then (x.compare y)
  | true, false => .lt
  | false, true => .gt

/-- Two texts in their order. -/
def compareText (a b : String) : Ordering := if a < b then .lt else if b < a then .gt else .eq

/-- How a character of a version that is no digit is ordered: a tilde first, then the end, letters
and the others. -/
def versionRank (c : Option Char) : Nat :=
  match c with
  | some '~' => 0
  | none => 1
  | some c => if c.isDigit then 1 else if c.isAlpha then c.toNat + 2 else c.toNat + 300

/-- Two versions in their order, a part without digits and a number after the other. -/
def compareVersions : Nat → List Char → List Char → Ordering
  | 0, _, _ => .eq
  | fuel + 1, a, b =>
    match a, b with
    | [], [] => .eq
    | a, b =>
      let isWord := fun (cs : List Char) => (cs.head?.map fun c => !c.isDigit).getD false
      if isWord a || isWord b then
        match order (versionRank a.head?) (versionRank b.head?) with
        | .eq =>
          compareVersions fuel (if isWord a then a.tail else a) (if isWord b then b.tail else b)
        | other => other
      else
        let (x, y) := (a.takeWhile Char.isDigit, b.takeWhile Char.isDigit)
        match order (Number.ofDigits 10 x) (Number.ofDigits 10 y) with
        | .eq => compareVersions fuel (a.drop x.length) (b.drop y.length)
        | other => other

/-- The number of a month by its name. -/
def monthOf (cs : List Char) : Nat :=
  let name := String.ofList (((cs.dropWhile Octet.isBlank).take 3).map Char.toUpper)
  match ["JAN", "FEB", "MAR", "APR", "MAY", "JUN", "JUL", "AUG", "SEP", "OCT", "NOV",
      "DEC"].idxOf? name with
  | some i => i + 1
  | none => 0

/-- Two numbers as they are written in any form, in their order. A text that is none comes first. -/
def compareGeneral (a b : List Char) : Ordering :=
  let value := fun (cs : List Char) => (Decimal.read? (cs.dropWhile Octet.isBlank)).map Prod.fst
  match value a, value b with
  | none, none => .eq
  | none, some _ => .lt
  | some _, none => .gt
  | some x, some y =>
    match x, y with
    | .finite nx a b, .finite ny c d =>
      let (l, r) := (Int.ofNat (a * d), Int.ofNat (c * b))
      let (l, r) := (if nx then -l else l, if ny then -r else r)
      if l < r then .lt else if r < l then .gt else .eq
    | x, y => order (rank x) (rank y)
where
  /-- Which of all kinds of numbers comes first. -/
  rank : Decimal → Nat
    | .none => 0
    | .infinite negative => if negative then 1 else 3
    | .finite _ _ _ => 2

/-! ## Keys -/

/-- A part of a line by which lines are ordered: the field and character where it begins and where
it ends, counted from zero, and the letters of how it is compared. -/
structure Key where
  field : Nat := 0
  char : Nat := 0
  lastField : Option Nat := none
  lastChar : Nat := 0
  letters : List Char := []
  startBlanks : Bool := false
  endBlanks : Bool := false
deriving Inhabited

/-- What is left of a line after so many fields. -/
def skipFields (sign : Option Char) : Nat → List Char → List Char
  | 0, cs => cs
  | n + 1, cs =>
    match sign with
    | some c => skipFields sign n ((cs.dropWhile (· != c)).drop 1)
    | none => skipFields sign n
        ((cs.dropWhile Octet.isBlank).dropWhile fun d => !Octet.isBlank d)

/-- How much of a line lies before the end of a key. -/
def endOf (sign : Option Char) (key : Key) (line : List Char) : Nat :=
  match key.lastField with
  | none => line.length
  | some field =>
    if key.lastChar == 0 then
      let before := skipFields sign field line
      let own := match sign with
        | some c => before.dropWhile (· != c)
        | none => (before.dropWhile Octet.isBlank).dropWhile fun d => !Octet.isBlank d
      line.length - own.length
    else
      let before := skipFields sign field line
      let before := if key.endBlanks then before.dropWhile Octet.isBlank else before
      min line.length (line.length - before.length + key.lastChar)

/-- The part of a line that a key means. -/
def Key.part (key : Key) (sign : Option Char) (line : List Char) : List Char :=
  let rest := skipFields sign key.field line
  let rest := if key.startBlanks then rest.dropWhile Octet.isBlank else rest
  let start := min line.length (line.length - rest.length + key.char)
  (line.take (endOf sign key line)).drop start

/-- Two parts in their order, as the letters of a key say. -/
def compareParts (letters : List Char) (a b : List Char) : Ordering :=
  let has := letters.contains
  let kept := fun (cs : List Char) =>
    let cs := if has 'd' then cs.filter fun c => c.isAlphanum || Octet.isBlank c
      else if has 'i' then cs.filter fun c => 32 ≤ c.toNat && c.toNat < 127 else cs
    if has 'f' then cs.map Char.toUpper else cs
  if has 'n' then (quantity a).1.compare (quantity b).1
  else if has 'g' then compareGeneral a b
  else if has 'h' then compareScaled a b
  else if has 'M' then order (monthOf a) (monthOf b)
  else if has 'V' then compareVersions (a.length + b.length + 1) a b
  else compareText (String.ofList (kept a)) (String.ofList (kept b))

/-- A number of a field or a character at the front of a text, and what follows. -/
def positionAt (what : String) (cs : List Char) : Except String (Nat × List Char) :=
  let digits := cs.takeWhile Char.isDigit
  if digits.isEmpty then
    .error ("invalid number " ++ what ++ ": invalid count at start of " ++ named (String.ofList cs))
  else .ok (Number.ofDigits 10 digits, cs.drop digits.length)

/-- A key from its text. -/
def Key.read (text : String) : Except String Key := do
  let zero := "field number is zero: invalid field specification " ++ named text
  let (field, cs) ← positionAt "at field start" text.toList
  if field == 0 then throw zero
  let (char, cs) ← match cs with
    | '.' :: cs => positionAt "after '.'" cs
    | cs => pure (1, cs)
  if char == 0 then
    throw ("character offset is zero: invalid field specification " ++ named text)
  let isLetter := "bdfghiMnRrV".toList.contains
  let first := cs.takeWhile isLetter
  match cs.drop first.length with
  | [] =>
    return { field := field - 1, char := char - 1, letters := first
             startBlanks := first.contains 'b' }
  | ',' :: cs =>
    let (last, cs) ← positionAt "after ','" cs
    if last == 0 then throw zero
    let (lastChar, cs) ← match cs with
      | '.' :: cs => positionAt "after '.'" cs
      | cs => pure (0, cs)
    let second := cs.takeWhile isLetter
    if second.length < cs.length then
      throw ("stray character in field spec: invalid field specification " ++ named text)
    return { field := field - 1, char := char - 1, lastField := some (last - 1), lastChar
             letters := first ++ second, startBlanks := first.contains 'b'
             endBlanks := second.contains 'b' }
  | _ => throw ("stray character in field spec: invalid field specification " ++ named text)

/-! ## Sorting -/

/-- How lines are ordered. -/
structure Ordered where
  keys : List Key
  sign : Option Char
  reversed : Bool
  stable : Bool

/-- Two lines in their order by the keys alone. -/
def Ordered.byKeys (o : Ordered) (a b : String) : Ordering :=
  o.keys.foldl (fun found key => found.then
    (let own := compareParts key.letters (key.part o.sign a.toList) (key.part o.sign b.toList)
     if key.letters.contains 'r' then own.swap else own)) .eq

/-- Two lines in their order. Those with the same keys are ordered as a whole. -/
def Ordered.compare (o : Ordered) (a b : String) : Ordering :=
  let own := o.byKeys a b
  if own != .eq || o.stable then own
  else if o.reversed then (compareText a b).swap else compareText a b

/-- The first of equal lines that follow one another. -/
def firstOfEach (same : String → String → Bool) : List String → List String
  | [] => []
  | [a] => [a]
  | a :: b :: rest =>
    if same a b then firstOfEach same (a :: rest) else a :: firstOfEach same (b :: rest)
termination_by ls => ls.length

/-- The options of sorting. -/
def sortOptions : Options :=
  { flags := "bdfghiMnRrVcCmsuz"
    valued := "koStT"
    long := [("reverse", 'r'), ("numeric-sort", 'n'), ("unique", 'u'), ("key", 'k'),
      ("field-separator", 't'), ("ignore-case", 'f'), ("ignore-leading-blanks", 'b'),
      ("version-sort", 'V'), ("human-numeric-sort", 'h'), ("general-numeric-sort", 'g'),
      ("stable", 's'), ("check", 'c'), ("merge", 'm'), ("output", 'o'), ("month-sort", 'M'),
      ("dictionary-order", 'd'), ("zero-terminated", 'z')] }

/-- Lines are put in order. -/
def sort (self : String) (args : List String) : Work Unit :=
  calledOr (misusedAs 2 self) sortOptions args fun c => do
    let general := (c.options.map Prod.fst).filter "bdfghiMnRrV".toList.contains
    match (c.values 'k').mapM Key.read, (c.value? 't').getD "x" with
    | .error words, _ => fails self words 2
    | .ok keys, sign =>
      if sign.length != 1 && sign != "\\0" then
        if sign == "" then fails self "empty tab" 2
        else fails self ("multi-character tab " ++ named sign) 2
      else
        let keys := keys.map fun key =>
          if key.letters.isEmpty && !key.startBlanks && !key.endBlanks then
            { key with letters := general, startBlanks := general.contains 'b'
                       endBlanks := general.contains 'b' }
          else key
        let whole : Key := { letters := general, startBlanks := general.contains 'b' }
        let o : Ordered :=
          { keys := if keys.isEmpty then [whole] else keys
            sign := (c.value? 't').bind fun t => t.toList.head?
            reversed := c.has 'r', stable := c.has 's' || c.has 'u' }
        let texts ← (if c.operands.isEmpty then ["-"] else c.operands).mapM inputOf
        match ((if c.operands.isEmpty then ["-"] else c.operands).zip texts).findSome? fun t =>
            match t.2 with
            | .error fault => some (t.1, fault)
            | .ok _ => none with
        | some (path, fault) =>
          let checks := c.has 'c' || c.has 'C'
          fails self ((if fault == .isDirectory then "read failed: "
              else if checks then "open failed: " else "cannot read: ") ++
            namedFirst path ++ ": " ++ Streams.words fault) 2
        | none =>
          let lines := texts.flatMap fun t => match t with
            | .ok text => bareParts (lineSign c) text
            | .error _ => []
          if let (some letter, _ :: extra :: _) := (c.last? "cC", c.operands) then
            fails self ("extra operand " ++ named extra ++ " not allowed with -" ++
              String.singleton letter) 2
          else if c.has 'c' || c.has 'C' then
            let pairs := lines.zip (lines.drop 1)
            match pairs.findIdx? fun (a, b) =>
                let found := o.compare a b
                found == .gt || (c.has 'u' && found == .eq) with
            | none => ends 0
            | some i =>
              if c.has 'c' then
                tells self ((c.operands.headD "-") ++ ":" ++ toString (i + 2) ++ ": disorder: " ++
                  lines.getD (i + 1) "")
              ends 1
          else
            let sorted := sortBy (fun a b => o.compare a b == .lt) lines
            let kept := if c.has 'u' then firstOfEach (fun a b => o.byKeys a b == .eq) sorted
              else sorted
            ends 0
            let text := String.join (kept.map (· ++ String.singleton (lineSign c)))
            match c.value? 'o' with
            | none => print text
            | some path =>
              match ← writeFile path text with
              | none => return ()
              | some fault =>
                fails self ("open failed: " ++ namedFirst path ++ ": " ++ Streams.words fault) 2

/-! ## Repeated lines -/

/-- Lines that follow one another and are the same, as runs. -/
def runs (same : String → String → Bool) : List String → List (List String)
  | [] => []
  | line :: rest =>
    match runs same rest with
    | (next :: run) :: more =>
      if same line next then (line :: next :: run) :: more else [line] :: (next :: run) :: more
    | more => [line] :: more

/-- Empty lines that set groups of lines apart: in front of each, behind each, or only between
them. -/
structure Spacing where
  front : Bool := false
  back : Bool := false
  between : Bool := false

/-- The ways to set groups apart, by their names. -/
def spacings : List (String × Spacing) :=
  [("none", {}), ("prepend", { front := true }), ("append", { back := true }),
    ("separate", { between := true }), ("both", { front := true, back := true, between := true })]

/-- Groups of lines with what sets them apart. -/
def Spacing.spaced (s : Spacing) (groups : List (List String)) : List String :=
  let gap := fun (wanted : Bool) => if wanted then [""] else []
  let inner := if s.front || s.back then [] else gap s.between
  let last := if s.back && !groups.isEmpty then gap (s.back && s.front) else []
  let parts := groups.map fun g => gap s.front ++ g ++ gap (s.back && !s.front)
  ((parts.intersperse inner).flatten) ++ last

/-- The arguments with the old forms of numbers to be passed over: after a dash for parts, and after
a plus for characters. -/
def withOldSkips : List String → List String
  | [] => []
  | arg :: rest =>
    let isNumber := fun (cs : List Char) => !cs.isEmpty && cs.all Char.isDigit
    match arg.toList with
    | '-' :: cs =>
      if isNumber cs then ("-f" ++ String.ofList cs) :: withOldSkips rest
      else if !Text.beginsWith "--" arg && (cs.getLast?.any "fsw".toList.contains) then
        match rest with
        | value :: rest => arg :: value :: withOldSkips rest
        | [] => [arg]
      else arg :: withOldSkips rest
    | '+' :: cs =>
      (if isNumber cs then "-s" ++ String.ofList cs else arg) :: withOldSkips rest
    | _ => arg :: withOldSkips rest

/-- What is wrong with the options of a call to show lines once: words, and whether the way to call
the program is told. -/
def uniqFault? (c : Call) : Option (String × Bool) :=
  let number := fun (letter : Char) (what : String) =>
    (c.values letter).findSome? fun value =>
      if value != "" && value.toList.all Char.isDigit then none
      else some (value ++ ": invalid number of " ++ what, false)
  let method := fun (letter : Char) (option : String) (names : List String) =>
    (c.values letter).findSome? fun value =>
      if value == "" || names.contains value then none
      else
        let listed := names.map fun name => "\n  - " ++ named name
        some ("invalid argument " ++ named value ++ " for " ++ named option ++
          "\nValid arguments are:" ++ String.join listed, true)
  (number 'f' "fields to skip").orElse fun _ =>
    (number 's' "bytes to skip").orElse fun _ =>
    (number 'w' "bytes to compare").orElse fun _ =>
    (method 'D' "--all-repeated" ["none", "prepend", "separate"]).orElse fun _ =>
    (method 'G' "--group" ["prepend", "append", "separate", "both"]).orElse fun _ =>
    match c.operands with
    | _ :: _ :: extra :: _ => some ("extra operand " ++ named extra, true)
    | _ =>
      if c.has 'G' && "cdDu".toList.any c.has then
        some ("--group is mutually exclusive with -c/-d/-D/-u", true)
      else if c.has 'c' && c.has 'D' then
        some ("printing all duplicated lines and repeat counts is meaningless", true)
      else none

/-- Repeated lines are shown once. -/
def uniq (self : String) (args : List String) : Work Unit :=
  called self { flags := "cduiDz", valued := "fsw", long := [("count", 'c'), ("repeated", 'd'),
    ("unique", 'u'), ("ignore-case", 'i'), ("skip-fields", 'f'), ("skip-chars", 's'),
    ("check-chars", 'w'), ("all-repeated", 'D'), ("group", 'G'), ("zero-terminated", 'z')] }
    (withOldSkips args) fun c => do
    let path := c.operands.headD "-"
    match uniqFault? c with
    | some (words, true) => misused self words
    | some (words, false) => fails self words 1
    | none => match ← inputOf path with
      | .error .isDirectory =>
        fails self ("error reading " ++ named path ++ ": " ++ Streams.words .isDirectory) 1
      | .error fault => fails self (unreadable path fault) 1
      | .ok text =>
        let key := fun (line : String) =>
          let cs := skipFields none (numberOf c 'f' 0) line.toList
          let cs := cs.drop (numberOf c 's' 0)
          let cs := match (c.value? 'w').bind String.toNat? with
            | some n => cs.take n
            | none => cs
          if c.has 'i' then cs.map Char.toLower else cs
        let lineEnd := String.singleton (lineSign c)
        let lines := bareParts (lineSign c) text
        let found := runs (fun a b => key a == key b) lines
        let spacing := fun (letter : Char) (usual : String) =>
          (spacings.lookup (match c.value? letter with
            | some "" => usual
            | some name => name
            | none => "none")).getD {}
        let shown := if c.has 'G' then (spacing 'G' "separate").spaced found
          else if c.has 'D' then
            (spacing 'D' "none").spaced (found.filter fun run => 1 < run.length)
          else found.flatMap fun run =>
            let n := run.length
            if (c.has 'd' && n < 2) || (c.has 'u' && 1 < n) then []
            else (run.take 1).map fun line => if c.has 'c' then column 7 n ++ " " ++ line else line
        let result := String.join (shown.map (· ++ lineEnd))
        ends 0
        match c.operands with
        | _ :: output :: _ =>
          if output == "-" then print result
          else match ← writeFile output result with
          | none => return ()
          | some fault => fails self (unreadable output fault) 1
        | _ => print result

end ApkForge.Script.Program
