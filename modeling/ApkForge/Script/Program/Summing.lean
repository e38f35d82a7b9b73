-- The host's programs that show texts as numbers, write them in other letters, sum them up and
-- compare them byte by byte.
import ApkForge.Digest.Crc32
import ApkForge.Digest.Sha1
import ApkForge.Script.Program.Lines

namespace ApkForge.Script.Program

open Work

/-! ## Bytes as numbers -/

/-- How a group of bytes is shown: as characters or as a number. -/
inductive ByteForm where
  | characters
  | names
  | number (letter : Char) (size : Nat)
deriving DecidableEq, Repr, Inhabited

/-- The names of the bytes that are no visible characters. -/
def byteNames : List String :=
  ["nul", "soh", "stx", "etx", "eot", "enq", "ack", "bel", "bs", "ht", "nl", "vt", "ff", "cr", "so",
    "si", "dle", "dc1", "dc2", "dc3", "dc4", "nak", "syn", "etb", "can", "em", "sub", "esc", "fs",
    "gs", "rs", "us", "sp"]

namespace ByteForm

/-- How many bytes are shown together. -/
def size : ByteForm → Nat
  | .number _ n => n
  | _ => 1

/-- The base of a number. -/
def base : Char → Nat
  | 'o' => 8
  | 'x' => 16
  | _ => 10

/-- The room that the longest text needs. -/
def width : ByteForm → Nat
  | .number letter n =>
    if letter == 'd' then (toString (Nat.pow 256 n / 2)).length + 1
    else (Nat.toDigits (base letter) (Nat.pow 256 n - 1)).length
  | _ => 3

/-- A byte as a character or an escape. -/
def character (n : Nat) : String :=
  match [(0, "\\0"), (7, "\\a"), (8, "\\b"), (9, "\\t"), (10, "\\n"), (11, "\\v"), (12, "\\f"),
      (13, "\\r")].lookup n with
  | some s => s
  | none =>
    if 32 ≤ n && n < 127 then String.singleton (Char.ofNat n)
    else
      let ds := Nat.toDigits 8 n
      String.ofList (List.replicate (3 - ds.length) '0' ++ ds)

/-- A group of bytes, the lowest first, as a text without room before it. -/
def text (f : ByteForm) (bytes : List Nat) : String :=
  let n := bytes.foldr (fun b n => b + 256 * n) 0
  match f with
  | .characters => character n
  | .names =>
    let n := n % 128
    if n == 127 then "del" else byteNames.getD n (String.singleton (Char.ofNat n))
  | .number 'd' size =>
    if Nat.pow 256 size / 2 ≤ n then "-" ++ toString (Nat.pow 256 size - n) else toString n
  | .number letter size =>
    let ds := Nat.toDigits (base letter) n
    let full := (Nat.toDigits (base letter) (Nat.pow 256 size - 1)).length
    if letter == 'u' then String.ofList ds
    else String.ofList (List.replicate (full - ds.length) '0' ++ ds)

end ByteForm

/-- A list in groups of a size. -/
def groupsOf {α : Type} (size : Nat) : Nat → List α → List (List α)
  | 0, _ => []
  | _, [] => []
  | fuel + 1, l => l.take size :: groupsOf size fuel (l.drop size)

/-- Groups shown in columns. What room is left over for all of them is shared evenly. -/
def columns (f : ByteForm) (count left : Nat) : Nat → Nat → List (List Nat) → String
  | _, _, [] => ""
  | i, rest, g :: gs =>
    let next := left * (count - i - 1) / count
    let text := f.text g
    let width := rest - next + f.width
    String.ofList (List.replicate (width - text.length) ' ') ++ text ++
      columns f count left (i + 1) next gs

/-- The room that a line of so many bytes takes in a form, with a blank before each group. -/
def ByteForm.room (f : ByteForm) (per : Nat) : Nat := (f.width + 1) * (per / f.size)

/-- One line of bytes in a form, in as much room as a full line gets. -/
def byteLine (f : ByteForm) (room per : Nat) (line : List Nat) : String :=
  let count := max 1 (per / f.size)
  let left := room - f.width * count
  columns f count left 0 left (groupsOf f.size (line.length + 1) line)

/-- The forms that a text names, each with whether characters are shown behind. -/
def byteForms : Nat → List Char → Except String (List (ByteForm × Bool))
  | 0, _ => .ok []
  | _, [] => .ok []
  | fuel + 1, c :: cs => do
    let z := fun (rest : List Char) => match rest with
      | 'z' :: rest => (true, rest)
      | rest => (false, rest)
    if c == 'c' || c == 'a' then
      let (shows, rest) := z cs
      return ((if c == 'c' then .characters else .names), shows) :: (← byteForms fuel rest)
    else if "doux".toList.contains c then
      let digits := cs.takeWhile Char.isDigit
      let (size, rest) := match digits, cs with
        | [], 'C' :: rest => (1, rest)
        | [], 'S' :: rest => (2, rest)
        | [], 'I' :: rest => (4, rest)
        | [], 'L' :: rest => (8, rest)
        | [], rest => (4, rest)
        | digits, cs => (Number.ofDigits 10 digits, cs.drop digits.length)
      let isKnown := [1, 2, 4, 8].contains size
      if !isKnown then
        throw ("invalid type string " ++ named (String.ofList (c :: cs)) ++
          ";\nthis system doesn't provide a " ++ toString size ++ "-byte integral type")
      let (shows, rest) := z rest
      return (.number c size, shows) :: (← byteForms fuel rest)
    else throw ("invalid character '" ++ String.singleton c ++ "' in type string " ++
      named (String.ofList (c :: cs)))

/-- The forms of the letters that stand alone. -/
def letterForms : List (Char × ByteForm) :=
  [('a', .names), ('b', .number 'o' 1), ('c', .characters), ('d', .number 'u' 2),
    ('i', .number 'd' 4), ('l', .number 'd' 8), ('o', .number 'o' 2), ('s', .number 'd' 2),
    ('x', .number 'x' 2)]

/-- The place of a line in the base that is wanted. -/
def lineAddress (base : Char) (n : Nat) : String :=
  let zeros := fun (width : Nat) (ds : List Char) =>
    String.ofList (List.replicate (width - ds.length) '0' ++ ds)
  match base with
  | 'd' => zeros 7 (Nat.toDigits 10 n)
  | 'x' => zeros 6 (Nat.toDigits 16 n)
  | 'n' => ""
  | _ => zeros 7 (Nat.toDigits 8 n)

/-- Lines of bytes, where lines like the one before are left out behind one sign. -/
def byteLines (all : Bool) (show_ : Nat → List Nat → String) :
    Nat → Option (List Nat) → Bool → List (List Nat) → List String
  | _, _, _, [] => []
  | at_, before, skipping, line :: rest =>
    if !all && before == some line && !rest.isEmpty then
      (if skipping then "" else "*\n") :: byteLines all show_ (at_ + line.length) before true rest
    else show_ at_ line :: byteLines all show_ (at_ + line.length) (some line) false rest

/-- Bytes are shown in forms. -/
def od (self : String) (args : List String) : Work Unit :=
  called self { flags := "vabcdilosx", valued := "AtNjwS", long := [("address-radix", 'A'),
    ("format", 't'), ("read-bytes", 'N'), ("skip-bytes", 'j'), ("width", 'w'),
    ("output-duplicates", 'v')] } args fun c => do
    let forms := c.options.foldlM (fun forms o =>
      if o.1 == 't' then (byteForms (o.2.length + 1) o.2.toList).map (forms ++ ·)
      else match letterForms.lookup o.1 with
        | some f => .ok (forms ++ [(f, false)])
        | none => .ok forms) ([] : List (ByteForm × Bool))
    match forms with
    | .error words => fails self words 1
    | .ok forms =>
      let forms := if forms.isEmpty then [(ByteForm.number 'o' 2, false)] else forms
      let text ← allText self unreadable c.operands
      let failed := (← get).status != 0
      let skipped := numberOf c 'j' 0
      let bytes := ((text.toList.drop skipped).take (numberOf c 'N' text.length)).map Char.toNat
      if failed && bytes.isEmpty then return ()
      let per := max 1 (numberOf c 'w' 16)
      let base := ((c.value? 'A').bind fun t => t.toList.head?).getD 'o'
      let room := (forms.map fun f => f.1.room per).foldl max 1
      let show_ := fun (at_ : Nat) (line : List Nat) =>
        let address := lineAddress base at_
        let blank := String.ofList (List.replicate address.length ' ')
        String.join ((List.range forms.length).zipWith (fun i f =>
          let shown := byteLine f.1 room per line
          let chars := String.ofList (line.map fun n =>
            if 32 ≤ n && n < 127 then Char.ofNat n else '.')
          let tail := if f.2 then
              String.ofList (List.replicate (room - shown.length) ' ') ++ "  >" ++ chars ++ "<"
            else ""
          (if i == 0 then address else blank) ++ shown ++ tail ++ "\n") forms)
      print (String.join (byteLines (c.has 'v') show_ skipped none false
        (groupsOf per (bytes.length + 1) bytes)))
      if base != 'n' then printLine (lineAddress base (skipped + bytes.length))

/-! ## Other letters -/

/-- The sixty-four letters that stand for six bits each. -/
def sixBitLetters : List Char :=
  "ABCDEFGHIJKLMNOPQRSTUVWXYZabcdefghijklmnopqrstuvwxyz0123456789+/".toList

/-- A text in letters of six bits, four for three characters. -/
def toSixBits : List Char → List Char
  | [] => []
  | [a] =>
    let n := a.toNat * 16
    [sixBitLetters.getD (n / 64) 'A', sixBitLetters.getD (n % 64) 'A', '=', '=']
  | [a, b] =>
    let n := (a.toNat * 256 + b.toNat) * 4
    [sixBitLetters.getD (n / 4096) 'A', sixBitLetters.getD (n / 64 % 64) 'A',
      sixBitLetters.getD (n % 64) 'A', '=']
  | a :: b :: c :: rest =>
    let n := (a.toNat * 256 + b.toNat) * 256 + c.toNat
    sixBitLetters.getD (n / 262144) 'A' :: sixBitLetters.getD (n / 4096 % 64) 'A' ::
      sixBitLetters.getD (n / 64 % 64) 'A' :: sixBitLetters.getD (n % 64) 'A' :: toSixBits rest

/-- The text of letters of six bits, as far as they are right, and whether all are. -/
def ofSixBits : List Char → List Char × Bool
  | [] => ([], true)
  | a :: b :: c :: d :: rest =>
    match sixBitLetters.idxOf? a, sixBitLetters.idxOf? b, sixBitLetters.idxOf? c,
        sixBitLetters.idxOf? d with
    | some w, some x, some y, some z =>
      let n := ((w * 64 + x) * 64 + y) * 64 + z
      let (others, right) := ofSixBits rest
      (Char.ofNat (n / 65536) :: Char.ofNat (n / 256 % 256) :: Char.ofNat (n % 256) :: others,
          right)
    | some w, some x, some y, none =>
      let n := ((w * 64 + x) * 64 + y) / 4
      let own := [Char.ofNat (n / 256 % 256 + n / 65536 * 256), Char.ofNat (n % 256)]
      if d == '=' then
        let (others, right) := ofSixBits rest
        (own ++ others, right)
      else (own, false)
    | some w, some x, none, _ =>
      let own := [Char.ofNat ((w * 64 + x) / 16)]
      if c == '=' && d == '=' then
        let (others, right) := ofSixBits rest
        (own ++ others, right)
      else (own, false)
    | _, _, _, _ => ([], false)
  | [a, b, c] =>
    match sixBitLetters.idxOf? a, sixBitLetters.idxOf? b, sixBitLetters.idxOf? c with
    | some w, some x, some y =>
      let n := ((w * 64 + x) * 64 + y) / 4
      ([Char.ofNat (n / 256), Char.ofNat (n % 256)], false)
    | _, _, _ => ([], false)
  | [a, b] =>
    match sixBitLetters.idxOf? a, sixBitLetters.idxOf? b with
    | some w, some x => ([Char.ofNat ((w * 64 + x) / 16)], false)
    | _, _ => ([], false)
  | [_] => ([], false)

/-- A text is written in letters of six bits, or read back. -/
def base64 (self : String) (args : List String) : Work Unit :=
  called self { flags := "di", valued := "w", long := [("decode", 'd'), ("ignore-garbage", 'i'),
    ("wrap", 'w')] } args fun c => do
    match c.operands, (c.value? 'w').map String.toNat? with
    | _, some none => fails self ("invalid wrap size: " ++ named ((c.value? 'w').getD "")) 1
    | _ :: extra :: _, _ => misused self ("extra operand " ++ named extra)
    | operands, width =>
      match ← inputOf (operands.headD "-") with
      | .error fault => fails self (unreadable (operands.headD "-") fault) 1
      | .ok text =>
        if c.has 'd' then
          let letters := text.toList.filter fun ch =>
            if c.has 'i' then sixBitLetters.contains ch || ch == '=' else ch != '\n'
          let (read, right) := ofSixBits letters
          print (String.ofList read)
          if right then ends 0 else fails self "invalid input" 1
        else
          let letters := toSixBits text.toList
          let width := width.join.getD 76
          if width == 0 then print (String.ofList letters)
          else
            let groups := groupsOf width (letters.length + 1) letters
            print (Octet.unlines (groups.map String.ofList))
          ends 0

/-! ## Sums -/

/-- A name of a file as sums show it. -/
def summedName (path : String) : String × String :=
  if path.toList.any fun c => c == '\\' || c == '\n' || c == '\r' then
    ("\\", String.join (path.toList.map fun c =>
      if c == '\\' then "\\\\" else if c == '\n' then "\\n" else if c == '\r' then "\\r"
      else String.singleton c))
  else ("", path)

/-- A line of a list of sums: the sum and the name of the file. -/
def sumLine? (line : String) : Option (String × String) :=
  let cs := line.toList
  let digits := cs.takeWhile fun c => Number.isDigitIn 16 c
  match cs.drop digits.length with
  | ' ' :: mark :: name =>
    if digits.isEmpty || !(mark == ' ' || mark == '*') then none
    else some (String.ofList (digits.map Char.toLower), String.ofList name)
  | _ => none

/-- Counted things, in words. -/
def counted (n : Nat) (one many : String) : String :=
  toString n ++ " " ++ if n == 1 then one else many

/-- The sums of a list are compared with those of the files. -/
def checkSums (self : String) (c : Call) (digest : List UInt8 → List UInt8) (path text : String) :
    Work Unit := do
  let lines := (bareLines text).filter fun line => !Text.beginsWith "#" line
  let entries := lines.map sumLine?
  let isQuiet := c.has 'q' || c.has 'S'
  let (bad, missing) ← (entries.filterMap fun e => e).foldlM (fun (bad, missing) (sum, name) => do
    match ← inputOf name with
    | .error fault =>
      tells self (name ++ ": " ++ Streams.words fault)
      if !c.has 'S' then printLine (name ++ ": FAILED open or read")
      return (bad, missing + 1)
    | .ok text =>
      let fits := Sha256.hex (digest (Octet.toBytes text)) == sum
      if fits then
        if !isQuiet then printLine (name ++ ": OK")
      else if !c.has 'S' then printLine (name ++ ": FAILED")
      return (if fits then bad else bad + 1, missing)) (0, 0)
  let wrong := (entries.filter Option.isNone).length
  if wrong == entries.length then
    fails self (path ++ ": no properly formatted checksum lines found") 1
  else
    if !c.has 'S' then
      if wrong > 0 then
        tells self ("WARNING: " ++ counted wrong "line is improperly formatted"
          "lines are improperly formatted")
      if missing > 0 then
        tells self ("WARNING: " ++ counted missing "listed file could not be read"
          "listed files could not be read")
      if bad > 0 then
        tells self ("WARNING: " ++ counted bad "computed checksum did NOT match"
          "computed checksums did NOT match")
    if bad + missing > 0 then ends 1

/-- Files are summed up by a digest. -/
def summed (title : String) (digest : List UInt8 → List UInt8) (self : String)
    (args : List String) : Work Unit :=
  called self { flags := "bctwzqS", long := [("binary", 'b'), ("check", 'c'), ("text", 't'),
    ("zero", 'z'), ("quiet", 'q'), ("status", 'S'), ("warn", 'w'), ("tag", 'T'), ("strict", 'X')] }
    args fun c =>
    forTexts self unreadable c.operands fun path text =>
      if c.has 'c' then
        checkSums self c digest (if path == "-" then "'standard input'" else path) text
      else
        let sum := Sha256.hex (digest (Octet.toBytes text))
        let lineEnd := if c.has 'z' then "\x00" else "\n"
        let (mark, name) := if c.has 'z' then ("", path) else summedName path
        print (if c.has 'T' then title ++ " (" ++ path ++ ") = " ++ sum ++ lineEnd
          else mark ++ sum ++ (if c.has 'b' then " *" else "  ") ++ name ++ lineEnd)

/-- Files are summed up with their lengths. -/
def cksum (self : String) (args : List String) : Work Unit :=
  called self {} args fun c =>
    forTexts self unreadable c.operands fun path text =>
      printLine (toString (Crc32.sum (Octet.toBytes text)).toNat ++ " " ++ toString text.length ++
        if c.operands.isEmpty then "" else " " ++ path)

/-! ## Comparing -/

/-- The number of characters that two texts have in common in front. -/
def commonFront : List Char → List Char → Nat
  | a :: as_, b :: bs => if a == b then commonFront as_ bs + 1 else 0
  | _, _ => 0

/-- A number as a byte is shown in eights. -/
def octal (c : Char) : String := String.ofList (Nat.toDigits 8 c.toNat)

/-- How many bytes of two files are passed over, and how many are compared; or what is wrong with a
number. -/
def cmpExtent (c : Call) : Except String ((Nat × Nat) × Option Nat) := do
  let value := fun (what text : String) =>
    match if (text.toList.head?.any Char.isDigit) then amount? text else none with
    | some n => Except.ok n
    | none => .error ("invalid --" ++ what ++ " value " ++ named text)
  let ignored := fun (text : String) => value "ignore-initial" text
  let skipped ← match c.value? 'i', c.operands.drop 2 with
    | _, [first] => do pure (← ignored first, 0)
    | _, first :: second :: _ => do pure (← ignored first, ← ignored second)
    | some text, [] => match Text.split ':' text with
      | [first, second] => do pure (← ignored first, ← ignored second)
      | _ => do
        let n ← ignored text
        pure (n, n)
    | none, [] => pure (0, 0)
  let most ← (c.value? 'n').mapM (value "bytes")
  return (skipped, most)

/-- Two files are compared. -/
def cmp (self : String) (args : List String) : Work Unit :=
  let wrong := fun (what : String) => do
    tells self what
    tells self ("Try '" ++ self ++ " --help' for more information.")
    ends 2
  calledOr wrong { flags := "sblc", valued := "ni", long := [("silent", 's'), ("quiet", 's'),
    ("print-bytes", 'b'), ("verbose", 'l'), ("bytes", 'n'), ("ignore-initial", 'i')] } args
    fun c => do
    match c.operands, cmpExtent c with
    | [], _ => wrong ("missing operand after " ++ named self)
    | _, .error words => wrong words
    | _ :: _ :: _ :: _ :: extra :: _, _ => wrong ("extra operand " ++ named extra)
    | first :: others, .ok (skipped, most) =>
      let second := others.headD "-"
      if c.has 's' && c.has 'l' then wrong "options -l and -s are incompatible"
      else match ← inputOf first, ← inputOf second with
      | .error fault, _ =>
        if !c.has 's' then tells self (first ++ ": " ++ Streams.words fault)
        ends 2
      | _, .error fault =>
        if !c.has 's' then tells self (second ++ ": " ++ Streams.words fault)
        ends 2
      | .ok a, .ok b =>
        let cut := fun (t : String) (skip : Nat) =>
          let cs := t.toList.drop skip
          cs.take (most.getD cs.length)
        let (a, b) := if first == second && skipped.1 == skipped.2 then (cut a 0, cut a 0)
          else (cut a skipped.1, cut b skipped.2)
        let same := commonFront a b
        let lines := (a.take same).count '\n'
        let atEnd := same == a.length || same == b.length
        let ended := if a.length ≤ b.length then first else second
        if a == b then ends 0
        else
          ends 1
          let eof := if min a.length b.length == 0 then "EOF on " ++ ended ++ " which is empty"
            else
              let n := min a.length b.length
              let front := (a.take n)
              let full := front.getLast? == some '\n'
              "EOF on " ++ ended ++ " after byte " ++ toString n ++
                if c.has 'l' then ""
                else if full then ", line " ++ toString (front.count '\n')
                else ", in line " ++ toString (front.count '\n' + 1)
          if c.has 's' then return ()
          let showsBytes := c.has 'b' || c.has 'c'
          if c.has 'l' then
            let pairs := (List.range a.length).zip (a.zip b)
            let width := (toString (min a.length b.length)).length
            pairs.forM fun (i, x, y) =>
              if x == y then return ()
              else
                let signs := fun (least : Nat) (ch : Char) =>
                  if showsBytes then " " ++ padded least (byteSeen ch) else ""
                printLine (column width (i + 1) ++ " " ++ octalColumn x ++ signs 4 x ++ " " ++
                  octalColumn y ++ signs 0 y)
            if a.length != b.length then tells self eof
          else if atEnd then tells self eof
          else
            let shown := fun (ch : Char) => octalColumn ch ++ " " ++ byteSeen ch
            printLine (first ++ " " ++ second ++ " differ: " ++
              (if showsBytes then "byte " else "char ") ++ toString (same + 1) ++
              ", line " ++ toString (lines + 1) ++
              if showsBytes then " is " ++ shown (a.getD same ' ') ++ " " ++ shown (b.getD same ' ')
              else "")
where
  /-- A byte in eights, in a column. -/
  octalColumn (ch : Char) : String :=
    let digits := octal ch
    String.ofList (List.replicate (3 - digits.length) ' ') ++ digits
  /-- A byte by signs that are seen. -/
  byteSeen (ch : Char) : String :=
    if ch == '\n' then "^J" else seen { controls := true, tabs := true } ch
  /-- A text with blanks behind it to a width. -/
  padded (width : Nat) (text : String) : String :=
    text ++ String.ofList (List.replicate (width - text.length) ' ')

end ApkForge.Script.Program
