-- What the printing commands of a shell write: text with escapes, and formats that are used again
-- as long as arguments are left. The kinds of shell and the host's program differ in what they know
-- and in their complaints.
import ApkForge.Script.Decimal
import ApkForge.Script.Reading.Words

namespace ApkForge.Script.Printing

/-- Who prints. -/
inductive Printer where
  | plain
  | rich
  | program
deriving DecidableEq, Repr

/-! ## Escapes -/

/-- The characters that an escape by one letter stands for. -/
def letterEscapes : List (Char × Nat) :=
  [('a', 7), ('b', 8), ('e', 27), ('f', 12), ('n', 10), ('r', 13), ('t', 9), ('v', 11), ('\\', 92)]

/-- The character of a byte. -/
def byte (n : Nat) : Char := Char.ofNat (n % 256)

/-- What an escape stands for, after its backslash, and what follows. An escape that means nothing
is a backslash. -/
def escape (who : Printer) (cs : List Char) : List Char × List Char :=
  match cs with
  | [] => (['\\'], [])
  | c :: rest =>
    match letterEscapes.lookup c with
    | some n => ([byte n], rest)
    | none =>
      let coded := fun (base most : Nat) (cs : List Char) =>
        match Read.digitsIn base most cs with
        | some (n, rest) => ([byte n], rest)
        | none => (['\\'], c :: rest)
      if '0' ≤ c && c ≤ '7' then coded 8 3 cs
      else if who == .plain then (['\\'], cs)
      else match c with
        | 'x' => coded 16 2 rest
        | 'E' => ([byte 27], rest)
        | '\x22' => (['\x22'], rest)
        | 'u' => unicode 4 rest
        | 'U' => unicode 8 rest
        | _ => (['\\'], cs)
where
  /-- The character of a number of its own. -/
  unicode (most : Nat) (rest : List Char) : List Char × List Char :=
    match Read.digitsIn 16 most rest with
    | some (n, rest) => (Read.codeText n, rest)
    | none => (['\\'], cs)

/-- A text with its escapes undone, and whether it asks to stop. After a zero an escape has three
more octal digits. -/
def unescape (who : Printer) : Nat → List Char → List Char × Bool
  | 0, _ => ([], false)
  | _, [] => ([], false)
  | fuel + 1, c :: cs =>
    let (front, rest) :=
      if c != '\\' then ([c], cs)
      else match cs with
        | '0' :: rest =>
          match Read.digitsIn 8 3 rest with
          | some (n, rest) => ([byte n], rest)
          | none => ([byte 0], rest)
        | _ => escape who cs
    if c == '\\' && cs.head? == some 'c' then ([], true)
    else
      let (more, stops) := unescape who fuel rest
      (front ++ more, stops)

/-- A line of arguments with blanks between them, perhaps with escapes or without its end. -/
def line (who : Printer) (opened escapes : Bool) (args : List String) : String :=
  let text := Text.join " " args
  let (cs, stops) := if escapes then unescape who (text.length + 1) text.toList
    else (text.toList, false)
  String.ofList cs ++ (if opened || stops then "" else "\n")

/-- The options in front of arguments, letters among `neE`: whether the line stays open, whether
escapes are read, and the other arguments. -/
def options : Bool → Bool → List String → Bool × Bool × List String
  | opened, escapes, [] => (opened, escapes, [])
  | opened, escapes, arg :: args =>
    match arg.toList with
    | '-' :: letters =>
      if letters.isEmpty || !letters.all "neE".toList.contains then (opened, escapes, arg :: args)
      else
        let choice := (letters.filter (· != 'n')).getLast?
        options (opened || letters.contains 'n') ((choice.map (· == 'e')).getD escapes) args
    | _ => (opened, escapes, arg :: args)

/-- What `echo` writes. -/
def echo (who : Printer) (args : List String) : String :=
  match who, args with
  | .plain, "-n" :: rest => line who true true rest
  | .plain, args => line who false true args
  | _, args =>
    let (opened, escapes, args) := options false false args
    line who opened escapes args

/-! ## Formats -/

/-- How a value is laid out. -/
structure Layout where
  left : Bool := false
  zeros : Bool := false
  plus : Bool := false
  blank : Bool := false
  marked : Bool := false
  width : Nat := 0
  precision : Option Nat := none
deriving Inhabited

/-- Signs in front of a width. -/
def flags : Layout → List Char → Layout × List Char
  | f, [] => (f, [])
  | f, c :: cs =>
    if c == '-' then flags { f with left := true } cs
    else if c == '0' then flags { f with zeros := true } cs
    else if c == '+' then flags { f with plus := true } cs
    else if c == ' ' then flags { f with blank := true } cs
    else if c == '#' then flags { f with marked := true } cs
    else (f, c :: cs)

/-- A number at the front of a text, or the one that the next argument is if a star stands there. -/
def number (args : List String) (cs : List Char) : Int × List String × List Char :=
  match cs with
  | '*' :: cs => ((args.headD "").toInt?.getD 0, args.tail, cs)
  | cs =>
    (Int.ofNat ((String.ofList (cs.takeWhile Char.isDigit)).toNat?.getD 0), args,
      cs.dropWhile Char.isDigit)

/-- How a value is laid out, read after a percent sign. -/
def layout (args : List String) (cs : List Char) : Layout × List String × List Char :=
  let (f, cs) := flags {} cs
  let (width, args, cs) := number args cs
  let f := { f with width := width.natAbs, left := f.left || width < 0 }
  match cs with
  | '.' :: cs =>
    let (precision, args, cs) := number args cs
    ({ f with precision := if precision < 0 then none else some precision.toNat }, args, cs)
  | cs => (f, args, cs)

/-- A text brought to a width. -/
def pad (f : Layout) (text : String) : String :=
  let fill := String.ofList (List.replicate (f.width - text.length) ' ')
  if f.left then text ++ fill else fill ++ text

/-- A number laid out: its sign, a mark of its base, and its digits. -/
def layOut (f : Layout) (sign mark : String) (ds : List Char) : String :=
  let ds := match f.precision with
    | some p => List.replicate (p - ds.length) '0' ++ ds
    | none => ds
  let front := sign ++ mark
  let ds := if f.zeros && !f.left && f.precision.isNone then
      List.replicate (f.width - front.length - ds.length) '0' ++ ds
    else ds
  pad f (front ++ String.ofList ds)

/-- The sign in front of a number. -/
def signOf (f : Layout) (negative : Bool) : String :=
  if negative then "-" else if f.plus then "+" else if f.blank then " " else ""

/-- A number with decimals laid out. -/
def layOutDecimal (f : Layout) (letter : Char) (x : Decimal) : String :=
  let text := x.layOut letter.toLower f.precision f.marked
  let text := if letter.isUpper then text.map Char.toUpper else text
  let isFinite := match x with
    | .finite _ _ _ => true
    | _ => false
  layOut { f with precision := none, zeros := f.zeros && isFinite } (signOf f x.isNegative) ""
    text.toList

/-- What is wrong with an argument that is no number. -/
inductive Misfit where
  | noNumber
  | leftOver
  | tooLarge
deriving DecidableEq, Repr

/-- The words for an argument that is no number, and whether it is a failure. -/
def Misfit.words (who : Printer) (arg : String) : Misfit → String × Bool
  | .noNumber => match who with
    | .plain => (arg ++ ": expected numeric value", true)
    | .rich => (arg ++ ": invalid number", true)
    | .program => ("'" ++ arg ++ "': expected a numeric value", true)
  | .leftOver => match who with
    | .plain => (arg ++ ": not completely converted", true)
    | .rich => (arg ++ ": invalid number", true)
    | .program => ("'" ++ arg ++ "': value not completely converted", true)
  | .tooLarge => match who with
    | .plain => (arg ++ ": Numerical result out of range", true)
    | .rich => ("warning: " ++ arg ++ ": Numerical result out of range", false)
    | .program => ("'" ++ arg ++ "': Numerical result out of range", true)

/-- The whole number that an argument gives, within bounds, and what is wrong with it. One that
begins with a quote gives the code of its next character. -/
def wholeOf (low high : Int) (arg : String) : Int × Option Misfit :=
  match arg.toList with
  | [] => (0, none)
  | '\x22' :: c :: _ => (Int.ofNat c.toNat, none)
  | '\x27' :: c :: _ => (Int.ofNat c.toNat, none)
  | cs =>
    match Number.readWhole? cs with
    | some (n, rest) =>
      if n < low then (low, some .tooLarge)
      else if high < n then (high, some .tooLarge)
      else (n, if rest.isEmpty then none else some .leftOver)
    | none => (0, some .noNumber)

/-- The number with decimals that an argument gives, and what is wrong with it. -/
def decimalOf (arg : String) : Decimal × Option Misfit :=
  match arg.toList with
  | [] => (.finite false 0 1, none)
  | '\x22' :: c :: _ => (.finite false c.toNat 1, none)
  | '\x27' :: c :: _ => (.finite false c.toNat 1, none)
  | cs =>
    match Decimal.read? cs with
    | some (x, rest) => (x, if rest.isEmpty then none else some .leftOver)
    | none => (.finite false 0 1, some .noNumber)

/-- A text as a rich shell shows it to read it again. -/
def requote (text : String) : String :=
  let isSafe := fun (c : Char) => c.isAlphanum || "_-+./:@%=,".toList.contains c
  let isOdd := fun (c : Char) => c.toNat < 32 || 126 < c.toNat
  let odd := fun (c : Char) =>
    match [('\n', "\\n"), ('\t', "\\t"), ('\r', "\\r"), ('\x07', "\\a"), ('\x08', "\\b"),
        ('\x1b', "\\E"), ('\x0c', "\\f"), ('\x0b', "\\v"), ('\x27', "\\'"),
            ('\\', "\\\\")].lookup c with
    | some s => s
    | none =>
      if isOdd c then
        let ds := Nat.toDigits 8 c.toNat
        "\\" ++ String.ofList (List.replicate (3 - ds.length) '0' ++ ds)
      else String.singleton c
  if text == "" then "''"
  else if text.toList.any isOdd then "$'" ++ String.join (text.toList.map odd) ++ "'"
  else
    let front := fun (i : Nat) (c : Char) =>
      if isSafe c || ((c == '~' || c == '#') && i != 0) then String.singleton c
      else "\\" ++ String.singleton c
    String.join ((List.range text.length).zipWith front text.toList)

/-- A character in the quotes of a message. -/
def quotedChar (c : Char) : String :=
  if c == '\x27' then "\\'"
  else if c == '\\' then "\\\\"
  else if c == '\n' then "\\n"
  else if c == '\t' then "\\t"
  else if c == '\r' then "\\r"
  else if c.toNat < 32 || 126 < c.toNat then
    let ds := Nat.toDigits 8 c.toNat
    "\\" ++ String.ofList (List.replicate (3 - ds.length) '0' ++ ds)
  else String.singleton c

/-- A text as a word of a shell, in quotes only if it needs them. -/
def wordInQuotes (name : String) : String :=
  let isSafe := fun (c : Char) => c.isAlphanum || "%+,-./:@_]".toList.contains c
  let isOdd := fun (c : Char) => c.toNat < 32 || 126 < c.toNat
  if name != "" && name.toList.all isSafe then name
  else if name.toList.any isOdd then
    "'" ++ String.join (name.toList.map fun c =>
      if isOdd c then "'$'" ++ quotedChar c ++ "''" else String.singleton c) ++ "'"
  else if name.toList.contains '\x27' then "\x22" ++ name ++ "\x22"
  else "'" ++ name ++ "'"

/-- What one pass over a format has done. A format that is wrong stops it. -/
structure Pass where
  text : List String := []
  args : List String
  used : Bool := false
  complaints : List (String × Bool) := []
  wrong : Option String := none
  stopped : Bool := false
deriving Inhabited

/-- A value by the letter of its kind, with what is wrong with the argument and whether printing
stops. -/
def convert (who : Printer) (f : Layout) (letter : Char) (arg : String) :
    String × Option Misfit × Bool :=
  let signed := fun (_ : Unit) =>
    let (n, wrong) := wholeOf (-9223372036854775808) 9223372036854775807 arg
    (layOut f (signOf f (n < 0)) "" (Nat.toDigits 10 n.natAbs), wrong, false)
  let unsigned := fun (base : Nat) (mark : String) =>
    let (n, wrong) := wholeOf (-18446744073709551615) 18446744073709551615 arg
    let n := if n < 0 then 18446744073709551616 - n.natAbs else n.toNat
    let ds := Nat.toDigits base n
    let ds := if letter == 'X' then ds.map Char.toUpper else ds
    (layOut f "" (if f.marked && n != 0 then mark else "") ds, wrong, false)
  match letter with
  | 's' => (pad f (String.ofList (arg.toList.take (f.precision.getD arg.length))), none, false)
  | 'b' =>
    let (cs, stops) := unescape who (arg.length + 1) arg.toList
    (pad f (String.ofList (cs.take (f.precision.getD cs.length))), none, stops)
  | 'q' => (pad f (if who == .program then wordInQuotes arg else requote arg), none, false)
  | 'c' => (pad f (String.ofList (if arg == "" then ['\x00'] else arg.toList.take 1)), none, false)
  | 'd' => signed ()
  | 'i' => signed ()
  | 'u' => unsigned 10 ""
  | 'o' => unsigned 8 "0"
  | 'x' => unsigned 16 "0x"
  | 'X' => unsigned 16 "0X"
  | _ =>
    let (x, wrong) := decimalOf arg
    (layOutDecimal f letter (if who == .rich then x else x.toDouble), wrong, false)

/-- The letters of values. -/
def letters (who : Printer) : List Char :=
  if who == .plain then "sbcdiuoxXeEfFgGaA".toList else "sbqcdiuoxXeEfFgGaA".toList

/-- The time of an argument by the form between parentheses. -/
abbrev TimeText := String → String → String

/-- One pass over a format. A missing argument is empty. -/
def pass (who : Printer) (time : TimeText) : Nat → List Char → Pass → Pass
  | 0, _, p => p
  | _, [], p => p
  | fuel + 1, c :: cs, p =>
    let stop := fun (words : String) => { p with wrong := some words, stopped := true }
    if c == '\\' then
      let (text, rest) := escape who cs
      pass who time fuel rest { p with text := String.ofList text :: p.text }
    else if c == '%' then
      match cs with
      | '%' :: rest => pass who time fuel rest { p with text := "%" :: p.text }
      | _ =>
        match layout p.args cs with
        | (f, args, '(' :: rest) =>
          let form := rest.takeWhile (· != ')')
          if who == .program then stop "%(: invalid conversion specification"
          else if who == .plain then stop "%(: invalid directive"
          else
            let text := pad f (time (String.ofList form) (args.headD "-1"))
            pass who time fuel (rest.drop (form.length + 2))
              { p with text := text :: p.text, args := args.tail, used := true }
        | (f, args, letter :: rest) =>
          let (letter, rest) := if who != .plain && "hlLjzt".toList.contains letter then
              match rest.dropWhile "hlLjzt".toList.contains with
              | d :: rest => (d, rest)
              | [] => (letter, [])
            else (letter, rest)
          if !(letters who).contains letter then
            let directive := String.ofList ('%' :: cs.take (cs.length - rest.length))
            stop (match who with
              | .plain => directive ++ ": invalid directive"
              | .rich => "\x60" ++ String.singleton letter ++ "': invalid format character"
              | .program => directive ++ ": invalid conversion specification")
          else
            let arg := args.headD ""
            let (text, misfit, stops) := convert who f letter arg
            let p := { p with text := text :: p.text, args := args.tail, used := true
                              complaints := p.complaints ++
                                (misfit.map (Misfit.words who arg)).toList }
            if stops then { p with stopped := true } else pass who time fuel rest p
        | (_, _, []) =>
          stop (match who with
            | .plain => "missing format character"
            | .rich => "\x60" ++ String.ofList (c :: cs) ++ "': missing format character"
            | .program => "%: invalid conversion specification")
    else
      let front := (c :: cs).takeWhile fun d => d != '\\' && d != '%'
      pass who time fuel ((c :: cs).drop front.length)
        { p with text := String.ofList front :: p.text }

/-- Passes over a format as long as arguments are left and used. -/
def passes (who : Printer) (time : TimeText) (format : List Char) : Nat → Pass → Pass
  | 0, p => p
  | fuel + 1, p =>
    let q := pass who time (format.length + 1) format { p with used := false }
    if q.stopped || q.args.isEmpty || !q.used then q else passes who time format fuel q

/-- The first argument that a format which uses none leaves over. -/
def leftOver? (who : Printer) (form : String) (args : List String) : Option String :=
  let p := passes who (fun _ _ => "") form.toList (args.length + 1) { args }
  if p.stopped then none else p.args.head?

/-- What a format prints for arguments, the complaints about arguments that are no numbers where
numbers were wanted, and what is wrong with the format. -/
def format (who : Printer) (time : TimeText) (form : String) (args : List String) :
    String × List (String × Bool) × Option String :=
  let p := passes who time form.toList (args.length + 1) { args }
  (String.join p.text.reverse, p.complaints, p.wrong)

end ApkForge.Script.Printing
