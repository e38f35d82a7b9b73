-- The commands of a shell for variables: passing them on, fixing them, making them local, taking
-- them away, giving them values from the input, and the options of a script.
import ApkForge.Script.Builtin.Basic

namespace ApkForge.Script.Builtin

open Work

/-! ## Definitions -/

/-- A definition `name=value` taken apart. -/
def cutDefinition (arg : String) : String × Option String :=
  let name := arg.toList.takeWhile fun c => c != '='
  match arg.toList.drop name.length with
  | _ :: value => (String.ofList name, some (String.ofList value))
  | [] => (String.ofList name, none)

/-- Something is done with each definition. One with a bad name ends it in a plain shell. -/
def forDefinitions (self : String) (args : List String)
    (act : String → Option String → Work Unit) : Work Unit := do
  ends 0
  args.forM fun arg => do
    let (name, value?) := cutDefinition arg
    if isName name then act name value?
    else
      wrong self (name ++ ": bad variable name") ("\x60" ++ arg ++ "': not a valid identifier")

/-- A variable is set if a value is given. -/
def setIfGiven (self name : String) (value? : Option String) : Work Unit := do
  match value? with
  | none => return ()
  | some value =>
    let m ← get
    if m.isFixed name then
      wrong self (name ++ ": is read only") (name ++ ": readonly variable")
    else set (m.put name value)

/-- A text in single quotes. -/
def inQuotes (text : String) : String :=
  "'" ++ String.join (text.toList.map fun c =>
    if c == '\x27' then "'\\''" else String.singleton c) ++ "'"

/-- A text in double quotes. -/
def inDoubleQuotes (text : String) : String :=
  "\x22" ++ String.join (text.toList.map fun c =>
    if "\x22\\$\x60".toList.contains c then "\\" ++ String.singleton c
    else String.singleton c) ++ "\x22"

/-- The value of a variable as a rich shell declares it. -/
def declaredValue : Option Value → String
  | none => ""
  | some (.text s) => "=" ++ inDoubleQuotes s
  | some (.list elements) =>
    "=(" ++ Text.join " " (elements.map fun e =>
      "[" ++ toString e.1 ++ "]=" ++ inDoubleQuotes e.2) ++ ")"
  | some (.table entries) =>
    "=(" ++ String.join (entries.map fun e =>
      "[" ++ (if e.1.toList.all Filler.isSafe then e.1 else inDoubleQuotes e.1) ++ "]=" ++
        inDoubleQuotes e.2 ++ " ") ++ ")"

/-- The letters of what is special about a variable. -/
def attributes (v : Variable) : String :=
  let kind := match v.value with
    | some (.list _) => "a"
    | some (.table _) => "A"
    | _ => ""
  let letters := kind ++ (if v.whole then "i" else "") ++ (if v.lower then "l" else "") ++
    (if v.fixed then "r" else "") ++ (if v.upper then "u" else "") ++ (if v.shared then "x" else "")
  if letters == "" then "--" else "-" ++ letters

/-- A variable as a command that declares it. -/
def declaration (name : String) (v : Variable) : String :=
  "declare " ++ attributes v ++ " " ++ name ++ declaredValue v.value

/-- Variables of a kind are listed by their names. -/
def listVariables (self : String) (fits : Variable → Bool) : Work Unit := do
  let m ← get
  let chosen := sortBy (fun a b => decide (a.1 < b.1)) (m.vars.filter fun v => fits v.2)
  chosen.forM fun v =>
    if m.rich then printLine (declaration v.1 v.2)
    else match v.2.value.bind fun value => value.element? "0" with
      | some text => printLine (self ++ " " ++ v.1 ++ "=" ++ inQuotes text)
      | none => printLine (self ++ " " ++ v.1)
  ends 0

/-- Variables are passed on to programs, or are no longer. -/
def export_ (args : List String) : Work Unit :=
  withOptions "export" "pfn" "export [-fn] [name[=value] ...] or export -p" args
    fun letters rest => do
      if rest.isEmpty then listVariables "export" Variable.shared
      else forDefinitions "export" rest fun name value? => do
        setIfGiven "export" name value?
        modify fun m => m.changeVar name fun v => { v with shared := !letters.contains 'n' }

/-- Variables do not change any more. -/
def readonly (args : List String) : Work Unit :=
  withOptions "readonly" "paAf" "readonly [-aAf] [name[=value] ...] or readonly -p" args
    fun _ rest => do
      if rest.isEmpty then listVariables "readonly" Variable.fixed
      else forDefinitions "readonly" rest fun name value? => do
        setIfGiven "readonly" name value?
        modify fun m => m.changeVar name fun v => { v with fixed := true }

/-- What a variable holds now comes back when the command that the script defined has ended. -/
def hide (name : String) : Work Unit := modify fun m =>
  match m.frames with
  | [] => m
  | f :: fs =>
    if f.hidden.any fun h => h.1 == name then m
    else { m with frames := { f with hidden := (name, m.own? name) :: f.hidden } :: fs }

/-- Variables lose their values, or names their meaning as commands. -/
def unset (args : List String) : Work Unit :=
  withOptions "unset" "fvn" "unset [-f] [-v] [-n] [name ...]" args fun letters names => do
    ends 0
    names.forM fun arg => do
      let name := String.ofList (arg.toList.takeWhile fun c => c != '[')
      let m ← get
      if letters.contains 'f' then
        set { m with functions := m.functions.filter fun f => f.1 != arg }
      else if !isName name then
        wrong "unset" (arg ++ ": bad variable name")
          ("\x60" ++ arg ++ "': not a valid identifier")
      else if m.isFixed name then
        wrong "unset" (name ++ ": is read only") (name ++ ": cannot unset: readonly variable")
      else if name != arg && m.rich then
        let key ← Filler.keyOf name (String.ofList ((arg.toList.drop (name.length + 1)).dropLast))
        set (m.changeVar name fun v => { v with value := v.value.map fun value => match value with
          | .list elements => .list (elements.filter fun e => toString e.1 != key)
          | .table entries => .table (entries.filter fun e => e.1 != key)
          | other => other })
      else if m.rich && (m.var? name).isNone then
        set { m with functions := m.functions.filter fun f => f.1 != name }
      else set (m.drop (if letters.contains 'n' then name else m.target name))

/-! ## Options and arguments -/

/-- The names of options in the order in which they are listed. -/
def optionNames (rich : Bool) : List String :=
  if rich then
    ["allexport", "braceexpand", "emacs", "errexit", "errtrace", "functrace", "hashall",
      "histexpand", "history", "ignoreeof", "interactive-comments", "keyword", "monitor",
      "noclobber", "noexec", "noglob", "nolog", "notify", "nounset", "onecmd", "physical",
      "pipefail", "posix", "privileged", "verbose", "vi", "xtrace"]
  else
    ["errexit", "noglob", "ignoreeof", "interactive", "monitor", "noexec", "stdin", "xtrace",
      "verbose", "vi", "emacs", "noclobber", "allexport", "notify", "nounset", "privileged",
          "nolog",
      "debug"]

/-- A text brought to a width. -/
def column (width : Nat) (text : String) : String :=
  text ++ String.ofList (List.replicate (width - text.length) ' ')

/-- The options are listed, as they are or as commands. -/
def listOptions (asCommands : Bool) : Work Unit := do
  let m ← get
  if !m.rich && !asCommands then printLine "Current option settings"
  (optionNames m.rich).forM fun name =>
    if asCommands then printLine ("set " ++ (if m.has name then "-o " else "+o ") ++ name)
    else
      printLine (column (if m.rich then 15 else 16) name ++ (if m.rich then "\t" else "") ++
        (if m.has name then "on" else "off"))
  ends 0

/-- The variables are listed with their values. -/
def listValues : Work Unit := do
  let m ← get
  let sorted := sortBy (fun a b => decide (a.1 < b.1)) m.vars
  sorted.forM fun v =>
    match v.2.value with
    | none => return ()
    | some (.text s) =>
      printLine (v.1 ++ "=" ++ (if m.rich then Printing.requote s else inQuotes s))
    | some other => printLine (v.1 ++ declaredValue (some other))
  ends 0

/-- An option that is not known by its name. -/
def unknownOption (sign name : String) : Work Unit := do
  if (← get).rich then
    say ("set: " ++ name ++ ": invalid option name")
    ends 2
  else wrong "set" ("Illegal option " ++ sign ++ " " ++ name) ""

/-- How options are set in a rich shell. -/
def setUsage : String := "set [-abefhkmnptuvxBCEHPT] [-o option-name] [--] [-] [arg ...]"

/-- A letter is an option. -/
def isOptionLetter (m : Machine) (c : Char) : Bool :=
  if m.rich then "abefhkmnptuvxBCEHPT".toList.contains c else Machine.plainLetters.contains c

/-- An option turned on or off by its letter. -/
def setLetter (on : Bool) (m : Machine) (c : Char) : Machine :=
  ((Machine.optionLetters.lookup c).map (m.setOption on)).getD m

/-- Options are turned on or off by their letters, if all are known. -/
def setLetters (on : Bool) (letters : List Char) : Work Bool := do
  let m ← get
  match letters.find? fun c => !isOptionLetter m c with
  | some c =>
    illegalOption "set" c setUsage
    return false
  | none =>
    set (letters.foldl (setLetter on) { m with status := 0 })
    return true

/-- The arguments of the script are replaced. -/
def setArguments (args : List String) : Work Unit := modify fun m => { m with args, status := 0 }

/-- Options are set, and with `--` or plain arguments the arguments of the script. -/
def setOptions : List String → Work Unit
  | [] => ends 0
  | arg :: rest => do
    match arg.toList with
    | ['-', '-'] => setArguments rest
    | ['-'] =>
      modify fun m => (m.setOption false "xtrace").setOption false "verbose"
      if rest.isEmpty then ends 0 else setArguments rest
    | sign :: c :: cs =>
      if sign != '-' && sign != '+' then setArguments (arg :: rest)
      else if (c :: cs).getLast? == some 'o' then
        match rest with
        | [] => listOptions (sign == '+')
        | name :: others =>
          if ← setLetters (sign == '-') (c :: cs).dropLast then
            let m ← get
            if (optionNames m.rich).contains name then
              set (m.setOption (sign == '-') name)
              setOptions others
            else unknownOption (String.singleton sign ++ "o") name
      else if ← setLetters (sign == '-') (c :: cs) then setOptions rest
    | _ => setArguments (arg :: rest)

/-- Arguments of the script are dropped. -/
def shift (args : List String) : Work Unit := do
  let m ← get
  match args with
  | [] =>
    if m.args.isEmpty then
      if m.rich then ends 1 else failsAs "shift" 2 1 "can't shift that many"
    else set { m with args := m.args.drop 1, status := 0 }
  | text :: _ =>
    match Number.decimal? text with
    | none => illegalNumber "shift" text
    | some n =>
      if n < 0 then
        wrong "shift" ("Illegal number: " ++ text) (text ++ ": shift count out of range")
      else if n.toNat > m.args.length then
        if m.rich then ends 1 else failsAs "shift" 2 1 "can't shift that many"
      else set { m with args := m.args.drop n.toNat, status := 0 }

/-! ## Options of a script's own -/

/-- What comes of looking for the next option among arguments: its letter, a letter that is unknown
or lacks its argument, or the end. -/
inductive Found where
  | found (letter : Char) (argument : Option String)
  | unknown (letter : Char)
  | lacking (letter : Char)
  | finished
deriving Repr

/-- The next option from an argument and a place in it on, with the argument and place after it. -/
def nextOption (known : List Char) (args : List String) (index place : Nat) :
    Found × Nat × Nat :=
  let arg := args.getD (index - 1) ""
  let letters := arg.toList.drop (if place == 0 then 1 else place)
  if place == 0 && (arg == "--") then (.finished, index + 1, 0)
  else match letters with
    | [] => (.finished, index, 0)
    | c :: rest =>
      if place == 0 && arg.toList.head? != some '-' then (.finished, index, 0)
      else
        let (after, next) := if rest.isEmpty then (index + 1, 0)
          else (index, (if place == 0 then 1 else place) + 1)
        match known.dropWhile (· != c) with
        | _ :: ':' :: _ =>
          if c == ':' then (.unknown c, after, next)
          else if !rest.isEmpty then (.found c (some (String.ofList rest)), index + 1, 0)
          else match args[index]? with
            | some argument => (.found c (some argument), index + 2, 0)
            | none => (.lacking c, index + 1, 0)
        | _ :: _ => if c == ':' then (.unknown c, after, next) else (.found c none, after, next)
        | [] => (.unknown c, after, next)

/-- The next option is put into a variable, and its argument into another. -/
def getopts (args : List String) : Work Unit := do
  let m ← get
  match args with
  | known :: name :: rest =>
    let own := if rest.isEmpty then m.args else rest
    let quiet := Text.beginsWith ":" known
    let index := max ((m.value "OPTIND").toNat?.getD 1) 1
    let (option, after, place) := nextOption known.toList own index m.optionAt
    let tell := fun (plain rich : String) =>
      if quiet || m.value "OPTERR" == "0" then return ()
      else if m.rich then complain (m.name ++ ": " ++ rich)
      else complain plain
    let result := fun (letter : String) (argument : Option String) => do
      assign name letter
      match argument with
      | some text => assign "OPTARG" text
      | none => modify fun m => m.drop "OPTARG"
      assign "OPTIND" (toString after)
      modify fun m => { m with optionAt := place }
    match option with
    | .found letter argument =>
      result (String.singleton letter) argument
      ends 0
    | .unknown letter =>
      let text := String.singleton letter
      tell ("Illegal option -" ++ text) ("illegal option -- " ++ text)
      result "?" (if quiet then some text else none)
      ends 0
    | .lacking letter =>
      let text := String.singleton letter
      tell ("No arg for -" ++ text ++ " option") ("option requires an argument -- " ++ text)
      result (if quiet then ":" else "?") (if quiet then some text else none)
      ends 0
    | .finished =>
      result "?" none
      ends 1
  | _ =>
    if m.rich then complain "getopts: usage: getopts optstring name [arg ...]"
    else say "getopts: Usage: getopts optstring var [arg]"
    ends 2

/-! ## Reading -/

/-- Characters with those after a backslash marked, unless the line is read raw, and whether a
backslash at the end asks for the next line. -/
def markLine (raw : Bool) : List Char → List Marked × Bool
  | [] => ([], false)
  | ['\\'] => if raw then ([('\\', false)], false) else ([], true)
  | '\\' :: c :: cs =>
    if raw then
      let (rest, joins) := markLine raw (c :: cs)
      (('\\', false) :: rest, joins)
    else
      let (rest, joins) := markLine raw cs
      (if c == '\n' then rest else (c, true) :: rest, joins)
  | c :: cs =>
    let (rest, joins) := markLine raw cs
    ((c, false) :: rest, joins)

/-- A line of the input, with the lines that it joins, and whether its end was there. -/
def readMarked (raw : Bool) (stream : Nat) (last : Char) : Nat → Work (List Marked × Bool)
  | 0 => return ([], false)
  | fuel + 1 => do
    let (line, found) ← readUpTo stream last
    let (own, joins) := markLine raw (line.toList.filter (· != '\x00'))
    if joins && found then
      let (more, found) ← readMarked raw stream last fuel
      return (own ++ more, found)
    else return (own, found)

/-- A character is one of the signs at which a line is cut. -/
def isCutter (cutters : List Char) (m : Marked) : Bool := !m.2 && cutters.contains m.1

/-- A blank at which a line is cut. -/
def isBlankCutter (cutters : List Char) (m : Marked) : Bool :=
  isCutter cutters m && (m.1 == ' ' || m.1 == '\t' || m.1 == '\n')

/-- The text after a word and the sign that ends it. -/
def afterWord (cutters : List Char) (ms : List Marked) : List Marked :=
  match ms.dropWhile (isBlankCutter cutters) with
  | m :: more =>
    if isCutter cutters m then more.dropWhile (isBlankCutter cutters) else m :: more
  | [] => []

/-- A line cut among variables. The last takes all that is left, unless that is one word with the
sign that ends it. -/
def share (cutters : List Char) : List String → List Marked → List (String × String)
  | [], _ => []
  | [name], ms =>
    let word := ms.takeWhile fun m => !isCutter cutters m
    let rest := ms.drop word.length
    if !rest.isEmpty && (afterWord cutters rest).isEmpty then [(name, unmarked word)]
    else [(name, unmarked ((ms.reverse.dropWhile (isBlankCutter cutters)).reverse))]
  | name :: names, ms =>
    let word := ms.takeWhile fun m => !isCutter cutters m
    (name, unmarked word) :: share cutters names (afterWord cutters (ms.drop word.length))

/-- The words of a line. -/
def cutLine (cutters : List Char) : Nat → List Marked → List String
  | 0, _ => []
  | _, [] => []
  | fuel + 1, ms =>
    let word := ms.takeWhile fun m => !isCutter cutters m
    unmarked word :: cutLine cutters fuel (afterWord cutters (ms.drop word.length))

/-- How a line is read: from which stream and up to what, or so many characters; and what becomes
of it. -/
structure Reading where
  raw : Bool := false
  stream : Nat := 0
  last : Char := '\n'
  most : Option Nat := none
  whole : Bool := false
  list : Option String := none
  names : List String := []

/-- One option of reading, perhaps with a value. -/
def Reading.with (r : Reading) (c : Char) (value : String) : Reading :=
  match c with
  | 'r' => { r with raw := true }
  | 'a' => { r with list := some value }
  | 'd' => { r with last := value.toList.headD '\x00' }
  | 'n' => { r with most := value.toNat? }
  | 'N' => { r with most := value.toNat?, whole := true }
  | 'u' => { r with stream := value.toNat?.getD 0 }
  | _ => r

/-- The letters in front of arguments, some of which take a value; or the letter that is unknown,
or that lacks its value. -/
def valuedOptions (known valued : String) : Nat → List String →
    Except (Char × Bool) (List (Char × String) × List String)
  | 0, args => .ok ([], args)
  | _, [] => .ok ([], [])
  | fuel + 1, arg :: args =>
    match arg.toList with
    | ['-'] => .ok ([], arg :: args)
    | ['-', '-'] => .ok ([], args)
    | '-' :: c :: cs =>
      if valued.toList.contains c then
        match cs, args with
        | [], value :: args => more (c, value) (valuedOptions known valued fuel args)
        | [], [] => .error (c, true)
        | cs, args => more (c, String.ofList cs) (valuedOptions known valued fuel args)
      else if !known.toList.contains c then .error (c, false)
      else
        let next := if cs.isEmpty then args else String.ofList ('-' :: cs) :: args
        more (c, "") (valuedOptions known valued fuel next)
    | _ => .ok ([], arg :: args)
where
  /-- One more option in front. -/
  more (o : Char × String) (r : Except (Char × Bool) (List (Char × String) × List String)) :
      Except (Char × Bool) (List (Char × String) × List String) :=
    r.map fun (options, rest) => (o :: options, rest)

/-- The length of all arguments, which bounds how many letters they have. -/
def lettersOf (args : List String) : Nat := (args.map String.length).foldl (· + ·) 1 + args.length

/-- So many characters are taken from a stream, and whether there were as many. -/
def readCount (r : Reading) (count : Nat) : Work (String × Bool) := do
  let m ← get
  match m.streams.lookup r.stream with
  | none => return ("", false)
  | some id =>
    let (text, clock) := m.world.rest id
    let cs := text.toList.take count
    let cs := if r.whole then cs else cs.takeWhile (· != r.last)
    let found := cs.length == count || (!r.whole && cs.length < text.length)
    let taken := cs.length + if cs.length < count && found then 1 else 0
    if found then set { m with world := (m.world.take id taken).pass clock }
    else set { m with world := (m.world.finish id).pass clock }
    return (String.ofList cs, found)

/-- How reading is used. -/
def readUsage : String :=
  "read [-ers] [-a array] [-d delim] [-i text] [-n nchars] [-N nchars] [-p prompt] " ++
    "[-t timeout] [-u fd] [name ...]"

/-- A line of the input is put into variables. -/
def read (args : List String) : Work Unit := do
  let m ← get
  let (known, valued) := if m.rich then ("ers", "adinNptu") else ("r", "p")
  match valuedOptions known valued (lettersOf args) args with
  | .error (c, lacks) =>
    if lacks && m.rich then
      say ("read: -" ++ String.singleton c ++ ": option requires an argument")
      complain ("read: usage: " ++ readUsage)
      ends 2
    else if lacks then failsAs "read" 2 2 ("No arg for -" ++ String.singleton c ++ " option")
    else illegalOption "read" c readUsage
  | .ok (options, names) =>
    let r := options.foldl (fun r o => r.with o.1 o.2) { names : Reading }
    if !m.rich && names.isEmpty then
      say "read: arg count"
      return ← ends 2
    if (m.streams.lookup r.stream).isNone && m.rich then
      say ("read: " ++ toString r.stream ++ ": invalid file descriptor: Bad file descriptor")
      return ← ends 1
    match (names ++ r.list.toList).find? fun n => !isName n with
    | some name =>
      if m.rich then
        say ("read: \x60" ++ name ++ "': not a valid identifier")
        ends 1
      else
        say ("read: " ++ name ++ ": bad variable name")
        ends 2
    | none =>
      let (line, found) ← match r.most with
        | some count => do
          let (text, found) ← readCount r count
          pure ((markLine r.raw text.toList).1, found)
        | none => readMarked r.raw r.stream r.last 100000
      let m ← get
      let start := line.dropWhile (isBlankCutter m.cutters)
      match r.list with
      | some name =>
        let words := cutLine m.cutters (line.length + 1) start
        set (m.putValue name (.list ((List.range words.length).zip words)))
      | none =>
        if r.whole then
          (names.head?.getD "REPLY" :: names.tail).forM fun name =>
            assign name (if names.head?.getD "REPLY" == name then unmarked line else "")
        else if names.isEmpty then assign "REPLY" (unmarked line)
        else (share m.cutters names start).forM fun v => assign v.1 v.2
      endsAs found

/-- The lines of the input become the elements of a list. -/
def mapfile (self : String) (args : List String) : Work Unit := do
  match valuedOptions "t" "dnOsuCc" (lettersOf args) args with
  | .error (c, _) =>
    illegalOption self c (self ++ " [-d delim] [-n count] [-O origin] [-s count] [-t] [-u fd] " ++
      "[-C callback] [-c quantum] [array]")
  | .ok (options, names) =>
    let value := fun (c : Char) => options.lookup c
    let count := fun (c : Char) => ((value c).bind String.toNat?).getD 0
    let last := ((value 'd').map fun d => d.toList.headD '\x00').getD '\n'
    let text ← readAll (count 'u')
    let ends_ := if (value 't').isSome then "" else String.singleton last
    let parts := Text.split last text
    let whole := (parts.dropLast.map (· ++ ends_)) ++ (parts.getLast?.toList.filter (· != ""))
    let kept := whole.drop (count 's')
    let kept := if count 'n' == 0 then kept else kept.take (count 'n')
    modify fun m => m.putValue (names.headD "MAPFILE")
      (.list (((List.range kept.length).map (· + count 'O')).zip kept))
    ends 0

end ApkForge.Script.Builtin
