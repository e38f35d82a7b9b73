-- The host's program that edits lines of text by commands.
import ApkForge.Script.Edit.Reader
import ApkForge.Script.Edit.Run
import ApkForge.Script.Program.Lines

namespace ApkForge.Script.Program

open Work

/-! ## Its use -/

/-- How the program is used. -/
def sedUsage (self : String) : String :=
  "Usage: " ++ self ++ " [OPTION]... \x7bscript-only-if-no-other-script\x7d [input-file]...

  -n, --quiet, --silent
                 suppress automatic printing of pattern space
      --debug
                 annotate program execution
  -e script, --expression=script
                 add the script to the commands to be executed
  -f script-file, --file=script-file
                 add the contents of script-file to the commands to be executed
  --follow-symlinks
                 follow symlinks when processing in place
  -i[SUFFIX], --in-place[=SUFFIX]
                 edit files in place (makes backup if SUFFIX supplied)
  -l N, --line-length=N
                 specify the desired line-wrap length for the \x60l' command
  --posix
                 disable all GNU extensions.
  -E, -r, --regexp-extended
                 use extended regular expressions in the script
                 (for portability use POSIX -E).
  -s, --separate
                 consider files as separate rather than as a single,
                 continuous long stream.
      --sandbox
                 operate in sandbox mode (disable e/r/w commands).
  -u, --unbuffered
                 load minimal amounts of data from the input files and flush
                 the output buffers more often
  -z, --null-data
                 separate lines by NUL characters
      --help     display this help and exit
      --version  output version information and exit

If no -e, --expression, -f, or --file option is given, then the first
non-option argument is taken as the sed script to interpret.  All
remaining arguments are names of input files; if no input files are
specified, then the standard input is read.
"

/-- The options of the program. -/
def sedOptions : Options :=
  { flags := "nErsuz"
    valued := "efl"
    long := [("quiet", 'n'), ("silent", 'n'), ("regexp-extended", 'E'), ("separate", 's'),
      ("unbuffered", 'u'), ("null-data", 'z'), ("expression", 'e'), ("file", 'f'),
      ("line-length", 'l'), ("in-place", 'I'), ("posix", 'p'), ("debug", 'D'), ("sandbox", 'S'),
      ("follow-symlinks", 'F'), ("zero-terminated", 'z')] }

/-- The arguments with the option to edit in place, whose value is behind its letter, as a long
one. -/
def withPlaceOption : List String → List String
  | [] => []
  | arg :: rest =>
    match arg.toList with
    | '-' :: c :: cs =>
      if c == '-' then if arg == "--" then arg :: rest else arg :: withPlaceOption rest
      else
        let front := (c :: cs).takeWhile fun d => !"eflI i".toList.contains d
        match (c :: cs).drop front.length with
        | 'i' :: suffix =>
          let before := if front.isEmpty then [] else [String.ofList ('-' :: front)]
          let own := if suffix.isEmpty then "--in-place" else "--in-place=" ++ String.ofList suffix
          before ++ own :: withPlaceOption rest
        | [letter] =>
          if "efl".toList.contains letter then
            match rest with
            | value :: rest => arg :: value :: withPlaceOption rest
            | [] => [arg]
          else arg :: withPlaceOption rest
        | _ => arg :: withPlaceOption rest
    | _ => arg :: withPlaceOption rest

/-! ## Its commands -/

/-- A text of commands, with how its place is named in complaints. -/
structure ScriptText where
  text : String
  place : Nat → String

/-- The texts with those joined that the end of the one before continues. -/
def joinedTexts : List ScriptText → List ScriptText
  | [] => []
  | t :: rest =>
    match joinedTexts rest with
    | next :: others =>
      let slashes := (t.text.toList.reverse.takeWhile (· == '\\')).length
      if slashes % 2 == 1 then { t with text := t.text ++ "\n" ++ next.text } :: others
      else t :: next :: others
    | [] => [t]

/-- The texts of commands that are given, or what is wrong with one. -/
def scriptTexts (c : Call) : Work (Except String (List ScriptText)) := do
  let given := c.options.filter fun o => o.1 == 'e' || o.1 == 'f'
  let (texts, _) ← given.foldlM (fun (texts, n) (letter, value) => do
    if letter == 'e' then
      let place := fun (count : Nat) =>
        "-e expression #" ++ toString (n + 1) ++ ", char " ++ toString count
      return (texts.map (· ++ [⟨value, place⟩]), n + 1)
    else match ← inputOf value with
      | .ok text =>
        let place := fun (count : Nat) =>
          "file " ++ value ++ " line " ++ toString ((text.toList.take count).count '\n' + 1)
        return (texts.map (· ++ [⟨text, place⟩]), n)
      | .error fault =>
        return (texts.bind fun _ => .error ("couldn't open file " ++ value ++ ": " ++
          Streams.words fault), n)) ((.ok [] : Except String (List ScriptText)), 0)
  return texts

/-- The commands of some texts, or what is wrong with them. -/
def editCommands (extended : Bool) (texts : List ScriptText) :
    Except String (List Edit.Command) := do
  let (depth, commands) ← texts.foldlM (fun (depth, commands) t =>
    match Edit.readText extended depth t.text with
    | .ok (depth, more) => .ok (depth, commands ++ more)
    | .error fault => .error (t.place fault.count ++ ": " ++ fault.words)) (0, [])
  if depth > 0 then throw "-e expression #1, char 0: unmatched \x60\x7b'"
  match Edit.missingLabel? commands with
  | some label => throw ("can't find label for jump to \x60" ++ label ++ "'")
  | none => return commands

/-- The files that commands write. -/
def filesWritten (commands : List Edit.Command) : List Edit.Sink :=
  (commands.filterMap fun c => match c.verb with
    | .write path _ => some (Edit.Desk.sinkOf path)
    | .substitute s => s.file.map Edit.Desk.sinkOf
    | _ => none).eraseDups

/-! ## Its texts -/

/-- A text to be edited. -/
def editSource (self : String) (inPlace : Bool) (sign : Char) (path : String) :
    Work Edit.Source := do
  match ← inputOf path with
  | .ok text => return .lines path (Edit.linesOf sign text)
  | .error .isDirectory =>
    if inPlace then
      return .missing 4 (self ++ ": couldn't edit " ++ path ++ ": not a regular file\n")
    else return .broken (self ++ ": read error on " ++ path ++ ": Is a directory\n")
  | .error fault =>
    return .missing 2 (self ++ ": can't read " ++ path ++ ": " ++ Streams.words fault ++ "\n")

/-- The name of the copy of a file that is edited in place. -/
def backupName (suffix path : String) : String :=
  if suffix.toList.contains '*' then
    let name := String.join (suffix.toList.map fun c =>
      if c == '*' then lastName path else String.singleton c)
    if name.toList.contains '/' then name
    else
      let dir := String.ofList ((path.toList.reverse.dropWhile (· != '/')).reverse)
      dir ++ name
  else path ++ suffix

/-- What was written is put where it leads: to the streams at once, and to the files in the end. -/
def deliver (self : String) (written : List (Edit.Sink × String)) : Work Unit := do
  written.forM fun (sink, text) => match sink with
    | .output => print text
    | .complaint => do
      let _ ← writeTo 2 text
    | .file _ => return ()
  let paths := (written.filterMap fun (sink, _) => match sink with
    | .file path => some path
    | _ => none).eraseDups
  paths.forM fun path => do
    let own := written.filterMap fun (sink, text) => if sink == .file path then some text else none
    match ← writeFile path (String.join own) with
    | none => return ()
    | some fault =>
      tells self ("couldn't open file " ++ path ++ ": " ++ Streams.words fault)
      ends 4

/-- Lines are edited by commands. -/
def sed (self : String) (args : List String) : Work Unit :=
  let misused := fun (what : String) => do
    if what != "" then tells self what
    complain (sedUsage self)
    ends 1
  calledOr misused sedOptions (withPlaceOption args) fun c => do
    let hasScript := c.has 'e' || c.has 'f'
    if !hasScript && c.operands.isEmpty then misused ""
    else
      let c := if hasScript then c
        else { options := c.options ++ [('e', c.operands.headD "")], operands := c.operands.tail }
      let extended := c.has 'E' || c.has 'r'
      match ← scriptTexts c with
      | .error words => fails self words 1
      | .ok texts =>
        let texts := joinedTexts texts
        match editCommands extended texts with
        | .error words => fails self words 1
        | .ok commands =>
          let m ← get
          let sign := if c.has 'z' then '\x00' else '\n'
          let inPlace := c.has 'I'
          let first := ((texts.head?.map ScriptText.text).getD "").toList.takeWhile (· != '\n')
          let usesInput := commands.any fun c => match c.verb with
            | .readFile path => path == "/dev/stdin"
            | _ => false
          let input ← if usesInput && !c.operands.isEmpty then readAll 0 else pure ""
          let paths := if c.operands.isEmpty then ["-"] else c.operands
          let sources ← paths.mapM (editSource self inPlace sign)
          let j : Edit.Job :=
            { self, commands := commands.toArray, quiet := c.has 'n' || first == ['#', 'n']
              separate := c.has 's' || inPlace, inPlace, sign, width := numberOf c 'l' 70
              fileText := fun path =>
                if path == "/dev/stdin" then some input else (textOf m path).toOption }
          let total := (sources.map fun s => match s with
            | .lines _ ls => ls.length
            | _ => 0).foldl (· + ·) 0
          let marks := (filesWritten commands).map fun sink => (sink, "")
          let (d, ended) := Edit.Desk.cycles j (total + Edit.Desk.mostSteps) true
            { sources, written := marks.filter fun mark => mark.1 != .output }
          if inPlace && (c.value? 'I').getD "" != "" then
            sources.forM fun s => match s with
              | .lines path _ => do
                match textOf m path with
                | .ok old =>
                  let _ ← writeFile (backupName ((c.value? 'I').getD "") path) old
                | .error _ => return ()
              | _ => return ()
          deliver self d.written.reverse
          if !ended then giveUp
          if (← get).status != 4 then ends d.status

end ApkForge.Script.Program
