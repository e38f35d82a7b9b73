-- The host's program that works on records by rules.
import ApkForge.Script.Rules.Reader
import ApkForge.Script.Rules.Run

namespace ApkForge.Script.Program

open Work

/-! ## Its use -/

/-- How the program is used. -/
def awkUsage : String :=
  "Usage: mawk [Options] [Program] [file ...]

Program:
    The -f option value is the name of a file containing program text.
    If no -f option is given, a \x22--\x22 ends option processing; the following
    parameters are the program text.

Options:
    -f program-file  Program  text is read from file instead of from the
                     command-line.  Multiple -f options are accepted.
    -F value         sets the field separator, FS, to value.
    -v var=value     assigns value to program variable var.
    --               unambiguous end of options.

    Implementation-specific options are prefixed with \x22-W\x22.  They can be
    abbreviated:

    -W version       show version information and exit.
    -W dump          show assembler-like listing of program and exit.
    -W help          show this message and exit.
    -W interactive   set unbuffered output, line-buffered input.
    -W exec file     use file as program as well as last option.
    -W random=number set initial random seed.
    -W sprintf=number adjust size of sprintf buffer.
    -W posix_space   do not consider \x22\\n\x22 a space.
    -W usage         show this message and exit."

/-- The version of the program. -/
def awkVersion : String :=
  "mawk 1.3.4 20200120
Copyright 2008-2019,2020, Thomas E. Dickey
Copyright 1991-1996,2014, Michael D. Brennan

random-funcs:       srandom/random
regex-funcs:        internal
compiled limits:
sprintf buffer      8192
maximum-integer     2147483647"

/-! ## Its arguments -/

/-- What the program was called with: files that hold rules, settings in their order, what divides
fields, and what is left. -/
structure RuleCall where
  files : List String := []
  settings : List (String × String) := []
  divider : Option String := none
  rest : List String := []
deriving Inhabited

/-- What comes of arguments: a call, a text to be shown, or what is wrong. -/
inductive RuleArguments where
  | call (c : RuleCall)
  | shown (text : String)
  | wrong (words : String)
deriving Inhabited

/-- A text with its escapes undone. -/
def ruleText (text : String) : String :=
  String.ofList (Rules.Token.unescaped (text.length + 1) text.toList)

/-- The arguments of the program. An option's value stands behind its letter or in the next
argument. -/
def ruleArguments : Nat → RuleCall → List String → RuleArguments
  | 0, c, args => .call { c with rest := args }
  | _, c, [] => .call c
  | fuel + 1, c, arg :: args =>
    let valued := fun (letter : Char) (cs : List Char)
        (use : String → List String → RuleArguments) =>
      match cs, args with
      | [], value :: args => use value args
      | [], [] => .wrong ("option -" ++ String.singleton letter ++ " lacks argument")
      | cs, args => use (String.ofList cs) args
    match arg.toList with
    | ['-', '-'] => .call { c with rest := args }
    | '-' :: '-' :: cs =>
      if Text.beginsWith (String.ofList cs) "version" then .shown awkVersion
      else if ["help", "usage"].any (Text.beginsWith (String.ofList cs)) then .shown awkUsage
      else .wrong ("not an option: " ++ arg)
    | '-' :: letter :: cs =>
      match letter with
      | 'f' => valued letter cs fun value args =>
        ruleArguments fuel { c with files := c.files ++ [value] } args
      | 'F' => valued letter cs fun value args =>
        ruleArguments fuel { c with divider := some (ruleText value) } args
      | 'v' => valued letter cs fun value args =>
        match Rules.Act.setting? value with
        | some s => ruleArguments fuel { c with settings := c.settings ++ [s] } args
        | none => .wrong ("improper assignment: -v " ++ value)
      | 'W' => valued letter cs fun value args =>
        if value == "version" || value == "v" then .shown awkVersion
        else if value == "help" || value == "usage" then .shown awkUsage
        else ruleArguments fuel c args
      | _ => .wrong ("not an option: " ++ arg)
    | _ => .call { c with rest := arg :: args }

/-- The text of rules: of the files that hold them, or the first argument that is left; with the
arguments after it. -/
def rulesOf (c : RuleCall) : Work (Except String (String × List String)) := do
  match c.files, c.rest with
  | [], text :: rest => return .ok (text, rest)
  | [], [] => return .ok ("", [])
  | files, rest =>
    let texts ← files.mapM fun path => do
      match ← inputOf (if path == "/dev/stdin" then "-" else path) with
      | .ok text => return (Except.ok text : Except String String)
      | .error fault => return .error (Rules.Act.unopened path fault)
    match texts.find? fun t => t.toOption.isNone with
    | some (.error words) => return .error words
    | _ => return .ok (Text.join "\n" (texts.filterMap Except.toOption), rest)

/-! ## Its values -/

/-- The values and tables that rules find when they begin. -/
def ruleDesk (m : Machine) (self : String) (c : RuleCall) (args : List String) : Rules.Desk :=
  let values : List (String × Rules.Datum) :=
    [("FS", .text (c.divider.getD " ")), ("OFS", .text " "), ("ORS", .text "\n"),
      ("RS", .text "\n"), ("NR", .number 0), ("FNR", .number 0), ("SUBSEP", .text "\x1c"),
      ("CONVFMT", .text "%.6g"), ("OFMT", .text "%.6g"), ("RSTART", .number 0),
      ("RLENGTH", .number (-1)), ("FILENAME", .text ""),
      ("ARGC", .number (Float.ofNat (args.length + 1)))] ++
      c.settings.map fun s => (s.1, .given s.2)
  let own := (List.range (args.length + 1)).zip (self :: args)
  let argv : Rules.Table := own.foldl (fun t a => t.put (toString a.1) (some a.1) (.given a.2)) {}
  let environ : Rules.Table := m.environment.foldl (fun t v => t.put v.1 none (.given v.2)) {}
  { self
    values := values.foldl (fun m v => m.insert v.1 v.2) {}
    tables := (({} : Std.HashMap String Rules.Table).insert "ARGV" argv).insert "ENVIRON" environ }

/-- Records are worked on by rules. -/
def awk (launcher : Launcher) (self : String) (args : List String) : Work Unit := do
  let self := lastName self
  if args.isEmpty then complain awkUsage
  else
    match ruleArguments (args.length + 1) {} args with
    | .shown text => printLine text
    | .wrong words => fails self words 2
    | .call c =>
      match ← rulesOf c with
      | .error words => fails self words 2
      | .ok (text, rest) =>
        match Rules.Program.read (text ++ "\n") with
        | .error faults =>
          let place := match c.files.getLast? with
            | some path => path ++ ": "
            | none => ""
          faults.forM fun words =>
            tells self (if Text.beginsWith "line " words then place ++ words else words)
          ends 2
        | .ok program =>
          let desk := ruleDesk (← get) self c rest
          let (_, desk) ← (Rules.runProgram { program, launcher }).run.run desk
          ends desk.status

end ApkForge.Script.Program
