-- Tools that only play their part. Rules say how a call ends; a call that ends well leaves the
-- files that a real tool would leave, with a placeholder in them. So a whole build can be
-- rehearsed.
import ApkForge.Tool

namespace ApkForge

namespace Rehearsal

/-- How a call ends. -/
inductive Ending where
  | notStarted
  | notCollected
  | timedOut
  | exits (code : Int)
  | signalled
deriving DecidableEq, Repr

/-- A rule: which calls it is about, which of these it takes, and how they end. It passes over its
first `skip` calls and takes `times` calls, if that is limited. -/
structure Rule where
  tool : String
  arg : Option String := none
  skip : Nat := 0
  times : Option Nat := none
  ending : Ending := .exits 0
  stdout : Bytes := []
  stderr : Bytes := []
  silent : Bool := false
  classes : Option (List String) := none
deriving Repr

/-- The rules with the number of calls that each was about, and the classes that compiling leaves
when a rule names none. -/
structure Part where
  rules : List (Rule × Nat)
  classes : List String
deriving Repr

/-- A part at its beginning. -/
def Part.ofRules (rules : List Rule) (classes : List String) : Part :=
  ⟨rules.map fun r => (r, 0), classes⟩

/-- A text occurs in another. -/
def occursIn (part : List Char) : List Char → Bool
  | [] => part.isEmpty
  | c :: rest => (Text.dropHead? part (c :: rest)).isSome || occursIn part rest

/-- The file name of a program. -/
def toolName (c : Command) : Option String := (Path.mk c.program).name?

/-- A rule is about a call. -/
def Rule.matches (r : Rule) (c : Command) : Bool :=
  toolName c == some r.tool &&
    match r.arg with
    | none => true
    | some arg => c.args.any fun a => occursIn arg.toList a.toList

/-- A rule takes the call with a number, counted from 1. -/
def Rule.takes (r : Rule) (n : Nat) : Bool :=
  r.skip < n && match r.times with
    | none => true
    | some times => n ≤ r.skip + times

/-- The first rule that takes a call, with all rules counted up to it. -/
def choose (c : Command) : List (Rule × Nat) → Option Rule × List (Rule × Nat)
  | [] => (none, [])
  | (r, n) :: rest =>
    if r.matches c then
      if r.takes (n + 1) then (some r, (r, n + 1) :: rest)
      else
        let (chosen, rest) := choose c rest
        (chosen, (r, n + 1) :: rest)
    else
      let (chosen, rest) := choose c rest
      (chosen, (r, n) :: rest)

/-- The argument after a switch. -/
def after? (switch : String) : List String → Option String
  | a :: b :: rest => if a == switch then some b else after? switch (b :: rest)
  | _ => none

/-- The files that a call leaves. -/
def leaves (classes : List String) (c : Command) : List Path :=
  if c.hasArg "kawa.repl" then
    match after? "-d" c.args with
    | some dir => classes.map (Path.mk dir).join
    | none => []
  else
    match c.args.findSome? fun a =>
        (Text.dropHead? "--output=".toList a.toList).map String.ofList with
    | some output => [⟨output⟩]
    | none =>
      if toolName c == some "aapt" then ((after? "-F" c.args).map Path.mk).toList
      else if toolName c == some "zipalign" then (c.args.getLast?.map Path.mk).toList
      else []

/-- What stands in the files that a call leaves. -/
def placeholder : Bytes := Utf8.encode "fake"

/-- A file left, with its directory. What cannot be left is not. -/
def leave (start : Place) (tree : FileTree) (p : Path) : FileTree :=
  let tree := match p.parent? with
    | some parent => (tree.makeDirs start parent).2
    | none => tree
  match tree.write start p placeholder with
  | .ok tree => tree
  | .error _ => tree

/-- The answer of a rule. -/
def Rule.answer (r : Rule) (c : Command) (limit : Option Nat) : Answer :=
  match r.ending with
  | .notStarted => .error (.notStarted c.program "scripted")
  | .notCollected => .error (.notCollected c.program "scripted")
  | .timedOut => .error (.timedOut c.program (limit.getD 0 / 1000))
  | .exits code => .ok { stdout := r.stdout, stderr := r.stderr, exit := some code }
  | .signalled => .ok { stdout := r.stdout, stderr := r.stderr, exit := none }

/-- A call as the rules have it. A call that no rule takes ends well. -/
def answer (c : Command) (limit : Option Nat) (start : Place) (part : Part) (tree : FileTree) :
    Answer × Part × FileTree :=
  let (chosen, rules) := choose c part.rules
  let rule := chosen.getD { tool := "" }
  let tree :=
    if rule.ending == .exits 0 && !rule.silent then
      (leaves (rule.classes.getD part.classes) c).foldl (leave start) tree
    else tree
  (rule.answer c limit, { part with rules }, tree)

/-- The tools that only play their part. -/
def runner : Runner Part := ⟨answer⟩

end Rehearsal

end ApkForge
