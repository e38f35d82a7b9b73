-- The host's program that walks through directories and does something with what it finds there.
-- What it does is an expression of tests and actions, of which each says whether it holds.
import ApkForge.Script.Program.Matching
import ApkForge.Script.Program.Showing
import ApkForge.Script.Program.Starting

namespace ApkForge.Script.Program.Seek

open Work

/-! ## What is found -/

/-- Something that was found: its path, the path that the walk began at, how deep below it lies, and
what stands there. -/
structure Found where
  path : String
  origin : String
  depth : Nat
  place : Place
  kind : Kind

/-- The path below the one that the walk began at. -/
def Found.below (f : Found) : String :=
  let rest := f.path.toList.drop f.origin.length
  String.ofList (rest.dropWhile (· == '/'))

/-- The letter of a kind of file. -/
def letterOf : Kind → Char
  | .dir => 'd'
  | .link _ => 'l'
  | .device _ => 'c'
  | _ => 'f'

/-! ## Expressions -/

/-- A number that something is compared with: more than it, less, or the same. -/
structure Bound where
  order : Ordering
  number : Nat
deriving Inhabited

/-- A number is within a bound. -/
def Bound.holds (b : Bound) (n : Nat) : Bool := compare n b.number == b.order

/-- The age of a file in millionths of a second is within a bound of days, which are counted when
they are over, or of minutes, which are counted when they begin. -/
def Bound.fitsAge (b : Bound) (inMinutes : Bool) (age : Int) : Bool :=
  let unit : Int := (if inMinutes then 60 else 86400) * 1000000
  let n := Int.ofNat b.number * unit
  let start := if inMinutes then n - unit else n
  match b.order with
  | .lt => age < n
  | .eq => start ≤ age && age < start + unit
  | .gt => if inMinutes then n < age else n + unit ≤ age

/-- How rights are compared: all the same, all of some, or any of them. -/
inductive RightsTest where
  | same
  | all
  | any
deriving DecidableEq, Repr, Inhabited

/-- A test of what was found. -/
inductive Trait where
  | always (holds : Bool)
  | name (pattern : String) (folds : Bool)
  | path (pattern : String) (folds : Bool)
  | regex (e : Regex) (folds : Bool)
  | link (pattern : String)
  | kind (letters : List Char)
  | size (bound : Bound) (unit : Nat)
  | age (bound : Bound) (inMinutes : Bool)
  | empty
  | newer (stamp : Int)
  | rights (test : RightsTest) (mode : Nat)
  | links (bound : Bound)
  | executable
  | user (owner : String)
  | same (place : Place)
deriving Inhabited

/-- What an expression does. -/
inductive Action where
  | print (lineEnd : String)
  | form (form : String)
  | toFile (path lineEnd : String)
  | start (words : List String) (inside asks : Bool)
  | startMany (number : Nat) (words : List String)
  | delete
  | prune
  | quit
deriving Inhabited

/-- An expression of tests and actions. -/
inductive Aim where
  | test (t : Trait)
  | act (a : Action)
  | both (a b : Aim)
  | either (a b : Aim)
  | neither (a : Aim)
  | after (a b : Aim)
deriving Inhabited

/-- An expression does something besides testing. -/
def Aim.acts : Aim → Bool
  | .test _ => false
  | .act .prune => false
  | .act .quit => false
  | .act _ => true
  | .both a b => a.acts || b.acts
  | .either a b => a.acts || b.acts
  | .neither a => a.acts
  | .after a b => a.acts || b.acts

/-! ## Testing -/

/-- A text fits a pattern of names. -/
def fits (pattern : String) (folds : Bool) (text : String) : Bool :=
  if folds then fitsPattern (pattern.map Char.toLower) (text.map Char.toLower)
  else fitsPattern pattern text

/-- The size of a file in bytes. -/
def bytesOf : Kind → Nat
  | .file content _ => content.length
  | .link target => target.utf8ByteSize
  | .dir => 4096
  | _ => 0

/-- A test holds. -/
def Trait.holds (m : Machine) (f : Found) : Trait → Bool
  | .always holds => holds
  | .name pattern folds => fits pattern folds (lastName f.path)
  | .path pattern folds => fits pattern folds f.path
  | .regex e folds =>
    let s : Regex.Subject := { text := f.path.toList.toArray, folds }
    (Regex.reach s e { position := 0 }).any fun r => r.position == s.text.size
  | .link pattern => match f.kind with
    | .link target => fits pattern false (Octet.ofText target)
    | _ => false
  | .kind letters => letters.contains (letterOf f.kind)
  | .size bound unit => bound.holds ((bytesOf f.kind + unit - 1) / unit)
  | .age bound inMinutes => bound.fitsAge inMinutes (m.world.ageOf f.place)
  | .empty => match f.kind with
    | .file content _ => content.isEmpty
    | .dir => (m.world.disk.names f.place).isEmpty
    | _ => false
  | .newer stamp => stamp < m.world.disk.stampAt f.place
  | .rights test mode =>
    let own := m.world.disk.mode f.place
    match test with
    | .same => own == mode
    | .all => own &&& mode == mode
    | .any => mode == 0 || own &&& mode != 0
  | .links bound => bound.holds 1
  | .executable => m.world.disk.mode f.place &&& 73 != 0
  | .user owner => owner == "root" || owner == "0"
  | .same place => f.place == place

/-! ## Reading -/

/-- A number that something is compared with, by its sign. -/
def bound? (text : String) : Option Bound :=
  match text.toList with
  | '+' :: cs => (String.ofList cs).toNat?.map fun n => ⟨.gt, n⟩
  | '-' :: cs => (String.ofList cs).toNat?.map fun n => ⟨.lt, n⟩
  | _ => text.toNat?.map fun n => ⟨.eq, n⟩

/-- A size with its unit. -/
def size? (text : String) : Option Trait :=
  let units := [('c', 1), ('w', 2), ('b', 512), ('k', 1024), ('M', 1048576), ('G', 1073741824)]
  match text.toList.getLast?.bind fun c => units.lookup c with
  | some unit => (bound? (String.ofList text.toList.dropLast)).map fun b => .size b unit
  | none => (bound? text).map fun b => .size b 512

/-- A test of rights. -/
def rights? (text : String) : Option Trait :=
  let (test, mode) := match text.toList with
    | '-' :: cs => (RightsTest.all, cs)
    | '/' :: cs => (.any, cs)
    | cs => (.same, cs)
  (Builtin.rights? 0 false 0 (String.ofList mode)).map fun n => .rights test n

/-- What is read of an expression besides its tests: how deep the walk goes, in which order, and how
many programs are started with many arguments. -/
structure Plan where
  least : Nat := 0
  most : Option Nat := none
  inward : Bool := false
  batches : Nat := 0
deriving Inhabited

/-- The words of a program up to what ends them: a semicolon, or braces and a plus. -/
def commandWords : List String → List String → Option (List String × Bool × List String)
  | _, [] => none
  | read, ";" :: rest => some (read.reverse, false, rest)
  | read, "\x7b\x7d" :: "+" :: rest => some (read.reverse, true, rest)
  | read, word :: rest => commandWords (word :: read) rest

/-- A test or an action by its name and the arguments after it, or what is wrong with it. -/
def primary (m : Machine) (plan : Plan) (name : String) (rest : List String) :
    Except String (Aim × Plan × List String) :=
  let plain := fun (t : Trait) => .ok (Aim.test t, plan, rest)
  let acts := fun (a : Action) => .ok (Aim.act a, plan, rest)
  let needs := fun (read : String → Except String (Aim × Plan)) =>
    match rest with
    | [] => .error ("missing argument to \x60" ++ name ++ "'")
    | value :: rest => (read value).map fun (aim, plan) => (aim, plan, rest)
  let tests := fun (read : String → Except String Trait) =>
    needs fun value => (read value).map fun t => (Aim.test t, plan)
  let bounded := fun (make : Bound → Trait) => tests fun value => match bound? value with
    | some b => .ok (make b)
    | none => .error ("invalid argument \x60" ++ value ++ "' to \x60" ++ name ++ "'")
  let depth := fun (change : Nat → Plan) => needs fun value => match value.toNat? with
    | some n => .ok (.test (.always true), change n)
    | none => .error ("Expected a positive decimal integer argument to " ++ name ++ ", but got " ++
        named value)
  let starts := fun (inside asks : Bool) =>
    match commandWords [] rest with
    | some ([], _, _) => .error ("missing argument to \x60" ++ name ++ "'")
    | some (words, true, rest) =>
      .ok (.act (.startMany plan.batches words), { plan with batches := plan.batches + 1 }, rest)
    | some (words, false, rest) => .ok (.act (.start words inside asks), plan, rest)
    | none => .error ("missing argument to \x60" ++ name ++ "'")
  let pattern := fun (make : Regex → Trait) => tests fun value => match Regex.ofBasic value with
    | .ok e => .ok (make e)
    | .error fault => .error (fault.words)
  match name with
  | "-name" => tests fun value => .ok (.name value false)
  | "-iname" => tests fun value => .ok (.name value true)
  | "-path" => tests fun value => .ok (.path value false)
  | "-wholename" => tests fun value => .ok (.path value false)
  | "-ipath" => tests fun value => .ok (.path value true)
  | "-lname" => tests fun value => .ok (.link value)
  | "-regex" => pattern fun e => .regex e false
  | "-iregex" => pattern fun e => .regex e true
  | "-regextype" => needs fun _ => .ok (.test (.always true), plan)
  | "-type" => tests fun value =>
      let letters := value.toList.filter (· != ',')
      match letters.find? fun c => !"bcdflpsD".toList.contains c with
      | some c => .error ("Unknown argument to -type: " ++ String.singleton c)
      | none => .ok (.kind letters)
  | "-size" => tests fun value => match size? value with
      | some t => .ok t
      | none => .error ("invalid -size type \x60" ++ value ++ "'")
  | "-perm" => tests fun value => match rights? value with
      | some t => .ok t
      | none => .error ("invalid mode " ++ named value)
  | "-empty" => plain .empty
  | "-true" => plain (.always true)
  | "-false" => plain (.always false)
  | "-executable" => plain .executable
  | "-readable" => plain (.always true)
  | "-writable" => plain (.always true)
  | "-user" => tests fun value => .ok (.user value)
  | "-group" => tests fun value => .ok (.user value)
  | "-uid" => tests fun value => .ok (.user value)
  | "-gid" => tests fun value => .ok (.user value)
  | "-links" => bounded .links
  | "-mtime" => bounded (.age · false)
  | "-mmin" => bounded (.age · true)
  | "-atime" => bounded (.age · false)
  | "-ctime" => bounded (.age · false)
  | "-amin" => bounded (.age · true)
  | "-cmin" => bounded (.age · true)
  | "-newer" => tests fun value => match m.stat value with
      | .ok (place, _) => .ok (.newer (m.world.disk.stampAt place))
      | .error fault => .error (named value ++ ": " ++ Streams.words fault)
  | "-newermt" => tests fun value => match Moment.read? m.world.now value with
      | some (seconds, _) => .ok (.newer ((seconds - World.epoch) * 1000000))
      | none =>
        .error ("I cannot figure out how to interpret " ++ named value ++ " as a date or time")
  | "-samefile" => tests fun value => match m.stat value with
      | .ok (place, _) => .ok (.same place)
      | .error fault => .error (named value ++ ": " ++ Streams.words fault)
  | "-maxdepth" => depth fun n => { plan with most := some n }
  | "-mindepth" => depth fun n => { plan with least := n }
  | "-depth" => .ok (.test (.always true), { plan with inward := true }, rest)
  | "-d" => .ok (.test (.always true), { plan with inward := true }, rest)
  | "-mount" => plain (.always true)
  | "-xdev" => plain (.always true)
  | "-noleaf" => plain (.always true)
  | "-print" => acts (.print "\n")
  | "-print0" => acts (.print "\x00")
  | "-printf" => needs fun value => .ok (.act (.form value), plan)
  | "-fprint" => needs fun value => .ok (.act (.toFile value "\n"), plan)
  | "-prune" => acts .prune
  | "-quit" => acts .quit
  | "-delete" => .ok (.act .delete, { plan with inward := true }, rest)
  | "-exec" => starts false false
  | "-execdir" => starts true false
  | "-ok" => starts false true
  | "-okdir" => starts true true
  | _ => .error ("unknown predicate \x60" ++ name ++ "'")

/-- A word joins two expressions, or closes one. -/
def isJoint (word : String) : Bool :=
  ["-o", "-or", "-a", "-and", ",", ")"].contains word

mutual

/-- Expressions joined by commas. -/
def readList (m : Machine) (plan : Plan) (before : String) (words : List String) (fuel : Nat) :
    Except String (Aim × Plan × List String) :=
  match fuel with
  | 0 => .error "invalid expression"
  | fuel + 1 => do
    let (first, plan, rest) ← readEither m plan before words fuel
    match rest with
    | "," :: rest =>
      let (second, plan, rest) ← readList m plan "," rest fuel
      return (.after first second, plan, rest)
    | rest => return (first, plan, rest)
termination_by structural fuel

/-- Expressions of which one has to hold. -/
def readEither (m : Machine) (plan : Plan) (before : String) (words : List String) (fuel : Nat) :
    Except String (Aim × Plan × List String) :=
  match fuel with
  | 0 => .error "invalid expression"
  | fuel + 1 => do
    let (first, plan, rest) ← readBoth m plan before words fuel
    match rest with
    | word :: rest =>
      if word == "-o" || word == "-or" then
        let (second, plan, rest) ← readEither m plan word rest fuel
        return (.either first second, plan, rest)
      else return (first, plan, word :: rest)
    | [] => return (first, plan, [])
termination_by structural fuel

/-- Expressions that have to hold together. -/
def readBoth (m : Machine) (plan : Plan) (before : String) (words : List String) (fuel : Nat) :
    Except String (Aim × Plan × List String) :=
  match fuel with
  | 0 => .error "invalid expression"
  | fuel + 1 => do
    let (first, plan, rest) ← readOne m plan before words fuel
    match rest with
    | [] => return (first, plan, [])
    | word :: rest =>
      if word == "-a" || word == "-and" then
        let (second, plan, rest) ← readBoth m plan word rest fuel
        return (.both first second, plan, rest)
      else if isJoint word then return (first, plan, word :: rest)
      else
        let (second, plan, rest) ← readBoth m plan before (word :: rest) fuel
        return (.both first second, plan, rest)
termination_by structural fuel

/-- One test or action, an expression in parentheses, or what does not hold. -/
def readOne (m : Machine) (plan : Plan) (before : String) (words : List String) (fuel : Nat) :
    Except String (Aim × Plan × List String) :=
  match fuel, words with
  | 0, _ => .error "invalid expression"
  | _, [] => .error ("expected an expression after " ++ named before)
  | fuel + 1, word :: rest => do
    if word == "!" || word == "-not" then
      let (aim, plan, rest) ← readOne m plan word rest fuel
      return (.neither aim, plan, rest)
    else if word == "(" then
      if rest.head? == some ")" then
        throw "invalid expression; empty parentheses are not allowed."
      let (aim, plan, rest) ← readList m plan word rest fuel
      match rest with
      | ")" :: rest => return (aim, plan, rest)
      | _ => throw ("invalid expression; I was expecting to find a ')' somewhere but did not see" ++
          " one.")
    else if word == ")" then throw "invalid expression; you have too many ')'"
    else if isJoint word then
      throw ("invalid expression; you have used a binary operator " ++ named word ++
        " with nothing before it.")
    else if !Text.beginsWith "-" word then
      throw ("paths must precede expression: \x60" ++ word ++ "'")
    else primary m plan word rest
termination_by structural fuel

end

/-! ## Walking -/

/-- How far the walk has come: whether what is below is left out, whether it ends here, and what was
found for programs that are started with many arguments. -/
structure Walk where
  prunes : Bool := false
  quits : Bool := false
  failed : Bool := false
  batches : List (Nat × List String × String) := []
deriving Inhabited

/-- A letter of a form. -/
def letterText (m : Machine) (f : Found) (c : Char) : Option String :=
  match c with
  | 'p' => some f.path
  | 'f' => some (lastName f.path)
  | 'h' =>
    let parent := parentPath f.path
    some (if f.path.toList.contains '/' then parent else ".")
  | 'P' => some f.below
  | 'H' => some f.origin
  | 'd' => some (toString f.depth)
  | 's' => some (toString (bytesOf f.kind))
  | 'm' => some (String.ofList (Nat.toDigits 8 (m.world.disk.mode f.place)))
  | 'M' => some (String.singleton (if letterOf f.kind == 'f' then '-' else letterOf f.kind) ++
      modeLetters (m.world.disk.mode f.place))
  | 'y' => some (String.singleton (letterOf f.kind))
  | 'l' => some (match f.kind with
      | .link target => Octet.ofText target
      | _ => "")
  | 'n' => some "1"
  | 'u' => some "root"
  | 'g' => some "root"
  | 'U' => some "0"
  | 'G' => some "0"
  | '%' => some "%"
  | _ => none

/-- A form filled in. -/
def formText (m : Machine) (f : Found) : List Char → String
  | [] => ""
  | '%' :: c :: cs => (letterText m f c).getD (String.ofList ['%', c]) ++ formText m f cs
  | '\\' :: '0' :: cs => "\x00" ++ formText m f cs
  | '\\' :: c :: cs =>
    (match Printing.letterEscapes.lookup c with
      | some n => String.singleton (Char.ofNat n)
      | none => String.ofList ['\\', c]) ++ formText m f cs
  | c :: cs => String.singleton c ++ formText m f cs

/-- Words with a path in the place of braces. -/
def filledWith (path : String) (words : List String) : List String :=
  words.map (replacedIn "\x7b\x7d" path)

/-- What was found is removed. -/
def delete (f : Found) : Work (Option FileFault) := do
  let m ← get
  match m.world.disk.at? f.place with
  | none => return some .missing
  | some .dir =>
    if !(m.world.disk.names f.place).isEmpty then return some .notEmpty
    set (m.withDisk (m.world.disk.prune f.place))
    return none
  | some _ =>
    set (m.withDisk (m.world.disk.prune f.place))
    return none

/-- A program is started with the words of an action. -/
def startWith (launcher : Launcher) (self : String) (words : List String) : Work Bool := do
  match words with
  | [] => return false
  | name :: args =>
    match ← started launcher name args with
    | .status n => return n == 0
    | .signal _ => return false
    | .fault fault =>
      tells self (named name ++ ": " ++ Streams.words fault)
      return false

/-- An action is done. -/
def act (launcher : Launcher) (self : String) (f : Found) (w : Walk) : Action → Work (Bool × Walk)
  | .print lineEnd => do
    print (f.path ++ lineEnd)
    return (true, w)
  | .form form => do
    print (formText (← get) f form.toList)
    return (true, w)
  | .toFile path lineEnd => do
    let old := ((textOf (← get) path).toOption).getD ""
    let _ ← writeFile path (old ++ f.path ++ lineEnd)
    return (true, w)
  | .prune => return (true, { w with prunes := true })
  | .quit => return (true, { w with quits := true })
  | .delete => do
    if f.path == "." || f.path == ".." then return (true, w)
    match ← delete f with
    | none => return (true, w)
    | some fault =>
      tells self ("cannot delete " ++ named f.path ++ ": " ++ Streams.words fault)
      return (false, { w with failed := true })
  | .start words inside asks => do
    let path := if inside then "./" ++ lastName f.path else f.path
    if asks then
      complain ("< " ++ words.headD "" ++ " ... " ++ f.path ++ " > ? ")
      return (false, w)
    let m ← get
    if inside then set { m with here := f.place.dropLast }
    let holds ← startWith launcher self (filledWith path words)
    modify fun now => { now with here := m.here }
    return (holds, w)
  | .startMany number words => do
    return (true, { w with batches := w.batches ++ [(number, words, f.path)] })

/-- An expression holds for what was found, and its actions are done. -/
def holds (launcher : Launcher) (self : String) (f : Found) : Aim → Walk → Work (Bool × Walk)
  | .test t, w => return (t.holds (← get) f, w)
  | .act a, w => act launcher self f w a
  | .both a b, w => do
    let (first, w) ← holds launcher self f a w
    if first && !w.quits then holds launcher self f b w else return (first, w)
  | .either a b, w => do
    let (first, w) ← holds launcher self f a w
    if first || w.quits then return (true, w) else holds launcher self f b w
  | .neither a, w => do
    let (first, w) ← holds launcher self f a w
    return (!first, w)
  | .after a b, w => do
    let (_, w) ← holds launcher self f a w
    if w.quits then return (true, w) else holds launcher self f b w

/-- How a walk goes. -/
structure Way where
  launcher : Launcher
  self : String
  aim : Aim
  plan : Plan
  follows : Bool

/-- What is found is looked at, unless it does not lie deep enough. -/
def Way.look (y : Way) (f : Found) (w : Walk) : Work Walk := do
  if f.depth < y.plan.least then return w
  let (_, w) ← holds y.launcher y.self f y.aim { w with prunes := false }
  return w

/-- What stands at a place, where links are followed if they are to be. -/
def Way.kindAt (y : Way) (m : Machine) (place : Place) : Option (Place × Kind) :=
  match m.world.disk.at? place with
  | some (.link target) =>
    if y.follows then
      match m.stat (Disk.pathOf place) with
      | .ok found => some found
      | .error _ => some (place, .link target)
    else some (place, .link target)
  | some kind => some (place, kind)
  | none => none

mutual

/-- What is found is looked at, and all below it: before it if the walk goes inward first. -/
def walk (y : Way) (f : Found) (w : Walk) (fuel : Nat) : Work Walk :=
  match fuel with
  | 0 => return w
  | fuel + 1 => do
    let m ← get
    let names := if f.kind == .dir then m.world.disk.names f.place else []
    let goesOn := (y.plan.most.map fun most => decide (f.depth < most)).getD true
    if y.plan.inward then
      let w ← if goesOn then walkAll y f names w fuel else pure w
      if w.quits then return w
      y.look f w
    else
      let w ← y.look f w
      if w.quits || w.prunes || !goesOn then return w
      walkAll y f names w fuel
termination_by structural fuel

/-- What stands under some names is looked at. -/
def walkAll (y : Way) (f : Found) (names : List String) (w : Walk) (fuel : Nat) : Work Walk :=
  match fuel, names with
  | 0, _ => return w
  | _, [] => return w
  | fuel + 1, name :: rest => do
    let m ← get
    let w ← match y.kindAt m (f.place ++ [Octet.toText name]) with
      | none => pure w
      | some (place, kind) =>
        walk y { f with path := below f.path name, depth := f.depth + 1, place, kind } w fuel
    if w.quits then return w else walkAll y f rest w fuel
termination_by structural fuel

end

/-! ## The program -/

/-- An argument begins the expression. -/
def beginsExpression (arg : String) : Bool :=
  (Text.beginsWith "-" arg && arg != "-") || arg == "(" || arg == "!"

/-- The most files that are found. -/
def mostFiles : Nat := 20000

/-- The programs that are started with many arguments are started. -/
def startBatches (launcher : Launcher) (self : String) (w : Walk) (count : Nat) : Work Bool :=
  (List.range count).foldlM (fun right n => do
    let own := w.batches.filter fun b => b.1 == n
    match own.head? with
    | none => return right
    | some (_, words, _) =>
      let holds ← startWith launcher self (words ++ own.map fun b => b.2.2)
      return right && holds) true

end Seek

open Seek Work in
/-- Directories are walked through, and what is found there is shown or worked on. -/
def find (launcher : Launcher) (self : String) (args : List String) : Work Unit := do
  let m ← get
  let isMode := fun (arg : String) => ["-L", "-H", "-P"].contains arg
  let modes := args.takeWhile isMode
  let args := args.drop modes.length
  let paths := args.takeWhile fun a => !beginsExpression a
  let words := args.drop paths.length
  let read := if words.isEmpty then .ok (Aim.test (.always true), ({} : Plan), [])
    else readList m {} "" words (6 * words.length + 6)
  match read with
  | .error text => fails self text 1
  | .ok (_, _, ")" :: _) => fails self "invalid expression; you have too many ')'" 1
  | .ok (_, _, extra :: _) => fails self ("paths must precede expression: \x60" ++ extra ++ "'") 1
  | .ok (aim, plan, []) =>
    let aim := if aim.acts then aim else .both aim (.act (.print "\n"))
    let mode := modes.getLast?.getD "-P"
    let y : Way := { launcher, self, aim, plan, follows := mode == "-L" }
    let w ← (if paths.isEmpty then ["."] else paths).foldlM (fun (w : Walk) path => do
      if w.quits then return w
      let m ← get
      match m.stat path (mode != "-P") with
      | .ok (place, kind) =>
        walk y { path, origin := path, depth := 0, place, kind } w mostFiles
      | .error fault =>
        match m.stat path false with
        | .ok (place, kind) => walk y { path, origin := path, depth := 0, place, kind } w mostFiles
        | .error _ =>
          tells self (named path ++ ": " ++ Streams.words fault)
          return { w with failed := true }) {}
    let right ← startBatches launcher self w plan.batches
    ends (if w.failed || !right then 1 else 0)

end ApkForge.Script.Program
