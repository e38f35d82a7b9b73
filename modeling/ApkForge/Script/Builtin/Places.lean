-- The commands of a shell for where it stands and for the rights of new files.
import ApkForge.Script.Builtin.Basic

namespace ApkForge.Script.Builtin

open Work

/-! ## Directories -/

/-- The place that a shell says that it stands at: with the links that it came through. -/
def seenPlace (m : Machine) : Place :=
  let seen := (Text.split '/' (Octet.toText (m.value "PWD"))).filter (· != "")
  match m.world.disk.walk [] (m.value "PWD") with
  | .ok arrival =>
    if Text.beginsWith "/" (m.value "PWD") && arrival.place == m.here then seen else m.here
  | .error _ => m.here

/-- Names after a place, where a step up takes away the name before it. A step up is taken from a
directory only. -/
def stepsFrom (d : Disk) : Place → List String → Option Place
  | place, [] => some place
  | place, s :: rest =>
    if s == "" || s == "." then stepsFrom d place rest
    else if s == ".." then
      if d.isDir [] (Disk.pathOf place) then stepsFrom d place.dropLast rest else none
    else stepsFrom d (place ++ [s]) rest

/-- The shell goes to a directory, and remembers the one before. -/
def goTo (seen here : Place) : Work Unit := do
  let m ← get
  let old := m.value "PWD"
  set { m with here }
  assign "OLDPWD" old
  modify fun m => m.put "PWD" (Disk.pathOf seen)

/-- A directory for a shell to go to: where it is seen and where it stands. -/
def destination (m : Machine) (physical : Bool) (path : String) :
    Except FileFault (Place × Place) := do
  let segments := Text.split '/' (Octet.toText path)
  let origin := if Text.beginsWith "/" path then [] else seenPlace m
  let seen := if physical then none else stepsFrom m.world.disk origin segments
  let path := match seen with
    | some place => if path == "" then "." else Disk.pathOf place
    | none => path
  match ← m.world.disk.stat m.here path with
  | (place, .dir) => return (seen.getD place, place)
  | _ => throw .notDirectory

/-- The paths to try for a directory, each with whether it is told where it was found. -/
def candidates (m : Machine) (target : String) : List (String × Bool) :=
  let isFree := ["/", "./", "../"].any fun front => Text.beginsWith front target
  if isFree || target == "." || target == ".." || target == "" then [(target, false)]
  else
    let listed := match m.var "CDPATH" with
      | some paths => (Text.split ':' paths).map fun dir =>
          if dir == "" then (target, false) else (dir ++ "/" ++ target, true)
      | none => []
    listed ++ [(target, false)]

/-- The shell goes to another directory, or back to the one before. -/
def cd (args : List String) : Work Unit := do
  withOptions "cd" (if (← get).rich then "LPe@" else "LP") "cd [-L|[-P [-e]] [-@]] [dir]" args
    fun letters rest => do
      let m ← get
      let back := rest.head? == some "-"
      let fails := fun (words : String) => do
        say ("cd: " ++ words)
        ends 1
      let physical := (letters.getLast? == some 'P') || (m.has "physical")
      let target? := if back then m.var "OLDPWD" else (rest.head?).or (m.var "HOME")
      if m.rich && rest.length > 1 then fails "too many arguments"
      else if m.rich && target?.isNone then
          fails (if back then "OLDPWD not set" else "HOME not set")
      else
        let target := target?.getD (if back then m.value "PWD" else "")
        let found := (candidates m target).findSome? fun c =>
          (destination m physical c.1).toOption.map fun places => (places, c.2)
        match found with
        | some ((seen, here), told) =>
          if target != "" then goTo seen here
          if back || told then printLine (Disk.pathOf seen)
          ends 0
        | none =>
          match destination m physical target with
          | .error fault =>
            if m.rich then fails (target ++ ": " ++ Streams.words fault)
            else
              say ("cd: can't cd to " ++ target)
              ends 2
          | .ok _ => ends 0

/-- The directory that the shell stands in is shown. -/
def pwd (args : List String) : Work Unit :=
  withOptions "pwd" "LP" "pwd [-LP]" args fun letters _ => do
    let m ← get
    let place := if letters.getLast? == some 'P' then m.here else seenPlace m
    endsAs (← printAs "pwd" (Disk.pathOf place ++ "\n"))

/-- The directories that the shell remembers are shown, the one that it stands in first. -/
def dirs (_args : List String) : Work Unit := do
  let m ← get
  let short := fun (place : Place) =>
    let path := Disk.pathOf place
    match (m.var "HOME").filter fun home => home != "" && home != "/" with
    | none => path
    | some home =>
      if path == home then "~"
      else match Text.dropHead? (home ++ "/").toList path.toList with
        | some rest => "~/" ++ String.ofList rest
        | none => path
  printLine (Text.join " " ((seenPlace m :: m.stack).map short))
  ends 0

/-- The shell goes to another directory and remembers this one. -/
def pushd (args : List String) : Work Unit := do
  let m ← get
  let old := seenPlace m
  let target := match args, m.stack with
    | target :: _, _ => some target
    | [], place :: _ => some (Disk.pathOf place)
    | [], [] => none
  match target with
  | none =>
    say "pushd: no other directory"
    ends 1
  | some path =>
    match destination m false path with
    | .error fault =>
      say ("pushd: " ++ path ++ ": " ++ Streams.words fault)
      ends 1
    | .ok (seen, here) =>
      goTo seen here
      modify fun m => { m with stack := old :: if args.isEmpty then m.stack.tail else m.stack }
      dirs []

/-- The shell goes back to the directory that it remembered last. -/
def popd (_args : List String) : Work Unit := do
  let m ← get
  match m.stack with
  | [] =>
    say "popd: directory stack empty"
    ends 1
  | place :: rest =>
    match destination m false (Disk.pathOf place) with
    | .error fault =>
      say ("popd: " ++ Disk.pathOf place ++ ": " ++ Streams.words fault)
      ends 1
    | .ok (seen, here) =>
      goTo seen here
      modify fun m => { m with stack := rest }
      dirs []

/-! ## Rights -/

/-- A number in octal digits with zeros in front. -/
def octal (width n : Nat) : String :=
  let ds := Nat.toDigits 8 n
  String.ofList (List.replicate (width - ds.length) '0' ++ ds)

/-- The rights of one kind of user as letters. -/
def rightLetters (bits : Nat) : String :=
  (if bits &&& 4 != 0 then "r" else "") ++ (if bits &&& 2 != 0 then "w" else "") ++
    (if bits &&& 1 != 0 then "x" else "")

/-- The rights that a mask leaves, as clauses. -/
def maskClauses (mask : Nat) : String :=
  let left := 511 - mask % 512
  "u=" ++ rightLetters (left / 64) ++ ",g=" ++ rightLetters (left / 8 % 8) ++ ",o=" ++
    rightLetters (left % 8)

/-- Bits of rights by their letters, for the kinds of users that a mask has ones for. -/
def rightBits (who : Nat) (executes : Bool) (letters : List Char) : Nat :=
  (letters.map fun c => match c with
    | 'r' => 292 &&& who
    | 'w' => 146 &&& who
    | 'x' => 73 &&& who
    | 'X' => if executes then 73 &&& who else 0
    | 's' => (if who &&& 448 != 0 then 2048 else 0) + (if who &&& 56 != 0 then 1024 else 0)
    | 't' => 512
    | _ => 0).foldl (· ||| ·) 0

/-- The users that a clause is about: a mask with ones for them. -/
def usersOf (letters : List Char) : Nat :=
  (letters.map fun c => match c with
    | 'u' => 448
    | 'g' => 56
    | 'o' => 7
    | _ => 511).foldl (· ||| ·) 0

/-- The actions of a clause done to rights, one sign with its letters after the other. -/
def doActions (who mask : Nat) (isDir : Bool) : Nat → Nat → List Char → Option Nat
  | 0, _, _ => none
  | _, rights, [] => some rights
  | fuel + 1, rights, sign :: cs =>
    let letters := cs.takeWhile fun c => c != '+' && c != '-' && c != '='
    let rest := cs.drop letters.length
    let users := if who == 0 then 511 - mask else who
    let bits := match letters with
      | ['u'] => rightBits users false (rightLetters (rights / 64 % 8)).toList
      | ['g'] => rightBits users false (rightLetters (rights / 8 % 8)).toList
      | ['o'] => rightBits users false (rightLetters (rights % 8)).toList
      | _ => rightBits users (isDir || rights &&& 73 != 0) letters
    let isCopy := [['u'], ['g'], ['o']].contains letters
    if !isCopy && !letters.all "rwxXst".toList.contains then none
    else match sign with
      | '+' => doActions who mask isDir fuel (rights ||| bits) rest
      | '-' => doActions who mask isDir fuel (rights - (rights &&& bits)) rest
      | '=' =>
        let cleared := if who == 0 then 511 else who
        doActions who mask isDir fuel ((rights - (rights &&& cleared)) ||| bits) rest
      | _ => none

/-- Rights after clauses such as `u+x,go=r`. -/
def clauses? (mask : Nat) (isDir : Bool) (rights : Nat) (text : String) : Option Nat :=
  (Text.split ',' text).foldlM (fun rights clause =>
    let letters := clause.toList.takeWhile "ugoa".toList.contains
    let actions := clause.toList.drop letters.length
    if actions.isEmpty then none
    else doActions (usersOf letters) mask isDir (actions.length + 1) rights actions) rights

/-- Rights by octal digits, or by clauses. -/
def rights? (mask : Nat) (isDir : Bool) (rights : Nat) (text : String) : Option Nat :=
  let digits := text.toList
  if !digits.isEmpty && digits.all (Number.isDigitIn 8) then
    let n := Number.ofDigits 8 digits
    if n < 4096 then some n else none
  else clauses? mask isDir rights text

/-- The mask of new files is shown, or given. -/
def umask (args : List String) : Work Unit := do
  withOptions "umask" (if (← get).rich then "Sp" else "S") "umask [-p] [-S] [mode]" args
    fun letters rest => do
      let m ← get
      match rest with
      | [] =>
        let text := if letters.contains 'S' then maskClauses m.mask else octal 4 m.mask
        printLine ((if letters.contains 'p' then "umask " else "") ++ text)
        ends 0
      | text :: _ =>
        if (text.toList.head?.map Char.isDigit).getD false then
          match (rights? 0 false 0 text).filter fun n => decide (n < 512) with
          | some mask => set { m with mask, status := 0 }
          | none => wrong "umask" ("Illegal number: " ++ text) (text ++
              ": octal number out of range")
        else
          match clauses? 0 false (511 - m.mask % 512) text with
          | some left =>
            set { m with mask := 511 - left, status := 0 }
            if letters.contains 'S' then printLine (maskClauses (511 - left))
          | none =>
            let sign := (text.toList.dropWhile "ugoa".toList.contains).head?.getD ' '
            wrong "umask" ("Illegal mode: " ++ text)
              ("\x60" ++ String.singleton sign ++ "': invalid symbolic mode operator")

/-- The limits that can be asked for. Nothing is limited but how much is open at once, and what is
left of a process that fails. -/
def ulimit (args : List String) : Work Unit :=
  withOptions "ulimit" "SHabcdefiklmnpqrstuvxPRTw" "ulimit [-SHabcdefiklmnpqrstuvxPRT] [limit]" args
    fun letters rest => do
      let limit := match letters.filter fun c => c != 'S' && c != 'H' with
        | ['n'] => "1048576"
        | ['c'] => "0"
        | ['s'] => if letters.contains 'H' then "unlimited" else "8192"
        | _ => "unlimited"
      if rest.isEmpty then printLine limit
      ends 0

end ApkForge.Script.Builtin
