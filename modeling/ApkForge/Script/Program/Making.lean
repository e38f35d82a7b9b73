-- The host's programs that make and remove files, directories and links, and change their rights.
-- Each does its work for one operand after the other, says what it could not do, and fails if there
-- was any.
import ApkForge.Script.Builtin.Places
import ApkForge.Script.Moment
import ApkForge.Script.Program.Basic

namespace ApkForge.Script.Program

open Work

/-! ## Operands -/

/-- What one operand comes to: nothing to say, or a complaint. -/
abbrev Errand := Work (Option String)

/-- A program does something for each operand. -/
def forEach (self : String) (act : String → Errand) (operands : List String) : Work Unit := do
  ends 0
  operands.forM fun operand => do
    match ← act operand with
    | none => return ()
    | some complaint =>
      tells self complaint
      ends 1

/-- A program that needs operands does something for each. -/
def forSome (self what : String) (act : String → Errand) (operands : List String) : Work Unit :=
  if operands.isEmpty then misused self ("missing " ++ what) else forEach self act operands

/-- A change of the files for one operand, with what is said when it fails. -/
def change (said : FileFault → String) (f : Disk → Place → Except FileFault Disk) : Errand := do
  let m ← get
  match f m.world.disk m.here with
  | .ok disk =>
    set (m.withDisk disk)
    return none
  | .error fault => return some (said fault)

/-- The last name of a path, without the slashes after it. -/
def lastName (path : String) : String :=
  let kept := (path.toList.reverse.dropWhile (· == '/')).reverse
  if kept.isEmpty then (if path == "" then "" else "/")
  else String.ofList ((kept.reverse.takeWhile (· != '/')).reverse)

/-- A path below another one. -/
def below (path name : String) : String :=
  if Text.endsWith "/" path then path ++ name else path ++ "/" ++ name

/-- The rights of new files and directories that a process leaves. -/
def masked (mask mode : Nat) : Nat := mode - (mode &&& mask)

/-! ## Directories -/

/-- The fronts of a path, each with one name more. -/
def fronts (path : String) : List String :=
  let segments := Text.split '/' path
  let joined := (List.range segments.length).map fun n => Text.join "/" (segments.take (n + 1))
  (joined.zip segments).filterMap fun (front, segment) => if segment == "" then none else some front

/-- A directory is made, with its rights. -/
def makeDirectory (mode : Option Nat) (path : String) : Work (Option FileFault) := do
  let m ← get
  match m.world.disk.makeDir m.here path with
  | .error fault => return some fault
  | .ok disk =>
    let place := ((disk.walk m.here path).map FileTree.Arrival.place).toOption.getD []
    let usual := masked m.mask 511
    let rights := mode.getD usual
    set (m.withDisk (if rights == 493 then disk else disk.setMode place rights))
    return none

/-- The directories of a path are made where they are missing. -/
def makeAll (mode : Option Nat) (tell : String → Work Unit) (last : String) :
    List String → Errand
  | [] => return none
  | path :: rest => do
    let m ← get
    let said := fun (fault : FileFault) =>
      "cannot create directory " ++ named path ++ ": " ++ Streams.words fault
    match m.stat path with
    | .ok (_, .dir) => makeAll mode tell last rest
    | .ok _ => return some (said (if rest.isEmpty then .exists else .notDirectory))
    | .error .missing =>
      match ← makeDirectory (if rest.isEmpty then mode else none) path with
      | none =>
        tell path
        makeAll mode tell last rest
      | some fault => return some (said fault)
    | .error fault => return some (said fault)

/-- Directories are made, with `-p` those above them as well. -/
def mkdir (self : String) (args : List String) : Work Unit :=
  called self { flags := "pvZ", valued := "m"
                long := [("parents", 'p'), ("verbose", 'v'), ("mode", 'm')] } args fun c => do
    let m ← get
    let tell := fun (path : String) =>
      if c.has 'v' then printLine (self ++ ": created directory " ++ named path) else return ()
    match (c.value? 'm').map fun text => Builtin.rights? m.mask true 511 text with
    | some none => fails self ("invalid mode " ++ named ((c.value? 'm').getD "")) 1
    | mode =>
      forSome self "operand" (fun path => do
        let said := fun (fault : FileFault) =>
          "cannot create directory " ++ named path ++ ": " ++ Streams.words fault
        if c.has 'p' then
          if path == "" then return some (said .missing)
          makeAll mode.join tell path (fronts path)
        else match ← makeDirectory mode.join path with
          | some fault => return some (said fault)
          | none =>
            tell path
            return none) c.operands

/-- One empty directory is removed. -/
def removeDirectory (path : String) : Work (Option FileFault) := do
  let m ← get
  match m.stat path with
  | .error fault => return some fault
  | .ok (place, .dir) =>
    if lastName path == "." then return some .invalidArgument
    if !(m.world.disk.names place).isEmpty then return some .notEmpty
    set (m.withDisk (m.world.disk.prune place))
    return none
  | .ok _ => return some .notDirectory

/-- Directories are removed from the longest path to the shortest, up to the first that cannot
be. -/
def removeAll (tell : String → Work Unit) (isQuiet : FileFault → Bool) : List String → Errand
  | [] => return none
  | path :: rest => do
    tell path
    match ← removeDirectory path with
    | none => removeAll tell isQuiet rest
    | some fault =>
      if isQuiet fault then return none
      return some ("failed to remove " ++ named path ++ ": " ++ Streams.words fault)

/-- Empty directories are removed, with `-p` those above them as well. -/
def rmdir (self : String) (args : List String) : Work Unit :=
  called self { flags := "pvI", long := [("parents", 'p'), ("verbose", 'v'),
    ("ignore-fail-on-non-empty", 'I')] } args fun c => do
    let tell := fun (path : String) =>
      if c.has 'v' then printLine (self ++ ": removing directory, " ++ named path) else return ()
    forSome self "operand" (fun path =>
      removeAll tell (fun fault => c.has 'I' && fault == .notEmpty)
        (if c.has 'p' then (fronts path).reverse else [path])) c.operands

/-! ## Removing -/

/-- All that is removed with a directory, each after what is in it. -/
def removedWith (disk : Disk) : Nat → Place → String → List String
  | 0, _, _ => []
  | fuel + 1, place, path =>
    let inside := (disk.names place).flatMap fun name =>
      let next := place ++ [Octet.toText name]
      if disk.at? next == some .dir then removedWith disk fuel next (below path name)
      else ["removed " ++ named (below path name)]
    inside ++ ["removed directory " ++ named path]

/-- One file is removed, or with `-r` a directory with all in it. -/
def removeOne (c : Call) (path : String) : Errand := do
  let m ← get
  let said := fun (fault : FileFault) =>
    some ("cannot remove " ++ named path ++ ": " ++ Streams.words fault)
  let deep := c.has 'r' || c.has 'R'
  let name := lastName path
  match m.stat path false with
  | .error fault =>
    return if c.has 'f' && (fault == .missing || fault == .notDirectory) then none else said fault
  | .ok (place, .dir) =>
    if !deep && !c.has 'd' then return said .isDirectory
    if name == "." || name == ".." then
      return some ("refusing to remove '.' or '..' directory: skipping " ++ named path)
    if place == [] then
      tells m.name "it is dangerous to operate recursively on '/'"
      return some "use --no-preserve-root to override this failsafe"
    if !deep && !(m.world.disk.names place).isEmpty then return said .notEmpty
    if c.has 'v' then
      (removedWith m.world.disk 200 place path).forM printLine
    modify fun m => m.withDisk (m.world.disk.prune place)
    return none
  | .ok (_, .device _) => return none
  | .ok (_, .program _) => return said .denied
  | .ok (place, _) =>
    if c.has 'v' then printLine ("removed " ++ named path)
    modify fun m => m.withDisk (m.world.disk.prune place)
    return none

/-- Files are removed. -/
def rm (self : String) (args : List String) : Work Unit :=
  called self { flags := "rRfdivIx", long := [("recursive", 'r'), ("force", 'f'), ("dir", 'd'),
    ("verbose", 'v'), ("interactive", 'I'), ("one-file-system", 'x'), ("preserve-root", 'P'),
    ("no-preserve-root", 'N')] } args fun c =>
    if c.operands.isEmpty && c.has 'f' then ends 0
    else forSome self "operand" (removeOne c) c.operands

/-- One file is removed. -/
def unlink (self : String) (args : List String) : Work Unit :=
  called self {} args fun c =>
    match c.operands with
    | [path] => forEach self (fun path => do
        let m ← get
        let said := fun (fault : FileFault) =>
          some ("cannot unlink " ++ named path ++ ": " ++ Streams.words fault)
        match m.stat path false with
        | .error fault => return said fault
        | .ok (_, .dir) => return said .isDirectory
        | .ok (place, _) =>
          set (m.withDisk (m.world.disk.prune place))
          return none) [path]
    | [] => misused self "missing operand"
    | _ :: extra :: _ => misused self ("extra operand " ++ named extra)

/-! ## Touching -/

/-- The time that files are given by a call, if it is not now: that of another file, or one that is
said. -/
def touchStamp (m : Machine) (c : Call) : Except String (Option Int) :=
  let ofSeconds := fun (seconds : Int) => some ((seconds - World.epoch) * 1000000)
  match c.value? 'r', c.value? 'd', c.value? 't' with
  | some other, _, _ => match m.stat other with
    | .ok (place, _) => .ok (some (m.world.disk.stampAt place))
    | .error fault =>
      .error ("failed to get attributes of " ++ named other ++ ": " ++ Streams.words fault)
  | none, some text, _ => match Moment.read? m.world.now text with
    | some (seconds, _) => .ok (ofSeconds seconds)
    | none => .error ("invalid date format " ++ named text)
  | none, none, some text => match Moment.ofDigits? m.world.now text with
    | some seconds => .ok (ofSeconds seconds)
    | none => .error ("invalid date format " ++ named text)
  | none, none, none => .ok none

/-- Files are made where they are missing, and are changed now, at a given time, or as another one
was. -/
def touch (self : String) (args : List String) : Work Unit :=
  called self { flags := "acmhf", valued := "drt", long := [("no-create", 'c'), ("date", 'd'),
    ("reference", 'r'), ("time", 'A'), ("no-dereference", 'h')] } args fun c => do
    match touchStamp (← get) c with
    | .error words => fails self words 1
    | .ok stamp =>
      let stamped := fun (disk : Disk) (place : Place) =>
        if c.has 'a' && !c.has 'm' then disk
        else match stamp with
          | some n => disk.stamped place n
          | none => disk.touch place
      forSome self "file operand" (fun path => do
        let m ← get
        let said := fun (fault : FileFault) =>
          some ("cannot touch " ++ named path ++ ": " ++ Streams.words fault)
        match m.stat path with
        | .ok (place, _) =>
          set (m.withDisk (stamped m.world.disk place))
          return none
        | .error .missing =>
          if c.has 'c' then return none
          match ← writeFile path "" with
          | some fault => return said fault
          | none =>
            let m ← get
            match m.stat path with
            | .ok (place, _) => set (m.withDisk (stamped m.world.disk place))
            | .error _ => pure ()
            return none
        | .error fault =>
          if Text.endsWith "/" path && fault == .notDirectory then
            return some ("setting times of " ++ named path ++ ": " ++ Streams.words fault)
          return said fault) c.operands

/-- A size with a letter for how much it counts. -/
def size? (text : String) : Option Nat :=
  let digits := text.toList.takeWhile Char.isDigit
  let unit := match String.ofList (text.toList.drop digits.length) with
    | "" => some 1
    | "b" => some 512
    | "c" => some 1
    | "w" => some 2
    | "k" => some 1024
    | "K" => some 1024
    | "KiB" => some 1024
    | "kB" => some 1000
    | "KB" => some 1000
    | "M" => some 1048576
    | "MiB" => some 1048576
    | "MB" => some 1000000
    | "G" => some 1073741824
    | _ => none
  if digits.isEmpty then none else unit.map fun n => Number.ofDigits 10 digits * n

/-- The most bytes that a file may be brought to. -/
def mostBytes : Nat := 16777216

/-- Files are brought to a size. -/
def truncate (self : String) (args : List String) : Work Unit :=
  called self { flags := "co", valued := "sr", long := [("size", 's'), ("no-create", 'c'),
    ("reference", 'r')] } args fun c => do
    match c.value? 's' with
    | none => misused self "you must specify either '--size' or '--reference'"
    | some text =>
      let sign := text.toList.head?.filter "+-".toList.contains
      let digits := if sign.isSome then String.ofList text.toList.tail else text
      match size? digits with
      | none => fails self ("Invalid number: " ++ named text) 1
      | some n =>
        forSome self "file operand" (fun path => do
          let m ← get
          let old := ((m.world.disk.read m.here path).toOption.getD [])
          let size := match sign with
            | some '+' => old.length + n
            | some '-' => old.length - n
            | _ => n
          let new := old.take size ++ List.replicate (min size mostBytes - old.length) 0
          if c.has 'c' && !m.world.disk.has m.here path then return none
          match ← writeFile path (Octet.ofBytes new) with
          | some fault =>
            return some ("cannot open " ++ named path ++ " for writing: " ++ Streams.words fault)
          | none => return none) c.operands

/-! ## Links -/

/-- The path that a link gets: the one that is named, or one below it if it is a directory. -/
def linkPath (m : Machine) (c : Call) (target path : String) : String :=
  if m.world.disk.isDir m.here path && !c.has 'T' && !c.has 'n' then below path (lastName target)
  else path

/-- One link is made. One that is not symbolic is a second file with the same content. -/
def linkOne (c : Call) (path target : String) : Errand := do
  let m ← get
  let path := linkPath m c target path
  let kind := if c.has 's' then "symbolic" else "hard"
  let said := fun (fault : FileFault) =>
    some ("failed to create " ++ kind ++ " link " ++ named path ++ ": " ++ Streams.words fault)
  if c.has 'f' then
    match m.stat path false with
    | .ok (place, .dir) =>
      if c.has 's' || place != [] then return some (named path ++ ": cannot overwrite directory")
    | .ok (place, _) => set (m.withDisk (m.world.disk.prune place))
    | .error _ => pure ()
  let m ← get
  let complaint ← if c.has 's' then
      change (fun fault => (said fault).getD "") fun disk here => disk.makeLink here target path
    else match m.stat target with
      | .error fault =>
        pure (some ("failed to access " ++ named target ++ ": " ++ Streams.words fault))
      | .ok (_, .dir) => pure (some (namedFirst target ++ ": hard link not allowed for directory"))
      | .ok (origin, _) =>
        change (fun fault => (said fault).getD "") fun disk here => do
          let arrival ← disk.free here path
          return disk.graft origin arrival.place
  if complaint.isNone && c.has 'v' then
    printLine (named path ++ (if c.has 's' then " -> " else " => ") ++ named target)
  return complaint

/-- Links are made. The last operand names the link, or the directory of several. -/
def ln (self : String) (args : List String) : Work Unit :=
  called self { flags := "sfnvTri", valued := "t", long := [("symbolic", 's'), ("force", 'f'),
    ("verbose", 'v'), ("no-dereference", 'n'), ("no-target-directory", 'T'),
    ("target-directory", 't'), ("relative", 'r')] } args fun c => do
    let m ← get
    match c.value? 't', c.operands.reverse with
    | some dir, _ => forSome self "file operand" (linkOne c dir) c.operands
    | none, [] => misused self "missing file operand"
    | none, [target] => forEach self (linkOne c ".") [target]
    | none, [path, target] => forEach self (linkOne c path) [target]
    | none, path :: targets =>
      if m.world.disk.isDir m.here path then forEach self (linkOne c path) targets.reverse
      else
        let fault := match m.stat path with
          | .ok _ => FileFault.notDirectory
          | .error fault => fault
        fails self ("target " ++ named path ++ ": " ++ Streams.words fault) 1

/-- One file gets another name. -/
def link (self : String) (args : List String) : Work Unit :=
  called self {} args fun c =>
    match c.operands with
    | [target, path] => forEach self (fun target => do
        let said := fun (fault : FileFault) =>
          "cannot create link " ++ named path ++ " to " ++ named target ++ ": " ++
              Streams.words fault
        match (← get).stat target with
        | .error fault => return some (said fault)
        | .ok (_, .dir) => return some (said (.said "Operation not permitted"))
        | .ok (origin, _) =>
          change said fun disk here => do
            let arrival ← disk.free here path
            return disk.graft origin arrival.place) [target]
    | [] => misused self "missing operand"
    | [only] => misused self ("missing operand after " ++ named only)
    | _ :: _ :: extra :: _ => misused self ("extra operand " ++ named extra)

/-! ## Rights -/

/-- Rights as letters. -/
def modeLetters (mode : Nat) : String :=
  let three := fun (bits special : Nat) (small large : Char) =>
    let x := if bits &&& 1 != 0 then (if special != 0 then small else 'x')
      else if special != 0 then large else '-'
    [if bits &&& 4 != 0 then 'r' else '-', if bits &&& 2 != 0 then 'w' else '-', x]
  String.ofList (three (mode / 64 % 8) (mode &&& 2048) 's' 'S' ++
    three (mode / 8 % 8) (mode &&& 1024) 's' 'S' ++ three (mode % 8) (mode &&& 512) 't' 'T')

/-- The rights of one file are changed, and with `-R` of all below it. -/
def changeMode (c : Call) (text : String) : Nat → String → Errand
  | 0, _ => return none
  | fuel + 1, path => do
    let m ← get
    match m.stat path with
    | .error fault =>
      if c.has 'f' then
        ends 1
        return none
      return some ("cannot access " ++ named path ++ ": " ++ Streams.words fault)
    | .ok (place, kind) =>
      let disk := m.world.disk
      let old := disk.mode place
      let new := (Builtin.rights? m.mask (kind == .dir) old text).getD old
      set (m.withDisk (disk.setMode place new))
      let shown := fun (mode : Nat) =>
        Builtin.octal 4 mode ++ " (" ++ modeLetters mode ++ ")"
      if old != new && (c.has 'v' || c.has 'c') then
        printLine ("mode of " ++ named path ++ " changed from " ++ shown old ++ " to " ++ shown new)
      else if c.has 'v' then printLine ("mode of " ++ named path ++ " retained as " ++ shown new)
      if c.has 'R' && kind == .dir then
        (disk.names place).forM fun name => do
          match ← changeMode c text fuel (below path name) with
          | some complaint =>
            tells m.name complaint
            ends 1
          | none => return ()
      return none

/-- An argument holds options of the program for rights: its letters do not make a mode. -/
def isModeOption (arg : String) : Bool :=
  match arg.toList with
  | '-' :: c :: cs => arg == "--" || Text.beginsWith "--" arg ||
      (c :: cs).all "Rcfv".toList.contains
  | _ => false

/-- Rights are changed. -/
def chmod (self : String) (args : List String) : Work Unit := do
  let options := args.filter isModeOption
  let rest := args.filter fun a => !isModeOption a
  called self { flags := "Rcfv", long := [("recursive", 'R'), ("verbose", 'v'), ("changes", 'c'),
    ("quiet", 'f'), ("silent", 'f')] } (options.filter (· != "--")) fun c =>
    match rest with
    | [] => misused self "missing operand"
    | [mode] => misused self ("missing operand after " ++ named mode)
    | mode :: paths =>
      if (Builtin.rights? 0 false 0 mode).isNone then misused self ("invalid mode: " ++ named mode)
      else forEach self (changeMode c mode 200) paths

/-! ## Names of their own -/

/-- A template with its last letters `X` replaced by characters that no other file has. -/
def freshName (m : Machine) (template : String) : Option String :=
  let cs := template.toList.reverse
  let after := cs.takeWhile (· != 'X')
  let marks := (cs.drop after.length).takeWhile (· == 'X')
  if marks.length < 3 then none
  else
    let letters := "abcdefghijklmnopqrstuvwxyz0123456789".toList
    let n := 7919 * (m.world.disk.changes + m.world.lastProcess + 1)
    let made := (List.range marks.length).map fun i => letters.getD (n / Nat.pow 7 i % 36) 'a'
    some (String.ofList ((cs.drop (after.length + marks.length)).reverse ++ made ++ after.reverse))

/-- A file or a directory with a name of its own is made. -/
def mktemp (self : String) (args : List String) : Work Unit :=
  called self { flags := "duqt", valued := "p", long := [("directory", 'd'), ("dry-run", 'u'),
    ("quiet", 'q'), ("tmpdir", 'P'), ("suffix", 'S')] } args fun c => do
    let m ← get
    let template := c.operands.headD "tmp.XXXXXXXXXX"
    let home := (m.var "TMPDIR").getD "/tmp"
    let dir := if let some dir := c.value? 'p' then some dir
      else if c.operands.isEmpty || c.has 't' || c.has 'P' then some home else none
    match freshName m template with
    | none => fails self ("too few X's in template " ++ named template) 1
    | some name =>
      let path := match dir with
        | some dir => below dir name
        | none => name
      let fault ← if c.has 'u' then pure none
        else if c.has 'd' then makeDirectory (some 448) path
        else do
          let fault ← writeFile path ""
          modify fun m => match m.stat path with
            | .ok (place, _) => m.withDisk (m.world.disk.setMode place 384)
            | .error _ => m
          pure fault
      match fault with
      | none =>
        printLine path
        ends 0
      | some fault =>
        let kind := if c.has 'd' then "directory" else "file"
        let shown := match dir with
          | some dir => below dir template
          | none => template
        fails self ("failed to create " ++ kind ++ " via template " ++ named shown ++ ": " ++
          Streams.words fault) 1

end ApkForge.Script.Program
