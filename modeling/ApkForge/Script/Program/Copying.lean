-- The host's programs that copy and move files and directories.
import ApkForge.Script.Program.Making

namespace ApkForge.Script.Program

open Work

/-! ## Targets -/

/-- The last operand, or the value of an option, is the target for the others. Several need a
directory; none of them is looked for in one if that is not wanted. -/
def toTarget (self : String) (c : Call) (act : String → String → Errand) : Work Unit := do
  let m ← get
  let inside := fun (dir source : String) => act (below dir (lastName source)) source
  let faultOf := fun (path : String) => match m.stat path with
    | .ok _ => FileFault.notDirectory
    | .error fault => fault
  match c.value? 't', c.operands.reverse with
  | _, [] => misused self "missing file operand"
  | some dir, sources =>
    if m.world.disk.isDir m.here dir then forEach self (inside dir) sources.reverse
    else fails self ("target directory " ++ named dir ++ ": " ++ Streams.words (faultOf dir)) 1
  | none, [source] => misused self ("missing destination file operand after " ++ named source)
  | none, target :: sources =>
    if m.world.disk.isDir m.here target && !c.has 'T' then
      forEach self (inside target) sources.reverse
    else match sources with
      | [source] => forEach self (act target) [source]
      | _ =>
        if c.has 'T' then misused self ("extra operand " ++ named target)
        else fails self ("target " ++ named target ++ ": " ++ Streams.words (faultOf target)) 1

/-- What a path to be written leads to: an error, nothing yet, or something. -/
def standing (m : Machine) (path : String) : Except FileFault (Option (Place × Kind)) :=
  match m.stat path with
  | .ok found => .ok (some found)
  | .error .missing => .ok none
  | .error fault => .error fault

/-! ## Copying -/

/-- The words for a copy that is told of. -/
def arrow (source goal : String) : String := named source ++ " -> " ++ named goal

/-- The rights that a copy gets: those of what it comes from, less what is masked. -/
def copiedMode (m : Machine) (keeps : Bool) (origin : Place) : Nat :=
  let mode := m.world.disk.mode origin
  if keeps then mode else masked m.mask (mode % 512)

/-- The content of a file at a path. A new file gets rights from the one it comes from. -/
def copyBytes (keeps : Bool) (origin : Place) (content : Bytes) (goal : String) :
    Work (Option FileFault) := do
  let m ← get
  let isNew := !m.world.disk.has m.here goal
  let mode := copiedMode m keeps origin
  if isNew && Text.endsWith "/" goal then
    match m.world.disk.writable m.here goal with
    | .error .isDirectory => return some .notDirectory
    | _ => pure ()
  match ← writeFile goal (Octet.ofBytes content) with
  | some fault => return some fault
  | none =>
    let m ← get
    if isNew || keeps then
      match m.stat goal with
      | .ok (place, .file _ _) =>
        let disk := m.world.disk.setMode place mode
        set (m.withDisk (if keeps then disk.stamped place (disk.stampAt origin) else disk))
      | _ => return none
    return none

/-- All below a place is told of, as it is copied. -/
def tellCopied (disk : Disk) : Nat → Place → String → String → List String
  | 0, _, _, _ => []
  | fuel + 1, place, source, goal =>
    arrow source goal :: (disk.names place).flatMap fun name =>
      let next := place ++ [Octet.toText name]
      let (source, goal) := (below source name, below goal name)
      if disk.at? next == some .dir then tellCopied disk fuel next source goal
      else [arrow source goal]

/-- A directory is copied with all that is in it. -/
def copyDirectory (c : Call) (origin : Place) (goal source : String) : Errand := do
  let m ← get
  let said := fun (fault : FileFault) =>
    some ("cannot create directory " ++ named goal ++ ": " ++ Streams.words fault)
  match standing m goal with
  | .error fault => return said fault
  | .ok (some (_, .dir)) => pure ()
  | .ok (some _) =>
    return some ("cannot overwrite non-directory " ++ named goal ++ " with directory " ++
        named source)
  | .ok none =>
    match ← makeDirectory none goal with
    | some fault => return said fault
    | none => pure ()
  let now ← get
  match now.world.disk.walk now.here goal with
  | .error fault => return said fault
  | .ok arrival =>
    let inside := (Text.dropHead? origin arrival.place).isSome
    let copied := m.world.disk.graft origin arrival.place
    set (now.withDisk (if c.has 'p' || c.has 'a' then copied else copied.touchAll arrival.place))
    if inside then
      return some ("cannot copy a directory, " ++ named source ++ ", into itself, " ++ named goal)
    if c.has 'v' then (tellCopied m.world.disk 200 origin source goal).forM printLine
    return none

/-- One file, link or directory is copied. -/
def copyOne (c : Call) (goal source : String) : Errand := do
  let m ← get
  let disk := m.world.disk
  let deep := "rRa".toList.any c.has
  let keeps := c.has 'p' || c.has 'a'
  let follows := !("PdaR".toList.any c.has || c.has 'r') || c.has 'L'
  let arrival := (disk.walk m.here goal).toOption.map FileTree.Arrival.place
  let finish := fun (fault? : Option FileFault) => do
    match fault? with
    | none =>
      if c.has 'v' then printLine (arrow source goal)
      return none
    | some fault =>
      return some ("cannot create regular file " ++ named goal ++ ": " ++ Streams.words fault)
  match m.stat source follows with
  | .error fault => return some ("cannot stat " ++ named source ++ ": " ++ Streams.words fault)
  | .ok (origin, .dir) =>
    if deep then copyDirectory c origin goal source
    else return some ("-r not specified; omitting directory " ++ named source)
  | .ok (origin, kind) =>
    match standing m goal with
    | .error .notDirectory =>
      return some ("cannot stat " ++ named goal ++ ": " ++ Streams.words .notDirectory)
    | .ok (some (_, .dir)) =>
      return some ("cannot overwrite directory " ++ named goal ++ " with non-directory")
    | found =>
      let exists_ := match found with
        | .ok (some _) => true
        | _ => false
      if arrival == some origin then
        return some (named source ++ " and " ++ named goal ++ " are the same file")
      if exists_ && c.has 'n' then return none
      if exists_ && c.has 'u' && disk.stampAt origin ≤ disk.stampAt (arrival.getD []) then
          return none
      if c.has 's' || c.has 'l' then
        match disk.makeLink m.here source goal with
        | .ok disk =>
          set (m.withDisk disk)
          finish none
        | .error fault => finish (some fault)
      else match kind with
        | .link target =>
          match disk.makeLink m.here (Octet.ofText target) goal with
          | .ok disk =>
            set (m.withDisk disk)
            finish none
          | .error fault => finish (some fault)
        | .file content _ => finish (← copyBytes keeps origin content goal)
        | .program _ =>
          match disk.makeLink m.here (Disk.pathOf origin) goal with
          | .ok disk =>
            set (m.withDisk disk)
            finish none
          | .error fault => finish (some fault)
        | .device (.stream n) => finish (← writeFile goal (← readAll n))
        | _ => finish (← writeFile goal "")

/-- The options of the programs that copy and move. -/
def copyOptions : Options :=
  { flags := "rRadfpPLHinuvTlsbx", valued := "tS",
    long := [("recursive", 'r'), ("archive", 'a'), ("force", 'f'), ("no-clobber", 'n'),
      ("preserve", 'p'), ("no-dereference", 'P'), ("dereference", 'L'), ("verbose", 'v'),
      ("target-directory", 't'), ("no-target-directory", 'T'), ("update", 'u'), ("link", 'l'),
      ("symbolic-link", 's'), ("interactive", 'i'), ("parents", 'D'), ("backup", 'B'),
      ("suffix", 'S'), ("no-preserve", 'N'), ("reflink", 'Q')] }

/-- Files are copied, with `-r` directories as well. -/
def cp (self : String) (args : List String) : Work Unit :=
  called self copyOptions args fun c => toTarget self c (copyOne c)

/-! ## Moving -/

/-- One file or directory is moved. -/
def moveOne (c : Call) (goal source : String) : Errand := do
  let m ← get
  let disk := m.world.disk
  match m.stat source false with
  | .error fault => return some ("cannot stat " ++ named source ++ ": " ++ Streams.words fault)
  | .ok (origin, kind) =>
    match standing m goal, disk.walk m.here goal false with
    | .error .notDirectory, _ =>
      return some ("cannot stat " ++ named goal ++ ": " ++ Streams.words .notDirectory)
    | _, .error fault =>
      return some ("cannot move " ++ named source ++ " to " ++ named goal ++ ": " ++
          Streams.words fault)
    | found, .ok ⟨place, wantsDir⟩ =>
      let there := match found with
        | .ok (some (_, kind)) => some kind
        | _ => disk.at? place
      let isDir := kind == .dir
      if place == origin then
        return some (named source ++ " and " ++ named goal ++ " are the same file")
      if isDir && (Text.dropHead? origin place).isSome then
        return some ("cannot move " ++ named source ++ " to a subdirectory of itself, " ++
            named goal)
      match there with
      | some .dir =>
        if !isDir then
          return some ("cannot overwrite directory " ++ named goal ++ " with non-directory")
        if !(disk.names place).isEmpty then
          return some ("cannot overwrite " ++ named goal ++ ": " ++ Streams.words .notEmpty)
      | some _ =>
        if isDir then
          return some ("cannot overwrite non-directory " ++ named goal ++ " with directory " ++
            named source)
        if c.has 'n' then return none
        if c.has 'u' && disk.stampAt origin ≤ disk.stampAt place then return none
      | none => pure ()
      let complaint ← change (fun fault => "cannot move " ++ named source ++ " to " ++ named goal ++
          ": " ++ Streams.words fault) fun disk _ => do
        disk.stand place.dropLast
        if wantsDir && !isDir then throw .notDirectory
        return ((disk.prune place).graft origin place).prune origin
      if complaint.isNone && c.has 'v' then printLine ("renamed " ++ arrow source goal)
      return complaint

/-- Files and directories are moved. -/
def mv (self : String) (args : List String) : Work Unit :=
  called self copyOptions args fun c => toTarget self c (moveOne c)

/-! ## Installing -/

/-- One file is copied with rights of its own, after what stood there is removed. -/
def installOne (c : Call) (mode : Nat) (goal source : String) : Errand := do
  let m ← get
  let tell := fun (_ : String) => return ()
  if c.has 'D' then
    let _ ← makeAll none tell goal ((fronts goal).dropLast)
  match m.stat source with
  | .error fault => return some ("cannot stat " ++ named source ++ ": " ++ Streams.words fault)
  | .ok (_, .dir) => return some ("omitting directory " ++ named source)
  | .ok (origin, kind) =>
    let content := match kind with
      | .file content _ => content
      | _ => []
    match ← copyBytes false origin content goal with
    | some fault =>
      return some ("cannot create regular file " ++ named goal ++ ": " ++ Streams.words fault)
    | none =>
      let m ← get
      match m.stat goal with
      | .ok (place, _) =>
        let disk := m.world.disk.setMode place mode
        set (m.withDisk (if c.has 'p' then disk.stamped place (disk.stampAt origin) else disk))
      | .error _ => pure ()
      if c.has 'v' then printLine (arrow source goal)
      return none

/-- Files are copied to where they are used from, or directories are made. -/
def install (self : String) (args : List String) : Work Unit :=
  called self { flags := "dDvcpsTbC", valued := "mtogS", long := [("directory", 'd'), ("mode", 'm'),
    ("verbose", 'v'), ("target-directory", 't'), ("no-target-directory", 'T')] } args fun c => do
    let m ← get
    let mode := ((c.value? 'm').bind fun text => Builtin.rights? m.mask false 0 text).getD 493
    if c.has 'd' then
      let tell := fun (path : String) =>
        if c.has 'v' then printLine (self ++ ": creating directory " ++ named path) else return ()
      forSome self "file operand" (fun path =>
        makeAll (some mode) tell path (fronts path)) c.operands
    else toTarget self c (installOne c mode)

end ApkForge.Script.Program
