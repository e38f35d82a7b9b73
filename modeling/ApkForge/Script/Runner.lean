-- Tools that are scripts in the tree. A command starts in its directory, is found as a program, and
-- answers with what it wrote and how it ended, unless it takes too long.
import ApkForge.Environment
import ApkForge.Script.Shell
import ApkForge.Tool

namespace ApkForge.Script

/-- The directory that a command starts in. -/
def startPlace (c : Command) (start : Place) (tree : FileTree) : Except FileFault Place :=
  match c.startIn with
  | none => .ok start
  | some dir =>
    match tree.stat start dir with
    | .ok (place, .dir) => .ok place
    | .ok _ => .error .notDirectory
    | .error fault => .error fault

/-- The machine that a program starts on. -/
def Machine.started (env : Environment) (here : Place) (tree : FileTree) (limit : Option Nat) :
    Machine :=
  let vars := env.vars.map fun v =>
    (Octet.ofText v.1, { value := some (.text (Octet.ofText v.2)), shared := true : Variable })
  let files := [(0, { target := .sink : OpenFile }), (1, { target := .output false : OpenFile }),
    (2, { target := .output true : OpenFile })]
  { world := { disk := { tree }, files, limit }, vars, here }

/-- What was written to one of the outputs of a run. -/
def written (w : World) (id : Nat) : Bytes :=
  Octet.toBytes (String.join ((w.writtenTo id).map Prod.snd))

/-- A command run on the tree: its tools are scripts, or programs of the host. -/
def answer (env : Environment) (c : Command) (limit : Option Nat) (start : Place)
    (tree : FileTree) : Answer × FileTree :=
  let program := Octet.ofText c.program
  let args := c.args.map Octet.ofText
  let image : Except FileFault (Machine × Image) := do
    if (c.program :: c.args).any fun s => s.toList.contains '\x00' then throw .nulInData
    let m := Machine.started env (← startPlace c start tree) tree limit
    return (m, ← Image.findFor m program args)
  match image with
  | .error fault => (.error (.notStarted c.program fault.message), tree)
  | .ok (m, image) =>
    let (result, m) := (begin (run mostDepth) mostPrograms image).run m
    let world := match result with
      | .error .late => m.world
      | _ => m.world.pass (m.world.lastWriter [1, 2])
    let isLate := (limit.map fun limit => decide (limit ≤ world.clock)).getD false ||
      result matches .error .late
    let tree := world.disk.settled
    if isLate then
      match limit with
      | some ms => (.error (.timedOut c.program (ms / 1000)), tree)
      | none => (.error (.notCollected c.program "no end"), tree)
    else
      let exit := match result with
        | .error (.killed _ _) => none
        | _ => some (Int.ofNat (m.status % 256))
      (.ok { stdout := written world 1, stderr := written world 2, exit }, tree)

/-- The tools that are scripts in the tree. They have no state besides the tree. -/
def runner (env : Environment) : Runner Unit :=
  ⟨fun c limit start _ tree => let (a, tree) := answer env c limit start tree; (a, (), tree)⟩

end ApkForge.Script
