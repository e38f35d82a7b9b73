-- Converting code. Libraries may be converted one by one beforehand and kept in a cache by their
-- content, so that a later merge finds them there.
import ApkForge.Digest.Sha256
import ApkForge.Session

namespace ApkForge

/-- How code is converted: with which tool, how much memory and time, and which cache. -/
structure DexMerger where
  java : Path
  dxJar : Path
  heap : Nat
  seconds : Nat
  cacheDir : Option Path
deriving DecidableEq, Repr, Inhabited

namespace DexMerger

variable {ρ : Type}

/-- The key of a content: the first sixteen digits of its digest. -/
def contentKey (content : Bytes) : String :=
  String.ofList ((Sha256.hex (Sha256.digest content)).toList.take 16)

/-- The key of a library. -/
def cacheKey (jar : Path) : Task BuildError String := do
  let content ← Task.explain (fun e => .stage .dx (.files e)) (Task.readBytes jar)
  return contentKey content

/-- Converts inputs into one output. -/
def command (m : DexMerger) (output : Path) (inputs : List Path) : Command where
  program := m.java.text
  args := ["-Xmx" ++ toString m.heap ++ "m", "-jar", m.dxJar.text, "--dex",
    "--output=" ++ output.text] ++ inputs.map Path.text

/-- The place of a library in the cache. -/
def cachedFile (cacheDir : Path) (key : String) : Path := cacheDir.join (key ++ ".jar")

/-- The cache takes in files with the extension of libraries. -/
def isCacheable (input : Path) : Step ρ Bool := do
  let s ← MonadState.get
  return s.workspace.tree.isFile s.workspace.start input && input.extension? == some "jar"

/-- What stands for an input in a merge: what the cache holds for it, made now if need be, or else
the input itself. -/
def prepare (m : DexMerger) (runner : Runner ρ) (input : Path) : Step ρ Path := do
  match m.cacheDir with
  | none => return input
  | some cacheDir =>
    if !(← isCacheable input) then return input
    else
      let cached := cachedFile cacheDir (← Step.work (cacheKey input))
      if ← Step.work (Task.isFile cached) then return cached
      else
        Step.onFiles .dx (Task.makeDirs cacheDir)
        let output ← Step.call runner .dx (m.command cached [input]) m.seconds
        if output.success && (← Step.work (Task.isFile cached)) then return cached
        else return input

/-- Inputs prepared and merged into one output; false when the tool says no. -/
def merge (m : DexMerger) (runner : Runner ρ) (output : Path) (inputs : List Path) :
    Step ρ Bool :=
  Step.noting (.merged output inputs) do
    let prepared ← inputs.mapM (m.prepare runner)
    let result ← Step.call runner .dx (m.command output prepared) m.seconds
    return result.success

end DexMerger

end ApkForge
