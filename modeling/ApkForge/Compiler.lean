-- The compiler of a project's sources: how it is called, and which class files it has to leave.
import ApkForge.Project
import ApkForge.Workspace

namespace ApkForge.Compiler

/-- A text has a line of code: one that begins with an opening bracket. -/
def hasCode (text : String) : Bool :=
  (Text.lines text).any fun line => Text.beginsWith "(" (Text.trimStart line)

/-- Some source has code. Sources after the first with code are not read. -/
def hasUserCode : List SourceFile → Task FilesError Bool
  | [] => return false
  | source :: rest => do
    let text ← Task.readText source.path
    if hasCode text then return true else hasUserCode rest

/-- Paths with colons between them. A path with a colon has no place among them. -/
def classpath (entries : List Path) : Except Cause String :=
  if entries.any fun p => p.text.toList.contains ':' then .error .separatorInPath
  else .ok (Text.join ":" (entries.map Path.text))

/-- The heap of the compiler: what a tool may take less what the machine below it needs, but at
least a megabyte. -/
def heap (toolHeap : Nat) : Nat := max (toolHeap - 200) 1

/-- Compiles sources of a package into a directory. The runtime of the language goes before and
after them. -/
def command (java : Path) (toolHeap : Nat) (classpath : String) (runtime classesDir : Path)
    (package : String) (sources : List SourceFile) : Command where
  program := java.text
  args := ["-Dfile.encoding=UTF-8", "-mx" ++ toString (heap toolHeap) ++ "M", "-cp", classpath,
    "kawa.repl", "-f", runtime.text, "-d", classesDir.text, "-P", package ++ ".", "-C"] ++
    sources.map (fun s => s.path.text) ++ [runtime.text]

/-- The first source that has no class file. -/
def missingClass (tree : FileTree) (start : Place) (sources : List SourceFile)
    (classesDir : Path) : Option SourceFile :=
  sources.find? fun s => !tree.isFile start (classesDir.join s.classFile.text)

end ApkForge.Compiler
