-- Scripts that are traced show what they do on the stream for complaints: commands with their words
-- filled in, and the heads of loops as they are written.
import ApkForge.Script.Fill

namespace ApkForge.Script

open Work

/-- A character makes a rich shell quote a word that it traces. -/
def isTraceQuoted (c : Char) : Bool :=
  " \t\n'\x22\\|&;()<>!\x7b\x7d*[]?^$\x60".toList.contains c

/-- A word as a rich shell traces it. -/
def traced (text : String) : String :=
  if text == "" then "''"
  else if text.toList.any isTraceQuoted || text.toList.head? == some '#' ||
      text.toList.head? == some '~' then Filler.requoted text
  else text

/-- What a traced line begins with. -/
def traceFront (m : Machine) : String :=
  let front := (m.var "PS4").getD "+ "
  if !m.rich then front
  else match front.toList with
    | c :: _ => String.ofList (List.replicate m.level c) ++ front
    | [] => front

/-- A traced script shows a line, where its complaints went before they were redirected. -/
def traceLine (streams : List (Nat × Nat)) (text : String) : Work Unit := do
  let m ← get
  if m.has "xtrace" then
    set { m with streams }
    complain (traceFront m ++ text)
    modify fun now => { now with streams := m.streams }

/-- A line of a rich shell about what is no simple command. -/
def traceHead (text : String) : Work Unit := do
  let m ← get
  if m.rich then traceLine m.streams text

/-- The words of a loop as they are written. -/
def wordsWritten (words : List Word) : String := Text.join " " (words.map Word.source)

end ApkForge.Script
