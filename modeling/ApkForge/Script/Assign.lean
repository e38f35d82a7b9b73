-- Giving values to variables: texts, elements, and whole lists and tables. What is given is filled
-- in first and then put into the variable in the way that it takes.
import ApkForge.Script.Fill

namespace ApkForge.Script

open Work

/-- What a variable is given: a text, or elements of which some name their keys. -/
inductive Given where
  | text (s : String)
  | elements (items : List (Option String × String))
deriving Inhabited

/-- A value for a variable or for an element of it, filled in. It may be added to what is there. -/
structure Setting where
  name : String
  key : Option String := none
  appends : Bool := false
  given : Given
deriving Inhabited

namespace Setting

/-- The elements of a group filled in. One without a key may become several. -/
def items (f : Filler) : List (Option Word × Word) → Work (List (Option String × String))
  | [] => return []
  | (some key, value) :: rest => do
    let key ← f.one key
    let text ← f.valueOf value
    return (some key, text) :: (← items f rest)
  | (none, value) :: rest => do
    let texts ← f.args [value]
    return texts.map (fun t => (none, t)) ++ (← items f rest)

/-- An assignment filled in. -/
def fill (f : Filler) : Assigned → Work Setting
  | .mk name index appends value => do
    let key ← match index with
      | some word => do pure (some (← f.one word))
      | none => pure none
    match value with
    | [.elements list] => return { name, key, appends, given := .elements (← items f list) }
    | word => return { name, key, appends, given := .text (← f.valueOf word) }

/-- An assignment as it is written. -/
def written (s : Setting) : String :=
  let value := match s.given with
    | .text t => t
    | .elements list => "(" ++ Text.join " " (list.map Prod.snd) ++ ")"
  let key := match s.key with
    | some key => "[" ++ key ++ "]"
    | none => ""
  s.name ++ key ++ (if s.appends then "+=" else "=") ++ value

/-- The elements of a list after some more, of which each without a key follows the one before. -/
def extend (name : String) : Nat → List (Nat × String) → List (Option String × String) →
    Work (List (Nat × String))
  | _, list, [] => return list
  | next, list, (key?, text) :: rest => do
    let index ← match key? with
      | some key => do pure (← Filler.count key).toNat
      | none => pure next
    extend name (index + 1) (Machine.insertAt index text list) rest

/-- A text that is added to another, or to a number. -/
def sumWith (v : Variable) (appends : Bool) (old text : String) : Work String := do
  if v.whole then
    let n ← Filler.count text
    let before ← if appends then Filler.count old else pure 0
    return toString (before + n)
  else return if appends then old ++ text else text

/-- The variable gets what it is given. -/
def apply (s : Setting) : Work Unit := do
  let m ← get
  let v := (m.var? s.name).getD {}
  if v.fixed then assign s.name ""
  match s.given, s.key with
  | .elements list, _ =>
    match v.value with
    | some (.table entries) =>
      let base := if s.appends then entries else []
      let table := list.foldl (fun table e => match e.1 with
        | some key => Machine.setEntry key e.2 table
        | none => table) base
      modify fun m => m.putValue s.name (.table table)
    | held =>
      let base := match held with
        | some (.list elements) => elements
        | some (.text t) => [(0, t)]
        | _ => []
      let base := if s.appends then base else []
      let next := match base.getLast? with
        | some e => e.1 + 1
        | none => 0
      let elements ← extend s.name next base list
      modify fun m => m.putValue s.name (.list elements)
  | .text text, some key =>
    let key ← Filler.keyOf s.name key
    let old := (v.value.bind fun value => value.element? key).getD ""
    let text ← sumWith v s.appends old text
    modify fun m => m.putAt s.name key text
  | .text text, none =>
    let text ← sumWith v s.appends (m.value s.name) text
    assign s.name text

/-- Assignments one after the other, each filled in when those before are made. -/
def applyAll (f : Filler) : List Assigned → Work (List Setting)
  | [] => return []
  | a :: rest => do
    let s ← fill f a
    s.apply
    return s :: (← applyAll f rest)

end Setting

/-- An argument of a command that declares variables: a text, or an assignment. -/
inductive Argument where
  | text (s : String)
  | setting (s : Setting)
deriving Inhabited

/-- The text of an argument. -/
def Argument.written : Argument → String
  | .text s => s
  | .setting s => s.written

end ApkForge.Script
