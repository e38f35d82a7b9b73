-- The older form in which components declare broadcast receivers: a name and its actions with
-- commas between them. Blank parts after the name count for nothing.
import ApkForge.Text.Blank
import ApkForge.Xml

namespace ApkForge

/-- A receiver and the actions it answers to. -/
structure LegacyReceiver where
  name : String
  actions : List String
deriving DecidableEq, Repr, Inhabited

namespace LegacyReceiver

/-- The receiver in a declaration; none when its name is blank. -/
def parse? (declaration : String) : Option LegacyReceiver :=
  match (Text.split ',' declaration).map Text.trim with
  | [] => none
  | name :: parts => if name == "" then none else some ⟨name, parts.filter fun a => a != ""⟩

/-- The filter that holds the actions; a receiver without actions has none. -/
def filterMarks (actions : List String) : List Mark :=
  if actions.isEmpty then []
  else
    .opens 2 (Tag.inline "intent-filter" []).tight ::
      (actions.map (fun a => .stands 4 (Tag.inline "action" [("android:name", a)])) ++
        [.closes 2 "intent-filter"])

/-- A receiver as marks. -/
def marks (r : LegacyReceiver) : List Mark :=
  .opens 0 (Tag.inline "receiver" [("android:name", r.name)]) ::
    (filterMarks r.actions ++ [.closes 0 "receiver"])

end LegacyReceiver

end ApkForge
