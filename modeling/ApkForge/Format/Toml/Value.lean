-- TOML documents as values, and the rules that say when two definitions in one document agree.
-- A table written by a header, by a dotted key or as a step on the way to another table is kept
-- apart until the document is whole.

namespace ApkForge

/-- A TOML value. Floats and dates are kept only as such; no setting is of these kinds. -/
inductive Toml where
  | str (s : String)
  | int (n : Int)
  | float
  | bool (b : Bool)
  | date
  | array (items : List Toml)
  | table (fields : List (String × Toml))
deriving Inhabited, Repr

namespace Toml

/-- A definition inside a document that is still being read. -/
inductive Node where
  | value (v : Toml)
  | table (implied dotted : Bool) (fields : List (String × Node))
  | tables (items : List (List (String × Node)))
deriving Inhabited

/-- The fields of a table that is still being read. -/
abbrev Fields := List (String × Node)

/-- The fields with one replaced, or added at the end. -/
def setField (key : String) (node : Node) : Fields → Fields
  | [] => [(key, node)]
  | (k, n) :: rest => if k == key then (k, node) :: rest else (k, n) :: setField key node rest

/-- The fields without one. -/
def dropField (key : String) (fields : Fields) : Fields := fields.filter fun f => f.1 != key

/-- Follows a dotted path down and changes the table at its end. Tables on the way that are not
there are made. A dotted key may not enter a table that a header made. -/
def descend (dotted : Bool) (change : Bool → Fields → Option Fields) :
    List String → Bool → Fields → Option Fields
  | [], isDotted, fields => change isDotted fields
  | key :: path, _, fields =>
    match fields.lookup key with
    | none => (descend dotted change path dotted []).map fun inner =>
        setField key (.table true dotted inner) fields
    | some (.value _) => none
    | some (.tables items) =>
      match items.getLast? with
      | none => none
      | some last => (descend dotted change path false last).map fun inner =>
          setField key (.tables (items.dropLast ++ [inner])) fields
    | some (.table implied wasDotted inner) =>
      if dotted && !implied then none
      else (descend dotted change path wasDotted inner).map fun inner =>
        setField key (.table implied wasDotted inner) fields

/-- A key and its value added to a table. A key is given once, and a dotted key only adds to
tables that dotted keys made. -/
def define (fields : Fields) (path : List String) (node : Node) : Option Fields :=
  match path.getLast? with
  | none => none
  | some key =>
    let above := path.dropLast
    descend true (fun isDotted inner =>
      if isDotted == above.isEmpty then none
      else match inner.lookup key with
        | some _ => none
        | none => some (inner ++ [(key, node)])) above false fields

/-- All keys of one table, added in order. -/
def defineAll (fields : Fields) (pairs : List (List String × Toml)) : Option Fields :=
  pairs.foldlM (fun fields pair => define fields pair.1 (.value pair.2)) fields

/-- A table under a header. Only a table that was implied by the headers of others may get its
header later. -/
def addTable (root : Fields) (path : List String) (pairs : List (List String × Toml)) :
    Option Fields :=
  match path.getLast? with
  | none => none
  | some key =>
    descend false (fun _ inner =>
      match inner.lookup key with
      | none => (defineAll [] pairs).map fun fs => inner ++ [(key, .table false false fs)]
      | some (.table true false fs) =>
        (defineAll fs pairs).map fun fs =>
          dropField key inner ++ [(key, .table false false fs)]
      | some _ => none) path.dropLast false root

/-- One more table of an array of tables. -/
def addToTables (root : Fields) (path : List String) (pairs : List (List String × Toml)) :
    Option Fields :=
  match path.getLast? with
  | none => none
  | some key =>
    descend false (fun _ inner =>
      match inner.lookup key with
      | none => (defineAll [] pairs).map fun fs => inner ++ [(key, .tables [fs])]
      | some (.tables items) =>
        (defineAll [] pairs).map fun fs => setField key (.tables (items ++ [fs])) inner
      | some _ => none) path.dropLast false root

mutual

/-- A finished definition. -/
def Node.finish : Node → Toml
  | .value v => v
  | .table _ _ fields => .table (finishFields fields)
  | .tables items => .array (finishTables items)

/-- Finished fields. -/
def finishFields : List (String × Node) → List (String × Toml)
  | [] => []
  | (k, n) :: rest => (k, n.finish) :: finishFields rest

/-- Finished tables of an array. -/
def finishTables : List (List (String × Node)) → List Toml
  | [] => []
  | fs :: rest => .table (finishFields fs) :: finishTables rest

end

/-- A value of a table by its key. -/
def field? (key : String) : Toml → Option Toml
  | .table fields => fields.lookup key
  | _ => none

end Toml

end ApkForge
