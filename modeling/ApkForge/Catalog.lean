-- What components declare. A catalog lists components with their build info; each declares, by
-- category, the names of what an app that uses it needs.
import ApkForge.Fault
import ApkForge.Format.Json
import ApkForge.Names

namespace ApkForge

/-! ## Categories -/

/-- The kinds of things that a component can need. -/
inductive Category where
  | assets
  | activities
  | broadcastReceivers
  | libraries
  | native
  | permissions
  | broadcastReceiver
deriving DecidableEq, Repr

namespace Category

/-- All categories, in the order in which they are collected. -/
def all : List Category :=
  [.assets, .activities, .broadcastReceivers, .libraries, .native, .permissions,
    .broadcastReceiver]

theorem mem_all (c : Category) : c ∈ all := by cases c <;> decide

/-- The member of the build info that holds a category. -/
def field : Category → String
  | .assets => "assets"
  | .activities => "activities"
  | .broadcastReceivers => "broadcastReceivers"
  | .libraries => "libraries"
  | .native => "native"
  | .permissions => "permissions"
  | .broadcastReceiver => "broadcastReceiver"

/-- The stage that fails when a category cannot be collected. -/
def stage : Category → Stage
  | .assets => .assets
  | .activities => .activities
  | .broadcastReceivers => .broadcastReceivers
  | .libraries => .libraries
  | .native => .nativeLibraries
  | .permissions => .permissions
  | .broadcastReceiver => .broadcastReceiver

/-- A component may leave out only its legacy receivers. -/
def isOptional (c : Category) : Bool := c == .broadcastReceiver

end Category

/-! ## Components -/

/-- The build info of one component: its type and all it declares besides. -/
structure ComponentInfo where
  typeName : String
  fields : List (String × Json)
deriving Inhabited, Repr

namespace ComponentInfo

/-- What a component declares in a category. Of repeated members the last counts. -/
def declared (info : ComponentInfo) (c : Category) : Except CatalogError (Option (List String)) :=
  match info.fields.reverse.lookup c.field with
  | none => if c.isOptional then .ok none else .error (.missingField info.typeName c.field)
  | some value =>
    match value.strings? with
    | some names => .ok (some names)
    | none => .error (.notStrings info.typeName c.field)

/-- The build info in an object. Its type is a text and is given once. -/
def ofJson? : Json → Option ComponentInfo
  | .obj members =>
    match members.filter fun m => m.1 == "type" with
    | [(_, .str typeName)] => some ⟨typeName, members.filter fun m => m.1 != "type"⟩
    | _ => none
  | _ => none

/-- The build infos in an array. -/
def manyOfJson? (v : Json) : Option (List ComponentInfo) := v.items?.bind fun vs => vs.mapM ofJson?

/-- The build infos in a text that holds an array of them. -/
def parseMany (origin text : String) : Except CatalogError (List ComponentInfo) :=
  match (Json.parse? text).bind manyOfJson? with
  | some infos => .ok infos
  | none => .error (.malformed origin)

/-- The build infos in the descriptor of an extension: an array of them, or a single one. -/
def parseDescriptor (origin text : String) : Except CatalogError (List ComponentInfo) :=
  match Json.parse? text with
  | none => .error (.malformed origin)
  | some v =>
    match manyOfJson? v with
    | some infos => .ok infos
    | none =>
      match ofJson? v with
      | some info => .ok [info]
      | none => .error (.malformed origin)

end ComponentInfo

/-- The components that the runtime brings along. -/
structure Catalog where
  components : List ComponentInfo
deriving Inhabited, Repr

namespace Catalog

/-- The catalog in a text. -/
def parse (origin text : String) : Except CatalogError Catalog :=
  (ComponentInfo.parseMany origin text).map Catalog.mk

/-- The types of the catalog. -/
def typeNames (c : Catalog) : NameSet := NameSet.ofList (c.components.map ComponentInfo.typeName)

/-- The catalog has a type. -/
def contains (c : Catalog) (typeName : String) : Bool :=
  c.components.any fun info => info.typeName == typeName

end Catalog

end ApkForge
