-- What an app needs, by category and component. It is collected from the build infos of the
-- components that the app uses; a category that has been collected once is left alone.
import ApkForge.Components
import ApkForge.Total

namespace ApkForge

/-- The names that each component needs in one category. -/
abbrev RequirementMap := NameMap NameSet

/-- The needs of an app in every category. -/
structure Requirements where
  of : Category → RequirementMap

namespace Requirements

/-- Nothing collected yet. -/
def none : Requirements := ⟨fun _ => NameMap.empty⟩

instance : Inhabited Requirements := ⟨none⟩

/-- The needs with one category replaced. -/
def set (r : Requirements) (c : Category) (m : RequirementMap) : Requirements :=
  ⟨fun d => if d = c then m else r.of d⟩

/-- Collecting may stop at a component that declares nothing usable; what was collected before it
stays. -/
abbrev Collect (ε α : Type) := ExceptT ε (StateM Requirements) α

/-- What one component adds to a category. A component must declare the category whether it is used
or not; only one that is used adds names. -/
def collectOne (c : Category) (used : ComponentSets) (info : ComponentInfo) :
    Collect CatalogError Unit := do
  match info.declared c with
  | .error e => throw e
  | .ok Option.none => return ()
  | .ok (some names) =>
    let needed := NameSet.ofList names
    if used.uses info.typeName && !needed.isEmpty then
      modify fun r => r.set c ((r.of c).insert info.typeName needed)

/-- A category collected from all components, unless it has been collected before. -/
def collect (c : Category) (infos : List ComponentInfo) (used : ComponentSets) :
    Collect CatalogError Unit := do
  if ((← get).of c).isEmpty then infos.forM (collectOne c used)

/-- The component that location permissions are booked under. -/
def locationComponent : String := "com.google.appinventor.components.runtime.WebViewer"

/-- The permissions of an app that uses the location. -/
def locationPermissions : List String :=
  ["android.permission.ACCESS_FINE_LOCATION",
    "android.permission.ACCESS_COARSE_LOCATION",
    "android.permission.ACCESS_MOCK_LOCATION"]

/-- The needs with the location permissions added. -/
def addLocation (r : Requirements) : Requirements :=
  let m := r.of .permissions
  let now := (m.get? locationComponent).getD NameSet.empty
  r.set .permissions
    (m.insert locationComponent (now.union (NameSet.ofList locationPermissions)))

/-- One category of a whole collection. -/
def collectCategory (infos : List ComponentInfo) (used : ComponentSets) (usesLocation : Bool)
    (c : Category) : Collect BuildError Unit := do
  ExceptT.adapt (fun e => BuildError.stage c.stage (.catalog e)) (collect c infos used)
  if c == .permissions && usesLocation then modify addLocation

/-- All categories collected, first from the catalog and then from the extensions. -/
def collectAll (builtin extensions : List ComponentInfo) (used : ComponentSets)
    (usesLocation : Bool) : Collect BuildError Unit :=
  Category.all.forM (collectCategory (builtin ++ extensions) used usesLocation)

/-- How many names a category has, counted by component. -/
def count (r : Requirements) (c : Category) : Nat := total ((r.of c).values.map NameSet.size)

/-- The names of a category over all components. -/
def union (r : Requirements) (c : Category) : NameSet :=
  (r.of c).values.foldl NameSet.union NameSet.empty

end Requirements

end ApkForge
