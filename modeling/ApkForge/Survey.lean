-- What is known about an app before anything is made: the parts it uses, what they need, and
-- whether it is a robot controller. A report tells this without building.
import ApkForge.Manifest

namespace ApkForge

/-- What is known about an app before anything is made. -/
structure Survey where
  components : ComponentSets
  requirements : Requirements
  robot : Bool
deriving Inhabited

namespace Survey

/-- The needs of an app, collected from the catalog and its extensions. -/
def collectNeeds (catalog : Catalog) (extensions : List ComponentInfo) (used : ComponentSets)
    (usesLocation : Bool) : Except BuildError Requirements :=
  match (Requirements.collectAll catalog.components extensions used usesLocation).run .none with
  | (.ok (), requirements) => .ok requirements
  | (.error e, _) => .error e

/-- A survey of an app. Extensions are looked for in the assets of its project. -/
def take (project : Project) (types : List String) (catalog : Catalog) (companion : Bool) :
    Task BuildError Survey := do
  let components := ComponentSets.partition types catalog
  modify fun w => { w with locator := Locator.ofAssets project.assetsDir }
  let extensions ← Components.extensionInfos components
  let requirements ← collectNeeds catalog extensions components project.usesLocation
  return { components, requirements, robot := Manifest.isRobotBuild components companion }

/-- The manifest of an app. A robot controller is named by `identity`. -/
def manifest (s : Survey) (project : Project) (companion : Bool) (identity : RobotIdentity) :
    Manifest where
  project := project
  components := s.components
  requirements := s.requirements
  companion := companion
  robot := if s.robot then some identity else none

end Survey

/-! ## Reports -/

/-- A report about an app that is not built. -/
structure InspectReport where
  project : String
  mainClass : String
  sources : List String
  builtin : NameSet
  extensions : NameSet
  robot : Bool
  requirements : NameMap RequirementMap
  manifest : Option String
deriving Inhabited

namespace InspectReport

/-- The categories in which something is needed, by their names. -/
def needs (r : Requirements) : NameMap RequirementMap :=
  (Category.all.filter fun c => !(r.of c).isEmpty).foldl
    (fun m c => m.insert c.field (r.of c)) NameMap.empty

/-- The report on a survey. -/
def ofSurvey (s : Survey) (project : Project) (identity : RobotIdentity)
    (companion withManifest : Bool) : InspectReport where
  project := project.name
  mainClass := project.mainClass
  sources := project.sources.map SourceFile.qualifiedName
  builtin := s.components.builtin
  extensions := s.components.extensions
  robot := s.robot
  requirements := needs s.requirements
  manifest :=
    if withManifest then some (s.manifest project companion identity).render else none

/-- A report about an app. -/
def make (project : Project) (types : List String) (catalog : Catalog) (identity : RobotIdentity)
    (companion withManifest : Bool) : Task BuildError InspectReport := do
  let survey ← Survey.take project types catalog companion
  return ofSurvey survey project identity companion withManifest

/-- Names as JSON. -/
def namesJson (names : NameSet) : Json := .arr (names.toList.map Json.str)

/-- Needs by component as JSON. -/
def needsJson (m : RequirementMap) : Json := .obj (m.toList.map fun row => (row.1, namesJson row.2))

/-- The report as JSON. A report without a manifest has no such member. -/
def toJson (r : InspectReport) : Json :=
  .obj ([("project", .str r.project), ("main_class", .str r.mainClass),
    ("sources", .arr (r.sources.map Json.str)), ("builtin", namesJson r.builtin),
    ("extensions", namesJson r.extensions), ("robot", .bool r.robot),
    ("requirements", .obj (r.requirements.toList.map fun row => (row.1, needsJson row.2)))] ++
    (r.manifest.map fun m => ("manifest", Json.str m)).toList)

end InspectReport

end ApkForge
