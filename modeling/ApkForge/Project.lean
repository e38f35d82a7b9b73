-- A project: its properties and its sources. The properties are lines of keys and values; loading
-- checks them in a fixed order and names the first thing that is missing.
import ApkForge.Names
import ApkForge.Sources

namespace ApkForge

/-! ## Properties -/

/-- Keys with their values. -/
abbrev Properties := NameMap String

namespace Properties

/-- The value of a property with its escapes resolved. A backslash at the end stands for nothing. -/
def unescape : List Char → List Char
  | [] => []
  | ['\\'] => []
  | '\\' :: 'n' :: rest => '\n' :: unescape rest
  | '\\' :: 't' :: rest => '\t' :: unescape rest
  | '\\' :: c :: rest => c :: unescape rest
  | c :: rest => c :: unescape rest

/-- The key of a line up to the first separator that is not escaped, and the text after the
separator if there is one. -/
def cutKey : List Char → List Char × Option (List Char)
  | [] => ([], none)
  | ['\\'] => ([], none)
  | '\\' :: c :: rest => let (key, value) := cutKey rest; (c :: key, value)
  | c :: rest =>
    if c == '=' || c == ':' then ([], some rest)
    else let (key, value) := cutKey rest; (c :: key, value)

/-- A line as a property. Blank lines and comments are none. -/
def ofLine? (line : String) : Option (String × String) :=
  match Text.dropBlank line.toList with
  | [] => none
  | c :: rest =>
    if c == '#' || c == '!' then none
    else
      let (key, value) := cutKey (c :: rest)
      let value := unescape (Text.trimChars (value.getD []))
      some (String.ofList (Text.trimChars key), String.ofList value)

/-- The properties in a text. Of two lines with one key the later counts. -/
def parse (text : String) : Properties :=
  (Text.lines text).foldl (fun props line =>
    match ofLine? line with
    | some (key, value) => props.insert key value
    | none => props) NameMap.empty

/-- The value of a property; an empty value counts as none. -/
def given? (props : Properties) (key : String) : Option String :=
  (props.get? key).filter fun value => value != ""

end Properties

/-! ## Projects -/

/-- A project as it is built. -/
structure Project where
  name : String
  mainClass : String
  sources : List SourceFile
  assetsDir : Path
  buildDir : Path
  icon : Option String
  versionCode : Option String
  versionName : Option String
  appName : Option String
  usesLocation : Bool
deriving DecidableEq, Repr, Inhabited

namespace Project

/-- The package of the main class. -/
def packageName (p : Project) : String := packageOf p.mainClass

/-- The main class without its package. -/
def className (p : Project) : String := unitOf p.mainClass

/-- The version code; a project without one is at its first. -/
def versionCodeOrDefault (p : Project) : String := p.versionCode.getD "1"

/-- A source is that of the main class. -/
def isMain (p : Project) (s : SourceFile) : Bool := s.qualifiedName == p.mainClass

/-- The directory of the properties. -/
def propertiesDir (root : Path) : Path := root.join "youngandroidproject"

/-- The file of the properties. -/
def propertiesFile (root : Path) : Path := (propertiesDir root).join "project.properties"

/-- A property that must be given. -/
def required (props : Properties) (key : String) : Except ProjectError String :=
  match props.given? key with
  | some value => .ok value
  | none => .error (.missingProperty key)

/-- A directory of the project, named relative to the properties. -/
def directory (root : Path) (props : Properties) (key fallback : String) : Path :=
  ((propertiesDir root).join ((props.given? key).getD fallback)).normalize

/-- A text equals a word whatever the case of ASCII letters. -/
def saysWord (word text : String) : Bool := text.toLower == word

/-- The project below a directory. -/
def load (tree : FileTree) (start : Place) (root : Path) : Except ProjectError Project := do
  let file := propertiesFile root
  if !tree.isFile start file then throw (.propertiesNotFound file)
  let text ← (tree.readText start file).mapError fun fault => .files (.notRead file fault)
  let props := Properties.parse text
  let mainClass ← required props "main"
  if !mainClass.toList.contains '.' then throw (.invalidMainClass mainClass)
  let sourceDir := directory root props "source" "../src"
  let sources ← (SourceFile.discover tree start sourceDir).mapError ProjectError.files
  if !sources.any fun s => s.qualifiedName == mainClass then throw (.mainSourceMissing mainClass)
  let name ← required props "name"
  return {
    name, mainClass, sources
    assetsDir := directory root props "assets" "../assets"
    buildDir := directory root props "build" "../build"
    icon := props.given? "icon"
    versionCode := props.given? "versioncode"
    versionName := props.given? "versionname"
    appName := props.given? "aname"
    usesLocation := ((props.given? "useslocation").map (saysWord "true")).getD false }

end Project

end ApkForge
