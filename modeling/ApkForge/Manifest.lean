-- The manifest of an app: what it is called, what it needs, and which screens it has. It is built
-- as a list of marks, part by part, and then written.
import ApkForge.Config
import ApkForge.Manifest.LegacyReceiver
import ApkForge.Manifest.RobotApplication
import ApkForge.Project
import ApkForge.Requirements

namespace ApkForge

/-- What a manifest is made of. A robot controller brings its own names. -/
structure Manifest where
  project : Project
  components : ComponentSets
  requirements : Requirements
  companion : Bool
  robot : Option RobotIdentity
deriving Inhabited

namespace Manifest

/-! ## Decisions -/

/-- The component whose use makes an app a robot controller. -/
def robotComponent : String := "com.google.appinventor.components.runtime.FtcRobotController"

/-- The component that reads tags near the device. -/
def nearFieldComponent : String := "com.google.appinventor.components.runtime.NearField"

/-- The component that needs a later system. -/
def firebaseComponent : String := "com.google.appinventor.components.runtime.FirebaseDB"

/-- The app is a robot controller. A companion app never is. -/
def isRobotBuild (components : ComponentSets) (companion : Bool) : Bool :=
  !companion && components.hasBuiltin robotComponent

/-- A name with each ampersand spelt out. -/
def cleanName (name : String) : String :=
  Text.join "and" (Text.split '&' name)

/-- The app reads tags near the device. -/
def nearField (m : Manifest) : Bool := !m.companion && m.components.hasBuiltin nearFieldComponent

/-- The package that the manifest names. -/
def package (m : Manifest) : String :=
  match m.robot with
  | some robot => robot.package
  | none => m.project.packageName

/-- The version code that the manifest names. -/
def versionCode (m : Manifest) : String :=
  match m.robot with
  | some robot => robot.versionCode
  | none => m.project.versionCodeOrDefault

/-- The version name that the manifest names. -/
def versionName (m : Manifest) : String :=
  match m.robot with
  | some robot => robot.versionName
  | none => (m.project.versionName.map cleanName).getD "1.0"

/-- The oldest system that the app runs on. -/
def minSdk (m : Manifest) : String :=
  match m.robot with
  | some robot => robot.minSdk
  | none => if !m.companion && m.components.hasBuiltin firebaseComponent then "10" else "4"

/-- The name that users read: that of the app, or of the project when it has none. -/
def label (m : Manifest) : String :=
  ((m.project.appName.map cleanName).filter fun n => n != "").getD m.project.name

/-- The class of the application. -/
def application (m : Manifest) : String :=
  if m.companion then "com.google.appinventor.components.runtime.ReplApplication"
  else "com.google.appinventor.components.runtime.multidex.MultiDexApplication"

/-! ## Parts -/

/-- A mark that stands alone and has attributes beside its name. -/
def stands (indent : Nat) (name : String) (attrs : List (String × String)) : Mark :=
  .stands indent (Tag.inline name attrs)

/-- A mark that only names something. -/
def naming (indent : Nat) (tag name : String) : Mark := stands indent tag [("android:name", name)]

/-- The tag of the whole manifest. -/
def manifestTag (m : Manifest) : Tag :=
  Tag.inline "manifest" [Mark.androidSpace, ("package", m.package),
    ("android:versionCode", m.versionCode), ("android:versionName", m.versionName)]

/-- The features that a companion app can do without. -/
def softFeatures : List String :=
  ["android.hardware.bluetooth", "android.hardware.location", "android.hardware.telephony",
    "android.hardware.location.network", "android.hardware.location.gps",
    "android.hardware.microphone", "android.hardware.touchscreen", "android.hardware.camera",
    "android.hardware.camera.autofocus"]

/-- The features of a companion app. -/
def companionFeatures : List Mark :=
  softFeatures.map (fun f =>
    stands 2 "uses-feature" [("android:name", f), ("android:required", "false")]) ++
    [naming 2 "uses-feature" "android.hardware.wifi"]

/-- The features of a robot controller. -/
def robotFeatures : List Mark :=
  [naming 2 "uses-feature" "android.hardware.usb.accessory",
    stands 2 "uses-feature" [("android:glEsVersion", "0x00020000")],
    naming 2 "uses-feature" "android.hardware.camera",
    naming 2 "uses-feature" "android.hardware.bluetooth"]

/-- The features that the app uses. -/
def features (m : Manifest) : List Mark :=
  (if m.companion then companionFeatures else []) ++
    (if m.robot.isSome then robotFeatures else [])

/-- The permissions that the app asks for. A companion app also reads the log. -/
def permissions (m : Manifest) : List String :=
  (m.requirements.union .permissions).toList ++
    (if m.companion then ["android.permission.READ_LOGS"] else [])

/-- The systems that the app is made for. -/
def systems (m : Manifest) : List Mark :=
  stands 2 "uses-sdk" [("android:minSdkVersion", m.minSdk)] ::
    (m.robot.map fun r => stands 2 "uses-sdk" [("android:targetSdkVersion", r.targetSdk)]).toList

/-- The class of the screen of a source. That of the main source is named within the package. -/
def screenClass (m : Manifest) (s : SourceFile) : String :=
  if m.project.isMain s then "." ++ m.project.className else s.qualifiedName

/-- The tag of the screen of a source. The main screen may be kept single. -/
def screenTag (m : Manifest) (s : SourceFile) : Tag :=
  let mode :=
    if m.project.isMain s && m.nearField then [("android:launchMode", "singleTask")]
    else if m.project.isMain s && m.companion then [("android:launchMode", "singleTop")]
    else []
  (Tag.inline "activity" (("android:name", m.screenClass s) :: mode ++
    [("android:windowSoftInputMode", "stateHidden"),
      ("android:configChanges", "orientation|keyboardHidden|keyboard")])).tight

/-- The filter by which a screen is started; the main screen is started from the desk. -/
def startFilter (isMain : Bool) : List Mark :=
  .opens 6 (Tag.inline "intent-filter" []).tight ::
    naming 8 "action" "android.intent.action.MAIN" ::
    ((if isMain then [naming 8 "category" "android.intent.category.LAUNCHER"] else []) ++
      [.closes 6 "intent-filter"])

/-- The filter by which a tag near the device starts the main screen. -/
def nearFieldFilter : List Mark :=
  [.opens 6 (Tag.inline "intent-filter" []).tight,
    naming 8 "action" "android.nfc.action.NDEF_DISCOVERED",
    naming 8 "category" "android.intent.category.DEFAULT",
    stands 8 "data" [("android:mimeType", "text/plain")],
    .closes 6 "intent-filter"]

/-- The screen of a source. -/
def screen (m : Manifest) (s : SourceFile) : List Mark :=
  let isMain := m.project.isMain s
  .opens 4 (m.screenTag s) ::
    (startFilter isMain ++ (if m.nearField && isMain then nearFieldFilter else []) ++
      [.closes 4 "activity"])

/-- The tag of an application that is no robot controller. -/
def applicationTag (m : Manifest) : Tag :=
  Tag.inline "application" [("android:debuggable", "false"), ("android:label", m.label),
    ("android:icon", "@drawable/ya"), ("android:name", m.application)]

/-- The application with its screens, still open. -/
def applicationMarks (m : Manifest) : List Mark :=
  match m.robot with
  | some _ => RobotApplication.marks
  | none => .opens 2 m.applicationTag :: m.project.sources.flatMap m.screen

/-- The markup that components declare in a category. -/
def fragments (m : Manifest) (c : Category) : List Mark :=
  (m.requirements.of c).values.flatMap fun names => names.toList.map Mark.verbatim

/-- The receivers declared in the older form. -/
def legacyReceivers (m : Manifest) : List LegacyReceiver :=
  (m.requirements.union .broadcastReceiver).toList.filterMap LegacyReceiver.parse?

/-! ## The whole -/

/-- The manifest as marks. -/
def marks (m : Manifest) : List Mark :=
  .opens 0 m.manifestTag ::
    (m.features ++ m.permissions.map (naming 2 "uses-permission") ++ m.systems ++
      m.applicationMarks ++ m.fragments .activities ++ m.fragments .broadcastReceivers ++
      m.legacyReceivers.flatMap LegacyReceiver.marks ++
      [.closes 2 "application", .closes 0 "manifest"])

/-- The manifest as a document. -/
def render (m : Manifest) : String := Mark.document m.marks

/-- The manifest written to a file. -/
def writeTo (m : Manifest) (path : Path) : Task BuildError Unit :=
  Task.explain (fun e => .stage .manifest (.files e)) (Task.writeText path m.render)

end Manifest

end ApkForge
