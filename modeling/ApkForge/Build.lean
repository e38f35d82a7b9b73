-- A build: from the sources and components of a project to a signed archive, stage by stage. Each
-- stage says what it does, works on the tree or calls a tool, and the first failure ends the build.
import ApkForge.Animation
import ApkForge.Attachments
import ApkForge.Compiler
import ApkForge.Dex.Merge
import ApkForge.Dex.Plan
import ApkForge.Icon
import ApkForge.Layout
import ApkForge.Packaging
import ApkForge.RobotFiles
import ApkForge.Survey
import ApkForge.Toolchain

namespace ApkForge

/-! ## What a build is given -/

/-- What all builds share. -/
structure Services (ρ : Type) where
  runner : Runner ρ
  env : Environment
  toolchain : Toolchain
  timeouts : Timeouts
  dexPolicy : DexPolicy
  robot : RobotIdentity

/-- The policy of conversion that a configuration sets. -/
def Config.dexPolicy (c : Config) : DexPolicy := ⟨c.firstDexCap, c.dex.startupLibraries⟩

/-- The services that a configuration sets up. -/
def Services.ofConfig {ρ : Type} (runner : Runner ρ) (env : Environment) (toolchain : Toolchain)
    (c : Config) : Services ρ where
  runner := runner
  env := env
  toolchain := toolchain
  timeouts := c.timeouts.resolve
  dexPolicy := c.dexPolicy
  robot := c.robot.identity

/-- What is chosen for one build. -/
structure BuildOptions where
  companion : Bool
  keystore : Path
  heap : Nat
  dexCache : Option Path
deriving DecidableEq, Repr, Inhabited

/-- What a build leaves. -/
structure Artifacts where
  apk : Path
  dexFiles : List Path
  robot : Bool
deriving DecidableEq, Repr, Inhabited

/-- A build that is under way: what it was given and what is known about its app. -/
structure Build where
  project : Project
  options : BuildOptions
  survey : Survey
deriving Inhabited

/-- The libraries of an app: those of its extensions and those that its components need. -/
structure Libraries where
  extensionJars : List Path
  componentJars : List Path
deriving DecidableEq, Repr, Inhabited

namespace Build

variable {ρ : Type}

/-- Where a build puts what it makes. -/
def layout (b : Build) : BuildLayout := ⟨b.project.buildDir⟩

/-! ## Preparing -/

/-- The catalog, read once a session. -/
def catalog : Step ρ Catalog := do
  match (← get).catalog with
  | some catalog => return catalog
  | none =>
    let catalog ← Step.work Components.loadCatalog
    modify fun s => { s with catalog := some catalog }
    return catalog

/-- The start of a build. -/
def prepare (project : Project) (types : List String) (options : BuildOptions) :
    Step ρ Build := do
  let catalog ← catalog
  let survey ← Step.work (Survey.take project types catalog options.companion)
  return { project, options, survey }

/-- The icon is installed. -/
def installIcon (b : Build) : Step ρ Unit := do
  Step.onFiles .resources (Task.makeDirs b.layout.root)
  Step.say "Preparing application icon"
  let _ ← Step.work (Icon.prepare b.project b.layout.drawable)
  Step.reach 15

/-- The files of a robot controller are copied. -/
def copyRobotFiles (b : Build) : Task BuildError Unit := do
  let _ ← RobotFiles.copyResources b.layout.res
  let _ ← RobotFiles.copyAssets b.project.assetsDir
  let _ ← RobotFiles.copyNativeLibraries b.layout.libs

/-- The animations and, for a robot controller, its files. -/
def addResources (b : Build) : Step ρ Unit := do
  Step.say "Creating animation xml"
  Step.work (Animation.writeAll b.layout.anim)
  if b.survey.robot then Step.work b.copyRobotFiles

/-- The manifest is written. -/
def writeManifest (s : Services ρ) (b : Build) : Step ρ Unit := do
  Step.say "Generating manifest file"
  let manifest := b.survey.manifest b.project b.options.companion s.robot
  Step.work (manifest.writeTo b.layout.manifest)
  Step.reach 20

/-- The files of components are copied. -/
def attach (b : Build) : Step ρ Unit := do
  let needs := b.survey.requirements
  let sets := b.survey.components
  Step.say "Attaching native libraries"
  Step.work (Attachments.nativeLibraries (needs.of .native) sets b.layout.libs)
  Step.say "Attaching component assets"
  Step.work (Attachments.assets (needs.of .assets) sets b.project.assetsDir)

/-! ## Compiling -/

/-- The jar of the Android system, against which an app is built. -/
def androidJar : String := "files/android.jar"

/-- The jar of the compiler. -/
def kawaJar : String := "files/kawa.jar"

/-- The jar that reports crashes. -/
def acraJar : String := "files/acra-4.4.0.jar"

/-- The jar of the components that are built in. -/
def componentsJar : String := "files/AndroidRuntime.jar"

/-- A path added at the end, unless one that names the same file is there. -/
def addPath (paths : List Path) (p : Path) : List Path :=
  if paths.any p.same then paths else paths ++ [p]

/-- The jars of extensions, each once. -/
def extensionJars : List String → List Path → Task Cause (List Path)
  | [], found => return found
  | typeName :: rest, found => do
    let jar ← Task.explain .locator (Locator.runtimeJar typeName)
    extensionJars rest (addPath found jar)

/-- The jars that components need, each once. -/
def componentJars (sets : ComponentSets) :
    List (String × String) → List Path → Task Cause (List Path)
  | [], found => return found
  | (typeName, name) :: rest, found => do
    let (jar, _) ← Components.resolve sets typeName name
    componentJars sets rest (addPath found jar)

/-- The libraries of an app. -/
def findLibraries (b : Build) : Task Cause Libraries := do
  let sets := b.survey.components
  let extensionJars ← extensionJars sets.extensions.toList []
  let componentJars ←
    componentJars sets (Attachments.entries (b.survey.requirements.of .libraries)) []
  return { extensionJars, componentJars }

/-- All that sources are compiled against, in order, with the libraries among it. -/
def compileAgainst (b : Build) : Task Cause (List Path × Libraries) := do
  let runtime ← [kawaJar, acraJar, componentsJar].mapM fun jar =>
    Task.explain .resource (Resources.get jar)
  let libraries ← b.findLibraries
  let android ← Task.explain .resource (Resources.get androidJar)
  return (runtime ++ libraries.extensionJars ++ libraries.componentJars ++ [android], libraries)

/-- The package that classes are compiled into. -/
def package (s : Services ρ) (b : Build) : String :=
  if b.survey.robot then s.robot.package else b.project.packageName

/-- The call of the compiler, with all it needs found, and the libraries it compiles against. -/
def compilerCall (s : Services ρ) (b : Build) : Step ρ (Command × Libraries) := do
  if !(← Step.onFiles .compile (Compiler.hasUserCode b.project.sources)) then throw .noUserCode
  let (entries, libraries) ← Step.within .compile b.compileAgainst
  let classpath ← Step.within .compile (Compiler.classpath entries)
  let java ← Step.tool .compile fun tree start => s.toolchain.javaTool s.env tree start "java"
  let runtime ← Step.resource .compile "files/runtime.scm"
  Step.onFiles .compile (Task.makeDirs b.layout.classes)
  return (Compiler.command java b.options.heap classpath runtime b.layout.classes (b.package s)
    b.project.sources, libraries)

/-- The sources are compiled. The exit of the compiler is not asked: what counts is that every
source has its class file. -/
def compileSources (s : Services ρ) (b : Build) : Step ρ Libraries := do
  Step.say "Compiling source files"
  let (command, libraries) ← b.compilerCall s
  let output ← Step.holding b.options.heap
    (Step.call s.runner .compile command s.timeouts.compile)
  Step.record (.noted (.output (Utf8.decodeLossy output.stderr)))
  Step.sayTook "Kawa compile"
  let w := (← get).workspace
  match Compiler.missingClass w.tree w.start b.project.sources b.layout.classes with
  | some source => throw (.compilation source.unitName)
  | none =>
    Step.reach 35
    return libraries

/-- The packager that the host runs. -/
def aapt (s : Services ρ) (stage : Stage) : Step ρ Path := do
  let logical ← Step.tool stage fun _ _ => s.toolchain.host.aapt
  Step.resource stage logical

/-- The resource classes of the packages are generated. -/
def generateResourceClasses (s : Services ρ) (b : Build) : Step ρ Unit := do
  let aapt ← aapt s .aapt
  let android ← Step.resource .aapt androidJar
  Step.onFiles .aapt (Task.makeDirs b.layout.gen)
  RobotFiles.resourcePackages.forM fun package => do
    let command := RobotFiles.generateCommand aapt android b.layout.res b.layout.manifest
      b.layout.gen package
    Step.callSuccessfully s.runner .aapt command s.timeouts.package
    Step.sayTook "AAPT"

/-- The resource classes of a robot controller are generated and compiled. -/
def compileResourceClasses (s : Services ρ) (b : Build) : Step ρ Unit := do
  Step.say "Generating R.java files"
  b.generateResourceClasses s
  Step.say "Compiling R.java files"
  let javac ← Step.tool .javac fun tree start => s.toolchain.javaTool s.env tree start "javac"
  let sources := RobotFiles.resourcePackages.map (RobotFiles.resourceClassFile b.layout.gen)
  Step.callSuccessfully s.runner .javac
    (RobotFiles.compileCommand javac b.layout.classes sources) s.timeouts.compile

/-! ## Converting -/

/-- The first container of code. -/
def primaryDex (b : Build) : Path := b.layout.tmp.join "classes.dex"

/-- The second container of code. -/
def secondaryDex (b : Build) : Path := b.layout.tmp.join "classes2.dex"

/-- The containers made by a plan; none when the first cannot be made. -/
def convertBy (s : Services ρ) (b : Build) (merger : DexMerger) (plan : DexPlan) :
    Step ρ (Option (List Path)) := do
  Step.reach 50
  if !(← merger.merge s.runner b.primaryDex plan.primary) then return none
  else if !plan.needsSecondary then return some [b.primaryDex]
  else
    Step.reach 60
    let merged ← merger.merge s.runner b.secondaryDex plan.secondary
    Step.reach 75
    if merged then return some [b.primaryDex, b.secondaryDex]
    else throw (.stage .dx .secondDexFailed)

/-- The containers made in the first attempt or else in the second. -/
def convertInTwo (s : Services ρ) (b : Build) (merger : DexMerger)
    (base libraries : List Path) : Step ρ (List Path) := do
  let plan := DexPlan.make base libraries s.dexPolicy
  match ← b.convertBy s merger (plan .full) with
  | some files => return files
  | none =>
    match ← b.convertBy s merger (plan .conservative) with
    | some files => return files
    | none => throw (.stage .dx .dexFailed)

/-- The classes and libraries are converted; the containers of code. -/
def convert (s : Services ρ) (b : Build) (libraries : Libraries) : Step ρ (List Path) := do
  Step.say "Invoking DX"
  let runtime ← [componentsJar, kawaJar, acraJar].mapM (Step.resource .dx)
  let java ← Step.tool .dx fun tree start => s.toolchain.javaTool s.env tree start "java"
  let dxJar ← Step.resource .dx "files/dx.jar"
  Step.onFiles .dx (Task.makeDirs b.layout.tmp)
  let merger : DexMerger :=
    { java, dxJar, heap := b.options.heap, seconds := s.timeouts.dex
      cacheDir := b.options.dexCache }
  let files ← Step.holding b.options.heap
    (b.convertInTwo s merger (b.layout.classes :: runtime)
      (libraries.componentJars ++ libraries.extensionJars))
  Step.sayTook "DX"
  Step.reach 85
  return files

/-! ## Packaging -/

/-- The resources are packed; the archive of resources. -/
def packResources (s : Services ρ) (b : Build) : Step ρ Path := do
  Step.say "Invoking AAPT"
  Step.onFiles .aapt (Task.makeDirs b.project.assetsDir)
  Step.onFiles .aapt (Task.makeDirs b.layout.deploy)
  Step.onFiles .aapt (Task.makeDirs b.layout.libs)
  let aapt ← aapt s .aapt
  let android ← Step.resource .aapt androidJar
  let output := b.layout.intermediateArchive b.project.name
  let command := Packaging.packCommand aapt b.layout.manifest b.layout.res b.project.assetsDir
    android output b.layout.libs
  Step.callSuccessfully s.runner .aapt command s.timeouts.package
  Step.sayTook "AAPT"
  Step.reach 90
  return output

/-- The archive of the app. -/
def apk (b : Build) : Path := b.layout.archive b.project.name

/-- The code is added to a copy of the archive of resources. -/
def addCode (s : Services ρ) (b : Build) (intermediate : Path) (dexFiles : List Path) :
    Step ρ Unit := do
  Step.say "Invoking ApkBuilder"
  Step.onFiles .apkBuilder (Task.copy intermediate b.apk)
  let aapt ← aapt s .apkBuilder
  let command := Packaging.sealCommand aapt b.apk b.layout.tmp (dexFiles.filterMap Path.name?)
  Step.callSuccessfully s.runner .apkBuilder command s.timeouts.package
  Step.reach 95

/-- The archive is signed. -/
def sign (s : Services ρ) (b : Build) : Step ρ Unit := do
  Step.say "Signing the apk file"
  let jarsigner ← Step.tool .jarSigner fun tree start =>
    s.toolchain.javaTool s.env tree start "jarsigner"
  let key ← Step.within .jarSigner
    (Task.explain .resource (Packaging.signingKey b.survey.robot b.options.keystore))
  Step.callSuccessfully s.runner .jarSigner (Packaging.signCommand jarsigner key b.apk)
    s.timeouts.sign

/-- The archive is replaced by an aligned copy. -/
def align (s : Services ρ) (b : Build) : Step ρ Unit := do
  Step.say "ZipAligning the apk file"
  let logical ← Step.tool .zipAlign fun _ _ => s.toolchain.host.zipalign
  let zipalign ← Step.resource .zipAlign logical
  let aligned := b.layout.tmp.join "zipaligned.apk"
  Step.callSuccessfully s.runner .zipAlign (Packaging.alignCommand zipalign b.apk aligned)
    s.timeouts.sign
  Step.onFiles .zipAlign (Task.copy aligned b.apk)
  Step.sayTook "ZIPALIGN"
  Step.reach 100

/-! ## The whole -/

/-- The stages of a prepared build. -/
def stages (s : Services ρ) (b : Build) : Step ρ Artifacts := do
  b.installIcon
  b.addResources
  b.writeManifest s
  b.attach
  let libraries ← b.compileSources s
  if b.survey.robot then b.compileResourceClasses s
  let dexFiles ← b.convert s libraries
  let intermediate ← b.packResources s
  b.addCode s intermediate dexFiles
  b.sign s
  b.align s
  return { apk := b.apk, dexFiles, robot := b.survey.robot }

/-- A whole build. -/
def run (s : Services ρ) (project : Project) (types : List String) (options : BuildOptions) :
    Step ρ Artifacts := do
  let b ← prepare project types options
  let artifacts ← b.stages s
  Step.record (.noted .finished)
  return artifacts

/-! ## What the user is told -/

/-- What a finished build writes for its operators and for the user of the app. -/
structure Verdict where
  ok : Bool
  err : String
  userErrors : String
deriving DecidableEq, Repr, Inhabited

/-- The verdict on a build. A failed stage is named to the operators. -/
def verdict : Except BuildError Artifacts → Verdict
  | .ok _ => ⟨true, "", ""⟩
  | .error e =>
    let err := match e.failedStage? with
      | some stage => "YAIL compiler - " ++ stage.label ++ " execution failed.\n"
      | none => ""
    ⟨false, err, e.userMessage⟩

end Build

end ApkForge
