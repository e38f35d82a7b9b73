-- A build stage by stage, for any property of trees and any errors that may be excused. What the
-- stages make, write, copy, remove, look for and call is listed once; where all of that keeps the
-- property and all that may be missing is excused, so it is with the whole build.
import ApkForge.Proofs.CachedLibraries
import ApkForge.Proofs.Stages
import ApkForge.Proofs.Upkeep

namespace ApkForge

variable {ε ρ α β : Type}

/-! ## Causes -/

/-- A tool or a runtime file was looked for in vain. -/
def Cause.isLookup : Cause → Bool
  | .toolchain _ => true
  | .resource (.notFound _ _) => true
  | _ => false

/-- The cause that an error tells. -/
def BuildError.cause? : BuildError → Option Cause
  | .icon _ cause => some cause
  | .stage _ cause => some cause
  | _ => none

/-- The error tells no cause but one with `X`. -/
def BuildError.Tells (X : Cause → Prop) (e : BuildError) : Prop := ∀ cause, e.cause? = some cause →
  X cause

/-- All but lookups is excused. -/
def Excuses (X : Cause → Prop) : Prop := ∀ cause, cause.isLookup = false → X cause

/-- A runtime file that is not there is excused. -/
def Overlooks (X : Cause → Prop) (logical : String) : Prop :=
  ∀ p, X (.resource (.notFound (Resources.key logical) p))

theorem BuildError.tells_stage {X : Cause → Prop} {stage : Stage} {cause : Cause} (h : X cause) :
    (BuildError.stage stage cause).Tells X := by
  rintro _ ⟨⟩
  exact h

/-- An error without a cause tells none. -/
theorem BuildError.tells_of_none {X : Cause → Prop} {e : BuildError} (h : e.cause? = none) :
    e.Tells X := by
  intro cause hcause
  rw [h] at hcause
  cases hcause

/-! ## Commands -/

/-- The path on a command line that its tool writes to. The container of a conversion is an argument
of its own kind, and the archive that code is added to is named as seen from where the tool
starts. -/
def Command.output? (c : Command) : Option Path :=
  match Use.of ⟨⟨""⟩⟩ c with
  | .compile => c.args[8]?.map Path.mk
  | .resourceClass _ => c.args[10]?.map Path.mk
  | .compileClasses => c.args[1]?.map Path.mk
  | .predex | .mergeFirst | .mergeSecond =>
    c.args[4]?.bind fun arg =>
      (Text.dropHead? "--output=".toList arg.toList).map fun rest => ⟨String.ofList rest⟩
  | .pack => c.args[12]?.map Path.mk
  | .addCode => c.args[2]?.map fun apk => (c.startIn.getD ⟨""⟩).join apk
  | .sign => c.args[8]?.map Path.mk
  | .align => c.args[3]?.map Path.mk
  | .other => none

section

variable (p : Path)

theorem Compiler.output?_command (java : Path) (heap : Nat) (classpath : String)
    (runtime : Path) (package : String) (sources : List SourceFile) :
    (command java heap classpath runtime p package sources).output? = some p := by
  unfold Command.output?
  rw [Use.of_compile]
  rfl

theorem RobotFiles.output?_generateCommand (aapt android res manifest : Path) (package : String) :
    (generateCommand aapt android res manifest p package).output? = some p := by
  unfold Command.output?
  rw [Use.of_resourceClass]
  rfl

theorem RobotFiles.output?_compileCommand (javac : Path) (sources : List Path) :
    (compileCommand javac p sources).output? = some p := by
  unfold Command.output?
  rw [Use.of_compileClasses]
  rfl

theorem DexMerger.output?_command (m : DexMerger) (inputs : List Path) :
    (m.command p inputs).output? = some p := by
  have harg : ((m.command p inputs).args[4]?.bind fun arg =>
      (Text.dropHead? "--output=".toList arg.toList).map fun rest =>
        (⟨String.ofList rest⟩ : Path)) = some p := by
    change (Text.dropHead? _ ("--output=" ++ p.text).toList).map _ = _
    rw [String.toList_append, (Text.dropHead?_eq_some ..).2 rfl]
    simp
  unfold Command.output?
  rw [Use.of_dex]
  unfold Use.ofOutput
  split_ifs
  · exact harg
  · exact harg
  · exact harg

theorem Packaging.output?_packCommand (aapt manifest res assets android libs : Path) :
    (packCommand aapt manifest res assets android p libs).output? = some p := by
  unfold Command.output?
  rw [Use.of_pack]
  rfl

theorem Packaging.output?_sealCommand (aapt dexDir : Path) (names : List String) :
    (sealCommand aapt p dexDir names).output? = some (dexDir.join p.text) := by
  unfold Command.output?
  rw [Use.of_addCode]
  rfl

theorem Packaging.output?_signCommand (jarsigner : Path) (key : SigningKey) :
    (signCommand jarsigner key p).output? = some p := by
  unfold Command.output?
  rw [Use.of_sign]
  rfl

theorem Packaging.output?_alignCommand (zipalign apk : Path) :
    (alignCommand zipalign apk p).output? = some p := by
  unfold Command.output?
  rw [Use.of_align]
  rfl

end

/-- Tools that are told to write to a path keep the property. -/
def Runner.Keeps (runner : Runner ρ) (u : Upkeep) (start : Place) (p : Path) : Prop :=
  ∀ command : Command, command.output? = some p → ∀ limit state t, u.Holds t →
    u.Holds (runner.answer command limit start state t).2.2

/-! ## Steps -/

/-- The step keeps the property, and fails on nothing but what is excused. -/
abbrev Step.Sound (u : Upkeep) (site : Site) (X : Cause → Prop) (x : Step ρ α) : Prop :=
  Safe (fun σ : Session ρ => u.At site σ.workspace) (BuildError.Tells X) x

namespace Step

variable {u : Upkeep} {site : Site} {X : Cause → Prop}

theorem sound_work {task : Task BuildError α} (h : Safe (u.At site) (BuildError.Tells X) task) :
    Sound u site X (work task : Step ρ α) := by
  intro σ hσ
  rw [run_work]
  exact h σ.workspace hσ

theorem sound_within {task : Task Cause α} (h : Safe (u.At site) X task) (stage : Stage) :
    Sound u site X (within stage task : Step ρ α) :=
  sound_work (h.adapt fun _ hX => BuildError.tells_stage hX)

theorem sound_onFiles (hX : Excuses X) {task : Task FilesError α}
    (h : Safe (u.At site) Upkeep.AnyFault task) (stage : Stage) :
    Sound u site X (onFiles stage task : Step ρ α) :=
  sound_within (h.adapt fun _ _ => hX _ rfl) stage

theorem sound_record (e : Event) : Sound u site X (record e : Step ρ Unit) := by
  refine fun σ hσ => ⟨hσ, ?_⟩
  rintro _ ⟨⟩

theorem sound_tool (stage : Stage) {find : FileTree → Place → Except ToolchainError α}
    (h : ∀ t e, u.Holds t → find t site.start = .error e → X (.toolchain e)) :
    Sound u site X (tool stage find : Step ρ α) := by
  intro σ hσ
  unfold tool
  rw [run_bind, run_get]
  simp only
  split
  · refine ⟨hσ, ?_⟩
    rintro _ ⟨⟩
  · rename_i e he
    rw [hσ.start] at he
    refine ⟨hσ, ?_⟩
    rintro _ ⟨⟩
    exact BuildError.tells_stage (h _ e hσ.tree he)

theorem sound_call (hX : Excuses X) {runner : Runner ρ} {command : Command} {p : Path}
    (hp : command.output? = some p) (h : runner.Keeps u site.start p) (stage : Stage)
    (seconds : Nat) : Sound u site X (call runner stage command seconds) := by
  intro σ hσ
  rw [run_call]
  refine ⟨⟨hσ.start, hσ.root, hσ.scratch, ?_⟩, fun e he => ?_⟩
  · have htree := h command hp (some (1000 * seconds)) σ.tools σ.workspace.tree hσ.tree
    rw [← hσ.start] at htree
    exact htree
  · cases hanswer : (runner.asked command seconds σ).1 with
    | ok output =>
      rw [hanswer] at he
      cases he
    | error fault =>
      rw [hanswer] at he
      cases he
      exact BuildError.tells_stage (hX _ rfl)

theorem sound_callSuccessfully (hX : Excuses X) {runner : Runner ρ} {command : Command} {p : Path}
    (hp : command.output? = some p) (h : runner.Keeps u site.start p) (stage : Stage)
    (seconds : Nat) : Sound u site X (callSuccessfully runner stage command seconds) := by
  unfold callSuccessfully
  refine (sound_call hX hp h stage seconds).bind fun output => ?_
  split
  · exact safe_throw (BuildError.tells_stage (hX _ rfl))
  · exact safe_pure _

theorem Sound.holding {x : Step ρ α} (h : Sound u site X x) (heap : Nat) :
    Sound u site X (holding heap x) := fun σ hσ => h (σ.add (.acquired heap)) hσ

theorem Sound.noting {x : Step ρ α} (h : Sound u site X x) (note : Except BuildError α → Event) :
    Sound u site X (noting note x) := h

end Step

/-! ## Tasks of a build -/

section

variable {u : Upkeep} {site : Site} {X : Cause → Prop}

/-- A runtime file, where its absence is excused. -/
theorem Upkeep.safe_resource (hX : Excuses X) (hu : u.Stocks site) {logical : String}
    (h : u.Lacks site logical → Overlooks X logical) :
    Safe (u.At site) X (Task.explain .resource (Resources.get logical)) := by
  refine (Upkeep.safe_get_resource hu logical).adapt fun e he => ?_
  cases e with
  | notFound k p =>
    obtain ⟨rfl, hlacks⟩ := he k p rfl
    exact h hlacks p
  | notMaterialized k fault => exact hX _ rfl

theorem Step.sound_resource (hX : Excuses X) (hu : u.Stocks site) {logical : String}
    (h : u.Lacks site logical → Overlooks X logical) (stage : Stage) :
    Sound u site X (resource stage logical : Step ρ Path) :=
  sound_within (Upkeep.safe_resource hX hu h) stage

theorem Locator.safe_filesDir (component : String) :
    Safe (u.At site) (fun _ => True) (filesDir component) := by
  refine Safe.bind (Upkeep.safe_of_same (fun w => ?_) fun _ _ _ _ => trivial) fun _ => safe_pure _
  unfold locate
  rw [run_bind, Task.run_get]
  simp only
  split
  · exact ⟨rfl, rfl, rfl, rfl⟩
  · split
    · exact ⟨rfl, rfl, rfl, rfl⟩
    · split
      · exact ⟨rfl, rfl, rfl, rfl⟩
      · exact ⟨rfl, rfl, rfl, rfl⟩

/-- The file of a component that the runtime brings along is named by what components declare. -/
theorem Components.safe_resolve (hX : Excuses X) (hu : u.Stocks site) (sets : ComponentSets)
    (typeName : String) {relative : String} (h : Overlooks X ("files/" ++ relative)) :
    Safe (u.At site) X (resolve sets typeName relative) := by
  unfold resolve
  split
  · exact (Upkeep.safe_resource hX hu fun _ => h).bind fun _ => safe_pure _
  · split
    · have hfile : Safe (u.At site) X
          (Task.explain .locator (Locator.file typeName relative)) :=
        ((Locator.safe_filesDir typeName).bind fun _ => safe_pure _).adapt fun _ _ => hX _ rfl
      exact hfile.bind fun _ => safe_pure _
    · exact safe_throw (hX _ rfl)

/-- A file of a component copied to where files of its origin go. -/
theorem Attachments.safe_place (hX : Excuses X) (hu : u.Stocks site) (sets : ComponentSets)
    (typeName : String) {relative : String} (target : Origin → Path)
    (h : Overlooks X ("files/" ++ relative))
    (hp : u.Lodges site.start (target (sets.origin typeName))) :
    Safe (u.At site) X (do
      let (source, origin) ← Components.resolve sets typeName relative
      Task.explain .files (Task.copy source (target origin)) : Task Cause Unit) := by
  refine (Components.safe_resolve hX hu sets typeName h).bind_of
    (fun w a _ => Components.yields_resolve sets typeName relative w a) ?_
  rintro ⟨source, origin⟩ rfl
  exact (Upkeep.safe_copy hp source).adapt fun _ _ => hX _ rfl

namespace Icon

theorem safe_install {drawable : Path} (hX : Excuses X)
    (hfiles : ∀ format, u.Hosts site.start (file drawable format))
    (hremoves : ∀ format, u.Removes ((file drawable format).place site.start)) (bytes : Bytes) :
    Safe (u.At site) X (install bytes drawable) := by
  unfold install
  split
  · exact safe_throw (hX _ rfl)
  · rename_i format _
    refine Safe.bind (Safe.adapt (E := Upkeep.AnyFault) ?_ fun _ _ => hX _ rfl) fun _ => safe_pure _
    refine (safe_forM fun other _ => ?_).bind fun _ => Upkeep.safe_writeBytes (hfiles format) bytes
    exact Upkeep.safe_removeFile (hremoves other)

/-- The default icon may be missing; whatever befalls it is no error. -/
theorem safe_prepare {drawable : Path} (hX : Excuses X) (hu : u.Stocks site)
    (hfiles : ∀ format, u.Hosts site.start (file drawable format))
    (hremoves : ∀ format, u.Removes ((file drawable format).place site.start))
    (project : Project) : Safe (u.At site) (BuildError.Tells X) (prepare project drawable) := by
  have hany : Excuses (fun _ => True) := fun _ _ => trivial
  unfold prepare
  split
  · rename_i icon _
    have hown : Safe (u.At site) X (installOwn project icon drawable) :=
      ((Upkeep.safe_readBytes _).adapt fun _ _ => hX _ rfl).bind
        (safe_install hX hfiles hremoves)
    rw [map_eq_pure_bind]
    refine (hown.adapt fun cause hcause => ?_).bind fun _ => safe_pure _
    rintro _ ⟨⟩
    exact hcause
  · have hdefault : Safe (u.At site) (fun _ => True) (installDefault drawable) :=
      (Upkeep.safe_resource hany hu fun _ _ => trivial).bind fun source =>
        ((Upkeep.safe_readBytes _).adapt fun _ _ => trivial).bind
          (safe_install hany hfiles hremoves)
    refine hdefault.tried.bind fun found => ?_
    split
    · exact safe_pure _
    · exact safe_pure _

end Icon

theorem Animation.safe_writeAll {dir : Path} (hX : Excuses X)
    (h : ∀ f ∈ files, u.Hosts site.start (dir.join f.1)) :
    Safe (u.At site) (BuildError.Tells X) (writeAll dir) := by
  unfold writeAll
  refine safe_forM fun f hf => (Upkeep.safe_writeText (h f hf) f.2).adapt fun fault _ => ?_
  exact BuildError.tells_stage (hX _ rfl)

/-- The files of a list go where its entries say. -/
theorem RobotFiles.safe_copyListed (hX : ∀ cause, X cause) (hu : u.Stocks site) {list : String}
    {dir : Path} (h : ∀ text, u.Tells site list text → ∀ entry ∈ parseList text,
      u.Lodges site.start (dir.join entry)) (sourceDir : String)
    (check : String → Except Cause Unit) :
    Safe (u.At site) (BuildError.Tells X) (copyListed list sourceDir dir check) := by
  have hexcuses : Excuses X := fun cause _ => hX cause
  have hread : Safe (u.At site) X (Task.explain .resource (Resources.readText list)) := by
    refine Safe.adapt (E := fun _ => True) (safe_of_read (fun w => ?_) fun _ _ _ _ => trivial)
      fun _ _ => hX _
    rw [Upkeep.run_readText]
  unfold copyListed
  refine Safe.adapt (E := X) ?_ fun cause hcause => BuildError.tells_stage hcause
  refine hread.bind_of (P := u.Tells site list) ?_ fun text htext => ?_
  · intro w text hw hrun
    simp only [Task.run_explain, Task.mapError_eq_ok] at hrun
    exact hw.tells hrun
  · refine (safe_forM fun entry hentry => ?_).bind fun _ => safe_pure _
    unfold copyEntry
    split
    · exact safe_throw (hX _)
    · refine (Upkeep.safe_resource hexcuses hu fun _ _ => hX _).bind fun source => ?_
      exact (Upkeep.safe_copy (h text htext entry hentry) source).adapt fun _ _ => hX _

theorem Compiler.safe_hasUserCode (sources : List SourceFile) :
    Safe (u.At site) Upkeep.AnyFault (hasUserCode sources) := by
  induction sources with
  | nil => exact safe_pure _
  | cons source rest ih =>
    unfold hasUserCode
    refine (Upkeep.safe_readText source.path).bind fun text => ?_
    split
    · exact safe_pure _
    · exact ih

end

/-! ## What a build does -/

namespace Build

/-- The directories that a build makes. -/
def dirs (b : Build) : List Path :=
  [b.layout.root, b.layout.libs.join "armeabi", b.layout.libs.join "armeabi-v7a",
    b.project.assetsDir.join "component", b.layout.classes, b.layout.gen, b.layout.tmp,
    b.project.assetsDir, b.layout.deploy, b.layout.libs] ++ b.options.dexCache.toList

/-- The files that a build writes itself. -/
def files (b : Build) : List Path :=
  b.layout.manifest :: (ImageFormat.all.map (Icon.file b.layout.drawable) ++
    Animation.files.map fun f => b.layout.anim.join f.1)

/-- The native libraries that components ask for. -/
def nativeEntries (b : Build) : List (String × String) :=
  Attachments.entries (b.survey.requirements.of .native)

/-- The assets that components ask for. -/
def assetEntries (b : Build) : List (String × String) :=
  Attachments.entries (b.survey.requirements.of .assets)

/-- Where the files of components go. -/
def attached (b : Build) : List Path :=
  b.nativeEntries.map (Attachments.libraryTarget b.survey.components b.layout.libs) ++
    b.assetEntries.map (Attachments.assetTarget b.survey.components b.project.assetsDir)

/-- The runtime files that components name. -/
def namedFiles (b : Build) : List String :=
  (b.nativeEntries.map fun e =>
      (Attachments.abiTarget e.2).1 ++ "/" ++ (Attachments.abiTarget e.2).2) ++
    b.assetEntries.map Prod.snd ++
    (Attachments.entries (b.survey.requirements.of .libraries)).map Prod.snd

/-- The lists of what a robot controller brings, and where it goes. -/
def bundles (b : Build) : List (String × Path) :=
  [("files/ftc/res.list", b.layout.res), ("files/ftc/assets.list", b.project.assetsDir),
    ("files/ftc/libs.list", b.layout.libs.join "lib")]

/-- The runtime files that every build asks for. -/
def runtimeFiles : List String :=
  [kawaJar, acraJar, componentsJar, androidJar, "files/dx.jar", "files/runtime.scm"]

/-- The aligned copy of the archive. -/
def aligned (b : Build) : Path := b.layout.tmp.join "zipaligned.apk"

/-- The paths that a build tells its tools to write to. -/
def Outputs (b : Build) (p : Path) : Prop :=
  p ∈ [b.layout.classes, b.layout.gen, b.primaryDex, b.secondaryDex,
      b.layout.intermediateArchive b.project.name, b.layout.tmp.join b.apk.text, b.apk,
      b.aligned] ∨
    ∃ dir content, b.options.dexCache = some dir ∧
      p = DexMerger.cachedFile dir (DexMerger.contentKey content)

/-- All that a build does on a site keeps the property, and all that it may miss is excused. -/
structure Fits (s : Services ρ) (b : Build) (u : Upkeep) (site : Site) (X : Cause → Prop) :
    Prop where
  excuses : Excuses X
  stocks : u.Stocks site
  paves : ∀ p ∈ b.dirs, u.Paves site.start p
  hosts : ∀ p ∈ b.files, u.Hosts site.start p
  removes : ∀ format, u.Removes ((Icon.file b.layout.drawable format).place site.start)
  lodges : ∀ p ∈ b.apk :: b.attached, u.Lodges site.start p
  outputs : ∀ p, b.Outputs p → s.runner.Keeps u site.start p
  runtime : ∀ f ∈ runtimeFiles, u.Lacks site f → Overlooks X f
  named : ∀ name ∈ b.namedFiles, Overlooks X ("files/" ++ name)
  hostTools : ∀ name ∈ ["aapt", "zipalign"],
    (∀ e, s.toolchain.host.resource name = .error e → X (.toolchain e)) ∧
      ∀ logical, s.toolchain.host.resource name = .ok logical → u.Lacks site logical →
        Overlooks X logical
  javaTools : ∀ tool ∈ ["java", "jarsigner"], ∀ t e, u.Holds t →
    s.toolchain.javaTool s.env t site.start tool = .error e → X (.toolchain e)
  robot : b.survey.robot = true → (∀ cause, X cause) ∧ ∀ bundle ∈ b.bundles, ∀ text,
    u.Tells site bundle.1 text → ∀ entry ∈ RobotFiles.parseList text,
      u.Lodges site.start (bundle.2.join entry)

/-! ## Stages -/

variable {s : Services ρ} {b : Build} {u : Upkeep} {site : Site} {X : Cause → Prop}

namespace Fits

/-- What fits still does when more is excused. -/
theorem excusing (h : b.Fits s u site X) {Y : Cause → Prop} (hXY : ∀ cause, X cause → Y cause) :
    b.Fits s u site Y where
  excuses cause hno := hXY _ (h.excuses cause hno)
  stocks := h.stocks
  paves := h.paves
  hosts := h.hosts
  removes := h.removes
  lodges := h.lodges
  outputs := h.outputs
  runtime f hf hlacks p := hXY _ (h.runtime f hf hlacks p)
  named name hname p := hXY _ (h.named name hname p)
  hostTools name hname := ⟨fun e he => hXY _ ((h.hostTools name hname).1 e he),
    fun logical hl hlacks p => hXY _ ((h.hostTools name hname).2 logical hl hlacks p)⟩
  javaTools tool htool t e ht he := hXY _ (h.javaTools tool htool t e ht he)
  robot hrobot := ⟨fun cause => hXY _ ((h.robot hrobot).1 cause), (h.robot hrobot).2⟩

theorem sound_installIcon (h : b.Fits s u site X) :
    Step.Sound u site X (b.installIcon : Step ρ Unit) := by
  have hicon : ∀ format, u.Hosts site.start (Icon.file b.layout.drawable format) := by
    intro format
    refine h.hosts _ (List.mem_cons_of_mem _ (List.mem_append_left _ ?_))
    exact List.mem_map_of_mem (ImageFormat.mem_all format)
  have hroot := h.paves _ (by simp [dirs] : b.layout.root ∈ b.dirs)
  unfold installIcon
  refine (Step.sound_onFiles h.excuses (Upkeep.safe_makeDirs hroot) _).bind fun _ => ?_
  refine (Step.sound_record _).bind fun _ => ?_
  refine (Step.sound_work ?_).bind fun _ => Step.sound_record _
  exact Icon.safe_prepare h.excuses h.stocks hicon h.removes b.project

theorem safe_copyRobotFiles (h : b.Fits s u site X) (hrobot : b.survey.robot = true) :
    Safe (u.At site) (BuildError.Tells X) b.copyRobotFiles := by
  obtain ⟨hX, hbundles⟩ := h.robot hrobot
  have hlist : ∀ bundle ∈ b.bundles, ∀ sourceDir check, Safe (u.At site) (BuildError.Tells X)
      (RobotFiles.copyListed bundle.1 sourceDir bundle.2 check) := fun bundle hb =>
    RobotFiles.safe_copyListed hX h.stocks (hbundles bundle hb)
  have hassets := h.paves _ (by simp [dirs] : b.project.assetsDir ∈ b.dirs)
  unfold copyRobotFiles RobotFiles.copyResources RobotFiles.copyAssets
    RobotFiles.copyNativeLibraries
  refine (hlist ("files/ftc/res.list", b.layout.res) (by simp [bundles]) _ _).bind fun _ => ?_
  refine Safe.bind ?_ fun _ => ?_
  · refine ((Upkeep.safe_makeDirs hassets).adapt fun _ _ => BuildError.tells_stage (hX _)).bind
      fun _ => ?_
    exact hlist ("files/ftc/assets.list", b.project.assetsDir) (by simp [bundles]) _ _
  · refine (hlist ("files/ftc/libs.list", b.layout.libs.join "lib") ?_ _ _).bind fun _ =>
      safe_pure _
    simp [bundles]

theorem sound_addResources (h : b.Fits s u site X) :
    Step.Sound u site X (b.addResources : Step ρ Unit) := by
  unfold addResources
  refine (Step.sound_record _).bind fun _ => ?_
  refine (Step.sound_work (Animation.safe_writeAll h.excuses fun f hf => ?_)).bind fun _ => ?_
  · refine h.hosts _ (List.mem_cons_of_mem _ (List.mem_append_right _ ?_))
    exact List.mem_map_of_mem hf
  · split
    · rename_i hrobot
      exact Step.sound_work (h.safe_copyRobotFiles hrobot)
    · exact safe_pure _

theorem sound_writeManifest (h : b.Fits s u site X) :
    Step.Sound u site X (b.writeManifest s) := by
  have hfile := h.hosts _ (List.mem_cons_self : b.layout.manifest ∈ b.files)
  unfold writeManifest Manifest.writeTo
  refine (Step.sound_record _).bind fun _ => (Step.sound_work ?_).bind fun _ =>
    Step.sound_record _
  exact (Upkeep.safe_writeText hfile _).adapt fun _ _ => BuildError.tells_stage (h.excuses _ rfl)

theorem sound_attach (h : b.Fits s u site X) : Step.Sound u site X (b.attach : Step ρ Unit) := by
  have hdir : ∀ p ∈ b.dirs, Safe (u.At site) X (Task.explain .files (Task.makeDirs p)) :=
    fun p hp => (Upkeep.safe_makeDirs (h.paves p hp)).adapt fun _ _ => h.excuses _ rfl
  unfold attach
  refine (Step.sound_record _).bind fun _ => (Step.sound_work ?_).bind fun _ => ?_
  · refine Safe.adapt (E := X) ?_ fun _ hX => BuildError.tells_stage hX
    refine Safe.bind (Safe.adapt (E := Upkeep.AnyFault) ?_ fun _ _ => h.excuses _ rfl) fun _ => ?_
    · refine safe_forM fun abi habi => Upkeep.safe_makeDirs (h.paves _ ?_)
      rcases List.mem_pair.1 habi with rfl | rfl
      · simp [dirs]
      · simp [dirs]
    · refine safe_forM fun entry hentry => ?_
      refine Attachments.safe_place h.excuses h.stocks b.survey.components entry.1
        (fun origin => (Attachments.nested (b.layout.libs.join (Attachments.abiTarget entry.2).1)
          entry.1 origin).join (Attachments.abiTarget entry.2).2) (h.named _ ?_) (h.lodges _ ?_)
      · refine List.mem_append_left _ (List.mem_append_left _ ?_)
        exact List.mem_map_of_mem hentry
      · refine List.mem_cons_of_mem _ (List.mem_append_left _ ?_)
        exact List.mem_map_of_mem hentry
  · refine (Step.sound_record _).bind fun _ => Step.sound_work ?_
    refine Safe.adapt (E := X) ?_ fun _ hX => BuildError.tells_stage hX
    refine (hdir _ (by simp [dirs])).bind fun _ => safe_forM fun entry hentry => ?_
    refine Attachments.safe_place h.excuses h.stocks b.survey.components entry.1
      (fun origin => (Attachments.nested (b.project.assetsDir.join "component") entry.1
        origin).join entry.2) (h.named _ ?_) (h.lodges _ ?_)
    · refine List.mem_append_left _ (List.mem_append_right _ ?_)
      exact List.mem_map_of_mem hentry
    · refine List.mem_cons_of_mem _ (List.mem_append_right _ ?_)
      exact List.mem_map_of_mem hentry

/-- A runtime file that every build asks for. -/
theorem safe_runtime (h : b.Fits s u site X) {f : String} (hf : f ∈ runtimeFiles) :
    Safe (u.At site) X (Task.explain .resource (Resources.get f)) :=
  Upkeep.safe_resource h.excuses h.stocks (h.runtime f hf)

theorem sound_runtime (h : b.Fits s u site X) {f : String} (hf : f ∈ runtimeFiles)
    (stage : Stage) : Step.Sound u site X (Step.resource stage f : Step ρ Path) :=
  Step.sound_within (h.safe_runtime hf) stage

theorem sound_java (h : b.Fits s u site X) {tool : String} (ht : tool ∈ ["java", "jarsigner"])
    (stage : Stage) : Step.Sound u site X (Step.tool stage fun tree start =>
      s.toolchain.javaTool s.env tree start tool : Step ρ Path) :=
  Step.sound_tool stage (h.javaTools tool ht)

theorem sound_dir (h : b.Fits s u site X) {p : Path} (hp : p ∈ b.dirs) (stage : Stage) :
    Step.Sound u site X (Step.onFiles stage (Task.makeDirs p) : Step ρ Unit) :=
  Step.sound_onFiles h.excuses (Upkeep.safe_makeDirs (h.paves p hp)) stage

theorem safe_extensionJars (hX : Excuses X) (types : List String) (found : List Path) :
    Safe (u.At site) X (extensionJars types found) := by
  induction types generalizing found with
  | nil => exact safe_pure _
  | cons typeName rest ih =>
    have hjar : Safe (u.At site) X (Task.explain .locator (Locator.runtimeJar typeName)) :=
      ((Locator.safe_filesDir typeName).bind fun _ => safe_pure _).adapt fun _ _ => hX _ rfl
    exact hjar.bind fun jar => ih _

theorem safe_componentJars (hX : Excuses X) (hu : u.Stocks site) (sets : ComponentSets)
    {entries : List (String × String)}
    (h : ∀ entry ∈ entries, Overlooks X ("files/" ++ entry.2)) (found : List Path) :
    Safe (u.At site) X (componentJars sets entries found) := by
  induction entries generalizing found with
  | nil => exact safe_pure _
  | cons entry rest ih =>
    unfold componentJars
    refine (Components.safe_resolve hX hu sets entry.1 (h entry List.mem_cons_self)).bind
      fun resolved => ih (fun e he => h e (List.mem_cons_of_mem _ he)) _

theorem safe_compileAgainst (h : b.Fits s u site X) : Safe (u.At site) X b.compileAgainst := by
  unfold compileAgainst findLibraries
  refine (safe_mapM fun jar hjar => h.safe_runtime ?_).bind fun runtime => ?_
  · simp only [List.mem_cons, List.not_mem_nil, or_false] at hjar
    rcases hjar with rfl | rfl | rfl
    · simp [runtimeFiles]
    · simp [runtimeFiles]
    · simp [runtimeFiles]
  · refine Safe.bind ?_ fun libraries => ?_
    · refine (safe_extensionJars h.excuses _ _).bind fun extensions => ?_
      refine (safe_componentJars h.excuses h.stocks _ (fun entry hentry => ?_) _).bind fun _ =>
        safe_pure _
      refine h.named _ (List.mem_append_right _ ?_)
      exact List.mem_map_of_mem hentry
    · exact (h.safe_runtime (by simp [runtimeFiles])).bind fun _ => safe_pure _

theorem sound_compilerCall (h : b.Fits s u site X) : Step.Sound u site X (b.compilerCall s) := by
  unfold compilerCall
  refine (Step.sound_onFiles h.excuses (Compiler.safe_hasUserCode _) _).bind fun found => ?_
  split
  · exact safe_throw (BuildError.tells_of_none rfl)
  · refine (Step.sound_within h.safe_compileAgainst _).bind fun against => ?_
    refine (Step.sound_within ?_ _).bind fun classpath => ?_
    · refine safe_of_read (fun w => rfl) fun w _ cause hcause => ?_
      change Compiler.classpath against.1 = .error cause at hcause
      unfold Compiler.classpath at hcause
      split at hcause
      · cases hcause
        exact h.excuses _ rfl
      · cases hcause
    · refine (h.sound_java (by simp) _).bind fun java => ?_
      refine (h.sound_runtime (by simp [runtimeFiles]) _).bind fun runtime => ?_
      exact (h.sound_dir (by simp [dirs]) _).bind fun _ => safe_pure _

theorem sound_compileSources (h : b.Fits s u site X) :
    Step.Sound u site X (b.compileSources s) := by
  have hkeeps := h.outputs b.layout.classes (.inl (by simp))
  unfold compileSources
  refine (Step.sound_record _).bind fun _ => ?_
  refine h.sound_compilerCall.bind_of
    (P := fun call => call.1.output? = some b.layout.classes) ?_ ?_
  · rintro σ ⟨command, libraries⟩ - hcall
    obtain ⟨-, -, -, hcommand⟩ := does_compilerCall s b σ
    obtain ⟨java, classpath, runtime, rfl⟩ := hcommand command libraries hcall
    exact Compiler.output?_command ..
  · rintro ⟨command, libraries⟩ hcommand
    refine ((Step.sound_call h.excuses hcommand hkeeps _ _).holding _).bind fun output => ?_
    refine (Step.sound_record _).bind fun _ => (Step.sound_record _).bind fun _ => ?_
    refine safe_get.bind fun σ => ?_
    simp only
    split
    · exact safe_throw (BuildError.tells_of_none rfl)
    · exact (Step.sound_record _).bind fun _ => safe_pure _

theorem sound_hostTool (h : b.Fits s u site X) {name : String} (hname : name ∈ ["aapt", "zipalign"])
    (stage : Stage) : Step.Sound u site X (do
      let logical ← Step.tool stage fun _ _ => s.toolchain.host.resource name
      Step.resource stage logical : Step ρ Path) := by
  obtain ⟨herror, hlacks⟩ := h.hostTools name hname
  refine (Step.sound_tool stage fun _ e _ he => herror e he).bind_of
    (P := fun logical => s.toolchain.host.resource name = .ok logical) ?_ fun logical hl => ?_
  · intro σ logical _ hfound
    unfold Step.tool at hfound
    rw [run_bind, Step.run_get] at hfound
    cases hres : s.toolchain.host.resource name with
    | ok found =>
      simp only [hres] at hfound
      cases hfound
      rfl
    | error e =>
      simp only [hres] at hfound
      cases hfound
  · exact Step.sound_resource h.excuses h.stocks (hlacks logical hl) stage

theorem sound_aapt (h : b.Fits s u site X) (stage : Stage) :
    Step.Sound u site X (aapt s stage) := h.sound_hostTool (by simp) stage

theorem sound_compileResourceClasses (h : b.Fits s u site X) (hrobot : b.survey.robot = true) :
    Step.Sound u site X (b.compileResourceClasses s) := by
  have hX := (h.robot hrobot).1
  have hgen := h.outputs b.layout.gen (.inl (by simp))
  have hclasses := h.outputs b.layout.classes (.inl (by simp))
  unfold compileResourceClasses generateResourceClasses
  refine (Step.sound_record _).bind fun _ => Safe.bind ?_ fun _ => ?_
  · refine (h.sound_aapt _).bind fun aapt => ?_
    refine (h.sound_runtime (by simp [runtimeFiles]) _).bind fun android => ?_
    refine (h.sound_dir (by simp [dirs]) _).bind fun _ => safe_forM fun package _ => ?_
    refine (Step.sound_callSuccessfully h.excuses
      (RobotFiles.output?_generateCommand ..) hgen _ _).bind fun _ => Step.sound_record _
  · refine (Step.sound_record _).bind fun _ => ?_
    refine (Step.sound_tool _ fun _ _ _ _ => hX _).bind fun javac => ?_
    exact Step.sound_callSuccessfully h.excuses (RobotFiles.output?_compileCommand ..) hclasses _ _

/-! ### Converting -/

/-- What a conversion finds in the cache or puts there. -/
theorem sound_prepare (h : b.Fits s u site X) {m : DexMerger}
    (hm : m.cacheDir = b.options.dexCache) (input : Path) :
    Step.Sound u site X (m.prepare s.runner input) := by
  have hask : ∀ p, Step.Sound u site X (Step.work (Task.isFile p) : Step ρ Bool) := fun p =>
    Step.sound_work (safe_of_read (fun _ => rfl) (by rintro _ _ _ ⟨⟩))
  unfold DexMerger.prepare
  split
  · exact safe_pure _
  · rename_i dir hdir
    rw [hm] at hdir
    refine Safe.bind (safe_of_read (fun _ => rfl) (by rintro _ _ _ ⟨⟩)) fun cacheable => ?_
    split
    · exact safe_pure _
    · refine Safe.bind_of (P := fun key => ∃ content, key = DexMerger.contentKey content)
        (Step.sound_work ?_) ?_ fun key hkey => ?_
      · refine ((Upkeep.safe_readBytes input).adapt fun fault _ => ?_).bind fun _ => safe_pure _
        exact BuildError.tells_stage (h.excuses _ rfl)
      · intro σ key _ hkey
        rw [Step.run_work, DexMerger.run_cacheKey] at hkey
        simp only at hkey
        split at hkey
        · rename_i content _
          cases hkey
          exact ⟨content, rfl⟩
        · cases hkey
      · obtain ⟨content, rfl⟩ := hkey
        have hkeeps := h.outputs _ (.inr ⟨dir, content, hdir, rfl⟩)
        refine (hask _).bind fun there => ?_
        split
        · exact safe_pure _
        · refine (h.sound_dir (List.mem_append_right _ (by simp [hdir])) _).bind fun _ => ?_
          refine (Step.sound_call h.excuses (DexMerger.output?_command ..) hkeeps _ _).bind
            fun output => (hask _).bind fun made => ?_
          split
          · exact safe_pure _
          · exact safe_pure _

theorem sound_merge (h : b.Fits s u site X) {m : DexMerger}
    (hm : m.cacheDir = b.options.dexCache) {output : Path} (ho : b.Outputs output)
    (inputs : List Path) : Step.Sound u site X (m.merge s.runner output inputs) := by
  unfold DexMerger.merge
  refine Step.Sound.noting ?_ _
  refine (safe_mapM fun input _ => h.sound_prepare hm input).bind fun prepared => ?_
  exact (Step.sound_call h.excuses (DexMerger.output?_command ..) (h.outputs _ ho) _ _).bind
    fun _ => safe_pure _

theorem sound_convertBy (h : b.Fits s u site X) {m : DexMerger}
    (hm : m.cacheDir = b.options.dexCache) (plan : DexPlan) :
    Step.Sound u site X (b.convertBy s m plan) := by
  unfold convertBy
  refine (Step.sound_record _).bind fun _ => ?_
  refine (h.sound_merge hm (.inl (by simp)) _).bind fun first => ?_
  split
  · exact safe_pure _
  · split
    · exact safe_pure _
    · refine (Step.sound_record _).bind fun _ => ?_
      refine (h.sound_merge hm (.inl (by simp)) _).bind fun second => ?_
      refine (Step.sound_record _).bind fun _ => ?_
      split
      · exact safe_pure _
      · exact safe_throw (BuildError.tells_stage (h.excuses _ rfl))

theorem sound_convertInTwo (h : b.Fits s u site X) {m : DexMerger}
    (hm : m.cacheDir = b.options.dexCache) (base libraries : List Path) :
    Step.Sound u site X (b.convertInTwo s m base libraries) := by
  unfold convertInTwo
  refine (h.sound_convertBy hm _).bind fun first => ?_
  split
  · exact safe_pure _
  · refine (h.sound_convertBy hm _).bind fun second => ?_
    split
    · exact safe_pure _
    · exact safe_throw (BuildError.tells_stage (h.excuses _ rfl))

theorem sound_convert (h : b.Fits s u site X) (libraries : Libraries) :
    Step.Sound u site X (b.convert s libraries) := by
  unfold convert
  refine (Step.sound_record _).bind fun _ => ?_
  refine (safe_mapM fun jar hjar => h.sound_runtime ?_ _).bind fun runtime => ?_
  · simp only [List.mem_cons, List.not_mem_nil, or_false] at hjar
    rcases hjar with rfl | rfl | rfl
    · simp [runtimeFiles]
    · simp [runtimeFiles]
    · simp [runtimeFiles]
  · refine (h.sound_java (by simp) _).bind fun java => ?_
    refine (h.sound_runtime (by simp [runtimeFiles]) _).bind fun dxJar => ?_
    refine (h.sound_dir (by simp [dirs]) _).bind fun _ => ?_
    refine ((h.sound_convertInTwo rfl _ _).holding _).bind fun files => ?_
    refine (Step.sound_record _).bind fun _ => (Step.sound_record _).bind fun _ => safe_pure _

/-! ### Packaging -/

theorem sound_packResources (h : b.Fits s u site X) :
    Step.Sound u site X (b.packResources s) := by
  have hkeeps := h.outputs (b.layout.intermediateArchive b.project.name) (.inl (by simp))
  unfold packResources
  refine (Step.sound_record _).bind fun _ => (h.sound_dir (by simp [dirs]) _).bind fun _ => ?_
  refine (h.sound_dir (by simp [dirs]) _).bind fun _ => ?_
  refine (h.sound_dir (by simp [dirs]) _).bind fun _ => ?_
  refine (h.sound_aapt _).bind fun aapt => ?_
  refine (h.sound_runtime (by simp [runtimeFiles]) _).bind fun android => ?_
  refine (Step.sound_callSuccessfully h.excuses (Packaging.output?_packCommand ..) hkeeps _
    _).bind fun _ => ?_
  exact (Step.sound_record _).bind fun _ => (Step.sound_record _).bind fun _ => safe_pure _

theorem sound_copyApk (h : b.Fits s u site X) (source : Path) (stage : Stage) :
    Step.Sound u site X (Step.onFiles stage (Task.copy source b.apk) : Step ρ Unit) :=
  Step.sound_onFiles h.excuses
    (Upkeep.safe_copy (h.lodges b.apk List.mem_cons_self) source) stage

theorem sound_addCode (h : b.Fits s u site X) (intermediate : Path) (dexFiles : List Path) :
    Step.Sound u site X (b.addCode s intermediate dexFiles) := by
  have hkeeps := h.outputs (b.layout.tmp.join b.apk.text) (.inl (by simp))
  unfold addCode
  refine (Step.sound_record _).bind fun _ => (h.sound_copyApk _ _).bind fun _ => ?_
  refine (h.sound_aapt _).bind fun aapt => ?_
  exact (Step.sound_callSuccessfully h.excuses (Packaging.output?_sealCommand ..) hkeeps _
    _).bind fun _ => Step.sound_record _

/-- The key of a robot controller is looked for among the runtime files; a user's is taken as it
is. -/
theorem sound_sign (h : b.Fits s u site X) : Step.Sound u site X (b.sign s) := by
  have hkeeps := h.outputs b.apk (.inl (by simp))
  have hkey : Safe (u.At site) X (Task.explain .resource
      (Packaging.signingKey b.survey.robot b.options.keystore)) := by
    unfold Packaging.signingKey
    split
    · rename_i hrobot
      refine Safe.adapt (E := fun _ => True) (Safe.bind (fun w hw => ?_) fun _ => safe_pure _)
        fun _ _ => (h.robot hrobot).1 _
      exact ⟨(Upkeep.safe_get_resource h.stocks _ w hw).1, fun _ _ => trivial⟩
    · refine safe_of_read (fun _ => rfl) ?_
      rintro w _ _ ⟨⟩
  unfold sign
  refine (Step.sound_record _).bind fun _ => (h.sound_java (by simp) _).bind fun signer => ?_
  refine (Step.sound_within hkey _).bind fun key => ?_
  exact Step.sound_callSuccessfully h.excuses (Packaging.output?_signCommand ..) hkeeps _ _

theorem sound_align (h : b.Fits s u site X) : Step.Sound u site X (b.align s) := by
  have hkeeps := h.outputs b.aligned (.inl (by simp))
  unfold align
  refine (Step.sound_record _).bind fun _ => ?_
  rw [← bind_assoc]
  refine (h.sound_hostTool (by simp) _).bind fun zipalign => ?_
  refine (Step.sound_callSuccessfully h.excuses (Packaging.output?_alignCommand ..) hkeeps _
    _).bind fun _ => ?_
  exact (h.sound_copyApk _ _).bind fun _ => (Step.sound_record _).bind fun _ =>
    Step.sound_record _

/-- The stages of a build that fits keep the property, and fail on nothing but what is excused. -/
theorem sound_stages (h : b.Fits s u site X) : Step.Sound u site X (b.stages s) := by
  unfold stages
  refine h.sound_installIcon.bind fun _ => h.sound_addResources.bind fun _ => ?_
  refine h.sound_writeManifest.bind fun _ => h.sound_attach.bind fun _ => ?_
  refine h.sound_compileSources.bind fun libraries => ?_
  have hrest : ∀ robot, Step.Sound u site X (do
      let dexFiles ← b.convert s libraries
      let intermediate ← b.packResources s
      b.addCode s intermediate dexFiles
      b.sign s
      b.align s
      return ({ apk := b.apk, dexFiles, robot } : Artifacts)) := by
    intro robot
    refine (h.sound_convert libraries).bind fun dexFiles => ?_
    refine h.sound_packResources.bind fun intermediate => ?_
    refine (h.sound_addCode intermediate dexFiles).bind fun _ => ?_
    exact h.sound_sign.bind fun _ => h.sound_align.bind fun _ => safe_pure _
  cases hrobot : b.survey.robot
  · exact hrest false
  · exact (h.sound_compileResourceClasses hrobot).bind fun _ => hrest true

end Fits

/-! ## Whole builds -/

theorem safe_loadInfos (hX : Excuses X) (names : List String) (read : List Path) :
    Safe (u.At site) (BuildError.Tells X) (Components.loadInfos names read) := by
  induction names generalizing read with
  | nil => exact safe_pure _
  | cons name rest ih =>
    have hdescriptor : Safe (u.At site) (fun _ => True) (Locator.descriptor name) := by
      unfold Locator.descriptor
      refine (Locator.safe_filesDir name).bind fun files => safe_get.bind fun w => ?_
      split
      · exact safe_pure _
      · exact safe_throw trivial
    unfold Components.loadInfos
    refine (hdescriptor.adapt fun _ _ => BuildError.tells_stage (hX _ rfl)).bind fun path => ?_
    split
    · exact ih read
    · refine ((Upkeep.safe_readText path).adapt fun _ _ =>
        BuildError.tells_stage (hX _ rfl)).bind fun text => ?_
      split
      · exact safe_throw (BuildError.tells_stage (hX _ rfl))
      · exact (ih _).bind fun _ => safe_pure _

/-- Components declare something wrong, or nothing is wrong with what they need. -/
theorem tells_collectNeeds (hX : Excuses X) {catalog : Catalog} {extensions : List ComponentInfo}
    {used : ComponentSets} {usesLocation : Bool} {e : BuildError}
    (h : Survey.collectNeeds catalog extensions used usesLocation = .error e) : e.Tells X := by
  have hcollect : FailsOnly (BuildError.Tells X)
      (Requirements.collectAll catalog.components extensions used usesLocation) := by
    refine failsOnly_forM (fun c => ?_) Category.all
    unfold Requirements.collectCategory
    refine (failsOnly_adapt fun e => BuildError.tells_stage (hX _ rfl)).bind fun _ => ?_
    split
    · exact failsOnly_lift _
    · exact failsOnly_pure _
  unfold Survey.collectNeeds at h
  split at h
  · cases h
  · rename_i e' collected hrun
    cases h
    exact hcollect .none e (by rw [hrun])

/-- Taking a survey changes no file and looks for no tool. -/
theorem safe_take (hX : Excuses X) (project : Project) (types : List String) (catalog : Catalog)
    (companion : Bool) :
    Safe (u.At site) (BuildError.Tells X) (Survey.take project types catalog companion) := by
  unfold Survey.take
  refine Safe.bind (Upkeep.safe_of_same (fun _ => ⟨rfl, rfl, rfl, rfl⟩) (by rintro _ _ _ ⟨⟩))
    fun _ => (safe_loadInfos hX _ _).bind fun extensions => Safe.bind ?_ fun _ => safe_pure _
  exact safe_of_read (fun _ => rfl) fun w _ e he => tells_collectNeeds hX he

/-- The catalog is read and kept; no file changes. -/
theorem safe_catalog : Safe (fun σ : Session ρ => u.At site σ.workspace) (fun _ => True)
    (catalog : Step ρ Catalog) := by
  have hload : Safe (u.At site) (fun _ => True) Components.loadCatalog := by
    refine safe_of_read (fun w => ?_) fun _ _ _ _ => trivial
    unfold Components.loadCatalog
    rw [run_bind, Task.run_explain, Upkeep.run_readText]
    cases w.tree.readText w.start (w.resources.source Components.catalogFile) with
    | error e => rfl
    | ok text =>
      simp only [Except.mapError]
      cases Catalog.parse Components.catalogFile text <;> rfl
  have hwork : Safe (fun σ : Session ρ => u.At site σ.workspace) (fun _ => True)
      (Step.work Components.loadCatalog : Step ρ Catalog) := by
    intro σ hσ
    rw [Step.run_work]
    exact ⟨(hload σ.workspace hσ).1, fun _ _ => trivial⟩
  unfold catalog
  refine safe_get.bind fun σ => ?_
  split
  · exact safe_pure _
  · refine hwork.bind fun found => Safe.bind (fun σ hσ => ⟨hσ, ?_⟩) fun _ => safe_pure _
    rintro _ ⟨⟩

/-- A build is prepared without any change of files, and looks for its catalog alone. -/
theorem upkeep_prepare (project : Project) (types : List String) (options : BuildOptions)
    (hX : Excuses X) {σ : Session ρ} (hσ : u.At site σ.workspace)
    (hcatalog : ∀ e, ((catalog : Step ρ Catalog).run σ).1 = .error e → e.Tells X) :
    u.At site ((prepare project types options).run σ).2.workspace ∧
      ∀ e, ((prepare project types options).run σ).1 = .error e → e.Tells X := by
  have hkeeps := (safe_catalog (ρ := ρ) σ hσ).1
  unfold prepare
  rw [run_bind]
  rcases hrun : (catalog : Step ρ Catalog).run σ with ⟨e | found, σ'⟩
  · rw [hrun] at hkeeps hcatalog
    refine ⟨hkeeps, ?_⟩
    rintro _ ⟨⟩
    exact hcatalog e rfl
  · rw [hrun] at hkeeps
    have hsurvey : Step.Sound u site X (do
        let survey ← Step.work (Survey.take project types found options.companion)
        return { project, options, survey } : Step ρ Build) :=
      (Step.sound_work (safe_take hX _ _ _ _)).bind fun _ => safe_pure _
    exact hsurvey σ' hkeeps

/-- A whole build keeps the property if all fits that it prepares. -/
theorem upkeep_run (s : Services ρ) (project : Project) (types : List String)
    (options : BuildOptions) (hX : Excuses X) {σ : Session ρ} (hσ : u.At site σ.workspace)
    (hcatalog : ∀ e, ((catalog : Step ρ Catalog).run σ).1 = .error e → e.Tells X)
    (hfits : ∀ b, ((prepare project types options).run σ).1 = .ok b → b.Fits s u site X) :
    u.At site ((run s project types options).run σ).2.workspace ∧
      ∀ e, ((run s project types options).run σ).1 = .error e → e.Tells X := by
  have hprepare := upkeep_prepare project types options hX hσ hcatalog
  unfold run
  rw [run_bind]
  rcases hrun : (prepare project types options).run σ with ⟨e | b, σ'⟩
  · rw [hrun] at hprepare
    refine ⟨hprepare.1, ?_⟩
    rintro _ ⟨⟩
    exact hprepare.2 e rfl
  · rw [hrun] at hprepare hfits
    have hstages : Step.Sound u site X (do
        let artifacts ← b.stages s
        Step.record (.noted .finished)
        return artifacts) :=
      (hfits b rfl).sound_stages.bind fun artifacts => (Step.sound_record _).bind fun _ =>
        safe_pure _
    exact hstages σ' hprepare.1

end Build

end ApkForge
