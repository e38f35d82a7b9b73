-- How a build judges its compiler. It does not ask how the compiler ended but which class files are
-- there afterwards, so a compiler that failed is found out just where a class file is missing, and
-- is not found out over the class files of an earlier build.
import ApkForge.Proofs.Runs
import ApkForge.Proofs.StageOrder
import ApkForge.Rehearsal

namespace ApkForge

variable {ρ : Type}

/-! ## Class files -/

namespace Compiler

/-- A source has its class file. -/
def HasClass (w : Workspace) (classesDir : Path) (source : SourceFile) : Prop :=
  w.tree.isFile w.start (classesDir.join source.classFile.text) = true

theorem missingClass_eq_none {w : Workspace} {sources : List SourceFile} {classesDir : Path} :
    missingClass w.tree w.start sources classesDir = none ↔
      ∀ source ∈ sources, HasClass w classesDir source := by
  simp [missingClass, HasClass]

end Compiler

namespace Build

/-! ## A build around its compiler -/

/-- A build up to the call of its compiler: the build, what it calls, and the libraries. -/
def untilCompiler (s : Services ρ) (project : Project) (types : List String)
    (options : BuildOptions) : Step ρ (Build × Command × Libraries) := do
  let b ← prepare project types options
  b.installIcon
  b.addResources
  b.writeManifest s
  b.attach
  Step.say "Compiling source files"
  let (command, libraries) ← b.compilerCall s
  return (b, command, libraries)

/-- The call of the compiler, and what is told of it. -/
def callCompiler (s : Services ρ) (b : Build) (command : Command) : Step ρ ToolOutput := do
  let output ← Step.holding b.options.heap
    (Step.call s.runner .compile command s.timeouts.compile)
  Step.record (.noted (.output (Utf8.decodeLossy output.stderr)))
  Step.sayTook "Kawa compile"
  return output

/-- The verdict on a compiler that gave an answer. The answer is not asked. -/
def judgeCompiler (b : Build) : Step ρ Unit := do
  let w := (← get).workspace
  match Compiler.missingClass w.tree w.start b.project.sources b.layout.classes with
  | some source => throw (.compilation source.unitName)
  | none => return ()

/-- A build after its compiler. -/
def afterCompiler (s : Services ρ) (b : Build) (libraries : Libraries) : Step ρ Artifacts := do
  Step.reach 35
  if b.survey.robot then b.compileResourceClasses s
  let dexFiles ← b.convert s libraries
  let intermediate ← b.packResources s
  b.addCode s intermediate dexFiles
  b.sign s
  b.align s
  Step.record (.noted .finished)
  return { apk := b.apk, dexFiles, robot := b.survey.robot }

/-- A build is what it does before its compiler is judged, the verdict, and what it does then. -/
theorem run_eq_around_compiler (s : Services ρ) (project : Project) (types : List String)
    (options : BuildOptions) : run s project types options = (do
      let (b, command, libraries) ← untilCompiler s project types options
      let _ ← b.callCompiler s command
      b.judgeCompiler
      b.afterCompiler s libraries) := by
  simp only [run, stages, compileSources, untilCompiler, callCompiler, judgeCompiler,
    afterCompiler, bind_assoc, pure_bind]
  -- both sides take the same steps up to the verdict
  refine bind_congr fun b => bind_congr fun _ => bind_congr fun _ => bind_congr fun _ => ?_
  refine bind_congr fun _ => bind_congr fun _ => bind_congr fun call => bind_congr fun output => ?_
  refine bind_congr fun _ => bind_congr fun _ => bind_congr fun σ => ?_
  cases Compiler.missingClass σ.workspace.tree σ.workspace.start b.project.sources
    b.layout.classes with
  | some source => rfl
  | none =>
    simp only [bind_assoc, pure_bind]
    refine bind_congr fun _ => ?_
    cases b.survey.robot
    · simp only [Bool.false_eq_true, if_false, bind_assoc, pure_bind]
    · simp only [if_true, bind_assoc, pure_bind]

/-- What the compiler answers to a session, and the session that it leaves. -/
def compilerAsked (s : Services ρ) (b : Build) (command : Command) (σ : Session ρ) :
    Answer × Session ρ :=
  s.runner.asked command s.timeouts.compile (σ.add (.acquired b.options.heap))

/-- After the call only the record has grown. -/
theorem run_callCompiler (s : Services ρ) (b : Build) (command : Command) (σ : Session ρ) :
    ∃ σ', (b.callCompiler s command).run σ =
        (Step.callEnd .compile (b.compilerAsked s command σ).1, σ') ∧
      σ'.workspace = (b.compilerAsked s command σ).2.workspace ∧
      σ'.tools = (b.compilerAsked s command σ).2.tools := by
  unfold callCompiler
  rw [run_bind, Step.run_holding, Step.run_call]
  unfold compilerAsked
  rcases s.runner.asked command s.timeouts.compile (σ.add (.acquired b.options.heap)) with
    ⟨fault | output, σ'⟩
  · exact ⟨_, rfl, rfl, rfl⟩
  · exact ⟨_, rfl, rfl, rfl⟩

theorem run_judgeCompiler (b : Build) (σ : Session ρ) : b.judgeCompiler.run σ =
    match Compiler.missingClass σ.workspace.tree σ.workspace.start b.project.sources
        b.layout.classes with
    | some source => (.error (.compilation source.unitName), σ)
    | none => (.ok (), σ) := by
  unfold judgeCompiler
  rw [run_bind, Step.run_get]
  simp only
  cases Compiler.missingClass σ.workspace.tree σ.workspace.start b.project.sources
    b.layout.classes with
  | some source => rfl
  | none => rfl

/-! ## The verdict -/

/-- How a build ends once its compiler was called: on a missing answer, on a missing class file, or
as the rest of the build ends. Whether the compiler succeeded is not asked. -/
inductive EndsAfter (s : Services ρ) (b : Build) (libraries : Libraries) :
    Answer × Session ρ → Except BuildError Artifacts → Prop where
  | lost {fault : RunFault} {σ : Session ρ} :
      EndsAfter s b libraries (.error fault, σ) (.error (.stage .compile (.runner fault)))
  | missing {output : ToolOutput} {σ : Session ρ} {source : SourceFile}
      (missing : Compiler.missingClass σ.workspace.tree σ.workspace.start b.project.sources
        b.layout.classes = some source) :
      EndsAfter s b libraries (.ok output, σ) (.error (.compilation source.unitName))
  | goesOn {output : ToolOutput} {σ σ' : Session ρ}
      (there : ∀ source ∈ b.project.sources,
        Compiler.HasClass σ.workspace b.layout.classes source)
      (workspace : σ'.workspace = σ.workspace) (tools : σ'.tools = σ.tools) :
      EndsAfter s b libraries (.ok output, σ) ((b.afterCompiler s libraries).run σ').1

theorem endsAfter_callCompiler (s : Services ρ) (b : Build) (command : Command)
    (libraries : Libraries) (σ : Session ρ) :
    EndsAfter s b libraries (b.compilerAsked s command σ) ((do
      let _ ← b.callCompiler s command
      b.judgeCompiler
      b.afterCompiler s libraries : Step ρ Artifacts).run σ).1 := by
  obtain ⟨σ', hrun, hworkspace, htools⟩ := run_callCompiler s b command σ
  rw [run_bind, hrun]
  generalize b.compilerAsked s command σ = asked at hworkspace htools
  rcases asked with ⟨fault | output, σ₂⟩
  · exact .lost
  · simp only [Step.callEnd] at hworkspace htools ⊢
    rw [run_bind, run_judgeCompiler]
    cases hmissing : Compiler.missingClass σ'.workspace.tree σ'.workspace.start
        b.project.sources b.layout.classes with
    | some source =>
      rw [hworkspace] at hmissing
      exact .missing hmissing
    | none =>
      rw [hworkspace] at hmissing
      exact .goesOn (Compiler.missingClass_eq_none.1 hmissing) hworkspace htools

/-- The build is that of the project. -/
theorem untilCompiler_project {s : Services ρ} {project : Project} {types : List String}
    {options : BuildOptions} {σ σ₁ : Session ρ} {b : Build} {command : Command}
    {libraries : Libraries}
    (h : (untilCompiler s project types options).run σ = (.ok (b, command, libraries), σ₁)) :
    b.project = project := by
  have hyields : Step.Yields (untilCompiler s project types options)
      fun reached => reached.1.project = project := by
    unfold untilCompiler
    refine Step.Yields.bind (P := fun b => b.project = project) ?_ fun b hb => ?_
    · intro σ b hb
      rcases hr : (prepare project types options).run σ with ⟨r, σ'⟩
      rw [hr] at hb
      exact (prepare_eq_ok (hr.trans (by rw [← hb]))).1
    · refine Step.yields_bind fun _ => Step.yields_bind fun _ => Step.yields_bind fun _ => ?_
      refine Step.yields_bind fun _ => Step.yields_bind fun _ => Step.yields_bind fun _ => ?_
      exact Step.yields_pure hb
  exact hyields σ _ (congrArg Prod.fst h)

/-! ## A failed compiler among old class files -/

/-- The build ended well although its compiler did not. -/
def masksFailedCompiler (layout : BuildLayout) : Except BuildError Artifacts × Session ρ → Bool
  | (.ok _, σ) => σ.events.any fun e => match e with
    | .called command _ (.ok output) => Use.of layout command == .compile && !output.success
    | _ => false
  | (.error _, _) => false

/-- A project with one screen. -/
def oneScreen : Project where
  name := "P"
  mainClass := "a.B"
  sources := [⟨"a.B", ⟨"/p/src/a/B.yail"⟩⟩]
  assetsDir := ⟨"/p/assets"⟩
  buildDir := ⟨"/p/build"⟩
  icon := none
  versionCode := none
  versionName := none
  appName := none
  usesLocation := false

/-- A host with the runtime files, the tools, a source with a line of code, and the class file that
an earlier build left for it. -/
def hostBuiltOn : FileTree :=
  let files := ["kawa.jar", "acra-4.4.0.jar", "AndroidRuntime.jar", "android.jar", "runtime.scm",
    "dx.jar"].map fun name => ["rt", "files", name]
  let tools := ["aapt", "zipalign"].map fun name => ["rt", "tools", "linux", name]
  let programs := ["java", "jarsigner"].map fun name => ["jdk", "bin", name]
  (files ++ tools ++ programs ++ [["p", "build", "classes", "a", "B.class"]]).foldl
    (fun tree place => tree.putWithParents place (.file [] true))
    (FileTree.host.putWithParents ["p", "src", "a", "B.yail"] (.file (Utf8.encode "(") false))

/-- Services whose tools only play their part. -/
def rehearsed : Services Rehearsal.Part where
  runner := Rehearsal.runner
  env := ⟨[]⟩
  toolchain := ⟨.linux, some ⟨"/jdk"⟩⟩
  timeouts := ⟨1, 1, 1, 1⟩
  dexPolicy := ⟨12, []⟩
  robot := default

/-- A session on that host in which every compiler exits with 1 and leaves nothing. -/
def failingCompiler : Session Rehearsal.Part where
  workspace := Workspace.opened [] hostBuiltOn ⟨"/rt"⟩ ⟨"/tmp/r"⟩
  tools := Rehearsal.Part.ofRules
    [{ tool := "java", arg := some "kawa.repl", ending := .exits 1 }] []
  catalog := some ⟨[]⟩

/-! ## The law -/

/-- A build whose compiler came to be called ends on a missing answer or a missing class file, or it
goes on, whatever the compiler's exit. So a build that ended well has all its class files; and when
a compiler that fails makes none of them, it either succeeded or found all of them made. -/
theorem the_compiler_is_judged_by_its_class_files (s : Services ρ) (project : Project)
    (types : List String) (options : BuildOptions) (σ : Session ρ) :
    (∀ e σ₁, (untilCompiler s project types options).run σ = (.error e, σ₁) →
      (run s project types options).run σ = (.error e, σ₁)) ∧
    (∀ b command libraries σ₁,
      (untilCompiler s project types options).run σ = (.ok (b, command, libraries), σ₁) →
      EndsAfter s b libraries (b.compilerAsked s command σ₁)
        ((run s project types options).run σ).1) ∧
    ∀ artifacts, ((run s project types options).run σ).1 = .ok artifacts →
      ∃ b command libraries σ₁ output σ₂,
        (untilCompiler s project types options).run σ = (.ok (b, command, libraries), σ₁) ∧
        b.compilerAsked s command σ₁ = (.ok output, σ₂) ∧
        (∀ source ∈ project.sources, Compiler.HasClass σ₂.workspace b.layout.classes source) ∧
        ((output.success = false → ∀ source ∈ project.sources,
            Compiler.HasClass σ₂.workspace b.layout.classes source →
            Compiler.HasClass σ₁.workspace b.layout.classes source) →
          output.success = true ∨ ∀ source ∈ project.sources,
            Compiler.HasClass σ₁.workspace b.layout.classes source) := by
  have hstop : ∀ e σ₁, (untilCompiler s project types options).run σ = (.error e, σ₁) →
      (run s project types options).run σ = (.error e, σ₁) := by
    intro e σ₁ h
    rw [run_eq_around_compiler, run_bind, h]
  have hend : ∀ b command libraries σ₁,
      (untilCompiler s project types options).run σ = (.ok (b, command, libraries), σ₁) →
      EndsAfter s b libraries (b.compilerAsked s command σ₁)
        ((run s project types options).run σ).1 := by
    intro b command libraries σ₁ h
    rw [run_eq_around_compiler, run_bind, h]
    exact endsAfter_callCompiler s b command libraries σ₁
  refine ⟨hstop, hend, ?_⟩
  intro artifacts hok
  rcases h : (untilCompiler s project types options).run σ with ⟨e | ⟨b, command, libraries⟩, σ₁⟩
  · rw [hstop e σ₁ h] at hok
    cases hok
  · have hafter := hend b command libraries σ₁ h
    have hproject := untilCompiler_project h
    rw [hok] at hafter
    generalize hasked : b.compilerAsked s command σ₁ = asked at hafter
    generalize hr : (.ok artifacts : Except BuildError Artifacts) = r at hafter
    cases hafter with
    | lost => cases hr
    | missing => cases hr
    | @goesOn output σ₂ _ there =>
      rw [hproject] at there
      refine ⟨b, command, libraries, σ₁, output, σ₂, rfl, hasked, there, fun hfails => ?_⟩
      cases hsuccess : output.success with
      | true => exact .inl rfl
      | false => exact .inr fun source hs => hfails hsuccess source hs (there source hs)

set_option maxRecDepth 10000 in
/-- Where all class files are made, a failed compiler does not end the build. -/
theorem a_failed_compiler_is_masked_by_old_class_files :
    masksFailedCompiler ⟨oneScreen.buildDir⟩
      ((run rehearsed oneScreen [] ⟨false, ⟨"/k"⟩, 1, none⟩).run failingCompiler) = true := by
  decide +kernel

end Build

end ApkForge
