-- What the single stages of a build add to its record. Most make one call that must end well; the
-- compiler is called while a share of the memory is held; the others make no call at all.
import ApkForge.Proofs.Conversion

namespace ApkForge

variable {ρ α β : Type}

/-! ## Steps that make one call -/

namespace Step

variable {layout : BuildLayout} {use : Use}

/-- The step makes one call, for `use`, and fails unless that ends well; or it fails before it. -/
def CallsFor (layout : BuildLayout) (use : Use) (x : Step ρ α) : Prop :=
  Does x fun r l => (l = [] ∧ ∀ a, r ≠ .ok a) ∨ ∃ command seconds answer,
    Use.of layout command = use ∧ l = [.called command seconds answer] ∧
    ∀ a, r = .ok a → ∃ output, answer = .ok output ∧ output.success = true

theorem callsFor_callSuccessfully (runner : Runner ρ) (stage : Stage) {command : Command}
    (seconds : Nat) (h : Use.of layout command = use) :
    CallsFor layout use (callSuccessfully runner stage command seconds) := by
  refine (does_callSuccessfully runner stage command seconds).mono ?_
  rintro r l ⟨answer, hl, hr⟩
  exact Or.inr ⟨command, seconds, answer, h, hl, fun _ hok => hr hok⟩

theorem Quiet.bind_callsFor {x : Step ρ α} {f : α → Step ρ β} (hx : Quiet x)
    (hf : ∀ a, CallsFor layout use (f a)) : CallsFor layout use (x >>= f) :=
  hx.bind_does hf fun _ => Or.inl ⟨rfl, by simp⟩

theorem CallsFor.bind_quiet {x : Step ρ α} {f : α → Step ρ β} (hx : CallsFor layout use x)
    (hf : ∀ a, Quiet (f a)) : CallsFor layout use (x >>= f) := by
  refine Does.bind hx (fun a => (hf a).does (R := fun _ l => l = []) fun _ => rfl) ?_ ?_
  · rintro e l (⟨hl, -⟩ | ⟨command, seconds, answer, huse, hl, -⟩)
    · exact Or.inl ⟨hl, by simp⟩
    · exact Or.inr ⟨command, seconds, answer, huse, hl, by simp⟩
  · rintro a l r _ (⟨-, hne⟩ | ⟨command, seconds, answer, huse, hl, hok⟩) rfl
    · exact absurd rfl (hne a)
    · rw [List.append_nil]
      exact Or.inr ⟨command, seconds, answer, huse, hl, fun _ _ => hok a rfl⟩

end Step

namespace Build

/-! ## Stages without a call -/

theorem quiet_catalog : Step.Quiet (catalog : Step ρ Catalog) := by
  unfold catalog
  refine Step.quiet_get.bind fun σ => ?_
  split
  · exact Step.quiet_pure _
  · refine (Step.quiet_work _).bind fun found => ?_
    exact (Step.quiet_modify (f := fun s => { s with catalog := some found })
      fun _ => rfl).bind fun _ => Step.quiet_pure _

theorem quiet_prepare (project : Project) (types : List String) (options : BuildOptions) :
    Step.Quiet (prepare project types options : Step ρ Build) := by
  unfold prepare
  refine quiet_catalog.bind fun found => (Step.quiet_work _).bind fun survey => ?_
  exact Step.quiet_pure _

theorem quiet_installIcon (b : Build) : Step.Quiet (b.installIcon : Step ρ Unit) := by
  unfold installIcon
  refine (Step.quiet_onFiles _ _).bind fun _ => (Step.quiet_say _).bind fun _ => ?_
  exact (Step.quiet_work _).bind fun _ => Step.quiet_reach _

theorem quiet_addResources (b : Build) : Step.Quiet (b.addResources : Step ρ Unit) := by
  unfold addResources
  refine (Step.quiet_say _).bind fun _ => (Step.quiet_work _).bind fun _ => ?_
  split
  · exact Step.quiet_work _
  · exact Step.quiet_pure _

theorem quiet_writeManifest (s : Services ρ) (b : Build) : Step.Quiet (b.writeManifest s) := by
  unfold writeManifest
  refine (Step.quiet_say _).bind fun _ => ?_
  exact (Step.quiet_work _).bind fun _ => Step.quiet_reach _

theorem quiet_attach (b : Build) : Step.Quiet (b.attach : Step ρ Unit) := by
  unfold attach
  refine (Step.quiet_say _).bind fun _ => (Step.quiet_work _).bind fun _ => ?_
  exact (Step.quiet_say _).bind fun _ => Step.quiet_work _

theorem quiet_aapt (s : Services ρ) (stage : Stage) : Step.Quiet (aapt s stage) := by
  unfold aapt
  exact (Step.quiet_tool _ _).bind fun _ => Step.quiet_resource _ _

/-! ## The compiler -/

/-- Whatever is found for the compiler, it is called as a compiler. -/
theorem does_compilerCall (s : Services ρ) (b : Build) :
    Step.Does (b.compilerCall s) fun r l => l = [] ∧ ∀ command libraries,
      r = .ok (command, libraries) → ∃ java classpath runtime, command =
        Compiler.command java b.options.heap classpath runtime b.layout.classes (b.package s)
          b.project.sources := by
  have herr : ∀ e, ([] : List Event) = [] ∧ ∀ command libraries,
      (.error e : Except BuildError (Command × Libraries)) = .ok (command, libraries) →
      ∃ java classpath runtime, command = Compiler.command java b.options.heap classpath runtime
        b.layout.classes (b.package s) b.project.sources := by simp
  unfold compilerCall
  refine (Step.quiet_onFiles _ _).bind_does (fun found => ?_) herr
  split
  · exact Step.does_throw (herr _)
  · refine (Step.quiet_within _ _).bind_does (fun entries => ?_) herr
    refine (Step.quiet_within _ _).bind_does (fun classpath => ?_) herr
    refine (Step.quiet_tool _ _).bind_does (fun java => ?_) herr
    refine (Step.quiet_resource _ _).bind_does (fun runtime => ?_) herr
    refine (Step.quiet_onFiles _ _).bind_does (fun _ => ?_) herr
    refine Step.does_pure ⟨rfl, ?_⟩
    rintro command libraries ⟨⟩
    exact ⟨java, classpath, runtime, rfl⟩

/-- What the step adds to the record: nothing, when it fails before its call, and else that call
while a share of the memory is held. Only a missing answer to it is sure to fail the step. -/
inductive Compiles (s : Services ρ) (b : Build) :
    Except BuildError Libraries → List Event → Prop where
  | early (e : BuildError) : Compiles s b (.error e) []
  | held {java : Path} {classpath : String} {runtime : Path} {answer : Answer}
      {r : Except BuildError Libraries}
      (answered : ∀ libraries, r = .ok libraries → ∃ output, answer = .ok output) :
      Compiles s b r [.acquired b.options.heap,
        .called (Compiler.command java b.options.heap classpath runtime b.layout.classes
          (b.package s) b.project.sources) s.timeouts.compile answer,
        .released b.options.heap]

theorem does_compileSources (s : Services ρ) (b : Build) :
    Step.Does (b.compileSources s) (Compiles s b) := by
  unfold compileSources
  refine Step.Does.after_record rfl ?_
  refine (does_compilerCall s b).bind_of (S := fun _ => Compiles s b) ?_ ?_ ?_
  · rintro ⟨command, libraries⟩ l ⟨rfl, hcommand⟩
    obtain ⟨java, classpath, runtime, rfl⟩ := hcommand command libraries rfl
    have hcall := Step.does_call s.runner .compile (Compiler.command java b.options.heap
      classpath runtime b.layout.classes (b.package s) b.project.sources) s.timeouts.compile
    -- after the call, only the class files are asked for
    refine (hcall.holding b.options.heap).bind (S := fun _ _ l => l = [])
      (fun output => Step.Quiet.does ?_ fun _ => rfl) ?_ ?_
    · refine (Step.quiet_record rfl).bind fun _ => (Step.quiet_sayTook _).bind fun _ => ?_
      refine Step.quiet_get.bind fun σ => ?_
      simp only
      split
      · exact Step.quiet_throw _
      · exact (Step.quiet_reach _).bind fun _ => Step.quiet_pure _
    · rintro e _ ⟨_, ⟨answer, rfl, -⟩, rfl⟩
      exact .held (by simp)
    · rintro output _ r _ ⟨_, ⟨answer, rfl, hans⟩, rfl⟩ rfl
      refine .held fun _ _ => ?_
      rcases answer with fault | output'
      · cases hans
      · exact ⟨output', rfl⟩
  · rintro e l ⟨rfl, -⟩
    exact .early e
  · rintro _ l r l' ⟨rfl, -⟩ hl'
    exact hl'

/-! ## Stages with one call -/

theorem callsFor_generateResourceClass (s : Services ρ) (b : Build) (aapt android : Path)
    (package : String) : Step.CallsFor b.layout (.resourceClass package) (do
      Step.callSuccessfully s.runner .aapt (RobotFiles.generateCommand aapt android b.layout.res
        b.layout.manifest b.layout.gen package) s.timeouts.package
      Step.sayTook "AAPT") :=
  (Step.callsFor_callSuccessfully s.runner .aapt s.timeouts.package
    (Use.of_resourceClass b.layout aapt android b.layout.res b.layout.manifest b.layout.gen
      package)).bind_quiet fun _ => Step.quiet_sayTook _

/-- The generated classes are compiled. -/
theorem callsFor_compileClasses (s : Services ρ) (b : Build) :
    Step.CallsFor b.layout .compileClasses (do
      Step.say "Compiling R.java files"
      let javac ← Step.tool .javac fun tree start => s.toolchain.javaTool s.env tree start "javac"
      let sources := RobotFiles.resourcePackages.map (RobotFiles.resourceClassFile b.layout.gen)
      Step.callSuccessfully s.runner .javac
        (RobotFiles.compileCommand javac b.layout.classes sources) s.timeouts.compile) := by
  refine (Step.quiet_say _).bind_callsFor fun _ => ?_
  refine (Step.quiet_tool _ _).bind_callsFor fun javac => ?_
  exact Step.callsFor_callSuccessfully s.runner .javac s.timeouts.compile
    (Use.of_compileClasses b.layout javac b.layout.classes _)

theorem callsFor_packResources (s : Services ρ) (b : Build) :
    Step.CallsFor b.layout .pack (b.packResources s) := by
  unfold packResources
  refine (Step.quiet_say _).bind_callsFor fun _ => ?_
  refine (Step.quiet_onFiles _ _).bind_callsFor fun _ => ?_
  refine (Step.quiet_onFiles _ _).bind_callsFor fun _ => ?_
  refine (Step.quiet_onFiles _ _).bind_callsFor fun _ => ?_
  refine (quiet_aapt s .aapt).bind_callsFor fun aapt => ?_
  refine (Step.quiet_resource _ _).bind_callsFor fun android => ?_
  refine (Step.callsFor_callSuccessfully s.runner .aapt s.timeouts.package
    (Use.of_pack b.layout aapt b.layout.manifest b.layout.res b.project.assetsDir android
      (b.layout.intermediateArchive b.project.name) b.layout.libs)).bind_quiet fun _ => ?_
  refine (Step.quiet_sayTook _).bind fun _ => (Step.quiet_reach _).bind fun _ => ?_
  exact Step.quiet_pure _

theorem callsFor_addCode (s : Services ρ) (b : Build) (intermediate : Path)
    (dexFiles : List Path) :
    Step.CallsFor b.layout .addCode (b.addCode s intermediate dexFiles) := by
  unfold addCode
  refine (Step.quiet_say _).bind_callsFor fun _ => ?_
  refine (Step.quiet_onFiles _ _).bind_callsFor fun _ => ?_
  refine (quiet_aapt s .apkBuilder).bind_callsFor fun aapt => ?_
  exact (Step.callsFor_callSuccessfully s.runner .apkBuilder s.timeouts.package
    (Use.of_addCode b.layout aapt b.apk b.layout.tmp _)).bind_quiet fun _ => Step.quiet_reach _

theorem callsFor_sign (s : Services ρ) (b : Build) :
    Step.CallsFor b.layout .sign (b.sign s) := by
  unfold sign
  refine (Step.quiet_say _).bind_callsFor fun _ => ?_
  refine (Step.quiet_tool _ _).bind_callsFor fun jarsigner => ?_
  refine (Step.quiet_within _ _).bind_callsFor fun key => ?_
  exact Step.callsFor_callSuccessfully s.runner .jarSigner s.timeouts.sign
    (Use.of_sign b.layout jarsigner key b.apk)

theorem callsFor_align (s : Services ρ) (b : Build) :
    Step.CallsFor b.layout .align (b.align s) := by
  unfold align
  refine (Step.quiet_say _).bind_callsFor fun _ => ?_
  refine (Step.quiet_tool _ _).bind_callsFor fun logical => ?_
  refine (Step.quiet_resource _ _).bind_callsFor fun zipalign => ?_
  refine (Step.callsFor_callSuccessfully s.runner .zipAlign s.timeouts.sign
    (Use.of_align b.layout zipalign b.apk (b.layout.tmp.join "zipaligned.apk"))).bind_quiet
    fun _ => ?_
  refine (Step.quiet_onFiles _ _).bind fun _ => (Step.quiet_sayTook _).bind fun _ => ?_
  exact Step.quiet_reach _

end Build

end ApkForge
