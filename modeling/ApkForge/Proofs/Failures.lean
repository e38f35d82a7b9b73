-- On which errors a build can end. A survey fails while it loads extensions or collects what
-- components need. No later stage fails so, whatever the tools do, so the error of a build tells
-- whether its survey has failed.
import ApkForge.Proofs.Runs
import ApkForge.Proofs.Tasks

namespace ApkForge

variable {ε δ S ρ α β : Type}

/-! ## Failures -/

/-- Whatever the state, the work ends well or on an error with `P`. -/
def FailsOnly (P : ε → Prop) (x : ExceptT ε (StateM S) α) : Prop :=
  ∀ s e, (x.run s).1 = .error e → P e

section

variable {P : ε → Prop} {x : ExceptT ε (StateM S) α}

theorem failsOnly_pure (a : α) : FailsOnly P (pure a : ExceptT ε (StateM S) α) := by
  rintro s _ ⟨⟩

theorem failsOnly_throw {e : ε} (h : P e) : FailsOnly P (throw e : ExceptT ε (StateM S) α) := by
  rintro s _ ⟨⟩
  exact h

/-- Work on the state alone never fails. -/
theorem failsOnly_lift (x : StateM S α) : FailsOnly P (liftM x : ExceptT ε (StateM S) α) := by
  rintro s _ ⟨⟩

theorem FailsOnly.bind {f : α → ExceptT ε (StateM S) β} (hx : FailsOnly P x)
    (hf : ∀ a, FailsOnly P (f a)) : FailsOnly P (x >>= f) := by
  intro s e he
  rw [run_bind] at he
  rcases hr : x.run s with ⟨e' | a, s'⟩
  · rw [hr] at he
    cases he
    exact hx s _ (by rw [hr])
  · rw [hr] at he
    exact hf a s' e he

theorem FailsOnly.map (f : α → β) (hx : FailsOnly P x) : FailsOnly P (f <$> x) := by
  rw [map_eq_pure_bind]
  exact hx.bind fun _ => failsOnly_pure _

theorem FailsOnly.adapt {Q : δ → Prop} {f : ε → δ} (hx : FailsOnly P x)
    (himp : ∀ e, P e → Q (f e)) : FailsOnly Q (ExceptT.adapt f x) := by
  intro s e he
  change (x.run s).1.mapError f = .error e at he
  cases hr : (x.run s).1 with
  | ok a =>
    rw [hr] at he
    cases he
  | error e' =>
    rw [hr] at he
    cases he
    exact himp e' (hx s e' hr)

/-- An explained failure is one that the explanation makes. -/
theorem failsOnly_adapt {Q : δ → Prop} {f : ε → δ} (h : ∀ e, Q (f e)) :
    FailsOnly Q (ExceptT.adapt f x) :=
  FailsOnly.adapt (P := fun _ => True) (fun _ _ _ => trivial) fun e _ => h e

theorem failsOnly_forM {f : α → ExceptT ε (StateM S) PUnit} (h : ∀ a, FailsOnly P (f a))
    (as : List α) : FailsOnly P (as.forM f) := by
  induction as with
  | nil => exact failsOnly_pure _
  | cons a as ih => exact (h a).bind fun _ => ih

theorem failsOnly_mapM {f : α → ExceptT ε (StateM S) β} (h : ∀ a, FailsOnly P (f a))
    (as : List α) : FailsOnly P (as.mapM f) := by
  induction as with
  | nil => exact failsOnly_pure _
  | cons a as ih =>
    rw [List.mapM_cons]
    exact (h a).bind fun _ => ih.bind fun _ => failsOnly_pure _

end

/-! ## Errors of a survey -/

/-- The stage loads extensions or collects a category. -/
def Stage.isOfSurvey (s : Stage) : Bool :=
  s == .extensions || Category.all.any fun c => c.stage == s

/-- Components declare something wrong. -/
def Cause.isOfCatalog : Cause → Bool
  | .catalog _ => true
  | _ => false

/-- Extensions could not be loaded, or a category could not be collected from what components
declare. -/
def BuildError.isOfSurvey : BuildError → Bool
  | .stage s cause => s == .extensions || s.isOfSurvey && cause.isOfCatalog
  | _ => false

theorem BuildError.isOfSurvey_stage {s : Stage} (h : s.isOfSurvey = false) (cause : Cause) :
    (BuildError.stage s cause).isOfSurvey = false := by
  simp only [Stage.isOfSurvey, Bool.or_eq_false_iff] at h
  simp [isOfSurvey, Stage.isOfSurvey, h.1, h.2]

theorem Category.isOfSurvey_stage (c : Category) : c.stage.isOfSurvey = true := by
  cases c <;> rfl

/-- The work fails on errors of a survey alone. -/
abbrev FailsInSurvey (x : ExceptT BuildError (StateM S) α) : Prop :=
  FailsOnly (fun e => e.isOfSurvey = true) x

theorem Components.failsInSurvey_loadInfos (names : List String) (read : List Path) :
    FailsInSurvey (loadInfos names read) := by
  induction names generalizing read with
  | nil => exact failsOnly_pure _
  | cons name rest ih =>
    unfold loadInfos
    refine (failsOnly_adapt fun _ => by rfl).bind fun path => ?_
    split
    · exact ih read
    · refine (failsOnly_adapt fun _ => by rfl).bind fun text => ?_
      split
      · exact failsOnly_throw rfl
      · exact (ih _).bind fun _ => failsOnly_pure _

theorem Requirements.failsInSurvey_collectAll (builtin extensions : List ComponentInfo)
    (used : ComponentSets) (usesLocation : Bool) :
    FailsInSurvey (collectAll builtin extensions used usesLocation) := by
  refine failsOnly_forM (fun c => ?_) Category.all
  unfold collectCategory
  refine (failsOnly_adapt fun e => ?_).bind fun _ => ?_
  · simp [BuildError.isOfSurvey, Cause.isOfCatalog, c.isOfSurvey_stage]
  · split
    · exact failsOnly_lift _
    · exact failsOnly_pure _

/-- All that a survey fails on is an error of a survey. -/
theorem Survey.failsInSurvey_take (project : Project) (types : List String) (catalog : Catalog)
    (companion : Bool) : FailsInSurvey (take project types catalog companion) := by
  unfold take
  refine (failsOnly_lift _).bind fun _ => ?_
  refine (Components.failsInSurvey_loadInfos _ _).bind fun extensions => ?_
  refine FailsOnly.bind ?_ fun _ => failsOnly_pure _
  intro w e he
  change collectNeeds catalog extensions _ project.usesLocation = .error e at he
  unfold collectNeeds at he
  split at he
  · cases he
  · rename_i e' collected hcollect
    cases he
    exact Requirements.failsInSurvey_collectAll _ _ _ _ .none e (by rw [hcollect])

/-! ## Later errors -/

/-- The work never ends on an error of a survey. -/
abbrev Later (x : ExceptT BuildError (StateM S) α) : Prop :=
  FailsOnly (fun e => e.isOfSurvey = false) x

/-- A stage that is not of the survey has no errors of a survey. -/
theorem later_explain {stage : Stage} (h : stage.isOfSurvey = false) (task : Task Cause α) :
    Later (Task.explain (.stage stage) task) :=
  failsOnly_adapt fun cause => BuildError.isOfSurvey_stage h cause

namespace Step

theorem later_work {task : Task BuildError α} (h : Later task) :
    Later (work task : Step ρ α) := by
  intro σ e he
  rw [run_work] at he
  exact h σ.workspace e he

theorem later_within {stage : Stage} (h : stage.isOfSurvey = false) (task : Task Cause α) :
    Later (within stage task : Step ρ α) := later_work (later_explain h task)

theorem later_onFiles {stage : Stage} (h : stage.isOfSurvey = false) (task : Task FilesError α) :
    Later (onFiles stage task : Step ρ α) := later_within h _

theorem later_resource {stage : Stage} (h : stage.isOfSurvey = false) (logical : String) :
    Later (resource stage logical : Step ρ Path) := later_within h _

theorem later_tool {stage : Stage} (h : stage.isOfSurvey = false)
    (find : FileTree → Place → Except ToolchainError α) : Later (tool stage find : Step ρ α) := by
  unfold tool
  refine (failsOnly_lift _).bind fun σ => ?_
  split
  · exact failsOnly_pure _
  · exact failsOnly_throw (BuildError.isOfSurvey_stage h _)

theorem later_record (e : Event) : Later (record e : Step ρ Unit) := failsOnly_lift _

theorem later_call {stage : Stage} (h : stage.isOfSurvey = false) (runner : Runner ρ)
    (command : Command) (seconds : Nat) : Later (call runner stage command seconds) := by
  intro σ e he
  rw [run_call] at he
  cases hanswer : (runner.asked command seconds σ).1 with
  | ok output =>
    rw [hanswer] at he
    cases he
  | error fault =>
    rw [hanswer] at he
    cases he
    exact BuildError.isOfSurvey_stage h _

theorem later_callSuccessfully {stage : Stage} (h : stage.isOfSurvey = false)
    (runner : Runner ρ) (command : Command) (seconds : Nat) :
    Later (callSuccessfully runner stage command seconds) := by
  unfold callSuccessfully
  refine (later_call h runner command seconds).bind fun output => ?_
  split
  · exact failsOnly_throw (BuildError.isOfSurvey_stage h _)
  · exact failsOnly_pure _

theorem later_holding (heap : Nat) {x : Step ρ α} (h : Later x) : Later (holding heap x) :=
  fun σ e he => h (σ.add (.acquired heap)) e he

theorem later_noting (note : Except BuildError α → Event) {x : Step ρ α} (h : Later x) :
    Later (noting note x) := h

end Step

/-! ## Stage by stage -/

/-- Bringing along the files of a component fails for want of a file or of the component. -/
theorem Attachments.failsOnly_copyAsset (sets : ComponentSets) (dir : Path)
    (entry : String × String) :
    FailsOnly (fun cause => cause.isOfCatalog = false) (copyAsset sets dir entry) := by
  unfold copyAsset Components.resolve
  refine FailsOnly.bind ?_ fun _ => failsOnly_adapt fun _ => by rfl
  split
  · exact (failsOnly_adapt fun _ => by rfl).bind fun _ => failsOnly_pure _
  · split
    · exact (failsOnly_adapt fun _ => by rfl).bind fun _ => failsOnly_pure _
    · exact failsOnly_throw rfl

theorem Attachments.later_assets (needs : RequirementMap) (sets : ComponentSets) (dir : Path) :
    Later (assets needs sets dir) := by
  unfold assets
  refine FailsOnly.adapt (P := fun cause => cause.isOfCatalog = false) ?_ fun cause h => ?_
  · refine (failsOnly_adapt fun _ => by rfl).bind fun _ => ?_
    exact failsOnly_forM (failsOnly_copyAsset sets _) _
  · simp [BuildError.isOfSurvey, h]

theorem Icon.later_prepare (project : Project) (dir : Path) : Later (prepare project dir) := by
  unfold prepare
  split
  · exact FailsOnly.map _ (failsOnly_adapt fun _ => by rfl)
  · refine (failsOnly_lift _).bind fun found => ?_
    split
    · exact failsOnly_pure _
    · exact failsOnly_pure _

theorem Animation.later_writeAll (dir : Path) : Later (writeAll dir) := by
  unfold writeAll
  exact failsOnly_forM (fun f => failsOnly_adapt fun _ => by rfl) files

theorem RobotFiles.later_copyListed (list sourceDir : String) (dir : Path)
    (check : String → Except Cause Unit) : Later (copyListed list sourceDir dir check) :=
  later_explain (by decide) _

theorem RobotFiles.later_copyAssets (dir : Path) : Later (copyAssets dir) := by
  unfold copyAssets
  exact (failsOnly_adapt fun _ => by rfl).bind fun _ => later_copyListed _ _ _ _

theorem DexMerger.later_merge (m : DexMerger) (runner : Runner ρ) (output : Path)
    (inputs : List Path) : Later (m.merge runner output inputs) := by
  have hisFile : ∀ p, Later (Step.work (Task.isFile p) : Step ρ Bool) :=
    fun p => Step.later_work (by rintro w _ ⟨⟩)
  have hprepare : ∀ input, Later (m.prepare runner input) := by
    intro input
    unfold prepare
    split
    · exact failsOnly_pure _
    · refine FailsOnly.bind (by rintro σ _ ⟨⟩) fun cacheable => ?_
      split
      · exact failsOnly_pure _
      · refine (Step.later_work ?_).bind fun key => (hisFile _).bind fun there => ?_
        · exact (failsOnly_adapt fun _ => by rfl).bind fun _ => failsOnly_pure _
        · split
          · exact failsOnly_pure _
          · refine (Step.later_onFiles (by decide) _).bind fun _ => ?_
            refine (Step.later_call (by decide) _ _ _).bind fun answer => ?_
            refine (hisFile _).bind fun made => ?_
            split
            · exact failsOnly_pure _
            · exact failsOnly_pure _
  unfold merge
  refine Step.later_noting _ ((failsOnly_mapM hprepare inputs).bind fun prepared => ?_)
  exact (Step.later_call (by decide) _ _ _).bind fun _ => failsOnly_pure _

namespace Build

theorem later_installIcon (b : Build) : Later (b.installIcon : Step ρ Unit) := by
  unfold installIcon
  refine (Step.later_onFiles (by decide) _).bind fun _ => (Step.later_record _).bind fun _ => ?_
  exact (Step.later_work (Icon.later_prepare _ _)).bind fun _ => Step.later_record _

theorem later_addResources (b : Build) : Later (b.addResources : Step ρ Unit) := by
  have hrobot : Later b.copyRobotFiles := by
    unfold copyRobotFiles
    refine (RobotFiles.later_copyListed _ _ _ _).bind fun _ => ?_
    refine (RobotFiles.later_copyAssets _).bind fun _ => ?_
    exact (RobotFiles.later_copyListed _ _ _ _).bind fun _ => failsOnly_pure _
  unfold addResources
  refine (Step.later_record _).bind fun _ => ?_
  refine (Step.later_work (Animation.later_writeAll _)).bind fun _ => ?_
  split
  · exact Step.later_work hrobot
  · exact failsOnly_pure _

theorem later_writeManifest (s : Services ρ) (b : Build) : Later (b.writeManifest s) := by
  unfold writeManifest Manifest.writeTo
  refine (Step.later_record _).bind fun _ => (Step.later_work ?_).bind fun _ => ?_
  · exact failsOnly_adapt fun _ => by rfl
  · exact Step.later_record _

theorem later_attach (b : Build) : Later (b.attach : Step ρ Unit) := by
  unfold attach
  refine (Step.later_record _).bind fun _ => (Step.later_work ?_).bind fun _ => ?_
  · exact later_explain (by decide) _
  · exact (Step.later_record _).bind fun _ => Step.later_work (Attachments.later_assets _ _ _)

theorem later_compileSources (s : Services ρ) (b : Build) : Later (b.compileSources s) := by
  unfold compileSources compilerCall
  refine (Step.later_record _).bind fun _ => FailsOnly.bind ?_ fun call => ?_
  · refine (Step.later_onFiles (by decide) _).bind fun found => ?_
    split
    · exact failsOnly_throw rfl
    · refine (Step.later_within (by decide) _).bind fun entries => ?_
      refine (Step.later_within (by decide) _).bind fun classpath => ?_
      refine (Step.later_tool (by decide) _).bind fun java => ?_
      refine (Step.later_resource (by decide) _).bind fun runtime => ?_
      exact (Step.later_onFiles (by decide) _).bind fun _ => failsOnly_pure _
  · refine (Step.later_holding _ (Step.later_call (by decide) _ _ _)).bind fun output => ?_
    refine (Step.later_record _).bind fun _ => (Step.later_record _).bind fun _ => ?_
    refine (failsOnly_lift _).bind fun σ => ?_
    simp only
    split
    · exact failsOnly_throw rfl
    · exact (Step.later_record _).bind fun _ => failsOnly_pure _

theorem later_aapt (s : Services ρ) {stage : Stage} (h : stage.isOfSurvey = false) :
    Later (aapt s stage) := by
  unfold aapt
  exact (Step.later_tool h _).bind fun _ => Step.later_resource h _

theorem later_compileResourceClasses (s : Services ρ) (b : Build) :
    Later (b.compileResourceClasses s) := by
  unfold compileResourceClasses generateResourceClasses
  refine (Step.later_record _).bind fun _ => FailsOnly.bind ?_ fun _ => ?_
  · refine (later_aapt s (by decide)).bind fun aapt => ?_
    refine (Step.later_resource (by decide) _).bind fun android => ?_
    refine (Step.later_onFiles (by decide) _).bind fun _ => failsOnly_forM (fun package => ?_) _
    exact (Step.later_callSuccessfully (by decide) _ _ _).bind fun _ => Step.later_record _
  · refine (Step.later_record _).bind fun _ => (Step.later_tool (by decide) _).bind fun javac => ?_
    exact Step.later_callSuccessfully (by decide) _ _ _

theorem later_convertBy (s : Services ρ) (b : Build) (m : DexMerger) (plan : DexPlan) :
    Later (b.convertBy s m plan) := by
  unfold convertBy
  refine (Step.later_record _).bind fun _ => (m.later_merge _ _ _).bind fun first => ?_
  split
  · exact failsOnly_pure _
  · split
    · exact failsOnly_pure _
    · refine (Step.later_record _).bind fun _ => (m.later_merge _ _ _).bind fun second => ?_
      refine (Step.later_record _).bind fun _ => ?_
      split
      · exact failsOnly_pure _
      · exact failsOnly_throw rfl

theorem later_convert (s : Services ρ) (b : Build) (libraries : Libraries) :
    Later (b.convert s libraries) := by
  have htwo : ∀ m base libraries, Later (b.convertInTwo s m base libraries) := by
    intro m base libraries
    unfold convertInTwo
    refine (later_convertBy s b m _).bind fun first => ?_
    split
    · exact failsOnly_pure _
    · refine (later_convertBy s b m _).bind fun second => ?_
      split
      · exact failsOnly_pure _
      · exact failsOnly_throw rfl
  unfold convert
  refine (Step.later_record _).bind fun _ => ?_
  refine (failsOnly_mapM (Step.later_resource (by decide)) _).bind fun runtime => ?_
  refine (Step.later_tool (by decide) _).bind fun java => ?_
  refine (Step.later_resource (by decide) _).bind fun dxJar => ?_
  refine (Step.later_onFiles (by decide) _).bind fun _ => ?_
  refine (Step.later_holding _ (htwo _ _ _)).bind fun files => ?_
  refine (Step.later_record _).bind fun _ => (Step.later_record _).bind fun _ => failsOnly_pure _

theorem later_packResources (s : Services ρ) (b : Build) : Later (b.packResources s) := by
  unfold packResources
  refine (Step.later_record _).bind fun _ => (Step.later_onFiles (by decide) _).bind fun _ => ?_
  refine (Step.later_onFiles (by decide) _).bind fun _ => ?_
  refine (Step.later_onFiles (by decide) _).bind fun _ => ?_
  refine (later_aapt s (by decide)).bind fun aapt => ?_
  refine (Step.later_resource (by decide) _).bind fun android => ?_
  refine (Step.later_callSuccessfully (by decide) _ _ _).bind fun _ => ?_
  exact (Step.later_record _).bind fun _ => (Step.later_record _).bind fun _ => failsOnly_pure _

theorem later_addCode (s : Services ρ) (b : Build) (intermediate : Path)
    (dexFiles : List Path) : Later (b.addCode s intermediate dexFiles) := by
  unfold addCode
  refine (Step.later_record _).bind fun _ => (Step.later_onFiles (by decide) _).bind fun _ => ?_
  refine (later_aapt s (by decide)).bind fun aapt => ?_
  exact (Step.later_callSuccessfully (by decide) _ _ _).bind fun _ => Step.later_record _

theorem later_sign (s : Services ρ) (b : Build) : Later (b.sign s) := by
  unfold sign
  refine (Step.later_record _).bind fun _ => (Step.later_tool (by decide) _).bind fun signer => ?_
  refine (Step.later_within (by decide) _).bind fun key => ?_
  exact Step.later_callSuccessfully (by decide) _ _ _

theorem later_align (s : Services ρ) (b : Build) : Later (b.align s) := by
  unfold align
  refine (Step.later_record _).bind fun _ => (Step.later_tool (by decide) _).bind fun logical => ?_
  refine (Step.later_resource (by decide) _).bind fun zipalign => ?_
  refine (Step.later_callSuccessfully (by decide) _ _ _).bind fun _ => ?_
  refine (Step.later_onFiles (by decide) _).bind fun _ => (Step.later_record _).bind fun _ => ?_
  exact Step.later_record _

/-- No stage of a prepared build fails as a survey does. -/
theorem later_stages (s : Services ρ) (b : Build) : Later (b.stages s) := by
  unfold stages
  refine (later_installIcon b).bind fun _ => (later_addResources b).bind fun _ => ?_
  refine (later_writeManifest s b).bind fun _ => (later_attach b).bind fun _ => ?_
  refine (later_compileSources s b).bind fun libraries => ?_
  have hrest : ∀ robot, Later (do
      let dexFiles ← b.convert s libraries
      let intermediate ← b.packResources s
      b.addCode s intermediate dexFiles
      b.sign s
      b.align s
      return ({ apk := b.apk, dexFiles, robot } : Artifacts)) := by
    intro robot
    refine (later_convert s b libraries).bind fun dexFiles => ?_
    refine (later_packResources s b).bind fun intermediate => ?_
    refine (later_addCode s b intermediate dexFiles).bind fun _ => ?_
    refine (later_sign s b).bind fun _ => (later_align s b).bind fun _ => failsOnly_pure _
  cases b.survey.robot
  · exact hrest false
  · exact (later_compileResourceClasses s b).bind fun _ => hrest true

end Build

end ApkForge
