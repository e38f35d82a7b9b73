-- A report on an app and a build of it. Both look at the app in one way, so a report fails just
-- when the build fails in its survey; and what the report tells is all that the stages of the build
-- go by, down to the text of the manifest.
import ApkForge.Proofs.Failures

namespace ApkForge

variable {ρ ε δ α β : Type}

/-! ## Needs by name -/

theorem lookup_row (k m : String) (v : α) (rows : List (String × α)) :
    ((m, v) :: rows).lookup k = if k = m then some v else rows.lookup k := by
  rw [List.lookup_cons]
  by_cases h : k = m
  · simp [h]
  · have hne : (k == m) = false := by simp [h]
    simp [h, hne]

theorem lookup_insertRow (n k : String) (v : α) (rows : List (String × α)) :
    (insertRow n v rows).lookup k = if k = n then some v else rows.lookup k := by
  induction rows with
  | nil => rw [insertRow, lookup_row]
  | cons row rest ih =>
    obtain ⟨m, x⟩ := row
    rw [insertRow]
    split
    · rw [lookup_row]
    · split
      · rename_i hlt
        rw [lookup_row, ih, lookup_row]
        by_cases hm : k = m
        · have hne : m ≠ n := fun h => String.lt_irrefl n (by rwa [h] at hlt)
          simp [hm, hne]
        · simp [hm]
      · rename_i hle hge
        have heq := name_eq_of_not_lt hle hge
        subst heq
        rw [lookup_row, lookup_row]
        by_cases hn : k = n <;> simp [hn]

theorem NameMap.get?_insert (m : NameMap α) (n k : String) (v : α) :
    (m.insert n v).get? k = if k = n then some v else m.get? k :=
  lookup_insertRow n k v m.toList

theorem NameMap.eq_empty {m : NameMap α} (h : m.isEmpty = true) : m = NameMap.empty := by
  obtain ⟨rows, ascending⟩ := m
  cases rows with
  | nil => rfl
  | cons row rest => cases h

theorem Category.field_injective {c d : Category} (h : c.field = d.field) : c = d := by
  cases c <;> cases d <;> first | rfl | exact absurd h (by decide)

namespace InspectReport

/-- What is needed in a category by a report, which leaves out a category without needs. -/
def needed (r : InspectReport) (c : Category) : RequirementMap :=
  (r.requirements.get? c.field).getD NameMap.empty

/-- The build that a report tells of. All that a survey would say of it is taken from the report. -/
def build (r : InspectReport) (project : Project) (options : BuildOptions) : Build where
  project := project
  options := options
  survey := ⟨⟨r.builtin, r.extensions⟩, ⟨r.needed⟩, r.robot⟩

theorem get?_foldl_insert (r : Requirements) (cs : List Category) (m : NameMap RequirementMap)
    (c : Category) :
    (cs.foldl (fun m d => m.insert d.field (r.of d)) m).get? c.field =
      if c ∈ cs then some (r.of c) else m.get? c.field := by
  induction cs generalizing m with
  | nil => simp
  | cons d rest ih =>
    rw [List.foldl_cons, ih, NameMap.get?_insert]
    by_cases hrest : c ∈ rest
    · simp [hrest]
    · by_cases hd : c = d
      · simp [hd]
      · have hfield : c.field ≠ d.field := fun h => hd (Category.field_injective h)
        simp [hrest, hd, hfield]

/-- Nothing is lost by leaving out the categories without needs. -/
theorem needed_ofSurvey (s : Survey) (project : Project) (identity : RobotIdentity)
    (companion withManifest : Bool) :
    (ofSurvey s project identity companion withManifest).needed = s.requirements.of := by
  funext c
  unfold needed ofSurvey needs
  simp only
  rw [get?_foldl_insert]
  split
  · rfl
  · rename_i hnone
    have hempty : (s.requirements.of c).isEmpty = true := by
      simpa [Category.mem_all c] using hnone
    exact (NameMap.eq_empty hempty).symm

/-- A report tells the whole survey. -/
theorem build_ofSurvey (s : Survey) (project : Project) (options : BuildOptions)
    (identity : RobotIdentity) (companion withManifest : Bool) :
    (ofSurvey s project identity companion withManifest).build project options =
      ⟨project, options, s⟩ := by
  unfold build
  rw [needed_ofSurvey]
  rfl

/-- A manifest in a report is the one that the survey renders. -/
theorem eq_render_of_ofSurvey {s : Survey} {project : Project} {identity : RobotIdentity}
    {companion withManifest : Bool} {text : String}
    (h : (ofSurvey s project identity companion withManifest).manifest = some text) :
    text = (s.manifest project companion identity).render := by
  cases withManifest
  · cases h
  · cases h
    rfl

end InspectReport

/-! ## Looking at an app -/

namespace Task

/-- The task does not look at the cache of runtime files: beside another cache it ends alike and
leaves that cache as it was. -/
def Blind (x : Task ε α) : Prop :=
  ∀ w resources, x.run { w with resources } = ((x.run w).1, { (x.run w).2 with resources })

theorem blind_pure (a : α) : Blind (pure a : Task ε α) := fun _ _ => rfl

theorem blind_throw (e : ε) : Blind (throw e : Task ε α) := fun _ _ => rfl

theorem Blind.bind {x : Task ε α} {f : α → Task ε β} (hx : Blind x) (hf : ∀ a, Blind (f a)) :
    Blind (x >>= f) := by
  intro w resources
  rw [run_bind, run_bind, hx w resources]
  rcases x.run w with ⟨e | a, w'⟩
  · rfl
  · exact hf a w' resources

theorem Blind.explain {x : Task ε α} (h : Blind x) (f : ε → δ) : Blind (explain f x) := by
  intro w resources
  rw [run_explain, run_explain, h w resources]

theorem blind_readText (p : Path) : Blind (readText p) := by
  intro w resources
  unfold readText
  rw [run_bind, run_bind, run_get, run_get]
  simp only
  cases w.tree.readText w.start p with
  | ok text => rfl
  | error fault => rfl

end Task

namespace Locator

theorem search_resources (w : Workspace) (resources : Resources) (candidates : List Path)
    (n : Nat) : search { w with resources } candidates n = search w candidates n := by
  induction candidates generalizing n with
  | nil => rfl
  | cons c rest ih =>
    unfold search
    rw [ih]
    rfl

theorem blind_filesDir (component : String) : Task.Blind (filesDir component) := by
  refine Task.Blind.bind (fun w resources => ?_) fun _ => Task.blind_pure _
  unfold locate
  rw [run_bind, run_bind, Task.run_get, Task.run_get]
  simp only [search_resources]
  split
  · rfl
  · split
    · rfl
    · split
      · rfl
      · rfl

theorem blind_descriptor (component : String) : Task.Blind (descriptor component) := by
  refine (blind_filesDir component).bind fun files w resources => ?_
  rw [run_bind, run_bind, Task.run_get, Task.run_get]
  simp only
  split
  · rfl
  · rfl

end Locator

theorem Components.blind_loadInfos (names : List String) (read : List Path) :
    Task.Blind (loadInfos names read) := by
  induction names generalizing read with
  | nil => exact Task.blind_pure _
  | cons name rest ih =>
    unfold loadInfos
    refine ((Locator.blind_descriptor name).explain _).bind fun path => ?_
    split
    · exact ih read
    · refine ((Task.blind_readText path).explain _).bind fun text => ?_
      split
      · exact Task.blind_throw _
      · exact (ih _).bind fun _ => Task.blind_pure _

/-- A survey looks at the files of a workspace and at nothing else in it. -/
theorem Survey.run_take_of_files (project : Project) (types : List String) (catalog : Catalog)
    (companion : Bool) (w : Workspace) (resources : Resources) (locator : Locator) :
    ((take project types catalog companion).run { w with resources, locator }).1 =
      ((take project types catalog companion).run w).1 := by
  have hrest : Task.Blind (do
      let extensions ← Components.extensionInfos (ComponentSets.partition types catalog)
      let requirements ← collectNeeds catalog extensions (ComponentSets.partition types catalog)
        project.usesLocation
      return ⟨ComponentSets.partition types catalog, requirements,
        Manifest.isRobotBuild (ComponentSets.partition types catalog) companion⟩ :
      Task BuildError Survey) := by
    refine (Components.blind_loadInfos _ _).bind fun extensions => ?_
    exact Task.Blind.bind (fun _ _ => rfl) fun _ => Task.blind_pure _
  have hends := congrArg Prod.fst
    (hrest { w with locator := Locator.ofAssets project.assetsDir } resources)
  exact hends

/-! ## A file that is written -/

namespace FileTree

/-- A path reads as a content, or it names the sink, which keeps nothing. -/
def Bears (t : FileTree) (start : Place) (p : Path) (content : Bytes) : Prop :=
  t.read start p = .ok content ∨ ∃ place, t.stat start p = .ok (place, .sink)

theorem bears_write {t t' : FileTree} {start : Place} {p : Path} {content : Bytes}
    (h : t.write start p content = .ok t') : t'.Bears start p content := by
  have hdirs := (writes_write h).dirs
  unfold write at h
  rw [bind_eq_ok] at h
  obtain ⟨⟨place, entry⟩, hwritable, h⟩ := h
  obtain ⟨-, hnodir⟩ := target_of_writable hwritable
  obtain ⟨a, hwalk, hplace, hwants, hentry, -⟩ := writable_eq_ok hwritable
  have hroot : place ≠ [] := by
    rintro rfl
    exact hnodir rfl
  cases h
  have hstat : (t.put place (holding content entry)).stat start p =
      .ok (place, holding content entry) :=
    stat_eq_ok.2 ⟨a, walk_of_dirs hdirs hwalk, hplace, at?_put_self t hroot _, .inr hwants⟩
  cases entry with
  | file old executable => exact .inl (read_of_stat hstat)
  | dir => exact absurd rfl hentry
  | sink => exact .inr ⟨place, hstat⟩

end FileTree

theorem Task.bears_writeText {p : Path} {text : String} {w w' : Workspace}
    (h : (writeText p text).run w = (.ok (), w')) :
    w'.tree.Bears w'.start p (Utf8.encode text) := by
  unfold writeText writeBytes at h
  rcases run_bind_cases h with ⟨e, -, he⟩ | ⟨_, w₁, -, h⟩
  · cases he
  rw [run_change] at h
  cases hwrite : w₁.tree.write w₁.start p (Utf8.encode text) with
  | error fault =>
    rw [hwrite] at h
    cases h
  | ok tree =>
    rw [hwrite] at h
    cases h
    exact FileTree.bears_write hwrite

/-! ## Before and after the manifest -/

namespace Build

/-- The stages of a prepared build up to the manifest. -/
def throughManifest (s : Services ρ) (b : Build) : Step ρ Unit := do
  b.installIcon
  b.addResources
  b.writeManifest s

/-- The rest of a build, when its manifest is written. -/
def afterManifest (s : Services ρ) (b : Build) : Step ρ Artifacts := do
  b.attach
  let libraries ← b.compileSources s
  if b.survey.robot then b.compileResourceClasses s
  let dexFiles ← b.convert s libraries
  let intermediate ← b.packResources s
  b.addCode s intermediate dexFiles
  b.sign s
  b.align s
  Step.record (.noted .finished)
  return { apk := b.apk, dexFiles, robot := b.survey.robot }

theorem run_eq_around_manifest (s : Services ρ) (project : Project) (types : List String)
    (options : BuildOptions) : run s project types options = (do
      let b ← prepare project types options
      b.throughManifest s
      b.afterManifest s) := by
  simp only [run, stages, throughManifest, afterManifest, bind_assoc]
  refine bind_congr fun b => bind_congr fun _ => bind_congr fun _ => bind_congr fun _ => ?_
  refine bind_congr fun _ => bind_congr fun _ => ?_
  cases b.survey.robot
  · simp only [Bool.false_eq_true, if_false, bind_assoc, pure_bind]
  · simp only [if_true, bind_assoc, pure_bind]

/-- A manifest is there, as it was rendered, when the stage that writes it has ended. -/
theorem bears_writeManifest {s : Services ρ} {b : Build} {σ σ' : Session ρ}
    (h : (b.writeManifest s).run σ = (.ok (), σ')) :
    σ'.workspace.tree.Bears σ'.workspace.start b.layout.manifest
      (Utf8.encode (b.survey.manifest b.project b.options.companion s.robot).render) := by
  unfold writeManifest at h
  rcases run_bind_cases h with ⟨e, -, he⟩ | ⟨_, σ₁, -, h⟩
  · cases he
  rcases run_bind_cases h with ⟨e, -, he⟩ | ⟨_, σ₂, hwork, h⟩
  · cases he
  cases h
  rw [Step.run_work] at hwork
  obtain ⟨hok, hσ⟩ := Prod.mk.inj hwork
  subst hσ
  refine Task.bears_writeText (w := σ₁.workspace) ?_
  unfold Manifest.writeTo at hok ⊢
  rw [Task.run_explain] at hok ⊢
  exact Prod.ext (Task.mapError_eq_ok.1 hok) rfl

theorem bears_throughManifest {s : Services ρ} {b : Build} {σ σ' : Session ρ}
    (h : (b.throughManifest s).run σ = (.ok (), σ')) :
    σ'.workspace.tree.Bears σ'.workspace.start b.layout.manifest
      (Utf8.encode (b.survey.manifest b.project b.options.companion s.robot).render) := by
  unfold throughManifest at h
  rcases run_bind_cases h with ⟨e, -, he⟩ | ⟨_, σ₁, -, h⟩
  · cases he
  rcases run_bind_cases h with ⟨e, -, he⟩ | ⟨_, σ₂, -, h⟩
  · cases he
  exact bears_writeManifest h

/-- The catalog is found without touching the workspace. -/
theorem workspace_catalog (σ : Session ρ) :
    ((catalog : Step ρ Catalog).run σ).2.workspace = σ.workspace := by
  have hload : (Components.loadCatalog.run σ.workspace).2 = σ.workspace := by
    unfold Components.loadCatalog Resources.readText
    simp only
    rw [run_bind, Task.run_explain, run_bind, Task.run_get]
    simp only
    split
    · rename_i hread
      split at hread
      · cases hread
        split
        · rfl
        · rfl
      · cases hread
    · rename_i hread
      split at hread
      · cases hread
      · cases hread
        rfl
  unfold catalog
  rw [run_bind, Step.run_get]
  simp only
  split
  · rfl
  · rw [run_bind, Step.run_work]
    rcases hr : Components.loadCatalog.run σ.workspace with ⟨e | found, w⟩
    · rw [hr] at hload
      exact hload
    · rw [hr] at hload
      exact hload

/-- A build is prepared by the survey of its app. -/
theorem run_prepare {σ : Session ρ} {found : Catalog}
    (hcatalog : ((catalog : Step ρ Catalog).run σ).1 = .ok found) (project : Project)
    (types : List String) (options : BuildOptions) :
    ((prepare project types options).run σ).1 =
      ((Survey.take project types found options.companion).run σ.workspace).1.map
        fun survey => ⟨project, options, survey⟩ := by
  have hworkspace := workspace_catalog σ
  rcases hc : (catalog : Step ρ Catalog).run σ with ⟨r, σ₁⟩
  rw [hc] at hcatalog hworkspace
  simp only at hcatalog hworkspace
  subst hcatalog
  unfold prepare
  rw [run_bind, hc]
  simp only
  rw [run_bind, Step.run_work, hworkspace]
  rcases (Survey.take project types found options.companion).run σ.workspace with ⟨e | survey, w⟩
  · rfl
  · rfl

/-- The error of a build is one of a survey just when the build could not be prepared. -/
theorem run_eq_error_of_survey (s : Services ρ) {project : Project} {types : List String}
    {options : BuildOptions} {σ σ₁ : Session ρ} {prepared : Except BuildError Build}
    (hprepared : (prepare project types options).run σ = (prepared, σ₁))
    (hsurvey : ∀ e, prepared = .error e → e.isOfSurvey = true) (e : BuildError) :
    ((run s project types options).run σ).1 = .error e ∧ e.isOfSurvey = true ↔
      prepared = .error e := by
  unfold run
  rw [run_bind, hprepared]
  cases prepared with
  | error e' =>
    refine ⟨fun h => ?_, fun h => ?_⟩
    · cases h.1
      rfl
    · cases h
      exact ⟨rfl, hsurvey e rfl⟩
  | ok b =>
    refine ⟨fun h => ?_, fun h => ?_⟩
    · have hlater : e.isOfSurvey = false := (later_stages s b).bind (fun artifacts =>
        (Step.later_record (.noted .finished)).bind fun _ => failsOnly_pure artifacts) σ₁ e h.1
      rw [h.2] at hlater
      cases hlater
    · cases h

end Build

/-! ## The law -/

namespace InspectReport

/-- A report is made by the survey of its app. -/
theorem run_make (project : Project) (types : List String) (catalog : Catalog)
    (identity : RobotIdentity) (companion withManifest : Bool) (w : Workspace)
    (resources : Resources) (locator : Locator) :
    ((make project types catalog identity companion withManifest).run
        { w with resources, locator }).1 =
      ((Survey.take project types catalog companion).run w).1.map
        fun survey => ofSurvey survey project identity companion withManifest := by
  rw [← Survey.run_take_of_files project types catalog companion w resources locator]
  unfold make
  rw [run_bind]
  rcases (Survey.take project types catalog companion).run { w with resources, locator } with
    ⟨e | survey, w'⟩
  · rfl
  · rfl

/-- A report, with whatever cache of its own, fails just when a build of the same files fails in its
survey, and on the same error. When there is a report, the build is prepared as the report tells,
the stages go by that and by nothing else of the survey, and the manifest that they write is the one
in the report. -/
theorem a_report_foretells_its_build (s : Services ρ) (project : Project) (types : List String)
    (options : BuildOptions) (σ : Session ρ) (found : Catalog)
    (hcatalog : ((Build.catalog : Step ρ Catalog).run σ).1 = .ok found)
    (withManifest : Bool) (resources : Resources) (locator : Locator) :
    (∀ e, ((make project types found s.robot options.companion withManifest).run
        { σ.workspace with resources, locator }).1 = .error e ↔
      ((Build.run s project types options).run σ).1 = .error e ∧ e.isOfSurvey = true) ∧
    ∀ r, ((make project types found s.robot options.companion withManifest).run
        { σ.workspace with resources, locator }).1 = .ok r →
      r.manifest.isSome = withManifest ∧
      ∃ σ₁, (Build.prepare project types options).run σ = (.ok (r.build project options), σ₁) ∧
        (Build.run s project types options).run σ = (do
          (r.build project options).throughManifest s
          (r.build project options).afterManifest s : Step ρ Artifacts).run σ₁ ∧
        ∀ text, r.manifest = some text → ∀ σ₂,
          ((r.build project options).throughManifest s).run σ₁ = (.ok (), σ₂) →
          σ₂.workspace.tree.Bears σ₂.workspace.start (r.build project options).layout.manifest
            (Utf8.encode text) := by
  have hsurvey := Survey.failsInSurvey_take project types found options.companion σ.workspace
  have hprepare := Build.run_prepare hcatalog project types options
  rw [run_make]
  generalize ((Survey.take project types found options.companion).run σ.workspace).1 = taken
    at hprepare hsurvey
  rcases hp : (Build.prepare project types options).run σ with ⟨prepared, σ₁⟩
  rw [hp] at hprepare
  simp only at hprepare
  subst hprepare
  cases taken with
  | error e' =>
    refine ⟨fun e => ?_, fun r hr => by cases hr⟩
    rw [Build.run_eq_error_of_survey s hp]
    · simp [Except.map]
    · intro e he
      cases he
      exact hsurvey e' rfl
  | ok survey =>
    refine ⟨fun e => ?_, fun r hr => ?_⟩
    · rw [Build.run_eq_error_of_survey s hp]
      · simp [Except.map]
      · intro e he
        cases he
    · cases hr
      rw [build_ofSurvey]
      refine ⟨?_, σ₁, rfl, ?_, ?_⟩
      · cases withManifest <;> rfl
      · rw [Build.run_eq_around_manifest, run_bind, hp]
        rfl
      · intro text htext σ₂ hthrough
        rw [eq_render_of_ofSurvey htext]
        exact Build.bears_throughManifest hthrough

/-- A component that declares a permission and nothing else. -/
def talker : ComponentInfo where
  typeName := "a.Talker"
  fields := Category.all.map fun c =>
    (c.field, .arr (if c = .permissions then [.str "p.TALK"] else []))

/-- Services without a single tool. -/
def bare : Services Unit where
  runner := ⟨fun c _ _ tools tree => (.error (.notStarted c.program "missing"), tools, tree)⟩
  env := default
  toolchain := default
  timeouts := default
  dexPolicy := default
  robot := default

/-- A session on an empty host that knows the component. -/
def talking : Session Unit where
  workspace := Workspace.opened [] FileTree.host ⟨"/rt"⟩ ⟨"/tmp/r"⟩
  tools := ()
  catalog := some ⟨[talker]⟩

/-- What an app needs of the component is in the report and in the build. -/
theorem a_report_foretells_the_build_of_a_talker :
    ((Build.catalog : Step Unit Catalog).run talking).1 = .ok ⟨[talker]⟩ ∧
    ∃ r σ₁, ((make default ["a.Talker"] ⟨[talker]⟩ bare.robot false true).run
        talking.workspace).1 = .ok r ∧
      (r.needed .permissions).values.map NameSet.toList = [["p.TALK"]] ∧
      r.manifest.isSome = true ∧
      (Build.prepare default ["a.Talker"] ⟨false, default, 1, none⟩).run talking =
        (.ok (r.build default ⟨false, default, 1, none⟩), σ₁) := by
  have hneeds : (match ((make default ["a.Talker"] ⟨[talker]⟩ bare.robot false true).run
      talking.workspace).1 with
      | .ok r => (r.needed .permissions).values.map NameSet.toList
      | .error _ => []) = [["p.TALK"]] := by decide +kernel
  obtain ⟨-, hok⟩ := a_report_foretells_its_build bare default ["a.Talker"]
    ⟨false, default, 1, none⟩ talking ⟨[talker]⟩ rfl true talking.workspace.resources
    talking.workspace.locator
  refine ⟨rfl, ?_⟩
  cases hr : ((make default ["a.Talker"] ⟨[talker]⟩ bare.robot false true).run
      talking.workspace).1 with
  | error e =>
    rw [hr] at hneeds
    cases hneeds
  | ok r =>
    rw [hr] at hneeds
    obtain ⟨hmanifest, σ₁, hprepare, -⟩ := hok r hr
    exact ⟨r, σ₁, rfl, hneeds, hmanifest, hprepare⟩

end InspectReport

end ApkForge
