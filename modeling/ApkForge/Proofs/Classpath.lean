-- What sources are compiled against and what is converted. The compiler is given a list of jars and
-- the conversion another, each put together in its own stage; they hold the same jars, so nothing
-- that the code of an app was compiled against is missing from its containers.
import ApkForge.Proofs.CompilerVerdict
import ApkForge.Proofs.Guarded
import ApkForge.Proofs.Memories

namespace ApkForge

variable {ρ α β : Type}

/-! ## Cutting what was joined -/

namespace Text

theorem split_append {sep : Char} {t : String} (ht : t.toList = [sep]) (s u : String) :
    split sep (s ++ t ++ u) = split sep s ++ split sep u := by
  simp only [split, String.toList_append, List.append_assoc, ht, List.singleton_append,
    pieces_append, List.map_append]

/-- Texts without the separator are got back from their joint text. -/
theorem split_join {sep : Char} {t : String} (ht : t.toList = [sep]) {texts : List String}
    (hne : texts ≠ []) (h : ∀ s ∈ texts, sep ∉ s.toList) : split sep (join t texts) = texts := by
  induction texts with
  | nil => exact absurd rfl hne
  | cons s rest ih =>
    have hs := split_of_not_mem (h s (List.mem_cons_self ..))
    cases rest with
    | nil => exact hs
    | cons u rest =>
      have hrest := ih (by simp) fun v hv => h v (List.mem_cons_of_mem _ hv)
      rw [join, split_append ht, hs, hrest]
      rfl

end Text

namespace Compiler

/-- The command gives these paths to the compiler, and a reader of its argument finds them. -/
def CompilesAgainst (entries : List Path) (command : Command) : Prop :=
  ∃ classpath, command.args[2]? = some "-cp" ∧ command.args[3]? = some classpath ∧
    Text.split ':' classpath = entries.map Path.text

theorem compilesAgainst_command {entries : List Path} {classpath : String} (hne : entries ≠ [])
    (h : Compiler.classpath entries = .ok classpath) (java : Path) (heap : Nat)
    (runtime classesDir : Path) (package : String) (sources : List SourceFile) :
    CompilesAgainst entries (command java heap classpath runtime classesDir package sources) := by
  refine ⟨classpath, rfl, rfl, ?_⟩
  unfold Compiler.classpath at h
  split at h
  · cases h
  · rename_i hcolon
    cases h
    refine Text.split_join (by decide) (by simpa using hne) fun text htext => ?_
    obtain ⟨p, hp, rfl⟩ := List.mem_map.1 htext
    intro hin
    exact hcolon (List.any_eq_true.2 ⟨p, hp, by simpa using hin⟩)

theorem classpath_of_colon {entries : List Path} (h : ∃ p ∈ entries, ':' ∈ p.text.toList) :
    Compiler.classpath entries = .error .separatorInPath := by
  obtain ⟨p, hp, hcolon⟩ := h
  unfold Compiler.classpath
  rw [if_pos (List.any_eq_true.2 ⟨p, hp, by simpa using hcolon⟩)]

end Compiler

theorem Compiler.exists_classpath {entries : List Path}
    (h : ¬ ∃ p ∈ entries, ':' ∈ p.text.toList) :
    ∃ classpath, Compiler.classpath entries = .ok classpath := by
  unfold Compiler.classpath
  rw [if_neg]
  · exact ⟨_, rfl⟩
  · rw [List.any_eq_true]
    rintro ⟨p, hp, hcolon⟩
    exact h ⟨p, hp, by simpa using hcolon⟩

theorem Use.ofOutput_ne_compile (layout : BuildLayout) (arg : String) :
    ofOutput layout arg ≠ .compile := by
  unfold ofOutput
  split
  · decide
  · split <;> decide

/-! ## How steps end -/

namespace Step

/-- Wherever the step ends well, `Q` holds of what it gives and of the session then. -/
def Ends (x : Step ρ α) (Q : α → Session ρ → Prop) : Prop :=
  ∀ σ a σ', x.run σ = (.ok a, σ') → Q a σ'

theorem ends_throw {Q : α → Session ρ → Prop} (e : BuildError) :
    Ends (throw e : Step ρ α) Q := by
  rintro σ _ _ ⟨⟩

/-- A step ends where its last part ends. -/
theorem ends_bind {x : Step ρ α} {f : α → Step ρ β} {Q : β → Session ρ → Prop}
    (h : ∀ a, Ends (f a) Q) : Ends (x >>= f) Q := by
  intro σ b σ'' hr
  rcases run_bind_cases hr with ⟨e, -, he⟩ | ⟨a, σ', -, hb⟩
  · cases he
  · exact h a σ' b σ'' hb

/-- A step that only puts together what was given ends as that did. -/
theorem Ends.bind_pure {x : Step ρ α} {f : α → β} {P : α → Session ρ → Prop}
    {Q : β → Session ρ → Prop} (hx : Ends x P) (h : ∀ a σ, P a σ → Q (f a) σ) :
    Ends (x >>= fun a => pure (f a)) Q := by
  intro σ b σ'' hr
  rcases run_bind_cases hr with ⟨e, -, he⟩ | ⟨a, σ', ha, hb⟩
  · cases he
  · cases hb
    exact h a _ (hx σ a _ ha)

end Step

/-! ## Lists of paths -/

/-- A path of the list names the same file. -/
def Path.IsAmong (p : Path) (paths : List Path) : Prop := ∃ q ∈ paths, p.same q = true

theorem Path.same_self (p : Path) : p.same p = true := by simp [Path.same]

theorem Path.IsAmong.mono {p : Path} {paths paths' : List Path} (h : p.IsAmong paths)
    (hsub : paths ⊆ paths') : p.IsAmong paths' := by
  obtain ⟨q, hq, hsame⟩ := h
  exact ⟨q, hsub hq, hsame⟩

theorem Path.same_comm (p q : Path) : p.same q = q.same p := by
  simp only [same, Bool.beq_comm]

/-- No two paths of the list name the same file. -/
def Path.Distinct (paths : List Path) : Prop := paths.Pairwise fun p q => p.same q = false

namespace Build

theorem subset_addPath (paths : List Path) (p : Path) : paths ⊆ addPath paths p := by
  unfold addPath
  split
  · exact List.Subset.refl _
  · exact List.subset_append_left _ _

theorem isAmong_addPath (paths : List Path) (p : Path) : p.IsAmong (addPath paths p) := by
  unfold addPath
  split
  · rename_i hany
    obtain ⟨q, hq, hsame⟩ := List.any_eq_true.1 hany
    exact ⟨q, hq, hsame⟩
  · exact ⟨p, by simp, p.same_self⟩

theorem mem_addPath {paths : List Path} {p q : Path} (h : q ∈ addPath paths p) :
    q ∈ paths ∨ q = p := by
  unfold addPath at h
  split at h
  · exact .inl h
  · simpa using h

theorem distinct_addPath {paths : List Path} (h : Path.Distinct paths) (p : Path) :
    Path.Distinct (addPath paths p) := by
  unfold addPath
  split
  · exact h
  · rename_i hany
    refine List.pairwise_append.2 ⟨h, List.pairwise_singleton _ _, fun q hq p' hp' => ?_⟩
    rw [List.mem_singleton.1 hp', Path.same_comm, Bool.eq_false_iff]
    exact fun hsame => hany (List.any_eq_true.2 ⟨q, hq, hsame⟩)

/-! ## Gathering jars -/

/-- The paths that a task finds, one after the other, each once. -/
def gather (find : α → Task Cause Path) : List α → List Path → Task Cause (List Path)
  | [], found => return found
  | a :: rest, found => do
    let jar ← find a
    gather find rest (addPath found jar)

/-- The jar of an extension. -/
def extensionJar (typeName : String) : Task Cause Path :=
  Task.explain .locator (Locator.runtimeJar typeName)

/-- The jar that a component needs. -/
def componentJar (sets : ComponentSets) (entry : String × String) : Task Cause Path := do
  return (← Components.resolve sets entry.1 entry.2).1

theorem extensionJars_eq (names : List String) (found : List Path) :
    extensionJars names found = gather extensionJar names found := by
  induction names generalizing found with
  | nil => rfl
  | cons name rest ih => exact bind_congr fun jar => ih (addPath found jar)

theorem componentJars_eq (sets : ComponentSets) (entries : List (String × String))
    (found : List Path) :
    componentJars sets entries found = gather (componentJar sets) entries found := by
  induction entries generalizing found with
  | nil => rfl
  | cons entry rest ih =>
    rw [componentJars, gather, componentJar, bind_assoc]
    refine bind_congr fun resolved => ?_
    rw [pure_bind]
    exact ih _

theorem settles_gather {find : α → Task Cause Path} (h : ∀ a, Task.Settles (find a))
    (as : List α) (found : List Path) : Task.Settles (gather find as found) := by
  induction as generalizing found with
  | nil => exact Task.settles_pure _
  | cons a rest ih => exact (h a).bind fun jar => ih (addPath found jar)

/-- What was gathered: all that was asked for is among it, and is known from then on. Nothing else
was added, and nothing twice. -/
structure Gathered (find : α → Task Cause Path) (as : List α) (found jars : List Path)
    (w : Workspace) : Prop where
  grows : found ⊆ jars
  among : ∀ a ∈ as, ∃ p, Task.Known (find a) p w ∧ p.IsAmong jars
  only : ∀ p ∈ jars, p ∈ found ∨ ∃ a ∈ as, Task.Known (find a) p w
  distinct : Path.Distinct found → Path.Distinct jars

theorem Gathered.mono {find : α → Task Cause Path} {as : List α} {found jars : List Path}
    {w w' : Workspace} (h : Gathered find as found jars w) (hw : Remembers w w') :
    Gathered find as found jars w' := by
  refine ⟨h.grows, fun a ha => ?_, fun p hp => (h.only p hp).imp_right ?_, h.distinct⟩
  · obtain ⟨p, hp, hamong⟩ := h.among a ha
    exact ⟨p, hp.mono hw, hamong⟩
  · rintro ⟨a, ha, hknown⟩
    exact ⟨a, ha, hknown.mono hw⟩

theorem gathered_of_run {find : α → Task Cause Path} (h : ∀ a, Task.Settles (find a))
    {as : List α} {found jars : List Path} {w w' : Workspace}
    (hr : (gather find as found).run w = (.ok jars, w')) : Gathered find as found jars w' := by
  induction as generalizing found w with
  | nil =>
    cases hr
    exact ⟨List.Subset.refl _, by simp, fun p hp => .inl hp, id⟩
  | cons a rest ih =>
    rcases run_bind_cases hr with ⟨e, -, he⟩ | ⟨jar, w₁, hjar, hrest⟩
    · cases he
    have hgathered := ih hrest
    have hw := (settles_gather h rest (addPath found jar)).remembers hrest
    have hknown := ((h a).known hjar).mono hw
    constructor
    case grows => exact List.Subset.trans (subset_addPath found jar) hgathered.grows
    case among =>
      intro a' ha'
      rcases List.mem_cons.1 ha' with rfl | ha'
      · exact ⟨jar, hknown, (isAmong_addPath found jar).mono hgathered.grows⟩
      · exact hgathered.among a' ha'
    case only =>
      intro p hp
      rcases hgathered.only p hp with hp | ⟨a', ha', hp⟩
      · rcases mem_addPath hp with hp | rfl
        · exact .inl hp
        · exact .inr ⟨a, List.mem_cons_self .., hknown⟩
      · exact .inr ⟨a', List.mem_cons_of_mem _ ha', hp⟩
    case distinct => exact fun hfound => hgathered.distinct (distinct_addPath hfound jar)

/-! ## The two lists -/

/-- The jars that every app has to do with. -/
structure RuntimeJars where
  kawa : Path
  acra : Path
  components : Path
  android : Path

/-- What the compiler is given. -/
def RuntimeJars.classpath (r : RuntimeJars) (l : Libraries) : List Path :=
  r.kawa :: r.acra :: r.components :: (l.extensionJars ++ l.componentJars ++ [r.android])

/-- What is converted besides the classes of the app, in the two containers of an attempt. -/
def RuntimeJars.plan (r : RuntimeJars) (s : Services ρ) (b : Build) (l : Libraries) :
    DexAttempt → DexPlan :=
  DexPlan.make (b.layout.classes :: [r.components, r.kawa, r.acra])
    (l.componentJars ++ l.extensionJars) s.dexPolicy

theorem RuntimeJars.dropLast_classpath (r : RuntimeJars) (l : Libraries) :
    (r.classpath l).dropLast =
      r.kawa :: r.acra :: r.components :: (l.extensionJars ++ l.componentJars) := by
  have happend : r.classpath l =
      (r.kawa :: r.acra :: r.components :: (l.extensionJars ++ l.componentJars)) ++ [r.android] := by
    simp [classpath]
  rw [happend, List.dropLast_concat]

/-- Without the classes of the app, an attempt converts what the compiler is given, but for the
last of it. -/
theorem RuntimeJars.plan_perm (r : RuntimeJars) (s : Services ρ) (b : Build) (l : Libraries)
    (attempt : DexAttempt) : ∃ rest,
      (r.plan s b l attempt).primary = b.layout.classes :: rest ∧
      (rest ++ (r.plan s b l attempt).secondary).Perm (r.classpath l).dropLast := by
  refine ⟨_, rfl, ?_⟩
  have hperm := DexPlan.make_perm (b.layout.classes :: [r.components, r.kawa, r.acra])
    (l.componentJars ++ l.extensionJars) s.dexPolicy attempt
  have hjars : ([r.components] ++ [r.kawa, r.acra]).Perm ([r.kawa, r.acra] ++ [r.components]) :=
    List.perm_append_comm
  rw [r.dropLast_classpath]
  exact (List.Perm.cons_inv hperm).trans (hjars.append List.perm_append_comm)

/-- In the workspace the four jars are known. -/
structure RuntimeJars.Known (r : RuntimeJars) (w : Workspace) : Prop where
  kawa : Task.Known (Resources.get kawaJar) r.kawa w
  acra : Task.Known (Resources.get acraJar) r.acra w
  components : Task.Known (Resources.get componentsJar) r.components w
  android : Task.Known (Resources.get androidJar) r.android w

/-- What a build finds to compile against, and knows from then on. -/
structure Finds (b : Build) (r : RuntimeJars) (l : Libraries) (w : Workspace) : Prop where
  runtime : r.Known w
  extensions : Gathered extensionJar b.survey.components.extensions.toList [] l.extensionJars w
  components : Gathered (componentJar b.survey.components)
    (Attachments.entries (b.survey.requirements.of .libraries)) [] l.componentJars w

theorem settles_extensionJar (typeName : String) : Task.Settles (extensionJar typeName) :=
  (Locator.settles_runtimeJar typeName).explain _

theorem settles_componentJar (sets : ComponentSets) (entry : String × String) :
    Task.Settles (componentJar sets entry) :=
  (Components.settles_resolve sets entry.1 entry.2).bind fun _ => Task.settles_pure _

theorem finds_of_run {b : Build} {entries : List Path} {l : Libraries} {w w' : Workspace}
    (h : b.compileAgainst.run w = (.ok (entries, l), w')) :
    ∃ r : RuntimeJars, entries = r.classpath l ∧ b.Finds r l w' := by
  have hget : ∀ jar, Task.Settles (Task.explain Cause.resource (Resources.get jar)) :=
    fun jar => (Resources.settles_get jar).explain _
  have hknown : ∀ {jar p} {w w' : Workspace},
      (Task.explain Cause.resource (Resources.get jar)).run w = (.ok p, w') →
      Task.Known (Resources.get jar) p w' :=
    fun hr => (Resources.settles_get _).known (Task.run_of_explain hr)
  unfold compileAgainst findLibraries at h
  simp only [List.mapM_cons, List.mapM_nil, bind_assoc, pure_bind, extensionJars_eq,
    componentJars_eq] at h
  rcases run_bind_cases h with ⟨e, -, he⟩ | ⟨kawa, w₁, hkawa, h⟩
  · cases he
  rcases run_bind_cases h with ⟨e, -, he⟩ | ⟨acra, w₂, hacra, h⟩
  · cases he
  rcases run_bind_cases h with ⟨e, -, he⟩ | ⟨components, w₃, hcomponents, h⟩
  · cases he
  rcases run_bind_cases h with ⟨e, -, he⟩ | ⟨extensionJars, w₄, hextensions, h⟩
  · cases he
  rcases run_bind_cases h with ⟨e, -, he⟩ | ⟨componentJars, w₅, hlibraries, h⟩
  · cases he
  rcases run_bind_cases h with ⟨e, -, he⟩ | ⟨android, w₆, handroid, h⟩
  · cases he
  cases h
  have h₅ := (hget androidJar).remembers handroid
  have h₄ := ((settles_gather (settles_componentJar _) _ _).remembers hlibraries).trans h₅
  have h₃ := ((settles_gather settles_extensionJar _ _).remembers hextensions).trans h₄
  have h₂ := ((hget componentsJar).remembers hcomponents).trans h₃
  have h₁ := ((hget acraJar).remembers hacra).trans h₂
  refine ⟨⟨kawa, acra, components, android⟩, rfl, ⟨?_, ?_, ?_, ?_⟩, ?_, ?_⟩
  · exact (hknown hkawa).mono h₁
  · exact (hknown hacra).mono h₂
  · exact (hknown hcomponents).mono h₃
  · exact hknown handroid
  · exact (gathered_of_run settles_extensionJar hextensions).mono h₄
  · exact (gathered_of_run (settles_componentJar _) hlibraries).mono h₅

/-! ## A build around its class path -/

/-- A build up to its class path: the build, the paths, and the libraries among them. -/
def untilClasspath (s : Services ρ) (project : Project) (types : List String)
    (options : BuildOptions) : Step ρ (Build × List Path × Libraries) := do
  let b ← prepare project types options
  b.installIcon
  b.addResources
  b.writeManifest s
  b.attach
  Step.say "Compiling source files"
  if !(← Step.onFiles .compile (Compiler.hasUserCode b.project.sources)) then throw .noUserCode
  let (entries, libraries) ← Step.within .compile b.compileAgainst
  return (b, entries, libraries)

/-- A build that has its class path. -/
def afterClasspath (s : Services ρ) (b : Build) (entries : List Path) (libraries : Libraries) :
    Step ρ Artifacts := do
  let classpath ← Step.within .compile (Compiler.classpath entries)
  let java ← Step.tool .compile fun tree start => s.toolchain.javaTool s.env tree start "java"
  let runtime ← Step.resource .compile "files/runtime.scm"
  Step.onFiles .compile (Task.makeDirs b.layout.classes)
  let _ ← b.callCompiler s (Compiler.command java b.options.heap classpath runtime
    b.layout.classes (b.package s) b.project.sources)
  b.judgeCompiler
  b.afterCompiler s libraries

theorem run_eq_around_classpath (s : Services ρ) (project : Project) (types : List String)
    (options : BuildOptions) : run s project types options = (do
      let (b, entries, libraries) ← untilClasspath s project types options
      b.afterClasspath s entries libraries) := by
  rw [run_eq_around_compiler]
  simp only [untilCompiler, untilClasspath, afterClasspath, compilerCall, bind_assoc, pure_bind]
  refine bind_congr fun b => bind_congr fun _ => bind_congr fun _ => bind_congr fun _ => ?_
  refine bind_congr fun _ => bind_congr fun _ => bind_congr fun found => ?_
  cases found with
  | true => simp only [Bool.not_true, Bool.false_eq_true, if_false, bind_assoc, pure_bind]
  | false => rfl

theorem run_around_classpath (s : Services ρ) (project : Project) (types : List String)
    (options : BuildOptions) (σ : Session ρ) : (run s project types options).run σ =
      match (untilClasspath s project types options).run σ with
      | (.ok (b, entries, libraries), σ₁) => (b.afterClasspath s entries libraries).run σ₁
      | (.error e, σ₁) => (.error e, σ₁) := by
  rw [run_eq_around_classpath, run_bind]
  rcases (untilClasspath s project types options).run σ with ⟨_ | _, _⟩
  · rfl
  · rfl

theorem quiet_untilClasspath (s : Services ρ) (project : Project) (types : List String)
    (options : BuildOptions) : Step.Quiet (untilClasspath s project types options) := by
  unfold untilClasspath
  refine (quiet_prepare project types options).bind fun b => ?_
  refine (quiet_installIcon b).bind fun _ => (quiet_addResources b).bind fun _ => ?_
  refine (quiet_writeManifest s b).bind fun _ => (quiet_attach b).bind fun _ => ?_
  refine (Step.quiet_say _).bind fun _ => (Step.quiet_onFiles _ _).bind fun found => ?_
  cases found with
  | true => exact (Step.quiet_within _ _).bind fun _ => Step.quiet_pure _
  | false => exact Step.quiet_throw _

theorem ends_compileAgainst (b : Build) :
    Step.Ends (Step.within .compile b.compileAgainst : Step ρ (List Path × Libraries))
      fun found σ => ∃ r : RuntimeJars, found.1 = r.classpath found.2 ∧
        b.Finds r found.2 σ.workspace := by
  rintro σ ⟨entries, libraries⟩ σ' h
  unfold Step.within at h
  rw [Step.run_work, Prod.mk.injEq] at h
  obtain ⟨hr, rfl⟩ := h
  exact finds_of_run (Task.run_of_explain (Prod.ext hr rfl))

/-- What is found for the class path is known where the build goes on from it. -/
theorem ends_untilClasspath (s : Services ρ) (project : Project) (types : List String)
    (options : BuildOptions) :
    Step.Ends (untilClasspath s project types options) fun reached σ =>
      ∃ r : RuntimeJars, reached.2.1 = r.classpath reached.2.2 ∧
        reached.1.Finds r reached.2.2 σ.workspace := by
  unfold untilClasspath
  refine Step.ends_bind fun b => Step.ends_bind fun _ => Step.ends_bind fun _ => ?_
  refine Step.ends_bind fun _ => Step.ends_bind fun _ => Step.ends_bind fun _ => ?_
  refine Step.ends_bind fun found => ?_
  cases found with
  | false => exact Step.ends_throw _
  | true => exact (ends_compileAgainst b).bind_pure fun _ _ h => h

/-! ## What goes on record -/

variable {b : Build} {m : DexMerger}

/-- The merge is one that the plan of an attempt has. -/
def IsPlanned (b : Build) (plan : DexAttempt → DexPlan) (c : Merge) : Prop :=
  ∃ attempt, (c.output = b.primaryDex ∧ c.inputs = (plan attempt).primary) ∨
    (c.output = b.secondaryDex ∧ c.inputs = (plan attempt).secondary)

theorem Attempts.isPlanned {plan : DexAttempt → DexPlan} (attempt : DexAttempt)
    {r : Except BuildError (Option (List Path))} {l : List Event}
    (h : Attempts b m (plan attempt) r l) : ∀ c ∈ Event.merges l, b.IsPlanned plan c := by
  obtain ⟨made, seconds, hmerges, hends⟩ := h.merges
  intro c hc
  rw [hmerges, List.mem_cons] at hc
  rcases hc with rfl | hc
  · exact ⟨attempt, .inl ⟨rfl, rfl⟩⟩
  · rcases hends.planned with rfl | ⟨made₂, rfl⟩
    · cases hc
    · rw [List.mem_singleton.1 hc]
      exact ⟨attempt, .inr ⟨rfl, rfl⟩⟩

theorem Converts.isPlanned {plan : DexAttempt → DexPlan} {r : Except BuildError (List Path)}
    {l : List Event} (h : Converts b m plan r l) : ∀ c ∈ Event.merges l, b.IsPlanned plan c := by
  cases h with
  | once attempt accepted => exact attempt.isPlanned .full
  | @twice r l l' refused attempt =>
    intro c hc
    rw [Event.merges_append, refused.merges] at hc
    rcases List.mem_append.1 hc with hc | hc
    · rw [List.mem_singleton.1 hc]
      exact ⟨.full, .inl ⟨rfl, rfl⟩⟩
    · exact attempt.isPlanned .conservative c hc

/-- What the compiler is called with are these paths, and what is merged is what the plans have. -/
def Agrees (b : Build) (entries : List Path) (plan : DexAttempt → DexPlan) : Event → Prop
  | .called command _ _ => Use.of b.layout command = .compile →
      Compiler.CompilesAgainst entries command
  | .merged output inputs outcome => b.IsPlanned plan ⟨output, inputs, outcome⟩
  | _ => True

theorem agrees_of_telling {entries : List Path} {plan : DexAttempt → DexPlan} {e : Event}
    (h : e.isTelling = true) : b.Agrees entries plan e := by
  cases e <;> trivial

theorem ConvertsHolding.agrees {s : Services ρ} {entries : List Path}
    {plan : DexAttempt → DexPlan} {r : Except BuildError (List Path)} {l : List Event}
    (h : ConvertsHolding s b plan r l) : ∀ e ∈ l, b.Agrees entries plan e := by
  cases h with
  | early e => simp
  | @held m r l merger converts =>
    intro e he
    rw [List.mem_cons, List.mem_append, List.mem_singleton] at he
    rcases he with rfl | he | rfl
    · trivial
    · rcases converts.mem e he with ⟨c, hc⟩ | ⟨output, inputs, answer, rfl⟩
      · have hplanned := converts.isPlanned c (List.mem_filterMap.2 ⟨e, he, hc⟩)
        cases e with
        | merged output inputs outcome =>
          cases hc
          exact hplanned
        | _ => cases hc
      · intro huse
        rw [Use.of_dex] at huse
        exact absurd huse (Use.ofOutput_ne_compile _ _)
    · trivial

/-! ## From the class path on -/

end Build

namespace Step

variable {w : Workspace} {P : Event → Prop} {x : Step ρ α}

/-- The step adds nothing but events with `P`. -/
def Only (P : Event → Prop) (x : Step ρ α) : Prop := Records x fun _ added => ∀ e ∈ added, P e

theorem Only.bind {f : α → Step ρ β} (hx : Only P x) (hf : ∀ a, Only P (f a)) :
    Only P (x >>= f) :=
  Records.bind hx hf (fun _ _ h => h) fun _ _ _ _ hl hm e he =>
    (List.mem_append.1 he).elim (hl e) (hm e)

theorem only_pure (a : α) : Only P (pure a : Step ρ α) := records_pure (by simp)

theorem only_forM {f : α → Step ρ PUnit} (h : ∀ a, Only P (f a)) (as : List α) :
    Only P (as.forM f) := by
  induction as with
  | nil => exact only_pure _
  | cons a as ih => exact (h a).bind fun _ => ih

/-- What is told is not looked at. -/
theorem Does.only {R : Except BuildError α → List Event → Prop} (h : Does x R)
    (htelling : ∀ e : Event, e.isTelling = true → P e) (hP : ∀ r l, R r l → ∀ e ∈ l, P e) :
    Only P x := by
  refine Records.mono h fun r added hr e he => ?_
  by_cases ht : e.isTelling = true
  · exact htelling e ht
  · exact hP r _ hr e (List.mem_filter.2 ⟨he, by simpa using ht⟩)

theorem Quiet.only (h : Quiet x) (htelling : ∀ e : Event, e.isTelling = true → P e) : Only P x :=
  Records.mono h fun _ _ hq e he => htelling e (hq e he)

/-- From this session, the step adds nothing but events with `P`. -/
def Adds (P : Event → Prop) (x : Step ρ α) (σ : Session ρ) : Prop :=
  ∃ added, (x.run σ).2.events = σ.events ++ added ∧ ∀ e ∈ added, P e

theorem Adds.bind {f : α → Step ρ β} {σ : Session ρ} (hx : Adds P x σ)
    (hf : ∀ a, Adds P (f a) (x.run σ).2) : Adds P (x >>= f) σ := by
  obtain ⟨l, hl, hPl⟩ := hx
  unfold Adds
  rw [run_bind]
  rcases hr : x.run σ with ⟨e | a, σ'⟩
  · rw [hr] at hl
    exact ⟨l, hl, hPl⟩
  · rw [hr] at hl hf
    obtain ⟨m, hm, hPm⟩ := hf a
    refine ⟨l ++ m, ?_, fun e he => (List.mem_append.1 he).elim (hPl e) (hPm e)⟩
    simp only at hl hm ⊢
    rw [hm, hl, List.append_assoc]

/-- A step that gives a value and changes nothing adds nothing. -/
theorem Adds.after {f : α → Step ρ β} {σ : Session ρ} {a : α} (h : x.run σ = (.ok a, σ))
    (hf : Adds P (f a) σ) : Adds P (x >>= f) σ := by
  unfold Adds
  rw [run_bind, h]
  exact hf

/-- From every session that remembers what `w` does, the step adds nothing but events with `P`. -/
def Shows (w : Workspace) (P : Event → Prop) (x : Step ρ α) : Prop :=
  ∀ σ, Remembers w σ.workspace → Adds P x σ

theorem Only.shows (h : Only P x) : Shows w P x := fun σ _ => h σ

/-- After a step that forgets nothing the next may go by what is remembered. -/
theorem Only.bind_shows {f : α → Step ρ β} (hx : Only P x) (hkeeps : Keeps Remembers x)
    (hf : ∀ a, Shows w P (f a)) : Shows w P (x >>= f) :=
  fun σ hσ => Adds.bind (hx σ) fun a => hf a _ (hσ.trans (hkeeps σ))

/-- After a step that goes by what is remembered the next need not. -/
theorem Shows.bind_only {f : α → Step ρ β} (hx : Shows w P x) (hf : ∀ a, Only P (f a)) :
    Shows w P (x >>= f) :=
  fun σ hσ => (hx σ hσ).bind fun a => hf a _

/-- What is known is given as it is. -/
theorem shows_bind_known {task : Task BuildError α} {a : α} {f : α → Step ρ β}
    (h : Task.Known task a w) (hf : Shows w P (f a)) : Shows w P (work task >>= f) := by
  intro σ hσ
  refine Adds.after ?_ (hf σ hσ)
  rw [run_work, h σ.workspace hσ]

end Step

namespace Build

variable {b : Build} {w : Workspace} {entries : List Path} {plan : DexAttempt → DexPlan}
variable {R : Workspace → Workspace → Prop} [Lasting R]

theorem Quiet.agrees {x : Step ρ α} (h : Step.Quiet x) : Step.Only (b.Agrees entries plan) x :=
  h.only fun _ => agrees_of_telling

/-- A call that is not of the compiler. -/
theorem CallsFor.agrees {x : Step ρ α} {use : Use} (h : Step.CallsFor b.layout use x)
    (hne : use ≠ .compile) : Step.Only (b.Agrees entries plan) x := by
  refine Step.Does.only h (fun _ => agrees_of_telling) ?_
  rintro r l (⟨rfl, -⟩ | ⟨command, seconds, answer, huse, rfl, -⟩) e he
  · cases he
  · rw [List.mem_singleton.1 he]
    intro hcompile
    exact absurd (huse.symm.trans hcompile) hne

theorem agrees_callCompiler (s : Services ρ) {command : Command}
    (h : Compiler.CompilesAgainst entries command) :
    Step.Only (b.Agrees entries plan) (b.callCompiler s command) := by
  unfold callCompiler
  refine Step.Only.bind ?_ fun output => (Quiet.agrees (Step.quiet_record rfl)).bind fun _ =>
    (Quiet.agrees (Step.quiet_sayTook _)).bind fun _ => Step.only_pure _
  refine Step.Records.mono (Step.Records.holding _ (Step.records_call _ _ _ _)) ?_
  rintro r _ ⟨_, ⟨answer, rfl, -⟩, rfl⟩ e he
  simp only [List.singleton_append, List.mem_cons, List.not_mem_nil, or_false] at he
  rcases he with rfl | rfl | rfl
  · trivial
  · exact fun _ => h
  · trivial

theorem keeps_callCompiler (s : Services ρ) (b : Build) (command : Command) :
    Step.Keeps R (b.callCompiler s command) := by
  unfold callCompiler
  refine (Step.Keeps.holding _ (Step.keeps_call _ _ _ _)).bind fun output => ?_
  refine (Step.keeps_record _).bind fun _ => (Step.keeps_record _).bind fun _ => leads_pure _

theorem quiet_judgeCompiler (b : Build) : Step.Quiet (b.judgeCompiler : Step ρ Unit) := by
  unfold judgeCompiler
  refine Step.quiet_get.bind fun σ => ?_
  simp only
  split
  · exact Step.quiet_throw _
  · exact Step.quiet_pure _

theorem keeps_judgeCompiler (b : Build) : Step.Keeps R (b.judgeCompiler : Step ρ Unit) := by
  unfold judgeCompiler
  refine leads_get.bind fun σ => ?_
  simp only
  split
  · exact leads_throw _
  · exact leads_pure _

theorem keeps_aapt (s : Services ρ) (stage : Stage) : Step.Keeps R (aapt s stage) := by
  unfold aapt
  exact (Step.keeps_tool _ _).bind fun _ => Step.keeps_resource _ _

theorem keeps_compileResourceClasses (s : Services ρ) (b : Build) :
    Step.Keeps R (b.compileResourceClasses s) := by
  unfold compileResourceClasses generateResourceClasses
  refine (Step.keeps_record _).bind fun _ => Leads.bind ?_ fun _ => ?_
  · refine (keeps_aapt s .aapt).bind fun aapt => (Step.keeps_resource _ _).bind fun android => ?_
    refine (Step.keeps_onFiles (Task.leads_makeDirs _) _).bind fun _ => leads_forM (fun _ => ?_) _
    exact (Step.keeps_callSuccessfully _ _ _ _).bind fun _ => Step.keeps_record _
  · refine (Step.keeps_record _).bind fun _ => (Step.keeps_tool _ _).bind fun javac => ?_
    exact Step.keeps_callSuccessfully _ _ _ _

theorem agrees_compileResourceClasses (s : Services ρ) (b : Build) :
    Step.Only (b.Agrees entries plan) (b.compileResourceClasses s) := by
  unfold compileResourceClasses generateResourceClasses
  refine (Quiet.agrees (Step.quiet_say _)).bind fun _ => Step.Only.bind ?_ fun _ => ?_
  · refine (Quiet.agrees (quiet_aapt s .aapt)).bind fun aapt => ?_
    refine (Quiet.agrees (Step.quiet_resource _ _)).bind fun android => ?_
    refine (Quiet.agrees (Step.quiet_onFiles _ _)).bind fun _ => ?_
    exact Step.only_forM (fun package =>
      CallsFor.agrees (callsFor_generateResourceClass s b aapt android package) (by simp)) _
  · exact CallsFor.agrees (callsFor_compileClasses s b) (by simp)

theorem known_runtimeJars {r : RuntimeJars} (h : r.Known w) :
    Task.Known runtimeJars [r.components, r.kawa, r.acra] w := by
  have hknown : ∀ {jar p}, Task.Known (Resources.get jar) p w →
      Task.Known (Task.explain (BuildError.stage .dx)
        (Task.explain Cause.resource (Resources.get jar))) p w :=
    fun hjar => (hjar.explain _).explain _
  refine Task.known_mapM (.cons (hknown h.components) ?_)
  exact .cons (hknown h.kawa) (.cons (hknown h.acra) .nil)

/-- The conversion finds the jars again that the class path has. -/
theorem shows_convert {s : Services ρ} {r : RuntimeJars} (h : r.Known w) (l : Libraries) :
    Step.Shows w (b.Agrees entries (r.plan s b l)) (b.convert s l) := by
  rw [convert_eq]
  refine (Quiet.agrees (Step.quiet_say _)).bind_shows (Step.keeps_record _) fun _ => ?_
  intro σ hσ
  have hjars : ([componentsJar, kawaJar, acraJar].mapM (Step.resource .dx)).run σ =
      (.ok [r.components, r.kawa, r.acra], σ) := by
    have hrun := Step.run_mapM_work (fun jar => Task.explain (.stage .dx)
      (Task.explain .resource (Resources.get jar))) [componentsJar, kawaJar, acraJar] σ
    rw [show (List.mapM _ _ : Task BuildError (List Path)) = runtimeJars from rfl,
      known_runtimeJars h _ hσ] at hrun
    exact hrun
  refine Step.Adds.after hjars ?_
  refine (Step.Does.only (does_convertOver s b l _) (fun _ => agrees_of_telling) ?_).shows σ hσ
  exact fun r l hl => hl.agrees

theorem shows_afterCompiler {s : Services ρ} {r : RuntimeJars} (h : r.Known w) (l : Libraries) :
    Step.Shows w (b.Agrees entries (r.plan s b l)) (b.afterCompiler s l) := by
  have hrest : ∀ robot, Step.Shows w (b.Agrees entries (r.plan s b l)) (do
      let dexFiles ← b.convert s l
      let intermediate ← b.packResources s
      b.addCode s intermediate dexFiles
      b.sign s
      b.align s
      Step.record (.noted .finished)
      return ({ apk := b.apk, dexFiles, robot } : Artifacts)) := by
    intro robot
    refine (shows_convert h l).bind_only fun dexFiles => ?_
    refine (CallsFor.agrees (callsFor_packResources s b) (by simp)).bind fun intermediate => ?_
    refine (CallsFor.agrees (callsFor_addCode s b _ _) (by simp)).bind fun _ => ?_
    refine (CallsFor.agrees (callsFor_sign s b) (by simp)).bind fun _ => ?_
    refine (CallsFor.agrees (callsFor_align s b) (by simp)).bind fun _ => ?_
    exact (Quiet.agrees (Step.quiet_record rfl)).bind fun _ => Step.only_pure _
  unfold afterCompiler
  refine (Quiet.agrees (Step.quiet_reach _)).bind_shows (Step.keeps_record _) fun _ => ?_
  cases b.survey.robot
  · exact hrest false
  · exact (agrees_compileResourceClasses s b).bind_shows (keeps_compileResourceClasses s b)
      fun _ => hrest true

/-- A build that has its class path calls the compiler with it and converts what it has. -/
theorem shows_afterClasspath {s : Services ρ} {r : RuntimeJars} (h : r.Known w) {l : Libraries}
    {classpath : String} (hne : entries ≠ [])
    (hclasspath : Compiler.classpath entries = .ok classpath) :
    Step.Shows w (b.Agrees entries (r.plan s b l)) (b.afterClasspath s entries l) := by
  have hcall : ∀ java runtime, Compiler.CompilesAgainst entries (Compiler.command java
      b.options.heap classpath runtime b.layout.classes (b.package s) b.project.sources) :=
    fun java runtime => Compiler.compilesAgainst_command hne hclasspath _ _ _ _ _ _
  unfold afterClasspath
  rw [hclasspath]
  refine Step.shows_bind_known (a := classpath) (fun _ _ => rfl) ?_
  refine (Quiet.agrees (Step.quiet_tool _ _)).bind_shows (Step.keeps_tool _ _) fun java => ?_
  refine (Quiet.agrees (Step.quiet_resource _ _)).bind_shows (Step.keeps_resource _ _)
    fun runtime => ?_
  refine (Quiet.agrees (Step.quiet_onFiles _ _)).bind_shows
    (Step.keeps_onFiles (Task.leads_makeDirs _) _) fun _ => ?_
  refine (agrees_callCompiler s (hcall java runtime)).bind_shows (keeps_callCompiler s b _)
    fun output => ?_
  refine (Quiet.agrees (quiet_judgeCompiler b)).bind_shows (keeps_judgeCompiler b) fun _ => ?_
  exact shows_afterCompiler h l

/-- A path with a colon ends the build before the compiler is called. -/
theorem record_afterClasspath {s : Services ρ} {r : RuntimeJars} {l : Libraries} {σ : Session ρ}
    (h : r.Known σ.workspace) :
    ∃ added, ((b.afterClasspath s (r.classpath l) l).run σ).2.events = σ.events ++ added ∧
      (∀ e ∈ added, b.Agrees (r.classpath l) (r.plan s b l) e) ∧
      ((∃ p ∈ r.classpath l, ':' ∈ p.text.toList) →
        ((b.afterClasspath s (r.classpath l) l).run σ).1 =
          .error (.stage .compile .separatorInPath) ∧ added = []) := by
  by_cases hcolon : ∃ p ∈ r.classpath l, ':' ∈ p.text.toList
  · have hrun : (b.afterClasspath s (r.classpath l) l).run σ =
        (.error (.stage .compile .separatorInPath), σ) := by
      unfold afterClasspath
      rw [Compiler.classpath_of_colon hcolon, run_bind]
      rfl
    rw [hrun]
    exact ⟨[], by simp, by simp, fun _ => ⟨rfl, rfl⟩⟩
  · obtain ⟨classpath, hclasspath⟩ := Compiler.exists_classpath hcolon
    obtain ⟨added, hadded, hagrees⟩ := shows_afterClasspath (b := b) (s := s) h
      (by simp [RuntimeJars.classpath]) hclasspath σ (Std.Refl.refl _)
    exact ⟨added, hadded, hagrees, fun h => absurd h hcolon⟩

/-! ## The law -/

/-- How the class path of a build and what it converts hang together. All is known in `w`: what is
resolved again is where it was. -/
structure Agreement (s : Services ρ) (b : Build) (r : RuntimeJars) (l : Libraries)
    (w : Workspace) (entries : List Path) : Prop where
  /-- The class path starts with three runtime jars and ends with that of the system. -/
  starts : [r.kawa, r.acra, r.components] <+: entries
  ends : entries.getLast? = some r.android
  runtime : r.Known w
  /-- The classes come first; all other inputs of an attempt are the class path without its end. -/
  inputs : ∀ attempt, ∃ rest, (r.plan s b l attempt).primary = b.layout.classes :: rest ∧
    (rest ++ (r.plan s b l attempt).secondary).Perm entries.dropLast
  /-- The libraries that components need and the jars of extensions are in both. -/
  libraries : ∀ entry ∈ Attachments.entries (b.survey.requirements.of .libraries), ∃ p origin,
    Task.Known (Components.resolve b.survey.components entry.1 entry.2) (p, origin) w ∧
    p.IsAmong entries.dropLast ∧
    ∀ attempt, p.IsAmong ((r.plan s b l attempt).primary ++ (r.plan s b l attempt).secondary)
  extensions : ∀ typeName ∈ b.survey.components.extensions.toList, ∃ p,
    Task.Known (Locator.runtimeJar typeName) p w ∧ p.IsAmong entries.dropLast ∧
    ∀ attempt, p.IsAmong ((r.plan s b l attempt).primary ++ (r.plan s b l attempt).secondary)

theorem known_resolve {sets : ComponentSets} {entry : String × String} {p : Path}
    (h : Task.Known (componentJar sets entry) p w) :
    ∃ origin, Task.Known (Components.resolve sets entry.1 entry.2) (p, origin) w := by
  rcases run_bind_cases h.run with ⟨e, -, he⟩ | ⟨⟨p', origin⟩, w', hr, hp⟩
  · cases he
  · cases hp
    exact ⟨origin, (Components.settles_resolve _ _ _).known hr⟩

theorem Finds.agreement {s : Services ρ} {r : RuntimeJars} {l : Libraries}
    (h : b.Finds r l w) : Agreement s b r l w (r.classpath l) := by
  have hinputs := r.plan_perm s b l
  -- what is in the class path is in the plans
  have hboth : ∀ p : Path, p.IsAmong (l.extensionJars ++ l.componentJars) →
      p.IsAmong (r.classpath l).dropLast ∧
      ∀ attempt, p.IsAmong ((r.plan s b l attempt).primary ++ (r.plan s b l attempt).secondary) := by
    intro p hp
    have hdrop : p.IsAmong (r.classpath l).dropLast := by
      rw [r.dropLast_classpath]
      exact hp.mono fun q hq => by simp [List.mem_append.1 hq]
    refine ⟨hdrop, fun attempt => ?_⟩
    obtain ⟨rest, hprimary, hperm⟩ := hinputs attempt
    rw [hprimary]
    exact hdrop.mono fun q hq => List.mem_cons_of_mem _ (hperm.mem_iff.2 hq)
  constructor
  case starts => exact ⟨_, rfl⟩
  case ends => simp [RuntimeJars.classpath, List.getLast?_cons]
  case runtime => exact h.runtime
  case inputs => exact hinputs
  case libraries =>
    intro entry hentry
    obtain ⟨p, hp, hamong⟩ := h.components.among entry hentry
    obtain ⟨origin, hresolve⟩ := known_resolve hp
    exact ⟨p, origin, hresolve, hboth p (hamong.mono (List.subset_append_right _ _))⟩
  case extensions =>
    intro typeName htype
    obtain ⟨p, hp, hamong⟩ := h.extensions.among typeName htype
    refine ⟨p, Task.known_of_explain hp, hboth p ?_⟩
    exact hamong.mono (List.subset_append_left _ _)

/-- What a build that comes to a class path adds to its record goes by the two lists. -/
theorem exists_added {s : Services ρ} {project : Project} {types : List String}
    {options : BuildOptions} {σ σ₁ : Session ρ} {l : Libraries}
    (h : (untilClasspath s project types options).run σ = (.ok (b, entries, l), σ₁)) :
    ∃ r added, entries = r.classpath l ∧ b.Finds r l σ₁.workspace ∧
      ((run s project types options).run σ).2.events = σ.events ++ added ∧
      (∀ e ∈ added, b.Agrees entries (r.plan s b l) e) ∧
      ((∃ p ∈ entries, ':' ∈ p.text.toList) →
        ((run s project types options).run σ).1 = .error (.stage .compile .separatorInPath) ∧
        Event.deeds added = []) := by
  obtain ⟨early, hearly, hquiet⟩ := quiet_untilClasspath s project types options σ
  have hrun := run_around_classpath s project types options σ
  rw [h] at hearly hrun
  simp only at hearly hrun
  obtain ⟨r, hentries, hfinds⟩ := ends_untilClasspath s project types options _ _ _ h
  simp only at hentries hfinds
  subst hentries
  obtain ⟨late, hlate, hagrees, hcolon⟩ := record_afterClasspath (s := s) (b := b) (l := l)
    hfinds.runtime
  rw [hrun]
  refine ⟨r, early ++ late, rfl, hfinds, ?_, fun e he => ?_, fun hin => ?_⟩
  · rw [hlate, hearly, List.append_assoc]
  · exact (List.mem_append.1 he).elim (fun h => agrees_of_telling (hquiet e h)) (hagrees e)
  · obtain ⟨hr, rfl⟩ := hcolon hin
    exact ⟨hr, Event.deeds_eq_nil (by simpa using hquiet)⟩

/-- A build that does not come to a class path makes no call. One that does compiles against it and
converts the same jars, in both attempts: all that its record has of the compiler and of merges
goes by the two lists. A path with a colon ends the build before the compiler is called. -/
theorem code_is_converted_with_all_it_was_compiled_against (s : Services ρ) (project : Project)
    (types : List String) (options : BuildOptions) (σ : Session ρ) :
    ∃ added, ((run s project types options).run σ).2.events = σ.events ++ added ∧
    (∀ e σ₁, (untilClasspath s project types options).run σ = (.error e, σ₁) →
      ((run s project types options).run σ).1 = .error e ∧ Event.deeds added = []) ∧
    ∀ b entries l σ₁,
      (untilClasspath s project types options).run σ = (.ok (b, entries, l), σ₁) →
      ∃ r, Agreement s b r l σ₁.workspace entries ∧
        (∀ e ∈ added, b.Agrees entries (r.plan s b l) e) ∧
        ((∃ p ∈ entries, ':' ∈ p.text.toList) →
          ((run s project types options).run σ).1 = .error (.stage .compile .separatorInPath) ∧
          Event.deeds added = []) := by
  rcases huntil : (untilClasspath s project types options).run σ with
    ⟨e | ⟨b, entries, l⟩, σ₁⟩
  · obtain ⟨early, hearly, hquiet⟩ := quiet_untilClasspath s project types options σ
    have hrun := run_around_classpath s project types options σ
    rw [huntil] at hearly hrun
    rw [hrun]
    refine ⟨early, hearly, ?_, by rintro _ _ _ _ ⟨⟩⟩
    rintro _ _ ⟨⟩
    exact ⟨rfl, Event.deeds_eq_nil hquiet⟩
  · obtain ⟨r, added, rfl, hfinds, hadded, hagrees, hcolon⟩ := exists_added huntil
    refine ⟨added, hadded, by rintro _ _ ⟨⟩, ?_⟩
    rintro _ _ _ _ ⟨⟩
    exact ⟨r, hfinds.agreement, hagrees, hcolon⟩

end Build

end ApkForge
