-- How often a jar is listed. What an app is compiled against and converted from is put together
-- from jars of several kinds: those that every app has, those of extensions, and those that
-- components need. Each kind lists a jar once; nobody looks whether two kinds list the same.
import ApkForge.Proofs.PrivateCopies

namespace ApkForge

variable {ρ : Type}

/-! ## Lists without repetition -/

namespace Path

/-- No path of one list names a file that the other has too. -/
def Apart (paths others : List Path) : Prop := ∀ p ∈ paths, ∀ q ∈ others, p.same q = false

instance (paths : List Path) : Decidable (Distinct paths) :=
  inferInstanceAs (Decidable (List.Pairwise _ paths))

theorem distinct_append {paths others : List Path} :
    Distinct (paths ++ others) ↔ Distinct paths ∧ Distinct others ∧ Apart paths others :=
  List.pairwise_append

theorem distinct_perm {paths paths' : List Path} (h : paths.Perm paths') :
    Distinct paths ↔ Distinct paths' :=
  h.pairwise_iff fun hpq => by rwa [same_comm]

theorem Apart.symm {paths others : List Path} (h : Apart paths others) : Apart others paths :=
  fun q hq p hp => by rw [same_comm, h p hp q hq]

theorem apart_append {paths others others' : List Path} :
    Apart paths (others ++ others') ↔ Apart paths others ∧ Apart paths others' := by
  simp only [Apart, List.mem_append, or_imp, forall_and]

/-- Paths that one file is among are not apart. -/
theorem IsAmong.not_apart {p : Path} {paths others : List Path} (hp : p.IsAmong paths)
    (hq : p.IsAmong others) : ¬ Apart paths others := by
  obtain ⟨p₁, hp₁, hsame₁⟩ := hp
  obtain ⟨p₂, hp₂, hsame₂⟩ := hq
  intro hapart
  have hdiff := hapart p₁ hp₁ p₂ hp₂
  simp only [same, beq_iff_eq] at hsame₁ hsame₂
  simp [same, ← hsame₁, ← hsame₂] at hdiff

end Path

namespace Build

/-- The libraries that components need, each with its component. -/
def libraryEntries (b : Build) : List (String × String) :=
  Attachments.entries (b.survey.requirements.of .libraries)

/-- A component that is built in needs one of these runtime files as a library, by its name. -/
def NeedsAgain (b : Build) (jars : List String) : Prop :=
  ∃ entry ∈ b.libraryEntries, b.survey.components.hasBuiltin entry.1 = true ∧
    ∃ jar ∈ jars, Resources.key ("files/" ++ entry.2) = Resources.key jar

theorem NeedsAgain.mono {b : Build} {jars jars' : List String} (h : b.NeedsAgain jars)
    (hsub : jars ⊆ jars') : b.NeedsAgain jars' := by
  obtain ⟨entry, hentry, hbuiltin, jar, hjar, hkey⟩ := h
  exact ⟨entry, hentry, hbuiltin, jar, hsub hjar, hkey⟩

/-- An extension needs its own jar as a library. -/
def NeedsItself (b : Build) : Prop :=
  ∃ typeName ∈ b.survey.components.extensions.toList,
    b.survey.components.hasBuiltin typeName = false ∧
    (typeName, "AndroidRuntime.jar") ∈ b.libraryEntries

variable {b : Build} {r : RuntimeJars} {l : Libraries} {w : Workspace}

/-! ## Jars of one kind -/

/-- The jars that every app has to do with, by their names. -/
def RuntimeJars.rows (r : RuntimeJars) : List (String × Path) :=
  [(kawaJar, r.kawa), (acraJar, r.acra), (componentsJar, r.components), (androidJar, r.android)]

/-- Those of them that are converted. -/
def RuntimeJars.convertedRows (r : RuntimeJars) : List (String × Path) :=
  [(componentsJar, r.components), (kawaJar, r.kawa), (acraJar, r.acra)]

def RuntimeJars.all (r : RuntimeJars) : List Path := r.rows.map Prod.snd

def RuntimeJars.converted (r : RuntimeJars) : List Path := r.convertedRows.map Prod.snd

theorem RuntimeJars.Known.of_mem (h : r.Known w) :
    ∀ row ∈ r.rows, Task.Known (Resources.get row.1) row.2 w := by
  simp only [rows, List.mem_cons, List.not_mem_nil, or_false]
  rintro _ (rfl | rfl | rfl | rfl)
  · exact h.kawa
  · exact h.acra
  · exact h.components
  · exact h.android

theorem RuntimeJars.convertedRows_subset (r : RuntimeJars) : r.convertedRows ⊆ r.rows := by
  simp [rows, convertedRows]

/-- Known runtime files of different names are different files. -/
theorem distinct_of_known (hsound : w.resources.Sound) {rows : List (String × Path)}
    (hknown : ∀ row ∈ rows, Task.Known (Resources.get row.1) row.2 w)
    (hkeys : (rows.map Prod.fst).Pairwise fun jar jar' => Resources.key jar ≠ Resources.key jar') :
    Path.Distinct (rows.map Prod.snd) := by
  refine List.pairwise_map.2 ((List.pairwise_map.1 hkeys).imp_of_mem fun hrow hrow' hne => ?_)
  exact hsound.same_of_known (hknown _ hrow) (hknown _ hrow') hne

/-! ## Jars of two kinds -/

/-- The library of a component that is built in is a runtime file. -/
theorem componentJar_of_builtin {sets : ComponentSets} {entry : String × String}
    (h : sets.hasBuiltin entry.1 = true) : componentJar sets entry =
      Task.explain .resource (Resources.get ("files/" ++ entry.2)) := by
  unfold componentJar Components.resolve
  rw [if_pos h, bind_assoc]
  simp only [pure_bind, bind_pure]

/-- An extension's own jar is found as a library where it is found as code. -/
theorem componentJar_of_extension {sets : ComponentSets} {typeName : String}
    (hbuiltin : sets.hasBuiltin typeName = false) (h : typeName ∈ sets.extensions.toList) :
    componentJar sets (typeName, "AndroidRuntime.jar") = extensionJar typeName := by
  unfold componentJar Components.resolve
  rw [if_neg (by simp [hbuiltin]), if_pos (NameSet.contains_iff.2 h), bind_assoc]
  simp only [pure_bind, bind_pure]
  rfl

theorem hasBuiltin_of_known {sets : ComponentSets} {entry : String × String} {p : Path}
    (hplain : sets.extensions.toList = []) (h : Task.Known (componentJar sets entry) p w) :
    sets.hasBuiltin entry.1 = true := by
  by_contra hbuiltin
  have hrun := h.run
  unfold componentJar Components.resolve at hrun
  rw [if_neg hbuiltin, if_neg (by simp [NameSet.contains, hplain])] at hrun
  cases hrun

variable {rows : List (String × Path)}

theorem Finds.not_apart_of_needsAgain (h : b.Finds r l w)
    (hknown : ∀ row ∈ rows, Task.Known (Resources.get row.1) row.2 w)
    (hneeds : b.NeedsAgain (rows.map Prod.fst)) :
    ¬ Path.Apart (rows.map Prod.snd) l.componentJars := by
  obtain ⟨entry, hentry, hbuiltin, jar, hjar, hkey⟩ := hneeds
  obtain ⟨row, hrow, rfl⟩ := List.mem_map.1 hjar
  obtain ⟨p, hp, hamong⟩ := h.components.among entry hentry
  rw [componentJar_of_builtin hbuiltin] at hp
  have heq := Resources.eq_of_known (Task.known_of_explain hp) (hknown row hrow) hkey
  refine Path.IsAmong.not_apart (p := p) ?_ hamong
  exact ⟨row.2, List.mem_map_of_mem hrow, by rw [heq, Path.same_self]⟩

/-- Without extensions, all libraries are runtime files. -/
theorem Finds.apart_of_plain (h : b.Finds r l w) (hsound : w.resources.Sound)
    (hplain : b.survey.components.extensions.toList = [])
    (hknown : ∀ row ∈ rows, Task.Known (Resources.get row.1) row.2 w)
    (hneeds : ¬ b.NeedsAgain (rows.map Prod.fst)) :
    Path.Apart (rows.map Prod.snd) l.componentJars := by
  intro q hq p hp
  obtain ⟨row, hrow, rfl⟩ := List.mem_map.1 hq
  rcases h.components.only p hp with hin | ⟨entry, hentry, hknownJar⟩
  · cases hin
  · have hbuiltin := hasBuiltin_of_known hplain hknownJar
    rw [componentJar_of_builtin hbuiltin] at hknownJar
    refine hsound.same_of_known (hknown row hrow) (Task.known_of_explain hknownJar) fun hkey => ?_
    exact hneeds ⟨entry, hentry, hbuiltin, row.1, List.mem_map_of_mem hrow, hkey.symm⟩

theorem Finds.extensionJars_eq_nil (h : b.Finds r l w)
    (hplain : b.survey.components.extensions.toList = []) : l.extensionJars = [] := by
  refine List.eq_nil_iff_forall_not_mem.2 fun p hp => ?_
  rcases h.extensions.only p hp with hin | ⟨a, ha, -⟩
  · cases hin
  · rw [hplain] at ha
    cases ha

/-- The jar of an extension is one file, whether it is needed as its code or as a library. -/
theorem Finds.not_apart_of_needsItself (h : b.Finds r l w) (hneeds : b.NeedsItself) :
    ¬ Path.Apart l.extensionJars l.componentJars := by
  obtain ⟨typeName, htype, hbuiltin, hentry⟩ := hneeds
  obtain ⟨p, hp, hamong⟩ := h.extensions.among typeName htype
  obtain ⟨q, hq, hamong'⟩ := h.components.among _ hentry
  rw [componentJar_of_extension hbuiltin htype] at hq
  have hrun := hp.run
  rw [hq.run] at hrun
  cases hrun
  exact Path.IsAmong.not_apart hamong hamong'

/-! ## The two lists -/

/-- All that an attempt converts. -/
def RuntimeJars.inputs (r : RuntimeJars) (s : Services ρ) (b : Build) (l : Libraries)
    (attempt : DexAttempt) : List Path :=
  (r.plan s b l attempt).primary ++ (r.plan s b l attempt).secondary

theorem RuntimeJars.classpath_perm (r : RuntimeJars) (l : Libraries) :
    (r.classpath l).Perm (r.all ++ (l.extensionJars ++ l.componentJars)) := by
  have hsplit : r.classpath l = [r.kawa, r.acra, r.components] ++
      ((l.extensionJars ++ l.componentJars) ++ [r.android]) := by
    simp [classpath]
  have hall : r.all ++ (l.extensionJars ++ l.componentJars) =
      [r.kawa, r.acra, r.components] ++ ([r.android] ++ (l.extensionJars ++ l.componentJars)) := by
    simp [all, rows]
  rw [hsplit, hall]
  exact List.perm_append_comm.append_left _

theorem RuntimeJars.inputs_perm (r : RuntimeJars) (s : Services ρ) (b : Build) (l : Libraries)
    (attempt : DexAttempt) : (r.inputs s b l attempt).Perm
      ([b.layout.classes] ++ (r.converted ++ (l.extensionJars ++ l.componentJars))) := by
  refine (DexPlan.make_perm _ _ s.dexPolicy attempt).trans ?_
  exact (List.perm_append_comm.append_left r.converted).cons b.layout.classes

/-- Where no kind has a path twice, a path that comes twice is of two kinds. -/
theorem RuntimeJars.distinct_classpath {r : RuntimeJars} {l : Libraries}
    (hruntime : Path.Distinct r.all) (hextensions : Path.Distinct l.extensionJars)
    (hcomponents : Path.Distinct l.componentJars) : Path.Distinct (r.classpath l) ↔
      Path.Apart r.all (l.extensionJars ++ l.componentJars) ∧
      Path.Apart l.extensionJars l.componentJars := by
  rw [Path.distinct_perm (r.classpath_perm l), Path.distinct_append, Path.distinct_append]
  tauto

theorem RuntimeJars.distinct_inputs {r : RuntimeJars} {l : Libraries} (s : Services ρ) (b : Build)
    (hruntime : Path.Distinct r.converted) (hextensions : Path.Distinct l.extensionJars)
    (hcomponents : Path.Distinct l.componentJars) (attempt : DexAttempt) :
    Path.Distinct (r.inputs s b l attempt) ↔
      Path.Apart [b.layout.classes] (r.converted ++ (l.extensionJars ++ l.componentJars)) ∧
      Path.Apart r.converted (l.extensionJars ++ l.componentJars) ∧
      Path.Apart l.extensionJars l.componentJars := by
  have hclasses : Path.Distinct [b.layout.classes] := List.pairwise_singleton _ _
  rw [Path.distinct_perm (r.inputs_perm s b l attempt), Path.distinct_append,
    Path.distinct_append, Path.distinct_append]
  tauto

/-- When the class path of a build has a path twice, and when what an attempt converts does. -/
structure Repetition (s : Services ρ) (b : Build) (r : RuntimeJars) (l : Libraries)
    (entries : List Path) : Prop where
  /-- No kind of jars has a path twice. -/
  runtime : Path.Distinct r.all
  extensions : Path.Distinct l.extensionJars
  components : Path.Distinct l.componentJars
  /-- So a path that comes twice is of two kinds. -/
  classpath : Path.Distinct entries ↔ Path.Apart r.all (l.extensionJars ++ l.componentJars) ∧
    Path.Apart l.extensionJars l.componentJars
  inputs : ∀ attempt, Path.Distinct (r.inputs s b l attempt) ↔
    Path.Apart [b.layout.classes] (r.converted ++ (l.extensionJars ++ l.componentJars)) ∧
    Path.Apart r.converted (l.extensionJars ++ l.componentJars) ∧
    Path.Apart l.extensionJars l.componentJars
  /-- One does come twice where a component that is built in needs a runtime jar by its name, or an
  extension its own jar. -/
  repeated : b.NeedsAgain [kawaJar, acraJar, componentsJar, androidJar] ∨ b.NeedsItself →
    ¬ Path.Distinct entries
  repeatedInputs : b.NeedsAgain [componentsJar, kawaJar, acraJar] ∨ b.NeedsItself →
    ∀ attempt, ¬ Path.Distinct (r.inputs s b l attempt)
  /-- Without extensions there is no other way. -/
  otherwise : b.survey.components.extensions.toList = [] →
    ¬ b.NeedsAgain [kawaJar, acraJar, componentsJar, androidJar] → Path.Distinct entries
  otherwiseInputs : b.survey.components.extensions.toList = [] →
    ¬ b.NeedsAgain [componentsJar, kawaJar, acraJar] →
    Path.Apart [b.layout.classes] (r.converted ++ l.componentJars) →
    ∀ attempt, Path.Distinct (r.inputs s b l attempt)

theorem Finds.repetition {s : Services ρ} (h : b.Finds r l w) (hsound : w.resources.Sound) :
    Repetition s b r l (r.classpath l) := by
  have hall := h.runtime.of_mem
  have hconverted : ∀ row ∈ r.convertedRows, Task.Known (Resources.get row.1) row.2 w :=
    fun row hrow => hall row (r.convertedRows_subset hrow)
  have hruntime : Path.Distinct r.all := distinct_of_known hsound hall
    (by decide : [kawaJar, acraJar, componentsJar, androidJar].Pairwise _)
  have hruntime' : Path.Distinct r.converted := distinct_of_known hsound hconverted
    (by decide : [componentsJar, kawaJar, acraJar].Pairwise _)
  have hextensions : Path.Distinct l.extensionJars := h.extensions.distinct .nil
  have hcomponents : Path.Distinct l.componentJars := h.components.distinct .nil
  have hclasspath := RuntimeJars.distinct_classpath hruntime hextensions hcomponents
  have hinputs := RuntimeJars.distinct_inputs s b hruntime' hextensions hcomponents
  constructor
  case runtime => exact hruntime
  case extensions => exact hextensions
  case components => exact hcomponents
  case classpath => exact hclasspath
  case inputs => exact hinputs
  case repeated =>
    rw [hclasspath, Path.apart_append]
    rintro (hneeds | hneeds) hin
    · exact h.not_apart_of_needsAgain hall hneeds hin.1.2
    · exact h.not_apart_of_needsItself hneeds hin.2
  case repeatedInputs =>
    intro hneeds attempt
    rw [hinputs]
    rintro ⟨-, hin, hin'⟩
    rcases hneeds with hneeds | hneeds
    · exact h.not_apart_of_needsAgain hconverted hneeds (Path.apart_append.1 hin).2
    · exact h.not_apart_of_needsItself hneeds hin'
  case otherwise =>
    intro hplain hneeds
    rw [hclasspath, h.extensionJars_eq_nil hplain]
    exact ⟨h.apart_of_plain hsound hplain hall hneeds, by simp [Path.Apart]⟩
  case otherwiseInputs =>
    intro hplain hneeds hclasses attempt
    rw [hinputs, h.extensionJars_eq_nil hplain]
    exact ⟨hclasses, h.apart_of_plain hsound hplain hconverted hneeds, by simp [Path.Apart]⟩

/-! ## A component that needs the jar of the compiler -/

/-- A component that needs the jar of the compiler. -/
def needy : ComponentInfo where
  typeName := "a.Needy"
  fields := [("assets", .arr []), ("activities", .arr []), ("broadcastReceivers", .arr []),
    ("libraries", .arr [.str "kawa.jar"]), ("native", .arr []), ("permissions", .arr [])]

/-- A session on a host with the runtime files, whose catalog has that component. -/
def needySession : Session Rehearsal.Part where
  workspace := Workspace.opened [] hostBuiltOn ⟨"/rt"⟩ ⟨"/tmp/r"⟩
  tools := Rehearsal.Part.ofRules [] []
  catalog := some ⟨[needy]⟩

/-- A build of an app with it, up to its class path. -/
def needyBuild : Except BuildError (Build × List Path × Libraries) × Session Rehearsal.Part :=
  (untilClasspath rehearsed oneScreen ["a.Needy"] ⟨false, ⟨"/k"⟩, 1, none⟩).run needySession

/-- The build came to its class path, and its component needs the jar. -/
def needsKawa : Except BuildError (Build × List Path × Libraries) → Bool
  | .ok (b, _) => b.survey.components.hasBuiltin "a.Needy" &&
      b.libraryEntries.contains ("a.Needy", "kawa.jar")
  | .error _ => false

set_option maxRecDepth 10000 in
theorem needsKawa_needyBuild : needsKawa needyBuild.1 = true := by decide +kernel

theorem sound_needySession : needySession.workspace.resources.Sound := Resources.sound_fresh _ _

theorem exists_of_needsKawa {reached : Except BuildError (Build × List Path × Libraries)}
    (h : needsKawa reached = true) :
    ∃ b entries l, reached = .ok (b, entries, l) ∧ b.NeedsAgain [kawaJar] := by
  rcases reached with e | ⟨b, entries, l⟩
  · cases h
  · simp only [needsKawa, Bool.and_eq_true, List.contains_iff_mem] at h
    exact ⟨b, entries, l, rfl, ("a.Needy", "kawa.jar"), h.2, h.1, kawaJar, by simp, by decide⟩

theorem exists_needyBuild : ∃ b entries l σ₁, needyBuild = (.ok (b, entries, l), σ₁) ∧
    b.NeedsAgain [kawaJar] := by
  have h := needsKawa_needyBuild
  generalize needyBuild = built at h ⊢
  obtain ⟨reached, σ₁⟩ := built
  obtain ⟨b, entries, l, rfl, hneeds⟩ := exists_of_needsKawa h
  exact ⟨b, entries, l, σ₁, rfl, hneeds⟩

/-! ## The law -/

/-- The copies of runtime files stay apart over every build. A build that comes to its class path
lists each kind of jar once, in it and in both attempts at converting, so a path comes twice only
where two kinds have it. -/
theorem jars_are_listed_once_in_each_kind (s : Services ρ) (project : Project)
    (types : List String) (options : BuildOptions) (σ : Session ρ)
    (hsound : σ.workspace.resources.Sound) :
    ((run s project types options).run σ).2.workspace.resources.Sound ∧
    ∀ b entries l σ₁,
      (untilClasspath s project types options).run σ = (.ok (b, entries, l), σ₁) →
      ∃ r added, r.Known σ₁.workspace ∧ entries = r.classpath l ∧ Repetition s b r l entries ∧
        ((run s project types options).run σ).2.events = σ.events ++ added ∧
        ∀ e ∈ added, b.Agrees entries (r.plan s b l) e := by
  refine ⟨sound_run s project types options σ hsound, fun b entries l σ₁ h => ?_⟩
  obtain ⟨r, added, rfl, hfinds, hadded, hagrees, -⟩ := exists_added h
  have hsound₁ := sound_untilClasspath s project types options σ hsound
  simp only [h] at hsound₁
  exact ⟨r, added, hfinds.runtime, rfl, hfinds.repetition hsound₁, hadded, hagrees⟩

/-- A build that comes to its class path from a new session. -/
theorem jars_of_a_needy_app_are_listed_once_in_each_kind :
    needySession.workspace.resources.Sound ∧ ∃ b entries l σ₁ r,
      needyBuild = (.ok (b, entries, l), σ₁) ∧ Repetition rehearsed b r l entries := by
  obtain ⟨b, entries, l, σ₁, hbuild, -⟩ := exists_needyBuild
  obtain ⟨r, -, -, -, hrepetition, -⟩ := (jars_are_listed_once_in_each_kind rehearsed oneScreen
    ["a.Needy"] ⟨false, ⟨"/k"⟩, 1, none⟩ needySession sound_needySession).2 b entries l σ₁ hbuild
  exact ⟨sound_needySession, b, entries, l, σ₁, r, hbuild, hrepetition⟩

/-- A component that names a runtime jar among its libraries has it listed twice, for the compiler
and in both attempts at converting. -/
theorem a_library_named_like_a_runtime_jar_is_listed_twice :
    ∃ (b : Build) (l : Libraries) (r : RuntimeJars) (σ₁ : Session Rehearsal.Part),
      needyBuild = (.ok (b, r.classpath l, l), σ₁) ∧ ¬ Path.Distinct (r.classpath l) ∧
      ∀ attempt, ¬ Path.Distinct (r.inputs rehearsed b l attempt) := by
  obtain ⟨b, entries, l, σ₁, hbuild, hneeds⟩ := exists_needyBuild
  obtain ⟨r, hentries, hfinds⟩ := ends_untilClasspath _ _ _ _ _ _ _ hbuild
  have hsound := sound_untilClasspath rehearsed oneScreen ["a.Needy"] ⟨false, ⟨"/k"⟩, 1, none⟩
    needySession sound_needySession
  rw [show (untilClasspath rehearsed oneScreen ["a.Needy"] ⟨false, ⟨"/k"⟩, 1, none⟩).run
    needySession = _ from hbuild] at hsound
  have hrepetition := hfinds.repetition (s := rehearsed) hsound
  simp only at hentries hrepetition
  subst hentries
  refine ⟨b, l, r, σ₁, hbuild, hrepetition.repeated (.inl ?_), hrepetition.repeatedInputs (.inl ?_)⟩
  · exact hneeds.mono (by simp)
  · exact hneeds.mono (by simp)

end Build

end ApkForge
