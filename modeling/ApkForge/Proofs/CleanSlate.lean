-- Cleaning undoes a build. All that a build changes in its build directory lies among what cleaning
-- takes away, if the archives stay in their directory: they are named by the project, and a name
-- that steps up leads elsewhere.
import ApkForge.Proofs.Clearing
import ApkForge.Proofs.CompilerVerdict

namespace ApkForge

open BuildLayout (Generated)

variable {ρ : Type}

/-! ## Confined work -/

/-- Work that is confined: where paths start, the build directory in which it changes nothing but
what is generated, and the lists that it does not change. -/
structure Confine where
  start : Place
  build : Place
  lists : List Place

namespace Confine

variable {c : Confine} {t₀ t t' : FileTree} {p : Path}

/-- The place is none in the build directory, or one for what is generated. -/
def Allows (c : Confine) (place : Place) : Prop := Below c.build place → Generated c.build place

/-- Compared with `t₀` only what is generated has changed in the build directory, and no list. -/
structure Holds (c : Confine) (t₀ t : FileTree) : Prop where
  rooted : t.Rooted
  kept : ∀ place, Below c.build place → ¬ Generated c.build place → t.at? place = t₀.at? place
  sinks : ∀ name ∈ BuildLayout.generatedNames, t.at? (c.build ++ [name]) ≠ some .sink
  lists : ∀ place ∈ c.lists, t.file? place = t₀.file? place

/-- A tree that changed from one where that holds in allowed places alone. -/
theorem Holds.of_changes (h : c.Holds t₀ t) (hrooted : t'.Rooted)
    (hchanges : ∀ place, t'.at? place ≠ t.at? place → c.Allows place ∧ t'.at? place ≠ some .sink)
    (hlists : ∀ place ∈ c.lists, t'.file? place = t.file? place) : c.Holds t₀ t' where
  rooted := hrooted
  kept place hbelow hnot := by
    rw [← h.kept place hbelow hnot]
    by_contra hchanged
    exact hnot ((hchanges place hchanged).1 hbelow)
  sinks name hname := by
    by_cases hsame : t'.at? (c.build ++ [name]) = t.at? (c.build ++ [name])
    · rw [hsame]
      exact h.sinks name hname
    · exact (hchanges _ hsame).2
  lists place hplace := (hlists place hplace).trans (h.lists place hplace)

theorem Holds.put (h : c.Holds t₀ t) {place : Place} {entry : Entry} (hallows : c.Allows place)
    (habove : t.at? place.dropLast = some .dir) (hnodir : t.at? place ≠ some .dir)
    (hsink : entry ≠ .sink)
    (hlists : place ∈ c.lists → (t.put place entry).file? place = t.file? place) :
    c.Holds t₀ (t.put place entry) := by
  have hroot : place ≠ [] := by
    rintro rfl
    exact hnodir rfl
  refine h.of_changes (h.rooted.put habove hnodir) (fun q hchanged => ?_) fun q hq => ?_
  · have hself : q = place := by
      by_contra hne
      exact hchanged (FileTree.at?_put_of_ne t hne entry)
    subst hself
    rw [FileTree.at?_put_self t hroot]
    exact ⟨hallows, fun heq => hsink (Option.some.inj heq)⟩
  · by_cases hself : q = place
    · subst hself
      exact hlists hq
    · exact (FileTree.writes_put hnodir entry).files q hself

theorem Holds.drop (h : c.Holds t₀ t) {place : Place} (hallows : c.Allows place)
    (hlist : place ∉ c.lists) (hnodir : t.at? place ≠ some .dir) : c.Holds t₀ (t.drop place) := by
  have hroot : place ≠ [] := by
    rintro rfl
    exact hnodir rfl
  refine h.of_changes (h.rooted.drop hnodir) (fun q hchanged => ?_) fun q hq => ?_
  · have hself : q = place := by
      by_contra hne
      exact hchanged (FileTree.at?_drop_of_ne t hne)
    subst hself
    rw [FileTree.at?_drop_self t hroot]
    exact ⟨hallows, by simp⟩
  · have hne : q ≠ place := by
      rintro rfl
      exact hlist hq
    unfold FileTree.file?
    rw [FileTree.at?_drop_of_ne t hne]

/-- Edits in allowed places keep work confined. -/
def upkeep (c : Confine) (t₀ : FileTree) : Upkeep where
  Holds := c.Holds t₀
  Makes := c.Allows
  Writes place := c.Allows place ∧ place ∉ c.lists
  Copies place := c.Allows place ∧ place ∉ c.lists
  Removes place := c.Allows place ∧ place ∉ c.lists
  same h hsame := by
    refine h.of_changes (fun place entry hat => ?_) (fun place hne => absurd (hsame place) hne)
      fun place _ => ?_
    · rw [hsame] at hat ⊢
      exact h.rooted place entry hat
    · unfold FileTree.file?
      rw [hsame]
  make h hallows hnone habove := by
    refine h.put hallows habove (by simp [hnone]) (by simp) fun _ => ?_
    exact (FileTree.writes_put_dir hnone).files _ id
  write h hwrites htakes _ :=
    h.put hwrites.1 (htakes.above h.rooted) htakes.not_dir (by simp) fun hin =>
      absurd hin hwrites.2
  copy h hcopies htakes :=
    h.put hcopies.1 (htakes.above h.rooted) htakes.not_dir (by simp) fun hin =>
      absurd hin hcopies.2
  remove h hremoves hnodir := h.drop hremoves.1 hremoves.2 hnodir

end Confine

/-! ## Harmless paths -/

/-- The way to a path leads past a directory, not into it. -/
def Path.Bypasses (p : Path) (start dir : Place) : Prop :=
  ∀ place, p.Along start place → ¬ Below dir place

theorem Path.bypasses_of_straight {p : Path} {start dir : Place}
    (hup : ".." ∉ Text.split '/' p.text) (hout : ¬ Below dir (p.place start)) :
    p.Bypasses start dir := fun _ hway hbelow =>
  hout (hbelow.deepen (prefix_of_along hup hway))

namespace Confine

variable {c : Confine} {t₀ : FileTree} {p : Path}

/-- The way to a path leads through allowed places, and below it all is allowed and no list. -/
structure Harmless (c : Confine) (p : Path) : Prop where
  way : ∀ place, p.Along c.start place → c.Allows place
  below : ∀ place, p.place c.start <+: place → c.Allows place ∧ place ∉ c.lists

/-- The way to a path leads by the build directory, and neither that nor a list lies below it. -/
structure Clear (c : Confine) (p : Path) : Prop where
  way : p.Bypasses c.start c.build
  build : ¬ p.place c.start <+: c.build
  lists : ∀ place ∈ c.lists, ¬ p.place c.start <+: place

theorem Clear.harmless (h : c.Clear p) : c.Harmless p := by
  refine ⟨fun place hway hbelow => absurd hbelow (h.way place hway), fun place hplace => ?_⟩
  refine ⟨fun hbelow => ?_, fun hin => h.lists place hin hplace⟩
  -- the build directory would lie above the path or below it
  rcases List.prefix_or_prefix_of_prefix hplace hbelow.1 with hin | hin
  · exact absurd hin h.build
  · refine absurd ⟨hin, ?_⟩ (h.way _ (Path.along_self p c.start))
    intro heq
    exact h.build (heq ▸ List.prefix_rfl)

theorem Harmless.join (h : c.Harmless p) {q : String} (hq : Path.StaysBelow q) :
    c.Harmless (p.join q) := by
  refine ⟨fun place hway => ?_, fun place hplace => h.below place ?_⟩
  · rcases Path.along_join hq hway with hway | ⟨hplace, -⟩
    · exact h.way place hway
    · exact (h.below place hplace).1
  · rw [Path.place_join hq.1] at hplace
    exact (Path.prefix_onwards hq.2 _).trans hplace

theorem paves_of_way (h : ∀ place, p.Along c.start place → c.Allows place) :
    (c.upkeep t₀).Paves c.start p := fun _ habove => h _ habove.along

theorem Harmless.hosts (h : c.Harmless p) : (c.upkeep t₀).Hosts c.start p :=
  ⟨fun _ hparent _ habove => h.way _ (Path.Above.parent hparent habove).along,
    h.below _ List.prefix_rfl⟩

theorem Harmless.lodges (h : c.Harmless p) : (c.upkeep t₀).Lodges c.start p := h.hosts

end Confine

/-- A text that is read stands in a file, but for that of a device, which is empty. -/
theorem FileTree.file?_of_readText {t : FileTree} {start : Place} {p : Path} {text : String}
    (h : t.readText start p = .ok text) :
    (∃ content executable, t.file? (p.place start) = some (content, executable) ∧
      Utf8.decode? content = some text) ∨ text = "" := by
  unfold readText at h
  rw [bind_eq_ok] at h
  obtain ⟨content, hread, htext⟩ := h
  have hdecode : Utf8.decode? content = some text := by
    split at htext
    · rename_i found hfound
      cases htext
      exact hfound
    · cases htext
  unfold read at hread
  rw [bind_eq_ok] at hread
  obtain ⟨⟨place, found⟩, hstat, hread⟩ := hread
  obtain ⟨rfl, hat⟩ := place_of_stat hstat
  cases found with
  | dir => cases hread
  | file held executable =>
    cases hread
    refine .inl ⟨content, executable, ?_, hdecode⟩
    unfold file?
    rw [hat]
  | sink =>
    cases hread
    have hempty : Utf8.decode? [] = some "" := by
      rw [Utf8.decode?, Utf8.decodeChars]
      rfl
    rw [hempty] at hdecode
    exact .inr (Option.some.inj hdecode).symm

/-! ## Tools -/

/-- Tools write only below the paths that their command lines give them for that; on the way there
they may make directories. -/
structure Runner.WritesOutputs (runner : Runner ρ) : Prop where
  rooted : ∀ (command : Command) p, command.output? = some p → ∀ limit start state t,
    t.Rooted → (runner.answer command limit start state t).2.2.Rooted
  changes : ∀ (command : Command) p, command.output? = some p → ∀ limit start state t,
    t.Rooted → ∀ place, (runner.answer command limit start state t).2.2.at? place ≠ t.at? place →
      (p.place start <+: place ∧
        (runner.answer command limit start state t).2.2.at? place ≠ some .sink) ∨
      (p.Along start place ∧ t.at? place = none ∧
        (runner.answer command limit start state t).2.2.at? place = some .dir)

/-- Such tools are harmless where their paths are. -/
theorem Confine.Harmless.keeps {runner : Runner ρ} (hrunner : runner.WritesOutputs) {c : Confine}
    {t₀ : FileTree} {p : Path} (h : c.Harmless p) : runner.Keeps (c.upkeep t₀) c.start p := by
  intro command hcommand limit state t ht
  have hchanges := hrunner.changes command p hcommand limit c.start state t ht.rooted
  refine ht.of_changes (hrunner.rooted command p hcommand limit c.start state t ht.rooted) ?_ ?_
  · intro place hchanged
    rcases hchanges place hchanged with ⟨hbelow, hsink⟩ | ⟨hway, -, hdir⟩
    · exact ⟨(h.below place hbelow).1, hsink⟩
    · rw [hdir]
      exact ⟨h.way place hway, by simp⟩
  · intro place hin
    by_cases hsame : (runner.answer command limit c.start state t).2.2.at? place = t.at? place
    · unfold FileTree.file?
      rw [hsame]
    · rcases hchanges place hsame with ⟨hbelow, -⟩ | ⟨-, hnone, hdir⟩
      · exact absurd hin (h.below place hbelow).2
      · unfold FileTree.file?
        rw [hnone, hdir]

/-! ## Builds -/

/-- What the names of archives end in: of the archive of resources, and of that of the app. -/
def BuildLayout.archiveEndings : List String := [".ap_", ".apk"]

/-- The archives of a project stay in the directory of archives. -/
def Project.ArchivesStay (project : Project) : Prop :=
  ∀ ending ∈ BuildLayout.archiveEndings, Path.StaysBelow (project.name ++ ending)

namespace BuildLayout

variable {name ending : String}

theorem isPlain_archive (hname : '/' ∉ name.toList) (hending : ending ∈ archiveEndings) :
    Path.IsPlain (name ++ ending) := by
  have hall : ∀ ending ∈ archiveEndings, '/' ∉ ending.toList ∧ 4 ≤ ending.toList.length := by
    decide
  obtain ⟨hslash, hlong⟩ := hall ending hending
  refine ⟨by simp [hname, hslash], Path.isName_of_long ?_⟩
  rw [String.toList_append, List.length_append]
  omega

/-- No archive is named like something that is generated. -/
theorem archive_ne_generated (hending : ending ∈ archiveEndings) :
    name ++ ending ∉ generatedNames := by
  have hall : ∀ ending ∈ archiveEndings, ending.toList.getLast?.isSome = true ∧
      ∀ name ∈ generatedNames, name.toList.getLast? ≠ ending.toList.getLast? := by decide
  obtain ⟨hsome, hends⟩ := hall ending hending
  obtain ⟨last, hlast⟩ := Option.isSome_iff_exists.1 hsome
  intro hin
  refine hends _ hin ?_
  rw [String.toList_append, List.getLast?_append, hlast]
  rfl

/-- A name that steps up once leads from the directory of archives to the build directory. -/
theorem place_step_up (l : BuildLayout) (start : Place) (hplain : Path.IsPlain name) :
    (l.deploy.join (".." ++ "/" ++ name)).place start = l.root.place start ++ [name] := by
  have hrelative : Text.beginsWith "/" (".." ++ "/" ++ name) = false := by
    rw [Bool.eq_false_iff, ne_eq, Text.beginsWith_slash]
    simp
  have hback : Path.onwards (l.root.place start ++ ["deploy"]) (Text.split '/' "..") =
      l.root.place start := by
    have hsplit : Text.split '/' ".." = [".."] := by decide
    rw [hsplit]
    exact List.dropLast_concat
  rw [Path.place_join hrelative, Text.split_append_slash, Text.split_of_not_mem hplain.1,
    Path.onwards_append, deploy, Clean.place_generated (by decide), hback, Path.onwards_cons,
    Path.onward_of_isName hplain.2, Path.onwards_nil]

/-- The archives of a name that steps up once lie in the build directory itself, beside what is
generated. -/
theorem archives_beside_generated (l : BuildLayout) (start : Place) (hname : '/' ∉ name.toList) :
    (l.intermediateArchive (".." ++ "/" ++ name)).place start =
      l.root.place start ++ [name ++ ".ap_"] ∧
    (l.archive (".." ++ "/" ++ name)).place start = l.root.place start ++ [name ++ ".apk"] ∧
    ∀ ending ∈ archiveEndings,
      ¬ Generated (l.root.place start) (l.root.place start ++ [name ++ ending]) := by
  have hplace : ∀ ending ∈ archiveEndings,
      (l.deploy.join (".." ++ "/" ++ name ++ ending)).place start =
        l.root.place start ++ [name ++ ending] := by
    intro ending hending
    have htext : ".." ++ "/" ++ name ++ ending = ".." ++ "/" ++ (name ++ ending) :=
      String.append_assoc
    rw [htext]
    exact l.place_step_up start (isPlain_archive hname hending)
  refine ⟨hplace ".ap_" (by decide), hplace ".apk" (by decide), ?_⟩
  rintro ending hending ⟨generated, hgenerated, hin⟩
  rw [List.prefix_append_right_inj, List.cons_prefix_cons] at hin
  obtain ⟨rfl, -⟩ := hin
  exact archive_ne_generated hending hgenerated

end BuildLayout

namespace Build

variable {b : Build} {w : Workspace}

/-- The lists of a robot controller. -/
def lists (b : Build) (w : Workspace) : List Place :=
  if b.survey.robot then
    b.bundles.map fun bundle => (w.resources.root.join (Resources.key bundle.1)).place w.start
  else []

/-- What a build must leave alone in a workspace. -/
def confine (b : Build) (w : Workspace) : Confine :=
  ⟨w.start, b.project.buildDir.place w.start, b.lists w⟩

/-- Assets, converted libraries and private copies go outside of the build directory, and the lists
of a robot controller are neither there nor in what is generated. -/
structure Apart (b : Build) (w : Workspace) : Prop where
  assets : b.project.assetsDir.Bypasses w.start (b.project.buildDir.place w.start)
  component : (b.confine w).Clear (b.project.assetsDir.join "component")
  bundled : b.survey.robot = true → (b.confine w).Clear b.project.assetsDir
  cache : ∀ dir, b.options.dexCache = some dir →
    dir.Bypasses w.start (b.project.buildDir.place w.start) ∧
      ∀ content, (b.confine w).Clear (DexMerger.cachedFile dir (DexMerger.contentKey content))
  scratch : (b.confine w).Clear w.resources.scratch
  lists : ∀ place ∈ b.lists w, ¬ Generated (b.project.buildDir.place w.start) place

/-- The files of components and of a robot controller have names that stay below where they go. -/
structure Plain (b : Build) (w : Workspace) : Prop where
  native : ∀ entry ∈ b.nativeEntries,
    Attachments.Tame b.survey.components entry.1 (Attachments.abiTarget entry.2).2
  assets : ∀ entry ∈ b.assetEntries, Attachments.Tame b.survey.components entry.1 entry.2
  listed : ∀ place ∈ b.lists w, ∀ content executable text,
    w.tree.file? place = some (content, executable) → Utf8.decode? content = some text →
      ∀ entry ∈ RobotFiles.parseList text, Path.StaysBelow entry

section

variable {start : Place} {buildDir : Path} {listed : List Place}

theorem bypasses_buildDir (hup : ".." ∉ Text.split '/' buildDir.text) :
    buildDir.Bypasses start (buildDir.place start) :=
  Path.bypasses_of_straight hup fun hbelow => hbelow.2 rfl

/-- What is generated is harmless. -/
theorem harmless_generated (hup : ".." ∉ Text.split '/' buildDir.text)
    (hlists : ∀ place ∈ listed, ¬ Generated (buildDir.place start) place) {name : String}
    (hname : name ∈ BuildLayout.generatedNames) :
    Confine.Harmless ⟨start, buildDir.place start, listed⟩ (buildDir.join name) := by
  have hplace := Clean.place_generated hname buildDir start
  refine ⟨fun place hway hbelow => ?_, fun place hplace' => ?_⟩
  · rcases Path.along_join (Clean.isPlain_of_generated hname).staysBelow hway with
      hway | ⟨-, habove⟩
    · exact absurd hbelow (bypasses_buildDir hup place hway)
    · rw [hplace, List.prefix_concat_iff] at habove
      rcases habove with rfl | habove
      · exact ⟨name, hname, List.prefix_rfl⟩
      · exact absurd rfl (hbelow.deepen habove).2
  · have hgenerated : Generated (buildDir.place start) place := by
      rw [hplace] at hplace'
      exact ⟨name, hname, hplace'⟩
    exact ⟨fun _ => hgenerated, fun hin => hlists place hin hgenerated⟩

end

theorem harmless_nested {c : Confine} {dir : Path} (h : c.Harmless dir) {sets : ComponentSets}
    {typeName name : String} (htame : Attachments.Tame sets typeName name) :
    c.Harmless ((Attachments.nested dir typeName (sets.origin typeName)).join name) := by
  refine Confine.Harmless.join ?_ htame.1
  cases horigin : sets.origin typeName with
  | builtin => exact h
  | extension => exact (h.join (by decide)).join (htame.2 horigin)

/-! ### What a build does -/

section

variable (hup : ".." ∉ Text.split '/' b.project.buildDir.text) (hapart : b.Apart w)
include hup hapart

theorem Apart.generated (name : String) (hname : name ∈ BuildLayout.generatedNames) :
    (b.confine w).Harmless (b.project.buildDir.join name) :=
  harmless_generated hup hapart.lists hname

theorem Apart.dirs : ∀ p ∈ b.dirs, ∀ place, p.Along w.start place →
    (b.confine w).Allows place := by
  have hgenerated := hapart.generated hup
  have hlibs := hgenerated "libs" (by decide)
  have hclear : ∀ p : Path, p.Bypasses w.start (b.project.buildDir.place w.start) →
      ∀ place, p.Along w.start place → (b.confine w).Allows place :=
    fun _ h place hway hbelow => absurd hbelow (h place hway)
  have hmade : ∀ p ∈ [b.layout.root, b.layout.libs.join "armeabi",
      b.layout.libs.join "armeabi-v7a", b.project.assetsDir.join "component", b.layout.classes,
      b.layout.gen, b.layout.tmp, b.project.assetsDir, b.layout.deploy, b.layout.libs],
      ∀ place, p.Along w.start place → (b.confine w).Allows place := by
    simp only [List.forall_mem_cons, List.not_mem_nil, false_imp_iff, implies_true, and_true]
    exact ⟨hclear _ (bypasses_buildDir hup), (hlibs.join (by decide)).way,
      (hlibs.join (by decide)).way, hapart.component.harmless.way,
      (hgenerated "classes" (by decide)).way, (hgenerated "gen" (by decide)).way,
      (hgenerated "tmp" (by decide)).way, hclear _ hapart.assets,
      (hgenerated "deploy" (by decide)).way, hlibs.way⟩
  intro p hp
  rcases List.mem_append.1 hp with hp | hp
  · exact hmade p hp
  · exact hclear p (hapart.cache p (Option.mem_toList.1 hp)).1

theorem Apart.icon (format : ImageFormat) :
    (b.confine w).Harmless (Icon.file b.layout.drawable format) := by
  have hdrawable : (b.confine w).Harmless b.layout.drawable :=
    (hapart.generated hup "res" (by decide)).join (by decide)
  refine hdrawable.join ?_
  cases format <;> decide

theorem Apart.files : ∀ p ∈ b.files, (b.confine w).Harmless p := by
  intro p hp
  simp only [Build.files, List.mem_cons, List.mem_append, List.mem_map] at hp
  rcases hp with rfl | ⟨format, -, rfl⟩ | ⟨f, hf, rfl⟩
  · exact hapart.generated hup "AndroidManifest.xml" (by decide)
  · exact hapart.icon hup format
  · have hanim : (b.confine w).Harmless b.layout.anim :=
      (hapart.generated hup "res" (by decide)).join (by decide)
    have hnames : ∀ f ∈ Animation.files, Path.StaysBelow f.1 := by decide
    exact hanim.join (hnames f hf)

theorem Apart.attached (hplain : b.Plain w) : ∀ p ∈ b.attached, (b.confine w).Harmless p := by
  intro p hp
  simp only [Build.attached, List.mem_append, List.mem_map] at hp
  rcases hp with ⟨entry, hentry, rfl⟩ | ⟨entry, hentry, rfl⟩
  · refine harmless_nested ?_ (hplain.native entry hentry)
    refine (hapart.generated hup "libs" (by decide)).join ?_
    have habi : ∀ abi ∈ ["armeabi-v7a", "armeabi"], Path.StaysBelow abi := by decide
    unfold Attachments.abiTarget
    split
    · exact habi _ (by simp)
    · exact habi _ (by simp)
  · exact harmless_nested hapart.component.harmless (hplain.assets entry hentry)

/-- The archive as it is named where code is added to it: a path from the root is itself, and
another stays below the directory where the tool starts. -/
theorem Apart.sealed (hname : b.project.ArchivesStay) :
    (b.confine w).Harmless (b.layout.tmp.join b.apk.text) := by
  have htmp : (b.confine w).Harmless b.layout.tmp :=
    hapart.generated hup "tmp" (by decide)
  have hdeploy : (b.confine w).Harmless b.layout.deploy :=
    hapart.generated hup "deploy" (by decide)
  cases habs : Text.beginsWith "/" b.apk.text with
  | true =>
    have hself : b.layout.tmp.join b.apk.text = b.apk := by
      rw [Path.join, if_pos habs]
    rw [hself]
    exact hdeploy.join (hname ".apk" (by decide))
  | false =>
    refine htmp.join ⟨habs, ?_⟩
    exact Path.straight_join (Path.straight_join hup (q := "deploy") (by decide))
      (hname ".apk" (by decide))

theorem Apart.outputs (hname : b.project.ArchivesStay) :
    ∀ p, b.Outputs p → (b.confine w).Harmless p := by
  have htmp : (b.confine w).Harmless b.layout.tmp := hapart.generated hup "tmp" (by decide)
  have hdeploy : (b.confine w).Harmless b.layout.deploy :=
    hapart.generated hup "deploy" (by decide)
  have hprimary : (b.confine w).Harmless b.primaryDex := htmp.join (by decide)
  have hsecondary : (b.confine w).Harmless b.secondaryDex := htmp.join (by decide)
  have haligned : (b.confine w).Harmless b.aligned := htmp.join (by decide)
  have hpacked : (b.confine w).Harmless (b.layout.intermediateArchive b.project.name) :=
    hdeploy.join (hname ".ap_" (by decide))
  have hapk : (b.confine w).Harmless b.apk := hdeploy.join (hname ".apk" (by decide))
  intro p hp
  rcases hp with hp | ⟨dir, content, hdir, hp⟩
  · revert p
    simp only [List.forall_mem_cons, List.not_mem_nil, false_imp_iff, implies_true, and_true]
    exact ⟨hapart.generated hup "classes" (by decide), hapart.generated hup "gen" (by decide),
      hprimary, hsecondary, hpacked, hapart.sealed hup hname, hapk, haligned⟩
  · rw [hp]
    exact ((hapart.cache dir hdir).2 content).harmless

omit hup hapart in
/-- The lists of a robot controller are read as they were. -/
theorem staysBelow_of_tells (hplain : b.Plain w) {list : String}
    (hlist : (w.resources.root.join (Resources.key list)).place w.start ∈ b.lists w) {text : String}
    (htext : ((b.confine w).upkeep w.tree).Tells
      ⟨w.start, w.resources.root, w.resources.scratch⟩ list text) :
    ∀ entry ∈ RobotFiles.parseList text, Path.StaysBelow entry := by
  obtain ⟨t, ht, htext⟩ := htext
  rcases FileTree.file?_of_readText htext with ⟨content, executable, hfile, hdecode⟩ | rfl
  · have hsame := (ht.lists _ hlist).symm.trans hfile
    exact hplain.listed _ hlist content executable text hsame hdecode
  · have hnone : RobotFiles.parseList "" = [] := by decide
    rw [hnone]
    simp

/-- What a robot controller brings goes below where its lists say. -/
theorem Apart.listed (hplain : b.Plain w) (hrobot : b.survey.robot = true) :
    ∀ bundle ∈ b.bundles, ∀ text,
      ((b.confine w).upkeep w.tree).Tells ⟨w.start, w.resources.root, w.resources.scratch⟩
        bundle.1 text →
      ∀ entry ∈ RobotFiles.parseList text, (b.confine w).Harmless (bundle.2.join entry) := by
  intro bundle hbundle text htext entry hentry
  have hin : (w.resources.root.join (Resources.key bundle.1)).place w.start ∈ b.lists w := by
    rw [Build.lists, if_pos hrobot]
    exact List.mem_map_of_mem (f := fun bundle : String × Path =>
      (w.resources.root.join (Resources.key bundle.1)).place w.start) hbundle
  have hdirs : ∀ dir ∈ b.bundles.map Prod.snd, (b.confine w).Harmless dir := by
    have hlib : Path.StaysBelow "lib" := by decide
    simp only [bundles, List.map_cons, List.map_nil, List.forall_mem_cons, List.not_mem_nil,
      false_imp_iff, implies_true, and_true]
    exact ⟨hapart.generated hup "res" (by decide), (hapart.bundled hrobot).harmless,
      (hapart.generated hup "libs" (by decide)).join hlib⟩
  exact (hdirs _ (List.mem_map_of_mem hbundle)).join
    (staysBelow_of_tells hplain hin htext entry hentry)

/-- A build whose archives stay and that puts all else apart is confined. -/
theorem Apart.fits {s : Services ρ} (hrunner : s.runner.WritesOutputs)
    (hname : b.project.ArchivesStay) (hplain : b.Plain w) :
    b.Fits s ((b.confine w).upkeep w.tree) ⟨w.start, w.resources.root, w.resources.scratch⟩
      (fun _ => True) where
  excuses _ _ := trivial
  stocks n name hplain :=
    ((hapart.scratch.harmless.join (Path.isPlain_toString n).staysBelow).join
      hplain.staysBelow).hosts
  paves p hp := Confine.paves_of_way (hapart.dirs hup p hp)
  hosts p hp := (hapart.files hup p hp).hosts
  removes format := (hapart.icon hup format).below _ List.prefix_rfl
  lodges p hp := by
    rcases List.mem_cons.1 hp with rfl | hp
    · exact (hapart.outputs hup hname b.apk (.inl (by simp))).lodges
    · exact (hapart.attached hup hplain p hp).lodges
  outputs p hp := (hapart.outputs hup hname p hp).keeps hrunner
  runtime _ _ _ _ := trivial
  named _ _ _ := trivial
  hostTools _ _ := ⟨fun _ _ => trivial, fun _ _ _ _ => trivial⟩
  javaTools _ _ _ _ _ _ := trivial
  robot hrobot := ⟨fun _ => trivial, fun bundle hbundle text htext entry hentry =>
    (hapart.listed hup hplain hrobot bundle hbundle text htext entry hentry).lodges⟩

end

theorem project_of_prepared {project : Project} {types : List String} {options : BuildOptions}
    {σ : Session ρ} (h : ((prepare project types options).run σ).1 = .ok b) :
    b.project = project := by
  rcases hr : (prepare project types options).run σ with ⟨r, σ'⟩
  rw [hr] at h
  exact (prepare_eq_ok (hr.trans (by rw [← h]))).1

/-- Whatever becomes of a build, its session ends where it began, and the build was confined. -/
theorem confined_run (s : Services ρ) (hrunner : s.runner.WritesOutputs) (project : Project)
    (types : List String) (options : BuildOptions) (σ : Session ρ) (hname : project.ArchivesStay)
    (hready : Clean.Ready σ.workspace project.buildDir)
    (hbuild : ∀ b, ((prepare project types options).run σ).1 = .ok b →
      b.Apart σ.workspace ∧ b.Plain σ.workspace) :
    ∃ c : Confine, c.build = project.buildDir.place σ.workspace.start ∧
      ((run s project types options).run σ).2.workspace.start = σ.workspace.start ∧
      c.Holds σ.workspace.tree ((run s project types options).run σ).2.workspace.tree := by
  have hstart : ∀ listed, Confine.Holds
      ⟨σ.workspace.start, project.buildDir.place σ.workspace.start, listed⟩ σ.workspace.tree
      σ.workspace.tree := fun _ =>
    ⟨hready.rooted, fun _ _ _ => rfl, hready.sinks, fun _ _ => rfl⟩
  have hrun : ∀ c : Confine, c.Holds σ.workspace.tree σ.workspace.tree →
      (∀ b, ((prepare project types options).run σ).1 = .ok b →
        b.Fits s (c.upkeep σ.workspace.tree) ⟨σ.workspace.start, σ.workspace.resources.root,
          σ.workspace.resources.scratch⟩ fun _ => True) →
      (c.upkeep σ.workspace.tree).At ⟨σ.workspace.start, σ.workspace.resources.root,
        σ.workspace.resources.scratch⟩ ((run s project types options).run σ).2.workspace :=
    fun c hholds hfits => (upkeep_run s project types options (fun _ _ => trivial)
      ⟨rfl, rfl, rfl, hholds⟩ (fun _ _ _ _ => trivial) hfits).1
  rcases hprepare : ((prepare project types options).run σ).1 with e | b
  · have hend := hrun ⟨_, _, []⟩ (hstart []) fun b hb => by
      rw [hprepare] at hb
      cases hb
    exact ⟨_, rfl, hend.start, hend.tree⟩
  · obtain ⟨hapart, hplain⟩ := hbuild b hprepare
    have hproject := project_of_prepared hprepare
    have hend := hrun (b.confine σ.workspace) (by rw [confine, hproject]; exact hstart _) ?_
    · exact ⟨_, by rw [confine, hproject], hend.start, hend.tree⟩
    · intro b' hb'
      rw [hprepare] at hb'
      cases hb'
      exact hapart.fits (by rw [hproject]; exact hready.straight) hrunner
        (by rw [hproject]; exact hname) hplain

/-! ## Tools that write a word -/

end Build

/-- Tools that write a word to the path that they are told to write to, if they can. -/
def Runner.scribe : Runner Unit where
  answer command _ start state tree :=
    let written := command.output?.bind fun p =>
      (tree.write start p (Utf8.encode "word")).toOption
    (.ok {}, state, written.getD tree)

theorem Runner.writesOutputs_scribe : Runner.scribe.WritesOutputs := by
  have hanswer : ∀ (command : Command) p, command.output? = some p → ∀ limit start state t,
      (scribe.answer command limit start state t).2.2 =
        (t.write start p (Utf8.encode "word")).toOption.getD t := by
    intro command p hp limit start state t
    simp [scribe, hp]
  constructor
  case rooted =>
    intro command p hp limit start state t ht
    rw [hanswer command p hp]
    cases hwrite : t.write start p (Utf8.encode "word") with
    | error e => exact ht
    | ok t' => exact (ht.written hwrite).1
  case changes =>
    intro command p hp limit start state t ht place
    rw [hanswer command p hp]
    cases hwrite : t.write start p (Utf8.encode "word") with
    | error e => exact fun hne => absurd rfl hne
    | ok t' =>
      intro hne
      obtain ⟨rfl, hsink⟩ := (ht.written hwrite).2 place hne
      exact .inl ⟨List.prefix_rfl, hsink⟩

namespace Build

/-- Services whose tools write a word. -/
def scribing : Services Unit := { rehearsed with runner := .scribe }

/-- A session on a host with the class file of an earlier build. -/
def builtOn : Session Unit where
  workspace := Workspace.opened [] hostBuiltOn ⟨"/rt"⟩ ⟨"/tmp/r"⟩
  tools := ()
  catalog := some ⟨[]⟩

/-- The prepared build, if there is one, is of an app that brings no files and is not cached. -/
def isBare : Except BuildError Build → Bool
  | .ok b => !b.survey.robot && b.nativeEntries.isEmpty && b.assetEntries.isEmpty &&
      b.options.dexCache.isNone
  | .error _ => true

/-! ## The law -/

/-- Cleaning undoes a build, however it ended, when the archives stay in their directory: of what a
build makes nothing is left, and all else in the build directory is as it was before. -/
theorem cleaning_undoes_builds (s : Services ρ) (hrunner : s.runner.WritesOutputs)
    (project : Project) (types : List String) (options : BuildOptions) (σ : Session ρ)
    (hname : project.ArchivesStay) (hready : Clean.Ready σ.workspace project.buildDir)
    (hbuild : ∀ b, ((prepare project types options).run σ).1 = .ok b →
      b.Apart σ.workspace ∧ b.Plain σ.workspace) :
    ∃ report w, (Clean.run project.buildDir).run
        ((run s project types options).run σ).2.workspace = (.ok report, w) ∧
      ∀ place, Below (project.buildDir.place σ.workspace.start) place →
        (Generated (project.buildDir.place σ.workspace.start) place → w.tree.at? place = none) ∧
        (¬ Generated (project.buildDir.place σ.workspace.start) place →
          w.tree.at? place = σ.workspace.tree.at? place) := by
  obtain ⟨c, hc, hstart, hholds⟩ :=
    confined_run s hrunner project types options σ hname hready hbuild
  have hplace : project.buildDir.place
      ((run s project types options).run σ).2.workspace.start = c.build := by
    rw [hstart, hc]
  have hready' : Clean.Ready ((run s project types options).run σ).2.workspace
      project.buildDir := by
    refine ⟨hholds.rooted, hready.straight, ?_, ?_⟩
    · rw [hstart]
      exact hready.walks
    · rw [hplace]
      exact hholds.sinks
  obtain ⟨report, tree, hrun, hcleared⟩ := hready'.clears
  rw [hplace] at hcleared
  refine ⟨report, _, hrun, fun place hbelow => ⟨fun hin => ?_, fun hout => ?_⟩⟩
  · rw [← hc] at hin
    exact hcleared.gone place hin
  · rw [← hc] at hbelow hout
    exact (hcleared.kept place hout).trans (hholds.kept place hbelow hout)

/-- On a host that was built on, cleaning undoes a build whose tools write a word each. -/
theorem a_clean_slate_after_words :
    ∃ report w, (Clean.run oneScreen.buildDir).run ((run scribing oneScreen []
        ⟨false, ⟨"/k"⟩, 1, none⟩).run builtOn).2.workspace = (.ok report, w) ∧
      ∀ place, Below ["p", "build"] place →
        (Generated ["p", "build"] place → w.tree.at? place = none) ∧
        (¬ Generated ["p", "build"] place →
          w.tree.at? place = builtOn.workspace.tree.at? place) := by
  have hbare : isBare ((prepare oneScreen [] ⟨false, ⟨"/k"⟩, 1, none⟩).run builtOn).1 = true := by
    decide +kernel
  have hwalks : ∀ name ∈ BuildLayout.generatedNames,
      (hostBuiltOn.walk [] (oneScreen.buildDir.join name)).toOption.isSome = true := by
    decide +kernel
  have hplace : oneScreen.buildDir.place [] = ["p", "build"] := by decide
  have hready : Clean.Ready builtOn.workspace oneScreen.buildDir := by
    refine ⟨FileTree.rooted_of_entries (by decide +kernel), by decide, fun name hname => ?_,
      by decide +kernel⟩
    cases hwalk : hostBuiltOn.walk [] (oneScreen.buildDir.join name) with
    | ok a => exact ⟨hostBuiltOn, a, hwalk⟩
    | error e => exact absurd (hwalks name hname) (by simp [hwalk, Except.toOption])
  have hlaw := cleaning_undoes_builds scribing Runner.writesOutputs_scribe oneScreen []
    ⟨false, ⟨"/k"⟩, 1, none⟩ builtOn (by unfold Project.ArchivesStay; decide) hready fun b hb => ?_
  · have hplace' : oneScreen.buildDir.place builtOn.workspace.start = ["p", "build"] := hplace
    rw [hplace'] at hlaw
    exact hlaw
  · rw [hb] at hbare
    simp only [isBare, Bool.and_eq_true, Bool.not_eq_true', List.isEmpty_iff,
      Option.isNone_iff_eq_none] at hbare
    obtain ⟨⟨⟨hrobot, hnative⟩, hassets⟩, hcache⟩ := hbare
    have hproject := project_of_prepared hb
    have hlists : b.lists builtOn.workspace = [] := by simp [lists, hrobot]
    have hconfine : b.confine builtOn.workspace = ⟨[], ["p", "build"], []⟩ := by
      rw [confine, hproject, hlists]
      exact congrArg (Confine.mk [] · []) hplace
    have hclear : ∀ p : Path, ".." ∉ Text.split '/' p.text → ¬ Below ["p", "build"] (p.place []) →
        ¬ p.place [] <+: ["p", "build"] → (b.confine builtOn.workspace).Clear p := by
      intro p hup hout hbuild
      rw [hconfine]
      exact ⟨Path.bypasses_of_straight hup hout, hbuild, by simp⟩
    refine ⟨⟨?_, ?_, by simp [hrobot], by simp [hcache], ?_, by simp [hlists]⟩,
      ⟨by simp [hnative], by simp [hassets], by simp [hlists]⟩⟩
    · rw [hproject]
      exact Path.bypasses_of_straight (by decide) (by decide)
    · rw [hproject]
      exact hclear _ (by decide) (by decide) (by decide)
    · exact hclear ⟨"/tmp/r"⟩ (by decide) (by decide) (by decide)

end Build

end ApkForge
