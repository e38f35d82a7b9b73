-- What the doctor looks for is what builds look for. Every runtime file, packaging tool and Java
-- tool that no build can do without is a need. Needs that are met stay met whatever a build makes,
-- writes, copies or removes, so after a doctor that met them all a build misses none.
import ApkForge.Doctor
import ApkForge.Proofs.CompilerVerdict
import ApkForge.Proofs.Stagewise

namespace ApkForge

variable {ρ : Type}

/-! ## Files that stay -/

namespace FileTree

variable {t t' : FileTree} {start : Place} {p : Path}

theorem at?_drop_of_ne (t : FileTree) {place other : Place} (h : other ≠ place) :
    (t.drop place).at? other = t.at? other := by
  cases other with
  | nil => rfl
  | cons n ns => exact lookup_filter_ne place (n :: ns) h t.entries

/-- Taking away what is no directory takes no directory away. -/
theorem dirs_drop {place : Place} (h : t.at? place ≠ some .dir) (other : Place)
    (hd : t.at? other = some .dir) : (t.drop place).at? other = some .dir := by
  have hne : other ≠ place := by
    rintro rfl
    exact h hd
  rw [at?_drop_of_ne t hne, hd]

/-- Where all directories stay, a path leads to a file as long as one stands at its place. -/
theorem stat_of_dirs (hdirs : ∀ place, t.at? place = some .dir → t'.at? place = some .dir)
    {place : Place} {content content' : Bytes} {executable executable' : Bool}
    (h : t.stat start p = .ok (place, .file content executable))
    (hat : t'.at? place = some (.file content' executable')) :
    t'.stat start p = .ok (place, .file content' executable') := by
  obtain ⟨a, hwalk, hplace, -, hwants⟩ := stat_eq_ok.1 h
  refine stat_eq_ok.2 ⟨a, walk_of_dirs hdirs hwalk, hplace, hat, .inr ?_⟩
  exact hwants.resolve_left fun h => nomatch h

theorem place_of_stat {place : Place} {entry : Entry} (h : t.stat start p = .ok (place, entry)) :
    place = p.place start ∧ t.at? (p.place start) = some entry := by
  obtain ⟨a, hwalk, rfl, hat, -⟩ := stat_eq_ok.1 h
  rw [walk_place hwalk] at hat ⊢
  exact ⟨rfl, hat⟩

/-- A file of a place. -/
def HasFile (t : FileTree) (place : Place) : Prop :=
  ∃ content executable, t.at? place = some (.file content executable)

theorem ne_nil_of_not_dir {place : Place} (h : t.at? place ≠ some .dir) : place ≠ [] := by
  rintro rfl
  exact h rfl

theorem Takes.not_dir {place : Place} (h : t.Takes place) : t.at? place ≠ some .dir := by
  rcases h with ⟨content, executable, hat⟩ | ⟨hat, -⟩
  · simp [hat]
  · simp [hat]

/-- Where a file is put a file stands, and all others stay. -/
theorem hasFile_put {place q : Place} {content : Bytes} {executable : Bool}
    (h : t.at? place ≠ some .dir) (hfile : t.HasFile q) :
    (t.put place (.file content executable)).HasFile q := by
  by_cases hq : q = place
  · subst hq
    exact ⟨content, executable, at?_put_self t (ne_nil_of_not_dir h) _⟩
  · obtain ⟨old, was, hat⟩ := hfile
    exact ⟨old, was, (at?_put_of_ne t hq _).trans hat⟩

theorem isFile_of_dirs (hdirs : ∀ place, t.at? place = some .dir → t'.at? place = some .dir)
    (hfile : t.HasFile (p.place start) → t'.HasFile (p.place start))
    (h : t.isFile start p = true) : t'.isFile start p = true := by
  obtain ⟨place, content, executable, hstat⟩ := isFile_iff.1 h
  obtain ⟨rfl, hat⟩ := place_of_stat hstat
  obtain ⟨content', executable', hat'⟩ := hfile ⟨content, executable, hat⟩
  exact isFile_iff.2 ⟨_, content', executable', stat_of_dirs hdirs hstat hat'⟩

end FileTree

theorem Environment.isProgram_iff {t : FileTree} {start : Place} {p : Path} :
    isProgram t start p = true ↔
      ∃ place content, t.stat start p = .ok (place, .file content true) := by
  unfold isProgram
  constructor
  · intro h
    split at h
    · rename_i place content executable hstat
      exact ⟨place, content, by rw [hstat, h]⟩
    · cases h
  · rintro ⟨place, content, hstat⟩
    rw [hstat]

theorem Environment.isProgram_of_dirs {t t' : FileTree} {start : Place} {p : Path}
    (hdirs : ∀ place, t.at? place = some .dir → t'.at? place = some .dir)
    (hprogram : t.HasProgram (p.place start) → t'.HasProgram (p.place start))
    (h : isProgram t start p = true) : isProgram t' start p = true := by
  obtain ⟨place, content, hstat⟩ := isProgram_iff.1 h
  obtain ⟨rfl, hat⟩ := FileTree.place_of_stat hstat
  obtain ⟨content', hat'⟩ := hprogram ⟨content, hat⟩
  exact isProgram_iff.2 ⟨_, content', FileTree.stat_of_dirs hdirs hstat hat'⟩

/-! ## Needs -/

/-- What a build looks for: a runtime file, a tool among these, or a Java tool. -/
inductive Need where
  | runtime (logical : String)
  | hostTool (name : String)
  | javaTool (name : String)

namespace Need

variable (s : Services ρ) (root : Path)

/-- The paths at which a file meets the need. -/
def files : Need → List Path
  | runtime logical => [root.join (Resources.key logical)]
  | hostTool name =>
    match s.toolchain.host.resource name with
    | .ok logical => [root.join (Resources.key logical)]
    | .error _ => []
  | javaTool name => s.toolchain.candidates (s.toolchain.host.programName name)

/-- The paths at which a program meets the need. -/
def programs : Need → List Path
  | javaTool name => s.env.searchPath.map fun dir => dir.join (s.toolchain.host.programName name)
  | _ => []

/-- The need is met. -/
def Met (start : Place) (t : FileTree) (n : Need) : Prop :=
  (∃ p ∈ n.files s root, t.isFile start p = true) ∨
    ∃ p ∈ n.programs s, Environment.isProgram t start p = true

variable {s root} {start : Place} {t t' : FileTree} {n : Need}

theorem Met.of_dirs (hdirs : ∀ place, t.at? place = some .dir → t'.at? place = some .dir)
    (hfiles : ∀ p ∈ n.files s root, t.HasFile (p.place start) → t'.HasFile (p.place start))
    (hprograms : ∀ p ∈ n.programs s, t.HasProgram (p.place start) → t'.HasProgram (p.place start))
    (h : n.Met s root start t) : n.Met s root start t' := by
  rcases h with ⟨p, hp, hfile⟩ | ⟨p, hp, hprogram⟩
  · exact .inl ⟨p, hp, FileTree.isFile_of_dirs hdirs (hfiles p hp) hfile⟩
  · exact .inr ⟨p, hp, Environment.isProgram_of_dirs hdirs (hprograms p hp) hprogram⟩

theorem met_runtime {logical : String} : (runtime logical).Met s root start t ↔
    t.isFile start (root.join (Resources.key logical)) = true := by
  simp [Met, files, programs]

theorem met_hostTool {name logical : String} (h : s.toolchain.host.resource name = .ok logical) :
    (hostTool name).Met s root start t ↔
      t.isFile start (root.join (Resources.key logical)) = true := by
  simp [Met, files, programs, h]

theorem not_met_hostTool {name : String} {e : ToolchainError}
    (h : s.toolchain.host.resource name = .error e) : ¬ (hostTool name).Met s root start t := by
  simp [Met, files, programs, h]

/-- A Java tool is found when the need for it is met, and only then. -/
theorem met_javaTool {name : String} : (javaTool name).Met s root start t ↔
    ∃ p, s.toolchain.javaTool s.env t start name = .ok p := by
  unfold Toolchain.javaTool Met
  simp only [files, programs]
  cases htried : (s.toolchain.candidates (s.toolchain.host.programName name)).find?
      fun p => t.isFile start p with
  | some p =>
    exact ⟨fun _ => ⟨p, rfl⟩, fun _ =>
      .inl ⟨p, List.mem_of_find?_eq_some htried, List.find?_some htried⟩⟩
  | none =>
    unfold Environment.which?
    cases hwhich : (s.env.searchPath.map fun dir =>
        dir.join (s.toolchain.host.programName name)).find? (Environment.isProgram t start) with
    | some p =>
      exact ⟨fun _ => ⟨p, rfl⟩, fun _ =>
        .inr ⟨p, List.mem_of_find?_eq_some hwhich, List.find?_some hwhich⟩⟩
    | none =>
      refine ⟨?_, fun ⟨_, h⟩ => nomatch h⟩
      rintro (⟨p, hp, hfile⟩ | ⟨p, hp, hprogram⟩)
      · exact absurd hfile (List.find?_eq_none.1 htried p hp)
      · exact absurd hprogram (List.find?_eq_none.1 hwhich p hp)

/-- Needs that are met, as a property of trees. -/
def upkeep (s : Services ρ) (start : Place) (root : Path) (needs : List Need) : Upkeep where
  Holds t := ∀ n ∈ needs, n.Met s root start t
  Makes _ := True
  Writes _ := True
  Copies place := ∀ n ∈ needs, ∀ p ∈ n.programs s, p.place start ≠ place
  Removes place := ∀ n ∈ needs, ∀ p ∈ n.files s root ++ n.programs s, p.place start ≠ place
  same h hsame n hn := (h n hn).of_dirs (fun place hd => by rw [hsame, hd])
    (fun p _ hfile => by
      unfold FileTree.HasFile
      rwa [hsame])
    (fun p _ hprogram => by
      unfold FileTree.HasProgram
      rwa [hsame])
  make {t place} h _ hnone _ n hn := by
    have hother : ∀ q, t.at? q ≠ none → (t.put place .dir).at? q = t.at? q := by
      intro q hq
      refine FileTree.at?_put_of_ne t ?_ _
      rintro rfl
      exact hq hnone
    refine (h n hn).of_dirs (FileTree.writes_put_dir hnone).dirs ?_ ?_
    · rintro p - ⟨content, executable, hat⟩
      exact ⟨content, executable, (hother _ (by simp [hat])).trans hat⟩
    · rintro p - ⟨content, hat⟩
      exact ⟨content, (hother _ (by simp [hat])).trans hat⟩
  write {t place content executable} h _ htakes hkeeps n hn := by
    have hdir := htakes.not_dir
    refine (h n hn).of_dirs (FileTree.writes_put hdir _).dirs ?_ ?_
    · exact fun p _ => FileTree.hasFile_put hdir
    · rintro p - hprogram
      by_cases hp : p.place start = place
      · rw [hp] at hprogram ⊢
        rw [hkeeps hprogram]
        exact ⟨content, FileTree.at?_put_self t (FileTree.ne_nil_of_not_dir hdir) _⟩
      · obtain ⟨old, hat⟩ := hprogram
        exact ⟨old, (FileTree.at?_put_of_ne t hp _).trans hat⟩
  copy {t place content executable} h hcopies htakes n hn := by
    have hdir := htakes.not_dir
    refine (h n hn).of_dirs (FileTree.writes_put hdir _).dirs ?_ ?_
    · exact fun p _ => FileTree.hasFile_put hdir
    · rintro p hp ⟨old, hat⟩
      exact ⟨old, (FileTree.at?_put_of_ne t (hcopies n hn p hp) _).trans hat⟩
  remove {t place} h hremoves hdir n hn := by
    refine (h n hn).of_dirs (FileTree.dirs_drop hdir) ?_ ?_
    · rintro p hp ⟨content, executable, hat⟩
      have hne := hremoves n hn p (List.mem_append_left _ hp)
      exact ⟨content, executable, (FileTree.at?_drop_of_ne t hne).trans hat⟩
    · rintro p hp ⟨content, hat⟩
      have hne := hremoves n hn p (List.mem_append_right _ hp)
      exact ⟨content, (FileTree.at?_drop_of_ne t hne).trans hat⟩

end Need

/-! ## What builds need -/

/-- What no build can do without, whatever its app. -/
def Build.needs : List Need :=
  (runtimeFiles ++ [Components.catalogFile]).map .runtime ++ ["aapt", "zipalign"].map .hostTool ++
    ["java", "jarsigner"].map .javaTool

/-- Every need of a build that is met in `t` is met in `t'`. -/
def Build.Spares (s : Services ρ) (start : Place) (root : Path) (t t' : FileTree) : Prop :=
  ∀ n ∈ needs, n.Met s root start t → n.Met s root start t'

/-! ## Names -/

namespace Text

/-- The last piece of a text ends as the text does. -/
theorem getLast?_pieces_append {sep : Char} {ending : List Char} (h : sep ∉ ending)
    (cs : List Char) : ∃ front, (pieces sep (cs ++ ending)).getLast? = some (front ++ ending) := by
  induction cs with
  | nil => exact ⟨[], by simp [pieces_of_not_mem h]⟩
  | cons c rest ih =>
    obtain ⟨front, hfront⟩ := ih
    rw [List.cons_append, pieces]
    split
    · refine ⟨front, ?_⟩
      rw [List.getLast?_cons, hfront]
      rfl
    · cases hp : pieces sep (rest ++ ending) with
      | nil => exact absurd hp (pieces_ne_nil sep _)
      | cons p ps =>
        rw [hp] at hfront
        cases ps with
        | nil =>
          cases hfront
          exact ⟨c :: front, rfl⟩
        | cons q qs => exact ⟨front, by simpa [List.getLast?_cons] using hfront⟩

theorem getLast?_split_append {ending : String} (h : '/' ∉ ending.toList) (s : String) :
    ∃ front, (split '/' (s ++ ending)).getLast? = some (front ++ ending) := by
  obtain ⟨front, hfront⟩ := getLast?_pieces_append h s.toList
  refine ⟨String.ofList front, ?_⟩
  rw [split, String.toList_append, List.getLast?_map, hfront]
  simp

end Text

namespace Path

variable {p q : Path} {last : String} {start : Place}

/-- The last name of a path is that of its place. -/
theorem getLast?_place (h : (Text.split '/' p.text).getLast? = some last) (hname : IsName last)
    (start : Place) : (p.place start).getLast? = some last := by
  obtain ⟨front, hfront⟩ := List.getLast?_eq_some_iff.1 h
  rw [place, hfront, onwards_append, onwards_cons, onward_of_isName hname, onwards_nil]
  simp

/-- Paths that lead to one place have one last name. -/
theorem last_eq_of_place_eq {last' : String}
    (hp : (Text.split '/' p.text).getLast? = some last) (hlast : IsName last)
    (hq : (Text.split '/' q.text).getLast? = some last') (hlast' : IsName last')
    (h : p.place start = q.place start) : last = last' := by
  have hname := getLast?_place hp hlast start
  rw [h, getLast?_place hq hlast'] at hname
  exact (Option.some.inj hname).symm

/-- Names of more than two characters name a file. -/
theorem isName_of_long {name : String} (h : 3 ≤ name.toList.length) : IsName name := by
  simp only [IsName, isIdle, Bool.or_eq_false_iff, beq_eq_false_iff_ne]
  refine ⟨⟨?_, ?_⟩, ?_⟩
  all_goals
    rintro rfl
    exact absurd h (by decide)

theorem getLast?_split_join_any (p : Path) (q : String) :
    (Text.split '/' (p.join q).text).getLast? = (Text.split '/' q).getLast? := by
  cases hq : Text.beginsWith "/" q with
  | false => exact getLast?_split_join hq p
  | true => rw [join, if_pos hq]

end Path

namespace Need

variable {s : Services ρ} {root : Path}

/-- The names of the files that a build looks for. -/
def names : List String :=
  ["kawa.jar", "acra-4.4.0.jar", "AndroidRuntime.jar", "android.jar", "dx.jar", "runtime.scm",
    "simple_components_build_info.json", "aapt", "zipalign", "java", "java.exe", "jarsigner",
    "jarsigner.exe"]

/-- The names of the programs that it looks for. -/
def programNames : List String := ["java", "java.exe", "jarsigner", "jarsigner.exe"]

theorem names_of_programName {name : String} (h : name ∈ ["java", "jarsigner"])
    (host : HostFamily) : ∃ last ∈ programNames,
      (Text.split '/' (host.programName name)).getLast? = some last := by
  rcases List.mem_pair.1 h with rfl | rfl
  · cases host
    case windows => exact ⟨"java.exe", by decide, by decide⟩
    all_goals
      exact ⟨"java", by decide, (by decide : (Text.split '/' "java").getLast? = some "java")⟩
  · cases host
    case windows => exact ⟨"jarsigner.exe", by decide, by decide⟩
    all_goals
      exact ⟨"jarsigner", by decide,
        (by decide : (Text.split '/' "jarsigner").getLast? = some "jarsigner")⟩

theorem names_of_programs {n : Need} (hn : n ∈ Build.needs) {p : Path} (hp : p ∈ n.programs s) :
    ∃ last ∈ programNames, (Text.split '/' p.text).getLast? = some last := by
  cases n with
  | runtime logical => cases hp
  | hostTool name => cases hp
  | javaTool name =>
    obtain ⟨dir, -, rfl⟩ := List.mem_map.1 hp
    rw [Path.getLast?_split_join_any]
    exact names_of_programName (by simpa [Build.needs] using hn) _

theorem names_of_files {n : Need} (hn : n ∈ Build.needs) {p : Path}
    (hp : p ∈ n.files s root ++ n.programs s) :
    ∃ last ∈ names, (Text.split '/' p.text).getLast? = some last := by
  rcases List.mem_append.1 hp with hp | hp
  · cases n with
    | runtime logical =>
      have hnames : ∀ f ∈ Build.runtimeFiles ++ [Components.catalogFile], ∃ last ∈ names,
          (Text.split '/' (Resources.key f)).getLast? = some last := by decide
      cases List.mem_singleton.1 hp
      rw [Path.getLast?_split_join_any]
      exact hnames logical (by simpa [Build.needs] using hn)
    | hostTool name =>
      have hnames : ∀ tool ∈ ["aapt", "zipalign"], ∀ family ∈ ["linux", "mac", "windows"],
          ∃ last ∈ names, (Text.split '/' (Resources.key ("tools/" ++ family ++ "/" ++
            tool))).getLast? = some last := by decide
      have hname : name ∈ ["aapt", "zipalign"] := by simpa [Build.needs] using hn
      unfold files HostFamily.resource at hp
      cases hhost : s.toolchain.host with
      | unsupported os => simp [hhost] at hp
      | linux =>
        simp only [hhost, List.mem_singleton] at hp
        rw [hp, Path.getLast?_split_join_any]
        exact hnames name hname "linux" (by decide)
      | mac =>
        simp only [hhost, List.mem_singleton] at hp
        rw [hp, Path.getLast?_split_join_any]
        exact hnames name hname "mac" (by decide)
      | windows =>
        simp only [hhost, List.mem_singleton] at hp
        rw [hp, Path.getLast?_split_join_any]
        exact hnames name hname "windows" (by decide)
    | javaTool name =>
      have hcandidate : ∃ dir : Path, p = dir.join (s.toolchain.host.programName name) := by
        change p ∈ s.toolchain.candidates (s.toolchain.host.programName name) at hp
        unfold Toolchain.candidates at hp
        split at hp
        · rcases List.mem_pair.1 hp with rfl | rfl
          · exact ⟨_, rfl⟩
          · exact ⟨_, rfl⟩
        · cases hp
      obtain ⟨dir, rfl⟩ := hcandidate
      rw [Path.getLast?_split_join_any]
      obtain ⟨last, hlast, hname⟩ :=
        names_of_programName (by simpa [Build.needs] using hn) s.toolchain.host
      exact ⟨last, List.mem_of_mem_drop (i := 9) hlast, hname⟩
  · obtain ⟨last, hlast, hname⟩ := names_of_programs hn hp
    exact ⟨last, List.mem_of_mem_drop (i := 9) hlast, hname⟩

end Need

/-! ## The doctor -/

namespace Doctor

variable {s : Services ρ} {σ σ' : Session ρ} {start : Place} {root : Path}

/-- From one session to the other nothing is lost that builds need. -/
structure Spares (s : Services ρ) (σ σ' : Session ρ) : Prop where
  start : σ'.workspace.start = σ.workspace.start
  root : σ'.workspace.resources.root = σ.workspace.resources.root
  needs : Build.Spares s σ.workspace.start σ.workspace.resources.root σ.workspace.tree
    σ'.workspace.tree

theorem Spares.refl (s : Services ρ) (σ : Session ρ) : Spares s σ σ :=
  ⟨rfl, rfl, fun _ _ hmet => hmet⟩

/-- Knowing a catalog takes nothing away. -/
theorem spares_catalog (s : Services ρ) (σ : Session ρ) (catalog : Option Catalog) :
    Spares s σ { σ with catalog } := ⟨rfl, rfl, fun _ _ hmet => hmet⟩

theorem Spares.trans {σ'' : Session ρ} (h : Spares s σ σ') (h' : Spares s σ' σ'') :
    Spares s σ σ'' where
  start := h'.start.trans h.start
  root := h'.root.trans h.root
  needs n hn hmet := by
    have hnext := h'.needs n hn
    rw [h.start, h.root] at hnext
    exact hnext (h.needs n hn hmet)

/-- The need is met in the session. -/
def Meets (s : Services ρ) (σ : Session ρ) (n : Need) : Prop :=
  n.Met s σ.workspace.resources.root σ.workspace.start σ.workspace.tree

theorem Spares.meets (h : Spares s σ σ') {n : Need} (hn : n ∈ Build.needs) (hmet : Meets s σ n) :
    Meets s σ' n := by
  unfold Meets
  rw [h.start, h.root]
  exact h.needs n hn hmet

/-- The tools of a session take nothing away that builds need. -/
def ToolsSpare (s : Services ρ) (start : Place) (root : Path) : Prop :=
  ∀ command limit state t,
    Build.Spares s start root t (s.runner.answer command limit start state t).2.2

/-- What remains of a session after a look at the version of a tool. -/
theorem spares_toolVersion (h : ToolsSpare s σ.workspace.start σ.workspace.resources.root)
    (tool : Path) : Spares s σ ((toolVersion s.runner tool).run σ).2 := by
  have hanswer := h { program := tool.text, args := ["-version"] } none σ.tools σ.workspace.tree
  have hrun : ((toolVersion s.runner tool).run σ).2.workspace =
      { σ.workspace with tree := (s.runner.answer
        { program := tool.text, args := ["-version"] } none σ.workspace.start σ.tools
          σ.workspace.tree).2.2 } := by
    unfold toolVersion
    simp only [StateT.run_bind, StateT.run_get, StateT.run_set, pure_bind]
    split
    · rfl
    · rfl
  exact ⟨by rw [hrun], by rw [hrun], by rw [hrun]; exact hanswer⟩

theorem run_checkJavaTool (name : String) (σ : Session ρ) : (checkJavaTool s name).run σ =
    match s.toolchain.javaTool s.env σ.workspace.tree σ.workspace.start name with
    | .ok path =>
      ({ name, passed := true, version := ((toolVersion s.runner path).run σ).1, required := true },
        ((toolVersion s.runner path).run σ).2)
    | .error e =>
      ({ name, passed := false, error := some e.message, required := true
         suggestion := some "Install a JDK and set [runtime] java_home or JAVA_HOME" }, σ) := by
  unfold checkJavaTool
  cases h : s.toolchain.javaTool s.env σ.workspace.tree σ.workspace.start name with
  | error e =>
    simp only [StateT.run_bind, StateT.run_get, pure_bind, h]
    rfl
  | ok path =>
    simp only [StateT.run_bind, StateT.run_get, pure_bind, h]
    rfl

/-- The check of a Java tool passes when it is found, and nothing is lost by it. -/
theorem checkJavaTool_spares (h : ToolsSpare s σ.workspace.start σ.workspace.resources.root)
    (name : String) : ((checkJavaTool s name).run σ).1.required = true ∧
      (((checkJavaTool s name).run σ).1.passed = true → Meets s σ (.javaTool name)) ∧
      Spares s σ ((checkJavaTool s name).run σ).2 := by
  rw [run_checkJavaTool]
  cases hfound : s.toolchain.javaTool s.env σ.workspace.tree σ.workspace.start name with
  | error e =>
    refine ⟨rfl, ?_, Spares.refl s σ⟩
    rintro ⟨⟩
  | ok path =>
    exact ⟨rfl, fun _ => Need.met_javaTool.2 ⟨path, hfound⟩, spares_toolVersion h path⟩

/-- When all checks of Java tools pass, those that builds need are found at the end of them. -/
theorem mapM_checkJavaTool_spares (names : List String)
    (h : ToolsSpare s σ.workspace.start σ.workspace.resources.root) :
    Spares s σ ((names.mapM (checkJavaTool s)).run σ).2 ∧
      ((∀ check ∈ ((names.mapM (checkJavaTool s)).run σ).1, check.required = true →
          check.passed = true) →
        ∀ name ∈ names, .javaTool name ∈ Build.needs →
          Meets s ((names.mapM (checkJavaTool s)).run σ).2 (.javaTool name)) := by
  induction names generalizing σ with
  | nil => exact ⟨Spares.refl s σ, fun _ name hname => nomatch hname⟩
  | cons first rest ih =>
    obtain ⟨hrequired, hpassed, hspares⟩ := checkJavaTool_spares h first
    obtain ⟨hrest, hmeets⟩ := ih (σ := ((checkJavaTool s first).run σ).2) (by
      rw [hspares.start, hspares.root]
      exact h)
    have hrun : ((first :: rest).mapM (checkJavaTool s)).run σ =
        (((checkJavaTool s first).run σ).1 ::
            ((rest.mapM (checkJavaTool s)).run ((checkJavaTool s first).run σ).2).1,
          ((rest.mapM (checkJavaTool s)).run ((checkJavaTool s first).run σ).2).2) := by
      rw [List.mapM_cons]
      rfl
    rw [hrun]
    refine ⟨hspares.trans hrest, fun hall name hname hneed => ?_⟩
    rcases List.mem_cons.1 hname with rfl | hname
    · have hmet := hpassed (hall _ List.mem_cons_self hrequired)
      exact hrest.meets hneed (hspares.meets hneed hmet)
    · exact hmeets (fun check hcheck => hall check (List.mem_cons_of_mem _ hcheck)) name hname hneed

theorem required_checkResource (w : Workspace) (logical : String) (required : Bool) :
    (checkResource w logical required).required = required := by
  unfold checkResource
  split
  · rfl
  · rfl

theorem has_of_checkResource {w : Workspace} {logical : String} {required : Bool}
    (h : (checkResource w logical required).passed = true) : Resources.has logical w = true := by
  unfold checkResource at h
  split at h
  · assumption
  · cases h

/-- The check of a tool among the runtime files passes only when the need for it is met. -/
theorem checkHostTool_meets {name : String}
    (h : (checkHostTool σ.workspace s.toolchain.host name).required = true →
      (checkHostTool σ.workspace s.toolchain.host name).passed = true) :
    Meets s σ (.hostTool name) := by
  unfold checkHostTool at h
  cases hresource : s.toolchain.host.resource name with
  | error e =>
    rw [hresource] at h
    exact absurd (h rfl) (by simp)
  | ok logical =>
    rw [hresource] at h
    exact (Need.met_hostTool hresource).2 (has_of_checkResource (h (required_checkResource ..)))

/-- After a doctor whose required checks have passed, all that builds need is there. -/
theorem meets_of_requiredPassed {c : Config} {cpus : Nat}
    (h : ToolsSpare s σ.workspace.start σ.workspace.resources.root)
    (hpassed : ((run s c cpus).run σ).1.requiredPassed = true) :
    Spares s σ ((run s c cpus).run σ).2 ∧
      ∀ n ∈ Build.needs, Meets s ((run s c cpus).run σ).2 n := by
  obtain ⟨hspares, hjava⟩ := mapM_checkJavaTool_spares (σ := σ) ["java", "jarsigner", "javac"] h
  have hrun : (run s c cpus).run σ =
      (let r := (["java", "jarsigner", "javac"].mapM (checkJavaTool s)).run σ
       let w := r.2.workspace
       ({ checks := r.1 ++ (neededFiles.map (fun f => checkResource w f true) ++
            [checkResource w robotKeystore false]) ++
            ["aapt", "zipalign"].map (checkHostTool w s.toolchain.host),
          configIssues := configIssues c cpus w }, r.2)) := rfl
  rw [hrun] at hpassed ⊢
  simp only [DoctorReport.requiredPassed, List.all_eq_true, List.mem_filter, and_imp] at hpassed
  refine ⟨hspares, fun n hn => ?_⟩
  rcases List.mem_append.1 hn with hn' | hn'
  · rcases List.mem_append.1 hn' with hn' | hn'
    · obtain ⟨f, hf, rfl⟩ := List.mem_map.1 hn'
      have hneeded : f ∈ neededFiles := by
        have hall : ∀ f ∈ Build.runtimeFiles ++ [Components.catalogFile], f ∈ neededFiles := by
          decide
        exact hall f hf
      refine Need.met_runtime.2 (has_of_checkResource (hpassed _ ?_ (required_checkResource ..)))
      refine List.mem_append_left _ (List.mem_append_right _ (List.mem_append_left _ ?_))
      exact List.mem_map_of_mem hneeded
    · obtain ⟨name, hname, rfl⟩ := List.mem_map.1 hn'
      refine checkHostTool_meets (hpassed _ ?_)
      exact List.mem_append_right _ (List.mem_map_of_mem hname)
  · obtain ⟨name, hname, rfl⟩ := List.mem_map.1 hn'
    refine hjava (fun check hcheck => hpassed check ?_) name ?_ hn
    · exact List.mem_append_left _ (List.mem_append_left _ hcheck)
    · rcases List.mem_pair.1 hname with rfl | rfl
      · exact List.mem_cons_self
      · exact List.mem_cons_of_mem _ List.mem_cons_self

end Doctor

/-! ## Builds on a host that was checked -/

/-- A file that a component names was looked for in vain. -/
def Build.MissesNamed (b : Build) (cause : Cause) : Prop :=
  ∃ name ∈ b.namedFiles, ∃ p, cause = .resource (.notFound (Resources.key ("files/" ++ name)) p)

/-- No file of a component is copied over a Java tool of the search path. -/
def Build.SparesTools (s : Services ρ) (b : Build) (start : Place) : Prop :=
  ∀ p ∈ b.attached, ∀ n ∈ needs, ∀ program ∈ n.programs s, program.place start ≠ p.place start

namespace Need

variable {s : Services ρ} {start : Place} {root : Path}

theorem isName_of_mem {last : String} (h : last ∈ names) : Path.IsName last := by
  have hnames : ∀ name ∈ names, Path.IsName name := by
    unfold Path.IsName
    decide
  exact hnames last h

/-- An icon is nothing that a build looks for. -/
theorem place_ne_icon {n : Need} (hn : n ∈ Build.needs) {p : Path}
    (hp : p ∈ n.files s root ++ n.programs s) (drawable : Path) (format : ImageFormat) :
    p.place start ≠ (Icon.file drawable format).place start := by
  have hicon : Path.IsName ("ya." ++ format.extension) ∧ "ya." ++ format.extension ∉ names ∧
      (Text.split '/' ("ya." ++ format.extension)).getLast? = some ("ya." ++ format.extension) := by
    cases format <;> exact ⟨⟨by decide, by decide⟩, by decide, by decide⟩
  obtain ⟨last, hlast, hends⟩ := names_of_files hn hp
  intro heq
  have hends' : (Text.split '/' (Icon.file drawable format).text).getLast? = _ :=
    (Path.getLast?_split_join_any ..).trans hicon.2.2
  rw [Path.last_eq_of_place_eq hends (isName_of_mem hlast) hends' hicon.1 heq] at hlast
  exact hicon.2.1 hlast

/-- An archive is no program that a build looks for. -/
theorem place_ne_apk {n : Need} (hn : n ∈ Build.needs) {p : Path} (hp : p ∈ n.programs s)
    (dir : Path) (name : String) : p.place start ≠ (dir.join (name ++ ".apk")).place start := by
  have hslash : '/' ∉ ".apk".toList := by decide
  obtain ⟨front, hfront⟩ := Text.getLast?_split_append hslash name
  have hname : Path.IsName (front ++ ".apk") := by
    refine Path.isName_of_long ?_
    have hending : ".apk".toList.length = 4 := by decide
    rw [String.toList_append, List.length_append]
    omega
  obtain ⟨last, hlast, hends⟩ := names_of_programs hn hp
  intro heq
  have hsame := Path.last_eq_of_place_eq hends
    (isName_of_mem (List.mem_of_mem_drop (i := 9) hlast))
    ((Path.getLast?_split_join_any ..).trans hfront) hname heq
  have hlasts : ∀ name ∈ programNames, name.toList.getLast? ≠ some 'k' := by decide
  refine hlasts last hlast ?_
  rw [hsame]
  simp

end Need

namespace Build

variable {s : Services ρ} {b : Build} {start : Place} {root scratch : Path}

/-- A build that is no robot controller fits a host on which all is there that builds need; it
misses only files that components name. -/
theorem fits_needs (htools : Doctor.ToolsSpare s start root) {t : FileTree}
    (hready : ∀ n ∈ needs, n.Met s root start t) (hrobot : b.survey.robot = false)
    (hspares : b.SparesTools s start) :
    b.Fits s (Need.upkeep s start root needs) ⟨start, root, scratch⟩
      (fun cause => cause.isLookup = true → b.MissesNamed cause) where
  excuses cause hno hyes := absurd hyes (by rw [hno]; decide)
  stocks _ _ _ := ⟨fun _ _ _ _ => trivial, trivial⟩
  paves _ _ _ _ := trivial
  hosts _ _ := ⟨fun _ _ _ _ => trivial, trivial⟩
  removes format n hn p hp := Need.place_ne_icon hn hp _ format
  lodges p hp := by
    refine ⟨fun _ _ _ _ => trivial, fun n hn program hprogram => ?_⟩
    rcases List.mem_cons.1 hp with rfl | hp
    · exact Need.place_ne_apk hn hprogram _ _
    · exact hspares p hp n hn program hprogram
  outputs p _ command _ limit state t h n hn := htools command limit state t n hn (h n hn)
  runtime f hf := by
    rintro ⟨t, h, hmissing⟩
    have hmet := Need.met_runtime.1 (h (.runtime f) (by simp [needs, hf]))
    exact absurd hmet (by simp [hmissing])
  named name hname p _ := ⟨name, hname, p, rfl⟩
  hostTools name hname := by
    have hneed : Need.hostTool name ∈ needs := by simpa [needs] using hname
    refine ⟨fun e he => absurd (hready _ hneed) (Need.not_met_hostTool he), ?_⟩
    rintro logical hl ⟨t, h, hmissing⟩
    have hmet := (Need.met_hostTool hl).1 (h _ hneed)
    exact absurd hmet (by simp [hmissing])
  javaTools tool htool t e h he := by
    have hneed : Need.javaTool tool ∈ needs := by simpa [needs] using htool
    obtain ⟨p, hp⟩ := Need.met_javaTool.1 (h _ hneed)
    have hboth := hp.symm.trans he
    cases hboth
  robot h := absurd h (by simp [hrobot])

end Build

/-- The catalog is known to the session, or its file, if it is there, holds text. -/
def Session.CatalogReadable (σ : Session ρ) : Prop :=
  σ.catalog = none → Resources.has Components.catalogFile σ.workspace = true → ∃ text,
    σ.workspace.tree.readText σ.workspace.start
      (σ.workspace.resources.source Components.catalogFile) = .ok text

namespace Build

variable {s : Services ρ} {σ : Session ρ}

/-- A catalog that is there and holds text is not missed. -/
theorem catalog_found {X : Cause → Prop} (hX : Excuses X) (hreadable : σ.CatalogReadable)
    (hthere : Resources.has Components.catalogFile σ.workspace = true) {e : BuildError}
    (h : ((catalog : Step ρ Catalog).run σ).1 = .error e) : e.Tells X := by
  unfold catalog at h
  rw [run_bind, Step.run_get] at h
  simp only at h
  cases hcatalog : σ.catalog with
  | some found =>
    rw [hcatalog] at h
    cases h
  | none =>
    obtain ⟨text, htext⟩ := hreadable hcatalog hthere
    rw [hcatalog] at h
    simp only at h
    rw [run_bind, Step.run_work] at h
    unfold Components.loadCatalog at h
    rw [run_bind, Task.run_explain, Upkeep.run_readText, htext] at h
    simp only [Except.mapError] at h
    cases hparse : Catalog.parse Components.catalogFile text with
    | error fault =>
      rw [hparse] at h
      cases h
      exact BuildError.tells_stage (hX _ rfl)
    | ok found =>
      rw [hparse] at h
      cases h

end Build

/-! ## A host that passes -/

/-- A file is left in a tree that may have got directories for it, if it can be written there. -/
theorem Rehearsal.leave_cases (start : Place) (tree : FileTree) (p : Path) :
    ∃ made, (made = tree ∨ ∃ d, made = (tree.makeDirs start d).2) ∧
      (leave start tree p = made ∨ made.write start p placeholder = .ok (leave start tree p)) := by
  unfold leave
  simp only
  cases p.parent? with
  | none =>
    refine ⟨tree, .inl rfl, ?_⟩
    split
    · rename_i hwrite
      exact .inr hwrite
    · exact .inl rfl
  | some d =>
    refine ⟨(tree.makeDirs start d).2, .inr ⟨d, rfl⟩, ?_⟩
    split
    · rename_i hwrite
      exact .inr hwrite
    · exact .inl rfl

/-- Tools that only play their part write files and make directories, which takes nothing away. -/
theorem Rehearsal.spares (s : Services Part) (hrunner : s.runner = runner) (start : Place)
    (root : Path) : Doctor.ToolsSpare s start root := by
  intro command limit part t n hn hmet
  let u := Need.upkeep s start root [n]
  have hleave : ∀ tree p, u.Holds tree → u.Holds (leave start tree p) := by
    intro tree p h
    obtain ⟨made, hmade, hleft⟩ := leave_cases start tree p
    have hparent : u.Holds made := by
      rcases hmade with rfl | ⟨d, rfl⟩
      · exact h
      · exact Upkeep.holds_makeDirs h fun _ _ => trivial
    rcases hleft with hsame | hwrite
    · rwa [hsame]
    · exact Upkeep.holds_write hparent trivial hwrite
  have hall : ∀ (ps : List Path) tree, u.Holds tree → u.Holds (ps.foldl (leave start) tree) := by
    intro ps
    induction ps with
    | nil => exact fun _ h => h
    | cons p ps ih => exact fun tree h => ih _ (hleave tree p h)
  have hstart : u.Holds t := by
    rintro m hm
    rwa [List.mem_singleton.1 hm]
  have hend : u.Holds (answer command limit start part t).2.2 := by
    unfold answer
    simp only
    split
    · exact hall _ t hstart
    · exact hstart
  rw [hrunner]
  exact hend n List.mem_cons_self

/-- A session on a host where all is there that the doctor looks for. -/
def checkedSession : Session Rehearsal.Part where
  workspace := Workspace.opened [] ([["rt", "files", "ya.png"],
      ["rt", "files", "simple_components_build_info.json"], ["jdk", "bin", "javac"]].foldl
    (fun tree place => tree.putWithParents place (.file [] true)) Build.hostBuiltOn)
    ⟨"/rt"⟩ ⟨"/tmp/r"⟩
  tools := Rehearsal.Part.ofRules [] []

/-- The doctor on that host: its report, and the session after it. -/
def checkup : DoctorReport × Session Rehearsal.Part :=
  (Doctor.run Build.rehearsed default 1).run checkedSession

/-- The prepared build, if there is one, is no robot controller. -/
def Build.isPlain : Except BuildError Build → Bool
  | .ok b => !b.survey.robot
  | .error _ => true

/-! ## The law -/

end ApkForge
