-- Component files as they arrive. Entries are copied one after the other, and later ones may go
-- where earlier ones went; but where two go to one place they are one file, as long as the types
-- of extensions are names. So when all is copied every entry has the content of its own file.
import ApkForge.Proofs.Lookups
import ApkForge.Proofs.Vacancies

namespace ApkForge

theorem FileTree.file?_of_read {t : FileTree} {start : Place} {p : Path} {content : Bytes}
    (hfile : t.isFile start p = true) (hread : t.read start p = .ok content) :
    ∃ executable, t.file? (p.place start) = some (content, executable) := by
  obtain ⟨place, found, executable, hstat⟩ := isFile_iff.1 hfile
  rw [read_of_stat hstat] at hread
  cases hread
  obtain ⟨rfl, hat⟩ := place_of_stat hstat
  refine ⟨executable, ?_⟩
  simp only [file?, hat]

namespace Attachments

/-! ## The two ends of a name -/

/-- Libraries of different names go to different processors or have different names there. -/
theorem abiTarget_injective : Function.Injective abiTarget := by
  have hcut : ∀ library name, Text.dropTail? "-v7a" library = some name →
      library = name ++ "-v7a" := by
    intro library name h
    unfold Text.dropTail? at h
    obtain ⟨rest, hrest, rfl⟩ := Option.map_eq_some_iff.1 h
    have hchars := congrArg List.reverse (Text.dropHead?_eq_some.1 hrest)
    refine String.toList_injective ?_
    simpa using hchars
  intro library other h
  have hdirs : ("armeabi" : String) ≠ "armeabi-v7a" := by decide
  unfold abiTarget at h
  cases hlibrary : Text.dropTail? "-v7a" library with
  | none =>
    cases hother : Text.dropTail? "-v7a" other with
    | none =>
      rw [hlibrary, hother] at h
      exact congrArg Prod.snd h
    | some name =>
      rw [hlibrary, hother] at h
      exact absurd (congrArg Prod.fst h) hdirs
  | some name =>
    cases hother : Text.dropTail? "-v7a" other with
    | none =>
      rw [hlibrary, hother] at h
      exact absurd (congrArg Prod.fst h) hdirs.symm
    | some name' =>
      rw [hlibrary, hother] at h
      have hname : name = name' := congrArg Prod.snd h
      rw [hcut library name hlibrary, hcut other name' hother, hname]

/-! ## Routes -/

/-- How files of one kind go: for each entry the directory meant for it, its name there, and the
name of its file among the files of its type. -/
structure Route where
  dir : String × String → Path
  name : String × String → String
  relative : String × String → String

/-- How native libraries go. -/
def libraryRoute (libsDir : Path) : Route where
  dir entry := libsDir.join (abiTarget entry.2).1
  name entry := (abiTarget entry.2).2
  relative entry := (abiTarget entry.2).1 ++ "/" ++ (abiTarget entry.2).2

/-- How assets go. -/
def assetRoute (componentDir : Path) : Route where
  dir _ := componentDir
  name := Prod.snd
  relative := Prod.snd

variable {r : Route} {base : Path} {sets : ComponentSets} {entry other : String × String}
  {entries : List (String × String)} {start : Place} {w w' w₀ : Workspace}

namespace Route

/-- Where an entry goes. -/
def target (r : Route) (sets : ComponentSets) (entry : String × String) : Path :=
  (nested (r.dir entry) entry.1 (sets.origin entry.1)).join (r.name entry)

/-- An entry copied. -/
def deliver (r : Route) (sets : ComponentSets) (entry : String × String) : Task Cause Unit := do
  let (source, origin) ← Components.resolve sets entry.1 (r.relative entry)
  Task.explain .files (Task.copy source ((nested (r.dir entry) entry.1 origin).join (r.name entry)))

theorem copyLibrary_eq (sets : ComponentSets) (libsDir : Path) :
    copyLibrary sets libsDir = (libraryRoute libsDir).deliver sets := rfl

theorem copyAsset_eq (sets : ComponentSets) (componentDir : Path) :
    copyAsset sets componentDir = (assetRoute componentDir).deliver sets := rfl

/-- The directories of a route lie below a base, all at one depth, and a directory with a name there
tells the file. -/
structure Lawful (r : Route) (base : Path) : Prop where
  below : ∀ entry start, base.place start <+: (r.dir entry).place start
  level : ∀ entry other start,
    ((r.dir entry).place start).length = ((r.dir other).place start).length
  single : ∀ entry other start, (r.dir entry).place start = (r.dir other).place start →
    r.name entry = r.name other → r.relative entry = r.relative other

theorem lawful_library (libsDir : Path) : (libraryRoute libsDir).Lawful libsDir := by
  have hplace : ∀ entry start, ((libraryRoute libsDir).dir entry).place start =
      libsDir.place start ++ [(abiTarget entry.2).1] :=
    fun entry start =>
      Path.place_join_name (isPlain_of_abiDirs (abiTarget_mem entry.2)) libsDir start
  constructor
  case below =>
    intro entry start
    rw [hplace]
    exact List.prefix_append _ _
  case level =>
    intro entry other start
    rw [hplace, hplace, List.length_append, List.length_append]
    rfl
  case single =>
    intro entry other start hdir hname
    rw [hplace, hplace] at hdir
    have habi : (abiTarget entry.2).1 = (abiTarget other.2).1 := by simpa using hdir
    have hname' : (abiTarget entry.2).2 = (abiTarget other.2).2 := hname
    unfold libraryRoute
    simp only
    rw [habi, hname']

theorem lawful_asset (componentDir : Path) : (assetRoute componentDir).Lawful componentDir :=
  ⟨fun _ _ => List.prefix_rfl, fun _ _ _ => rfl, fun _ _ _ _ hname => hname⟩

/-- The names of entries are names, and so are the types that name directories. -/
structure Plain (r : Route) (sets : ComponentSets) (entries : List (String × String)) : Prop where
  names : ∀ entry ∈ entries, Path.IsPlain (r.name entry)
  types : ∀ entry ∈ entries, sets.origin entry.1 = .extension → Path.IsPlain entry.1

theorem Plain.place_target (h : r.Plain sets entries) (hentry : entry ∈ entries) (start : Place) :
    (r.target sets entry).place start = (r.dir entry).place start ++
      match sets.origin entry.1 with
      | .builtin => [r.name entry]
      | .extension => ["external_comps", entry.1, r.name entry] := by
  have hname := h.names entry hentry
  have htype := h.types entry hentry
  unfold target nested
  rw [Path.place_join_name hname]
  cases horigin : sets.origin entry.1 with
  | builtin => rfl
  | extension =>
    simp only
    rw [Path.place_join_name (htype horigin), Path.place_join_name (by decide)]
    simp

/-- Entries that go to one place are one file of one kind of type, and of one type where types
name directories. -/
theorem Plain.eq_of_target (h : r.Plain sets entries) (hlawful : r.Lawful base)
    (hentry : entry ∈ entries) (hother : other ∈ entries)
    (heq : (r.target sets entry).place start = (r.target sets other).place start) :
    sets.origin entry.1 = sets.origin other.1 ∧ r.relative entry = r.relative other ∧
      (sets.origin entry.1 = .extension → entry.1 = other.1) := by
  have hlevel := hlawful.level entry other start
  rw [h.place_target hentry, h.place_target hother] at heq
  obtain ⟨hdir, hrest⟩ := List.append_inj heq hlevel
  cases horigin : sets.origin entry.1 with
  | builtin =>
    cases horigin' : sets.origin other.1 with
    | builtin =>
      rw [horigin, horigin'] at hrest
      have hname : r.name entry = r.name other := by simpa using hrest
      exact ⟨rfl, hlawful.single _ _ start hdir hname, fun hkind => nomatch hkind⟩
    | extension =>
      rw [horigin, horigin'] at hrest
      simp at hrest
  | extension =>
    cases horigin' : sets.origin other.1 with
    | builtin =>
      rw [horigin, horigin'] at hrest
      simp at hrest
    | extension =>
      rw [horigin, horigin'] at hrest
      have hboth : entry.1 = other.1 ∧ r.name entry = r.name other := by simpa using hrest
      exact ⟨rfl, hlawful.single _ _ start hdir hboth.2, fun _ => hboth.1⟩

theorem Plain.prefix_target (h : r.Plain sets entries) (hlawful : r.Lawful base)
    (hentry : entry ∈ entries) : base.place start <+: (r.target sets entry).place start := by
  rw [h.place_target hentry]
  exact (hlawful.below entry start).trans (List.prefix_append _ _)

end Route

/-! ## Sources -/

/-- The file of a type: a runtime file, or for an extension one of the files in the directory that
it was found in. -/
def Source (sets : ComponentSets) (w : Workspace) (typeName relative : String) (p : Path) : Prop :=
  match sets.origin typeName with
  | .builtin => p = w.resources.source ("files/" ++ relative)
  | .extension => ∃ dir, w.locator.found.lookup typeName = some dir ∧
      p = (dir.join Locator.filesDirName).join relative

/-- The directory of an extension may be this one: it was found there, or it was not found yet and
would be looked for there. -/
def MayBeIn (w : Workspace) (component : String) (dir : Path) : Prop :=
  w.locator.found.lookup component = some dir ∨ w.locator.found.lookup component = none ∧
    (dir = w.locator.root.join component ∨
      Locator.accepts w (w.locator.root.join component) = false ∧
        ∃ package, Locator.InPackage component package ∧ dir = w.locator.root.join package)

/-- The file of a type may be this one. -/
def MayBe (sets : ComponentSets) (w : Workspace) (typeName relative : String) (p : Path) : Prop :=
  match sets.origin typeName with
  | .builtin => p = w.resources.source ("files/" ++ relative)
  | .extension => ∃ dir, MayBeIn w typeName dir ∧ p = (dir.join Locator.filesDirName).join relative

theorem Source.unique {typeName relative : String} {p q : Path}
    (hp : Source sets w typeName relative p) (hq : Source sets w typeName relative q) : p = q := by
  unfold Source at hp hq
  cases horigin : sets.origin typeName with
  | builtin =>
    rw [horigin] at hp hq
    exact hp.trans hq.symm
  | extension =>
    rw [horigin] at hp hq
    obtain ⟨dir, hdir, rfl⟩ := hp
    obtain ⟨dir', hdir', rfl⟩ := hq
    rw [hdir] at hdir'
    cases hdir'
    rfl

theorem Source.lasts {typeName relative : String} {p : Path}
    (hp : Source sets w typeName relative p) (hremembers : Remembers w w')
    (hroot : w'.resources.root = w.resources.root) : Source sets w' typeName relative p := by
  unfold Source at hp ⊢
  cases horigin : sets.origin typeName with
  | builtin =>
    rw [horigin] at hp
    simp only at hp ⊢
    unfold Resources.source at hp ⊢
    rwa [hroot]
  | extension =>
    rw [horigin] at hp
    obtain ⟨dir, hdir, rfl⟩ := hp
    exact ⟨dir, hremembers.found _ _ hdir, rfl⟩

/-- Entries that go to one place have one file. -/
theorem Source.eq_of_target (hplain : r.Plain sets entries) (hlawful : r.Lawful base)
    (hentry : entry ∈ entries) (hother : other ∈ entries)
    (heq : (r.target sets entry).place start = (r.target sets other).place start) {p q : Path}
    (hp : Source sets w entry.1 (r.relative entry) p)
    (hq : Source sets w other.1 (r.relative other) q) : p = q := by
  obtain ⟨horigin, hrelative, htype⟩ := hplain.eq_of_target hlawful hentry hother heq
  cases hkind : sets.origin entry.1 with
  | builtin =>
    unfold Source at hp hq
    rw [hkind] at hp
    rw [← horigin, hkind, ← hrelative] at hq
    exact hp.trans hq.symm
  | extension =>
    rw [← htype hkind, ← hrelative] at hq
    exact hp.unique hq

/-! ## What holds meanwhile -/

/-- A path names a private copy with the content that a file had in `w₀`. -/
def Mirrors (w₀ w : Workspace) (source copy : Path) : Prop :=
  Below (w₀.resources.scratch.place w₀.start) (copy.place w₀.start) ∧
    ∃ content executable executable',
      w₀.tree.file? (source.place w₀.start) = some (content, executable) ∧
        w.tree.stat w₀.start copy = .ok (copy.place w₀.start, .file content executable')

/-- Entries that can be delivered below a base: names that are plain; a cache whose numbers are free
and whose copies of the files asked for are true; files that lie neither below the base nor in the
cache, and these two apart; and no device where an entry goes. -/
structure Deliverable (r : Route) (base : Path) (sets : ComponentSets)
    (entries : List (String × String)) (w : Workspace) : Prop where
  plain : r.Plain sets entries
  vacant : Resources.Vacant w
  faithful : ∀ entry ∈ entries, sets.origin entry.1 = .builtin → ∀ copy,
    w.resources.held.lookup (Resources.key ("files/" ++ r.relative entry)) = some copy →
      Mirrors w w (w.resources.source ("files/" ++ r.relative entry)) copy
  sources : ∀ entry ∈ entries, ∀ p, MayBe sets w entry.1 (r.relative entry) p →
    ¬ base.place w.start <+: p.place w.start ∧
      ¬ Below (w.resources.scratch.place w.start) (p.place w.start)
  above : ¬ w.resources.scratch.place w.start <+: base.place w.start
  below : ¬ base.place w.start <+: w.resources.scratch.place w.start
  sinks : ∀ entry ∈ entries, w.tree.at? ((r.target sets entry).place w.start) ≠ some .sink

/-- What lies below the base is no part of the cache. -/
theorem Deliverable.not_below (h : Deliverable r base sets entries w) {q : Place}
    (hq : base.place w.start <+: q) : ¬ Below (w.resources.scratch.place w.start) q := by
  rintro ⟨hin, -⟩
  rcases List.prefix_or_prefix_of_prefix hq hin with hpre | hpre
  · exact h.below hpre
  · exact h.above hpre

/-- The place that some entry goes to. -/
def Goal (r : Route) (sets : ComponentSets) (entries : List (String × String)) (start : Place)
    (q : Place) : Prop :=
  ∃ entry ∈ entries, q = (r.target sets entry).place start

/-- Where the copying of entries leads from `w₀`: files are written below the base and in the cache
only, the copies in the cache are true to the files of `w₀`, and extensions are where they may have
been in `w₀`. -/
structure Amid (r : Route) (base : Path) (sets : ComponentSets)
    (entries : List (String × String)) (w₀ w : Workspace) : Prop where
  ready : Deliverable r base sets entries w₀
  start : w.start = w₀.start
  root : w.resources.root = w₀.resources.root
  scratch : w.resources.scratch = w₀.resources.scratch
  locator : w.locator.root = w₀.locator.root
  remembers : Remembers w₀ w
  vacant : Resources.Vacant w
  writes : FileTree.Writes (fun q => Below (w₀.resources.scratch.place w₀.start) q ∨
    base.place w₀.start <+: q) w₀.tree w.tree
  sinks : w.tree.Admits (Goal r sets entries w₀.start) (· ≠ .sink)
  faithful : ∀ entry ∈ entries, sets.origin entry.1 = .builtin → ∀ copy,
    w.resources.held.lookup (Resources.key ("files/" ++ r.relative entry)) = some copy →
      Mirrors w₀ w (w₀.resources.source ("files/" ++ r.relative entry)) copy
  found : ∀ entry ∈ entries, ∀ dir, w.locator.found.lookup entry.1 = some dir →
    MayBeIn w₀ entry.1 dir

theorem Deliverable.amid (h : Deliverable r base sets entries w) :
    Amid r base sets entries w w := by
  constructor
  case ready => exact h
  case start => rfl
  case root => rfl
  case scratch => rfl
  case locator => rfl
  case remembers => exact Std.Refl.refl w
  case vacant => exact h.vacant
  case writes => exact FileTree.writes_refl _ _
  case sinks =>
    rintro _ ⟨entry, hentry, rfl⟩ found hat rfl
    exact h.sinks entry hentry hat
  case faithful => exact h.faithful
  case found => exact fun entry _ dir hdir => .inl hdir

variable {ε α : Type}

/-- Work below the base that asks for no file. -/
theorem Amid.work {E : ε → Prop} (h : Amid r base sets entries w₀ w) {task : Task ε α}
    (hwrites : Task.WritesOnly w₀.start w₀.resources.scratch
      (fun q => base.place w₀.start <+: q) task)
    (hsame : Leads SameMemory task)
    (hsafe : ∀ u : Upkeep, (∀ q, u.Makes q) → (∀ q, base.place w₀.start <+: q → u.Copies q) →
      Safe (u.At (Resources.site w)) E task) :
    Amid r base sets entries w₀ (task.run w).2 := by
  obtain ⟨hstart, hscratch, hframe⟩ := hwrites w h.start h.scratch
  have hmemory := hsame w
  have hroom : ∀ q, base.place w₀.start <+: q →
      (Resources.room w w.resources.copies).Copies q := by
    rintro q hq ⟨i, -, hin⟩
    have hbelow := Resources.below_of_numbered hin
    rw [h.start, h.scratch] at hbelow
    exact absurd hbelow (h.ready.not_below hq)
  constructor
  case ready => exact h.ready
  case start => exact hstart
  case root =>
    rw [hmemory.resources]
    exact h.root
  case scratch => exact hscratch
  case locator =>
    rw [hmemory.locator]
    exact h.locator
  case remembers => exact h.remembers.trans hmemory.remembers
  case vacant => exact h.vacant.safe (hsafe _ (fun _ => trivial) hroom) hmemory.resources
  case writes => exact h.writes.trans (hframe.mono fun _ => Or.inr)
  case sinks =>
    let u := Upkeep.admitting (Goal r sets entries w₀.start) (· ≠ .sink) (by simp)
    exact (hsafe u (fun _ => trivial) (fun _ _ _ _ _ => by simp) w
      ⟨rfl, rfl, rfl, h.sinks⟩).1.tree
  case faithful =>
    intro entry hentry hbuiltin copy hcopy
    rw [hmemory.resources] at hcopy
    obtain ⟨hbelow, content, x, x', hfile, hstat⟩ := h.faithful entry hentry hbuiltin copy hcopy
    refine ⟨hbelow, content, x, x', hfile, hframe.stat_file hstat ?_⟩
    exact fun hin => h.ready.not_below hin hbelow
  case found =>
    rw [hmemory.locator]
    exact h.found

/-! ## One entry -/

/-- A runtime file is served by a copy that is true to the file. -/
theorem Amid.get (h : Amid r base sets entries w₀ w) (hentry : entry ∈ entries)
    (hbuiltin : sets.origin entry.1 = .builtin) {copy : Path}
    (hrun : (Resources.get ("files/" ++ r.relative entry)).run w = (.ok copy, w')) :
    Amid r base sets entries w₀ w' ∧
      Mirrors w₀ w' (w₀.resources.source ("files/" ++ r.relative entry)) copy := by
  have hvacant := h.vacant.get ("files/" ++ r.relative entry)
  have hframe := Resources.writesOnly_get ("files/" ++ r.relative entry) w h.start h.scratch
  have hremembers := (Resources.settles_get _).remembers hrun
  let u := Upkeep.admitting (Goal r sets entries w₀.start) (· ≠ .sink) (by simp)
  have hstocks : u.Stocks (Resources.site w) :=
    fun _ _ _ => ⟨fun _ _ _ _ => trivial, fun _ _ _ => by simp⟩
  have hat : u.At (Resources.site w) w := ⟨rfl, rfl, rfl, h.sinks⟩
  have hsinks := (Upkeep.safe_get_resource hstocks ("files/" ++ r.relative entry) w hat).1.tree
  have hsource : w.resources.source ("files/" ++ r.relative entry) =
      w₀.resources.source ("files/" ++ r.relative entry) := by
    unfold Resources.source
    rw [h.root]
  rw [hrun] at hvacant hframe hsinks
  obtain ⟨hstart, hscratch, hframe⟩ := hframe
  have hanswers := Resources.answers_of_run h.vacant hrun
  clear hrun
  cases hanswers with
  | held there => exact ⟨h, h.faithful entry hentry hbuiltin copy there⟩
  | copied path unknown there named found stored leads =>
    have hbelow : Below (w₀.resources.scratch.place w₀.start) (copy.place w₀.start) := by
      rw [path, Resources.target_of_name named, ← h.start, ← h.scratch]
      exact Resources.below_of_numbered ((Path.isPlain_name? named).prefix_join _ _)
    obtain ⟨x, hfile⟩ := FileTree.file?_of_read there found
    rw [hsource, h.start] at hfile
    have hplace : ¬ (Below (w₀.resources.scratch.place w₀.start)
        ((w₀.resources.source ("files/" ++ r.relative entry)).place w₀.start) ∨
        base.place w₀.start <+:
          (w₀.resources.source ("files/" ++ r.relative entry)).place w₀.start) := by
      have hsources := h.ready.sources entry hentry
        (w₀.resources.source ("files/" ++ r.relative entry)) (by unfold MayBe; rw [hbuiltin])
      exact fun hin => hin.elim hsources.2 hsources.1
    rw [h.writes.files _ hplace] at hfile
    rw [h.start] at leads
    have hmirrors : ∀ w' : Workspace, w'.tree.stat w₀.start copy =
        .ok (copy.place w₀.start, .file _ true) →
          Mirrors w₀ w' (w₀.resources.source ("files/" ++ r.relative entry)) copy :=
      fun w' hstat => ⟨hbelow, _, _, _, hfile, hstat⟩
    refine ⟨?_, hmirrors _ leads⟩
    constructor
    case ready => exact h.ready
    case start => exact h.start
    case root => exact h.root
    case scratch => exact h.scratch
    case locator => exact h.locator
    case remembers => exact h.remembers.trans hremembers
    case vacant => exact hvacant
    case writes => exact h.writes.trans (hframe.mono fun _ => Or.inl)
    case sinks => exact hsinks
    case faithful =>
      intro other hother hbuiltin' copy' hcopy
      by_cases hkey : Resources.key ("files/" ++ r.relative other) =
          Resources.key ("files/" ++ r.relative entry)
      · rw [hkey] at hcopy
        simp only [List.lookup_cons_self, Option.some.injEq] at hcopy
        subst hcopy
        have hsame : w₀.resources.source ("files/" ++ r.relative other) =
            w₀.resources.source ("files/" ++ r.relative entry) := by
          unfold Resources.source
          rw [hkey]
        rw [hsame]
        exact hmirrors _ leads
      · have hbeq : (Resources.key ("files/" ++ r.relative other) ==
            Resources.key ("files/" ++ r.relative entry)) = false := beq_false_of_ne hkey
        simp only [List.lookup_cons, hbeq] at hcopy
        obtain ⟨hbelow', content, x, x', hfile', hstat⟩ :=
          h.faithful other hother hbuiltin' copy' hcopy
        exact ⟨hbelow', content, x, x', hfile',
          FileTree.stat_of_keeps (fun _ _ => stored.keeps) hstat⟩
    case found => exact h.found

/-- A directory that does not count now did not count in `w₀`. -/
theorem Amid.passed (h : Amid r base sets entries w₀ w) {dir : Path}
    (hpassed : Locator.accepts w dir = false) : Locator.accepts w₀ dir = false := by
  rw [Bool.eq_false_iff] at hpassed ⊢
  intro hthere
  refine hpassed ?_
  unfold Locator.accepts at hthere ⊢
  rw [h.start]
  exact FileTree.isDir_of_dirs h.writes.dirs hthere

/-- An extension that was not known is found in one of the two directories it may be in. -/
theorem Amid.relocate (h : Amid r base sets entries w₀ w) {component : String} {dir : Path}
    (unknown : w.locator.found.lookup component = none)
    (hdir : dir = w.locator.root.join component ∨
      Locator.accepts w (w.locator.root.join component) = false ∧
        ∃ package, Locator.InPackage component package ∧ dir = w.locator.root.join package)
    (probes : Nat) : Amid r base sets entries w₀ { w with
      locator := { w.locator with probes, found := (component, dir) :: w.locator.found } } := by
  have hunknown : w₀.locator.found.lookup component = none := by
    cases hthere : w₀.locator.found.lookup component with
    | none => rfl
    | some there =>
      rw [h.remembers.found _ _ hthere] at unknown
      cases unknown
  constructor
  case ready => exact h.ready
  case start => exact h.start
  case root => exact h.root
  case scratch => exact h.scratch
  case locator => exact h.locator
  case remembers =>
    exact ⟨h.remembers.held, fun c d hc =>
      lookup_cons_of_lookup unknown (h.remembers.found c d hc)⟩
  case vacant => exact h.vacant
  case writes => exact h.writes
  case sinks => exact h.sinks
  case faithful => exact h.faithful
  case found =>
    intro entry hentry there hthere
    by_cases hcomponent : entry.1 = component
    · subst hcomponent
      simp only [List.lookup_cons_self, Option.some.injEq] at hthere
      subst hthere
      rw [h.locator] at hdir
      exact .inr ⟨hunknown, hdir.imp_right fun hpassed => ⟨h.passed hpassed.1, hpassed.2⟩⟩
    · have hbeq : (entry.1 == component) = false := beq_false_of_ne hcomponent
      simp only [List.lookup_cons, hbeq] at hthere
      exact h.found entry hentry there hthere

/-- An extension is found where it may be. -/
theorem Amid.locate (h : Amid r base sets entries w₀ w) {component : String} {dir : Path}
    (hrun : (Locator.locate component).run w = (.ok dir, w')) :
    Amid r base sets entries w₀ w' ∧ w'.locator.found.lookup component = some dir := by
  have hlooks := Locator.looks_run component w
  rw [hrun] at hlooks
  simp only at hlooks
  cases hlooks with
  | known there => exact ⟨h, there⟩
  | own unknown qualified accepted =>
    exact ⟨h.relocate unknown (.inl rfl) _, List.lookup_cons_self⟩
  | shared unknown within passed accepted =>
    exact ⟨h.relocate unknown (.inr ⟨passed, _, within, rfl⟩) _, List.lookup_cons_self⟩

/-- The path that an entry is copied from: it lies outside of the base, and what stands there is
what stood at the file of the entry in `w₀`. -/
structure Feeds (sets : ComponentSets) (base : Path) (w₀ w : Workspace)
    (typeName relative : String) (source p : Path) : Prop where
  known : Source sets w typeName relative source
  apart : ¬ base.place w₀.start <+: p.place w₀.start
  same : ∀ content executable, w.tree.file? (p.place w₀.start) = some (content, executable) →
    ∃ executable', w₀.tree.file? (source.place w₀.start) = some (content, executable')

/-- A runtime file feeds through its copy. -/
theorem Amid.feeds_builtin (h : Amid r base sets entries w₀ w)
    (hbuiltin : sets.origin entry.1 = .builtin) {copy : Path}
    (hmirrors : Mirrors w₀ w (w₀.resources.source ("files/" ++ r.relative entry)) copy) :
    Feeds sets base w₀ w entry.1 (r.relative entry)
      (w₀.resources.source ("files/" ++ r.relative entry)) copy := by
  obtain ⟨hbelow, content, x, x', hfile, hstat⟩ := hmirrors
  constructor
  case known =>
    unfold Source Resources.source
    rw [hbuiltin, h.root]
  case apart => exact fun hin => h.ready.not_below hin hbelow
  case same =>
    intro found executable hfound
    obtain ⟨-, hat⟩ := FileTree.place_of_stat hstat
    simp only [FileTree.file?, hat, Option.some.injEq, Prod.mk.injEq] at hfound
    rw [← hfound.1]
    exact ⟨x, hfile⟩

/-- A file of an extension feeds by itself. -/
theorem Amid.feeds_extension (h : Amid r base sets entries w₀ w) (hentry : entry ∈ entries)
    (hextension : sets.origin entry.1 = .extension) {dir : Path}
    (hfound : w.locator.found.lookup entry.1 = some dir) :
    Feeds sets base w₀ w entry.1 (r.relative entry)
      ((dir.join Locator.filesDirName).join (r.relative entry))
      ((dir.join Locator.filesDirName).join (r.relative entry)) := by
  have hmay : MayBe sets w₀ entry.1 (r.relative entry)
      ((dir.join Locator.filesDirName).join (r.relative entry)) := by
    unfold MayBe
    rw [hextension]
    exact ⟨dir, h.found entry hentry dir hfound, rfl⟩
  obtain ⟨hbase, hcache⟩ := h.ready.sources entry hentry _ hmay
  constructor
  case known =>
    unfold Source
    rw [hextension]
    exact ⟨dir, hfound, rfl⟩
  case apart => exact hbase
  case same =>
    intro content executable hfile
    rw [h.writes.files _ fun hin => hin.elim hcache hbase] at hfile
    exact ⟨executable, hfile⟩

theorem Amid.resolve (h : Amid r base sets entries w₀ w) (hentry : entry ∈ entries)
    {found : Path × Origin}
    (hrun : (Components.resolve sets entry.1 (r.relative entry)).run w = (.ok found, w')) :
    Amid r base sets entries w₀ w' ∧ found.2 = sets.origin entry.1 ∧
      ∃ source, Feeds sets base w₀ w' entry.1 (r.relative entry) source found.1 := by
  unfold Components.resolve at hrun
  by_cases hbuiltin : sets.hasBuiltin entry.1 = true
  · have horigin : sets.origin entry.1 = .builtin := by
      unfold ComponentSets.origin
      rw [if_pos hbuiltin]
    rw [if_pos hbuiltin] at hrun
    rcases run_bind_cases hrun with ⟨e, -, he⟩ | ⟨copy, w₁, hget, hpure⟩
    · cases he
    cases hpure
    obtain ⟨hamid, hmirrors⟩ := h.get hentry horigin (Task.run_of_explain hget)
    exact ⟨hamid, horigin.symm, _, hamid.feeds_builtin horigin hmirrors⟩
  · have horigin : sets.origin entry.1 = .extension := by
      unfold ComponentSets.origin
      rw [if_neg hbuiltin]
    rw [if_neg hbuiltin] at hrun
    split at hrun
    · rcases run_bind_cases hrun with ⟨e, -, he⟩ | ⟨path, w₁, hfile, hpure⟩
      · cases he
      cases hpure
      have hask := Task.run_of_explain hfile
      rcases hlocate : (Locator.locate entry.1).run w with ⟨e | dir, w₂⟩
      · have hnone := Locator.Question.run_error hlocate (.file (r.relative entry))
        unfold Locator.Question.task at hnone
        rw [hnone] at hask
        cases hask
      · have hpath := Locator.Question.run_ok hlocate (.file (r.relative entry))
        unfold Locator.Question.task at hpath
        rw [hpath] at hask
        cases hask
        obtain ⟨hamid, hfound⟩ := h.locate hlocate
        exact ⟨hamid, horigin.symm, _, hamid.feeds_extension hentry horigin hfound⟩
    · cases hrun

/-! ## Delivered -/

/-- An entry is at its place, with the content that its file had in `w₀`. -/
def Delivered (r : Route) (sets : ComponentSets) (w₀ w : Workspace) (entry : String × String) :
    Prop :=
  ∃ source content executable executable',
    Source sets w entry.1 (r.relative entry) source ∧
      w₀.tree.file? (source.place w₀.start) = some (content, executable) ∧
      w.tree.stat w₀.start (r.target sets entry) =
        .ok ((r.target sets entry).place w₀.start, .file content executable')

/-- A copy to where an entry goes delivers it. -/
theorem Amid.copy (h : Amid r base sets entries w₀ w) (hlawful : r.Lawful base)
    (hentry : entry ∈ entries) {source p : Path} {u : Unit}
    (hfeeds : Feeds sets base w₀ w entry.1 (r.relative entry) source p)
    (hrun : (Task.copy p (r.target sets entry)).run w = (.ok u, w')) :
    Amid r base sets entries w₀ w' ∧ Delivered r sets w₀ w' entry := by
  have hbelow : base.place w₀.start <+: (r.target sets entry).place w₀.start :=
    h.ready.plain.prefix_target hlawful hentry
  have hne : (r.target sets entry).place w₀.start ≠ p.place w₀.start := by
    intro heq
    rw [heq] at hbelow
    exact hfeeds.apart hbelow
  have hamid : Amid r base sets entries w₀ ((Task.copy p (r.target sets entry)).run w).2 := by
    refine h.work (E := Upkeep.AnyFault) ?_ (Task.leads_copy p _) fun u hmakes hcopies => ?_
    · refine (Task.writesOnly_copy p _).mono fun q hq => ?_
      rw [hq.1]
      exact hbelow
    · have hlodges : u.Lodges (Resources.site w).start (r.target sets entry) := by
        refine ⟨fun _ _ _ _ => hmakes _, ?_⟩
        change u.Copies ((r.target sets entry).place w.start)
        rw [h.start]
        exact hcopies _ hbelow
      exact Upkeep.safe_copy hlodges p
  have hsame := Task.leads_copy p (r.target sets entry) w
  have hsink : w.tree.at? ((r.target sets entry).place w.start) ≠ some .sink := by
    rw [h.start]
    exact fun hat => h.sinks _ ⟨entry, hentry, rfl⟩ _ hat rfl
  rw [hrun] at hamid hsame
  rw [← h.start] at hne
  obtain ⟨t, content, executable, rfl, hfile, hstat⟩ := Task.copied_of_run hrun hsink hne
  rw [h.start] at hfile hstat
  obtain ⟨executable', hsource⟩ := hfeeds.same _ _ hfile
  refine ⟨hamid, source, content, executable', executable, ?_, hsource, hstat⟩
  exact hfeeds.known.lasts hsame.remembers rfl

/-- What is at its place stays, since what goes to the same place later is the same file. -/
theorem Delivered.lasts (h : Amid r base sets entries w₀ w) (h' : Amid r base sets entries w₀ w')
    (hlawful : r.Lawful base) (hentry : entry ∈ entries) (hother : other ∈ entries)
    (hremembers : Remembers w w')
    (hframe : FileTree.Writes (fun q => Below (w₀.resources.scratch.place w₀.start) q ∨
      q = (r.target sets entry).place w₀.start) w.tree w'.tree)
    (hnew : Delivered r sets w₀ w' entry) (hold : Delivered r sets w₀ w other) :
    Delivered r sets w₀ w' other := by
  have hplain := h.ready.plain
  obtain ⟨source, content, x, y, hsource, hfile, hstat⟩ := hold
  have hsource' := hsource.lasts hremembers (h'.root.trans h.root.symm)
  by_cases hplace : (r.target sets other).place w₀.start = (r.target sets entry).place w₀.start
  · obtain ⟨source', content', x', y', hknown, hfile', hstat'⟩ := hnew
    have hone := Source.eq_of_target hplain hlawful hother hentry hplace hsource' hknown
    subst hone
    have hat := (FileTree.place_of_stat hstat').2
    rw [← hplace] at hat
    rw [hfile] at hfile'
    cases hfile'
    exact ⟨source, content, x, y', hsource', hfile, FileTree.stat_of_dirs hframe.dirs hstat hat⟩
  · refine ⟨source, content, x, y, hsource', hfile, hframe.stat_file hstat ?_⟩
    rintro (hbelow | hin)
    · exact h.ready.not_below (hplain.prefix_target hlawful hother) hbelow
    · exact hplace hin

/-- An entry is copied to where it goes, and to the cache. -/
theorem writesOnly_deliver (r : Route) (sets : ComponentSets) (entry : String × String)
    {scratch : Path} :
    Task.WritesOnly start scratch (fun q => Below (scratch.place start) q ∨
      q = (r.target sets entry).place start) (r.deliver sets entry) := by
  have hplace : Task.WritesOnly start scratch _ (r.deliver sets entry) :=
    writesOnly_place sets entry.1 (r.relative entry) fun origin =>
      (nested (r.dir entry) entry.1 origin).join (r.name entry)
  exact hplace.mono fun q hq => hq.imp_right fun htarget => htarget.1

theorem remembers_deliver (r : Route) (sets : ComponentSets) (entry : String × String) :
    Leads Remembers (r.deliver sets entry) := by
  unfold Route.deliver
  refine (Components.settles_resolve sets entry.1 (r.relative entry)).keeps.bind fun found => ?_
  exact ((Task.leads_copy _ _).mono fun _ _ => SameMemory.remembers).explain _

/-- One entry more. -/
theorem Amid.deliver (h : Amid r base sets entries w₀ w) (hlawful : r.Lawful base)
    (hentry : entry ∈ entries) {u : Unit} (hrun : (r.deliver sets entry).run w = (.ok u, w')) :
    Amid r base sets entries w₀ w' ∧ Delivered r sets w₀ w' entry ∧
      ∀ other ∈ entries, Delivered r sets w₀ w other → Delivered r sets w₀ w' other := by
  have hremembers := remembers_deliver r sets entry w
  have hframe := (writesOnly_deliver r sets entry w h.start h.scratch).2.2
  rw [hrun] at hremembers hframe
  unfold Route.deliver at hrun
  rcases run_bind_cases hrun with ⟨e, -, he⟩ | ⟨⟨p, kind⟩, w₁, hresolve, hcopy⟩
  · cases he
  obtain ⟨hamid₁, rfl, source, hfeeds⟩ := h.resolve hentry hresolve
  obtain ⟨hamid, hdelivered⟩ := hamid₁.copy hlawful hentry hfeeds (Task.run_of_explain hcopy)
  exact ⟨hamid, hdelivered, fun other hother hold =>
    Delivered.lasts h hamid hlawful hentry hother hremembers hframe hdelivered hold⟩

/-- All entries of a list. -/
theorem Amid.deliverAll (h : Amid r base sets entries w₀ w) (hlawful : r.Lawful base)
    {rest : List (String × String)} (hrest : ∀ entry ∈ rest, entry ∈ entries) {u : Unit}
    (hrun : (rest.forM (r.deliver sets)).run w = (.ok u, w')) :
    Amid r base sets entries w₀ w' ∧ (∀ entry ∈ rest, Delivered r sets w₀ w' entry) ∧
      ∀ other ∈ entries, Delivered r sets w₀ w other → Delivered r sets w₀ w' other := by
  induction rest generalizing w with
  | nil =>
    cases hrun
    exact ⟨h, by simp, fun _ _ hold => hold⟩
  | cons first rest ih =>
    rcases run_bind_cases hrun with ⟨e, -, he⟩ | ⟨_, w₁, hfirst, hlater⟩
    · cases he
    have hentry := hrest first List.mem_cons_self
    obtain ⟨hamid₁, hdelivered₁, hkept₁⟩ := h.deliver hlawful hentry hfirst
    obtain ⟨hamid, hdelivered, hkept⟩ :=
      ih hamid₁ (fun entry hin => hrest entry (List.mem_cons_of_mem _ hin)) hlater
    refine ⟨hamid, fun entry hin => ?_, fun other hother hold =>
      hkept other hother (hkept₁ other hother hold)⟩
    rcases List.mem_cons.1 hin with rfl | hin
    · exact hkept entry hentry hdelivered₁
    · exact hdelivered entry hin

/-! ## All entries -/

/-- Entries that are where they go: each with the content that its file had before, and where two
go to one place they have one file. -/
structure Arrived (r : Route) (sets : ComponentSets) (entries : List (String × String))
    (w w' : Workspace) : Prop where
  whole : ∀ entry ∈ entries, ∃ source content executable,
    Source sets w' entry.1 (r.relative entry) source ∧
      w.tree.file? (source.place w.start) = some (content, executable) ∧
      w'.tree.read w.start (r.target sets entry) = .ok content
  apart : ∀ entry ∈ entries, ∀ other ∈ entries,
    (r.target sets entry).place w.start = (r.target sets other).place w.start → ∀ p q,
      Source sets w' entry.1 (r.relative entry) p → Source sets w' other.1 (r.relative other) q →
        p = q

/-- Making directories is work like that. -/
theorem Amid.makeDirs (h : Amid r base sets entries w₀ w) (dir : Path) :
    Amid r base sets entries w₀ ((Task.makeDirs dir).run w).2 :=
  h.work (Task.writesOnly_makeDirs dir) (Task.leads_makeDirs dir) fun _ hmakes _ =>
    Upkeep.safe_makeDirs fun _ _ => hmakes _

theorem Amid.makeAll {β : Type} (h : Amid r base sets entries w₀ w) (f : β → Path)
    (names : List β) :
    Amid r base sets entries w₀ ((names.forM fun name => Task.makeDirs (f name)).run w).2 := by
  refine h.work (E := Upkeep.AnyFault) ?_ ?_ fun u hmakes _ => ?_
  · exact Task.writesOnly_forM fun name _ => Task.writesOnly_makeDirs (f name)
  · exact leads_forM (fun name => Task.leads_makeDirs (f name)) _
  · exact safe_forM fun name _ => Upkeep.safe_makeDirs fun _ _ => hmakes _

/-- Once the directories are made, all entries that are copied without a fault arrive. -/
theorem Amid.arrived (h : Amid r base sets entries w₀ w) (hlawful : r.Lawful base) {u : Unit}
    (hrun : (entries.forM (r.deliver sets)).run w = (.ok u, w')) :
    Arrived r sets entries w₀ w' := by
  obtain ⟨-, hdelivered, -⟩ := h.deliverAll hlawful (fun _ hentry => hentry) hrun
  constructor
  case whole =>
    intro entry hentry
    obtain ⟨source, content, x, x', hsource, hfile, hstat⟩ := hdelivered entry hentry
    exact ⟨source, content, x, hsource, hfile, FileTree.read_of_stat hstat⟩
  case apart =>
    intro entry hentry other hother heq p q hp hq
    exact Source.eq_of_target h.ready.plain hlawful hentry hother heq hp hq

/-- No native library and no asset of a component is lost or overwritten: when all were copied,
every one is where it goes, with the content of its own file. -/
theorem component_files_arrive_whole (needs : RequirementMap) (sets : ComponentSets) (dir : Path)
    (w w' : Workspace) :
    (Deliverable (libraryRoute dir) dir sets (Attachments.entries needs) w →
      (nativeLibraries needs sets dir).run w = (.ok (), w') →
        Arrived (libraryRoute dir) sets (Attachments.entries needs) w w') ∧
    (Deliverable (assetRoute (dir.join "component")) (dir.join "component") sets
        (Attachments.entries needs) w →
      (assets needs sets dir).run w = (.ok (), w') →
        Arrived (assetRoute (dir.join "component")) sets (Attachments.entries needs) w w') ∧
    Function.Injective abiTarget := by
  refine ⟨fun h hrun => ?_, fun h hrun => ?_, abiTarget_injective⟩
  · unfold nativeLibraries at hrun
    rcases run_bind_cases (Task.run_of_explain hrun) with ⟨e, -, he⟩ | ⟨_, w₁, hmade, hcopied⟩
    · cases he
    have hamid := h.amid.makeAll dir.join abiDirs
    rw [Task.run_of_explain hmade] at hamid
    rw [Route.copyLibrary_eq] at hcopied
    exact hamid.arrived (Route.lawful_library dir) hcopied
  · unfold assets at hrun
    rcases run_bind_cases (Task.run_of_explain hrun) with ⟨e, -, he⟩ | ⟨_, w₁, hmade, hcopied⟩
    · cases he
    have hamid := h.amid.makeDirs (dir.join "component")
    rw [Task.run_of_explain hmade] at hamid
    rw [Route.copyAsset_eq] at hcopied
    exact hamid.arrived (Route.lawful_asset _) hcopied

/-- A built-in type and an extension, each with a file of one name. -/
def sharedNeeds (extension : String) : RequirementMap :=
  (NameMap.empty.insert extension (NameSet.ofList ["x"])).insert "a.B" (NameSet.ofList ["x"])

def sharedSets (extension : String) : ComponentSets :=
  ⟨NameSet.ofList ["a.B"], NameSet.ofList [extension]⟩

/-- A host with the runtime files of that name, those of the extension "c.D", and one in the
directory above all extensions. -/
def sharedHost : Workspace :=
  { Workspace.opened [] ⟨[(["rt"], .dir), (["rt", "files"], .dir), (["p"], .dir),
      (["rt", "files", "armeabi"], .dir), (["rt", "files", "armeabi", "x"], .file [1] false),
      (["rt", "files", "x"], .file [2] false), (["p", "external_comps"], .dir),
      (["p", "external_comps", "c.D"], .dir),
      (["p", "external_comps", "c.D", "files"], .dir),
      (["p", "external_comps", "c.D", "files", "armeabi"], .dir),
      (["p", "external_comps", "c.D", "files", "armeabi", "x"], .file [3] false),
      (["p", "external_comps", "c.D", "files", "x"], .file [4] false),
      (["p", "files"], .dir), (["p", "files", "armeabi"], .dir),
      (["p", "files", "armeabi", "x"], .file [5] false)]⟩ ⟨"/rt"⟩ ⟨"/tmp/r"⟩ with
    locator := Locator.ofAssets ⟨"/p"⟩ }

/-- The extension is looked for under its own name alone, since it has files there. -/
theorem mayBe_shared {typeName relative : String} {p : Path}
    (htype : typeName = "a.B" ∨ typeName = "c.D")
    (h : MayBe (sharedSets "c.D") sharedHost typeName relative p) :
    p ∈ [sharedHost.resources.source ("files/" ++ relative),
      ((sharedHost.locator.root.join "c.D").join Locator.filesDirName).join relative] := by
  rcases htype with rfl | rfl
  · have hbuiltin : (sharedSets "c.D").origin "a.B" = .builtin := by decide +kernel
    unfold MayBe at h
    rw [hbuiltin] at h
    simp only at h
    simp [h]
  · have hextension : (sharedSets "c.D").origin "c.D" = .extension := by decide +kernel
    have haccepts : Locator.accepts sharedHost (sharedHost.locator.root.join "c.D") = true := by
      decide +kernel
    unfold MayBe at h
    rw [hextension] at h
    obtain ⟨dir, hknown | ⟨-, rfl | ⟨hpassed, -⟩⟩, rfl⟩ := h
    · cases hknown
    · simp
    · rw [haccepts] at hpassed
      cases hpassed

/-- The two can be delivered below a base apart from their files and from the cache. -/
theorem deliverable_shared {r : Route} {base : Path}
    (hplain : r.Plain (sharedSets "c.D") (Attachments.entries (sharedNeeds "c.D")))
    (hapart : ∀ entry ∈ Attachments.entries (sharedNeeds "c.D"), ∀ p ∈
      [sharedHost.resources.source ("files/" ++ r.relative entry),
        ((sharedHost.locator.root.join "c.D").join Locator.filesDirName).join (r.relative entry)],
      ¬ base.place [] <+: p.place [] ∧ ¬ Below (sharedHost.resources.scratch.place []) (p.place []))
    (habove : ¬ sharedHost.resources.scratch.place [] <+: base.place [])
    (hbelow : ¬ base.place [] <+: sharedHost.resources.scratch.place [])
    (hsinks : ∀ entry ∈ Attachments.entries (sharedNeeds "c.D"),
      sharedHost.tree.at? ((r.target (sharedSets "c.D") entry).place []) ≠ some .sink) :
    Deliverable r base (sharedSets "c.D") (Attachments.entries (sharedNeeds "c.D")) sharedHost := by
  have htypes : ∀ entry ∈ Attachments.entries (sharedNeeds "c.D"),
      entry.1 = "a.B" ∨ entry.1 = "c.D" := by decide +kernel
  constructor
  case plain => exact hplain
  case vacant => exact Resources.vacant_of_entries (by decide +kernel)
  case faithful =>
    intro entry _ _ copy hcopy
    cases hcopy
  case sources =>
    exact fun entry hentry p hp => hapart entry hentry p (mayBe_shared (htypes entry hentry) hp)
  case above => exact habove
  case below => exact hbelow
  case sinks => exact hsinks

/-- Both files go where they belong, as libraries and as assets. -/
theorem shared_names_are_kept_apart :
    (∃ w', (nativeLibraries (sharedNeeds "c.D") (sharedSets "c.D") ⟨"/build/libs"⟩).run sharedHost =
        (.ok (), w') ∧
      Arrived (libraryRoute ⟨"/build/libs"⟩) (sharedSets "c.D")
        (Attachments.entries (sharedNeeds "c.D")) sharedHost w') ∧
    ∃ w', (assets (sharedNeeds "c.D") (sharedSets "c.D") ⟨"/p"⟩).run sharedHost = (.ok (), w') ∧
      Arrived (assetRoute (Path.join ⟨"/p"⟩ "component")) (sharedSets "c.D")
        (Attachments.entries (sharedNeeds "c.D")) sharedHost w' := by
  constructor
  · have hready : Deliverable (libraryRoute ⟨"/build/libs"⟩) ⟨"/build/libs"⟩ (sharedSets "c.D")
        (Attachments.entries (sharedNeeds "c.D")) sharedHost := by
      refine deliverable_shared ⟨?_, ?_⟩ ?_ ?_ ?_ ?_
      all_goals decide +kernel
    have hok : ((nativeLibraries (sharedNeeds "c.D") (sharedSets "c.D")
        ⟨"/build/libs"⟩).run sharedHost).1 = .ok () := by decide +kernel
    obtain ⟨w', hrun⟩ := Task.exists_run hok
    exact ⟨w', hrun, (component_files_arrive_whole _ _ _ _ _).1 hready hrun⟩
  · have hready : Deliverable (assetRoute (Path.join ⟨"/p"⟩ "component"))
        (Path.join ⟨"/p"⟩ "component") (sharedSets "c.D")
        (Attachments.entries (sharedNeeds "c.D")) sharedHost := by
      refine deliverable_shared ⟨?_, ?_⟩ ?_ ?_ ?_ ?_
      all_goals decide +kernel
    have hok : ((assets (sharedNeeds "c.D") (sharedSets "c.D") ⟨"/p"⟩).run sharedHost).1 =
        .ok () := by decide +kernel
    obtain ⟨w', hrun⟩ := Task.exists_run hok
    exact ⟨w', hrun, (component_files_arrive_whole _ _ _ _ _).2.1 hready hrun⟩

/-- An extension whose type steps up loses its file to a built-in type: both go to one place. -/
theorem a_component_file_can_be_overwritten :
    let sets := sharedSets ".."
    let after := (nativeLibraries (sharedNeeds "..") sets ⟨"/build/libs"⟩).run sharedHost
    let source : Path := ⟨"/p/external_comps/../files/armeabi/x"⟩
    after.1 = .ok () ∧
      ("..", "x") ∈ Attachments.entries (sharedNeeds "..") ∧ Path.IsPlain (abiTarget "x").2 ∧
      after.2.locator.found.lookup ".." = some ⟨"/p/external_comps/.."⟩ ∧
      sharedHost.tree.read [] source = .ok [5] ∧
      after.2.tree.read [] source = .ok [5] ∧
      after.2.tree.read [] (libraryTarget sets ⟨"/build/libs"⟩ ("..", "x")) = .ok [1] := by
  decide +kernel

end Attachments

end ApkForge
