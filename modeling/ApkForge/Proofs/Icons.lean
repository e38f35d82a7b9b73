-- The icon of an app over a run of builds. When one is installed, the icons of other formats are
-- gone and it is there with its bytes. An icon that cannot be used changes no file outside of the
-- cache, so the one that was installed before stays.
import ApkForge.Icon
import ApkForge.Proofs.Sweeping
import ApkForge.Proofs.Vacancies

namespace ApkForge

variable {ε δ α : Type} {w w' : Workspace}

/-! ## Removing files -/

namespace FileTree

variable {t t' t'' : FileTree} {start : Place} {p dir : Path} {name : String}

/-- `t'` has nothing that `t` has not. -/
def Within (t' t : FileTree) : Prop := ∀ q entry, t'.at? q = some entry → t.at? q = some entry

theorem Within.trans (h : t''.Within t') (h' : t'.Within t) : t''.Within t :=
  fun q entry hat => h' q entry (h q entry hat)

/-- What a path names in the smaller tree, it names in the larger. -/
theorem Within.hasEntry (h : t'.Within t) (hentry : t'.hasEntry start p = true) :
    t.hasEntry start p = true := by
  cases hstat : t'.stat start p with
  | error fault => simp [FileTree.hasEntry, hstat] at hentry
  | ok found =>
    obtain ⟨place, entry⟩ := found
    exact hasEntry_of_stat (stat_of_keeps h hstat)

theorem removeFile_eq_ok (h : t.removeFile start p = .ok t') :
    t' = t.drop (p.place start) ∧ t.at? (p.place start) ≠ some .dir := by
  unfold removeFile at h
  rw [bind_eq_ok] at h
  obtain ⟨⟨place, entry⟩, hstat, h⟩ := h
  obtain ⟨rfl, hat⟩ := place_of_stat hstat
  cases entry with
  | dir => cases h
  | file content executable =>
    cases h
    exact ⟨rfl, by simp [hat]⟩
  | sink =>
    cases h
    exact ⟨rfl, by simp [hat]⟩

theorem within_drop {place : Place} (hroot : place ≠ []) (t : FileTree) :
    (t.drop place).Within t := by
  intro q entry hat
  by_cases heq : q = place
  · subst heq
    rw [at?_drop_self t hroot] at hat
    cases hat
  · rwa [at?_drop_of_ne t heq] at hat

theorem writes_drop {place : Place} (h : t.at? place ≠ some .dir) :
    Writes (fun q => q = place) t (t.drop place) := by
  refine ⟨fun q hq => ?_, fun q hq => dirs_drop h q hq⟩
  unfold file?
  rw [at?_drop_of_ne t hq]

/-- The way to a directory is there as soon as anything stands in it. So whether a path names what
stands there, the directories and that place tell. -/
theorem hasEntry_join_congr (hname : Path.IsPlain name) (hrooted : t.Rooted)
    (hway : ∀ q, dir.Along start q → q <+: dir.place start ∨ t.at? q = some .dir)
    (hdirs : ∀ q, t.at? q = some .dir → t'.at? q = some .dir)
    (hat : t'.at? ((dir.join name).place start) = t.at? ((dir.join name).place start)) :
    t'.hasEntry start (dir.join name) = t.hasEntry start (dir.join name) := by
  cases hthere : t.at? ((dir.join name).place start) with
  | none =>
    rw [hasEntry_of_none hthere, hasEntry_of_none (hat.trans hthere)]
  | some entry =>
    have habove : ∀ q, q <+: dir.place start → t.at? q = some .dir := by
      intro q hq
      rw [Path.place_join_name hname] at hthere
      refine (hrooted.dir_of_prefix hthere (hq.trans (List.prefix_append _ _))).resolve_left ?_
      rintro rfl
      have hlong := hq.length_le
      rw [List.length_append, List.length_singleton] at hlong
      omega
    have hsame : ∀ q, t.at? q = some .dir → t'.at? q = t.at? q :=
      fun q hq => (hdirs q hq).trans hq.symm
    refine hasEntry_congr fun q hq => ?_
    rcases Path.along_join hname.staysBelow hq with hq | ⟨-, hq⟩
    · rcases hway q hq with hq | hq
      · exact hsame q (habove q hq)
      · exact hsame q hq
    · rw [Path.place_join_name hname, List.prefix_concat_iff] at hq
      rcases hq with rfl | hq
      · rwa [Path.place_join_name hname] at hat
      · exact hsame q (habove q hq)

end FileTree

namespace Task

variable {start : Place} {scratch p : Path}

theorem run_removeFile (p : Path) (w : Workspace) : (removeFile p).run w =
    if w.tree.hasEntry w.start p = true then
      (change fun start tree => (tree.removeFile start p).mapError (.notRemoved p)).run w
    else (.ok (), w) := by
  unfold removeFile ask
  rw [run_bind, run_bind, run_get]
  simp only [run_pure]
  split
  · rfl
  · rfl

theorem writesOnly_removeFile (p : Path) :
    WritesOnly start scratch (fun q => q = p.place start) (removeFile p) := by
  intro w hstart hscratch
  rw [run_removeFile]
  split
  · refine writesOnly_change (fun t t' h => ?_) w hstart hscratch
    obtain ⟨rfl, hnodir⟩ := FileTree.removeFile_eq_ok (mapError_eq_ok.1 h)
    exact FileTree.writes_drop hnodir
  · exact ⟨hstart, hscratch, FileTree.writes_refl _ _⟩

/-- After a removal that did not fail the path names nothing. -/
theorem removed_of_run {u : Unit} (h : (removeFile p).run w = (.ok u, w')) :
    ∃ t, w' = { w with tree := t } ∧ t.Within w.tree ∧ t.hasEntry w.start p = false := by
  rw [run_removeFile] at h
  split at h
  · rw [run_change] at h
    cases hremove : w.tree.removeFile w.start p with
    | error fault =>
      simp only [hremove, Except.mapError] at h
      cases h
    | ok t =>
      simp only [hremove, Except.mapError] at h
      cases h
      obtain ⟨rfl, hnodir⟩ := FileTree.removeFile_eq_ok hremove
      have hroot := FileTree.ne_nil_of_not_dir hnodir
      exact ⟨_, rfl, FileTree.within_drop hroot _,
        FileTree.hasEntry_of_none (FileTree.at?_drop_self _ hroot)⟩
  · rename_i hnone
    cases h
    exact ⟨w.tree, rfl, fun _ _ hat => hat, by simpa using hnone⟩

theorem writesOnly_writeBytes (p : Path) (content : Bytes) :
    WritesOnly start scratch (fun q => q = p.place start) (writeBytes p content) := by
  unfold writeBytes
  refine (writesOnly_makeParent p).bind fun _ => writesOnly_change fun t t' h => ?_
  exact (FileTree.writes_write (mapError_eq_ok.1 h)).mono fun q hq => hq.1

end Task

/-! ## Formats -/

namespace Icon

variable {start : Place} {scratch drawable path : Path} {bytes : Bytes} {format other : ImageFormat}

theorem isPlain_file (format : ImageFormat) : Path.IsPlain ("ya." ++ format.extension) := by
  cases format <;> decide

theorem place_file (drawable : Path) (format : ImageFormat) (start : Place) :
    (file drawable format).place start = drawable.place start ++ ["ya." ++ format.extension] :=
  Path.place_join_name (isPlain_file format) drawable start

theorem extension?_file (drawable : Path) (format : ImageFormat) :
    (file drawable format).extension? = some format.extension := by
  have hcut : (Path.cutExtension ("ya." ++ format.extension)).2 = some format.extension := by
    cases format <;> decide
  unfold Path.extension? Path.name? file
  rw [Path.parts_join (isPlain_file format), List.getLast?_concat]
  exact hcut

/-- Icons of different formats are at different places. -/
theorem eq_of_place_file
    (h : (file drawable other).place start = (file drawable format).place start) :
    other = format := by
  rw [place_file, place_file] at h
  have hname : "ya." ++ other.extension = "ya." ++ format.extension := by simpa using h
  revert hname
  cases other <;> cases format <;> decide

/-- The place of an icon of some format. -/
def Slot (drawable : Path) (start place : Place) : Prop :=
  ∃ format, place = (file drawable format).place start

/-! ## Installing -/

theorem writesOnly_install (bytes : Bytes) (drawable : Path) :
    Task.WritesOnly start scratch (Slot drawable start) (install bytes drawable) := by
  unfold install
  split
  · exact Task.writesOnly_throw _
  · rename_i format _
    refine Task.WritesOnly.bind (Task.WritesOnly.explain ?_ _) fun _ => Task.writesOnly_pure _
    refine (Task.writesOnly_forM fun other _ => ?_).bind fun _ => ?_
    · exact (Task.writesOnly_removeFile _).mono fun q hq => ⟨other, hq⟩
    · exact (Task.writesOnly_writeBytes _ _).mono fun q hq => ⟨format, hq⟩

/-- After removals that did not fail none of the paths names anything. -/
theorem removed_all {formats : List ImageFormat} {u : Unit}
    (h : (formats.forM fun other => Task.removeFile (file drawable other)).run w = (.ok u, w')) :
    ∃ t, w' = { w with tree := t } ∧ t.Within w.tree ∧
      ∀ other ∈ formats, t.hasEntry w.start (file drawable other) = false := by
  induction formats generalizing w with
  | nil =>
    cases h
    exact ⟨_, rfl, fun _ _ hat => hat, by simp⟩
  | cons first rest ih =>
    rcases run_bind_cases h with ⟨e, -, he⟩ | ⟨_, w₁, hfirst, hrest⟩
    · cases he
    obtain ⟨t₁, rfl, hwithin₁, hnone₁⟩ := Task.removed_of_run hfirst
    obtain ⟨t₂, rfl, hwithin₂, hnone₂⟩ := ih hrest
    refine ⟨t₂, rfl, hwithin₂.trans hwithin₁, fun other hother => ?_⟩
    rcases List.mem_cons.1 hother with rfl | hother
    · rw [Bool.eq_false_iff]
      intro hthere
      rw [hwithin₂.hasEntry hthere] at hnone₁
      cases hnone₁
    · exact hnone₂ other hother

/-- Directories go all the way, and no device stands where icons go. -/
def upkeep (drawable : Path) (start : Place) : Upkeep where
  Holds t := t.Rooted ∧ t.Admits (Slot drawable start) (· ≠ .sink)
  Makes _ := True
  Writes _ := True
  Copies _ := True
  Removes _ := True
  same := by
    rintro t t' ⟨hrooted, hslots⟩ hsame
    refine ⟨fun place entry hat => ?_, fun q hq entry hat => hslots q hq entry ?_⟩
    · rw [hsame] at hat ⊢
      exact hrooted place entry hat
    · rwa [← hsame]
  make := by
    rintro t place ⟨hrooted, hslots⟩ - hnone habove
    have hnodir : t.at? place ≠ some .dir := by simp [hnone]
    exact ⟨hrooted.put habove hnodir,
      hslots.put (FileTree.ne_nil_of_not_dir hnodir) fun _ => by simp⟩
  write := by
    rintro t place content executable ⟨hrooted, hslots⟩ - htakes -
    exact ⟨hrooted.put (htakes.above hrooted) htakes.not_dir,
      hslots.put (FileTree.ne_nil_of_not_dir htakes.not_dir) fun _ => by simp⟩
  copy := by
    rintro t place content executable ⟨hrooted, hslots⟩ - htakes
    exact ⟨hrooted.put (htakes.above hrooted) htakes.not_dir,
      hslots.put (FileTree.ne_nil_of_not_dir htakes.not_dir) fun _ => by simp⟩
  remove := by
    rintro t place ⟨hrooted, hslots⟩ - hnodir
    refine ⟨hrooted.drop hnodir, fun q hq entry hat => hslots q hq entry ?_⟩
    exact FileTree.within_drop (FileTree.ne_nil_of_not_dir hnodir) t q entry hat

/-- A drawable directory that icons can be told about: directories go all the way in the tree, the
path runs through none that is still to be made but those above it, no device stands where icons
go, and the directory is not part of the cache, whose numbers are free. -/
structure Ready (w : Workspace) (drawable : Path) : Prop where
  rooted : w.tree.Rooted
  way : ∀ q, drawable.Along w.start q → q <+: drawable.place w.start ∨ w.tree.at? q = some .dir
  sinks : ∀ format, w.tree.at? ((file drawable format).place w.start) ≠ some .sink
  vacant : Resources.Vacant w
  apart : ¬ w.resources.scratch.place w.start <+: drawable.place w.start

theorem Ready.upkeep (h : Ready w drawable) : (upkeep drawable w.start).Holds w.tree := by
  refine ⟨h.rooted, ?_⟩
  rintro _ ⟨format, rfl⟩ entry hat rfl
  exact h.sinks format hat

/-- A place of an icon is no part of the cache. -/
theorem Ready.not_below (h : Ready w drawable) (format : ImageFormat) :
    ¬ Below (w.resources.scratch.place w.start) ((file drawable format).place w.start) := by
  rintro ⟨hin, hne⟩
  rw [place_file] at hin hne
  rw [List.prefix_concat_iff] at hin
  rcases hin with heq | hin
  · exact hne heq.symm
  · exact h.apart hin

/-- What was written leaves the directory ready, if it keeps it so. -/
theorem Ready.after {S : Place → Prop} (h : Ready w drawable) (hstart : w'.start = w.start)
    (hscratch : w'.resources.scratch = w.resources.scratch)
    (hwrites : FileTree.Writes S w.tree w'.tree)
    (hupkeep : (Icon.upkeep drawable w.start).Holds w'.tree) (hvacant : Resources.Vacant w') :
    Ready w' drawable := by
  obtain ⟨hrooted, hslots⟩ := hupkeep
  rw [← hstart] at hslots
  constructor
  case rooted => exact hrooted
  case way =>
    intro q hq
    rw [hstart] at hq ⊢
    exact (h.way q hq).imp_right (hwrites.dirs q)
  case sinks => exact fun format hat => hslots _ ⟨format, rfl⟩ _ hat rfl
  case vacant => exact hvacant
  case apart =>
    rw [hstart, hscratch]
    exact h.apart

theorem Ready.get (h : Ready w drawable) (logical : String) :
    Ready ((Resources.get logical).run w).2 drawable := by
  obtain ⟨hstart, hscratch, hwrites⟩ := Resources.writesOnly_get logical w rfl rfl
  have hat : (Icon.upkeep drawable w.start).At (Resources.site w) w := ⟨rfl, rfl, rfl, h.upkeep⟩
  have hupkeep := (Upkeep.safe_get_resource (fun _ _ _ => ⟨fun _ _ _ _ => trivial, trivial⟩)
    logical w hat).1.tree
  exact h.after hstart hscratch hwrites hupkeep (h.vacant.get logical)

/-- Work that may go on in a ready directory: it makes what directories it needs, and writes and
removes icons. -/
def Keeps (u : Upkeep) (start : Place) (drawable : Path) : Prop :=
  (∀ q, u.Makes q) ∧ (∀ q, u.Removes q) ∧ ∀ format, u.Writes ((file drawable format).place start)

/-- Such work leaves it ready. -/
theorem Ready.work {S : Place → Prop} {E : ε → Prop} (h : Ready w drawable) {task : Task ε α}
    (hwrites : Task.WritesOnly w.start w.resources.scratch S task)
    (hsame : Leads SameMemory task)
    (hsafe : ∀ u : Upkeep, Keeps u w.start drawable → Safe (u.At (Resources.site w)) E task) :
    Ready (task.run w).2 drawable := by
  obtain ⟨hstart, hscratch, hwrites⟩ := hwrites w rfl rfl
  have hupkeep := (hsafe (Icon.upkeep drawable w.start)
    ⟨fun _ => trivial, fun _ => trivial, fun _ => trivial⟩ w ⟨rfl, rfl, rfl, h.upkeep⟩).1.tree
  have hroom : Keeps (Resources.room w w.resources.copies) w.start drawable := by
    refine ⟨fun _ => trivial, fun _ => trivial, fun format => ?_⟩
    rintro ⟨i, -, hin⟩
    exact absurd (Resources.below_of_numbered hin) (h.not_below format)
  exact h.after hstart hscratch hwrites hupkeep
    (h.vacant.safe (hsafe _ hroom) (hsame w).resources)

theorem Ready.install (h : Ready w drawable) (bytes : Bytes) :
    Ready ((install bytes drawable).run w).2 drawable := by
  have hexcuses : Excuses (fun _ => True) := fun _ _ => trivial
  refine h.work (S := Slot drawable w.start) (E := fun _ => True) ?_ ?_ fun u hu => ?_
  · exact writesOnly_install bytes drawable
  · exact sameMemory_install bytes drawable
  · have hfiles : ∀ format, u.Hosts (Resources.site w).start (file drawable format) :=
      fun format => ⟨fun _ _ _ _ => hu.1 _, hu.2.2 format⟩
    exact safe_install hexcuses hfiles (fun _ => hu.2.1 _) bytes

theorem Ready.removeOthers (h : Ready w drawable) (format : ImageFormat) :
    Ready ((removeOthers drawable format).run w).2 drawable := by
  unfold Icon.removeOthers
  refine h.work (S := Slot drawable w.start) (E := fun _ => True) ?_ ?_ fun u hu => ?_
  · refine Task.writesOnly_forM fun other _ => ?_
    exact (Task.writesOnly_removeFile _).mono fun q hq => ⟨other, hq⟩
  · exact leads_forM (fun other => Task.leads_removeFile _) _
  · exact safe_forM fun other _ => Upkeep.safe_removeFile (hu.2.1 _)

/-- What an icon is written with changes nothing where another goes. -/
theorem Ready.at_other (h : Ready w drawable) {t : FileTree} (hne : other ≠ format)
    (hdirs : ∀ q, w.tree.at? q = some .dir → t.at? q = some .dir)
    (hway : ∀ q, ¬ (file drawable format).Along w.start q → t.at? q = w.tree.at? q) :
    t.at? ((file drawable other).place w.start) =
      w.tree.at? ((file drawable other).place w.start) := by
  have hlong : ¬ (file drawable other).place w.start <+: drawable.place w.start := by
    rw [place_file]
    intro hin
    have hlength := hin.length_le
    rw [List.length_append, List.length_singleton] at hlength
    omega
  by_cases halong : (file drawable format).Along w.start ((file drawable other).place w.start)
  · rcases Path.along_join (isPlain_file format).staysBelow halong with hin | ⟨-, hin⟩
    · rcases h.way _ hin with habove | hdir
      · exact absurd habove hlong
      · exact (hdirs _ hdir).trans hdir.symm
    · change _ <+: (file drawable format).place w.start at hin
      rw [place_file drawable format, List.prefix_concat_iff, ← place_file] at hin
      rcases hin with heq | hin
      · exact absurd (eq_of_place_file heq) hne
      · exact absurd hin hlong
  · exact hway _ halong

/-- An icon that was installed is there with its bytes, and the others are not. -/
theorem Ready.installed (h : Ready w drawable)
    (hrun : (Icon.install bytes drawable).run w = (.ok path, w')) :
    ∃ format executable, ImageFormat.sniff bytes = some format ∧ path = file drawable format ∧
      w'.tree.stat w.start path = .ok (path.place w.start, .file bytes executable) ∧
      ∀ other, w'.tree.hasEntry w.start (file drawable other) = true ↔ other = format := by
  unfold Icon.install at hrun
  cases hformat : ImageFormat.sniff bytes with
  | none =>
    rw [hformat] at hrun
    cases hrun
  | some format =>
    rw [hformat] at hrun
    rcases run_bind_cases hrun with ⟨e, -, he⟩ | ⟨_, w₂, hwork, hpath⟩
    · cases he
    cases hpath
    rcases run_bind_cases (Task.run_of_explain hwork) with ⟨e, -, he⟩ | ⟨_, w₁, hremoved, hwrite⟩
    · cases he
    have hready := h.removeOthers format
    rw [hremoved] at hready
    obtain ⟨t₁, rfl, -, hnone⟩ := removed_all hremoved
    obtain ⟨t₂, executable, rfl, hstat, hdirs, hway⟩ :=
      Task.written_of_run hwrite (hready.sinks format)
    refine ⟨format, executable, rfl, rfl, hstat, fun other => ?_⟩
    by_cases hother : other = format
    · subst hother
      exact iff_of_true (FileTree.hasEntry_of_stat hstat) rfl
    · refine iff_of_false ?_ hother
      have hsame := FileTree.hasEntry_join_congr (isPlain_file other) hready.rooted hready.way hdirs
        (hready.at_other hother hdirs hway)
      have hgone := hnone other
        (List.mem_filter.2 ⟨ImageFormat.mem_all other, by simpa using hother⟩)
      rw [Bool.not_eq_true]
      exact hsame.trans hgone

/-! ## Preparing -/

variable {project : Project}

/-- The bytes of the icon of an app, its own or the default one. -/
def fetch (project : Project) : Task Cause Bytes :=
  match project.icon with
  | some icon => Task.explain .files (Task.readBytes (project.assetsDir.join icon))
  | none => do
    let source ← Task.explain .resource (Resources.get defaultIcon)
    Task.explain .files (Task.readBytes source)

/-- What becomes of the end of an installation: a failure is one of the build for an icon of the
app's own, and otherwise there is no icon. -/
def verdict (project : Project) (r : Except Cause Path) : Except BuildError (Option Path) :=
  match project.icon with
  | some icon => (r.map some).mapError (.icon icon)
  | none => .ok r.toOption

/-- The bytes are fetched and then installed. -/
theorem run_prepare (project : Project) (drawable : Path) (w : Workspace) :
    (prepare project drawable).run w =
      (verdict project ((fetch project >>= fun bytes => install bytes drawable).run w).1,
        ((fetch project >>= fun bytes => install bytes drawable).run w).2) := by
  unfold prepare fetch verdict
  cases project.icon with
  | some icon =>
    simp only
    rw [map_eq_pure_bind, run_bind, Task.run_explain]
    unfold installOwn
    rcases (Task.explain Cause.files (Task.readBytes (project.assetsDir.join icon)) >>= fun bytes =>
      install bytes drawable).run w with ⟨e | path, w'⟩
    · rfl
    · rfl
  | none =>
    have hlift : (liftM ((installDefault drawable).run : StateM Workspace (Except Cause Path)) :
        Task BuildError (Except Cause Path)).run w =
          (.ok ((installDefault drawable).run w).1, ((installDefault drawable).run w).2) := rfl
    simp only [bind_assoc]
    rw [run_bind, hlift]
    unfold installDefault
    rcases (Task.explain Cause.resource (Resources.get defaultIcon) >>= fun source =>
      Task.explain Cause.files (Task.readBytes source) >>= fun bytes =>
        install bytes drawable).run w with ⟨e | path, w'⟩
    · rfl
    · rfl

theorem writesOnly_fetch (project : Project) :
    Task.WritesOnly start scratch (Below (scratch.place start)) (fetch project) := by
  have hread : ∀ p, Task.WritesOnly start scratch (Below (scratch.place start))
      (Task.explain Cause.files (Task.readBytes p)) := by
    refine fun p => Task.WritesOnly.explain (Task.writesOnly_of_same fun w => ?_) _
    rw [Task.run_readBytes]
    exact ⟨rfl, rfl, rfl⟩
  unfold fetch
  split
  · exact hread _
  · exact ((Resources.writesOnly_get _).explain _).bind hread

theorem writesOnly_prepare (project : Project) (drawable : Path) :
    Task.WritesOnly start scratch
      (fun q => Below (scratch.place start) q ∨ Slot drawable start q)
      (prepare project drawable) := by
  intro w hstart hscratch
  rw [run_prepare]
  refine (((writesOnly_fetch project).mono fun _ => Or.inl).bind fun bytes => ?_) w hstart hscratch
  exact (writesOnly_install bytes drawable).mono fun _ => Or.inr

theorem Ready.fetch (h : Ready w drawable) (project : Project) :
    Ready ((fetch project).run w).2 drawable := by
  unfold Icon.fetch
  cases project.icon with
  | some icon =>
    simp only
    rw [Task.run_explain, Task.run_readBytes]
    exact h
  | none =>
    have hget := h.get defaultIcon
    simp only
    rw [run_bind, Task.run_explain]
    rcases hrun : (Resources.get defaultIcon).run w with ⟨e | p, w'⟩
    · rw [hrun] at hget
      exact hget
    · rw [hrun] at hget
      simp only [Except.mapError]
      rw [Task.run_explain, Task.run_readBytes]
      exact hget

/-- A call leaves the directory ready, however it ends. -/
theorem Ready.prepare (h : Ready w drawable) (project : Project) :
    Ready ((prepare project drawable).run w).2 drawable := by
  have hfetch := h.fetch project
  rw [run_prepare, run_bind]
  rcases hrun : (Icon.fetch project).run w with ⟨e | bytes, w'⟩
  · rw [hrun] at hfetch
    exact hfetch
  · rw [hrun] at hfetch
    exact hfetch.install bytes

/-- The path that an icon is read from: that of the app's own icon among its assets, or else that of
the default icon, which is its private copy if there is one. -/
def source (project : Project) (w : Workspace) : Path :=
  match project.icon with
  | some icon => project.assetsDir.join icon
  | none => (w.resources.held.lookup (Resources.key defaultIcon)).getD
      (w.resources.source defaultIcon)

/-- What is fetched is what the icon holds. -/
theorem read_of_fetch (hvacant : Resources.Vacant w)
    (h : (fetch project).run w = (.ok bytes, w')) :
    w.tree.read w.start (source project w) = .ok bytes := by
  unfold fetch at h
  unfold source
  cases hicon : project.icon with
  | some icon =>
    rw [hicon] at h
    simp only at h ⊢
    rw [Task.run_explain, Task.run_readBytes, Prod.mk.injEq, Task.mapError_eq_ok,
      Task.mapError_eq_ok] at h
    exact h.1
  | none =>
    rw [hicon] at h
    simp only at h ⊢
    rcases run_bind_cases h with ⟨e, -, he⟩ | ⟨p, w₁, hget, hread⟩
    · cases he
    rw [Task.run_explain, Task.run_readBytes, Prod.mk.injEq, Task.mapError_eq_ok,
      Task.mapError_eq_ok] at hread
    have hanswer := Resources.answers_of_run hvacant (Task.run_of_explain hget)
    cases hanswer with
    | held there =>
      rw [there]
      exact hread.1
    | copied path unknown there named found stored leads =>
      rw [unknown, Option.getD_none, found]
      have hcopy := FileTree.read_of_stat leads
      rw [← hread.1]
      exact hcopy.symm

/-- The icon cannot be got at, or what it holds is no image. -/
def Unusable (project : Project) (w : Workspace) : Prop :=
  (project.icon = none ∧ ∃ e, ((Resources.get defaultIcon).run w).1 = .error e) ∨
    ∀ bytes, w.tree.read w.start (source project w) = .ok bytes → ImageFormat.sniff bytes = none

/-- With an icon that is of no use, no more is done than to fetch it. -/
theorem Unusable.run (h : Unusable project w) (hvacant : Resources.Vacant w) (drawable : Path) :
    ∃ cause, (prepare project drawable).run w =
      (verdict project (.error cause), ((fetch project).run w).2) := by
  rw [run_prepare, run_bind]
  rcases hfetch : (fetch project).run w with ⟨cause | bytes, w'⟩
  · exact ⟨cause, rfl⟩
  · have hsniff : ImageFormat.sniff bytes = none := by
      rcases h with ⟨hicon, e, he⟩ | hnone
      · unfold fetch at hfetch
        rw [hicon] at hfetch
        rcases run_bind_cases hfetch with ⟨_, -, hbad⟩ | ⟨p, w₁, hget, -⟩
        · cases hbad
        · rw [Task.run_of_explain hget] at he
          cases he
      · exact hnone bytes (read_of_fetch hvacant hfetch)
    refine ⟨.notAnImage, ?_⟩
    simp only
    unfold install
    rw [hsniff]
    rfl

/-! ## A run of calls -/

/-- Icons prepared for one directory, one call after the other. -/
def calls (drawable : Path) (projects : List Project) (w : Workspace) : Workspace :=
  projects.foldl (fun w project => ((prepare project drawable).run w).2) w

/-- At each call the icon is of no use. -/
def Idle (drawable : Path) : List Project → Workspace → Prop
  | [], _ => True
  | project :: rest, w =>
    Unusable project w ∧ Idle drawable rest ((prepare project drawable).run w).2

theorem Ready.calls (h : Ready w drawable) (projects : List Project) :
    Ready (calls drawable projects w) drawable := by
  induction projects generalizing w with
  | nil => exact h
  | cons project rest ih => exact ih (h.prepare project)

/-- What an idle call writes is in the cache. -/
theorem Unusable.writes (h : Unusable project w) (hvacant : Resources.Vacant w) (drawable : Path) :
    FileTree.Writes (Below (w.resources.scratch.place w.start)) w.tree
      ((prepare project drawable).run w).2.tree := by
  obtain ⟨cause, hrun⟩ := h.run hvacant drawable
  rw [hrun]
  exact (writesOnly_fetch project w rfl rfl).2.2

/-- What idle calls write is in the cache. -/
theorem Ready.idle (h : Ready w drawable) {projects : List Project}
    (hidle : Idle drawable projects w) :
    FileTree.Writes (Below (w.resources.scratch.place w.start)) w.tree
      (Icon.calls drawable projects w).tree := by
  induction projects generalizing w with
  | nil => exact FileTree.writes_refl _ _
  | cons project rest ih =>
    obtain ⟨hfirst, hrest⟩ := hidle
    obtain ⟨hstart, hscratch, -⟩ := writesOnly_prepare project drawable w rfl rfl
    have hlater := ih (h.prepare project) hrest
    rw [hstart, hscratch] at hlater
    exact (hfirst.writes h.vacant drawable).trans hlater

/-- What a call leaves that installed an icon: of the four files that icons go to the one at `path`,
with the bytes of the icon, and all files that are neither icons nor in the cache. -/
structure Installed (project : Project) (drawable : Path) (w : Workspace) (path : Path)
    (bytes : Bytes) (format : ImageFormat) (w' : Workspace) : Prop where
  /-- These are the bytes of the icon. -/
  reads : w.tree.read w.start (source project w) = .ok bytes
  sniffed : ImageFormat.sniff bytes = some format
  named : path = file drawable format
  extension : path.extension? = some format.extension
  holds : w'.tree.read w.start path = .ok bytes
  alone : ∀ other, w'.tree.hasEntry w.start (file drawable other) = true ↔ other = format
  kept : ∀ place, ¬ Slot drawable w.start place →
    ¬ Below (w.resources.scratch.place w.start) place → w'.tree.file? place = w.tree.file? place
  /-- The icon stays as long as later ones are of no use. -/
  stays : ∀ later, Idle drawable later w' →
    (calls drawable later w').tree.read w.start path = .ok bytes ∧
      ∀ place, ¬ Below (w.resources.scratch.place w.start) place →
        (calls drawable later w').tree.file? place = w'.tree.file? place

theorem verdict_eq_some {r : Except Cause Path} (h : verdict project r = .ok (some path)) :
    r = .ok path := by
  unfold verdict at h
  cases r with
  | error cause =>
    split at h
    · cases h
    · cases h
  | ok found =>
    split at h
    · cases h
      rfl
    · cases h
      rfl

theorem Ready.prepared (h : Ready w drawable)
    (hrun : (Icon.prepare project drawable).run w = (.ok (some path), w')) :
    ∃ bytes format, Installed project drawable w path bytes format w' := by
  have hready := h.prepare project
  have hframe := writesOnly_prepare project drawable w rfl rfl
  rw [hrun] at hready hframe
  obtain ⟨hstart, hscratch, hwrites⟩ := hframe
  rw [run_prepare, Prod.mk.injEq] at hrun
  have hwork : (Icon.fetch project >>= fun bytes => Icon.install bytes drawable).run w =
      (.ok path, w') := Prod.ext (verdict_eq_some hrun.1) hrun.2
  rcases run_bind_cases hwork with ⟨e, -, he⟩ | ⟨bytes, w₁, hfetch, hinstall⟩
  · cases he
  have hready₁ := h.fetch project
  have hstart₁ := (writesOnly_fetch project w rfl rfl).1
  rw [hfetch] at hready₁ hstart₁
  obtain ⟨format, executable, hsniff, hpath, hstat, halone⟩ := hready₁.installed hinstall
  rw [hstart₁] at hstat halone
  refine ⟨bytes, format, ?_⟩
  constructor
  case reads => exact read_of_fetch h.vacant hfetch
  case sniffed => exact hsniff
  case named => exact hpath
  case extension =>
    rw [hpath]
    exact extension?_file drawable format
  case holds => exact FileTree.read_of_stat hstat
  case alone => exact halone
  case kept =>
    intro place hslot hbelow
    exact hwrites.files place fun hin => hin.elim hbelow hslot
  case stays =>
    intro later hidle
    have hlater := hready.idle hidle
    rw [hstart, hscratch] at hlater
    refine ⟨FileTree.read_of_stat (hlater.stat_file hstat ?_), hlater.files⟩
    rw [hpath]
    exact h.not_below format

/-- Of the icons prepared for one directory, whatever was prepared before, the one that was
installed last is there, with its bytes and alone. One that is of no use is an error if it is the
app's own and nothing if it is the default, and either way no file outside of the cache changes. -/
theorem just_the_last_usable_icon_is_installed (w : Workspace) (drawable : Path)
    (h : Ready w drawable) (before : List Project) (project : Project) :
    let w₁ := calls drawable before w
    (∀ path w', (prepare project drawable).run w₁ = (.ok (some path), w') →
      ∃ bytes format, Installed project drawable w₁ path bytes format w') ∧
    (Unusable project w₁ → ∃ cause w',
      (prepare project drawable).run w₁ =
        (match project.icon with
          | some icon => .error (.icon icon cause)
          | none => .ok none, w') ∧
      ∀ place, ¬ Below (w₁.resources.scratch.place w₁.start) place →
        w'.tree.file? place = w₁.tree.file? place) := by
  intro w₁
  have hready : Ready w₁ drawable := h.calls before
  constructor
  · intro path w' hrun
    exact hready.prepared hrun
  · intro hunusable
    have hwrites := hunusable.writes hready.vacant drawable
    obtain ⟨cause, hrun⟩ := hunusable.run hready.vacant drawable
    rw [hrun] at hwrites
    refine ⟨cause, _, ?_, hwrites.files⟩
    rw [hrun]
    unfold verdict
    cases project.icon with
    | some icon => rfl
    | none => rfl

/-- A host with two icons among the assets, a file that is no icon, and no default icon. -/
def iconHost : Workspace :=
  Workspace.opened [] ⟨[(["p"], .dir), (["p", "a.gif"], .file ImageFormat.gif89Signature false),
    (["p", "b.png"], .file ImageFormat.pngSignature false), (["p", "c.txt"], .file [1] false),
    (["d"], .dir), (["d", "kept"], .file [2] false)]⟩ ⟨"/rt"⟩ ⟨"/tmp/r"⟩

/-- An app with this icon among its assets. -/
def withIcon (icon : Option String) : Project where
  name := "P"
  mainClass := "a.B"
  sources := []
  assetsDir := ⟨"/p"⟩
  buildDir := ⟨"/b"⟩
  icon := icon
  versionCode := none
  versionName := none
  appName := none
  usesLocation := false

/-- One icon takes the place of another, and stays when the next is no image and the default icon
is missing. -/
theorem the_second_of_two_icons_stays : ∃ bytes format w',
    (prepare (withIcon (some "b.png")) ⟨"/d"⟩).run
        (calls ⟨"/d"⟩ [withIcon (some "a.gif")] iconHost) = (.ok (some ⟨"/d/ya.png"⟩), w') ∧
      Installed (withIcon (some "b.png")) ⟨"/d"⟩ (calls ⟨"/d"⟩ [withIcon (some "a.gif")] iconHost)
        ⟨"/d/ya.png"⟩ bytes format w' ∧
      (calls ⟨"/d"⟩ [withIcon (some "c.txt"), withIcon none] w').tree.read [] ⟨"/d/ya.png"⟩ =
        .ok bytes := by
  have hready : Ready iconHost ⟨"/d"⟩ := by
    constructor
    case rooted => exact FileTree.rooted_of_entries (by decide +kernel)
    case way => exact fun q hq => .inl (Path.prefix_of_along (by decide) hq)
    case sinks =>
      intro format
      cases format <;> decide +kernel
    case vacant => exact Resources.vacant_of_entries (by decide +kernel)
    case apart => decide +kernel
  have hlaw := just_the_last_usable_icon_is_installed iconHost ⟨"/d"⟩ hready
    [withIcon (some "a.gif")] (withIcon (some "b.png"))
  -- from here on the workspaces count only by what is evaluated of them
  obtain ⟨w₁, hw₁⟩ : ∃ w₁, w₁ = calls ⟨"/d"⟩ [withIcon (some "a.gif")] iconHost := ⟨_, rfl⟩
  obtain ⟨w', hw'⟩ : ∃ w', w' = ((prepare (withIcon (some "b.png")) ⟨"/d"⟩).run w₁).2 := ⟨_, rfl⟩
  have hok : ((prepare (withIcon (some "b.png")) ⟨"/d"⟩).run w₁).1 =
      .ok (some ⟨"/d/ya.png"⟩) := by
    rw [hw₁]
    decide +kernel
  have hstart : w₁.start = [] := by
    rw [hw₁]
    decide +kernel
  have htext : w'.tree.read w'.start (source (withIcon (some "c.txt")) w') = .ok [1] := by
    rw [hw', hw₁]
    decide +kernel
  rw [← hw₁] at hlaw ⊢
  have hrun : (prepare (withIcon (some "b.png")) ⟨"/d"⟩).run w₁ =
      (.ok (some ⟨"/d/ya.png"⟩), w') := Prod.ext hok hw'.symm
  obtain ⟨bytes, format, hinstalled⟩ := hlaw.1 _ _ hrun
  have hfirst : Unusable (withIcon (some "c.txt")) w' := by
    refine .inr fun found hfound => ?_
    rw [htext] at hfound
    cases hfound
    decide
  have hsecond : Unusable (withIcon none)
      ((prepare (withIcon (some "c.txt")) ⟨"/d"⟩).run w').2 := by
    refine .inl ⟨rfl, .notFound "files/ya.png" ⟨"/rt/files/ya.png"⟩, ?_⟩
    rw [hw', hw₁]
    decide +kernel
  have hstays := (hinstalled.stays [withIcon (some "c.txt"), withIcon none]
    ⟨hfirst, hsecond, trivial⟩).1
  rw [hstart] at hstays
  exact ⟨bytes, format, w', hrun, hinstalled, hstays⟩

end Icon

end ApkForge
