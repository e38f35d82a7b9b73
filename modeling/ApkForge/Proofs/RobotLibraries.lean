-- Where the native libraries of a robot controller go. What is copied for an entry lies in the
-- directory of a processor, or the entry is refused; but an entry that first names such a
-- directory and then steps up out of it is not refused.
import ApkForge.RobotFiles
import ApkForge.Proofs.Servings

namespace ApkForge

/-- Only to a path that ends in a name can anything be copied. -/
theorem FileTree.endsInName_of_copy {t t' : FileTree} {start : Place} {source target : Path}
    (h : t.copy start source target = .ok t') : target.EndsInName := by
  rcases Upkeep.copy_eq_ok h with ⟨-, place, hstat⟩ | ⟨entry, content, executable, hwritable, -⟩
  · obtain ⟨a, hwalk, -, -, hwants⟩ := stat_eq_ok.1 hstat
    exact walk_endsInName hwalk (hwants.resolve_left fun hdir => nomatch hdir)
  · exact (target_of_writable hwritable).1.2

/-- A task that fails, whatever the workspace. -/
def Task.Fails {ε α : Type} (task : Task ε α) : Prop := ∀ w, ∃ e, (task.run w).1 = .error e

theorem Task.fails_copy (source : Path) {target : Path} (h : ¬ target.EndsInName) :
    Fails (copy source target) := by
  intro w
  unfold copy
  rcases hrun : (makeParent target >>= fun _ => change fun start tree =>
    (tree.copy start source target).mapError (.notCopied source target)).run w with ⟨e | u, w'⟩
  · exact ⟨e, rfl⟩
  · exfalso
    rcases run_bind_cases hrun with ⟨e, -, hfail⟩ | ⟨_, middle, -, hchange⟩
    · cases hfail
    · rw [run_change] at hchange
      cases hcopy : middle.tree.copy middle.start source target with
      | error fault =>
        rw [hcopy] at hchange
        cases hchange
      | ok tree => exact h (FileTree.endsInName_of_copy hcopy)

namespace RobotFiles

variable {start : Place} {scratch targetDir : Path} {check : String → Except Cause Unit}
  {list sourceDir entry : String} {entries : List String} {w : Workspace}

/-! ## The entries of a list -/

/-- The entries of a list as a workspace has it, none where it cannot be read. -/
def listed (list : String) (w : Workspace) : List String :=
  match w.tree.readText w.start (w.resources.source list) with
  | .ok text => parseList text
  | .error _ => []

/-- What copying a list leaves is what copying its entries leaves, and where that fails the list
fails in the stage of resources. -/
theorem run_copyListed (list sourceDir : String) (targetDir : Path)
    (check : String → Except Cause Unit) (w : Workspace) :
    ((copyListed list sourceDir targetDir check).run w).2 =
        (((listed list w).forM (copyEntry sourceDir targetDir check)).run w).2 ∧
      ∀ cause, (((listed list w).forM (copyEntry sourceDir targetDir check)).run w).1 =
          .error cause →
        ((copyListed list sourceDir targetDir check).run w).1 =
          .error (.stage .resources cause) := by
  unfold copyListed listed
  rw [Task.run_explain, run_bind, Task.run_explain, Upkeep.run_readText]
  cases w.tree.readText w.start (w.resources.source list) with
  | error fault =>
    refine ⟨rfl, fun cause hcause => ?_⟩
    cases hcause
  | ok text =>
    simp only [Except.mapError]
    rw [run_bind]
    rcases ((parseList text).forM (copyEntry sourceDir targetDir check)).run w with ⟨e | u, w'⟩
    · refine ⟨rfl, fun cause hcause => ?_⟩
      cases hcause
      rfl
    · refine ⟨rfl, fun cause hcause => ?_⟩
      cases hcause

/-! ## What is written -/

/-- For an entry that may be copied its target is written, and otherwise no more than a private
copy. -/
theorem writesOnly_copyEntry (sourceDir : String) (targetDir : Path)
    (check : String → Except Cause Unit) (entry : String) :
    Task.WritesOnly start scratch (fun place => Below (scratch.place start) place ∨
        check entry = .ok () ∧ FileTree.Target start (targetDir.join entry) place)
      (copyEntry sourceDir targetDir check entry) := by
  unfold copyEntry
  split
  · exact Task.writesOnly_throw _
  · rename_i hpasses
    refine (((Resources.writesOnly_get _).explain _).mono fun _ => Or.inl).bind fun source => ?_
    refine ((Task.writesOnly_copy source _).explain _).mono fun place htarget => ?_
    exact .inr ⟨hpasses, htarget⟩

theorem writesOnly_entries (sourceDir : String) (targetDir : Path)
    (check : String → Except Cause Unit) (entries : List String) :
    Task.WritesOnly start scratch (fun place => Below (scratch.place start) place ∨
        ∃ entry ∈ entries, check entry = .ok () ∧
          FileTree.Target start (targetDir.join entry) place)
      (entries.forM (copyEntry sourceDir targetDir check)) := by
  refine Task.writesOnly_forM fun entry hentry => ?_
  refine (writesOnly_copyEntry sourceDir targetDir check entry).mono fun place hplace => ?_
  exact hplace.imp_right fun htarget => ⟨entry, hentry, htarget⟩

/-- An entry that may not be copied, or to no path that ends in a name, is an error. -/
theorem fails_copyEntry (sourceDir : String)
    (h : ¬ (check entry = .ok () ∧ (targetDir.join entry).EndsInName)) :
    Task.Fails (copyEntry sourceDir targetDir check entry) := by
  intro w
  unfold copyEntry
  cases hcheck : check entry with
  | error cause => exact ⟨cause, rfl⟩
  | ok u =>
    have hend : ¬ (targetDir.join entry).EndsInName := fun hend => h ⟨hcheck, hend⟩
    simp only
    rw [run_bind]
    rcases (Task.explain Cause.resource (Resources.get (sourceDir ++ "/" ++ entry))).run w with
      ⟨e | source, w'⟩
    · exact ⟨e, rfl⟩
    · obtain ⟨e, he⟩ := Task.fails_copy source hend w'
      simp only
      rw [Task.run_explain, he]
      exact ⟨_, rfl⟩

/-- Where an entry is an error, a list goes no further than to the entries before it. -/
theorem stops_at (sourceDir : String) (before after : List String) (w : Workspace)
    (h : ¬ (check entry = .ok () ∧ (targetDir.join entry).EndsInName)) :
    (∃ cause, (((before ++ entry :: after).forM (copyEntry sourceDir targetDir check)).run w).1 =
        .error cause) ∧
      ∀ place, (((before ++ entry :: after).forM
          (copyEntry sourceDir targetDir check)).run w).2.tree.file? place ≠ w.tree.file? place →
        Below (w.resources.scratch.place w.start) place ∨ ∃ earlier ∈ before,
          check earlier = .ok () ∧ FileTree.Target w.start (targetDir.join earlier) place := by
  -- the entry itself writes no more than its private copy, so it may count among those before
  have hentry : Task.WritesOnly w.start w.resources.scratch
      (fun place => Below (w.resources.scratch.place w.start) place ∨ ∃ earlier ∈ before,
        check earlier = .ok () ∧ FileTree.Target w.start (targetDir.join earlier) place)
      (copyEntry sourceDir targetDir check entry) := by
    refine (writesOnly_copyEntry sourceDir targetDir check entry).mono fun place hplace => ?_
    exact hplace.imp_right fun ⟨hcheck, htarget⟩ => absurd ⟨hcheck, htarget.2⟩ h
  obtain ⟨hstart, hscratch, hwrites⟩ := writesOnly_entries sourceDir targetDir check
    before w rfl rfl
  have hsplit : (before ++ entry :: after).forM (copyEntry sourceDir targetDir check) =
      (before.forM (copyEntry sourceDir targetDir check) >>= fun _ =>
        copyEntry sourceDir targetDir check entry >>= fun _ =>
          after.forM (copyEntry sourceDir targetDir check)) := by
    rw [List.forM_eq_forM, List.forM_append, List.forM_cons]
  rw [hsplit, run_bind]
  rcases hfront : (before.forM (copyEntry sourceDir targetDir check)).run w with ⟨e | u, w'⟩
  · rw [hfront] at hwrites
    exact ⟨⟨e, rfl⟩, fun place hchanged => hwrites.of_changed hchanged⟩
  · rw [hfront] at hstart hscratch hwrites
    obtain ⟨e, he⟩ := fails_copyEntry sourceDir h w'
    obtain ⟨-, -, hlast⟩ := hentry w' hstart hscratch
    simp only
    rw [run_bind]
    rcases hrun : (copyEntry sourceDir targetDir check entry).run w' with ⟨e' | u', w''⟩
    · rw [hrun] at hlast
      exact ⟨⟨e', rfl⟩, fun place hchanged => (hwrites.trans hlast).of_changed hchanged⟩
    · rw [hrun] at he
      cases he

/-! ## Directories of processors -/

/-- Where a library is copied to. -/
def libraryTarget (libsDir : Path) (entry : String) : Path := (libsDir.join "lib").join entry

/-- The place is in the directory of a processor. -/
def InProcessorDir (libsDir : Path) (start place : Place) : Prop :=
  ∃ abi ∈ Attachments.abiDirs, Below (((libsDir.join "lib").join abi).place start) place

/-- An entry that is accepted and steps up. -/
def Strays (entry : String) : Prop := abiEntry entry = .ok () ∧ ".." ∈ Text.split '/' entry

/-- An accepted entry begins with a directory of a processor. -/
theorem abiEntry_eq_ok (h : abiEntry entry = .ok ()) :
    ∃ abi ∈ Attachments.abiDirs, ∃ rest, entry = abi ++ "/" ++ rest := by
  have hbegins : ∀ front : String, Text.beginsWith front entry = true →
      ∃ rest, entry = front ++ rest := by
    intro front hfront
    obtain ⟨rest, hrest⟩ := Option.isSome_iff_exists.1 hfront
    refine ⟨String.ofList rest, String.toList_injective ?_⟩
    simpa using Text.dropHead?_eq_some.1 hrest
  unfold abiEntry at h
  split at h
  · rename_i haccepted
    rw [Bool.or_eq_true] at haccepted
    rcases haccepted with hfront | hfront
    · obtain ⟨rest, rfl⟩ := hbegins _ hfront
      exact ⟨"armeabi", by decide, rest, rfl⟩
    · obtain ⟨rest, rfl⟩ := hbegins _ hfront
      exact ⟨"armeabi-v7a", by decide, rest, rfl⟩
  · cases h

/-- An accepted entry that takes no step up and ends in a name leads into the directory of a
processor. -/
theorem inProcessorDir_of_abiEntry (libsDir : Path) (start : Place) (h : abiEntry entry = .ok ())
    (hup : ".." ∉ Text.split '/' entry) (hends : (libraryTarget libsDir entry).EndsInName) :
    InProcessorDir libsDir start ((libraryTarget libsDir entry).place start) := by
  obtain ⟨abi, habi, rest, rfl⟩ := abiEntry_eq_ok h
  have hplain := Attachments.isPlain_of_abiDirs habi
  have hrelative : Text.beginsWith "/" (abi ++ "/" ++ rest) = false := by
    rw [String.append_assoc]
    exact hplain.relative _
  have hsplit : Text.split '/' (abi ++ "/" ++ rest) = abi :: Text.split '/' rest := by
    rw [Text.split_append_slash, Text.split_of_not_mem hplain.1]
    rfl
  refine ⟨abi, habi, ?_⟩
  obtain ⟨last, hlast, hname⟩ := hends
  unfold libraryTarget at hlast ⊢
  rw [Path.getLast?_split_join hrelative, hsplit] at hlast
  rw [hsplit, List.mem_cons, not_or] at hup
  rw [Path.place_join hrelative, hsplit, Path.onwards_cons, Path.onward_of_isName hplain.2,
    Path.place_join_name hplain]
  rw [List.getLast?_cons_of_ne_nil (Text.split_ne_nil '/' rest)] at hlast
  exact ⟨Path.prefix_onwards hup.2 _, Path.onwards_ne hup.2 hlast hname _⟩

/-- What is written for an accepted entry is in the directory of a processor, or the entry
strays. -/
theorem inProcessorDir_or_strays (libsDir : Path) {place : Place} (h : abiEntry entry = .ok ())
    (htarget : FileTree.Target start (libraryTarget libsDir entry) place) :
    InProcessorDir libsDir start place ∨ Strays entry := by
  obtain ⟨rfl, hends⟩ := htarget
  by_cases hup : ".." ∈ Text.split '/' entry
  · exact .inr ⟨h, hup⟩
  · exact .inl (inProcessorDir_of_abiEntry libsDir start h hup hends)

/-- Copying the native libraries of a robot controller, whether it succeeds or not, changes files
only in the directories of processors, in the private directory of the cache, and where an accepted
entry leads that steps up. Any other entry that leads nowhere in the directories of processors makes
it fail in the stage of resources, with no file changed but for the entries before it. -/
theorem robot_libraries_stay_in_the_directories_of_processors (libsDir : Path) (w : Workspace) :
    (∀ place, ((copyNativeLibraries libsDir).run w).2.tree.file? place ≠ w.tree.file? place →
      InProcessorDir libsDir w.start place ∨ Below (w.resources.scratch.place w.start) place ∨
      ∃ entry ∈ listed "files/ftc/libs.list" w, Strays entry ∧
        place = (libraryTarget libsDir entry).place w.start) ∧
    ∀ before entry after, listed "files/ftc/libs.list" w = before ++ entry :: after →
      ¬ Strays entry →
      ¬ InProcessorDir libsDir w.start ((libraryTarget libsDir entry).place w.start) →
      (∃ cause, ((copyNativeLibraries libsDir).run w).1 = .error (.stage .resources cause)) ∧
      ∀ place, ((copyNativeLibraries libsDir).run w).2.tree.file? place ≠ w.tree.file? place →
        Below (w.resources.scratch.place w.start) place ∨
        ∃ earlier ∈ before, place = (libraryTarget libsDir earlier).place w.start := by
  obtain ⟨hafter, hfails⟩ := run_copyListed "files/ftc/libs.list" "files/ftc/libs"
    (libsDir.join "lib") abiEntry w
  unfold copyNativeLibraries
  rw [hafter]
  constructor
  · intro place hchanged
    obtain ⟨-, -, hwrites⟩ := writesOnly_entries "files/ftc/libs" (libsDir.join "lib")
      abiEntry (listed "files/ftc/libs.list" w) w rfl rfl
    rcases hwrites.of_changed hchanged with hprivate | ⟨entry, hentry, haccepted, htarget⟩
    · exact .inr (.inl hprivate)
    · rcases inProcessorDir_or_strays libsDir haccepted htarget with hin | hstrays
      · exact .inl hin
      · exact .inr (.inr ⟨entry, hentry, hstrays, htarget.1⟩)
  · intro before entry after hlist hstays hout
    have hrefused : ¬ (abiEntry entry = .ok () ∧
        ((libsDir.join "lib").join entry).EndsInName) := by
      rintro ⟨haccepted, hends⟩
      rcases inProcessorDir_or_strays libsDir haccepted ⟨rfl, hends⟩ with hin | hstrays
      · exact hout hin
      · exact hstays hstrays
    have hstops := stops_at "files/ftc/libs" before after w hrefused
    rw [← hlist] at hstops
    obtain ⟨⟨cause, hcause⟩, hchanges⟩ := hstops
    refine ⟨⟨cause, hfails cause hcause⟩, fun place hchanged => ?_⟩
    rcases hchanges place hchanged with hprivate | ⟨earlier, hearlier, -, htarget⟩
    · exact .inl hprivate
    · exact .inr ⟨earlier, hearlier, htarget.1⟩

/-- A workspace with this list of robot libraries, and with one for a processor that none of the
directories is for. -/
def withListed (text : String) : Workspace :=
  Workspace.opened [] (([["rt"], ["rt", "files"], ["rt", "files", "ftc"],
      ["rt", "files", "ftc", "libs"], ["rt", "files", "ftc", "libs", "armeabi"],
      ["rt", "files", "ftc", "libs", "x86"]].foldl
    (fun tree place => tree.put place .dir) FileTree.host).put
      ["rt", "files", "ftc", "libs", "x86", "lib.so"] (.file [1] false) |>.put
      ["rt", "files", "ftc", "libs.list"] (.file (Utf8.encode text) false))
    ⟨"/rt"⟩ ⟨"/tmp/r"⟩

/-- A library for another processor is refused. -/
theorem a_library_of_another_processor_is_refused : ∃ cause,
    ((copyNativeLibraries ⟨"/build/libs"⟩).run (withListed "x86/lib.so")).1 =
      .error (.stage .resources cause) := by
  have hlist : listed "files/ftc/libs.list" (withListed "x86/lib.so") = ["x86/lib.so"] := by
    decide +kernel
  have hout : ¬ InProcessorDir ⟨"/build/libs"⟩ []
      ((libraryTarget ⟨"/build/libs"⟩ "x86/lib.so").place []) := by
    unfold InProcessorDir
    decide +kernel
  have hstrays : ¬ Strays "x86/lib.so" := fun hstrays => absurd hstrays.2 (by decide)
  exact ((robot_libraries_stay_in_the_directories_of_processors ⟨"/build/libs"⟩
    (withListed "x86/lib.so")).2 [] "x86/lib.so" [] hlist hstrays hout).1

/-- An entry that steps up out of the directory it names first is copied to where it leads. -/
theorem a_robot_library_can_leave_the_directories_of_processors :
    let w := withListed "armeabi/../x86/lib.so"
    let after := (copyNativeLibraries ⟨"/build/libs"⟩).run w
    after.1 = .ok 1 ∧
      after.2.tree.file? ["build", "libs", "lib", "x86", "lib.so"] = some ([1], true) ∧
      w.tree.file? ["build", "libs", "lib", "x86", "lib.so"] = none ∧
      ¬ (∃ abi ∈ Attachments.abiDirs, Below
        (((Path.join ⟨"/build/libs"⟩ "lib").join abi).place [])
        ["build", "libs", "lib", "x86", "lib.so"]) ∧
      ¬ Below (w.resources.scratch.place []) ["build", "libs", "lib", "x86", "lib.so"] := by
  decide +kernel

end RobotFiles

end ApkForge
