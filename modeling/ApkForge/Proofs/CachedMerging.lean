-- Merging with a cache beside plain merging. The inputs are taken one after the other, each as it
-- is or from the cache; then the tool is called as a plain merge would call it, with what was
-- taken. What was converted stays in the cache, so a content that was converted once is not
-- converted again, neither for the same input nor for another, whatever the cache held at first.
import ApkForge.Proofs.CachedLibraries

namespace ApkForge

variable {ρ : Type}

open DexMerger (cachedFile cachePlace contentKey)

/-! ## Files that stay -/

namespace FileTree

variable {t t' t'' : FileTree} {start : Place} {p : Path}

/-- `t'` has all the directories of `t`, and a file wherever `t` has one. -/
structure Spares (t t' : FileTree) : Prop where
  files : ∀ place, (t.file? place).isSome = true → (t'.file? place).isSome = true
  dirs : ∀ place, t.at? place = some .dir → t'.at? place = some .dir

theorem spares_refl (t : FileTree) : Spares t t := ⟨fun _ h => h, fun _ h => h⟩

theorem Spares.trans (h : Spares t t') (h' : Spares t' t'') : Spares t t'' :=
  ⟨fun place hf => h'.files place (h.files place hf),
    fun place hd => h'.dirs place (h.dirs place hd)⟩

theorem Writes.spares {S : Place → Prop} (h : Writes S t t')
    (hfiles : ∀ place, S place → (t'.file? place).isSome = true) : Spares t t' := by
  refine ⟨fun place hfile => ?_, h.dirs⟩
  by_cases hs : S place
  · exact hfiles place hs
  · rw [h.files place hs]
    exact hfile

theorem spares_makeDirs (t : FileTree) (start : Place) (p : Path) :
    Spares t (t.makeDirs start p).2 :=
  (writes_makeDirs t start p).spares fun _ h => h.elim

theorem isFile_iff_file? : t.isFile start p = true ↔
    ∃ a, t.walk start p = .ok a ∧ a.wantsDir = false ∧ (t.file? a.place).isSome = true := by
  rw [isFile_iff]
  constructor
  · rintro ⟨place, content, executable, hstat⟩
    obtain ⟨a, hwalk, rfl, hat, hwants⟩ := stat_eq_ok.1 hstat
    refine ⟨a, hwalk, hwants.resolve_left (by simp), ?_⟩
    unfold file?
    rw [hat]
    rfl
  · rintro ⟨a, hwalk, hwants, hfile⟩
    unfold file? at hfile
    split at hfile
    · rename_i content executable hat
      exact ⟨a.place, content, executable, stat_eq_ok.2 ⟨a, hwalk, rfl, hat, .inr hwants⟩⟩
    · cases hfile

/-- Where a path names a file, there is one at the place that its text tells. -/
theorem file?_of_isFile (h : t.isFile start p = true) :
    (t.file? (p.place start)).isSome = true := by
  obtain ⟨a, hwalk, -, hfile⟩ := isFile_iff_file?.1 h
  rwa [walk_place hwalk] at hfile

/-- A path that names a file goes on naming one. -/
theorem Spares.isFile (h : Spares t t') (hfile : t.isFile start p = true) :
    t'.isFile start p = true := by
  obtain ⟨a, hwalk, hwants, hat⟩ := isFile_iff_file?.1 hfile
  exact isFile_iff_file?.2 ⟨a, walk_of_dirs h.dirs hwalk, hwants, h.files a.place hat⟩

end FileTree

/-! ## Tools that write what they are asked for -/

/-- The run wrote its output exactly if it succeeded, and no other file. -/
structure ToolRun.WritesOnSuccess (run : ToolRun) (output : Path) : Prop where
  made : run.succeeded = true → run.after.isFile run.start output = true
  writes : FileTree.Writes
    (fun place => run.succeeded = true ∧ place = output.place run.start) run.before run.after

/-- Every conversion writes its output exactly if it succeeds. -/
def Runner.WritesOnSuccess (r : Runner ρ) : Prop :=
  ∀ (m : DexMerger) (output : Path) (inputs : List Path) (limit : Option Nat) (start : Place)
    (tools : ρ) (tree : FileTree),
    let answered := r.answer (m.command output inputs) limit start tools tree
    ToolRun.WritesOnSuccess ⟨m.command output inputs, answered.1, start, tree, answered.2.2⟩ output

theorem ToolRun.WritesOnSuccess.spares {run : ToolRun} {output : Path}
    (h : run.WritesOnSuccess output) : run.before.Spares run.after := by
  refine h.writes.spares ?_
  rintro _ ⟨hsucceeded, rfl⟩
  exact FileTree.file?_of_isFile (h.made hsucceeded)

/-! ## What is held in a cache -/

/-- What was converted into a cache with success is still there. -/
def Held (cacheDir : Path) (σ : Booked ρ) : Prop :=
  ∀ run ∈ σ.book, run.succeeded = true → ∀ (m : DexMerger) (inputs : List Path) (content : Bytes),
    run.command = m.command (cachedFile cacheDir (contentKey content)) inputs →
    σ.workspace.tree.isFile σ.workspace.start (cachedFile cacheDir (contentKey content)) = true

variable {r : Runner ρ} {σ σ' σ'' : Booked ρ} {cacheDir : Path}

theorem Held.of_isFile (h : Held cacheDir σ) (hbook : σ'.book = σ.book)
    (hkept : ∀ content,
      σ.workspace.tree.isFile σ.workspace.start (cachedFile cacheDir (contentKey content)) = true →
      σ'.workspace.tree.isFile σ'.workspace.start (cachedFile cacheDir (contentKey content)) =
        true) : Held cacheDir σ' := by
  intro run hrun hsucceeded m inputs content hcommand
  rw [hbook] at hrun
  exact hkept content (h run hrun hsucceeded m inputs content hcommand)

theorem held_withDirs (h : Held cacheDir σ) (p : Path) : Held cacheDir (DexMerger.withDirs σ p) :=
  h.of_isFile rfl fun _ hfile => (FileTree.spares_makeDirs _ _ p).isFile hfile

theorem writesOnSuccess_runOf (hr : r.WritesOnSuccess) (m : DexMerger) (output : Path)
    (inputs : List Path) (seconds : Nat) (σ : Booked ρ) :
    (r.runOf (m.command output inputs) seconds σ).WritesOnSuccess output :=
  hr m output inputs (some (1000 * seconds)) σ.workspace.start σ.tools.1 σ.workspace.tree

/-- A call of the tool takes nothing from a cache, and leaves what it converts. -/
theorem held_asked (hr : r.WritesOnSuccess) (h : Held cacheDir σ) (m : DexMerger) (output : Path)
    (inputs : List Path) (seconds : Nat) :
    Held cacheDir (r.booked.asked (m.command output inputs) seconds σ).2 := by
  have hwrites := writesOnSuccess_runOf hr m output inputs seconds σ
  intro run hrun hsucceeded m' inputs' content hcommand
  rw [r.book_asked] at hrun
  rcases List.mem_append.1 hrun with hold | hnew
  · exact hwrites.spares.isFile (h run hold hsucceeded m' inputs' content hcommand)
  · rw [List.mem_singleton.1 hnew] at hsucceeded hcommand
    rw [← command_output hcommand]
    exact hwrites.made hsucceeded

/-! ## Steps over a cache -/

/-- The place of some content in the cache at a place. -/
def InCache (dir place : Place) : Prop := ∃ content, place = cachePlace dir content

/-- From one session to a later one no file goes away, and none changes but those of the cache. -/
structure Onward (cacheDir : Path) (σ σ' : Booked ρ) : Prop where
  start : σ'.workspace.start = σ.workspace.start
  spares : σ.workspace.tree.Spares σ'.workspace.tree
  writes : FileTree.Writes (InCache (cacheDir.place σ.workspace.start)) σ.workspace.tree
    σ'.workspace.tree
  held : ∀ other, Held other σ → Held other σ'

theorem onward_refl (cacheDir : Path) (σ : Booked ρ) : Onward cacheDir σ σ :=
  ⟨rfl, FileTree.spares_refl _, FileTree.writes_refl _ _, fun _ h => h⟩

theorem Onward.trans (h : Onward cacheDir σ σ') (h' : Onward cacheDir σ' σ'') :
    Onward cacheDir σ σ'' := by
  have hwrites := h'.writes
  rw [h.start] at hwrites
  exact ⟨h'.start.trans h.start, h.spares.trans h'.spares, h.writes.trans hwrites,
    fun other ho => h'.held other (h.held other ho)⟩

theorem onward_withDirs (cacheDir : Path) (σ : Booked ρ) (p : Path) :
    Onward cacheDir σ (DexMerger.withDirs σ p) where
  start := rfl
  spares := FileTree.spares_makeDirs _ _ p
  writes := (FileTree.writes_makeDirs _ _ p).mono fun _ h => h.elim
  held _ h := held_withDirs h p

theorem onward_asked (hr : r.WritesOnSuccess) (m : DexMerger) (cacheDir : Path) (content : Bytes)
    (inputs : List Path) (seconds : Nat) (σ : Booked ρ) : Onward cacheDir σ (r.booked.asked
      (m.command (cachedFile cacheDir (contentKey content)) inputs) seconds σ).2 := by
  have hwrites := writesOnSuccess_runOf hr m (cachedFile cacheDir (contentKey content)) inputs
    seconds σ
  refine ⟨rfl, hwrites.spares, hwrites.writes.mono ?_, fun other h => held_asked hr h _ _ _ _⟩
  rintro place ⟨-, hplace⟩
  exact ⟨content, hplace.trans (DexMerger.place_cachedFile cacheDir content _)⟩

/-! ## Contents that are converted once -/

/-- The run converts a library with this content into a cache. -/
structure ToolRun.Predexes (run : ToolRun) (m : DexMerger) (cacheDir input : Path)
    (content : Bytes) : Prop where
  command : run.command = m.command (cachedFile cacheDir (contentKey content)) [input]
  read : run.before.read run.start input = .ok content

/-- The later run converts no content that the earlier one converted with success. -/
def ToolRun.LeavesTo (cacheDir : Path) (earlier later : ToolRun) : Prop :=
  ∀ (m m' : DexMerger) (input input' : Path) (content : Bytes),
    later.Predexes m cacheDir input content → earlier.Predexes m' cacheDir input' content →
    earlier.succeeded = false

/-- None of the runs converts a content that was converted with success before it, be it by a run
in the book or by one of the runs. -/
structure FirstTime (cacheDir : Path) (book runs : List ToolRun) : Prop where
  before : ∀ earlier ∈ book, ∀ later ∈ runs, earlier.LeavesTo cacheDir later
  among : runs.Pairwise (ToolRun.LeavesTo cacheDir)

theorem firstTime_nil (cacheDir : Path) (book : List ToolRun) : FirstTime cacheDir book [] :=
  ⟨by simp, .nil⟩

theorem FirstTime.append {book runs runs' : List ToolRun} (h : FirstTime cacheDir book runs)
    (h' : FirstTime cacheDir (book ++ runs) runs') : FirstTime cacheDir book (runs ++ runs') := by
  constructor
  · intro earlier hearlier later hlater
    rcases List.mem_append.1 hlater with hlater | hlater
    · exact h.before earlier hearlier later hlater
    · exact h'.before earlier (List.mem_append_left _ hearlier) later hlater
  · refine List.pairwise_append.2 ⟨h.among, h'.among, fun earlier hearlier later hlater => ?_⟩
    exact h'.before earlier (List.mem_append_right _ hearlier) later hlater

/-- What a cache does not hold was never converted into it. -/
theorem Held.firstTime (h : Held cacheDir σ) {run : ToolRun} {m : DexMerger} {input : Path}
    {content : Bytes} (hrun : run.Predexes m cacheDir input content)
    (hmissing : σ.workspace.tree.isFile σ.workspace.start
      (cachedFile cacheDir (contentKey content)) = false) : FirstTime cacheDir σ.book [run] := by
  refine ⟨fun earlier hearlier later hlater => ?_, List.pairwise_singleton _ _⟩
  rw [List.mem_singleton.1 hlater]
  intro m₁ m₂ input₁ input₂ content' hagain hbefore
  have hsame := command_output (hrun.command.symm.trans hagain.command)
  rw [← Bool.not_eq_true]
  intro hsucceeded
  have hthere := h earlier hearlier hsucceeded m₂ [input₂] content' hbefore.command
  rw [← hsame, hmissing] at hthere
  cases hthere

/-! ## How an input is taken -/

/-- How a merge took an input: the tree that it found, the conversion that it asked for, if any, and
what stood for the input then. -/
structure Turn where
  input : Path
  tree : FileTree
  run? : Option ToolRun
  outcome : Except BuildError Path

/-- The path names a library with this content. -/
structure FileTree.Library (t : FileTree) (start : Place) (input : Path) (content : Bytes) :
    Prop where
  isFile : t.isFile start input = true
  extension : input.extension? = some "jar"
  read : t.read start input = .ok content

theorem FileTree.Library.of_stat {t : FileTree} {start place : Place} {input : Path}
    {content : Bytes} {executable : Bool} (hjar : input.extension? = some "jar")
    (hstat : t.stat start input = .ok (place, .file content executable)) :
    t.Library start input content :=
  ⟨FileTree.isFile_iff.2 ⟨place, content, executable, hstat⟩, hjar, FileTree.read_of_stat hstat⟩

/-- A library stays one with the same content while no file is written. -/
theorem FileTree.Library.of_writes {t t' : FileTree} {start : Place} {input : Path}
    {content : Bytes} (library : t.Library start input content)
    (h : FileTree.Writes (fun _ => False) t t') : t'.Library start input content := by
  obtain ⟨place, held, executable, hstat⟩ := FileTree.isFile_iff.1 library.isFile
  have hread := library.read
  rw [FileTree.read_of_stat hstat] at hread
  obtain rfl := Except.ok.inj hread
  exact .of_stat library.extension (h.stat_file hstat fun hnever => hnever)

/-- Whatever is no library stands for itself. For a library stands what the cache holds for its
content; when that is missing, the library is converted, and one whose conversion fails stands for
itself. Nothing stands for it when the tool gives no answer or the cache cannot be made. -/
inductive Turn.Follows (m : DexMerger) (cacheDir : Path) (start : Place) : Turn → Prop where
  | plain {input : Path} {tree : FileTree}
      (plain : tree.isFile start input = false ∨ input.extension? ≠ some "jar") :
      Follows m cacheDir start ⟨input, tree, none, .ok input⟩
  | held {input : Path} {tree : FileTree} {content : Bytes}
      (library : tree.Library start input content)
      (there : tree.isFile start (cachedFile cacheDir (contentKey content)) = true) :
      Follows m cacheDir start
        ⟨input, tree, none, .ok (cachedFile cacheDir (contentKey content))⟩
  | converted {input : Path} {tree : FileTree} {content : Bytes} {run : ToolRun}
      (library : tree.Library start input content)
      (missing : tree.isFile start (cachedFile cacheDir (contentKey content)) = false)
      (predexes : run.Predexes m cacheDir input content) (succeeded : run.succeeded = true) :
      Follows m cacheDir start
        ⟨input, tree, some run, .ok (cachedFile cacheDir (contentKey content))⟩
  | refused {input : Path} {tree : FileTree} {content : Bytes} {run : ToolRun}
      {left : ToolOutput} (library : tree.Library start input content)
      (missing : tree.isFile start (cachedFile cacheDir (contentKey content)) = false)
      (predexes : run.Predexes m cacheDir input content) (answer : run.answer = .ok left)
      (failed : left.success = false) :
      Follows m cacheDir start ⟨input, tree, some run, .ok input⟩
  | unanswered {input : Path} {tree : FileTree} {content : Bytes} {run : ToolRun}
      {fault : RunFault} (library : tree.Library start input content)
      (missing : tree.isFile start (cachedFile cacheDir (contentKey content)) = false)
      (predexes : run.Predexes m cacheDir input content) (answer : run.answer = .error fault) :
      Follows m cacheDir start ⟨input, tree, some run, .error (.stage .dx (.runner fault))⟩
  | notMade {input : Path} {tree : FileTree} {content : Bytes} {fault : FileFault}
      (library : tree.Library start input content)
      (missing : tree.isFile start (cachedFile cacheDir (contentKey content)) = false)
      (fails : (tree.makeDirs start cacheDir).1 = .error fault) :
      Follows m cacheDir start
        ⟨input, tree, none, .error (.stage .dx (.files (.notMade cacheDir fault)))⟩

namespace DexMerger

/-- From one tree to another inputs were taken in turn. No file but those of the cache changed
between the turns, and what was taken from the cache is there at the end. -/
structure Takes (m : DexMerger) (cacheDir : Path) (start : Place) (before after : FileTree)
    (turns : List Turn) : Prop where
  follows : ∀ turn ∈ turns, turn.Follows m cacheDir start
  since : ∀ turn ∈ turns, FileTree.Writes (InCache (cacheDir.place start)) before turn.tree
  till : ∀ turn ∈ turns, FileTree.Writes (InCache (cacheDir.place start)) turn.tree after
  there : ∀ turn ∈ turns, ∀ path, turn.outcome = .ok path →
    path = turn.input ∨ after.isFile start path = true

variable {m : DexMerger} {start : Place} {turns turns' : List Turn}

theorem takes_nil (m : DexMerger) (cacheDir : Path) (start : Place) (before after : FileTree) :
    m.Takes cacheDir start before after [] :=
  ⟨by simp, by simp, by simp, by simp⟩

theorem Takes.append {before middle after : FileTree}
    (h : m.Takes cacheDir start before middle turns)
    (h' : m.Takes cacheDir start middle after turns')
    (hwrites : FileTree.Writes (InCache (cacheDir.place start)) before middle)
    (hwrites' : FileTree.Writes (InCache (cacheDir.place start)) middle after)
    (hspares : middle.Spares after) : m.Takes cacheDir start before after (turns ++ turns') where
  follows := List.forall_mem_append.2 ⟨h.follows, h'.follows⟩
  since := List.forall_mem_append.2
    ⟨h.since, fun turn hturn => hwrites.trans (h'.since turn hturn)⟩
  till := List.forall_mem_append.2
    ⟨fun turn hturn => (h.till turn hturn).trans hwrites', h'.till⟩
  there := List.forall_mem_append.2
    ⟨fun turn hturn path hpath => (h.there turn hturn path hpath).imp_right hspares.isFile,
      h'.there⟩

/-- From one session to a later one inputs were taken in turn, and the conversions that were asked
for meanwhile are in the book. -/
structure TakesOn (m : DexMerger) (cacheDir : Path) (σ σ' : Booked ρ) (turns : List Turn) :
    Prop where
  onward : Onward cacheDir σ σ'
  book : σ'.book = σ.book ++ turns.filterMap Turn.run?
  takes : m.Takes cacheDir σ.workspace.start σ.workspace.tree σ'.workspace.tree turns
  firstTime : Held cacheDir σ → FirstTime cacheDir σ.book (turns.filterMap Turn.run?)

theorem takesOn_nil (m : DexMerger) (cacheDir : Path) (σ : Booked ρ) :
    m.TakesOn cacheDir σ σ [] where
  onward := onward_refl cacheDir σ
  book := (List.append_nil _).symm
  takes := takes_nil m cacheDir _ _ _
  firstTime _ := firstTime_nil cacheDir _

theorem TakesOn.append (h : m.TakesOn cacheDir σ σ' turns)
    (h' : m.TakesOn cacheDir σ' σ'' turns') : m.TakesOn cacheDir σ σ'' (turns ++ turns') := by
  have htakes := h'.takes
  have hwrites := h'.onward.writes
  rw [h.onward.start] at htakes hwrites
  refine ⟨h.onward.trans h'.onward, ?_,
    h.takes.append htakes h.onward.writes hwrites h'.onward.spares, fun hheld => ?_⟩
  · rw [h'.book, h.book, List.filterMap_append, List.append_assoc]
  · have hnext := h'.firstTime (h.onward.held cacheDir hheld)
    rw [h.book] at hnext
    rw [List.filterMap_append]
    exact (h.firstTime hheld).append hnext

/-! ## One input -/

/-- One input is taken. -/
theorem takesOn_singleton {turn : Turn} (onward : Onward cacheDir σ σ')
    (tree : turn.tree = σ.workspace.tree) (book : σ'.book = σ.book ++ turn.run?.toList)
    (follows : turn.Follows m cacheDir σ.workspace.start)
    (there : ∀ path, turn.outcome = .ok path →
      path = turn.input ∨ σ'.workspace.tree.isFile σ.workspace.start path = true)
    (firstTime : Held cacheDir σ → FirstTime cacheDir σ.book turn.run?.toList) :
    m.TakesOn cacheDir σ σ' [turn] := by
  have hruns : [turn].filterMap Turn.run? = turn.run?.toList := by
    rw [List.filterMap_cons]
    cases turn.run? <;> rfl
  have htakes : m.Takes cacheDir σ.workspace.start σ.workspace.tree σ'.workspace.tree [turn] := by
    refine ⟨?_, ?_, ?_, ?_⟩
    all_goals simp only [List.forall_mem_singleton]
    · exact follows
    · rw [tree]
      exact FileTree.writes_refl _ _
    · rw [tree]
      exact onward.writes
    · exact there
  refine ⟨onward, ?_, htakes, fun hheld => ?_⟩
  · rw [hruns]
    exact book
  · rw [hruns]
    exact firstTime hheld

/-- An input is taken without a call. -/
theorem takesOn_quietly {turn : Turn} (onward : Onward cacheDir σ σ')
    (tree : turn.tree = σ.workspace.tree) (book : σ'.book = σ.book) (quiet : turn.run? = none)
    (follows : turn.Follows m cacheDir σ.workspace.start)
    (there : ∀ path, turn.outcome = .ok path →
      path = turn.input ∨ σ'.workspace.tree.isFile σ.workspace.start path = true) :
    m.TakesOn cacheDir σ σ' [turn] := by
  refine takesOn_singleton onward tree ?_ follows there fun _ => ?_
  · rw [quiet, book]
    exact (List.append_nil _).symm
  · rw [quiet]
    exact firstTime_nil cacheDir _

theorem run_cacheDirs (stage : Stage) (p : Path) (σ : Booked ρ) :
    (Step.onFiles stage (Task.makeDirs p) : Step (ρ × List ToolRun) Unit).run σ =
      ((σ.workspace.tree.makeDirs σ.workspace.start p).1.mapError
        fun fault => .stage stage (.files (.notMade p fault)), withDirs σ p) := by
  refine Prod.ext ?_ (run_onFiles_makeDirs stage p σ)
  unfold Step.onFiles Step.within
  rw [Step.run_work, Task.run_explain, Task.run_explain, Task.run_makeDirs]
  cases (σ.workspace.tree.makeDirs σ.workspace.start p).1 <;> rfl

/-- A conversion ends as the tool answers: with what was made, with the input when nothing was, or
with an error when there is no answer. -/
theorem run_conversion (r : Runner ρ) (command : Command) (seconds : Nat) (cached input : Path)
    (σ : Booked ρ) :
    (do
      let output ← Step.call r.booked .dx command seconds
      if output.success && (← Step.work (Task.isFile cached)) then return cached
      else return input : Step (ρ × List ToolRun) Path).run σ =
    (match (r.runOf command seconds σ).answer with
      | .ok left => .ok (if left.success && (r.runOf command seconds σ).after.isFile
          σ.workspace.start cached then cached else input)
      | .error fault => .error (.stage .dx (.runner fault)),
      (r.booked.asked command seconds σ).2) := by
  have hanswer : (r.booked.asked command seconds σ).1 = (r.runOf command seconds σ).answer := rfl
  rw [run_bind, Step.run_call, hanswer]
  cases (r.runOf command seconds σ).answer with
  | error fault => rfl
  | ok left =>
    simp only [Step.callEnd]
    rw [run_choose, r.tree_asked]
    rfl

/-- What a conversion ends with follows from its answer. -/
theorem conversion_follows {input : Path} {content : Bytes} {tree : FileTree} {run : ToolRun}
    (library : tree.Library start input content)
    (missing : tree.isFile start (cachedFile cacheDir (contentKey content)) = false)
    (predexes : run.Predexes m cacheDir input content) (hstart : run.start = start)
    (writes : run.WritesOnSuccess (cachedFile cacheDir (contentKey content)))
    {outcome : Except BuildError Path} (houtcome : (match run.answer with
      | .ok left => .ok (if left.success &&
          run.after.isFile start (cachedFile cacheDir (contentKey content)) then
            cachedFile cacheDir (contentKey content) else input)
      | .error fault => .error (.stage .dx (.runner fault))) = outcome) :
    Turn.Follows m cacheDir start ⟨input, tree, some run, outcome⟩ ∧
      ∀ path, outcome = .ok path → path = input ∨ run.after.isFile start path = true := by
  cases hanswer : run.answer with
  | error fault =>
    rw [hanswer] at houtcome
    subst houtcome
    exact ⟨.unanswered library missing predexes hanswer, by simp⟩
  | ok left =>
    rw [hanswer] at houtcome
    cases hsuccess : left.success with
    | false =>
      simp only [hsuccess, Bool.false_and, Bool.false_eq_true, if_false] at houtcome
      subst houtcome
      refine ⟨.refused library missing predexes hanswer hsuccess, fun path hpath => ?_⟩
      exact .inl (Except.ok.inj hpath).symm
    | true =>
      have hsucceeded : run.succeeded = true := by
        unfold ToolRun.succeeded
        rw [hanswer]
        exact hsuccess
      have hmade := writes.made hsucceeded
      rw [hstart] at hmade
      simp only [hsuccess, hmade, Bool.and_self, if_true] at houtcome
      subst houtcome
      refine ⟨.converted library missing predexes hsucceeded, fun path hpath => .inr ?_⟩
      rw [← Except.ok.inj hpath]
      exact hmade

/-- A library that the cache does not hold is converted. -/
theorem convert_takes (hr : r.WritesOnSuccess) {input : Path} {content : Bytes}
    (library : σ.workspace.tree.Library σ.workspace.start input content)
    (missing : σ.workspace.tree.isFile σ.workspace.start
      (cachedFile cacheDir (contentKey content)) = false)
    {result : Except BuildError Path} (hrun : (do
      Step.onFiles .dx (Task.makeDirs cacheDir)
      let output ← Step.call r.booked .dx
        (m.command (cachedFile cacheDir (contentKey content)) [input]) m.seconds
      if output.success &&
          (← Step.work (Task.isFile (cachedFile cacheDir (contentKey content)))) then
        return cachedFile cacheDir (contentKey content)
      else return input : Step (ρ × List ToolRun) Path).run σ = (result, σ')) :
    ∃ turn : Turn, turn.input = input ∧ turn.outcome = result ∧
      m.TakesOn cacheDir σ σ' [turn] := by
  have hdirs := onward_withDirs cacheDir σ cacheDir
  rw [run_bind, run_cacheDirs] at hrun
  cases hfails : (σ.workspace.tree.makeDirs σ.workspace.start cacheDir).1 with
  | error fault =>
    rw [hfails] at hrun
    obtain ⟨rfl, rfl⟩ := Prod.mk.inj hrun
    exact ⟨⟨input, σ.workspace.tree, none, _⟩, rfl, rfl,
      takesOn_quietly hdirs rfl rfl rfl (.notMade library missing hfails) (by simp)⟩
  | ok made =>
    rw [hfails] at hrun
    simp only [Except.mapError] at hrun
    rw [run_conversion] at hrun
    obtain ⟨hresult, rfl⟩ := Prod.mk.inj hrun
    -- the input is the file that it was, so its content still has the key
    have hlibrary := library.of_writes (FileTree.writes_makeDirs _ σ.workspace.start cacheDir)
    have hpredexes : (r.runOf (m.command (cachedFile cacheDir (contentKey content)) [input])
      m.seconds (withDirs σ cacheDir)).Predexes m cacheDir input content := ⟨rfl, hlibrary.read⟩
    obtain ⟨hfollows, hthere⟩ := conversion_follows library missing hpredexes rfl
      (writesOnSuccess_runOf hr m _ [input] m.seconds (withDirs σ cacheDir)) hresult
    refine ⟨_, rfl, rfl, takesOn_singleton ?_ rfl (r.book_asked _ _ _) hfollows hthere
      fun hheld => hheld.firstTime hpredexes missing⟩
    exact hdirs.trans (onward_asked hr m cacheDir content [input] m.seconds _)

/-- An input is taken in one turn. -/
theorem prepare_takes (hr : r.WritesOnSuccess) (hcache : m.cacheDir = some cacheDir) {input : Path}
    {result : Except BuildError Path} (hrun : (m.prepare r.booked input).run σ = (result, σ')) :
    ∃ turn : Turn, turn.input = input ∧ turn.outcome = result ∧
      m.TakesOn cacheDir σ σ' [turn] := by
  unfold prepare at hrun
  rw [hcache] at hrun
  simp only at hrun
  rw [run_bind, run_isCacheable] at hrun
  simp only at hrun
  split at hrun
  · rename_i hplain
    rw [run_pure] at hrun
    obtain ⟨rfl, rfl⟩ := Prod.mk.inj hrun
    have hnone : σ.workspace.tree.isFile σ.workspace.start input = false ∨
        input.extension? ≠ some "jar" := by
      simpa using hplain
    refine ⟨⟨input, σ.workspace.tree, none, _⟩, rfl, rfl,
      takesOn_quietly (onward_refl cacheDir σ) rfl rfl rfl (.plain hnone) fun path hpath => ?_⟩
    exact .inl (Except.ok.inj hpath).symm
  rename_i hcacheable
  simp only [Bool.not_eq_true, Bool.not_eq_false', Bool.and_eq_true, beq_iff_eq] at hcacheable
  obtain ⟨place, content, executable, hstat⟩ := FileTree.isFile_iff.1 hcacheable.1
  have hlibrary := FileTree.Library.of_stat hcacheable.2 hstat
  rw [run_bind, Step.run_work, run_cacheKey, hlibrary.read] at hrun
  simp only at hrun
  rw [run_bind, Step.run_work, Task.run_isFile] at hrun
  simp only at hrun
  split at hrun
  · rename_i hthere
    rw [run_pure] at hrun
    obtain ⟨rfl, rfl⟩ := Prod.mk.inj hrun
    refine ⟨⟨input, σ.workspace.tree, none, _⟩, rfl, rfl, takesOn_quietly
      (onward_refl cacheDir σ) rfl rfl rfl (.held hlibrary hthere) fun path hpath => .inr ?_⟩
    rw [← Except.ok.inj hpath]
    exact hthere
  · rename_i hmissing
    exact convert_takes hr hlibrary (by simpa using hmissing) hrun

/-! ## All inputs -/

/-- All inputs were taken, each in one turn, and something stood for each. -/
structure TookAll (inputs : List Path) (turns : List Turn) (prepared : List Path) : Prop where
  inputs : turns.map Turn.input = inputs
  outcomes : turns.map Turn.outcome = prepared.map .ok

/-- The inputs were taken one after the other up to one that nothing stood for. -/
structure BrokeOff (inputs : List Path) (turns : List Turn) (e : BuildError) : Prop where
  inputs : turns.map Turn.input <+: inputs
  outcomes : ∃ prepared : List Path, turns.map Turn.outcome = prepared.map .ok ++ [.error e]

/-- The inputs are taken one after the other. -/
theorem prepareAll_takes (hr : r.WritesOnSuccess) (hcache : m.cacheDir = some cacheDir)
    {inputs : List Path} {result : Except BuildError (List Path)}
    (hrun : (inputs.mapM (m.prepare r.booked)).run σ = (result, σ')) :
    ∃ turns, m.TakesOn cacheDir σ σ' turns ∧
      (∀ prepared, result = .ok prepared → TookAll inputs turns prepared) ∧
      ∀ e, result = .error e → BrokeOff inputs turns e := by
  induction inputs generalizing σ result with
  | nil =>
    obtain ⟨rfl, rfl⟩ := Prod.mk.inj hrun
    refine ⟨[], takesOn_nil m cacheDir σ, fun prepared hprepared => ?_, by simp⟩
    rw [← Except.ok.inj hprepared]
    exact ⟨rfl, rfl⟩
  | cons input rest ih =>
    rw [List.mapM_cons] at hrun
    rcases run_bind_cases hrun with ⟨e, h, rfl⟩ | ⟨path, σ₁, h, hrun⟩
    · obtain ⟨turn, hinput, houtcome, htakes⟩ := prepare_takes hr hcache h
      refine ⟨[turn], htakes, by simp, fun e' he' => ⟨⟨rest, ?_⟩, [], ?_⟩⟩
      · simp [hinput]
      · simp [houtcome, Except.error.inj he']
    obtain ⟨turn, hinput, houtcome, htakes⟩ := prepare_takes hr hcache h
    rcases run_bind_cases hrun with ⟨e, h, rfl⟩ | ⟨others, σ₂, h, hrun⟩
    · obtain ⟨turns, hrest, -, hbroke⟩ := ih h
      obtain ⟨⟨later, hinputs⟩, prepared, houtcomes⟩ := hbroke e rfl
      refine ⟨turn :: turns, htakes.append hrest, by simp, fun e' he' => ⟨⟨later, ?_⟩,
        path :: prepared, ?_⟩⟩
      · simp [hinput, hinputs]
      · simp [houtcome, houtcomes, Except.error.inj he']
    · rw [run_pure] at hrun
      obtain ⟨rfl, rfl⟩ := Prod.mk.inj hrun
      obtain ⟨turns, hrest, htook, -⟩ := ih h
      obtain ⟨hinputs, houtcomes⟩ := htook others rfl
      refine ⟨turn :: turns, htakes.append hrest, fun prepared hprepared => ⟨?_, ?_⟩, by simp⟩
      · simp [hinput, hinputs]
      · simp [← Except.ok.inj hprepared, houtcome, houtcomes]

/-- Without a cache every input stands for itself. -/
theorem run_prepareAll_of_none {runner : Runner ρ} (hcache : m.cacheDir = none)
    (inputs : List Path) (σ : Session ρ) :
    (inputs.mapM (m.prepare runner)).run σ = (.ok inputs, σ) := by
  have hprepare : ∀ input, m.prepare runner input = pure input := by
    intro input
    unfold prepare
    rw [hcache]
  induction inputs with
  | nil => rfl
  | cons input rest ih =>
    rw [List.mapM_cons, hprepare, run_bind, run_pure]
    simp only
    rw [run_bind, ih]
    rfl

end DexMerger

/-! ## A merge -/

/-- A merge ends as its call of the tool does: with what the tool says, or with an error when the
tool gives no answer. -/
structure ToolRun.Decides (final : ToolRun) (result : Except BuildError Bool) : Prop where
  verdict : ∀ made, result = .ok made ↔ ∃ left, final.answer = .ok left ∧ left.success = made
  silence : ∀ e, result = .error e ↔
    ∃ fault, final.answer = .error fault ∧ .stage .dx (.runner fault) = e

namespace DexMerger

/-- What a merge over a cache comes to: either all inputs are taken, and then the tool is called
with what stands for them, or the merge breaks off at an input. -/
inductive CachedMerge (m : DexMerger) (cacheDir output : Path) (inputs : List Path)
    (σ σ' : Booked ρ) (turns : List Turn) : Except BuildError Bool → Prop where
  | called {prepared : List Path} {final : ToolRun} {result : Except BuildError Bool}
      (took : TookAll inputs turns prepared)
      (takes : m.Takes cacheDir σ.workspace.start σ.workspace.tree final.before turns)
      (book : σ'.book = σ.book ++ turns.filterMap Turn.run? ++ [final])
      (command : final.command = m.command output prepared) (decides : final.Decides result) :
      CachedMerge m cacheDir output inputs σ σ' turns result
  | brokenOff {e : BuildError} (broke : BrokeOff inputs turns e)
      (takes : m.Takes cacheDir σ.workspace.start σ.workspace.tree σ'.workspace.tree turns)
      (book : σ'.book = σ.book ++ turns.filterMap Turn.run?) :
      CachedMerge m cacheDir output inputs σ σ' turns (.error e)

/-- The call that makes the container decides a merge. -/
theorem run_container (command : Command) (seconds : Nat) (σ : Booked ρ) :
    ∃ result, (do
      let output ← Step.call r.booked .dx command seconds
      return output.success : Step (ρ × List ToolRun) Bool).run σ =
        (result, (r.booked.asked command seconds σ).2) ∧
      (r.runOf command seconds σ).Decides result := by
  have hanswer : (r.booked.asked command seconds σ).1 = (r.runOf command seconds σ).answer := rfl
  rw [run_bind, Step.run_call, hanswer]
  cases h : (r.runOf command seconds σ).answer with
  | error fault =>
    refine ⟨_, rfl, ?_, ?_⟩
    · simp [h]
    · simp [h]
  | ok left =>
    refine ⟨_, rfl, ?_, ?_⟩
    · simp [h]
    · simp [h]

variable {m : DexMerger}

/-- Without a cache a merge is one call over the inputs. -/
theorem merge_of_none (hcache : m.cacheDir = none) (output : Path) (inputs : List Path)
    (σ : Booked ρ) : ∃ result, (m.merge r.booked output inputs).run σ =
      (result, (r.booked.asked (m.command output inputs) m.seconds σ).2.add
        (.merged output inputs result)) ∧
      (r.runOf (m.command output inputs) m.seconds σ).Decides result := by
  obtain ⟨result, hrun, hdecides⟩ := run_container (r := r) (m.command output inputs) m.seconds σ
  refine ⟨result, ?_, hdecides⟩
  unfold merge
  rw [Step.run_noting, run_bind, run_prepareAll_of_none hcache]
  simp only
  rw [hrun]

/-- Over a cache a merge takes its inputs in turn and calls the tool with what stands for them. -/
theorem merge_of_cache (hr : r.WritesOnSuccess) (hcache : m.cacheDir = some cacheDir)
    (output : Path) (inputs : List Path) (σ : Booked ρ) : ∃ result σ' turns,
      (m.merge r.booked output inputs).run σ = (result, σ') ∧
      m.CachedMerge cacheDir output inputs σ σ' turns result ∧
      (∀ other, Held other σ → Held other σ') ∧
      (Held cacheDir σ → FirstTime cacheDir σ.book (turns.filterMap Turn.run?)) := by
  unfold merge
  rw [Step.run_noting, run_bind]
  rcases hrun : (inputs.mapM (m.prepare r.booked)).run σ with ⟨e | prepared, σ₁⟩
  · obtain ⟨turns, htakes, -, hbroke⟩ := prepareAll_takes hr hcache hrun
    exact ⟨_, _, turns, rfl, .brokenOff (hbroke e rfl) htakes.takes htakes.book,
      htakes.onward.held, htakes.firstTime⟩
  · obtain ⟨turns, htakes, htook, -⟩ := prepareAll_takes hr hcache hrun
    obtain ⟨result, hcontainer, hdecides⟩ :=
      run_container (r := r) (m.command output prepared) m.seconds σ₁
    simp only
    rw [hcontainer]
    refine ⟨_, _, turns, rfl, .called (htook prepared rfl) htakes.takes ?_ rfl hdecides, ?_,
      htakes.firstTime⟩
    · rw [← htakes.book]
      rfl
    · intro other hother
      exact held_asked hr (htakes.onward.held other hother) m output prepared m.seconds

/-- Whatever cache a merge works with, it takes nothing from any. -/
theorem held_merge (hr : r.WritesOnSuccess) (h : Held cacheDir σ) (m : DexMerger) (output : Path)
    (inputs : List Path) : Held cacheDir ((m.merge r.booked output inputs).run σ).2 := by
  cases hcache : m.cacheDir with
  | none =>
    obtain ⟨result, hrun, -⟩ := merge_of_none (r := r) hcache output inputs σ
    rw [hrun]
    exact held_asked hr h m output inputs m.seconds
  | some own =>
    obtain ⟨result, σ', turns, hrun, -, hheld, -⟩ := merge_of_cache hr hcache output inputs σ
    rw [hrun]
    exact hheld cacheDir h

end DexMerger

/-! ## Merges that share a cache -/

/-- The sessions that builds over one cache come to: a merge may follow, with any settings and
inputs, and between merges all may change but the book and that the files of the cache are found
there. -/
inductive Sharing (r : Runner ρ) (cacheDir : Path) (σ₀ : Booked ρ) : Booked ρ → Prop where
  | first : Sharing r cacheDir σ₀ σ₀
  | merged {σ : Booked ρ} (before : Sharing r cacheDir σ₀ σ) (m : DexMerger) (output : Path)
      (inputs : List Path) : Sharing r cacheDir σ₀ ((m.merge r.booked output inputs).run σ).2
  | between {σ σ' : Booked ρ} (before : Sharing r cacheDir σ₀ σ) (book : σ'.book = σ.book)
      (kept : ∀ content,
        σ.workspace.tree.isFile σ.workspace.start (cachedFile cacheDir (contentKey content)) =
          true →
        σ'.workspace.tree.isFile σ'.workspace.start (cachedFile cacheDir (contentKey content)) =
          true) : Sharing r cacheDir σ₀ σ'

/-- Over all merges that share a cache, what was converted stays in it. -/
theorem Sharing.held {σ₀ : Booked ρ} (hr : r.WritesOnSuccess) (hfresh : σ₀.book = [])
    (h : Sharing r cacheDir σ₀ σ) : Held cacheDir σ := by
  induction h with
  | first =>
    intro run hrun
    rw [hfresh] at hrun
    cases hrun
  | merged before m output inputs ih => exact DexMerger.held_merge hr ih m output inputs
  | between before book kept ih => exact ih.of_isFile book kept

/-! ## A tool that refuses once -/

/-- A tool that refuses its first call. After that it writes what it is asked for, and refuses where
that cannot be written. -/
def refusesOnce : Runner Bool where
  answer command _ start refused tree :=
    match command.dexOutput? with
    | none => (.ok (ToolOutput.exited 1), true, tree)
    | some output =>
      match tree.write start output [0] with
      | .error _ => (.ok (ToolOutput.exited 1), true, tree)
      | .ok left =>
        if refused && left.isFile start output then (.ok (ToolOutput.exited 0), true, left)
        else (.ok (ToolOutput.exited 1), true, tree)

theorem refusesOnce_writesOnSuccess : refusesOnce.WritesOnSuccess := by
  have hrefuses : ∀ (command : Command) (output : Path) (start : Place) (tree : FileTree),
      ToolRun.WritesOnSuccess ⟨command, .ok (ToolOutput.exited 1), start, tree, tree⟩ output :=
    fun command output start tree =>
      ⟨fun h => absurd h (by simp [ToolRun.succeeded, ToolOutput.success, ToolOutput.exited]),
        FileTree.writes_refl _ tree⟩
  intro m output inputs limit start refused tree
  simp only [refusesOnce, Command.dexOutput?_command]
  split
  · exact hrefuses _ output start tree
  · rename_i left hwrite
    split
    · rename_i hmade
      rw [Bool.and_eq_true] at hmade
      refine ⟨fun _ => hmade.2, (FileTree.writes_write hwrite).mono ?_⟩
      rintro place ⟨hplace, -⟩
      exact ⟨rfl, hplace⟩
    · exact hrefuses _ output start tree

theorem FileTree.spares_put {t : FileTree} {place : Place} (h : t.at? place ≠ some .dir)
    (content : Bytes) (executable : Bool) : t.Spares (t.put place (.file content executable)) := by
  have hroot : place ≠ [] := by
    rintro rfl
    exact h rfl
  refine (writes_put h _).spares fun other hother => ?_
  rw [hother]
  unfold file?
  rw [at?_put_self t hroot]
  rfl

/-- The session after the library was merged twice at once, next to a directory. -/
def mergedTwice : Booked Bool :=
  ((cachingMerger.merge refusesOnce.booked ⟨"/out.dex"⟩
    [⟨"/a.jar"⟩, ⟨"/tmp"⟩, ⟨"/a.jar"⟩]).run oneLibrary).2

/-- A session with a new library under the old name. -/
def renewLibrary (σ : Booked Bool) : Booked Bool :=
  { σ with workspace := { σ.workspace with
    tree := σ.workspace.tree.put ["a.jar"] (.file [3] false) } }

theorem Sharing.renewLibrary {r : Runner Bool} {σ₀ σ : Booked Bool}
    (h : Sharing r cacheDir σ₀ σ) (hplace : σ.workspace.tree.at? ["a.jar"] ≠ some .dir) :
    Sharing r cacheDir σ₀ (renewLibrary σ) :=
  .between h rfl fun _ hfile => (FileTree.spares_put hplace [3] false).isFile hfile

/-- The session with the library that was merged twice replaced by another. -/
def renewed : Booked Bool := renewLibrary mergedTwice

/-- The session after the new library was merged twice at once. -/
def mergedAgain : Except BuildError Bool × Booked Bool :=
  (cachingMerger.merge refusesOnce.booked ⟨"/out.dex"⟩ [⟨"/a.jar"⟩, ⟨"/a.jar"⟩]).run renewed

set_option maxRecDepth 10000 in
theorem asked_mergedAgain : mergedAgain.1 = .ok true ∧ asked mergedAgain.2 =
    [(cachingMerger.command cachedLibrary [⟨"/a.jar"⟩], false),
      (cachingMerger.command cachedLibrary [⟨"/a.jar"⟩], true),
      (cachingMerger.command ⟨"/out.dex"⟩ [⟨"/a.jar"⟩, ⟨"/tmp"⟩, cachedLibrary], true),
      (cachingMerger.command (cachedFile ⟨"/c"⟩ (contentKey [3])) [⟨"/a.jar"⟩], true),
      (cachingMerger.command ⟨"/out.dex"⟩ [cachedFile ⟨"/c"⟩ (contentKey [3]),
        cachedFile ⟨"/c"⟩ (contentKey [3])], true)] := by
  decide +kernel

/-! ## The law -/

namespace DexMerger

/-- With a tool that writes its output exactly when it succeeds, a merge over a shared cache calls
the tool as a plain merge would, with one path for each input in their order: the input itself if it
is no library or could not be converted in this merge, and else the file of the cache for the
content that it has then. A content is converted only if no conversion of it has succeeded before,
in this merge or an earlier one. The merge ends with what the tool says to that call; a conversion
that fails is no error, only one that gives no answer or a cache that cannot be made. Without a
cache the call takes the inputs unchanged, and no other is made. -/
theorem cached_merging_refines_plain_merging (r : Runner ρ) (cacheDir : Path) {σ₀ σ : Booked ρ}
    (writes : r.WritesOnSuccess) (fresh : σ₀.book = []) (history : Sharing r cacheDir σ₀ σ)
    (m : DexMerger) (output : Path) (inputs : List Path) :
    ∃ result σ', (m.merge r.booked output inputs).run σ = (result, σ') ∧
      (m.merge r output inputs).run σ.unbooked = (result, σ'.unbooked) ∧
      (m.cacheDir = some cacheDir → ∃ turns,
        m.CachedMerge cacheDir output inputs σ σ' turns result ∧
        FirstTime cacheDir σ.book (turns.filterMap Turn.run?)) ∧
      (m.cacheDir = none → ∃ final : ToolRun, σ'.book = σ.book ++ [final] ∧
        final.command = m.command output inputs ∧ final.Decides result) := by
  have hheld := history.held writes fresh
  have hbooks := books_merge m r output inputs σ
  rcases hrun : (m.merge r.booked output inputs).run σ with ⟨result, σ'⟩
  rw [hrun] at hbooks
  refine ⟨result, σ', rfl, hbooks, fun hcache => ?_, fun hcache => ?_⟩
  · obtain ⟨_, _, turns, hmerge, hcached, -, hfirst⟩ := merge_of_cache writes hcache output inputs σ
    obtain ⟨rfl, rfl⟩ := Prod.mk.inj (hmerge.symm.trans hrun)
    exact ⟨turns, hcached, hfirst hheld⟩
  · obtain ⟨_, hmerge, hdecides⟩ := merge_of_none (r := r) hcache output inputs σ
    obtain ⟨rfl, rfl⟩ := Prod.mk.inj (hmerge.symm.trans hrun)
    exact ⟨_, rfl, rfl, hdecides⟩

/-- A library was converted at the second attempt and then replaced by another; the other is
converted at once, and only for the first of two inputs. -/
theorem a_renewed_library_is_converted_again :
    mergedAgain.1 = .ok true ∧
    (asked mergedAgain.2).drop 3 =
      [(cachingMerger.command (cachedFile ⟨"/c"⟩ (contentKey [3])) [⟨"/a.jar"⟩], true),
        (cachingMerger.command ⟨"/out.dex"⟩ [cachedFile ⟨"/c"⟩ (contentKey [3]),
          cachedFile ⟨"/c"⟩ (contentKey [3])], true)] ∧
    ∃ turns, cachingMerger.CachedMerge ⟨"/c"⟩ ⟨"/out.dex"⟩ [⟨"/a.jar"⟩, ⟨"/a.jar"⟩] renewed
        mergedAgain.2 turns mergedAgain.1 ∧
      FirstTime ⟨"/c"⟩ renewed.book (turns.filterMap Turn.run?) := by
  have hplace : mergedTwice.workspace.tree.at? ["a.jar"] ≠ some .dir := by decide +kernel
  have htwice : Sharing refusesOnce ⟨"/c"⟩ oneLibrary mergedTwice :=
    .merged .first cachingMerger ⟨"/out.dex"⟩ [⟨"/a.jar"⟩, ⟨"/tmp"⟩, ⟨"/a.jar"⟩]
  have hrenewed : Sharing refusesOnce ⟨"/c"⟩ oneLibrary renewed := htwice.renewLibrary hplace
  obtain ⟨hresult, hasked⟩ := asked_mergedAgain
  refine ⟨hresult, ?_, ?_⟩
  · rw [hasked]
    rfl
  · obtain ⟨result, σ', hrun, -, hcached, -⟩ := cached_merging_refines_plain_merging refusesOnce
      ⟨"/c"⟩ refusesOnce_writesOnSuccess rfl hrenewed cachingMerger ⟨"/out.dex"⟩
      [⟨"/a.jar"⟩, ⟨"/a.jar"⟩]
    have hagain : mergedAgain = (result, σ') := hrun
    rw [hagain]
    exact hcached rfl

end DexMerger

end ApkForge
