-- What the cache of converted libraries holds. A file in the cache is taken for the conversion of
-- every library with its key, so it matters who wrote it. While conversions that fail leave the
-- cache alone, whatever a merge takes from it was left by a conversion that succeeded; a conversion
-- that fails over a half-written file is enough to break this.
import ApkForge.Proofs.Ledger
import ApkForge.Proofs.Tasks
import ApkForge.Proofs.Uses
import ApkForge.Rehearsal

namespace ApkForge

variable {ρ α β : Type}

/-! ## Places in a cache -/

namespace DexMerger

theorem slash_not_mem_contentKey (content : Bytes) : '/' ∉ (contentKey content).toList := by
  have hdigit : ∀ n < 16, Sha256.hexChar n ≠ '/' := by decide
  intro h
  simp only [contentKey, Sha256.hex, String.toList_ofList] at h
  obtain ⟨b, -, hb⟩ := List.mem_flatMap.1 (List.mem_of_mem_take h)
  have hlt := b.toNat_lt
  simp only [List.mem_cons, List.not_mem_nil, or_false] at hb
  rcases hb with hb | hb
  · exact hdigit _ (by omega) hb.symm
  · exact hdigit _ (by omega) hb.symm

/-- The place of a content in the cache at a place. -/
def cachePlace (dir : Place) (content : Bytes) : Place := dir ++ [contentKey content ++ ".jar"]

theorem place_cachedFile (cacheDir : Path) (content : Bytes) (start : Place) :
    (cachedFile cacheDir (contentKey content)).place start =
      cachePlace (cacheDir.place start) content := by
  have hslash : '/' ∉ (contentKey content ++ ".jar").toList := by
    have := slash_not_mem_contentKey content
    simpa using this
  have hlong : ∀ short : String, short.length ≤ 2 → contentKey content ++ ".jar" ≠ short := by
    rintro short hshort rfl
    have hjar : ".jar".length = 4 := by decide
    rw [String.length_append] at hshort
    omega
  have hname : Path.IsName (contentKey content ++ ".jar") := by
    refine ⟨?_, hlong ".." (by decide)⟩
    simp [Path.isIdle, hlong "." (by decide)]
  have hstays := Path.staysBelow_of_segment hslash hname.2
  unfold cachedFile cachePlace
  rw [Path.place_join hstays.1, Text.split_of_not_mem hslash, Path.onwards_cons,
    Path.onward_of_isName hname, Path.onwards_nil]

/-- Two places in caches are one only for one cache and one key. -/
theorem cachePlace_inj {dir dir' : Place} {content content' : Bytes}
    (h : cachePlace dir content = cachePlace dir' content') :
    dir = dir' ∧ contentKey content = contentKey content' := by
  unfold cachePlace at h
  obtain ⟨hdir, hname⟩ := List.append_inj' h (by simp)
  refine ⟨hdir, ?_⟩
  have := congrArg String.toList (List.singleton_inj.1 hname)
  simp only [String.toList_append, List.append_cancel_right_eq] at this
  exact String.toList_injective this

end DexMerger

open DexMerger (cachedFile cachePlace contentKey)

/-! ## Runs that fill a cache -/

/-- The run converted a library into a cache under the key of its content, and succeeded. -/
structure ToolRun.Converts (run : ToolRun) (dir : Place) (key : String) : Prop where
  asked : ∃ (m : DexMerger) (cacheDir input : Path) (content : Bytes),
    run.command = m.command (cachedFile cacheDir key) [input] ∧
    cacheDir.place run.start = dir ∧ run.before.read run.start input = .ok content ∧
    contentKey content = key
  succeeded : run.succeeded = true

/-- A booked run that converted a content left this file for it in the cache. -/
def Vouched (book : List ToolRun) (dir : Place) (content : Bytes) (file : Bytes × Bool) : Prop :=
  ∃ run ∈ book, run.Converts dir (contentKey content) ∧
    run.after.file? (cachePlace dir content) = some file

/-- Every file of the cache was left there by a booked run that converted it. -/
def Sound (dir : Place) (σ : Booked ρ) : Prop :=
  ∀ content file, σ.workspace.tree.file? (cachePlace dir content) = some file →
    Vouched σ.book dir content file

/-- A tool that converts changes a file of the cache only where that is its output and it
succeeds. -/
def Runner.KeepsCache (r : Runner ρ) (dir start : Place) : Prop :=
  ∀ (m : DexMerger) (output : Path) (inputs : List Path) (limit : Option Nat) (tools : ρ)
    (tree : FileTree) (content : Bytes),
    (r.answer (m.command output inputs) limit start tools tree).2.2.file?
        (cachePlace dir content) ≠ tree.file? (cachePlace dir content) →
      output.place start = cachePlace dir content ∧
      ∃ result, (r.answer (m.command output inputs) limit start tools tree).1 = .ok result ∧
        result.success = true

/-! ## Steps that keep a cache sound -/

/-- From one session to a later one: the book has grown, and new in the cache is only what a booked
run vouches for. -/
structure Advances (dir : Place) (σ σ' : Booked ρ) : Prop where
  start : σ'.workspace.start = σ.workspace.start
  book : σ.book <+: σ'.book
  cache : ∀ content file, σ'.workspace.tree.file? (cachePlace dir content) = some file →
    σ.workspace.tree.file? (cachePlace dir content) = some file ∨
      Vouched σ'.book dir content file

namespace Advances

variable {dir : Place} {σ σ' σ'' : Booked ρ}

theorem refl (dir : Place) (σ : Booked ρ) : Advances dir σ σ :=
  ⟨rfl, List.prefix_rfl, fun _ _ h => .inl h⟩

theorem vouched (h : σ.book <+: σ'.book) {content : Bytes} {file : Bytes × Bool}
    (hv : Vouched σ.book dir content file) : Vouched σ'.book dir content file := by
  obtain ⟨run, hrun, hconverts, hfile⟩ := hv
  exact ⟨run, h.subset hrun, hconverts, hfile⟩

theorem trans (h : Advances dir σ σ') (h' : Advances dir σ' σ'') : Advances dir σ σ'' := by
  refine ⟨h'.start.trans h.start, h.book.trans h'.book, fun content file hfile => ?_⟩
  rcases h'.cache content file hfile with hold | hnew
  · rcases h.cache content file hold with hold | hnew
    · exact .inl hold
    · exact .inr (vouched h'.book hnew)
  · exact .inr hnew

/-- A sound cache stays sound. -/
theorem sound (h : Advances dir σ σ') (hs : Sound dir σ) : Sound dir σ' := by
  intro content file hfile
  rcases h.cache content file hfile with hold | hnew
  · exact vouched h.book (hs content file hold)
  · exact hnew

/-- A step that calls no tool and leaves the cache alone. -/
theorem of_same (hstart : σ'.workspace.start = σ.workspace.start) (hbook : σ'.book = σ.book)
    (hcache : ∀ content, σ'.workspace.tree.file? (cachePlace dir content) =
      σ.workspace.tree.file? (cachePlace dir content)) : Advances dir σ σ' := by
  refine ⟨hstart, hbook ▸ List.prefix_rfl, fun content file hfile => .inl ?_⟩
  rw [← hcache content]
  exact hfile

end Advances

/-- The run that a session books when it asks for a command. -/
def Runner.runOf (r : Runner ρ) (command : Command) (seconds : Nat) (σ : Booked ρ) : ToolRun :=
  let w := σ.workspace
  let answered := r.answer command (some (1000 * seconds)) w.start σ.tools.1 w.tree
  ⟨command, answered.1, w.start, w.tree, answered.2.2⟩

theorem Runner.book_asked (r : Runner ρ) (command : Command) (seconds : Nat) (σ : Booked ρ) :
    (r.booked.asked command seconds σ).2.book = σ.book ++ [r.runOf command seconds σ] := rfl

theorem Runner.tree_asked (r : Runner ρ) (command : Command) (seconds : Nat) (σ : Booked ρ) :
    (r.booked.asked command seconds σ).2.workspace.tree =
      (r.runOf command seconds σ).after := rfl

variable {r : Runner ρ} {dir : Place} {σ : Booked ρ}

/-- A call of the tool keeps the cache sound, when it converts whatever it puts there. -/
theorem advances_asked (hkeeps : r.KeepsCache dir σ.workspace.start) (m : DexMerger)
    (output : Path) (inputs : List Path) (seconds : Nat)
    (hconverts : ∀ content, output.place σ.workspace.start = cachePlace dir content →
      (r.runOf (m.command output inputs) seconds σ).succeeded = true →
      (r.runOf (m.command output inputs) seconds σ).Converts dir (contentKey content)) :
    Advances dir σ (r.booked.asked (m.command output inputs) seconds σ).2 := by
  refine ⟨rfl, ⟨_, (r.book_asked _ _ _).symm⟩, fun content file hfile => ?_⟩
  rw [r.tree_asked] at hfile
  by_cases hsame : (r.runOf (m.command output inputs) seconds σ).after.file?
      (cachePlace dir content) = σ.workspace.tree.file? (cachePlace dir content)
  · exact .inl (hsame ▸ hfile)
  · obtain ⟨hplace, result, hanswer, hsuccess⟩ := hkeeps m output inputs _ _ _ content hsame
    have hsucceeded : (r.runOf (m.command output inputs) seconds σ).succeeded = true := by
      unfold ToolRun.succeeded Runner.runOf
      simp only
      rw [hanswer]
      exact hsuccess
    refine .inr ⟨_, ?_, hconverts content hplace hsucceeded, hfile⟩
    rw [r.book_asked]
    exact List.mem_append_right _ (List.mem_singleton_self _)

/-! ## Preparing an input -/

namespace DexMerger

theorem run_isCacheable (input : Path) (σ : Session ρ) : (isCacheable input).run σ =
    (.ok (σ.workspace.tree.isFile σ.workspace.start input && input.extension? == some "jar"),
      σ) := rfl

theorem run_cacheKey (input : Path) (w : Workspace) : (cacheKey input).run w =
    (match w.tree.read w.start input with
      | .ok content => .ok (contentKey content)
      | .error fault => .error (.stage .dx (.files (.notRead input fault))), w) := by
  unfold cacheKey
  rw [run_bind, Task.run_explain, Task.run_readBytes]
  cases w.tree.read w.start input <;> rfl

/-- The command converts a library into the cache of `m`. -/
def IsPredexCommand (m : DexMerger) (command : Command) : Prop :=
  ∃ cacheDir content input, m.cacheDir = some cacheDir ∧
    command = m.command (cachedFile cacheDir (contentKey content)) [input]

/-- Preparing inputs keeps the cache sound, and books only conversions into the cache of `m`. -/
structure Readies (m : DexMerger) (dir : Place) (σ σ' : Booked ρ) : Prop where
  advances : Advances dir σ σ'
  predexes : ∃ added, σ'.book = σ.book ++ added ∧ ∀ run ∈ added, m.IsPredexCommand run.command

theorem Readies.refl (m : DexMerger) (dir : Place) (σ : Booked ρ) : Readies m dir σ σ :=
  ⟨Advances.refl dir σ, [], by simp, by simp⟩

theorem Readies.trans {m : DexMerger} {σ σ' σ'' : Booked ρ} (h : Readies m dir σ σ')
    (h' : Readies m dir σ' σ'') : Readies m dir σ σ'' := by
  obtain ⟨added, hbook, hpredex⟩ := h.predexes
  obtain ⟨added', hbook', hpredex'⟩ := h'.predexes
  refine ⟨h.advances.trans h'.advances, added ++ added', ?_, fun run hrun => ?_⟩
  · rw [hbook', hbook, List.append_assoc]
  · rcases List.mem_append.1 hrun with hrun | hrun
    · exact hpredex run hrun
    · exact hpredex' run hrun

/-- A session with the directories of a path made. -/
def withDirs (σ : Booked ρ) (p : Path) : Booked ρ :=
  { σ with workspace := { σ.workspace with
    tree := (σ.workspace.tree.makeDirs σ.workspace.start p).2 } }

theorem run_onFiles_makeDirs (stage : Stage) (p : Path) (σ : Booked ρ) :
    ((Step.onFiles stage (Task.makeDirs p) : Step (ρ × List ToolRun) Unit).run σ).2 =
      withDirs σ p := by
  unfold Step.onFiles Step.within
  rw [Step.run_work, Task.run_explain, Task.run_explain, Task.run_makeDirs]
  rfl

/-- Directories made for the cache change nothing in it. -/
theorem readies_withDirs (m : DexMerger) (σ : Booked ρ) (p : Path) :
    Readies m dir σ (withDirs σ p) := by
  refine ⟨Advances.of_same rfl rfl fun content => ?_, [], (List.append_nil _).symm, by simp⟩
  exact (FileTree.writes_makeDirs _ _ p).files _ fun h => h

/-- A library that is converted is a file with the content that its key was taken from. -/
theorem readies_call (hkeeps : r.KeepsCache dir σ.workspace.start) {m : DexMerger}
    {cacheDir : Path} (hcache : m.cacheDir = some cacheDir) {input : Path} {content : Bytes}
    (hread : σ.workspace.tree.read σ.workspace.start input = .ok content) :
    Readies m dir σ (r.booked.asked
      (m.command (cachedFile cacheDir (contentKey content)) [input]) m.seconds σ).2 := by
  refine ⟨advances_asked hkeeps m _ _ m.seconds fun content' hplace hsucceeded => ?_,
    [r.runOf (m.command (cachedFile cacheDir (contentKey content)) [input]) m.seconds σ],
    r.book_asked _ _ _, fun run hrun => ?_⟩
  · rw [place_cachedFile] at hplace
    obtain ⟨hdir, hkey⟩ := cachePlace_inj hplace
    rw [← hkey]
    exact ⟨⟨m, cacheDir, input, content, rfl, hdir, hread, rfl⟩, hsucceeded⟩
  · rw [List.mem_singleton.1 hrun]
    exact ⟨cacheDir, content, input, hcache, rfl⟩

/-- What the cache of `m` holds in a tree stands for an input. -/
def TakenFrom (m : DexMerger) (start : Place) (tree : FileTree) (path : Path) : Prop :=
  ∃ cacheDir content file, m.cacheDir = some cacheDir ∧
    path = cachedFile cacheDir (contentKey content) ∧
    tree.file? (cachePlace (cacheDir.place start) content) = some file

theorem takenFrom_of_isFile {m : DexMerger} {cacheDir : Path}
    (hcache : m.cacheDir = some cacheDir) {start : Place} {tree : FileTree} {content : Bytes}
    (h : tree.isFile start (cachedFile cacheDir (contentKey content)) = true) :
    m.TakenFrom start tree (cachedFile cacheDir (contentKey content)) := by
  obtain ⟨place, held, executable, hstat⟩ := FileTree.isFile_iff.1 h
  obtain ⟨a, hwalk, hplace, hat, -⟩ := FileTree.stat_eq_ok.1 hstat
  have hthere := FileTree.walk_place hwalk
  rw [hplace, place_cachedFile] at hthere
  refine ⟨cacheDir, content, (held, executable), hcache, rfl, ?_⟩
  rw [← hthere, FileTree.file?, hat]

theorem run_choose (made : Bool) (cached input : Path) (σ : Session ρ) :
    (do
      if made && (← Step.work (Task.isFile cached)) then return cached
      else return input : Step ρ Path).run σ =
    (.ok (if made && σ.workspace.tree.isFile σ.workspace.start cached then cached else input),
      σ) := by
  cases made with
  | false => rfl
  | true =>
    simp only [Bool.true_and]
    rw [run_bind, Step.run_work, Task.run_isFile]
    simp only
    cases σ.workspace.tree.isFile σ.workspace.start cached <;> rfl

/-- A library that the cache does not hold is converted into it. -/
theorem convert_readies (hkeeps : r.KeepsCache dir σ.workspace.start) {m : DexMerger}
    {cacheDir : Path} (hcache : m.cacheDir = some cacheDir) {input : Path} {place : Place}
    {content : Bytes} {executable : Bool}
    (hstat : σ.workspace.tree.stat σ.workspace.start input =
      .ok (place, .file content executable)) {result : Except BuildError Path} {σ' : Booked ρ}
    (hrun : (do
      Step.onFiles .dx (Task.makeDirs cacheDir)
      let output ← Step.call r.booked .dx
        (m.command (cachedFile cacheDir (contentKey content)) [input]) m.seconds
      if output.success &&
          (← Step.work (Task.isFile (cachedFile cacheDir (contentKey content)))) then
        return cachedFile cacheDir (contentKey content)
      else return input : Step (ρ × List ToolRun) Path).run σ = (result, σ')) :
    Readies m dir σ σ' ∧ ∀ path, result = .ok path → path = input ∨
      m.TakenFrom σ.workspace.start σ'.workspace.tree path := by
  have hdirs := run_onFiles_makeDirs .dx cacheDir σ
  have hmade : Readies m dir σ (withDirs σ cacheDir) := readies_withDirs m σ cacheDir
  rcases run_bind_cases hrun with ⟨e, h, rfl⟩ | ⟨_, σ₁, h, hrun⟩
  · rw [h] at hdirs
    simp only at hdirs
    rw [hdirs]
    exact ⟨hmade, by simp⟩
  rw [h] at hdirs
  simp only at hdirs
  subst hdirs
  -- the input is the file that it was, so its content still has the key
  have hread : (withDirs σ cacheDir).workspace.tree.read σ.workspace.start input =
      .ok content :=
    FileTree.read_of_stat ((FileTree.writes_makeDirs _ _ cacheDir).stat_file hstat fun h => h)
  have hcalled := hmade.trans (readies_call (by exact hkeeps) hcache (by exact hread))
  rcases run_bind_cases hrun with ⟨e, h, rfl⟩ | ⟨output, σ₂, h, hrun⟩
  · rw [Step.run_call] at h
    obtain ⟨-, rfl⟩ := Prod.mk.inj h
    exact ⟨hcalled, by simp⟩
  rw [Step.run_call] at h
  obtain ⟨-, rfl⟩ := Prod.mk.inj h
  rw [run_choose] at hrun
  obtain ⟨rfl, rfl⟩ := Prod.mk.inj hrun
  refine ⟨hcalled, fun path hpath => ?_⟩
  rw [← Except.ok.inj hpath]
  split
  · rename_i htaken
    rw [Bool.and_eq_true, hcalled.advances.start] at htaken
    exact .inr (takenFrom_of_isFile hcache htaken.2)
  · exact .inl rfl

/-- An input is prepared: nothing but conversions into the cache is done, and the input is replaced
by nothing but a file of the cache that is there. -/
theorem prepare_readies (hkeeps : r.KeepsCache dir σ.workspace.start) {m : DexMerger}
    {input : Path} {result : Except BuildError Path} {σ' : Booked ρ}
    (hrun : (m.prepare r.booked input).run σ = (result, σ')) :
    Readies m dir σ σ' ∧ ∀ path, result = .ok path → path = input ∨
      m.TakenFrom σ.workspace.start σ'.workspace.tree path := by
  -- whatever is given without a call
  have hgiven : ∀ given : Path, (given = input ∨
      m.TakenFrom σ.workspace.start σ.workspace.tree given) →
      (pure given : Step (ρ × List ToolRun) Path).run σ = (result, σ') →
      Readies m dir σ σ' ∧ ∀ path, result = .ok path → path = input ∨
        m.TakenFrom σ.workspace.start σ'.workspace.tree path := by
    intro given hgood h
    rw [run_pure] at h
    obtain ⟨rfl, rfl⟩ := Prod.mk.inj h
    refine ⟨Readies.refl m dir σ, fun path hpath => ?_⟩
    rw [← Except.ok.inj hpath]
    exact hgood
  unfold prepare at hrun
  split at hrun
  · exact hgiven input (.inl rfl) hrun
  rename_i cacheDir hcache
  rw [run_bind, run_isCacheable] at hrun
  simp only at hrun
  split at hrun
  · exact hgiven input (.inl rfl) hrun
  rename_i hcacheable
  simp only [Bool.not_eq_true, Bool.not_eq_false', Bool.and_eq_true] at hcacheable
  obtain ⟨place, content, executable, hstat⟩ := FileTree.isFile_iff.1 hcacheable.1
  rw [run_bind, Step.run_work, run_cacheKey, FileTree.read_of_stat hstat] at hrun
  simp only at hrun
  rw [run_bind, Step.run_work, Task.run_isFile] at hrun
  simp only at hrun
  split at hrun
  · rename_i hhit
    exact hgiven _ (.inr (takenFrom_of_isFile hcache hhit)) hrun
  · exact convert_readies hkeeps hcache hstat hrun

/-- What stands for an input is the input, or the file of a content that a booked run converted. -/
def Stood (m : DexMerger) (dir start : Place) (book : List ToolRun) (input path : Path) : Prop :=
  path = input ∨ ∃ cacheDir content, m.cacheDir = some cacheDir ∧
    path = cachedFile cacheDir (contentKey content) ∧
    (cacheDir.place start = dir → ∃ run ∈ book, run.Converts dir (contentKey content))

theorem Stood.mono {m : DexMerger} {start : Place} {book book' : List ToolRun}
    {input path : Path} (h : m.Stood dir start book input path) (hbook : book <+: book') :
    m.Stood dir start book' input path := by
  rcases h with h | ⟨cacheDir, content, hcache, hpath, hconverted⟩
  · exact .inl h
  · refine .inr ⟨cacheDir, content, hcache, hpath, fun hdir => ?_⟩
    obtain ⟨run, hrun, hconverts⟩ := hconverted hdir
    exact ⟨run, hbook.subset hrun, hconverts⟩

/-- What is taken from a sound cache was converted. -/
theorem stood_of_sound (hs : Sound dir σ) {m : DexMerger} {input path : Path}
    (h : path = input ∨ m.TakenFrom σ.workspace.start σ.workspace.tree path) :
    m.Stood dir σ.workspace.start σ.book input path := by
  rcases h with h | ⟨cacheDir, content, file, hcache, hpath, hfile⟩
  · exact .inl h
  · refine .inr ⟨cacheDir, content, hcache, hpath, fun hdir => ?_⟩
    rw [hdir] at hfile
    obtain ⟨run, hrun, hconverts, -⟩ := hs content file hfile
    exact ⟨run, hrun, hconverts⟩

/-- Inputs are prepared one after the other. -/
theorem prepareAll_readies {m : DexMerger} {inputs : List Path} {σ σ' : Booked ρ}
    {result : Except BuildError (List Path)} (hkeeps : r.KeepsCache dir σ.workspace.start)
    (hrun : (inputs.mapM (m.prepare r.booked)).run σ = (result, σ')) :
    Readies m dir σ σ' ∧ (Sound dir σ → ∀ prepared, result = .ok prepared →
      List.Forall₂ (m.Stood dir σ.workspace.start σ'.book) inputs prepared) := by
  induction inputs generalizing σ σ' result with
  | nil =>
    obtain ⟨rfl, rfl⟩ := Prod.mk.inj hrun
    refine ⟨Readies.refl m dir σ, fun _ prepared hprepared => ?_⟩
    rw [← Except.ok.inj hprepared]
    exact .nil
  | cons input rest ih =>
    rw [List.mapM_cons] at hrun
    rcases run_bind_cases hrun with ⟨e, h, rfl⟩ | ⟨path, σ₁, h, hrun⟩
    · exact ⟨(prepare_readies hkeeps h).1, by simp⟩
    obtain ⟨hfirst, hpath⟩ := prepare_readies hkeeps h
    have hstart := hfirst.advances.start
    rw [← hstart] at hkeeps
    rcases run_bind_cases hrun with ⟨e, h, rfl⟩ | ⟨others, σ₂, h, hrun⟩
    · exact ⟨hfirst.trans (ih hkeeps h).1, by simp⟩
    obtain ⟨hrest, hothers⟩ := ih hkeeps h
    rw [run_pure] at hrun
    obtain ⟨rfl, rfl⟩ := Prod.mk.inj hrun
    refine ⟨hfirst.trans hrest, fun hs prepared hprepared => ?_⟩
    rw [← Except.ok.inj hprepared]
    have hsound := hfirst.advances.sound hs
    rw [← hstart] at hpath ⊢
    exact .cons ((stood_of_sound hsound (hpath path rfl)).mono hrest.advances.book)
      (hothers hsound others rfl)

/-! ## Merging -/

/-- What a call of the tool takes for an input: the input itself, or the file of a content that a
booked run converted; and the file that the call finds there is one that a booked run left. -/
def Trusted (m : DexMerger) (dir : Place) (book : List ToolRun) (call : ToolRun)
    (input path : Path) : Prop :=
  path = input ∨ ∃ cacheDir content, m.cacheDir = some cacheDir ∧
    path = cachedFile cacheDir (contentKey content) ∧
    (cacheDir.place call.start = dir →
      (∃ run ∈ book, run.Converts dir (contentKey content)) ∧
      ∀ file, call.before.file? (cachePlace dir content) = some file →
        Vouched book dir content file)

/-- A call of a merge converts a library into the cache, or makes the container from trusted
files. -/
def TrustedCall (m : DexMerger) (dir : Place) (output : Path) (inputs : List Path)
    (book : List ToolRun) (call : ToolRun) : Prop :=
  m.IsPredexCommand call.command ∨ ∃ prepared, call.command = m.command output prepared ∧
    List.Forall₂ (m.Trusted dir book call) inputs prepared

/-- A merge whose container lies outside the cache keeps the cache sound and takes nothing from it
that was not converted. -/
theorem merge_advances (hkeeps : r.KeepsCache dir σ.workspace.start) (m : DexMerger)
    {output : Path} (houtside : ∀ content, output.place σ.workspace.start ≠ cachePlace dir content)
    (inputs : List Path) :
    Advances dir σ ((m.merge r.booked output inputs).run σ).2 ∧
      ∃ added, ((m.merge r.booked output inputs).run σ).2.book = σ.book ++ added ∧
        (Sound dir σ → ∀ call ∈ added, m.TrustedCall dir output inputs
          ((m.merge r.booked output inputs).run σ).2.book call) := by
  unfold merge
  rw [Step.run_noting]
  rcases hrun : (do
      let prepared ← inputs.mapM (m.prepare r.booked)
      let result ← Step.call r.booked .dx (m.command output prepared) m.seconds
      return result.success : Step (ρ × List ToolRun) Bool).run σ with ⟨result, σ'⟩
  have hnoted : Advances dir σ' (σ'.add (.merged output inputs result)) :=
    Advances.of_same rfl rfl fun _ => rfl
  suffices hall : Advances dir σ σ' ∧ ∃ added, σ'.book = σ.book ++ added ∧
      (Sound dir σ → ∀ call ∈ added, m.TrustedCall dir output inputs σ'.book call) from
    ⟨hall.1.trans hnoted, hall.2⟩
  have hpredexes : ∀ {added book : List ToolRun}, (∀ run ∈ added, m.IsPredexCommand run.command) →
      ∀ call ∈ added, m.TrustedCall dir output inputs book call :=
    fun h call hcall => .inl (h call hcall)
  rcases run_bind_cases hrun with ⟨e, h, rfl⟩ | ⟨prepared, σ₁, h, hrun⟩
  · obtain ⟨⟨hadvances, added, hbook, hpredex⟩, -⟩ := prepareAll_readies hkeeps h
    exact ⟨hadvances, added, hbook, fun _ => hpredexes hpredex⟩
  obtain ⟨⟨hadvances, added, hbook, hpredex⟩, hstood⟩ := prepareAll_readies hkeeps h
  have hstart := hadvances.start
  rw [← hstart] at hkeeps houtside
  have hcalled := advances_asked hkeeps m output prepared m.seconds
    fun content hplace => absurd hplace (houtside content)
  have hlast : σ' = (r.booked.asked (m.command output prepared) m.seconds σ₁).2 := by
    rcases run_bind_cases hrun with ⟨e, h, -⟩ | ⟨answer, σ₂, h, hrun⟩
    · rw [Step.run_call] at h
      exact (Prod.mk.inj h).2.symm
    · rw [Step.run_call] at h
      rw [run_pure] at hrun
      rw [← (Prod.mk.inj hrun).2, ← (Prod.mk.inj h).2]
  rw [hlast]
  refine ⟨hadvances.trans hcalled, added ++ [r.runOf (m.command output prepared) m.seconds σ₁],
    ?_, fun hs call hcall => ?_⟩
  · rw [r.book_asked, hbook, List.append_assoc]
  rcases List.mem_append.1 hcall with hcall | hcall
  · exact .inl (hpredex call hcall)
  rw [List.mem_singleton.1 hcall]
  refine .inr ⟨prepared, rfl, ?_⟩
  -- what the call finds in the cache is what was there after all inputs were prepared
  have hsound := hadvances.sound hs
  refine (hstood hs prepared rfl).imp fun input path hstands => ?_
  rcases hstands.mono hcalled.book with h | ⟨cacheDir, content, hcache, hpath, hconverted⟩
  · exact .inl h
  · refine .inr ⟨cacheDir, content, hcache, hpath, fun hdir => ?_⟩
    refine ⟨hconverted (hstart ▸ hdir), fun file hfile => ?_⟩
    exact Advances.vouched hcalled.book (hsound content file hfile)

end DexMerger

/-! ## Merges over time -/

/-- The sessions that builds over one cache come to: a merge may follow with any settings, as long
as its container lies outside the cache, and between merges all may happen that leaves the cache and
the book alone. -/
inductive History (r : Runner ρ) (dir : Place) (σ₀ : Booked ρ) : Booked ρ → Prop where
  | first : History r dir σ₀ σ₀
  | merged {σ : Booked ρ} (before : History r dir σ₀ σ) (m : DexMerger) (output : Path)
      (outside : ∀ content, output.place σ.workspace.start ≠ cachePlace dir content)
      (inputs : List Path) : History r dir σ₀ ((m.merge r.booked output inputs).run σ).2
  | between {σ σ' : Booked ρ} (before : History r dir σ₀ σ)
      (start : σ'.workspace.start = σ.workspace.start) (book : σ'.book = σ.book)
      (cache : ∀ content, σ'.workspace.tree.file? (cachePlace dir content) =
        σ.workspace.tree.file? (cachePlace dir content)) : History r dir σ₀ σ'

/-- Over all its builds a cache stays sound. -/
theorem History.advances {σ₀ : Booked ρ} (hkeeps : r.KeepsCache dir σ₀.workspace.start)
    (h : History r dir σ₀ σ) : Advances dir σ₀ σ := by
  induction h with
  | first => exact Advances.refl dir σ₀
  | merged before m output outside inputs ih =>
    rw [← ih.start] at hkeeps
    exact ih.trans (m.merge_advances hkeeps outside inputs).1
  | between before start book cache ih => exact ih.trans (Advances.of_same start book cache)

/-! ## A tool that fails once -/

/-- The path that a conversion names as its output. -/
def Command.dexOutput? (c : Command) : Option Path :=
  (c.args[4]?.bind fun arg => Text.dropHead? "--output=".toList arg.toList).map fun text =>
    ⟨String.ofList text⟩

theorem Command.dexOutput?_command (m : DexMerger) (output : Path) (inputs : List Path) :
    (m.command output inputs).dexOutput? = some output := by
  have hdrop : Text.dropHead? "--output=".toList ("--output=" ++ output.text).toList =
      some output.text.toList := by
    rw [Text.dropHead?_eq_some, String.toList_append]
  have harg : (m.command output inputs).args[4]? = some ("--output=" ++ output.text) := rfl
  unfold dexOutput?
  rw [harg]
  simp only [Option.bind_some, hdrop, Option.map_some, String.ofList_toList]

/-- A tool that fails the first time that it is called. Its output is left even then, unless it
cleans up. -/
def failsOnce (cleansUp : Bool) : Runner Bool where
  answer command _ start failed tree :=
    let left := match command.dexOutput? with
      | some output => Rehearsal.leave start tree output
      | none => tree
    if failed then (.ok (ToolOutput.exited 0), true, left)
    else (.ok (ToolOutput.exited 1), true, if cleansUp then tree else left)

theorem writes_leave (start : Place) (t : FileTree) (p : Path) :
    FileTree.Writes (FileTree.Target start p) t (Rehearsal.leave start t p) := by
  have hparent : FileTree.Writes (FileTree.Target start p) t (match p.parent? with
      | some parent => (t.makeDirs start parent).2
      | none => t) := by
    split
    · exact (FileTree.writes_makeDirs t start _).mono fun _ h => h.elim
    · exact FileTree.writes_refl _ t
  unfold Rehearsal.leave
  simp only
  split
  · rename_i tree hwrite
    exact hparent.trans (FileTree.writes_write hwrite)
  · exact hparent

/-- A tool that cleans up keeps a cache. -/
theorem failsOnce_keepsCache (dir start : Place) : (failsOnce true).KeepsCache dir start := by
  intro m output inputs limit failed tree content hchanged
  simp only [failsOnce, Command.dexOutput?_command] at hchanged ⊢
  cases failed with
  | false => exact absurd rfl hchanged
  | true =>
    simp only [if_true] at hchanged ⊢
    have htarget := (writes_leave start tree output).of_changed hchanged
    exact ⟨htarget.1.symm, ToolOutput.exited 0, rfl, by decide⟩

/-- A session with one library and an empty cache. -/
def oneLibrary : Booked Bool where
  workspace := Workspace.opened [] (FileTree.host.put ["a.jar"] (.file [1, 2] false)) ⟨"/rt"⟩
    ⟨"/tmp/r"⟩
  tools := (false, [])

/-- A merger with a cache. -/
def cachingMerger : DexMerger where
  java := ⟨"java"⟩
  dxJar := ⟨"dx.jar"⟩
  heap := 1
  seconds := 1
  cacheDir := some ⟨"/c"⟩

/-- The session after the library was merged a number of times. -/
def afterMerges (cleansUp : Bool) : Nat → Booked Bool
  | 0 => oneLibrary
  | n + 1 =>
    ((cachingMerger.merge (failsOnce cleansUp).booked (Path.join ⟨"/"⟩ "out.dex")
      [⟨"/a.jar"⟩]).run (afterMerges cleansUp n)).2

theorem afterMerges_succ (cleansUp : Bool) (n : Nat) : afterMerges cleansUp (n + 1) =
    ((cachingMerger.merge (failsOnce cleansUp).booked (Path.join ⟨"/"⟩ "out.dex")
      [⟨"/a.jar"⟩]).run (afterMerges cleansUp n)).2 := rfl

/-- Conversions with different outputs are different commands. -/
theorem command_output {m m' : DexMerger} {output output' : Path} {inputs inputs' : List Path}
    (h : m.command output inputs = m'.command output' inputs') : output = output' := by
  have := congrArg Command.dexOutput? h
  rw [Command.dexOutput?_command, Command.dexOutput?_command] at this
  exact Option.some.inj this

/-- What was asked of the tools of a session, and whether it succeeded. -/
def asked (σ : Booked Bool) : List (Command × Bool) :=
  σ.book.map fun run => (run.command, run.succeeded)

/-- The library's file in the cache. -/
def cachedLibrary : Path := cachedFile ⟨"/c"⟩ (contentKey [1, 2])

set_option maxRecDepth 10000 in
theorem asked_messy : asked (afterMerges false 2) =
    [(cachingMerger.command cachedLibrary [⟨"/a.jar"⟩], false),
      (cachingMerger.command (Path.join ⟨"/"⟩ "out.dex") [⟨"/a.jar"⟩], true),
      (cachingMerger.command (Path.join ⟨"/"⟩ "out.dex") [cachedLibrary], true)] := by
  decide +kernel

set_option maxRecDepth 10000 in
theorem asked_clean : asked (afterMerges true 3) =
    [(cachingMerger.command cachedLibrary [⟨"/a.jar"⟩], false),
      (cachingMerger.command (Path.join ⟨"/"⟩ "out.dex") [⟨"/a.jar"⟩], true),
      (cachingMerger.command cachedLibrary [⟨"/a.jar"⟩], true),
      (cachingMerger.command (Path.join ⟨"/"⟩ "out.dex") [cachedLibrary], true),
      (cachingMerger.command (Path.join ⟨"/"⟩ "out.dex") [cachedLibrary], true)] := by
  decide +kernel

theorem FileTree.file?_eq_none {t : FileTree} {place : Place} (hroot : place ≠ [])
    (h : ∀ e ∈ t.entries, e.1 ≠ place) : t.file? place = none := by
  have hat : t.at? place = none := by
    cases place with
    | nil => exact absurd rfl hroot
    | cons name rest =>
      refine List.lookup_eq_none_iff.2 fun e he => ?_
      simpa using (h e he).symm
  rw [FileTree.file?, hat]

/-- The cache is empty at first. -/
theorem sound_oneLibrary : Sound ["c"] oneLibrary := by
  have hentries : ∀ e ∈ oneLibrary.workspace.tree.entries, e.1.head? ≠ some "c" := by decide +kernel
  intro content file hfile
  have hnone : oneLibrary.workspace.tree.file? (cachePlace ["c"] content) = none := by
    refine FileTree.file?_eq_none (by simp [cachePlace]) fun e he heq => hentries e he ?_
    rw [heq]
    rfl
  rw [hnone] at hfile
  cases hfile

/-- The container of the merges lies outside every cache. -/
theorem outside_container (dir : Place) (content : Bytes) :
    (Path.join ⟨"/"⟩ "out.dex").place [] ≠ cachePlace dir content := by
  have hplace : (Path.join ⟨"/"⟩ "out.dex").place [] = ["out.dex"] := by decide
  rw [hplace]
  intro h
  obtain ⟨-, hname⟩ := List.append_inj' (show [] ++ ["out.dex"] = _ from h) (by simp)
  have := congrArg (fun name : String => name.toList.getLast?) (List.singleton_inj.1 hname)
  simp at this

/-! ## The law -/

namespace DexMerger

/-- Where tools change a cache only by conversions that succeed, a cache that is sound at first
stays sound over all builds that share it, and each later merge takes for each input the input
itself or the file of a content that a conversion that succeeded left there under its key. The book
by which this is said changes nothing about the merge. -/
theorem a_merge_takes_only_what_was_converted (r : Runner ρ) (dir : Place) {σ₀ σ : Booked ρ}
    (keeps : r.KeepsCache dir σ₀.workspace.start) (sound : Sound dir σ₀)
    (history : History r dir σ₀ σ) (m : DexMerger) (output : Path)
    (outside : ∀ content, output.place σ.workspace.start ≠ cachePlace dir content)
    (inputs : List Path) :
    (m.merge r output inputs).run σ.unbooked =
      (((m.merge r.booked output inputs).run σ).1,
        ((m.merge r.booked output inputs).run σ).2.unbooked) ∧
    Sound dir ((m.merge r.booked output inputs).run σ).2 ∧
    ∃ added, ((m.merge r.booked output inputs).run σ).2.book = σ.book ++ added ∧
      ∀ call ∈ added, m.TrustedCall dir output inputs
        ((m.merge r.booked output inputs).run σ).2.book call := by
  have hhistory := history.advances keeps
  have hsound := hhistory.sound sound
  rw [← hhistory.start] at keeps
  obtain ⟨hadvances, added, hbook, htrusted⟩ := m.merge_advances keeps outside inputs
  exact ⟨books_merge m r output inputs σ, hadvances.sound hsound, added, hbook, htrusted hsound⟩

/-- A tool that fails over a half-written file leaves it to the next merge, which takes it although
nothing was ever converted under its key. -/
theorem a_failed_conversion_is_taken_by_the_next_merge :
    Sound ["c"] oneLibrary ∧
    (∃ call ∈ (afterMerges false 2).book,
      call.command = cachingMerger.command (Path.join ⟨"/"⟩ "out.dex") [cachedLibrary]) ∧
    ¬ ∃ run ∈ (afterMerges false 2).book, run.Converts ["c"] (contentKey [1, 2]) := by
  refine ⟨sound_oneLibrary, ?_, ?_⟩
  · have hmem : (cachingMerger.command (Path.join ⟨"/"⟩ "out.dex") [cachedLibrary], true) ∈
        asked (afterMerges false 2) := by
      rw [asked_messy]
      simp
    obtain ⟨call, hcall, heq⟩ := List.mem_map.1 hmem
    exact ⟨call, hcall, congrArg Prod.fst heq⟩
  · rintro ⟨run, hrun, ⟨m, cacheDir, input, content, hcommand, -, -, -⟩, hsucceeded⟩
    have hmem : (run.command, run.succeeded) ∈ asked (afterMerges false 2) :=
      List.mem_map_of_mem hrun
    rw [asked_messy, hsucceeded, hcommand] at hmem
    -- what succeeded made the container
    have houtput : cachedFile cacheDir (contentKey [1, 2]) = Path.join ⟨"/"⟩ "out.dex" := by
      simp only [List.mem_cons, Prod.mk.injEq, List.not_mem_nil, Bool.true_eq_false, and_false,
        and_true, or_false, false_or] at hmem
      rcases hmem with h | h
      · exact command_output h
      · exact command_output h
    exact Use.cachedFile_ne_join cacheDir ⟨"/"⟩ _ "out.dex" (by decide) houtput

/-- After a conversion that failed and one that succeeded, the next merge takes the library from the
cache, and what it takes was converted. -/
theorem a_merge_takes_a_library_that_was_converted :
    (asked (afterMerges true 3)).getLast? =
      some (cachingMerger.command (Path.join ⟨"/"⟩ "out.dex") [cachedLibrary], true) ∧
    Sound ["c"] (afterMerges true 3) ∧
    ∃ added, (afterMerges true 3).book = (afterMerges true 2).book ++ added ∧
      ∀ call ∈ added, cachingMerger.TrustedCall ["c"] (Path.join ⟨"/"⟩ "out.dex") [⟨"/a.jar"⟩]
        (afterMerges true 3).book call := by
  have hkeeps : (failsOnce true).KeepsCache ["c"] oneLibrary.workspace.start :=
    failsOnce_keepsCache ["c"] []
  have houtside : ∀ {σ}, History (failsOnce true) ["c"] oneLibrary σ → ∀ content,
      (Path.join ⟨"/"⟩ "out.dex").place σ.workspace.start ≠ cachePlace ["c"] content := by
    intro σ h content
    rw [(h.advances hkeeps).start]
    exact outside_container ["c"] content
  have hhistory : ∀ n, History (failsOnce true) ["c"] oneLibrary (afterMerges true n) := by
    intro n
    induction n with
    | zero => exact .first
    | succ n ih => exact .merged ih _ _ (houtside ih) _
  obtain ⟨-, hsound, hadded⟩ := a_merge_takes_only_what_was_converted (failsOnce true) ["c"]
    hkeeps sound_oneLibrary (hhistory 2) cachingMerger (Path.join ⟨"/"⟩ "out.dex")
    (houtside (hhistory 2)) [⟨"/a.jar"⟩]
  rw [← afterMerges_succ true 2] at hsound hadded
  refine ⟨?_, hsound, hadded⟩
  rw [asked_clean]
  rfl

end DexMerger

end ApkForge
