-- What a cache of runtime files serves over a whole run of calls. Whoever asks for a file gets the
-- copy that was made when it was first asked for, whatever has become of the file since. What
-- carries this is that the next copy finds its place free: of the numbers that were not given out
-- yet, nothing but directories stands in the private directory.
import ApkForge.Proofs.Clearing
import Mathlib.Data.List.Dedup

namespace ApkForge

/-! ## Paths below a directory -/

namespace Path

/-- A path that ends in a name has a file name. -/
theorem EndsInName.exists_name {p : Path} (h : p.EndsInName) : ∃ name, p.name? = some name := by
  obtain ⟨last, hlast, hname⟩ := h
  obtain ⟨front, hfront⟩ := List.getLast?_eq_some_iff.1 hlast
  have hparts : ∃ before, p.parts = before ++ [.name last] := by
    unfold parts
    rw [hfront]
    cases front with
    | nil =>
      have hidle : last ≠ "" ∧ last ≠ "." := by simpa [isIdle] using hname.1
      refine ⟨[], ?_⟩
      rw [List.nil_append, partsOf_cons (.inl hidle.1), headOf_of_ne hidle.1 hidle.2,
        partOf_of_isName hname]
      rfl
    | cons s rest =>
      refine ⟨headOf s ++ rest.filterMap partOf, ?_⟩
      rw [List.cons_append, partsOf_cons (.inr (by simp)), List.filterMap_append]
      simp [partOf_of_isName hname]
  obtain ⟨before, hbefore⟩ := hparts
  refine ⟨last, ?_⟩
  unfold name?
  rw [hbefore, List.getLast?_concat]

/-- What starts with a name is relative. -/
theorem IsPlain.relative {n : String} (h : IsPlain n) (rest : String) :
    Text.beginsWith "/" (n ++ rest) = false := by
  have hhead := h.staysBelow.1
  rw [Bool.eq_false_iff, ne_eq, Text.beginsWith_slash] at hhead ⊢
  cases hchars : n.toList with
  | nil => exact absurd (by simpa using hchars) h.ne_empty
  | cons c cs =>
    rw [hchars] at hhead
    simpa [hchars] using hhead

/-- Grown by a name, a path leads on from where it led. -/
theorem IsPlain.prefix_join {n : String} (h : IsPlain n) (p : Path) (start : Place) :
    p.place start <+: (p.join n).place start := by
  rw [place_join h.staysBelow.1]
  exact prefix_onwards h.staysBelow.2 _

/-- A path grown by two names is grown by both at once. -/
theorem join_join {n q : String} (hn : IsPlain n) (hq : Text.beginsWith "/" q = false)
    (p : Path) : (p.join n).join q = p.join (n ++ "/" ++ q) := by
  have hne := hn.ne_empty
  have hlong : Text.beginsWith "/" (n ++ "/" ++ q) = false := by
    rw [String.append_assoc]
    exact hn.relative _
  have hend : ∀ front : String, Text.endsWith "/" (front ++ n) = false := by
    intro front
    rw [Bool.eq_false_iff]
    intro hslash
    obtain ⟨other, hother⟩ := Text.endsWith_slash hslash
    have hlast := congrArg (fun s => s.toList.getLast?) hother
    cases hchars : n.toList.getLast? with
    | none => exact hne (by simpa using hchars)
    | some c =>
      have hc : c = '/' := by simpa [List.getLast?_append, hchars] using hlast
      subst hc
      exact hn.1 (List.mem_of_getLast? hchars)
  obtain ⟨text⟩ := p
  simp only [join, hn.staysBelow.1, hq, hlong, Bool.false_eq_true, if_false]
  split
  · rw [if_neg (by simp [hend, hne])]
    simp only [String.append_assoc]
  · rw [if_neg (by simp only [hend]; simp [hne])]
    simp only [String.append_assoc]

end Path

namespace FileTree

variable {t t' : FileTree} {start place : Place} {dir : Path}

theorem dir_of_step {segment : String} {next : Place} (h : t.step place segment = .ok next)
    (hne : segment ≠ "") : t.at? place = some .dir := by
  unfold step at h
  rw [if_neg (by simpa using hne), bind_eq_ok] at h
  obtain ⟨_, hstand, -⟩ := h
  exact dir_of_stand hstand

/-- Where a directory can still be reached and the steps from it can still be taken, a path grown
from it leads where it led. -/
theorem walk_join {q : String} {a b : Arrival} (hq : Text.beginsWith "/" q = false)
    (hwalk : t.walk start (dir.join q) = .ok a) (hdir : t'.walk start dir = .ok b)
    (hsteps : ∀ next, (Text.split '/' q).foldlM t.step (dir.place start) = .ok next →
      (Text.split '/' q).foldlM t'.step (dir.place start) = .ok next) :
    t'.walk start (dir.join q) = .ok a := by
  obtain ⟨hwalkable, hfold, hlast⟩ := walk_eq_ok.1 hwalk
  obtain ⟨hwalkable', hfold', -⟩ := walk_eq_ok.1 hdir
  refine walk_eq_ok.2 ⟨hwalkable, ?_, hlast⟩
  rcases Path.segments_join hq dir with ⟨hempty, -⟩ | ⟨front, ⟨back, hback⟩, hsplit, habs, hplace⟩
  · exact absurd hempty hwalkable'.1
  · rw [hsplit, List.foldlM_append, bind_eq_ok] at hfold ⊢
    rw [← hback, List.foldlM_append, bind_eq_ok] at hfold'
    obtain ⟨middle, hmiddle, hrest⟩ := hfold
    obtain ⟨middle', hmiddle', -⟩ := hfold'
    have hto : middle = dir.place start := by
      rw [foldlM_step_eq_ok hmiddle, habs]
      exact hplace start
    have hto' : middle' = dir.place start := by
      rw [foldlM_step_eq_ok hmiddle']
      exact hplace start
    subst hto
    subst hto'
    rw [habs]
    exact ⟨_, hmiddle', hsteps _ hrest⟩

theorem isDir_iff : t.isDir start dir = true ↔
    ∃ a, t.walk start dir = .ok a ∧ t.at? (dir.place start) = some .dir := by
  unfold isDir
  constructor
  · intro h
    split at h
    · rename_i there hthere
      obtain ⟨a, hwalk, hplace, hat, -⟩ := stat_eq_ok.1 hthere
      rw [← hplace, walk_place hwalk] at hat
      exact ⟨a, hwalk, hat⟩
    · cases h
  · rintro ⟨a, hwalk, hat⟩
    have hstat : t.stat start dir = .ok (dir.place start, .dir) :=
      stat_eq_ok.2 ⟨a, hwalk, walk_place hwalk, hat, .inl rfl⟩
    rw [hstat]

/-- Where all directories stay, a path that names one goes on to. -/
theorem isDir_of_dirs (hdirs : ∀ place, t.at? place = some .dir → t'.at? place = some .dir)
    (h : t.isDir start dir = true) : t'.isDir start dir = true := by
  obtain ⟨a, hwalk, hat⟩ := isDir_iff.1 h
  exact isDir_iff.2 ⟨a, walk_of_dirs hdirs hwalk, hdirs _ hat⟩

/-- A walk that takes no step up looks at nothing but what is above its end. -/
theorem foldlM_step_congr {segments : List String} {next : Place}
    (h : segments.foldlM t.step place = .ok next) (hup : ".." ∉ segments)
    (hsame : ∀ q, q <+: next → t'.at? q = t.at? q) :
    segments.foldlM t'.step place = .ok next := by
  induction segments generalizing place with
  | nil => exact h
  | cons s rest ih =>
    have habove : place <+: next := by
      rw [foldlM_step_eq_ok h]
      exact Path.prefix_onwards hup place
    rw [List.foldlM_cons, bind_eq_ok] at h ⊢
    obtain ⟨middle, hstep, hrest⟩ := h
    rw [List.mem_cons, not_or] at hup
    refine ⟨middle, ?_, ih hrest hup.2⟩
    unfold step stand at hstep ⊢
    rwa [hsame place habove]

theorem isDir_congr (hdir : t.isDir start dir = true) (hup : ".." ∉ Text.split '/' dir.text)
    (hsame : ∀ q, q <+: dir.place start → t'.at? q = t.at? q) : t'.isDir start dir = true := by
  obtain ⟨a, hwalk, hat⟩ := isDir_iff.1 hdir
  have hplace := walk_place hwalk
  obtain ⟨hwalkable, hfold, hlast⟩ := walk_eq_ok.1 hwalk
  refine isDir_iff.2 ⟨a, walk_eq_ok.2 ⟨hwalkable, ?_, hlast⟩, ?_⟩
  · refine foldlM_step_congr hfold hup ?_
    rw [hplace]
    exact hsame
  · rw [hsame _ List.prefix_rfl]
    exact hat

/-- What two names below a directory stand for stays so, while the directory can be reached and
nothing below it changes. -/
theorem stat_below {n name : String} (hn : Path.IsPlain n) (hname : Path.IsPlain name)
    {entry : Entry} (hdir : t'.isDir start dir = true)
    (hkept : ∀ q, Below (dir.place start) q → t'.at? q = t.at? q)
    (hstat : t.stat start ((dir.join n).join name) = .ok (place, entry)) :
    t'.stat start ((dir.join n).join name) = .ok (place, entry) := by
  obtain ⟨b, hwalk', hat'⟩ := isDir_iff.1 hdir
  have hsplit : Text.split '/' (n ++ "/" ++ name) = [n, name] := by
    rw [Text.split_append_slash, Text.split_of_not_mem hn.1, Text.split_of_not_mem hname.1]
    rfl
  have hrel : Text.beginsWith "/" (n ++ "/" ++ name) = false := by
    rw [String.append_assoc]
    exact hn.relative _
  have hjoin := Path.join_join hn hname.staysBelow.1 dir
  rw [hjoin] at hstat ⊢
  obtain ⟨a, hwalk, hplace, hat, hwants⟩ := stat_eq_ok.1 hstat
  have hbelow : Below (dir.place start) place := by
    rw [← hplace, walk_place hwalk, Path.place_join hrel, hsplit, Path.onwards_cons,
      Path.onwards_cons, Path.onwards_nil, Path.onward_of_isName hn.2,
      Path.onward_of_isName hname.2, List.append_assoc]
    exact ⟨List.prefix_append _ _, by simp⟩
  refine stat_eq_ok.2 ⟨a, walk_join hrel hwalk hwalk' fun next hsteps => ?_, hplace, ?_, hwants⟩
  · rw [hsplit, List.foldlM_cons, bind_eq_ok] at hsteps ⊢
    obtain ⟨middle, hfirst, hrest⟩ := hsteps
    refine ⟨middle, step_of_dir hfirst hat', ?_⟩
    rw [List.foldlM_cons, bind_eq_ok] at hrest ⊢
    obtain ⟨last, hsecond, hend⟩ := hrest
    have hmiddle : Below (dir.place start) middle := by
      rw [step_eq_ok hfirst, Path.onward_of_isName hn.2]
      exact ⟨List.prefix_append _ _, by simp⟩
    refine ⟨last, step_of_dir hsecond ?_, hend⟩
    rw [hkept middle hmiddle]
    exact dir_of_step hsecond hname.ne_empty
  · rw [hkept place hbelow]
    exact hat

/-! ## A file stored at a free place -/

/-- No file and no sink stands there. -/
def Free (t : FileTree) (place : Place) : Prop := t.at? place = none ∨ t.at? place = some .dir

/-- At a place `t'` is as `t`, or it has a directory where nothing was. -/
def Paved (t t' : FileTree) (place : Place) : Prop :=
  t'.at? place = t.at? place ∨ t.at? place = none ∧ t'.at? place = some .dir

/-- A program with this content was stored at a place where nothing was. Elsewhere directories were
made for it at most. -/
structure Stored (place : Place) (content : Bytes) (t t' : FileTree) : Prop where
  vacant : t.at? place = none
  stands : t'.at? place = some (.file content true)
  others : ∀ q, q ≠ place → Paved t t' q

theorem Paved.free (h : Paved t t' place) (hfree : t.Free place) : t'.Free place := by
  rcases h with hsame | ⟨-, hdir⟩
  · unfold Free
    rwa [hsame]
  · exact .inr hdir

theorem Paved.vacant (h : Paved t t' place) (hnone : t'.at? place = none) :
    t.at? place = none := by
  rcases h with hsame | ⟨hvacant, -⟩
  · rw [← hsame, hnone]
  · exact hvacant

/-- What stood somewhere still does. -/
theorem Paved.keeps (h : Paved t t' place) {entry : Entry} (hat : t.at? place = some entry) :
    t'.at? place = some entry := by
  rcases h with hsame | ⟨hnone, -⟩
  · rw [hsame, hat]
  · rw [hnone] at hat
    cases hat

theorem Stored.keeps {content : Bytes} (h : Stored place content t t') {q : Place} {entry : Entry}
    (hat : t.at? q = some entry) : t'.at? q = some entry := by
  refine (h.others q ?_).keeps hat
  rintro rfl
  rw [h.vacant] at hat
  cases hat

/-- Where nothing is lost, a path names what it named. -/
theorem stat_of_keeps (h : ∀ q entry, t.at? q = some entry → t'.at? q = some entry) {p : Path}
    {entry : Entry} (hstat : t.stat start p = .ok (place, entry)) :
    t'.stat start p = .ok (place, entry) := by
  obtain ⟨a, hwalk, hplace, hat, hwants⟩ := stat_eq_ok.1 hstat
  exact stat_eq_ok.2 ⟨a, walk_of_dirs (fun q => h q _) hwalk, hplace, h place entry hat, hwants⟩

/-- Directories are made of what a tree has not. -/
def paving (t₀ : FileTree) : Upkeep where
  Holds t := ∀ q, Paved t₀ t q
  Makes _ := True
  Writes _ := False
  Copies _ := False
  Removes _ := False
  same h hsame q := by unfold Paved; rw [hsame]; exact h q
  make := by
    intro t place h _ hnone _ q
    by_cases hq : q = place
    · subst hq
      have hroot : q ≠ [] := by
        rintro rfl
        cases hnone
      exact .inr ⟨(h q).vacant hnone, at?_put_self t hroot _⟩
    · unfold Paved
      rw [at?_put_of_ne t hq]
      exact h q
  write _ h := h.elim
  copy _ h := h.elim
  remove _ h := h.elim

theorem paved_makeDirs (t : FileTree) (start : Place) (p : Path) (q : Place) :
    Paved t (t.makeDirs start p).2 q :=
  Upkeep.holds_makeDirs (u := paving t) (fun _ => .inl rfl) (fun _ _ => trivial) q

/-- Where a free place can be written, there is nothing yet. -/
theorem Free.of_writable {p : Path} {entry : Entry} (hfree : t.Free (p.place start))
    (h : t.writable start p = .ok (place, entry)) : place = p.place start ∧
      t.at? place = none ∧ ∃ content executable, entry = .file content executable := by
  obtain ⟨rfl, ⟨rfl, hsink⟩ | ⟨content, executable, rfl, htakes, -⟩⟩ := takes_of_writable h
  · unfold Free at hfree
    rw [hsink] at hfree
    simp at hfree
  · refine ⟨rfl, ?_, content, executable, rfl⟩
    rcases htakes with ⟨_, _, hfile⟩ | ⟨hnone, -⟩
    · unfold Free at hfree
      rw [hfile] at hfree
      simp at hfree
    · exact hnone

/-- A file copied to a free place can be made executable, and is then stored there. -/
theorem stored_copy {t₁ t₂ : FileTree} {source target : Path} {origin : Place} {content : Bytes}
    {executable : Bool} (hpaved : ∀ q, Paved t t₁ q)
    (hsource : t.stat start source = .ok (origin, .file content executable))
    (hfree : t.Free (target.place start)) (hcopy : t₁.copy start source target = .ok t₂) :
    ∃ t₃, t₂.makeExecutable start target = .ok t₃ ∧ Stored (target.place start) content t t₃ ∧
      t₃.stat start target = .ok (target.place start, .file content true) := by
  have hsource₁ := stat_of_keeps (fun q _ => (hpaved q).keeps) hsource
  unfold copy at hcopy
  rw [bind_eq_ok] at hcopy
  obtain ⟨_, hstat, hcopy⟩ := hcopy
  rw [hsource₁] at hstat
  cases hstat
  rw [bind_eq_ok] at hcopy
  obtain ⟨⟨place, entry⟩, hwritable, hcopy⟩ := hcopy
  obtain ⟨rfl, hnone, _, _, rfl⟩ := ((hpaved _).free hfree).of_writable hwritable
  cases hcopy
  have hroot : target.place start ≠ [] := by
    intro hnil
    rw [hnil] at hnone
    cases hnone
  have horigin : target.place start ≠ origin := by
    rintro rfl
    obtain ⟨_, _, _, hat, _⟩ := stat_eq_ok.1 hsource₁
    rw [hat] at hnone
    cases hnone
  rw [if_neg horigin]
  refine ⟨t₁.put (target.place start) (.file content true), ?_, ?_,
    stat_put_of_writable hwritable _ _⟩
  · unfold makeExecutable
    rw [stat_put_of_writable hwritable]
    exact congrArg Except.ok (put_put t₁ _ _ _)
  · constructor
    case vacant => exact (hpaved _).vacant hnone
    case stands => exact at?_put_self t₁ hroot _
    case others =>
      intro q hne
      unfold Paved
      rw [at?_put_of_ne t₁ hne]
      exact hpaved q

end FileTree

/-! ## One call -/

/-- Whether a copy succeeds, the tree tells. -/
theorem Task.copy_congr {w w' : Workspace} (htree : w'.tree = w.tree) (hstart : w'.start = w.start)
    (source target : Path) :
    ((Task.copy source target).run w').1 = ((Task.copy source target).run w).1 := by
  unfold Task.copy makeParent
  split
  · rename_i dir _
    rw [run_bind, run_bind, run_makeDirs, run_makeDirs, htree, hstart]
    rcases w.tree.makeDirs w.start dir with ⟨fault | _, tree⟩
    · rfl
    · simp only [Except.mapError]
      rw [run_change, run_change]
      simp only
      cases tree.copy w.start source target with
      | error fault => rfl
      | ok copied => rfl
  · rw [run_bind, run_bind]
    change ((change _).run w').1 = ((change _).run w).1
    rw [run_change, run_change, htree, hstart]
    cases w.tree.copy w.start source target with
    | error fault => rfl
    | ok copied => rfl

namespace Resources

variable {w w' : Workspace} {logical : String}

/-- The directory of the private copy with this number. -/
def numbered (r : Resources) (i : Nat) : Path := r.scratch.join (toString i)

/-- Where copies of numbers would go that were not given out, there are directories at most. -/
def Vacant (w : Workspace) : Prop :=
  ∀ i, w.resources.copies ≤ i → ∀ place, (w.resources.numbered i).place w.start <+: place →
    w.tree.Free place

/-- How a runtime file is served: from its copy; not at all, when there is no such file; or from a
copy made now, which may fail. -/
inductive Answers (logical : String) (w : Workspace) :
    Except ResourceError Path → Workspace → Prop
  | held {p : Path} (there : w.resources.held.lookup (key logical) = some p) :
      Answers logical w (.ok p) w
  | missing (unknown : w.resources.held.lookup (key logical) = none)
      (nowhere : has logical w = false) :
      Answers logical w (.error (.notFound (key logical) (w.resources.source logical))) w
  | copied {name : String} {content : Bytes} {tree : FileTree} {p : Path}
      (path : p = w.resources.target logical)
      (unknown : w.resources.held.lookup (key logical) = none) (there : has logical w = true)
      (named : (w.resources.source logical).name? = some name)
      (found : w.tree.read w.start (w.resources.source logical) = .ok content)
      (stored : FileTree.Stored (p.place w.start) content w.tree tree)
      (leads : tree.stat w.start p = .ok (p.place w.start, .file content true)) :
      Answers logical w (.ok p) { w with
        tree,
        resources := { w.resources with
          copies := w.resources.copies + 1, held := (key logical, p) :: w.resources.held } }
  | uncopied {w' : Workspace} (there : has logical w = true) (cause : FilesError)
      (failed : ∀ u, ((Task.copy (w.resources.source logical)
        (w.resources.target logical)).run w).1 ≠ .ok u) :
      Answers logical w (.error (.notMaterialized (key logical) cause)) w'

theorem source_key (r : Resources) (logical : String) :
    r.source (key logical) = r.source logical := by
  unfold source
  rw [key_key]

theorem target_of_name {r : Resources} {name : String}
    (h : (r.source logical).name? = some name) :
    r.target logical = (r.numbered r.copies).join name := by
  unfold target
  rw [source_key, h]
  rfl

/-- The copying of a runtime file. -/
def copying (k : String) (source target : Path) : Task ResourceError Unit :=
  Task.explain (.notMaterialized k) do
    Task.copy source target
    Task.change fun start tree =>
      (tree.makeExecutable start target).mapError (.notCopied source target)

/-- A copy to a free place, if it succeeds, is made executable and stored there. -/
theorem run_copying {source target : Path} {origin : Place} {content : Bytes} {executable : Bool}
    {u : Unit} (hsource : w.tree.stat w.start source = .ok (origin, .file content executable))
    (hfree : w.tree.Free (target.place w.start))
    (hcopy : ((Task.copy source target).run w).1 = .ok u) (k : String) :
    ∃ tree, (copying k source target).run w = (.ok (), { w with tree }) ∧
      FileTree.Stored (target.place w.start) content w.tree tree ∧
      tree.stat w.start target = .ok (target.place w.start, .file content true) := by
  rcases hrun : (Task.copy source target).run w with ⟨r, w₂⟩
  rw [hrun] at hcopy
  cases hcopy
  have hparts := hrun
  unfold Task.copy at hparts
  rcases run_bind_cases hparts with ⟨e, he, hr⟩ | ⟨_, w₁, h₁, h₂⟩
  · cases hr
  obtain ⟨t₁, rfl, hpaved⟩ : ∃ t₁, w₁ = { w with tree := t₁ } ∧
      ∀ q, FileTree.Paved w.tree t₁ q := by
    unfold Task.makeParent at h₁
    split at h₁
    · rw [Task.run_makeDirs, Prod.mk.injEq] at h₁
      exact ⟨_, h₁.2.symm, FileTree.paved_makeDirs _ _ _⟩
    · cases h₁
      exact ⟨w.tree, rfl, fun q => .inl rfl⟩
  rw [Task.run_change] at h₂
  cases hcopied : t₁.copy w.start source target with
  | error fault =>
    simp only [hcopied, Except.mapError] at h₂
    cases h₂
  | ok t₂ =>
    simp only [hcopied, Except.mapError] at h₂
    cases h₂
    obtain ⟨t₃, hmake, hstored, hleads⟩ := FileTree.stored_copy hpaved hsource hfree hcopied
    refine ⟨t₃, ?_, hstored, hleads⟩
    unfold copying
    rw [Task.run_explain, run_bind, hrun]
    simp only
    rw [Task.run_change]
    simp only [hmake]
    rfl

/-- When a copy fails, that is what is said. -/
theorem run_copying_error {source target : Path} {e : FilesError}
    (hcopy : ((Task.copy source target).run w).1 = .error e) (k : String) :
    ((copying k source target).run w).1 = .error (.notMaterialized k e) := by
  unfold copying
  rw [Task.run_explain, run_bind]
  rcases hrun : (Task.copy source target).run w with ⟨r, w₂⟩
  rw [hrun] at hcopy
  simp only at hcopy
  subst hcopy
  rfl

/-- A file that is there and has no copy yet: the number is taken, then the copy is made, and then
it is remembered. -/
theorem run_get_new (unknown : w.resources.held.lookup (key logical) = none)
    (there : has logical w = true) : (get logical).run w =
      (do
        copying (key logical) (w.resources.source logical) (w.resources.target logical)
        modify fun w' => { w' with resources := { w'.resources with
          held := (key logical, w.resources.target logical) :: w.resources.held } }
        return w.resources.target logical : Task ResourceError Path).run
      { w with resources := { w.resources with copies := w.resources.copies + 1 } } := by
  have hfile : w.tree.isFile w.start (w.resources.source logical) = true := there
  unfold get copying target
  rw [run_bind, Task.run_get]
  simp only [source_key, unknown, hfile]
  rw [if_neg (by decide), run_bind, Task.run_set]

theorem run_get_missing (unknown : w.resources.held.lookup (key logical) = none)
    (nowhere : has logical w = false) : (get logical).run w =
      (.error (.notFound (key logical) (w.resources.source logical)), w) := by
  have hfile : w.tree.isFile w.start (w.resources.source logical) = false := nowhere
  unfold get
  rw [run_bind, Task.run_get]
  simp only [source_key, unknown, hfile]
  rfl

/-- A file that is there and has no copy yet is served from a new copy, unless copying fails. -/
theorem answers_new (hvacant : Vacant w) (unknown : w.resources.held.lookup (key logical) = none)
    (there : has logical w = true) {r : Except ResourceError Path}
    (h : (get logical).run w = (r, w')) : Answers logical w r w' := by
  obtain ⟨origin, content, executable, hstat⟩ := FileTree.isFile_iff.1 there
  obtain ⟨name, hname⟩ : ∃ name, (w.resources.source logical).name? = some name := by
    obtain ⟨a, hwalk, -, -, hwants⟩ := FileTree.stat_eq_ok.1 hstat
    exact (FileTree.walk_endsInName hwalk (by simpa using hwants)).exists_name
  have hfree : w.tree.Free ((w.resources.target logical).place w.start) := by
    rw [target_of_name hname]
    exact hvacant _ (Nat.le_refl _) _ ((Path.isPlain_name? hname).prefix_join _ _)
  -- of the workspace with the number taken, only the tree and the start count from here on
  obtain ⟨w₁, hw₁⟩ : ∃ w₁, w₁ = { w with
      resources := { w.resources with copies := w.resources.copies + 1 } } := ⟨_, rfl⟩
  have htree : w₁.tree = w.tree := by rw [hw₁]
  have hstart : w₁.start = w.start := by rw [hw₁]
  have hcongr := Task.copy_congr htree hstart (w.resources.source logical)
    (w.resources.target logical)
  rw [run_get_new unknown there, ← hw₁, run_bind] at h
  cases hcopy : ((Task.copy (w.resources.source logical)
      (w.resources.target logical)).run w).1 with
  | ok u =>
    rw [hcopy] at hcongr
    rw [← htree, ← hstart] at hstat hfree
    obtain ⟨tree, hrun, hstored, hleads⟩ := run_copying hstat hfree hcongr (key logical)
    rw [hrun] at h
    rw [htree, hstart] at hstat hstored
    rw [hstart] at hleads
    subst hw₁
    cases h
    exact .copied rfl unknown there hname (FileTree.read_of_stat hstat) hstored hleads
  | error cause =>
    rw [hcopy] at hcongr
    have hrun := run_copying_error hcongr (key logical)
    rcases hcopying : (copying (key logical) (w.resources.source logical)
      (w.resources.target logical)).run w₁ with ⟨r', w₂⟩
    rw [hcopying] at h hrun
    simp only at hrun
    subst hrun
    cases h
    refine .uncopied there cause fun u hu => ?_
    rw [hcopy] at hu
    cases hu

theorem answers_of_run (hvacant : Vacant w) {r : Except ResourceError Path}
    (h : (get logical).run w = (r, w')) : Answers logical w r w' := by
  cases hheld : w.resources.held.lookup (key logical) with
  | some p =>
    rw [(known_get hheld).run] at h
    cases h
    exact .held hheld
  | none =>
    cases hthere : has logical w with
    | false =>
      rw [run_get_missing hheld hthere] at h
      cases h
      exact .missing hheld hthere
    | true => exact answers_new hvacant hheld hthere h

/-! ## A run of calls -/

/-- A runtime file that was served: the name it was asked for by, the path that was given out, and
what reading the file itself gave at that time. -/
structure Serving where
  logical : String
  path : Path
  found : Except FileFault Bytes

def Serving.key (s : Serving) : String := Resources.key s.logical

/-- The keys of what was served, the last one first. -/
def keys (log : List Serving) : List String := log.map Serving.key

/-- Where calls lead from `w₀`, with all that they served, the last serving first. In between the
files may change at will, only not below the private directory, nor so that it is out of reach.
Copies are taken not to fail. Asking whether a file is there is a question, and changes nothing. -/
inductive Serves (w₀ : Workspace) : List Serving → Workspace → Prop
  | opened : Serves w₀ [] w₀
  | served {log : List Serving} {w w' : Workspace} {logical : String} {p : Path}
      (before : Serves w₀ log w) (run : (get logical).run w = (.ok p, w')) :
      Serves w₀ (⟨logical, p, w.tree.read w.start (w.resources.source logical)⟩ :: log) w'
  | refused {log : List Serving} {w w' : Workspace} {logical : String} {e : ResourceError}
      (before : Serves w₀ log w) (run : (get logical).run w = (.error e, w'))
      (copies : ∀ k cause, e ≠ .notMaterialized k cause) : Serves w₀ log w'
  | read {log : List Serving} {w : Workspace} (before : Serves w₀ log w) (logical : String) :
      Serves w₀ log ((readText logical).run w).2
  | changed {log : List Serving} {w : Workspace} (before : Serves w₀ log w) (tree : FileTree)
      (reached : tree.isDir w.start w.resources.scratch = true)
      (kept : ∀ place, Below (w.resources.scratch.place w.start) place →
        tree.at? place = w.tree.at? place) : Serves w₀ log { w with tree }

/-- Whatever happens below the root is such a change, when neither the private directory lies there
nor the root in it. -/
theorem Serves.changed_below_root {w₀ : Workspace} {log : List Serving} (h : Serves w₀ log w)
    (tree : FileTree) (hthere : w.tree.isDir w.start w.resources.scratch = true)
    (hup : ".." ∉ Text.split '/' w.resources.scratch.text)
    (hroot : ¬ w.resources.root.place w.start <+: w.resources.scratch.place w.start)
    (hscratch : ¬ w.resources.scratch.place w.start <+: w.resources.root.place w.start)
    (hsame : ∀ place, ¬ Below (w.resources.root.place w.start) place →
      tree.at? place = w.tree.at? place) : Serves w₀ log { w with tree } := by
  refine h.changed tree (FileTree.isDir_congr hthere hup fun q hq => ?_) fun q hq => ?_
  · exact hsame q fun hbelow => hroot (hbelow.1.trans hq)
  · refine hsame q fun hbelow => ?_
    rcases List.prefix_or_prefix_of_prefix hbelow.1 hq.1 with hpre | hpre
    · exact hroot hpre
    · exact hscratch hpre

/-- The cache has served nothing yet, and its private directory is empty. -/
structure Unused (w : Workspace) : Prop where
  held : w.resources.held = []
  copies : w.resources.copies = 0
  empty : ∀ place, Below (w.resources.scratch.place w.start) place → w.tree.at? place = none

/-- The first serving of a file: its copy has for number how many files were served before, and for
name that of the file; it holds what the file held then. -/
def Serving.IsFirst (s : Serving) (older : List Serving) (w : Workspace) : Prop :=
  ∃ name content, (w.resources.source s.logical).name? = some name ∧
    s.path = (w.resources.numbered (keys older).dedup.length).join name ∧
    s.found = .ok content ∧
    w.tree.stat w.start s.path = .ok (s.path.place w.start, .file content true)

/-- What the cache remembers of its servings, and what of their copies is there. -/
structure Remembered (log : List Serving) (w : Workspace) : Prop where
  known : ∀ s ∈ log, w.resources.held.lookup s.key = some s.path
  only : ∀ k p, w.resources.held.lookup k = some p → k ∈ keys log
  counted : w.resources.copies = (keys log).dedup.length
  sound : w.resources.Sound
  first : ∀ later s older, log = later ++ s :: older → s.key ∉ keys older → s.IsFirst older w
  vacant : Vacant w

theorem place_numbered (r : Resources) (i : Nat) (start : Place) :
    (r.numbered i).place start = r.scratch.place start ++ [toString i] := by
  have hplain := Path.isPlain_toString i
  unfold numbered
  rw [Path.place_join hplain.staysBelow.1, Text.split_of_not_mem hplain.1, Path.onwards_cons,
    Path.onwards_nil, Path.onward_of_isName hplain.2]

theorem below_of_numbered {r : Resources} {i : Nat} {start place : Place}
    (h : (r.numbered i).place start <+: place) : Below (r.scratch.place start) place := by
  rw [place_numbered] at h
  refine ⟨(List.prefix_append _ _).trans h, ?_⟩
  rintro rfl
  have hlength := h.length_le
  rw [List.length_append, List.length_singleton] at hlength
  omega

/-- Copies of other numbers are not below this one. -/
theorem number_of_prefix {r : Resources} {i j : Nat} {name : String} (hname : Path.IsPlain name)
    {start : Place}
    (h : (r.numbered i).place start <+: ((r.numbered j).join name).place start) : i = j := by
  have hbelow := hname.prefix_join (r.numbered j) start
  have hlength : ((r.numbered i).place start).length = ((r.numbered j).place start).length := by
    simp only [place_numbered, List.length_append, List.length_singleton]
  have heq := (List.prefix_of_prefix_length_le h hbelow hlength.le).eq_of_length hlength
  rw [place_numbered, place_numbered] at heq
  exact toString_injective (by simpa using heq)

theorem remembered_opened {w : Workspace} (h : Unused w) : Remembered [] w := by
  constructor
  case known => simp
  case only =>
    intro k p hk
    rw [h.held] at hk
    cases hk
  case counted => simp [h.copies, keys]
  case sound => exact ⟨by simp [h.held], by simp [h.held]⟩
  case first => simp
  case vacant =>
    intro i _ place hplace
    exact .inl (h.empty place (below_of_numbered hplace))

/-- Serving a file again adds nothing. -/
theorem Remembered.again {log : List Serving} (h : Remembered log w) {s : Serving}
    (there : w.resources.held.lookup s.key = some s.path) : Remembered (s :: log) w := by
  have hmem : s.key ∈ keys log := h.only _ _ there
  constructor
  case known =>
    intro t ht
    rcases List.mem_cons.1 ht with rfl | ht
    · exact there
    · exact h.known t ht
  case only => exact fun k p hk => List.mem_cons_of_mem _ (h.only k p hk)
  case counted =>
    have hcons : keys (s :: log) = s.key :: keys log := rfl
    rw [hcons, List.dedup_cons_of_mem hmem, h.counted]
  case sound => exact h.sound
  case first =>
    intro later t older heq hnew
    cases later with
    | nil =>
      cases heq
      exact absurd hmem hnew
    | cons _ later =>
      cases heq
      exact h.first later t older rfl hnew
  case vacant => exact h.vacant

/-- A file served for the first time gets the next number, and no copy is touched that was there. -/
theorem Remembered.copied {log : List Serving} (h : Remembered log w) {s : Serving} {name : String}
    {content : Bytes} {tree : FileTree}
    (unknown : w.resources.held.lookup s.key = none)
    (named : (w.resources.source s.logical).name? = some name)
    (path : s.path = (w.resources.numbered w.resources.copies).join name)
    (found : s.found = .ok content)
    (stored : FileTree.Stored (s.path.place w.start) content w.tree tree)
    (leads : tree.stat w.start s.path = .ok (s.path.place w.start, .file content true)) :
    Remembered (s :: log) { w with
      tree,
      resources := { w.resources with
        copies := w.resources.copies + 1, held := (s.key, s.path) :: w.resources.held } } := by
  have hname := Path.isPlain_name? named
  have hnew : s.key ∉ keys log := by
    intro hmem
    obtain ⟨t, ht, hkey⟩ := List.mem_map.1 hmem
    rw [← hkey, h.known t ht] at unknown
    cases unknown
  constructor
  case known =>
    intro t ht
    rcases List.mem_cons.1 ht with rfl | ht
    · exact List.lookup_cons_self
    · exact lookup_cons_of_lookup unknown (h.known t ht)
  case only =>
    intro k p hk
    by_cases hkey : k = s.key
    · subst hkey
      exact List.mem_cons_self
    · have hbeq : (k == s.key) = false := by simp [hkey]
      simp only [List.lookup_cons, hbeq] at hk
      exact List.mem_cons_of_mem _ (h.only k p hk)
  case counted =>
    have hcons : keys (s :: log) = s.key :: keys log := rfl
    rw [hcons, List.dedup_cons_of_notMem hnew, List.length_cons, ← h.counted]
  case sound => exact h.sound.copied s.key ⟨name, hname, path⟩
  case first =>
    intro later t older heq ht
    cases later with
    | nil =>
      cases heq
      refine ⟨name, content, named, ?_, found, leads⟩
      rw [← h.counted]
      exact path
    | cons _ later =>
      cases heq
      obtain ⟨name', content', hnamed, hpath, hfound, hstat⟩ := h.first later t older rfl ht
      have hkept := FileTree.stat_of_keeps (fun _ _ => stored.keeps) hstat
      exact ⟨name', content', hnamed, hpath, hfound, hkept⟩
  case vacant =>
    intro i hi place hplace
    refine (stored.others place ?_).free (h.vacant i (Nat.le_of_succ_le hi) place hplace)
    rintro rfl
    rw [path] at hplace
    have hnumber : i = w.resources.copies := number_of_prefix hname hplace
    subst hnumber
    exact absurd hi (by simp)

theorem Remembered.changed {log : List Serving} (h : Remembered log w) {tree : FileTree}
    (reached : tree.isDir w.start w.resources.scratch = true)
    (kept : ∀ place, Below (w.resources.scratch.place w.start) place →
      tree.at? place = w.tree.at? place) : Remembered log { w with tree } := by
  constructor
  case known => exact h.known
  case only => exact h.only
  case counted => exact h.counted
  case sound => exact h.sound
  case first =>
    intro later s older heq hnew
    obtain ⟨name, content, hnamed, hpath, hfound, hstat⟩ := h.first later s older heq hnew
    have hname := Path.isPlain_name? hnamed
    refine ⟨name, content, hnamed, hpath, hfound, ?_⟩
    rw [hpath] at hstat ⊢
    exact FileTree.stat_below (Path.isPlain_toString _) hname reached kept hstat
  case vacant =>
    intro i hi place hplace
    unfold FileTree.Free
    simp only
    rw [kept place (below_of_numbered hplace)]
    exact h.vacant i hi place hplace

/-- Where the cache looks for files and where it keeps its copies. -/
def SameSite (w w' : Workspace) : Prop :=
  w'.start = w.start ∧ w'.resources.root = w.resources.root ∧
    w'.resources.scratch = w.resources.scratch

/-- What is remembered holds all along a run, on the site where it started. -/
theorem Serves.remembered {w₀ w : Workspace} {log : List Serving} (h : Serves w₀ log w)
    (hunused : Unused w₀) : Remembered log w ∧ SameSite w₀ w := by
  induction h with
  | opened => exact ⟨remembered_opened hunused, rfl, rfl, rfl⟩
  | @served log w w' logical p _ run ih =>
    obtain ⟨hremembered, hsite⟩ := ih
    cases answers_of_run hremembered.vacant run with
    | held there => exact ⟨hremembered.again there, hsite⟩
    | copied path unknown there named found stored leads =>
      rw [target_of_name named] at path
      exact ⟨hremembered.copied unknown named path found stored leads, hsite⟩
  | @refused log w w' logical e _ run copies ih =>
    obtain ⟨hremembered, hsite⟩ := ih
    cases answers_of_run hremembered.vacant run with
    | missing unknown nowhere => exact ⟨hremembered, hsite⟩
    | uncopied _ cause => exact absurd rfl (copies _ cause)
  | @read log w _ logical ih =>
    rw [Upkeep.run_readText]
    exact ih
  | changed _ tree reached kept ih => exact ⟨ih.1.changed reached kept, ih.2⟩

/-- What a cache that was unused in `w₀` does after these servings. -/
structure Steady (w₀ : Workspace) (log : List Serving) (w : Workspace) : Prop where
  /-- As many copies were made as different files were served. -/
  counted : w.resources.copies = (keys log).dedup.length
  /-- Two servings gave out one path just when they were of one file. -/
  apart : ∀ s ∈ log, ∀ t ∈ log, s.path = t.path ↔ s.key = t.key
  /-- The copy of a file has for number how many files were served before, and for name that of the
  file. It holds what was read from the file when it was served first. -/
  first : ∀ later s older, log = later ++ s :: older → s.key ∉ keys older →
    ∃ name content, (w₀.resources.source s.logical).name? = some name ∧
      s.path = (w₀.resources.scratch.join (toString (keys older).dedup.length)).join name ∧
      s.found = .ok content ∧ w.tree.read w.start s.path = .ok content
  /-- A file that was served is served from its copy, and nothing is changed. -/
  again : ∀ s ∈ log, ∀ logical, key logical = s.key → (get logical).run w = (.ok s.path, w)
  /-- A file that was never served and is not there is refused, and nothing is changed. -/
  missing : ∀ logical, key logical ∉ keys log → has logical w = false →
    (get logical).run w =
      (.error (.notFound (key logical) (w₀.resources.source logical)), w)
  /-- Once it is there it is served, with one more copy, if only the copy can be made. -/
  there : ∀ logical, key logical ∉ keys log → has logical w = true →
    ((Task.copy (w₀.resources.source logical) (w.resources.target logical)).run w).1 = .ok () →
    ∃ w', (get logical).run w = (.ok (w.resources.target logical), w') ∧
      w'.resources.copies = w.resources.copies + 1

theorem Remembered.lookup_eq_none {log : List Serving} (h : Remembered log w) {k : String}
    (hnew : k ∉ keys log) : w.resources.held.lookup k = none := by
  cases hk : w.resources.held.lookup k with
  | none => rfl
  | some p => exact absurd (h.only k p hk) hnew

/-- From an unused cache every run of calls serves a file, by whatever name with its key, from the
one copy that was made when it was served first, whatever has happened to the file since; a refusal
is not remembered, and the copies are counted as they are named. -/
theorem a_runtime_file_is_served_as_it_first_was (w₀ : Workspace) (hunused : Unused w₀)
    {log : List Serving} {w : Workspace} (h : Serves w₀ log w) : Steady w₀ log w := by
  obtain ⟨hremembered, hstart, hroot, hscratch⟩ := h.remembered hunused
  have hsource : ∀ logical, w₀.resources.source logical = w.resources.source logical := by
    intro logical
    unfold source
    rw [hroot]
  have hknown : ∀ s ∈ log, Task.Known (get s.logical) s.path w :=
    fun s hs => known_get (hremembered.known s hs)
  constructor
  case counted => exact hremembered.counted
  case apart =>
    intro s hs t ht
    constructor
    · intro hpath
      by_contra hkey
      have hdiff := hremembered.sound.same_of_known (hknown s hs) (hknown t ht) hkey
      rw [hpath, Path.same_self] at hdiff
      cases hdiff
    · exact fun hkey => eq_of_known (hknown s hs) (hknown t ht) hkey
  case first =>
    intro later s older heq hnew
    obtain ⟨name, content, hname, hpath, hfound, hstat⟩ :=
      hremembered.first later s older heq hnew
    have hread := FileTree.read_of_stat hstat
    refine ⟨name, content, ?_, ?_, hfound, hread⟩
    · rw [hsource]
      exact hname
    · rw [← hscratch]
      exact hpath
  case again =>
    intro s hs logical hkey
    have hlookup := hremembered.known s hs
    rw [← hkey] at hlookup
    exact (known_get hlookup).run
  case missing =>
    intro logical hnew hnowhere
    rw [hsource]
    exact run_get_missing (hremembered.lookup_eq_none hnew) hnowhere
  case there =>
    intro logical hnew hthere hcopy
    rw [hsource] at hcopy
    rcases hrun : (get logical).run w with ⟨r, w'⟩
    have hunknown := hremembered.lookup_eq_none hnew
    cases answers_of_run hremembered.vacant hrun with
    | held there => simp [hunknown] at there
    | missing _ nowhere => simp [hthere] at nowhere
    | copied path => exact ⟨_, by rw [path], rfl⟩
    | uncopied _ cause failed => exact absurd hcopy (failed ())

/-- A host with one runtime file and an empty private directory. -/
def shelf : Workspace :=
  Workspace.opened [] ((FileTree.host.put ["rt"] .dir).put ["rt", "a.jar"] (.file [1] false))
    ⟨"/rt"⟩ ⟨"/tmp/r"⟩

theorem unused_shelf : Unused shelf := by
  refine ⟨rfl, rfl, fun place hbelow => ?_⟩
  have hentries : ∀ e ∈ shelf.tree.entries,
      ¬ Below (shelf.resources.scratch.place shelf.start) e.1 := by decide +kernel
  cases hat : shelf.tree.at? place with
  | none => rfl
  | some entry =>
    cases place with
    | nil => exact absurd hbelow (by decide +kernel)
    | cons n ns =>
      obtain ⟨front, back, heq, -⟩ := List.lookup_eq_some_iff.1 hat
      exact absurd hbelow (hentries (n :: ns, entry) (by simp [heq]))

/-- The file is served, and again after it was removed, by a name with slashes in front. -/
theorem a_runtime_file_is_served_after_it_is_gone :
    Unused shelf ∧ ∃ log w, Serves shelf log w ∧ Steady shelf log w ∧ has "a.jar" w = false ∧
      (get "//a.jar").run w = (.ok ⟨"/tmp/r/0/a.jar"⟩, w) ∧
      w.tree.read w.start ⟨"/tmp/r/0/a.jar"⟩ = .ok [1] := by
  have hrun : (get "a.jar").run shelf =
      (.ok ⟨"/tmp/r/0/a.jar"⟩, ((get "a.jar").run shelf).2) := by
    refine Prod.ext ?_ rfl
    decide +kernel
  have hserves := (Serves.served .opened hrun).changed_below_root
    (((get "a.jar").run shelf).2.tree.drop ["rt", "a.jar"]) (by decide +kernel) (by decide +kernel)
    (by decide +kernel) (by decide +kernel) fun place haway => by
      refine FileTree.at?_drop_of_ne _ ?_
      rintro rfl
      exact haway (by decide +kernel)
  have hsteady := a_runtime_file_is_served_as_it_first_was shelf unused_shelf hserves
  refine ⟨unused_shelf, _, _, hserves, hsteady, by decide +kernel, ?_, ?_⟩
  · exact hsteady.again _ List.mem_cons_self "//a.jar" (by decide +kernel)
  · obtain ⟨name, content, -, -, hfound, hread⟩ := hsteady.first [] _ [] rfl (by simp [keys])
    have hone : shelf.tree.read shelf.start (shelf.resources.source "a.jar") = .ok [1] := by
      decide +kernel
    rw [hone] at hfound
    cases hfound
    exact hread

end Resources

end ApkForge
