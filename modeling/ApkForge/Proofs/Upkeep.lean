-- A property of trees that work on them keeps. It is given together with the edits that keep it:
-- where directories may be made, where files may be written or replaced by copies, and where they
-- may be removed. Work that edits nowhere else keeps the property, whether it succeeds or not.
import ApkForge.Proofs.Containment
import ApkForge.Proofs.Failures
import Mathlib.Data.List.DropRight

namespace ApkForge

variable {ε δ S ρ α β : Type}

/-! ## Parents -/

namespace Path

/-- `q` is `p` or one of the directories above it, as they are told by the text of `p`. -/
inductive Above : Path → Path → Prop
  | self (p : Path) : Above p p
  | parent {p d q : Path} (holds : p.parent? = some d) (above : Above d q) : Above p q

end Path

/-! ## Edits -/

namespace FileTree

/-- A file stands at a place, or nothing does but a directory is there to hold it. -/
def Takes (t : FileTree) (place : Place) : Prop :=
  (∃ content executable, t.at? place = some (.file content executable)) ∨
    t.at? place = none ∧ t.at? place.dropLast = some .dir

/-- A file of a place is a program. -/
def HasProgram (t : FileTree) (place : Place) : Prop :=
  ∃ content, t.at? place = some (.file content true)

theorem dir_of_stand {t : FileTree} {place : Place} {u : Unit} (h : t.stand place = .ok u) :
    t.at? place = some .dir := by
  unfold stand at h
  split at h
  · assumption
  · cases h
  · cases h

/-- Putting back what stands at a place changes nothing. -/
theorem at?_put_same {t : FileTree} {place : Place} {entry : Entry} (h : t.at? place = some entry)
    (p : Place) : (t.put place entry).at? p = t.at? p := by
  by_cases hp : p = place
  · subst hp
    cases p with
    | nil => rfl
    | cons n ns => rw [at?_put_self t (by simp), h]
  · exact at?_put_of_ne t hp entry

/-- Of two things put at one place the later stays. -/
theorem put_put (t : FileTree) (place : Place) (first second : Entry) :
    (t.put place first).put place second = t.put place second := by
  unfold put
  simp [List.filter_filter]

/-- What can be written is the sink or a file, and a program stays one. -/
theorem takes_of_writable {t : FileTree} {start : Place} {p : Path} {place : Place} {entry : Entry}
    (h : t.writable start p = .ok (place, entry)) : place = p.place start ∧
      ((entry = .sink ∧ t.at? place = some .sink) ∨ ∃ content executable,
        entry = .file content executable ∧ t.Takes place ∧
          (t.HasProgram place → executable = true)) := by
  have hplace := (target_of_writable h).1.1
  refine ⟨hplace, ?_⟩
  obtain ⟨a, hwalk, hat, hwants, hne, hthere⟩ := writable_eq_ok h
  rcases hthere with hthere | ⟨hnone, rfl⟩
  · cases entry with
    | dir => exact absurd rfl hne
    | sink => exact .inl ⟨rfl, hthere⟩
    | file content executable =>
      refine .inr ⟨content, executable, rfl, .inl ⟨content, executable, hthere⟩, ?_⟩
      rintro ⟨content', hprogram⟩
      rw [hthere] at hprogram
      cases hprogram
      rfl
  · refine .inr ⟨[], false, rfl, .inr ⟨hnone, ?_⟩, ?_⟩
    · unfold writable at h
      rw [bind_eq_ok] at h
      obtain ⟨a', hwalk', h⟩ := h
      rw [hwalk] at hwalk'
      cases hwalk'
      rw [hat, hnone] at h
      simp only at h
      rw [bind_eq_ok] at h
      obtain ⟨_, hstand, -⟩ := h
      exact dir_of_stand hstand
    · rintro ⟨content, hprogram⟩
      rw [hnone] at hprogram
      cases hprogram

/-- A file that was put where one could be written is found there. -/
theorem stat_put_of_writable {t : FileTree} {start : Place} {p : Path} {place : Place}
    {entry : Entry} (h : t.writable start p = .ok (place, entry)) (content : Bytes)
    (executable : Bool) : (t.put place (.file content executable)).stat start p =
      .ok (place, .file content executable) := by
  obtain ⟨a, hwalk, hplace, hwants, -, -⟩ := writable_eq_ok h
  have hnodir := (target_of_writable h).2
  have hroot : place ≠ [] := by
    rintro rfl
    exact hnodir rfl
  exact stat_eq_ok.2 ⟨a, walk_of_dirs (writes_put hnodir _).dirs hwalk, hplace,
    at?_put_self t hroot _, .inr hwants⟩

end FileTree

/-- A property of trees with the edits that keep it. -/
structure Upkeep where
  Holds : FileTree → Prop
  Makes : Place → Prop
  Writes : Place → Prop
  Copies : Place → Prop
  Removes : Place → Prop
  same : ∀ {t t' : FileTree}, Holds t → (∀ place, t'.at? place = t.at? place) → Holds t'
  make : ∀ {t : FileTree} {place : Place}, Holds t → Makes place → t.at? place = none →
    t.at? place.dropLast = some .dir → Holds (t.put place .dir)
  write : ∀ {t : FileTree} {place : Place} {content : Bytes} {executable : Bool}, Holds t →
    Writes place → t.Takes place → (t.HasProgram place → executable = true) →
    Holds (t.put place (.file content executable))
  copy : ∀ {t : FileTree} {place : Place} {content : Bytes} {executable : Bool}, Holds t →
    Copies place → t.Takes place → Holds (t.put place (.file content executable))
  remove : ∀ {t : FileTree} {place : Place}, Holds t → Removes place →
    t.at? place ≠ some .dir → Holds (t.drop place)

namespace Upkeep

variable (u : Upkeep) {t t' : FileTree} {start : Place} {p : Path}

/-- Directories may be made all the way to a path. -/
def Paves (start : Place) (p : Path) : Prop := ∀ q, p.Above q → u.Makes (q.place start)

/-- A file may be written to a path, with the directories above it. -/
def Hosts (start : Place) (p : Path) : Prop :=
  (∀ d, p.parent? = some d → u.Paves start d) ∧ u.Writes (p.place start)

/-- A file may be copied to a path, with the directories above it. -/
def Lodges (start : Place) (p : Path) : Prop :=
  (∀ d, p.parent? = some d → u.Paves start d) ∧ u.Copies (p.place start)

variable {u}

theorem holds_makeDir (h : u.Holds t) (hp : u.Makes (p.place start))
    (hmade : t.makeDir start p = .ok t') : u.Holds t' := by
  unfold FileTree.makeDir at hmade
  rw [FileTree.bind_eq_ok] at hmade
  obtain ⟨a, hwalk, hmade⟩ := hmade
  have hplace := FileTree.walk_place hwalk
  split at hmade
  · cases hmade
  · rename_i hnone
    rw [FileTree.bind_eq_ok] at hmade
    obtain ⟨_, hstand, hmade⟩ := hmade
    cases hmade
    rw [hplace] at hnone hstand ⊢
    exact u.make h hp hnone (FileTree.dir_of_stand hstand)

/-- Making directories makes those above a path before the path itself. -/
theorem holds_makeDirsIn {fuel : Nat} (h : u.Holds t) (hp : u.Paves start p) :
    u.Holds (FileTree.makeDirsIn start fuel t p).2 := by
  induction fuel generalizing t p with
  | zero => exact h
  | succ fuel ih =>
    have hself : u.Makes (p.place start) := hp p (.self p)
    unfold FileTree.makeDirsIn
    split
    · exact h
    · simp only
      split
      · rename_i made hmade
        exact holds_makeDir h hself hmade
      · split
        · exact h
        · rename_i above hparent
          have habove := ih h fun q hq => hp q (.parent hparent hq)
          split
          · rename_i made hmade
            rw [hmade] at habove
            split
            · rename_i again hagain
              exact holds_makeDir habove hself hagain
            · split
              · exact habove
              · exact habove
          · rename_i fault made hmade
            rw [hmade] at habove
            exact habove
      · split
        · exact h
        · exact h

theorem holds_makeDirs (h : u.Holds t) (hp : u.Paves start p) :
    u.Holds (t.makeDirs start p).2 := holds_makeDirsIn h hp

theorem holds_write {content : Bytes} (h : u.Holds t) (hp : u.Writes (p.place start))
    (hwrite : t.write start p content = .ok t') : u.Holds t' := by
  unfold FileTree.write at hwrite
  rw [FileTree.bind_eq_ok] at hwrite
  obtain ⟨⟨place, entry⟩, hwritable, hwrite⟩ := hwrite
  cases hwrite
  obtain ⟨rfl, ⟨rfl, hsink⟩ | ⟨old, executable, rfl, htakes, hprogram⟩⟩ :=
    FileTree.takes_of_writable hwritable
  · exact u.same h (FileTree.at?_put_same hsink)
  · exact u.write h hp htakes hprogram

/-- A copy onto the sink leaves the tree as it was; another puts a file where one could be
written. -/
theorem copy_eq_ok {source : Path} (hcopy : t.copy start source p = .ok t') :
    (t' = t ∧ ∃ place, t.stat start p = .ok (place, .sink)) ∨
      ∃ entry content executable, t.writable start p = .ok (p.place start, entry) ∧
        t.Takes (p.place start) ∧ t' = t.put (p.place start) (.file content executable) := by
  unfold FileTree.copy at hcopy
  rw [FileTree.bind_eq_ok] at hcopy
  obtain ⟨⟨origin, from_⟩, -, hcopy⟩ := hcopy
  split at hcopy
  · rename_i content executable heq
    rw [FileTree.bind_eq_ok] at hcopy
    obtain ⟨⟨place, entry⟩, hwritable, hcopy⟩ := hcopy
    obtain ⟨rfl, ⟨rfl, hsink⟩ | ⟨old, was, rfl, htakes, -⟩⟩ :=
      FileTree.takes_of_writable hwritable
    · cases hcopy
      obtain ⟨a, hwalk, hplace, hwants, -, -⟩ := FileTree.writable_eq_ok hwritable
      exact .inl ⟨rfl, _, FileTree.stat_eq_ok.2 ⟨a, hwalk, hplace, hsink, .inr hwants⟩⟩
    · cases hcopy
      exact .inr ⟨_, _, _, hwritable, htakes, rfl⟩
  · cases hcopy

theorem holds_copy {source : Path} (h : u.Holds t) (hp : u.Copies (p.place start))
    (hcopy : t.copy start source p = .ok t') : u.Holds t' := by
  rcases copy_eq_ok hcopy with ⟨rfl, -⟩ | ⟨entry, content, executable, -, htakes, rfl⟩
  · exact h
  · exact u.copy h hp htakes

/-- A copy can be made executable, and what is there then is a program. -/
theorem holds_copy_makeExecutable {source : Path} (h : u.Holds t) (hp : u.Writes (p.place start))
    (hcopy : t.copy start source p = .ok t') :
    ∃ t'', t'.makeExecutable start p = .ok t'' ∧ u.Holds t'' := by
  rcases copy_eq_ok hcopy with ⟨rfl, place, hstat⟩ |
    ⟨entry, content, executable, hwritable, htakes, rfl⟩
  · refine ⟨t', ?_, h⟩
    unfold FileTree.makeExecutable
    rw [hstat]
    rfl
  · refine ⟨t.put (p.place start) (.file content true), ?_, u.write h hp htakes fun _ => rfl⟩
    unfold FileTree.makeExecutable
    rw [FileTree.stat_put_of_writable hwritable]
    exact congrArg Except.ok (FileTree.put_put t _ _ _)

theorem holds_removeFile (h : u.Holds t) (hp : u.Removes (p.place start))
    (hremove : t.removeFile start p = .ok t') : u.Holds t' := by
  unfold FileTree.removeFile at hremove
  rw [FileTree.bind_eq_ok] at hremove
  obtain ⟨⟨place, entry⟩, hstat, hremove⟩ := hremove
  obtain ⟨a, hwalk, hplace, hat, -⟩ := FileTree.stat_eq_ok.1 hstat
  subst hplace
  rw [FileTree.walk_place hwalk] at hat hremove
  cases entry with
  | dir => cases hremove
  | file content executable =>
    cases hremove
    exact u.remove h hp (by simp [hat])
  | sink =>
    cases hremove
    exact u.remove h hp (by simp [hat])

end Upkeep

/-! ## Work that keeps a property -/

/-- From a state with `I` the work leads to one with `I`, and when it fails there, then on an error
with `E`. -/
def Safe (I : S → Prop) (E : ε → Prop) (x : ExceptT ε (StateM S) α) : Prop :=
  ∀ s, I s → I (x.run s).2 ∧ ∀ e, (x.run s).1 = .error e → E e

section

variable {I : S → Prop} {E : ε → Prop} {E' : δ → Prop} {x : ExceptT ε (StateM S) α}

theorem safe_pure (a : α) : Safe I E (pure a : ExceptT ε (StateM S) α) := by
  refine fun s hs => ⟨hs, ?_⟩
  rintro _ ⟨⟩

theorem safe_throw {e : ε} (h : E e) : Safe I E (throw e : ExceptT ε (StateM S) α) := by
  refine fun s hs => ⟨hs, ?_⟩
  rintro _ ⟨⟩
  exact h

theorem safe_get : Safe I E (get : ExceptT ε (StateM S) S) := by
  refine fun s hs => ⟨hs, ?_⟩
  rintro _ ⟨⟩

/-- What follows may rely on what came out. -/
theorem Safe.bind_of {f : α → ExceptT ε (StateM S) β} {P : α → Prop} (hx : Safe I E x)
    (hy : ∀ s a, I s → (x.run s).1 = .ok a → P a) (hf : ∀ a, P a → Safe I E (f a)) :
    Safe I E (x >>= f) := by
  intro s hs
  have hfirst := hx s hs
  rw [run_bind]
  rcases hr : x.run s with ⟨e | a, s'⟩
  · rw [hr] at hfirst
    refine ⟨hfirst.1, ?_⟩
    rintro _ ⟨⟩
    exact hfirst.2 e rfl
  · rw [hr] at hfirst
    exact hf a (hy s a hs (by rw [hr])) s' hfirst.1

theorem Safe.bind {f : α → ExceptT ε (StateM S) β} (hx : Safe I E x)
    (hf : ∀ a, Safe I E (f a)) : Safe I E (x >>= f) :=
  hx.bind_of (P := fun _ => True) (fun _ _ _ _ => trivial) fun a _ => hf a

/-- Work that leaves the state alone. -/
theorem safe_of_read (hsame : ∀ s, (x.run s).2 = s) (hE : ∀ s, I s → ∀ e, (x.run s).1 = .error e →
    E e) : Safe I E x := fun s hs => ⟨by rwa [hsame], hE s hs⟩

/-- Work of which only the state matters, whatever its end. -/
theorem Safe.tried (hx : Safe I E x) :
    Safe I E' (liftM (x.run : StateM S (Except ε α)) : ExceptT δ (StateM S) (Except ε α)) := by
  refine fun s hs => ⟨(hx s hs).1, ?_⟩
  rintro _ ⟨⟩

theorem Safe.adapt {f : ε → δ} (hx : Safe I E x)
    (himp : ∀ e, E e → E' (f e)) : Safe I E' (ExceptT.adapt f x) := by
  intro s hs
  obtain ⟨hI, hE⟩ := hx s hs
  refine ⟨hI, fun e he => ?_⟩
  change (x.run s).1.mapError f = .error e at he
  cases hr : (x.run s).1 with
  | ok a =>
    rw [hr] at he
    cases he
  | error e' =>
    rw [hr] at he
    cases he
    exact himp e' (hE e' hr)

theorem safe_forM {f : α → ExceptT ε (StateM S) PUnit} {as : List α}
    (h : ∀ a ∈ as, Safe I E (f a)) : Safe I E (as.forM f) := by
  induction as with
  | nil => exact safe_pure _
  | cons a as ih =>
    exact (h a List.mem_cons_self).bind fun _ => ih fun b hb => h b (List.mem_cons_of_mem _ hb)

theorem safe_mapM {f : α → ExceptT ε (StateM S) β} {as : List α}
    (h : ∀ a ∈ as, Safe I E (f a)) : Safe I E (as.mapM f) := by
  induction as with
  | nil => exact safe_pure _
  | cons a as ih =>
    rw [List.mapM_cons]
    exact (h a List.mem_cons_self).bind fun _ =>
      (ih fun b hb => h b (List.mem_cons_of_mem _ hb)).bind fun _ => safe_pure _

end

/-! ## Tasks -/

/-- A key is its own key. -/
theorem Resources.key_key (logical : String) : key (key logical) = key logical := by
  unfold key
  rw [String.toList_ofList, List.dropWhile_idempotent _ _]

/-- Where a build works: where paths start, where runtime files are and where they are copied to. -/
structure Site where
  start : Place
  root : Path
  scratch : Path

namespace Upkeep

/-- The workspace is on the site, and its tree has the property. -/
structure At (u : Upkeep) (site : Site) (w : Workspace) : Prop where
  start : w.start = site.start
  root : w.resources.root = site.root
  scratch : w.resources.scratch = site.scratch
  tree : u.Holds w.tree

variable {u : Upkeep} {site : Site} {E : ε → Prop}

theorem safe_change {f : Place → FileTree → Except ε FileTree}
    (h : ∀ t t', u.Holds t → f site.start t = .ok t' → u.Holds t')
    (hE : ∀ t e, f site.start t = .error e → E e) : Safe (u.At site) E (Task.change f) := by
  intro w hw
  rw [Task.run_change]
  cases hf : f w.start w.tree with
  | error e =>
    refine ⟨hw, ?_⟩
    rintro _ ⟨⟩
    rw [hw.start] at hf
    exact hE _ _ hf
  | ok tree =>
    refine ⟨⟨hw.start, hw.root, hw.scratch, ?_⟩, ?_⟩
    · rw [hw.start] at hf
      exact h _ _ hw.tree hf
    · rintro _ ⟨⟩

/-- Faults of files alone. -/
abbrev AnyFault (_ : FilesError) : Prop := True

theorem safe_makeDirs {p : Path} (hp : u.Paves site.start p) :
    Safe (u.At site) AnyFault (Task.makeDirs p) := by
  intro w hw
  rw [Task.run_makeDirs]
  refine ⟨⟨hw.start, hw.root, hw.scratch, ?_⟩, fun _ _ => trivial⟩
  rw [hw.start]
  exact holds_makeDirs hw.tree hp

theorem safe_makeParent {p : Path} (hp : ∀ d, p.parent? = some d → u.Paves site.start d) :
    Safe (u.At site) AnyFault (Task.makeParent p) := by
  unfold Task.makeParent
  split
  · rename_i d hd
    exact safe_makeDirs (hp d hd)
  · exact safe_pure _

theorem safe_writeBytes {p : Path} (hp : u.Hosts site.start p) (content : Bytes) :
    Safe (u.At site) AnyFault (Task.writeBytes p content) := by
  unfold Task.writeBytes
  refine (safe_makeParent hp.1).bind fun _ => safe_change (fun t t' ht h => ?_) fun _ _ _ => trivial
  exact holds_write ht hp.2 (Task.mapError_eq_ok.1 h)

theorem safe_writeText {p : Path} (hp : u.Hosts site.start p) (text : String) :
    Safe (u.At site) AnyFault (Task.writeText p text) := safe_writeBytes hp _

theorem safe_copy {p : Path} (hp : u.Lodges site.start p) (source : Path) :
    Safe (u.At site) AnyFault (Task.copy source p) := by
  unfold Task.copy
  refine (safe_makeParent hp.1).bind fun _ => safe_change (fun t t' ht h => ?_) fun _ _ _ => trivial
  exact holds_copy ht hp.2 (Task.mapError_eq_ok.1 h)

theorem safe_removeFile {p : Path} (hp : u.Removes (p.place site.start)) :
    Safe (u.At site) AnyFault (Task.removeFile p) := by
  unfold Task.removeFile Task.ask
  refine (safe_get.bind fun _ => safe_pure _).bind fun there => ?_
  split
  · refine safe_change (fun t t' ht h => ?_) fun _ _ _ => trivial
    exact holds_removeFile ht hp (Task.mapError_eq_ok.1 h)
  · exact safe_pure _

/-- Work that leaves the tree and the site alone. -/
theorem safe_of_same {x : Task ε α} (h : ∀ w, (x.run w).2.start = w.start ∧
      (x.run w).2.resources.root = w.resources.root ∧
      (x.run w).2.resources.scratch = w.resources.scratch ∧ (x.run w).2.tree = w.tree)
    (hE : ∀ w, u.At site w → ∀ e, (x.run w).1 = .error e → E e) : Safe (u.At site) E x := by
  intro w hw
  obtain ⟨hstart, hroot, hscratch, htree⟩ := h w
  refine ⟨⟨hstart.trans hw.start, hroot.trans hw.root, hscratch.trans hw.scratch, ?_⟩, hE w hw⟩
  rw [htree]
  exact hw.tree

theorem safe_readBytes (p : Path) : Safe (u.At site) AnyFault (Task.readBytes p) := by
  intro w hw
  rw [Task.run_readBytes]
  exact ⟨hw, fun _ _ => trivial⟩

theorem safe_readText (p : Path) : Safe (u.At site) AnyFault (Task.readText p) := by
  unfold Task.readText
  refine safe_get.bind fun w => ?_
  split
  · exact safe_pure _
  · exact safe_throw trivial

/-! ## Runtime files -/

/-- A runtime file is missing in some tree with the property. -/
def Lacks (u : Upkeep) (site : Site) (logical : String) : Prop :=
  ∃ t, u.Holds t ∧ t.isFile site.start (site.root.join (Resources.key logical)) = false

/-- An error that tells of a missing file tells of this one, and it may be missing. -/
def Misses (u : Upkeep) (site : Site) (logical : String) (e : ResourceError) : Prop :=
  ∀ k p, e = .notFound k p → k = Resources.key logical ∧ u.Lacks site logical

/-- Private copies may be made. -/
def Stocks (u : Upkeep) (site : Site) : Prop :=
  ∀ (n : Nat) name, Path.IsPlain name →
    u.Hosts site.start ((site.scratch.join (toString n)).join name)

/-- The copy itself ends as a program, if it does not fail. -/
theorem safe_copyTo {p : Path} (hp : u.Hosts site.start p) (source : Path) :
    Safe (u.At site) AnyFault (do
      Task.copy source p
      Task.change fun start tree =>
        (tree.makeExecutable start p).mapError (.notCopied source p)) := by
  unfold Task.copy
  rw [bind_assoc]
  refine (safe_makeParent hp.1).bind fun _ w hw => ⟨?_, fun _ _ => trivial⟩
  rw [run_bind, Task.run_change]
  cases hcopy : w.tree.copy w.start source p with
  | error fault => exact hw
  | ok tree =>
    rw [hw.start] at hcopy
    obtain ⟨tree', hmake, htree'⟩ := holds_copy_makeExecutable hw.tree hp.2 hcopy
    simp only [Except.mapError]
    rw [Task.run_change]
    simp only [hw.start, hmake]
    exact ⟨rfl, hw.root, hw.scratch, htree'⟩

theorem isPlain_copyName (p : Path) : Path.IsPlain (p.name?.getD "resource") := by
  cases hp : p.name? with
  | none => exact ⟨by decide, by decide, by decide⟩
  | some name => exact Path.isPlain_name? hp

/-- The private copy of a runtime file, once its number has been taken. -/
theorem safe_keepCopy {p : Path} (hp : u.Hosts site.start p) (source : Path) (k logical : String)
    (held : List (String × Path)) :
    Safe (u.At site) (u.Misses site logical) (do
      Task.explain (.notMaterialized k) do
        Task.copy source p
        Task.change fun start tree =>
          (tree.makeExecutable start p).mapError (.notCopied source p)
      modify fun w => { w with resources := { w.resources with held := (k, p) :: held } }
      return p : Task ResourceError Path) := by
  refine ((safe_copyTo hp source).adapt fun e _ => ?_).bind fun _ => ?_
  · rintro k p ⟨⟩
  · refine (safe_of_same (fun _ => ⟨rfl, rfl, rfl, rfl⟩) ?_).bind fun _ => safe_pure _
    rintro w _ e ⟨⟩

/-- Of the private copies only the next one may be made. -/
theorem at_get {w : Workspace} (hw : u.At site w) (hroom : ∀ name, Path.IsPlain name →
      u.Hosts site.start ((site.scratch.join (toString w.resources.copies)).join name))
    (logical : String) : u.At site ((Resources.get logical).run w).2 ∧
      ∀ e, ((Resources.get logical).run w).1 = .error e → u.Misses site logical e := by
  unfold Resources.get
  rw [run_bind, Task.run_get]
  simp only
  split
  · exact safe_pure _ w hw
  · split
    · rename_i hmissing
      refine ⟨hw, ?_⟩
      rintro _ ⟨⟩ k p ⟨⟩
      refine ⟨rfl, w.tree, hw.tree, ?_⟩
      unfold Resources.source at hmissing
      rw [Resources.key_key, hw.start, hw.root, Bool.not_eq_true'] at hmissing
      exact hmissing
    · rw [run_bind, Task.run_set]
      simp only
      have hcopy := safe_keepCopy (hroom _ (isPlain_copyName
        (w.resources.source (Resources.key logical))))
        (w.resources.source (Resources.key logical)) (Resources.key logical) logical
        w.resources.held
        { w with resources := { w.resources with copies := w.resources.copies + 1 } }
        ⟨hw.start, hw.root, hw.scratch, hw.tree⟩
      rw [← hw.scratch] at hcopy
      exact hcopy

theorem safe_get_resource (hu : u.Stocks site) (logical : String) :
    Safe (u.At site) (u.Misses site logical) (Resources.get logical) :=
  fun _ hw => at_get hw (hu _) logical

/-- The text of a runtime file in some tree with the property. -/
def Tells (u : Upkeep) (site : Site) (logical text : String) : Prop :=
  ∃ t, u.Holds t ∧ t.readText site.start (site.root.join (Resources.key logical)) = .ok text

theorem run_readText (logical : String) (w : Workspace) : (Resources.readText logical).run w =
    ((w.tree.readText w.start (w.resources.source logical)).mapError fun _ =>
      .notFound (Resources.key logical) (w.resources.source logical), w) := by
  unfold Resources.readText
  rw [run_bind, Task.run_get]
  simp only
  cases w.tree.readText w.start (w.resources.source logical) <;> rfl

theorem At.tells {w : Workspace} (hw : u.At site w) {logical text : String}
    (h : ((Resources.readText logical).run w).1 = .ok text) : u.Tells site logical text := by
  rw [run_readText] at h
  refine ⟨w.tree, hw.tree, ?_⟩
  have htext := Task.mapError_eq_ok.1 h
  unfold Resources.source at htext
  rwa [hw.start, hw.root] at htext

end Upkeep

end ApkForge
