-- What an operation on files leaves alone. None of the operations that add to a tree takes a
-- directory away, so a path that could be walked before can be walked after; and each changes the
-- file of one path at most.
import ApkForge.Proofs.Places
import ApkForge.Workspace

namespace ApkForge

namespace FileTree

/-! ## Frames -/

/-- The content of the file at a place, and whether it is executable. -/
def file? (t : FileTree) (place : Place) : Option (Bytes × Bool) :=
  match t.at? place with
  | some (.file content executable) => some (content, executable)
  | _ => none

/-- `t'` differs from `t` in no file outside `S`, and has all the directories of `t`. -/
structure Writes (S : Place → Prop) (t t' : FileTree) : Prop where
  files : ∀ place, ¬ S place → t'.file? place = t.file? place
  dirs : ∀ place, t.at? place = some .dir → t'.at? place = some .dir

variable {S S' : Place → Prop} {t t' t'' : FileTree}

theorem writes_refl (S : Place → Prop) (t : FileTree) : Writes S t t :=
  ⟨fun _ _ => rfl, fun _ h => h⟩

theorem Writes.trans (h : Writes S t t') (h' : Writes S t' t'') : Writes S t t'' :=
  ⟨fun place hs => (h'.files place hs).trans (h.files place hs),
    fun place hd => h'.dirs place (h.dirs place hd)⟩

theorem Writes.mono (h : Writes S t t') (himp : ∀ place, S place → S' place) : Writes S' t t' :=
  ⟨fun place hs => h.files place fun hin => hs (himp place hin), h.dirs⟩

/-- A file that changed is one that was written. -/
theorem Writes.of_changed (h : Writes S t t') {place : Place}
    (hne : t'.file? place ≠ t.file? place) : S place :=
  Classical.byContradiction fun hs => hne (h.files place hs)

/-- Something that is no directory put where there is none. -/
theorem writes_put {place : Place} (h : t.at? place ≠ some .dir) (entry : Entry) :
    Writes (fun p => p = place) t (t.put place entry) := by
  refine ⟨fun p hp => ?_, fun p hd => ?_⟩
  · unfold file?
    rw [at?_put_of_ne t hp]
  · by_cases hp : p = place
    · subst hp
      exact absurd hd h
    · rw [at?_put_of_ne t hp]
      exact hd

/-- A new directory is no file. -/
theorem writes_put_dir {place : Place} (h : t.at? place = none) :
    Writes (fun _ => False) t (t.put place .dir) := by
  have hframe : Writes (fun p => p = place) t (t.put place .dir) := writes_put (by simp [h]) .dir
  refine ⟨fun p _ => ?_, hframe.dirs⟩
  by_cases hp : p = place
  · subst hp
    have hne : p ≠ [] := by
      rintro rfl
      cases h
    unfold file?
    rw [at?_put_self t hne, h]
  · exact hframe.files p hp

/-! ## Walks among directories that stay -/

theorem step_of_dirs (h : ∀ place, t.at? place = some .dir → t'.at? place = some .dir)
    {place place' : Place} {segment : String} (hs : t.step place segment = .ok place') :
    t'.step place segment = .ok place' := by
  have hstand : ∀ place u, t.stand place = .ok u → t'.stand place = .ok u := by
    intro place u hp
    unfold stand at hp ⊢
    split at hp
    · rename_i hd
      rw [h place hd]
    · cases hp
    · cases hp
  unfold step at hs ⊢
  split
  · rename_i he
    rwa [if_pos he] at hs
  · rename_i he
    rw [if_neg he, bind_eq_ok] at hs
    obtain ⟨u, hst, hs⟩ := hs
    exact bind_eq_ok.2 ⟨u, hstand place u hst, hs⟩

theorem foldlM_step_of_dirs (h : ∀ place, t.at? place = some .dir → t'.at? place = some .dir)
    {segments : List String} {place place' : Place}
    (hs : segments.foldlM t.step place = .ok place') :
    segments.foldlM t'.step place = .ok place' := by
  induction segments generalizing place with
  | nil => exact hs
  | cons s rest ih =>
    rw [List.foldlM_cons, bind_eq_ok] at hs ⊢
    obtain ⟨next, hst, hs⟩ := hs
    exact ⟨next, step_of_dirs h hst, ih hs⟩

/-- A path that could be walked leads where it led. -/
theorem walk_of_dirs (h : ∀ place, t.at? place = some .dir → t'.at? place = some .dir)
    {start : Place} {p : Path} {a : Arrival} (hw : t.walk start p = .ok a) :
    t'.walk start p = .ok a := by
  obtain ⟨hwalkable, hfold, hlast⟩ := walk_eq_ok.1 hw
  exact walk_eq_ok.2 ⟨hwalkable, foldlM_step_of_dirs h hfold, hlast⟩

/-! ## What a path names -/

theorem stat_eq_ok {start : Place} {p : Path} {place : Place} {entry : Entry} :
    t.stat start p = .ok (place, entry) ↔ ∃ a, t.walk start p = .ok a ∧ a.place = place ∧
      t.at? place = some entry ∧ (entry = .dir ∨ a.wantsDir = false) := by
  unfold stat
  rw [bind_eq_ok]
  refine exists_congr fun a => and_congr_right fun _ => ?_
  obtain ⟨there, wantsDir⟩ := a
  constructor
  · intro h
    split at h
    · cases h
    · rename_i hat
      cases h
      exact ⟨rfl, hat, Or.inl rfl⟩
    · rename_i entry' hne hat
      split at h
      · cases h
      · rename_i hw
        cases h
        exact ⟨rfl, hat, Or.inr (by simpa using hw)⟩
  · rintro ⟨rfl, hat, h⟩
    simp only at hat h ⊢
    rw [hat]
    rcases h with rfl | rfl
    · rfl
    · cases entry <;> rfl

theorem isFile_iff {start : Place} {p : Path} : t.isFile start p = true ↔
    ∃ place content executable, t.stat start p = .ok (place, .file content executable) := by
  unfold isFile
  constructor
  · intro h
    split at h
    · rename_i place content executable hs
      exact ⟨place, content, executable, hs⟩
    · cases h
  · rintro ⟨place, content, executable, hs⟩
    rw [hs]

theorem read_of_stat {start : Place} {p : Path} {place : Place} {content : Bytes}
    {executable : Bool} (h : t.stat start p = .ok (place, .file content executable)) :
    t.read start p = .ok content := by
  unfold read
  rw [h]
  rfl

/-- A file that was not written is found as it was. -/
theorem Writes.stat_file (h : Writes S t t') {start : Place} {p : Path} {place : Place}
    {content : Bytes} {executable : Bool}
    (hstat : t.stat start p = .ok (place, .file content executable)) (hs : ¬ S place) :
    t'.stat start p = .ok (place, .file content executable) := by
  obtain ⟨a, hw, hplace, hat, hwants⟩ := stat_eq_ok.1 hstat
  refine stat_eq_ok.2 ⟨a, walk_of_dirs h.dirs hw, hplace, ?_, hwants⟩
  have hfile := h.files place hs
  simp only [file?, hat] at hfile
  split at hfile
  · rename_i content' executable' hat'
    cases hfile
    exact hat'
  · cases hfile

/-! ## Operations that add to a tree -/

theorem writable_eq_ok {start : Place} {p : Path} {place : Place} {entry : Entry}
    (h : t.writable start p = .ok (place, entry)) : ∃ a, t.walk start p = .ok a ∧
      a.place = place ∧ a.wantsDir = false ∧ entry ≠ .dir ∧
      (t.at? place = some entry ∨ t.at? place = none ∧ entry = .file [] false) := by
  unfold writable at h
  rw [bind_eq_ok] at h
  obtain ⟨⟨there, wantsDir⟩, hw, h⟩ := h
  refine ⟨_, hw, ?_⟩
  cases wantsDir with
  | true =>
    simp only [if_true] at h
    split at h
    · cases h
    · cases h
    · rw [bind_eq_ok] at h
      obtain ⟨_, -, h⟩ := h
      cases h
  | false =>
    simp only [Bool.false_eq_true, if_false] at h
    split at h
    · cases h
    · rename_i entry' hne hat
      cases h
      exact ⟨rfl, rfl, hne, Or.inl hat⟩
    · rename_i hat
      rw [bind_eq_ok] at h
      obtain ⟨_, -, h⟩ := h
      cases h
      exact ⟨rfl, rfl, by simp, Or.inr ⟨hat, rfl⟩⟩

/-- What is written to a path goes to the place that its text tells, and the path ends in a name. -/
def Target (start : Place) (p : Path) (place : Place) : Prop :=
  place = p.place start ∧ p.EndsInName

theorem target_of_writable {start : Place} {p : Path} {place : Place} {entry : Entry}
    (h : t.writable start p = .ok (place, entry)) :
    Target start p place ∧ t.at? place ≠ some .dir := by
  obtain ⟨a, hw, hplace, hfile, hne, hat⟩ := writable_eq_ok h
  refine ⟨⟨?_, walk_endsInName hw hfile⟩, ?_⟩
  · rw [← hplace, walk_place hw]
  · rcases hat with hat | ⟨hat, -⟩
    · rw [hat]
      simpa using hne
    · simp [hat]

theorem writes_makeDir {start : Place} {p : Path} (h : t.makeDir start p = .ok t') :
    Writes (fun _ => False) t t' := by
  unfold makeDir at h
  rw [bind_eq_ok] at h
  obtain ⟨a, -, h⟩ := h
  split at h
  · cases h
  · rename_i hat
    rw [bind_eq_ok] at h
    obtain ⟨_, -, h⟩ := h
    cases h
    exact writes_put_dir hat

/-- Making directories writes no file, whether it succeeds or not. -/
theorem writes_makeDirsIn (start : Place) (fuel : Nat) (t : FileTree) (p : Path) :
    Writes (fun _ => False) t (makeDirsIn start fuel t p).2 := by
  induction fuel generalizing t p with
  | zero => exact writes_refl _ t
  | succ fuel ih =>
    unfold makeDirsIn
    split
    · exact writes_refl _ t
    · simp only
      split
      · rename_i t' hmade
        exact writes_makeDir hmade
      · split
        · exact writes_refl _ t
        · rename_i above _
          have habove := ih t above
          split
          · -- with all above it there, the directory is tried once more
            rename_i t' hmade
            rw [hmade] at habove
            refine habove.trans ?_
            split
            · rename_i t'' hagain
              exact writes_makeDir hagain
            · split
              · exact writes_refl _ t'
              · exact writes_refl _ t'
          · rename_i fault t' hmade
            rw [hmade] at habove
            exact habove
      · split
        · exact writes_refl _ t
        · exact writes_refl _ t

theorem writes_makeDirs (t : FileTree) (start : Place) (p : Path) :
    Writes (fun _ => False) t (t.makeDirs start p).2 :=
  writes_makeDirsIn start _ t p

theorem writes_write {start : Place} {p : Path} {content : Bytes}
    (h : t.write start p content = .ok t') : Writes (Target start p) t t' := by
  unfold write at h
  rw [bind_eq_ok] at h
  obtain ⟨⟨place, entry⟩, hwritable, h⟩ := h
  cases h
  obtain ⟨htarget, hne⟩ := target_of_writable hwritable
  refine (writes_put hne _).mono ?_
  rintro _ rfl
  exact htarget

theorem writes_copy {start : Place} {source target : Path}
    (h : t.copy start source target = .ok t') : Writes (Target start target) t t' := by
  unfold copy at h
  rw [bind_eq_ok] at h
  obtain ⟨⟨origin, entry⟩, -, h⟩ := h
  split at h
  · rw [bind_eq_ok] at h
    obtain ⟨⟨place, entry⟩, hwritable, h⟩ := h
    obtain ⟨htarget, hne⟩ := target_of_writable hwritable
    split at h
    · rename_i hentry
      cases hentry
      cases h
      refine (writes_put hne _).mono ?_
      rintro _ rfl
      exact htarget
    · cases h
      exact writes_refl _ t
  · cases h

theorem writes_makeExecutable {start : Place} {p : Path}
    (h : t.makeExecutable start p = .ok t') : Writes (Target start p) t t' := by
  unfold makeExecutable at h
  rw [bind_eq_ok] at h
  obtain ⟨⟨place, entry⟩, hstat, h⟩ := h
  obtain ⟨a, hw, hplace, hat, hwants⟩ := stat_eq_ok.1 hstat
  split at h
  · rename_i hentry
    cases hentry
    cases h
    refine (writes_put (by simp [hat]) _).mono ?_
    rintro _ rfl
    refine ⟨by rw [← hplace, walk_place hw], walk_endsInName hw ?_⟩
    simpa using hwants
  · cases h
    exact writes_refl _ t

end FileTree

end ApkForge
